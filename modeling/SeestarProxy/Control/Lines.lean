import SeestarProxy.Control.Provenance
import SeestarProxy.Library.Ledger

/-
  Where the line of a request or a heartbeat is.

  The line that is forwarded under a drawn id is with the
  task that drew the id, in the upstream queue, in the hand
  of the upstream task, or it was written or lost. The
  ledger `lines` follows it; `linesKept_of_run` says that
  every run keeps the ledger, so no line is written twice.

  Main declarations:
    * `LinePlace`, `lineSeqs` and `lines`
    * `ProxyStep.lines` and `linesKept_of_run`
-/

------------------------------------------------------------
-- Places of a Line
------------------------------------------------------------

namespace SeestarProxy

namespace Control

open Library Protocol

/- The id draw that a message carries the id of. -/
def Message.seq? (m : Message) : Option Nat :=
  match m.origin with
  | .request _ seq => some seq
  | .heartbeat seq => some seq
  | .notification _ => none
  | .hook => none

/- Where the line of a drawn id can be. -/
inductive LinePlace where
| handler (client : ClientId)
| heartbeat
| queue
| upstream
| written (conn : ConnId)
| lost
deriving DecidableEq, Repr

/- The line that a handler is about to queue. -/
def Handler.line? : Handler → Option Nat
| .registering seq _ _ _ _ => some seq
| .queueing seq _ _ _ => some seq
| _ => none

/- A handler with nothing to forward holds no line. -/
theorem Handler.line?_of_isIdle
    {handler : Handler}
    (hIdle : handler.IsIdle) :
    handler.line? = none := by
  cases handler <;> first
    | rfl
    | cases hIdle

/- The line that the heartbeat task is about to queue. -/
def Heartbeat.line? : Heartbeat → Option Nat
| .sending m => m.seq?
| _ => none

/- The line that the upstream task is writing. -/
def Upstream.line? : Upstream → Option Nat
| .writing _ m => m.seq?
| _ => none

/- The lines that wait in an upstream channel. -/
def lineSeqs (channel : Channel Message 256) : List Nat :=
  channel.queue.filterMap Message.seq?

/- The state holds the line of the draw at the place. -/
def LineHeld (s : State) (seq : Nat) : LinePlace → Prop
| .handler c => (s.handler c).line? = some seq
| .heartbeat => s.heartbeat.line? = some seq
| .queue => seq ∈ lineSeqs s.upstreamTx
| .upstream => s.upstream.line? = some seq
| .written _ => False
| .lost => False

/- The place that an observation moves a line to. -/
def lineMove : Obs → Option (Nat × LinePlace)
| .request c _ _ _ _ seq _ => some (seq, .handler c)
| .heartbeat seq => some (seq, .heartbeat)
| .queued m => m.seq?.map fun seq => (seq, .queue)
| .taken m => m.seq?.map fun seq => (seq, .upstream)
| .written conn m =>
    m.seq?.map fun seq => (seq, .written conn)
| .lost m => m.seq?.map fun seq => (seq, .lost)
| _ => none

/- The ledger of lines; written and lost lines stay so. -/
def lines : Ledger State Obs Nat LinePlace where
  assign := lineMove
  held := LineHeld
  issued := fun s seq => seq < s.allocated
  isCounted
  | .written _ | .lost => true
  | _ => false
  not_counted := by
    intro s seq place hHeld
    cases place with
    | written conn => cases hHeld
    | lost => cases hHeld
    | _ => rfl

------------------------------------------------------------
-- Steps that Move No Line
------------------------------------------------------------

/- Every line that is held after a step was held before. -/
structure LinesStay (s s' : State) : Prop where
  handler : ∀ c seq, (s'.handler c).line? = some seq →
      (s.handler c).line? = some seq := by
    exact fun _ _ hHeld => hHeld
  heartbeat : ∀ seq, s'.heartbeat.line? = some seq →
      s.heartbeat.line? = some seq := by
    exact fun _ hHeld => hHeld
  queue : ∀ seq, seq ∈ lineSeqs s'.upstreamTx →
      seq ∈ lineSeqs s.upstreamTx := by
    exact fun _ hHeld => hHeld
  upstream : ∀ seq, s'.upstream.line? = some seq →
      s.upstream.line? = some seq := by
    exact fun _ hHeld => hHeld

variable {env : Env} {h o : List Obs} {s s' : State}

theorem LinesStay.step
    (hStay : LinesStay s s')
    (hMoves : lines.moves o = []) :
    lines.Step o s s' := by
  refine .stay hMoves ?_
  intro seq place hHeld
  cases place with
  | handler c => exact hStay.handler c seq hHeld
  | heartbeat => exact hStay.heartbeat seq hHeld
  | queue => exact hStay.queue seq hHeld
  | upstream => exact hStay.upstream seq hHeld
  | written conn => exact hHeld
  | lost => exact hHeld

/- A handler that takes up no line leaves all lines alone. -/
theorem LinesStay.ofHandler
    {c : ClientId}
    {next : Handler}
    (hNext : ∀ seq, next.line? = some seq →
      (s.handler c).line? = some seq)
    (c' : ClientId)
    (seq : Nat)
    (hHeld :
      (Function.update s.handler c next c').line? =
        some seq) :
    (s.handler c').line? = some seq :=
  of_update (fun _ (x : Handler) => x.line? = some seq)
    (hNext seq) c' hHeld

/- A handler that holds no line is not in its way. -/
theorem LinesStay.ofNoLine
    {c : ClientId}
    {next : Handler}
    (hNext : next.line? = none)
    (c' : ClientId)
    (seq : Nat)
    (hHeld :
      (Function.update s.handler c next c').line? =
        some seq) :
    (s.handler c').line? = some seq := by
  refine LinesStay.ofHandler ?_ c' seq hHeld
  intro seq' hLine
  rw [hNext] at hLine
  cases hLine

/- The lines in the queue after a send. -/
theorem lineSeqs_of_sent
    {m : Message}
    {channel next : Channel Message 256}
    (hSend : channel.trySend m = .sent next) :
    lineSeqs next = lineSeqs channel ++ m.seq?.toList := by
  rw [lineSeqs, (Channel.trySend_sent_iff.mp hSend).2.1,
    List.filterMap_append]
  cases hSeq : m.seq? with
  | none => simp [hSeq, lineSeqs]
  | some seq => simp [hSeq, lineSeqs]

/- The lines in the queue before a receive. -/
theorem lineSeqs_of_recv
    {m : Message}
    {channel next : Channel Message 256}
    (hRecv : channel.recv = some (m, next)) :
    lineSeqs channel = m.seq?.toList ++ lineSeqs next := by
  rw [lineSeqs, (Channel.recv_some_iff.mp hRecv).1]
  cases hSeq : m.seq? with
  | none => simp [hSeq, lineSeqs]
  | some seq => simp [hSeq, lineSeqs]

/- Sending a message without a line adds no line. -/
theorem lineSeqs_of_sent_none
    {m : Message}
    {channel next : Channel Message 256}
    (hSend : channel.trySend m = .sent next)
    (hNoLine : m.seq? = none)
    (seq : Nat)
    (hMem : seq ∈ lineSeqs next) :
    seq ∈ lineSeqs channel := by
  simpa [lineSeqs_of_sent hSend, hNoLine] using hMem

/- Sending a message with a line adds that line only. -/
theorem lineSeqs_of_sent_some
    {m : Message}
    {channel next : Channel Message 256}
    {seq seq' : Nat}
    (hSend : channel.trySend m = .sent next)
    (hLine : m.seq? = some seq)
    (hMem : seq' ∈ lineSeqs next) :
    seq' = seq ∨ seq' ∈ lineSeqs channel := by
  rw [lineSeqs_of_sent hSend, hLine] at hMem
  simpa [or_comm] using hMem

------------------------------------------------------------
-- Steps of the Tasks
------------------------------------------------------------

/- A handler issues a line, or moves its line to the queue. -/
theorem HandlerStep.lines
    {c : ClientId}
    {event : HandlerEvent}
    (hStep : HandlerStep env s c event s' o) :
    lines.Step o s s' := by
  cases hStep with
  | idle hRunning hBefore hAfter hEvent =>
      refine LinesStay.step { handler := ?_ } rfl
      apply LinesStay.ofNoLine
      exact Handler.line?_of_isIdle hAfter
  | parsed hAt =>
      exact LinesStay.step
        { handler := LinesStay.ofNoLine rfl } rfl
  | notifying hAt hId =>
      exact LinesStay.step
        { handler := LinesStay.ofNoLine rfl } rfl
  | @allocated action trimmed sent msg originalId next
      hAt hHook hId hNext =>
      refine .issue (Nat.lt_irrefl _) (Nat.lt_succ_self _)
        rfl ?_
      intro seq place hHeld
      cases place with
      | handler c' =>
          by_cases hClient : c' = c
          · subst hClient
            have hLine : next.line? = some seq := by
              simpa [lines, LineHeld] using hHeld
            rcases hNext with rfl | ⟨forwarded, -, rfl⟩
            · cases hLine
            · cases hLine
              exact Or.inl ⟨rfl, rfl⟩
          · refine Or.inr ?_
            simpa [lines, LineHeld, hClient] using hHeld
      | _ => exact Or.inr hHeld
  | hookReplied hAt hSend =>
      exact LinesStay.step
        { handler := LinesStay.ofNoLine rfl } rfl
  | registered hAt hLock hRoom =>
      refine LinesStay.step
        { handler := LinesStay.ofHandler ?_ } rfl
      intro seq hLine
      rw [hAt]
      exact hLine
  | refusedSent hAt hLock hFull hSend =>
      exact LinesStay.step
        { handler := LinesStay.ofNoLine rfl } rfl
  | refusedClosed hAt hLock hFull hClosed =>
      exact LinesStay.step
        { handler := LinesStay.ofNoLine rfl } rfl
  | refusedBlocked hAt hLock hFull hBlocks =>
      exact LinesStay.step
        { handler := LinesStay.ofNoLine rfl } rfl
  | refusalSent hAt hSend =>
      exact LinesStay.step
        { handler := LinesStay.ofNoLine rfl } rfl
  | refusalClosed hAt hClosed =>
      exact LinesStay.step
        { handler := LinesStay.ofNoLine rfl } rfl
  | @requestQueued seq id msg forwarded channel hAt hSend =>
      have hFrom : Control.lines.held s seq (.handler c) := by
        change (s.handler c).line? = some seq
        rw [hAt]
        rfl
      refine .move hFrom rfl ?_
      intro seq' place hHeld
      cases place with
      | handler c' =>
          refine Or.inr ⟨LinesStay.ofNoLine rfl c' seq' hHeld,
            ?_⟩
          intro hPlace
          cases hPlace
          simp [lines, LineHeld, Handler.line?] at hHeld
      | queue =>
          rcases lineSeqs_of_sent_some hSend rfl hHeld with
            rfl | hOld
          · exact Or.inl ⟨rfl, rfl⟩
          · exact Or.inr ⟨hOld, by simp⟩
      | _ => exact Or.inr ⟨hHeld, by simp⟩
  | requestFailed hAt hClosed =>
      exact LinesStay.step
        { handler := LinesStay.ofNoLine rfl } rfl
  | notificationQueued hAt hSend =>
      exact LinesStay.step
        { handler := LinesStay.ofNoLine rfl
          queue := lineSeqs_of_sent_none hSend rfl } rfl
  | unregistered hAt hLock =>
      exact LinesStay.step
        { handler := LinesStay.ofNoLine rfl } rfl

/- A heartbeat issues its line and queues it. -/
theorem HeartbeatStep.lines
    {event : HeartbeatEvent}
    (hStep : HeartbeatStep s event s' o) :
    lines.Step o s s' := by
  cases hStep with
  | slept hAt => exact LinesStay.step { } rfl
  | checked hAt hDone =>
      exact LinesStay.step { heartbeat := fun _ hHeld => by cases hHeld } rfl
  | allocated hAt =>
      refine .issue (Nat.lt_irrefl _) (Nat.lt_succ_self _)
        rfl ?_
      intro seq place hHeld
      cases place with
      | heartbeat =>
          cases hHeld
          exact Or.inl ⟨rfl, rfl⟩
      | _ => exact Or.inr hHeld
  | @queued message channel hAt hSend =>
      cases hLine : message.seq? with
      | none =>
          refine LinesStay.step
            { heartbeat := fun _ hHeld => by cases hHeld
              queue := lineSeqs_of_sent_none hSend hLine } ?_
          simp [Ledger.moves, Control.lines, lineMove, hLine]
      | some seq =>
          have hFrom :
              Control.lines.held s seq .heartbeat := by
            change s.heartbeat.line? = some seq
            rw [hAt]
            exact hLine
          have hMoves :
              Control.lines.moves [.queued message] =
                [(seq, .queue)] := by
            simp [Ledger.moves, Control.lines, lineMove,
              hLine]
          refine .move hFrom hMoves ?_
          intro seq' place hHeld
          cases place with
          | heartbeat => cases hHeld
          | queue =>
              rcases lineSeqs_of_sent_some hSend hLine hHeld
                with rfl | hOld
              · exact Or.inl ⟨rfl, rfl⟩
              · exact Or.inr ⟨hOld, by simp⟩
          | _ => exact Or.inr ⟨hHeld, by simp⟩
  | ended hAt =>
      exact LinesStay.step { heartbeat := fun _ hHeld => by cases hHeld } rfl

/- The line in the upstream task's hand leaves it. -/
private theorem upstream_lets_go
    {conn : ConnId}
    {message : Message}
    {place : LinePlace}
    {x : Obs}
    (hAt : s.upstream = .writing conn message)
    (hMove : lineMove x =
      message.seq?.map fun seq => (seq, place))
    (hAfter : s'.upstream.line? = none)
    (hHeld : ∀ seq place, place ≠ .upstream →
      LineHeld s' seq place → LineHeld s seq place) :
    lines.Step [x] s s' := by
  cases hLine : message.seq? with
  | none =>
      refine .stay ?_ ?_
      · simp [Ledger.moves, lines, hMove, hLine]
      · intro seq place' hNow
        by_cases hPlace : place' = .upstream
        · subst hPlace
          have hNone : s'.upstream.line? = some seq := hNow
          rw [hAfter] at hNone
          cases hNone
        · exact hHeld seq place' hPlace hNow
  | some seq =>
      have hFrom : lines.held s seq .upstream := by
        change s.upstream.line? = some seq
        rw [hAt]
        exact hLine
      have hMoves : lines.moves [x] = [(seq, place)] := by
        simp [Ledger.moves, lines, hMove, hLine]
      refine .move hFrom hMoves ?_
      intro seq' place' hNow
      by_cases hPlace : place' = .upstream
      · subst hPlace
        have hNone : s'.upstream.line? = some seq' := hNow
        rw [hAfter] at hNone
        cases hNone
      · exact Or.inr ⟨hHeld seq' place' hPlace hNow,
          fun hSame => absurd hSame hPlace⟩

/- The upstream task takes lines from the queue in order. -/
theorem UpstreamStep.lines
    {event : UpstreamEvent}
    (hNodup : (lineSeqs s.upstreamTx).Nodup)
    (hStep : UpstreamStep env s event s' o) :
    lines.Step o s s' := by
  cases hStep with
  | started hAt =>
      exact LinesStay.step
        { heartbeat := fun _ hHeld => by cases hHeld
          upstream := fun _ hHeld => by cases hHeld } rfl
  | connected hAt =>
      exact LinesStay.step { upstream := fun _ hHeld => by cases hHeld } rfl
  | reset hAt =>
      exact LinesStay.step { upstream := fun _ hHeld => by cases hHeld } rfl
  | locked hAt hLock =>
      exact LinesStay.step { upstream := fun _ hHeld => by cases hHeld } rfl
  | drainSent hAt hEntry hSend =>
      exact LinesStay.step { } rfl
  | drainLost hAt hEntry hRefused =>
      exact LinesStay.step { } rfl
  | unlocked hAt hEmpty =>
      exact LinesStay.step { upstream := fun _ hHeld => by cases hHeld } rfl
  | spawned hAt =>
      exact LinesStay.step { upstream := fun _ hHeld => by cases hHeld } rfl
  | @took conn message channel hAt hRecv =>
      have hQueue := lineSeqs_of_recv hRecv
      cases hLine : message.seq? with
      | none =>
          rw [hLine] at hQueue
          refine LinesStay.step
            { queue := fun seq hMem => by simpa [hQueue]
              upstream := fun seq hHand => ?_ } ?_
          · have hNone : message.seq? = some seq := hHand
            rw [hLine] at hNone
            cases hNone
          · simp [Ledger.moves, Control.lines, lineMove,
              hLine]
      | some seq =>
          rw [hLine] at hQueue
          have hFrom : Control.lines.held s seq .queue := by
            change seq ∈ lineSeqs s.upstreamTx
            simp [hQueue]
          have hMoves :
              Control.lines.moves [.taken message] =
                [(seq, .upstream)] := by
            simp [Ledger.moves, Control.lines, lineMove,
              hLine]
          refine .move hFrom hMoves ?_
          intro seq' place hHeld
          cases place with
          | queue =>
              have hRest : seq' ∈ lineSeqs channel := hHeld
              have hBefore :
                  Control.lines.held s seq' .queue := by
                change seq' ∈ lineSeqs s.upstreamTx
                simp [hQueue, hRest]
              refine Or.inr ⟨hBefore, ?_⟩
              intro _ hSame
              subst hSame
              simp [hQueue, hRest] at hNodup
          | upstream =>
              have hHand : message.seq? = some seq' := hHeld
              rw [hLine] at hHand
              cases hHand
              exact Or.inl ⟨rfl, rfl⟩
          | _ => exact Or.inr ⟨hHeld, by simp⟩
  | stopped hAt =>
      exact LinesStay.step
        { queue := fun _ hHeld => by cases hHeld
          upstream := fun _ hHeld => by cases hHeld } rfl
  | wrote hAt =>
      refine upstream_lets_go hAt rfl rfl ?_
      intro seq place hPlace hHeld
      cases place with
      | upstream => exact absurd rfl hPlace
      | _ => exact hHeld
  | lost hAt =>
      refine upstream_lets_go hAt rfl rfl ?_
      intro seq place hPlace hHeld
      cases place with
      | upstream => exact absurd rfl hPlace
      | _ => exact hHeld
  | readerDead hAt hOver =>
      exact LinesStay.step { upstream := fun _ hHeld => by cases hHeld } rfl

/- Every step of the proxy keeps the lines in order. -/
theorem ProxyStep.lines
    {e : Event}
    (hNodup : (lineSeqs s.upstreamTx).Nodup)
    (hStep : ProxyStep env s e s' o) :
    lines.Step o s s' := by
  cases hStep with
  | notified => exact LinesStay.step { } rfl
  | accepted =>
      exact LinesStay.step
        { handler := LinesStay.ofNoLine rfl } rfl
  | client hTask => exact hTask.lines
  | writer hTask =>
      cases hTask <;> exact LinesStay.step { } rfl
  | heartbeat hTask => exact hTask.lines
  | upstream hTask => exact hTask.lines hNodup
  | reader hTask =>
      cases hTask <;> exact LinesStay.step { } rfl
  | hookSent hSend =>
      exact LinesStay.step
        { queue := lineSeqs_of_sent_none hSend rfl } rfl
  | hookIgnored => exact LinesStay.step { } rfl

------------------------------------------------------------
-- Runs
------------------------------------------------------------

/- Lines are where the history puts them, none twice. -/
structure LinesKept (h : List Obs) (s : State) : Prop where
  kept : lines.Kept h s
  nodup : (lineSeqs s.upstreamTx).Nodup

/- A line that is sent was not in the queue before. -/
private theorem nodup_of_sent
    {m : Message}
    {channel : Channel Message 256}
    (hSend : s.upstreamTx.trySend m = .sent channel)
    (hNodup : (lineSeqs s.upstreamTx).Nodup)
    (hNew : ∀ seq, m.seq? = some seq →
      seq ∉ lineSeqs s.upstreamTx) :
    (lineSeqs channel).Nodup := by
  rw [lineSeqs_of_sent hSend]
  cases hLine : m.seq? with
  | none => simpa using hNodup
  | some seq =>
      rw [Option.toList_some, List.nodup_append]
      refine ⟨hNodup, by simp, ?_⟩
      intro seq' hOld seq'' hSent hSame
      rw [List.mem_singleton] at hSent
      subst hSent
      subst hSame
      exact hNew seq' hLine hOld

/- A line held elsewhere is not in the queue. -/
private theorem not_queued_of_held
    (hKept : lines.Kept h s)
    {seq : Nat}
    {place : LinePlace}
    (hHeld : LineHeld s seq place)
    (hPlace : place ≠ .queue) :
    seq ∉ lineSeqs s.upstreamTx := by
  intro hMem
  have hQueued : lines.held s seq .queue := hMem
  have hElsewhere : lines.held s seq place := hHeld
  exact hPlace
    (hKept.tracks.unique hElsewhere hQueued)

/- No step puts a line in the queue twice. -/
theorem ProxyStep.nodup
    {e : Event}
    (hInv : LinesKept h s)
    (hStep : ProxyStep env s e s' o) :
    (lineSeqs s'.upstreamTx).Nodup := by
  cases hStep with
  | @client c event s' o hTask =>
      cases hTask with
      | @requestQueued seq id msg forwarded channel
          hAt hSend =>
          refine nodup_of_sent hSend hInv.nodup ?_
          intro seq' hLine
          cases hLine
          have hHeld : LineHeld s seq (.handler c) := by
            rw [LineHeld, hAt]
            rfl
          exact not_queued_of_held hInv.kept hHeld nofun
      | notificationQueued hAt hSend =>
          exact nodup_of_sent hSend hInv.nodup nofun
      | _ => exact hInv.nodup
  | writer hTask => cases hTask <;> exact hInv.nodup
  | heartbeat hTask =>
      cases hTask with
      | @queued message channel hAt hSend =>
          refine nodup_of_sent hSend hInv.nodup ?_
          intro seq hLine
          have hHeld : LineHeld s seq .heartbeat := by
            rw [LineHeld, hAt]
            exact hLine
          exact not_queued_of_held hInv.kept hHeld nofun
      | _ => exact hInv.nodup
  | upstream hTask =>
      cases hTask with
      | took hAt hRecv =>
          have hNodup := hInv.nodup
          rw [lineSeqs_of_recv hRecv] at hNodup
          exact (List.nodup_append.mp hNodup).2.1
      | stopped hAt => exact List.nodup_nil
      | _ => exact hInv.nodup
  | reader hTask => cases hTask <;> exact hInv.nodup
  | hookSent hSend =>
      exact nodup_of_sent hSend hInv.nodup nofun
  | _ => exact hInv.nodup

/- Ids are only ever added to those that were drawn. -/
theorem ProxyStep.allocated_le
    {e : Event}
    (hStep : ProxyStep env s e s' o) :
    s.allocated ≤ s'.allocated := by
  cases hStep with
  | client hTask =>
      cases hTask <;> first
        | exact Nat.le_refl _
        | exact Nat.le_succ _
  | writer hTask => cases hTask <;> exact Nat.le_refl _
  | heartbeat hTask =>
      cases hTask <;> first
        | exact Nat.le_refl _
        | exact Nat.le_succ _
  | upstream hTask => cases hTask <;> exact Nat.le_refl _
  | reader hTask => cases hTask <;> exact Nat.le_refl _
  | _ => exact Nat.le_refl _

theorem ProxyStep.linesKept
    {e : Event}
    (hInv : LinesKept h s)
    (hStep : ProxyStep env s e s' o) :
    LinesKept (h ++ o) s' where
  kept := hInv.kept.advance
    (fun _ hIssued =>
      Nat.lt_of_lt_of_le hIssued hStep.allocated_le)
    (hStep.lines hInv.nodup)
  nodup := hStep.nodup hInv

theorem linesKept_init :
    LinesKept [] State.init where
  kept :=
    { tracks := by
        intro seq place hHeld
        cases place with
        | queue => cases hHeld
        | _ => cases hHeld
      issued := nofun
      once := List.nodup_nil
      closed := nofun }
  nodup := List.nodup_nil

/- In every run each line is where the history puts it. -/
theorem linesKept_of_run
    {es : List Event}
    (hRun : (proxy env).Run es h s) :
    LinesKept h s :=
  Machine.run_invariant linesKept_init
    (fun _ _ _ _ _ hInv hStep =>
      (step_cases hStep).linesKept hInv)
    hRun

end Control

end SeestarProxy
