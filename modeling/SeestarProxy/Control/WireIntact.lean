import SeestarProxy.Control.Routing
import SeestarProxy.Control.Wire
import SeestarProxy.Library.Broadcast
import SeestarProxy.Library.Output

/-
  Whole lines on both sides of the control proxy.

  What is written to the telescope connections are the
  queued messages, in order and each at most once; what is
  written to a client is a merge of its response channel and
  of some of the events since it subscribed. Each message is
  one line, and only the last one of a connection can be cut
  off.

  Main declarations:
    * `proxy_run_of_wire`
    * `UpIntact`, `DownIntact`
    * `wire_intact`
-/

------------------------------------------------------------
-- Runs of the Proxy
------------------------------------------------------------

namespace SeestarProxy

namespace Control

open Library Protocol

variable {env : Env} {h o : List Obs} {s s' : State}
variable {w w' : Wire} {e : Event} {c : ClientId}

/- A run on the wire is a run of the proxy. -/
theorem proxy_run_of_wire
    {es : List WireEvent}
    (hPrints : env.serde.PrintsOneLine)
    (hRun : (wire env).Run es h w) :
    ∃ ts, (proxy env).Run ts h w.proxy ∧
      (proxy env).Meets RepliesUnbroken
        (proxy env).init ts := by
  refine Machine.run_induction
    (motive := fun _ h w =>
      ∃ ts, (proxy env).Run ts h w.proxy ∧
        (proxy env).Meets RepliesUnbroken
          (proxy env).init ts)
    ⟨[], Machine.run_nil_iff.mpr ⟨rfl, rfl⟩, trivial⟩
    ?_ hRun
  intro es h w e w' o _ hBefore hNext
  rcases hBefore with ⟨ts, hProxy, hMeets⟩
  have hSnoc {t : Event} {s' : State} {o : List Obs}
      (hStep : step env w.proxy t = some (s', o))
      (hReplies : RepliesUnbroken w.proxy t) :
      ∃ ts, (proxy env).Run ts (h ++ o) s' ∧
        (proxy env).Meets RepliesUnbroken
          (proxy env).init ts :=
    ⟨ts ++ [t],
      Machine.run_snoc_iff.mpr
        ⟨h, w.proxy, o, hProxy, hStep, rfl⟩,
      (Machine.meets_snoc_iff hProxy).mpr
        ⟨hMeets, hReplies⟩⟩
  cases wireStep_cases hPrints hNext with
  | arrived buf =>
      rw [List.append_nil]
      exact ⟨ts, hProxy, hMeets⟩
  | quiet buf hStep hReplies => exact hSnoc hStep hReplies
  | accepted hStep => exact hSnoc hStep trivial
  | wroteUp hAt hStep => exact hSnoc hStep trivial
  | failedUp written hAt hStep => exact hSnoc hStep trivial
  | wroteDown hAt hStep => exact hSnoc hStep trivial
  | cutDown written hAt hEvent hStep =>
      exact hSnoc hStep trivial

------------------------------------------------------------
-- To the Telescope
------------------------------------------------------------

/- The bytes of a message on its line. -/
def Message.bytes (message : Message) : List UInt8 :=
  lineBytes message.line

/- What the upstream task does on a connection. -/
def Upstream.phase
    (conn : ConnId) : Upstream → Output.Phase Message
| .selecting conn' => if conn' = conn then .idle else .ended
| .writing conn' message =>
    if conn' = conn then .writing message else .ended
| _ => .ended

/- The message was lost by a failed write. -/
def WriteFailed (h : List Obs) (message : Message) : Prop :=
  .lost message ∈ h

/-
  The messages of each connection are put out there; those
  of all connections and those in the queue were queued in
  this order.
-/
structure UpPut
    (h : List Obs)
    (w : Wire)
    (taken : ConnId → List Message) : Prop where
  fresh : ∀ conn, w.proxy.connections ≤ conn →
    taken conn = []
  put : ∀ conn, Output.Put Message.bytes (WriteFailed h)
    (taken conn) (w.up conn)
    (w.proxy.upstream.phase conn)
  order : List.Sublist
    ((List.range w.proxy.connections).flatMap taken ++
      w.proxy.upstreamTx.queue)
    (queuedMessages h)

/- What was lost stays lost. -/
private theorem put_later
    {taken : List Message}
    {out : List UInt8}
    {phase : Output.Phase Message}
    (o : List Obs)
    (hPut : Output.Put Message.bytes (WriteFailed h) taken
      out phase) :
    Output.Put Message.bytes (WriteFailed (h ++ o)) taken
      out phase :=
  hPut.mono fun _ hLost => List.mem_append_left o hLost

/- A step that only adds to the queue. -/
private theorem UpPut.of_same
    {taken : ConnId → List Message}
    (hPut : UpPut h w taken)
    (hUp : w'.up = w.up)
    (hConns : w'.proxy.connections = w.proxy.connections)
    (hPhase : ∀ conn, w'.proxy.upstream.phase conn =
      w.proxy.upstream.phase conn)
    (hQueue : w'.proxy.upstreamTx.queue =
      w.proxy.upstreamTx.queue ++ queuedMessages o) :
    UpPut (h ++ o) w' taken := by
  refine ⟨?_, ?_, ?_⟩
  · rw [hConns]
    exact hPut.fresh
  · intro conn
    rw [hUp, hPhase]
    exact put_later o (hPut.put conn)
  · rw [hConns, hQueue, ← List.append_assoc]
    unfold queuedMessages
    rw [List.filterMap_append]
    exact hPut.order.append (List.Sublist.refl _)

/- The other tasks only add to the queue. -/
private theorem queue_of_step
    (hStep : ProxyStep env s e s' o)
    (hOther : ∀ event, e ≠ .upstream event) :
    s'.connections = s.connections ∧
      s'.upstream = s.upstream ∧
        s'.upstreamTx.queue =
          s.upstreamTx.queue ++ queuedMessages o := by
  have hSame {s' : State} {o : List Obs}
      (hQueue : s'.upstreamTx = s.upstreamTx)
      (hNone : queuedMessages o = []) :
      s'.upstreamTx.queue =
        s.upstreamTx.queue ++ queuedMessages o := by
    rw [hQueue, hNone, List.append_nil]
  cases hStep with
  | upstream hTask => exact absurd rfl (hOther _)
  | client hTask =>
      cases hTask with
      | requestQueued hAt hSend =>
          exact ⟨rfl, rfl,
            (Channel.trySend_sent_iff.mp hSend).2.1⟩
      | notificationQueued hAt hSend =>
          exact ⟨rfl, rfl,
            (Channel.trySend_sent_iff.mp hSend).2.1⟩
      | _ => exact ⟨rfl, rfl, hSame rfl rfl⟩
  | writer hTask =>
      cases hTask <;> exact ⟨rfl, rfl, hSame rfl rfl⟩
  | heartbeat hTask =>
      cases hTask with
      | queued hAt hSend =>
          exact ⟨rfl, rfl,
            (Channel.trySend_sent_iff.mp hSend).2.1⟩
      | _ => exact ⟨rfl, rfl, hSame rfl rfl⟩
  | reader hTask =>
      cases hTask <;> exact ⟨rfl, rfl, hSame rfl rfl⟩
  | hookSent hSend =>
      exact ⟨rfl, rfl,
        (Channel.trySend_sent_iff.mp hSend).2.1⟩
  | _ => exact ⟨rfl, rfl, hSame rfl rfl⟩

/- A message taken on the last connection comes last. -/
private theorem flatMap_update
    (taken : ConnId → List Message)
    (conn : ConnId)
    (message : Message) :
    (List.range (conn + 1)).flatMap
        (Function.update taken conn
          (taken conn ++ [message])) =
      (List.range (conn + 1)).flatMap taken ++
        [message] := by
  have hBefore :
      (List.range conn).flatMap
          (Function.update taken conn
            (taken conn ++ [message])) =
        (List.range conn).flatMap taken := by
    apply List.flatMap_congr
    intro other hMem
    have hLt := List.mem_range.mp hMem
    exact Function.update_of_ne (Nat.ne_of_lt hLt) _ _
  rw [List.range_succ, List.flatMap_append, hBefore,
    List.flatMap_append]
  simp

/- The current connection is no longer written to. -/
private theorem put_left
    {taken : ConnId → List Message}
    {conn : ConnId}
    {upstream : Upstream}
    (hAt : w.proxy.upstream = .selecting conn)
    (hLeft : ∀ conn, upstream.phase conn = .ended)
    (hPut : UpPut h w taken)
    (conn' : ConnId) :
    Output.Put Message.bytes (WriteFailed (h ++ o))
      (taken conn') (w.up conn')
      (upstream.phase conn') := by
  have hBefore := put_later o (hPut.put conn')
  rw [hLeft]
  rw [hAt] at hBefore
  by_cases hConn : conn = conn'
  · simp only [Upstream.phase, hConn, if_true] at hBefore
    exact hBefore.stop
  · simpa only [Upstream.phase, hConn, if_false]
      using hBefore

/- The upstream task puts out what it takes. -/
private theorem upPut_of_upstream
    {taken : ConnId → List Message}
    {event : UpstreamEvent}
    (buf : ConnId → List UInt8)
    (hNumbered : Numbered w.proxy)
    (hPut : UpPut h w taken)
    (hWrite : ∀ ok, event ≠ .write ok)
    (hTask : UpstreamStep env w.proxy event s' o) :
    ∃ taken',
      UpPut (h ++ o) { w with proxy := s', buf := buf }
        taken' := by
  have hNone (hNothing : queuedMessages o = []) :
      queuedMessages (h ++ o) = queuedMessages h := by
    unfold queuedMessages at hNothing ⊢
    rw [List.filterMap_append, hNothing, List.append_nil]
  cases hTask with
  | wrote hAt => exact absurd rfl (hWrite true)
  | lost hAt => exact absurd rfl (hWrite false)
  | spawned hAt =>
      refine ⟨taken, ?_, ?_, ?_⟩
      · intro conn hNew
        exact hPut.fresh conn (Nat.le_of_succ_le hNew)
      · intro conn
        have hBefore := put_later [] (hPut.put conn)
        rw [hAt] at hBefore
        by_cases hConn : w.proxy.connections = conn
        · have hFresh := hPut.fresh conn (Nat.le_of_eq hConn)
          simp only [Upstream.phase, hConn, if_true]
          rw [hFresh] at hBefore ⊢
          rcases hBefore with
            hOut | ⟨whole, x, tail, hCut, hTaken, -⟩
          · exact hOut
          · simp at hTaken
        · simpa only [Upstream.phase, hConn, if_false]
            using hBefore
      · rw [hNone rfl, List.range_succ,
          List.flatMap_append]
        simpa [hPut.fresh _ (Nat.le_refl _)]
          using hPut.order
  | @took conn message channel hAt hRecv =>
      have hCurrent :=
        hNumbered.current conn (by rw [hAt]; rfl)
      refine ⟨Function.update taken conn
        (taken conn ++ [message]), ?_, ?_, ?_⟩
      · intro conn' hNew
        have hLe : w.proxy.connections ≤ conn' := hNew
        have hOther : conn' ≠ conn := by
          rw [hCurrent] at hLe
          omega
        rw [Function.update_of_ne hOther]
        exact hPut.fresh conn' hLe
      · intro conn'
        have hBefore := put_later [.taken message]
          (hPut.put conn')
        rw [hAt] at hBefore
        by_cases hConn : conn = conn'
        · subst hConn
          simp only [Upstream.phase, if_true,
            Function.update_self] at hBefore ⊢
          exact hBefore.take message
        · simp only [Upstream.phase, hConn, if_false,
            Function.update_of_ne (Ne.symm hConn)]
            at hBefore ⊢
          exact hBefore
      · have hOrder := hPut.order
        rw [hCurrent, (Channel.recv_some_iff.mp hRecv).1]
          at hOrder
        rw [hNone rfl]
        simp only
        rw [hCurrent, flatMap_update]
        simpa using hOrder
  | @stopped conn hAt =>
      refine ⟨taken, hPut.fresh,
        put_left (w := w) hAt (fun _ => rfl) hPut, ?_⟩
      rw [hNone rfl]
      simp only [Channel.close_queue, List.append_nil]
      exact (List.sublist_append_left _ _).trans hPut.order
  | @readerDead conn hAt hOver =>
      refine ⟨taken, hPut.fresh,
        put_left (w := w) hAt (fun _ => rfl) hPut, ?_⟩
      rw [hNone rfl]
      exact hPut.order
  | drainSent hAt hEntry hSend =>
      exact ⟨taken, hPut.of_same rfl rfl (fun _ => rfl)
        (List.append_nil _).symm⟩
  | drainLost hAt hEntry hRefused =>
      exact ⟨taken, hPut.of_same rfl rfl (fun _ => rfl)
        (List.append_nil _).symm⟩
  | started hAt | connected hAt | reset hAt
  | locked hAt hLock | unlocked hAt hEmpty =>
      exact ⟨taken, hPut.of_same rfl rfl
        (fun _ => by rw [hAt]; rfl)
        (List.append_nil _).symm⟩

/- A write puts out bytes on the current connection. -/
private theorem UpPut.of_write
    {taken : ConnId → List Message}
    {conn : ConnId}
    {msg : Message}
    {bytes : List UInt8}
    (hPut : UpPut h w taken)
    (hAt : w.proxy.upstream = .writing conn msg)
    (hConns : s'.connections = w.proxy.connections)
    (hQueue : s'.upstreamTx = w.proxy.upstreamTx)
    (hNone : queuedMessages o = [])
    (hLeft : ∀ conn', conn ≠ conn' →
      s'.upstream.phase conn' = .ended)
    (hWrite :
      Output.Put Message.bytes (WriteFailed (h ++ o))
          (taken conn) (w.up conn) (.writing msg) →
        Output.Put Message.bytes (WriteFailed (h ++ o))
          (taken conn) (w.up conn ++ bytes)
          (s'.upstream.phase conn)) :
    UpPut (h ++ o)
      { w.putUp conn bytes with proxy := s' } taken := by
  refine ⟨?_, ?_, ?_⟩
  · rw [hConns]
    exact hPut.fresh
  · intro conn'
    have hBefore := put_later o (hPut.put conn')
    rw [hAt] at hBefore
    by_cases hConn : conn = conn'
    · subst hConn
      simp only [Upstream.phase, if_true] at hBefore
      simp only [Wire.putUp, Function.update_self]
      exact hWrite hBefore
    · simp only [Upstream.phase, hConn, if_false] at hBefore
      simp only [Wire.putUp,
        Function.update_of_ne (Ne.symm hConn)]
      rw [hLeft conn' hConn]
      exact hBefore
  · unfold queuedMessages at hNone ⊢
    rw [hConns, hQueue, List.filterMap_append, hNone,
      List.append_nil]
    exact hPut.order

/- Every run puts out what the upstream task takes. -/
theorem upPut_of_run
    {es : List WireEvent}
    (hPrints : env.serde.PrintsOneLine)
    (hRun : (wire env).Run es h w) :
    ∃ taken, UpPut h w taken := by
  refine Machine.run_induction
    (motive := fun _ h w => ∃ taken, UpPut h w taken)
    ?_ ?_ hRun
  · refine ⟨fun _ => [], fun _ _ => rfl, ?_, ?_⟩
    · exact fun _ => Or.inl rfl
    · exact List.nil_sublist _
  · intro es h w e w' o hBefore ih hNext
    rcases ih with ⟨taken, hPut⟩
    rcases proxy_run_of_wire hPrints hBefore with
      ⟨ts, hProxy, -⟩
    have hNumbered := numbered_of_run hProxy
    have hOther {t : Event} {s' : State} {o : List Obs}
        {w' : Wire}
        (hStep : step env w.proxy t = some (s', o))
        (hTask : ∀ event, t ≠ .upstream event)
        (hUp : w'.up = w.up)
        (hAfter : w'.proxy = s') :
        ∃ taken, UpPut (h ++ o) w' taken := by
      rcases queue_of_step (step_cases hStep) hTask with
        ⟨hConns, hUpstream, hQueue⟩
      subst hAfter
      exact ⟨taken, hPut.of_same hUp hConns
        (fun _ => by rw [hUpstream]) hQueue⟩
    cases wireStep_cases hPrints hNext with
    | arrived buf =>
        refine ⟨taken, hPut.of_same rfl rfl
          (fun _ => rfl) ?_⟩
        exact (List.append_nil _).symm
    | @quiet t s' o buf hStep hReplies hAccept hUp hDown
        hAbort =>
        by_cases hTask : ∃ event, t = .upstream event
        · rcases hTask with ⟨event, rfl⟩
          refine upPut_of_upstream buf hNumbered hPut ?_
            (upstreamTask_cases hStep)
          rintro ok rfl
          exact hUp ok rfl
        · exact hOther hStep
            (fun event hEvent => hTask ⟨event, hEvent⟩)
            rfl rfl
    | accepted hStep => exact hOther hStep nofun rfl rfl
    | wroteDown hAt hStep =>
        exact hOther hStep nofun rfl rfl
    | cutDown written hAt hEvent hStep =>
        exact hOther hStep nofun rfl rfl
    | @wroteUp conn msg s' o hAt hStep =>
        simp only [step, upstreamTask, hAt,
          Option.some.injEq, Prod.mk.injEq] at hStep
        rcases hStep with ⟨rfl, rfl⟩
        refine ⟨taken, hPut.of_write hAt rfl rfl rfl ?_ ?_⟩
        · intro conn' hConn
          simp [Upstream.phase, hConn]
        · intro hWriting
          simp only [Upstream.phase, if_true]
          exact hWriting.wrote
    | @failedUp conn msg s' o written hAt hStep =>
        simp only [step, upstreamTask, hAt,
          Option.some.injEq, Prod.mk.injEq] at hStep
        rcases hStep with ⟨rfl, rfl⟩
        refine ⟨taken, hPut.of_write hAt rfl rfl rfl ?_ ?_⟩
        · intro conn' hConn
          rfl
        · intro hWriting
          refine hWriting.cut ?_ written
          exact List.mem_append_right h List.mem_cons_self

------------------------------------------------------------
-- Response Channels
------------------------------------------------------------

/- The client that a request or a hook's reply is from. -/
def Obs.owner? : Obs → Option ClientId
| .request c _ _ _ _ _ _ => some c
| .hookReply c _ => some c
| _ => none

/- Requests and hooks' replies are from accepted clients. -/
theorem owner_lt_of_run
    {es : List Event}
    (hRun : (proxy env).Run es h s) :
    ∀ x ∈ h, ∀ c, x.owner? = some c → c < s.clients := by
  refine Machine.run_induction
    (motive := fun _ h s =>
      ∀ x ∈ h, ∀ c, x.owner? = some c → c < s.clients)
    (by simp) ?_ hRun
  intro es h s e s' o hBefore ih hNext x hMem c hOwner
  have hStep := step_cases hNext
  have hClients : s.clients ≤ s'.clients := by
    cases hStep with
    | accepted => exact Nat.le_succ _
    | client hTask => cases hTask <;> exact Nat.le_refl _
    | writer hTask => cases hTask <;> exact Nat.le_refl _
    | heartbeat hTask => cases hTask <;> exact Nat.le_refl _
    | upstream hTask => cases hTask <;> exact Nat.le_refl _
    | reader hTask => cases hTask <;> exact Nat.le_refl _
    | _ => exact Nat.le_refl _
  rcases List.mem_append.mp hMem with hOld | hNew
  · exact Nat.lt_of_lt_of_le (ih x hOld c hOwner) hClients
  · refine Nat.lt_of_lt_of_le ?_ hClients
    by_contra hAbsent
    have hHandler := (numbered_of_run hBefore).handler c
      (Nat.le_of_not_lt hAbsent)
    have hNothing : ∀ x ∈ o, x.owner? ≠ some c := by
      cases hStep with
      | @client c' event s' o hTask =>
          have hOther : c' ≠ c := by
            rintro rfl
            exact hTask.running.1 hHandler
          cases hTask <;> simp [Obs.owner?, hOther]
      | writer hTask => cases hTask <;> simp [Obs.owner?]
      | heartbeat hTask =>
          cases hTask <;> simp [Obs.owner?]
      | upstream hTask =>
          cases hTask <;> simp [Obs.owner?]
      | reader hTask => cases hTask <;> simp [Obs.owner?]
      | _ => simp [Obs.owner?]
    exact hNothing x hNew hOwner

/- Nothing was put on the channel of a later client. -/
theorem putOn_eq_nil_of_run
    {es : List Event}
    (hRun : (proxy env).Run es h s)
    (hNew : s.clients ≤ c) :
    putOn h c = [] := by
  have hOwner := owner_lt_of_run hRun
  unfold putOn
  rw [List.filterMap_eq_nil_iff]
  intro x hMem
  have hNot {c' : ClientId}
      (hLt : c' < s.clients) : c' ≠ c :=
    Nat.ne_of_lt (Nat.lt_of_lt_of_le hLt hNew)
  cases x with
  | reply source c' seq text =>
      have hReply : ReplyOk env h source c' seq text :=
        (provenance_of_run hRun).history _ hMem
      rcases hReply with
        ⟨id, originalId, msg, ⟨sent, action, hReq⟩, -⟩
      simp [Obs.putOn?, hNot (hOwner _ hReq c' rfl)]
  | hookReply c' text =>
      simp [Obs.putOn?, hNot (hOwner _ hMem c' rfl)]
  | _ => rfl

/- What a step adds to a channel. -/
private structure Adds
    (channel channel' : Channel String 64)
    (texts : List String) : Prop where
  queue : channel'.queue = channel.queue ++ texts
  isOpen : channel'.isOpen = channel.isOpen
  accepted : texts = [] ∨ channel.isOpen = true

private theorem adds_nothing
    {channel : Channel String 64} :
    Adds channel channel [] :=
  ⟨(List.append_nil _).symm, rfl, Or.inl rfl⟩

/- A send to one client, seen from every client. -/
private theorem adds_of_send
    {c' : ClientId}
    {text : String}
    {channel : Channel String 64}
    (hSend : (s.responseTx c').trySend text =
      .sent channel)
    (c : ClientId) :
    Adds (s.responseTx c)
      (Function.update s.responseTx c' channel c)
      (if c' = c then [text] else []) := by
  rcases Channel.trySend_sent_iff.mp hSend with
    ⟨hAccepts, hQueue, hOpen⟩
  by_cases hClient : c' = c
  · subst hClient
    rw [Function.update_self, if_pos rfl]
    exact ⟨hQueue, by rw [hOpen, hAccepts.1],
      Or.inr hAccepts.1⟩
  · rw [Function.update_of_ne (Ne.symm hClient),
      if_neg hClient]
    exact adds_nothing

/- The tasks but the writers only add to the channels. -/
private theorem adds_of_step
    (hStep : ProxyStep env s e s' o)
    (hAccept : e ≠ .accept)
    (hWriter : ∀ c event, e ≠ .writer c event)
    (c : ClientId) :
    Adds (s.responseTx c) (s'.responseTx c)
      (putOn o c) := by
  -- The texts of a send are those that the step shows.
  have hSent {c' : ClientId} {text : String}
      {channel : Channel String 64} {o : List Obs}
      (hSend : (s.responseTx c').trySend text =
        .sent channel)
      (hShown : putOn o c =
        if c' = c then [text] else []) :
      Adds (s.responseTx c)
        (Function.update s.responseTx c' channel c)
        (putOn o c) := by
    rw [hShown]
    exact adds_of_send hSend c
  cases hStep with
  | accepted => exact absurd rfl hAccept
  | writer hTask => exact absurd rfl (hWriter _ _)
  | @client c' event s' o hTask =>
      cases hTask with
      | hookReplied hAt hSend =>
          apply hSent hSend
          by_cases hClient : c' = c <;>
            simp [putOn, Obs.putOn?, hClient]
      | refusedSent hAt hLock hFull hSend =>
          apply hSent hSend
          by_cases hClient : c' = c <;>
            simp [putOn, Obs.putOn?, hClient,
              List.filterMap_cons]
      | refusalSent hAt hSend =>
          apply hSent hSend
          by_cases hClient : c' = c <;>
            simp [putOn, Obs.putOn?, hClient]
      | _ => exact adds_nothing
  | heartbeat hTask => cases hTask <;> exact adds_nothing
  | upstream hTask =>
      cases hTask with
      | @drainSent key pending channel hAt hEntry hSend =>
          apply hSent hSend
          by_cases hClient : pending.clientTx = c <;>
            simp [putOn, Obs.putOn?, hClient,
              List.filterMap_cons]
      | _ => exact adds_nothing
  | reader hTask =>
      cases hTask with
      | @delivered c' seq trimmed text channel hAt hSend =>
          apply hSent hSend
          by_cases hClient : c' = c <;>
            simp [putOn, Obs.putOn?, hClient]
      | _ => exact adds_nothing
  | _ => exact adds_nothing

/- Events are only added. -/
private theorem events_of_step
    (hStep : ProxyStep env s e s' o) :
    ∃ new, s'.events = s.events ++ new := by
  have hSame {s' : State} (hEvents : s'.events = s.events) :
      ∃ new, s'.events = s.events ++ new :=
    ⟨[], by rw [hEvents, List.append_nil]⟩
  cases hStep with
  | client hTask => cases hTask <;> exact hSame rfl
  | writer hTask => cases hTask <;> exact hSame rfl
  | heartbeat hTask => cases hTask <;> exact hSame rfl
  | upstream hTask => cases hTask <;> exact hSame rfl
  | reader hTask =>
      cases hTask with
      | broadcast hAt => exact ⟨_, rfl⟩
      | _ => exact hSame rfl
  | _ => exact hSame rfl

------------------------------------------------------------
-- To a Client
------------------------------------------------------------

/- What the writer of a client does. -/
def Writer.phase : Writer → Output.Phase String
| .absent | .selecting => .idle
| .writing text => .writing text
| .ended => .ended

/-
  What a client's writer took: responses from its channel,
  of which the rest is still waiting while the channel is
  open, and events that it read after it subscribed.
-/
structure DownPut
    (h : List Obs)
    (w : Wire)
    (c : ClientId)
    (responses events texts : List String) : Prop where
  merge : Output.Interleave responses events texts
  sent : responses ++ (w.proxy.responseTx c).queue <+:
    putOn h c
  waiting : (w.proxy.responseTx c).isOpen = true →
    responses ++ (w.proxy.responseTx c).queue = putOn h c
  heard : Broadcast.Heard (w.proxy.events.map Prod.snd)
    (w.subscribed c) (w.proxy.eventRx c) events
  put : Output.Put lineBytes (fun _ => True) texts
    (w.down c) (w.proxy.writer c).phase

/- More is put on the channel, and more is broadcast. -/
private theorem DownPut.of_adds
    {responses events texts : List String}
    (hPut : DownPut h w c responses events texts)
    (hAdds : Adds (w.proxy.responseTx c)
      (w'.proxy.responseTx c) (putOn o c))
    (hEvents : ∃ new,
      w'.proxy.events = w.proxy.events ++ new)
    (hSubscribed : w'.subscribed c = w.subscribed c)
    (hEventRx : w'.proxy.eventRx c = w.proxy.eventRx c)
    (hDown : w'.down c = w.down c)
    (hWriter : w'.proxy.writer c = w.proxy.writer c) :
    DownPut (h ++ o) w' c responses events texts := by
  have hPutOn :
      putOn (h ++ o) c = putOn h c ++ putOn o c :=
    List.filterMap_append
  refine ⟨hPut.merge, ?_, ?_, ?_, ?_⟩
  · rw [hAdds.queue, hPutOn]
    rcases hAdds.accepted with hNone | hOpen
    · rw [hNone, List.append_nil, List.append_nil]
      exact hPut.sent
    · rw [← hPut.waiting hOpen, List.append_assoc]
  · intro hOpen
    rw [hAdds.isOpen] at hOpen
    rw [hAdds.queue, hPutOn, ← hPut.waiting hOpen,
      List.append_assoc]
  · rcases hEvents with ⟨new, hNew⟩
    rw [hNew, List.map_append, hSubscribed, hEventRx]
    exact hPut.heard.send _
  · rw [hDown, hWriter]
    exact hPut.put

/- Nothing is put on a channel by a writer's step. -/
private theorem putOn_of_writer
    {event : WriterEvent}
    (hTask : WriterStep s c event s' o)
    (c' : ClientId) :
    putOn (h ++ o) c' = putOn h c' := by
  have hNone : o.filterMap (Obs.putOn? c') = [] := by
    cases hTask <;> rfl
  unfold putOn
  rw [List.filterMap_append, hNone, List.append_nil]

/- The writer takes a text, skips events or stops. -/
private theorem downPut_of_writer
    {event : WriterEvent}
    {responses events texts : List String}
    (buf : ConnId → List UInt8)
    (hPut : DownPut h w c responses events texts)
    (hNext : clientWriter w.proxy c event = some (s', o))
    (hWrite : ∀ ok, event ≠ .write ok)
    (hAbort : event = .abort →
      w.proxy.writer c = .selecting) :
    ∃ responses' events' texts',
      DownPut (h ++ o) { w with proxy := s', buf := buf } c
        responses' events' texts' := by
  have hTask := clientWriter_cases hNext
  have hPutOn := putOn_of_writer (h := h) hTask c
  have hBefore := hPut.put
  cases hTask with
  | wrote hAt => exact absurd rfl (hWrite true)
  | @received text channel hAt hRecv =>
      rcases Channel.recv_some_iff.mp hRecv with
        ⟨hQueue, hOpen⟩
      rw [hAt] at hBefore
      have hMoved :
          responses ++ [text] ++ channel.queue =
            responses ++ (w.proxy.responseTx c).queue := by
        rw [hQueue, List.append_assoc]
        rfl
      refine ⟨responses ++ [text], events, texts ++ [text],
        hPut.merge.left text, ?_, ?_, hPut.heard, ?_⟩
      · simp only [Function.update_self]
        rw [hPutOn, hMoved]
        exact hPut.sent
      · simp only [Function.update_self]
        rw [hPutOn, hMoved, hOpen]
        exact hPut.waiting
      · simp only [Function.update_self]
        exact hBefore.take text
  | lagged hAt hLag =>
      refine ⟨responses, events, texts, hPut.merge, ?_, ?_,
        ?_, hBefore⟩
      · rw [hPutOn]
        exact hPut.sent
      · rw [hPutOn]
        exact hPut.waiting
      · simp only [Function.update_self]
        refine hPut.heard.skip (by omega) ?_
        rw [List.length_map]
        exact Nat.sub_le _ _
  | @eventRead conn text hAt hEvent =>
      rw [hAt] at hBefore
      refine ⟨responses, events ++ [text], texts ++ [text],
        hPut.merge.right text, ?_, ?_, ?_, ?_⟩
      · rw [hPutOn]
        exact hPut.sent
      · rw [hPutOn]
        exact hPut.waiting
      · simp only [Function.update_self]
        refine hPut.heard.receive ?_
        rw [List.getElem?_map, hEvent]
        rfl
      · simp only [Function.update_self]
        exact hBefore.take text
  | ended hAt =>
      have hSelecting : w.proxy.writer c = .selecting := by
        rcases hAt with hAt | ⟨text, hAt⟩
        · exact hAt
        · cases event with
          | abort => exact hAbort rfl
          | write ok => exact absurd rfl (hWrite ok)
          | _ => simp [clientWriter, hAt] at hNext
      rw [hSelecting] at hBefore
      refine ⟨responses, events, texts, hPut.merge, ?_, ?_,
        hPut.heard, ?_⟩
      · simp only [Function.update_self]
        rw [hPutOn, Channel.close_queue, List.append_nil]
        exact (List.prefix_append _ _).trans hPut.sent
      · simp
      · simp only [Function.update_self]
        exact hBefore.stop

/- The writer puts out bytes of the text in hand. -/
private theorem DownPut.of_write
    {event : WriterEvent}
    {msg : String}
    {bytes : List UInt8}
    {responses events texts : List String}
    (hPut : DownPut h w c responses events texts)
    (hTask : WriterStep w.proxy c event s' o)
    (hAt : w.proxy.writer c = .writing msg)
    (hOut :
      Output.Put lineBytes (fun _ => True) texts (w.down c)
          (.writing msg) →
        Output.Put lineBytes (fun _ => True) texts
          (w.down c ++ bytes) (s'.writer c).phase) :
    DownPut (h ++ o)
      { w.putDown c bytes with proxy := s' } c
      responses events texts := by
  have hPutOn := putOn_of_writer (h := h) hTask c
  have hBefore := hPut.put
  rw [hAt] at hBefore
  have hAfter := hOut hBefore
  cases hTask with
  | received hSelecting hRecv =>
      rw [hAt] at hSelecting
      cases hSelecting
  | lagged hSelecting hLag =>
      rw [hAt] at hSelecting
      cases hSelecting
  | eventRead hSelecting hEvent =>
      rw [hAt] at hSelecting
      cases hSelecting
  | wrote hWriting =>
      refine ⟨hPut.merge, ?_, ?_, hPut.heard, ?_⟩
      · rw [hPutOn]
        exact hPut.sent
      · rw [hPutOn]
        exact hPut.waiting
      · simp only [Wire.putDown, Function.update_self]
          at hAfter ⊢
        exact hAfter
  | ended hWriting =>
      refine ⟨hPut.merge, ?_, ?_, hPut.heard, ?_⟩
      · simp only [Function.update_self]
        rw [hPutOn, Channel.close_queue, List.append_nil]
        exact (List.prefix_append _ _).trans hPut.sent
      · simp
      · simp only [Wire.putDown, Function.update_self]
          at hAfter ⊢
        exact hAfter

/- A writer's step leaves the other clients alone. -/
private theorem DownPut.of_other
    {c' : ClientId}
    {event : WriterEvent}
    {responses events texts : List String}
    (hPut : DownPut h w c responses events texts)
    (hTask : WriterStep w.proxy c' event s' o)
    (hClient : c ≠ c')
    (hProxy : w'.proxy = s')
    (hSubscribed : w'.subscribed c = w.subscribed c)
    (hDown : w'.down c = w.down c) :
    DownPut (h ++ o) w' c responses events texts := by
  have hNe {α : Type} (f : ClientId → α) (x : α) :
      Function.update f c' x c = f c :=
    Function.update_of_ne hClient x f
  have hNone : putOn o c = [] := by
    cases hTask <;> rfl
  have hSame : s'.responseTx c = w.proxy.responseTx c ∧
      s'.events = w.proxy.events ∧
        s'.eventRx c = w.proxy.eventRx c := by
    cases hTask with
    | received hAt hRecv => exact ⟨hNe _ _, rfl, rfl⟩
    | lagged hAt hLag => exact ⟨rfl, rfl, hNe _ _⟩
    | eventRead hAt hEvent => exact ⟨rfl, rfl, hNe _ _⟩
    | wrote hAt => exact ⟨rfl, rfl, rfl⟩
    | ended hAt => exact ⟨hNe _ _, rfl, rfl⟩
  rcases hSame with ⟨hResponses, hEvents, hEventRx⟩
  refine hPut.of_adds ?_ ⟨[], ?_⟩ hSubscribed ?_ hDown ?_
  · rw [hProxy, hResponses, hNone]
    exact adds_nothing
  · rw [hProxy, hEvents, List.append_nil]
  · rw [hProxy, hEventRx]
  · rw [hProxy, hTask.writer_of_ne hClient]

/- Only an accept adds a client. -/
private theorem clients_of_step
    (hStep : ProxyStep env s e s' o)
    (hAccept : e ≠ .accept) :
    s'.clients = s.clients := by
  cases hStep with
  | accepted => exact absurd rfl hAccept
  | client hTask => cases hTask <;> rfl
  | writer hTask => cases hTask <;> rfl
  | heartbeat hTask => cases hTask <;> rfl
  | upstream hTask => cases hTask <;> rfl
  | reader hTask => cases hTask <;> rfl
  | _ => rfl

/- A step of a task that is no writer, on the wire. -/
private theorem DownPut.of_task
    {responses events texts : List String}
    (hPut : DownPut h w c responses events texts)
    (hStep : step env w.proxy e = some (s', o))
    (hAccept : e ≠ .accept)
    (hWriter : ∀ c event, e ≠ .writer c event)
    (hProxy : w'.proxy = s')
    (hSubscribed : w'.subscribed = w.subscribed)
    (hDown : w'.down = w.down) :
    DownPut (h ++ o) w' c responses events texts := by
  subst hProxy
  have hCases := step_cases hStep
  have hSame := hCases.writer_same hAccept hWriter
  exact hPut.of_adds (adds_of_step hCases hAccept hWriter c)
    (events_of_step hCases) (by rw [hSubscribed])
    (by rw [hSame.2]) (by rw [hDown]) (by rw [hSame.1])

/- An accept leaves the other clients alone. -/
private theorem downPut_of_accept
    {subscribed : ClientId → Nat}
    (hStep : ProxyStep env w.proxy .accept s' o)
    (hSubscribed : subscribed =
      Function.update w.subscribed w.proxy.clients
        w.proxy.events.length)
    (hNone : putOn h w.proxy.clients = [])
    (hDown : w.down w.proxy.clients = [])
    (hBefore : ∃ responses events texts,
      DownPut h w c responses events texts) :
    ∃ responses events texts,
      DownPut (h ++ o)
        { w with proxy := s', subscribed := subscribed } c
        responses events texts := by
  subst hSubscribed
  cases hStep with
  | accepted =>
      by_cases hClient : c = w.proxy.clients
      · subst hClient
        rw [List.append_nil]
        refine ⟨[], [], [], .nil, ?_, ?_, ?_, ?_⟩
        · simp [acceptClient]
        · simp [acceptClient, hNone]
        · simp only [acceptClient, Function.update_self]
          rw [← List.length_map Prod.snd]
          exact Broadcast.heard_subscribe
        · simp [acceptClient, Writer.phase, hDown,
            Output.Put]
      · rcases hBefore with
          ⟨responses, events, texts, hPut⟩
        have hNe {α : Type} (f : ClientId → α) (x : α) :
            Function.update f w.proxy.clients x c = f c :=
          Function.update_of_ne hClient x f
        refine ⟨responses, events, texts,
          hPut.of_adds ?_ ⟨[], (List.append_nil _).symm⟩
            (hNe _ _) (hNe _ _) rfl (hNe _ _)⟩
        simp only [acceptClient, hNe]
        exact adds_nothing

/- Bytes that a writer puts out, seen from every client. -/
private theorem downPut_of_write
    {c' : ClientId}
    {event : WriterEvent}
    {msg : String}
    {bytes : List UInt8}
    (hTask : WriterStep w.proxy c' event s' o)
    (hAt : w.proxy.writer c' = .writing msg)
    (hOut : ∀ texts,
      Output.Put lineBytes (fun _ => True) texts (w.down c')
          (.writing msg) →
        Output.Put lineBytes (fun _ => True) texts
          (w.down c' ++ bytes) (s'.writer c').phase)
    (hBefore : ∃ responses events texts,
      DownPut h w c responses events texts) :
    ∃ responses events texts,
      DownPut (h ++ o)
        { w.putDown c' bytes with proxy := s' } c
        responses events texts := by
  rcases hBefore with ⟨responses, events, texts, hPut⟩
  refine ⟨responses, events, texts, ?_⟩
  by_cases hClient : c = c'
  · subst hClient
    exact hPut.of_write hTask hAt (hOut texts)
  · exact hPut.of_other hTask hClient rfl rfl
      (Function.update_of_ne hClient _ _)

/- Every run puts out to clients what their writers take. -/
theorem downPut_of_run
    {es : List WireEvent}
    (hPrints : env.serde.PrintsOneLine)
    (hRun : (wire env).Run es h w) :
    (∀ c, ∃ responses events texts,
      DownPut h w c responses events texts) ∧
      ∀ c, w.proxy.clients ≤ c → w.down c = [] := by
  refine Machine.run_induction
    (motive := fun _ h w =>
      (∀ c, ∃ responses events texts,
        DownPut h w c responses events texts) ∧
        ∀ c, w.proxy.clients ≤ c → w.down c = [])
    ?_ ?_ hRun
  · refine ⟨?_, fun _ _ => rfl⟩
    intro c
    exact ⟨[], [], [], .nil, List.nil_prefix,
      fun _ => rfl, Broadcast.heard_subscribe, rfl⟩
  · intro es h w e w' o hBefore ih hNext
    rcases ih with ⟨ih, hFresh⟩
    rcases proxy_run_of_wire hPrints hBefore with
      ⟨ts, hProxy, -⟩
    have hKept {t : Event} {s' : State} {o : List Obs}
        (hStep : step env w.proxy t = some (s', o))
        (hAccept : t ≠ .accept) (c : ClientId)
        (hNew : s'.clients ≤ c) : w.down c = [] := by
      rw [clients_of_step (step_cases hStep) hAccept]
        at hNew
      exact hFresh c hNew
    -- A client that is not there yet has no writer.
    have hWritten {t : Event} {c' : ClientId} {msg : String}
        {s' : State} {o : List Obs} {bytes : List UInt8}
        (hAt : w.proxy.writer c' = .writing msg)
        (hStep : step env w.proxy t = some (s', o))
        (hAccept : t ≠ .accept) (c : ClientId)
        (hNew : s'.clients ≤ c) :
        (w.putDown c' bytes).down c = [] := by
      have hDown := hKept hStep hAccept c hNew
      rw [clients_of_step (step_cases hStep) hAccept]
        at hNew
      have hOther : c ≠ c' := by
        rintro rfl
        rw [writer_absent_of_run hProxy c hNew] at hAt
        cases hAt
      simp only [Wire.putDown, Function.update_of_ne hOther]
      exact hDown
    cases wireStep_cases hPrints hNext with
    | arrived buf =>
        rw [List.append_nil]
        refine ⟨fun c => ?_, hFresh⟩
        rcases ih c with ⟨responses, events, texts, hPut⟩
        exact ⟨responses, events, texts, { hPut with }⟩
    | @quiet t s' o buf hStep hReplies hAccept hUp hDown
        hAbort =>
        refine ⟨fun c => ?_, hKept hStep hAccept⟩
        rcases ih c with ⟨responses, events, texts, hPut⟩
        by_cases hWriter : ∃ c' event, t = .writer c' event
        · rcases hWriter with ⟨c', event, rfl⟩
          by_cases hClient : c = c'
          · subst hClient
            refine downPut_of_writer buf hPut hStep ?_ ?_
            · rintro ok rfl
              exact hDown c ok rfl
            · rintro rfl
              exact hAbort c rfl
          · exact ⟨responses, events, texts,
              hPut.of_other (clientWriter_cases hStep)
                hClient rfl rfl rfl⟩
        · exact ⟨responses, events, texts,
            hPut.of_task hStep hAccept
              (fun c' event hEvent =>
                hWriter ⟨c', event, hEvent⟩) rfl rfl rfl⟩
    | @accepted s' o hStep =>
        have hCases : ProxyStep env w.proxy .accept s' o :=
          step_cases hStep
        refine ⟨fun c => ?_, ?_⟩
        · exact downPut_of_accept hCases rfl
            (putOn_eq_nil_of_run hProxy le_rfl)
            (hFresh _ le_rfl) (ih c)
        · intro c hNew
          apply hFresh
          cases hCases with
          | accepted => exact Nat.le_of_succ_le hNew
    | wroteUp hAt hStep =>
        refine ⟨fun c => ?_, hKept hStep (by simp)⟩
        rcases ih c with ⟨responses, events, texts, hPut⟩
        exact ⟨responses, events, texts,
          hPut.of_task hStep (by simp) (by simp) rfl rfl rfl⟩
    | failedUp written hAt hStep =>
        refine ⟨fun c => ?_, hKept hStep (by simp)⟩
        rcases ih c with ⟨responses, events, texts, hPut⟩
        exact ⟨responses, events, texts,
          hPut.of_task hStep (by simp) (by simp) rfl rfl rfl⟩
    | @wroteDown c' msg s' o hAt hStep =>
        have hTask :
            WriterStep w.proxy c' (.write true) s' o :=
          clientWriter_cases hStep
        refine ⟨fun c => ?_, ?_⟩
        · refine downPut_of_write hTask hAt ?_ (ih c)
          intro texts hWriting
          simp only [step, clientWriter, hAt,
            Option.some.injEq, Prod.mk.injEq] at hStep
          rcases hStep with ⟨rfl, -⟩
          simp only [Function.update_self]
          exact hWriting.wrote
        · exact hWritten hAt hStep (by simp)
    | @cutDown c' msg event s' o written hAt hEvent hStep =>
        have hTask : WriterStep w.proxy c' event s' o :=
          clientWriter_cases hStep
        refine ⟨fun c => ?_, ?_⟩
        · refine downPut_of_write hTask hAt ?_ (ih c)
          intro texts hWriting
          have hEnded : s'.writer c' = .ended := by
            rcases hEvent with rfl | rfl
            · simp only [step, clientWriter, hAt,
                Option.some.injEq, Prod.mk.injEq] at hStep
              rcases hStep with ⟨rfl, -⟩
              exact Function.update_self _ _ _
            · simp only [step, clientWriter, hAt] at hStep
              split at hStep
              · cases hStep
                exact Function.update_self _ _ _
              · cases hStep
          rw [hEnded]
          exact hWriting.cut trivial written
        · exact hWritten hAt hStep (by simp)

------------------------------------------------------------
-- Both Sides
------------------------------------------------------------

/- A text that stands on one line of bytes. -/
def OneLine (text : String) : Prop :=
  Text.lf ∉ Text.encodeUtf8 text.toList

/-
  What is written to the telescope connections: lines of the
  queued messages, in order and each at most once. Only when
  a write fails, which ends its connection, its line may be
  cut off.
-/
def UpIntact (h : List Obs) (w : Wire) : Prop :=
  ∃ taken : ConnId → List Message,
    List.Sublist
        ((List.range w.proxy.connections).flatMap taken)
        (queuedMessages h) ∧
      ∀ conn,
        (w.proxy.connections ≤ conn → taken conn = []) ∧
          (∀ m ∈ taken conn, OneLine m.line) ∧
            Output.Intact Message.bytes
              (fun m => WriteFailed h m ∧
                w.proxy.upstream.conn? ≠ some conn)
              (taken conn) (w.up conn)

/- The texts that were broadcast since a client came. -/
def Wire.broadcastsSince
    (w : Wire)
    (c : ClientId) : List String :=
  (w.proxy.events.map Prod.snd).drop (w.subscribed c)

/-
  What is written to a client: lines that merge the front of
  what was put on its channel with some of what was
  broadcast since it came. Only when its writer ends its
  last line may be cut off.
-/
def DownIntact
    (h : List Obs)
    (w : Wire)
    (c : ClientId) : Prop :=
  ∃ responses events texts,
    Output.Interleave responses events texts ∧
      responses <+: putOn h c ∧
        events.Sublist (w.broadcastsSince c) ∧
          (∀ text ∈ texts, OneLine text) ∧
            Output.Intact lineBytes
              (fun _ => w.proxy.writer c = .ended)
              texts (w.down c)

/- A message that was queued can be read off the history. -/
private theorem line_mem_texts
    {m : Message}
    (hMem : m ∈ queuedMessages h) :
    m.line ∈ h.filterMap Obs.text? := by
  rcases List.mem_filterMap.mp hMem with ⟨x, hx, hQueued⟩
  refine List.mem_filterMap.mpr ⟨x, hx, ?_⟩
  cases x with
  | queued message =>
      cases hQueued
      rfl
  | _ => cases hQueued

private theorem put_mem_texts
    {text : String}
    (hMem : text ∈ putOn h c) :
    text ∈ h.filterMap Obs.text? := by
  rcases List.mem_filterMap.mp hMem with ⟨x, hx, hPut⟩
  refine List.mem_filterMap.mpr ⟨x, hx, ?_⟩
  cases x with
  | reply source c' seq text =>
      simp only [Obs.putOn?] at hPut
      split at hPut
      · exact hPut
      · cases hPut
  | hookReply c' text =>
      simp only [Obs.putOn?] at hPut
      split at hPut
      · exact hPut
      · cases hPut
  | _ => cases hPut

/- A connection that has ended is not the current one. -/
private theorem phase_ended
    {upstream : Upstream}
    {conn : ConnId}
    (hEnded : upstream.phase conn = .ended) :
    upstream.conn? ≠ some conn := by
  intro hCurrent
  cases upstream with
  | selecting conn' =>
      cases hCurrent
      simp [Upstream.phase] at hEnded
  | writing conn' message =>
      cases hCurrent
      simp [Upstream.phase] at hEnded
  | _ => cases hCurrent

/-
  In every run on the wire, whatever bytes arrive and
  whatever the hooks return, whole lines are written on both
  sides, if the JSON library prints on one line.
-/
theorem wire_intact
    {es : List WireEvent}
    (hPrints : env.serde.PrintsOneLine)
    (hRun : (wire env).Run es h w) :
    UpIntact h w ∧ ∀ c, DownIntact h w c := by
  rcases proxy_run_of_wire hPrints hRun with
    ⟨ts, hProxy, hMeets⟩
  have hClean := allUnbroken_of_run hPrints hProxy hMeets
  refine ⟨?_, ?_⟩
  · rcases upPut_of_run hPrints hRun with ⟨taken, hPut⟩
    have hOrder :=
      (List.sublist_append_left _ _).trans hPut.order
    refine ⟨taken, hOrder, fun conn =>
      ⟨hPut.fresh conn, ?_, ?_⟩⟩
    · intro m hMem
      apply Text.lineFeed_notMem_encodeUtf8
      apply hClean.texts
      apply line_mem_texts
      by_cases hConn : conn < w.proxy.connections
      · exact hOrder.subset (List.mem_flatMap.mpr
          ⟨conn, List.mem_range.mpr hConn, hMem⟩)
      · rw [hPut.fresh conn (Nat.le_of_not_lt hConn)] at hMem
        cases hMem
    · exact (hPut.put conn).intact.mono
        fun _ hCut => ⟨hCut.2, phase_ended hCut.1⟩
  · intro c
    rcases (downPut_of_run hPrints hRun).1 c with
      ⟨responses, events, texts, hPut⟩
    have hResponses : responses <+: putOn h c :=
      (List.prefix_append _ _).trans hPut.sent
    have hEvents := hPut.heard.sublist
    refine ⟨responses, events, texts, hPut.merge,
      hResponses, hEvents, ?_, ?_⟩
    · intro text hMem
      apply Text.lineFeed_notMem_encodeUtf8
      rcases hPut.merge.mem_or hMem with hLeft | hRight
      · exact hClean.texts text
          (put_mem_texts (hResponses.subset hLeft))
      · have hEvent := List.mem_of_mem_drop
          (hEvents.subset hRight)
        rcases List.mem_map.mp hEvent with
          ⟨⟨conn, text'⟩, hShown, rfl⟩
        exact hClean.events conn text' hShown
    · refine hPut.put.intact.mono ?_
      rintro text ⟨hEnded, -⟩
      cases hAt : w.proxy.writer c with
      | ended => rfl
      | _ =>
          rw [hAt] at hEnded
          cases hEnded

/- The bytes of the telescope's answer. -/
def answerBytes : List UInt8 :=
  lineBytes
    (lineOf (parkAnswer (.number (.posInt firstId))))

/-
  A request is written, the answer arrives in two pieces and
  the reply is written.
-/
def wireSession : List WireEvent :=
  ([.task .notify, .accept,
    .task (.upstream .start)] : List WireEvent) ++
  connectUpstream.map WireEvent.task ++
  ([.task (.client 0
      (.line (lineOf (parkRequest (.string "a"))))),
    .request 0 .undefined, .task (.client 0 .register),
    .task (.client 0 .sendUpstream),
    .task (.upstream .recv), .writeUp,
    .task (.reader 0 .start),
    .arrive 0 (answerBytes.take 7),
    .arrive 0 (answerBytes.drop 7),
    .telescopeLine 0, .task (.reader 0 .remove),
    .task (.reader 0 .deliver),
    .task (.writer 0 .recvResponse),
    .writeDown 0] : List WireEvent)

theorem wire_intact_wireSession :
    ∃ h w, (wire parkEnv).Run wireSession h w ∧
      w.down 0 =
        lineBytes (lineOf (parkAnswer (.string "a"))) ∧
      UpIntact h w ∧ ∀ c, DownIntact h w c := by
  have hRun : (wire parkEnv).Run wireSession _ _ :=
    Machine.run_outcome (by decide +kernel)
  refine ⟨_, _, hRun, by decide +kernel, ?_⟩
  exact wire_intact (knowing_printsOneLine _) hRun

end Control

end SeestarProxy
