import SeestarProxy.Control.StaleLines

/-
  Heartbeats and the handshake of each connection.

  The heartbeat task looks at a flag and then only queues
  its line, while the flag and the queue both outlive the
  connection they belong to. A heartbeat comes after the
  first line of its own connection if none is left when the
  flag is reset, and only the reader of the connection that
  is written to sets the flag again.

  Main declarations:
    * `State.Silent` and `HeartbeatsSettled`
    * `HeartbeatsWait` and `heartbeats_wait`
-/

------------------------------------------------------------
-- Heartbeats on Their Way
------------------------------------------------------------

namespace SeestarProxy

namespace Control

open Library Protocol

/- The message is a heartbeat of the proxy. -/
def Message.IsHeartbeat (m : Message) : Prop :=
  match m.origin with
  | .heartbeat _ => True
  | _ => False

instance (m : Message) : Decidable m.IsHeartbeat := by
  unfold Message.IsHeartbeat
  split <;> infer_instance

/- The heartbeat task has found the flag set. -/
def Heartbeat.IsBeating : Heartbeat → Prop
| .checked | .sending _ => True
| _ => False

instance (heartbeat : Heartbeat) :
    Decidable heartbeat.IsBeating := by
  unfold Heartbeat.IsBeating
  split <;> infer_instance

/- No heartbeat is queued or about to be queued. -/
def State.Quiet (s : State) : Prop :=
  ¬ s.heartbeat.IsBeating ∧
    ∀ m ∈ s.upstreamTx.queue, ¬ m.IsHeartbeat

instance (s : State) : Decidable s.Quiet := by
  unfold State.Quiet
  infer_instance

/- The flag is down and no heartbeat is on its way. -/
def State.Silent (s : State) : Prop :=
  s.handshakeDone = false ∧ s.Quiet

/-
  A line of the connection may report the handshake: the
  upstream task writes to this connection, or it will reset
  the flag before it writes again.
-/
def Upstream.Greets (conn : ConnId) : Upstream → Prop
| .locking | .draining | .hooking => False
| .selecting conn' | .writing conn' _ => conn' = conn
| _ => True

instance (conn : ConnId) (upstream : Upstream) :
    Decidable (upstream.Greets conn) := by
  unfold Upstream.Greets
  split <;> infer_instance

/-
  The flag is reset only when no heartbeat is on its way,
  and raised only for the connection that is written to.
-/
def HeartbeatsSettled (s : State) : Event → Prop
| .upstream .resetHandshake => s.Quiet
| .reader conn (.line text) =>
    Text.trim text = "" ∨ s.handshakeDone = true ∨
      s.upstream.Greets conn
| _ => True

instance (s : State) (e : Event) :
    Decidable (HeartbeatsSettled s e) := by
  unfold HeartbeatsSettled
  split <;> infer_instance

/- `x` receives a line where `y` writes a heartbeat. -/
def GreetsBefore : Obs → Obs → Prop
| .received conn _, .written conn' _ => conn = conn'
| _, _ => False

/- The connection that a line is received on. -/
def Obs.receivedOn : Obs → Option ConnId
| .received conn _ => some conn
| _ => none

/- The connection that a message is written to. -/
def Obs.writtenOn : Obs → Option ConnId
| .written conn _ => some conn
| _ => none

theorem greetsBefore_iff
    {x y : Obs} :
    GreetsBefore x y ↔
      x.receivedOn ≠ none ∧ x.receivedOn = y.writtenOn := by
  cases x with
  | received conn _ =>
      cases y with
      | written conn' _ =>
          simp [GreetsBefore, Obs.receivedOn, Obs.writtenOn]
      | _ => simp [GreetsBefore, Obs.receivedOn, Obs.writtenOn]
  | _ => simp [GreetsBefore, Obs.receivedOn]

instance (x y : Obs) : Decidable (GreetsBefore x y) :=
  decidable_of_iff _ greetsBefore_iff.symm

/- The observation writes a heartbeat. -/
def Obs.WritesHeartbeat : Obs → Prop
| .written _ m => m.IsHeartbeat
| _ => False

/-
  A heartbeat is written to a connection only after a line
  was received on the same connection.
-/
def HeartbeatsWait (h : List Obs) : Prop :=
  History.Preceded GreetsBefore Obs.WritesHeartbeat h

variable {env : Env} {h o : List Obs} {s s' : State}

------------------------------------------------------------
-- Silence
------------------------------------------------------------

/- A send of something else leaves no heartbeat queued. -/
private theorem no_heartbeat_of_sent
    {message : Message}
    {channel : Channel Message 256}
    (hSend : s.upstreamTx.trySend message = .sent channel)
    (hOther : ¬ message.IsHeartbeat)
    (hNone : ∀ m ∈ s.upstreamTx.queue, ¬ m.IsHeartbeat) :
    ∀ m ∈ channel.queue, ¬ m.IsHeartbeat := by
  intro m hMem
  rcases Channel.mem_queue_of_sent hSend hMem with
    hOld | rfl
  · exact hNone m hOld
  · exact hOther

/- Silence ends with a line from the telescope only. -/
private theorem stays_silent
    {e : Event}
    (hStep : ProxyStep env s e s' o)
    (hSilent : s.Silent) :
    s'.Silent ∨
      ∃ conn text, e = .reader conn (.line text) ∧
        Text.trim text ≠ "" ∧
        .received conn (Text.trim text) ∈ o := by
  rcases hSilent with ⟨hDown, hTask, hQueue⟩
  cases hStep with
  | client hClient =>
      left
      cases hClient with
      | requestQueued hAt hSend =>
          exact ⟨hDown, hTask,
            no_heartbeat_of_sent hSend (fun h => h) hQueue⟩
      | notificationQueued hAt hSend =>
          exact ⟨hDown, hTask,
            no_heartbeat_of_sent hSend (fun h => h) hQueue⟩
      | _ => exact ⟨hDown, hTask, hQueue⟩
  | writer hWriter =>
      left
      cases hWriter <;> exact ⟨hDown, hTask, hQueue⟩
  | heartbeat hBeat =>
      left
      cases hBeat with
      | slept hAt => exact ⟨hDown, hTask, hQueue⟩
      | checked hAt hDone =>
          rw [hDown] at hDone
          cases hDone
      | allocated hAt =>
          rw [hAt] at hTask
          exact absurd trivial hTask
      | queued hAt hSend =>
          rw [hAt] at hTask
          exact absurd trivial hTask
      | ended hAt =>
          rw [hAt] at hTask
          exact absurd trivial hTask
  | upstream hUpstream =>
      left
      cases hUpstream with
      | started hAt => exact ⟨hDown, fun h => h, hQueue⟩
      | reset hAt => exact ⟨rfl, hTask, hQueue⟩
      | took hAt hRecv =>
          refine ⟨hDown, hTask, ?_⟩
          intro m hMem
          exact hQueue m
            (Channel.mem_queue_of_recv hRecv hMem)
      | stopped hAt => exact ⟨hDown, hTask, nofun⟩
      | _ => exact ⟨hDown, hTask, hQueue⟩
  | @reader conn event s' o hReader =>
      cases hReader with
      | @received text trimmed hAt hTrim hText =>
          right
          rw [hTrim] at hText
          exact ⟨conn, text, rfl, hText, by simp [hTrim]⟩
      | _ => exact Or.inl ⟨hDown, hTask, hQueue⟩
  | hookSent hSend =>
      left
      exact ⟨hDown, hTask,
        no_heartbeat_of_sent hSend (fun h => h) hQueue⟩
  | _ => exact Or.inl ⟨hDown, hTask, hQueue⟩

/- Only its own steps move the upstream task. -/
private theorem upstream_same
    {e : Event}
    (hStep : ProxyStep env s e s' o)
    (hOther : ∀ event, e ≠ .upstream event) :
    s'.upstream = s.upstream := by
  cases hStep with
  | client hTask => cases hTask <;> rfl
  | writer hTask => cases hTask <;> rfl
  | heartbeat hTask => cases hTask <;> rfl
  | reader hTask => cases hTask <;> rfl
  | upstream hTask => exact absurd rfl (hOther _)
  | _ => rfl

------------------------------------------------------------
-- The Gate
------------------------------------------------------------

/- A line was received on the connection. -/
private def Greeted (h : List Obs) (conn : ConnId) : Prop :=
  ∃ trimmed, .received conn trimmed ∈ h

private theorem Greeted.mono
    {conn : ConnId}
    (hGreeted : Greeted h conn) :
    Greeted (h ++ o) conn := by
  rcases hGreeted with ⟨trimmed, hMem⟩
  exact ⟨trimmed, List.mem_append_left o hMem⟩

/-
  From the reset of the flag to the end of the connection it
  is silent until the connection has received a line.
-/
private def Gated (h : List Obs) (s : State) : Prop :=
  match s.upstream with
  | .locking | .draining | .hooking => s.Silent
  | .selecting conn => Greeted h conn ∨ s.Silent
  | .writing conn m =>
      Greeted h conn ∨ s.Silent ∧ ¬ m.IsHeartbeat
  | _ => True

/- The other tasks keep the gate shut. -/
private theorem gated_of_same
    {e : Event}
    (hStep : ProxyStep env s e s' o)
    (hSettled : HeartbeatsSettled s e)
    (hSame : s'.upstream = s.upstream)
    (hGated : Gated h s) :
    Gated (h ++ o) s' := by
  -- The flag may have been down when a line raised it.
  have hSilent (hBefore : s.Silent) :
      s'.Silent ∨ ∃ conn, s.upstream.Greets conn ∧
        Greeted (h ++ o) conn := by
    rcases stays_silent hStep hBefore with
      hAfter | ⟨conn, text, rfl, hText, hMem⟩
    · exact Or.inl hAfter
    · right
      refine ⟨conn, ?_,
        ⟨_, List.mem_append_right h hMem⟩⟩
      rcases hSettled with hBlank | hDone | hGreets
      · exact absurd hBlank hText
      · rw [hBefore.1] at hDone
        cases hDone
      · exact hGreets
  unfold Gated at hGated ⊢
  rw [hSame]
  cases hAt : s.upstream with
  | locking | draining | hooking =>
      rw [hAt] at hGated hSilent
      rcases hSilent hGated with hAfter | ⟨conn, hGreets, -⟩
      · exact hAfter
      · exact hGreets.elim
  | selecting conn =>
      rw [hAt] at hGated hSilent
      rcases hGated with hGreeted | hBefore
      · exact Or.inl hGreeted.mono
      · rcases hSilent hBefore with
          hAfter | ⟨conn', rfl, hGreeted⟩
        · exact Or.inr hAfter
        · exact Or.inl hGreeted
  | writing conn m =>
      rw [hAt] at hGated hSilent
      rcases hGated with hGreeted | ⟨hBefore, hOther⟩
      · exact Or.inl hGreeted.mono
      · rcases hSilent hBefore with
          hAfter | ⟨conn', rfl, hGreeted⟩
        · exact Or.inr ⟨hAfter, hOther⟩
        · exact Or.inl hGreeted
  | _ => trivial

/- The upstream task opens the gate for a new connection. -/
private theorem gated_of_upstream
    {event : UpstreamEvent}
    (hTask : UpstreamStep env s event s' o)
    (hSettled : HeartbeatsSettled s (.upstream event))
    (hGated : Gated h s) :
    Gated (h ++ o) s' := by
  unfold Gated at hGated
  cases hTask with
  | started hAt | connected hAt | stopped hAt | lost hAt
  | readerDead hAt => trivial
  | reset hAt => exact ⟨rfl, hSettled⟩
  | locked hAt hLock | unlocked hAt hEmpty =>
      rw [hAt] at hGated
      exact hGated
  | drainSent hAt hEntry hSend =>
      rw [hAt] at hGated
      unfold Gated
      simp only [hAt]
      exact hGated
  | drainLost hAt hEntry hRefused =>
      rw [hAt] at hGated
      unfold Gated
      simp only [hAt]
      exact hGated
  | spawned hAt =>
      rw [hAt] at hGated
      exact Or.inr hGated
  | took hAt hRecv =>
      rw [hAt] at hGated
      rcases hGated with hGreeted | ⟨hDown, hBeat, hQueue⟩
      · exact Or.inl hGreeted.mono
      · refine Or.inr ⟨⟨hDown, hBeat, ?_⟩, ?_⟩
        · intro m hMem
          exact hQueue m
            (Channel.mem_queue_of_recv hRecv hMem)
        · exact hQueue _ (Channel.received_mem_queue hRecv)
  | wrote hAt =>
      rw [hAt] at hGated
      rcases hGated with hGreeted | ⟨hSilent, -⟩
      · exact Or.inl hGreeted.mono
      · exact Or.inr hSilent

/-
  In every run whose resets find no heartbeat on its way and
  whose flag is raised by the current connection only, each
  heartbeat waits for a line of its own connection.
-/
theorem heartbeats_wait
    {es : List Event}
    (hRun : (proxy env).Run es h s)
    (hMeets : (proxy env).Meets HeartbeatsSettled
      (proxy env).init es) :
    HeartbeatsWait h := by
  suffices hBoth : HeartbeatsWait h ∧ Gated h s from hBoth.1
  refine Machine.guarded_induction
    (motive := fun _ h s => HeartbeatsWait h ∧ Gated h s)
    ?_ ?_ hRun hMeets
  · have hGated : Gated [] State.init := trivial
    exact ⟨History.preceded_nil, hGated⟩
  · intro es h s e s' o hBefore ih hSettled hNext
    rcases ih with ⟨hWait, hGated⟩
    have hStep := step_cases hNext
    refine ⟨?_, ?_⟩
    · apply History.preceded_append hWait
      intro y hMem hBeat
      cases y with
      | written conn m =>
          have hAt := (written_cases hStep hMem).2
          rw [Gated, hAt] at hGated
          rcases hGated with ⟨trimmed, hReceived⟩ | ⟨-, hOther⟩
          · exact ⟨_, hReceived, rfl⟩
          · exact absurd hBeat hOther
      | _ => cases hBeat
    · by_cases hUpstream : ∃ event, e = .upstream event
      · rcases hUpstream with ⟨event, rfl⟩
        cases hStep with
        | upstream hTask =>
            exact gated_of_upstream hTask hSettled hGated
      · have hSame : s'.upstream = s.upstream :=
          upstream_same hStep
            (fun event hEvent => hUpstream ⟨event, hEvent⟩)
        exact gated_of_same hStep hSettled hSame hGated

/- The first connection greets, and a heartbeat is queued. -/
def greeted : List Event :=
  parkConnected ++
    [.heartbeat .wake, .heartbeat .allocate,
      .heartbeat .send]

/- The message at the front of the queue is written. -/
def writeNext : List Event :=
  [.upstream .recv, .upstream (.write true)]

/- The heartbeat of the first connection. -/
def firstBeat : Message :=
  ⟨heartbeatLine firstId, heartbeatValue firstId,
    .heartbeat 0⟩

theorem heartbeats_wait_greeted :
    Obs.written 0 firstBeat ∈
      ((proxy parkEnv).outcome (greeted ++ writeNext)).2 ∧
    HeartbeatsWait
      ((proxy parkEnv).outcome (greeted ++ writeNext)).2 :=
  ⟨by decide +kernel,
    heartbeats_wait (Machine.run_outcome (by decide +kernel))
      (by decide +kernel)⟩

/-
  The heartbeat of the first connection is written to the
  second one, which has not sent a line yet.
-/
theorem early_heartbeat_reached :
    ∃ h s, (proxy parkEnv).Run
        (greeted ++ loseConnection 0 ++
          [.upstream .unlockPending, .upstream .spawnReader] ++
          writeNext) h s ∧
      ¬ HeartbeatsWait h := by
  refine ⟨_, _, Machine.run_outcome (by decide +kernel), ?_⟩
  intro hWait
  have hWritten :
      Obs.written 1 firstBeat ∈
        ((proxy parkEnv).outcome
          (greeted ++ loseConnection 0 ++
            [.upstream .unlockPending,
              .upstream .spawnReader] ++ writeNext)).2 := by
    decide +kernel
  have hNone : ∀ x ∈ ((proxy parkEnv).outcome
      (greeted ++ loseConnection 0 ++
        [.upstream .unlockPending,
          .upstream .spawnReader] ++ writeNext)).2,
      ¬ GreetsBefore x (.written 1 firstBeat) := by
    decide +kernel
  rcases hWait.exists_cause hWritten trivial with
    ⟨x, hMem, hGreets⟩
  exact hNone x hMem hGreets

end Control

end SeestarProxy
