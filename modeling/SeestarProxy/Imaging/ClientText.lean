import SeestarProxy.Boundary
import SeestarProxy.Control.ClientText
import SeestarProxy.Control.ReaderLoop
import SeestarProxy.Imaging.StepCases

/-
  Client text and the tasks of the imaging proxy.

  A handler passes its lines on without slicing them; the
  task that owns the upstream queue slices each line it
  takes, or each line it drops in replay mode, for the log.

  Main declarations:
    * `taskFate` and `ClientTextFits`
    * `client_task_iff` and `client_over`
    * `Replay`, `replayProxy` and `replay_task_iff`
    * `client_text_safe_iff` and `client_text_panics`
-/

------------------------------------------------------------
-- The Tasks of the Clients
------------------------------------------------------------

namespace SeestarProxy

namespace Imaging

open Library Protocol

/- A handler that fails returns the error of its read. -/
def Handler.fate (c : ClientId) : Handler → Served.Fate
| .ended | .failed => .returned c
| _ => .none

/- What a step of the proxy means for the clients' tasks. -/
def taskFate
    (s : State)
    (e : Event)
    (s' : State) : Served.Fate :=
  match e with
  | .accept => .accepted s.clients
  | .client c _ => (s'.handler c).fate c
  | _ => .none

/- The handler of a client is over. -/
def HandlerOver (s : State) (c : ClientId) : Prop :=
  s.handler c = .ended ∨ s.handler c = .failed

/- The task that owns the upstream queue is gone. -/
def QueueStopped (s : State) : Prop :=
  s.upstream = .stopped

/- The line that is taken from the queue has its preview. -/
def QueuedTextFits
    (debugLogged : Bool)
    (s : State)
    (n : Nat) : Prop :=
  debugLogged = true →
    match s.upstreamTx.recv with
    | some (msg, _) => Text.Fits msg.toList n
    | none => True

/- The text that a step of the proxy logs has its preview. -/
def ClientTextFits
    (debugLogged : Bool)
    (s : State) : Event → Prop
| .upstream .recv => QueuedTextFits debugLogged s 200
| _ => True

------------------------------------------------------------
-- Steps of the Proxy
------------------------------------------------------------

variable {debugLogged : Bool} {s s' : State} {e : Event}
variable {c d : ClientId} {event : HandlerEvent}
variable {o : List Obs}

/- A handler's step moves this handler only. -/
private theorem handler_step
    (hStep : handleClient s c event = some (s', o)) :
    s'.upstream = s.upstream ∧
      ∀ d, d ≠ c → s'.handler d = s.handler d := by
  cases handleClient_cases hStep with
  | blank => exact ⟨rfl, fun _ _ => rfl⟩
  | _ =>
      exact ⟨rfl, fun _ hOther =>
        Function.update_of_ne hOther ..⟩

/- The heartbeat leaves handlers and upstream task alone. -/
private theorem heartbeat_step
    {beat : HeartbeatEvent}
    (hStep : imagingHeartbeatTask s beat = some (s', o)) :
    s'.upstream = s.upstream ∧ s'.handler = s.handler := by
  unfold imagingHeartbeatTask at hStep
  split at hStep
  · cases hStep
    exact ⟨rfl, rfl⟩
  · split at hStep
    · cases hStep
      exact ⟨rfl, rfl⟩
    · cases hStep
      exact ⟨rfl, rfl⟩
    · cases hStep
  · cases hStep

/-
  What the upstream task does to the handlers, and when it
  is gone after its step.
-/
private theorem upstream_step
    {upstream : UpstreamEvent}
    (hStep : upstreamTask debugLogged s upstream =
      some (s', o)) :
    s'.handler = s.handler ∧
      (¬ QueueStopped s' ↔
        ClientTextFits debugLogged s (.upstream upstream)) := by
  unfold upstreamTask at hStep
  split at hStep
  · split at hStep
    · cases hStep
      exact ⟨rfl, iff_of_true nofun trivial⟩
    · cases hStep
  · cases hStep
    exact ⟨rfl, iff_of_true nofun trivial⟩
  · split at hStep
    · cases hStep
    · rename_i msg channel hRecv
      simp only [ClientTextFits, QueuedTextFits, hRecv]
      split at hStep
      · rename_i hPanics
        cases hStep
        rw [Control.previewPanics_iff] at hPanics
        exact ⟨rfl, iff_of_false (fun hRuns => hRuns rfl)
          (fun hFits => hPanics.2 (hFits hPanics.1))⟩
      · rename_i hFine
        cases hStep
        rw [Control.previewPanics_iff,
          not_and_not_right] at hFine
        exact ⟨rfl, iff_of_true nofun hFine⟩
  · cases hStep
    exact ⟨rfl, iff_of_true nofun trivial⟩
  · cases hStep
    exact ⟨rfl, iff_of_true nofun trivial⟩
  · split at hStep
    · cases hStep
      exact ⟨rfl, iff_of_true nofun trivial⟩
    · cases hStep
  · cases hStep

/- The events of the tasks that touch neither. -/
private def Event.IsElsewhere : Event → Prop
| .accept | .client _ _ | .upstream _ => False
| _ => True

/- They leave the upstream task and the handlers alone. -/
private theorem elsewhere_step
    (hStep : (proxy debugLogged).step s e = some (s', o))
    (hElsewhere : e.IsElsewhere) :
    s'.upstream = s.upstream ∧ s'.handler = s.handler := by
  cases e with
  | accept | client _ _ | upstream _ => cases hElsewhere
  | heartbeat beat => exact heartbeat_step hStep
  | fanout c event =>
      cases fanoutTask_cases hStep <;> exact ⟨rfl, rfl⟩
  | reader conn event =>
      cases upstreamReaderTask_cases hStep <;>
        exact ⟨rfl, rfl⟩
  | resolve =>
      cases hStep
      exact ⟨rfl, rfl⟩
  | arrive conn bytes =>
      simp only [proxy, step] at hStep
      split at hStep
      · cases hStep
        exact ⟨rfl, rfl⟩
      · cases hStep
  | hangUp conn =>
      simp only [proxy, step] at hStep
      split at hStep
      · cases hStep
        exact ⟨rfl, rfl⟩
      · cases hStep

/- A handler's fate is no panic. -/
private theorem not_panicked
    (s : State)
    (e : Event)
    (s' : State)
    (d : ClientId) :
    taskFate s e s' ≠ .panicked d := by
  cases e with
  | client c event =>
      simp only [taskFate, Handler.fate]
      split <;> nofun
  | _ => nofun

/-
  A step leaves the queue owned exactly when the text that
  it logs has its preview; it makes no task panic.
-/
theorem client_task_iff
    (hOwned : ¬ QueueStopped s)
    (hStep : (proxy debugLogged).step s e = some (s', o)) :
    (∀ d, taskFate s e s' ≠ .panicked d) ∧
        ¬ QueueStopped s' ↔
      ClientTextFits debugLogged s e := by
  rw [and_iff_right (not_panicked s e s')]
  have hSame
      (hUpstream : s'.upstream = s.upstream)
      (hFits : ClientTextFits debugLogged s e) :
      ¬ QueueStopped s' ↔ ClientTextFits debugLogged s e := by
    refine iff_of_true ?_ hFits
    unfold QueueStopped
    rw [hUpstream]
    exact hOwned
  cases e with
  | client c event =>
      exact hSame (handler_step hStep).1 trivial
  | upstream upstream => exact (upstream_step hStep).2
  | accept =>
      cases hStep
      exact hSame rfl trivial
  | _ => exact hSame (elsewhere_step hStep trivial).1 trivial

/- A step that leaves the handlers alone ends none. -/
private theorem over_of_same
    (hHandler : s'.handler = s.handler)
    (hOver : HandlerOver s' c) :
    HandlerOver s c := by
  unfold HandlerOver at hOver ⊢
  rw [hHandler] at hOver
  exact hOver

/- Only an accepted client gets a task, under a fresh id. -/
private theorem accept_of_accepted
    (hAccepted : taskFate s e s' = .accepted c) :
    e = .accept ∧ c = s.clients := by
  cases e with
  | accept =>
      cases hAccepted
      exact ⟨rfl, rfl⟩
  | client d event =>
      change (s'.handler d).fate d = _ at hAccepted
      cases hHandler : s'.handler d <;>
        rw [hHandler] at hAccepted <;> cases hAccepted
  | _ => cases hAccepted

/- Only returns end the handlers of clients. -/
theorem client_over
    (hStep : (proxy debugLogged).step s e = some (s', o))
    (hOver : HandlerOver s' c) :
    taskFate s e s' ≠ .accepted c ∧
      (HandlerOver s c ∨ taskFate s e s' = .returned c ∨
        taskFate s e s' = .panicked c) := by
  refine ⟨?_, ?_⟩
  · intro hAccepted
    rcases accept_of_accepted hAccepted with ⟨rfl, rfl⟩
    cases hStep
    simp [HandlerOver, acceptClient] at hOver
  · cases e with
    | accept =>
        left
        cases hStep
        by_cases hNew : c = s.clients
        · subst hNew
          simp [HandlerOver, acceptClient] at hOver
        · unfold HandlerOver acceptClient at hOver
          simp only [Function.update_of_ne hNew] at hOver
          exact hOver
    | client d event =>
        by_cases hOther : c = d
        · subst hOther
          right
          left
          simp only [taskFate]
          rcases hOver with hEnded | hFailed
          · rw [hEnded]
            rfl
          · rw [hFailed]
            rfl
        · left
          unfold HandlerOver at hOver ⊢
          rw [(handler_step hStep).2 c hOther] at hOver
          exact hOver
    | upstream upstream =>
        left
        exact over_of_same (upstream_step hStep).1 hOver
    | _ =>
        left
        exact over_of_same (elsewhere_step hStep trivial).2
          hOver

/- When the clients of the proxy are served safely. -/
theorem client_panics (debugLogged : Bool) :
    Served.Panics (proxy debugLogged) taskFate HandlerOver
      (fun _ _ => True) QueueStopped
      (ClientTextFits debugLogged) where
  fresh := fun _ hOver => by
    rcases hOver with hEnded | hFailed
    · cases hEnded
    · cases hFailed
  runs := nofun
  gone_step := client_over
  step_iff := by
    intro s e s' o _ hOwned hStep
    rw [← client_task_iff hOwned hStep,
      and_iff_right (fun _ _ => trivial)]

/- At the end of its stream a handler returns. -/
theorem client_leaves (debugLogged : Bool) :
    Served.Leaves (proxy debugLogged) taskFate
      (fun s c => s.handler c = .reading)
      (fun c => .client c .close)
      (fun s c => s.handler c = .ended) := by
  apply Served.leaves_of_close
  intro s c hReading
  refine ⟨{ s with
    handler := Function.update s.handler c .ended }, [],
    ?_, ?_, Function.update_self ..⟩
  · simp only [proxy, step, handleClient, hReading]
  · simp only [taskFate, Function.update_self]
    rfl

------------------------------------------------------------
-- Replay Mode
------------------------------------------------------------

/-
  The imaging proxy in replay mode: no task connects to the
  telescope, and the queue is drained.
-/
structure Replay where
  proxy : State
  draining : Bool

/- The tasks that also run in replay mode. -/
def Event.InReplay : Event → Prop
| .accept | .client _ _ | .fanout _ _ => True
| _ => False

instance : ∀ e : Event, Decidable e.InReplay
| .accept | .client _ _ | .fanout _ _ => isTrue trivial
| .resolve | .arrive _ _ | .hangUp _ | .heartbeat _
| .upstream _ | .reader _ _ => isFalse fun hFalse => hFalse

/- What the proxy does next in replay mode. -/
inductive ReplayEvent where
| live (e : Event)
| play (frame : Bytes)
| drain

/- One step of the proxy in replay mode. -/
def replayStep
    (debugLogged : Bool)
    (s : Replay) :
    ReplayEvent → Option (Replay × List Obs)
| .live e =>
    if e.InReplay then
      (step debugLogged s.proxy e).map fun (next, o) =>
        ({ s with proxy := next }, o)
    else
      none
| .play frame =>
    some ({ s with
      proxy := { s.proxy with
        frames := s.proxy.frames ++ [(0, frame)] } }, [])
| .drain =>
    if s.draining = true then
      match s.proxy.upstreamTx.recv with
      | none => none
      | some (msg, channel) =>
          if Control.previewPanics debugLogged msg 120 then
            some ({ s with
              proxy := { s.proxy with
                upstreamTx := s.proxy.upstreamTx.close }
              draining := false }, [])
          else
            some ({ s with
              proxy := { s.proxy with
                upstreamTx := channel } }, [])
    else
      none

/- The proxy in replay mode as a machine. -/
def replayProxy (debugLogged : Bool) :
    Machine Replay ReplayEvent Obs where
  init :=
    { proxy := State.init
      draining := true }
  step := replayStep debugLogged

/- What a step means for the tasks of the clients. -/
def replayFate
    (s : Replay)
    (e : ReplayEvent)
    (s' : Replay) : Served.Fate :=
  match e with
  | .live e => taskFate s.proxy e s'.proxy
  | .play _ | .drain => .none

/- The text that a step logs has its preview. -/
def ReplayTextFits
    (debugLogged : Bool)
    (s : Replay) : ReplayEvent → Prop
| .drain => QueuedTextFits debugLogged s.proxy 120
| _ => True

variable {r r' : Replay} {replayed : ReplayEvent}

/- A step of a task that also runs in replay mode. -/
private theorem live_step
    (hStep : (replayProxy debugLogged).step r (.live e) =
      some (r', o)) :
    r'.draining = r.draining ∧
      (proxy debugLogged).step r.proxy e =
        some (r'.proxy, o) := by
  simp only [replayProxy, replayStep] at hStep
  split at hStep
  · rcases Option.map_eq_some_iff.mp hStep with
      ⟨⟨next, shown⟩, hNext, hState⟩
    cases hState
    exact ⟨rfl, hNext⟩
  · cases hStep

/-
  What draining does to the handlers, and when the drain is
  gone after its step.
-/
private theorem drain_step
    (hStep : (replayProxy debugLogged).step r .drain =
      some (r', o)) :
    r'.proxy.handler = r.proxy.handler ∧
      (¬ r'.draining = false ↔
        ReplayTextFits debugLogged r .drain) := by
  simp only [replayProxy, replayStep] at hStep
  split at hStep
  · rename_i hDraining
    split at hStep
    · cases hStep
    · rename_i msg channel hRecv
      simp only [ReplayTextFits, QueuedTextFits, hRecv]
      split at hStep
      · rename_i hPanics
        cases hStep
        rw [Control.previewPanics_iff] at hPanics
        exact ⟨rfl, iff_of_false (fun hRuns => hRuns rfl)
          (fun hFits => hPanics.2 (hFits hPanics.1))⟩
      · rename_i hFine
        cases hStep
        rw [Control.previewPanics_iff,
          not_and_not_right] at hFine
        refine ⟨rfl, iff_of_true ?_ hFine⟩
        rw [hDraining]
        nofun
  · cases hStep

/-
  A step in replay mode leaves the queue drained exactly
  when the text that it logs has its preview; it makes no
  task panic.
-/
theorem replay_task_iff
    (hDraining : ¬ r.draining = false)
    (hStep : (replayProxy debugLogged).step r replayed =
      some (r', o)) :
    (∀ d, replayFate r replayed r' ≠ .panicked d) ∧
        ¬ r'.draining = false ↔
      ReplayTextFits debugLogged r replayed := by
  cases replayed with
  | live e =>
      refine iff_of_true ⟨not_panicked _ e _, ?_⟩ trivial
      rw [(live_step hStep).1]
      exact hDraining
  | play frame =>
      cases hStep
      exact iff_of_true ⟨nofun, hDraining⟩ trivial
  | drain =>
      rw [and_iff_right (by nofun)]
      exact (drain_step hStep).2

/- Only returns end the handlers of clients. -/
theorem replay_over
    (hStep : (replayProxy debugLogged).step r replayed =
      some (r', o))
    (hOver : HandlerOver r'.proxy c) :
    replayFate r replayed r' ≠ .accepted c ∧
      (HandlerOver r.proxy c ∨
        replayFate r replayed r' = .returned c ∨
        replayFate r replayed r' = .panicked c) := by
  cases replayed with
  | live e => exact client_over (live_step hStep).2 hOver
  | play frame =>
      cases hStep
      exact ⟨nofun, Or.inl (over_of_same rfl hOver)⟩
  | drain =>
      exact ⟨nofun, Or.inl
        (over_of_same (drain_step hStep).1 hOver)⟩

/- When the clients are served safely in replay mode. -/
theorem replay_panics (debugLogged : Bool) :
    Served.Panics (replayProxy debugLogged) replayFate
      (fun r c => HandlerOver r.proxy c)
      (fun _ _ => True)
      (fun r => r.draining = false)
      (ReplayTextFits debugLogged) where
  fresh := fun _ hOver => by
    rcases hOver with hEnded | hFailed
    · cases hEnded
    · cases hFailed
  runs := nofun
  gone_step := replay_over
  step_iff := by
    intro r replayed r' o _ hDraining hStep
    rw [← replay_task_iff hDraining hStep,
      and_iff_right (fun _ _ => trivial)]

end Imaging

------------------------------------------------------------
-- Both Proxies
------------------------------------------------------------

open Library Served

/-
  On both ports, with a telescope and in replay mode, no
  handler panics, each that is over has returned, on the
  control side its writer stops, and the queue stays owned,
  exactly in the runs in which every text that is logged has
  its preview and no handler returns an error to a writer
  that runs. A handler whose client closes returns, its
  writer stops, and its client leaves.
-/
theorem client_text_safe_iff
    (env : Control.Env)
    (debugLogged : Bool) :
    (SafeExactly (Control.proxy env) Control.taskFate
        Control.HandlerOver Control.WriterStops
        Control.QueueStopped (Control.ClientServed env) ∧
      SafeExactly (Control.replayProxy env)
        Control.replayFate
        (fun r c => Control.HandlerOver r.proxy c)
        (fun r c => Control.WriterStops r.proxy c)
        (fun r => r.draining = false)
        (Control.ReplayServed env) ∧
      Leaves (Control.proxy env) Control.taskFate
        (fun s c => s.handler c = .reading)
        (fun c => .client c .close)
        (fun s c => s.handler c = .ended ∧
          Control.WriterStops s c)) ∧
      SafeExactly (Imaging.proxy debugLogged)
          Imaging.taskFate Imaging.HandlerOver
          (fun _ _ => True) Imaging.QueueStopped
          (Imaging.ClientTextFits debugLogged) ∧
        SafeExactly (Imaging.replayProxy debugLogged)
          Imaging.replayFate
          (fun r c => Imaging.HandlerOver r.proxy c)
          (fun _ _ => True)
          (fun r => r.draining = false)
          (Imaging.ReplayTextFits debugLogged) ∧
        Leaves (Imaging.proxy debugLogged)
          Imaging.taskFate
          (fun s c => s.handler c = .reading)
          (fun c => .client c .close)
          (fun s c => s.handler c = .ended) := by
  constructor
  · exact ⟨(Control.client_panics env).safeExactly,
      (Control.replay_panics env).safeExactly,
      Control.client_leaves env⟩
  · exact ⟨(Imaging.client_panics debugLogged).safeExactly,
      (Imaging.replay_panics debugLogged).safeExactly,
      Imaging.client_leaves debugLogged⟩

/- 34 bytes that are no UTF-8, decoded. -/
def garbage : String :=
  String.ofList (List.replicate 34 '\uFFFD')

/- A command whose character stands across byte 200. -/
def wideCommand : String :=
  String.ofList (List.replicate 199 'a' ++ ['é'])

def warnEnv : Control.Env where
  serde := Control.emptyEnv.serde
  hooks := false
  warnLogged := true
  debugLogged := false

/- A control client sends garbage. -/
def garbageSent :
    List (Served.Event Control.Event) :=
  [.inner .notify, .inner .accept,
    .inner (.client 0 (.line garbage))]

/- The read of a control client fails. -/
def connectionReset :
    List (Served.Event Control.Event) :=
  [.inner .notify, .inner .accept,
    .inner (.client 0 .readError), .leave 0]

/- An imaging client sends the command. -/
def commandSent :
    List (Served.Event Imaging.Event) :=
  [.inner .resolve, .inner (.upstream .start),
    .inner (.upstream .connect), .inner .accept,
    .inner (.client 0 (.line wideCommand)),
    .inner (.client 0 .send), .inner (.upstream .recv)]

/-
  Garbage on the control port makes the handler panic: its
  client never leaves. After a read error the client leaves
  with its writer running, which nothing stops. With debug
  logging a command ends the task that owns the queue of the
  imaging port.
-/
theorem client_text_panics :
    (∃ h s, (served (Control.proxy warnEnv)
        Control.taskFate).Run garbageSent h s ∧
      s.task 0 = .panicked) ∧
    (∃ h s, (served (Control.proxy warnEnv)
        Control.taskFate).Run connectionReset h s ∧
      Control.HandlerOver s.inner 0 ∧ s.task 0 = .left ∧
      ¬ Control.WriterStops s.inner 0) ∧
    ∃ h s, (served (Imaging.proxy true)
        Imaging.taskFate).Run commandSent h s ∧
      Imaging.QueueStopped s.inner := by
  refine ⟨Machine.exists_run (by decide +kernel), ?_, ?_⟩
  · unfold Control.HandlerOver
    exact Machine.exists_run (by decide +kernel)
  · unfold Imaging.QueueStopped
    exact Machine.exists_run (by decide +kernel)

end SeestarProxy
