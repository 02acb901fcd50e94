import SeestarProxy.Boundary
import SeestarProxy.Control.Connections
import SeestarProxy.Library.Served

/-
  Client text and the tasks of the control proxy.

  A handler slices the text of a line it cannot parse or
  that the request hook answers, and the task that owns the
  upstream queue slices each line it takes, or each line it
  drops in replay mode. A handler panics, or that task is
  gone, exactly when one of these slices ends inside a
  character. The writer of a client outlives a handler that
  returns an error, which never gets to the abort.

  Main declarations:
    * `taskFate` and `ClientTextFits`
    * `client_task_iff` and `client_over`
    * `WriterStops`, `ErrorsFindNoWriter` and
      `writers_stop_step_iff`
    * `Replay`, `replayProxy`, `replay_task_iff` and
      `replay_writers_iff`
-/

------------------------------------------------------------
-- The Tasks of the Clients
------------------------------------------------------------

namespace SeestarProxy

namespace Control

open Library Protocol

/-
  The events at which a failing handler returns an error, of
  the read or of printing a notification. It panics at all
  others.
-/
def HandlerEvent.ReturnsError : HandlerEvent → Prop
| .readError | .onRequest .forward
| .onRequest (.modify _) => True
| _ => False

instance : ∀ event : HandlerEvent,
    Decidable event.ReturnsError
| .readError | .onRequest .forward
| .onRequest (.modify _) => isTrue trivial
| .line _ | .onRequest .block | .onRequest (.reply _)
| .sendReply | .register | .sendRefusal | .sendUpstream
| .unregister | .close => isFalse fun hFalse => hFalse

/- What a handler's step means for its task. -/
def Handler.fate
    (c : ClientId)
    (event : HandlerEvent) : Handler → Served.Fate
| .ended => .returned c
| .failed =>
    if event.ReturnsError then .returned c else .panicked c
| _ => .none

/- What a step of the proxy means for the clients' tasks. -/
def taskFate
    (s : State)
    (e : Event)
    (s' : State) : Served.Fate :=
  match e with
  | .accept => .accepted s.clients
  | .client c event => (s'.handler c).fate c event
  | _ => .none

/- The handler of a client is over. -/
def HandlerOver (s : State) (c : ClientId) : Prop :=
  s.handler c = .ended ∨ s.handler c = .failed

/- The task that owns the upstream queue is gone. -/
def QueueStopped (s : State) : Prop :=
  s.upstream = .stopped

------------------------------------------------------------
-- What a Handler Slices
------------------------------------------------------------

variable {env : Env} {s s' : State} {e : Event}
variable {c d : ClientId} {event : HandlerEvent}
variable {o : List Obs}

/- The text that a handler's step logs has its preview. -/
def HandlerTextFits
    (env : Env)
    (s : State)
    (c : ClientId) : HandlerEvent → Prop
| .line text =>
    env.warnLogged = true →
      env.serde.fromStr (Text.trim text) = none →
        Text.Fits (Text.trim text).toList 100
| .onRequest .block =>
    env.debugLogged = true →
      match s.handler c with
      | .hooking trimmed _ => Text.Fits trimmed.toList 100
      | _ => True
| .onRequest (.reply json) =>
    env.debugLogged = true → Text.Fits json.toList 100
| _ => True

/- A message that is let through panics nowhere. -/
private theorem fate_forwardMessage
    {sent msg : Value}
    {action : HookAction}
    (hAction : (HandlerEvent.onRequest action).ReturnsError) :
    ((forwardMessage env s c sent action msg).1.handler
        c).fate c (.onRequest action) ≠ .panicked d := by
  unfold forwardMessage
  split
  · simp only [Function.update_self]
    split <;> nofun
  · simp only [Function.update_self]
    split
    · nofun
    · simp only [Handler.fate, if_pos hAction]
      nofun

/- The preview decides between a panic and the next stage. -/
private theorem fate_preview
    (c : ClientId)
    (event : HandlerEvent)
    (logged : Bool)
    (text : String)
    (next : Handler)
    (hEvent : ¬ event.ReturnsError)
    (hNext : ∀ d, next.fate c event ≠ .panicked d) :
    (∀ d, ((if previewPanics logged text 100 then
        .failed else next : Handler).fate c event) ≠
          .panicked d) ↔
      (logged = true → Text.Fits text.toList 100) := by
  by_cases hPanics : previewPanics logged text 100 = true
  · rw [if_pos hPanics]
    rw [previewPanics_iff] at hPanics
    apply iff_of_false
    · intro hNone
      apply hNone c
      rw [Handler.fate, if_neg hEvent]
    · exact fun hFits => hPanics.2 (hFits hPanics.1)
  · rw [if_neg hPanics]
    rw [previewPanics_iff, not_and_not_right] at hPanics
    exact iff_of_true hNext hPanics

/-
  A handler panics exactly when the text that it logs has no
  preview.
-/
theorem handler_panics_iff
    (hStep : handleClient env s c event = some (s', o)) :
    (∀ d, (s'.handler c).fate c event ≠ .panicked d) ↔
      HandlerTextFits env s c event := by
  have hMoved
      {next : Handler}
      (hHandler : s'.handler c = next)
      (hNext : ∀ d, next.fate c event ≠ .panicked d)
      (hFits : HandlerTextFits env s c event) :
      (∀ d, (s'.handler c).fate c event ≠ .panicked d) ↔
        HandlerTextFits env s c event := by
    rw [hHandler]
    exact iff_of_true hNext hFits
  unfold handleClient at hStep
  split at hStep
  · rename_i text hAt
    simp only at hStep
    split at hStep
    · rename_i hBlank
      cases hStep
      refine iff_of_true ?_ ?_
      · rw [hAt]
        nofun
      · intro _ _
        rw [hBlank]
        exact Or.inl (Nat.zero_le _)
    · split at hStep
      · rename_i hParse
        have hPreview := fate_preview c (.line text)
          env.warnLogged (Text.trim text) .reading
          (fun hFalse => hFalse) nofun
        have hHandler : s'.handler c =
            if previewPanics env.warnLogged
                (Text.trim text) 100 then
              .failed else .reading := by
          split at hStep
          · rename_i hPanics
            cases hStep
            rw [if_pos hPanics]
            exact Function.update_self ..
          · rename_i hFine
            cases hStep
            rw [if_neg hFine]
            exact hAt
        rw [hHandler, hPreview]
        exact ⟨fun hFits hLogged _ => hFits hLogged,
          fun hFits hLogged => hFits hLogged hParse⟩
      · rename_i sent hParse
        cases hStep
        refine iff_of_true ?_ ?_
        · simp only [Function.update_self]
          nofun
        · intro _ hNone
          rw [hParse] at hNone
          cases hNone
  · rename_i action trimmed sent hAt
    split at hStep
    · cases hStep
    · split at hStep
      · have hState : _ = s' :=
          congrArg Prod.fst (Option.some.inj hStep)
        rw [← hState]
        exact iff_of_true
          (fun _ => fate_forwardMessage trivial) trivial
      · have hState : _ = s' :=
          congrArg Prod.fst (Option.some.inj hStep)
        rw [← hState]
        exact iff_of_true
          (fun _ => fate_forwardMessage trivial) trivial
      · cases hStep
        have hPreview := fate_preview c
          (.onRequest .block) env.debugLogged trimmed .reading
          (fun hFalse => hFalse) nofun
        simp only [Function.update_self]
        rw [hPreview]
        simp only [HandlerTextFits, hAt]
      · rename_i json _
        cases hStep
        have hPreview := fate_preview c
          (.onRequest (.reply json)) env.debugLogged json
          (.replying json) (fun hFalse => hFalse) nofun
        simp only [Function.update_self]
        rw [hPreview]
        rfl
  · split at hStep
    · cases hStep
      exact hMoved (Function.update_self ..) nofun trivial
    · cases hStep
      exact hMoved (Function.update_self ..) nofun trivial
    · cases hStep
  · split at hStep
    · cases hStep
    · split at hStep
      · simp only at hStep
        split at hStep
        · cases hStep
          exact hMoved (Function.update_self ..) nofun trivial
        · cases hStep
          exact hMoved (Function.update_self ..) nofun trivial
        · cases hStep
          exact hMoved (Function.update_self ..) nofun trivial
      · cases hStep
        exact hMoved (Function.update_self ..) nofun trivial
  · split at hStep
    · cases hStep
      exact hMoved (Function.update_self ..) nofun trivial
    · cases hStep
      exact hMoved (Function.update_self ..) nofun trivial
    · cases hStep
  · simp only at hStep
    split at hStep
    · cases hStep
      exact hMoved (Function.update_self ..) nofun trivial
    · cases hStep
      exact hMoved (Function.update_self ..) nofun trivial
    · cases hStep
  · simp only at hStep
    split at hStep
    · cases hStep
      exact hMoved (Function.update_self ..) nofun trivial
    · cases hStep
      exact hMoved (Function.update_self ..) nofun trivial
    · cases hStep
  · split at hStep
    · cases hStep
    · cases hStep
      exact hMoved (Function.update_self ..) nofun trivial
  · cases hStep
    exact hMoved (Function.update_self ..) nofun trivial
  · cases hStep
    exact hMoved (Function.update_self ..) nofun trivial
  · cases hStep

------------------------------------------------------------
-- The Queue
------------------------------------------------------------

/- The line that is taken from the queue has its preview. -/
def QueuedTextFits
    (env : Env)
    (s : State)
    (n : Nat) : Prop :=
  env.debugLogged = true →
    match s.upstreamTx.recv with
    | some (message, _) => Text.Fits message.line.toList n
    | none => True

/- The text that a step of the proxy logs has its preview. -/
def ClientTextFits
    (env : Env)
    (s : State) : Event → Prop
| .client c event => HandlerTextFits env s c event
| .upstream .recv => QueuedTextFits env s 200
| _ => True

/-
  The upstream task is gone after it takes a line exactly
  when the line has no preview.
-/
private theorem recv_stops_iff
    (hStep : upstreamTask env s .recv = some (s', o)) :
    ¬ QueueStopped s' ↔ QueuedTextFits env s 200 := by
  unfold QueueStopped QueuedTextFits
  cases hAt : s.upstream with
  | selecting conn =>
      simp only [upstreamTask, hAt] at hStep
      split at hStep
      · cases hStep
      · rename_i message channel hRecv
        simp only [hRecv]
        split at hStep
        · rename_i hPanics
          cases hStep
          rw [previewPanics_iff] at hPanics
          exact iff_of_false (fun hRuns => hRuns rfl)
            (fun hFits => hPanics.2 (hFits hPanics.1))
        · rename_i hFine
          cases hStep
          rw [previewPanics_iff, not_and_not_right] at hFine
          exact iff_of_true nofun hFine
  | _ => simp only [upstreamTask, hAt] at hStep; cases hStep

/-
  A step makes no task panic and leaves the queue owned
  exactly when the text that it logs has its preview.
-/
theorem client_task_iff
    (hOwned : ¬ QueueStopped s)
    (hStep : (proxy env).step s e = some (s', o)) :
    (∀ d, taskFate s e s' ≠ .panicked d) ∧
        ¬ QueueStopped s' ↔
      ClientTextFits env s e := by
  have hSame
      (hUpstream : s'.upstream = s.upstream)
      (hFate : ∀ d, taskFate s e s' ≠ .panicked d)
      (hFits : ClientTextFits env s e) :
      (∀ d, taskFate s e s' ≠ .panicked d) ∧
          ¬ QueueStopped s' ↔
        ClientTextFits env s e := by
    refine iff_of_true ⟨hFate, ?_⟩ hFits
    unfold QueueStopped
    rw [hUpstream]
    exact hOwned
  cases step_cases hStep with
  | @client c event _ _ hTask =>
      have hUpstream : s'.upstream = s.upstream := by
        cases hTask <;> rfl
      have hStays : ¬ QueueStopped s' := by
        unfold QueueStopped
        rw [hUpstream]
        exact hOwned
      rw [and_iff_left hStays]
      exact handler_panics_iff hStep
  | writer hTask =>
      apply hSame ?_ nofun trivial
      cases hTask <;> rfl
  | heartbeat hTask =>
      apply hSame ?_ nofun trivial
      cases hTask <;> rfl
  | reader hTask =>
      apply hSame ?_ nofun trivial
      cases hTask <;> rfl
  | upstream hTask =>
      rw [and_iff_right (by nofun)]
      cases hTask with
      | took hAt hRecv => exact recv_stops_iff hStep
      | stopped hAt => exact recv_stops_iff hStep
      | drainSent | drainLost =>
          exact iff_of_true hOwned trivial
      | _ => exact iff_of_true nofun trivial
  | _ => exact hSame rfl nofun trivial

------------------------------------------------------------
-- Handlers That Are Over
------------------------------------------------------------

/- A step that leaves the handlers alone ends none. -/
private theorem over_of_same
    (hHandler : s'.handler = s.handler)
    (hOver : HandlerOver s' c) :
    HandlerOver s c := by
  unfold HandlerOver at hOver ⊢
  rw [hHandler] at hOver
  exact hOver

/- A new handler is not over. -/
private theorem over_acceptClient
    (hOver : HandlerOver (acceptClient s) c) :
    c ≠ s.clients ∧ HandlerOver s c := by
  by_cases hNew : c = s.clients
  · subst hNew
    simp [HandlerOver, acceptClient] at hOver
  · unfold HandlerOver acceptClient at hOver
    simp only [Function.update_of_ne hNew] at hOver
    exact ⟨hNew, hOver⟩

/- A handler is over by a return or a panic of its own. -/
private theorem over_of_handler
    (hTask : HandlerStep env s d event s' o)
    (hOver : HandlerOver s' c) :
    HandlerOver s c ∨
      (s'.handler d).fate d event = .returned c ∨
        (s'.handler d).fate d event = .panicked c := by
  by_cases hOther : c = d
  · subst hOther
    right
    rcases hOver with hEnded | hFailed
    · rw [hEnded]
      exact Or.inl rfl
    · rw [hFailed, Handler.fate]
      split
      · exact Or.inl rfl
      · exact Or.inr rfl
  · left
    unfold HandlerOver at hOver ⊢
    rw [hTask.handler_of_ne hOther] at hOver
    exact hOver

/- Only returns and panics end the handlers of clients. -/
theorem client_over
    (hStep : (proxy env).step s e = some (s', o))
    (hOver : HandlerOver s' c) :
    taskFate s e s' ≠ .accepted c ∧
      (HandlerOver s c ∨ taskFate s e s' = .returned c ∨
        taskFate s e s' = .panicked c) := by
  cases step_cases hStep with
  | accepted =>
      rcases over_acceptClient hOver with ⟨hNew, hBefore⟩
      refine ⟨?_, Or.inl hBefore⟩
      intro hAccepted
      cases hAccepted
      exact hNew rfl
  | client hTask =>
      refine ⟨?_, over_of_handler hTask hOver⟩
      simp only [taskFate, Handler.fate]
      split
      · nofun
      · split <;> nofun
      · nofun
  | writer hTask =>
      refine ⟨nofun, Or.inl (over_of_same ?_ hOver)⟩
      cases hTask <;> rfl
  | heartbeat hTask =>
      refine ⟨nofun, Or.inl (over_of_same ?_ hOver)⟩
      cases hTask <;> rfl
  | upstream hTask =>
      refine ⟨nofun, Or.inl (over_of_same ?_ hOver)⟩
      cases hTask <;> rfl
  | reader hTask =>
      refine ⟨nofun, Or.inl (over_of_same ?_ hOver)⟩
      cases hTask <;> rfl
  | _ => exact ⟨nofun, Or.inl (over_of_same rfl hOver)⟩

------------------------------------------------------------
-- Writers of Handlers That Are Over
------------------------------------------------------------

/- The writer has ended, or its abort ends it now. -/
def WriterStops (s : State) (c : ClientId) : Prop :=
  (s.writer c).IsLive →
    ∃ s' o, clientWriter s c .abort = some (s', o) ∧
      s'.writer c = .ended

/-
  A live writer is aborted by a handler that got to its end,
  and by no other.
-/
theorem writerStops_iff :
    WriterStops s c ↔
      ((s.writer c).IsLive → s.handler c = .ended) := by
  unfold WriterStops
  refine imp_congr_right ?_
  intro hLive
  constructor
  · rintro ⟨s', o, hAbort, -⟩
    by_contra hRuns
    cases hAt : s.writer c with
    | selecting | writing =>
        simp [clientWriter, hAt, hRuns] at hAbort
    | absent | ended =>
        rw [hAt] at hLive
        exact hLive
  · intro hEnded
    cases hAt : s.writer c with
    | selecting | writing =>
        simp only [clientWriter, hAt, hEnded]
        exact ⟨_, _, rfl, Function.update_self ..⟩
    | absent | ended =>
        rw [hAt] at hLive
        exact hLive.elim

instance : Decidable (WriterStops s c) :=
  decidable_of_iff _ writerStops_iff.symm

/- All writers are stopped if no failed handler has one. -/
private theorem writers_stop_iff :
    (∀ c, HandlerOver s c → WriterStops s c) ↔
      ∀ c, s.handler c = .failed →
        ¬ (s.writer c).IsLive := by
  constructor
  · intro hStops c hFailed hLive
    have hEnded := writerStops_iff.mp
      (hStops c (Or.inr hFailed)) hLive
    rw [hFailed] at hEnded
    cases hEnded
  · intro hNone c hOver
    rw [writerStops_iff]
    intro hLive
    rcases hOver with hEnded | hFailed
    · exact hEnded
    · exact absurd hLive (hNone c hFailed)

/-
  A handler that returns an error, of a read or of printing
  a message without an id, finds its writer not running.
-/
def ErrorFindsNoWriter
    (env : Env)
    (s : State)
    (c : ClientId) : HandlerEvent → Prop
| .readError => ¬ (s.writer c).IsLive
| .onRequest action =>
    match s.handler c with
    | .hooking _ sent =>
        ∀ msg, hookProcessed env sent action = some msg →
          getId msg = none → env.serde.toStr msg = none →
            ¬ (s.writer c).IsLive
    | _ => True
| _ => True

/- The condition for all steps of the proxy. -/
def ErrorsFindNoWriter
    (env : Env)
    (s : State) : Event → Prop
| .client c event => ErrorFindsNoWriter env s c event
| _ => True

/- A message is not passed on when it cannot be printed. -/
private theorem forwardMessage_failed_iff
    {sent msg : Value}
    {action : HookAction} :
    (forwardMessage env s c sent action msg).1.handler c =
        .failed ↔
      getId msg = none ∧ env.serde.toStr msg = none := by
  unfold forwardMessage
  cases hId : getId msg with
  | some originalId =>
      simp only [Function.update_self]
      split <;> simp
  | none =>
      simp only [Function.update_self]
      split
      · rename_i hText
        simp [hText]
      · rename_i hText
        simp [hText]

/- A message that the hook blocks or answers ends there. -/
private theorem hookProcessed_of_not_returnsError
    {sent : Value}
    {action : HookAction}
    (hNot :
      ¬ (HandlerEvent.onRequest action).ReturnsError) :
    hookProcessed env sent action = none := by
  cases action with
  | forward => exact absurd trivial hNot
  | modify json => exact absurd trivial hNot
  | block => rfl
  | reply json => rfl

/-
  Without a panic the handler fails only by returning an
  error, so the condition is about that writer.
-/
private theorem error_finds_iff
    (hStep : handleClient env s c event = some (s', o))
    (hNone : ∀ d, (s'.handler c).fate c event ≠ .panicked d) :
    (s'.handler c = .failed → ¬ (s.writer c).IsLive) ↔
      ErrorFindsNoWriter env s c event := by
  have hPassed
      {sent msg : Value}
      {action : HookAction}
      (hState : (forwardMessage env s c sent action msg).1 =
        s') :
      (s'.handler c = .failed → ¬ (s.writer c).IsLive) ↔
        ∀ msg', some msg = some msg' →
          getId msg' = none → env.serde.toStr msg' = none →
            ¬ (s.writer c).IsLive := by
    rw [← hState, forwardMessage_failed_iff]
    constructor
    · rintro hNot msg' hSame hId hText
      cases hSame
      exact hNot ⟨hId, hText⟩
    · rintro hNot ⟨hId, hText⟩
      exact hNot msg rfl hId hText
  by_cases hError : event.ReturnsError
  · cases event with
    | readError =>
        cases hAt : s.handler c with
        | reading =>
            simp only [handleClient, hAt] at hStep
            cases hStep
            simp [ErrorFindsNoWriter]
        | _ => simp [handleClient, hAt] at hStep
    | onRequest action =>
        cases hAt : s.handler c with
        | hooking trimmed sent =>
            simp only [handleClient, hAt] at hStep
            simp only [ErrorFindsNoWriter, hAt]
            split at hStep
            · cases hStep
            · cases action with
              | forward =>
                  exact hPassed (congrArg Prod.fst
                    (Option.some.inj hStep))
              | modify json =>
                  exact hPassed (congrArg Prod.fst
                    (Option.some.inj hStep))
              | block => exact hError.elim
              | reply json => exact hError.elim
        | _ => simp [handleClient, hAt] at hStep
    | _ => exact hError.elim
  · apply iff_of_true
    · intro hFailed
      have hNot := hNone c
      rw [hFailed, Handler.fate, if_neg hError] at hNot
      exact absurd rfl hNot
    · cases event with
      | readError => exact absurd trivial hError
      | onRequest action =>
          simp only [ErrorFindsNoWriter]
          split
          · intro msg hHook
            rw [hookProcessed_of_not_returnsError hError]
              at hHook
            cases hHook
          · trivial
      | _ => trivial

/-
  After a step without a panic the writers of all handlers
  that are over stop exactly when the step returns no error
  to a running writer.
-/
theorem writers_stop_step_iff
    (hStops : ∀ c, HandlerOver s c → WriterStops s c)
    (hNone : ∀ d, taskFate s e s' ≠ .panicked d)
    (hStep : (proxy env).step s e = some (s', o)) :
    (∀ c, HandlerOver s' c → WriterStops s' c) ↔
      ErrorsFindNoWriter env s e := by
  rw [writers_stop_iff] at hStops ⊢
  have hSame
      (hHandler : s'.handler = s.handler)
      (hWriter : s'.writer = s.writer)
      (hFits : ErrorsFindNoWriter env s e) :
      (∀ c, s'.handler c = .failed →
          ¬ (s'.writer c).IsLive) ↔
        ErrorsFindNoWriter env s e := by
    rw [hHandler, hWriter]
    exact iff_of_true hStops hFits
  cases step_cases hStep with
  | accepted =>
      refine iff_of_true ?_ trivial
      intro c hFailed
      unfold acceptClient at hFailed ⊢
      by_cases hNew : c = s.clients
      · subst hNew
        simp at hFailed
      · simp only [Function.update_of_ne hNew] at hFailed ⊢
        exact hStops c hFailed
  | @client c event _ _ hTask =>
      have hWriter : s'.writer = s.writer := by
        cases hTask <;> rfl
      have hOwn : (s'.handler c = .failed →
            ¬ (s.writer c).IsLive) ↔
          ErrorFindsNoWriter env s c event :=
        error_finds_iff hStep hNone
      change _ ↔ ErrorFindsNoWriter env s c event
      rw [← hOwn, hWriter]
      constructor
      · exact fun hAll => hAll c
      · intro hHere d hFailed
        by_cases hClient : d = c
        · subst hClient
          exact hHere hFailed
        · rw [hTask.handler_of_ne hClient] at hFailed
          exact hStops d hFailed
  | @writer c event _ _ hTask =>
      have hHandler : s'.handler = s.handler := by
        cases hTask <;> rfl
      refine iff_of_true ?_ trivial
      intro d hFailed
      rw [hHandler] at hFailed
      have hClient : d ≠ c := by
        rintro rfl
        exact hStops d hFailed hTask.isLive
      rw [hTask.writer_of_ne hClient]
      exact hStops d hFailed
  | heartbeat hTask =>
      cases hTask <;> exact hSame rfl rfl trivial
  | upstream hTask =>
      cases hTask <;> exact hSame rfl rfl trivial
  | reader hTask =>
      cases hTask <;> exact hSame rfl rfl trivial
  | _ => exact hSame rfl rfl trivial

/-
  The text that a step logs has its preview, and the step
  returns no error to a running writer.
-/
def ClientServed
    (env : Env)
    (s : State)
    (e : Event) : Prop :=
  ClientTextFits env s e ∧ ErrorsFindNoWriter env s e

/- When the clients of the proxy are served safely. -/
theorem client_panics (env : Env) :
    Served.Panics (proxy env) taskFate HandlerOver
      WriterStops QueueStopped (ClientServed env) where
  fresh := fun _ hOver => by
    rcases hOver with hEnded | hFailed
    · cases hEnded
    · cases hFailed
  runs := nofun
  gone_step := client_over
  step_iff := by
    intro s e s' o hStops hOwned hStep
    refine Served.step_iff_of_parts
      (client_task_iff hOwned hStep) ?_
    intro hNone
    exact writers_stop_step_iff hStops hNone hStep

/-
  At the end of its stream a handler returns, and its writer
  stops.
-/
theorem client_leaves (env : Env) :
    Served.Leaves (proxy env) taskFate
      (fun s c => s.handler c = .reading)
      (fun c => .client c .close)
      (fun s c => s.handler c = .ended ∧
        WriterStops s c) := by
  apply Served.leaves_of_close
  intro s c hReading
  have hEnded : Function.update s.handler c .ended c =
      .ended := Function.update_self ..
  refine ⟨{ s with
    handler := Function.update s.handler c .ended }, [],
    ?_, ?_, hEnded, writerStops_iff.mpr fun _ => hEnded⟩
  · simp only [proxy, step, handleClient, hReading]
  · simp only [taskFate, Function.update_self]
    rfl

------------------------------------------------------------
-- Replay Mode
------------------------------------------------------------

/-
  The control proxy in replay mode: no task connects to the
  telescope, and the queue is drained.
-/
structure Replay where
  proxy : State
  draining : Bool

/- The tasks that also run in replay mode. -/
def Event.InReplay : Event → Prop
| .notify | .accept | .client _ _ | .writer _ _
| .hookSend _ => True
| _ => False

instance : ∀ e : Event, Decidable e.InReplay
| .notify | .accept | .client _ _ | .writer _ _
| .hookSend _ => isTrue trivial
| .heartbeat _ | .upstream _ | .reader _ _ =>
    isFalse fun hFalse => hFalse

/- What the proxy does next in replay mode. -/
inductive ReplayEvent where
| live (e : Event)
| play (text : String)
| drain

/- A recorded message is sent to the clients. -/
def playMessage (s : State) (text : String) : State :=
  { s with
    handshakeDone := true
    events := s.events ++ [(0, text)] }

/- One step of the proxy in replay mode. -/
def replayStep
    (env : Env)
    (s : Replay) :
    ReplayEvent → Option (Replay × List Obs)
| .live e =>
    if e.InReplay then
      (step env s.proxy e).map fun (next, o) =>
        ({ s with proxy := next }, o)
    else
      none
| .play text =>
    some ({ s with proxy := playMessage s.proxy text }, [])
| .drain =>
    if s.draining = true then
      match s.proxy.upstreamTx.recv with
      | none => none
      | some (message, channel) =>
          if previewPanics env.debugLogged message.line 120
          then
            some ({ s with
              proxy := { s.proxy with
                upstreamTx := s.proxy.upstreamTx.close }
              draining := false }, [])
          else
            some ({ s with
              proxy := { s.proxy with
                upstreamTx := channel } }, [])
    else
      none

/- The proxy in replay mode as a machine. -/
def replayProxy (env : Env) :
    Machine Replay ReplayEvent Obs where
  init :=
    { proxy := State.init
      draining := true }
  step := replayStep env

/- What a step means for the tasks of the clients. -/
def replayFate
    (s : Replay)
    (e : ReplayEvent)
    (s' : Replay) : Served.Fate :=
  match e with
  | .live e => taskFate s.proxy e s'.proxy
  | .play _ | .drain => .none

/- The text that a step logs has its preview. -/
def ReplayTextFits
    (env : Env)
    (s : Replay) : ReplayEvent → Prop
| .live e => ClientTextFits env s.proxy e
| .play _ => True
| .drain => QueuedTextFits env s.proxy 120

/- The condition of the live proxy for its own steps. -/
def ReplayFindsNoWriter
    (env : Env)
    (s : Replay) : ReplayEvent → Prop
| .live e => ErrorsFindNoWriter env s.proxy e
| .play _ | .drain => True

/- Both conditions of a step in replay mode. -/
def ReplayServed
    (env : Env)
    (s : Replay)
    (e : ReplayEvent) : Prop :=
  ReplayTextFits env s e ∧ ReplayFindsNoWriter env s e

variable {r r' : Replay} {replayed : ReplayEvent}

/- A step of a task that also runs in replay mode. -/
private theorem live_step
    (hStep : (replayProxy env).step r (.live e) =
      some (r', o)) :
    e.InReplay ∧ r'.draining = r.draining ∧
      (proxy env).step r.proxy e = some (r'.proxy, o) := by
  simp only [replayProxy, replayStep] at hStep
  split at hStep
  · rename_i hReplay
    rcases Option.map_eq_some_iff.mp hStep with
      ⟨⟨next, shown⟩, hNext, hState⟩
    cases hState
    exact ⟨hReplay, rfl, hNext⟩
  · cases hStep

/-
  A step in replay mode makes no task panic and leaves the
  queue drained exactly when the text that it logs has its
  preview.
-/
theorem replay_task_iff
    (hDraining : ¬ r.draining = false)
    (hStep : (replayProxy env).step r replayed =
      some (r', o)) :
    (∀ d, replayFate r replayed r' ≠ .panicked d) ∧
        ¬ r'.draining = false ↔
      ReplayTextFits env r replayed := by
  cases replayed with
  | live e =>
      rcases live_step hStep with ⟨hReplay, hSame, hNext⟩
      rw [hSame, and_iff_left hDraining]
      cases e with
      | client c event => exact handler_panics_iff hNext
      | notify | accept | writer | hookSend =>
          exact iff_of_true nofun trivial
      | heartbeat | upstream | reader => cases hReplay
  | play text =>
      cases hStep
      exact iff_of_true ⟨nofun, hDraining⟩ trivial
  | drain =>
      rw [and_iff_right (by nofun)]
      simp only [ReplayTextFits, QueuedTextFits]
      simp only [replayProxy, replayStep] at hStep
      split at hStep
      · split at hStep
        · cases hStep
        · rename_i message channel hRecv
          simp only [hRecv]
          split at hStep
          · rename_i hPanics
            cases hStep
            rw [previewPanics_iff] at hPanics
            exact iff_of_false (fun hRuns => hRuns rfl)
              (fun hFits => hPanics.2 (hFits hPanics.1))
          · rename_i hFine
            cases hStep
            rw [previewPanics_iff,
              not_and_not_right] at hFine
            exact iff_of_true hDraining hFine
      · cases hStep

/- Draining moves no handler and no writer. -/
private theorem drained_apart
    (hStep : (replayProxy env).step r .drain =
      some (r', o)) :
    r'.proxy.handler = r.proxy.handler ∧
      r'.proxy.writer = r.proxy.writer := by
  simp only [replayProxy, replayStep] at hStep
  split at hStep
  · split at hStep
    · cases hStep
    · split at hStep
      · cases hStep
        exact ⟨rfl, rfl⟩
      · cases hStep
        exact ⟨rfl, rfl⟩
  · cases hStep

/- Only returns and panics end the handlers of clients. -/
theorem replay_over
    (hStep : (replayProxy env).step r replayed =
      some (r', o))
    (hOver : HandlerOver r'.proxy c) :
    replayFate r replayed r' ≠ .accepted c ∧
      (HandlerOver r.proxy c ∨
        replayFate r replayed r' = .returned c ∨
        replayFate r replayed r' = .panicked c) := by
  cases replayed with
  | live e =>
      exact client_over (live_step hStep).2.2 hOver
  | play text =>
      cases hStep
      exact ⟨nofun, Or.inl (over_of_same rfl hOver)⟩
  | drain =>
      exact ⟨nofun, Or.inl
        (over_of_same (drained_apart hStep).1 hOver)⟩

/-
  After a step without a panic the writers of all handlers
  that are over stop exactly when the step returns no error
  to a running writer.
-/
theorem replay_writers_iff
    (hStops : ∀ c, HandlerOver r.proxy c →
      WriterStops r.proxy c)
    (hNone : ∀ d, replayFate r replayed r' ≠ .panicked d)
    (hStep : (replayProxy env).step r replayed =
      some (r', o)) :
    (∀ c, HandlerOver r'.proxy c → WriterStops r'.proxy c) ↔
      ReplayFindsNoWriter env r replayed := by
  have hSame
      (hHandler : r'.proxy.handler = r.proxy.handler)
      (hWriter : r'.proxy.writer = r.proxy.writer)
      (c : ClientId)
      (hOver : HandlerOver r'.proxy c) :
      WriterStops r'.proxy c := by
    have hBefore := writerStops_iff.mp
      (hStops c (over_of_same hHandler hOver))
    rw [writerStops_iff, hHandler, hWriter]
    exact hBefore
  cases replayed with
  | live e =>
      exact writers_stop_step_iff hStops hNone
        (live_step hStep).2.2
  | play text =>
      cases hStep
      exact iff_of_true (hSame rfl rfl) trivial
  | drain =>
      rcases drained_apart hStep with ⟨hHandler, hWriter⟩
      exact iff_of_true (hSame hHandler hWriter) trivial

/- When the clients are served safely in replay mode. -/
theorem replay_panics (env : Env) :
    Served.Panics (replayProxy env) replayFate
      (fun r c => HandlerOver r.proxy c)
      (fun r c => WriterStops r.proxy c)
      (fun r => r.draining = false)
      (ReplayServed env) where
  fresh := fun _ hOver => by
    rcases hOver with hEnded | hFailed
    · cases hEnded
    · cases hFailed
  runs := nofun
  gone_step := replay_over
  step_iff := by
    intro r replayed r' o hStops hDraining hStep
    refine Served.step_iff_of_parts
      (replay_task_iff hDraining hStep) ?_
    intro hNone
    exact replay_writers_iff hStops hNone hStep

end Control

end SeestarProxy
