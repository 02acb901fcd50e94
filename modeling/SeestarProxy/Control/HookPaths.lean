import SeestarProxy.Control.Routing

/-
  What a hook's result means for requests, responses and
  events.

  The hooks of the three paths are to mean the same: a result
  drops the message, leaves it as it is or replaces it. The
  client handler does so for requests. The reader only drops
  a message or leaves it, so that a response or an event is
  what the hook made of it exactly when the hook does not
  rewrite it.

  Main declarations:
    * `documented` and `Rewrites`
    * `RequestPath`, `ReaderPath` and `HookContract`
    * `hookProcessed_documented`
    * `hook_contract_iff` and `stripped_field_is_broadcast`
-/

------------------------------------------------------------
-- What a Result Means
------------------------------------------------------------

namespace SeestarProxy

namespace Control

open Library Protocol

/-
  The message that goes on after the result of a hook. The
  JSON that a table stands for is the text it prints as, and
  a synthetic response is no message to go on.
-/
def documentedResult
    (serde : Serde)
    (msg : Value) :
    LuaValue → Option Value
| .nil | .boolean true | .other | .table none => some msg
| .boolean false => none
| .string s =>
    if s = "block" ∨ s = "drop" ∨ s = "reject" then
      none
    else if s = "forward" ∨ s = "pass" then
      some msg
    else
      some ((serde.fromStr s).getD msg)
| .table (some modified) =>
    if isReply modified = true then
      none
    else
      some (((serde.toStr modified).bind
        serde.fromStr).getD msg)

/- A hook that is not there or fails leaves the message. -/
def documented
    (serde : Serde)
    (msg : Value) :
    HookCall → Option Value
| .undefined | .unconverted | .failed => some msg
| .returned result => documentedResult serde msg result

/-
  The result is a synthetic response, or it has JSON that is
  not the message.
-/
def RewritesResult
    (serde : Serde)
    (msg : Value) :
    LuaValue → Prop
| .string s =>
    s ∉ ["block", "drop", "reject", "forward", "pass"] ∧
      ∃ v, serde.fromStr s = some v ∧ v ≠ msg
| .table (some modified) =>
    if isReply modified = true then
      ∃ text, serde.toStr (modified.remove "_reply") =
        some text
    else
      ∃ v, (serde.toStr modified).bind serde.fromStr =
        some v ∧ v ≠ msg
| .nil | .boolean _ | .other | .table none => False

def Rewrites
    (serde : Serde)
    (msg : Value) :
    HookCall → Prop
| .undefined | .unconverted | .failed => False
| .returned result => RewritesResult serde msg result

------------------------------------------------------------
-- The Three Paths
------------------------------------------------------------

/-
  After the hook, the handler of a client goes on with a
  message as the one to send, or with none.
-/
def RequestPath
    (env : Env)
    (msg : Value)
    (action : HookAction)
    (out : Option Value) : Prop :=
  ∀ s c trimmed, s.handler c = .hooking trimmed msg →
    match out with
    | some sent =>
        handleClient env s c (.onRequest action) =
          some (forwardMessage env s c msg action sent)
    | none =>
        ∃ next : Handler, next.IsIdle ∧
          handleClient env s c (.onRequest action) =
            some ({ s with
              handler :=
                Function.update s.handler c next }, [])

/-
  After the hook of a line, the reader broadcasts a text of
  the message, or goes back to its read.
-/
def ReaderPath
    (env : Env)
    (trimmed : String)
    (hook : String → Reader)
    (action : HookAction)
    (out : Option Value) : Prop :=
  ∀ s conn, s.reader conn = hook trimmed →
    ∃ s', upstreamReaderTask env s conn (.hook action) =
        some (s', []) ∧
      match out with
      | some sent =>
          ∃ text, s'.reader conn = .broadcasting text ∧
            env.serde.fromStr text = some sent
      | none => s'.reader conn = .reading

/- All the paths give the result its documented meaning. -/
structure HookContract
    (env : Env)
    (trimmed : String)
    (msg : Value)
    (call : HookCall) : Prop where
  request : RequestPath env msg
    (callMessageHook env.serde call)
    (documented env.serde msg call)
  response : ReaderPath env trimmed .responseHook
    (callMessageHook env.serde call)
    (documented env.serde msg call)
  event : ReaderPath env trimmed .eventHook
    (callMessageHook env.serde call)
    (documented env.serde msg call)

------------------------------------------------------------
-- Requests
------------------------------------------------------------

variable {env : Env} {serde : Serde} {trimmed : String}
variable {msg : Value} {call : HookCall}
variable {action : HookAction} {out : Option Value}

/- The action of a result lets through what it means. -/
theorem hookProcessed_documented
    (env : Env)
    (msg : Value)
    (call : HookCall) :
    hookProcessed env msg (callMessageHook env.serde call) =
      documented env.serde msg call := by
  cases call with
  | returned result =>
      cases result with
      | boolean b => cases b <;> rfl
      | string s =>
          simp only [callMessageHook, documented,
            documentedResult]
          split
          · rfl
          · split <;> rfl
      | table converted =>
          cases converted with
          | none => rfl
          | some modified =>
              simp only [callMessageHook, documented,
                documentedResult]
              split
              · split <;> rfl
              · cases hText : env.serde.toStr modified with
                | none => rfl
                | some text => rfl
      | _ => rfl
  | _ => rfl

/- The handler goes on with what the action lets through. -/
theorem requestPath_hookProcessed
    (hHooks : env.hooks = true)
    (msg : Value)
    (action : HookAction) :
    RequestPath env msg action
      (hookProcessed env msg action) := by
  intro s c trimmed hAt
  have hLoaded :
      ¬ (env.hooks = false ∧ action ≠ .forward) := by
    rw [hHooks]
    exact fun hNone => nomatch hNone.1
  cases action with
  | forward =>
      change handleClient env s c _ = _
      unfold handleClient
      rw [hAt]
      exact if_neg hLoaded
  | modify json =>
      change handleClient env s c _ = _
      unfold handleClient
      rw [hAt]
      exact if_neg hLoaded
  | block =>
      refine ⟨if previewPanics env.debugLogged trimmed 100
        then .failed else .reading, ?_, ?_⟩
      · split <;> trivial
      · unfold handleClient
        rw [hAt]
        exact if_neg hLoaded
  | reply json =>
      refine ⟨if previewPanics env.debugLogged json 100
        then .failed else .replying json, ?_, ?_⟩
      · split <;> trivial
      · unfold handleClient
        rw [hAt]
        exact if_neg hLoaded

------------------------------------------------------------
-- Responses and Events
------------------------------------------------------------

/- The message that the reader broadcasts after an action. -/
def readerProcessed (msg : Value) : HookAction → Option Value
| .block => none
| .forward | .modify _ | .reply _ => some msg

/- The step of the reader with the action of a hook. -/
theorem hook_step
    {s : State}
    {conn : ConnId}
    {hook : String → Reader}
    (hHooks : env.hooks = true)
    (hHook : hook = .responseHook ∨ hook = .eventHook)
    (hAt : s.reader conn = hook trimmed)
    (action : HookAction) :
    upstreamReaderTask env s conn (.hook action) =
      some ({ s with
        reader := Function.update s.reader conn
          (afterHook trimmed action) }, []) := by
  have hLoaded :
      ¬ (env.hooks = false ∧ action ≠ .forward) := by
    rw [hHooks]
    exact fun hNone => nomatch hNone.1
  rcases hHook with rfl | rfl
  · unfold upstreamReaderTask
    rw [hAt]
    exact if_neg hLoaded
  · unfold upstreamReaderTask
    rw [hAt]
    exact if_neg hLoaded

/- Where the reader goes is what it broadcasts. -/
theorem afterHook_iff
    (hMsg : env.serde.fromStr trimmed = some msg) :
    (match out with
      | some sent =>
          ∃ text, afterHook trimmed action =
              .broadcasting text ∧
            env.serde.fromStr text = some sent
      | none => afterHook trimmed action = .reading) ↔
    readerProcessed msg action = out := by
  have hSent : ∀ sent,
      (∃ text, Reader.broadcasting trimmed =
          .broadcasting text ∧
        env.serde.fromStr text = some sent) ↔
      some msg = some sent := by
    intro sent
    constructor
    · rintro ⟨text, hText, hParse⟩
      cases hText
      rw [← hMsg, hParse]
    · intro hSame
      exact ⟨trimmed, rfl, hMsg.trans hSame⟩
  cases action with
  | block =>
      cases out with
      | none => exact ⟨fun _ => rfl, fun _ => rfl⟩
      | some sent =>
          constructor
          · rintro ⟨text, hText, _⟩
            cases hText
          · nofun
  | forward | modify json | reply json =>
      cases out with
      | none => exact ⟨nofun, nofun⟩
      | some sent => exact hSent sent

/- The reader does the same for a response and an event. -/
theorem readerPath_iff
    {hook : String → Reader}
    (hHooks : env.hooks = true)
    (hMsg : env.serde.fromStr trimmed = some msg)
    (hHook : hook = .responseHook ∨ hook = .eventHook) :
    ReaderPath env trimmed hook action out ↔
      readerProcessed msg action = out := by
  rw [← afterHook_iff hMsg]
  constructor
  · intro hPath
    let s : State :=
      { State.init with reader := fun _ => hook trimmed }
    rcases hPath s 0 rfl with ⟨s', hStep, hNext⟩
    rw [hook_step hHooks hHook rfl action] at hStep
    cases hStep
    dsimp only at hNext
    rw [Function.update_self] at hNext
    exact hNext
  · intro hNext s conn hAt
    refine ⟨_, hook_step hHooks hHook hAt action, ?_⟩
    dsimp only
    rw [Function.update_self]
    exact hNext

------------------------------------------------------------
-- The Contract
------------------------------------------------------------

/- A message that some JSON may replace stays the same. -/
theorem keeps_getD_iff (v : Option Value) :
    some msg = some (v.getD msg) ↔
      ¬ ∃ other, v = some other ∧ other ≠ msg := by
  cases v with
  | none => simp
  | some other =>
      simp only [Option.getD_some, Option.some.injEq,
        exists_eq_left', not_not]
      exact eq_comm

/- A string is a word, or JSON that replaces the message. -/
theorem reader_string_iff (s : String) :
    readerProcessed msg
          (callMessageHook serde (.returned (.string s))) =
        documentedResult serde msg (.string s) ↔
      ¬ RewritesResult serde msg (.string s) := by
  unfold callMessageHook documentedResult RewritesResult
  dsimp only
  by_cases hDrop : s = "block" ∨ s = "drop" ∨ s = "reject"
  · rw [if_pos hDrop, if_pos hDrop]
    refine ⟨fun _ hRewrites => hRewrites.1 ?_, fun _ => rfl⟩
    rcases hDrop with rfl | rfl | rfl <;> simp
  rw [if_neg hDrop, if_neg hDrop]
  by_cases hPass : s = "forward" ∨ s = "pass"
  · rw [if_pos hPass, if_pos hPass]
    refine ⟨fun _ hRewrites => hRewrites.1 ?_, fun _ => rfl⟩
    rcases hPass with rfl | rfl <;> simp
  rw [if_neg hPass, if_neg hPass]
  have hWord : s ∉
      ["block", "drop", "reject", "forward", "pass"] := by
    simp only [List.mem_cons, List.not_mem_nil, or_false]
    tauto
  rw [and_iff_right hWord]
  exact keeps_getD_iff _

/- A table is a synthetic response, or replaces it too. -/
theorem reader_table_iff (modified : Value) :
    readerProcessed msg (callMessageHook serde
          (.returned (.table (some modified)))) =
        documentedResult serde msg
          (.table (some modified)) ↔
      ¬ RewritesResult serde msg
        (.table (some modified)) := by
  unfold callMessageHook documentedResult RewritesResult
  dsimp only
  by_cases hReply : isReply modified = true
  · simp only [if_pos hReply]
    cases hText : serde.toStr (modified.remove "_reply") with
    | none =>
        refine ⟨?_, fun _ => rfl⟩
        rintro _ ⟨text, hNone⟩
        cases hNone
    | some text =>
        refine ⟨fun hSame => ?_, fun hNone => ?_⟩
        · cases hSame
        · exact absurd ⟨text, rfl⟩ hNone
  · simp only [if_neg hReply]
    cases hText : serde.toStr modified with
    | none => exact keeps_getD_iff none
    | some text => exact keeps_getD_iff (serde.fromStr text)

/- The reader does what is documented without a rewrite. -/
theorem readerProcessed_documented_iff :
    readerProcessed msg (callMessageHook serde call) =
        documented serde msg call ↔
      ¬ Rewrites serde msg call := by
  cases call with
  | returned result =>
      cases result with
      | boolean b =>
          cases b with
          | true => exact ⟨fun _ => id, fun _ => rfl⟩
          | false => exact ⟨fun _ => id, fun _ => rfl⟩
      | string s => exact reader_string_iff s
      | table converted =>
          cases converted with
          | none => exact ⟨fun _ => id, fun _ => rfl⟩
          | some modified => exact reader_table_iff modified
      | _ => exact ⟨fun _ => id, fun _ => rfl⟩
  | _ => exact ⟨fun _ => id, fun _ => rfl⟩

/-
  The hooks of the three paths mean the same, as documented,
  exactly when the result does not rewrite the message: it is
  no synthetic response, and the JSON in it, if there is any,
  is the message.
-/
theorem hook_contract_iff
    (env : Env)
    (trimmed : String)
    (msg : Value)
    (call : HookCall)
    (hHooks : env.hooks = true)
    (hMsg : env.serde.fromStr trimmed = some msg) :
    HookContract env trimmed msg call ↔
      ¬ Rewrites env.serde msg call := by
  rw [← readerProcessed_documented_iff]
  constructor
  · intro hContract
    exact (readerPath_iff hHooks hMsg (.inl rfl)).mp
      hContract.response
  · intro hSame
    have hRequest := requestPath_hookProcessed hHooks msg
      (callMessageHook env.serde call)
    rw [hookProcessed_documented] at hRequest
    exact ⟨hRequest,
      (readerPath_iff hHooks hMsg (.inl rfl)).mpr hSame,
      (readerPath_iff hHooks hMsg (.inr rfl)).mpr hSame⟩

/- An answer with a field that is there for debugging. -/
def debugAnswer : Value :=
  Value.ofMembers
    [("debug", .bool true), ("id", .number (.posInt 7))]

def strippedAnswer : Value :=
  Value.ofMembers [("id", .number (.posInt 7))]

def hookEnv : Env :=
  { parkEnv with
    serde := Serde.knowing [debugAnswer, strippedAnswer]
    hooks := true }

theorem hook_contract_iff_block :
    HookContract hookEnv (lineOf debugAnswer) debugAnswer
        (.returned (.string "block")) ↔
      ¬ Rewrites hookEnv.serde debugAnswer
        (.returned (.string "block")) :=
  hook_contract_iff hookEnv (lineOf debugAnswer) debugAnswer
    _ rfl (by decide +kernel)

/-
  A hook returns the answer without the field. A request
  would go on so, but the reader broadcasts the answer as it
  came, whether as a response or as an event.
-/
theorem stripped_field_is_broadcast :
    documented hookEnv.serde debugAnswer
        (.returned (.table (some strippedAnswer))) =
      some strippedAnswer ∧
    hookProcessed hookEnv debugAnswer
        (callMessageHook hookEnv.serde
          (.returned (.table (some strippedAnswer)))) =
      some strippedAnswer ∧
    afterHook (lineOf debugAnswer)
        (callMessageHook hookEnv.serde
          (.returned (.table (some strippedAnswer)))) =
      .broadcasting (lineOf debugAnswer) ∧
    ¬ HookContract hookEnv (lineOf debugAnswer) debugAnswer
      (.returned (.table (some strippedAnswer))) := by
  refine ⟨by decide +kernel, by decide +kernel,
    by decide +kernel, fun hContract => ?_⟩
  have hMsg : hookEnv.serde.fromStr (lineOf debugAnswer) =
      some debugAnswer := by
    decide +kernel
  have hSame := (readerPath_iff rfl hMsg (.inl rfl)).mp
    hContract.response
  exact absurd hSame (by decide +kernel)

end Control

end SeestarProxy
