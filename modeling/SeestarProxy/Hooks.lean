import SeestarProxy.Json

/-
  What a hook script decides about a message.

  A script is a Lua program outside this development. Its
  call is seen through what comes back from it, which the
  engine turns into an action; the messages a script injects
  are steps of their own in the control model.

  Main declarations:
    * `HookAction`
    * `LuaValue`, `HookCall` and `callMessageHook`
-/

namespace SeestarProxy

/- Result of a hook invocation. -/
inductive HookAction where
| forward
| block
| modify (json : String)
| reply (json : String)
deriving DecidableEq, Repr

/-
  The result of a hook function. A table counts as the JSON
  value that it converts to, if it does.
-/
inductive LuaValue where
| nil
| boolean (b : Bool)
| string (s : String)
| table (json : Option Value)
| other
deriving Repr

/-
  What comes of calling a hook: there is no such function,
  the message is no Lua value, the call fails or returns.
-/
inductive HookCall where
| undefined
| unconverted
| failed
| returned (result : LuaValue)
deriving Repr

/- A table with `_reply = true` is a synthetic response. -/
def isReply (modified : Value) : Bool :=
  ((modified.get "_reply").bind Value.asBool).getD false

/- `call_message_hook`, from what comes of the call. -/
def callMessageHook (serde : Serde) : HookCall → HookAction
| .undefined | .unconverted | .failed => .forward
| .returned .nil => .forward
| .returned (.string s) =>
    if s = "block" ∨ s = "drop" ∨ s = "reject" then
      .block
    else if s = "forward" ∨ s = "pass" then
      .forward
    else
      .modify s
| .returned (.boolean b) => if b then .forward else .block
| .returned (.table none) => .forward
| .returned (.table (some modified)) =>
    if isReply modified = true then
      match serde.toStr (modified.remove "_reply") with
      | some s => .reply s
      | none => .block
    else
      match serde.toStr modified with
      | some s => .modify s
      | none => .forward
| .returned .other => .forward

/- A synthetic response is printed by the JSON library. -/
theorem printed_of_reply
    {serde : Serde}
    {call : HookCall}
    {json : String}
    (hReply : callMessageHook serde call = .reply json) :
    ∃ v, serde.toStr v = some json := by
  cases call with
  | returned result =>
      cases result with
      | table converted =>
          cases converted with
          | none => cases hReply
          | some modified =>
              simp only [callMessageHook] at hReply
              split at hReply
              · split at hReply
                · rename_i hText
                  cases hReply
                  exact ⟨_, hText⟩
                · cases hReply
              · split at hReply <;> cases hReply
      | string s =>
          simp only [callMessageHook] at hReply
          split at hReply
          · cases hReply
          · split at hReply <;> cases hReply
      | boolean b => cases b <;> cases hReply
      | _ => cases hReply
  | _ => cases hReply

end SeestarProxy
