import SeestarProxy.Json

/-
  The protocol types of the telescope.

  On port 4800 a frame is an 80-byte header and as many
  bytes as the header says. On port 4700 a request is
  recognised by any non-null `id`, a response by an unsigned
  64-bit `id`, an event by an `Event` member. Ids are
  replaced in place; `IdReplaced` says what that leaves
  alone.

  Main declarations:
    * `jsonRpcId`, `getId`, `isEvent`, `methodName`
    * `setJsonRpcId` and `setJsonRpcIdValue`
    * `idReplaced_setJsonRpcIdValue`
    * `FrameHeader`, `FrameHeader.parse`, `isImage`
-/

------------------------------------------------------------
-- Message Fields
------------------------------------------------------------

namespace SeestarProxy

namespace Protocol

/- The `id` of a message as an unsigned integer. -/
def jsonRpcId (msg : Value) : Option UInt64 :=
  (msg.get "id").bind Value.asU64

/- Replace the `id` of a message by a number. -/
def setJsonRpcId (msg : Value) (newId : UInt64) : Value :=
  msg.insert "id" (.number (.posInt newId))

/- A message is an event when it has an `Event` member. -/
def isEvent (msg : Value) : Bool :=
  (msg.get "Event").isSome

/- The method name of a message. -/
def methodName (msg : Value) : Option String :=
  (msg.get "method").bind Value.asStr

/- The `id` of a message when present and not null. -/
def getId (msg : Value) : Option Value :=
  (msg.get "id").filter fun v => v ≠ .null

/- Replace the `id` of a message by any value. -/
def setJsonRpcIdValue (msg id : Value) : Value :=
  msg.insert "id" id

------------------------------------------------------------
-- What Replacing an Id Leaves Alone
------------------------------------------------------------

/-
  `after` is the object `before` with its `id` replaced by
  `id` and every other member as it was.
-/
structure IdReplaced (before id after : Value) : Prop where
  isObject : after.IsObject
  newId : after.get "id" = some id
  others : ∀ key, key ≠ "id" →
    after.get key = before.get key

theorem idReplaced_setJsonRpcIdValue
    {msg : Value}
    (hObject : msg.IsObject)
    (id : Value) :
    IdReplaced msg id (setJsonRpcIdValue msg id) where
  isObject := (msg.isObject_insert_iff "id" id).mpr hObject
  newId := Value.get_insert_self hObject "id" id
  others := fun _ hKey =>
    Value.get_insert_of_ne msg id hKey

theorem idReplaced_setJsonRpcId
    {msg : Value}
    (hObject : msg.IsObject)
    (newId : UInt64) :
    IdReplaced msg (.number (.posInt newId))
      (setJsonRpcId msg newId) :=
  idReplaced_setJsonRpcIdValue hObject _

/- A message whose id was replaced carries the new id. -/
theorem jsonRpcId_setJsonRpcId
    {msg : Value}
    (hObject : msg.IsObject)
    (newId : UInt64) :
    jsonRpcId (setJsonRpcId msg newId) = some newId := by
  simp [jsonRpcId, setJsonRpcId,
    Value.get_insert_self hObject, Value.asU64]

------------------------------------------------------------
-- Messages with an Id
------------------------------------------------------------

/- Only objects have an id, and it is not null. -/
theorem getId_eq_some_iff
    {msg id : Value} :
    getId msg = some id ↔
      msg.get "id" = some id ∧ id ≠ .null := by
  simp [getId, Option.filter_eq_some_iff]

theorem isObject_of_getId
    {msg id : Value}
    (hId : getId msg = some id) :
    msg.IsObject :=
  Value.isObject_of_get_some (getId_eq_some_iff.mp hId).1

theorem isObject_of_jsonRpcId
    {msg : Value}
    {id : UInt64}
    (hId : jsonRpcId msg = some id) :
    msg.IsObject := by
  cases hGet : msg.get "id" with
  | none => simp [jsonRpcId, hGet] at hId
  | some v => exact Value.isObject_of_get_some hGet

/-
  A message without a non-null id has no unsigned id either,
  so what is forwarded as a notification asks for no answer.
-/
theorem jsonRpcId_eq_none_of_getId
    {msg : Value}
    (hId : getId msg = none) :
    jsonRpcId msg = none := by
  cases hGet : msg.get "id" with
  | none => simp [jsonRpcId, hGet]
  | some v =>
      have hNull : v = .null := by
        simpa [getId, hGet, Option.filter_some] using hId
      simp [jsonRpcId, hGet, hNull, Value.asU64]

------------------------------------------------------------
-- Frame Headers
------------------------------------------------------------

/- The length of a frame header in bytes. -/
abbrev headerSize : Nat := 80

/- The fields of a frame header that the proxy reads. -/
structure FrameHeader where
  size : UInt32
  code : UInt8
  id : UInt8
  width : UInt16
  height : UInt16
deriving DecidableEq, Repr

/- The octets of `Ipv4Addr::new`. -/
abbrev ipv4Addr (a b c d : UInt8) : Vector UInt8 4 :=
  #v[a, b, c, d]

/- `u16::from_be_bytes`. -/
def u16FromBeBytes (a b : UInt8) : UInt16 :=
  UInt16.ofNat (a.toNat * 256 + b.toNat)

/- `u32::from_be_bytes`. -/
def u32FromBeBytes (a b c d : UInt8) : UInt32 :=
  UInt32.ofNat
    (((a.toNat * 256 + b.toNat) * 256 + c.toNat) * 256 +
      d.toNat)

namespace FrameHeader

/- Read the fields of a header from its bytes. -/
def parse (buf : Vector UInt8 headerSize) : FrameHeader where
  size := u32FromBeBytes buf[6] buf[7] buf[8] buf[9]
  code := buf[14]
  id := buf[15]
  width := u16FromBeBytes buf[16] buf[17]
  height := u16FromBeBytes buf[18] buf[19]

/- The frame holds an image, not a handshake. -/
def isImage (header : FrameHeader) : Bool :=
  header.width > 0 && header.height > 0 &&
    header.size > 1000

end FrameHeader

end Protocol

end SeestarProxy
