import Mathlib.Data.List.Induction

/-
  JSON values as `serde_json` holds them.

  A number is an unsigned, a negative or a floating-point
  one; the members of an object are kept in the order of
  their keys, each key once, as in the map behind a JSON
  object. Parsing and printing are not part of this file:
  the modules that need them take them as a parameter, and
  `Serde.knowing` is one concrete choice of it.

  Main declarations:
    * `Number`, `Value` and `Value.asU64`
    * `Value.get`, `Value.insert` and `Value.ofMembers`
    * `Members.get_insert_self`, `Members.get_insert_of_ne`
    * `Serde` and `Serde.knowing`
-/

------------------------------------------------------------
-- Values
------------------------------------------------------------

namespace SeestarProxy

/- A JSON number; a float is kept by its bits. -/
inductive Number where
| posInt (n : UInt64)
| negInt (n : Int64)
| float (bits : UInt64)
deriving DecidableEq, Repr

/- A JSON value. -/
inductive Value where
| null
| bool (b : Bool)
| number (n : Number)
| string (s : String)
| array (items : List Value)
| object (members : List (String × Value))
deriving Repr

namespace Value

mutual

/- Equality of values is decided member by member. -/
def decEq : (v w : Value) → Decidable (v = w)
| .null, w => by
    cases w <;> first
      | exact isTrue rfl
      | exact isFalse (by simp)
| .bool b, w => by
    cases w with
    | bool b' =>
        exact decidable_of_iff (b = b') (by simp)
    | _ => exact isFalse (by simp)
| .number n, w => by
    cases w with
    | number n' =>
        exact decidable_of_iff (n = n') (by simp)
    | _ => exact isFalse (by simp)
| .string s, w => by
    cases w with
    | string s' =>
        exact decidable_of_iff (s = s') (by simp)
    | _ => exact isFalse (by simp)
| .array items, w =>
    match w with
    | .array items' =>
        letI := decEqItems items items'
        decidable_of_iff (items = items') (by simp)
    | .null | .bool _ | .number _ | .string _
    | .object _ => isFalse (by simp)
| .object members, w =>
    match w with
    | .object members' =>
        letI := decEqMembers members members'
        decidable_of_iff (members = members') (by simp)
    | .null | .bool _ | .number _ | .string _
    | .array _ => isFalse (by simp)

def decEqItems :
    (vs ws : List Value) → Decidable (vs = ws)
| [], [] => isTrue rfl
| [], _ :: _ => isFalse (by simp)
| _ :: _, [] => isFalse (by simp)
| v :: vs, w :: ws =>
    letI := decEq v w
    letI := decEqItems vs ws
    decidable_of_iff (v = w ∧ vs = ws) (by simp)

def decEqMembers :
    (ms ns : List (String × Value)) → Decidable (ms = ns)
| [], [] => isTrue rfl
| [], _ :: _ => isFalse (by simp)
| _ :: _, [] => isFalse (by simp)
| (k, v) :: ms, (k', w) :: ns =>
    letI := decEq v w
    letI := decEqMembers ms ns
    decidable_of_iff ((k = k' ∧ v = w) ∧ ms = ns) (by simp)

end

instance : DecidableEq Value := decEq

end Value

------------------------------------------------------------
-- Object Members
------------------------------------------------------------

/- The members of an object, in the order of their keys. -/
abbrev Members := List (String × Value)

namespace Members

/- The value of a key. -/
def get : Members → String → Option Value
| [], _ => none
| (k, v) :: rest, key =>
    if k = key then some v else get rest key

/- Set the value of a key, keeping the order of the keys. -/
def insert : Members → String → Value → Members
| [], key, value => [(key, value)]
| (k, v) :: rest, key, value =>
    if k = key then
      (key, value) :: rest
    else if key < k then
      (key, value) :: (k, v) :: rest
    else
      (k, v) :: insert rest key value

/- Drop a key, keeping the order of the others. -/
def remove (members : Members) (key : String) : Members :=
  members.filter fun member => member.1 ≠ key

@[simp] theorem get_insert_self
    (members : Members)
    (key : String)
    (value : Value) :
    (members.insert key value).get key = some value := by
  induction members with
  | nil => simp [insert, get]
  | cons member rest ih =>
      obtain ⟨k, v⟩ := member
      by_cases hKey : k = key
      · simp [insert, get, hKey]
      · by_cases hLess : key < k
        · simp [insert, get, hKey, hLess]
        · simp [insert, get, hKey, hLess, ih]

theorem get_insert_of_ne
    (members : Members)
    {key other : String}
    (value : Value)
    (hOther : other ≠ key) :
    (members.insert key value).get other =
      members.get other := by
  induction members with
  | nil => simp [insert, get, hOther.symm]
  | cons member rest ih =>
      obtain ⟨k, v⟩ := member
      by_cases hKey : k = key
      · subst hKey
        simp [insert, get, hOther.symm]
      · by_cases hLess : key < k
        · simp [insert, get, hKey, hLess, hOther.symm]
        · simp [insert, get, hKey, hLess, ih]

end Members

------------------------------------------------------------
-- Access to Values
------------------------------------------------------------

namespace Value

/- The member of an object; other values have none. -/
def get : Value → String → Option Value
| .object members, key => Members.get members key
| _, _ => none

/- Set a member of an object; other values are unchanged. -/
def insert : Value → String → Value → Value
| .object members, key, value =>
    .object (Members.insert members key value)
| v, _, _ => v

/-
  The assignment `v[key] = value`: null becomes an object,
  and a value that is no object panics, which is `none`.
-/
def setIndex : Value → String → Value → Option Value
| .null, key, value => some (.object [(key, value)])
| .object members, key, value =>
    some (.object (Members.insert members key value))
| .bool _, _, _ | .number _, _, _ | .string _, _, _
| .array _, _, _ => none

/- Remove a member of an object. -/
def remove : Value → String → Value
| .object members, key =>
    .object (Members.remove members key)
| v, _ => v

/- The object with the given members, as `json!` builds it. -/
def ofMembers (members : List (String × Value)) : Value :=
  .object
    (members.foldl
      (fun built member =>
        Members.insert built member.1 member.2) [])

/- The value as an unsigned 64-bit integer. -/
def asU64 : Value → Option UInt64
| .number (.posInt n) => some n
| _ => none

/- The value as a truth value. -/
def asBool : Value → Option Bool
| .bool b => some b
| _ => none

/- The value as text. -/
def asStr : Value → Option String
| .string s => some s
| _ => none

/- The value is an object. -/
def IsObject : Value → Prop
| .object _ => True
| _ => False

instance (v : Value) : Decidable v.IsObject := by
  cases v <;> unfold IsObject <;> infer_instance

theorem isObject_of_get_some
    {v w : Value}
    {key : String}
    (hGet : v.get key = some w) :
    v.IsObject := by
  cases v with
  | object members => trivial
  | _ => cases hGet

@[simp] theorem get_insert_self
    {v : Value}
    (hObject : v.IsObject)
    (key : String)
    (value : Value) :
    (v.insert key value).get key = some value := by
  cases v with
  | object members => simp [insert, get]
  | _ => cases hObject

theorem get_insert_of_ne
    (v : Value)
    {key other : String}
    (value : Value)
    (hOther : other ≠ key) :
    (v.insert key value).get other = v.get other := by
  cases v with
  | object members =>
      exact Members.get_insert_of_ne members value hOther
  | _ => rfl

/- What was assigned is there. -/
theorem get_setIndex_self
    {v w : Value}
    {key : String}
    {value : Value}
    (hSet : v.setIndex key value = some w) :
    w.get key = some value := by
  cases v with
  | null =>
      cases hSet
      simp [get, Members.get]
  | object members =>
      cases hSet
      simp [get]
  | _ => cases hSet

theorem isObject_insert_iff
    (v : Value)
    (key : String)
    (value : Value) :
    (v.insert key value).IsObject ↔ v.IsObject := by
  cases v <;> rfl

/- The members of a built object: the last one of a key. -/
theorem get_ofMembers
    (members : List (String × Value))
    (key : String) :
    (ofMembers members).get key =
      (members.reverse.find? fun member =>
        member.1 = key).map Prod.snd := by
  unfold ofMembers
  induction members using List.reverseRecOn with
  | nil => rfl
  | append_singleton members member ih =>
      rw [List.foldl_append, List.reverse_append]
      change Members.get (Members.insert _ member.1
        member.2) key = _
      by_cases hKey : member.1 = key
      · subst hKey
        simp
      · rw [Members.get_insert_of_ne _ _ (Ne.symm hKey)]
        change Value.get (.object _) key = _
        rw [ih]
        simp [hKey]

end Value

------------------------------------------------------------
-- Parsing and Printing
------------------------------------------------------------

/-
  The parser and the compact printer of `serde_json`, which
  the proxy calls and does not contain. Both can fail.
-/
structure Serde where
  fromStr : String → Option Value
  toStr : Value → Option String

/- Printing as the proxy's `unwrap_or_default` does it. -/
def Serde.toStrOrDefault
    (serde : Serde)
    (v : Value) : String :=
  (serde.toStr v).getD ""

/- The escape of a character in a JSON string. -/
def escapeChar (c : Char) : String :=
  if c = '"' then "\\\""
  else if c = '\\' then "\\\\"
  else if c = '\n' then "\\n"
  else if c = '\r' then "\\r"
  else if c = '\t' then "\\t"
  else String.singleton c

def printString (s : String) : String :=
  "\"" ++ String.join (s.toList.map escapeChar) ++ "\""

def printNumber : Number → Option String
| .posInt n => some (toString n.toNat)
| .negInt n => some (toString n.toInt)
| .float _ => none

namespace Value

mutual

/- The compact form of a value without floats. -/
def print : Value → Option String
| .null => some "null"
| .bool b => some (if b then "true" else "false")
| .number n => printNumber n
| .string s => some (printString s)
| .array items =>
    (printItems items).map fun texts =>
      "[" ++ ",".intercalate texts ++ "]"
| .object members =>
    (printMembers members).map fun texts =>
      "\x7b" ++ ",".intercalate texts ++ "\x7d"

def printItems : List Value → Option (List String)
| [] => some []
| v :: items => do
    let text ← print v
    let texts ← printItems items
    some (text :: texts)

def printMembers :
    List (String × Value) → Option (List String)
| [] => some []
| (key, v) :: members => do
    let text ← print v
    let texts ← printMembers members
    some ((printString key ++ ":" ++ text) :: texts)

end

end Value

/-
  A library that prints the compact form and reads the
  compact forms of the values it knows.
-/
def Serde.knowing (known : List Value) : Serde where
  fromStr := fun text =>
    known.find? fun v => v.print = some text
  toStr := Value.print

end SeestarProxy
