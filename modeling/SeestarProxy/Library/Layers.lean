import Mathlib.Data.Option.Basic

/-
  Settings that come in layers.

  The value of a setting is that of the first layer that has
  one. Layers are merged one after the other, and a merge
  sees only the value that the layers before it have left,
  not where it came from. For three such merges of a third
  layer between two that are merged already, this is when
  they keep the order of the layers.

  Main declarations:
    * `resolve`
    * `fill` and `fill_eq_resolve_iff`
    * `replaceDefault` and `replaceDefault_eq_resolve_iff`
    * `enable` and `enable_eq_resolve_iff`
-/

------------------------------------------------------------
-- Layers
------------------------------------------------------------

namespace Library

namespace Layers

variable {α : Type}

/- The value of the first layer that has one. -/
def resolve : List (Option α) → Option α
| [] => none
| none :: layers => resolve layers
| some v :: _ => some v

variable {first middle last : Option α}

------------------------------------------------------------
-- Filling In What Is Missing
------------------------------------------------------------

/- Take the other value only where there is none. -/
def fill (own other : Option α) : Option α :=
  if own.isNone then other else own

/-
  Filling in from the middle layer, which comes too late
  where the last one has another value.
-/
theorem fill_eq_resolve_iff :
    fill (resolve [first, last]) middle =
        resolve [first, middle, last] ↔
      first.isSome = true ∨ middle = none ∨ last = none ∨
        last = middle := by
  cases first with
  | some v => simp [fill, resolve]
  | none =>
      cases middle <;> cases last <;> simp [fill, resolve]

------------------------------------------------------------
-- Replacing a Default
------------------------------------------------------------

/- Take the other value where there is the default. -/
def replaceDefault
    (isDefault : α → Bool)
    (own : α)
    (other : Option α) : α :=
  match other with
  | none => own
  | some v => if isDefault own then v else own

variable {isDefault : α → Bool} {d : α}

/-
  A given default is taken for a missing value, and another
  value of the last layer for one of the first.
-/
theorem replaceDefault_eq_resolve_iff
    (hDefault : isDefault d = true) :
    some (replaceDefault isDefault
        ((resolve [first, last]).getD d) middle) =
        resolve [first, middle, last, some d] ↔
      ∀ v, middle = some v →
        (∀ c, first = some c → isDefault c = true → v = c) ∧
        (first = none → ∀ w, last = some w →
          isDefault w = true ∨ w = v) := by
  cases middle with
  | none =>
      cases first <;> cases last <;>
        simp [replaceDefault, resolve]
  | some v =>
      cases first with
      | some c =>
          by_cases hIs : isDefault c = true
          · simp [replaceDefault, resolve, hIs]
          · simp [replaceDefault, resolve, hIs]
      | none =>
          cases last with
          | none => simp [replaceDefault, resolve, hDefault]
          | some w =>
              by_cases hIs : isDefault w = true
              · simp [replaceDefault, resolve, hIs]
              · simp [replaceDefault, resolve, hIs]

------------------------------------------------------------
-- Enabling
------------------------------------------------------------

/- Switch on where the other value says so. -/
def enable (own : Bool) (other : Option Bool) : Bool :=
  if other = some true then true else own

/- A flag is there when it is on. -/
def given (flag : Bool) : Option Bool :=
  if flag then some true else none

variable {flag : Bool} {middle last : Option Bool}

/- The middle layer cannot switch off what the last has on. -/
theorem enable_eq_resolve_iff :
    some (enable
        ((resolve [given flag, last]).getD false) middle) =
        resolve [given flag, middle, last, some false] ↔
      (flag = false → middle = some false →
        last ≠ some true) := by
  cases flag with
  | true =>
      rcases middle with _ | _ | _ <;>
        simp [enable, given, resolve]
  | false =>
      rcases middle with _ | _ | _ <;>
        rcases last with _ | _ | _ <;>
        simp [enable, given, resolve]

end Layers

end Library
