import Mathlib.Algebra.Group.Nat.Defs
import Mathlib.Data.List.Basic

/-
  Slices with the checks that Rust makes.

  An index or a range that is out of bounds, a copy between
  slices of different lengths and an addition that overflows
  panic. Each operation says when it does not, and what it
  yields then.

  Main declarations:
    * `Panic` and `Checked`
    * `index`, `slice` and `sliceFrom`
    * `setIndex` and `copyFromSlice`
    * `addU32`
-/

------------------------------------------------------------
-- Panics
------------------------------------------------------------

namespace Library

/- Why a computation panics. -/
inductive Panic where
| index
| range
| length
| overflow
deriving DecidableEq, Repr

/- A computation that may panic. -/
abbrev Checked (α : Type) := Except Panic α

namespace Checked

variable {α β : Type}

/- The computation does not panic. -/
def Returns : Checked α → Prop
| .ok _ => True
| .error _ => False

instance (x : Checked α) : Decidable x.Returns :=
  match x with
  | .ok _ => inferInstanceAs (Decidable True)
  | .error _ => inferInstanceAs (Decidable False)

@[simp] theorem returns_ok (x : α) :
    Returns (.ok x : Checked α) := trivial

@[simp] theorem not_returns_error (panic : Panic) :
    ¬ Returns (.error panic : Checked α) := id

@[simp] theorem ok_bind
    (x : α)
    (f : α → Checked β) :
    ((Except.ok x : Checked α) >>= f) = f x := rfl

@[simp] theorem error_bind
    (panic : Panic)
    (f : α → Checked β) :
    ((Except.error panic : Checked α) >>= f) =
      .error panic := rfl

@[simp] theorem pure_eq_ok (x : α) :
    (pure x : Checked α) = .ok x := rfl

end Checked

------------------------------------------------------------
-- Reading
------------------------------------------------------------

namespace Slice

variable {α : Type} {xs source : List α}
variable {i start stop : Nat}

/- `xs[i]`. -/
def index (xs : List α) (i : Nat) : Checked α :=
  match xs[i]? with
  | some x => .ok x
  | none => .error .index

/- `&xs[start..stop]`. -/
def slice
    (xs : List α)
    (start stop : Nat) : Checked (List α) :=
  if start ≤ stop ∧ stop ≤ xs.length then
    .ok ((xs.take stop).drop start)
  else
    .error .range

/- `&xs[start..]`. -/
def sliceFrom
    (xs : List α)
    (start : Nat) : Checked (List α) :=
  if start ≤ xs.length then
    .ok (xs.drop start)
  else
    .error .range

/- An element in bounds is read, whatever the default is. -/
theorem index_eq
    (default : α)
    (hBound : i < xs.length) :
    index xs i = .ok (xs.getD i default) := by
  unfold index
  rw [List.getD_eq_getElem?_getD,
    List.getElem?_eq_getElem hBound, Option.getD_some]

theorem slice_eq
    (hOrder : start ≤ stop)
    (hBound : stop ≤ xs.length) :
    slice xs start stop =
      .ok ((xs.take stop).drop start) :=
  if_pos ⟨hOrder, hBound⟩

/- A range whose start is past its end panics. -/
theorem slice_eq_error
    (hOrder : stop < start) :
    slice xs start stop = .error .range :=
  if_neg fun hBoth => Nat.not_le_of_lt hOrder hBoth.1

theorem sliceFrom_eq
    (hBound : start ≤ xs.length) :
    sliceFrom xs start = .ok (xs.drop start) :=
  if_pos hBound

/- An element of a suffix is one of the whole. -/
theorem getD_drop
    (default : α) :
    (xs.drop start).getD i default =
      xs.getD (start + i) default := by
  simp [List.getD_eq_getElem?_getD]

/- A suffix starts with the element it is cut off at. -/
theorem drop_eq_cons
    (default : α)
    (hBound : i < xs.length) :
    xs.drop i =
      xs.getD i default :: xs.drop (i + 1) := by
  rw [List.drop_eq_getElem_cons hBound,
    List.getD_eq_getElem?_getD,
    List.getElem?_eq_getElem hBound, Option.getD_some]

------------------------------------------------------------
-- Writing
------------------------------------------------------------

/- `xs[i] = x`. -/
def setIndex
    (xs : List α)
    (i : Nat)
    (x : α) : Checked (List α) :=
  if i < xs.length then
    .ok (xs.set i x)
  else
    .error .index

/- The elements from `start` on replaced by those given. -/
def overwrite
    (xs : List α)
    (start : Nat)
    (source : List α) : List α :=
  xs.take start ++ source ++ xs.drop (start + source.length)

/- `xs[start..stop].copy_from_slice(source)`. -/
def copyFromSlice
    (xs : List α)
    (start stop : Nat)
    (source : List α) : Checked (List α) :=
  if start ≤ stop ∧ stop ≤ xs.length then
    if source.length = stop - start then
      .ok (overwrite xs start source)
    else
      .error .length
  else
    .error .range

theorem setIndex_eq
    (x : α)
    (hBound : i < xs.length) :
    setIndex xs i x = .ok (overwrite xs i [x]) := by
  unfold setIndex overwrite
  rw [if_pos hBound, List.set_eq_take_append_cons_drop,
    if_pos hBound, List.append_assoc]
  rfl

theorem copyFromSlice_eq
    (hStop : stop = start + source.length)
    (hBound : stop ≤ xs.length) :
    copyFromSlice xs start stop source =
      .ok (overwrite xs start source) := by
  unfold copyFromSlice
  rw [if_pos ⟨by omega, hBound⟩, if_pos (by omega)]

@[simp] theorem length_overwrite
    (hBound : start + source.length ≤ xs.length) :
    (overwrite xs start source).length = xs.length := by
  unfold overwrite
  simp only [List.length_append, List.length_take,
    List.length_drop]
  omega

/- The same, where the length is known by another name. -/
theorem length_overwrite_of_eq
    {n : Nat}
    (hLength : xs.length = n)
    (hBound : start + source.length ≤ n) :
    (overwrite xs start source).length = n := by
  rw [length_overwrite (by rw [hLength]; exact hBound),
    hLength]

/- Where `overwrite` puts its elements, and where not. -/
theorem getD_overwrite
    (default : α)
    (hBound : start + source.length ≤ xs.length) :
    (overwrite xs start source).getD i default =
      if start ≤ i ∧ i < start + source.length then
        source.getD (i - start) default
      else
        xs.getD i default := by
  unfold overwrite
  have hTake : (xs.take start).length = start := by
    rw [List.length_take]
    omega
  simp only [List.getD_eq_getElem?_getD,
    List.append_assoc, List.getElem?_append, hTake,
    List.getElem?_take, List.getElem?_drop]
  by_cases hBefore : i < start
  · rw [if_pos hBefore, if_pos hBefore, if_neg (by omega)]
  · rw [if_neg hBefore]
    by_cases hInside : i < start + source.length
    · rw [if_pos (by omega), if_pos ⟨by omega, hInside⟩]
    · rw [if_neg (by omega), if_neg (by omega)]
      congr 2
      omega

theorem getD_overwrite_outside
    (default : α)
    (hBound : start + source.length ≤ xs.length)
    (hOutside : i < start ∨ start + source.length ≤ i) :
    (overwrite xs start source).getD i default =
      xs.getD i default := by
  rw [getD_overwrite default hBound, if_neg (by omega)]

theorem getD_overwrite_inside
    (default : α)
    (hBound : start + source.length ≤ xs.length)
    (hInside : i < source.length) :
    (overwrite xs start source).getD (start + i) default =
      source.getD i default := by
  rw [getD_overwrite default hBound, if_pos (by omega),
    Nat.add_sub_cancel_left]

theorem getD_overwrite_singleton
    {x : α}
    (default : α)
    (hBound : start < xs.length) :
    (overwrite xs start [x]).getD i default =
      if i = start then x else xs.getD i default := by
  rw [getD_overwrite default hBound, List.length_singleton]
  by_cases hAt : i = start
  · rw [if_pos (by omega), if_pos hAt, hAt, Nat.sub_self]
    rfl
  · rw [if_neg (by omega), if_neg hAt]

/- What comes before and after the elements is kept. -/
theorem take_overwrite
    {n : Nat}
    (hBefore : n ≤ start)
    (hBound : start ≤ xs.length) :
    (overwrite xs start source).take n = xs.take n := by
  unfold overwrite
  rw [List.append_assoc, List.take_append_of_le_length,
    List.take_take, Nat.min_eq_left hBefore]
  rw [List.length_take]
  omega

theorem take_overwrite_inside
    {n : Nat}
    (hInside : start + source.length ≤ n)
    (hBound : n ≤ xs.length) :
    (overwrite xs start source).take n =
      overwrite (xs.take n) start source := by
  unfold overwrite
  have hFront : (xs.take start ++ source).length =
      start + source.length := by
    rw [List.length_append, List.length_take]
    omega
  rw [List.take_append, hFront,
    List.take_of_length_le (by omega), List.take_take,
    Nat.min_eq_left (by omega), List.drop_take]

theorem drop_overwrite
    {n : Nat}
    (hBound : n + start ≤ xs.length) :
    (overwrite xs (n + start) source).drop n =
      overwrite (xs.drop n) start source := by
  unfold overwrite
  rw [List.append_assoc, List.drop_append_of_le_length,
    List.drop_take, List.append_assoc, List.drop_drop,
    Nat.add_sub_cancel_left, Nat.add_assoc]
  rw [List.length_take]
  omega

------------------------------------------------------------
-- Adding
------------------------------------------------------------

/- The addition of two 32-bit numbers. -/
def addU32 (a b : Nat) : Checked Nat :=
  if a + b < 2 ^ 32 then
    .ok (a + b)
  else
    .error .overflow

theorem addU32_eq
    {a b : Nat}
    (hSum : a + b < 2 ^ 32) :
    addU32 a b = .ok (a + b) :=
  if_pos hSum

end Slice

end Library
