import Mathlib.Data.List.Basic

/-
  A bounded window on a sequence that grows at its end: an
  entry that is added to a full window takes the place of
  the oldest one.

  Main declarations:
    * `pushBounded` and its length and members
    * `rel_getLast` and `pairwise_pushBounded_iff`
-/

------------------------------------------------------------
-- Adding to a Window
------------------------------------------------------------

namespace Library

variable {α β : Type}

/- Add an entry at the end, dropping the first when full. -/
def pushBounded
    (cap : Nat)
    (window : List α)
    (entry : α) : List α :=
  if cap ≤ window.length then
    window.tail ++ [entry]
  else
    window ++ [entry]

variable {cap : Nat} {window : List α} {entry : α}

theorem length_pushBounded_le
    (hCap : 0 < cap)
    (hLength : window.length ≤ cap) :
    (pushBounded cap window entry).length ≤ cap := by
  unfold pushBounded
  split
  · rw [List.length_append, List.length_tail,
      List.length_singleton]
    omega
  · rw [List.length_append, List.length_singleton]
    omega

@[simp] theorem getLast?_pushBounded :
    (pushBounded cap window entry).getLast? =
      some entry := by
  unfold pushBounded
  split
  · exact List.getLast?_concat
  · exact List.getLast?_concat

theorem map_pushBounded
    (f : α → β) :
    (pushBounded cap window entry).map f =
      pushBounded cap (window.map f) (f entry) := by
  unfold pushBounded
  rw [List.length_map]
  split
  · rw [List.map_append, List.map_tail, List.map_singleton]
  · rw [List.map_append, List.map_singleton]

theorem mem_pushBounded
    {x : α}
    (hMem : x ∈ pushBounded cap window entry) :
    x ∈ window ∨ x = entry := by
  unfold pushBounded at hMem
  split at hMem
  · rcases List.mem_append.mp hMem with hOld | hNew
    · exact Or.inl (List.mem_of_mem_tail hOld)
    · exact Or.inr (List.mem_singleton.mp hNew)
  · rcases List.mem_append.mp hMem with hOld | hNew
    · exact Or.inl hOld
    · exact Or.inr (List.mem_singleton.mp hNew)

------------------------------------------------------------
-- Ordered Windows
------------------------------------------------------------

variable {R : α → α → Prop}

/- The last entry of an ordered window comes after all. -/
theorem rel_getLast
    {last x : α}
    (hOrder : window.Pairwise R)
    (hLast : window.getLast? = some last)
    (hMem : x ∈ window) :
    x = last ∨ R x last := by
  rcases List.getLast?_eq_some_iff.mp hLast with
    ⟨before, rfl⟩
  rcases List.mem_append.mp hMem with hOld | hNew
  · exact Or.inr ((List.pairwise_append.mp hOrder).2.2 x hOld
      last List.mem_cons_self)
  · exact Or.inl (List.mem_singleton.mp hNew)

/-
  A window of two entries or more keeps the last one when
  an entry is added, so the result is ordered exactly when
  the new entry comes after it.
-/
theorem pairwise_pushBounded_iff
    (hCap : 2 ≤ cap)
    (hOrder : window.Pairwise R)
    (hTrans : ∀ x y z, R x y → R y z → R x z) :
    (pushBounded cap window entry).Pairwise R ↔
      ∀ last, window.getLast? = some last → R last entry := by
  have hAfter {last : α}
      (hLast : window.getLast? = some last)
      (hRel : R last entry) {x : α} (hMem : x ∈ window) :
      R x entry := by
    rcases rel_getLast hOrder hLast hMem with rfl | hBefore
    · exact hRel
    · exact hTrans _ _ _ hBefore hRel
  have hAll (hEach : ∀ last, window.getLast? = some last →
      R last entry) {x : α} (hMem : x ∈ window) :
      R x entry := by
    cases hLast : window.getLast? with
    | none =>
        rw [List.getLast?_eq_none_iff.mp hLast] at hMem
        cases hMem
    | some last => exact hAfter hLast (hEach last hLast) hMem
  unfold pushBounded
  split
  · rename_i hFull
    simp only [List.pairwise_append, List.pairwise_singleton,
      List.mem_singleton, forall_eq, true_and]
    constructor
    · rintro ⟨-, hEach⟩ last hLast
      refine hEach last ?_
      rcases List.getLast?_eq_some_iff.mp hLast with
        ⟨before, rfl⟩
      cases before with
      | nil =>
          rw [List.nil_append, List.length_singleton] at hFull
          omega
      | cons first rest => simp
    · intro hEach
      exact ⟨hOrder.tail, fun x hMem =>
        hAll hEach (List.mem_of_mem_tail hMem)⟩
  · simp only [List.pairwise_append, List.pairwise_singleton,
      List.mem_singleton, forall_eq, true_and]
    constructor
    · rintro ⟨-, hEach⟩ last hLast
      exact hEach last (List.mem_of_getLast? hLast)
    · intro hEach
      exact ⟨hOrder, fun x hMem => hAll hEach hMem⟩

end Library
