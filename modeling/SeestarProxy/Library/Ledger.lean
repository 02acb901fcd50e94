import Mathlib.Data.List.Nodup
import SeestarProxy.Library.History

/-
  Ledgers: who holds what, according to the history.

  A ledger reads the history as moves of things between
  places. Things are issued once; a place of the state holds
  a thing only while the latest move put it there. Some
  places are counted and hold nothing: what is moved to one
  of them stays there, so each thing is counted at most
  once.

  Main declarations:
    * `Ledger`, `Ledger.moves` and `Ledger.counted`
    * `Ledger.Kept`, `Ledger.Step` and `Kept.advance`
    * `Ledger.Lapsed` and `Lapsed.step`
-/

------------------------------------------------------------
-- Ledgers
------------------------------------------------------------

namespace Library

/-
  How observations assign places of type `ν` to things of
  type `κ`, and which things the places of a state hold.
-/
structure Ledger (σ ο κ ν : Type) where
  assign : ο → Option (κ × ν)
  held : σ → κ → ν → Prop
  issued : σ → κ → Prop
  isCounted : ν → Bool
  not_counted : ∀ {s k v}, held s k v → isCounted v = false

namespace Ledger

open History

variable {σ ο κ ν : Type}

/- The moves that a history records. -/
def moves
    (L : Ledger σ ο κ ν)
    (h : List ο) : List (κ × ν) :=
  h.filterMap L.assign

/- The things moved to a counted place, in order. -/
def counted
    (L : Ledger σ ο κ ν)
    (h : List ο) : List κ :=
  ((L.moves h).filter fun m => L.isCounted m.2).map Prod.fst

variable {L : Ledger σ ο κ ν}

@[simp] theorem moves_append (h o : List ο) :
    L.moves (h ++ o) = L.moves h ++ L.moves o := by
  simp [moves]

@[simp] theorem counted_append (h o : List ο) :
    L.counted (h ++ o) = L.counted h ++ L.counted o := by
  simp [counted]

theorem counted_of_moves_nil
    {o : List ο}
    (hMoves : L.moves o = []) :
    L.counted o = [] := by
  simp [counted, hMoves]

/- A thing is counted when an observation counts it. -/
theorem mem_counted_iff
    {h : List ο}
    {k : κ} :
    k ∈ L.counted h ↔
      ∃ x ∈ h, ∃ v, L.assign x = some (k, v) ∧
        L.isCounted v = true := by
  simp only [counted, moves, List.mem_map, List.mem_filter,
    List.mem_filterMap]
  constructor
  · rintro ⟨⟨k', v⟩, ⟨⟨x, hx, hAssign⟩, hCounted⟩, rfl⟩
    exact ⟨x, hx, v, hAssign, hCounted⟩
  · rintro ⟨x, hx, v, hAssign, hCounted⟩
    exact ⟨(k, v), ⟨⟨x, hx, hAssign⟩, hCounted⟩, rfl⟩

/- The thing that an observation counts. -/
def countedKey
    (L : Ledger σ ο κ ν)
    (x : ο) : Option κ :=
  match L.assign x with
  | some (k, v) =>
      if L.isCounted v = true then some k else none
  | none => none

theorem counted_eq_filterMap (h : List ο) :
    L.counted h = h.filterMap L.countedKey := by
  induction h with
  | nil => rfl
  | cons x h ih =>
      have hSplit :
          L.counted (x :: h) =
            L.counted [x] ++ L.counted h :=
        counted_append [x] h
      rw [hSplit, ih]
      cases hAssign : L.assign x with
      | none =>
          simp [counted, moves, countedKey, hAssign]
      | some m =>
          by_cases hFinal : L.isCounted m.2 = true <;>
            simp [counted, moves, countedKey, hAssign,
              hFinal]

section Last

variable [DecidableEq κ]

/- Nothing was assigned where no move is recorded. -/
theorem last_of_moves_nil
    {o : List ο}
    (hMoves : L.moves o = [])
    (k : κ) :
    last L.assign o k = none :=
  last_eq_none_of_forall
    (List.filterMap_eq_nil_iff.mp hMoves) k

/- A single move assigns its own key and no other. -/
theorem last_of_moves_singleton
    {o : List ο}
    {k₀ : κ}
    {v₀ : ν}
    (hMoves : L.moves o = [(k₀, v₀)])
    (k : κ) :
    last L.assign o k = if k₀ = k then some v₀ else none := by
  induction o with
  | nil => cases hMoves
  | cons x o ih =>
      cases hAssign : L.assign x with
      | none =>
          have hRest : L.moves o = [(k₀, v₀)] := by
            simpa [moves, hAssign] using hMoves
          rw [last, ih hRest, hAssign]
          split <;> simp_all
      | some m =>
          have hBoth :
              m = (k₀, v₀) ∧ L.moves o = [] := by
            simpa [moves, hAssign] using hMoves
          rcases hBoth with ⟨rfl, hRest⟩
          rw [last, last_of_moves_nil hRest, hAssign]

------------------------------------------------------------
-- Keeping a Ledger
------------------------------------------------------------

/- The state agrees with the moves of its history. -/
structure Kept
    (L : Ledger σ ο κ ν)
    (h : List ο)
    (s : σ) : Prop where
  tracks : Tracks L.assign L.held h s
  issued : ∀ k v, last L.assign h k = some v → L.issued s k
  once : (L.counted h).Nodup
  closed : ∀ k ∈ L.counted h,
    ∃ v, last L.assign h k = some v ∧ L.isCounted v = true

/- What is held was issued. -/
theorem Kept.issued_of_held
    {h : List ο}
    {s : σ}
    {k : κ}
    {v : ν}
    (hKept : L.Kept h s)
    (hHeld : L.held s k v) :
    L.issued s k :=
  hKept.issued k v (hKept.tracks k v hHeld)

/- What was counted is no longer held. -/
theorem Kept.not_held
    {h : List ο}
    {s : σ}
    {k : κ}
    (hKept : L.Kept h s)
    (hCounted : k ∈ L.counted h)
    (v : ν) :
    ¬ L.held s k v := by
  intro hHeld
  rcases hKept.closed k hCounted with ⟨w, hLast, hFinal⟩
  have hSame : some v = some w :=
    (hKept.tracks k v hHeld).symm.trans hLast
  have hNot := L.not_counted hHeld
  rw [Option.some.inj hSame, hFinal] at hNot
  cases hNot

/- A thing is counted by one observation only. -/
theorem Kept.counted_unique
    {h : List ο}
    {s : σ}
    {x y : ο}
    {k : κ}
    (hKept : L.Kept h s)
    (hx : x ∈ h)
    (hy : y ∈ h)
    (hKeyX : L.countedKey x = some k)
    (hKeyY : L.countedKey y = some k) :
    x = y := by
  have hNodup := hKept.once
  rw [counted_eq_filterMap] at hNodup
  exact eq_of_nodup_filterMap hNodup hx hy hKeyX hKeyY

/- An observation that counts a thing moved it last. -/
theorem Kept.last_of_counted
    {h : List ο}
    {s : σ}
    {x : ο}
    {k : κ}
    {v : ν}
    (hKept : L.Kept h s)
    (hMem : x ∈ h)
    (hMove : L.assign x = some (k, v))
    (hCounted : L.isCounted v = true) :
    last L.assign h k = some v := by
  have hKeyOf {y : ο} {w : ν}
      (hMove : L.assign y = some (k, w))
      (hFinal : L.isCounted w = true) :
      L.countedKey y = some k := by
    simp [countedKey, hMove, hFinal]
  have hKey : k ∈ L.counted h := by
    rw [counted_eq_filterMap, List.mem_filterMap]
    exact ⟨x, hMem, hKeyOf hMove hCounted⟩
  rcases hKept.closed k hKey with ⟨w, hLast, hFinal⟩
  rcases exists_mem_of_last_eq_some hLast with
    ⟨y, hMem', hMove'⟩
  have hSame : x = y := hKept.counted_unique hMem hMem'
    (hKeyOf hMove hCounted) (hKeyOf hMove' hFinal)
  subst hSame
  cases hMove.symm.trans hMove'
  exact hLast

/- At most one observation counts a thing. -/
theorem Kept.countP_le_one
    {h : List ο}
    {s : σ}
    {k : κ}
    {p : ο → Bool}
    (hKept : L.Kept h s)
    (hCounts : ∀ x ∈ h, p x = true →
      L.countedKey x = some k) :
    h.countP p ≤ 1 := by
  have hOnce : (L.counted h).count k ≤ 1 :=
    List.nodup_iff_count_le_one.mp hKept.once k
  have hLe : h.countP p ≤ (L.counted h).count k := by
    rw [counted_eq_filterMap, List.count,
      List.countP_filterMap]
    apply List.countP_mono_left
    intro x hx hTrue
    simp [hCounts x hx hTrue]
  exact Nat.le_trans hLe hOnce

/-
  What a step may do: nothing, move a held thing, or issue a
  thing. What is held after a move is the moved thing at its
  new place, or was held before and is not the moved thing
  at its old place.
-/
inductive Step
    (L : Ledger σ ο κ ν)
    (o : List ο)
    (s s' : σ) : Prop where
| stay
    (hMoves : L.moves o = [])
    (hHeld : ∀ k v, L.held s' k v → L.held s k v)
| move {k₀ : κ} {v₀ v₁ : ν}
    (hFrom : L.held s k₀ v₀)
    (hMoves : L.moves o = [(k₀, v₁)])
    (hHeld : ∀ k v, L.held s' k v →
      (k = k₀ ∧ v = v₁) ∨
        (L.held s k v ∧ (v = v₀ → k ≠ k₀)))
| issue {k₀ : κ} {v₁ : ν}
    (hNew : ¬ L.issued s k₀)
    (hIssued : L.issued s' k₀)
    (hMoves : L.moves o = [(k₀, v₁)])
    (hHeld : ∀ k v, L.held s' k v →
      (k = k₀ ∧ v = v₁) ∨ L.held s k v)

private theorem Kept.stay
    {h o : List ο}
    {s s' : σ}
    (hKept : L.Kept h s)
    (hMoves : L.moves o = [])
    (hIssued : ∀ k, L.issued s k → L.issued s' k)
    (hHeld : ∀ k v, L.held s' k v → L.held s k v) :
    L.Kept (h ++ o) s' := by
  have hLast (k : κ) :
      last L.assign (h ++ o) k = last L.assign h k :=
    last_append_of_none (last_of_moves_nil hMoves k)
  have hCounted : L.counted (h ++ o) = L.counted h := by
    rw [counted_append, counted_of_moves_nil hMoves,
      List.append_nil]
  refine ⟨?_, ?_, ?_, ?_⟩
  · intro k v hAfter
    rw [hLast]
    exact hKept.tracks k v (hHeld k v hAfter)
  · intro k v hAssigned
    rw [hLast] at hAssigned
    exact hIssued k (hKept.issued k v hAssigned)
  · rw [hCounted]
    exact hKept.once
  · intro k hk
    rw [hCounted] at hk
    rw [hLast]
    exact hKept.closed k hk

/-
  A step that assigns one thing which was not counted
  before, while everything else stays where it was.
-/
private theorem Kept.assignOne
    {h o : List ο}
    {s s' : σ}
    {k₀ : κ}
    {v₁ : ν}
    (hKept : L.Kept h s)
    (hMoves : L.moves o = [(k₀, v₁)])
    (hFresh : k₀ ∉ L.counted h)
    (hIssued : ∀ k, L.issued s k → L.issued s' k)
    (hIssuedNow : L.issued s' k₀)
    (hHeld : ∀ k v, L.held s' k v →
      (k = k₀ ∧ v = v₁) ∨ (k ≠ k₀ ∧ L.held s k v)) :
    L.Kept (h ++ o) s' := by
  have hSame :
      last L.assign (h ++ o) k₀ = some v₁ := by
    apply last_append_of_some
    rw [last_of_moves_singleton hMoves, if_pos rfl]
  have hOther (k : κ) (hk : k ≠ k₀) :
      last L.assign (h ++ o) k = last L.assign h k := by
    apply last_append_of_none
    rw [last_of_moves_singleton hMoves, if_neg hk.symm]
  have hNew :
      L.counted o =
        if L.isCounted v₁ = true then [k₀] else [] := by
    by_cases hFinal : L.isCounted v₁ = true <;>
      simp [counted, hMoves, hFinal]
  refine ⟨?_, ?_, ?_, ?_⟩
  · intro k v hAfter
    rcases hHeld k v hAfter with
      ⟨rfl, rfl⟩ | ⟨hk, hBefore⟩
    · exact hSame
    · rw [hOther k hk]
      exact hKept.tracks k v hBefore
  · intro k v hAssigned
    by_cases hk : k = k₀
    · rw [hk]
      exact hIssuedNow
    · rw [hOther k hk] at hAssigned
      exact hIssued k (hKept.issued k v hAssigned)
  · rw [counted_append, hNew]
    rw [List.nodup_append]
    refine ⟨hKept.once, by split <;> simp, ?_⟩
    intro k hBefore k' hAfter hSame'
    have hKey : k' = k₀ := by
      split at hAfter <;> simp_all
    rw [hSame', hKey] at hBefore
    exact hFresh hBefore
  · intro k hk
    rw [counted_append, hNew] at hk
    by_cases hKey : k = k₀
    · subst hKey
      refine ⟨v₁, hSame, ?_⟩
      by_contra hFinal
      simp [hFinal, hFresh] at hk
    · have hBefore : k ∈ L.counted h := by
        split at hk <;> simp_all
      rw [hOther k hKey]
      exact hKept.closed k hBefore

/- A step keeps the ledger when nothing issued is lost. -/
theorem Kept.advance
    {h o : List ο}
    {s s' : σ}
    (hKept : L.Kept h s)
    (hIssued : ∀ k, L.issued s k → L.issued s' k)
    (hStep : L.Step o s s') :
    L.Kept (h ++ o) s' := by
  cases hStep with
  | stay hMoves hHeld =>
      exact hKept.stay hMoves hIssued hHeld
  | @move k₀ v₀ v₁ hFrom hMoves hHeld =>
      refine hKept.assignOne hMoves
        (fun hCounted => hKept.not_held hCounted v₀ hFrom)
        hIssued (hIssued k₀ (hKept.issued_of_held hFrom)) ?_
      intro k v hAfter
      rcases hHeld k v hAfter with hNew | ⟨hBefore, hLeft⟩
      · exact Or.inl hNew
      · refine Or.inr ⟨?_, hBefore⟩
        intro hKey
        subst hKey
        exact hLeft (hKept.tracks.unique hBefore hFrom) rfl
  | @issue k₀ v₁ hNew hIssuedNow hMoves hHeld =>
      refine hKept.assignOne hMoves ?_ hIssued hIssuedNow ?_
      · intro hCounted
        rcases hKept.closed k₀ hCounted with ⟨v, hLast, -⟩
        exact hNew (hKept.issued k₀ v hLast)
      · intro k v hAfter
        rcases hHeld k v hAfter with hSame | hBefore
        · exact Or.inl hSame
        · refine Or.inr ⟨?_, hBefore⟩
          intro hKey
          subst hKey
          exact hNew (hKept.issued_of_held hBefore)

------------------------------------------------------------
-- Lapsed Things
------------------------------------------------------------

/- A thing was issued and is held nowhere any more. -/
def Lapsed
    (L : Ledger σ ο κ ν)
    (s : σ)
    (k : κ) : Prop :=
  L.issued s k ∧ ∀ v, ¬ L.held s k v

/- What was counted has lapsed. -/
theorem Kept.lapsed_of_counted
    {h : List ο}
    {s : σ}
    {k : κ}
    (hKept : L.Kept h s)
    (hCounted : k ∈ L.counted h) :
    L.Lapsed s k := by
  rcases hKept.closed k hCounted with ⟨v, hLast, -⟩
  exact ⟨hKept.issued k v hLast, hKept.not_held hCounted⟩

omit [DecidableEq κ] in
/- A lapsed thing is never moved or held again. -/
theorem Lapsed.step
    {o : List ο}
    {s s' : σ}
    {k : κ}
    (hLapsed : L.Lapsed s k)
    (hIssued : ∀ k, L.issued s k → L.issued s' k)
    (hStep : L.Step o s s') :
    L.Lapsed s' k ∧ ∀ v, (k, v) ∉ L.moves o := by
  rcases hLapsed with ⟨hOld, hNone⟩
  cases hStep with
  | stay hMoves hHeld =>
      refine ⟨⟨hIssued k hOld, ?_⟩, by simp [hMoves]⟩
      exact fun v hAfter => hNone v (hHeld k v hAfter)
  | @move k₀ v₀ v₁ hFrom hMoves hHeld =>
      have hOther : k ≠ k₀ := by
        intro hKey
        rw [hKey] at hNone
        exact hNone v₀ hFrom
      refine ⟨⟨hIssued k hOld, ?_⟩, by simp [hMoves, hOther]⟩
      intro v hAfter
      rcases hHeld k v hAfter with ⟨hKey, -⟩ | ⟨hBefore, -⟩
      · exact hOther hKey
      · exact hNone v hBefore
  | @issue k₀ v₁ hNew hIssuedNow hMoves hHeld =>
      have hOther : k ≠ k₀ := by
        intro hKey
        rw [hKey] at hOld
        exact hNew hOld
      refine ⟨⟨hIssued k hOld, ?_⟩, by simp [hMoves, hOther]⟩
      intro v hAfter
      rcases hHeld k v hAfter with ⟨hKey, -⟩ | hBefore
      · exact hOther hKey
      · exact hNone v hBefore

end Last

end Ledger

end Library
