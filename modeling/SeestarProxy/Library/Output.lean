import Mathlib.Data.List.Basic

/-
  What a task writes out, one message after the other.

  A writer takes messages and puts out the symbols of each;
  it can be cut off inside a message and puts out nothing
  after that. What it took may have come from two sources.

  Main declarations:
    * `Output.Phase`, `Output.Put` and `Output.Intact`
    * `Output.Interleave`
-/

------------------------------------------------------------
-- Writers
------------------------------------------------------------

namespace Library

namespace Output

variable {α β : Type} {encode : α → List β}
variable {isCut isCut' : α → Prop}
variable {taken : List α} {out : List β} {x : α}

/- Where a writer is. -/
inductive Phase (α : Type) where
| idle
| writing (x : α)
| ended

/-
  What is out after some messages were taken: all of them,
  all but the one in hand, or at the end all but what is
  missing of a last one that was cut off.
-/
def Put
    (encode : α → List β)
    (isCut : α → Prop)
    (taken : List α)
    (out : List β) : Phase α → Prop
| .idle => out = taken.flatMap encode
| .writing x =>
    ∃ whole, taken = whole ++ [x] ∧
      out = whole.flatMap encode
| .ended =>
    out = taken.flatMap encode ∨
      ∃ whole x tail, isCut x ∧ taken = whole ++ [x] ∧
        tail <+: encode x ∧
          out = whole.flatMap encode ++ tail

/-
  The output is made of whole messages, the first ones that
  were taken, and at the end perhaps of a part of the next,
  if that one may be cut off.
-/
def Intact
    (encode : α → List β)
    (mayCut : α → Prop)
    (taken : List α)
    (out : List β) : Prop :=
  ∃ whole tail, out = whole.flatMap encode ++ tail ∧
    (tail = [] ∧ whole <+: taken ∨
      ∃ last, mayCut last ∧ tail <+: encode last ∧
        taken = whole ++ [last])

theorem Put.take
    (hPut : Put encode isCut taken out .idle)
    (x : α) :
    Put encode isCut (taken ++ [x]) out (.writing x) :=
  ⟨taken, rfl, hPut⟩

theorem Put.wrote
    (hPut : Put encode isCut taken out (.writing x)) :
    Put encode isCut taken (out ++ encode x) .idle := by
  rcases hPut with ⟨whole, rfl, rfl⟩
  simp [Put]

theorem Put.cut
    (hPut : Put encode isCut taken out (.writing x))
    (hCut : isCut x)
    (n : Nat) :
    Put encode isCut taken
      (out ++ (encode x).take n) .ended := by
  rcases hPut with ⟨whole, rfl, rfl⟩
  exact Or.inr ⟨whole, x, (encode x).take n, hCut, rfl,
    List.take_prefix n _, rfl⟩

theorem Put.stop
    (hPut : Put encode isCut taken out .idle) :
    Put encode isCut taken out .ended :=
  Or.inl hPut

/- More messages may be cut off. -/
theorem Put.mono
    {phase : Phase α}
    (hImp : ∀ x, isCut x → isCut' x)
    (hPut : Put encode isCut taken out phase) :
    Put encode isCut' taken out phase := by
  cases phase with
  | idle => exact hPut
  | writing x => exact hPut
  | ended =>
      rcases hPut with
        hOut | ⟨whole, x, tail, hCut, hTaken⟩
      · exact Or.inl hOut
      · exact Or.inr ⟨whole, x, tail, hImp x hCut, hTaken⟩

/- Whatever the writer is doing, its output is intact. -/
theorem Put.intact
    {phase : Phase α}
    (hPut : Put encode isCut taken out phase) :
    Intact encode (fun x => phase = .ended ∧ isCut x)
      taken out := by
  have hAll
      (hOut : out = taken.flatMap encode) :
      Intact encode (fun x => phase = .ended ∧ isCut x)
        taken out :=
    ⟨taken, [], by rw [hOut, List.append_nil],
      Or.inl ⟨rfl, List.prefix_refl _⟩⟩
  cases phase with
  | idle => exact hAll hPut
  | writing x =>
      rcases hPut with ⟨whole, hTaken, hOut⟩
      refine ⟨whole, [], ?_, Or.inl ⟨rfl, ?_⟩⟩
      · rw [hOut, List.append_nil]
      · exact ⟨[x], hTaken.symm⟩
  | ended =>
      rcases hPut with
        hOut | ⟨whole, x, tail, hCut, hTaken, hTail, hOut⟩
      · exact hAll hOut
      · exact ⟨whole, tail, hOut,
          Or.inr ⟨x, ⟨rfl, hCut⟩, hTail, hTaken⟩⟩

/- What is known of a cut message may be weakened. -/
theorem Intact.mono
    {mayCut mayCut' : α → Prop}
    (hImp : ∀ x, mayCut x → mayCut' x)
    (hIntact : Intact encode mayCut taken out) :
    Intact encode mayCut' taken out := by
  rcases hIntact with ⟨whole, tail, hOut, hTail⟩
  refine ⟨whole, tail, hOut, ?_⟩
  rcases hTail with hWhole | ⟨last, hCut, hLast⟩
  · exact Or.inl hWhole
  · exact Or.inr ⟨last, hImp last hCut, hLast⟩

------------------------------------------------------------
-- Two Sources
------------------------------------------------------------

/-
  The last list is a merge of the other two: it takes all of
  their members, keeping the order within each.
-/
inductive Interleave :
    List α → List α → List α → Prop
| nil : Interleave [] [] []
| left {xs ys zs : List α} (x : α)
    (hMerge : Interleave xs ys zs) :
    Interleave (xs ++ [x]) ys (zs ++ [x])
| right {xs ys zs : List α} (y : α)
    (hMerge : Interleave xs ys zs) :
    Interleave xs (ys ++ [y]) (zs ++ [y])

/- A member of a merge comes from one of the two. -/
theorem Interleave.mem_or
    {xs ys zs : List α}
    (hMerge : Interleave xs ys zs)
    (hMem : x ∈ zs) :
    x ∈ xs ∨ x ∈ ys := by
  induction hMerge with
  | nil => cases hMem
  | left y hMerge ih =>
      rcases List.mem_append.mp hMem with hOld | hNew
      · rcases ih hOld with hLeft | hRight
        · exact Or.inl (List.mem_append_left _ hLeft)
        · exact Or.inr hRight
      · exact Or.inl (List.mem_append_right _ hNew)
  | right y hMerge ih =>
      rcases List.mem_append.mp hMem with hOld | hNew
      · rcases ih hOld with hLeft | hRight
        · exact Or.inl hLeft
        · exact Or.inr (List.mem_append_left _ hRight)
      · exact Or.inr (List.mem_append_right _ hNew)

end Output

end Library
