import SeestarProxy.Session.Replay

/-
  The names of frame files and their order.

  A name determines the index and the kind of its frame. Two
  names with different indices are ordered as the indices
  are as text, whatever the kinds.

  Main declarations:
    * `frameName_injective` and `isFrameName_frameName`
    * `nameLe_frameName`
-/

------------------------------------------------------------
-- Names
------------------------------------------------------------

namespace SeestarProxy

namespace Session

open Library Protocol

variable {idx idx' : UInt32} {kind kind' : Kind}

/- What follows the index in a name. -/
def Kind.ending (kind : Kind) : List Char :=
  kind.text.toList ++ ".bin".toList

theorem toList_frameName (idx : UInt32) (kind : Kind) :
    (frameName idx kind).toList =
      "frame_".toList ++
        (Decimal.delimited 4 '_' idx.toNat ++
          kind.ending) := by
  unfold frameName Decimal.delimited Kind.ending
  simp only [String.toList_append, String.toList_ofList,
    List.append_assoc]
  rfl

theorem Kind.ending_injective :
    Function.Injective Kind.ending := by
  intro kind kind' hEq
  cases kind <;> cases kind'
  · rfl
  · revert hEq
    decide
  · revert hEq
    decide
  · rfl

/- Equal names have equal indices and kinds. -/
theorem frameName_injective
    (hEq : frameName idx kind = frameName idx' kind') :
    idx = idx' ∧ kind = kind' := by
  have hChars := congrArg String.toList hEq
  rw [toList_frameName, toList_frameName] at hChars
  have hRest := List.append_cancel_left hChars
  have hIdx : idx = idx' := by
    by_contra hNe
    have hNat : idx.toNat ≠ idx'.toNat := fun hSame =>
      hNe (UInt32.toNat_inj.mp hSame)
    have hDigit : Char.isDigit '_' = false := rfl
    -- One of two texts at the front continues the other.
    rcases List.append_eq_append_iff.mp hRest with
      ⟨more, hLonger, -⟩ | ⟨more, hLonger, -⟩
    · exact Decimal.delimited_not_prefix hDigit hNat
        ⟨more, hLonger.symm⟩
    · exact Decimal.delimited_not_prefix hDigit hNat.symm
        ⟨more, hLonger.symm⟩
  subst hIdx
  refine ⟨rfl, ?_⟩
  exact Kind.ending_injective
    (List.append_cancel_left hRest)

/- Frames are recorded under names that are replayed. -/
theorem isFrameName_frameName (idx : UInt32) (kind : Kind) :
    isFrameName (frameName idx kind) = true := by
  unfold isFrameName
  rw [Bool.and_eq_true, List.isPrefixOf_iff_prefix,
    List.isSuffixOf_iff_suffix, toList_frameName]
  refine ⟨List.prefix_append _ _, ?_⟩
  refine ⟨"frame_".toList ++
    (Decimal.delimited 4 '_' idx.toNat ++
      kind.text.toList), ?_⟩
  unfold Kind.ending
  simp only [List.append_assoc]

------------------------------------------------------------
-- The Order of Names
------------------------------------------------------------

/- A name is of ASCII characters. -/
def IsAscii (chars : List Char) : Prop :=
  ∀ c ∈ chars, c.toNat < 128

/- The bytes of ASCII characters are their codes. -/
theorem encodeUtf8_of_isAscii
    {chars : List Char}
    (hAscii : IsAscii chars) :
    (Text.encodeUtf8 chars).map UInt8.toNat =
      chars.map Char.toNat := by
  induction chars with
  | nil => rfl
  | cons c chars ih =>
      have hChar := hAscii c List.mem_cons_self
      have hRest := ih fun d hMem =>
        hAscii d (List.mem_cons_of_mem c hMem)
      have hByte :
          String.utf8EncodeChar c = [UInt8.ofNat c.toNat] := by
        unfold String.utf8EncodeChar
        exact if_pos (Nat.le_of_lt_succ hChar)
      unfold Text.encodeUtf8 at hRest ⊢
      rw [List.flatMap_cons, List.map_append, hRest, hByte]
      rw [List.map_cons, List.map_cons, UInt8.toNat_ofNat',
        Nat.mod_eq_of_lt (by omega)]
      rfl

theorem isAscii_append
    {a b : List Char}
    (hFirst : IsAscii a)
    (hSecond : IsAscii b) :
    IsAscii (a ++ b) := by
  intro c hMem
  rcases List.mem_append.mp hMem with hLeft | hRight
  · exact hFirst c hLeft
  · exact hSecond c hRight

theorem isAscii_frameName (idx : UInt32) (kind : Kind) :
    IsAscii (frameName idx kind).toList := by
  rw [toList_frameName]
  refine isAscii_append ?_ (isAscii_append
    (isAscii_append ?_ ?_) ?_)
  · unfold IsAscii
    simp
  · intro c hDigit
    have hBounds := Decimal.toNat_of_isDigit
      (Decimal.isDigit_of_mem_padded hDigit)
    omega
  · unfold IsAscii
    simp
  · unfold IsAscii
    cases kind <;> simp [Kind.ending, Kind.text]

/- Names are ordered as their indices are as text. -/
theorem nameKey_lt
    (hLess :
      Decimal.delimited 4 '_' idx.toNat <
        Decimal.delimited 4 '_' idx'.toNat)
    (kind kind' : Kind) :
    nameKey (frameName idx kind) <
      nameKey (frameName idx' kind') := by
  have hStart :
      ¬ Decimal.delimited 4 '_' idx.toNat <+:
        Decimal.delimited 4 '_' idx'.toNat := by
    apply Decimal.delimited_not_prefix rfl
    intro hSame
    rw [hSame] at hLess
    exact lt_irrefl _ hLess
  unfold nameKey
  rw [encodeUtf8_of_isAscii (isAscii_frameName idx kind),
    encodeUtf8_of_isAscii (isAscii_frameName idx' kind'),
    toList_frameName, toList_frameName]
  apply List.map_lt
  · intro c d hChar
    exact hChar
  · apply List.append_left_lt
    exact Decimal.append_lt_append hStart hLess _ _

theorem nameLe_frameName
    (hNe : idx ≠ idx')
    (kind kind' : Kind) :
    nameLe (frameName idx kind) (frameName idx' kind') =
      Decimal.delimitedLe 4 '_' idx.toNat idx'.toNat := by
  have hNat : idx.toNat ≠ idx'.toNat := fun hSame =>
    hNe (UInt32.toNat_inj.mp hSame)
  unfold nameLe Decimal.delimitedLe
  rw [decide_eq_decide]
  have hOrder :
      Decimal.delimited 4 '_' idx.toNat <
          Decimal.delimited 4 '_' idx'.toNat ∨
        Decimal.delimited 4 '_' idx'.toNat <
          Decimal.delimited 4 '_' idx.toNat :=
    Decimal.delimited_lt_or hNat
  rcases hOrder with hLess | hLess
  · have hKeys := nameKey_lt hLess kind kind'
    exact ⟨fun _ => le_of_lt hLess,
      fun _ => le_of_lt hKeys⟩
  · have hKeys := nameKey_lt hLess kind' kind
    constructor
    · intro hLe
      exact absurd hLe (not_le.mpr hKeys)
    · intro hLe
      exact absurd hLe (not_le.mpr hLess)

/- Two different names of frames are never both first. -/
theorem nameLe_antisymm
    (hFirst :
      nameLe (frameName idx kind) (frameName idx' kind'))
    (hSecond :
      nameLe (frameName idx' kind') (frameName idx kind)) :
    idx = idx' := by
  by_contra hNe
  have hNat : idx.toNat ≠ idx'.toNat := fun hSame =>
    hNe (UInt32.toNat_inj.mp hSame)
  unfold nameLe at hFirst hSecond
  simp only [decide_eq_true_eq] at hFirst hSecond
  have hOrder :
      Decimal.delimited 4 '_' idx.toNat <
          Decimal.delimited 4 '_' idx'.toNat ∨
        Decimal.delimited 4 '_' idx'.toNat <
          Decimal.delimited 4 '_' idx.toNat :=
    Decimal.delimited_lt_or hNat
  rcases hOrder with hLess | hLess
  · exact not_le.mpr (nameKey_lt hLess kind kind') hSecond
  · exact not_le.mpr (nameKey_lt hLess kind' kind) hFirst

theorem nameLe_trans
    (a b c : String)
    (hFirst : nameLe a b)
    (hSecond : nameLe b c) :
    nameLe a c := by
  unfold nameLe at *
  simp only [decide_eq_true_eq] at *
  exact le_trans hFirst hSecond

theorem nameLe_total (a b : String) :
    (nameLe a b || nameLe b a) = true := by
  unfold nameLe
  simp only [Bool.or_eq_true, decide_eq_true_eq]
  exact le_total _ _

end Session

end SeestarProxy
