import Mathlib

/-
  Decimal numerals of a minimum width.

  A number is written with zeros in front up to a width and
  with more digits where it needs them. Numerals that fit
  the width are ordered as their numbers are. The first one
  that does not fit is sorted as text before a smaller
  number, if what follows a numeral comes after the digits.

  Main declarations:
    * `Decimal.padded` and `padded_injective`
    * `Decimal.delimited` and `delimitedLe`
    * `delimitedLe_of_lt` and `not_delimitedLe_pow`
-/

------------------------------------------------------------
-- Numerals
------------------------------------------------------------

namespace Library

namespace Decimal

variable {w m n : Nat} {a b : List Char}

/- The digits of a number, with zeros in front. -/
def padded (w n : Nat) : List Char :=
  (Nat.toDigits 10 n).leftpad w '0'

theorem isDigit_of_mem_padded
    {c : Char}
    (hMem : c ∈ padded w n) :
    c.isDigit := by
  unfold padded List.leftpad at hMem
  rcases List.mem_append.mp hMem with hZero | hDigit
  · rw [List.eq_of_mem_replicate hZero]
    rfl
  · exact Nat.isDigit_of_mem_toDigits (by decide)
      (by decide) hDigit

/- The number that a numeral stands for. -/
theorem ofDigitChars_padded (w n : Nat) :
    Nat.ofDigitChars 10 (padded w n) 0 = n := by
  unfold padded List.leftpad
  rw [Nat.ofDigitChars_append,
    Nat.ofDigitChars_replicate_zero, Nat.mul_zero,
    Nat.ofDigitChars_ten_toDigits]

theorem padded_injective (w : Nat) :
    Function.Injective (padded w) := by
  intro m n hEq
  rw [← ofDigitChars_padded w m, hEq,
    ofDigitChars_padded]

/- A number that fits the width has that many digits. -/
theorem length_padded
    (hWidth : 0 < w)
    (hFits : n < 10 ^ w) :
    (padded w n).length = w := by
  have hDigits : (Nat.toDigits 10 n).length ≤ w :=
    (Nat.length_toDigits_le_iff (by decide) hWidth).mpr
      hFits
  unfold padded
  rw [List.length_leftpad]
  exact Nat.max_eq_left hDigits

------------------------------------------------------------
-- Numerals That Fit
------------------------------------------------------------

theorem toNat_of_isDigit
    {c : Char}
    (hDigit : c.isDigit) :
    48 ≤ c.toNat ∧ c.toNat ≤ 57 :=
  Char.isDigit_iff_toNat.mp hDigit

/- A numeral is less than the next power of the base. -/
theorem ofDigitChars_lt
    (hDigits : ∀ c ∈ a, c.isDigit) :
    Nat.ofDigitChars 10 a 0 < 10 ^ a.length := by
  induction a with
  | nil => simp
  | cons c a ih =>
      have hRest := ih fun d hMem =>
        hDigits d (List.mem_cons_of_mem c hMem)
      have hDigit :=
        toNat_of_isDigit (hDigits c List.mem_cons_self)
      rw [Nat.ofDigitChars_cons,
        Nat.ofDigitChars_eq_ofDigitChars_zero,
        List.length_cons, Nat.pow_succ']
      have hHead :
          10 ^ a.length * (10 * 0 + (c.toNat - '0'.toNat)) ≤
            10 ^ a.length * 9 := by
        apply Nat.mul_le_mul_left
        simp only [Char.reduceToNat]
        omega
      omega

/-
  Of two numerals of one length the one of the smaller
  number comes first.
-/
theorem lt_of_ofDigitChars_lt
    (hFirst : ∀ c ∈ a, c.isDigit)
    (hSecond : ∀ c ∈ b, c.isDigit)
    (hLength : a.length = b.length)
    (hLess :
      Nat.ofDigitChars 10 a 0 < Nat.ofDigitChars 10 b 0) :
    a < b := by
  induction a generalizing b with
  | nil =>
      rw [List.eq_nil_of_length_eq_zero hLength.symm]
        at hLess
      exact absurd hLess (lt_irrefl _)
  | cons c a ih =>
      cases b with
      | nil => cases hLength
      | cons d b =>
          have hTails : a.length = b.length :=
            Nat.succ.inj hLength
          have hDigit :=
            toNat_of_isDigit (hFirst c List.mem_cons_self)
          have hDigit' :=
            toNat_of_isDigit (hSecond d List.mem_cons_self)
          have hRest : ∀ x ∈ a, x.isDigit := fun x hMem =>
            hFirst x (List.mem_cons_of_mem c hMem)
          have hRest' : ∀ x ∈ b, x.isDigit := fun x hMem =>
            hSecond x (List.mem_cons_of_mem d hMem)
          have hBound := ofDigitChars_lt hRest'
          rw [Nat.ofDigitChars_cons, Nat.ofDigitChars_cons,
            Nat.ofDigitChars_eq_ofDigitChars_zero,
            Nat.ofDigitChars_eq_ofDigitChars_zero (l := b),
            hTails] at hLess
          simp only [Nat.mul_zero, Nat.zero_add,
            Char.reduceToNat] at hLess
          rcases Nat.lt_trichotomy c.toNat d.toNat with
            hHead | hHead | hHead
          · exact List.Lex.rel hHead
          · have hSame : c = d :=
              Char.ext (UInt32.toNat_inj.mp hHead)
            subst hSame
            apply List.Lex.cons
            exact ih hRest hRest' hTails (by omega)
          · -- A greater first digit makes a greater number.
            have hMore :
                10 ^ b.length * (d.toNat - 48 + 1) ≤
                  10 ^ b.length * (c.toNat - 48) := by
              apply Nat.mul_le_mul_left
              omega
            rw [Nat.mul_add, Nat.mul_one] at hMore
            omega

/- Numerals that fit are ordered as their numbers are. -/
theorem padded_lt
    (hWidth : 0 < w)
    (hLess : m < n)
    (hFits : n < 10 ^ w) :
    padded w m < padded w n := by
  have hFits' := Nat.lt_trans hLess hFits
  apply lt_of_ofDigitChars_lt
  · intro c hMem
    exact isDigit_of_mem_padded hMem
  · intro c hMem
    exact isDigit_of_mem_padded hMem
  · rw [length_padded hWidth hFits',
      length_padded hWidth hFits]
  · rw [ofDigitChars_padded, ofDigitChars_padded]
    exact hLess

------------------------------------------------------------
-- Delimited Numerals
------------------------------------------------------------

/- What follows does not matter, unless one text goes on. -/
theorem append_lt_append
    (hStart : ¬ a <+: b)
    (hLess : a < b)
    (x y : List Char) :
    a ++ x < b ++ y := by
  induction a generalizing b with
  | nil => exact absurd List.nil_prefix hStart
  | cons c a ih =>
      cases hLess with
      | rel hHead => exact List.Lex.rel hHead
      | cons hTail =>
          apply List.Lex.cons
          refine ih ?_ hTail
          intro hPrefix
          exact hStart
            ((List.prefix_cons_inj c).mpr hPrefix)

/- A numeral and the character that follows it. -/
def delimited (w : Nat) (sep : Char) (n : Nat) :
    List Char :=
  padded w n ++ [sep]

variable {sep : Char}

/- No delimited numeral goes on as another one. -/
theorem delimited_not_prefix
    (hSep : sep.isDigit = false)
    (hNe : m ≠ n) :
    ¬ delimited w sep m <+: delimited w sep n := by
  intro hPrefix
  have hNotMem (k : Nat) : sep ∉ padded w k := by
    intro hMem
    rw [isDigit_of_mem_padded hMem] at hSep
    cases hSep
  rcases List.prefix_concat_iff.mp hPrefix with
    hEq | hInside
  · apply hNe
    apply padded_injective w
    exact List.append_left_injective [sep] hEq
  · apply hNotMem n
    apply hInside.subset
    unfold delimited
    simp

/- Delimited numerals of different numbers are ordered. -/
theorem delimited_lt_or
    (hNe : m ≠ n) :
    delimited w sep m < delimited w sep n ∨
      delimited w sep n < delimited w sep m := by
  apply lt_or_gt_of_ne
  intro hEq
  apply hNe
  apply padded_injective w
  exact List.append_left_injective [sep] hEq

/- The text order of delimited numerals, on the numbers. -/
def delimitedLe (w : Nat) (sep : Char) (m n : Nat) : Bool :=
  delimited w sep m ≤ delimited w sep n

theorem delimitedLe_trans
    (w : Nat)
    (sep : Char)
    (k m n : Nat)
    (hFirst : delimitedLe w sep k m)
    (hSecond : delimitedLe w sep m n) :
    delimitedLe w sep k n := by
  unfold delimitedLe at *
  simp only [decide_eq_true_eq] at *
  exact le_trans hFirst hSecond

theorem delimitedLe_total
    (w : Nat)
    (sep : Char)
    (m n : Nat) :
    (delimitedLe w sep m n || delimitedLe w sep n m) =
      true := by
  unfold delimitedLe
  simp only [Bool.or_eq_true, decide_eq_true_eq]
  exact le_total _ _

/- Numbers that fit are in their order. -/
theorem delimitedLe_of_lt
    (hWidth : 0 < w)
    (hLess : m < n)
    (hFits : n < 10 ^ w) :
    delimitedLe w sep m n := by
  have hLength :
      (padded w m).length = (padded w n).length := by
    rw [length_padded hWidth (Nat.lt_trans hLess hFits),
      length_padded hWidth hFits]
  have hNumerals := padded_lt hWidth hLess hFits
  unfold delimitedLe
  rw [decide_eq_true_iff]
  apply le_of_lt
  apply append_lt_append _ hNumerals
  intro hPrefix
  rw [hPrefix.eq_of_length hLength] at hNumerals
  exact lt_irrefl _ hNumerals

------------------------------------------------------------
-- The First Numeral That Does Not Fit
------------------------------------------------------------

theorem toDigits_pow (w : Nat) :
    Nat.toDigits 10 (10 ^ w) =
      '1' :: List.replicate w '0' := by
  induction w with
  | zero => rfl
  | succ w ih =>
      have hPos : 0 < 10 ^ w := Nat.pow_pos (by decide)
      have hSplit :=
        Nat.toDigits_append_toDigits (b := 10) (d := 0)
          (by decide) hPos (by decide)
      rw [Nat.pow_succ', ← Nat.add_zero (10 * 10 ^ w),
        ← hSplit, ih, List.replicate_succ']
      rfl

/- It comes before the power of the base that just fits. -/
theorem delimited_pow_lt
    (hWidth : 0 < w)
    (hSep : '0' < sep) :
    delimited w sep (10 ^ w) <
      delimited w sep (10 ^ (w - 1)) := by
  have hWide :
      padded w (10 ^ w) = '1' :: List.replicate w '0' := by
    unfold padded List.leftpad
    rw [toDigits_pow]
    simp
  have hFits :
      padded w (10 ^ (w - 1)) =
        '1' :: List.replicate (w - 1) '0' := by
    unfold padded List.leftpad
    rw [toDigits_pow]
    simp [Nat.sub_add_cancel hWidth]
  unfold delimited
  rw [hWide, hFits, ← Nat.sub_add_cancel hWidth,
    List.replicate_succ', Nat.add_sub_cancel,
    List.cons_append, List.cons_append, List.append_assoc]
  apply List.Lex.cons
  apply List.append_left_lt
  exact List.Lex.rel hSep

theorem not_delimitedLe_pow
    (hWidth : 0 < w)
    (hSep : '0' < sep) :
    delimitedLe w sep (10 ^ (w - 1)) (10 ^ w) = false := by
  unfold delimitedLe
  rw [decide_eq_false_iff_not, not_le]
  exact delimited_pow_lt hWidth hSep

end Decimal

end Library
