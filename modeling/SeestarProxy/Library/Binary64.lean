import Mathlib.Data.Int.Basic
import Mathlib.Algebra.Order.Ring.Nat
import Mathlib.Tactic.Ring

/-
  Double-precision numbers and integers, in exact integer
  arithmetic.

  A double is given by its bits. Integers become the nearest
  double, ties to the even significand; a double becomes the
  nearest integer, ties away from zero, and saturates at the
  ends of the 64-bit integers.

  Main declarations:
    * `shiftRound`, `nearest` and `ofInt`
    * `rounded` and `toInt64`
    * `toInt64_ofInt`
    * `saturate_nearestInt_iff` and `saturate_eq_iff`
-/

------------------------------------------------------------
-- From Integers
------------------------------------------------------------

namespace Library

namespace Binary64

/- Divide by a power of two, to nearest, ties to even. -/
def shiftRound (n k : Nat) : Nat :=
  if 2 * (n % 2 ^ k) < 2 ^ k ∨
      2 * (n % 2 ^ k) = 2 ^ k ∧ n / 2 ^ k % 2 = 0 then
    n / 2 ^ k
  else
    n / 2 ^ k + 1

/- The bits that a number has beyond those of a double. -/
def excess (n : Nat) : Nat :=
  n.log2 - 52

/- The double nearest to a number, as a number. -/
def nearest (n : Nat) : Nat :=
  shiftRound n (excess n) * 2 ^ excess n

/- The significand of the nearest double of a number. -/
def significandOf (n : Nat) : Nat :=
  shiftRound (n * 2 ^ (52 - n.log2)) (excess n)

/-
  The bits of the double nearest to a number. A significand
  that is rounded up to the next power of two carries into
  the exponent.
-/
def ofNat (n : Nat) : Nat :=
  if n = 0 then
    0
  else
    (1022 + n.log2) * 2 ^ 52 + significandOf n

/- The bits of the double nearest to an integer. -/
def ofInt (n : Int) : Nat :=
  if n < 0 then 2 ^ 63 + ofNat n.natAbs else ofNat n.natAbs

------------------------------------------------------------
-- To Integers
------------------------------------------------------------

/- The stored exponent. -/
def exponentBits (bits : Nat) : Nat :=
  bits / 2 ^ 52 % 2 ^ 11

/- The significand, with the bit that is not stored. -/
def significand (bits : Nat) : Nat :=
  if exponentBits bits = 0 then
    bits % 2 ^ 52
  else
    2 ^ 52 + bits % 2 ^ 52

/- The magnitude is the significand times 2 ^ (this - 1075). -/
def scale (bits : Nat) : Nat :=
  max (exponentBits bits) 1

/- The magnitude as an integer, ties away from zero. -/
def rounded (bits : Nat) : Nat :=
  (2 * (significand bits * 2 ^ (scale bits - 1075)) +
      2 ^ (1075 - scale bits)) /
    (2 * 2 ^ (1075 - scale bits))

def isNegative (bits : Nat) : Bool :=
  decide (2 ^ 63 ≤ bits)

def isNaN (bits : Nat) : Bool :=
  decide (exponentBits bits = 2 ^ 11 - 1) &&
    decide (bits % 2 ^ 52 ≠ 0)

/- The integer that a 64-bit one is saturated to. -/
def saturate (n : Int) : Int :=
  max (-(2 ^ 63)) (min (2 ^ 63 - 1) n)

/- A double as a 64-bit integer. -/
def toInt64 (bits : Nat) : Int :=
  if isNaN bits = true then
    0
  else if isNegative bits = true then
    saturate (-(rounded bits : Int))
  else
    saturate (rounded bits)

------------------------------------------------------------
-- Numbers That Are Doubles
------------------------------------------------------------

theorem shiftRound_eq_or
    (n k : Nat) :
    shiftRound n k = n / 2 ^ k ∨
      shiftRound n k = n / 2 ^ k + 1 := by
  unfold shiftRound
  split
  · exact Or.inl rfl
  · exact Or.inr rfl

@[simp] theorem shiftRound_zero
    (n : Nat) :
    shiftRound n 0 = n := by
  simp [shiftRound, Nat.mod_one]

/- The integer that the double nearest to an integer is. -/
def nearestInt (n : Int) : Int :=
  if n < 0 then -(nearest n.natAbs : Int)
  else nearest n.natAbs

------------------------------------------------------------
-- There and Back
------------------------------------------------------------

/- The bits of a number, put together from its fields. -/
private theorem exponentBits_pack
    {e f : Nat}
    (hFraction : f < 2 ^ 52) :
    exponentBits (e * 2 ^ 52 + f) = e % 2 ^ 11 := by
  unfold exponentBits
  rw [Nat.mul_comm, Nat.mul_add_div (by decide),
    Nat.div_eq_of_lt hFraction, Nat.add_zero]

private theorem mod_pack
    {e f : Nat}
    (hFraction : f < 2 ^ 52) :
    (e * 2 ^ 52 + f) % 2 ^ 52 = f := by
  rw [Nat.mul_comm, Nat.mul_add_mod, Nat.mod_eq_of_lt
    hFraction]

/- A normal number and what it is as an integer. -/
private theorem rounded_pack
    {e f : Nat}
    (hNormal : e % 2 ^ 11 ≠ 0)
    (hFraction : f < 2 ^ 52) :
    rounded (e * 2 ^ 52 + f) =
      (2 * ((2 ^ 52 + f) * 2 ^ (e % 2 ^ 11 - 1075)) +
          2 ^ (1075 - e % 2 ^ 11)) /
        (2 * 2 ^ (1075 - e % 2 ^ 11)) := by
  have hScale : scale (e * 2 ^ 52 + f) = e % 2 ^ 11 := by
    unfold scale
    rw [exponentBits_pack hFraction]
    exact Nat.max_eq_left (Nat.one_le_iff_ne_zero.mpr hNormal)
  have hSignificand :
      significand (e * 2 ^ 52 + f) = 2 ^ 52 + f := by
    unfold significand
    rw [exponentBits_pack hFraction, if_neg hNormal,
      mod_pack hFraction]
  rw [rounded, hScale, hSignificand]

/- A whole number of units is rounded to itself. -/
private theorem half_div
    (m d : Nat)
    (hPos : 0 < d) :
    (2 * (m * d) + d) / (2 * d) = m := by
  have hSplit : 2 * (m * d) + d = 2 * d * m + d := by ring
  rw [hSplit, Nat.mul_add_div (by omega),
    Nat.div_eq_of_lt (by omega), Nat.add_zero]

/- The significand has 53 bits, or carries. -/
private theorem significandOf_bounds
    {n : Nat}
    (hPos : n ≠ 0) :
    2 ^ 52 ≤ significandOf n ∧ significandOf n ≤ 2 ^ 53 := by
  have hLow := Nat.log2_self_le hPos
  have hHigh := Nat.lt_log2_self (n := n)
  unfold significandOf excess
  rcases Nat.le_total n.log2 52 with hSmall | hLarge
  · obtain ⟨d, hSum⟩ := Nat.exists_eq_add_of_le hSmall
    have hShift : 52 - n.log2 = d := by omega
    have hNone : n.log2 - 52 = 0 := by omega
    rw [hNone, hShift, shiftRound_zero, hSum,
      Nat.pow_add]
    have hTop : n * 2 ^ d ≤ 2 ^ (n.log2 + 1) * 2 ^ d :=
      Nat.mul_le_mul_right _ (Nat.le_of_lt hHigh)
    have hAll : 2 ^ (n.log2 + 1) * 2 ^ d = 2 ^ 53 := by
      rw [← Nat.pow_add]
      congr 1
      omega
    exact ⟨Nat.mul_le_mul_right _ hLow, hAll ▸ hTop⟩
  · obtain ⟨d, hSum⟩ := Nat.exists_eq_add_of_le hLarge
    have hShift : n.log2 - 52 = d := by omega
    have hNone : 52 - n.log2 = 0 := by omega
    rw [hShift, hNone, Nat.pow_zero, Nat.mul_one]
    rw [hSum] at hLow hHigh
    have hFirst : 2 ^ 52 ≤ n / 2 ^ d := by
      rw [Nat.le_div_iff_mul_le (Nat.two_pow_pos d),
        ← Nat.pow_add]
      exact hLow
    have hLast : n / 2 ^ d < 2 ^ 53 := by
      rw [Nat.div_lt_iff_lt_mul (Nat.two_pow_pos d),
        ← Nat.pow_add]
      have hSame : 52 + d + 1 = 53 + d := by omega
      rw [← hSame]
      exact hHigh
    rcases shiftRound_eq_or n d with hDown | hUp
    · rw [hDown]
      exact ⟨hFirst, Nat.le_of_lt hLast⟩
    · rw [hUp]
      exact ⟨Nat.le_succ_of_le hFirst, hLast⟩

/- What the significand of a number stands for. -/
private theorem nearest_eq
    (n : Nat) :
    nearest n * 2 ^ (52 - n.log2) =
      significandOf n * 2 ^ excess n := by
  unfold nearest significandOf excess
  rcases Nat.le_total n.log2 52 with hSmall | hLarge
  · have hNone : n.log2 - 52 = 0 := by omega
    simp [hNone]
  · have hNone : 52 - n.log2 = 0 := by omega
    simp [hNone]

/- The double nearest to a number is that integer. -/
theorem rounded_ofNat
    {n sign : Nat}
    (hSign : sign % 2 ^ 11 = 0)
    (hPos : n ≠ 0)
    (hBound : n < 2 ^ 64) :
    rounded (sign * 2 ^ 52 + ofNat n) = nearest n := by
  have hLog : n.log2 < 64 := (Nat.log2_lt hPos).mpr hBound
  rcases significandOf_bounds hPos with ⟨hLow, hHigh⟩
  have hEq := nearest_eq n
  rw [ofNat, if_neg hPos]
  rcases Nat.lt_or_eq_of_le hHigh with hFits | hCarry
  · -- The exponent is that of the number.
    obtain ⟨f, hFraction⟩ := Nat.exists_eq_add_of_le hLow
    have hPack : sign * 2 ^ 52 + ((1022 + n.log2) * 2 ^ 52 +
        significandOf n) =
          (sign + (1023 + n.log2)) * 2 ^ 52 + f := by
      rw [hFraction]
      ring
    have hExponent :
        (sign + (1023 + n.log2)) % 2 ^ 11 =
          1023 + n.log2 := by
      omega
    rw [hPack, rounded_pack (by omega) (by omega),
      hExponent, ← hFraction]
    have hUp : 1023 + n.log2 - 1075 = excess n := by
      unfold excess
      omega
    have hDown : 1075 - (1023 + n.log2) = 52 - n.log2 := by
      omega
    rw [hUp, hDown, ← hEq]
    exact half_div _ _ (Nat.two_pow_pos _)
  · -- The significand carries into the exponent.
    have hLarge : 52 < n.log2 := by
      by_contra hSmall
      have hNone : n.log2 - 52 = 0 := by omega
      have hTop := Nat.lt_log2_self (n := n)
      rw [significandOf, excess, hNone, shiftRound_zero]
        at hCarry
      have hLess : n * 2 ^ (52 - n.log2) <
          2 ^ (n.log2 + 1) * 2 ^ (52 - n.log2) :=
        Nat.mul_lt_mul_of_pos_right hTop (Nat.two_pow_pos _)
      rw [← Nat.pow_add, hCarry,
        show n.log2 + 1 + (52 - n.log2) = 53 by omega]
        at hLess
      exact Nat.lt_irrefl _ hLess
    have hPack : sign * 2 ^ 52 + ((1022 + n.log2) * 2 ^ 52 +
        significandOf n) =
          (sign + (1024 + n.log2)) * 2 ^ 52 + 0 := by
      rw [hCarry]
      ring
    have hExponent :
        (sign + (1024 + n.log2)) % 2 ^ 11 =
          1024 + n.log2 := by
      omega
    rw [hPack, rounded_pack (by omega) (by decide),
      hExponent]
    have hUp : 1024 + n.log2 - 1075 = excess n + 1 := by
      unfold excess
      omega
    have hDown : 1075 - (1024 + n.log2) = 0 := by omega
    have hNone : 52 - n.log2 = 0 := by omega
    rw [hCarry, hNone, Nat.pow_zero, Nat.mul_one] at hEq
    rw [hUp, hDown, hEq]
    have hDouble : 2 * ((2 ^ 52 + 0) * 2 ^ (excess n + 1)) =
        2 * (2 ^ 53 * 2 ^ excess n * 1) := by
      ring
    rw [hDouble]
    exact half_div _ 1 (by decide)

/- The double of a number is small and no infinity. -/
theorem ofNat_lt
    {n : Nat}
    (hBound : n < 2 ^ 64) :
    ofNat n < 1088 * 2 ^ 52 := by
  unfold ofNat
  split
  · decide
  · rename_i hPos
    have hLog : n.log2 < 64 := (Nat.log2_lt hPos).mpr hBound
    have hHigh := (significandOf_bounds hPos).2
    omega

private theorem isNaN_ofNat
    {n sign : Nat}
    (hSign : sign % 2 ^ 11 = 0)
    (hBound : n < 2 ^ 64) :
    isNaN (sign * 2 ^ 52 + ofNat n) = false := by
  have hLess := ofNat_lt hBound
  have hExponent :
      exponentBits (sign * 2 ^ 52 + ofNat n) ≠
        2 ^ 11 - 1 := by
    unfold exponentBits
    rw [Nat.mul_comm, Nat.mul_add_div (by decide)]
    have hDiv : ofNat n / 2 ^ 52 < 1088 :=
      Nat.div_lt_of_lt_mul (by omega)
    omega
  rw [isNaN, decide_eq_false hExponent, Bool.false_and]

private theorem rounded_zero : rounded 0 = 0 := by
  have hPos : 0 < 2 ^ (1075 - scale 0) := Nat.two_pow_pos _
  unfold rounded
  rw [show significand 0 = 0 from rfl, Nat.zero_mul]
  generalize 2 ^ (1075 - scale 0) = d at hPos
  exact Nat.div_eq_of_lt (by omega)

theorem ofInt_lt
    {n : Int}
    (hBound : n.natAbs < 2 ^ 64) :
    ofInt n < 2 ^ 64 := by
  have hLess := ofNat_lt hBound
  unfold ofInt
  split
  · omega
  · omega

/- An integer through a double: the nearest, saturated. -/
theorem toInt64_ofInt
    {n : Int}
    (hBound : n.natAbs < 2 ^ 64) :
    toInt64 (ofInt n) = saturate (nearestInt n) := by
  have hLess := ofNat_lt hBound
  unfold ofInt nearestInt
  by_cases hNegative : n < 0
  · have hPos : n.natAbs ≠ 0 := by omega
    have hSigned : 2 ^ 63 + ofNat n.natAbs =
        2 ^ 11 * 2 ^ 52 + ofNat n.natAbs := by
      rw [← Nat.pow_add]
    have hIs : isNegative (2 ^ 63 + ofNat n.natAbs) = true :=
      decide_eq_true (Nat.le_add_right _ _)
    rw [if_pos hNegative, if_pos hNegative, toInt64, hIs,
      if_pos rfl, hSigned, isNaN_ofNat (by decide) hBound,
      rounded_ofNat (by decide) hPos hBound]
    rfl
  · rw [if_neg hNegative, if_neg hNegative, toInt64]
    have hIs : isNegative (ofNat n.natAbs) = false :=
      decide_eq_false (by omega)
    have hNaN := @isNaN_ofNat n.natAbs 0 rfl hBound
    rw [Nat.zero_mul, Nat.zero_add] at hNaN
    rw [hIs, hNaN]
    by_cases hZero : n.natAbs = 0
    · rw [hZero, show ofNat 0 = 0 from rfl, rounded_zero]
      rfl
    · have hSame :=
        @rounded_ofNat n.natAbs 0 rfl hZero hBound
      rw [Nat.zero_mul, Nat.zero_add] at hSame
      rw [hSame]
      rfl

------------------------------------------------------------
-- Integers That Survive
------------------------------------------------------------

theorem saturate_eq_self_iff
    {n : Int} :
    saturate n = n ↔ -(2 ^ 63) ≤ n ∧ n < 2 ^ 63 := by
  unfold saturate
  omega

/- Rounding does not pass the next power of two. -/
private theorem nearest_le
    {n : Nat}
    (hBound : n < 2 ^ 63) :
    nearest n ≤ 2 ^ 63 := by
  by_cases hZero : n = 0
  · subst hZero
    decide
  have hLog : n.log2 < 63 := (Nat.log2_lt hZero).mpr hBound
  have hEq := nearest_eq n
  have hHigh := (significandOf_bounds hZero).2
  have hLess : nearest n ≤
      nearest n * 2 ^ (52 - n.log2) :=
    Nat.le_mul_of_pos_right _ (Nat.two_pow_pos _)
  have hTop : significandOf n * 2 ^ excess n ≤
      2 ^ 53 * 2 ^ 10 := by
    refine Nat.mul_le_mul hHigh (Nat.pow_le_pow_right
      (by decide) ?_)
    unfold excess
    omega
  omega

/- Only the last numbers of 63 bits are rounded up to 64. -/
private theorem nearest_lt_iff
    {n : Nat}
    (hBound : n < 2 ^ 63) :
    nearest n < 2 ^ 63 ↔ n < 2 ^ 63 - 512 := by
  by_cases hZero : n = 0
  · subst hZero
    decide
  by_cases hSmall : n < 2 ^ 62
  · refine iff_of_true ?_ (by omega)
    have hLog : n.log2 < 62 :=
      (Nat.log2_lt hZero).mpr hSmall
    have hEq := nearest_eq n
    have hHigh := (significandOf_bounds hZero).2
    have hLess : nearest n ≤
        nearest n * 2 ^ (52 - n.log2) :=
      Nat.le_mul_of_pos_right _ (Nat.two_pow_pos _)
    have hTop : significandOf n * 2 ^ excess n ≤
        2 ^ 53 * 2 ^ 9 := by
      refine Nat.mul_le_mul hHigh (Nat.pow_le_pow_right
        (by decide) ?_)
      unfold excess
      omega
    omega
  · have hLog : n.log2 = 62 :=
      (Nat.log2_eq_iff hZero).mpr ⟨by omega, by omega⟩
    have hExcess : excess n = 10 := by
      unfold excess
      omega
    unfold nearest shiftRound
    rw [hExcess]
    split
    · omega
    · omega

/- The double of a 64-bit integer is one, but at the top. -/
theorem saturate_nearestInt_iff
    {n : Int}
    (hLow : -(2 ^ 63) ≤ n)
    (hHigh : n < 2 ^ 63) :
    saturate (nearestInt n) = nearestInt n ↔
      n < 2 ^ 63 - 512 := by
  rw [saturate_eq_self_iff]
  unfold nearestInt
  by_cases hNegative : n < 0
  · rw [if_pos hNegative]
    refine iff_of_true ⟨?_, by omega⟩ (by omega)
    by_cases hLast : n.natAbs = 2 ^ 63
    · rw [hLast]
      decide
    · have hLe := nearest_le (n := n.natAbs) (by omega)
      omega
  · rw [if_neg hNegative]
    have hIff := nearest_lt_iff (n := n.natAbs) (by omega)
    omega

/- A 64-bit integer through a double and back. -/
theorem saturate_eq_iff
    {n : Int}
    (hLow : -(2 ^ 63) ≤ n)
    (hHigh : n < 2 ^ 63) :
    saturate (nearestInt n) = n ↔
      nearestInt n = n ∨ n = 2 ^ 63 - 1 := by
  by_cases hTop : n < 2 ^ 63 - 512
  · rw [(saturate_nearestInt_iff hLow hHigh).mpr hTop]
    omega
  · -- The double is two to the 63, which saturates.
    have hLarge : ¬ nearest n.natAbs < 2 ^ 63 := by
      rw [nearest_lt_iff (by omega)]
      omega
    have hNearest :
        nearestInt n = (nearest n.natAbs : Int) := by
      unfold nearestInt
      rw [if_neg (by omega)]
    rw [hNearest]
    unfold saturate
    omega

end Binary64

end Library
