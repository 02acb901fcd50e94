import SeestarProxy.Library.Slice

/-
  One's-complement sums of 16-bit words.

  Bytes are read as big-endian words, an odd last one as the
  high half of a word, and a sum is folded by adding its
  carries back until it fits a word. A sum to which its own
  complement was added folds to all ones, which is how a
  receiver checks it.

  Main declarations:
    * `fold` and `fold_add_complement`
    * `wordSum` and `Verifies`
    * `wordSum_append` and `wordSum_overwrite`
-/

------------------------------------------------------------
-- Folding
------------------------------------------------------------

namespace Library

namespace OnesComplement

/- Add the carries back until none are left. -/
def fold (sum : Nat) : Nat :=
  if sum < 65536 then
    sum
  else
    fold (sum % 65536 + sum / 65536)
decreasing_by omega

theorem fold_of_lt
    {sum : Nat}
    (hSmall : sum < 65536) :
    fold sum = sum := by
  rw [fold, if_pos hSmall]

theorem fold_lt (sum : Nat) : fold sum < 65536 := by
  fun_induction fold sum with
  | case1 sum hSmall => exact hSmall
  | case2 sum _ ih => exact ih

/- Carries count once each in the modulus 65535. -/
theorem fold_mod (sum : Nat) :
    fold sum % 65535 = sum % 65535 := by
  fun_induction fold sum with
  | case1 sum hSmall => rfl
  | case2 sum _ ih => omega

theorem fold_pos
    {sum : Nat}
    (hPos : 0 < sum) :
    0 < fold sum := by
  fun_induction fold sum with
  | case1 sum hSmall => exact hPos
  | case2 sum _ ih => exact ih (by omega)

/- A sum and the complement of its fold are all ones. -/
theorem fold_add_complement (sum : Nat) :
    fold (sum + (65535 - fold sum)) = 65535 := by
  have hLt := fold_lt sum
  have hMod := fold_mod sum
  have hAll := fold_mod (sum + (65535 - fold sum))
  have hBound := fold_lt (sum + (65535 - fold sum))
  have hPos : 0 < fold (sum + (65535 - fold sum)) := by
    apply fold_pos
    by_cases hZero : sum = 0
    · rw [hZero, fold_of_lt (by decide)]
      decide
    · omega
  omega

------------------------------------------------------------
-- Sums of Bytes
------------------------------------------------------------

/- The sum of the big-endian words of some bytes. -/
def wordSum : List UInt8 → Nat
| [] => 0
| [b] => b.toNat * 256
| b :: b' :: bytes =>
    b.toNat * 256 + b'.toNat + wordSum bytes

/- The one's-complement sum of the bytes is all ones. -/
def Verifies (bytes : List UInt8) : Prop :=
  fold (wordSum bytes) = 65535

instance (bytes : List UInt8) : Decidable (Verifies bytes) :=
  inferInstanceAs (Decidable (_ = _))

variable {front bytes : List UInt8}

/- Bytes that make up whole words are summed on their own. -/
theorem wordSum_append
    (hEven : front.length % 2 = 0) :
    wordSum (front ++ bytes) =
      wordSum front + wordSum bytes := by
  fun_induction wordSum front with
  | case1 => simp
  | case2 b => simp at hEven
  | case3 b b' front ih =>
      have hRest : front.length % 2 = 0 := by
        simp only [List.length_cons] at hEven
        omega
      rw [List.cons_append, List.cons_append, wordSum,
        ih hRest]
      omega

theorem wordSum_le (bytes : List UInt8) :
    wordSum bytes ≤ 65535 * ((bytes.length + 1) / 2) := by
  fun_induction wordSum bytes with
  | case1 => exact Nat.zero_le _
  | case2 b =>
      have hByte := b.toNat_lt
      simp only [List.length_singleton]
      omega
  | case3 b b' bytes ih =>
      have hByte := b.toNat_lt
      have hByte' := b'.toNat_lt
      simp only [List.length_cons]
      omega

/- A word in the place of zeros is added to the sum. -/
theorem wordSum_overwrite
    {start : Nat}
    {word : List UInt8}
    (hEven : start % 2 = 0)
    (hWord : word.length = 2)
    (hBound : start + 2 ≤ bytes.length)
    (hHigh : bytes.getD start 0 = 0)
    (hLow : bytes.getD (start + 1) 0 = 0) :
    wordSum (Slice.overwrite bytes start word) =
      wordSum bytes + wordSum word := by
  have hFront : (bytes.take start).length % 2 = 0 := by
    rw [List.length_take]
    omega
  have hSplit : bytes.drop start =
      0 :: 0 :: bytes.drop (start + 2) := by
    rw [Slice.drop_eq_cons 0 (by omega),
      Slice.drop_eq_cons 0 (by omega), hHigh, hLow]
  have hBytes :
      wordSum bytes = wordSum (bytes.take start) +
        wordSum (bytes.drop (start + 2)) := by
    calc wordSum bytes
        = wordSum (bytes.take start ++ bytes.drop start) := by
          rw [List.take_append_drop]
      _ = wordSum (bytes.take start) +
          wordSum (bytes.drop (start + 2)) := by
          rw [wordSum_append hFront, hSplit, wordSum]
          simp
  unfold Slice.overwrite
  rw [List.append_assoc, wordSum_append hFront,
    wordSum_append (by omega), hWord, hBytes]
  omega

/- A sum that holds its own complement verifies. -/
theorem verifies_overwrite
    {start : Nat}
    {word : List UInt8}
    (hEven : start % 2 = 0)
    (hWord : word.length = 2)
    (hBound : start + 2 ≤ bytes.length)
    (hHigh : bytes.getD start 0 = 0)
    (hLow : bytes.getD (start + 1) 0 = 0)
    (hSum : wordSum word = 65535 - fold (wordSum bytes)) :
    Verifies (Slice.overwrite bytes start word) := by
  unfold Verifies
  rw [wordSum_overwrite hEven hWord hBound hHigh hLow, hSum]
  exact fold_add_complement _

end OnesComplement

end Library
