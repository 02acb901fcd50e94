import Mathlib.Data.List.Basic
import Mathlib.Data.Nat.Notation

/-
  Base64 with the standard alphabet.

  Three bytes are written as four digits; a group of one or
  two bytes at the end is filled up with padding. Reading
  wants whole groups, padding at the end only, and no bits
  that the bytes do not need.

  Main declarations:
    * `digit`, `value` and `value_digit`
    * `encode` and `decode`
    * `decode_encode`
    * `length_of_decode`
-/

------------------------------------------------------------
-- Digits
------------------------------------------------------------

namespace Library

namespace Base64

/- The digits in the order of their values. -/
def alphabet : List Char :=
  ("ABCDEFGHIJKLMNOPQRSTUVWXYZ" ++
    "abcdefghijklmnopqrstuvwxyz0123456789+/").toList

/- The digit of a value below 64. -/
def digit (n : Nat) : Char :=
  alphabet.getD n 'A'

/- The value of a digit. -/
def value (c : Char) : Option Nat :=
  alphabet.idxOf? c

/- What fills up the last group. -/
def pad : Char := '='

theorem value_digit
    {n : Nat}
    (hSmall : n < 64) :
    value (digit n) = some n := by
  have hAll : ∀ n : Fin 64, value (digit n) = some n.val := by
    decide +kernel
  exact hAll ⟨n, hSmall⟩

/- No digit is the padding. -/
theorem digit_ne_pad
    {n : Nat}
    (hSmall : n < 64) :
    digit n ≠ pad := by
  intro hPad
  have hNone : value pad = none := by decide +kernel
  rw [← hPad, value_digit hSmall] at hNone
  cases hNone

------------------------------------------------------------
-- Groups
------------------------------------------------------------

/- The four values of three bytes. -/
def firstOf (a : UInt8) : Nat := a.toNat / 4

def secondOf (a b : UInt8) : Nat :=
  a.toNat % 4 * 16 + b.toNat / 16

def thirdOf (b c : UInt8) : Nat :=
  b.toNat % 16 * 4 + c.toNat / 64

def fourthOf (c : UInt8) : Nat := c.toNat % 64

/- The bytes of some values. -/
def byteOne (w x : Nat) : UInt8 := UInt8.ofNat (w * 4 + x / 16)

def byteTwo (x y : Nat) : UInt8 :=
  UInt8.ofNat (x % 16 * 16 + y / 4)

def byteThree (y z : Nat) : UInt8 :=
  UInt8.ofNat (y % 4 * 64 + z)

theorem firstOf_lt (a : UInt8) : firstOf a < 64 := by
  have hByte := a.toNat_lt
  unfold firstOf
  omega

theorem secondOf_lt (a b : UInt8) : secondOf a b < 64 := by
  have hByte := b.toNat_lt
  unfold secondOf
  omega

theorem thirdOf_lt (b c : UInt8) : thirdOf b c < 64 := by
  have hByte := c.toNat_lt
  unfold thirdOf
  omega

theorem fourthOf_lt (c : UInt8) : fourthOf c < 64 :=
  Nat.mod_lt _ (by decide)

theorem byteOne_of (a b : UInt8) :
    byteOne (firstOf a) (secondOf a b) = a := by
  have hByte := b.toNat_lt
  have hSum :
      firstOf a * 4 + secondOf a b / 16 = a.toNat := by
    unfold firstOf secondOf
    omega
  unfold byteOne
  rw [hSum, UInt8.ofNat_toNat]

theorem byteTwo_of (a b c : UInt8) :
    byteTwo (secondOf a b) (thirdOf b c) = b := by
  have hByte := b.toNat_lt
  have hNext := c.toNat_lt
  have hSum :
      secondOf a b % 16 * 16 + thirdOf b c / 4 =
        b.toNat := by
    unfold secondOf thirdOf
    omega
  unfold byteTwo
  rw [hSum, UInt8.ofNat_toNat]

theorem byteThree_of (b c : UInt8) :
    byteThree (thirdOf b c) (fourthOf c) = c := by
  have hByte := c.toNat_lt
  have hSum :
      thirdOf b c % 4 * 64 + fourthOf c = c.toNat := by
    unfold thirdOf fourthOf
    omega
  unfold byteThree
  rw [hSum, UInt8.ofNat_toNat]

------------------------------------------------------------
-- Texts
------------------------------------------------------------

/- The digits of some bytes. -/
def encode : List UInt8 → List Char
| [] => []
| [a] => [digit (firstOf a), digit (secondOf a 0), pad, pad]
| [a, b] =>
    [digit (firstOf a), digit (secondOf a b),
      digit (thirdOf b 0), pad]
| a :: b :: c :: rest =>
    digit (firstOf a) :: digit (secondOf a b) ::
      digit (thirdOf b c) :: digit (fourthOf c) ::
        encode rest

/- The bytes of a group without padding. -/
def decodeGroup (a b c d : Char) : Option (List UInt8) := do
  let w ← value a
  let x ← value b
  let y ← value c
  let z ← value d
  return [byteOne w x, byteTwo x y, byteThree y z]

/- The bytes of the last group. -/
def decodeLast (a b c d : Char) : Option (List UInt8) := do
  if d ≠ pad then
    decodeGroup a b c d
  else if c ≠ pad then
    let w ← value a
    let x ← value b
    let y ← value c
    if y % 4 = 0 then
      return [byteOne w x, byteTwo x y]
    else
      none
  else
    let w ← value a
    let x ← value b
    if x % 16 = 0 then
      return [byteOne w x]
    else
      none

/- The bytes that a text stands for, if it is canonical. -/
def decode : List Char → Option (List UInt8)
| [] => some []
| [a, b, c, d] => decodeLast a b c d
| a :: b :: c :: d :: rest => do
    let bytes ← decodeGroup a b c d
    let more ← decode rest
    return bytes ++ more
| _ => none

theorem decodeGroup_of (a b c : UInt8) :
    decodeGroup (digit (firstOf a)) (digit (secondOf a b))
        (digit (thirdOf b c)) (digit (fourthOf c)) =
      some [a, b, c] := by
  unfold decodeGroup
  rw [value_digit (firstOf_lt a),
    value_digit (secondOf_lt a b),
    value_digit (thirdOf_lt b c),
    value_digit (fourthOf_lt c)]
  simp only [Option.bind_eq_bind, Option.bind_some,
    Option.pure_def, byteOne_of, byteTwo_of, byteThree_of]

/- A group that is not the last one. -/
theorem decode_cons
    {a b c d : Char}
    {rest : List Char}
    (hRest : rest ≠ []) :
    decode (a :: b :: c :: d :: rest) =
      (decodeGroup a b c d).bind fun bytes =>
        (decode rest).map fun more => bytes ++ more := by
  cases rest with
  | nil => exact absurd rfl hRest
  | cons x rest =>
      rw [decode]
      · cases decodeGroup a b c d with
        | none => rfl
        | some bytes => cases decode (x :: rest) <;> rfl
      · exact hRest

/- A last group whose last digit is not padding. -/
theorem decodeLast_of_ne
    {a b c d : Char}
    (hDigit : d ≠ pad) :
    decodeLast a b c d = decodeGroup a b c d :=
  if_pos hDigit

theorem encode_eq_nil_iff
    {bytes : List UInt8} :
    encode bytes = [] ↔ bytes = [] := by
  rcases bytes with - | ⟨a, - | ⟨b, - | ⟨c, rest⟩⟩⟩
  · exact iff_of_true rfl rfl
  · simp [encode]
  · simp [encode]
  · simp [encode]

/- What was written is read back. -/
theorem decode_encode (bytes : List UInt8) :
    decode (encode bytes) = some bytes := by
  induction bytes using encode.induct with
  | case1 => rfl
  | case2 a =>
      have hZero : secondOf a 0 % 16 = 0 := by
        unfold secondOf
        rw [UInt8.toNat_zero]
        omega
      unfold encode decode decodeLast
      simp only [ne_eq, not_true_eq_false, if_false,
        value_digit (firstOf_lt a),
        value_digit (secondOf_lt a 0), Option.bind_eq_bind,
        Option.bind_some, hZero, if_true, Option.pure_def,
        byteOne_of]
  | case3 a b =>
      have hZero : thirdOf b 0 % 4 = 0 := by
        unfold thirdOf
        rw [UInt8.toNat_zero]
        omega
      unfold encode decode decodeLast
      simp only [ne_eq, not_true_eq_false, if_false,
        digit_ne_pad (thirdOf_lt b 0), not_false_eq_true,
        value_digit (firstOf_lt a),
        value_digit (secondOf_lt a b),
        value_digit (thirdOf_lt b 0), Option.bind_eq_bind,
        Option.bind_some, hZero, if_true, Option.pure_def,
        byteOne_of, byteTwo_of]
  | case4 a b c rest ih =>
      rw [encode]
      by_cases hRest : rest = []
      · subst hRest
        have hLast := digit_ne_pad (fourthOf_lt c)
        rw [encode, decode, decodeLast_of_ne hLast,
          decodeGroup_of]
      · have hMore : encode rest ≠ [] :=
          fun hNil => hRest (encode_eq_nil_iff.mp hNil)
        rw [decode_cons hMore, decodeGroup_of, ih]
        rfl

/- A full group stands for three bytes. -/
theorem length_of_decodeGroup
    {a b c d : Char}
    {bytes : List UInt8}
    (hGroup : decodeGroup a b c d = some bytes) :
    bytes.length = 3 := by
  unfold decodeGroup at hGroup
  simp only [Option.bind_eq_bind, Option.bind_eq_some_iff,
    Option.pure_def, Option.some.injEq] at hGroup
  rcases hGroup with ⟨w, -, x, -, y, -, z, -, rfl⟩
  rfl

/- The last group stands for one to three bytes. -/
theorem length_of_decodeLast
    {a b c d : Char}
    {bytes : List UInt8}
    (hLast : decodeLast a b c d = some bytes) :
    1 ≤ bytes.length ∧ bytes.length ≤ 3 := by
  unfold decodeLast at hLast
  split at hLast
  · rw [length_of_decodeGroup hLast]
    decide
  · split at hLast
    · simp only [Option.bind_eq_bind,
        Option.bind_eq_some_iff] at hLast
      rcases hLast with ⟨w, -, x, -, y, -, hBytes⟩
      split at hBytes
      · cases hBytes
        simp
      · cases hBytes
    · simp only [Option.bind_eq_bind,
        Option.bind_eq_some_iff] at hLast
      rcases hLast with ⟨w, -, x, -, hBytes⟩
      split at hBytes
      · cases hBytes
        simp
      · cases hBytes

/- A text that is read has one group for three bytes. -/
theorem length_of_decode
    {text : List Char}
    {bytes : List UInt8}
    (hDecode : decode text = some bytes) :
    text.length = 4 * ((bytes.length + 2) / 3) := by
  induction text using decode.induct generalizing bytes with
  | case1 =>
      cases hDecode
      rfl
  | case2 a b c d =>
      have hLength := length_of_decodeLast hDecode
      simp only [List.length_cons, List.length_nil]
      omega
  | case3 a b c d rest hRest ih =>
      have hMore : rest ≠ [] := fun hNil => hRest hNil
      rw [decode_cons hMore, Option.bind_eq_some_iff] at hDecode
      rcases hDecode with ⟨first, hGroup, hMap⟩
      rcases Option.map_eq_some_iff.mp hMap with
        ⟨more, hDecode, rfl⟩
      have hLength := ih hDecode
      rw [List.length_append, length_of_decodeGroup hGroup]
      simp only [List.length_cons]
      omega
  | case4 text hNil hLast hGroups =>
      rw [decode.eq_4 text hNil hLast hGroups] at hDecode
      cases hDecode

/- Nothing but digits and padding is written. -/
theorem mem_encode
    {bytes : List UInt8}
    {x : Char}
    (hMem : x ∈ encode bytes) :
    x ∈ pad :: alphabet := by
  have hDigit {n : Nat}
      (hSmall : n < 64) : digit n ∈ pad :: alphabet := by
    have hAll : ∀ n : Fin 64,
        digit n ∈ pad :: alphabet := by
      decide +kernel
    exact hAll ⟨n, hSmall⟩
  have hPad : pad ∈ pad :: alphabet := List.mem_cons_self
  induction bytes using encode.induct with
  | case1 => cases hMem
  | case2 a =>
      simp only [encode, List.mem_cons, List.not_mem_nil,
        or_false] at hMem
      rcases hMem with rfl | rfl | rfl | rfl
      · exact hDigit (firstOf_lt a)
      · exact hDigit (secondOf_lt a 0)
      · exact hPad
      · exact hPad
  | case3 a b =>
      simp only [encode, List.mem_cons, List.not_mem_nil,
        or_false] at hMem
      rcases hMem with rfl | rfl | rfl | rfl
      · exact hDigit (firstOf_lt a)
      · exact hDigit (secondOf_lt a b)
      · exact hDigit (thirdOf_lt b 0)
      · exact hPad
  | case4 a b c rest ih =>
      simp only [encode, List.mem_cons] at hMem
      rcases hMem with rfl | rfl | rfl | rfl | hRest
      · exact hDigit (firstOf_lt a)
      · exact hDigit (secondOf_lt a b)
      · exact hDigit (thirdOf_lt b c)
      · exact hDigit (fourthOf_lt c)
      · exact ih hRest

end Base64

end Library
