import Mathlib
import SeestarProxy.Text

/-
  Text as bytes on a connection.

  Text is written in UTF-8 and read with
  `String::from_utf8_lossy`, which puts U+FFFD in the place
  of what is no UTF-8. In UTF-8 a line feed is the byte 10,
  and no other character has that byte.

  Main declarations:
    * `encodeUtf8` and `fromUtf8Lossy`
    * `fromUtf8Lossy_ne_empty`, `fromUtf8Lossy_of_ascii`
    * `lineFeed_notMem_encodeUtf8`
-/

------------------------------------------------------------
-- Encoding
------------------------------------------------------------

namespace SeestarProxy

namespace Text

/- The byte of a line feed. -/
def lf : UInt8 := 10

/- The UTF-8 bytes of some characters. -/
def encodeUtf8 (chars : List Char) : List UInt8 :=
  chars.flatMap String.utf8EncodeChar

/- Only a line feed is encoded with the byte 10. -/
theorem lineFeed_notMem_encodeChar
    {c : Char}
    (hChar : c ≠ '\n') :
    lf ∉ String.utf8EncodeChar c := by
  have hCode : c.val.toNat ≠ 10 := by
    intro hTen
    apply hChar
    apply Char.ext
    exact UInt32.toNat_inj.mp hTen
  -- Every other byte but an ASCII one is at least 128.
  have hByte : ∀ n : Nat, n < 256 → n ≠ 10 →
      lf ≠ UInt8.ofNat n := by
    intro n hLt hNe hEq
    have hNat := congrArg UInt8.toNat hEq
    rw [UInt8.toNat_ofNat'] at hNat
    simp only [lf, UInt8.reduceToNat] at hNat
    omega
  fun_cases String.utf8EncodeChar c with
  | case1 v hOne =>
      have hVal : v ≠ 10 := hCode
      simp only [List.mem_singleton]
      exact hByte v (by omega) hVal
  | case2 v hOne hTwo =>
      simp only [List.mem_cons, List.not_mem_nil, or_false,
        not_or]
      refine ⟨hByte _ ?_ ?_, hByte _ ?_ ?_⟩ <;> omega
  | case3 v hOne hTwo hThree =>
      simp only [List.mem_cons, List.not_mem_nil, or_false,
        not_or]
      refine ⟨hByte _ ?_ ?_, hByte _ ?_ ?_,
        hByte _ ?_ ?_⟩ <;> omega
  | case4 v hOne hTwo hThree =>
      simp only [List.mem_cons, List.not_mem_nil, or_false,
        not_or]
      refine ⟨hByte _ ?_ ?_, hByte _ ?_ ?_, hByte _ ?_ ?_,
        hByte _ ?_ ?_⟩ <;> omega

theorem lineFeed_notMem_encodeUtf8
    {chars : List Char}
    (hChars : '\n' ∉ chars) :
    lf ∉ encodeUtf8 chars := by
  intro hMem
  rcases List.mem_flatMap.mp hMem with ⟨c, hChar, hByte⟩
  refine lineFeed_notMem_encodeChar ?_ hByte
  rintro rfl
  exact hChars hChar

------------------------------------------------------------
-- Lossy Decoding
------------------------------------------------------------

/-
  A character of which some bytes have been read: how many
  are still owed, the code so far, and the bounds of the
  next byte.
-/
structure Partial where
  owed : Nat
  code : Nat
  low : Nat
  high : Nat

/- What the first byte of a character stands for. -/
inductive FirstByte where
| ascii (c : Char)
| more (start : Partial)
| invalid

/- U+FFFD, which stands for invalid bytes. -/
def replacement : Char := '\uFFFD'

/- Classify the first byte of a character. -/
def firstByte (b : UInt8) : FirstByte :=
  let n := b.toNat
  if n < 0x80 then .ascii (Char.ofNat n)
  else if n < 0xC2 then .invalid
  else if n < 0xE0 then .more ⟨1, n - 0xC0, 0x80, 0xBF⟩
  else if n = 0xE0 then .more ⟨2, 0, 0xA0, 0xBF⟩
  else if n = 0xED then .more ⟨2, 0xD, 0x80, 0x9F⟩
  else if n < 0xF0 then .more ⟨2, n - 0xE0, 0x80, 0xBF⟩
  else if n = 0xF0 then .more ⟨3, 0, 0x90, 0xBF⟩
  else if n < 0xF4 then .more ⟨3, n - 0xF0, 0x80, 0xBF⟩
  else if n = 0xF4 then .more ⟨3, 4, 0x80, 0x8F⟩
  else .invalid

/- Start a character with a byte. -/
def startChar (b : UInt8) : List Char × Option Partial :=
  match firstByte b with
  | .ascii c => ([c], none)
  | .more start => ([], some start)
  | .invalid => ([replacement], none)

/-
  Take one byte. A byte that cannot go on with a character
  ends it as invalid and starts the next one.
-/
def takeByte :
    Option Partial → UInt8 → List Char × Option Partial
| none, b => startChar b
| some p, b =>
    if p.low ≤ b.toNat ∧ b.toNat ≤ p.high then
      let code := p.code * 64 + (b.toNat - 0x80)
      if p.owed ≤ 1 then
        ([Char.ofNat code], none)
      else
        ([], some ⟨p.owed - 1, code, 0x80, 0xBF⟩)
    else
      (replacement :: (startChar b).1, (startChar b).2)

/- Decode bytes that follow a partial character. -/
def decodeFrom : Option Partial → List UInt8 → List Char
| none, [] => []
| some _, [] => [replacement]
| p, b :: bytes =>
    (takeByte p b).1 ++ decodeFrom (takeByte p b).2 bytes

/- `String::from_utf8_lossy`. -/
def fromUtf8Lossy (bytes : List UInt8) : String :=
  String.ofList (decodeFrom none bytes)

/- Bytes that have started a character give some text. -/
theorem decodeFrom_partial_ne_nil
    (p : Partial)
    (bytes : List UInt8) :
    decodeFrom (some p) bytes ≠ [] := by
  induction bytes generalizing p with
  | nil => exact List.cons_ne_nil _ _
  | cons b bytes ih =>
      rw [decodeFrom]
      intro hNil
      rcases List.append_eq_nil_iff.mp hNil with
        ⟨hTaken, hRest⟩
      rw [takeByte] at hTaken hRest
      split at hTaken
      · rename_i hInside
        rw [if_pos hInside] at hRest
        dsimp only at hTaken hRest
        split at hTaken
        · cases hTaken
        · rename_i hOwed
          rw [if_neg hOwed] at hRest
          exact ih _ hRest
      · cases hTaken

/- Some bytes give some text. -/
theorem fromUtf8Lossy_ne_empty
    {bytes : List UInt8}
    (hSome : bytes ≠ []) :
    fromUtf8Lossy bytes ≠ "" := by
  intro hEmpty
  have hNil : decodeFrom none bytes = [] := by
    have hChars := congrArg String.toList hEmpty
    rw [fromUtf8Lossy, String.toList_ofList] at hChars
    exact hChars
  cases bytes with
  | nil => exact hSome rfl
  | cons b bytes =>
      rw [decodeFrom] at hNil
      rcases List.append_eq_nil_iff.mp hNil with
        ⟨hTaken, hRest⟩
      rw [takeByte, startChar] at hTaken hRest
      cases hFirst : firstByte b with
      | ascii c => simp [hFirst] at hTaken
      | more start =>
          rw [hFirst] at hRest
          exact decodeFrom_partial_ne_nil start bytes hRest
      | invalid => simp [hFirst] at hTaken

/- ASCII bytes are the codes of their characters. -/
theorem fromUtf8Lossy_of_ascii
    {bytes : List UInt8}
    (hAscii : ∀ b ∈ bytes, b.toNat < 128) :
    fromUtf8Lossy bytes =
      String.ofList
        (bytes.map fun b => Char.ofNat b.toNat) := by
  rw [fromUtf8Lossy]
  congr 1
  induction bytes with
  | nil => rfl
  | cons b bytes ih =>
      have hFirst : firstByte b =
          .ascii (Char.ofNat b.toNat) :=
        if_pos (hAscii b List.mem_cons_self)
      rw [decodeFrom, takeByte, startChar, hFirst,
        List.map_cons, ← ih fun c hMem =>
          hAscii c (List.mem_cons_of_mem b hMem)]
      rfl

/- Trimming adds no line feed. -/
theorem lineFeed_notMem_trim
    {s : String}
    (hText : '\n' ∉ s.toList) :
    '\n' ∉ (trim s).toList := by
  intro hMem
  apply hText
  rw [trim, String.toList_ofList, trimChars,
    List.mem_reverse] at hMem
  have hBack := (List.dropWhile_sublist _).subset hMem
  rw [List.mem_reverse] at hBack
  exact (List.dropWhile_sublist _).subset hBack

end Text

end SeestarProxy
