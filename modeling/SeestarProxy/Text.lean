import Mathlib.Data.List.Basic

/-
  The operations on Rust strings that the proxy relies on.

  Text is read as its characters; lengths and positions are
  counted in UTF-8 bytes, as Rust counts them. A slice whose
  end falls inside a character panics, which is `none` here.

  Main declarations:
    * `trim` and `trimChars_append`
    * `byteLen`, `sliceTo` and `preview`
    * `findFrom`
-/

------------------------------------------------------------
-- Trimming
------------------------------------------------------------

namespace SeestarProxy

namespace Text

/- `char::is_whitespace`: the Unicode White_Space property. -/
def isWhitespace (c : Char) : Bool :=
  (9 ≤ c.toNat && c.toNat ≤ 13) || c.toNat == 32 ||
    c.toNat == 0x85 || c.toNat == 0xA0 ||
    c.toNat == 0x1680 ||
    (0x2000 ≤ c.toNat && c.toNat ≤ 0x200A) ||
    c.toNat == 0x2028 || c.toNat == 0x2029 ||
    c.toNat == 0x202F || c.toNat == 0x205F ||
    c.toNat == 0x3000

/- Drop white space at both ends of the characters. -/
def trimChars (chars : List Char) : List Char :=
  ((chars.dropWhile isWhitespace).reverse.dropWhile
    isWhitespace).reverse

/- `str::trim`. -/
def trim (s : String) : String :=
  String.ofList (trimChars s.toList)

/- White space behind a text without any is dropped. -/
theorem trimChars_append
    {chars white : List Char}
    (hPlain : ∀ c ∈ chars, isWhitespace c = false)
    (hWhite : ∀ c ∈ white, isWhitespace c = true) :
    trimChars (chars ++ white) = chars := by
  have hKeeps {cs : List Char} (more : List Char)
      (hAll : ∀ c ∈ cs, isWhitespace c = false)
      (hMore : cs = [] → more = []) :
      (cs ++ more).dropWhile isWhitespace = cs ++ more := by
    cases cs with
    | nil => rw [hMore rfl]; rfl
    | cons c cs =>
        have hFirst := hAll c List.mem_cons_self
        rw [List.cons_append, List.dropWhile_cons_of_neg]
        rw [hFirst]
        exact Bool.false_ne_true
  have hDrops (cs : List Char) :
      (white.reverse ++ cs).dropWhile isWhitespace =
        cs.dropWhile isWhitespace :=
    List.dropWhile_append_of_pos fun x hMem =>
      hWhite x (List.mem_reverse.mp hMem)
  have hBack :
      chars.reverse.dropWhile isWhitespace =
        chars.reverse := by
    simpa using hKeeps [] (fun x hMem =>
      hPlain x (List.mem_reverse.mp hMem)) (fun _ => rfl)
  unfold trimChars
  by_cases hNil : chars = []
  · subst hNil
    have hWhole : (white ++ []).dropWhile isWhitespace = [] :=
      List.dropWhile_append_of_pos hWhite
    rw [List.append_nil] at hWhole
    rw [List.nil_append, hWhole]
    rfl
  · rw [hKeeps white hPlain (fun h => absurd h hNil),
      List.reverse_append, hDrops, hBack,
      List.reverse_reverse]

------------------------------------------------------------
-- Slices
------------------------------------------------------------

/- `str::len`: the number of UTF-8 bytes. -/
def byteLen : List Char → Nat
| [] => 0
| c :: chars => c.utf8Size + byteLen chars

/-
  The slice `&s[..n]`: `none` when `n` is past the end or
  inside a character, where Rust panics.
-/
def sliceTo : List Char → Nat → Option (List Char)
| _, 0 => some []
| [], _ + 1 => none
| c :: chars, n + 1 =>
    if c.utf8Size ≤ n + 1 then
      (sliceTo chars (n + 1 - c.utf8Size)).map (c :: ·)
    else
      none

/- The preview slice `&s[..s.len().min(n)]`. -/
def preview (chars : List Char) (n : Nat) :
    Option (List Char) :=
  sliceTo chars (min (byteLen chars) n)

/- `str::find`: the text from the first occurrence on. -/
def findFrom (pattern : List Char) :
    List Char → Option (List Char)
| [] => if pattern = [] then some [] else none
| c :: chars =>
    if pattern.isPrefixOf (c :: chars) then
      some (c :: chars)
    else
      findFrom pattern chars

end Text

end SeestarProxy
