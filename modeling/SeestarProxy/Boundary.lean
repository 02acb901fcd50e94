import SeestarProxy.Control.Tasks

/-
  Where a text can be cut.

  A slice ends at a character boundary exactly when some
  characters at the front of the text take up its bytes. A
  preview also stands for the whole of a short text.

  Main declarations:
    * `IsBoundary` and `sliceTo_isSome_iff`
    * `Fits` and `preview_isSome_iff`
    * `fits_of_ascii`
    * `previewPanics_iff`
-/

------------------------------------------------------------
-- Boundaries
------------------------------------------------------------

namespace SeestarProxy

namespace Text

variable {chars : List Char} {n : Nat}

/- The first `n` bytes of a text are whole characters. -/
def IsBoundary (chars : List Char) (n : Nat) : Prop :=
  ∃ front, front <+: chars ∧ byteLen front = n

theorem sliceTo_isSome_iff :
    (sliceTo chars n).isSome = true ↔
      IsBoundary chars n := by
  induction chars generalizing n with
  | nil =>
      cases n with
      | zero =>
          constructor
          · intro _
            exact ⟨[], List.nil_prefix, rfl⟩
          · intro _
            rfl
      | succ n =>
          constructor
          · intro hSome
            cases hSome
          · rintro ⟨front, hFront, hLen⟩
            rw [List.prefix_nil] at hFront
            rw [hFront] at hLen
            cases hLen
  | cons c chars ih =>
      cases n with
      | zero =>
          constructor
          · intro _
            exact ⟨[], List.nil_prefix, rfl⟩
          · intro _
            rfl
      | succ n =>
          rw [sliceTo]
          constructor
          · intro hSome
            split at hSome
            · rename_i hRoom
              rw [Option.isSome_map, ih] at hSome
              rcases hSome with ⟨front, hFront, hLen⟩
              refine ⟨c :: front,
                (List.prefix_cons_inj c).mpr hFront, ?_⟩
              rw [byteLen, hLen]
              omega
            · cases hSome
          · rintro ⟨front, hFront, hLen⟩
            cases front with
            | nil => cases hLen
            | cons d front =>
                rcases List.cons_prefix_cons.mp hFront with
                  ⟨rfl, hRest⟩
                rw [byteLen] at hLen
                rw [if_pos (by omega), Option.isSome_map, ih]
                exact ⟨front, hRest, by omega⟩

/- A text has its end as a boundary. -/
theorem isBoundary_byteLen (chars : List Char) :
    IsBoundary chars (byteLen chars) :=
  ⟨chars, List.prefix_rfl, rfl⟩

------------------------------------------------------------
-- Previews
------------------------------------------------------------

/-
  A text is at most `n` bytes long, or no character of it
  stretches across its first `n` bytes.
-/
def Fits (chars : List Char) (n : Nat) : Prop :=
  byteLen chars ≤ n ∨ IsBoundary chars n

/- A preview panics exactly when the text does not fit. -/
theorem preview_isSome_iff :
    (preview chars n).isSome = true ↔ Fits chars n := by
  unfold preview
  rw [sliceTo_isSome_iff]
  unfold Fits
  rcases Nat.le_total (byteLen chars) n with hShort | hLong
  · rw [Nat.min_eq_left hShort]
    exact iff_of_true (isBoundary_byteLen chars)
      (Or.inl hShort)
  · rw [Nat.min_eq_right hLong]
    constructor
    · exact Or.inr
    · rintro (hShort | hBoundary)
      · rw [Nat.le_antisymm hLong hShort]
        exact isBoundary_byteLen chars
      · exact hBoundary

instance (chars : List Char) (n : Nat) :
    Decidable (Fits chars n) :=
  decidable_of_iff _ preview_isSome_iff

theorem preview_isNone_iff :
    (preview chars n).isNone = true ↔ ¬ Fits chars n := by
  rw [← preview_isSome_iff]
  cases preview chars n with
  | none => simp
  | some slice => simp

/- A text that starts with ASCII characters fits. -/
theorem fits_of_ascii
    (hAscii : ∀ c ∈ chars.take n, c.utf8Size = 1) :
    Fits chars n := by
  have hLength : ∀ {front : List Char},
      (∀ c ∈ front, c.utf8Size = 1) →
        byteLen front = front.length := by
    intro front hFront
    induction front with
    | nil => rfl
    | cons c front ih =>
        rw [byteLen, hFront c List.mem_cons_self,
          ih fun d hMem =>
            hFront d (List.mem_cons_of_mem c hMem),
          List.length_cons, Nat.add_comm]
  rcases Nat.le_total chars.length n with hShort | hLong
  · rw [List.take_of_length_le hShort] at hAscii
    left
    rw [hLength hAscii]
    exact hShort
  · right
    refine ⟨chars.take n, List.take_prefix n chars, ?_⟩
    rw [hLength hAscii, List.length_take,
      Nat.min_eq_left hLong]

end Text

------------------------------------------------------------
-- Logged Previews
------------------------------------------------------------

/- A preview that is logged panics when it does not fit. -/
theorem Control.previewPanics_iff
    {logged : Bool}
    {text : String}
    {n : Nat} :
    Control.previewPanics logged text n = true ↔
      logged = true ∧ ¬ Text.Fits text.toList n := by
  unfold Control.previewPanics
  rw [Bool.and_eq_true, Text.preview_isNone_iff]

end SeestarProxy
