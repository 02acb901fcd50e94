import Mathlib

/-
  Streams of length-prefixed frames.

  A frame is a header of fixed length followed by as many
  symbols as the header declares; a header may also be
  rejected. Cutting a stream into frames from the left is
  determined by the stream: a stream that starts with some
  frames gives these frames first, whatever follows.

  Main declarations:
    * `Format`, `Format.IsFrame` and `Format.next`
    * `Format.frames` and `Format.IsRejected`
    * `Format.frames_append` and `Format.frames_flatten`
-/

------------------------------------------------------------
-- Formats
------------------------------------------------------------

namespace Library

/-
  A frame format: the length of a header, and the payload
  length that a header declares, if it is accepted.
-/
structure Format (α : Type) where
  headerSize : Nat
  declared : List α → Option Nat
  hasHeader : 0 < headerSize

namespace Format

variable {α : Type} {F : Format α}
variable {s t f rest : List α}

/- A whole frame: its length is the one it declares. -/
def IsFrame (F : Format α) (f : List α) : Prop :=
  ∃ n, F.declared (f.take F.headerSize) = some n ∧
    f.length = F.headerSize + n

/- Cut the first frame off a stream. -/
def next (F : Format α) (s : List α) :
    Option (List α × List α) :=
  if s.length < F.headerSize then
    none
  else
    match F.declared (s.take F.headerSize) with
    | none => none
    | some n =>
        if s.length < F.headerSize + n then
          none
        else
          some (s.take (F.headerSize + n),
            s.drop (F.headerSize + n))

theorem next_some_iff :
    F.next s = some (f, rest) ↔
      F.IsFrame f ∧ s = f ++ rest := by
  unfold next
  constructor
  · intro hNext
    split at hNext
    · cases hNext
    · split at hNext
      · cases hNext
      · rename_i n hDeclared
        split at hNext
        · cases hNext
        · rename_i hLong
          cases hNext
          refine ⟨⟨n, ?_, ?_⟩, ?_⟩
          · rw [List.take_take,
              Nat.min_eq_left (Nat.le_add_right _ n)]
            exact hDeclared
          · rw [List.length_take]
            omega
          · exact (List.take_append_drop _ s).symm
  · rintro ⟨⟨n, hDeclared, hLength⟩, rfl⟩
    have hTake :
        (f ++ rest).take F.headerSize =
          f.take F.headerSize := by
      apply List.take_append_of_le_length
      omega
    rw [if_neg (by simp; omega), hTake, hDeclared]
    simp only
    rw [if_neg (by simp; omega), ← hLength]
    simp

/- Every frame has at least its header. -/
theorem IsFrame.pos
    (hFrame : F.IsFrame f) :
    0 < f.length := by
  rcases hFrame with ⟨n, -, hLength⟩
  have hHeader := F.hasHeader
  omega

/- The frames at the front of a stream, in order. -/
def frames (F : Format α) (s : List α) : List (List α) :=
  match _hNext : F.next s with
  | none => []
  | some (f, rest) => f :: F.frames rest
termination_by s.length
decreasing_by
  rcases next_some_iff.mp _hNext with ⟨hFrame, rfl⟩
  have hPos := hFrame.pos
  rw [List.length_append]
  omega

theorem frames_of_none
    (hNext : F.next s = none) :
    F.frames s = [] := by
  rw [frames]
  split
  · rfl
  · rename_i hSome
    rw [hNext] at hSome
    cases hSome

theorem frames_of_some
    (hNext : F.next s = some (f, rest)) :
    F.frames s = f :: F.frames rest := by
  rw [frames]
  split
  · rename_i hNone
    rw [hNext] at hNone
    cases hNone
  · rename_i f' rest' hSome
    rw [hNext] at hSome
    cases hSome
    rfl

------------------------------------------------------------
-- Streams of Frames
------------------------------------------------------------

/- What is cut off are whole frames. -/
theorem isFrame_of_mem_frames
    (hMem : f ∈ F.frames s) :
    F.IsFrame f := by
  induction hLength : s.length
    using Nat.strong_induction_on generalizing s with
  | _ n ih =>
      cases hNext : F.next s with
      | none =>
          rw [frames_of_none hNext] at hMem
          cases hMem
      | some cut =>
          rcases cut with ⟨first, rest⟩
          rw [frames_of_some hNext] at hMem
          rcases next_some_iff.mp hNext with
            ⟨hFirst, rfl⟩
          rcases List.mem_cons.mp hMem with rfl | hRest
          · exact hFirst
          · have hPos := hFirst.pos
            rw [List.length_append] at hLength
            exact ih rest.length (by omega) hRest rfl

/- Frames in front of a stream are cut off first. -/
theorem frames_append
    {fs : List (List α)}
    (hFrames : ∀ f ∈ fs, F.IsFrame f) :
    F.frames (fs.flatten ++ s) = fs ++ F.frames s := by
  induction fs with
  | nil => rfl
  | cons f fs ih =>
      have hFirst := hFrames f List.mem_cons_self
      have hNext :
          F.next (f ++ (fs.flatten ++ s)) =
            some (f, fs.flatten ++ s) :=
        next_some_iff.mpr ⟨hFirst, rfl⟩
      rw [List.flatten_cons, List.append_assoc,
        frames_of_some hNext, List.cons_append]
      rw [ih fun f' hMem =>
        hFrames f' (List.mem_cons_of_mem f hMem)]

/- A concatenation of frames is cut into these frames. -/
theorem frames_flatten
    {fs : List (List α)}
    (hFrames : ∀ f ∈ fs, F.IsFrame f) :
    F.frames fs.flatten = fs := by
  have hAll := frames_append (s := []) hFrames
  have hNil : F.next ([] : List α) = none := by
    unfold next
    rw [if_pos (by simpa using F.hasHeader)]
  rwa [List.append_nil, frames_of_none hNil,
    List.append_nil] at hAll

------------------------------------------------------------
-- Where Cutting Stops
------------------------------------------------------------

/- A stream that gives no frame, whatever follows it. -/
def IsRejected (F : Format α) (s : List α) : Prop :=
  F.headerSize ≤ s.length ∧
    F.declared (s.take F.headerSize) = none

/- A stream that is too short for its first frame. -/
def IsShort (F : Format α) (s : List α) : Prop :=
  s.length < F.headerSize ∨
    ∃ n, F.declared (s.take F.headerSize) = some n ∧
      s.length < F.headerSize + n

theorem next_of_rejected
    (hRejected : F.IsRejected s) :
    F.next s = none := by
  unfold next
  rw [if_neg (Nat.not_lt.mpr hRejected.1), hRejected.2]

theorem next_of_short
    (hShort : F.IsShort s) :
    F.next s = none := by
  unfold next
  split
  · rfl
  · rename_i hHeader
    rcases hShort with hLess | ⟨n, hDeclared, hLess⟩
    · exact absurd hLess hHeader
    · rw [hDeclared]
      simp only
      rw [if_pos hLess]

/- A rejected header stays rejected. -/
theorem IsRejected.append
    (hRejected : F.IsRejected s)
    (t : List α) :
    F.IsRejected (s ++ t) := by
  rcases hRejected with ⟨hHeader, hDeclared⟩
  refine ⟨?_, ?_⟩
  · rw [List.length_append]
    omega
  · rw [List.take_append_of_le_length hHeader]
    exact hDeclared

end Format

end Library
