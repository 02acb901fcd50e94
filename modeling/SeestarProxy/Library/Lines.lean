import Mathlib.Data.List.Induction

/-
  Streams of lines that a separator ends.

  A stream is a sequence of lines, each followed by the
  separator, and a fragment without one. Cutting goes from
  left to right, so what is cut off a stream does not change
  when more of the stream comes: only the fragment goes on.

  Main declarations:
    * `terminated` and `fragment`
    * `join_terminated`
    * `terminated_append` and `fragment_append`
    * `records` and `records_line`
    * `takeRecord` and `records_eq_cons`
-/

------------------------------------------------------------
-- Lines and the Fragment
------------------------------------------------------------

namespace Library

namespace Lines

variable {α : Type} [DecidableEq α]

/- The lines that end in a stream after `soFar`. -/
def terminatedFrom (sep : α) :
    List α → List α → List (List α)
| _, [] => []
| soFar, b :: s =>
    if b = sep then
      soFar :: terminatedFrom sep [] s
    else
      terminatedFrom sep (soFar ++ [b]) s

/- What is left without a separator after `soFar`. -/
def fragmentFrom (sep : α) : List α → List α → List α
| soFar, [] => soFar
| soFar, b :: s =>
    if b = sep then
      fragmentFrom sep [] s
    else
      fragmentFrom sep (soFar ++ [b]) s

/- The lines of a stream that the separator ends. -/
def terminated (sep : α) (s : List α) : List (List α) :=
  terminatedFrom sep [] s

/- What follows the last separator of a stream. -/
def fragment (sep : α) (s : List α) : List α :=
  fragmentFrom sep [] s

variable {sep : α} {line soFar s t : List α}
variable {ls : List (List α)}

@[simp] theorem terminated_nil :
    terminated sep ([] : List α) = [] := rfl

@[simp] theorem fragment_nil :
    fragment sep ([] : List α) = [] := rfl

/- Symbols that are no separators go on with a line. -/
theorem terminatedFrom_line
    (hLine : sep ∉ line)
    (soFar s : List α) :
    terminatedFrom sep soFar (line ++ s) =
      terminatedFrom sep (soFar ++ line) s := by
  induction line generalizing soFar with
  | nil => simp
  | cons b line ih =>
      rw [List.mem_cons, not_or] at hLine
      rw [List.cons_append, terminatedFrom,
        if_neg (Ne.symm hLine.1), ih hLine.2,
        List.append_assoc, List.singleton_append]

theorem fragmentFrom_line
    (hLine : sep ∉ line)
    (soFar s : List α) :
    fragmentFrom sep soFar (line ++ s) =
      fragmentFrom sep (soFar ++ line) s := by
  induction line generalizing soFar with
  | nil => simp
  | cons b line ih =>
      rw [List.mem_cons, not_or] at hLine
      rw [List.cons_append, fragmentFrom,
        if_neg (Ne.symm hLine.1), ih hLine.2,
        List.append_assoc, List.singleton_append]

/- The first line of a stream is cut off. -/
theorem terminated_line
    (hLine : sep ∉ line) :
    terminated sep (line ++ sep :: s) =
      line :: terminated sep s := by
  rw [terminated, terminatedFrom_line hLine,
    terminatedFrom, if_pos rfl, List.nil_append]
  rfl

theorem fragment_line
    (hLine : sep ∉ line) :
    fragment sep (line ++ sep :: s) = fragment sep s := by
  rw [fragment, fragmentFrom_line hLine, fragmentFrom,
    if_pos rfl]
  rfl

/- A stream without a separator is its own fragment. -/
theorem terminated_of_notMem
    (hStream : sep ∉ s) :
    terminated sep s = [] := by
  have hAll := terminatedFrom_line hStream [] []
  rw [List.append_nil] at hAll
  exact hAll

theorem fragment_of_notMem
    (hStream : sep ∉ s) :
    fragment sep s = s := by
  have hAll := fragmentFrom_line hStream [] []
  rw [List.append_nil] at hAll
  exact hAll

------------------------------------------------------------
-- Cutting and Joining
------------------------------------------------------------

/- Put the separator behind every line. -/
def join (sep : α) (ls : List (List α)) : List α :=
  ls.flatMap fun line => line ++ [sep]

theorem sep_notMem_fragmentFrom
    (hSoFar : sep ∉ soFar) :
    sep ∉ fragmentFrom sep soFar s := by
  induction s generalizing soFar with
  | nil => exact hSoFar
  | cons b s ih =>
      rw [fragmentFrom]
      split
      · exact ih List.not_mem_nil
      · rename_i hByte
        apply ih
        rw [List.mem_append, not_or, List.mem_singleton]
        exact ⟨hSoFar, Ne.symm hByte⟩

/- The fragment has no separator. -/
theorem sep_notMem_fragment :
    sep ∉ fragment sep s :=
  sep_notMem_fragmentFrom List.not_mem_nil

theorem join_terminatedFrom :
    join sep (terminatedFrom sep soFar s) ++
        fragmentFrom sep soFar s =
      soFar ++ s := by
  induction s generalizing soFar with
  | nil => simp [terminatedFrom, fragmentFrom, join]
  | cons b s ih =>
      rw [terminatedFrom, fragmentFrom]
      split
      · rename_i hByte
        have hRest :
            join sep (terminatedFrom sep [] s) ++
                fragmentFrom sep [] s = s := ih
        rw [hByte, join, List.flatMap_cons,
          List.append_assoc]
        change (soFar ++ [sep]) ++ (join sep _ ++ _) = _
        rw [hRest, List.append_assoc,
          List.singleton_append]
      · rw [ih, List.append_assoc, List.singleton_append]

/- Nothing is lost or added by cutting. -/
theorem join_terminated (sep : α) (s : List α) :
    join sep (terminated sep s) ++ fragment sep s = s :=
  join_terminatedFrom

------------------------------------------------------------
-- Streams That Go On
------------------------------------------------------------

theorem terminatedFrom_append :
    terminatedFrom sep soFar (s ++ t) =
      terminatedFrom sep soFar s ++
        terminatedFrom sep (fragmentFrom sep soFar s) t := by
  induction s generalizing soFar with
  | nil => rfl
  | cons b s ih =>
      rw [List.cons_append, terminatedFrom, fragmentFrom,
        terminatedFrom]
      split
      · rw [ih, List.cons_append]
      · exact ih

theorem fragmentFrom_append :
    fragmentFrom sep soFar (s ++ t) =
      fragmentFrom sep (fragmentFrom sep soFar s) t := by
  induction s generalizing soFar with
  | nil => rfl
  | cons b s ih =>
      rw [List.cons_append, fragmentFrom, fragmentFrom]
      split
      · exact ih
      · exact ih

/- What was cut off stays; the fragment goes on. -/
theorem terminated_append (sep : α) (s t : List α) :
    terminated sep (s ++ t) =
      terminated sep s ++
        terminated sep (fragment sep s ++ t) := by
  have hFragment : sep ∉ fragment sep s :=
    sep_notMem_fragment
  rw [terminated, terminatedFrom_append]
  rw [terminated, terminated,
    terminatedFrom_line hFragment]
  rfl

theorem fragment_append (sep : α) (s t : List α) :
    fragment sep (s ++ t) =
      fragment sep (fragment sep s ++ t) := by
  have hFragment : sep ∉ fragment sep s :=
    sep_notMem_fragment
  rw [fragment, fragmentFrom_append]
  rw [fragment, fragmentFrom_line hFragment]
  rfl

/- The lines of the front are the first lines. -/
theorem terminated_prefix
    (hPrefix : s <+: t) :
    terminated sep s <+: terminated sep t := by
  rcases hPrefix with ⟨rest, rfl⟩
  rw [terminated_append]
  exact List.prefix_append _ _

/- A line and its separator are part of the stream. -/
theorem length_lt_of_terminated
    (hMem : line ∈ terminated sep s) :
    line.length < s.length := by
  have hJoin := congrArg List.length (join_terminated sep s)
  rcases List.append_of_mem hMem with ⟨front, back, hParts⟩
  rw [hParts] at hJoin
  simp only [join, List.flatMap_append, List.flatMap_cons,
    List.length_append, List.length_singleton] at hJoin
  omega

/-
  The fragment of the front is the start of the first line
  that ends later, or of the fragment.
-/
theorem fragment_prefix_or
    (sep : α)
    (s t : List α) :
    (∃ line ∈ terminated sep (s ++ t),
        fragment sep s <+: line) ∨
      fragment sep s <+: fragment sep (s ++ t) := by
  by_cases hEnds : sep ∈ t
  · left
    -- The first separator of `t` ends the fragment.
    rcases List.eq_append_cons_of_mem hEnds with
      ⟨more, rest, rfl, hMore⟩
    have hFirst : sep ∉ fragment sep s ++ more := by
      rw [List.mem_append, not_or]
      exact ⟨sep_notMem_fragment, hMore⟩
    refine ⟨fragment sep s ++ more, ?_,
      List.prefix_append _ _⟩
    rw [terminated_append, ← List.append_assoc,
      terminated_line hFirst]
    exact List.mem_append_right _ List.mem_cons_self
  · right
    have hWhole : sep ∉ fragment sep s ++ t := by
      rw [List.mem_append, not_or]
      exact ⟨sep_notMem_fragment, hEnds⟩
    rw [fragment_append, fragment_of_notMem hWhole]
    exact List.prefix_append _ _

------------------------------------------------------------
-- Records
------------------------------------------------------------

/-
  The lines of a stream with their separators, and the
  fragment, when there is one, as the last of them.
-/
def records (sep : α) (s : List α) : List (List α) :=
  (terminated sep s).map (fun line => line ++ [sep]) ++
    if fragment sep s = [] then [] else [fragment sep s]

@[simp] theorem records_nil :
    records sep ([] : List α) = [] := rfl

/- The first line of a stream is the first record. -/
theorem records_line
    (hLine : sep ∉ line) :
    records sep (line ++ sep :: s) =
      (line ++ [sep]) :: records sep s := by
  rw [records, terminated_line hLine, fragment_line hLine]
  rfl

/- A stream without a separator is one record. -/
theorem records_of_notMem
    (hStream : sep ∉ s)
    (hSome : s ≠ []) :
    records sep s = [s] := by
  rw [records, terminated_of_notMem hStream,
    fragment_of_notMem hStream, if_neg hSome]
  rfl

/- A start without a separator is in the first record. -/
theorem records_start
    (hStart : sep ∉ s)
    (hSome : s ≠ [])
    (t : List α) :
    ∃ first rest, records sep (s ++ t) = first :: rest ∧
      s <+: first := by
  by_cases hEnds : sep ∈ t
  · rcases List.eq_append_cons_of_mem hEnds with
      ⟨more, back, rfl, hMore⟩
    have hLine : sep ∉ s ++ more := by
      rw [List.mem_append, not_or]
      exact ⟨hStart, hMore⟩
    refine ⟨s ++ more ++ [sep], records sep back, ?_, ?_⟩
    · rw [← List.append_assoc, records_line hLine]
    · rw [List.append_assoc]
      exact List.prefix_append _ _
  · have hWhole : sep ∉ s ++ t := by
      rw [List.mem_append, not_or]
      exact ⟨hStart, hEnds⟩
    refine ⟨s ++ t, [], ?_, List.prefix_append _ _⟩
    exact records_of_notMem hWhole (by simp [hSome])

/-
  Read one record: up to the first separator, or to the end,
  and what is left.
-/
def takeRecord (sep : α) : List α → List α × List α
| [] => ([], [])
| b :: s =>
    if b = sep then
      ([b], s)
    else
      (b :: (takeRecord sep s).1, (takeRecord sep s).2)

@[simp] theorem takeRecord_nil :
    takeRecord sep ([] : List α) = ([], []) := rfl

theorem takeRecord_line
    (hLine : sep ∉ line) :
    takeRecord sep (line ++ sep :: s) =
      (line ++ [sep], s) := by
  induction line with
  | nil => exact if_pos rfl
  | cons b line ih =>
      rw [List.mem_cons, not_or] at hLine
      rw [List.cons_append, takeRecord,
        if_neg (Ne.symm hLine.1), ih hLine.2]
      rfl

theorem takeRecord_of_notMem
    (hStream : sep ∉ s) :
    takeRecord sep s = (s, []) := by
  induction s with
  | nil => rfl
  | cons b s ih =>
      rw [List.mem_cons, not_or] at hStream
      rw [takeRecord, if_neg (Ne.symm hStream.1),
        ih hStream.2]

/- Reading a record takes the first one off the stream. -/
theorem records_eq_cons
    (hSome : s ≠ []) :
    records sep s =
      (takeRecord sep s).1 ::
        records sep (takeRecord sep s).2 := by
  by_cases hEnds : sep ∈ s
  · rcases List.eq_append_cons_of_mem hEnds with
      ⟨line, rest, rfl, hLine⟩
    rw [records_line hLine, takeRecord_line hLine]
  · rw [records_of_notMem hEnds hSome,
      takeRecord_of_notMem hEnds]
    rfl

end Lines

end Library
