import SeestarProxy.Session.Contents
import SeestarProxy.Session.Serde

/-
  Control messages come back from the control file.

  Every message is one line of the file, which reading the
  file line by line, trimming and parsing gives back. The
  messages of the telescope are kept and no other.

  Main declarations:
    * `lines_append`
    * `telescopeRaws`
    * `loadControl_controlFileOf`
-/

------------------------------------------------------------
-- Cutting Lines
------------------------------------------------------------

namespace SeestarProxy

namespace Text

/- The line so far takes everything up to a line feed. -/
theorem linesFrom_append
    {chars : List Char}
    (hLine : '\n' ∉ chars)
    (soFar rest : List Char) :
    linesFrom soFar (chars ++ '\n' :: rest) =
      (dropCr (chars.reverse ++ soFar)).reverse ::
        linesFrom [] rest := by
  induction chars generalizing soFar with
  | nil => simp [linesFrom]
  | cons c chars ih =>
      rw [List.mem_cons, not_or] at hLine
      rw [List.cons_append, linesFrom,
        if_neg (Ne.symm hLine.1), ih hLine.2,
        List.reverse_cons, List.append_assoc]
      rfl

/- A line that does not end with a carriage return. -/
theorem lines_append
    {line : List Char}
    {c : Char}
    (hLine : '\n' ∉ line ++ [c])
    (hLast : c ≠ '\r')
    (rest : List Char) :
    lines (String.ofList (line ++ [c] ++ '\n' :: rest)) =
      String.ofList (line ++ [c]) ::
        lines (String.ofList rest) := by
  unfold lines
  rw [String.toList_ofList, linesFrom_append hLine,
    List.append_nil, List.reverse_append,
    String.toList_ofList]
  have hKept :
      dropCr ([c].reverse ++ line.reverse) =
        c :: line.reverse := by
    change dropCr (c :: line.reverse) = _
    unfold dropCr
    split
    · rename_i hReturn
      cases hReturn
      exact absurd rfl hLast
    · rfl
  rw [hKept, List.map_cons]
  simp

/- Nothing is trimmed off a text between two braces. -/
theorem trim_braces (inner : List Char) :
    trim (String.ofList ('\x7b' :: (inner ++ ['\x7d']))) =
      String.ofList ('\x7b' :: (inner ++ ['\x7d'])) := by
  have hOpen : isWhitespace '\x7b' = false := by decide
  have hClose : isWhitespace '\x7d' = false := by decide
  have hFront :
      ('\x7b' :: (inner ++ ['\x7d'])).dropWhile
          isWhitespace =
        '\x7b' :: (inner ++ ['\x7d']) := by
    rw [List.dropWhile_cons_of_neg]
    rw [hOpen]
    exact Bool.false_ne_true
  have hBack :
      ('\x7b' :: (inner ++ ['\x7d'])).reverse =
        '\x7d' :: ('\x7b' :: inner).reverse := by
    simp
  unfold trim trimChars
  rw [String.toList_ofList, hFront, hBack,
    List.dropWhile_cons_of_neg, ← hBack,
    List.reverse_reverse]
  rw [hClose]
  exact Bool.false_ne_true

end Text

------------------------------------------------------------
-- Reading the Control File
------------------------------------------------------------

namespace Session

variable {serde : SessionSerde}

/- The messages of the telescope among some lines. -/
def telescopeRaws (lines : List ControlLine) :
    List String :=
  (lines.filter fun line =>
    line.direction = "telescope").map ControlLine.raw

theorem telescopeRaws_cons
    (line : ControlLine)
    (lines : List ControlLine) :
    telescopeRaws (line :: lines) =
      (if line.direction = "telescope" then
        [line.raw]
      else
        []) ++ telescopeRaws lines := by
  unfold telescopeRaws
  by_cases hDirection : line.direction = "telescope"
  · simp [hDirection]
  · simp [hDirection]

/- A printed line is loaded if it is the telescope's. -/
theorem raw_controlEntry
    (hSerde : serde.Lawful)
    {line : ControlLine}
    {json : String}
    (hPrint : serde.lineToStr line = some json) :
    (controlEntry serde json).map ControlEntry.raw =
      if line.direction = "telescope" then
        some line.raw
      else
        none := by
  rcases hSerde.isObject line json hPrint with
    ⟨inner, hChars⟩
  rcases hSerde.roundTrip line json hPrint with
    ⟨entry, hParse, hDirection, hRaw⟩
  have hText :
      json =
        String.ofList ('\x7b' :: (inner ++ ['\x7d'])) := by
    rw [← hChars, String.ofList_toList]
  have hTrim : Text.trim json = json := by
    rw [hText]
    exact Text.trim_braces inner
  have hSome : json ≠ "" := by
    rintro rfl
    cases hChars
  unfold controlEntry
  simp only [hTrim, if_neg hSome, hParse, hDirection]
  by_cases hTelescope : line.direction = "telescope"
  · simp [hTelescope, hRaw]
  · simp [hTelescope]

/- The first line of a control file. -/
theorem lines_controlText
    (hSerde : serde.Lawful)
    {line : ControlLine}
    {json : String}
    (hPrint : serde.lineToStr line = some json)
    (rest : String) :
    Text.lines (Recorder.controlText serde line ++ rest) =
      json :: Text.lines rest := by
  rcases hSerde.isObject line json hPrint with
    ⟨inner, hChars⟩
  have hOneLine := hSerde.oneLine line json hPrint
  have hText :
      Recorder.controlText serde line ++ rest =
        String.ofList
          (('\x7b' :: inner) ++ ['\x7d'] ++
            '\n' :: rest.toList) := by
    apply String.toList_inj.mp
    unfold Recorder.controlText
    rw [hPrint, String.toList_ofList]
    simp only [String.toList_append, hChars]
    simp
  rw [hText, Text.lines_append _ (by decide),
    String.ofList_toList]
  · congr 1
    rw [← String.ofList_toList (s := json), hChars]
    rfl
  · rw [hChars] at hOneLine
    exact hOneLine

/- Loading gives back what the telescope sent. -/
theorem loadControl_controlFileOf
    (hSerde : serde.Lawful)
    (lines : List ControlLine) :
    (loadControl serde (controlFileOf serde lines)).map
        ControlEntry.raw =
      telescopeRaws lines := by
  induction lines with
  | nil => rfl
  | cons line lines ih =>
      rcases hSerde.prints line with ⟨json, hPrint⟩
      have hFile :
          controlFileOf serde (line :: lines) =
            Recorder.controlText serde line ++
              controlFileOf serde lines := by
        unfold controlFileOf
        rw [List.map_cons, String.join_cons]
      have hEntry := raw_controlEntry hSerde hPrint
      unfold loadControl at ih ⊢
      rw [hFile, lines_controlText hSerde hPrint,
        telescopeRaws_cons, ← ih, List.filterMap_cons]
      cases hLoaded : controlEntry serde json with
      | none =>
          rw [hLoaded] at hEntry
          by_cases hTelescope : line.direction = "telescope"
          · simp [hTelescope] at hEntry
          · simp [hTelescope]
      | some entry =>
          rw [hLoaded] at hEntry
          by_cases hTelescope : line.direction = "telescope"
          · simp only [hTelescope, if_true, Option.map_some,
              Option.some.injEq] at hEntry
            simp [hTelescope, hEntry]
          · simp [hTelescope] at hEntry

end Session

end SeestarProxy
