import SeestarProxy.Control.Unbroken
import SeestarProxy.Session.Replay

/-
  What a session needs of the JSON library.

  A line of the control file is one object without a line
  break, and reading it gives back its strings; a manifest
  that was written can be read. Time stamps need not come
  back to the last bit.

  Main declarations:
    * `SessionSerde.Lawful`
    * `plainSerde` and `plainSerde_lawful`
-/

------------------------------------------------------------
-- Laws
------------------------------------------------------------

namespace SeestarProxy

namespace Session

open Imaging (Bytes HeaderBuf)
open Library Protocol

/- The library prints compact objects and reads them back. -/
structure SessionSerde.Lawful (serde : SessionSerde) :
    Prop where
  prints : ∀ line, ∃ json, serde.lineToStr line = some json
  oneLine : ∀ line json, serde.lineToStr line = some json →
    '\n' ∉ json.toList
  isObject : ∀ line json, serde.lineToStr line = some json →
    ∃ inner, json.toList = '\x7b' :: (inner ++ ['\x7d'])
  roundTrip : ∀ line json,
    serde.lineToStr line = some json →
      ∃ entry, serde.lineFromStr json = some entry ∧
        entry.direction = line.direction ∧
          entry.raw = line.raw
  manifest : ∀ m, ∃ json recorded,
    serde.manifestToStr m = some json ∧
      serde.manifestFromStr json = some recorded

------------------------------------------------------------
-- A Plain Library
------------------------------------------------------------

/- The rest of a text after a literal. -/
def expect (literal : String) (chars : List Char) :
    Option (List Char) :=
  if literal.toList.isPrefixOf chars then
    some (chars.drop literal.toList.length)
  else
    none

theorem expect_append (literal : String) (rest : List Char) :
    expect literal (literal.toList ++ rest) = some rest := by
  unfold expect
  rw [if_pos (by simp), List.drop_left]

/- The character of a short escape. -/
def unescape (c : Char) : Char :=
  if c = 'n' then '\n'
  else if c = 'r' then '\r'
  else if c = 't' then '\t'
  else c

/- Read a string up to its closing quote. -/
def readString : List Char → Option (List Char × List Char)
| [] => none
| '"' :: chars => some ([], chars)
| '\\' :: c :: chars =>
    (readString chars).map fun read =>
      (unescape c :: read.1, read.2)
| c :: chars =>
    (readString chars).map fun read =>
      (c :: read.1, read.2)

/- The characters of a printed string after its quote. -/
def escaped (chars : List Char) : List Char :=
  chars.flatMap fun c => (escapeChar c).toList

theorem toList_printString (s : String) :
    (printString s).toList =
      '"' :: (escaped s.toList ++ ['"']) := by
  unfold printString escaped
  rw [String.toList_append, String.toList_append,
    String.toList_join, List.flatMap_map]
  rfl

theorem readString_escaped (chars rest : List Char) :
    readString (escaped chars ++ '"' :: rest) =
      some (chars, rest) := by
  induction chars with
  | nil => simp [escaped, readString]
  | cons c chars ih =>
      have hSplit :
          escaped (c :: chars) ++ '"' :: rest =
            (escapeChar c).toList ++
              (escaped chars ++ '"' :: rest) := by
        unfold escaped
        rw [List.flatMap_cons, List.append_assoc]
      rw [hSplit]
      unfold escapeChar
      split
      · rename_i hQuote
        subst hQuote
        simp [readString, unescape, ih]
      split
      · rename_i hBackslash
        subst hBackslash
        simp [readString, unescape, ih]
      split
      · rename_i hFeed
        subst hFeed
        simp [readString, unescape, ih]
      split
      · rename_i hReturn
        subst hReturn
        simp [readString, unescape, ih]
      split
      · rename_i hTab
        subst hTab
        simp [readString, unescape, ih]
      · rename_i _ hBackslash _ _ _
        simp [readString, hBackslash, ih]

/- The compact form of a line with the time stamp 0.0. -/
def printLine (line : ControlLine) : String :=
  "\x7b\"timestamp\":0.0,\"direction\":" ++
    printString line.direction ++ ",\"raw\":" ++
      printString line.raw ++ "\x7d"

/- Read the compact form of such a line. -/
def readLine (text : String) : Option ControlLine := do
  let chars ← expect
    "\x7b\"timestamp\":0.0,\"direction\":\"" text.toList
  let direction ← readString chars
  let chars ← expect ",\"raw\":\"" direction.2
  let raw ← readString chars
  if raw.2 = ['\x7d'] then
    some ⟨F64.zero, String.ofList direction.1,
      String.ofList raw.1⟩
  else
    none

/- The characters of a printed line. -/
theorem toList_printLine (line : ControlLine) :
    (printLine line).toList =
      "\x7b\"timestamp\":0.0,\"direction\":\"".toList ++
        (escaped line.direction.toList ++ '"' ::
          (",\"raw\":\"".toList ++
            (escaped line.raw.toList ++ '"' ::
              ['\x7d']))) := by
  unfold printLine
  simp only [String.toList_append, toList_printString]
  simp

theorem readLine_printLine (line : ControlLine) :
    readLine (printLine line) =
      some ⟨F64.zero, line.direction, line.raw⟩ := by
  unfold readLine
  rw [toList_printLine, expect_append]
  simp only [Option.bind_eq_bind, Option.bind_some]
  rw [readString_escaped]
  simp only [Option.bind_some]
  rw [expect_append]
  simp only [Option.bind_some]
  rw [readString_escaped]
  simp

/- A string or `null`, as `Option` is printed. -/
def printOptional : Option String → String
| none => "null"
| some s => printString s

/- The pretty form of a manifest with the duration 0.0. -/
def printManifest (m : Manifest) : String :=
  "\x7b\n  \"capture_date\": " ++
    printString m.captureDate ++
  ",\n  \"telescope_model\": " ++
    printOptional m.telescopeModel ++
  ",\n  \"firmware_version\": " ++
    printOptional m.firmwareVersion ++
  ",\n  \"frame_count\": " ++
    toString m.frameCount.toNat ++
  ",\n  \"preview_frame_count\": " ++
    toString m.previewFrameCount.toNat ++
  ",\n  \"stack_frame_count\": " ++
    toString m.stackFrameCount.toNat ++
  ",\n  \"control_message_count\": " ++
    toString m.controlMessageCount.toNat ++
  ",\n  \"duration_seconds\": 0.0" ++
  ",\n  \"source\": " ++ printString m.source ++ "\n\x7d"

/- Read the members of a manifest that are loaded. -/
def readManifest (text : String) : RecordedManifest :=
  let key := "\"frame_count\": ".toList
  let digits :=
    match Text.findFrom key text.toList with
    | none => []
    | some found =>
        (found.drop key.length).takeWhile Char.isDigit
  ⟨UInt32.ofNat (Nat.ofDigitChars 10 digits 0), F64.zero⟩

/-
  A library that prints as `serde_json` does where the time
  stamps and the duration are 0.0.
-/
def plainSerde : SessionSerde where
  lineToStr := fun line => some (printLine line)
  lineFromStr := readLine
  manifestToStr := fun m => some (printManifest m)
  manifestFromStr := fun text => some (readManifest text)

theorem plainSerde_lawful : plainSerde.Lawful where
  prints := fun line => ⟨_, rfl⟩
  oneLine := by
    rintro line json ⟨⟩
    unfold printLine
    refine Control.unbroken_append (Control.unbroken_append
      (Control.unbroken_append (Control.unbroken_append
        ?_ ?_) ?_) ?_) ?_
    · unfold Control.Unbroken
      decide
    · exact Control.unbroken_printString line.direction
    · unfold Control.Unbroken
      decide
    · exact Control.unbroken_printString line.raw
    · unfold Control.Unbroken
      decide
  isObject := by
    rintro line json ⟨⟩
    refine ⟨"\"timestamp\":0.0,\"direction\":\"".toList ++
      (escaped line.direction.toList ++ '"' ::
        (",\"raw\":\"".toList ++
          (escaped line.raw.toList ++ ['"']))), ?_⟩
    rw [toList_printLine]
    simp
  roundTrip := by
    rintro line json ⟨⟩
    exact ⟨_, readLine_printLine line, rfl, rfl⟩
  manifest := fun m => ⟨_, _, rfl, rfl⟩

end Session

end SeestarProxy
