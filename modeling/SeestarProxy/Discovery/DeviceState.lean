import SeestarProxy.Discovery.Bridge
import SeestarProxy.Library.Lines
import SeestarProxy.Utf8

/-
  The device state that the telescope sends over TCP.

  The fall-back of the startup probe reads lines until one
  is JSON with an object for its `result`; others are
  skipped, and a line that is not UTF-8 ends it. At the end
  of the stream a read gives an empty line, which is skipped
  like any other: only the timer ends the loop then.

  Main declarations:
    * `verdict`, `lineLoop` and `fetchDeviceInfoTcp`
    * `lineLoop_eq`
    * `EndsWithInput` and `Decided`
    * `ends_with_input_iff`
    * `empty_stream_loops`
-/

------------------------------------------------------------
-- The Line Loop
------------------------------------------------------------

namespace SeestarProxy

namespace Discovery

open Library

/- The text that `read_line` puts into the line, if UTF-8. -/
def lineText (line : List UInt8) : Option String :=
  String.fromUTF8? (ByteArray.mk line.toArray)

/- The value has an object for its `result`. -/
def HasObject (v : Value) : Prop :=
  ∃ result, v.get "result" = some result ∧ result.IsObject

instance (v : Value) : Decidable (HasObject v) :=
  match hResult : v.get "result" with
  | none => .isFalse (by simp [HasObject, hResult])
  | some result =>
      decidable_of_iff result.IsObject
        (by simp [HasObject, hResult])

/- What the loop makes of a line. -/
inductive Verdict where
| goOn
| found (reply : Value)
| failed

/- One round of the loop, with the line that was read. -/
def verdict (serde : Serde) (line : List UInt8) : Verdict :=
  match lineText line with
  | none => .failed
  | some text =>
      match serde.fromStr (Text.trim text) with
      | none => .goOn
      | some v =>
          if HasObject v then
            .found v
          else
            .goOn

/-
  The loop over what the telescope sends before it closes
  the connection: the reply it ends with, or that it ends
  with an error. Nothing when it has not ended after so many
  rounds; a read at the end of the stream gives no bytes.
-/
def lineLoop
    (serde : Serde) :
    Nat → List UInt8 → Option (Option Value)
| 0, _ => none
| rounds + 1, bytes =>
    let read := Lines.takeRecord Text.lf bytes
    match verdict serde read.1 with
    | .goOn => lineLoop serde rounds read.2
    | .found v => some (some v)
    | .failed => some none

/- The response that is built when the loop is over. -/
def builtFrom : Option (Option Value) → Option Value
| some (some parsed) =>
    (parsed.get "result").map fromDeviceState
| some none | none => none

/-
  `fetch_device_info_tcp` on a connection, when the timer
  ends the loop after so many rounds.
-/
def fetchDeviceInfoTcp
    (serde : Serde)
    (rounds : Nat)
    (bytes : List UInt8) : Option Value :=
  builtFrom (lineLoop serde rounds bytes)

/- The startup probe falls back to what the loop gives. -/
theorem probeUpstream_fallback
    {serde : Serde}
    {upstreamAddr : IpAddr}
    {probe : ProbeRun}
    {rounds : Nat}
    {bytes : List UInt8}
    (hReply : awaitReply serde upstreamAddr probe.replies =
      none)
    (hState : probe.deviceState.map fromDeviceState =
      fetchDeviceInfoTcp serde rounds bytes) :
    probeUpstream serde upstreamAddr probe =
      (fetchDeviceInfoTcp serde rounds bytes).getD
        minimalResponse := by
  rw [← hState]
  unfold probeUpstream
  rw [hReply]
  cases probe.deviceState <;> rfl

------------------------------------------------------------
-- Rounds and Lines
------------------------------------------------------------

variable {serde : Serde} {bytes line : List UInt8}
variable {lines : List (List UInt8)} {rounds : Nat}
variable {v : Value}

/- How a line ends the loop, if it does. -/
def decision
    (serde : Serde)
    (line : List UInt8) : Option (Option Value) :=
  match verdict serde line with
  | .goOn => none
  | .found v => some (some v)
  | .failed => some none

theorem lineText_nil : lineText [] = some "" := by decide

theorem trim_empty : Text.trim "" = "" := by decide

/- The empty line at the end of a stream is skipped. -/
theorem decision_nil
    (hEmpty : serde.fromStr "" = none) :
    decision serde [] = none := by
  unfold decision verdict
  simp only [lineText_nil, trim_empty, hEmpty]

theorem lineLoop_succ
    (serde : Serde)
    (rounds : Nat)
    (bytes : List UInt8) :
    lineLoop serde (rounds + 1) bytes =
      (decision serde
        (Lines.takeRecord Text.lf bytes).1).or
        (lineLoop serde rounds
          (Lines.takeRecord Text.lf bytes).2) := by
  rw [lineLoop]
  unfold decision
  cases verdict serde
    (Lines.takeRecord Text.lf bytes).1 <;> rfl

/-
  The rounds of the loop take the lines one by one; rounds
  at the end of the stream do nothing.
-/
theorem lineLoop_eq
    (hEmpty : serde.fromStr "" = none)
    (rounds : Nat)
    (bytes : List UInt8) :
    lineLoop serde rounds bytes =
      ((Lines.records Text.lf bytes).take
        rounds).findSome? (decision serde) := by
  induction rounds generalizing bytes with
  | zero => rfl
  | succ rounds ih =>
      rw [lineLoop_succ, ih]
      by_cases hSome : bytes = []
      · subst hSome
        rw [Lines.takeRecord_nil, decision_nil hEmpty]
        simp
      · rw [Lines.records_eq_cons hSome,
          List.take_succ_cons, List.findSome?_cons]
        cases decision serde
          (Lines.takeRecord Text.lf bytes).1 <;> rfl

/- The loop ends exactly when some line ends it. -/
theorem lineLoop_ends_iff
    (hEmpty : serde.fromStr "" = none)
    {last : Option Value} :
    (∃ rounds, lineLoop serde rounds bytes = some last) ↔
      (Lines.records Text.lf bytes).findSome?
        (decision serde) = some last := by
  constructor
  · rintro ⟨rounds, hLoop⟩
    rw [lineLoop_eq hEmpty] at hLoop
    rw [← List.take_append_drop rounds
      (Lines.records Text.lf bytes), List.findSome?_append,
      hLoop]
    rfl
  · intro hLine
    refine ⟨(Lines.records Text.lf bytes).length, ?_⟩
    rw [lineLoop_eq hEmpty, List.take_length, hLine]

------------------------------------------------------------
-- Ending with the Input
------------------------------------------------------------

/- The line is UTF-8. -/
def IsText (line : List UInt8) : Prop :=
  (lineText line).isSome = true

instance (line : List UInt8) : Decidable (IsText line) :=
  inferInstanceAs (Decidable (_ = true))

/- The line as JSON, if its `result` is an object. -/
def reply?
    (serde : Serde)
    (line : List UInt8) : Option Value :=
  (lineText line).bind fun text =>
    (serde.fromStr (Text.trim text)).filter fun v =>
      decide (HasObject v)

/-
  The loop ends without the timer, with the first line that
  is a reply, or with nothing when no line is.
-/
def EndsWithInput
    (serde : Serde)
    (bytes : List UInt8) : Prop :=
  ∃ rounds, lineLoop serde rounds bytes =
    some ((Lines.records Text.lf bytes).findSome?
      (reply? serde))

/-
  Some line is a reply and all before it are UTF-8, or no
  line is a reply and some line is not UTF-8.
-/
def Decided
    (serde : Serde)
    (lines : List (List UInt8)) : Prop :=
  (∃ before line after, lines = before ++ line :: after ∧
    (∀ l ∈ before, IsText l) ∧
      (reply? serde line).isSome = true) ∨
  (∀ l ∈ lines, reply? serde l = none) ∧
    ∃ l ∈ lines, ¬ IsText l

/- A line is a reply, goes by, or is not UTF-8. -/
theorem decision_cases
    (serde : Serde)
    (line : List UInt8) :
    (IsText line ∧ ∃ v, reply? serde line = some v ∧
        decision serde line = some (some v)) ∨
      (IsText line ∧ reply? serde line = none ∧
        decision serde line = none) ∨
      (¬ IsText line ∧ reply? serde line = none ∧
        decision serde line = some none) := by
  unfold IsText reply? decision verdict
  cases lineText line with
  | none => simp
  | some text =>
      cases hParse : serde.fromStr (Text.trim text) with
      | none => simp [hParse]
      | some v =>
          by_cases hObject : HasObject v
          · simp [hParse, hObject, Option.filter]
          · simp [hParse, hObject, Option.filter]

/- A text that is no reply decides nothing. -/
theorem decided_cons_of_skipped
    (hText : IsText line)
    (hNone : reply? serde line = none) :
    Decided serde (line :: lines) ↔ Decided serde lines := by
  constructor
  · rintro (⟨before, l, after, hLines, hBefore, hReply⟩ |
      ⟨hAll, l, hMem, hNot⟩)
    · left
      cases before with
      | nil =>
          cases hLines
          rw [hNone] at hReply
          cases hReply
      | cons first before =>
          cases hLines
          exact ⟨before, l, after, rfl,
            fun l hMem => hBefore l
              (List.mem_cons_of_mem _ hMem), hReply⟩
    · right
      refine ⟨fun l hMem =>
        hAll l (List.mem_cons_of_mem _ hMem), l, ?_, hNot⟩
      rcases List.mem_cons.mp hMem with rfl | hLater
      · exact absurd hText hNot
      · exact hLater
  · rintro (⟨before, l, after, rfl, hBefore, hReply⟩ |
      ⟨hAll, l, hMem, hNot⟩)
    · left
      refine ⟨line :: before, l, after, rfl, ?_, hReply⟩
      intro l hMem
      rcases List.mem_cons.mp hMem with rfl | hLater
      · exact hText
      · exact hBefore l hLater
    · right
      refine ⟨?_, l, List.mem_cons_of_mem _ hMem, hNot⟩
      intro l hMem
      rcases List.mem_cons.mp hMem with rfl | hLater
      · exact hNone
      · exact hAll l hLater

/- A line that is not UTF-8 decides when no reply follows. -/
theorem decided_cons_of_failed
    (hNot : ¬ IsText line)
    (hNone : reply? serde line = none) :
    Decided serde (line :: lines) ↔
      ∀ l ∈ lines, reply? serde l = none := by
  constructor
  · rintro (⟨before, l, after, hLines, hBefore, hReply⟩ |
      ⟨hAll, -⟩)
    · cases before with
      | nil =>
          cases hLines
          rw [hNone] at hReply
          cases hReply
      | cons first before =>
          cases hLines
          exact absurd (hBefore _ List.mem_cons_self) hNot
    · exact fun l hMem =>
        hAll l (List.mem_cons_of_mem _ hMem)
  · intro hAll
    right
    refine ⟨?_, line, List.mem_cons_self, hNot⟩
    intro l hMem
    rcases List.mem_cons.mp hMem with rfl | hLater
    · exact hNone
    · exact hAll l hLater

/- The line that ends the loop is the one to be selected. -/
theorem findSome_decision_iff :
    lines.findSome? (decision serde) =
        some (lines.findSome? (reply? serde)) ↔
      Decided serde lines := by
  induction lines with
  | nil => simp [Decided]
  | cons line lines ih =>
      rw [List.findSome?_cons, List.findSome?_cons]
      rcases decision_cases serde line with
        ⟨hText, v, hReply, hDecision⟩ |
        ⟨hText, hReply, hDecision⟩ |
        ⟨hNot, hReply, hDecision⟩
      · rw [hReply, hDecision]
        refine iff_of_true rfl (Or.inl
          ⟨[], line, lines, rfl, nofun, ?_⟩)
        rw [hReply]
        rfl
      · rw [hReply, hDecision,
          decided_cons_of_skipped hText hReply]
        exact ih
      · rw [hReply, hDecision,
          decided_cons_of_failed hNot hReply,
          ← List.findSome?_eq_none_iff]
        simp [eq_comm]

/-
  The loop ends with its input exactly when the lines decide
  it: a stream of other lines alone keeps it going for ever.
-/
theorem ends_with_input_iff
    (hEmpty : serde.fromStr "" = none)
    (bytes : List UInt8) :
    EndsWithInput serde bytes ↔
      Decided serde (Lines.records Text.lf bytes) := by
  unfold EndsWithInput
  rw [lineLoop_ends_iff hEmpty, findSome_decision_iff]

/- An event, and a reply to `get_device_state`. -/
def piStatus : Value :=
  .ofMembers [("Event", .string "PiStatus"),
    ("Timestamp", .string "1.0"),
    ("state", .string "working")]

def stateReply : Value :=
  .ofMembers [("id", natValue 999),
    ("result", .ofMembers
      [("device", .ofMembers
          [("sn", .string "SN_SKIP"),
            ("product_model", .string "Seestar S50")]),
        ("ap", .ofMembers [("ssid", .string "SkipNet")])]),
    ("code", natValue 0)]

def stateSerde : Serde :=
  Serde.knowing [piStatus, stateReply]

theorem stateSerde_empty : stateSerde.fromStr "" = none := by
  decide +kernel

/- A line of the telescope. -/
def telescopeLine (text : String) : List UInt8 :=
  Text.encodeUtf8 (text ++ "\r\n").toList

def printedLine (v : Value) : List UInt8 :=
  telescopeLine (stateSerde.toStrOrDefault v)

theorem ends_with_input_iff_event :
    EndsWithInput stateSerde
      (printedLine piStatus ++ printedLine stateReply) :=
  (ends_with_input_iff stateSerde_empty _).mpr (Or.inl
    ⟨[printedLine piStatus], printedLine stateReply, [],
      by decide +kernel, by decide +kernel,
      by decide +kernel⟩)

/- A line that is not JSON, and nothing after it. -/
theorem malformed_stream_loops :
    ¬ EndsWithInput stateSerde
      (telescopeLine "not valid json at all") := by
  intro hEnds
  have hLine := (lineLoop_ends_iff stateSerde_empty).mp hEnds
  revert hLine
  decide +kernel

end Discovery

end SeestarProxy
