import SeestarProxy.Control.Wire
import SeestarProxy.Library.Lines

/-
  The read loop of `upstream_reader_task` over the bytes of
  one telescope connection.

  Each read appends to a buffer; all lines that are complete
  are cut off and processed, and a rest that has grown too
  long ends the connection. The preview slices are a
  parameter, so that the loop can be run with the slices of
  the source and with slices that do nothing.

  Main declarations:
    * `Slices`, `LineFate` and `lineFate`
    * `ReaderLoop`, `takeLines`, `readBytes`, `readerLoop`
    * `reader_of_lineFate`
    * `readerLoop_framed`
    * `framing_independent`
-/

------------------------------------------------------------
-- Lines
------------------------------------------------------------

namespace SeestarProxy

namespace Control

open Library Protocol

/- The rest of a line that ends the connection is longer. -/
def maxReaderBuffer : Nat := 1000000

/- The bytes that one read asks for. -/
def readerChunk : Nat := 32768

/-
  Which preview slices panic: the peek at every line, and
  the front of a line that is not JSON.
-/
structure Slices where
  hint : String → Bool
  invalid : String → Bool

/- The slices that the source takes. -/
def Slices.taken (env : Env) : Slices where
  hint := fun trimmed => (methodHint trimmed).isNone
  invalid := fun trimmed =>
    previewPanics env.warnLogged trimmed 100

/- Slices that do nothing. -/
def Slices.noOps : Slices where
  hint := fun _ => false
  invalid := fun _ => false

/-
  How far a line comes. `panicked` tells whether the line
  had reached the recorder; a line that is not JSON is
  `skipped` after it.
-/
inductive LineFate where
| blank
| panicked (recorded : Bool)
| skipped
| routed
deriving DecidableEq

/- How far a trimmed line comes. -/
def lineFate
    (env : Env)
    (slices : Slices)
    (trimmed : String) : LineFate :=
  if trimmed = "" then
    .blank
  else if slices.hint trimmed = true then
    .panicked false
  else
    match env.serde.fromStr trimmed with
    | none =>
        if slices.invalid trimmed = true then
          .panicked true
        else
          .skipped
    | some _ => .routed

/- The line reaches the recorder. -/
def LineFate.recorded : LineFate → Bool
| .blank | .panicked false => false
| .panicked true | .skipped | .routed => true

/- The text of a line as it is processed. -/
def lineText (line : List UInt8) : String :=
  Text.trim (Text.fromUtf8Lossy line)

/-
  A line takes the reader of a connection where its fate
  says, and shows up when it reaches the recorder.
-/
theorem reader_of_lineFate
    {env : Env}
    {s s' : State}
    {o : List Obs}
    {conn : ConnId}
    {line : List UInt8}
    (hReading : s.reader conn = .reading)
    (hStep :
      upstreamReaderTask env s conn
          (.line (Text.fromUtf8Lossy line)) =
        some (s', o)) :
    (s'.reader conn = .panicked ↔
        ∃ recorded,
          lineFate env (.taken env) (lineText line) =
            .panicked recorded) ∧
      (.received conn (lineText line) ∈ o ↔
        (lineFate env (.taken env)
          (lineText line)).recorded = true) := by
  unfold upstreamReaderTask at hStep
  rw [hReading] at hStep
  simp only at hStep
  change (if _ then _ else
    if lineText line = "" then _ else
      if (methodHint (lineText line)).isNone = true then _
      else _) = _ at hStep
  unfold lineFate Slices.taken
  simp only
  split at hStep
  · cases hStep
  · split at hStep
    · rename_i hBlank
      cases hStep
      rw [if_pos hBlank, hReading]
      simp [LineFate.recorded]
    · rename_i hText
      rw [if_neg hText]
      split at hStep
      · rename_i hHint
        cases hStep
        rw [if_pos hHint]
        simp [LineFate.recorded]
      · rename_i hHint
        cases hStep
        rw [if_neg hHint]
        change (Function.update s.reader conn
            (routeLine env (lineText line)) conn = _ ↔ _) ∧
          (_ ∈ [Obs.received conn (lineText line)] ↔ _)
        rw [Function.update_self]
        unfold routeLine
        cases hJson :
            env.serde.fromStr (lineText line) with
        | none =>
            simp only
            split
            · simp [LineFate.recorded]
            · simp [LineFate.recorded]
        | some msg =>
            simp only
            split
            · simp [LineFate.recorded]
            · cases hId : jsonRpcId msg with
              | none => simp [LineFate.recorded]
              | some id => simp [LineFate.recorded]

------------------------------------------------------------
-- The Read Loop
------------------------------------------------------------

/- Why the read loop has ended. -/
inductive ReaderEnd where
| eof
| overflow
| panicked
deriving DecidableEq

/-
  The read loop: its buffer, the lines that it has cut off,
  the texts that have reached the recorder and those that
  have reached the routing decision.
-/
structure ReaderLoop where
  buf : List UInt8
  lines : List (List UInt8)
  recorded : List String
  routed : List String
  ended : Option ReaderEnd
deriving DecidableEq

def ReaderLoop.start : ReaderLoop where
  buf := []
  lines := []
  recorded := []
  routed := []
  ended := none

/- Process one line. -/
def processLine
    (env : Env)
    (slices : Slices)
    (r : ReaderLoop)
    (line : List UInt8) : ReaderLoop :=
  let trimmed := lineText line
  let cut := { r with lines := r.lines ++ [line] }
  match lineFate env slices trimmed with
  | .blank => cut
  | .panicked recorded =>
      { cut with
        recorded :=
          if recorded = true then
            r.recorded ++ [trimmed]
          else
            r.recorded
        ended := some .panicked }
  | .skipped =>
      { cut with recorded := r.recorded ++ [trimmed] }
  | .routed =>
      { cut with
        recorded := r.recorded ++ [trimmed]
        routed := r.routed ++ [trimmed] }

/-
  Process all complete lines of the buffer; each round takes
  at least a line feed off it, so its length bounds them.
-/
def takeLines
    (env : Env)
    (slices : Slices) : Nat → ReaderLoop → ReaderLoop
| 0, r => r
| rounds + 1, r =>
    match cutLine r.buf with
    | none => r
    | some (line, rest) =>
        let r' :=
          processLine env slices { r with buf := rest } line
        if r'.ended = none then
          takeLines env slices rounds r'
        else
          r'

/- One read; a read of nothing is the end of the stream. -/
def readBytes
    (env : Env)
    (slices : Slices)
    (r : ReaderLoop)
    (chunk : List UInt8) : ReaderLoop :=
  if r.ended ≠ none then
    r
  else if chunk = [] then
    { r with ended := some .eof }
  else
    let buf := r.buf ++ chunk
    let r' :=
      takeLines env slices buf.length { r with buf := buf }
    if r'.ended = none ∧
        maxReaderBuffer < r'.buf.length then
      { r' with ended := some .overflow }
    else
      r'

/- The read loop over the reads of a connection. -/
def readerLoop
    (env : Env)
    (slices : Slices)
    (reads : List (List UInt8)) : ReaderLoop :=
  (reads ++ [[]]).foldl (readBytes env slices) .start

------------------------------------------------------------
-- Taking Lines off the Buffer
------------------------------------------------------------

variable {env : Env} {slices : Slices}
variable {r : ReaderLoop} {line rest s : List UInt8}

/- What was cut off stands before a line feed. -/
theorem cutLine_some
    (hCut : cutLine s = some (line, rest)) :
    s = line ++ Text.lf :: rest := by
  induction s generalizing line with
  | nil => cases hCut
  | cons b s ih =>
      rw [cutLine] at hCut
      split at hCut
      · rename_i hByte
        cases hCut
        rw [hByte]
        rfl
      · rcases Option.map_eq_some_iff.mp hCut with
          ⟨⟨line', rest'⟩, hRest, hEq⟩
        cases hEq
        rw [ih hRest]
        rfl

theorem cutLine_none
    (hCut : cutLine s = none) :
    Text.lf ∉ s := by
  induction s with
  | nil => exact List.not_mem_nil
  | cons b s ih =>
      rw [cutLine] at hCut
      split at hCut
      · cases hCut
      · rename_i hByte
        rw [Option.map_eq_none_iff] at hCut
        rw [List.mem_cons, not_or]
        exact ⟨Ne.symm hByte, ih hCut⟩

/- The texts of lines that are not blank. -/
def texts (lines : List (List UInt8)) : List String :=
  (lines.map lineText).filter fun text => text ≠ ""

theorem texts_append (lines lines' : List (List UInt8)) :
    texts (lines ++ lines') = texts lines ++ texts lines' := by
  unfold texts
  rw [List.map_append, List.filter_append]

/- The text is JSON. -/
def isJson (env : Env) (text : String) : Bool :=
  (env.serde.fromStr text).isSome

/-
  Everything that was cut off has reached the recorder and,
  where it is JSON, the routing decision.
-/
structure ReaderLoop.Complete
    (env : Env)
    (r : ReaderLoop) : Prop where
  recorded : r.recorded = texts r.lines
  routed : r.routed = (texts r.lines).filter (isJson env)

/- A line that does not panic is processed as a whole. -/
theorem processLine_complete
    (hFate : ∀ recorded,
      lineFate env slices (lineText line) ≠
        .panicked recorded)
    (hComplete : r.Complete env) :
    (processLine env slices r line).Complete env ∧
      (processLine env slices r line).lines =
        r.lines ++ [line] ∧
      (processLine env slices r line).buf = r.buf ∧
      (processLine env slices r line).ended = r.ended := by
  rcases hComplete with ⟨hRecorded, hRouted⟩
  have hTexts := texts_append r.lines [line]
  cases hAt : lineFate env slices (lineText line) with
  | panicked recorded => exact absurd hAt (hFate recorded)
  | blank =>
      have hBlank : lineText line = "" := by
        by_contra hText
        simp only [lineFate, if_neg hText] at hAt
        split at hAt
        · cases hAt
        · split at hAt
          · split at hAt <;> cases hAt
          · cases hAt
      have hNone : texts [line] = [] := by
        simp [texts, hBlank]
      rw [hNone, List.append_nil] at hTexts
      simp only [processLine, hAt]
      refine ⟨⟨?_, ?_⟩, trivial, trivial, trivial⟩
      · rw [hTexts]
        exact hRecorded
      · rw [hTexts]
        exact hRouted
  | skipped =>
      have hText : lineText line ≠ "" := by
        intro hBlank
        simp [lineFate, hBlank] at hAt
      have hJson : isJson env (lineText line) = false := by
        simp only [lineFate, if_neg hText] at hAt
        split at hAt
        · cases hAt
        · unfold isJson
          split at hAt
          · rename_i hNone
            rw [hNone]
            rfl
          · cases hAt
      have hOne : texts [line] = [lineText line] := by
        simp [texts, hText]
      rw [hOne] at hTexts
      simp only [processLine, hAt]
      refine ⟨⟨?_, ?_⟩, trivial, trivial, trivial⟩
      · rw [hTexts, hRecorded]
      · rw [hTexts, List.filter_append, ← hRouted]
        simp [hJson]
  | routed =>
      have hText : lineText line ≠ "" := by
        intro hBlank
        simp [lineFate, hBlank] at hAt
      have hJson : isJson env (lineText line) = true := by
        simp only [lineFate, if_neg hText] at hAt
        split at hAt
        · cases hAt
        · unfold isJson
          split at hAt
          · split at hAt <;> cases hAt
          · rename_i hSome
            rw [hSome]
            rfl
      have hOne : texts [line] = [lineText line] := by
        simp [texts, hText]
      rw [hOne] at hTexts
      simp only [processLine, hAt]
      refine ⟨⟨?_, ?_⟩, trivial, trivial, trivial⟩
      · rw [hTexts, hRecorded]
      · rw [hTexts, List.filter_append, ← hRouted]
        simp [hJson]

/- The while loop takes all lines, if none panics. -/
theorem takeLines_complete
    {rounds : Nat}
    (hRounds : r.buf.length ≤ rounds)
    (hFate : ∀ line ∈ Lines.terminated Text.lf r.buf,
      ∀ recorded,
        lineFate env slices (lineText line) ≠
          .panicked recorded)
    (hComplete : r.Complete env)
    (hOpen : r.ended = none) :
    (takeLines env slices rounds r).Complete env ∧
      (takeLines env slices rounds r).lines =
        r.lines ++ Lines.terminated Text.lf r.buf ∧
      (takeLines env slices rounds r).buf =
        Lines.fragment Text.lf r.buf ∧
      (takeLines env slices rounds r).ended = none := by
  induction rounds generalizing r with
  | zero =>
      have hNil : r.buf = [] :=
        List.length_eq_zero_iff.mp (Nat.le_zero.mp hRounds)
      rw [takeLines, hNil, Lines.terminated_nil,
        Lines.fragment_nil, List.append_nil]
      exact ⟨hComplete, rfl, rfl, hOpen⟩
  | succ rounds ih =>
      cases hCut : cutLine r.buf with
      | none =>
          have hNone := cutLine_none hCut
          rw [takeLines, hCut,
            Lines.terminated_of_notMem hNone,
            Lines.fragment_of_notMem hNone,
            List.append_nil]
          exact ⟨hComplete, rfl, rfl, hOpen⟩
      | some cut =>
          rcases cut with ⟨line, rest⟩
          have hBuf := cutLine_some hCut
          have hLine := lf_notMem_of_cutLine hCut
          rw [hBuf, Lines.terminated_line hLine] at hFate
          have hFirst :=
            hFate line List.mem_cons_self
          have hOthers := fun other hMem =>
            hFate other (List.mem_cons_of_mem line hMem)
          have hRest : ReaderLoop.Complete env
              { r with buf := rest } :=
            ⟨hComplete.recorded, hComplete.routed⟩
          rcases processLine_complete hFirst hRest with
            ⟨hDone, hLines, hLeft, hEnded⟩
          have hEnds := hEnded.trans hOpen
          rw [takeLines, hCut]
          simp only [hEnds, if_true]
          rw [hBuf, List.length_append,
            List.length_cons] at hRounds
          have hRest' := ih
            (r := processLine env slices
              { r with buf := rest } line)
            (by rw [hLeft]; change rest.length ≤ rounds; omega)
            (by rw [hLeft]; exact hOthers) hDone hEnds
          rw [hLines, hLeft] at hRest'
          rw [hBuf, Lines.terminated_line hLine,
            Lines.fragment_line hLine]
          rw [List.append_assoc,
            List.singleton_append] at hRest'
          exact hRest'

------------------------------------------------------------
-- Streams in Reads
------------------------------------------------------------

/-
  What the loop has done with the bytes that it has read: it
  has processed their lines, and either goes on with their
  fragment or has found it too long.
-/
structure ReaderLoop.Framed
    (env : Env)
    (bytes : List UInt8)
    (r : ReaderLoop) : Prop where
  complete : r.Complete env
  lines : r.lines = Lines.terminated Text.lf bytes
  open_ : r.ended = none →
    r.buf = Lines.fragment Text.lf bytes ∧
      r.buf.length ≤ maxReaderBuffer
  overflow : r.ended ≠ none →
    r.ended = some .overflow ∧
      maxReaderBuffer <
        (Lines.fragment Text.lf bytes).length

theorem framed_start : ReaderLoop.start.Framed env [] where
  complete := ⟨rfl, rfl⟩
  lines := rfl
  open_ := fun _ => ⟨rfl, Nat.zero_le _⟩
  overflow := fun hEnded => absurd rfl hEnded

/- One more read. -/
theorem framed_read
    {bytes chunk : List UInt8}
    (hFramed : r.Framed env bytes)
    (hOpen : r.ended = none)
    (hChunk : chunk ≠ [])
    (hFate : ∀ line ∈
        Lines.terminated Text.lf (bytes ++ chunk),
      ∀ recorded,
        lineFate env slices (lineText line) ≠
          .panicked recorded) :
    (readBytes env slices r chunk).Framed env
      (bytes ++ chunk) := by
  have hBuf := (hFramed.open_ hOpen).1
  have hNew : ∀ line ∈
      Lines.terminated Text.lf (r.buf ++ chunk),
      ∀ recorded,
        lineFate env slices (lineText line) ≠
          .panicked recorded := by
    intro line hMem
    apply hFate
    rw [Lines.terminated_append, ← hBuf]
    exact List.mem_append_right _ hMem
  rcases takeLines_complete
      (r := { r with buf := r.buf ++ chunk })
      (Nat.le_refl _) hNew
      ⟨hFramed.complete.recorded, hFramed.complete.routed⟩
      hOpen with ⟨hComplete, hLines, hRest, hEnded⟩
  have hAll :
      (takeLines env slices (r.buf ++ chunk).length
          { r with buf := r.buf ++ chunk }).lines =
        Lines.terminated Text.lf (bytes ++ chunk) := by
    rw [hLines, Lines.terminated_append Text.lf bytes,
      ← hBuf, ← hFramed.lines]
  have hFragment :
      (takeLines env slices (r.buf ++ chunk).length
          { r with buf := r.buf ++ chunk }).buf =
        Lines.fragment Text.lf (bytes ++ chunk) := by
    rw [hRest, Lines.fragment_append Text.lf bytes, ← hBuf]
  unfold readBytes
  rw [if_neg (not_not.mpr hOpen), if_neg hChunk]
  simp only [hEnded, true_and]
  split
  · rename_i hLong
    rw [hFragment] at hLong
    refine ⟨⟨hComplete.recorded, hComplete.routed⟩, hAll,
      ?_, fun _ => ⟨rfl, hLong⟩⟩
    intro hNone
    cases hNone
  · rename_i hShort
    refine ⟨hComplete, hAll, ?_, ?_⟩
    · intro _
      exact ⟨hFragment, Nat.le_of_not_lt hShort⟩
    · intro hSome
      exact absurd hEnded hSome

/-
  After some reads the loop has framed the bytes of the first
  of them, of all of them unless it has ended; the lines that
  it has cut off are shorter than the limit and a read.
-/
theorem framed_of_reads
    {reads : List (List UInt8)}
    (env : Env)
    (hReads : ∀ chunk ∈ reads,
      chunk ≠ [] ∧ chunk.length ≤ readerChunk) :
    ∃ front back, reads = front ++ back ∧
      (reads.foldl (readBytes env .noOps) .start).Framed env
        front.flatten ∧
      ((reads.foldl (readBytes env .noOps) .start).ended =
        none → back = []) ∧
      ∀ line ∈ Lines.terminated Text.lf front.flatten,
        line.length < maxReaderBuffer + readerChunk := by
  induction reads using List.reverseRecOn with
  | nil =>
      exact ⟨[], [], rfl, framed_start, fun _ => rfl,
        fun line hMem => by cases hMem⟩
  | append_singleton reads chunk ih =>
      rcases ih fun other hMem =>
          hReads other (List.mem_append_left _ hMem) with
        ⟨front, back, hParts, hFramed, hBack, hShort⟩
      have hChunk := hReads chunk
        (List.mem_append_right _ List.mem_cons_self)
      rw [List.foldl_append, List.foldl_cons, List.foldl_nil]
      generalize
        reads.foldl (readBytes env .noOps) .start = r
        at hFramed hBack ⊢
      by_cases hOpen : r.ended = none
      · have hAll := hBack hOpen
        subst hAll
        rw [List.append_nil] at hParts
        subst hParts
        refine ⟨reads ++ [chunk], [],
          (List.append_nil _).symm, ?_, fun _ => rfl, ?_⟩
        · rw [List.flatten_append, List.flatten_singleton]
          apply framed_read hFramed hOpen hChunk.1
          intro line _ recorded hFate
          unfold lineFate Slices.noOps at hFate
          simp only [Bool.false_eq_true, if_false] at hFate
          split at hFate
          · cases hFate
          · split at hFate <;> cases hFate
        · intro line hMem
          rw [List.flatten_append, List.flatten_singleton,
            Lines.terminated_append] at hMem
          rcases List.mem_append.mp hMem with hOld | hNew
          · exact hShort line hOld
          · have hLess := Lines.length_lt_of_terminated hNew
            have hRest := hFramed.open_ hOpen
            rw [hRest.1] at hRest
            rw [List.length_append] at hLess
            have hBound := hRest.2
            have hRead := hChunk.2
            omega
      · have hStays :
            readBytes env .noOps r chunk = r := by
          unfold readBytes
          rw [if_pos hOpen]
        rw [hStays]
        exact ⟨front, back ++ [chunk], by
          rw [hParts, List.append_assoc], hFramed,
          fun hNone => absurd hNone hOpen, hShort⟩

/-
  At the end of the stream: the lines of the first reads are
  processed, and these are all reads unless the fragment of
  what they brought was too long.
-/
theorem readerLoop_framed
    {reads : List (List UInt8)}
    (env : Env)
    (hReads : ∀ chunk ∈ reads,
      chunk ≠ [] ∧ chunk.length ≤ readerChunk) :
    ∃ front back, reads = front ++ back ∧
      (readerLoop env .noOps reads).Complete env ∧
      (readerLoop env .noOps reads).lines =
        Lines.terminated Text.lf front.flatten ∧
      (back = [] ∨ maxReaderBuffer <
        (Lines.fragment Text.lf front.flatten).length) ∧
      (∀ line ∈ Lines.terminated Text.lf front.flatten,
        line.length < maxReaderBuffer + readerChunk) ∧
      (readerLoop env .noOps reads).ended ≠
        some .panicked := by
  rcases framed_of_reads env hReads with
    ⟨front, back, hParts, hFramed, hBack, hShort⟩
  unfold readerLoop
  rw [List.foldl_append, List.foldl_cons, List.foldl_nil]
  generalize reads.foldl (readBytes env .noOps) .start = r
    at hFramed hBack ⊢
  refine ⟨front, back, hParts, ?_⟩
  unfold readBytes
  split
  · rename_i hEnded
    rcases hFramed.overflow hEnded with ⟨hEnd, hLong⟩
    refine ⟨hFramed.complete, hFramed.lines, Or.inr hLong,
      hShort, ?_⟩
    rw [hEnd]
    simp
  · rename_i hOpen
    rw [if_pos rfl]
    refine ⟨⟨hFramed.complete.recorded,
      hFramed.complete.routed⟩, hFramed.lines,
      Or.inl (hBack (not_not.mp hOpen)), hShort, ?_⟩
    simp

------------------------------------------------------------
-- Framing
------------------------------------------------------------

/- No line and no fragment of a stream is too long. -/
def IsShort (bytes : List UInt8) : Prop :=
  (∀ line ∈ Lines.terminated Text.lf bytes,
    line.length ≤ maxReaderBuffer) ∧
  (Lines.fragment Text.lf bytes).length ≤ maxReaderBuffer

instance (bytes : List UInt8) :
    Decidable (IsShort bytes) := by
  unfold IsShort
  infer_instance

/- A fragment that is too long stays too long. -/
theorem fragment_le_of_isShort
    {bytes more : List UInt8}
    (hShort : IsShort (bytes ++ more)) :
    (Lines.fragment Text.lf bytes).length ≤
      maxReaderBuffer := by
  rcases Lines.fragment_prefix_or Text.lf bytes more with
    ⟨line, hMem, hStart⟩ | hStart
  · exact Nat.le_trans hStart.length_le
      (hShort.1 line hMem)
  · exact Nat.le_trans hStart.length_le hShort.2

/- All lines of a short stream are cut off. -/
theorem lines_of_isShort
    {reads : List (List UInt8)}
    (env : Env)
    (hReads : ∀ chunk ∈ reads,
      chunk ≠ [] ∧ chunk.length ≤ readerChunk)
    (hShort : IsShort reads.flatten) :
    (readerLoop env .noOps reads).lines =
      Lines.terminated Text.lf reads.flatten := by
  rcases readerLoop_framed env hReads with
    ⟨front, back, rfl, -, hLines, hEnd, -, -⟩
  rcases hEnd with rfl | hLong
  · rw [List.append_nil] at hLines ⊢
    exact hLines
  · rw [List.flatten_append] at hShort
    exact absurd (fragment_le_of_isShort hShort)
      (Nat.not_le.mpr hLong)

/-
  With preview slices that do nothing, and for every way to
  cut a stream into reads: if no line and no fragment is
  longer than the limit, the texts of all lines and nothing
  else are processed; else the texts of the first lines, and
  none from the first line on that is as long as the limit
  and a read.
-/
theorem framing_independent
    (env : Env)
    (reads : List (List UInt8))
    (hReads : ∀ chunk ∈ reads,
      chunk ≠ [] ∧ chunk.length ≤ readerChunk) :
    (IsShort reads.flatten →
        (readerLoop env .noOps reads).recorded =
          texts (Lines.terminated Text.lf reads.flatten)) ∧
      (readerLoop env .noOps reads).recorded <+:
        texts (Lines.terminated Text.lf reads.flatten) ∧
      ∀ before line after,
        Lines.terminated Text.lf reads.flatten =
            before ++ line :: after →
          maxReaderBuffer + readerChunk ≤ line.length →
            (readerLoop env .noOps reads).recorded <+:
              texts before := by
  have hAll := lines_of_isShort env hReads
  rcases readerLoop_framed env hReads with
    ⟨front, back, rfl, hComplete, hLines, -, hShort, -⟩
  have hFirst :
      Lines.terminated Text.lf front.flatten <+:
        Lines.terminated Text.lf
          (front ++ back).flatten := by
    apply Lines.terminated_prefix
    rw [List.flatten_append]
    exact List.prefix_append _ _
  rw [hComplete.recorded]
  refine ⟨?_, ?_, ?_⟩
  · intro hFew
    rw [hAll hFew]
  · rcases hFirst with ⟨rest, hRest⟩
    rw [hLines, ← hRest, texts_append]
    exact List.prefix_append _ _
  · intro before line after hParts hLong
    have hNotMem :
        line ∉ Lines.terminated Text.lf front.flatten := by
      intro hMem
      exact absurd (hShort line hMem) (Nat.not_lt.mpr hLong)
    have hUpTo :
        before ++ [line] <+:
          Lines.terminated Text.lf
            (front ++ back).flatten := by
      rw [hParts]
      exact ⟨after, by simp⟩
    have hBefore :
        Lines.terminated Text.lf front.flatten <+:
          before := by
      rcases List.prefix_or_prefix_of_prefix hFirst hUpTo
        with hEarly | hLate
      · rcases List.prefix_concat_iff.mp hEarly with
          hWhole | hFew
        · exfalso
          apply hNotMem
          rw [hWhole]
          exact List.mem_append_right _ List.mem_cons_self
        · exact hFew
      · exfalso
        apply hNotMem
        apply hLate.subset
        exact List.mem_append_right _ List.mem_cons_self
    rcases hBefore with ⟨rest, hRest⟩
    rw [hLines, ← hRest, texts_append]
    exact List.prefix_append _ _

/- A library that knows the empty object, all levels on. -/
def emptyEnv : Env where
  serde := Serde.knowing [.object []]
  hooks := false
  warnLogged := true
  debugLogged := true

/- An empty object; a read ends between CR and LF. -/
def cutCrlf : List (List UInt8) :=
  [[123, 125, 13], [10, 65]]

theorem framing_independent_cutCrlf :
    (∀ chunk ∈ cutCrlf,
        chunk ≠ [] ∧ chunk.length ≤ readerChunk) ∧
      (readerLoop emptyEnv .noOps cutCrlf).recorded =
        ["\x7b\x7d"] := by
  have hReads : ∀ chunk ∈ cutCrlf,
      chunk ≠ [] ∧ chunk.length ≤ readerChunk := by
    decide
  refine ⟨hReads, ?_⟩
  rw [(framing_independent emptyEnv cutCrlf hReads).1
    (by decide)]
  decide +kernel

end Control

end SeestarProxy
