import SeestarProxy.Control.ReaderLoop
import SeestarProxy.Wireguard.DeviceInfo

/-
  What text of the telescope the proxy survives.

  The reader peeks at every line for its log, and a preview
  that cuts a character ends the task. The loop with these
  previews does what the loop without them does until the
  first line that does not fit, where it panics; so all
  lines are processed exactly when all fit.

  Main declarations:
    * `PreviewsFit` and `Panics`
    * `Agrees` and `agrees_of_reads`
    * `Survives` and `survives_iff`
    * `telescope_text_survived_iff`
-/

------------------------------------------------------------
-- Previews of a Line
------------------------------------------------------------

namespace SeestarProxy

namespace Control

open Library Protocol

variable {env : Env} {slices : Slices}
variable {r r' : ReaderLoop} {line : List UInt8}

/-
  No character of the line stretches across the end of a
  preview that is taken of it.
-/
def PreviewsFit (env : Env) (trimmed : String) : Prop :=
  let chars := trimmed.toList
  (20 < Text.byteLen chars →
    match Text.findFrom "\"method\"".toList chars with
    | some found => Text.Fits found 50
    | none =>
        match Text.findFrom "\"Event\"".toList chars with
        | some found => Text.Fits found 40
        | none => Text.Fits chars 60) ∧
  (env.warnLogged = true →
    env.serde.fromStr trimmed = none →
      Text.Fits chars 100)

/- Processing the line panics. -/
def Panics
    (env : Env)
    (slices : Slices)
    (line : List UInt8) : Prop :=
  ∃ recorded,
    lineFate env slices (lineText line) =
      .panicked recorded

theorem methodHint_isSome_iff (trimmed : String) :
    (methodHint trimmed).isNone = false ↔
      (20 < Text.byteLen trimmed.toList →
        match Text.findFrom "\"method\"".toList
            trimmed.toList with
        | some found => Text.Fits found 50
        | none =>
            match Text.findFrom "\"Event\"".toList
                trimmed.toList with
            | some found => Text.Fits found 40
            | none => Text.Fits trimmed.toList 60) := by
  rw [Option.isNone_eq_false_iff]
  unfold methodHint
  simp only
  split
  · rename_i hLong
    rw [forall_prop_of_true hLong]
    cases Text.findFrom "\"method\"".toList
        trimmed.toList with
    | some found => exact Text.preview_isSome_iff
    | none =>
        cases Text.findFrom "\"Event\"".toList
            trimmed.toList with
        | some found => exact Text.preview_isSome_iff
        | none => exact Text.preview_isSome_iff
  · rename_i hShort
    exact iff_of_true rfl fun hLong => absurd hLong hShort

/- The slices of the source panic on lines that do not fit. -/
theorem not_panics_iff :
    ¬ Panics env (.taken env) line ↔
      lineText line = "" ∨
        PreviewsFit env (lineText line) := by
  unfold Panics PreviewsFit lineFate Slices.taken
  simp only
  rw [← methodHint_isSome_iff]
  by_cases hBlank : lineText line = ""
  · simp [hBlank]
  · simp only [hBlank, if_false, false_or]
    cases hHint : (methodHint (lineText line)).isNone with
    | true => simp
    | false =>
        simp only [Bool.false_eq_true, if_false, true_and]
        cases hJson :
            env.serde.fromStr (lineText line) with
        | some msg => simp
        | none =>
            simp only [forall_const]
            split
            · rename_i hInvalid
              rcases previewPanics_iff.mp hInvalid with
                ⟨hLogged, hNot⟩
              simp [hLogged, hNot]
            · rename_i hInvalid
              rw [previewPanics_iff, not_and,
                not_not] at hInvalid
              simpa using hInvalid

/- Slices that do nothing never panic. -/
theorem not_panics_noOps :
    ¬ Panics env .noOps line := by
  rintro ⟨recorded, hFate⟩
  unfold lineFate Slices.noOps at hFate
  simp only [Bool.false_eq_true, if_false] at hFate
  split at hFate
  · cases hFate
  · split at hFate <;> cases hFate

/- Where nothing panics the slices make no difference. -/
theorem lineFate_eq
    (hSafe : ¬ Panics env slices line) :
    lineFate env slices (lineText line) =
      lineFate env .noOps (lineText line) := by
  unfold Panics at hSafe
  rw [not_exists] at hSafe
  unfold lineFate Slices.noOps at *
  simp only [Bool.false_eq_true, if_false]
  by_cases hBlank : lineText line = ""
  · simp [hBlank]
  · simp only [if_neg hBlank] at hSafe ⊢
    by_cases hHint : slices.hint (lineText line) = true
    · have hNot := hSafe false
      simp [hHint] at hNot
    · simp only [if_neg hHint] at hSafe ⊢
      cases hJson : env.serde.fromStr (lineText line) with
      | some msg => rfl
      | none =>
          simp only [hJson] at hSafe ⊢
          by_cases hInvalid :
              slices.invalid (lineText line) = true
          · have hNot := hSafe true
            simp [hInvalid] at hNot
          · simp [hInvalid]

------------------------------------------------------------
-- The Two Loops
------------------------------------------------------------

/- No line that was cut off panics. -/
def ReaderLoop.Safe
    (env : Env)
    (slices : Slices)
    (r : ReaderLoop) : Prop :=
  ∀ line ∈ r.lines, ¬ Panics env slices line

/-
  A loop and the loop without previews: both are the same
  and no line panics, or the first has panicked on a line.
-/
def Agrees
    (env : Env)
    (slices : Slices)
    (r r' : ReaderLoop) : Prop :=
  (r = r' ∧ r'.Safe env slices) ∨
    (r.ended = some .panicked ∧ ¬ r'.Safe env slices)

theorem lines_processLine :
    (processLine env slices r line).lines =
      r.lines ++ [line] := by
  unfold processLine
  simp only
  cases lineFate env slices (lineText line) with
  | _ => rfl

theorem ended_processLine
    (hPanics : Panics env slices line) :
    (processLine env slices r line).ended =
      some .panicked := by
  rcases hPanics with ⟨recorded, hFate⟩
  unfold processLine
  simp only [hFate]

theorem processLine_eq
    (hSafe : ¬ Panics env slices line) :
    processLine env slices r line =
      processLine env .noOps r line := by
  unfold processLine
  simp only [lineFate_eq hSafe]

theorem ended_processLine_noOps :
    (processLine env .noOps r line).ended = r.ended := by
  have hNot : ¬ Panics env .noOps line := not_panics_noOps
  unfold processLine
  simp only
  cases hFate : lineFate env .noOps (lineText line) with
  | panicked recorded => exact absurd ⟨recorded, hFate⟩ hNot
  | _ => rfl

/- Lines that were cut off stay. -/
theorem lines_takeLines
    (rounds : Nat) :
    r.lines <+: (takeLines env slices rounds r).lines := by
  induction rounds generalizing r with
  | zero => exact List.prefix_rfl
  | succ rounds ih =>
      rw [takeLines]
      split
      · exact List.prefix_rfl
      · rename_i line rest hCut
        have hOne :
            r.lines <+:
              (processLine env slices
                { r with buf := rest } line).lines := by
          rw [lines_processLine]
          exact List.prefix_append _ _
        simp only
        split
        · exact hOne.trans ih
        · exact hOne

theorem lines_readBytes
    (chunk : List UInt8) :
    r.lines <+: (readBytes env slices r chunk).lines := by
  unfold readBytes
  split
  · exact List.prefix_rfl
  · split
    · exact List.prefix_rfl
    · have hTaken :
          r.lines <+:
            (takeLines env slices (r.buf ++ chunk).length
              { r with buf := r.buf ++ chunk }).lines :=
        lines_takeLines (r := { r with
          buf := r.buf ++ chunk }) _
      simp only
      split
      · exact hTaken
      · exact hTaken

theorem not_safe_of_prefix
    (hPrefix : r.lines <+: r'.lines)
    (hUnsafe : ¬ r.Safe env slices) :
    ¬ r'.Safe env slices := by
  intro hSafe
  apply hUnsafe
  intro line hMem
  exact hSafe line (hPrefix.subset hMem)

/- The while loops agree, line by line. -/
theorem agrees_takeLines
    (rounds : Nat)
    (hOpen : r.ended = none)
    (hSafe : r.Safe env slices) :
    Agrees env slices (takeLines env slices rounds r)
      (takeLines env .noOps rounds r) := by
  induction rounds generalizing r with
  | zero => exact Or.inl ⟨rfl, hSafe⟩
  | succ rounds ih =>
      rw [takeLines, takeLines]
      cases hCut : cutLine r.buf with
      | none => exact Or.inl ⟨rfl, hSafe⟩
      | some cut =>
          rcases cut with ⟨line, rest⟩
          have hPlain :
              (processLine env .noOps
                { r with buf := rest } line).ended =
                  none := by
            rw [ended_processLine_noOps]
            exact hOpen
          simp only [if_pos hPlain]
          by_cases hPanics : Panics env slices line
          · right
            have hEnded := ended_processLine
              (r := { r with buf := rest }) hPanics
            rw [if_neg (by rw [hEnded]; simp)]
            refine ⟨hEnded, ?_⟩
            apply not_safe_of_prefix (lines_takeLines rounds)
            intro hAll
            apply hAll line _ hPanics
            rw [lines_processLine]
            exact List.mem_append_right _ List.mem_cons_self
          · rw [processLine_eq hPanics, if_pos hPlain]
            apply ih hPlain
            intro other hMem
            rw [lines_processLine] at hMem
            rcases List.mem_append.mp hMem with hOld | hNew
            · exact hSafe other hOld
            · rw [List.mem_singleton.mp hNew]
              exact hPanics

theorem agrees_readBytes
    (chunk : List UInt8)
    (hAgrees : Agrees env slices r r') :
    Agrees env slices (readBytes env slices r chunk)
      (readBytes env .noOps r' chunk) := by
  rcases hAgrees with ⟨rfl, hSafe⟩ | ⟨hEnded, hUnsafe⟩
  · unfold readBytes
    split
    · exact Or.inl ⟨rfl, hSafe⟩
    · rename_i hOpen
      split
      · exact Or.inl ⟨rfl, hSafe⟩
      · have hTaken := agrees_takeLines
          (r := { r with buf := r.buf ++ chunk })
          (r.buf ++ chunk).length (not_not.mp hOpen) hSafe
        simp only
        rcases hTaken with ⟨hSame, hAll⟩ | ⟨hEnded, hNot⟩
        · rw [hSame]
          left
          split
          · exact ⟨rfl, hAll⟩
          · exact ⟨rfl, hAll⟩
        · right
          rw [if_neg (by rw [hEnded]; simp)]
          refine ⟨hEnded, ?_⟩
          split
          · exact hNot
          · exact hNot
  · right
    have hStays : readBytes env slices r chunk = r := by
      unfold readBytes
      rw [if_pos (by rw [hEnded]; simp)]
    rw [hStays]
    exact ⟨hEnded,
      not_safe_of_prefix (lines_readBytes chunk) hUnsafe⟩

/- Over any reads the two loops agree. -/
theorem agrees_of_reads
    (env : Env)
    (slices : Slices)
    (reads : List (List UInt8)) :
    Agrees env slices
      (reads.foldl (readBytes env slices) .start)
      (reads.foldl (readBytes env .noOps) .start) := by
  induction reads using List.reverseRecOn with
  | nil =>
      left
      refine ⟨rfl, ?_⟩
      intro line hMem
      cases hMem
  | append_singleton reads chunk ih =>
      rw [List.foldl_append, List.foldl_append]
      exact agrees_readBytes chunk ih

------------------------------------------------------------
-- Surviving
------------------------------------------------------------

/-
  The lines that the framing of the reader cuts off the
  stream of a connection.
-/
def framed
    (env : Env)
    (reads : List (List UInt8)) : List (List UInt8) :=
  (readerLoop env .noOps reads).lines

/-
  Every line that is not blank reaches the recorder and, if
  it is JSON, the routing decision; the task does not panic.
-/
structure Survives
    (env : Env)
    (reads : List (List UInt8)) : Prop where
  recorded : (readerLoop env (.taken env) reads).recorded =
    texts (framed env reads)
  routed : (readerLoop env (.taken env) reads).routed =
    (texts (framed env reads)).filter (isJson env)
  noPanic : (readerLoop env (.taken env) reads).ended ≠
    some .panicked

/- Without previews all lines are processed. -/
theorem complete_noOps
    (env : Env)
    (reads : List (List UInt8)) :
    (reads.foldl (readBytes env .noOps) .start).Complete
        env ∧
      (reads.foldl (readBytes env .noOps) .start).ended ≠
        some .panicked := by
  induction reads using List.reverseRecOn with
  | nil => exact ⟨⟨rfl, rfl⟩, by simp [ReaderLoop.start]⟩
  | append_singleton reads chunk ih =>
      rw [List.foldl_append, List.foldl_cons, List.foldl_nil]
      generalize
        reads.foldl (readBytes env .noOps) .start = r
        at ih ⊢
      rcases ih with ⟨hComplete, hEnded⟩
      unfold readBytes
      split
      · exact ⟨hComplete, hEnded⟩
      · rename_i hOpen
        split
        · exact ⟨⟨hComplete.recorded, hComplete.routed⟩,
            by simp⟩
        · have hFates : ∀ line ∈
                Lines.terminated Text.lf (r.buf ++ chunk),
              ∀ recorded,
                lineFate env .noOps (lineText line) ≠
                  .panicked recorded :=
            fun line _ recorded hFate =>
              not_panics_noOps ⟨recorded, hFate⟩
          rcases takeLines_complete
              (r := { r with buf := r.buf ++ chunk })
              (Nat.le_refl _) hFates
              ⟨hComplete.recorded, hComplete.routed⟩
              (not_not.mp hOpen) with ⟨hDone, -, -, hNone⟩
          simp only
          split
          · exact ⟨⟨hDone.recorded, hDone.routed⟩, by simp⟩
          · refine ⟨hDone, ?_⟩
            rw [hNone]
            simp

/- The reader survives exactly the lines that fit. -/
theorem survives_iff
    (env : Env)
    (reads : List (List UInt8)) :
    Survives env reads ↔
      ∀ text ∈ texts (framed env reads),
        PreviewsFit env text := by
  have hFits :
      (readerLoop env .noOps reads).Safe env (.taken env) ↔
        ∀ text ∈ texts (framed env reads),
          PreviewsFit env text := by
    unfold ReaderLoop.Safe framed texts
    constructor
    · intro hSafe text hMem
      rcases List.mem_filter.mp hMem with ⟨hText, hSome⟩
      rcases List.mem_map.mp hText with ⟨line, hLine, rfl⟩
      rcases not_panics_iff.mp (hSafe line hLine) with
        hBlank | hFit
      · simp [hBlank] at hSome
      · exact hFit
    · intro hAll line hLine
      rw [not_panics_iff]
      by_cases hBlank : lineText line = ""
      · exact Or.inl hBlank
      · right
        apply hAll
        rw [List.mem_filter]
        exact ⟨List.mem_map_of_mem hLine, by simpa⟩
  rw [← hFits]
  rcases agrees_of_reads env (.taken env) (reads ++ [[]])
    with ⟨hSame, hSafe⟩ | ⟨hEnded, hUnsafe⟩
  · refine iff_of_true ?_ hSafe
    rcases complete_noOps env (reads ++ [[]]) with
      ⟨hComplete, hEnd⟩
    rw [← hSame] at hComplete hEnd
    have hLines :
        (readerLoop env (.taken env) reads).lines =
          framed env reads :=
      congrArg ReaderLoop.lines hSame
    refine ⟨?_, ?_, hEnd⟩
    · rw [← hLines]
      exact hComplete.recorded
    · rw [← hLines]
      exact hComplete.routed
  · exact iff_of_false
      (fun hSurvives => hSurvives.noPanic hEnded) hUnsafe

/-
  The reader survives a stream exactly when all its lines
  fit, which are all lines of a stream without too long
  ones; the startup of the tunnel survives exactly when the
  first datagram of the telescope fits.
-/
theorem telescope_text_survived_iff
    (env : Env)
    (reads : List (List UInt8))
    (serde : Serde)
    (infoLogged : Bool)
    (upstreamIp : Discovery.IpAddr)
    (probe : Wireguard.DeviceProbe) :
    (Survives env reads ↔
        ∀ text ∈ texts (framed env reads),
          PreviewsFit env text) ∧
      ((∀ chunk ∈ reads,
          chunk ≠ [] ∧ chunk.length ≤ readerChunk) →
        IsShort reads.flatten →
          framed env reads =
            Lines.terminated Text.lf reads.flatten) ∧
      ((Wireguard.fetchDeviceInfo serde infoLogged
          upstreamIp probe).isSome = true ↔
        (infoLogged = true → ∀ response,
          Wireguard.nativeResponse upstreamIp probe =
              some response →
            Text.Fits response.toList 200)) :=
  ⟨survives_iff env reads,
    fun hReads hShort =>
      lines_of_isShort env hReads hShort,
    Wireguard.fetchDeviceInfo_isSome_iff serde infoLogged
      upstreamIp probe⟩

/- A view of the Rosette nebula, under its Chinese name. -/
def viewEvent : Value :=
  .ofMembers [("Event", .string "View"),
    ("target_name", .string "玫瑰星云")]

def viewEnv : Env where
  serde := Serde.knowing [viewEvent]
  hooks := false
  warnLogged := true
  debugLogged := false

/- A reply with 199 bytes before a character of two. -/
def longReply : Wireguard.DeviceProbe where
  datagrams :=
    [(⟨.v4 (ipv4Addr 10 0 0 1), Discovery.discoveryPort⟩,
      List.replicate 199 97 ++ [0xC3, 0xA9])]
  tcpLine := none

/-
  The preview of the event ends inside the last character of
  the name: the event is lost and the reader is gone. The
  reply stops the startup.
-/
theorem telescope_text_crashes :
    texts (framed viewEnv
        [lineBytes (viewEnv.serde.toStrOrDefault
          viewEvent)]) =
        [viewEnv.serde.toStrOrDefault viewEvent] ∧
      (readerLoop viewEnv (.taken viewEnv)
        [lineBytes (viewEnv.serde.toStrOrDefault
          viewEvent)]).recorded = [] ∧
      ¬ Survives viewEnv
        [lineBytes (viewEnv.serde.toStrOrDefault
          viewEvent)] ∧
      Wireguard.fetchDeviceInfo viewEnv.serde true
        (.v4 #v[10, 0, 0, 1]) longReply = none := by
  refine ⟨by decide +kernel, by decide +kernel, ?_,
    by decide +kernel⟩
  intro hSurvives
  exact hSurvives.noPanic (by decide +kernel)

end Control

end SeestarProxy
