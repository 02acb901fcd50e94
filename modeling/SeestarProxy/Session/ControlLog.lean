import SeestarProxy.Library.Machine
import SeestarProxy.Session.ControlFile

/-
  Control messages recorded by concurrent tasks.

  Any number of client handlers and the telescope reader
  record messages at the same time. A call prints its line,
  takes the lock of the control file, and writes the line
  and the line feed before it releases the lock. The file
  ends up as if the calls were made one after the other, in
  the order in which they took the lock.

  Main declarations:
    * `Log`, `LogEvent` and `controlLog`
    * `LogOk` and `logOk_of_run`
    * `recorder_of_run`
    * `control_round_trip`
-/

------------------------------------------------------------
-- The File Lock
------------------------------------------------------------

namespace SeestarProxy

namespace Session

open Library

/- What the call that holds the file lock does next. -/
inductive Holder where
| free
| writing (line : ControlLine) (json : String)
| ending (line : ControlLine) (json : String)
| flushing (line : ControlLine)
deriving DecidableEq

/-
  A recorder with its calls: those that wait for the file
  lock, each with its printed line, and the one that has it.
-/
structure Log where
  recorder : Recorder
  waiting : List (ControlLine × String)
  holder : Holder

/-
  The steps of `record_control`. Any waiting call may be the
  next one to take the lock.
-/
inductive LogEvent where
| call (line : ControlLine)
| lock (k : Nat)
| writeLine
| writeFeed
| unlock
deriving DecidableEq

/- What a step shows. -/
inductive LogObs where
| called (line : ControlLine)
| locked (line : ControlLine)
deriving DecidableEq

/- Write to the control file. -/
def Log.append (s : Log) (text : String) : Recorder :=
  { s.recorder with
    controlFile := s.recorder.controlFile ++ text }

def logStep
    (serde : SessionSerde)
    (s : Log) : LogEvent → Option (Log × List LogObs)
| .call line =>
    some ({ s with
      recorder := { s.recorder with
        messageCount := s.recorder.messageCount + 1 }
      waiting :=
        match serde.lineToStr line with
        | none => s.waiting
        | some json => s.waiting ++ [(line, json)] },
      [.called line])
| .lock k =>
    match s.holder, s.waiting[k]? with
    | .free, some (line, json) =>
        some ({ s with
          waiting := s.waiting.eraseIdx k
          holder := .writing line json }, [.locked line])
    | _, _ => none
| .writeLine =>
    match s.holder with
    | .writing line json =>
        some ({ s with
          recorder := s.append json
          holder := .ending line json }, [])
    | _ => none
| .writeFeed =>
    match s.holder with
    | .ending line _ =>
        some ({ s with
          recorder := s.append "\n"
          holder := .flushing line }, [])
    | _ => none
| .unlock =>
    match s.holder with
    | .flushing _ => some ({ s with holder := .free }, [])
    | _ => none

/- Recording in a directory, from a new recorder on. -/
def controlLog
    (serde : SessionSerde)
    (dir : SessionDir) : Machine Log LogEvent LogObs where
  init := ⟨Recorder.new dir, [], .free⟩
  step := logStep serde

/- All calls have returned. -/
def Log.Finished (s : Log) : Prop :=
  s.waiting = [] ∧ s.holder = .free

/- The messages recorded, in the order of the calls. -/
def calledLines (h : List LogObs) : List ControlLine :=
  h.filterMap fun
    | .called line => some line
    | .locked _ => none

/- The messages recorded, in the order of the lock. -/
def lockedLines (h : List LogObs) : List ControlLine :=
  h.filterMap fun
    | .called _ => none
    | .locked line => some line

------------------------------------------------------------
-- What the Control File Holds
------------------------------------------------------------

variable {serde : SessionSerde} {dir : SessionDir}
variable {h o : List LogObs} {s s' : Log} {e : LogEvent}
variable {locked : List ControlLine} {file : String}

/-
  What is in the file when some calls have taken the lock:
  all their lines, up to what the last one has not written.
-/
def FileOk
    (serde : SessionSerde)
    (locked : List ControlLine)
    (file : String) : Holder → Prop
| .free => file = controlFileOf serde locked
| .writing line json =>
    serde.lineToStr line = some json ∧
      ∃ written, locked = written ++ [line] ∧
        file = controlFileOf serde written
| .ending line json =>
    serde.lineToStr line = some json ∧
      ∃ written, locked = written ++ [line] ∧
        file = controlFileOf serde written ++ json
| .flushing _ => file = controlFileOf serde locked

/-
  Each call waits or has taken the lock, the file holds the
  lines of the latter, and the recorder is otherwise new.
-/
structure LogOk
    (serde : SessionSerde)
    (dir : SessionDir)
    (h : List LogObs)
    (s : Log) : Prop where
  calls : (lockedLines h ++ s.waiting.map Prod.fst).Perm
    (calledLines h)
  printed : ∀ call ∈ s.waiting,
    serde.lineToStr call.1 = some call.2
  file : FileOk serde (lockedLines h)
    s.recorder.controlFile s.holder
  recorder : s.recorder =
    { Recorder.new dir with
      controlFile := s.recorder.controlFile
      messageCount := UInt32.ofNat (calledLines h).length }

theorem logOk_init :
    LogOk serde dir [] (controlLog serde dir).init where
  calls := List.Perm.refl _
  printed := by
    intro call hMem
    cases hMem
  file := rfl
  recorder := rfl

/- A step that shows nothing and leaves the calls alone. -/
private theorem LogOk.of_write
    (hLog : LogOk serde dir h s)
    (hWaiting : s'.waiting = s.waiting)
    (hRecorder : s'.recorder =
      { s.recorder with
        controlFile := s'.recorder.controlFile })
    (hFile : FileOk serde (lockedLines h)
      s'.recorder.controlFile s'.holder) :
    LogOk serde dir (h ++ []) s' := by
  rw [List.append_nil]
  refine ⟨?_, ?_, hFile, ?_⟩
  · rw [hWaiting]
    exact hLog.calls
  · rw [hWaiting]
    exact hLog.printed
  · rw [hRecorder, hLog.recorder]

/- A new call waits for the lock. -/
private theorem LogOk.call
    (hSerde : serde.Lawful)
    (hLog : LogOk serde dir h s)
    (line : ControlLine) :
    ∀ s' o, logStep serde s (.call line) = some (s', o) →
      LogOk serde dir (h ++ o) s' := by
  rintro s' o ⟨⟩
  rcases hSerde.prints line with ⟨json, hPrint⟩
  have hLocked :
      lockedLines (h ++ [.called line]) = lockedLines h := by
    simp [lockedLines]
  have hCalled :
      calledLines (h ++ [.called line]) =
        calledLines h ++ [line] := by
    simp [calledLines]
  refine ⟨?_, ?_, ?_, ?_⟩
  · rw [hLocked, hCalled]
    simp only [hPrint]
    rw [List.map_append, ← List.append_assoc]
    exact hLog.calls.append_right [line]
  · intro call hMem
    simp only [hPrint] at hMem
    rcases List.mem_append.mp hMem with hOld | hNew
    · exact hLog.printed call hOld
    · rw [List.mem_singleton.mp hNew]
      exact hPrint
  · rw [hLocked]
    exact hLog.file
  · rw [hCalled, List.length_append, List.length_singleton,
      UInt32.ofNat_add]
    simp only
    rw [hLog.recorder]
    rfl

/- A waiting call takes the lock. -/
private theorem LogOk.lock
    (hLog : LogOk serde dir h s)
    (k : Nat) :
    ∀ s' o, logStep serde s (.lock k) = some (s', o) →
      LogOk serde dir (h ++ o) s' := by
  intro s' o hStep
  simp only [logStep] at hStep
  split at hStep
  case h_2 => cases hStep
  case h_1 line json hFree hCall =>
    cases hStep
    rcases List.getElem?_eq_some_iff.mp hCall with
      ⟨hBound, hGet⟩
    have hLocked :
        lockedLines (h ++ [.locked line]) =
          lockedLines h ++ [line] := by
      simp [lockedLines]
    have hCalled :
        calledLines (h ++ [.locked line]) =
          calledLines h := by
      simp [calledLines]
    have hFile := hLog.file
    rw [hFree] at hFile
    refine ⟨?_, ?_, ?_, ?_⟩
    · rw [hLocked, hCalled, List.append_assoc]
      refine List.Perm.trans ?_ hLog.calls
      apply List.Perm.append_left
      have hTaken :=
        List.getElem_cons_eraseIdx_perm hBound
      rw [hGet] at hTaken
      exact hTaken.map Prod.fst
    · intro call hMem
      exact hLog.printed call
        ((List.eraseIdx_sublist _ k).subset hMem)
    · refine ⟨?_, lockedLines h, hLocked, hFile⟩
      exact hLog.printed (line, json)
        (List.mem_of_getElem? hCall)
    · rw [hCalled]
      exact hLog.recorder

theorem LogOk.step
    (hSerde : serde.Lawful)
    (hLog : LogOk serde dir h s)
    (hStep : logStep serde s e = some (s', o)) :
    LogOk serde dir (h ++ o) s' := by
  have hFile := hLog.file
  cases e with
  | call line => exact hLog.call hSerde line s' o hStep
  | lock k => exact hLog.lock k s' o hStep
  | writeLine =>
      cases hHolder : s.holder with
      | writing line json =>
          simp only [logStep, hHolder, Option.some.injEq,
            Prod.mk.injEq] at hStep
          rcases hStep with ⟨rfl, rfl⟩
          rw [hHolder] at hFile
          rcases hFile with ⟨hPrint, written, hLocked, hText⟩
          refine hLog.of_write rfl rfl ⟨hPrint, written,
            hLocked, ?_⟩
          rw [← hText]
          rfl
      | _ => simp [logStep, hHolder] at hStep
  | writeFeed =>
      cases hHolder : s.holder with
      | ending line json =>
          simp only [logStep, hHolder, Option.some.injEq,
            Prod.mk.injEq] at hStep
          rcases hStep with ⟨rfl, rfl⟩
          rw [hHolder] at hFile
          rcases hFile with ⟨hPrint, written, hLocked, hText⟩
          refine hLog.of_write rfl rfl ?_
          change s.recorder.controlFile ++ "\n" =
            controlFileOf serde (lockedLines h)
          rw [hText, hLocked, controlFileOf_snoc,
            String.append_assoc]
          unfold Recorder.controlText
          rw [hPrint]
      | _ => simp [logStep, hHolder] at hStep
  | unlock =>
      cases hHolder : s.holder with
      | flushing line =>
          simp only [logStep, hHolder, Option.some.injEq,
            Prod.mk.injEq] at hStep
          rcases hStep with ⟨rfl, rfl⟩
          rw [hHolder] at hFile
          exact hLog.of_write rfl rfl hFile
      | _ => simp [logStep, hHolder] at hStep

theorem logOk_of_run
    {es : List LogEvent}
    (hSerde : serde.Lawful)
    (hRun : (controlLog serde dir).Run es h s) :
    LogOk serde dir h s := by
  refine Machine.run_invariant
    (motive := fun h s => LogOk serde dir h s)
    logOk_init ?_ hRun
  intro h s e s' o hLog hStep
  exact hLog.step hSerde hStep

------------------------------------------------------------
-- Finished Recordings
------------------------------------------------------------

/- The calls one after the other, in one task. -/
def recordLines
    (serde : SessionSerde)
    (r : Recorder)
    (lines : List ControlLine) : Recorder :=
  lines.foldl (fun r line => r.recordControl serde line) r

theorem recordLines_new
    (serde : SessionSerde)
    (dir : SessionDir)
    (lines : List ControlLine) :
    recordLines serde (Recorder.new dir) lines =
      { Recorder.new dir with
        controlFile := controlFileOf serde lines
        messageCount := UInt32.ofNat lines.length } := by
  induction lines using List.reverseRecOn with
  | nil => rfl
  | append_singleton lines line ih =>
      unfold recordLines at ih ⊢
      rw [List.foldl_append, ih, controlFileOf_snoc,
        List.length_append, List.length_singleton,
        UInt32.ofNat_add]
      rfl

/-
  When all calls have returned, the recorder is the one that
  a single task leaves that makes the calls in the order of
  the lock, and every call took the lock once.
-/
theorem recorder_of_run
    {es : List LogEvent}
    (hSerde : serde.Lawful)
    (hRun : (controlLog serde dir).Run es h s)
    (hFinished : s.Finished) :
    (lockedLines h).Perm (calledLines h) ∧
      s.recorder = recordLines serde (Recorder.new dir)
        (lockedLines h) := by
  have hLog := logOk_of_run hSerde hRun
  rcases hFinished with ⟨hWaiting, hFree⟩
  have hCalls := hLog.calls
  have hFile := hLog.file
  rw [hWaiting, List.map_nil, List.append_nil] at hCalls
  rw [hFree] at hFile
  refine ⟨hCalls, ?_⟩
  have hText : s.recorder.controlFile =
      controlFileOf serde (lockedLines h) := hFile
  rw [recordLines_new, hLog.recorder, hText,
    hCalls.length_eq]

/- A recorder of control messages only. -/
def controlRecording
    (lines : List ControlLine)
    (captureDate : String)
    (durationSeconds : F64) : Recording where
  calls := lines.map .control
  captureDate := captureDate
  durationSeconds := durationSeconds

theorem controlLines_controlRecording
    (lines : List ControlLine)
    (captureDate : String)
    (durationSeconds : F64) :
    controlLines (controlRecording lines captureDate
      durationSeconds).calls = lines := by
  unfold controlLines controlRecording
  rw [List.filterMap_map]
  exact List.filterMap_some

/-
  Whatever tasks record at the same time, once all calls
  have returned and the session is finalized, loading it
  gives the messages of the telescope, each once and in the
  order of the lock, and the replay broadcasts them so.
-/
theorem control_round_trip
    {es : List LogEvent}
    (hSerde : serde.Lawful)
    (hRun : (controlLog serde dir).Run es h s)
    (hFinished : s.Finished)
    (captureDate : String)
    (durationSeconds : F64)
    (handshakeDone : Bool) :
    ∃ replay,
      ReplaySession.load serde
          (s.recorder.finalize serde captureDate
            durationSeconds).dir =
        .ok replay ∧
      (lockedLines h).Perm (calledLines h) ∧
      replay.controlMessages.map ControlEntry.raw =
        telescopeRaws (lockedLines h) ∧
      (replayControl replay.controlMessages
          handshakeDone).1 =
        telescopeRaws (lockedLines h) := by
  rcases recorder_of_run hSerde hRun hFinished with
    ⟨hPerm, hRecorder⟩
  have hSession :
      (s.recorder.finalize serde captureDate
          durationSeconds).dir =
        recordSession serde dir
          (controlRecording (lockedLines h) captureDate
            durationSeconds) := by
    unfold recordSession controlRecording
    rw [hRecorder, List.foldl_map]
    rfl
  have hFinal := finalized_recordSession hSerde.manifest dir
    (controlRecording (lockedLines h) captureDate
      durationSeconds)
  rcases hFinal.load with ⟨replay, hLoad, hControl, -⟩
  have hRaws :
      replay.controlMessages.map ControlEntry.raw =
        telescopeRaws (lockedLines h) := by
    rw [hControl, controlLines_controlRecording]
    exact loadControl_controlFileOf hSerde _
  refine ⟨replay, ?_, hPerm, hRaws, ?_⟩
  · rw [hSession]
    exact hLoad
  · rw [replayControl_fst]
    exact hRaws

/-
  The telescope and a client record at the same time; the
  telescope's call is the second to take the lock.
-/
def twoTasks : List LogEvent :=
  [.call ⟨F64.zero, "telescope", "a\n\"b"⟩,
    .call ⟨F64.zero, "client", "c"⟩,
    .lock 1, .writeLine, .writeFeed, .unlock,
    .lock 0, .writeLine, .writeFeed, .unlock]

theorem control_round_trip_twoTasks :
    ∃ h s replay,
      (controlLog plainSerde SessionDir.fresh).Run
        twoTasks h s ∧
      ReplaySession.load plainSerde
          (s.recorder.finalize plainSerde "" F64.zero).dir =
        .ok replay ∧
      replay.controlMessages.map ControlEntry.raw =
        telescopeRaws (lockedLines h) ∧
      telescopeRaws (lockedLines h) = ["a\n\"b"] := by
  have hRun :
      (controlLog plainSerde SessionDir.fresh).Run twoTasks
        _ _ :=
    Machine.run_outcome (by decide +kernel)
  rcases control_round_trip plainSerde_lawful hRun
      ⟨by decide +kernel, by decide +kernel⟩ "" F64.zero
      false with
    ⟨replay, hLoad, -, hRaws, -⟩
  exact ⟨_, _, replay, hRun, hLoad, hRaws,
    by decide +kernel⟩

end Session

end SeestarProxy
