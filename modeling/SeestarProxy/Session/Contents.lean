import SeestarProxy.Session.Names

/-
  What a recording session leaves in its directory.

  The control file holds the lines of the session's control
  messages, and the frame files are those that were there
  before with the session's own put over them. The index of
  a frame is its place among the images, counted modulo
  2 ^ 32.

  Main declarations:
    * `imageFrames`, `controlLines` and `frameWrites`
    * `putAll` and `lookup_putAll_of_mem`
    * `finalized_recordSession` and `Finalized.load`
-/

------------------------------------------------------------
-- Files Put One After the Other
------------------------------------------------------------

namespace SeestarProxy

namespace Session

open Imaging (Bytes HeaderBuf)
open Library Protocol

variable {files : FrameFiles} {name : String}
variable {writes : List (String × Bytes)}

/- Write files, the later ones over the earlier ones. -/
def putAll
    (files : FrameFiles)
    (writes : List (String × Bytes)) : FrameFiles :=
  writes.foldl
    (fun files write => files.insert write.1 (some write.2))
    files

theorem putAll_snoc
    (files : FrameFiles)
    (writes : List (String × Bytes))
    (write : String × Bytes) :
    putAll files (writes ++ [write]) =
      (putAll files writes).insert write.1
        (some write.2) := by
  unfold putAll
  rw [List.foldl_append]
  rfl

/- The names are those from before and those written. -/
theorem mem_putAll_iff :
    name ∈ putAll files writes ↔
      name ∈ files ∨ name ∈ writes.map Prod.fst := by
  induction writes using List.reverseRecOn with
  | nil => simp [putAll]
  | append_singleton writes write ih =>
      rw [putAll_snoc, AList.mem_insert, ih, List.map_append,
        List.mem_append, List.map_singleton,
        List.mem_singleton]
      tauto

/- What is written holds something that was written there. -/
theorem lookup_putAll_of_mem
    (hName : name ∈ writes.map Prod.fst) :
    ∃ bytes, (name, bytes) ∈ writes ∧
      (putAll files writes).lookup name =
        some (some bytes) := by
  induction writes using List.reverseRecOn with
  | nil => cases hName
  | append_singleton writes write ih =>
      rw [putAll_snoc]
      by_cases hLast : name = write.1
      · subst hLast
        refine ⟨write.2, ?_, ?_⟩
        · apply List.mem_append_right
          exact List.mem_singleton_self _
        · exact AList.lookup_insert _
      · rw [List.map_append, List.mem_append,
          List.map_singleton, List.mem_singleton] at hName
        rcases ih (hName.resolve_right hLast) with
          ⟨bytes, hMem, hLookup⟩
        refine ⟨bytes, List.mem_append_left _ hMem, ?_⟩
        rw [AList.lookup_insert_ne hLast, hLookup]

------------------------------------------------------------
-- The Calls of a Session
------------------------------------------------------------

/- An image frame: its header and its payload. -/
abbrev ImageFrame := HeaderBuf × Bytes

/- The frame as it is sent and recorded. -/
def frameBytes (frame : ImageFrame) : Bytes :=
  frame.1.toList ++ frame.2

/- The kind as which a frame is recorded. -/
def frameKind (frame : ImageFrame) : Kind :=
  Recorder.kindOf (FrameHeader.parse frame.1)

/- The image frame of a call, if it is one. -/
def Call.image? : Call → Option ImageFrame
| .frame header payload =>
    if (FrameHeader.parse header).isImage then
      some (header, payload)
    else
      none
| .control _ => none

def Call.line? : Call → Option ControlLine
| .control line => some line
| .frame _ _ => none

/- The image frames among some calls, in order. -/
def imageFrames (calls : List Call) : List ImageFrame :=
  calls.filterMap Call.image?

/- The control messages among some calls, in order. -/
def controlLines (calls : List Call) : List ControlLine :=
  calls.filterMap Call.line?

/- The file that the image frame at a place is written to. -/
def frameWrite (place : ImageFrame × Nat) :
    String × Bytes :=
  (frameName (UInt32.ofNat place.2) (frameKind place.1),
    frameBytes place.1)

/- The files that some image frames are written to. -/
def frameWrites (images : List ImageFrame) :
    List (String × Bytes) :=
  images.zipIdx.map frameWrite

theorem frameWrites_snoc
    (images : List ImageFrame)
    (frame : ImageFrame) :
    frameWrites (images ++ [frame]) =
      frameWrites images ++
        [frameWrite (frame, images.length)] := by
  unfold frameWrites
  rw [List.zipIdx_append, List.map_append]
  simp

/- What the control file holds after some messages. -/
def controlFileOf
    (serde : SessionSerde)
    (lines : List ControlLine) : String :=
  String.join (lines.map (Recorder.controlText serde))

theorem controlFileOf_snoc
    (serde : SessionSerde)
    (lines : List ControlLine)
    (line : ControlLine) :
    controlFileOf serde (lines ++ [line]) =
      controlFileOf serde lines ++
        Recorder.controlText serde line := by
  unfold controlFileOf
  rw [List.map_append, String.join_append]
  simp

------------------------------------------------------------
-- The Recorder After Some Calls
------------------------------------------------------------

/- A recorder that has taken some calls. -/
structure Recorded
    (serde : SessionSerde)
    (dir : SessionDir)
    (calls : List Call)
    (r : Recorder) : Prop where
  counter : r.frameCounter =
    UInt32.ofNat (imageFrames calls).length
  control : r.controlFile =
    controlFileOf serde (controlLines calls)
  frames : r.frames =
    putAll (dir.frames.getD ∅)
      (frameWrites (imageFrames calls))
  manifest : r.manifest = dir.manifest

variable {serde : SessionSerde} {dir : SessionDir}
variable {calls : List Call} {r : Recorder}

theorem recorded_new
    (serde : SessionSerde)
    (dir : SessionDir) :
    Recorded serde dir [] (Recorder.new dir) :=
  ⟨rfl, rfl, rfl, rfl⟩

/- One more control message. -/
theorem Recorded.control_snoc
    (hRecorded : Recorded serde dir calls r)
    (line : ControlLine) :
    Recorded serde dir (calls ++ [.control line])
      (r.recordControl serde line) := by
  have hImages :
      imageFrames (calls ++ [.control line]) =
        imageFrames calls := by
    simp [imageFrames, Call.image?]
  have hLines :
      controlLines (calls ++ [.control line]) =
        controlLines calls ++ [line] := by
    simp [controlLines, Call.line?]
  refine ⟨?_, ?_, ?_, hRecorded.manifest⟩
  · rw [hImages]
    exact hRecorded.counter
  · rw [hLines, controlFileOf_snoc, ← hRecorded.control]
    rfl
  · rw [hImages]
    exact hRecorded.frames

/- One more frame, which is written if it is an image. -/
theorem Recorded.frame_snoc
    (hRecorded : Recorded serde dir calls r)
    (header : HeaderBuf)
    (payload : Bytes) :
    Recorded serde dir (calls ++ [.frame header payload])
      (r.recordFrame header payload) := by
  have hLines :
      controlLines (calls ++ [.frame header payload]) =
        controlLines calls := by
    simp [controlLines, Call.line?]
  unfold Recorder.recordFrame
  by_cases hImage : (FrameHeader.parse header).isImage
  · have hImages :
        imageFrames (calls ++ [.frame header payload]) =
          imageFrames calls ++ [(header, payload)] := by
      simp [imageFrames, Call.image?, hImage]
    rw [if_pos hImage]
    refine ⟨?_, ?_, ?_, hRecorded.manifest⟩
    · rw [hImages, List.length_append, List.length_singleton,
        UInt32.ofNat_add, ← hRecorded.counter]
      rfl
    · rw [hLines]
      exact hRecorded.control
    · rw [hImages, frameWrites_snoc, putAll_snoc,
        ← hRecorded.frames]
      simp only [frameWrite, ← hRecorded.counter]
      rfl
  · have hImages :
        imageFrames (calls ++ [.frame header payload]) =
          imageFrames calls := by
      simp [imageFrames, Call.image?, hImage]
    rw [if_neg hImage]
    refine ⟨?_, ?_, ?_, hRecorded.manifest⟩
    · rw [hImages]
      exact hRecorded.counter
    · rw [hLines]
      exact hRecorded.control
    · rw [hImages]
      exact hRecorded.frames

theorem recorded_foldl
    (serde : SessionSerde)
    (dir : SessionDir)
    (calls : List Call) :
    Recorded serde dir calls
      (calls.foldl (Call.perform serde)
        (Recorder.new dir)) := by
  induction calls using List.reverseRecOn with
  | nil => exact recorded_new serde dir
  | append_singleton calls call ih =>
      rw [List.foldl_append]
      cases call with
      | control line => exact ih.control_snoc line
      | frame header payload =>
          exact ih.frame_snoc header payload

------------------------------------------------------------
-- The Directory After a Session
------------------------------------------------------------

/- What the directory of a finalized session holds. -/
structure Finalized
    (serde : SessionSerde)
    (before : SessionDir)
    (session : Recording)
    (after : SessionDir) : Prop where
  manifest : ∃ json recorded,
    after.manifest = some json ∧
      serde.manifestFromStr json = some recorded
  control : after.control =
    some (controlFileOf serde
      (controlLines session.calls))
  frames : after.frames =
    some (putAll (before.frames.getD ∅)
      (frameWrites (imageFrames session.calls)))

theorem finalized_recordSession
    (hSerde : ∀ m, ∃ json recorded,
      serde.manifestToStr m = some json ∧
        serde.manifestFromStr json = some recorded)
    (before : SessionDir)
    (session : Recording) :
    Finalized serde before session
      (recordSession serde before session) := by
  have hRecorded :=
    recorded_foldl serde before session.calls
  unfold recordSession Recorder.finalize
  rcases hSerde ((session.calls.foldl (Call.perform serde)
    (Recorder.new before)).manifestAt session.captureDate
      session.durationSeconds) with
    ⟨json, recorded, hPrint, hParse⟩
  rw [hPrint]
  refine ⟨⟨json, recorded, rfl, hParse⟩, ?_, ?_⟩
  · exact congrArg some hRecorded.control
  · exact congrArg some hRecorded.frames

/- A finalized session is loaded. -/
theorem Finalized.load
    {before after : SessionDir}
    {session : Recording}
    (hFinal : Finalized serde before session after) :
    ∃ replay,
      ReplaySession.load serde after = .ok replay ∧
        replay.controlMessages =
          loadControl serde (controlFileOf serde
            (controlLines session.calls)) ∧
        replay.framePaths = framePathsIn after := by
  rcases hFinal.manifest with
    ⟨json, recorded, hManifest, hParse⟩
  unfold ReplaySession.load
  rw [hManifest]
  simp only [hParse]
  refine ⟨_, rfl, ?_, rfl⟩
  rw [hFinal.control]

end Session

end SeestarProxy
