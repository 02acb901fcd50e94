import SeestarProxy.Imaging.Frames
import SeestarProxy.Session.Serde

/-
  Which frame files keep a replay aligned.

  The live reader broadcasts whole frames only. The replay
  broadcasts a file as it is once it is as long as a header,
  so the frames are whole exactly when every file that is
  that long has the length its header declares.

  Main declarations:
    * `replayFormat` and `FileWhole`
    * `mem_replayImaging_iff`
    * `replay_aligned_iff`
-/

------------------------------------------------------------
-- Whole Frames
------------------------------------------------------------

namespace SeestarProxy

namespace Session

open Imaging
open Library Protocol

variable {dir : SessionDir} {session : ReplaySession}
variable {frame : Bytes}

/- The frames that clients cut a stream into. -/
def replayFormat : Format UInt8 where
  headerSize := headerSize
  declared := fun bytes => (headerOf bytes).map Imaging.sizeOf
  hasHeader := headerSize_pos

/- The header of a stream is that of its first bytes. -/
theorem headerOf_take (bytes : Bytes) :
    headerOf (bytes.take headerSize) = headerOf bytes := by
  cases hHeader : headerOf bytes with
  | none =>
      rw [headerOf_eq_none_iff] at hHeader ⊢
      rw [List.length_take]
      omega
  | some header =>
      rw [headerOf_eq_some_iff] at hHeader ⊢
      rw [List.take_take, Nat.min_self]
      exact hHeader

/- A whole frame has the length that its header declares. -/
theorem wellFormed_iff :
    WellFormed frame ↔
      ∃ header, headerOf frame = some header ∧
        frame.length = headerSize + Imaging.sizeOf header := by
  constructor
  · rintro ⟨header, payload, rfl, hLength⟩
    refine ⟨header, ?_, ?_⟩
    · apply headerOf_eq_some_iff.mpr
      exact take_header header payload
    · rw [List.length_append, hLength]
      simp
  · rintro ⟨header, hHeader, hLength⟩
    refine ⟨header, frame.drop headerSize, ?_, ?_⟩
    · rw [← headerOf_eq_some_iff.mp hHeader,
        List.take_append_drop]
    · rw [List.length_drop, hLength, Nat.add_sub_cancel_left]

theorem isFrame_replayFormat_iff :
    replayFormat.IsFrame frame ↔ WellFormed frame := by
  have hDeclared :
      replayFormat.declared
          (frame.take replayFormat.headerSize) =
        (headerOf frame).map Imaging.sizeOf := by
    change (headerOf (frame.take headerSize)).map _ = _
    rw [headerOf_take]
  rw [wellFormed_iff]
  unfold Format.IsFrame
  rw [hDeclared]
  constructor
  · rintro ⟨n, hSize, hLength⟩
    rcases Option.map_eq_some_iff.mp hSize with
      ⟨header, hHeader, rfl⟩
    exact ⟨header, hHeader, hLength⟩
  · rintro ⟨header, hHeader, hLength⟩
    refine ⟨Imaging.sizeOf header, ?_, hLength⟩
    rw [hHeader]
    rfl

------------------------------------------------------------
-- Frame Files
------------------------------------------------------------

/-
  A frame file that is shorter than a header, which is
  skipped, or that has the length its header declares.
-/
def FileWhole (dir : SessionDir) (path : String) : Prop :=
  ∀ data header, dir.readFrame path = some data →
    headerOf data = some header →
      data.length = headerSize + Imaging.sizeOf header

/- What is broadcast are the files with a header. -/
theorem mem_replayImaging_iff :
    frame ∈ replayImaging dir session ↔
      ∃ path ∈ session.framePaths,
        dir.readFrame path = some frame ∧
          headerSize ≤ frame.length := by
  unfold replayImaging
  rw [List.mem_filterMap]
  constructor
  · rintro ⟨path, hPath, hFrame⟩
    refine ⟨path, hPath, ?_⟩
    unfold replayFrame at hFrame
    cases hRead : dir.readFrame path with
    | none => simp [hRead] at hFrame
    | some data =>
        rw [hRead] at hFrame
        simp only [Option.ite_none_left_eq_some,
          Option.some.injEq] at hFrame
        rcases hFrame with ⟨hLong, rfl⟩
        exact ⟨rfl, not_lt.mp hLong⟩
  · rintro ⟨path, hPath, hRead, hLong⟩
    refine ⟨path, hPath, ?_⟩
    unfold replayFrame
    rw [hRead]
    exact if_neg (not_lt.mpr hLong)

theorem wellFormed_replay_iff :
    (∀ frame ∈ replayImaging dir session,
        WellFormed frame) ↔
      ∀ path ∈ session.framePaths, FileWhole dir path := by
  constructor
  · intro hAll path hPath data header hRead hHeader
    have hLong : headerSize ≤ data.length := by
      by_contra hShort
      rw [headerOf_eq_none_iff.mpr (not_le.mp hShort)]
        at hHeader
      cases hHeader
    have hWhole := hAll data
      (mem_replayImaging_iff.mpr ⟨path, hPath, hRead, hLong⟩)
    rcases wellFormed_iff.mp hWhole with
      ⟨header', hHeader', hLength⟩
    rw [hHeader] at hHeader'
    cases hHeader'
    exact hLength
  · intro hFiles frame hMem
    rcases mem_replayImaging_iff.mp hMem with
      ⟨path, hPath, hRead, hLong⟩
    apply wellFormed_iff.mpr
    cases hHeader : headerOf frame with
    | none =>
        have hShort := headerOf_eq_none_iff.mp hHeader
        omega
    | some header =>
        exact ⟨header, rfl,
          hFiles path hPath frame header hRead hHeader⟩

/-
  A client gets some of the frames, one after the other. In
  every such case the frames can be told apart again exactly
  when they are whole.
-/
theorem aligned_iff_wellFormed
    (frames : List Bytes) :
    (∀ received, received.Sublist frames →
        replayFormat.frames received.flatten = received) ↔
      ∀ frame ∈ frames, WellFormed frame := by
  constructor
  · intro hAligned frame hMem
    have hAlone := hAligned [frame]
      (List.singleton_sublist.mpr hMem)
    apply isFrame_replayFormat_iff.mp
    apply Format.isFrame_of_mem_frames
      (s := [frame].flatten)
    rw [hAlone]
    exact List.mem_singleton_self frame
  · intro hWhole received hSublist
    apply Format.frames_flatten
    intro frame hMem
    exact isFrame_replayFormat_iff.mpr
      (hWhole frame (hSublist.subset hMem))

/-
  The replay broadcasts whole frames, and every client's
  stream stays aligned, exactly when each frame file is too
  short for a header or as long as its header declares.
-/
theorem replay_aligned_iff
    (dir : SessionDir)
    (session : ReplaySession) :
    ((∀ frame ∈ replayImaging dir session,
        WellFormed frame) ∧
      ∀ received,
        received.Sublist (replayImaging dir session) →
          replayFormat.frames received.flatten =
            received) ↔
      ∀ path ∈ session.framePaths, FileWhole dir path := by
  rw [aligned_iff_wellFormed, and_self,
    wellFormed_replay_iff]

------------------------------------------------------------
-- A File Cut Short
------------------------------------------------------------

/- The header of a 100 by 100 image of 2000 bytes. -/
def imageBytes (id : UInt8) : Bytes :=
  [0, 0, 0, 0, 0, 0, 0, 0, 7, 208, 0, 0, 0, 0, 0, id] ++
    ([0, 100, 0, 100] ++ List.replicate 60 0)

def imageHeader (id : UInt8) : HeaderBuf :=
  ⟨(imageBytes id).toArray, by simp [imageBytes]⟩

/- A session whose only frame lost its payload. -/
def cutDir : SessionDir where
  manifest := some (printManifest
    ((Recorder.new SessionDir.fresh).manifestAt "" F64.zero))
  control := some ""
  frames := some
    ((∅ : FrameFiles).insert "frame_0000_preview.bin"
      (some (imageBytes 21)))

/- Its header is broadcast without the payload. -/
theorem cut_frame_replayed :
    ∃ session,
      ReplaySession.load plainSerde cutDir = .ok session ∧
        ¬ ∀ frame ∈ replayImaging cutDir session,
          WellFormed frame := by
  refine ⟨_, rfl, ?_⟩
  rw [wellFormed_replay_iff]
  intro hFiles
  have hLength := hFiles "frame_0000_preview.bin"
    (by decide +kernel) (imageBytes 21) (imageHeader 21)
    (by decide +kernel) (by decide +kernel)
  revert hLength
  decide +kernel

end Session

end SeestarProxy
