import SeestarProxy.Session.Alignment
import SeestarProxy.Session.ControlFile

/-
  When a second session hides the first one.

  Two sessions are recorded in one directory. The control
  file is emptied in between, so the control messages that
  are loaded are those of the second session. A frame file
  of the first session stays unless the second session has
  an image frame with the same index and of the same kind.

  Main declarations:
    * `LoadsOnly` and `Covers`
    * `covers_iff_prefix`
    * `sessions_apart_iff`
-/

------------------------------------------------------------
-- Sessions in One Directory
------------------------------------------------------------

namespace SeestarProxy

namespace Session

open Imaging (Bytes HeaderBuf)
open Library Protocol

variable {serde : SessionSerde}
variable {before after : SessionDir}
variable {first second : List ImageFrame}
variable {session : Recording} {path : String}

/- The files to which some frames are written. -/
def writtenNames (images : List ImageFrame) :
    List String :=
  (frameWrites images).map Prod.fst

theorem mem_writtenNames_iff :
    path ∈ writtenNames first ↔
      ∃ (i : Nat) (frame : ImageFrame),
        first[i]? = some frame ∧
          path =
            frameName (UInt32.ofNat i) (frameKind frame) := by
  unfold writtenNames frameWrites
  rw [List.map_map, List.mem_map]
  constructor
  · rintro ⟨place, hPlace, rfl⟩
    rw [List.mem_zipIdx_iff_getElem?] at hPlace
    exact ⟨place.2, place.1, hPlace, rfl⟩
  · rintro ⟨i, frame, hFrame, rfl⟩
    refine ⟨(frame, i), ?_, rfl⟩
    rw [List.mem_zipIdx_iff_getElem?]
    exact hFrame

/-
  What is loaded is what the session recorded: its control
  messages from the telescope, and files that hold a frame
  which it wrote there.
-/
structure LoadsOnly
    (session : Recording)
    (dir : SessionDir)
    (replay : ReplaySession) : Prop where
  control :
    replay.controlMessages.map ControlEntry.raw =
      telescopeRaws (controlLines session.calls)
  frames : ∀ path ∈ replay.framePaths, ∃ bytes,
    (path, bytes) ∈ frameWrites (imageFrames session.calls) ∧
      dir.readFrame path = some bytes

/-
  Every frame of the first session has one in the second at
  the same place modulo 2 ^ 32 and of the same kind.
-/
def Covers (first second : List ImageFrame) : Prop :=
  ∀ (i : Nat) (frame : ImageFrame),
    first[i]? = some frame →
      ∃ (j : Nat) (frame' : ImageFrame),
        second[j]? = some frame' ∧
          j % 2 ^ 32 = i % 2 ^ 32 ∧
            frameKind frame' = frameKind frame

/- Places are counted modulo 2 ^ 32. -/
theorem ofNat_eq_iff
    {i j : Nat} :
    UInt32.ofNat i = UInt32.ofNat j ↔
      i % 2 ^ 32 = j % 2 ^ 32 := by
  rw [← UInt32.toNat_inj, UInt32.toNat_ofNat',
    UInt32.toNat_ofNat']

theorem covers_iff_names :
    Covers first second ↔
      ∀ path ∈ writtenNames first,
        path ∈ writtenNames second := by
  constructor
  · intro hCovers path hPath
    rcases mem_writtenNames_iff.mp hPath with
      ⟨i, frame, hFrame, rfl⟩
    rcases hCovers i frame hFrame with
      ⟨j, frame', hFrame', hPlace, hKind⟩
    apply mem_writtenNames_iff.mpr
    refine ⟨j, frame', hFrame', ?_⟩
    rw [hKind, ofNat_eq_iff.mpr hPlace]
  · intro hNames i frame hFrame
    have hPath := hNames _
      (mem_writtenNames_iff.mpr ⟨i, frame, hFrame, rfl⟩)
    rcases mem_writtenNames_iff.mp hPath with
      ⟨j, frame', hFrame', hName⟩
    rcases frameName_injective hName with ⟨hPlace, hKind⟩
    exact ⟨j, frame', hFrame',
      (ofNat_eq_iff.mp hPlace).symm, hKind.symm⟩

/-
  Below 2 ^ 32 frames this says that the kinds of the first
  session's frames are the first kinds of the second's.
-/
theorem covers_iff_prefix
    (hFirst : first.length ≤ 2 ^ 32)
    (hSecond : second.length ≤ 2 ^ 32) :
    Covers first second ↔
      first.map frameKind <+: second.map frameKind := by
  have hPlace {frames : List ImageFrame}
      {i : Nat} {frame : ImageFrame}
      (hFew : frames.length ≤ 2 ^ 32)
      (hFrame : frames[i]? = some frame) :
      i % 2 ^ 32 = i := by
    rcases List.getElem?_eq_some_iff.mp hFrame with
      ⟨hBound, -⟩
    apply Nat.mod_eq_of_lt
    omega
  rw [List.prefix_iff_getElem?]
  constructor
  · intro hCovers i hBound
    rw [List.length_map] at hBound
    have hFrame := List.getElem?_eq_getElem hBound
    rcases hCovers i _ hFrame with
      ⟨j, frame', hFrame', hSame, hKind⟩
    rw [hPlace hSecond hFrame', hPlace hFirst hFrame]
      at hSame
    subst hSame
    rw [List.getElem?_map, hFrame', List.getElem_map]
    exact congrArg some hKind
  · intro hPrefix i frame hFrame
    rcases List.getElem?_eq_some_iff.mp hFrame with
      ⟨hBound, rfl⟩
    have hKind := hPrefix i (by rwa [List.length_map])
    rw [List.getElem?_map, List.getElem_map] at hKind
    rcases Option.map_eq_some_iff.mp hKind with
      ⟨frame', hFrame', hSame⟩
    exact ⟨i, frame', hFrame', rfl, hSame⟩

------------------------------------------------------------
-- What Is Loaded
------------------------------------------------------------

/- The frame files of a directory. -/
theorem mem_framePathsIn_iff :
    path ∈ framePathsIn before ↔
      path ∈ before.frames.getD ∅ ∧
        isFrameName path = true := by
  unfold framePathsIn
  cases hFrames : before.frames with
  | none =>
      rw [Option.getD_none]
      constructor
      · intro hMem
        cases hMem
      · rintro ⟨hEmpty, -⟩
        exact absurd hEmpty (AList.notMem_empty path)
  | some files =>
      rw [Option.getD_some, List.mem_mergeSort,
        List.mem_filter, AList.mem_keys]

/- A session adds its own files to the ones there were. -/
theorem mem_framePathsIn_of_finalized
    (hFinal : Finalized serde before session after) :
    path ∈ framePathsIn after ↔
      path ∈ framePathsIn before ∨
        path ∈ writtenNames (imageFrames session.calls) := by
  rw [mem_framePathsIn_iff, mem_framePathsIn_iff,
    hFinal.frames, Option.getD_some, mem_putAll_iff]
  change (_ ∨ path ∈ writtenNames _) ∧ _ ↔ _
  constructor
  · rintro ⟨hOld | hNew, hName⟩
    · exact Or.inl ⟨hOld, hName⟩
    · exact Or.inr hNew
  · rintro (⟨hOld, hName⟩ | hNew)
    · exact ⟨Or.inl hOld, hName⟩
    · refine ⟨Or.inr hNew, ?_⟩
      rcases mem_writtenNames_iff.mp hNew with
        ⟨i, frame, -, rfl⟩
      exact isFrameName_frameName _ _

/- A file that a session wrote holds what it wrote last. -/
theorem readFrame_of_finalized
    (hFinal : Finalized serde before session after)
    (hPath :
      path ∈ writtenNames (imageFrames session.calls)) :
    ∃ bytes,
      (path, bytes) ∈
          frameWrites (imageFrames session.calls) ∧
        after.readFrame path = some bytes := by
  have hWritten :
      ∃ bytes, (path, bytes) ∈
          frameWrites (imageFrames session.calls) ∧
        (putAll (before.frames.getD ∅)
          (frameWrites (imageFrames session.calls))).lookup
            path = some (some bytes) :=
    lookup_putAll_of_mem hPath
  rcases hWritten with ⟨bytes, hMem, hLookup⟩
  refine ⟨bytes, hMem, ?_⟩
  unfold SessionDir.readFrame
  rw [hFinal.frames, Option.bind_some, hLookup]
  rfl

theorem loadsOnly_iff
    (hSerde : serde.Lawful)
    (hFinal : Finalized serde before session after) :
    ∃ replay,
      ReplaySession.load serde after = .ok replay ∧
        (LoadsOnly session after replay ↔
          ∀ path ∈ framePathsIn before,
            path ∈ writtenNames
              (imageFrames session.calls)) := by
  rcases hFinal.load with
    ⟨replay, hLoad, hControl, hPaths⟩
  refine ⟨replay, hLoad, ?_⟩
  constructor
  · intro hOnly path hPath
    have hLoaded : path ∈ replay.framePaths := by
      rw [hPaths]
      exact (mem_framePathsIn_of_finalized hFinal).mpr
        (Or.inl hPath)
    rcases hOnly.frames path hLoaded with
      ⟨bytes, hMem, -⟩
    exact List.mem_map_of_mem hMem
  · intro hOver
    refine ⟨?_, ?_⟩
    · rw [hControl]
      exact loadControl_controlFileOf hSerde _
    · intro path hPath
      rw [hPaths] at hPath
      apply readFrame_of_finalized hFinal
      rcases (mem_framePathsIn_of_finalized hFinal).mp
        hPath with hOld | hNew
      · exact hOver path hOld
      · exact hNew

/-
  After two sessions in one directory, loading returns what
  the second one recorded and nothing else exactly when the
  second one wrote over every frame file of the first, and
  over those that were there before.
-/
theorem sessions_apart_iff
    (hSerde : serde.Lawful)
    (dir : SessionDir)
    (first second : Recording) :
    ∃ replay,
      ReplaySession.load serde
          (recordSession serde
            (recordSession serde dir first) second) =
        .ok replay ∧
      (LoadsOnly second
          (recordSession serde
            (recordSession serde dir first) second)
          replay ↔
        Covers (imageFrames first.calls)
            (imageFrames second.calls) ∧
          ∀ path ∈ framePathsIn dir,
            path ∈ writtenNames
              (imageFrames second.calls)) := by
  have hFirst :=
    finalized_recordSession hSerde.manifest dir first
  have hSecond :=
    finalized_recordSession hSerde.manifest
      (recordSession serde dir first) second
  rcases loadsOnly_iff hSerde hSecond with
    ⟨replay, hLoad, hOnly⟩
  refine ⟨replay, hLoad, ?_⟩
  rw [hOnly, covers_iff_names]
  constructor
  · intro hOver
    refine ⟨?_, ?_⟩
    · intro path hPath
      exact hOver path
        ((mem_framePathsIn_of_finalized hFirst).mpr
          (Or.inr hPath))
    · intro path hPath
      exact hOver path
        ((mem_framePathsIn_of_finalized hFirst).mpr
          (Or.inl hPath))
  · rintro ⟨hNames, hOld⟩ path hPath
    rcases (mem_framePathsIn_of_finalized hFirst).mp
      hPath with hBefore | hWritten
    · exact hOld path hBefore
    · exact hNames path hWritten

------------------------------------------------------------
-- A Shorter Second Session
------------------------------------------------------------

/- A preview frame of 2000 bytes. -/
def previewFrame : ImageFrame :=
  (imageHeader 21, List.replicate 2000 0)

/- A session of some preview frames. -/
def previewRecording (n : Nat) : Recording where
  calls := List.replicate n
    (.frame previewFrame.1 previewFrame.2)
  captureDate := "2026-01-01T00:00:00+00:00"
  durationSeconds := F64.zero

theorem imageFrames_preview (n : Nat) :
    imageFrames (previewRecording n).calls =
      List.replicate n previewFrame := by
  have hImage :
      (FrameHeader.parse previewFrame.1).isImage = true := by
    change (FrameHeader.parse (imageHeader 21)).isImage =
      true
    decide +kernel
  unfold imageFrames previewRecording
  rw [List.filterMap_replicate]
  simp only [Call.image?, hImage, if_true]

theorem sessions_apart_iff_preview :
    ∃ replay,
      ReplaySession.load plainSerde
          (recordSession plainSerde
            (recordSession plainSerde SessionDir.fresh
              (previewRecording 1)) (previewRecording 2)) =
        .ok replay ∧
      (LoadsOnly (previewRecording 2)
          (recordSession plainSerde
            (recordSession plainSerde SessionDir.fresh
              (previewRecording 1)) (previewRecording 2))
          replay ↔
        Covers (imageFrames (previewRecording 1).calls)
            (imageFrames (previewRecording 2).calls) ∧
          ∀ path ∈ framePathsIn SessionDir.fresh,
            path ∈ writtenNames
              (imageFrames (previewRecording 2).calls)) :=
  sessions_apart_iff plainSerde_lawful SessionDir.fresh
    (previewRecording 1) (previewRecording 2)

/-
  The second frame of a first session is loaded as one of a
  second session that has only one frame.
-/
theorem sessions_mixed :
    ∃ replay,
      ReplaySession.load plainSerde
          (recordSession plainSerde
            (recordSession plainSerde SessionDir.fresh
              (previewRecording 2)) (previewRecording 1)) =
        .ok replay ∧
      ¬ LoadsOnly (previewRecording 1)
          (recordSession plainSerde
            (recordSession plainSerde SessionDir.fresh
              (previewRecording 2)) (previewRecording 1))
          replay := by
  have hFirst :=
    finalized_recordSession plainSerde_lawful.manifest
      SessionDir.fresh (previewRecording 2)
  have hSecond :=
    finalized_recordSession plainSerde_lawful.manifest
      (recordSession plainSerde SessionDir.fresh
        (previewRecording 2)) (previewRecording 1)
  rcases loadsOnly_iff plainSerde_lawful hSecond with
    ⟨replay, hLoad, hOnly⟩
  refine ⟨replay, hLoad, ?_⟩
  rw [hOnly]
  intro hOver
  have hLeft :
      frameName 1 (frameKind previewFrame) ∈
        writtenNames
          (imageFrames (previewRecording 2).calls) := by
    rw [mem_writtenNames_iff, imageFrames_preview]
    exact ⟨1, previewFrame, rfl, rfl⟩
  have hPath := hOver _
    ((mem_framePathsIn_of_finalized hFirst).mpr
      (Or.inr hLeft))
  rw [mem_writtenNames_iff, imageFrames_preview] at hPath
  rcases hPath with ⟨j, frame', hFrame', hName⟩
  rcases List.getElem?_eq_some_iff.mp hFrame' with
    ⟨hBound, -⟩
  rw [List.length_replicate] at hBound
  have hPlace := (frameName_injective hName).1
  rw [Nat.lt_one_iff.mp hBound] at hPlace
  revert hPlace
  decide

end Session

end SeestarProxy
