import SeestarProxy.Session.Alignment
import SeestarProxy.Session.ControlFile

/-
  In which order recorded frames are replayed.

  A session in a fresh directory leaves one file for each
  image frame, and the replay takes them in the order of
  their names. The names have four digits up to index 9999;
  the frame with index 10000 is replayed before the one with
  index 1000.

  Main declarations:
    * `replayOrder` and `OrderKept`
    * `replay_getElem?`
    * `recorded_order_iff`
-/

------------------------------------------------------------
-- The Files of a Session
------------------------------------------------------------

namespace SeestarProxy

namespace Session

open Imaging (Bytes HeaderBuf)
open Library Protocol

variable {serde : SessionSerde} {after : SessionDir}
variable {session : Recording}
variable {images : List ImageFrame}

/- A place among fewer than 2 ^ 32 frames. -/
theorem toNat_place
    (hFew : images.length ≤ 2 ^ 32)
    {place : ImageFrame × Nat}
    (hPlace : place ∈ images.zipIdx) :
    (UInt32.ofNat place.2).toNat = place.2 := by
  have hBound := List.snd_lt_of_mem_zipIdx hPlace
  rw [UInt32.toNat_ofNat']
  apply Nat.mod_eq_of_lt
  omega

/- Two frames at one place are the same. -/
theorem place_injective
    {place place' : ImageFrame × Nat}
    (hPlace : place ∈ images.zipIdx)
    (hPlace' : place' ∈ images.zipIdx)
    (hIdx : place.2 = place'.2) :
    place = place' := by
  rw [List.mem_zipIdx_iff_getElem?] at hPlace hPlace'
  apply Prod.ext _ hIdx
  rw [hIdx, hPlace'] at hPlace
  exact (Option.some.inj hPlace).symm

/- Every frame has a file of its own. -/
theorem nodup_frameWrites
    (hFew : images.length ≤ 2 ^ 32) :
    ((frameWrites images).map Prod.fst).Nodup := by
  unfold frameWrites
  rw [List.map_map]
  apply List.Nodup.map_on
  · intro place hPlace place' hPlace' hName
    apply place_injective hPlace hPlace'
    rw [← toNat_place hFew hPlace,
      ← toNat_place hFew hPlace',
      (frameName_injective hName).1]
  · apply List.Nodup.of_map Prod.snd
    rw [List.zipIdx_map_snd]
    exact List.nodup_range' _

/- The files are the ones written, with what was written. -/
theorem lookup_frameWrites
    (hFew : images.length ≤ 2 ^ 32)
    {write : String × Bytes}
    (hWrite : write ∈ frameWrites images) :
    (putAll ∅ (frameWrites images)).lookup write.1 =
      some (some write.2) := by
  have hName :
      write.1 ∈ (frameWrites images).map Prod.fst :=
    List.mem_map_of_mem hWrite
  have hWritten :
      ∃ bytes, (write.1, bytes) ∈ frameWrites images ∧
        (putAll ∅ (frameWrites images)).lookup write.1 =
          some (some bytes) :=
    lookup_putAll_of_mem hName
  rcases hWritten with ⟨bytes, hMem, hLookup⟩
  have hSame : (write.1, bytes) = write :=
    List.inj_on_of_nodup_map (nodup_frameWrites hFew)
      hMem hWrite rfl
  rw [hLookup, ← hSame]

------------------------------------------------------------
-- The Order of Replay
------------------------------------------------------------

/- The places of `n` frames in the order of their names. -/
def replayOrder (n : Nat) : List Nat :=
  (List.range n).mergeSort (Decimal.delimitedLe 4 '_')

/- Places are ordered as the names of the files there. -/
def placeLe (place place' : ImageFrame × Nat) : Bool :=
  Decimal.delimitedLe 4 '_' place.2 place'.2

theorem nameLe_frameWrite
    (hFew : images.length ≤ 2 ^ 32)
    {place place' : ImageFrame × Nat}
    (hPlace : place ∈ images.zipIdx)
    (hPlace' : place' ∈ images.zipIdx) :
    placeLe place place' =
      nameLe (frameWrite place).1 (frameWrite place').1 := by
  unfold placeLe
  by_cases hIdx : place.2 = place'.2
  · rw [place_injective hPlace hPlace' hIdx]
    unfold Decimal.delimitedLe nameLe
    rw [decide_eq_true (le_refl _),
      decide_eq_true (le_refl _)]
  · have hNe :
        UInt32.ofNat place.2 ≠ UInt32.ofNat place'.2 := by
      intro hSame
      apply hIdx
      rw [← toNat_place hFew hPlace, hSame,
        toNat_place hFew hPlace']
    unfold frameWrite
    rw [nameLe_frameName hNe, toNat_place hFew hPlace,
      toNat_place hFew hPlace']

/- The frame files of a session in a fresh directory. -/
theorem framePathsIn_fresh
    (hFew : images.length ≤ 2 ^ 32)
    (hFrames : after.frames =
      some (putAll ∅ (frameWrites images))) :
    framePathsIn after =
      (images.zipIdx.mergeSort placeLe).map fun place =>
        (frameWrite place).1 := by
  have hNames :
      (frameWrites images).map Prod.fst =
        images.zipIdx.map fun place =>
          (frameWrite place).1 := by
    unfold frameWrites
    rw [List.map_map]
    rfl
  have hPerm :
      ((putAll ∅ (frameWrites images)).keys.filter
          isFrameName).Perm
        ((frameWrites images).map Prod.fst) := by
    rw [List.perm_ext_iff_of_nodup
      ((AList.keys_nodup _).filter _)
      (nodup_frameWrites hFew)]
    intro name
    rw [List.mem_filter, ← AList.mem_keys, mem_putAll_iff]
    constructor
    · rintro ⟨hEmpty | hWritten, -⟩
      · exact absurd hEmpty (AList.notMem_empty name)
      · exact hWritten
    · intro hWritten
      refine ⟨Or.inr hWritten, ?_⟩
      rw [hNames] at hWritten
      rcases List.mem_map.mp hWritten with ⟨place, -, rfl⟩
      exact isFrameName_frameName _ _
  have hSort :=
    List.map_mergeSort (l := images.zipIdx) (r := placeLe)
      (s := nameLe) (f := fun place => (frameWrite place).1)
      fun place hPlace place' hPlace' =>
        nameLe_frameWrite hFew hPlace hPlace'
  rw [hSort, ← hNames]
  unfold framePathsIn
  rw [hFrames]
  -- Both are sorted, and no two names are both first.
  apply @List.Perm.eq_of_pairwise String
    fun a b => nameLe a b = true
  · intro a b hFirst hSecond hLe hGe
    have hFirst' := hPerm.mem_iff.mp
      (List.mem_mergeSort.mp hFirst)
    have hSecond' := List.mem_mergeSort.mp hSecond
    rw [hNames] at hFirst' hSecond'
    rcases List.mem_map.mp hFirst' with
      ⟨place, hPlace, rfl⟩
    rcases List.mem_map.mp hSecond' with
      ⟨place', hPlace', rfl⟩
    have hIdx := nameLe_antisymm hLe hGe
    have hSame : place = place' := by
      apply place_injective hPlace hPlace'
      rw [← toNat_place hFew hPlace, hIdx,
        toNat_place hFew hPlace']
    rw [hSame]
  · exact List.pairwise_mergeSort nameLe_trans
      nameLe_total _
  · exact List.pairwise_mergeSort nameLe_trans
      nameLe_total _
  · exact (List.mergeSort_perm _ _).trans
      (hPerm.trans (List.mergeSort_perm _ _).symm)

/- The replay broadcasts the frames in that order. -/
theorem replayImaging_fresh
    (hFew : images.length ≤ 2 ^ 32)
    (hFrames : after.frames =
      some (putAll ∅ (frameWrites images)))
    {replay : ReplaySession}
    (hPaths : replay.framePaths = framePathsIn after) :
    replayImaging after replay =
      (images.zipIdx.mergeSort placeLe).map fun place =>
        frameBytes place.1 := by
  unfold replayImaging
  rw [hPaths, framePathsIn_fresh hFew hFrames,
    List.filterMap_map]
  rw [← List.filterMap_eq_map]
  apply List.filterMap_congr
  intro place hPlace
  have hWrite : frameWrite place ∈ frameWrites images :=
    List.mem_map_of_mem (List.mem_mergeSort.mp hPlace)
  have hRead :
      after.readFrame (frameWrite place).1 =
        some (frameBytes place.1) := by
    unfold SessionDir.readFrame
    rw [hFrames, Option.bind_some,
      lookup_frameWrites hFew hWrite]
    rfl
  simp only [Function.comp_apply, replayFrame, hRead]
  rw [if_neg]
  unfold frameBytes
  simp

/- The places are taken in the order of replay. -/
theorem map_snd_mergeSort (images : List ImageFrame) :
    (images.zipIdx.mergeSort placeLe).map Prod.snd =
      replayOrder images.length := by
  have hSort :=
    List.map_mergeSort (l := images.zipIdx) (r := placeLe)
      (s := Decimal.delimitedLe 4 '_') (f := Prod.snd)
      fun _ _ _ _ => rfl
  rw [hSort, List.zipIdx_map_snd, ← List.range_eq_range']
  rfl

------------------------------------------------------------
-- Recordings That Keep Their Order
------------------------------------------------------------

/-
  The replay has at each place the frame whose index has
  that place in the order of the names.
-/
theorem replay_getElem?
    (images : List ImageFrame)
    (k : Nat) :
    ((images.zipIdx.mergeSort placeLe).map fun place =>
        frameBytes place.1)[k]? =
      (replayOrder images.length)[k]?.bind fun idx =>
        (images.map frameBytes)[idx]? := by
  rw [← map_snd_mergeSort, List.getElem?_map,
    List.getElem?_map]
  cases hPlace : (images.zipIdx.mergeSort placeLe)[k]? with
  | none => rfl
  | some place =>
      have hMem : place ∈ images.zipIdx :=
        List.mem_mergeSort.mp (List.mem_of_getElem? hPlace)
      rw [List.mem_zipIdx_iff_getElem?] at hMem
      simp [hMem]

/-
  At each place the frame is the one whose index has that
  place in the text order of the indices.
-/
def OrderKept (frames : List Bytes) : Prop :=
  ∀ k idx : Nat, (replayOrder frames.length)[k]? = some idx →
    frames[idx]? = frames[k]?

/- Up to 10000 indices the two orders are the same. -/
theorem replayOrder_of_le
    {n : Nat}
    (hFew : n ≤ 10000) :
    replayOrder n = List.range n := by
  apply List.mergeSort_of_pairwise
  apply List.pairwise_lt_range.imp_of_mem
  intro i j hFirst hSecond hLess
  rw [List.mem_range] at hSecond
  apply Decimal.delimitedLe_of_lt (by decide) hLess
  omega

/- With one more they are not. -/
theorem replayOrder_ne
    {n : Nat}
    (hMany : 10000 < n) :
    replayOrder n ≠ List.range n := by
  intro hSame
  have hSorted :=
    List.pairwise_mergeSort (Decimal.delimitedLe_trans 4 '_')
      (Decimal.delimitedLe_total 4 '_') (List.range n)
  unfold replayOrder at hSame
  rw [hSame] at hSorted
  have hPlaces := List.pairwise_iff_getElem.mp hSorted 1000
    10000 (by rw [List.length_range]; omega)
    (by rw [List.length_range]; omega) (by decide)
  rw [List.getElem_range, List.getElem_range] at hPlaces
  have hWidth : 0 < 4 := by decide
  have hSep : '0' < '_' := by decide
  have hWrong := Decimal.not_delimitedLe_pow hWidth hSep
  rw [← Bool.not_eq_true] at hWrong
  exact hWrong hPlaces

theorem orderKept_of_le
    {frames : List Bytes}
    (hFew : frames.length ≤ 10000) :
    OrderKept frames := by
  intro k idx hIdx
  rw [replayOrder_of_le hFew] at hIdx
  rcases List.getElem?_eq_some_iff.mp hIdx with
    ⟨hBound, hGet⟩
  rw [List.getElem_range] at hGet
  rw [hGet]

/- Different frames keep their order up to 10000 of them. -/
theorem orderKept_iff_of_nodup
    {frames : List Bytes}
    (hNodup : frames.Nodup) :
    OrderKept frames ↔ frames.length ≤ 10000 := by
  refine ⟨?_, orderKept_of_le⟩
  intro hKept
  by_contra hMany
  apply replayOrder_ne (not_le.mp hMany)
  apply List.ext_getElem
  · unfold replayOrder
    rw [List.length_mergeSort]
  · intro k hOrder hRange
    rw [List.getElem_range]
    rw [List.length_range] at hRange
    have hIdx := hKept k _
      (List.getElem?_eq_getElem hOrder)
    have hBound : (replayOrder frames.length)[k] <
        frames.length := by
      have hMem := List.getElem_mem hOrder
      exact List.mem_range.mp (List.mem_mergeSort.mp hMem)
    rw [List.getElem?_eq_getElem hBound,
      List.getElem?_eq_getElem hRange,
      Option.some.injEq] at hIdx
    exact (List.Nodup.getElem_inj_iff hNodup).mp hIdx

theorem replay_eq_iff
    (images : List ImageFrame) :
    ((images.zipIdx.mergeSort placeLe).map fun place =>
        frameBytes place.1) = images.map frameBytes ↔
      OrderKept (images.map frameBytes) := by
  have hLength : images.length =
      (images.map frameBytes).length := by
    rw [List.length_map]
  constructor
  · intro hSame k idx hIdx
    have hPlace := replay_getElem? images k
    rw [hSame, hLength, hIdx, Option.bind_some] at hPlace
    exact hPlace.symm
  · intro hKept
    apply List.ext_getElem?
    intro k
    rw [replay_getElem?, hLength]
    cases hIdx :
        (replayOrder (images.map frameBytes).length)[k]? with
    | some idx => exact hKept k idx hIdx
    | none =>
        symm
        rw [Option.bind_none, List.getElem?_eq_none_iff]
        rw [List.getElem?_eq_none_iff] at hIdx
        unfold replayOrder at hIdx
        rw [List.length_mergeSort, List.length_range] at hIdx
        exact hIdx

------------------------------------------------------------
-- Recorded Order
------------------------------------------------------------

/- What a session in a fresh directory is replayed as. -/
theorem replay_of_session
    (hSerde : serde.Lawful)
    (hFew : (imageFrames session.calls).length ≤ 2 ^ 32) :
    ∃ replay,
      ReplaySession.load serde
          (recordSession serde SessionDir.fresh session) =
        .ok replay ∧
      replayImaging
          (recordSession serde SessionDir.fresh session)
          replay =
        ((imageFrames session.calls).zipIdx.mergeSort
          placeLe).map fun place => frameBytes place.1 := by
  have hFinal := finalized_recordSession hSerde.manifest
    SessionDir.fresh session
  rcases hFinal.load with ⟨replay, hLoad, -, hPaths⟩
  exact ⟨replay, hLoad,
    replayImaging_fresh hFew hFinal.frames hPaths⟩

/-
  A recorded session is loaded, and every image frame is
  broadcast once. They are broadcast in the order in which
  they were recorded exactly when there are at most 10000 of
  them or those that change places are the same bytes; when
  all frames differ, exactly when there are at most 10000.
-/
theorem recorded_order_iff
    (hSerde : serde.Lawful)
    (session : Recording)
    (hFew : (imageFrames session.calls).length < 2 ^ 32) :
    ∃ replay,
      ReplaySession.load serde
          (recordSession serde SessionDir.fresh session) =
        .ok replay ∧
      (replayImaging
          (recordSession serde SessionDir.fresh session)
          replay).Perm
        ((imageFrames session.calls).map frameBytes) ∧
      (replayImaging
          (recordSession serde SessionDir.fresh session)
          replay =
        (imageFrames session.calls).map frameBytes ↔
          (imageFrames session.calls).length ≤ 10000 ∨
            OrderKept ((imageFrames session.calls).map
              frameBytes)) ∧
      (((imageFrames session.calls).map frameBytes).Nodup →
        (replayImaging
            (recordSession serde SessionDir.fresh session)
            replay =
          (imageFrames session.calls).map frameBytes ↔
            (imageFrames session.calls).length ≤
              10000)) := by
  rcases replay_of_session hSerde (Nat.le_of_lt hFew) with
    ⟨replay, hLoad, hReplay⟩
  have hLength :
      ((imageFrames session.calls).map frameBytes).length =
        (imageFrames session.calls).length := by
    rw [List.length_map]
  refine ⟨replay, hLoad, ?_, ?_, ?_⟩
  · rw [hReplay]
    have hPlaces :
        (imageFrames session.calls).map frameBytes =
          ((imageFrames session.calls).zipIdx.map
            Prod.fst).map frameBytes := by
      rw [List.zipIdx_map_fst]
    rw [hPlaces, List.map_map]
    exact (List.mergeSort_perm _ _).map _
  · rw [hReplay, replay_eq_iff, ← hLength]
    constructor
    · exact Or.inr
    · rintro (hLe | hKept)
      · exact orderKept_of_le hLe
      · exact hKept
  · intro hNodup
    rw [hReplay, replay_eq_iff, ← hLength]
    exact orderKept_iff_of_nodup hNodup

/- An image of 2000 bytes, the first two of them given. -/
def numberedFrame (n : Nat) : ImageFrame :=
  (imageHeader 21,
    UInt8.ofNat (n / 256) :: UInt8.ofNat (n % 256) ::
      List.replicate 1998 0)

def numberedRecording (n : Nat) : Recording where
  calls := (List.range n).map fun k =>
    .frame (numberedFrame k).1 (numberedFrame k).2
  captureDate := "2026-01-01T00:00:00+00:00"
  durationSeconds := F64.zero

theorem imageFrames_numbered (n : Nat) :
    imageFrames (numberedRecording n).calls =
      (List.range n).map numberedFrame := by
  have hImage (k : Nat) :
      (FrameHeader.parse (numberedFrame k).1).isImage =
        true := by
    change (FrameHeader.parse (imageHeader 21)).isImage =
      true
    decide +kernel
  unfold imageFrames numberedRecording
  rw [List.filterMap_map, ← List.filterMap_eq_map]
  apply List.filterMap_congr
  intro k hMem
  simp only [Function.comp_apply, Call.image?, hImage,
    if_true]

theorem length_numbered (n : Nat) :
    (imageFrames (numberedRecording n).calls).length =
      n := by
  rw [imageFrames_numbered, List.length_map,
    List.length_range]

/- The images are all different. -/
theorem nodup_numbered
    {n : Nat}
    (hFew : n ≤ 2 ^ 16) :
    ((imageFrames (numberedRecording n).calls).map
      frameBytes).Nodup := by
  rw [imageFrames_numbered, List.map_map]
  apply List.Nodup.map_on _ List.nodup_range
  intro i hFirst j hSecond hSame
  rw [List.mem_range] at hFirst hSecond
  have hBytes := List.append_cancel_left hSame
  unfold numberedFrame at hBytes
  rcases List.cons.inj hBytes with ⟨hFirstByte, hRest⟩
  have hHigh := congrArg UInt8.toNat hFirstByte
  have hLow :=
    congrArg UInt8.toNat (List.cons.inj hRest).1
  rw [UInt8.toNat_ofNat', UInt8.toNat_ofNat'] at hHigh hLow
  omega

theorem recorded_order_iff_numbered :
    ∃ replay,
      ReplaySession.load plainSerde
          (recordSession plainSerde SessionDir.fresh
            (numberedRecording 3)) =
        .ok replay ∧
      (replayImaging
          (recordSession plainSerde SessionDir.fresh
            (numberedRecording 3)) replay =
        (imageFrames (numberedRecording 3).calls).map
          frameBytes ↔
        (imageFrames (numberedRecording 3).calls).length ≤
          10000) := by
  rcases recorded_order_iff plainSerde_lawful
      (numberedRecording 3)
      (by rw [length_numbered]; decide) with
    ⟨replay, hLoad, -, -, hNodup⟩
  exact ⟨replay, hLoad,
    hNodup (nodup_numbered (by decide))⟩

/- 10001 different images are not replayed in order. -/
theorem order_lost :
    ∃ replay,
      ReplaySession.load plainSerde
          (recordSession plainSerde SessionDir.fresh
            (numberedRecording 10001)) =
        .ok replay ∧
      replayImaging
          (recordSession plainSerde SessionDir.fresh
            (numberedRecording 10001)) replay ≠
        (imageFrames (numberedRecording 10001).calls).map
          frameBytes := by
  have hLength := length_numbered 10001
  have hFew :
      (imageFrames
        (numberedRecording 10001).calls).length ≤ 2 ^ 32 := by
    rw [hLength]
    decide
  rcases replay_of_session plainSerde_lawful hFew with
    ⟨replay, hLoad, hReplay⟩
  refine ⟨replay, hLoad, ?_⟩
  rw [hReplay]
  intro hSame
  rw [replay_eq_iff,
    orderKept_iff_of_nodup (nodup_numbered (by decide)),
    List.length_map, hLength] at hSame
  omega

end Session

end SeestarProxy
