import SeestarProxy.Imaging.StepCases
import SeestarProxy.Library.Framing

/-
  Frames stay aligned from the telescope to the clients.

  The reader of a connection cuts its stream into frames:
  what it has broadcast, what it holds and what it has not
  read make up the stream. A client gets the frames it took
  from the channel one after the other, so what it receives
  is a concatenation of frames up to a cut in the last one.

  Main declarations:
    * `frameFormat` and `WellFormed`
    * `Aligned` and `aligned_of_run`
    * `Fanned` and `fanned_of_run`
    * `FramesOk`, `ClientOk` and `frames_aligned`
-/

------------------------------------------------------------
-- The Frame Format
------------------------------------------------------------

namespace SeestarProxy

namespace Imaging

open Library Protocol

variable {debugLogged : Bool} {h o : List Obs}
variable {s s' : State} {e : Event}
variable {conn : ConnId} {c : ClientId}
variable {bytes frame : Bytes} {header : HeaderBuf}

/- A header of the stream is its first bytes. -/
theorem headerOf_eq_some_iff :
    headerOf bytes = some header ↔
      bytes.take headerSize = header.toList := by
  unfold headerOf
  have hSize : header.toList.length = headerSize := by simp
  constructor
  · intro hSome
    split at hSome
    · cases hSome
      simp
    · cases hSome
  · intro hTake
    have hLength :
        (bytes.take headerSize).length = headerSize := by
      rw [hTake, hSize]
    rw [dif_pos hLength]
    congr 1
    apply Vector.toList_inj.mp
    rw [← hTake]
    simp

theorem headerOf_eq_none_iff :
    headerOf bytes = none ↔ bytes.length < headerSize := by
  unfold headerOf
  split
  · rename_i hLength
    rw [List.length_take] at hLength
    simp
    omega
  · rename_i hLength
    rw [List.length_take] at hLength
    simp
    omega

/- A whole frame: a header and the payload it declares. -/
def WellFormed (frame : Bytes) : Prop :=
  ∃ (header : HeaderBuf) (payload : Bytes),
    frame = header.toList ++ payload ∧
      payload.length = sizeOf header

/- A whole frame of a reasonable size. -/
def Reasonable (frame : Bytes) : Prop :=
  ∃ (header : HeaderBuf) (payload : Bytes),
    frame = header.toList ++ payload ∧
      payload.length = sizeOf header ∧
        sizeOf header ≤ maxFrameSize

theorem headerSize_pos : 0 < headerSize := by decide

/- The frames that the reader cuts a stream into. -/
def frameFormat : Format UInt8 where
  headerSize := headerSize
  declared := fun bytes =>
    (headerOf bytes).bind fun header =>
      if maxFrameSize < sizeOf header then
        none
      else
        some (sizeOf header)
  hasHeader := headerSize_pos

/- What a header at the front of a stream declares. -/
theorem declared_of_header
    (hHeader : bytes.take headerSize = header.toList) :
    frameFormat.declared
        (bytes.take frameFormat.headerSize) =
      if maxFrameSize < sizeOf header then
        none
      else
        some (sizeOf header) := by
  have hOf :
      headerOf (bytes.take headerSize) = some header := by
    rw [headerOf_eq_some_iff, List.take_take, Nat.min_self]
    exact hHeader
  change (headerOf (bytes.take headerSize)).bind _ = _
  rw [hOf]
  rfl

/- The first bytes of a header and what follows it. -/
theorem take_header (header : HeaderBuf) (rest : Bytes) :
    (header.toList ++ rest).take headerSize =
      header.toList := by
  apply List.take_left'
  simp

theorem isFrame_iff :
    frameFormat.IsFrame frame ↔ Reasonable frame := by
  constructor
  · rintro ⟨n, hDeclared, hLength⟩
    cases hOf : headerOf frame with
    | none =>
        have hShort := headerOf_eq_none_iff.mp hOf
        have hSize : frameFormat.headerSize = headerSize :=
          rfl
        omega
    | some header =>
        have hHeader := headerOf_eq_some_iff.mp hOf
        rw [declared_of_header hHeader] at hDeclared
        split at hDeclared
        · cases hDeclared
        · rename_i hSize
          cases hDeclared
          refine ⟨header, frame.drop headerSize, ?_, ?_,
            not_lt.mp hSize⟩
          · rw [← hHeader, List.take_append_drop]
          · rw [List.length_drop, hLength]
            exact Nat.add_sub_cancel_left _ _
  · rintro ⟨header, payload, rfl, hLength, hSize⟩
    refine ⟨sizeOf header, ?_, ?_⟩
    · rw [declared_of_header (take_header header payload),
        if_neg (not_lt.mpr hSize)]
    · rw [List.length_append, hLength]
      simp [frameFormat]

------------------------------------------------------------
-- Readers
------------------------------------------------------------

/- The frames of one connection, in order. -/
def framesOn
    (frames : List (ConnId × Bytes))
    (conn : ConnId) : List Bytes :=
  frames.filterMap fun item =>
    if item.1 = conn then some item.2 else none

/- The frames that one connection has broadcast. -/
def State.framesOf (s : State) (conn : ConnId) : List Bytes :=
  framesOn s.frames conn

/- A broadcast adds to the frames of its connection. -/
theorem framesOn_snoc
    (frames : List (ConnId × Bytes))
    (conn conn' : ConnId)
    (frame : Bytes) :
    framesOn (frames ++ [(conn, frame)]) conn' =
      framesOn frames conn' ++
        if conn = conn' then [frame] else [] := by
  unfold framesOn
  rw [List.filterMap_append]
  by_cases hConn : conn = conn' <;> simp [hConn]

/-
  What the reader holds of its stream, between what it has
  broadcast and what it has not read. Past its loop nothing
  more can be cut off, whatever may still come.
-/
def HeldOk
    (s : State)
    (conn : ConnId)
    (held : Bytes) : Reader → Prop
| .absent | .spawned | .reading => held = []
| .payload header =>
    held = header.toList ∧ sizeOf header ≤ maxFrameSize
| .sending frame => held = frame ∧ Reasonable frame
| .broken | .done =>
    s.closed conn = true ∧
        frameFormat.IsShort (held ++ s.unread conn) ∨
      frameFormat.IsRejected (held ++ s.unread conn)

/- What was broadcast, held and not read is the stream. -/
structure Aligned (s : State) (conn : ConnId) : Prop where
  bounded : s.consumed conn ≤ (s.stream conn).length
  frames : ∀ frame ∈ s.framesOf conn, Reasonable frame
  stream : ∃ held,
    HeldOk s conn held (s.reader conn) ∧
      s.stream conn =
        (s.framesOf conn).flatten ++
          (held ++ s.unread conn)

/- The bytes that are unread after some more were read. -/
theorem unread_add (n : Nat) :
    (s.stream conn).drop (s.consumed conn + n) =
      (s.unread conn).drop n := by
  rw [State.unread, List.drop_drop]

/- A step that leaves a connection as it was. -/
private theorem Aligned.of_same
    (hAligned : Aligned s conn)
    (hStream : s'.stream conn = s.stream conn)
    (hClosed : s.closed conn = true →
      s'.closed conn = true)
    (hConsumed : s'.consumed conn = s.consumed conn)
    (hReader : s'.reader conn = s.reader conn)
    (hFrames : s'.framesOf conn = s.framesOf conn) :
    Aligned s' conn := by
  rcases hAligned.stream with ⟨held, hHeld, hSplit⟩
  have hUnread : s'.unread conn = s.unread conn := by
    rw [State.unread, hStream, hConsumed, State.unread]
  refine ⟨?_, ?_, held, ?_, ?_⟩
  · rw [hConsumed, hStream]
    exact hAligned.bounded
  · rw [hFrames]
    exact hAligned.frames
  · rw [hReader]
    cases hAt : s.reader conn with
    | broken | done =>
        rw [hAt] at hHeld
        rcases hHeld with ⟨hOver, hShort⟩ | hRejected
        · refine Or.inl ⟨hClosed hOver, ?_⟩
          rw [hUnread]
          exact hShort
        · refine Or.inr ?_
          rw [hUnread]
          exact hRejected
    | _ =>
        rw [hAt] at hHeld
        exact hHeld
  · rw [hStream, hFrames, hUnread]
    exact hSplit

/- A reader's step leaves the other connections aligned. -/
private theorem aligned_of_ne
    {event : ReaderEvent}
    {conn' : ConnId}
    (hTask : ReaderStep s conn event s' o)
    (hConn : conn' ≠ conn)
    (hAligned : Aligned s conn') :
    Aligned s' conn' := by
  have hReader := hTask.reader_of_ne hConn
  cases hTask with
  | broadcast hAt =>
      refine hAligned.of_same rfl (fun hOver => hOver) rfl
        hReader ?_
      simp only [State.framesOf]
      rw [framesOn_snoc, if_neg (Ne.symm hConn),
        List.append_nil]
  | headerRead hAt hHeader hSize =>
      exact hAligned.of_same rfl (fun hOver => hOver)
        (Function.update_of_ne hConn _ _) hReader rfl
  | oversized hAt hHeader hSize =>
      exact hAligned.of_same rfl (fun hOver => hOver)
        (Function.update_of_ne hConn _ _) hReader rfl
  | payloadRead hAt hLength =>
      exact hAligned.of_same rfl (fun hOver => hOver)
        (Function.update_of_ne hConn _ _) hReader rfl
  | _ =>
      exact hAligned.of_same rfl (fun hOver => hOver) rfl
        hReader rfl

/- The bytes of a stream of which some more were read. -/
private theorem consumed_le
    {n : Nat}
    (hBounded : s.consumed conn ≤ (s.stream conn).length)
    (hLength : n ≤ (s.unread conn).length) :
    s.consumed conn + n ≤ (s.stream conn).length := by
  rw [State.unread, List.length_drop] at hLength
  omega

/- The header at the front of what is not read. -/
private theorem header_front
    (hHeader : headerOf (s.unread conn) = some header) :
    headerSize ≤ (s.unread conn).length ∧
      s.unread conn =
        header.toList ++ (s.unread conn).drop headerSize := by
  have hTake := headerOf_eq_some_iff.mp hHeader
  refine ⟨?_, ?_⟩
  · by_contra hShort
    rw [headerOf_eq_none_iff.mpr (not_le.mp hShort)]
      at hHeader
    cases hHeader
  · rw [← hTake, List.take_append_drop]

/- A reader's step keeps its own connection aligned. -/
private theorem aligned_of_reader
    {event : ReaderEvent}
    (hTask : ReaderStep s conn event s' o)
    (hAligned : Aligned s conn) :
    Aligned s' conn := by
  rcases hAligned.stream with ⟨held, hHeld, hSplit⟩
  cases hTask with
  | started hAt =>
      rw [hAt] at hHeld
      refine ⟨hAligned.bounded, hAligned.frames, held, ?_,
        hSplit⟩
      simp only [Function.update_self]
      exact hHeld
  | @headerRead header hAt hHeader hSize =>
      rw [hAt] at hHeld
      rcases header_front hHeader with ⟨hLength, hFront⟩
      refine ⟨?_, hAligned.frames, header.toList, ?_, ?_⟩
      · simp only [Function.update_self]
        exact consumed_le hAligned.bounded hLength
      · simp only [Function.update_self]
        exact ⟨rfl, hSize⟩
      · simp only [State.unread, Function.update_self]
        rw [unread_add, ← hFront, hSplit, hHeld]
        rfl
  | @oversized header hAt hHeader hSize =>
      rw [hAt] at hHeld
      rcases header_front hHeader with ⟨hLength, hFront⟩
      refine ⟨?_, hAligned.frames, header.toList, ?_, ?_⟩
      · simp only [Function.update_self]
        exact consumed_le hAligned.bounded hLength
      · simp only [Function.update_self]
        refine Or.inr ⟨?_, ?_⟩
        · simp [frameFormat]
        · rw [declared_of_header (take_header header _),
            if_pos hSize]
      · simp only [State.unread, Function.update_self]
        rw [unread_add, ← hFront, hSplit, hHeld]
        rfl
  | @payloadRead header hAt hLength =>
      rw [hAt] at hHeld
      rcases hHeld with ⟨rfl, hSize⟩
      refine ⟨?_, hAligned.frames,
        header.toList ++
          (s.unread conn).take (sizeOf header), ?_, ?_⟩
      · simp only [Function.update_self]
        exact consumed_le hAligned.bounded hLength
      · simp only [Function.update_self]
        refine ⟨rfl, header, _, rfl, ?_, hSize⟩
        rw [List.length_take, Nat.min_eq_left hLength]
      · simp only [State.unread, Function.update_self]
        rw [← List.drop_drop, List.append_assoc,
          List.take_append_drop]
        exact hSplit
  | @failed wanted hAt hClosed hShort =>
      refine ⟨hAligned.bounded, hAligned.frames, held, ?_,
        hSplit⟩
      simp only [Function.update_self]
      refine Or.inl ⟨hClosed, ?_⟩
      cases hReader : s.reader conn with
      | reading =>
          rw [hReader] at hAt hHeld
          cases hAt
          left
          rw [show held = [] from hHeld]
          exact hShort
      | payload header =>
          rw [hReader] at hAt hHeld
          cases hAt
          rcases hHeld with ⟨rfl, hSize⟩
          right
          refine ⟨sizeOf header, ?_, ?_⟩
          · rw [declared_of_header (take_header header _),
              if_neg (not_lt.mpr hSize)]
          · rw [List.length_append]
            refine Nat.add_lt_add_of_le_of_lt ?_ hShort
            simp [frameFormat]
      | _ => simp [hReader, Reader.wanted] at hAt
  | @broadcast frame hAt =>
      rw [hAt] at hHeld
      rcases hHeld with ⟨rfl, hFrame⟩
      have hFrames :
          framesOn (s.frames ++ [(conn, held)]) conn =
            s.framesOf conn ++ [held] := by
        rw [framesOn_snoc, if_pos rfl]
        rfl
      refine ⟨hAligned.bounded, ?_, [], ?_, ?_⟩
      · intro frame hMem
        simp only [State.framesOf] at hMem
        rw [hFrames] at hMem
        rcases List.mem_append.mp hMem with hOld | hNew
        · exact hAligned.frames frame hOld
        · rw [List.mem_singleton.mp hNew]
          exact hFrame
      · simp only [Function.update_self]
        rfl
      · simp only [State.framesOf]
        rw [hFrames, hSplit]
        simp [State.unread]
  | stopped hAt =>
      rw [hAt] at hHeld
      refine ⟨hAligned.bounded, hAligned.frames, held, ?_,
        hSplit⟩
      simp only [Function.update_self]
      exact hHeld

/- Every connection of a run is aligned. -/
theorem aligned_of_run
    {es : List Event}
    (hRun : (proxy debugLogged).Run es h s) :
    ∀ conn, Aligned s conn := by
  refine Machine.run_induction
    (motive := fun _ _ s => ∀ conn, Aligned s conn)
    ?_ ?_ hRun
  · intro conn
    exact
      { bounded := Nat.le_refl _
        frames := fun _ hMem => by cases hMem
        stream := ⟨[], rfl, rfl⟩ }
  · intro es h s e s' o hBefore hAll hNext conn
    have hAligned := hAll conn
    cases step_cases hNext with
    | accepted =>
        exact hAligned.of_same rfl (fun hOver => hOver) rfl
          rfl rfl
    | @arrived conn' bytes hConn hOpen =>
        by_cases hSame : conn = conn'
        · subst hSame
          rcases hAligned.stream with ⟨held, hHeld, hSplit⟩
          have hUnread :
              (s.stream conn ++ bytes).drop
                  (s.consumed conn) =
                s.unread conn ++ bytes :=
            List.drop_append_of_le_length hAligned.bounded
          refine ⟨?_, hAligned.frames, held, ?_, ?_⟩
          · simp only [Function.update_self,
              List.length_append]
            exact Nat.le_add_right_of_le hAligned.bounded
          · simp only
            cases hAt : s.reader conn with
            | broken | done =>
                rw [hAt] at hHeld
                rcases hHeld with ⟨hOver, -⟩ | hRejected
                · rw [hOpen] at hOver
                  cases hOver
                · right
                  simp only [State.unread,
                    Function.update_self]
                  rw [hUnread, ← List.append_assoc]
                  exact hRejected.append bytes
            | _ =>
                rw [hAt] at hHeld
                exact hHeld
          · simp only [State.unread, Function.update_self]
            rw [hUnread, hSplit]
            simp only [List.append_assoc]
            rfl
        · exact hAligned.of_same
            (Function.update_of_ne hSame _ _)
            (fun hOver => hOver) rfl rfl rfl
    | @hungUp conn' hConn =>
        refine hAligned.of_same rfl ?_ rfl rfl rfl
        intro hOver
        by_cases hSame : conn = conn'
        · subst hSame
          simp
        · simp [hSame, hOver]
    | connected =>
        by_cases hNew : conn = s.connections
        · subst hNew
          have hNumbered := numbered_of_run hBefore
          have hAbsent := hNumbered.reader _ le_rfl
          rcases hAligned.stream with ⟨held, hHeld, hSplit⟩
          rw [hAbsent] at hHeld
          refine ⟨hAligned.bounded, hAligned.frames, held,
            ?_, hSplit⟩
          simp only [Function.update_self]
          exact hHeld
        · exact hAligned.of_same rfl (fun hOver => hOver)
            rfl (Function.update_of_ne hNew _ _) rfl
    | @reader conn' event s' o hTask =>
        by_cases hSame : conn = conn'
        · subst hSame
          exact aligned_of_reader hTask hAligned
        · exact aligned_of_ne hTask hSame hAligned
    | fanout hTask =>
        cases hTask <;>
          exact hAligned.of_same rfl (fun hOver => hOver) rfl
            rfl rfl
    | aside hAside hOther =>
        refine hAligned.of_same (by rw [hAside.stream]) ?_
          (by rw [hAside.consumed]) (by rw [hAside.reader])
          ?_
        · rw [hAside.closed]
          exact fun hOver => hOver
        · unfold State.framesOf
          rw [hAside.frames]

------------------------------------------------------------
-- Clients
------------------------------------------------------------

/-
  What a client received of the frames that its task took
  from the channel: all of them, all but the one in hand, or
  at the end all but what is missing of the last one.
-/
def ReceivedOk
    (taken : List Bytes)
    (received : Bytes) : Fanout → Prop
| .absent | .receiving => received = taken.flatten
| .writing frame =>
    ∃ whole, taken = whole ++ [frame] ∧
      received = whole.flatten
| .ended =>
    received = taken.flatten ∨
      ∃ whole frame tail, taken = whole ++ [frame] ∧
        tail <+: frame ∧ received = whole.flatten ++ tail

/- A client got what its task took from the channel. -/
def Fanned (s : State) (c : ClientId) : Prop :=
  ∃ taken,
    Broadcast.Heard s.frames (s.subscribed c) (s.frameRx c)
      taken ∧
      ReceivedOk (taken.map Prod.snd) (s.received c)
        (s.fanout c)

/- A client that a step leaves alone, but for new frames. -/
private theorem Fanned.of_same
    {new : List (ConnId × Bytes)}
    (hFanned : Fanned s c)
    (hFrames : s'.frames = s.frames ++ new)
    (hSubscribed : s'.subscribed c = s.subscribed c)
    (hFrameRx : s'.frameRx c = s.frameRx c)
    (hReceived : s'.received c = s.received c)
    (hFanout : s'.fanout c = s.fanout c) :
    Fanned s' c := by
  rcases hFanned with ⟨taken, hHeard, hOk⟩
  refine ⟨taken, ?_, ?_⟩
  · rw [hFrames, hSubscribed, hFrameRx]
    exact hHeard.send new
  · rw [hReceived, hFanout]
    exact hOk

/- A fan-out step leaves the other clients alone. -/
private theorem fanned_of_ne
    {event : FanoutEvent}
    {c' : ClientId}
    (hTask : FanoutStep s c event s' o)
    (hClient : c' ≠ c)
    (hFanned : Fanned s c') :
    Fanned s' c' := by
  have hNe {α : Type} (f : ClientId → α) (x : α) :
      Function.update f c x c' = f c' :=
    Function.update_of_ne hClient x f
  have hFrames : s'.frames = s.frames ++ [] := by
    cases hTask <;> exact (List.append_nil _).symm
  cases hTask with
  | received hAt hRecv =>
      exact hFanned.of_same hFrames rfl (hNe _ _) rfl
        (hNe _ _)
  | lagged hAt hRecv =>
      exact hFanned.of_same hFrames rfl (hNe _ _) rfl rfl
  | wrote hAt =>
      exact hFanned.of_same hFrames rfl rfl (hNe _ _)
        (hNe _ _)
  | cut written hAt =>
      exact hFanned.of_same hFrames rfl rfl (hNe _ _)
        (hNe _ _)
  | stopped hAt =>
      exact hFanned.of_same hFrames rfl rfl rfl (hNe _ _)

/- A fan-out step keeps its own client right. -/
private theorem fanned_of_fanout
    {event : FanoutEvent}
    (hTask : FanoutStep s c event s' o)
    (hFanned : Fanned s c) :
    Fanned s' c := by
  rcases hFanned with ⟨taken, hHeard, hOk⟩
  cases hTask with
  | @received conn frame position hAt hRecv =>
      rw [hAt] at hOk
      refine ⟨taken ++ [(conn, frame)], ?_, ?_⟩
      · simp only [Function.update_self]
        exact hHeard.received hRecv
      · simp only [Function.update_self]
        refine ⟨taken.map Prod.snd, ?_, hOk⟩
        simp
  | lagged hAt hRecv =>
      refine ⟨taken, ?_, hOk⟩
      simp only [Function.update_self]
      exact hHeard.lagged hRecv
  | @wrote frame hAt =>
      rw [hAt] at hOk
      rcases hOk with ⟨whole, hTaken, hReceived⟩
      refine ⟨taken, hHeard, ?_⟩
      simp only [Function.update_self]
      rw [hTaken, hReceived]
      simp [ReceivedOk]
  | @cut event frame written hAt =>
      rw [hAt] at hOk
      rcases hOk with ⟨whole, hTaken, hReceived⟩
      refine ⟨taken, hHeard, ?_⟩
      simp only [Function.update_self]
      rw [hReceived]
      exact Or.inr ⟨whole, frame, frame.take written,
        hTaken, List.take_prefix written frame, rfl⟩
  | stopped hAt =>
      rw [hAt] at hOk
      refine ⟨taken, hHeard, ?_⟩
      simp only [Function.update_self]
      exact Or.inl hOk

/- A client that is not there yet has received nothing. -/
theorem received_of_absent
    {es : List Event}
    (hRun : (proxy debugLogged).Run es h s) :
    ∀ c, s.clients ≤ c →
      s.fanout c = .absent ∧ s.received c = [] := by
  refine Machine.run_invariant
    (motive := fun _ s => ∀ c, s.clients ≤ c →
      s.fanout c = .absent ∧ s.received c = [])
    (fun _ _ => ⟨rfl, rfl⟩) ?_ hRun
  intro h s e s' o hInv hNext c hNew
  cases step_cases hNext with
  | accepted =>
      have hOld := hInv c (Nat.le_of_succ_le hNew)
      have hOther : c ≠ s.clients :=
        Nat.ne_of_gt (Nat.lt_of_succ_le hNew)
      refine ⟨?_, hOld.2⟩
      simp only [acceptClient, Function.update_of_ne hOther]
      exact hOld.1
  | @fanout c' event s' o hTask =>
      have hClients : s'.clients = s.clients := by
        cases hTask <;> rfl
      rw [hClients] at hNew
      have hOld := hInv c hNew
      have hOther : c ≠ c' := by
        rintro rfl
        cases hTask with
        | received hAt hRecv | lagged hAt hRecv | wrote hAt
        | cut written hAt | stopped hAt =>
            rw [hOld.1] at hAt
            cases hAt
      cases hTask with
      | lagged hAt hRecv => exact hOld
      | wrote hAt =>
          simp only [Function.update_of_ne hOther]
          exact hOld
      | cut written hAt =>
          simp only [Function.update_of_ne hOther]
          exact hOld
      | received hAt hRecv =>
          simp only [Function.update_of_ne hOther]
          exact hOld
      | stopped hAt =>
          simp only [Function.update_of_ne hOther]
          exact hOld
  | reader hTask => cases hTask <;> exact hInv c hNew
  | aside hAside hOther =>
      rw [hAside.clients] at hNew
      rw [hAside.fanout, hAside.received]
      exact hInv c hNew
  | _ => exact hInv c hNew

/- Every client of a run got what its task took. -/
theorem fanned_of_run
    {es : List Event}
    (hRun : (proxy debugLogged).Run es h s) :
    ∀ c, Fanned s c := by
  refine Machine.run_induction
    (motive := fun _ _ s => ∀ c, Fanned s c) ?_ ?_ hRun
  · intro c
    exact ⟨[], Broadcast.heard_subscribe, rfl⟩
  · intro es h s e s' o hBefore hAll hNext c
    have hFanned := hAll c
    cases step_cases hNext with
    | accepted =>
        by_cases hNew : c = s.clients
        · subst hNew
          have hNone :=
            (received_of_absent hBefore _ le_rfl).2
          refine ⟨[], ?_, ?_⟩
          · simp only [acceptClient, Function.update_self]
            exact Broadcast.heard_subscribe
          · simp only [acceptClient, Function.update_self]
            exact hNone
        · exact hFanned.of_same (List.append_nil _).symm
            (Function.update_of_ne hNew _ _)
            (Function.update_of_ne hNew _ _) rfl
            (Function.update_of_ne hNew _ _)
    | @fanout c' event s' o hTask =>
        by_cases hClient : c = c'
        · subst hClient
          exact fanned_of_fanout hTask hFanned
        · exact fanned_of_ne hTask hClient hFanned
    | reader hTask =>
        cases hTask with
        | broadcast hAt =>
            exact hFanned.of_same rfl rfl rfl rfl rfl
        | _ =>
            exact hFanned.of_same (List.append_nil _).symm
              rfl rfl rfl rfl
    | aside hAside hOther =>
        refine hFanned.of_same
          (by rw [hAside.frames, List.append_nil])
          (by rw [hAside.subscribed])
          (by rw [hAside.frameRx])
          (by rw [hAside.received])
          (by rw [hAside.fanout])
    | _ =>
        exact hFanned.of_same (List.append_nil _).symm rfl
          rfl rfl rfl

------------------------------------------------------------
-- Settled Readers
------------------------------------------------------------

/- The reader of a connection cannot take a step now. -/
def Settled (s : State) (conn : ConnId) : Prop :=
  ∀ event, upstreamReaderTask s conn event = none

/- How far a reader is from the end of what has arrived. -/
def Reader.rank : Reader → Nat
| .absent | .done => 0
| .broken => 1
| .reading => 2
| .sending _ => 3
| .payload _ => 4
| .spawned => 5

/- What a reader still has to do, as a number. -/
def State.pending (s : State) (conn : ConnId) : Nat :=
  4 * (s.unread conn).length + (s.reader conn).rank

/- Every step of a reader brings it closer to the end. -/
theorem ReaderStep.pending_lt
    {event : ReaderEvent}
    (hTask : ReaderStep s conn event s' o) :
    s'.pending conn < s.pending conn ∧
      s'.stream = s.stream := by
  cases hTask with
  | started hAt =>
      refine ⟨?_, rfl⟩
      simp [State.pending, State.unread, hAt, Reader.rank]
  | @headerRead header hAt hHeader hSize =>
      refine ⟨?_, rfl⟩
      have hLength := (header_front hHeader).1
      simp only [State.pending, State.unread, hAt,
        Function.update_self, Reader.rank]
      rw [unread_add, List.length_drop]
      unfold State.unread at hLength ⊢
      simp only [headerSize] at hLength ⊢
      omega
  | @oversized header hAt hHeader hSize =>
      refine ⟨?_, rfl⟩
      have hLength := (header_front hHeader).1
      simp only [State.pending, State.unread, hAt,
        Function.update_self, Reader.rank]
      rw [unread_add, List.length_drop]
      unfold State.unread at hLength ⊢
      simp only [headerSize] at hLength ⊢
      omega
  | payloadRead hAt hLength =>
      refine ⟨?_, rfl⟩
      simp only [State.pending, State.unread, hAt,
        Function.update_self, Reader.rank]
      rw [unread_add, List.length_drop]
      unfold State.unread
      omega
  | failed hAt hClosed hShort =>
      refine ⟨?_, rfl⟩
      have hRank : 1 < (s.reader conn).rank := by
        cases hReader : s.reader conn with
        | reading => decide
        | payload header => exact Nat.le_of_ble_eq_true rfl
        | _ => simp [hReader, Reader.wanted] at hAt
      simp only [State.pending, State.unread,
        Function.update_self]
      exact Nat.add_lt_add_left hRank _
  | broadcast hAt =>
      refine ⟨?_, rfl⟩
      simp [State.pending, State.unread, hAt, Reader.rank]
  | stopped hAt =>
      refine ⟨?_, rfl⟩
      simp [State.pending, State.unread, hAt, Reader.rank]

/- A reader left to itself settles. -/
theorem settles
    {es : List Event}
    (hRun : (proxy debugLogged).Run es h s) :
    ∃ (events : List ReaderEvent) (h' : List Obs)
      (s' : State),
      (proxy debugLogged).Run
          (es ++ events.map (Event.reader conn)) h' s' ∧
        s'.stream conn = s.stream conn ∧
          Settled s' conn := by
  -- The induction is on what the reader still has to do.
  induction hPending : s.pending conn
    using Nat.strong_induction_on generalizing es h s with
  | _ n ih =>
      by_cases hSettled : Settled s conn
      · exact ⟨[], h, s, by simpa using hRun, rfl, hSettled⟩
      · unfold Settled at hSettled
        push Not at hSettled
        rcases hSettled with ⟨event, hSome⟩
        rcases Option.ne_none_iff_exists'.mp hSome with
          ⟨⟨s₁, o₁⟩, hStep⟩
        have hTask := upstreamReaderTask_cases hStep
        rcases hTask.pending_lt with ⟨hLess, hStream⟩
        have hNext :
            (proxy debugLogged).Run
              (es ++ [.reader conn event]) (h ++ o₁) s₁ :=
          Machine.run_snoc_iff.mpr
            ⟨h, s, o₁, hRun, hStep, rfl⟩
        rcases ih (s₁.pending conn) (hPending ▸ hLess)
          hNext rfl with ⟨events, h', s', hRest, hSame, hEnd⟩
        refine ⟨event :: events, h', s', ?_, ?_, hEnd⟩
        · simpa using hRest
        · rw [hSame, hStream]

/- A settled reader has no whole frame left to cut off. -/
theorem Aligned.next_of_settled
    (hAligned : Aligned s conn)
    (hPresent : s.reader conn ≠ .absent)
    (hSettled : Settled s conn) :
    ∃ rest,
      s.stream conn = (s.framesOf conn).flatten ++ rest ∧
        frameFormat.next rest = none := by
  rcases hAligned.stream with ⟨held, hHeld, hSplit⟩
  refine ⟨held ++ s.unread conn, hSplit, ?_⟩
  cases hAt : s.reader conn with
  | absent => exact absurd hAt hPresent
  | spawned =>
      have hStart := hSettled .start
      simp [upstreamReaderTask, hAt] at hStart
  | reading =>
      rw [hAt] at hHeld
      rw [show held = [] from hHeld, List.nil_append]
      have hHeader := hSettled .header
      apply Format.next_of_short
      left
      apply headerOf_eq_none_iff.mp
      cases hOf : headerOf (s.unread conn) with
      | none => rfl
      | some header =>
          simp [upstreamReaderTask, hAt, hOf] at hHeader
  | payload header =>
      rw [hAt] at hHeld
      rcases hHeld with ⟨rfl, hSize⟩
      have hPayload := hSettled .payload
      simp [upstreamReaderTask, hAt] at hPayload
      apply Format.next_of_short
      right
      refine ⟨sizeOf header, ?_, ?_⟩
      · rw [declared_of_header (take_header header _),
          if_neg (not_lt.mpr hSize)]
      · rw [List.length_append]
        refine Nat.add_lt_add_of_le_of_lt ?_ hPayload
        simp [frameFormat]
  | sending frame =>
      have hBroadcast := hSettled .broadcast
      simp [upstreamReaderTask, hAt] at hBroadcast
  | broken =>
      have hStop := hSettled .stop
      simp [upstreamReaderTask, hAt] at hStop
  | done =>
      rw [hAt] at hHeld
      rcases hHeld with ⟨-, hShort⟩ | hRejected
      · exact Format.next_of_short hShort
      · exact Format.next_of_rejected hRejected

------------------------------------------------------------
-- End to End
------------------------------------------------------------

/-
  The frames of one connection: whole frames of a reasonable
  size, the first ones of its stream. A stream of such
  frames is broadcast up to some frame, and completely by
  the time the reader has nothing left to do.
-/
structure FramesOk (s : State) (conn : ConnId) : Prop where
  whole : ∀ frame ∈ s.framesOf conn, Reasonable frame
  stream : (s.framesOf conn).flatten <+: s.stream conn
  inOrder :
    s.framesOf conn <+: frameFormat.frames (s.stream conn)
  complete : ∀ fs,
    (∀ frame ∈ fs, Reasonable frame) →
      s.stream conn = fs.flatten →
        s.framesOf conn <+: fs ∧
          (s.reader conn ≠ .absent → Settled s conn →
            s.framesOf conn = fs)

/- The frames that were broadcast since a client came. -/
def State.framesSince (s : State) (c : ClientId) :
    List Bytes :=
  (s.frames.drop (s.subscribed c)).map Prod.snd

/-
  What a client received: whole frames among those that were
  broadcast since it came, in order, and at the end of its
  connection perhaps the first bytes of one more.
-/
def ClientOk (s : State) (c : ClientId) : Prop :=
  ∃ whole tail,
    s.received c = whole.flatten ++ tail ∧
      (tail = [] ∧ whole.Sublist (s.framesSince c) ∨
        s.fanout c = .ended ∧
          ∃ frame, tail <+: frame ∧
            (whole ++ [frame]).Sublist (s.framesSince c))

/- An aligned connection has the right frames. -/
theorem Aligned.framesOk
    (hAligned : Aligned s conn) :
    FramesOk s conn := by
  have hWhole : ∀ frame ∈ s.framesOf conn,
      frameFormat.IsFrame frame := fun frame hMem =>
    isFrame_iff.mpr (hAligned.frames frame hMem)
  rcases hAligned.stream with ⟨held, -, hSplit⟩
  have hFront :
      s.framesOf conn <+:
        frameFormat.frames (s.stream conn) := by
    rw [hSplit, Format.frames_append hWhole]
    exact List.prefix_append _ _
  refine ⟨hAligned.frames, ?_, hFront, ?_⟩
  · exact ⟨_, hSplit.symm⟩
  · intro fs hReasonable hStream
    have hCut : frameFormat.frames (s.stream conn) = fs := by
      rw [hStream]
      exact Format.frames_flatten fun frame hMem =>
        isFrame_iff.mpr (hReasonable frame hMem)
    refine ⟨hCut ▸ hFront, ?_⟩
    intro hPresent hSettled
    rcases hAligned.next_of_settled hPresent hSettled with
      ⟨rest, hRest, hNone⟩
    rw [← hCut, hRest, Format.frames_append hWhole,
      Format.frames_of_none hNone, List.append_nil]

/- A client that got what its task took. -/
theorem Fanned.clientOk
    (hFanned : Fanned s c) :
    ClientOk s c := by
  rcases hFanned with ⟨taken, hHeard, hOk⟩
  have hTaken :
      (taken.map Prod.snd).Sublist (s.framesSince c) :=
    hHeard.sublist.map Prod.snd
  -- All that was taken was written, with nothing missing.
  have hAll :
      s.received c = (taken.map Prod.snd).flatten →
        ClientOk s c := by
    intro hReceived
    exact ⟨_, [], by rw [hReceived, List.append_nil],
      Or.inl ⟨rfl, hTaken⟩⟩
  cases hAt : s.fanout c with
  | absent | receiving =>
      rw [hAt] at hOk
      exact hAll hOk
  | writing frame =>
      rw [hAt] at hOk
      rcases hOk with ⟨whole, hLast, hReceived⟩
      refine ⟨whole, [], ?_, Or.inl ⟨rfl, ?_⟩⟩
      · rw [hReceived, List.append_nil]
      · rw [hLast] at hTaken
        exact (List.sublist_append_left _ _).trans hTaken
  | ended =>
      rw [hAt] at hOk
      rcases hOk with
        hReceived | ⟨whole, frame, tail, hLast, hTail,
          hReceived⟩
      · exact hAll hReceived
      · refine ⟨whole, tail, hReceived, Or.inr ⟨hAt, frame,
          hTail, ?_⟩⟩
        rw [← hLast]
        exact hTaken

/- A broadcast frame is a frame of its connection. -/
theorem mem_framesOf
    {item : ConnId × Bytes}
    (hMem : item ∈ s.frames) :
    item.2 ∈ s.framesOf item.1 := by
  refine List.mem_filterMap.mpr ⟨item, hMem, ?_⟩
  rw [if_pos rfl]

/-
  Every frame that is broadcast is whole and reasonable, the
  frames of each connection are the first ones of its stream
  and all of them once its reader has settled, which it does
  when it is left to itself, and every client gets whole
  frames, but for what is cut off when its connection ends.
-/
theorem frames_aligned
    {es : List Event}
    (hRun : (proxy debugLogged).Run es h s) :
    (∀ item ∈ s.frames, Reasonable item.2) ∧
      (∀ conn, FramesOk s conn) ∧
      (∀ conn, ∃ (events : List ReaderEvent)
        (h' : List Obs) (s' : State),
        (proxy debugLogged).Run
            (es ++ events.map (Event.reader conn)) h' s' ∧
          s'.stream conn = s.stream conn ∧
            Settled s' conn) ∧
      ∀ c, ClientOk s c := by
  have hAligned := aligned_of_run hRun
  refine ⟨?_, ?_, ?_, ?_⟩
  · intro item hMem
    exact (hAligned item.1).frames item.2 (mem_framesOf hMem)
  · intro conn
    exact (hAligned conn).framesOk
  · intro conn
    exact settles hRun
  · intro c
    exact (fanned_of_run hRun c).clientOk

/- A header that declares two bytes of payload. -/
def smallHeader : Bytes :=
  List.replicate 9 0 ++ [2] ++ List.replicate 70 0

/-
  A frame and part of a second one arrive; the frame goes to
  the one client.
-/
def oneFrame : List Event :=
  connectFirst ++
    [.accept, .arrive 0 (smallHeader ++ [1, 2, 0, 0]),
      .reader 0 .header, .reader 0 .payload,
      .reader 0 .broadcast, .fanout 0 .recv,
      .fanout 0 .write]

theorem frames_aligned_oneFrame :
    ∃ h s, (proxy true).Run oneFrame h s ∧
      s.received 0 = smallHeader ++ [1, 2] ∧
      (∀ item ∈ s.frames, Reasonable item.2) ∧
      (∀ conn, FramesOk s conn) ∧
      (∀ conn, ∃ (events : List ReaderEvent)
        (h' : List Obs) (s' : State),
        (proxy true).Run
            (oneFrame ++ events.map (Event.reader conn))
            h' s' ∧
          s'.stream conn = s.stream conn ∧
            Settled s' conn) ∧
      ∀ c, ClientOk s c :=
  ⟨_, _, Machine.run_outcome (by decide +kernel),
    by decide +kernel,
    frames_aligned
      (Machine.run_outcome (by decide +kernel))⟩

end Imaging

end SeestarProxy
