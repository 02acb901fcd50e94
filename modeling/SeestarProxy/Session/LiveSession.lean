import SeestarProxy.Control.Routing
import SeestarProxy.Imaging.Solo
import SeestarProxy.Library.Parts
import SeestarProxy.Session.Order

/-
  A live session that is recorded, and its replay.

  Both ports run at once and share one recorder: the control
  proxy records each line of a client and of the telescope,
  an imaging reader each frame before it broadcasts it. What
  a step records is shown beside what the step shows.

  A call to the recorder happens within the step that makes
  it. The order of the calls of different tasks is then the
  order in which they take the lock of the control file, or
  draw the index of a frame file.

  Main declarations:
    * `Live`, `LiveEvent`, `LiveObs` and `liveProxy`
    * `run_parts`: a session is a run of each proxy
    * `Solo` and `solo_of_run`
    * `SessionReplayed` and `live_session_replays`
-/

------------------------------------------------------------
-- The Session
------------------------------------------------------------

namespace SeestarProxy

namespace Session

open Imaging (Bytes HeaderBuf ConnId framesOn)
open Library Protocol

/- The two proxies and their recorder. -/
structure Live where
  control : Control.State
  imaging : Imaging.State
  recorder : Recorder

def Live.init (dir : SessionDir) : Live where
  control := Control.State.init
  imaging := Imaging.State.init
  recorder := Recorder.new dir

/- A step of one of the proxies, with the recorder's clock. -/
inductive LiveEvent where
| control (e : Control.Event) (timestamp : F64)
| imaging (e : Imaging.Event)

/- What a step shows, and what it records. -/
inductive LiveObs where
| control (x : Control.Obs)
| imaging (x : Imaging.Obs)
| recordedLine (line : ControlLine)
| recordedFrame (conn : ConnId) (header : HeaderBuf)
    (payload : Bytes)

/-
  The direction and the text of what a step of the control
  proxy records: a line that is not blank, before it is
  parsed. A reader that panics on a line has not yet
  recorded it.
-/
def recordedText : Control.Event → Option (String × String)
| .client _ (.line text) =>
    let trimmed := Text.trim text
    if trimmed = "" then
      none
    else
      some ("client", trimmed)
| .reader _ (.line text) =>
    let trimmed := Text.trim text
    if trimmed = "" ∨
        (Control.methodHint trimmed).isNone = true then
      none
    else
      some ("telescope", trimmed)
| _ => none

/- The frame that a step of the imaging proxy records. -/
def recordedPart
    (s : Imaging.State) :
    Imaging.Event → Option (ConnId × HeaderBuf × Bytes)
| .reader conn .payload =>
    match s.reader conn with
    | .payload header =>
        some (conn, header,
          (s.unread conn).take (Imaging.sizeOf header))
    | _ => none
| _ => none

/- One step of a live session. -/
def liveStep
    (env : Control.Env)
    (serde : SessionSerde)
    (s : Live) :
    LiveEvent → Option (Live × List LiveObs)
| .control e timestamp =>
    match (Control.proxy env).step s.control e with
    | none => none
    | some (control, o) =>
        match recordedText e with
        | none =>
            some ({ s with control := control },
              o.map .control)
        | some (direction, raw) =>
            let line := ⟨timestamp, direction, raw⟩
            some ({ s with
              control := control
              recorder :=
                s.recorder.recordControl serde line },
              .recordedLine line :: o.map .control)
| .imaging e =>
    match (Imaging.proxy env.debugLogged).step
        s.imaging e with
    | none => none
    | some (imaging, o) =>
        match recordedPart s.imaging e with
        | none =>
            some ({ s with imaging := imaging },
              o.map .imaging)
        | some (conn, header, payload) =>
            some ({ s with
              imaging := imaging
              recorder :=
                s.recorder.recordFrame header payload },
              .recordedFrame conn header payload ::
                o.map .imaging)

/- The session as a machine. -/
def liveProxy
    (env : Control.Env)
    (serde : SessionSerde)
    (dir : SessionDir) :
    Machine Live LiveEvent LiveObs where
  init := Live.init dir
  step := liveStep env serde

------------------------------------------------------------
-- The Proxies as Parts
------------------------------------------------------------

variable {env : Control.Env} {serde : SessionSerde}
variable {dir : SessionDir} {h o : List LiveObs}
variable {s s' : Live} {conn : ConnId}

def LiveEvent.control? : LiveEvent → List Control.Event
| .control e _ => [e]
| .imaging _ => []

def LiveEvent.imaging? : LiveEvent → List Imaging.Event
| .imaging e => [e]
| .control _ _ => []

def LiveObs.control? : LiveObs → Option Control.Obs
| .control x => some x
| _ => none

def LiveObs.imaging? : LiveObs → Option Imaging.Obs
| .imaging x => some x
| _ => none

/- A call that the recorder takes. -/
def LiveObs.call? : LiveObs → Option Call
| .recordedLine line => some (.control line)
| .recordedFrame _ header payload =>
    some (.frame header payload)
| _ => none

/- What one step of a live session can be. -/
inductive LiveStep
    (env : Control.Env)
    (serde : SessionSerde)
    (s : Live) :
    LiveEvent → Live → List LiveObs → Prop
| control {e : Control.Event} {timestamp : F64}
    {control : Control.State} {o : List Control.Obs}
    (hNext : (Control.proxy env).step s.control e =
      some (control, o))
    (hText : recordedText e = none) :
    LiveStep env serde s (.control e timestamp)
      { s with control := control } (o.map .control)
| line {e : Control.Event} {timestamp : F64}
    {control : Control.State} {o : List Control.Obs}
    {direction raw : String}
    (hNext : (Control.proxy env).step s.control e =
      some (control, o))
    (hText : recordedText e = some (direction, raw)) :
    LiveStep env serde s (.control e timestamp)
      { s with
        control := control
        recorder := s.recorder.recordControl serde
          ⟨timestamp, direction, raw⟩ }
      (.recordedLine ⟨timestamp, direction, raw⟩ ::
        o.map .control)
| imaging {e : Imaging.Event} {imaging : Imaging.State}
    {o : List Imaging.Obs}
    (hNext : (Imaging.proxy env.debugLogged).step
      s.imaging e = some (imaging, o))
    (hPart : recordedPart s.imaging e = none) :
    LiveStep env serde s (.imaging e)
      { s with imaging := imaging } (o.map .imaging)
| frame {e : Imaging.Event} {imaging : Imaging.State}
    {o : List Imaging.Obs} {conn : ConnId}
    {header : HeaderBuf} {payload : Bytes}
    (hNext : (Imaging.proxy env.debugLogged).step
      s.imaging e = some (imaging, o))
    (hPart : recordedPart s.imaging e =
      some (conn, header, payload)) :
    LiveStep env serde s (.imaging e)
      { s with
        imaging := imaging
        recorder := s.recorder.recordFrame header payload }
      (.recordedFrame conn header payload ::
        o.map .imaging)

theorem liveStep_cases
    {e : LiveEvent}
    (hStep : liveStep env serde s e = some (s', o)) :
    LiveStep env serde s e s' o := by
  cases e with
  | control e timestamp =>
      simp only [liveStep] at hStep
      split at hStep
      · cases hStep
      · rename_i hNext
        split at hStep
        · rename_i hText
          cases hStep
          exact .control hNext hText
        · rename_i hText
          cases hStep
          exact .line hNext hText
  | imaging e =>
      simp only [liveStep] at hStep
      split at hStep
      · cases hStep
      · rename_i hNext
        split at hStep
        · rename_i hPart
          cases hStep
          exact .imaging hNext hPart
        · rename_i hPart
          cases hStep
          exact .frame hNext hPart

@[simp] theorem control_map_control (o : List Control.Obs) :
    (o.map LiveObs.control).filterMap LiveObs.control? =
      o := by
  rw [List.filterMap_map]
  exact List.filterMap_some

@[simp] theorem control_map_imaging (o : List Imaging.Obs) :
    (o.map LiveObs.imaging).filterMap LiveObs.control? =
      [] := by
  rw [List.filterMap_map]
  exact List.filterMap_none _

@[simp] theorem imaging_map_imaging (o : List Imaging.Obs) :
    (o.map LiveObs.imaging).filterMap LiveObs.imaging? =
      o := by
  rw [List.filterMap_map]
  exact List.filterMap_some

@[simp] theorem imaging_map_control (o : List Control.Obs) :
    (o.map LiveObs.control).filterMap LiveObs.imaging? =
      [] := by
  rw [List.filterMap_map]
  exact List.filterMap_none _

/- The imaging proxy within a live session. -/
def imagingPart
    (env : Control.Env)
    (serde : SessionSerde)
    (dir : SessionDir) :
    (liveProxy env serde dir).Part
      (Imaging.proxy env.debugLogged) where
  view := Live.imaging
  events := fun _ e => e.imaging?
  shown := LiveObs.imaging?
  init := rfl
  step := by
    intro s e s' o hStep
    cases liveStep_cases hStep with
    | control hNext hText =>
        rw [imaging_map_control]
        rfl
    | line hNext hText =>
        rw [List.filterMap_cons_none rfl,
          imaging_map_control]
        rfl
    | imaging hNext hPart =>
        rw [imaging_map_imaging]
        exact Machine.exec_one hNext
    | frame hNext hPart =>
        rw [List.filterMap_cons_none rfl,
          imaging_map_imaging]
        exact Machine.exec_one hNext

------------------------------------------------------------
-- Recorded Lines
------------------------------------------------------------

/- The calls that the recorder took. -/
def recorderCalls (h : List LiveObs) : List Call :=
  h.filterMap LiveObs.call?

/- A line that a reader of the control port received. -/
def receivedText : Control.Obs → Option String
| .received _ trimmed => some trimmed
| _ => none

/- The lines of the telescope, in the order they came. -/
def receivedLines (h : List LiveObs) : List String :=
  (h.filterMap LiveObs.control?).filterMap receivedText

theorem recorderCalls_append (h o : List LiveObs) :
    recorderCalls (h ++ o) =
      recorderCalls h ++ recorderCalls o :=
  List.filterMap_append

@[simp] theorem recorderCalls_control
    (o : List Control.Obs) :
    recorderCalls (o.map .control) = [] := by
  unfold recorderCalls
  rw [List.filterMap_map]
  exact List.filterMap_none _

@[simp] theorem recorderCalls_imaging
    (o : List Imaging.Obs) :
    recorderCalls (o.map .imaging) = [] := by
  unfold recorderCalls
  rw [List.filterMap_map]
  exact List.filterMap_none _

@[simp] theorem recorderCalls_line
    (line : ControlLine)
    (o : List LiveObs) :
    recorderCalls (.recordedLine line :: o) =
      .control line :: recorderCalls o := rfl

@[simp] theorem recorderCalls_frame
    (conn : ConnId)
    (header : HeaderBuf)
    (payload : Bytes)
    (o : List LiveObs) :
    recorderCalls (.recordedFrame conn header payload :: o) =
      .frame header payload :: recorderCalls o := rfl

/- The recorder of a run has taken the calls of the run. -/
theorem liveRecorder_of_run
    {es : List LiveEvent}
    (hRun : (liveProxy env serde dir).Run es h s) :
    s.recorder = (recorderCalls h).foldl (Call.perform serde)
      (Recorder.new dir) := by
  refine Machine.run_invariant
    (motive := fun h s => s.recorder =
      (recorderCalls h).foldl (Call.perform serde)
        (Recorder.new dir))
    rfl ?_ hRun
  intro h s e s' o hBefore hNext
  rw [recorderCalls_append, List.foldl_append, ← hBefore]
  cases liveStep_cases hNext with
  | control hStep hText => rw [recorderCalls_control]; rfl
  | line hStep hText =>
      rw [recorderCalls_line, recorderCalls_control]
      rfl
  | imaging hStep hPart => rw [recorderCalls_imaging]; rfl
  | frame hStep hPart =>
      rw [recorderCalls_frame, recorderCalls_imaging]
      rfl

/- The text of the telescope that a step records. -/
def telescopeText (e : Control.Event) : List String :=
  ((recordedText e).filter fun text =>
    text.1 = "telescope").toList.map Prod.snd

/- A line of the telescope is recorded as it is received. -/
private theorem received_of_reader
    {p p' : Control.State}
    {event : Control.ReaderEvent}
    {o : List Control.Obs}
    (hNext : Control.upstreamReaderTask env p conn event =
      some (p', o)) :
    o.filterMap receivedText =
      telescopeText (.reader conn event) := by
  cases event with
  | line text =>
      cases hAt : p.reader conn with
      | reading =>
          simp only [Control.upstreamReaderTask, hAt] at hNext
          split at hNext
          · cases hNext
          · unfold telescopeText recordedText
            dsimp only
            split at hNext
            · rename_i hBlank
              cases hNext
              rw [if_pos (.inl hBlank)]
              rfl
            · rename_i hText
              split at hNext
              · rename_i hPanic
                cases hNext
                rw [if_pos (.inr hPanic)]
                rfl
              · rename_i hHint
                cases hNext
                rw [if_neg (not_or.mpr ⟨hText, hHint⟩)]
                rfl
      | _ => simp [Control.upstreamReaderTask, hAt] at hNext
  | _ => cases Control.upstreamReaderTask_cases hNext <;> rfl

private theorem received_of_step
    {p p' : Control.State}
    {e : Control.Event}
    {o : List Control.Obs}
    (hNext : (Control.proxy env).step p e = some (p', o)) :
    o.filterMap receivedText = telescopeText e := by
  by_cases hReader : ∃ conn event, e = .reader conn event
  · rcases hReader with ⟨conn, event, rfl⟩
    exact received_of_reader hNext
  · have hNone : telescopeText e = [] := by
      cases e with
      | reader conn event =>
          exact absurd ⟨conn, event, rfl⟩ hReader
      | client c event =>
          cases event with
          | line text =>
              unfold telescopeText recordedText
              dsimp only
              split <;> rfl
          | _ => rfl
      | _ => rfl
    rw [hNone]
    cases Control.step_cases hNext with
    | reader hTask => exact absurd ⟨_, _, rfl⟩ hReader
    | client hTask => cases hTask <;> rfl
    | upstream hTask => cases hTask <;> rfl
    | heartbeat hTask => cases hTask <;> rfl
    | writer hTask => cases hTask <;> rfl
    | _ => rfl

/- The telescope's lines are recorded in order, each once. -/
theorem telescopeRaws_of_run
    {es : List LiveEvent}
    (hRun : (liveProxy env serde dir).Run es h s) :
    telescopeRaws (controlLines (recorderCalls h)) =
      receivedLines h := by
  refine Machine.run_invariant
    (motive := fun h _ =>
      telescopeRaws (controlLines (recorderCalls h)) =
        receivedLines h)
    rfl ?_ hRun
  intro h s e s' o hBefore hNext
  have hAppend : telescopeRaws
      (controlLines (recorderCalls (h ++ o))) =
      telescopeRaws (controlLines (recorderCalls h)) ++
        telescopeRaws (controlLines (recorderCalls o)) := by
    simp [telescopeRaws, controlLines, recorderCalls]
  have hReceived : receivedLines (h ++ o) =
      receivedLines h ++ receivedLines o := by
    simp [receivedLines]
  rw [hAppend, hReceived, hBefore]
  congr 1
  unfold receivedLines
  cases liveStep_cases hNext with
  | control hStep hText =>
      rw [recorderCalls_control, control_map_control,
        received_of_step hStep, telescopeText, hText]
      rfl
  | @line e timestamp control o direction raw hStep hText =>
      rw [recorderCalls_line, recorderCalls_control,
        List.filterMap_cons_none rfl, control_map_control,
        received_of_step hStep, telescopeText, hText]
      change telescopeRaws [_] = _
      rw [telescopeRaws_cons]
      by_cases hTelescope : direction = "telescope"
      · simp [hTelescope, telescopeRaws, Option.filter_some]
      · simp [hTelescope, telescopeRaws, Option.filter_some]
  | imaging hStep hPart =>
      rw [recorderCalls_imaging, control_map_imaging]
      rfl
  | frame hStep hPart =>
      rw [recorderCalls_frame, recorderCalls_imaging,
        List.filterMap_cons_none rfl, control_map_imaging]
      rfl

------------------------------------------------------------
-- Recorded Frames
------------------------------------------------------------

/- A frame of an image, which the recorder keeps. -/
def isImageFrame (frame : Bytes) : Bool :=
  (Imaging.headerOf frame).any fun header =>
    (FrameHeader.parse header).isImage

/- The images among some frames. -/
def imagesIn
    (frames : List (ConnId × Bytes)) :
    List (ConnId × Bytes) :=
  frames.filter fun item => isImageFrame item.2

/- A frame that the recorder was handed. -/
def LiveObs.frame? : LiveObs → Option (ConnId × Bytes)
| .recordedFrame conn header payload =>
    some (conn, header.toList ++ payload)
| _ => none

/- The images that were recorded, in order. -/
def recordedImages (h : List LiveObs) :
    List (ConnId × Bytes) :=
  imagesIn (h.filterMap LiveObs.frame?)

@[simp] theorem imagesIn_append
    (frames frames' : List (ConnId × Bytes)) :
    imagesIn (frames ++ frames') =
      imagesIn frames ++ imagesIn frames' :=
  List.filter_append ..

@[simp] theorem recordedImages_append (h o : List LiveObs) :
    recordedImages (h ++ o) =
      recordedImages h ++ recordedImages o := by
  unfold recordedImages
  rw [List.filterMap_append, imagesIn_append]

@[simp] theorem recordedImages_control
    (o : List Control.Obs) :
    recordedImages (o.map .control) = [] := by
  unfold recordedImages
  rw [List.filterMap_map]
  exact congrArg imagesIn (List.filterMap_none _)

@[simp] theorem recordedImages_imaging
    (o : List Imaging.Obs) :
    recordedImages (o.map .imaging) = [] := by
  unfold recordedImages
  rw [List.filterMap_map]
  exact congrArg imagesIn (List.filterMap_none _)

theorem recordedImages_line
    (line : ControlLine)
    (o : List LiveObs) :
    recordedImages (.recordedLine line :: o) =
      recordedImages o := rfl

theorem recordedImages_frame
    (conn : ConnId)
    (header : HeaderBuf)
    (payload : Bytes)
    (o : List LiveObs) :
    recordedImages
        (.recordedFrame conn header payload :: o) =
      imagesIn [(conn, header.toList ++ payload)] ++
        recordedImages o :=
  imagesIn_append [(conn, header.toList ++ payload)] _

/- A frame is an image if its header says so. -/
theorem isImageFrame_of_header
    (header : HeaderBuf)
    (payload : Bytes) :
    isImageFrame (header.toList ++ payload) =
      (FrameHeader.parse header).isImage := by
  have hHeader :
      Imaging.headerOf (header.toList ++ payload) =
        some header :=
    Imaging.headerOf_eq_some_iff.mpr
      (Imaging.take_header header payload)
  unfold isImageFrame
  rw [hHeader]
  rfl

/- The recorded images are those of the recorder's calls. -/
theorem imageFrames_recorderCalls (h : List LiveObs) :
    (imageFrames (recorderCalls h)).map frameBytes =
      (recordedImages h).map Prod.snd := by
  induction h with
  | nil => rfl
  | cons x h ih =>
      cases x with
      | control x => exact ih
      | imaging x => exact ih
      | recordedLine line => exact ih
      | recordedFrame conn header payload =>
          rw [recorderCalls_frame, recordedImages_frame,
            List.map_append, ← ih]
          have hImage := isImageFrame_of_header header payload
          cases hIs : (FrameHeader.parse header).isImage with
          | true =>
              rw [hIs] at hImage
              simp [imageFrames, imagesIn, Call.image?, hIs,
                hImage, frameBytes]
          | false =>
              rw [hIs] at hImage
              simp [imageFrames, imagesIn, Call.image?, hIs,
                hImage]

/- What a step hands to the recorder. -/
def handed
    (p : Imaging.State)
    (e : Imaging.Event) : List (ConnId × Bytes) :=
  match recordedPart p e with
  | some (conn, header, payload) =>
      [(conn, header.toList ++ payload)]
  | none => []

/-
  What a step of the imaging proxy does to whole frames, and
  those that it hands to the recorder.
-/
inductive FrameStep
    (p p' : Imaging.State) :
    List (ConnId × Bytes) → Prop where
| read {conn : ConnId} {frame : Bytes}
    (hBefore : (p.reader conn).inHand = [])
    (hReader : p'.reader =
      Function.update p.reader conn (.sending frame))
    (hFrames : p'.frames = p.frames)
    (hLive : (p.reader conn).IsLive) :
    FrameStep p p' [(conn, frame)]
| broadcast {conn : ConnId} {frame : Bytes}
    (hBefore : p.reader conn = .sending frame)
    (hReader : p'.reader =
      Function.update p.reader conn .reading)
    (hFrames : p'.frames = p.frames ++ [(conn, frame)]) :
    FrameStep p p' []
| other
    (hHands : ∀ conn, (p'.reader conn).inHand =
      (p.reader conn).inHand)
    (hFrames : p'.frames = p.frames) :
    FrameStep p p' []

theorem frameStep_cases
    {debugLogged : Bool}
    {p p' : Imaging.State}
    {e : Imaging.Event}
    {o : List Imaging.Obs}
    (hNumbered : Imaging.Numbered p)
    (hNext : (Imaging.proxy debugLogged).step p e =
      some (p', o)) :
    FrameStep p p' (handed p e) := by
  have hUpdate {conn : ConnId} {next : Imaging.Reader}
      (hNone : (p.reader conn).inHand = [])
      (hAfter : next.inHand = [])
      (conn' : ConnId) :
      (Function.update p.reader conn next conn').inHand =
        (p.reader conn').inHand := by
    by_cases hSame : conn' = conn
    · subst hSame
      rw [Function.update_self, hNone, hAfter]
    · rw [Function.update_of_ne hSame]
  cases Imaging.step_cases hNext with
  | accepted => exact .other (fun _ => rfl) rfl
  | arrived hConn hOpen => exact .other (fun _ => rfl) rfl
  | hungUp hConn => exact .other (fun _ => rfl) rfl
  | connected =>
      refine .other (hUpdate ?_ rfl) rfl
      rw [hNumbered.reader _ le_rfl]
      rfl
  | @reader conn event s' o hTask =>
      have hLive := hTask.isLive
      cases hTask with
      | @payloadRead header hAt hLength =>
          have hPart : handed p (.reader conn .payload) =
              [(conn, header.toList ++
                (p.unread conn).take
                  (Imaging.sizeOf header))] := by
            simp [handed, recordedPart, hAt]
          rw [hPart]
          exact .read (by rw [hAt]; rfl) rfl rfl hLive
      | broadcast hAt => exact .broadcast hAt rfl rfl
      | started hAt | headerRead hAt | oversized hAt
      | stopped hAt =>
          exact .other (hUpdate (by rw [hAt]; rfl) rfl) rfl
      | failed hAt =>
          refine .other (hUpdate ?_ rfl) rfl
          cases hReader : p.reader conn with
          | sending frame =>
              rw [hReader] at hAt
              cases hAt
          | _ => rfl
  | fanout hTask =>
      cases hTask <;> exact .other (fun _ => rfl) rfl
  | aside hAside hOther =>
      have hPart : handed p e = [] := by
        cases e with
        | reader conn event =>
            exact absurd rfl (hOther conn event)
        | _ => rfl
      rw [hPart]
      refine .other (fun conn => ?_) hAside.frames
      rw [hAside.reader]

/- The same of a step of the session. -/
theorem frameStep_of_live
    {e : LiveEvent}
    (hNumbered : Imaging.Numbered s.imaging)
    (hNext : liveStep env serde s e = some (s', o)) :
    ∃ new, FrameStep s.imaging s'.imaging new ∧
      recordedImages o = imagesIn new := by
  cases liveStep_cases hNext with
  | control hStep hText =>
      exact ⟨[], .other (fun _ => rfl) rfl,
        recordedImages_control _⟩
  | line hStep hText =>
      refine ⟨[], .other (fun _ => rfl) rfl, ?_⟩
      rw [recordedImages_line, recordedImages_control]
      rfl
  | imaging hStep hPart =>
      refine ⟨_, frameStep_cases hNumbered hStep, ?_⟩
      rw [recordedImages_imaging, handed, hPart]
      rfl
  | frame hStep hPart =>
      refine ⟨_, frameStep_cases hNumbered hStep, ?_⟩
      rw [recordedImages_frame, recordedImages_imaging,
        List.append_nil, handed, hPart]

theorem framesOn_append
    (frames frames' : List (ConnId × Bytes))
    (conn : ConnId) :
    framesOn (frames ++ frames') conn =
      framesOn frames conn ++ framesOn frames' conn :=
  List.filterMap_append ..

/- The images of a connection are those among its frames. -/
theorem framesOn_imagesIn
    (frames : List (ConnId × Bytes))
    (conn : ConnId) :
    framesOn (imagesIn frames) conn =
      (framesOn frames conn).filter isImageFrame := by
  induction frames with
  | nil => rfl
  | cons item frames ih =>
      rw [← List.singleton_append, imagesIn_append,
        framesOn_append, framesOn_append, List.filter_append,
        ih]
      congr 1
      by_cases hImage : isImageFrame item.2 = true
      · by_cases hConn : item.1 = conn
        · simp [imagesIn, framesOn, hImage, hConn]
        · simp [imagesIn, framesOn, hImage, hConn]
      · by_cases hConn : item.1 = conn
        · simp [imagesIn, framesOn, hImage, hConn]
        · simp [imagesIn, framesOn, hImage, hConn]

theorem numbered_of_live
    {es : List LiveEvent}
    (hRun : (liveProxy env serde dir).Run es h s) :
    Imaging.Numbered s.imaging :=
  (imagingPart env serde dir).invariant
    (fun _ _ _ hPart => Imaging.numbered_of_run hPart) hRun

/-
  Each connection's images are recorded as they are read, and
  broadcast later, in the same order.
-/
theorem recorded_on_of_run
    {es : List LiveEvent}
    (hRun : (liveProxy env serde dir).Run es h s)
    (conn : ConnId) :
    framesOn (recordedImages h) conn =
      (s.imaging.readOn conn).filter isImageFrame := by
  refine Machine.run_induction
    (motive := fun _ h s =>
      framesOn (recordedImages h) conn =
        (s.imaging.readOn conn).filter isImageFrame)
    rfl ?_ hRun
  intro es h s e s' o hBefore ih hNext
  rcases frameStep_of_live (numbered_of_live hBefore) hNext
    with ⟨new, hStep, hNew⟩
  rw [recordedImages_append, framesOn_append, ih, hNew,
    framesOn_imagesIn, ← List.filter_append]
  congr 1
  unfold Imaging.State.readOn Imaging.State.framesOf
  cases hStep with
  | @read conn' frame hHand hReader hFrames hLive =>
      rw [hReader, hFrames]
      by_cases hSame : conn = conn'
      · subst hSame
        rw [hHand, Function.update_self]
        simp [framesOn, Imaging.Reader.inHand]
      · simp [framesOn, Function.update_of_ne hSame,
          Ne.symm hSame]
  | @broadcast conn' frame hAt hReader hFrames =>
      rw [hReader, hFrames]
      by_cases hSame : conn = conn'
      · subst hSame
        simp [hAt, framesOn, Imaging.Reader.inHand]
      · simp [framesOn, Function.update_of_ne hSame,
          Ne.symm hSame]
  | other hHands hFrames =>
      rw [hHands, hFrames]
      simp [framesOn]

------------------------------------------------------------
-- The Order of the Recording
------------------------------------------------------------

/- No command failed to be written to the telescope. -/
def AllWritten (es : List LiveEvent) : Prop :=
  ∀ e ∈ es, e ≠ .imaging (.upstream (.write false))

theorem solo_of_live
    {es : List LiveEvent}
    (hRun : (liveProxy env serde dir).Run es h s)
    (hWritten : AllWritten es) :
    Imaging.Solo s.imaging := by
  rcases (imagingPart env serde dir).run hRun with
    ⟨ds, hPart, hEvents⟩
  refine Imaging.solo_of_run hPart ?_
  rintro d hMem rfl
  rcases hEvents _ hMem with ⟨e, hIn, s₀, hFrom⟩
  cases e with
  | control e timestamp => cases hFrom
  | imaging e =>
      cases List.mem_singleton.mp hFrom
      exact hWritten _ hIn rfl

/- Where no other reader holds a frame. -/
def OnlyHand
    (p : Imaging.State)
    (conn : ConnId) : Prop :=
  ∀ conn', conn' ≠ conn → (p.reader conn').inHand = []

/- A reader that does not run holds no frame. -/
theorem inHand_of_not_live
    {reader : Imaging.Reader}
    (hOver : ¬ reader.IsLive) :
    reader.inHand = [] := by
  cases reader with
  | sending frame =>
      exact absurd ⟨by simp, by simp⟩ hOver
  | _ => rfl

/- One reader runs, so only it can hold a frame. -/
theorem onlyHand_of_live
    {p : Imaging.State}
    (hSolo : Imaging.Solo p)
    (hLive : (p.reader conn).IsLive) :
    OnlyHand p conn := by
  intro conn' hOther
  apply inHand_of_not_live
  intro hLive'
  exact hOther (hSolo.one conn' conn hLive' hLive)

theorem exists_onlyHand
    {p : Imaging.State}
    (hSolo : Imaging.Solo p) :
    ∃ conn, OnlyHand p conn := by
  by_cases hSome : ∃ conn, (p.reader conn).IsLive
  · rcases hSome with ⟨conn, hLive⟩
    exact ⟨conn, onlyHand_of_live hSolo hLive⟩
  · refine ⟨0, fun conn _ => inHand_of_not_live ?_⟩
    exact fun hLive => hSome ⟨conn, hLive⟩

/- The frames that were broadcast, and the one in hand. -/
def readFrames
    (p : Imaging.State)
    (conn : ConnId) : List (ConnId × Bytes) :=
  p.frames ++ (p.reader conn).inHand.map fun frame =>
    (conn, frame)

/-
  Without a failed write the images are recorded in the order
  in which they are broadcast.
-/
theorem recorded_order_of_run
    {es : List LiveEvent}
    (hRun : (liveProxy env serde dir).Run es h s)
    (hWritten : AllWritten es)
    (hOnly : OnlyHand s.imaging conn) :
    recordedImages h =
      imagesIn (readFrames s.imaging conn) := by
  revert conn hWritten
  refine Machine.run_induction
    (motive := fun es h s => ∀ {conn}, AllWritten es →
      OnlyHand s.imaging conn → recordedImages h =
        imagesIn (readFrames s.imaging conn))
    (fun _ _ => rfl) ?_ hRun
  intro es h s e s' o hBefore ih hNext conn hWritten hOnly
  have hFront : AllWritten es := fun e hMem =>
    hWritten e (List.mem_append_left _ hMem)
  have hSolo := solo_of_live hBefore hFront
  rcases frameStep_of_live (numbered_of_live hBefore) hNext
    with ⟨new, hStep, hNew⟩
  rw [recordedImages_append, hNew]
  unfold readFrames at ih ⊢
  cases hStep with
  | @read conn' frame hHand hReader hFrames hLive =>
      have hSame : conn = conn' := by
        by_contra hOther
        have hNone := hOnly conn' (Ne.symm hOther)
        rw [hReader, Function.update_self] at hNone
        cases hNone
      subst hSame
      rw [ih hFront (onlyHand_of_live hSolo hLive), hHand,
        hFrames, hReader, Function.update_self]
      simp [Imaging.Reader.inHand]
  | @broadcast conn' frame hAt hReader hFrames =>
      have hLive : (s.imaging.reader conn').IsLive := by
        rw [hAt]
        exact ⟨by simp, by simp⟩
      have hBefore := onlyHand_of_live hSolo hLive
      have hNone : (s'.imaging.reader conn).inHand = [] := by
        rw [hReader]
        by_cases hSame : conn = conn'
        · subst hSame
          rw [Function.update_self]
          rfl
        · rw [Function.update_of_ne hSame]
          exact hBefore conn hSame
      rw [ih hFront hBefore, hNone, hAt, hFrames]
      simp [Imaging.Reader.inHand, imagesIn]
  | other hHands hFrames =>
      have hBefore : OnlyHand s.imaging conn := by
        intro conn' hOther
        rw [← hHands]
        exact hOnly conn' hOther
      rw [ih hFront hBefore, hHands, hFrames]
      exact List.append_nil _

------------------------------------------------------------
-- The Replay
------------------------------------------------------------

/- A replay shows every image once. -/
theorem replay_perm (images : List ImageFrame) :
    ((images.zipIdx.mergeSort placeLe).map fun place =>
        frameBytes place.1).Perm (images.map frameBytes) := by
  have hPlaces : images.map frameBytes =
      (images.zipIdx.map Prod.fst).map frameBytes := by
    rw [List.zipIdx_map_fst]
  rw [hPlaces, List.map_map]
  exact (List.mergeSort_perm _ _).map _

/-
  What a replay shows of a recorded session. The control
  port plays every line that came from the telescope, in
  order; the imaging port every image that was read, those
  of each connection in order when there are at most 10000.
  If also every command could be written, the images come as
  they were broadcast, with one at the end that a reader may
  still hold.
-/
structure SessionReplayed
    (dir : SessionDir)
    (replay : ReplaySession)
    (es : List LiveEvent)
    (h : List LiveObs)
    (s : Live) : Prop where
  lines : ∀ handshakeDone,
    (replayControl replay.controlMessages handshakeDone).1 =
      receivedLines h
  images : (replayImaging dir replay).Perm
    ((recordedImages h).map Prod.snd)
  onConn : ∀ conn, framesOn (recordedImages h) conn =
    (s.imaging.readOn conn).filter isImageFrame
  inOrder : (recordedImages h).length ≤ 10000 →
    replayImaging dir replay =
      (recordedImages h).map Prod.snd
  asBroadcast : (recordedImages h).length ≤ 10000 →
    AllWritten es → ∃ conn, OnlyHand s.imaging conn ∧
      replayImaging dir replay =
        (imagesIn (readFrames s.imaging conn)).map Prod.snd

/- A recorded session of a live proxy can be replayed. -/
theorem live_session_replays
    {es : List LiveEvent}
    (hSerde : serde.Lawful)
    (hRun :
      (liveProxy env serde SessionDir.fresh).Run es h s)
    (hFew : (recordedImages h).length < 2 ^ 32)
    (captureDate : String)
    (durationSeconds : F64) :
    ∃ replay,
      ReplaySession.load serde
          (s.recorder.finalize serde captureDate
            durationSeconds).dir =
        .ok replay ∧
      SessionReplayed
        (s.recorder.finalize serde captureDate
          durationSeconds).dir replay es h s := by
  have hSession :
      (s.recorder.finalize serde captureDate
          durationSeconds).dir =
        recordSession serde SessionDir.fresh
          ⟨recorderCalls h, captureDate,
            durationSeconds⟩ := by
    unfold recordSession
    rw [liveRecorder_of_run hRun]
  rw [hSession]
  have hLength : (imageFrames (recorderCalls h)).length =
      (recordedImages h).length := by
    have hBoth := congrArg List.length
      (imageFrames_recorderCalls h)
    rwa [List.length_map, List.length_map] at hBoth
  have hFinal := finalized_recordSession hSerde.manifest
    SessionDir.fresh
    ⟨recorderCalls h, captureDate, durationSeconds⟩
  rcases hFinal.load with
    ⟨replay, hLoad, hControl, hPaths⟩
  have hReplay := replayImaging_fresh
    (by rw [hLength]; exact Nat.le_of_lt hFew)
    hFinal.frames hPaths
  have hOrder (hLe : (recordedImages h).length ≤ 10000) :
      replayImaging (recordSession serde SessionDir.fresh
          ⟨recorderCalls h, captureDate, durationSeconds⟩)
          replay =
        (recordedImages h).map Prod.snd := by
    rw [hReplay, ← imageFrames_recorderCalls]
    refine (replay_eq_iff _).mpr (orderKept_of_le ?_)
    rw [List.length_map, hLength]
    exact hLe
  refine ⟨replay, hLoad, ?_⟩
  refine
    { lines := ?_
      images := ?_
      onConn := recorded_on_of_run hRun
      inOrder := hOrder
      asBroadcast := ?_ }
  · intro handshakeDone
    rw [replayControl_fst, hControl,
      loadControl_controlFileOf hSerde]
    exact telescopeRaws_of_run hRun
  · rw [hReplay, ← imageFrames_recorderCalls]
    exact replay_perm _
  · intro hLe hWritten
    rcases exists_onlyHand (solo_of_live hRun hWritten) with
      ⟨conn, hOnly⟩
    refine ⟨conn, hOnly, ?_⟩
    rw [hOrder hLe, recorded_order_of_run hRun hWritten hOnly]

/- A line comes on one port and an image on the other. -/
def onControl : List Control.Event :=
  [.notify, .upstream .start] ++ Control.connectUpstream ++
    [.reader 0 .start, .reader 0 (.line "ready")]

def onImaging : List Imaging.Event :=
  Imaging.connectFirst ++
    [.arrive 0 (frameBytes (numberedFrame 7)),
      .reader 0 .header, .reader 0 .payload,
      .reader 0 .broadcast]

def twoPorts : List LiveEvent :=
  onControl.map (LiveEvent.control · F64.zero) ++
    onImaging.map LiveEvent.imaging

theorem live_session_replays_twoPorts :
    ∃ h s replay,
      (liveProxy Control.parkEnv plainSerde
        SessionDir.fresh).Run twoPorts h s ∧
      ReplaySession.load plainSerde
          (s.recorder.finalize plainSerde "" F64.zero).dir =
        .ok replay ∧
      (replayControl replay.controlMessages false).1 =
        ["ready"] ∧
      replayImaging
          (s.recorder.finalize plainSerde "" F64.zero).dir
          replay =
        [frameBytes (numberedFrame 7)] := by
  have hRun :
      (liveProxy Control.parkEnv plainSerde
        SessionDir.fresh).Run twoPorts _ _ :=
    Machine.run_outcome (by decide +kernel)
  rcases live_session_replays plainSerde_lawful hRun
      (by decide +kernel) "" F64.zero with
    ⟨replay, hLoad, hReplayed⟩
  refine ⟨_, _, replay, hRun, hLoad, ?_, ?_⟩
  · rw [hReplayed.lines]
    decide +kernel
  · rw [hReplayed.inOrder (by decide +kernel)]
    decide +kernel

end Session

end SeestarProxy
