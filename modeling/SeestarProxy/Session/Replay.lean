import SeestarProxy.Session.Recorder
import SeestarProxy.Utf8

/-
  Loading a recorded session and playing it back.

  The control messages are the lines of the control file
  that come from the telescope; lines that cannot be parsed
  are skipped. The frame files are those with the name of a
  frame, in the order of their names.

  Both play-backs broadcast what was loaded, one item after
  the other. The waits between the items, and with them what
  the interval and the timestamps are good for, are left
  out; so are the metrics.

  Main declarations:
    * `Text.lines` and `replayControl_fst`
    * `ReplaySession` and `ReplaySession.load`
    * `replayControl` and `replayImaging`
-/

------------------------------------------------------------
-- Lines
------------------------------------------------------------

namespace SeestarProxy

namespace Text

/- Drop a carriage return before the end of a line. -/
def dropCr : List Char → List Char
| '\r' :: chars => chars
| chars => chars

/- The lines of a text, given the line so far, reversed. -/
def linesFrom (soFar : List Char) :
    List Char → List (List Char)
| [] => if soFar = [] then [] else [soFar.reverse]
| c :: chars =>
    if c = '\n' then
      (dropCr soFar).reverse :: linesFrom [] chars
    else
      linesFrom (c :: soFar) chars

/- `str::lines`. -/
def lines (text : String) : List String :=
  (linesFrom [] text.toList).map String.ofList

end Text

------------------------------------------------------------
-- Sessions
------------------------------------------------------------

namespace Session

open Imaging (Bytes HeaderBuf)
open Library Protocol

/- A control message of the telescope. -/
structure ControlEntry where
  timestamp : F64
  raw : String
deriving DecidableEq

/- The time between two frames. -/
inductive FrameInterval where
| uniform (duration : F64) (frames : UInt32)
| fallback
deriving DecidableEq

/- A session that is ready for replay. -/
structure ReplaySession where
  controlMessages : List ControlEntry
  framePaths : List String
  frameInterval : FrameInterval
deriving DecidableEq

/- Why a session is not loaded. -/
inductive LoadError where
| manifestUnreadable
| manifestInvalid
deriving DecidableEq, Repr

/- The entry of one line of the control file. -/
def controlEntry
    (serde : SessionSerde)
    (line : String) : Option ControlEntry :=
  let trimmed := Text.trim line
  if trimmed = "" then
    none
  else
    match serde.lineFromStr trimmed with
    | none => none
    | some entry =>
        if entry.direction = "telescope" then
          some ⟨entry.timestamp, entry.raw⟩
        else
          none

/- The control messages in the text of the control file. -/
def loadControl
    (serde : SessionSerde)
    (text : String) : List ControlEntry :=
  (Text.lines text).filterMap (controlEntry serde)

/- The name of a frame file. -/
def isFrameName (name : String) : Bool :=
  "frame_".toList.isPrefixOf name.toList &&
    ".bin".toList.isSuffixOf name.toList

/- The bytes of a name, by which paths are ordered. -/
def nameKey (name : String) : List Nat :=
  (Text.encodeUtf8 name.toList).map UInt8.toNat

def nameLe (name name' : String) : Bool :=
  nameKey name ≤ nameKey name'

/- The frame files of a directory, in order. -/
def framePathsIn (dir : SessionDir) : List String :=
  match dir.frames with
  | none => []
  | some files =>
      (files.keys.filter isFrameName).mergeSort nameLe

/- The time between the frames of a recording. -/
def intervalOf (manifest : RecordedManifest) :
    FrameInterval :=
  if manifest.frameCount > 0 &&
      manifest.durationSeconds.isPositive then
    .uniform manifest.durationSeconds manifest.frameCount
  else
    .fallback

/- `ReplaySession::load`. -/
def ReplaySession.load
    (serde : SessionSerde)
    (dir : SessionDir) : Except LoadError ReplaySession :=
  match dir.manifest with
  | none => .error .manifestUnreadable
  | some text =>
      match serde.manifestFromStr text with
      | none => .error .manifestInvalid
      | some manifest =>
          .ok {
            controlMessages :=
              match dir.control with
              | none => []
              | some text => loadControl serde text
            framePaths := framePathsIn dir
            frameInterval := intervalOf manifest }

------------------------------------------------------------
-- Play-back
------------------------------------------------------------

/-
  Play back control messages: what is broadcast, and whether
  the handshake counts as done at the end.
-/
def replayControl :
    List ControlEntry → Bool → List String × Bool
| [], handshakeDone => ([], handshakeDone)
| entry :: rest, _ =>
    (entry.raw :: (replayControl rest true).1,
      (replayControl rest true).2)

/- The frame that is broadcast for a path, if any. -/
def replayFrame
    (dir : SessionDir)
    (path : String) : Option Bytes :=
  match dir.readFrame path with
  | none => none
  | some data =>
      if data.length < headerSize then none else some data

/- Play back frames: what is broadcast, in order. -/
def replayImaging
    (dir : SessionDir)
    (session : ReplaySession) : List Bytes :=
  session.framePaths.filterMap (replayFrame dir)

/- What is broadcast of the control messages. -/
theorem replayControl_fst
    (entries : List ControlEntry)
    (handshakeDone : Bool) :
    (replayControl entries handshakeDone).1 =
      entries.map ControlEntry.raw := by
  induction entries generalizing handshakeDone with
  | nil => rfl
  | cons entry rest ih =>
      rw [replayControl, List.map_cons, ih]

end Session

end SeestarProxy
