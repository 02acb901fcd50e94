import Mathlib
import SeestarProxy.Imaging.State
import SeestarProxy.Library.Decimal

/-
  Recording a session to a directory.

  A session directory holds a manifest, the control messages
  as lines of JSON and one file for each image frame. A new
  recorder empties the control file, keeps the frame files
  that are there, and counts its frames from zero; the
  manifest is written when the recording is finalized.

  Files are written whole and without failing. A directory
  entry that cannot be read as a file is one without bytes.

  Main declarations:
    * `SessionSerde`, `SessionDir` and `Recorder`
    * `recordControl`, `recordFrame` and `finalize`
    * `recordSession`
-/

------------------------------------------------------------
-- What is Written
------------------------------------------------------------

namespace SeestarProxy

namespace Session

open Imaging (Bytes HeaderBuf)
open Library Protocol

/- A finite floating-point number, kept by its bits. -/
structure F64 where
  bits : UInt64
  finite : bits.toNat / 2 ^ 52 % 2 ^ 11 ≠ 2 ^ 11 - 1
deriving DecidableEq

namespace F64

def zero : F64 := ⟨0, by decide⟩

/- The comparison `x > 0.0`. -/
def isPositive (x : F64) : Bool :=
  x.bits ≠ 0 && x.bits.toNat < 2 ^ 63

end F64

/- A line of `control.jsonl`. -/
structure ControlLine where
  timestamp : F64
  direction : String
  raw : String
deriving DecidableEq

/- What is written to `manifest.json`. -/
structure Manifest where
  captureDate : String
  telescopeModel : Option String
  firmwareVersion : Option String
  frameCount : UInt32
  previewFrameCount : UInt32
  stackFrameCount : UInt32
  controlMessageCount : UInt32
  durationSeconds : F64
  source : String
deriving DecidableEq

/- What is read from `manifest.json`. -/
structure RecordedManifest where
  frameCount : UInt32
  durationSeconds : F64
deriving DecidableEq

/-
  The JSON library at the types of a session, which derives
  their printers and parsers.
-/
structure SessionSerde where
  lineToStr : ControlLine → Option String
  lineFromStr : String → Option ControlLine
  manifestToStr : Manifest → Option String
  manifestFromStr : String → Option RecordedManifest

------------------------------------------------------------
-- The Directory
------------------------------------------------------------

/- The files in `frames/` and the bytes they are read as. -/
abbrev FrameFiles := AList fun _ : String => Option Bytes

/-
  A session directory: the texts of its manifest and of its
  control file, if they can be read, and its frame files, if
  `frames/` is a directory.
-/
structure SessionDir where
  manifest : Option String
  control : Option String
  frames : Option FrameFiles

/- A directory in which nothing was recorded. -/
def SessionDir.fresh : SessionDir := ⟨none, none, none⟩

/- Read a frame file. -/
def SessionDir.readFrame
    (dir : SessionDir)
    (name : String) : Option Bytes :=
  dir.frames.bind fun files =>
    (files.lookup name).bind id

/- What an image frame is recorded as. -/
inductive Kind where
| preview
| stack
deriving DecidableEq, Repr

namespace Kind

def text : Kind → String
| .preview => "preview"
| .stack => "stack"

end Kind

/- The file name `frame_{idx:04}_{kind}.bin`. -/
def frameName (idx : UInt32) (kind : Kind) : String :=
  "frame_" ++ String.ofList (Decimal.padded 4 idx.toNat) ++
    "_" ++ kind.text ++ ".bin"

------------------------------------------------------------
-- The Recorder
------------------------------------------------------------

/- A recorder, with the files of its directory. -/
structure Recorder where
  manifest : Option String
  controlFile : String
  frames : FrameFiles
  frameCounter : UInt32
  previewCount : UInt32
  stackCount : UInt32
  messageCount : UInt32

namespace Recorder

def new (dir : SessionDir) : Recorder where
  manifest := dir.manifest
  controlFile := ""
  frames := dir.frames.getD ∅
  frameCounter := 0
  previewCount := 0
  stackCount := 0
  messageCount := 0

/- The directory that the recorder writes to. -/
def dir (r : Recorder) : SessionDir where
  manifest := r.manifest
  control := some r.controlFile
  frames := some r.frames

/- What a control message adds to the control file. -/
def controlText
    (serde : SessionSerde)
    (line : ControlLine) : String :=
  match serde.lineToStr line with
  | none => ""
  | some json => json ++ "\n"

/- `record_control`. -/
def recordControl
    (serde : SessionSerde)
    (line : ControlLine)
    (r : Recorder) : Recorder :=
  { r with
    messageCount := r.messageCount + 1
    controlFile := r.controlFile ++ controlText serde line }

/- What a frame is recorded as. -/
def kindOf (header : FrameHeader) : Kind :=
  if header.id = 23 then .stack else .preview

/- `record_frame`. -/
def recordFrame
    (header : HeaderBuf)
    (payload : Bytes)
    (r : Recorder) : Recorder :=
  let parsed := FrameHeader.parse header
  if parsed.isImage then
    { r with
      frameCounter := r.frameCounter + 1
      previewCount :=
        match kindOf parsed with
        | .stack => r.previewCount
        | .preview => r.previewCount + 1
      stackCount :=
        match kindOf parsed with
        | .stack => r.stackCount + 1
        | .preview => r.stackCount
      frames :=
        r.frames.insert
          (frameName r.frameCounter (kindOf parsed))
          (some (header.toList ++ payload)) }
  else
    r

/- The manifest of the recording so far. -/
def manifestAt
    (captureDate : String)
    (durationSeconds : F64)
    (r : Recorder) : Manifest where
  captureDate := captureDate
  telescopeModel := none
  firmwareVersion := none
  frameCount := r.frameCounter
  previewFrameCount := r.previewCount
  stackFrameCount := r.stackCount
  controlMessageCount := r.messageCount
  durationSeconds := durationSeconds
  source := "seestar-proxy"

/- `finalize`. -/
def finalize
    (serde : SessionSerde)
    (captureDate : String)
    (durationSeconds : F64)
    (r : Recorder) : Recorder :=
  match serde.manifestToStr
      (r.manifestAt captureDate durationSeconds) with
  | none => r
  | some json => { r with manifest := some json }

end Recorder

------------------------------------------------------------
-- Whole Sessions
------------------------------------------------------------

/- A call to the recorder. -/
inductive Call where
| control (line : ControlLine)
| frame (header : HeaderBuf) (payload : Bytes)
deriving DecidableEq

def Call.perform
    (serde : SessionSerde)
    (r : Recorder) : Call → Recorder
| .control line => r.recordControl serde line
| .frame header payload => r.recordFrame header payload

/- A session: its calls and what the clocks said at the end. -/
structure Recording where
  calls : List Call
  captureDate : String
  durationSeconds : F64

/- Record a session in a directory. -/
def recordSession
    (serde : SessionSerde)
    (dir : SessionDir)
    (session : Recording) : SessionDir :=
  ((session.calls.foldl (Call.perform serde)
    (Recorder.new dir)).finalize serde session.captureDate
      session.durationSeconds).dir

end Session

end SeestarProxy
