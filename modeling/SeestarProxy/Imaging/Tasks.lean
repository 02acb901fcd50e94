import SeestarProxy.Imaging.State
import SeestarProxy.Library.Machine

/-
  The tasks of the imaging proxy, one step at a time.

  As for the control proxy, each task is a function from its
  next event to the state after one step; `none` means that
  the task cannot take that step now. `read_exact` is a step
  that waits for all its bytes, or fails when the connection
  ends before they have come.

  Main declarations:
    * `upstreamReaderTask` and `upstreamTask`
    * `fanoutTask` and `handleClient`
    * `Event`, `step` and `proxy`
-/

------------------------------------------------------------
-- Upstream Reader
------------------------------------------------------------

namespace SeestarProxy

namespace Imaging

open Library Protocol

/- What the reader of a connection does next. -/
inductive ReaderEvent where
| start
| header
| payload
| readError
| broadcast
| stop

/- The first bytes of a stream as a header, if all came. -/
def headerOf (bytes : Bytes) : Option HeaderBuf :=
  if hLength : (bytes.take headerSize).length = headerSize
  then
    some ⟨(bytes.take headerSize).toArray, by
      simpa using hLength⟩
  else
    none

/- The bytes that the reader asks for at once. -/
def Reader.wanted : Reader → Option Nat
| .reading => some headerSize
| .payload header =>
    some (FrameHeader.parse header).size.toNat
| _ => none

/- One step of `upstream_reader_task` for a connection. -/
def upstreamReaderTask
    (s : State)
    (conn : ConnId)
    (event : ReaderEvent) :
    Option (State × List Obs) :=
  match event, s.reader conn with
  | .start, .spawned =>
      some ({ s with
        reader := Function.update s.reader conn .reading
        upstreamImagingUp := true }, [])
  | .header, .reading =>
      match headerOf (s.unread conn) with
      | none => none
      | some header =>
          let size := (FrameHeader.parse header).size.toNat
          -- An unreasonable size ends the read loop.
          let next :=
            if maxFrameSize < size then
              .broken
            else
              .payload header
          some ({ s with
            consumed := Function.update s.consumed conn
              (s.consumed conn + headerSize)
            reader :=
              Function.update s.reader conn next }, [])
  | .payload, .payload header =>
      let size := (FrameHeader.parse header).size.toNat
      if (s.unread conn).length < size then
        none
      else
        some ({ s with
          consumed := Function.update s.consumed conn
            (s.consumed conn + size)
          reader := Function.update s.reader conn
            (.sending (header.toList ++
              (s.unread conn).take size)) }, [])
  | .readError, reader =>
      match reader.wanted with
      | none => none
      | some wanted =>
          if s.closed conn = true ∧
              (s.unread conn).length < wanted then
            some ({ s with
              reader :=
                Function.update s.reader conn .broken }, [])
          else
            none
  | .broadcast, .sending frame =>
      some ({ s with
        frames := s.frames ++ [(conn, frame)]
        reader := Function.update s.reader conn .reading },
        [.broadcast conn frame])
  | .stop, .broken =>
      some ({ s with
        reader := Function.update s.reader conn .done
        upstreamImagingUp := false }, [])
  | _, _ => none

------------------------------------------------------------
-- Upstream Task and Heartbeat
------------------------------------------------------------

/- What the upstream task does next. -/
inductive UpstreamEvent where
| start
| connect
| recv
| write (ok : Bool)
| readerDead

/- One step of the upstream task of `run`. -/
def upstreamTask
    (debugLogged : Bool)
    (s : State)
    (event : UpstreamEvent) :
    Option (State × List Obs) :=
  match event, s.upstream with
  | .start, .waiting =>
      if s.resolved = true then
        some ({ s with upstream := .connecting }, [])
      else
        none
  | .connect, .connecting =>
      some ({ s with
        connections := s.connections + 1
        reader :=
          Function.update s.reader s.connections .spawned
        upstream := .selecting s.connections }, [])
  | .recv, .selecting conn =>
      match s.upstreamTx.recv with
      | none => none
      | some (msg, channel) =>
          if Control.previewPanics debugLogged msg 200 then
            some ({ s with
              upstreamTx := s.upstreamTx.close
              upstream := .stopped }, [])
          else
            some ({ s with
              upstreamTx := channel
              upstream := .writing conn msg }, [])
  | .write true, .writing conn msg =>
      some ({ s with upstream := .selecting conn },
        [.command conn msg])
  | .write false, .writing _ _ =>
      some ({ s with upstream := .connecting }, [])
  | .readerDead, .selecting conn =>
      if s.reader conn = .done then
        some ({ s with upstream := .connecting }, [])
      else
        none
  | _, _ => none

/- What the heartbeat task does next. -/
inductive HeartbeatEvent where
| wake
| send

/- One step of `imaging_heartbeat_task`. -/
def imagingHeartbeatTask
    (s : State)
    (event : HeartbeatEvent) :
    Option (State × List Obs) :=
  match event, s.heartbeat with
  | .wake, .sleeping =>
      some ({ s with
        heartbeatId := s.heartbeatId + 1
        heartbeat :=
          .sending (Control.heartbeatLine s.heartbeatId) },
        [])
  | .send, .sending msg =>
      match s.upstreamTx.trySend msg with
      | .sent channel =>
          some ({ s with
            upstreamTx := channel
            heartbeat := .sleeping }, [])
      | .closed => some ({ s with heartbeat := .ended }, [])
      | .full => none
  | _, _ => none

------------------------------------------------------------
-- Clients
------------------------------------------------------------

/-
  What the fan-out task of a client does next. A failed or
  aborted write has put out the first bytes of the frame.
-/
inductive FanoutEvent where
| recv
| write
| fail (written : Nat)
| abort (written : Nat)

/- One step of the task that writes frames to client `c`. -/
def fanoutTask
    (s : State)
    (c : ClientId)
    (event : FanoutEvent) :
    Option (State × List Obs) :=
  match event, s.fanout c with
  | .recv, .receiving =>
      match Broadcast.recv 32 s.frames (s.frameRx c) with
      | .received (_, frame) position =>
          some ({ s with
            fanout :=
              Function.update s.fanout c (.writing frame)
            frameRx :=
              Function.update s.frameRx c position }, [])
      | .lagged position =>
          some ({ s with
            frameRx :=
              Function.update s.frameRx c position }, [])
      | .empty => none
  | .write, .writing frame =>
      some ({ s with
        fanout := Function.update s.fanout c .receiving
        received := Function.update s.received c
          (s.received c ++ frame) }, [])
  | .fail written, .writing frame =>
      if written < frame.length then
        some ({ s with
          fanout := Function.update s.fanout c .ended
          received := Function.update s.received c
            (s.received c ++ frame.take written) }, [])
      else
        none
  | .abort _, .receiving =>
      if s.handler c = .ended then
        some ({ s with
          fanout := Function.update s.fanout c .ended }, [])
      else
        none
  | .abort written, .writing frame =>
      if s.handler c = .ended then
        some ({ s with
          fanout := Function.update s.fanout c .ended
          received := Function.update s.received c
            (s.received c ++ frame.take written) }, [])
      else
        none
  | _, _ => none

/- What the handler of a client does next. -/
inductive HandlerEvent where
| line (text : String)
| send
| close
| readError

/- One step of `handle_client` for client `c`. -/
def handleClient
    (s : State)
    (c : ClientId)
    (event : HandlerEvent) :
    Option (State × List Obs) :=
  match event, s.handler c with
  | .line text, .reading =>
      let trimmed := Text.trim text
      if trimmed = "" then
        some (s, [])
      else
        some ({ s with
          handler := Function.update s.handler c
            (.sending trimmed) }, [])
  | .send, .sending trimmed =>
      match s.upstreamTx.trySend trimmed with
      | .sent channel =>
          some ({ s with
            handler := Function.update s.handler c .reading
            upstreamTx := channel }, [.queued c trimmed])
      | .closed =>
          some ({ s with
            handler :=
              Function.update s.handler c .ended }, [])
      | .full => none
  | .close, .reading =>
      some ({ s with
        handler := Function.update s.handler c .ended }, [])
  | .readError, .reading =>
      some ({ s with
        handler := Function.update s.handler c .failed }, [])
  | _, _ => none

------------------------------------------------------------
-- The Proxy
------------------------------------------------------------

/-
  One step of the proxy. `resolve` makes the address of the
  telescope known; `arrive` brings bytes from the telescope
  and `hangUp` is the end of its stream.
-/
inductive Event where
| resolve
| accept
| arrive (conn : ConnId) (bytes : Bytes)
| hangUp (conn : ConnId)
| client (c : ClientId) (event : HandlerEvent)
| fanout (c : ClientId) (event : FanoutEvent)
| heartbeat (event : HeartbeatEvent)
| upstream (event : UpstreamEvent)
| reader (conn : ConnId) (event : ReaderEvent)

/- The accept loop of `run`. -/
def acceptClient (s : State) : State :=
  { s with
    clients := s.clients + 1
    handler := Function.update s.handler s.clients .reading
    fanout := Function.update s.fanout s.clients .receiving
    frameRx :=
      Function.update s.frameRx s.clients s.frames.length
    subscribed := Function.update s.subscribed s.clients
      s.frames.length }

/- One step of the imaging proxy. -/
def step
    (debugLogged : Bool)
    (s : State) :
    Event → Option (State × List Obs)
| .resolve => some ({ s with resolved := true }, [])
| .accept => some (acceptClient s, [])
| .arrive conn bytes =>
    if conn < s.connections ∧ s.closed conn = false then
      some ({ s with
        stream := Function.update s.stream conn
          (s.stream conn ++ bytes) }, [])
    else
      none
| .hangUp conn =>
    if conn < s.connections then
      some ({ s with
        closed := Function.update s.closed conn true }, [])
    else
      none
| .client c event => handleClient s c event
| .fanout c event => fanoutTask s c event
| .heartbeat event => imagingHeartbeatTask s event
| .upstream event => upstreamTask debugLogged s event
| .reader conn event => upstreamReaderTask s conn event

/- The imaging proxy as a machine. -/
def proxy (debugLogged : Bool) :
    Machine State Event Obs where
  init := State.init
  step := step debugLogged

/- The telescope is connected and its reader has started. -/
def connectFirst : List Event :=
  [.resolve, .upstream .start, .upstream .connect,
    .reader 0 .start]

end Imaging

end SeestarProxy
