import Mathlib
import SeestarProxy.Library.Channel
import SeestarProxy.Library.Machine
import SeestarProxy.Wireguard.Socket

/-
  The netstack task and the bridges of its connections.

  `runStack` is the poll loop, one step at a time: it takes a
  packet or a tick, polls the interface, accepts connections
  on the two listen sockets, moves data between the sockets
  and the bridges, and hands out packets. Each accepted
  connection has two channels and a bridge to the local
  proxy, whose two pipes run on their own.

  What polling does to the sockets and the device is up to
  the event, so every statement about the runs of `netstack`
  holds for any TCP implementation behind the sockets.

  Main declarations:
    * `Connection`, `Bridge` and `Loop`
    * `State`, `State.init` and `Obs`
    * `runStack`, `bridgeToLocal` and `netstack`
-/

------------------------------------------------------------
-- Connections
------------------------------------------------------------

namespace SeestarProxy

namespace Wireguard

namespace Netstack

open Library

/- The two listen sockets. -/
inductive Handle where
| control
| imaging
deriving DecidableEq, Repr

/- Accepted connections, in the order of their acceptance. -/
abbrev ConnId := Nat

/- The pipe from the tunnel to the local proxy. -/
inductive ToLocal where
| receiving
| writing (data : Bytes)
| ended
deriving DecidableEq, Repr

/- The pipe from the local proxy to the tunnel. -/
inductive ToTunnel where
| reading
| sending (data : Bytes)
| ended
deriving DecidableEq, Repr

/-
  Where the stream of a connection is: waiting in the
  connection channel, dropped because that channel was full,
  or with its bridge to the local proxy.
-/
inductive Bridge where
| offered
| dropped
| connecting
| failed
| piping (toLocal : ToLocal) (toTunnel : ToTunnel)
deriving DecidableEq, Repr

/- An accepted connection with the channels of its stream. -/
structure Connection where
  handle : Handle
  fromTunnel : Channel Bytes 64
  toTunnel : Channel Bytes 64
  bridge : Bridge

/- A connection as it is accepted. -/
def Connection.accepted
    (handle : Handle)
    (bridge : Bridge) : Connection where
  handle := handle
  fromTunnel := Channel.empty Bytes 64
  toTunnel := Channel.empty Bytes 64
  bridge := bridge

/- The bridge's receiver of the connection is dropped. -/
def Connection.closeFromTunnel
    (connection : Connection)
    (bridge : Bridge) : Connection :=
  { connection with
    fromTunnel := connection.fromTunnel.close
    bridge := bridge }

------------------------------------------------------------
-- The State
------------------------------------------------------------

/- The device between the packet channels and the stack. -/
structure VirtualDevice where
  rxQueue : List Bytes
  txQueue : List Bytes
deriving DecidableEq, Repr

/-
  Where the poll loop is. `rest` are the handles that a loop
  has still to look at.
-/
inductive Loop where
| selecting
| polling
| accepting (rest : List Handle)
| transferring (rest toRemove : List Handle)
| receiving (handle : Handle) (rest toRemove : List Handle)
| sending (handle : Handle) (rest toRemove : List Handle)
| draining
deriving DecidableEq, Repr

/- The state of the netstack and its bridges. -/
structure State where
  injectRx : Channel Bytes 256
  egressTx : Channel Bytes 256
  connTx : Channel ConnId 16
  device : VirtualDevice
  socket : Handle → Socket
  active : Handle → Option ConnId
  connections : Nat
  connection : ConnId → Connection
  loop : Loop

/- The state in which the poll loop starts. -/
def State.init : State where
  injectRx := Channel.empty Bytes 256
  egressTx := Channel.empty Bytes 256
  connTx := Channel.empty ConnId 16
  device := ⟨[], []⟩
  socket := fun _ => Socket.listening
  active := fun _ => none
  connections := 0
  connection := fun _ => .accepted .control .dropped
  loop := .selecting

/- The handles of active connections. -/
def State.activeHandles (s : State) : List Handle :=
  [Handle.control, Handle.imaging].filter fun handle =>
    (s.active handle).isSome

/- The connection with one of its fields changed. -/
def State.setConnection
    (s : State)
    (c : ConnId)
    (connection : Connection) : State :=
  { s with
    connection :=
      Function.update s.connection c connection }

/-
  The ways bytes of a connection move. They are `taken` out
  of the receive buffer and `put` on the channel to the
  bridge, which delivers them; a bridge queues chunks, which
  are `handed` to the send buffer, and the leading bytes of
  a chunk that fit are `buffered`.
-/
inductive Flow where
| taken
| put
| delivered
| queued
| handed
| buffered
deriving DecidableEq, Repr

/- What a step shows. -/
inductive Obs where
| accepted (c : ConnId) (handle : Handle)
| refused (c : ConnId)
| moved (flow : Flow) (c : ConnId) (data : Bytes)
| removed (c : ConnId)
| egress (packet : Bytes)
| egressDropped (packet : Bytes)
deriving DecidableEq, Repr

------------------------------------------------------------
-- The Poll Loop
------------------------------------------------------------

/- What the poll loop does next. -/
inductive StackEvent where
| inject
| tick
| poll (device : VirtualDevice) (socket : Handle → Socket)
    (changed : Bool)
| accept
| visit (handle : Handle)
| receive
| send
| remove
| drain

/- The bytes that one read of a socket asks for. -/
def readSize : Nat := 4096

/-
  A listen socket with a connection that has no channels yet
  gets them; its stream goes to the connection channel.
-/
def acceptConnection
    (s : State)
    (handle : Handle) : State × List Obs :=
  let c := s.connections
  match s.connTx.trySend c with
  | .sent channel =>
      ({ s.setConnection c (.accepted handle .offered) with
        connections := c + 1
        active := Function.update s.active handle (some c)
        connTx := channel }, [.accepted c handle])
  | .full | .closed =>
      ({ s.setConnection c
          ((Connection.accepted handle .offered)
            |>.closeFromTunnel .dropped) with
        connections := c + 1
        active := Function.update s.active handle (some c) },
        [.accepted c handle, .refused c])

/- Move received bytes to the bridge; a full channel drops. -/
def receiveData
    (s : State)
    (handle : Handle)
    (c : ConnId) : State × List Obs :=
  let socket := s.socket handle
  if socket.canRecv = true then
    let (data, socket') := socket.recvSlice readSize
    let s' :=
      { s with
        socket := Function.update s.socket handle socket' }
    let connection := s.connection c
    match connection.fromTunnel.trySend data with
    | .sent channel =>
        (s'.setConnection c
          { connection with fromTunnel := channel },
          [.moved .taken c data, .moved .put c data])
    | .full | .closed => (s', [.moved .taken c data])
  else
    (s, [])

/- Move one queued chunk to the send buffer. -/
def sendData
    (s : State)
    (handle : Handle)
    (c : ConnId) : State × List Obs :=
  let socket := s.socket handle
  let connection := s.connection c
  if socket.canSend = true then
    match connection.toTunnel.recv with
    | none => (s, [])
    | some (data, channel) =>
        let (accepted, socket') := socket.sendSlice data
        ({ s.setConnection c
            { connection with toTunnel := channel } with
          socket := Function.update s.socket handle socket' },
          [.moved .handed c data, .moved .buffered c accepted])
  else
    (s, [])

/- The connection loses the ends that the netstack holds. -/
def removeConnection
    (s : State)
    (handle : Handle) : State × List Obs :=
  match s.active handle with
  | none => (s, [])
  | some c =>
      let connection := s.connection c
      ({ s.setConnection c
          { connection with
            toTunnel := connection.toTunnel.close } with
        active := Function.update s.active handle none },
        [.removed c])

/- One step of `run_stack`. -/
def runStack
    (s : State)
    (event : StackEvent) : Option (State × List Obs) :=
  match event, s.loop with
  | .inject, .selecting =>
      match s.injectRx.recv with
      | none => none
      | some (packet, channel) =>
          some ({ s with
            injectRx := channel
            device :=
              { s.device with
                rxQueue := s.device.rxQueue ++ [packet] }
            loop := .polling }, [])
  | .tick, .selecting => some ({ s with loop := .polling }, [])
  | .poll device socket changed, .polling =>
      some ({ s with
        device := device
        socket := socket
        loop :=
          if changed = true then
            .accepting [.control, .imaging]
          else
            .draining }, [])
  | .accept, .accepting (handle :: rest) =>
      if (s.socket handle).isActive = true ∧
          s.active handle = none then
        let (s', o) := acceptConnection s handle
        some ({ s' with loop := .accepting rest }, o)
      else
        some ({ s with loop := .accepting rest }, [])
  | .accept, .accepting [] =>
      some ({ s with
        loop := .transferring s.activeHandles [] }, [])
  | .visit handle, .transferring rest toRemove =>
      if handle ∈ rest then
        if (s.socket handle).isActive = true then
          some ({ s with
            loop := .receiving handle (rest.erase handle)
              toRemove }, [])
        else
          some ({ s with
            loop := .transferring (rest.erase handle)
              (toRemove ++ [handle]) }, [])
      else
        none
  | .receive, .receiving handle rest toRemove =>
      match s.active handle with
      | none => none
      | some c =>
          let (s', o) := receiveData s handle c
          some ({ s' with
            loop := .sending handle rest toRemove }, o)
  | .send, .sending handle rest toRemove =>
      match s.active handle with
      | none => none
      | some c =>
          let (s', o) := sendData s handle c
          some ({ s' with
            loop := .transferring rest toRemove }, o)
  | .remove, .transferring [] (handle :: toRemove) =>
      let (s', o) := removeConnection s handle
      some ({ s' with loop := .transferring [] toRemove }, o)
  | .remove, .transferring [] [] =>
      some ({ s with loop := .draining }, [])
  | .drain, .draining =>
      match s.device.txQueue with
      | [] => some ({ s with loop := .selecting }, [])
      | packet :: rest =>
          let s' :=
            { s with
              device := { s.device with txQueue := rest } }
          match s.egressTx.trySend packet with
          | .sent channel =>
              some ({ s' with egressTx := channel },
                [.egress packet])
          | .full | .closed =>
              some (s', [.egressDropped packet])
  | _, _ => none

------------------------------------------------------------
-- Bridges
------------------------------------------------------------

/- What the bridge of a connection does next. -/
inductive BridgeEvent where
| connect (ok : Bool)
| receive
| write (ok : Bool)
| read (data : Bytes)
| readEnd
| send

/- The bytes that one read from the local proxy asks for. -/
def localReadSize : Nat := 32768

/-
  One step of `bridge_to_local` for a connection. A pipe that
  ends drops its end of the channel.
-/
def bridgeToLocal
    (s : State)
    (c : ConnId)
    (event : BridgeEvent) : Option (State × List Obs) :=
  let connection := s.connection c
  match event, connection.bridge with
  | .connect true, .connecting =>
      some (s.setConnection c
        { connection with
          bridge := .piping .receiving .reading }, [])
  | .connect false, .connecting =>
      some (s.setConnection c
        (connection.closeFromTunnel .failed), [])
  | .receive, .piping .receiving toTunnel =>
      match connection.fromTunnel.recv with
      | some (data, channel) =>
          some (s.setConnection c
            { connection with
              fromTunnel := channel
              bridge := .piping (.writing data) toTunnel },
            [])
      | none =>
          if s.active connection.handle = some c then
            none
          else
            some (s.setConnection c
              (connection.closeFromTunnel
                (.piping .ended toTunnel)), [])
  | .write true, .piping (.writing data) toTunnel =>
      some (s.setConnection c
        { connection with
          bridge := .piping .receiving toTunnel },
        [.moved .delivered c data])
  | .write false, .piping (.writing _) toTunnel =>
      some (s.setConnection c
        (connection.closeFromTunnel
          (.piping .ended toTunnel)), [])
  | .read data, .piping toLocal .reading =>
      if 0 < data.length ∧ data.length ≤ localReadSize then
        some (s.setConnection c
          { connection with
            bridge := .piping toLocal (.sending data) }, [])
      else
        none
  | .readEnd, .piping toLocal .reading =>
      some (s.setConnection c
        { connection with
          bridge := .piping toLocal .ended }, [])
  | .send, .piping toLocal (.sending data) =>
      match connection.toTunnel.trySend data with
      | .sent channel =>
          some (s.setConnection c
            { connection with
              toTunnel := channel
              bridge := .piping toLocal .reading },
            [.moved .queued c data])
      | .closed =>
          some (s.setConnection c
            { connection with
              bridge := .piping toLocal .ended }, [])
      | .full => none
  | _, _ => none

------------------------------------------------------------
-- The Netstack
------------------------------------------------------------

/-
  One step of the netstack and what runs beside it. `packet`
  is the packet loop handing over a decrypted packet, `sent`
  its taking one to encrypt, and `spawn` the start of the
  bridge of the next stream in the connection channel.
-/
inductive Event where
| stack (event : StackEvent)
| bridge (c : ConnId) (event : BridgeEvent)
| spawn
| packet (data : Bytes)
| sent

/- One step of the netstack. -/
def step (s : State) : Event → Option (State × List Obs)
| .stack event => runStack s event
| .bridge c event => bridgeToLocal s c event
| .spawn =>
    match s.connTx.recv with
    | none => none
    | some (c, channel) =>
        some ({ s.setConnection c
            { s.connection c with bridge := .connecting } with
          connTx := channel }, [])
| .packet data =>
    match s.injectRx.trySend data with
    | .sent channel => some ({ s with injectRx := channel }, [])
    | .full | .closed => some (s, [])
| .sent =>
    match s.egressTx.recv with
    | none => none
    | some (_, channel) =>
        some ({ s with egressTx := channel }, [])

/- The netstack as a machine. -/
def netstack : Machine State Event Obs where
  init := State.init
  step := step

end Netstack

end Wireguard

end SeestarProxy
