import SeestarProxy.Library.Machine
import SeestarProxy.Wireguard.Socket

/-
  The packet loop between the UDP socket and the netstack.

  Each branch of the select is an event: a datagram, a packet
  to encrypt, the protocol timer and the periodic discovery
  announcement. A call of boringtun happens within a step
  and its result is part of the event, so every statement
  about the runs of `packetLoop` holds for any boringtun.
  The loop over chained results of a datagram takes one step
  for each call.

  What the handlers of decrypted packets answer is given by
  `Handlers`.

  Main declarations:
    * `TunnResult`, `TunnAction` and `processTunnResult`
    * `Handlers` and `handleDecryptedPacket`
    * `State`, `Event`, `Obs` and `packetLoop`
-/

------------------------------------------------------------
-- Tunnel Results
------------------------------------------------------------

namespace SeestarProxy

namespace Wireguard

namespace PacketLoop

open Library

/- The address of a UDP peer. -/
inductive SocketAddr where
| v4 (ip : UInt32) (port : UInt16)
| v6 (ip : BitVec 128) (port : UInt16)
    (flowinfo scopeId : UInt32)
deriving DecidableEq, Repr

/- Why boringtun fails, as far as the loop asks. -/
inductive WireGuardError where
| connectionExpired
| other
deriving DecidableEq, Repr

/- The result of a call of boringtun. -/
inductive TunnResult where
| done
| err (error : WireGuardError)
| writeToNetwork (data : Bytes)
| writeToTunnelV4 (data : Bytes)
| writeToTunnelV6 (data : Bytes)
deriving DecidableEq, Repr

/- What is left to do after a result was processed. -/
inductive TunnAction where
| done
| continue
| decrypted (pkt : Bytes)
deriving DecidableEq, Repr

/-
  What a packet is sent for: a reply to the datagram that
  was just received, or one of the other branches.
-/
inductive Purpose where
| reply
| egress
| timer
| discovery
deriving DecidableEq, Repr

/-
  What a step shows: the calls of boringtun, the packets sent
  on the UDP socket and those offered to the netstack.
-/
inductive Obs where
| decapsulated (datagram : Bytes) (result : TunnResult)
| encapsulated (packet : Bytes) (result : TunnResult)
| sent (purpose : Purpose) (addr : SocketAddr) (data : Bytes)
| injected (packet : Bytes)
deriving DecidableEq, Repr

/- Send responses and hand on decrypted data. -/
def processTunnResult
    (purpose : Purpose)
    (peer : SocketAddr) :
    TunnResult → TunnAction × List Obs
| .done => (.done, [])
| .writeToNetwork data =>
    (.continue, [.sent purpose peer data])
| .writeToTunnelV4 data => (.decrypted data, [.injected data])
| .writeToTunnelV6 _ => (.done, [])
| .err .connectionExpired => (.done, [])
| .err .other => (.done, [])

/- Send an encrypted packet; other results send nothing. -/
def sendEncapsulated
    (purpose : Purpose)
    (addr : SocketAddr)
    (packet : Bytes)
    (result : TunnResult) : List Obs :=
  match result with
  | .writeToNetwork data =>
      [.encapsulated packet result, .sent purpose addr data]
  | _ => [.encapsulated packet result]

------------------------------------------------------------
-- Decrypted Packets
------------------------------------------------------------

/-
  What the packet loop answers decrypted packets with, and
  the packet it announces the telescope with. The upstream
  address and the device info are fixed.
-/
structure Handlers where
  handleDnsQuery : Bytes → Option Bytes
  handleDiscovery : Bytes → Option Bytes
  handleIcmpEcho : Bytes → Option Bytes
  discoveryPacket : Bytes

/-
  Where the loop is: in the select, in the loop over chained
  results before the call with an empty datagram or before
  the repeated call, or about to encrypt a response.
-/
inductive Phase where
| selecting
| emptying (src : SocketAddr) (datagram : Bytes)
| repeating (src : SocketAddr) (datagram : Bytes)
| responding (peer : SocketAddr) (response : Bytes)
deriving DecidableEq, Repr

/- The first handler with a response decides. -/
def handleDecryptedPacket
    (handlers : Handlers)
    (pkt : Bytes)
    (peer : SocketAddr) : Phase :=
  match handlers.handleDnsQuery pkt with
  | some response => .responding peer response
  | none =>
      match handlers.handleDiscovery pkt with
      | some response => .responding peer response
      | none =>
          match handlers.handleIcmpEcho pkt with
          | some reply => .responding peer reply
          | none => .selecting

------------------------------------------------------------
-- The Loop
------------------------------------------------------------

/- The state of the packet loop. -/
structure State where
  peerAddr : Option SocketAddr
  sessionActive : Bool
  phase : Phase
deriving DecidableEq, Repr

/- The state in which the loop starts. -/
def State.init : State where
  peerAddr := none
  sessionActive := false
  phase := .selecting

/-
  What happens next. A datagram comes with the result of its
  first `decapsulate`, which follows without a pause.
-/
inductive Event where
| recvError
| datagram (src : SocketAddr) (data : Bytes)
    (result : TunnResult)
| decapsulate (result : TunnResult)
| encapsulate (result : TunnResult)
| egress (packet : Bytes) (result : TunnResult)
| timer (result : TunnResult)
| discovery (result : TunnResult)
deriving DecidableEq, Repr

/- The outer call of the loop over chained results. -/
def decapsulateDatagram
    (handlers : Handlers)
    (src : SocketAddr)
    (datagram : Bytes)
    (result : TunnResult) : Phase × List Obs :=
  let (action, o) := processTunnResult .reply src result
  (match action with
    | .continue => .emptying src datagram
    | .decrypted pkt => handleDecryptedPacket handlers pkt src
    | .done => .selecting,
    .decapsulated datagram result :: o)

/- The inner call; what it leaves starts the loop again. -/
def decapsulateEmpty
    (handlers : Handlers)
    (src : SocketAddr)
    (datagram : Bytes)
    (result : TunnResult) : Phase × List Obs :=
  let (action, o) := processTunnResult .reply src result
  (match action with
    | .decrypted pkt => handleDecryptedPacket handlers pkt src
    | .done => .selecting
    | .continue => .repeating src datagram,
    .decapsulated [] result :: o)

/- The only call while no session is active. -/
def probe
    (handlers : Handlers)
    (src : SocketAddr)
    (datagram : Bytes)
    (result : TunnResult) : Phase × List Obs :=
  let (action, o) := processTunnResult .reply src result
  (match action with
    | .decrypted pkt => handleDecryptedPacket handlers pkt src
    | .done | .continue => .selecting,
    .decapsulated datagram result :: o)

/- The result makes the session active. -/
def TunnResult.isWriteToTunnelV4 : TunnResult → Bool
| .writeToTunnelV4 _ => true
| _ => false

/- One step of the packet loop. -/
def step
    (handlers : Handlers)
    (s : State)
    (event : Event) : Option (State × List Obs) :=
  match event, s.phase with
  | .recvError, .selecting => some (s, [])
  | .datagram src data result, .selecting =>
      if s.sessionActive = false then
        let (phase, o) := probe handlers src data result
        some (⟨some src, result.isWriteToTunnelV4, phase⟩, o)
      else
        let (phase, o) :=
          decapsulateDatagram handlers src data result
        some (⟨some src, true, phase⟩, o)
  | .decapsulate result, .emptying src data =>
      let (phase, o) :=
        decapsulateEmpty handlers src data result
      some ({ s with phase := phase }, o)
  | .decapsulate result, .repeating src data =>
      let (phase, o) :=
        decapsulateDatagram handlers src data result
      some ({ s with phase := phase }, o)
  | .encapsulate result, .responding peer response =>
      some ({ s with phase := .selecting },
        sendEncapsulated .reply peer response result)
  | .egress packet result, .selecting =>
      match s.peerAddr with
      | some addr =>
          some (s, sendEncapsulated .egress addr packet result)
      | none => some (s, [])
  | .timer result, .selecting =>
      match s.peerAddr with
      | some addr =>
          some (s, (processTunnResult .timer addr result).2)
      | none => some (s, [])
  | .discovery result, .selecting =>
      match s.sessionActive, s.peerAddr with
      | true, some addr =>
          some (s, sendEncapsulated .discovery addr
            handlers.discoveryPacket result)
      | _, _ => some (s, [])
  | _, _ => none

/- The packet loop as a machine. -/
def packetLoop (handlers : Handlers) :
    Machine State Event Obs where
  init := State.init
  step := step handlers

end PacketLoop

end Wireguard

end SeestarProxy
