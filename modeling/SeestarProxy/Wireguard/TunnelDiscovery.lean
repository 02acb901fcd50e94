import Mathlib
import SeestarProxy.Json
import SeestarProxy.Library.OnesComplement
import SeestarProxy.Library.Slice
import SeestarProxy.Protocol
import SeestarProxy.Wireguard.Socket

/-
  The packets that the tunnel answers on its own.

  A decrypted packet is a run of bytes of any length. Every
  access to it is checked as Rust checks it, and the 32-bit
  accumulators of the checksums too; positions and lengths
  are far below the 64-bit bounds.

  Main declarations:
    * `parseDiscoveryRequest` and `buildDiscoveryResponse`
    * `ipChecksum` and `internetChecksum`
    * `handleDiscovery` and `handleIcmpEcho`
-/

------------------------------------------------------------
-- Bytes
------------------------------------------------------------

namespace SeestarProxy

namespace Wireguard

open Library Library.Slice Protocol

/- An IPv4 address. -/
abbrev Ipv4 := Vector UInt8 4

/- `u16::to_be_bytes`. -/
def u16ToBeBytes (w : UInt16) : Bytes :=
  [UInt8.ofNat (w.toNat / 256), UInt8.ofNat w.toNat]

/- Two bytes of a packet as a number. -/
def readU16 (bytes : Bytes) (i : Nat) : Checked UInt16 := do
  let high ← index bytes i
  let low ← index bytes (i + 1)
  return u16FromBeBytes high low

/- Four bytes of a packet as an address. -/
def readIpv4 (bytes : Bytes) (i : Nat) : Checked Ipv4 := do
  let a ← index bytes i
  let b ← index bytes (i + 1)
  let c ← index bytes (i + 2)
  let d ← index bytes (i + 3)
  return ipv4Addr a b c d

/- The header length that the first byte of a packet names. -/
def headerLength (first : UInt8) : Nat :=
  first.toNat % 16 * 4

/- `str::from_utf8`. -/
def fromUtf8 (bytes : Bytes) : Option String :=
  String.fromUTF8? (ByteArray.mk bytes.toArray)

------------------------------------------------------------
-- Checksums
------------------------------------------------------------

/- The word at a position; an odd last byte is its half. -/
def headerWord (header : Bytes) (i : Nat) : Checked UInt16 :=
  if i + 1 < header.length then
    readU16 header i
  else do
    let high ← index header i
    return u16FromBeBytes high 0

/- The words of a header from a position on are summed. -/
def ipSum
    (header : Bytes)
    (i sum : Nat) : Checked Nat :=
  if i < header.length then
    if i = 10 then
      -- Skip the checksum field itself.
      ipSum header (i + 2) sum
    else do
      let word ← headerWord header i
      let next ← addU32 sum word.toNat
      ipSum header (i + 2) next
  else
    .ok sum
termination_by header.length - i

/- The carries are folded in, and the bits turned round. -/
def foldSum (sum : Nat) : UInt16 :=
  ~~~ UInt16.ofNat (OnesComplement.fold sum)

/- `ip_checksum`. -/
def ipChecksum (header : Bytes) : Checked UInt16 := do
  let sum ← ipSum header 0 0
  return foldSum sum

/- The words of some data from a position on are summed. -/
def internetSum
    (data : Bytes)
    (i sum : Nat) : Checked Nat :=
  if i + 1 < data.length then do
    let word ← readU16 data i
    let next ← addU32 sum word.toNat
    internetSum data (i + 2) next
  else if i < data.length then do
    let last ← index data i
    addU32 sum (last.toNat * 256)
  else
    .ok sum
termination_by data.length - i

/- `internet_checksum`. -/
def internetChecksum (data : Bytes) : Checked UInt16 := do
  let sum ← internetSum data 0 0
  return foldSum sum

------------------------------------------------------------
-- Discovery
------------------------------------------------------------

/- `DISCOVERY_PORT`. -/
def discoveryPort : UInt16 := 4720

/- What is read of a UDP packet to a port. -/
structure UdpRead where
  srcIp : Ipv4
  srcPort : UInt16
  udp : Bytes
  udpLen : Nat

/-
  The checks that the handlers of UDP packets share: a UDP
  header in the packet, and the destination port.
-/
def readUdp
    (port : UInt16)
    (ipPacket : Bytes) : Checked (Option UdpRead) :=
  if ipPacket.length < 28 then
    .ok none
  else do
    let proto ← index ipPacket 9
    if proto ≠ 17 then
      return none
    let ihl := headerLength (← index ipPacket 0)
    if ipPacket.length < ihl + 8 then
      return none
    let udp ← sliceFrom ipPacket ihl
    let dstPort ← readU16 udp 2
    if dstPort ≠ port then
      return none
    let srcIp ← readIpv4 ipPacket 12
    let srcPort ← readU16 udp 0
    let udpLen ← readU16 udp 4
    return some ⟨srcIp, srcPort, udp, udpLen.toNat⟩

/- The source and the payload of a discovery datagram. -/
def parseDiscoveryRequest
    (ipPacket : Bytes) :
    Checked (Option (Ipv4 × UInt16 × Bytes)) := do
  match ← readUdp discoveryPort ipPacket with
  | none => return none
  | some read =>
      if read.udp.length < read.udpLen then
        return none
      else
        let payload ← slice read.udp 8 read.udpLen
        return some (read.srcIp, read.srcPort, payload)

/- `build_discovery_response`. -/
def buildDiscoveryResponse
    (srcIp dstIp : Ipv4)
    (dstPort : UInt16)
    (payload : Bytes) : Checked Bytes := do
  let totalLen := 20 + 8 + payload.length
  let packet := List.replicate totalLen 0
  let packet ← setIndex packet 0 0x45
  let packet ← setIndex packet 1 0
  let packet ← copyFromSlice packet 2 4
    (u16ToBeBytes (UInt16.ofNat totalLen))
  let packet ← copyFromSlice packet 4 6 [0, 0]
  let packet ← copyFromSlice packet 6 8 [0x40, 0]
  let packet ← setIndex packet 8 64
  let packet ← setIndex packet 9 17
  let packet ← copyFromSlice packet 12 16 srcIp.toList
  let packet ← copyFromSlice packet 16 20 dstIp.toList
  let header ← slice packet 0 20
  let checksum ← ipChecksum header
  let packet ← copyFromSlice packet 10 12
    (u16ToBeBytes checksum)
  let udpLen := UInt16.ofNat (8 + payload.length)
  let packet ← copyFromSlice packet 20 22
    (u16ToBeBytes discoveryPort)
  let packet ← copyFromSlice packet 22 24
    (u16ToBeBytes dstPort)
  let packet ← copyFromSlice packet 24 26
    (u16ToBeBytes udpLen)
  copyFromSlice packet 28 packet.length payload

/- `handle_discovery`. -/
def handleDiscovery
    (serde : Serde)
    (ipPacket : Bytes)
    (upstreamIp : Ipv4)
    (deviceInfoJson : Bytes) : Checked (Option Bytes) := do
  match ← parseDiscoveryRequest ipPacket with
  | none => return none
  | some (clientIp, clientPort, payload) =>
      match (fromUtf8 payload).bind serde.fromStr with
      | none => return none
      | some json =>
          if methodName json ≠ some "scan_iscope" then
            return none
          else
            let responsePacket ← buildDiscoveryResponse
              upstreamIp clientIp clientPort deviceInfoJson
            return some responsePacket

------------------------------------------------------------
-- Echo Requests
------------------------------------------------------------

/- `handle_icmp_echo`. -/
def handleIcmpEcho
    (ipPacket : Bytes)
    (upstreamIp : Ipv4) : Checked (Option Bytes) :=
  if ipPacket.length < 28 then
    .ok none
  else do
    let proto ← index ipPacket 9
    if proto ≠ 1 then
      return none
    let dstIp ← readIpv4 ipPacket 16
    if dstIp ≠ upstreamIp then
      return none
    let ihl := headerLength (← index ipPacket 0)
    if ipPacket.length < ihl + 8 then
      return none
    let icmp ← sliceFrom ipPacket ihl
    let icmpType ← index icmp 0
    if icmpType ≠ 8 then
      return none
    let srcIp ← readIpv4 ipPacket 12
    -- The addresses are swapped.
    let reply ← copyFromSlice ipPacket 12 16 dstIp.toList
    let reply ← copyFromSlice reply 16 20 srcIp.toList
    let reply ← setIndex reply 10 0
    let reply ← setIndex reply 11 0
    let header ← slice reply 0 ihl
    let ipCksum ← ipChecksum header
    let reply ← copyFromSlice reply 10 12
      (u16ToBeBytes ipCksum)
    -- The request becomes a reply.
    let reply ← setIndex reply ihl 0
    let reply ← setIndex reply (ihl + 2) 0
    let reply ← setIndex reply (ihl + 3) 0
    let message ← sliceFrom reply ihl
    let icmpCksum ← internetChecksum message
    let reply ← copyFromSlice reply (ihl + 2) (ihl + 4)
      (u16ToBeBytes icmpCksum)
    return some reply

end Wireguard

end SeestarProxy
