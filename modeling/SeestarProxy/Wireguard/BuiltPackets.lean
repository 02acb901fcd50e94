import SeestarProxy.Wireguard.Packets

/-
  Built packets are well formed and parse back.

  The fields of a built packet are read as those of any
  other packet. Its lengths are the real ones as long as they
  fit 16 bits, and its header verifies.

  Main declarations:
    * `length_udpPacket` and the fields of `udpPacket`
    * `verifies_udpPacket`
    * `built_packet_parses_back`
-/

------------------------------------------------------------
-- Fields
------------------------------------------------------------

namespace SeestarProxy

namespace Wireguard

open Library Library.Slice Library.OnesComplement Protocol

variable (srcIp dstIp : Ipv4) (port : UInt16)
variable (payload : Bytes)

theorem length_ipHeader
    (totalLen checksum : UInt16) :
    (ipHeader srcIp dstIp totalLen checksum).length = 20 := by
  simp [ipHeader]

@[simp] theorem length_udpPacket :
    (udpPacket srcIp dstIp port payload).length =
      28 + payload.length := by
  simp only [udpPacket, List.length_append, length_ipHeader,
    length_u16ToBeBytes, List.length_cons, List.length_nil]

@[simp] theorem ihl_udpPacket :
    ihl (udpPacket srcIp dstIp port payload) = 20 := by
  change headerLength 0x45 = 20
  decide

theorem source_udpPacket :
    source (udpPacket srcIp dstIp port payload) = srcIp := by
  rcases exists_octets srcIp with ⟨a, b, c, d, rfl⟩
  rfl

theorem destination_udpPacket :
    destination (udpPacket srcIp dstIp port payload) =
      dstIp := by
  rcases exists_octets srcIp with ⟨a, b, c, d, rfl⟩
  rcases exists_octets dstIp with ⟨a', b', c', d', rfl⟩
  rfl

theorem protocol_udpPacket :
    protocol (udpPacket srcIp dstIp port payload) = 17 := by
  rfl

/- The packet behind its header. -/
theorem drop_udpPacket :
    (udpPacket srcIp dstIp port payload).drop 20 =
      u16ToBeBytes discoveryPort ++ (u16ToBeBytes port ++
        (u16ToBeBytes (UInt16.ofNat (8 + payload.length)) ++
          ([0, 0] ++ payload))) := by
  simp only [udpPacket, List.append_assoc]
  exact List.drop_left' (length_ipHeader ..)

/- A built packet comes from the discovery port. -/
theorem srcPort_udpPacket :
    srcPort (udpPacket srcIp dstIp port payload) =
      discoveryPort := by
  rw [srcPort, ihl_udpPacket, ← Nat.add_zero 20,
    ← wordAt_drop, drop_udpPacket]
  exact u16FromBeBytes_toBeBytes discoveryPort

theorem dstPort_udpPacket :
    dstPort (udpPacket srcIp dstIp port payload) = port := by
  rw [dstPort, ihl_udpPacket, ← wordAt_drop, drop_udpPacket]
  exact u16FromBeBytes_toBeBytes port

theorem udpLength_udpPacket :
    udpLength (udpPacket srcIp dstIp port payload) =
      (8 + payload.length) % 65536 := by
  rw [udpLength, ihl_udpPacket, ← wordAt_drop,
    drop_udpPacket]
  change (u16FromBeBytes _ _).toNat = _
  exact (congrArg UInt16.toNat
    (u16FromBeBytes_toBeBytes _)).trans UInt16.toNat_ofNat'

/- The total length, in the third and the fourth byte. -/
theorem totalLength_udpPacket :
    (wordAt (udpPacket srcIp dstIp port payload) 2).toNat =
      (28 + payload.length) % 65536 := by
  change (u16FromBeBytes _ _).toNat = _
  exact (congrArg UInt16.toNat
    (u16FromBeBytes_toBeBytes _)).trans UInt16.toNat_ofNat'

/- What is behind the two headers is the payload. -/
theorem datagram_udpPacket :
    (udpPacket srcIp dstIp port payload).drop 28 =
      payload := by
  have hSplit : 28 = 20 + 8 := rfl
  rw [hSplit, ← List.drop_drop, drop_udpPacket]
  rfl

------------------------------------------------------------
-- The Header Verifies
------------------------------------------------------------

theorem take_udpPacket :
    (udpPacket srcIp dstIp port payload).take 20 =
      ipHeader srcIp dstIp
        (UInt16.ofNat (20 + 8 + payload.length))
        (foldSum (wordSum (ipHeader srcIp dstIp
          (UInt16.ofNat (20 + 8 + payload.length)) 0))) := by
  simp only [udpPacket, List.append_assoc]
  exact List.take_left' (length_ipHeader ..)

/- The checksum takes the place of zeros in the header. -/
theorem ipHeader_eq_overwrite
    (totalLen checksum : UInt16) :
    ipHeader srcIp dstIp totalLen checksum =
      overwrite (ipHeader srcIp dstIp totalLen 0) 10
        (u16ToBeBytes checksum) := by
  rfl

theorem verifies_udpPacket :
    Verifies
      ((udpPacket srcIp dstIp port payload).take 20) := by
  rw [take_udpPacket, ipHeader_eq_overwrite]
  apply verifies_foldSum rfl _ rfl rfl
  rw [length_ipHeader]
  decide

------------------------------------------------------------
-- Parsing Back
------------------------------------------------------------

variable {srcIp dstIp port payload}

theorem isUdpTo_udpPacket :
    IsUdpTo port (udpPacket srcIp dstIp port payload) := by
  refine ⟨?_, protocol_udpPacket .., ?_,
    dstPort_udpPacket ..⟩
  · rw [length_udpPacket]
    omega
  · rw [length_udpPacket, ihl_udpPacket]
    omega

/- A payload that fits is what the length in the header says. -/
theorem udpPayload_udpPacket
    (hPayload : payload.length ≤ 65507) :
    udpPayload (udpPacket srcIp dstIp port payload) =
      payload := by
  rw [udpPayload, udpLength_udpPacket, ihl_udpPacket,
    Nat.mod_eq_of_lt (by omega), List.take_of_length_le,
    List.drop_drop, datagram_udpPacket]
  rw [List.length_drop, length_udpPacket]
  omega

theorem isWhole_udpPacket
    (hPayload : payload.length ≤ 65507) :
    IsWhole (udpPacket srcIp dstIp port payload) := by
  rw [IsWhole, udpLength_udpPacket, ihl_udpPacket,
    length_udpPacket, Nat.mod_eq_of_lt (by omega)]
  omega

/-
  The lengths in a built packet are the real ones, its header
  verifies, and with the discovery port it parses back.
-/
theorem built_packet_parses_back
    (srcIp dstIp : Ipv4)
    (dstPort : UInt16)
    (payload : Bytes)
    (hPayload : payload.length ≤ 65507) :
    ∃ packet,
      buildDiscoveryResponse srcIp dstIp dstPort payload =
        .ok packet ∧
      packet.length = 28 + payload.length ∧
      (wordAt packet 2).toNat = packet.length ∧
      (wordAt packet 24).toNat = packet.length - 20 ∧
      Verifies (packet.take 20) ∧
      (dstPort = discoveryPort →
        parseDiscoveryRequest packet =
          .ok (some (srcIp, discoveryPort, payload))) := by
  have hUdp := udpLength_udpPacket srcIp dstIp dstPort payload
  refine ⟨udpPacket srcIp dstIp dstPort payload,
    buildDiscoveryResponse_eq srcIp dstIp dstPort payload,
    length_udpPacket .., ?_, ?_, verifies_udpPacket ..,
    ?_⟩
  · rw [totalLength_udpPacket, length_udpPacket,
      Nat.mod_eq_of_lt (by omega)]
  · rw [udpLength, ihl_udpPacket] at hUdp
    rw [hUdp, length_udpPacket, Nat.mod_eq_of_lt (by omega)]
    omega
  · rintro rfl
    rw [parseDiscoveryRequest_eq,
      if_pos ⟨isUdpTo_udpPacket, isWhole_udpPacket hPayload⟩,
      if_neg, source_udpPacket, srcPort_udpPacket,
      udpPayload_udpPacket hPayload]
    rw [udpLength_udpPacket, Nat.mod_eq_of_lt (by omega)]
    omega

/- A payload of one byte, from the telescope to a client. -/
theorem built_packet_parses_back_one :
    ∃ packet,
      buildDiscoveryResponse #v[10, 0, 0, 1] #v[10, 99, 0, 2]
        4720 [123] = .ok packet ∧
      packet.length = 28 + [123].length ∧
      (wordAt packet 2).toNat = packet.length ∧
      (wordAt packet 24).toNat = packet.length - 20 ∧
      Verifies (packet.take 20) ∧
      ((4720 : UInt16) = discoveryPort →
        parseDiscoveryRequest packet =
          .ok (some
            (#v[10, 0, 0, 1], discoveryPort, [123]))) :=
  built_packet_parses_back #v[10, 0, 0, 1] #v[10, 99, 0, 2]
    4720 [123] (by decide)

end Wireguard

end SeestarProxy
