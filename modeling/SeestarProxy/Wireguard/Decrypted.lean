import SeestarProxy.Wireguard.DnsAnswers
import SeestarProxy.Wireguard.Echo
import SeestarProxy.Wireguard.PacketLoop

/-
  When the handlers of decrypted packets panic.

  The parser of queries checks the length that a UDP header
  names from below; the parser of discovery requests does
  not, and slices up to it. The sum of an echo message can
  overflow only in packets that no buffer holds.

  Main declarations:
    * `handleDecryptedPacket`
    * `HasShortLength` and `HasHugeSum`
    * `decrypted_packet_returns_iff`
    * `handlers` and `handleDecryptedPacket_handlers`
-/

------------------------------------------------------------
-- The Chain of Handlers
------------------------------------------------------------

namespace SeestarProxy

namespace Wireguard

open Library Library.OnesComplement

/-
  `handle_decrypted_packet`: the packet that is encrypted
  and sent back, if any handler has one.
-/
def handleDecryptedPacket
    (toLowercase : String → String)
    (serde : Serde)
    (pkt : Bytes)
    (upstreamIp : Ipv4)
    (deviceInfoJson : Bytes) : Checked (Option Bytes) := do
  match ← handleDnsQuery toLowercase pkt upstreamIp with
  | some response => return some response
  | none =>
      match ← handleDiscovery serde pkt upstreamIp
        deviceInfoJson with
      | some response => return some response
      | none => handleIcmpEcho pkt upstreamIp

/-
  A discovery datagram whose length is less than that of the
  UDP header.
-/
def HasShortLength (p : Bytes) : Prop :=
  IsUdpTo discoveryPort p ∧ IsWhole p ∧ udpLength p < 8

/- An echo request whose sum does not fit 32 bits. -/
def HasHugeSum (upstreamIp : Ipv4) (p : Bytes) : Prop :=
  IsEchoRequest upstreamIp p ∧
    2 ^ 32 ≤ wordSum (echoMessage p)

variable {toLowercase : String → String} {serde : Serde}
variable {p response deviceInfoJson : Bytes}
variable {upstreamIp : Ipv4}

/- Discovery panics on short lengths. -/
theorem handleDiscovery_of_short
    (hShort : HasShortLength p) :
    handleDiscovery serde p upstreamIp deviceInfoJson =
      .error .range := by
  rcases hShort with ⟨hUdp, hWhole, hLength⟩
  unfold handleDiscovery
  rw [parseDiscoveryRequest_eq, if_pos ⟨hUdp, hWhole⟩,
    if_pos hLength]
  rfl

/- Otherwise it returns, and answers datagrams to its port. -/
theorem handleDiscovery_of_not_short
    (serde : Serde)
    (upstreamIp : Ipv4)
    (deviceInfoJson : Bytes)
    (hShort : ¬ HasShortLength p) :
    ∃ result,
      handleDiscovery serde p upstreamIp deviceInfoJson =
        .ok result ∧
      (result ≠ none → protocol p = 17) := by
  unfold handleDiscovery
  rw [parseDiscoveryRequest_eq]
  by_cases hParse : IsUdpTo discoveryPort p ∧ IsWhole p
  · have hLength : ¬ udpLength p < 8 := fun hLength =>
      hShort ⟨hParse.1, hParse.2, hLength⟩
    rw [if_pos hParse, if_neg hLength, Checked.ok_bind]
    dsimp only
    cases (fromUtf8 (udpPayload p)).bind serde.fromStr with
    | none => exact ⟨none, rfl, fun hNone => absurd rfl hNone⟩
    | some json =>
        dsimp only
        split
        · exact ⟨none, rfl, fun hNone => absurd rfl hNone⟩
        · rw [buildDiscoveryResponse_eq, Checked.ok_bind]
          exact ⟨_, rfl, fun _ => hParse.1.2.1⟩
  · rw [if_neg hParse]
    exact ⟨none, rfl, fun hNone => absurd rfl hNone⟩

theorem returns_handleIcmpEcho_iff :
    (handleIcmpEcho p upstreamIp).Returns ↔
      ¬ HasHugeSum upstreamIp p := by
  by_cases hIs : IsEchoRequest upstreamIp p
  · rw [handleIcmpEcho_of_request hIs]
    by_cases hSum : wordSum (echoMessage p) < 2 ^ 32
    · rw [if_pos hSum]
      exact iff_of_true trivial fun hHuge =>
        Nat.not_lt_of_le hHuge.2 hSum
    · rw [if_neg hSum]
      exact iff_of_false id (not_not.mpr
        ⟨hIs, Nat.le_of_not_lt hSum⟩)
  · rw [handleIcmpEcho_of_not hIs]
    exact iff_of_true trivial fun hHuge => hIs hHuge.1

/- UDP packets are no echo requests. -/
theorem not_hasHugeSum
    (hProto : protocol p = 17) :
    ¬ HasHugeSum upstreamIp p := by
  rintro ⟨⟨_, hIcmp, _⟩, _⟩
  rw [hProto] at hIcmp
  exact absurd hIcmp (by decide)

/- Queries are not to the discovery port. -/
theorem not_hasShortLength
    (hUdp : IsUdpTo 53 p) :
    ¬ HasShortLength p := by
  rintro ⟨⟨_, _, _, hPort⟩, _⟩
  rw [hUdp.2.2.2] at hPort
  exact absurd hPort (by decide)

/- Packets that a buffer holds have small sums. -/
theorem not_hasHugeSum_of_length
    (hLength : p.length ≤ 131072) :
    ¬ HasHugeSum upstreamIp p := by
  rintro ⟨⟨hLong, _, _, hMessage, _⟩, hSum⟩
  have hSmall :=
    wordSum_echoMessage_lt hLong hMessage hLength
  omega

/-
  The chain panics on exactly the discovery datagrams with a
  short length and the echo requests with a huge sum, which
  are longer than any buffer.
-/
theorem decrypted_packet_returns_iff
    (toLowercase : String → String)
    (serde : Serde)
    (p : Bytes)
    (upstreamIp : Ipv4)
    (deviceInfoJson : Bytes) :
    ((handleDecryptedPacket toLowercase serde p upstreamIp
        deviceInfoJson).Returns ↔
      ¬ HasShortLength p ∧ ¬ HasHugeSum upstreamIp p) ∧
    (p.length ≤ 131072 → ¬ HasHugeSum upstreamIp p) := by
  refine ⟨?_, not_hasHugeSum_of_length⟩
  unfold handleDecryptedPacket
  have hDns := returns_handleDnsQuery toLowercase p upstreamIp
  cases hQuery : handleDnsQuery toLowercase p upstreamIp with
  | error panic =>
      rw [hQuery] at hDns
      exact absurd hDns id
  | ok result =>
      rw [Checked.ok_bind]
      cases result with
      | some response =>
          rcases handleDnsQuery_eq_some_iff.mp hQuery with
            ⟨question, hIs, _⟩
          exact iff_of_true trivial
            ⟨not_hasShortLength hIs.isUdp,
              not_hasHugeSum hIs.isUdp.2.1⟩
      | none =>
          dsimp only
          by_cases hShort : HasShortLength p
          · rw [handleDiscovery_of_short hShort]
            exact iff_of_false id fun hBoth =>
              hBoth.1 hShort
          rcases handleDiscovery_of_not_short serde
            upstreamIp deviceInfoJson hShort with
            ⟨result, hResult, hUdp⟩
          rw [hResult, Checked.ok_bind]
          cases result with
          | some response =>
              exact iff_of_true trivial
                ⟨hShort, not_hasHugeSum (hUdp nofun)⟩
          | none =>
              rw [and_iff_right hShort]
              exact returns_handleIcmpEcho_iff

/- A datagram to port 4720 whose length is zero. -/
def emptyDatagram : Bytes :=
  [0x45, 0, 0, 28, 0, 0, 0x40, 0, 64, 17, 0, 0,
    10, 99, 0, 2, 10, 0, 0, 1] ++
  [0x12, 0x70, 0x12, 0x70, 0, 0, 0, 0]

/- A slice of it starts past its end. -/
theorem short_discovery_datagram_panics :
    handleDecryptedPacket lowerAscii
        (Serde.knowing []) emptyDatagram #v[10, 0, 0, 1] [] =
      .error .range := by
  have hShort : HasShortLength emptyDatagram :=
    ⟨by decide, by decide, by decide⟩
  have hNone :
      handleDnsQuery lowerAscii emptyDatagram
        #v[10, 0, 0, 1] = .ok none := by
    apply handleDnsQuery_of_none
    rintro question ⟨hUdp, _⟩
    exact not_hasShortLength hUdp hShort
  unfold handleDecryptedPacket
  rw [hNone, Checked.ok_bind]
  change (handleDiscovery _ emptyDatagram _ _ >>= _) = _
  rw [handleDiscovery_of_short hShort]
  rfl

------------------------------------------------------------
-- In the Packet Loop
------------------------------------------------------------

/- What a handler answers, if it returns. -/
def answered : Checked (Option Bytes) → Option Bytes
| .ok response => response
| .error _ => none

/- The handlers and the announcement of the packet loop. -/
def handlers
    (toLowercase : String → String)
    (serde : Serde)
    (upstreamIp : Ipv4)
    (deviceInfoJson : Bytes) : PacketLoop.Handlers where
  handleDnsQuery pkt :=
    answered (handleDnsQuery toLowercase pkt upstreamIp)
  handleDiscovery pkt :=
    answered (handleDiscovery serde pkt upstreamIp
      deviceInfoJson)
  handleIcmpEcho pkt :=
    answered (handleIcmpEcho pkt upstreamIp)
  discoveryPacket :=
    udpPacket upstreamIp #v[10, 99, 0, 2] discoveryPort
      deviceInfoJson

/- Go on to send a response, if there is one. -/
def sendBack (peer : PacketLoop.SocketAddr) :
    Option Bytes → PacketLoop.Phase
| some response => .responding peer response
| none => .selecting

/-
  On a packet that does not panic, the packet loop with these
  handlers sends back what the chain answers.
-/
theorem handleDecryptedPacket_handlers
    {result : Option Bytes}
    (peer : PacketLoop.SocketAddr)
    (hResult :
      handleDecryptedPacket toLowercase serde p upstreamIp
        deviceInfoJson = .ok result) :
    PacketLoop.handleDecryptedPacket
        (handlers toLowercase serde upstreamIp
          deviceInfoJson) p peer =
      sendBack peer result := by
  unfold handleDecryptedPacket at hResult
  unfold PacketLoop.handleDecryptedPacket handlers
  dsimp only
  cases hDns : handleDnsQuery toLowercase p upstreamIp with
  | error panic =>
      rw [hDns] at hResult
      cases hResult
  | ok query =>
      rw [hDns, Checked.ok_bind] at hResult
      cases query with
      | some response =>
          cases hResult
          rfl
      | none =>
          dsimp only at hResult
          cases hDisc : handleDiscovery serde p upstreamIp
            deviceInfoJson with
          | error panic =>
              rw [hDisc] at hResult
              cases hResult
          | ok answer =>
              rw [hDisc, Checked.ok_bind] at hResult
              cases answer with
              | some response =>
                  cases hResult
                  rfl
              | none =>
                  dsimp only at hResult
                  rw [hResult]
                  cases result <;> rfl

end Wireguard

end SeestarProxy
