import SeestarProxy.Wireguard.TunnelDiscovery

/-
  What the packet functions compute.

  The fields of a packet are read without checks here, with
  zeros past its end. Where the functions of the tunnel make
  their checks, they read these fields, and the two checksum
  routines return the complement of the one's-complement sum.

  Main declarations:
    * `wordAt`, `addressAt`, `ihl` and the UDP fields
    * `ipChecksum_eq` and `internetChecksum_eq`
    * `IsUdpTo` and `parseDiscoveryRequest_eq`
    * `udpPacket` and `buildDiscoveryResponse_eq`
-/

------------------------------------------------------------
-- Fields
------------------------------------------------------------

namespace SeestarProxy

namespace Wireguard

open Library Library.Slice Library.OnesComplement Protocol

variable {bytes header data p : Bytes} {i sum : Nat}

/- The number in the two bytes at a position. -/
def wordAt (bytes : Bytes) (i : Nat) : UInt16 :=
  u16FromBeBytes (bytes.getD i 0) (bytes.getD (i + 1) 0)

/- The address in the four bytes at a position. -/
def addressAt (bytes : Bytes) (i : Nat) : Ipv4 :=
  #v[bytes.getD i 0, bytes.getD (i + 1) 0,
    bytes.getD (i + 2) 0, bytes.getD (i + 3) 0]

/- The header length of a packet. -/
def ihl (p : Bytes) : Nat := headerLength (p.getD 0 0)

/- The protocol, and the addresses and ports of a packet. -/
def protocol (p : Bytes) : UInt8 := p.getD 9 0

def source (p : Bytes) : Ipv4 := addressAt p 12

def destination (p : Bytes) : Ipv4 := addressAt p 16

def srcPort (p : Bytes) : UInt16 := wordAt p (ihl p)

def dstPort (p : Bytes) : UInt16 := wordAt p (ihl p + 2)

/- The length that the UDP header of a packet names. -/
def udpLength (p : Bytes) : Nat :=
  (wordAt p (ihl p + 4)).toNat

/- What follows the UDP header, as far as it names. -/
def udpPayload (p : Bytes) : Bytes :=
  ((p.drop (ihl p)).take (udpLength p)).drop 8

theorem readU16_eq
    (hBound : i + 1 < bytes.length) :
    readU16 bytes i = .ok (wordAt bytes i) := by
  unfold readU16
  rw [index_eq 0 (by omega), index_eq 0 hBound]
  rfl

theorem readIpv4_eq
    (hBound : i + 3 < bytes.length) :
    readIpv4 bytes i = .ok (addressAt bytes i) := by
  unfold readIpv4
  rw [index_eq 0 (by omega), index_eq 0 (by omega),
    index_eq 0 (by omega), index_eq 0 hBound]
  rfl

theorem wordAt_drop (n : Nat) :
    wordAt (bytes.drop n) i = wordAt bytes (n + i) := by
  unfold wordAt
  rw [getD_drop, getD_drop, Nat.add_assoc]

theorem ihl_le (p : Bytes) : ihl p ≤ 60 := by
  unfold ihl headerLength
  omega

theorem toNat_u16FromBeBytes (a b : UInt8) :
    (u16FromBeBytes a b).toNat =
      a.toNat * 256 + b.toNat := by
  have hHigh := a.toNat_lt
  have hLow := b.toNat_lt
  unfold u16FromBeBytes
  rw [UInt16.toNat_ofNat']
  omega

------------------------------------------------------------
-- Checksums
------------------------------------------------------------

@[simp] theorem length_u16ToBeBytes (w : UInt16) :
    (u16ToBeBytes w).length = 2 := rfl

/- A number is read back from its bytes. -/
theorem wordSum_u16ToBeBytes (w : UInt16) :
    wordSum (u16ToBeBytes w) = w.toNat := by
  have hWord := w.toNat_lt
  unfold u16ToBeBytes
  simp only [wordSum, UInt8.toNat_ofNat']
  omega

theorem u16FromBeBytes_toBeBytes (w : UInt16) :
    u16FromBeBytes (UInt8.ofNat (w.toNat / 256))
        (UInt8.ofNat w.toNat) =
      w := by
  have hWord := w.toNat_lt
  apply UInt16.toNat_inj.mp
  rw [toNat_u16FromBeBytes, UInt8.toNat_ofNat',
    UInt8.toNat_ofNat']
  omega

theorem toNat_foldSum (sum : Nat) :
    (foldSum sum).toNat = 65535 - fold sum := by
  have hLt := fold_lt sum
  unfold foldSum
  rw [UInt16.toNat_not, UInt16.toNat_ofNat']
  have hSize : UInt16.size = 65536 := rfl
  omega

/- The complement of a sum verifies in the place of zeros. -/
theorem verifies_foldSum
    {start : Nat}
    (hEven : start % 2 = 0)
    (hBound : start + 2 ≤ bytes.length)
    (hHigh : bytes.getD start 0 = 0)
    (hLow : bytes.getD (start + 1) 0 = 0) :
    Verifies (overwrite bytes start
      (u16ToBeBytes (foldSum (wordSum bytes)))) := by
  apply verifies_overwrite hEven rfl hBound hHigh hLow
  rw [wordSum_u16ToBeBytes, toNat_foldSum]

/- The sum of what is left splits into its first word. -/
theorem wordSum_drop
    (hBound : i < bytes.length) :
    wordSum (bytes.drop i) =
      (wordAt bytes i).toNat +
        wordSum (bytes.drop (i + 2)) := by
  unfold wordAt
  rw [toNat_u16FromBeBytes, drop_eq_cons 0 hBound]
  by_cases hNext : i + 1 < bytes.length
  · rw [drop_eq_cons 0 hNext, wordSum]
  · have hLength : bytes.length ≤ i + 1 := by omega
    have hPast : bytes.length ≤ i + 2 := by omega
    rw [List.drop_eq_nil_of_le hLength,
      List.drop_eq_nil_of_le hPast,
      List.getD_eq_default _ _ hLength]
    simp [wordSum]

theorem headerWord_eq
    (hBound : i < header.length) :
    headerWord header i = .ok (wordAt header i) := by
  unfold headerWord
  split
  · next hNext => exact readU16_eq hNext
  · next hLast =>
      have hLength : header.length ≤ i + 1 := by omega
      rw [index_eq 0 hBound, wordAt,
        List.getD_eq_default _ _ hLength]
      rfl

/-
  The sum of a header whose checksum field is zero, if it
  does not overflow.
-/
theorem ipSum_eq
    (hEven : i % 2 = 0)
    (hHigh : header.getD 10 0 = 0)
    (hLow : header.getD 11 0 = 0)
    (hSum : sum + wordSum (header.drop i) < 2 ^ 32) :
    ipSum header i sum =
      .ok (sum + wordSum (header.drop i)) := by
  fun_induction ipSum header i sum with
  | case1 sum hBound ih =>
      rw [wordSum_drop hBound] at hSum ⊢
      have hZero : (wordAt header 10).toNat = 0 := by
        rw [wordAt, hHigh, hLow]
        rfl
      rw [hZero, Nat.zero_add] at hSum ⊢
      exact ih rfl hSum
  | case2 i sum hBound hOther ih =>
      rw [wordSum_drop hBound] at hSum ⊢
      rw [headerWord_eq hBound, Checked.ok_bind,
        addU32_eq (by omega), Checked.ok_bind,
        ih _ (by omega) (by omega), Nat.add_assoc]
  | case3 i sum hEnd =>
      rw [List.drop_eq_nil_of_le (by omega)]
      rfl

/- Headers are too short for their sums to overflow. -/
theorem ipChecksum_eq
    (hLength : header.length ≤ 60)
    (hHigh : header.getD 10 0 = 0)
    (hLow : header.getD 11 0 = 0) :
    ipChecksum header = .ok (foldSum (wordSum header)) := by
  have hBound := wordSum_le header
  have hSum : 0 + wordSum (header.drop 0) < 2 ^ 32 := by
    rw [List.drop_zero]
    omega
  unfold ipChecksum
  rw [ipSum_eq rfl hHigh hLow hSum, List.drop_zero,
    Nat.zero_add]
  rfl

/- The sum of some data panics exactly when it overflows. -/
theorem internetSum_eq
    (hSum : sum < 2 ^ 32) :
    internetSum data i sum =
      if sum + wordSum (data.drop i) < 2 ^ 32 then
        .ok (sum + wordSum (data.drop i))
      else
        .error .overflow := by
  fun_induction internetSum data i sum with
  | case1 i sum hBound ih =>
      rw [readU16_eq hBound, Checked.ok_bind,
        wordSum_drop (by omega), ← Nat.add_assoc]
      unfold addU32
      by_cases hNext :
          sum + (wordAt data i).toNat < 2 ^ 32
      · rw [if_pos hNext, Checked.ok_bind, ih _ hNext]
      · rw [if_neg hNext, if_neg (by omega)]
        rfl
  | case2 i sum hBound hLast =>
      rw [index_eq 0 hLast, Checked.ok_bind,
        drop_eq_cons 0 hLast,
        List.drop_eq_nil_of_le (by omega)]
      rfl
  | case3 i sum hBound hEnd =>
      rw [List.drop_eq_nil_of_le (by omega)]
      exact (if_pos hSum).symm

theorem internetChecksum_eq :
    internetChecksum data =
      if wordSum data < 2 ^ 32 then
        .ok (foldSum (wordSum data))
      else
        .error .overflow := by
  unfold internetChecksum
  rw [internetSum_eq (by decide), List.drop_zero,
    Nat.zero_add]
  split <;> rfl

------------------------------------------------------------
-- Datagrams to a Port
------------------------------------------------------------

/- A packet with a UDP header to a port. -/
def IsUdpTo (port : UInt16) (p : Bytes) : Prop :=
  28 ≤ p.length ∧ protocol p = 17 ∧
    ihl p + 8 ≤ p.length ∧ dstPort p = port

instance (port : UInt16) (p : Bytes) :
    Decidable (IsUdpTo port p) :=
  inferInstanceAs (Decidable (_ ∧ _))

/- All bytes of the datagram are in the packet. -/
def IsWhole (p : Bytes) : Prop :=
  udpLength p ≤ p.length - ihl p

instance (p : Bytes) : Decidable (IsWhole p) :=
  inferInstanceAs (Decidable (_ ≤ _))

variable {port : UInt16}

/- The payload of a datagram is sliced out, or this panics. -/
theorem slice_payload
    (hWhole : IsWhole p) :
    slice (p.drop (ihl p)) 8 (udpLength p) =
      if udpLength p < 8 then
        .error .range
      else
        .ok (udpPayload p) := by
  split
  · next hShort => exact slice_eq_error hShort
  · next hLong =>
      apply slice_eq (by omega)
      rw [List.length_drop]
      exact hWhole

/- What is read of a packet that passes the checks. -/
def udpRead (p : Bytes) : UdpRead where
  srcIp := source p
  srcPort := srcPort p
  udp := p.drop (ihl p)
  udpLen := udpLength p

theorem readUdp_eq (port : UInt16) (p : Bytes) :
    readUdp port p =
      .ok (if IsUdpTo port p then some (udpRead p)
        else none) := by
  unfold readUdp
  by_cases hLength : p.length < 28
  · rw [if_pos hLength, if_neg fun hIs => by
      have hLong := hIs.1
      omega]
  rw [if_neg hLength, index_eq 0 (by omega),
    Checked.ok_bind]
  by_cases hProto : p.getD 9 0 = 17
  · rw [if_neg (not_not.mpr hProto), index_eq 0 (by omega),
      Checked.ok_bind]
    change (if p.length < ihl p + 8 then _ else _) = _
    by_cases hHeader : p.length < ihl p + 8
    · rw [if_pos hHeader, if_neg fun hIs => by
        have hLong := hIs.2.2.1
        omega]
      rfl
    have hUdp : (p.drop (ihl p)).length = p.length - ihl p :=
      List.length_drop
    rw [if_neg hHeader]
    change (sliceFrom p (ihl p) >>= _) = _
    rw [sliceFrom_eq (by omega), Checked.ok_bind,
      readU16_eq (by omega), Checked.ok_bind, wordAt_drop]
    change (if dstPort p ≠ port then _ else _) = _
    by_cases hPort : dstPort p = port
    · have hIs : IsUdpTo port p :=
        ⟨by omega, hProto, by omega, hPort⟩
      rw [if_pos hIs, if_neg (not_not.mpr hPort),
        readIpv4_eq (by omega), Checked.ok_bind,
        readU16_eq (by omega), Checked.ok_bind,
        readU16_eq (by omega), Checked.ok_bind,
        wordAt_drop, wordAt_drop]
      rfl
    · rw [if_pos hPort, if_neg fun hIs => hPort hIs.2.2.2]
      rfl
  · rw [if_pos hProto, if_neg fun hIs => hProto hIs.2.1]
    rfl

/- Discovery parses what it checks, but for short lengths. -/
theorem parseDiscoveryRequest_eq (p : Bytes) :
    parseDiscoveryRequest p =
      if IsUdpTo discoveryPort p ∧ IsWhole p then
        if udpLength p < 8 then
          .error .range
        else
          .ok (some (source p, srcPort p, udpPayload p))
      else
        .ok none := by
  unfold parseDiscoveryRequest
  rw [readUdp_eq, Checked.ok_bind]
  by_cases hIs : IsUdpTo discoveryPort p
  · rw [if_pos hIs]
    change (if (p.drop (ihl p)).length < udpLength p then _
      else _) = _
    rw [List.length_drop]
    by_cases hWhole : IsWhole p
    · rw [if_neg (Nat.not_lt_of_le hWhole),
        if_pos ⟨hIs, hWhole⟩]
      change (slice (p.drop (ihl p)) 8 (udpLength p) >>= _) =
        _
      rw [slice_payload hWhole]
      split <;> rfl
    · rw [if_pos (Nat.lt_of_not_le hWhole),
        if_neg fun hBoth => hWhole hBoth.2]
      rfl
  · rw [if_neg hIs, if_neg fun hBoth => hIs hBoth.1]
    rfl

------------------------------------------------------------
-- Built Packets
------------------------------------------------------------

/- An IPv4 header of 20 bytes for a UDP datagram. -/
def ipHeader
    (srcIp dstIp : Ipv4)
    (totalLen checksum : UInt16) : Bytes :=
  [0x45, 0] ++ u16ToBeBytes totalLen ++
    [0, 0, 0x40, 0, 64, 17] ++ u16ToBeBytes checksum ++
    srcIp.toList ++ dstIp.toList

/- The packet that is built, with its fields in order. -/
def udpPacket
    (srcIp dstIp : Ipv4)
    (dstPort : UInt16)
    (payload : Bytes) : Bytes :=
  let totalLen := UInt16.ofNat (20 + 8 + payload.length)
  let unsigned := ipHeader srcIp dstIp totalLen 0
  ipHeader srcIp dstIp totalLen
      (foldSum (wordSum unsigned)) ++
    u16ToBeBytes discoveryPort ++ u16ToBeBytes dstPort ++
    u16ToBeBytes (UInt16.ofNat (8 + payload.length)) ++
    [0, 0] ++ payload

theorem exists_octets (ip : Ipv4) :
    ∃ a b c d, ip = #v[a, b, c, d] := by
  rcases ip with ⟨⟨octets⟩, hSize⟩
  match octets, hSize with
  | [a, b, c, d], _ => exact ⟨a, b, c, d, rfl⟩

theorem exists_bytes (w : UInt16) :
    ∃ high low, u16ToBeBytes w = [high, low] :=
  ⟨_, _, rfl⟩

/- The builder does not panic, and fills in every field. -/
theorem buildDiscoveryResponse_eq
    (srcIp dstIp : Ipv4)
    (dstPort : UInt16)
    (payload : Bytes) :
    buildDiscoveryResponse srcIp dstIp dstPort payload =
      .ok (udpPacket srcIp dstIp dstPort payload) := by
  rcases exists_octets srcIp with ⟨a, b, c, d, rfl⟩
  rcases exists_octets dstIp with ⟨a', b', c', d', rfl⟩
  have hZeros :
      List.replicate (20 + 8 + payload.length) (0 : UInt8) =
        List.replicate 28 0 ++
          List.replicate payload.length 0 :=
    List.replicate_add ..
  unfold buildDiscoveryResponse udpPacket
  dsimp only
  generalize UInt16.ofNat (20 + 8 + payload.length) = total
  generalize UInt16.ofNat (8 + payload.length) = udpLen
  -- The checksum is taken while its field is zero.
  generalize hHeader :
    ipHeader #v[a, b, c, d] #v[a', b', c', d'] total 0 =
      header
  have hSum :
      ipChecksum header = .ok (foldSum (wordSum header)) :=
    ipChecksum_eq (by simp [← hHeader, ipHeader])
      (by simp [← hHeader, ipHeader, u16ToBeBytes])
      (by simp [← hHeader, ipHeader, u16ToBeBytes])
  generalize foldSum (wordSum header) = checksum at hSum ⊢
  have hZero : u16ToBeBytes 0 = [0, 0] := rfl
  rcases exists_bytes total with ⟨t, t', hTotal⟩
  rcases exists_bytes udpLen with ⟨l, l', hUdp⟩
  rcases exists_bytes dstPort with ⟨q, q', hPort⟩
  rcases exists_bytes checksum with ⟨k, k', hCheck⟩
  rcases exists_bytes discoveryPort with ⟨e, e', hFrom⟩
  simp only [ipHeader, hTotal, hZero] at hHeader
  simp only [ipHeader, hTotal, hCheck, hUdp, hPort, hFrom]
  simp [hZeros, setIndex, copyFromSlice, slice, overwrite,
    List.replicate_succ] at hHeader ⊢
  rw [hHeader, hSum, Checked.ok_bind, hCheck]
  -- The other writes are in bounds, whatever the payload is.
  simp (disch := omega) only [if_pos]
  simp (disch := simp) only [Checked.ok_bind, if_pos]
  simp
  omega

end Wireguard

end SeestarProxy
