import SeestarProxy.Wireguard.Packets

/-
  Echo replies.

  A reply is its request with some bytes overwritten: the
  addresses, the type of the message and the two checksums.
  Its state before each checksum is taken has a name here, so
  that the sums are those of bytes whose field is zero. With
  a header of at least 20 bytes the two parts of the packet
  are edited apart from each other.

  Main declarations:
    * `IsEchoRequest`, `echoReply`, `handleIcmpEcho_of_request`
    * `IsFaithfulReply`
    * `echo_replies_are_faithful`
-/

------------------------------------------------------------
-- The Edits
------------------------------------------------------------

namespace SeestarProxy

namespace Wireguard

open Library Library.Slice Library.OnesComplement Protocol

variable {p reply : Bytes} {upstreamIp : Ipv4} {i : Nat}

/- The type of the ICMP message in a packet. -/
def icmpType (p : Bytes) : UInt8 := p.getD (ihl p) 0

/- An echo request to the upstream address. -/
def IsEchoRequest (upstreamIp : Ipv4) (p : Bytes) : Prop :=
  28 ≤ p.length ∧ protocol p = 1 ∧
    destination p = upstreamIp ∧
    ihl p + 8 ≤ p.length ∧ icmpType p = 8

instance (upstreamIp : Ipv4) (p : Bytes) :
    Decidable (IsEchoRequest upstreamIp p) :=
  inferInstanceAs (Decidable (_ ∧ _))

/- The addresses are swapped. -/
def swapAddresses (p : Bytes) : Bytes :=
  overwrite (overwrite p 12 (destination p).toList) 16
    (source p).toList

/- The checksum of the header is zero. -/
def clearHeaderSum (p : Bytes) : Bytes :=
  overwrite (overwrite (swapAddresses p) 10 [0]) 11 [0]

/- The header has its new checksum. -/
def signHeader (p : Bytes) : Bytes :=
  overwrite (clearHeaderSum p) 10
    (u16ToBeBytes (foldSum
      (wordSum ((clearHeaderSum p).take (ihl p)))))

/- The message is a reply whose checksum is zero. -/
def unsignedReply (p : Bytes) : Bytes :=
  overwrite
    (overwrite (overwrite (signHeader p) (ihl p) [0])
      (ihl p + 2) [0])
    (ihl p + 3) [0]

/- The message that the last checksum is taken of. -/
def echoMessage (p : Bytes) : Bytes :=
  (unsignedReply p).drop (ihl p)

/- The message has its new checksum, too. -/
def echoReply (p : Bytes) : Bytes :=
  overwrite (unsignedReply p) (ihl p + 2)
    (u16ToBeBytes (foldSum (wordSum (echoMessage p))))

@[simp] theorem length_octets (ip : Ipv4) :
    ip.toList.length = 4 :=
  Vector.length_toList

section

variable (hLong : 28 ≤ p.length)

include hLong

theorem length_turnSource :
    (overwrite p 12 (destination p).toList).length =
      p.length := by
  apply length_overwrite_of_eq rfl
  rw [length_octets]
  omega

theorem length_swapAddresses :
    (swapAddresses p).length = p.length := by
  apply length_overwrite_of_eq (length_turnSource hLong)
  rw [length_octets]
  omega

theorem length_clearHigh :
    (overwrite (swapAddresses p) 10 [0]).length =
      p.length := by
  apply length_overwrite_of_eq (length_swapAddresses hLong)
  rw [List.length_singleton]
  omega

theorem length_clearHeaderSum :
    (clearHeaderSum p).length = p.length := by
  apply length_overwrite_of_eq (length_clearHigh hLong)
  rw [List.length_singleton]
  omega

theorem length_signHeader :
    (signHeader p).length = p.length := by
  apply length_overwrite_of_eq (length_clearHeaderSum hLong)
  rw [length_u16ToBeBytes]
  omega

variable (hMessage : ihl p + 8 ≤ p.length)

include hMessage

theorem length_clearType :
    (overwrite (signHeader p) (ihl p) [0]).length =
      p.length := by
  apply length_overwrite_of_eq (length_signHeader hLong)
  rw [List.length_singleton]
  omega

theorem length_clearTypeHigh :
    (overwrite (overwrite (signHeader p) (ihl p) [0])
      (ihl p + 2) [0]).length = p.length := by
  apply length_overwrite_of_eq
    (length_clearType hLong hMessage)
  rw [List.length_singleton]
  omega

theorem length_unsignedReply :
    (unsignedReply p).length = p.length := by
  apply length_overwrite_of_eq
    (length_clearTypeHigh hLong hMessage)
  rw [List.length_singleton]
  omega

theorem length_echoReply :
    (echoReply p).length = p.length := by
  apply length_overwrite_of_eq
    (length_unsignedReply hLong hMessage)
  rw [length_u16ToBeBytes]
  omega

end

------------------------------------------------------------
-- Sums
------------------------------------------------------------

/- The field of the first sum is zero. -/
theorem getD_clearHeaderSum
    (hLong : 28 ≤ p.length)
    (hField : i = 10 ∨ i = 11) :
    (clearHeaderSum p).getD i 0 = 0 := by
  have hSwap := length_swapAddresses hLong
  have hHigh := length_clearHigh hLong
  unfold clearHeaderSum
  rw [getD_overwrite 0 (by simp; omega),
    getD_overwrite 0 (by simp; omega)]
  rcases hField with rfl | rfl <;> rfl

theorem getD_take
    {n : Nat}
    (hField : p.getD i 0 = 0) :
    (p.take n).getD i 0 = 0 := by
  simp only [List.getD_eq_getElem?_getD, List.getElem?_take]
    at hField ⊢
  split
  · exact hField
  · rfl

/- The sum of the header is taken without a panic. -/
theorem ipChecksum_clearHeaderSum
    (hLong : 28 ≤ p.length) :
    ipChecksum ((clearHeaderSum p).take (ihl p)) =
      .ok (foldSum
        (wordSum ((clearHeaderSum p).take (ihl p)))) := by
  have hIhl := ihl_le p
  apply ipChecksum_eq
  · rw [List.length_take]
    omega
  · exact getD_take (getD_clearHeaderSum hLong (.inl rfl))
  · exact getD_take (getD_clearHeaderSum hLong (.inr rfl))

/- A request is edited, unless its sum overflows. -/
theorem handleIcmpEcho_of_request
    (hIs : IsEchoRequest upstreamIp p) :
    handleIcmpEcho p upstreamIp =
      if wordSum (echoMessage p) < 2 ^ 32 then
        .ok (some (echoReply p))
      else
        .error .overflow := by
  rcases hIs with ⟨hLong, hProto, hTo, hMessage, hType⟩
  have hDrop : (p.drop (ihl p)).length = p.length - ihl p :=
    List.length_drop
  have hSwap := length_swapAddresses hLong
  have hClear := length_clearHeaderSum hLong
  have hSign := length_signHeader hLong
  have hUnsigned := length_unsignedReply hLong hMessage
  unfold handleIcmpEcho
  -- The checks pass.
  rw [if_neg (Nat.not_lt_of_le hLong),
    index_eq 0 (by omega), Checked.ok_bind]
  change (if protocol p ≠ 1 then _ else _) = _
  rw [if_neg (not_not.mpr hProto), readIpv4_eq (by omega),
    Checked.ok_bind]
  change (if destination p ≠ upstreamIp then _ else _) = _
  rw [if_neg (not_not.mpr hTo), index_eq 0 (by omega),
    Checked.ok_bind]
  change (if p.length < ihl p + 8 then _ else
    sliceFrom p (ihl p) >>= _) = _
  rw [if_neg (Nat.not_lt_of_le hMessage),
    sliceFrom_eq (by omega), Checked.ok_bind,
    index_eq 0 (by omega), Checked.ok_bind, getD_drop]
  change (if icmpType p ≠ 8 then _ else _) = _
  rw [if_neg (not_not.mpr hType), readIpv4_eq (by omega),
    Checked.ok_bind]
  -- The header is edited.
  change (copyFromSlice p 12 16 (destination p).toList >>= _)
    = _
  have hFirst := length_turnSource hLong
  rw [copyFromSlice_eq (by rw [length_octets]) (by omega),
    Checked.ok_bind]
  change (copyFromSlice _ 16 20 (source p).toList >>= _) = _
  rw [copyFromSlice_eq (by rw [length_octets]) (by omega),
    Checked.ok_bind]
  change (setIndex (swapAddresses p) 10 0 >>= _) = _
  have hHigh := length_clearHigh hLong
  rw [setIndex_eq _ (by omega), Checked.ok_bind,
    setIndex_eq _ (by omega), Checked.ok_bind]
  change (slice (clearHeaderSum p) 0 (ihl p) >>= _) = _
  rw [slice_eq (Nat.zero_le _) (by omega), Checked.ok_bind,
    List.drop_zero, ipChecksum_clearHeaderSum hLong,
    Checked.ok_bind]
  change (copyFromSlice (clearHeaderSum p) 10 12 _ >>= _) =
    _
  rw [copyFromSlice_eq (by rw [length_u16ToBeBytes])
      (by omega), Checked.ok_bind]
  -- The message is edited.
  change (setIndex (signHeader p) (ihl p) 0 >>= _) = _
  have hReply := length_clearType hLong hMessage
  have hZero := length_clearTypeHigh hLong hMessage
  rw [setIndex_eq _ (by omega), Checked.ok_bind]
  change (setIndex _ (ihl p + 2) 0 >>= _) = _
  rw [setIndex_eq _ (by omega), Checked.ok_bind]
  change (setIndex _ (ihl p + 3) 0 >>= _) = _
  rw [setIndex_eq _ (by omega), Checked.ok_bind]
  change (sliceFrom (unsignedReply p) (ihl p) >>= _) = _
  rw [sliceFrom_eq (by omega), Checked.ok_bind]
  change (internetChecksum (echoMessage p) >>= _) = _
  rw [internetChecksum_eq]
  split
  · rw [Checked.ok_bind]
    change (copyFromSlice (unsignedReply p) (ihl p + 2)
      (ihl p + 4) _ >>= _) = _
    rw [copyFromSlice_eq (by rw [length_u16ToBeBytes])
      (by omega)]
    rfl
  · rfl

/- All other packets are passed on. -/
theorem handleIcmpEcho_of_not
    (hNot : ¬ IsEchoRequest upstreamIp p) :
    handleIcmpEcho p upstreamIp = .ok none := by
  unfold handleIcmpEcho
  by_cases hShort : p.length < 28
  · exact if_pos hShort
  rw [if_neg hShort, index_eq 0 (by omega), Checked.ok_bind]
  change (if protocol p ≠ 1 then _ else _) = _
  by_cases hProto : protocol p = 1
  · rw [if_neg (not_not.mpr hProto), readIpv4_eq (by omega),
      Checked.ok_bind]
    change (if destination p ≠ upstreamIp then _ else _) = _
    by_cases hTo : destination p = upstreamIp
    · rw [if_neg (not_not.mpr hTo), index_eq 0 (by omega),
        Checked.ok_bind]
      change (if p.length < ihl p + 8 then _ else
        sliceFrom p (ihl p) >>= _) = _
      by_cases hHeader : p.length < ihl p + 8
      · exact if_pos hHeader
      have hDrop :
          (p.drop (ihl p)).length = p.length - ihl p :=
        List.length_drop
      rw [if_neg hHeader, sliceFrom_eq (by omega),
        Checked.ok_bind, index_eq 0 (by omega),
        Checked.ok_bind, getD_drop]
      change (if icmpType p ≠ 8 then _ else _) = _
      apply if_pos
      intro hType
      exact hNot ⟨Nat.le_of_not_lt hShort, hProto, hTo,
        Nat.le_of_not_lt hHeader, hType⟩
    · exact if_pos hTo
  · exact if_pos hProto

------------------------------------------------------------
-- The Reply
------------------------------------------------------------

/- The positions of the addresses, the type and the sums. -/
def IsEdited (p : Bytes) (i : Nat) : Prop :=
  (10 ≤ i ∧ i < 20) ∨ i = ihl p ∨
    (ihl p + 2 ≤ i ∧ i < ihl p + 4)

/-
  The reply turns the request round, both of its sums are
  right, and all else is as in the request.
-/
structure IsFaithfulReply (p reply : Bytes) : Prop where
  length_eq : reply.length = p.length
  source_eq : source reply = destination p
  destination_eq : destination reply = source p
  type_eq : reply.getD (ihl p) 0 = 0
  header_verifies : Verifies (reply.take (ihl p))
  message_verifies : Verifies (reply.drop (ihl p))
  kept : ∀ i, ¬ IsEdited p i → reply.getD i 0 = p.getD i 0

theorem octets_eq (ip : Ipv4) :
    (#v[ip.toList.getD 0 0, ip.toList.getD 1 0,
      ip.toList.getD 2 0, ip.toList.getD 3 0] : Ipv4) =
      ip := by
  rcases exists_octets ip with ⟨a, b, c, d, rfl⟩
  rfl

section

variable (hLong : 28 ≤ p.length)

include hLong

/- The addresses, after they were swapped. -/
theorem getD_swapAddresses_source
    (hField : i < 4) :
    (swapAddresses p).getD (12 + i) 0 =
      (destination p).toList.getD i 0 := by
  have hFirst := length_turnSource hLong
  unfold swapAddresses
  rw [getD_overwrite_outside 0 (by rw [length_octets]; omega)
      (.inl (by omega)),
    getD_overwrite_inside 0 (by rw [length_octets]; omega)
      (by rw [length_octets]; exact hField)]

theorem getD_swapAddresses_destination
    (hField : i < 4) :
    (swapAddresses p).getD (16 + i) 0 =
      (source p).toList.getD i 0 := by
  have hFirst := length_turnSource hLong
  unfold swapAddresses
  rw [getD_overwrite_inside 0 (by rw [length_octets]; omega)
    (by rw [length_octets]; exact hField)]

theorem getD_swapAddresses_outside
    (hOutside : i < 12 ∨ 20 ≤ i) :
    (swapAddresses p).getD i 0 = p.getD i 0 := by
  have hFirst := length_turnSource hLong
  unfold swapAddresses
  rw [getD_overwrite_outside 0 (by rw [length_octets]; omega)
      (by rw [length_octets]; omega),
    getD_overwrite_outside 0 (by rw [length_octets]; omega)
      (by rw [length_octets]; omega)]

/- The checksum of the header is two bytes. -/
theorem getD_signHeader
    (hOutside : i < 10 ∨ 12 ≤ i) :
    (signHeader p).getD i 0 = (swapAddresses p).getD i 0 := by
  have hSwap := length_swapAddresses hLong
  have hClear := length_clearHeaderSum hLong
  have hHigh := length_clearHigh hLong
  rw [signHeader,
    getD_overwrite_outside 0
      (by rw [length_u16ToBeBytes]; omega)
      (by rw [length_u16ToBeBytes]; omega),
    clearHeaderSum,
    getD_overwrite_outside 0
      (by rw [List.length_singleton]; omega)
      (by rw [List.length_singleton]; omega),
    getD_overwrite_outside 0
      (by rw [List.length_singleton]; omega)
      (by rw [List.length_singleton]; omega)]

variable (hMessage : ihl p + 8 ≤ p.length)

include hMessage

/- The message is edited in its type and its checksum. -/
theorem getD_unsignedReply :
    (unsignedReply p).getD i 0 =
      if i = ihl p ∨ i = ihl p + 2 ∨ i = ihl p + 3 then 0
      else (signHeader p).getD i 0 := by
  have hSign := length_signHeader hLong
  have hReply := length_clearType hLong hMessage
  have hZero := length_clearTypeHigh hLong hMessage
  rw [unsignedReply, getD_overwrite_singleton 0 (by omega),
    getD_overwrite_singleton 0 (by omega),
    getD_overwrite_singleton 0 (by omega)]
  by_cases hEdited : i = ihl p ∨ i = ihl p + 2 ∨ i = ihl p + 3
  · rw [if_pos hEdited]
    rcases hEdited with rfl | rfl | rfl <;> simp
  · rw [if_neg hEdited]
    rw [not_or, not_or] at hEdited
    rw [if_neg hEdited.2.2, if_neg hEdited.2.1,
      if_neg hEdited.1]

theorem getD_echoReply
    (hOutside : i < ihl p + 2 ∨ ihl p + 4 ≤ i) :
    (echoReply p).getD i 0 = (unsignedReply p).getD i 0 := by
  have hUnsigned := length_unsignedReply hLong hMessage
  rw [echoReply,
    getD_overwrite_outside 0
      (by rw [length_u16ToBeBytes]; omega)
      (by rw [length_u16ToBeBytes]; omega)]

/- The message verifies, as its field was zero. -/
theorem verifies_message :
    Verifies ((echoReply p).drop (ihl p)) := by
  have hUnsigned := length_unsignedReply hLong hMessage
  have hLength :
      (echoMessage p).length = p.length - ihl p := by
    rw [echoMessage, List.length_drop, hUnsigned]
  rw [echoReply, drop_overwrite (by omega)]
  apply verifies_foldSum rfl (by
    rw [List.length_drop, hUnsigned]
    omega)
  · rw [getD_drop, getD_unsignedReply hLong hMessage,
      if_pos (by omega)]
  · rw [getD_drop, getD_unsignedReply hLong hMessage,
      if_pos (by omega)]

/- The edits of the message leave the header alone. -/
theorem getD_echoReply_header
    (hBefore : i < ihl p) :
    (echoReply p).getD i 0 = (signHeader p).getD i 0 := by
  rw [getD_echoReply hLong hMessage (.inl (by omega)),
    getD_unsignedReply hLong hMessage, if_neg (by omega)]

theorem take_echoReply :
    (echoReply p).take (ihl p) =
      (signHeader p).take (ihl p) := by
  have hSign := length_signHeader hLong
  have hUnsigned := length_unsignedReply hLong hMessage
  have hReply := length_clearType hLong hMessage
  have hZero := length_clearTypeHigh hLong hMessage
  rw [echoReply, take_overwrite (by omega) (by omega),
    unsignedReply, take_overwrite (by omega) (by omega),
    take_overwrite (by omega) (by omega),
    take_overwrite (by omega) (by omega)]

variable (hHeader : 20 ≤ ihl p)

include hHeader

/- The header verifies, as its field was zero. -/
theorem verifies_header :
    Verifies ((echoReply p).take (ihl p)) := by
  have hClear := length_clearHeaderSum hLong
  rw [take_echoReply hLong hMessage, signHeader,
    take_overwrite_inside
      (by rw [length_u16ToBeBytes]; omega) (by omega)]
  apply verifies_foldSum rfl (by
    rw [List.length_take, hClear]
    omega)
  · exact getD_take (getD_clearHeaderSum hLong (.inl rfl))
  · exact getD_take (getD_clearHeaderSum hLong (.inr rfl))

theorem source_echoReply :
    source (echoReply p) = destination p := by
  have hByte (k : Nat) (hField : k < 4) :
      (echoReply p).getD (12 + k) 0 =
        (destination p).toList.getD k 0 := by
    rw [getD_echoReply_header hLong hMessage (by omega),
      getD_signHeader hLong (.inr (by omega)),
      getD_swapAddresses_source hLong hField]
  have hAddress :
      addressAt (echoReply p) 12 =
        #v[(destination p).toList.getD 0 0,
          (destination p).toList.getD 1 0,
          (destination p).toList.getD 2 0,
          (destination p).toList.getD 3 0] := by
    rw [← hByte 0 (by decide), ← hByte 1 (by decide),
      ← hByte 2 (by decide), ← hByte 3 (by decide)]
    rfl
  rw [source, hAddress, octets_eq]

theorem destination_echoReply :
    destination (echoReply p) = source p := by
  have hByte (k : Nat) (hField : k < 4) :
      (echoReply p).getD (16 + k) 0 =
        (source p).toList.getD k 0 := by
    rw [getD_echoReply_header hLong hMessage (by omega),
      getD_signHeader hLong (.inr (by omega)),
      getD_swapAddresses_destination hLong hField]
  have hAddress :
      addressAt (echoReply p) 16 =
        #v[(source p).toList.getD 0 0,
          (source p).toList.getD 1 0,
          (source p).toList.getD 2 0,
          (source p).toList.getD 3 0] := by
    rw [← hByte 0 (by decide), ← hByte 1 (by decide),
      ← hByte 2 (by decide), ← hByte 3 (by decide)]
    rfl
  rw [destination, hAddress, octets_eq]

/- All other bytes are kept. -/
theorem getD_echoReply_kept
    (hKept : ¬ IsEdited p i) :
    (echoReply p).getD i 0 = p.getD i 0 := by
  unfold IsEdited at hKept
  rw [getD_echoReply hLong hMessage (by omega),
    getD_unsignedReply hLong hMessage, if_neg (by omega),
    getD_signHeader hLong (by omega),
    getD_swapAddresses_outside hLong (by omega)]

theorem isFaithfulReply_echoReply :
    IsFaithfulReply p (echoReply p) where
  length_eq := length_echoReply hLong hMessage
  source_eq := source_echoReply hLong hMessage hHeader
  destination_eq :=
    destination_echoReply hLong hMessage hHeader
  type_eq := by
    rw [getD_echoReply hLong hMessage (.inl (by omega)),
      getD_unsignedReply hLong hMessage, if_pos (.inl rfl)]
  header_verifies := verifies_header hLong hMessage hHeader
  message_verifies := verifies_message hLong hMessage
  kept := fun _ hKept =>
    getD_echoReply_kept hLong hMessage hHeader hKept

end

/- The sum of a message of real packets does not overflow. -/
theorem wordSum_echoMessage_lt
    (hLong : 28 ≤ p.length)
    (hMessage : ihl p + 8 ≤ p.length)
    (hBound : p.length ≤ 131072) :
    wordSum (echoMessage p) < 2 ^ 32 := by
  have hSum := wordSum_le (echoMessage p)
  have hUnsigned := length_unsignedReply hLong hMessage
  have hLength : (echoMessage p).length ≤ p.length := by
    rw [echoMessage, List.length_drop, hUnsigned]
    omega
  omega

/-
  The reply to an echo request is valid and faithful, and
  only echo requests to the upstream address get one.
-/
theorem echo_replies_are_faithful
    (p : Bytes)
    (upstreamIp : Ipv4)
    (hLong : 28 ≤ p.length)
    (hShort : p.length ≤ 65535)
    (hNibble : 5 ≤ (p.getD 0 0).toNat % 16) :
    (∀ reply,
      handleIcmpEcho p upstreamIp = .ok (some reply) →
        IsFaithfulReply p reply) ∧
    ((∃ reply,
      handleIcmpEcho p upstreamIp = .ok (some reply)) ↔
        protocol p = 1 ∧ destination p = upstreamIp ∧
          icmpType p = 8 ∧ ihl p + 8 ≤ p.length) := by
  have hHeader : 20 ≤ ihl p := by
    unfold ihl headerLength
    omega
  by_cases hIs : IsEchoRequest upstreamIp p
  · rcases hIs with ⟨_, hProto, hTo, hMessage, hType⟩
    have hSum :=
      wordSum_echoMessage_lt hLong hMessage (by omega)
    rw [handleIcmpEcho_of_request
      ⟨hLong, hProto, hTo, hMessage, hType⟩, if_pos hSum]
    constructor
    · intro reply hReply
      rw [← Option.some.inj (Except.ok.inj hReply)]
      exact isFaithfulReply_echoReply hLong hMessage hHeader
    · exact ⟨fun _ => ⟨hProto, hTo, hType, hMessage⟩,
        fun _ => ⟨_, rfl⟩⟩
  · rw [handleIcmpEcho_of_not hIs]
    constructor
    · intro reply hReply
      cases hReply
    · constructor
      · rintro ⟨reply, hReply⟩
        cases hReply
      · rintro ⟨hProto, hTo, hType, hMessage⟩
        exact absurd ⟨hLong, hProto, hTo, hMessage, hType⟩
          hIs

/- An echo request from 10.99.0.2 to 10.0.0.1. -/
def echoRequest : Bytes :=
  [0x45, 0, 0, 28, 0, 0, 0x40, 0, 64, 1, 0, 0,
    10, 99, 0, 2, 10, 0, 0, 1] ++
  [8, 0, 0xF7, 0xFD, 0, 1, 0, 1]

theorem echo_replies_are_faithful_example :
    (∀ reply,
      handleIcmpEcho echoRequest #v[10, 0, 0, 1] =
          .ok (some reply) →
        IsFaithfulReply echoRequest reply) ∧
    ((∃ reply,
      handleIcmpEcho echoRequest #v[10, 0, 0, 1] =
          .ok (some reply)) ↔
        protocol echoRequest = 1 ∧
          destination echoRequest = #v[10, 0, 0, 1] ∧
          icmpType echoRequest = 8 ∧
          ihl echoRequest + 8 ≤ echoRequest.length) :=
  echo_replies_are_faithful echoRequest #v[10, 0, 0, 1]
    (by decide) (by decide) (by decide)

end Wireguard

end SeestarProxy
