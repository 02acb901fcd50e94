import SeestarProxy.Library.DnsMessage
import SeestarProxy.Wireguard.Dns
import SeestarProxy.Wireguard.Packets

/-
  What the answered queries ask and what they are told.

  The bytes of a query whose name parses start, behind the
  header, with an encoded question. The response is the
  message with this question and one address record, and it
  is sent from the address that was asked, but always from
  the discovery port.

  Main declarations:
    * `FirstQuestion` and `parseQueryName_eq`
    * `addressMessage` and `buildDnsResponse_eq`
    * `IsIntercepted` and `handleDnsQuery_eq_some_iff`
    * `returns_handleDnsQuery`
-/

------------------------------------------------------------
-- Names
------------------------------------------------------------

namespace SeestarProxy

namespace Wireguard

open Library Library.Slice Library.Dns Protocol

variable {toLowercase : String → String}
variable {data query rest : Bytes} {pos : Nat}
variable {name : String} {labels : List Label}

/- The text of the labels, behind what a name holds. -/
def joinLabels : String → List Label → String
| name, [] => name
| name, label :: labels =>
    joinLabels
      (pushLabel name (Text.fromUtf8Lossy label.bytes))
      labels

/- The length of the label at a position. -/
def labelLenAt (data : Bytes) (pos : Nat) : Nat :=
  (data.getD pos 0).toNat

/- One round of the loop over the labels. -/
theorem readLabels_eq
    (hBound : pos < data.length) :
    readLabels data pos name =
      if labelLenAt data pos = 0 then
        .ok (some (name, pos + 1))
      else if data.length < pos + 1 + labelLenAt data pos then
        .ok none
      else
        readLabels data (pos + 1 + labelLenAt data pos)
          (pushLabel name (Text.fromUtf8Lossy
            ((data.drop (pos + 1)).take
              (labelLenAt data pos)))) := by
  rw [readLabels, if_neg (Nat.not_le_of_lt hBound),
    index_eq 0 hBound, Checked.ok_bind]
  change (if labelLenAt data pos = 0 then _ else
    if data.length < pos + 1 + labelLenAt data pos then _
    else slice data (pos + 1)
      (pos + 1 + labelLenAt data pos) >>= _) = _
  by_cases hShort :
      data.length < pos + 1 + labelLenAt data pos
  · rw [if_pos hShort, if_pos hShort]
    rfl
  · rw [if_neg hShort, if_neg hShort,
      slice_eq (by omega) (by omega), List.drop_take,
      Nat.add_sub_cancel_left]
    rfl

theorem lt_length_of_drop
    {b : UInt8}
    (hData : data.drop pos = b :: rest) :
    pos < data.length := by
  have hLength := congrArg List.length hData
  rw [List.length_drop, List.length_cons] at hLength
  omega

theorem labelLenAt_of_drop
    {b : UInt8}
    (hData : data.drop pos = b :: rest) :
    labelLenAt data pos = b.toNat := by
  have hCons := drop_eq_cons 0 (lt_length_of_drop hData)
  rw [hData] at hCons
  rw [labelLenAt, ← (List.cons.inj hCons).1]

/- The empty label ends a name. -/
theorem readLabels_nil
    (hData : data.drop pos = 0 :: rest) :
    readLabels data pos name = .ok (some (name, pos + 1)) := by
  rw [readLabels_eq (lt_length_of_drop hData),
    labelLenAt_of_drop hData]
  rfl

/- Another label is added, and reading goes on behind it. -/
theorem readLabels_cons
    {label : Label}
    (hData : data.drop pos = label.encode ++ rest) :
    readLabels data pos name =
      readLabels data (pos + label.encode.length)
        (pushLabel name
          (Text.fromUtf8Lossy label.bytes)) := by
  have hBound := lt_length_of_drop hData
  have hLen : labelLenAt data pos = label.bytes.length := by
    rw [labelLenAt_of_drop hData, label.toNat_length]
  have hPos := label.length_pos
  have hTail : data.drop (pos + 1) = label.bytes ++ rest := by
    rw [← List.drop_drop, hData]
    rfl
  have hLength := congrArg List.length hTail
  rw [List.length_drop, List.length_append] at hLength
  rw [readLabels_eq hBound, hLen, if_neg (by omega),
    if_neg (by omega), hTail, List.take_left]
  congr 1
  rw [Label.encode, List.length_cons]
  omega

/- A name that starts at a position is read. -/
theorem readLabels_encodeName
    (hData : data.drop pos = encodeName labels ++ rest) :
    readLabels data pos name =
      .ok (some (joinLabels name labels,
        pos + (encodeName labels).length)) := by
  induction labels generalizing pos name with
  | nil => exact readLabels_nil hData
  | cons label labels ih =>
      rw [encodeName, List.append_assoc] at hData
      have hTail :
          data.drop (pos + label.encode.length) =
            encodeName labels ++ rest := by
        rw [← List.drop_drop, hData, List.drop_left]
      rw [readLabels_cons hData, ih hTail, joinLabels,
        encodeName, List.length_append, Nat.add_assoc]

/- A length byte with enough bytes behind it is a label. -/
theorem exists_label
    (hLen : labelLenAt data pos ≠ 0)
    (hBound : pos + 1 + labelLenAt data pos ≤ data.length) :
    ∃ label : Label,
      data.drop pos = label.encode ++
        data.drop (pos + label.encode.length) := by
  have hByte : labelLenAt data pos < 256 :=
    (data.getD pos 0).toNat_lt
  have hLength :
      ((data.drop (pos + 1)).take
        (labelLenAt data pos)).length =
        labelLenAt data pos := by
    rw [List.length_take, List.length_drop]
    omega
  have hData :
      data.drop pos = data.getD pos 0 ::
        ((data.drop (pos + 1)).take (labelLenAt data pos) ++
          data.drop (pos + 1 + labelLenAt data pos)) := by
    rw [← List.drop_drop (i := labelLenAt data pos),
      List.take_append_drop]
    exact drop_eq_cons 0 (by omega)
  generalize
    (data.drop (pos + 1)).take (labelLenAt data pos) =
      bytes at hLength hData
  have hNonempty : bytes ≠ [] := by
    intro hNil
    rw [hNil] at hLength
    exact hLen hLength.symm
  refine ⟨⟨bytes, hNonempty, by omega⟩, ?_⟩
  have hHead :
      UInt8.ofNat bytes.length = data.getD pos 0 := by
    rw [hLength]
    exact UInt8.ofNat_toNat
  have hRest : pos + (bytes.length + 1) =
      pos + 1 + labelLenAt data pos := by
    omega
  rw [hData, Label.encode, List.length_cons, hHead, hRest]
  rfl

/- Reading does not panic, and only names are read. -/
theorem readLabels_cases
    (data : Bytes)
    (pos : Nat)
    (name : String) :
    readLabels data pos name = .ok none ∨
      ∃ labels rest,
        data.drop pos = encodeName labels ++ rest := by
  induction hLeft : data.length - pos using
    Nat.strong_induction_on generalizing pos name with
  | _ left ih =>
      by_cases hBound : pos < data.length
      · by_cases hZero : labelLenAt data pos = 0
        · have hHead : data.getD pos 0 = 0 :=
            UInt8.toNat_inj.mp hZero
          refine .inr ⟨[], data.drop (pos + 1), ?_⟩
          rw [drop_eq_cons 0 hBound, hHead]
          rfl
        by_cases hShort :
            data.length < pos + 1 + labelLenAt data pos
        · left
          rw [readLabels_eq hBound, if_neg hZero,
            if_pos hShort]
        rcases exists_label hZero (Nat.le_of_not_lt hShort)
          with ⟨label, hData⟩
        have hPos : 0 < label.encode.length :=
          Nat.succ_pos _
        rw [readLabels_cons hData]
        rcases ih _ (by omega) (pos + label.encode.length)
          (pushLabel name (Text.fromUtf8Lossy label.bytes))
          rfl with hNone | ⟨labels, rest, hTail⟩
        · exact .inl hNone
        · refine .inr ⟨label :: labels, rest, ?_⟩
          rw [encodeName, List.append_assoc, ← hTail]
          exact hData
      · left
        rw [readLabels, if_pos (Nat.le_of_not_lt hBound)]

------------------------------------------------------------
-- Questions
------------------------------------------------------------

/- A query is a header and a first question, at least. -/
def FirstQuestion
    (query : Bytes)
    (question : Question) : Prop :=
  ∃ header rest, header.length = dnsHeaderLen ∧
    query = header ++ (question.encode ++ rest)

variable {question question' : Question}

theorem FirstQuestion.drop
    (hFirst : FirstQuestion query question) :
    ∃ rest, query.drop dnsHeaderLen =
      question.encode ++ rest := by
  rcases hFirst with ⟨header, rest, hHeader, rfl⟩
  exact ⟨rest, List.drop_left' hHeader⟩

/- A query has one first question. -/
theorem FirstQuestion.unique
    (hFirst : FirstQuestion query question)
    (hFirst' : FirstQuestion query question') :
    question = question' := by
  rcases hFirst.drop with ⟨rest, hDrop⟩
  rcases hFirst'.drop with ⟨rest', hDrop'⟩
  rw [hDrop] at hDrop'
  exact (Question.encode_append_inj hDrop').1

theorem length_encode (question : Question) :
    question.encode.length =
      (encodeName question.labels).length + 4 := by
  simp only [Question.encode, List.length_append]
  rfl

/- The name of a question, and the position behind it. -/
theorem parseQueryName_eq
    (hFirst : FirstQuestion query question) :
    parseQueryName toLowercase query =
      .ok (some
        (toLowercase (joinLabels "" question.labels),
          dnsHeaderLen + question.encode.length)) := by
  rcases hFirst with ⟨header, rest, hHeader, rfl⟩
  have hData :
      (header ++ (question.encode ++ rest)).drop
          dnsHeaderLen =
        encodeName question.labels ++
          (word question.qtype ++
            (word question.qclass ++ rest)) := by
    rw [List.drop_left' hHeader]
    simp only [Question.encode, List.append_assoc]
  have hEncode := length_encode question
  unfold parseQueryName
  rw [if_neg, readLabels_encodeName hData, Checked.ok_bind]
  · change (if _ < dnsHeaderLen +
      (encodeName question.labels).length + 4 then _
      else _) = _
    rw [if_neg, hEncode]
    · rfl
    · simp only [List.length_append]
      omega
  · simp only [List.length_append]
    omega

/- Two bytes are a number. -/
theorem exists_word (a b : UInt8) :
    ∃ w, [a, b] = word w := by
  refine ⟨u16FromBeBytes a b, ?_⟩
  have hHigh := a.toNat_lt
  have hLow := b.toNat_lt
  rw [word, toNat_u16FromBeBytes]
  congr 1
  · apply UInt8.toNat_inj.mp
    rw [UInt8.toNat_ofNat']
    omega
  · congr 1
    apply UInt8.toNat_inj.mp
    rw [UInt8.toNat_ofNat']
    omega

theorem exists_words
    (hLength : 4 ≤ rest.length) :
    ∃ w w' rest', rest = word w ++ (word w' ++ rest') := by
  match rest, hLength with
  | a :: b :: c :: d :: rest', _ =>
      rcases exists_word a b with ⟨w, hWord⟩
      rcases exists_word c d with ⟨w', hWord'⟩
      refine ⟨w, w', rest', ?_⟩
      rw [← hWord, ← hWord']
      rfl

/- A name is parsed of first questions only. -/
theorem parseQueryName_cases
    (toLowercase : String → String)
    (query : Bytes) :
    parseQueryName toLowercase query = .ok none ∨
      ∃ question, FirstQuestion query question := by
  unfold parseQueryName
  by_cases hShort : query.length < dnsHeaderLen + 1
  · exact .inl (if_pos hShort)
  rw [if_neg hShort]
  rcases readLabels_cases query dnsHeaderLen "" with
    hNone | ⟨labels, rest, hData⟩
  · left
    rw [hNone]
    rfl
  rw [readLabels_encodeName hData, Checked.ok_bind]
  change (if query.length < dnsHeaderLen +
    (encodeName labels).length + 4 then _ else _) = _ ∨ _
  by_cases hEnd : query.length <
      dnsHeaderLen + (encodeName labels).length + 4
  · exact .inl (if_pos hEnd)
  · right
    have hLength := congrArg List.length hData
    rw [List.length_drop, List.length_append] at hLength
    have hFour : 4 ≤ rest.length := by omega
    rcases exists_words hFour with
      ⟨qtype, qclass, rest', hRest⟩
    refine ⟨⟨labels, qtype, qclass⟩,
      query.take dnsHeaderLen, rest', ?_, ?_⟩
    · rw [List.length_take]
      omega
    · simp only [Question.encode, List.append_assoc]
      rw [← hRest, ← hData, List.take_append_drop]

------------------------------------------------------------
-- Responses
------------------------------------------------------------

/- The record with an address for the name at offset 12. -/
def addressRecord (ip : Ipv4) : Record where
  owner := .pointer 12
  rtype := 1
  rclass := 1
  ttl := 60
  rdata := ip.toList
  short := by simp

/- The message that answers a question with an address. -/
def addressMessage
    (query : Bytes)
    (question : Question)
    (ip : Ipv4) : Message where
  id := wordAt query 0
  flags := 0x8180
  questions := ⟨[question], by simp⟩
  answers := ⟨[addressRecord ip], by simp⟩
  authorities := ⟨[], by simp⟩
  additionals := ⟨[], by simp⟩

theorem take_two
    (hLength : 2 ≤ query.length) :
    query.take 2 = word (wordAt query 0) := by
  match query, hLength with
  | a :: b :: rest, _ =>
      rcases exists_word a b with ⟨w, hWord⟩
      change [a, b] = word (u16FromBeBytes a b)
      have hBytes := hWord
      rw [word] at hBytes
      rcases List.cons.inj hBytes with ⟨hHigh, hTail⟩
      have hLow := (List.cons.inj hTail).1
      rw [hHigh, hLow, u16FromBeBytes_toBeBytes]
      rfl

/- The section that is copied is the first question. -/
theorem slice_question
    (hFirst : FirstQuestion query question) :
    slice query dnsHeaderLen
        (dnsHeaderLen + question.encode.length) =
      .ok question.encode := by
  rcases hFirst with ⟨header, rest, hHeader, rfl⟩
  rw [slice_eq (by omega), List.drop_take,
    List.drop_left' hHeader, Nat.add_sub_cancel_left,
    List.take_left]
  simp only [List.length_append]
  omega

theorem FirstQuestion.length_le
    (hFirst : FirstQuestion query question) :
    dnsHeaderLen ≤ query.length := by
  rcases hFirst with ⟨header, rest, hHeader, rfl⟩
  rw [List.length_append]
  omega

theorem encode_addressRecord (ip : Ipv4) :
    (addressRecord ip).encode =
      (Owner.pointer 12).encode ++ (word 1 ++ (word 1 ++
        ([0, 0, 0, 0x3C, 0, 4] ++ ip.toList))) := by
  have hLength : ip.toList.length = 4 := Vector.length_toList
  have hFields :
      word (UInt16.ofNat ((60 : UInt32).toNat / 65536)) ++
        (word (UInt16.ofNat (60 : UInt32).toNat) ++
          word (UInt16.ofNat 4)) =
        [0, 0, 0, 0x3C, 0, 4] := by
    decide
  simp only [Record.encode, addressRecord, hLength,
    List.append_assoc, ← hFields]

theorem encode_addressMessage
    (query : Bytes)
    (question : Question)
    (ip : Ipv4) :
    (addressMessage query question ip).encode =
      word (wordAt query 0) ++ word 0x8180 ++ word 1 ++
        word 1 ++ word 0 ++ word 0 ++
        (question.encode ++ (addressRecord ip).encode) := by
  change word (wordAt query 0) ++ word 0x8180 ++ word 1 ++
    word 1 ++ word 0 ++ word 0 ++
    [question].flatMap Question.encode ++
    [addressRecord ip].flatMap Record.encode ++ [] ++ [] = _
  simp only [List.flatMap_cons, List.flatMap_nil,
    List.append_nil, List.append_assoc]

/- The response to a query is a message. -/
theorem buildDnsResponse_eq
    (ip : Ipv4)
    (hFirst : FirstQuestion query question) :
    buildDnsResponse toLowercase query ip =
      .ok (some (addressMessage query question ip).encode) := by
  have hLength := hFirst.length_le
  have hTwo : 2 ≤ query.length :=
    Nat.le_trans (by decide) hLength
  have hHeader :
      word 0x8180 ++ (word 1 ++ (word 1 ++
        (word 0 ++ word 0))) =
        [0x81, 0x80, 0, 1, 0, 1, 0, 0, 0, 0] := by
    decide
  have hPointer :
      (Owner.pointer 12).encode = [0xC0, 0x0C] := by
    decide
  have hRecord :
      word 1 ++ (word 1 ++ [0, 0, 0, 0x3C, 0, 4]) =
        [0, 1, 0, 1, 0, 0, 0, 0x3C, 0, 4] := by
    decide
  unfold buildDnsResponse
  rw [parseQueryName_eq hFirst, Checked.ok_bind]
  change (if query.length < dnsHeaderLen then _ else _) = _
  rw [if_neg (Nat.not_lt_of_le hLength),
    slice_eq (by omega) hTwo, Checked.ok_bind,
    slice_question hFirst, Checked.ok_bind, List.drop_zero,
    take_two hTwo, encode_addressMessage,
    encode_addressRecord, ← hHeader, ← hPointer, ← hRecord]
  simp only [List.append_assoc]
  rfl

------------------------------------------------------------
-- Intercepted Queries
------------------------------------------------------------

variable {p reply : Bytes} {upstreamIp : Ipv4}

/- A packet with a query for a name of the telescope. -/
structure IsIntercepted
    (toLowercase : String → String)
    (p : Bytes)
    (question : Question) : Prop where
  isUdp : IsUdpTo 53 p
  isWhole : IsWhole p
  hasHeader : 8 ≤ udpLength p
  isFirst : FirstQuestion (udpPayload p) question
  isSeestar :
    isSeestarName toLowercase
      (toLowercase (joinLabels "" question.labels)) = true

/- The packet that such a query is answered with. -/
def dnsReply
    (p : Bytes)
    (question : Question)
    (upstreamIp : Ipv4) : Bytes :=
  udpPacket (destination p) (source p) (srcPort p)
    (addressMessage (udpPayload p) question
      upstreamIp).encode

/- A parsed query is answered if its name is right. -/
theorem handleDnsQuery_of_first
    (upstreamIp : Ipv4)
    (hUdp : IsUdpTo 53 p)
    (hWhole : IsWhole p)
    (hHeader : 8 ≤ udpLength p)
    (hFirst : FirstQuestion (udpPayload p) question) :
    handleDnsQuery toLowercase p upstreamIp =
      .ok (if isSeestarName toLowercase (toLowercase
          (joinLabels "" question.labels)) = true then
        some (dnsReply p question upstreamIp)
      else
        none) := by
  have hLength := hUdp.1
  have hPass :
      ¬ (p.length - ihl p < udpLength p ∨
        udpLength p < 8) :=
    not_or.mpr ⟨Nat.not_lt_of_le hWhole,
      Nat.not_lt_of_le hHeader⟩
  unfold handleDnsQuery
  rw [readUdp_eq, Checked.ok_bind, if_pos hUdp]
  change (if (p.drop (ihl p)).length < udpLength p ∨
    udpLength p < 8 then _ else
    slice (p.drop (ihl p)) 8 (udpLength p) >>= _) = _
  rw [List.length_drop, if_neg hPass, slice_payload hWhole,
    if_neg (Nat.not_lt_of_le hHeader), Checked.ok_bind,
    parseQueryName_eq hFirst, Checked.ok_bind]
  change (if isSeestarName toLowercase (toLowercase
    (joinLabels "" question.labels)) = false then _ else _)
      = _
  cases isSeestarName toLowercase (toLowercase
    (joinLabels "" question.labels)) with
  | false => rfl
  | true =>
      rw [if_neg (by decide),
        buildDnsResponse_eq upstreamIp hFirst,
        Checked.ok_bind]
      change (readIpv4 p 16 >>= _) = _
      rw [readIpv4_eq (by omega), Checked.ok_bind,
        buildDiscoveryResponse_eq, Checked.ok_bind]
      rfl

/- A packet without a query that parses is passed on. -/
theorem handleDnsQuery_of_none
    (upstreamIp : Ipv4)
    (hNone : ∀ question,
      ¬ (IsUdpTo 53 p ∧ IsWhole p ∧ 8 ≤ udpLength p ∧
        FirstQuestion (udpPayload p) question)) :
    handleDnsQuery toLowercase p upstreamIp = .ok none := by
  unfold handleDnsQuery
  rw [readUdp_eq, Checked.ok_bind]
  by_cases hUdp : IsUdpTo 53 p
  · rw [if_pos hUdp]
    change (if (p.drop (ihl p)).length < udpLength p ∨
      udpLength p < 8 then _ else
      slice (p.drop (ihl p)) 8 (udpLength p) >>= _) = _
    rw [List.length_drop]
    by_cases hBad : p.length - ihl p < udpLength p ∨
        udpLength p < 8
    · exact if_pos hBad
    rw [if_neg hBad]
    rw [not_or] at hBad
    have hWhole : IsWhole p := Nat.le_of_not_lt hBad.1
    rw [slice_payload hWhole, if_neg hBad.2,
      Checked.ok_bind]
    rcases parseQueryName_cases toLowercase (udpPayload p)
      with hParse | ⟨question, hFirst⟩
    · rw [hParse]
      rfl
    · exact absurd ⟨hUdp, hWhole,
        Nat.le_of_not_lt hBad.2, hFirst⟩ (hNone question)
  · rw [if_neg hUdp]
    rfl

/- Exactly the intercepted queries are answered. -/
theorem handleDnsQuery_eq_some_iff :
    handleDnsQuery toLowercase p upstreamIp =
        .ok (some reply) ↔
      ∃ question,
        IsIntercepted toLowercase p question ∧
          reply = dnsReply p question upstreamIp := by
  constructor
  · intro hReply
    by_cases hSome : ∃ question,
        IsUdpTo 53 p ∧ IsWhole p ∧ 8 ≤ udpLength p ∧
          FirstQuestion (udpPayload p) question
    · rcases hSome with
        ⟨question, hUdp, hWhole, hHeader, hFirst⟩
      rw [handleDnsQuery_of_first upstreamIp hUdp hWhole
        hHeader hFirst] at hReply
      split at hReply
      · next hName =>
          exact ⟨question,
            ⟨hUdp, hWhole, hHeader, hFirst, hName⟩,
            (Option.some.inj (Except.ok.inj hReply)).symm⟩
      · cases hReply
    · rw [handleDnsQuery_of_none upstreamIp
        (not_exists.mp hSome)] at hReply
      cases hReply
  · rintro ⟨question, hIs, rfl⟩
    rw [handleDnsQuery_of_first upstreamIp hIs.isUdp
      hIs.isWhole hIs.hasHeader hIs.isFirst,
      if_pos hIs.isSeestar]

/- No packet makes the handler of queries panic. -/
theorem returns_handleDnsQuery
    (toLowercase : String → String)
    (p : Bytes)
    (upstreamIp : Ipv4) :
    (handleDnsQuery toLowercase p upstreamIp).Returns := by
  by_cases hSome : ∃ question,
      IsUdpTo 53 p ∧ IsWhole p ∧ 8 ≤ udpLength p ∧
        FirstQuestion (udpPayload p) question
  · rcases hSome with
      ⟨question, hUdp, hWhole, hHeader, hFirst⟩
    rw [handleDnsQuery_of_first upstreamIp hUdp hWhole
      hHeader hFirst]
    trivial
  · rw [handleDnsQuery_of_none upstreamIp
      (not_exists.mp hSome)]
    trivial

end Wireguard

end SeestarProxy
