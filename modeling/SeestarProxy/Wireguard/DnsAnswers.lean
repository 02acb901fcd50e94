import SeestarProxy.Wireguard.BuiltPackets
import SeestarProxy.Wireguard.Queries

/-
  Where the answers to queries come from, and what they say.

  An answer goes back between the two addresses of its query,
  but its source port is that of the discovery protocol and
  never the one that was asked. It repeats the question and
  gives an address of the internet class, also to a question
  of another type or class.

  Main declarations:
    * `IsReplyTo` and `dns_reply_not_from_queried_port`
    * `AnswersItsQuery` and `dns_answers_its_query_iff`
-/

------------------------------------------------------------
-- Addresses
------------------------------------------------------------

namespace SeestarProxy

namespace Wireguard

open Library Library.Dns Protocol

variable {query response : Bytes} {question : Question}

/- The reply has the addresses of the query turned round. -/
structure IsReplyTo (query reply : Bytes) : Prop where
  source_eq : source reply = destination query
  srcPort_eq : srcPort reply = dstPort query
  destination_eq : destination reply = source query
  dstPort_eq : dstPort reply = srcPort query

/- Three fields are right, and the source port never is. -/
theorem dns_reply_not_from_queried_port
    {toLowercase : String → String}
    {p reply : Bytes}
    {upstreamIp : Ipv4}
    (hReply : handleDnsQuery toLowercase p upstreamIp =
      .ok (some reply)) :
    ¬ IsReplyTo p reply ∧
      source reply = destination p ∧
      destination reply = source p ∧
      dstPort reply = srcPort p ∧
      srcPort reply = discoveryPort ∧ dstPort p = 53 := by
  rcases handleDnsQuery_eq_some_iff.mp hReply with
    ⟨question, hIs, rfl⟩
  have hQueried : dstPort p = 53 := hIs.isUdp.2.2.2
  refine ⟨fun hTo => ?_, source_udpPacket ..,
    destination_udpPacket .., dstPort_udpPacket ..,
    srcPort_udpPacket .., hQueried⟩
  have hPort := hTo.srcPort_eq
  rw [dnsReply, srcPort_udpPacket, hQueried] at hPort
  exact absurd hPort (by decide)

/- `to_lowercase`, on ASCII text. -/
def lowerAscii (text : String) : String :=
  String.ofList (text.toList.map Char.toLower)

/- `seestar.local`, asked of type AAAA. -/
def seestarQuestion : Question where
  labels := [⟨[115, 101, 101, 115, 116, 97, 114],
      by decide, by decide⟩,
    ⟨[108, 111, 99, 97, 108], by decide, by decide⟩]
  qtype := 28
  qclass := 1

/- The header of a query with one question. -/
def queryHeader : Bytes :=
  [0x12, 0x34, 1, 0, 0, 1, 0, 0, 0, 0, 0, 0]

/- The question, from 10.99.0.2:40000 to 10.99.0.1:53. -/
def seestarQuery : Bytes :=
  [0x45, 0, 0, 59, 0, 0, 0x40, 0, 64, 17, 0, 0,
    10, 99, 0, 2, 10, 99, 0, 1] ++
  [156, 64, 0, 53, 0, 39, 0, 0] ++
  (queryHeader ++ (seestarQuestion.encode ++ []))

theorem isIntercepted_seestarQuery :
    IsIntercepted lowerAscii seestarQuery
      seestarQuestion where
  isUdp := by decide
  isWhole := by decide
  hasHeader := by decide
  isFirst := ⟨queryHeader, [], rfl, by decide⟩
  isSeestar := by decide

/- The reply comes from port 4720 instead of port 53. -/
theorem dns_reply_from_discovery_port :
    ∃ reply,
      handleDnsQuery lowerAscii seestarQuery #v[10, 0, 0, 1] =
        .ok (some reply) ∧
      srcPort reply = 4720 ∧ dstPort seestarQuery = 53 ∧
      ¬ IsReplyTo seestarQuery reply := by
  refine ⟨_, handleDnsQuery_eq_some_iff.mpr
    ⟨seestarQuestion, isIntercepted_seestarQuery, rfl⟩,
    srcPort_udpPacket .., by decide, fun hTo => ?_⟩
  have hPort := hTo.srcPort_eq
  rw [dnsReply, srcPort_udpPacket] at hPort
  exact absurd hPort (by decide)

/- The theorem at this query. -/
theorem dns_reply_not_from_queried_port_seestar :
    ∃ reply,
      handleDnsQuery lowerAscii seestarQuery #v[10, 0, 0, 1] =
        .ok (some reply) ∧
      ¬ IsReplyTo seestarQuery reply :=
  have hReply := handleDnsQuery_eq_some_iff.mpr
    ⟨seestarQuestion, isIntercepted_seestarQuery, rfl⟩
  ⟨_, hReply, (dns_reply_not_from_queried_port hReply).1⟩

------------------------------------------------------------
-- Answers
------------------------------------------------------------

/-
  The response is a message with the identifier of the query
  and its question, whose answers are of the type and class
  asked for.
-/
def AnswersItsQuery (query response : Bytes) : Prop :=
  ∃ question message,
    FirstQuestion query question ∧
    response = Message.encode message ∧
    message.id = wordAt query 0 ∧ message.IsResponse ∧
    message.questions.val = [question] ∧
    ∀ answer ∈ message.answers.val,
      answer.rtype = question.qtype ∧
        answer.rclass = question.qclass

/- The first question is for an internet address. -/
def AsksForAddress (query : Bytes) : Prop :=
  ∃ question, FirstQuestion query question ∧
    question.qtype = 1 ∧ question.qclass = 1

theorem isResponse_addressMessage
    (query : Bytes)
    (question : Question)
    (ip : Ipv4) :
    (addressMessage query question ip).IsResponse := by
  change (0x8180 : UInt16).toNat.testBit 15 = true
  decide

/- The one answer of the message has its type and class. -/
theorem answersItsQuery_iff
    (ip : Ipv4)
    (hFirst : FirstQuestion query question) :
    AnswersItsQuery query
        (addressMessage query question ip).encode ↔
      question.qtype = 1 ∧ question.qclass = 1 := by
  constructor
  · rintro ⟨question', message, hFirst', hEncode, hId, hQr,
      hQuestions, hAnswers⟩
    rw [hFirst'.unique hFirst] at hQuestions hAnswers
    rw [encode_addressMessage] at hEncode
    rcases Message.of_one_answer hQuestions hEncode.symm with
      ⟨_, _, answer, hAnswer, hRest⟩
    rw [encode_addressRecord] at hRest
    have hRecord := List.append_cancel_left hRest
    rw [← List.append_nil answer.encode] at hRecord
    rcases Record.type_class_of_pointer hRecord.symm with
      ⟨hType, hClass⟩
    have hMember : answer ∈ message.answers.val := by
      rw [hAnswer]
      exact List.mem_cons_self
    rcases hAnswers answer hMember with ⟨hAsked, hAsked'⟩
    exact ⟨hAsked.symm.trans hType, hAsked'.symm.trans hClass⟩
  · rintro ⟨hType, hClass⟩
    refine ⟨question, addressMessage query question ip,
      hFirst, rfl, rfl, isResponse_addressMessage .., rfl,
      ?_⟩
    intro answer hAnswer
    rw [List.mem_singleton.mp hAnswer, hType, hClass]
    exact ⟨rfl, rfl⟩

/- The datagram of a packet: all behind its UDP header. -/
def datagram (p : Bytes) : Bytes := p.drop (ihl p + 8)

/- Only questions for internet addresses are answered. -/
theorem dns_answers_its_query_iff
    {toLowercase : String → String}
    {p reply : Bytes}
    {upstreamIp : Ipv4}
    (hReply : handleDnsQuery toLowercase p upstreamIp =
      .ok (some reply)) :
    AnswersItsQuery (udpPayload p) (datagram reply) ↔
      AsksForAddress (udpPayload p) := by
  rcases handleDnsQuery_eq_some_iff.mp hReply with
    ⟨question, hIs, rfl⟩
  rw [dnsReply, datagram, ihl_udpPacket, datagram_udpPacket,
    answersItsQuery_iff upstreamIp hIs.isFirst]
  constructor
  · rintro hAsks
    exact ⟨question, hIs.isFirst, hAsks⟩
  · rintro ⟨question', hFirst', hAsks⟩
    rw [hFirst'.unique hIs.isFirst] at hAsks
    exact hAsks

/- The query for an IPv6 address gets an IPv4 address. -/
theorem dns_answers_other_type :
    ∃ reply,
      handleDnsQuery lowerAscii seestarQuery #v[10, 0, 0, 1] =
        .ok (some reply) ∧
      ¬ AnswersItsQuery (udpPayload seestarQuery)
        (datagram reply) := by
  refine ⟨_, handleDnsQuery_eq_some_iff.mpr
    ⟨seestarQuestion, isIntercepted_seestarQuery, rfl⟩,
    fun hAnswers => ?_⟩
  rw [dnsReply, datagram, ihl_udpPacket, datagram_udpPacket,
    answersItsQuery_iff _ isIntercepted_seestarQuery.isFirst]
    at hAnswers
  exact absurd hAnswers.1 (by decide)

/- The theorem at this query. -/
theorem dns_answers_its_query_iff_seestar :
    ∃ reply,
      handleDnsQuery lowerAscii seestarQuery #v[10, 0, 0, 1] =
        .ok (some reply) ∧
      (AnswersItsQuery (udpPayload seestarQuery)
          (datagram reply) ↔
        AsksForAddress (udpPayload seestarQuery)) :=
  have hReply := handleDnsQuery_eq_some_iff.mpr
    ⟨seestarQuestion, isIntercepted_seestarQuery, rfl⟩
  ⟨_, hReply, dns_answers_its_query_iff hReply⟩

end Wireguard

end SeestarProxy
