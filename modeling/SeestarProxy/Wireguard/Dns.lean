import SeestarProxy.Text
import SeestarProxy.Utf8
import SeestarProxy.Wireguard.TunnelDiscovery

/-
  The DNS queries that the tunnel answers on its own.

  A query for a name of a local telescope is answered with
  the upstream address; all others pass. What lower case is
  follows the Unicode tables, which are the parameter
  `toLowercase`.

  Main declarations:
    * `parseQueryName`
    * `isSeestarName`
    * `buildDnsResponse`
    * `handleDnsQuery`
-/

------------------------------------------------------------
-- Names
------------------------------------------------------------

namespace SeestarProxy

namespace Wireguard

open Library Library.Slice

variable (toLowercase : String → String)

/- `DNS_HEADER_LEN`. -/
def dnsHeaderLen : Nat := 12

/- A label is put after a dot, unless it is the first text. -/
def pushLabel (name label : String) : String :=
  if name = "" then label else name ++ "." ++ label

/-
  The labels from a position on are added to a name, up to
  the empty one; the position behind it is returned too.
-/
def readLabels
    (data : Bytes)
    (pos : Nat)
    (name : String) : Checked (Option (String × Nat)) :=
  if data.length ≤ pos then
    .ok none
  else do
    let labelLen := (← index data pos).toNat
    if labelLen = 0 then
      return some (name, pos + 1)
    else if data.length < pos + 1 + labelLen then
      return none
    else
      let label ← slice data (pos + 1) (pos + 1 + labelLen)
      readLabels data (pos + 1 + labelLen)
        (pushLabel name (Text.fromUtf8Lossy label))
termination_by data.length - pos

/- `parse_query_name`. -/
def parseQueryName
    (data : Bytes) : Checked (Option (String × Nat)) :=
  if data.length < dnsHeaderLen + 1 then
    .ok none
  else do
    match ← readLabels data dnsHeaderLen "" with
    | none => return none
    | some (name, pos) =>
        -- The type and the class are skipped.
        if data.length < pos + 4 then
          return none
        else
          return some (toLowercase name, pos + 4)

/- `str::starts_with`, `str::ends_with` and `str::contains`. -/
def startsWith (name pattern : String) : Bool :=
  pattern.toList.isPrefixOf name.toList

def endsWith (name pattern : String) : Bool :=
  pattern.toList.isSuffixOf name.toList

def contains (name pattern : String) : Bool :=
  (Text.findFrom pattern.toList name.toList).isSome

/- `is_seestar_name`. -/
def isSeestarName (name : String) : Bool :=
  let n := toLowercase name
  -- The domains of the cloud resolve normally.
  if endsWith n ".seestar.com" || n == "seestar.com" then
    false
  else
    n == "seestar.local" ||
      startsWith n "s30_" || startsWith n "s50_" ||
      startsWith n "s30-" || startsWith n "s50-" ||
      (contains n "seestar" && endsWith n ".local")

------------------------------------------------------------
-- Responses
------------------------------------------------------------

/- `build_dns_response`. -/
def buildDnsResponse
    (query : Bytes)
    (ip : Ipv4) : Checked (Option Bytes) := do
  match ← parseQueryName toLowercase query with
  | none => return none
  | some (_, questionEnd) =>
      if query.length < dnsHeaderLen then
        return none
      else
        let queryId ← slice query 0 2
        let questionSection ←
          slice query dnsHeaderLen questionEnd
        return some (queryId ++
          [0x81, 0x80, 0, 1, 0, 1, 0, 0, 0, 0] ++
          questionSection ++ [0xC0, 0x0C] ++
          [0, 1, 0, 1, 0, 0, 0, 0x3C, 0, 4] ++ ip.toList)

/- `handle_dns_query`. -/
def handleDnsQuery
    (ipPacket : Bytes)
    (upstreamIp : Ipv4) : Checked (Option Bytes) := do
  match ← readUdp 53 ipPacket with
  | none => return none
  | some read =>
      if read.udp.length < read.udpLen ∨ read.udpLen < 8 then
        return none
      else
        let dnsPayload ← slice read.udp 8 read.udpLen
        match ← parseQueryName toLowercase dnsPayload with
        | none => return none
        | some (name, _) =>
            if isSeestarName toLowercase name = false then
              return none
            else
              match ← buildDnsResponse toLowercase dnsPayload
                upstreamIp with
              | none => return none
              | some dnsResponse =>
                  -- From the server that was asked.
                  let dstIp ← readIpv4 ipPacket 16
                  let responsePacket ←
                    buildDiscoveryResponse dstIp read.srcIp
                      read.srcPort dnsResponse
                  return some responsePacket

end Wireguard

end SeestarProxy
