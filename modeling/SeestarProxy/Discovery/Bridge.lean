import Mathlib
import SeestarProxy.Library.Machine
import SeestarProxy.Protocol
import SeestarProxy.Text

/-
  The discovery bridge on UDP port 4720.

  At startup the bridge gets the device info that it answers
  with: from the configured identity, from the first reply
  of the telescope that parses, or from the telescope over
  TCP. It puts the address of the proxy in and then answers
  every discovery request with what it has cached; a
  response of the telescope may replace the cache once.

  A datagram is the text in the receive buffer, if it is
  UTF-8. A panic and an error returned by `run` both end the
  bridge.

  Main declarations:
    * `IpAddr`, `SocketAddr` and `Config`
    * `probeUpstream` and `patchIp`
    * `Phase`, `Event`, `bridgeStep` and `bridge`
    * `BridgeStep` and `bridgeStep_cases`
-/

------------------------------------------------------------
-- Addresses
------------------------------------------------------------

namespace SeestarProxy

namespace Discovery

open Library Protocol

/- An IP address. -/
inductive IpAddr where
| v4 (octets : Vector UInt8 4)
| v6 (segments : Vector UInt16 8)
deriving DecidableEq

namespace IpAddr

def isUnspecified : IpAddr → Bool
| .v4 octets => octets = Vector.replicate 4 0
| .v6 segments => segments = Vector.replicate 8 0

def v4Text (octets : List UInt8) : String :=
  ".".intercalate (octets.map fun b => toString b.toNat)

def v6Text (segments : List UInt16) : String :=
  ":".intercalate (segments.map fun segment =>
    String.ofList (Nat.toDigits 16 segment.toNat))

/-
  The first longest run of zero segments, as its start and
  length, in the segments from number `i` on; `run` is the
  length of the run that ends there.
-/
def longestZeros :
    List UInt16 → Nat → Nat → Nat × Nat → Nat × Nat
| [], _, _, longest => longest
| segment :: rest, i, run, longest =>
    if segment = 0 then
      longestZeros rest (i + 1) (run + 1)
        (if longest.2 < run + 1 then
          (i - run, run + 1)
        else
          longest)
    else
      longestZeros rest (i + 1) 0 longest

/- The bytes of a segment. -/
def segmentBytes (segment : UInt16) : List UInt8 :=
  [UInt8.ofNat (segment.toNat / 256),
    UInt8.ofNat (segment.toNat % 256)]

/- `to_string`. -/
def text : IpAddr → String
| .v4 octets => v4Text octets.toList
| .v6 segments =>
    let all := segments.toList
    if all.take 6 = [0, 0, 0, 0, 0, 0xFFFF] then
      "::ffff:" ++
        v4Text ((all.drop 6).flatMap segmentBytes)
    else
      let zeros := longestZeros all 0 0 (0, 0)
      if 1 < zeros.2 then
        v6Text (all.take zeros.1) ++ "::" ++
          v6Text (all.drop (zeros.1 + zeros.2))
      else
        v6Text all

end IpAddr

/- An IP address and a port. -/
structure SocketAddr where
  ip : IpAddr
  port : UInt16
deriving DecidableEq

/- The port of discovery datagrams. -/
def discoveryPort : UInt16 := 4720

/- Where responses are broadcast to. -/
def broadcastDest : SocketAddr where
  ip := .v4 (Vector.replicate 4 255)
  port := discoveryPort

/-
  The arguments of `run`, and the local address from which
  the telescope is reached.
-/
structure Config where
  bindAddr : IpAddr
  upstreamAddr : IpAddr
  routedAddr : IpAddr
  telescopeSn : Option String
  telescopeModel : Option String
  telescopeBssid : Option String

/- The address that clients should connect to. -/
def Config.proxyIp (config : Config) : IpAddr :=
  if config.bindAddr.isUnspecified then
    config.routedAddr
  else
    config.bindAddr

------------------------------------------------------------
-- Device Info
------------------------------------------------------------

/- An unsigned number as a value. -/
def natValue (n : UInt64) : Value := .number (.posInt n)

/- The envelope of a discovery response. -/
def discoveryResponse (result : Value) : Value :=
  .ofMembers [("jsonrpc", .string "2.0"),
    ("Timestamp", .string "0"),
    ("method", .string "scan_iscope"),
    ("result", result),
    ("code", natValue 0),
    ("id", natValue 201)]

/- `build_configured_response`. -/
def buildConfiguredResponse
    (sn : String)
    (model bssid : Option String)
    (proxyIp : String) : Value :=
  let result := Value.ofMembers
    [("product_model",
        .string (model.getD "Seestar S50")),
      ("sn", .string sn),
      ("ssid", .string ("S50_" ++ sn)),
      ("ip", .string proxyIp),
      ("is_verified", .bool true),
      ("tcp_client_num", natValue 0),
      ("can_star_mode_sel_cam", .bool false),
      ("serc", .string "WPA-PSK")]
  discoveryResponse
    (match bssid with
    | none => result
    | some b => result.insert "bssid" (.string b))

/- The text at a path of two keys, or a default. -/
def textAt
    (v : Value)
    (key key' default : String) : String :=
  (((v.get key).bind fun w => w.get key').bind
    Value.asStr).getD default

/-
  The response that `fetch_device_info_tcp` builds from the
  `result` of a device state.
-/
def fromDeviceState (result : Value) : Value :=
  discoveryResponse (.ofMembers
    [("sn", .string (textAt result "device" "sn" "unknown")),
      ("product_model", .string
        (textAt result "device" "product_model" "Seestar")),
      ("ssid", .string (textAt result "ap" "ssid" "")),
      ("is_verified", .bool true),
      ("tcp_client_num", natValue 0)])

/- The response when nothing is known of the telescope. -/
def minimalResponse : Value :=
  discoveryResponse (.ofMembers
    [("product_model", .string "Seestar (via proxy)"),
      ("sn", .string "proxy"),
      ("ssid", .string "Seestar_proxy"),
      ("is_verified", .bool true),
      ("tcp_client_num", natValue 0)])

/- The discovery request of the proxy. -/
def probeRequest (ip : IpAddr) : Value :=
  .ofMembers [("id", natValue 201),
    ("method", .string "scan_iscope"),
    ("name", .string "seestarproxy"),
    ("ip", .string ip.text)]

------------------------------------------------------------
-- The Startup Probe
------------------------------------------------------------

/- The bytes of a reply: text, or what text they resemble. -/
inductive Reply where
| text (s : String)
| invalid (lossy : String)
deriving DecidableEq

/-
  What the startup probe meets: the datagrams that arrive in
  time, and the `result` of the device state over TCP.
-/
structure ProbeRun where
  replies : List (SocketAddr × Reply)
  deviceState : Option Value

/- The text of a reply as it is searched for an error. -/
def Reply.lossy : Reply → String
| .text s => s
| .invalid lossy => lossy

/- The reply as JSON, with ASCII white space at its end. -/
def Reply.parse (serde : Serde) : Reply → Option Value
| .text s =>
    serde.fromStr (String.ofList
      ((s.toList.reverse.dropWhile fun c =>
        c = ' ' || c = '\t' || c = '\n' || c = '\r' ||
          c = '\x0c').reverse))
| .invalid _ => none

/- The reply looks like an error of the firmware. -/
def Reply.isError (reply : Reply) : Bool :=
  (Text.findFrom "\"code\"".toList
      reply.lossy.toList).isSome ||
    (Text.findFrom "\"error\"".toList
      reply.lossy.toList).isSome

/-
  Wait for a reply of the telescope. Replies that cannot be
  parsed are skipped, but for errors, which end the wait.
-/
def awaitReply
    (serde : Serde)
    (upstreamAddr : IpAddr) :
    List (SocketAddr × Reply) → Option Value
| [] => none
| (src, reply) :: rest =>
    if src.ip = upstreamAddr then
      match reply.parse serde with
      | some v => some v
      | none =>
          if reply.isError then
            none
          else
            awaitReply serde upstreamAddr rest
    else
      awaitReply serde upstreamAddr rest

/- `probe_upstream`. -/
def probeUpstream
    (serde : Serde)
    (upstreamAddr : IpAddr)
    (probe : ProbeRun) : Value :=
  match awaitReply serde upstreamAddr probe.replies with
  | some v => v
  | none =>
      match probe.deviceState with
      | some result => fromDeviceState result
      | none => minimalResponse

------------------------------------------------------------
-- The Cache
------------------------------------------------------------

/-
  Put the address of the proxy into a response; nothing when
  the assignment panics.
-/
def patchIp (proxyIp : IpAddr) (info : Value) :
    Option Value :=
  match info.get "result" with
  | none => some info
  | some result =>
      (result.setIndex "ip" (.string proxyIp.text)).map
        fun patched => info.insert "result" patched

/- The serial number is one of a telescope. -/
def haveRealSn (info : Value) : Bool :=
  match ((info.get "result").bind fun result =>
    result.get "sn").bind Value.asStr with
  | some sn => sn ≠ "proxy"
  | none => false

/- What the bridge has cached. -/
structure Cache where
  deviceInfo : Value
  haveRealInfo : Bool
deriving DecidableEq

/- The device info of the startup, before it is patched. -/
def startupInfo
    (serde : Serde)
    (config : Config)
    (probe : ProbeRun) : Value :=
  match config.telescopeSn with
  | some sn =>
      buildConfiguredResponse sn config.telescopeModel
        config.telescopeBssid "0.0.0.0"
  | none => probeUpstream serde config.upstreamAddr probe

------------------------------------------------------------
-- The Receive Loop
------------------------------------------------------------

/- Where the bridge is. -/
inductive Phase where
| starting
| listening (cache : Cache)
| stopped
deriving DecidableEq

/- Which of the sends of a step succeed. -/
structure Sends where
  unicast : Bool
  broadcast : Bool
  probe : Bool
deriving DecidableEq

/-
  The steps of a bridge: it starts, or it receives a
  datagram, whose text is missing when it is not UTF-8.
-/
inductive Event where
| start (probe : ProbeRun)
| receive
    (src : SocketAddr)
    (text : Option String)
    (sends : Sends)

/- What a bridge sends. -/
inductive Obs where
| response (dest : SocketAddr) (info : Value) (text : String)
| probe (dest : SocketAddr) (text : String)
deriving DecidableEq

/- The discovery message in a datagram, if it is one. -/
def discoveryMessage
    (serde : Serde)
    (text : Option String) : Option Value :=
  (text.bind fun s => serde.fromStr (Text.trim s)).filter
    fun request =>
      (methodName request).getD "" = "scan_iscope"

/- A discovery message is a response, not a request. -/
def isResponse (msg : Value) : Bool :=
  (msg.get "result").isSome || (msg.get "code").isSome

/- The refresh probe that asks for real device info. -/
def refreshProbe
    (serde : Serde)
    (config : Config) : List Obs :=
  match serde.toStr (probeRequest config.proxyIp) with
  | none => []
  | some text =>
      [.probe ⟨config.upstreamAddr, discoveryPort⟩ text]

/- Answer a request from the cache. -/
def answer
    (serde : Serde)
    (config : Config)
    (cache : Cache)
    (src : SocketAddr)
    (sends : Sends) : Phase × List Obs :=
  match serde.toStr cache.deviceInfo with
  | none => (.stopped, [])
  | some text =>
      (.listening cache,
        (if sends.unicast then
          [.response src cache.deviceInfo text] else []) ++
        (if sends.broadcast then
          [.response broadcastDest cache.deviceInfo text]
        else []) ++
        (if !cache.haveRealInfo && sends.probe then
          refreshProbe serde config else []))

/- Whether a response from an address replaces the cache. -/
def replacesCache
    (config : Config)
    (cache : Cache)
    (src : SocketAddr) : Bool :=
  src.ip = config.upstreamAddr && !cache.haveRealInfo

/- Take a discovery response. -/
def takeResponse
    (config : Config)
    (cache : Cache)
    (src : SocketAddr)
    (msg : Value) : Phase :=
  if replacesCache config cache src then
    match patchIp config.proxyIp msg with
    | none => .stopped
    | some updated => .listening ⟨updated, true⟩
  else
    .listening cache

/- A datagram in the receive loop of `run`. -/
def receiveDatagram
    (serde : Serde)
    (config : Config)
    (cache : Cache)
    (src : SocketAddr)
    (text : Option String)
    (sends : Sends) : Phase × List Obs :=
  match discoveryMessage serde text with
  | none => (.listening cache, [])
  | some msg =>
      if isResponse msg then
        (takeResponse config cache src msg, [])
      else
        answer serde config cache src sends

/- The startup of `run`. -/
def startBridge
    (serde : Serde)
    (config : Config)
    (probe : ProbeRun) : Phase :=
  match patchIp config.proxyIp
      (startupInfo serde config probe) with
  | none => .stopped
  | some info => .listening ⟨info, haveRealSn info⟩

def bridgeStep
    (serde : Serde)
    (config : Config) :
    Phase → Event → Option (Phase × List Obs)
| .starting, .start probe =>
    some (startBridge serde config probe, [])
| .listening cache, .receive src text sends =>
    some (receiveDatagram serde config cache src text sends)
| _, _ => none

/- One bridge and the datagrams that it receives. -/
def bridge
    (serde : Serde)
    (config : Config) : Machine Phase Event Obs where
  init := .starting
  step := bridgeStep serde config

/- The outcomes of one step of the bridge. -/
inductive BridgeStep
    (serde : Serde)
    (config : Config) :
    Phase → Event → Phase → List Obs → Prop
| started {probe : ProbeRun} :
    BridgeStep serde config .starting (.start probe)
      (startBridge serde config probe) []
| received {cache : Cache} {src : SocketAddr}
    {text : Option String} {sends : Sends} :
    BridgeStep serde config (.listening cache)
      (.receive src text sends)
      (receiveDatagram serde config cache src text sends).1
      (receiveDatagram serde config cache src text sends).2

/- Every step of the bridge has one of the outcomes. -/
theorem bridgeStep_cases
    {serde : Serde}
    {config : Config}
    {s s' : Phase}
    {e : Event}
    {o : List Obs}
    (hStep : bridgeStep serde config s e = some (s', o)) :
    BridgeStep serde config s e s' o := by
  cases s with
  | starting =>
      cases e with
      | start probe =>
          cases hStep
          exact .started
      | receive src text sends => cases hStep
  | listening cache =>
      cases e with
      | start probe => cases hStep
      | receive src text sends =>
          have hReceive := Option.some.inj hStep
          have hState : _ = s' := congrArg Prod.fst hReceive
          have hSent : _ = o := congrArg Prod.snd hReceive
          rw [← hState, ← hSent]
          exact .received
  | stopped => cases e <;> cases hStep

end Discovery

end SeestarProxy
