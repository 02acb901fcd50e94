import SeestarProxy.Boundary
import SeestarProxy.Discovery.Bridge
import SeestarProxy.Utf8

/-
  The device info that tunnel clients are told at startup.

  It is the first datagram of the telescope, read as text as
  it is; if none comes in time it is built from the device
  state over TCP, or made up. The text of the datagram is
  previewed for the log, which may panic.

  Main declarations:
    * `DeviceProbe`, `fetchDeviceInfoTcp`, `fetchDeviceInfo`
    * `fetchDeviceInfo_isSome_iff`
-/

------------------------------------------------------------
-- Fetching
------------------------------------------------------------

namespace SeestarProxy

namespace Wireguard

open Discovery

/-
  What the startup of the tunnel meets: the datagrams that
  arrive in time, and the line that the telescope answers
  over TCP, if it is text and comes in time.
-/
structure DeviceProbe where
  datagrams : List (SocketAddr × List UInt8)
  tcpLine : Option String

/- The bytes of a datagram that the buffer takes. -/
def datagramSize : Nat := 4096

/- `default_device_info`. -/
def defaultDeviceInfo (serde : Serde) : String :=
  serde.toStrOrDefault minimalResponse

/- `fetch_device_info_tcp`. -/
def fetchDeviceInfoTcp
    (serde : Serde)
    (tcpLine : Option String) : String :=
  match tcpLine with
  | none => defaultDeviceInfo serde
  | some response =>
      match serde.fromStr (Text.trim response) with
      | none => defaultDeviceInfo serde
      | some parsed =>
          serde.toStrOrDefault (fromDeviceState
            ((parsed.get "result").getD (.object [])))

/- The text of the first datagram of the telescope. -/
def nativeResponse
    (upstreamIp : IpAddr)
    (probe : DeviceProbe) : Option String :=
  (probe.datagrams.find? fun datagram =>
      datagram.1.ip = upstreamIp).map fun datagram =>
    Text.fromUtf8Lossy (datagram.2.take datagramSize)

/- `fetch_device_info`; nothing when it panics. -/
def fetchDeviceInfo
    (serde : Serde)
    (infoLogged : Bool)
    (upstreamIp : IpAddr)
    (probe : DeviceProbe) : Option String :=
  match nativeResponse upstreamIp probe with
  | some response =>
      if Control.previewPanics infoLogged response 200 then
        none
      else
        some response
  | none => some (fetchDeviceInfoTcp serde probe.tcpLine)

/- It returns unless the preview cuts a character. -/
theorem fetchDeviceInfo_isSome_iff
    (serde : Serde)
    (infoLogged : Bool)
    (upstreamIp : IpAddr)
    (probe : DeviceProbe) :
    (fetchDeviceInfo serde infoLogged upstreamIp
        probe).isSome = true ↔
      (infoLogged = true → ∀ response,
        nativeResponse upstreamIp probe = some response →
          Text.Fits response.toList 200) := by
  unfold fetchDeviceInfo
  cases hNative : nativeResponse upstreamIp probe with
  | none => simp
  | some response =>
      simp only [Option.some.injEq, forall_eq']
      split
      · rename_i hPanics
        rcases Control.previewPanics_iff.mp hPanics with
          ⟨hLogged, hNot⟩
        constructor
        · intro hSome
          cases hSome
        · intro hFits
          exact absurd (hFits hLogged) hNot
      · rename_i hReturns
        rw [Control.previewPanics_iff, not_and, not_not]
          at hReturns
        exact iff_of_true rfl hReturns

end Wireguard

end SeestarProxy
