import SeestarProxy.Control.Drain
import SeestarProxy.Control.StaleLines
import SeestarProxy.Control.CrossClient
import SeestarProxy.Control.Handshake
import SeestarProxy.Wireguard.Netstack
import SeestarProxy.Wireguard.NetstackCases
import SeestarProxy.Wireguard.Flows
import SeestarProxy.Wireguard.Outbound
import SeestarProxy.Library.Purge
import SeestarProxy.Wireguard.Inbound
import SeestarProxy.Wireguard.PacketLoop
import SeestarProxy.Wireguard.Roaming
import SeestarProxy.Control.Transparency
import SeestarProxy.Imaging.State
import SeestarProxy.Imaging.Tasks
import SeestarProxy.Library.Beacon
import SeestarProxy.Library.Framing
import SeestarProxy.Control.Status
import SeestarProxy.Imaging.Status
import SeestarProxy.Imaging.Frames
import SeestarProxy.Utf8
import SeestarProxy.Control.Unbroken
import SeestarProxy.Control.Wire
import SeestarProxy.Library.Output
import SeestarProxy.Control.WireIntact
import SeestarProxy.Library.Decimal
import SeestarProxy.Session.Recorder
import SeestarProxy.Session.Replay
import SeestarProxy.Session.Alignment
import SeestarProxy.Session.Names
import SeestarProxy.Session.Contents
import SeestarProxy.Session.ControlFile
import SeestarProxy.Session.Order
import SeestarProxy.Session.Mixing
import SeestarProxy.Session.ControlLog
import SeestarProxy.Discovery.Bridge
import SeestarProxy.Discovery.ProxyIp
import SeestarProxy.Library.Lines
import SeestarProxy.Boundary
import SeestarProxy.Control.ReaderLoop
import SeestarProxy.Wireguard.DeviceInfo
import SeestarProxy.Control.TelescopeText
import SeestarProxy.Control.ClientLoop
import SeestarProxy.Library.Served
import SeestarProxy.Control.ClientText
import SeestarProxy.Imaging.ClientText
import SeestarProxy.Control.UpstreamIds
import SeestarProxy.Control.Redirect
import SeestarProxy.Wireguard.Tcp
import SeestarProxy.Wireguard.Ports
import SeestarProxy.Wireguard.Closing
import SeestarProxy.Library.Annotate
import SeestarProxy.Library.Window
import SeestarProxy.Dashboard.TrafficLog
import SeestarProxy.Library.Binary64
import SeestarProxy.Dashboard.TelescopeStatus
import SeestarProxy.Discovery.Storm
import SeestarProxy.Library.Slice
import SeestarProxy.Library.OnesComplement
import SeestarProxy.Wireguard.TunnelDiscovery
import SeestarProxy.Wireguard.Packets
import SeestarProxy.Library.DnsMessage
import SeestarProxy.Wireguard.Dns
import SeestarProxy.Wireguard.Queries
import SeestarProxy.Wireguard.BuiltPackets
import SeestarProxy.Wireguard.DnsAnswers
import SeestarProxy.Wireguard.Echo
import SeestarProxy.Wireguard.Decrypted
import SeestarProxy.Wireguard.Draining
import SeestarProxy.Wireguard.Waiting
import SeestarProxy.Imaging.Commands
import SeestarProxy.Control.Responses
import SeestarProxy.Control.HookPaths
import SeestarProxy.Discovery.Panics
import SeestarProxy.Library.Views
import SeestarProxy.Discovery.Cache
import SeestarProxy.Discovery.DeviceState
import SeestarProxy.Wireguard.TcpFallback
import SeestarProxy.Library.Layers
import SeestarProxy.Config.Load
import SeestarProxy.Config.Precedence
import SeestarProxy.Wireguard.QueryNames
import SeestarProxy.Library.Pipe
import SeestarProxy.Relay.RawPipe
import SeestarProxy.Relay.TailscaleBridge
import SeestarProxy.Control.Lifecycle
import SeestarProxy.Library.Reception
import SeestarProxy.Control.EventDelivery
import SeestarProxy.Control.Rank
import SeestarProxy.Control.Rest
import SeestarProxy.Imaging.FrameDelivery
import SeestarProxy.Imaging.Rest
import SeestarProxy.Session.ReplayMode
import SeestarProxy.Imaging.Solo
import SeestarProxy.Library.Base64
import SeestarProxy.Library.Parts
import SeestarProxy.Session.LiveSession
import SeestarProxy.Wireguard.Keys
import SeestarProxy.Library.Conveyor
import SeestarProxy.Wireguard.PacketFlow
import SeestarProxy.Imaging.CommandDelivery
