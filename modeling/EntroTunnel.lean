import EntroTunnel.Foundation.PartialRun
import EntroTunnel.Foundation.LongestPrefix
import EntroTunnel.Foundation.InstallUndo
import EntroTunnel.Foundation.Script
import EntroTunnel.Foundation.Noninterference
import EntroTunnel.Foundation.ByteCodec
import EntroTunnel.Foundation.Channel
import EntroTunnel.Foundation.ByteStream
import EntroTunnel.Foundation.Pipe
import EntroTunnel.Foundation.FileWrite
import EntroTunnel.Foundation.Document
import EntroTunnel.Foundation.DocumentOrder
import EntroTunnel.Foundation.KeyedList
import EntroTunnel.Foundation.Assignments
import EntroTunnel.Foundation.Sums
import EntroTunnel.Foundation.Base64
import EntroTunnel.Core.Address
import EntroTunnel.Core.AddressText
import EntroTunnel.Core.Wire
import EntroTunnel.Core.FrameCodec
import EntroTunnel.Core.Text
import EntroTunnel.Core.FrameDecode
import EntroTunnel.Core.TextRules
import EntroTunnel.Core.Psk
import EntroTunnel.Core.AddressParse
import EntroTunnel.Client.HostNetwork
import EntroTunnel.Client.Profile
import EntroTunnel.Client.NetworkSetup
import EntroTunnel.Client.SetupPlan
import EntroTunnel.Client.SetupOutcome
import EntroTunnel.Client.CarrierPipe
import EntroTunnel.Client.CarrierRoute
import EntroTunnel.Client.FullTunnelCapture
import EntroTunnel.Client.Teardown
import EntroTunnel.Client.VirtualIp
import EntroTunnel.Client.SetupScript
import EntroTunnel.Client.ChainSetup
import EntroTunnel.Client.PacketSession
import EntroTunnel.Client.ChainSession
import EntroTunnel.Client.HttpHead
import EntroTunnel.Client.HeadReads
import EntroTunnel.Client.RequestForm
import EntroTunnel.Client.RequestLine
import EntroTunnel.Client.RequestStreams
import EntroTunnel.Client.LocalConn
import EntroTunnel.Client.ConnFrames
import EntroTunnel.Client.ProxyClient
import EntroTunnel.Client.Carrier
import EntroTunnel.Client.EngineTask
import EntroTunnel.Client.SessionDrivers
import EntroTunnel.Client.ChainConnect
import EntroTunnel.Client.EgressOrder
import EntroTunnel.Client.HttpMode
import EntroTunnel.Client.SysProxy
import EntroTunnel.Client.PrimaryService
import EntroTunnel.Client.StallMonitor
import EntroTunnel.Client.StalledConsumer
import EntroTunnel.Client.DeadLink
import EntroTunnel.Server.Configuration
import EntroTunnel.Server.Router
import EntroTunnel.Server.RemoteStream
import EntroTunnel.Server.Session
import EntroTunnel.Server.EgressFilter
import EntroTunnel.Server.StreamUplink
import EntroTunnel.Server.Connections
import EntroTunnel.Server.Registration
import EntroTunnel.Server.FailedHandshake
import EntroTunnel.Server.DualStack
import EntroTunnel.Server.Ownership
import EntroTunnel.Server.AddressPlan
import EntroTunnel.Server.Admin
import EntroTunnel.Server.Revocation
import EntroTunnel.Server.PacketOwner
import EntroTunnel.Server.PacketSwitch
import EntroTunnel.Server.PeerRegistry
import EntroTunnel.Server.HandshakeGate
import EntroTunnel.Server.Ledger
import EntroTunnel.Server.Accounting
import EntroTunnel.Server.PeerStats
import EntroTunnel.Server.LiveSessions
import EntroTunnel.Server.StatsEndpoint
import EntroTunnel.Link.FrameSize
import EntroTunnel.Link.ProxyLink
import EntroTunnel.Link.StreamView
import EntroTunnel.Link.StreamInvariant
import EntroTunnel.Link.Projection
import EntroTunnel.Link.LinkStreams
import EntroTunnel.Link.LinkWork
import EntroTunnel.Link.CarrierHop
import EntroTunnel.Link.LinkRest
import EntroTunnel.Link.Downlink
import EntroTunnel.Link.StreamTables
import EntroTunnel.Link.Chain
import EntroTunnel.Link.ChainRelease
import EntroTunnel.Link.ChainLoss
import EntroTunnel.Link.Framing
import EntroTunnel.Link.Isolation
import EntroTunnel.Desktop.EngineControl
import EntroTunnel.Desktop.ProfileFormat
import EntroTunnel.Desktop.ProfileStore
import EntroTunnel.Desktop.ProfileLoading
import EntroTunnel.Desktop.LocalState
import EntroTunnel.Desktop.ProfileExport
import EntroTunnel.Desktop.ShareLink
import EntroTunnel.Client.RuleOrder
import EntroTunnel.Server.PeerRows
import EntroTunnel.Link.StreamEnd
import EntroTunnel.Server.Timeline
import EntroTunnel.Server.ServerNet
import EntroTunnel.Mobile.AndroidStatus
import EntroTunnel.Desktop.Elevation
import EntroTunnel.Foundation.ShellText
import EntroTunnel.Link.FrameChannel
import EntroTunnel.Link.NoiseHandshake
import EntroTunnel.Link.NoiseSession
import EntroTunnel.Server.ConfigFile
import EntroTunnel.Server.Startup
import EntroTunnel.Server.Restart
import EntroTunnel.Server.Provisioning
import EntroTunnel.Link.NoiseIntegrity
import EntroTunnel.Foundation.ScriptOutcome
import EntroTunnel.Core.Wintun
import EntroTunnel.Client.WindowsSetup
import EntroTunnel.Client.WindowsTeardown
import EntroTunnel.Client.MacSetup
import EntroTunnel.Client.MacTeardown
import EntroTunnel.Link.HopRelay
import EntroTunnel.Link.TransportEnd
import EntroTunnel.Link.TunnelStack
import EntroTunnel.Link.LinkRefinement
