import EntroTunnel.Core.Address

/-!
# Frames and handshake payloads

The messages of `core/src/protocol`: `Frame` with the payloads `Hello`, `Welcome`, `PeerInfo` and
`TargetAddr`, and the session modes and transports of `core/src/config.rs`. Variants and fields
stand in the order of the source, which is the order in which the codec writes them.
-/

set_option autoImplicit false
set_option relaxedAutoImplicit false

namespace EntroTunnel.Core

abbrev Bytes := List UInt8

/-- What the client asks the server to do for a session. -/
inductive SessionMode
  | globalProxy
  | systemProxy
  | httpProxy
  | vpn
  deriving DecidableEq, Repr

namespace SessionMode

/-- The mode as the server sees it: `systemProxy` is `httpProxy` on the link. -/
def wire : SessionMode → SessionMode
  | .systemProxy => .httpProxy
  | other => other

/-- The mode multiplexes proxy streams instead of forwarding raw packets. -/
def isStream : SessionMode → Bool
  | .httpProxy | .systemProxy => true
  | _ => false

end SessionMode

/-- Which transport a link uses. -/
inductive TransportKind
  | tcp
  | ws
  | quic
  deriving DecidableEq, Repr

/-- First frame of the client. -/
structure Hello where
  version : UInt16
  token : String
  mode : SessionMode
  requestedIp : Option Ipv4Addr
  clientName : Option String
  joinVpn : Bool
  deriving DecidableEq, Repr

/-- The 16 bytes of a session id. -/
abbrev Uuid := BitVec 128

/-- The server's acceptance, with the virtual network it assigns. -/
structure Welcome where
  sessionId : Uuid
  assignedIp : Ipv4Addr
  prefixLen : UInt8
  gateway : Ipv4Addr
  mtu : UInt16
  dns : List Ipv4Addr
  assignedIp6 : Option Ipv6Addr
  prefix6 : UInt8
  gateway6 : Option Ipv6Addr
  dns6 : List Ipv6Addr
  deriving DecidableEq, Repr

/-- One VPN peer as reported to a client. -/
structure PeerInfo where
  ip : Ipv4Addr
  name : String
  ip6 : Option Ipv6Addr
  deriving DecidableEq, Repr

/-- `std::net::SocketAddr`, without the flow label and scope that the codec drops. -/
structure SocketAddr where
  ip : IpAddr
  port : UInt16
  deriving DecidableEq, Repr

/-- Destination of a proxied stream; the server resolves domains. -/
inductive TargetAddr
  | ip (addr : SocketAddr)
  | domain (host : String) (port : UInt16)
  deriving DecidableEq, Repr

/-- Stream ids are 32-bit and chosen by the client. -/
abbrev StreamId := UInt32

/-- One application frame. -/
inductive Frame
  | hello (hello : Hello)
  | welcome (welcome : Welcome)
  | reject (reason : String)
  | ping
  | pong
  | packet (bytes : Bytes)
  | streamOpen (id : StreamId) (target : TargetAddr)
  | streamData (id : StreamId) (data : Bytes)
  | streamClose (id : StreamId) (error : Option String)
  | getPeers
  | peerList (peers : List PeerInfo)
  deriving DecidableEq, Repr

end EntroTunnel.Core
