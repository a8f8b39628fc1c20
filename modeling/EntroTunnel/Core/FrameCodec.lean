import EntroTunnel.Core.Wire
import EntroTunnel.Foundation.ByteCodec

/-!
# The frame encoding

`FrameWriter::send` serializes a frame with `bincode` and hands the bytes to the transport as one
message. `Frame.encode` is that encoding: little-endian integers of fixed width, a `u32` for the
variant of an enumeration, a `u64` length in front of strings, byte strings and lists, and a tag
byte in front of optional values. Addresses are written as their octets, and a session id as a byte
string. `length_encode` gives the size of an encoding.
-/

set_option autoImplicit false
set_option relaxedAutoImplicit false

namespace EntroTunnel.Core

open EntroTunnel.Foundation

/-- The variant of an enumeration. -/
def encodeVariant (index : ℕ) : Bytes :=
  leBytes 4 index

def encodeU16 (value : UInt16) : Bytes :=
  leBytes 2 value.toNat

def encodeIpv4 (addr : Ipv4Addr) : Bytes :=
  beBytes 4 addr.toNat

def encodeIpv6 (addr : Ipv6Addr) : Bytes :=
  beBytes 16 addr.toNat

def encodeUuid (id : Uuid) : Bytes :=
  encodeBytes (beBytes 16 id.toNat)

def SessionMode.encode : SessionMode → Bytes
  | .globalProxy => encodeVariant 0
  | .systemProxy => encodeVariant 1
  | .httpProxy => encodeVariant 2
  | .vpn => encodeVariant 3

def SocketAddr.encode (addr : SocketAddr) : Bytes :=
  match addr.ip with
  | .v4 ip => encodeVariant 0 ++ encodeIpv4 ip ++ encodeU16 addr.port
  | .v6 ip => encodeVariant 1 ++ encodeIpv6 ip ++ encodeU16 addr.port

def TargetAddr.encode : TargetAddr → Bytes
  | .ip addr => encodeVariant 0 ++ addr.encode
  | .domain host port => encodeVariant 1 ++ encodeString host ++ encodeU16 port

def Hello.encode (hello : Hello) : Bytes :=
  encodeU16 hello.version ++ encodeString hello.token ++ hello.mode.encode ++
    encodeOption encodeIpv4 hello.requestedIp ++ encodeOption encodeString hello.clientName ++
    encodeBool hello.joinVpn

def Welcome.encode (welcome : Welcome) : Bytes :=
  encodeUuid welcome.sessionId ++ encodeIpv4 welcome.assignedIp ++ [welcome.prefixLen] ++
    encodeIpv4 welcome.gateway ++ encodeU16 welcome.mtu ++ encodeList encodeIpv4 welcome.dns ++
    encodeOption encodeIpv6 welcome.assignedIp6 ++ [welcome.prefix6] ++
    encodeOption encodeIpv6 welcome.gateway6 ++ encodeList encodeIpv6 welcome.dns6

def PeerInfo.encode (peer : PeerInfo) : Bytes :=
  encodeIpv4 peer.ip ++ encodeString peer.name ++ encodeOption encodeIpv6 peer.ip6

/-- `bincode::serialize` of a frame. -/
def Frame.encode : Frame → Bytes
  | .hello message => encodeVariant 0 ++ message.encode
  | .welcome message => encodeVariant 1 ++ message.encode
  | .reject reason => encodeVariant 2 ++ encodeString reason
  | .ping => encodeVariant 3
  | .pong => encodeVariant 4
  | .packet bytes => encodeVariant 5 ++ encodeBytes bytes
  | .streamOpen id target => encodeVariant 6 ++ leBytes 4 id.toNat ++ target.encode
  | .streamData id data => encodeVariant 7 ++ leBytes 4 id.toNat ++ encodeBytes data
  | .streamClose id error =>
    encodeVariant 8 ++ leBytes 4 id.toNat ++ encodeOption encodeString error
  | .getPeers => encodeVariant 9
  | .peerList peers => encodeVariant 10 ++ encodeList PeerInfo.encode peers

/-! ### Sizes -/

@[simp] theorem length_encodeVariant (index : ℕ) : (encodeVariant index).length = 4 :=
  length_leBytes 4 index

@[simp] theorem length_encodeU16 (value : UInt16) : (encodeU16 value).length = 2 :=
  length_leBytes 2 value.toNat

@[simp] theorem length_encodeIpv4 (addr : Ipv4Addr) : (encodeIpv4 addr).length = 4 :=
  length_beBytes 4 addr.toNat

@[simp] theorem length_encodeIpv6 (addr : Ipv6Addr) : (encodeIpv6 addr).length = 16 :=
  length_beBytes 16 addr.toNat

@[simp] theorem length_encodeUuid (id : Uuid) : (encodeUuid id).length = 24 := by
  rw [encodeUuid, length_encodeBytes, length_beBytes]

@[simp] theorem SessionMode.length_encode (mode : SessionMode) : mode.encode.length = 4 := by
  cases mode <;> rfl

/-- The size of a stream's destination. -/
def TargetAddr.size : TargetAddr → ℕ
  | .ip ⟨.v4 _, _⟩ => 14
  | .ip ⟨.v6 _, _⟩ => 26
  | .domain host _ => 14 + host.utf8ByteSize

@[simp] theorem TargetAddr.length_encode (target : TargetAddr) :
    target.encode.length = target.size := by
  rcases target with ⟨ip, port⟩ | ⟨host, port⟩
  · cases ip <;> simp [encode, SocketAddr.encode, size]
  · simp [encode, size]
    omega

/-- The size of a peer in a peer list. -/
def PeerInfo.size (peer : PeerInfo) : ℕ :=
  13 + peer.name.utf8ByteSize + if peer.ip6.isSome then 16 else 0

@[simp] theorem PeerInfo.length_encode (peer : PeerInfo) : peer.encode.length = peer.size := by
  obtain ⟨ip, name, ip6⟩ := peer
  cases ip6 <;> simp [encode, size, optionSize] <;> omega

/-- The number of bytes of a frame's encoding. -/
def Frame.size : Frame → ℕ
  | .hello message => 4 + message.encode.length
  | .welcome message => 4 + message.encode.length
  | .reject reason => 12 + reason.utf8ByteSize
  | .ping => 4
  | .pong => 4
  | .packet bytes => 12 + bytes.length
  | .streamOpen _ target => 8 + target.size
  | .streamData _ data => 16 + data.length
  | .streamClose _ error => 9 + optionSize (fun text ↦ 8 + text.utf8ByteSize) error
  | .getPeers => 4
  | .peerList peers => 12 + (peers.map fun peer ↦ peer.size).sum

theorem Frame.length_encode (frame : Frame) : frame.encode.length = frame.size := by
  cases frame <;> simp [encode, size] <;> omega

end EntroTunnel.Core
