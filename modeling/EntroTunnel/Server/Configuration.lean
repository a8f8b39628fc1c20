import EntroTunnel.Core.Wire

/-!
# Server configuration and admission

The part of `server.toml` that decides about sessions, and the handshake of `handle_connection` up
to the point where a session is registered: `admission` judges the first frame of a connection
against the configuration, and `welcome` is the reply to an accepted one. A subnet stands for what
its text parses to, `none` when it does not parse.
-/

set_option autoImplicit false
set_option relaxedAutoImplicit false

namespace EntroTunnel.Server

open EntroTunnel.Core

/-- Bumped on incompatible wire changes. -/
def protocolVersion : UInt16 := 2

/-- A client peer record, matched by token. -/
structure PeerConfig where
  name : String
  token : String
  ip : Ipv4Addr
  enabled : Bool := true
  allowGlobal : Bool := true
  allowHttpProxy : Bool := true
  deriving DecidableEq, Repr

/-- Virtual network parameters. -/
structure NetworkConfig where
  subnet : Option Ipv4Net
  gateway : Ipv4Addr
  mtu : UInt16
  dns : List Ipv4Addr
  subnet6 : Option Ipv6Net
  gateway6 : Option Ipv6Addr
  dns6 : List Ipv6Addr
  deriving DecidableEq, Repr

/-- The server configuration. -/
structure ServerConfig where
  network : NetworkConfig
  peers : List PeerConfig
  deriving DecidableEq, Repr

/-- The first peer record with the token. -/
def ServerConfig.findPeer (config : ServerConfig) (token : String) : Option PeerConfig :=
  config.peers.find? fun peer ↦ peer.token = token

/-- What becomes of a connection after its first frame. -/
inductive Admission
  | closed
  | rejected (reason : String)
  | accepted (peer : PeerConfig) (hello : Hello)
  deriving DecidableEq, Repr

/-- The handshake of `handle_connection`; `none` is a first frame that could not be read. -/
def admission (config : ServerConfig) : Option Frame → Admission
  | some (.hello hello) =>
    if hello.version ≠ protocolVersion then
      .rejected ("protocol version mismatch (server " ++ toString protocolVersion.toNat ++
        ", client " ++ toString hello.version.toNat ++ ")")
    else
      match config.findPeer hello.token with
      | none => .rejected "unknown token"
      | some peer =>
        if peer.enabled then
          if hello.mode = .globalProxy ∧ peer.allowGlobal = false then
            .rejected "global proxy not allowed for this peer"
          else .accepted peer hello
        else .rejected "peer is disabled"
  | _ => .closed

/-- Part of the VPN peer LAN: `vpn` mode, or any other mode with `join_vpn`. -/
def vpnMember (hello : Hello) : Bool :=
  hello.mode = .vpn || hello.joinVpn

/-- A client's virtual IPv6 address: the network bits of the ULA subnet with the client's IPv4
address in the low 32 bits. -/
def deriveIpv6 (subnet6 : Ipv6Net) (addr : Ipv4Addr) : Ipv6Addr :=
  let network := subnet6.addr &&& (BitVec.allOnes 128 <<< (128 - subnet6.prefixLen))
  (network.extractLsb' 32 96 ++ addr).cast rfl

/-- Peers with different IPv4 addresses get different IPv6 addresses, whatever the subnets. -/
theorem eq_of_deriveIpv6_eq {first second : Ipv6Net} {addr other : Ipv4Addr}
    (hsame : deriveIpv6 first addr = deriveIpv6 second other) : addr = other := by
  have hlow : ∀ (high : BitVec 96) (low : BitVec 32), (high ++ low).setWidth 32 = low := by
    intro high low
    rw [BitVec.setWidth_append]
    simp
  calc addr = (deriveIpv6 first addr).setWidth 32 := (hlow _ _).symm
    _ = (deriveIpv6 second other).setWidth 32 := congrArg (BitVec.setWidth 32) hsame
    _ = other := hlow _ _

/-- The reply to an accepted connection. IPv6 parameters are given only when the server has IPv6
egress. -/
def welcome (config : ServerConfig) (ipv6 : Bool) (sessionId : Uuid) (peer : PeerConfig) :
    Welcome :=
  let network := config.network
  let subnet6 := if ipv6 then network.subnet6 else none
  { sessionId
    assignedIp := peer.ip
    prefixLen := (network.subnet.map fun net ↦ UInt8.ofNat net.prefixLen).getD 24
    gateway := network.gateway
    mtu := network.mtu
    dns := network.dns
    assignedIp6 := subnet6.map fun net ↦ deriveIpv6 net peer.ip
    prefix6 := (subnet6.map fun net ↦ UInt8.ofNat net.prefixLen).getD 0
    gateway6 := if subnet6.isSome then network.gateway6 else none
    dns6 := if subnet6.isSome then network.dns6 else [] }

/-- What an accepted connection has passed. -/
theorem admission_accepted {config : ServerConfig} {first : Option Frame} {peer : PeerConfig}
    {hello : Hello} (haccepted : admission config first = .accepted peer hello) :
    first = some (.hello hello) ∧ hello.version = protocolVersion ∧
      config.findPeer hello.token = some peer ∧ peer.enabled = true ∧
        ¬ (hello.mode = .globalProxy ∧ peer.allowGlobal = false) := by
  unfold admission at haccepted
  split at haccepted
  · rename_i sent
    split_ifs at haccepted with hversion
    · split at haccepted
      · exact absurd haccepted nofun
      · rename_i found hfound
        split_ifs at haccepted with henabled hglobal
        obtain ⟨rfl, rfl⟩ := Admission.accepted.inj haccepted
        exact ⟨rfl, not_not.mp hversion, hfound, henabled, hglobal⟩
  · exact absurd haccepted nofun

/-! ### A server -/

section Example

/-- A peer who is not allowed global routing. -/
def lanPeer : PeerConfig :=
  { name := "laptop", token := "secret", ip := 0x0a420002#32, allowGlobal := false }

/-- A dual-stack server for `10.66.0.0/24` and `fd66::/64` with one peer. -/
def lanServer : ServerConfig where
  network :=
    { subnet := some ⟨0x0a420000#32, 24, by decide⟩
      gateway := 0x0a420001#32
      mtu := 1380
      dns := []
      subnet6 := some ⟨0xfd660000000000000000000000000000#128, 64, by decide⟩
      gateway6 := some 0xfd660000000000000000000000000001#128
      dns6 := [] }
  peers := [lanPeer]

/-- The greeting of that peer in a mode. -/
def lanHello (mode : SessionMode) : Hello where
  version := 2
  token := "secret"
  mode := mode
  requestedIp := none
  clientName := none
  joinVpn := false

/-- The peer is admitted to the VPN, but not to global-proxy mode. -/
example : admission lanServer (some (.hello (lanHello .vpn))) = .accepted lanPeer (lanHello .vpn) ∧
    admission lanServer (some (.hello (lanHello .globalProxy))) =
      .rejected "global proxy not allowed for this peer" := by
  decide +kernel

end Example

end EntroTunnel.Server
