import EntroTunnel.Core.Wire

/-!
# The client profile

The records of `client-core/src/config.rs` that a client is run from: servers, split-tunnel rules
and the `ClientConfig` with all of its settings. Session drivers, chains and network setup each read
their own part of it. `ClientConfig.activeServer?` chooses the server of a session, `resolveHops`
the servers of a chain (`client-core/src/chain.rs`). The desktop app keeps a `Profile`, which has
the servers, and `ConnectionSettings`, which have everything else, and composes them to a
`ClientConfig`.
-/

set_option autoImplicit false
set_option relaxedAutoImplicit false

namespace EntroTunnel.Client

open EntroTunnel.Core

/-- One server endpoint the client can connect to. -/
structure ServerEntry where
  name : String
  host : String
  port : UInt16
  transport : TransportKind := .tcp
  token : String
  noisePsk : String
  tlsSkipVerify : Bool := false
  serverName : Option String := none
  deriving DecidableEq, Repr

/-- `ServerEntry::sni`. -/
def ServerEntry.sni (server : ServerEntry) : String :=
  server.serverName.getD server.host

/-- A split-tunnel rule: this destination goes via that interface. -/
structure RouteRule where
  target : String
  via : String
  gateway : Option Ipv4Addr := none
  deriving DecidableEq, Repr

/-- How the global-proxy catch-all interacts with the split-tunnel rules. -/
inductive SplitMode
  | blacklist
  | whitelist
  deriving DecidableEq, Repr

/-- A client profile as the command line loads it and as the desktop app composes it. The server in
flat fields is that of older builds, for a profile without a list of servers. -/
structure ClientConfig where
  name : String := ""
  selectedServer : Option String := none
  mode : SessionMode
  requestedIp : Option Ipv4Addr := none
  clientName : Option String := none
  tunName : String := "et0"
  httpListen : String := "127.0.0.1:7890"
  joinVpn : Bool := false
  serverHost : String := ""
  serverPort : UInt16 := 0
  transport : TransportKind := .tcp
  token : String := ""
  noisePsk : String := ""
  tlsSkipVerify : Bool := false
  serverName : Option String := none
  servers : List ServerEntry := []
  routes : List RouteRule := []
  splitMode : SplitMode := .blacklist
  chain : List String := []
  ipv6Killswitch : Bool := true
  deriving DecidableEq, Repr

/-- The server that `ClientConfig::active_server` returns: the selected entry, the first one, or the
flat fields. -/
def ClientConfig.activeServer? (cfg : ClientConfig) : Option ServerEntry :=
  match cfg.servers with
  | first :: rest =>
    match cfg.selectedServer with
    | some name => some (((first :: rest).find? fun server ↦ server.name = name).getD first)
    | none => some first
  | [] =>
    if cfg.serverHost = "" then none
    else
      some
        { name := "default"
          host := cfg.serverHost
          port := cfg.serverPort
          transport := cfg.transport
          token := cfg.token
          noisePsk := cfg.noisePsk
          tlsSkipVerify := cfg.tlsSkipVerify
          serverName := cfg.serverName }

/-- `ClientConfig::active_server`. -/
def ClientConfig.activeServer (cfg : ClientConfig) : Except String ServerEntry :=
  match cfg.activeServer? with
  | some server => .ok server
  | none => .error "no servers configured"

/-- A server-only client profile. -/
structure Profile where
  name : String
  selectedServer : Option String := none
  servers : List ServerEntry := []
  deriving DecidableEq, Repr

/-- `Profile::active_server`. -/
def Profile.activeServer (profile : Profile) : Except String ServerEntry :=
  match profile.servers with
  | [] => .error "profile has no servers"
  | first :: rest =>
    match profile.selectedServer with
    | some name => .ok (((first :: rest).find? fun server ↦ server.name = name).getD first)
    | none => .ok first

/-- The server-config portion of a full profile. -/
def ClientConfig.toProfile (cfg : ClientConfig) : Profile where
  name := cfg.name
  selectedServer := cfg.selectedServer
  servers := cfg.servers

/-- The settings that are chosen on the device. -/
structure ConnectionSettings where
  mode : SessionMode := .globalProxy
  requestedIp : Option Ipv4Addr := none
  clientName : Option String := none
  tunName : String := "et0"
  httpListen : String := "127.0.0.1:7890"
  joinVpn : Bool := false
  routes : List RouteRule := []
  splitMode : SplitMode := .blacklist
  chain : List String := []
  ipv6Killswitch : Bool := true
  deriving DecidableEq, Repr

/-- `ClientConfig::compose`. -/
def ClientConfig.compose (profile : Profile) (settings : ConnectionSettings) : ClientConfig where
  name := profile.name
  selectedServer := profile.selectedServer
  mode := settings.mode
  requestedIp := settings.requestedIp
  clientName := settings.clientName
  tunName := settings.tunName
  httpListen := settings.httpListen
  joinVpn := settings.joinVpn
  serverHost := ""
  serverPort := 0
  transport := .tcp
  token := ""
  noisePsk := ""
  tlsSkipVerify := false
  serverName := none
  servers := profile.servers
  routes := settings.routes
  splitMode := settings.splitMode
  chain := settings.chain
  ipv6Killswitch := settings.ipv6Killswitch

/-- `chain::resolve_hops`: names without an entry are skipped. -/
def resolveHops (chain : List String) (servers : List ServerEntry) : List ServerEntry :=
  chain.filterMap fun name ↦ servers.find? fun server ↦ server.name = name

/-- The profile that `spawn_vpn_lan` runs its session from. -/
def spawnVpnLan (cfg : ClientConfig) (hop0 : ServerEntry) : ClientConfig :=
  { cfg with
    mode := .vpn
    joinVpn := false
    chain := []
    selectedServer := some hop0.name
    tunName := cfg.tunName ++ "v" }

end EntroTunnel.Client
