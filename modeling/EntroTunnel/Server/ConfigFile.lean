import EntroTunnel.Core.AddressParse
import EntroTunnel.Core.Psk
import EntroTunnel.Desktop.ProfileExport
import EntroTunnel.Server.PeerRequests

/-!
# The configuration file of the server

`server.toml` with all of its fields (`server/src/config.rs`): how a `ServerConfig` is written and
read, and the configuration that `gen-config` writes.

Every field is written except an option without a value. Two options have a value for their
default, the IPv6 subnet and gateway, so that `none` does not come back: `readsBack_config` reads a
configuration back as its `reloaded`.
-/

set_option autoImplicit false
set_option relaxedAutoImplicit false

namespace EntroTunnel.Server.File

open EntroTunnel.Core EntroTunnel.Client EntroTunnel.Desktop EntroTunnel.Foundation
  EntroTunnel.Foundation.Document

/-! ### The records -/

/-- One listening socket. -/
structure ListenerConfig where
  transport : TransportKind
  bind : String
  tls : Bool := true
  deriving DecidableEq, Repr

def defaultSubnet6 : Option String :=
  some "fd66::/64"

def defaultGateway6 : Option Ipv6Addr :=
  parseIpv6 "fd66::1".toList

def defaultDns6 : List Ipv6Addr :=
  ["2001:4860:4860::8888", "2606:4700:4700::1111"].filterMap fun text ↦ parseIpv6 text.toList

/-- Virtual network parameters. -/
structure NetworkConfig where
  subnet : String
  gateway : Ipv4Addr
  mtu : UInt16
  dns : List Ipv4Addr
  tunName : String := "et0"
  egressIface : Option String := none
  subnet6 : Option String := defaultSubnet6
  gateway6 : Option Ipv6Addr := defaultGateway6
  dns6 : List Ipv6Addr := defaultDns6
  deriving DecidableEq, Repr

/-- Crypto material. -/
structure SecurityConfig where
  noisePsk : String
  tlsCertPath : Option String := none
  tlsKeyPath : Option String := none
  deriving DecidableEq, Repr

/-- Web admin panel. -/
structure WebConfig where
  bind : String
  adminToken : String
  deriving DecidableEq, Repr

structure ServerConfig where
  listeners : List ListenerConfig
  network : NetworkConfig
  security : SecurityConfig
  web : WebConfig
  peers : List PeerConfig := []
  deriving DecidableEq, Repr

/-! ### Reading -/

def readIpv6 : Reader Ipv6Addr := fun document ↦
  (readString document).bind fun text ↦ parseIpv6 text.toList

def readListener : Reader ListenerConfig := fun document ↦ do
  let field ← slots ["transport", "bind", "tls"] document
  let transport ← required field "transport" readTransport
  let bind ← required field "bind" readString
  let tls ← defaulted field "tls" true readBool
  return { transport, bind, tls }

def networkKeys : List String :=
  ["subnet", "gateway", "mtu", "dns", "tun_name", "egress_iface", "subnet6", "gateway6", "dns6"]

def readNetwork : Reader NetworkConfig := fun document ↦ do
  let field ← slots networkKeys document
  let subnet ← required field "subnet" readString
  let gateway ← required field "gateway" readIpv4
  let mtu ← required field "mtu" readU16
  let dns ← required field "dns" (readList readIpv4)
  let tunName ← defaulted field "tun_name" "et0" readString
  let egressIface ← defaulted field "egress_iface" none (readOption readString)
  let subnet6 ← defaulted field "subnet6" defaultSubnet6 (readOption readString)
  let gateway6 ← defaulted field "gateway6" defaultGateway6 (readOption readIpv6)
  let dns6 ← defaulted field "dns6" defaultDns6 (readList readIpv6)
  return { subnet, gateway, mtu, dns, tunName, egressIface, subnet6, gateway6, dns6 }

def readSecurity : Reader SecurityConfig := fun document ↦ do
  let field ← slots ["noise_psk", "tls_cert_path", "tls_key_path"] document
  let noisePsk ← required field "noise_psk" readString
  let tlsCertPath ← defaulted field "tls_cert_path" none (readOption readString)
  let tlsKeyPath ← defaulted field "tls_key_path" none (readOption readString)
  return { noisePsk, tlsCertPath, tlsKeyPath }

def readWeb : Reader WebConfig := fun document ↦ do
  let field ← slots ["bind", "admin_token"] document
  let bind ← required field "bind" readString
  let adminToken ← required field "admin_token" readString
  return { bind, adminToken }

def readPeer : Reader PeerConfig := fun document ↦ do
  let field ← slots ["name", "token", "ip", "enabled", "allow_global", "allow_http_proxy"] document
  let name ← required field "name" readString
  let token ← required field "token" readString
  let ip ← required field "ip" readIpv4
  let enabled ← defaulted field "enabled" true readBool
  let allowGlobal ← defaulted field "allow_global" true readBool
  let allowHttpProxy ← defaulted field "allow_http_proxy" true readBool
  return { name, token, ip, enabled, allowGlobal, allowHttpProxy }

def readConfig : Reader ServerConfig := fun document ↦ do
  let field ← slots ["listeners", "network", "security", "web", "peers"] document
  let listeners ← required field "listeners" (readList readListener)
  let network ← required field "network" readNetwork
  let security ← required field "security" readSecurity
  let web ← required field "web" readWeb
  let peers ← defaulted field "peers" [] (readList readPeer)
  return { listeners, network, security, web, peers }

/-! ### Writing -/

def writeIpv4 (addr : Ipv4Addr) : Document :=
  .string (ipv4Text addr)

def writeIpv6 (addr : Ipv6Addr) : Document :=
  .string (ipv6Text addr)

def writeGateway6 : Option Ipv6Addr → Document
  | none => .null
  | some addr => writeIpv6 addr

def listenerFields (listener : ListenerConfig) : List Field :=
  [⟨"transport", .string (transportText listener.transport), false⟩,
    ⟨"bind", .string listener.bind, false⟩, ⟨"tls", .bool listener.tls, false⟩]

def writeListener (listener : ListenerConfig) : Document :=
  .object (written (listenerFields listener))

def networkFields (network : NetworkConfig) : List Field :=
  [⟨"subnet", .string network.subnet, false⟩, ⟨"gateway", writeIpv4 network.gateway, false⟩,
    ⟨"mtu", .integer network.mtu.toNat, false⟩,
    ⟨"dns", .array (network.dns.map writeIpv4), false⟩,
    ⟨"tun_name", .string network.tunName, false⟩,
    ⟨"egress_iface", writeOption network.egressIface, network.egressIface.isNone⟩,
    ⟨"subnet6", writeOption network.subnet6, network.subnet6.isNone⟩,
    ⟨"gateway6", writeGateway6 network.gateway6, network.gateway6.isNone⟩,
    ⟨"dns6", .array (network.dns6.map writeIpv6), false⟩]

def writeNetwork (network : NetworkConfig) : Document :=
  .object (written (networkFields network))

def securityFields (security : SecurityConfig) : List Field :=
  [⟨"noise_psk", .string security.noisePsk, false⟩,
    ⟨"tls_cert_path", writeOption security.tlsCertPath, security.tlsCertPath.isNone⟩,
    ⟨"tls_key_path", writeOption security.tlsKeyPath, security.tlsKeyPath.isNone⟩]

def writeSecurity (security : SecurityConfig) : Document :=
  .object (written (securityFields security))

def webFields (web : WebConfig) : List Field :=
  [⟨"bind", .string web.bind, false⟩, ⟨"admin_token", .string web.adminToken, false⟩]

def writeWeb (web : WebConfig) : Document :=
  .object (written (webFields web))

def peerFields (peer : PeerConfig) : List Field :=
  [⟨"name", .string peer.name, false⟩, ⟨"token", .string peer.token, false⟩,
    ⟨"ip", writeIpv4 peer.ip, false⟩, ⟨"enabled", .bool peer.enabled, false⟩,
    ⟨"allow_global", .bool peer.allowGlobal, false⟩,
    ⟨"allow_http_proxy", .bool peer.allowHttpProxy, false⟩]

def writePeer (peer : PeerConfig) : Document :=
  .object (written (peerFields peer))

def configFields (config : ServerConfig) : List Field :=
  [⟨"listeners", .array (config.listeners.map writeListener), false⟩,
    ⟨"network", writeNetwork config.network, false⟩,
    ⟨"security", writeSecurity config.security, false⟩, ⟨"web", writeWeb config.web, false⟩,
    ⟨"peers", .array (config.peers.map writePeer), false⟩]

def writeConfig (config : ServerConfig) : Document :=
  .object (written (configFields config))

/-- The text that `ServerConfig::save` writes. -/
def ServerConfig.toToml (library : Library) (config : ServerConfig) : Except String String :=
  library.toToml (writeConfig config)

/-- `ServerConfig::load`, from what reading the file at the path returns. -/
def ServerConfig.load (library : Library) (path : String) (file : Except String String) :
    Except String ServerConfig :=
  match file with
  | .error error => .error ("io: " ++ error)
  | .ok text =>
    (library.fromText readConfig (library.toml text)).mapError fun error ↦
      "config: parse " ++ path ++ ": " ++ error

/-- `ServerConfig::template`, for the random bytes of the key and the two tokens. -/
def ServerConfig.template (key : Psk) (adminToken peerToken : String) : ServerConfig where
  listeners := [{ transport := .tcp, bind := "0.0.0.0:8443", tls := true }]
  network := {
    subnet := "10.66.0.0/24"
    gateway := ipv4 10 66 0 1
    mtu := 1380
    dns := [ipv4 8 8 8 8, ipv4 1 1 1 1]
    tunName := "et0"
    egressIface := none
    subnet6 := defaultSubnet6
    gateway6 := defaultGateway6
    dns6 := defaultDns6 }
  security := { noisePsk := generatePsk key, tlsCertPath := none, tlsKeyPath := none }
  web := { bind := "127.0.0.1:9000", adminToken := adminToken }
  peers := [{
    name := "example", token := peerToken, ip := ipv4 10 66 0 2, enabled := true
    allowGlobal := true, allowHttpProxy := true }]

/-- What is read back of a configuration. -/
def ServerConfig.reloaded (config : ServerConfig) : ServerConfig :=
  { config with
    network := { config.network with
      subnet6 := config.network.subnet6.or defaultSubnet6
      gateway6 := config.network.gateway6.or defaultGateway6 } }

/-- The IPv6 subnet and gateway have a value. -/
def ServerConfig.HasIpv6 (config : ServerConfig) : Prop :=
  config.network.subnet6.isSome = true ∧ config.network.gateway6.isSome = true

theorem ServerConfig.reloaded_eq_iff (config : ServerConfig) :
    config.reloaded = config ↔ config.HasIpv6 := by
  obtain ⟨listeners, ⟨subnet, gateway, mtu, dns, tunName, egressIface, subnet6, gateway6, dns6⟩,
    security, web, peers⟩ := config
  cases subnet6 with
  | none => simp [reloaded, HasIpv6, defaultSubnet6]
  | some subnet6 =>
    cases gateway6 with
    | none =>
      have hdefault : defaultGateway6 ≠ none := by decide +kernel
      simp [reloaded, HasIpv6, hdefault]
    | some gateway6 => simp [reloaded, HasIpv6]

/-! ### What is read back -/

theorem readsBack_ipv4 (addr : Ipv4Addr) : ReadsBack readIpv4 (writeIpv4 addr) addr := by
  intro other hsame
  rw [hsame.string, readIpv4, readString, Option.bind_some, parseIpv4_ipv4Text]

theorem readsBack_ipv6 (addr : Ipv6Addr) : ReadsBack readIpv6 (writeIpv6 addr) addr := by
  intro other hsame
  rw [hsame.string, readIpv6, readString, Option.bind_some, parseIpv6_ipv6Text]

theorem readsBack_listener (listener : ListenerConfig) :
    ReadsBack readListener (writeListener listener) listener := by
  intro other hsame
  have hkeys : ((listenerFields listener).map Field.key).Nodup :=
    show ["transport", "bind", "tls"].Nodup by decide
  obtain ⟨field, hslots, hrecords⟩ := slots_written hsame hkeys ["transport", "bind", "tls"]
  have htransport := hrecords.required 0 rfl (readsBack_transport listener.transport)
  have hbind := hrecords.required 1 rfl (readsBack_string listener.bind)
  have htls : defaulted field "tls" true readBool = some listener.tls :=
    hrecords.present 2 rfl (readsBack_bool listener.tls)
  simp only [readListener, hslots, htransport, hbind, htls, Option.bind_eq_bind, Option.bind_some,
    Option.pure_def]

/-- An option whose default has a value. -/
theorem or_of_isNone {α : Type*} {option default : Option α} (hnone : option.isNone = true) :
    option.or default = default := by
  rw [Option.isNone_iff_eq_none.mp hnone, Option.none_or]

/-- A network is read back with the defaults of the two options. -/
theorem readsBack_network (network : NetworkConfig) :
    ReadsBack readNetwork (writeNetwork network)
      { network with
        subnet6 := network.subnet6.or defaultSubnet6
        gateway6 := network.gateway6.or defaultGateway6 } := by
  intro other hsame
  have hkeys : ((networkFields network).map Field.key).Nodup := show networkKeys.Nodup by decide
  obtain ⟨field, hslots, hrecords⟩ := slots_written hsame hkeys networkKeys
  have hsubnet := hrecords.required 0 rfl (readsBack_string network.subnet)
  have hgateway := hrecords.required 1 rfl (readsBack_ipv4 network.gateway)
  have hmtu := hrecords.required 2 rfl (readsBack_port network.mtu)
  have hdns := hrecords.required 3 rfl
    (readsBack_list fun addr (_ : addr ∈ network.dns) ↦ readsBack_ipv4 addr)
  have htun : defaulted field "tun_name" "et0" readString = some network.tunName :=
    hrecords.present 4 rfl (readsBack_string network.tunName)
  have hegress := hrecords.defaulted 5 rfl Option.isNone_iff_eq_none.mp readsBack_writeOption
  have hsubnet6 : defaulted field "subnet6" defaultSubnet6 (readOption readString) =
      some (network.subnet6.or defaultSubnet6) := by
    refine hrecords.defaulted 6 rfl or_of_isNone fun hsome ↦ ?_
    obtain ⟨text, htext⟩ := Option.isSome_iff_exists.mp (Option.isNone_eq_false_iff.mp hsome)
    rw [htext, Option.some_or]
    exact readsBack_option (readsBack_string text) rfl
  have hgateway6 : defaulted field "gateway6" defaultGateway6 (readOption readIpv6) =
      some (network.gateway6.or defaultGateway6) := by
    refine hrecords.defaulted 7 rfl or_of_isNone fun hsome ↦ ?_
    obtain ⟨addr, haddr⟩ := Option.isSome_iff_exists.mp (Option.isNone_eq_false_iff.mp hsome)
    rw [haddr, Option.some_or]
    exact readsBack_option (readsBack_ipv6 addr) rfl
  have hdns6 : defaulted field "dns6" defaultDns6 (readList readIpv6) = some network.dns6 :=
    hrecords.present 8 rfl (readsBack_list fun addr _ ↦ readsBack_ipv6 addr)
  simp only [readNetwork, hslots, hsubnet, hgateway, hmtu, hdns, htun, hegress, hsubnet6, hgateway6,
    hdns6, Option.bind_eq_bind, Option.bind_some, Option.pure_def]

theorem readsBack_security (security : SecurityConfig) :
    ReadsBack readSecurity (writeSecurity security) security := by
  intro other hsame
  have hkeys : ((securityFields security).map Field.key).Nodup :=
    show ["noise_psk", "tls_cert_path", "tls_key_path"].Nodup by decide
  obtain ⟨field, hslots, hrecords⟩ :=
    slots_written hsame hkeys ["noise_psk", "tls_cert_path", "tls_key_path"]
  have hpsk := hrecords.required 0 rfl (readsBack_string security.noisePsk)
  have hcert := hrecords.defaulted 1 rfl Option.isNone_iff_eq_none.mp readsBack_writeOption
  have hkey := hrecords.defaulted 2 rfl Option.isNone_iff_eq_none.mp readsBack_writeOption
  simp only [readSecurity, hslots, hpsk, hcert, hkey, Option.bind_eq_bind, Option.bind_some,
    Option.pure_def]

theorem readsBack_web (web : WebConfig) : ReadsBack readWeb (writeWeb web) web := by
  intro other hsame
  have hkeys : ((webFields web).map Field.key).Nodup :=
    show ["bind", "admin_token"].Nodup by decide
  obtain ⟨field, hslots, hrecords⟩ := slots_written hsame hkeys ["bind", "admin_token"]
  have hbind := hrecords.required 0 rfl (readsBack_string web.bind)
  have htoken := hrecords.required 1 rfl (readsBack_string web.adminToken)
  simp only [readWeb, hslots, hbind, htoken, Option.bind_eq_bind, Option.bind_some,
    Option.pure_def]

theorem readsBack_peer (peer : PeerConfig) : ReadsBack readPeer (writePeer peer) peer := by
  intro other hsame
  have hkeys : ((peerFields peer).map Field.key).Nodup :=
    show ["name", "token", "ip", "enabled", "allow_global", "allow_http_proxy"].Nodup by decide
  obtain ⟨field, hslots, hrecords⟩ := slots_written hsame hkeys
    ["name", "token", "ip", "enabled", "allow_global", "allow_http_proxy"]
  have hname := hrecords.required 0 rfl (readsBack_string peer.name)
  have htoken := hrecords.required 1 rfl (readsBack_string peer.token)
  have hip := hrecords.required 2 rfl (readsBack_ipv4 peer.ip)
  have henabled : defaulted field "enabled" true readBool = some peer.enabled :=
    hrecords.present 3 rfl (readsBack_bool peer.enabled)
  have hglobal : defaulted field "allow_global" true readBool = some peer.allowGlobal :=
    hrecords.present 4 rfl (readsBack_bool peer.allowGlobal)
  have hproxy : defaulted field "allow_http_proxy" true readBool = some peer.allowHttpProxy :=
    hrecords.present 5 rfl (readsBack_bool peer.allowHttpProxy)
  simp only [readPeer, hslots, hname, htoken, hip, henabled, hglobal, hproxy, Option.bind_eq_bind,
    Option.bind_some, Option.pure_def]

/-- A configuration is read back with every field as it was, but for the two options. -/
theorem readsBack_config (config : ServerConfig) :
    ReadsBack readConfig (writeConfig config) config.reloaded := by
  intro other hsame
  have hkeys : ((configFields config).map Field.key).Nodup :=
    show ["listeners", "network", "security", "web", "peers"].Nodup by decide
  obtain ⟨field, hslots, hrecords⟩ :=
    slots_written hsame hkeys ["listeners", "network", "security", "web", "peers"]
  have hlisteners := hrecords.required 0 rfl
    (readsBack_list fun listener (_ : listener ∈ config.listeners) ↦ readsBack_listener listener)
  have hnetwork := hrecords.required 1 rfl (readsBack_network config.network)
  have hsecurity := hrecords.required 2 rfl (readsBack_security config.security)
  have hweb := hrecords.required 3 rfl (readsBack_web config.web)
  have hpeers : defaulted field "peers" [] (readList readPeer) = some config.peers :=
    hrecords.present 4 rfl (readsBack_list fun peer _ ↦ readsBack_peer peer)
  simp only [readConfig, hslots, hlisteners, hnetwork, hsecurity, hweb, hpeers,
    Option.bind_eq_bind, Option.bind_some, Option.pure_def]
  rfl

/-! ### What the TOML library is given -/

theorem plain_gateway6 {option : Option Ipv6Addr} (hsome : option.isNone = false) :
    Plain (writeGateway6 option) := by
  cases option with
  | none => cases hsome
  | some addr => exact .string _

theorem plain_listener (listener : ListenerConfig) : Plain (writeListener listener) := by
  refine plain_written (show ["transport", "bind", "tls"].Nodup by decide) ?_
  simp only [listenerFields, List.forall_mem_cons]
  exact ⟨fun _ ↦ .string _, fun _ ↦ .string _, fun _ ↦ .bool _, List.forall_mem_nil _⟩

theorem plain_network (network : NetworkConfig) : Plain (writeNetwork network) := by
  refine plain_written (show networkKeys.Nodup by decide) ?_
  simp only [networkFields, List.forall_mem_cons]
  exact ⟨fun _ ↦ .string _, fun _ ↦ .string _, fun _ ↦ plain_port _,
    fun _ ↦ plain_list fun _ _ ↦ .string _, fun _ ↦ .string _, plain_writeOption,
    plain_writeOption, plain_gateway6, fun _ ↦ plain_list fun _ _ ↦ .string _,
    List.forall_mem_nil _⟩

theorem plain_security (security : SecurityConfig) : Plain (writeSecurity security) := by
  refine plain_written (show ["noise_psk", "tls_cert_path", "tls_key_path"].Nodup by decide) ?_
  simp only [securityFields, List.forall_mem_cons]
  exact ⟨fun _ ↦ .string _, plain_writeOption, plain_writeOption, List.forall_mem_nil _⟩

theorem plain_web (web : WebConfig) : Plain (writeWeb web) := by
  refine plain_written (show ["bind", "admin_token"].Nodup by decide) ?_
  simp only [webFields, List.forall_mem_cons]
  exact ⟨fun _ ↦ .string _, fun _ ↦ .string _, List.forall_mem_nil _⟩

theorem plain_peer (peer : PeerConfig) : Plain (writePeer peer) := by
  refine plain_written (show ["name", "token", "ip", "enabled", "allow_global",
    "allow_http_proxy"].Nodup by decide) ?_
  simp only [peerFields, List.forall_mem_cons]
  exact ⟨fun _ ↦ .string _, fun _ ↦ .string _, fun _ ↦ .string _, fun _ ↦ .bool _, fun _ ↦ .bool _,
    fun _ ↦ .bool _, List.forall_mem_nil _⟩

theorem plain_config (config : ServerConfig) : Plain (writeConfig config) := by
  refine plain_written
    (show ["listeners", "network", "security", "web", "peers"].Nodup by decide) ?_
  simp only [configFields, List.forall_mem_cons]
  exact ⟨fun _ ↦ plain_list fun listener _ ↦ plain_listener listener, fun _ ↦ plain_network _,
    fun _ ↦ plain_security _, fun _ ↦ plain_web _,
    fun _ ↦ plain_list fun peer _ ↦ plain_peer peer, List.forall_mem_nil _⟩

/-! ### The file -/

section TomlFile

variable {library : Library}

/-- A configuration that is saved is loaded as its `reloaded`. -/
theorem ServerConfig.reload_toToml (config : ServerConfig) (path : String)
    (hkeeps : Keeps library.renderToml library.toml (writeConfig config)) :
    ∃ text, config.toToml library = .ok text ∧
      ServerConfig.load library path (.ok text) = .ok config.reloaded := by
  obtain ⟨text, _, hrender, -, -, hread⟩ :=
    exists_toToml (plain_config config) hkeeps (readsBack_config config)
  refine ⟨text, hrender, ?_⟩
  rw [ServerConfig.load]
  simp only [hread]
  rfl

/-- Texts of the format have no nulls. -/
def Nullless (library : Library) : Prop :=
  ∀ text document, library.toml text = .ok document → NoNull document

/-- No text stands for a network without IPv6. -/
theorem hasIpv6_of_load (hnulls : Nullless library) {path : String} {file : Except String String}
    {config : ServerConfig} (hload : ServerConfig.load library path file = .ok config) :
    config.HasIpv6 := by
  cases file with
  | error error => cases hload
  | ok text =>
    rw [ServerConfig.load] at hload
    cases hparse : library.toml text with
    | error error =>
      simp only [hparse, Formats.fromText] at hload
      cases hload
    | ok document =>
      cases hread : readConfig document with
      | none =>
        simp only [hparse, Formats.fromText, hread] at hload
        cases hload
      | some read =>
        simp only [hparse, Formats.fromText, hread] at hload
        obtain rfl : read = config := Except.ok.inj hload
        have hdocument := hnulls text document hparse
        simp only [readConfig, Option.bind_eq_bind, Option.bind_eq_some_iff, Option.pure_def,
          Option.some.injEq] at hread
        obtain ⟨field, hslots, listeners, -, network, hnetwork, security, -, web, -, peers, -,
          rfl⟩ := hread
        rw [required, Option.bind_eq_some_iff] at hnetwork
        obtain ⟨table, htable, hnetwork⟩ := hnetwork
        have htableNoNull := hdocument.slots hslots htable
        simp only [readNetwork, Option.bind_eq_bind, Option.bind_eq_some_iff, Option.pure_def,
          Option.some.injEq] at hnetwork
        obtain ⟨inner, hinner, subnet, -, gateway, -, mtu, -, dns, -, tunName, -, egressIface, -,
          subnet6, hsubnet6, gateway6, hgateway6, dns6, -, rfl⟩ := hnetwork
        exact ⟨htableNoNull.isSome_defaulted hinner rfl hsubnet6,
          htableNoNull.isSome_defaulted hinner (by decide +kernel) hgateway6⟩

end TomlFile

end EntroTunnel.Server.File
