import EntroTunnel.Client.Profile
import EntroTunnel.Core.Text
import EntroTunnel.Foundation.Document

/-!
# Stored profiles

The desktop app stores a list of `Profile`s, which carry nothing but servers. Older builds stored
full `ClientConfig`s, with one server in flat fields or with a list of servers. `readProfile` and
`readConfig` are the derived deserializers of the two, and `writeProfile` the serializer of the
first. `readProfile_write` is the round trip; `toProfile_of_reads` says that an entry that both
accept means the same to both.
-/

set_option autoImplicit false
set_option relaxedAutoImplicit false

namespace EntroTunnel.Desktop

open EntroTunnel.Core EntroTunnel.Client EntroTunnel.Foundation EntroTunnel.Foundation.Document

/-! ### Deserializers -/

def readU16 : Reader UInt16 := fun document ↦
  (readNat 65536 document).map UInt16.ofNat

def readIpv4 : Reader Ipv4Addr := fun document ↦
  (readString document).bind fun text ↦ parseIpv4 text.toList

def readTransport : Reader TransportKind :=
  readVariant [("tcp", .tcp), ("ws", .ws), ("quic", .quic)]

def readMode : Reader SessionMode :=
  readVariant [("global_proxy", .globalProxy), ("system_proxy", .systemProxy),
    ("http_proxy", .httpProxy), ("vpn", .vpn)]

def readSplitMode : Reader SplitMode :=
  readVariant [("blacklist", .blacklist), ("whitelist", .whitelist)]

def readRule : Reader RouteRule := fun document ↦ do
  let field ← slots ["target", "via", "gateway"] document
  let target ← required field "target" readString
  let via ← required field "via" readString
  let gateway ← defaulted field "gateway" none (readOption readIpv4)
  return { target, via, gateway }

def readServer : Reader ServerEntry := fun document ↦ do
  let field ← slots ["name", "host", "port", "transport", "token", "noise_psk", "tls_skip_verify",
    "server_name"] document
  let name ← required field "name" readString
  let host ← required field "host" readString
  let port ← required field "port" readU16
  let transport ← defaulted field "transport" .tcp readTransport
  let token ← required field "token" readString
  let noisePsk ← required field "noise_psk" readString
  let tlsSkipVerify ← defaulted field "tls_skip_verify" false readBool
  let serverName ← defaulted field "server_name" none (readOption readString)
  return { name, host, port, transport, token, noisePsk, tlsSkipVerify, serverName }

def readProfile : Reader Profile := fun document ↦ do
  let field ← slots ["name", "selected_server", "servers"] document
  let name ← required field "name" readString
  let selectedServer ← defaulted field "selected_server" none (readOption readString)
  let servers ← defaulted field "servers" [] (readList readServer)
  return { name, selectedServer, servers }

/-- The keys of an old entry, in the order of its fields. -/
def configKeys : List String :=
  ["name", "selected_server", "mode", "requested_ip", "client_name", "tun_name", "http_listen",
    "join_vpn", "server_host", "server_port", "transport", "token", "noise_psk", "tls_skip_verify",
    "server_name", "servers", "routes", "split_mode", "chain", "ipv6_killswitch"]

/-- The fields of an old entry that decide about connections, less its servers. -/
def readConnection (field : String → Option Document) : Option ClientConfig := do
  let mode ← required field "mode" readMode
  let requestedIp ← defaulted field "requested_ip" none (readOption readIpv4)
  let clientName ← defaulted field "client_name" none (readOption readString)
  let joinVpn ← defaulted field "join_vpn" false readBool
  let serverHost ← defaulted field "server_host" "" readString
  let serverPort ← defaulted field "server_port" 0 readU16
  let transport ← defaulted field "transport" .tcp readTransport
  let token ← defaulted field "token" "" readString
  let noisePsk ← defaulted field "noise_psk" "" readString
  let tlsSkipVerify ← defaulted field "tls_skip_verify" false readBool
  let serverName ← defaulted field "server_name" none (readOption readString)
  let chain ← defaulted field "chain" [] (readList readString)
  return {
    mode, requestedIp, clientName, joinVpn, serverHost, serverPort, transport, token, noisePsk,
    tlsSkipVerify, serverName, chain }

def readConfig : Reader ClientConfig := fun document ↦ do
  let field ← slots configKeys document
  let name ← defaulted field "name" "" readString
  let selectedServer ← defaulted field "selected_server" none (readOption readString)
  let connection ← readConnection field
  let tunName ← defaulted field "tun_name" "et0" readString
  let httpListen ← defaulted field "http_listen" "127.0.0.1:7890" readString
  let servers ← defaulted field "servers" [] (readList readServer)
  let routes ← defaulted field "routes" [] (readList readRule)
  let splitMode ← defaulted field "split_mode" .blacklist readSplitMode
  let ipv6Killswitch ← defaulted field "ipv6_killswitch" true readBool
  return { connection with
    name, selectedServer, tunName, httpListen, servers, routes, splitMode, ipv6Killswitch }

/-! ### The serializer -/

def transportText : TransportKind → String
  | .tcp => "tcp"
  | .ws => "ws"
  | .quic => "quic"

def writeOption : Option String → Document
  | none => .null
  | some text => .string text

def writeServer (server : ServerEntry) : Document :=
  .object ([("name", .string server.name), ("host", .string server.host),
      ("port", .integer server.port.toNat), ("transport", .string (transportText server.transport)),
      ("token", .string server.token), ("noise_psk", .string server.noisePsk)] ++
    entryUnless (!server.tlsSkipVerify) "tls_skip_verify" (.bool server.tlsSkipVerify) ++
    entryUnless server.serverName.isNone "server_name" (writeOption server.serverName))

def writeProfile (profile : Profile) : Document :=
  .object ([("name", .string profile.name)] ++
    entryUnless profile.selectedServer.isNone "selected_server"
      (writeOption profile.selectedServer) ++
    [("servers", .array (profile.servers.map writeServer))])

/-! ### What is written is read back -/

theorem readTransport_write (transport : TransportKind) :
    readTransport (.string (transportText transport)) = some transport := by
  cases transport <;> rfl

theorem readU16_write (port : UInt16) : readU16 (.integer port.toNat) = some port := by
  have hport : port.toNat < 65536 := port.toNat_lt
  change (if port.toNat < 65536 then some port.toNat else none).map UInt16.ofNat = some port
  rw [if_pos hport, Option.map_some, UInt16.ofNat_toNat]

theorem readServer_write (server : ServerEntry) :
    readServer (writeServer server) = some server := by
  obtain ⟨name, host, port, transport, token, noisePsk, tlsSkipVerify, serverName⟩ := server
  have htransport := readTransport_write transport
  have hport := readU16_write port
  unfold readServer writeServer
  rw [slots_of_nodup (by cases serverName <;> cases tlsSkipVerify <;> simp [entryUnless])]
  cases serverName <;> cases tlsSkipVerify <;>
    simp [entryUnless, writeOption, lookup_cons_eq, required, defaulted, readOption, readString,
      readBool, htransport, hport]

theorem readProfile_write (profile : Profile) :
    readProfile (writeProfile profile) = some profile := by
  obtain ⟨name, selectedServer, servers⟩ := profile
  have hservers := readList_map readServer_write servers
  unfold readProfile writeProfile
  rw [slots_of_nodup (by cases selectedServer <;> simp [entryUnless])]
  cases selectedServer <;>
    simp [entryUnless, writeOption, lookup_cons_eq, required, defaulted, readOption, readString,
      hservers]

/-! ### Entries that both formats accept -/

theorem readConnection_mode {field : String → Option Document} {connection : ClientConfig}
    (hread : readConnection field = some connection) :
    required field "mode" readMode = some connection.mode := by
  obtain ⟨mode, hmode, hread⟩ := Option.bind_eq_some_iff.mp hread
  simp only [Option.bind_eq_bind, Option.bind_eq_some_iff] at hread
  obtain ⟨ip, -, client, -, join, -, host, -, port, -, transport, -, token, -, psk, -,
    skip, -, serverName, -, chain, -, hread⟩ := hread
  obtain rfl := Option.some.inj hread
  exact hmode

/-- What the fields of an old entry say of its profile. -/
theorem readConfig_fields {document : Document} {config : ClientConfig}
    (hread : readConfig document = some config) :
    ∃ field, slots configKeys document = some field ∧
      defaulted field "name" "" readString = some config.name ∧
      defaulted field "selected_server" none (readOption readString) = some config.selectedServer ∧
      required field "mode" readMode = some config.mode ∧
      defaulted field "servers" [] (readList readServer) = some config.servers := by
  simp only [readConfig, Option.bind_eq_bind, Option.bind_eq_some_iff] at hread
  obtain ⟨field, hfield, name, hname, selected, hselected, connection, hconnection, tun, -, http, -,
    servers, hservers, routes, -, split, -, killswitch, -, hconfig⟩ := hread
  have hmode := readConnection_mode hconnection
  obtain rfl := Option.some.inj hconfig
  exact ⟨field, hfield, hname, hselected, hmode, hservers⟩

/-- What the fields of an entry say of a profile. -/
theorem readProfile_fields {document : Document} {profile : Profile}
    (hread : readProfile document = some profile) :
    ∃ field, slots ["name", "selected_server", "servers"] document = some field ∧
      required field "name" readString = some profile.name ∧
      defaulted field "selected_server" none (readOption readString) =
        some profile.selectedServer ∧
      defaulted field "servers" [] (readList readServer) = some profile.servers := by
  simp only [readProfile, Option.bind_eq_bind, Option.bind_eq_some_iff] at hread
  obtain ⟨field, hfield, name, hname, selected, hselected, servers, hservers, hprofile⟩ := hread
  obtain rfl := Option.some.inj hprofile
  exact ⟨field, hfield, hname, hselected, hservers⟩

/-- A field that is there is read in the same way with a default. -/
theorem defaulted_of_required {α : Type*} {field : String → Option Document} {key : String}
    {default value : α} {reader : Reader α} (hread : required field key reader = some value) :
    defaulted field key default reader = some value := by
  obtain ⟨document, hdocument, hvalue⟩ := Option.bind_eq_some_iff.mp hread
  rw [defaulted, hdocument, Option.elim_some, hvalue]

/-- No mode is written as a list. -/
theorem readMode_array (elements : List Document) : readMode (.array elements) = none := rfl

/-- An entry that both formats accept stands for one profile. In an array the mode stands where the
servers of a profile do, so such an entry is an object. -/
theorem toProfile_of_reads {document : Document} {profile : Profile} {config : ClientConfig}
    (hprofile : readProfile document = some profile) (hconfig : readConfig document = some config) :
    profile = config.toProfile := by
  obtain ⟨field, hfield, hname, hselected, hservers⟩ := readProfile_fields hprofile
  obtain ⟨other, hother, hname', hselected', hmode, hservers'⟩ := readConfig_fields hconfig
  rcases shape_of_slots hfield with ⟨entries, rfl⟩ | ⟨elements, rfl⟩
  · obtain rfl := slots_object hfield
    obtain rfl := slots_object hother
    have hnames := (defaulted_of_required hname).symm.trans hname'
    have hselecteds := hselected.symm.trans hselected'
    have hserverss := hservers.symm.trans hservers'
    rw [Option.some.injEq] at hnames hselecteds hserverss
    exact congr (congrArg₂ Profile.mk hnames hselecteds) hserverss
  · obtain rfl := slots_array hfield
    obtain rfl := slots_array hother
    obtain ⟨third, hthird, hmode⟩ := Option.bind_eq_some_iff.mp hmode
    have hthird : elements[2]? = some third := hthird
    have hservers : (elements[2]?).elim (some []) (readList readServer) = some profile.servers :=
      hservers
    rw [hthird, Option.elim_some] at hservers
    obtain ⟨servers, rfl, -⟩ := readList_eq_some.mp hservers
    rw [readMode_array] at hmode
    exact absurd hmode (by simp)

end EntroTunnel.Desktop
