import EntroTunnel.Core.AddressText
import EntroTunnel.Desktop.LocalState
import EntroTunnel.Desktop.ProfileStore
import EntroTunnel.Foundation.DocumentOrder

/-!
# Profiles as TOML

`client-core/src/config.rs` writes a `ClientConfig` or a bundle of profiles as a TOML text, and
reads either back. A field of a record is left out of the text when it has a certain value, and gets
a default when it is not in the text; the two are written down separately. The TOML library may
order the entries of a table anew, and leaves out a field without a value.

`readsBack_config` says that every omitted value is the default, for all values of all other fields.
`load_toToml` is the round trip of a saved configuration, and `profilesFromToml_exports` that of the
two exports that the importer takes.
-/

set_option autoImplicit false
set_option relaxedAutoImplicit false

namespace EntroTunnel.Desktop

open EntroTunnel.Core EntroTunnel.Client EntroTunnel.Foundation EntroTunnel.Foundation.Document

/-! ### Serializers -/

/-- The parsers of the text formats and their serializers. -/
structure Library extends Formats where
  renderToml : Document → Except String String
  renderJson : Document → Except String Bytes

def modeText : SessionMode → String
  | .globalProxy => "global_proxy"
  | .systemProxy => "system_proxy"
  | .httpProxy => "http_proxy"
  | .vpn => "vpn"

def splitModeText : SplitMode → String
  | .blacklist => "blacklist"
  | .whitelist => "whitelist"

def writeAddress : Option Ipv4Addr → Document
  | none => .null
  | some addr => .string (ipv4Text addr)

def ruleFields (rule : RouteRule) : List Field :=
  [⟨"target", .string rule.target, false⟩, ⟨"via", .string rule.via, false⟩,
    ⟨"gateway", writeAddress rule.gateway, rule.gateway.isNone⟩]

def writeRule (rule : RouteRule) : Document :=
  .object (written (ruleFields rule))

def configFields (config : ClientConfig) : List Field :=
  [⟨"name", .string config.name, false⟩,
    ⟨"selected_server", writeOption config.selectedServer, config.selectedServer.isNone⟩,
    ⟨"mode", .string (modeText config.mode), false⟩,
    ⟨"requested_ip", writeAddress config.requestedIp, config.requestedIp.isNone⟩,
    ⟨"client_name", writeOption config.clientName, config.clientName.isNone⟩,
    ⟨"tun_name", .string config.tunName, false⟩,
    ⟨"http_listen", .string config.httpListen, false⟩,
    ⟨"join_vpn", .bool config.joinVpn, !config.joinVpn⟩,
    ⟨"server_host", .string config.serverHost, config.serverHost = ""⟩,
    ⟨"server_port", .integer config.serverPort.toNat, config.serverPort = 0⟩,
    ⟨"transport", .string (transportText config.transport), config.transport = .tcp⟩,
    ⟨"token", .string config.token, config.token = ""⟩,
    ⟨"noise_psk", .string config.noisePsk, config.noisePsk = ""⟩,
    ⟨"tls_skip_verify", .bool config.tlsSkipVerify, !config.tlsSkipVerify⟩,
    ⟨"server_name", writeOption config.serverName, config.serverName.isNone⟩,
    ⟨"servers", .array (config.servers.map writeServer), config.servers.isEmpty⟩,
    ⟨"routes", .array (config.routes.map writeRule), config.routes.isEmpty⟩,
    ⟨"split_mode", .string (splitModeText config.splitMode), false⟩,
    ⟨"chain", .array (config.chain.map .string), config.chain.isEmpty⟩,
    ⟨"ipv6_killswitch", .bool config.ipv6Killswitch, false⟩]

def writeConfig (config : ClientConfig) : Document :=
  .object (written (configFields config))

/-- A `ProfileBundle` as a document. -/
def writeBundle (profiles : List Profile) : Document :=
  .object (written [⟨"profiles", .array (profiles.map writeProfile), false⟩])

/-- `toml::to_string_pretty`, with the error of `to_toml`. -/
def Library.toToml (library : Library) (document : Document) : Except String String :=
  (library.renderToml document).mapError fun error ↦ "config: serialize: " ++ error

/-- `ProfileBundle::to_toml`. -/
def bundleToToml (library : Library) (profiles : List Profile) : Except String String :=
  library.toToml (writeBundle profiles)

end EntroTunnel.Desktop

namespace EntroTunnel.Client

open EntroTunnel.Desktop

/-- `ClientConfig::to_toml`. -/
def ClientConfig.toToml (library : Library) (config : ClientConfig) : Except String String :=
  library.toToml (writeConfig config)

/-- `ClientConfig::load`, from what reading the file at the path returns. -/
def ClientConfig.load (library : Library) (path : String) (file : Except String String) :
    Except String ClientConfig :=
  match file with
  | .error error => .error ("io: " ++ error)
  | .ok text =>
    (library.fromText readConfig (library.toml text)).mapError fun error ↦
      "config: parse " ++ path ++ ": " ++ error

end EntroTunnel.Client

namespace EntroTunnel.Desktop

open EntroTunnel.Core EntroTunnel.Client EntroTunnel.Foundation EntroTunnel.Foundation.Document

/-! ### Scalars that are read back -/

theorem readsBack_port (port : UInt16) : ReadsBack readU16 (.integer port.toNat) port :=
  fun _ hsame ↦ hsame.integer ▸ readU16_write port

theorem readsBack_transport (transport : TransportKind) :
    ReadsBack readTransport (.string (transportText transport)) transport :=
  readsBack_variant (by cases transport <;> rfl)

theorem readsBack_mode (mode : SessionMode) : ReadsBack readMode (.string (modeText mode)) mode :=
  readsBack_variant (by cases mode <;> rfl)

theorem readsBack_splitMode (mode : SplitMode) :
    ReadsBack readSplitMode (.string (splitModeText mode)) mode :=
  readsBack_variant (by cases mode <;> rfl)

theorem readsBack_writeOption {option : Option String} (hsome : option.isNone = false) :
    ReadsBack (readOption readString) (writeOption option) option := by
  cases option with
  | none => cases hsome
  | some text => exact readsBack_option (readsBack_string text) rfl

theorem readsBack_writeAddress {option : Option Ipv4Addr} (hsome : option.isNone = false) :
    ReadsBack (readOption readIpv4) (writeAddress option) option := by
  cases option with
  | none => cases hsome
  | some addr =>
    refine readsBack_option (fun other hsame ↦ ?_) rfl
    rw [hsame.string, readIpv4, readString, Option.bind_some, parseIpv4_ipv4Text]

/-! ### Records that are read back -/

/-- The fields of a server as they are written. -/
def serverFields (server : ServerEntry) : List Field :=
  [⟨"name", .string server.name, false⟩, ⟨"host", .string server.host, false⟩,
    ⟨"port", .integer server.port.toNat, false⟩,
    ⟨"transport", .string (transportText server.transport), false⟩,
    ⟨"token", .string server.token, false⟩, ⟨"noise_psk", .string server.noisePsk, false⟩,
    ⟨"tls_skip_verify", .bool server.tlsSkipVerify, !server.tlsSkipVerify⟩,
    ⟨"server_name", writeOption server.serverName, server.serverName.isNone⟩]

theorem writeServer_eq (server : ServerEntry) :
    writeServer server = .object (written (serverFields server)) := by
  simp [writeServer, written, serverFields, entryUnless]

/-- The fields of a profile as they are written. -/
def profileFields (profile : Profile) : List Field :=
  [⟨"name", .string profile.name, false⟩,
    ⟨"selected_server", writeOption profile.selectedServer, profile.selectedServer.isNone⟩,
    ⟨"servers", .array (profile.servers.map writeServer), false⟩]

theorem writeProfile_eq (profile : Profile) :
    writeProfile profile = .object (written (profileFields profile)) := by
  simp [writeProfile, written, profileFields, entryUnless]

theorem readsBack_rule (rule : RouteRule) : ReadsBack readRule (writeRule rule) rule := by
  intro other hsame
  have hkeys : ((ruleFields rule).map Field.key).Nodup :=
    show ["target", "via", "gateway"].Nodup by decide
  obtain ⟨field, hslots, hrecords⟩ := slots_written hsame hkeys ["target", "via", "gateway"]
  have htarget := hrecords.required 0 rfl (readsBack_string rule.target)
  have hvia := hrecords.required 1 rfl (readsBack_string rule.via)
  have hgateway := hrecords.defaulted 2 rfl Option.isNone_iff_eq_none.mp
    readsBack_writeAddress
  simp only [readRule, hslots, htarget, hvia, hgateway, Option.bind_eq_bind, Option.bind_some,
    Option.pure_def]

theorem readsBack_server (server : ServerEntry) :
    ReadsBack readServer (writeServer server) server := by
  rw [writeServer_eq]
  intro other hsame
  have hkeys : ((serverFields server).map Field.key).Nodup :=
    show ["name", "host", "port", "transport", "token", "noise_psk", "tls_skip_verify",
      "server_name"].Nodup by decide
  obtain ⟨field, hslots, hrecords⟩ := slots_written hsame hkeys ["name", "host", "port",
    "transport", "token", "noise_psk", "tls_skip_verify", "server_name"]
  have hname := hrecords.required 0 rfl (readsBack_string server.name)
  have hhost := hrecords.required 1 rfl (readsBack_string server.host)
  have hport := hrecords.required 2 rfl (readsBack_port server.port)
  have htransport : defaulted field "transport" .tcp readTransport = some server.transport :=
    hrecords.present 3 rfl (readsBack_transport server.transport)
  have htoken := hrecords.required 4 rfl (readsBack_string server.token)
  have hpsk := hrecords.required 5 rfl (readsBack_string server.noisePsk)
  have hskip := hrecords.defaulted 6 rfl (Bool.not_eq_true' _).mp
    fun _ ↦ readsBack_bool server.tlsSkipVerify
  have hserverName := hrecords.defaulted 7 rfl Option.isNone_iff_eq_none.mp
    readsBack_writeOption
  simp only [readServer, hslots, hname, hhost, hport, htransport, htoken, hpsk, hskip, hserverName,
    Option.bind_eq_bind, Option.bind_some, Option.pure_def]

theorem readsBack_servers (servers : List ServerEntry) :
    ReadsBack (readList readServer) (.array (servers.map writeServer)) servers :=
  readsBack_list fun server _ ↦ readsBack_server server

theorem readsBack_profile (profile : Profile) :
    ReadsBack readProfile (writeProfile profile) profile := by
  rw [writeProfile_eq]
  intro other hsame
  have hkeys : ((profileFields profile).map Field.key).Nodup :=
    show ["name", "selected_server", "servers"].Nodup by decide
  obtain ⟨field, hslots, hrecords⟩ :=
    slots_written hsame hkeys ["name", "selected_server", "servers"]
  have hname := hrecords.required 0 rfl (readsBack_string profile.name)
  have hselected := hrecords.defaulted 1 rfl Option.isNone_iff_eq_none.mp
    readsBack_writeOption
  have hservers : defaulted field "servers" [] (readList readServer) = some profile.servers :=
    hrecords.present 2 rfl (readsBack_servers profile.servers)
  simp only [readProfile, hslots, hname, hselected, hservers, Option.bind_eq_bind,
    Option.bind_some, Option.pure_def]

/-- Every field that a configuration leaves out has its default, so that the configuration is read
back with all its fields. -/
theorem readsBack_config (config : ClientConfig) :
    ReadsBack readConfig (writeConfig config) config := by
  intro other hsame
  have hkeys : ((configFields config).map Field.key).Nodup :=
    show configKeys.Nodup by decide
  obtain ⟨field, hslots, hrecords⟩ := slots_written hsame hkeys configKeys
  have hname : defaulted field "name" "" readString = some config.name :=
    hrecords.present 0 rfl (readsBack_string config.name)
  have hselected := hrecords.defaulted 1 rfl Option.isNone_iff_eq_none.mp
    readsBack_writeOption
  have hmode := hrecords.required 2 rfl (readsBack_mode config.mode)
  have hip := hrecords.defaulted 3 rfl Option.isNone_iff_eq_none.mp
    readsBack_writeAddress
  have hclient := hrecords.defaulted 4 rfl Option.isNone_iff_eq_none.mp
    readsBack_writeOption
  have htun : defaulted field "tun_name" "et0" readString = some config.tunName :=
    hrecords.present 5 rfl (readsBack_string config.tunName)
  have hlisten : defaulted field "http_listen" "127.0.0.1:7890" readString =
      some config.httpListen :=
    hrecords.present 6 rfl (readsBack_string config.httpListen)
  have hjoin := hrecords.defaulted 7 rfl (Bool.not_eq_true' _).mp
    fun _ ↦ readsBack_bool config.joinVpn
  have hhost := hrecords.defaulted 8 rfl of_decide_eq_true
    fun _ ↦ readsBack_string config.serverHost
  have hport := hrecords.defaulted 9 rfl of_decide_eq_true
    fun _ ↦ readsBack_port config.serverPort
  have htransport := hrecords.defaulted 10 rfl of_decide_eq_true
    fun _ ↦ readsBack_transport config.transport
  have htoken := hrecords.defaulted 11 rfl of_decide_eq_true
    fun _ ↦ readsBack_string config.token
  have hpsk := hrecords.defaulted 12 rfl of_decide_eq_true
    fun _ ↦ readsBack_string config.noisePsk
  have hskip := hrecords.defaulted 13 rfl (Bool.not_eq_true' _).mp
    fun _ ↦ readsBack_bool config.tlsSkipVerify
  have hserverName := hrecords.defaulted 14 rfl Option.isNone_iff_eq_none.mp
    readsBack_writeOption
  have hservers := hrecords.defaulted 15 rfl List.isEmpty_iff.mp
    fun _ ↦ readsBack_servers config.servers
  have hroutes := hrecords.defaulted 16 rfl List.isEmpty_iff.mp
    fun _ ↦ readsBack_list fun rule _ ↦ readsBack_rule rule
  have hsplit : defaulted field "split_mode" .blacklist readSplitMode = some config.splitMode :=
    hrecords.present 17 rfl (readsBack_splitMode config.splitMode)
  have hchain := hrecords.defaulted 18 rfl List.isEmpty_iff.mp
    fun _ ↦ readsBack_list fun name _ ↦ readsBack_string name
  have hkillswitch : defaulted field "ipv6_killswitch" true readBool = some config.ipv6Killswitch :=
    hrecords.present 19 rfl (readsBack_bool config.ipv6Killswitch)
  have hconnection : readConnection field =
      some { config with
        name := "", selectedServer := none, tunName := "et0", httpListen := "127.0.0.1:7890"
        servers := [], routes := [], splitMode := .blacklist, ipv6Killswitch := true } := by
    simp only [readConnection, hmode, hip, hclient, hjoin, hhost, hport, htransport, htoken, hpsk,
      hskip, hserverName, hchain, Option.bind_eq_bind, Option.bind_some, Option.pure_def]
  simp only [readConfig, hslots, hname, hselected, hconnection, htun, hlisten, hservers, hroutes,
    hsplit, hkillswitch, Option.bind_eq_bind, Option.bind_some, Option.pure_def]

/-! ### What the TOML library is given -/

theorem plain_port (port : UInt16) : Plain (.integer port.toNat) := by
  have hport : port.toNat < 65536 := port.toNat_lt
  exact .integer (by omega) (by omega)

theorem plain_writeOption {option : Option String} (hsome : option.isNone = false) :
    Plain (writeOption option) := by
  cases option with
  | none => cases hsome
  | some text => exact .string text

theorem plain_writeAddress {option : Option Ipv4Addr} (hsome : option.isNone = false) :
    Plain (writeAddress option) := by
  cases option with
  | none => cases hsome
  | some addr => exact .string _

theorem plain_rule (rule : RouteRule) : Plain (writeRule rule) := by
  refine plain_written (show ["target", "via", "gateway"].Nodup by decide) ?_
  simp only [ruleFields, List.forall_mem_cons]
  exact ⟨fun _ ↦ .string _, fun _ ↦ .string _, plain_writeAddress, List.forall_mem_nil _⟩

theorem plain_server (server : ServerEntry) : Plain (writeServer server) := by
  rw [writeServer_eq]
  refine plain_written (show ["name", "host", "port", "transport", "token", "noise_psk",
    "tls_skip_verify", "server_name"].Nodup by decide) ?_
  simp only [serverFields, List.forall_mem_cons]
  exact ⟨fun _ ↦ .string _, fun _ ↦ .string _, fun _ ↦ plain_port _, fun _ ↦ .string _,
    fun _ ↦ .string _, fun _ ↦ .string _, fun _ ↦ .bool _, plain_writeOption,
    List.forall_mem_nil _⟩

theorem plain_profile (profile : Profile) : Plain (writeProfile profile) := by
  rw [writeProfile_eq]
  refine plain_written (show ["name", "selected_server", "servers"].Nodup by decide) ?_
  simp only [profileFields, List.forall_mem_cons]
  exact ⟨fun _ ↦ .string _, plain_writeOption,
    fun _ ↦ plain_list fun server _ ↦ plain_server server, List.forall_mem_nil _⟩

theorem plain_config (config : ClientConfig) : Plain (writeConfig config) := by
  refine plain_written (show configKeys.Nodup by decide) ?_
  simp only [configFields, List.forall_mem_cons]
  exact ⟨fun _ ↦ .string _, plain_writeOption, fun _ ↦ .string _, plain_writeAddress,
    plain_writeOption, fun _ ↦ .string _, fun _ ↦ .string _, fun _ ↦ .bool _, fun _ ↦ .string _,
    fun _ ↦ plain_port _, fun _ ↦ .string _, fun _ ↦ .string _, fun _ ↦ .string _,
    fun _ ↦ .bool _, plain_writeOption, fun _ ↦ plain_list fun server _ ↦ plain_server server,
    fun _ ↦ plain_list fun rule _ ↦ plain_rule rule, fun _ ↦ .string _,
    fun _ ↦ plain_list fun name _ ↦ .string name, fun _ ↦ .bool _, List.forall_mem_nil _⟩

theorem plain_bundle (profiles : List Profile) : Plain (writeBundle profiles) := by
  refine plain_written (List.nodup_singleton _) ?_
  rw [List.forall_mem_singleton]
  exact fun _ ↦ plain_list fun profile _ ↦ plain_profile profile

/-! ### Round trips -/

section RoundTrips

variable {library : Library}

/-- A reader that reads a document back takes the value from its text. -/
theorem exists_toToml {α : Type*} {reader : Reader α} {document : Document} {value : α}
    (hplain : Plain document) (hkeeps : Keeps library.renderToml library.toml document)
    (hread : ReadsBack reader document value) :
    ∃ text other, library.toToml document = .ok text ∧ library.toml text = .ok other ∧
      Same document other ∧ library.fromText reader (library.toml text) = .ok value := by
  obtain ⟨text, other, hrender, hparse, hsame⟩ := hkeeps hplain
  refine ⟨text, other, by rw [Library.toToml, hrender]; rfl, hparse, hsame, ?_⟩
  rw [hparse, Formats.fromText]
  simp only [hread other hsame]

/-- A configuration that is saved is loaded again, with every field as it was. -/
theorem load_toToml (config : ClientConfig) (path : String)
    (hkeeps : Keeps library.renderToml library.toml (writeConfig config)) :
    ∃ text, config.toToml library = .ok text ∧
      ClientConfig.load library path (.ok text) = .ok config := by
  obtain ⟨text, _, hrender, -, -, hread⟩ :=
    exists_toToml (plain_config config) hkeeps (readsBack_config config)
  refine ⟨text, hrender, ?_⟩
  rw [ClientConfig.load]
  simp only [hread]
  rfl

theorem readsBack_bundle (profiles : List Profile) :
    ReadsBack readBundle (writeBundle profiles) profiles := by
  intro other hsame
  obtain ⟨field, hslots, hrecords⟩ := slots_written hsame (List.nodup_singleton _) ["profiles"]
  have hprofiles : defaulted field "profiles" [] (readList readProfile) = some profiles :=
    hrecords.present 0 rfl
      (readsBack_list fun profile _ ↦ readsBack_profile profile)
  simp only [readBundle, hslots, hprofiles, Option.bind_eq_bind, Option.bind_some]

/-- A configuration is a bundle without profiles. -/
theorem readsBack_bundle_config (config : ClientConfig) :
    ReadsBack readBundle (writeConfig config) [] := by
  intro other hsame
  have hkeys : ((configFields config).map Field.key).Nodup :=
    show configKeys.Nodup by decide
  obtain ⟨field, hslots, hrecords⟩ := slots_written hsame hkeys ["profiles"]
  have hprofiles : defaulted field "profiles" [] (readList readProfile) = some [] :=
    hrecords.unwritten (show "profiles" ∉ configKeys by decide) []
  simp only [readBundle, hslots, hprofiles, Option.bind_eq_bind, Option.bind_some]

theorem profilesFromToml_bundle {profiles : List Profile} (hne : profiles ≠ [])
    (hkeeps : Keeps library.renderToml library.toml (writeBundle profiles)) :
    ∃ text, bundleToToml library profiles = .ok text ∧
      profilesFromToml library.toFormats text = .ok profiles := by
  obtain ⟨text, _, hrender, -, -, hread⟩ :=
    exists_toToml (plain_bundle profiles) hkeeps (readsBack_bundle profiles)
  refine ⟨text, hrender, ?_⟩
  obtain ⟨first, rest, rfl⟩ := List.exists_cons_of_ne_nil hne
  rw [profilesFromToml, hread]

theorem profilesFromToml_config {config : ClientConfig} (hname : config.name ≠ "")
    (hservers : config.servers ≠ [])
    (hkeeps : Keeps library.renderToml library.toml (writeConfig config)) :
    ∃ text, config.toToml library = .ok text ∧
      profilesFromToml library.toFormats text = .ok [config.toProfile] := by
  obtain ⟨text, other, hrender, hparse, hsame, hread⟩ :=
    exists_toToml (plain_config config) hkeeps (readsBack_config config)
  have hbundle : library.fromText readBundle (library.toml text) = .ok [] := by
    rw [hparse, Formats.fromText]
    simp only [readsBack_bundle_config config other hsame]
  refine ⟨text, hrender, ?_⟩
  rw [profilesFromToml, hbundle]
  simp only [profileFromConfig, hread, hservers, hname, if_false]
  rfl

/-- The importer takes either export for what it is, and gives back the profiles. -/
theorem profilesFromToml_exports (library : Library) :
    (∀ profiles : List Profile, profiles ≠ [] →
      Keeps library.renderToml library.toml (writeBundle profiles) →
      ∃ text, bundleToToml library profiles = .ok text ∧
        profilesFromToml library.toFormats text = .ok profiles) ∧
    ∀ (profile : Profile) (settings : ConnectionSettings), profile.name ≠ "" →
      profile.servers ≠ [] →
      Keeps library.renderToml library.toml (writeConfig (.compose profile settings)) →
      ∃ text, (ClientConfig.compose profile settings).toToml library = .ok text ∧
        profilesFromToml library.toFormats text = .ok [profile] :=
  ⟨fun _ hne hkeeps ↦ profilesFromToml_bundle hne hkeeps,
    fun _ _ hname hservers hkeeps ↦ profilesFromToml_config hname hservers hkeeps⟩

end RoundTrips

/-! ### A profile in both exports -/

def homeProfile : Profile where
  name := "home"
  servers := [{
    name := "tokyo", host := "vpn.example.com", port := 443, token := "t0", noisePsk := "a2V5" }]

/-- What the server of the profile reads as in either text. -/
def homeServerText : String :=
  "name = \"tokyo\"\nhost = \"vpn.example.com\"\nport = 443\ntransport = \"tcp\"\n" ++
    "token = \"t0\"\nnoise_psk = \"a2V5\"\n"

def homeConfigText : String :=
  "name = \"home\"\nmode = \"global_proxy\"\ntun_name = \"et0\"\n" ++
    "http_listen = \"127.0.0.1:7890\"\nsplit_mode = \"blacklist\"\nipv6_killswitch = true\n" ++
    "\n[[servers]]\n" ++ homeServerText

def homeBundleText : String :=
  "[[profiles]]\nname = \"home\"\n\n[[profiles.servers]]\n" ++ homeServerText

/-- The entries of the configuration, in the order of the text. -/
def homeConfigEntries : List (String × Document) :=
  [("name", .string "home"), ("mode", .string "global_proxy"), ("tun_name", .string "et0"),
    ("http_listen", .string "127.0.0.1:7890"), ("split_mode", .string "blacklist"),
    ("ipv6_killswitch", .bool true), ("servers", .array (homeProfile.servers.map writeServer))]

/-- A library that knows the two texts. -/
def homeLibrary : Library where
  json := fun _ ↦ .error "expected value"
  toml := fun text ↦
    if text = homeConfigText then .ok (.object homeConfigEntries)
    else if text = homeBundleText then .ok (writeBundle [homeProfile])
    else .error "expected a table"
  mismatch := fun _ ↦ "missing field"
  base64 := fun _ ↦ .error "invalid symbol"
  base64UrlSafe := fun _ ↦ .error "invalid symbol"
  base64UrlSafeNoPad := fun _ ↦ .error "invalid symbol"
  renderToml := fun
    | .object (("profiles", _) :: _) => .ok homeBundleText
    | .object _ => .ok homeConfigText
    | _ => .error "unsupported type"
  renderJson := fun _ ↦ .error "unsupported type"

theorem homeLibrary_keeps_config :
    Keeps homeLibrary.renderToml homeLibrary.toml (writeConfig (.compose homeProfile {})) := by
  have hrender : homeLibrary.renderToml (writeConfig (.compose homeProfile {})) =
      .ok homeConfigText := by rfl
  have hparse : homeLibrary.toml homeConfigText = .ok (.object homeConfigEntries) := by
    simp only [homeLibrary, if_true]
  refine fun _ ↦ ⟨homeConfigText, .object homeConfigEntries, hrender, hparse, ?_⟩
  refine Same.of_perm (show ["name", "mode", "tun_name", "http_listen", "servers", "split_mode",
    "ipv6_killswitch"].Nodup by decide) ?_
  have hlast := List.perm_append_singleton ("servers", .array (homeProfile.servers.map writeServer))
    [("split_mode", Document.string "blacklist"), ("ipv6_killswitch", .bool true)]
  exact ((((hlast.symm.cons _).cons _).cons _).cons _)

theorem homeLibrary_keeps_bundle :
    Keeps homeLibrary.renderToml homeLibrary.toml (writeBundle [homeProfile]) := by
  have hne : homeBundleText ≠ homeConfigText := by decide +kernel
  have hparse : homeLibrary.toml homeBundleText = .ok (writeBundle [homeProfile]) := by
    simp only [homeLibrary, hne, if_true, if_false]
  exact fun _ ↦ ⟨homeBundleText, _, rfl, hparse, .refl _⟩

/-- The configuration of a profile with one server and the default settings is read back. -/
theorem load_toToml_home : ∃ text,
    (ClientConfig.compose homeProfile {}).toToml homeLibrary = .ok text ∧
      ClientConfig.load homeLibrary "client.toml" (.ok text) = .ok (.compose homeProfile {}) :=
  load_toToml (.compose homeProfile {}) "client.toml" homeLibrary_keeps_config

/-- The profile is read from both of its exports. -/
theorem profilesFromToml_exports_home :
    (∃ text, bundleToToml homeLibrary [homeProfile] = .ok text ∧
      profilesFromToml homeLibrary.toFormats text = .ok [homeProfile]) ∧
    ∃ text, (ClientConfig.compose homeProfile {}).toToml homeLibrary = .ok text ∧
      profilesFromToml homeLibrary.toFormats text = .ok [homeProfile] :=
  ⟨(profilesFromToml_exports homeLibrary).1 [homeProfile] (List.cons_ne_nil _ _)
      homeLibrary_keeps_bundle,
    (profilesFromToml_exports homeLibrary).2 homeProfile {} (by decide) (List.cons_ne_nil _ _)
      homeLibrary_keeps_config⟩

end EntroTunnel.Desktop
