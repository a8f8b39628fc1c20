import EntroTunnel.Client.SessionDrivers
import EntroTunnel.Desktop.ShareLink
import EntroTunnel.Server.Startup

/-!
# A client that is set up from the panel

The way of a peer from the server to a session: the panel gets the configuration (`status` of
`server/src/web.rs`), makes a link for the peer and one of the listeners (`openExport`, `exPreset`
and `buildLink` of `server/web/admin.html`), the client imports the link and connects with its
own settings.

`provisioned_admitted` says that what these parts pass on fits together: the client dials the port
of a listener, with its transport and with the key of the server, and the server takes its `Hello`
for that of the peer. The server accepts connections there if it could bind the address, which the
panel does not know.
-/

set_option autoImplicit false
set_option relaxedAutoImplicit false

namespace EntroTunnel.Server.File

open EntroTunnel.Core EntroTunnel.Client EntroTunnel.Desktop EntroTunnel.Foundation
  EntroTunnel.Foundation.Document

/-! ### The panel -/

structure ListenerView where
  transport : String
  bind : String
  tls : Bool
  deriving DecidableEq, Repr

structure PeerView where
  name : String
  token : String
  ip : String
  enabled : Bool
  allowGlobal : Bool
  allowHttpProxy : Bool
  online : Bool
  mode : Option String
  addr : Option String
  deriving DecidableEq, Repr

structure StatusResp where
  listeners : List ListenerView
  subnet : String
  gateway : String
  mtu : UInt16
  noisePsk : String
  peers : List PeerView
  deriving DecidableEq, Repr

/-- The row of a peer, for what `Router::online` says of its address: the mode of its session and
the address of its client. -/
def peerView (online : Ipv4Addr → Option (SessionMode × String)) (peer : PeerConfig) :
    PeerView where
  name := peer.name
  token := peer.token
  ip := ipv4Text peer.ip
  enabled := peer.enabled
  allowGlobal := peer.allowGlobal
  allowHttpProxy := peer.allowHttpProxy
  online := (online peer.ip).isSome
  mode := (online peer.ip).map fun session ↦ modeText session.1
  addr := (online peer.ip).map fun session ↦ session.2

/-- `status`. -/
def status (config : ServerConfig) (online : Ipv4Addr → Option (SessionMode × String)) :
    StatusResp where
  listeners := config.listeners.map fun listener ↦
    { transport := transportText listener.transport, bind := listener.bind, tls := listener.tls }
  subnet := config.network.subnet
  gateway := ipv4Text config.network.gateway
  mtu := config.network.mtu
  noisePsk := config.security.noisePsk
  peers := config.peers.map (peerView online)

/-- The transports that the panel offers, each once and in the order of the listeners. -/
def transportOptions (listeners : List ListenerView) : List String :=
  let options := listeners.foldl (fun options listener ↦
    if listener.transport ∈ options then options else options ++ [listener.transport]) []
  if options = [] then ["tcp"] else options

/-- `exPreset`: the port of the first listener with the transport, and whether the client is told
not to verify its certificate. -/
def exPreset (listeners : List ListenerView) (transport : String) : ℤ × Bool :=
  let tls := transport = "ws" ∨ transport = "quic"
  match listeners.find? fun listener ↦ listener.transport = transport with
  | some listener => (portOf listener.bind.toList, decide tls && listener.tls)
  | none =>
    (if transport = "tcp" then 8443 else if transport = "ws" then 8444 else 8445, decide tls)

/-- `openExport`, the choice of a transport, and a host. -/
def openExport (status : StatusResp) (token transport host : String) : Option PanelExport :=
  (status.peers.find? fun peer ↦ peer.token = token).map fun peer ↦
    { name := peer.name
      token := token
      noisePsk := status.noisePsk
      host := host
      port := (exPreset status.listeners transport).1
      transport := transport
      skip := (exPreset status.listeners transport).2 }

/-! ### What the panel passes on -/

section Panel

variable {host : Host} {config : ServerConfig} {started : Startup}

theorem transportText_injective {first second : TransportKind}
    (hsame : transportText first = transportText second) : first = second := by
  cases first <;> cases second <;> first | rfl | exact absurd hsame (by decide)

/-- A transport that a listener has is offered. -/
theorem mem_transportOptions {listeners : List ListenerView} {listener : ListenerView}
    (hmem : listener ∈ listeners) : listener.transport ∈ transportOptions listeners := by
  have hfold : ∀ (listeners : List ListenerView) (options : List String),
      (∀ option ∈ options, option ∈ listeners.foldl (fun options listener ↦
        if listener.transport ∈ options then options
        else options ++ [listener.transport]) options) ∧
      ∀ listener ∈ listeners, listener.transport ∈ listeners.foldl (fun options listener ↦
        if listener.transport ∈ options then options
        else options ++ [listener.transport]) options := by
    intro listeners
    induction listeners with
    | nil => exact fun options ↦ ⟨fun _ hmem ↦ hmem, List.forall_mem_nil _⟩
    | cons first rest ih =>
      intro options
      rw [List.foldl_cons]
      obtain ⟨hkept, hrest⟩ := ih (if first.transport ∈ options then options
        else options ++ [first.transport])
      have hfirst : first.transport ∈ (if first.transport ∈ options then options
          else options ++ [first.transport]) := by
        split_ifs with hseen
        · exact hseen
        · exact List.mem_append_right _ List.mem_cons_self
      refine ⟨fun option hoption ↦ hkept option ?_, fun listener hmem ↦ ?_⟩
      · split_ifs
        · exact hoption
        · exact List.mem_append_left _ hoption
      · rcases List.mem_cons.mp hmem with rfl | hmem
        · exact hkept _ hfirst
        · exact hrest listener hmem
  have hoffered := (hfold listeners []).2 listener hmem
  unfold transportOptions
  dsimp only
  split_ifs with hnone
  · rw [hnone] at hoffered
    exact absurd hoffered List.not_mem_nil
  · exact hoffered

/-- The panel finds the peer that the server finds. -/
theorem find_peer {peer : PeerConfig} {token : String}
    (online : Ipv4Addr → Option (SessionMode × String))
    (hpeer : (config.running host).findPeer token = some peer) :
    (status config online).peers.find? (fun peer ↦ peer.token = token) =
      some (peerView online peer) := by
  have hfound : config.peers.find? (fun peer ↦ peer.token = token) = some peer := hpeer
  rw [status, List.find?_map]
  exact congrArg (Option.map _) hfound

/-- The panel finds the listener whose transport was chosen. -/
theorem find_listener {kind : TransportKind} {listener : ListenerConfig}
    (online : Ipv4Addr → Option (SessionMode × String))
    (hlistener : config.listeners.find? (fun listener ↦ listener.transport = kind) =
      some listener) :
    (status config online).listeners.find?
      (fun listener ↦ listener.transport = transportText kind) =
        some { transport := transportText kind, bind := listener.bind, tls := listener.tls } := by
  have hkind : listener.transport = kind := by
    simpa using List.find?_some hlistener
  have hsame : (fun listener : ListenerConfig ↦
      decide (transportText listener.transport = transportText kind)) =
        fun listener ↦ decide (listener.transport = kind) := by
    funext listener
    exact decide_eq_decide.mpr ⟨transportText_injective, congrArg _⟩
  rw [status, List.find?_map]
  change Option.map _ (config.listeners.find? fun listener ↦
    decide (transportText listener.transport = transportText kind)) = _
  rw [hsame, hlistener, Option.map_some, hkind]

/-- The port that the panel reads off a listening address. -/
theorem portOf_of_parseSocketAddr {text : List Char} {addr : SocketAddr}
    (hparse : parseSocketAddr text = some addr) : portOf text = addr.port.toNat := by
  obtain ⟨before, port, hsplit, hne, hvalue⟩ := port_of_parseSocketAddr hparse
  simp only [portOf, hsplit, hne, if_false, hvalue]
  rfl

/-- The form of the panel for a peer and a listener. -/
theorem openExport_eq {peer : PeerConfig} {kind : TransportKind} {listener : ListenerConfig}
    {addr : SocketAddr} (online : Ipv4Addr → Option (SessionMode × String)) (name : String)
    (hpeer : (config.running host).findPeer peer.token = some peer)
    (hlistener : config.listeners.find? (fun listener ↦ listener.transport = kind) =
      some listener) (haddr : parseSocketAddr listener.bind.toList = some addr) :
    openExport (status config online) peer.token (transportText kind) name =
      some {
        name := peer.name
        token := peer.token
        noisePsk := config.security.noisePsk
        host := name
        port := addr.port.toNat
        transport := transportText kind
        skip := decide (kind ≠ .tcp) && listener.tls } := by
  have hpreset : exPreset (status config online).listeners (transportText kind) =
      ((addr.port.toNat : ℤ), decide (kind ≠ .tcp) && listener.tls) := by
    simp only [exPreset, find_listener online hlistener, portOf_of_parseSocketAddr haddr]
    cases kind <;> rfl
  rw [openExport, find_peer online hpeer, Option.map_some, hpreset]
  rfl

end Panel

/-! ### The client -/

/-- The server takes the `Hello` of the session for that of the peer, unless the mode is one that
the peer may not use. -/
def Admits (config : Server.ServerConfig) (peer : PeerConfig) (server : ServerEntry)
    (mode : SessionMode) (plan : Driver.SessionPlan) : Prop :=
  plan.hops = [server] ∧ plan.session.1 = server ∧
    admission config (some (.hello plan.session.2)) =
      if mode = .globalProxy ∧ peer.allowGlobal = false then
        .rejected "global proxy not allowed for this peer"
      else .accepted peer plan.session.2

/-- A `Hello` with the token of an enabled peer. -/
theorem admission_of_token {config : Server.ServerConfig} {peer : PeerConfig} {hello : Hello}
    {mode : SessionMode} (hversion : hello.version = Server.protocolVersion)
    (hmode : hello.mode = mode.wire) (hpeer : config.findPeer hello.token = some peer)
    (henabled : peer.enabled = true) :
    admission config (some (.hello hello)) =
      if mode = .globalProxy ∧ peer.allowGlobal = false then
        .rejected "global proxy not allowed for this peer"
      else .accepted peer hello := by
  have hwire : hello.mode = .globalProxy ↔ mode = .globalProxy := by
    rw [hmode]
    cases mode <;> simp [SessionMode.wire]
  simp only [admission, hversion, ne_eq, not_true_eq_false, if_false, hpeer, henabled, if_true,
    hwire]

/-- Both engines, without a chain. -/
theorem admits_direct {config : Server.ServerConfig} {peer : PeerConfig} {names : Driver.HostNames}
    {cfg : ClientConfig} {server : ServerEntry} (hchained : ¬ Driver.Chained cfg)
    (hactive : cfg.activeServer? = some server)
    (hpeer : config.findPeer server.token = some peer) (henabled : peer.enabled = true) :
    (∃ plan, Driver.runSession names cfg = some plan ∧ Admits config peer server cfg.mode plan) ∧
      ∃ plan, Driver.androidRun cfg = some plan ∧ Admits config peer server cfg.mode plan := by
  constructor
  · refine ⟨Driver.directSession cfg server, ?_, rfl, rfl, ?_⟩
    · rw [Driver.runSession_of_direct hchained, Driver.runDirect, hactive, Option.map_some]
    · exact admission_of_token rfl rfl hpeer henabled
  · have hrun := Driver.androidRun_of_direct hchained
    rw [hactive, Option.map_some] at hrun
    refine ⟨_, hrun, rfl, rfl, ?_⟩
    exact admission_of_token rfl rfl hpeer henabled

/-! ### From the panel to a session -/

/-- The form as the values that it passes on. -/
def exportValues (config : ServerConfig) (peer : PeerConfig) (listener : ListenerConfig)
    (port : UInt16) (hport : port ≠ 0) (name : String)
    (hhead : ∀ char ∈ name.toList.head?, ¬ isJsWhitespace char)
    (hlast : ∀ char ∈ name.toList.getLast?, ¬ isJsWhitespace char) : PanelValues where
  name := peer.name
  token := peer.token
  noisePsk := config.security.noisePsk
  host := name
  head_host := hhead
  last_host := hlast
  port := port
  port_ne_zero := hport
  transport := listener.transport
  skip := decide (listener.transport ≠ .tcp) && listener.tls

/-- A link with such values is decoded to their profile. -/
theorem decodeLink_buildLink {library : Library} {stringify : Document → String}
    (hlinks : library.Base64Conforms) {values : PanelValues}
    (hkeeps : Keeps (stringifyBytes stringify) library.json values.form.document) :
    decodeLink library.toFormats (buildLink stringify values.form) = .ok values.profile := by
  have hnone : ∀ char ∈ ([] : List Char), isWhitespace char := List.forall_mem_nil _
  obtain ⟨bytes, other, hrender, hparse, hsame⟩ := hkeeps values.plain_document
  have hread : library.fromText readProfile (library.json bytes) = .ok values.profile := by
    rw [hparse, Formats.fromText]
    simp only [values.readsBack_document other hsame]
  rw [buildLink_eq, Except.ok.inj hrender]
  exact decodeLink_pastedLink hlinks hnone hnone true .standard hread

theorem find_server (values : PanelValues) :
    [values.server].find? (fun server ↦ server.name = values.name) = some values.server :=
  List.find?_cons_of_pos (decide_eq_true rfl)

/-- The server of the profile is the one of the values, whichever settings it is used with. -/
theorem activeServer_compose (values : PanelValues) (settings : ConnectionSettings) :
    (ClientConfig.compose values.profile settings).activeServer? =
      some values.server := by
  simp only [ClientConfig.activeServer?, ClientConfig.compose, PanelValues.profile,
    find_server values, Option.getD_some]

theorem activeServer_profile (values : PanelValues) :
    values.profile.activeServer = .ok values.server := by
  simp only [Profile.activeServer, PanelValues.profile, find_server values, Option.getD_some]

/-- For a server that has started, an enabled peer and the first listener with some transport, whose
port is not 0: the panel offers the transport and makes a link, the link is taken for a profile
whose server has the host of the form, the port and the transport of the listener and the key of
this server, and both engines are let in with it, with all settings that make no chain. The listener
accepts connections exactly if its task has bound the address. -/
theorem provisioned_admitted (host : Host) (library : Library) (stringify : Document → String)
    (hlinks : library.Base64Conforms) (hkeys : DecodesStandard host.base64)
    (config : ServerConfig) (started : Startup) (hstarted : startup host config = .ok started)
    (peer : PeerConfig) (hpeer : (config.running host).findPeer peer.token = some peer)
    (henabled : peer.enabled = true) (online : Ipv4Addr → Option (SessionMode × String))
    (listener : ListenerConfig)
    (hlistener : config.listeners.find? (fun other ↦ other.transport = listener.transport) =
      some listener) (hport : portOf listener.bind.toList ≠ 0) (name : String)
    (hhead : ∀ char ∈ name.toList.head?, ¬ isJsWhitespace char)
    (hlast : ∀ char ∈ name.toList.getLast?, ¬ isJsWhitespace char) :
    transportText listener.transport ∈ transportOptions (status config online).listeners ∧
      ∃ form,
        openExport (status config online) peer.token (transportText listener.transport) name =
          some form ∧
        (Keeps (stringifyBytes stringify) library.json form.document →
          ∃ profile server,
            decodeLink library.toFormats (buildLink stringify form) = .ok profile ∧
              profile.activeServer = .ok server ∧ server.host = name ∧
              (∃ index task, config.listeners[index]? = some listener ∧
                task.addr.port = server.port ∧ task.kind = server.transport ∧
                started.listeners[index]? = some task ∧
                ((task, index) ∈ started.listening host ↔
                  host.bind index task started.security = none)) ∧
              parsePsk library.base64 server.noisePsk = .ok started.security.noisePsk ∧
              ∀ (names : Driver.HostNames) (settings : ConnectionSettings),
                let cfg := (ClientConfig.compose profile settings)
                ¬ Driver.Chained cfg →
                  (∃ plan, Driver.runSession names cfg = some plan ∧
                    Admits (config.running host) peer server settings.mode plan) ∧
                  ∃ plan, Driver.androidRun cfg = some plan ∧
                    Admits (config.running host) peer server settings.mode plan) := by
  obtain ⟨hpsk, htasks⟩ := startup_eq_ok hstarted
  obtain ⟨index, hindex⟩ := List.getElem?_of_mem (List.mem_of_find?_eq_some hlistener)
  obtain ⟨addr, haddr, htask⟩ := getElem?_listenerTasks htasks hindex
  have hnonzero : addr.port ≠ 0 := by
    intro hzero
    rw [portOf_of_parseSocketAddr haddr, hzero] at hport
    exact hport rfl
  let values := exportValues config peer listener addr.port hnonzero name hhead hlast
  refine ⟨?_, values.form, openExport_eq online name hpeer hlistener haddr, fun hkeeps ↦ ?_⟩
  · exact mem_transportOptions (List.mem_of_find?_eq_some (find_listener online hlistener))
  · refine ⟨values.profile, values.server, decodeLink_buildLink hlinks hkeeps,
      activeServer_profile values, rfl,
        ⟨index, _, hindex, rfl, rfl, htask, mem_listening htask⟩, ?_,
      fun names settings hchained ↦ ?_⟩
    · -- Both base64 libraries take the same texts for a key.
      have hbase64 : DecodesStandard library.base64 := hlinks .standard
      exact (parsePsk_iff hbase64 _ _).mpr ((parsePsk_iff hkeys _ _).mp hpsk)
    · exact admits_direct hchained (activeServer_compose values settings) hpeer henabled

/-! ### A link for the starter configuration -/

def exampleListener : ListenerConfig where
  transport := .tcp
  bind := "0.0.0.0:8443"
  tls := true

def examplePeer : PeerConfig where
  name := "example"
  token := "p0"
  ip := ipv4 10 66 0 2

theorem examplePort_ne_zero : (8443 : UInt16) ≠ 0 := by decide

def exampleValues : PanelValues :=
  exportValues starterConfig examplePeer exampleListener 8443 examplePort_ne_zero "vpn.example.com"
    head_panelHost last_panelHost

def exampleText : String :=
  "\x7b\"name\":\"example\",\"selected_server\":\"example\",\"servers\":[\x7b" ++
    "\"name\":\"example\",\"host\":\"vpn.example.com\",\"port\":8443,\"transport\":\"tcp\"," ++
    "\"token\":\"p0\",\"noise_psk\":\"" ++ generatePsk zeroKey ++
    "\",\"tls_skip_verify\":false\x7d]\x7d"

/-- A client that knows the text of the link. -/
def exampleLibrary : Library :=
  { linkLibrary with
    json := fun bytes ↦
      if bytes = exampleText.toUTF8.toList then .ok exampleValues.form.document
      else .error "expected value" }

theorem exampleLibrary_keeps :
    Keeps (stringifyBytes fun _ ↦ exampleText) exampleLibrary.json exampleValues.form.document := by
  have hparse : exampleLibrary.json exampleText.toUTF8.toList =
      .ok exampleValues.form.document := by
    simp only [exampleLibrary, if_true]
  exact fun _ ↦ ⟨_, _, rfl, hparse, .refl _⟩

/-- The link for the peer of the starter configuration, whose only listener the server has bound. -/
theorem provisioned_admitted_example : ∃ profile server plan,
    decodeLink exampleLibrary.toFormats (buildLink (fun _ ↦ exampleText) exampleValues.form) =
        .ok profile ∧
      profile.activeServer = .ok server ∧ server.host = "vpn.example.com" ∧
      (∃ task, task.addr.port = server.port ∧ (task, 0) ∈ starterStartup.listening starterHost) ∧
      Driver.androidRun (ClientConfig.compose profile {}) = some plan ∧
      Admits (starterConfig.running starterHost) examplePeer server .globalProxy plan := by
  have haddr : parseSocketAddr exampleListener.bind.toList = some ⟨.v4 0, 8443⟩ := by
    decide +kernel
  have hport : portOf exampleListener.bind.toList ≠ 0 := by
    rw [portOf_of_parseSocketAddr haddr]
    decide
  have hexample : (starterConfig.running starterHost).findPeer examplePeer.token =
      some examplePeer := rfl
  have hexampleListener : starterConfig.listeners.find?
      (fun other ↦ other.transport = exampleListener.transport) = some exampleListener := rfl
  obtain ⟨-, form, hform, hclient⟩ := provisioned_admitted starterHost exampleLibrary
    (fun _ ↦ exampleText) linkLibrary_conforms strictBase64_decodes starterConfig starterStartup
    startup_starterHost examplePeer hexample rfl (fun _ ↦ none) exampleListener hexampleListener
    hport "vpn.example.com" head_panelHost last_panelHost
  obtain rfl : exampleValues.form = form := by
    have hexport := @openExport_eq starterHost _ _ _ _ _ (fun _ ↦ none) "vpn.example.com"
      hexample hexampleListener haddr
    exact Option.some.inj (hexport.symm.trans hform)
  obtain ⟨profile, server, hlink, hactive, hhost, ⟨index, task, hindex, htaskPort, -, -, hlistens⟩,
    -, hadmits⟩ := hclient exampleLibrary_keeps
  have hfirst : index = 0 := by
    have hinside := (List.getElem?_eq_some_iff.mp hindex).1
    exact Nat.lt_one_iff.mp hinside
  subst hfirst
  obtain ⟨-, plan, hplan, hadmitted⟩ := hadmits Driver.literalNames {} (Nat.not_succ_le_zero 1)
  exact ⟨profile, server, plan, hlink, hactive, hhost, ⟨task, htaskPort, hlistens.mpr rfl⟩, hplan,
    hadmitted⟩

end EntroTunnel.Server.File
