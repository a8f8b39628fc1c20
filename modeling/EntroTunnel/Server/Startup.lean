import EntroTunnel.Server.ConfigFile

/-!
# The start of a server

`run` of `server/src/main.rs` after the configuration is loaded. It gives up when it finds something
wrong with the subnet, the key, the certificate or an address. What it has then is a `Startup`: the
material of the server and one task for each listener. The tasks bind their addresses on their own.
One that fails logs the error, and the server goes on without that listener (`Startup.listening`).
-/

set_option autoImplicit false
set_option relaxedAutoImplicit false

namespace EntroTunnel.Server.File

open EntroTunnel.Core EntroTunnel.Client EntroTunnel.Desktop EntroTunnel.Foundation

/-- `ServerSecurity`. -/
structure ServerSecurity where
  noisePsk : Psk
  tlsCertPem : String
  tlsKeyPem : String

/-- What the accept loop of a listener is spawned with. -/
structure ListenerTask where
  addr : SocketAddr
  kind : TransportKind
  wsTls : Bool
  deriving DecidableEq, Repr

/-- What a server asks of other packages, of the file system and of the network. -/
structure Host where
  parseIpv4Net : String → Except String Ipv4Net
  parseIpv6Net : String → Option Ipv6Net
  base64 : List Char → Except String Bytes
  readToString : String → Except String String
  generateSelfSigned : Except String (String × String)
  /-- `Listener::bind` in the task of the listener at an index; `none` is success. -/
  bind : ℕ → ListenerTask → ServerSecurity → Option String

/-- A server that is up. -/
structure Startup where
  prefixLen : ℕ
  security : ServerSecurity
  listeners : List ListenerTask
  web : SocketAddr

/-- The listeners that accept connections, with their indices. -/
def Startup.listening (host : Host) (started : Startup) : List (ListenerTask × ℕ) :=
  started.listeners.zipIdx.filter fun entry ↦ (host.bind entry.2 entry.1 started.security).isNone

/-- The part of a configuration that decides about sessions. -/
def ServerConfig.running (host : Host) (config : ServerConfig) : Server.ServerConfig where
  network := {
    subnet := (host.parseIpv4Net config.network.subnet).toOption
    gateway := config.network.gateway
    mtu := config.network.mtu
    dns := config.network.dns
    subnet6 := config.network.subnet6.bind host.parseIpv6Net
    gateway6 := config.network.gateway6
    dns6 := config.network.dns6 }
  peers := config.peers

@[simp] theorem ServerConfig.running_peers (host : Host) (config : ServerConfig) :
    (config.running host).peers = config.peers := rfl

section Startups

variable (host : Host)

/-- `prefix_len`. -/
def prefixLen (config : ServerConfig) : Except String ℕ :=
  match host.parseIpv4Net config.network.subnet with
  | .ok net => .ok net.prefixLen
  | .error error => .error ("config: bad subnet " ++ config.network.subnet ++ ": " ++ error)

/-- `tls_material`. The new pair is written next to the configuration as well, whether or not that
succeeds. -/
def tlsMaterial (config : ServerConfig) : Except String (String × String) :=
  match config.security.tlsCertPath, config.security.tlsKeyPath with
  | some cert, some key =>
    match host.readToString cert with
    | .error error => .error ("read cert " ++ cert ++ ": " ++ error)
    | .ok certPem =>
      match host.readToString key with
      | .error error => .error ("read key " ++ key ++ ": " ++ error)
      | .ok keyPem => .ok (certPem, keyPem)
  | _, _ =>
    if config.listeners.any fun listener ↦ listener.transport ≠ .tcp then host.generateSelfSigned
    else .ok ("", "")

/-- The tasks of the listeners. An address that is none ends `run`. -/
def listenerTasks : List ListenerConfig → Except String (List ListenerTask)
  | [] => .ok []
  | listener :: rest =>
    match parseSocketAddr listener.bind.toList with
    | none => .error ("bad listener bind " ++ listener.bind)
    | some addr =>
      (listenerTasks rest).map fun tasks ↦
        { addr, kind := listener.transport, wsTls := listener.tls } :: tasks

/-- `run`, after the configuration is loaded. -/
def startup (config : ServerConfig) : Except String Startup :=
  match prefixLen host config with
  | .error error => .error ("subnet prefix: " ++ error)
  | .ok prefixLen =>
    match parsePsk host.base64 config.security.noisePsk with
    | .error error => .error ("noise_psk: config: " ++ error)
    | .ok noisePsk =>
      match tlsMaterial host config with
      | .error error => .error error
      | .ok (tlsCertPem, tlsKeyPem) =>
        match listenerTasks config.listeners with
        | .error error => .error error
        | .ok listeners =>
          match parseSocketAddr config.web.bind.toList with
          | none => .error ("bad web bind " ++ config.web.bind)
          | some web =>
            .ok { prefixLen, security := { noisePsk, tlsCertPem, tlsKeyPem }, listeners, web }

end Startups

section Started

variable {host : Host} {config : ServerConfig} {started : Startup}

/-- What a server that has started has passed. -/
theorem startup_eq_ok (hstarted : startup host config = .ok started) :
    parsePsk host.base64 config.security.noisePsk = .ok started.security.noisePsk ∧
      listenerTasks config.listeners = .ok started.listeners := by
  unfold startup at hstarted
  cases hlength : prefixLen host config with
  | error error =>
    simp only [hlength] at hstarted
    cases hstarted
  | ok prefixLen =>
    cases hpsk : parsePsk host.base64 config.security.noisePsk with
    | error error =>
      simp only [hlength, hpsk] at hstarted
      cases hstarted
    | ok noisePsk =>
      cases htls : tlsMaterial host config with
      | error error =>
        simp only [hlength, hpsk, htls] at hstarted
        cases hstarted
      | ok pems =>
        cases htasks : listenerTasks config.listeners with
        | error error =>
          simp only [hlength, hpsk, htls, htasks] at hstarted
          cases hstarted
        | ok listeners =>
          cases hweb : parseSocketAddr config.web.bind.toList with
          | none =>
            simp only [hlength, hpsk, htls, htasks, hweb] at hstarted
            cases hstarted
          | some web =>
            simp only [hlength, hpsk, htls, htasks, hweb, Except.ok.injEq] at hstarted
            obtain rfl := hstarted
            exact ⟨rfl, rfl⟩

/-- The peers play no part in the start. -/
theorem startup_with_peers (peers : List PeerConfig) :
    startup host { config with peers } = startup host config := rfl

/-- The task of a listener has the address of its text, its transport and its TLS setting. -/
theorem getElem?_listenerTasks {listeners : List ListenerConfig} {tasks : List ListenerTask}
    (htasks : listenerTasks listeners = .ok tasks) {index : ℕ} {listener : ListenerConfig}
    (hlistener : listeners[index]? = some listener) :
    ∃ addr, parseSocketAddr listener.bind.toList = some addr ∧
      tasks[index]? = some { addr, kind := listener.transport, wsTls := listener.tls } := by
  induction listeners generalizing tasks index with
  | nil => cases hlistener
  | cons first rest ih =>
    rw [listenerTasks] at htasks
    cases haddr : parseSocketAddr first.bind.toList with
    | none =>
      rw [haddr] at htasks
      cases htasks
    | some addr =>
      simp only [haddr] at htasks
      cases hrest : listenerTasks rest with
      | error error =>
        rw [hrest] at htasks
        cases htasks
      | ok others =>
        rw [hrest] at htasks
        obtain rfl := Except.ok.inj htasks
        cases index with
        | zero =>
          obtain rfl := Option.some.inj hlistener
          exact ⟨addr, haddr, rfl⟩
        | succ index =>
          rw [List.getElem?_cons_succ] at hlistener ⊢
          exact ih hrest hlistener

/-- A listener accepts connections exactly if its task has bound the address. -/
theorem mem_listening {task : ListenerTask} {index : ℕ}
    (htask : started.listeners[index]? = some task) :
    (task, index) ∈ started.listening host ↔ host.bind index task started.security = none := by
  rw [Startup.listening, List.mem_filter, List.mem_zipIdx_iff_getElem?, Option.isNone_iff_eq_none]
  exact and_iff_right htask

end Started

/-! ### The starter configuration -/

section Example

/-- The configuration that `gen-config` writes, with the key of zeros. -/
def starterConfig : ServerConfig :=
  .template zeroKey "a0" "p0"

theorem starterPrefix_le : 24 ≤ 32 := by
  decide

theorem starterPrefix6_le : 64 ≤ 128 := by
  decide

/-- A host that knows the networks of the starter configuration, and whose ports are free. -/
def starterHost : Host where
  parseIpv4Net := fun text ↦
    if text = "10.66.0.0/24" then .ok ⟨0x0a420000#32, 24, starterPrefix_le⟩
    else .error "invalid IP address syntax"
  parseIpv6Net := fun text ↦
    if text = "fd66::/64" then some ⟨0xfd660000000000000000000000000000#128, 64, starterPrefix6_le⟩
    else none
  base64 := strictBase64
  readToString := fun _ ↦ .error "not found"
  generateSelfSigned := .error "no random numbers"
  bind := fun _ _ _ ↦ none

/-- What the starter configuration is started as. -/
def starterStartup : Startup where
  prefixLen := 24
  security := { noisePsk := zeroKey, tlsCertPem := "", tlsKeyPem := "" }
  listeners := [{ addr := ⟨.v4 0, 8443⟩, kind := .tcp, wsTls := true }]
  web := ⟨.v4 (ipv4 127 0 0 1), 9000⟩

theorem startup_starterHost : startup starterHost starterConfig = .ok starterStartup := by
  have hpsk : parsePsk starterHost.base64 starterConfig.security.noisePsk = .ok zeroKey :=
    (parsePsk_iff strictBase64_decodes _ _).mpr (trim_generatePsk zeroKey)
  have hbind : parseSocketAddr "0.0.0.0:8443".toList = some ⟨.v4 0, 8443⟩ := by decide +kernel
  have htasks : listenerTasks starterConfig.listeners = .ok starterStartup.listeners := by
    have hfirst : starterConfig.listeners =
        [{ transport := .tcp, bind := "0.0.0.0:8443", tls := true }] := rfl
    rw [hfirst, listenerTasks]
    simp only [hbind, listenerTasks]
    rfl
  have hadmin : parseSocketAddr starterConfig.web.bind.toList =
      some ⟨.v4 (ipv4 127 0 0 1), 9000⟩ := by decide +kernel
  have htls : tlsMaterial starterHost starterConfig = .ok ("", "") := rfl
  have hlength : prefixLen starterHost starterConfig = .ok 24 := rfl
  simp only [startup, hlength, hpsk, htls, htasks, hadmin, starterStartup]

end Example

end EntroTunnel.Server.File
