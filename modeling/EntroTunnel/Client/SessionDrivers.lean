import EntroTunnel.Client.Profile
import EntroTunnel.Server.Configuration

/-!
# The two session drivers

The desktop engine (`run_session` of `client-core/src/engine.rs`) and the Android engine (`run` of
`mobile/android/rust/src/engine.rs`) each decide from the profile which servers to connect to and
what to greet them with. A `SessionPlan` is that decision: the servers in the order in which they
are dialed, the server that the session runs with and its `Hello`, and the same for every server
whose `Welcome` configures a virtual NIC. It is `none` when there is no server to connect to.

The desktop engine writes the address of the first hop of a chain in place of its name. Plans are
compared by the addresses that the hosts resolve to (`SessionPlan.wire`). A host that does not
resolve and a malformed key end a session of either engine before it dials.

The Android engine leaves the connections to `connect_chain`, whose `Hello` never joins the VPN, and
relays a pure VPN session over the chain. `drivers_agree_iff` is the condition under which the two
plans are the same.
-/

set_option autoImplicit false
set_option relaxedAutoImplicit false

namespace EntroTunnel.Client.Driver

open EntroTunnel.Core EntroTunnel.Server

/-! ### Plans -/

/-- The connections of a session. -/
structure SessionPlan where
  /-- The first is dialed directly, each other one through the one before it. -/
  hops : List ServerEntry
  session : ServerEntry × Hello
  nics : List (ServerEntry × Hello)
  deriving DecidableEq, Repr

/-- `chain::handshake`. -/
def handshake (srv : ServerEntry) (mode : SessionMode) (requestedIp : Option Ipv4Addr)
    (clientName : Option String) : Hello where
  version := protocolVersion
  token := srv.token
  mode := mode.wire
  requestedIp := requestedIp
  clientName := clientName
  joinVpn := false

/-- The `Hello` of each hop in `chain::connect_chain`: the last hop runs the mode of the session. -/
def connectChain (finalMode : SessionMode) (requestedIp : Option Ipv4Addr)
    (clientName : Option String) : List ServerEntry → List (ServerEntry × Hello)
  | [] => []
  | [last] => [(last, handshake last finalMode requestedIp clientName)]
  | hop :: next :: rest =>
    (hop, handshake hop .httpProxy none clientName) ::
      connectChain finalMode requestedIp clientName (next :: rest)

/-- The packet modes, whose `Welcome` configures a virtual NIC. -/
def packetMode (mode : SessionMode) : Bool :=
  mode = .globalProxy || mode = .vpn

/-! ### The desktop engine -/

/-- What a host resolves to, as text, and which hosts are addresses already. An address resolves to
itself. -/
structure HostNames where
  address : String → UInt16 → Option String
  isAddress : String → Bool
  address_self : ∀ {host port ip}, address host port = some ip → ∀ other, address ip other = some ip

/-- `run_session` with one server. A member of the VPN gets a NIC in every mode. -/
def directSession (cfg : ClientConfig) (server : ServerEntry) : SessionPlan :=
  let hello : Hello :=
    { version := protocolVersion
      token := server.token
      mode := cfg.mode.wire
      requestedIp := cfg.requestedIp
      clientName := cfg.clientName
      joinVpn := cfg.joinVpn }
  { hops := [server]
    session := (server, hello)
    nics := if packetMode cfg.mode || cfg.joinVpn then [(server, hello)] else [] }

/-- `run_session` without a chain. -/
def runDirect (cfg : ClientConfig) : Option SessionPlan :=
  cfg.activeServer?.map (directSession cfg)

/-- The first hop is dialed by its address, with its name as the TLS name. -/
def preResolve (names : HostNames) : List ServerEntry → List ServerEntry
  | [] => []
  | hop :: rest =>
    match names.address hop.host hop.port with
    | some ip =>
      { hop with
        host := ip
        serverName :=
          if hop.serverName = none ∧ names.isAddress hop.host = false then some hop.host
          else hop.serverName } :: rest
    | none => hop :: rest

/-- `run_chain_session`. The egress tunnel has a NIC in global-proxy mode only, and the session of
`spawn_vpn_lan` has its own. -/
def runChainSession (names : HostNames) (cfg : ClientConfig) (hop0 : ServerEntry)
    (hops : List ServerEntry) : Option SessionPlan :=
  if cfg.mode = .vpn then
    runDirect { cfg with chain := [], selectedServer := some hop0.name }
  else
    (connectChain cfg.mode cfg.requestedIp cfg.clientName (preResolve names hops)).getLast?.map
      fun egress ↦
        { hops := preResolve names hops
          session := egress
          nics := (if cfg.mode = .globalProxy then [egress] else []) ++
            if cfg.joinVpn then ((runDirect (spawnVpnLan cfg hop0)).map SessionPlan.nics).getD []
            else [] }

/-- `run_session`. -/
def runSession (names : HostNames) (cfg : ClientConfig) : Option SessionPlan :=
  if cfg.chain ≠ [] then
    match resolveHops cfg.chain cfg.servers with
    | hop0 :: next :: rest => runChainSession names cfg hop0 (hop0 :: next :: rest)
    | _ => runDirect cfg
  else runDirect cfg

/-! ### The Android engine -/

/-- `hops_of`. -/
def hopsOf (cfg : ClientConfig) : Option (List ServerEntry) :=
  if 2 ≤ cfg.chain.length ∧ 2 ≤ (resolveHops cfg.chain cfg.servers).length then
    some (resolveHops cfg.chain cfg.servers)
  else cfg.activeServer?.map fun server ↦ [server]

/-- `run` of the Android engine. Only the packet modes wait for a `VpnService`. -/
def androidRun (cfg : ClientConfig) : Option SessionPlan :=
  (hopsOf cfg).bind fun hops ↦
    (connectChain cfg.mode cfg.requestedIp cfg.clientName hops).getLast?.map fun session ↦
      { hops := hops
        session := session
        nics := if packetMode cfg.mode then [session] else [] }

/-! ### Plans on the wire -/

/-- The server by its address. -/
def dialed (names : HostNames) (server : ServerEntry) : ServerEntry :=
  { server with
    host := (names.address server.host server.port).getD server.host
    serverName := none }

/-- The plan as the servers see it. -/
def SessionPlan.wire (names : HostNames) (plan : SessionPlan) : SessionPlan :=
  { hops := plan.hops.map (dialed names)
    session := (dialed names plan.session.1, plan.session.2)
    nics := plan.nics.map fun nic ↦ (dialed names nic.1, nic.2) }

/-- Both engines connect to the same servers in the same order and greet those whose `Welcome` they
use in the same way, or neither has a server to connect to. -/
def DriversAgree (names : HostNames) (cfg : ClientConfig) : Prop :=
  (runSession names cfg).map (SessionPlan.wire names) =
    (androidRun cfg).map (SessionPlan.wire names)

/-- The session is relayed over a chain. -/
def Chained (cfg : ClientConfig) : Prop :=
  2 ≤ (resolveHops cfg.chain cfg.servers).length

instance (cfg : ClientConfig) : Decidable (Chained cfg) :=
  inferInstanceAs (Decidable (_ ≤ _))

section Drivers

variable {names : HostNames} {cfg : ClientConfig}

theorem resolveHops_length_le (chain : List String) (servers : List ServerEntry) :
    (resolveHops chain servers).length ≤ chain.length :=
  List.length_filterMap_le _ _

/-- Writing the address of the first hop in place of its name changes no server. -/
theorem map_dialed_preResolve (hops : List ServerEntry) :
    (preResolve names hops).map (dialed names) = hops.map (dialed names) := by
  cases hops with
  | nil => rfl
  | cons hop rest =>
    rw [preResolve]
    split
    · rename_i ip haddress
      have hself := names.address_self haddress hop.port
      simp only [List.map_cons, dialed, haddress, hself, Option.getD_some]
    · rfl

/-- A direct session of the Android engine. -/
theorem androidRun_of_direct (hchained : ¬ Chained cfg) :
    androidRun cfg = cfg.activeServer?.map fun server ↦
      { hops := [server]
        session := (server, handshake server cfg.mode cfg.requestedIp cfg.clientName)
        nics := if packetMode cfg.mode then
          [(server, handshake server cfg.mode cfg.requestedIp cfg.clientName)] else [] } := by
  have hdirect : ¬ (2 ≤ cfg.chain.length ∧ 2 ≤ (resolveHops cfg.chain cfg.servers).length) :=
    fun h ↦ hchained h.2
  rw [androidRun, hopsOf, if_neg hdirect]
  cases cfg.activeServer? with
  | none => rfl
  | some server => rfl

/-- A chained session of the Android engine. -/
theorem androidRun_of_chained (hchained : Chained cfg) :
    androidRun cfg =
      (connectChain cfg.mode cfg.requestedIp cfg.clientName
        (resolveHops cfg.chain cfg.servers)).getLast?.map fun session ↦
          { hops := resolveHops cfg.chain cfg.servers
            session := session
            nics := if packetMode cfg.mode then [session] else [] } := by
  have hlength := resolveHops_length_le cfg.chain cfg.servers
  have hboth : 2 ≤ cfg.chain.length ∧ 2 ≤ (resolveHops cfg.chain cfg.servers).length :=
    ⟨le_trans hchained hlength, hchained⟩
  rw [androidRun, hopsOf, if_pos hboth]
  rfl

theorem runSession_of_direct (hchained : ¬ Chained cfg) : runSession names cfg = runDirect cfg := by
  rw [runSession]
  split_ifs
  · split
    · rename_i hop0 next rest hhops
      rw [Chained, hhops] at hchained
      exact absurd (by simp) hchained
    · rfl
  · rfl

/-- The first hop of a chained session. -/
theorem exists_first_hop (hchained : Chained cfg) :
    ∃ hop0 next rest, resolveHops cfg.chain cfg.servers = hop0 :: next :: rest := by
  rw [Chained] at hchained
  cases hhops : resolveHops cfg.chain cfg.servers with
  | nil => simp [hhops] at hchained
  | cons hop0 others =>
    cases others with
    | nil => simp [hhops] at hchained
    | cons next rest => exact ⟨hop0, next, rest, rfl⟩

theorem runSession_of_chained {hop0 next : ServerEntry} {rest : List ServerEntry}
    (hhops : resolveHops cfg.chain cfg.servers = hop0 :: next :: rest) :
    runSession names cfg = runChainSession names cfg hop0 (hop0 :: next :: rest) := by
  have hchain : cfg.chain ≠ [] := by
    intro hempty
    rw [hempty] at hhops
    cases hhops
  rw [runSession, if_pos hchain, hhops]

/-- The first hop is found among the servers. -/
theorem find_first_hop {hop0 : ServerEntry} {rest : List ServerEntry}
    (hhops : resolveHops cfg.chain cfg.servers = hop0 :: rest) :
    (cfg.servers.find? fun server ↦ server.name = hop0.name) = some hop0 := by
  have hmem : hop0 ∈ resolveHops cfg.chain cfg.servers := by
    rw [hhops]
    exact List.mem_cons_self
  obtain ⟨name, -, hname⟩ := List.mem_filterMap.mp hmem
  have hsame : hop0.name = name := by simpa using List.find?_some hname
  rw [hsame]
  exact hname

/-- The server that a profile selects by the name of a hop. -/
theorem activeServer_of_hop {hop0 : ServerEntry} {rest : List ServerEntry}
    (hhops : resolveHops cfg.chain cfg.servers = hop0 :: rest) (other : ClientConfig)
    (hservers : other.servers = cfg.servers) (hselected : other.selectedServer = some hop0.name) :
    other.activeServer? = some hop0 := by
  have hname := find_first_hop hhops
  rw [← hservers] at hname
  rw [ClientConfig.activeServer?, hselected]
  cases hlist : other.servers with
  | nil =>
    rw [hlist] at hname
    cases hname
  | cons first others =>
    rw [hlist] at hname
    dsimp only
    rw [hname]
    rfl

/-- The last greeting of a chain is that of its last hop. -/
theorem getLast?_connectChain (mode : SessionMode) (requestedIp : Option Ipv4Addr)
    (clientName : Option String) (hops : List ServerEntry) :
    (connectChain mode requestedIp clientName hops).getLast? =
      hops.getLast?.map fun last ↦ (last, handshake last mode requestedIp clientName) := by
  induction hops with
  | nil => rfl
  | cons hop rest ih =>
    cases rest with
    | nil => rfl
    | cons next others =>
      rw [connectChain, List.getLast?_cons_cons, ← ih]
      cases hgreeted : connectChain mode requestedIp clientName (next :: others) with
      | nil =>
        rw [hgreeted] at ih
        simp at ih
      | cons pair pairs => rw [List.getLast?_cons_cons]

theorem getLast?_preResolve (hop0 next : ServerEntry) (rest : List ServerEntry) :
    (preResolve names (hop0 :: next :: rest)).getLast? = (hop0 :: next :: rest).getLast? := by
  rw [preResolve]
  split
  · rw [List.getLast?_cons_cons, List.getLast?_cons_cons]
  · rfl

/-- A chained session of the desktop engine outside VPN mode. The background session greets the
first hop and gets a NIC. -/
theorem runSession_of_egress (names : HostNames) {hop0 next : ServerEntry} {rest : List ServerEntry}
    (hhops : resolveHops cfg.chain cfg.servers = hop0 :: next :: rest) (hmode : cfg.mode ≠ .vpn) :
    ∃ lan, runSession names cfg =
      (hop0 :: next :: rest).getLast?.map fun last ↦
        { hops := preResolve names (hop0 :: next :: rest)
          session := (last, handshake last cfg.mode cfg.requestedIp cfg.clientName)
          nics := (if cfg.mode = .globalProxy then
              [(last, handshake last cfg.mode cfg.requestedIp cfg.clientName)] else []) ++
            if cfg.joinVpn then [lan] else [] } := by
  have hlan : runDirect (spawnVpnLan cfg hop0) =
      some (directSession (spawnVpnLan cfg hop0) hop0) := by
    rw [runDirect, activeServer_of_hop hhops (spawnVpnLan cfg hop0) rfl rfl]
    rfl
  refine ⟨(hop0, (directSession (spawnVpnLan cfg hop0) hop0).session.2), ?_⟩
  rw [runSession_of_chained hhops, runChainSession, if_neg hmode, getLast?_connectChain,
    getLast?_preResolve, hlan, Option.map_map]
  rfl

theorem activeServer_ne_none (hchained : Chained cfg) : cfg.activeServer? ≠ none := by
  obtain ⟨hop0, next, rest, hhops⟩ := exists_first_hop hchained
  have hname := find_first_hop hhops
  rw [ClientConfig.activeServer?]
  cases hservers : cfg.servers with
  | nil =>
    rw [hservers] at hname
    cases hname
  | cons first others =>
    cases cfg.selectedServer with
    | none => simp
    | some selected => simp

/-- Direct sessions agree when the profile does not ask to join the VPN. -/
theorem direct_agree_iff (hchained : ¬ Chained cfg) :
    DriversAgree names cfg ↔ cfg.activeServer? = none ∨ cfg.joinVpn = false := by
  rw [DriversAgree, runSession_of_direct hchained, androidRun_of_direct hchained, runDirect]
  cases cfg.activeServer? with
  | none => simp
  | some server =>
    simp only [Option.map_some, Option.some.injEq, reduceCtorEq, false_or]
    constructor
    · intro hsame
      exact congrArg (fun plan ↦ plan.session.2.joinVpn) hsame
    · intro hjoin
      rw [directSession, hjoin, Bool.or_false]
      rfl

/-- Over a chain the engines agree outside VPN mode, when the profile does not ask to join the VPN.
-/
theorem chained_agree_iff (hchained : Chained cfg) :
    DriversAgree names cfg ↔ cfg.joinVpn = false ∧ cfg.mode ≠ .vpn := by
  obtain ⟨hop0, next, rest, hhops⟩ := exists_first_hop hchained
  obtain ⟨last, hlast⟩ : ∃ last, (hop0 :: next :: rest).getLast? = some last :=
    ⟨_, List.getLast?_eq_some_getLast (List.cons_ne_nil _ _)⟩
  rw [DriversAgree, androidRun_of_chained hchained, getLast?_connectChain, hhops, hlast]
  by_cases hmode : cfg.mode = .vpn
  · -- the desktop engine dials the first hop and no other
    have hdirect : runSession names cfg =
        some (directSession { cfg with chain := [], selectedServer := some hop0.name } hop0) := by
      rw [runSession_of_chained hhops, runChainSession, if_pos hmode, runDirect,
        activeServer_of_hop hhops
          { cfg with chain := [], selectedServer := some hop0.name } rfl rfl]
      rfl
    rw [hdirect]
    constructor
    · intro hsame
      have hlength := congrArg (fun plan ↦ (plan.map fun plan ↦ plan.hops.length)) hsame
      simp [directSession, SessionPlan.wire] at hlength
    · exact fun hagree ↦ absurd hmode hagree.2
  · obtain ⟨lan, hdesktop⟩ := runSession_of_egress names hhops hmode
    have hpacket : packetMode cfg.mode = decide (cfg.mode = .globalProxy) := by
      rw [packetMode, decide_eq_false hmode, Bool.or_false]
    rw [hdesktop, hlast, hpacket]
    simp only [Option.map_some, Option.some.injEq, SessionPlan.wire, map_dialed_preResolve,
      decide_eq_true_eq]
    constructor
    · intro hsame
      refine ⟨?_, hmode⟩
      have hlength := congrArg (fun plan ↦ plan.nics.length) hsame
      by_contra hjoin
      rw [Bool.not_eq_false] at hjoin
      simp [hjoin] at hlength
    · rintro ⟨hjoin, -⟩
      rw [hjoin]
      simp

end Drivers

/-- The two engines connect alike exactly when there is no server at all, or the profile does not
ask to join the VPN and does not run VPN mode over a chain. -/
theorem drivers_agree_iff (names : HostNames) (cfg : ClientConfig) :
    DriversAgree names cfg ↔
      cfg.activeServer? = none ∨ (cfg.joinVpn = false ∧ ¬ (Chained cfg ∧ cfg.mode = .vpn)) := by
  by_cases hchained : Chained cfg
  · have hserver := activeServer_ne_none hchained
    rw [chained_agree_iff hchained]
    simp [hserver, hchained]
  · rw [direct_agree_iff hchained]
    simp [hchained]

section Example

/-- Every host is an address. -/
def literalNames : HostNames where
  address := fun host _ ↦ some host
  isAddress := fun _ ↦ true
  address_self := fun h _ ↦ by cases h; rfl

/-- A profile with one server that joins its VPN beside the global proxy. -/
def joiningProfile : ClientConfig where
  mode := .globalProxy
  joinVpn := true
  servers :=
    [{ name := "home", host := "198.51.100.7", port := 8443, token := "secret", noisePsk := "" }]

/-- The Android engine does not ask to join the VPN. -/
theorem drivers_disagree :
    ¬ ∀ (names : HostNames) (cfg : ClientConfig), DriversAgree names cfg := by
  intro hall
  have hagree := hall literalNames joiningProfile
  rw [DriversAgree] at hagree
  exact absurd hagree (by decide +kernel)

end Example

end EntroTunnel.Client.Driver
