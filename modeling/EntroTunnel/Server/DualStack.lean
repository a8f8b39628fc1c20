import EntroTunnel.Server.Connections

/-!
# The two maps of a dual-stack server

`register` writes the IPv6 index first and `unregister` the IPv4 map first, and nothing keeps the
calls of two connections apart. Each map remembers the call that wrote to it last, so the maps agree
about an address exactly when the last writes to its two keys were made by one registration, or both
by unregistrations (`maps_agree_iff`). When two sessions of a peer register at the same time this
can fail: each map then holds another session (`maps_disagree`).
-/

set_option autoImplicit false
set_option relaxedAutoImplicit false

namespace EntroTunnel.Server

open EntroTunnel.Core EntroTunnel.Foundation

namespace AppState

/-- A write under an IP: by the registration of a session, or by an unregistration. -/
abbrev Write := Ipv4Addr × Option ℕ

/-- The write of a step to the IPv4 map. -/
def write4 (state : AppState) : ServerAction → Option Write
  | .insert4 index => state.connections[index]?.map fun connection ↦ (connection.ip, some index)
  | .remove4 index => state.connections[index]?.map fun connection ↦ (connection.ip, none)
  | _ => none

/-- The write of a step to the IPv6 index, under the IPv4 address it belongs to. -/
def write6 (state : AppState) : ServerAction → Option Write
  | .insert6 index => state.connections[index]?.map fun connection ↦ (connection.ip, some index)
  | .remove6 index => state.connections[index]?.map fun connection ↦ (connection.ip, none)
  | _ => none

/-- The writes of a run, the latest first. -/
def writes (write : AppState → ServerAction → Option Write) : AppState → List ServerAction →
    List Write
  | _, [] => []
  | state, action :: rest =>
    match state.step action with
    | some next => writes write next rest ++ (write state action).toList
    | none => []

/-- The session that wrote last under an IP, unless it was an unregistration or nobody. -/
def lastWriter (write : AppState → ServerAction → Option Write) (state : AppState)
    (actions : List ServerAction) (ip : Ipv4Addr) : Option ℕ :=
  ((writes write state actions).lookup ip).join

/-- No `register` or `unregister` call is in progress. -/
def Quiet (state : AppState) : Prop :=
  ∀ connection ∈ state.connections, connection.phase ≠ .indexed ∧ connection.phase ≠ .removed

/-- The network parameters stay; the web admin changes peers only. -/
def KeepsNetwork (state : AppState) : ServerAction → Prop
  | .reconfigure config => config.network = state.config.network
  | _ => True

instance (state : AppState) : DecidablePred state.KeepsNetwork
  | .reconfigure config => inferInstanceAs (Decidable (config.network = state.config.network))
  | .connect _ | .assign _ _ | .insert6 _ | .insert4 _ | .sendWelcome _ _ | .session _ _
  | .remove4 _ | .remove6 _ | .tunPacket _ => .isTrue trivial

/-- Every session with parameters has an IPv6 address in the subnet. -/
structure DualStack (subnet6 : Ipv6Net) (state : AppState) : Prop where
  ipv6 : state.ipv6 = true
  network : state.config.network.subnet6 = some subnet6
  derived : ∀ (index : ℕ) (connection : Connection), state.connections[index]? = some connection →
    connection.phase ≠ .admitted → connection.ip6 = some (deriveIpv6 subnet6 connection.ip)

variable {state next : AppState} {subnet6 : Ipv6Net}

theorem DualStack.of_put (hdual : state.DualStack subnet6) {index : ℕ}
    {connection changed : Connection} (hconnection : state.connections[index]? = some connection)
    (hchanged : changed.phase ≠ .admitted → changed.ip6 = some (deriveIpv6 subnet6 changed.ip))
    (router : Router) (registrations : List (Ipv4Addr × ℕ)) :
    ({ state.put index changed with router, registrations } : AppState).DualStack subnet6 := by
  refine ⟨hdual.ipv6, hdual.network, fun other found hfound hphase ↦ ?_⟩
  replace hfound : (state.put index changed).connections[other]? = some found := hfound
  rw [put_connections hconnection] at hfound
  split_ifs at hfound
  · obtain rfl := Option.some.inj hfound
    exact hchanged hphase
  · exact hdual.derived other found hfound hphase

theorem DualStack.step (hdual : state.DualStack subnet6) {action : ServerAction}
    (hkeeps : state.KeepsNetwork action) (hstep : state.step action = some next) :
    next.DualStack subnet6 := by
  have hold : ∀ {index : ℕ} {connection : Connection} {phase : Phase},
      state.connections[index]? = some connection → connection.phase = phase →
        phase ≠ .admitted → connection.ip6 = some (deriveIpv6 subnet6 connection.ip) := by
    rintro index connection phase hconnection rfl hphase
    exact hdual.derived index connection hconnection hphase
  cases stepped_of_step hstep with
  | reconfigure config =>
    exact ⟨hdual.ipv6, (congrArg NetworkConfig.subnet6 hkeeps).trans hdual.network, hdual.derived⟩
  | accepted first peer hello =>
    refine ⟨hdual.ipv6, hdual.network, fun other found hfound hphase ↦ ?_⟩
    obtain hold | ⟨-, rfl⟩ := getElem?_concat_eq_some.mp hfound
    · exact hdual.derived other found hold hphase
    · exact absurd rfl hphase
  | refused | unrouted => exact hdual
  | assign index sessionId connection hconnection =>
    refine hdual.of_put hconnection (fun _ ↦ ?_) state.router state.registrations
    show ((if state.ipv6 then state.config.network.subnet6 else none).map _) = _
    rw [hdual.ipv6, if_pos rfl, hdual.network]
    rfl
  | insert6 index connection hconnection hphase | insert4 index connection hconnection hphase
  | remove4 index connection hconnection hphase | remove6 index connection hconnection hphase =>
    have hip6 := hold hconnection hphase nofun
    refine hdual.of_put hconnection (fun _ ↦ ?_) _ _
    exact hip6
  | established index connection hconnection hphase
  | dropped index connection hconnection hphase =>
    have hip6 := hold hconnection hphase nofun
    refine hdual.of_put hconnection (fun _ ↦ ?_) state.router state.registrations
    exact hip6
  | session index action connection phase session hconnection hphase hsession =>
    refine hdual.of_put hconnection (fun _ ↦ ?_) state.router state.registrations
    have hpeer := (Session.step_fixed hsession).1
    have hip6 := hold hconnection rfl fun hadmitted ↦ by
      rw [hadmitted] at hphase
      cases action <;> exact absurd hphase nofun
    show connection.ip6 = some (deriveIpv6 subnet6 session.peer.ip)
    rw [hip6, hpeer]
    rfl
  | routed packet index connection outbox hconnection =>
    have hip6 := hdual.derived index connection hconnection
    refine hdual.of_put hconnection (fun hphase ↦ ?_) state.router state.registrations
    exact hip6 hphase

/-- Addresses derived from one subnet differ as the addresses they are derived from. -/
theorem deriveIpv6_eq_iff {ip other : Ipv4Addr} :
    some (deriveIpv6 subnet6 other) = some (deriveIpv6 subnet6 ip) ↔ ip = other :=
  ⟨fun h ↦ (eq_of_deriveIpv6_eq (Option.some.inj h)).symm, fun h ↦ by rw [h]⟩

/-- One write, looked up. -/
theorem lookup_write (ip other : Ipv4Addr) (written owner : Option ℕ) :
    ((some (other, written) : Option Write).toList.lookup ip).getD owner =
      if ip = other then written else owner := by
  show (List.lookup ip [(other, written)]).getD owner = _
  rw [List.lookup_cons]
  by_cases hip : ip = other
  · rw [beq_iff_eq.mpr hip, if_pos hip]
    rfl
  · rw [beq_eq_false_iff_ne.mpr hip, if_neg hip]
    rfl

/-- What a step does to the two maps. -/
theorem owners_step (hdual : state.DualStack subnet6) {action : ServerAction}
    (hstep : state.step action = some next) (ip : Ipv4Addr) :
    next.router.owner ip = ((state.write4 action).toList.lookup ip).getD (state.router.owner ip) ∧
      next.router.owner6 (deriveIpv6 subnet6 ip) =
        ((state.write6 action).toList.lookup ip).getD
          (state.router.owner6 (deriveIpv6 subnet6 ip)) := by
  cases stepped_of_step hstep with
  | insert6 index connection hconnection hphase =>
    have hip6 := hdual.derived index connection hconnection (by rw [hphase]; nofun)
    have hwrite : state.write6 (.insert6 index) = some (connection.ip, some index) := by
      rw [write6, hconnection, Option.map_some]
    rw [hwrite, lookup_write]
    refine ⟨Router.owner_insert6 .., (Router.owner6_insert6 ..).trans ?_⟩
    simp only [hip6, deriveIpv6_eq_iff]
  | insert4 index connection hconnection hphase =>
    have hwrite : state.write4 (.insert4 index) = some (connection.ip, some index) := by
      rw [write4, hconnection, Option.map_some]
    rw [hwrite, lookup_write]
    exact ⟨Router.owner_insert4 .., rfl⟩
  | remove4 index connection hconnection hphase =>
    have hwrite : state.write4 (.remove4 index) = some (connection.ip, none) := by
      rw [write4, hconnection, Option.map_some]
    rw [hwrite, lookup_write]
    exact ⟨Router.owner_remove4 .., rfl⟩
  | remove6 index connection hconnection hphase =>
    have hip6 := hdual.derived index connection hconnection (by rw [hphase]; nofun)
    have hwrite : state.write6 (.remove6 index) = some (connection.ip, none) := by
      rw [write6, hconnection, Option.map_some]
    rw [hwrite, lookup_write]
    refine ⟨Router.owner_remove6 .., (Router.owner6_remove6 ..).trans ?_⟩
    simp only [hip6, deriveIpv6_eq_iff]
  | _ => exact ⟨rfl, rfl⟩

/-- What a run does to the two maps: the last write counts. -/
theorem owners_run (hdual : state.DualStack subnet6) {actions : List ServerAction}
    {final : AppState} (hrun : run (guarded KeepsNetwork step) state actions = some final)
    (ip : Ipv4Addr) :
    final.router.owner ip =
        ((writes write4 state actions).lookup ip).getD (state.router.owner ip) ∧
      final.router.owner6 (deriveIpv6 subnet6 ip) =
        ((writes write6 state actions).lookup ip).getD
          (state.router.owner6 (deriveIpv6 subnet6 ip)) := by
  induction actions generalizing state with
  | nil =>
    obtain rfl := Option.some.inj hrun
    exact ⟨rfl, rfl⟩
  | cons action rest ih =>
    obtain ⟨next, hnext, hrest⟩ := run_cons_eq_some.mp hrun
    obtain ⟨hkeeps, hstep⟩ := guarded_eq_some.mp hnext
    obtain ⟨howner, howner6⟩ := owners_step hdual hstep ip
    obtain ⟨hfinal, hfinal6⟩ := ih (hdual.step hkeeps hstep) hrest
    have hsplit : ∀ (write : AppState → ServerAction → Option Write) (owner : Option ℕ),
        ((writes write state (action :: rest)).lookup ip).getD owner =
          ((writes write next rest).lookup ip).getD
            (((write state action).toList.lookup ip).getD owner) := by
      intro write owner
      rw [writes, hstep]
      simp only [List.lookup_append]
      cases (writes write next rest).lookup ip <;> rfl
    rw [hsplit, hsplit, ← howner, ← howner6]
    exact ⟨hfinal, hfinal6⟩

/-- On a dual-stack server the maps agree about an address, when no call is in progress, exactly
when the same registration wrote last to both, or an unregistration to both. -/
theorem maps_agree_iff {config : ServerConfig} {hasTun : Bool}
    (hdual : config.network.subnet6 = some subnet6) {actions : List ServerAction}
    (hrun : run (guarded KeepsNetwork step) (start config true hasTun) actions = some state) :
    (state.Quiet → ∀ ip, state.router.owner ip = state.router.owner6 (deriveIpv6 subnet6 ip)) ↔
      (state.Quiet → ∀ ip, lastWriter write4 (start config true hasTun) actions ip =
        lastWriter write6 (start config true hasTun) actions ip) := by
  have hstart : (start config true hasTun).DualStack subnet6 :=
    ⟨rfl, hdual, fun _ _ h ↦ absurd h nofun⟩
  have hempty : ∀ written : Option (Option ℕ), written.getD none = written.join := by
    intro written
    cases written <;> rfl
  have howner : ∀ ip, state.router.owner ip =
      lastWriter write4 (start config true hasTun) actions ip :=
    fun ip ↦ (owners_run hstart hrun ip).1.trans (hempty _)
  have howner6 : ∀ ip, state.router.owner6 (deriveIpv6 subnet6 ip) =
      lastWriter write6 (start config true hasTun) actions ip :=
    fun ip ↦ (owners_run hstart hrun ip).2.trans (hempty _)
  simp only [howner, howner6]

/-! ### Two registrations at once -/

section Example

/-- The second of two sessions of a peer registers between the two writes of the first one. -/
def crossedRun : List ServerAction :=
  [.connect (some (.hello (lanHello .vpn))), .connect (some (.hello (lanHello .vpn))),
    .assign 0 0, .assign 1 0, .insert6 0, .insert6 1, .insert4 1, .insert4 0]

/-- The two maps after registrations that cross. -/
theorem maps_agree_iff_crossedRun :
    ∃ state, run (guarded KeepsNetwork step) (start lanServer true true) crossedRun = some state ∧
      ((state.Quiet → ∀ ip, state.router.owner ip = state.router.owner6 (deriveIpv6
          ⟨0xfd660000000000000000000000000000#128, 64, by decide⟩ ip)) ↔
        (state.Quiet → ∀ ip, lastWriter write4 (start lanServer true true) crossedRun ip =
          lastWriter write6 (start lanServer true true) crossedRun ip)) := by
  obtain ⟨state, hrun⟩ := Option.isSome_iff_exists.mp (show
    (run (guarded KeepsNetwork step) (start lanServer true true) crossedRun).isSome = true by
      decide +kernel)
  exact ⟨state, hrun, maps_agree_iff rfl hrun⟩

/-- Each map holds another session, and no call is in progress. -/
theorem maps_disagree :
    ¬ ∀ (config : ServerConfig) (subnet6 : Ipv6Net) (hasTun : Bool) (actions : List ServerAction)
      (state : AppState), config.network.subnet6 = some subnet6 →
        run step (start config true hasTun) actions = some state → state.Quiet →
          ∀ ip, state.router.owner ip = state.router.owner6 (deriveIpv6 subnet6 ip) := by
  intro hall
  obtain ⟨state, hrun, hstate⟩ : ∃ state,
      run step (start lanServer true true) crossedRun = some state ∧
      (state.connections.all (fun connection ↦
          connection.phase ≠ .indexed && connection.phase ≠ .removed) &&
        state.router.owner lanPeer.ip = some 0 &&
          state.router.owner6 (deriveIpv6 ⟨0xfd660000000000000000000000000000#128, 64, by decide⟩
            lanPeer.ip) = some 1) = true :=
    Option.any_eq_true _ _ |>.mp (by decide +kernel)
  simp only [Bool.and_eq_true, decide_eq_true_iff, List.all_eq_true] at hstate
  obtain ⟨⟨hquiet, howner⟩, howner6⟩ := hstate
  have hsame := hall lanServer _ true crossedRun state rfl hrun hquiet lanPeer.ip
  rw [howner, howner6] at hsame
  exact absurd hsame (by decide)

end Example

end AppState

end EntroTunnel.Server
