import EntroTunnel.Client.WindowsSetup

/-!
# What a Windows session leaves of the routes

`Windows` is an operating system whose commands do to the routing table what is documented of them:
commands about the adapter touch no route of another interface, a `route add` that succeeds adds one
route, and `route delete` takes out every route that it matches. The routes of the adapter go with
the adapter, so `Windows.off` is what a session should leave as it was.

`Gathered` is what setup keeps up in such a system: the routes of before are still there, and every
route that was added is matched by an undo command. So nothing of the session is left after the
teardown (`windows_restored`). What may be missing are routes of before that an undo command
matches too: to the server, to a network of a rule, whatever their gateway.
-/

set_option autoImplicit false
set_option relaxedAutoImplicit false

namespace EntroTunnel.Client

open EntroTunnel.Core EntroTunnel.Foundation

/-! ### The operating system -/

/-- The destination of a route. -/
inductive WinNet
  | v4 (dest mask : Ipv4Addr)
  | v6 (net : IpPrefix)
  deriving DecidableEq

/-- A route. `iface` is the index of its interface. -/
structure WinRoute where
  net : WinNet
  gateway : Option Ipv4Addr
  iface : ℕ
  deriving DecidableEq

/-- The routes that `route delete` matches. Without a mask it is about a host. -/
def WinOperation.removes : WinOperation → WinRoute → Bool
  | .routeDelete (.v4 dest) mask gateway, route =>
    route.net = .v4 dest (mask.getD hostMask) &&
      gateway.all fun gateway ↦ route.gateway = some gateway
  | _, _ => false

/-- An operating system with the adapter `ifname`. -/
structure Windows (ifname : String) where
  State : Type
  exec : (operation : WinOperation) → State → State × operation.Reply
  routes : State → List WinRoute
  /-- The index of the adapter. -/
  index : ℕ
  looks : ∀ state, routes (exec .showInterfaces state).1 = routes state ∧
    routes (exec .printRoutes state).1 = routes state
  ofAdapter : ∀ operation state, operation.adapter = some ifname →
    (routes (exec operation state).1).filter (fun route ↦ route.iface ≠ index) =
      (routes state).filter fun route ↦ route.iface ≠ index
  added : ∀ dest mask gateway metricOne iface state,
    (exec (.routeAdd dest mask gateway metricOne iface) state).2 = true →
      ∃ addr index, dest = .v4 addr ∧
        routes (exec (.routeAdd dest mask gateway metricOne iface) state).1 =
          routes state ++ [⟨.v4 addr mask, some gateway, index⟩]
  notAdded : ∀ dest mask gateway metricOne iface state,
    (exec (.routeAdd dest mask gateway metricOne iface) state).2 = false →
      routes (exec (.routeAdd dest mask gateway metricOne iface) state).1 = routes state
  deleted : ∀ dest mask gateway state,
    routes (exec (.routeDelete dest mask gateway) state).1 =
      (routes state).filter fun route ↦
        !(WinOperation.routeDelete dest mask gateway).removes route

namespace Windows

variable {ifname : String} (windows : Windows ifname)

/-- The routes of other interfaces. -/
def off (state : windows.State) : List WinRoute :=
  (windows.routes state).filter fun route ↦ route.iface ≠ windows.index

variable {windows}

theorem off_of_routes {state after : windows.State}
    (hroutes : windows.routes after = windows.routes state) :
    windows.off after = windows.off state := by
  rw [off, off, hroutes]

theorem off_deleted (dest : IpAddr) (mask gateway : Option Ipv4Addr) (state : windows.State) :
    windows.off (windows.exec (.routeDelete dest mask gateway) state).1 =
      (windows.off state).filter fun route ↦
        !(WinOperation.routeDelete dest mask gateway).removes route := by
  rw [off, off, windows.deleted, List.filter_filter, List.filter_filter]
  exact List.filter_congr fun route _ ↦ Bool.and_comm _ _

end Windows

/-! ### Undo commands -/

/-- The deletion of a rule's network. -/
def ruleRemoval (net : Ipv4Net) : WinOperation :=
  .routeDelete (.v4 (splitCidr net).1) (some (splitCidr net).2) none

/-- The undo commands that setup may record. -/
def plannedRemovals (resolver : Resolver) (cfg : ClientConfig) (welcome : Welcome)
    (ifname : String) (serverIp : IpAddr) : List WinOperation :=
  (cfg.routes.flatMap fun rule ↦ (resolveRuleTargets resolver rule.target).map ruleRemoval) ++
    if cfg.mode = .globalProxy then
      [.routeDelete serverIp none none, .routeDelete (.v4 0) (some halfMask) (some welcome.gateway),
        .routeDelete (.v4 halfMask) (some halfMask) (some welcome.gateway),
        .deleteRoute6 lowHalf6 ifname, .deleteRoute6 highHalf6 ifname]
    else []

/-- Every removal is a `route delete` or about the adapter. -/
theorem removal_cases {resolver : Resolver} {cfg : ClientConfig} {welcome : Welcome}
    {ifname : String} {serverIp : IpAddr} {operation : WinOperation}
    (hplanned : operation ∈ plannedRemovals resolver cfg welcome ifname serverIp) :
    (∃ dest mask gateway, operation = .routeDelete dest mask gateway) ∨
      ∃ net, operation = .deleteRoute6 net ifname := by
  rw [plannedRemovals, List.mem_append] at hplanned
  obtain hrule | hmode := hplanned
  · obtain ⟨rule, -, hmem⟩ := List.mem_flatMap.mp hrule
    obtain ⟨net, -, rfl⟩ := List.mem_map.mp hmem
    exact .inl ⟨_, _, _, rfl⟩
  · by_cases hglobal : cfg.mode = .globalProxy
    · rw [if_pos hglobal] at hmode
      simp only [List.mem_cons, List.not_mem_nil, or_false] at hmode
      obtain rfl | rfl | rfl | rfl | rfl := hmode
      · exact .inl ⟨_, _, _, rfl⟩
      · exact .inl ⟨_, _, _, rfl⟩
      · exact .inl ⟨_, _, _, rfl⟩
      · exact .inr ⟨_, rfl⟩
      · exact .inr ⟨_, rfl⟩
    · rw [if_neg hglobal] at hmode
      exact absurd hmode List.not_mem_nil

/-! ### Setup -/

section Setup

variable {ifname : String} {windows : Windows ifname} {planned : List WinOperation}
  {old : List WinRoute} {undo : List WinOperation} {state : windows.State}

/-- The routes of before are there, what was added is matched by an undo command, and the undo
commands are planned ones. -/
structure Gathered (windows : Windows ifname) (planned : List WinOperation) (old : List WinRoute)
    (undo : List WinOperation) (state : windows.State) : Prop where
  planned : ∀ operation ∈ undo, operation ∈ planned
  matched : ∃ added, windows.off state = old ++ added ∧
    ∀ route ∈ added, ∃ operation ∈ undo, operation.removes route = true

namespace Gathered

theorem start (planned : List WinOperation) (state : windows.State) :
    Gathered windows planned (windows.off state) [] state where
  planned _ h := absurd h List.not_mem_nil
  matched := ⟨[], (List.append_nil _).symm, fun _ h ↦ absurd h List.not_mem_nil⟩

/-- What leaves the routes of other interfaces alone. -/
theorem of_off (hgathered : Gathered windows planned old undo state) {after : windows.State}
    (hoff : windows.off after = windows.off state) : Gathered windows planned old undo after where
  planned := hgathered.planned
  matched := by
    rw [hoff]
    exact hgathered.matched

/-- One more undo command, whatever it is for. -/
theorem record (hgathered : Gathered windows planned old undo state) {removal : WinOperation}
    (hplanned : removal ∈ planned) : Gathered windows planned old (undo ++ [removal]) state where
  planned operation hoperation := by
    obtain hold | hnew := List.mem_append.mp hoperation
    · exact hgathered.planned operation hold
    · exact List.mem_singleton.mp hnew ▸ hplanned
  matched := by
    obtain ⟨added, hoff, hmatched⟩ := hgathered.matched
    refine ⟨added, hoff, fun route hroute ↦ ?_⟩
    obtain ⟨operation, hoperation, hremoves⟩ := hmatched route hroute
    exact ⟨operation, List.mem_append_left _ hoperation, hremoves⟩

/-- A route that was added with the command that takes it out. -/
theorem add (hgathered : Gathered windows planned old undo state) {after : windows.State}
    {removal : WinOperation} {route : WinRoute} (hplanned : removal ∈ planned)
    (hafter : windows.routes after = windows.routes state ++ [route])
    (hremoves : removal.removes route = true) :
    Gathered windows planned old (undo ++ [removal]) after where
  planned := (hgathered.record hplanned).planned
  matched := by
    obtain ⟨added, hoff, hmatched⟩ := hgathered.matched
    have hnew : windows.off after =
        windows.off state ++ [route].filter fun route ↦ route.iface ≠ windows.index := by
      rw [Windows.off, Windows.off, hafter, List.filter_append]
    refine ⟨added ++ [route].filter fun route ↦ route.iface ≠ windows.index, ?_, ?_⟩
    · rw [hnew, hoff, List.append_assoc]
    · intro other hother
      obtain hbefore | hlast := List.mem_append.mp hother
      · obtain ⟨operation, hoperation, hmatch⟩ := hmatched other hbefore
        exact ⟨operation, List.mem_append_left _ hoperation, hmatch⟩
      · have hsame : other = route := List.mem_singleton.mp (List.mem_of_mem_filter hlast)
        exact ⟨removal, List.mem_append_right _ List.mem_cons_self, hsame ▸ hremoves⟩

variable {failed : windows.State → Prop}

/-- A command about the adapter. -/
theorem attempt (hgathered : Gathered windows planned old undo state) {operation : WinOperation}
    (hadapter : operation.adapter = some ifname) :
    (WinScript.attempt operation).Ensures windows.exec
      (fun _ ↦ Gathered windows planned old undo) failed state :=
  Script.ensures_act.mpr (hgathered.of_off (windows.ofAdapter operation state hadapter))

/-- A `route add` with its undo command. -/
theorem addRoute (hgathered : Gathered windows planned old undo state) {dest : IpAddr}
    {mask gateway : Ipv4Addr} {removal : WinOperation} (hplanned : removal ∈ planned)
    (hremoves : ∀ addr iface, dest = .v4 addr →
      removal.removes ⟨.v4 addr mask, some gateway, iface⟩ = true)
    (metricOne : Bool) (iface : Option ℕ) :
    (WinScript.addRoute dest mask gateway metricOne iface removal undo).Ensures windows.exec
      (Gathered windows planned old) failed state := by
  refine Script.ensures_act.mpr ?_
  cases hreply : (windows.exec (.routeAdd dest mask gateway metricOne iface) state).2 with
  | false =>
    exact hgathered.of_off (Windows.off_of_routes
      (windows.notAdded dest mask gateway metricOne iface state hreply))
  | true =>
    obtain ⟨addr, found, hdest, hafter⟩ :=
      windows.added dest mask gateway metricOne iface state hreply
    exact hgathered.add hplanned hafter (hremoves addr found hdest)

/-- A look at the interfaces. -/
theorem look (hgathered : Gathered windows planned old undo state) :
    Gathered windows planned old undo (windows.exec .showInterfaces state).1 :=
  hgathered.of_off (Windows.off_of_routes (windows.looks state).1)

/-- One target of one rule. -/
theorem applyRoute {claimed : List Ipv4Net} (hgathered : Gathered windows planned old undo state)
    {tunIndex : Option ℕ} {tunGateway : Ipv4Addr} {origGateway : Option Ipv4Addr}
    {serverIp : IpAddr} {rule : RouteRule} {net : Ipv4Net}
    (hplanned : ruleRemoval net ∈ planned) :
    (WinScript.applyRoute tunIndex tunGateway origGateway serverIp rule (claimed, undo) net).Ensures
      windows.exec (fun result ↦ Gathered windows planned old result.2) failed state := by
  have hadd : ∀ (gateway : Ipv4Addr) (metricOne : Bool) (iface : Option ℕ)
      (before : windows.State), Gathered windows planned old undo before →
      (WinScript.addRoute (.v4 (splitCidr net).1) (splitCidr net).2 gateway metricOne iface
        (ruleRemoval net) undo >>= fun after ↦ pure (net :: claimed, after)).Ensures windows.exec
        (fun result ↦ Gathered windows planned old result.2) failed before := by
    intro gateway metricOne iface before hbefore
    refine (hbefore.addRoute hplanned ?_ metricOne iface).bind fun after _ hafter ↦ hafter
    rintro addr found hdest
    obtain rfl := IpAddr.v4.inj hdest
    simp [ruleRemoval, WinOperation.removes]
  unfold WinScript.applyRoute
  by_cases hpassed : PassedOver serverIp claimed net
  · rw [if_pos hpassed]
    exact hgathered
  · rw [if_neg hpassed]
    unfold WinScript.ruleGateway
    by_cases htunnel : rule.via = "tunnel"
    · rw [if_pos htunnel]
      cases tunIndex with
      | none => exact hgathered
      | some index => exact hadd tunGateway true (some index) state hgathered
    · rw [if_neg htunnel]
      by_cases hdirect : rule.via = "direct"
      · rw [if_pos hdirect]
        cases origGateway with
        | none => exact hgathered
        | some gateway => exact hadd gateway false none state hgathered
      · rw [if_neg hdirect]
        refine Script.ensures_act.mpr ?_
        cases hindex : ifIndex (windows.exec .showInterfaces state).2 rule.via with
        | none =>
          simp only [hindex]
          exact hgathered.look
        | some index =>
          simp only [hindex]
          exact hadd (rule.gateway.getD 0) false (some index) _ hgathered.look

/-- All rules. -/
theorem applyRouteRules {resolver : Resolver} {cfg : ClientConfig} {tunIndex : Option ℕ}
    {tunGateway : Ipv4Addr} {origGateway : Option Ipv4Addr} {serverIp : IpAddr}
    (hgathered : Gathered windows planned old [] state)
    (hplanned : ∀ rule ∈ cfg.routes, ∀ net ∈ resolveRuleTargets resolver rule.target,
      ruleRemoval net ∈ planned) :
    (WinScript.applyRouteRules resolver cfg tunIndex tunGateway origGateway serverIp).Ensures
      windows.exec (Gathered windows planned old) failed state := by
  have hloop : (cfg.routes.foldlM (fun claimed rule ↦
      (resolveRuleTargets resolver rule.target).foldlM
        (WinScript.applyRoute tunIndex tunGateway origGateway serverIp rule) claimed)
      (([], []) : List Ipv4Net × WinScript.Undo)).Ensures windows.exec
        (fun claimed ↦ Gathered windows planned old claimed.2) failed state := by
    refine Script.ensures_foldlM (fun rule hrule claimed before hbefore ↦ ?_) hgathered
    refine Script.ensures_foldlM (fun net hnet inner middle hmiddle ↦ ?_) hbefore
    exact hmiddle.applyRoute (hplanned rule hrule net hnet)
  exact hloop.bind fun claimed after hafter ↦ Script.ensures_pure.mpr hafter

theorem pinServer (hgathered : Gathered windows planned old undo state)
    {origGateway : Option Ipv4Addr} {serverIp : IpAddr}
    (hplanned : WinOperation.routeDelete serverIp none none ∈ planned) :
    (WinScript.pinServer origGateway serverIp undo).Ensures windows.exec
      (Gathered windows planned old) failed state := by
  cases origGateway with
  | none => exact hgathered
  | some gateway =>
    refine hgathered.addRoute hplanned ?_ false none
    rintro addr iface rfl
    simp [WinOperation.removes]

theorem captureBoth (hgathered : Gathered windows planned old undo state) {index : ℕ}
    {tunGateway : Ipv4Addr}
    (hplanned : ∀ half ∈ [(0 : Ipv4Addr), halfMask],
      WinOperation.routeDelete (.v4 half) (some halfMask) (some tunGateway) ∈ planned) :
    (WinScript.captureBoth index tunGateway undo).Ensures windows.exec
      (Gathered windows planned old) failed state := by
  refine Script.ensures_foldlM (fun half hhalf gathered before hbefore ↦ ?_) hgathered
  refine hbefore.addRoute (hplanned half hhalf) ?_ true (some index)
  rintro addr iface hdest
  obtain rfl := IpAddr.v4.inj hdest
  simp [WinOperation.removes]

theorem captureBoth6 (hgathered : Gathered windows planned old undo state) {cfg : ClientConfig}
    {welcome : Welcome} {serverIp : IpAddr}
    (hplanned : ∀ half ∈ [lowHalf6, highHalf6],
      WinOperation.deleteRoute6 half ifname ∈ planned) :
    (WinScript.captureBoth6 cfg welcome ifname serverIp undo).Ensures windows.exec
      (Gathered windows planned old) failed state := by
  unfold WinScript.captureBoth6
  cases serverIp with
  | v6 addr => exact hgathered
  | v4 addr =>
    by_cases hcapture : welcome.assignedIp6.isSome ∨ cfg.ipv6Killswitch
    · simp only [if_pos hcapture]
      refine Script.ensures_foldlM (fun half hhalf gathered before hbefore ↦ ?_) hgathered
      have hafter := hbefore.of_off (windows.ofAdapter (.addRoute6 half ifname) before rfl)
      refine Script.ensures_act.mpr ?_
      by_cases hok : (windows.exec (.addRoute6 half ifname) before).2 = true
      · simp only [hok, if_true]
        exact hafter.record (hplanned half hhalf)
      · simp only [hok]
        exact hafter
    · simp only [if_neg hcapture]
      exact hgathered

theorem setResolvers (hgathered : Gathered windows planned old undo state) (addrs : List IpAddr) :
    (WinScript.setResolvers ifname addrs).Ensures windows.exec
      (fun _ ↦ Gathered windows planned old undo) failed state := by
  refine Script.ensures_foldlM (fun (addr, index) _ _ before hbefore ↦ ?_) hgathered
  by_cases hfirst : index = 0
  · simp only [if_pos hfirst]
    exact (hbefore.attempt rfl).bind fun _ _ hafter ↦ hafter
  · simp only [if_neg hfirst]
    exact (hbefore.attempt rfl).bind fun _ _ hafter ↦ hafter

theorem globalProxy (hgathered : Gathered windows planned old undo state) {cfg : ClientConfig}
    {welcome : Welcome} {serverIp : IpAddr} {index : Option ℕ} {origGateway : Option Ipv4Addr}
    (hpin : WinOperation.routeDelete serverIp none none ∈ planned)
    (hhalves : ∀ half ∈ [(0 : Ipv4Addr), halfMask],
      WinOperation.routeDelete (.v4 half) (some halfMask) (some welcome.gateway) ∈ planned)
    (hhalves6 : ∀ half ∈ [lowHalf6, highHalf6],
      WinOperation.deleteRoute6 half ifname ∈ planned) :
    (WinScript.globalProxy cfg welcome ifname serverIp index origGateway undo).Ensures windows.exec
      (Gathered windows planned old) failed state := by
  refine (hgathered.pinServer hpin).bind fun pinned afterPin hpinned ↦ ?_
  cases cfg.splitMode with
  | whitelist => exact hpinned
  | blacklist =>
    cases index with
    | none => exact hpinned
    | some index =>
      refine (hpinned.captureBoth hhalves).bind fun captured _ hcaptured ↦ ?_
      refine (hcaptured.captureBoth6 hhalves6).bind fun captured6 _ hcaptured6 ↦ ?_
      refine (hcaptured6.setResolvers _).bind fun _ _ hfour ↦ ?_
      exact (hfour.setResolvers _).bind fun _ _ hsix ↦ Script.ensures_pure.mpr hsix

theorem assignIp6 (hgathered : Gathered windows planned old undo state) (welcome : Welcome) :
    (WinScript.assignIp6 welcome ifname).Ensures windows.exec
      (fun _ ↦ Gathered windows planned old undo) failed state := by
  unfold WinScript.assignIp6
  cases welcome.assignedIp6 with
  | none => exact hgathered
  | some ip6 => exact (hgathered.attempt rfl).bind fun _ _ hafter ↦ hafter

end Gathered

variable {failed : windows.State → Prop} {resolver : Resolver} {cfg : ClientConfig}
  {welcome : Welcome} {serverIp : IpAddr}

/-- The attempts at the address of the adapter touch no other interface. -/
theorem assignAddress_off (ip mask : Ipv4Addr) (attempts : ℕ) :
    (WinScript.assignAddress ifname ip mask attempts).Ensures windows.exec
      (fun _ after ↦ windows.off after = windows.off state) failed state := by
  induction attempts generalizing state with
  | zero => exact rfl
  | succ attempts ih =>
    have hoff := windows.ofAdapter (.setAddress ifname ip mask) state rfl
    refine Script.ensures_act.mpr ?_
    by_cases hok : (windows.exec (.setAddress ifname ip mask) state).2 = true
    · simp only [hok, if_true]
      exact hoff
    · simp only [hok]
      exact ih.imp (fun _ _ hafter ↦ hafter.trans hoff) fun _ h ↦ h

theorem setAdapterIpv4_off (ip mask : Ipv4Addr) (mtu : UInt16) :
    (WinScript.setAdapterIpv4 ifname ip mask mtu).Ensures windows.exec
      (fun _ after ↦ windows.off after = windows.off state) failed state := by
  refine (assignAddress_off ip mask 10).bind fun ok after hafter ↦ ?_
  cases ok with
  | false => exact hafter
  | true =>
    have hmtu := windows.ofAdapter (.setMtu ifname mtu) after rfl
    exact hmtu.trans hafter

/-- What follows the address of the adapter gathers undo commands. -/
theorem route_gathered :
    (WinScript.route resolver cfg welcome ifname serverIp).Ensures windows.exec
      (Gathered windows (plannedRemovals resolver cfg welcome ifname serverIp)
        (windows.off state)) failed state := by
  have hrules : ∀ rule ∈ cfg.routes, ∀ net ∈ resolveRuleTargets resolver rule.target,
      ruleRemoval net ∈ plannedRemovals resolver cfg welcome ifname serverIp := by
    intro rule hrule net hnet
    exact List.mem_append_left _
      (List.mem_flatMap.mpr ⟨rule, hrule, List.mem_map.mpr ⟨net, hnet, rfl⟩⟩)
  have hstart := Gathered.start (plannedRemovals resolver cfg welcome ifname serverIp) state
  refine (hstart.assignIp6 welcome).bind fun _ first hfirst ↦ ?_
  refine Script.ensures_bind.mpr (Script.ensures_act.mpr ?_)
  refine Script.ensures_bind.mpr (Script.ensures_act.mpr ?_)
  have hlooked := hfirst.look.of_off (Windows.off_of_routes
    (windows.looks (windows.exec .showInterfaces first).1).2)
  refine (hlooked.applyRouteRules hrules).bind fun undo after hafter ↦ ?_
  cases hmode : cfg.mode with
  | globalProxy =>
    refine hafter.globalProxy ?_ ?_ ?_
    all_goals simp [plannedRemovals, hmode]
  | vpn => exact hafter
  | httpProxy => exact hafter
  | systemProxy => exact hafter

/-- A setup that fails touches no other interface, and one that succeeds gathers its undo
commands. -/
theorem apply_gathered :
    (WinScript.apply resolver cfg welcome ifname serverIp).Ensures windows.exec
      (fun result after ↦ match result with
        | .ok undo => Gathered windows (plannedRemovals resolver cfg welcome ifname serverIp)
            (windows.off state) undo after
        | .error _ => windows.off after = windows.off state) (fun _ ↦ False) state := by
  refine (setAdapterIpv4_off _ _ _).bind fun result after hafter ↦ ?_
  cases result with
  | error error => exact hafter
  | ok _ =>
    refine Script.Ensures.bind route_gathered fun undo final hfinal ↦ ?_
    exact hafter ▸ hfinal

/-- The teardown takes out what its commands match. -/
theorem drop_off (hremovals : ∀ operation ∈ undo,
      (∃ dest mask gateway, operation = .routeDelete dest mask gateway) ∨
        ∃ net, operation = .deleteRoute6 net ifname) :
    (WinScript.drop undo).Ensures windows.exec
      (fun _ after ↦ windows.off after =
        unmatched (undo.map WinOperation.removes) (windows.off state)) failed state := by
  induction undo generalizing state with
  | nil =>
    show windows.off state = unmatched [] (windows.off state)
    exact (List.filter_eq_self.mpr fun _ _ ↦ rfl).symm
  | cons operation undo ih =>
    have hrest := fun other hother ↦ hremovals other (List.mem_cons_of_mem operation hother)
    have hfirst : windows.off (windows.exec operation state).1 =
        (windows.off state).filter fun route ↦ !operation.removes route := by
      obtain ⟨dest, mask, gateway, rfl⟩ | ⟨net, rfl⟩ := hremovals operation List.mem_cons_self
      · exact windows.off_deleted dest mask gateway state
      · exact (windows.ofAdapter _ state rfl).trans (List.filter_eq_self.mpr fun _ _ ↦ rfl).symm
    refine (ih hrest).imp (fun _ after hafter ↦ ?_) fun _ h ↦ h
    rw [hafter, hfirst, List.map_cons, unmatched_cons]

end Setup

/-! ### A session -/

/-- What a session on Windows does to the routes of the other interfaces. When setup fails, nothing.
When it succeeds, the teardown leaves the routes of before that no undo command matches: none of the
session, and all of before exactly if no undo command matches one of them. The undo commands are
about the server, the networks of the rules and the two halves of the address space. -/
theorem windows_restored {ifname : String} (windows : Windows ifname) (resolver : Resolver)
    (cfg : ClientConfig) (welcome : Welcome) (serverIp : IpAddr) {state after : windows.State}
    {result : Option (Except String WinScript.Undo)}
    (happly : (WinScript.apply resolver cfg welcome ifname serverIp).alone windows.exec state =
      (after, result)) :
    (∃ error, result = some (.error error) ∧ windows.off after = windows.off state) ∨
      ∃ undo, result = some (.ok undo) ∧
        (∀ operation ∈ undo,
          operation ∈ plannedRemovals resolver cfg welcome ifname serverIp) ∧
        windows.off ((WinScript.drop undo).alone windows.exec after).1 =
          unmatched (undo.map WinOperation.removes) (windows.off state) ∧
        (windows.off ((WinScript.drop undo).alone windows.exec after).1 = windows.off state ↔
          ∀ route ∈ windows.off state, ∀ operation ∈ undo, operation.removes route = false) := by
  have hensures := @apply_gathered ifname windows state resolver cfg welcome serverIp
  cases result with
  | none => exact (hensures.of_none happly).elim
  | some outcome =>
    have houtcome := hensures.of_some happly
    cases outcome with
    | error error => exact .inl ⟨error, rfl, houtcome⟩
    | ok undo =>
      obtain ⟨added, hoff, hmatched⟩ := houtcome.matched
      have hleft : windows.off ((WinScript.drop undo).alone windows.exec after).1 =
          unmatched (undo.map WinOperation.removes) (windows.off state) := by
        have hdrop := @drop_off ifname windows undo after (fun _ ↦ False)
          fun operation hoperation ↦ removal_cases (houtcome.planned operation hoperation)
        have hremovals : ∀ route ∈ added, ∃ removal ∈ undo.map WinOperation.removes,
            removal route = true := by
          intro route hroute
          obtain ⟨operation, hoperation, hremoves⟩ := hmatched route hroute
          exact ⟨_, List.mem_map.mpr ⟨operation, hoperation, rfl⟩, hremoves⟩
        rw [← unmatched_append hremovals, ← hoff]
        cases halone : (WinScript.drop undo).alone windows.exec after with
        | mk final ended =>
          cases ended with
          | none => exact (hdrop.of_none halone).elim
          | some _ => exact hdrop.of_some halone
      refine .inr ⟨undo, rfl, houtcome.planned, hleft, ?_⟩
      rw [hleft, unmatched_eq_self_iff]
      refine forall₂_congr fun route _ ↦ ?_
      exact List.forall_mem_map

/-! ### A route that was there -/

section Example

/-- The commands on a host with the interfaces 12, `Ethernet`, and 31, the adapter. -/
def officeExec : (operation : WinOperation) → List WinRoute → List WinRoute × operation.Reply
  | .showInterfaces, routes =>
    (routes, some "12 25 1500 connected Ethernet\n31 5 1280 connected et0".toList)
  | .printRoutes, routes => (routes, some "0.0.0.0 0.0.0.0 192.168.1.1 192.168.1.7 25".toList)
  | .routeAdd (.v4 dest) mask gateway _ iface, routes =>
    let route : WinRoute := ⟨.v4 dest mask, some gateway, iface.getD 12⟩
    if route ∈ routes then (routes, false) else (routes ++ [route], true)
  | .routeAdd (.v6 _) _ _ _ _, routes => (routes, false)
  | .routeDelete dest mask gateway, routes =>
    (routes.filter fun route ↦ !(WinOperation.routeDelete dest mask gateway).removes route, true)
  | .setAddress _ _ _, routes | .setMtu _ _, routes | .addAddress6 _ _, routes
  | .addRoute6 _ _, routes | .deleteRoute6 _ _, routes | .setDns _ _, routes
  | .addDns _ _ _, routes => (routes, true)

/-- A Windows host in an office. -/
def officeWindows : Windows "et0" where
  State := List WinRoute
  exec := officeExec
  routes := id
  index := 31
  looks _ := ⟨rfl, rfl⟩
  ofAdapter operation state hadapter := by
    cases operation with
    | routeAdd => cases hadapter
    | routeDelete => cases hadapter
    | _ => rfl
  added dest mask gateway metricOne iface state hadded := by
    cases dest with
    | v6 addr => exact absurd hadded Bool.false_ne_true
    | v4 addr =>
      simp only [officeExec] at hadded ⊢
      by_cases hmem : (⟨.v4 addr mask, some gateway, iface.getD 12⟩ : WinRoute) ∈ state
      · rw [if_pos hmem] at hadded
        exact absurd hadded Bool.false_ne_true
      · rw [if_neg hmem]
        exact ⟨addr, iface.getD 12, rfl, rfl⟩
  notAdded dest mask gateway metricOne iface state hrefused := by
    cases dest with
    | v6 addr => rfl
    | v4 addr =>
      simp only [officeExec] at hrefused ⊢
      by_cases hmem : (⟨.v4 addr mask, some gateway, iface.getD 12⟩ : WinRoute) ∈ state
      · rw [if_pos hmem]
      · rw [if_neg hmem] at hrefused
        exact absurd hrefused.symm Bool.false_ne_true
  deleted _ _ _ _ := rfl

theorem officeLen_le : 8 ≤ 32 := by
  decide

/-- Nothing but `10.0.0.0/8` is a network. -/
def officeResolver : Resolver where
  parseIpv4Net := fun text ↦
    if text = "10.0.0.0/8" then some ⟨0x0a000000#32, 8, officeLen_le⟩ else none
  parseIpv4Addr := fun _ ↦ none
  parsesAsIp := fun _ ↦ false
  lookupHost := fun _ ↦ none

/-- The network of the office is to go through the tunnel. -/
def officeConfig : ClientConfig where
  mode := .vpn
  routes := [{ target := "10.0.0.0/8", via := "tunnel" }]

/-- The default route, and a static one to the network of the office. -/
def officeRoutes : List WinRoute :=
  [⟨.v4 0 0, some (ipv4 192 168 1 1), 12⟩,
    ⟨.v4 0x0a000000#32 0xff000000#32, some (ipv4 192 168 1 254), 12⟩]

/-- The route of the rule is added next to the static one, and its deletion takes out both. -/
theorem windows_restored_office : ∃ (after : List WinRoute) (undo : WinScript.Undo),
    (WinScript.apply officeResolver officeConfig ipv4Welcome "et0"
      (.v4 (ipv4 203 0 113 5))).alone officeWindows.exec officeRoutes =
        (after, some (.ok undo)) ∧
    officeWindows.off ((WinScript.drop undo).alone officeWindows.exec after).1 ≠
      officeWindows.off officeRoutes := by
  have hresult : ((WinScript.apply officeResolver officeConfig ipv4Welcome "et0"
      (.v4 (ipv4 203 0 113 5))).alone officeExec officeRoutes).2 =
        some (.ok [ruleRemoval ⟨0x0a000000#32, 8, officeLen_le⟩]) := by
    rfl
  obtain ⟨after, hafter⟩ : ∃ after, (WinScript.apply officeResolver officeConfig ipv4Welcome "et0"
      (.v4 (ipv4 203 0 113 5))).alone officeExec officeRoutes =
        (after, some (.ok [ruleRemoval ⟨0x0a000000#32, 8, officeLen_le⟩])) :=
    ⟨_, Prod.ext rfl hresult⟩
  refine ⟨after, _, hafter, ?_⟩
  obtain ⟨error, herror, -⟩ | ⟨undo, hundo, -, -, hrestored⟩ :=
    windows_restored officeWindows officeResolver officeConfig ipv4Welcome _ hafter
  · cases herror
  · obtain rfl := Except.ok.inj (Option.some.inj hundo)
    rw [Ne, hrestored]
    intro hnone
    have hstatic := hnone ⟨.v4 0x0a000000#32 0xff000000#32, some (ipv4 192 168 1 254), 12⟩
      (by decide) _ List.mem_cons_self
    exact absurd hstatic (by decide)

end Example

end EntroTunnel.Client
