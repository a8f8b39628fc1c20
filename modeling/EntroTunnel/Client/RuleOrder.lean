import EntroTunnel.Client.SetupPlan

/-!
# First rule wins

What the loop of `apply_route_rules` makes of a list of split-tunnel rules, seen by networks and not
by the texts that spell them. A CIDR may be written with bits beyond its length; it denotes the same
network, and `ip route add` refuses it. The loop compares texts, and a text counts as claimed as
soon as a rule names it.

`Installable` says that a rule has a next hop that the host takes. The contract `FirstRuleWins`
gives each network that an installable rule denotes the next hop of the first such rule, keeps the
server's own address out, and asks that the guard deletes what was added. `first_rule_wins_iff` is
the exact condition on the rules for it (`Unshadowed`): of the rules that write a network without
host bits, the first has the next hop of the first installable rule that denotes the network.
-/

set_option autoImplicit false
set_option relaxedAutoImplicit false

namespace EntroTunnel.Client

open EntroTunnel.Core EntroTunnel.Foundation

/-! ### Additions that take effect -/

/-- The additions that take effect, in order. -/
def effective (env : Environment) : List Route → List Addition → List Addition
  | _, [] => []
  | table, addition :: rest =>
    if addition.TakesEffect env table then
      addition :: effective env (table ++ [addition.route]) rest
    else effective env table rest

/-- The command that deletes what an addition has added. -/
def Addition.undo (addition : Addition) : IpCommand :=
  .routeDel addition.dst (some addition.hop)

theorem map_route_effective (env : Environment) (table : List Route) (additions : List Addition) :
    (effective env table additions).map Addition.route = added env table additions := by
  induction additions generalizing table with
  | nil => rfl
  | cons addition rest ih =>
    have hsplit := added_append env table [addition] rest
    rw [List.singleton_append, added_singleton] at hsplit
    rw [hsplit, effective]
    split_ifs with heffect
    · rw [List.map_cons, ih, List.singleton_append]
    · rw [ih, List.nil_append, List.append_nil]

theorem effective_append (env : Environment) (table : List Route) (first second : List Addition) :
    effective env table (first ++ second) =
      effective env table first ++ effective env (table ++ added env table first) second := by
  induction first generalizing table with
  | nil => rw [List.nil_append, added_nil, List.append_nil, effective, List.nil_append]
  | cons addition rest ih =>
    have hsplit := added_append env table [addition] rest
    rw [List.singleton_append, added_singleton] at hsplit
    rw [hsplit, List.cons_append, effective, effective]
    split_ifs with heffect
    · rw [ih, List.cons_append, List.append_assoc]
    · rw [ih, List.nil_append, List.append_nil]

theorem effective_subset {env : Environment} {table : List Route} {additions : List Addition}
    {addition : Addition} (hmem : addition ∈ effective env table additions) :
    addition ∈ additions ∧ addition.Possible env := by
  induction additions generalizing table with
  | nil => exact absurd hmem List.not_mem_nil
  | cons first rest ih =>
    rw [effective] at hmem
    split_ifs at hmem with heffect
    · rcases List.mem_cons.mp hmem with rfl | hrest
      · exact ⟨List.mem_cons_self, heffect.1⟩
      · exact (ih hrest).imp_left (List.mem_cons_of_mem _)
    · exact (ih hmem).imp_left (List.mem_cons_of_mem _)

section Rules

variable (ifname : String) (orig : Option (Gateway × String)) (serverIp : IpAddr)

/-- One target records the deletion of what it has added. -/
theorem applyRoute_undo (env : Environment) (rule : RouteRule) (state : RuleState) (net : Ipv4Net) :
    (applyRoute env ifname orig serverIp rule state net).setup.guard.undo =
      state.setup.guard.undo ++ (effective env state.setup.host.routes
        (claim ifname orig serverIp state.seen rule net)).map Addition.undo := by
  rw [claim]
  by_cases hpassed : PassedOver serverIp state.seen net
  · rw [applyRoute_of_passedOver ifname orig serverIp env rule hpassed, if_pos hpassed, effective,
      List.map_nil, List.append_nil]
  · obtain ⟨hserver, hseen⟩ := not_or.mp hpassed
    rw [if_neg hpassed, applyRoute, if_neg hserver, if_neg hseen]
    cases hhop : ruleHop ifname orig rule with
    | none => exact (List.append_nil _).symm
    | some hop =>
      rw [Option.map_some, Option.toList_some, effective, effective]
      dsimp only
      have hissue := issue_routeAdd env (ruleAddition net hop) state.setup.host
      dsimp only [ruleAddition] at hissue
      by_cases heffect : (ruleAddition net hop).TakesEffect env state.setup.host.routes
      · rw [if_pos heffect, runIp, hissue]
        exact if_pos heffect ▸ rfl
      · rw [if_neg heffect, runIp, hissue]
        exact if_neg heffect ▸ (List.append_nil _).symm

/-- The loop records the deletions of what it adds, in order. -/
theorem ruleLoop_undo (env : Environment) (targets : List (RouteRule × Ipv4Net))
    (state : RuleState) :
    (targets.foldl (fun state target ↦
        applyRoute env ifname orig serverIp target.1 state target.2) state).setup.guard.undo =
      state.setup.guard.undo ++ (effective env state.setup.host.routes
        (rulePlan ifname orig serverIp state.seen targets)).map Addition.undo := by
  induction targets generalizing state with
  | nil => exact (List.append_nil _).symm
  | cons target rest ih =>
    obtain ⟨rule, net⟩ := target
    obtain ⟨hstep, hseen⟩ := applyRoute_reaches ifname orig serverIp env rule state net
    rw [List.foldl_cons, ih, applyRoute_undo, hstep.routes, hseen, rulePlan, effective_append,
      List.map_append, List.append_assoc]

/-! ### The contract -/

/-- The arguments of the rule's command are valid: the rule has a next hop, of the family of its
target, that the host takes. -/
def Installable (valid : NextHop → Bool) (rule : RouteRule) : Prop :=
  (ruleHop ifname orig rule).any fun hop ↦ valid hop && hop.fitsFamily (.v4 0)

instance (valid : NextHop → Bool) (rule : RouteRule) :
    Decidable (Installable ifname orig valid rule) :=
  inferInstanceAs (Decidable (_ = true))

/-- The first installable rule that denotes a network. -/
def firstInstallable (valid : NextHop → Bool) (targets : List (RouteRule × Ipv4Net))
    (word : List Bool) : Option (RouteRule × Ipv4Net) :=
  targets.find? fun target ↦ target.2.word = word ∧ Installable ifname orig valid target.1

/-- The first rule that writes a network without host bits. -/
def firstPlain (targets : List (RouteRule × Ipv4Net)) (word : List Bool) :
    Option (RouteRule × Ipv4Net) :=
  targets.find? fun target ↦ target.2.word = word ∧ target.2.HostBitsClear

/-- What the rules are to come to, from one state of setup to another. -/
structure FirstRuleWins (valid : NextHop → Bool) (targets : List (RouteRule × Ipv4Net))
    (setup final : Setup) (additions : List Addition) : Prop where
  routes : final.host.routes = setup.host.routes ++ additions.map Addition.route
  undo : final.guard.undo = setup.guard.undo ++ additions.map Addition.undo
  server : ∀ addition ∈ additions, addition.route.dst ≠ serverIp.word
  first : ∀ word target, false :: word ≠ serverIp.word →
    firstInstallable ifname orig valid targets word = some target →
      ((additions.map Addition.route).filter fun route ↦ route.dst = false :: word).map
        (fun route ↦ some route.hop) = [ruleHop ifname orig target.1]

/-- The first rule that writes a network without host bits has the next hop of the first installable
rule that denotes it. -/
def Unshadowed (valid : NextHop → Bool) (targets : List (RouteRule × Ipv4Net)) : Prop :=
  ∀ word target, false :: word ≠ serverIp.word →
    firstInstallable ifname orig valid targets word = some target →
      (firstPlain targets word).map (fun plain ↦ ruleHop ifname orig plain.1) =
        some (ruleHop ifname orig target.1)

/-- `ip route add` succeeds for a rule's route whenever its arguments are valid: it is refused for a
reason outside the table exactly when the host does not take the next hop, and the table has no
route to a network of the rules. -/
structure Succeeds (env : Environment) (valid : NextHop → Bool)
    (targets : List (RouteRule × Ipv4Net)) (table : List Route) : Prop where
  refuses : ∀ net rule hop, targets.find? (fun target ↦ target.2 = net) = some (rule, net) →
    ruleHop ifname orig rule = some hop → env.refuses (.rule net) = !valid hop
  fresh : ∀ target ∈ targets, false :: target.2.word ∉ table.map Route.dst

variable {ifname orig serverIp} {env : Environment} {valid : NextHop → Bool}
  {targets : List (RouteRule × Ipv4Net)} {table : List Route}

theorem installable_iff {rule : RouteRule} :
    Installable ifname orig valid rule ↔
      ∃ hop, ruleHop ifname orig rule = some hop ∧ valid hop = true ∧
        hop.fitsFamily (.v4 0) = true := by
  rw [Installable, Option.any_eq_true]
  simp only [Bool.and_eq_true]

/-- The first installable rule for a network has a next hop that the host takes. -/
theorem exists_hop_of_firstInstallable {word : List Bool} {target : RouteRule × Ipv4Net}
    (htarget : firstInstallable ifname orig valid targets word = some target) :
    ∃ hop, ruleHop ifname orig target.1 = some hop ∧ valid hop = true ∧
      hop.fitsFamily (.v4 0) = true := by
  have hfound := List.find?_some htarget
  rw [decide_eq_true_iff] at hfound
  exact installable_iff.mp hfound.2

/-- A next hop fits the family of an address, whatever the address. -/
theorem fitsFamily_v4 (hop : NextHop) (addr other : Ipv4Addr) :
    hop.fitsFamily (.v4 addr) = hop.fitsFamily (.v4 other) := by
  cases hop with
  | via gateway => cases gateway <;> rfl
  | _ => rfl

/-- Without host bits a network has one spelling. -/
theorem firstPlain_of_hostBitsClear {net : Ipv4Net} (hclear : net.HostBitsClear) :
    firstPlain targets net.word = targets.find? fun target ↦ target.2 = net := by
  refine congrArg (List.find? · targets) (funext fun target ↦ decide_eq_decide.mpr ?_)
  constructor
  · exact fun h ↦ Network.eq_of_word_eq h.2 hclear h.1
  · rintro rfl
    exact ⟨rfl, hclear⟩

/-- The routes that the rules install: for each network the next hop of the first rule that writes
it without host bits, if the host takes it. -/
theorem mem_added_rulePlan_iff (hsucceeds : Succeeds ifname orig env valid targets table)
    {word : List Bool} {hop : NextHop} (hserver : false :: word ≠ serverIp.word) :
    ⟨false :: word, hop⟩ ∈ added env table (rulePlan ifname orig serverIp [] targets) ↔
      ∃ plain, firstPlain targets word = some plain ∧ ruleHop ifname orig plain.1 = some hop ∧
        valid hop = true ∧ hop.fitsFamily (.v4 0) = true := by
  constructor
  · intro hroute
    obtain ⟨addition, haddition, heffect, hsame⟩ := exists_of_mem_added hroute
    obtain ⟨net, rule, other, -, hfind, hhop, rfl⟩ := (mem_rulePlan_iff ..).mp haddition
    obtain ⟨hdst, rfl⟩ := Route.mk.inj hsame
    obtain rfl : net.word = word := (List.cons.inj hdst).2
    obtain ⟨hopen, -, hfits, hclear⟩ := heffect.1
    have hvalid := (hsucceeds.refuses net rule other hfind hhop).symm.trans hopen
    rw [Bool.not_eq_false'] at hvalid
    have hplain : firstPlain targets net.word = _ := firstPlain_of_hostBitsClear hclear
    exact ⟨(rule, net), hplain.trans hfind, hhop, hvalid, (fitsFamily_v4 ..).trans hfits⟩
  · rintro ⟨⟨rule, net⟩, hplain, hhop, hvalid, hfits⟩
    have hnet := List.find?_some hplain
    rw [decide_eq_true_iff] at hnet
    obtain ⟨rfl, hclear⟩ := hnet
    have hfind := (firstPlain_of_hostBitsClear hclear).symm.trans hplain
    have hpassed : ¬ PassedOver serverIp [] net := by
      rintro (hsame | hseen)
      · refine hserver ?_
        have hword := congrArg IpPrefix.word hsame
        rw [IpPrefix.word_ofNet] at hword
        rw [hword]
        cases serverIp with
        | v4 addr => exact IpPrefix.word_full (.v4 addr)
        | v6 addr => exact absurd (congrArg IpPrefix.addr hsame) nofun
      · exact absurd hseen List.not_mem_nil
    have hmem : ruleAddition net hop ∈ rulePlan ifname orig serverIp [] targets :=
      (mem_rulePlan_iff ..).mpr ⟨net, rule, hop, hpassed, hfind, hhop, rfl⟩
    have hpossible : (ruleAddition net hop).Possible env := by
      refine ⟨?_, net.prefixLen_le, (fitsFamily_v4 ..).trans hfits, hclear⟩
      exact (hsucceeds.refuses net rule hop hfind hhop).trans (by rw [hvalid]; rfl)
    refine (mem_installed fun first second hfirst hsecond hsame ↦ ?_).mpr ⟨?_, ?_⟩
    · obtain ⟨left, hleft, hfirst⟩ := List.mem_map.mp hfirst
      obtain ⟨right, hright, hsecond⟩ := List.mem_map.mp hsecond
      obtain ⟨hpossibleLeft, rfl⟩ := Addition.attempt_eq_false_iff.mp hfirst
      obtain ⟨hpossibleRight, rfl⟩ := Addition.attempt_eq_false_iff.mp hsecond
      rw [rulePlan_unique _ _ _ hleft hright hpossibleLeft hpossibleRight hsame]
    · exact List.mem_map.mpr ⟨_, hmem, Addition.attempt_eq_false_iff.mpr ⟨hpossible, rfl⟩⟩
    · exact hsucceeds.fresh _ (List.mem_of_find?_eq_some hplain)

/-- No rule installs a route to the server's address. -/
theorem route_dst_ne_server {addition : Addition}
    (haddition : addition ∈ effective env table (rulePlan ifname orig serverIp [] targets)) :
    addition.route.dst ≠ serverIp.word := by
  obtain ⟨hmem, hpossible⟩ := effective_subset haddition
  obtain ⟨net, rule, hop, hpassed, -, -, rfl⟩ := (mem_rulePlan_iff ..).mp hmem
  cases serverIp with
  | v4 addr =>
    have hne : (IpPrefix.ofNet net).word ≠ (IpPrefix.ofNet (Core.host addr)).word :=
      rule_word_ne_pin (fun h ↦ hpassed (Or.inl h)) hpossible
    rwa [IpPrefix.word_ofNet (Core.host addr), word_host] at hne
  | v6 addr => exact fun hsame ↦ Bool.noConfusion (List.cons.inj hsame).1

/-- In a list with pairwise distinct keys, the items under a key are one item as soon as it is
there. -/
theorem filter_eq_singleton {items : List Route} (hnodup : (items.map Route.dst).Nodup)
    {route : Route} (hmem : route ∈ items) :
    (items.filter fun other ↦ other.dst = route.dst) = [route] := by
  have hkeys : (items.filter fun other ↦ other.dst = route.dst).map Route.dst =
      List.replicate _ route.dst :=
    List.eq_replicate_of_mem fun key hkey ↦ by
      obtain ⟨other, hother, rfl⟩ := List.mem_map.mp hkey
      simpa using (List.mem_filter.mp hother).2
  have hlength := List.nodup_replicate.mp (hkeys ▸ (hnodup.sublist (List.filter_sublist.map _)))
  rw [List.length_map] at hlength
  have hroute : route ∈ items.filter fun other ↦ other.dst = route.dst :=
    List.mem_filter.mpr ⟨hmem, decide_eq_true rfl⟩
  obtain ⟨only, honly⟩ := List.length_eq_one_iff.mp
    (hlength.antisymm (List.length_pos_of_mem hroute))
  rw [honly, List.mem_singleton] at hroute
  rw [honly, hroute]

end Rules

/-- The rules are installed first rule wins exactly when no network is first written plainly by a
rule that leads elsewhere than the first installable rule for it. -/
theorem first_rule_wins_iff {env : Environment} {cfg : ClientConfig} {ifname : String}
    {orig : Option (Gateway × String)} {serverIp : IpAddr} {valid : NextHop → Bool} {setup : Setup}
    (hsucceeds : Succeeds ifname orig env valid (ruleTargets env.resolver cfg.routes)
      setup.host.routes) :
    (∃ additions, FirstRuleWins ifname orig serverIp valid (ruleTargets env.resolver cfg.routes)
        setup (applyRouteRules env cfg ifname orig serverIp setup) additions) ↔
      Unshadowed ifname orig serverIp valid (ruleTargets env.resolver cfg.routes) := by
  have hroutes := (applyRouteRules_reaches ifname orig serverIp env cfg setup).routes
  constructor
  · rintro ⟨additions, hwins⟩ word target hserver htarget
    have hadded := List.append_cancel_left (hwins.routes.symm.trans hroutes)
    have hfirst := hwins.first word target hserver htarget
    obtain ⟨hop, hhop, hvalid, hfits⟩ := exists_hop_of_firstInstallable htarget
    rw [hadded, hhop] at hfirst
    obtain ⟨route, honly, hsame⟩ := List.map_eq_singleton_iff.mp hfirst
    obtain ⟨hroute, hdst⟩ := List.mem_filter.mp (honly ▸ List.mem_singleton_self route)
    obtain ⟨dst, other⟩ := route
    obtain rfl := of_decide_eq_true hdst
    obtain rfl := Option.some.inj hsame
    obtain ⟨plain, hplain, hplainHop, -, -⟩ :=
      (mem_added_rulePlan_iff hsucceeds hserver).mp hroute
    rw [hplain, Option.map_some, hplainHop, hhop]
  · intro hunshadowed
    refine ⟨effective env setup.host.routes (rulePlan ifname orig serverIp []
      (ruleTargets env.resolver cfg.routes)), ?_, ?_, fun _ ↦ route_dst_ne_server,
      fun word target hserver htarget ↦ ?_⟩
    · rw [map_route_effective]
      exact hroutes
    · have hundo := ruleLoop_undo ifname orig serverIp env
        (ruleTargets env.resolver cfg.routes) ⟨[], setup⟩
      simp only [ruleTargets, List.foldl_flatMap, List.foldl_map] at hundo
      exact hundo
    · obtain ⟨hop, hhop, hvalid, hfits⟩ := exists_hop_of_firstInstallable htarget
      obtain ⟨plain, hplain, hsame⟩ :=
        Option.map_eq_some_iff.mp (hunshadowed word target hserver htarget)
      have hroute := (mem_added_rulePlan_iff hsucceeds hserver).mpr
        ⟨plain, hplain, hsame.trans hhop, hvalid, hfits⟩
      rw [map_route_effective, filter_eq_singleton (nodup_map_added ..) hroute, hhop]
      rfl

/-! ### Two rules for one network -/

/-- The network `10.0.0.0/8`. -/
def tenNet : Ipv4Net where
  addr := ipv4 10 0 0 0
  prefixLen := 8
  prefixLen_le := Nat.le_of_ble_eq_true rfl

/-- A calm environment whose parser knows `10.0.0.0/8`. -/
def tenEnvironment : Environment :=
  { calmEnvironment with
    resolver :=
      { calmEnvironment.resolver with
        parseIpv4Net := fun text ↦ if text = "10.0.0.0/8" then some tenNet else none } }

/-- A profile with two rules for `10.0.0.0/8`, the second through the tunnel. -/
def tenConfig (firstVia : String) : ClientConfig where
  mode := .vpn
  routes := [⟨"10.0.0.0/8", firstVia, none⟩, ⟨"10.0.0.0/8", "tunnel", none⟩]

theorem succeeds_tenConfig (firstVia : String) (orig : Option (Gateway × String)) :
    Succeeds "et0" orig tenEnvironment (fun _ ↦ true)
      (ruleTargets tenEnvironment.resolver (tenConfig firstVia).routes) [] where
  refuses := fun _ _ _ _ _ ↦ rfl
  fresh := fun _ _ ↦ List.not_mem_nil

/-- Two rules for one network, the first of them through another interface. -/
theorem first_rule_wins_iff_tenConfig :
    (∃ additions, FirstRuleWins "et0" none (.v4 (ipv4 203 0 113 7)) (fun _ ↦ true)
        (ruleTargets tenEnvironment.resolver (tenConfig "eth1").routes) ⟨⟨[], none⟩, ⟨[], none⟩⟩
        (applyRouteRules tenEnvironment (tenConfig "eth1") "et0" none (.v4 (ipv4 203 0 113 7))
          ⟨⟨[], none⟩, ⟨[], none⟩⟩) additions) ↔
      Unshadowed "et0" none (.v4 (ipv4 203 0 113 7)) (fun _ ↦ true)
        (ruleTargets tenEnvironment.resolver (tenConfig "eth1").routes) :=
  first_rule_wins_iff (succeeds_tenConfig "eth1" none)

/-- Without a default route a `direct` rule still claims its network, and the tunnel rule after it
is ignored. -/
theorem network_left_out :
    ¬ ∀ (env : Environment) (cfg : ClientConfig) (ifname : String)
      (orig : Option (Gateway × String)) (serverIp : IpAddr) (valid : NextHop → Bool)
      (setup : Setup),
      Succeeds ifname orig env valid (ruleTargets env.resolver cfg.routes) setup.host.routes →
        ∃ additions, FirstRuleWins ifname orig serverIp valid
          (ruleTargets env.resolver cfg.routes) setup
          (applyRouteRules env cfg ifname orig serverIp setup) additions := by
  intro hall
  obtain ⟨additions, hwins⟩ := hall tenEnvironment (tenConfig "direct") "et0" none
    (.v4 (ipv4 203 0 113 7)) (fun _ ↦ true) ⟨⟨[], none⟩, ⟨[], none⟩⟩
    (succeeds_tenConfig "direct" none)
  have hnone : additions.map Addition.route = [] := by
    have hroutes := hwins.routes
    rw [List.nil_append] at hroutes
    rw [← hroutes]
    decide
  have hfirst := hwins.first tenNet.word (⟨"10.0.0.0/8", "tunnel", none⟩, tenNet) (by decide)
    (by decide)
  rw [hnone] at hfirst
  exact absurd hfirst (by decide)

end EntroTunnel.Client
