import EntroTunnel.Client.NetworkSetup

/-!
# What network setup adds and records

`apply` reads the host only for its default routes. The route additions it attempts are therefore a
list known from its inputs, that of the split-tunnel rules among them (`rulePlan`). An addition
takes effect when its command is possible and its prefix is not in the table yet.

`Reaches` says what a part of `apply` does to the host and to the guard: the table grows by what the
attempts install, and the guard by removals. The parts compose (`Reaches.trans`).
-/

set_option autoImplicit false
set_option relaxedAutoImplicit false

namespace EntroTunnel.Client

open EntroTunnel.Core EntroTunnel.Foundation

/-! ### Additions -/

/-- A route addition that setup attempts, with the place of `apply` it is made from. -/
structure Addition where
  site : Site
  dst : IpPrefix
  hop : NextHop
  deriving DecidableEq, Repr

namespace Addition

/-- The route that the addition installs. -/
def route (addition : Addition) : Route where
  dst := addition.dst.word
  hop := addition.hop

/-- The command is not refused for a reason outside the table, and its arguments are a route. -/
def Possible (env : Environment) (addition : Addition) : Prop :=
  env.refuses addition.site = false ∧ Accepts addition.dst addition.hop

instance (env : Environment) (addition : Addition) : Decidable (addition.Possible env) :=
  inferInstanceAs (Decidable (_ ∧ _))

/-- The addition is possible and its prefix is not in the table. -/
def TakesEffect (env : Environment) (table : List Route) (addition : Addition) : Prop :=
  addition.Possible env ∧ addition.dst.word ∉ table.map Route.dst

instance (env : Environment) (table : List Route) (addition : Addition) :
    Decidable (addition.TakesEffect env table) :=
  inferInstanceAs (Decidable (_ ∧ _))

/-- The addition as an attempt on the table. -/
def attempt (env : Environment) (addition : Addition) : Bool × Route :=
  (!decide (addition.Possible env), addition.route)

theorem attempt_eq_false_iff {env : Environment} {addition : Addition} {route : Route} :
    addition.attempt env = (false, route) ↔ addition.Possible env ∧ addition.route = route := by
  simp [attempt]

end Addition

/-- What the additions install in the table. -/
def added (env : Environment) (table : List Route) (additions : List Addition) : List Route :=
  installed Route.dst table (additions.map (Addition.attempt env))

@[simp] theorem added_nil (env : Environment) (table : List Route) : added env table [] = [] := rfl

theorem added_append (env : Environment) (table : List Route) (first second : List Addition) :
    added env table (first ++ second) =
      added env table first ++ added env (table ++ added env table first) second := by
  rw [added, List.map_append, installed_append]
  rfl

/-- What is installed comes from an addition that is possible and whose prefix the table lacked. -/
theorem exists_of_mem_added {env : Environment} {table : List Route} {additions : List Addition}
    {route : Route} (hroute : route ∈ added env table additions) :
    ∃ addition ∈ additions, addition.TakesEffect env table ∧ addition.route = route := by
  obtain ⟨addition, haddition, hattempt⟩ := List.mem_map.mp (mem_attempts_of_mem_installed hroute)
  obtain ⟨hpossible, rfl⟩ := Addition.attempt_eq_false_iff.mp hattempt
  exact ⟨addition, haddition, ⟨hpossible, dst_notMem_of_mem_installed hroute⟩, rfl⟩

theorem nodup_map_added (env : Environment) (table : List Route) (additions : List Addition) :
    ((added env table additions).map Route.dst).Nodup :=
  nodup_map_installed _ _

/-- A single addition installs its route or nothing. -/
theorem added_singleton (env : Environment) (table : List Route) (addition : Addition) :
    added env table [addition] =
      if addition.TakesEffect env table then [addition.route] else [] := by
  rw [added, List.map_singleton, Addition.attempt, installed]
  by_cases heffect : addition.TakesEffect env table
  · rw [if_neg (by simp [heffect.1, Addition.route, heffect.2]), if_pos heffect]
    rfl
  · rw [if_pos, if_neg heffect]
    · rfl
    · by_cases hpossible : addition.Possible env
      · exact Or.inr (not_not.mp fun hkey ↦ heffect ⟨hpossible, hkey⟩)
      · exact Or.inl (by simp [hpossible])

/-- The command of an addition succeeds exactly when the addition takes effect. -/
theorem issue_routeAdd (env : Environment) (addition : Addition) (host : Host) :
    issue env addition.site (.routeAdd addition.dst addition.hop) host =
      if addition.TakesEffect env host.routes then
        some { host with routes := host.routes ++ [addition.route] }
      else none := by
  rw [issue, IpCommand.exec, addNew]
  by_cases hrefused : env.refuses addition.site = true
  · rw [if_pos hrefused, if_neg]
    exact fun heffect ↦ Bool.false_ne_true (heffect.1.1.symm.trans hrefused)
  · rw [if_neg hrefused]
    by_cases haccepts : Accepts addition.dst addition.hop
    · rw [if_pos haccepts]
      by_cases hkey : addition.dst.word ∈ host.routes.map Route.dst
      · rw [if_pos hkey, if_neg fun heffect ↦ heffect.2 hkey]
        rfl
      · rw [if_neg hkey, if_pos ⟨⟨by simpa using hrefused, haccepts⟩, hkey⟩]
        rfl
    · rw [if_neg haccepts, if_neg fun heffect ↦ haccepts heffect.1.2]

/-! ### Parts of setup -/

/-- The undo commands of the guard act on the table as the removals do. -/
def Undoes (guard : NetGuard) (removals : List (Route → Bool)) : Prop :=
  ∀ host : Host,
    guard.undo.foldl (fun host command ↦ (command.exec host).getD host) host =
      { host with routes := undoAll removals host.routes }

theorem undoes_record {setup : Setup} {removals : List (Route → Bool)}
    (hundoes : Undoes setup.guard removals) (dst : IpPrefix) (hop : Option NextHop) :
    Undoes (setup.record (.routeDel dst hop)).guard (removals ++ [removes dst hop]) := by
  intro host
  rw [Setup.record, List.foldl_append, hundoes host, List.foldl_cons, List.foldl_nil,
    exec_routeDel_getD]
  simp only [undoAll, List.foldl_append, List.foldl_cons, List.foldl_nil]

/-- A part of setup leads from one state to the other: the additions are attempted, the removals
are recorded, and nothing else changes. -/
structure Reaches (env : Environment) (additions : List Addition)
    (removals : List (Route → Bool)) (setup final : Setup) : Prop where
  host : final.host =
    { setup.host with routes := setup.host.routes ++ added env setup.host.routes additions }
  backup : final.guard.resolvBackup = setup.guard.resolvBackup
  undoes : ∀ earlier, Undoes setup.guard earlier → Undoes final.guard (earlier ++ removals)

namespace Reaches

variable {env : Environment} {additions more : List Addition}
  {removals others : List (Route → Bool)} {setup middle final : Setup}

theorem refl (env : Environment) (setup : Setup) : Reaches env [] [] setup setup where
  host := by rw [added_nil, List.append_nil]
  backup := rfl
  undoes := fun earlier hearlier ↦ by rwa [List.append_nil]

theorem routes (hreaches : Reaches env additions removals setup final) :
    final.host.routes = setup.host.routes ++ added env setup.host.routes additions := by
  rw [hreaches.host]

theorem trans (hfirst : Reaches env additions removals setup middle)
    (hsecond : Reaches env more others middle final) :
    Reaches env (additions ++ more) (removals ++ others) setup final where
  host := by
    rw [hsecond.host, hfirst.host, added_append, List.append_assoc]
  backup := hsecond.backup.trans hfirst.backup
  undoes := fun earlier hearlier ↦ by
    rw [← List.append_assoc]
    exact hsecond.undoes _ (hfirst.undoes earlier hearlier)

/-- Recording a deletion changes the guard only. -/
theorem record (env : Environment) (setup : Setup) (dst : IpPrefix) (hop : Option NextHop) :
    Reaches env [] [removes dst hop] setup (setup.record (.routeDel dst hop)) where
  host := by
    rw [added_nil, List.append_nil]
    rfl
  backup := rfl
  undoes := fun _ hearlier ↦ undoes_record hearlier dst hop

/-- A best-effort route addition. -/
theorem tryIp (env : Environment) (setup : Setup) (addition : Addition) :
    Reaches env [addition] [] setup
      (tryIp env addition.site (.routeAdd addition.dst addition.hop) setup) where
  host := by
    rw [Client.tryIp, issue_routeAdd, added_singleton]
    split_ifs
    · rfl
    · rw [List.append_nil]
      rfl
  backup := rfl
  undoes := fun earlier hearlier ↦ by rwa [List.append_nil]

end Reaches

/-- A checked route addition succeeds exactly when it takes effect. -/
theorem runIp_routeAdd_ok {env : Environment} {setup final : Setup} (addition : Addition)
    (hrun : runIp env addition.site (.routeAdd addition.dst addition.hop) setup = .ok final) :
    addition.TakesEffect env setup.host.routes ∧ Reaches env [addition] [] setup final := by
  have hfinal := Reaches.tryIp env setup addition
  rw [tryIp, issue_routeAdd] at hfinal
  rw [runIp, issue_routeAdd] at hrun
  by_cases heffect : addition.TakesEffect env setup.host.routes
  · rw [if_pos heffect] at hrun hfinal
    exact ⟨heffect, Except.ok.inj hrun ▸ hfinal⟩
  · rw [if_neg heffect] at hrun
    exact absurd hrun nofun

/-- A checked route addition that fails leaves the host as it is. -/
theorem runIp_routeAdd_error {env : Environment} {setup : Setup} {left : Host}
    (addition : Addition)
    (hrun : runIp env addition.site (.routeAdd addition.dst addition.hop) setup = .error left) :
    ¬ addition.TakesEffect env setup.host.routes ∧ left = setup.host := by
  rw [runIp, issue_routeAdd] at hrun
  by_cases heffect : addition.TakesEffect env setup.host.routes
  · rw [if_pos heffect] at hrun
    exact absurd hrun nofun
  · rw [if_neg heffect] at hrun
    exact ⟨heffect, (Except.error.inj hrun).symm⟩

/-! ### Split-tunnel rules -/

/-- The rules with the networks of their targets, in the order of the loop. -/
def ruleTargets (resolver : Resolver) (routes : List RouteRule) : List (RouteRule × Ipv4Net) :=
  routes.flatMap fun rule ↦ (resolveRuleTargets resolver rule.target).map fun net ↦ (rule, net)

/-- The route addition of a rule. -/
def ruleAddition (net : Ipv4Net) (hop : NextHop) : Addition where
  site := .rule net
  dst := .ofNet net
  hop := hop

/-- The deletion recorded for a rule's route. -/
def Route.removal (route other : Route) : Bool :=
  other.dst = route.dst ∧ route.hop.selects other.hop

/-- A possible rule addition is not for the network of the pin. -/
theorem rule_word_ne_pin {env : Environment} {net : Ipv4Net} {hop : NextHop} {addr : Ipv4Addr}
    (hserver : IpPrefix.ofNet net ≠ ⟨.v4 addr, 32⟩)
    (hpossible : (ruleAddition net hop).Possible env) :
    (IpPrefix.ofNet net).word ≠ (IpPrefix.ofNet (Core.host addr)).word := by
  intro hword
  have hclear : net.HostBitsClear := hpossible.2.2.2
  have hfull : (Core.host addr).HostBitsClear := by
    rw [Network.HostBitsClear, Core.host, List.drop_of_length_le (length_bits addr).le]
    exact List.not_mem_nil
  have hnet : net = Core.host addr :=
    Network.eq_of_word_eq hclear hfull (List.cons.inj hword).2
  exact hserver (by rw [hnet]; rfl)

section Rules

variable (ifname : String) (orig : Option (Gateway × String)) (serverIp : IpAddr)

/-- A network that the loop passes over: the server's own address, or claimed by an earlier rule. -/
def PassedOver (seen : List Ipv4Net) (net : Ipv4Net) : Prop :=
  IpPrefix.ofNet net = ⟨serverIp, 32⟩ ∨ net ∈ seen

instance (seen : List Ipv4Net) (net : Ipv4Net) : Decidable (PassedOver serverIp seen net) :=
  inferInstanceAs (Decidable (_ ∨ _))

/-- What the loop attempts for one target: the rule's next hop, if it has one. -/
def claim (seen : List Ipv4Net) (rule : RouteRule) (net : Ipv4Net) : List Addition :=
  if PassedOver serverIp seen net then []
  else ((ruleHop ifname orig rule).map (ruleAddition net)).toList

/-- The additions that the loop over the rules attempts. A network counts as claimed by the first
rule that names it, even when that rule has no next hop. -/
def rulePlan : List Ipv4Net → List (RouteRule × Ipv4Net) → List Addition
  | _, [] => []
  | seen, (rule, net) :: rest =>
    claim ifname orig serverIp seen rule net ++
      rulePlan (if PassedOver serverIp seen net then seen else net :: seen) rest

theorem mem_claim_iff {seen : List Ipv4Net} {rule : RouteRule} {net : Ipv4Net}
    {addition : Addition} :
    addition ∈ claim ifname orig serverIp seen rule net ↔
      ¬ PassedOver serverIp seen net ∧
        ∃ hop, ruleHop ifname orig rule = some hop ∧ addition = ruleAddition net hop := by
  rw [claim]
  split_ifs with hpassed
  · simp [hpassed]
  · simp [hpassed, eq_comm]

/-- The plan of the rules: a network other than the server's address goes the way of the first rule
that names it. -/
theorem mem_rulePlan_iff {seen : List Ipv4Net} {targets : List (RouteRule × Ipv4Net)}
    {addition : Addition} :
    addition ∈ rulePlan ifname orig serverIp seen targets ↔
      ∃ net rule hop, ¬ PassedOver serverIp seen net ∧
        targets.find? (fun target ↦ target.2 = net) = some (rule, net) ∧
        ruleHop ifname orig rule = some hop ∧ addition = ruleAddition net hop := by
  induction targets generalizing seen with
  | nil => simp [rulePlan]
  | cons target rest ih =>
    obtain ⟨rule, net⟩ := target
    rw [rulePlan, List.mem_append, mem_claim_iff, ih]
    constructor
    · rintro (⟨hclaimed, hop, hhop, rfl⟩ | ⟨other, otherRule, hop, hother, hfind, hhop, rfl⟩)
      · exact ⟨net, rule, hop, hclaimed, by simp, hhop, rfl⟩
      · have hdiffers : net ≠ other := by
          rintro rfl
          by_cases hpassed : PassedOver serverIp seen net
          · exact hother (by rwa [if_pos hpassed])
          · exact hother (by rw [if_neg hpassed]; exact Or.inr List.mem_cons_self)
        refine ⟨other, otherRule, hop, fun hpassed ↦ hother ?_, ?_, hhop, rfl⟩
        · refine hpassed.imp_right fun hseen ↦ ?_
          split_ifs
          · exact hseen
          · exact List.mem_cons_of_mem _ hseen
        · rwa [List.find?_cons_of_neg (by simpa using hdiffers)]
    · rintro ⟨other, otherRule, hop, hother, hfind, hhop, rfl⟩
      by_cases hsame : net = other
      · subst hsame
        rw [List.find?_cons_of_pos (by simp), Option.some.injEq, Prod.mk.injEq] at hfind
        exact Or.inl ⟨hother, hop, hfind.1 ▸ hhop, rfl⟩
      · rw [List.find?_cons_of_neg (by simpa using hsame)] at hfind
        refine Or.inr ⟨other, otherRule, hop, fun hpassed ↦ hother ?_, hfind, hhop, rfl⟩
        refine hpassed.imp_right fun hseen ↦ ?_
        split_ifs at hseen
        · exact hseen
        · exact (List.mem_cons.mp hseen).resolve_left (Ne.symm hsame)

/-- Possible additions of the rules are determined by their prefix. -/
theorem rulePlan_unique {env : Environment} {seen : List Ipv4Net}
    {targets : List (RouteRule × Ipv4Net)} {first second : Addition}
    (hfirst : first ∈ rulePlan ifname orig serverIp seen targets)
    (hsecond : second ∈ rulePlan ifname orig serverIp seen targets)
    (hpossible : first.Possible env) (hother : second.Possible env)
    (hword : first.dst.word = second.dst.word) : first = second := by
  obtain ⟨net, rule, hop, -, hfind, hhop, rfl⟩ := (mem_rulePlan_iff ..).mp hfirst
  obtain ⟨net', rule', hop', -, hfind', hhop', rfl⟩ := (mem_rulePlan_iff ..).mp hsecond
  have hnet : net = net' := Network.eq_of_word_eq hpossible.2.2.2 hother.2.2.2
    (List.cons.inj hword).2
  subst hnet
  rw [hfind, Option.some.injEq, Prod.mk.injEq] at hfind'
  rw [hfind'.1, hhop', Option.some.injEq] at hhop
  rw [hhop]

/-- A target that is passed over changes nothing. -/
theorem applyRoute_of_passedOver (env : Environment) (rule : RouteRule) {state : RuleState}
    {net : Ipv4Net} (hpassed : PassedOver serverIp state.seen net) :
    applyRoute env ifname orig serverIp rule state net = state := by
  rw [applyRoute]
  rcases hpassed with hserver | hseen
  · rw [if_pos hserver]
  · rw [if_pos hseen, ite_self]

/-- One target: the claim is attempted and recorded if it takes effect. -/
theorem applyRoute_reaches (env : Environment) (rule : RouteRule) (state : RuleState)
    (net : Ipv4Net) :
    Reaches env (claim ifname orig serverIp state.seen rule net)
        ((added env state.setup.host.routes
          (claim ifname orig serverIp state.seen rule net)).map Route.removal)
        state.setup (applyRoute env ifname orig serverIp rule state net).setup ∧
      (applyRoute env ifname orig serverIp rule state net).seen =
        if PassedOver serverIp state.seen net then state.seen else net :: state.seen := by
  rw [claim]
  by_cases hpassed : PassedOver serverIp state.seen net
  · rw [applyRoute_of_passedOver ifname orig serverIp env rule hpassed, if_pos hpassed,
      if_pos hpassed]
    exact ⟨Reaches.refl env state.setup, rfl⟩
  · obtain ⟨hserver, hseen⟩ := not_or.mp hpassed
    rw [if_neg hpassed, if_neg hpassed, applyRoute, if_neg hserver, if_neg hseen]
    cases hhop : ruleHop ifname orig rule with
    | none => exact ⟨Reaches.refl env state.setup, rfl⟩
    | some hop =>
      rw [Option.map_some, Option.toList_some, added_singleton]
      dsimp only
      cases hrun : runIp env (.rule net) (.routeAdd (.ofNet net) hop) state.setup with
      | ok setup =>
        obtain ⟨heffect, hreaches⟩ := runIp_routeAdd_ok (ruleAddition net hop) hrun
        rw [if_pos heffect]
        exact ⟨hreaches.trans (Reaches.record env setup (.ofNet net) (some hop)), rfl⟩
      | error left =>
        obtain ⟨heffect, -⟩ := runIp_routeAdd_error (ruleAddition net hop) hrun
        have hattempt := Reaches.tryIp env state.setup (ruleAddition net hop)
        rw [tryIp, issue_routeAdd, if_neg heffect] at hattempt
        rw [if_neg heffect]
        exact ⟨hattempt, rfl⟩

/-- The loop over the rules attempts its plan and records what takes effect. -/
theorem ruleLoop_reaches (env : Environment) (targets : List (RouteRule × Ipv4Net))
    (state : RuleState) :
    Reaches env (rulePlan ifname orig serverIp state.seen targets)
      ((added env state.setup.host.routes
        (rulePlan ifname orig serverIp state.seen targets)).map Route.removal)
      state.setup
      (targets.foldl (fun state target ↦
        applyRoute env ifname orig serverIp target.1 state target.2) state).setup := by
  induction targets generalizing state with
  | nil => exact Reaches.refl env state.setup
  | cons target rest ih =>
    obtain ⟨rule, net⟩ := target
    obtain ⟨hstep, hseen⟩ := applyRoute_reaches ifname orig serverIp env rule state net
    have hall := hstep.trans (ih (applyRoute env ifname orig serverIp rule state net))
    rw [hseen, hstep.routes] at hall
    rw [List.foldl_cons, rulePlan, added_append, List.map_append]
    exact hall

/-- `apply_route_rules` attempts the plan of the rules and records what takes effect. -/
theorem applyRouteRules_reaches (env : Environment) (cfg : ClientConfig) (setup : Setup) :
    Reaches env (rulePlan ifname orig serverIp [] (ruleTargets env.resolver cfg.routes))
      ((added env setup.host.routes
        (rulePlan ifname orig serverIp [] (ruleTargets env.resolver cfg.routes))).map
          Route.removal)
      setup (applyRouteRules env cfg ifname orig serverIp setup) := by
  have hloop := ruleLoop_reaches ifname orig serverIp env
    (ruleTargets env.resolver cfg.routes) ⟨[], setup⟩
  simp only [ruleTargets, List.foldl_flatMap, List.foldl_map] at hloop
  exact hloop

end Rules

end EntroTunnel.Client
