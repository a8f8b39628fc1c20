import EntroTunnel.Client.SetupScript
import EntroTunnel.Foundation.PartialRun

/-!
# Two setups over one host

A chained global-proxy session that also joins the VPN configures the host twice: once for the
egress tunnel of the chain, once for the background VPN session with the first hop that
`spawn_vpn_lan` starts. Both setups are scripts over one host (`SetupScript`), and `step` lets
either of them perform its next operation, so a run is an interleaving of the two. The background
session runs from a copy of the profile that keeps the split-tunnel rules, and it reads
`via = tunnel` as its own TUN.

`TunnelRuled` are the networks that a session claims for a `via = tunnel` rule. `ip route add`
keeps the route that was added first, so for each of these networks the two sessions race; `Wins` is
the condition that the egress session wins. In runs under it the destinations of tunnel rules leave
by the egress TUN and no rule's route points at the TUN of the VPN session.
-/

set_option autoImplicit false
set_option relaxedAutoImplicit false

namespace EntroTunnel.Client

open EntroTunnel.Core EntroTunnel.Foundation

/-! ### Profiles -/

/-- The hops of a session that `run_session` relays over a chain. -/
def ClientConfig.hops (cfg : ClientConfig) : Option (List ServerEntry) :=
  if cfg.chain = [] then none
  else if 2 ≤ (resolveHops cfg.chain cfg.servers).length then
    some (resolveHops cfg.chain cfg.servers)
  else none

/-- The name of the TUN of the background VPN session. -/
def ClientConfig.lanTun (cfg : ClientConfig) : String :=
  cfg.tunName ++ "v"

theorem tunName_ne_lanTun (cfg : ClientConfig) : cfg.tunName ≠ cfg.lanTun := by
  intro hsame
  have hlength := congrArg String.length hsame
  rw [ClientConfig.lanTun, String.length_append] at hlength
  have hone : ("v" : String).length = 1 := by decide
  omega

/-! ### Interleaving -/

/-- The two sessions of a chained session that joins the VPN. -/
inductive ChainRole
  | egress
  | lan
  deriving DecidableEq, Repr

/-- What a session's setup is given from outside: its environment, the acceptance of its server and
the address of the server it dials. -/
structure SetupInput where
  env : Environment
  welcome : Welcome
  serverIp : IpAddr

/-- The profile that a session runs its setup from. -/
def ChainRole.config (cfg : ClientConfig) (hop0 : ServerEntry) : ChainRole → ClientConfig
  | .egress => cfg
  | .lan => spawnVpnLan cfg hop0

/-- The host between two operations, what is left of either setup, and the routes that rules have
installed so far. -/
structure ChainSetup where
  host : Host
  script : ChainRole → SetupScript NetGuard
  ruled : List Route

/-- The setups of a chained global-proxy session that joins the VPN, before their first operation.
-/
def ChainSetup.start (cfg : ClientConfig) (input : ChainRole → SetupInput) (host : Host) :
    Option ChainSetup :=
  match cfg.hops with
  | some (hop0 :: _) =>
    if cfg.mode = .globalProxy ∧ cfg.joinVpn = true then
      some
        { host
          script := fun session ↦
            applyScript (input session).env.resolver (session.config cfg hop0)
              (input session).welcome (session.config cfg hop0).tunName (input session).serverIp
          ruled := [] }
    else none
  | _ => none

/-- The route that an operation installs for a rule, if it does. -/
def ruledBy (env : Environment) (host : Host) : Operation → List Route
  | .command (.rule net) (.routeAdd dst hop) =>
    if (issue env (.rule net) (.routeAdd dst hop) host).isSome then [⟨dst.word, hop⟩] else []
  | _ => []

/-- One session performs its next operation. -/
def ChainSetup.step (input : ChainRole → SetupInput) (state : ChainSetup) (session : ChainRole) :
    Option ChainSetup :=
  match state.script session with
  | .act operation next =>
    some
      { host := (perform (input session).env operation state.host).1
        script := Function.update state.script session
          (next (perform (input session).env operation state.host).2)
        ruled := state.ruled ++ ruledBy (input session).env state.host operation }
  | _ => none

/-! ### Networks of tunnel rules -/

/-- The rule that a session lets claim a network: the first one that names it. The server's own
address is left to the pin. -/
def claimant (routes : List RouteRule) (input : SetupInput) (net : Ipv4Net) : Option RouteRule :=
  if PassedOver input.serverIp [] net then none
  else ((ruleTargets input.env.resolver routes).find? fun target ↦ target.2 = net).map Prod.fst

/-- A session claims the network for a `via = tunnel` rule. -/
def TunnelRuled (routes : List RouteRule) (input : SetupInput) (net : Ipv4Net) : Prop :=
  (claimant routes input net).any fun rule ↦ rule.via = "tunnel"

instance (routes : List RouteRule) (input : SetupInput) (net : Ipv4Net) :
    Decidable (TunnelRuled routes input net) :=
  inferInstanceAs (Decidable (_ = true))

/-- The first route of a destination prefix is bound to the interface `dev`. -/
def Leads (table : List Route) (word : List Bool) (dev : String) : Prop :=
  (table.find? fun route ↦ route.dst = word).any fun route ↦ route.BoundTo dev

instance (table : List Route) (word : List Bool) (dev : String) :
    Decidable (Leads table word dev) :=
  inferInstanceAs (Decidable (_ = true))

/-- The condition of the race. When the egress session adds the route of a tunnel rule, the route
takes effect, or the network is on the egress TUN already; when the VPN session adds it, it does not
take effect. -/
def Wins (cfg : ClientConfig) (input : ChainRole → SetupInput) (state : ChainSetup)
    (session : ChainRole) : Prop :=
  match session, state.script session with
  | .egress, .act (.command (.rule net) (.routeAdd dst hop)) _ =>
    TunnelRuled cfg.routes (input .egress) net →
      Addition.TakesEffect (input .egress).env state.host.routes ⟨.rule net, dst, hop⟩ ∨
        Leads state.host.routes dst.word cfg.tunName
  | .lan, .act (.command (.rule net) (.routeAdd dst hop)) _ =>
    TunnelRuled cfg.routes (input .lan) net →
      ¬ Addition.TakesEffect (input .lan).env state.host.routes ⟨.rule net, dst, hop⟩
  | _, _ => True

instance (cfg : ClientConfig) (input : ChainRole → SetupInput) (state : ChainSetup)
    (session : ChainRole) : Decidable (Wins cfg input state session) := by
  unfold Wins
  split <;> infer_instance

/-! ### What the setups keep -/

section Keeping

variable (cfg : ClientConfig) (input : ChainRole → SetupInput)

/-- The operations of a session's setup: a rule's route is bound to the TUN of the VPN session only
when that session adds it for a tunnel rule. -/
def Orderly (session : ChainRole) (operation : Operation) : Prop :=
  operation.Plain ∨ ∃ net hop, operation = (ruleAddition net hop).operation ∧
    (hop.device = some cfg.lanTun → session = .lan ∧ TunnelRuled cfg.routes (input session) net)

/-- The default route that a session sees does not lead into the TUN of the VPN session. -/
def Expected : (operation : Operation) → operation.Reply → Prop
  | .showDefault _ false, (orig : Option (Gateway × String)) => ∀ hop ∈ orig, hop.2 ≠ cfg.lanTun
  | _, _ => True

/-- The route of a tunnel rule over the egress TUN. -/
def egressAddition (net : Ipv4Net) : Addition :=
  ruleAddition net (.onLink cfg.tunName)

/-- The invariant of the interleaving. -/
structure Kept (state : ChainSetup) : Prop where
  defaults : ∀ route ∈ state.host.routes, route.dst = [false] → ¬ route.BoundTo cfg.lanTun
  ruled : ∀ route ∈ state.ruled, ¬ route.BoundTo cfg.lanTun
  within : ∀ session,
    (state.script session).Within (Orderly cfg input session) (Expected cfg)
  owed : ∀ net, TunnelRuled cfg.routes (input .egress) net →
    (state.script .egress).Owes (· = (egressAddition cfg net).operation) ∨
      Leads state.host.routes (IpPrefix.ofNet net).word cfg.tunName

end Keeping

variable {cfg : ClientConfig} {input : ChainRole → SetupInput}

theorem tunnelRuled_iff {routes : List RouteRule} {input : SetupInput} {net : Ipv4Net} :
    TunnelRuled routes input net ↔ ¬ PassedOver input.serverIp [] net ∧ ∃ rule,
      (ruleTargets input.env.resolver routes).find? (fun target ↦ target.2 = net) =
        some (rule, net) ∧ rule.via = "tunnel" := by
  rw [TunnelRuled, claimant]
  split_ifs with hpassed
  · simp [hpassed]
  · rw [Option.any_map, Option.any_eq_true]
    simp only [hpassed, not_false_eq_true, true_and]
    constructor
    · rintro ⟨⟨rule, other⟩, hfind, hvia⟩
      obtain rfl : other = net := by simpa using List.find?_some hfind
      exact ⟨rule, hfind, by simpa using hvia⟩
    · rintro ⟨rule, hfind, hvia⟩
      exact ⟨(rule, net), hfind, by simpa using hvia⟩

/-- The rules of a session plan no route over the TUN of the VPN session, tunnel rules of that
session apart. -/
theorem orderly_of_mem_rulePlan {hop0 : ServerEntry} {session : ChainRole}
    (hnamed : ∀ rule ∈ cfg.routes, rule.via ≠ cfg.lanTun) {orig : Option (Gateway × String)}
    (horig : ∀ hop ∈ orig, hop.2 ≠ cfg.lanTun) {addition : Addition}
    (haddition : addition ∈ rulePlan (session.config cfg hop0).tunName orig (input session).serverIp
      [] (ruleTargets (input session).env.resolver cfg.routes)) :
    Orderly cfg input session addition.operation := by
  obtain ⟨net, rule, hop, hpassed, hfind, hhop, rfl⟩ := (mem_rulePlan_iff ..).mp haddition
  refine Or.inr ⟨net, hop, rfl, fun hdevice ↦ ?_⟩
  have hrule : rule ∈ cfg.routes := by
    obtain ⟨other, hother, hmap⟩ := List.mem_flatMap.mp (List.mem_of_find?_eq_some hfind)
    obtain ⟨_, _, hpair⟩ := List.mem_map.mp hmap
    exact (Prod.mk.inj hpair).1 ▸ hother
  rw [ruleHop] at hhop
  by_cases htunnel : rule.via = "tunnel"
  · rw [if_pos htunnel] at hhop
    obtain rfl := Option.some.inj hhop
    refine ⟨?_, tunnelRuled_iff.mpr ⟨hpassed, rule, hfind, htunnel⟩⟩
    cases session with
    | egress => exact absurd (Option.some.inj hdevice) (tunName_ne_lanTun cfg)
    | lan => rfl
  rw [if_neg htunnel] at hhop
  by_cases hdirect : rule.via = "direct"
  · rw [if_pos hdirect] at hhop
    obtain ⟨⟨gateway, dev⟩, hmem, rfl⟩ := Option.map_eq_some_iff.mp hhop
    exact absurd (Option.some.inj hdevice) (horig (gateway, dev) hmem)
  rw [if_neg hdirect] at hhop
  refine absurd ?_ (hnamed rule hrule)
  cases hgateway : rule.gateway with
  | none =>
    rw [hgateway] at hhop
    obtain rfl := Option.some.inj hhop
    exact Option.some.inj hdevice
  | some gateway =>
    rw [hgateway] at hhop
    obtain rfl := Option.some.inj hhop
    exact Option.some.inj hdevice

/-- The invariant holds before the first operation. -/
theorem kept_start {host : Host} {state : ChainSetup}
    (hstart : ChainSetup.start cfg input host = some state)
    (hfresh : ∀ route ∈ host.routes, ¬ route.BoundTo cfg.lanTun)
    (hnamed : ∀ rule ∈ cfg.routes, rule.via ≠ cfg.lanTun) : Kept cfg input state := by
  rw [ChainSetup.start] at hstart
  split at hstart
  · rename_i hop0 rest hhops
    split_ifs at hstart
    obtain rfl := Option.some.inj hstart
    constructor
    · exact fun route hroute _ ↦ hfresh route hroute
    · exact fun route hroute ↦ absurd hroute List.not_mem_nil
    · intro session
      have hroutes : (session.config cfg hop0).routes = cfg.routes := by
        cases session <;> rfl
      refine applyScript_within (fun _ hplain ↦ Or.inl hplain) (fun orig horig addition hmem ↦ ?_) _
      rw [hroutes] at hmem
      exact orderly_of_mem_rulePlan hnamed horig hmem
    · intro net hruled
      obtain ⟨hpassed, rule, hfind, hvia⟩ := tunnelRuled_iff.mp hruled
      refine Or.inl (applyScript_owes (fun orig ↦ (mem_rulePlan_iff ..).mpr ?_) _)
      refine ⟨net, rule, .onLink cfg.tunName, hpassed, hfind, ?_, rfl⟩
      rw [ruleHop, if_pos hvia]
      rfl
  · exact absurd hstart nofun

/-- A step performs the next operation of one session. -/
theorem ChainSetup.step_eq_some {state next : ChainSetup} {session : ChainRole} :
    state.step input session = some next ↔ ∃ operation rest,
      state.script session = .act operation rest ∧
        next =
          { host := (perform (input session).env operation state.host).1
            script := Function.update state.script session
              (rest (perform (input session).env operation state.host).2)
            ruled := state.ruled ++ ruledBy (input session).env state.host operation } := by
  rw [ChainSetup.step]
  cases state.script session with
  | done | fail => simp
  | act operation rest =>
    rw [Option.some.injEq]
    constructor
    · rintro rfl
      exact ⟨operation, rest, rfl, rfl⟩
    · rintro ⟨_, _, hact, rfl⟩
      cases hact
      rfl

/-- The host's replies are expected as long as no default route leads into the VPN session's TUN. -/
theorem expected_perform {env : Environment} {host : Host}
    (hdefaults : ∀ route ∈ host.routes, route.dst = [false] → ¬ route.BoundTo cfg.lanTun)
    (operation : Operation) : Expected cfg operation (perform env operation host).2 := by
  cases operation with
  | command | readResolv | writeResolv => trivial
  | showDefault site family =>
    cases family with
    | true => trivial
    | false =>
      rintro ⟨gateway, dev⟩ hhop hdev
      rw [perform] at hhop
      dsimp only at hhop hdev
      split_ifs at hhop
      · cases hhop
      rw [firstDefault] at hhop
      split at hhop
      · rename_i dst found via hfind
        have hbound : (⟨dst, .via found via⟩ : Route).BoundTo cfg.lanTun → False :=
          hdefaults _ (List.mem_of_find?_eq_some hfind) (by simpa using List.find?_some hfind)
        cases found <;> cases hhop <;> exact hbound (congrArg some hdev)
      · cases hhop

/-- What a rule's operation records is what it adds to the table. -/
theorem ruledBy_operation (env : Environment) (host : Host) (net : Ipv4Net) (hop : NextHop) :
    ruledBy env host (ruleAddition net hop).operation =
      added env host.routes [ruleAddition net hop] := by
  rw [added_singleton]
  have hissue := issue_routeAdd env (ruleAddition net hop) host
  rw [ruleAddition] at hissue ⊢
  rw [Addition.operation, ruledBy, hissue]
  split_ifs <;> simp_all [Addition.route]

theorem ruledBy_plain {env : Environment} {host : Host} {operation : Operation}
    (hplain : operation.Plain) : ruledBy env host operation = [] := by
  cases operation with
  | showDefault | readResolv | writeResolv => rfl
  | command site command =>
    cases site with
    | rule net => exact hplain.elim
    | _ => rfl

/-- What an orderly operation adds: routes that are no default routes and no rule's, or the route of
a rule. -/
theorem orderly_adds (env : Environment) (host : Host) {session : ChainRole} {operation : Operation}
    (horderly : Orderly cfg input session operation) :
    ∃ more, (perform env operation host).1.routes = host.routes ++ more ∧
      ((∀ route ∈ more, route.dst ≠ [false]) ∧ ruledBy env host operation = [] ∧
          operation.Plain ∨
        ∃ net hop, operation = (ruleAddition net hop).operation ∧
          more = added env host.routes [ruleAddition net hop] ∧
          ruledBy env host operation = more ∧
          (hop.device = some cfg.lanTun →
            session = .lan ∧ TunnelRuled cfg.routes (input session) net)) := by
  rcases horderly with hplain | ⟨net, hop, rfl, hbound⟩
  · obtain ⟨more, hmore, hdst⟩ := perform_plain hplain env host
    exact ⟨more, hmore, Or.inl ⟨hdst, ruledBy_plain hplain, hplain⟩⟩
  · refine ⟨_, ?_, Or.inr ⟨net, hop, rfl, rfl, ruledBy_operation env host net hop, hbound⟩⟩
    rw [perform_addition]

/-- When the VPN session loses its races, no rule's route that takes effect is bound to its TUN. -/
theorem Wins.not_boundTo {state : ChainSetup} {session : ChainRole}
    (hwins : Wins cfg input state session)
    {net : Ipv4Net} {hop : NextHop} {rest : Bool → SetupScript NetGuard}
    (hact : state.script session = .act (.command (.rule net) (.routeAdd (.ofNet net) hop)) rest)
    (hbound : hop.device = some cfg.lanTun →
      session = .lan ∧ TunnelRuled cfg.routes (input session) net)
    (heffect : (ruleAddition net hop).TakesEffect (input session).env state.host.routes) :
    hop.device ≠ some cfg.lanTun := by
  intro hdevice
  obtain ⟨rfl, hruled⟩ := hbound hdevice
  unfold Wins at hwins
  rw [hact] at hwins
  exact hwins hruled heffect

theorem Leads.append {table more : List Route} {word : List Bool} {dev : String}
    (hleads : Leads table word dev) : Leads (table ++ more) word dev := by
  obtain ⟨route, hfind, hbound⟩ := (Option.any_eq_true _ _).mp hleads
  rw [Leads, List.find?_append, hfind]
  exact hbound

/-- A tunnel rule's network is on the egress TUN once the egress session has won its race. -/
theorem Wins.leads {state : ChainSetup} (hwins : Wins cfg input state .egress) {net : Ipv4Net}
    {rest : Bool → SetupScript NetGuard}
    (hact : state.script .egress = .act (egressAddition cfg net).operation rest)
    (hruled : TunnelRuled cfg.routes (input .egress) net) :
    Leads
      (state.host.routes ++
        added (input .egress).env state.host.routes [egressAddition cfg net])
      (IpPrefix.ofNet net).word cfg.tunName := by
  have hcommand : state.script .egress =
      .act (.command (.rule net) (.routeAdd (.ofNet net) (.onLink cfg.tunName))) rest := hact
  unfold Wins at hwins
  rw [hcommand] at hwins
  rcases hwins hruled with heffect | hleads
  · have hfree : state.host.routes.find? (fun route ↦ route.dst = (IpPrefix.ofNet net).word) =
        none := by
      refine List.find?_eq_none.mpr fun route hroute hsame ↦ heffect.2 ?_
      exact List.mem_map.mpr ⟨route, hroute, of_decide_eq_true hsame⟩
    have hadded : added (input .egress).env state.host.routes [egressAddition cfg net] =
        [(egressAddition cfg net).route] := by
      rw [added_singleton]
      exact if_pos heffect
    have hdst : (egressAddition cfg net).route.dst = (IpPrefix.ofNet net).word := rfl
    rw [hadded, Leads, List.find?_append, hfree, Option.none_or, List.find?_singleton,
      if_pos (decide_eq_true hdst)]
    exact decide_eq_true rfl
  · exact hleads.append

/-- A step that meets the condition of the race keeps the invariant. -/
theorem kept_step {state next : ChainSetup} {session : ChainRole} (hkept : Kept cfg input state)
    (hwins : Wins cfg input state session) (hstep : state.step input session = some next) :
    Kept cfg input next := by
  obtain ⟨operation, rest, hact, rfl⟩ := ChainSetup.step_eq_some.mp hstep
  have hwithin := hkept.within session
  rw [hact] at hwithin
  obtain ⟨horderly, hrest⟩ := hwithin
  obtain ⟨more, hroutes, hkind⟩ :=
    orderly_adds (input session).env state.host horderly
  constructor
  · intro route hroute hdst
    dsimp only at hroute
    rw [hroutes, List.mem_append] at hroute
    refine hroute.elim (fun hold ↦ hkept.defaults route hold hdst) fun hnew ↦ ?_
    rcases hkind with ⟨hplain, -, -⟩ | ⟨net, hop, rfl, rfl, -, hbound⟩
    · exact absurd hdst (hplain route hnew)
    · obtain ⟨addition, haddition, heffect, rfl⟩ := exists_of_mem_added hnew
      rw [List.mem_singleton] at haddition
      subst haddition
      exact hwins.not_boundTo hact hbound heffect
  · intro route hroute
    dsimp only at hroute
    rw [List.mem_append] at hroute
    refine hroute.elim (hkept.ruled route) fun hnew ↦ ?_
    rcases hkind with ⟨-, hnone, -⟩ | ⟨net, hop, rfl, rfl, hruled, hbound⟩
    · rw [hnone] at hnew
      exact absurd hnew List.not_mem_nil
    · rw [hruled] at hnew
      obtain ⟨addition, haddition, heffect, rfl⟩ := exists_of_mem_added hnew
      rw [List.mem_singleton] at haddition
      subst haddition
      exact hwins.not_boundTo hact hbound heffect
  · intro other
    dsimp only
    by_cases hsame : other = session
    · subst hsame
      rw [Function.update_self]
      exact hrest _ (expected_perform hkept.defaults operation)
    · rw [Function.update_of_ne hsame]
      exact hkept.within other
  · intro net hnet
    dsimp only
    rw [hroutes]
    rcases hkept.owed net hnet with howes | hleads
    · cases session with
      | lan =>
        rw [Function.update_of_ne (by decide)]
        exact Or.inl howes
      | egress =>
        rw [Function.update_self]
        rw [hact] at howes
        refine howes.symm.imp (fun hnext ↦ hnext _) fun hdue ↦ ?_
        rcases hkind with ⟨-, -, hplain⟩ | ⟨other, hop, rfl, rfl, -, -⟩
        · rw [hdue] at hplain
          exact hplain.elim
        · cases hdue
          exact hwins.leads hact hnet
    · exact Or.inr hleads.append

/-! ### Where the destinations of tunnel rules go -/

/-- A destination of a tunnel rule: it lies in a network that the egress session claims for such a
rule, and the table has no route for it that is more specific. -/
def Destined (cfg : ClientConfig) (input : ChainRole → SetupInput) (host : Host) (addr : Ipv4Addr) :
    Prop :=
  ∃ net, TunnelRuled cfg.routes (input .egress) net ∧ net.Contains addr ∧
    ∀ route ∈ host.routes, route.dst <+: (IpAddr.v4 addr).word →
      route.dst.length ≤ (IpPrefix.ofNet net).word.length

/-- Split rules stay on the egress tunnel: no rule's route points at the TUN of the VPN session, and
once the egress setup is complete, every destination of a tunnel rule is routed to the egress TUN.
-/
def StaysOnEgress (cfg : ClientConfig) (input : ChainRole → SetupInput)
    (state : ChainSetup) : Prop :=
  (∀ route ∈ state.ruled, ¬ route.BoundTo cfg.lanTun) ∧
    ∀ guard, state.script .egress = .done guard → ∀ addr, Destined cfg input state.host addr →
      ∃ route, state.host.resolve (.v4 addr) = some route ∧ route.BoundTo cfg.tunName

theorem Kept.staysOnEgress {state : ChainSetup} (hkept : Kept cfg input state) :
    StaysOnEgress cfg input state := by
  refine ⟨hkept.ruled, fun guard hdone addr ⟨net, hruled, hcontains, hlongest⟩ ↦ ?_⟩
  have hleads := (hkept.owed net hruled).resolve_left fun howes ↦ by
    rw [hdone] at howes
    exact howes
  obtain ⟨route, hfind, hbound⟩ := (Option.any_eq_true _ _).mp hleads
  refine ⟨route, lookup_eq_of_find hfind ?_ hlongest, of_decide_eq_true hbound⟩
  rw [IpPrefix.word_ofNet, IpAddr.word, List.cons_prefix_cons]
  exact ⟨rfl, hcontains⟩

/-- Whatever the order of the two setups, split rules stay on the egress tunnel as long as the
egress session wins the race for every network of a tunnel rule. Assumes: the TUN of the VPN session
is new to the host, and no rule names it. -/
theorem split_rules_stay {host : Host} {setups final : ChainSetup} {turns : List ChainRole}
    (hstart : ChainSetup.start cfg input host = some setups)
    (hfresh : ∀ route ∈ host.routes, ¬ route.BoundTo cfg.lanTun)
    (hnamed : ∀ rule ∈ cfg.routes, rule.via ≠ cfg.lanTun)
    (hrun : run (guarded (Wins cfg input) (ChainSetup.step input)) setups turns = some final) :
    StaysOnEgress cfg input final :=
  (guarded_preserves (fun _ _ _ hkept hwins hstep ↦ kept_step hkept hwins hstep) hrun
    (kept_start hstart hfresh hnamed)).staysOnEgress

/-! ### A whitelist profile over two hops -/

/-- The network of a documentation range. -/
def listedNet : Ipv4Net where
  addr := ipv4 198 51 100 0
  prefixLen := 25
  prefixLen_le := by decide

/-- A whitelist profile with two hops that joins the VPN and tunnels one network. -/
def listedConfig : ClientConfig where
  mode := .globalProxy
  splitMode := .whitelist
  routes := [{ target := "198.51.100.0/25", via := "tunnel" }]
  joinVpn := true
  servers :=
    [{ name := "entry", host := "entry.example", port := 7700, token := "near", noisePsk := "" },
      { name := "exit", host := "exit.example", port := 7700, token := "far", noisePsk := "" }]
  chain := ["entry", "exit"]

/-- The rule's target is read as its network; the egress session is in another virtual subnet. -/
def listedInput (session : ChainRole) : SetupInput where
  env :=
    { calmEnvironment with
      resolver :=
        { calmEnvironment.resolver with
          parseIpv4Net := fun target ↦
            if target = "198.51.100.0/25" then some listedNet else none } }
  welcome :=
    match session with
    | .egress => { ipv4Welcome with assignedIp := ipv4 10 77 0 2 }
    | .lan => ipv4Welcome
  serverIp := .v4 (ipv4 203 0 113 7)

/-- The egress session is through before the VPN session starts. -/
def egressFirst : List ChainRole :=
  List.replicate 6 .egress ++ List.replicate 5 .lan

/-- The VPN session is through before the egress session starts. -/
def lanFirst : List ChainRole :=
  List.replicate 5 .lan ++ List.replicate 6 .egress

/-- Whether a setup has come to its end. -/
def setupDone : SetupScript NetGuard → Bool
  | .done _ => true
  | _ => false

/-- When the egress session comes first, the network of the tunnel rule stays on its TUN. -/
theorem split_rules_stay_egressFirst :
    ∃ setups final, ChainSetup.start listedConfig listedInput routedHost = some setups ∧
      run (guarded (Wins listedConfig listedInput) (ChainSetup.step listedInput)) setups
        egressFirst = some final ∧ StaysOnEgress listedConfig listedInput final := by
  have hcompletes : (ChainSetup.start listedConfig listedInput routedHost).any (fun setups ↦
      (run (guarded (Wins listedConfig listedInput) (ChainSetup.step listedInput)) setups
        egressFirst).isSome) = true := by
    decide +kernel
  obtain ⟨setups, hstart, hsome⟩ := (Option.any_eq_true _ _).mp hcompletes
  obtain ⟨final, hrun⟩ := Option.isSome_iff_exists.mp hsome
  exact ⟨setups, final, hstart, hrun, split_rules_stay hstart (by decide) (by decide) hrun⟩

/-- When the VPN session comes first, the network of the tunnel rule is routed into its TUN, and
the egress session completes its setup without it. -/
theorem rule_on_lanTun :
    ∃ setups final, ChainSetup.start listedConfig listedInput routedHost = some setups ∧
      run (ChainSetup.step listedInput) setups lanFirst = some final ∧
      setupDone (final.script .egress) = true ∧
      (∃ route, final.host.resolve (.v4 (ipv4 198 51 100 9)) = some route ∧
        route.BoundTo listedConfig.lanTun) ∧
      ¬ StaysOnEgress listedConfig listedInput final := by
  have hcompletes : (ChainSetup.start listedConfig listedInput routedHost).any (fun setups ↦
      (run (ChainSetup.step listedInput) setups lanFirst).any fun final ↦
        setupDone (final.script .egress) &&
          (final.host.resolve (.v4 (ipv4 198 51 100 9))).any fun route ↦
            route.BoundTo listedConfig.lanTun ∧ route ∈ final.ruled) = true := by
    decide +kernel
  obtain ⟨setups, hstart, hruns⟩ := (Option.any_eq_true _ _).mp hcompletes
  obtain ⟨final, hrun, hfinal⟩ := (Option.any_eq_true _ _).mp hruns
  obtain ⟨hdone, hroute⟩ := (Bool.and_eq_true _ _).mp hfinal
  obtain ⟨route, hresolve, hbad⟩ := (Option.any_eq_true _ _).mp hroute
  obtain ⟨hbound, hruled⟩ := of_decide_eq_true hbad
  exact ⟨setups, final, hstart, hrun, hdone, ⟨route, hresolve, hbound⟩,
    fun hstays ↦ hstays.1 route hruled hbound⟩

end EntroTunnel.Client
