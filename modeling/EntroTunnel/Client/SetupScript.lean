import EntroTunnel.Client.SetupPlan
import EntroTunnel.Foundation.Script

/-!
# Network setup as a script

`apply` changes the host in one go; next to other programs it is a sequence of commands with the
host in other hands between them. `applyScript` is `apply` in that form: every `ip` command, every
look at the default route and every access to `resolv.conf` is one operation of the host, and all
that the session decides in between stays in the script. `alone_applyScript` says that without
interference the script does what `apply` does, for the host and for the guard.

The resolver is asked before a rule's routes are attempted. Its answers come from the environment of
the session and not from the host, so they are no operations.
-/

set_option autoImplicit false
set_option relaxedAutoImplicit false

namespace EntroTunnel.Client

open EntroTunnel.Core EntroTunnel.Foundation

/-! ### Operations -/

/-- The accesses of `apply` to the host. -/
inductive Operation
  | command (site : Site) (command : IpCommand)
  | showDefault (site : Site) (family : Bool)
  | readResolv
  | writeResolv (body : String)
  deriving DecidableEq

/-- What an operation tells the session: the exit status, the first default route of a family, the
content of `resolv.conf`. -/
abbrev Operation.Reply : Operation → Type
  | .command _ _ => Bool
  | .showDefault _ _ => Option (Gateway × String)
  | .readResolv => Option String
  | .writeResolv _ => Unit

abbrev SetupScript := Script Operation Operation.Reply

/-- Perform an operation on the host. -/
def perform (env : Environment) : (operation : Operation) → Host → Host × operation.Reply
  | .command site command, host =>
    match issue env site command host with
    | some next => (next, true)
    | none => (host, false)
  | .showDefault site family, host =>
    (host, if env.refuses site then none else firstDefault family host)
  | .readResolv, host => (host, readToString env.resolvReadable host.resolv)
  | .writeResolv body, host =>
    ({ host with resolv := writeInPlace env.resolvWrite body host.resolv }, ())

/-! ### The script -/

/-- Record an undo command in the guard. -/
def NetGuard.record (guard : NetGuard) (command : IpCommand) : NetGuard :=
  { guard with undo := guard.undo ++ [command] }

/-- A checked command. -/
def runIpScript (site : Site) (command : IpCommand) (guard : NetGuard) : SetupScript NetGuard :=
  .act (.command site command) fun ok : Bool ↦ if ok then .done guard else .fail

/-- A best-effort command. -/
def tryIpScript (site : Site) (command : IpCommand) (guard : NetGuard) : SetupScript NetGuard :=
  .act (.command site command) fun _ : Bool ↦ .done guard

def bringUpScript (welcome : Welcome) (ifname : String) (guard : NetGuard) :
    SetupScript NetGuard := do
  let cidr : IpPrefix := ⟨.v4 welcome.assignedIp, welcome.prefixLen.toNat⟩
  let guard ← runIpScript .addrAdd (.addrAdd cidr ifname) guard
  let guard ← runIpScript .linkMtu (.linkSetMtu ifname welcome.mtu) guard
  runIpScript .linkUp (.linkSetUp ifname) guard

def assignIp6Script (welcome : Welcome) (ifname : String) (guard : NetGuard) :
    SetupScript NetGuard :=
  match welcome.assignedIp6 with
  | some ip6 => tryIpScript .addrAdd6 (.addrAdd ⟨.v6 ip6, max welcome.prefix6.toNat 1⟩ ifname) guard
  | none => .done guard

/-- `apply_route_rules` over the networks of the rules. -/
def ruleScript (ifname : String) (orig : Option (Gateway × String)) (serverIp : IpAddr) :
    List Ipv4Net → List (RouteRule × Ipv4Net) → NetGuard → SetupScript NetGuard
  | _, [], guard => .done guard
  | seen, (rule, net) :: rest, guard =>
    if PassedOver serverIp seen net then ruleScript ifname orig serverIp seen rest guard
    else
      match ruleHop ifname orig rule with
      | none => ruleScript ifname orig serverIp (net :: seen) rest guard
      | some hop =>
        .act (.command (.rule net) (.routeAdd (.ofNet net) hop)) fun ok : Bool ↦
          ruleScript ifname orig serverIp (net :: seen) rest
            (if ok then guard.record (.routeDel (.ofNet net) (some hop)) else guard)

def pinServerScript (orig : Option (Gateway × String)) (serverIp : IpAddr) (guard : NetGuard) :
    SetupScript NetGuard :=
  match orig with
  | some (gateway, dev) => do
    let guard ← tryIpScript .pin (.routeAdd ⟨serverIp, 32⟩ (.via gateway dev)) guard
    return guard.record (.routeDel ⟨serverIp, 32⟩ none)
  | none => .done guard

def captureScript (site : Site) (half : IpPrefix) (ifname : String) (guard : NetGuard) :
    SetupScript NetGuard := do
  let guard ← runIpScript site (.routeAdd half (.onLink ifname)) guard
  return guard.record (.routeDel half none)

def tryHalf6Script (site : Site) (half : IpPrefix) (hop : NextHop) (guard : NetGuard) :
    SetupScript NetGuard := do
  let guard ← tryIpScript site (.routeAdd half hop) guard
  return guard.record (.routeDel half none)

def pinServer6Script (serverIp : IpAddr) (guard : NetGuard) : SetupScript NetGuard :=
  match serverIp with
  | .v4 _ => .done guard
  | .v6 addr =>
    .act (.showDefault .showDefault6 true) fun
      | some (gateway, dev) => do
        let guard ← tryIpScript .pin6 (.routeAdd ⟨.v6 addr, 128⟩ (.via gateway dev)) guard
        return guard.record (.routeDel ⟨.v6 addr, 128⟩ none)
      | none => .done guard

def capture6Script (cfg : ClientConfig) (welcome : Welcome) (ifname : String) (serverIp : IpAddr)
    (guard : NetGuard) : SetupScript NetGuard :=
  if welcome.assignedIp6.isSome then do
    let guard ← pinServer6Script serverIp guard
    let guard ← tryHalf6Script .capture6Low lowHalf6 (.onLink ifname) guard
    tryHalf6Script .capture6High highHalf6 (.onLink ifname) guard
  else if cfg.ipv6Killswitch then do
    let guard ← tryHalf6Script .blockLow lowHalf6 .unreachable guard
    tryHalf6Script .blockHigh highHalf6 .unreachable guard
  else .done guard

def setDnsScript (welcome : Welcome) (guard : NetGuard) : SetupScript NetGuard :=
  if welcome.dns = [] ∧ welcome.dns6 = [] then .done guard
  else
    .act .readResolv fun previous : Option String ↦
      .act (.writeResolv (resolvBody welcome)) fun _ : Unit ↦
        .done { guard with resolvBackup := previous }

def captureAllScript (cfg : ClientConfig) (welcome : Welcome) (ifname : String) (serverIp : IpAddr)
    (guard : NetGuard) : SetupScript NetGuard := do
  let guard ← captureScript .captureLow lowHalf ifname guard
  let guard ← captureScript .captureHigh highHalf ifname guard
  let guard ← capture6Script cfg welcome ifname serverIp guard
  setDnsScript welcome guard

/-- What the mode adds to the rules. -/
def modeScript (cfg : ClientConfig) (welcome : Welcome) (ifname : String) (serverIp : IpAddr)
    (orig : Option (Gateway × String)) (guard : NetGuard) : SetupScript NetGuard :=
  match cfg.mode with
  | .globalProxy => do
    let guard ← pinServerScript orig serverIp guard
    match cfg.splitMode with
    | .whitelist => .done guard
    | .blacklist => captureAllScript cfg welcome ifname serverIp guard
  | .vpn | .httpProxy | .systemProxy => .done guard

/-- `apply`, one operation at a time. -/
def applyScript (resolver : Resolver) (cfg : ClientConfig) (welcome : Welcome) (ifname : String)
    (serverIp : IpAddr) : SetupScript NetGuard := do
  let guard ← bringUpScript welcome ifname ⟨[], none⟩
  let guard ← assignIp6Script welcome ifname guard
  .act (.showDefault .showDefault false) fun orig : Option (Gateway × String) ↦ do
    let guard ← ruleScript ifname orig serverIp [] (ruleTargets resolver cfg.routes) guard
    modeScript cfg welcome ifname serverIp orig guard

/-! ### Without interference -/

/-- A part of the script does, without interference, what a function does to the host and to the
guard. -/
def Follows (env : Environment) (part : NetGuard → SetupScript NetGuard)
    (function : Setup → Except Host Setup) : Prop :=
  ∀ setup : Setup, (part setup.guard).alone (perform env) setup.host =
    match function setup with
    | .ok final => (final.host, some final.guard)
    | .error left => (left, none)

namespace Follows

variable {env : Environment}

theorem done (env : Environment) : Follows env .done .ok := fun _ ↦ rfl

theorem bind {first second : NetGuard → SetupScript NetGuard}
    {function other : Setup → Except Host Setup} (hfirst : Follows env first function)
    (hsecond : Follows env second other) :
    Follows env (fun guard ↦ first guard >>= second) fun setup ↦ function setup >>= other := by
  intro setup
  rw [Script.alone_bind, hfirst setup]
  dsimp only
  cases function setup with
  | ok middle => exact hsecond middle
  | error left => rfl

theorem runIp (env : Environment) (site : Site) (command : IpCommand) :
    Follows env (runIpScript site command) (Client.runIp env site command) := by
  intro setup
  rw [runIpScript, Client.runIp, Script.alone, perform]
  cases issue env site command setup.host <;> rfl

theorem tryIp (env : Environment) (site : Site) (command : IpCommand) :
    Follows env (tryIpScript site command) fun setup ↦
      .ok (Client.tryIp env site command setup) := by
  intro setup
  rw [tryIpScript, Script.alone, perform]
  dsimp only [Client.tryIp]
  cases issue env site command setup.host <;> rfl

theorem record (env : Environment) (command : IpCommand) :
    Follows env (fun guard ↦ .done (guard.record command)) fun setup ↦ .ok (setup.record command) :=
  fun _ ↦ rfl

/-- A best-effort command whose undo is recorded in any case. -/
theorem tryIp_record (env : Environment) (site : Site) (command undo : IpCommand) :
    Follows env (fun guard ↦ tryIpScript site command guard >>= fun guard ↦
        pure (guard.record undo))
      fun setup ↦ .ok ((Client.tryIp env site command setup).record undo) :=
  (Follows.tryIp env site command).bind (Follows.record env undo)

theorem bringUp (env : Environment) (welcome : Welcome) (ifname : String) :
    Follows env (bringUpScript welcome ifname) (Client.bringUp env welcome ifname) :=
  (Follows.runIp _ _ _).bind ((Follows.runIp _ _ _).bind (Follows.runIp _ _ _))

theorem assignIp6 (env : Environment) (welcome : Welcome) (ifname : String) :
    Follows env (assignIp6Script welcome ifname) fun setup ↦
      .ok (Client.assignIp6 env welcome ifname setup) := by
  intro setup
  rw [assignIp6Script]
  dsimp only [Client.assignIp6]
  cases welcome.assignedIp6 with
  | none => rfl
  | some ip6 => exact Follows.tryIp env _ _ setup

/-- The loop over the networks of the rules, from any networks claimed so far. -/
theorem rules (env : Environment) (ifname : String) (orig : Option (Gateway × String))
    (serverIp : IpAddr) (seen : List Ipv4Net) (targets : List (RouteRule × Ipv4Net)) :
    Follows env (ruleScript ifname orig serverIp seen targets) fun setup ↦
      .ok (targets.foldl (fun state target ↦
        applyRoute env ifname orig serverIp target.1 state target.2) ⟨seen, setup⟩).setup := by
  induction targets generalizing seen with
  | nil => exact Follows.done env
  | cons target rest ih =>
    obtain ⟨rule, net⟩ := target
    intro setup
    rw [ruleScript]
    simp only [List.foldl_cons]
    by_cases hpassed : PassedOver serverIp seen net
    · rw [if_pos hpassed, applyRoute_of_passedOver ifname orig serverIp _ rule hpassed]
      exact ih seen setup
    obtain ⟨hserver, hseen⟩ := not_or.mp hpassed
    rw [if_neg hpassed, applyRoute, if_neg hserver, if_neg hseen]
    cases ruleHop ifname orig rule with
    | none => exact ih (net :: seen) setup
    | some hop =>
      dsimp only [Client.runIp]
      rw [Script.alone, perform]
      cases issue env (.rule net) (.routeAdd (.ofNet net) hop) setup.host with
      | none => exact ih (net :: seen) setup
      | some host =>
        exact ih (net :: seen)
          (({ setup with host := host } : Setup).record (.routeDel (.ofNet net) (some hop)))

theorem applyRouteRules (env : Environment) (cfg : ClientConfig) (ifname : String)
    (orig : Option (Gateway × String)) (serverIp : IpAddr) :
    Follows env (ruleScript ifname orig serverIp [] (ruleTargets env.resolver cfg.routes))
      fun setup ↦ .ok (Client.applyRouteRules env cfg ifname orig serverIp setup) := by
  have hloop := rules env ifname orig serverIp [] (ruleTargets env.resolver cfg.routes)
  simp only [ruleTargets, List.foldl_flatMap, List.foldl_map] at hloop
  exact hloop

theorem pinServer (env : Environment) (orig : Option (Gateway × String)) (serverIp : IpAddr) :
    Follows env (pinServerScript orig serverIp) fun setup ↦
      .ok (Client.pinServer env orig serverIp setup) := by
  cases orig with
  | none => exact Follows.done env
  | some hop => exact Follows.tryIp_record env _ _ _

theorem capture (env : Environment) (site : Site) (half : IpPrefix) (ifname : String) :
    Follows env (captureScript site half ifname) (Client.capture env site half ifname) := by
  intro setup
  refine ((Follows.runIp env site _).bind (Follows.record env (.routeDel half none)) setup).trans ?_
  dsimp only [Client.capture]
  cases Client.runIp env site (.routeAdd half (.onLink ifname)) setup <;> rfl

theorem tryHalf6 (env : Environment) (site : Site) (half : IpPrefix) (hop : NextHop) :
    Follows env (tryHalf6Script site half hop) fun setup ↦
      .ok (Client.tryHalf6 env site half hop setup) :=
  Follows.tryIp_record env _ _ _

theorem pinServer6 (env : Environment) (serverIp : IpAddr) :
    Follows env (pinServer6Script serverIp) fun setup ↦
      .ok (Client.pinServer6 env serverIp setup) := by
  cases serverIp with
  | v4 addr => exact Follows.done env
  | v6 addr =>
    intro setup
    rw [pinServer6Script, Script.alone, perform]
    dsimp only [Client.pinServer6, defaultRoute6]
    cases (if env.refuses .showDefault6 then none else firstDefault true setup.host) with
    | none => rfl
    | some hop => exact Follows.tryIp_record env _ _ _ setup

theorem capture6 (env : Environment) (cfg : ClientConfig) (welcome : Welcome) (ifname : String)
    (serverIp : IpAddr) :
    Follows env (capture6Script cfg welcome ifname serverIp) fun setup ↦
      .ok (Client.capture6 env cfg welcome ifname serverIp setup) := by
  intro setup
  rw [capture6Script]
  dsimp only [Client.capture6]
  by_cases hassigned : welcome.assignedIp6.isSome
  · rw [if_pos hassigned, if_pos hassigned]
    exact (Follows.pinServer6 env serverIp).bind
      ((Follows.tryHalf6 env _ _ _).bind (Follows.tryHalf6 env _ _ _)) setup
  rw [if_neg hassigned, if_neg hassigned]
  by_cases hblock : cfg.ipv6Killswitch
  · rw [if_pos hblock, if_pos hblock]
    exact (Follows.tryHalf6 env _ _ _).bind (Follows.tryHalf6 env _ _ _) setup
  · rw [if_neg hblock, if_neg hblock]
    rfl

theorem setDns (env : Environment) (welcome : Welcome) :
    Follows env (setDnsScript welcome) fun setup ↦ .ok (Client.setDns env welcome setup) := by
  intro setup
  rw [setDnsScript]
  dsimp only [Client.setDns]
  split_ifs <;> rfl

theorem captureAll (env : Environment) (cfg : ClientConfig) (welcome : Welcome) (ifname : String)
    (serverIp : IpAddr) :
    Follows env (captureAllScript cfg welcome ifname serverIp)
      (Client.captureAll env cfg welcome ifname serverIp) :=
  (Follows.capture env _ _ _).bind ((Follows.capture env _ _ _).bind
    ((Follows.capture6 env cfg welcome ifname serverIp).bind (Follows.setDns env welcome)))

theorem mode (env : Environment) (cfg : ClientConfig) (welcome : Welcome) (ifname : String)
    (serverIp : IpAddr) (orig : Option (Gateway × String)) :
    Follows env (modeScript cfg welcome ifname serverIp orig) fun setup ↦
      match cfg.mode with
      | .globalProxy =>
        match cfg.splitMode with
        | .whitelist => .ok (Client.pinServer env orig serverIp setup)
        | .blacklist =>
          Client.captureAll env cfg welcome ifname serverIp
            (Client.pinServer env orig serverIp setup)
      | .vpn | .httpProxy | .systemProxy => .ok setup := by
  intro setup
  rw [modeScript]
  cases cfg.mode with
  | globalProxy =>
    cases cfg.splitMode with
    | whitelist => exact (Follows.pinServer env orig serverIp).bind (Follows.done env) setup
    | blacklist =>
      exact (Follows.pinServer env orig serverIp).bind
        (Follows.captureAll env cfg welcome ifname serverIp) setup
  | vpn => rfl
  | httpProxy => rfl
  | systemProxy => rfl

end Follows

/-- Without interference the script of a session does what `apply` does. -/
theorem alone_applyScript (env : Environment) (cfg : ClientConfig) (welcome : Welcome)
    (ifname : String) (serverIp : IpAddr) (host : Host) :
    (applyScript env.resolver cfg welcome ifname serverIp).alone (perform env) host =
      match apply env cfg welcome ifname serverIp host with
      | .ok final => (final.host, some final.guard)
      | .error left => (left, none) := by
  have hroute : Follows env
      (fun guard ↦ assignIp6Script welcome ifname guard >>= fun guard ↦
        .act (.showDefault .showDefault false) fun orig : Option (Gateway × String) ↦
          ruleScript ifname orig serverIp [] (ruleTargets env.resolver cfg.routes) guard >>=
            modeScript cfg welcome ifname serverIp orig)
      (route env cfg welcome ifname serverIp) := by
    intro setup
    rw [Script.alone_bind, Follows.assignIp6 env welcome ifname setup]
    dsimp only
    rw [Script.alone, perform]
    exact (Follows.applyRouteRules env cfg ifname _ serverIp).bind
      (Follows.mode env cfg welcome ifname serverIp _) (Client.assignIp6 env welcome ifname setup)
  exact (Follows.bringUp env welcome ifname).bind hroute ⟨host, ⟨[], none⟩⟩

/-! ### Whatever else happens to the host -/

section Surroundings

variable {allowed due : Operation → Prop}
  {expected : (operation : Operation) → operation.Reply → Prop}

/-- The command of an addition. -/
def Addition.operation (addition : Addition) : Operation :=
  .command addition.site (.routeAdd addition.dst addition.hop)

/-- The operation of an addition installs what the addition adds to the table. -/
theorem perform_addition (env : Environment) (addition : Addition) (host : Host) :
    (perform env addition.operation host).1 =
      { host with routes := host.routes ++ added env host.routes [addition] } := by
  rw [Addition.operation, perform, issue_routeAdd, added_singleton]
  split_ifs
  · rfl
  · rw [List.append_nil]

/-- What setup does outside of the rules: no command removes a route or adds an IPv4 default route.
-/
def Operation.Plain : Operation → Prop
  | .command (.rule _) _ => False
  | .command _ (.routeAdd dst _) => dst.word ≠ [false]
  | .command _ (.routeDel _ _) => False
  | _ => True

/-- A plain operation adds routes at most, and no IPv4 default route. -/
theorem perform_plain {operation : Operation} (hplain : operation.Plain) (env : Environment)
    (host : Host) : ∃ more, (perform env operation host).1.routes = host.routes ++ more ∧
      ∀ route ∈ more, route.dst ≠ [false] := by
  have hsame : ∃ more, host.routes = host.routes ++ more ∧ ∀ route ∈ more, route.dst ≠ [false] :=
    ⟨[], (List.append_nil _).symm, fun _ hroute ↦ absurd hroute List.not_mem_nil⟩
  cases operation with
  | showDefault | readResolv | writeResolv => exact hsame
  | command site command =>
    cases command with
    | routeDel dst hop => cases site <;> exact hplain.elim
    | routeAdd dst hop =>
      have hword : dst.word ≠ [false] := by
        cases site with
        | rule net => exact hplain.elim
        | _ => exact hplain
      have hperform := perform_addition env ⟨site, dst, hop⟩ host
      rw [Addition.operation] at hperform
      rw [hperform]
      refine ⟨_, rfl, fun route hroute ↦ ?_⟩
      obtain ⟨addition, haddition, -, rfl⟩ := exists_of_mem_added hroute
      rw [List.mem_singleton] at haddition
      rw [haddition]
      exact hword
    | linkSetMtu | linkSetUp =>
      rw [perform, issue]
      split_ifs <;> exact hsame
    | addrAdd net dev =>
      rw [perform, issue, IpCommand.exec]
      split_ifs
      · exact hsame
      · exact ⟨_, rfl, fun _ hroute ↦ connectedRoute_not_default hroute⟩
      · exact hsame

theorem runIpScript_within {site : Site} {command : IpCommand}
    (hallowed : allowed (.command site command)) (guard : NetGuard) :
    (runIpScript site command guard).Within allowed expected :=
  ⟨hallowed, fun ok _ ↦ by cases ok <;> trivial⟩

theorem tryIpScript_within {site : Site} {command : IpCommand}
    (hallowed : allowed (.command site command)) (guard : NetGuard) :
    (tryIpScript site command guard).Within allowed expected :=
  ⟨hallowed, fun _ _ ↦ trivial⟩

/-- The loop over the rules performs the additions of its plan only. -/
theorem ruleScript_within {ifname : String} {orig : Option (Gateway × String)} {serverIp : IpAddr}
    {seen : List Ipv4Net} {targets : List (RouteRule × Ipv4Net)}
    (hallowed : ∀ addition ∈ rulePlan ifname orig serverIp seen targets, allowed addition.operation)
    (guard : NetGuard) :
    (ruleScript ifname orig serverIp seen targets guard).Within allowed expected := by
  induction targets generalizing seen guard with
  | nil => trivial
  | cons target rest ih =>
    obtain ⟨rule, net⟩ := target
    rw [rulePlan] at hallowed
    rw [ruleScript]
    by_cases hpassed : PassedOver serverIp seen net
    · rw [if_pos hpassed]
      refine ih (fun addition haddition ↦ hallowed addition (List.mem_append_right _ ?_)) guard
      rwa [if_pos hpassed]
    rw [if_neg hpassed]
    have hrest : ∀ addition ∈ rulePlan ifname orig serverIp (net :: seen) rest,
        allowed addition.operation := fun addition haddition ↦ by
      refine hallowed addition (List.mem_append_right _ ?_)
      rwa [if_neg hpassed]
    cases hhop : ruleHop ifname orig rule with
    | none => exact ih hrest guard
    | some hop =>
      have hclaim : ruleAddition net hop ∈ claim ifname orig serverIp seen rule net :=
        (mem_claim_iff ..).mpr ⟨hpassed, hop, hhop, rfl⟩
      exact ⟨hallowed _ (List.mem_append_left _ hclaim), fun ok _ ↦ ih hrest _⟩

/-- The loop over the rules owes every addition of its plan. -/
theorem ruleScript_owes {ifname : String} {orig : Option (Gateway × String)} {serverIp : IpAddr}
    {seen : List Ipv4Net} {targets : List (RouteRule × Ipv4Net)} {addition : Addition}
    (haddition : addition ∈ rulePlan ifname orig serverIp seen targets) (guard : NetGuard) :
    (ruleScript ifname orig serverIp seen targets guard).Owes (· = addition.operation) := by
  induction targets generalizing seen guard with
  | nil => exact absurd haddition List.not_mem_nil
  | cons target rest ih =>
    obtain ⟨rule, net⟩ := target
    rw [rulePlan, List.mem_append, mem_claim_iff] at haddition
    rw [ruleScript]
    by_cases hpassed : PassedOver serverIp seen net
    · rw [if_pos hpassed] at haddition ⊢
      exact ih (haddition.resolve_left fun h ↦ h.1 hpassed) guard
    rw [if_neg hpassed] at haddition ⊢
    cases hhop : ruleHop ifname orig rule with
    | none =>
      refine ih (haddition.resolve_left ?_) guard
      rintro ⟨-, hop, hsome, -⟩
      cases hhop.symm.trans hsome
    | some hop =>
      rcases haddition with ⟨-, other, hother, rfl⟩ | hrest
      · obtain rfl := Option.some.inj (hhop.symm.trans hother)
        exact Or.inl rfl
      · exact Or.inr fun ok ↦ ih hrest _

theorem tryHalf6Script_within {site : Site} {half : IpPrefix} {hop : NextHop}
    (hallowed : allowed (.command site (.routeAdd half hop))) (guard : NetGuard) :
    (tryHalf6Script site half hop guard).Within allowed expected :=
  (tryIpScript_within hallowed guard).bind fun _ ↦ trivial

theorem captureScript_within {site : Site} {half : IpPrefix} {ifname : String}
    (hallowed : allowed (.command site (.routeAdd half (.onLink ifname)))) (guard : NetGuard) :
    (captureScript site half ifname guard).Within allowed expected :=
  (runIpScript_within hallowed guard).bind fun _ ↦ trivial

/-- A prefix that spells at least one bit is not the default. -/
theorem word_ne_default {dst : IpPrefix} (hlen : 0 < dst.len) (family : Bool) :
    dst.word ≠ [family] := by
  intro hdefault
  have hlength := congrArg List.length hdefault
  have hwidth : 32 ≤ dst.addr.width := by cases dst.addr <;> simp [IpAddr.width]
  rw [IpPrefix.word, List.length_take, IpAddr.length_word, List.length_singleton] at hlength
  omega

theorem plain_routeAdd {site : Site} {dst : IpPrefix} {hop : NextHop}
    (hsite : ∀ net, site ≠ .rule net) (hlen : 0 < dst.len) :
    (Operation.command site (.routeAdd dst hop)).Plain := by
  cases site with
  | rule net => exact absurd rfl (hsite net)
  | _ => exact word_ne_default hlen false

theorem capture6Script_within
    (hplain : ∀ operation : Operation, operation.Plain → allowed operation)
    (cfg : ClientConfig) (welcome : Welcome) (ifname : String) (serverIp : IpAddr)
    (guard : NetGuard) :
    (capture6Script cfg welcome ifname serverIp guard).Within allowed expected := by
  rw [capture6Script]
  split_ifs
  · refine Script.Within.bind ?_ fun guard ↦ Script.Within.bind
      (tryHalf6Script_within (hplain _ (plain_routeAdd (by simp) (by decide))) guard) fun guard ↦
        tryHalf6Script_within (hplain _ (plain_routeAdd (by simp) (by decide))) guard
    cases serverIp with
    | v4 addr => trivial
    | v6 addr =>
      refine ⟨hplain _ trivial, fun reply _ ↦ ?_⟩
      cases reply with
      | none => trivial
      | some hop =>
        exact Script.Within.bind
          (tryIpScript_within (hplain _ (plain_routeAdd (by simp) (by simp))) guard) fun _ ↦ trivial
  · exact Script.Within.bind
      (tryHalf6Script_within (hplain _ (plain_routeAdd (by simp) (by decide))) guard) fun guard ↦
        tryHalf6Script_within (hplain _ (plain_routeAdd (by simp) (by decide))) guard
  · trivial

theorem setDnsScript_within (hplain : ∀ operation : Operation, operation.Plain → allowed operation)
    (welcome : Welcome) (guard : NetGuard) :
    (setDnsScript welcome guard).Within allowed expected := by
  rw [setDnsScript]
  split_ifs
  · trivial
  · exact ⟨hplain _ trivial, fun _ _ ↦ ⟨hplain _ trivial, fun _ _ ↦ trivial⟩⟩

theorem captureAllScript_within
    (hplain : ∀ operation : Operation, operation.Plain → allowed operation)
    (cfg : ClientConfig) (welcome : Welcome) (ifname : String) (serverIp : IpAddr)
    (guard : NetGuard) :
    (captureAllScript cfg welcome ifname serverIp guard).Within allowed expected := by
  refine Script.Within.bind
    (captureScript_within (hplain _ (plain_routeAdd (by simp) (by decide))) guard) fun guard ↦ ?_
  refine Script.Within.bind
    (captureScript_within (hplain _ (plain_routeAdd (by simp) (by decide))) guard) fun guard ↦ ?_
  exact Script.Within.bind (capture6Script_within hplain cfg welcome ifname serverIp guard)
    fun guard ↦ setDnsScript_within hplain welcome guard

theorem modeScript_within (hplain : ∀ operation : Operation, operation.Plain → allowed operation)
    (cfg : ClientConfig) (welcome : Welcome) (ifname : String) (serverIp : IpAddr)
    (orig : Option (Gateway × String)) (guard : NetGuard) :
    (modeScript cfg welcome ifname serverIp orig guard).Within allowed expected := by
  rw [modeScript]
  cases cfg.mode with
  | globalProxy =>
    refine Script.Within.bind ?_ fun guard ↦ ?_
    · cases orig with
      | none => trivial
      | some hop =>
        exact Script.Within.bind
          (tryIpScript_within (hplain _ (plain_routeAdd (by simp) (by simp))) guard) fun _ ↦ trivial
    · cases cfg.splitMode with
      | whitelist => trivial
      | blacklist => exact captureAllScript_within hplain cfg welcome ifname serverIp guard
  | vpn => trivial
  | httpProxy => trivial
  | systemProxy => trivial

/-- Setup performs plain operations and the additions of the rules. -/
theorem applyScript_within (hplain : ∀ operation : Operation, operation.Plain → allowed operation)
    {resolver : Resolver} {cfg : ClientConfig} {ifname : String} {serverIp : IpAddr}
    (hrules : ∀ orig, expected (.showDefault .showDefault false) orig →
      ∀ addition ∈ rulePlan ifname orig serverIp [] (ruleTargets resolver cfg.routes),
        allowed addition.operation)
    (welcome : Welcome) :
    (applyScript resolver cfg welcome ifname serverIp).Within allowed expected := by
  refine Script.Within.bind ?_ fun guard ↦ Script.Within.bind ?_ fun guard ↦ ?_
  · exact Script.Within.bind (runIpScript_within (hplain _ (by trivial)) _) fun guard ↦
      Script.Within.bind (runIpScript_within (hplain _ (by trivial)) guard) fun guard ↦
        runIpScript_within (hplain _ (by trivial)) guard
  · rw [assignIp6Script]
    cases welcome.assignedIp6 with
    | none => trivial
    | some ip6 => exact tryIpScript_within (hplain _ (by trivial)) guard
  · refine ⟨hplain _ trivial, fun orig horig ↦ ?_⟩
    exact (ruleScript_within (hrules orig horig) guard).bind fun guard ↦
      modeScript_within hplain cfg welcome ifname serverIp orig guard

/-- Setup owes the additions that the rules plan whatever the default route is. -/
theorem applyScript_owes {resolver : Resolver} {cfg : ClientConfig} {ifname : String}
    {serverIp : IpAddr} {addition : Addition}
    (haddition : ∀ orig,
      addition ∈ rulePlan ifname orig serverIp [] (ruleTargets resolver cfg.routes))
    (welcome : Welcome) :
    (applyScript resolver cfg welcome ifname serverIp).Owes (· = addition.operation) := by
  refine Script.Owes.bind_right fun guard ↦ Script.Owes.bind_right fun guard ↦ Or.inr fun orig ↦ ?_
  exact (ruleScript_owes (haddition orig) guard).bind_left

end Surroundings

end EntroTunnel.Client
