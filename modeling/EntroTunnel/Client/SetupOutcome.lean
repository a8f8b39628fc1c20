import EntroTunnel.Client.SetupPlan

/-!
# The outcomes of network setup

`plan` lists all route additions that `apply` attempts, from its inputs alone: the rules and the pin
of the server's address (`frontPlan`), then the capture routes and the IPv6 routes (`backPlan`).
`apply_ok` describes the host and the guard after a successful `apply` by this plan, `apply_error`
the host that a failed one leaves, and `bringsUp_of_ok` with `apply_error` tells which of the two
early returns was taken. `mem_added_plan` reads the added routes off the plan: after a success they
are the planned additions whose command is possible and whose prefix was not there before, in no
particular order.
-/

set_option autoImplicit false
set_option relaxedAutoImplicit false

namespace EntroTunnel.Client

open EntroTunnel.Core EntroTunnel.Foundation

/-! ### The plan of a mode -/

/-- The pin of the server's address. -/
def pinPlan (orig : Option (Gateway × String)) (serverIp : IpAddr) : List Addition :=
  match orig with
  | some (gateway, dev) => [⟨.pin, ⟨serverIp, 32⟩, .via gateway dev⟩]
  | none => []

/-- The two checked capture routes. -/
def capturePlan (ifname : String) : List Addition :=
  [⟨.captureLow, lowHalf, .onLink ifname⟩, ⟨.captureHigh, highHalf, .onLink ifname⟩]

/-- The pin of an IPv6 server. -/
def pin6Plan (orig6 : Option (Gateway × String)) (serverIp : IpAddr) : List Addition :=
  match serverIp, orig6 with
  | .v6 addr, some (gateway, dev) => [⟨.pin6, ⟨.v6 addr, 128⟩, .via gateway dev⟩]
  | _, _ => []

/-- The IPv6 additions: capture with a server that offers IPv6, else the kill-switch if it is on. -/
def plan6 (cfg : ClientConfig) (welcome : Welcome) (ifname : String)
    (orig6 : Option (Gateway × String)) (serverIp : IpAddr) : List Addition :=
  if welcome.assignedIp6.isSome then
    pin6Plan orig6 serverIp ++
      [⟨.capture6Low, lowHalf6, .onLink ifname⟩, ⟨.capture6High, highHalf6, .onLink ifname⟩]
  else if cfg.ipv6Killswitch then
    [⟨.blockLow, lowHalf6, .unreachable⟩, ⟨.blockHigh, highHalf6, .unreachable⟩]
  else []

/-- The deletion recorded for an addition of the mode, which names no next hop. -/
def Addition.removal (addition : Addition) : Route → Bool :=
  removes addition.dst none

theorem pinServer_reaches (env : Environment) (orig : Option (Gateway × String))
    (serverIp : IpAddr) (setup : Setup) :
    Reaches env (pinPlan orig serverIp) ((pinPlan orig serverIp).map Addition.removal) setup
      (pinServer env orig serverIp setup) := by
  cases orig with
  | none => exact Reaches.refl env setup
  | some physical =>
    obtain ⟨gateway, dev⟩ := physical
    exact (Reaches.tryIp env setup ⟨.pin, ⟨serverIp, 32⟩, .via gateway dev⟩).trans
      (Reaches.record env _ _ none)

theorem tryHalf6_reaches (env : Environment) (addition : Addition) (setup : Setup) :
    Reaches env [addition] [addition.removal] setup
      (tryHalf6 env addition.site addition.dst addition.hop setup) :=
  (Reaches.tryIp env setup addition).trans (Reaches.record env _ addition.dst none)

theorem pinServer6_reaches (env : Environment) (serverIp : IpAddr) (setup : Setup) :
    Reaches env (pin6Plan (defaultRoute6 env setup.host) serverIp)
      ((pin6Plan (defaultRoute6 env setup.host) serverIp).map Addition.removal) setup
      (pinServer6 env serverIp setup) := by
  cases serverIp with
  | v4 addr => exact Reaches.refl env setup
  | v6 addr =>
    rw [pinServer6]
    cases defaultRoute6 env setup.host with
    | none => exact Reaches.refl env setup
    | some physical =>
      obtain ⟨gateway, dev⟩ := physical
      exact (Reaches.tryIp env setup ⟨.pin6, ⟨.v6 addr, 128⟩, .via gateway dev⟩).trans
        (Reaches.record env _ _ none)

theorem capture6_reaches (env : Environment) (cfg : ClientConfig) (welcome : Welcome)
    (ifname : String) (serverIp : IpAddr) (setup : Setup) :
    Reaches env (plan6 cfg welcome ifname (defaultRoute6 env setup.host) serverIp)
      ((plan6 cfg welcome ifname (defaultRoute6 env setup.host) serverIp).map Addition.removal)
      setup (capture6 env cfg welcome ifname serverIp setup) := by
  rw [capture6, plan6]
  split_ifs
  · rw [List.map_append]
    exact (pinServer6_reaches env serverIp setup).trans
      ((tryHalf6_reaches env ⟨.capture6Low, lowHalf6, .onLink ifname⟩ _).trans
        (tryHalf6_reaches env ⟨.capture6High, highHalf6, .onLink ifname⟩ _))
  · exact (tryHalf6_reaches env ⟨.blockLow, lowHalf6, .unreachable⟩ setup).trans
      (tryHalf6_reaches env ⟨.blockHigh, highHalf6, .unreachable⟩ _)
  · exact Reaches.refl env setup

/-- A capture route is in effect once its checked command has succeeded. -/
theorem capture_ok {env : Environment} {setup final : Setup} (addition : Addition) {ifname : String}
    (hhop : addition.hop = .onLink ifname)
    (hrun : capture env addition.site addition.dst ifname setup = .ok final) :
    addition.TakesEffect env setup.host.routes ∧
      Reaches env [addition] [addition.removal] setup final := by
  rw [capture, ← hhop] at hrun
  cases hadd : runIp env addition.site (.routeAdd addition.dst addition.hop) setup with
  | error left =>
    rw [hadd] at hrun
    exact absurd hrun nofun
  | ok middle =>
    rw [hadd] at hrun
    obtain ⟨heffect, hreaches⟩ := runIp_routeAdd_ok addition hadd
    refine ⟨heffect, ?_⟩
    rw [← Except.ok.inj hrun]
    exact hreaches.trans (Reaches.record env middle addition.dst none)

/-- A capture whose checked command fails leaves the host as it is. -/
theorem capture_error {env : Environment} {setup : Setup} {left : Host} (addition : Addition)
    {ifname : String} (hhop : addition.hop = .onLink ifname)
    (hrun : capture env addition.site addition.dst ifname setup = .error left) :
    left = setup.host := by
  rw [capture, ← hhop] at hrun
  cases hadd : runIp env addition.site (.routeAdd addition.dst addition.hop) setup with
  | error other =>
    rw [hadd] at hrun
    rw [← Except.error.inj hrun]
    exact (runIp_routeAdd_error addition hadd).2
  | ok middle =>
    rw [hadd] at hrun
    exact absurd hrun nofun

/-! ### Bring-up -/

/-- The connected routes that the addresses of the TUN bring along. -/
def connected (env : Environment) (welcome : Welcome) (ifname : String) : List Route :=
  (connectedRoute ⟨.v4 welcome.assignedIp, welcome.prefixLen.toNat⟩ ifname).toList ++
    match welcome.assignedIp6 with
    | some ip6 =>
      if env.refuses .addrAdd6 = false ∧ max welcome.prefix6.toNat 1 ≤ 128 then
        (connectedRoute ⟨.v6 ip6, max welcome.prefix6.toNat 1⟩ ifname).toList
      else []
    | none => []

/-- The table once the TUN has its addresses. -/
def baseRoutes (env : Environment) (welcome : Welcome) (ifname : String) (host : Host) :
    List Route :=
  host.routes ++ connected env welcome ifname

/-- No bring-up command fails. -/
def BringsUp (env : Environment) (welcome : Welcome) : Prop :=
  env.refuses .addrAdd = false ∧ welcome.prefixLen.toNat ≤ 32 ∧ env.refuses .linkMtu = false ∧
    env.refuses .linkUp = false

instance (env : Environment) (welcome : Welcome) : Decidable (BringsUp env welcome) :=
  inferInstanceAs (Decidable (_ ∧ _ ∧ _ ∧ _))

theorem connected_boundTo {env : Environment} {welcome : Welcome} {ifname : String} {route : Route}
    (hroute : route ∈ connected env welcome ifname) : route.BoundTo ifname := by
  rw [connected, List.mem_append] at hroute
  rcases hroute with h | h
  · exact connectedRoute_boundTo h
  · cases hip : welcome.assignedIp6 with
    | none => simp [hip] at h
    | some ip6 =>
      simp only [hip] at h
      split_ifs at h
      · exact connectedRoute_boundTo h
      · exact absurd h List.not_mem_nil

/-- The connected route of the assigned IPv4 address, after a successful `ip addr add`. -/
def addressed (welcome : Welcome) (ifname : String) (setup : Setup) : Setup :=
  { setup with
    host :=
      { setup.host with
        routes := setup.host.routes ++
          (connectedRoute ⟨.v4 welcome.assignedIp, welcome.prefixLen.toNat⟩ ifname).toList } }

/-- Bring-up succeeds exactly when none of its commands fails; a failure may leave the connected
route of the address behind. -/
theorem bringUp_eq (env : Environment) (welcome : Welcome) (ifname : String) (setup : Setup) :
    bringUp env welcome ifname setup =
      if BringsUp env welcome then .ok (addressed welcome ifname setup)
      else if env.refuses .addrAdd = false ∧ welcome.prefixLen.toNat ≤ 32 then
        .error (addressed welcome ifname setup).host
      else .error setup.host := by
  have hadd : runIp env .addrAdd
      (.addrAdd ⟨.v4 welcome.assignedIp, welcome.prefixLen.toNat⟩ ifname) setup =
        if env.refuses .addrAdd = false ∧ welcome.prefixLen.toNat ≤ 32 then
          .ok (addressed welcome ifname setup) else .error setup.host := by
    rw [runIp, issue, IpCommand.exec, IpAddr.width]
    cases env.refuses .addrAdd <;> by_cases hlen : welcome.prefixLen.toNat ≤ 32 <;>
      simp [hlen, addressed]
  have hlink : ∀ (site : Site) (command : IpCommand) (state : Setup),
      command.exec state.host = some state.host →
        runIp env site command state =
          if env.refuses site = false then .ok state else .error state.host := by
    intro site command state hexec
    rw [runIp, issue, hexec]
    cases env.refuses site <;> rfl
  have hmtu := hlink .linkMtu (.linkSetMtu ifname welcome.mtu) (addressed welcome ifname setup) rfl
  have hup := hlink .linkUp (.linkSetUp ifname) (addressed welcome ifname setup) rfl
  rw [bringUp, hadd]
  by_cases haddr : env.refuses .addrAdd = false ∧ welcome.prefixLen.toNat ≤ 32
  · rw [if_pos haddr, if_pos haddr]
    change (runIp env .linkMtu _ (addressed welcome ifname setup) >>= fun setup ↦
      runIp env .linkUp _ setup) = _
    rw [hmtu]
    cases hmtuRefused : env.refuses .linkMtu with
    | true => rw [if_neg (by simp), if_neg fun h ↦ by simp [h.2.2.1] at hmtuRefused]; rfl
    | false =>
      rw [if_pos rfl]
      change runIp env .linkUp _ (addressed welcome ifname setup) = _
      rw [hup]
      cases hupRefused : env.refuses .linkUp with
      | true => rw [if_neg (by simp), if_neg fun h ↦ by simp [h.2.2.2] at hupRefused]
      | false => rw [if_pos rfl, if_pos ⟨haddr.1, haddr.2, hmtuRefused, hupRefused⟩]
  · rw [if_neg haddr, if_neg haddr, if_neg fun h : BringsUp env welcome ↦ haddr ⟨h.1, h.2.1⟩]
    rfl

theorem assignIp6_addressed (env : Environment) (welcome : Welcome) (ifname : String)
    (setup : Setup) :
    assignIp6 env welcome ifname (addressed welcome ifname setup) =
      { setup with host := { setup.host with
        routes := baseRoutes env welcome ifname setup.host } } := by
  rw [assignIp6, baseRoutes, connected]
  cases welcome.assignedIp6 with
  | none => simp [addressed]
  | some ip6 =>
    dsimp only
    rw [tryIp, issue, IpCommand.exec, IpAddr.width]
    cases hrefused : env.refuses .addrAdd6 with
    | true => simp [addressed]
    | false =>
      by_cases hlen : max welcome.prefix6.toNat 1 ≤ 128
      · rw [if_neg Bool.false_ne_true, if_pos hlen, if_pos ⟨rfl, hlen⟩]
        simp [addressed]
      · rw [if_neg Bool.false_ne_true, if_neg hlen, if_neg fun h ↦ hlen h.2]
        simp [addressed]

/-! ### The default routes that setup sees -/

/-- Routes added behind leave the default route of a family as it is, unless they are one. -/
theorem firstDefault_append {family : Bool} {host : Host} {more : List Route}
    (hmore : ∀ route ∈ more, route.dst ≠ [family]) :
    firstDefault family { host with routes := host.routes ++ more } = firstDefault family host := by
  have hnone : more.find? (fun route ↦ route.dst = [family]) = none :=
    List.find?_eq_none.mpr fun route hroute ↦ by simpa using hmore route hroute
  rw [firstDefault, firstDefault, List.find?_append, hnone, Option.or_none]

/-- No connected route is a default route. -/
theorem connected_dst_ne {env : Environment} {welcome : Welcome} {ifname : String} {route : Route}
    (hroute : route ∈ connected env welcome ifname) (family : Bool) : route.dst ≠ [family] := by
  rw [connected, List.mem_append] at hroute
  rcases hroute with h | h
  · cases family with
    | false => exact connectedRoute_not_default h
    | true =>
      rw [connectedRoute_dst h, IpPrefix.word, IpAddr.word, List.take_succ_cons]
      exact fun hdefault ↦ Bool.noConfusion (List.cons.inj hdefault).1
  · cases hip : welcome.assignedIp6 with
    | none => simp [hip] at h
    | some ip6 =>
      simp only [hip] at h
      split_ifs at h with hlen
      · rw [connectedRoute_dst h]
        intro hdefault
        have hlength := congrArg List.length hdefault
        rw [IpPrefix.length_word (by simpa [IpAddr.width] using hlen.2)] at hlength
        simp at hlength
      · exact absurd h List.not_mem_nil

/-! ### The whole plan -/

/-- The mode and the split mode under which all traffic is captured. -/
def CapturesAll (cfg : ClientConfig) : Prop :=
  cfg.mode = .globalProxy ∧ cfg.splitMode = .blacklist

instance (cfg : ClientConfig) : Decidable (CapturesAll cfg) :=
  inferInstanceAs (Decidable (_ ∧ _))

section Plan

variable (env : Environment) (cfg : ClientConfig) (welcome : Welcome) (ifname : String)
  (serverIp : IpAddr) (host : Host)

/-- The additions of the split-tunnel rules. -/
def rulesPlan : List Addition :=
  rulePlan ifname (defaultRoute env host) serverIp [] (ruleTargets env.resolver cfg.routes)

/-- The pin, in the mode that has one. -/
def modePin : List Addition :=
  if cfg.mode = .globalProxy then pinPlan (defaultRoute env host) serverIp else []

/-- What is attempted before the checked captures. -/
def frontPlan : List Addition :=
  rulesPlan env cfg ifname serverIp host ++ modePin env cfg serverIp host

/-- The captures and what follows them. -/
def backPlan : List Addition :=
  if CapturesAll cfg then
    capturePlan ifname ++ plan6 cfg welcome ifname (defaultRoute6 env host) serverIp
  else []

/-- All additions that `apply` attempts, in order. -/
def plan : List Addition :=
  frontPlan env cfg ifname serverIp host ++ backPlan env cfg welcome ifname serverIp host

/-- What the undo commands of the guard remove, in order: the rule routes that took effect, then the
prefixes of the mode, whether or not their additions took effect. -/
def undoPlan : List (Route → Bool) :=
  (added env (baseRoutes env welcome ifname host)
      (rulesPlan env cfg ifname serverIp host)).map Route.removal ++
    (modePin env cfg serverIp host ++
      backPlan env cfg welcome ifname serverIp host).map Addition.removal

/-- `resolv.conf` and its backup after a successful setup. -/
def dnsOutcome : Option ByteArray × Option String :=
  if CapturesAll cfg ∧ ¬ (welcome.dns = [] ∧ welcome.dns6 = []) then
    (writeInPlace env.resolvWrite (resolvBody welcome) host.resolv,
      readToString env.resolvReadable host.resolv)
  else (host.resolv, none)

/-- The host and the guard after a successful `apply`. -/
structure Configured (final : Setup) : Prop where
  routes : final.host.routes = baseRoutes env welcome ifname host ++
    added env (baseRoutes env welcome ifname host) (plan env cfg welcome ifname serverIp host)
  undoes : Undoes final.guard (undoPlan env cfg welcome ifname serverIp host)
  dns : (final.host.resolv, final.guard.resolvBackup) = dnsOutcome env cfg welcome host
  captured : CapturesAll cfg → ∀ addition ∈ capturePlan ifname,
    addition.Possible env ∧ addition.dst.word ∉
      (baseRoutes env welcome ifname host ++ added env (baseRoutes env welcome ifname host)
        (frontPlan env cfg ifname serverIp host)).map Route.dst

/-! ### Success and failure -/

variable {env cfg welcome ifname serverIp host}

/-- No addition before the captures is an IPv6 default route. -/
theorem frontPlan_dst_ne {addition : Addition}
    (haddition : addition ∈ frontPlan env cfg ifname serverIp host) :
    addition.dst.word ≠ [true] := by
  rw [frontPlan, List.mem_append] at haddition
  rcases haddition with hrule | hpin
  · obtain ⟨net, rule, hop, -, -, -, rfl⟩ := (mem_rulePlan_iff ..).mp hrule
    rw [ruleAddition, IpPrefix.word_ofNet]
    exact fun h ↦ Bool.false_ne_true (List.cons.inj h).1
  · rw [modePin] at hpin
    split_ifs at hpin
    · cases horig : defaultRoute env host with
      | none => simp [horig, pinPlan] at hpin
      | some physical =>
        obtain ⟨gateway, dev⟩ := physical
        rw [horig, pinPlan, List.mem_singleton] at hpin
        subst hpin
        intro hdefault
        have hlength := congrArg List.length hdefault
        rw [IpPrefix.length_word (by cases serverIp <;> simp [IpAddr.width])] at hlength
        simp at hlength
    · exact absurd hpin List.not_mem_nil

/-- The blacklist branch, when both checked captures succeed. -/
theorem captureAll_ok {setup final : Setup}
    (hrun : captureAll env cfg welcome ifname serverIp setup = .ok final) :
    (∀ addition ∈ capturePlan ifname,
      addition.Possible env ∧ addition.dst.word ∉ setup.host.routes.map Route.dst) ∧
    ∃ middle, final = setDns env welcome middle ∧
      Reaches env
        (capturePlan ifname ++ plan6 cfg welcome ifname (defaultRoute6 env setup.host) serverIp)
        ((capturePlan ifname ++
          plan6 cfg welcome ifname (defaultRoute6 env setup.host) serverIp).map Addition.removal)
        setup middle := by
  rw [captureAll] at hrun
  cases hlow : capture env .captureLow lowHalf ifname setup with
  | error left =>
    rw [hlow] at hrun
    exact absurd hrun nofun
  | ok first =>
    rw [hlow] at hrun
    change (capture env .captureHigh highHalf ifname first >>= _) = _ at hrun
    cases hhigh : capture env .captureHigh highHalf ifname first with
    | error left =>
      rw [hhigh] at hrun
      exact absurd hrun nofun
    | ok second =>
      rw [hhigh] at hrun
      obtain ⟨hlowEffect, hfirst⟩ :=
        capture_ok ⟨.captureLow, lowHalf, .onLink ifname⟩ rfl hlow
      obtain ⟨hhighEffect, hsecond⟩ :=
        capture_ok ⟨.captureHigh, highHalf, .onLink ifname⟩ rfl hhigh
      have hboth := hfirst.trans hsecond
      have hroute6 : defaultRoute6 env second.host = defaultRoute6 env setup.host := by
        rw [defaultRoute6, defaultRoute6, hboth.host]
        split_ifs
        · rfl
        · refine firstDefault_append fun route hroute ↦ ?_
          obtain ⟨addition, haddition, -, rfl⟩ := exists_of_mem_added hroute
          rcases List.mem_pair.mp haddition with rfl | rfl <;> simp [Addition.route]
      have hrest := capture6_reaches env cfg welcome ifname serverIp second
      rw [hroute6] at hrest
      refine ⟨?_, _, (Except.ok.inj hrun).symm, ?_⟩
      · intro addition haddition
        rcases List.mem_pair.mp haddition with rfl | rfl
        · exact hlowEffect
        · refine ⟨hhighEffect.1, fun hkey ↦ hhighEffect.2 ?_⟩
          rw [hfirst.routes, List.map_append]
          exact List.mem_append_left _ hkey
      · rw [List.map_append]
        exact hboth.trans hrest

/-- The blacklist branch, when a checked capture fails: at most the first capture is left. -/
theorem captureAll_error {setup : Setup} {left : Host}
    (hrun : captureAll env cfg welcome ifname serverIp setup = .error left) :
    ∃ more : List Route, (∀ route ∈ more, route.BoundTo ifname) ∧
      left = { setup.host with routes := setup.host.routes ++ more } := by
  rw [captureAll] at hrun
  cases hlow : capture env .captureLow lowHalf ifname setup with
  | error other =>
    rw [hlow] at hrun
    refine ⟨[], fun _ h ↦ absurd h List.not_mem_nil, ?_⟩
    rw [List.append_nil, ← Except.error.inj hrun]
    exact capture_error ⟨.captureLow, lowHalf, .onLink ifname⟩ rfl hlow
  | ok first =>
    rw [hlow] at hrun
    change (capture env .captureHigh highHalf ifname first >>= _) = _ at hrun
    cases hhigh : capture env .captureHigh highHalf ifname first with
    | error other =>
      rw [hhigh] at hrun
      obtain ⟨-, hfirst⟩ := capture_ok ⟨.captureLow, lowHalf, .onLink ifname⟩ rfl hlow
      refine ⟨added env setup.host.routes [⟨.captureLow, lowHalf, .onLink ifname⟩],
        fun route hroute ↦ ?_, ?_⟩
      · obtain ⟨addition, haddition, -, rfl⟩ := exists_of_mem_added hroute
        rw [List.mem_singleton.mp haddition]
        rfl
      · rw [← Except.error.inj hrun,
          capture_error ⟨.captureHigh, highHalf, .onLink ifname⟩ rfl hhigh]
        exact hfirst.host
    | ok second =>
      rw [hhigh] at hrun
      exact absurd hrun nofun

/-- The state before the checked captures, from the state in which the TUN has its addresses. -/
def fronted (env : Environment) (cfg : ClientConfig) (ifname : String) (serverIp : IpAddr)
    (setup : Setup) : Setup :=
  let orig := defaultRoute env setup.host
  let ruled := applyRouteRules env cfg ifname orig serverIp setup
  if cfg.mode = .globalProxy then pinServer env orig serverIp ruled else ruled

theorem route_eq (env : Environment) (cfg : ClientConfig) (welcome : Welcome) (ifname : String)
    (serverIp : IpAddr) (setup : Setup) :
    route env cfg welcome ifname serverIp setup =
      if CapturesAll cfg then
        captureAll env cfg welcome ifname serverIp
          (fronted env cfg ifname serverIp (assignIp6 env welcome ifname setup))
      else .ok (fronted env cfg ifname serverIp (assignIp6 env welcome ifname setup)) := by
  rw [route, fronted]
  cases hmode : cfg.mode <;> cases hsplit : cfg.splitMode <;> simp [CapturesAll, hmode, hsplit]

/-- The state in which the TUN has its addresses. -/
def based (env : Environment) (welcome : Welcome) (ifname : String) (host : Host) : Setup where
  host := { host with routes := baseRoutes env welcome ifname host }
  guard := ⟨[], none⟩

/-- `apply` up to the captures: bring-up fails, or the captures start from the fronted state. -/
theorem apply_eq (env : Environment) (cfg : ClientConfig) (welcome : Welcome) (ifname : String)
    (serverIp : IpAddr) (host : Host) :
    apply env cfg welcome ifname serverIp host =
      if BringsUp env welcome then
        if CapturesAll cfg then
          captureAll env cfg welcome ifname serverIp
            (fronted env cfg ifname serverIp (based env welcome ifname host))
        else .ok (fronted env cfg ifname serverIp (based env welcome ifname host))
      else
        if env.refuses .addrAdd = false ∧ welcome.prefixLen.toNat ≤ 32 then
          .error (addressed welcome ifname ⟨host, ⟨[], none⟩⟩).host
        else .error host := by
  have hbased : assignIp6 env welcome ifname (addressed welcome ifname ⟨host, ⟨[], none⟩⟩) =
      based env welcome ifname host := assignIp6_addressed env welcome ifname ⟨host, ⟨[], none⟩⟩
  rw [apply, bringUp_eq]
  by_cases hup : BringsUp env welcome
  · rw [if_pos hup, if_pos hup]
    change route env cfg welcome ifname serverIp (addressed welcome ifname ⟨host, ⟨[], none⟩⟩) = _
    rw [route_eq, hbased]
  · rw [if_neg hup, if_neg hup]
    split_ifs <;> rfl

/-- The front part attempts its plan on the base table. -/
theorem fronted_reaches (env : Environment) (cfg : ClientConfig) (welcome : Welcome)
    (ifname : String) (serverIp : IpAddr) (host : Host) :
    Reaches env (frontPlan env cfg ifname serverIp host)
      ((added env (baseRoutes env welcome ifname host)
          (rulesPlan env cfg ifname serverIp host)).map Route.removal ++
        (modePin env cfg serverIp host).map Addition.removal)
      (based env welcome ifname host)
      (fronted env cfg ifname serverIp (based env welcome ifname host)) := by
  have horig : defaultRoute env (based env welcome ifname host).host = defaultRoute env host := by
    rw [defaultRoute, defaultRoute]
    split_ifs
    · rfl
    · exact firstDefault_append fun route hroute ↦ connected_dst_ne hroute false
  have hrules := applyRouteRules_reaches ifname (defaultRoute env host) serverIp env cfg
    (based env welcome ifname host)
  rw [fronted, horig, frontPlan, modePin]
  split_ifs with hmode
  · exact hrules.trans (pinServer_reaches env (defaultRoute env host) serverIp _)
  · rw [List.map_nil, List.append_nil, List.append_nil]
    exact hrules

/-- The guard and the table are as `setDns` found them. -/
theorem setDns_reaches (welcome : Welcome) {additions : List Addition}
    {removals : List (Route → Bool)} {setup middle : Setup}
    (hreaches : Reaches env additions removals setup middle) :
    (setDns env welcome middle).host.routes =
        setup.host.routes ++ added env setup.host.routes additions ∧
      ∀ earlier, Undoes setup.guard earlier →
        Undoes (setDns env welcome middle).guard (earlier ++ removals) := by
  rw [setDns]
  split_ifs
  · exact ⟨hreaches.routes, hreaches.undoes⟩
  · exact ⟨hreaches.routes, hreaches.undoes⟩

/-- After a successful `apply` the bring-up has succeeded. -/
theorem bringsUp_of_ok {final : Setup}
    (happly : apply env cfg welcome ifname serverIp host = .ok final) : BringsUp env welcome := by
  by_contra hup
  rw [apply_eq, if_neg hup] at happly
  split_ifs at happly

/-- The host and the guard after a successful `apply`. -/
theorem apply_ok {final : Setup}
    (happly : apply env cfg welcome ifname serverIp host = .ok final) :
    Configured env cfg welcome ifname serverIp host final := by
  have hfront := fronted_reaches env cfg welcome ifname serverIp host
  have hstart : Undoes (based env welcome ifname host).guard [] := fun _ ↦ rfl
  have hup := bringsUp_of_ok happly
  rw [apply_eq, if_pos hup] at happly
  by_cases hall : CapturesAll cfg
  · rw [if_pos hall] at happly
    obtain ⟨hcaptured, middle, rfl, hback⟩ := captureAll_ok happly
    have hroute6 : defaultRoute6 env
        (fronted env cfg ifname serverIp (based env welcome ifname host)).host =
          defaultRoute6 env host := by
      rw [defaultRoute6, defaultRoute6, hfront.host]
      split_ifs
      · rfl
      · rw [firstDefault_append]
        · exact firstDefault_append fun route hroute ↦ connected_dst_ne hroute true
        · intro route hroute
          obtain ⟨addition, haddition, -, rfl⟩ := exists_of_mem_added hroute
          exact frontPlan_dst_ne haddition
    rw [hroute6] at hback
    have hwhole := hfront.trans hback
    obtain ⟨hroutes, hundoes⟩ := setDns_reaches welcome hwhole
    refine ⟨?_, ?_, ?_, fun _ addition haddition ↦ ?_⟩
    · rw [plan, backPlan, if_pos hall]
      exact hroutes
    · rw [undoPlan, backPlan, if_pos hall, List.map_append, ← List.append_assoc]
      exact hundoes [] hstart
    · have hresolv : middle.host.resolv = host.resolv := by rw [hwhole.host]; rfl
      have hbackup : middle.guard.resolvBackup = none := hwhole.backup
      rw [dnsOutcome, setDns]
      by_cases hempty : welcome.dns = [] ∧ welcome.dns6 = []
      · rw [if_pos hempty, if_neg fun h ↦ h.2 hempty, hresolv, hbackup]
      · rw [if_neg hempty, if_pos ⟨hall, hempty⟩]
        dsimp only
        rw [hresolv]
    · have hone := hcaptured addition haddition
      rw [hfront.routes] at hone
      exact hone
  · rw [if_neg hall] at happly
    rw [← Except.ok.inj happly]
    refine ⟨?_, ?_, ?_, fun h ↦ absurd h hall⟩
    · rw [plan, backPlan, if_neg hall, List.append_nil]
      exact hfront.routes
    · rw [undoPlan, backPlan, if_neg hall, List.append_nil]
      exact hfront.undoes [] hstart
    · rw [dnsOutcome, if_neg fun h ↦ hall h.1, hfront.host, hfront.backup]
      rfl

/-- The host that a failed `apply` leaves. Either bring-up failed, or everything before the captures
has been attempted; beyond that at most routes of the TUN are left. -/
theorem apply_error {left : Host}
    (happly : apply env cfg welcome ifname serverIp host = .error left) :
    ∃ more : List Route, (∀ route ∈ more, route.BoundTo ifname) ∧
      left = { host with routes :=
        (if BringsUp env welcome then
          baseRoutes env welcome ifname host ++ added env (baseRoutes env welcome ifname host)
            (frontPlan env cfg ifname serverIp host)
        else host.routes) ++ more } := by
  rw [apply_eq] at happly
  by_cases hup : BringsUp env welcome
  · rw [if_pos hup] at happly
    split_ifs at happly with hall
    obtain ⟨more, hbound, hleft⟩ := captureAll_error happly
    refine ⟨more, hbound, ?_⟩
    rw [if_pos hup, hleft, (fronted_reaches env cfg welcome ifname serverIp host).host]
    rfl
  · rw [if_neg hup] at happly
    rw [if_neg hup]
    split_ifs at happly
    · refine ⟨(connectedRoute ⟨.v4 welcome.assignedIp, welcome.prefixLen.toNat⟩ ifname).toList,
        fun route hroute ↦ connectedRoute_boundTo hroute, ?_⟩
      exact (Except.error.inj happly).symm
    · refine ⟨[], fun _ h ↦ absurd h List.not_mem_nil, ?_⟩
      rw [List.append_nil]
      exact (Except.error.inj happly).symm

/-! ### The added routes -/

/-- The gateway of the IPv4 default route is not an IPv6 address. -/
theorem defaultRoute_gateway_ne {gateway : Gateway} {dev : String}
    (horig : defaultRoute env host = some (gateway, dev)) (addr : Ipv6Addr) :
    gateway ≠ .v6 addr := by
  rw [defaultRoute] at horig
  split_ifs at horig
  rw [firstDefault] at horig
  split at horig
  · rename_i printed _ _
    cases printed <;> obtain ⟨rfl, -⟩ := Prod.mk.inj (Option.some.inj horig) <;> exact nofun
  · exact absurd horig nofun

/-- The pin is possible for an IPv4 server only, since it names an IPv4 gateway. -/
theorem modePin_possible {addition : Addition}
    (haddition : addition ∈ modePin env cfg serverIp host) (hpossible : addition.Possible env) :
    ∃ addr, serverIp = .v4 addr ∧ addition.dst = .ofNet (Core.host addr) := by
  rw [modePin] at haddition
  split_ifs at haddition
  · cases horig : defaultRoute env host with
    | none => simp [horig, pinPlan] at haddition
    | some physical =>
      obtain ⟨gateway, dev⟩ := physical
      rw [horig, pinPlan, List.mem_singleton] at haddition
      subst haddition
      cases serverIp with
      | v4 addr => exact ⟨addr, rfl, rfl⟩
      | v6 addr =>
        have hfits := hpossible.2.2.1
        cases gateway with
        | v4 other => exact absurd hfits nofun
        | v6 other => exact absurd rfl (defaultRoute_gateway_ne horig other)
        | word => exact absurd hfits nofun
  · exact absurd haddition List.not_mem_nil

/-- Possible additions before the captures are IPv4. -/
theorem frontPlan_head {addition : Addition}
    (haddition : addition ∈ frontPlan env cfg ifname serverIp host)
    (hpossible : addition.Possible env) : addition.dst.word.head? = some false := by
  rw [frontPlan, List.mem_append] at haddition
  rcases haddition with hrule | hpin
  · obtain ⟨net, rule, hop, -, -, -, rfl⟩ := (mem_rulePlan_iff ..).mp hrule
    rfl
  · obtain ⟨addr, -, hdst⟩ := modePin_possible hpin hpossible
    rw [hdst]
    rfl

/-- Possible additions before the captures are determined by their prefix. -/
theorem frontPlan_unique {first second : Addition}
    (hfirst : first ∈ frontPlan env cfg ifname serverIp host)
    (hsecond : second ∈ frontPlan env cfg ifname serverIp host)
    (hpossible : first.Possible env) (hother : second.Possible env)
    (hword : first.dst.word = second.dst.word) : first = second := by
  rw [frontPlan, List.mem_append] at hfirst hsecond
  rcases hfirst with hrule | hpin <;> rcases hsecond with hrule' | hpin'
  · exact rulePlan_unique _ _ _ hrule hrule' hpossible hother hword
  · obtain ⟨net, rule, hop, hpassed, -, -, rfl⟩ := (mem_rulePlan_iff ..).mp hrule
    obtain ⟨addr, rfl, hdst⟩ := modePin_possible hpin' hother
    rw [hdst] at hword
    exact absurd hword (rule_word_ne_pin (fun h ↦ hpassed (Or.inl h)) hpossible)
  · obtain ⟨net, rule, hop, hpassed, -, -, rfl⟩ := (mem_rulePlan_iff ..).mp hrule'
    obtain ⟨addr, rfl, hdst⟩ := modePin_possible hpin hpossible
    rw [hdst] at hword
    exact absurd hword.symm (rule_word_ne_pin (fun h ↦ hpassed (Or.inl h)) hother)
  · rw [modePin] at hpin hpin'
    split_ifs at hpin hpin'
    · cases horig : defaultRoute env host with
      | none => simp [horig, pinPlan] at hpin
      | some physical =>
        rw [horig, pinPlan, List.mem_singleton] at hpin hpin'
        rw [hpin, hpin']
    · exact absurd hpin List.not_mem_nil

/-- Which routes a list of additions adds: those of the additions that take effect. Assumes:
possible additions of the list with one prefix have one route. -/
theorem mem_added_iff {table : List Route} {additions : List Addition}
    (hunique : ∀ first ∈ additions, ∀ second ∈ additions, first.Possible env →
      second.Possible env → first.dst.word = second.dst.word → first.route = second.route)
    {route : Route} :
    route ∈ added env table additions ↔
      ∃ addition ∈ additions, addition.TakesEffect env table ∧ addition.route = route := by
  refine ⟨exists_of_mem_added, ?_⟩
  rintro ⟨addition, haddition, ⟨hpossible, hkey⟩, rfl⟩
  refine (mem_installed ?_).mpr
    ⟨List.mem_map.mpr ⟨addition, haddition, Addition.attempt_eq_false_iff.mpr ⟨hpossible, rfl⟩⟩,
      hkey⟩
  intro first second hfirst hsecond hsame
  obtain ⟨one, hone, hattempt⟩ := List.mem_map.mp hfirst
  obtain ⟨other, hother, hattempt'⟩ := List.mem_map.mp hsecond
  obtain ⟨hpossible, rfl⟩ := Addition.attempt_eq_false_iff.mp hattempt
  obtain ⟨hpossible', rfl⟩ := Addition.attempt_eq_false_iff.mp hattempt'
  exact hunique one hone other hother hpossible hpossible' hsame

theorem mem_added_front {table : List Route} {route : Route} :
    route ∈ added env table (frontPlan env cfg ifname serverIp host) ↔
      ∃ addition ∈ frontPlan env cfg ifname serverIp host,
        addition.TakesEffect env table ∧ addition.route = route :=
  mem_added_iff fun _ hfirst _ hsecond hpossible hother hword ↦
    congrArg Addition.route (frontPlan_unique hfirst hsecond hpossible hother hword)

theorem modePin_cases (env : Environment) (cfg : ClientConfig) (serverIp : IpAddr) (host : Host) :
    modePin env cfg serverIp host = [] ∨
      ∃ addition, modePin env cfg serverIp host = [addition] ∧ addition.site = .pin ∧
        addition.dst = ⟨serverIp, 32⟩ := by
  rw [modePin]
  split_ifs
  · cases defaultRoute env host with
    | none => exact Or.inl rfl
    | some physical => exact Or.inr ⟨_, rfl, rfl, rfl⟩
  · exact Or.inl rfl

theorem pin6Plan_cases (orig6 : Option (Gateway × String)) (serverIp : IpAddr) :
    pin6Plan orig6 serverIp = [] ∨
      ∃ addition addr, pin6Plan orig6 serverIp = [addition] ∧ addition.site = .pin6 ∧
        serverIp = .v6 addr ∧ addition.dst = ⟨.v6 addr, 128⟩ := by
  cases serverIp with
  | v4 addr => exact Or.inl rfl
  | v6 addr =>
    cases orig6 with
    | none => exact Or.inl rfl
    | some physical => exact Or.inr ⟨_, addr, rfl, rfl, rfl, rfl⟩

/-- What tells the prefixes of the mode apart: their length, and for the halves their bits. -/
def Addition.shape (addition : Addition) : ℕ × List Bool :=
  (addition.dst.word.length, if addition.dst.word.length = 2 then addition.dst.word else [])

theorem shape_modePin (env : Environment) (cfg : ClientConfig) (serverIp : IpAddr) (host : Host) :
    (modePin env cfg serverIp host).map Addition.shape = [] ∨
      (modePin env cfg serverIp host).map Addition.shape = [(33, [])] := by
  rcases modePin_cases env cfg serverIp host with
    hnone | ⟨addition, hpin, -, hdst⟩
  · exact Or.inl (by rw [hnone]; rfl)
  · right
    rw [hpin, List.map_singleton, Addition.shape, hdst,
      IpPrefix.length_word (by cases serverIp <;> simp [IpAddr.width])]
    rfl

theorem shape_plan6 (cfg : ClientConfig) (welcome : Welcome) (ifname : String)
    (orig6 : Option (Gateway × String)) (serverIp : IpAddr) :
    (plan6 cfg welcome ifname orig6 serverIp).map Addition.shape ∈
      ([[], [(2, [true, false]), (2, [true, true])],
        [(129, []), (2, [true, false]), (2, [true, true])]] : List (List (ℕ × List Bool))) := by
  rw [plan6]
  split_ifs
  · rcases pin6Plan_cases orig6 serverIp with hnone | ⟨addition, addr, hpin, -, -, hdst⟩
    · simp [hnone, Addition.shape]
    · have hlength : addition.dst.word.length = 129 := by
        rw [hdst, IpPrefix.length_word le_rfl]
      simp [hpin, Addition.shape, hlength]
  · simp [Addition.shape]
  · simp

/-- The additions of the mode have pairwise distinct prefixes. -/
theorem modePlan_nodup (env : Environment) (cfg : ClientConfig) (welcome : Welcome)
    (ifname : String) (serverIp : IpAddr) (host : Host) :
    ((modePin env cfg serverIp host ++ backPlan env cfg welcome ifname serverIp host).map
      fun addition ↦ addition.dst.word).Nodup := by
  refine List.Nodup.of_map
    (fun word : List Bool ↦ (word.length, if word.length = 2 then word else [])) ?_
  rw [List.map_map]
  change ((_ ++ _ : List Addition).map Addition.shape).Nodup
  have hcaptures : (capturePlan ifname).map Addition.shape =
      [(2, [false, false]), (2, [false, true])] := by
    simp [capturePlan, Addition.shape]
  have hsix := shape_plan6 cfg welcome ifname (defaultRoute6 env host) serverIp
  rw [List.map_append, backPlan]
  rcases shape_modePin env cfg serverIp host with
    hpin | hpin
  all_goals
    rw [hpin]
    split_ifs
    · rw [List.map_append, hcaptures]
      revert hsix
      generalize (plan6 cfg welcome ifname (defaultRoute6 env host) serverIp).map Addition.shape =
        shapes
      intro hsix
      rcases List.mem_cons.mp hsix with rfl | hsix
      · decide
      · rcases List.mem_pair.mp hsix with rfl | rfl <;> decide
    · decide

theorem plan6_head {orig6 : Option (Gateway × String)} {addition : Addition}
    (haddition : addition ∈ plan6 cfg welcome ifname orig6 serverIp) :
    addition.dst.word.head? = some true := by
  rw [plan6] at haddition
  split_ifs at haddition
  · rcases List.mem_append.mp haddition with hpin | hhalf
    · rcases pin6Plan_cases orig6 serverIp with hnone | ⟨other, addr, hother, -, -, hdst⟩
      · exact absurd (hnone ▸ hpin) List.not_mem_nil
      · rw [hother, List.mem_singleton] at hpin
        rw [hpin, hdst]
        rfl
    · rcases List.mem_pair.mp hhalf with rfl | rfl <;> simp
  · rcases List.mem_pair.mp haddition with rfl | rfl <;> simp
  · exact absurd haddition List.not_mem_nil

/-- Which routes a successful `apply` adds: those of the planned additions whose command is possible
and whose prefix was not in the table before. -/
theorem mem_added_plan {final : Setup}
    (happly : apply env cfg welcome ifname serverIp host = .ok final) {route : Route} :
    route ∈ added env (baseRoutes env welcome ifname host)
        (plan env cfg welcome ifname serverIp host) ↔
      ∃ addition ∈ plan env cfg welcome ifname serverIp host,
        addition.TakesEffect env (baseRoutes env welcome ifname host) ∧
          addition.route = route := by
  have hconfigured := apply_ok happly
  -- The captures found their prefix free, so no possible addition before them has it.
  have hcross : ∀ first ∈ frontPlan env cfg ifname serverIp host,
      ∀ second ∈ backPlan env cfg welcome ifname serverIp host, first.Possible env →
        first.dst.word ≠ second.dst.word := by
    intro first hfirst second hsecond hpossible hword
    rw [backPlan] at hsecond
    split_ifs at hsecond with hall
    · rcases List.mem_append.mp hsecond with hcapture | hsix
      · have hfree := (hconfigured.captured hall second hcapture).2
        rw [List.map_append, List.mem_append, not_or, ← hword] at hfree
        have hadded : first.route ∈ added env (baseRoutes env welcome ifname host)
            (frontPlan env cfg ifname serverIp host) :=
          mem_added_front.mpr ⟨first, hfirst, ⟨hpossible, hfree.1⟩, rfl⟩
        exact hfree.2 (List.mem_map_of_mem (f := Route.dst) hadded)
      · have hhead := frontPlan_head hfirst hpossible
        rw [hword, plan6_head hsix] at hhead
        exact Bool.false_ne_true (Option.some.inj hhead).symm
    · exact absurd hsecond List.not_mem_nil
  have hback : ∀ first ∈ backPlan env cfg welcome ifname serverIp host,
      ∀ second ∈ backPlan env cfg welcome ifname serverIp host,
        first.dst.word = second.dst.word → first = second := fun first hfirst second hsecond ↦
    List.inj_on_of_nodup_map (modePlan_nodup env cfg welcome ifname serverIp host)
      (List.mem_append_right _ hfirst) (List.mem_append_right _ hsecond)
  refine mem_added_iff fun first hfirst second hsecond hpossible hother hword ↦ ?_
  rw [plan, List.mem_append] at hfirst hsecond
  rcases hfirst with hfirst | hfirst <;> rcases hsecond with hsecond | hsecond
  · rw [frontPlan_unique hfirst hsecond hpossible hother hword]
  · exact absurd hword (hcross first hfirst second hsecond hpossible)
  · exact absurd hword.symm (hcross second hsecond first hfirst hother)
  · rw [hback first hfirst second hsecond hword]

end Plan

end EntroTunnel.Client
