import EntroTunnel.Client.SetupOutcome

/-!
# Teardown and failed setup

Dropping the guard of a successful setup should give the host back as it was: the routes that are
not bound to the TUN, and `resolv.conf`. `restored_iff` gives the exact condition. The undo commands
of rules and checked captures were recorded after the route was added, so they remove nothing else.
The pins and the IPv6 halves are recorded whatever became of their command, and their deletion names
no next hop: a route of the same prefix that was there before is deleted instead
(`deletes_server_route`). `resolv.conf` comes back when it could be read as text, or was not
changed.

A failed `apply` drops the recorded undo commands unrun. `unchanged_of_error_iff` says when nothing
off the TUN is left behind: bring-up failed, or no rule and no pin off the TUN had taken effect.
-/

set_option autoImplicit false
set_option relaxedAutoImplicit false

namespace EntroTunnel.Client

open EntroTunnel.Core EntroTunnel.Foundation

/-- The routes off the TUN and `resolv.conf` are as before. -/
def Restored (ifname : String) (before after : Host) : Prop :=
  after.routesOff ifname = before.routesOff ifname ∧ after.resolv = before.resolv

/-! ### Resolver configuration -/

theorem toUTF8_of_readToString {readable : Bool} {file : Option ByteArray} {text : String}
    (hread : readToString readable file = some text) : file = some text.toUTF8 := by
  rw [readToString] at hread
  split_ifs at hread
  obtain ⟨bytes, hbytes, htext⟩ := Option.bind_eq_some_iff.mp hread
  rw [String.fromUTF8?] at htext
  split_ifs at htext
  rw [hbytes, ← Option.some.inj htext]
  rfl

/-- Writing back what was read restores the file, whatever was written in between. -/
theorem writeInPlace_readToString {readable : Bool} {file : Option ByteArray} {text : String}
    (hread : readToString readable file = some text) (outcome : WriteOutcome) (body : String) :
    writeInPlace .written text (writeInPlace outcome body file) = file := by
  rw [toUTF8_of_readToString hread]
  cases outcome <;> rfl

section Teardown

variable (env : Environment) (cfg : ClientConfig) (welcome : Welcome) (ifname : String)
  (serverIp : IpAddr) (host : Host)

/-- The additions whose undo command is recorded whatever becomes of them. -/
def bestEffort : List Addition :=
  modePin env cfg serverIp host ++
    if CapturesAll cfg then plan6 cfg welcome ifname (defaultRoute6 env host) serverIp else []

/-- `resolv.conf` was left alone, could be read as text, or was not changed by the write. -/
def ResolvKept : Prop :=
  ¬ (CapturesAll cfg ∧ ¬ (welcome.dns = [] ∧ welcome.dns6 = [])) ∨
    (readToString env.resolvReadable host.resolv).isSome ∨
      writeInPlace env.resolvWrite (resolvBody welcome) host.resolv = host.resolv

/-- No route off the TUN was there under the prefix of a best-effort addition, or a route of the TUN
comes first. -/
def PrefixesFree : Prop :=
  ∀ addition ∈ bestEffort env cfg welcome ifname serverIp host, ∀ route,
    host.routes.find? addition.removal = some route → route.BoundTo ifname

variable {env cfg welcome ifname serverIp host}

/-- A route stays off the TUN's list when it is not bound to the TUN. -/
theorem routesOff_append (host : Host) {more : List Route}
    (hbound : ∀ route ∈ more, route.BoundTo ifname) :
    ({ host with routes := host.routes ++ more } : Host).routesOff ifname =
      host.routesOff ifname := by
  have hnone : more.filter (fun route ↦ ¬ route.BoundTo ifname) = [] :=
    List.filter_eq_nil_iff.mpr fun route hroute ↦ by simpa using hbound route hroute
  rw [Host.routesOff, Host.routesOff, List.filter_append, hnone, List.append_nil]

/-- What the undo commands match has one prefix. -/
theorem undoPlan_dst {removal : Route → Bool}
    (hremoval : removal ∈ undoPlan env cfg welcome ifname serverIp host) (first second : Route)
    (hfirst : removal first = true) (hsecond : removal second = true) :
    first.dst = second.dst := by
  rw [undoPlan, List.mem_append] at hremoval
  rcases hremoval with hrule | hmode
  · obtain ⟨route, -, rfl⟩ := List.mem_map.mp hrule
    rw [Route.removal, decide_eq_true_iff] at hfirst hsecond
    exact hfirst.1.trans hsecond.1.symm
  · obtain ⟨addition, -, rfl⟩ := List.mem_map.mp hmode
    exact (dst_of_removes hfirst).trans (dst_of_removes hsecond).symm

/-- Every route that setup added is matched by a recorded removal that matches nothing of before. -/
theorem exists_removal_of_added {route : Route}
    (hroute : route ∈ added env (baseRoutes env welcome ifname host)
      (plan env cfg welcome ifname serverIp host)) :
    ∃ removal ∈ undoPlan env cfg welcome ifname serverIp host, removal route = true ∧
      ∀ other ∈ baseRoutes env welcome ifname host, removal other = false := by
  obtain ⟨addition, haddition, heffect, rfl⟩ := exists_of_mem_added hroute
  have hfresh : ∀ other ∈ baseRoutes env welcome ifname host, other.dst ≠ addition.dst.word :=
    fun other hother hdst ↦ heffect.2 (hdst ▸ List.mem_map_of_mem hother)
  have hmode : addition ∈ modePin env cfg serverIp host ++
      backPlan env cfg welcome ifname serverIp host →
        ∃ removal ∈ undoPlan env cfg welcome ifname serverIp host,
          removal addition.route = true ∧
            ∀ other ∈ baseRoutes env welcome ifname host, removal other = false := fun hmem ↦ by
    refine ⟨addition.removal, List.mem_append_right _ (List.mem_map_of_mem hmem),
      removes_none_iff.mpr rfl, fun other hother ↦ ?_⟩
    exact Bool.eq_false_iff.mpr fun h ↦ hfresh other hother (dst_of_removes h)
  rw [plan, frontPlan, List.mem_append, List.mem_append] at haddition
  rcases haddition with (hrule | hpin) | hback
  · have hadded : addition.route ∈ added env (baseRoutes env welcome ifname host)
        (rulesPlan env cfg ifname serverIp host) := by
      refine (mem_added_iff fun first hfirst second hsecond hpossible hother hword ↦ ?_).mpr
        ⟨addition, hrule, heffect, rfl⟩
      exact congrArg Addition.route (frontPlan_unique (List.mem_append_left _ hfirst)
        (List.mem_append_left _ hsecond) hpossible hother hword)
    refine ⟨addition.route.removal, List.mem_append_left _ (List.mem_map_of_mem hadded),
      by simp [Route.removal], fun other hother ↦ ?_⟩
    rw [Route.removal]
    exact decide_eq_false fun h ↦ hfresh other hother h.1
  · exact hmode (List.mem_append_left _ hpin)
  · exact hmode (List.mem_append_right _ hback)

/-- The removals recorded for rules match nothing of before. -/
theorem undoAll_rules :
    undoAll ((added env (baseRoutes env welcome ifname host)
        (rulesPlan env cfg ifname serverIp host)).map Route.removal)
      (baseRoutes env welcome ifname host) = baseRoutes env welcome ifname host := by
  refine undoAll_eq_self fun removal hremoval other hother ↦ ?_
  obtain ⟨route, hroute, rfl⟩ := List.mem_map.mp hremoval
  rw [Route.removal]
  refine decide_eq_false fun h ↦ dst_notMem_of_mem_installed hroute ?_
  exact h.1 ▸ List.mem_map_of_mem hother

/-- After the undo commands the routes off the TUN are those of before, without the first match of
each prefix of the mode. -/
theorem routesOff_undoAll :
    (undoAll (undoPlan env cfg welcome ifname serverIp host)
        (baseRoutes env welcome ifname host ++
          added env (baseRoutes env welcome ifname host)
            (plan env cfg welcome ifname serverIp host))).filter
        (fun route ↦ ¬ route.BoundTo ifname) =
      (undoAll ((modePin env cfg serverIp host ++
          backPlan env cfg welcome ifname serverIp host).map Addition.removal)
        (baseRoutes env welcome ifname host)).filter fun route ↦ ¬ route.BoundTo ifname := by
  rw [filter_undoAll_append (nodup_map_added _ _ _) (fun removal hremoval ↦ undoPlan_dst hremoval)
    fun route hroute _ ↦ exists_removal_of_added hroute]
  have hsplit : ∀ (first second : List (Route → Bool)) (table : List Route),
      undoAll (first ++ second) table = undoAll second (undoAll first table) :=
    fun first second table ↦ List.foldl_append
  rw [undoPlan, hsplit, undoAll_rules]

/-- A removal finds a route off the TUN in the base table exactly when it does in the host's. -/
theorem find_base_iff (removal : Route → Bool) :
    (∀ route, (baseRoutes env welcome ifname host).find? removal = some route →
        decide (¬ route.BoundTo ifname) = false) ↔
      ∀ route, host.routes.find? removal = some route → route.BoundTo ifname := by
  have hbound : ∀ route, (connected env welcome ifname).find? removal = some route →
      route.BoundTo ifname :=
    fun route hroute ↦ connected_boundTo (List.mem_of_find?_eq_some hroute)
  rw [baseRoutes, List.find?_append]
  cases hfind : host.routes.find? removal with
  | none => simpa using hbound
  | some first => simp

/-- The captures found their prefix free. -/
theorem find_capture_eq_none {final : Setup}
    (happly : apply env cfg welcome ifname serverIp host = .ok final) (hall : CapturesAll cfg)
    {addition : Addition} (haddition : addition ∈ capturePlan ifname) :
    host.routes.find? addition.removal = none := by
  refine List.find?_eq_none.mpr fun route hroute hremoval ↦ ?_
  refine ((apply_ok happly).captured hall addition haddition).2 ?_
  rw [← dst_of_removes hremoval, baseRoutes, List.map_append, List.map_append]
  exact List.mem_append_left _ (List.mem_append_left _ (List.mem_map_of_mem hroute))

/-- When the undo commands of a successful setup give back the routes off the TUN: no route off the
TUN was there first under the prefix of a best-effort addition. -/
theorem routesOff_drop_iff {final : Setup}
    (happly : apply env cfg welcome ifname serverIp host = .ok final) :
    (final.guard.drop final.host).routesOff ifname = host.routesOff ifname ↔
      PrefixesFree env cfg welcome ifname serverIp host := by
  have hdrop : (final.guard.drop final.host).routes =
      undoAll (undoPlan env cfg welcome ifname serverIp host) final.host.routes := by
    rw [NetGuard.drop, (apply_ok happly).undoes]
    cases final.guard.resolvBackup <;> rfl
  have hbase : host.routesOff ifname =
      (baseRoutes env welcome ifname host).filter fun route ↦ ¬ route.BoundTo ifname :=
    (routesOff_append host fun _ hroute ↦ connected_boundTo hroute).symm
  have hdisjoint : ((modePin env cfg serverIp host ++
      backPlan env cfg welcome ifname serverIp host).map Addition.removal).Pairwise
        fun first second ↦ ∀ entry ∈ baseRoutes env welcome ifname host,
          ¬ (first entry = true ∧ second entry = true) := by
    have hnodup := modePlan_nodup env cfg welcome ifname serverIp host
    rw [List.Nodup, List.pairwise_map] at hnodup
    refine List.pairwise_map.mpr (hnodup.imp fun hdiffers entry _ hboth ↦ hdiffers ?_)
    exact (dst_of_removes hboth.1).symm.trans (dst_of_removes hboth.2)
  rw [Host.routesOff, hdrop, (apply_ok happly).routes, routesOff_undoAll, hbase,
    filter_undoAll_eq_iff _ _ _ hdisjoint, List.forall_mem_map]
  simp only [find_base_iff]
  constructor
  · intro hall addition haddition
    refine hall addition ?_
    rw [bestEffort, List.mem_append] at haddition
    refine List.mem_append.mpr (haddition.imp_right fun hsix ↦ ?_)
    split_ifs at hsix with hcaptures
    · rw [backPlan, if_pos hcaptures]
      exact List.mem_append_right _ hsix
    · exact absurd hsix List.not_mem_nil
  · intro hfree addition haddition
    rcases List.mem_append.mp haddition with hpin | hback
    · exact hfree addition (List.mem_append_left _ hpin)
    · rw [backPlan] at hback
      split_ifs at hback with hcaptures
      · rcases List.mem_append.mp hback with hcapture | hsix
        · intro route hroute
          rw [find_capture_eq_none happly hcaptures hcapture] at hroute
          cases hroute
        · refine hfree addition ?_
          rw [bestEffort, if_pos hcaptures]
          exact List.mem_append_right _ hsix
      · exact absurd hback List.not_mem_nil

/-- When dropping the guard gives back `resolv.conf`. -/
theorem resolv_drop_iff {final : Setup}
    (happly : apply env cfg welcome ifname serverIp host = .ok final) :
    (final.guard.drop final.host).resolv = host.resolv ↔ ResolvKept env cfg welcome host := by
  have hdns := (apply_ok happly).dns
  have hdrop : (final.guard.drop final.host).resolv =
      final.guard.resolvBackup.elim final.host.resolv
        fun backup ↦ writeInPlace .written backup final.host.resolv := by
    rw [NetGuard.drop, (apply_ok happly).undoes]
    cases final.guard.resolvBackup <;> rfl
  rw [dnsOutcome] at hdns
  rw [hdrop, ResolvKept]
  split_ifs at hdns with hconfigured
  · obtain ⟨hresolv, hbackup⟩ := Prod.mk.inj hdns
    rw [hresolv, hbackup]
    cases hread : readToString env.resolvReadable host.resolv with
    | some text => simp [writeInPlace_readToString hread]
    | none => simp [hconfigured.1, hconfigured.2]
  · obtain ⟨hresolv, hbackup⟩ := Prod.mk.inj hdns
    rw [hresolv, hbackup]
    exact ⟨fun _ ↦ Or.inl hconfigured, fun _ ↦ rfl⟩

/-- When connecting and disconnecting restores the host: no route off the TUN was there first under
the prefix of a best-effort addition, and `resolv.conf` was left alone, read as text, or not changed
by the write. -/
theorem restored_iff {final : Setup}
    (happly : apply env cfg welcome ifname serverIp host = .ok final) :
    Restored ifname host (final.guard.drop final.host) ↔
      PrefixesFree env cfg welcome ifname serverIp host ∧ ResolvKept env cfg welcome host :=
  and_congr (routesOff_drop_iff happly) (resolv_drop_iff happly)

end Teardown

/-- A full tunnel on a host behind an IPv4 router, dropped again. -/
theorem restored_iff_routedHost :
    ∃ final, apply calmEnvironment { mode := .globalProxy } ipv4Welcome "et0"
        (.v4 (ipv4 203 0 113 7)) routedHost = .ok final ∧
      (Restored "et0" routedHost (final.guard.drop final.host) ↔
        PrefixesFree calmEnvironment { mode := .globalProxy } ipv4Welcome "et0"
            (.v4 (ipv4 203 0 113 7)) routedHost ∧
          ResolvKept calmEnvironment { mode := .globalProxy } ipv4Welcome routedHost) :=
  ⟨_, rfl, restored_iff rfl⟩

/-- A host with a host route to the server of its own. -/
def pinnedHost : Host where
  routes :=
    [⟨[false], .via (.v4 (ipv4 192 168 1 1)) "eth0"⟩,
      ⟨IpAddr.word (.v4 (ipv4 203 0 113 7)), .via (.v4 (ipv4 192 168 1 2)) "eth0"⟩]
  resolv := none

/-- A host route to the server that was there before is gone after disconnecting. -/
theorem deletes_server_route :
    ∃ final, apply calmEnvironment { mode := .globalProxy } ipv4Welcome "et0"
        (.v4 (ipv4 203 0 113 7)) pinnedHost = .ok final ∧
      ¬ Restored "et0" pinnedHost (final.guard.drop final.host) := by
  refine ⟨_, rfl, fun hrestored ↦ ?_⟩
  exact absurd (congrArg List.length hrestored.1) (by decide +kernel)

/-! ### Failure -/

section Failure

variable {env : Environment} {cfg : ClientConfig} {welcome : Welcome} {ifname : String}
  {serverIp : IpAddr} {host : Host}

/-- When a failed setup leaves the routes off the TUN as they were: bring-up failed, or every rule
route and the pin failed, was there before, or is bound to the TUN. -/
theorem unchanged_of_error_iff {left : Host}
    (happly : apply env cfg welcome ifname serverIp host = .error left) :
    left.routesOff ifname = host.routesOff ifname ↔
      ¬ BringsUp env welcome ∨
        ∀ addition ∈ frontPlan env cfg ifname serverIp host,
          addition.TakesEffect env (baseRoutes env welcome ifname host) →
            addition.route.BoundTo ifname := by
  obtain ⟨more, hmore, hleft⟩ := apply_error happly
  rw [hleft, routesOff_append { host with routes := _ } hmore, Host.routesOff]
  dsimp only
  by_cases hup : BringsUp env welcome
  · have hbase : (baseRoutes env welcome ifname host).filter (fun route ↦ ¬ route.BoundTo ifname) =
        host.routesOff ifname :=
      routesOff_append host fun _ hroute ↦ connected_boundTo hroute
    rw [if_pos hup, List.filter_append, hbase, List.append_right_eq_self, List.filter_eq_nil_iff]
    constructor
    · intro hnone
      refine Or.inr fun addition haddition heffect ↦ ?_
      simpa using hnone _ (mem_added_front.mpr ⟨addition, haddition, heffect, rfl⟩)
    · rintro (hdown | hbound) route hroute
      · exact absurd hup hdown
      · obtain ⟨addition, haddition, heffect, rfl⟩ := exists_of_mem_added hroute
        simpa using hbound addition haddition heffect
  · rw [if_neg hup]
    exact ⟨fun _ ↦ Or.inl hup, fun _ ↦ rfl⟩

end Failure

/-- A host on which another tunnel has captured the lower half of the addresses. -/
def capturedHost : Host where
  routes :=
    [⟨[false], .via (.v4 (ipv4 192 168 1 1)) "eth0"⟩, ⟨[false, false], .onLink "wg0"⟩]
  resolv := none

/-- The setup of a full tunnel fails on a half that another tunnel has captured. -/
theorem unchanged_of_error_iff_capturedHost :
    ∃ left, apply calmEnvironment { mode := .globalProxy } ipv4Welcome "et0"
        (.v4 (ipv4 203 0 113 7)) capturedHost = .error left ∧
      (left.routesOff "et0" = capturedHost.routesOff "et0" ↔
        ¬ BringsUp calmEnvironment ipv4Welcome ∨
          ∀ addition ∈ frontPlan calmEnvironment { mode := .globalProxy } "et0"
              (.v4 (ipv4 203 0 113 7)) capturedHost,
            addition.TakesEffect calmEnvironment
                (baseRoutes calmEnvironment ipv4Welcome "et0" capturedHost) →
              addition.route.BoundTo "et0") :=
  ⟨_, rfl, unchanged_of_error_iff rfl⟩

/-- The first capture finds its prefix taken and setup fails, but the pin stays. -/
theorem keeps_pin_on_error :
    ∃ left, apply calmEnvironment { mode := .globalProxy } ipv4Welcome "et0"
        (.v4 (ipv4 203 0 113 7)) capturedHost = .error left ∧
      left.routesOff "et0" ≠ capturedHost.routesOff "et0" := by
  refine ⟨_, rfl, fun hsame ↦ ?_⟩
  exact absurd (congrArg List.length hsame) (by decide +kernel)

end EntroTunnel.Client
