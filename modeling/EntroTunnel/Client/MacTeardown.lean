import Mathlib.Logic.Function.Basic
import EntroTunnel.Client.MacSetup

/-!
# What a macOS session leaves of the host

`MacOs` is an operating system whose commands do to the routes, to the settings of the network
services and to `resolv.conf` what is documented of them. Which routes a deletion matches is left to
the system, but that it matches the route that the same arguments added.

`MacGathered` is what setup keeps up: of the settings only those are changed that the guard has an
undo command for. `macos_restored_iff` says when the teardown brings back the host of before: no
route of before is matched by an undo command, IPv6 was automatic on the service where it was
switched off, since the undo command knows no other setting, and the resolvers of the service and
`resolv.conf` could be saved. A setup that fails leaves the routes that it has added.
-/

set_option autoImplicit false
set_option relaxedAutoImplicit false

namespace EntroTunnel.Client

open EntroTunnel.Core EntroTunnel.Foundation

/-! ### The operating system -/

structure MacRoute where
  target : MacTarget
  hop : MacHop
  deriving DecidableEq

/-- How a network service configures IPv6. -/
inductive V6Mode
  | automatic
  | off
  | manual
  deriving DecidableEq, Repr

/-- The part of the host that the client configures: the routes, but those that come and go with the
addresses of the TUN, the settings of the services, and the content of `resolv.conf`. -/
@[ext] structure MacHost where
  routes : List MacRoute
  v6 : String → V6Mode
  dns : String → List String
  resolv : Option ByteArray

/-- The routes that a deletion matches, as the system decides it. -/
abbrev MacRemoves := Bool → MacTarget → Option MacHop → MacRoute → Bool

/-- What is documented of an operation with its reply. The list of resolvers is printed with one on
each line. A file is overwritten in place, so it is there afterwards if it was before, with another
content if the writing fails. -/
def MacOperation.Documented (removes : MacRemoves) :
    (operation : MacOperation) → operation.Reply → MacHost → MacHost → Prop
  | .ifconfigInet _ _ _, _, before, after | .ifconfigMtu _ _, _, before, after
  | .ifconfigInet6 _ _ _, _, before, after | .routeGet _, _, before, after
  | .listServices, _, before, after => after = before
  | .routeAdd _ target hop, ok, before, after =>
    after = if (ok : Bool) then { before with routes := before.routes ++ [⟨target, hop⟩] }
      else before
  | .routeDelete inet6 target hop, _, before, after =>
    after = { before with
      routes := before.routes.filter fun route ↦ !removes inet6 target hop route }
  | .setV6Off service, ok, before, after =>
    after = if (ok : Bool) then { before with v6 := Function.update before.v6 service .off }
      else before
  | .setV6Automatic service, ok, before, after =>
    after = if (ok : Bool) then { before with v6 := Function.update before.v6 service .automatic }
      else before
  | .getDns service, reply, before, after =>
    after = before ∧ ∀ output, reply = some output →
      dnsLines output = (before.dns service).filter fun server ↦ isIp server.toList
  | .setDns service servers, ok, before, after =>
    after = if (ok : Bool) then { before with dns := Function.update before.dns service servers }
      else before
  | .readResolv, reply, before, after =>
    after = before ∧ ∀ text : String, reply = some text → before.resolv = some text.toUTF8
  | .writeResolv body, ok, before, after =>
    ∃ content, ((ok : Bool) = true → content = body.toUTF8) ∧
      after = { before with resolv := before.resolv.map fun _ ↦ content }

/-- An operating system. -/
structure MacOs where
  State : Type
  exec : (operation : MacOperation) → State → State × operation.Reply
  observe : State → MacHost
  removes : MacRemoves
  removes_added : ∀ inet6 target hop,
    removes inet6 target none ⟨target, hop⟩ = true ∧
      removes inet6 target (some hop) ⟨target, hop⟩ = true
  documented : ∀ (operation : MacOperation) (state : State),
    MacOperation.Documented removes operation (exec operation state).2 (observe state)
      (observe (exec operation state).1)

namespace MacOs

/-- The routes that an undo command takes out. -/
def removal (mac : MacOs) : MacOperation → MacRoute → Bool
  | .routeDelete inet6 target hop => mac.removes inet6 target hop
  | _ => fun _ ↦ false

/-- What a command of the teardown does when it succeeds. -/
def restore (mac : MacOs) (host : MacHost) : MacOperation → MacHost
  | .routeDelete inet6 target hop =>
    { host with routes := host.routes.filter fun route ↦ !mac.removes inet6 target hop route }
  | .setV6Automatic service => { host with v6 := Function.update host.v6 service .automatic }
  | .setDns service servers => { host with dns := Function.update host.dns service servers }
  | .writeResolv body => { host with resolv := host.resolv.map fun _ ↦ body.toUTF8 }
  | _ => host

/-- The commands one after the other, whatever becomes of them. -/
def after (mac : MacOs) (commands : List MacOperation) (state : mac.State) : mac.State :=
  commands.foldl (fun state operation ↦ (mac.exec operation state).1) state

end MacOs

/-! ### Teardown -/

/-- The commands of the teardown. -/
def MacGuard.commands (guard : MacGuard) : List MacOperation :=
  guard.undo ++ (guard.resolvBackup.map .writeResolv).toList

/-- A command of the teardown, with success where that decides what it did. -/
def MacOperation.Undone : (operation : MacOperation) → operation.Reply → Prop
  | .routeDelete _ _ _, _ => True
  | .setV6Automatic _, ok | .setDns _ _, ok | .writeResolv _, ok => (ok : Bool) = true
  | _, _ => False

/-- Every command of a teardown does what it is for. -/
def MacOs.Settles (mac : MacOs) : List MacOperation → mac.State → Prop
  | [], _ => True
  | operation :: rest, state =>
    operation.Undone (mac.exec operation state).2 ∧
      mac.Settles rest (mac.exec operation state).1

section Teardown

variable {mac : MacOs}

theorem attempts_alone (commands : List MacOperation) (state : mac.State) :
    (commands.foldlM (fun _ operation ↦ .act operation fun _ ↦ .done ()) () :
      MacScript Unit).alone mac.exec state = (mac.after commands state, some ()) := by
  induction commands generalizing state with
  | nil => rfl
  | cons operation commands ih => exact ih (mac.exec operation state).1

/-- The teardown ends, and its commands are those of the guard. -/
theorem drop_alone (guard : MacGuard) (state : mac.State) :
    (MacScript.drop guard).alone mac.exec state = (mac.after guard.commands state, some ()) := by
  obtain ⟨undo, backup⟩ := guard
  rw [MacScript.drop, Script.alone_bind, attempts_alone]
  cases backup with
  | none =>
    show (mac.after undo state, some ()) = _
    rw [MacGuard.commands, Option.map_none, Option.toList_none, List.append_nil]
  | some text =>
    show ((mac.exec (.writeResolv text) (mac.after undo state)).1, some ()) = _
    rw [MacGuard.commands, Option.map_some, Option.toList_some, MacOs.after, MacOs.after,
      List.foldl_concat]

theorem observe_undone {operation : MacOperation} {state : mac.State}
    (hundone : operation.Undone (mac.exec operation state).2) :
    mac.observe (mac.exec operation state).1 = mac.restore (mac.observe state) operation := by
  have hdocumented := mac.documented operation state
  cases operation with
  | routeDelete inet6 target hop => exact hdocumented
  | setV6Automatic service =>
    simp only [MacOperation.Undone] at hundone
    simp only [MacOperation.Documented, hundone, if_true] at hdocumented
    exact hdocumented
  | setDns service servers =>
    simp only [MacOperation.Undone] at hundone
    simp only [MacOperation.Documented, hundone, if_true] at hdocumented
    exact hdocumented
  | writeResolv body =>
    obtain ⟨content, hcontent, hafter⟩ := hdocumented
    rw [hafter, hcontent hundone]
    rfl
  | _ => exact hundone.elim

theorem observe_after {commands : List MacOperation} {state : mac.State}
    (hsettles : mac.Settles commands state) :
    mac.observe (mac.after commands state) = commands.foldl mac.restore (mac.observe state) := by
  induction commands generalizing state with
  | nil => rfl
  | cons operation commands ih =>
    rw [MacOs.after, List.foldl_cons, List.foldl_cons, ← observe_undone hsettles.1]
    exact ih hsettles.2

end Teardown

/-! ### Setup -/

/-- The undo commands: deletions of routes, at most one switch of IPv6, and at most one list of
resolvers. -/
def undoOf (deletions : List MacOperation) (switched : Option String)
    (replaced : Option (String × List String)) : List MacOperation :=
  deletions ++ (switched.map .setV6Automatic).toList ++
    (replaced.map fun (service, servers) ↦ .setDns service servers).toList

@[simp] theorem undoOf_none (deletions : List MacOperation) :
    undoOf deletions none none = deletions := by
  simp [undoOf]

/-- What differs from the host of before has its undo command. -/
structure MacGathered (mac : MacOs) (start : MacHost) (deletions : List MacOperation)
    (switched : Option String) (replaced : Option (String × List String)) (backup : Option String)
    (now : MacHost) : Prop where
  deletes : ∀ operation ∈ deletions, ∃ inet6 target hop, operation = .routeDelete inet6 target hop
  routes : ∃ added, now.routes = start.routes ++ added ∧
    ∀ route ∈ added, ∃ operation ∈ deletions, mac.removal operation route = true
  v6 : ∀ service, switched ≠ some service → now.v6 service = start.v6 service
  dns : ∀ service, (∀ servers, replaced ≠ some (service, servers)) →
    now.dns service = start.dns service
  saved : ∀ service servers, replaced = some (service, servers) → servers = [] ∨
    servers = (start.dns service).filter fun server ↦ isIp server.toList
  kept : ∀ text, backup = some text → start.resolv = some text.toUTF8
  resolv : now.resolv.isSome = start.resolv.isSome

/-- As long as nothing but routes was changed. -/
structure Routed (mac : MacOs) (start : MacHost) (undo : List MacOperation) (now : MacHost) :
    Prop where
  gathered : MacGathered mac start undo none none none now
  resolv : now.resolv = start.resolv

/-- After the IPv6 part of the blacklist branch. -/
def Captured (mac : MacOs) (start : MacHost) (undo : List MacOperation) (now : MacHost) : Prop :=
  ∃ deletions switched, undo = undoOf deletions switched none ∧
    MacGathered mac start deletions switched none none now ∧ now.resolv = start.resolv

/-- At the end of setup. -/
def MacConfigured (mac : MacOs) (start : MacHost) (guard : MacGuard) (now : MacHost) : Prop :=
  ∃ deletions switched replaced, guard.undo = undoOf deletions switched replaced ∧
    MacGathered mac start deletions switched replaced guard.resolvBackup now

/-- When setup fails: routes that were added are left. -/
def Leftover (start now : MacHost) : Prop :=
  ∃ added, now = { start with routes := start.routes ++ added }

section Setup

variable {mac : MacOs} {start : MacHost} {undo : List MacOperation} {state : mac.State}
  {failed : mac.State → Prop}

theorem routed_start (mac : MacOs) (start : MacHost) : Routed mac start [] start where
  gathered :=
    { deletes := fun _ h ↦ absurd h List.not_mem_nil
      routes := ⟨[], (List.append_nil _).symm, fun _ h ↦ absurd h List.not_mem_nil⟩
      v6 := fun _ _ ↦ rfl
      dns := fun _ _ ↦ rfl
      saved := fun _ _ h ↦ absurd h.symm (Option.some_ne_none _)
      kept := fun _ h ↦ absurd h.symm (Option.some_ne_none _)
      resolv := rfl }
  resolv := rfl

namespace Routed

theorem leftover {now : MacHost} (hrouted : Routed mac start undo now) : Leftover start now := by
  obtain ⟨added, hroutes, -⟩ := hrouted.gathered.routes
  use added
  ext1
  · exact hroutes
  · funext service
    exact hrouted.gathered.v6 service (Option.some_ne_none service).symm
  · funext service
    exact hrouted.gathered.dns service fun _ ↦ (Option.some_ne_none _).symm
  · exact hrouted.resolv

theorem captured {now : MacHost} (hrouted : Routed mac start undo now) :
    Captured mac start undo now :=
  ⟨undo, none, (undoOf_none undo).symm, hrouted.gathered, hrouted.resolv⟩

theorem configured {now : MacHost} (hrouted : Routed mac start undo now) :
    MacConfigured mac start ⟨undo, none⟩ now :=
  ⟨undo, none, none, (undoOf_none undo).symm, hrouted.gathered⟩

/-- One more undo command, which matches what was added. -/
theorem record {now next : MacHost} (hrouted : Routed mac start undo now) {inet6 : Bool}
    {target : MacTarget} {hop : Option MacHop} (added : List MacRoute)
    (hnext : next = { now with routes := now.routes ++ added })
    (hremoves : ∀ route ∈ added, mac.removes inet6 target hop route = true) :
    Routed mac start (undo ++ [.routeDelete inet6 target hop]) next := by
  subst hnext
  obtain ⟨before, hroutes, hmatched⟩ := hrouted.gathered.routes
  refine ⟨{ hrouted.gathered with deletes := ?_, routes := ?_ }, hrouted.resolv⟩
  · intro operation hoperation
    obtain hold | hnew := List.mem_append.mp hoperation
    · exact hrouted.gathered.deletes operation hold
    · exact ⟨inet6, target, hop, List.mem_singleton.mp hnew⟩
  · refine ⟨before ++ added, ?_, fun route hroute ↦ ?_⟩
    · show now.routes ++ added = _
      rw [hroutes, List.append_assoc]
    · obtain hold | hnew := List.mem_append.mp hroute
      · obtain ⟨operation, hoperation, hmatch⟩ := hmatched route hold
        exact ⟨operation, List.mem_append_left _ hoperation, hmatch⟩
      · exact ⟨_, List.mem_append_right _ List.mem_cons_self, hremoves route hnew⟩

/-- A `route add` that succeeded, with an undo command for its arguments. -/
theorem added (hrouted : Routed mac start undo (mac.observe state)) {inet6 : Bool}
    {target : MacTarget} {hop : MacHop} {undone : Option MacHop}
    (hundone : undone = none ∨ undone = some hop)
    (hok : (mac.exec (.routeAdd inet6 target hop) state).2 = true) :
    Routed mac start (undo ++ [.routeDelete inet6 target undone])
      (mac.observe (mac.exec (.routeAdd inet6 target hop) state).1) := by
  have hdocumented := mac.documented (.routeAdd inet6 target hop) state
  simp only [MacOperation.Documented, hok, if_true] at hdocumented
  apply hrouted.record [⟨target, hop⟩] hdocumented
  intro route hroute
  rw [List.mem_singleton.mp hroute]
  obtain rfl | rfl := hundone
  · exact (mac.removes_added inet6 target hop).1
  · exact (mac.removes_added inet6 target hop).2

/-- A `route add` that failed. -/
theorem observe_failed {inet6 : Bool} {target : MacTarget} {hop : MacHop}
    (hfailed : ¬(mac.exec (.routeAdd inet6 target hop) state).2 = true) :
    mac.observe (mac.exec (.routeAdd inet6 target hop) state).1 = mac.observe state := by
  have hdocumented := mac.documented (.routeAdd inet6 target hop) state
  simp only [MacOperation.Documented, hfailed] at hdocumented
  exact hdocumented

theorem tryRoute (hrouted : Routed mac start undo (mac.observe state)) (inet6 : Bool)
    (target : MacTarget) (hop : MacHop) :
    (MacScript.tryRoute inet6 target hop undo).Ensures mac.exec
      (fun undo after ↦ Routed mac start undo (mac.observe after)) failed state := by
  refine Script.ensures_act.mpr ?_
  by_cases hok : (mac.exec (.routeAdd inet6 target hop) state).2 = true
  · exact hrouted.added (.inl rfl) hok
  · apply hrouted.record []
    · rw [List.append_nil]
      exact observe_failed hok
    · exact fun _ h ↦ absurd h List.not_mem_nil

theorem capture (hrouted : Routed mac start undo (mac.observe state)) (half : IpPrefix)
    (ifname : String) :
    (MacScript.capture half ifname undo).Ensures mac.exec
      (fun undo after ↦ Routed mac start undo (mac.observe after))
      (fun after ↦ Leftover start (mac.observe after)) state := by
  refine Script.ensures_act.mpr ?_
  by_cases hok : (mac.exec (.routeAdd false (.net half) (.interface ifname)) state).2 = true
  · simp only [hok, if_true]
    exact hrouted.added (.inl rfl) hok
  · simp only [hok]
    show Leftover start (mac.observe (mac.exec _ state).1)
    rw [observe_failed hok]
    exact hrouted.leftover

/-- A look at the default route. -/
theorem look (hrouted : Routed mac start undo (mac.observe state)) (inet6 : Bool) :
    Routed mac start undo (mac.observe (mac.exec (.routeGet inet6) state).1) := by
  have hdocumented := mac.documented (.routeGet inet6) state
  simp only [MacOperation.Documented] at hdocumented
  rw [hdocumented]
  exact hrouted

theorem pinServer (hrouted : Routed mac start undo (mac.observe state)) (serverIp : IpAddr) :
    (MacScript.pinServer serverIp undo).Ensures mac.exec
      (fun undo after ↦ Routed mac start undo (mac.observe after)) failed state := by
  refine Script.ensures_bind.mpr (Script.ensures_act.mpr ?_)
  refine Script.ensures_done.mpr ?_
  cases (mac.exec (.routeGet false) state).2.bind fun reply ↦ gatewayOf reply.2 with
  | none => exact hrouted.look false
  | some gateway => exact (hrouted.look false).tryRoute false _ _

theorem pinServer6 (hrouted : Routed mac start undo (mac.observe state)) (serverIp : IpAddr) :
    (MacScript.pinServer6 serverIp undo).Ensures mac.exec
      (fun undo after ↦ Routed mac start undo (mac.observe after)) failed state := by
  cases serverIp with
  | v4 addr => exact hrouted
  | v6 addr =>
    refine Script.ensures_bind.mpr (Script.ensures_act.mpr ?_)
    refine Script.ensures_done.mpr ?_
    cases (cmdOut (mac.exec (.routeGet true) state).2).bind gatewayOf with
    | none => exact hrouted.look true
    | some gateway => exact (hrouted.look true).tryRoute true _ _

/-- One target of one rule. The undo command has all arguments of the add command. -/
theorem applyRoute {claimed : List Ipv4Net} (hrouted : Routed mac start undo (mac.observe state))
    (peerGateway : Ipv4Addr) (origGateway : Option String) (serverIp : IpAddr) (rule : RouteRule)
    (route : Ipv4Net) :
    (MacScript.applyRoute peerGateway origGateway serverIp rule (claimed, undo) route).Ensures
      mac.exec (fun result after ↦ Routed mac start result.2 (mac.observe after)) failed state := by
  unfold MacScript.applyRoute
  by_cases hpassed : PassedOver serverIp claimed route
  · rw [if_pos hpassed]
    exact hrouted
  · rw [if_neg hpassed]
    cases MacScript.ruleHop peerGateway origGateway rule with
    | none => exact hrouted
    | some hop =>
      refine Script.ensures_act.mpr (Script.ensures_done.mpr ?_)
      by_cases hok : (mac.exec (.routeAdd false (.net (.ofNet route)) hop) state).2 = true
      · simp only [hok, if_true]
        exact hrouted.added (.inr rfl) hok
      · simp only [hok]
        show Routed mac start undo (mac.observe (mac.exec _ state).1)
        rw [observe_failed hok]
        exact hrouted

theorem applyRouteRules (hrouted : Routed mac start [] (mac.observe state)) (resolver : Resolver)
    (cfg : ClientConfig) (peerGateway : Ipv4Addr) (origGateway : Option String)
    (serverIp : IpAddr) :
    (MacScript.applyRouteRules resolver cfg peerGateway origGateway serverIp).Ensures mac.exec
      (fun undo after ↦ Routed mac start undo (mac.observe after)) failed state := by
  have hloop : (cfg.routes.foldlM (fun claimed rule ↦
      (resolveRuleTargets resolver rule.target).foldlM
        (MacScript.applyRoute peerGateway origGateway serverIp rule) claimed)
      (([], []) : List Ipv4Net × List MacOperation)).Ensures mac.exec
        (fun claimed after ↦ Routed mac start claimed.2 (mac.observe after)) failed state := by
    refine Script.ensures_foldlM (fun rule _ claimed before hbefore ↦ ?_) hrouted
    refine Script.ensures_foldlM (fun net _ inner middle hmiddle ↦ ?_) hbefore
    exact hmiddle.applyRoute peerGateway origGateway serverIp rule net
  exact hloop.bind fun claimed after hafter ↦ Script.ensures_pure.mpr hafter

/-- The IPv6 switch of a service, with the command that sets it to automatic. -/
theorem switchOff (hrouted : Routed mac start undo (mac.observe state)) (service : String) :
    Captured mac start (undo ++ [.setV6Automatic service])
      (mac.observe (mac.exec (.setV6Off service) state).1) := by
  have hdocumented := mac.documented (.setV6Off service) state
  refine ⟨undo, some service, by simp [undoOf], ?_⟩
  simp only [MacOperation.Documented] at hdocumented
  by_cases hok : (mac.exec (.setV6Off service) state).2 = true
  · rw [if_pos hok] at hdocumented
    rw [hdocumented]
    refine ⟨{ hrouted.gathered with v6 := fun other hother ↦ ?_ }, hrouted.resolv⟩
    have hne : other ≠ service := fun heq ↦ hother (congrArg some heq.symm)
    exact (Function.update_of_ne hne _ _).trans
      (hrouted.gathered.v6 other (Option.some_ne_none other).symm)
  · rw [if_neg hok] at hdocumented
    rw [hdocumented]
    refine ⟨{ hrouted.gathered with v6 := fun other _ ↦ ?_ }, hrouted.resolv⟩
    exact hrouted.gathered.v6 other (Option.some_ne_none other).symm

theorem capture6 (hrouted : Routed mac start undo (mac.observe state)) (cfg : ClientConfig)
    (welcome : Welcome) (ifname : String) (serverIp : IpAddr) (service : Option String) :
    (MacScript.capture6 cfg welcome ifname serverIp service undo).Ensures mac.exec
      (fun undo after ↦ Captured mac start undo (mac.observe after)) failed state := by
  unfold MacScript.capture6
  by_cases hdual : welcome.assignedIp6.isSome = true
  · rw [if_pos hdual]
    refine (hrouted.pinServer6 serverIp).bind fun pinned _ hpinned ↦ ?_
    refine (hpinned.tryRoute true _ _).bind fun low _ hlow ↦ ?_
    exact (hlow.tryRoute true _ _).imp (fun _ _ hhigh ↦ hhigh.captured) fun _ h ↦ h
  · rw [if_neg hdual]
    by_cases hswitch : cfg.ipv6Killswitch = true
    · rw [if_pos hswitch]
      cases service with
      | none => exact hrouted.captured
      | some service => exact hrouted.switchOff service
    · rw [if_neg hswitch]
      exact hrouted.captured

end Routed

namespace Captured

/-- The resolvers of a service, whose old ones were looked up before. -/
theorem setServiceDns {deletions : List MacOperation} {switched backup : Option String}
    (hgathered : MacGathered mac start deletions switched none backup (mac.observe state))
    (welcome : Welcome) (service : Option String) :
    (MacScript.setServiceDns welcome service (undoOf deletions switched none)).Ensures mac.exec
      (fun undo after ↦ MacConfigured mac start ⟨undo, backup⟩ (mac.observe after)) failed
        state := by
  cases service with
  | none => exact ⟨deletions, switched, none, rfl, hgathered⟩
  | some service =>
    obtain ⟨hlooked, hprinted⟩ := mac.documented (.getDns service) state
    set looked := (mac.exec (.getDns service) state).1 with hlookedState
    set previous : Option Bytes := (mac.exec (.getDns service) state).2 with hprevious
    have hdocumented := mac.documented (.setDns service (MacScript.resolvers welcome)) looked
    simp only [MacOperation.Documented, hlooked] at hdocumented
    refine Script.ensures_act.mpr (Script.ensures_act.mpr (Script.ensures_done.mpr ?_))
    have hold : ∀ other, other ≠ service → (mac.observe
        (mac.exec (.setDns service (MacScript.resolvers welcome)) looked).1).dns other =
          start.dns other := by
      intro other hother
      have hbefore := hgathered.dns other fun _ ↦ (Option.some_ne_none _).symm
      rw [hdocumented]
      by_cases hok : (mac.exec (.setDns service (MacScript.resolvers welcome)) looked).2 = true
      · rw [if_pos hok]
        exact (Function.update_of_ne hother _ _).trans hbefore
      · rw [if_neg hok]
        exact hbefore
    have hsame : ∃ dns, mac.observe
        (mac.exec (.setDns service (MacScript.resolvers welcome)) looked).1 =
          { mac.observe state with dns := dns } := by
      rw [hdocumented]
      by_cases hok : (mac.exec (.setDns service (MacScript.resolvers welcome)) looked).2 = true
      · exact ⟨_, if_pos hok⟩
      · exact ⟨_, if_neg hok⟩
    obtain ⟨dns, hnow⟩ := hsame
    refine ⟨deletions, switched, some (service, (previous.map dnsLines).getD []), ?_, ?_⟩
    · simp [undoOf, hprevious]
    · constructor
      · exact hgathered.deletes
      · rw [hnow]
        exact hgathered.routes
      · rw [hnow]
        exact hgathered.v6
      · intro other hother
        apply hold
        rintro rfl
        exact hother _ rfl
      · rintro other servers hsaved
        obtain ⟨rfl, rfl⟩ := Prod.mk.inj (Option.some.inj hsaved)
        cases houtput : previous with
        | none => exact .inl rfl
        | some output =>
          right
          rw [← hgathered.dns service fun _ ↦ (Option.some_ne_none _).symm]
          exact hprinted output houtput
      · exact hgathered.kept
      · rw [hnow]
        exact hgathered.resolv

theorem setDns (hcaptured : Captured mac start undo (mac.observe state)) (welcome : Welcome)
    (service : Option String) :
    (MacScript.setDns welcome service undo).Ensures mac.exec
      (fun guard after ↦ MacConfigured mac start guard (mac.observe after)) failed state := by
  obtain ⟨deletions, switched, rfl, hgathered, hresolv⟩ := hcaptured
  unfold MacScript.setDns
  by_cases hnone : welcome.dns = [] ∧ welcome.dns6 = []
  · rw [if_pos hnone]
    exact ⟨deletions, switched, none, rfl, hgathered⟩
  · rw [if_neg hnone]
    obtain ⟨hlooked, hread⟩ := mac.documented .readResolv state
    obtain ⟨content, -, hwritten⟩ :=
      mac.documented (.writeResolv (resolvBody welcome)) (mac.exec .readResolv state).1
    rw [hlooked] at hwritten
    refine Script.ensures_act.mpr (Script.ensures_act.mpr ?_)
    have hnext : MacGathered mac start deletions switched none (mac.exec .readResolv state).2
        (mac.observe (mac.exec (.writeResolv (resolvBody welcome))
          (mac.exec .readResolv state).1).1) := by
      rw [hwritten]
      refine { hgathered with kept := fun text htext ↦ ?_, resolv := ?_ }
      · rw [← hresolv]
        exact hread text htext
      · rw [Option.isSome_map]
        exact hgathered.resolv
    exact (setServiceDns hnext welcome service).bind fun _ _ hafter ↦ hafter

end Captured

variable {resolver : Resolver} {cfg : ClientConfig} {welcome : Welcome} {ifname : String}
  {serverIp : IpAddr}

theorem Routed.globalProxy (hrouted : Routed mac start undo (mac.observe state))
    (service : Option String) :
    (MacScript.globalProxy cfg welcome ifname serverIp service undo).Ensures mac.exec
      (fun guard after ↦ MacConfigured mac start guard (mac.observe after))
      (fun after ↦ Leftover start (mac.observe after)) state := by
  refine (hrouted.pinServer serverIp).bind fun pinned _ hpinned ↦ ?_
  cases cfg.splitMode with
  | whitelist => exact hpinned.configured
  | blacklist =>
    refine (hpinned.capture lowHalf ifname).bind fun low _ hlow ↦ ?_
    refine (hlow.capture highHalf ifname).bind fun high _ hhigh ↦ ?_
    refine (hhigh.capture6 cfg welcome ifname serverIp service).bind fun _ _ hcaptured ↦ ?_
    exact hcaptured.setDns welcome service

theorem bringUp_routed (mac : MacOs) (state : mac.State) :
    (MacScript.bringUp welcome ifname).Ensures mac.exec
      (fun _ after ↦ Routed mac (mac.observe state) [] (mac.observe after))
      (fun after ↦ Leftover (mac.observe state) (mac.observe after)) state := by
  have hinet := mac.documented (.ifconfigInet ifname welcome.assignedIp welcome.gateway) state
  have hmtu := mac.documented (.ifconfigMtu ifname welcome.mtu)
    (mac.exec (.ifconfigInet ifname welcome.assignedIp welcome.gateway) state).1
  simp only [MacOperation.Documented] at hinet hmtu
  have hstart := routed_start mac (mac.observe state)
  refine Script.ensures_act.mpr ?_
  by_cases hok :
      (mac.exec (.ifconfigInet ifname welcome.assignedIp welcome.gateway) state).2 = true
  · simp only [hok, if_true]
    refine Script.ensures_act.mpr (Script.ensures_done.mpr ?_)
    rw [hmtu, hinet]
    exact hstart
  · simp only [hok]
    show Leftover (mac.observe state) (mac.observe (mac.exec _ state).1)
    rw [hinet]
    exact hstart.leftover

theorem Routed.assignIp6 (hrouted : Routed mac start undo (mac.observe state)) :
    (MacScript.assignIp6 welcome ifname).Ensures mac.exec
      (fun _ after ↦ Routed mac start undo (mac.observe after)) failed state := by
  unfold MacScript.assignIp6
  cases welcome.assignedIp6 with
  | none => exact hrouted
  | some ip6 =>
    have hinet6 := mac.documented (.ifconfigInet6 ifname ip6 (max welcome.prefix6.toNat 1)) state
    simp only [MacOperation.Documented] at hinet6
    refine Script.ensures_act.mpr (Script.ensures_done.mpr ?_)
    rw [hinet6]
    exact hrouted

theorem Routed.primaryService (hrouted : Routed mac start undo (mac.observe state)) :
    MacScript.primaryService.Ensures mac.exec
      (fun _ after ↦ Routed mac start undo (mac.observe after)) failed state := by
  refine Script.ensures_act.mpr ?_
  cases (cmdOut (mac.exec (.routeGet false) state).2).bind PrimaryService.routeDevice with
  | none => exact hrouted.look false
  | some device =>
    have hlisted := mac.documented .listServices (mac.exec (.routeGet false) state).1
    simp only [MacOperation.Documented] at hlisted
    refine Script.ensures_act.mpr (Script.ensures_done.mpr ?_)
    rw [hlisted]
    exact hrouted.look false

theorem apply_configured (mac : MacOs) (state : mac.State) :
    (MacScript.apply resolver cfg welcome ifname serverIp).Ensures mac.exec
      (fun guard after ↦ MacConfigured mac (mac.observe state) guard (mac.observe after))
      (fun after ↦ Leftover (mac.observe state) (mac.observe after)) state := by
  refine (bringUp_routed mac state).bind fun _ _ hup ↦ ?_
  refine hup.assignIp6.bind fun _ _ haddressed ↦ ?_
  refine Script.ensures_bind.mpr (Script.ensures_act.mpr (Script.ensures_done.mpr ?_))
  refine ((haddressed.look false).applyRouteRules resolver cfg welcome.gateway _
    serverIp).bind fun undo _ hrules ↦ ?_
  refine hrules.primaryService.bind fun service _ hrouted ↦ ?_
  cases cfg.mode with
  | globalProxy => exact hrouted.globalProxy service
  | vpn =>
    refine (hrouted.tryRoute false _ _).bind fun _ _ hsubnet ↦ ?_
    exact Script.ensures_pure.mpr hsubnet.configured
  | httpProxy => exact hrouted.configured
  | systemProxy => exact hrouted.configured

/-! ### What the commands of the guard do -/

theorem restore_deletions {deletions : List MacOperation} (host : MacHost)
    (hdeletes : ∀ operation ∈ deletions,
      ∃ inet6 target hop, operation = .routeDelete inet6 target hop) :
    deletions.foldl mac.restore host =
      { host with routes := unmatched (deletions.map mac.removal) host.routes } := by
  induction deletions generalizing host with
  | nil =>
    ext1
    · exact (List.filter_eq_self.mpr fun _ _ ↦ rfl).symm
    all_goals rfl
  | cons operation deletions ih =>
    obtain ⟨inet6, target, hop, rfl⟩ := hdeletes operation List.mem_cons_self
    rw [List.foldl_cons, ih _ fun other hother ↦ hdeletes other (List.mem_cons_of_mem _ hother),
      List.map_cons, unmatched_cons]
    rfl

/-- The host after the undo commands. -/
theorem restore_undoOf (deletions : List MacOperation) (switched : Option String)
    (replaced : Option (String × List String)) (host : MacHost)
    (hdeletes : ∀ operation ∈ deletions,
      ∃ inet6 target hop, operation = .routeDelete inet6 target hop) :
    (undoOf deletions switched replaced).foldl mac.restore host =
      ⟨unmatched (deletions.map mac.removal) host.routes,
        putBack (switched.map (·, .automatic)) host.v6, putBack replaced host.dns,
        host.resolv⟩ := by
  rw [undoOf, List.foldl_append, List.foldl_append, restore_deletions host hdeletes]
  cases switched with
  | none =>
    cases replaced with
    | none => rfl
    | some saved => rfl
  | some service =>
    cases replaced with
    | none => rfl
    | some saved => rfl

/-- The content of `resolv.conf` after the teardown. -/
def restoredResolv (backup : Option String) (resolv : Option ByteArray) : Option ByteArray :=
  backup.elim resolv fun text ↦ resolv.map fun _ ↦ text.toUTF8

theorem restore_commands (guard : MacGuard) (host : MacHost) :
    guard.commands.foldl mac.restore host =
      { guard.undo.foldl mac.restore host with
        resolv := restoredResolv guard.resolvBackup
          (guard.undo.foldl mac.restore host).resolv } := by
  rw [MacGuard.commands, List.foldl_append]
  cases guard.resolvBackup with
  | none => rfl
  | some text => rfl

theorem restoredResolv_eq_iff {backup : Option String} {now before : Option ByteArray}
    (hkept : ∀ text, backup = some text → before = some text.toUTF8)
    (hthere : now.isSome = before.isSome) :
    restoredResolv backup now = before ↔ (backup = none → now = before) := by
  cases backup with
  | none => simp [restoredResolv]
  | some text =>
    have hbefore := hkept text rfl
    rw [hbefore, Option.isSome_some, Option.isSome_iff_exists] at hthere
    obtain ⟨content, hcontent⟩ := hthere
    simp [restoredResolv, hcontent, hbefore]

theorem mem_undoOf {deletions : List MacOperation} {switched : Option String}
    {replaced : Option (String × List String)} {operation : MacOperation} :
    operation ∈ undoOf deletions switched replaced ↔ operation ∈ deletions ∨
      (∃ service, switched = some service ∧ operation = .setV6Automatic service) ∨
        ∃ service servers, replaced = some (service, servers) ∧
          operation = .setDns service servers := by
  rw [undoOf, List.mem_append, List.mem_append, or_assoc]
  simp only [Option.mem_toList, Option.map_eq_some_iff, Prod.exists, @eq_comm _ _ operation]

/-- The undo commands about IPv6 and the resolvers are the ones that were recorded last. -/
theorem mem_undoOf_settings {deletions : List MacOperation} {switched : Option String}
    {replaced : Option (String × List String)}
    (hdeletes : ∀ operation ∈ deletions,
      ∃ inet6 target hop, operation = .routeDelete inet6 target hop) :
    (∀ service, .setV6Automatic service ∈ undoOf deletions switched replaced ↔
      switched = some service) ∧
    ∀ service servers, .setDns service servers ∈ undoOf deletions switched replaced ↔
      replaced = some (service, servers) := by
  constructor
  · intro service
    rw [mem_undoOf]
    constructor
    · rintro (hdeletion | ⟨other, hother, heq⟩ | ⟨_, _, -, heq⟩)
      · obtain ⟨_, _, _, heq⟩ := hdeletes _ hdeletion
        cases heq
      · cases heq
        exact hother
      · cases heq
    · exact fun h ↦ .inr (.inl ⟨service, h, rfl⟩)
  · intro service servers
    rw [mem_undoOf]
    constructor
    · rintro (hdeletion | ⟨_, -, heq⟩ | ⟨_, _, hother, heq⟩)
      · obtain ⟨_, _, _, heq⟩ := hdeletes _ hdeletion
        cases heq
      · cases heq
      · cases heq
        exact hother
    · exact fun h ↦ .inr (.inr ⟨service, servers, h, rfl⟩)

end Setup

/-! ### A session -/

/-- When the commands of the guard bring back what the host was before. `now` is the host that setup
has left. -/
structure Restorable (mac : MacOs) (before now : MacHost) (guard : MacGuard) : Prop where
  routes : ∀ route ∈ before.routes, ∀ operation ∈ guard.undo, mac.removal operation route = false
  v6 : ∀ service, .setV6Automatic service ∈ guard.undo → before.v6 service = .automatic
  dns : ∀ service servers, .setDns service servers ∈ guard.undo → before.dns service = servers
  resolv : guard.resolvBackup = none → now.resolv = before.resolv

theorem restorable_iff {mac : MacOs} {before now : MacHost} {guard : MacGuard}
    (hconfigured : MacConfigured mac before guard now) :
    guard.commands.foldl mac.restore now = before ↔ Restorable mac before now guard := by
  obtain ⟨deletions, switched, replaced, hundo, hgathered⟩ := hconfigured
  obtain ⟨hswitched, hreplaced⟩ := @mem_undoOf_settings deletions switched replaced
    hgathered.deletes
  have hroutes : unmatched (deletions.map mac.removal) now.routes = before.routes ↔
      ∀ route ∈ before.routes, ∀ operation ∈ guard.undo, mac.removal operation route = false := by
    obtain ⟨added, hadded, hmatched⟩ := hgathered.routes
    have hremovals : ∀ route ∈ added, ∃ removal ∈ deletions.map mac.removal,
        removal route = true := by
      intro route hroute
      obtain ⟨operation, hoperation, hremoves⟩ := hmatched route hroute
      exact ⟨_, List.mem_map.mpr ⟨operation, hoperation, rfl⟩, hremoves⟩
    rw [hadded, unmatched_append hremovals, unmatched_eq_self_iff, hundo]
    refine forall₂_congr fun route _ ↦ ?_
    rw [List.forall_mem_map]
    constructor
    · intro hdeletions operation hoperation
      obtain hdeletion | ⟨_, -, rfl⟩ | ⟨_, _, -, rfl⟩ := mem_undoOf.mp hoperation
      · exact hdeletions operation hdeletion
      · rfl
      · rfl
    · exact fun hall operation hoperation ↦ hall operation (mem_undoOf.mpr (.inl hoperation))
  have hv6 : putBack (switched.map (·, V6Mode.automatic)) now.v6 = before.v6 ↔
      ∀ service, .setV6Automatic service ∈ guard.undo → before.v6 service = .automatic := by
    rw [putBack_eq_iff fun service hservice ↦ hgathered.v6 service ?_]
    · simp only [hundo, hswitched, Option.map_eq_some_iff, Prod.mk.injEq]
      constructor
      · exact fun h service hservice ↦ h service _ ⟨service, hservice, rfl, rfl⟩
      · rintro h service _ ⟨_, hservice, rfl, rfl⟩
        exact h _ hservice
    · rintro rfl
      exact hservice V6Mode.automatic rfl
  have hdns : putBack replaced now.dns = before.dns ↔
      ∀ service servers, .setDns service servers ∈ guard.undo → before.dns service = servers := by
    simp only [hundo, hreplaced]
    exact putBack_eq_iff hgathered.dns
  have hresolv := restoredResolv_eq_iff hgathered.kept hgathered.resolv
  rw [restore_commands, hundo, restore_undoOf deletions switched replaced now hgathered.deletes,
    MacHost.ext_iff]
  constructor
  · rintro ⟨hone, htwo, hthree, hfour⟩
    exact ⟨hroutes.mp hone, hv6.mp htwo, hdns.mp hthree, hresolv.mp hfour⟩
  · rintro ⟨hone, htwo, hthree, hfour⟩
    exact ⟨hroutes.mpr hone, hv6.mpr htwo, hdns.mpr hthree, hresolv.mpr hfour⟩

/-- What a session on macOS does to the host. When setup fails, routes that it has added are left
and nothing else was changed. When it succeeds and the commands of the teardown do what they are
for, the host is as before exactly if no undo command matches a route of before, IPv6 was automatic
where it was switched off, and the resolvers and `resolv.conf` were saved as they were. -/
theorem macos_restored_iff (mac : MacOs) (resolver : Resolver) (cfg : ClientConfig)
    (welcome : Welcome) (ifname : String) (serverIp : IpAddr) {state after : mac.State}
    {result : Option MacGuard}
    (happly : (MacScript.apply resolver cfg welcome ifname serverIp).alone mac.exec state =
      (after, result)) :
    (result = none ∧ Leftover (mac.observe state) (mac.observe after)) ∨
      ∃ guard, result = some guard ∧ (mac.Settles guard.commands after →
        (mac.observe ((MacScript.drop guard).alone mac.exec after).1 = mac.observe state ↔
          Restorable mac (mac.observe state) (mac.observe after) guard)) := by
  have hensures := @apply_configured resolver cfg welcome ifname serverIp mac state
  cases result with
  | none => exact .inl ⟨rfl, hensures.of_none happly⟩
  | some guard =>
    refine .inr ⟨guard, rfl, fun hsettles ↦ ?_⟩
    rw [drop_alone, observe_after hsettles]
    exact restorable_iff (hensures.of_some happly)

/-! ### A service with a fixed IPv6 address -/

section Example

def homeRemoves : MacRemoves := fun _ target hop route ↦
  route.target = target && hop.all fun hop ↦ route.hop = hop

/-- The commands on a host with the service `Wi-Fi`, where the file is not there. -/
def homeExec : (operation : MacOperation) → MacHost → MacHost × operation.Reply
  | .ifconfigInet _ _ _, host | .ifconfigMtu _ _, host | .ifconfigInet6 _ _ _, host => (host, true)
  | .routeGet false, host =>
    (host, some (true, "gateway: 192.168.1.1\ninterface: en0\n".toUTF8.toList))
  | .routeGet true, host => (host, some (false, []))
  | .listServices, host =>
    (host, some "(1) Wi-Fi\n(Hardware Port: Wi-Fi, Device: en0)\n".toUTF8.toList)
  | .routeAdd _ target hop, host => ({ host with routes := host.routes ++ [⟨target, hop⟩] }, true)
  | .routeDelete inet6 target hop, host =>
    ({ host with
        routes := host.routes.filter fun route ↦ !homeRemoves inet6 target hop route }, true)
  | .setV6Off service, host =>
    ({ host with v6 := Function.update host.v6 service .off }, true)
  | .setV6Automatic service, host =>
    ({ host with v6 := Function.update host.v6 service .automatic }, true)
  | .getDns _, host => (host, none)
  | .setDns service servers, host =>
    ({ host with dns := Function.update host.dns service servers }, true)
  | .readResolv, host => (host, none)
  | .writeResolv body, host =>
    ({ host with resolv := host.resolv.map fun _ ↦ body.toUTF8 }, true)

/-- A macOS host at home. -/
def homeMac : MacOs where
  State := MacHost
  exec := homeExec
  observe := id
  removes := homeRemoves
  removes_added inet6 target hop := by simp [homeRemoves]
  documented operation state := by
    cases operation with
    | routeGet inet6 => cases inet6 <;> rfl
    | getDns service => exact ⟨rfl, fun _ h ↦ absurd h.symm (Option.some_ne_none _)⟩
    | readResolv => exact ⟨rfl, fun _ h ↦ absurd h.symm (Option.some_ne_none _)⟩
    | writeResolv body => exact ⟨body.toUTF8, fun _ ↦ rfl, rfl⟩
    | _ => rfl

/-- IPv6 is configured by hand. -/
def homeHost : MacHost where
  routes := []
  v6 := fun _ ↦ .manual
  dns := fun _ ↦ []
  resolv := none

/-- The IPv6 switch-off is undone to `automatic`, which is not what it was. -/
theorem macos_restored_home : ∃ (after : MacHost) (guard : MacGuard),
    (MacScript.apply calmEnvironment.resolver { mode := .globalProxy } ipv4Welcome "utun4"
      (.v4 (ipv4 203 0 113 5))).alone homeMac.exec homeHost = (after, some guard) ∧
    homeMac.Settles guard.commands after ∧
    homeMac.observe ((MacScript.drop guard).alone homeMac.exec after).1 ≠
      homeMac.observe homeHost := by
  have hresult : ((MacScript.apply calmEnvironment.resolver { mode := .globalProxy } ipv4Welcome
      "utun4" (.v4 (ipv4 203 0 113 5))).alone homeExec homeHost).2 =
        some ⟨[.routeDelete false (.host (.v4 (ipv4 203 0 113 5))) none,
          .routeDelete false (.net lowHalf) none, .routeDelete false (.net highHalf) none,
          .setV6Automatic "Wi-Fi"], none⟩ := by
    decide +kernel
  obtain ⟨after, hafter⟩ : ∃ after, (MacScript.apply calmEnvironment.resolver
      { mode := .globalProxy } ipv4Welcome "utun4"
      (.v4 (ipv4 203 0 113 5))).alone homeExec homeHost = (after, some _) :=
    ⟨_, Prod.ext rfl hresult⟩
  have hsettles : homeMac.Settles [.routeDelete false (.host (.v4 (ipv4 203 0 113 5))) none,
      .routeDelete false (.net lowHalf) none, .routeDelete false (.net highHalf) none,
      .setV6Automatic "Wi-Fi"] after := ⟨trivial, trivial, trivial, rfl, trivial⟩
  refine ⟨after, _, hafter, hsettles, ?_⟩
  obtain ⟨hfailed, -⟩ | ⟨guard, hguard, hrestored⟩ :=
    macos_restored_iff homeMac calmEnvironment.resolver { mode := .globalProxy } ipv4Welcome
      "utun4" _ hafter
  · cases hfailed
  · obtain rfl := Option.some.inj hguard
    rw [Ne, hrestored hsettles]
    intro hrestorable
    have hmanual := hrestorable.v6 "Wi-Fi" (by decide)
    cases hmanual

end Example

end EntroTunnel.Client
