import EntroTunnel.Client.SetupOutcome

/-!
# The route of the carrier

The tunnel's own packets to the server must keep going out through a physical interface.
`CarrierCaptured` says that after setup the longest-prefix lookup of the server's address selects
the TUN or an unreachable route that setup installed. `not_carrierCaptured_iff` gives the exact
condition under which a successful `apply` avoids it: the server's address is pinned
(`CarrierPinned`), or no TUN or unreachable route that setup adds reaches further than the physical
routes to the server (`Overreached`).

The pin is in force for an IPv4 server in global-proxy mode whose default route has a gateway, and
for an IPv6 server only in the blacklist branch with a server that offers IPv6. Without it the
second condition fails in ordinary configurations: `carrierCaptured_without_gateway` is a host with
a point-to-point default route.
-/

set_option autoImplicit false
set_option relaxedAutoImplicit false

namespace EntroTunnel.Client

open EntroTunnel.Core EntroTunnel.Foundation

/-- The route leads out through an interface other than the TUN. -/
def Route.Physical (ifname : String) (route : Route) : Prop :=
  ∃ dev, route.hop.device = some dev ∧ dev ≠ ifname

theorem Route.Physical.not_boundTo {ifname : String} {route : Route}
    (hphysical : route.Physical ifname) : ¬ route.BoundTo ifname := by
  obtain ⟨dev, hdevice, hdiffers⟩ := hphysical
  rw [BoundTo, hdevice, Option.some.injEq]
  exact hdiffers

/-- A route is physical, bound to the TUN, or unreachable. -/
theorem Route.boundTo_or_unreachable {ifname : String} {route : Route}
    (hnot : ¬ route.Physical ifname) : route.BoundTo ifname ∨ route.hop = .unreachable := by
  obtain ⟨dst, hop⟩ := route
  cases hop with
  | via gateway dev =>
    exact Or.inl (congrArg some (not_not.mp fun h ↦ hnot ⟨dev, rfl, h⟩))
  | onLink dev => exact Or.inl (congrArg some (not_not.mp fun h ↦ hnot ⟨dev, rfl, h⟩))
  | unreachable => exact Or.inr rfl

/-- After setup the lookup of the server's address selects the TUN, or an unreachable route that was
not in the table before. -/
def CarrierCaptured (ifname : String) (before after : Host) (serverIp : IpAddr) : Prop :=
  ∃ route, after.resolve serverIp = some route ∧
    (route.BoundTo ifname ∨ route.hop = .unreachable ∧ route ∉ before.routes)

/-- The server's address is reachable through a physical interface. -/
def ReachesServer (ifname : String) (host : Host) (serverIp : IpAddr) : Prop :=
  ∃ route, host.resolve serverIp = some route ∧ route.Physical ifname

section Carrier

variable (env : Environment) (cfg : ClientConfig) (welcome : Welcome) (ifname : String)
  (serverIp : IpAddr) (host : Host)

/-- The routes that setup adds: the connected routes of the TUN's addresses, and the planned
additions that take effect. -/
def SetupAdds (route : Route) : Prop :=
  route ∈ connected env welcome ifname ∨
    ∃ addition ∈ plan env cfg welcome ifname serverIp host,
      addition.TakesEffect env (baseRoutes env welcome ifname host) ∧ addition.route = route

/-- The server's address is pinned to a physical gateway. For IPv4: global-proxy mode, a default
route with an IPv4 gateway on another interface, and a pin command that does not fail. For IPv6: the
blacklist branch with an assigned IPv6 address, and the same for the IPv6 default route and pin. The
TUN does not hold the server's address as its own subnet. -/
def CarrierPinned : Prop :=
  serverIp.word ∉ (connected env welcome ifname).map Route.dst ∧
    match serverIp with
    | .v4 _ =>
      cfg.mode = .globalProxy ∧ env.refuses .pin = false ∧
        ∃ gateway dev, defaultRoute env host = some (.v4 gateway, dev) ∧ dev ≠ ifname
    | .v6 _ =>
      CapturesAll cfg ∧ welcome.assignedIp6.isSome ∧ env.refuses .pin6 = false ∧
        ∃ gateway dev, defaultRoute6 env host = some (.v6 gateway, dev) ∧ dev ≠ ifname

/-- Some TUN or unreachable route that setup adds covers the server's address and is longer than
every physical route to it, whether that was there before or was added for a rule. -/
def Overreached : Prop :=
  ∃ taken, SetupAdds env cfg welcome ifname serverIp host taken ∧ ¬ taken.Physical ifname ∧
    taken.dst <+: serverIp.word ∧
    ∀ physical, physical ∈ host.routes ∨ SetupAdds env cfg welcome ifname serverIp host physical →
      physical.Physical ifname → physical.dst <+: serverIp.word →
        physical.dst.length < taken.dst.length

variable {env cfg welcome ifname serverIp host}

/-- The two connected routes belong to different families. -/
theorem connected_nodup (env : Environment) (welcome : Welcome) (ifname : String) :
    ((connected env welcome ifname).map Route.dst).Nodup := by
  rw [connected, List.map_append]
  have hone : ∀ option : Option Route, (option.toList.map Route.dst).Nodup := fun option ↦ by
    cases option <;> simp
  refine List.nodup_append.mpr ⟨hone _, ?_, fun first hfirst second hsecond ↦ ?_⟩
  · split
    · split_ifs
      · exact hone _
      · exact List.nodup_nil
    · exact List.nodup_nil
  · obtain ⟨route, hroute, rfl⟩ := List.mem_map.mp hfirst
    obtain ⟨other, hother, rfl⟩ := List.mem_map.mp hsecond
    rw [connectedRoute_dst hroute]
    split at hother
    · split_ifs at hother
      · rw [connectedRoute_dst hother]
        exact fun h ↦ Bool.false_ne_true (List.cons.inj h).1
      · exact absurd hother List.not_mem_nil
    · exact absurd hother List.not_mem_nil

/-- The table after a successful `apply` is the one before it, followed by the routes that setup
adds, which have pairwise distinct prefixes. -/
theorem exists_setupAdds {final : Setup}
    (happly : apply env cfg welcome ifname serverIp host = .ok final) :
    ∃ more : List Route, final.host.routes = host.routes ++ more ∧ (more.map Route.dst).Nodup ∧
      (∀ route, route ∈ more ↔ SetupAdds env cfg welcome ifname serverIp host route) ∧
      ∀ route ∈ more, route.hop = .unreachable → route ∉ host.routes := by
  refine ⟨connected env welcome ifname ++ added env (baseRoutes env welcome ifname host)
    (plan env cfg welcome ifname serverIp host), ?_, ?_, fun route ↦ ?_, fun route hroute hhop ↦ ?_⟩
  · rw [(apply_ok happly).routes, baseRoutes, List.append_assoc]
  · rw [List.map_append]
    refine List.nodup_append.mpr ⟨connected_nodup env welcome ifname,
      nodup_map_added _ _ _, fun first hfirst second hsecond hsame ↦ ?_⟩
    obtain ⟨route, hroute, rfl⟩ := List.mem_map.mp hsecond
    refine dst_notMem_of_mem_installed hroute ?_
    rw [← hsame, baseRoutes, List.map_append]
    exact List.mem_append_right _ hfirst
  · rw [List.mem_append, mem_added_plan happly, SetupAdds]
  · rcases List.mem_append.mp hroute with hconnected | hadded
    · have hbound := connected_boundTo hconnected
      rw [Route.BoundTo, hhop] at hbound
      cases hbound
    · intro hbefore
      refine dst_notMem_of_mem_installed hadded (List.mem_map_of_mem ?_)
      exact List.mem_append_left _ hbefore

/-- Without regard to the pin: the carrier stays physical exactly when no route that setup adds
overreaches. -/
theorem not_carrierCaptured_iff_not_overreached {final : Setup}
    (happly : apply env cfg welcome ifname serverIp host = .ok final)
    (hreaches : ReachesServer ifname host serverIp) :
    ¬ CarrierCaptured ifname host final.host serverIp ↔
      ¬ Overreached env cfg welcome ifname serverIp host := by
  obtain ⟨old, hold, hphysical⟩ := hreaches
  obtain ⟨more, hroutes, hdistinct, hmore, hfresh⟩ := exists_setupAdds happly
  have hgood : (∃ new, final.host.resolve serverIp = some new ∧ new.Physical ifname) ↔
      ¬ CarrierCaptured ifname host final.host serverIp := by
    constructor
    · rintro ⟨new, hnew, hphysicalNew⟩ ⟨route, hroute, hcaptured⟩
      rw [hnew, Option.some.injEq] at hroute
      subst hroute
      rcases hcaptured with hbound | ⟨hhop, -⟩
      · exact hphysicalNew.not_boundTo hbound
      · obtain ⟨dev, hdevice, -⟩ := hphysicalNew
        rw [hhop] at hdevice
        exact absurd hdevice nofun
    · intro hnot
      obtain ⟨hmem, hcovers⟩ := lookup_mem hold
      obtain ⟨new, hnew⟩ : ∃ new, final.host.resolve serverIp = some new := by
        rw [Host.resolve, hroutes]
        exact exists_lookup (List.mem_append_left _ hmem) hcovers
      refine ⟨new, hnew, ?_⟩
      by_contra hnotPhysical
      have hselected := hnew
      rw [Host.resolve, hroutes] at hselected
      rcases lookup_append_cases hold hselected with rfl | ⟨hadded, -⟩
      · exact hnotPhysical hphysical
      · refine hnot ⟨new, hnew, (Route.boundTo_or_unreachable hnotPhysical).imp_right fun hhop ↦ ?_⟩
        exact ⟨hhop, hfresh new hadded hhop⟩
  rw [← hgood, Host.resolve, hroutes, exists_lookup_append_iff hold hphysical hdistinct]
  constructor
  · rintro hbound ⟨taken, hadds, hnotPhysical, hcovers, hlonger⟩
    rcases hbound taken ((hmore taken).mpr hadds) hnotPhysical hcovers with
      hle | ⟨good, hgoodAdds, hgoodPhysical, hgoodCovers, hlt⟩
    · have := hlonger old (Or.inl (lookup_mem hold).1) hphysical (lookup_mem hold).2
      omega
    · have := hlonger good (Or.inr ((hmore good).mp hgoodAdds)) hgoodPhysical hgoodCovers
      omega
  · intro hnot taken htaken hnotPhysical hcovers
    by_contra hbound
    rw [not_or, not_le] at hbound
    refine hnot ⟨taken, (hmore taken).mp htaken, hnotPhysical, hcovers, ?_⟩
    rintro physical (hbefore | hadds) hisPhysical hphysicalCovers
    · exact lt_of_le_of_lt (le_of_lookup hold hbefore hphysicalCovers) hbound.1
    · have hadded := (hmore physical).mpr hadds
      refine lt_of_le_of_ne (not_lt.mp fun hlt ↦
        hbound.2 ⟨physical, hadded, hisPhysical, hphysicalCovers, hlt⟩) fun hlength ↦ ?_
      have hsame := List.inj_on_of_nodup_map hdistinct hadded htaken
        (prefix_eq_of_length hphysicalCovers hcovers hlength)
      exact hnotPhysical (hsame ▸ hisPhysical)

/-- The addition that pins the carrier, when it is pinned. -/
theorem CarrierPinned.exists_addition
    (hpinned : CarrierPinned env cfg welcome ifname serverIp host) :
    ∃ addition ∈ plan env cfg welcome ifname serverIp host,
      addition.Possible env ∧ addition.dst.word = serverIp.word ∧
        addition.route.Physical ifname := by
  obtain ⟨-, hpin⟩ := hpinned
  cases serverIp with
  | v4 addr =>
    obtain ⟨hmode, hrefused, gateway, dev, horig, hdev⟩ := hpin
    refine ⟨⟨.pin, ⟨.v4 addr, 32⟩, .via (.v4 gateway) dev⟩, ?_, ⟨hrefused, le_rfl, rfl, ?_⟩,
      IpPrefix.word_full (.v4 addr), dev, rfl, hdev⟩
    · rw [plan, frontPlan, modePin, if_pos hmode, horig]
      simp [pinPlan]
    · change true ∉ (bits addr).drop 32
      rw [List.drop_of_length_le (length_bits addr).le]
      exact List.not_mem_nil
  | v6 addr =>
    obtain ⟨hall, hassigned, hrefused, gateway, dev, horig, hdev⟩ := hpin
    refine ⟨⟨.pin6, ⟨.v6 addr, 128⟩, .via (.v6 gateway) dev⟩, ?_, ⟨hrefused, le_rfl, rfl, trivial⟩,
      IpPrefix.word_full (.v6 addr), dev, rfl, hdev⟩
    rw [plan, backPlan, if_pos hall, plan6, if_pos hassigned, horig]
    simp [pin6Plan]

/-- A pinned carrier is not overreached: no route is longer than the pin, or than the route that
was there in its place. -/
theorem CarrierPinned.not_overreached
    (hpinned : CarrierPinned env cfg welcome ifname serverIp host)
    (hreaches : ReachesServer ifname host serverIp) :
    ¬ Overreached env cfg welcome ifname serverIp host := by
  rintro ⟨taken, -, -, hcovers, hlonger⟩
  have hmost := hcovers.length_le
  obtain ⟨addition, haddition, hpossible, hword, hphysical⟩ := hpinned.exists_addition
  have hfull : addition.route.dst = serverIp.word := hword
  by_cases hkey : serverIp.word ∈ (baseRoutes env welcome ifname host).map Route.dst
  · obtain ⟨old, hold, holdPhysical⟩ := hreaches
    rw [baseRoutes, List.map_append, List.mem_append] at hkey
    obtain ⟨route, hroute, hdst⟩ := List.mem_map.mp (hkey.resolve_right hpinned.1)
    have hle := le_of_lookup hold hroute (hdst ▸ List.prefix_rfl)
    have hlt := hlonger old (Or.inl (lookup_mem hold).1) holdPhysical (lookup_mem hold).2
    rw [hdst] at hle
    omega
  · have hlt := hlonger addition.route
      (Or.inr (Or.inr ⟨addition, haddition, ⟨hpossible, hword ▸ hkey⟩, rfl⟩)) hphysical
      (hfull ▸ List.prefix_rfl)
    rw [hfull] at hlt
    omega

/-- When a successful `apply` keeps the carrier out of the tunnel: the server's address is pinned,
or no TUN or unreachable route that setup adds is longer than every physical route to the server.
Assumes: the server was reachable through a physical interface. -/
theorem not_carrierCaptured_iff {final : Setup}
    (happly : apply env cfg welcome ifname serverIp host = .ok final)
    (hreaches : ReachesServer ifname host serverIp) :
    ¬ CarrierCaptured ifname host final.host serverIp ↔
      CarrierPinned env cfg welcome ifname serverIp host ∨
        ¬ Overreached env cfg welcome ifname serverIp host := by
  rw [not_carrierCaptured_iff_not_overreached happly hreaches]
  exact ⟨Or.inr, fun h ↦ h.elim (fun hpinned ↦ hpinned.not_overreached hreaches) id⟩

end Carrier

/-- A full tunnel on a host behind an IPv4 router. -/
theorem not_carrierCaptured_iff_routedHost :
    ∃ final, apply calmEnvironment { mode := .globalProxy } ipv4Welcome "et0"
        (.v4 (ipv4 203 0 113 7)) routedHost = .ok final ∧
      (¬ CarrierCaptured "et0" routedHost final.host (.v4 (ipv4 203 0 113 7)) ↔
        CarrierPinned calmEnvironment { mode := .globalProxy } ipv4Welcome "et0"
            (.v4 (ipv4 203 0 113 7)) routedHost ∨
          ¬ Overreached calmEnvironment { mode := .globalProxy } ipv4Welcome "et0"
            (.v4 (ipv4 203 0 113 7)) routedHost) := by
  refine ⟨_, rfl, not_carrierCaptured_iff rfl
    ⟨⟨[false], .via (.v4 (ipv4 192 168 1 1)) "eth0"⟩, ?_, "eth0", rfl, by decide⟩⟩
  decide +kernel

/-- A host with a point-to-point default route, which names no gateway. -/
def dialupHost : Host where
  routes := [⟨[false], .onLink "ppp0"⟩]
  resolv := none

/-- Behind a default route without a gateway no pin is attempted, and the captures take the
carrier. -/
theorem carrierCaptured_without_gateway :
    ∃ final, apply calmEnvironment { mode := .globalProxy } ipv4Welcome "et0"
        (.v4 (ipv4 203 0 113 7)) dialupHost = .ok final ∧
      ReachesServer "et0" dialupHost (.v4 (ipv4 203 0 113 7)) ∧
      CarrierCaptured "et0" dialupHost final.host (.v4 (ipv4 203 0 113 7)) := by
  refine ⟨_, rfl, ⟨⟨[false], .onLink "ppp0"⟩, ?_, "ppp0", rfl, by decide⟩,
    ⟨⟨[false, true], .onLink "et0"⟩, ?_, Or.inl rfl⟩⟩
  · decide +kernel
  · decide +kernel

end EntroTunnel.Client
