import EntroTunnel.Client.CarrierRoute

/-!
# Capture of all traffic

In global-proxy mode with the blacklist split and the IPv6 kill-switch on, a successful setup should
leave no way around the tunnel. `FullyCaptured` says so for both families: an IPv4 destination
without a more specific route resolves to the TUN, and an off-link IPv6 destination to the TUN or to
an unreachable route, the pinned carrier excepted.

The IPv4 half holds in every run, because a capture route that cannot be added ends `apply` with an
error (`resolve_v4_boundTo`). The IPv6 commands are best-effort, so `fullyCaptured_iff` has a
condition: no exposed destination lies in a half whose command was refused. `leaks_when_refused` is
a run that reports success and leaves the host's IPv6 default route in use.
-/

set_option autoImplicit false
set_option relaxedAutoImplicit false

namespace EntroTunnel.Client

open EntroTunnel.Core EntroTunnel.Foundation

/-- An address lies in the half that its leading bit names. -/
theorem half_prefix_bits {w : ℕ} (hw : 0 < w) (addr : BitVec w) : [addr.msb] <+: bits addr := by
  obtain ⟨n, rfl⟩ : ∃ n, w = n + 1 := ⟨w - 1, by omega⟩
  rw [bits, List.ofFn_succ]
  exact ⟨_, rfl⟩

section Capture

variable (env : Environment) (cfg : ClientConfig) (welcome : Welcome) (ifname : String)
  (serverIp : IpAddr) (host : Host)

/-- Every IPv6 route through a gateway is a default route. -/
def OnlyDefaultOffLink : Prop :=
  ∀ route ∈ host.routes, route.dst.head? = some true →
    ∀ gateway dev, route.hop = .via gateway dev → route.dst = [true]

/-- No connected prefix covers the destination. -/
def OffLink (addr : Ipv6Addr) : Prop :=
  ∀ route ∈ host.routes, route.dst <+: IpAddr.word (.v6 addr) →
    ∀ dev, route.hop = .onLink dev → route.dst = [true]

/-- The address is the server's and its pin has taken effect. -/
def PinnedCarrier (addr : IpAddr) : Prop :=
  ∃ addition ∈ plan env cfg welcome ifname serverIp host,
    (addition.site = .pin ∨ addition.site = .pin6) ∧
      addition.TakesEffect env (baseRoutes env welcome ifname host) ∧
        addition.dst.word = addr.word

/-- A pre-existing route or a rule route that is more specific than a half covers the destination.
-/
def CoveredBySpecific (addr : Ipv4Addr) : Prop :=
  (∃ route ∈ host.routes, route.dst <+: IpAddr.word (.v4 addr) ∧ 2 < route.dst.length) ∨
    ∃ addition ∈ rulesPlan env cfg ifname serverIp host,
      addition.TakesEffect env (baseRoutes env welcome ifname host) ∧
        addition.dst.word <+: IpAddr.word (.v4 addr) ∧ 2 < addition.dst.word.length

/-- No way around the tunnel is left. -/
structure FullyCaptured (after : Host) : Prop where
  v4 : ∀ addr : Ipv4Addr, ¬ CoveredBySpecific env cfg welcome ifname serverIp host addr →
    ¬ PinnedCarrier env cfg welcome ifname serverIp host (.v4 addr) →
      ∃ route, after.resolve (.v4 addr) = some route ∧ route.BoundTo ifname
  v6 : ∀ addr : Ipv6Addr, OffLink host addr →
    ¬ PinnedCarrier env cfg welcome ifname serverIp host (.v6 addr) →
      ∃ route, after.resolve (.v6 addr) = some route ∧
        (route.BoundTo ifname ∨ route.hop = .unreachable)

/-- The addition for the half that holds an IPv6 destination. -/
def half6 (addr : Ipv6Addr) : Addition :=
  if welcome.assignedIp6.isSome then
    if addr.msb then ⟨.capture6High, highHalf6, .onLink ifname⟩
    else ⟨.capture6Low, lowHalf6, .onLink ifname⟩
  else
    if addr.msb then ⟨.blockHigh, highHalf6, .unreachable⟩
    else ⟨.blockLow, lowHalf6, .unreachable⟩

/-- Once the TUN has its addresses, and before the halves, the destination resolves to a physical
route or to none. -/
def Exposed (addr : Ipv6Addr) : Prop :=
  ∀ route, lookup Route.dst (baseRoutes env welcome ifname host) (IpAddr.word (.v6 addr)) =
    some route → route.Physical ifname

variable {env cfg welcome ifname serverIp host}

theorem half6_word (addr : Ipv6Addr) : (half6 welcome ifname addr).dst.word = [true, addr.msb] := by
  rw [half6]
  split_ifs with hassigned hmsb hmsb <;> simp [hmsb]

theorem half6_covers (addr : Ipv6Addr) :
    (half6 welcome ifname addr).dst.word <+: IpAddr.word (.v6 addr) := by
  rw [half6_word]
  exact List.prefix_cons_inj true |>.mpr (half_prefix_bits (by decide) addr)

theorem half6_accepts (addr : Ipv6Addr) :
    Accepts (half6 welcome ifname addr).dst (half6 welcome ifname addr).hop := by
  rw [half6]
  split_ifs <;> exact ⟨Nat.one_le_of_lt (show 1 < 128 by decide), rfl, trivial⟩

theorem half6_not_physical (addr : Ipv6Addr) :
    (half6 welcome ifname addr).route.BoundTo ifname ∨
      (half6 welcome ifname addr).route.hop = .unreachable := by
  rw [half6]
  split_ifs
  · exact Or.inl rfl
  · exact Or.inl rfl
  · exact Or.inr rfl
  · exact Or.inr rfl

theorem half6_mem_plan (hall : CapturesAll cfg) (hkill : cfg.ipv6Killswitch = true)
    (addr : Ipv6Addr) :
    half6 welcome ifname addr ∈ plan env cfg welcome ifname serverIp host := by
  rw [plan, backPlan, if_pos hall, plan6, half6]
  by_cases hassigned : welcome.assignedIp6.isSome = true
  · rw [if_pos hassigned, if_pos hassigned]
    cases addr.msb <;> simp
  · rw [if_neg hassigned, if_neg hassigned, if_pos hkill]
    cases addr.msb <;> simp

/-- A prefix of an address starts with the family of the address. -/
theorem family_of_covers {word rest : List Bool} {first family : Bool}
    (hcovers : word <+: family :: rest) (hhead : word.head? = some first) : first = family := by
  obtain ⟨tail, htail⟩ := hcovers
  cases word with
  | nil => exact absurd hhead nofun
  | cons other more =>
    rw [← Option.some.inj hhead]
    exact (List.cons.inj htail).1

/-- The leading bit of an address in an IPv6 half. -/
theorem msb_of_covers6 {bit : Bool} {addr : Ipv6Addr}
    (hcovers : [true, bit] <+: IpAddr.word (.v6 addr)) : addr.msb = bit := by
  have hhalf : [true, addr.msb] <+: IpAddr.word (.v6 addr) :=
    (List.prefix_cons_inj true).mpr (half_prefix_bits (by decide) addr)
  simpa using prefix_eq_of_length hhalf hcovers rfl

/-- A pin in effect that covers an IPv6 address is the pin of that address. -/
theorem pinned_of_pin6_covers {addition : Addition}
    (hplan : addition ∈ plan env cfg welcome ifname serverIp host)
    (hpin : addition ∈ pin6Plan (defaultRoute6 env host) serverIp)
    (heffect : addition.TakesEffect env (baseRoutes env welcome ifname host)) {addr : Ipv6Addr}
    (hcovers : addition.dst.word <+: IpAddr.word (.v6 addr)) :
    PinnedCarrier env cfg welcome ifname serverIp host (.v6 addr) := by
  rcases pin6Plan_cases (defaultRoute6 env host) serverIp with
    hnone | ⟨other, server, hother, hsite, -, hdst⟩
  · exact absurd (hnone ▸ hpin) List.not_mem_nil
  · rw [hother, List.mem_singleton] at hpin
    subst hpin
    refine ⟨addition, hplan, Or.inr hsite, heffect, hcovers.eq_of_length ?_⟩
    rw [hdst, IpPrefix.length_word le_rfl, IpAddr.length_word, IpAddr.width]

/-- Of the additions in effect only the pin and the half of the address cover an IPv6 address. -/
theorem plan_covers6 {addition : Addition}
    (haddition : addition ∈ plan env cfg welcome ifname serverIp host)
    (heffect : addition.TakesEffect env (baseRoutes env welcome ifname host)) {addr : Ipv6Addr}
    (hcovers : addition.dst.word <+: IpAddr.word (.v6 addr)) :
    PinnedCarrier env cfg welcome ifname serverIp host (.v6 addr) ∨
      addition = half6 welcome ifname addr := by
  have hhead : addition.dst.word.head? ≠ some false := fun hfamily ↦
    Bool.false_ne_true (family_of_covers hcovers hfamily)
  have hplan := haddition
  rw [plan, List.mem_append] at haddition
  rcases haddition with hfront | hback
  · exact absurd (frontPlan_head hfront heffect.1) hhead
  rw [backPlan] at hback
  split_ifs at hback
  · rcases List.mem_append.mp hback with hcapture | hsix
    · rcases List.mem_pair.mp hcapture with rfl | rfl <;> exact absurd (by simp) hhead
    · rw [plan6] at hsix
      split_ifs at hsix with hassigned
      · rcases List.mem_append.mp hsix with hpin | hhalf
        · exact Or.inl (pinned_of_pin6_covers hplan hpin heffect hcovers)
        · right
          rw [half6, if_pos hassigned]
          rcases List.mem_pair.mp hhalf with rfl | rfl
          · rw [msb_of_covers6 (word_lowHalf6 ▸ hcovers), if_neg Bool.false_ne_true]
          · rw [msb_of_covers6 (word_highHalf6 ▸ hcovers), if_pos rfl]
      · right
        rw [half6, if_neg hassigned]
        rcases List.mem_pair.mp hsix with rfl | rfl
        · rw [msb_of_covers6 (word_lowHalf6 ▸ hcovers), if_neg Bool.false_ne_true]
        · rw [msb_of_covers6 (word_highHalf6 ▸ hcovers), if_pos rfl]
      · exact absurd hsix List.not_mem_nil
  · exact absurd hback List.not_mem_nil

/-- A pin in effect that covers an IPv4 address is the pin of that address. -/
theorem pinned_of_modePin_covers {addition : Addition}
    (hpin : addition ∈ modePin env cfg serverIp host)
    (heffect : addition.TakesEffect env (baseRoutes env welcome ifname host)) {addr : Ipv4Addr}
    (hcovers : addition.dst.word <+: IpAddr.word (.v4 addr)) :
    PinnedCarrier env cfg welcome ifname serverIp host (.v4 addr) := by
  obtain ⟨server, -, hdst⟩ := modePin_possible hpin heffect.1
  have hsite : addition.site = .pin := by
    rcases modePin_cases env cfg serverIp host with hnone | ⟨other, hother, hsite, -⟩
    · exact absurd (hnone ▸ hpin) List.not_mem_nil
    · rw [hother, List.mem_singleton] at hpin
      rwa [hpin]
  refine ⟨addition, ?_, Or.inl hsite, heffect, hcovers.eq_of_length ?_⟩
  · rw [plan, frontPlan]
    exact List.mem_append_left _ (List.mem_append_right _ hpin)
  · rw [hdst, IpPrefix.word_ofNet, List.length_cons, Network.length_word, IpAddr.length_word]
    rfl

/-- The checked capture that holds an IPv4 destination has taken effect. -/
theorem exists_capture_covers (hall : CapturesAll cfg) {final : Setup}
    (happly : apply env cfg welcome ifname serverIp host = .ok final) (addr : Ipv4Addr) :
    ∃ addition ∈ plan env cfg welcome ifname serverIp host,
      addition.TakesEffect env (baseRoutes env welcome ifname host) ∧
        addition.route.BoundTo ifname ∧ addition.dst.word = [false, addr.msb] := by
  have hcapture : ∀ addition ∈ capturePlan ifname,
      addition ∈ plan env cfg welcome ifname serverIp host ∧
        addition.TakesEffect env (baseRoutes env welcome ifname host) := by
    intro addition haddition
    obtain ⟨hpossible, hfree⟩ := (apply_ok happly).captured hall addition haddition
    rw [List.map_append, List.mem_append, not_or] at hfree
    refine ⟨?_, hpossible, hfree.1⟩
    rw [plan, backPlan, if_pos hall]
    exact List.mem_append_right _ (List.mem_append_left _ haddition)
  cases hmsb : addr.msb with
  | false =>
    obtain ⟨hplan, heffect⟩ :=
      hcapture ⟨.captureLow, lowHalf, .onLink ifname⟩ (by simp [capturePlan])
    exact ⟨_, hplan, heffect, rfl, word_lowHalf⟩
  | true =>
    obtain ⟨hplan, heffect⟩ :=
      hcapture ⟨.captureHigh, highHalf, .onLink ifname⟩ (by simp [capturePlan])
    exact ⟨_, hplan, heffect, rfl, word_highHalf⟩

/-- The IPv4 half of full capture, which every successful setup provides. -/
theorem resolve_v4_boundTo (hall : CapturesAll cfg) {final : Setup}
    (happly : apply env cfg welcome ifname serverIp host = .ok final) {addr : Ipv4Addr}
    (hspecific : ¬ CoveredBySpecific env cfg welcome ifname serverIp host addr)
    (hpinned : ¬ PinnedCarrier env cfg welcome ifname serverIp host (.v4 addr)) :
    ∃ route, final.host.resolve (.v4 addr) = some route ∧ route.BoundTo ifname := by
  obtain ⟨more, hroutes, hdistinct, hmore, -⟩ := exists_setupAdds happly
  obtain ⟨half, hplan, heffect, hbound, hword⟩ := exists_capture_covers hall happly addr
  have hadded : half.route ∈ more := (hmore _).mpr (Or.inr ⟨half, hplan, heffect, rfl⟩)
  have hcovers : half.route.dst <+: IpAddr.word (.v4 addr) := by
    rw [Addition.route, hword]
    exact (List.prefix_cons_inj false).mpr (half_prefix_bits (by decide) addr)
  obtain ⟨selected, hselected⟩ := exists_lookup
    (List.mem_append_right host.routes hadded) hcovers
  have hlonger : 2 ≤ selected.dst.length := by
    have hle := le_of_lookup hselected (List.mem_append_right _ hadded) hcovers
    rwa [Addition.route, hword] at hle
  refine ⟨selected, by rw [Host.resolve, hroutes]; exact hselected, ?_⟩
  obtain ⟨hmem, hselectedCovers⟩ := lookup_mem hselected
  -- A selected route no longer than the half has the half's prefix.
  have hsame : selected.dst.length ≤ 2 → selected.dst = half.route.dst := fun hle ↦ by
    refine prefix_eq_of_length hselectedCovers hcovers ?_
    rw [Addition.route, hword]
    exact le_antisymm hle hlonger
  rcases List.mem_append.mp hmem with hbefore | hnew
  · have hle : selected.dst.length ≤ 2 :=
      not_lt.mp fun hlt ↦ hspecific (Or.inl ⟨selected, hbefore, hselectedCovers, hlt⟩)
    have hkey : selected.dst ∈ (baseRoutes env welcome ifname host).map Route.dst :=
      List.mem_map_of_mem (List.mem_append_left _ hbefore)
    rw [hsame hle] at hkey
    exact absurd hkey heffect.2
  · rcases (hmore selected).mp hnew with hconnected | ⟨addition, haddition, hother, rfl⟩
    · exact connected_boundTo hconnected
    · rw [plan, frontPlan, List.mem_append, List.mem_append] at haddition
      rcases haddition with (hrule | hpin) | hback
      · have hle : addition.route.dst.length ≤ 2 :=
          not_lt.mp fun hlt ↦ hspecific
            (Or.inr ⟨addition, hrule, hother, hselectedCovers, hlt⟩)
        rw [List.inj_on_of_nodup_map hdistinct hnew hadded (hsame hle)]
        exact hbound
      · exact absurd (pinned_of_modePin_covers hpin hother hselectedCovers) hpinned
      · rw [backPlan, if_pos hall, List.mem_append] at hback
        rcases hback with hcapture | hsix
        · rcases List.mem_pair.mp hcapture with rfl | rfl <;> rfl
        · exact absurd (family_of_covers hselectedCovers (plan6_head hsix)).symm
            Bool.false_ne_true

/-- A covering route of an off-link destination that was there before and is at least as long as a
half is not physical. -/
theorem not_physical_of_offLink (honly : OnlyDefaultOffLink host) {addr : Ipv6Addr}
    (hoff : OffLink host addr) {route : Route} (hroute : route ∈ host.routes)
    (hcovers : route.dst <+: IpAddr.word (.v6 addr)) (hlong : 2 ≤ route.dst.length) :
    ¬ route.Physical ifname := by
  rintro ⟨dev, hdevice, -⟩
  have hdefault : route.dst = [true] := by
    cases hhop : route.hop with
    | unreachable =>
      rw [hhop] at hdevice
      exact absurd hdevice nofun
    | onLink other => exact hoff route hroute hcovers other hhop
    | via gateway other =>
      refine honly route hroute ?_ gateway other hhop
      cases hdst : route.dst with
      | nil => simp [hdst] at hlong
      | cons first rest =>
        have hfirst := family_of_covers hcovers (by rw [hdst, List.head?_cons])
        rw [hfirst, List.head?_cons]
  rw [hdefault] at hlong
  exact absurd hlong (by decide)

/-- An off-link destination whose half was not refused resolves to the TUN or to an unreachable
route. -/
theorem resolve_v6_of_accepted (hall : CapturesAll cfg) (hkill : cfg.ipv6Killswitch = true)
    (honly : OnlyDefaultOffLink host) {final : Setup}
    (happly : apply env cfg welcome ifname serverIp host = .ok final) {addr : Ipv6Addr}
    (hoff : OffLink host addr)
    (hpinned : ¬ PinnedCarrier env cfg welcome ifname serverIp host (.v6 addr))
    (haccepted : env.refuses (half6 welcome ifname addr).site = false) :
    ∃ route, final.host.resolve (.v6 addr) = some route ∧
      (route.BoundTo ifname ∨ route.hop = .unreachable) := by
  obtain ⟨more, hroutes, -, hmore, -⟩ := exists_setupAdds happly
  have hcovers : (half6 welcome ifname addr).dst.word <+: IpAddr.word (.v6 addr) :=
    half6_covers addr
  -- The half is in the table, put there by setup or in place before.
  have hpresent : ∃ route ∈ host.routes ++ more,
      route.dst = (half6 welcome ifname addr).dst.word := by
    by_cases hkey : (half6 welcome ifname addr).dst.word ∈
        (baseRoutes env welcome ifname host).map Route.dst
    · obtain ⟨route, hroute, hdst⟩ := List.mem_map.mp hkey
      rcases List.mem_append.mp hroute with hbefore | hconnected
      · exact ⟨route, List.mem_append_left _ hbefore, hdst⟩
      · exact ⟨route, List.mem_append_right _ ((hmore _).mpr (Or.inl hconnected)), hdst⟩
    · exact ⟨_, List.mem_append_right _ ((hmore _).mpr (Or.inr ⟨_, half6_mem_plan hall hkill addr,
        ⟨⟨haccepted, half6_accepts addr⟩, hkey⟩, rfl⟩)), rfl⟩
  obtain ⟨present, hpresentMem, hpresentDst⟩ := hpresent
  obtain ⟨selected, hselected⟩ := exists_lookup hpresentMem (hpresentDst ▸ hcovers)
  have hlong : 2 ≤ selected.dst.length := by
    have hle := le_of_lookup hselected hpresentMem (hpresentDst ▸ hcovers)
    rwa [hpresentDst, half6_word] at hle
  refine ⟨selected, by rw [Host.resolve, hroutes]; exact hselected, ?_⟩
  obtain ⟨hmem, hselectedCovers⟩ := lookup_mem hselected
  rcases List.mem_append.mp hmem with hbefore | hnew
  · exact Route.boundTo_or_unreachable
      (not_physical_of_offLink honly hoff hbefore hselectedCovers hlong)
  · rcases (hmore selected).mp hnew with hconnected | ⟨addition, haddition, heffect, rfl⟩
    · exact Or.inl (connected_boundTo hconnected)
    · rcases plan_covers6 haddition heffect hselectedCovers with hpin | rfl
      · exact absurd hpin hpinned
      · exact half6_not_physical addr

/-- A destination whose half was refused resolves as it did before the halves. -/
theorem resolve_v6_of_refused {final : Setup}
    (happly : apply env cfg welcome ifname serverIp host = .ok final) {addr : Ipv6Addr}
    (hpinned : ¬ PinnedCarrier env cfg welcome ifname serverIp host (.v6 addr))
    (hrefused : env.refuses (half6 welcome ifname addr).site = true) {selected : Route}
    (hselected : final.host.resolve (.v6 addr) = some selected) :
    lookup Route.dst (baseRoutes env welcome ifname host) (IpAddr.word (.v6 addr)) =
      some selected := by
  rw [Host.resolve, (apply_ok happly).routes] at hselected
  have hnone : ∀ route ∈ added env (baseRoutes env welcome ifname host)
      (plan env cfg welcome ifname serverIp host),
      ¬ route.dst <+: IpAddr.word (.v6 addr) := by
    intro route hroute hcovers
    obtain ⟨addition, haddition, heffect, rfl⟩ := exists_of_mem_added hroute
    rcases plan_covers6 haddition heffect hcovers with hpin | rfl
    · exact hpinned hpin
    · exact Bool.false_ne_true (heffect.1.1.symm.trans hrefused)
  obtain ⟨hmem, hcovers⟩ := lookup_mem hselected
  rcases List.mem_append.mp hmem with hbase | hadded
  · obtain ⟨old, hold⟩ := exists_lookup hbase hcovers
    rcases lookup_append_cases hold hselected with rfl | ⟨hadded, -⟩
    · exact hold
    · exact absurd hcovers (hnone selected hadded)
  · exact absurd hcovers (hnone selected hadded)

/-- When a successful setup leaves no way around the tunnel: every exposed off-link IPv6 destination
lies in a half whose command was not refused. Assumes: the configuration captures all traffic with
the kill-switch on, and IPv6 leaves the link through default routes only. -/
theorem fullyCaptured_iff (hall : CapturesAll cfg) (hkill : cfg.ipv6Killswitch = true)
    (honly : OnlyDefaultOffLink host) {final : Setup}
    (happly : apply env cfg welcome ifname serverIp host = .ok final) :
    FullyCaptured env cfg welcome ifname serverIp host final.host ↔
      ∀ addr : Ipv6Addr, OffLink host addr →
        ¬ PinnedCarrier env cfg welcome ifname serverIp host (.v6 addr) →
          Exposed env welcome ifname host addr →
            env.refuses (half6 welcome ifname addr).site = false := by
  constructor
  · rintro ⟨-, hv6⟩ addr hoff hpinned hexposed
    by_contra hrefused
    rw [Bool.not_eq_false] at hrefused
    obtain ⟨selected, hselected, hcaptured⟩ := hv6 addr hoff hpinned
    have hphysical := hexposed selected (resolve_v6_of_refused happly hpinned hrefused hselected)
    rcases hcaptured with hbound | hhop
    · exact hphysical.not_boundTo hbound
    · obtain ⟨dev, hdevice, -⟩ := hphysical
      rw [hhop] at hdevice
      exact absurd hdevice nofun
  · intro haccepted
    refine ⟨fun addr hspecific hpinned ↦ resolve_v4_boundTo hall happly hspecific hpinned,
      fun addr hoff hpinned ↦ ?_⟩
    by_cases hrefused : env.refuses (half6 welcome ifname addr).site = false
    · exact resolve_v6_of_accepted hall hkill honly happly hoff hpinned hrefused
    · -- A refused half leaves only destinations that resolve to no physical route beforehand.
      have hnotExposed : ¬ Exposed env welcome ifname host addr :=
        fun hexposed ↦ hrefused (haccepted addr hoff hpinned hexposed)
      simp only [Exposed, not_forall, exists_prop] at hnotExposed
      obtain ⟨route, hroute, hnotPhysical⟩ := hnotExposed
      obtain ⟨hmem, hcovers⟩ := lookup_mem hroute
      have hwhole : ∃ selected, final.host.resolve (.v6 addr) = some selected := by
        rw [Host.resolve, (apply_ok happly).routes]
        exact exists_lookup (List.mem_append_left _ hmem) hcovers
      obtain ⟨selected, hselected⟩ := hwhole
      have hsame := resolve_v6_of_refused happly hpinned (by simpa using hrefused) hselected
      rw [hroute, Option.some.injEq] at hsame
      exact ⟨selected, hselected, Route.boundTo_or_unreachable (hsame ▸ hnotPhysical)⟩

end Capture

/-- A host with native IPv6. -/
def dualStackHost : Host where
  routes :=
    [⟨[false], .via (.v4 (ipv4 192 168 1 1)) "eth0"⟩,
      ⟨[true], .via (.v6 (0xfe80 <<< 112 ||| 1)) "eth0"⟩]
  resolv := none

theorem onlyDefaultOffLink_dualStackHost : OnlyDefaultOffLink dualStackHost := by
  intro route hroute hhead gateway dev hhop
  rcases List.mem_pair.mp hroute with rfl | rfl
  · exact absurd hhead (by decide)
  · rfl

/-- A full tunnel on a host with native IPv6. -/
theorem fullyCaptured_iff_dualStackHost :
    ∃ final, apply calmEnvironment { mode := .globalProxy } ipv4Welcome "et0"
        (.v4 (ipv4 203 0 113 7)) dualStackHost = .ok final ∧
      (FullyCaptured calmEnvironment { mode := .globalProxy } ipv4Welcome "et0"
          (.v4 (ipv4 203 0 113 7)) dualStackHost final.host ↔
        ∀ addr : Ipv6Addr, OffLink dualStackHost addr →
          ¬ PinnedCarrier calmEnvironment { mode := .globalProxy } ipv4Welcome "et0"
              (.v4 (ipv4 203 0 113 7)) dualStackHost (.v6 addr) →
            Exposed calmEnvironment ipv4Welcome "et0" dualStackHost addr →
              calmEnvironment.refuses (half6 ipv4Welcome "et0" addr).site = false) :=
  ⟨_, rfl, fullyCaptured_iff ⟨rfl, rfl⟩ rfl onlyDefaultOffLink_dualStackHost rfl⟩

/-- An environment in which the kill-switch routes are refused, as by a kernel without them. -/
def openEnvironment : Environment where
  refuses := fun site ↦ site = .blockLow ∨ site = .blockHigh
  resolver := calmEnvironment.resolver
  resolvReadable := true
  resolvWrite := .written

/-- With both kill-switch commands refused, setup succeeds and native IPv6 stays in use. -/
theorem leaks_when_refused :
    ∃ final, apply openEnvironment { mode := .globalProxy } ipv4Welcome "et0"
        (.v4 (ipv4 203 0 113 7)) dualStackHost = .ok final ∧
      OnlyDefaultOffLink dualStackHost ∧
      ¬ FullyCaptured openEnvironment { mode := .globalProxy } ipv4Welcome "et0"
        (.v4 (ipv4 203 0 113 7)) dualStackHost final.host := by
  refine ⟨_, rfl, onlyDefaultOffLink_dualStackHost, fun hcaptured ↦ ?_⟩
  have hoff : OffLink dualStackHost (0x20010db8 <<< 96) := by
    intro route hroute _ dev hhop
    rcases List.mem_pair.mp hroute with rfl | rfl <;> exact absurd hhop nofun
  have hpinned : ¬ PinnedCarrier openEnvironment { mode := .globalProxy } ipv4Welcome "et0"
      (.v4 (ipv4 203 0 113 7)) dualStackHost (.v6 (0x20010db8 <<< 96)) := by
    unfold PinnedCarrier
    decide +kernel
  obtain ⟨route, hroute, hcase⟩ := hcaptured.v6 (0x20010db8 <<< 96) hoff hpinned
  have hdefault : route = ⟨[true], .via (.v6 (0xfe80 <<< 112 ||| 1)) "eth0"⟩ := by
    refine Option.some.inj (hroute.symm.trans ?_)
    decide +kernel
  subst hdefault
  exact hcase.elim (fun hbound ↦ absurd hbound (by decide)) nofun

end EntroTunnel.Client
