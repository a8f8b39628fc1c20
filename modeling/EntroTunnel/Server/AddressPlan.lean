import EntroTunnel.Foundation.PartialRun
import EntroTunnel.Server.PeerRequests

/-!
# The plan of virtual addresses

What the configuration promises about addresses: the gateway and the peers have distinct addresses
of the subnet, and the same of `gateway6` and the derived addresses in `subnet6`. `add_peer` looks
at the peers that are there and at nothing else, and `derive_ipv6` writes the IPv4 address over the
low 32 bits however long the prefix of `subnet6` is. `addressPlan_iff` says for which configurations
and requests the plan holds through every sequence of requests that succeed.
-/

set_option autoImplicit false
set_option relaxedAutoImplicit false

namespace EntroTunnel.Server

open EntroTunnel.Core EntroTunnel.Foundation

/-! ### Derived addresses -/

section Derived

variable {subnet6 : Ipv6Net} {ip : Ipv4Addr}

/-- A bit of the network's own address. -/
def networkBit (subnet6 : Ipv6Net) (index : ℕ) : Bool :=
  decide (index < subnet6.prefixLen) && subnet6.addr.getMsbD index

theorem getMsbD_deriveIpv6 (index : ℕ) :
    (deriveIpv6 subnet6 ip).getMsbD index =
      if 96 ≤ index then ip.getMsbD (index - 96) else networkBit subnet6 index := by
  have happend : ∀ (high : BitVec 96) (low : BitVec 32),
      ((high ++ low).cast rfl : BitVec 128).getMsbD index =
        if 96 ≤ index then low.getMsbD (index - 96) else high.getMsbD index :=
    fun high low ↦ BitVec.getMsbD_append
  rw [deriveIpv6, happend]
  split_ifs with hlow
  · rfl
  · have hle := subnet6.prefixLen_le
    have hindex : 128 - (32 + 96 - index) = index := by omega
    have hinside : index + (128 - subnet6.prefixLen) < 128 ↔ index < subnet6.prefixLen := by omega
    rw [BitVec.getMsbD_extractLsb', hindex, BitVec.getMsbD_and, BitVec.getMsbD_shiftLeft,
      BitVec.getMsbD_allOnes, decide_eq_true (by omega : index < 96),
      decide_eq_true (by omega : 32 + 96 - index ≤ 128), Bool.true_and, Bool.true_and,
      decide_eq_decide.mpr hinside, networkBit, Bool.and_comm]

/-- A derived address lies in the subnet when the part of the prefix behind the 96th bit is the
start of the IPv4 address. -/
theorem contains_deriveIpv6_iff : subnet6.Contains (deriveIpv6 subnet6 ip) ↔
    ∀ index, 96 ≤ index → index < subnet6.prefixLen →
      ip.getMsbD (index - 96) = subnet6.addr.getMsbD index := by
  rw [Network.contains_iff]
  constructor
  · intro hbits index hlow hinside
    rw [← hbits index hinside, getMsbD_deriveIpv6, if_pos hlow]
  · intro hbits index hinside
    rw [getMsbD_deriveIpv6]
    split_ifs with hlow
    · exact hbits index hlow hinside
    · rw [networkBit, decide_eq_true hinside, Bool.true_and]

/-- An address is the derived one when its low 32 bits are the IPv4 address and the others those of
the network. -/
theorem deriveIpv6_eq_iff_bits {addr : Ipv6Addr} : deriveIpv6 subnet6 ip = addr ↔
    addr.setWidth 32 = ip ∧ ∀ index < 96, addr.getMsbD index = networkBit subnet6 index := by
  have hlow : ∀ index, index < 32 → (addr.setWidth 32).getMsbD index =
      addr.getMsbD (index + 96) := by
    intro index hindex
    rw [BitVec.getMsbD_setWidth, decide_eq_true (by omega), Bool.true_and]
    rfl
  constructor
  · rintro rfl
    refine ⟨BitVec.eq_of_getMsbD_eq fun index hindex ↦ ?_, fun index hindex ↦ ?_⟩
    · rw [hlow index hindex, getMsbD_deriveIpv6, if_pos (Nat.le_add_left _ _), Nat.add_sub_cancel]
    · rw [getMsbD_deriveIpv6, if_neg hindex.not_ge]
  · rintro ⟨rfl, hhigh⟩
    refine BitVec.eq_of_getMsbD_eq fun index hindex ↦ ?_
    rw [getMsbD_deriveIpv6]
    split_ifs with hbehind
    · rw [hlow (index - 96) (by omega), Nat.sub_add_cancel hbehind]
    · exact (hhigh index (not_le.mp hbehind)).symm

/-- An IPv4 address whose derived address lies in the subnet and is not the gateway's: the prefix
behind its 96th bit is the start of the address, and the gateway has other bits in front or another
address behind them. -/
structure Fits (subnet6 : Ipv6Net) (gateway6 : Option Ipv6Addr) (ip : Ipv4Addr) : Prop where
  inside : ∀ index, 96 ≤ index → index < subnet6.prefixLen →
    ip.getMsbD (index - 96) = subnet6.addr.getMsbD index
  apart : ∀ addr, gateway6 = some addr → addr.setWidth 32 = ip →
    ∃ index, index < 96 ∧ addr.getMsbD index ≠ networkBit subnet6 index

theorem fits_iff {gateway6 : Option Ipv6Addr} : Fits subnet6 gateway6 ip ↔
    subnet6.Contains (deriveIpv6 subnet6 ip) ∧ gateway6 ≠ some (deriveIpv6 subnet6 ip) := by
  rw [contains_deriveIpv6_iff]
  constructor
  · rintro ⟨hinside, hapart⟩
    refine ⟨hinside, fun hgateway ↦ ?_⟩
    obtain ⟨hlow, hhigh⟩ := deriveIpv6_eq_iff_bits.mp (rfl : deriveIpv6 subnet6 ip = _)
    obtain ⟨index, hindex, hdiffers⟩ := hapart _ hgateway hlow
    exact hdiffers (hhigh index hindex)
  · rintro ⟨hinside, hapart⟩
    refine ⟨hinside, fun addr hgateway hlow ↦ ?_⟩
    by_contra hsame
    push Not at hsame
    exact hapart (hgateway.trans (congrArg some (deriveIpv6_eq_iff_bits.mpr ⟨hlow, hsame⟩).symm))

end Derived

/-! ### The plan -/

/-- The addresses of the gateway and of the peers. -/
def ServerConfig.addresses (config : ServerConfig) : List Ipv4Addr :=
  config.network.gateway :: config.peers.map fun peer ↦ peer.ip

/-- `gateway6`, if there is one, and the derived addresses of the peers. -/
def ServerConfig.addresses6 (config : ServerConfig) (subnet6 : Ipv6Net) : List Ipv6Addr :=
  config.network.gateway6.toList ++ config.peers.map fun peer ↦ deriveIpv6 subnet6 peer.ip

/-- All addresses are distinct and lie in their subnet. -/
structure AddressPlan (subnet : Ipv4Net) (subnet6 : Ipv6Net) (config : ServerConfig) : Prop where
  distinct : config.addresses.Nodup
  inside : ∀ addr ∈ config.addresses, subnet.Contains addr
  distinct6 : (config.addresses6 subnet6).Nodup
  inside6 : ∀ addr ∈ config.addresses6 subnet6, subnet6.Contains addr

/-- A request of the admin that succeeds. -/
def ServerConfig.step (config : ServerConfig) (asked : AdminContext × PeerRequest) :
    Option ServerConfig :=
  let answered := asked.2.handle asked.1 config
  if answered.2.isError then none else some answered.1

/-- The subnets that the configuration parses to. -/
structure Subnets (network : NetworkConfig) where
  subnet : Ipv4Net
  subnet6 : Ipv6Net
  parsed : network.subnet = some subnet
  parsed6 : network.subnet6 = some subnet6

/-- What the plan asks of a peer. -/
structure PeerFits (subnet : Ipv4Net) (subnet6 : Ipv6Net) (network : NetworkConfig)
    (ip : Ipv4Addr) : Prop where
  inside : subnet.Contains ip
  apart : ip ≠ network.gateway
  fits6 : Fits subnet6 network.gateway6 ip

section Plan

variable {subnet : Ipv4Net} {subnet6 : Ipv6Net} {config next : ServerConfig}

/-- A request that succeeds makes its change. -/
theorem step_eq_some {asked : AdminContext × PeerRequest} (hstep : config.step asked = some next) :
    asked.2.Changes config.peers ∧
      next = { config with peers := asked.2.applied config.peers } := by
  obtain ⟨context, request⟩ := asked
  unfold ServerConfig.step at hstep
  rw [PeerRequest.handle_eq] at hstep
  dsimp only at hstep
  by_cases hauthorized : context.authorized = true
  · rw [if_pos hauthorized] at hstep
    by_cases hchanges : request.Changes config.peers
    · rw [if_pos hchanges] at hstep
      split_ifs at hstep
      exact ⟨hchanges, (Option.some.inj hstep).symm⟩
    · rw [if_neg hchanges, PeerRequest.isError_refusal, if_pos rfl] at hstep
      cases hstep
  · rw [if_neg hauthorized] at hstep
    cases hstep

/-- The derived addresses of distinct peers are distinct. -/
theorem nodup_addresses6 (hips : (config.peers.map fun peer ↦ peer.ip).Nodup) :
    (config.peers.map fun peer ↦ deriveIpv6 subnet6 peer.ip).Nodup := by
  have hmap := hips.map (f := deriveIpv6 subnet6) fun _ _ hsame ↦ eq_of_deriveIpv6_eq hsame
  rwa [List.map_map] at hmap

/-- The plan in terms of what it asks of each part. -/
theorem addressPlan_iff_fits : AddressPlan subnet subnet6 config ↔
    (config.peers.map fun peer ↦ peer.ip).Nodup ∧ subnet.Contains config.network.gateway ∧
      (∀ addr, config.network.gateway6 = some addr → subnet6.Contains addr) ∧
      ∀ peer ∈ config.peers, PeerFits subnet subnet6 config.network peer.ip := by
  constructor
  · intro hplan
    obtain ⟨hgateway, hips⟩ := List.nodup_cons.mp hplan.distinct
    obtain ⟨-, -, hapart6⟩ := List.nodup_append.mp hplan.distinct6
    refine ⟨hips, hplan.inside _ List.mem_cons_self, fun addr haddr ↦ ?_, fun peer hpeer ↦ ?_⟩
    · exact hplan.inside6 addr (List.mem_append_left _ (Option.mem_toList.mpr haddr))
    · have hip : peer.ip ∈ config.peers.map fun peer ↦ peer.ip := List.mem_map_of_mem hpeer
      have hip6 : deriveIpv6 subnet6 peer.ip ∈
          config.peers.map fun peer ↦ deriveIpv6 subnet6 peer.ip :=
        List.mem_map_of_mem (f := fun peer ↦ deriveIpv6 subnet6 peer.ip) hpeer
      refine ⟨hplan.inside _ (List.mem_cons_of_mem _ hip), fun hsame ↦ hgateway (hsame ▸ hip), ?_⟩
      refine fits_iff.mpr ⟨hplan.inside6 _ (List.mem_append_right _ hip6), fun hsame ↦ ?_⟩
      exact hapart6 _ (Option.mem_toList.mpr hsame) _ hip6 rfl
  · rintro ⟨hips, hgateway, hgateway6, hpeers⟩
    have hfits6 (peer : PeerConfig) (hpeer : peer ∈ config.peers) :=
      fits_iff.mp (hpeers peer hpeer).fits6
    refine ⟨List.nodup_cons.mpr ⟨fun hmem ↦ ?_, hips⟩, fun addr haddr ↦ ?_,
      List.nodup_append.mpr ⟨?_, nodup_addresses6 hips, fun addr haddr other hother ↦ ?_⟩,
      fun addr haddr ↦ ?_⟩
    · obtain ⟨peer, hpeer, hsame⟩ := List.mem_map.mp hmem
      exact (hpeers peer hpeer).apart hsame
    · rcases List.mem_cons.mp haddr with rfl | hmem
      · exact hgateway
      · obtain ⟨peer, hpeer, rfl⟩ := List.mem_map.mp hmem
        exact (hpeers peer hpeer).inside
    · cases config.network.gateway6 <;> simp
    · obtain ⟨peer, hpeer, rfl⟩ := List.mem_map.mp hother
      rintro rfl
      exact (hfits6 peer hpeer).2 (Option.mem_toList.mp haddr)
    · rcases List.mem_append.mp haddr with hmem | hmem
      · exact hgateway6 addr (Option.mem_toList.mp hmem)
      · obtain ⟨peer, hpeer, rfl⟩ := List.mem_map.mp hmem
        exact (hfits6 peer hpeer).1

/-- The peers of a configuration as it is written: distinct, in the subnet, none the gateway. -/
structure InitialPeers (subnet : Ipv4Net) (config : ServerConfig) : Prop where
  distinct : (config.peers.map fun peer ↦ peer.ip).Nodup
  inside : ∀ peer ∈ config.peers, subnet.Contains peer.ip
  apart : ∀ peer ∈ config.peers, peer.ip ≠ config.network.gateway

/-- The gateways lie in their subnets, the derived addresses of the peers that are there fit, and so
does every peer that is added. -/
structure PlanFits (subnet : Ipv4Net) (subnet6 : Ipv6Net) (config : ServerConfig)
    (asked : List (AdminContext × PeerRequest)) : Prop where
  gateway : subnet.Contains config.network.gateway
  gateway6 : ∀ addr, config.network.gateway6 = some addr → subnet6.Contains addr
  initial : ∀ peer ∈ config.peers, Fits subnet6 config.network.gateway6 peer.ip
  added : ∀ context peer, (context, PeerRequest.add peer) ∈ asked →
    PeerFits subnet subnet6 config.network peer.ip

/-- A step keeps the plan when it adds a peer that fits. -/
theorem AddressPlan.step {asked : AdminContext × PeerRequest}
    (hplan : AddressPlan subnet subnet6 config) (hstep : config.step asked = some next)
    (hfits : ∀ peer, asked.2 = .add peer → PeerFits subnet subnet6 config.network peer.ip) :
    AddressPlan subnet subnet6 next := by
  obtain ⟨hchanges, rfl⟩ := step_eq_some hstep
  obtain ⟨hips, hgateway, hgateway6, hpeers⟩ := addressPlan_iff_fits.mp hplan
  refine addressPlan_iff_fits.mpr ⟨PeerRequest.nodup_ip_applied hips hchanges, hgateway, hgateway6,
    fun peer hpeer ↦ ?_⟩
  obtain ⟨context, request⟩ := asked
  cases request with
  | add new =>
    rcases List.mem_append.mp hpeer with hold | hnew
    · exact hpeers peer hold
    · rw [List.mem_singleton.mp hnew]
      exact hfits new rfl
  | del token => exact hpeers peer (List.mem_filter.mp hpeer).1

theorem addressPlan_run {asked : List (AdminContext × PeerRequest)} {final : ServerConfig}
    (hplan : AddressPlan subnet subnet6 config)
    (hadded : ∀ context peer, (context, PeerRequest.add peer) ∈ asked →
      PeerFits subnet subnet6 config.network peer.ip)
    (hrun : run ServerConfig.step config asked = some final) :
    AddressPlan subnet subnet6 final := by
  induction asked generalizing config with
  | nil =>
    obtain rfl := Option.some.inj hrun
    exact hplan
  | cons first rest ih =>
    obtain ⟨next, hstep, hrest⟩ := run_cons_eq_some.mp hrun
    have hnext := hplan.step hstep fun peer hpeer ↦
      hadded first.1 peer (by rw [← hpeer]; exact List.mem_cons_self)
    have hnetwork : next.network = config.network := by
      rw [(step_eq_some hstep).2]
    refine ih hnext (fun context peer hpeer ↦ ?_) hrest
    rw [hnetwork]
    exact hadded context peer (List.mem_cons_of_mem _ hpeer)

/-- The requests change nothing about the network. -/
theorem network_run {asked : List (AdminContext × PeerRequest)} {final : ServerConfig}
    (hrun : run ServerConfig.step config asked = some final) : final.network = config.network :=
  run_preserves (fun state _ _ (hsame : state.network = config.network) hstep ↦
    (congrArg ServerConfig.network (step_eq_some hstep).2).trans hsame) hrun rfl

/-- From a configuration with the peers that it should have, the plan holds in every state of a
sequence of requests that succeed exactly when the gateways and the derived addresses fit, and every
peer that is added. -/
theorem addressPlan_iff (subnets : Subnets config.network)
    (hinitial : InitialPeers subnets.subnet config)
    {asked : List (AdminContext × PeerRequest)} {final : ServerConfig}
    (hrun : run ServerConfig.step config asked = some final) :
    (∀ before state, before <+: asked → run ServerConfig.step config before = some state →
      AddressPlan subnets.subnet subnets.subnet6 state) ↔
      PlanFits subnets.subnet subnets.subnet6 config asked := by
  constructor
  · intro hplan
    obtain ⟨-, hgateway, hgateway6, hpeers⟩ :=
      addressPlan_iff_fits.mp (hplan [] config List.nil_prefix rfl)
    refine ⟨hgateway, hgateway6, fun peer hpeer ↦ (hpeers peer hpeer).fits6,
      fun context peer hpeer ↦ ?_⟩
    obtain ⟨before, after, rfl⟩ := List.append_of_mem hpeer
    rw [List.append_cons, run_append] at hrun
    obtain ⟨state, hstate, -⟩ := Option.bind_eq_some_iff.mp hrun
    have hreached := hplan _ state ⟨after, (List.append_cons ..).symm⟩ hstate
    obtain ⟨middle, hmiddle, hstep⟩ := run_concat_eq_some.mp hstate
    obtain ⟨-, -, -, hfits⟩ := addressPlan_iff_fits.mp hreached
    have hthere : peer ∈ state.peers := by
      rw [(step_eq_some hstep).2]
      exact List.mem_append_right _ (List.mem_singleton_self peer)
    have hpeerFits := hfits peer hthere
    rwa [network_run hstate] at hpeerFits
  · intro hfits before state hbefore hstate
    have hstart : AddressPlan subnets.subnet subnets.subnet6 config :=
      addressPlan_iff_fits.mpr ⟨hinitial.distinct, hfits.gateway, hfits.gateway6,
        fun peer hpeer ↦ ⟨hinitial.inside peer hpeer, hinitial.apart peer hpeer,
          hfits.initial peer hpeer⟩⟩
    exact addressPlan_run hstart
      (fun context peer hpeer ↦ hfits.added context peer (hbefore.subset hpeer)) hstate

theorem lanPrefix_le : 24 ≤ 32 := by decide

theorem lanPrefix6_le : 64 ≤ 128 := by decide

/-- The subnets of the example server. -/
def lanSubnets : Subnets lanServer.network where
  subnet := ⟨0x0a420000#32, 24, lanPrefix_le⟩
  subnet6 := ⟨0xfd660000000000000000000000000000#128, 64, lanPrefix6_le⟩
  parsed := rfl
  parsed6 := rfl

/-- A peer with an address of its own. -/
def phonePeer : PeerConfig :=
  { name := "phone", token := "other", ip := 0x0a420003#32 }

theorem initialPeers_lanServer : InitialPeers lanSubnets.subnet lanServer where
  distinct := by decide
  inside := by decide
  apart := by decide

/-- A server with both subnets adds a peer that has an address of its own. -/
theorem addressPlan_iff_lanServer :
    ∃ final, run ServerConfig.step lanServer [(⟨true, true⟩, .add phonePeer)] = some final ∧
      ((∀ before state, before <+: [(⟨true, true⟩, PeerRequest.add phonePeer)] →
        run ServerConfig.step lanServer before = some state →
          AddressPlan lanSubnets.subnet lanSubnets.subnet6 state) ↔
        PlanFits lanSubnets.subnet lanSubnets.subnet6 lanServer
          [(⟨true, true⟩, .add phonePeer)]) := by
  obtain ⟨final, hfinal⟩ : ∃ final,
      run ServerConfig.step lanServer [(⟨true, true⟩, .add phonePeer)] = some final :=
    Option.isSome_iff_exists.mp (by decide +kernel)
  exact ⟨final, hfinal, addressPlan_iff lanSubnets initialPeers_lanServer hfinal⟩

/-- A subnet whose prefix reaches into the low 32 bits. -/
def narrowNet : Ipv6Net :=
  ⟨0xfd660000000000000000000000000000#128, 112, by decide⟩

/-- The same server with that subnet. -/
def narrowServer : ServerConfig :=
  { lanServer with network := { lanServer.network with subnet6 := some narrowNet } }

/-- A peer is added with the address of the gateway; and with a longer prefix the peer that is there
has a derived address outside `subnet6`. -/
theorem addressPlan_broken :
    (∃ final, run ServerConfig.step lanServer
        [(⟨true, true⟩, .add { phonePeer with ip := lanServer.network.gateway })] = some final ∧
      ¬ AddressPlan lanSubnets.subnet lanSubnets.subnet6 final) ∧
      InitialPeers lanSubnets.subnet narrowServer ∧
      ¬ AddressPlan lanSubnets.subnet narrowNet narrowServer := by
  refine ⟨?_, ⟨by decide, by decide, by decide⟩, fun hplan ↦ ?_⟩
  · refine ⟨_, rfl, fun hplan ↦ ?_⟩
    exact absurd hplan.distinct (by decide +kernel)
  · refine absurd (hplan.inside6 0xfd66000000000000000000000a420002#128 ?_) (by decide +kernel)
    decide +kernel

end Plan

end EntroTunnel.Server
