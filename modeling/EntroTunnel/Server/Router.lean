import EntroTunnel.Server.Configuration
import Mathlib.Data.List.AList

/-!
# The router

`Router` of `server/src/session.rs`: which session owns a virtual IP. The IPv4 map is the source of
truth, the IPv6 map an index for delivery. A session stands in both maps by its number, for the
sender of its queue. `register` and `unregister` each write the two maps one after the other, and
other tasks may act in between, so the four writes are operations of their own.

The maps iterate in an arbitrary order; a list obtained from them is meant up to order.
-/

set_option autoImplicit false
set_option relaxedAutoImplicit false

namespace EntroTunnel.Server

open EntroTunnel.Core

/-- An address from its octets. -/
def addrOfOctets (w : ℕ) (octets : Bytes) : BitVec w :=
  BitVec.ofNat w (octets.foldl (fun value octet ↦ value * 256 + octet.toNat) 0)

/-- The destination of a packet, demultiplexed by its version nibble as in `run_tun_router`. -/
def destination (packet : Bytes) : Option IpAddr :=
  match packet.head?.map fun first : UInt8 ↦ first >>> 4 with
  | some 4 =>
    if 20 ≤ packet.length then some (.v4 (addrOfOctets 32 ((packet.drop 16).take 4))) else none
  | some 6 =>
    if 40 ≤ packet.length then some (.v6 (addrOfOctets 128 ((packet.drop 24).take 16))) else none
  | _ => none

/-- Public info about a connected peer. -/
structure Online where
  name : String
  mode : SessionMode
  vpnMember : Bool
  ip6 : Option Ipv6Addr
  deriving DecidableEq, Repr

/-- A session as the router knows it. -/
structure Entry where
  tx : ℕ
  info : Online
  token : String
  deriving DecidableEq, Repr

/-- Maps a virtual IP to the live session that owns it. -/
structure Router where
  peers : AList fun _ : Ipv4Addr ↦ Entry
  peers6 : AList fun _ : Ipv6Addr ↦ ℕ
  deriving DecidableEq

namespace Router

/-- `Router::new`. -/
def new : Router := ⟨∅, ∅⟩

/-- The first write of `register`. -/
def insert6 (router : Router) (ip6 : Option Ipv6Addr) (tx : ℕ) : Router :=
  match ip6 with
  | some addr => { router with peers6 := router.peers6.insert addr tx }
  | none => router

/-- The second write of `register`. -/
def insert4 (router : Router) (ip : Ipv4Addr) (entry : Entry) : Router :=
  { router with peers := router.peers.insert ip entry }

def register (router : Router) (ip : Ipv4Addr) (ip6 : Option Ipv6Addr) (entry : Entry) : Router :=
  (router.insert6 ip6 entry.tx).insert4 ip entry

/-- The first write of `unregister`. -/
def remove4 (router : Router) (ip : Ipv4Addr) : Router :=
  { router with peers := router.peers.erase ip }

/-- The second write of `unregister`. -/
def remove6 (router : Router) (ip6 : Option Ipv6Addr) : Router :=
  match ip6 with
  | some addr => { router with peers6 := router.peers6.erase addr }
  | none => router

def unregister (router : Router) (ip : Ipv4Addr) (ip6 : Option Ipv6Addr) : Router :=
  (router.remove4 ip).remove6 ip6

/-- The session that `deliver` hands a frame for the address to. -/
def owner (router : Router) (ip : Ipv4Addr) : Option ℕ :=
  (router.peers.lookup ip).map Entry.tx

/-- The session that `deliver6` hands a frame for the address to. -/
def owner6 (router : Router) (ip6 : Ipv6Addr) : Option ℕ :=
  router.peers6.lookup ip6

def online (router : Router) : List (Ipv4Addr × Online) :=
  router.peers.entries.map fun entry ↦ (entry.1, entry.2.info)

/-- The answer to `GetPeers` for the session at `assigned`: the other VPN members. -/
def peerInfos (router : Router) (assigned : Ipv4Addr) : List PeerInfo :=
  (router.online.filter fun peer ↦ peer.1 ≠ assigned && peer.2.vpnMember).map fun peer ↦
    ⟨peer.1, peer.2.name, peer.2.ip6⟩

/-! ### Owners after each write -/

section Owners

variable (router : Router) (ip other : Ipv4Addr) (ip6 : Option Ipv6Addr) (other6 : Ipv6Addr)
  (tx : ℕ) (entry : Entry)

@[simp] theorem peers_insert6 : (router.insert6 ip6 tx).peers = router.peers := by
  cases ip6 <;> rfl

@[simp] theorem peers_remove6 : (router.remove6 ip6).peers = router.peers := by
  cases ip6 <;> rfl

@[simp] theorem owner_insert6 : (router.insert6 ip6 tx).owner other = router.owner other := by
  rw [owner, peers_insert6, owner]

@[simp] theorem owner_remove6 : (router.remove6 ip6).owner other = router.owner other := by
  rw [owner, peers_remove6, owner]

@[simp] theorem owner6_insert4 :
    (router.insert4 ip entry).owner6 other6 = router.owner6 other6 := rfl

@[simp] theorem owner6_remove4 : (router.remove4 ip).owner6 other6 = router.owner6 other6 := rfl

theorem owner_insert4 :
    (router.insert4 ip entry).owner other =
      if other = ip then some entry.tx else router.owner other := by
  unfold owner insert4
  split_ifs with h
  · rw [h, AList.lookup_insert, Option.map_some]
  · rw [AList.lookup_insert_ne h]

theorem owner_remove4 :
    (router.remove4 ip).owner other = if other = ip then none else router.owner other := by
  unfold owner remove4
  split_ifs with h
  · rw [h, AList.lookup_erase, Option.map_none]
  · rw [AList.lookup_erase_ne h]

theorem owner6_insert6 :
    (router.insert6 ip6 tx).owner6 other6 =
      if ip6 = some other6 then some tx else router.owner6 other6 := by
  cases ip6 with
  | none => rfl
  | some addr =>
    unfold owner6 insert6
    split_ifs with h
    · rw [Option.some.inj h, AList.lookup_insert]
    · exact AList.lookup_insert_ne fun hsame ↦ h (congrArg some hsame.symm)

theorem owner6_remove6 :
    (router.remove6 ip6).owner6 other6 =
      if ip6 = some other6 then none else router.owner6 other6 := by
  cases ip6 with
  | none => rfl
  | some addr =>
    unfold owner6 remove6
    split_ifs with h
    · rw [Option.some.inj h, AList.lookup_erase]
    · exact AList.lookup_erase_ne fun hsame ↦ h (congrArg some hsame.symm)

end Owners

end Router

end EntroTunnel.Server
