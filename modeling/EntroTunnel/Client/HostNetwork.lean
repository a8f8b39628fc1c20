import EntroTunnel.Core.Address
import EntroTunnel.Foundation.InstallUndo
import EntroTunnel.Foundation.LongestPrefix
import Mathlib.Data.UInt

/-!
# The host network as the `ip` commands see it

The client configures a Linux host by running `ip`. `Host` is what these commands and the DNS setup
touch: the unicast routes of both families in one table, in listing order, and the content of
`/etc/resolv.conf`. `IpCommand` has the forms of the command line that the client uses and
`IpCommand.exec` their effect, `none` standing for a non-zero exit status. A route is refused when
its prefix is already present, when a length or a gateway does not fit the family, and, in IPv4,
when bits beyond the length are set; `ip addr add` brings the connected route of its subnet along.

`Host.resolve` is longest-prefix lookup of an address. The selection rules that `ip` offers beyond
it (metrics, policy rules, the local table) are not used by the client and are left out.
-/

set_option autoImplicit false
set_option relaxedAutoImplicit false

namespace EntroTunnel.Client

open EntroTunnel.Core EntroTunnel.Foundation

/-- The gateway of a route or of a command line: an address of either family, or a word that is not
an address. -/
inductive Gateway
  | v4 (addr : Ipv4Addr)
  | v6 (addr : Ipv6Addr)
  | word
  deriving DecidableEq, Repr

/-- Where a route sends packets. -/
inductive NextHop
  | via (gateway : Gateway) (dev : String)
  | onLink (dev : String)
  | unreachable
  deriving DecidableEq, Repr

namespace NextHop

/-- The interface a route is bound to. -/
def device : NextHop → Option String
  | .via _ dev => some dev
  | .onLink dev => some dev
  | .unreachable => none

/-- The next hop of a command selects the next hop of a route: a bare device accepts any gateway. -/
def selects : NextHop → NextHop → Bool
  | .via gateway dev, hop => hop = .via gateway dev
  | .onLink dev, hop => hop.device = some dev
  | .unreachable, hop => hop = .unreachable

@[simp] theorem selects_self (hop : NextHop) : hop.selects hop = true := by
  cases hop <;> simp [selects, device]

end NextHop

/-- One route; `dst` is the family and the prefix, as in `IpPrefix.word`. -/
structure Route where
  dst : List Bool
  hop : NextHop
  deriving DecidableEq, Repr

/-- The part of the host that the client configures. -/
structure Host where
  routes : List Route
  resolv : Option ByteArray

/-- Longest-prefix lookup of an address. -/
def Host.resolve (host : Host) (addr : IpAddr) : Option Route :=
  lookup Route.dst host.routes addr.word

/-! ### Commands -/

/-- The forms of the `ip` command that the client runs. -/
inductive IpCommand
  | addrAdd (net : IpPrefix) (dev : String)
  | linkSetMtu (dev : String) (mtu : UInt16)
  | linkSetUp (dev : String)
  | routeAdd (dst : IpPrefix) (hop : NextHop)
  | routeDel (dst : IpPrefix) (hop : Option NextHop)
  deriving DecidableEq, Repr

/-- The next hop has a gateway of the family of the destination, if it has one. -/
def NextHop.fitsFamily : NextHop → IpAddr → Bool
  | .via (.v4 _) _, .v4 _ => true
  | .via (.v6 _) _, .v6 _ => true
  | .via _ _, _ => false
  | .onLink _, _ => true
  | .unreachable, _ => true

/-- The arguments of `ip route add` are a route. IPv4 refuses bits beyond the length, IPv6 ignores
them. -/
def Accepts (dst : IpPrefix) (hop : NextHop) : Prop :=
  dst.len ≤ dst.addr.width ∧ hop.fitsFamily dst.addr = true ∧
    match dst.addr with
    | .v4 addr => true ∉ (bits addr).drop dst.len
    | .v6 _ => True

instance (dst : IpPrefix) (hop : NextHop) : Decidable (Accepts dst hop) := by
  unfold Accepts
  cases dst.addr <;> infer_instance

/-- The connected route that comes with an address. The kernel installs none for a full-length IPv4
prefix and none for a subnet of `0.0.0.0/8`. -/
def connectedRoute (net : IpPrefix) (dev : String) : Option Route :=
  match net.addr with
  | .v4 _ =>
    if net.len < 32 ∧ true ∈ net.word.take 9 then some ⟨net.word, .onLink dev⟩ else none
  | .v6 _ => some ⟨net.word, .onLink dev⟩

/-- What a route deletion matches: its prefix, and its next hop when one is given. -/
def removes (dst : IpPrefix) (hop : Option NextHop) (route : Route) : Bool :=
  route.dst = dst.word ∧ hop.all fun hop ↦ hop.selects route.hop

/-- Run a command; `none` when it fails. -/
def IpCommand.exec : IpCommand → Host → Option Host
  | .addrAdd net dev, host =>
    if net.len ≤ net.addr.width then
      some { host with routes := host.routes ++ (connectedRoute net dev).toList }
    else none
  | .linkSetMtu _ _, host => some host
  | .linkSetUp _, host => some host
  | .routeAdd dst hop, host =>
    if Accepts dst hop then
      (addNew Route.dst host.routes ⟨dst.word, hop⟩).map fun routes ↦ { host with routes }
    else none
  | .routeDel dst hop, host =>
    if host.routes.any (removes dst hop) then
      some { host with routes := host.routes.eraseP (removes dst hop) }
    else none

/-! ### What the commands leave alone -/

/-- A route of the interface `dev`. -/
def Route.BoundTo (route : Route) (dev : String) : Prop :=
  route.hop.device = some dev

instance (route : Route) (dev : String) : Decidable (route.BoundTo dev) :=
  inferInstanceAs (Decidable (route.hop.device = some dev))

/-- The routes that are not bound to the interface `dev`. -/
def Host.routesOff (host : Host) (dev : String) : List Route :=
  host.routes.filter fun route ↦ ¬ route.BoundTo dev

/-- A connected route leads to its prefix over the interface. -/
theorem eq_of_mem_connectedRoute {net : IpPrefix} {dev : String} {route : Route}
    (hroute : route ∈ (connectedRoute net dev).toList) : route = ⟨net.word, .onLink dev⟩ := by
  rw [Option.mem_toList, connectedRoute] at hroute
  cases haddr : net.addr <;> simp only [haddr] at hroute
  · split_ifs at hroute
    exact (Option.some.inj hroute).symm
  · exact (Option.some.inj hroute).symm

theorem connectedRoute_boundTo {net : IpPrefix} {dev : String} {route : Route}
    (hroute : route ∈ (connectedRoute net dev).toList) : route.BoundTo dev := by
  rw [eq_of_mem_connectedRoute hroute]
  rfl

theorem connectedRoute_dst {net : IpPrefix} {dev : String} {route : Route}
    (hroute : route ∈ (connectedRoute net dev).toList) : route.dst = net.word := by
  rw [eq_of_mem_connectedRoute hroute]

/-- No connected route is an IPv4 default route. -/
theorem connectedRoute_not_default {net : IpPrefix} {dev : String} {route : Route}
    (hroute : route ∈ (connectedRoute net dev).toList) : route.dst ≠ [false] := by
  have hdst := connectedRoute_dst hroute
  intro hdefault
  rw [Option.mem_toList, connectedRoute] at hroute
  cases haddr : net.addr <;> simp only [haddr] at hroute
  · split_ifs at hroute with hsubnet
    rw [← hdst, hdefault] at hsubnet
    simp at hsubnet
  · rw [hdst, IpPrefix.word, haddr, IpAddr.word, List.take_succ_cons] at hdefault
    exact Bool.noConfusion (List.cons.inj hdefault).1

/-- A deletion matches routes of one prefix only. -/
theorem dst_of_removes {dst : IpPrefix} {hop : Option NextHop} {route : Route}
    (hremoves : removes dst hop route = true) : route.dst = dst.word := by
  rw [removes, decide_eq_true_iff] at hremoves
  exact hremoves.1

/-- Without a next hop a deletion matches every route of its prefix. -/
theorem removes_none_iff {dst : IpPrefix} {route : Route} :
    removes dst none route = true ↔ route.dst = dst.word := by
  simp [removes]

/-- Whether a deletion succeeds or not, its first match is gone afterwards. -/
theorem exec_routeDel_getD (dst : IpPrefix) (hop : Option NextHop) (host : Host) :
    ((IpCommand.routeDel dst hop).exec host).getD host =
      { host with routes := host.routes.eraseP (removes dst hop) } := by
  rw [IpCommand.exec]
  split_ifs with hmatch
  · rfl
  · rw [List.eraseP_of_forall_not]
    · rfl
    · simpa using hmatch

end EntroTunnel.Client
