import EntroTunnel.Client.SetupPlan
import EntroTunnel.Core.Text
import EntroTunnel.Foundation.ScriptOutcome

/-!
# Network setup of the Windows client

`netcfg::apply` and the drop of its guard (`client-core/src/netcfg.rs`) for Windows, as scripts
of the commands `netsh` and `route` and of the looks at what they print. Every command but the
address of the adapter is best effort, and an undo command is recorded only for a command that
succeeded.
-/

set_option autoImplicit false
set_option relaxedAutoImplicit false

namespace EntroTunnel.Client

open EntroTunnel.Core EntroTunnel.Foundation

/-! ### Operations -/

/-- The commands and the looks of the client. `ifname` is the adapter they are about. A route has a
destination, a mask, a gateway, metric 1 or none, and an interface or none. -/
inductive WinOperation
  | setAddress (ifname : String) (ip mask : Ipv4Addr)
  | setMtu (ifname : String) (mtu : UInt16)
  | addAddress6 (ifname : String) (ip6 : Ipv6Addr)
  | showInterfaces
  | printRoutes
  | routeAdd (dest : IpAddr) (mask gateway : Ipv4Addr) (metricOne : Bool) (iface : Option ℕ)
  | routeDelete (dest : IpAddr) (mask gateway : Option Ipv4Addr)
  | addRoute6 (net : IpPrefix) (ifname : String)
  | deleteRoute6 (net : IpPrefix) (ifname : String)
  | setDns (ifname : String) (addr : IpAddr)
  | addDns (ifname : String) (addr : IpAddr) (index : ℕ)
  deriving DecidableEq

/-- Whether a command succeeded, or what was printed. -/
abbrev WinOperation.Reply : WinOperation → Type
  | .showInterfaces | .printRoutes => Option (List Char)
  | _ => Bool

/-- The adapter that a command is about. -/
def WinOperation.adapter : WinOperation → Option String
  | .setAddress ifname _ _ | .setMtu ifname _ | .addAddress6 ifname _ | .addRoute6 _ ifname
  | .deleteRoute6 _ ifname | .setDns ifname _ | .addDns ifname _ _ => some ifname
  | .showInterfaces | .printRoutes | .routeAdd .. | .routeDelete .. => none

abbrev WinScript := Script WinOperation WinOperation.Reply

/-! ### Masks -/

/-- The mask of a prefix length. -/
def prefixToMask (bits : UInt8) : Ipv4Addr :=
  if bits = 0 then 0
  else if 32 ≤ bits then BitVec.allOnes 32
  else BitVec.allOnes 32 <<< (32 - bits.toNat)

/-- The network address and the mask of a network. -/
def splitCidr (net : Ipv4Net) : Ipv4Addr × Ipv4Addr :=
  let mask := BitVec.allOnes 32 <<< (32 - net.prefixLen)
  (net.addr &&& mask, mask)

/-- `255.255.255.255`. -/
def hostMask : Ipv4Addr := BitVec.allOnes 32

/-- `128.0.0.0`. -/
def halfMask : Ipv4Addr := ipv4 128 0 0 0

/-! ### What the commands print -/

/-- `str::parse::<u32>`. -/
def parseU32 (text : List Char) : Option ℕ :=
  let digits := match text with
    | '+' :: rest => rest
    | _ => text
  if digits = [] then none else (decimalFrom 0 digits).filter (· < 0x100000000)

/-- The index of an adapter on a line with the columns index, metric, MTU, state and name. -/
def lineIndex (name line : List Char) : Option ℕ :=
  match splitWhitespace line with
  | index :: _ :: _ :: _ :: word :: words =>
    (parseU32 index).filter fun _ ↦ [' '].intercalate (word :: words) = name
  | _ => none

/-- `if_index` on the output of `netsh interface ipv4 show interfaces`. -/
def ifIndex (output : Option (List Char)) (name : String) : Option ℕ :=
  output.bind fun text ↦ (lines text).findSome? (lineIndex name.toList)

/-- The gateway of a line of a default route. -/
def lineGateway (line : List Char) : Option Ipv4Addr :=
  match splitWhitespace line with
  | dest :: mask :: gateway :: _ =>
    if dest = "0.0.0.0".toList ∧ mask = "0.0.0.0".toList ∧ gateway ≠ "On-link".toList then
      parseIpv4 gateway
    else none
  | _ => none

/-- `default_gateway` on the output of `route print -4 0.0.0.0`. -/
def defaultGateway (output : Option (List Char)) : Option Ipv4Addr :=
  output.bind fun text ↦ (lines text).findSome? lineGateway

/-! ### The scripts -/

namespace WinScript

/-- Run a command whatever becomes of it. -/
def attempt (operation : WinOperation) : WinScript (operation.Reply) :=
  .act operation .done

/-- The undo commands recorded so far. -/
abbrev Undo := List WinOperation

/-- Run a route command, and record how to undo it if it succeeded. -/
def addRoute (dest : IpAddr) (mask gateway : Ipv4Addr) (metricOne : Bool) (iface : Option ℕ)
    (removal : WinOperation) (undo : Undo) : WinScript Undo :=
  .act (.routeAdd dest mask gateway metricOne iface) fun ok : Bool ↦
    .done (if ok then undo ++ [removal] else undo)

/-- The attempts at the address of the adapter. -/
def assignAddress (ifname : String) (ip mask : Ipv4Addr) : ℕ → WinScript Bool
  | 0 => .done false
  | attempts + 1 =>
    .act (.setAddress ifname ip mask) fun ok : Bool ↦
      if ok then .done true else assignAddress ifname ip mask attempts

/-- `set_adapter_ipv4`. -/
def setAdapterIpv4 (ifname : String) (ip mask : Ipv4Addr) (mtu : UInt16) :
    WinScript (Except String Unit) := do
  if ← assignAddress ifname ip mask 10 then
    let _ ← attempt (.setMtu ifname mtu)
    return .ok ()
  else
    return .error ("could not assign " ++ ipv4Text ip ++ " " ++ ipv4Text mask ++ " to " ++ ifname ++
      " via netsh")

/-- The gateway and the interface of a rule, with metric 1 or none. -/
def ruleGateway (tunIndex : Option ℕ) (tunGateway : Ipv4Addr) (origGateway : Option Ipv4Addr)
    (rule : RouteRule) : WinScript (Option (Ipv4Addr × Bool × Option ℕ)) :=
  if rule.via = "tunnel" then
    .done (tunIndex.map fun index ↦ (tunGateway, true, some index))
  else if rule.via = "direct" then .done (origGateway.map fun gateway ↦ (gateway, false, none))
  else
    .act .showInterfaces fun output : Option (List Char) ↦
      .done ((ifIndex output rule.via).map fun index ↦
        (rule.gateway.getD 0, false, some index))

/-- One target of one rule, with the networks claimed so far. -/
def applyRoute (tunIndex : Option ℕ) (tunGateway : Ipv4Addr) (origGateway : Option Ipv4Addr)
    (serverIp : IpAddr) (rule : RouteRule) (state : List Ipv4Net × Undo) (route : Ipv4Net) :
    WinScript (List Ipv4Net × Undo) :=
  if PassedOver serverIp state.1 route then .done state
  else do
    let (dest, mask) := splitCidr route
    match ← ruleGateway tunIndex tunGateway origGateway rule with
    | some (gateway, metricOne, iface) =>
      let undo ← addRoute (.v4 dest) mask gateway metricOne iface
        (.routeDelete (.v4 dest) (some mask) none) state.2
      return (route :: state.1, undo)
    | none => return (route :: state.1, state.2)

/-- `apply_route_rules`. -/
def applyRouteRules (resolver : Resolver) (cfg : ClientConfig) (tunIndex : Option ℕ)
    (tunGateway : Ipv4Addr) (origGateway : Option Ipv4Addr) (serverIp : IpAddr) :
    WinScript Undo := do
  let claimed ← cfg.routes.foldlM (fun state rule ↦
    (resolveRuleTargets resolver rule.target).foldlM
      (applyRoute tunIndex tunGateway origGateway serverIp rule) state)
    (([], []) : List Ipv4Net × Undo)
  return claimed.2

/-- The pin of the server's address. -/
def pinServer (origGateway : Option Ipv4Addr) (serverIp : IpAddr) (undo : Undo) : WinScript Undo :=
  match origGateway with
  | some gateway =>
    addRoute serverIp hostMask gateway false none (.routeDelete serverIp none none) undo
  | none => .done undo

/-- The two IPv4 capture routes. -/
def captureBoth (index : ℕ) (tunGateway : Ipv4Addr) (undo : Undo) : WinScript Undo :=
  [(0 : Ipv4Addr), halfMask].foldlM (fun undo half ↦
    addRoute (.v4 half) halfMask tunGateway true (some index)
      (.routeDelete (.v4 half) (some halfMask) (some tunGateway)) undo) undo

/-- The two IPv6 capture routes, which lead to the tunnel or nowhere. -/
def captureBoth6 (cfg : ClientConfig) (welcome : Welcome) (ifname : String) (serverIp : IpAddr)
    (undo : Undo) : WinScript Undo :=
  match serverIp with
  | .v6 _ => .done undo
  | .v4 _ =>
    if welcome.assignedIp6.isSome ∨ cfg.ipv6Killswitch then
      [lowHalf6, highHalf6].foldlM (fun undo half ↦
        .act (.addRoute6 half ifname) fun ok : Bool ↦
          .done (if ok then undo ++ [.deleteRoute6 half ifname] else undo)) undo
    else .done undo

/-- The resolvers of one family on the adapter: the first replaces, the others follow. -/
def setResolvers (ifname : String) (addrs : List IpAddr) : WinScript Unit :=
  addrs.zipIdx.foldlM (fun _ (addr, index) ↦
    if index = 0 then (attempt (.setDns ifname addr) : WinScript Bool) >>= fun _ ↦ .done ()
    else (attempt (.addDns ifname addr (index + 1)) : WinScript Bool) >>= fun _ ↦ .done ()) ()

/-- The global-proxy part of `apply`. -/
def globalProxy (cfg : ClientConfig) (welcome : Welcome) (ifname : String) (serverIp : IpAddr)
    (index : Option ℕ) (origGateway : Option Ipv4Addr) (undo : Undo) : WinScript Undo := do
  let undo ← pinServer origGateway serverIp undo
  match cfg.splitMode, index with
  | .blacklist, some index =>
    let undo ← captureBoth index welcome.gateway undo
    let undo ← captureBoth6 cfg welcome ifname serverIp undo
    let _ ← setResolvers ifname (welcome.dns.map IpAddr.v4)
    let _ ← setResolvers ifname (welcome.dns6.map IpAddr.v6)
    return undo
  | _, _ => return undo

/-- The IPv6 address of the adapter, when the server offers one. -/
def assignIp6 (welcome : Welcome) (ifname : String) : WinScript Unit :=
  match welcome.assignedIp6 with
  | some ip6 => (attempt (.addAddress6 ifname ip6) : WinScript Bool) >>= fun _ ↦ .done ()
  | none => .done ()

/-- What follows the address of the adapter. -/
def route (resolver : Resolver) (cfg : ClientConfig) (welcome : Welcome) (ifname : String)
    (serverIp : IpAddr) : WinScript Undo := do
  let _ ← assignIp6 welcome ifname
  let interfaces ← attempt .showInterfaces
  let routes ← attempt .printRoutes
  let index := ifIndex interfaces ifname
  let origGateway := defaultGateway routes
  let undo ← applyRouteRules resolver cfg index welcome.gateway origGateway serverIp
  match cfg.mode with
  | .globalProxy => globalProxy cfg welcome ifname serverIp index origGateway undo
  | .vpn | .httpProxy | .systemProxy => return undo

/-- `apply`: the undo commands of the guard, or the error. -/
def apply (resolver : Resolver) (cfg : ClientConfig) (welcome : Welcome) (ifname : String)
    (serverIp : IpAddr) : WinScript (Except String Undo) := do
  match ← setAdapterIpv4 ifname welcome.assignedIp (prefixToMask welcome.prefixLen) welcome.mtu with
  | .error error => return .error error
  | .ok () =>
    let undo ← route resolver cfg welcome ifname serverIp
    return .ok undo

/-- `NetGuard::drop`: the undo commands in order, whatever becomes of them. -/
def drop (undo : Undo) : WinScript Unit :=
  undo.foldlM (fun _ operation ↦ .act operation fun _ ↦ .done ()) ()

end WinScript

end EntroTunnel.Client
