import EntroTunnel.Client.PrimaryService
import EntroTunnel.Client.SetupPlan
import EntroTunnel.Core.AddressParse
import EntroTunnel.Foundation.ScriptOutcome

/-!
# Network setup of the macOS client

`netcfg::apply` and the drop of its guard (`client-core/src/netcfg.rs`) for macOS, as scripts of the
commands `ifconfig`, `route` and `networksetup`, of the looks at what they print, and of the
accesses to `resolv.conf`. The address of the TUN and the two IPv4 capture routes are checked. All
else is best effort, and most undo commands are recorded whether the command succeeded or not.

A checked command that fails ends the script, and the undo commands recorded so far are lost with
it.
-/

set_option autoImplicit false
set_option relaxedAutoImplicit false

namespace EntroTunnel.Client

open EntroTunnel.Core EntroTunnel.Foundation

/-! ### Operations -/

/-- What a route leads to: a host, `-host`, or a network, `-net`. -/
inductive MacTarget
  | host (addr : IpAddr)
  | net (net : IpPrefix)
  deriving DecidableEq

/-- Where a route leads: to a gateway, to a gateway over one interface, or out of an interface. -/
inductive MacHop
  | gateway (text : String)
  | scoped (gateway : Ipv4Addr) (iface : String)
  | interface (iface : String)
  deriving DecidableEq

/-- The commands and the looks of the client. `inet6` stands for the flag of this name. Servers of
a service are given as texts, and none of them stands for the word `empty`. -/
inductive MacOperation
  | ifconfigInet (ifname : String) (ip gateway : Ipv4Addr)
  | ifconfigMtu (ifname : String) (mtu : UInt16)
  | ifconfigInet6 (ifname : String) (ip6 : Ipv6Addr) (bits : ℕ)
  | routeGet (inet6 : Bool)
  | listServices
  | routeAdd (inet6 : Bool) (target : MacTarget) (hop : MacHop)
  | routeDelete (inet6 : Bool) (target : MacTarget) (hop : Option MacHop)
  | setV6Off (service : String)
  | setV6Automatic (service : String)
  | getDns (service : String)
  | setDns (service : String) (servers : List String)
  | readResolv
  | writeResolv (body : String)
  deriving DecidableEq

/-- Whether a command succeeded, or what was printed: with the status where the client looks at the
output whatever it is. -/
abbrev MacOperation.Reply : MacOperation → Type
  | .routeGet _ => Option (Bool × Bytes)
  | .listServices | .getDns _ => Option Bytes
  | .readResolv => Option String
  | _ => Bool

abbrev MacScript := Script MacOperation MacOperation.Reply

/-! ### What the commands print -/

/-- The word after `gateway:` on the first line that has one. -/
def gatewayOf (output : Bytes) : Option String :=
  ((lines (fromUtf8Lossy output)).findSome? fun line ↦
    stripPrefix "gateway:".toList (trim line)).map fun rest ↦ String.ofList (trim rest)

/-- `cmd_out`. -/
def cmdOut (reply : Option (Bool × Bytes)) : Option Bytes :=
  reply.bind fun (ok, output) ↦ if ok then some output else none

/-- `str::parse::<IpAddr>` takes the text. -/
def isIp (text : List Char) : Bool :=
  (parseIpv4 text).isSome || (parseIpv6 text).isSome

/-- The resolvers on the lines of `networksetup -getdnsservers`. -/
def dnsLines (output : Bytes) : List String :=
  (((lines (fromUtf8Lossy output)).map trim).filter isIp).map String.ofList

/-- The virtual subnet, or what stands for it when the length is none. -/
def subnetTarget (welcome : Welcome) : IpPrefix :=
  if welcome.prefixLen.toNat ≤ 32 then
    ⟨.v4 (welcome.assignedIp &&& BitVec.allOnes 32 <<< (32 - welcome.prefixLen.toNat)),
      welcome.prefixLen.toNat⟩
  else ⟨.v4 welcome.assignedIp, welcome.prefixLen.toNat⟩

/-! ### The scripts -/

/-- The guard: the undo commands in order, and the resolver configuration to restore. -/
structure MacGuard where
  undo : List MacOperation
  resolvBackup : Option String
  deriving DecidableEq

namespace MacScript

/-- Run a command whatever becomes of it. -/
def attempt (operation : MacOperation) : MacScript operation.Reply :=
  .act operation .done

/-- `default_gateway`, which does not look at the status. -/
def defaultGateway : MacScript (Option String) :=
  .act (.routeGet false) fun reply : Option (Bool × Bytes) ↦
    .done (reply.bind fun (_, output) ↦ gatewayOf output)

/-- `default_gateway6`. -/
def defaultGateway6 : MacScript (Option String) :=
  .act (.routeGet true) fun reply : Option (Bool × Bytes) ↦
    .done ((cmdOut reply).bind gatewayOf)

/-- `primary_service`. -/
def primaryService : MacScript (Option String) :=
  .act (.routeGet false) fun reply : Option (Bool × Bytes) ↦
    match (cmdOut reply).bind PrimaryService.routeDevice with
    | none => .done none
    | some _ =>
      .act .listServices fun order : Option Bytes ↦
        .done (PrimaryService.netcfgService (cmdOut reply) order)

/-- A route that is added as well as it can be, with its undo command recorded in any case. -/
def tryRoute (inet6 : Bool) (target : MacTarget) (hop : MacHop) (undo : List MacOperation) :
    MacScript (List MacOperation) :=
  .act (.routeAdd inet6 target hop) fun _ : Bool ↦
    .done (undo ++ [.routeDelete inet6 target none])

/-- A checked capture route. -/
def capture (half : IpPrefix) (ifname : String) (undo : List MacOperation) :
    MacScript (List MacOperation) :=
  .act (.routeAdd false (.net half) (.interface ifname)) fun ok : Bool ↦
    if ok then .done (undo ++ [.routeDelete false (.net half) none]) else .fail

/-- The hop of a rule; `none` for `direct` without a default gateway. -/
def ruleHop (peerGateway : Ipv4Addr) (origGateway : Option String) (rule : RouteRule) :
    Option MacHop :=
  if rule.via = "tunnel" then some (.gateway (ipv4Text peerGateway))
  else if rule.via = "direct" then origGateway.map .gateway
  else
    match rule.gateway with
    | some gateway => some (.scoped gateway rule.via)
    | none => some (.interface rule.via)

/-- One target of one rule, with the networks claimed so far. The undo command is the add command
with `delete` in its place, recorded only when the add succeeded. -/
def applyRoute (peerGateway : Ipv4Addr) (origGateway : Option String) (serverIp : IpAddr)
    (rule : RouteRule) (state : List Ipv4Net × List MacOperation) (route : Ipv4Net) :
    MacScript (List Ipv4Net × List MacOperation) :=
  if PassedOver serverIp state.1 route then .done state
  else
    match ruleHop peerGateway origGateway rule with
    | none => .done (route :: state.1, state.2)
    | some hop =>
      .act (.routeAdd false (.net (.ofNet route)) hop) fun ok : Bool ↦
        .done (route :: state.1,
          if ok then state.2 ++ [.routeDelete false (.net (.ofNet route)) (some hop)] else state.2)

/-- `apply_route_rules`. -/
def applyRouteRules (resolver : Resolver) (cfg : ClientConfig) (peerGateway : Ipv4Addr)
    (origGateway : Option String) (serverIp : IpAddr) : MacScript (List MacOperation) := do
  let claimed ← cfg.routes.foldlM (fun state rule ↦
    (resolveRuleTargets resolver rule.target).foldlM
      (applyRoute peerGateway origGateway serverIp rule) state)
        (([], []) : List Ipv4Net × List MacOperation)
  return claimed.2

/-- The pin of the server's address. -/
def pinServer (serverIp : IpAddr) (undo : List MacOperation) : MacScript (List MacOperation) := do
  match ← defaultGateway with
  | some gateway => tryRoute false (.host serverIp) (.gateway gateway) undo
  | none => return undo

/-- With an IPv6 carrier the server's address is pinned to the IPv6 gateway. -/
def pinServer6 (serverIp : IpAddr) (undo : List MacOperation) : MacScript (List MacOperation) :=
  match serverIp with
  | .v4 _ => .done undo
  | .v6 addr => do
    match ← defaultGateway6 with
    | some gateway => tryRoute true (.host (.v6 addr)) (.gateway gateway) undo
    | none => return undo

/-- The IPv6 part of the blacklist branch: capture, kill-switch, or neither. -/
def capture6 (cfg : ClientConfig) (welcome : Welcome) (ifname : String) (serverIp : IpAddr)
    (service : Option String) (undo : List MacOperation) : MacScript (List MacOperation) :=
  if welcome.assignedIp6.isSome then do
    let undo ← pinServer6 serverIp undo
    let undo ← tryRoute true (.net lowHalf6) (.interface ifname) undo
    tryRoute true (.net highHalf6) (.interface ifname) undo
  else if cfg.ipv6Killswitch then
    match service with
    | some service =>
      .act (.setV6Off service) fun _ : Bool ↦ .done (undo ++ [.setV6Automatic service])
    | none => .done undo
  else .done undo

/-- The resolvers of the tunnel as texts. -/
def resolvers (welcome : Welcome) : List String :=
  welcome.dns.map ipv4Text ++ welcome.dns6.map ipv6Text

/-- The resolvers of a service, with the ones it had saved. -/
def setServiceDns (welcome : Welcome) (service : Option String) (undo : List MacOperation) :
    MacScript (List MacOperation) :=
  match service with
  | some service =>
    .act (.getDns service) fun previous : Option Bytes ↦
      .act (.setDns service (resolvers welcome)) fun _ : Bool ↦
        .done (undo ++ [.setDns service ((previous.map dnsLines).getD [])])
  | none => .done undo

/-- The resolver configuration: `resolv.conf`, and the service. -/
def setDns (welcome : Welcome) (service : Option String) (undo : List MacOperation) :
    MacScript MacGuard :=
  if welcome.dns = [] ∧ welcome.dns6 = [] then .done ⟨undo, none⟩
  else
    .act .readResolv fun previous : Option String ↦
      .act (.writeResolv (resolvBody welcome)) fun _ : Bool ↦
        (setServiceDns welcome service undo).bind fun undo ↦ .done ⟨undo, previous⟩

/-- The global-proxy part of `apply`. -/
def globalProxy (cfg : ClientConfig) (welcome : Welcome) (ifname : String) (serverIp : IpAddr)
    (service : Option String) (undo : List MacOperation) : MacScript MacGuard := do
  let undo ← pinServer serverIp undo
  match cfg.splitMode with
  | .whitelist => return ⟨undo, none⟩
  | .blacklist =>
    let undo ← capture lowHalf ifname undo
    let undo ← capture highHalf ifname undo
    let undo ← capture6 cfg welcome ifname serverIp service undo
    setDns welcome service undo

/-- The IPv6 address of the TUN, when the server offers one. -/
def assignIp6 (welcome : Welcome) (ifname : String) : MacScript Unit :=
  match welcome.assignedIp6 with
  | some ip6 =>
    .act (.ifconfigInet6 ifname ip6 (max welcome.prefix6.toNat 1)) fun _ : Bool ↦ .done ()
  | none => .done ()

/-- Address and MTU of the TUN. -/
def bringUp (welcome : Welcome) (ifname : String) : MacScript Unit :=
  .act (.ifconfigInet ifname welcome.assignedIp welcome.gateway) fun ok : Bool ↦
    if ok then .act (.ifconfigMtu ifname welcome.mtu) fun _ : Bool ↦ .done () else .fail

/-- `apply`. The service is looked up before the capture routes hide the default route. -/
def apply (resolver : Resolver) (cfg : ClientConfig) (welcome : Welcome) (ifname : String)
    (serverIp : IpAddr) : MacScript MacGuard := do
  let _ ← bringUp welcome ifname
  let _ ← assignIp6 welcome ifname
  let origGateway ← defaultGateway
  let undo ← applyRouteRules resolver cfg welcome.gateway origGateway serverIp
  let service ← primaryService
  match cfg.mode with
  | .globalProxy => globalProxy cfg welcome ifname serverIp service undo
  | .vpn =>
    let undo ← tryRoute false (.net (subnetTarget welcome)) (.interface ifname) undo
    return ⟨undo, none⟩
  | .httpProxy | .systemProxy => return ⟨undo, none⟩

/-- `NetGuard::drop`: the undo commands in order, whatever becomes of them, and `resolv.conf`. -/
def drop (guard : MacGuard) : MacScript Unit := do
  guard.undo.foldlM (fun _ operation ↦ .act operation fun _ ↦ .done ()) ()
  match guard.resolvBackup with
  | some backup => .act (.writeResolv backup) fun _ : Bool ↦ .done ()
  | none => .done ()

end MacScript

end EntroTunnel.Client
