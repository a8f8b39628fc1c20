import EntroTunnel.Client.HostNetwork
import EntroTunnel.Client.Profile
import EntroTunnel.Core.AddressText
import Mathlib.Data.List.Destutter
import Mathlib.Data.List.Sort

/-!
# Network setup of the Linux client

`netcfg::apply` and the teardown of its guard, from `client-core/src/netcfg.rs`. Setup runs `ip`
commands one after the other: bring-up of the TUN, the split-tunnel rules, the pin of the server's
address, the capture routes of both families and the resolver configuration. `runIp` is checked, and
a failure leaves the host as it is then; `tryIp` ignores a failure. `NetGuard.drop` runs the
recorded undo commands in order and restores `resolv.conf`.

`Environment` holds what the program does not decide: which commands fail for a reason outside the
routing table (one decision for each place of `apply` that issues one), what the name resolver
answers, and what becomes of reading and writing `resolv.conf`.
-/

set_option autoImplicit false
set_option relaxedAutoImplicit false

namespace EntroTunnel.Client

open EntroTunnel.Core EntroTunnel.Foundation

/-! ### Environment -/

/-- The places of `apply` that run a command. A rule's route is attempted at most once for each
network, so the network names the place. -/
inductive Site
  | addrAdd
  | linkMtu
  | linkUp
  | addrAdd6
  | showDefault
  | rule (net : Ipv4Net)
  | pin
  | captureLow
  | captureHigh
  | showDefault6
  | pin6
  | capture6Low
  | capture6High
  | blockLow
  | blockHigh
  deriving DecidableEq, Repr

/-- What the parsers make of a rule target, and what the system resolver answers. -/
structure Resolver where
  parseIpv4Net : String → Option Ipv4Net
  parseIpv4Addr : String → Option Ipv4Addr
  parsesAsIp : String → Bool
  lookupHost : String → Option (List IpAddr)

/-- What becomes of a write to an existing file: all of it is written, it cannot be opened, or the
write fails after the file was truncated and some bytes were written. -/
inductive WriteOutcome
  | written
  | notOpened
  | cut (count : ℕ)
  deriving DecidableEq, Repr

/-- What the program does not decide during setup. -/
structure Environment where
  refuses : Site → Bool
  resolver : Resolver
  resolvReadable : Bool
  resolvWrite : WriteOutcome

/-! ### Guard -/

/-- The undo commands, in order, and the resolver configuration to restore. -/
structure NetGuard where
  undo : List IpCommand
  resolvBackup : Option String
  deriving DecidableEq

/-- `std::fs::read_to_string`. -/
def readToString (readable : Bool) (file : Option ByteArray) : Option String :=
  if readable then file.bind String.fromUTF8? else none

/-- Truncate a file and write it anew; a missing file is not created. -/
def writeInPlace (outcome : WriteOutcome) (contents : String) :
    Option ByteArray → Option ByteArray
  | none => none
  | some previous =>
    match outcome with
    | .written => some contents.toUTF8
    | .notOpened => some previous
    | .cut count => some (contents.toUTF8.extract 0 count)

/-- Run the undo commands in order, ignoring their status, and restore `resolv.conf`. -/
def NetGuard.drop (guard : NetGuard) (host : Host) : Host :=
  let undone := guard.undo.foldl (fun host command ↦ (command.exec host).getD host) host
  match guard.resolvBackup with
  | some backup => { undone with resolv := writeInPlace .written backup undone.resolv }
  | none => undone

/-! ### Running commands -/

/-- The state of `apply`: the host and the guard being built. -/
structure Setup where
  host : Host
  guard : NetGuard

/-- Run a command at a place of `apply`. -/
def issue (env : Environment) (site : Site) (command : IpCommand) (host : Host) : Option Host :=
  if env.refuses site then none else command.exec host

/-- A checked command. On failure `apply` returns early and what is left is the host as it is; the
undo commands recorded so far are lost with the local vector that holds them. -/
def runIp (env : Environment) (site : Site) (command : IpCommand) (setup : Setup) :
    Except Host Setup :=
  match issue env site command setup.host with
  | some host => .ok { setup with host }
  | none => .error setup.host

/-- A best-effort command. -/
def tryIp (env : Environment) (site : Site) (command : IpCommand) (setup : Setup) : Setup :=
  { setup with host := (issue env site command setup.host).getD setup.host }

/-- Record an undo command. -/
def Setup.record (setup : Setup) (command : IpCommand) : Setup :=
  { setup with guard := { setup.guard with undo := setup.guard.undo ++ [command] } }

/-- The words after `via` and `dev` on the first line that `ip route show default` prints for a
family, both of which must be there. A gateway of the other family is printed with the name of its
family in front, and that name is the word after `via`. -/
def firstDefault (family : Bool) (host : Host) : Option (Gateway × String) :=
  match host.routes.find? fun route ↦ route.dst = [family] with
  | some ⟨_, .via gateway dev⟩ =>
    match family, gateway with
    | false, .v4 addr => some (.v4 addr, dev)
    | true, .v6 addr => some (.v6 addr, dev)
    | _, _ => some (.word, dev)
  | _ => none

/-- `default_route`. -/
def defaultRoute (env : Environment) (host : Host) : Option (Gateway × String) :=
  if env.refuses .showDefault then none else firstDefault false host

/-- `default_route6`. -/
def defaultRoute6 (env : Environment) (host : Host) : Option (Gateway × String) :=
  if env.refuses .showDefault6 then none else firstDefault true host

/-! ### Split-tunnel rules -/

/-- The network `ip/32`. -/
def hostNet (addr : Ipv4Addr) : Ipv4Net := Core.host addr

/-- The IPv4 networks a rule target stands for. Domains resolve to their IPv4 answers, sorted as
texts and without repetitions. -/
def resolveRuleTargets (resolver : Resolver) (target : String) : List Ipv4Net :=
  match resolver.parseIpv4Net target with
  | some net => [net]
  | none =>
    match resolver.parseIpv4Addr target with
    | some addr => [hostNet addr]
    | none =>
      if resolver.parsesAsIp target then []
      else
        match resolver.lookupHost target with
        | none => []
        | some addrs =>
          let found := addrs.filterMap fun
            | .v4 addr => some addr
            | .v6 _ => none
          let sorted := found.insertionSort fun first second ↦ ¬ ipv4Text second < ipv4Text first
          (sorted.destutter (· ≠ ·)).map hostNet

/-- The next hop of a rule; `none` for `direct` without a default route. -/
def ruleHop (ifname : String) (orig : Option (Gateway × String)) (rule : RouteRule) :
    Option NextHop :=
  if rule.via = "tunnel" then some (.onLink ifname)
  else if rule.via = "direct" then orig.map fun (gateway, dev) ↦ .via gateway dev
  else
    match rule.gateway with
    | some gateway => some (.via (.v4 gateway) rule.via)
    | none => some (.onLink rule.via)

/-- The loop state of `apply_route_rules`. -/
structure RuleState where
  seen : List Ipv4Net
  setup : Setup

/-- One target of one rule. The undo command is the add command with `del` in its place, recorded
only when the add succeeded. -/
def applyRoute (env : Environment) (ifname : String) (orig : Option (Gateway × String))
    (serverIp : IpAddr) (rule : RouteRule) (state : RuleState) (route : Ipv4Net) : RuleState :=
  if IpPrefix.ofNet route = ⟨serverIp, 32⟩ then state
  else if route ∈ state.seen then state
  else
    let seen := route :: state.seen
    match ruleHop ifname orig rule with
    | none => ⟨seen, state.setup⟩
    | some hop =>
      let add := IpCommand.routeAdd (.ofNet route) hop
      match runIp env (.rule route) add state.setup with
      | .ok setup => ⟨seen, setup.record (.routeDel (.ofNet route) (some hop))⟩
      | .error _ => ⟨seen, state.setup⟩

/-- `apply_route_rules`. -/
def applyRouteRules (env : Environment) (cfg : ClientConfig) (ifname : String)
    (orig : Option (Gateway × String)) (serverIp : IpAddr) (setup : Setup) : Setup :=
  (cfg.routes.foldl (fun state rule ↦
    (resolveRuleTargets env.resolver rule.target).foldl
      (applyRoute env ifname orig serverIp rule) state) ⟨[], setup⟩).setup

/-! ### Setup -/

/-- The two halves of each family that stand in for a default route. -/
def lowHalf : IpPrefix := ⟨.v4 0, 1⟩

def highHalf : IpPrefix := ⟨.v4 (ipv4 128 0 0 0), 1⟩

def lowHalf6 : IpPrefix := ⟨.v6 0, 1⟩

def highHalf6 : IpPrefix := ⟨.v6 (BitVec.twoPow 128 127), 1⟩

@[simp] theorem word_lowHalf : lowHalf.word = [false, false] := by decide

@[simp] theorem word_highHalf : highHalf.word = [false, true] := by decide

@[simp] theorem word_lowHalf6 : lowHalf6.word = [true, false] := by decide

@[simp] theorem word_highHalf6 : highHalf6.word = [true, true] := by decide

/-- The server's IPv6 parameters bring an address for the TUN. -/
def assignIp6 (env : Environment) (welcome : Welcome) (ifname : String) (setup : Setup) : Setup :=
  match welcome.assignedIp6 with
  | some ip6 =>
    tryIp env .addrAdd6 (.addrAdd ⟨.v6 ip6, max welcome.prefix6.toNat 1⟩ ifname) setup
  | none => setup

/-- Pin the server's address to the physical gateway. The undo command is recorded whatever becomes
of the add. -/
def pinServer (env : Environment) (orig : Option (Gateway × String)) (serverIp : IpAddr)
    (setup : Setup) : Setup :=
  match orig with
  | some (gateway, dev) =>
    (tryIp env .pin (.routeAdd ⟨serverIp, 32⟩ (.via gateway dev)) setup).record
      (.routeDel ⟨serverIp, 32⟩ none)
  | none => setup

/-- A checked capture route. -/
def capture (env : Environment) (site : Site) (half : IpPrefix) (ifname : String) (setup : Setup) :
    Except Host Setup :=
  (runIp env site (.routeAdd half (.onLink ifname)) setup).map fun setup ↦
    setup.record (.routeDel half none)

/-- A best-effort route for one IPv6 half, its undo command recorded in any case. -/
def tryHalf6 (env : Environment) (site : Site) (half : IpPrefix) (hop : NextHop) (setup : Setup) :
    Setup :=
  (tryIp env site (.routeAdd half hop) setup).record (.routeDel half none)

/-- With an IPv6 carrier the server's address is pinned to the physical IPv6 gateway. -/
def pinServer6 (env : Environment) (serverIp : IpAddr) (setup : Setup) : Setup :=
  match serverIp with
  | .v4 _ => setup
  | .v6 addr =>
    match defaultRoute6 env setup.host with
    | some (gateway, dev) =>
      (tryIp env .pin6 (.routeAdd ⟨.v6 addr, 128⟩ (.via gateway dev)) setup).record
        (.routeDel ⟨.v6 addr, 128⟩ none)
    | none => setup

/-- The IPv6 part of the blacklist branch: capture, kill-switch, or neither. -/
def capture6 (env : Environment) (cfg : ClientConfig) (welcome : Welcome) (ifname : String)
    (serverIp : IpAddr) (setup : Setup) : Setup :=
  if welcome.assignedIp6.isSome then
    let setup := pinServer6 env serverIp setup
    let setup := tryHalf6 env .capture6Low lowHalf6 (.onLink ifname) setup
    tryHalf6 env .capture6High highHalf6 (.onLink ifname) setup
  else if cfg.ipv6Killswitch then
    let setup := tryHalf6 env .blockLow lowHalf6 .unreachable setup
    tryHalf6 env .blockHigh highHalf6 .unreachable setup
  else setup

/-- The resolver configuration that setup writes: the IPv4 resolvers, then the IPv6 ones. -/
def resolvBody (welcome : Welcome) : String :=
  String.join ((welcome.dns.map ipv4Text ++ welcome.dns6.map ipv6Text).map fun text ↦
    "nameserver " ++ text ++ "\n")

/-- Take a backup of `resolv.conf`, if it can be read, and write the tunnel's resolvers. -/
def setDns (env : Environment) (welcome : Welcome) (setup : Setup) : Setup :=
  if welcome.dns = [] ∧ welcome.dns6 = [] then setup
  else
    { host :=
        { setup.host with
          resolv := writeInPlace env.resolvWrite (resolvBody welcome) setup.host.resolv }
      guard :=
        { setup.guard with resolvBackup := readToString env.resolvReadable setup.host.resolv } }

/-- The blacklist branch: capture all traffic and send DNS through the tunnel. -/
def captureAll (env : Environment) (cfg : ClientConfig) (welcome : Welcome) (ifname : String)
    (serverIp : IpAddr) (setup : Setup) : Except Host Setup := do
  let setup ← capture env .captureLow lowHalf ifname setup
  let setup ← capture env .captureHigh highHalf ifname setup
  return setDns env welcome (capture6 env cfg welcome ifname serverIp setup)

/-- Address, MTU and state of the TUN. -/
def bringUp (env : Environment) (welcome : Welcome) (ifname : String) (setup : Setup) :
    Except Host Setup := do
  let cidr : IpPrefix := ⟨.v4 welcome.assignedIp, welcome.prefixLen.toNat⟩
  let setup ← runIp env .addrAdd (.addrAdd cidr ifname) setup
  let setup ← runIp env .linkMtu (.linkSetMtu ifname welcome.mtu) setup
  runIp env .linkUp (.linkSetUp ifname) setup

/-- The part of `apply` that follows the bring-up. -/
def route (env : Environment) (cfg : ClientConfig) (welcome : Welcome) (ifname : String)
    (serverIp : IpAddr) (setup : Setup) : Except Host Setup :=
  let setup := assignIp6 env welcome ifname setup
  let orig := defaultRoute env setup.host
  let setup := applyRouteRules env cfg ifname orig serverIp setup
  match cfg.mode with
  | .globalProxy =>
    let setup := pinServer env orig serverIp setup
    match cfg.splitMode with
    | .whitelist => .ok setup
    | .blacklist => captureAll env cfg welcome ifname serverIp setup
  | .vpn | .httpProxy | .systemProxy => .ok setup

/-- `apply`: the host and the guard on success, the host as it is left on failure. -/
def apply (env : Environment) (cfg : ClientConfig) (welcome : Welcome) (ifname : String)
    (serverIp : IpAddr) (host : Host) : Except Host Setup := do
  let setup ← bringUp env welcome ifname ⟨host, ⟨[], none⟩⟩
  route env cfg welcome ifname serverIp setup

/-! ### An uneventful setup -/

/-- An environment in which no command fails, `resolv.conf` can be read and written, and no name
resolves. -/
def calmEnvironment : Environment where
  refuses := fun _ ↦ false
  resolver :=
    { parseIpv4Net := fun _ ↦ none
      parseIpv4Addr := fun _ ↦ none
      parsesAsIp := fun _ ↦ false
      lookupHost := fun _ ↦ none }
  resolvReadable := true
  resolvWrite := .written

/-- The acceptance of a server that offers IPv4 only and no resolvers. -/
def ipv4Welcome : Welcome where
  sessionId := 0
  assignedIp := ipv4 10 66 0 2
  prefixLen := 24
  gateway := ipv4 10 66 0 1
  mtu := 1280
  dns := []
  assignedIp6 := none
  prefix6 := 0
  gateway6 := none
  dns6 := []

/-- A host behind an IPv4 router. -/
def routedHost : Host where
  routes := [⟨[false], .via (.v4 (ipv4 192 168 1 1)) "eth0"⟩]
  resolv := none

end EntroTunnel.Client
