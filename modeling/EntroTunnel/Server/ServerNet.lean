import EntroTunnel.Core.AddressText
import EntroTunnel.Core.Text
import EntroTunnel.Foundation.Assignments
import EntroTunnel.Foundation.RuleList
import Mathlib.Data.UInt

/-!
# Server network setup and teardown

`net::setup` with `setup_ipv6` and the `drop` of `ServerNet`, on a host that has the rule lists of
`iptables` and `ip6tables` and the forwarding settings. A command is its program and its arguments
as the source builds them, `exec` is its effect, and `Outside.fails` says which commands fail. The
settings of the TUN are gone with it and are left out.

`drop_setup_iff` says exactly when the teardown leaves the host as it was: no setting was changed,
nothing but copies of the masquerade rule stood behind its first copy, and every rule was deleted as
often as it was added.
-/

set_option autoImplicit false
set_option relaxedAutoImplicit false

namespace EntroTunnel.Server.Net

open EntroTunnel.Core EntroTunnel.Foundation

/-! ### The host -/

/-- Which of the two programs: `iptables` or `ip6tables`. -/
inductive Family
  | v4
  | v6
  deriving DecidableEq, Repr

/-- A rule: its arguments after the name of the chain. -/
abbrev Rule := List String

/-- The chains `POSTROUTING` of the table `nat` and `FORWARD` of the table `filter`. -/
@[ext]
structure FirewallRules where
  nat : List Rule
  forward : List Rule
  deriving DecidableEq, Repr

/-- The settings of the host that the commands write. A change of `net.ipv4.ip_forward` goes on to
the interfaces as well; writing the value that it has does not. -/
inductive Setting
  | ipForward
  | allSendRedirects
  | allForwarding6
  | forwarding6 (interface : String)
  deriving DecidableEq, Repr

@[ext]
structure HostNet where
  rules : Family → FirewallRules
  sysctl : Setting → String

/-- The effect of an `iptables` command; a deletion takes out the first equal rule. -/
def FirewallRules.exec (rules : FirewallRules) : List String → FirewallRules
  | "-t" :: "nat" :: "-A" :: "POSTROUTING" :: rule => { rules with nat := rules.nat ++ [rule] }
  | "-t" :: "nat" :: "-D" :: "POSTROUTING" :: rule => { rules with nat := rules.nat.erase rule }
  | "-I" :: "FORWARD" :: rule => { rules with forward := rule :: rules.forward }
  | "-D" :: "FORWARD" :: rule => { rules with forward := rules.forward.erase rule }
  | _ => rules

/-- What `sysctl -w` writes. The IPv6 setting of all interfaces is written to each of them. -/
def settingWrites (interfaces : List String) (text : String) : List (Setting × String) :=
  if text = "net.ipv4.ip_forward=1" then [(.ipForward, "1")]
  else if text = "net.ipv4.conf.all.send_redirects=0" then [(.allSendRedirects, "0")]
  else if text = "net.ipv6.conf.all.forwarding=1" then
    (.allForwarding6, "1") :: interfaces.map fun interface ↦ (.forwarding6 interface, "1")
  else []

def HostNet.withRules (host : HostNet) (family : Family) (rules : FirewallRules) : HostNet where
  rules := Function.update host.rules family rules
  sysctl := host.sysctl

/-- The effect of a command that does not fail. -/
def exec (interfaces : List String) (cmd : String) (args : List String) (host : HostNet) :
    HostNet :=
  match cmd, args with
  | "iptables", args => host.withRules .v4 ((host.rules .v4).exec args)
  | "ip6tables", args => host.withRules .v6 ((host.rules .v6).exec args)
  | "sysctl", ["-w", text] =>
    { host with sysctl := assign (settingWrites interfaces text) host.sysctl }
  | _, _ => host

/-! ### The commands of the server -/

/-- The rules of the chain `FORWARD`: from the TUN out, the answers, and peer to peer. -/
inductive ForwardRule
  | outward
  | inward
  | hairpin
  deriving DecidableEq, Repr

/-- The order in which the rules are inserted and deleted. -/
def ForwardRule.all : List ForwardRule :=
  [.outward, .inward, .hairpin]

/-- The places of the source at which a command is run; `undo` has the index of the entry. -/
inductive Site
  | address
  | mtu
  | up
  | ipForward
  | tunRedirects
  | allRedirects
  | masquerade (family : Family)
  | forward (family : Family) (rule : ForwardRule)
  | address6
  | allForwarding6
  | tunForwarding6
  | dropAddress6
  | undo (index : ℕ)
  deriving DecidableEq, Repr

/-- How a command fails: it cannot be started, or it ends with an error. -/
inductive Fault
  | spawn (error : String)
  | status (stderr : Bytes)

structure TunConfig where
  name : String
  ip : Ipv4Addr
  prefixLen : UInt8
  mtu : UInt16
  deriving DecidableEq, Repr

/-- What the server does not determine: the name of the TUN or why there is none, the output of
`ip route show default` and of its IPv6 form, the length of an IPv6 subnet in CIDR notation, the
interfaces of the host, and which commands fail. -/
structure Outside where
  tun : TunConfig → Except String String
  routes : Except String Bytes
  routes6 : Except String Bytes
  prefixLen6 : String → Option ℕ
  interfaces : List String
  fails : Site → Option Fault

/-- The command at a place does not fail. -/
def Outside.works (outside : Outside) (site : Site) : Bool :=
  (outside.fails site).isNone

/-- `run`, its effect on the host. -/
def Outside.run (outside : Outside) (site : Site) (cmd : String) (args : List String)
    (host : HostNet) : HostNet :=
  if outside.works site then exec outside.interfaces cmd args host else host

/-- `run`, its result. -/
def Outside.outcome (outside : Outside) (site : Site) (cmd : String) (args : List String) :
    Except String Unit :=
  match outside.fails site with
  | none => .ok ()
  | some (.spawn error) => .error ("spawn `" ++ cmd ++ "`: " ++ error)
  | some (.status stderr) =>
    .error ("`" ++ cmd ++ " " ++ " ".intercalate args ++ "` failed: " ++
      String.ofList (trim (fromUtf8Lossy stderr)))

/-- The word after the first `dev`. -/
def deviceOf (output : Bytes) : Option String :=
  let toks := (splitWhitespace (fromUtf8Lossy output)).map String.ofList
  (toks.findIdx? (· = "dev")).bind fun index ↦ toks[index + 1]?

def Outside.detectEgress (outside : Outside) : Except String String :=
  match outside.routes with
  | .error error => .error ("ip route: " ++ error)
  | .ok output =>
    match deviceOf output with
    | none => .error "could not detect egress interface"
    | some device => .ok device

def Outside.detectEgress6 (outside : Outside) : Option String :=
  match outside.routes6 with
  | .error _ => none
  | .ok output => deviceOf output

/-- The closure `masq` of `setup` and of `setup_ipv6`. -/
def masq (subnet egress action : String) : List String :=
  ["-t", "nat", action, "POSTROUTING", "-s", subnet, "-o", egress, "-j", "MASQUERADE"]

def fwdOut (ifname egress action : String) : List String :=
  [action, "FORWARD", "-i", ifname, "-o", egress, "-j", "ACCEPT"]

def fwdIn (ifname egress action : String) : List String :=
  [action, "FORWARD", "-i", egress, "-o", ifname, "-m", "state", "--state", "RELATED,ESTABLISHED",
    "-j", "ACCEPT"]

def fwdHairpin (ifname action : String) : List String :=
  [action, "FORWARD", "-i", ifname, "-o", ifname, "-j", "ACCEPT"]

def ForwardRule.args (ifname egress action : String) : ForwardRule → List String
  | .outward => fwdOut ifname egress action
  | .inward => fwdIn ifname egress action
  | .hairpin => fwdHairpin ifname action

def Family.program : Family → String
  | .v4 => "iptables"
  | .v6 => "ip6tables"

/-- The loop over the three rules. -/
def Outside.insertForwards (outside : Outside) (family : Family) (ifname egress : String)
    (host : HostNet) : HostNet :=
  ForwardRule.all.foldl
    (fun host rule ↦
      outside.run (.forward family rule) family.program (rule.args ifname egress "-I") host) host

/-- The three entries that are pushed for the rules. -/
def undoForwards (family : Family) (ifname egress : String) : List (String × List String) :=
  ForwardRule.all.map fun rule ↦ (family.program, rule.args ifname egress "-D")

structure NetworkConfig where
  gateway : Ipv4Addr
  mtu : UInt16
  tunName : String
  egressIface : Option String
  subnet6 : Option String
  gateway6 : Option Ipv6Addr
  deriving DecidableEq, Repr

structure ServerNet where
  tun : String
  egress : String
  ipv6 : Bool
  undo : List (String × List String)
  deriving DecidableEq, Repr

/-- The address argument of `ip -6 addr`. -/
def address6 (outside : Outside) (gateway6 : Ipv6Addr) (subnet6 : String) : String :=
  ipv6Text gateway6 ++ "/" ++ toString ((outside.prefixLen6 subnet6).getD 64)

/-- `setup_ipv6`: its result, the list of undo commands and the host. -/
def setupIpv6 (outside : Outside) (net : NetworkConfig) (ifname : String)
    (undo : List (String × List String)) (host : HostNet) :
    Bool × List (String × List String) × HostNet :=
  match net.subnet6, net.gateway6 with
  | some subnet6, some gateway6 =>
    match outside.detectEgress6 with
    | none => (false, undo, host)
    | some egress6 =>
      let host := outside.run .address6 "ip"
        ["-6", "addr", "add", address6 outside gateway6 subnet6, "dev", ifname] host
      let host := outside.run .allForwarding6 "sysctl" ["-w", "net.ipv6.conf.all.forwarding=1"] host
      let host := outside.run .tunForwarding6 "sysctl"
        ["-w", "net.ipv6.conf." ++ ifname ++ ".forwarding=1"] host
      match outside.outcome (.masquerade .v6) "ip6tables" (masq subnet6 egress6 "-A") with
      | .error _ =>
        -- Only the address is taken back; the settings stay written.
        (false, undo, outside.run .dropAddress6 "ip"
          ["-6", "addr", "del", address6 outside gateway6 subnet6, "dev", ifname] host)
      | .ok () =>
        let host := outside.run (.masquerade .v6) "ip6tables" (masq subnet6 egress6 "-A") host
        let undo := undo ++ [("ip6tables", masq subnet6 egress6 "-D")]
        let host := outside.insertForwards .v6 ifname egress6 host
        (true, undo ++ undoForwards .v6 ifname egress6, host)
  | _, _ => (false, undo, host)

/-- The interface that the address translation sends through. -/
def egressFor (outside : Outside) (net : NetworkConfig) : Except String String :=
  match net.egressIface with
  | some egress => .ok egress
  | none => outside.detectEgress

/-- `setup`: its result and the host. -/
def setup (outside : Outside) (net : NetworkConfig) (prefixLen : UInt8) (subnet : String)
    (host : HostNet) : Except String ServerNet × HostNet :=
  match outside.tun ⟨net.tunName, net.gateway, prefixLen, net.mtu⟩ with
  | .error error => (.error error, host)
  | .ok ifname =>
    let host := outside.run .address "ip"
      ["addr", "add", ipv4Text net.gateway ++ "/" ++ toString prefixLen, "dev", ifname] host
    let mtuArgs := ["link", "set", "dev", ifname, "mtu", toString net.mtu]
    let host := outside.run .mtu "ip" mtuArgs host
    match outside.outcome .mtu "ip" mtuArgs with
    | .error error => (.error error, host)
    | .ok () =>
      let host := outside.run .up "ip" ["link", "set", "dev", ifname, "up"] host
      match outside.outcome .up "ip" ["link", "set", "dev", ifname, "up"] with
      | .error error => (.error error, host)
      | .ok () =>
        let host := outside.run .ipForward "sysctl" ["-w", "net.ipv4.ip_forward=1"] host
        let host := outside.run .tunRedirects "sysctl"
          ["-w", "net.ipv4.conf." ++ ifname ++ ".send_redirects=0"] host
        let host := outside.run .allRedirects "sysctl"
          ["-w", "net.ipv4.conf.all.send_redirects=0"] host
        match egressFor outside net with
        | .error error => (.error error, host)
        | .ok egress =>
          let host := outside.run (.masquerade .v4) "iptables" (masq subnet egress "-A") host
          let undo := [("iptables", masq subnet egress "-D")]
          let host := outside.insertForwards .v4 ifname egress host
          let undo := undo ++ undoForwards .v4 ifname egress
          let (ipv6, undo, host) := setupIpv6 outside net ifname undo host
          (.ok { tun := ifname, egress, ipv6, undo }, host)

/-- The loop of `drop` from an index of the list on. -/
def dropFrom (outside : Outside) : ℕ → List (String × List String) → HostNet → HostNet
  | _, [], host => host
  | index, (cmd, args) :: rest, host =>
    dropFrom outside (index + 1) rest (outside.run (.undo index) cmd args host)

/-- The teardown: `Drop` runs every entry and ignores how it ends. -/
def ServerNet.drop (outside : Outside) (server : ServerNet) (host : HostNet) : HostNet :=
  dropFrom outside 0 server.undo host

/-! ### What a command does -/

@[simp] theorem withRules_rules (host : HostNet) (family : Family) (rules : FirewallRules) :
    (host.withRules family rules).rules family = rules := by
  simp [HostNet.withRules]

theorem withRules_rules_of_ne (host : HostNet) {family other : Family} (hother : other ≠ family)
    (rules : FirewallRules) : (host.withRules family rules).rules other = host.rules other := by
  rw [HostNet.withRules]
  exact Function.update_of_ne hother rules host.rules

@[simp] theorem withRules_sysctl (host : HostNet) (family : Family) (rules : FirewallRules) :
    (host.withRules family rules).sysctl = host.sysctl := rfl

@[simp] theorem withRules_withRules (host : HostNet) (family : Family)
    (first second : FirewallRules) :
    (host.withRules family first).withRules family second = host.withRules family second := by
  rw [HostNet.withRules, HostNet.withRules, HostNet.withRules, Function.update_idem]

@[simp] theorem withRules_self (host : HostNet) (family : Family) :
    host.withRules family (host.rules family) = host := by
  rw [HostNet.withRules, Function.update_eq_self]

/-- The masquerade rule. -/
def masqRule (subnet egress : String) : Rule :=
  ["-s", subnet, "-o", egress, "-j", "MASQUERADE"]

def ForwardRule.rule (ifname egress : String) (rule : ForwardRule) : Rule :=
  (rule.args ifname egress "-I").drop 2

theorem masq_eq (subnet egress action : String) :
    masq subnet egress action =
      "-t" :: "nat" :: action :: "POSTROUTING" :: masqRule subnet egress := rfl

theorem args_eq (ifname egress action : String) (rule : ForwardRule) :
    rule.args ifname egress action = action :: "FORWARD" :: rule.rule ifname egress := by
  cases rule <;> rfl

section Commands

variable (outside : Outside) (site : Site) (host : HostNet)

@[simp] theorem run_ip (args : List String) : outside.run site "ip" args host = host :=
  ite_self host

/-- The settings that a `sysctl` command writes. -/
def Outside.written (text : String) : List (Setting × String) :=
  if outside.works site then settingWrites outside.interfaces text else []

theorem run_sysctl (text : String) :
    outside.run site "sysctl" ["-w", text] host =
      { host with sysctl := assign (outside.written site text) host.sysctl } := by
  rw [Outside.run, Outside.written]
  split
  · rfl
  · rfl

theorem run_program (family : Family) (args : List String) :
    outside.run site family.program args host =
      host.withRules family
        (if outside.works site then (host.rules family).exec args else host.rules family) := by
  rw [Outside.run]
  split
  · cases family <;> rfl
  · exact (withRules_self host family).symm

theorem outcome_eq_ok_iff (cmd : String) (args : List String) :
    outside.outcome site cmd args = .ok () ↔ outside.works site = true := by
  rw [Outside.outcome, Outside.works]
  cases hfault : outside.fails site with
  | none => simp
  | some fault => cases fault <;> simp

end Commands

/-! ### The rules of a family -/

section Rules

variable (outside : Outside) (family : Family) (subnet ifname egress : String) (host : HostNet)

/-- The forward rules that are inserted. -/
def Outside.inserted (rules : List ForwardRule) : List Rule :=
  (rules.filter fun rule ↦ outside.works (.forward family rule)).map (·.rule ifname egress)

/-- The forward rules that are deleted by the undo commands from an index on. -/
def Outside.deleted : ℕ → List ForwardRule → List Rule
  | _, [] => []
  | index, rule :: rest =>
    (if outside.works (.undo index) then [rule.rule ifname egress] else []) ++
      Outside.deleted (index + 1) rest

/-- The rules of a family after the setup. -/
def Outside.installed (rules : FirewallRules) : FirewallRules where
  nat := rules.nat ++ if outside.works (.masquerade family) then [masqRule subnet egress] else []
  forward := (outside.inserted family ifname egress ForwardRule.all).reverse ++ rules.forward

/-- The rules of a family after its undo commands from an index on. -/
def Outside.removed (index : ℕ) (rules : FirewallRules) : FirewallRules where
  nat := if outside.works (.undo index) then rules.nat.erase (masqRule subnet egress) else rules.nat
  forward := rules.forward.diff (outside.deleted ifname egress (index + 1) ForwardRule.all)

theorem foldl_insert (rules : List ForwardRule) :
    rules.foldl (fun host rule ↦ outside.run (.forward family rule) family.program
        (rule.args ifname egress "-I") host) host =
      host.withRules family
        { host.rules family with
          forward := (outside.inserted family ifname egress rules).reverse ++
            (host.rules family).forward } := by
  induction rules generalizing host with
  | nil => exact (withRules_self host family).symm
  | cons rule rest ih =>
    rw [List.foldl_cons, ih, run_program, args_eq]
    by_cases hworks : outside.works (.forward family rule) = true
    · simp [hworks, Outside.inserted, FirewallRules.exec]
    · simp [hworks, Outside.inserted]

/-- The setup of a family: the masquerade rule and then the loop. -/
theorem insertForwards_run :
    outside.insertForwards family ifname egress
        (outside.run (.masquerade family) family.program (masq subnet egress "-A") host) =
      host.withRules family
        (outside.installed family subnet ifname egress (host.rules family)) := by
  rw [Outside.insertForwards, foldl_insert, run_program, masq_eq]
  by_cases hworks : outside.works (.masquerade family) = true
  · simp [hworks, Outside.installed, FirewallRules.exec]
  · simp [hworks, Outside.installed]

theorem dropFrom_append (index : ℕ) (first second : List (String × List String)) :
    dropFrom outside index (first ++ second) host =
      dropFrom outside (index + first.length) second (dropFrom outside index first host) := by
  induction first generalizing index host with
  | nil => rfl
  | cons entry rest ih =>
    rw [List.cons_append, dropFrom, ih, dropFrom, List.length_cons, Nat.add_right_comm,
      Nat.add_assoc]

theorem dropFrom_forwards (index : ℕ) (rules : List ForwardRule) :
    dropFrom outside index
        (rules.map fun rule ↦ (family.program, rule.args ifname egress "-D")) host =
      host.withRules family
        { host.rules family with
          forward := (host.rules family).forward.diff
            (outside.deleted ifname egress index rules) } := by
  induction rules generalizing index host with
  | nil => exact (withRules_self host family).symm
  | cons rule rest ih =>
    rw [List.map_cons, dropFrom, ih, run_program, args_eq]
    by_cases hworks : outside.works (.undo index) = true
    · simp [hworks, Outside.deleted, FirewallRules.exec]
    · simp [hworks, Outside.deleted]

/-- The undo commands of a family. -/
def undoEntries : List (String × List String) :=
  (family.program, masq subnet egress "-D") :: undoForwards family ifname egress

theorem dropFrom_undoEntries (index : ℕ) :
    dropFrom outside index (undoEntries family subnet ifname egress) host =
      host.withRules family
        (outside.removed subnet ifname egress index (host.rules family)) := by
  rw [undoEntries, undoForwards, dropFrom, dropFrom_forwards, run_program, masq_eq]
  by_cases hworks : outside.works (.undo index) = true
  · simp [hworks, Outside.removed, FirewallRules.exec]
  · simp [hworks, Outside.removed]

/-- When the undo commands of a family leave its rules as they were: behind the first copy of an
added masquerade rule is no other rule, a rule is deleted as often as it was added, and no old rule
is one that is deleted without having been added. -/
structure Returns (index : ℕ) (rules : FirewallRules) : Prop where
  added : outside.works (.masquerade family) = true →
    outside.works (.undo index) = true ∧
      ∀ other ∈ rules.nat.dropWhile (· != masqRule subnet egress), other = masqRule subnet egress
  skipped : outside.works (.masquerade family) = false → outside.works (.undo index) = true →
    masqRule subnet egress ∉ rules.nat
  deleted : (outside.inserted family ifname egress ForwardRule.all).diff
    (outside.deleted ifname egress (index + 1) ForwardRule.all) = []
  others : ∀ rule ∈ (outside.deleted ifname egress (index + 1) ForwardRule.all).diff
    (outside.inserted family ifname egress ForwardRule.all), rule ∉ rules.forward

theorem removed_installed_iff (index : ℕ) (rules : FirewallRules) :
    outside.removed subnet ifname egress index
        (outside.installed family subnet ifname egress rules) = rules ↔
      Returns outside family subnet ifname egress index rules := by
  have hnat : (outside.removed subnet ifname egress index
        (outside.installed family subnet ifname egress rules)).nat = rules.nat ↔
      (outside.works (.masquerade family) = true → outside.works (.undo index) = true ∧
        ∀ other ∈ rules.nat.dropWhile (· != masqRule subnet egress),
          other = masqRule subnet egress) ∧
      (outside.works (.masquerade family) = false → outside.works (.undo index) = true →
        masqRule subnet egress ∉ rules.nat) := by
    cases hadded : outside.works (.masquerade family) <;>
      cases hundo : outside.works (.undo index)
    · simp [Outside.removed, Outside.installed, hadded, hundo]
    · simp [Outside.removed, Outside.installed, hadded, hundo, List.erase_eq_self_iff]
    · simp [Outside.removed, Outside.installed, hadded, hundo]
    · simp only [Outside.removed, Outside.installed, hadded, hundo, if_true]
      rw [concat_erase_eq_iff]
      simp
  have hforward : (outside.removed subnet ifname egress index
        (outside.installed family subnet ifname egress rules)).forward = rules.forward ↔
      (outside.inserted family ifname egress ForwardRule.all).diff
          (outside.deleted ifname egress (index + 1) ForwardRule.all) = [] ∧
        ∀ rule ∈ (outside.deleted ifname egress (index + 1) ForwardRule.all).diff
          (outside.inserted family ifname egress ForwardRule.all), rule ∉ rules.forward := by
    have hperm := List.reverse_perm (outside.inserted family ifname egress ForwardRule.all)
    have hleft := hperm.diff_right (outside.deleted ifname egress (index + 1) ForwardRule.all)
    dsimp only [Outside.removed, Outside.installed]
    rw [append_diff_eq_iff, hperm.diff_left, ← List.perm_nil, ← List.perm_nil]
    exact and_congr_left' ⟨hleft.symm.trans, hleft.trans⟩
  rw [FirewallRules.ext_iff, hnat, hforward]
  exact ⟨fun ⟨⟨hadded, hskipped⟩, hdeleted, hothers⟩ ↦ ⟨hadded, hskipped, hdeleted, hothers⟩,
    fun hreturns ↦ ⟨⟨hreturns.added, hreturns.skipped⟩, hreturns.deleted, hreturns.others⟩⟩

end Rules

/-! ### Setup and teardown -/

section Teardown

variable (outside : Outside) (net : NetworkConfig)

/-- The IPv6 subnet and egress interface, when both are there and IPv6 is on. -/
def plan6 : Option (String × String) :=
  match net.subnet6, net.gateway6, outside.detectEgress6 with
  | some subnet6, some _, some egress6 => some (subnet6, egress6)
  | _, _, _ => none

/-- The IPv6 subnet and egress interface, when the masquerade rule of IPv6 goes in. -/
def served6 : Option (String × String) :=
  if outside.works (.masquerade .v6) then plan6 outside net else none

/-- The settings that the IPv6 setup writes. -/
def settings6 (ifname : String) : List (Setting × String) :=
  match plan6 outside net with
  | none => []
  | some _ =>
    outside.written .allForwarding6 "net.ipv6.conf.all.forwarding=1" ++
      outside.written .tunForwarding6 ("net.ipv6.conf." ++ ifname ++ ".forwarding=1")

/-- The settings that the setup writes. -/
def settings (ifname : String) : List (Setting × String) :=
  outside.written .ipForward "net.ipv4.ip_forward=1" ++
    (outside.written .tunRedirects ("net.ipv4.conf." ++ ifname ++ ".send_redirects=0") ++
      (outside.written .allRedirects "net.ipv4.conf.all.send_redirects=0" ++
        settings6 outside net ifname))

/-- The undo commands of IPv6. -/
def entries6 (ifname : String) : List (String × List String) :=
  match served6 outside net with
  | none => []
  | some (subnet6, egress6) => undoEntries .v6 subnet6 ifname egress6

/-- The IPv6 rules after the setup. -/
def installed6 (ifname : String) (rules : FirewallRules) : FirewallRules :=
  match served6 outside net with
  | none => rules
  | some (subnet6, egress6) => outside.installed .v6 subnet6 ifname egress6 rules

/-- The IPv6 rules after the undo commands of IPv6, from an index on. -/
def removed6 (ifname : String) (index : ℕ) (rules : FirewallRules) : FirewallRules :=
  match served6 outside net with
  | none => rules
  | some (subnet6, egress6) => outside.removed subnet6 ifname egress6 index rules

theorem setupIpv6_eq (ifname : String) (undo : List (String × List String)) (host : HostNet) :
    (setupIpv6 outside net ifname undo host).2 =
      (undo ++ entries6 outside net ifname,
        { host with sysctl := assign (settings6 outside net ifname) host.sysctl }.withRules .v6
          (installed6 outside net ifname (host.rules .v6))) := by
  have hoff (hplan : plan6 outside net = none) :
      (undo ++ entries6 outside net ifname,
        { host with sysctl := assign (settings6 outside net ifname) host.sysctl }.withRules .v6
          (installed6 outside net ifname (host.rules .v6))) = (undo, host) := by
    simp [entries6, settings6, installed6, served6, hplan, assign, HostNet.withRules]
  rw [setupIpv6]
  split
  · next subnet6 gateway6 hsubnet hgateway =>
    split
    · next hegress => exact (hoff (by simp [plan6, hegress])).symm
    · next egress6 hegress =>
      have hplan : plan6 outside net = some (subnet6, egress6) := by
        rw [plan6, hsubnet, hgateway, hegress]
      simp only [run_ip, run_sysctl]
      split
      · next hfailed =>
        have hworks : ¬outside.works (.masquerade .v6) = true := by
          intro hworks
          rw [(outcome_eq_ok_iff ..).mpr hworks] at hfailed
          cases hfailed
        simp [entries6, settings6, installed6, served6, hworks, hplan, assign_append,
          HostNet.withRules]
      · next hok =>
        have hworks := (outcome_eq_ok_iff ..).mp hok
        have hrun := insertForwards_run outside .v6 subnet6 ifname egress6
        simp only [Family.program] at hrun
        simp [entries6, settings6, installed6, served6, hworks, hplan, hrun, assign_append,
          undoEntries, Family.program, HostNet.withRules]
  · next hnone =>
    refine (hoff ?_).symm
    rw [plan6]
    split
    · next hsubnet hgateway _ => exact absurd hgateway (hnone _ _ hsubnet)
    · rfl

/-- What a successful setup has read, recorded and done. -/
theorem setup_ok {outside : Outside} {net : NetworkConfig} {prefixLen : UInt8} {subnet : String}
    {host after : HostNet} {server : ServerNet}
    (hsetup : setup outside net prefixLen subnet host = (.ok server, after)) :
    outside.tun ⟨net.tunName, net.gateway, prefixLen, net.mtu⟩ = .ok server.tun ∧
      egressFor outside net = .ok server.egress ∧
      server.undo = undoEntries .v4 subnet server.tun server.egress ++
        entries6 outside net server.tun ∧
      after =
        ({ host with sysctl := assign (settings outside net server.tun) host.sysctl }.withRules .v4
          (outside.installed .v4 subnet server.tun server.egress (host.rules .v4))).withRules .v6
            (installed6 outside net server.tun (host.rules .v6)) := by
  rw [setup] at hsetup
  split at hsetup
  · cases hsetup
  · next ifname htun =>
    simp only [run_ip, run_sysctl] at hsetup
    split at hsetup
    · cases hsetup
    · split at hsetup
      · cases hsetup
      · split at hsetup
        · cases hsetup
        · next egress hegress =>
          have hrun := insertForwards_run outside .v4 subnet ifname egress
          simp only [Family.program] at hrun
          rw [hrun] at hsetup
          injection hsetup with hserver hafter
          cases hserver
          subst hafter
          refine ⟨htun, hegress, congrArg Prod.fst (setupIpv6_eq outside net ifname _ _),
            (congrArg Prod.snd (setupIpv6_eq outside net ifname _ _)).trans ?_⟩
          simp [settings, assign_append, HostNet.withRules]

theorem dropFrom_entries6 (ifname : String) (index : ℕ) (host : HostNet) :
    dropFrom outside index (entries6 outside net ifname) host =
      host.withRules .v6 (removed6 outside net ifname index (host.rules .v6)) := by
  rw [entries6, removed6]
  cases hserved : served6 outside net with
  | none => exact (withRules_self host .v6).symm
  | some plan => exact dropFrom_undoEntries outside .v6 plan.1 ifname plan.2 host index

theorem withRules_eq_iff (host : HostNet) (sysctl : Setting → String)
    (rules rules6 : FirewallRules) :
    ({ host with sysctl }.withRules .v4 rules).withRules .v6 rules6 = host ↔
      sysctl = host.sysctl ∧ rules = host.rules .v4 ∧ rules6 = host.rules .v6 := by
  constructor
  · intro hsame
    rw [← hsame]
    exact ⟨rfl, by simp [HostNet.withRules], by simp⟩
  · rintro ⟨rfl, rfl, rfl⟩
    rw [withRules_self, withRules_self]

/-- When the teardown leaves the host as it was: every setting has the value that is written to it,
and the rules of each family that is set up return. -/
def Restorable (prefixLen : UInt8) (subnet : String) (host : HostNet) : Prop :=
  ∃ ifname egress, outside.tun ⟨net.tunName, net.gateway, prefixLen, net.mtu⟩ = .ok ifname ∧
    egressFor outside net = .ok egress ∧
    (∀ write ∈ settings outside net ifname, host.sysctl write.1 = write.2) ∧
    Returns outside .v4 subnet ifname egress 0 (host.rules .v4) ∧
    ∀ plan, served6 outside net = some plan →
      Returns outside .v6 plan.1 ifname plan.2 4 (host.rules .v6)

/-- No setting is written with two values. -/
def Setting.serverValue : Setting → String
  | .allSendRedirects => "0"
  | _ => "1"

theorem snd_of_mem_written {site : Site} {text : String} {write : Setting × String}
    (hwrite : write ∈ outside.written site text) : write.2 = write.1.serverValue := by
  rw [Outside.written] at hwrite
  split at hwrite
  · rw [settingWrites] at hwrite
    split at hwrite
    · cases List.mem_singleton.mp hwrite
      rfl
    · split at hwrite
      · cases List.mem_singleton.mp hwrite
        rfl
      · split at hwrite
        · rcases List.mem_cons.mp hwrite with rfl | hinterface
          · rfl
          · obtain ⟨interface, -, rfl⟩ := List.mem_map.mp hinterface
            rfl
        · cases hwrite
  · cases hwrite

theorem snd_of_mem_settings {ifname : String} {write : Setting × String}
    (hwrite : write ∈ settings outside net ifname) : write.2 = write.1.serverValue := by
  simp only [settings, settings6, List.mem_append] at hwrite
  rcases hwrite with hwrite | hwrite | hwrite | hwrite
  · exact snd_of_mem_written outside hwrite
  · exact snd_of_mem_written outside hwrite
  · exact snd_of_mem_written outside hwrite
  · split at hwrite
    · cases hwrite
    · rcases List.mem_append.mp hwrite with hwrite | hwrite
      · exact snd_of_mem_written outside hwrite
      · exact snd_of_mem_written outside hwrite

end Teardown

/-- The setup succeeds when there is a TUN, the two commands that bring it up work and there is an
egress interface. -/
theorem exists_setup {outside : Outside} {net : NetworkConfig} {prefixLen : UInt8}
    {ifname egress : String}
    (htun : outside.tun ⟨net.tunName, net.gateway, prefixLen, net.mtu⟩ = .ok ifname)
    (hmtu : outside.works .mtu = true) (hup : outside.works .up = true)
    (hegress : egressFor outside net = .ok egress) (subnet : String) (host : HostNet) :
    ∃ server after, setup outside net prefixLen subnet host = (.ok server, after) := by
  have hlink (args : List String) : outside.outcome .mtu "ip" args = .ok () :=
    (outcome_eq_ok_iff ..).mpr hmtu
  have hset (args : List String) : outside.outcome .up "ip" args = .ok () :=
    (outcome_eq_ok_iff ..).mpr hup
  simp only [setup, htun, hlink, hset, hegress]
  exact ⟨_, _, rfl⟩

/-- The host after setup and teardown. -/
theorem drop_setup {outside : Outside} {net : NetworkConfig} {prefixLen : UInt8}
    {subnet : String} {host after : HostNet} {server : ServerNet}
    (hsetup : setup outside net prefixLen subnet host = (.ok server, after)) :
    server.drop outside after =
      ({ host with sysctl := assign (settings outside net server.tun) host.sysctl }.withRules .v4
        (outside.removed subnet server.tun server.egress 0
          (outside.installed .v4 subnet server.tun server.egress (host.rules .v4)))).withRules .v6
            (removed6 outside net server.tun 4
              (installed6 outside net server.tun (host.rules .v6))) := by
  obtain ⟨htun, hegress, hundo, hafter⟩ := setup_ok hsetup
  rw [ServerNet.drop, hundo, dropFrom_append, dropFrom_undoEntries, dropFrom_entries6, hafter]
  refine HostNet.ext (funext fun family ↦ ?_) rfl
  cases family <;> simp [HostNet.withRules, undoEntries, undoForwards, ForwardRule.all]

/-- After a successful setup the teardown leaves the rule lists and the settings as they were before
exactly if the host is `Restorable`. -/
theorem drop_setup_iff {outside : Outside} {net : NetworkConfig} {prefixLen : UInt8}
    {subnet : String} {host after : HostNet} {server : ServerNet}
    (hsetup : setup outside net prefixLen subnet host = (.ok server, after)) :
    server.drop outside after = host ↔ Restorable outside net prefixLen subnet host := by
  obtain ⟨htun, hegress, -, -⟩ := setup_ok hsetup
  have hrules6 : removed6 outside net server.tun 4
      (installed6 outside net server.tun (host.rules .v6)) = host.rules .v6 ↔
      ∀ plan, served6 outside net = some plan →
        Returns outside .v6 plan.1 server.tun plan.2 4 (host.rules .v6) := by
    rw [removed6, installed6]
    cases hserved : served6 outside net with
    | none => simp
    | some plan =>
      simp only [Option.some.injEq, forall_eq']
      exact removed_installed_iff outside .v6 plan.1 server.tun plan.2 4 (host.rules .v6)
  rw [drop_setup hsetup, withRules_eq_iff, hrules6, removed_installed_iff,
    assign_eq_self_iff_forall fun write ↦ snd_of_mem_settings outside net]
  constructor
  · exact fun hsame ↦ ⟨server.tun, server.egress, htun, hegress, hsame⟩
  · rintro ⟨ifname, egress, hname, hdevice, hsame⟩
    cases htun.symm.trans hname
    cases hegress.symm.trans hdevice
    exact hsame

section Hosts

/-- Every command works. -/
def plainOutside : Outside where
  tun := fun config ↦ .ok config.name
  routes := .ok []
  routes6 := .ok ("default dev eth0".toList.map fun char ↦ char.toNat.toUInt8)
  prefixLen6 := fun _ ↦ some 64
  interfaces := ["lo", "eth0"]
  fails := fun _ ↦ none

def plainNetwork : NetworkConfig where
  gateway := 0x0A420001
  mtu := 1420
  tunName := "et0"
  egressIface := some "eth0"
  subnet6 := some "fd66::/64"
  gateway6 := some 0xFD660000000000000000000000000001

/-- A host that does not forward, with a rule of its own behind a masquerade rule that was left by
an earlier run. -/
def leftoverHost : HostNet where
  rules := fun _ ↦ ⟨[masqRule "10.66.0.0/24" "eth0", ["-j", "RETURN"]], []⟩
  sysctl := fun _ ↦ "0"

/-- A host that has every setting of the server and rules of its own. -/
def routerHost : HostNet where
  rules := fun _ ↦ ⟨[["-j", "ACCEPT"]], [["-j", "DROP"]]⟩
  sysctl := Setting.serverValue

theorem served6_plain : served6 plainOutside plainNetwork = some ("fd66::/64", "eth0") := by
  decide +kernel

/-- A host that had every setting of the server is as it was when the server is dropped. -/
theorem drop_setup_iff_router :
    ∃ server after,
      setup plainOutside plainNetwork 24 "10.66.0.0/24" routerHost = (.ok server, after) ∧
        server.drop plainOutside after = routerHost := by
  obtain ⟨server, after, hsetup⟩ := @exists_setup plainOutside plainNetwork 24 "et0" "eth0"
    rfl rfl rfl rfl "10.66.0.0/24" routerHost
  have hsettings : ∀ write ∈ settings plainOutside plainNetwork "et0",
      routerHost.sysctl write.1 = write.2 :=
    fun write hwrite ↦ (snd_of_mem_settings _ _ hwrite).symm
  refine ⟨server, after, hsetup, (drop_setup_iff hsetup).mpr
    ⟨"et0", "eth0", rfl, rfl, hsettings, ⟨by decide, by decide, by decide, by decide⟩, ?_⟩⟩
  intro plan hplan
  cases served6_plain.symm.trans hplan
  exact ⟨by decide, by decide, by decide, by decide⟩

/-- The host forwards after the teardown although it did not before the setup, and the masquerade
rule that was there is the last one now. -/
theorem leftoverHost_changed :
    ∃ server after,
      setup plainOutside plainNetwork 24 "10.66.0.0/24" leftoverHost = (.ok server, after) ∧
        (server.drop plainOutside after).sysctl .ipForward ≠ leftoverHost.sysctl .ipForward ∧
        ((server.drop plainOutside after).rules .v4).nat ≠ (leftoverHost.rules .v4).nat := by
  obtain ⟨server, after, hsetup⟩ := @exists_setup plainOutside plainNetwork 24 "et0" "eth0"
    rfl rfl rfl rfl "10.66.0.0/24" leftoverHost
  obtain ⟨htun, hegress, -⟩ := setup_ok hsetup
  have hname : server.tun = "et0" := (Except.ok.inj htun).symm
  have hdevice : server.egress = "eth0" := (Except.ok.inj hegress).symm
  refine ⟨server, after, hsetup, ?_⟩
  rw [drop_setup hsetup, hname, hdevice]
  have hforward : (Setting.ipForward, "1") ∈ settings plainOutside plainNetwork "et0" :=
    List.mem_append_left _ (by decide)
  have hsetting := assign_eq_of_mem
    (fun write ↦ snd_of_mem_settings plainOutside plainNetwork) leftoverHost.sysctl hforward
  dsimp only at hsetting
  have hnat : (plainOutside.removed "10.66.0.0/24" "et0" "eth0" 0
      (plainOutside.installed .v4 "10.66.0.0/24" "et0" "eth0" (leftoverHost.rules .v4))).nat ≠
      (leftoverHost.rules .v4).nat := by
    decide
  constructor
  · rw [withRules_sysctl, withRules_sysctl]
    dsimp only
    rw [hsetting]
    decide
  · rw [withRules_rules_of_ne _ (by decide), withRules_rules]
    exact hnat

end Hosts

end EntroTunnel.Server.Net
