import EntroTunnel.Core.Address
import EntroTunnel.Core.TextRules

/-!
# Addresses as text

`Display` of the standard library's addresses: dotted decimal for IPv4, and for IPv6 the compressed
form, in which the longest run of at least two zero groups, the first of several, becomes `::` and
an IPv4-mapped address ends in dotted decimal. `parseIpv4_ipv4Text` reads an IPv4 address back.
-/

set_option autoImplicit false
set_option relaxedAutoImplicit false

namespace EntroTunnel.Core

/-- The octets of an IPv4 address. -/
def octets (addr : Ipv4Addr) : List ℕ :=
  [24, 16, 8, 0].map fun shift ↦ (addr.toNat >>> shift) % 256

/-- `Ipv4Addr::to_string`. -/
def ipv4Text (addr : Ipv4Addr) : String :=
  ".".intercalate ((octets addr).map toString)

theorem parseOctet_toDigits : ∀ octet < 256, parseOctet (Nat.toDigits 10 octet) = some octet := by
  decide +kernel

theorem mapM_parseOctet {values : List ℕ} (hvalues : ∀ value ∈ values, value < 256) :
    (values.map (Nat.toDigits 10)).mapM parseOctet = some values := by
  induction values with
  | nil => rfl
  | cons value rest ih =>
    rw [List.forall_mem_cons] at hvalues
    rw [List.map_cons, List.mapM_cons, parseOctet_toDigits value hvalues.1, ih hvalues.2]
    rfl

theorem toNat_append {first second : ℕ} (high : BitVec first) (low : BitVec second) :
    (high ++ low).toNat = high.toNat <<< second + low.toNat := by
  rw [BitVec.toNat_append, ← Nat.shiftLeft_add_eq_or_of_lt low.isLt]

/-- An address is put together from its octets. -/
theorem ipv4_octets (addr : Ipv4Addr) :
    ipv4 (.ofNat (addr.toNat >>> 24 % 256)) (.ofNat (addr.toNat >>> 16 % 256))
      (.ofNat (addr.toNat >>> 8 % 256)) (.ofNat (addr.toNat >>> 0 % 256)) = addr := by
  apply BitVec.eq_of_toNat_eq
  have haddr := addr.isLt
  simp only [ipv4, toNat_append, UInt8.toNat_toBitVec, UInt8.toNat_ofNat',
    Nat.shiftLeft_eq, Nat.shiftRight_eq_div_pow]
  omega

theorem toList_ipv4Text (addr : Ipv4Addr) :
    (ipv4Text addr).toList = ['.'].intercalate ((octets addr).map (Nat.toDigits 10)) := by
  have hdigits : String.toList ∘ toString = Nat.toDigits 10 :=
    funext fun octet ↦ String.toList_ofList
  rw [ipv4Text, String.toList_intercalate, List.map_map, hdigits]
  rfl

/-- An address is read back from its text. -/
theorem parseIpv4_ipv4Text (addr : Ipv4Addr) : parseIpv4 (ipv4Text addr).toList = some addr := by
  have hoctets : ∀ octet ∈ octets addr, octet < 256 := by
    intro octet hoctet
    obtain ⟨shift, -, rfl⟩ := List.mem_map.mp hoctet
    exact Nat.mod_lt _ (by decide)
  have hdots : ∀ text ∈ (octets addr).map (Nat.toDigits 10), '.' ∉ text := by
    intro text htext hdot
    obtain ⟨octet, -, rfl⟩ := List.mem_map.mp htext
    exact absurd (Nat.isDigit_of_mem_toDigits (by decide) (by decide) hdot) (by decide)
  rw [parseIpv4, toList_ipv4Text, List.splitOn_intercalate _ hdots (by simp [octets]),
    mapM_parseOctet hoctets]
  exact congrArg some (ipv4_octets addr)

/-- The eight 16-bit groups of an IPv6 address. -/
def segments (addr : Ipv6Addr) : List ℕ :=
  [112, 96, 80, 64, 48, 32, 16, 0].map fun shift ↦ (addr.toNat >>> shift) % 65536

/-- A run of zero groups. -/
structure ZeroRun where
  start : ℕ
  length : ℕ
  deriving DecidableEq, Repr

/-- The longest run of zero groups, the first among equals. `index` is the position of the next
group and `current` the run that ends before it. -/
def longestZeroRun (index : ℕ) (current longest : ZeroRun) : List ℕ → ZeroRun
  | [] => longest
  | group :: rest =>
    if group = 0 then
      let extended : ZeroRun :=
        if current.length = 0 then ⟨index, 1⟩ else ⟨current.start, current.length + 1⟩
      longestZeroRun (index + 1) extended
        (if longest.length < extended.length then extended else longest) rest
    else longestZeroRun (index + 1) ⟨0, 0⟩ longest rest

/-- Groups in hexadecimal without leading zeros, separated by colons. -/
def groupsText (groups : List ℕ) : String :=
  ":".intercalate (groups.map fun group ↦ String.ofList (Nat.toDigits 16 group))

/-- `Ipv6Addr::to_string`. -/
def ipv6Text (addr : Ipv6Addr) : String :=
  let groups := segments addr
  if groups.take 6 = [0, 0, 0, 0, 0, 65535] then
    "::ffff:" ++ ipv4Text (addr.setWidth 32)
  else
    let zeros := longestZeroRun 0 ⟨0, 0⟩ ⟨0, 0⟩ groups
    if 1 < zeros.length then
      groupsText (groups.take zeros.start) ++ "::" ++
        groupsText (groups.drop (zeros.start + zeros.length))
    else groupsText groups

example : ipv6Text (0xfd66 <<< 112 ||| 0x0a420002) = "fd66::a42:2" := by decide +kernel

end EntroTunnel.Core
