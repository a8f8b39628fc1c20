import Mathlib.Data.List.OfFn

/-!
# Addresses and networks

IPv4 and IPv6 addresses are bit vectors of 32 and 128 bits. `bits` spells an address as a word,
most significant bit first, so that a network is a prefix of the addresses in it: `Network.word` is
that prefix and `Network.Contains` the prefix relation. A network is written as an address and a
length, as in `10.66.0.2/24`, and the address may carry bits beyond the length
(`Network.HostBitsClear`).

`IpAddr.word` puts the family in front of the bits. A prefix of such a word fixes the family first,
so one routing table keyed by these words serves both families. `IpPrefix` is the `ADDR/LEN`
argument of a command, whose length nothing bounds.
-/

set_option autoImplicit false
set_option relaxedAutoImplicit false

namespace EntroTunnel.Core

abbrev Ipv4Addr := BitVec 32

abbrev Ipv6Addr := BitVec 128

/-- `std::net::IpAddr`. -/
inductive IpAddr
  | v4 (addr : Ipv4Addr)
  | v6 (addr : Ipv6Addr)
  deriving DecidableEq, Repr

/-- The IPv4 address `a.b.c.d`. -/
def ipv4 (a b c d : UInt8) : Ipv4Addr :=
  a.toBitVec ++ b.toBitVec ++ c.toBitVec ++ d.toBitVec

/-- An address as a word, most significant bit first. -/
def bits {w : ℕ} (addr : BitVec w) : List Bool :=
  List.ofFn fun index : Fin w ↦ addr.getMsbD index

@[simp] theorem length_bits {w : ℕ} (addr : BitVec w) : (bits addr).length = w :=
  List.length_ofFn

theorem bits_injective {w : ℕ} : Function.Injective (bits : BitVec w → List Bool) := by
  intro first second hbits
  refine BitVec.eq_of_getMsbD_eq fun index hindex ↦ ?_
  exact congrFun (List.ofFn_injective hbits) ⟨index, hindex⟩

/-- A network as it is written: an address and the length of its prefix. -/
structure Network (w : ℕ) where
  addr : BitVec w
  prefixLen : ℕ
  prefixLen_le : prefixLen ≤ w
  deriving DecidableEq, Repr

abbrev Ipv4Net := Network 32

abbrev Ipv6Net := Network 128

namespace Network

variable {w : ℕ}

/-- The leading bits that all addresses of the network share. -/
def word (net : Network w) : List Bool :=
  (bits net.addr).take net.prefixLen

/-- The address lies in the network. -/
def Contains (net : Network w) (addr : BitVec w) : Prop :=
  net.word <+: bits addr

instance (net : Network w) (addr : BitVec w) : Decidable (net.Contains addr) :=
  inferInstanceAs (Decidable (net.word <+: bits addr))

/-- The address is written without bits beyond the prefix length. -/
def HostBitsClear (net : Network w) : Prop :=
  true ∉ (bits net.addr).drop net.prefixLen

instance (net : Network w) : Decidable net.HostBitsClear :=
  inferInstanceAs (Decidable (true ∉ (bits net.addr).drop net.prefixLen))

@[simp] theorem length_word (net : Network w) : net.word.length = net.prefixLen := by
  rw [word, List.length_take, length_bits, min_eq_left net.prefixLen_le]

/-- The addresses of a network agree with it in the bits of its prefix. -/
theorem contains_iff (net : Network w) (addr : BitVec w) :
    net.Contains addr ↔
      ∀ index < net.prefixLen, addr.getMsbD index = net.addr.getMsbD index := by
  have hlength : ∀ other : BitVec w, ((bits other).take net.prefixLen).length = net.prefixLen := by
    intro other
    rw [List.length_take, length_bits, min_eq_left net.prefixLen_le]
  have hword : net.Contains addr ↔ net.word = (bits addr).take net.prefixLen := by
    rw [Contains, List.prefix_iff_eq_take, length_word]
  have hget : ∀ (other : BitVec w) (index : ℕ), index < net.prefixLen →
      ((bits other).take net.prefixLen)[index]? = some (other.getMsbD index) := by
    intro other index hindex
    rw [List.getElem?_take_of_lt hindex, bits, List.getElem?_ofFn,
      dif_pos (hindex.trans_le net.prefixLen_le)]
  rw [hword, word]
  constructor
  · intro hsame index hindex
    have hbit := hget addr index hindex
    rw [← hsame, hget net.addr index hindex] at hbit
    exact (Option.some.inj hbit).symm
  · intro hbits
    refine List.ext_getElem? fun index ↦ ?_
    by_cases hindex : index < net.prefixLen
    · rw [hget _ index hindex, hget _ index hindex, hbits index hindex]
    · rw [List.getElem?_eq_none (by rw [hlength]; omega),
        List.getElem?_eq_none (by rw [hlength]; omega)]

/-- Networks written without host bits are equal as soon as their prefixes are. -/
theorem eq_of_word_eq {first second : Network w} (hfirst : first.HostBitsClear)
    (hsecond : second.HostBitsClear) (hword : first.word = second.word) : first = second := by
  have hlen : first.prefixLen = second.prefixLen := by
    rw [← length_word first, ← length_word second, hword]
  have htail : ∀ net : Network w, net.HostBitsClear →
      (bits net.addr).drop net.prefixLen = List.replicate (w - net.prefixLen) false := by
    intro net hclear
    refine List.eq_replicate_of_mem (a := false) (fun bit hbit ↦ ?_) |>.trans (by simp)
    cases bit with
    | false => rfl
    | true => exact absurd hbit hclear
  have hbits : bits first.addr = bits second.addr := by
    rw [← List.take_append_drop first.prefixLen (bits first.addr),
      ← List.take_append_drop second.prefixLen (bits second.addr), htail first hfirst,
      htail second hsecond, hlen]
    exact congrArg (· ++ _) (by simpa only [word, hlen] using hword)
  cases first
  cases second
  simp_all [bits_injective.eq_iff]

end Network

/-- The network that holds one address only. -/
def host {w : ℕ} (addr : BitVec w) : Network w where
  addr := addr
  prefixLen := w
  prefixLen_le := le_rfl

@[simp] theorem word_host {w : ℕ} (addr : BitVec w) : (host addr).word = bits addr :=
  List.take_of_length_le (length_bits addr).le

/-! ### Both families -/

namespace IpAddr

/-- The number of bits of an address. -/
def width : IpAddr → ℕ
  | .v4 _ => 32
  | .v6 _ => 128

/-- The address as a word with its family in front: `false` for IPv4, `true` for IPv6. -/
def word : IpAddr → List Bool
  | .v4 addr => false :: bits addr
  | .v6 addr => true :: bits addr

@[simp] theorem length_word (addr : IpAddr) : addr.word.length = addr.width + 1 := by
  cases addr <;> simp [word, width]

end IpAddr

/-- An address and a length as a command line spells them, `ADDR/LEN`. -/
structure IpPrefix where
  addr : IpAddr
  len : ℕ
  deriving DecidableEq, Repr

namespace IpPrefix

/-- The family and the leading bits that the prefix fixes. -/
def word (pre : IpPrefix) : List Bool :=
  pre.addr.word.take (pre.len + 1)

theorem length_word {pre : IpPrefix} (hlen : pre.len ≤ pre.addr.width) :
    pre.word.length = pre.len + 1 := by
  rw [word, List.length_take, IpAddr.length_word]
  omega

/-- A network as a command line spells it. -/
def ofNet (net : Ipv4Net) : IpPrefix where
  addr := .v4 net.addr
  len := net.prefixLen

theorem word_ofNet (net : Ipv4Net) : (ofNet net).word = false :: net.word := rfl

/-- A prefix as long as the address is covers that address alone. -/
theorem word_full (addr : IpAddr) : (⟨addr, addr.width⟩ : IpPrefix).word = addr.word := by
  rw [word]
  exact List.take_of_length_le (by simp)

end IpPrefix

end EntroTunnel.Core
