import EntroTunnel.Foundation.ByteCodec

/-!
# Byte decoders

A decoder takes a value off the front of a byte string, or fails. `Reads decode bytes value` says
that it takes exactly `bytes` off every string that starts with them and returns `value`. The rules
follow the way decoders are composed: a sequence of decoders reads the concatenation, and the
encodings of fixed-width integers, byte strings, texts, lists, optional values and truth values are
read back by the decoders of the same names. Two byte strings that one decoder reads are equal as
soon as one is a prefix of the other.
-/

set_option autoImplicit false
set_option relaxedAutoImplicit false

namespace EntroTunnel.Foundation

variable {α β : Type}

/-- Takes a value off the front of a byte string. -/
abbrev Decoder (α : Type) := StateT (List UInt8) Option α

/-- The decoder takes exactly these bytes off the front, whatever follows, and returns the value. -/
def Reads (decode : Decoder α) (bytes : List UInt8) (value : α) : Prop :=
  ∀ rest, decode.run (bytes ++ rest) = some (value, rest)

namespace Reads

theorem run_append {decode : Decoder α} {bytes : List UInt8} {value : α}
    (hreads : Reads decode bytes value) (rest : List UInt8) :
    decode.run (bytes ++ rest) = some (value, rest) :=
  hreads rest

theorem run_self {decode : Decoder α} {bytes : List UInt8} {value : α}
    (hreads : Reads decode bytes value) : decode.run bytes = some (value, []) := by
  have hrun := hreads []
  rwa [List.append_nil] at hrun

/-- No byte string that a decoder reads is a proper prefix of another one. -/
theorem eq_of_isPrefix {decode : Decoder α} {bytes other : List UInt8} {value result : α}
    (hbytes : Reads decode bytes value) (hother : Reads decode other result)
    (hle : bytes <+: other) : bytes = other ∧ value = result := by
  obtain ⟨rest, rfl⟩ := hle
  have hrun := hother.run_self
  rw [hbytes rest] at hrun
  obtain ⟨hvalue, hrest⟩ := Prod.mk.inj (Option.some.inj hrun)
  exact ⟨by rw [hrest, List.append_nil], hvalue⟩

/-! ### Composition -/

protected theorem pure (value : α) : Reads (pure value : Decoder α) [] value := fun _ ↦ rfl

protected theorem bind {decode : Decoder α} {next : α → Decoder β} {bytes more : List UInt8}
    {value : α} {result : β} (hfirst : Reads decode bytes value)
    (hnext : Reads (next value) more result) : Reads (decode >>= next) (bytes ++ more) result := by
  intro rest
  rw [StateT.run_bind, List.append_assoc, hfirst]
  exact hnext rest

protected theorem map {decode : Decoder α} {bytes : List UInt8} {value : α} (f : α → β)
    (hreads : Reads decode bytes value) : Reads (f <$> decode) bytes (f value) := by
  intro rest
  rw [StateT.run_map, hreads]
  rfl

/-- A sequence whose last decoder takes nothing. -/
protected theorem bind_pure {decode : Decoder α} {next : α → Decoder β} {bytes : List UInt8}
    {value : α} {result : β} (hfirst : Reads decode bytes value)
    (hnext : next value = pure result) : Reads (decode >>= next) bytes result := by
  have hreads : Reads (next value) [] result := by
    rw [hnext]
    exact Reads.pure result
  have hboth := hfirst.bind hreads
  rwa [List.append_nil] at hboth

end Reads

/-! ### Fixed-width integers -/

/-- Takes a fixed number of bytes. -/
def takeBytes (count : ℕ) : Decoder (List UInt8) := fun input ↦
  if input.length < count then none else some (input.take count, input.drop count)

/-- The number that little-endian bytes stand for. -/
def leValue : List UInt8 → ℕ
  | [] => 0
  | byte :: bytes => byte.toNat + 256 * leValue bytes

/-- The number that big-endian bytes stand for. -/
def beValue (bytes : List UInt8) : ℕ :=
  leValue bytes.reverse

def decodeLe (count : ℕ) : Decoder ℕ :=
  leValue <$> takeBytes count

def decodeBe (count : ℕ) : Decoder ℕ :=
  beValue <$> takeBytes count

def decodeByte : Decoder UInt8 := fun input ↦
  match input with
  | [] => none
  | byte :: rest => some (byte, rest)

theorem reads_takeBytes (bytes : List UInt8) : Reads (takeBytes bytes.length) bytes bytes := by
  intro rest
  have hlong : ¬ (bytes ++ rest).length < bytes.length := by
    rw [List.length_append]
    omega
  change takeBytes bytes.length (bytes ++ rest) = _
  rw [takeBytes, if_neg hlong, List.take_left, List.drop_left]

theorem reads_takeBytes_of_length {count : ℕ} {bytes : List UInt8}
    (hlength : bytes.length = count) :
    Reads (takeBytes count) bytes bytes := by
  subst hlength
  exact reads_takeBytes bytes

theorem leValue_leBytes (count value : ℕ) (hvalue : value < 256 ^ count) :
    leValue (leBytes count value) = value := by
  induction count generalizing value with
  | zero =>
    have hzero : value = 0 := by simpa using hvalue
    rw [hzero]
    rfl
  | succ count ih =>
    have hhigh : value / 256 < 256 ^ count := by
      apply Nat.div_lt_of_lt_mul
      rwa [← pow_succ']
    rw [leBytes, leValue, ih _ hhigh, UInt8.toNat_ofNat']
    omega

theorem beValue_beBytes (count value : ℕ) (hvalue : value < 256 ^ count) :
    beValue (beBytes count value) = value := by
  rw [beValue, beBytes, List.reverse_reverse, leValue_leBytes count value hvalue]

theorem reads_decodeLe {count value : ℕ} (hvalue : value < 256 ^ count) :
    Reads (decodeLe count) (leBytes count value) value := by
  have hreads := (reads_takeBytes_of_length (length_leBytes count value)).map leValue
  rwa [leValue_leBytes count value hvalue] at hreads

theorem reads_decodeBe {count value : ℕ} (hvalue : value < 256 ^ count) :
    Reads (decodeBe count) (beBytes count value) value := by
  have hreads := (reads_takeBytes_of_length (length_beBytes count value)).map beValue
  rwa [beValue_beBytes count value hvalue] at hreads

theorem reads_decodeByte (byte : UInt8) : Reads decodeByte [byte] byte := fun _ ↦ rfl

/-! ### Byte strings and texts -/

/-- A length fits into the eight bytes in front of a sequence. -/
def Counted (count : ℕ) : Prop := count < 256 ^ 8

instance (count : ℕ) : Decidable (Counted count) :=
  inferInstanceAs (Decidable (count < 256 ^ 8))

def decodeBytes : Decoder (List UInt8) := do
  let count ← decodeLe 8
  takeBytes count

def decodeString : Decoder String := do
  let bytes ← decodeBytes
  match String.fromUTF8? ⟨bytes.toArray⟩ with
  | some text => pure text
  | none => failure

theorem reads_decodeBytes {bytes : List UInt8} (hcount : Counted bytes.length) :
    Reads decodeBytes (encodeBytes bytes) bytes :=
  (reads_decodeLe hcount).bind (reads_takeBytes bytes)

theorem fromUTF8?_toUTF8 (text : String) : String.fromUTF8? text.toUTF8 = some text :=
  dif_pos text.isValidUTF8

theorem reads_decodeString {text : String} (hcount : Counted text.utf8ByteSize) :
    Reads decodeString (encodeString text) text := by
  refine (reads_decodeBytes hcount).bind_pure ?_
  change (match String.fromUTF8? text.toUTF8 with
    | some text => pure text
    | none => failure : Decoder String) = _
  rw [fromUTF8?_toUTF8]

/-! ### Lists, optional values and truth values -/

/-- A fixed number of values in a row. -/
def decodeMany (decode : Decoder α) : ℕ → Decoder (List α)
  | 0 => pure []
  | count + 1 => do
    let value ← decode
    let values ← decodeMany decode count
    pure (value :: values)

def decodeList (decode : Decoder α) : Decoder (List α) := do
  let count ← decodeLe 8
  decodeMany decode count

def decodeOption (decode : Decoder α) : Decoder (Option α) := do
  let tag ← decodeByte
  match tag with
  | 0 => pure none
  | 1 => some <$> decode
  | _ => failure

def decodeBool : Decoder Bool := do
  let tag ← decodeByte
  match tag with
  | 0 => pure false
  | 1 => pure true
  | _ => failure

theorem reads_decodeMany {encode : α → List UInt8} {decode : Decoder α} (values : List α)
    (helement : ∀ value ∈ values, Reads decode (encode value) value) :
    Reads (decodeMany decode values.length) (values.flatMap encode) values := by
  induction values with
  | nil => exact Reads.pure []
  | cons value values ih =>
    have hvalue := helement value List.mem_cons_self
    have hvalues := ih fun other hmem ↦ helement other (List.mem_cons_of_mem value hmem)
    rw [List.flatMap_cons]
    exact hvalue.bind (hvalues.bind_pure rfl)

theorem reads_decodeList {encode : α → List UInt8} {decode : Decoder α} {values : List α}
    (hcount : Counted values.length)
    (helement : ∀ value ∈ values, Reads decode (encode value) value) :
    Reads (decodeList decode) (encodeList encode values) values :=
  (reads_decodeLe hcount).bind (reads_decodeMany values helement)

theorem reads_decodeOption {encode : α → List UInt8} {decode : Decoder α} {value : Option α}
    (hvalue : ∀ inner, value = some inner → Reads decode (encode inner) inner) :
    Reads (decodeOption decode) (encodeOption encode value) value := by
  cases value with
  | none => exact (reads_decodeByte 0).bind_pure rfl
  | some inner => exact (reads_decodeByte 1).bind ((hvalue inner rfl).map some)

theorem reads_decodeBool (value : Bool) : Reads decodeBool (encodeBool value) value := by
  cases value with
  | false => exact (reads_decodeByte 0).bind_pure rfl
  | true => exact (reads_decodeByte 1).bind_pure rfl

end EntroTunnel.Foundation
