import Mathlib.Data.List.Nodup
import Mathlib.Data.UInt

/-!
# Base64

Three bytes are four digits of six bits, written with the letters of an alphabet. A last group of
one or two bytes has two or three digits, followed by padding where the encoding is padded. A
decoder is strict: it takes padding exactly where a padded encoding has it, and no digit with bits
that the last byte does not use.

`decode_encode` is the round trip. `decode_unique` says that alphabets which agree on the letters
they share never decode one text to different bytes, padded or not.
-/

set_option autoImplicit false
set_option relaxedAutoImplicit false

namespace EntroTunnel.Foundation.Base64

/-- The letters of the 64 digits, in order. -/
structure Alphabet where
  letters : List Char
  length_letters : letters.length = 64
  nodup_letters : letters.Nodup
  pad_notMem : '=' ∉ letters

namespace Alphabet

/-- The letter of a digit. -/
def symbol (alphabet : Alphabet) (digit : ℕ) : Char :=
  (alphabet.letters[digit]?).getD '='

/-- The digit that a character stands for. -/
def value (alphabet : Alphabet) (char : Char) : Option ℕ :=
  if char ∈ alphabet.letters then some (alphabet.letters.idxOf char) else none

/-- Two alphabets agree on the letters they share. -/
def Agree (first second : Alphabet) : Prop :=
  ∀ char ∈ first.letters, char ∈ second.letters →
    first.letters.idxOf char = second.letters.idxOf char

instance (first second : Alphabet) : Decidable (first.Agree second) :=
  inferInstanceAs (Decidable (∀ char ∈ first.letters, char ∈ second.letters →
    first.letters.idxOf char = second.letters.idxOf char))

variable {alphabet other : Alphabet}

theorem symbol_mem {digit : ℕ} (hdigit : digit < 64) :
    alphabet.symbol digit ∈ alphabet.letters := by
  have hlength : digit < alphabet.letters.length := alphabet.length_letters.symm ▸ hdigit
  rw [symbol, List.getElem?_eq_getElem hlength, Option.getD_some]
  exact List.getElem_mem _

theorem value_symbol {digit : ℕ} (hdigit : digit < 64) :
    alphabet.value (alphabet.symbol digit) = some digit := by
  have hlength : digit < alphabet.letters.length := alphabet.length_letters.symm ▸ hdigit
  rw [value, if_pos (symbol_mem hdigit), symbol,
    List.getElem?_eq_getElem hlength, Option.getD_some, alphabet.nodup_letters.idxOf_getElem]

theorem symbol_ne_pad {digit : ℕ} (hdigit : digit < 64) : alphabet.symbol digit ≠ '=' :=
  fun heq ↦ alphabet.pad_notMem (heq ▸ symbol_mem hdigit)

/-- A digit is written as the letter that stands for it. -/
theorem symbol_value {char : Char} {digit : ℕ} (hvalue : alphabet.value char = some digit) :
    alphabet.symbol digit = char ∧ digit < 64 := by
  unfold value at hvalue
  split_ifs at hvalue with hmem
  obtain rfl := Option.some.inj hvalue
  have hindex : alphabet.letters.idxOf char < alphabet.letters.length :=
    List.idxOf_lt_length_iff.mpr hmem
  refine ⟨?_, alphabet.length_letters ▸ hindex⟩
  rw [symbol, List.getElem?_eq_getElem hindex, Option.getD_some, List.getElem_idxOf]

theorem value_pad : alphabet.value '=' = none :=
  if_neg alphabet.pad_notMem

theorem Agree.refl (alphabet : Alphabet) : alphabet.Agree alphabet :=
  fun _ _ _ ↦ rfl

theorem Agree.symm (hagree : alphabet.Agree other) : other.Agree alphabet :=
  fun char hother hmem ↦ (hagree char hmem hother).symm

/-- Agreeing alphabets give a character one value. -/
theorem Agree.value_eq (hagree : alphabet.Agree other) {char : Char} {digit otherDigit : ℕ}
    (hfirst : alphabet.value char = some digit) (hsecond : other.value char = some otherDigit) :
    digit = otherDigit := by
  unfold value at hfirst hsecond
  split_ifs at hfirst with hmem
  split_ifs at hsecond with hother
  rw [← Option.some.inj hfirst, ← Option.some.inj hsecond]
  exact hagree char hmem hother

end Alphabet

/-! ### Encoding -/

/-- Padding, where the encoding has it. -/
def padding (padded : Bool) (count : ℕ) : List Char :=
  if padded then List.replicate count '=' else []

def encode (alphabet : Alphabet) (padded : Bool) : List UInt8 → List Char
  | [] => []
  | [first] =>
    [alphabet.symbol (first.toNat / 4), alphabet.symbol (first.toNat % 4 * 16)] ++ padding padded 2
  | [first, second] =>
    [alphabet.symbol (first.toNat / 4), alphabet.symbol (first.toNat % 4 * 16 + second.toNat / 16),
      alphabet.symbol (second.toNat % 16 * 4)] ++ padding padded 1
  | first :: second :: third :: rest =>
    alphabet.symbol (first.toNat / 4) ::
      alphabet.symbol (first.toNat % 4 * 16 + second.toNat / 16) ::
      alphabet.symbol (second.toNat % 16 * 4 + third.toNat / 64) ::
      alphabet.symbol (third.toNat % 64) :: encode alphabet padded rest

/-! ### Decoding -/

/-- The byte of a last group of two digits. -/
def decodeTwo (alphabet : Alphabet) (first second : Char) : Option (List UInt8) := do
  let high ← alphabet.value first
  let low ← alphabet.value second
  if low % 16 = 0 then some [UInt8.ofNat (high * 4 + low / 16)] else none

/-- The bytes of a last group of three digits. -/
def decodeThree (alphabet : Alphabet) (first second third : Char) : Option (List UInt8) := do
  let high ← alphabet.value first
  let middle ← alphabet.value second
  let low ← alphabet.value third
  if low % 4 = 0 then
    some [UInt8.ofNat (high * 4 + middle / 16), UInt8.ofNat (middle % 16 * 16 + low / 4)]
  else none

/-- The bytes of a full group. -/
def decodeFour (alphabet : Alphabet) (first second third fourth : Char) : Option (List UInt8) := do
  let one ← alphabet.value first
  let two ← alphabet.value second
  let three ← alphabet.value third
  let four ← alphabet.value fourth
  return [UInt8.ofNat (one * 4 + two / 16), UInt8.ofNat (two % 16 * 16 + three / 4),
    UInt8.ofNat (three % 4 * 64 + four)]

def decode (alphabet : Alphabet) (padded : Bool) : List Char → Option (List UInt8)
  | [] => some []
  | [_] => none
  | [first, second] => if padded then none else decodeTwo alphabet first second
  | [first, second, third] => if padded then none else decodeThree alphabet first second third
  | first :: second :: third :: fourth :: rest =>
    if padded = true ∧ fourth = '=' ∧ rest = [] then
      if third = '=' then decodeTwo alphabet first second
      else decodeThree alphabet first second third
    else do
      let group ← decodeFour alphabet first second third fourth
      let others ← decode alphabet padded rest
      return group ++ others

/-! ### Round trip -/

section RoundTrip

variable {alphabet : Alphabet}

theorem ofNat_eq (byte : UInt8) {value : ℕ} (hvalue : value = byte.toNat) :
    UInt8.ofNat value = byte := by
  rw [hvalue, UInt8.ofNat_toNat]

theorem decodeTwo_encode (byte : UInt8) :
    decodeTwo alphabet (alphabet.symbol (byte.toNat / 4)) (alphabet.symbol (byte.toNat % 4 * 16)) =
      some [byte] := by
  have hbyte := byte.toNat_lt
  rw [decodeTwo, Alphabet.value_symbol (by omega), Alphabet.value_symbol (by omega)]
  refine (if_pos (by omega)).trans ?_
  rw [ofNat_eq byte (by omega)]

theorem decodeThree_encode (first second : UInt8) :
    decodeThree alphabet (alphabet.symbol (first.toNat / 4))
        (alphabet.symbol (first.toNat % 4 * 16 + second.toNat / 16))
        (alphabet.symbol (second.toNat % 16 * 4)) = some [first, second] := by
  have hfirst := first.toNat_lt
  have hsecond := second.toNat_lt
  rw [decodeThree, Alphabet.value_symbol (by omega), Alphabet.value_symbol (by omega),
    Alphabet.value_symbol (by omega)]
  refine (if_pos (by omega)).trans ?_
  rw [ofNat_eq first (by omega), ofNat_eq second (by omega)]

theorem decodeFour_encode (first second third : UInt8) :
    decodeFour alphabet (alphabet.symbol (first.toNat / 4))
        (alphabet.symbol (first.toNat % 4 * 16 + second.toNat / 16))
        (alphabet.symbol (second.toNat % 16 * 4 + third.toNat / 64))
        (alphabet.symbol (third.toNat % 64)) = some [first, second, third] := by
  have hfirst := first.toNat_lt
  have hsecond := second.toNat_lt
  have hthird := third.toNat_lt
  rw [decodeFour, Alphabet.value_symbol (by omega), Alphabet.value_symbol (by omega),
    Alphabet.value_symbol (by omega), Alphabet.value_symbol (by omega)]
  refine congrArg some (List.cons_eq_cons.mpr ⟨ofNat_eq first (by omega), ?_⟩)
  rw [ofNat_eq second (by omega), ofNat_eq third (by omega)]

/-- What was encoded is decoded. -/
theorem decode_encode (alphabet : Alphabet) (padded : Bool) (bytes : List UInt8) :
    decode alphabet padded (encode alphabet padded bytes) = some bytes := by
  induction bytes using encode.induct with
  | case1 => rfl
  | case2 first =>
    have hlast : decodeTwo alphabet _ _ = some [first] := decodeTwo_encode first
    cases padded with
    | false => exact hlast
    | true => exact hlast
  | case3 first second =>
    have hlast : decodeThree alphabet _ _ _ = some [first, second] :=
      decodeThree_encode first second
    have hbyte := second.toNat_lt
    cases padded with
    | false => exact hlast
    | true =>
      refine (if_pos ⟨rfl, rfl, rfl⟩).trans ((if_neg ?_).trans hlast)
      exact Alphabet.symbol_ne_pad (by omega)
  | case4 first second third rest ih =>
    rw [encode, decode, if_neg, decodeFour_encode, ih]
    · rfl
    · exact fun h ↦ Alphabet.symbol_ne_pad (Nat.mod_lt _ (by omega)) h.2.1

theorem toNat_ofNat {value : ℕ} (hvalue : value < 256) : (UInt8.ofNat value).toNat = value :=
  UInt8.toNat_ofNat_of_lt' hvalue

theorem encode_decodeTwo {padded : Bool} {first second : Char} {bytes : List UInt8}
    (hdecode : decodeTwo alphabet first second = some bytes) :
    encode alphabet padded bytes = [first, second] ++ padding padded 2 := by
  simp only [decodeTwo, Option.bind_eq_bind, Option.bind_eq_some_iff] at hdecode
  obtain ⟨high, hhigh, low, hlow, hdecode⟩ := hdecode
  split_ifs at hdecode with hbits
  obtain rfl := Option.some.inj hdecode
  obtain ⟨hfirst, hhigh⟩ := Alphabet.symbol_value hhigh
  obtain ⟨hsecond, hlow⟩ := Alphabet.symbol_value hlow
  have hdigit : (high * 4 + low / 16) / 4 = high := by omega
  have hlast : (high * 4 + low / 16) % 4 * 16 = low := by omega
  rw [encode, toNat_ofNat (by omega), hdigit, hlast, hfirst, hsecond]

theorem encode_decodeThree {padded : Bool} {first second third : Char} {bytes : List UInt8}
    (hdecode : decodeThree alphabet first second third = some bytes) :
    encode alphabet padded bytes = [first, second, third] ++ padding padded 1 := by
  simp only [decodeThree, Option.bind_eq_bind, Option.bind_eq_some_iff] at hdecode
  obtain ⟨high, hhigh, middle, hmiddle, low, hlow, hdecode⟩ := hdecode
  split_ifs at hdecode with hbits
  obtain rfl := Option.some.inj hdecode
  obtain ⟨hfirst, hhigh⟩ := Alphabet.symbol_value hhigh
  obtain ⟨hsecond, hmiddle⟩ := Alphabet.symbol_value hmiddle
  obtain ⟨hthird, hlow⟩ := Alphabet.symbol_value hlow
  have hdigit : (high * 4 + middle / 16) / 4 = high := by omega
  have hnext : (high * 4 + middle / 16) % 4 * 16 + (middle % 16 * 16 + low / 4) / 16 = middle := by
    omega
  have hlast : (middle % 16 * 16 + low / 4) % 16 * 4 = low := by omega
  rw [encode, toNat_ofNat (by omega), toNat_ofNat (by omega), hdigit, hnext, hlast, hfirst, hsecond,
    hthird]

theorem encode_decodeFour {padded : Bool} {first second third fourth : Char}
    {bytes others : List UInt8}
    (hdecode : decodeFour alphabet first second third fourth = some bytes) :
    encode alphabet padded (bytes ++ others) =
      first :: second :: third :: fourth :: encode alphabet padded others := by
  simp only [decodeFour, Option.bind_eq_bind, Option.bind_eq_some_iff] at hdecode
  obtain ⟨one, hone, two, htwo, three, hthree, four, hfour, hdecode⟩ := hdecode
  obtain rfl := Option.some.inj hdecode
  obtain ⟨hfirst, hone⟩ := Alphabet.symbol_value hone
  obtain ⟨hsecond, htwo⟩ := Alphabet.symbol_value htwo
  obtain ⟨hthird, hthree⟩ := Alphabet.symbol_value hthree
  obtain ⟨hfourth, hfour⟩ := Alphabet.symbol_value hfour
  have hdigit : (one * 4 + two / 16) / 4 = one := by omega
  have hnext : (one * 4 + two / 16) % 4 * 16 + (two % 16 * 16 + three / 4) / 16 = two := by omega
  have hlate : (two % 16 * 16 + three / 4) % 16 * 4 + (three % 4 * 64 + four) / 64 = three := by
    omega
  have hlast : (three % 4 * 64 + four) % 64 = four := by omega
  rw [List.cons_append, List.cons_append, List.cons_append, List.nil_append, encode,
    toNat_ofNat (by omega), toNat_ofNat (by omega), toNat_ofNat (by omega), hdigit, hnext, hlate,
    hlast, hfirst, hsecond, hthird, hfourth]

/-- A text that is decoded is the encoding of what it is decoded to. -/
theorem encode_decode {padded : Bool} {text : List Char} {bytes : List UInt8}
    (hdecode : decode alphabet padded text = some bytes) : encode alphabet padded bytes = text := by
  induction text using decode.induct padded generalizing bytes with
  | case1 =>
    obtain rfl := Option.some.inj hdecode
    rfl
  | case2 => cases hdecode
  | case3 first second hpadded =>
    rw [decode, if_pos hpadded] at hdecode
    cases hdecode
  | case4 first second hpadded =>
    rw [decode, if_neg hpadded] at hdecode
    rw [encode_decodeTwo hdecode, padding, if_neg hpadded, List.append_nil]
  | case5 first second third hpadded =>
    rw [decode, if_pos hpadded] at hdecode
    cases hdecode
  | case6 first second third hpadded =>
    rw [decode, if_neg hpadded] at hdecode
    rw [encode_decodeThree hdecode, padding, if_neg hpadded, List.append_nil]
  | case7 first second fourth rest hlast =>
    rw [decode, if_pos hlast, if_pos rfl] at hdecode
    rw [encode_decodeTwo hdecode, padding, if_pos hlast.1, hlast.2.1, hlast.2.2]
    rfl
  | case8 first second third fourth rest hlast hthird =>
    rw [decode, if_pos hlast, if_neg hthird] at hdecode
    rw [encode_decodeThree hdecode, padding, if_pos hlast.1, hlast.2.1, hlast.2.2]
    rfl
  | case9 first second third fourth rest hfull ih =>
    rw [decode, if_neg hfull] at hdecode
    obtain ⟨group, hgroup, hdecode⟩ := Option.bind_eq_some_iff.mp hdecode
    obtain ⟨tail, htail, hdecode⟩ := Option.bind_eq_some_iff.mp hdecode
    obtain rfl := Option.some.inj hdecode
    rw [encode_decodeFour hgroup, ih htail]

/-- An encoding consists of letters and padding. -/
theorem mem_encode {padded : Bool} {bytes : List UInt8} {char : Char}
    (hchar : char ∈ encode alphabet padded bytes) : char ∈ alphabet.letters ∨ char = '=' := by
  have hpadding : ∀ count, char ∈ padding padded count → char = '=' := by
    intro count hmem
    unfold padding at hmem
    split_ifs at hmem
    · exact List.eq_of_mem_replicate hmem
    · exact absurd hmem List.not_mem_nil
  induction bytes using encode.induct with
  | case1 => exact absurd hchar List.not_mem_nil
  | case2 first =>
    have hbyte := first.toNat_lt
    rw [encode, List.mem_append, List.mem_cons, List.mem_singleton] at hchar
    rcases hchar with (rfl | rfl) | hpad
    · exact .inl (Alphabet.symbol_mem (by omega))
    · exact .inl (Alphabet.symbol_mem (by omega))
    · exact .inr (hpadding _ hpad)
  | case3 first second =>
    have hfirst := first.toNat_lt
    have hsecond := second.toNat_lt
    rw [encode, List.mem_append, List.mem_cons, List.mem_cons, List.mem_singleton] at hchar
    rcases hchar with (rfl | rfl | rfl) | hpad
    · exact .inl (Alphabet.symbol_mem (by omega))
    · exact .inl (Alphabet.symbol_mem (by omega))
    · exact .inl (Alphabet.symbol_mem (by omega))
    · exact .inr (hpadding _ hpad)
  | case4 first second third rest ih =>
    have hfirst := first.toNat_lt
    have hsecond := second.toNat_lt
    have hthird := third.toNat_lt
    rw [encode, List.mem_cons, List.mem_cons, List.mem_cons, List.mem_cons] at hchar
    rcases hchar with rfl | rfl | rfl | rfl | hrest
    · exact .inl (Alphabet.symbol_mem (by omega))
    · exact .inl (Alphabet.symbol_mem (by omega))
    · exact .inl (Alphabet.symbol_mem (by omega))
    · exact .inl (Alphabet.symbol_mem (by omega))
    · exact ih hrest

end RoundTrip

/-! ### Several alphabets -/

section Unique

variable {alphabet other : Alphabet} (hagree : alphabet.Agree other)

include hagree

theorem decodeTwo_unique {first second : Char} {bytes others : List UInt8}
    (hbytes : decodeTwo alphabet first second = some bytes)
    (hothers : decodeTwo other first second = some others) : bytes = others := by
  simp only [decodeTwo, Option.bind_eq_bind, Option.bind_eq_some_iff] at hbytes hothers
  obtain ⟨high, hhigh, low, hlow, hbytes⟩ := hbytes
  obtain ⟨high', hhigh', low', hlow', hothers⟩ := hothers
  rw [← hagree.value_eq hhigh hhigh', ← hagree.value_eq hlow hlow'] at hothers
  exact Option.some.inj (hbytes.symm.trans hothers)

theorem decodeThree_unique {first second third : Char} {bytes others : List UInt8}
    (hbytes : decodeThree alphabet first second third = some bytes)
    (hothers : decodeThree other first second third = some others) : bytes = others := by
  simp only [decodeThree, Option.bind_eq_bind, Option.bind_eq_some_iff] at hbytes hothers
  obtain ⟨high, hhigh, middle, hmiddle, low, hlow, hbytes⟩ := hbytes
  obtain ⟨high', hhigh', middle', hmiddle', low', hlow', hothers⟩ := hothers
  rw [← hagree.value_eq hhigh hhigh', ← hagree.value_eq hmiddle hmiddle',
    ← hagree.value_eq hlow hlow'] at hothers
  exact Option.some.inj (hbytes.symm.trans hothers)

theorem decodeFour_unique {first second third fourth : Char} {bytes others : List UInt8}
    (hbytes : decodeFour alphabet first second third fourth = some bytes)
    (hothers : decodeFour other first second third fourth = some others) : bytes = others := by
  simp only [decodeFour, Option.bind_eq_bind, Option.bind_eq_some_iff] at hbytes hothers
  obtain ⟨one, hone, two, htwo, three, hthree, four, hfour, hbytes⟩ := hbytes
  obtain ⟨one', hone', two', htwo', three', hthree', four', hfour', hothers⟩ := hothers
  rw [← hagree.value_eq hone hone', ← hagree.value_eq htwo htwo', ← hagree.value_eq hthree hthree',
    ← hagree.value_eq hfour hfour'] at hothers
  exact Option.some.inj (hbytes.symm.trans hothers)

omit hagree in
/-- Padding is no digit. -/
theorem decodeFour_pad (first second third : Char) :
    decodeFour alphabet first second third '=' = none := by
  rw [decodeFour, Alphabet.value_pad]
  cases alphabet.value first <;> cases alphabet.value second <;> cases alphabet.value third <;> rfl

/-- Agreeing alphabets decode a text to the same bytes as soon as both decode it, whether they want
padding or not. -/
theorem decode_unique {padded otherPadded : Bool} {text : List Char} {bytes others : List UInt8}
    (hbytes : decode alphabet padded text = some bytes)
    (hothers : decode other otherPadded text = some others) : bytes = others := by
  induction text using decode.induct padded generalizing bytes others with
  | case1 => exact Option.some.inj (hbytes.symm.trans hothers)
  | case2 => exact absurd hbytes nofun
  | case3 first second hpadded => exact absurd (hbytes.symm.trans (if_pos hpadded)) nofun
  | case4 first second hpadded =>
    rw [decode, if_neg hpadded] at hbytes
    rw [decode] at hothers
    split_ifs at hothers
    exact decodeTwo_unique hagree hbytes hothers
  | case5 first second third hpadded => exact absurd (hbytes.symm.trans (if_pos hpadded)) nofun
  | case6 first second third hpadded =>
    rw [decode, if_neg hpadded] at hbytes
    rw [decode] at hothers
    split_ifs at hothers
    exact decodeThree_unique hagree hbytes hothers
  | case7 first second fourth rest hlast =>
    rw [decode, if_pos hlast, if_pos rfl] at hbytes
    rw [decode, if_pos rfl] at hothers
    split_ifs at hothers
    · exact decodeTwo_unique hagree hbytes hothers
    · rw [hlast.2.1, decodeFour_pad] at hothers
      exact absurd hothers nofun
  | case8 first second third fourth rest hlast hthird =>
    rw [decode, if_pos hlast, if_neg hthird] at hbytes
    rw [decode] at hothers
    split_ifs at hothers
    · exact decodeThree_unique hagree hbytes hothers
    · rw [hlast.2.1, decodeFour_pad] at hothers
      exact absurd hothers nofun
  | case9 first second third fourth rest hfull ih =>
    rw [decode, if_neg hfull] at hbytes
    obtain ⟨group, hgroup, hbytes⟩ := Option.bind_eq_some_iff.mp hbytes
    obtain ⟨tail, htail, hbytes⟩ := Option.bind_eq_some_iff.mp hbytes
    rw [decode] at hothers
    by_cases hlast : otherPadded = true ∧ fourth = '=' ∧ rest = []
    · rw [hlast.2.1, decodeFour_pad] at hgroup
      exact absurd hgroup nofun
    · rw [if_neg hlast] at hothers
      obtain ⟨otherGroup, hotherGroup, hothers⟩ := Option.bind_eq_some_iff.mp hothers
      obtain ⟨otherTail, hotherTail, hothers⟩ := Option.bind_eq_some_iff.mp hothers
      rw [← decodeFour_unique hagree hgroup hotherGroup, ← ih htail hotherTail] at hothers
      exact Option.some.inj (hbytes.symm.trans hothers)

end Unique

/-! ### The two alphabets in use -/

/-- Letters and figures, in the order of their digits. -/
def alphanumeric : List Char :=
  "ABCDEFGHIJKLMNOPQRSTUVWXYZabcdefghijklmnopqrstuvwxyz0123456789".toList

/-- The standard alphabet. -/
def standard : Alphabet where
  letters := alphanumeric ++ ['+', '/']
  length_letters := rfl
  nodup_letters := by decide +kernel
  pad_notMem := by decide +kernel

/-- The alphabet that is safe in addresses and file names. -/
def urlSafe : Alphabet where
  letters := alphanumeric ++ ['-', '_']
  length_letters := rfl
  nodup_letters := by decide +kernel
  pad_notMem := by decide +kernel

theorem standard_agree_urlSafe : standard.Agree urlSafe := by decide +kernel

example : encode standard true "entro".toUTF8.toList = "ZW50cm8=".toList := by decide +kernel

end EntroTunnel.Foundation.Base64
