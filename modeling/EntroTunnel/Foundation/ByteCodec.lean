import Mathlib.Algebra.BigOperators.Group.List.Basic
import Mathlib.Data.UInt

/-!
# Byte encodings

Fixed-width integers and length-prefixed sequences as lists of bytes. Integers are little-endian or
big-endian with a fixed number of bytes; a sequence is its length in eight bytes followed by its
elements, and an optional value is a tag byte followed by the value. Every encoding comes with its
length, in the simp set, so that the size of a composed encoding is computed by `simp`.
-/

set_option autoImplicit false
set_option relaxedAutoImplicit false

namespace EntroTunnel.Foundation

variable {α : Type*}

/-- The lowest bytes of a number, lowest first. -/
def leBytes : ℕ → ℕ → List UInt8
  | 0, _ => []
  | count + 1, value => UInt8.ofNat value :: leBytes count (value / 256)

/-- The lowest bytes of a number, highest first. -/
def beBytes (count value : ℕ) : List UInt8 :=
  (leBytes count value).reverse

@[simp] theorem length_leBytes (count value : ℕ) : (leBytes count value).length = count := by
  induction count generalizing value with
  | zero => rfl
  | succ count ih => rw [leBytes, List.length_cons, ih]

@[simp] theorem length_beBytes (count value : ℕ) : (beBytes count value).length = count := by
  rw [beBytes, List.length_reverse, length_leBytes]

/-- A byte string with its length in front. -/
def encodeBytes (bytes : List UInt8) : List UInt8 :=
  leBytes 8 bytes.length ++ bytes

@[simp] theorem length_encodeBytes (bytes : List UInt8) :
    (encodeBytes bytes).length = 8 + bytes.length := by
  rw [encodeBytes, List.length_append, length_leBytes]

/-- A text as its UTF-8 bytes with their number in front. -/
def encodeString (text : String) : List UInt8 :=
  encodeBytes text.toUTF8.data.toList

@[simp] theorem length_encodeString (text : String) :
    (encodeString text).length = 8 + text.utf8ByteSize := by
  rw [encodeString, length_encodeBytes]
  rfl

/-- A sequence with its length in front. -/
def encodeList (encode : α → List UInt8) (values : List α) : List UInt8 :=
  leBytes 8 values.length ++ values.flatMap encode

@[simp] theorem length_encodeList (encode : α → List UInt8) (values : List α) :
    (encodeList encode values).length =
      8 + (values.map fun value ↦ (encode value).length).sum := by
  rw [encodeList, List.length_append, length_leBytes, List.length_flatMap]

/-- An optional value behind a tag byte. -/
def encodeOption (encode : α → List UInt8) : Option α → List UInt8
  | none => [0]
  | some value => 1 :: encode value

/-- The number of bytes that an optional value adds to its tag. -/
def optionSize (size : α → ℕ) : Option α → ℕ
  | none => 0
  | some value => size value

@[simp] theorem length_encodeOption (encode : α → List UInt8) (value : Option α) :
    (encodeOption encode value).length =
      1 + optionSize (fun value ↦ (encode value).length) value := by
  cases value <;> simp [encodeOption, optionSize, Nat.add_comm]

/-- A truth value as one byte. -/
def encodeBool (value : Bool) : List UInt8 :=
  [if value then 1 else 0]

@[simp] theorem length_encodeBool (value : Bool) : (encodeBool value).length = 1 := rfl

end EntroTunnel.Foundation
