import EntroTunnel.Core.TextRules
import EntroTunnel.Foundation.Base64

/-!
# The pre-shared key

`generate_psk` and `parse_psk` of `core/src/config.rs`. A key is written as base64 text, in the
configuration of the server and in the profile of every client. The decoder of the base64 package is
a parameter, since its error texts are its own. Its encoder has none and is the encoding of the
standard, the only one that a strict decoder reads back.

`psk_round_trip` says that a text is a key for one way of writing only, up to white space around it:
two ends have the same key exactly when their texts are the same.
-/

set_option autoImplicit false
set_option relaxedAutoImplicit false

namespace EntroTunnel.Core

open EntroTunnel.Foundation

/-- A 32-byte key. -/
@[ext]
structure Psk where
  bytes : Bytes
  length_bytes : bytes.length = 32
  deriving DecidableEq

/-- `generate_psk`, for the bytes that the random generator fills the key with. -/
def generatePsk (key : Psk) : String :=
  String.ofList (Base64.encode Base64.standard true key.bytes)

/-- `parse_psk`, with the text of its `Error::Config`. -/
def parsePsk (base64 : List Char → Except String Bytes) (text : String) : Except String Psk :=
  match base64 (trim text.toList) with
  | .error error => .error ("invalid psk base64: " ++ error)
  | .ok bytes =>
    if hlength : bytes.length = 32 then .ok ⟨bytes, hlength⟩
    else .error ("psk must be 32 bytes, got " ++ toString bytes.length)

/-- The decoder is the strict one of the standard alphabet. -/
def DecodesStandard (base64 : List Char → Except String Bytes) : Prop :=
  ∀ text, (base64 text).toOption = Base64.decode Base64.standard true text

section Keys

variable {base64 : List Char → Except String Bytes}

/-- The letters of a key are no white space. -/
theorem trim_generatePsk (key : Psk) :
    trim (generatePsk key).toList = (generatePsk key).toList := by
  have hletters : ∀ char ∈ Base64.standard.letters, ¬isWhitespace char := by decide +kernel
  have hnone : ∀ char ∈ ([] : List Char), isWhitespace char := List.forall_mem_nil _
  have hbody : ∀ char ∈ Base64.encode Base64.standard true key.bytes, ¬isWhitespace char := by
    intro char hchar
    rcases Base64.mem_encode hchar with hletter | rfl
    · exact hletters char hletter
    · decide
  have htrim := trim_append_of_forall hnone hbody hnone
  rw [List.nil_append, List.append_nil] at htrim
  rw [generatePsk, String.toList_ofList, htrim]

/-- What a text is decoded to decides about it. -/
theorem parsePsk_eq_ok {text : String} {key : Psk} :
    parsePsk base64 text = .ok key ↔ base64 (trim text.toList) = .ok key.bytes := by
  unfold parsePsk
  cases hdecode : base64 (trim text.toList) with
  | error error => simp
  | ok bytes =>
    dsimp only
    split_ifs with hlength
    · constructor
      · intro hkey
        rw [← Except.ok.inj hkey]
      · intro hbytes
        obtain rfl := Except.ok.inj hbytes
        rfl
    · refine iff_of_false (fun hkey ↦ by cases hkey) fun hbytes ↦ ?_
      exact hlength (Except.ok.inj hbytes ▸ key.length_bytes)

theorem base64_eq_ok (hdecodes : DecodesStandard base64) {text : List Char} {bytes : Bytes} :
    base64 text = .ok bytes ↔ Base64.decode Base64.standard true text = some bytes := by
  rw [← hdecodes text]
  cases base64 text with
  | error error => simp [Except.toOption]
  | ok other => simp [Except.toOption]

/-- A text is taken for a key exactly if it is the text of the key amid white space. -/
theorem parsePsk_iff (hdecodes : DecodesStandard base64) (text : String) (key : Psk) :
    parsePsk base64 text = .ok key ↔ trim text.toList = (generatePsk key).toList := by
  rw [parsePsk_eq_ok, base64_eq_ok hdecodes, generatePsk, String.toList_ofList]
  constructor
  · exact fun hdecode ↦ (Base64.encode_decode hdecode).symm
  · exact fun htext ↦ htext ▸ Base64.decode_encode _ _ _

/-- Three bytes are four letters. -/
theorem length_encode_of_three_mul (alphabet : Base64.Alphabet) (count : ℕ) :
    ∀ bytes : Bytes, bytes.length = 3 * count + 2 →
      (Base64.encode alphabet true bytes).length = 4 * count + 4 := by
  induction count with
  | zero =>
    intro bytes hlength
    match bytes, hlength with
    | [_, _], _ => rfl
  | succ count ih =>
    intro bytes hlength
    match bytes, hlength with
    | first :: second :: third :: rest, hlength =>
      have hrest : rest.length = 3 * count + 2 := by
        simp only [List.length_cons] at hlength
        omega
      rw [Base64.encode]
      simp only [List.length_cons, ih rest hrest]
      omega

/-- A key has one text of 44 letters, which is parsed as the key; amid white space it is too, and no
other text is. So two texts are one key exactly if they are the same without the white space around
them. -/
theorem psk_round_trip (base64 : List Char → Except String Bytes)
    (hdecodes : DecodesStandard base64) :
    (∀ key, parsePsk base64 (generatePsk key) = .ok key ∧ (generatePsk key).length = 44) ∧
      (∀ text key, parsePsk base64 text = .ok key ↔
        trim text.toList = (generatePsk key).toList) ∧
      ∀ first second key other, parsePsk base64 first = .ok key →
        parsePsk base64 second = .ok other →
          (key = other ↔ trim first.toList = trim second.toList) := by
  refine ⟨fun key ↦ ⟨(parsePsk_iff hdecodes _ key).mpr (trim_generatePsk key), ?_⟩,
    parsePsk_iff hdecodes, fun first second key other hfirst hsecond ↦ ?_⟩
  · rw [generatePsk, String.length_ofList]
    exact length_encode_of_three_mul Base64.standard 10 key.bytes key.length_bytes
  · rw [(parsePsk_iff hdecodes first key).mp hfirst]
    constructor
    · rintro rfl
      exact ((parsePsk_iff hdecodes second key).mp hsecond).symm
    · intro hsame
      have hother := (parsePsk_iff hdecodes second key).mpr hsame.symm
      exact Except.ok.inj (hother.symm.trans hsecond)

end Keys

section Example

/-- A strict decoder. -/
def strictBase64 (text : List Char) : Except String Bytes :=
  match Base64.decode Base64.standard true text with
  | some bytes => .ok bytes
  | none => .error "Invalid symbol"

theorem strictBase64_decodes : DecodesStandard strictBase64 := by
  intro text
  unfold strictBase64
  cases Base64.decode Base64.standard true text <;> rfl

/-- The key of zeros. -/
def zeroKey : Psk :=
  ⟨List.replicate 32 0, rfl⟩

/-- The key of 32 zero bytes. -/
theorem psk_round_trip_zeroKey :
    parsePsk strictBase64 (generatePsk zeroKey) = .ok zeroKey ∧
      (∀ text, parsePsk strictBase64 text = .ok zeroKey ↔
        trim text.toList = (generatePsk zeroKey).toList) := by
  obtain ⟨hparse, htexts, -⟩ := psk_round_trip strictBase64 strictBase64_decodes
  exact ⟨(hparse zeroKey).1, fun text ↦ htexts text zeroKey⟩

end Example

end EntroTunnel.Core
