import EntroTunnel.Desktop.ProfileExport
import EntroTunnel.Foundation.Base64

/-!
# Share links

A profile is handed over as one line: `entro://` and the base64 encoding of its JSON text.
`encode_link` of `client-core/src/config.rs` writes it, and so does `buildLink` of the admin panel
(`server/web/admin.html`), in its own way. `decode_link` takes a link with or without its scheme,
and tries three base64 decoders in turn. Their error texts are those of the library, so they are
parameters; an encoder cannot fail and is the encoding of the standard.

The alphabets share the digits of their common letters, so that decoders that take the same text
agree about it (`decoder_unique`); which of them answers does not matter. `decodeLink_links` is the
round trip of both encoders.
-/

set_option autoImplicit false
set_option relaxedAutoImplicit false

namespace EntroTunnel.Desktop

open EntroTunnel.Core EntroTunnel.Client EntroTunnel.Foundation EntroTunnel.Foundation.Document

/-! ### The encodings of a body -/

/-- The encodings that the decoder knows, in the order in which it tries them. -/
inductive BodyCoding
  | standard
  | urlSafe
  | urlSafeNoPad
  deriving DecidableEq, Repr

namespace BodyCoding

def alphabet : BodyCoding → Base64.Alphabet
  | .standard => Base64.standard
  | .urlSafe | .urlSafeNoPad => Base64.urlSafe

def padded : BodyCoding → Bool
  | .standard | .urlSafe => true
  | .urlSafeNoPad => false

def encode (coding : BodyCoding) (bytes : Bytes) : List Char :=
  Base64.encode coding.alphabet coding.padded bytes

/-- The decoder of the base64 library. -/
def decoder (formats : Formats) : BodyCoding → List Char → Except String Bytes
  | .standard => formats.base64
  | .urlSafe => formats.base64UrlSafe
  | .urlSafeNoPad => formats.base64UrlSafeNoPad

end BodyCoding

/-- The base64 library decodes as the standard says. -/
def Formats.Base64Conforms (formats : Formats) : Prop :=
  ∀ (coding : BodyCoding) (text : List Char),
    (coding.decoder formats text).toOption = Base64.decode coding.alphabet coding.padded text

/-! ### The two encoders -/

/-- What `encode_link` encodes: the JSON text of the profile. -/
def linkBytes (library : Library) (profile : Profile) : Bytes :=
  (library.renderJson (writeProfile profile)).toOption.getD []

/-- `Profile::encode_link`. -/
def encodeLink (library : Library) (profile : Profile) : String :=
  "entro://" ++ String.ofList (Base64.encode Base64.standard true (linkBytes library profile))

/-- White space in JavaScript. -/
def isJsWhitespace (char : Char) : Bool :=
  (isWhitespace char && char.toNat ≠ 0x85) || char.toNat = 0xFEFF

/-- `String.prototype.trim`. -/
def jsTrim (text : List Char) : List Char :=
  ((text.dropWhile isJsWhitespace).reverse.dropWhile isJsWhitespace).reverse

/-- `portOf`: the number after the last colon of a listening address. -/
def portOf (bind : List Char) : ℤ :=
  match rsplitOnce ':' bind with
  | some (_, digits) =>
    if digits = [] then 8443 else ((decimalFrom 0 digits).map Int.ofNat).getD 8443
  | none => 8443

/-- The peer whose link the panel shows, and what its form says. -/
structure PanelExport where
  name : String
  token : String
  noisePsk : String
  host : String
  /-- The number in the port field, zero when there is none. -/
  port : ℤ
  transport : String
  skip : Bool

/-- The `profile` that `buildLink` makes. -/
def PanelExport.document (form : PanelExport) : Document :=
  .object [("name", .string form.name), ("selected_server", .string form.name),
    ("servers", .array [.object [("name", .string form.name),
      ("host", .string (String.ofList (jsTrim form.host.toList))),
      ("port", .integer (if form.port = 0 then portOf [] else form.port)),
      ("transport", .string form.transport), ("token", .string form.token),
      ("noise_psk", .string form.noisePsk), ("tls_skip_verify", .bool form.skip)]])]

/-- `b64utf8`. -/
def b64utf8 (text : String) : String :=
  String.ofList (Base64.encode Base64.standard true text.toUTF8.toList)

/-- `buildLink`, with `JSON.stringify`. -/
def buildLink (stringify : Document → String) (form : PanelExport) : String :=
  "entro://" ++ b64utf8 (stringify form.document)

/-- A link as it may be pasted: amid white space, without its scheme, or with its body encoded
anew. -/
def pastedLink (before after : List Char) (scheme : Bool) (coding : BodyCoding) (bytes : Bytes) :
    String :=
  String.ofList
    (before ++ ((if scheme then "entro://".toList else []) ++ coding.encode bytes) ++ after)

/-! ### Decoders -/

theorem eq_ok_of_toOption {α ε : Type*} {result : Except ε α} {value : α}
    (hresult : result.toOption = some value) : result = .ok value := by
  cases result with
  | error error => cases hresult
  | ok other => exact congrArg _ (Option.some.inj hresult)

section Decoders

variable {formats : Formats} (hconforms : formats.Base64Conforms)

include hconforms

theorem decoder_encode (coding : BodyCoding) (bytes : Bytes) :
    coding.decoder formats (coding.encode bytes) = .ok bytes := by
  refine eq_ok_of_toOption ((hconforms coding (coding.encode bytes)).trans ?_)
  exact Base64.decode_encode coding.alphabet coding.padded bytes

/-- A decoder that takes a body gives what was encoded, whichever encoding the body has. -/
theorem decoder_unique {coding other : BodyCoding} {bytes others : Bytes}
    (hothers : other.decoder formats (coding.encode bytes) = .ok others) : others = bytes := by
  have hagree : coding.alphabet.Agree other.alphabet := by
    cases coding <;> cases other <;>
      first
      | exact .refl _
      | exact Base64.standard_agree_urlSafe
      | exact Base64.standard_agree_urlSafe.symm
  have hdecode := hconforms other (coding.encode bytes)
  rw [hothers] at hdecode
  exact (Base64.decode_unique hagree (Base64.decode_encode _ _ _) hdecode.symm).symm

/-- Whichever decoder is the first to take a body, it gives what was encoded. -/
theorem decodeBody_encode (coding : BodyCoding) (bytes : Bytes) :
    (formats.base64 (coding.encode bytes) <|> formats.base64UrlSafe (coding.encode bytes) <|>
      formats.base64UrlSafeNoPad (coding.encode bytes)) = .ok bytes := by
  have hown := decoder_encode hconforms coding bytes
  have hunique (other : BodyCoding) {others : Bytes} :
      other.decoder formats (coding.encode bytes) = .ok others → others = bytes :=
    decoder_unique hconforms
  cases hstandard : formats.base64 (coding.encode bytes) with
  | ok others => exact congrArg _ (hunique .standard hstandard)
  | error error =>
    cases hurlSafe : formats.base64UrlSafe (coding.encode bytes) with
    | ok others => exact congrArg _ (hunique .urlSafe hurlSafe)
    | error error =>
      cases coding with
      | standard => exact absurd (hstandard.symm.trans hown) (by simp)
      | urlSafe => exact absurd (hurlSafe.symm.trans hown) (by simp)
      | urlSafeNoPad => exact hown

end Decoders

/-! ### The text of a link -/

/-- No character of a body is white space, or stands in the scheme only. -/
theorem mem_encode {coding : BodyCoding} {bytes : Bytes} {char : Char}
    (hchar : char ∈ coding.encode bytes) : ¬isWhitespace char ∧ char ≠ ':' := by
  have hletters : ∀ char ∈ coding.alphabet.letters, ¬isWhitespace char ∧ char ≠ ':' := by
    cases coding <;> decide +kernel
  rcases Base64.mem_encode hchar with hletter | rfl
  · exact hletters char hletter
  · decide

/-- What is left of a pasted link is its body. -/
theorem body_pastedLink {before after : List Char} (hbefore : ∀ char ∈ before, isWhitespace char)
    (hafter : ∀ char ∈ after, isWhitespace char) (scheme : Bool) (coding : BodyCoding)
    (bytes : Bytes) :
    let text := trim (pastedLink before after scheme coding bytes).toList
    trim ((stripPrefix "entro://".toList text).getD text) = coding.encode bytes := by
  have hbody : ∀ char ∈ coding.encode bytes, ¬isWhitespace char := fun _ hchar ↦
    (mem_encode hchar).1
  have hnone : ∀ char ∈ ([] : List Char), isWhitespace char := by simp
  have htrim : trim (coding.encode bytes) = coding.encode bytes := by
    have htrim := trim_append_of_forall hnone hbody hnone
    rwa [List.nil_append, List.append_nil] at htrim
  have hlink : ∀ char ∈ (if scheme then "entro://".toList else []) ++ coding.encode bytes,
      ¬isWhitespace char := by
    intro char hchar
    rcases List.mem_append.mp hchar with hscheme | hchar
    · cases scheme with
      | false => exact absurd hscheme List.not_mem_nil
      | true =>
        have hall : ∀ char ∈ "entro://".toList, ¬isWhitespace char := by decide +kernel
        exact hall char hscheme
    · exact hbody char hchar
  intro text
  have htext : text = (if scheme then "entro://".toList else []) ++ coding.encode bytes := by
    change trim (String.ofList _).toList = _
    rw [String.toList_ofList, trim_append_of_forall hbefore hlink hafter]
  rw [htext]
  cases scheme with
  | true =>
    rw [if_pos rfl, stripPrefix_append, Option.getD_some, htrim]
  | false =>
    -- A body has no colon, so the scheme does not begin it.
    have hscheme : ¬"entro://".toList <+: coding.encode bytes := fun hbegins ↦
      (mem_encode (hbegins.subset (by decide : ':' ∈ "entro://".toList))).2 rfl
    rw [if_neg Bool.false_ne_true, List.nil_append, stripPrefix_eq_none.mpr hscheme,
      Option.getD_none, htrim]

/-- A pasted link is decoded to what its bytes read as. -/
theorem decodeLink_pastedLink {formats : Formats} (hconforms : formats.Base64Conforms)
    {before after : List Char} (hbefore : ∀ char ∈ before, isWhitespace char)
    (hafter : ∀ char ∈ after, isWhitespace char) (scheme : Bool) (coding : BodyCoding)
    {bytes : Bytes} {profile : Profile}
    (hread : formats.fromText readProfile (formats.json bytes) = .ok profile) :
    decodeLink formats (pastedLink before after scheme coding bytes) = .ok profile := by
  have hbody := body_pastedLink hbefore hafter scheme coding bytes
  simp only [decodeLink]
  rw [hbody, decodeBody_encode hconforms coding bytes]
  simp only [hread]

theorem encodeLink_eq (library : Library) (profile : Profile) :
    encodeLink library profile = pastedLink [] [] true .standard (linkBytes library profile) := by
  rw [encodeLink, pastedLink, if_pos rfl, List.nil_append, List.append_nil, String.ofList_append]
  rfl

theorem buildLink_eq (stringify : Document → String) (form : PanelExport) :
    buildLink stringify form =
      pastedLink [] [] true .standard (stringify form.document).toUTF8.toList := by
  rw [buildLink, pastedLink, if_pos rfl, List.nil_append, List.append_nil, String.ofList_append]
  rfl

/-! ### What the JSON library is given -/

/-- The bytes that are encoded read as the profile. -/
theorem fromText_linkBytes {library : Library} {profile : Profile}
    (hkeeps : Keeps library.renderJson library.json (writeProfile profile)) :
    library.fromText readProfile (library.json (linkBytes library profile)) = .ok profile := by
  obtain ⟨bytes, other, hrender, hparse, hsame⟩ := hkeeps (plain_profile profile)
  have hbytes : linkBytes library profile = bytes := by
    rw [linkBytes, hrender]
    rfl
  rw [hbytes, hparse, Formats.fromText]
  simp only [readsBack_profile profile other hsame]

theorem jsTrim_eq_self {text : List Char} (hhead : ∀ char ∈ text.head?, ¬isJsWhitespace char)
    (hlast : ∀ char ∈ text.getLast?, ¬isJsWhitespace char) : jsTrim text = text := by
  rw [← List.head?_reverse] at hlast
  rw [jsTrim, dropWhile_of_head? hhead, dropWhile_of_head? hlast, List.reverse_reverse]

/-- What the form of the panel says, for a host without white space around it. -/
structure PanelValues where
  name : String
  token : String
  noisePsk : String
  host : String
  head_host : ∀ char ∈ host.toList.head?, ¬isJsWhitespace char
  last_host : ∀ char ∈ host.toList.getLast?, ¬isJsWhitespace char
  port : UInt16
  port_ne_zero : port ≠ 0
  transport : TransportKind
  skip : Bool

/-- The form with these values. -/
def PanelValues.form (values : PanelValues) : PanelExport where
  name := values.name
  token := values.token
  noisePsk := values.noisePsk
  host := values.host
  port := values.port.toNat
  transport := transportText values.transport
  skip := values.skip

def PanelValues.server (values : PanelValues) : ServerEntry where
  name := values.name
  host := values.host
  port := values.port
  transport := values.transport
  token := values.token
  noisePsk := values.noisePsk
  tlsSkipVerify := values.skip

/-- The profile of one server with these values. -/
def PanelValues.profile (values : PanelValues) : Profile where
  name := values.name
  selectedServer := some values.name
  servers := [values.server]

def PanelValues.serverFields (values : PanelValues) : List Field :=
  [⟨"name", .string values.name, false⟩, ⟨"host", .string values.host, false⟩,
    ⟨"port", .integer values.port.toNat, false⟩,
    ⟨"transport", .string (transportText values.transport), false⟩,
    ⟨"token", .string values.token, false⟩, ⟨"noise_psk", .string values.noisePsk, false⟩,
    ⟨"tls_skip_verify", .bool values.skip, false⟩]

def PanelValues.profileFields (values : PanelValues) : List Field :=
  [⟨"name", .string values.name, false⟩, ⟨"selected_server", .string values.name, false⟩,
    ⟨"servers", .array ([values.server].map fun _ ↦ .object (written values.serverFields)), false⟩]

theorem PanelValues.document_form (values : PanelValues) :
    values.form.document = .object (written values.profileFields) := by
  have hport : (values.port.toNat : ℤ) ≠ 0 := fun hzero ↦
    values.port_ne_zero (UInt16.toNat_inj.mp (Int.ofNat_inj.mp hzero))
  have htrim : jsTrim values.host.toList = values.host.toList :=
    jsTrim_eq_self values.head_host values.last_host
  simp only [PanelExport.document, PanelValues.form, hport, htrim, if_false, String.ofList_toList]
  rfl

/-- The server that the panel writes is the one of the profile, whose name for TLS it leaves out. -/
theorem PanelValues.readsBack_server (values : PanelValues) :
    ReadsBack readServer (.object (written values.serverFields)) values.server := by
  intro other hsame
  have hkeys : (values.serverFields.map Field.key).Nodup :=
    show ["name", "host", "port", "transport", "token", "noise_psk", "tls_skip_verify"].Nodup by
      decide
  obtain ⟨field, hslots, hrecords⟩ := slots_written hsame hkeys ["name", "host", "port",
    "transport", "token", "noise_psk", "tls_skip_verify", "server_name"]
  have hname := hrecords.required 0 rfl (readsBack_string values.name)
  have hhost := hrecords.required 1 rfl (readsBack_string values.host)
  have hport := hrecords.required 2 rfl (readsBack_port values.port)
  have htransport : defaulted field "transport" .tcp readTransport = some values.transport :=
    hrecords.present 3 rfl (readsBack_transport values.transport)
  have htoken := hrecords.required 4 rfl (readsBack_string values.token)
  have hpsk := hrecords.required 5 rfl (readsBack_string values.noisePsk)
  have hskip : defaulted field "tls_skip_verify" false readBool = some values.skip :=
    hrecords.present 6 rfl (readsBack_bool values.skip)
  have hserverName : defaulted field "server_name" none (readOption readString) = some none :=
    hrecords.unwritten (show "server_name" ∉ ["name", "host", "port", "transport",
      "token", "noise_psk", "tls_skip_verify"] by decide) none
  simp only [readServer, hslots, hname, hhost, hport, htransport, htoken, hpsk, hskip,
    hserverName, Option.bind_eq_bind, Option.bind_some, Option.pure_def]
  rfl

theorem PanelValues.readsBack_document (values : PanelValues) :
    ReadsBack readProfile values.form.document values.profile := by
  rw [values.document_form]
  intro other hsame
  have hkeys : (values.profileFields.map Field.key).Nodup :=
    show ["name", "selected_server", "servers"].Nodup by decide
  obtain ⟨field, hslots, hrecords⟩ :=
    slots_written hsame hkeys ["name", "selected_server", "servers"]
  have hname := hrecords.required 0 rfl (readsBack_string values.name)
  have hselected : defaulted field "selected_server" none (readOption readString) =
      some (some values.name) :=
    hrecords.present 1 rfl
      (readsBack_option (readsBack_string values.name) rfl)
  have hservers : defaulted field "servers" [] (readList readServer) =
      some values.profile.servers :=
    hrecords.present 2 rfl
      (readsBack_list (List.forall_mem_singleton.mpr values.readsBack_server))
  simp only [readProfile, hslots, hname, hselected, hservers, Option.bind_eq_bind,
    Option.bind_some, Option.pure_def]
  rfl

theorem PanelValues.plain_document (values : PanelValues) : Plain values.form.document := by
  rw [values.document_form]
  have hserver : Plain (.object (written values.serverFields)) := by
    refine plain_written (show ["name", "host", "port", "transport", "token", "noise_psk",
      "tls_skip_verify"].Nodup by decide) ?_
    simp only [PanelValues.serverFields, List.forall_mem_cons]
    exact ⟨fun _ ↦ .string _, fun _ ↦ .string _, fun _ ↦ plain_port _, fun _ ↦ .string _,
      fun _ ↦ .string _, fun _ ↦ .string _, fun _ ↦ .bool _, List.forall_mem_nil _⟩
  refine plain_written (show ["name", "selected_server", "servers"].Nodup by decide) ?_
  simp only [PanelValues.profileFields, List.forall_mem_cons]
  exact ⟨fun _ ↦ .string _, fun _ ↦ .string _,
    fun _ ↦ plain_list (List.forall_mem_singleton.mpr hserver),
    List.forall_mem_nil _⟩

/-! ### Round trips -/

/-- `JSON.stringify` and the UTF-8 encoder as a writer of texts. -/
def stringifyBytes (stringify : Document → String) (document : Document) : Except String Bytes :=
  .ok (stringify document).toUTF8.toList

/-- A link is decoded to the profile it was made from, however it is pasted and whichever of the two
encoders made it; and no decoder takes a body for that of another profile. -/
theorem decodeLink_links (library : Library) (stringify : Document → String)
    (hconforms : library.Base64Conforms) :
    (∀ profile : Profile, Keeps library.renderJson library.json (writeProfile profile) →
      decodeLink library.toFormats (encodeLink library profile) = .ok profile ∧
      (∀ (before after : List Char) (scheme : Bool) (coding : BodyCoding),
        (∀ char ∈ before, isWhitespace char) → (∀ char ∈ after, isWhitespace char) →
          decodeLink library.toFormats
            (pastedLink before after scheme coding (linkBytes library profile)) = .ok profile) ∧
      ∀ (coding other : BodyCoding) (bytes : Bytes),
        other.decoder library.toFormats (coding.encode (linkBytes library profile)) = .ok bytes →
          library.fromText readProfile (library.json bytes) = .ok profile) ∧
    ∀ values : PanelValues,
      Keeps (stringifyBytes stringify) library.json values.form.document →
        decodeLink library.toFormats (buildLink stringify values.form) = .ok values.profile := by
  have hnone : ∀ char ∈ ([] : List Char), isWhitespace char := by simp
  refine ⟨fun profile hkeeps ↦ ?_, fun values hkeeps ↦ ?_⟩
  · have hread := fromText_linkBytes hkeeps
    refine ⟨?_, fun before after scheme coding hbefore hafter ↦ ?_, fun coding other bytes h ↦ ?_⟩
    · rw [encodeLink_eq]
      exact decodeLink_pastedLink hconforms hnone hnone true .standard hread
    · exact decodeLink_pastedLink hconforms hbefore hafter scheme coding hread
    · rw [decoder_unique hconforms h, hread]
  · obtain ⟨bytes, other, hrender, hparse, hsame⟩ := hkeeps values.plain_document
    have hread : library.fromText readProfile (library.json bytes) = .ok values.profile := by
      rw [hparse, Formats.fromText]
      simp only [values.readsBack_document other hsame]
    rw [buildLink_eq, Except.ok.inj hrender]
    exact decodeLink_pastedLink hconforms hnone hnone true .standard hread

/-! ### A link of either encoder -/

def homeJsonText : String :=
  "\x7b\"name\":\"home\",\"servers\":[\x7b\"name\":\"tokyo\",\"host\":\"vpn.example.com\"," ++
    "\"port\":443,\"transport\":\"tcp\",\"token\":\"t0\",\"noise_psk\":\"a2V5\"\x7d]\x7d"

def panelJsonText : String :=
  "\x7b\"name\":\"alice\",\"selected_server\":\"alice\",\"servers\":[\x7b\"name\":\"alice\"," ++
    "\"host\":\"vpn.example.com\",\"port\":8444,\"transport\":\"ws\",\"token\":\"t1\"," ++
    "\"noise_psk\":\"a2V5\",\"tls_skip_verify\":true\x7d]\x7d"

theorem head_panelHost : ∀ char ∈ "vpn.example.com".toList.head?, ¬isJsWhitespace char := by
  intro char hchar
  obtain rfl : 'v' = char := Option.some.inj hchar
  decide

theorem last_panelHost : ∀ char ∈ "vpn.example.com".toList.getLast?, ¬isJsWhitespace char := by
  intro char hchar
  obtain rfl : 'm' = char := Option.some.inj hchar
  decide

theorem panelPort_ne_zero : (8444 : UInt16) ≠ 0 := by decide

def panelValues : PanelValues where
  name := "alice"
  token := "t1"
  noisePsk := "a2V5"
  host := "vpn.example.com"
  head_host := head_panelHost
  last_host := last_panelHost
  port := 8444
  port_ne_zero := panelPort_ne_zero
  transport := .ws
  skip := true

/-- What a base64 decoder returns. -/
def decodeResult (decoded : Option Bytes) : Except String Bytes :=
  match decoded with
  | some bytes => .ok bytes
  | none => .error "invalid symbol"

/-- A library that knows the two texts, with the decoders of the standard. -/
def linkLibrary : Library where
  json := fun bytes ↦
    if bytes = homeJsonText.toUTF8.toList then .ok (writeProfile homeProfile)
    else if bytes = panelJsonText.toUTF8.toList then .ok panelValues.form.document
    else .error "expected value"
  toml := fun _ ↦ .error "expected a table"
  mismatch := fun _ ↦ "missing field"
  base64 := fun text ↦ decodeResult (Base64.decode Base64.standard true text)
  base64UrlSafe := fun text ↦ decodeResult (Base64.decode Base64.urlSafe true text)
  base64UrlSafeNoPad := fun text ↦ decodeResult (Base64.decode Base64.urlSafe false text)
  renderToml := fun _ ↦ .error "unsupported type"
  renderJson := fun _ ↦ .ok homeJsonText.toUTF8.toList

theorem toOption_decodeResult (decoded : Option Bytes) :
    (decodeResult decoded).toOption = decoded := by
  cases decoded <;> rfl

theorem linkLibrary_conforms : linkLibrary.Base64Conforms := by
  intro coding text
  cases coding <;> exact toOption_decodeResult _

theorem linkLibrary_keeps_home :
    Keeps linkLibrary.renderJson linkLibrary.json (writeProfile homeProfile) := by
  have hparse : linkLibrary.json homeJsonText.toUTF8.toList = .ok (writeProfile homeProfile) := by
    simp only [linkLibrary, if_true]
  exact fun _ ↦ ⟨_, _, rfl, hparse, .refl _⟩

theorem linkLibrary_keeps_panel :
    Keeps (stringifyBytes fun _ ↦ panelJsonText) linkLibrary.json panelValues.form.document := by
  have hne : panelJsonText.toUTF8.toList ≠ homeJsonText.toUTF8.toList := by decide +kernel
  have hparse : linkLibrary.json panelJsonText.toUTF8.toList = .ok panelValues.form.document := by
    simp only [linkLibrary, hne, if_true, if_false]
  exact fun _ ↦ ⟨_, _, rfl, hparse, .refl _⟩

/-- The profile is read from the link of the desktop, and that of the panel gives the values of its
form. -/
theorem decodeLink_links_home :
    decodeLink linkLibrary.toFormats (encodeLink linkLibrary homeProfile) = .ok homeProfile ∧
      decodeLink linkLibrary.toFormats (buildLink (fun _ ↦ panelJsonText) panelValues.form) =
        .ok panelValues.profile :=
  ⟨((decodeLink_links linkLibrary (fun _ ↦ panelJsonText) linkLibrary_conforms).1 homeProfile
      linkLibrary_keeps_home).1,
    (decodeLink_links linkLibrary (fun _ ↦ panelJsonText) linkLibrary_conforms).2 panelValues
      linkLibrary_keeps_panel⟩

end EntroTunnel.Desktop
