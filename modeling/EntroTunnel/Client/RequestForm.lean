import EntroTunnel.Core.TextRules
import EntroTunnel.Client.HttpHead

/-!
# Requests to an HTTP proxy

The request heads that a client of the local proxy writes: `CONNECT` with an authority, a method
with an absolute `http://` URI, or a method with a path and one `Host` field. A `Request` is built
from words that carry the characters they may hold, so every value of the type is the head of a
request; `Request.head` are its bytes, and `Request.target` is the destination it names.

`lines_head` and `splitWhitespace_line` take a written head apart again, whatever the fields
hold.
-/

set_option autoImplicit false
set_option relaxedAutoImplicit false

namespace EntroTunnel.Client.Http

open EntroTunnel.Core

/-! ### Words -/

/-- A printing ASCII character, not a space. -/
def isVisible (char : Char) : Bool :=
  33 ≤ char.toNat && char.toNat ≤ 126

/-- A text of visible characters, without some of them. -/
structure Word (without : List Char) where
  text : List Char
  visible : ∀ char ∈ text, isVisible char
  notMem : ∀ char ∈ without, char ∉ text

theorem isAscii_of_isVisible {char : Char} (hchar : isVisible char) : IsAscii char := by
  simp only [isVisible, Bool.and_eq_true, decide_eq_true_eq] at hchar
  exact Nat.lt_of_le_of_lt hchar.2 (by decide)

theorem not_isWhitespace_of_isVisible {char : Char} (hchar : isVisible char) :
    ¬isWhitespace char := by
  simp only [isVisible, Bool.and_eq_true, decide_eq_true_eq] at hchar
  simp only [isWhitespace, Bool.or_eq_true, Bool.and_eq_true, decide_eq_true_eq]
  omega

/-- A visible character is ASCII and ends no line. -/
theorem ascii_of_isVisible {char : Char} (hchar : isVisible char) :
    IsAscii char ∧ char.toNat ≠ 10 ∧ char.toNat ≠ 13 := by
  refine ⟨isAscii_of_isVisible hchar, ?_⟩
  simp only [isVisible, Bool.and_eq_true, decide_eq_true_eq] at hchar
  omega

/-! ### Hosts and ports -/

/-- The characters that separate the parts of a URI. -/
def separators : List Char :=
  [':', '/', '?', '#', '[', ']', '@']

/-- A host: a registered name or an IPv4 address, or an address in brackets. -/
inductive Host
  | name (word : Word separators) (hne : word.text ≠ [])
  | bracketed (word : Word ['/', '?', '#', '[', ']', '@'])

def Host.text : Host → List Char
  | name word _ => word.text
  | bracketed word => '[' :: word.text ++ [']']

/-- A host and a port, as a URI or a `Host` field spells them. -/
structure Authority where
  host : Host
  port : Option (List Char)
  port_isDigit : ∀ digits ∈ port, ∀ char ∈ digits, char.isDigit
  port_lt : ∀ digits ∈ port, Nat.ofDigitChars 10 digits 0 < 65536

def Authority.text (authority : Authority) : List Char :=
  authority.host.text ++ authority.port.elim [] (':' :: ·)

/-- The port that is given. A colon with no digits after it gives none. -/
def Authority.portOr (authority : Authority) (default : UInt16) : UInt16 :=
  match authority.port with
  | none | some [] => default
  | some digits => UInt16.ofNat (Nat.ofDigitChars 10 digits 0)

def Authority.target (authority : Authority) (default : UInt16) : TargetAddr :=
  .domain (String.ofList authority.host.text) (authority.portOr default)

/-- An absolute URI after its `http://`. -/
structure AbsoluteUri where
  userinfo : Option (Word ['/', '?', '#', '[', ']', '@'])
  authority : Authority
  path : Word ['?', '#']
  path_head : ∀ char ∈ path.text.head?, char = '/'
  query : Option (Word ['#'])

def AbsoluteUri.text (uri : AbsoluteUri) : List Char :=
  uri.userinfo.elim [] (·.text ++ ['@']) ++ uri.authority.text ++ uri.path.text ++
    uri.query.elim [] ('?' :: ·.text)

theorem Host.visible (host : Host) : ∀ char ∈ host.text, isVisible char := by
  cases host with
  | name word hne => exact word.visible
  | bracketed word =>
    intro char hchar
    simp only [Host.text, List.cons_append, List.mem_cons, List.mem_append, List.not_mem_nil,
      or_false] at hchar
    rcases hchar with rfl | hchar | rfl
    · decide
    · exact word.visible char hchar
    · decide

theorem isVisible_of_isDigit {char : Char} (hchar : char.isDigit) : isVisible char := by
  simp only [Char.isDigit, Bool.and_eq_true, decide_eq_true_eq] at hchar
  have hlow : 48 ≤ char.toNat := hchar.1
  have hhigh : char.toNat ≤ 57 := hchar.2
  simp only [isVisible, Bool.and_eq_true, decide_eq_true_eq]
  omega

theorem Authority.visible (authority : Authority) : ∀ char ∈ authority.text, isVisible char := by
  intro char hchar
  rcases List.mem_append.mp hchar with hhost | hport
  · exact authority.host.visible char hhost
  · cases hdigits : authority.port with
    | none => simp [hdigits] at hport
    | some digits =>
      rw [hdigits, Option.elim_some, List.mem_cons] at hport
      rcases hport with rfl | hport
      · decide
      · exact isVisible_of_isDigit (authority.port_isDigit digits hdigits char hport)

theorem Host.text_ne_nil (host : Host) : host.text ≠ [] := by
  cases host with
  | name word hne => exact hne
  | bracketed word => exact List.cons_ne_nil _ _

theorem Authority.text_ne_nil (authority : Authority) : authority.text ≠ [] :=
  List.append_ne_nil_of_left_ne_nil authority.host.text_ne_nil _

theorem AbsoluteUri.visible (uri : AbsoluteUri) : ∀ char ∈ uri.text, isVisible char := by
  have hat : isVisible '@' := by decide
  have hquestion : isVisible '?' := by decide
  intro char hchar
  rw [AbsoluteUri.text, List.mem_append, List.mem_append, List.mem_append] at hchar
  rcases hchar with ((huser | hauthority) | hpath) | hquery
  · cases huri : uri.userinfo with
    | none => simp [huri] at huser
    | some user =>
      rw [huri, Option.elim_some, List.mem_append, List.mem_singleton] at huser
      rcases huser with huser | rfl
      · exact user.visible char huser
      · exact hat
  · exact uri.authority.visible char hauthority
  · exact uri.path.visible char hpath
  · cases huri : uri.query with
    | none => simp [huri] at hquery
    | some query =>
      rw [huri, Option.elim_some, List.mem_cons] at hquery
      rcases hquery with rfl | hquery
      · exact hquestion
      · exact query.visible char hquery

/-! ### Fields -/

/-- A header field. Its value is any bytes of one line. -/
structure Field where
  name : Word [':']
  name_ne : name.text ≠ []
  value : Bytes
  value_line : 10 ∉ value ∧ 13 ∉ value

/-- Field names do not depend on letter case. -/
def Field.IsHost (field : Field) : Prop :=
  eqIgnoreAsciiCase field.name.text "Host".toList

def Field.bytes (field : Field) : Bytes :=
  ascii field.name.text ++ 58 :: field.value ++ [13, 10]

/-- A `Host` field, with blanks around its value. -/
structure HostField where
  name : Word [':']
  name_host : eqIgnoreAsciiCase name.text "Host".toList
  left : List Char
  right : List Char
  blank : ∀ char ∈ left ++ right, char = ' ' ∨ char = '\t'
  authority : Authority

/-- A blank or a visible character is ASCII and ends no line. -/
theorem HostField.ascii_value (field : HostField) {char : Char}
    (hchar : char ∈ field.left ++ field.authority.text ++ field.right) :
    IsAscii char ∧ char.toNat ≠ 10 ∧ char.toNat ≠ 13 := by
  rw [List.append_assoc, List.mem_append, List.mem_append] at hchar
  by_cases htext : char ∈ field.authority.text
  · exact ascii_of_isVisible (field.authority.visible char htext)
  · have hblank := field.blank char (List.mem_append.mpr
      (hchar.imp_right fun hright ↦ hright.resolve_left htext))
    rcases hblank with rfl | rfl <;> decide

theorem HostField.value_line (field : HostField) :
    10 ∉ ascii (field.left ++ field.authority.text ++ field.right) ∧
      13 ∉ ascii (field.left ++ field.authority.text ++ field.right) :=
  ⟨notMem_ascii fun _ hchar ↦ ⟨(field.ascii_value hchar).1, (field.ascii_value hchar).2.1⟩,
    notMem_ascii fun _ hchar ↦ ⟨(field.ascii_value hchar).1, (field.ascii_value hchar).2.2⟩⟩

/-- A `Host` field is a field. -/
def HostField.toField (field : HostField) : Field where
  name := field.name
  name_ne := by
    intro hname
    have hhost := field.name_host
    rw [hname] at hhost
    exact absurd hhost (by decide)
  value := ascii (field.left ++ field.authority.text ++ field.right)
  value_line := field.value_line

/-! ### Requests -/

/-- A method other than `CONNECT`. -/
structure Method extends Word [':'] where
  ne_nil : text ≠ []
  ne_connect : text ≠ "CONNECT".toList

/-- A request in one of the three forms. -/
inductive Request
  | connect (authority : Authority) (fields : List Field)
  | absolute (method : Method) (uri : AbsoluteUri) (fields : List Field)
  | origin (method : Method) (path : Word []) (path_head : path.text.head? = some '/')
      (before : List Field) (host : HostField) (after : List Field)
      (others : ∀ field ∈ before ++ after, ¬field.IsHost)

namespace Request

def method : Request → List Char
  | connect .. => "CONNECT".toList
  | absolute method .. | origin method .. => method.text

def uri : Request → List Char
  | connect authority _ => authority.text
  | absolute _ uri _ => "http://".toList ++ uri.text
  | origin _ path .. => path.text

def fields : Request → List Field
  | connect _ fields | absolute _ _ fields => fields
  | origin _ _ _ before host after _ => before ++ host.toField :: after

/-- The destination that a request names: port 443 for `CONNECT` and port 80 otherwise, if it gives
no other. -/
def target : Request → TargetAddr
  | connect authority _ => authority.target 443
  | absolute _ uri _ => uri.authority.target 80
  | origin _ _ _ _ host _ _ => host.authority.target 80

def line (request : Request) : List Char :=
  request.method ++ ' ' :: (request.uri ++ ' ' :: "HTTP/1.1".toList)

/-- The bytes of a request head, with the empty line at its end. -/
def head (request : Request) : Bytes :=
  ascii request.line ++ 13 :: 10 :: (request.fields.flatMap Field.bytes ++ [13, 10])

theorem method_visible (request : Request) : ∀ char ∈ request.method, isVisible char := by
  have hconnect : ∀ char ∈ "CONNECT".toList, isVisible char := by decide
  cases request with
  | connect => exact hconnect
  | absolute method => exact method.visible
  | origin method => exact method.visible

theorem method_ne_nil (request : Request) : request.method ≠ [] := by
  cases request with
  | connect => exact List.cons_ne_nil _ _
  | absolute method => exact method.ne_nil
  | origin method => exact method.ne_nil

theorem colon_notMem_method (request : Request) : ':' ∉ request.method := by
  have hconnect : ':' ∉ "CONNECT".toList := by decide
  cases request with
  | connect => exact hconnect
  | absolute method => exact method.notMem ':' List.mem_cons_self
  | origin method => exact method.notMem ':' List.mem_cons_self

theorem uri_visible (request : Request) : ∀ char ∈ request.uri, isVisible char := by
  have hscheme : ∀ char ∈ "http://".toList, isVisible char := by decide
  cases request with
  | connect authority => exact authority.visible
  | absolute method uri => exact List.forall_mem_append.mpr ⟨hscheme, uri.visible⟩
  | origin method path => exact path.visible

theorem uri_ne_nil (request : Request) : request.uri ≠ [] := by
  cases request with
  | connect authority => exact authority.text_ne_nil
  | absolute method uri => exact List.append_ne_nil_of_left_ne_nil (by decide) _
  | origin method path path_head =>
    intro hpath
    have hpath : path.text = [] := hpath
    rw [hpath] at path_head
    exact absurd path_head (by decide)

/-- A request line is visible text and spaces. -/
theorem visible_line (request : Request) : ∀ char ∈ request.line, isVisible char ∨ char = ' ' := by
  have hversion : ∀ char ∈ ' ' :: "HTTP/1.1".toList, isVisible char ∨ char = ' ' := by decide
  refine List.forall_mem_append.mpr ⟨fun char hchar ↦ Or.inl (request.method_visible char hchar),
    List.forall_mem_cons.mpr ⟨Or.inr rfl, List.forall_mem_append.mpr ⟨fun char hchar ↦
      Or.inl (request.uri_visible char hchar), hversion⟩⟩⟩

theorem ascii_line (request : Request) {char : Char} (hchar : char ∈ request.line) :
    IsAscii char ∧ char.toNat ≠ 10 ∧ char.toNat ≠ 13 := by
  rcases request.visible_line char hchar with hvisible | rfl
  · exact ascii_of_isVisible hvisible
  · decide

theorem lineFeed_notMem_line (request : Request) : '\n' ∉ request.line :=
  fun hmem ↦ (request.ascii_line hmem).2.1 rfl

/-- The request line falls into its three words. -/
theorem splitWhitespace_line (request : Request) :
    splitWhitespace request.line = [request.method, request.uri, "HTTP/1.1".toList] := by
  have hversion : splitWhitespace "HTTP/1.1".toList = ["HTTP/1.1".toList] := by decide
  rw [line, splitWhitespace_append request.method_ne_nil fun char hchar ↦
      not_isWhitespace_of_isVisible (request.method_visible char hchar),
    splitWhitespace_append request.uri_ne_nil fun char hchar ↦
      not_isWhitespace_of_isVisible (request.uri_visible char hchar), hversion]

end Request

/-! ### The lines of a head -/

/-- The line of a field, as it is decoded. -/
def Field.line (field : Field) : List Char :=
  field.name.text ++ ':' :: fromUtf8Lossy field.value

theorem Field.lineFeed_notMem_line (field : Field) : '\n' ∉ field.line := by
  simp only [Field.line, List.mem_append, List.mem_cons, not_or]
  exact ⟨fun hmem ↦ (ascii_of_isVisible (field.name.visible _ hmem)).2.1 rfl, by decide,
    lineFeed_notMem field.value_line.1⟩

theorem Field.fromUtf8Lossy_bytes (field : Field) (rest : Bytes) :
    fromUtf8Lossy (field.bytes ++ rest) = field.line ++ '\r' :: '\n' :: fromUtf8Lossy rest := by
  have hname : ∀ char ∈ field.name.text, IsAscii char := fun char hchar ↦
    isAscii_of_isVisible (field.name.visible char hchar)
  have hbytes : field.bytes ++ rest =
      ascii field.name.text ++ 58 :: (field.value ++ 13 :: 10 :: rest) := by
    simp [Field.bytes]
  rw [hbytes, fromUtf8Lossy_ascii hname, fromUtf8Lossy_cons (by decide),
    fromUtf8Lossy_append _ (by decide), fromUtf8Lossy_cons (by decide),
    fromUtf8Lossy_cons (by decide)]
  simp only [Field.line, List.append_assoc, List.cons_append]
  rfl

theorem lines_fields (fields : List Field) :
    lines (fromUtf8Lossy (fields.flatMap Field.bytes ++ [13, 10])) =
      fields.map Field.line ++ [[]] := by
  induction fields with
  | nil => decide
  | cons field rest ih =>
    rw [List.flatMap_cons, List.append_assoc, field.fromUtf8Lossy_bytes,
      lines_append field.lineFeed_notMem_line, ih, List.map_cons, List.cons_append]

/-- A head is its request line, the lines of its fields, and an empty line. -/
theorem Request.lines_head (request : Request) :
    lines (fromUtf8Lossy request.head) =
      request.line :: (request.fields.map Field.line ++ [[]]) := by
  rw [Request.head, fromUtf8Lossy_ascii fun char hchar ↦ (request.ascii_line hchar).1,
    fromUtf8Lossy_cons (by decide), fromUtf8Lossy_cons (by decide), ← lines_fields]
  exact lines_append request.lineFeed_notMem_line _

end EntroTunnel.Client.Http
