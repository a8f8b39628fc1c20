import EntroTunnel.Client.RequestForm

/-!
# The destination read from a request

`parse_request_line` cuts the destination out of the decoded head with a few string splits.
`splitHostPort_text` is the split of an authority, `AbsoluteUri.takeWhile_text` what is left of an
absolute URI before its first slash, and `hostField_line` the line of the `Host` field.

The splits know neither a user in front of a host, nor a query right after it, nor any spelling of
`Host` but two; and a method that is `CONNECT` in other letters is taken for it. `target_read_iff`
says that the destination is the one the request names exactly when nothing of this occurs.
-/

set_option autoImplicit false
set_option relaxedAutoImplicit false

namespace EntroTunnel.Client.Http

open EntroTunnel.Core

/-! ### Hosts and ports -/

/-- What cannot belong to a port stays in the host. -/
theorem mem_splitHostPort {char : Char} {text : List Char} (hmem : char ∈ text)
    (hcolon : char ≠ ':') (hport : ¬(char = '+' ∨ char.isDigit)) (default : UInt16) :
    char ∈ (splitHostPort text default).1.toList := by
  rw [splitHostPort]
  cases hsplit : rsplitOnce ':' text with
  | none => rwa [String.toList_ofList]
  | some parts =>
    obtain ⟨before, after⟩ := parts
    cases hnumber : parseU16 after with
    | none => simpa only [hnumber, String.toList_ofList] using hmem
    | some number =>
      simp only [hnumber, String.toList_ofList]
      rw [rsplitOnce_eq_some hsplit, List.mem_append, List.mem_cons] at hmem
      exact hmem.resolve_right fun hafter ↦
        hport (isDigit_of_parseU16 hnumber char (hafter.resolve_left hcolon))

theorem splitHostPort_of_no_port {text : List Char}
    (htext : ∀ before after, text = before ++ ':' :: after → parseU16 after = none)
    (default : UInt16) : splitHostPort text default = (String.ofList text, default) := by
  rw [splitHostPort]
  cases hsplit : rsplitOnce ':' text with
  | none => rfl
  | some parts =>
    have hnone := htext parts.1 parts.2 (rsplitOnce_eq_some hsplit)
    simp only [hnone]

theorem splitHostPort_append (host : List Char) {after : List Char} (hafter : ':' ∉ after)
    (default : UInt16) :
    splitHostPort (host ++ ':' :: after) default =
      ((parseU16 after).elim (String.ofList (host ++ ':' :: after), default)
        (String.ofList host, ·)) := by
  rw [splitHostPort, rsplitOnce_append hafter]
  cases hnumber : parseU16 after with
  | none => simp only [hnumber, Option.elim_none]
  | some number => simp only [hnumber, Option.elim_some]

/-- No number follows a colon in a host. -/
theorem Host.no_port (host : Host) (before after : List Char)
    (htext : host.text = before ++ ':' :: after) : parseU16 after = none := by
  cases host with
  | name word hne =>
    have hmem : ':' ∈ word.text := by
      rw [show word.text = before ++ ':' :: after from htext]
      exact List.mem_append_right _ List.mem_cons_self
    exact absurd hmem (word.notMem ':' List.mem_cons_self)
  | bracketed word =>
    have hlast : (before ++ ':' :: after).getLast? = some ']' := by
      rw [← htext]
      exact List.getLast?_concat
    rw [Option.eq_none_iff_forall_ne_some]
    intro number hnumber
    have hdigits := isDigit_of_parseU16 hnumber
    rw [List.getLast?_append, List.getLast?_cons, Option.some_or, Option.some.injEq] at hlast
    cases hafter : after.getLast? with
    | none =>
      rw [hafter] at hlast
      exact absurd hlast (by decide)
    | some char =>
      rw [hafter, Option.getD_some] at hlast
      have hchar := hdigits char (List.mem_of_getLast? hafter)
      rw [hlast] at hchar
      exact absurd hchar (by decide)

theorem colon_notMem_of_isDigit {digits : List Char} (hdigits : ∀ char ∈ digits, char.isDigit) :
    ':' ∉ digits := by
  intro hmem
  exact absurd (hdigits ':' hmem) (by decide)

/-- An authority is split into the host and the port it names, unless its colon has no digits. -/
theorem Authority.splitHostPort_text (authority : Authority) (hport : authority.port ≠ some [])
    (default : UInt16) :
    splitHostPort authority.text default =
      (String.ofList authority.host.text, authority.portOr default) := by
  rw [Authority.text, Authority.portOr]
  cases hdigits : authority.port with
  | none =>
    rw [Option.elim_none, List.append_nil]
    exact splitHostPort_of_no_port authority.host.no_port default
  | some digits =>
    have hisDigit := authority.port_isDigit digits hdigits
    have hlt := authority.port_lt digits hdigits
    cases digits with
    | nil => exact absurd hdigits hport
    | cons first rest =>
      rw [Option.elim_some, splitHostPort_append _ (colon_notMem_of_isDigit hisDigit),
        parseU16_digits (List.cons_ne_nil _ _) hisDigit hlt, Option.elim_some]

/-- After a colon without digits, the colon becomes part of the host. -/
theorem Authority.splitHostPort_text_of_empty (authority : Authority)
    (hport : authority.port = some []) (default : UInt16) :
    splitHostPort authority.text default =
      (String.ofList (authority.host.text ++ [':']), default) := by
  rw [Authority.text, hport, Option.elim_some, splitHostPort_append _ List.not_mem_nil]
  rfl

/-- The characters that tell a longer text from a host. -/
theorem Host.notMem_text (host : Host) {char : Char} (hchar : char ∈ ['/', '?', '@']) :
    char ∉ host.text := by
  have hseparators : ∀ char ∈ ['/', '?', '@'], char ∈ separators ∧
      char ∈ ['/', '?', '#', '[', ']', '@'] ∧ char ≠ '[' ∧ char ≠ ']' := by decide
  have hseparator := hseparators char hchar
  cases host with
  | name word hne => exact word.notMem char hseparator.1
  | bracketed word =>
    rw [Host.text, List.mem_append, List.mem_cons, List.mem_singleton, not_or, not_or]
    exact ⟨⟨hseparator.2.2.1, word.notMem char hseparator.2.1⟩, hseparator.2.2.2⟩

/-- The destination that the split of a text gives. -/
def splitTarget (text : List Char) (default : UInt16) : TargetAddr :=
  .domain (splitHostPort text default).1 (splitHostPort text default).2

/-- The destination of an authority is the split of its text exactly when its colon has digits. -/
theorem Authority.splitTarget_text_iff (authority : Authority) (default : UInt16) :
    splitTarget authority.text default = authority.target default ↔ authority.port ≠ some [] := by
  by_cases hport : authority.port = some []
  · refine iff_of_false (fun heq ↦ ?_) (not_not.mpr hport)
    rw [splitTarget, authority.splitHostPort_text_of_empty hport, Authority.target,
      TargetAddr.domain.injEq, String.ofList_inj] at heq
    exact absurd (List.append_right_eq_self.mp heq.1) (List.cons_ne_nil _ _)
  · rw [splitTarget, authority.splitHostPort_text hport, Authority.target]
    exact iff_of_true rfl hport

theorem Authority.splitTarget_ne (authority : Authority) {text : List Char} {char : Char}
    (hchar : char ∈ ['/', '?', '@']) (hmem : char ∈ text) (default port : UInt16) :
    splitTarget text default ≠ authority.target port := by
  have hkept : ∀ char ∈ ['/', '?', '@'], char ≠ ':' ∧ ¬(char = '+' ∨ char.isDigit) := by decide
  have hkept := hkept char hchar
  intro heq
  have hhost := mem_splitHostPort hmem hkept.1 hkept.2 default
  rw [splitTarget, Authority.target, TargetAddr.domain.injEq] at heq
  rw [heq.1, String.toList_ofList] at hhost
  exact authority.host.notMem_text hchar hhost

/-! ### Absolute URIs -/

def AbsoluteUri.user (uri : AbsoluteUri) : List Char :=
  uri.userinfo.elim [] (·.text ++ ['@'])

def AbsoluteUri.rest (uri : AbsoluteUri) : List Char :=
  uri.path.text ++ uri.query.elim [] ('?' :: ·.text)

theorem AbsoluteUri.slash_notMem_user (uri : AbsoluteUri) : '/' ∉ uri.user := by
  rw [AbsoluteUri.user]
  cases uri.userinfo with
  | none => exact List.not_mem_nil
  | some word =>
    rw [Option.elim_some, List.mem_append, not_or]
    exact ⟨word.notMem '/' List.mem_cons_self, by decide⟩

theorem Authority.slash_notMem_text (authority : Authority) : '/' ∉ authority.text := by
  rw [Authority.text, List.mem_append, not_or]
  refine ⟨authority.host.notMem_text List.mem_cons_self, ?_⟩
  cases hdigits : authority.port with
  | none => exact List.not_mem_nil
  | some digits =>
    rw [Option.elim_some, List.mem_cons, not_or]
    refine ⟨by decide, fun hmem ↦ ?_⟩
    exact absurd (authority.port_isDigit digits hdigits '/' hmem) (by decide)

/-- What stands before the first slash of an absolute URI. -/
theorem AbsoluteUri.takeWhile_text (uri : AbsoluteUri) :
    uri.text.takeWhile (· ≠ '/') =
      uri.user ++ (uri.authority.text ++ uri.rest.takeWhile (· ≠ '/')) := by
  have hne : ∀ text : List Char, '/' ∉ text → ∀ char ∈ text, decide (char ≠ '/') := by
    intro text htext char hchar
    rw [decide_eq_true_eq]
    exact fun heq ↦ htext (heq ▸ hchar)
  have htext : uri.text = uri.user ++ (uri.authority.text ++ uri.rest) := by
    simp only [AbsoluteUri.text, AbsoluteUri.user, AbsoluteUri.rest, List.append_assoc]
  rw [htext, List.takeWhile_append_of_pos (hne _ uri.slash_notMem_user),
    List.takeWhile_append_of_pos (hne _ uri.authority.slash_notMem_text)]

theorem AbsoluteUri.takeWhile_text_ne_nil (uri : AbsoluteUri) :
    uri.text.takeWhile (· ≠ '/') ≠ [] := by
  rw [uri.takeWhile_text]
  exact List.append_ne_nil_of_right_ne_nil _
    (List.append_ne_nil_of_left_ne_nil uri.authority.text_ne_nil _)

/-- Nothing is left of the rest of a URI when it is empty or begins with a slash. -/
theorem AbsoluteUri.takeWhile_rest (uri : AbsoluteUri)
    (hquery : uri.path.text = [] → uri.query.isNone) : uri.rest.takeWhile (· ≠ '/') = [] := by
  rw [AbsoluteUri.rest]
  cases hpath : uri.path.text with
  | nil =>
    rw [Option.isNone_iff_eq_none.mp (hquery hpath)]
    rfl
  | cons char others =>
    have hchar : char = '/' := uri.path_head char (by rw [hpath]; rfl)
    rw [List.cons_append, List.takeWhile_cons_of_neg (by simp [hchar])]

theorem AbsoluteUri.question_mem_rest (uri : AbsoluteUri) (hpath : uri.path.text = [])
    (hquery : ¬uri.query.isNone) : '?' ∈ uri.rest.takeWhile (· ≠ '/') := by
  obtain ⟨query, hsome⟩ := Option.ne_none_iff_exists'.mp
    (fun hnone ↦ hquery (Option.isNone_iff_eq_none.mpr hnone))
  rw [AbsoluteUri.rest, hpath, hsome, List.nil_append, Option.elim_some,
    List.takeWhile_cons_of_pos (by decide)]
  exact List.mem_cons_self

/-- The text before the first slash splits into the destination exactly when there is no user and no
query before the slash, and the colon has digits. -/
theorem AbsoluteUri.splitTarget_iff (uri : AbsoluteUri) :
    splitTarget (uri.text.takeWhile (· ≠ '/')) 80 = uri.authority.target 80 ↔
      uri.userinfo.isNone ∧ (uri.path.text = [] → uri.query.isNone) ∧
        uri.authority.port ≠ some [] := by
  rw [uri.takeWhile_text]
  by_cases huser : uri.userinfo.isNone
  · by_cases hquery : uri.path.text = [] → uri.query.isNone
    · have hnil : uri.user = [] := by
        rw [AbsoluteUri.user, Option.isNone_iff_eq_none.mp huser, Option.elim_none]
      rw [uri.takeWhile_rest hquery, hnil, List.nil_append, List.append_nil,
        uri.authority.splitTarget_text_iff]
      exact ⟨fun hport ↦ ⟨huser, hquery, hport⟩, fun hall ↦ hall.2.2⟩
    · refine iff_of_false ?_ fun hall ↦ hquery hall.2.1
      obtain ⟨hpath, hnone⟩ := Classical.not_imp.mp hquery
      have hquestion : '?' ∈ ['/', '?', '@'] := by decide
      refine uri.authority.splitTarget_ne hquestion ?_ 80 80
      exact List.mem_append_right _ (List.mem_append_right _ (uri.question_mem_rest hpath hnone))
  · refine iff_of_false ?_ fun hall ↦ huser hall.1
    obtain ⟨word, hword⟩ := Option.ne_none_iff_exists'.mp
      (fun hnone ↦ huser (Option.isNone_iff_eq_none.mpr hnone))
    have hmem : '@' ∈ uri.user := by
      rw [AbsoluteUri.user, hword, Option.elim_some]
      exact List.mem_append_right _ List.mem_cons_self
    have hat : '@' ∈ ['/', '?', '@'] := by decide
    exact uri.authority.splitTarget_ne hat (List.mem_append_left _ hmem) 80 80

/-! ### The `Host` field -/

/-- A line is passed over unless its first word is one of the two spellings and a colon follows. -/
theorem hostField_eq_none {word rest : List Char} {mark : Char} (hne : word ≠ [])
    (hvisible : ∀ char ∈ word, isVisible char) (hcolon : ':' ∉ word) (hmark : mark ∈ [' ', ':'])
    (hspelling : mark = ':' → word ≠ "Host".toList ∧ word ≠ "host".toList) :
    hostField (word ++ mark :: rest) = none := by
  have hspellings : ∀ mark ∈ [' ', ':'], mark ∉ "Host".toList ∧ mark ∉ "host".toList := by decide
  have hhead : ∀ char ∈ (word ++ mark :: rest).head?, ¬isWhitespace char := by
    obtain ⟨first, others, rfl⟩ := List.exists_cons_of_ne_nil hne
    intro char hchar
    have heq : first = char := Option.some.inj hchar
    exact heq ▸ not_isWhitespace_of_isVisible (hvisible first List.mem_cons_self)
  have hstrip : ∀ start : List Char, mark ∉ start → (mark = ':' → word ≠ start) →
      stripPrefix (start ++ [':']) (trim (word ++ mark :: rest)) = none := by
    intro start hstart hword
    rw [stripPrefix_eq_none]
    intro hbegins
    obtain ⟨heq, hcolon⟩ :=
      eq_of_append_isPrefix (hbegins.trans (trim_isPrefix hhead)) hcolon hstart
    exact hword hcolon heq
  have hupper := hstrip "Host".toList (hspellings mark hmark).1 fun heq ↦ (hspelling heq).1
  have hlower := hstrip "host".toList (hspellings mark hmark).2 fun heq ↦ (hspelling heq).2
  simp only [hostField]
  rw [show "Host:".toList = "Host".toList ++ [':'] from rfl, hupper,
    show "host:".toList = "host".toList ++ [':'] from rfl, hlower]
  rfl

theorem Field.hostField_line_eq_none (field : Field)
    (hname : field.name.text ≠ "Host".toList ∧ field.name.text ≠ "host".toList) :
    hostField field.line = none :=
  hostField_eq_none field.name_ne field.name.visible (field.name.notMem ':' List.mem_cons_self)
    (by decide) fun _ ↦ hname

theorem Request.hostField_line_eq_none (request : Request) : hostField request.line = none :=
  hostField_eq_none request.method_ne_nil request.method_visible request.colon_notMem_method
    (by decide) fun heq ↦ absurd heq (by decide)

theorem HostField.line_toField (field : HostField) :
    field.toField.line =
      field.name.text ++ ':' :: (field.left ++ field.authority.text) ++ field.right := by
  have hvalue := fromUtf8Lossy_ascii (fun char hchar ↦ (field.ascii_value hchar).1) []
  rw [List.append_nil, show fromUtf8Lossy [] = [] from rfl, List.append_nil] at hvalue
  rw [Field.line, HostField.toField, hvalue]
  simp only [List.append_assoc, List.cons_append]

theorem HostField.isWhitespace_of_mem (field : HostField) {char : Char}
    (hchar : char ∈ field.left ++ field.right) : isWhitespace char := by
  rcases field.blank char hchar with rfl | rfl <;> decide

/-- Trimming takes the blanks after the value off the line of a `Host` field. -/
theorem HostField.trim_line (field : HostField) :
    trim field.toField.line = field.name.text ++ ':' :: (field.left ++ field.authority.text) := by
  have hright : ∀ char ∈ field.right, isWhitespace char := fun char hchar ↦
    field.isWhitespace_of_mem (List.mem_append_right _ hchar)
  rw [field.line_toField]
  refine trim_append_right hright ?_ ?_ (by simp)
  · obtain ⟨first, others, hname⟩ := List.exists_cons_of_ne_nil field.toField.name_ne
    have hname : field.name.text = first :: others := hname
    intro char hchar
    rw [hname, List.cons_append, List.head?_cons, Option.mem_some_iff] at hchar
    exact hchar ▸ not_isWhitespace_of_isVisible (field.name.visible first (by simp [hname]))
  · intro char hchar
    obtain ⟨last, hlast⟩ := Option.ne_none_iff_exists'.mp
      (mt List.getLast?_eq_none_iff.mp field.authority.text_ne_nil)
    rw [List.getLast?_append, List.getLast?_cons, List.getLast?_append, hlast, Option.some_or,
      Option.some_or, Option.getD_some, Option.mem_some_iff] at hchar
    exact hchar ▸ not_isWhitespace_of_isVisible
      (field.authority.visible last (List.mem_of_getLast? hlast))

/-- The value of a `Host` field in one of the two spellings is its authority. -/
theorem HostField.hostField_line (field : HostField)
    (hname : field.name.text = "Host".toList ∨ field.name.text = "host".toList) :
    hostField field.toField.line = some field.authority.text := by
  have hleft : ∀ char ∈ field.left, isWhitespace char := fun char hchar ↦
    field.isWhitespace_of_mem (List.mem_append_left _ hchar)
  have hauthority : ∀ char ∈ field.authority.text, ¬isWhitespace char := fun char hchar ↦
    not_isWhitespace_of_isVisible (field.authority.visible char hchar)
  have hvalue : trim (field.left ++ field.authority.text) = field.authority.text :=
    trim_append_left hleft (fun char hchar ↦ hauthority char (List.mem_of_mem_head? hchar))
      (fun char hchar ↦ hauthority char (List.mem_of_getLast? hchar)) field.authority.text_ne_nil
  simp only [hostField]
  rw [field.trim_line]
  rcases hname with hname | hname
  · rw [hname, show "Host".toList ++ ':' :: (field.left ++ field.authority.text) =
      "Host:".toList ++ (field.left ++ field.authority.text) from rfl, stripPrefix_append,
      Option.some_or, Option.map_some, hvalue]
  · have hother : ¬"Host:".toList <+: "host:".toList ++ (field.left ++ field.authority.text) :=
      fun hbegins ↦ absurd (List.cons_prefix_cons.mp hbegins).1 (by decide)
    rw [hname, show "host".toList ++ ':' :: (field.left ++ field.authority.text) =
      "host:".toList ++ (field.left ++ field.authority.text) from rfl, stripPrefix_append,
      stripPrefix_eq_none.mpr hother, Option.none_or, Option.map_some, hvalue]

theorem Field.hostField_lines_eq_none {fields : List Field}
    (hfields : ∀ field ∈ fields, ¬field.IsHost) :
    (fields.map Field.line).findSome? hostField = none := by
  have hupper : eqIgnoreAsciiCase "Host".toList "Host".toList := by decide
  have hlower : eqIgnoreAsciiCase "host".toList "Host".toList := by decide
  rw [List.findSome?_eq_none_iff]
  intro line hline
  obtain ⟨field, hfield, rfl⟩ := List.mem_map.mp hline
  refine field.hostField_line_eq_none ⟨fun hname ↦ ?_, fun hname ↦ ?_⟩
  · exact hfields field hfield (by rw [Field.IsHost, hname]; exact hupper)
  · exact hfields field hfield (by rw [Field.IsHost, hname]; exact hlower)

/-- Of the fields with one `Host` field, that field is found if its name has one of the two
spellings, and none otherwise. -/
theorem hostField_fields (host : HostField) {before after : List Field}
    (others : ∀ field ∈ before ++ after, ¬field.IsHost) :
    (((before ++ host.toField :: after).map Field.line).findSome? hostField).getD [] =
      if host.name.text = "Host".toList ∨ host.name.text = "host".toList then host.authority.text
      else [] := by
  rw [List.forall_mem_append] at others
  rw [List.map_append, List.map_cons, List.findSome?_append,
    Field.hostField_lines_eq_none others.1, Option.none_or, List.findSome?_cons]
  by_cases hname : host.name.text = "Host".toList ∨ host.name.text = "host".toList
  · rw [if_pos hname, host.hostField_line hname, Option.getD_some]
  · rw [if_neg hname, host.toField.hostField_line_eq_none (not_or.mp hname),
      Field.hostField_lines_eq_none others.2, Option.getD_none]

/-! ### Request lines -/

/-- `CONNECT`, and every method that differs from it in letter case, takes the URI for an authority.
-/
theorem Request.parseRequestLine_connect (request : Request)
    (hmethod : eqIgnoreAsciiCase request.method "CONNECT".toList) :
    parseRequestLine request.head = .ok (splitTarget request.uri 443, true) := by
  simp only [parseRequestLine, request.lines_head, List.headD_cons, request.splitWhitespace_line,
    List.tail_cons, hmethod, if_true]
  rfl

theorem Request.parseRequestLine_absolute (request : Request)
    (hmethod : ¬eqIgnoreAsciiCase request.method "CONNECT".toList) {rest : List Char}
    (huri : request.uri = "http://".toList ++ rest) (hne : rest.takeWhile (· ≠ '/') ≠ []) :
    parseRequestLine request.head = .ok (splitTarget (rest.takeWhile (· ≠ '/')) 80, false) := by
  simp only [parseRequestLine, request.lines_head, List.headD_cons, request.splitWhitespace_line,
    List.tail_cons, hmethod, huri, stripPrefix_append, hne]
  rfl

/-- Without a URI that names a host, the first line that is a `Host` field decides. -/
theorem Request.parseRequestLine_origin (request : Request)
    (hmethod : ¬eqIgnoreAsciiCase request.method "CONNECT".toList)
    (huri : stripPrefix "http://".toList request.uri = none) {hostPort : List Char}
    (hfind : ((request.fields.map Field.line).findSome? hostField).getD [] = hostPort) :
    parseRequestLine request.head =
      if hostPort = [] then .error (.noTarget (String.ofList request.line))
      else .ok (splitTarget hostPort 80, false) := by
  have hempty : hostField [] = none := by decide
  have hlines : (request.line :: (request.fields.map Field.line ++ [[]])).findSome? hostField =
      (request.fields.map Field.line).findSome? hostField := by
    rw [List.findSome?_cons, request.hostField_line_eq_none, List.findSome?_append,
      List.findSome?_cons, hempty, List.findSome?_nil]
    exact Option.or_none
  simp only [parseRequestLine, request.lines_head, List.headD_cons, request.splitWhitespace_line,
    List.tail_cons, hmethod, huri, hlines, hfind]
  rfl

theorem stripPrefix_path {path : List Char} (path_head : path.head? = some '/') :
    stripPrefix "http://".toList path = none := by
  obtain ⟨rest, rfl⟩ := List.head?_eq_some_iff.mp path_head
  rw [stripPrefix_eq_none]
  exact fun hbegins ↦ absurd (List.cons_prefix_cons.mp hbegins).1 (by decide)

/-- The requests whose destination is read as they name it: a colon is followed by digits; a method
other than `CONNECT` differs from it in more than letter case; an absolute URI has no user, and a
query only after a path; and the `Host` field of a path has one of two spellings. -/
def Request.Plain : Request → Prop
  | connect authority _ => authority.port ≠ some []
  | absolute method uri _ =>
    ¬eqIgnoreAsciiCase method.text "CONNECT".toList ∧ uri.userinfo.isNone ∧
      (uri.path.text = [] → uri.query.isNone) ∧ uri.authority.port ≠ some []
  | origin method _ _ _ host _ _ =>
    ¬eqIgnoreAsciiCase method.text "CONNECT".toList ∧
      (host.name.text = "Host".toList ∨ host.name.text = "host".toList) ∧
      host.authority.port ≠ some []

theorem map_fst_eq_ok_iff {read named : TargetAddr} {isConnect : Bool} :
    (Except.ok (read, isConnect) : Except HeadError (TargetAddr × Bool)).map Prod.fst = .ok named ↔
      read = named :=
  Except.ok.injEq read named ▸ Iff.rfl

/-- The destination read from a request is the one it names exactly when the request is plain. -/
theorem Request.target_read_iff (request : Request) :
    (parseRequestLine request.head).map Prod.fst = .ok request.target ↔ request.Plain := by
  have hslash : '/' ∈ ['/', '?', '@'] := by decide
  have hconnect : eqIgnoreAsciiCase "CONNECT".toList "CONNECT".toList := by decide
  by_cases hmethod : eqIgnoreAsciiCase request.method "CONNECT".toList
  · rw [request.parseRequestLine_connect hmethod, map_fst_eq_ok_iff]
    cases request with
    | connect authority fields => exact authority.splitTarget_text_iff 443
    | absolute method uri fields =>
      -- The whole URI is taken for an authority: its slashes stay in the host.
      refine iff_of_false ?_ fun hplain ↦ hplain.1 hmethod
      exact uri.authority.splitTarget_ne hslash (List.mem_append_left _ (by decide)) 443 80
    | origin method path path_head before host after others =>
      refine iff_of_false ?_ fun hplain ↦ hplain.1 hmethod
      exact host.authority.splitTarget_ne hslash (List.mem_of_mem_head? path_head) 443 80
  · cases request with
    | connect authority fields => exact absurd hconnect hmethod
    | absolute method uri fields =>
      rw [Request.parseRequestLine_absolute _ hmethod rfl uri.takeWhile_text_ne_nil,
        map_fst_eq_ok_iff]
      exact uri.splitTarget_iff.trans (and_iff_right hmethod).symm
    | origin method path path_head before host after others =>
      rw [Request.parseRequestLine_origin _ hmethod (stripPrefix_path path_head)
        (hostField_fields host others)]
      by_cases hname : host.name.text = "Host".toList ∨ host.name.text = "host".toList
      · rw [if_pos hname, if_neg host.authority.text_ne_nil, map_fst_eq_ok_iff]
        refine (host.authority.splitTarget_text_iff 80).trans ?_
        exact ⟨fun hport ↦ ⟨hmethod, hname, hport⟩, fun hplain ↦ hplain.2.2⟩
      · rw [if_neg hname, if_pos rfl]
        exact iff_of_false (fun heq ↦ nomatch heq) fun hplain ↦ hname hplain.2.1

def getMethod : Method :=
  ⟨⟨"GET".toList, by decide, by decide⟩, by decide, by decide⟩

/-- The root of a host, at the default port. -/
def rootUri (userinfo : Option (Word ['/', '?', '#', '[', ']', '@'])) (host : Word separators)
    (hne : host.text ≠ []) : AbsoluteUri where
  userinfo := userinfo
  authority := ⟨.name host hne, none, by simp, by simp⟩
  path := ⟨['/'], by decide, by decide⟩
  path_head := by simp
  query := none

def hostA : Word separators :=
  ⟨"a.test".toList, by decide, by decide⟩

theorem hostA_ne_nil : hostA.text ≠ [] :=
  List.cons_ne_nil _ _

/-- `GET http://user@a.test/`, with no fields. -/
def requestWithUser : Request :=
  .absolute getMethod
    (rootUri (some ⟨"user".toList, by decide, by decide⟩) hostA hostA_ne_nil) []

/-- The user in front of a host becomes part of the host that is dialled. -/
theorem target_misread :
    ¬∀ request : Request, (parseRequestLine request.head).map Prod.fst = .ok request.target := by
  intro hall
  have hread : (parseRequestLine requestWithUser.head).map Prod.fst =
      .ok (.domain "user@a.test" 80) := by decide +kernel
  have htarget : requestWithUser.target = .domain "a.test" 80 := by decide +kernel
  have heq := (hread.symm.trans (hall requestWithUser)).trans (congrArg Except.ok htarget)
  exact absurd heq (by decide)

end EntroTunnel.Client.Http
