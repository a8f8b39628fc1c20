import EntroTunnel.Client.RequestLine
import EntroTunnel.Client.HeadReads

/-!
# The requests of one local connection

A connection to the proxy may carry many requests, each to a host of its own. `handle_local` reads
the first head, opens one stream for it, and forwards every later byte on that stream. `handleLocal`
are the frames it sends, with those of its uplink task; `dialed` runs over frames as the server
does, and tells for every byte where its stream was opened to.

`separate_iff` says when every byte goes where the request it belongs to wants it: when all requests
of the connection name one destination and the first is read as it is written, or when nothing is
forwarded at all.
-/

set_option autoImplicit false
set_option relaxedAutoImplicit false

namespace EntroTunnel.Client.Http

open EntroTunnel.Core

/-! ### The end of a written head -/

theorem findSub_headEnd_append {text : Bytes} (htext : 13 ∉ text) (rest : Bytes) :
    findSub headEnd (text ++ rest) = (findSub headEnd rest).map (· + text.length) := by
  induction text with
  | nil => exact Option.map_id'.symm
  | cons byte others ih =>
    rw [List.mem_cons, not_or] at htext
    have hbegins : ¬headEnd <+: byte :: (others ++ rest) :=
      fun hbegins ↦ htext.1 (List.cons_prefix_cons.mp hbegins).1
    rw [List.cons_append, findSub_cons_neg hbegins, ih htext.2, Option.map_map]
    rfl

/-- A line that is not empty is passed over. -/
theorem findSub_headEnd_line {byte : UInt8} (hbyte : byte ≠ 13) (rest : Bytes) :
    findSub headEnd (13 :: 10 :: byte :: rest) =
      (findSub headEnd (byte :: rest)).map (· + 2) := by
  have hfirst : ¬headEnd <+: 13 :: 10 :: byte :: rest := by
    intro hbegins
    have hsecond := (List.cons_prefix_cons.mp hbegins).2
    have hthird := (List.cons_prefix_cons.mp hsecond).2
    exact hbyte (List.cons_prefix_cons.mp hthird).1.symm
  have hsecond : ¬headEnd <+: 10 :: byte :: rest :=
    fun hbegins ↦ absurd (List.cons_prefix_cons.mp hbegins).1 (by decide)
  rw [findSub_cons_neg hfirst, findSub_cons_neg hsecond, Option.map_map]
  rfl

theorem Field.exists_bytes_eq (field : Field) :
    ∃ byte text, field.bytes = byte :: text ++ [13, 10] ∧ 13 ∉ byte :: text := by
  obtain ⟨char, others, hname⟩ := List.exists_cons_of_ne_nil field.name_ne
  refine ⟨UInt8.ofNat char.toNat, ascii others ++ 58 :: field.value, ?_, ?_⟩
  · simp [Field.bytes, hname, ascii]
  · have hascii : 13 ∉ ascii field.name.text := notMem_ascii fun char hchar ↦
      have hvisible := ascii_of_isVisible (field.name.visible char hchar)
      ⟨hvisible.1, hvisible.2.2⟩
    have hvalue : 13 ∉ 58 :: field.value := by
      rw [List.mem_cons, not_or]
      exact ⟨by decide, field.value_line.2⟩
    rw [hname] at hascii
    exact fun hmem ↦ (List.mem_append.mp hmem).elim hascii hvalue

theorem findSub_headEnd_fields (fields : List Field) :
    findSub headEnd (13 :: 10 :: (fields.flatMap Field.bytes ++ [13, 10])) =
      some (fields.flatMap Field.bytes).length := by
  induction fields with
  | nil => decide
  | cons field rest ih =>
    obtain ⟨byte, text, hbytes, hnot⟩ := field.exists_bytes_eq
    have hbyte : byte ≠ 13 := fun heq ↦ hnot (heq ▸ List.mem_cons_self)
    have hshape : (field :: rest).flatMap Field.bytes ++ [13, 10] =
        byte :: (text ++ 13 :: 10 :: (rest.flatMap Field.bytes ++ [13, 10])) := by
      simp [hbytes]
    have hlength : ((field :: rest).flatMap Field.bytes).length =
        (rest.flatMap Field.bytes).length + (byte :: text).length + 2 := by
      simp only [List.flatMap_cons, hbytes, List.length_append, List.length_cons, List.length_nil]
      omega
    rw [hshape, findSub_headEnd_line hbyte, ← List.cons_append, findSub_headEnd_append hnot, ih,
      Option.map_some, Option.map_some, hlength]

/-- The empty line at the end of a head is its first. -/
theorem Request.findSub_head (request : Request) :
    findSub headEnd request.head =
      some (request.line.length + (request.fields.flatMap Field.bytes).length) := by
  have hline : 13 ∉ ascii request.line := notMem_ascii fun char hchar ↦
    ⟨(request.ascii_line hchar).1, (request.ascii_line hchar).2.2⟩
  rw [Request.head, findSub_headEnd_append hline, findSub_headEnd_fields, Option.map_some,
    ascii, List.length_map, Nat.add_comm]

theorem Request.length_head (request : Request) : request.head.length =
    request.line.length + (request.fields.flatMap Field.bytes).length + 4 := by
  simp only [Request.head, ascii, List.length_append, List.length_map, List.length_cons,
    List.length_nil]
  omega

def Request.toHead (request : Request) : Head where
  bytes := request.head
  pos := request.line.length + (request.fields.flatMap Field.bytes).length
  found := request.findSub_head
  length_eq := request.length_head

/-! ### The frames of a connection -/

/-- The frames that `handle_local` and its uplink task send, when the end of the stream follows the
reads. -/
def handleLocal (id : StreamId) (reads : List Bytes) : List Frame :=
  match readHead [] reads with
  | (.done target isConnect forward, rest) =>
    .streamOpen id target ::
      ((if isConnect = false ∧ forward ≠ [] then [.streamData id forward] else []) ++
        rest.map (.streamData id ·) ++ [.streamClose id none])
  | _ => []

/-- The data bytes of frames, each with the target that its stream was opened to. -/
def dialed (opened : StreamId → Option TargetAddr) :
    List Frame → List (UInt8 × Option TargetAddr)
  | [] => []
  | .streamOpen id target :: rest => dialed (Function.update opened id (some target)) rest
  | .streamData id data :: rest => data.map (·, opened id) ++ dialed opened rest
  | _ :: rest => dialed opened rest

/-- The data bytes of frames with their targets, when nothing is opened before. -/
def routed (frames : List Frame) : List (UInt8 × Option TargetAddr) :=
  dialed (fun _ ↦ none) frames

theorem dialed_data (opened : StreamId → Option TargetAddr) (id : StreamId) (reads : List Bytes) :
    dialed opened (reads.map (.streamData id ·) ++ [.streamClose id none]) =
      reads.flatten.map (·, opened id) := by
  induction reads with
  | nil => rfl
  | cons read rest ih =>
    rw [List.map_cons, List.cons_append, dialed, ih, List.flatten_cons, List.map_append]

/-- All data of a connection goes to the target that is read from its first head. -/
theorem routed_handleLocal {reads rest : List Bytes} {target : TargetAddr} {isConnect : Bool}
    {forward : Bytes} (hread : readHead [] reads = (.done target isConnect forward, rest))
    (id : StreamId) :
    routed (handleLocal id reads) = (forward ++ rest.flatten).map (·, some target) := by
  obtain ⟨taken, -, hforward⟩ := readHead_done hread
  rw [routed, handleLocal, hread, dialed, List.append_assoc]
  by_cases hdata : isConnect = false ∧ forward ≠ []
  · rw [if_pos hdata, List.singleton_append, dialed, dialed_data, Function.update_self,
      List.map_append]
  · have hnil : forward = [] := by
      cases isConnect with
      | true => exact hforward
      | false => exact not_not.mp fun hne ↦ hdata ⟨rfl, hne⟩
    rw [if_neg hdata, List.nil_append, dialed_data, Function.update_self, hnil, List.nil_append]

/-- The bytes that are forwarded are the last of those that were read. -/
theorem routed_suffix (id : StreamId) (reads : List Bytes) :
    (routed (handleLocal id reads)).map Prod.fst <:+ reads.flatten := by
  cases hread : readHead [] reads with
  | mk step rest =>
    cases step with
    | done target isConnect forward =>
      obtain ⟨taken, hreads, hforward⟩ := readHead_done hread
      have hfst : (routed (handleLocal id reads)).map Prod.fst = forward ++ rest.flatten := by
        rw [routed_handleLocal hread id, List.map_map]
        exact List.map_id _
      rw [hfst, hforward, hreads, List.flatten_append]
      cases isConnect with
      | true => exact List.suffix_append _ _
      | false => exact List.suffix_rfl
    | more buf =>
      rw [handleLocal, hread]
      exact List.nil_suffix
    | failed error =>
      rw [handleLocal, hread]
      exact List.nil_suffix

/-! ### The owners of the bytes -/

/-- A request in absolute form, with the bytes that follow its head. -/
structure AbsoluteRequest where
  method : Method
  uri : AbsoluteUri
  fields : List Field
  body : Bytes

namespace AbsoluteRequest

def toRequest (request : AbsoluteRequest) : Request :=
  .absolute request.method request.uri request.fields

def bytes (request : AbsoluteRequest) : Bytes :=
  request.toRequest.head ++ request.body

/-- The host and the port that the request line names. -/
def target (request : AbsoluteRequest) : TargetAddr :=
  request.toRequest.target

/-- The method is `CONNECT`, but for letter case. -/
def NamesConnect (request : AbsoluteRequest) : Prop :=
  eqIgnoreAsciiCase request.method.text "CONNECT".toList

end AbsoluteRequest

/-- What an application sends for its requests. -/
def sentFor (requests : List AbsoluteRequest) : Bytes :=
  requests.flatMap AbsoluteRequest.bytes

/-- The same bytes, each with the request it belongs to. -/
def owned (requests : List AbsoluteRequest) : List (AbsoluteRequest × UInt8) :=
  requests.flatMap fun request ↦ request.bytes.map (request, ·)

/-- The last bytes of the requests, as many as frames carry. -/
def forwardedOf (requests : List AbsoluteRequest) (frames : List Frame) :
    List (AbsoluteRequest × UInt8) :=
  (owned requests).drop ((owned requests).length - (routed frames).length)

/-- Every byte that is forwarded goes to the destination that its own request names. -/
def Separate (requests : List AbsoluteRequest) (frames : List Frame) : Prop :=
  ∀ pair ∈ (forwardedOf requests frames).zip (routed frames), pair.2.2 = some pair.1.1.target

instance (requests : List AbsoluteRequest) (frames : List Frame) :
    Decidable (Separate requests frames) :=
  inferInstanceAs (Decidable (∀ pair ∈ (forwardedOf requests frames).zip (routed frames),
    pair.2.2 = some pair.1.1.target))

theorem map_snd_owned (requests : List AbsoluteRequest) :
    (owned requests).map Prod.snd = sentFor requests := by
  rw [owned, sentFor, List.map_flatMap]
  refine congrArg (requests.flatMap ·) (funext fun request ↦ ?_)
  rw [List.map_map]
  exact List.map_id _

theorem length_owned (requests : List AbsoluteRequest) :
    (owned requests).length = (sentFor requests).length := by
  rw [← map_snd_owned, List.length_map]

/-- The last bytes of the requests are the ones that the frames carry. -/
theorem map_snd_forwardedOf (id : StreamId) {requests : List AbsoluteRequest}
    (split : Split (sentFor requests)) :
    (forwardedOf requests (handleLocal id split.reads)).map Prod.snd =
      (routed (handleLocal id split.reads)).map Prod.fst := by
  have hsuffix := routed_suffix id split.reads
  have hdrop := List.suffix_iff_eq_drop.mp hsuffix
  rw [split.flatten_eq, List.length_map] at hdrop
  rw [forwardedOf, List.map_drop, map_snd_owned, length_owned]
  exact hdrop.symm

theorem AbsoluteRequest.bytes_ne_nil (request : AbsoluteRequest) : request.bytes ≠ [] :=
  List.append_ne_nil_of_left_ne_nil
    (List.ne_nil_of_length_pos request.toRequest.toHead.length_pos) _

/-- Every request of a connection has a byte of its own. -/
theorem forall_mem_owned (requests : List AbsoluteRequest) (test : AbsoluteRequest → Prop) :
    (∀ pair ∈ owned requests, test pair.1) ↔ ∀ request ∈ requests, test request := by
  constructor
  · intro howned request hrequest
    obtain ⟨byte, others, hbytes⟩ := List.exists_cons_of_ne_nil request.bytes_ne_nil
    refine howned (request, byte) (List.mem_flatMap.mpr ⟨request, hrequest, ?_⟩)
    rw [hbytes, List.map_cons]
    exact List.mem_cons_self
  · intro hrequests pair hpair
    obtain ⟨request, hrequest, hmem⟩ := List.mem_flatMap.mp hpair
    obtain ⟨byte, -, rfl⟩ := List.mem_map.mp hmem
    exact hrequests request hrequest

/-- When all data goes to one target, it has to be the target of every byte that is forwarded. -/
theorem separate_of_routed {requests : List AbsoluteRequest} {frames : List Frame} {data : Bytes}
    {target : TargetAddr} (hrouted : routed frames = data.map (·, some target))
    (hlength : data.length ≤ (owned requests).length) :
    Separate requests frames ↔
      ∀ pair ∈ (owned requests).drop ((owned requests).length - data.length),
        pair.1.target = target := by
  have hforwarded : forwardedOf requests frames =
      (owned requests).drop ((owned requests).length - data.length) := by
    rw [forwardedOf, hrouted, List.length_map]
  rw [Separate, hforwarded, hrouted]
  constructor
  · intro hseparate pair hpair
    have hzip : (((owned requests).drop ((owned requests).length - data.length)).zip
        (data.map (·, some target))).map Prod.fst =
          (owned requests).drop ((owned requests).length - data.length) := by
      refine List.map_fst_zip ?_
      rw [List.length_drop, List.length_map]
      omega
    rw [← hzip] at hpair
    obtain ⟨both, hboth, rfl⟩ := List.mem_map.mp hpair
    obtain ⟨byte, -, hbyte⟩ := List.mem_map.mp (List.of_mem_zip hboth).2
    have htarget := hseparate both hboth
    rw [← hbyte, Option.some.injEq] at htarget
    exact htarget.symm
  · intro htargets pair hpair
    obtain ⟨hfirst, hsecond⟩ := List.of_mem_zip hpair
    obtain ⟨byte, -, hbyte⟩ := List.mem_map.mp hsecond
    rw [← hbyte, htargets pair.1 hfirst]

/-! ### Requests that go their own way -/

/-- More than 64 KiB are read before the end of a head. -/
def Split.Overflows {sent : Bytes} (split : Split sent) (length : ℕ) : Prop :=
  ∃ count, 64 * 1024 < (split.reads.take count).flatten.length ∧
    (split.reads.take count).flatten.length < length

/-- The reads that complete a head are all there are. -/
def Split.Swallows {sent : Bytes} (split : Split sent) (length : ℕ) : Prop :=
  ∀ count, length ≤ (split.reads.take count).flatten.length →
    (split.reads.take count).flatten = sent

theorem AbsoluteRequest.parse_connect (request : AbsoluteRequest)
    (hconnect : request.NamesConnect) :
    parseRequestLine request.toRequest.head = .ok (splitTarget request.toRequest.uri 443, true) :=
  request.toRequest.parseRequestLine_connect hconnect

theorem AbsoluteRequest.parse_other (request : AbsoluteRequest)
    (hconnect : ¬request.NamesConnect) :
    parseRequestLine request.toRequest.head =
      .ok (splitTarget (request.uri.text.takeWhile (· ≠ '/')) 80, false) :=
  request.toRequest.parseRequestLine_absolute hconnect rfl request.uri.takeWhile_text_ne_nil

/-- A method that is `CONNECT` but for letter case opens a stream to no destination of any request.
-/
theorem AbsoluteRequest.connect_ne (request other : AbsoluteRequest) :
    other.target ≠ splitTarget request.toRequest.uri 443 := by
  have hslash : '/' ∈ ['/', '?', '@'] := by decide
  have hmem : '/' ∈ request.toRequest.uri := List.mem_append_left _ (by decide)
  exact (other.uri.authority.splitTarget_ne hslash hmem 443 80).symm

theorem Split.not_overflows {sent : Bytes} (split : Split sent) {count length : ℕ}
    (hsmall : ∀ fewer < count, 0 < fewer →
      (split.reads.take fewer).flatten.length ≤ 64 * 1024)
    (hle : length ≤ (split.reads.take count).flatten.length) : ¬split.Overflows length := by
  rintro ⟨other, hlarge, hlt⟩
  by_cases hother : other < count
  · by_cases hzero : other = 0
    · rw [hzero, List.take_zero] at hlarge
      exact absurd hlarge (Nat.not_lt_zero _)
    · exact absurd (hsmall other hother (Nat.pos_of_ne_zero hzero)) (Nat.not_le.mpr hlarge)
  · have hmono := length_take_mono split.reads (Nat.le_of_not_lt hother)
    omega

theorem Split.swallows_iff {sent : Bytes} (split : Split sent) {count length : ℕ}
    (hfewer : ∀ fewer < count, (split.reads.take fewer).flatten.length < length)
    (hle : length ≤ (split.reads.take count).flatten.length) :
    split.Swallows length ↔ (split.reads.drop count).flatten = [] := by
  have hall : ∀ count,
      (split.reads.take count).flatten ++ (split.reads.drop count).flatten = sent :=
    fun count ↦ (flatten_take_append_drop split.reads count).trans split.flatten_eq
  constructor
  · intro hswallows
    have heq := hall count
    rw [hswallows count hle] at heq
    exact List.append_right_eq_self.mp heq
  · intro hnil other hother
    have hcount : count ≤ other := by
      by_contra hlt
      exact absurd hother (Nat.not_le.mpr (hfewer other (Nat.lt_of_not_le hlt)))
    have heq := hall count
    rw [hnil, List.append_nil] at heq
    have hlength := congrArg List.length heq
    refine List.IsPrefix.eq_of_length_le ⟨_, hall other⟩ ?_
    exact hlength.symm.trans_le (length_take_mono _ hcount)

section Sending

variable {first : AbsoluteRequest} {others : List AbsoluteRequest}
  {split : Split (sentFor (first :: others))} {whole : Bytes} {rest : List Bytes}

/-- Behind a head that is taken for `CONNECT`, every byte that is forwarded goes wrong. -/
theorem separate_connect_iff (id : StreamId) (hconnect : first.NamesConnect)
    (hread : readHead [] split.reads = (afterHead first.toRequest.head whole, rest))
    (hwhole : whole ++ rest.flatten = sentFor (first :: others)) :
    Separate (first :: others) (handleLocal id split.reads) ↔ rest.flatten = [] := by
  rw [afterHead, first.parse_connect hconnect] at hread
  have hlength : rest.flatten.length ≤ (owned (first :: others)).length := by
    rw [length_owned, ← hwhole, List.length_append]
    exact Nat.le_add_left _ _
  rw [separate_of_routed (routed_handleLocal hread id) hlength, if_pos rfl, List.nil_append]
  constructor
  · intro htargets
    by_contra hne
    obtain ⟨pair, hpair⟩ := List.exists_mem_of_ne_nil
      ((owned (first :: others)).drop ((owned (first :: others)).length - rest.flatten.length))
      (List.ne_nil_of_length_pos (by
        have hpos := List.length_pos_iff.mpr hne
        rw [List.length_drop]
        omega))
    exact first.connect_ne pair.1 (htargets pair hpair)
  · intro hnil
    rw [hnil, List.length_nil, Nat.sub_zero, List.drop_length]
    exact fun _ hpair ↦ absurd hpair List.not_mem_nil

/-- Behind another head all bytes are forwarded, to the destination that is read from it. -/
theorem separate_other_iff (id : StreamId) (hconnect : ¬first.NamesConnect)
    (hread : readHead [] split.reads = (afterHead first.toRequest.head whole, rest))
    (hwhole : whole ++ rest.flatten = sentFor (first :: others)) :
    Separate (first :: others) (handleLocal id split.reads) ↔
      first.toRequest.Plain ∧ ∀ other ∈ others, other.target = first.target := by
  rw [afterHead, first.parse_other hconnect] at hread
  have hlength : (owned (first :: others)).length = (whole ++ rest.flatten).length := by
    rw [length_owned, hwhole]
  rw [separate_of_routed (routed_handleLocal hread id) hlength.ge]
  simp only [Bool.false_eq_true, if_false]
  rw [hlength, Nat.sub_self, List.drop_zero]
  refine (forall_mem_owned _ (·.target = _)).trans ?_
  rw [List.forall_mem_cons]
  have hplain : first.target = splitTarget (first.uri.text.takeWhile (· ≠ '/')) 80 ↔
      first.toRequest.Plain :=
    eq_comm.trans (first.uri.splitTarget_iff.trans (and_iff_right hconnect).symm)
  rw [hplain]
  refine and_congr_right fun hfirst ↦ ?_
  rw [hplain.mpr hfirst]

end Sending

/-- Every byte that is forwarded for a connection goes where its own request wants it exactly when
nothing is forwarded, or the first request is plain and the others name the same destination. -/
theorem separate_iff (id : StreamId) (first : AbsoluteRequest) (others : List AbsoluteRequest)
    (split : Split (sentFor (first :: others))) :
    Separate (first :: others) (handleLocal id split.reads) ↔
      split.Overflows first.toRequest.head.length ∨
        (first.NamesConnect ∧ split.Swallows first.toRequest.head.length) ∨
        (first.toRequest.Plain ∧ ∀ other ∈ others, other.target = first.target) := by
  have hbytes : first.toRequest.toHead.bytes = first.toRequest.head := rfl
  have hsent : [] ++ split.reads.flatten =
      first.toRequest.toHead.bytes ++ (first.body ++ sentFor others) := by
    rw [List.nil_append, split.flatten_eq, sentFor, List.flatMap_cons, AbsoluteRequest.bytes,
      List.append_assoc, hbytes]
    rfl
  obtain ⟨count, hfewer, hcases⟩ :=
    readHead_cases split.nonempty hsent first.toRequest.toHead.length_pos
  simp only [List.nil_append, hbytes] at hfewer hcases
  rcases hcases with ⟨hlarge, hlt, hread⟩ | ⟨hle, hsmall, hread⟩
  · -- The head is refused, and no frame is sent.
    refine iff_of_true ?_ (Or.inl ⟨count, hlarge, hlt⟩)
    have hnone : handleLocal id split.reads = [] := by rw [handleLocal, hread]
    rw [hnone]
    intro pair hpair
    exact absurd (List.of_mem_zip hpair).2 List.not_mem_nil
  · have hwhole := (flatten_take_append_drop split.reads count).trans split.flatten_eq
    rw [or_iff_right (split.not_overflows hsmall hle)]
    by_cases hconnect : first.NamesConnect
    · rw [separate_connect_iff id hconnect hread hwhole, ← split.swallows_iff hfewer hle]
      exact ⟨fun hswallows ↦ Or.inl ⟨hconnect, hswallows⟩,
        fun hcases ↦ hcases.elim And.right fun hplain ↦ absurd hconnect hplain.1.1⟩
    · rw [separate_other_iff id hconnect hread hwhole]
      exact (or_iff_right fun hswallows ↦ hconnect hswallows.1).symm

/-- A `GET` request for the root of a host. -/
def getRoot (host : Word separators) (hne : host.text ≠ []) : AbsoluteRequest where
  method := getMethod
  uri := rootUri none host hne
  fields := []
  body := []

def requestToA : AbsoluteRequest :=
  getRoot hostA hostA_ne_nil

def requestToB : AbsoluteRequest :=
  getRoot ⟨"b.test".toList, by decide, by decide⟩ (List.cons_ne_nil _ _)

/-- The second request of a connection goes to the host of the first. -/
theorem request_misrouted :
    ¬∀ (id : StreamId) (first : AbsoluteRequest) (others : List AbsoluteRequest)
      (split : Split (sentFor (first :: others))),
      Separate (first :: others) (handleLocal id split.reads) := by
  intro hall
  have hnonempty : ∀ read ∈ [requestToA.bytes, requestToB.bytes], read ≠ [] := by
    rw [List.forall_mem_cons, List.forall_mem_singleton]
    exact ⟨requestToA.bytes_ne_nil, requestToB.bytes_ne_nil⟩
  have hflatten : [requestToA.bytes, requestToB.bytes].flatten =
      sentFor [requestToA, requestToB] := rfl
  have hmixed : ¬Separate [requestToA, requestToB]
      (handleLocal 1 [requestToA.bytes, requestToB.bytes]) := by decide +kernel
  exact hmixed (hall 1 requestToA [requestToB] ⟨_, hnonempty, hflatten⟩)

end EntroTunnel.Client.Http
