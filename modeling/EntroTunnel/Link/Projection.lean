import EntroTunnel.Foundation.Places
import EntroTunnel.Link.StreamInvariant
import Mathlib.Algebra.Group.Nat.Defs

/-!
# The streams of a link

The stream that a place in the accept order stands for, cut out of a link: `view`. A place that no
connection has taken yet is a connection that has just started. `Numbered` says that ids, tables and
tasks belong together, as long as the ids have not wrapped around. A step of the client is, for each
stream, the step that `label` names, or none (`project_conn`, `project_accept`, `project_send`,
`project_out`, `project_hand`).
-/

set_option autoImplicit false
set_option relaxedAutoImplicit false

namespace EntroTunnel.Link

open EntroTunnel.Core EntroTunnel.Foundation EntroTunnel.Client EntroTunnel.Server

/-! ### Ids -/

/-- Number of stream ids. -/
def idCount : ℕ := 2 ^ 32

/-- The id of the connection that was accepted in a place. -/
def idOf (index : ℕ) : StreamId :=
  UInt32.ofNat (index + 1)

theorem idOf_inj {first second : ℕ} (hfirst : first < idCount) (hsecond : second < idCount)
    (hid : idOf first = idOf second) : first = second := by
  have hnat := congrArg UInt32.toNat hid
  simp only [idOf, UInt32.toNat_ofNat'] at hnat
  unfold idCount at hfirst hsecond
  omega

theorem exists_idOf (id : StreamId) : ∃ index < idCount, idOf index = id := by
  refine ⟨(id.toNat + (2 ^ 32 - 1)) % 2 ^ 32, Nat.mod_lt _ (by decide), ?_⟩
  apply UInt32.toNat_inj.mp
  have hlt := id.toNat_lt
  simp only [idOf, UInt32.toNat_ofNat']
  omega

/-- The stream a frame belongs to. -/
def streamOf : Frame → Option StreamId
  | .streamOpen id _ | .streamData id _ | .streamClose id _ => some id
  | _ => none

/-- The frames of one stream. -/
def framesOf (id : StreamId) (frames : List Frame) : List Frame :=
  frames.filter fun frame ↦ streamOf frame = some id

@[simp] theorem framesOf_append (id : StreamId) (first second : List Frame) :
    framesOf id (first ++ second) = framesOf id first ++ framesOf id second :=
  List.filter_append ..

theorem framesOf_cons_self {id : StreamId} {frame : Frame} (hframe : streamOf frame = some id)
    (rest : List Frame) : framesOf id (frame :: rest) = frame :: framesOf id rest :=
  List.filter_cons_of_pos (by simpa using hframe)

theorem framesOf_cons_other {id : StreamId} {frame : Frame} (hframe : streamOf frame ≠ some id)
    (rest : List Frame) : framesOf id (frame :: rest) = framesOf id rest :=
  List.filter_cons_of_neg (by simpa using hframe)

@[simp] theorem framesOf_nil (id : StreamId) : framesOf id [] = [] := rfl

/-! ### Streams of a session by id -/

section Remotes

variable {remotes : List RemoteStream} {index : ℕ} {stream : RemoteStream}
  {change : RemoteStream → RemoteStream}

/-- The stream with an id. -/
def streamWith (id : StreamId) (remotes : List RemoteStream) : Option RemoteStream :=
  remotes.find? fun stream ↦ stream.id = id

theorem streamWith_eq_none {id : StreamId} :
    streamWith id remotes = none ↔ id ∉ remotes.map RemoteStream.id := by
  simp [streamWith]

theorem streamWith_id {id : StreamId} (hstream : streamWith id remotes = some stream) :
    stream.id = id := by
  simpa using List.find?_some hstream

/-- Ids of streams stay, so a change to one is seen under its id only. -/
theorem streamWith_modify (hunique : (remotes.map RemoteStream.id).Nodup)
    (hstream : remotes[index]? = some stream) (hchange : (change stream).id = stream.id)
    (id : StreamId) :
    streamWith id (remotes.modify index change) =
      if stream.id = id then some (change stream) else streamWith id remotes := by
  unfold streamWith
  induction remotes generalizing index with
  | nil => exact absurd hstream nofun
  | cons head rest ih =>
    obtain ⟨hhead, hrest⟩ := List.nodup_cons.mp hunique
    cases index with
    | zero =>
      obtain rfl := Option.some.inj hstream
      rw [List.modify_zero_cons, List.find?_cons, List.find?_cons, hchange]
      by_cases hid : head.id = id <;> simp [hid]
    | succ index =>
      have hmem : stream.id ∈ rest.map RemoteStream.id :=
        List.mem_map_of_mem (List.mem_of_getElem? hstream)
      rw [List.modify_succ_cons, List.find?_cons, List.find?_cons, ih hrest hstream]
      by_cases hid : head.id = id
      · have hne : stream.id ≠ id := fun h ↦ hhead ((hid.trans h.symm) ▸ hmem)
        simp [hid, hne]
      · simp [hid]

theorem streamWith_getElem? (hunique : (remotes.map RemoteStream.id).Nodup)
    (hstream : remotes[index]? = some stream) : streamWith stream.id remotes = some stream := by
  have hsame := @streamWith_modify _ _ _ id hunique hstream rfl stream.id
  simpa using hsame

theorem set_eq_modify (remotes : List RemoteStream) (index : ℕ) (next : RemoteStream) :
    remotes.set index next = remotes.modify index fun _ ↦ next := by
  refine List.ext_getElem? fun place ↦ ?_
  rw [List.getElem?_set', List.getElem?_modify]
  by_cases hplace : index = place
  · simp only [hplace, if_true]
    rfl
  · simp [hplace]

theorem map_id_modify (hchange : ∀ stream, (change stream).id = stream.id) :
    (remotes.modify index change).map RemoteStream.id = remotes.map RemoteStream.id := by
  refine List.ext_getElem? fun place ↦ ?_
  rw [List.getElem?_map, List.getElem?_map, List.getElem?_modify]
  split_ifs <;> simp [Option.map_map, Function.comp_def, hchange]

theorem map_id_set (hstream : remotes[index]? = some stream) {next : RemoteStream}
    (hid : next.id = stream.id) :
    (remotes.set index next).map RemoteStream.id = remotes.map RemoteStream.id := by
  rw [List.map_set, hid]
  obtain ⟨hindex, rfl⟩ := List.getElem?_eq_some_iff.mp hstream
  have hmapped : index < (remotes.map RemoteStream.id).length := by simpa using hindex
  have hsame := List.set_getElem_self hmapped
  simpa using hsame

end Remotes

/-! ### The stream of a place -/

/-- The connection of a place. -/
def connAt (client : ProxyClient) (index : ℕ) : LocalConn :=
  client.conns[index]?.getD (.start (idOf index))

/-- What the reader loop holds for the handler of a place. -/
def heldFor (reader : ReaderPhase) (index : ℕ) : Option ToLocal :=
  match reader with
  | .handing place msg => if place = index then some msg else none
  | _ => none

namespace ProxyLink

/-- The stream of a place. -/
def view (link : ProxyLink) (index : ℕ) : StreamView where
  conn := connAt link.client index
  registered := (link.client.streams.lookup (idOf index)).isSome
  up := framesOf (idOf index) (link.client.wire ++ link.client.out.items)
  inTable := (link.session.streams.lookup (idOf index)).isSome
  remote := streamWith (idOf index) link.session.remotes
  down := framesOf (idOf index) (link.session.wire ++ link.session.outbox.items)
  held := heldFor link.client.reader index

/-- The session's queue has room. -/
def room (link : ProxyLink) : Bool :=
  link.session.outbox.items.length < sessionCapacity

/-- What a step of a link is for the stream of a place. -/
def label (link : ProxyLink) (index : ℕ) : LinkAction → Option StreamLabel
  | .client (.conn place action) => if place = index then some (.conn action) else none
  | .client .hand => if link.client.reader.target = some index then some .hand else none
  | .remote place action =>
    match link.session.remotes[place]? with
    | some stream => if stream.id = idOf index then some (.remote action) else none
    | none => none
  | .toServer _ =>
    match link.client.wire with
    | frame :: _ => if streamOf frame = some (idOf index) then some (.arrive link.room) else none
    | [] => none
  | .toClient =>
    match link.session.wire with
    | frame :: _ => if streamOf frame = some (idOf index) then some .demux else none
    | [] => none
  | _ => none

/-- Ids, tables and tasks of a link belong together. -/
structure Numbered (link : ProxyLink) : Prop where
  count : link.client.conns.length ≤ idCount
  nextId : link.client.nextId = idOf link.client.conns.length
  conns : ∀ index, (connAt link.client index).id = idOf index
  clientTable : ∀ id index, link.client.streams.lookup id = some index →
    index < link.client.conns.length ∧ idOf index = id
  sessionTable : ∀ id index, link.session.streams.lookup id = some index →
    ∃ stream, link.session.remotes[index]? = some stream ∧ stream.id = id
  remotes : (link.session.remotes.map RemoteStream.id).Nodup
  down : NoOpen (link.session.wire ++ link.session.outbox.items)
  outReceiver : link.client.out.hasReceiver = true
  outboxReceiver : link.session.outbox.hasReceiver = true
  reading : link.session.reading = true

end ProxyLink

/-- A remote stream is that of the place with its id. -/
theorem ProxyLink.Numbered.remote_eq {link : ProxyLink} (hnumbered : link.Numbered) {index : ℕ}
    {stream : RemoteStream} (hstream : stream ∈ link.session.remotes)
    (hid : stream.id = idOf index) : (link.view index).remote = some stream := by
  obtain ⟨place, hplace⟩ := List.getElem?_of_mem hstream
  show streamWith (idOf index) link.session.remotes = some stream
  rw [← hid]
  exact streamWith_getElem? hnumbered.remotes hplace

/-- What a stream sees of a step of the link. -/
def Seen (allow : Bool) (label : Option StreamLabel) (view next : StreamView) : Prop :=
  match label with
  | some label => view.Step allow label next
  | none => next = view

namespace ProxyLink

section Start

variable {peer : PeerConfig} {hello : Hello} {hasTun : Bool}

theorem numbered_start : (start peer hello hasTun).Numbered where
  count := Nat.zero_le _
  nextId := rfl
  conns _ := rfl
  clientTable _ _ h := absurd h nofun
  sessionTable _ _ h := absurd h nofun
  remotes := List.nodup_nil
  down := nofun
  outReceiver := rfl
  outboxReceiver := rfl
  reading := rfl

/-- Nothing has happened to any stream. -/
theorem fresh_start (index : ℕ) : Fresh ((start peer hello hasTun).view index) where
  fresh := rfl
  registered := ⟨nofun, fun ⟨_, _, h⟩ ↦ absurd h nofun⟩
  up := rfl
  inTable := rfl
  remote := rfl
  down := rfl
  held := rfl
  inbox := rfl
  output := rfl
  writeFailed := rfl
  uplink := rfl

end Start

/-! ### Steps of the client -/

section ClientSteps

variable {link : ProxyLink} {client : ProxyClient} {conn next : LocalConn} {place index : ℕ}
  {effect : LocalEffect}

theorem connAt_eq (hconn : client.conns[index]? = some conn) : connAt client index = conn := by
  rw [connAt, hconn, Option.getD_some]

theorem connAt_put (hconn : client.conns[place]? = some conn) (next : LocalConn) (index : ℕ) :
    connAt (client.put place next) index = if place = index then next else connAt client index := by
  unfold connAt ProxyClient.put
  rw [getElem?_set_of_eq_some hconn]
  split_ifs <;> rfl

/-- Numbering is about the connections and the table of a client. -/
theorem Numbered.with_client (hnumbered : link.Numbered)
    (hlength : client.conns.length = link.client.conns.length)
    (hnextId : client.nextId = link.client.nextId)
    (hconns : ∀ index, (connAt client index).id = (connAt link.client index).id)
    (htable : ∀ id index, client.streams.lookup id = some index →
      index < link.client.conns.length ∧ idOf index = id)
    (hout : client.out.hasReceiver = link.client.out.hasReceiver) :
    Numbered { link with client } where
  count := hlength.trans_le hnumbered.count
  nextId := by rw [hlength, hnextId]; exact hnumbered.nextId
  conns index := (hconns index).trans (hnumbered.conns index)
  clientTable id index h := by rw [hlength]; exact htable id index h
  sessionTable := hnumbered.sessionTable
  remotes := hnumbered.remotes
  down := hnumbered.down
  outReceiver := hout.trans hnumbered.outReceiver
  outboxReceiver := hnumbered.outboxReceiver
  reading := hnumbered.reading

/-- What a connection does to the rest of the client concerns its own stream. -/
def Own (conn next : LocalConn) : LocalEffect → Prop
  | .none => True
  | .register => ∃ buf, conn.phase = .parsing buf
  | .unregister => next.dropSender = next
  | .emit frame => streamOf frame = some conn.id

theorem own_of_stepped {action : LocalAction} (hstep : conn.Stepped action next effect) :
    next.id = conn.id ∧ Own conn next effect := by
  cases hstep with
  | read count buf hphase =>
    cases headStep buf (conn.inbound.take count) with
    | more rest => exact ⟨rfl, trivial⟩
    | done target isConnect forward => exact ⟨rfl, buf, hphase⟩
    | failed error => exact ⟨rfl, trivial⟩
  | openStream target forward =>
    obtain ⟨-, -, -, -, hid, -⟩ := opened_spec conn forward
    exact ⟨hid, rfl⟩
  | takeClose | endOfInput | deliverFailed | forwardHead | upSend | upClose => exact ⟨rfl, rfl⟩
  | _ => exact ⟨rfl, trivial⟩

/-- A connection that enters or leaves the table drops no sender but its own. -/
theorem dropEntry_put (hnumbered : link.Numbered)
    (hconn : link.client.conns[place]? = some conn)
    (hsender : link.client.streams.lookup conn.id = none ∨ next.dropSender = next) :
    (link.client.put place next).dropEntry conn.id = (link.client.put place next).conns := by
  refine List.ext_getElem? fun index ↦ ?_
  rw [ProxyClient.getElem?_dropEntry]
  split_ifs with hlookup
  · obtain hnone | hdropped := hsender
    · exact absurd (hnone.symm.trans hlookup) nofun
    · obtain ⟨hindex, hid⟩ := hnumbered.clientTable _ _ hlookup
      obtain ⟨hplace, -⟩ := List.getElem?_eq_some_iff.mp hconn
      have hsame : idOf place = conn.id := by
        rw [← hnumbered.conns place, connAt_eq hconn]
      obtain rfl := idOf_inj (hindex.trans_le hnumbered.count) (hplace.trans_le hnumbered.count)
        (hid.trans hsame.symm)
      have hput : (link.client.put index next).conns[index]? = some next := by
        rw [ProxyClient.put, List.getElem?_set_self hplace]
      rw [hput, Option.map_some, hdropped]
  · rfl

/-- A step of a connection is a step of its stream only. -/
theorem project_conn (hnumbered : link.Numbered) (hconn : link.client.conns[place]? = some conn)
    {action : LocalAction} (hstep : conn.Stepped action next effect)
    (hregister : effect = .register → link.client.streams.lookup conn.id = none)
    (happly : (link.client.put place next).apply conn.id place effect = some client) :
    Numbered { link with client } ∧ ∀ index < idCount,
      ({ link with client } : ProxyLink).view index =
        if place = index then (link.view index).affected next effect else link.view index := by
  obtain ⟨hplace, -⟩ := List.getElem?_eq_some_iff.mp hconn
  have hid : conn.id = idOf place := by rw [← hnumbered.conns place, connAt_eq hconn]
  have hconnAt := connAt_put hconn next
  obtain ⟨hnext, hspec⟩ := own_of_stepped hstep
  have hother : ∀ index < idCount, place ≠ index → idOf index ≠ conn.id := fun index hindex hne h ↦
    hne (idOf_inj (hplace.trans_le hnumbered.count) hindex (hid.symm.trans h.symm))
  have hlength : (link.client.put place next).conns.length = link.client.conns.length :=
    List.length_set
  have hconns : ∀ index, (connAt (link.client.put place next) index).id =
      (connAt link.client index).id := by
    intro index
    rw [hconnAt]
    split_ifs with hsame
    · rw [hnext, hid, hsame, hnumbered.conns]
    · rfl
  cases effect with
  | none =>
    obtain rfl := Option.some.inj happly
    refine ⟨hnumbered.with_client hlength rfl hconns hnumbered.clientTable rfl, fun index _ ↦ ?_⟩
    split_ifs with hsame
    · exact StreamView.ext ((hconnAt index).trans (if_pos hsame)) rfl rfl rfl rfl rfl rfl
    · exact StreamView.ext ((hconnAt index).trans (if_neg hsame)) rfl rfl rfl rfl rfl rfl
  | register =>
    obtain rfl := Option.some.inj happly
    rw [dropEntry_put hnumbered hconn (.inl (hregister rfl))]
    refine ⟨hnumbered.with_client hlength rfl hconns (fun id index hlookup ↦ ?_) rfl,
      fun index hindex ↦ ?_⟩
    · by_cases hown : id = conn.id
      · subst hown
        rw [AList.lookup_insert] at hlookup
        obtain rfl := Option.some.inj hlookup
        exact ⟨hplace, hid.symm⟩
      · rw [AList.lookup_insert_ne hown] at hlookup
        exact hnumbered.clientTable id index hlookup
    · split_ifs with hsame
      · subst hsame
        refine StreamView.ext ((hconnAt place).trans (if_pos rfl)) ?_ rfl rfl rfl rfl rfl
        show ((link.client.streams.insert conn.id place).lookup (idOf place)).isSome = true
        rw [← hid, AList.lookup_insert, Option.isSome_some]
      · refine StreamView.ext ((hconnAt index).trans (if_neg hsame)) ?_ rfl rfl rfl rfl rfl
        show ((link.client.streams.insert conn.id place).lookup (idOf index)).isSome = _
        rw [AList.lookup_insert_ne (hother index hindex hsame)]
        rfl
  | unregister =>
    obtain rfl := Option.some.inj happly
    rw [dropEntry_put hnumbered hconn (.inr hspec)]
    refine ⟨hnumbered.with_client hlength rfl hconns (fun id index hlookup ↦ ?_) rfl,
      fun index hindex ↦ ?_⟩
    · by_cases hown : id = conn.id
      · subst hown
        rw [AList.lookup_erase] at hlookup
        exact absurd hlookup nofun
      · rw [AList.lookup_erase_ne hown] at hlookup
        exact hnumbered.clientTable id index hlookup
    · split_ifs with hsame
      · subst hsame
        refine StreamView.ext ((hconnAt place).trans (if_pos rfl)) ?_ rfl rfl rfl rfl rfl
        show ((link.client.streams.erase conn.id).lookup (idOf place)).isSome = false
        rw [← hid, AList.lookup_erase, Option.isSome_none]
      · refine StreamView.ext ((hconnAt index).trans (if_neg hsame)) ?_ rfl rfl rfl rfl rfl
        show ((link.client.streams.erase conn.id).lookup (idOf index)).isSome = _
        rw [AList.lookup_erase_ne (hother index hindex hsame)]
        rfl
  | emit frame =>
    obtain ⟨out, hsend, rfl⟩ := Option.map_eq_some_iff.mp happly
    obtain ⟨-, -, hitems, -, hreceiver⟩ := Channel.trySend_eq_some hsend
    have hup : link.client.wire ++ out.items =
        link.client.wire ++ link.client.out.items ++ [frame] := by
      rw [hitems, List.append_assoc]
      rfl
    refine ⟨hnumbered.with_client hlength rfl hconns hnumbered.clientTable hreceiver,
      fun index hindex ↦ ?_⟩
    split_ifs with hsame
    · subst hsame
      refine StreamView.ext ((hconnAt place).trans (if_pos rfl)) rfl ?_ rfl rfl rfl rfl
      show framesOf (idOf place) (link.client.wire ++ out.items) = _
      rw [hup, framesOf_append, framesOf_cons_self (hspec.trans (congrArg some hid)), framesOf_nil]
      rfl
    · refine StreamView.ext ((hconnAt index).trans (if_neg hsame)) rfl ?_ rfl rfl rfl rfl
      show framesOf (idOf index) (link.client.wire ++ out.items) = _
      have hne : streamOf frame ≠ some (idOf index) := fun h ↦
        hother index hindex hsame (Option.some.inj (h.symm.trans hspec))
      rw [hup, framesOf_append, framesOf_cons_other hne, framesOf_nil, List.append_nil]
      rfl

/-- A connection that is accepted was there as one that has just started. -/
theorem project_accept (hnumbered : link.Numbered)
    (hcount : link.client.conns.length < idCount) (hstep : link.client.step .accept = some client) :
    Numbered { link with client } ∧
      ∀ index, ({ link with client } : ProxyLink).view index = link.view index := by
  obtain rfl := Option.some.inj hstep
  have hconnAt : ∀ index, connAt { link.client with
      conns := link.client.conns ++ [.start link.client.nextId]
      nextId := link.client.nextId + 1 } index = connAt link.client index := by
    intro index
    unfold connAt
    rw [List.getElem?_append]
    split_ifs with hindex
    · rfl
    · rw [List.getElem?_eq_none (Nat.le_of_not_lt hindex), Option.getD_none]
      cases hplace : index - link.client.conns.length with
      | zero =>
        obtain rfl : index = link.client.conns.length := by omega
        rw [hnumbered.nextId]
        rfl
      | succ more => rfl
  have hlength : (link.client.conns ++ [LocalConn.start link.client.nextId]).length =
      link.client.conns.length + 1 := by
    rw [List.length_append, List.length_singleton]
  refine ⟨?_, fun index ↦ StreamView.ext (hconnAt index) rfl rfl rfl rfl rfl rfl⟩
  constructor
  · exact hlength.trans_le hcount
  · show link.client.nextId + 1 = idOf _
    rw [hlength, hnumbered.nextId]
    exact (UInt32.ofNat_add ..).symm
  · exact fun index ↦ (congrArg LocalConn.id (hconnAt index)).trans (hnumbered.conns index)
  · intro id index hlookup
    obtain ⟨hindex, hid⟩ := hnumbered.clientTable id index hlookup
    exact ⟨by rw [hlength]; exact Nat.lt_succ_of_lt hindex, hid⟩
  · exact hnumbered.sessionTable
  · exact hnumbered.remotes
  · exact hnumbered.down
  · exact hnumbered.outReceiver
  · exact hnumbered.outboxReceiver
  · exact hnumbered.reading

/-- The writer loop moves a frame to the wire. -/
theorem project_send (hnumbered : link.Numbered) (hstep : link.client.step .send = some client) :
    Numbered { link with client } ∧
      ∀ index, ({ link with client } : ProxyLink).view index = link.view index := by
  obtain ⟨frame, rest, hrecv, rfl⟩ := ProxyClient.step_send hstep
  obtain ⟨hitems, -, hreceiver⟩ := Channel.recv_eq_item hrecv
  refine ⟨hnumbered.with_client rfl rfl (fun _ ↦ rfl) hnumbered.clientTable hreceiver,
    fun index ↦ StreamView.ext rfl rfl ?_ rfl rfl rfl rfl⟩
  show framesOf _ (link.client.wire ++ [frame] ++ rest.items) = framesOf _ _
  rw [hitems, List.append_assoc]
  rfl

/-- A keepalive goes to the wire ahead of the queue. -/
theorem project_keepalive (hnumbered : link.Numbered)
    (hstep : link.client.step .keepalive = some client) :
    Numbered { link with client } ∧
      ∀ index, ({ link with client } : ProxyLink).view index = link.view index := by
  obtain rfl := Option.some.inj hstep
  refine ⟨hnumbered.with_client rfl rfl (fun _ ↦ rfl) hnumbered.clientTable rfl,
    fun index ↦ StreamView.ext rfl rfl ?_ rfl rfl rfl rfl⟩
  show framesOf _ (link.client.wire ++ [.ping] ++ link.client.out.items) = framesOf _ _
  rw [framesOf_append, framesOf_append, framesOf_cons_other (by simp [streamOf]), framesOf_nil,
    List.append_nil]
  exact (framesOf_append ..).symm

/-- A frame of no stream is put into the queue, while the reader loop holds no message. -/
theorem project_out (hnumbered : link.Numbered) {frame : Frame} (hframe : streamOf frame = none)
    {out : Channel Frame outCapacity} (hsend : link.client.out.trySend frame = some out)
    {reader : ReaderPhase} (hreader : ∀ index, heldFor reader index =
      heldFor link.client.reader index) :
    Numbered { link with client := { link.client with out, reader } } ∧
      ∀ index, ({ link with client := { link.client with out, reader } } : ProxyLink).view index =
        link.view index := by
  obtain ⟨-, -, hitems, -, hreceiver⟩ := Channel.trySend_eq_some hsend
  refine ⟨hnumbered.with_client rfl rfl (fun _ ↦ rfl) hnumbered.clientTable hreceiver,
    fun index ↦ StreamView.ext rfl rfl ?_ rfl rfl rfl (hreader index)⟩
  show framesOf _ (link.client.wire ++ out.items) = framesOf _ _
  rw [hitems, ← List.append_assoc, framesOf_append,
    framesOf_cons_other (fun h ↦ absurd (hframe.symm.trans h) nofun), framesOf_nil, List.append_nil]

/-- The reader loop hands its message over, or drops it. -/
theorem project_hand (hnumbered : link.Numbered) (allow : Bool)
    (hstep : link.client.step .hand = some client) :
    Numbered { link with client } ∧ ∀ index, Seen allow (link.label index (.client .hand))
      (link.view index) (({ link with client } : ProxyLink).view index) := by
  obtain ⟨place, msg, conn, hreader, hconn, hcases⟩ := ProxyClient.step_hand hstep
  have htarget : link.client.reader.target = some place := by rw [hreader]; rfl
  have hheld : (link.view place).held = some msg := by
    show heldFor _ _ = _
    rw [hreader]
    exact if_pos rfl
  have hother : ∀ index, place ≠ index → heldFor link.client.reader index = none := by
    intro index hne
    rw [hreader]
    exact if_neg hne
  have hown := connAt_eq hconn
  obtain ⟨inbox, hsend, rfl⟩ | ⟨hreceiver, rfl⟩ := hcases
  · have hconnAt := connAt_put hconn (conn.received msg inbox)
    obtain ⟨after, hreceived, -⟩ := received_eq conn msg inbox
    refine ⟨hnumbered.with_client List.length_set rfl (fun index ↦ ?_) hnumbered.clientTable rfl,
      fun index ↦ ?_⟩
    · show (connAt (link.client.put place (conn.received msg inbox)) index).id = _
      rw [hconnAt]
      split_ifs with hsame
      · rw [← hsame, hown, hreceived]
      · rfl
    · simp only [label, htarget, Option.some.injEq]
      split_ifs with hsame
      · subst hsame
        have hview : (link.view place).Step allow .hand _ :=
          .hand msg inbox hheld (by rw [view, hown]; exact hsend)
        have hnext : ({ link with client := { link.client.put place (conn.received msg inbox) with
            reader := .idle } } : ProxyLink).view place =
              { link.view place with
                conn := (link.view place).conn.received msg inbox
                held := none }
            := by
          refine StreamView.ext ?_ rfl rfl rfl rfl rfl rfl
          show connAt (link.client.put place (conn.received msg inbox)) place = _
          rw [hconnAt, if_pos rfl, view, hown]
        rw [hnext]
        exact hview
      · exact StreamView.ext ((hconnAt index).trans (if_neg hsame)) rfl rfl rfl rfl rfl
          (hother index hsame).symm
  · refine ⟨hnumbered.with_client rfl rfl (fun _ ↦ rfl) hnumbered.clientTable rfl, fun index ↦ ?_⟩
    simp only [label, htarget, Option.some.injEq]
    split_ifs with hsame
    · subst hsame
      exact .dropped msg hheld (by rw [view, hown]; exact hreceiver)
    · exact StreamView.ext rfl rfl rfl rfl rfl rfl (hother index hsame).symm

/-- Numbering is about the kind of the frames on their way back. -/
theorem Numbered.with_down (hnumbered : link.Numbered) {wire : List Frame}
    {outbox : Channel Frame sessionCapacity} (hdown : NoOpen (wire ++ outbox.items))
    (hreceiver : outbox.hasReceiver = link.session.outbox.hasReceiver) :
    Numbered { link with session := { link.session with wire, outbox } } :=
  ⟨hnumbered.count, hnumbered.nextId, hnumbered.conns, hnumbered.clientTable,
    hnumbered.sessionTable, hnumbered.remotes, hdown, hnumbered.outReceiver,
    hreceiver.trans hnumbered.outboxReceiver, hnumbered.reading⟩

/-- The table of the client after a frame from the server. -/
theorem demux_table (hnumbered : link.Numbered) (frame : Frame) (id : StreamId) (index : ℕ)
    (hlookup : (link.client.demux frame).streams.lookup id = some index) :
    index < link.client.conns.length ∧ idOf index = id := by
  suffices hold : link.client.streams.lookup id = some index from
    hnumbered.clientTable id index hold
  unfold ProxyClient.demux at hlookup
  split at hlookup
  · split at hlookup <;> exact hlookup
  · rename_i other error
    split at hlookup
    · by_cases hid : id = other
      · rw [hid, AList.lookup_erase] at hlookup
        exact absurd hlookup nofun
      · rwa [AList.lookup_erase_ne hid] at hlookup
    · exact hlookup
  · exact hlookup
  · exact hlookup

theorem demux_fixed (client : ProxyClient) (frame : Frame) :
    (client.demux frame).conns = client.conns ∧ (client.demux frame).nextId = client.nextId ∧
      (client.demux frame).out = client.out ∧ (client.demux frame).wire = client.wire := by
  unfold ProxyClient.demux
  split <;> (try split) <;> exact ⟨rfl, rfl, rfl, rfl⟩

end ClientSteps

end ProxyLink

end EntroTunnel.Link
