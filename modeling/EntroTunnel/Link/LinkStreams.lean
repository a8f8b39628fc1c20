import EntroTunnel.Foundation.PartialRun
import EntroTunnel.Link.Projection

/-!
# Every step of a link, stream by stream

The steps of the session and of the frames in flight, cut down to a stream in the way of
`Link/Projection`, and the rule that follows (`projects`): a step of a link keeps it numbered and
is, for each of its streams, the step that `label` names, or none. So what every step of a stream
keeps, every run of a link keeps for all of its streams (`streams_of_run`), as long as no more
connections are accepted than there are ids.
-/

set_option autoImplicit false
set_option relaxedAutoImplicit false

namespace EntroTunnel.Link

open EntroTunnel.Core EntroTunnel.Foundation EntroTunnel.Client EntroTunnel.Server

/-! ### Answers of the session -/

section Answers

variable {channel : Channel Frame sessionCapacity} {frame : Frame} {wire : List Frame}

/-- An answer is queued or dropped; either way the frames of another stream are the same. -/
theorem framesOf_offer {id : StreamId} (hframe : streamOf frame ≠ some id) :
    framesOf id (wire ++ (channel.offer frame).items) = framesOf id (wire ++ channel.items) := by
  rw [Channel.items_offer]
  split_ifs
  · rw [framesOf_append, framesOf_append, framesOf_append, framesOf_cons_other hframe, framesOf_nil,
      List.append_nil]
  · rfl

theorem noOpen_offer (hopen : NoOpen (wire ++ channel.items)) (hframe : isOpen frame = false) :
    NoOpen (wire ++ (channel.offer frame).items) := by
  rw [Channel.items_offer]
  split_ifs
  · intro other hother
    rw [← List.append_assoc, List.mem_append, List.mem_singleton] at hother
    obtain hold | rfl := hother
    · exact hopen other hold
    · exact hframe
  · exact hopen

/-- A frame of no stream is answered at most. -/
theorem handle_other (session : Session) (peers : List PeerInfo) (hframe : streamOf frame = none) :
    ∃ outbox tunOut, session.handle peers frame = { session with outbox, tunOut } ∧
      (outbox = session.outbox ∨ ∃ answer, streamOf answer = none ∧ isOpen answer = false ∧
        outbox = session.outbox.offer answer) := by
  cases frame with
  | packet bytes =>
    rw [Session.handle]
    split_ifs
    · exact ⟨_, _, rfl, .inl rfl⟩
    · exact ⟨_, _, rfl, .inl rfl⟩
  | ping => exact ⟨_, _, rfl, .inr ⟨.pong, rfl, rfl, rfl⟩⟩
  | getPeers => exact ⟨_, _, rfl, .inr ⟨.peerList peers, rfl, rfl, rfl⟩⟩
  | streamOpen id target | streamData id data | streamClose id error => cases hframe
  | _ => exact ⟨_, _, rfl, .inl rfl⟩

end Answers

theorem seen_of_step {allow : Bool} {label : StreamLabel} {view middle next : StreamView}
    (hstep : view.Step allow label middle) (hnext : next = middle) :
    Seen allow (some label) view next :=
  hnext ▸ hstep

/-- The place of a stream id. -/
def placeOf (id : StreamId) : ℕ :=
  (id.toNat + (2 ^ 32 - 1)) % 2 ^ 32

theorem placeOf_idOf {index : ℕ} (hindex : index < idCount) : placeOf (idOf index) = index := by
  unfold idCount at hindex
  simp only [placeOf, idOf, UInt32.toNat_ofNat']
  omega

namespace ProxyLink

/-! ### Steps of the session -/

section SessionSteps

variable {link next : ProxyLink}

/-- Numbering is about the frames, the table and the streams of a session. -/
theorem Numbered.with_session (hnumbered : link.Numbered) {session : Session} (rest : List Frame)
    (htable : ∀ id index, session.streams.lookup id = some index →
      ∃ stream, session.remotes[index]? = some stream ∧ stream.id = id)
    (hremotes : (session.remotes.map RemoteStream.id).Nodup)
    (hdown : NoOpen (session.wire ++ session.outbox.items))
    (hreceiver : session.outbox.hasReceiver = link.session.outbox.hasReceiver)
    (hreading : session.reading = link.session.reading) :
    Numbered ⟨{ link.client with wire := rest }, session⟩ :=
  ⟨hnumbered.count, hnumbered.nextId, hnumbered.conns, hnumbered.clientTable, htable, hremotes,
    hdown, hnumbered.outReceiver, hreceiver.trans hnumbered.outboxReceiver,
    hreading.trans hnumbered.reading⟩

/-- The writer task moves a frame to the wire. -/
theorem project_sessionSend (hnumbered : link.Numbered)
    (hstep : link.step .sessionSend = some next) :
    next.Numbered ∧ ∀ index, next.view index = link.view index := by
  obtain ⟨session, hsession, rfl⟩ := step_sessionSend hstep
  obtain ⟨frame, rest, hrecv, rfl⟩ := Session.step_send hsession
  obtain ⟨hitems, -, hreceiver⟩ := Channel.recv_eq_item hrecv
  have hsame : link.session.wire ++ [frame] ++ rest.items =
      link.session.wire ++ link.session.outbox.items := by
    rw [hitems, List.append_assoc]
    rfl
  refine ⟨hnumbered.with_down (hsame ▸ hnumbered.down) hreceiver, fun index ↦ ?_⟩
  exact StreamView.ext rfl rfl rfl rfl rfl (congrArg (framesOf _) hsame) rfl

/-- The router puts a packet into the queue, or drops it. -/
theorem project_deliver (hnumbered : link.Numbered) {packet : Bytes}
    (hstep : link.step (.deliver packet) = some next) :
    next.Numbered ∧ ∀ index, next.view index = link.view index := by
  obtain rfl := Option.some.inj hstep
  refine ⟨hnumbered.with_down (noOpen_offer hnumbered.down rfl) (Channel.hasReceiver_offer _ _),
    fun index ↦ StreamView.ext rfl rfl rfl rfl rfl ?_ rfl⟩
  exact framesOf_offer (by simp [streamOf])

/-- A step of a remote stream is a step of its own stream only. -/
theorem project_remote (hnumbered : link.Numbered) (allow : Bool) {place : ℕ}
    {action : RemoteAction} (hstep : link.step (.remote place action) = some next) :
    next.Numbered ∧ ∀ index, Seen allow (link.label index (.remote place action))
      (link.view index) (next.view index) := by
  obtain ⟨session, hsession, rfl⟩ := step_linkRemote hstep
  obtain ⟨stream, streamNext, frame, outbox, hstream, hstreamStep, hput, rfl⟩ :=
    Session.step_remote hsession
  rw [hnumbered.outboxReceiver] at hstreamStep
  have hstepped := RemoteStream.stepped_of_step hstreamStep
  have hid := hstepped.frame.1
  obtain ⟨hitems, -, hreceiver⟩ := Channel.put_eq_some hput
  have hdown : link.session.wire ++ outbox.items =
      link.session.wire ++ link.session.outbox.items ++ frame.toList := by
    rw [hitems, List.append_assoc]
  have hframe : ∀ queued ∈ frame.toList, streamOf queued = some stream.id ∧
      isOpen queued = false := by
    obtain rfl | ⟨data, rfl⟩ | ⟨error, rfl⟩ := frame_cases hstepped <;> simp [streamOf, isOpen]
  have hwith : ∀ id, streamWith id (link.session.remotes.set place streamNext) =
      if stream.id = id then some streamNext else streamWith id link.session.remotes := by
    intro id
    rw [set_eq_modify]
    exact streamWith_modify hnumbered.remotes hstream hid id
  refine ⟨hnumbered.with_session link.client.wire (fun id index hlookup ↦ ?_) ?_ ?_ hreceiver rfl,
    fun index ↦ ?_⟩
  · obtain ⟨found, hfound, hfoundId⟩ := hnumbered.sessionTable id index hlookup
    by_cases hplace : place = index
    · subst hplace
      obtain rfl := Option.some.inj (hstream.symm.trans hfound)
      obtain ⟨hlt, -⟩ := List.getElem?_eq_some_iff.mp hstream
      exact ⟨streamNext, List.getElem?_set_self hlt, hid.trans hfoundId⟩
    · exact ⟨found, (List.getElem?_set_ne hplace).trans hfound, hfoundId⟩
  · rw [map_id_set hstream hid]
    exact hnumbered.remotes
  · show NoOpen (link.session.wire ++ outbox.items)
    rw [hdown]
    intro queued hqueued
    obtain hold | hnew := List.mem_append.mp hqueued
    · exact hnumbered.down queued hold
    · exact (hframe queued hnew).2
  · simp only [label, hstream]
    by_cases hown : stream.id = idOf index
    · have hremote : (link.view index).remote = some stream := by
        show streamWith (idOf index) link.session.remotes = some stream
        rw [← hown]
        exact streamWith_getElem? hnumbered.remotes hstream
      have hnext : ({ link with session := { link.session with
          outbox, remotes := link.session.remotes.set place streamNext } } : ProxyLink).view index =
            { link.view index with
              remote := some streamNext
              down := (link.view index).down ++ frame.toList } := by
        refine StreamView.ext rfl rfl rfl rfl ?_ ?_ rfl
        · exact (hwith _).trans (if_pos hown)
        · show framesOf _ (link.session.wire ++ outbox.items) = framesOf _ _ ++ frame.toList
          rw [hdown, framesOf_append _ _ frame.toList]
          congr 1
          refine List.filter_eq_self.mpr fun queued hqueued ↦ ?_
          rw [(hframe queued hqueued).1, hown]
          exact decide_eq_true rfl
      rw [if_pos hown, hnext]
      exact .remote hremote hstepped
    · rw [if_neg hown]
      refine StreamView.ext rfl rfl rfl rfl ((hwith _).trans (if_neg hown)) ?_ rfl
      show framesOf _ (link.session.wire ++ outbox.items) = framesOf _ _
      rw [hdown, framesOf_append _ _ frame.toList]
      refine (congrArg _ (List.filter_eq_nil_iff.mpr fun queued hqueued ↦ ?_)).trans
        (List.append_nil _)
      rw [(hframe queued hqueued).1]
      simpa using hown

end SessionSteps

/-! ### Frames on their way to the server -/

section ToServer

variable {link next : ProxyLink}

/-- A change of the stream in the table under an id is seen under that id only. -/
theorem streamWith_modifyStream (hnumbered : link.Numbered) {change : RemoteStream → RemoteStream}
    (hchange : ∀ stream, (change stream).id = stream.id) (id other : StreamId) :
    streamWith other (link.session.modifyStream id change) =
      if id = other ∧ (link.session.streams.lookup id).isSome = true then
        (streamWith other link.session.remotes).map change
      else streamWith other link.session.remotes := by
  unfold Session.modifyStream
  cases hlookup : link.session.streams.lookup id with
  | none => simp
  | some index =>
    obtain ⟨stream, hstream, rfl⟩ := hnumbered.sessionTable id index hlookup
    dsimp only
    rw [streamWith_modify hnumbered.remotes hstream (hchange stream)]
    by_cases hid : stream.id = other
    · subst hid
      simp [streamWith_getElem? hnumbered.remotes hstream]
    · simp [hid]

theorem map_id_modifyStream (session : Session) {change : RemoteStream → RemoteStream}
    (hchange : ∀ stream, (change stream).id = stream.id) (id : StreamId) :
    (session.modifyStream id change).map RemoteStream.id = session.remotes.map RemoteStream.id := by
  unfold Session.modifyStream
  split
  · exact map_id_modify hchange
  · rfl

/-- The table still leads to streams with its ids after a change. -/
theorem getElem?_modifyStream (session : Session) {change : RemoteStream → RemoteStream}
    (hchange : ∀ stream, (change stream).id = stream.id) (id : StreamId) {index : ℕ}
    {stream : RemoteStream} (hstream : session.remotes[index]? = some stream) :
    ∃ found, (session.modifyStream id change)[index]? = some found ∧ found.id = stream.id := by
  have hmapped := congrArg (·[index]?) (map_id_modifyStream session hchange id)
  simp only [List.getElem?_map, hstream, Option.map_some, Option.map_eq_some_iff] at hmapped
  exact hmapped

/-- A `StreamOpen` on its way comes first, and its stream is unknown to the session. -/
theorem unknown_of_open {allow : Bool} {view : StreamView} (hinvariant : StreamInv allow view)
    {id : StreamId} {target : TargetAddr} {rest : List Frame}
    (hup : view.up = .streamOpen id target :: rest) :
    view.inTable = false ∧ view.remote = none := by
  cases hinvariant with
  | fresh h => exact absurd (h.up.symm.trans hup) nofun
  | requested h => exact ⟨h.inTable, h.remote⟩
  | arrived h => cases h.up (.streamOpen id target) (hup ▸ List.mem_cons_self)

/-- The next frame of the wire, for its own stream and for the others. -/
theorem up_own {frame : Frame} {rest : List Frame} (hwire : link.client.wire = frame :: rest)
    {index : ℕ} (hframe : streamOf frame = some (idOf index)) :
    (link.view index).up = frame :: framesOf (idOf index) (rest ++ link.client.out.items) := by
  rw [view, hwire]
  exact framesOf_cons_self hframe _

theorem up_other {frame : Frame} {rest : List Frame} (hwire : link.client.wire = frame :: rest)
    {index : ℕ} (hframe : streamOf frame ≠ some (idOf index)) :
    (link.view index).up = framesOf (idOf index) (rest ++ link.client.out.items) := by
  rw [view, hwire]
  exact framesOf_cons_other hframe _

section Frames

variable {rest : List Frame} {peers : List PeerInfo} {received : List Frame}

/-- The session reads a frame of no stream. -/
theorem project_readOther (hnumbered : link.Numbered) {frame : Frame}
    (hwire : link.client.wire = frame :: rest) (hframe : streamOf frame = none) :
    Numbered ⟨{ link.client with wire := rest },
        { link.session with received }.handle peers frame⟩ ∧
      ∀ index, (⟨{ link.client with wire := rest },
        { link.session with received }.handle peers frame⟩ : ProxyLink).view index =
          link.view index := by
  obtain ⟨outbox, tunOut, hhandle, houtbox⟩ :=
    handle_other { link.session with received } peers hframe
  have hdown : NoOpen (link.session.wire ++ outbox.items) ∧
      outbox.hasReceiver = link.session.outbox.hasReceiver ∧ ∀ id,
        framesOf id (link.session.wire ++ outbox.items) =
          framesOf id (link.session.wire ++ link.session.outbox.items) := by
    obtain rfl | ⟨answer, hanswer, hopen, rfl⟩ := houtbox
    · exact ⟨hnumbered.down, rfl, fun _ ↦ rfl⟩
    · exact ⟨noOpen_offer hnumbered.down hopen, Channel.hasReceiver_offer _ _,
        fun id ↦ framesOf_offer (by simp [hanswer])⟩
  rw [hhandle]
  refine ⟨hnumbered.with_session rest hnumbered.sessionTable hnumbered.remotes hdown.1 hdown.2.1
    rfl, fun index ↦ ?_⟩
  refine StreamView.ext rfl rfl ?_ rfl rfl (hdown.2.2 _) rfl
  exact (up_other hwire (by simp [hframe])).symm

/-- The session opens a stream it has not seen. -/
theorem project_open (hnumbered : link.Numbered) {id : StreamId} {target : TargetAddr}
    (hwire : link.client.wire = .streamOpen id target :: rest)
    (hallow : link.session.peer.allowHttpProxy = true)
    (htable : link.session.streams.lookup id = none)
    (hremote : streamWith id link.session.remotes = none) (room : Bool) :
    Numbered ⟨{ link.client with wire := rest },
        { link.session with received }.handle peers (.streamOpen id target)⟩ ∧
      ∀ index, Seen true (if some id = some (idOf index) then some (.arrive room) else none)
        (link.view index) ((⟨{ link.client with wire := rest },
          { link.session with received }.handle peers (.streamOpen id target)⟩ :
            ProxyLink).view index) := by
  have hkept : link.session.modifyStream id RemoteStream.dropSender = link.session.remotes := by
    rw [Session.modifyStream, htable]
  have hhandle : ({ link.session with received } : Session).handle peers (.streamOpen id target) =
      { link.session with
        received
        streams := link.session.streams.insert id link.session.remotes.length
        remotes := link.session.remotes ++ [.start id target received.length] } := by
    rw [Session.handle, if_pos hallow, Session.openStream]
    congr 1
    exact congrArg (· ++ _) hkept
  rw [hhandle]
  refine ⟨hnumbered.with_session rest (fun other index hlookup ↦ ?_) ?_ hnumbered.down rfl rfl,
    fun index ↦ ?_⟩
  · by_cases hown : other = id
    · subst hown
      rw [AList.lookup_insert] at hlookup
      obtain rfl := Option.some.inj hlookup
      exact ⟨.start other target received.length, by simp, rfl⟩
    · rw [AList.lookup_insert_ne hown] at hlookup
      obtain ⟨stream, hstream, hid⟩ := hnumbered.sessionTable other index hlookup
      exact ⟨stream, getElem?_concat_eq_some.mpr (.inl hstream), hid⟩
  · have hnew := streamWith_eq_none.mp hremote
    rw [List.map_append]
    exact List.nodup_append.mpr ⟨hnumbered.remotes, List.nodup_singleton _, by
      intro old hold added hadded hequal
      rw [List.map_singleton, List.mem_singleton] at hadded
      subst hadded hequal
      exact hnew hold⟩
  · have hfind : ∀ other, streamWith other (link.session.remotes ++
        [.start id target received.length]) =
          if id = other then some (.start id target received.length)
          else streamWith other link.session.remotes := by
      intro other
      unfold streamWith at hremote ⊢
      rw [List.find?_append]
      split_ifs with hother
      · subst hother
        rw [hremote]
        simp [RemoteStream.start]
      · simp [RemoteStream.start, hother]
    by_cases hown : id = idOf index
    · have hconn : (link.view index).conn.id = id := (hnumbered.conns index).trans hown.symm
      have hopened : (link.view index).Step true (.arrive room) _ :=
        .opened target _ received.length (hconn.symm ▸ up_own hwire (congrArg some hown)) rfl
      rw [if_pos (congrArg some hown)]
      refine seen_of_step hopened (StreamView.ext rfl rfl rfl ?_ ?_ rfl rfl)
      · show ((link.session.streams.insert id _).lookup (idOf index)).isSome = true
        rw [← hown, AList.lookup_insert, Option.isSome_some]
      · exact (hfind _).trans ((if_pos hown).trans (by rw [hconn]))
    · rw [if_neg (by simpa using hown)]
      refine StreamView.ext rfl rfl ?_ ?_ ((hfind _).trans (if_neg hown)) rfl rfl
      · exact (up_other hwire (by simpa [streamOf] using hown)).symm
      · show ((link.session.streams.insert id _).lookup (idOf index)).isSome = _
        rw [AList.lookup_insert_ne (Ne.symm hown)]
        rfl

/-- The session refuses a stream. -/
theorem project_refuse (hnumbered : link.Numbered) {id : StreamId} {target : TargetAddr}
    (hwire : link.client.wire = .streamOpen id target :: rest)
    (hallow : link.session.peer.allowHttpProxy = false) :
    Numbered ⟨{ link.client with wire := rest },
        { link.session with received }.handle peers (.streamOpen id target)⟩ ∧
      ∀ index, Seen false (if some id = some (idOf index) then some (.arrive link.room) else none)
        (link.view index) ((⟨{ link.client with wire := rest },
          { link.session with received }.handle peers (.streamOpen id target)⟩ :
            ProxyLink).view index) := by
  have hhandle : ({ link.session with received } : Session).handle peers (.streamOpen id target) =
      { link.session with received, outbox := link.session.outbox.offer (notAllowed id) } := by
    rw [Session.handle, if_neg (by simp [hallow])]
    rfl
  rw [hhandle]
  refine ⟨hnumbered.with_session rest hnumbered.sessionTable hnumbered.remotes
    (noOpen_offer hnumbered.down rfl) (Channel.hasReceiver_offer _ _) rfl, fun index ↦ ?_⟩
  by_cases hown : id = idOf index
  · have hconn : (link.view index).conn.id = id := (hnumbered.conns index).trans hown.symm
    have hrefused : (link.view index).Step false (.arrive link.room) _ :=
      .refused target _ (hconn.symm ▸ up_own hwire (congrArg some hown)) rfl
    rw [if_pos (congrArg some hown)]
    refine seen_of_step hrefused (StreamView.ext rfl rfl rfl rfl rfl ?_ rfl)
    show framesOf _ (link.session.wire ++ (link.session.outbox.offer (notAllowed id)).items) =
      framesOf _ (link.session.wire ++ link.session.outbox.items) ++ _
    have hself : streamOf (notAllowed id) = some (idOf index) := congrArg some hown
    by_cases hroom : link.session.outbox.items.length < sessionCapacity
    · rw [Channel.items_offer, if_pos ⟨hnumbered.outboxReceiver, hroom⟩, room,
        if_pos (decide_eq_true hroom), hconn, ← List.append_assoc, framesOf_append,
        framesOf_cons_self hself, framesOf_nil]
    · rw [Channel.items_offer, if_neg fun h ↦ hroom h.2, room, decide_eq_false hroom]
      exact (List.append_nil _).symm
  · rw [if_neg (by simpa using hown)]
    refine StreamView.ext rfl rfl ?_ rfl rfl ?_ rfl
    · exact (up_other hwire (by simpa [streamOf] using hown)).symm
    · exact framesOf_offer (by simpa [streamOf, notAllowed] using hown)

/-- The session hands data over to a stream, or knows none with the id. -/
theorem project_data (hnumbered : link.Numbered) (allow : Bool) {id : StreamId} {data : Bytes}
    (hwire : link.client.wire = .streamData id data :: rest) (room : Bool) :
    Numbered ⟨{ link.client with wire := rest },
        { link.session with received }.handle peers (.streamData id data)⟩ ∧
      ∀ index, Seen allow (if some id = some (idOf index) then some (.arrive room) else none)
        (link.view index) ((⟨{ link.client with wire := rest },
          { link.session with received }.handle peers (.streamData id data)⟩ :
            ProxyLink).view index) := by
  have hpush : ∀ stream : RemoteStream, (stream.push data).id = stream.id := fun _ ↦ rfl
  have hwith := streamWith_modifyStream hnumbered hpush id
  refine ⟨hnumbered.with_session rest (fun other index hlookup ↦ ?_)
    ((map_id_modifyStream _ hpush id).symm ▸ hnumbered.remotes) hnumbered.down rfl rfl,
    fun index ↦ ?_⟩
  · obtain ⟨stream, hstream, rfl⟩ := hnumbered.sessionTable other index hlookup
    exact getElem?_modifyStream _ hpush id hstream
  · by_cases hown : id = idOf index
    · have hconn : (link.view index).conn.id = id := (hnumbered.conns index).trans hown.symm
      have hdata : (link.view index).Step allow (.arrive room) _ :=
        .data data _ (hconn.symm ▸ up_own hwire (congrArg some hown))
      rw [if_pos (congrArg some hown)]
      refine seen_of_step hdata (StreamView.ext rfl rfl rfl rfl ?_ rfl rfl)
      refine (hwith (idOf index)).trans ?_
      subst hown
      simp only [true_and]
      rfl
    · rw [if_neg (by simpa using hown)]
      refine StreamView.ext rfl rfl ?_ rfl ?_ rfl rfl
      · exact (up_other hwire (by simpa [streamOf] using hown)).symm
      · exact (hwith (idOf index)).trans (if_neg fun h ↦ hown h.1)

/-- The session takes a stream out of its table, or knows none with the id. -/
theorem project_close (hnumbered : link.Numbered) (allow : Bool) {id : StreamId}
    {error : Option String} (hwire : link.client.wire = .streamClose id error :: rest)
    (room : Bool) :
    Numbered ⟨{ link.client with wire := rest },
        { link.session with received }.handle peers (.streamClose id error)⟩ ∧
      ∀ index, Seen allow (if some id = some (idOf index) then some (.arrive room) else none)
        (link.view index) ((⟨{ link.client with wire := rest },
          { link.session with received }.handle peers (.streamClose id error)⟩ :
            ProxyLink).view index) := by
  have hdrop : ∀ stream : RemoteStream, stream.dropSender.id = stream.id := fun _ ↦ rfl
  have hwith := streamWith_modifyStream hnumbered hdrop id
  refine ⟨hnumbered.with_session rest (fun other index hlookup ↦ ?_)
    ((map_id_modifyStream _ hdrop id).symm ▸ hnumbered.remotes) hnumbered.down rfl rfl,
    fun index ↦ ?_⟩
  · by_cases hother : other = id
    · subst hother
      cases (AList.lookup_erase ..).symm.trans hlookup
    · have hold := (AList.lookup_erase_ne hother).symm.trans hlookup
      obtain ⟨stream, hstream, rfl⟩ := hnumbered.sessionTable other index hold
      exact getElem?_modifyStream _ hdrop id hstream
  · by_cases hown : id = idOf index
    · have hconn : (link.view index).conn.id = id := (hnumbered.conns index).trans hown.symm
      have hclosed : (link.view index).Step allow (.arrive room) _ :=
        .closed error _ (hconn.symm ▸ up_own hwire (congrArg some hown))
      rw [if_pos (congrArg some hown)]
      refine seen_of_step hclosed (StreamView.ext rfl rfl rfl ?_ ?_ rfl rfl)
      · show ((link.session.streams.erase id).lookup (idOf index)).isSome = false
        rw [← hown, AList.lookup_erase, Option.isSome_none]
      · refine (hwith (idOf index)).trans ?_
        subst hown
        simp only [true_and]
        rfl
    · rw [if_neg (by simpa using hown)]
      refine StreamView.ext rfl rfl ?_ ?_ ?_ rfl rfl
      · exact (up_other hwire (by simpa [streamOf] using hown)).symm
      · show ((link.session.streams.erase id).lookup (idOf index)).isSome = _
        rw [AList.lookup_erase_ne (Ne.symm hown)]
        rfl
      · exact (hwith (idOf index)).trans (if_neg fun h ↦ hown h.1)

end Frames

/-- The session reads a frame: a step of the stream that the frame belongs to. -/
theorem project_toServer (hnumbered : link.Numbered)
    (hstreams : ∀ index < idCount,
      StreamInv link.session.peer.allowHttpProxy (link.view index)) {peers : List PeerInfo}
    (hstep : link.step (.toServer peers) = some next) :
    next.Numbered ∧ ∀ index, Seen link.session.peer.allowHttpProxy
      (link.label index (.toServer peers)) (link.view index) (next.view index) := by
  obtain ⟨frame, rest, session, hwire, hsession, rfl⟩ := step_toServer hstep
  obtain ⟨-, rfl⟩ := Session.step_receive hsession
  simp only [label, hwire]
  cases frame with
  | streamOpen id target =>
    cases hallow : link.session.peer.allowHttpProxy with
    | true =>
      obtain ⟨index, hindex, hid⟩ := exists_idOf id
      have hup := up_own hwire (congrArg some hid.symm)
      obtain ⟨htable, hremote⟩ := unknown_of_open (hstreams index hindex) hup
      refine project_open hnumbered hwire hallow ?_ ?_ link.room
      · exact hid ▸ Option.not_isSome_iff_eq_none.mp (Bool.eq_false_iff.mp htable)
      · exact hid ▸ hremote
    | false => exact project_refuse hnumbered hwire hallow
  | streamData id data => exact project_data hnumbered _ hwire link.room
  | streamClose id error => exact project_close hnumbered _ hwire link.room
  | _ => exact project_readOther hnumbered hwire rfl

end ToServer

/-! ### Frames on their way to the client -/

section ToClient

variable {link next : ProxyLink}

/-- A message for a connection in the table, told by its place or by its id. -/
theorem Numbered.held_eq (hnumbered : link.Numbered) {place : ℕ}
    (hplace : place < link.client.conns.length)
    (hlookup : link.client.streams.lookup (idOf place) = some place) {index : ℕ}
    (hindex : index < idCount) (msg : ToLocal) :
    (if place = index then some msg else none) =
      if idOf place = idOf index ∧ (link.client.streams.lookup (idOf index)).isSome = true then
        some msg
      else none := by
  by_cases hsame : place = index
  · subst hsame
    simp [hlookup]
  · rw [if_neg hsame, if_neg fun h ↦
      hsame (idOf_inj (hplace.trans_le hnumbered.count) hindex h.1)]

/-- What the reader loop makes of data for a stream. -/
theorem demux_data (hnumbered : link.Numbered) (hreader : link.client.reader = .idle)
    (id : StreamId) (data : Bytes) {index : ℕ} (hindex : index < idCount) :
    (link.client.demux (.streamData id data)).streams = link.client.streams ∧
      heldFor (link.client.demux (.streamData id data)).reader index =
        if id = idOf index ∧ (link.client.streams.lookup (idOf index)).isSome = true then
          some (.data data)
        else none := by
  rw [ProxyClient.demux]
  cases hlookup : link.client.streams.lookup id with
  | none =>
    refine ⟨rfl, ?_⟩
    rw [if_neg fun h ↦ by simp [h.1 ▸ hlookup] at h]
    exact congrArg (heldFor · index) hreader
  | some place =>
    obtain ⟨hplace, rfl⟩ := hnumbered.clientTable id place hlookup
    refine ⟨rfl, ?_⟩
    exact hnumbered.held_eq hplace hlookup hindex _

/-- What the reader loop makes of the close of a stream. -/
theorem demux_close (hnumbered : link.Numbered) (hreader : link.client.reader = .idle)
    (id : StreamId) (error : Option String) {index : ℕ} (hindex : index < idCount) :
    ((link.client.demux (.streamClose id error)).streams.lookup (idOf index)).isSome =
        (if id = idOf index then false else (link.client.streams.lookup (idOf index)).isSome) ∧
      heldFor (link.client.demux (.streamClose id error)).reader index =
        if id = idOf index ∧ (link.client.streams.lookup (idOf index)).isSome = true then
          some .close
        else none := by
  rw [ProxyClient.demux]
  cases hlookup : link.client.streams.lookup id with
  | none =>
    constructor
    · dsimp only
      split_ifs with hid
      · rw [← hid, hlookup]
        rfl
      · rfl
    · rw [if_neg fun h ↦ by simp [h.1 ▸ hlookup] at h]
      exact congrArg (heldFor · index) hreader
  | some place =>
    obtain ⟨hplace, rfl⟩ := hnumbered.clientTable id place hlookup
    constructor
    · dsimp only
      split_ifs with hid
      · rw [hid, AList.lookup_erase]
        rfl
      · rw [AList.lookup_erase_ne (Ne.symm hid)]
    · exact hnumbered.held_eq hplace hlookup hindex _

/-- A frame that no stream is told of leaves table and message alone. -/
theorem demux_other {client : ProxyClient} (hreader : client.reader = .idle) {frame : Frame}
    (hframe : toLocal frame = none) (index : ℕ) :
    (client.demux frame).streams = client.streams ∧
      heldFor (client.demux frame).reader index = none := by
  cases frame with
  | streamData id data | streamClose id error => cases hframe
  | ping => exact ⟨rfl, rfl⟩
  | _ => exact ⟨rfl, congrArg (heldFor · index) hreader⟩

/-- The next frame of the wire, for its own stream and for the others. -/
theorem down_own {frame : Frame} {rest : List Frame} (hwire : link.session.wire = frame :: rest)
    {index : ℕ} (hframe : streamOf frame = some (idOf index)) :
    (link.view index).down =
      frame :: framesOf (idOf index) (rest ++ link.session.outbox.items) := by
  rw [view, hwire]
  exact framesOf_cons_self hframe _

theorem down_other {frame : Frame} {rest : List Frame} (hwire : link.session.wire = frame :: rest)
    {index : ℕ} (hframe : streamOf frame ≠ some (idOf index)) :
    (link.view index).down = framesOf (idOf index) (rest ++ link.session.outbox.items) := by
  rw [view, hwire]
  exact framesOf_cons_other hframe _

/-- The reader loop takes a frame: a step of the stream that the frame belongs to. -/
theorem project_toClient (hnumbered : link.Numbered) (allow : Bool)
    (hstep : link.step .toClient = some next) :
    next.Numbered ∧ ∀ index < idCount, Seen allow (link.label index .toClient)
      (link.view index) (next.view index) := by
  obtain ⟨frame, rest, hwire, hreader, rfl⟩ := step_toClient hstep
  obtain ⟨hconns, hnextId, hout, hclientWire⟩ := demux_fixed link.client frame
  have hopen : isOpen frame = false ∧ NoOpen (rest ++ link.session.outbox.items) := by
    have hall := hnumbered.down
    rw [hwire] at hall
    exact ⟨hall frame List.mem_cons_self, fun other h ↦ hall other (List.mem_cons_of_mem _ h)⟩
  have hheld : ∀ index, (link.view index).held = none := by
    intro index
    show heldFor link.client.reader index = none
    rw [hreader]
    rfl
  have hconnAt : ∀ index, connAt (link.client.demux frame) index = connAt link.client index := by
    intro index
    rw [connAt, hconns]
    rfl
  have hup : ∀ index, framesOf (idOf index)
      ((link.client.demux frame).wire ++ (link.client.demux frame).out.items) =
        (link.view index).up := by
    intro index
    rw [hclientWire, hout]
    rfl
  refine ⟨?_, fun index hindex ↦ ?_⟩
  · have hclient : Numbered { link with client := link.client.demux frame } :=
      hnumbered.with_client (congrArg List.length hconns) hnextId
        (fun index ↦ congrArg LocalConn.id (hconnAt index)) (demux_table hnumbered frame)
        (congrArg Channel.hasReceiver hout)
    exact hclient.with_down hopen.2 rfl
  · simp only [label, hwire]
    have hconn : (link.view index).conn.id = idOf index := hnumbered.conns index
    have hother : toLocal frame = none → streamOf frame = none → Seen allow
        (if streamOf frame = some (idOf index) then some .demux else none) (link.view index)
          (view ⟨link.client.demux frame, { link.session with wire := rest }⟩ index) := by
      intro htold hstream
      obtain ⟨hstreams, hreaderNext⟩ := demux_other hreader htold index
      have hregistered := congrArg (fun table ↦ (AList.lookup (idOf index) table).isSome) hstreams
      rw [if_neg (by simp [hstream])]
      exact StreamView.ext (hconnAt index) hregistered (hup index) rfl rfl
        (down_other hwire (by simp [hstream])).symm (hreaderNext.trans (hheld index).symm)
    cases frame with
    | streamOpen id target => cases hopen.1
    | streamData id data =>
      obtain ⟨hstreams, hreaderNext⟩ := demux_data hnumbered hreader id data hindex
      have hregistered := congrArg (fun table ↦ (AList.lookup (idOf index) table).isSome) hstreams
      by_cases hown : id = idOf index
      · have hdemux : (link.view index).Step allow .demux _ :=
          .demuxData data _ ((down_own hwire (congrArg some hown)).trans (by rw [hconn, hown]))
            (hheld index)
        show Seen allow (if some id = some (idOf index) then some .demux else none) _ _
        rw [if_pos (congrArg some hown)]
        refine seen_of_step hdemux (StreamView.ext (hconnAt index) hregistered (hup index) rfl rfl
          rfl (hreaderNext.trans ?_))
        simp only [hown, true_and]
        rfl
      · rw [if_neg (by simpa [streamOf] using hown)]
        refine StreamView.ext (hconnAt index) hregistered (hup index) rfl rfl ?_
          ((hreaderNext.trans (if_neg fun h ↦ hown h.1)).trans (hheld index).symm)
        exact (down_other hwire (by simpa [streamOf] using hown)).symm
    | streamClose id error =>
      obtain ⟨hregistered, hreaderNext⟩ := demux_close hnumbered hreader id error hindex
      by_cases hown : id = idOf index
      · have hdemux : (link.view index).Step allow .demux _ :=
          .demuxClose error _ ((down_own hwire (congrArg some hown)).trans (by rw [hconn, hown]))
            (hheld index)
        show Seen allow (if some id = some (idOf index) then some .demux else none) _ _
        rw [if_pos (congrArg some hown)]
        refine seen_of_step hdemux (StreamView.ext (hconnAt index)
          (hregistered.trans (if_pos hown)) (hup index) rfl rfl rfl (hreaderNext.trans ?_))
        simp only [hown, true_and]
        rfl
      · rw [if_neg (by simpa [streamOf] using hown)]
        refine StreamView.ext (hconnAt index) (hregistered.trans (if_neg hown)) (hup index) rfl rfl
          ?_ ((hreaderNext.trans (if_neg fun h ↦ hown h.1)).trans (hheld index).symm)
        exact (down_other hwire (by simpa [streamOf] using hown)).symm
    | _ => exact hother rfl rfl

end ToClient

/-! ### Every step -/

section Steps

variable {link next : ProxyLink}

/-- No step of a link changes whose session it is. -/
theorem step_peer {action : LinkAction} (hstep : link.step action = some next) :
    next.session.peer = link.session.peer := by
  cases action with
  | client action =>
    obtain ⟨-, _, -, rfl⟩ := step_client hstep
    rfl
  | sessionSend =>
    obtain ⟨_, hsession, rfl⟩ := step_sessionSend hstep
    exact (Session.step_fixed hsession).1
  | remote index action =>
    obtain ⟨_, hsession, rfl⟩ := step_linkRemote hstep
    exact (Session.step_fixed hsession).1
  | toServer peers =>
    obtain ⟨_, _, _, -, hsession, rfl⟩ := step_toServer hstep
    exact (Session.step_fixed hsession).1
  | toClient =>
    obtain ⟨_, _, -, -, rfl⟩ := step_toClient hstep
    rfl
  | deliver packet =>
    obtain rfl := Option.some.inj hstep
    rfl

/-- A handler that has not parsed its request is not in the table. -/
theorem unregistered_of_parsing {allow : Bool} {view : StreamView}
    (hinvariant : StreamInv allow view) {buf : Bytes} (hphase : view.conn.phase = .parsing buf) :
    view.registered = false := by
  have hfresh : view.conn.fresh = true := by rw [LocalConn.fresh, hphase]
  cases hinvariant with
  | fresh h => exact h.unregistered hphase
  | requested h => cases hfresh.symm.trans h.fresh
  | arrived h => cases hfresh.symm.trans h.fresh

/-- Every step of a link keeps it numbered and is a step of each of its streams, or none. Assumes:
no more connections are accepted than there are ids. -/
theorem projects (hnumbered : link.Numbered)
    (hstreams : ∀ index < idCount,
      StreamInv link.session.peer.allowHttpProxy (link.view index)) {action : LinkAction}
    (hcount : action = .client .accept → link.client.conns.length < idCount)
    (hstep : link.step action = some next) :
    next.Numbered ∧ ∀ index < idCount, Seen link.session.peer.allowHttpProxy
      (link.label index action) (link.view index) (next.view index) := by
  have hsame : (∀ index, link.label index action = none) →
      (next.Numbered ∧ ∀ index, next.view index = link.view index) →
        next.Numbered ∧ ∀ index < idCount, Seen link.session.peer.allowHttpProxy
          (link.label index action) (link.view index) (next.view index) :=
    fun hlabel h ↦ ⟨h.1, fun index _ ↦ by rw [hlabel index]; exact h.2 index⟩
  cases action with
  | client action =>
    obtain ⟨hreceive, client, hclient, rfl⟩ := step_client hstep
    cases action with
    | accept => exact hsame (fun _ ↦ rfl) (project_accept hnumbered (hcount rfl) hclient)
    | send => exact hsame (fun _ ↦ rfl) (project_send hnumbered hclient)
    | keepalive => exact hsame (fun _ ↦ rfl) (project_keepalive hnumbered hclient)
    | getPeers =>
      obtain ⟨out, hsend, rfl⟩ := Option.map_eq_some_iff.mp hclient
      exact hsame (fun _ ↦ rfl) (project_out hnumbered rfl hsend fun _ ↦ rfl)
    | lanPacket bytes =>
      obtain ⟨out, hsend, rfl⟩ := Option.map_eq_some_iff.mp hclient
      exact hsame (fun _ ↦ rfl) (project_out hnumbered rfl hsend fun _ ↦ rfl)
    | pong =>
      obtain ⟨hreader, out, hsend, rfl⟩ := ProxyClient.step_pong hclient
      exact hsame (fun _ ↦ rfl) (project_out hnumbered rfl hsend fun index ↦ by rw [hreader]; rfl)
    | receive frame => exact absurd rfl (hreceive frame)
    | hand =>
      obtain ⟨hnext, hseen⟩ := project_hand hnumbered link.session.peer.allowHttpProxy hclient
      exact ⟨hnext, fun index _ ↦ hseen index⟩
    | conn place action =>
      obtain ⟨conn, connNext, effect, hconn, hstepped, happly⟩ := ProxyClient.step_conn hclient
      have hregister : effect = .register → link.client.streams.lookup conn.id = none := by
        rintro rfl
        obtain ⟨buf, hparsing⟩ := (own_of_stepped hstepped).2
        obtain ⟨hplace, -⟩ := List.getElem?_eq_some_iff.mp hconn
        have hown : (link.view place).conn = conn := connAt_eq hconn
        have hid : conn.id = idOf place := hown ▸ hnumbered.conns place
        rw [hid, ← Option.not_isSome_iff_eq_none]
        refine Bool.eq_false_iff.mp (unregistered_of_parsing
          (hstreams place (hplace.trans_le hnumbered.count)) (hown ▸ hparsing))
      obtain ⟨hnext, hviews⟩ := project_conn hnumbered hconn hstepped hregister happly
      refine ⟨hnext, fun index hindex ↦ ?_⟩
      rw [hviews index hindex]
      simp only [label]
      split_ifs with hplace
      · subst hplace
        have hown : (link.view place).conn = conn := connAt_eq hconn
        exact .conn (hown ▸ hstepped)
      · rfl
  | sessionSend => exact hsame (fun _ ↦ rfl) (project_sessionSend hnumbered hstep)
  | deliver packet => exact hsame (fun _ ↦ rfl) (project_deliver hnumbered hstep)
  | remote place action =>
    obtain ⟨hnext, hseen⟩ := project_remote hnumbered link.session.peer.allowHttpProxy hstep
    exact ⟨hnext, fun index _ ↦ hseen index⟩
  | toServer peers =>
    obtain ⟨hnext, hseen⟩ := project_toServer hnumbered hstreams hstep
    exact ⟨hnext, fun index _ ↦ hseen index⟩
  | toClient => exact project_toClient hnumbered _ hstep

end Steps

/-! ### Runs -/

/-- The reader loop holds a message for a connection there is. -/
def Aimed (link : ProxyLink) : Prop :=
  ∀ index ∈ link.client.reader.target, index < link.client.conns.length

section Aim

variable {link next : ProxyLink}

theorem apply_fixed {client after : ProxyClient} {id : StreamId} {index : ℕ} {effect : LocalEffect}
    (happly : client.apply id index effect = some after) :
    after.reader = client.reader ∧ after.conns.length = client.conns.length := by
  have hdrop : (client.dropEntry id).length = client.conns.length := by
    unfold ProxyClient.dropEntry
    split
    · exact List.length_modify ..
    · rfl
  cases effect with
  | none =>
    obtain rfl := Option.some.inj happly
    exact ⟨rfl, rfl⟩
  | register =>
    obtain rfl := Option.some.inj happly
    exact ⟨rfl, hdrop⟩
  | unregister =>
    obtain rfl := Option.some.inj happly
    exact ⟨rfl, hdrop⟩
  | emit frame =>
    obtain ⟨out, -, rfl⟩ := Option.map_eq_some_iff.mp happly
    exact ⟨rfl, rfl⟩

/-- The reader loop finds connections in the table only. -/
theorem target_demux (hnumbered : link.Numbered) (hreader : link.client.reader = .idle)
    (frame : Frame) {index : ℕ} (htarget : (link.client.demux frame).reader.target = some index) :
    index < link.client.conns.length := by
  unfold ProxyClient.demux at htarget
  split at htarget
  · split at htarget
    · rename_i place hlookup
      obtain rfl := Option.some.inj htarget
      exact (hnumbered.clientTable _ place hlookup).1
    · rw [hreader] at htarget
      cases htarget
  · split at htarget
    · rename_i place hlookup
      obtain rfl := Option.some.inj htarget
      exact (hnumbered.clientTable _ place hlookup).1
    · rw [hreader] at htarget
      cases htarget
  · cases htarget
  · rw [hreader] at htarget
    cases htarget

theorem Aimed.step (haimed : link.Aimed) (hnumbered : link.Numbered) {action : LinkAction}
    (hstep : link.step action = some next) : next.Aimed := by
  cases action with
  | client action =>
    obtain ⟨hreceive, client, hclient, rfl⟩ := step_client hstep
    cases action with
    | accept =>
      obtain rfl := Option.some.inj hclient
      intro index htarget
      have hold := haimed index htarget
      simp only [List.length_append]
      omega
    | conn place action =>
      obtain ⟨conn, connNext, effect, hconn, -, happly⟩ := ProxyClient.step_conn hclient
      obtain ⟨hreader, hlength⟩ := apply_fixed happly
      intro index htarget
      have hold : index ∈ link.client.reader.target :=
        (congrArg ReaderPhase.target hreader) ▸ htarget
      exact (haimed index hold).trans_eq (hlength.trans List.length_set).symm
    | send =>
      obtain ⟨frame, rest, -, rfl⟩ := ProxyClient.step_send hclient
      exact haimed
    | keepalive =>
      obtain rfl := Option.some.inj hclient
      exact haimed
    | getPeers | lanPacket bytes =>
      obtain ⟨out, -, rfl⟩ := Option.map_eq_some_iff.mp hclient
      exact haimed
    | receive frame => exact absurd rfl (hreceive frame)
    | hand =>
      obtain ⟨_, _, _, -, -, ⟨_, -, rfl⟩ | ⟨-, rfl⟩⟩ := ProxyClient.step_hand hclient <;>
        exact nofun
    | pong =>
      obtain ⟨-, out, -, rfl⟩ := ProxyClient.step_pong hclient
      exact nofun
  | sessionSend =>
    obtain ⟨_, -, rfl⟩ := step_sessionSend hstep
    exact haimed
  | remote index action =>
    obtain ⟨_, -, rfl⟩ := step_linkRemote hstep
    exact haimed
  | toServer peers =>
    obtain ⟨_, _, _, -, -, rfl⟩ := step_toServer hstep
    exact haimed
  | toClient =>
    obtain ⟨frame, _, -, hreader, rfl⟩ := step_toClient hstep
    intro index htarget
    exact (target_demux hnumbered hreader frame htarget).trans_eq
      (congrArg List.length (demux_fixed link.client frame).1).symm
  | deliver packet =>
    obtain rfl := Option.some.inj hstep
    exact haimed

end Aim

/-- The place of the stream that a step concerns. -/
def place (link : ProxyLink) : LinkAction → Option ℕ
  | .client (.conn place _) => some place
  | .client .hand => link.client.reader.target
  | .remote place _ => (link.session.remotes[place]?).map fun stream ↦ placeOf stream.id
  | .toServer _ => (link.client.wire.head?.bind streamOf).map placeOf
  | .toClient => (link.session.wire.head?.bind streamOf).map placeOf
  | _ => none

/-- The first frame on a wire concerns its own stream. -/
theorem placeOf_head {index : ℕ} (hindex : index < idCount) {frames rest : List Frame}
    {frame : Frame} (hframes : frames = frame :: rest)
    (hframe : streamOf frame = some (idOf index)) :
    (frames.head?.bind streamOf).map placeOf = some index := by
  rw [hframes, List.head?_cons, Option.bind_some, hframe, Option.map_some, placeOf_idOf hindex]

theorem place_of_label {link : ProxyLink} {index : ℕ} (hindex : index < idCount)
    {action : LinkAction} {found : StreamLabel} (hlabel : link.label index action = some found) :
    link.place action = some index := by
  cases action with
  | client action =>
    cases action with
    | conn place action =>
      rw [label] at hlabel
      split_ifs at hlabel with hplace
      exact congrArg some hplace
    | hand =>
      rw [label] at hlabel
      split_ifs at hlabel with htarget
      exact htarget
    | _ => cases hlabel
  | remote place action =>
    simp only [label] at hlabel
    split at hlabel
    · rename_i stream hstream
      split_ifs at hlabel with hid
      rw [ProxyLink.place, hstream, Option.map_some, hid, placeOf_idOf hindex]
    · cases hlabel
  | toServer peers =>
    simp only [label] at hlabel
    split at hlabel
    · rename_i frame rest hwire
      split_ifs at hlabel with hframe
      exact placeOf_head hindex hwire hframe
    · cases hlabel
  | toClient =>
    simp only [label] at hlabel
    split at hlabel
    · rename_i frame rest hwire
      split_ifs at hlabel with hframe
      exact placeOf_head hindex hwire hframe
    · cases hlabel
  | _ => cases hlabel

section Runs

variable {condition : Bool → StreamView → StreamLabel → Prop}

/-- A condition on the steps of a stream, as one on the steps of a link, which in addition accepts
no more connections than there are ids. -/
def Meets (condition : Bool → StreamView → StreamLabel → Prop) (link : ProxyLink)
    (action : LinkAction) : Prop :=
  (action = .client .accept → link.client.conns.length < idCount) ∧
    ∀ index ∈ link.place action, ∀ label ∈ link.label index action,
      condition link.session.peer.allowHttpProxy (link.view index) label

instance [∀ allow view label, Decidable (condition allow view label)] (link : ProxyLink)
    (action : LinkAction) : Decidable (Meets condition link action) :=
  inferInstanceAs (Decidable (_ ∧ _))

/-- What is known of a link in a run: its peer, and an invariant of its streams. -/
structure Sound (allow : Bool) (Holds : StreamView → Prop) (link : ProxyLink) : Prop where
  peer : link.session.peer.allowHttpProxy = allow
  numbered : link.Numbered
  aimed : link.Aimed
  streams : ∀ index < idCount, StreamInv allow (link.view index) ∧ Holds (link.view index)

/-- What holds of a fresh stream and is kept by every step of a stream that meets a condition, holds
of all streams in every run whose steps meet it. -/
theorem streams_of_run [∀ allow view label, Decidable (condition allow view label)] {allow : Bool}
    {Holds : StreamView → Prop} (hfresh : ∀ view, Fresh view → Holds view)
    (hkept : ∀ view label next, StreamInv allow view → Holds view → condition allow view label →
      view.Step allow label next → Holds next)
    {peer : PeerConfig} {hello : Hello} {hasTun : Bool} (hpeer : peer.allowHttpProxy = allow)
    {actions : List LinkAction} {final : ProxyLink}
    (hrun : run (guarded (Meets condition) ProxyLink.step) (start peer hello hasTun) actions =
      some final) :
    Sound allow Holds final := by
  have hstart : Sound allow Holds (start peer hello hasTun) :=
    ⟨hpeer, numbered_start, nofun, fun index _ ↦
      ⟨.fresh (fresh_start index), hfresh _ (fresh_start index)⟩⟩
  refine guarded_preserves (fun link action next hsound hmeets hstep ↦ ?_) hrun hstart
  obtain ⟨rfl, hnumbered, haimed, hstreams⟩ := hsound
  obtain ⟨hcount, hcondition⟩ := hmeets
  obtain ⟨hnext, hseen⟩ := projects hnumbered (fun index hindex ↦ (hstreams index hindex).1) hcount
    hstep
  refine ⟨congrArg PeerConfig.allowHttpProxy (step_peer hstep), hnext, haimed.step hnumbered hstep,
    fun index hindex ↦ ?_⟩
  obtain ⟨hinvariant, hholds⟩ := hstreams index hindex
  have hown := hseen index hindex
  cases hlabel : link.label index action with
  | none =>
    rw [hlabel] at hown
    exact hown ▸ hstreams index hindex
  | some label =>
    rw [hlabel] at hown
    have hmet := hcondition index (place_of_label hindex hlabel) label hlabel
    exact ⟨hinvariant.step hown, hkept _ _ _ hinvariant hholds hmet hown⟩

end Runs

end ProxyLink

end EntroTunnel.Link
