import EntroTunnel.Foundation.Places
import EntroTunnel.Server.Session

/-!
# Uplink of a proxied stream

What reaches the remote socket of a stream, compared with the `StreamData` payloads that the client
sent for it. The reader loop hands a payload to the queue of the stream without waiting for room, so
that a congested stream drops rather than blocking the other streams of the session. A payload that
meets a full queue is skipped while later ones are still written (`written_not_prefix`). Everything
else holds in every run, whatever the dial and the writer do meanwhile: the bytes written are a
prefix of the payloads that met a queue with room, in the order in which they were sent and none of
them twice (`written_prefix_payloads`).

`Uplink` is the invariant of one stream: as long as the relay task receives, the bytes written, what
is left of the current chunk and the queue together are the accepted payloads.
-/

set_option autoImplicit false
set_option relaxedAutoImplicit false

namespace EntroTunnel.Server

open EntroTunnel.Core EntroTunnel.Foundation

/-- The payloads for a stream id among the frames. -/
def payloads (id : StreamId) (frames : List Frame) : List Bytes :=
  frames.filterMap fun frame ↦ match frame with
    | .streamData other data => if other = id then some data else none
    | _ => none

theorem payloads_append (id : StreamId) (first second : List Frame) :
    payloads id (first ++ second) = payloads id first ++ payloads id second :=
  List.filterMap_append

/-- Frames that are not data of the stream add no payload. -/
theorem payloads_append_of_ne {id : StreamId} {frame : Frame} (frames : List Frame)
    (hframe : ∀ data, frame ≠ .streamData id data) :
    payloads id (frames ++ [frame]) = payloads id frames := by
  have hnone : payloads id [frame] = [] := by
    cases frame with
    | streamData other data =>
      have hother : other ≠ id := fun h ↦ hframe data (h ▸ rfl)
      simp [payloads, hother]
    | _ => rfl
  rw [payloads_append, hnone, List.append_nil]

theorem payloads_append_data (id : StreamId) (data : Bytes) (frames : List Frame) :
    payloads id (frames ++ [.streamData id data]) = payloads id frames ++ [data] := by
  rw [payloads_append]
  simp [payloads]

namespace RemoteStream

/-- The chunks that met a queue with room. -/
def accepted (stream : RemoteStream) : List Bytes :=
  (stream.arrivals.filter fun arrival ↦ arrival.waiting < remoteCapacity).map Arrival.data

/-- What is left of the chunk being written. -/
def pending (stream : RemoteStream) : Bytes :=
  match stream.relay with
  | .writing rest => rest
  | _ => []

/-- The relay task is over, or what it wrote and what it will write are the accepted chunks. -/
def Uplink (stream : RemoteStream) : Prop :=
  (stream.relay = .ended ∧ stream.written <+: stream.accepted.flatten) ∨
    (stream.inbox.hasReceiver = true ∧
      stream.written ++ stream.pending ++ stream.inbox.items.flatten = stream.accepted.flatten)

variable {stream next : RemoteStream}

theorem Uplink.written_prefix_accepted (huplink : stream.Uplink) :
    stream.written <+: stream.accepted.flatten := by
  obtain ⟨-, hwritten⟩ | ⟨-, hwritten⟩ := huplink
  · exact hwritten
  · rw [← hwritten, List.append_assoc]
    exact List.prefix_append _ _

theorem uplink_start (id : StreamId) (target : TargetAddr) (opened : ℕ) :
    (start id target opened).Uplink :=
  .inr ⟨rfl, rfl⟩

/-- A stream whose relay task is over stays as it is. -/
theorem Uplink.of_ended (huplink : stream.Uplink) (hrelay : next.relay = .ended)
    (hwritten : next.written = stream.written) (harrivals : next.arrivals = stream.arrivals) :
    next.Uplink := by
  refine .inl ⟨hrelay, ?_⟩
  rw [hwritten, accepted, harrivals]
  exact huplink.written_prefix_accepted

/-- A step of the relay task that moves bytes along. -/
theorem Uplink.of_moved (huplink : stream.Uplink) (hrelay : stream.relay ≠ .ended)
    (hreceiver : next.inbox.hasReceiver = stream.inbox.hasReceiver)
    (hmoved : next.written ++ next.pending ++ next.inbox.items.flatten =
      stream.written ++ stream.pending ++ stream.inbox.items.flatten)
    (harrivals : next.arrivals = stream.arrivals) : next.Uplink := by
  obtain ⟨hended, -⟩ | ⟨hlive, hwritten⟩ := huplink
  · exact absurd hended hrelay
  · refine .inr ⟨hreceiver.trans hlive, ?_⟩
    rw [hmoved, hwritten, accepted, accepted, harrivals]

/-- A step of the down task or of the remote host. -/
theorem Uplink.of_same (huplink : stream.Uplink) (hrelay : next.relay = stream.relay)
    (hinbox : next.inbox = stream.inbox) (hwritten : next.written = stream.written)
    (harrivals : next.arrivals = stream.arrivals) : next.Uplink := by
  unfold Uplink pending accepted
  rw [hrelay, hinbox, hwritten, harrivals]
  exact huplink

/-- Every step of a stream keeps the invariant of its uplink. -/
theorem uplink_step {listening : Bool} {action : RemoteAction} {frame : Option Frame}
    (huplink : stream.Uplink) (hstep : stream.Stepped listening action next frame) :
    next.Uplink := by
  cases hstep with
  | dialed hrelay | dialFailed error hrelay | written hrelay =>
    exact huplink.of_moved (by simp [hrelay]) rfl (by simp [pending, hrelay]) rfl
  | take data rest hrelay hrecv =>
    obtain ⟨hitems, -, hreceiver⟩ := Channel.recv_eq_item hrecv
    exact huplink.of_moved (by simp [hrelay]) hreceiver (by simp [pending, hrelay, hitems]) rfl
  | write count rest hrelay hcount =>
    refine huplink.of_moved (by simp [hrelay]) rfl ?_ rfl
    simp only [pending, hrelay, List.append_assoc]
    rw [← List.append_assoc (rest.take count), List.take_append_drop]
  | refuse | finish | writeFailed => exact huplink.of_ended rfl rfl rfl
  | _ => exact huplink.of_same rfl rfl rfl rfl

/-- A chunk that meets room is the last of the accepted ones. -/
theorem accepted_push (stream : RemoteStream) (data : Bytes) :
    (stream.push data).accepted =
      stream.accepted ++ if stream.inbox.items.length < remoteCapacity then [data] else [] := by
  rw [accepted, push, List.filter_append, List.map_append]
  split_ifs with hroom <;> simp [accepted, hroom]

/-- Handing a chunk over keeps the invariant of the uplink. -/
theorem uplink_push (huplink : stream.Uplink) (data : Bytes) : (stream.push data).Uplink := by
  obtain ⟨hended, hwritten⟩ | ⟨hlive, hwritten⟩ := huplink
  · refine .inl ⟨hended, hwritten.trans ?_⟩
    rw [accepted_push, List.flatten_append]
    exact List.prefix_append _ _
  · refine .inr ⟨(Channel.hasReceiver_offer _ _).trans hlive, ?_⟩
    rw [accepted_push, List.flatten_append, ← hwritten]
    show stream.written ++ stream.pending ++ (stream.inbox.offer data).items.flatten = _
    rw [Channel.items_offer]
    split_ifs with hroom hshort hshort
    · rw [List.flatten_append, List.append_assoc, List.append_assoc, List.append_assoc]
    · exact absurd hroom.2 hshort
    · exact absurd ⟨hlive, hshort⟩ hroom
    · rw [List.flatten_nil, List.append_nil]

theorem uplink_dropSender (huplink : stream.Uplink) : stream.dropSender.Uplink := huplink

end RemoteStream

namespace Session

variable {session next : Session}

/-- The stream in a place after a change to the stream with an id. -/
theorem getElem?_modifyStream (session : Session) (id : StreamId)
    (change : RemoteStream → RemoteStream) (index : ℕ) :
    (session.modifyStream id change)[index]? =
      if session.streams.lookup id = some index then session.remotes[index]?.map change
      else session.remotes[index]? := by
  unfold modifyStream
  cases hlookup : session.streams.lookup id with
  | none => rfl
  | some place =>
    rw [List.getElem?_modify]
    by_cases hplace : place = index
    · rw [if_pos (congrArg some hplace)]
      simp [hplace]
    · rw [if_neg (fun h ↦ hplace (Option.some.inj h))]
      simp [hplace]

/-- What a session has handed to a stream, against what it has read since it opened the stream:
`streams` is the table and `received` what was read. -/
structure Fed (streams : AList fun _ : StreamId ↦ ℕ) (received : List Frame) (index : ℕ)
    (stream : RemoteStream) : Prop where
  uplink : stream.Uplink
  opened_le : stream.opened ≤ received.length
  opening : (received.take stream.opened).getLast? = some (.streamOpen stream.id stream.target)
  handed : stream.arrivals.map Arrival.data <+: payloads stream.id (received.drop stream.opened)
  all_handed : streams.lookup stream.id = some index →
    stream.arrivals.map Arrival.data = payloads stream.id (received.drop stream.opened)

/-- The invariant of a session's streams: each is fed, and the table points to streams by their
ids. -/
structure StreamsFed (session : Session) : Prop where
  fed : ∀ index stream, session.remotes[index]? = some stream →
    Fed session.streams session.received index stream
  table : ∀ id index, session.streams.lookup id = some index →
    ∃ stream, session.remotes[index]? = some stream ∧ stream.id = id

section Fed

variable {streams streamsNext : AList fun _ : StreamId ↦ ℕ} {received : List Frame} {index : ℕ}
  {stream streamNext : RemoteStream} {frame : Frame}

/-- A change that hands nothing over, while no frame is read. -/
theorem Fed.change (hfed : Fed streams received index stream) (huplink : streamNext.Uplink)
    (hsame : streamNext.id = stream.id ∧ streamNext.target = stream.target ∧
      streamNext.arrivals = stream.arrivals ∧ streamNext.opened = stream.opened)
    (htable : streamsNext.lookup stream.id = some index →
      streams.lookup stream.id = some index) : Fed streamsNext received index streamNext := by
  obtain ⟨hid, htarget, harrivals, hopened⟩ := hsame
  constructor
  · exact huplink
  · exact hopened ▸ hfed.opened_le
  · rw [hopened, hid, htarget]
    exact hfed.opening
  · rw [harrivals, hid, hopened]
    exact hfed.handed
  · rw [harrivals, hid, hopened]
    exact fun h ↦ hfed.all_handed (htable h)

/-- The sender of a stream is dropped. -/
theorem Fed.dropSender (hfed : Fed streams received index stream)
    (htable : streamsNext.lookup stream.id = some index →
      streams.lookup stream.id = some index) :
    Fed streamsNext received index stream.dropSender :=
  hfed.change (RemoteStream.uplink_dropSender hfed.uplink) ⟨rfl, rfl, rfl, rfl⟩ htable

/-- A frame is read that is not data for the stream, or finds the stream no longer in the table. -/
theorem Fed.grow (hfed : Fed streams received index stream)
    (hdata : ∀ data, frame = .streamData stream.id data →
      streamsNext.lookup stream.id ≠ some index)
    (htable : streamsNext.lookup stream.id = some index →
      streams.lookup stream.id = some index) :
    Fed streamsNext (received ++ [frame]) index stream := by
  have hdrop : (received ++ [frame]).drop stream.opened = received.drop stream.opened ++ [frame] :=
    List.drop_append_of_le_length hfed.opened_le
  constructor
  · exact hfed.uplink
  · rw [List.length_append]
    exact Nat.le_add_right_of_le hfed.opened_le
  · rw [List.take_append_of_le_length hfed.opened_le]
    exact hfed.opening
  · rw [hdrop, payloads_append]
    exact hfed.handed.trans (List.prefix_append _ _)
  · intro hlookup
    have hother : ∀ data, frame ≠ .streamData stream.id data :=
      fun data h ↦ hdata data h hlookup
    rw [hdrop, payloads_append_of_ne _ hother]
    exact hfed.all_handed (htable hlookup)

/-- Data is read for a stream in the table. -/
theorem Fed.push (hfed : Fed streams received index stream) (data : Bytes)
    (hlookup : streams.lookup stream.id = some index) :
    Fed streams (received ++ [.streamData stream.id data]) index (stream.push data) := by
  have hhanded : (stream.push data).arrivals.map Arrival.data =
      payloads stream.id ((received ++ [Frame.streamData stream.id data]).drop stream.opened) := by
    rw [List.drop_append_of_le_length hfed.opened_le, payloads_append_data,
      ← hfed.all_handed hlookup]
    exact List.map_append
  constructor
  · exact RemoteStream.uplink_push hfed.uplink data
  · rw [List.length_append]
    exact Nat.le_add_right_of_le hfed.opened_le
  · exact (congrArg _ (List.take_append_of_le_length hfed.opened_le)).trans hfed.opening
  · exact hhanded ▸ List.prefix_rfl
  · exact fun _ ↦ hhanded

/-- A stream that is opened has been handed nothing. -/
theorem fed_start (id : StreamId) (target : TargetAddr) :
    Fed streams (received ++ [.streamOpen id target]) index
      (.start id target (received ++ [Frame.streamOpen id target]).length) := by
  constructor
  · exact RemoteStream.uplink_start id target _
  · exact le_rfl
  · show ((received ++ [Frame.streamOpen id target]).take
      (received ++ [Frame.streamOpen id target]).length).getLast? = _
    rw [List.take_length, List.getLast?_concat]
    rfl
  · exact List.nil_prefix
  · intro _
    show [] = payloads id ((received ++ [Frame.streamOpen id target]).drop
      (received ++ [Frame.streamOpen id target]).length)
    rw [List.drop_length]
    rfl

end Fed

variable {frame : Frame}

theorem length_modifyStream (session : Session) (id : StreamId)
    (change : RemoteStream → RemoteStream) :
    (session.modifyStream id change).length = session.remotes.length := by
  unfold modifyStream
  split
  · exact List.length_modify ..
  · rfl

/-- Dropping a stream reads a frame that is not data. -/
theorem StreamsFed.dropStream (hfed : session.StreamsFed) {id : StreamId}
    (hframe : ∀ other data, frame ≠ .streamData other data) :
    ({ session with received := session.received ++ [frame] }.dropStream id).StreamsFed := by
  constructor
  · intro index stream hstream
    rw [Session.dropStream, getElem?_modifyStream] at hstream
    have htable : ∀ old : RemoteStream, (session.streams.erase id).lookup old.id = some index →
        session.streams.lookup old.id = some index := by
      intro old hlookup
      by_cases hid : old.id = id
      · rw [hid, AList.lookup_erase] at hlookup
        exact absurd hlookup nofun
      · rwa [AList.lookup_erase_ne hid] at hlookup
    have hgrow : ∀ old, session.remotes[index]? = some old →
        Fed (session.streams.erase id) (session.received ++ [frame]) index old :=
      fun old hold ↦ (hfed.fed index old hold).grow (fun data h ↦ absurd h (hframe _ _))
        (htable old)
    split_ifs at hstream
    · obtain ⟨old, hold, rfl⟩ := Option.map_eq_some_iff.mp hstream
      exact (hgrow old hold).dropSender fun h ↦ h
    · exact hgrow stream hstream
  · intro other index hlookup
    rw [Session.dropStream] at hlookup ⊢
    have hother : other ≠ id := by
      rintro rfl
      rw [AList.lookup_erase] at hlookup
      exact absurd hlookup nofun
    rw [AList.lookup_erase_ne hother] at hlookup
    obtain ⟨stream, hstream, hid⟩ := hfed.table other index hlookup
    show ∃ stream, (Session.modifyStream _ id _)[index]? = some stream ∧ _
    rw [getElem?_modifyStream]
    split_ifs
    · exact ⟨stream.dropSender, by rw [hstream]; rfl, hid⟩
    · exact ⟨stream, hstream, hid⟩

/-- Opening a stream reads a frame that is not data, and takes the place of a stream with its id. -/
theorem StreamsFed.openStream (hfed : session.StreamsFed) (id : StreamId) (target : TargetAddr) :
    ({ session with received := session.received ++ [Frame.streamOpen id target] }.openStream id
      target).StreamsFed := by
  have hsplit : ∀ index stream, (session.modifyStream id RemoteStream.dropSender ++
      [.start id target (session.received ++ [Frame.streamOpen id target]).length])[index]? =
        some stream → (index < session.remotes.length ∧
          (session.modifyStream id RemoteStream.dropSender)[index]? = some stream) ∨
        (index = session.remotes.length ∧
          .start id target (session.received ++ [Frame.streamOpen id target]).length = stream) := by
    intro index stream hstream
    obtain hold | ⟨hlast, hsame⟩ := getElem?_concat_eq_some.mp hstream
    · have hindex := (List.getElem?_eq_some_iff.mp hold).1
      rw [length_modifyStream] at hindex
      exact .inl ⟨hindex, hold⟩
    · rw [length_modifyStream] at hlast
      exact .inr ⟨hlast, hsame⟩
  constructor
  · intro index stream hstream
    obtain ⟨hindex, hstream⟩ | ⟨rfl, rfl⟩ := hsplit index stream hstream
    · have htable : ∀ old : RemoteStream,
          (session.streams.insert id session.remotes.length).lookup old.id = some index →
            session.streams.lookup old.id = some index := by
        intro old hlookup
        by_cases hid : old.id = id
        · rw [hid, AList.lookup_insert] at hlookup
          exact absurd (Option.some.inj hlookup) hindex.ne'
        · rwa [AList.lookup_insert_ne hid] at hlookup
      have hgrow : ∀ old, session.remotes[index]? = some old →
          Fed (session.streams.insert id session.remotes.length)
            (session.received ++ [.streamOpen id target]) index old :=
        fun old hold ↦ (hfed.fed index old hold).grow (by simp) (htable old)
      rw [getElem?_modifyStream] at hstream
      split_ifs at hstream
      · obtain ⟨old, hold, rfl⟩ := Option.map_eq_some_iff.mp hstream
        exact (hgrow old hold).dropSender fun h ↦ h
      · exact hgrow stream hstream
    · exact fed_start id target
  · intro other index hlookup
    show ∃ stream, (session.modifyStream id _ ++ [_])[index]? = some stream ∧ _
    by_cases hother : other = id
    · subst hother
      obtain rfl : session.remotes.length = index :=
        Option.some.inj ((AList.lookup_insert _).symm.trans hlookup)
      refine ⟨.start other target (session.received ++ [Frame.streamOpen other target]).length, ?_,
        rfl⟩
      exact getElem?_concat_eq_some.mpr (.inr ⟨(length_modifyStream ..).symm, rfl⟩)
    · obtain ⟨stream, hstream, hid⟩ :=
        hfed.table other index ((AList.lookup_insert_ne hother).symm.trans hlookup)
      have hindex : index < (session.modifyStream id RemoteStream.dropSender).length := by
        rw [length_modifyStream]
        exact (List.getElem?_eq_some_iff.mp hstream).1
      rw [List.getElem?_append_left hindex, getElem?_modifyStream]
      split_ifs
      · exact ⟨stream.dropSender, by rw [hstream]; rfl, hid⟩
      · exact ⟨stream, hstream, hid⟩

/-- Data is handed to the stream in the table. -/
theorem StreamsFed.pushStream (hfed : session.StreamsFed) (id : StreamId) (data : Bytes) :
    ({ session with
      received := session.received ++ [.streamData id data]
      remotes := session.modifyStream id (·.push data) } : Session).StreamsFed := by
  constructor
  · intro index stream hstream
    rw [getElem?_modifyStream] at hstream
    split_ifs at hstream with hlookup
    · obtain ⟨old, hold, rfl⟩ := Option.map_eq_some_iff.mp hstream
      obtain ⟨found, hfound, rfl⟩ := hfed.table id index hlookup
      obtain rfl : found = old := Option.some.inj (hfound.symm.trans hold)
      exact (hfed.fed index found hfound).push data hlookup
    · refine (hfed.fed index stream hstream).grow (fun other hsame ↦ ?_) fun h ↦ h
      exact (Frame.streamData.inj hsame).1 ▸ hlookup
  · intro other index hlookup
    obtain ⟨stream, hstream, hid⟩ := hfed.table other index hlookup
    show ∃ stream, (session.modifyStream id _)[index]? = some stream ∧ _
    rw [getElem?_modifyStream]
    split_ifs
    · exact ⟨stream.push data, by rw [hstream]; rfl, hid⟩
    · exact ⟨stream, hstream, hid⟩

/-- A frame that does not concern the streams. -/
theorem StreamsFed.readOther (hfed : session.StreamsFed)
    (hframe : ∀ id data, frame ≠ .streamData id data)
    (hreceived : next.received = session.received ++ [frame])
    (hstreams : next.streams = session.streams) (hremotes : next.remotes = session.remotes) :
    next.StreamsFed := by
  constructor
  · intro index stream hstream
    rw [hremotes] at hstream
    rw [hstreams, hreceived]
    exact (hfed.fed index stream hstream).grow (fun data h ↦ absurd h (hframe _ _)) fun h ↦ h
  · intro id index hlookup
    rw [hremotes]
    exact hfed.table id index (hstreams ▸ hlookup)

/-- Reading a frame keeps the streams fed. -/
theorem StreamsFed.receive (hfed : session.StreamsFed) (peers : List PeerInfo) (frame : Frame) :
    ({ session with received := session.received ++ [frame] }.handle peers frame).StreamsFed := by
  cases frame with
  | streamData id data => exact hfed.pushStream id data
  | streamClose id error => exact hfed.dropStream (by simp)
  | streamOpen id target =>
    simp only [handle]
    split_ifs
    · exact hfed.openStream id target
    · exact hfed.readOther (by simp) rfl rfl rfl
  | packet bytes =>
    simp only [handle]
    split_ifs <;> exact hfed.readOther (by simp) rfl rfl rfl
  | _ => exact hfed.readOther (by simp) rfl rfl rfl

/-- Every step keeps the streams fed. -/
theorem StreamsFed.step (hfed : session.StreamsFed) {action : SessionAction}
    (hstep : session.step action = some next) : next.StreamsFed := by
  cases action with
  | receive frame peers =>
    obtain ⟨-, rfl⟩ := step_receive hstep
    exact hfed.receive peers frame
  | remote place action =>
    obtain ⟨old, new, _, _, hold, hnew, -, rfl⟩ := step_remote hstep
    have hnew := RemoteStream.stepped_of_step hnew
    constructor
    · intro index stream hstream
      rw [getElem?_set_of_eq_some hold] at hstream
      split_ifs at hstream with hindex
      · subst hindex
        obtain rfl := Option.some.inj hstream
        have hfedOld := hfed.fed place old hold
        exact hfedOld.change (RemoteStream.uplink_step hfedOld.uplink hnew) hnew.frame fun h ↦ h
      · exact hfed.fed index stream hstream
    · intro id index hlookup
      obtain ⟨stream, hstream, hid⟩ := hfed.table id index hlookup
      show ∃ stream, (session.remotes.set place new)[index]? = some stream ∧ _
      rw [getElem?_set_of_eq_some hold]
      split_ifs with hindex
      · subst hindex
        obtain rfl : old = stream := Option.some.inj (hold.symm.trans hstream)
        exact ⟨new, rfl, hnew.frame.1.trans hid⟩
      · exact ⟨stream, hstream, hid⟩
  | shutdown =>
    obtain ⟨-, rfl⟩ := step_shutdown hstep
    constructor
    · intro index stream hstream
      rw [List.getElem?_map] at hstream
      obtain ⟨old, hold, rfl⟩ := Option.map_eq_some_iff.mp hstream
      exact (hfed.fed index old hold).dropSender nofun
    · exact fun id index hlookup ↦ absurd hlookup nofun
  | send =>
    obtain ⟨_, _, -, rfl⟩ := step_send hstep
    exact ⟨hfed.fed, hfed.table⟩
  | delivered =>
    obtain ⟨_, _, -, rfl⟩ := step_delivered hstep
    exact ⟨hfed.fed, hfed.table⟩
  | sendFailed =>
    obtain rfl := step_sendFailed hstep
    exact ⟨hfed.fed, hfed.table⟩
  | disconnect =>
    obtain ⟨-, rfl⟩ := step_disconnect hstep
    exact ⟨hfed.fed, hfed.table⟩

theorem streamsFed_start (peer : PeerConfig) (hello : Hello) (hasTun : Bool) :
    (start peer hello hasTun).StreamsFed :=
  ⟨fun _ _ h ↦ absurd h nofun, fun _ _ h ↦ absurd h nofun⟩

end Session

section Uplink

variable {peer : PeerConfig} {hello : Hello} {hasTun : Bool} {actions : List SessionAction}
  {session : Session} {index : ℕ} {stream : RemoteStream}

/-- The bytes written to a remote socket are a prefix of the payloads that met a queue with room,
in the order in which the client sent them after it opened the stream, none of them twice. Without
an arrival at a full queue they are a prefix of all payloads. -/
theorem written_prefix_payloads
    (hrun : run Session.step (.start peer hello hasTun) actions = some session)
    (hstream : session.remotes[index]? = some stream) :
    (session.received.take stream.opened).getLast? = some (.streamOpen stream.id stream.target) ∧
      stream.arrivals.map Arrival.data <+:
        payloads stream.id (session.received.drop stream.opened) ∧
      stream.written <+: stream.accepted.flatten ∧
      ((∀ arrival ∈ stream.arrivals, arrival.waiting < remoteCapacity) →
        stream.written <+: (payloads stream.id (session.received.drop stream.opened)).flatten) := by
  have hfed : Session.Fed session.streams session.received index stream :=
    (run_preserves (fun _ _ _ hfed hstep ↦ Session.StreamsFed.step hfed hstep) hrun
      (Session.streamsFed_start peer hello hasTun)).fed index stream hstream
  refine ⟨hfed.opening, hfed.handed, hfed.uplink.written_prefix_accepted, fun hroom ↦ ?_⟩
  have hall : stream.accepted = stream.arrivals.map Arrival.data := by
    rw [RemoteStream.accepted,
      List.filter_eq_self.mpr fun arrival h ↦ by simpa using hroom arrival h]
  obtain ⟨more, hmore⟩ := hfed.handed
  refine (hall ▸ hfed.uplink.written_prefix_accepted).trans ?_
  rw [← hmore, List.flatten_append]
  exact List.prefix_append _ _

end Uplink

/-! ### Runs -/

section Example

def proxySession : Session := .start lanPeer (lanHello .httpProxy) false

/-- A stream opened and dialed. -/
def openRun : List SessionAction :=
  [.receive (.streamOpen 1 (.domain "a.test" 80)) [], .remote 0 .dialed]

/-- One chunk is received, taken and written. -/
def chunkRun (byte : UInt8) : List SessionAction :=
  [.receive (.streamData 1 [byte]) [], .remote 0 .take, .remote 0 (.write 1), .remote 0 .written]

/-- 257 chunks arrive while the dial is pending, and one more after the first was written. -/
def congestedRun : List SessionAction :=
  [.receive (.streamOpen 1 (.domain "a.test" 80)) []] ++
    List.replicate 256 (.receive (.streamData 1 [1]) []) ++
    [.receive (.streamData 1 [2]) [], .remote 0 .dialed, .remote 0 .take, .remote 0 (.write 1),
      .remote 0 .written, .receive (.streamData 1 [3]) []] ++
    (List.replicate 256 [.remote 0 .take, .remote 0 (.write 1), .remote 0 .written]).flatten

/-- A chunk that finds room is written. -/
theorem written_prefix_payloads_openRun :
    ∃ session stream,
      run Session.step proxySession (openRun ++ chunkRun 1) = some session ∧
        session.remotes[0]? = some stream ∧ stream.written = [1] ∧
        stream.written <+: (payloads stream.id (session.received.drop stream.opened)).flatten := by
  obtain ⟨session, hrun, hsession⟩ : ∃ session,
      run Session.step proxySession (openRun ++ chunkRun 1) = some session ∧
        session.remotes[0]?.any (fun stream ↦ stream.written = [1] &&
          stream.arrivals.all fun arrival ↦ arrival.waiting < remoteCapacity) = true :=
    Option.any_eq_true _ _ |>.mp (by decide +kernel)
  obtain ⟨stream, hstream, hfacts⟩ := Option.any_eq_true _ _ |>.mp hsession
  simp only [Bool.and_eq_true, decide_eq_true_iff, List.all_eq_true] at hfacts
  exact ⟨session, stream, hrun, hstream, hfacts.1,
    (written_prefix_payloads hrun hstream).2.2.2 hfacts.2⟩

/-- A chunk that finds the queue full is skipped, and later chunks are written. -/
theorem written_not_prefix :
    ¬ ∀ (peer : PeerConfig) (hello : Hello) (hasTun : Bool) (actions : List SessionAction)
      (session : Session) (index : ℕ) (stream : RemoteStream),
      run Session.step (.start peer hello hasTun) actions = some session →
        session.remotes[index]? = some stream →
          stream.written <+:
            (payloads stream.id (session.received.drop stream.opened)).flatten := by
  intro hall
  obtain ⟨session, hrun, hsession⟩ : ∃ session,
      run Session.step proxySession congestedRun = some session ∧
        session.remotes[0]?.any (fun stream ↦ !decide (stream.written <+:
          (payloads stream.id (session.received.drop stream.opened)).flatten)) = true :=
    Option.any_eq_true _ _ |>.mp (by decide +kernel)
  obtain ⟨stream, hstream, hgap⟩ := Option.any_eq_true _ _ |>.mp hsession
  rw [Bool.not_eq_true', decide_eq_false_iff_not] at hgap
  exact hgap (hall _ _ _ _ session 0 stream hrun hstream)

end Example

end EntroTunnel.Server
