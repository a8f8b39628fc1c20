import EntroTunnel.Client.CarrierPipe
import EntroTunnel.Server.StreamUplink

/-!
# What a hop relays

A tunnel that carries the next hop has a carrier at the client and a session at the hop's server.
The session has one stream at most, since the carrier opens one, and what the stream's socket takes
and gives are the bytes of the next hop's tunnel.

`Relaying` is the invariant of the session: its streams are fed, and the bytes of the stream that it
has written or queued are the first of those that came from the socket. With a carrier at the other
end of the tunnel the socket gets what was written to the near end (`relayed_up`), unless a chunk
met a full queue, and the near end reads what came from the socket (`relayed_down`).
-/

set_option autoImplicit false
set_option relaxedAutoImplicit false

namespace EntroTunnel.Link

open EntroTunnel.Core EntroTunnel.Foundation EntroTunnel.Client EntroTunnel.Server

/-! ### Frames of a carrier -/

/-- The first of the frames that a carrier sends. -/
def OfCarrier (frames : List Frame) : Prop :=
  frames = [] ∨ ∃ target, Client.Opened target frames

theorem OfCarrier.initial {first second : List Frame} (hfirst : first <+: second)
    (hcarrier : OfCarrier second) : OfCarrier first := by
  obtain ⟨more, rfl⟩ := hfirst
  obtain hnone | ⟨target, hopened⟩ := hcarrier
  · exact .inl (List.append_eq_nil_iff.mp hnone).1
  · exact hopened.of_append.imp_right fun h ↦ ⟨target, h⟩

/-- A carrier opens its stream before anything else. -/
theorem OfCarrier.eq_nil_of_open {frames : List Frame} {id : StreamId} {target : TargetAddr}
    (hcarrier : OfCarrier (frames ++ [.streamOpen id target])) : frames = [] ∧ id = carrierId := by
  obtain hnone | ⟨other, rest, hframes, hrest⟩ := hcarrier
  · exact absurd hnone (List.append_ne_nil_of_right_ne_nil _ (List.cons_ne_nil _ _))
  · cases frames with
    | nil =>
      obtain ⟨hopen, -⟩ := List.cons.inj hframes
      exact ⟨rfl, (Frame.streamOpen.inj hopen).1⟩
    | cons first frames =>
      have htail : frames ++ [.streamOpen id target] = rest := (List.cons.inj hframes).2
      have hmem : .streamOpen id target ∈ rest :=
        htail ▸ List.mem_append_right _ (List.mem_singleton_self _)
      obtain h | h | ⟨_, h⟩ := hrest _ hmem <;> cases h

theorem OfCarrier.id_of_open {frames : List Frame} {id : StreamId} {target : TargetAddr}
    (hcarrier : OfCarrier frames) (hmem : .streamOpen id target ∈ frames) : id = carrierId := by
  obtain ⟨before, after, rfl⟩ := List.append_of_mem hmem
  rw [← List.singleton_append, ← List.append_assoc] at hcarrier
  exact (hcarrier.initial (List.prefix_append _ _)).eq_nil_of_open.2

/-- The payloads for the stream of a carrier, one after the other. -/
theorem flatten_payloads (frames : List Frame) :
    (Server.payloads carrierId frames).flatten = Client.payloads frames := by
  induction frames with
  | nil => rfl
  | cons frame frames ih =>
    rw [← List.singleton_append, Server.payloads_append, Client.payloads_append,
      List.flatten_append, ih, Client.payloads_singleton]
    congr 1
    cases frame with
    | streamData other data =>
      by_cases hother : other = carrierId
      · simp [Server.payloads, Client.payload, hother]
      · simp [Server.payloads, Client.payload, hother]
    | _ => rfl

theorem carried_prefix_payloads (frames : List Frame) :
    carried frames <+: Client.payloads frames := by
  induction frames with
  | nil => exact List.prefix_rfl
  | cons frame frames ih =>
    rw [carried, ← List.singleton_append, Client.payloads_append, Client.payloads_singleton]
    by_cases hcloses : closes carrierId frame = true
    · rw [if_pos hcloses]
      exact List.nil_prefix
    · rw [if_neg hcloses]
      exact (List.prefix_append_right_inj _).mpr ih

/-! ### The session of a hop -/

/-- What happens at the server of a hop: a step of the session, or a packet of the router for its
queue. -/
inductive HopServerAction
  | session (action : SessionAction)
  | deliver (packet : Bytes)
  deriving DecidableEq, Repr

/-- One step. `wire` keeps what was written, so that it is all that the session has sent. -/
def hopServerStep (session : Session) : HopServerAction → Option Session
  | .session .delivered => none
  | .session action => session.step action
  | .deliver packet => some { session with outbox := session.outbox.offer (.packet packet) }

/-- What the down task has read and not forwarded. -/
def forwarded (stream : RemoteStream) : Bytes :=
  match stream.down with
  | .forwarding data => data
  | _ => []

/-- The bytes of the stream that the session has written or queued are the first of those that came
from the socket; as long as the down task may go on, the others wait behind them. -/
structure Returns (session : Session) (stream : RemoteStream) : Prop where
  part : Client.payloads (session.wire ++ session.outbox.items) <+: stream.sent
  whole : session.outbox.hasReceiver = true → stream.down ≠ .aborted →
    Client.payloads (session.wire ++ session.outbox.items) ++ forwarded stream ++ stream.inbound =
      stream.sent
  dialing : stream.relay = .dialing → stream.down = .absent

/-- The streams of a session that carries the next hop. -/
def Relays (session : Session) : Prop :=
  (session.remotes = [] ∧ Client.payloads (session.wire ++ session.outbox.items) = []) ∨
    ∃ stream, session.remotes = [stream] ∧ Returns session stream

/-- The invariant of a session whose client may be a carrier. -/
structure Relaying (session : Session) : Prop where
  fed : session.StreamsFed
  relays : OfCarrier session.received → Relays session

/-- No chunk met a full queue. -/
def NoDrop (session : Session) : Prop :=
  ∀ stream ∈ session.remotes, ∀ arrival ∈ stream.arrivals, arrival.waiting < remoteCapacity

instance (session : Session) : Decidable (NoDrop session) :=
  inferInstanceAs (Decidable (∀ stream ∈ session.remotes, ∀ arrival ∈ stream.arrivals, _))

/-- What was written to the socket of the next hop. -/
def toNext (session : Session) : Bytes :=
  match session.remotes with
  | stream :: _ => stream.written
  | [] => []

/-- What came from the socket of the next hop. -/
def fromNext (session : Session) : Bytes :=
  match session.remotes with
  | stream :: _ => stream.sent
  | [] => []

section Steps

variable {session next : Session} {stream streamNext : RemoteStream}

/-- The session's queue and the stream stay. -/
theorem Returns.congr (hreturns : Returns session stream)
    (hqueued : next.wire ++ next.outbox.items = session.wire ++ session.outbox.items)
    (hreceiver : next.outbox.hasReceiver = session.outbox.hasReceiver)
    (hsame : streamNext.sent = stream.sent ∧ streamNext.inbound = stream.inbound ∧
      streamNext.down = stream.down ∧ streamNext.relay = stream.relay) :
    Returns next streamNext := by
  obtain ⟨hsent, hinbound, hdown, hrelay⟩ := hsame
  constructor
  · rw [hqueued, hsent]
    exact hreturns.part
  · rw [hqueued, hreceiver, hdown, hsent, hinbound, forwarded, hdown]
    exact hreturns.whole
  · rw [hdown, hrelay]
    exact hreturns.dialing

theorem Relays.congr (hrelays : Relays session)
    (hqueued : next.wire ++ next.outbox.items = session.wire ++ session.outbox.items)
    (hreceiver : next.outbox.hasReceiver = session.outbox.hasReceiver)
    (hremotes : ∃ change : RemoteStream → RemoteStream,
      (∀ stream, (change stream).sent = stream.sent ∧ (change stream).inbound = stream.inbound ∧
        (change stream).down = stream.down ∧ (change stream).relay = stream.relay) ∧
        next.remotes = session.remotes.map change) : Relays next := by
  obtain ⟨change, hchange, hmap⟩ := hremotes
  obtain ⟨hnone, hpayloads⟩ | ⟨stream, hone, hreturns⟩ := hrelays
  · rw [hnone, List.map_nil] at hmap
    exact .inl ⟨hmap, hqueued ▸ hpayloads⟩
  · rw [hone, List.map_singleton] at hmap
    exact .inr ⟨change stream, hmap, hreturns.congr hqueued hreceiver (hchange stream)⟩

/-- The queue, what was written and the streams stay. -/
theorem Relays.same (hrelays : Relays session) (hwire : next.wire = session.wire)
    (houtbox : next.outbox = session.outbox) (hremotes : next.remotes = session.remotes) :
    Relays next := by
  refine hrelays.congr (by rw [hwire, houtbox]) (by rw [houtbox]) ?_
  exact ⟨id, fun _ ↦ ⟨rfl, rfl, rfl, rfl⟩, by rw [hremotes, List.map_id]⟩

/-- A frame that carries nothing for the stream is offered to the queue. -/
theorem payloads_offer (session : Session) {frame : Frame}
    (hframe : Client.payload carrierId frame = []) :
    Client.payloads (session.wire ++ (session.outbox.offer frame).items) =
      Client.payloads (session.wire ++ session.outbox.items) := by
  rw [Channel.items_offer]
  split_ifs
  · rw [← List.append_assoc, Client.payloads_append, Client.payloads_singleton, hframe,
      List.append_nil]
  · rfl

theorem Relays.offer (hrelays : Relays session) {frame : Frame}
    (hframe : Client.payload carrierId frame = []) (hwire : next.wire = session.wire)
    (houtbox : next.outbox = session.outbox.offer frame)
    (hremotes : next.remotes = session.remotes) : Relays next := by
  have hpayloads := payloads_offer session hframe
  obtain ⟨hnone, hqueued⟩ | ⟨stream, hone, hreturns⟩ := hrelays
  · left
    rw [hremotes, hwire, houtbox, hpayloads]
    exact ⟨hnone, hqueued⟩
  · refine .inr ⟨stream, hremotes.trans hone, ?_⟩
    constructor
    · rw [hwire, houtbox, hpayloads]
      exact hreturns.part
    · rw [hwire, houtbox, hpayloads, Channel.hasReceiver_offer]
      exact hreturns.whole
    · exact hreturns.dialing

/-- The receiver of the queue is gone, with what waited. -/
theorem Relays.dropReceiver (hrelays : Relays session) (hwire : next.wire = session.wire)
    (houtbox : next.outbox = session.outbox.dropReceiver)
    (hremotes : ∃ change : RemoteStream → RemoteStream,
      (∀ stream, (change stream).sent = stream.sent ∧ (change stream).down = stream.down ∧
          (change stream).relay = stream.relay) ∧
        next.remotes = session.remotes.map change) : Relays next := by
  have hpart : Client.payloads session.wire <+:
      Client.payloads (session.wire ++ session.outbox.items) := by
    rw [Client.payloads_append]
    exact List.prefix_append _ _
  obtain ⟨change, hchange, hmap⟩ := hremotes
  obtain ⟨hnone, hqueued⟩ | ⟨stream, hone, hreturns⟩ := hrelays
  · rw [hnone, List.map_nil] at hmap
    refine .inl ⟨hmap, ?_⟩
    rw [hwire, houtbox, Channel.items_dropReceiver, List.append_nil]
    exact List.prefix_nil.mp (hqueued ▸ hpart)
  · rw [hone, List.map_singleton] at hmap
    obtain ⟨hsent, hdown, hrelay⟩ := hchange stream
    refine .inr ⟨change stream, hmap, ?_⟩
    constructor
    · rw [hwire, houtbox, Channel.items_dropReceiver, List.append_nil, hsent]
      exact hpart.trans hreturns.part
    · rw [houtbox, Channel.hasReceiver_dropReceiver]
      exact fun h ↦ absurd h Bool.false_ne_true
    · rw [hdown, hrelay]
      exact hreturns.dialing

/-- A frame that closes a stream carries no bytes. -/
theorem payloads_closing (listening : Bool) (id : StreamId) (error : Option String) :
    Client.payloads
      (Option.toList (if listening then some (Frame.streamClose id error) else none)) = [] := by
  cases listening with
  | true => rfl
  | false => rfl

/-- The stream after a step that moves no bytes to or from it. -/
theorem Returns.quiet (hreturns : Returns session stream) {frame : Option Frame}
    (hwire : next.wire = session.wire)
    (hitems : next.outbox.items = session.outbox.items ++ frame.toList)
    (hreceiver : next.outbox.hasReceiver = session.outbox.hasReceiver)
    (hframe : Client.payloads frame.toList = []) (hsent : streamNext.sent = stream.sent)
    (hbytes : streamNext.down ≠ .aborted → session.outbox.hasReceiver = true →
      stream.down ≠ .aborted ∧
        forwarded streamNext ++ streamNext.inbound = forwarded stream ++ stream.inbound)
    (hdialing : streamNext.relay = .dialing → streamNext.down = .absent) :
    Returns next streamNext := by
  have hqueued : Client.payloads (next.wire ++ next.outbox.items) =
      Client.payloads (session.wire ++ session.outbox.items) := by
    rw [hwire, hitems, ← List.append_assoc, Client.payloads_append, hframe, List.append_nil]
  constructor
  · rw [hqueued, hsent]
    exact hreturns.part
  · intro hlistens hlive
    have hlistened : session.outbox.hasReceiver = true := hreceiver ▸ hlistens
    obtain ⟨hbefore, hsame⟩ := hbytes hlive hlistened
    rw [hqueued, List.append_assoc, hsame, hsent, ← List.append_assoc]
    exact hreturns.whole hlistened hbefore
  · exact hdialing

/-- A task that goes on after `abort` was over before. -/
theorem eq_finished_of_abort {phase : DownPhase} (hlive : phase.abort ≠ .aborted) :
    phase = .finished := by
  cases phase with
  | finished => rfl
  | _ => exact absurd rfl hlive

/-- A step of the tasks of the stream or of the next hop. -/
theorem Returns.remote (hreturns : Returns session stream) (hid : stream.id = carrierId)
    {action : RemoteAction} {frame : Option Frame}
    (hstep : stream.Stepped session.outbox.hasReceiver action streamNext frame)
    (hwire : next.wire = session.wire)
    (hitems : next.outbox.items = session.outbox.items ++ frame.toList)
    (hreceiver : next.outbox.hasReceiver = session.outbox.hasReceiver) :
    Returns next streamNext := by
  have hquiet := @Returns.quiet _ _ _ streamNext hreturns frame hwire hitems hreceiver
  have hbusy : stream.down ≠ .absent → stream.relay ≠ .dialing := mt hreturns.dialing
  cases hstep with
  | dialed hrelay =>
    have hdown := hreturns.dialing hrelay
    exact hquiet rfl rfl (fun _ _ ↦ ⟨by simp [hdown], by simp [forwarded, hdown]⟩) (by simp)
  | dialFailed | take | write | written =>
    exact hquiet rfl rfl (fun hlive _ ↦ ⟨hlive, rfl⟩) (by simp)
  | refuse error hrelay =>
    exact hquiet (payloads_closing _ _ _) rfl (fun hlive _ ↦ ⟨hlive, rfl⟩) (by simp)
  | writeFailed | finish =>
    refine hquiet rfl rfl (fun hlive _ ↦ ?_) (by simp [RemoteStream.stop])
    have hdown := eq_finished_of_abort hlive
    exact ⟨by simp [hdown], by simp [forwarded, RemoteStream.stop, hdown, DownPhase.abort]⟩
  | read count hdown hcount hsize hinbound =>
    refine hquiet rfl rfl (fun _ _ ↦ ⟨by simp [hdown], by simp [forwarded, hdown]⟩) ?_
    exact fun h ↦ absurd h (hbusy (by simp [hdown]))
  | readEof hdown | readFailed hdown =>
    refine hquiet rfl rfl (fun _ _ ↦ ⟨by simp [hdown], by simp [forwarded, hdown]⟩) ?_
    exact fun h ↦ absurd h (hbusy (by simp [hdown]))
  | forward data hdown hlistening =>
    have hbefore := hreturns.whole hlistening (by simp [hdown])
    rw [forwarded, hdown] at hbefore
    have hqueued : Client.payloads (next.wire ++ next.outbox.items) =
        Client.payloads (session.wire ++ session.outbox.items) ++ data := by
      rw [hwire, hitems, ← List.append_assoc, Client.payloads_append, Option.toList_some,
        Client.payloads_singleton, Client.payload, if_pos hid]
    constructor
    · rw [hqueued]
      exact ⟨_, hbefore⟩
    · intro _ _
      show Client.payloads (next.wire ++ next.outbox.items) ++ [] ++ stream.inbound = stream.sent
      rw [hqueued, List.append_nil]
      exact hbefore
    · exact fun h ↦ absurd h (hbusy (by simp [hdown]))
  | forwardFailed data hdown hlistening =>
    refine hquiet rfl rfl (fun _ hlistens ↦ ?_) fun h ↦ absurd h (hbusy (by simp [hdown]))
    rw [hlistening] at hlistens
    exact absurd hlistens Bool.false_ne_true
  | close hdown =>
    refine hquiet (payloads_closing _ _ _) rfl
      (fun _ _ ↦ ⟨by simp [hdown], by simp [forwarded, hdown]⟩) ?_
    exact fun h ↦ absurd h (hbusy (by simp [hdown]))
  | remoteSends data hdown heof hreset =>
    have hqueued : Client.payloads (next.wire ++ next.outbox.items) =
        Client.payloads (session.wire ++ session.outbox.items) := by
      rw [hwire, hitems, Option.toList_none, List.append_nil]
    constructor
    · rw [hqueued]
      exact hreturns.part.trans (List.prefix_append _ _)
    · intro hlistens hlive
      show _ ++ forwarded stream ++ (stream.inbound ++ data) = stream.sent ++ data
      rw [hqueued, ← List.append_assoc, hreturns.whole (hreceiver ▸ hlistens) hlive]
    · exact hreturns.dialing
  | remoteCloses | remoteResets =>
    exact hquiet rfl rfl (fun hlive _ ↦ ⟨hlive, rfl⟩) hreturns.dialing

/-- A change to the stream with an id, if there is one. -/
theorem exists_map_modifyStream {session : Session} {stream : RemoteStream}
    (hone : session.remotes = [] ∨ session.remotes = [stream]) (id : StreamId)
    (change : RemoteStream → RemoteStream) :
    session.modifyStream id change = session.remotes ∨
      session.modifyStream id change = session.remotes.map change := by
  unfold Session.modifyStream
  cases session.streams.lookup id with
  | none => exact .inl rfl
  | some index =>
    obtain hone | hone := hone
    · left
      simp [hone]
    · cases index with
      | zero =>
        right
        simp [hone]
      | succ index =>
        left
        simp [hone]

/-- The session's streams after a change to one of them. -/
theorem Relays.modifyStream (hrelays : Relays session) (id : StreamId)
    (change : RemoteStream → RemoteStream)
    (hchange : ∀ stream, (change stream).sent = stream.sent ∧
      (change stream).inbound = stream.inbound ∧ (change stream).down = stream.down ∧
        (change stream).relay = stream.relay)
    (hwire : next.wire = session.wire) (houtbox : next.outbox = session.outbox)
    (hremotes : next.remotes = session.modifyStream id change) : Relays next := by
  have hone : ∃ stream, session.remotes = [] ∨ session.remotes = [stream] := by
    obtain ⟨hnone, -⟩ | ⟨stream, hone, -⟩ := hrelays
    · exact ⟨.start carrierId (.domain "" 0) 0, .inl hnone⟩
    · exact ⟨stream, .inr hone⟩
  obtain ⟨stream, hone⟩ := hone
  refine hrelays.congr (by rw [hwire, houtbox]) (by rw [houtbox]) ?_
  obtain hsame | hmap := exists_map_modifyStream hone id change
  · exact ⟨fun stream ↦ stream, fun _ ↦ ⟨rfl, rfl, rfl, rfl⟩,
      by rw [hremotes, hsame, List.map_id']⟩
  · exact ⟨change, hchange, hremotes.trans hmap⟩

/-- Before a session has read a frame it has no stream. -/
theorem remotes_eq_nil (hfed : session.StreamsFed) (hreceived : session.received = []) :
    session.remotes = [] := by
  by_contra hremotes
  obtain ⟨stream, rest, hstreams⟩ := List.exists_cons_of_ne_nil hremotes
  have hopening := (hfed.fed 0 stream (by rw [hstreams]; rfl)).opening
  rw [hreceived, List.take_nil] at hopening
  cases hopening

/-- A frame is read. -/
theorem Relaying.receive (hrelaying : Relaying session) (peers : List PeerInfo) (frame : Frame) :
    Relaying ({ session with received := session.received ++ [frame] }.handle peers frame) := by
  refine ⟨hrelaying.fed.receive peers frame, fun hcarrier ↦ ?_⟩
  have hreceived := (Session.handle_frame
    { session with received := session.received ++ [frame] } peers frame).2.2.2.1
  rw [hreceived] at hcarrier
  have hrelays := hrelaying.relays (hcarrier.initial (List.prefix_append _ _))
  cases frame with
  | packet bytes =>
    simp only [Session.handle]
    split_ifs
    · exact hrelays.same rfl rfl rfl
    · exact hrelays.same rfl rfl rfl
  | ping => exact hrelays.offer rfl rfl rfl rfl
  | getPeers => exact hrelays.offer rfl rfl rfl rfl
  | streamOpen id target =>
    simp only [Session.handle]
    split_ifs
    · obtain ⟨hnone, -⟩ := hcarrier.eq_nil_of_open
      have hremotes := remotes_eq_nil hrelaying.fed hnone
      obtain ⟨-, hpayloads⟩ | ⟨_, hone, -⟩ := hrelays
      · refine .inr ⟨.start id target (session.received ++ [Frame.streamOpen id target]).length,
          ?_, ?_⟩
        · simp only [Session.openStream, Session.modifyStream, hremotes, List.modify_nil]
          split <;> rfl
        · exact ⟨hpayloads ▸ List.nil_prefix, fun _ _ ↦ by
            show Client.payloads (session.wire ++ session.outbox.items) ++ [] ++ [] = []
            rw [hpayloads]
            rfl, fun _ ↦ rfl⟩
      · rw [hremotes] at hone
        cases hone
    · exact hrelays.offer rfl rfl rfl rfl
  | streamData id data =>
    exact hrelays.modifyStream id (·.push data) (fun _ ↦ ⟨rfl, rfl, rfl, rfl⟩) rfl rfl rfl
  | streamClose id error =>
    exact hrelays.modifyStream id RemoteStream.dropSender (fun _ ↦ ⟨rfl, rfl, rfl, rfl⟩) rfl rfl rfl
  | _ => exact hrelays.same rfl rfl rfl

/-- Every step of the server of a hop keeps its session relaying. -/
theorem Relaying.step (hrelaying : Relaying session) {action : HopServerAction}
    (hstep : hopServerStep session action = some next) : Relaying next := by
  cases action with
  | deliver packet =>
    obtain rfl := Option.some.inj hstep
    refine ⟨⟨hrelaying.fed.fed, hrelaying.fed.table⟩, fun hcarrier ↦ ?_⟩
    exact (hrelaying.relays hcarrier).offer rfl rfl rfl rfl
  | session action =>
    have htaken : session.step action = some next ∧ action ≠ .delivered := by
      cases action with
      | delivered => cases hstep
      | _ => exact ⟨hstep, by simp⟩
    obtain ⟨hsession, hdelivered⟩ := htaken
    have hfed := hrelaying.fed.step hsession
    cases action with
    | receive frame peers =>
      obtain ⟨-, rfl⟩ := Session.step_receive hsession
      exact hrelaying.receive peers frame
    | send =>
      obtain ⟨frame, rest, hrecv, rfl⟩ := Session.step_send hsession
      obtain ⟨hitems, -, hreceiver⟩ := Channel.recv_eq_item hrecv
      refine ⟨hfed, fun hcarrier ↦ ?_⟩
      refine (hrelaying.relays hcarrier).congr ?_ hreceiver
        ⟨id, fun _ ↦ ⟨rfl, rfl, rfl, rfl⟩, (List.map_id _).symm⟩
      show session.wire ++ [frame] ++ rest.items = _
      rw [hitems, List.append_assoc, List.singleton_append]
    | remote index action =>
      obtain ⟨stream, streamNext, frame, outbox, hstream, hremote, hput, rfl⟩ :=
        Session.step_remote hsession
      obtain ⟨hitems, -, hreceiver⟩ := Channel.put_eq_some hput
      refine ⟨hfed, fun hcarrier ↦ ?_⟩
      obtain ⟨hnone, -⟩ | ⟨old, hone, hreturns⟩ := hrelaying.relays hcarrier
      · rw [hnone] at hstream
        cases hstream
      · rw [hone] at hstream
        cases index with
        | succ index => cases hstream
        | zero =>
          obtain rfl : old = stream := Option.some.inj hstream
          have hopening := (hrelaying.fed.fed 0 old (by rw [hone]; rfl)).opening
          have hid := hcarrier.id_of_open
            (List.mem_of_mem_take (List.mem_of_getLast? hopening))
          refine .inr ⟨streamNext, by rw [hone]; rfl, ?_⟩
          exact hreturns.remote hid (RemoteStream.stepped_of_step hremote) rfl hitems hreceiver
    | delivered => exact absurd rfl hdelivered
    | sendFailed =>
      obtain rfl := Session.step_sendFailed hsession
      refine ⟨hfed, fun hcarrier ↦ ?_⟩
      exact (hrelaying.relays hcarrier).dropReceiver rfl rfl
        ⟨id, fun _ ↦ ⟨rfl, rfl, rfl⟩, (List.map_id _).symm⟩
    | disconnect =>
      obtain ⟨-, rfl⟩ := Session.step_disconnect hsession
      exact ⟨hfed, fun hcarrier ↦ (hrelaying.relays hcarrier).same rfl rfl rfl⟩
    | shutdown =>
      obtain ⟨-, rfl⟩ := Session.step_shutdown hsession
      refine ⟨hfed, fun hcarrier ↦ ?_⟩
      exact (hrelaying.relays hcarrier).dropReceiver rfl rfl
        ⟨RemoteStream.dropSender, fun _ ↦ ⟨rfl, rfl, rfl⟩, rfl⟩

theorem relaying_start (peer : PeerConfig) (hello : Hello) (hasTun : Bool) :
    Relaying (.start peer hello hasTun) where
  fed := Session.streamsFed_start peer hello hasTun
  relays _ := .inl ⟨rfl, rfl⟩

/-! ### Chunks that were dropped -/

/-- Every stream is still there, with what was handed to it. -/
def KeepsArrivals (session next : Session) : Prop :=
  ∀ (index : ℕ) (stream : RemoteStream), session.remotes[index]? = some stream →
    ∃ later : RemoteStream, next.remotes[index]? = some later ∧
      stream.arrivals <+: later.arrivals

theorem keepsArrivals_of_remotes (hremotes : next.remotes = session.remotes) :
    KeepsArrivals session next := by
  intro index stream hstream
  exact ⟨stream, hremotes ▸ hstream, List.prefix_rfl⟩

theorem keepsArrivals_modifyStream (session : Session) (id : StreamId)
    (change : RemoteStream → RemoteStream)
    (hchange : ∀ stream, stream.arrivals <+: (change stream).arrivals)
    (hremotes : session.modifyStream id change <+: next.remotes) : KeepsArrivals session next := by
  intro index stream hstream
  have hmodified := Session.getElem?_modifyStream session id change index
  have hlater : ∃ later, (session.modifyStream id change)[index]? = some later ∧
      stream.arrivals <+: later.arrivals := by
    by_cases hlookup : session.streams.lookup id = some index
    · rw [if_pos hlookup, hstream] at hmodified
      exact ⟨change stream, hmodified, hchange stream⟩
    · rw [if_neg hlookup, hstream] at hmodified
      exact ⟨stream, hmodified, List.prefix_rfl⟩
  obtain ⟨later, hfound, harrivals⟩ := hlater
  obtain ⟨more, hmore⟩ := hremotes
  refine ⟨later, ?_, harrivals⟩
  rw [← hmore, List.getElem?_append_left (List.getElem?_eq_some_iff.mp hfound).1]
  exact hfound

theorem keepsArrivals_receive (session : Session) (peers : List PeerInfo) (frame : Frame) :
    KeepsArrivals session
      ({ session with received := session.received ++ [frame] }.handle peers frame) := by
  cases frame with
  | packet bytes =>
    simp only [Session.handle]
    split_ifs
    · exact keepsArrivals_of_remotes rfl
    · exact keepsArrivals_of_remotes rfl
  | streamOpen id target =>
    simp only [Session.handle]
    split_ifs
    · exact keepsArrivals_modifyStream session id RemoteStream.dropSender
        (fun _ ↦ List.prefix_rfl) (List.prefix_append _ _)
    · exact keepsArrivals_of_remotes rfl
  | streamData id data =>
    exact keepsArrivals_modifyStream session id (·.push data)
      (fun _ ↦ List.prefix_append _ _) List.prefix_rfl
  | streamClose id error =>
    exact keepsArrivals_modifyStream session id RemoteStream.dropSender
      (fun _ ↦ List.prefix_rfl) List.prefix_rfl
  | _ => exact keepsArrivals_of_remotes rfl

theorem keepsArrivals_of_step {action : HopServerAction}
    (hstep : hopServerStep session action = some next) : KeepsArrivals session next := by
  cases action with
  | deliver packet =>
    obtain rfl := Option.some.inj hstep
    exact keepsArrivals_of_remotes rfl
  | session action =>
    cases action with
    | delivered => cases hstep
    | receive frame peers =>
      obtain ⟨-, rfl⟩ := Session.step_receive hstep
      exact keepsArrivals_receive session peers frame
    | send =>
      obtain ⟨_, _, -, rfl⟩ := Session.step_send hstep
      exact keepsArrivals_of_remotes rfl
    | remote place action =>
      obtain ⟨old, new, _, _, hold, hremote, -, rfl⟩ := Session.step_remote hstep
      have harrivals := (RemoteStream.stepped_of_step hremote).frame.2.2.1
      intro index stream hstream
      rw [getElem?_set_of_eq_some hold]
      by_cases hplace : place = index
      · subst hplace
        obtain rfl : old = stream := Option.some.inj (hold.symm.trans hstream)
        exact ⟨new, if_pos rfl, harrivals ▸ List.prefix_rfl⟩
      · exact ⟨stream, (if_neg hplace).trans hstream, List.prefix_rfl⟩
    | sendFailed =>
      obtain rfl := Session.step_sendFailed hstep
      exact keepsArrivals_of_remotes rfl
    | disconnect =>
      obtain ⟨-, rfl⟩ := Session.step_disconnect hstep
      exact keepsArrivals_of_remotes rfl
    | shutdown =>
      obtain ⟨-, rfl⟩ := Session.step_shutdown hstep
      intro index stream hstream
      refine ⟨stream.dropSender, ?_, List.prefix_rfl⟩
      show (session.remotes.map RemoteStream.dropSender)[index]? = _
      rw [List.getElem?_map, hstream]
      rfl

/-- A chunk that was dropped stays dropped. -/
theorem noDrop_of_step {action : HopServerAction}
    (hstep : hopServerStep session action = some next) (hroom : NoDrop next) :
    NoDrop session := by
  intro stream hstream arrival harrival
  obtain ⟨index, hindex⟩ := List.mem_iff_getElem?.mp hstream
  obtain ⟨later, hlater, harrivals⟩ := keepsArrivals_of_step hstep index stream hindex
  exact hroom later (List.mem_of_getElem? hlater) arrival (harrivals.mem harrival)

end Steps

/-! ### A carrier and the session of its hop -/

section Relay

variable {target : TargetAddr} {carrier : Piped} {session : Session}

/-- The frames that the carrier has sent, or is sending. -/
def offered (carrier : Piped) : List Frame :=
  carrier.sent ++ carrier.carrier.pump.frames

/-- What the carrier sends of the stream was written to its near end. -/
theorem offered_of_upward (hup : Piped.Upward target carrier) :
    OfCarrier (offered carrier) ∧ Client.payloads (offered carrier) <+: carrier.written := by
  by_cases halive : carrier.carrier.pump.Alive
  · have hopened := hup.opened halive
    have hwhole := hup.whole halive
    rw [Piped.frames, List.append_assoc] at hopened hwhole
    rw [← List.append_assoc] at hopened hwhole
    refine ⟨hopened.of_append.imp_right fun h ↦ ⟨target, h⟩, ?_⟩
    rw [Client.payloads_append, List.append_assoc, List.append_assoc] at hwhole
    exact ⟨_, hwhole⟩
  · have hnone : carrier.carrier.pump.frames = [] := by
      cases hpump : carrier.carrier.pump with
      | sending frame =>
        rw [hpump] at halive
        exact absurd ⟨by simp, by simp⟩ halive
      | _ => rfl
    rw [offered, hnone, List.append_nil]
    exact ⟨hup.first.imp_right fun h ↦ ⟨target, h⟩, hup.part⟩

/-- With room for every chunk the socket gets the first of the bytes of the near end. -/
theorem relayed_up (hup : Piped.Upward target carrier) (hrelaying : Relaying session)
    (hroom : NoDrop session) (hreceived : session.received <+: offered carrier) :
    toNext session <+: carrier.written := by
  obtain ⟨hcarrier, hpayloads⟩ := offered_of_upward hup
  unfold toNext
  obtain ⟨hnone, -⟩ | ⟨stream, hone, -⟩ := hrelaying.relays (hcarrier.initial hreceived)
  · rw [hnone]
    exact List.nil_prefix
  · have hmem : stream ∈ session.remotes := by
      rw [hone]
      exact List.mem_singleton_self stream
    have hfed := hrelaying.fed.fed 0 stream (by rw [hone]; rfl)
    have hid : stream.id = carrierId := (hcarrier.initial hreceived).id_of_open
      (List.mem_of_mem_take (List.mem_of_getLast? hfed.opening))
    have haccepted : stream.accepted = stream.arrivals.map Arrival.data := by
      rw [RemoteStream.accepted, List.filter_eq_self.mpr fun arrival harrival ↦
        decide_eq_true (hroom stream hmem arrival harrival)]
    have hdropped : Client.payloads (session.received.drop stream.opened) <+:
        Client.payloads session.received := by
      have hbefore : Client.payloads (session.received.take stream.opened) = [] := by
        obtain ⟨first, hfirst⟩ := List.getLast?_eq_some_iff.mp hfed.opening
        have hopened := (hcarrier.initial hreceived).initial
          (List.take_prefix stream.opened session.received)
        rw [hfirst] at hopened ⊢
        rw [hopened.eq_nil_of_open.1]
        rfl
      have hsplit := Client.payloads_append (session.received.take stream.opened)
        (session.received.drop stream.opened)
      rw [List.take_append_drop, hbefore, List.nil_append] at hsplit
      exact hsplit ▸ List.prefix_rfl
    have hhanded : stream.accepted.flatten <+:
        Client.payloads (session.received.drop stream.opened) := by
      obtain ⟨more, hmore⟩ := hfed.handed
      rw [haccepted, ← flatten_payloads, ← hid, ← hmore, List.flatten_append]
      exact List.prefix_append _ _
    have hoffered : Client.payloads session.received <+: Client.payloads (offered carrier) := by
      obtain ⟨more, hmore⟩ := hreceived
      rw [← hmore, Client.payloads_append]
      exact List.prefix_append _ _
    rw [hone]
    exact hfed.uplink.written_prefix_accepted.trans (hhanded.trans (hdropped.trans
      (hoffered.trans hpayloads)))

/-- The near end reads the first of the bytes that came from the socket. -/
theorem relayed_down (hdown : Piped.Downward carrier) (hrelaying : Relaying session)
    (hcarrier : OfCarrier session.received) (hreceived : carrier.received <+: session.wire) :
    carrier.read <+: fromNext session := by
  have hread : carrier.read <+: Client.payloads session.wire := by
    obtain ⟨more, hmore⟩ := hreceived
    have hdelivered : carrier.read <+: carrier.delivered := by
      rw [Piped.delivered, List.append_assoc]
      exact List.prefix_append _ _
    have hcarried := carried_prefix_append carrier.received more
    rw [← hmore]
    exact hdelivered.trans (hdown.part.trans (hcarried.trans (carried_prefix_payloads _)))
  have hwritten : Client.payloads session.wire <+:
      Client.payloads (session.wire ++ session.outbox.items) := by
    rw [Client.payloads_append]
    exact List.prefix_append _ _
  unfold fromNext
  obtain ⟨hnone, hpayloads⟩ | ⟨stream, hone, hreturns⟩ := hrelaying.relays hcarrier
  · rw [hnone]
    exact hpayloads ▸ hread.trans hwritten
  · rw [hone]
    exact (hread.trans hwritten).trans hreturns.part

end Relay

end EntroTunnel.Link
