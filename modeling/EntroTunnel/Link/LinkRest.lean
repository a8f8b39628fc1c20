import EntroTunnel.Link.CarrierHop
import EntroTunnel.Link.LinkStreams

/-!
# A link at rest

What a quiescent link looks like. A connection or a remote stream with no internal step waits for
the application, for the dial or the remote host, or for the other side, or it is over (`idle`,
`Hop.idleStream`). A link in which all of these are idle, with empty queues and wires and an idle
reader loop, is quiescent (`quiescent_of_idle`). The other way round, in a link that a run reaches a
frame in a queue or on a wire can always move: the writer loops write, the session reads, and the
reader loop of the client only waits for room in the queue of a handler, which is not at rest then
(`Quiescent.idle`). So every stream of a quiescent link is idle at both ends and has nothing in
flight (`rest_of_idle`).
-/

set_option autoImplicit false
set_option relaxedAutoImplicit false

namespace EntroTunnel.Client.LocalConn

open EntroTunnel.Core EntroTunnel.Foundation

/-- The application has sent nothing that is not read yet, and has neither closed nor reset. -/
def quiet (conn : LocalConn) : Bool :=
  conn.inbound = [] && !conn.inboundEof && !conn.reset

/-- A connection whose tasks are over or wait for the application or the session. -/
def idle (conn : LocalConn) : Bool :=
  (match conn.phase with
    | .parsing _ => conn.quiet
    | .waiting => conn.inbox.items = [] && conn.inbox.hasSender
    | .refused | .done | .abandoned => true
    | _ => false) &&
  match conn.uplink with
  | .absent | .finished | .aborted => true
  | .reading => conn.quiet
  | _ => false

variable {conn : LocalConn}

theorem quiet_iff :
    conn.quiet = true ↔ conn.inbound = [] ∧ conn.inboundEof = false ∧ conn.reset = false := by
  simp [quiet, and_assoc]

theorem step_idle (hidle : conn.idle = true) {action : LocalAction}
    (hinternal : action.External = false) : conn.step action = none := by
  simp only [idle, Bool.and_eq_true] at hidle
  obtain ⟨hphase, huplink⟩ := hidle
  by_contra hsome
  obtain ⟨⟨next, effect⟩, hstep⟩ := Option.ne_none_iff_exists'.mp hsome
  cases stepped_of_step hstep with
  | greetFailed | deliverFailed | localSends | localCloses | localResets =>
    simp [LocalAction.External] at hinternal
  | read count buf hread hcount =>
    rw [hread] at hphase
    rw [(quiet_iff.mp hphase).1, List.length_nil] at hcount
    omega
  | readEof buf hread _ heof => simp [hread, quiet, heof] at hphase
  | readFailed buf hread hreset => simp [hread, quiet, hreset] at hphase
  | openStream _ _ hread | greet _ _ hread | greeted hread | forwardHead _ hread
  | deliver _ _ hread | delivered hread => simp [hread] at hphase
  | take data rest hread hrecv => simp [hread, (Channel.recv_eq_item hrecv).1] at hphase
  | takeClose rest hread hrecv => simp [hread, (Channel.recv_eq_item hrecv).1] at hphase
  | endOfInput hread hrecv => simp [hread, (Channel.recv_eq_ended hrecv).2] at hphase
  | upRead count hread hcount _ hlength =>
    rw [hread] at huplink
    rw [(quiet_iff.mp huplink).1, List.length_nil] at hlength
    omega
  | upEof hread _ heof => simp [hread, quiet, heof] at huplink
  | upFailed hread hreset => simp [hread, quiet, hreset] at huplink
  | upSend _ hread | upClose hread => simp [hread] at huplink

/-- A handler that takes messages has a step, unless it waits for one. -/
theorem exists_step_of_receiving (hreceiving : conn.receiving = true)
    (hitems : conn.phase = .waiting → conn.inbox.items ≠ []) :
    ∃ action : LocalAction, action.External = false ∧ action ≠ .endOfInput ∧
      (conn.step action).isSome = true := by
  cases hphase : conn.phase with
  | greeting rest =>
    cases rest with
    | nil => exact ⟨.greeted, rfl, by decide, by simp [step, hphase]⟩
    | cons byte rest => exact ⟨.greet 1, rfl, by decide, by simp [step, hphase]⟩
  | forwarding data => exact ⟨.forwardHead, rfl, by decide, by simp [step, hphase]⟩
  | waiting =>
    cases hrecv : conn.inbox.recv with
    | item msg rest =>
      cases msg with
      | data data => exact ⟨.take, rfl, by decide, by simp [step, hphase, hrecv]⟩
      | close => exact ⟨.takeClose, rfl, by decide, by simp [step, hphase, hrecv]⟩
    | ended => exact absurd (Channel.recv_eq_ended hrecv).1 (hitems hphase)
    | waiting => exact absurd (Channel.recv_eq_waiting hrecv).1 (hitems hphase)
  | delivering rest =>
    cases rest with
    | nil => exact ⟨.delivered, rfl, by decide, by simp [step, hphase]⟩
    | cons byte rest => exact ⟨.deliver 1, rfl, by decide, by simp [step, hphase]⟩
  | _ => simp [receiving, hphase] at hreceiving

/-- A reader without a step has read all that the application sent. -/
theorem quiet_of_reads {α : Type*} {limit : ℕ} {after : α} (hlimit : 1 ≤ limit)
    (hread : (if 0 < 1 ∧ 1 ≤ limit ∧ 1 ≤ conn.inbound.length then some after else none) = none)
    (heof : conn.inbound = [] → conn.inboundEof = false) (hreset : conn.reset = false) :
    conn.quiet = true := by
  have hinbound : conn.inbound = [] := by
    rw [← List.length_eq_zero_iff]
    by_contra hlength
    rw [if_pos ⟨Nat.one_pos, hlimit, Nat.one_le_iff_ne_zero.mpr hlength⟩] at hread
    cases hread
  exact quiet_iff.mpr ⟨hinbound, heof hinbound, hreset⟩

/-- A connection without a step of its tasks is idle. -/
theorem idle_of_steps (hnone : ∀ action : LocalAction, action.External = false →
    conn.step action = none) : conn.idle = true := by
  have hbusy : conn.receiving = true → conn.phase = .waiting ∧ conn.inbox.items = [] := by
    intro hreceiving
    by_contra hwaiting
    obtain ⟨action, hinternal, -, hstep⟩ := exists_step_of_receiving hreceiving
      fun hphase hitems ↦ hwaiting ⟨hphase, hitems⟩
    rw [hnone action hinternal] at hstep
    cases hstep
  rw [idle, Bool.and_eq_true]
  constructor
  · cases hphase : conn.phase with
    | parsing buf =>
      have hread := hnone (.read 1) rfl
      have heof := hnone .readEof rfl
      have hreset := hnone .readFailed rfl
      simp only [step, hphase] at hread heof hreset
      exact quiet_of_reads (by decide) hread (by simpa using heof) (by simpa using hreset)
    | opening target forward => simpa [step, hphase] using hnone .openStream rfl
    | waiting =>
      have hitems := (hbusy (by rw [receiving, hphase])).2
      have hend := hnone .endOfInput rfl
      cases hrecv : conn.inbox.recv with
      | item msg rest => cases hitems.symm.trans (Channel.recv_eq_item hrecv).1
      | ended => simp [step, hphase, hrecv] at hend
      | waiting => simp [Channel.recv_eq_waiting hrecv]
    | greeting _ | forwarding _ | delivering _ =>
      cases hphase.symm.trans (hbusy (by rw [receiving, hphase])).1
    | refused | done | abandoned => rfl
  · cases huplink : conn.uplink with
    | reading =>
      have hread := hnone (.upRead 1) rfl
      have heof := hnone .upEof rfl
      have hreset := hnone .upFailed rfl
      simp only [step, huplink, true_and] at hread heof hreset
      exact quiet_of_reads (by decide) hread (by simpa using heof) (by simpa using hreset)
    | sending data => simpa [step, huplink] using hnone .upSend rfl
    | closing => simpa [step, huplink] using hnone .upClose rfl
    | absent | finished | aborted => rfl

end EntroTunnel.Client.LocalConn

namespace EntroTunnel.Link

open EntroTunnel.Core EntroTunnel.Foundation EntroTunnel.Client EntroTunnel.Server

/-- A remote stream without a step of its tasks is idle. -/
theorem Hop.idleStream_of_steps {stream : RemoteStream}
    (hnone : ∀ action : RemoteAction, action.External = false → stream.step true action = none) :
    Hop.idleStream stream = true := by
  rw [Hop.idleStream, Bool.and_eq_true]
  constructor
  · cases hrelay : stream.relay with
    | dialing | ended => rfl
    | refusing error => simpa [RemoteStream.step, hrelay] using hnone .refuse rfl
    | waiting =>
      have htake := hnone .take rfl
      have hfinish := hnone .finish rfl
      cases hrecv : stream.inbox.recv with
      | item data rest => simp [RemoteStream.step, hrelay, hrecv] at htake
      | ended => simp [RemoteStream.step, hrelay, hrecv] at hfinish
      | waiting => rfl
    | writing rest =>
      cases rest with
      | nil => simpa [RemoteStream.step, hrelay] using hnone .written rfl
      | cons byte rest => simpa [RemoteStream.step, hrelay] using hnone (.write 1) rfl
  · cases hdown : stream.down with
    | absent | finished | aborted => rfl
    | reading =>
      have hread := hnone (.read 1) rfl
      have heof := hnone .readEof rfl
      have hreset := hnone .readFailed rfl
      simp only [RemoteStream.step, hdown, true_and] at hread heof hreset
      have hinbound : stream.inbound = [] := by
        by_contra hinbound
        rw [if_pos ⟨Nat.one_pos, by decide, List.length_pos_iff.mpr hinbound⟩] at hread
        cases hread
      simpa [hinbound] using And.intro (by simpa [hinbound] using heof) (by simpa using hreset)
    | forwarding data => simpa [RemoteStream.step, hdown] using hnone .forward rfl
    | closing => simpa [RemoteStream.step, hdown] using hnone .close rfl

namespace ProxyLink

/-- Every task of a link is over or waits for an application, the network or a remote host, and no
frame is in flight. -/
def idle (link : ProxyLink) : Bool :=
  link.client.conns.all LocalConn.idle && link.client.reader = .idle &&
  link.client.out.items = [] && link.client.wire = [] &&
  link.session.outbox.items = [] && link.session.wire = [] &&
  link.session.remotes.all Hop.idleStream

section Rest

variable {link : ProxyLink}

theorem idle_iff : link.idle = true ↔
    (∀ conn ∈ link.client.conns, conn.idle = true) ∧ link.client.reader = .idle ∧
      (link.client.out.items = [] ∧ link.client.wire = []) ∧
      (link.session.outbox.items = [] ∧ link.session.wire = []) ∧
        ∀ stream ∈ link.session.remotes, Hop.idleStream stream = true := by
  simp [idle, and_assoc]

theorem recv_of_items {Item : Type*} {capacity : ℕ} {channel : Channel Item capacity}
    (hitems : channel.items = []) {item : Item} {rest : Channel Item capacity} :
    channel.recv ≠ .item item rest := fun hrecv ↦
  absurd (hitems.symm.trans (Channel.recv_eq_item hrecv).1) (List.cons_ne_nil _ _).symm

/-- An idle link is quiescent. -/
theorem quiescent_of_idle (hidle : link.idle = true) : link.Quiescent := by
  obtain ⟨hconns, hreader, ⟨hout, hwire⟩, ⟨houtbox, hsessionWire⟩, hremotes⟩ := idle_iff.mp hidle
  intro action hinternal
  by_contra hsome
  obtain ⟨next, hstep⟩ := Option.ne_none_iff_exists'.mp hsome
  cases action with
  | client action =>
    obtain ⟨-, client, hclient, -⟩ := step_client hstep
    cases action with
    | conn place action =>
      simp only [ProxyClient.step] at hclient
      split at hclient
      · rename_i conn hconn
        have hinternal : action.External = false := by
          simpa [LinkAction.Internal] using hinternal
        rw [LocalConn.step_idle (hconns conn (List.mem_of_getElem? hconn)) hinternal] at hclient
        simp at hclient
      · cases hclient
    | send =>
      obtain ⟨frame, rest, hrecv, -⟩ := ProxyClient.step_send hclient
      exact recv_of_items hout hrecv
    | hand =>
      obtain ⟨_, _, _, hhanding, -⟩ := ProxyClient.step_hand hclient
      cases hreader.symm.trans hhanding
    | pong => cases hreader.symm.trans (ProxyClient.step_pong hclient).1
    | accept | keepalive | getPeers | lanPacket | receive => cases hinternal
  | sessionSend =>
    obtain ⟨session, hsession, -⟩ := step_sessionSend hstep
    obtain ⟨frame, rest, hrecv, -⟩ := Session.step_send hsession
    exact recv_of_items houtbox hrecv
  | remote place action =>
    obtain ⟨session, hsession, -⟩ := step_linkRemote hstep
    obtain ⟨stream, _, _, _, hstream, hstreamStep, -, -⟩ := Session.step_remote hsession
    have hinternal : action.External = false := by
      simpa [LinkAction.Internal] using hinternal
    rw [Hop.step_idleStream (hremotes stream (List.mem_of_getElem? hstream)) hinternal]
      at hstreamStep
    cases hstreamStep
  | toServer peers =>
    obtain ⟨_, _, _, hframes, -, -⟩ := step_toServer hstep
    cases hwire.symm.trans hframes
  | toClient =>
    obtain ⟨_, _, hframes, -, -⟩ := step_toClient hstep
    cases hsessionWire.symm.trans hframes
  | deliver packet => cases hinternal

/-! ### What is left in a quiescent link -/

/-- The writer loops have written everything, and the session has read it. -/
theorem Quiescent.drained (hquiescent : link.Quiescent) (hnumbered : link.Numbered) :
    (link.client.out.items = [] ∧ link.client.wire = []) ∧ link.session.outbox.items = [] := by
  refine ⟨⟨?_, ?_⟩, ?_⟩
  · have hsend := hquiescent (.client .send) rfl
    simp only [step, ProxyClient.step] at hsend
    cases hrecv : link.client.out.recv with
    | item frame rest => simp [hrecv] at hsend
    | ended => exact (Channel.recv_eq_ended hrecv).1
    | waiting => exact (Channel.recv_eq_waiting hrecv).1
  · have harrive := hquiescent (.toServer []) rfl
    cases hwire : link.client.wire with
    | nil => rfl
    | cons frame rest => simp [step, hwire, Session.step, hnumbered.reading] at harrive
  · have hsend := hquiescent .sessionSend rfl
    simp only [step, Session.step] at hsend
    cases hrecv : link.session.outbox.recv with
    | item frame rest => simp [hrecv] at hsend
    | ended => exact (Channel.recv_eq_ended hrecv).1
    | waiting => exact (Channel.recv_eq_waiting hrecv).1

/-- An empty queue with a receiver takes an item. -/
theorem trySend_of_nil {Item : Type*} {capacity : ℕ} {channel : Channel Item capacity}
    (hreceiver : channel.hasReceiver = true) (hitems : channel.items = []) (hpos : 0 < capacity)
    (item : Item) : (channel.trySend item).isSome = true := by
  unfold Channel.trySend
  rw [dif_pos ⟨hreceiver, by rw [hitems]; exact hpos⟩]
  rfl

/-- A connection that could step would let the client step. -/
theorem Quiescent.conn (hquiescent : link.Quiescent) (hnumbered : link.Numbered) {place : ℕ}
    {conn : LocalConn} (hconn : link.client.conns[place]? = some conn) {action : LocalAction}
    (hinternal : action.External = false)
    (hended : action = .endOfInput → link.client.reader.target ≠ some place) :
    conn.step action = none := by
  have hstep := hquiescent (.client (.conn place action))
    (by simpa [LinkAction.Internal] using hinternal)
  have hallowed : ¬ (action = .endOfInput ∧ link.client.reader.target = some place) :=
    fun h ↦ hended h.1 h.2
  simp only [step, ProxyClient.step, hconn, if_neg hallowed, Option.map_eq_none_iff] at hstep
  cases htaken : conn.step action with
  | none => rfl
  | some taken =>
    obtain ⟨next, effect⟩ := taken
    simp only [htaken] at hstep
    cases effect with
    | none | register | unregister => cases hstep
    | emit frame =>
      have hsent := trySend_of_nil hnumbered.outReceiver (hquiescent.drained hnumbered).1.1
        (by decide) frame
      rw [← Option.isSome_map] at hsent
      exact absurd hstep (Option.isSome_iff_ne_none.mp hsent)

/-- A quiescent reader loop waits for a frame: the queue of a handler at rest has room. -/
theorem Quiescent.reader (hquiescent : link.Quiescent) (hnumbered : link.Numbered)
    (haimed : link.Aimed) {allow : Bool}
    (hstreams : ∀ index < idCount, StreamInv allow (link.view index)) :
    link.client.reader = .idle := by
  cases hreader : link.client.reader with
  | idle => rfl
  | ponging =>
    have hpong := hquiescent (.client .pong) rfl
    have hsent := trySend_of_nil hnumbered.outReceiver (hquiescent.drained hnumbered).1.1
      (by decide) Frame.pong
    simp only [step, ProxyClient.step, if_pos hreader, Option.map_map, Option.map_eq_none_iff]
      at hpong
    exact absurd hpong (Option.isSome_iff_ne_none.mp hsent)
  | handing place msg =>
    have hplace := haimed place (by rw [hreader]; rfl)
    have hconn : link.client.conns[place]? = some link.client.conns[place] :=
      List.getElem?_eq_getElem hplace
    have hown : (link.view place).conn = link.client.conns[place] := connAt_eq hconn
    have hhand := hquiescent (.client .hand) rfl
    simp only [step, ProxyClient.step, hreader, hconn, ← hown, Option.map_eq_none_iff] at hhand
    split_ifs at hhand with hreceiver
    have hfull := Channel.trySend_eq_none.mp (Option.map_eq_none_iff.mp hhand) hreceiver
    have hitems : (link.view place).conn.inbox.items ≠ [] :=
      List.ne_nil_of_length_pos (lt_of_lt_of_le (by decide) hfull)
    have hbusy : (link.view place).conn.receiving = true → False := by
      intro hreceiving
      obtain ⟨action, hinternal, hended, hstep⟩ :=
        LocalConn.exists_step_of_receiving hreceiving fun _ ↦ hitems
      rw [hquiescent.conn hnumbered (hown ▸ hconn) hinternal fun h ↦ absurd h hended] at hstep
      cases hstep
    cases hstreams place (hplace.trans_le hnumbered.count) with
    | fresh h => exact absurd (congrArg Channel.items h.inbox) hitems
    | requested h => exact (hbusy (h.receiver.symm.trans hreceiver)).elim
    | arrived h => exact (hbusy (h.receiver.symm.trans hreceiver)).elim

/-- A quiescent link is idle. -/
theorem Quiescent.idle (hquiescent : link.Quiescent) (hnumbered : link.Numbered)
    (haimed : link.Aimed) {allow : Bool}
    (hstreams : ∀ index < idCount, StreamInv allow (link.view index)) : link.idle = true := by
  have hreader := hquiescent.reader hnumbered haimed hstreams
  obtain ⟨hup, houtbox⟩ := hquiescent.drained hnumbered
  refine idle_iff.mpr ⟨fun conn hconn ↦ ?_, hreader, hup, ⟨houtbox, ?_⟩, fun stream hstream ↦ ?_⟩
  · obtain ⟨place, hplace⟩ := List.getElem?_of_mem hconn
    refine LocalConn.idle_of_steps fun action hinternal ↦ ?_
    exact hquiescent.conn hnumbered hplace hinternal fun _ ↦ by simp [hreader, ReaderPhase.target]
  · have harrive := hquiescent .toClient rfl
    cases hwire : link.session.wire with
    | nil => rfl
    | cons frame rest => simp [step, hwire, ProxyClient.step, hreader] at harrive
  · obtain ⟨place, hplace⟩ := List.getElem?_of_mem hstream
    refine Hop.idleStream_of_steps fun action hinternal ↦ ?_
    have hstep := hquiescent (.remote place action) (by simpa [LinkAction.Internal] using hinternal)
    simp only [step, Session.step, hplace, hnumbered.outboxReceiver, Option.map_eq_none_iff]
      at hstep
    cases htaken : stream.step true action with
    | none => rfl
    | some taken =>
      obtain ⟨next, frame⟩ := taken
      simp only [htaken, Option.map_eq_none_iff] at hstep
      cases frame with
      | none => cases hstep
      | some frame =>
        have hsent := trySend_of_nil hnumbered.outboxReceiver houtbox (by decide) frame
        exact absurd hstep (Option.isSome_iff_ne_none.mp hsent)

/-- A stream of an idle link: nothing is in flight, and both ends are idle. -/
theorem rest_of_idle (hidle : link.idle = true) (index : ℕ) :
    (link.view index).up = [] ∧ (link.view index).down = [] ∧ (link.view index).held = none ∧
      (link.view index).conn.idle = true ∧
        ∀ stream ∈ (link.view index).remote, Hop.idleStream stream = true := by
  obtain ⟨hconns, hreader, ⟨hout, hwire⟩, ⟨houtbox, hsessionWire⟩, hremotes⟩ := idle_iff.mp hidle
  refine ⟨?_, ?_, ?_, ?_, fun stream hstream ↦ ?_⟩
  · rw [view, hout, hwire]
    rfl
  · rw [view, houtbox, hsessionWire]
    rfl
  · rw [view, hreader]
    rfl
  · show (connAt link.client index).idle = true
    unfold connAt
    cases hconn : link.client.conns[index]? with
    | none => rfl
    | some conn => exact hconns conn (List.mem_of_getElem? hconn)
  · exact hremotes stream (List.mem_of_find?_eq_some hstream)

end Rest

end ProxyLink

end EntroTunnel.Link
