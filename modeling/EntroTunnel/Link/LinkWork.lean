import EntroTunnel.Link.LinkStreams
import Mathlib.Algebra.BigOperators.Group.List.Basic
import Mathlib.Algebra.GroupWithZero.Nat

/-!
# A link comes to rest

The tasks of a link cannot go on for ever by themselves. `work` prices what is left to do: bytes
that were not read yet, frames and messages by what they may still cause, and the phases of the
tasks. A byte costs more before it is read than in a frame, since each read makes a frame, and a
frame costs more in a queue than on the wire. Every internal step takes more from the price than it
adds (`work_lt`), so from any state there are at most as many internal steps in a row as the price
says (`internal_length_le`); only applications, remote hosts, the network and timers add to it.
-/

set_option autoImplicit false
set_option relaxedAutoImplicit false

namespace EntroTunnel.Link

open EntroTunnel.Core EntroTunnel.Foundation EntroTunnel.Client EntroTunnel.Server

/-! ### Sums over the parts of a list -/

section Sums

variable {Item : Type*} (weight : Item → ℕ)

/-- Replace an item. -/
theorem sum_map_set {items : List Item} {index : ℕ} {item : Item}
    (hitem : items[index]? = some item)
    (next : Item) :
    ((items.set index next).map weight).sum + weight item =
      (items.map weight).sum + weight next := by
  induction items generalizing index with
  | nil => cases hitem
  | cons head rest ih =>
    cases index with
    | zero =>
      obtain rfl := Option.some.inj hitem
      simp only [List.set_cons_zero, List.map_cons, List.sum_cons]
      omega
    | succ index =>
      have hrest := ih hitem
      simp only [List.set_cons_succ, List.map_cons, List.sum_cons]
      omega

/-- Change an item by a bounded amount. -/
theorem sum_map_modify_le {change : Item → Item} {extra : ℕ}
    (hchange : ∀ item, weight (change item) ≤ weight item + extra) (items : List Item)
    (index : ℕ) :
    ((items.modify index change).map weight).sum ≤ (items.map weight).sum + extra := by
  induction items generalizing index with
  | nil => simp
  | cons head rest ih =>
    cases index with
    | zero =>
      have hhead := hchange head
      simp only [List.modify_zero_cons, List.map_cons, List.sum_cons]
      omega
    | succ index =>
      have hrest := ih index
      simp only [List.modify_succ_cons, List.map_cons, List.sum_cons]
      omega

end Sums

/-! ### Prices -/

/-- The stream data of a frame. -/
def payload : Frame → ℕ
  | .streamData _ data => data.length
  | _ => 0

/-- A frame on the wire to the server. -/
def upWork : Frame → ℕ
  | .pong => 1
  | frame => payload frame + 6

/-- A frame on the wire to the client. -/
def downWork (frame : Frame) : ℕ :=
  payload frame + 4

/-- A message in the queue of a handler. -/
def messageWork : ToLocal → ℕ
  | .data data => data.length + 2
  | .close => 2

/-- The reader loop of the client. -/
def readerWork : ReaderPhase → ℕ
  | .idle => 0
  | .handing _ msg => messageWork msg + 1
  | .ponging => 3

/-- A handler. -/
def phaseWork : LocalPhase → ℕ
  | .parsing buf => buf.length + 59
  | .opening _ forward => forward.length + 58
  | .greeting rest => rest.length + 11
  | .forwarding data => data.length + 18
  | .waiting => 1
  | .delivering rest => rest.length + 2
  | .refused | .done | .abandoned => 0

/-- An uplink task. -/
def uplinkWork : UplinkPhase → ℕ
  | .reading => 9
  | .sending data => data.length + 17
  | .closing => 8
  | .absent | .finished | .aborted => 0

/-- A local connection. -/
def connWork (conn : LocalConn) : ℕ :=
  phaseWork conn.phase + uplinkWork conn.uplink + 10 * conn.inbound.length +
    (conn.inbox.items.map messageWork).sum

/-- A chunk in the queue of a relay task. -/
def chunkWork (data : Bytes) : ℕ :=
  data.length + 2

/-- A relay task. -/
def relayWork : RelayPhase → ℕ
  | .refusing _ => 6
  | .waiting => 1
  | .writing rest => rest.length + 2
  | .dialing | .ended => 0

/-- A down task. -/
def downTaskWork : DownPhase → ℕ
  | .reading => 7
  | .forwarding data => data.length + 13
  | .closing => 6
  | .absent | .finished | .aborted => 0

/-- A remote stream. -/
def streamWork (stream : RemoteStream) : ℕ :=
  relayWork stream.relay + downTaskWork stream.down + 8 * stream.inbound.length +
    (stream.inbox.items.map chunkWork).sum

/-- The client's side of a link. -/
def clientWork (client : ProxyClient) : ℕ :=
  (client.conns.map connWork).sum + readerWork client.reader +
    (client.out.items.map fun frame ↦ upWork frame + 1).sum + (client.wire.map upWork).sum

/-- The server's side of a link. -/
def sessionWork (session : Session) : ℕ :=
  (session.remotes.map streamWork).sum +
    (session.outbox.items.map fun frame ↦ downWork frame + 1).sum +
      (session.wire.map downWork).sum

/-- What is left to do in a link. -/
def ProxyLink.work (link : ProxyLink) : ℕ :=
  clientWork link.client + sessionWork link.session

/-! ### Local connections -/

section Conn

variable {conn next : LocalConn}

theorem uplinkWork_abort (uplink : UplinkPhase) : uplinkWork uplink.abort = 0 := by
  cases uplink <;> rfl

/-- The price of what a step does to the rest of the client. -/
def effectWork : LocalEffect → ℕ
  | .emit frame => upWork frame + 1
  | _ => 0

/-- A read of a request head never forwards more than was collected. -/
theorem phaseWork_parsed (conn : LocalConn) (buf chunk : Bytes) :
    phaseWork (conn.parsed (headStep buf chunk)).1.phase ≤ buf.length + chunk.length + 59 := by
  unfold headStep
  split_ifs
  · exact Nat.zero_le _
  · dsimp only
    split
    · split
      · rename_i target isConnect _
        cases isConnect with
        | true => simp [LocalConn.parsed, phaseWork]
        | false => simp [LocalConn.parsed, phaseWork]
      · exact Nat.zero_le _
    · split_ifs
      · exact Nat.zero_le _
      · simp [LocalConn.parsed, phaseWork]

theorem parsed_same (conn : LocalConn) (outcome : HeadStep) :
    (conn.parsed outcome).1.uplink = conn.uplink ∧ (conn.parsed outcome).1.inbox = conn.inbox ∧
      (conn.parsed outcome).1.inbound = conn.inbound ∧ effectWork (conn.parsed outcome).2 = 0 := by
  cases outcome <;> exact ⟨rfl, rfl, rfl, rfl⟩

/-- A step of a connection's tasks costs more than it causes. -/
theorem connWork_lt {action : LocalAction} {effect : LocalEffect}
    (hinternal : action.External = false) (hstep : conn.Stepped action next effect) :
    connWork next + effectWork effect < connWork conn := by
  unfold connWork
  cases hstep with
  | greetFailed | deliverFailed | localSends | localCloses | localResets =>
    simp [LocalAction.External] at hinternal
  | read count buf hphase hcount =>
    obtain ⟨huplink, hinbox, hinbound, heffect⟩ := parsed_same
      { conn with inbound := conn.inbound.drop count } (headStep buf (conn.inbound.take count))
    have hparsed := phaseWork_parsed { conn with inbound := conn.inbound.drop count } buf
      (conn.inbound.take count)
    have hwork : phaseWork conn.phase = buf.length + 59 := by rw [hphase]; rfl
    rw [huplink, hinbox, hinbound, heffect, hwork]
    simp only [List.length_take, List.length_drop] at hparsed ⊢
    omega
  | readEof buf hphase | readFailed buf hphase =>
    simp only [hphase, phaseWork, effectWork]
    omega
  | openStream target forward hphase =>
    simp only [hphase, phaseWork, effectWork, upWork, payload, LocalConn.opened]
    split_ifs
    · have hlength : established.length = 39 := by decide
      simp only [hlength]
      omega
    · dsimp only
      omega
    · simp only [LocalConn.serve, uplinkWork]
      omega
  | greet count rest hphase hcount | deliver count rest hphase hcount =>
    simp only [hphase, phaseWork, effectWork, List.length_drop]
    omega
  | greeted hphase =>
    simp only [hphase, phaseWork, effectWork, LocalConn.serve, uplinkWork, List.length_nil]
    omega
  | forwardHead data hphase =>
    simp only [hphase, phaseWork, effectWork, upWork, payload, LocalConn.serve, uplinkWork]
    omega
  | take data rest hphase hrecv =>
    rw [(Channel.recv_eq_item hrecv).1, hphase]
    simp only [phaseWork, effectWork, messageWork, List.map_cons, List.sum_cons]
    omega
  | takeClose rest hphase hrecv | endOfInput hphase hrecv =>
    simp only [LocalConn.finish, uplinkWork_abort, hphase, phaseWork, effectWork,
      Channel.items_dropSender, Channel.items_dropReceiver, List.map_nil, List.sum_nil]
    omega
  | delivered hphase =>
    simp only [hphase, phaseWork, effectWork, List.length_nil]
    omega
  | upRead count huplink hcount hsize hlength =>
    simp only [huplink, uplinkWork, effectWork, List.length_take, List.length_drop]
    omega
  | upEof huplink | upFailed huplink =>
    simp only [huplink, uplinkWork, effectWork]
    omega
  | upSend data huplink =>
    simp only [huplink, uplinkWork, effectWork, upWork, payload]
    omega
  | upClose huplink =>
    simp only [huplink, uplinkWork, effectWork, upWork, payload]
    omega

end Conn

/-! ### The client -/

section Client

variable {client next : ProxyClient}

/-- An item is added to a queue. -/
theorem sum_trySend {Item : Type*} {capacity : ℕ} {channel after : Channel Item capacity}
    {item : Item} (hsend : channel.trySend item = some after) (weight : Item → ℕ) :
    (after.items.map weight).sum = (channel.items.map weight).sum + weight item := by
  rw [(Channel.trySend_eq_some hsend).2.2.1, List.map_append, List.sum_append, List.map_singleton,
    List.sum_singleton]

/-- The oldest item leaves a queue. -/
theorem sum_recv {Item : Type*} {capacity : ℕ} {channel rest : Channel Item capacity} {item : Item}
    (hrecv : channel.recv = .item item rest) (weight : Item → ℕ) :
    (channel.items.map weight).sum = weight item + (rest.items.map weight).sum := by
  rw [(Channel.recv_eq_item hrecv).1, List.map_cons, List.sum_cons]

theorem sum_dropEntry_le (client : ProxyClient) (id : StreamId) :
    ((client.dropEntry id).map connWork).sum ≤ (client.conns.map connWork).sum := by
  unfold ProxyClient.dropEntry
  split
  · exact @sum_map_modify_le _ connWork LocalConn.dropSender 0 (fun _ ↦ Nat.le_refl _) _ _
  · exact Nat.le_refl _

/-- What a step of a connection adds to the rest of the client. -/
theorem clientWork_apply {index : ℕ} {conn connNext : LocalConn} {effect : LocalEffect}
    (hconn : client.conns[index]? = some conn)
    (happly : (client.put index connNext).apply conn.id index effect = some next) :
    clientWork next + connWork conn ≤
      clientWork client + connWork connNext + effectWork effect := by
  have hput := sum_map_set connWork hconn connNext
  have hdrop := sum_dropEntry_le (client.put index connNext) conn.id
  cases effect with
  | none =>
    obtain rfl := Option.some.inj happly
    simp only [clientWork, ProxyClient.put, effectWork]
    omega
  | register | unregister =>
    obtain rfl := Option.some.inj happly
    simp only [clientWork, ProxyClient.put, effectWork] at hdrop ⊢
    omega
  | emit frame =>
    obtain ⟨out, hsend, rfl⟩ := Option.map_eq_some_iff.mp happly
    have hout := sum_trySend hsend fun frame ↦ upWork frame + 1
    simp only [clientWork, ProxyClient.put, effectWork] at hout ⊢
    omega

/-- What a frame from the server makes the reader loop do. -/
theorem clientWork_demux_lt (hreader : client.reader = .idle) (frame : Frame) :
    clientWork (client.demux frame) < clientWork client + downWork frame := by
  unfold ProxyClient.demux
  split
  · split
    · simp only [clientWork, hreader, readerWork, messageWork, downWork, payload]
      omega
    · simp only [downWork]
      omega
  · split
    · simp only [clientWork, hreader, readerWork, messageWork, downWork, payload]
      omega
    · simp only [downWork]
      omega
  · simp only [clientWork, hreader, readerWork, downWork, payload]
    omega
  · simp only [downWork]
    omega

/-- A step of the client's tasks costs more than it causes. -/
theorem clientWork_lt {action : ClientAction}
    (hinternal : (LinkAction.client action).Internal = true)
    (hstep : client.step action = some next) : clientWork next < clientWork client := by
  cases action with
  | accept | keepalive | getPeers | lanPacket | receive => cases hinternal
  | conn index action =>
    obtain ⟨conn, connNext, effect, hconn, hstepped, happly⟩ := ProxyClient.step_conn hstep
    have hcost := connWork_lt (by simpa [LinkAction.Internal] using hinternal) hstepped
    have hrest := clientWork_apply hconn happly
    omega
  | send =>
    obtain ⟨frame, rest, hrecv, rfl⟩ := ProxyClient.step_send hstep
    have hout := sum_recv hrecv fun frame ↦ upWork frame + 1
    simp only [clientWork, List.map_append, List.sum_append, List.map_singleton,
      List.sum_singleton]
    omega
  | hand =>
    obtain ⟨index, msg, conn, hreader, hconn, ⟨inbox, hsend, rfl⟩ | ⟨-, rfl⟩⟩ :=
      ProxyClient.step_hand hstep
    · obtain ⟨after, hreceived, hafter, -⟩ := received_eq conn msg inbox
      have hput := sum_map_set connWork hconn (conn.received msg inbox)
      have hinbox := sum_trySend hsend messageWork
      have hadded : connWork (conn.received msg inbox) = connWork conn + messageWork msg := by
        rw [hreceived]
        simp only [connWork, hafter]
        omega
      simp only [clientWork, ProxyClient.put, hreader, readerWork] at hput ⊢
      omega
    · simp only [clientWork, hreader, readerWork]
      omega
  | pong =>
    obtain ⟨hreader, out, hsend, rfl⟩ := ProxyClient.step_pong hstep
    have hout := sum_trySend hsend fun frame ↦ upWork frame + 1
    simp only [clientWork, hreader, readerWork, upWork] at hout ⊢
    omega

end Client

/-! ### The session -/

section Session

variable {session next : Session}

theorem downTaskWork_abort (down : DownPhase) : downTaskWork down.abort = 0 := by
  cases down <;> rfl

/-- The price of a frame that a step puts into the session's queue. -/
def framesWork (frame : Option Frame) : ℕ :=
  (frame.toList.map fun frame ↦ downWork frame + 1).sum

theorem framesWork_close_le (listening : Bool) (id : StreamId) (error : Option String) :
    framesWork (if listening then some (.streamClose id error) else none) ≤ 5 := by
  cases listening <;> simp [framesWork, downWork, payload]

/-- A step of a stream's tasks costs more than it causes. -/
theorem streamWork_lt {stream streamNext : RemoteStream} {action : RemoteAction}
    {frame : Option Frame} {listening : Bool} (hinternal : action.External = false)
    (hstep : stream.Stepped listening action streamNext frame) :
    streamWork streamNext + framesWork frame < streamWork stream := by
  unfold streamWork
  cases hstep with
  | dialed | dialFailed | writeFailed | remoteSends | remoteCloses | remoteResets =>
    simp [RemoteAction.External] at hinternal
  | refuse error hrelay =>
    have hframe := framesWork_close_le listening stream.id (some (dialError stream.target error))
    simp only [hrelay, relayWork, Channel.items_dropReceiver, List.map_nil,
      List.sum_nil] at hframe ⊢
    omega
  | take data rest hrelay hrecv =>
    rw [sum_recv hrecv chunkWork, hrelay]
    simp only [relayWork, chunkWork, framesWork, Option.toList_none, List.map_nil, List.sum_nil]
    omega
  | write count rest hrelay hcount =>
    simp only [hrelay, relayWork, framesWork, Option.toList_none, List.map_nil, List.sum_nil,
      List.length_drop]
    omega
  | written hrelay =>
    simp only [hrelay, relayWork, framesWork, Option.toList_none, List.map_nil, List.sum_nil,
      List.length_nil]
    omega
  | finish hrelay =>
    simp only [RemoteStream.stop, downTaskWork_abort, hrelay, relayWork, framesWork,
      Channel.items_dropReceiver, Option.toList_none, List.map_nil, List.sum_nil]
    omega
  | read count hdown hcount hsize hlength =>
    simp only [hdown, downTaskWork, framesWork, Option.toList_none, List.map_nil, List.sum_nil,
      List.length_take, List.length_drop]
    omega
  | readEof hdown | readFailed hdown =>
    simp only [hdown, downTaskWork, framesWork, Option.toList_none, List.map_nil, List.sum_nil]
    omega
  | forward data hdown =>
    simp only [hdown, downTaskWork, framesWork, downWork, payload, Option.toList_some,
      List.map_singleton, List.sum_singleton]
    omega
  | forwardFailed data hdown =>
    simp only [hdown, downTaskWork, framesWork, Option.toList_none, List.map_nil, List.sum_nil]
    omega
  | close hdown =>
    have hframe := framesWork_close_le listening stream.id none
    simp only [hdown, downTaskWork] at hframe ⊢
    omega

theorem sum_offer_le (channel : Channel Frame sessionCapacity) (frame : Frame) :
    ((channel.offer frame).items.map fun frame ↦ downWork frame + 1).sum ≤
      (channel.items.map fun frame ↦ downWork frame + 1).sum + (downWork frame + 1) := by
  rw [Channel.items_offer]
  split_ifs
  · rw [List.map_append, List.sum_append, List.map_singleton, List.sum_singleton]
  · omega

theorem sum_modifyStream_le (session : Session) (id : StreamId)
    {change : RemoteStream → RemoteStream}
    {extra : ℕ} (hchange : ∀ stream, streamWork (change stream) ≤ streamWork stream + extra) :
    ((session.modifyStream id change).map streamWork).sum ≤
      (session.remotes.map streamWork).sum + extra := by
  unfold Session.modifyStream
  split
  · exact sum_map_modify_le streamWork hchange _ _
  · omega

theorem streamWork_push_le (stream : RemoteStream) (data : Bytes) :
    streamWork (stream.push data) ≤ streamWork stream + (data.length + 2) := by
  simp only [streamWork, RemoteStream.push, Channel.items_offer]
  split_ifs
  · simp only [List.map_append, List.sum_append, List.map_singleton, List.sum_singleton, chunkWork]
    omega
  · omega

/-- What a frame from the client makes the session do. -/
theorem sessionWork_handle_lt (session : Session) (peers : List PeerInfo) (frame : Frame) :
    sessionWork (session.handle peers frame) < sessionWork session + upWork frame := by
  have hdropped : ∀ id, ((session.modifyStream id RemoteStream.dropSender).map streamWork).sum ≤
      (session.remotes.map streamWork).sum + 0 :=
    fun id ↦ sum_modifyStream_le session id fun stream ↦ (Nat.add_zero _).ge
  cases frame with
  | packet bytes =>
    rw [Session.handle]
    split_ifs
    all_goals
      simp only [sessionWork, upWork]
      omega
  | ping =>
    have hoffer := sum_offer_le session.outbox .pong
    simp only [Session.handle, sessionWork, upWork, downWork, payload] at hoffer ⊢
    omega
  | getPeers =>
    have hoffer := sum_offer_le session.outbox (.peerList peers)
    simp only [Session.handle, sessionWork, upWork, downWork, payload] at hoffer ⊢
    omega
  | streamOpen id target =>
    rw [Session.handle]
    split_ifs
    · have hdrop := hdropped id
      simp only [Session.openStream, sessionWork, upWork, payload, List.map_append, List.sum_append,
        List.map_singleton, List.sum_singleton]
      have hstart : streamWork (.start id target session.received.length) = 0 := rfl
      omega
    · have hoffer := sum_offer_le session.outbox
        (.streamClose id (some "http proxy not allowed for this peer"))
      simp only [sessionWork, upWork, downWork, payload] at hoffer ⊢
      omega
  | streamData id data =>
    have hpush := sum_modifyStream_le session id fun stream ↦ streamWork_push_le stream data
    simp only [Session.handle, sessionWork, upWork, payload]
    omega
  | streamClose id error =>
    have hdrop := hdropped id
    simp only [Session.handle, Session.dropStream, sessionWork, upWork, payload]
    omega
  | _ =>
    simp only [Session.handle, upWork]
    omega

end Session

/-! ### The link -/

namespace ProxyLink

variable {link next : ProxyLink}

/-- A step of a link's tasks costs more than it causes. -/
theorem work_lt {action : LinkAction} (hinternal : action.Internal = true)
    (hstep : link.step action = some next) : next.work < link.work := by
  unfold work
  cases action with
  | client action =>
    obtain ⟨-, client, hclient, rfl⟩ := step_client hstep
    exact Nat.add_lt_add_right (clientWork_lt hinternal hclient) _
  | sessionSend =>
    obtain ⟨session, hsession, rfl⟩ := step_sessionSend hstep
    obtain ⟨frame, rest, hrecv, rfl⟩ := Session.step_send hsession
    have houtbox := sum_recv hrecv fun frame ↦ downWork frame + 1
    simp only [sessionWork, List.map_append, List.sum_append, List.map_singleton,
      List.sum_singleton]
    omega
  | remote place action =>
    obtain ⟨session, hsession, rfl⟩ := step_linkRemote hstep
    obtain ⟨stream, streamNext, frame, outbox, hstream, htaken, hput, rfl⟩ :=
      Session.step_remote hsession
    have hcost := streamWork_lt (by simpa [LinkAction.Internal] using hinternal)
      (RemoteStream.stepped_of_step htaken)
    have hremotes := sum_map_set streamWork hstream streamNext
    simp only [sessionWork, (Channel.put_eq_some hput).1, List.map_append, List.sum_append]
    simp only [framesWork] at hcost
    omega
  | toServer peers =>
    obtain ⟨frame, rest, session, hwire, hsession, rfl⟩ := step_toServer hstep
    have hcost : sessionWork session < sessionWork link.session + upWork frame :=
      (Session.step_receive hsession).2 ▸ sessionWork_handle_lt _ peers frame
    simp only [clientWork, hwire, List.map_cons, List.sum_cons]
    omega
  | toClient =>
    obtain ⟨frame, rest, hwire, hreader, rfl⟩ := step_toClient hstep
    have hcost := clientWork_demux_lt hreader frame
    simp only [sessionWork, hwire, List.map_cons, List.sum_cons]
    omega
  | deliver packet => cases hinternal

/-- There are no more internal steps in a row than the price of the link says. -/
theorem internal_length_le {actions : List LinkAction} {final : ProxyLink}
    (hinternal : ∀ action ∈ actions, action.Internal = true)
    (hrun : run ProxyLink.step link actions = some final) :
    actions.length + final.work ≤ link.work :=
  run_length_le (fun _ _ _ hpaid hstep ↦ work_lt hpaid hstep) hinternal hrun

end ProxyLink

end EntroTunnel.Link
