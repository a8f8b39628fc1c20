import EntroTunnel.Client.LocalConn
import Mathlib.Data.List.AList

/-!
# The client of an HTTP-proxy link

`run_http_mode` of `client-core/src/proxy.rs`: the accept loop, the local connections, the queue of
outgoing frames with the writer loop that drains it, and the reader loop that demultiplexes the
server's frames. `streams` is the `StreamMap`; it holds the sender of a handler's queue, by the
position of the connection in `conns`. The reader loop waits for room in a handler's queue, so a
full one delays every stream of the link. `wire` holds what was written to the link and not yet
received by the server. Keepalives, peer polling and LAN packets use the same queue.
-/

set_option autoImplicit false
set_option relaxedAutoImplicit false

namespace EntroTunnel.Client

open EntroTunnel.Core EntroTunnel.Foundation

/-- Capacity of the queue of outgoing frames. -/
def outCapacity : ℕ := 1024

/-- Where the reader loop is. -/
inductive ReaderPhase
  | idle
  | handing (index : ℕ) (msg : ToLocal)
  | ponging
  deriving DecidableEq, Repr

/-- The connection whose sender the reader loop holds. -/
def ReaderPhase.target : ReaderPhase → Option ℕ
  | .handing index _ => some index
  | _ => none

/-- The client of a link. -/
structure ProxyClient where
  conns : List LocalConn
  nextId : StreamId
  streams : AList fun _ : StreamId ↦ ℕ
  out : Channel Frame outCapacity
  wire : List Frame
  reader : ReaderPhase
  deriving DecidableEq

/-- A step of the client. -/
inductive ClientAction
  | accept
  | conn (index : ℕ) (action : LocalAction)
  | send
  | keepalive
  | getPeers
  | lanPacket (bytes : Bytes)
  | receive (frame : Frame)
  | hand
  | pong
  deriving DecidableEq, Repr

/-- Drop the table's sender of a handler's queue. -/
def LocalConn.dropSender (conn : LocalConn) : LocalConn :=
  { conn with inbox := conn.inbox.dropSender }

/-- The handler's queue after a message; with `Close` the reader loop gives up its sender. -/
def LocalConn.received (conn : LocalConn) (msg : ToLocal)
    (inbox : Channel ToLocal localCapacity) : LocalConn :=
  match msg with
  | .data _ => { conn with inbox }
  | .close => { conn with inbox := inbox.dropSender }

namespace ProxyClient

/-- A client that has accepted no connection; ids start at 1. -/
def start : ProxyClient where
  conns := []
  nextId := 1
  streams := ∅
  out := Channel.empty
  wire := []
  reader := .idle

/-- The connections after the table's sender for an id was dropped. -/
def dropEntry (client : ProxyClient) (id : StreamId) : List LocalConn :=
  match client.streams.lookup id with
  | some index => client.conns.modify index LocalConn.dropSender
  | none => client.conns

/-- Put a connection in its place. -/
def put (client : ProxyClient) (index : ℕ) (conn : LocalConn) : ProxyClient :=
  { client with conns := client.conns.set index conn }

/-- The effect of a step of a local connection; a frame waits for room in the queue. -/
def apply (client : ProxyClient) (id : StreamId) (index : ℕ) : LocalEffect → Option ProxyClient
  | .none => some client
  | .register =>
    some { client with conns := client.dropEntry id, streams := client.streams.insert id index }
  | .unregister =>
    some { client with conns := client.dropEntry id, streams := client.streams.erase id }
  | .emit frame => (client.out.trySend frame).map fun out ↦ { client with out }

/-- One frame of the reader loop. -/
def demux (client : ProxyClient) : Frame → ProxyClient
  | .streamData id data =>
    match client.streams.lookup id with
    | some index => { client with reader := .handing index (.data data) }
    | none => client
  | .streamClose id _ =>
    match client.streams.lookup id with
    | some index =>
      { client with reader := .handing index .close, streams := client.streams.erase id }
    | none => client
  | .ping => { client with reader := .ponging }
  | _ => client

/-- One step. -/
def step (client : ProxyClient) : ClientAction → Option ProxyClient
  | .accept =>
    some { client with
      conns := client.conns ++ [.start client.nextId]
      nextId := client.nextId + 1 }
  | .conn index action =>
    match client.conns[index]? with
    | some conn =>
      -- The queue has not ended as long as the reader loop holds a sender.
      if action = .endOfInput ∧ client.reader.target = some index then none
      else
        match conn.step action with
        | some (next, effect) => (client.put index next).apply conn.id index effect
        | none => none
    | none => none
  | .send =>
    match client.out.recv with
    | .item frame rest => some { client with out := rest, wire := client.wire ++ [frame] }
    | _ => none
  | .keepalive => some { client with wire := client.wire ++ [.ping] }
  | .getPeers => (client.out.trySend .getPeers).map fun out ↦ { client with out }
  | .lanPacket bytes => (client.out.trySend (.packet bytes)).map fun out ↦ { client with out }
  | .receive frame => if client.reader = .idle then some (client.demux frame) else none
  | .hand =>
    match client.reader with
    | .handing index msg =>
      match client.conns[index]? with
      | some conn =>
        if conn.inbox.hasReceiver then
          (conn.inbox.trySend msg).map fun inbox ↦
            { client.put index (conn.received msg inbox) with reader := .idle }
        else some { client with reader := .idle }
      | none => none
    | _ => none
  | .pong =>
    if client.reader = .ponging then
      (client.out.trySend .pong).map fun out ↦ { client with out, reader := .idle }
    else none

/-! ### What a step changes -/

section Steps

variable {client next : ProxyClient} {index : ℕ}

theorem step_conn {action : LocalAction} (hstep : client.step (.conn index action) = some next) :
    ∃ conn connNext effect, client.conns[index]? = some conn ∧
      conn.Stepped action connNext effect ∧
        (client.put index connNext).apply conn.id index effect = some next := by
  simp only [step] at hstep
  split at hstep
  · rename_i conn hconn
    split_ifs at hstep
    split at hstep
    · rename_i connNext effect hconnStep
      exact ⟨conn, connNext, effect, hconn, LocalConn.stepped_of_step hconnStep, hstep⟩
    · exact absurd hstep nofun
  · exact absurd hstep nofun

theorem step_send (hstep : client.step .send = some next) :
    ∃ frame rest, client.out.recv = .item frame rest ∧
      next = { client with out := rest, wire := client.wire ++ [frame] } := by
  simp only [step] at hstep
  split at hstep
  · rename_i frame rest hrecv
    exact ⟨frame, rest, hrecv, (Option.some.inj hstep).symm⟩
  · exact absurd hstep nofun

theorem step_hand (hstep : client.step .hand = some next) :
    ∃ index msg conn, client.reader = .handing index msg ∧ client.conns[index]? = some conn ∧
      ((∃ inbox, conn.inbox.trySend msg = some inbox ∧
          next = { client.put index (conn.received msg inbox) with reader := .idle }) ∨
        (conn.inbox.hasReceiver = false ∧ next = { client with reader := .idle })) := by
  simp only [step] at hstep
  split at hstep
  · rename_i index msg hreader
    split at hstep
    · rename_i conn hconn
      split_ifs at hstep with hreceiver
      · obtain ⟨inbox, hsend, rfl⟩ := Option.map_eq_some_iff.mp hstep
        exact ⟨index, msg, conn, hreader, hconn, .inl ⟨inbox, hsend, rfl⟩⟩
      · exact ⟨index, msg, conn, hreader, hconn,
          .inr ⟨Bool.eq_false_iff.mpr hreceiver, (Option.some.inj hstep).symm⟩⟩
    · exact absurd hstep nofun
  · exact absurd hstep nofun

theorem step_pong (hstep : client.step .pong = some next) :
    client.reader = .ponging ∧ ∃ out, client.out.trySend .pong = some out ∧
      next = { client with out, reader := .idle } := by
  simp only [step] at hstep
  split_ifs at hstep with hreader
  obtain ⟨out, hsend, rfl⟩ := Option.map_eq_some_iff.mp hstep
  exact ⟨hreader, out, hsend, rfl⟩

theorem step_clientReceive {frame : Frame} (hstep : client.step (.receive frame) = some next) :
    client.reader = .idle ∧ next = client.demux frame := by
  simp only [step] at hstep
  split_ifs at hstep with hreader
  exact ⟨hreader, (Option.some.inj hstep).symm⟩

/-- The connections after the table's sender for an id was dropped, place by place. -/
theorem getElem?_dropEntry (client : ProxyClient) (id : StreamId) (index : ℕ) :
    (client.dropEntry id)[index]? =
      if client.streams.lookup id = some index then
        client.conns[index]?.map LocalConn.dropSender
      else client.conns[index]? := by
  unfold dropEntry
  cases hlookup : client.streams.lookup id with
  | none => rfl
  | some place =>
    rw [List.getElem?_modify]
    by_cases hplace : place = index
    · rw [if_pos (congrArg some hplace)]
      simp [hplace]
    · rw [if_neg (fun h ↦ hplace (Option.some.inj h))]
      simp [hplace]

end Steps

end ProxyClient

end EntroTunnel.Client
