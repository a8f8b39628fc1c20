import EntroTunnel.Client.HttpMode
import Mathlib.Data.Set.Basic

/-!
# Stalled local consumers

What the reader loop of `run_http_mode` can do while the sockets of some local connections take
nothing. It hands a message to the queue of its handler with an awaiting `send`, and a handler that
writes to its socket takes nothing from the queue. `Work` are the steps of the tasks that are left,
and `Blocked` is the state in which they do not help: the reader loop hands a message to a full
queue whose handler cannot get past its socket.

`reader_proceeds_iff` says that the tasks bring the reader loop back to the link in every reachable
state but these, and `blocked_of_run` that it never comes back from them while the link holds.
-/

set_option autoImplicit false
set_option relaxedAutoImplicit false

namespace EntroTunnel.Client

open EntroTunnel.Core EntroTunnel.Foundation

/-- The step needs the socket to take bytes, or to fail. -/
def LocalAction.writesSocket : LocalAction → Bool
  | .greet _ | .deliver _ | .greetFailed | .deliverFailed => true
  | _ => false

/-- Whether the handler writes to its socket before it takes from its queue again, over a link whose
writer loop runs or not: a handler whose frame is refused writes nothing. -/
def LocalConn.awaitsSocket (writing : Bool) (conn : LocalConn) : Bool :=
  match conn.phase with
  | .opening _ _ => conn.isConnect && writing
  | .greeting rest | .delivering rest => rest ≠ []
  | _ => false

/-- A connection whose queue is full and is not going to be taken from before a write. -/
structure LocalConn.Stuck (writing : Bool) (conn : LocalConn) : Prop where
  receiver : conn.inbox.hasReceiver = true
  full : conn.inbox.items.length = localCapacity
  awaits : conn.awaitsSocket writing = true

namespace HttpMode

/-- The steps of the tasks over a link that holds, where the sockets in `stalled` take nothing. -/
def Work (stalled : Set ℕ) : HttpAction → Prop
  | .client (.conn index action) =>
    action.External = false ∧ (index ∈ stalled → action.writesSocket = false)
  | .client .send | .client .hand | .client .pong => True
  | .emitFailed _ _ | .pongFailed => True
  | _ => False

/-- The steps of everybody over a link that holds, where the sockets in `stalled` take nothing. -/
def Around (stalled : Set ℕ) : HttpAction → Prop
  | .client (.conn index action) => index ∈ stalled → action.writesSocket = false
  | .writerFailed | .readerFailed => False
  | .writerCancelled | .readerCancelled | .writerAborted | .readerAborted => False
  | _ => True

/-- The reader loop hands a message to a connection in `stalled` that is stuck. -/
def Blocked (stalled : Set ℕ) (mode : HttpMode) : Prop :=
  ∃ index msg conn, mode.client.reader = .handing index msg ∧ index ∈ stalled ∧
    mode.client.conns[index]? = some conn ∧ conn.Stuck mode.writing

/-- The reader loop is back at the link. -/
def AtLink (mode : HttpMode) : Prop :=
  mode.client.reader = .idle

theorem around_of_work {stalled : Set ℕ} {action : HttpAction} (hwork : Work stalled action) :
    Around stalled action := by
  cases action with
  | client action =>
    cases action with
    | conn index action => exact hwork.2
    | _ => exact trivial
  | cancel | emitFailed | pongFailed | mainCancelled => exact trivial
  | _ => exact hwork

end HttpMode

/-! ### Stuck connections stay stuck -/

namespace LocalConn

variable {writing : Bool} {conn later : LocalConn} {action : LocalAction} {effect : LocalEffect}

theorem Stuck.dropSender (hstuck : conn.Stuck writing) : conn.dropSender.Stuck writing :=
  ⟨hstuck.receiver, hstuck.full, hstuck.awaits⟩

theorem Stuck.step (hstuck : conn.Stuck writing) (hstep : conn.Stepped action later effect)
    (hsocket : action.writesSocket = false) : later.Stuck writing := by
  obtain ⟨hreceiver, hfull, hawaits⟩ := hstuck
  have hphase := hawaits
  unfold awaitsSocket at hphase
  cases hstep with
  | openStream target forward hopening =>
    rw [hopening] at hphase
    rw [Bool.and_eq_true] at hphase
    rw [opened, if_pos hphase.1]
    exact ⟨hreceiver, hfull, by simp [awaitsSocket]; decide⟩
  | greet | deliver | greetFailed | deliverFailed => cases hsocket
  | read _ _ hother | readEof _ hother | readFailed _ hother | greeted hother
  | forwardHead _ hother | take _ _ hother | takeClose _ hother | endOfInput hother
  | delivered hother =>
    rw [hother] at hphase
    simp at hphase
  | _ => exact ⟨hreceiver, hfull, hawaits⟩

/-- A frame that is refused takes nothing from the queue either. -/
theorem Stuck.refusedFrame {frame : Frame} (hstuck : conn.Stuck false)
    (hstep : conn.Stepped action later (.emit frame)) : (conn.refusedFrame action).Stuck false := by
  obtain ⟨hreceiver, hfull, hawaits⟩ := hstuck
  have hphase := hawaits
  unfold awaitsSocket at hphase
  generalize heffect : LocalEffect.emit frame = effect at hstep
  cases hstep with
  | openStream target forward hother | forwardHead data hother =>
    rw [hother] at hphase
    simp at hphase
  | upSend | upClose => exact ⟨hreceiver, hfull, hawaits⟩
  | read count buf =>
    cases hhead : headStep buf (conn.inbound.take count) <;> simp [parsed, hhead] at heffect
  | _ => cases heffect

end LocalConn

/-! ### A blocked reader loop stays blocked -/

namespace ProxyClient

variable {client next : ProxyClient} {index place : ℕ} {conn : LocalConn}

/-- The effect of a step of one connection on another: the table may drop its sender. -/
theorem conn_of_apply {id : StreamId} {effect : LocalEffect}
    (happly : client.apply id index effect = some next) (hconn : client.conns[place]? = some conn) :
    next.conns[place]? = some conn ∨ next.conns[place]? = some conn.dropSender := by
  have hentry : (client.dropEntry id)[place]? = some conn ∨
      (client.dropEntry id)[place]? = some conn.dropSender := by
    rw [getElem?_dropEntry, hconn]
    split_ifs
    · exact Or.inr rfl
    · exact Or.inl rfl
  cases effect with
  | none =>
    cases happly
    exact Or.inl hconn
  | register | unregister =>
    cases happly
    exact hentry
  | emit frame =>
    obtain ⟨out, -, rfl⟩ := Option.map_eq_some_iff.mp happly
    exact Or.inl hconn

end ProxyClient

namespace HttpMode

variable {stalled : Set ℕ} {mode next : HttpMode} {action : HttpAction}

theorem Blocked.client (hblocked : Blocked stalled mode) {action : ClientAction}
    {client : ProxyClient} (haround : Around stalled (.client action))
    (hstep : mode.client.step action = some client) :
    Blocked stalled { mode with client } := by
  obtain ⟨index, msg, conn, hreader, hindex, hconn, hstuck⟩ := hblocked
  cases action with
  | accept =>
    cases hstep
    obtain ⟨hlt, -⟩ := List.getElem?_eq_some_iff.mp hconn
    exact ⟨index, msg, conn, hreader, hindex, (List.getElem?_append_left hlt).trans hconn, hstuck⟩
  | keepalive =>
    cases hstep
    exact ⟨index, msg, conn, hreader, hindex, hconn, hstuck⟩
  | getPeers | lanPacket =>
    obtain ⟨out, -, rfl⟩ := Option.map_eq_some_iff.mp hstep
    exact ⟨index, msg, conn, hreader, hindex, hconn, hstuck⟩
  | send =>
    obtain ⟨frame, rest, -, rfl⟩ := ProxyClient.step_send hstep
    exact ⟨index, msg, conn, hreader, hindex, hconn, hstuck⟩
  | receive frame =>
    have hidle := (ProxyClient.step_clientReceive hstep).1
    rw [hreader] at hidle
    cases hidle
  | pong =>
    have hponging := (ProxyClient.step_pong hstep).1
    rw [hreader] at hponging
    cases hponging
  | hand =>
    obtain ⟨place, _, other, hhanding, hother, hhanded⟩ := ProxyClient.step_hand hstep
    obtain ⟨rfl, rfl⟩ := ReaderPhase.handing.inj (hreader.symm.trans hhanding)
    obtain rfl := Option.some.inj (hconn.symm.trans hother)
    rcases hhanded with ⟨inbox, hsend, -⟩ | ⟨hreceiver, -⟩
    · have hroom := (Channel.trySend_eq_some hsend).2.1
      rw [hstuck.full] at hroom
      exact absurd hroom (Nat.lt_irrefl _)
    · exact absurd (hstuck.receiver.symm.trans hreceiver) (by simp)
  | conn place action =>
    obtain ⟨other, later, effect, hother, hotherStep, happly⟩ := ProxyClient.step_conn hstep
    have hput : ∃ after, (mode.client.put place later).conns[index]? = some after ∧
        after.Stuck mode.writing := by
      by_cases hplace : place = index
      · subst hplace
        obtain rfl := Option.some.inj (hconn.symm.trans hother)
        obtain ⟨hlt, -⟩ := List.getElem?_eq_some_iff.mp hconn
        exact ⟨later, List.getElem?_set_self hlt, hstuck.step hotherStep (haround hindex)⟩
      · exact ⟨conn, (List.getElem?_set_ne hplace).trans hconn, hstuck⟩
    obtain ⟨after, hafter, hstuckAfter⟩ := hput
    have hkept := (ProxyClient.apply_keeps happly).1
    rcases ProxyClient.conn_of_apply happly hafter with hsame | hdropped
    · exact ⟨index, msg, after, hkept.trans hreader, hindex, hsame, hstuckAfter⟩
    · exact ⟨index, msg, after.dropSender, hkept.trans hreader, hindex, hdropped,
        hstuckAfter.dropSender⟩

theorem Blocked.step (hblocked : Blocked stalled mode) (hwired : Wired mode)
    (haround : Around stalled action) (hstep : Stepped mode action next) :
    Blocked stalled next := by
  cases hstep with
  | cancel => exact hblocked
  | mainCancelled => exact hblocked
  | client action client hruns hstep => exact hblocked.client haround hstep
  | pongFailed hponging =>
    obtain ⟨index, msg, conn, hreader, -⟩ := hblocked
    rw [hponging] at hreader
    cases hreader
  | writerEnded action haction =>
    rcases haction with rfl | ⟨rfl, -⟩ | ⟨rfl, -⟩ <;> exact absurd haround id
  | readerEnded action haction =>
    rcases haction with ⟨rfl | ⟨rfl, -⟩, -⟩ | ⟨rfl, -⟩ <;> exact absurd haround id
  | emitFailed place action other later frame hreceiver hother hotherStep =>
    obtain ⟨index, msg, conn, hreader, hindex, hconn, hstuck⟩ := hblocked
    have hwriting : mode.writing = false := hwired.out.symm.trans hreceiver
    by_cases hplace : place = index
    · subst hplace
      obtain rfl := Option.some.inj (hconn.symm.trans hother)
      obtain ⟨hlt, -⟩ := List.getElem?_eq_some_iff.mp hconn
      rw [hwriting] at hstuck
      exact ⟨place, msg, _, hreader, hindex, List.getElem?_set_self hlt,
        hwriting ▸ hstuck.refusedFrame hotherStep⟩
    · exact ⟨index, msg, conn, hreader, hindex, (List.getElem?_set_ne hplace).trans hconn, hstuck⟩

theorem Blocked.not_atLink (hblocked : Blocked stalled mode) : ¬ AtLink mode := by
  obtain ⟨index, msg, conn, hreader, -⟩ := hblocked
  intro hidle
  rw [AtLink, hreader] at hidle
  cases hidle

/-- A blocked reader loop stays so in every run over a link that holds, whatever else arrives or is
accepted, as long as the sockets in `stalled` take nothing. -/
theorem blocked_of_run {actions : List HttpAction} (hwired : Wired mode)
    (hblocked : Blocked stalled mode) (haround : ∀ action ∈ actions, Around stalled action)
    (hrun : run step mode actions = some next) : Blocked stalled next := by
  refine (kept_of_run (fun mode ↦ Wired mode ∧ Blocked stalled mode) ?_ haround hrun
    ⟨hwired, hblocked⟩).2
  rintro state action after ⟨hwired, hblocked⟩ haround hstep
  exact ⟨hwired.step (stepped_of_step hstep),
    hblocked.step hwired haround (stepped_of_step hstep)⟩

/-! ### Elsewhere the tasks bring it back -/

/-- The tasks can bring the reader loop back to the link. -/
def Returns (stalled : Set ℕ) (mode : HttpMode) : Prop :=
  CanReach step (Work stalled) AtLink mode

/-- The reader loop runs and hands a message to a connection. -/
structure Handing (mode : HttpMode) (index : ℕ) (msg : ToLocal) (conn : LocalConn) : Prop where
  reading : mode.reading = true
  out : mode.client.out.hasReceiver = mode.writing
  reader : mode.client.reader = .handing index msg
  conn : mode.client.conns[index]? = some conn

section Returning

variable {index : ℕ} {msg : ToLocal} {conn later : LocalConn}

/-- The step of the connection that it is handed to. -/
theorem Handing.conn_step (hhanding : Handing mode index msg conn) {action : LocalAction}
    {effect : LocalEffect} {client : ProxyClient} (hended : action ≠ .endOfInput)
    (hstep : conn.step action = some (later, effect))
    (happly : (mode.client.put index later).apply conn.id index effect = some client) :
    mode.step (.client (.conn index action)) = some { mode with client } ∧
      ∃ after, (after = later ∨ after = later.dropSender) ∧
        Handing { mode with client } index msg after := by
  have hclient : mode.client.step (.conn index action) = some client := by
    simp only [ProxyClient.step, hhanding.conn, hstep, hended, false_and, if_false]
    exact happly
  obtain ⟨hlt, -⟩ := List.getElem?_eq_some_iff.mp hhanding.conn
  obtain ⟨hreader, hout⟩ := ProxyClient.apply_keeps happly
  refine ⟨step_client rfl hclient, ?_⟩
  rcases ProxyClient.conn_of_apply happly (List.getElem?_set_self hlt) with hsame | hdropped
  · exact ⟨later, Or.inl rfl, hhanding.reading, hout.trans hhanding.out,
      hreader.trans hhanding.reader, hsame⟩
  · exact ⟨_, Or.inr rfl, hhanding.reading, hout.trans hhanding.out,
      hreader.trans hhanding.reader, hdropped⟩

/-- The connection takes a step that leaves the rest of the client as it is. -/
theorem returns_of_conn_step (hhanding : Handing mode index msg conn) {action : LocalAction}
    (hended : action ≠ .endOfInput) (hinternal : action.External = false)
    (hsocket : index ∈ stalled → action.writesSocket = false)
    (hstep : conn.step action = some (later, .none))
    (hlater : ∀ next, Handing next index msg later → Returns stalled next) :
    Returns stalled mode := by
  obtain ⟨hlt, -⟩ := List.getElem?_eq_some_iff.mp hhanding.conn
  obtain ⟨hnext, -⟩ := hhanding.conn_step hended hstep rfl
  have hafter : Handing { mode with client := mode.client.put index later } index msg later :=
    ⟨hhanding.reading, hhanding.out, hhanding.reader, List.getElem?_set_self hlt⟩
  exact (hlater _ hafter).of_step hnext ⟨hinternal, hsocket⟩

/-- The message is handed over to a queue with room, or dropped. -/
theorem returns_of_room (hhanding : Handing mode index msg conn)
    (hroom : conn.inbox.hasReceiver = true → conn.inbox.items.length < localCapacity) :
    Returns stalled mode := by
  have hhand : ∃ client, mode.client.step .hand = some client ∧ client.reader = .idle := by
    simp only [ProxyClient.step, hhanding.reader, hhanding.conn]
    split_ifs with hreceiver
    · obtain ⟨inbox, hsend⟩ := Channel.exists_trySend hreceiver (hroom hreceiver) msg
      rw [hsend]
      exact ⟨_, rfl, rfl⟩
    · exact ⟨_, rfl, rfl⟩
  obtain ⟨client, hclient, hidle⟩ := hhand
  have hstep : mode.step (.client .hand) = some { mode with client } :=
    step_client hhanding.reading hclient
  have hgoal : Returns stalled { mode with client } := canReach_of_goal hidle
  exact hgoal.of_step hstep trivial

/-- A handler that waits takes a message from its queue. -/
theorem returns_of_waiting (hhanding : Handing mode index msg conn)
    (hphase : conn.phase = .waiting) : Returns stalled mode := by
  by_cases hitems : conn.inbox.items = []
  · refine returns_of_room hhanding fun _ ↦ ?_
    rw [hitems]
    exact Nat.zero_lt_succ _
  obtain ⟨item, rest, hrecv⟩ := Channel.exists_recv hitems
  have hlength : rest.items.length < localCapacity := by
    have hle := conn.inbox.length_le
    rw [(Channel.recv_eq_item hrecv).1, List.length_cons] at hle
    exact hle
  cases item with
  | data bytes =>
    have htake : conn.step .take =
        some ({ conn with phase := .delivering bytes, inbox := rest }, .none) := by
      simp only [LocalConn.step, hphase, hrecv]
    exact returns_of_conn_step hhanding (by simp) rfl (fun _ ↦ rfl) htake
      fun next hafter ↦ returns_of_room hafter fun _ ↦ hlength
  | close =>
    have htake : conn.step .takeClose = some (conn.finish, .unregister) := by
      simp only [LocalConn.step, hphase, hrecv]
    obtain ⟨hnext, after, hafter, hhandingAfter⟩ := hhanding.conn_step (by simp) htake rfl
    refine (returns_of_room hhandingAfter fun hreceiver ↦ ?_).of_step hnext ⟨rfl, fun _ ↦ rfl⟩
    rcases hafter with rfl | rfl <;> cases hreceiver

/-- A handler that writes its bytes to the application goes on when they are written. -/
theorem returns_of_writing (writing : Bytes → LocalPhase) (write : ℕ → LocalAction) {rest : Bytes}
    (hhanding : Handing mode index msg conn) (hphase : conn.phase = writing rest)
    (hfree : index ∈ stalled → rest = []) (hended : ∀ count, write count ≠ .endOfInput)
    (hinternal : ∀ count, (write count).External = false)
    (hwrite : ∀ count, 0 < count → count ≤ rest.length → conn.step (write count) =
      some ({ conn with
        phase := writing (rest.drop count)
        output := conn.output ++ rest.take count }, .none))
    (hwritten : ∀ {mode : HttpMode} {conn : LocalConn}, Handing mode index msg conn →
      conn.phase = writing [] → Returns stalled mode) : Returns stalled mode := by
  by_cases hrest : rest = []
  · exact hwritten hhanding (hrest ▸ hphase)
  · refine returns_of_conn_step hhanding (hended _) (hinternal _)
      (fun hindex ↦ absurd (hfree hindex) hrest)
      (hwrite rest.length (List.length_pos_of_ne_nil hrest) (Nat.le_refl _)) fun next hafter ↦ ?_
    exact hwritten hafter (by rw [List.drop_length])

/-- A handler that delivers bytes waits again when they are written. -/
theorem returns_of_delivering {rest : Bytes} (hhanding : Handing mode index msg conn)
    (hphase : conn.phase = .delivering rest) (hfree : index ∈ stalled → rest = []) :
    Returns stalled mode := by
  refine returns_of_writing .delivering .deliver hhanding hphase hfree
    (fun _ ↦ LocalAction.noConfusion) (fun _ ↦ rfl) (fun count hpos hle ↦ ?_)
    fun {mode conn} hhanding hphase ↦ ?_
  · simp only [LocalConn.step, hphase]
    exact if_pos ⟨hpos, hle⟩
  · have hstep : conn.step .delivered = some ({ conn with phase := .waiting }, .none) :=
      if_pos hphase
    exact returns_of_conn_step hhanding (by simp) rfl (fun _ ↦ rfl) hstep
      fun next hafter ↦ returns_of_waiting hafter rfl

/-- A handler that answers `CONNECT` goes on when its answer is written. -/
theorem returns_of_greeting {rest : Bytes} (hhanding : Handing mode index msg conn)
    (hphase : conn.phase = .greeting rest) (hfree : index ∈ stalled → rest = []) :
    Returns stalled mode := by
  refine returns_of_writing .greeting .greet hhanding hphase hfree
    (fun _ ↦ LocalAction.noConfusion) (fun _ ↦ rfl) (fun count hpos hle ↦ ?_)
    fun {mode conn} hhanding hphase ↦ ?_
  · simp only [LocalConn.step, hphase]
    exact if_pos ⟨hpos, hle⟩
  · have hstep : conn.step .greeted = some (conn.serve, .none) := if_pos hphase
    exact returns_of_conn_step hhanding (by simp) rfl (fun _ ↦ rfl) hstep
      fun next hafter ↦ returns_of_waiting hafter rfl

/-- The writer loop makes room in the queue of frames where there is none. -/
theorem returns_with_room (hout : mode.client.out.hasReceiver = mode.writing)
    (hwriting : mode.writing = true)
    (hroomed : ∀ client, client.conns = mode.client.conns → client.reader = mode.client.reader →
      client.out.hasReceiver = mode.writing → client.out.items.length < outCapacity →
        Returns stalled { mode with client }) : Returns stalled mode := by
  by_cases hroom : mode.client.out.items.length < outCapacity
  · exact hroomed mode.client rfl rfl hout hroom
  · have hitems : mode.client.out.items ≠ [] := by
      intro hnil
      rw [hnil] at hroom
      exact hroom (Nat.zero_lt_succ _)
    obtain ⟨frame, rest, hrecv⟩ := Channel.exists_recv hitems
    obtain ⟨hqueue, -, hreceiver⟩ := Channel.recv_eq_item hrecv
    have hsend : mode.client.step .send =
        some { mode.client with out := rest, wire := mode.client.wire ++ [frame] } := by
      simp only [ProxyClient.step, hrecv]
    have hfree : rest.items.length < outCapacity := by
      have hle := mode.client.out.length_le
      rw [hqueue, List.length_cons] at hle
      exact hle
    have hstep : mode.step (.client .send) = some { mode with
        client := { mode.client with out := rest, wire := mode.client.wire ++ [frame] } } :=
      step_client hwriting hsend
    exact (hroomed { mode.client with out := rest, wire := mode.client.wire ++ [frame] } rfl rfl
      (hreceiver.trans hout) hfree).of_step hstep trivial

/-- A handler that queues a frame goes on when the frame is queued, and gives up when it is refused.
-/
theorem returns_of_emit {action : LocalAction} {frame : Frame}
    (haction : action = .openStream ∨ action = .forwardHead)
    (hhanding : Handing mode index msg conn) (hstep : conn.step action = some (later, .emit frame))
    (hlater : mode.writing = true → ∀ next after, Handing next index msg after →
      after = later ∨ after = later.dropSender → Returns stalled next) : Returns stalled mode := by
  have hended : action ≠ .endOfInput := by rcases haction with rfl | rfl <;> simp
  have hinternal : action.External = false := by rcases haction with rfl | rfl <;> rfl
  have hsocket : action.writesSocket = false := by rcases haction with rfl | rfl <;> rfl
  by_cases hwriting : mode.writing = true
  · refine returns_with_room hhanding.out hwriting fun client hconns hreader hout hroom ↦ ?_
    have hroomed : Handing { mode with client } index msg conn :=
      ⟨hhanding.reading, hout, hreader.trans hhanding.reader, hconns ▸ hhanding.conn⟩
    obtain ⟨out, hsend⟩ := Channel.exists_trySend (hout.trans hwriting) hroom frame
    have happly : (client.put index later).apply conn.id index (.emit frame) =
        some { client.put index later with out } := by
      simp only [ProxyClient.apply, ProxyClient.put, hsend, Option.map_some]
    obtain ⟨hnext, after, hafter, hhandingAfter⟩ := hroomed.conn_step hended hstep happly
    exact (hlater hwriting _ after hhandingAfter hafter).of_step hnext ⟨hinternal, fun _ ↦ hsocket⟩
  · have hreceiver : mode.client.out.hasReceiver = false :=
      hhanding.out.trans (Bool.eq_false_iff.mpr hwriting)
    have hrefused : mode.step (.emitFailed index action) = some
        { mode with client := mode.client.put index (conn.refusedFrame action) } := by
      rw [HttpMode.step, hreceiver, if_neg Bool.false_ne_true]
      simp only [refuseFrame, hhanding.conn, hstep]
    obtain ⟨hlt, -⟩ := List.getElem?_eq_some_iff.mp hhanding.conn
    have hhandingAfter : Handing
        { mode with client := mode.client.put index (conn.refusedFrame action) } index msg
        (conn.refusedFrame action) :=
      ⟨hhanding.reading, hhanding.out, hhanding.reader, List.getElem?_set_self hlt⟩
    refine (returns_of_room hhandingAfter fun h ↦ ?_).of_step hrefused trivial
    rcases haction with rfl | rfl <;> cases h

theorem returns_of_forwarding {data : Bytes} (hhanding : Handing mode index msg conn)
    (hphase : conn.phase = .forwarding data) : Returns stalled mode := by
  have hforward : conn.step .forwardHead =
      some (conn.serve, .emit (.streamData conn.id data)) := by
    simp only [LocalConn.step, hphase]
  refine returns_of_emit (Or.inr rfl) hhanding hforward fun _ next after hafter hlater ↦ ?_
  exact returns_of_waiting hafter (by rcases hlater with rfl | rfl <;> rfl)

theorem returns_of_opening {target : TargetAddr} {forward : Bytes}
    (hhanding : Handing mode index msg conn) (hphase : conn.phase = .opening target forward)
    (hfree : index ∈ stalled → conn.awaitsSocket mode.writing = false) : Returns stalled mode := by
  have hopen : conn.step .openStream =
      some (conn.opened forward, .emit (.streamOpen conn.id target)) := by
    simp only [LocalConn.step, hphase]
  refine returns_of_emit (Or.inl rfl) hhanding hopen fun hwriting next after hafter hlater ↦ ?_
  unfold LocalConn.opened at hlater
  split_ifs at hlater with hconnect hforward
  · have hgreeting : after.phase = .greeting established := by rcases hlater with rfl | rfl <;> rfl
    refine returns_of_greeting hafter hgreeting fun hindex ↦ ?_
    have hawaits := hfree hindex
    rw [LocalConn.awaitsSocket, hphase, hwriting, hconnect] at hawaits
    cases hawaits
  · have hforwarding : after.phase = .forwarding forward := by
      rcases hlater with rfl | rfl <;> rfl
    exact returns_of_forwarding hafter hforwarding
  · exact returns_of_waiting hafter (by rcases hlater with rfl | rfl <;> rfl)

end Returning

/-- The reader loop answers a `Ping` through the queue of frames, which the writer loop empties. -/
theorem returns_of_ponging (hwired : Wired mode) (hreading : mode.reading = true)
    (hponging : mode.client.reader = .ponging) : Returns stalled mode := by
  by_cases hwriting : mode.writing = true
  · refine returns_with_room hwired.out hwriting fun client _ hreader hout hroom ↦ ?_
    obtain ⟨out, hsend⟩ := Channel.exists_trySend (hout.trans hwriting) hroom .pong
    have hpong : client.step .pong = some { client with out, reader := .idle } := by
      simp only [ProxyClient.step, hreader.trans hponging, hsend, if_true, Option.map_some]
    have hstep : HttpMode.step { mode with client } (.client .pong) =
        some { mode with client := { client with out, reader := .idle } } :=
      step_client hreading hpong
    have hgoal : Returns stalled { mode with client := { client with out, reader := .idle } } :=
      canReach_of_goal rfl
    exact hgoal.of_step hstep trivial
  · have hreceiver : mode.client.out.hasReceiver = false :=
      hwired.out.trans (Bool.eq_false_iff.mpr hwriting)
    have hstep : mode.step .pongFailed =
        some { mode with client := { mode.client with reader := .idle } } := by
      rw [step, if_pos ⟨hponging, hreceiver⟩]
    have hgoal : Returns stalled { mode with client := { mode.client with reader := .idle } } :=
      canReach_of_goal rfl
    exact hgoal.of_step hstep trivial

/-- Where the reader loop is not blocked, the tasks bring it back to the link. -/
theorem returns_of_not_blocked (hwired : Wired mode) (hreading : mode.reading = true)
    (hblocked : ¬ Blocked stalled mode) : Returns stalled mode := by
  cases hreader : mode.client.reader with
  | idle => exact canReach_of_goal hreader
  | ponging => exact returns_of_ponging hwired hreading hreader
  | handing index msg =>
    obtain ⟨conn, hconn, hentered⟩ := hwired.client.target index (by rw [hreader]; rfl)
    have hhanding : Handing mode index msg conn := ⟨hreading, hwired.out, hreader, hconn⟩
    by_cases hroom : conn.inbox.hasReceiver = true → conn.inbox.items.length < localCapacity
    · exact returns_of_room hhanding hroom
    obtain ⟨hreceiver, hfull⟩ := Classical.not_imp.mp hroom
    have hholding : conn.holding = true :=
      (hwired.client.receiver index conn hconn).symm.trans hreceiver
    have hfree (hindex : index ∈ stalled) : conn.awaitsSocket mode.writing = false := by
      refine Bool.eq_false_iff.mpr fun hawaits ↦ hblocked ?_
      exact ⟨index, msg, conn, hreader, hindex, hconn, hreceiver,
        Nat.le_antisymm conn.inbox.length_le (Nat.le_of_not_lt hfull), hawaits⟩
    have hwritten {rest : Bytes} (hwrites : conn.phase = .greeting rest ∨
        conn.phase = .delivering rest) (hindex : index ∈ stalled) : rest = [] := by
      have hawaits := hfree hindex
      unfold LocalConn.awaitsSocket at hawaits
      rcases hwrites with hphase | hphase <;> rw [hphase] at hawaits <;> simpa using hawaits
    cases hphase : conn.phase with
    | parsing | refused =>
      rw [LocalConn.entered, hphase] at hentered
      cases hentered
    | done | abandoned =>
      rw [LocalConn.holding, hphase] at hholding
      cases hholding
    | opening target forward => exact returns_of_opening hhanding hphase hfree
    | greeting rest => exact returns_of_greeting hhanding hphase (hwritten (Or.inl hphase))
    | forwarding data => exact returns_of_forwarding hhanding hphase
    | waiting => exact returns_of_waiting hhanding hphase
    | delivering rest => exact returns_of_delivering hhanding hphase (hwritten (Or.inr hphase))

/-- Where the reader loop is blocked, they do not. -/
theorem not_returns_of_blocked (hwired : Wired mode) (hblocked : Blocked stalled mode) :
    ¬ Returns stalled mode := by
  rintro ⟨actions, final, hwork, hrun, hlink⟩
  exact (blocked_of_run hwired hblocked (fun action hmem ↦ around_of_work (hwork action hmem))
    hrun).not_atLink hlink

/-- In every reachable state in which the reader loop runs, and for every set of local connections
whose sockets take nothing: the tasks bring the reader loop back to the link if and only if it is
not handing a message to a full queue of such a connection whose handler is at a write, or will be
before it takes from the queue. -/
theorem reader_proceeds_iff {actions : List HttpAction} (stalled : Set ℕ)
    (hrun : run step .start actions = some mode) (hreading : mode.reading = true) :
    CanReach step (Work stalled) AtLink mode ↔ ¬ Blocked stalled mode := by
  have hwired := wired_of_run hrun
  constructor
  · exact fun hreturns hblocked ↦ not_returns_of_blocked hwired hblocked hreturns
  · exact returns_of_not_blocked hwired hreading

section Example

/-- A request head that is forwarded as it is. -/
def plainHead : Bytes := "GET http://h/ HTTP/1.1\r\n\r\n".toUTF8.data.toList

/-- An application sends a request and takes nothing of the response: the handler is at its first
write when 256 more frames of the stream fill its queue, and one more arrives. -/
def backlogRun : List HttpAction :=
  [.client .accept, .client (.conn 0 (.localSends plainHead)), .client (.conn 0 (.read 26)),
    .client (.conn 0 .openStream), .client (.conn 0 .forwardHead),
    .client (.receive (.streamData 1 [7])), .client .hand, .client (.conn 0 .take)] ++
  (List.replicate localCapacity
    [.client (.receive (.streamData 1 [7])), .client .hand]).flatten ++
  [.client (.receive (.streamData 1 [7]))]

/-- The reader loop hands the last frame to the full queue. -/
theorem blocked_of_backlog : ∃ mode, run step .start backlogRun = some mode ∧
    mode.reading = true ∧ Blocked {0} mode ∧ ¬ Blocked ∅ mode := by
  obtain ⟨mode, hrun, hstate⟩ := Option.any_eq_true _ _ |>.mp (by decide +kernel :
    (run step .start backlogRun).any fun mode ↦
      mode.reading ∧ mode.client.reader = .handing 0 (.data [7]) ∧
        mode.client.conns[0]?.any fun conn ↦ conn.inbox.hasReceiver ∧
          conn.inbox.items.length = localCapacity ∧ conn.awaitsSocket mode.writing)
  rw [decide_eq_true_iff] at hstate
  obtain ⟨hreading, hreader, hconn⟩ := hstate
  obtain ⟨conn, hget, hstuck⟩ := Option.any_eq_true _ _ |>.mp hconn
  rw [decide_eq_true_iff] at hstuck
  refine ⟨mode, hrun, hreading, ⟨0, _, conn, hreader, rfl, hget, hstuck.1, hstuck.2.1, hstuck.2.2⟩,
    ?_⟩
  rintro ⟨_, _, _, _, hnot, -⟩
  exact hnot

/-- The same backlog in front of a consumer that takes it, and one that does not. -/
theorem reader_proceeds_iff_backlog : ∃ mode, run step .start backlogRun = some mode ∧
    CanReach step (Work ∅) AtLink mode ∧ ¬ CanReach step (Work {0}) AtLink mode := by
  obtain ⟨mode, hrun, hreading, hblocked, hfree⟩ := blocked_of_backlog
  exact ⟨mode, hrun, (reader_proceeds_iff ∅ hrun hreading).mpr hfree,
    fun h ↦ (reader_proceeds_iff {0} hrun hreading).mp h hblocked⟩

/-- One stalled consumer stops the reader loop for every stream. -/
theorem stalled_consumer_blocks :
    ¬ ∀ (stalled : Set ℕ) (actions : List HttpAction) (mode : HttpMode),
      run step .start actions = some mode → mode.reading = true →
        CanReach step (Work stalled) AtLink mode := by
  intro hclaim
  obtain ⟨mode, hrun, hreading, hblocked, -⟩ := blocked_of_backlog
  exact not_returns_of_blocked (wired_of_run hrun) hblocked (hclaim {0} _ mode hrun hreading)

end Example

end HttpMode

end EntroTunnel.Client
