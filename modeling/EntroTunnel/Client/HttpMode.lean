import EntroTunnel.Foundation.Places
import EntroTunnel.Foundation.Reach
import EntroTunnel.Client.PacketSession
import EntroTunnel.Client.ProxyClient

/-!
# The HTTP mode over a link that fails

`run_http_mode` of `client-core/src/proxy.rs` with the ends of its tasks: either link task returns
when the link fails under it or when it sees the token, the accept loop when it sees the token, and
it aborts the link tasks then. The writer loop takes the queue of outgoing frames with it, so a
frame is refused from then on (`emitFailed`, `pongFailed`), where `ProxyClient` only delays it. The
handlers are not aborted: each holds the `StreamMap` and runs until it returns by itself.

`Wired` is what every run keeps of the tasks, the queues and the `StreamMap`. `session_of_step`
relates the mode to the phases of a session.
-/

set_option autoImplicit false
set_option relaxedAutoImplicit false

namespace EntroTunnel.Client

open EntroTunnel.Core EntroTunnel.Foundation

/-! ### Model -/

namespace LocalConn

/-- A task of the connection after a frame of it was refused: the handler gives up and stays in the
table, the uplink task leaves its loop. -/
def refusedFrame (conn : LocalConn) : LocalAction → LocalConn
  | .upSend => { conn with uplink := .closing }
  | .upClose => { conn with uplink := .finished }
  | _ => { conn with phase := .abandoned, inbox := conn.inbox.dropReceiver }

/-- The handler has parsed a request head. -/
def entered (conn : LocalConn) : Bool :=
  match conn.phase with
  | .parsing _ | .refused => false
  | _ => true

/-- The handler has not returned after it entered the table. -/
def holding (conn : LocalConn) : Bool :=
  match conn.phase with
  | .done | .abandoned => false
  | _ => true

/-- Both tasks are over, and the socket is closed with them. -/
def closed (conn : LocalConn) : Bool :=
  match conn.phase with
  | .refused | .done | .abandoned => true
  | _ => false

end LocalConn

/-- The client of a link, whether its writer loop, its reader loop and its accept loop run, and the
token. -/
structure HttpMode where
  client : ProxyClient
  writing : Bool
  reading : Bool
  serving : Bool
  cancelled : Bool
  deriving DecidableEq

/-- A step of the client, the user's cancellation, a refused frame, or the end of a task. -/
inductive HttpAction
  | cancel
  | client (action : ClientAction)
  | emitFailed (index : ℕ) (action : LocalAction)
  | pongFailed
  | writerFailed
  | readerFailed
  | writerCancelled
  | readerCancelled
  | mainCancelled
  | writerAborted
  | readerAborted
  deriving DecidableEq, Repr

namespace HttpMode

/-- The tasks are spawned. -/
def start : HttpMode where
  client := .start
  writing := true
  reading := true
  serving := true
  cancelled := false

/-- The task that a step of the client belongs to is there. -/
def runs (mode : HttpMode) : ClientAction → Bool
  | .accept => mode.serving
  | .send | .keepalive => mode.writing
  | .receive _ | .hand | .pong => mode.reading
  | .conn _ _ | .getPeers | .lanPacket _ => true

/-- The writer loop is over. -/
def endWriter (mode : HttpMode) : HttpMode :=
  { mode with
    writing := false
    client := { mode.client with out := mode.client.out.dropReceiver } }

/-- The reader loop is over, with the sender it may have taken out of the table. -/
def endReader (mode : HttpMode) : HttpMode :=
  { mode with
    reading := false
    client := { mode.client with
      reader := .idle
      conns :=
        match mode.client.reader with
        | .handing index .close => mode.client.conns.modify index LocalConn.dropSender
        | _ => mode.client.conns } }

/-- A frame of a connection is refused. -/
def refuseFrame (mode : HttpMode) (index : ℕ) (action : LocalAction) : Option HttpMode :=
  match mode.client.conns[index]? with
  | some conn =>
    match conn.step action with
    | some (_, .emit _) =>
      some { mode with client := mode.client.put index (conn.refusedFrame action) }
    | _ => none
  | none => none

/-- One step. -/
def step (mode : HttpMode) : HttpAction → Option HttpMode
  | .cancel => some { mode with cancelled := true }
  | .client action =>
    if mode.runs action then (mode.client.step action).map fun client ↦ { mode with client }
    else none
  | .emitFailed index action =>
    if mode.client.out.hasReceiver then none else mode.refuseFrame index action
  | .pongFailed =>
    if mode.client.reader = .ponging ∧ mode.client.out.hasReceiver = false then
      some { mode with client := { mode.client with reader := .idle } }
    else none
  | .writerFailed => if mode.writing then some mode.endWriter else none
  | .readerFailed =>
    if mode.reading ∧ mode.client.reader = .idle then some mode.endReader else none
  | .writerCancelled => if mode.writing ∧ mode.cancelled then some mode.endWriter else none
  -- Only the `select!` of the reader loop looks at the token, not an await inside its arms.
  | .readerCancelled =>
    if mode.reading ∧ mode.client.reader = .idle ∧ mode.cancelled then some mode.endReader else none
  | .mainCancelled =>
    if mode.serving ∧ mode.cancelled then some { mode with serving := false } else none
  | .writerAborted => if mode.writing ∧ mode.serving = false then some mode.endWriter else none
  | .readerAborted => if mode.reading ∧ mode.serving = false then some mode.endReader else none

/-! ### Steps -/

variable {mode next : HttpMode} {action : HttpAction}

/-- A step of the client is a step of the mode while its task runs. -/
theorem step_client {action : ClientAction} {client : ProxyClient} (hruns : mode.runs action = true)
    (hclient : mode.client.step action = some client) :
    mode.step (.client action) = some { mode with client } := by
  rw [step, if_pos hruns, hclient]
  rfl

/-- What a step can do. -/
inductive Stepped (mode : HttpMode) : HttpAction → HttpMode → Prop
  | cancel : Stepped mode .cancel { mode with cancelled := true }
  | client (action : ClientAction) (client : ProxyClient) (hruns : mode.runs action = true)
      (hstep : mode.client.step action = some client) :
      Stepped mode (.client action) { mode with client }
  | emitFailed (index : ℕ) (action : LocalAction) (conn connNext : LocalConn) (frame : Frame)
      (hreceiver : mode.client.out.hasReceiver = false)
      (hconn : mode.client.conns[index]? = some conn)
      (hstep : conn.Stepped action connNext (.emit frame)) :
      Stepped mode (.emitFailed index action)
        { mode with client := mode.client.put index (conn.refusedFrame action) }
  | pongFailed (hponging : mode.client.reader = .ponging)
      (hreceiver : mode.client.out.hasReceiver = false) :
      Stepped mode .pongFailed { mode with client := { mode.client with reader := .idle } }
  | writerEnded (action : HttpAction)
      (haction : action = .writerFailed ∨ action = .writerCancelled ∧ mode.cancelled = true ∨
        action = .writerAborted ∧ mode.serving = false)
      (hwriting : mode.writing = true) : Stepped mode action mode.endWriter
  | readerEnded (action : HttpAction)
      (haction : (action = .readerFailed ∨ action = .readerCancelled ∧ mode.cancelled = true) ∧
          mode.client.reader = .idle ∨
        action = .readerAborted ∧ mode.serving = false)
      (hreading : mode.reading = true) : Stepped mode action mode.endReader
  | mainCancelled (hserving : mode.serving = true) (hcancelled : mode.cancelled = true) :
      Stepped mode .mainCancelled { mode with serving := false }

theorem stepped_of_step (hstep : mode.step action = some next) : Stepped mode action next := by
  cases action <;> rw [step] at hstep
  case cancel =>
    cases hstep
    exact .cancel
  case client action =>
    split_ifs at hstep with hruns
    obtain ⟨client, hclient, rfl⟩ := Option.map_eq_some_iff.mp hstep
    exact .client action client hruns hclient
  case emitFailed index action =>
    split_ifs at hstep with hreceiver
    unfold refuseFrame at hstep
    split at hstep
    · rename_i conn hconn
      split at hstep <;> cases hstep
      rename_i connNext frame hconnStep
      exact .emitFailed index action conn connNext frame (Bool.eq_false_iff.mpr hreceiver) hconn
        (LocalConn.stepped_of_step hconnStep)
    · cases hstep
  case pongFailed =>
    split_ifs at hstep with h
    cases hstep
    exact .pongFailed h.1 h.2
  case writerFailed =>
    split_ifs at hstep with h
    cases hstep
    exact .writerEnded _ (Or.inl rfl) h
  case readerFailed =>
    split_ifs at hstep with h
    cases hstep
    exact .readerEnded _ (Or.inl ⟨Or.inl rfl, h.2⟩) h.1
  case writerCancelled =>
    split_ifs at hstep with h
    cases hstep
    exact .writerEnded _ (Or.inr (Or.inl ⟨rfl, h.2⟩)) h.1
  case readerCancelled =>
    split_ifs at hstep with h
    cases hstep
    exact .readerEnded _ (Or.inl ⟨Or.inr ⟨rfl, h.2.2⟩, h.2.1⟩) h.1
  case mainCancelled =>
    split_ifs at hstep with h
    cases hstep
    exact .mainCancelled h.1 h.2
  case writerAborted =>
    split_ifs at hstep with h
    cases hstep
    exact .writerEnded _ (Or.inr (Or.inr ⟨rfl, h.2⟩)) h.1
  case readerAborted =>
    split_ifs at hstep with h
    cases hstep
    exact .readerEnded _ (Or.inr ⟨rfl, h.2⟩) h.1

end HttpMode

/-! ### How a connection evolves -/

namespace LocalConn

/-- What holds between a connection and the same connection later, unless it enters the table in
between. -/
structure Evolved (conn later : LocalConn) : Prop where
  id : later.id = conn.id
  entered : later.entered = conn.entered
  receiver : conn.inbox.hasReceiver = conn.holding → later.inbox.hasReceiver = later.holding
  receives : later.inbox.hasReceiver = true → conn.inbox.hasReceiver = true
  sends : later.inbox.hasSender = true → conn.inbox.hasSender = true

variable {conn later last : LocalConn} {action : LocalAction} {effect : LocalEffect}

theorem Evolved.refl (conn : LocalConn) : conn.Evolved conn :=
  ⟨rfl, rfl, fun h ↦ h, fun h ↦ h, fun h ↦ h⟩

theorem Evolved.trans (hfirst : conn.Evolved later) (hsecond : later.Evolved last) :
    conn.Evolved last where
  id := hsecond.id.trans hfirst.id
  entered := hsecond.entered.trans hfirst.entered
  receiver h := hsecond.receiver (hfirst.receiver h)
  receives h := hfirst.receives (hsecond.receives h)
  sends h := hfirst.sends (hsecond.sends h)

theorem evolved_dropSender (conn : LocalConn) : conn.Evolved conn.dropSender :=
  ⟨rfl, rfl, fun h ↦ h, fun h ↦ h, fun h ↦ absurd h Bool.false_ne_true⟩

theorem evolved_received {msg : ToLocal} {inbox : Channel ToLocal localCapacity}
    (hsend : conn.inbox.trySend msg = some inbox) : conn.Evolved (conn.received msg inbox) := by
  obtain ⟨-, -, -, hsender, hreceiver⟩ := Channel.trySend_eq_some hsend
  cases msg with
  | data bytes =>
    exact ⟨rfl, rfl, fun h ↦ hreceiver.trans h, fun h ↦ hreceiver.symm.trans h,
      fun h ↦ hsender.symm.trans h⟩
  | close =>
    exact ⟨rfl, rfl, fun h ↦ hreceiver.trans h, fun h ↦ hreceiver.symm.trans h,
      fun h ↦ absurd h Bool.false_ne_true⟩

/-- A step changes neither the id nor the ends of the queue of a handler that goes on. -/
theorem evolved_of_phase (hid : later.id = conn.id) (hinbox : later.inbox.hasReceiver =
      conn.inbox.hasReceiver ∧ later.inbox.hasSender = conn.inbox.hasSender)
    (hentered : later.entered = conn.entered) (hholding : later.holding = conn.holding) :
    conn.Evolved later where
  id := hid
  entered := hentered
  receiver h := hinbox.1.trans (h.trans hholding.symm)
  receives h := hinbox.1.symm.trans h
  sends h := hinbox.2.symm.trans h

/-- The steps with which a handler enters the table. -/
theorem entered_of_register (hstep : conn.Stepped action later .register) :
    later.id = conn.id ∧ later.entered = true ∧ later.holding = true ∧
      later.inbox = conn.inbox ∧ conn.entered = false ∧ conn.holding = true := by
  generalize heffect : LocalEffect.register = effect at hstep
  cases hstep with
  | read count buf hphase hcount =>
    unfold entered holding
    rw [hphase]
    cases hhead : headStep buf (conn.inbound.take count) with
    | more => simp [parsed, hhead] at heffect
    | done => exact ⟨rfl, rfl, rfl, rfl, rfl, rfl⟩
    | failed => simp [parsed, hhead] at heffect
  | _ => cases heffect

/-- A handler that is over has dropped its receiver. -/
theorem evolved_finish (hphase : conn.entered = true) : conn.Evolved conn.finish :=
  ⟨rfl, hphase.symm, fun _ ↦ rfl, fun h ↦ absurd h Bool.false_ne_true,
    fun h ↦ absurd h Bool.false_ne_true⟩

theorem evolved_of_stepped (hstep : conn.Stepped action later effect)
    (heffect : effect ≠ .register) : conn.Evolved later := by
  cases hstep with
  | read count buf hphase hcount =>
    cases hhead : headStep buf (conn.inbound.take count) with
    | more =>
      refine evolved_of_phase rfl ⟨rfl, rfl⟩ ?_ ?_
      · simp [entered, parsed, hphase]
      · simp [holding, parsed, hphase]
    | done =>
      rw [hhead] at heffect
      exact absurd rfl heffect
    | failed =>
      refine evolved_of_phase rfl ⟨rfl, rfl⟩ ?_ ?_
      · simp [entered, parsed, hphase]
      · simp [holding, parsed, hphase]
  | openStream target forward hphase =>
    unfold opened serve
    split_ifs <;>
      exact evolved_of_phase rfl ⟨rfl, rfl⟩ (by simp [entered, hphase]) (by simp [holding, hphase])
  | take data rest hphase hrecv =>
    obtain ⟨-, hsender, hreceiver⟩ := Channel.recv_eq_item hrecv
    exact evolved_of_phase rfl ⟨hreceiver, hsender⟩ (by simp [entered, hphase])
      (by simp [holding, hphase])
  | takeClose rest hphase | endOfInput hphase =>
    exact evolved_finish (by simp [entered, hphase])
  | deliverFailed byte rest hphase =>
    have hfinish : conn.Evolved conn.finish := evolved_finish (by simp [entered, hphase])
    exact ⟨rfl, hfinish.entered, hfinish.receiver, hfinish.receives, hfinish.sends⟩
  | greetFailed byte rest hphase =>
    exact ⟨rfl, by simp [entered, hphase], fun _ ↦ rfl, fun h ↦ absurd h Bool.false_ne_true,
      fun h ↦ h⟩
  | readEof buf hphase | readFailed buf hphase | greet count rest hphase | greeted hphase
  | forwardHead data hphase | deliver count rest hphase | delivered hphase =>
    exact evolved_of_phase rfl ⟨rfl, rfl⟩ (by simp [entered, serve, hphase])
      (by simp [holding, serve, hphase])
  | _ => exact evolved_of_phase rfl ⟨rfl, rfl⟩ rfl rfl

/-- A handler whose frame is refused gives up its receiver. -/
theorem evolved_refusedFrame {frame : Frame} (hstep : conn.Stepped action later (.emit frame)) :
    conn.Evolved (conn.refusedFrame action) := by
  generalize heffect : LocalEffect.emit frame = effect at hstep
  cases hstep with
  | openStream target forward hphase | forwardHead data hphase =>
    exact ⟨rfl, by simp [entered, refusedFrame, hphase], fun _ ↦ rfl,
      fun h ↦ absurd h Bool.false_ne_true, fun h ↦ h⟩
  | upSend | upClose => exact evolved_of_phase rfl ⟨rfl, rfl⟩ rfl rfl
  | read count buf =>
    cases hhead : headStep buf (conn.inbound.take count) <;> simp [parsed, hhead] at heffect
  | _ => cases heffect

/-- Every connection evolves, in its place. -/
structure AllEvolved (before after : List LocalConn) : Prop where
  length : after.length = before.length
  evolved : ∀ (index : ℕ) (later : LocalConn), after[index]? = some later →
    ∃ conn, before[index]? = some conn ∧ conn.Evolved later

namespace AllEvolved

variable {before after : List LocalConn} {index : ℕ}

theorem refl (conns : List LocalConn) : AllEvolved conns conns :=
  ⟨rfl, fun _ later hlater ↦ ⟨later, hlater, .refl later⟩⟩

theorem trans {middle : List LocalConn} (hfirst : AllEvolved before middle)
    (hsecond : AllEvolved middle after) : AllEvolved before after := by
  refine ⟨hsecond.length.trans hfirst.length, fun index last hlast ↦ ?_⟩
  obtain ⟨later, hlater, hevolved⟩ := hsecond.evolved index last hlast
  obtain ⟨conn, hconn, hearlier⟩ := hfirst.evolved index later hlater
  exact ⟨conn, hconn, hearlier.trans hevolved⟩

/-- One connection evolves. -/
theorem set (hconn : before[index]? = some conn) (hevolved : conn.Evolved later) :
    AllEvolved before (before.set index later) := by
  refine ⟨List.length_set, fun place other hother ↦ ?_⟩
  rw [getElem?_set_of_eq_some hconn] at hother
  split_ifs at hother with hplace
  · subst hplace
    obtain rfl := Option.some.inj hother
    exact ⟨conn, hconn, hevolved⟩
  · exact ⟨other, hother, .refl other⟩

/-- The table drops its sender of one connection. -/
theorem modify (conns : List LocalConn) (index : ℕ) :
    AllEvolved conns (conns.modify index LocalConn.dropSender) := by
  refine ⟨List.length_modify .., fun place later hlater ↦ ?_⟩
  rw [List.getElem?_modify] at hlater
  obtain ⟨conn, hconn, rfl⟩ := Option.map_eq_some_iff.mp hlater
  refine ⟨conn, hconn, ?_⟩
  split_ifs
  · exact evolved_dropSender conn
  · exact .refl conn

/-- A connection is still there. -/
theorem exists_later (hall : AllEvolved before after) (hconn : before[index]? = some conn) :
    ∃ later, after[index]? = some later ∧ conn.Evolved later := by
  obtain ⟨hlt, -⟩ := List.getElem?_eq_some_iff.mp hconn
  rw [← hall.length] at hlt
  obtain ⟨first, hfirst, hevolved⟩ := hall.evolved index _ (List.getElem?_eq_getElem hlt)
  obtain rfl := Option.some.inj (hconn.symm.trans hfirst)
  exact ⟨_, List.getElem?_eq_getElem hlt, hevolved⟩

end AllEvolved

end LocalConn

/-! ### What every run keeps -/

namespace ProxyClient

/-- The table and the reader loop hold senders of connections that have entered the table, a
connection has its receiver until its handler returns, and a handler that can still be sent to has
its sender in the table or with the reader loop, which is about to close it. -/
structure Wired (client : ProxyClient) : Prop where
  table : ∀ id index, client.streams.lookup id = some index →
    ∃ conn, client.conns[index]? = some conn ∧ conn.entered = true
  target : ∀ index, client.reader.target = some index →
    ∃ conn, client.conns[index]? = some conn ∧ conn.entered = true
  receiver : ∀ (index : ℕ) (conn : LocalConn), client.conns[index]? = some conn →
    conn.inbox.hasReceiver = conn.holding
  sender : ∀ (index : ℕ) (conn : LocalConn), client.conns[index]? = some conn →
    conn.entered = true → conn.inbox.hasReceiver = true → conn.inbox.hasSender = true →
      client.streams.lookup conn.id = some index ∨ client.reader = .handing index .close

theorem Wired.start : Wired .start where
  table _ _ hlookup := by cases hlookup
  target _ htarget := by cases htarget
  receiver _ _ hconn := by cases hconn
  sender _ _ hconn := by cases hconn

variable {client next : ProxyClient}

/-- What keeps a client wired: its connections evolve, the table and the reader loop hold no sender
that was not in the table, and who loses the sender of a connection drops it. -/
theorem Wired.of_evolved (hwired : Wired client)
    (hall : LocalConn.AllEvolved client.conns next.conns)
    (htable : ∀ id index, next.streams.lookup id = some index →
      client.streams.lookup id = some index)
    (htarget : ∀ index, next.reader.target = some index → client.reader.target = some index ∨
      ∃ id, client.streams.lookup id = some index)
    (hsender : ∀ (index : ℕ) (later : LocalConn), next.conns[index]? = some later →
      later.inbox.hasReceiver = true → later.inbox.hasSender = true →
        client.streams.lookup later.id = some index ∨ client.reader = .handing index .close →
          next.streams.lookup later.id = some index ∨ next.reader = .handing index .close) :
    Wired next := by
  have hentered {index : ℕ} (hexists : ∃ conn, client.conns[index]? = some conn ∧
      conn.entered = true) : ∃ conn, next.conns[index]? = some conn ∧ conn.entered = true := by
    obtain ⟨conn, hconn, hentered⟩ := hexists
    obtain ⟨later, hlater, hevolved⟩ := hall.exists_later hconn
    exact ⟨later, hlater, hevolved.entered.trans hentered⟩
  refine ⟨fun id index hlookup ↦ ?_, fun index hindex ↦ ?_, fun index later hlater ↦ ?_,
    fun index later hlater hin hreceives hsends ↦ ?_⟩
  · exact hentered (hwired.table id index (htable id index hlookup))
  · rcases htarget index hindex with hold | ⟨id, hlookup⟩
    · exact hentered (hwired.target index hold)
    · exact hentered (hwired.table id index hlookup)
  · obtain ⟨conn, hconn, hevolved⟩ := hall.evolved index later hlater
    exact hevolved.receiver (hwired.receiver index conn hconn)
  · obtain ⟨conn, hconn, hevolved⟩ := hall.evolved index later hlater
    refine hsender index later hlater hreceives hsends ?_
    rw [hevolved.id]
    exact hwired.sender index conn hconn (hevolved.entered.symm.trans hin)
      (hevolved.receives hreceives) (hevolved.sends hsends)

/-- Nothing but the connections changes. -/
theorem Wired.of_conns (hwired : Wired client)
    (hall : LocalConn.AllEvolved client.conns next.conns) (hstreams : next.streams = client.streams)
    (hreader : next.reader = client.reader) : Wired next := by
  refine hwired.of_evolved hall (fun id index hlookup ↦ hstreams ▸ hlookup)
    (fun index hindex ↦ Or.inl (hreader ▸ hindex)) fun index later _ _ _ hheld ↦ ?_
  rw [hstreams, hreader]
  exact hheld

/-- The table drops its sender for an id. -/
theorem allEvolved_dropEntry (client : ProxyClient) (id : StreamId) :
    LocalConn.AllEvolved client.conns (client.dropEntry id) := by
  unfold dropEntry
  split
  · exact .modify _ _
  · exact .refl _

/-- A connection that the table loses has lost its sender. -/
theorem hasSender_dropEntry {id : StreamId} {index : ℕ} {later : LocalConn}
    (hlater : (client.dropEntry id)[index]? = some later)
    (hlookup : client.streams.lookup id = some index) : later.inbox.hasSender = false := by
  rw [getElem?_dropEntry, if_pos hlookup] at hlater
  obtain ⟨conn, -, rfl⟩ := Option.map_eq_some_iff.mp hlater
  rfl

theorem Wired.unregister (hwired : Wired client) (id : StreamId) :
    Wired { client with conns := client.dropEntry id, streams := client.streams.erase id } := by
  refine hwired.of_evolved (allEvolved_dropEntry client id) (fun other index hlookup ↦ ?_)
    (fun index hindex ↦ Or.inl hindex) fun index later hlater _ hsends hheld ↦ ?_
  · by_cases hother : other = id
    · rw [hother, AList.lookup_erase] at hlookup
      cases hlookup
    · exact (AList.lookup_erase_ne hother).symm.trans hlookup
  · refine hheld.imp (fun hlookup ↦ ?_) fun h ↦ h
    by_cases hother : later.id = id
    · rw [hother] at hlookup
      rw [hasSender_dropEntry hlater hlookup] at hsends
      cases hsends
    · exact (AList.lookup_erase_ne hother).trans hlookup

/-- A handler enters the table, and takes the place of an earlier one with its id. -/
theorem Wired.register (hwired : Wired client) {index : ℕ} {conn later : LocalConn}
    {action : LocalAction} (hconn : client.conns[index]? = some conn)
    (hstep : conn.Stepped action later .register) :
    Wired { client.put index later with
      conns := (client.put index later).dropEntry conn.id
      streams := client.streams.insert conn.id index } := by
  obtain ⟨hid, hentered, hholding, hinbox, hnew, hheld⟩ := LocalConn.entered_of_register hstep
  obtain ⟨hlt, -⟩ := List.getElem?_eq_some_iff.mp hconn
  -- a connection that the table or the reader loop knows is another one
  have hother {place : ℕ} (hplace : ∃ other, client.conns[place]? = some other ∧
      other.entered = true) : index ≠ place ∧
      ∃ other, ((client.put index later).dropEntry conn.id)[place]? = some other ∧
        other.entered = true := by
    obtain ⟨other, hget, hin⟩ := hplace
    have hne : index ≠ place := by
      rintro rfl
      obtain rfl := Option.some.inj (hconn.symm.trans hget)
      exact Bool.false_ne_true (hnew.symm.trans hin)
    have hput : (client.put index later).conns[place]? = some other :=
      (List.getElem?_set_ne hne).trans hget
    obtain ⟨after, hafter, hevolved⟩ :=
      (allEvolved_dropEntry (client.put index later) conn.id).exists_later hput
    exact ⟨hne, after, hafter, hevolved.entered.trans hin⟩
  refine ⟨fun id place hlookup ↦ ?_, fun place hplace ↦ (hother (hwired.target place hplace)).2,
    fun place after hafter ↦ ?_, fun place after hafter hin hreceives hsends ↦ ?_⟩
  · by_cases hsame : id = conn.id
    · subst hsame
      rw [AList.lookup_insert] at hlookup
      obtain rfl := Option.some.inj hlookup
      have hput : (client.put index later).conns[index]? = some later := List.getElem?_set_self hlt
      obtain ⟨after, hafter, hevolved⟩ :=
        (allEvolved_dropEntry (client.put index later) conn.id).exists_later hput
      exact ⟨after, hafter, hevolved.entered.trans hentered⟩
    · rw [AList.lookup_insert_ne hsame] at hlookup
      exact (hother (hwired.table id place hlookup)).2
  · obtain ⟨before, hbefore, hevolved⟩ :=
      (allEvolved_dropEntry (client.put index later) conn.id).evolved place after hafter
    refine hevolved.receiver ?_
    by_cases hplace : index = place
    · subst hplace
      obtain rfl := Option.some.inj ((List.getElem?_set_self hlt).symm.trans hbefore)
      rw [hinbox, hholding, hwired.receiver index conn hconn, hheld]
    · exact hwired.receiver place before ((List.getElem?_set_ne hplace).symm.trans hbefore)
  · obtain ⟨before, hbefore, hevolved⟩ :=
      (allEvolved_dropEntry (client.put index later) conn.id).evolved place after hafter
    by_cases hplace : index = place
    · subst hplace
      obtain rfl := Option.some.inj ((List.getElem?_set_self hlt).symm.trans hbefore)
      rw [hevolved.id, hid]
      exact Or.inl (AList.lookup_insert _)
    · have hget : client.conns[place]? = some before :=
        (List.getElem?_set_ne hplace).symm.trans hbefore
      refine (hwired.sender place before hget (hevolved.entered.symm.trans hin)
        (hevolved.receives hreceives) (hevolved.sends hsends)).imp (fun hlookup ↦ ?_) fun h ↦ h
      rw [hevolved.id]
      by_cases hsame : before.id = conn.id
      · rw [hsame] at hlookup
        have hlost : after.inbox.hasSender = false := hasSender_dropEntry hafter hlookup
        rw [hlost] at hsends
        cases hsends
      · rw [AList.lookup_insert_ne hsame]
        exact hlookup

/-- A connection is accepted. -/
theorem Wired.accept (hwired : Wired client) (id : StreamId) :
    Wired { client with conns := client.conns ++ [.start id], nextId := client.nextId + 1 } := by
  have hentered {index : ℕ} (hexists : ∃ conn, client.conns[index]? = some conn ∧
      conn.entered = true) :
      ∃ conn, (client.conns ++ [.start id])[index]? = some conn ∧ conn.entered = true := by
    obtain ⟨conn, hconn, hin⟩ := hexists
    exact ⟨conn, getElem?_concat_eq_some.mpr (.inl hconn), hin⟩
  refine ⟨fun other index hlookup ↦ hentered (hwired.table other index hlookup),
    fun index htarget ↦ hentered (hwired.target index htarget), fun index conn hconn ↦ ?_,
    fun index conn hconn hin ↦ ?_⟩
  · obtain hold | ⟨-, rfl⟩ := getElem?_concat_eq_some.mp hconn
    · exact hwired.receiver index conn hold
    · rfl
  · obtain hold | ⟨-, rfl⟩ := getElem?_concat_eq_some.mp hconn
    · exact hwired.sender index conn hold hin
    · cases hin

theorem Wired.conn (hwired : Wired client) {index : ℕ} {action : LocalAction}
    (hstep : client.step (.conn index action) = some next) : Wired next := by
  obtain ⟨conn, later, effect, hconn, hconnStep, happly⟩ := step_conn hstep
  cases effect with
  | register =>
    cases happly
    exact hwired.register hconn hconnStep
  | none =>
    cases happly
    exact hwired.of_conns (.set hconn (LocalConn.evolved_of_stepped hconnStep (by simp))) rfl rfl
  | unregister =>
    cases happly
    have hput : Wired (client.put index later) :=
      hwired.of_conns (.set hconn (LocalConn.evolved_of_stepped hconnStep (by simp))) rfl rfl
    exact hput.unregister conn.id
  | emit frame =>
    obtain ⟨out, -, rfl⟩ := Option.map_eq_some_iff.mp happly
    exact hwired.of_conns (.set hconn (LocalConn.evolved_of_stepped hconnStep (by simp))) rfl rfl

/-- The reader loop takes a sender from the table, with a `StreamClose` out of it. -/
theorem Wired.demux (hwired : Wired client) (hidle : client.reader = .idle) (frame : Frame) :
    Wired (client.demux frame) := by
  have hclosing {index : ℕ} (hheld : client.reader = .handing index .close) : False := by
    rw [hidle] at hheld
    cases hheld
  unfold ProxyClient.demux
  split
  · rename_i id data
    split
    · rename_i index hlookup
      refine hwired.of_evolved (.refl _) (fun _ _ h ↦ h) (fun place hplace ↦ ?_)
        fun _ _ _ _ _ hheld ↦ Or.inl (hheld.resolve_right hclosing)
      obtain rfl := Option.some.inj hplace
      exact Or.inr ⟨id, hlookup⟩
    · exact hwired
  · rename_i id error
    split
    · rename_i index hlookup
      refine hwired.of_evolved (.refl _) (fun other place h ↦ ?_) (fun place hplace ↦ ?_)
        fun place later _ _ _ hheld ↦ ?_
      · by_cases hother : other = id
        · rw [hother, AList.lookup_erase] at h
          cases h
        · exact (AList.lookup_erase_ne hother).symm.trans h
      · obtain rfl := Option.some.inj hplace
        exact Or.inr ⟨id, hlookup⟩
      · have hold := hheld.resolve_right hclosing
        by_cases hother : later.id = id
        · rw [hother, hlookup] at hold
          obtain rfl := Option.some.inj hold
          exact Or.inr rfl
        · exact Or.inl ((AList.lookup_erase_ne hother).trans hold)
    · exact hwired
  · refine hwired.of_evolved (.refl _) (fun _ _ h ↦ h) (fun _ hplace ↦ by cases hplace)
      fun _ _ _ _ _ hheld ↦ Or.inl (hheld.resolve_right hclosing)
  · exact hwired

/-- The reader loop is idle again after a message that does not close the queue. -/
theorem Wired.idle (hwired : Wired client)
    (hall : LocalConn.AllEvolved client.conns next.conns) (hstreams : next.streams = client.streams)
    (hidle : next.reader = .idle)
    (hclosed : ∀ (index : ℕ) (later : LocalConn), client.reader = .handing index .close →
      next.conns[index]? = some later →
        later.inbox.hasReceiver = false ∨ later.inbox.hasSender = false) : Wired next := by
  refine hwired.of_evolved hall (fun _ _ h ↦ hstreams ▸ h) (fun index hindex ↦ ?_)
    fun index later hlater hreceives hsends hheld ↦ ?_
  · rw [hidle] at hindex
    cases hindex
  · rcases hheld with hlookup | hclosing
    · exact Or.inl (hstreams ▸ hlookup)
    · rcases hclosed index later hclosing hlater with hreceiver | hsender
      · exact absurd (hreceives.symm.trans hreceiver) (by simp)
      · exact absurd (hsends.symm.trans hsender) (by simp)

theorem Wired.hand (hwired : Wired client) (hstep : client.step .hand = some next) :
    Wired next := by
  obtain ⟨index, msg, conn, hreader, hconn, ⟨inbox, hsend, rfl⟩ | ⟨hreceiver, rfl⟩⟩ :=
    step_hand hstep
  · refine hwired.idle (.set hconn (LocalConn.evolved_received hsend)) rfl rfl
      fun place later hclosing hlater ↦ Or.inr ?_
    obtain ⟨rfl, rfl⟩ := ReaderPhase.handing.inj (hreader.symm.trans hclosing)
    obtain ⟨hlt, -⟩ := List.getElem?_eq_some_iff.mp hconn
    obtain rfl := Option.some.inj ((List.getElem?_set_self hlt).symm.trans hlater)
    rfl
  · refine hwired.idle (.refl _) rfl rfl fun place later hclosing hlater ↦ Or.inl ?_
    obtain ⟨rfl, -⟩ := ReaderPhase.handing.inj (hreader.symm.trans hclosing)
    obtain rfl := Option.some.inj (hconn.symm.trans hlater)
    exact hreceiver

theorem Wired.step (hwired : Wired client) {action : ClientAction}
    (hstep : client.step action = some next) : Wired next := by
  cases action with
  | accept =>
    cases hstep
    exact hwired.accept client.nextId
  | conn index action => exact hwired.conn hstep
  | send =>
    obtain ⟨frame, rest, -, rfl⟩ := step_send hstep
    exact hwired.of_conns (.refl _) rfl rfl
  | keepalive =>
    cases hstep
    exact hwired.of_conns (.refl _) rfl rfl
  | getPeers | lanPacket =>
    obtain ⟨out, -, rfl⟩ := Option.map_eq_some_iff.mp hstep
    exact hwired.of_conns (.refl _) rfl rfl
  | receive frame =>
    obtain ⟨hidle, rfl⟩ := step_clientReceive hstep
    exact hwired.demux hidle frame
  | hand => exact hwired.hand hstep
  | pong =>
    obtain ⟨hponging, out, -, rfl⟩ := step_pong hstep
    refine hwired.idle (.refl _) rfl rfl fun _ _ hclosing ↦ ?_
    rw [hponging] at hclosing
    cases hclosing

/-- A step of a connection leaves the reader loop alone, and the ends of the queue of frames. -/
theorem apply_keeps {id : StreamId} {index : ℕ} {effect : LocalEffect}
    (happly : client.apply id index effect = some next) :
    next.reader = client.reader ∧ next.out.hasReceiver = client.out.hasReceiver := by
  cases effect with
  | emit frame =>
    obtain ⟨out, hsend, rfl⟩ := Option.map_eq_some_iff.mp happly
    exact ⟨rfl, (Channel.trySend_eq_some hsend).2.2.2.2⟩
  | _ =>
    cases happly
    exact ⟨rfl, rfl⟩

theorem demux_out (client : ProxyClient) (frame : Frame) :
    (client.demux frame).out = client.out := by
  unfold demux
  split
  · split <;> rfl
  · split <;> rfl
  · rfl
  · rfl

/-- The writer loop stays at the queue of frames. -/
theorem hasReceiver_of_step {action : ClientAction} (hstep : client.step action = some next) :
    next.out.hasReceiver = client.out.hasReceiver := by
  cases action with
  | accept | keepalive =>
    cases hstep
    rfl
  | conn index action =>
    obtain ⟨conn, later, effect, -, -, happly⟩ := step_conn hstep
    exact (apply_keeps happly).2
  | send =>
    obtain ⟨frame, rest, hrecv, rfl⟩ := step_send hstep
    exact (Channel.recv_eq_item hrecv).2.2
  | getPeers | lanPacket =>
    obtain ⟨out, hsend, rfl⟩ := Option.map_eq_some_iff.mp hstep
    exact (Channel.trySend_eq_some hsend).2.2.2.2
  | receive frame =>
    obtain ⟨-, rfl⟩ := step_clientReceive hstep
    rw [demux_out]
  | hand =>
    obtain ⟨index, msg, conn, -, -, ⟨inbox, -, rfl⟩ | ⟨-, rfl⟩⟩ := step_hand hstep <;> rfl
  | pong =>
    obtain ⟨-, out, hsend, rfl⟩ := step_pong hstep
    exact (Channel.trySend_eq_some hsend).2.2.2.2

end ProxyClient

namespace HttpMode

variable {mode next : HttpMode} {action : HttpAction}

/-- The reader loop moves by its own steps only. -/
theorem reader_of_step {action : ClientAction} {client : ProxyClient}
    (hstep : mode.client.step action = some client) (hreading : mode.reading = false)
    (hruns : mode.runs action = true) : client.reader = mode.client.reader := by
  cases action with
  | accept | keepalive =>
    cases hstep
    rfl
  | conn index action =>
    obtain ⟨conn, later, effect, -, -, happly⟩ := ProxyClient.step_conn hstep
    exact (ProxyClient.apply_keeps happly).1
  | send =>
    obtain ⟨frame, rest, -, rfl⟩ := ProxyClient.step_send hstep
    rfl
  | getPeers | lanPacket =>
    obtain ⟨out, -, rfl⟩ := Option.map_eq_some_iff.mp hstep
    rfl
  | receive | hand | pong =>
    rw [runs, hreading] at hruns
    cases hruns

/-- The client is wired, the writer loop holds the queue of frames while it runs, a reader loop that
is over holds nothing, and the accept loop runs until the token is set. -/
structure Wired (mode : HttpMode) : Prop where
  client : mode.client.Wired
  out : mode.client.out.hasReceiver = mode.writing
  idle : mode.reading = false → mode.client.reader = .idle
  token : mode.serving = false → mode.cancelled = true

theorem Wired.start : Wired .start where
  client := .start
  out := rfl
  idle _ := rfl
  token hserving := by cases hserving

theorem wired_endReader (hwired : mode.client.Wired) : mode.endReader.client.Wired := by
  unfold endReader
  split
  · rename_i index hreader
    refine hwired.idle (.modify _ _) rfl rfl fun place later hclosing hlater ↦ Or.inr ?_
    obtain ⟨rfl, -⟩ := ReaderPhase.handing.inj (hreader.symm.trans hclosing)
    rw [List.getElem?_modify_eq] at hlater
    obtain ⟨conn, -, rfl⟩ := Option.map_eq_some_iff.mp hlater
    rfl
  · rename_i hreader
    exact hwired.idle (.refl _) rfl rfl fun place later hclosing _ ↦
      absurd hclosing (hreader place)

theorem Wired.step (hwired : Wired mode) (hstep : Stepped mode action next) : Wired next := by
  obtain ⟨hclient, hout, hidle, htoken⟩ := hwired
  cases hstep with
  | cancel => exact ⟨hclient, hout, hidle, fun _ ↦ rfl⟩
  | client action client hruns hstep =>
    exact ⟨hclient.step hstep, (ProxyClient.hasReceiver_of_step hstep).trans hout,
      fun hreading ↦ (reader_of_step hstep hreading hruns).trans (hidle hreading), htoken⟩
  | emitFailed index action conn connNext frame hreceiver hconn hstep =>
    exact ⟨hclient.of_conns (.set hconn (LocalConn.evolved_refusedFrame hstep)) rfl rfl, hout,
      hidle, htoken⟩
  | pongFailed hponging hreceiver =>
    refine ⟨hclient.idle (.refl _) rfl rfl fun _ _ hclosing ↦ ?_, hout, fun _ ↦ rfl, htoken⟩
    rw [hponging] at hclosing
    cases hclosing
  | writerEnded action haction hwriting =>
    exact ⟨hclient.of_conns (.refl _) rfl rfl, rfl, hidle, htoken⟩
  | readerEnded action haction hreading =>
    exact ⟨wired_endReader hclient, hout, fun _ ↦ rfl, htoken⟩
  | mainCancelled hserving hcancelled =>
    exact ⟨hclient, hout, hidle, fun _ ↦ hcancelled⟩

theorem wired_of_run {actions : List HttpAction}
    (hrun : run HttpMode.step .start actions = some mode) : Wired mode :=
  run_preserves (fun _ _ _ hwired hstep ↦ hwired.step (stepped_of_step hstep)) hrun .start

/-! ### Phases of the session -/

/-- The phase of the session: it ends with the accept loop. -/
def session (mode : HttpMode) : Phase Unit :=
  if mode.serving then .serving mode.writing mode.reading else .ended

/-- The events of the session that a step is: the ends of its tasks while the accept loop runs. -/
def events (mode : HttpMode) : HttpAction → List SessionEvent
  | .writerFailed | .writerCancelled => if mode.serving then [.sendFailed] else []
  | .readerFailed | .readerCancelled => if mode.serving then [.receiveFailed] else []
  | .mainCancelled => [.cancelSeen]
  | _ => []

/-- Every step takes the session through its own events of the step. -/
theorem session_of_step (hstep : mode.step action = some next) :
    run (fun phase event ↦
      (Phase.step .http mode.cancelled () (fun _ ↦ ((), true)) phase event).map Prod.fst)
      mode.session (mode.events action) = some next.session := by
  cases stepped_of_step hstep with
  | cancel | client | emitFailed | pongFailed => rfl
  | mainCancelled hserving hcancelled =>
    rw [session, if_pos hserving, hcancelled]
    cases mode.writing <;> cases mode.reading <;> rfl
  | writerEnded action haction hwriting =>
    cases hserving : mode.serving with
    | true =>
      obtain rfl | ⟨rfl, -⟩ := haction.imp_right fun h ↦
        h.resolve_right fun h ↦ by simp [hserving] at h
      all_goals
        simp only [session, events, endWriter, hserving, hwriting, if_true]
        rfl
    | false =>
      rcases haction with rfl | ⟨rfl, -⟩ | ⟨rfl, -⟩ <;>
        simp [session, events, endWriter, hserving]
  | readerEnded action haction hreading =>
    cases hserving : mode.serving with
    | true =>
      obtain ⟨rfl | ⟨rfl, -⟩, -⟩ := haction.resolve_right fun h ↦ by simp [hserving] at h
      all_goals
        simp only [session, events, endReader, hserving, hreading, if_true]
        cases mode.writing <;> rfl
    | false =>
      rcases haction with ⟨rfl | ⟨rfl, -⟩, -⟩ | ⟨rfl, -⟩ <;>
        simp [session, events, endReader, hserving]

end HttpMode

end EntroTunnel.Client
