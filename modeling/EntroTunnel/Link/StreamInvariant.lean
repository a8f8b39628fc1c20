import EntroTunnel.Link.StreamView

/-!
# The invariant of a stream

What holds of every stream of a link, whatever the order of closes, dials and failures. A stream is
`Fresh` before it is opened, `Requested` while the `StreamOpen` is on its way, and `Arrived` when
the session has read it. A stream that arrived where the proxy is allowed is `Served`: what the
handler has written, the messages on their way and what the down task has not forwarded are together
what the remote host has sent, until the down task stops; and `Close` is the last message.

`StreamInv.step` is the step lemma, one case for each stage and each task.
-/

set_option autoImplicit false
set_option relaxedAutoImplicit false

namespace EntroTunnel.Link

open EntroTunnel.Core EntroTunnel.Foundation EntroTunnel.Client EntroTunnel.Server

/-- Opens a stream. -/
def isOpen : Frame → Bool
  | .streamOpen _ _ => true
  | _ => false

/-- No frame opens a stream. -/
def NoOpen (frames : List Frame) : Prop :=
  ∀ frame ∈ frames, isOpen frame = false

/-! ### Steps of an open connection -/

/-- What a step of a local connection keeps, unless it ends the handler. -/
structure Kept (conn next : LocalConn) (effect : LocalEffect) : Prop where
  id : next.id = conn.id
  fresh : next.fresh = conn.fresh
  receiving : next.receiving = conn.receiving
  done : next.phase = .done ↔ conn.phase = .done
  answer : next.answer = conn.answer
  hasSender : next.inbox.hasSender = conn.inbox.hasSender
  hasReceiver : next.inbox.hasReceiver = conn.inbox.hasReceiver
  writeFailed : next.writeFailed = conn.writeFailed
  taken : ∃ taken, conn.inbox.items = taken ++ next.inbox.items ∧ ToLocal.close ∉ taken ∧
    next.outward = conn.outward ++ bytesOf taken
  output : conn.receiving = false → next.output = conn.output
  effect : effect = .none ∨ ∃ frame, effect = .emit frame ∧ isOpen frame = false

/-- The steps that end a handler. -/
def endsHandler : LocalAction → Bool
  | .takeClose | .endOfInput | .deliverFailed | .greetFailed => true
  | _ => false

/-- A handler that goes on: it has taken some messages, and will write what they carry. -/
theorem kept_of_receiving {conn next : LocalConn} {effect : LocalEffect}
    (hconn : conn.receiving = true) (hnext : next.receiving = true)
    (hsame : next.id = conn.id ∧ next.answer = conn.answer ∧ next.writeFailed = conn.writeFailed)
    (hends : next.inbox.hasSender = conn.inbox.hasSender ∧
      next.inbox.hasReceiver = conn.inbox.hasReceiver)
    (htaken : ∃ taken, conn.inbox.items = taken ++ next.inbox.items ∧ ToLocal.close ∉ taken ∧
      next.outward = conn.outward ++ bytesOf taken)
    (heffect : effect = .none ∨ ∃ frame, effect = .emit frame ∧ isOpen frame = false) :
    Kept conn next effect := by
  have hphase : ∀ conn : LocalConn, conn.receiving = true →
      conn.fresh = false ∧ conn.phase ≠ .done := by
    intro conn hreceiving
    unfold LocalConn.receiving at hreceiving
    unfold LocalConn.fresh
    cases hphase : conn.phase <;> simp [hphase] at hreceiving ⊢
  obtain ⟨hfresh, hdone⟩ := hphase conn hconn
  obtain ⟨hfreshNext, hdoneNext⟩ := hphase next hnext
  obtain ⟨hid, hanswer, hwrite⟩ := hsame
  exact ⟨hid, hfreshNext.trans hfresh.symm, hnext.trans hconn.symm,
    ⟨fun h ↦ absurd h hdoneNext, fun h ↦ absurd h hdone⟩, hanswer, hends.1, hends.2, hwrite, htaken,
    fun h ↦ absurd (hconn.symm.trans h) Bool.noConfusion, heffect⟩

/-- A step of an open connection that does not end the handler. -/
theorem kept_of_stepped {conn next : LocalConn} {action : LocalAction} {effect : LocalEffect}
    (hfresh : conn.fresh = false) (hends : endsHandler action = false)
    (hstep : conn.Stepped action next effect) : Kept conn next effect := by
  have hreceiving : ∀ {phase : LocalPhase}, conn.phase = phase →
      ({ conn with phase } : LocalConn).receiving = conn.receiving := by
    rintro phase rfl
    rfl
  have hwritten : ∀ {outward : Bytes}, outward = conn.outward →
      outward = conn.outward ++ bytesOf [] := fun h ↦ h.trans (List.append_nil _).symm
  cases hstep with
  | read count buf hphase | readEof buf hphase | readFailed buf hphase
  | openStream target forward hphase =>
    rw [LocalConn.fresh, hphase] at hfresh
    exact absurd hfresh nofun
  | greetFailed | takeClose | endOfInput | deliverFailed => exact absurd hends nofun
  | greet count rest hphase | deliver count rest hphase =>
    refine kept_of_receiving (hreceiving hphase).symm rfl ⟨rfl, rfl, rfl⟩ ⟨rfl, rfl⟩
      ⟨[], rfl, nofun, hwritten ?_⟩ (.inl rfl)
    simp [LocalConn.outward, hphase]
  | greeted hphase | delivered hphase =>
    refine kept_of_receiving (hreceiving hphase).symm rfl ⟨rfl, rfl, rfl⟩ ⟨rfl, rfl⟩
      ⟨[], rfl, nofun, hwritten ?_⟩ (.inl rfl)
    simp [LocalConn.outward, LocalConn.serve, hphase]
  | forwardHead data hphase =>
    refine kept_of_receiving (hreceiving hphase).symm rfl ⟨rfl, rfl, rfl⟩ ⟨rfl, rfl⟩
      ⟨[], rfl, nofun, hwritten ?_⟩ (.inr ⟨_, rfl, rfl⟩)
    simp [LocalConn.outward, LocalConn.serve, hphase]
  | take data rest hphase hrecv =>
    obtain ⟨hitems, hsender, hreceiver⟩ := Channel.recv_eq_item hrecv
    refine kept_of_receiving (hreceiving hphase).symm rfl ⟨rfl, rfl, rfl⟩ ⟨hsender, hreceiver⟩
      ⟨[.data data], hitems, by simp, ?_⟩ (.inl rfl)
    simp [LocalConn.outward, hphase]
  | upSend data huplink | upClose huplink =>
    exact ⟨rfl, rfl, rfl, .rfl, rfl, rfl, rfl, rfl, ⟨[], rfl, nofun, hwritten rfl⟩,
      fun _ ↦ rfl, .inr ⟨_, rfl, rfl⟩⟩
  | _ =>
    exact ⟨rfl, rfl, rfl, .rfl, rfl, rfl, rfl, rfl, ⟨[], rfl, nofun, hwritten rfl⟩,
      fun _ ↦ rfl, .inl rfl⟩

/-! ### The invariant -/

/-- Before the stream is opened. -/
structure Fresh (view : StreamView) : Prop where
  fresh : view.conn.fresh = true
  registered : view.registered = true ↔
    ∃ target forward, view.conn.phase = .opening target forward
  up : view.up = []
  inTable : view.inTable = false
  remote : view.remote = none
  down : view.down = []
  held : view.held = none
  inbox : view.conn.inbox = Channel.empty
  output : view.conn.output = []
  writeFailed : view.conn.writeFailed = false
  uplink : view.conn.uplink = .absent

/-- The client's side of a stream that was opened. -/
structure Opened (view : StreamView) : Prop where
  fresh : view.conn.fresh = false
  receiver : view.conn.inbox.hasReceiver = view.conn.receiving
  sender : view.conn.receiving = true →
    view.conn.inbox.hasSender = true ∨ ToLocal.close ∈ view.conn.inbox.items
  done : view.conn.phase = .done → view.registered = false
  registered : view.registered = true →
    ToLocal.close ∉ view.conn.inbox.items ++ view.held.toList
  unregistered : view.conn.receiving = true → view.registered = false →
    ToLocal.close ∈ view.conn.inbox.items ++ view.held.toList
  ended : view.conn.receiving = false → view.conn.phase = .done ∨ view.conn.writeFailed = true

/-- The `StreamOpen` is on its way. -/
structure Requested (view : StreamView) : Prop extends Opened view where
  up : ∃ target rest, view.up = .streamOpen view.conn.id target :: rest ∧ NoOpen rest
  inTable : view.inTable = false
  remote : view.remote = none
  down : view.down = []
  held : view.held = none
  inbox : view.conn.inbox.items = []
  outward : view.conn.receiving = true → view.conn.outward = view.conn.answer
  output : view.conn.receiving = false → view.conn.output <+: view.conn.answer
  broken : view.conn.phase = .done → view.conn.writeFailed = true

/-- The tasks of a stream on the server. -/
structure Tasks (stream : RemoteStream) : Prop where
  dialing : stream.relay = .dialing ∨ (∃ error, stream.relay = .refusing error) →
    stream.down = .absent
  unconnected : stream.down = .absent → stream.inboundEof = false ∧ stream.reset = false
  ended : stream.relay = .ended →
    stream.down = .absent ∨ stream.down = .finished ∨ stream.down = .aborted
  settled : stream.down = .closing ∨ stream.down = .finished →
    stream.inboundEof = true ∨ stream.reset = true

/-- `bytes`, what has been written, is being written or is on its way, against what the remote host
has sent. -/
structure Balanced (bytes answer : Bytes) (stream : RemoteStream) : Prop where
  flow : stream.flowing = true → bytes ++ stream.unsent = answer ++ stream.sent
  le : bytes <+: answer ++ stream.sent
  all : stream.down = .closing ∨ stream.down = .finished → stream.reset = false →
    bytes = answer ++ stream.sent

/-- Messages on their way to a handler that takes them. -/
structure Live (registered : Bool) (down : List Frame) (messages : List ToLocal)
    (outward answer : Bytes) (stream : RemoteStream) : Prop where
  reported : ToLocal.close ∈ messages ↔ stream.reported = true
  last : ToLocal.close ∉ messages.dropLast
  silent : registered = false → down.filterMap toLocal = [] ∧ ToLocal.close ∈ messages
  balanced : Balanced (outward ++ bytesOf messages) answer stream

/-- What a handler that is over has written. -/
structure Dead (done writeFailed : Prop) (output answer : Bytes) (stream : RemoteStream) :
    Prop where
  output_le : output <+: answer ++ stream.sent
  reported : done → ¬ writeFailed → stream.reported = true
  all : done → ¬ writeFailed → stream.down = .finished → stream.reset = false →
    output = answer ++ stream.sent

/-- A stream that the session has opened. -/
structure Served (view : StreamView) (stream : RemoteStream) : Prop where
  tasks : Tasks stream
  table : view.inTable = stream.inbox.hasSender
  live : view.conn.receiving = true →
    Live view.registered view.down view.messages view.conn.outward view.conn.answer stream
  dead : view.conn.receiving = false →
    Dead (view.conn.phase = .done) (view.conn.writeFailed = true) view.conn.output view.conn.answer
      stream

/-- The session has read the `StreamOpen`. -/
structure Arrived (allow : Bool) (view : StreamView) : Prop extends Opened view where
  up : NoOpen view.up
  served : allow = true → ∃ stream, view.remote = some stream ∧ Served view stream
  refused : allow = false → view.remote = none ∧ view.inTable = false

/-- The invariant of a stream. -/
inductive StreamInv (allow : Bool) (view : StreamView) : Prop
  | fresh (h : Fresh view)
  | requested (h : Requested view)
  | arrived (h : Arrived allow view)

/-! ### Steps of the remote stream -/

section Remote

variable {stream next : RemoteStream} {action : RemoteAction} {frame : Option Frame}

theorem tasks_start (id : StreamId) (target : TargetAddr) (place : ℕ) :
    Tasks (.start id target place) :=
  ⟨fun _ ↦ rfl, fun _ ↦ ⟨rfl, rfl⟩, nofun, fun h ↦ h.elim nofun nofun⟩

/-- The down task after an abort is over as it was, or cut off. -/
theorem abort_eq (down : DownPhase) :
    (down = .finished ∧ down.abort = .finished) ∨ (down ≠ .finished ∧ down.abort = .aborted) := by
  cases down <;> simp [DownPhase.abort]

/-- A down task that runs: the dial has succeeded, and the relay task has not ended. -/
theorem Tasks.running (htasks : Tasks stream) (habsent : stream.down ≠ .absent)
    (hfinished : stream.down ≠ .finished) (haborted : stream.down ≠ .aborted) :
    ¬ (stream.relay = .dialing ∨ ∃ error, stream.relay = .refusing error) ∧
      stream.relay ≠ .ended := by
  refine ⟨fun h ↦ habsent (htasks.dialing h), fun h ↦ ?_⟩
  obtain h | h | h := htasks.ended h
  · exact habsent h
  · exact hfinished h
  · exact haborted h

theorem Tasks.step (htasks : Tasks stream) (hstep : stream.Stepped true action next frame) :
    Tasks next := by
  cases hstep with
  | dialed hrelay => exact ⟨fun h ↦ by simp at h, nofun, nofun, fun h ↦ by simp at h⟩
  | dialFailed error hrelay =>
    exact ⟨fun _ ↦ htasks.dialing (.inl hrelay), htasks.unconnected, nofun, htasks.settled⟩
  | refuse error hrelay =>
    exact ⟨fun h ↦ by simp at h, htasks.unconnected,
      fun _ ↦ .inl (htasks.dialing (.inr ⟨error, hrelay⟩)), htasks.settled⟩
  | take | write | written =>
    exact ⟨fun h ↦ by simp at h, htasks.unconnected, nofun, htasks.settled⟩
  | writeFailed | finish =>
    obtain ⟨hdown, habort⟩ | ⟨-, habort⟩ := abort_eq stream.down
    · exact ⟨fun h ↦ by simp [RemoteStream.stop] at h, fun h ↦ absurd (habort.symm.trans h) nofun,
        fun _ ↦ .inr (.inl habort), fun _ ↦ htasks.settled (.inr hdown)⟩
    · exact ⟨fun h ↦ by simp [RemoteStream.stop] at h, fun h ↦ absurd (habort.symm.trans h) nofun,
        fun _ ↦ .inr (.inr habort), fun h ↦ by simp [RemoteStream.stop, habort] at h⟩
  | read count hdown | forward data hdown =>
    obtain ⟨hdialing, hended⟩ :=
      htasks.running (by simp [hdown]) (by simp [hdown]) (by simp [hdown])
    exact ⟨fun h ↦ absurd h hdialing, nofun, fun h ↦ absurd h hended, fun h ↦ by simp at h⟩
  | readEof hdown hinbound heof =>
    obtain ⟨hdialing, hended⟩ :=
      htasks.running (by simp [hdown]) (by simp [hdown]) (by simp [hdown])
    exact ⟨fun h ↦ absurd h hdialing, nofun, fun h ↦ absurd h hended, fun _ ↦ .inl heof⟩
  | readFailed hdown hreset =>
    obtain ⟨hdialing, hended⟩ :=
      htasks.running (by simp [hdown]) (by simp [hdown]) (by simp [hdown])
    exact ⟨fun h ↦ absurd h hdialing, nofun, fun h ↦ absurd h hended, fun _ ↦ .inr hreset⟩
  | close hdown =>
    obtain ⟨hdialing, hended⟩ :=
      htasks.running (by simp [hdown]) (by simp [hdown]) (by simp [hdown])
    exact ⟨fun h ↦ absurd h hdialing, nofun, fun h ↦ absurd h hended,
      fun _ ↦ htasks.settled (.inl hdown)⟩
  | forwardFailed data hdown hlistening => exact absurd hlistening nofun
  | remoteSends => exact ⟨htasks.dialing, htasks.unconnected, htasks.ended, htasks.settled⟩
  | remoteCloses hdown =>
    exact ⟨htasks.dialing, fun h ↦ absurd h hdown, htasks.ended, fun _ ↦ .inl rfl⟩
  | remoteResets hdown =>
    exact ⟨htasks.dialing, fun h ↦ absurd h hdown, htasks.ended, fun _ ↦ .inr rfl⟩

/-- A step that puts nothing into the session's queue keeps whether the stream has reported. -/
theorem reported_step (htasks : Tasks stream) (hstep : stream.Stepped true action next frame) :
    (next.reported = true ↔ stream.reported = true ∨ ∃ error, frame = some (.streamClose stream.id
      error)) ∧ (stream.reported = true → frame = none) := by
  unfold RemoteStream.reported
  cases hstep with
  | dialed hrelay => simp [hrelay, htasks.dialing (.inl hrelay)]
  | dialFailed error hrelay => simp [hrelay, htasks.dialing (.inl hrelay)]
  | refuse error hrelay => simp [hrelay, htasks.dialing (.inr ⟨error, hrelay⟩)]
  | take data rest hrelay | write count rest hrelay | written hrelay => simp [hrelay]
  | writeFailed byte rest hrelay | finish hrelay =>
    obtain ⟨hdown, habort⟩ | ⟨hdown, habort⟩ := abort_eq stream.down
    · simp [RemoteStream.stop, hrelay, hdown, DownPhase.abort]
    · simp [RemoteStream.stop, hrelay, hdown, habort]
  | read count hdown | readEof hdown | readFailed hdown | forward data hdown | close hdown =>
    simp [hdown]
  | forwardFailed data hdown hlistening => exact absurd hlistening nofun
  | remoteSends | remoteCloses | remoteResets => simp

/-- The balance does not see the relay task. -/
theorem Balanced.of_same {bytes answer : Bytes} (hbalanced : Balanced bytes answer stream)
    (hdown : next.down = stream.down) (hinbound : next.inbound = stream.inbound)
    (hreset : next.reset = stream.reset) (hsent : next.sent = stream.sent) :
    Balanced bytes answer next := by
  obtain ⟨hflow, hle, hall⟩ := hbalanced
  constructor
  · unfold RemoteStream.flowing RemoteStream.unsent
    rw [hdown, hinbound, hsent]
    exact hflow
  · rwa [hsent]
  · rwa [hdown, hreset, hsent]

/-- The bytes of a frame on its way to the handler. -/
def frameBytes (frame : Option Frame) : Bytes :=
  bytesOf (frame.toList.filterMap toLocal)

theorem Balanced.step {bytes answer : Bytes} (hbalanced : Balanced bytes answer stream)
    (htasks : Tasks stream) (hstep : stream.Stepped true action next frame) :
    Balanced (bytes ++ frameBytes frame) answer next := by
  have hsame : bytes ++ frameBytes none = bytes := List.append_nil bytes
  cases hstep with
  | dialed hrelay =>
    have hdown := htasks.dialing (.inl hrelay)
    rw [hsame]
    refine ⟨fun _ ↦ ?_, hbalanced.le, fun h ↦ by simp at h⟩
    have hflow := hbalanced.flow (by simp [RemoteStream.flowing, hdown])
    simpa [RemoteStream.unsent, hdown] using hflow
  | dialFailed | take | write | written =>
    rw [hsame]
    exact hbalanced.of_same rfl rfl rfl rfl
  | refuse =>
    rw [if_pos rfl]
    show Balanced (bytes ++ []) answer _
    rw [List.append_nil]
    exact hbalanced.of_same rfl rfl rfl rfl
  | writeFailed | finish =>
    rw [hsame]
    obtain ⟨hdown, habort⟩ | ⟨-, habort⟩ := abort_eq stream.down
    · exact hbalanced.of_same (habort.trans hdown.symm) rfl rfl rfl
    · refine ⟨fun h ↦ ?_, hbalanced.le, fun h ↦ ?_⟩
      · simp [RemoteStream.flowing, RemoteStream.stop, habort] at h
      · simp [RemoteStream.stop, habort] at h
  | read count hdown =>
    rw [hsame]
    refine ⟨fun _ ↦ ?_, hbalanced.le, fun h ↦ by simp at h⟩
    have hflow := hbalanced.flow (by simp [RemoteStream.flowing, hdown])
    simpa [RemoteStream.unsent, hdown] using hflow
  | readEof hdown hinbound heof =>
    rw [hsame]
    refine ⟨fun h ↦ absurd h nofun, hbalanced.le, fun _ _ ↦ ?_⟩
    have hflow := hbalanced.flow (by simp [RemoteStream.flowing, hdown])
    simpa [RemoteStream.unsent, hdown, hinbound] using hflow
  | readFailed hdown hreset =>
    rw [hsame]
    exact ⟨fun h ↦ absurd h nofun, hbalanced.le, fun _ h ↦ absurd (hreset.symm.trans h) nofun⟩
  | forward data hdown =>
    have hflow := hbalanced.flow (by simp [RemoteStream.flowing, hdown])
    have hbytes : bytes ++ frameBytes (some (.streamData stream.id data)) = bytes ++ data := by
      simp [frameBytes, toLocal]
    have hmoved : bytes ++ data ++ stream.inbound = answer ++ stream.sent := by
      simpa [RemoteStream.unsent, hdown] using hflow
    rw [hbytes]
    exact ⟨fun _ ↦ hmoved, ⟨stream.inbound, hmoved⟩, fun h ↦ by simp at h⟩
  | forwardFailed data hdown hlistening => exact absurd hlistening nofun
  | close hdown =>
    rw [if_pos rfl]
    show Balanced (bytes ++ []) answer _
    rw [List.append_nil]
    exact ⟨fun h ↦ absurd h nofun, hbalanced.le, fun _ ↦ hbalanced.all (.inl hdown)⟩
  | remoteSends data hdown heof hreset =>
    rw [hsame]
    refine ⟨fun hflowing ↦ ?_, ?_, fun hover ↦ ?_⟩
    · have hflow := hbalanced.flow hflowing
      show bytes ++ RemoteStream.unsent _ = answer ++ (stream.sent ++ data)
      rw [← List.append_assoc answer, ← hflow, List.append_assoc]
      unfold RemoteStream.unsent
      cases stream.down <;> simp
    · show bytes <+: answer ++ (stream.sent ++ data)
      rw [← List.append_assoc]
      exact hbalanced.le.trans (List.prefix_append _ _)
    · obtain heof' | hreset' := htasks.settled hover
      · exact absurd (heof.symm.trans heof') nofun
      · exact absurd (hreset.symm.trans hreset') nofun
  | remoteCloses =>
    rw [hsame]
    exact hbalanced.of_same rfl rfl rfl rfl
  | remoteResets =>
    rw [hsame]
    exact ⟨hbalanced.flow, hbalanced.le, fun _ h ↦ absurd h nofun⟩

/-- What a step puts into the session's queue. -/
theorem frame_cases (hstep : stream.Stepped true action next frame) :
    frame = none ∨ (∃ data, frame = some (.streamData stream.id data)) ∨
      ∃ error, frame = some (.streamClose stream.id error) := by
  cases hstep with
  | refuse | close => exact .inr (.inr ⟨_, if_pos rfl⟩)
  | forward data => exact .inr (.inl ⟨data, rfl⟩)
  | _ => exact .inl rfl

/-- A stream goes on as a live one. -/
theorem Live.step {registered : Bool} {down : List Frame} {messages : List ToLocal}
    {outward answer : Bytes} (hlive : Live registered down messages outward answer stream)
    (htasks : Tasks stream) (hstep : stream.Stepped true action next frame) :
    Live registered (down ++ frame.toList) (messages ++ frame.toList.filterMap toLocal) outward
      answer next := by
  obtain ⟨hreported, hquiet⟩ := reported_step htasks hstep
  have hbalanced : Balanced (outward ++ bytesOf (messages ++ frame.toList.filterMap toLocal)) answer
      next := by
    rw [bytesOf_append, ← List.append_assoc]
    exact hlive.balanced.step htasks hstep
  obtain rfl | hframe := frame_cases hstep
  · have hsame : next.reported = true ↔ stream.reported = true := by simp [hreported]
    simp only [Option.toList_none, List.filterMap_nil, List.append_nil] at hbalanced ⊢
    exact ⟨hlive.reported.trans hsame.symm, hlive.last, hlive.silent, hbalanced⟩
  · -- Only a stream that has not reported puts a frame into the queue.
    have hopen : ToLocal.close ∉ messages := by
      intro hclose
      obtain ⟨_, rfl⟩ | ⟨_, rfl⟩ := hframe <;>
        exact absurd (hquiet (hlive.reported.mp hclose)) nofun
    have hregistered : registered = false → False := fun h ↦ hopen (hlive.silent h).2
    obtain ⟨data, rfl⟩ | ⟨error, rfl⟩ := hframe
    · refine ⟨?_, ?_, fun h ↦ (hregistered h).elim, hbalanced⟩
      · simpa [toLocal, hreported] using hlive.reported
      · simpa [toLocal] using hopen
    · refine ⟨?_, ?_, fun h ↦ (hregistered h).elim, hbalanced⟩
      · simp [toLocal, hreported]
      · simpa [toLocal] using hopen

/-- What the remote host has sent only grows. -/
theorem sent_step (hstep : stream.Stepped true action next frame) : stream.sent <+: next.sent := by
  cases hstep with
  | remoteSends data => exact List.prefix_append stream.sent data
  | _ => exact List.prefix_rfl

/-- After a clean end that was reported, nothing more is sent. -/
theorem sent_eq_of_reported (htasks : Tasks stream)
    (hstep : stream.Stepped true action next frame) (hreported : stream.reported = true)
    (hdown : next.down = .finished) (hreset : next.reset = false) :
    stream.down = .finished ∧ stream.reset = false ∧ next.sent = stream.sent := by
  cases hstep with
  | dialed | read | readEof | readFailed | forward | forwardFailed => exact absurd hdown nofun
  | dialFailed | refuse | take | write | written | remoteCloses => exact ⟨hdown, hreset, rfl⟩
  | writeFailed | finish =>
    obtain ⟨hold, -⟩ | ⟨-, habort⟩ := abort_eq stream.down
    · exact ⟨hold, hreset, rfl⟩
    · exact absurd (habort.symm.trans hdown) nofun
  | close hclosing => simp [RemoteStream.reported, hclosing] at hreported
  | remoteSends data _ heof hresetOld =>
    obtain heof' | hreset' := htasks.settled (.inr hdown)
    · exact absurd (heof.symm.trans heof') nofun
    · exact absurd (hresetOld.symm.trans hreset') nofun
  | remoteResets => exact absurd hreset nofun

/-- A handler that is over stays so. -/
theorem Dead.step {done writeFailed : Prop} {output answer : Bytes}
    (hdead : Dead done writeFailed output answer stream) (htasks : Tasks stream)
    (hstep : stream.Stepped true action next frame) :
    Dead done writeFailed output answer next := by
  refine ⟨hdead.output_le.trans ?_, fun hdone hwrite ↦ ?_, fun hdone hwrite hdown hreset ↦ ?_⟩
  · exact (List.prefix_append_right_inj answer).mpr (sent_step hstep)
  · exact (reported_step htasks hstep).1.mpr (.inl (hdead.reported hdone hwrite))
  · obtain ⟨hold, hresetOld, hsent⟩ :=
      sent_eq_of_reported htasks hstep (hdead.reported hdone hwrite) hdown hreset
    rw [hsent]
    exact hdead.all hdone hwrite hold hresetOld

/-- A step keeps the session's end of the queue. -/
theorem hasSender_step (hstep : stream.Stepped true action next frame) :
    next.inbox.hasSender = stream.inbox.hasSender := by
  cases hstep with
  | take data rest hrelay hrecv => exact (Channel.recv_eq_item hrecv).2.1
  | _ => rfl

end Remote

/-! ### The steps of each stage -/

section Stages

variable {allow : Bool} {view next : StreamView} {label : StreamLabel}

theorem opened_spec (conn : LocalConn) (forward : Bytes) :
    (conn.opened forward).fresh = false ∧ (conn.opened forward).receiving = true ∧
      (conn.opened forward).phase ≠ .done ∧ (conn.opened forward).inbox = conn.inbox ∧
      (conn.opened forward).id = conn.id ∧
      (conn.output = [] → (conn.opened forward).outward = (conn.opened forward).answer) := by
  unfold LocalConn.opened
  split_ifs with hconnect hforward
  · refine ⟨rfl, rfl, nofun, rfl, rfl, fun houtput ↦ ?_⟩
    simp [LocalConn.outward, LocalConn.answer, houtput, hconnect]
  · refine ⟨rfl, rfl, nofun, rfl, rfl, fun houtput ↦ ?_⟩
    simp [LocalConn.outward, LocalConn.answer, houtput, hconnect]
  · refine ⟨rfl, rfl, nofun, rfl, rfl, fun houtput ↦ ?_⟩
    simp [LocalConn.outward, LocalConn.answer, LocalConn.serve, houtput, hconnect]

/-- A handler that has not parsed its request is not in the table. -/
theorem Fresh.unregistered (hfresh : Fresh view) {buf : Bytes}
    (hparsing : view.conn.phase = .parsing buf) : view.registered = false := by
  rw [Bool.eq_false_iff]
  intro hregistered
  obtain ⟨target, forward, hopening⟩ := hfresh.registered.mp hregistered
  exact absurd (hparsing.symm.trans hopening) nofun

/-- A change of a connection that has not opened its stream. -/
theorem Fresh.of_conn (hfresh : Fresh view) {conn : LocalConn} {registered : Bool}
    (hconn : conn.fresh = true)
    (hregistered : registered = true ↔ ∃ target forward, conn.phase = .opening target forward)
    (hinbox : conn.inbox = view.conn.inbox) (houtput : conn.output = view.conn.output)
    (hwrite : conn.writeFailed = view.conn.writeFailed) (huplink : conn.uplink = view.conn.uplink) :
    Fresh { view with conn, registered } :=
  ⟨hconn, hregistered, hfresh.up, hfresh.inTable, hfresh.remote, hfresh.down, hfresh.held,
    hinbox.trans hfresh.inbox, houtput.trans hfresh.output, hwrite.trans hfresh.writeFailed,
    huplink.trans hfresh.uplink⟩

/-- The handler opens the stream. -/
theorem Fresh.openStream (hfresh : Fresh view) {target : TargetAddr} {forward : Bytes}
    (hopening : view.conn.phase = .opening target forward) :
    Requested (view.affected (view.conn.opened forward)
      (.emit (.streamOpen view.conn.id target))) := by
  obtain ⟨hopened, hreceiving, hdone, hinbox, hid, houtward⟩ := opened_spec view.conn forward
  have hregistered : view.registered = true := hfresh.registered.mpr ⟨target, forward, hopening⟩
  have hempty : (view.conn.opened forward).inbox = Channel.empty := hinbox.trans hfresh.inbox
  constructor
  · constructor
    · exact hopened
    · exact (congrArg Channel.hasReceiver hempty).trans hreceiving.symm
    · exact fun _ ↦ .inl (congrArg Channel.hasSender hempty)
    · exact fun h ↦ absurd h hdone
    · show _ → ToLocal.close ∉ (view.conn.opened forward).inbox.items ++ view.held.toList
      rw [hempty, hfresh.held]
      exact fun _ ↦ List.not_mem_nil
    · exact fun _ h ↦ absurd (hregistered.symm.trans h) nofun
    · exact fun h ↦ absurd (hreceiving.symm.trans h) nofun
  · exact ⟨target, [], by rw [← hid]; exact congrArg (· ++ _) hfresh.up, nofun⟩
  · exact hfresh.inTable
  · exact hfresh.remote
  · exact hfresh.down
  · exact hfresh.held
  · exact congrArg Channel.items hempty
  · exact fun _ ↦ houtward hfresh.output
  · exact fun h ↦ absurd (hreceiving.symm.trans h) nofun
  · exact fun h ↦ absurd h hdone

/-- The steps before the stream is opened. -/
theorem Fresh.step (hfresh : Fresh view) (hstep : view.Step allow label next) :
    StreamInv allow next := by
  have hphase : ∀ phase, view.conn.phase = phase →
      ({ view.conn with phase } : LocalConn).fresh = true := by
    rintro phase rfl
    exact hfresh.fresh
  cases hstep with
  | conn hstep =>
    cases hstep with
    | read count buf hparsing hcount =>
      cases headStep buf (view.conn.inbound.take count) with
      | done target isConnect forward =>
        exact .fresh (hfresh.of_conn rfl (iff_of_true rfl ⟨target, forward, rfl⟩) rfl rfl rfl rfl)
      | more rest | failed error =>
        exact .fresh (hfresh.of_conn rfl (by simp [LocalConn.parsed, hfresh.unregistered hparsing])
          rfl rfl rfl rfl)
    | readEof buf hparsing | readFailed buf hparsing =>
      exact .fresh (hfresh.of_conn rfl (by simp [hfresh.unregistered hparsing]) rfl rfl rfl rfl)
    | openStream target forward hopening => exact .requested (hfresh.openStream hopening)
    | greet count rest h | greeted h | greetFailed byte rest h | forwardHead data h
    | take data rest h | takeClose rest h | endOfInput h | deliver count rest h | delivered h
    | deliverFailed byte rest h => exact absurd (hphase _ h) nofun
    | upRead count h | upEof h | upFailed h | upSend data h | upClose h =>
      exact absurd (hfresh.uplink.symm.trans h) nofun
    | localSends | localCloses | localResets =>
      exact .fresh (hfresh.of_conn hfresh.fresh hfresh.registered rfl rfl rfl rfl)
  | remote hremote => exact absurd (hfresh.remote.symm.trans hremote) nofun
  | opened target rest place hup | refused target rest hup | data bytes rest hup
  | closed error rest hup => exact absurd (hfresh.up.symm.trans hup) nofun
  | demuxData bytes rest hdown | demuxClose error rest hdown =>
    exact absurd (hfresh.down.symm.trans hdown) nofun
  | hand msg inbox hheld | dropped msg hheld => exact absurd (hfresh.held.symm.trans hheld) nofun

/-! #### Ends of a handler -/

/-- The client's side after the handler took `Close`, or its queue ended, or a write failed. -/
theorem opened_finish {conn : LocalConn} (hphase : conn.phase = .done)
    (hinbox : conn.inbox = view.conn.inbox.dropReceiver.dropSender) :
    Opened { view with conn, registered := false } := by
  have hreceiving : conn.receiving = false := by rw [LocalConn.receiving, hphase]
  constructor
  · show conn.fresh = false
    rw [LocalConn.fresh, hphase]
  · exact (congrArg Channel.hasReceiver hinbox).trans hreceiving.symm
  · exact fun h ↦ absurd (hreceiving.symm.trans h) nofun
  · exact fun _ ↦ rfl
  · exact fun h ↦ absurd h nofun
  · exact fun h ↦ absurd (hreceiving.symm.trans h) nofun
  · exact fun _ ↦ .inl hphase

/-- The client's side after the answer to `CONNECT` could not be written. -/
theorem Opened.abandon (hopened : Opened view) :
    Opened { view with
      conn := { view.conn with
        phase := .abandoned
        inbox := view.conn.inbox.dropReceiver
        writeFailed := true } } := by
  refine ⟨rfl, rfl, nofun, nofun, fun hregistered hclose ↦ ?_, nofun, fun _ ↦ .inr rfl⟩
  exact hopened.registered hregistered (List.mem_append_right _ (by simpa using hclose))

/-- The client's side after any other step of the connection. -/
theorem Opened.kept (hopened : Opened view) {conn : LocalConn} {effect : LocalEffect}
    (hkept : Kept view.conn conn effect) : Opened { view with conn } := by
  obtain ⟨taken, hitems, hclose, -⟩ := hkept.taken
  have hmem : ∀ more, ToLocal.close ∈ view.conn.inbox.items ++ more ↔
      ToLocal.close ∈ conn.inbox.items ++ more := by
    intro more
    rw [hitems, List.append_assoc, List.mem_append, or_iff_right hclose]
  constructor
  · exact hkept.fresh.trans hopened.fresh
  · exact hkept.hasReceiver.trans (hopened.receiver.trans hkept.receiving.symm)
  · intro h
    refine (hopened.sender (hkept.receiving.symm.trans h)).imp hkept.hasSender.trans fun h ↦ ?_
    simpa using (hmem []).mp (by simpa using h)
  · exact fun h ↦ hopened.done (hkept.done.mp h)
  · exact fun h hclose ↦ hopened.registered h ((hmem _).mpr hclose)
  · exact fun h hregistered ↦
      (hmem _).mp (hopened.unregistered (hkept.receiving.symm.trans h) hregistered)
  · exact fun h ↦ (hopened.ended (hkept.receiving.symm.trans h)).imp hkept.done.mpr
      hkept.writeFailed.trans

/-- The client's side does not see the way to the server and the server. -/
theorem Opened.of_same (hopened : Opened view) (hconn : next.conn = view.conn)
    (hregistered : next.registered = view.registered) (hheld : next.held = view.held) :
    Opened next := by
  constructor
  · rw [hconn]
    exact hopened.fresh
  · rw [hconn]
    exact hopened.receiver
  · rw [hconn]
    exact hopened.sender
  · rw [hconn, hregistered]
    exact hopened.done
  · rw [hconn, hregistered, hheld]
    exact hopened.registered
  · rw [hconn, hregistered, hheld]
    exact hopened.unregistered
  · rw [hconn]
    exact hopened.ended

/-- What a step of an open connection does to the frames on their way to the server. -/
theorem affected_kept (view : StreamView) {conn : LocalConn} {effect : LocalEffect}
    (hkept : Kept view.conn conn effect) :
    ∃ frames, NoOpen frames ∧
      view.affected conn effect = { view with conn, up := view.up ++ frames } := by
  obtain rfl | ⟨frame, rfl, hframe⟩ := hkept.effect
  · refine ⟨[], nofun, ?_⟩
    rw [List.append_nil]
    rfl
  · exact ⟨[frame], by simpa [NoOpen] using hframe, rfl⟩

theorem output_prefix_outward (conn : LocalConn) : conn.output <+: conn.outward :=
  List.prefix_append _ _

/-! #### Before the session has read the `StreamOpen` -/

theorem Requested.kept (hrequested : Requested view) {conn : LocalConn} {effect : LocalEffect}
    (hkept : Kept view.conn conn effect) : Requested (view.affected conn effect) := by
  obtain ⟨frames, hframes, haffected⟩ := affected_kept view hkept
  obtain ⟨taken, hitems, -, houtward⟩ := hkept.taken
  obtain ⟨rfl, hinbox⟩ := List.append_eq_nil_iff.mp (hitems.symm.trans hrequested.inbox)
  obtain ⟨target, rest, hup, hrest⟩ := hrequested.up
  rw [haffected]
  constructor
  · exact (hrequested.toOpened.kept hkept).of_same rfl rfl rfl
  · refine ⟨target, rest ++ frames, ?_, fun frame hframe ↦ ?_⟩
    · show view.up ++ frames = .streamOpen conn.id target :: (rest ++ frames)
      rw [hup, hkept.id, List.cons_append]
    · exact (List.mem_append.mp hframe).elim (hrest frame) (hframes frame)
  · exact hrequested.inTable
  · exact hrequested.remote
  · exact hrequested.down
  · exact hrequested.held
  · exact hinbox
  · intro h
    have hsame := hrequested.outward (hkept.receiving.symm.trans h)
    rw [houtward, bytesOf_nil, List.append_nil, hkept.answer]
    exact hsame
  · intro h
    have hover := hkept.receiving.symm.trans h
    show conn.output <+: conn.answer
    rw [hkept.output hover, hkept.answer]
    exact hrequested.output hover
  · exact fun h ↦ hkept.writeFailed.trans (hrequested.broken (hkept.done.mp h))

/-- A write to the application fails before the session has read the `StreamOpen`. -/
theorem Requested.failed (hrequested : Requested view) {conn : LocalConn} {registered : Bool}
    (hopened : Opened { view with conn, registered }) (hid : conn.id = view.conn.id)
    (hreceiving : view.conn.receiving = true) (hover : conn.receiving = false)
    (hinbox : conn.inbox.items = []) (houtput : conn.output = view.conn.output)
    (hanswer : conn.answer = view.conn.answer) (hwrite : conn.writeFailed = true) :
    Requested { view with conn, registered } := by
  obtain ⟨target, rest, hup, hrest⟩ := hrequested.up
  refine ⟨hopened, ⟨target, rest, hid ▸ hup, hrest⟩, hrequested.inTable, hrequested.remote,
    hrequested.down, hrequested.held, hinbox, fun h ↦ absurd (hover.symm.trans h) nofun, fun _ ↦ ?_,
    fun _ ↦ hwrite⟩
  show conn.output <+: conn.answer
  rw [houtput, hanswer, ← hrequested.outward hreceiving]
  exact output_prefix_outward view.conn

/-- A stream that the session opens is served. -/
theorem Requested.served (hrequested : Requested view) (target : TargetAddr) (rest : List Frame)
    (place : ℕ) :
    Served { view with
      up := rest
      inTable := true
      remote := some (.start view.conn.id target place) } (.start view.conn.id target place) := by
  have hmessages : view.messages = [] := by
    rw [StreamView.messages, hrequested.inbox, hrequested.held, hrequested.down]
    rfl
  refine ⟨tasks_start _ _ _, rfl, fun h ↦ ?_, fun h ↦ ?_⟩
  · show Live view.registered view.down view.messages view.conn.outward view.conn.answer _
    rw [hmessages, hrequested.outward h]
    refine ⟨by simp [RemoteStream.reported, RemoteStream.start], List.not_mem_nil,
      fun hregistered ↦ ?_, ?_⟩
    · have hclose := hrequested.unregistered h hregistered
      rw [hrequested.inbox, hrequested.held] at hclose
      exact absurd hclose List.not_mem_nil
    · exact ⟨fun _ ↦ by simp [RemoteStream.unsent, RemoteStream.start],
        by simp [RemoteStream.start], fun h ↦ h.elim nofun nofun⟩
  · refine ⟨?_, fun hdone hwrite ↦ ?_, fun hdone hwrite ↦ ?_⟩
    · exact (hrequested.output h).trans (List.prefix_append _ _)
    · exact absurd (hrequested.broken hdone) hwrite
    · exact absurd (hrequested.broken hdone) hwrite

/-- The steps before the session has read the `StreamOpen`. -/
theorem Requested.step (hrequested : Requested view) (hstep : view.Step allow label next) :
    StreamInv allow next := by
  obtain ⟨target, rest, hup, hrest⟩ := hrequested.up
  have hother : ∀ {frame : Frame} {more : List Frame}, view.up = frame :: more →
      isOpen frame = true := by
    rintro frame more h
    obtain ⟨rfl, -⟩ := List.cons.inj (hup.symm.trans h)
    rfl
  cases hstep with
  | @conn action conn effect hstep =>
    cases hends : endsHandler action with
    | false => exact .requested (hrequested.kept (kept_of_stepped hrequested.fresh hends hstep))
    | true =>
      cases hstep with
      | takeClose rest hwaiting hrecv =>
        exact absurd (hrequested.inbox.symm.trans (Channel.recv_eq_item hrecv).1) nofun
      | endOfInput hwaiting hrecv =>
        have hreceiving : view.conn.receiving = true := by rw [LocalConn.receiving, hwaiting]
        obtain ⟨hitems, hsender⟩ := Channel.recv_eq_ended hrecv
        obtain h | h := hrequested.sender hreceiving
        · exact absurd (hsender.symm.trans h) nofun
        · rw [hitems] at h
          exact absurd h List.not_mem_nil
      | deliverFailed byte more hdelivering =>
        have hreceiving : view.conn.receiving = true := by rw [LocalConn.receiving, hdelivering]
        exact .requested (hrequested.failed (opened_finish rfl rfl) rfl hreceiving rfl rfl rfl rfl
          rfl)
      | greetFailed byte more hgreeting =>
        have hreceiving : view.conn.receiving = true := by rw [LocalConn.receiving, hgreeting]
        exact .requested (hrequested.failed hrequested.toOpened.abandon rfl hreceiving rfl rfl rfl
          rfl rfl)
      | _ => exact absurd hends nofun
  | remote hremote => exact absurd (hrequested.remote.symm.trans hremote) nofun
  | opened target' rest' place hup' hallow =>
    obtain ⟨-, rfl⟩ := List.cons.inj (hup.symm.trans hup')
    refine .arrived ⟨hrequested.toOpened.of_same rfl rfl rfl, hrest, fun _ ↦ ?_, fun h ↦ ?_⟩
    · exact ⟨_, rfl, hrequested.served target' rest place⟩
    · exact absurd (hallow.symm.trans h) nofun
  | refused target' rest' hup' hallow =>
    obtain ⟨-, rfl⟩ := List.cons.inj (hup.symm.trans hup')
    refine .arrived ⟨hrequested.toOpened.of_same rfl rfl rfl, hrest, fun h ↦ ?_, fun _ ↦ ?_⟩
    · exact absurd (hallow.symm.trans h) nofun
    · exact ⟨hrequested.remote, hrequested.inTable⟩
  | data bytes more hup' | closed error more hup' => exact absurd (hother hup') nofun
  | demuxData bytes more hdown | demuxClose error more hdown =>
    exact absurd (hrequested.down.symm.trans hdown) nofun
  | hand msg inbox hheld | dropped msg hheld =>
    exact absurd (hrequested.held.symm.trans hheld) nofun

/-! #### When the session has read the `StreamOpen` -/

section Serving

variable {stream : RemoteStream}

/-- The handler takes messages before `Close`. -/
theorem Live.taken {registered : Bool} {down : List Frame} {taken messages : List ToLocal}
    {outward answer : Bytes}
    (hlive : Live registered down (taken ++ messages) outward answer stream)
    (hclose : ToLocal.close ∉ taken) :
    Live registered down messages (outward ++ bytesOf taken) answer stream := by
  have hmem : ToLocal.close ∈ taken ++ messages ↔ ToLocal.close ∈ messages := by
    rw [List.mem_append, or_iff_right hclose]
  refine ⟨hmem.symm.trans hlive.reported, fun h ↦ hlive.last ?_, fun h ↦ ?_, ?_⟩
  · have hne : messages ≠ [] := by
      rintro rfl
      exact absurd h List.not_mem_nil
    rw [List.dropLast_append_of_ne_nil hne]
    exact List.mem_append_right _ h
  · exact ⟨(hlive.silent h).1, hmem.mp (hlive.silent h).2⟩
  · rw [List.append_assoc, ← bytesOf_append]
    exact hlive.balanced

theorem Served.kept (hserved : Served view stream) {conn : LocalConn} {effect : LocalEffect}
    (hkept : Kept view.conn conn effect) : Served { view with conn } stream := by
  obtain ⟨taken, hitems, hclose, houtward⟩ := hkept.taken
  refine ⟨hserved.tasks, hserved.table, fun h ↦ ?_, fun h ↦ ?_⟩
  · have hlive := hserved.live (hkept.receiving.symm.trans h)
    have hmessages : view.messages = taken ++ StreamView.messages { view with conn } := by
      simp only [StreamView.messages, hitems, List.append_assoc]
    rw [hmessages] at hlive
    show Live view.registered view.down _ conn.outward conn.answer stream
    rw [houtward, hkept.answer]
    exact hlive.taken hclose
  · have hover := hkept.receiving.symm.trans h
    obtain ⟨hle, hreported, hall⟩ := hserved.dead hover
    show Dead (conn.phase = .done) (conn.writeFailed = true) conn.output conn.answer stream
    rw [hkept.writeFailed, hkept.output hover, hkept.answer]
    exact ⟨hle, fun hdone ↦ hreported (hkept.done.mp hdone),
      fun hdone ↦ hall (hkept.done.mp hdone)⟩

/-- `Close` is the last message. -/
theorem Live.eq_nil {registered : Bool} {down : List Frame} {rest : List ToLocal}
    {outward answer : Bytes}
    (hlive : Live registered down (.close :: rest) outward answer stream) : rest = [] := by
  cases rest with
  | nil => rfl
  | cons msg rest => exact absurd List.mem_cons_self hlive.last

/-- The handler takes `Close`: all that came before has been written. -/
theorem Served.takeClose (hserved : Served view stream) (hphase : view.conn.phase = .waiting)
    {rest : Channel ToLocal localCapacity} (hrecv : view.conn.inbox.recv = .item .close rest) :
    Served { view with conn := view.conn.finish, registered := false } stream := by
  have hlive := hserved.live (by rw [LocalConn.receiving, hphase])
  have hmessages : ∃ more, view.messages = .close :: more :=
    ⟨_, by rw [StreamView.messages, (Channel.recv_eq_item hrecv).1]; rfl⟩
  have houtward : view.conn.outward = view.conn.output := by
    rw [LocalConn.outward, hphase]
    exact List.append_nil _
  obtain ⟨more, hmessages⟩ := hmessages
  rw [hmessages, houtward] at hlive
  obtain rfl := hlive.eq_nil
  obtain ⟨-, hle, hall⟩ := hlive.balanced
  rw [bytesOf_close, bytesOf_nil, List.append_nil] at hle hall
  exact ⟨hserved.tasks, hserved.table, fun h ↦ absurd h nofun, fun _ ↦
    ⟨hle, fun _ _ ↦ hlive.reported.mp List.mem_cons_self, fun _ _ h ↦ hall (.inr h)⟩⟩

/-- A write to the application fails, and the handler is over. -/
theorem Served.failed (hserved : Served view stream) (hreceiving : view.conn.receiving = true)
    {conn : LocalConn} {registered : Bool} (hover : conn.receiving = false)
    (houtput : conn.output = view.conn.output) (hanswer : conn.answer = view.conn.answer)
    (hwrite : conn.writeFailed = true) : Served { view with conn, registered } stream := by
  refine ⟨hserved.tasks, hserved.table, fun h ↦ absurd (hover.symm.trans h) nofun, fun _ ↦
    ⟨?_, fun _ h ↦ absurd hwrite h, fun _ h ↦ absurd hwrite h⟩⟩
  show conn.output <+: conn.answer ++ stream.sent
  rw [houtput, hanswer]
  exact (output_prefix_outward _).trans
    ((List.prefix_append _ _).trans (hserved.live hreceiving).balanced.le)

theorem Served.remote (hserved : Served view stream) {streamNext : RemoteStream}
    {action : RemoteAction} {frame : Option Frame}
    (hstep : stream.Stepped true action streamNext frame) :
    Served { view with remote := some streamNext, down := view.down ++ frame.toList }
      streamNext := by
  refine ⟨hserved.tasks.step hstep, hserved.table.trans (hasSender_step hstep).symm,
    fun h ↦ ?_, fun h ↦ (hserved.dead h).step hserved.tasks hstep⟩
  have hlive := (hserved.live h).step hserved.tasks hstep
  simpa [StreamView.messages] using hlive

/-- The session hands data over, or drops its end of the queue. -/
theorem Served.inbox (hserved : Served view stream) {inTable : Bool} (up : List Frame)
    (remote : Option RemoteStream) (arrivals : List Arrival)
    {inbox : Channel Bytes remoteCapacity} (htable : inTable = inbox.hasSender) :
    Served { view with up, inTable, remote } { stream with inbox, arrivals } := by
  obtain ⟨⟨hdialing, hunconnected, hended, hsettled⟩, -, hlive, hdead⟩ := hserved
  refine ⟨⟨hdialing, hunconnected, hended, hsettled⟩, htable, fun h ↦ ?_, fun h ↦ ?_⟩
  · obtain ⟨hreported, hlast, hsilent, hflow, hle, hall⟩ := hlive h
    exact ⟨hreported, hlast, hsilent, hflow, hle, hall⟩
  · obtain ⟨hle, hreported, hall⟩ := hdead h
    exact ⟨hle, hreported, hall⟩

/-- The reader loop moves the messages on. -/
theorem Served.reader (hserved : Served view stream) {inbox : Channel ToLocal localCapacity}
    {registered : Bool} {down : List Frame} {held : Option ToLocal}
    (hmoved : view.conn.receiving = true →
      view.messages = inbox.items ++ held.toList ++ down.filterMap toLocal ∧
        (registered = false → down.filterMap toLocal = [] ∧ ToLocal.close ∈ view.messages)) :
    Served { view with conn := { view.conn with inbox }, registered, down, held } stream := by
  refine ⟨hserved.tasks, hserved.table, fun h ↦ ?_, hserved.dead⟩
  obtain ⟨hmessages, hsilent⟩ := hmoved h
  show Live registered down (inbox.items ++ held.toList ++ down.filterMap toLocal)
    view.conn.outward view.conn.answer stream
  rw [← hmessages]
  exact ⟨(hserved.live h).reported, (hserved.live h).last, hsilent, (hserved.live h).balanced⟩

end Serving

/-- The reader loop changes the queue of a handler only. -/
theorem received_eq (conn : LocalConn) (msg : ToLocal) (inbox : Channel ToLocal localCapacity) :
    ∃ after, conn.received msg inbox = { conn with inbox := after } ∧ after.items = inbox.items ∧
      after.hasReceiver = inbox.hasReceiver ∧
        (after.hasSender = inbox.hasSender ∨ msg = .close) := by
  cases msg with
  | data bytes => exact ⟨inbox, rfl, rfl, rfl, .inl rfl⟩
  | close => exact ⟨inbox.dropSender, rfl, rfl, rfl, .inr rfl⟩

theorem Opened.demuxData (hopened : Opened view) (bytes : Bytes) (down : List Frame)
    (hheld : view.held = none) :
    Opened { view with down, held := if view.registered then some (.data bytes) else none } := by
  have hmem : ToLocal.close ∈ view.conn.inbox.items ++ view.held.toList ↔
      ToLocal.close ∈ view.conn.inbox.items ++
        (if view.registered then some (ToLocal.data bytes) else none).toList := by
    rw [hheld]
    split_ifs <;> simp
  exact ⟨hopened.fresh, hopened.receiver, hopened.sender, hopened.done,
    fun h ↦ hmem.not.mp (hopened.registered h), fun h hregistered ↦
      hmem.mp (hopened.unregistered h hregistered), hopened.ended⟩

theorem Opened.demuxClose (hopened : Opened view) (down : List Frame) (hheld : view.held = none) :
    Opened { view with
      down
      registered := false
      held := if view.registered then some .close else none } := by
  refine ⟨hopened.fresh, hopened.receiver, hopened.sender, fun _ ↦ rfl, nofun, fun h _ ↦ ?_,
    hopened.ended⟩
  cases hregistered : view.registered with
  | true => simp
  | false =>
    have hclose := hopened.unregistered h hregistered
    rw [hheld] at hclose
    exact hclose

theorem Opened.hand (hopened : Opened view) {msg : ToLocal} {inbox : Channel ToLocal localCapacity}
    (hheld : view.held = some msg) (hsend : view.conn.inbox.trySend msg = some inbox) :
    Opened { view with conn := view.conn.received msg inbox, held := none } := by
  obtain ⟨-, -, hitems, hsender, hreceiver⟩ := Channel.trySend_eq_some hsend
  obtain ⟨after, hreceived, hafter, hreceiverAfter, hsenderAfter⟩ :=
    received_eq view.conn msg inbox
  have hsame : after.items ++ [] = view.conn.inbox.items ++ view.held.toList := by
    rw [hafter, hitems, hheld, List.append_nil]
    rfl
  rw [hreceived]
  refine ⟨hopened.fresh, ?_, fun h ↦ ?_, hopened.done, fun h ↦ ?_, fun h hregistered ↦ ?_,
    hopened.ended⟩
  · exact hreceiverAfter.trans (hreceiver.trans hopened.receiver)
  · show after.hasSender = true ∨ ToLocal.close ∈ after.items
    rw [hafter, hitems]
    obtain hsenderAfter | rfl := hsenderAfter
    · rw [hsenderAfter, hsender]
      exact (hopened.sender h).imp_right (List.mem_append_left _)
    · exact .inr (List.mem_append_right _ List.mem_cons_self)
  · show ToLocal.close ∉ after.items ++ []
    rw [hsame]
    exact hopened.registered h
  · show ToLocal.close ∈ after.items ++ []
    rw [hsame]
    exact hopened.unregistered h hregistered

theorem Opened.dropped (hopened : Opened view) (hover : view.conn.receiving = false) :
    Opened { view with held := none } := by
  refine ⟨hopened.fresh, hopened.receiver, hopened.sender, hopened.done, fun h hclose ↦ ?_,
    fun h ↦ absurd (hover.symm.trans h) nofun, hopened.ended⟩
  exact hopened.registered h (List.mem_append_left _ (by simpa using hclose))

/-- Replace what the session serves of a stream that arrived. -/
theorem Arrived.of_served (harrived : Arrived allow view) (hopened : Opened next)
    (hup : NoOpen next.up)
    (hremote : view.remote = none → next.remote = none)
    (htable : view.inTable = false → next.inTable = false)
    (hserved : ∀ stream, view.remote = some stream → Served view stream →
      ∃ streamNext, next.remote = some streamNext ∧ Served next streamNext) :
    Arrived allow next := by
  refine ⟨hopened, hup, fun h ↦ ?_, fun h ↦ ?_⟩
  · obtain ⟨stream, hstream, hold⟩ := harrived.served h
    exact hserved stream hstream hold
  · exact ⟨hremote (harrived.refused h).1, htable (harrived.refused h).2⟩

/-- The steps of the connection when the session has read the `StreamOpen`. -/
theorem Arrived.conn (harrived : Arrived allow view) {action : LocalAction} {conn : LocalConn}
    {effect : LocalEffect} (hstep : view.conn.Stepped action conn effect) :
    Arrived allow (view.affected conn effect) := by
  cases hends : endsHandler action with
  | false =>
    have hkept := kept_of_stepped harrived.fresh hends hstep
    obtain ⟨frames, hframes, haffected⟩ := affected_kept view hkept
    rw [haffected]
    refine harrived.of_served ((harrived.toOpened.kept hkept).of_same rfl rfl rfl) ?_ id id
      fun stream hstream hserved ↦ ?_
    · exact fun frame hframe ↦
        (List.mem_append.mp hframe).elim (harrived.up frame) (hframes frame)
    · obtain ⟨htasks, htable, hlive, hdead⟩ := hserved.kept hkept
      exact ⟨stream, hstream, htasks, htable, hlive, hdead⟩
  | true =>
    cases hstep with
    | takeClose rest hwaiting hrecv =>
      exact harrived.of_served (opened_finish rfl rfl) harrived.up id id
        fun stream hstream hserved ↦ ⟨stream, hstream, hserved.takeClose hwaiting hrecv⟩
    | endOfInput hwaiting hrecv =>
      obtain ⟨hitems, hsender⟩ := Channel.recv_eq_ended hrecv
      obtain h | h := harrived.sender (by rw [LocalConn.receiving, hwaiting])
      · exact absurd (hsender.symm.trans h) nofun
      · rw [hitems] at h
        exact absurd h List.not_mem_nil
    | deliverFailed byte rest hdelivering =>
      refine harrived.of_served (opened_finish rfl rfl) harrived.up id id
        fun stream hstream hserved ↦ ⟨stream, hstream, ?_⟩
      exact hserved.failed (by rw [LocalConn.receiving, hdelivering]) rfl rfl rfl rfl
    | greetFailed byte rest hgreeting =>
      refine harrived.of_served harrived.toOpened.abandon harrived.up id id
        fun stream hstream hserved ↦ ⟨stream, hstream, ?_⟩
      exact hserved.failed (by rw [LocalConn.receiving, hgreeting]) rfl rfl rfl rfl
    | _ => exact absurd hends nofun

/-- The steps when the session has read the `StreamOpen`. -/
theorem Arrived.step (harrived : Arrived allow view) (hstep : view.Step allow label next) :
    Arrived allow next := by
  have hnot : ∀ {frame : Frame} {rest : List Frame}, view.up = frame :: rest →
      isOpen frame = false ∧ NoOpen rest := by
    intro frame rest hup
    have hall := harrived.up
    rw [hup] at hall
    exact ⟨hall frame List.mem_cons_self, fun other h ↦ hall other (List.mem_cons_of_mem _ h)⟩
  cases hstep with
  | conn hstep => exact harrived.conn hstep
  | remote hremote hstep =>
    refine harrived.of_served (harrived.toOpened.of_same rfl rfl rfl) harrived.up
      (fun h ↦ absurd (hremote.symm.trans h) nofun) id fun stream hstream hserved ↦ ?_
    obtain rfl := Option.some.inj (hremote.symm.trans hstream)
    exact ⟨_, rfl, hserved.remote hstep⟩
  | opened target rest place hup | refused target rest hup =>
    exact absurd (hnot hup).1 nofun
  | data bytes rest hup =>
    refine harrived.of_served (harrived.toOpened.of_same rfl rfl rfl) (hnot hup).2
      (fun h ↦ by simp [h]) id fun stream hstream hserved ↦ ?_
    cases htable : view.inTable with
    | true =>
      refine ⟨stream.push bytes, by simp [hstream], hserved.inbox _ _ _ ?_⟩
      rw [Channel.hasSender_offer, ← hserved.table, htable]
    | false =>
      exact ⟨stream, by simpa using hstream,
        hserved.inbox _ _ stream.arrivals (htable.symm.trans hserved.table)⟩
  | closed error rest hup =>
    refine harrived.of_served (harrived.toOpened.of_same rfl rfl rfl) (hnot hup).2
      (fun h ↦ by simp [h]) (fun _ ↦ rfl) fun stream hstream hserved ↦ ?_
    cases htable : view.inTable with
    | true =>
      exact ⟨stream.dropSender, by simp [hstream], hserved.inbox _ _ stream.arrivals rfl⟩
    | false =>
      exact ⟨stream, by simpa using hstream,
        hserved.inbox _ _ stream.arrivals (htable.symm.trans hserved.table)⟩
  | demuxData bytes rest hdown hheld =>
    refine harrived.of_served (harrived.toOpened.demuxData bytes rest hheld) harrived.up id id
      fun stream hstream hserved ↦ ⟨stream, hstream, hserved.reader fun hreceiving ↦ ?_⟩
    have hregistered : view.registered = true := by
      by_contra h
      have hsilent := ((hserved.live hreceiving).silent (Bool.eq_false_iff.mpr h)).1
      rw [hdown] at hsilent
      exact absurd hsilent nofun
    refine ⟨?_, fun h ↦ absurd (hregistered.symm.trans h) nofun⟩
    simp [StreamView.messages, hregistered, hheld, hdown, toLocal]
  | demuxClose error rest hdown hheld =>
    refine harrived.of_served (harrived.toOpened.demuxClose rest hheld) harrived.up id id
      fun stream hstream hserved ↦ ⟨stream, hstream, hserved.reader fun hreceiving ↦ ?_⟩
    have hlive := hserved.live hreceiving
    have hregistered : view.registered = true := by
      by_contra h
      have hsilent := (hlive.silent (Bool.eq_false_iff.mpr h)).1
      rw [hdown] at hsilent
      exact absurd hsilent nofun
    have hmessages : view.messages =
        view.conn.inbox.items ++ .close :: rest.filterMap toLocal := by
      simp [StreamView.messages, hheld, hdown, toLocal]
    refine ⟨?_, fun _ ↦ ⟨?_, ?_⟩⟩
    · simp [hmessages, hregistered]
    · have hlast := hlive.last
      rw [hmessages, List.dropLast_append_of_ne_nil (List.cons_ne_nil _ _)] at hlast
      by_contra hrest
      rw [List.dropLast_cons_of_ne_nil hrest] at hlast
      exact hlast (List.mem_append_right _ List.mem_cons_self)
    · rw [hmessages]
      exact List.mem_append_right _ List.mem_cons_self
  | hand msg inbox hheld hsend =>
    refine harrived.of_served (harrived.toOpened.hand hheld hsend) harrived.up id id
      fun stream hstream hserved ↦ ⟨stream, hstream, ?_⟩
    obtain ⟨-, -, hitems, -, -⟩ := Channel.trySend_eq_some hsend
    obtain ⟨after, hreceived, hafter, -, -⟩ := received_eq view.conn msg inbox
    rw [hreceived]
    refine hserved.reader fun hreceiving ↦ ⟨?_, (hserved.live hreceiving).silent⟩
    simp [StreamView.messages, hafter, hitems, hheld]
  | dropped msg hheld hreceiver =>
    have hover : view.conn.receiving = false := harrived.receiver.symm.trans hreceiver
    refine harrived.of_served (harrived.toOpened.dropped hover) harrived.up id id
      fun stream hstream hserved ↦ ⟨stream, hstream, hserved.reader fun hreceiving ↦ ?_⟩
    exact absurd (hover.symm.trans hreceiving) nofun

/-- Every step keeps the invariant. -/
theorem StreamInv.step (hinvariant : StreamInv allow view) (hstep : view.Step allow label next) :
    StreamInv allow next := by
  cases hinvariant with
  | fresh h => exact h.step hstep
  | requested h => exact h.step hstep
  | arrived h => exact .arrived (h.step hstep)

end Stages

end EntroTunnel.Link
