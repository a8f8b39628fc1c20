import EntroTunnel.Link.Downlink

/-!
# The stream tables of a link at rest

The client's `StreamMap` and the session's `streams` ought to hold the same ids when nothing is in
flight, those of the streams that are open at both ends. Each side takes an id out when it learns
that the stream is closed, and may forget to tell the other: a handler that is closed by the server
aborts the uplink task before it has sent its `StreamClose`, so the session keeps the id; a relay
task that ends aborts the down task, and one that still dials goes on without a queue, so the client
keeps the id; and a refusal is dropped when the session's queue is full.

`Orderly` rules these steps out, and `Tidy` is what it keeps of a stream beyond `StreamInv`. In
every orderly run the tables of a link at rest agree (`tables_agree`). `remoteClose_leaks` is a run
in which the remote host closes first.
-/

set_option autoImplicit false
set_option relaxedAutoImplicit false

namespace EntroTunnel.Link

open EntroTunnel.Core EntroTunnel.Foundation EntroTunnel.Client EntroTunnel.Server

/-- Closes a stream. -/
def isClose : Frame → Bool
  | .streamClose _ _ => true
  | _ => false

/-- Each side has told the other before it gives up: the uplink task has sent its `StreamClose` when
a handler ends, the down task has when a relay task ends, a dial is over when the session drops the
stream, and a refusal finds room in the session's queue. -/
def Orderly (allow : Bool) (view : StreamView) : StreamLabel → Prop
  | .conn action => endsHandler action = true → allow = true → view.conn.uplink = .finished
  | .remote action => Patient allow view (.remote action)
  | .arrive room => ∀ frame ∈ view.up.head?,
      (isClose frame = true → ∀ stream ∈ view.remote, stream.relay ≠ .dialing) ∧
        (isOpen frame = true → allow = false → room = true)
  | _ => True

instance (allow : Bool) (view : StreamView) (label : StreamLabel) :
    Decidable (Orderly allow view label) :=
  match label with
  | .conn _ => inferInstanceAs (Decidable (_ → _ → _))
  | .remote action => inferInstanceAs (Decidable (Patient allow view (.remote action)))
  | .arrive _ => inferInstanceAs (Decidable (∀ frame ∈ view.up.head?, _ ∧ _))
  | .demux | .hand => inferInstanceAs (Decidable True)

/-- The uplink task of a handler in each of its phases. -/
def Handled (allow : Bool) (conn : LocalConn) : Prop :=
  match conn.phase with
  | .waiting | .delivering _ => conn.uplink ≠ .absent ∧ conn.uplink ≠ .aborted
  | .done => allow = true → conn.uplink = .finished
  | .abandoned => allow = false
  | _ => conn.uplink = .absent

/-- The uplink task is over exactly when its `StreamClose` is on its way or has arrived. -/
def Reported (view : StreamView) : Prop :=
  view.conn.uplink = .finished ↔
    (∃ frame ∈ view.up, isClose frame = true) ∨ (view.inTable = false ∧ NoOpen view.up)

/-- What an orderly run keeps of a stream. -/
structure Tidy (allow : Bool) (view : StreamView) : Prop where
  uncut : Uncut view
  handled : Handled allow view.conn
  reported : allow = true → view.conn.fresh = false → Reported view
  dialing : ∀ stream ∈ view.remote, view.inTable = false → stream.relay ≠ .dialing
  connected : ∀ stream ∈ view.remote, stream.down = .absent →
    stream.relay ≠ .waiting ∧ ∀ rest, stream.relay ≠ .writing rest
  refused : allow = false → view.conn.fresh = false → NoOpen view.up → view.registered = true →
    ∃ frame ∈ view.down, isClose frame = true

section Keeps

variable {allow : Bool} {view next : StreamView} {label : StreamLabel}

/-- An uplink task that runs has a handler that writes, and goes on under it. -/
theorem Handled.running {conn : LocalConn} (hhandled : Handled allow conn)
    (hover : conn.uplink ≠ .absent ∧ conn.uplink ≠ .finished) (uplink : UplinkPhase)
    (huplink : uplink ≠ .absent ∧ uplink ≠ .aborted) (inbound : Bytes) :
    Handled allow { conn with uplink, inbound } := by
  unfold Handled at hhandled ⊢
  cases hphase : conn.phase with
  | waiting | delivering rest => exact huplink
  | done =>
    rw [hphase] at hhandled
    exact fun hallow ↦ absurd (hhandled hallow) hover.2
  | abandoned =>
    rw [hphase] at hhandled
    exact hhandled
  | _ =>
    rw [hphase] at hhandled
    exact absurd hhandled hover.1

theorem handled_step {conn after : LocalConn} {action : LocalAction} {effect : LocalEffect}
    (hhandled : Handled allow conn)
    (hends : endsHandler action = true → allow = true → conn.uplink = .finished)
    (hstep : conn.Stepped action after effect) : Handled allow after := by
  have hserve : Handled allow conn.serve := ⟨nofun, nofun⟩
  have hphaseOf : ∀ {phase : LocalPhase}, conn.phase = phase →
      Handled allow { conn with phase } := by
    rintro phase rfl
    exact hhandled
  cases hstep with
  | read count buf hphase =>
    have huplink : conn.uplink = .absent := hphaseOf hphase
    cases headStep buf (conn.inbound.take count) <;> exact huplink
  | readEof buf hphase | readFailed buf hphase =>
    have huplink : conn.uplink = .absent := hphaseOf hphase
    exact huplink
  | openStream target forward hphase =>
    have huplink : conn.uplink = .absent := hphaseOf hphase
    unfold LocalConn.opened
    split_ifs
    · exact huplink
    · exact huplink
    · exact hserve
  | greet count rest hphase =>
    have huplink : conn.uplink = .absent := hphaseOf hphase
    exact huplink
  | greeted | forwardHead => exact ⟨nofun, nofun⟩
  | greetFailed byte rest hphase =>
    have huplink : conn.uplink = .absent := hphaseOf hphase
    show allow = false
    by_contra hallow
    cases huplink.symm.trans (hends rfl (Bool.eq_true_of_not_eq_false hallow))
  | take data rest hphase | deliver count rest hphase | delivered hphase =>
    have huplink : conn.uplink ≠ .absent ∧ conn.uplink ≠ .aborted := hphaseOf hphase
    exact huplink
  | takeClose | endOfInput | deliverFailed =>
    intro hallow
    exact congrArg UplinkPhase.abort (hends rfl hallow)
  | upRead count huplink =>
    exact hhandled.running (by simp [huplink]) (.sending _) ⟨nofun, nofun⟩ _
  | upEof huplink | upFailed huplink =>
    exact hhandled.running (by simp [huplink]) .closing ⟨nofun, nofun⟩ _
  | upSend data huplink =>
    exact hhandled.running (by simp [huplink]) .reading ⟨nofun, nofun⟩ _
  | upClose huplink => exact hhandled.running (by simp [huplink]) .finished ⟨nofun, nofun⟩ _
  | localSends | localCloses | localResets => exact hhandled

/-- The frame that a step puts into the client's queue. -/
def emitted : LocalEffect → List Frame
  | .emit frame => [frame]
  | _ => []

theorem affected_fixed (view : StreamView) (conn : LocalConn) (effect : LocalEffect) :
    (view.affected conn effect).conn = conn ∧
      (view.affected conn effect).up = view.up ++ emitted effect ∧
      (view.affected conn effect).inTable = view.inTable ∧
      (view.affected conn effect).remote = view.remote ∧
      (view.affected conn effect).down = view.down := by
  cases effect <;> simp [StreamView.affected, emitted]

/-- What an open connection puts into the client's queue. -/
theorem emitted_of_stepped {conn after : LocalConn} {action : LocalAction} {effect : LocalEffect}
    (hfresh : conn.fresh = false) (hhandled : Handled allow conn)
    (hstep : conn.Stepped action after effect) :
    effect ≠ .register ∧ NoOpen (emitted effect) ∧
      (after.uplink = .finished ↔
        conn.uplink = .finished ∨ ∃ frame ∈ emitted effect, isClose frame = true) := by
  have habort : conn.uplink.abort = .finished ↔ conn.uplink = .finished := by
    cases conn.uplink <;> simp [UplinkPhase.abort]
  have habsent : ∀ {phase : LocalPhase}, conn.phase = phase →
      Handled allow { conn with phase } := by
    rintro phase rfl
    exact hhandled
  cases hstep with
  | read _ _ hphase | readEof _ hphase | readFailed _ hphase | openStream _ _ hphase =>
    rw [LocalConn.fresh, hphase] at hfresh
    cases hfresh
  | greeted hphase | forwardHead data hphase =>
    have huplink : conn.uplink = .absent := habsent hphase
    simp [LocalConn.serve, huplink, emitted, NoOpen, isOpen, isClose]
  | takeClose | endOfInput | deliverFailed =>
    simpa [LocalConn.finish, emitted, NoOpen] using habort
  | upRead _ huplink | upEof huplink | upFailed huplink | upSend _ huplink | upClose huplink =>
    simp [huplink, emitted, NoOpen, isOpen, isClose]
  | _ => simp [emitted, NoOpen]

/-- The step that opens a stream. -/
theorem opened_of_stepped {conn after : LocalConn} {action : LocalAction} {effect : LocalEffect}
    (hfresh : conn.fresh = true) (hafter : after.fresh = false)
    (hstep : conn.Stepped action after effect) :
    ∃ target, effect = .emit (.streamOpen conn.id target) ∧
      (after.uplink = conn.uplink ∨ after.uplink = .reading) := by
  cases hstep with
  | read count buf hphase =>
    exfalso
    revert hafter
    cases headStep buf (conn.inbound.take count) <;> simp [LocalConn.parsed, LocalConn.fresh]
  | readEof | readFailed => cases hafter
  | openStream target forward =>
    refine ⟨target, rfl, ?_⟩
    unfold LocalConn.opened
    split_ifs
    · exact .inl rfl
    · exact .inl rfl
    · exact .inr rfl
  | greet _ _ hphase | greeted hphase | greetFailed _ _ hphase | forwardHead _ hphase
  | take _ _ hphase | takeClose _ hphase | endOfInput hphase | deliver _ _ hphase
  | delivered hphase | deliverFailed _ _ hphase =>
    rw [LocalConn.fresh, hphase] at hfresh
    cases hfresh
  | _ => cases hfresh.symm.trans hafter

/-- The steps of the connection keep what is known of its `StreamClose`. -/
theorem reported_conn (hinvariant : StreamInv allow view) (htidy : Tidy allow view)
    {action : LocalAction} {conn : LocalConn} {effect : LocalEffect}
    (hstep : view.conn.Stepped action conn effect) (hallow : allow = true)
    (hafter : conn.fresh = false) : Reported (view.affected conn effect) := by
  obtain ⟨hconn, hup, htable, -, -⟩ := affected_fixed view conn effect
  unfold Reported
  rw [hconn, hup, htable]
  cases hfresh : view.conn.fresh with
  | true =>
    obtain ⟨target, rfl, huplink⟩ := opened_of_stepped hfresh hafter hstep
    have hstart : Fresh view := by
      cases hinvariant with
      | fresh h => exact h
      | requested h => cases hfresh.symm.trans h.fresh
      | arrived h => cases hfresh.symm.trans h.fresh
    have hopen : ¬ conn.uplink = .finished := by
      rw [hstart.uplink] at huplink
      obtain h | h := huplink <;> simp [h]
    simp [hopen, hstart.up, emitted, NoOpen, isOpen, isClose]
  | false =>
    obtain ⟨-, hnoOpen, huplink⟩ := emitted_of_stepped hfresh htidy.handled hstep
    have hreported : view.conn.uplink = .finished ↔ _ := htidy.reported hallow hfresh
    have hopen : NoOpen (view.up ++ emitted effect) ↔ NoOpen view.up :=
      ⟨fun h frame hframe ↦ h frame (List.mem_append_left _ hframe), fun h frame hframe ↦
        (List.mem_append.mp hframe).elim (h frame) (hnoOpen frame)⟩
    have hclose : (∃ frame ∈ view.up ++ emitted effect, isClose frame = true) ↔
        (∃ frame ∈ view.up, isClose frame = true) ∨
          ∃ frame ∈ emitted effect, isClose frame = true := by
      simp only [List.mem_append, or_and_right, exists_or]
    rw [huplink, hreported, hopen, hclose]
    exact or_right_comm

/-- A frame that opens no stream leaves the queue. -/
theorem noOpen_cons {frame : Frame} {rest : List Frame} (hframe : isOpen frame = false)
    (hrest : NoOpen rest) : NoOpen (frame :: rest) := by
  intro other hother
  obtain rfl | hother := List.mem_cons.mp hother
  · exact hframe
  · exact hrest other hother

/-- The session reads frames of a stream. -/
theorem reported_arrive (hinvariant : StreamInv allow view) (htidy : Tidy allow view) {room : Bool}
    (hstep : view.Step allow (.arrive room) next) (hallow : allow = true)
    (hfresh : next.conn.fresh = false) : Reported next := by
  have hopened : view.conn.fresh = false := by
    cases hstep <;> exact hfresh
  have hreported : view.conn.uplink = .finished ↔ _ := htidy.reported hallow hopened
  unfold Reported
  cases hstep with
  | opened target rest place hup =>
    rw [hup] at hreported
    simpa [isClose, NoOpen, isOpen] using hreported
  | refused target rest hup hrefused => cases hallow.symm.trans hrefused
  | data bytes rest hup =>
    rw [hup] at hreported
    simpa [isClose, NoOpen, isOpen] using hreported
  | closed error rest hup =>
    have hrest : NoOpen rest := by
      cases hinvariant with
      | fresh h => cases hup.symm.trans h.up
      | requested h =>
        obtain ⟨target, others, hopen, -⟩ := h.up
        cases hup.symm.trans hopen
      | arrived h =>
        intro frame hframe
        refine h.up frame ?_
        rw [hup]
        exact List.mem_cons_of_mem _ hframe
    have hfinished : view.conn.uplink = .finished :=
      hreported.mpr (.inl ⟨_, by rw [hup]; exact List.mem_cons_self, rfl⟩)
    simp [hfinished, hrest]

/-- The relay task dials at the start only, and has a down task once it is connected. -/
theorem relay_of_stepped {stream after : RemoteStream} {action : RemoteAction}
    {frame : Option Frame} (hstep : stream.Stepped true action after frame)
    (hconnected : stream.down = .absent →
      stream.relay ≠ .waiting ∧ ∀ rest, stream.relay ≠ .writing rest) :
    (stream.relay ≠ .dialing → after.relay ≠ .dialing) ∧
      (after.down = .absent → after.relay ≠ .waiting ∧ ∀ rest, after.relay ≠ .writing rest) := by
  cases hstep with
  | dialed => exact ⟨nofun, nofun⟩
  | dialFailed | refuse => exact ⟨nofun, fun _ ↦ ⟨nofun, nofun⟩⟩
  | take _ _ hrelay | written hrelay =>
    refine ⟨fun _ ↦ nofun, fun habsent ↦ ?_⟩
    have hbefore := hconnected habsent
    simp [hrelay] at hbefore
  | write _ _ hrelay =>
    refine ⟨fun _ ↦ nofun, fun habsent ↦ ?_⟩
    have hbefore := hconnected habsent
    simp [hrelay] at hbefore
  | writeFailed | finish => exact ⟨fun _ ↦ nofun, fun _ ↦ ⟨nofun, nofun⟩⟩
  | remoteSends | remoteCloses | remoteResets => exact ⟨id, hconnected⟩
  | _ => exact ⟨id, nofun⟩

theorem tidy_fresh (allow : Bool) (view : StreamView) (hfresh : Fresh view) : Tidy allow view where
  uncut := uncut_fresh view hfresh
  handled := by
    have hphase := hfresh.fresh
    unfold LocalConn.fresh at hphase
    unfold Handled
    split at hphase
    all_goals simp_all [hfresh.uplink]
  reported _ hopened := absurd (hfresh.fresh.symm.trans hopened) nofun
  dialing stream hstream := by cases hfresh.remote.symm.trans hstream
  connected stream hstream := by cases hfresh.remote.symm.trans hstream
  refused _ hopened := absurd (hfresh.fresh.symm.trans hopened) nofun

/-- An orderly step is one with which no response is cut short. -/
theorem patient_of_orderly (horderly : Orderly allow view label) : Patient allow view label := by
  cases label with
  | remote action => exact horderly
  | _ => trivial

/-- The steps of the connection keep a refusal on its way. -/
theorem refused_conn (htidy : Tidy allow view) {action : LocalAction} {conn : LocalConn}
    {effect : LocalEffect} (hstep : view.conn.Stepped action conn effect) (hrefused : allow = false)
    (hfresh : conn.fresh = false) (hopen : NoOpen (view.up ++ emitted effect))
    (hregistered : (view.affected conn effect).registered = true) :
    ∃ frame ∈ view.down, isClose frame = true := by
  cases hbefore : view.conn.fresh with
  | true =>
    obtain ⟨target, rfl, -⟩ := opened_of_stepped hbefore hfresh hstep
    cases hopen _ (List.mem_append_right _ List.mem_cons_self)
  | false =>
    refine htidy.refused hrefused hbefore
      (fun frame hframe ↦ hopen frame (List.mem_append_left _ hframe)) ?_
    have hregister := (emitted_of_stepped hbefore htidy.handled hstep).1
    cases effect with
    | none | emit frame => exact hregistered
    | register => exact absurd rfl hregister
    | unregister => cases hregistered

/-- The tasks of a remote stream are where they were when the session changes its queue. -/
theorem connected_of_change (htidy : Tidy allow view) (change : RemoteStream → RemoteStream)
    (hchange : ∀ stream, (change stream).down = stream.down ∧ (change stream).relay = stream.relay)
    {inTable : Bool} {stream : RemoteStream}
    (hstream : stream ∈ if inTable then view.remote.map change else view.remote) :
    stream.down = .absent → stream.relay ≠ .waiting ∧ ∀ rest, stream.relay ≠ .writing rest := by
  obtain ⟨before, hbefore, hdown, hrelay⟩ := exists_before change hchange hstream
  rw [hdown, hrelay]
  exact htidy.connected before hbefore

theorem tidy_step (view : StreamView) (label : StreamLabel) (next : StreamView)
    (hinvariant : StreamInv allow view) (htidy : Tidy allow view)
    (horderly : Orderly allow view label) (hstep : view.Step allow label next) :
    Tidy allow next := by
  have huncut := uncut_step view label next hinvariant htidy.uncut (patient_of_orderly horderly)
    hstep
  have harrive : ∀ {room : Bool}, label = .arrive room → allow = true → next.conn.fresh = false →
      Reported next := by
    rintro room rfl
    exact reported_arrive hinvariant htidy hstep
  cases hstep with
  | conn hstep =>
    rename_i action conn effect
    obtain ⟨hconn, hup, htable, hremote, hdown⟩ := affected_fixed view conn effect
    refine ⟨huncut, ?_, fun hallow hfresh ↦ ?_, ?_, ?_, fun hrefused hfresh hopen hregistered ↦ ?_⟩
    · rw [hconn]
      exact handled_step htidy.handled horderly hstep
    · exact reported_conn hinvariant htidy hstep hallow (hconn ▸ hfresh)
    · rw [hremote, htable]
      exact htidy.dialing
    · rw [hremote]
      exact htidy.connected
    · rw [hdown]
      exact refused_conn htidy hstep hrefused (hconn ▸ hfresh) (hup ▸ hopen) hregistered
  | remote hremote hstep =>
    refine ⟨huncut, htidy.handled, htidy.reported, fun stream hstream htable ↦ ?_,
      fun stream hstream ↦ ?_, fun hrefused hfresh hopen hregistered ↦ ?_⟩
    · obtain rfl := Option.some.inj hstream
      exact (relay_of_stepped hstep (htidy.connected _ hremote)).1
        (htidy.dialing _ hremote htable)
    · obtain rfl := Option.some.inj hstream
      exact (relay_of_stepped hstep (htidy.connected _ hremote)).2
    · obtain ⟨frame, hframe, hclose⟩ := htidy.refused hrefused hfresh hopen hregistered
      exact ⟨frame, List.mem_append_left _ hframe, hclose⟩
  | opened target rest place hup hallow =>
    refine ⟨huncut, htidy.handled, harrive rfl, (fun _ _ htable ↦ by cases htable),
      fun stream hstream ↦ ?_, fun hrefused ↦ ?_⟩
    · obtain rfl := Option.some.inj hstream
      exact fun _ ↦ ⟨nofun, nofun⟩
    · cases hallow.symm.trans hrefused
  | refused target rest hup hallow =>
    have hhead : Frame.streamOpen view.conn.id target ∈ view.up.head? := by rw [hup]; rfl
    have hroom := (horderly _ hhead).2 rfl hallow
    refine ⟨huncut, htidy.handled, harrive rfl, htidy.dialing, htidy.connected,
      fun _ _ _ _ ↦ ⟨notAllowed view.conn.id, List.mem_append_right _ ?_, rfl⟩⟩
    rw [if_pos hroom]
    exact List.mem_cons_self
  | data bytes rest hup =>
    refine ⟨huncut, htidy.handled, harrive rfl, fun stream hstream htable ↦ ?_,
      fun stream hstream ↦ ?_, fun hrefused hfresh hopen ↦ ?_⟩
    · obtain ⟨before, hbefore, -, hrelay⟩ :=
        exists_before (·.push bytes) (fun _ ↦ ⟨rfl, rfl⟩) hstream
      exact hrelay ▸ htidy.dialing before hbefore htable
    · exact connected_of_change htidy (·.push bytes) (fun _ ↦ ⟨rfl, rfl⟩) hstream
    · exact htidy.refused hrefused hfresh (by rw [hup]; exact noOpen_cons rfl hopen)
  | closed error rest hup =>
    have hhead : Frame.streamClose view.conn.id error ∈ view.up.head? := by rw [hup]; rfl
    refine ⟨huncut, htidy.handled, harrive rfl, fun stream hstream htable ↦ ?_,
      fun stream hstream ↦ ?_, fun hrefused hfresh hopen ↦ ?_⟩
    · obtain ⟨before, hbefore, -, hrelay⟩ := exists_before .dropSender (fun _ ↦ ⟨rfl, rfl⟩) hstream
      exact hrelay ▸ (horderly _ hhead).1 rfl before hbefore
    · exact connected_of_change htidy .dropSender (fun _ ↦ ⟨rfl, rfl⟩) hstream
    · exact htidy.refused hrefused hfresh (by rw [hup]; exact noOpen_cons rfl hopen)
  | demuxData bytes rest hdown =>
    refine ⟨huncut, htidy.handled, htidy.reported, htidy.dialing, htidy.connected,
      fun hrefused hfresh hopen hregistered ↦ ?_⟩
    obtain ⟨frame, hframe, hclose⟩ := htidy.refused hrefused hfresh hopen hregistered
    rw [hdown] at hframe
    obtain rfl | hframe := List.mem_cons.mp hframe
    · cases hclose
    · exact ⟨frame, hframe, hclose⟩
  | demuxClose error rest =>
    exact ⟨huncut, htidy.handled, htidy.reported, htidy.dialing, htidy.connected,
      fun _ _ _ hregistered ↦ by cases hregistered⟩
  | hand msg inbox =>
    obtain ⟨after, hreceived, -⟩ := received_eq view.conn msg inbox
    rw [hreceived] at huncut ⊢
    exact ⟨huncut, htidy.handled, htidy.reported, htidy.dialing, htidy.connected, htidy.refused⟩
  | dropped =>
    exact ⟨huncut, htidy.handled, htidy.reported, htidy.dialing, htidy.connected, htidy.refused⟩

end Keeps

/-! ### At rest -/

/-- A connection that is open in both directions. -/
structure LocalOpen (conn : LocalConn) : Prop where
  phase : conn.phase = .waiting
  uplink : conn.uplink = .reading
  inboundEof : conn.inboundEof = false
  reset : conn.reset = false

/-- A remote connection that is being dialed, or open in both directions. -/
def RemoteOpen (stream : RemoteStream) : Prop :=
  stream.relay = .dialing ∨ (stream.relay = .waiting ∧ stream.down = .reading ∧
    stream.inboundEof = false ∧ stream.reset = false)

section Rest

variable {allow : Bool} {view : StreamView}

/-- A remote stream at rest that has neither reported its end nor lost its down task. -/
theorem remoteOpen_of_rest {stream : RemoteStream} (htasks : Tasks stream)
    (hidle : Hop.idleStream stream = true) (hreported : stream.reported = false)
    (haborted : stream.down ≠ .aborted)
    (hconnected : stream.down = .absent →
      stream.relay ≠ .waiting ∧ ∀ rest, stream.relay ≠ .writing rest) : RemoteOpen stream := by
  simp only [Hop.idleStream, Bool.and_eq_true] at hidle
  obtain ⟨hidleRelay, hidleDown⟩ := hidle
  simp only [RemoteStream.reported, Bool.or_eq_false_iff, Bool.and_eq_false_iff,
    decide_eq_false_iff_not] at hreported
  obtain ⟨hfinished, habsent⟩ := hreported
  cases hrelay : stream.relay with
  | dialing => exact .inl hrelay
  | waiting =>
    cases hdown : stream.down with
    | reading =>
      simp [hdown] at hidleDown
      exact .inr ⟨hrelay, hdown, hidleDown.1.2, hidleDown.2⟩
    | absent => exact absurd hrelay (hconnected hdown).1
    | finished => exact absurd hdown hfinished
    | aborted => exact absurd hdown haborted
    | forwarding | closing => simp [hdown] at hidleDown
  | ended =>
    obtain hdown | hdown | hdown := htasks.ended hrelay
    · exact absurd habsent (by simp [hrelay, hdown])
    · exact absurd hdown hfinished
    · exact absurd hdown haborted
  | refusing | writing => simp [hrelay] at hidleRelay

/-- The handler of a stream at rest waits: the stream is open at both ends. -/
theorem open_of_waiting (htidy : Tidy allow view) {stream : RemoteStream}
    (hstream : view.remote = some stream) (hserved : Served view stream)
    (hdown : view.down = []) (hheld : view.held = none) (hphase : view.conn.phase = .waiting)
    (hidle : view.conn.idle = true) (hidleStream : Hop.idleStream stream = true)
    (hreported : view.conn.uplink = .finished → view.inTable = false) :
    view.inTable = true ∧ view.registered = true ∧ LocalOpen view.conn ∧ RemoteOpen stream := by
  have hhandled := htidy.handled
  rw [Handled, hphase] at hhandled
  rw [LocalConn.idle, Bool.and_eq_true, hphase] at hidle
  simp only [Bool.and_eq_true, decide_eq_true_iff] at hidle
  obtain ⟨⟨hitems, -⟩, huplink⟩ := hidle
  have hreceiving : view.conn.receiving = true := by rw [LocalConn.receiving, hphase]
  have hmessages : view.messages = [] := by
    simp [StreamView.messages, hitems, hheld, hdown]
  have hlive := hserved.live hreceiving
  rw [hmessages] at hlive
  have hregistered : view.registered = true := by
    by_contra hregistered
    exact absurd (hlive.silent (Bool.eq_false_iff.mpr hregistered)).2 List.not_mem_nil
  have hopen : RemoteOpen stream := by
    refine remoteOpen_of_rest hserved.tasks hidleStream
      (Bool.eq_false_iff.mpr fun hend ↦ ?_) (htidy.uncut.down hregistered stream hstream)
      (htidy.connected stream hstream)
    exact absurd (hlive.reported.mpr hend) List.not_mem_nil
  have htable : view.inTable = true := by
    by_contra htable
    have htable := Bool.eq_false_iff.mpr htable
    obtain hrelay | ⟨hrelay, -⟩ := hopen
    · exact htidy.dialing stream hstream htable hrelay
    · have hidleRelay := hidleStream
      have hsender : stream.inbox.hasSender = false := hserved.table.symm.trans htable
      simp only [Hop.idleStream, Bool.and_eq_true, hrelay] at hidleRelay
      cases hrecv : stream.inbox.recv with
      | waiting => cases hsender.symm.trans (Channel.recv_eq_waiting hrecv).2
      | item | ended => simp [hrecv] at hidleRelay
  have hreading : view.conn.uplink = .reading ∧ view.conn.quiet = true := by
    cases hphaseUp : view.conn.uplink with
    | reading => exact ⟨rfl, by simpa [hphaseUp] using huplink⟩
    | absent => exact absurd hphaseUp hhandled.1
    | aborted => exact absurd hphaseUp hhandled.2
    | finished => cases htable.symm.trans (hreported hphaseUp)
    | sending | closing => simp [hphaseUp] at huplink
  obtain ⟨-, heof, hreset⟩ := LocalConn.quiet_iff.mp hreading.2
  exact ⟨htable, hregistered, ⟨hphase, hreading.1, heof, hreset⟩, hopen⟩

/-- A stream at rest is in both tables or in none, and in both only if it is open at both ends. -/
theorem agree_of_rest (hinvariant : StreamInv allow view) (htidy : Tidy allow view)
    (hup : view.up = []) (hdown : view.down = []) (hheld : view.held = none)
    (hidle : view.conn.idle = true)
    (hidleStream : ∀ stream ∈ view.remote, Hop.idleStream stream = true) :
    view.inTable = view.registered ∧ (view.registered = true →
      LocalOpen view.conn ∧ ∃ stream, view.remote = some stream ∧ RemoteOpen stream) := by
  have hneither : view.inTable = false → view.registered = false →
      view.inTable = view.registered ∧ (view.registered = true →
        LocalOpen view.conn ∧ ∃ stream, view.remote = some stream ∧ RemoteOpen stream) :=
    fun htable hregistered ↦ ⟨htable.trans hregistered.symm, fun h ↦
      absurd (hregistered.symm.trans h) nofun⟩
  cases hinvariant with
  | fresh h =>
    refine hneither h.inTable (Bool.eq_false_iff.mpr fun hregistered ↦ ?_)
    obtain ⟨target, forward, hphase⟩ := h.registered.mp hregistered
    simp [LocalConn.idle, hphase] at hidle
  | requested h =>
    obtain ⟨target, rest, hopen, -⟩ := h.up
    cases hup.symm.trans hopen
  | arrived h =>
    cases hallow : allow with
    | false =>
      refine hneither (h.refused hallow).2 (Bool.eq_false_iff.mpr fun hregistered ↦ ?_)
      obtain ⟨frame, hframe, -⟩ := htidy.refused hallow h.fresh h.up hregistered
      rw [hdown] at hframe
      cases hframe
    | true =>
      obtain ⟨stream, hstream, hserved⟩ := h.served hallow
      -- With nothing on its way, the `StreamClose` of the client has arrived once it was sent.
      have hreported : view.conn.uplink = .finished ↔ view.inTable = false := by
        have hsent : view.conn.uplink = .finished ↔ _ := htidy.reported hallow h.fresh
        rw [hsent, hup]
        simp [NoOpen]
      have hhandled := htidy.handled
      cases hphase : view.conn.phase with
      | done =>
        rw [Handled, hphase] at hhandled
        exact hneither (hreported.mp (hhandled hallow)) (h.done hphase)
      | abandoned =>
        rw [Handled, hphase] at hhandled
        cases hallow.symm.trans hhandled
      | waiting =>
        obtain ⟨htable, hregistered, hlocal, hremote⟩ := open_of_waiting htidy hstream hserved hdown
          hheld hphase hidle (hidleStream stream hstream) hreported.mp
        exact ⟨htable.trans hregistered.symm, fun _ ↦ ⟨hlocal, stream, hstream, hremote⟩⟩
      | parsing | refused | opening =>
        have hfresh := h.fresh
        rw [LocalConn.fresh, hphase] at hfresh
        cases hfresh
      | greeting | forwarding | delivering => simp [LocalConn.idle, hphase] at hidle

end Rest

namespace ProxyLink

/-- In every orderly run, in every quiescent state: an id is in the session's table if and only if
it is in the client's, and only if the stream is open at both ends. -/
theorem tables_agree {peer : PeerConfig} {hello : Hello} {hasTun : Bool}
    {actions : List LinkAction} {final : ProxyLink}
    (hrun : run (guarded (Meets Orderly) ProxyLink.step) (start peer hello hasTun) actions =
      some final)
    (hquiescent : final.Quiescent) (id : StreamId) :
    (id ∈ final.session.streams ↔ id ∈ final.client.streams) ∧
      (id ∈ final.client.streams →
        (∃ conn ∈ final.client.conns, conn.id = id ∧ LocalOpen conn) ∧
          ∃ stream ∈ final.session.remotes, stream.id = id ∧ RemoteOpen stream) := by
  have hsound := streams_of_run (tidy_fresh peer.allowHttpProxy) tidy_step rfl hrun
  have hidle := hquiescent.idle hsound.numbered hsound.aimed fun index hindex ↦
    (hsound.streams index hindex).1
  obtain ⟨place, hplace, rfl⟩ := exists_idOf id
  obtain ⟨hup, hdown, hheld, hidleConn, hidleStream⟩ := rest_of_idle hidle place
  obtain ⟨hinvariant, htidy⟩ := hsound.streams place hplace
  obtain ⟨hagree, hopen⟩ := agree_of_rest hinvariant htidy hup hdown hheld hidleConn hidleStream
  rw [← AList.lookup_isSome, ← AList.lookup_isSome]
  refine ⟨Bool.eq_iff_iff.mp hagree, fun hregistered ↦ ?_⟩
  obtain ⟨hconnOpen, stream, hstream, hstreamOpen⟩ := hopen hregistered
  obtain ⟨index, hlookup⟩ := Option.isSome_iff_exists.mp hregistered
  obtain ⟨hlt, hid⟩ := hsound.numbered.clientTable _ index hlookup
  obtain rfl := idOf_inj (hlt.trans_le hsound.numbered.count) hplace hid
  have hconn : (final.view index).conn = final.client.conns[index] :=
    connAt_eq (List.getElem?_eq_getElem hlt)
  refine ⟨⟨final.client.conns[index], List.getElem_mem hlt, ?_, hconn ▸ hconnOpen⟩,
    stream, List.mem_of_find?_eq_some hstream, streamWith_id hstream, hstreamOpen⟩
  rw [← hconn]
  exact hsound.numbered.conns index

/-- A request under way: the stream is in both tables. -/
theorem tables_agree_request :
    ∃ final, run (guarded (Meets Orderly) ProxyLink.step) proxyLink requestRun = some final ∧
      1 ∈ final.session.streams ∧ 1 ∈ final.client.streams ∧
        ∃ stream ∈ final.session.remotes, stream.id = 1 ∧ RemoteOpen stream := by
  obtain ⟨final, hrun, hfinal⟩ : ∃ final,
      run (guarded (Meets Orderly) ProxyLink.step) proxyLink requestRun = some final ∧
        (final.idle && decide (1 ∈ final.client.streams)) = true :=
    Option.any_eq_true _ _ |>.mp (by decide +kernel)
  simp only [Bool.and_eq_true, decide_eq_true_iff] at hfinal
  obtain ⟨hidle, hclient⟩ := hfinal
  obtain ⟨hagree, hopen⟩ := tables_agree hrun (quiescent_of_idle hidle) 1
  exact ⟨final, hrun, hagree.mpr hclient, hclient, (hopen hclient).2⟩

/-- When the remote host closes first, the session keeps the id. -/
theorem remoteClose_leaks :
    ¬ ∀ (peer : PeerConfig) (hello : Hello) (hasTun : Bool) (actions : List LinkAction)
      (final : ProxyLink), run ProxyLink.step (start peer hello hasTun) actions = some final →
        final.Quiescent →
          ∀ id, id ∈ final.session.streams ↔ id ∈ final.client.streams := by
  intro hall
  obtain ⟨final, hrun, hfinal⟩ : ∃ final,
      run ProxyLink.step proxyLink (requestRun ++ answerRun ++ forwardRun ++ deliveryRun) =
        some final ∧
        (final.idle && decide (1 ∈ final.session.streams) &&
          !decide (1 ∈ final.client.streams)) = true :=
    Option.any_eq_true _ _ |>.mp (by decide +kernel)
  simp only [Bool.and_eq_true, Bool.not_eq_true', decide_eq_true_iff, decide_eq_false_iff_not]
    at hfinal
  obtain ⟨⟨hidle, hsession⟩, hclient⟩ := hfinal
  exact hclient ((hall _ _ _ _ final hrun (quiescent_of_idle hidle) 1).mp hsession)

end ProxyLink

end EntroTunnel.Link
