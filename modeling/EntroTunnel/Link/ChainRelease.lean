import EntroTunnel.Foundation.PartialRun
import EntroTunnel.Foundation.Places
import EntroTunnel.Link.Chain

/-!
# What is left of a chain that was dropped

When the topmost tunnel is closed or dropped, the uplink of the carrier below reads the end of its
pipe and tells the hop to close the stream. The hop's session forgets the stream and aborts the task
that would have reported the remote's end, so that nothing ends the carrier's downlink, which keeps
the writer pump and with it the session (`carrier_left`). The downlink ends when a report of the hop
is on its way before the session takes the client's `StreamClose`. `Reported` excludes the steps
that take it otherwise; in runs without them nothing is left in a quiescent state
(`carriers_released`).
-/

set_option autoImplicit false
set_option relaxedAutoImplicit false

namespace EntroTunnel.Link

open EntroTunnel.Core EntroTunnel.Foundation EntroTunnel.Client EntroTunnel.Server

/-! ### Frames on the way -/

/-- The frame that the pump is sending. -/
def pumping : CarrierPump → List Frame
  | .sending frame => [frame]
  | _ => []

/-- The frame closes the carrier's stream. -/
def closesStream : Frame → Bool
  | .streamClose id _ => id = carrierId
  | _ => false

/-- The frame brings bytes for the carrier's stream. -/
def bringsBytes : Frame → Bool
  | .streamData id data => id = carrierId && data ≠ []
  | _ => false

namespace Hop

/-- What the client has for the server, the oldest first. -/
def pending (hop : Hop) : List Frame :=
  hop.up ++ pumping hop.carrier.pump ++ hop.carrier.out.items

/-- What the server has for the client, the oldest first. -/
def inFlight (hop : Hop) : List Frame :=
  hop.session.wire ++ hop.session.outbox.items

/-- The downlink ends when it receives the frame: it closes the stream, or its bytes cannot be
written to a pipe whose near end is gone. -/
def endsDownlink (hop : Hop) (frame : Frame) : Bool :=
  closesStream frame || (hop.carrier.near = .gone && bringsBytes frame)

/-- The downlink has bytes for a pipe whose near end is gone. -/
def failing (hop : Hop) : Bool :=
  match hop.carrier.downlink with
  | .writing (_ :: _) => hop.carrier.near = .gone
  | _ => false

/-- The downlink is over, or will be by what is on its way. -/
def reported (hop : Hop) : Bool :=
  hop.carrier.downlink = .ended || hop.failing || !hop.session.outbox.hasReceiver ||
    hop.inFlight.any hop.endsDownlink

theorem reported_iff (hop : Hop) :
    hop.reported = true ↔ hop.carrier.downlink = .ended ∨ hop.failing = true ∨
      hop.session.outbox.hasReceiver = false ∨ ∃ frame ∈ hop.inFlight,
        hop.endsDownlink frame = true := by
  simp [reported, or_assoc]

end Hop

section Sessions

variable {session next : Session} {action : SessionAction}

/-- Reading a frame leaves the queue as it is, or offers it an answer. -/
theorem handle_outbox (session : Session) (peers : List PeerInfo) (frame : Frame) :
    (session.handle peers frame).outbox = session.outbox ∨
      ∃ answer, (session.handle peers frame).outbox = session.outbox.offer answer := by
  unfold Session.handle
  split
  · split_ifs <;> exact .inl rfl
  · exact .inr ⟨_, rfl⟩
  · exact .inr ⟨_, rfl⟩
  · split_ifs
    · exact .inl rfl
    · exact .inr ⟨_, rfl⟩
  · exact .inl rfl
  · exact .inl rfl
  · exact .inl rfl

theorem items_offer_prefix {Item : Type*} {capacity : ℕ} (channel : Channel Item capacity)
    (item : Item) : ∃ more, (channel.offer item).items = channel.items ++ more := by
  rw [Channel.items_offer]
  split_ifs
  · exact ⟨[item], rfl⟩
  · exact ⟨[], (List.append_nil _).symm⟩

/-- What is on the way to the client stays so, unless the writer is gone. -/
theorem session_inFlight (hstep : session.step action = some next)
    (hdelivered : action ≠ .delivered) :
    next.outbox.hasReceiver = false ∨
      (next.outbox.hasReceiver = session.outbox.hasReceiver ∧
        ∃ more, next.wire ++ next.outbox.items = session.wire ++ session.outbox.items ++ more) := by
  cases action with
  | receive frame peers =>
    obtain ⟨-, rfl⟩ := Session.step_receive hstep
    right
    obtain ⟨-, -, -, -, -, hwire⟩ :=
      Session.handle_frame { session with received := session.received ++ [frame] } peers frame
    rw [hwire]
    obtain hsame | ⟨answer, hanswer⟩ :=
      handle_outbox { session with received := session.received ++ [frame] } peers frame
    · rw [hsame]
      exact ⟨rfl, [], (List.append_nil _).symm⟩
    · obtain ⟨more, hmore⟩ := items_offer_prefix session.outbox answer
      rw [hanswer]
      refine ⟨Channel.hasReceiver_offer .., more, ?_⟩
      rw [hmore, List.append_assoc]
  | send =>
    obtain ⟨frame, rest, hrecv, rfl⟩ := Session.step_send hstep
    obtain ⟨hitems, -, hreceiver⟩ := Channel.recv_eq_item hrecv
    refine .inr ⟨hreceiver, [], ?_⟩
    simp [hitems]
  | remote index action =>
    obtain ⟨stream, changed, frame, outbox, -, -, hput, rfl⟩ := Session.step_remote hstep
    obtain ⟨hitems, -, hreceiver⟩ := Channel.put_eq_some hput
    exact .inr ⟨hreceiver, frame.toList, by simp [hitems]⟩
  | delivered => exact absurd rfl hdelivered
  | sendFailed =>
    obtain rfl := Session.step_sendFailed hstep
    exact .inl rfl
  | disconnect =>
    obtain ⟨-, rfl⟩ := Session.step_disconnect hstep
    exact .inr ⟨rfl, [], (List.append_nil _).symm⟩
  | shutdown =>
    obtain ⟨-, rfl⟩ := Session.step_shutdown hstep
    exact .inl rfl

/-- A reader loop that is over does not begin again. -/
theorem session_over (hstep : session.step action = some next) (hover : session.reading = false) :
    next.reading = false := by
  cases action with
  | receive frame peers =>
    obtain ⟨hreading, -⟩ := Session.step_receive hstep
    exact absurd (hover.symm.trans hreading) nofun
  | send =>
    obtain ⟨_, _, -, rfl⟩ := Session.step_send hstep
    exact hover
  | remote index action =>
    obtain ⟨_, _, _, _, -, -, -, rfl⟩ := Session.step_remote hstep
    exact hover
  | delivered =>
    obtain ⟨_, _, -, rfl⟩ := Session.step_delivered hstep
    exact hover
  | sendFailed =>
    obtain rfl := Session.step_sendFailed hstep
    exact hover
  | disconnect =>
    obtain ⟨-, rfl⟩ := Session.step_disconnect hstep
    rfl
  | shutdown =>
    obtain ⟨-, rfl⟩ := Session.step_shutdown hstep
    exact hover

end Sessions

section Carriers

variable {cancelled : Bool} {carrier next : Carrier} {action : CarrierAction}
  {frame : Option Frame}

/-- The frames for the server move on in order, unless the pump is over. -/
theorem carrier_pending (hstep : carrier.Stepped cancelled action next frame) :
    next.pump = .closing ∨ next.pump = .ended ∨
      ∃ more, frame.toList ++ pumping next.pump ++ next.out.items =
        pumping carrier.pump ++ carrier.out.items ++ more := by
  cases hstep with
  | take frame rest hpump hrecv =>
    obtain ⟨hitems, -, -⟩ := Channel.recv_eq_item hrecv
    exact .inr (.inr ⟨[], by simp [hpump, pumping, hitems]⟩)
  | takeEnd | sendFailed | cancelPump => exact .inl rfl
  | closed => exact .inr (.inl rfl)
  | sent frame hpump => exact .inr (.inr ⟨[], by simp [hpump, pumping]⟩)
  | read | readEof | queueFailed | write | written | pongFailed | cancelUplink | nearWrites
  | nearReads | nearShuts | nearDrops => exact .inr (.inr ⟨[], by simp⟩)
  | queue _ out _ hsend | pong out _ hsend =>
    obtain ⟨-, -, hitems, -, -⟩ := Channel.trySend_eq_some hsend
    exact .inr (.inr ⟨_, by simp [hitems]; rfl⟩)
  | close out _ hsend =>
    obtain ⟨-, -, hitems, -, -⟩ := Channel.trySend_eq_some hsend
    exact .inr (.inr ⟨_, by simp [hitems]; rfl⟩)
  | closeFailed | receiveFailed | writeFailed | cancelDownlink =>
    exact .inr (.inr ⟨[], by simp⟩)
  | receive received =>
    exact .inr (.inr ⟨[], by simp [Carrier.demux_pump, Carrier.demux_items]⟩)

/-- A pump that is over, or about to be, does not go on. -/
theorem carrier_pumpOver (hstep : carrier.Stepped cancelled action next frame)
    (hover : carrier.pump = .closing ∨ carrier.pump = .ended) :
    next.pump = .closing ∨ next.pump = .ended := by
  cases hstep with
  | take _ _ hpump | takeEnd hpump | sent _ hpump | cancelPump _ hpump | sendFailed _ hpump =>
    simp [hpump] at hover
  | closed => exact .inr rfl
  | receive received => exact (Carrier.demux_pump received).symm ▸ hover
  | _ => exact hover

/-- An uplink that is over told the hop, or found the pump gone. -/
theorem carrier_uplink (hstep : carrier.Stepped cancelled action next frame)
    (hover : next.uplink = .ended) :
    carrier.uplink = .ended ∨ carrier.out.hasReceiver = false ∨
      ∃ told ∈ next.out.items, closesStream told = true := by
  cases hstep with
  | close out huplink hsend =>
    obtain ⟨-, -, hitems, -, -⟩ := Channel.trySend_eq_some hsend
    refine .inr (.inr ⟨.streamClose carrierId none, ?_, rfl⟩)
    rw [Carrier.endUplink_items, hitems]
    exact List.mem_append_right _ (List.mem_singleton_self _)
  | closeFailed _ hreceiver => exact .inr (.inl hreceiver)
  | receive received => exact .inl ((Carrier.demux_uplink received).symm.trans hover)
  | read | readEof | queue | queueFailed | cancelUplink => exact absurd hover nofun
  | _ => exact .inl hover

end Carriers

namespace Hop

variable {cancelled : Bool} {hop next : Hop} {action : HopAction}

theorem failing_iff (hop : Hop) : hop.failing = true ↔
    ∃ byte rest, hop.carrier.downlink = .writing (byte :: rest) ∧ hop.carrier.near = .gone := by
  unfold failing
  split
  · rename_i byte rest hdownlink
    simp [hdownlink]
  · rename_i hother
    simp only [Bool.false_eq_true, false_iff, not_exists, not_and]
    exact fun byte rest hdownlink _ ↦ hother byte rest hdownlink

/-- What ends the downlink still does after the near end has changed. -/
theorem endsDownlink_of_gone (hgone : hop.carrier.near = .gone → next.carrier.near = .gone)
    {frame : Frame} (hends : hop.endsDownlink frame = true) : next.endsDownlink frame = true := by
  simp only [endsDownlink, Bool.or_eq_true, Bool.and_eq_true, decide_eq_true_iff] at hends ⊢
  exact hends.imp_right fun ⟨hnear, hbrings⟩ ↦ ⟨hgone hnear, hbrings⟩

/-- A carrier that has the same downlink, or a later one, and the same session. -/
theorem reported_carrier (hreported : hop.reported = true) (hsession : next.session = hop.session)
    (hgone : hop.carrier.near = .gone → next.carrier.near = .gone)
    (hended : hop.carrier.downlink = .ended → next.carrier.downlink = .ended)
    (hfailing : hop.failing = true → next.carrier.downlink = .ended ∨ next.failing = true) :
    next.reported = true := by
  rw [reported_iff] at hreported ⊢
  obtain hover | hfails | hreceiver | ⟨frame, hmem, hends⟩ := hreported
  · exact .inl (hended hover)
  · exact (hfailing hfails).imp_right .inl
  · exact .inr (.inr (.inl (hsession ▸ hreceiver)))
  · refine .inr (.inr (.inr ⟨frame, ?_, endsDownlink_of_gone hgone hends⟩))
    rw [inFlight, hsession]
    exact hmem

/-- A session that has the same frames on the way, or more, or no writer. -/
theorem reported_session (hreported : hop.reported = true) (hcarrier : next.carrier = hop.carrier)
    (hflight : next.session.outbox.hasReceiver = false ∨
      (next.session.outbox.hasReceiver = hop.session.outbox.hasReceiver ∧
        ∃ more, next.inFlight = hop.inFlight ++ more)) : next.reported = true := by
  rw [reported_iff] at hreported ⊢
  obtain hgone | ⟨hreceiver, more, hmore⟩ := hflight
  · exact .inr (.inr (.inl hgone))
  · rw [hcarrier, hreceiver, hmore, failing, hcarrier]
    obtain hover | hfails | hnone | ⟨frame, hmem, hends⟩ := hreported
    · exact .inl hover
    · exact .inr (.inl hfails)
    · exact .inr (.inr (.inl hnone))
    · refine .inr (.inr (.inr ⟨frame, List.mem_append_left _ hmem, ?_⟩))
      rw [endsDownlink, hcarrier]
      exact hends

/-- The downlink receives what ends it. -/
theorem reported_demux {frame : Frame} (hends : hop.endsDownlink frame = true) (next : Hop)
    (hcarrier : next.carrier = hop.carrier.demux frame) : next.reported = true := by
  rw [reported_iff, failing_iff, hcarrier]
  simp only [endsDownlink, Bool.or_eq_true, Bool.and_eq_true, decide_eq_true_iff] at hends
  obtain hcloses | ⟨hnear, hbrings⟩ := hends
  · cases frame with
    | streamClose id error =>
      have hid : id = carrierId := by simpa [closesStream] using hcloses
      exact .inl (by simp [Carrier.demux, hid])
    | _ => exact absurd hcloses nofun
  · cases frame with
    | streamData id data =>
      obtain ⟨hid, hdata⟩ : id = carrierId ∧ data ≠ [] := by simpa [bringsBytes] using hbrings
      obtain ⟨byte, rest, rfl⟩ := List.exists_cons_of_ne_nil hdata
      exact .inr (.inl ⟨byte, rest, by simp [Carrier.demux, hid],
        (Carrier.demux_near _).trans hnear⟩)
    | _ => exact absurd hbrings nofun

theorem reported_step (hreported : hop.reported = true)
    (hstep : hop.Stepped cancelled action next) : next.reported = true := by
  cases hstep with
  | carrier action carrier frame _ _ hcarrier =>
    obtain ⟨hended, hfailing⟩ := hcarrier.downlink_over
    refine reported_carrier hreported rfl (hcarrier.gone) hended fun hfails ↦ ?_
    obtain ⟨byte, rest, hdownlink, hnear⟩ := hop.failing_iff.mp hfails
    refine (hfailing byte rest hdownlink hnear).imp_right fun hsame ↦ ?_
    exact (failing_iff _).mpr ⟨byte, rest, hsame, hcarrier.gone hnear⟩
  | toServer peers frame rest session hup hsession =>
    exact reported_session hreported rfl (session_inFlight hsession nofun)
  | toClient frame rest hwire hdownlink =>
    rw [reported_iff] at hreported
    obtain hover | hfails | hreceiver | ⟨found, hmem, hends⟩ := hreported
    · exact absurd (hdownlink.symm.trans hover) nofun
    · obtain ⟨byte, rest, hwriting, -⟩ := hop.failing_iff.mp hfails
      exact absurd (hdownlink.symm.trans hwriting) nofun
    · exact (reported_iff _).mpr (.inr (.inr (.inl hreceiver)))
    · rw [inFlight, hwire, List.cons_append, List.mem_cons] at hmem
      obtain rfl | hlater := hmem
      · exact reported_demux hends _ rfl
      · refine (reported_iff _).mpr (.inr (.inr (.inr ⟨found, hlater, ?_⟩)))
        exact endsDownlink_of_gone (fun hgone ↦ (Carrier.demux_near frame).trans hgone) hends
  | lost => exact (reported_iff _).mpr (.inl rfl)
  | session action sessionAction session _ hdelivered hsession =>
    exact reported_session hreported rfl (session_inFlight hsession hdelivered)
  | deliver packet =>
    obtain ⟨more, hmore⟩ := items_offer_prefix hop.session.outbox (.packet packet)
    refine reported_session hreported rfl (.inr ⟨Channel.hasReceiver_offer .., more, ?_⟩)
    rw [inFlight, inFlight, hmore, List.append_assoc]

/-! ### The end of the uplink -/

/-- After the uplink its `StreamClose` is on the way to a session that reads, or was taken by one
that had reported, or the tunnel is closed. -/
def Closing (hop : Hop) : Prop :=
  hop.carrier.uplink = .ended →
    (∃ frame ∈ hop.pending, closesStream frame = true) ∨ hop.reported = true ∨
      (hop.carrier.pump = .closing ∨ hop.carrier.pump = .ended) ∨ hop.session.reading = false

/-- The session takes the client's `StreamClose` only after a report. -/
def mayTake (hop : Hop) : HopAction → Bool
  | .toServer _ => hop.up.head?.all fun frame ↦ !closesStream frame || hop.reported
  | _ => true

theorem closing_start (peer : PeerConfig) (hello : Hello) (hasTun : Bool) (target : TargetAddr) :
    (start peer hello hasTun target).Closing :=
  fun h ↦ absurd h nofun

/-- What the client has for the server stays pending, unless the pump is over. -/
theorem closing_carrier {carrierAction : CarrierAction} {carrier : Carrier} {frame : Option Frame}
    (hclosing : hop.Closing) (hwf : hop.carrier.WellFormed)
    (hreported : hop.reported = true →
      ({ hop with carrier, up := hop.up ++ frame.toList } : Hop).reported = true)
    (hcarrier : hop.carrier.Stepped cancelled carrierAction carrier frame) :
    ({ hop with carrier, up := hop.up ++ frame.toList } : Hop).Closing := by
  intro hover
  obtain hclosed | hended | ⟨more, hmore⟩ := carrier_pending hcarrier
  · exact .inr (.inr (.inl (.inl hclosed)))
  · exact .inr (.inr (.inl (.inr hended)))
  have hpending : ({ hop with carrier, up := hop.up ++ frame.toList } : Hop).pending =
      hop.pending ++ more := by
    simp only [pending, List.append_assoc] at hmore ⊢
    rw [hmore]
  obtain hbefore | hgone | ⟨told, hmem, htold⟩ := carrier_uplink hcarrier hover
  · obtain ⟨told, hmem, htold⟩ | hreport | hpump | hreading := hclosing hbefore
    · exact .inl ⟨told, hpending ▸ List.mem_append_left _ hmem, htold⟩
    · exact .inr (.inl (hreported hreport))
    · exact .inr (.inr (.inl (carrier_pumpOver hcarrier hpump)))
    · exact .inr (.inr (.inr hreading))
  · have hpump : hop.carrier.pump = .ended := by
      by_contra hnot
      exact absurd (hgone.symm.trans (hwf.receiver.mpr hnot)) nofun
    exact .inr (.inr (.inl (carrier_pumpOver hcarrier (.inr hpump))))
  · exact .inl ⟨told, List.mem_append_right _ hmem, htold⟩

theorem closing_step (hclosing : hop.Closing) (hwf : hop.carrier.WellFormed)
    (hmay : hop.mayTake action = true) (hstep : hop.Stepped cancelled action next) :
    next.Closing := by
  have hpersists := fun hreport ↦ reported_step hreport hstep
  cases hstep with
  | carrier action carrier frame _ _ hcarrier =>
    exact closing_carrier hclosing hwf hpersists hcarrier
  | toServer peers frame rest session hup hsession =>
    intro hover
    obtain ⟨told, hmem, htold⟩ | hreport | hpump | hreading := hclosing hover
    · rw [pending, hup, List.cons_append, List.cons_append, List.mem_cons] at hmem
      obtain rfl | hlater := hmem
      · rw [mayTake, hup, List.head?_cons, Option.all_some, htold] at hmay
        exact .inr (.inl (hpersists hmay))
      · exact .inl ⟨told, hlater, htold⟩
    · exact .inr (.inl (hpersists hreport))
    · exact .inr (.inr (.inl hpump))
    · exact .inr (.inr (.inr (session_over hsession hreading)))
  | toClient frame rest hwire hdownlink =>
    intro hover
    obtain ⟨told, hmem, htold⟩ | hreport | hpump | hreading :=
      hclosing ((Carrier.demux_uplink frame).symm.trans hover)
    · refine .inl ⟨told, ?_, htold⟩
      rw [pending, Carrier.demux_pump, Carrier.demux_items]
      exact hmem
    · exact .inr (.inl (hpersists hreport))
    · exact .inr (.inr (.inl ((Carrier.demux_pump frame).symm ▸ hpump)))
    · exact .inr (.inr (.inr hreading))
  | lost => exact fun _ ↦ .inr (.inl ((reported_iff _).mpr (.inl rfl)))
  | session action sessionAction session _ _ hsession =>
    intro hover
    obtain htold | hreport | hpump | hreading := hclosing hover
    · exact .inl htold
    · exact .inr (.inl (hpersists hreport))
    · exact .inr (.inr (.inl hpump))
    · exact .inr (.inr (.inr (session_over hsession hreading)))
  | deliver packet =>
    intro hover
    exact (hclosing hover).imp_right (Or.imp_left hpersists)

/-! ### Nothing is left -/

/-- A session that waits for nothing has its writer, unless it is over. -/
theorem Quiescent.writing (hquiet : hop.Quiescent cancelled)
    (hreading : hop.session.reading = false) : hop.session.outbox.hasReceiver = false := by
  by_contra hreceiver
  have hnone := hquiet .shutdown rfl
  rw [step, if_pos (Bool.eq_true_of_not_eq_false hreceiver)] at hnone
  simp [sessionStep, Session.step, hreading] at hnone

/-- A session that reads has nothing to read. -/
theorem Quiescent.up (hquiet : hop.Quiescent cancelled) (hreading : hop.session.reading = true) :
    hop.up = [] := by
  cases hup : hop.up with
  | nil => rfl
  | cons frame rest =>
    have hnone := hquiet (.toServer []) rfl
    simp [step, hup, sessionStep, Session.step, hreading] at hnone

theorem Quiescent.serverEof (hquiet : hop.Quiescent cancelled)
    (hreading : hop.session.reading = true) : hop.carrier.pump ≠ .ended := by
  intro hpump
  have hnone := hquiet .serverEof rfl
  rw [step, if_pos ⟨hquiet.up hreading, hpump⟩] at hnone
  simp [sessionStep, Session.step, hreading] at hnone

/-- A downlink that waits for a frame has a session with its writer and nothing on the way. -/
theorem Quiescent.receiving (hquiet : hop.Quiescent cancelled)
    (hdownlink : hop.carrier.downlink = .receiving) :
    hop.session.outbox.hasReceiver = true ∧ hop.inFlight = [] := by
  have hwire : hop.session.wire = [] := by
    cases hframes : hop.session.wire with
    | nil => rfl
    | cons frame rest =>
      have hnone := hquiet .toClient rfl
      simp [step, hframes, receive, Carrier.step, hdownlink] at hnone
  have hreceiver : hop.session.outbox.hasReceiver = true := by
    by_contra hgone
    have hnone := hquiet .clientEof rfl
    rw [step, if_pos ⟨hwire, Bool.eq_false_iff.mpr hgone⟩] at hnone
    simp [receive, Carrier.step, hdownlink] at hnone
  refine ⟨hreceiver, ?_⟩
  cases hrecv : hop.session.outbox.recv with
  | item frame rest =>
    have hnone := hquiet .sessionSend rfl
    simp [step, sessionStep, Session.step, hrecv] at hnone
  | ended => rw [inFlight, hwire, (Channel.recv_eq_ended hrecv).1, List.nil_append]
  | waiting => rw [inFlight, hwire, (Channel.recv_eq_waiting hrecv).1, List.nil_append]

/-- A quiescent hop whose near end is not in use any more, and whose downlink is not stuck. -/
theorem released_of_quiescent (hquiet : hop.Quiescent cancelled) (hwf : hop.carrier.WellFormed)
    (hclosing : hop.Closing) (hnear : hop.carrier.near ≠ .opened)
    (hroom : ∀ byte rest, hop.carrier.downlink = .writing (byte :: rest) →
      hop.carrier.near ≠ .gone → hop.carrier.toNear.length < pipeSize) : hop.Released := by
  have hcarrier := hquiet.quiet
  have huplink : hop.carrier.uplink = .ended := by
    refine (hcarrier.uplink hwf).resolve_right ?_
    rintro ⟨-, -, hopened, -⟩
    exact hnear hopened
  have hdownlink : hop.carrier.downlink = .ended := by
    obtain hended | ⟨hreceiving, -⟩ | ⟨byte, rest, hwriting, hthere, hfull⟩ :=
      hcarrier.downlink hwf
    · exact hended
    · -- Everything that could still end the downlink would be a step.
      obtain ⟨hreceiver, hflight⟩ := hquiet.receiving hreceiving
      have hreading : hop.session.reading = true := by
        by_contra hover
        exact absurd (hreceiver.symm.trans (hquiet.writing (Bool.eq_false_iff.mpr hover))) nofun
      have hpump := (hcarrier.pump).resolve_left (hquiet.serverEof hreading)
      obtain ⟨told, hmem, -⟩ | hreport | hover | hover := hclosing huplink
      · rw [pending, hquiet.up hreading, hpump.1, hpump.2.1] at hmem
        exact absurd hmem nofun
      · rw [reported_iff, failing_iff, hreceiving, hreceiver, hflight] at hreport
        simp at hreport
      · simp [hpump.1] at hover
      · exact absurd (hreading.symm.trans hover) nofun
    · exact absurd (hroom byte rest hwriting hthere) (by omega)
  have hpump := hcarrier.pump_ended hwf (by simp [Carrier.broken, huplink, hdownlink])
  have hreading : hop.session.reading = false := by
    by_contra hread
    exact hquiet.serverEof (Bool.eq_true_of_not_eq_false hread) hpump
  exact ⟨hpump, huplink, hdownlink, hreading, hquiet.writing hreading⟩

/-! ### A channel that is closed and not dropped -/

/-- What the downlink is writing fits into the pipe. -/
def fits (hop : Hop) : Bool :=
  match hop.carrier.downlink with
  | .writing rest => hop.carrier.toNear.length + rest.length ≤ pipeSize
  | _ => true

/-- What the downlink receives next fits into the pipe. -/
def mayFit (hop : Hop) : HopAction → Bool
  | .toClient => hop.session.wire.head?.all fun frame ↦
      match frame with
      | .streamData id data =>
        id ≠ carrierId || hop.carrier.toNear.length + data.length ≤ pipeSize
      | _ => true
  | _ => true

theorem fits_of_not_writing (hdownlink : ∀ rest, hop.carrier.downlink ≠ .writing rest) :
    hop.fits = true := by
  unfold fits
  split
  · rename_i rest hwriting
    exact absurd hwriting (hdownlink rest)
  · rfl

theorem fits_carrier {carrierAction : CarrierAction} {carrier : Carrier} {frame : Option Frame}
    (hfits : hop.fits = true) (hreceive : ∀ frame, carrierAction ≠ .receive frame)
    (hcarrier : hop.carrier.Stepped cancelled carrierAction carrier frame) (up : List Frame) :
    ({ hop with carrier, up } : Hop).fits = true := by
  cases hcarrier with
  | receive frame => exact absurd rfl (hreceive frame)
  | write count rest hdownlink hnear hcount =>
    simp only [fits, hdownlink, decide_eq_true_iff, List.length_append, List.length_take,
      List.length_drop] at hfits ⊢
    omega
  | nearReads count =>
    unfold fits at hfits ⊢
    split at hfits
    · rename_i rest hdownlink
      simp only [hdownlink, decide_eq_true_iff, List.length_drop] at hfits ⊢
      omega
    · rfl
  | receiveFailed | writeFailed | cancelDownlink | written | pong | pongFailed =>
    exact fits_of_not_writing fun _ ↦ nofun
  | _ => exact hfits

theorem fits_step (hfits : hop.fits = true) (hmay : hop.mayFit action = true)
    (hstep : hop.Stepped cancelled action next) : next.fits = true := by
  cases hstep with
  | carrier action carrier frame hreceive _ hcarrier => exact fits_carrier hfits hreceive hcarrier _
  | toServer | session | deliver => exact hfits
  | lost => exact fits_of_not_writing fun _ ↦ nofun
  | toClient frame rest hwire hdownlink =>
    rw [mayFit, hwire, List.head?_cons, Option.all_some] at hmay
    cases frame with
    | streamData id data =>
      by_cases hid : id = carrierId
      · simpa [fits, Carrier.demux, hid] using hmay
      · simpa [fits, Carrier.demux, hid] using hfits
    | streamClose id error =>
      by_cases hid : id = carrierId
      · simp [fits, Carrier.demux, hid]
      · simpa [fits, Carrier.demux, hid] using hfits
    | _ => simp [fits, Carrier.demux, hdownlink]

end Hop

namespace Chain

variable {chain next : Chain} {action : ChainAction} {index : ℕ}

/-- A session takes the client's `StreamClose` for a carrier only when a report has ended the
carrier's downlink or is on its way; and while the topmost tunnel is closed and not dropped, what
arrives for it fits into the pipe that nobody reads. -/
def mayStep (chain : Chain) : ChainAction → Bool
  | .hop index action => chain.hops[index]?.all fun hop ↦
      hop.mayTake action &&
        (chain.top ≠ .closed || (chain.above index).isSome || hop.mayFit action)
  | .closeTop => chain.last.all Hop.fits
  | _ => true

/-- The condition on the runs below. -/
abbrev Reported (chain : Chain) (action : ChainAction) : Prop :=
  chain.mayStep action = true

/-- The near end of the last carrier is as the topmost tunnel is. -/
def topNear (top : TopPhase) (hop : Hop) : Prop :=
  match top with
  | .reading | .failed => hop.carrier.near = .opened
  | .closed => hop.carrier.near = .shut ∧ hop.fits = true
  | .dropped => hop.carrier.near = .gone

/-- What every step keeps. -/
structure Kept (chain : Chain) : Prop where
  wellFormed : ∀ hop ∈ chain.hops, hop.carrier.WellFormed
  closing : ∀ hop ∈ chain.hops, hop.Closing
  last : ∀ hop, chain.last = some hop → topNear chain.top hop

theorem kept_start : start.Kept := by
  refine ⟨?_, ?_, ?_⟩ <;> simp [start, Chain.last]

/-- One hop changes, and perhaps the topmost tunnel. -/
theorem Kept.put (hkept : chain.Kept) {hop changed : Hop} (hhop : chain.hops[index]? = some hop)
    (hhops : next.hops = chain.hops.set index changed) (hwf : changed.carrier.WellFormed)
    (hclosing : changed.Closing)
    (hlast : chain.hops[index + 1]? = none → topNear chain.top hop → topNear next.top changed)
    (htop : chain.hops[index + 1]? ≠ none → next.top = chain.top) : next.Kept := by
  refine ⟨fun other hother ↦ ?_, fun other hother ↦ ?_, fun other hother ↦ ?_⟩
  · obtain hold | rfl := List.mem_or_eq_of_mem_set (hhops ▸ hother)
    · exact hkept.wellFormed other hold
    · exact hwf
  · obtain hold | rfl := List.mem_or_eq_of_mem_set (hhops ▸ hother)
    · exact hkept.closing other hold
    · exact hclosing
  · have hlt := (List.getElem?_eq_some_iff.mp hhop).1
    rw [Chain.last, hhops, List.length_set, getElem?_set_of_eq_some hhop] at hother
    split_ifs at hother with hsame
    · obtain rfl := Option.some.inj hother
      refine hlast (List.getElem?_eq_none_iff.mpr (by omega)) (hkept.last hop ?_)
      rw [Chain.last, ← hsame]
      exact hhop
    · rw [htop (by rw [ne_eq, List.getElem?_eq_none_iff]; omega)]
      exact hkept.last other hother

/-- A near end that leaves use without the carrier's doing. -/
theorem closing_withNear {hop : Hop} (hclosing : hop.Closing) (hgone : hop.carrier.near ≠ .gone)
    (near : NearEnd) : (hop.withNear near).Closing := by
  have hpersists : hop.reported = true → (hop.withNear near).reported = true := by
    intro hreported
    refine Hop.reported_carrier hreported rfl (fun h ↦ absurd h hgone) id fun hfails ↦ ?_
    obtain ⟨_, _, _, hnear⟩ := hop.failing_iff.mp hfails
    exact absurd hnear hgone
  intro hover
  obtain htold | hreport | hpump | hreading := hclosing hover
  · exact .inl htold
  · exact .inr (.inl (hpersists hreport))
  · exact .inr (.inr (.inl hpump))
  · exact .inr (.inr (.inr hreading))

/-- A carrier keeps its order whatever becomes of its near end. -/
theorem wellFormed_withNear {hop : Hop} (hwf : hop.carrier.WellFormed) (near : NearEnd) :
    (hop.withNear near).carrier.WellFormed :=
  hwf.kept rfl rfl Iff.rfl rfl hwf.drained

/-- The topmost tunnel is closed or dropped. -/
theorem Kept.endTop (hkept : chain.Kept) {top : TopPhase} {near : NearEnd}
    (hgone : ∀ hop, chain.last = some hop → hop.carrier.near ≠ .gone)
    (hnear : ∀ hop, chain.last = some hop → topNear top (hop.withNear near)) :
    (chain.endTop top near).Kept := by
  unfold Chain.endTop
  cases hlast : chain.last with
  | none =>
    refine ⟨hkept.wellFormed, hkept.closing, fun hop hhop ↦ ?_⟩
    simp [Chain.last, Chain.hops_of_last_eq_none hlast] at hhop
  | some hop =>
    have hmem : hop ∈ chain.hops := List.mem_of_getElem? hlast
    refine hkept.put hlast rfl (wellFormed_withNear (hkept.wellFormed hop hmem) near)
      (closing_withNear (hkept.closing hop hmem) (hgone hop hlast) near)
      (fun _ _ ↦ hnear hop hlast) fun hthere ↦ ?_
    rw [ne_eq, List.getElem?_eq_none_iff] at hthere
    omega

/-- A hop changes by itself, and its near end does not. -/
theorem topNear_of_near {top : TopPhase} {hop changed : Hop} (htop : topNear top hop)
    (hnear : changed.carrier.near = hop.carrier.near)
    (hfits : top = .closed → hop.fits = true → changed.fits = true) : topNear top changed := by
  cases top with
  | reading | failed | dropped => exact hnear.trans htop
  | closed => exact ⟨hnear.trans htop.1, hfits rfl htop.2⟩

theorem near_of_topNear {top : TopPhase} {hop : Hop} (hnear : topNear top hop)
    (htop : top ≠ .dropped) : hop.carrier.near ≠ .gone := by
  cases top with
  | reading | failed =>
    rw [topNear] at hnear
    simp [hnear]
  | closed =>
    rw [topNear] at hnear
    simp [hnear.1]
  | dropped => exact absurd rfl htop

/-- No step leaves behind what the condition excludes. -/
theorem Kept.step (hkept : chain.Kept) (hreported : chain.Reported action)
    (hstep : chain.step action = some next) : next.Kept := by
  cases stepped_of_step hstep with
  | extend peer hello hasTun target htop =>
    refine ⟨?_, ?_, fun hop hhop ↦ ?_⟩
    · simpa [or_imp, forall_and, Hop.start] using
        ⟨hkept.wellFormed, Carrier.wellFormed_start target⟩
    · simpa [or_imp, forall_and] using
        ⟨hkept.closing, Hop.closing_start peer hello hasTun target⟩
    · have hnew : hop = .start peer hello hasTun target := by
        simpa [Chain.last, eq_comm] using hhop
      rw [hnew]
      simp only [htop]
      rfl
  | hop index action hop changed hnear hhop hchanged =>
    have hmem := mem_of_hop hhop
    have hmay : hop.mayTake action = true ∧ (chain.top ≠ .closed ∨
        (chain.above index).isSome = true ∨ hop.mayFit action = true) := by
      simpa [Reported, mayStep, hhop, or_assoc] using hreported
    refine hkept.put hhop rfl (Hop.wellFormed_step (hkept.wellFormed hop hmem) hchanged)
      (Hop.closing_step (hkept.closing hop hmem) (hkept.wellFormed hop hmem) hmay.1 hchanged)
      (fun hlast htop ↦ ?_) fun _ ↦ rfl
    refine topNear_of_near htop (Hop.near_step hnear hchanged) fun hclosed hfits ↦ ?_
    refine Hop.fits_step hfits ?_ hchanged
    obtain hopen | habove | hfit := hmay.2
    · exact absurd hclosed hopen
    · rw [Chain.above, hlast] at habove
      cases habove
    · exact hfit
  | near action index hop changed hhop hnear =>
    have hmem := mem_of_hop hhop
    cases hnear with
    | writes data hopened =>
      have hwf := hkept.wellFormed hop hmem
      refine hkept.put hhop rfl (hwf.kept rfl rfl Iff.rfl rfl hwf.drained)
        (hkept.closing hop hmem) (fun _ htop ↦ ?_) fun _ ↦ rfl
      exact topNear_of_near htop rfl fun _ hfits ↦ hfits
    | reads count hthere =>
      have hwf := hkept.wellFormed hop hmem
      refine hkept.put hhop rfl (hwf.kept rfl rfl Iff.rfl rfl hwf.drained)
        (hkept.closing hop hmem) (fun _ htop ↦ ?_) fun _ ↦ rfl
      have hreads : hop.carrier.Stepped false (.nearReads count)
          { hop.carrier with toNear := hop.carrier.toNear.drop count } none :=
        .nearReads count hthere
      exact topNear_of_near htop rfl fun _ hfits ↦
        Hop.fits_carrier hfits (fun _ ↦ by simp) hreads hop.up
  | ended action index hop upper near hhop hupper hnear hgone hpump hdownlink =>
    have hmem := mem_of_hop hhop
    refine hkept.put hhop rfl (wellFormed_withNear (hkept.wellFormed hop hmem) near)
      (closing_withNear (hkept.closing hop hmem) hgone near) (fun hlast _ ↦ ?_) fun _ ↦ rfl
    rw [hupper] at hlast
    exact absurd hlast (by simp)
  | starved index hop upper hhop hbroken hupper hdownlink =>
    have hmem := mem_of_hop hupper
    have hlost : upper.Stepped chain.cancelled .clientLost
        { upper with carrier := upper.carrier.endDownlink } := .lost _ (.inr rfl) hdownlink
    refine hkept.put hupper rfl (Hop.wellFormed_step (hkept.wellFormed upper hmem) hlost)
      (Hop.closing_step (hkept.closing upper hmem) (hkept.wellFormed upper hmem) rfl hlost)
      (fun _ htop ↦ ?_) fun _ ↦ rfl
    exact topNear_of_near htop rfl fun _ hfits ↦ Hop.fits_step hfits rfl hlost
  | failed index hop hhop hbroken hlast htop =>
    refine ⟨hkept.wellFormed, hkept.closing, fun other hother ↦ ?_⟩
    have hold := hkept.last other hother
    rw [htop] at hold
    exact hold
  | closeTop htop =>
    have hopened : ∀ hop, chain.last = some hop → hop.carrier.near = .opened := by
      intro hop hlast
      have hold := hkept.last hop hlast
      obtain hreading | hfailed := htop
      · rw [hreading] at hold
        exact hold
      · rw [hfailed] at hold
        exact hold
    refine hkept.endTop (fun hop hlast ↦ by simp [hopened hop hlast]) fun hop hlast ↦ ⟨rfl, ?_⟩
    have hfits : hop.fits = true := by
      simpa [Reported, mayStep, hlast] using hreported
    exact hfits
  | dropTop htop =>
    exact hkept.endTop (fun hop hlast ↦ near_of_topNear (hkept.last hop hlast) htop)
      fun hop hlast ↦ rfl
  | cancel => exact ⟨hkept.wellFormed, hkept.closing, hkept.last⟩

/-! ### Nothing is left of the chain -/

/-- In a run whose steps all meet the condition, a quiescent chain whose topmost tunnel is closed or
dropped has no task of a carrier left and no session of a hop that carried another one. -/
theorem carriers_released {actions : List ChainAction}
    (hrun : run (guarded Reported step) start actions = some chain) (hquiet : chain.Quiescent)
    (htop : chain.top = .closed ∨ chain.top = .dropped) : ∀ hop ∈ chain.hops, hop.Released := by
  have hkept : chain.Kept :=
    guarded_preserves (fun _ _ _ h hreported hstep ↦ Kept.step h hreported hstep) hrun kept_start
  -- From the last hop downwards: a hop that is released drops the near end of the one below.
  have hreleased : ∀ distance index hop, index + 1 + distance = chain.hops.length →
      chain.hops[index]? = some hop → hop.Released := by
    intro distance
    induction distance with
    | zero =>
      intro index hop hindex hhop
      have hmem := mem_of_hop hhop
      have hlast : chain.last = some hop := by
        rw [last, ← hindex]
        exact hhop
      have hnear := hkept.last hop hlast
      refine Hop.released_of_quiescent (hquiet.hop hhop) (hkept.wellFormed hop hmem)
        (hkept.closing hop hmem) ?_ fun byte rest hwriting hthere ↦ ?_
      · obtain hclosed | hdropped := htop
        · rw [hclosed] at hnear
          simp [hnear.1]
        · rw [hdropped, topNear] at hnear
          simp [hnear]
      · obtain hclosed | hdropped := htop
        · rw [hclosed] at hnear
          have hfits := hnear.2
          simp only [Hop.fits, hwriting, decide_eq_true_iff, List.length_cons] at hfits
          omega
        · rw [hdropped] at hnear
          exact absurd hnear hthere
    | succ distance ih =>
      intro index hop hindex hhop
      have hmem := mem_of_hop hhop
      obtain ⟨upper, hupper⟩ : ∃ upper, chain.hops[index + 1]? = some upper :=
        ⟨_, List.getElem?_eq_getElem (by omega)⟩
      have habove := ih (index + 1) upper (by omega) hupper
      have hgone := hquiet.gone hhop hupper habove.pump habove.downlink
      exact Hop.released_of_quiescent (hquiet.hop hhop) (hkept.wellFormed hop hmem)
        (hkept.closing hop hmem) (by simp [hgone]) fun _ _ _ hthere ↦ absurd hgone hthere
  intro hop hmem
  obtain ⟨index, hhop⟩ := List.mem_iff_getElem?.mp hmem
  have hlt := (List.getElem?_eq_some_iff.mp hhop).1
  exact hreleased (chain.hops.length - (index + 1)) index hop (by omega) hhop

section Example

/-- One hop reports the end of its remote connection, the client drops the tunnel, and its carrier
and its session are released. -/
theorem carriers_released_reportRun :
    ∃ chain, run (guarded Reported step) start
        (openRun 0 ++ reportRun 0 ++ [.dropTop] ++ tellRun 0 ++ endRun 0) = some chain ∧
      chain.hops ≠ [] ∧ ∀ hop ∈ chain.hops, hop.Released := by
  obtain ⟨chain, hrun, hchain⟩ : ∃ chain, run (guarded Reported step) start
        (openRun 0 ++ reportRun 0 ++ [.dropTop] ++ tellRun 0 ++ endRun 0) = some chain ∧
      (chain.idle && chain.top = .dropped && chain.hops ≠ []) = true :=
    Option.any_eq_true _ _ |>.mp (by decide +kernel)
  simp only [Bool.and_eq_true, decide_eq_true_iff] at hchain
  exact ⟨chain, hrun, hchain.2,
    carriers_released hrun (quiescent_of_idle hchain.1.1) (.inr hchain.1.2)⟩

/-- The channel is dropped while the next hop is connected: the downlink, the pump and the session
of the hop before it stay. -/
theorem carrier_left :
    ¬ ∀ (actions : List ChainAction) (chain : Chain), run step start actions = some chain →
      chain.cancelled = false → chain.Quiescent → chain.top = .closed ∨ chain.top = .dropped →
        ∀ hop ∈ chain.hops, hop.Released := by
  intro hall
  obtain ⟨chain, hrun, hchain⟩ : ∃ chain,
      run step start (openRun 0 ++ [.dropTop] ++ tellRun 0) = some chain ∧
      (chain.idle && chain.cancelled = false && chain.top = .dropped &&
        chain.hops.any fun hop ↦ hop.session.reading) = true :=
    Option.any_eq_true _ _ |>.mp (by decide +kernel)
  simp only [Bool.and_eq_true, decide_eq_true_iff] at hchain
  obtain ⟨⟨⟨hidle, hcancelled⟩, htop⟩, hreading⟩ := hchain
  obtain ⟨hop, hmem, hread⟩ := List.any_eq_true.mp hreading
  have hreleased := hall _ _ hrun hcancelled (quiescent_of_idle hidle) (.inr htop) hop hmem
  exact absurd (hreleased.reading.symm.trans hread) nofun

end Example

end Chain

end EntroTunnel.Link
