import EntroTunnel.Client.Carrier
import EntroTunnel.Foundation.PartialRun

/-!
# The carrier as a pipe

What a carrier owes to the two sides it connects, over every run of its tasks. `Piped` is a carrier
with a record of what went in and out of it: the bytes written to the near end and read from it, the
frames that the writer pump sent and that the downlink received. The cancel token may be set at any
step of the run and stays set.

In each direction the bytes under way are in a known order between what went in and what came out.
From the near end they wait in the pipe, in the uplink, in the queue and in the writer pump; from
the hop they wait in the downlink and in the pipe.
-/

set_option autoImplicit false
set_option relaxedAutoImplicit false

namespace EntroTunnel.Client

open EntroTunnel.Core EntroTunnel.Foundation

/-! ### What frames carry -/

/-- The bytes of a stream in a frame. -/
def payload (id : StreamId) : Frame → Bytes
  | .streamData other data => if other = id then data else []
  | _ => []

/-- The frame closes the stream. -/
def closes (id : StreamId) : Frame → Bool
  | .streamClose other _ => other = id
  | _ => false

/-- The bytes of the carrier's stream in a sequence of frames. -/
def payloads (frames : List Frame) : Bytes :=
  frames.flatMap (payload carrierId)

/-- The bytes of the carrier's stream before its first close. -/
def carried : List Frame → Bytes
  | [] => []
  | frame :: rest => if closes carrierId frame then [] else payload carrierId frame ++ carried rest

/-- A frame that the tasks of a carrier send once the stream is opened. -/
def Carried (frame : Frame) : Prop :=
  frame = .pong ∨ frame = .streamClose carrierId none ∨ ∃ data, frame = .streamData carrierId data

/-- The stream is opened first, and then used. -/
def Opened (target : TargetAddr) (frames : List Frame) : Prop :=
  ∃ rest, frames = .streamOpen carrierId target :: rest ∧ ∀ frame ∈ rest, Carried frame

theorem payload_eq_nil_of_closes {id : StreamId} {frame : Frame}
    (hcloses : closes id frame = true) : payload id frame = [] := by
  cases frame <;> first | rfl | exact absurd hcloses Bool.false_ne_true

theorem payloads_append (first second : List Frame) :
    payloads (first ++ second) = payloads first ++ payloads second :=
  List.flatMap_append

theorem payloads_singleton (frame : Frame) : payloads [frame] = payload carrierId frame :=
  List.flatMap_singleton ..

/-- One more frame of a stream that is not closed. -/
theorem carried_concat {frames : List Frame} (frame : Frame)
    (hopen : ∀ frame ∈ frames, closes carrierId frame = false) :
    carried (frames ++ [frame]) = carried frames ++ payload carrierId frame := by
  induction frames with
  | nil =>
    rw [List.nil_append, carried, carried, List.nil_append]
    split_ifs with hcloses
    · rw [payload_eq_nil_of_closes hcloses]
    · exact List.append_nil _
  | cons first rest ih =>
    have hfirst := hopen first List.mem_cons_self
    have hrest := ih fun other hother ↦ hopen other (List.mem_cons_of_mem _ hother)
    rw [List.cons_append, carried, carried, hrest, if_neg (by simp [hfirst]),
      if_neg (by simp [hfirst]), List.append_assoc]

/-- What arrives later does not change what was carried before. -/
theorem carried_prefix_append (frames more : List Frame) :
    carried frames <+: carried (frames ++ more) := by
  induction frames with
  | nil => exact List.nil_prefix
  | cons first rest ih =>
    rw [List.cons_append, carried, carried]
    split_ifs
    · exact List.prefix_rfl
    · exact (List.prefix_append_right_inj _).mpr ih

theorem Opened.append {target : TargetAddr} {frames : List Frame} {frame : Frame}
    (hopened : Opened target frames) (hframe : Carried frame) :
    Opened target (frames ++ [frame]) := by
  obtain ⟨rest, rfl, hrest⟩ := hopened
  refine ⟨rest ++ [frame], rfl, fun other hother ↦ ?_⟩
  rcases List.mem_append.mp hother with hbefore | hlast
  · exact hrest other hbefore
  · rw [List.mem_singleton.mp hlast]
    exact hframe

theorem Opened.of_append {target : TargetAddr} {first second : List Frame}
    (hopened : Opened target (first ++ second)) : first = [] ∨ Opened target first := by
  obtain ⟨rest, hframes, hrest⟩ := hopened
  cases first with
  | nil => exact .inl rfl
  | cons frame first =>
    obtain ⟨rfl, rfl⟩ := List.cons.inj hframes
    exact .inr ⟨first, rfl, fun other hother ↦ hrest other (List.mem_append_left _ hother)⟩

/-! ### What waits in the tasks -/

/-- The frame that the writer pump is sending. -/
def CarrierPump.frames : CarrierPump → List Frame
  | .sending frame => [frame]
  | _ => []

/-- The pump may still send. -/
def CarrierPump.Alive (pump : CarrierPump) : Prop :=
  pump ≠ .closing ∧ pump ≠ .ended

/-- What the uplink has read and not queued. -/
def CarrierUplink.data : CarrierUplink → Bytes
  | .sending data => data
  | _ => []

/-- What the downlink has received and not written. -/
def CarrierDownlink.rest : CarrierDownlink → Bytes
  | .writing rest => rest
  | _ => []

namespace Carrier

/-- The near end reads the end of the pipe. -/
def atEof (carrier : Carrier) : Bool :=
  carrier.broken && carrier.toNear.isEmpty

theorem endDownlink_toNear {carrier : Carrier} : carrier.endDownlink.toNear = carrier.toNear := rfl

/-- A downlink that waits for a frame has this to write of it. -/
theorem demux_rest {carrier : Carrier} (hdownlink : carrier.downlink = .receiving)
    (received : Frame) : (carrier.demux received).downlink.rest = payload carrierId received := by
  cases received <;> simp only [demux, payload] <;> (try split_ifs) <;>
    first | rfl | (rw [hdownlink]; rfl)

/-- A downlink that waits for a frame is over after one that closes the stream. -/
theorem demux_ended {carrier : Carrier} (hdownlink : carrier.downlink = .receiving)
    (received : Frame) :
    (carrier.demux received).downlink = .ended ↔ closes carrierId received = true := by
  cases received <;> simp only [demux, closes] <;> (try split_ifs) <;> simp_all

end Carrier

/-! ### A carrier and its record -/

/-- A carrier with what went in and out of it; `lost` is set by an error of the link to the hop. -/
structure Piped where
  carrier : Carrier
  cancelled : Bool
  written : Bytes
  read : Bytes
  sent : List Frame
  received : List Frame
  lost : Bool
  deriving DecidableEq

/-- A step of the run: the cancel token is set, or the carrier steps. -/
inductive PipedAction
  | cancel
  | carrier (action : CarrierAction)
  deriving DecidableEq, Repr

/-- The bytes that a step takes from the transport above. -/
def CarrierAction.writes : CarrierAction → Bytes
  | .nearWrites data => data
  | _ => []

/-- The bytes that a step gives to the transport above. -/
def CarrierAction.reads (carrier : Carrier) : CarrierAction → Bytes
  | .nearReads count => carrier.toNear.take count
  | _ => []

/-- The frames that a step takes from the hop. -/
def CarrierAction.receives : CarrierAction → List Frame
  | .receive frame => [frame]
  | _ => []

namespace Piped

def start (target : TargetAddr) : Piped where
  carrier := .start target
  cancelled := false
  written := []
  read := []
  sent := []
  received := []
  lost := false

/-- The record of one step of the carrier, which wrote a frame to the tunnel or none. -/
def record (piped : Piped) (action : CarrierAction) (next : Carrier) (frame : Option Frame) :
    Piped where
  carrier := next
  cancelled := piped.cancelled
  written := piped.written ++ action.writes
  read := piped.read ++ action.reads piped.carrier
  sent := piped.sent ++ frame.toList
  received := piped.received ++ action.receives
  lost := piped.lost || action = .receiveFailed

def step (piped : Piped) : PipedAction → Option Piped
  | .cancel => some { piped with cancelled := true }
  | .carrier action =>
    (piped.carrier.step piped.cancelled action).map fun (next, frame) ↦
      piped.record action next frame

/-- The frames that were sent and those that wait to be sent. -/
def frames (piped : Piped) : List Frame :=
  piped.sent ++ piped.carrier.pump.frames ++ piped.carrier.out.items

/-- What waits on the way to the hop. Everything is there until the pump is over. -/
structure Upward (target : TargetAddr) (piped : Piped) : Prop where
  wellFormed : piped.carrier.WellFormed
  opened : piped.carrier.pump.Alive → Opened target piped.frames
  whole : piped.carrier.pump.Alive →
    payloads piped.frames ++ piped.carrier.uplink.data ++ piped.carrier.toFar = piped.written
  first : piped.sent = [] ∨ Opened target piped.sent
  part : payloads piped.sent <+: piped.written

/-- The bytes that were read and those that wait to be read. -/
def delivered (piped : Piped) : Bytes :=
  piped.read ++ piped.carrier.toNear ++ piped.carrier.downlink.rest

/-- What waits on the way from the hop. Nothing is lost before the near end is dropped and the
downlink finds out. -/
structure Downward (piped : Piped) : Prop where
  unclosed : piped.carrier.downlink ≠ .ended →
    ∀ frame ∈ piped.received, closes carrierId frame = false
  part : piped.delivered <+: carried piped.received
  whole : piped.carrier.near ≠ .gone ∨ piped.carrier.downlink ≠ .ended →
    piped.delivered = carried piped.received
  cause : piped.carrier.downlink = .ended → piped.carrier.near = .gone ∨ piped.cancelled = true ∨
    piped.lost = true ∨ ∃ frame ∈ piped.received, closes carrierId frame = true

variable {target : TargetAddr} {piped : Piped} {action : CarrierAction} {next : Carrier}
  {frame : Option Frame}

theorem Upward.of_live (hwf : piped.carrier.WellFormed) (hopened : Opened target piped.frames)
    (hwhole : payloads piped.frames ++ piped.carrier.uplink.data ++ piped.carrier.toFar =
      piped.written) : Upward target piped where
  wellFormed := hwf
  opened _ := hopened
  whole _ := hwhole
  first := by
    rw [frames, List.append_assoc] at hopened
    exact hopened.of_append
  part := by
    rw [frames, payloads_append, payloads_append, List.append_assoc, List.append_assoc,
      List.append_assoc] at hwhole
    exact ⟨_, hwhole⟩

/-- The frames and the bytes in front of them are only divided in another way. -/
theorem Upward.moved (hup : Upward target piped)
    (hwf : next.WellFormed) (hpump : piped.carrier.pump.Alive)
    (hframes : (piped.record action next frame).frames = piped.frames)
    (hbytes : next.uplink.data ++ next.toFar =
      piped.carrier.uplink.data ++ piped.carrier.toFar ++ action.writes) :
    Upward target (piped.record action next frame) := by
  refine .of_live hwf (hframes ▸ hup.opened hpump) ?_
  rw [hframes, List.append_assoc]
  calc payloads piped.frames ++ (next.uplink.data ++ next.toFar)
      = payloads piped.frames ++ piped.carrier.uplink.data ++ piped.carrier.toFar ++
          action.writes := by rw [hbytes]; simp only [List.append_assoc]
    _ = piped.written ++ action.writes := by rw [hup.whole hpump]

/-- One of the senders queues a frame. -/
theorem Upward.queued (hup : Upward target piped) (hwf : next.WellFormed)
    (hpump : piped.carrier.pump.Alive) {queued : Frame} (hqueued : Carried queued)
    (hframes : (piped.record action next frame).frames = piped.frames ++ [queued])
    (hbytes : payload carrierId queued ++ next.uplink.data = piped.carrier.uplink.data)
    (hfar : next.toFar = piped.carrier.toFar) (hwrites : action.writes = []) :
    Upward target (piped.record action next frame) := by
  refine .of_live hwf (hframes ▸ (hup.opened hpump).append hqueued) ?_
  rw [hframes, payloads_append, payloads_singleton]
  calc payloads piped.frames ++ payload carrierId queued ++ next.uplink.data ++ next.toFar
      = payloads piped.frames ++ piped.carrier.uplink.data ++ piped.carrier.toFar := by
        rw [← hbytes, hfar, ← List.append_assoc]
    _ = piped.written ++ action.writes := by rw [hup.whole hpump, hwrites, List.append_nil]

/-- The pump is over, and sends no more. -/
theorem Upward.over (hup : Upward target piped) (hwf : next.WellFormed)
    (hpump : ¬ next.pump.Alive) (hframe : frame = none) :
    Upward target (piped.record action next frame) where
  wellFormed := hwf
  opened halive := absurd halive hpump
  whole halive := absurd halive hpump
  first := by
    rw [record, hframe, Option.toList_none, List.append_nil]
    exact hup.first
  part := by
    rw [record, hframe, Option.toList_none, List.append_nil]
    exact hup.part.trans (List.prefix_append _ _)

/-- A pump that is over stays so. -/
theorem pump_over {carrier : Carrier} {cancelled : Bool}
    (hstep : carrier.Stepped cancelled action next frame) (hpump : ¬ carrier.pump.Alive) :
    ¬ next.pump.Alive ∧ frame = none := by
  cases hstep with
  | take _ _ hwaiting | takeEnd hwaiting | cancelPump _ hwaiting =>
    rw [hwaiting] at hpump
    exact absurd (by simp [CarrierPump.Alive]) hpump
  | sent _ hsending | sendFailed _ hsending =>
    rw [hsending] at hpump
    exact absurd (by simp [CarrierPump.Alive]) hpump
  | closed => exact ⟨by simp [CarrierPump.Alive], rfl⟩
  | receive received => exact ⟨by rwa [Carrier.demux_pump], rfl⟩
  | _ => exact ⟨hpump, rfl⟩

theorem Upward.step (hup : Upward target piped)
    (hstep : piped.carrier.Stepped piped.cancelled action next frame) :
    Upward target (piped.record action next frame) := by
  have hwf := hup.wellFormed.step hstep
  by_cases hpump : piped.carrier.pump.Alive
  swap
  · obtain ⟨hover, hframe⟩ := pump_over hstep hpump
    exact hup.over hwf hover hframe
  have hreceiver : piped.carrier.out.hasReceiver = true := hup.wellFormed.receiver.mpr hpump.2
  cases hstep with
  | take frame rest hwaiting hrecv =>
    obtain ⟨hitems, -, -⟩ := Channel.recv_eq_item hrecv
    refine hup.moved hwf hpump ?_ (List.append_nil _).symm
    simp [frames, record, hwaiting, hitems, CarrierPump.frames]
  | takeEnd | sendFailed | closed | cancelPump =>
    exact hup.over hwf (by simp [CarrierPump.Alive]) rfl
  | sent frame hsending =>
    refine hup.moved hwf hpump ?_ (List.append_nil _).symm
    simp [frames, record, hsending, CarrierPump.frames]
  | read count hreading =>
    refine hup.moved hwf hpump (by simp [frames, record]) ?_
    simp [hreading, CarrierUplink.data, CarrierAction.writes]
  | readEof hreading | cancelUplink _ hreading =>
    refine hup.moved hwf hpump (by simp [frames, record]) ?_
    simp [hreading, CarrierUplink.data, CarrierAction.writes]
  | queue data out hsending hsend =>
    obtain ⟨-, -, hitems, -, -⟩ := Channel.trySend_eq_some hsend
    refine hup.queued hwf hpump (.inr (.inr ⟨data, rfl⟩)) ?_ ?_ rfl rfl
    · simp [frames, record, hitems]
    · simp [hsending, payload, CarrierUplink.data]
  | close out hclosing hsend =>
    obtain ⟨-, -, hitems, -, -⟩ := Channel.trySend_eq_some hsend
    refine hup.queued hwf hpump (.inr (.inl rfl)) ?_ ?_ rfl rfl
    · simp [frames, record, hitems]
    · simp [hclosing, payload, CarrierUplink.data]
  | queueFailed _ _ hgone | closeFailed _ hgone =>
    exact absurd (hreceiver.symm.trans hgone) nofun
  | receive received =>
    refine hup.moved hwf hpump ?_ ?_
    · simp [frames, record, Carrier.demux_pump, Carrier.demux_items]
    · simp [Carrier.demux_uplink, Carrier.demux_toFar, CarrierAction.writes]
  | receiveFailed | writeFailed | cancelDownlink =>
    refine hup.moved hwf hpump ?_ (List.append_nil _).symm
    simp [frames, record]
  | pong out hponging hsend =>
    obtain ⟨-, -, hitems, -, -⟩ := Channel.trySend_eq_some hsend
    refine hup.queued hwf hpump (.inl rfl) ?_ rfl rfl rfl
    simp [frames, record, hitems]
  | write | written | pongFailed | nearReads | nearShuts | nearDrops =>
    refine hup.moved hwf hpump ?_ (List.append_nil _).symm
    simp [frames, record]
  | nearWrites data =>
    refine hup.moved hwf hpump (by simp [frames, record]) ?_
    simp [CarrierAction.writes]

/-- The bytes behind the reader are only divided in another way, and no frame was received. -/
theorem Downward.moved (hdown : Downward piped)
    (hnear : next.near = .gone ↔ piped.carrier.near = .gone ∨ action = .nearDrops)
    (hdownlink : next.downlink = .ended ↔ piped.carrier.downlink = .ended)
    (hreceives : action.receives = [])
    (hsame : (piped.record action next frame).delivered = piped.delivered) :
    Downward (piped.record action next frame) := by
  have hreceived : (piped.record action next frame).received = piped.received := by
    rw [record, hreceives, List.append_nil]
  refine ⟨fun hover ↦ ?_, ?_, fun hthere ↦ ?_, fun hover ↦ ?_⟩
  · rw [hreceived]
    exact hdown.unclosed (mt hdownlink.mpr hover)
  · rw [hreceived, hsame]
    exact hdown.part
  · rw [hreceived, hsame]
    exact hdown.whole (hthere.imp (mt fun h ↦ hnear.mpr (.inl h)) (mt hdownlink.mpr))
  · rw [hreceived]
    rcases hdown.cause (hdownlink.mp hover) with h | h | h | h
    · exact .inl (hnear.mpr (.inl h))
    · exact .inr (.inl h)
    · exact .inr (.inr (.inl (by rw [record, h, Bool.true_or])))
    · exact .inr (.inr (.inr h))

/-- The downlink is over with nothing left to write. -/
theorem Downward.ended (hdown : Downward piped) (hdownlink : piped.carrier.downlink = .receiving)
    (hreason : piped.cancelled = true ∨ action = .receiveFailed) (hreceives : action.receives = [])
    (hreads : action.reads piped.carrier = []) :
    Downward (piped.record action piped.carrier.endDownlink frame) := by
  have hreceived : (piped.record action piped.carrier.endDownlink frame).received =
      piped.received := by
    rw [record, hreceives, List.append_nil]
  have hsame : (piped.record action piped.carrier.endDownlink frame).delivered =
      piped.delivered := by
    simp [delivered, record, hreads, Carrier.endDownlink_toNear, hdownlink, CarrierDownlink.rest]
  have hwhole := hdown.whole (.inr (by rw [hdownlink]; exact nofun))
  refine ⟨fun h ↦ absurd rfl h, ?_, fun _ ↦ ?_, fun _ ↦ ?_⟩
  · rw [hreceived, hsame]
    exact hdown.part
  · rw [hreceived, hsame, hwhole]
  · rcases hreason with h | rfl
    · exact .inr (.inl h)
    · exact .inr (.inr (.inl (by simp [record])))

/-- A frame of the hop: what it carries is to be written next. -/
theorem Downward.receive (hdown : Downward piped) (hdownlink : piped.carrier.downlink = .receiving)
    (received : Frame) :
    Downward (piped.record (.receive received) (piped.carrier.demux received) none) := by
  have hthere : piped.carrier.downlink ≠ .ended := by rw [hdownlink]; exact nofun
  have hunclosed := hdown.unclosed hthere
  have hmore : (piped.record (.receive received) (piped.carrier.demux received) none).delivered =
      piped.delivered ++ payload carrierId received := by
    have hnone : piped.carrier.downlink.rest = [] := by
      rw [hdownlink]
      rfl
    simp [delivered, record, Carrier.demux_toNear, Carrier.demux_rest hdownlink, hnone,
      CarrierAction.reads]
  have hwhole : (piped.record (.receive received) (piped.carrier.demux received) none).delivered =
      carried (piped.received ++ [received]) := by
    rw [hmore, carried_concat received hunclosed, hdown.whole (.inr hthere)]
  refine ⟨fun hopen frame hframe ↦ ?_, hwhole ▸ List.prefix_rfl, fun _ ↦ hwhole, fun hover ↦ ?_⟩
  · rcases List.mem_append.mp hframe with hbefore | hlast
    · exact hunclosed frame hbefore
    · rw [List.mem_singleton.mp hlast]
      exact Bool.eq_false_iff.mpr (mt (Carrier.demux_ended hdownlink received).mpr hopen)
  · exact .inr (.inr (.inr ⟨received, List.mem_append_right _ (List.mem_singleton_self _),
      (Carrier.demux_ended hdownlink received).mp hover⟩))

/-- A write to a pipe whose near end is gone loses what was left to write. -/
theorem Downward.writeFailed (hdown : Downward piped) (hnear : piped.carrier.near = .gone) :
    Downward (piped.record .writeFailed piped.carrier.endDownlink none) := by
  have hreceived : (piped.record .writeFailed piped.carrier.endDownlink none).received =
      piped.received := List.append_nil _
  have hless : (piped.record .writeFailed piped.carrier.endDownlink none).delivered <+:
      piped.delivered := by
    refine ⟨piped.carrier.downlink.rest, ?_⟩
    simp [delivered, record, Carrier.endDownlink_toNear, CarrierDownlink.rest, CarrierAction.reads]
  refine ⟨fun h ↦ absurd rfl h, ?_, fun hthere ↦ ?_, fun _ ↦ .inl hnear⟩
  · rw [hreceived]
    exact hless.trans hdown.part
  · exact (hthere.elim (fun h ↦ h hnear) fun h ↦ h rfl).elim

theorem Downward.step (hdown : Downward piped)
    (hstep : piped.carrier.Stepped piped.cancelled action next frame) :
    Downward (piped.record action next frame) := by
  cases hstep with
  | receive received hdownlink => exact hdown.receive hdownlink received
  | receiveFailed hdownlink => exact hdown.ended hdownlink (.inr rfl) rfl rfl
  | cancelDownlink hcancelled hdownlink =>
    exact hdown.ended hdownlink (.inl hcancelled) rfl rfl
  | writeFailed _ _ _ hnear => exact hdown.writeFailed hnear
  | write count rest hdownlink =>
    refine hdown.moved (by simp) (by simp [hdownlink]) rfl ?_
    simp [delivered, record, hdownlink, CarrierDownlink.rest, CarrierAction.reads]
  | written hdownlink =>
    refine hdown.moved (by simp) (by simp [hdownlink]) rfl ?_
    simp [delivered, record, hdownlink, CarrierDownlink.rest, CarrierAction.reads]
  | pong _ hdownlink | pongFailed hdownlink =>
    refine hdown.moved (by simp) (by simp [hdownlink]) rfl ?_
    simp [delivered, record, hdownlink, CarrierDownlink.rest, CarrierAction.reads]
  | nearReads count =>
    refine hdown.moved (by simp) Iff.rfl rfl ?_
    simp [delivered, record, CarrierAction.reads]
  | nearShuts hnear =>
    refine hdown.moved (by simp [hnear]) Iff.rfl rfl ?_
    simp [delivered, record, CarrierAction.reads]
  | nearDrops =>
    refine hdown.moved (by simp) Iff.rfl rfl ?_
    simp [delivered, record, CarrierAction.reads]
  | close | closeFailed =>
    refine hdown.moved (by simp) (by simp) rfl ?_
    simp [delivered, record, CarrierAction.reads, Carrier.endUplink]
  | _ =>
    refine hdown.moved (by simp) Iff.rfl rfl ?_
    simp [delivered, record, CarrierAction.reads]

/-! ### What a run keeps -/

theorem upward_start (target : TargetAddr) : Upward target (start target) :=
  .of_live (Carrier.wellFormed_start target) ⟨[], rfl, fun _ h ↦ absurd h List.not_mem_nil⟩ rfl

theorem downward_start (target : TargetAddr) : Downward (start target) :=
  ⟨fun _ _ h ↦ absurd h List.not_mem_nil, List.prefix_rfl, fun _ ↦ rfl, fun h ↦ absurd h nofun⟩

theorem step_keeps {action : PipedAction} {next : Piped} (hup : Upward target piped)
    (hdown : Downward piped) (hstep : piped.step action = some next) :
    Upward target next ∧ Downward next := by
  cases action with
  | cancel =>
    obtain rfl := Option.some.inj hstep
    refine ⟨⟨hup.wellFormed, hup.opened, hup.whole, hup.first, hup.part⟩,
      ⟨hdown.unclosed, hdown.part, hdown.whole, fun hover ↦ .inr (.inl rfl)⟩⟩
  | carrier action =>
    obtain ⟨⟨after, frame⟩, hafter, rfl⟩ := Option.map_eq_some_iff.mp hstep
    have hstepped := Carrier.stepped_of_step hafter
    exact ⟨hup.step hstepped, hdown.step hstepped⟩

theorem run_keeps {actions : List PipedAction} {final : Piped}
    (hrun : run step (start target) actions = some final) :
    Upward target final ∧ Downward final :=
  run_preserves (fun _ _ _ hkept hstep ↦ step_keeps hkept.1 hkept.2 hstep) hrun
    ⟨upward_start target, downward_start target⟩

/-- A carrier is a pipe to the next hop: it opens the stream first; what it sends of the stream is a
prefix of what was written to the near end, and what is read there is a prefix of what the hop sent
for the stream before closing it; and the end of the pipe is not read before all of that, unless the
token is set or the near end is dropped. -/
structure Transparent (target : TargetAddr) (piped : Piped) : Prop where
  opened : piped.sent = [] ∨ Opened target piped.sent
  toHop : payloads piped.sent <+: piped.written
  fromHop : ∀ more, piped.read <+: carried (piped.received ++ more)
  eof : piped.cancelled = false → piped.carrier.near ≠ .gone → piped.carrier.atEof = true →
    piped.read = carried piped.received ∧
      (piped.lost = true ∨ ∃ frame ∈ piped.received, closes carrierId frame = true)

/-- A carrier is transparent in every run of its pumps, of the hop and of the user of the pipe. -/
theorem carrier_transparent {actions : List PipedAction} {final : Piped}
    (hrun : run step (start target) actions = some final) : Transparent target final := by
  obtain ⟨hup, hdown⟩ := run_keeps hrun
  refine ⟨hup.first, hup.part, fun more ↦ ?_, fun hcancelled hnear heof ↦ ?_⟩
  · have hread : final.read <+: final.delivered := by
      rw [delivered, List.append_assoc]
      exact List.prefix_append _ _
    exact (hread.trans hdown.part).trans (carried_prefix_append _ more)
  · rw [Carrier.atEof, Carrier.broken, Bool.and_eq_true, Bool.and_eq_true, decide_eq_true_iff,
      decide_eq_true_iff, List.isEmpty_iff] at heof
    obtain ⟨⟨-, hdownlink⟩, hempty⟩ := heof
    refine ⟨?_, ?_⟩
    · have hwhole := hdown.whole (.inl hnear)
      rwa [delivered, hempty, hdownlink, List.append_nil, CarrierDownlink.rest, List.append_nil]
        at hwhole
      rintro rest ⟨⟩
    · rcases hdown.cause hdownlink with h | h | h | h
      · exact absurd h hnear
      · exact absurd (hcancelled.symm.trans h) Bool.false_ne_true
      · exact .inl h
      · exact .inr h

/-- Two bytes in each direction, a frame of another stream, and an orderly end. -/
def exchange : List PipedAction :=
  [.take, .sent, .nearWrites [1, 2], .read 2, .receive (.streamData 7 [9]), .queue, .take,
    .receive (.streamData carrierId [3, 4]), .sent, .write 1, .nearReads 1, .write 1, .written,
    .receive (.streamClose carrierId none), .nearShuts, .readEof, .close, .nearReads 1].map .carrier

/-- After the exchange both ends have read what the other one has written, and the carrier is at its
end. -/
theorem carrier_transparent_exchange :
    ∃ final, run step (start (.domain "next" 443)) exchange = some final ∧
      (final.carrier.atEof = true ∧ payloads final.sent = [1, 2] ∧ final.read = [3, 4]) ∧
      Transparent (.domain "next" 443) final := by
  obtain ⟨final, hrun, hfinal⟩ : ∃ final, run step (start (.domain "next" 443)) exchange =
      some final ∧ (final.carrier.atEof && payloads final.sent = [1, 2] && final.read = [3, 4]) :=
    Option.any_eq_true _ _ |>.mp (by decide +kernel)
  rw [Bool.and_eq_true, Bool.and_eq_true, decide_eq_true_iff, decide_eq_true_iff] at hfinal
  exact ⟨final, hrun, ⟨hfinal.1.1, hfinal.1.2, hfinal.2⟩, carrier_transparent hrun⟩

end Piped

end EntroTunnel.Client
