import EntroTunnel.Core.Wire
import EntroTunnel.Foundation.Channel

/-!
# The carrier of a hop

`open_carrier` of `client-core/src/chain.rs`: one relayed stream over the tunnel to a hop, as a
local duplex pipe. The next hop's transport has the near end of the pipe; the far end is divided
between two tasks, and is closed only when both have dropped their half. The uplink reads the pipe
and queues what it read for the hop. The downlink writes what the hop sends for the stream to the
pipe, and answers pings through the same queue. The writer pump moves frames from the queue to the
tunnel. The queue has the uplink and the downlink as its senders.

`step` is one step of the tasks, of the tunnel below or of the transport above. It returns the frame
that is written to the tunnel in this step, if any; `cancelled` says whether the cancel token is
set.
-/

set_option autoImplicit false
set_option relaxedAutoImplicit false

namespace EntroTunnel.Client

open EntroTunnel.Core EntroTunnel.Foundation

/-- The stream id of every carrier. -/
def carrierId : StreamId := 1

/-- Capacity of the queue to the writer pump. -/
def carrierCapacity : ℕ := 1024

/-- Capacity of each direction of the pipe. -/
def pipeSize : ℕ := 65536

/-- Size of the buffer of the uplink. -/
def carrierReadSize : ℕ := 32768

/-- Where the writer pump is. -/
inductive CarrierPump
  | waiting
  | sending (frame : Frame)
  | closing
  | ended
  deriving DecidableEq, Repr

/-- Where the uplink is. -/
inductive CarrierUplink
  | reading
  | sending (data : Bytes)
  | closing
  | ended
  deriving DecidableEq, Repr

/-- Where the downlink is. -/
inductive CarrierDownlink
  | receiving
  | writing (rest : Bytes)
  | ponging
  | ended
  deriving DecidableEq, Repr

/-- The near end of the pipe: in use, shut for writing, or dropped. -/
inductive NearEnd
  | opened
  | shut
  | gone
  deriving DecidableEq, Repr

/-- A carrier: its tasks, their queue, and the pipe with what waits in each direction. -/
structure Carrier where
  out : Channel Frame carrierCapacity
  pump : CarrierPump
  uplink : CarrierUplink
  downlink : CarrierDownlink
  near : NearEnd
  toFar : Bytes
  toNear : Bytes
  deriving DecidableEq

/-- A step of a carrier. -/
inductive CarrierAction
  | take
  | sent
  | sendFailed
  | closed
  | read (count : ℕ)
  | readEof
  | queue
  | close
  | receive (frame : Frame)
  | receiveFailed
  | write (count : ℕ)
  | written
  | writeFailed
  | pong
  | cancelPump
  | cancelUplink
  | cancelDownlink
  | nearWrites (data : Bytes)
  | nearReads (count : ℕ)
  | nearShuts
  | nearDrops
  deriving DecidableEq, Repr

namespace CarrierAction

/-- Taken by the tunnel below or the transport above, not by a task of the carrier. -/
def External : CarrierAction → Bool
  | .sendFailed | .receive _ | .receiveFailed | .nearWrites _ | .nearReads _ | .nearShuts
  | .nearDrops => true
  | _ => false

end CarrierAction

namespace Carrier

/-- A carrier that has just been opened. -/
def start (target : TargetAddr) : Carrier where
  out := Channel.empty.offer (.streamOpen carrierId target)
  pump := .waiting
  uplink := .reading
  downlink := .receiving
  near := .opened
  toFar := []
  toNear := []

/-- Both halves of the far end are dropped: the near end reads what waits, and then the end. -/
def broken (carrier : Carrier) : Bool :=
  carrier.uplink = .ended && carrier.downlink = .ended

/-- The uplink is over; the queue loses its last sender if the downlink is over too. -/
def endUplink (carrier : Carrier) (out : Channel Frame carrierCapacity) : Carrier :=
  { carrier with
    uplink := .ended
    out := if carrier.downlink = .ended then out.dropSender else out }

/-- The downlink is over. -/
def endDownlink (carrier : Carrier) : Carrier :=
  { carrier with
    downlink := .ended
    out := if carrier.uplink = .ended then carrier.out.dropSender else carrier.out }

/-- One frame that the downlink receives. -/
def demux (carrier : Carrier) : Frame → Carrier
  | .streamData id data =>
    if id = carrierId then { carrier with downlink := .writing data } else carrier
  | .streamClose id _ => if id = carrierId then carrier.endDownlink else carrier
  | .ping => { carrier with downlink := .ponging }
  | _ => carrier

/-- One step, with the frame it writes to the tunnel. -/
def step (cancelled : Bool) (carrier : Carrier) : CarrierAction → Option (Carrier × Option Frame)
  | .take =>
    match carrier.pump, carrier.out.recv with
    | .waiting, .item frame rest =>
      some ({ carrier with pump := .sending frame, out := rest }, none)
    | .waiting, .ended => some ({ carrier with pump := .closing }, none)
    | _, _ => none
  | .sent =>
    match carrier.pump with
    | .sending frame => some ({ carrier with pump := .waiting }, some frame)
    | _ => none
  | .sendFailed =>
    match carrier.pump with
    | .sending _ => some ({ carrier with pump := .closing }, none)
    | _ => none
  | .closed =>
    if carrier.pump = .closing then
      some ({ carrier with pump := .ended, out := carrier.out.dropReceiver }, none)
    else none
  | .read count =>
    if carrier.uplink = .reading ∧ 0 < count ∧ count ≤ carrierReadSize ∧
        count ≤ carrier.toFar.length then
      some ({ carrier with
        uplink := .sending (carrier.toFar.take count)
        toFar := carrier.toFar.drop count }, none)
    else none
  | .readEof =>
    if carrier.uplink = .reading ∧ carrier.toFar = [] ∧ carrier.near ≠ .opened then
      some ({ carrier with uplink := .closing }, none)
    else none
  | .queue =>
    match carrier.uplink with
    | .sending data =>
      -- The frame waits for room in the queue, or finds that the writer pump is gone.
      if carrier.out.hasReceiver then
        (carrier.out.trySend (.streamData carrierId data)).map fun out ↦
          ({ carrier with uplink := .reading, out }, none)
      else some ({ carrier with uplink := .closing }, none)
    | _ => none
  | .close =>
    if carrier.uplink = .closing then
      if carrier.out.hasReceiver then
        (carrier.out.trySend (.streamClose carrierId none)).map fun out ↦
          (carrier.endUplink out, none)
      else some (carrier.endUplink carrier.out, none)
    else none
  | .receive frame =>
    if carrier.downlink = .receiving then some (carrier.demux frame, none) else none
  | .receiveFailed =>
    if carrier.downlink = .receiving then some (carrier.endDownlink, none) else none
  | .write count =>
    match carrier.downlink with
    | .writing rest =>
      if carrier.near ≠ .gone ∧ 0 < count ∧ count ≤ rest.length ∧
          carrier.toNear.length + count ≤ pipeSize then
        some ({ carrier with
          downlink := .writing (rest.drop count)
          toNear := carrier.toNear ++ rest.take count }, none)
      else none
    | _ => none
  | .written =>
    if carrier.downlink = .writing [] then some ({ carrier with downlink := .receiving }, none)
    else none
  | .writeFailed =>
    match carrier.downlink with
    | .writing (_ :: _) =>
      if carrier.near = .gone then some (carrier.endDownlink, none) else none
    | _ => none
  | .pong =>
    if carrier.downlink = .ponging then
      if carrier.out.hasReceiver then
        (carrier.out.trySend .pong).map fun out ↦
          ({ carrier with downlink := .receiving, out }, none)
      else some ({ carrier with downlink := .receiving }, none)
    else none
  | .cancelPump =>
    if cancelled ∧ carrier.pump = .waiting then some ({ carrier with pump := .closing }, none)
    else none
  | .cancelUplink =>
    if cancelled ∧ carrier.uplink = .reading then some ({ carrier with uplink := .closing }, none)
    else none
  | .cancelDownlink =>
    if cancelled ∧ carrier.downlink = .receiving then some (carrier.endDownlink, none) else none
  | .nearWrites data =>
    if carrier.near = .opened ∧ carrier.broken = false ∧
        carrier.toFar.length + data.length ≤ pipeSize then
      some ({ carrier with toFar := carrier.toFar ++ data }, none)
    else none
  | .nearReads count =>
    if carrier.near ≠ .gone ∧ count ≤ carrier.toNear.length then
      some ({ carrier with toNear := carrier.toNear.drop count }, none)
    else none
  | .nearShuts =>
    if carrier.near = .opened then some ({ carrier with near := .shut }, none) else none
  | .nearDrops =>
    if carrier.near ≠ .gone then some ({ carrier with near := .gone }, none) else none

/-- What a step can do: one case for every way in which `step` is taken. -/
inductive Stepped (cancelled : Bool) (carrier : Carrier) :
    CarrierAction → Carrier → Option Frame → Prop
  | take (frame : Frame) (rest : Channel Frame carrierCapacity) (hpump : carrier.pump = .waiting)
    (hrecv : carrier.out.recv = .item frame rest) :
    Stepped cancelled carrier .take { carrier with pump := .sending frame, out := rest } none
  | takeEnd (hpump : carrier.pump = .waiting) (hrecv : carrier.out.recv = .ended) :
    Stepped cancelled carrier .take { carrier with pump := .closing } none
  | sent (frame : Frame) (hpump : carrier.pump = .sending frame) :
    Stepped cancelled carrier .sent { carrier with pump := .waiting } (some frame)
  | sendFailed (frame : Frame) (hpump : carrier.pump = .sending frame) :
    Stepped cancelled carrier .sendFailed { carrier with pump := .closing } none
  | closed (hpump : carrier.pump = .closing) :
    Stepped cancelled carrier .closed
      { carrier with pump := .ended, out := carrier.out.dropReceiver } none
  | read (count : ℕ) (huplink : carrier.uplink = .reading) (hcount : 0 < count)
    (hwaiting : count ≤ carrier.toFar.length) :
    Stepped cancelled carrier (.read count)
      { carrier with
        uplink := .sending (carrier.toFar.take count)
        toFar := carrier.toFar.drop count } none
  | readEof (huplink : carrier.uplink = .reading) (hempty : carrier.toFar = [])
    (hnear : carrier.near ≠ .opened) :
    Stepped cancelled carrier .readEof { carrier with uplink := .closing } none
  | queue (data : Bytes) (out : Channel Frame carrierCapacity)
    (huplink : carrier.uplink = .sending data)
    (hsend : carrier.out.trySend (.streamData carrierId data) = some out) :
    Stepped cancelled carrier .queue { carrier with uplink := .reading, out } none
  | queueFailed (data : Bytes) (huplink : carrier.uplink = .sending data)
    (hreceiver : carrier.out.hasReceiver = false) :
    Stepped cancelled carrier .queue { carrier with uplink := .closing } none
  | close (out : Channel Frame carrierCapacity) (huplink : carrier.uplink = .closing)
    (hsend : carrier.out.trySend (.streamClose carrierId none) = some out) :
    Stepped cancelled carrier .close (carrier.endUplink out) none
  | closeFailed (huplink : carrier.uplink = .closing)
    (hreceiver : carrier.out.hasReceiver = false) :
    Stepped cancelled carrier .close (carrier.endUplink carrier.out) none
  | receive (frame : Frame) (hdownlink : carrier.downlink = .receiving) :
    Stepped cancelled carrier (.receive frame) (carrier.demux frame) none
  | receiveFailed (hdownlink : carrier.downlink = .receiving) :
    Stepped cancelled carrier .receiveFailed carrier.endDownlink none
  | write (count : ℕ) (rest : Bytes) (hdownlink : carrier.downlink = .writing rest)
    (hnear : carrier.near ≠ .gone) (hcount : 0 < count ∧ count ≤ rest.length) :
    Stepped cancelled carrier (.write count)
      { carrier with
        downlink := .writing (rest.drop count)
        toNear := carrier.toNear ++ rest.take count } none
  | written (hdownlink : carrier.downlink = .writing []) :
    Stepped cancelled carrier .written { carrier with downlink := .receiving } none
  | writeFailed (byte : UInt8) (rest : Bytes)
      (hdownlink : carrier.downlink = .writing (byte :: rest))
    (hnear : carrier.near = .gone) : Stepped cancelled carrier .writeFailed carrier.endDownlink none
  | pong (out : Channel Frame carrierCapacity) (hdownlink : carrier.downlink = .ponging)
    (hsend : carrier.out.trySend .pong = some out) :
    Stepped cancelled carrier .pong { carrier with downlink := .receiving, out } none
  | pongFailed (hdownlink : carrier.downlink = .ponging)
    (hreceiver : carrier.out.hasReceiver = false) :
    Stepped cancelled carrier .pong { carrier with downlink := .receiving } none
  | cancelPump (hcancelled : cancelled = true) (hpump : carrier.pump = .waiting) :
    Stepped cancelled carrier .cancelPump { carrier with pump := .closing } none
  | cancelUplink (hcancelled : cancelled = true) (huplink : carrier.uplink = .reading) :
    Stepped cancelled carrier .cancelUplink { carrier with uplink := .closing } none
  | cancelDownlink (hcancelled : cancelled = true) (hdownlink : carrier.downlink = .receiving) :
    Stepped cancelled carrier .cancelDownlink carrier.endDownlink none
  | nearWrites (data : Bytes) (hnear : carrier.near = .opened) :
    Stepped cancelled carrier (.nearWrites data)
      { carrier with toFar := carrier.toFar ++ data } none
  | nearReads (count : ℕ) (hnear : carrier.near ≠ .gone) :
    Stepped cancelled carrier (.nearReads count)
      { carrier with toNear := carrier.toNear.drop count } none
  | nearShuts (hnear : carrier.near = .opened) :
    Stepped cancelled carrier .nearShuts { carrier with near := .shut } none
  | nearDrops (hnear : carrier.near ≠ .gone) :
    Stepped cancelled carrier .nearDrops { carrier with near := .gone } none

variable {cancelled : Bool} {carrier next : Carrier} {action : CarrierAction}
  {frame : Option Frame}

theorem stepped_of_step (hstep : carrier.step cancelled action = some (next, frame)) :
    carrier.Stepped cancelled action next frame := by
  cases action <;> simp only [step] at hstep
  case take =>
    split at hstep <;> cases hstep
    · exact .take _ _ ‹_› ‹_›
    · exact .takeEnd ‹_› ‹_›
  case sent =>
    split at hstep <;> cases hstep
    exact .sent _ ‹_›
  case sendFailed =>
    split at hstep <;> cases hstep
    exact .sendFailed _ ‹_›
  case closed =>
    split_ifs at hstep with hpump
    cases hstep
    exact .closed hpump
  case read count =>
    split_ifs at hstep with h
    cases hstep
    exact .read count h.1 h.2.1 h.2.2.2
  case readEof =>
    split_ifs at hstep with h
    cases hstep
    exact .readEof h.1 h.2.1 h.2.2
  case queue =>
    split at hstep
    · split_ifs at hstep with hreceiver
      · obtain ⟨out, hsend, heq⟩ := Option.map_eq_some_iff.mp hstep
        cases heq
        exact .queue _ out ‹_› hsend
      · cases hstep
        exact .queueFailed _ ‹_› (Bool.eq_false_iff.mpr hreceiver)
    · cases hstep
  case close =>
    split_ifs at hstep with huplink hreceiver
    · obtain ⟨out, hsend, heq⟩ := Option.map_eq_some_iff.mp hstep
      cases heq
      exact .close out huplink hsend
    · cases hstep
      exact .closeFailed huplink (Bool.eq_false_iff.mpr hreceiver)
  case receive received =>
    split_ifs at hstep with hdownlink
    cases hstep
    exact .receive received hdownlink
  case receiveFailed =>
    split_ifs at hstep with hdownlink
    cases hstep
    exact .receiveFailed hdownlink
  case write count =>
    split at hstep
    · split_ifs at hstep with h
      cases hstep
      exact .write count _ ‹_› h.1 ⟨h.2.1, h.2.2.1⟩
    · cases hstep
  case written =>
    split_ifs at hstep with hdownlink
    cases hstep
    exact .written hdownlink
  case writeFailed =>
    split at hstep
    · split_ifs at hstep with hnear
      cases hstep
      exact .writeFailed _ _ ‹_› hnear
    · cases hstep
  case pong =>
    split_ifs at hstep with hdownlink hreceiver
    · obtain ⟨out, hsend, heq⟩ := Option.map_eq_some_iff.mp hstep
      cases heq
      exact .pong out hdownlink hsend
    · cases hstep
      exact .pongFailed hdownlink (Bool.eq_false_iff.mpr hreceiver)
  case cancelPump =>
    split_ifs at hstep with h
    cases hstep
    exact .cancelPump h.1 h.2
  case cancelUplink =>
    split_ifs at hstep with h
    cases hstep
    exact .cancelUplink h.1 h.2
  case cancelDownlink =>
    split_ifs at hstep with h
    cases hstep
    exact .cancelDownlink h.1 h.2
  case nearWrites data =>
    split_ifs at hstep with h
    cases hstep
    exact .nearWrites data h.1
  case nearReads count =>
    split_ifs at hstep with h
    cases hstep
    exact .nearReads count h.1
  case nearShuts =>
    split_ifs at hstep with hnear
    cases hstep
    exact .nearShuts hnear
  case nearDrops =>
    split_ifs at hstep with hnear
    cases hstep
    exact .nearDrops hnear

/-! ### The queue and its ends -/

@[simp] theorem endUplink_uplink (out : Channel Frame carrierCapacity) :
    (carrier.endUplink out).uplink = .ended := rfl

@[simp] theorem endUplink_downlink (out : Channel Frame carrierCapacity) :
    (carrier.endUplink out).downlink = carrier.downlink := rfl

@[simp] theorem endUplink_pump (out : Channel Frame carrierCapacity) :
    (carrier.endUplink out).pump = carrier.pump := rfl

@[simp] theorem endUplink_near (out : Channel Frame carrierCapacity) :
    (carrier.endUplink out).near = carrier.near := rfl

@[simp] theorem endUplink_items (out : Channel Frame carrierCapacity) :
    (carrier.endUplink out).out.items = out.items := by
  unfold endUplink
  split_ifs <;> rfl

@[simp] theorem endUplink_hasReceiver (out : Channel Frame carrierCapacity) :
    (carrier.endUplink out).out.hasReceiver = out.hasReceiver := by
  unfold endUplink
  split_ifs <;> rfl

@[simp] theorem endDownlink_downlink : carrier.endDownlink.downlink = .ended := rfl

@[simp] theorem endDownlink_uplink : carrier.endDownlink.uplink = carrier.uplink := rfl

@[simp] theorem endDownlink_pump : carrier.endDownlink.pump = carrier.pump := rfl

@[simp] theorem endDownlink_near : carrier.endDownlink.near = carrier.near := rfl

@[simp] theorem endDownlink_toFar : carrier.endDownlink.toFar = carrier.toFar := rfl

@[simp] theorem endDownlink_items : carrier.endDownlink.out.items = carrier.out.items := by
  unfold endDownlink
  split_ifs <;> rfl

@[simp] theorem endDownlink_hasReceiver :
    carrier.endDownlink.out.hasReceiver = carrier.out.hasReceiver := by
  unfold endDownlink
  split_ifs <;> rfl

theorem demux_near (received : Frame) : (carrier.demux received).near = carrier.near := by
  unfold demux
  split <;> (try split_ifs) <;> rfl

theorem demux_uplink (received : Frame) : (carrier.demux received).uplink = carrier.uplink := by
  unfold demux
  split <;> (try split_ifs) <;> rfl

theorem demux_toNear (received : Frame) : (carrier.demux received).toNear = carrier.toNear := by
  unfold demux
  split <;> (try split_ifs) <;> rfl

theorem demux_pump (received : Frame) : (carrier.demux received).pump = carrier.pump := by
  unfold demux
  split <;> (try split_ifs) <;> rfl

theorem demux_toFar (received : Frame) : (carrier.demux received).toFar = carrier.toFar := by
  unfold demux
  split <;> (try split_ifs) <;> rfl

theorem demux_hasReceiver (received : Frame) :
    (carrier.demux received).out.hasReceiver = carrier.out.hasReceiver := by
  unfold demux
  split <;> (try split_ifs) <;> first | rfl | exact endDownlink_hasReceiver

theorem demux_items (received : Frame) :
    (carrier.demux received).out.items = carrier.out.items := by
  unfold demux
  split <;> (try split_ifs) <;> first | rfl | exact endDownlink_items

/-- A near end that is gone stays so. -/
theorem Stepped.gone (hstep : carrier.Stepped cancelled action next frame)
    (hgone : carrier.near = .gone) : next.near = .gone := by
  cases hstep with
  | receive received => exact (demux_near received).trans hgone
  | nearShuts hnear => exact absurd (hnear.symm.trans hgone) nofun
  | nearDrops => rfl
  | _ => exact hgone

/-- A downlink that is over stays so, and one that fails to write is over next. -/
theorem Stepped.downlink_over (hstep : carrier.Stepped cancelled action next frame) :
    (carrier.downlink = .ended → next.downlink = .ended) ∧
      ∀ byte rest, carrier.downlink = .writing (byte :: rest) → carrier.near = .gone →
        next.downlink = .ended ∨ next.downlink = .writing (byte :: rest) := by
  cases hstep with
  | receive received hdownlink | cancelDownlink _ hdownlink | receiveFailed hdownlink
  | pong _ hdownlink | pongFailed hdownlink =>
    exact ⟨fun h ↦ absurd (hdownlink.symm.trans h) nofun,
      fun _ _ h _ ↦ absurd (hdownlink.symm.trans h) nofun⟩
  | write count rest hdownlink hnear =>
    exact ⟨fun h ↦ absurd (hdownlink.symm.trans h) nofun, fun _ _ _ h ↦ absurd h hnear⟩
  | written hdownlink =>
    exact ⟨fun h ↦ absurd (hdownlink.symm.trans h) nofun,
      fun _ _ h _ ↦ absurd (hdownlink.symm.trans h) (by simp)⟩
  | writeFailed => exact ⟨fun _ ↦ rfl, fun _ _ _ _ ↦ .inl rfl⟩
  | _ => exact ⟨id, fun _ _ h _ ↦ .inr h⟩

/-- The queue has a receiver while the pump is there, and senders while one of the others is. -/
structure WellFormed (carrier : Carrier) : Prop where
  receiver : carrier.out.hasReceiver = true ↔ carrier.pump ≠ .ended
  drained : carrier.out.hasReceiver = false → carrier.out.items = []
  sender : carrier.out.hasSender = true ↔ carrier.broken = false

theorem wellFormed_start (target : TargetAddr) : (start target).WellFormed := by
  refine ⟨?_, ?_, ?_⟩ <;> simp [start, broken, Channel.empty]

theorem endUplink_sender {out : Channel Frame carrierCapacity} (hsender : out.hasSender = true) :
    (carrier.endUplink out).out.hasSender = true ↔ (carrier.endUplink out).broken = false := by
  unfold endUplink broken
  split_ifs with hdownlink <;> simp [hdownlink, hsender]

theorem endDownlink_sender (hsender : carrier.out.hasSender = true) :
    carrier.endDownlink.out.hasSender = true ↔ carrier.endDownlink.broken = false := by
  unfold endDownlink broken
  split_ifs with huplink <;> simp [huplink, hsender]

/-- A sender that is not over keeps the queue open. -/
theorem WellFormed.sender_of_uplink (hwf : carrier.WellFormed) (huplink : carrier.uplink ≠ .ended) :
    carrier.out.hasSender = true :=
  hwf.sender.mpr (by simp [broken, huplink])

theorem WellFormed.sender_of_downlink (hwf : carrier.WellFormed)
    (hdownlink : carrier.downlink ≠ .ended) : carrier.out.hasSender = true :=
  hwf.sender.mpr (by simp [broken, hdownlink])

/-- The downlink goes on in another phase, or is over. -/
theorem WellFormed.endDownlink (hwf : carrier.WellFormed) (hdownlink : carrier.downlink ≠ .ended) :
    carrier.endDownlink.WellFormed := by
  refine ⟨?_, fun hreceiver ↦ ?_, endDownlink_sender (hwf.sender_of_downlink hdownlink)⟩
  · simpa using hwf.receiver
  · rw [endDownlink_items]
    exact hwf.drained (endDownlink_hasReceiver ▸ hreceiver)

theorem WellFormed.endUplink (hwf : carrier.WellFormed) {out : Channel Frame carrierCapacity}
    (hsender : out.hasSender = true) (hreceiver : out.hasReceiver = carrier.out.hasReceiver)
    (hitems : out.hasReceiver = false → out.items = []) : (carrier.endUplink out).WellFormed := by
  refine ⟨?_, fun hgone ↦ ?_, endUplink_sender hsender⟩
  · rw [endUplink_hasReceiver, hreceiver]
    exact hwf.receiver
  · rw [endUplink_items]
    exact hitems (endUplink_hasReceiver out ▸ hgone)

/-- Neither sender ends, and the pump goes on; the queue keeps its ends. -/
theorem WellFormed.kept (hwf : carrier.WellFormed)
    (hreceiver : next.out.hasReceiver = carrier.out.hasReceiver)
    (hsender : next.out.hasSender = carrier.out.hasSender)
    (hpump : next.pump = .ended ↔ carrier.pump = .ended) (hbroken : next.broken = carrier.broken)
    (hitems : next.out.hasReceiver = false → next.out.items = []) : next.WellFormed := by
  refine ⟨?_, hitems, ?_⟩
  · rw [hreceiver, hwf.receiver]
    exact not_congr hpump.symm
  · rw [hsender, hbroken]
    exact hwf.sender

theorem WellFormed.demux (hwf : carrier.WellFormed) (hdownlink : carrier.downlink = .receiving)
    (received : Frame) : (carrier.demux received).WellFormed := by
  unfold Carrier.demux
  split
  · split_ifs
    · refine hwf.kept rfl rfl Iff.rfl ?_ hwf.drained
      simp [broken, hdownlink]
    · exact hwf
  · split_ifs
    · exact hwf.endDownlink (by simp [hdownlink])
    · exact hwf
  · refine hwf.kept rfl rfl Iff.rfl ?_ hwf.drained
    simp [broken, hdownlink]
  · exact hwf

theorem WellFormed.step (hwf : carrier.WellFormed)
    (hstep : carrier.Stepped cancelled action next frame) : next.WellFormed := by
  cases hstep with
  | take frame rest hpump hrecv =>
    obtain ⟨hitems, hsender, hreceiver⟩ := Channel.recv_eq_item hrecv
    refine hwf.kept hreceiver hsender (by simp [hpump]) rfl fun hgone ↦ ?_
    exact absurd (hitems.symm.trans (hwf.drained (hreceiver ▸ hgone))) nofun
  | takeEnd hpump | sent _ hpump | sendFailed _ hpump | cancelPump _ hpump =>
    exact hwf.kept rfl rfl (by simp [hpump]) rfl hwf.drained
  | closed hpump =>
    refine ⟨by simp, fun _ ↦ rfl, ?_⟩
    exact hwf.sender
  | read _ huplink | readEof huplink | queueFailed _ huplink | cancelUplink _ huplink =>
    exact hwf.kept rfl rfl Iff.rfl (by simp [broken, huplink]) hwf.drained
  | queue data out huplink hsend =>
    obtain ⟨hthere, -, -, hsender, hreceiver⟩ := Channel.trySend_eq_some hsend
    refine hwf.kept hreceiver hsender Iff.rfl (by simp [broken, huplink]) fun hgone ↦ ?_
    exact absurd ((hreceiver.trans hthere).symm.trans hgone) nofun
  | close out huplink hsend =>
    obtain ⟨hthere, -, -, hsender, hreceiver⟩ := Channel.trySend_eq_some hsend
    refine hwf.endUplink (hsender.trans (hwf.sender_of_uplink (by simp [huplink]))) hreceiver ?_
    exact fun hgone ↦ absurd ((hreceiver.trans hthere).symm.trans hgone) nofun
  | closeFailed huplink hreceiver =>
    exact hwf.endUplink (hwf.sender_of_uplink (by simp [huplink])) rfl hwf.drained
  | receive frame hdownlink => exact hwf.demux hdownlink frame
  | receiveFailed hdownlink | writeFailed _ _ hdownlink | cancelDownlink _ hdownlink =>
    exact hwf.endDownlink (by simp [hdownlink])
  | write _ _ hdownlink | written hdownlink | pongFailed hdownlink =>
    exact hwf.kept rfl rfl Iff.rfl (by simp [broken, hdownlink]) hwf.drained
  | pong out hdownlink hsend =>
    obtain ⟨hthere, -, -, hsender, hreceiver⟩ := Channel.trySend_eq_some hsend
    refine hwf.kept hreceiver hsender Iff.rfl (by simp [broken, hdownlink]) fun hgone ↦ ?_
    exact absurd ((hreceiver.trans hthere).symm.trans hgone) nofun
  | nearWrites | nearReads | nearShuts | nearDrops =>
    exact hwf.kept rfl rfl Iff.rfl rfl hwf.drained

/-! ### Where the tasks wait -/

/-- No task of the carrier can step. -/
def Quiet (cancelled : Bool) (carrier : Carrier) : Prop :=
  ∀ action : CarrierAction, action.External = false → carrier.step cancelled action = none

namespace Quiet

variable (hquiet : carrier.Quiet cancelled) (hwf : carrier.WellFormed)

include hquiet

/-- The pump waits for a frame from one of the others, or is over. -/
theorem pump : carrier.pump = .ended ∨
    carrier.pump = .waiting ∧ carrier.out.items = [] ∧ carrier.out.hasSender = true ∧
      cancelled = false := by
  cases hpump : carrier.pump with
  | ended => exact .inl rfl
  | waiting =>
    have htake := hquiet .take rfl
    have hcancel := hquiet .cancelPump rfl
    simp only [step, hpump] at htake hcancel
    cases hrecv : carrier.out.recv with
    | item frame rest => simp [hrecv] at htake
    | ended => simp [hrecv] at htake
    | waiting =>
      obtain ⟨hitems, hsender⟩ := Channel.recv_eq_waiting hrecv
      exact .inr ⟨rfl, hitems, hsender, by simpa using hcancel⟩
  | sending frame =>
    have hsent := hquiet .sent rfl
    simp [step, hpump] at hsent
  | closing =>
    have hclosed := hquiet .closed rfl
    simp [step, hpump] at hclosed

include hwf

/-- A sender of the queue never waits. -/
theorem room (frame : Frame) (hreceiver : carrier.out.hasReceiver = true) :
    (carrier.out.trySend frame).isSome = true := by
  have hitems : carrier.out.items = [] := by
    obtain hended | ⟨-, hitems, -⟩ := hquiet.pump
    · exact absurd hended (hwf.receiver.mp hreceiver)
    · exact hitems
  rw [Option.isSome_iff_ne_none, ne_eq, Channel.trySend_eq_none, hitems]
  exact fun h ↦ absurd (h hreceiver) (by simp [carrierCapacity])

/-- The uplink waits for bytes from the near end, or is over. -/
theorem uplink : carrier.uplink = .ended ∨
    carrier.uplink = .reading ∧ carrier.toFar = [] ∧ carrier.near = .opened ∧
      cancelled = false := by
  cases huplink : carrier.uplink with
  | ended => exact .inl rfl
  | reading =>
    have heof := hquiet .readEof rfl
    have hcancel := hquiet .cancelUplink rfl
    have hread := hquiet (.read 1) rfl
    simp only [step, huplink, carrierReadSize] at heof hcancel hread
    have hempty : carrier.toFar = [] := by
      cases hbytes : carrier.toFar with
      | nil => rfl
      | cons byte rest => simp [hbytes] at hread
    exact .inr ⟨rfl, hempty, by simpa [hempty] using heof, by simpa using hcancel⟩
  | sending data =>
    have hqueue := hquiet .queue rfl
    simp only [step, huplink] at hqueue
    split_ifs at hqueue with hreceiver
    have hroom := hquiet.room hwf (.streamData carrierId data) hreceiver
    rw [Option.map_eq_none_iff.mp hqueue] at hroom
    exact absurd hroom nofun
  | closing =>
    have hclose := hquiet .close rfl
    simp only [step, huplink, if_true] at hclose
    split_ifs at hclose with hreceiver
    have hroom := hquiet.room hwf (.streamClose carrierId none) hreceiver
    rw [Option.map_eq_none_iff.mp hclose] at hroom
    exact absurd hroom nofun

/-- The downlink waits for a frame of the hop, or for room in the pipe, or is over. -/
theorem downlink : carrier.downlink = .ended ∨
    carrier.downlink = .receiving ∧ cancelled = false ∨
    ∃ byte rest, carrier.downlink = .writing (byte :: rest) ∧ carrier.near ≠ .gone ∧
      pipeSize ≤ carrier.toNear.length := by
  cases hdownlink : carrier.downlink with
  | ended => exact .inl rfl
  | receiving =>
    have hcancel := hquiet .cancelDownlink rfl
    simp only [step, hdownlink] at hcancel
    exact .inr (.inl ⟨rfl, by simpa using hcancel⟩)
  | writing rest =>
    have hwritten := hquiet .written rfl
    have hfailed := hquiet .writeFailed rfl
    have hwrite := hquiet (.write 1) rfl
    simp only [step, hdownlink] at hwritten hfailed hwrite
    cases rest with
    | nil => simp at hwritten
    | cons byte rest =>
      have hnear : carrier.near ≠ .gone := by simpa using hfailed
      refine .inr (.inr ⟨byte, rest, rfl, hnear, ?_⟩)
      simp [hnear] at hwrite
      omega
  | ponging =>
    have hpong := hquiet .pong rfl
    simp only [step, hdownlink, if_true] at hpong
    split_ifs at hpong with hreceiver
    have hroom := hquiet.room hwf .pong hreceiver
    rw [Option.map_eq_none_iff.mp hpong] at hroom
    cases hroom

/-- With both ends of the pipe gone every task is over. -/
theorem pump_ended (hbroken : carrier.broken = true) : carrier.pump = .ended := by
  refine hquiet.pump.resolve_right ?_
  rintro ⟨-, -, hsender, -⟩
  exact absurd (hwf.sender.mp hsender) (by simp [hbroken])

end Quiet

end Carrier

end EntroTunnel.Client
