import EntroTunnel.Foundation.Channel
import EntroTunnel.Foundation.PartialRun
import EntroTunnel.Client.PacketSession

/-!
# Egress across reconnects

The egress half of `run_packet_mode` and `bridge_connection`: the task that reads the TUN, the
bounded buffer that outlives the connections, and the uplink of the connection that is up. A packet
is in the hand of the reader, in the buffer, or being sent. A connection can be torn down at any
await, and a packet that is being sent then is not sent again.

`egress_order` follows every packet through any number of losses and redials: what is sent is a
sublist of what is read, each connection that is over misses at most one packet, and nothing else is
missing before the session ends, up to the packet in the hand of the reader when the token fires
(`dropped_while_bridging`). `session_of_step` relates the machine to the phases of a packet session.
-/

set_option autoImplicit false
set_option relaxedAutoImplicit false

namespace EntroTunnel.Client

open EntroTunnel.Core EntroTunnel.Foundation

/-! ### Model -/

/-- `OUT_BUFFER_PACKETS`. -/
def outBufferPackets : ℕ := 8192

/-- Where the task that reads the TUN stands; `dropped` is what it had in its hand at its end. -/
inductive TunReader
  | reading
  | handing (packet : List UInt8)
  | done (dropped : Option (List UInt8))
  deriving DecidableEq, Repr

namespace TunReader

/-- The packet that waits for room in the buffer. -/
def hand : TunReader → List (List UInt8)
  | .handing packet => [packet]
  | _ => []

/-- The packet that was dropped with the task. -/
def dropped : TunReader → List (List UInt8)
  | .done dropped => dropped.toList
  | _ => []

@[simp] theorem hand_reading : reading.hand = [] := rfl

@[simp] theorem hand_handing (packet : List UInt8) : (handing packet).hand = [packet] := rfl

@[simp] theorem hand_done (dropped : Option (List UInt8)) : (done dropped).hand = [] := rfl

@[simp] theorem dropped_reading : reading.dropped = [] := rfl

@[simp] theorem dropped_handing (packet : List UInt8) : (handing packet).dropped = [] := rfl

@[simp] theorem dropped_done (dropped : Option (List UInt8)) :
    (done dropped).dropped = dropped.toList := rfl

end TunReader

/-- Where the uplink of a connection stands: in its `select!`, or in a `writer.send`. -/
inductive Uplink
  | idle
  | control (frame : Frame)
  | sending (packet : List UInt8)
  deriving DecidableEq, Repr

/-- Where the main loop stands. It is `leaving` once it is left and until the token is fired. -/
inductive EgressPhase
  | bridging (uplink : Uplink)
  | closing
  | redialing (attempt : ℕ)
  | leaving
  | ended
  deriving DecidableEq, Repr

namespace EgressPhase

/-- The packet in a `writer.send`. -/
def inFlight : EgressPhase → List (List UInt8)
  | .bridging (.sending packet) => [packet]
  | _ => []

/-- A connection is up. -/
def isBridging : EgressPhase → Bool
  | .bridging _ => true
  | _ => false

@[simp] theorem inFlight_sending (packet : List UInt8) :
    (bridging (.sending packet)).inFlight = [packet] := rfl

@[simp] theorem inFlight_idle : (bridging .idle).inFlight = [] := rfl

@[simp] theorem inFlight_leaving : leaving.inFlight = [] := rfl

@[simp] theorem inFlight_ended : ended.inFlight = [] := rfl

@[simp] theorem isBridging_bridging (uplink : Uplink) : (bridging uplink).isBridging = true := rfl

/-- What becomes of a lost connection: nothing is redialed once the token is set. -/
def lost (cancelled : Bool) : EgressPhase :=
  if cancelled then .leaving else .closing

end EgressPhase

/-- A packet that was dequeued and is not being sent any more: the connection, counted from the
first one, and whether `writer.send` returned `Ok`. -/
structure Handled where
  connection : ℕ
  packet : List UInt8
  sent : Bool
  deriving DecidableEq, Repr

/-- The egress half of a packet session, with two records of history: the packets read from the TUN
and those that were dequeued and handled. -/
structure Egress where
  reader : TunReader
  buffer : Channel (List UInt8) outBufferPackets
  cancelled : Bool
  connection : ℕ
  phase : EgressPhase
  read : List (List UInt8)
  handled : List Handled
  deriving DecidableEq

/-- A step of the reader, of the main loop, or the user's cancellation. A `writer.send` that times
out is a `sendFailed`. -/
inductive EgressAction
  | cancel
  | tunRead (packet : List UInt8)
  | tunFailed
  | readerCancelled
  | handOver
  | aborted
  | keepalive
  | refreshPeers
  | dequeue
  | sendDone
  | sendFailed
  | receiveFailed
  | stalled
  | cancelSeen
  | closed
  | redialed (ip : Ipv4Addr)
  | redialFailed
  | closeDown
  deriving DecidableEq, Repr

namespace Egress

/-- The session starts with a connection and an empty buffer. -/
def start : Egress where
  reader := .reading
  buffer := .empty
  cancelled := false
  connection := 0
  phase := .bridging .idle
  read := []
  handled := []

/-- A connection is torn down, with the send it is in. -/
def tearDown (state : Egress) (next : EgressPhase) : Egress :=
  { state with
    phase := next
    handled := state.handled ++ state.phase.inFlight.map fun packet ↦
      { connection := state.connection, packet, sent := false } }

/-- The task of the reader is over and drops its sender. -/
def endReader (state : Egress) (dropped : Option (List UInt8)) : Egress :=
  { state with reader := .done dropped, buffer := state.buffer.dropSender }

/-- A step of the reader task. -/
def readerStep (state : Egress) : TunReader → EgressAction → Option Egress
  | .reading, .tunRead packet =>
    if packet = [] then some state
    else some { state with reader := .handing packet, read := state.read ++ [packet] }
  | .reading, .tunFailed => some (state.endReader none)
  | .reading, .readerCancelled => if state.cancelled then some (state.endReader none) else none
  | .handing packet, .readerCancelled =>
    if state.cancelled then some (state.endReader (some packet)) else none
  | .handing packet, .handOver =>
    -- a sender that awaits room sees that the receiver is gone
    if state.buffer.hasReceiver then
      (state.buffer.trySend packet).map fun buffer ↦ { state with reader := .reading, buffer }
    else some (state.endReader (some packet))
  | .reading, .aborted => if state.phase = .ended then some (state.endReader none) else none
  | .handing packet, .aborted =>
    if state.phase = .ended then some (state.endReader (some packet)) else none
  | _, _ => none

/-- A step of the main loop; `member` is whether the uplink polls the peer list. -/
def mainStep (member : Bool) (state : Egress) : EgressPhase → EgressAction → Option Egress
  | .bridging .idle, .keepalive => some { state with phase := .bridging (.control .ping) }
  | .bridging .idle, .refreshPeers =>
    if member then some { state with phase := .bridging (.control .getPeers) } else none
  | .bridging .idle, .dequeue =>
    match state.buffer.recv with
    | .item packet rest => some { state with buffer := rest, phase := .bridging (.sending packet) }
    | .ended => some (state.tearDown .leaving)
    | .waiting => none
  | .bridging (.control _), .sendDone => some { state with phase := .bridging .idle }
  | .bridging (.sending packet), .sendDone =>
    some { state with
      phase := .bridging .idle
      handled := state.handled ++ [{ connection := state.connection, packet, sent := true }] }
  | .bridging .idle, .sendFailed => none
  | .bridging _, .sendFailed => some (state.tearDown (.lost state.cancelled))
  | .bridging _, .receiveFailed => some (state.tearDown (.lost state.cancelled))
  | .bridging _, .stalled => some (state.tearDown (.lost state.cancelled))
  | .bridging _, .cancelSeen => if state.cancelled then some (state.tearDown .leaving) else none
  | .closing, .closed => some { state with phase := .redialing 1 }
  | .redialing _, .redialed _ =>
    if state.cancelled then some { state with phase := .leaving }
    else some { state with phase := .bridging .idle, connection := state.connection + 1 }
  | .redialing attempt, .redialFailed =>
    if attempt < reconnectAttempts then some { state with phase := .redialing (attempt + 1) }
    else some { state with phase := .leaving }
  | .redialing _, .cancelSeen =>
    if state.cancelled then some { state with phase := .leaving } else none
  | .leaving, .closeDown =>
    some { state with phase := .ended, cancelled := true, buffer := state.buffer.dropReceiver }
  | _, _ => none

/-- One step of the egress half. -/
def step (member : Bool) (state : Egress) : EgressAction → Option Egress
  | .cancel => some { state with cancelled := true }
  | .tunRead packet => state.readerStep state.reader (.tunRead packet)
  | .tunFailed => state.readerStep state.reader .tunFailed
  | .readerCancelled => state.readerStep state.reader .readerCancelled
  | .handOver => state.readerStep state.reader .handOver
  | .aborted => state.readerStep state.reader .aborted
  | action => state.mainStep member state.phase action

/-- The packets that were sent, over all connections, in the order in which they were. -/
def sent (state : Egress) : List (List UInt8) :=
  (state.handled.filter Handled.sent).map Handled.packet

/-- The packets that a connection dequeued and did not send. -/
def missing (state : Egress) (connection : ℕ) : List (List UInt8) :=
  (state.handled.filter fun handled ↦ !handled.sent && handled.connection == connection).map
    Handled.packet

/-- A connection was lost or cancelled: a later one is up, or none is. -/
def gone (state : Egress) (connection : ℕ) : Prop :=
  connection < state.connection ∨ connection = state.connection ∧ state.phase.isBridging = false

/-! ### Steps -/

/-- What a step can do: one case for every way in which `step` is taken, where the moves of the main
loop that no packet takes part in are one case. -/
inductive Stepped (state : Egress) : Egress → Prop
  | cancelled : Stepped state { state with cancelled := true }
  | readEmpty : Stepped state state
  | readPacket (packet : List UInt8) (hreader : state.reader = .reading) : Stepped state
      { state with reader := .handing packet, read := state.read ++ [packet] }
  | readerEnded (dropped : Option (List UInt8)) (hhand : state.reader.hand = dropped.toList)
      (hdropped : state.reader.dropped = [])
      (hwhy : dropped = none ∨ state.cancelled = true ∨ state.phase = .ended ∨
        state.buffer.hasReceiver = false) : Stepped state (state.endReader dropped)
  | handed (packet : List UInt8) (buffer : Channel (List UInt8) outBufferPackets)
      (hreader : state.reader = .handing packet)
      (hsend : state.buffer.trySend packet = some buffer) : Stepped state
      { state with reader := .reading, buffer }
  | dequeued (packet : List UInt8) (rest : Channel (List UInt8) outBufferPackets)
      (hphase : state.phase = .bridging .idle) (hrecv : state.buffer.recv = .item packet rest) :
      Stepped state { state with buffer := rest, phase := .bridging (.sending packet) }
  | wrote (packet : List UInt8) (hphase : state.phase = .bridging (.sending packet)) : Stepped state
      { state with
        phase := .bridging .idle
        handled := state.handled ++ [{ connection := state.connection, packet, sent := true }] }
  | tornDown (next : EgressPhase) (hbridging : state.phase.isBridging = true)
      (hnext : next = .leaving ∨ next = .closing) : Stepped state (state.tearDown next)
  | moved (next : EgressPhase) (hphase : state.phase.inFlight = []) (hgoing : state.phase ≠ .ended)
      (hnext : next.inFlight = []) (hbridging : next.isBridging = state.phase.isBridging) :
      Stepped state { state with phase := next }
  | reconnected (hphase : state.phase.inFlight = []) (hgoing : state.phase ≠ .ended) : Stepped state
      { state with phase := .bridging .idle, connection := state.connection + 1 }
  | closedDown (hphase : state.phase = .leaving) : Stepped state
      { state with phase := .ended, cancelled := true, buffer := state.buffer.dropReceiver }

theorem lost_eq (cancelled : Bool) :
    EgressPhase.lost cancelled = .leaving ∨ EgressPhase.lost cancelled = .closing := by
  unfold EgressPhase.lost
  split_ifs
  · exact Or.inl rfl
  · exact Or.inr rfl

variable {member : Bool} {state next : Egress} {action : EgressAction}

/-- The steps of the reader, which do not move the main loop. -/
theorem stepped_of_readerStep (hstep : state.readerStep state.reader action = some next) :
    Stepped state next ∧ next.phase = state.phase := by
  cases hreader : state.reader with
  | reading =>
    rw [hreader] at hstep
    cases action with
    | tunRead packet =>
      rw [readerStep] at hstep
      split_ifs at hstep with hempty <;> cases hstep
      · exact ⟨.readEmpty, rfl⟩
      · exact ⟨.readPacket packet hreader, rfl⟩
    | tunFailed =>
      cases hstep
      exact ⟨.readerEnded none (by rw [hreader]; rfl) (by rw [hreader]; rfl) (Or.inl rfl), rfl⟩
    | readerCancelled | aborted =>
      rw [readerStep] at hstep
      split_ifs at hstep with hwhy
      cases hstep
      exact ⟨.readerEnded none (by rw [hreader]; rfl) (by rw [hreader]; rfl) (Or.inl rfl), rfl⟩
    | _ => cases hstep
  | handing packet =>
    rw [hreader] at hstep
    cases action with
    | readerCancelled =>
      rw [readerStep] at hstep
      split_ifs at hstep with hwhy
      cases hstep
      exact ⟨.readerEnded (some packet) (by rw [hreader]; rfl) (by rw [hreader]; rfl)
        (Or.inr (Or.inl hwhy)), rfl⟩
    | aborted =>
      rw [readerStep] at hstep
      split_ifs at hstep with hwhy
      cases hstep
      exact ⟨.readerEnded (some packet) (by rw [hreader]; rfl) (by rw [hreader]; rfl)
        (Or.inr (Or.inr (Or.inl hwhy))), rfl⟩
    | handOver =>
      rw [readerStep] at hstep
      split_ifs at hstep with hreceiver
      · obtain ⟨buffer, hsend, rfl⟩ := Option.map_eq_some_iff.mp hstep
        exact ⟨.handed packet buffer hreader hsend, rfl⟩
      · cases hstep
        exact ⟨.readerEnded (some packet) (by rw [hreader]; rfl) (by rw [hreader]; rfl)
          (Or.inr (Or.inr (Or.inr (Bool.eq_false_iff.mpr hreceiver)))), rfl⟩
    | _ => cases hstep
  | done dropped =>
    rw [hreader] at hstep
    cases action <;> cases hstep

/-- The steps of the main loop while a connection is up. -/
theorem stepped_of_bridging {uplink : Uplink} (hphase : state.phase = .bridging uplink)
    (hstep : state.mainStep member (.bridging uplink) action = some next) : Stepped state next := by
  have hbridging : state.phase.isBridging = true := by rw [hphase]; rfl
  have hgoing : state.phase ≠ .ended := by rw [hphase]; exact EgressPhase.noConfusion
  cases action with
  | receiveFailed | stalled =>
    cases uplink <;> cases hstep <;> exact .tornDown _ hbridging (lost_eq _)
  | cancelSeen =>
    cases uplink <;> rw [mainStep] at hstep <;> split_ifs at hstep <;> cases hstep <;>
      exact .tornDown _ hbridging (Or.inl rfl)
  | sendFailed =>
    cases uplink <;> cases hstep <;> exact .tornDown _ hbridging (lost_eq _)
  | keepalive =>
    cases uplink <;> cases hstep
    exact .moved _ (by rw [hphase]; rfl) hgoing rfl (by rw [hphase]; rfl)
  | refreshPeers =>
    cases uplink with
    | idle =>
      rw [mainStep] at hstep
      split_ifs at hstep
      cases hstep
      exact .moved _ (by rw [hphase]; rfl) hgoing rfl (by rw [hphase]; rfl)
    | _ => cases hstep
  | dequeue =>
    cases uplink with
    | idle =>
      rw [mainStep] at hstep
      split at hstep <;> cases hstep
      · rename_i packet rest hrecv
        exact .dequeued packet rest hphase hrecv
      · exact .tornDown _ hbridging (Or.inl rfl)
    | _ => cases hstep
  | sendDone =>
    cases uplink with
    | idle => cases hstep
    | control frame =>
      cases hstep
      exact .moved _ (by rw [hphase]; rfl) hgoing rfl (by rw [hphase]; rfl)
    | sending packet =>
      cases hstep
      exact .wrote packet hphase
  | _ => cases uplink <;> cases hstep

theorem stepped_of_mainStep (hstep : state.mainStep member state.phase action = some next) :
    Stepped state next := by
  cases hphase : state.phase with
  | bridging uplink =>
    rw [hphase] at hstep
    exact stepped_of_bridging hphase hstep
  | closing =>
    rw [hphase] at hstep
    cases action <;> cases hstep
    exact .moved _ (by rw [hphase]; rfl) (by rw [hphase]; exact EgressPhase.noConfusion) rfl
      (by rw [hphase]; rfl)
  | redialing attempt =>
    have hflight : state.phase.inFlight = [] := by rw [hphase]; rfl
    have hgoing : state.phase ≠ .ended := by rw [hphase]; exact EgressPhase.noConfusion
    have hdown : state.phase.isBridging = false := by rw [hphase]; rfl
    rw [hphase] at hstep
    cases action with
    | redialed ip =>
      rw [mainStep] at hstep
      split_ifs at hstep <;> cases hstep
      · exact .moved _ hflight hgoing rfl hdown.symm
      · exact .reconnected hflight hgoing
    | redialFailed =>
      rw [mainStep] at hstep
      split_ifs at hstep <;> cases hstep
      · exact .moved _ hflight hgoing rfl hdown.symm
      · exact .moved _ hflight hgoing rfl hdown.symm
    | cancelSeen =>
      rw [mainStep] at hstep
      split_ifs at hstep
      cases hstep
      exact .moved _ hflight hgoing rfl hdown.symm
    | _ => cases hstep
  | leaving =>
    rw [hphase] at hstep
    cases action with
    | closeDown =>
      cases hstep
      exact .closedDown hphase
    | _ => cases hstep
  | ended =>
    rw [hphase] at hstep
    cases action <;> cases hstep

theorem stepped_of_step (hstep : step member state action = some next) : Stepped state next := by
  cases action with
  | cancel =>
    cases hstep
    exact .cancelled
  | tunRead | tunFailed | readerCancelled | handOver | aborted =>
    exact (stepped_of_readerStep hstep).1
  | _ => exact stepped_of_mainStep hstep

/-! ### Where every packet is -/

/-- Every packet that was read is handled, being sent, in the buffer, in the hand of the reader, or
was dropped with the reader. The last needs the token. -/
structure Accounted (state : Egress) : Prop where
  taken : state.handled.map Handled.packet ++ state.phase.inFlight <+: state.read
  placed : state.phase ≠ .ended →
    state.read = state.handled.map Handled.packet ++ state.phase.inFlight ++ state.buffer.items ++
      state.reader.hand ++ state.reader.dropped
  receiver : state.phase ≠ .ended → state.buffer.hasReceiver = true
  dropped : state.phase ≠ .ended → state.reader.dropped ≠ [] → state.cancelled = true

theorem Accounted.start : Accounted .start where
  taken := List.prefix_rfl
  placed _ := rfl
  receiver _ := rfl
  dropped _ hdropped := absurd rfl hdropped

/-- What is handled grows by what is in flight when a connection is torn down. -/
theorem packets_tearDown (state : Egress) (next : EgressPhase) :
    (state.tearDown next).handled.map Handled.packet =
      state.handled.map Handled.packet ++ state.phase.inFlight := by
  rw [tearDown, List.map_append, List.map_map]
  exact congrArg _ (List.map_id' state.phase.inFlight)

theorem Accounted.step (haccounted : Accounted state) (hstep : Stepped state next) :
    Accounted next := by
  obtain ⟨taken, placed, receiver, dropped⟩ := haccounted
  cases hstep with
  | cancelled => exact ⟨taken, placed, receiver, fun _ _ ↦ rfl⟩
  | readEmpty => exact ⟨taken, placed, receiver, dropped⟩
  | readPacket packet hreader =>
    refine ⟨taken.trans (List.prefix_append _ _), fun hgoing ↦ ?_, receiver, fun _ hdropped ↦ ?_⟩
    · simp [placed hgoing, hreader]
    · exact absurd rfl hdropped
  | readerEnded dropped hhand hdropped hwhy =>
    refine ⟨taken, fun hgoing ↦ ?_, receiver, fun hgoing hsome ↦ ?_⟩
    · have hplaced := placed hgoing
      rw [hhand, hdropped, List.append_nil] at hplaced
      simpa [endReader] using hplaced
    · rcases hwhy with rfl | hcancelled | hended | hreceiver
      · exact absurd rfl hsome
      · exact hcancelled
      · exact absurd hended hgoing
      · rw [receiver hgoing] at hreceiver
        cases hreceiver
  | handed packet buffer hreader hsend =>
    obtain ⟨-, -, hitems, -, hreceiver⟩ := Channel.trySend_eq_some hsend
    refine ⟨taken, fun hgoing ↦ ?_, fun hgoing ↦ hreceiver.trans (receiver hgoing),
      fun _ hsome ↦ absurd rfl hsome⟩
    rw [placed hgoing, hreader, hitems]
    simp
  | dequeued packet rest hphase hrecv =>
    obtain ⟨hitems, -, hreceiver⟩ := Channel.recv_eq_item hrecv
    have hgoing : state.phase ≠ .ended := by rw [hphase]; exact EgressPhase.noConfusion
    have hplaced : state.read = state.handled.map Handled.packet ++ [packet] ++ rest.items ++
        state.reader.hand ++ state.reader.dropped := by
      rw [placed hgoing, hphase, hitems]
      simp
    refine ⟨?_, fun _ ↦ hplaced, fun _ ↦ hreceiver.trans (receiver hgoing), fun _ ↦ dropped hgoing⟩
    rw [hplaced, List.append_assoc, List.append_assoc]
    exact List.prefix_append _ _
  | wrote packet hphase =>
    have hgoing : state.phase ≠ .ended := by rw [hphase]; exact EgressPhase.noConfusion
    rw [hphase] at taken placed
    refine ⟨?_, fun _ ↦ ?_, fun _ ↦ receiver hgoing, fun _ ↦ dropped hgoing⟩
    · simpa using taken
    · simpa using placed EgressPhase.noConfusion
  | tornDown phase hbridging hnext =>
    have hgoing : state.phase ≠ .ended := by
      intro hended
      rw [hended] at hbridging
      cases hbridging
    have hflight : phase.inFlight = [] := by rcases hnext with rfl | rfl <;> rfl
    refine ⟨?_, fun _ ↦ ?_, fun _ ↦ receiver hgoing, fun _ ↦ dropped hgoing⟩
    · rw [packets_tearDown]
      exact (hflight ▸ (List.append_nil _).symm) ▸ taken
    · rw [packets_tearDown]
      exact (hflight ▸ (List.append_nil _).symm) ▸ placed hgoing
  | moved phase hphase hgoing hnext hbridging =>
    rw [hphase] at taken placed
    exact ⟨hnext ▸ taken, fun _ ↦ hnext ▸ placed hgoing, fun _ ↦ receiver hgoing,
      fun _ ↦ dropped hgoing⟩
  | reconnected hphase hgoing =>
    rw [hphase] at taken placed
    exact ⟨taken, fun _ ↦ placed hgoing, fun _ ↦ receiver hgoing, fun _ ↦ dropped hgoing⟩
  | closedDown hphase =>
    rw [hphase] at taken
    exact ⟨taken, fun hgoing ↦ absurd rfl hgoing, fun hgoing ↦ absurd rfl hgoing,
      fun hgoing ↦ absurd rfl hgoing⟩

/-! ### What a connection misses -/

/-- A connection misses at most one packet, and the one that is up misses none. -/
structure Fated (state : Egress) : Prop where
  bound : ∀ handled ∈ state.handled, handled.connection ≤ state.connection
  atMostOne : ∀ connection, (state.missing connection).length ≤ 1
  up : state.phase.isBridging = true → state.missing state.connection = []

theorem Fated.start : Fated .start where
  bound _ hmem := absurd hmem List.not_mem_nil
  atMostOne _ := Nat.zero_le 1
  up _ := rfl

theorem length_inFlight_le (phase : EgressPhase) : phase.inFlight.length ≤ 1 := by
  cases phase with
  | bridging uplink =>
    cases uplink with
    | sending => exact Nat.le_refl 1
    | _ => exact Nat.zero_le 1
  | _ => exact Nat.zero_le 1

/-- A connection that is torn down misses the packet in flight, and the others what they missed. -/
theorem missing_tearDown (state : Egress) (next : EgressPhase) (connection : ℕ) :
    (state.tearDown next).missing connection =
      state.missing connection ++
        if state.connection = connection then state.phase.inFlight else [] := by
  have hflight (packets : List (List UInt8)) :
      ((packets.map fun packet ↦
          ({ connection := state.connection, packet, sent := false } : Handled)).filter
        fun handled ↦ !handled.sent && handled.connection == connection).map Handled.packet =
        if state.connection = connection then packets else [] := by
    by_cases hsame : state.connection = connection
    · induction packets with
      | nil => simp
      | cons packet rest ih =>
        rw [if_pos hsame] at ih ⊢
        simpa [hsame] using ih
    · simp [hsame]
  rw [missing, tearDown, List.filter_append, List.map_append, hflight]
  rfl

/-- A packet that was sent is missing nowhere. -/
theorem missing_wrote (state : Egress) (packet : List UInt8) (connection : ℕ) :
    ({ state with
        phase := .bridging .idle
        handled := state.handled ++ [{ connection := state.connection, packet, sent := true }] } :
      Egress).missing connection = state.missing connection := by
  simp [missing]

theorem Fated.step (hfated : Fated state) (hstep : Stepped state next) : Fated next := by
  obtain ⟨bound, atMostOne, up⟩ := hfated
  cases hstep with
  | cancelled | readEmpty | readPacket | readerEnded | handed => exact ⟨bound, atMostOne, up⟩
  | dequeued packet rest hphase hrecv =>
    exact ⟨bound, atMostOne, fun _ ↦ up (by rw [hphase]; rfl)⟩
  | wrote packet hphase =>
    refine ⟨fun handled hmem ↦ ?_, fun connection ↦ ?_, fun _ ↦ ?_⟩
    · rcases List.mem_append.mp hmem with hold | hnew
      · exact bound handled hold
      · rw [List.mem_singleton.mp hnew]
    · exact (missing_wrote state packet connection).symm ▸ atMostOne connection
    · exact (missing_wrote state packet state.connection).trans (up (by rw [hphase]; rfl))
  | tornDown phase hbridging hnext =>
    refine ⟨fun handled hmem ↦ ?_, fun connection ↦ ?_, fun hup ↦ ?_⟩
    · rcases List.mem_append.mp hmem with hold | hnew
      · exact bound handled hold
      · obtain ⟨packet, -, rfl⟩ := List.mem_map.mp hnew
        exact Nat.le_refl _
    · rw [missing_tearDown]
      by_cases hsame : state.connection = connection
      · rw [if_pos hsame, ← hsame, up hbridging, List.nil_append]
        exact length_inFlight_le state.phase
      · rw [if_neg hsame, List.append_nil]
        exact atMostOne connection
    · rcases hnext with rfl | rfl <;> cases hup
  | moved phase hphase hgoing hnext hbridging =>
    exact ⟨bound, atMostOne, fun hup ↦ up (hbridging ▸ hup)⟩
  | reconnected hphase hgoing =>
    refine ⟨fun handled hmem ↦ Nat.le_succ_of_le (bound handled hmem), atMostOne, fun _ ↦ ?_⟩
    refine List.map_eq_nil_iff.mpr (List.filter_eq_nil_iff.mpr fun handled hmem hnew ↦ ?_)
    obtain ⟨-, hsame⟩ := Bool.and_eq_true_iff.mp hnew
    have hbound := bound handled hmem
    rw [beq_iff_eq.mp hsame] at hbound
    exact Nat.not_succ_le_self _ hbound
  | closedDown hphase => exact ⟨bound, atMostOne, fun hup ↦ absurd hup Bool.false_ne_true⟩

/-- A packet that was handled and not sent belongs to a connection that is over. -/
theorem Fated.gone (hfated : Fated state) {handled : Handled} (hmem : handled ∈ state.handled)
    (hlost : handled.sent = false) : state.gone handled.connection := by
  rcases Nat.lt_or_eq_of_le (hfated.bound handled hmem) with hlt | heq
  · exact Or.inl hlt
  · refine Or.inr ⟨heq, Bool.eq_false_iff.mpr fun hup ↦ ?_⟩
    have hmissing : handled.packet ∈ state.missing state.connection :=
      List.mem_map_of_mem (List.mem_filter.mpr ⟨hmem, by simp [hlost, heq]⟩)
    rw [hfated.up hup] at hmissing
    exact List.not_mem_nil hmissing

/-! ### Order -/

theorem accounted_of_run {actions : List EgressAction}
    (hrun : run (step member) .start actions = some state) : Accounted state :=
  run_preserves (fun _ _ _ haccounted hstep ↦ haccounted.step (stepped_of_step hstep)) hrun .start

theorem fated_of_run {actions : List EgressAction}
    (hrun : run (step member) .start actions = some state) : Fated state :=
  run_preserves (fun _ _ _ hfated hstep ↦ hfated.step (stepped_of_step hstep)) hrun .start

/-- What is sent is a sublist of what was dequeued, which begins what was read. -/
theorem Accounted.sent_sublist (haccounted : Accounted state) : state.sent.Sublist state.read := by
  have hhandled : state.handled.map Handled.packet <+: state.read :=
    (List.prefix_append _ _).trans haccounted.taken
  exact (List.filter_sublist.map Handled.packet).trans hhandled.sublist

/-- In every run the packets that are sent over all connections are a sublist of the packets that
are read. Until the session ends every packet that was read was handled, is being sent, is in the
buffer or in the hand of the reader, or was dropped with the reader. A packet that was handled and
not sent belongs to a connection that is over, which misses no other; the reader drops at most one
packet, and only once the token is set. -/
theorem egress_order (member : Bool) {actions : List EgressAction} {final : Egress}
    (hrun : run (step member) .start actions = some final) :
    final.sent.Sublist final.read ∧
      (final.phase ≠ .ended →
        final.read = final.handled.map Handled.packet ++ final.phase.inFlight ++
            final.buffer.items ++ final.reader.hand ++ final.reader.dropped ∧
          final.reader.dropped.length ≤ 1 ∧
          (final.reader.dropped ≠ [] → final.cancelled = true)) ∧
      (∀ handled ∈ final.handled, handled.sent = false → final.gone handled.connection) ∧
      ∀ connection, (final.missing connection).length ≤ 1 := by
  have haccounted := accounted_of_run hrun
  have hfated := fated_of_run hrun
  refine ⟨haccounted.sent_sublist, fun hgoing ↦ ⟨haccounted.placed hgoing, ?_, ?_⟩, ?_,
    hfated.atMostOne⟩
  · cases final.reader with
    | done dropped => exact Option.length_toList_le
    | _ => exact Nat.zero_le 1
  · exact haccounted.dropped hgoing
  · exact fun handled hmem hlost ↦ hfated.gone hmem hlost

/-- The second packet is being sent when its connection is lost; a redial fails, the next one brings
up a connection that sends the third. -/
theorem egress_order_redialed :
    ∃ final, run (step true) .start
        [.tunRead [1], .handOver, .dequeue, .sendDone, .tunRead [2], .handOver, .tunRead [3],
          .handOver, .dequeue, .sendFailed, .closed, .redialFailed, .redialed 0x0a000002#32,
          .refreshPeers, .sendDone, .dequeue, .sendDone] = some final ∧
      final.sent = [[1], [3]] ∧ final.missing 0 = [[2]] ∧ final.sent.Sublist final.read := by
  obtain ⟨final, hrun, hsent⟩ := Option.any_eq_true _ _ |>.mp (by decide +kernel :
    (run (step true) .start
      [.tunRead [1], .handOver, .dequeue, .sendDone, .tunRead [2], .handOver, .tunRead [3],
        .handOver, .dequeue, .sendFailed, .closed, .redialFailed, .redialed 0x0a000002#32,
        .refreshPeers, .sendDone, .dequeue, .sendDone]).any
      fun final ↦ final.sent = [[1], [3]] ∧ final.missing 0 = [[2]])
  rw [decide_eq_true_iff] at hsent
  exact ⟨final, hrun, hsent.1, hsent.2, (egress_order true hrun).1⟩

/-- The user's cancellation can reach the reader with a packet in its hand before it reaches the
main loop. The packet is dropped without having been dequeued, while the connection is up. -/
theorem dropped_while_bridging :
    ¬ ∀ (member : Bool) (actions : List EgressAction) (final : Egress),
      run (step member) .start actions = some final → final.phase ≠ .ended →
        final.read = final.handled.map Handled.packet ++ final.phase.inFlight ++
          final.buffer.items ++ final.reader.hand := by
  intro hclaim
  obtain ⟨final, hrun, hlost⟩ := Option.any_eq_true _ _ |>.mp (by decide +kernel :
    (run (step false) .start [.tunRead [1], .cancel, .readerCancelled]).any
      fun final ↦ final.phase ≠ .ended ∧
        final.read ≠ final.handled.map Handled.packet ++ final.phase.inFlight ++
          final.buffer.items ++ final.reader.hand)
  rw [decide_eq_true_iff] at hlost
  exact hlost.2 (hclaim false _ final hrun hlost.1)

end Egress

/-! ### Phases of the session -/

/-- The phase of the session; what the main loop does after it is left is its last effect. -/
def EgressPhase.session : EgressPhase → Phase Unit
  | .bridging _ => .bridging none
  | .closing => .closing
  | .redialing attempt => .redialing attempt
  | .leaving | .ended => .ended

/-- The events of the session that a step is. -/
def EgressAction.events (state : Egress) : EgressAction → List SessionEvent
  | .dequeue => if state.buffer.items = [] then [.tunEnded] else []
  | .sendDone => state.phase.inFlight.map fun packet ↦ .sent packet.length
  | .sendFailed => [.sendFailed]
  | .receiveFailed => [.receiveFailed]
  | .stalled => [.sample, .tick]
  | .cancelSeen => [.cancelSeen]
  | .closed => [.closed]
  | .redialed ip => [.redialed ip]
  | .redialFailed => [.redialFailed]
  | _ => []

namespace Egress

variable {member : Bool} {state next : Egress} {action : EgressAction}

/-- The phases of a packet session whose monitor reports a stall at its next tick. -/
def sessionStep (cancelled : Bool) (phase : Phase Unit) (event : SessionEvent) :
    Option (Phase Unit) :=
  (phase.step .packet cancelled () (fun _ ↦ ((), true)) event).map Prod.fst

theorem session_lost (cancelled : Bool) :
    (EgressPhase.lost cancelled).session = (Phase.lost cancelled : Phase Unit × Effect).1 := by
  cases cancelled <;> rfl

/-- A lost connection is a lost session phase, whatever the uplink is doing. -/
theorem session_of_lost {events : List SessionEvent}
    (hevents : events = [.sendFailed] ∨ events = [.receiveFailed] ∨ events = [.sample, .tick])
    (cancelled : Bool) :
    run (sessionStep cancelled) (.bridging none) events =
      some (EgressPhase.lost cancelled).session := by
  rw [session_lost]
  rcases hevents with rfl | rfl | rfl <;> rfl

/-- While a connection is up. -/
theorem session_of_bridging {uplink : Uplink} (hphase : state.phase = .bridging uplink)
    (hstep : state.mainStep member (.bridging uplink) action = some next) :
    run (sessionStep state.cancelled) (.bridging none) (action.events state) =
      some next.phase.session := by
  cases action with
  | sendFailed =>
    cases uplink <;> cases hstep <;> exact session_of_lost (Or.inl rfl) state.cancelled
  | receiveFailed =>
    cases uplink <;> cases hstep <;> exact session_of_lost (Or.inr (Or.inl rfl)) state.cancelled
  | stalled =>
    cases uplink <;> cases hstep <;> exact session_of_lost (Or.inr (Or.inr rfl)) state.cancelled
  | cancelSeen =>
    have hleft : state.cancelled = true ∧ next.phase = .leaving := by
      cases uplink <;> rw [mainStep] at hstep <;> split_ifs at hstep with hcancelled <;>
        cases hstep <;> exact ⟨hcancelled, rfl⟩
    rw [hleft.1, hleft.2]
    rfl
  | keepalive =>
    cases uplink <;> cases hstep
    rfl
  | refreshPeers =>
    cases uplink with
    | idle =>
      rw [mainStep] at hstep
      split_ifs at hstep
      cases hstep
      rfl
    | _ => cases hstep
  | dequeue =>
    cases uplink with
    | idle =>
      rw [mainStep] at hstep
      split at hstep <;> cases hstep
      · rename_i packet rest hrecv
        have hevents : EgressAction.dequeue.events state = [] :=
          if_neg ((Channel.recv_eq_item hrecv).1 ▸ List.cons_ne_nil packet rest.items)
        rw [hevents]
        rfl
      · rename_i hrecv
        have hevents : EgressAction.dequeue.events state = [.tunEnded] :=
          if_pos (Channel.recv_eq_ended hrecv).1
        rw [hevents]
        rfl
    | _ => cases hstep
  | sendDone =>
    have hevents : EgressAction.sendDone.events state =
        (EgressPhase.bridging uplink).inFlight.map fun packet ↦ .sent packet.length :=
      hphase ▸ rfl
    rw [hevents]
    cases uplink <;> cases hstep <;> rfl
  | _ => cases uplink <;> cases hstep

theorem session_of_mainStep (hstep : state.mainStep member state.phase action = some next) :
    run (sessionStep state.cancelled) state.phase.session (action.events state) =
      some next.phase.session := by
  cases hphase : state.phase with
  | bridging uplink =>
    rw [hphase] at hstep
    exact session_of_bridging hphase hstep
  | redialing attempt =>
    rw [hphase] at hstep
    cases action with
    | redialed ip =>
      rw [mainStep] at hstep
      split_ifs at hstep with hcancelled <;> cases hstep
      · rw [hcancelled]
        rfl
      · rw [Bool.eq_false_iff.mpr hcancelled]
        rfl
    | redialFailed =>
      rw [mainStep] at hstep
      split_ifs at hstep with hattempt <;> cases hstep
      · have hagain : sessionStep state.cancelled (.redialing attempt) .redialFailed =
            some (.redialing (attempt + 1)) := by
          rw [sessionStep, Phase.step, if_pos hattempt]
          rfl
        exact run_cons_eq_some.mpr ⟨_, hagain, rfl⟩
      · have hgaveUp : sessionStep state.cancelled (.redialing attempt) .redialFailed =
            some .ended := by
          rw [sessionStep, Phase.step, if_neg hattempt]
          rfl
        exact run_cons_eq_some.mpr ⟨_, hgaveUp, rfl⟩
    | cancelSeen =>
      rw [mainStep] at hstep
      split_ifs at hstep with hcancelled
      cases hstep
      rw [hcancelled]
      rfl
    | _ => cases hstep
  | closing | leaving =>
    rw [hphase] at hstep
    cases action <;> cases hstep
    rfl
  | ended =>
    rw [hphase] at hstep
    cases action <;> cases hstep

/-- Every step takes the session through its own events of the step. -/
theorem session_of_step (hstep : step member state action = some next) :
    run (sessionStep state.cancelled) state.phase.session (action.events state) =
      some next.phase.session := by
  cases action with
  | cancel =>
    cases hstep
    rfl
  | tunRead | tunFailed | readerCancelled | handOver | aborted =>
    rw [(stepped_of_readerStep hstep).2]
    rfl
  | _ => exact session_of_mainStep hstep

end Egress

end EntroTunnel.Client
