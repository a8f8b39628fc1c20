import EntroTunnel.Core.Wire
import Mathlib.Algebra.Group.Nat.Defs

/-!
# The task of a session

`run_session` and `run_packet_mode` of `client-core/src/engine.rs` with `run_http_mode` of
`proxy.rs`, as a machine of phases. A session is given the shared status and the cancellation token
and changes both: it counts the payload bytes it moves, publishes the address and the peers it
learns, and a packet session that ends fires the token. `Phase.step` takes one event of the session,
an outcome of its connection, its TUN or its timers, to the next phase and the effect on what is
shared.

`Monitor` is the stall monitor of `bridge_connection`. The machine is generic in what the monitor
remembers between two ticks: the code's monitor samples the shared counters, and `Phase.step_map`
relates it to any other that answers alike.
-/

set_option autoImplicit false
set_option relaxedAutoImplicit false

namespace EntroTunnel.Client

open EntroTunnel.Core

/-! ### Shared status -/

/-- `u64::MAX`. -/
def counterMax : ℕ := 2 ^ 64 - 1

/-- What the front-end polls while a session runs. -/
structure LiveStatus where
  assignedIp : Option Ipv4Addr := none
  peers : List PeerInfo := []
  upBytes : ℕ := 0
  downBytes : ℕ := 0
  deriving DecidableEq, Repr

namespace LiveStatus

/-- `add_traffic_up`: a saturating addition. -/
def addTrafficUp (status : LiveStatus) (count : ℕ) : LiveStatus :=
  if count = 0 then status
  else { status with upBytes := min (status.upBytes + count) counterMax }

/-- `add_traffic_down`. -/
def addTrafficDown (status : LiveStatus) (count : ℕ) : LiveStatus :=
  if count = 0 then status
  else { status with downBytes := min (status.downBytes + count) counterMax }

end LiveStatus

/-- What an event of a session does to the shared status and to the token. -/
structure Effect where
  up : ℕ := 0
  down : ℕ := 0
  assignedIp : Option Ipv4Addr := none
  peers : Option (List PeerInfo) := none
  cancels : Bool := false
  deriving DecidableEq, Repr

/-- Publish an effect. -/
def LiveStatus.publish (status : LiveStatus) (effect : Effect) : LiveStatus :=
  let counted := (status.addTrafficUp effect.up).addTrafficDown effect.down
  { counted with
    assignedIp := effect.assignedIp.or counted.assignedIp
    peers := effect.peers.getD counted.peers }

/-! ### Stall monitor -/

/-- `STALL_SILENT_SECS`. -/
def stallSilentSecs : ℕ := 1

/-- `RECONNECT_ATTEMPTS`. -/
def reconnectAttempts : ℕ := 3

/-- The memory of the monitor between two ticks. -/
structure Monitor where
  lastUp : ℕ
  lastDown : ℕ
  silentSecs : ℕ
  deriving DecidableEq, Repr

namespace Monitor

/-- The first sample of the counters. -/
def sample (status : LiveStatus) : Monitor where
  lastUp := status.upBytes
  lastDown := status.downBytes
  silentSecs := 0

/-- Exactly one direction has moved bytes since the last sample. -/
def oneSided (monitor : Monitor) (status : LiveStatus) : Bool :=
  decide (monitor.lastUp < status.upBytes) != decide (monitor.lastDown < status.downBytes)

/-- One tick, and whether it reports a stall. -/
def tick (threshold : ℕ) (status : LiveStatus) (monitor : Monitor) : Monitor × Bool :=
  if monitor.oneSided status then
    (⟨status.upBytes, status.downBytes, monitor.silentSecs + 1⟩,
      decide (threshold ≤ monitor.silentSecs + 1))
  else (⟨status.upBytes, status.downBytes, 0⟩, false)

end Monitor

/-! ### Phases -/

/-- What a session runs once it is set up. -/
inductive SessionKind
  | packet
  | http
  deriving DecidableEq, Repr

/-- Where the task of a session stands; `μ` is the memory of its monitor, `none` before the first
sample. -/
inductive Phase (μ : Type)
  | connecting
  | settingUp
  | bridging (monitor : Option μ)
  | closing
  | redialing (attempt : ℕ)
  | serving (writing reading : Bool)
  | ended
  deriving DecidableEq, Repr

/-- What happens to a session: outcomes of its connection, its TUN and its timers, and that it sees
the token. -/
inductive SessionEvent
  | connected (ip : Ipv4Addr)
  | connectFailed
  | setUp
  | setUpFailed
  | sent (count : ℕ)
  | sendFailed
  | tunEnded
  | received (count : ℕ)
  | peerList (peers : List PeerInfo)
  | receiveFailed
  | sample
  | tick
  | cancelSeen
  | closed
  | redialed (ip : Ipv4Addr)
  | redialFailed
  deriving DecidableEq, Repr

namespace Phase

variable {μ ν : Type}

/-- The phase after setup. -/
def opened : SessionKind → Phase μ
  | .packet => .bridging none
  | .http => .serving true true

/-- The end of `run_packet_mode`, which fires the token. -/
def closedDown : Phase μ × Effect :=
  (.ended, { cancels := true })

/-- `ConnEnd::Lost`: nothing is redialed once the token is set. -/
def lost (cancelled : Bool) : Phase μ × Effect :=
  if cancelled then closedDown else (.closing, {})

/-- One event of a session. -/
def step (kind : SessionKind) (cancelled : Bool) (sample : μ) (tick : μ → μ × Bool) :
    Phase μ → SessionEvent → Option (Phase μ × Effect)
  | .connecting, .connected ip => some (.settingUp, { assignedIp := some ip })
  | .connecting, .connectFailed => some (.ended, {})
  | .settingUp, .setUp => some (opened kind, {})
  | .settingUp, .setUpFailed => some (.ended, {})
  | .bridging monitor, .sent count => some (.bridging monitor, { up := count })
  | .bridging monitor, .received count => some (.bridging monitor, { down := count })
  | .bridging monitor, .peerList peers => some (.bridging monitor, { peers := some peers })
  | .bridging _, .sendFailed => some (lost cancelled)
  | .bridging _, .receiveFailed => some (lost cancelled)
  | .bridging _, .tunEnded => some closedDown
  | .bridging none, .sample => some (.bridging (some sample), {})
  | .bridging (some monitor), .tick =>
    if (tick monitor).2 then some (lost cancelled)
    else some (.bridging (some (tick monitor).1), {})
  | .bridging _, .cancelSeen => if cancelled then some closedDown else none
  | .closing, .closed => some (.redialing 1, {})
  | .redialing _, .redialed ip =>
    some (if cancelled then .ended else .bridging none,
      { assignedIp := some ip, cancels := cancelled })
  | .redialing attempt, .redialFailed =>
    if attempt < reconnectAttempts then some (.redialing (attempt + 1), {}) else some closedDown
  | .redialing _, .cancelSeen => if cancelled then some closedDown else none
  | .serving true reading, .sent count => some (.serving true reading, { up := count })
  | .serving true reading, .sendFailed => some (.serving false reading, {})
  | .serving writing true, .received count => some (.serving writing true, { down := count })
  | .serving writing true, .peerList peers => some (.serving writing true, { peers := some peers })
  | .serving writing true, .receiveFailed => some (.serving writing false, {})
  | .serving _ _, .cancelSeen => if cancelled then some (.ended, {}) else none
  | _, _ => none

/-- The phase with another memory of the monitor. -/
def map (f : μ → ν) : Phase μ → Phase ν
  | .connecting => .connecting
  | .settingUp => .settingUp
  | .bridging monitor => .bridging (monitor.map f)
  | .closing => .closing
  | .redialing attempt => .redialing attempt
  | .serving writing reading => .serving writing reading
  | .ended => .ended

theorem lost_map (f : μ → ν) (cancelled : Bool) :
    ((lost cancelled : Phase μ × Effect).1.map f, (lost cancelled : Phase μ × Effect).2) =
      lost cancelled := by
  cases cancelled <;> rfl

/-- Two monitors that answer a tick alike take a session through the same phases. -/
theorem step_map (f : μ → ν) {kind : SessionKind} {cancelled : Bool} {sample : μ}
    {tick : μ → μ × Bool} {otherSample : ν} {other : ν → ν × Bool} {phase : Phase μ}
    {event : SessionEvent} (hsample : f sample = otherSample)
    (htick : ∀ monitor, phase = .bridging (some monitor) → event = .tick →
      other (f monitor) = (f (tick monitor).1, (tick monitor).2)) :
    (phase.map f).step kind cancelled otherSample other event =
      (phase.step kind cancelled sample tick event).map fun result ↦
        (result.1.map f, result.2) := by
  subst hsample
  cases phase with
  | connecting => cases event <;> rfl
  | settingUp => cases event <;> cases kind <;> rfl
  | closing => cases event <;> rfl
  | ended => cases event <;> rfl
  | serving writing reading =>
    cases event <;> cases writing <;> cases reading <;> cases cancelled <;> rfl
  | redialing attempt =>
    cases event with
    | redialFailed =>
      rw [map, step, step]
      split_ifs <;> rfl
    | _ => cases cancelled <;> rfl
  | bridging monitor =>
    cases event with
    | tick =>
      cases monitor with
      | none => rfl
      | some monitor =>
        rw [map, Option.map_some, step, step, htick monitor rfl rfl]
        dsimp only
        by_cases hstalled : (tick monitor).2 = true
        · rw [if_pos hstalled, if_pos hstalled, Option.map_some, lost_map]
        · rw [if_neg hstalled, if_neg hstalled]
          rfl
    | sample => cases monitor <;> rfl
    | _ => cases monitor <;> cases cancelled <;> rfl

/-- What an event can do: one case for every way in which `step` is taken. -/
inductive Stepped (kind : SessionKind) (cancelled : Bool) (sample : μ) (tick : μ → μ × Bool) :
    Phase μ → SessionEvent → Phase μ → Effect → Prop
  | connected (ip : Ipv4Addr) : Stepped kind cancelled sample tick .connecting (.connected ip)
      .settingUp { assignedIp := some ip }
  | connectFailed : Stepped kind cancelled sample tick .connecting .connectFailed .ended {}
  | setUp : Stepped kind cancelled sample tick .settingUp .setUp (opened kind) {}
  | setUpFailed : Stepped kind cancelled sample tick .settingUp .setUpFailed .ended {}
  | sent (monitor : Option μ) (count : ℕ) : Stepped kind cancelled sample tick (.bridging monitor)
      (.sent count) (.bridging monitor) { up := count }
  | received (monitor : Option μ) (count : ℕ) : Stepped kind cancelled sample tick
      (.bridging monitor) (.received count) (.bridging monitor) { down := count }
  | peerList (monitor : Option μ) (peers : List PeerInfo) : Stepped kind cancelled sample tick
      (.bridging monitor) (.peerList peers) (.bridging monitor) { peers := some peers }
  | lost (monitor : Option μ) (event : SessionEvent)
      (hevent : event = .sendFailed ∨ event = .receiveFailed ∨
        event = .tick ∧ ∃ before, monitor = some before ∧ (tick before).2 = true) :
      Stepped kind cancelled sample tick (.bridging monitor) event (Phase.lost cancelled).1
        (Phase.lost cancelled : Phase μ × Effect).2
  | tunEnded (monitor : Option μ) : Stepped kind cancelled sample tick (.bridging monitor) .tunEnded
      .ended { cancels := true }
  | sample : Stepped kind cancelled sample tick (.bridging none) .sample
      (.bridging (some sample)) {}
  | tick (before : μ) (hgoing : (tick before).2 = false) : Stepped kind cancelled sample tick
      (.bridging (some before)) .tick (.bridging (some (tick before).1)) {}
  | cancelSeen (phase : Phase μ)
      (hphase : (∃ monitor, phase = .bridging monitor) ∨ ∃ attempt, phase = .redialing attempt)
      (hcancelled : cancelled = true) : Stepped kind cancelled sample tick phase .cancelSeen .ended
      { cancels := true }
  | closed : Stepped kind cancelled sample tick .closing .closed (.redialing 1) {}
  | redialed (attempt : ℕ) (ip : Ipv4Addr) (hcancelled : cancelled = false) :
      Stepped kind cancelled sample tick (.redialing attempt) (.redialed ip) (.bridging none)
      { assignedIp := some ip }
  | redialedLate (attempt : ℕ) (ip : Ipv4Addr) (hcancelled : cancelled = true) :
      Stepped kind cancelled sample tick (.redialing attempt) (.redialed ip) .ended
      { assignedIp := some ip, cancels := true }
  | redialAgain (attempt : ℕ) (hattempt : attempt < reconnectAttempts) :
      Stepped kind cancelled sample tick (.redialing attempt) .redialFailed
      (.redialing (attempt + 1)) {}
  | gaveUp (attempt : ℕ) (hattempt : reconnectAttempts ≤ attempt) :
      Stepped kind cancelled sample tick (.redialing attempt) .redialFailed .ended
      { cancels := true }
  | serve (writing reading : Bool) (event : SessionEvent) (writingNext readingNext : Bool)
      (effect : Effect) (hcancels : effect.cancels = false) : Stepped kind cancelled sample tick
      (.serving writing reading) event (.serving writingNext readingNext) effect
  | serveCancelled (writing reading : Bool) (hcancelled : cancelled = true) :
      Stepped kind cancelled sample tick (.serving writing reading) .cancelSeen .ended {}

section Inversion

variable {kind : SessionKind} {cancelled : Bool} {first : μ} {tick : μ → μ × Bool}
  {phase next : Phase μ} {event : SessionEvent} {effect : Effect}

theorem stepped_of_lost {monitor : Option μ}
    (hevent : event = .sendFailed ∨ event = .receiveFailed ∨
      event = .tick ∧ ∃ before, monitor = some before ∧ (tick before).2 = true)
    (hlost : lost cancelled = (next, effect)) :
    Stepped kind cancelled first tick (.bridging monitor) event next effect := by
  obtain rfl : (lost cancelled).1 = next := congrArg Prod.fst hlost
  obtain rfl : (lost cancelled : Phase μ × Effect).2 = effect := congrArg Prod.snd hlost
  exact .lost monitor event hevent

theorem stepped_of_step (hstep : phase.step kind cancelled first tick event = some (next, effect)) :
    Stepped kind cancelled first tick phase event next effect := by
  cases phase with
  | connecting =>
    cases event <;> cases hstep
    · exact .connected _
    · exact .connectFailed
  | settingUp =>
    cases event <;> cases hstep
    · exact .setUp
    · exact .setUpFailed
  | closing =>
    cases event <;> cases hstep
    exact .closed
  | ended => cases event <;> cases hstep
  | serving writing reading =>
    cases event with
    | cancelSeen =>
      cases cancelled <;> cases writing <;> cases reading <;> cases hstep <;>
        exact .serveCancelled _ _ rfl
    | _ =>
      cases writing <;> cases reading <;> cases hstep <;> exact .serve _ _ _ _ _ _ rfl
  | redialing attempt =>
    cases event with
    | redialed ip =>
      cases cancelled <;> cases hstep
      · exact .redialed attempt ip rfl
      · exact .redialedLate attempt ip rfl
    | redialFailed =>
      rw [step] at hstep
      split_ifs at hstep with hattempt <;> cases hstep
      · exact .redialAgain attempt hattempt
      · exact .gaveUp attempt (not_lt.mp hattempt)
    | cancelSeen =>
      rw [step] at hstep
      split_ifs at hstep with hcancelled
      cases hstep
      exact .cancelSeen _ (Or.inr ⟨attempt, rfl⟩) hcancelled
    | _ => cases hstep
  | bridging monitor =>
    cases event with
    | sent | received | peerList | tunEnded =>
      cases hstep
      constructor
    | sendFailed => exact stepped_of_lost (Or.inl rfl) (Option.some.inj hstep)
    | receiveFailed => exact stepped_of_lost (Or.inr (Or.inl rfl)) (Option.some.inj hstep)
    | sample =>
      cases monitor <;> cases hstep
      exact .sample
    | tick =>
      cases monitor with
      | none => cases hstep
      | some before =>
        rw [step] at hstep
        split_ifs at hstep with hstalled
        · exact stepped_of_lost (Or.inr (Or.inr ⟨rfl, before, rfl, hstalled⟩))
            (Option.some.inj hstep)
        · cases hstep
          exact .tick before (Bool.eq_false_of_not_eq_true hstalled)
    | cancelSeen =>
      rw [step] at hstep
      split_ifs at hstep with hcancelled
      cases hstep
      exact .cancelSeen _ (Or.inl ⟨monitor, rfl⟩) hcancelled
    | _ => cases hstep

/-- The events at which the monitor samples the counters. -/
def samples : SessionEvent → Bool
  | .sample | .tick => true
  | _ => false

/-- The event ends a packet session that has not seen the token: its TUN is gone, or the last
attempt to redial has failed. -/
def givesUp : Phase μ → SessionEvent → Bool
  | .bridging _, .tunEnded => true
  | .redialing attempt, .redialFailed => decide (reconnectAttempts ≤ attempt)
  | _, _ => false

/-- A session that fires the token has ended, and it gave up unless the token was set already. -/
theorem Stepped.of_cancels (hstep : Stepped kind cancelled first tick phase event next effect)
    (hcancels : effect.cancels = true) :
    next = .ended ∧ (cancelled = true ∨ phase.givesUp event = true) := by
  cases hstep with
  | lost =>
    cases cancelled with
    | true => exact ⟨rfl, Or.inl rfl⟩
    | false => cases hcancels
  | tunEnded => exact ⟨rfl, Or.inr rfl⟩
  | cancelSeen _ _ hcancelled | redialedLate _ _ hcancelled => exact ⟨rfl, Or.inl hcancelled⟩
  | gaveUp _ hattempt => exact ⟨rfl, Or.inr (decide_eq_true hattempt)⟩
  | serve _ _ _ _ _ _ hnot => exact absurd (hnot.symm.trans hcancels) nofun
  | _ => cases hcancels

/-- How a bridging session comes to the memory of its monitor: it has it from before, or it has just
sampled and nothing else happened. -/
theorem Stepped.of_bridging {monitor : μ} (hnext : next = .bridging (some monitor))
    (hstep : Stepped kind cancelled first tick phase event next effect) :
    phase = .bridging (some monitor) ∧ samples event = false ∨
      samples event = true ∧ effect = {} ∧
        (monitor = first ∨ ∃ before, monitor = (tick before).1) := by
  cases hstep with
  | sent | received | peerList => exact Or.inl ⟨hnext, rfl⟩
  | sample =>
    cases hnext
    exact Or.inr ⟨rfl, rfl, Or.inl rfl⟩
  | tick before =>
    cases hnext
    exact Or.inr ⟨rfl, rfl, Or.inr ⟨before, rfl⟩⟩
  | lost => cases cancelled <;> cases hnext
  | setUp => cases kind <;> cases hnext
  | _ => cases hnext

/-- The phases of a session that is set up. -/
def isSetUp : Phase μ → Bool
  | .connecting | .settingUp => false
  | _ => true

theorem isSetUp_opened (kind : SessionKind) : (opened kind : Phase μ).isSetUp = true := by
  cases kind <;> rfl

theorem Stepped.isSetUp (hstep : Stepped kind cancelled first tick phase event next effect)
    (hsetUp : phase.isSetUp = true) : next.isSetUp = true := by
  cases hstep with
  | connected => cases hsetUp
  | setUp => cases hsetUp
  | lost => cases cancelled <;> rfl
  | _ => rfl

/-- Once the token is set, a session closes no connection to redial. -/
theorem Stepped.ne_closing (hstep : Stepped kind cancelled first tick phase event next effect)
    (hcancelled : cancelled = true) : next ≠ .closing := by
  cases hstep with
  | lost =>
    rw [hcancelled]
    exact nofun
  | setUp => cases kind <;> exact nofun
  | _ => exact nofun

/-- A session whose token is set sees it, unless it is closing a connection. -/
theorem cancelSeen_isSome (hsetUp : phase.isSetUp = true) (hclosing : phase ≠ .closing) :
    phase = .ended ∨ (phase.step kind true first tick .cancelSeen).isSome = true := by
  cases phase with
  | connecting | settingUp => cases hsetUp
  | closing => exact absurd rfl hclosing
  | ended => exact Or.inl rfl
  | bridging monitor => cases monitor <;> exact Or.inr rfl
  | redialing => exact Or.inr rfl
  | serving writing reading => cases writing <;> cases reading <;> exact Or.inr rfl

end Inversion

end Phase

/-! ### Counters -/

namespace LiveStatus

variable {status : LiveStatus} {effect : Effect}

theorem publish_upBytes (hup : status.upBytes ≤ counterMax) :
    (status.publish effect).upBytes = min (status.upBytes + effect.up) counterMax := by
  unfold publish addTrafficDown addTrafficUp
  split_ifs <;> simp_all

theorem publish_downBytes (hdown : status.downBytes ≤ counterMax) :
    (status.publish effect).downBytes = min (status.downBytes + effect.down) counterMax := by
  unfold publish addTrafficDown addTrafficUp
  split_ifs <;> simp_all

end LiveStatus

end EntroTunnel.Client
