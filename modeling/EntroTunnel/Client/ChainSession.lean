import EntroTunnel.Client.ChainSetup
import EntroTunnel.Client.PacketSession
import EntroTunnel.Foundation.Noninterference

/-!
# The egress session beside the VPN session

`run_chain_session` with `join_vpn` runs two sessions side by side that share the status record and
the cancellation token: the egress session over the chain and the VPN session with the first hop.
`ChainSession.step` takes an event of either session, or the user's cancellation, and `decisions` is
what the egress session has come to: its phase, with the count of its monitor, and the token.

The two sessions meet in two places. The stall monitor of the egress session samples byte counters
that the VPN session also writes, and the token that the VPN session fires at its end is the one the
egress session watches. `Undisturbing` is the condition that neither matters; in runs under it the
egress session decides as its own events and the user have it, whatever the VPN session does
(`egress_undisturbed`).
-/

set_option autoImplicit false
set_option relaxedAutoImplicit false

namespace EntroTunnel.Client

open EntroTunnel.Core EntroTunnel.Foundation

/-! ### Model -/

/-- Payload bytes in either direction. -/
structure Traffic where
  up : ℕ
  down : ℕ
  deriving DecidableEq, Repr

namespace Traffic

instance : Zero Traffic := ⟨⟨0, 0⟩⟩

instance : Add Traffic := ⟨fun first second ↦ ⟨first.up + second.up, first.down + second.down⟩⟩

@[simp] theorem zero_up : (0 : Traffic).up = 0 := rfl

@[simp] theorem zero_down : (0 : Traffic).down = 0 := rfl

@[simp] theorem add_up (first second : Traffic) : (first + second).up = first.up + second.up := rfl

@[simp] theorem add_down (first second : Traffic) :
    (first + second).down = first.down + second.down := rfl

/-- Exactly one direction has carried bytes. -/
def oneSided (traffic : Traffic) : Bool :=
  decide (0 < traffic.up) != decide (0 < traffic.down)

end Traffic

/-- The bytes that an effect counts. -/
def Effect.traffic (effect : Effect) : Traffic where
  up := effect.up
  down := effect.down

/-- Both sessions with what they share; `kind` is that of the egress session. Two records of history
go along: the bytes that the egress session and the VPN session have counted since the egress
monitor sampled last. -/
structure ChainSession where
  kind : SessionKind
  status : LiveStatus
  cancelled : Bool
  phase : ChainRole → Phase Monitor
  own : Traffic
  foreign : Traffic

/-- An event of a session, or the user's cancellation. -/
inductive ChainEvent
  | cancel
  | session (session : ChainRole) (event : SessionEvent)
  deriving DecidableEq, Repr

namespace ChainSession

/-- The chain is up and the VPN session is spawned. -/
def start (kind : SessionKind) : ChainSession where
  kind
  status := {}
  cancelled := false
  phase
    | .egress => .settingUp
    | .lan => .connecting
  own := 0
  foreign := 0

/-- What a session runs. -/
def kindOf (state : ChainSession) : ChainRole → SessionKind
  | .egress => state.kind
  | .lan => .packet

/-- Publish what an event of a session has come to. -/
def publish (state : ChainSession) (session : ChainRole) (event : SessionEvent)
    (result : Phase Monitor × Effect) : ChainSession :=
  { state with
    status := state.status.publish result.2
    cancelled := state.cancelled || result.2.cancels
    phase := Function.update state.phase session result.1
    own :=
      match session with
      | .egress => if Phase.samples event then 0 else state.own + result.2.traffic
      | .lan => state.own
    foreign :=
      match session with
      | .egress => if Phase.samples event then 0 else state.foreign
      | .lan => state.foreign + result.2.traffic }

@[simp] theorem publish_phase (state : ChainSession) (session : ChainRole) (event : SessionEvent)
    (result : Phase Monitor × Effect) :
    (state.publish session event result).phase = Function.update state.phase session result.1 :=
  rfl

/-- One event of the chained session. -/
def step (state : ChainSession) : ChainEvent → Option ChainSession
  | .cancel => some { state with cancelled := true }
  | .session session event =>
    ((state.phase session).step (state.kindOf session) state.cancelled
      (Monitor.sample state.status) (Monitor.tick stallSilentSecs state.status) event).map
        (state.publish session event)

/-- What the egress session has come to: its phase with the silent seconds that its monitor has
counted, and the token. -/
def decisions (state : ChainSession) : Phase ℕ × Bool :=
  ((state.phase .egress).map Monitor.silentSecs, state.cancelled)

end ChainSession

/-- The events of the egress session and of the user. -/
def ChainEvent.ofEgress : ChainEvent → Bool
  | .session .lan _ => false
  | _ => true

/-! ### The condition -/

/-- The condition on a step: the VPN session gives up only when the token is set, and at a tick of
the egress monitor the bytes of the VPN session make no difference to whether exactly one direction
has carried bytes, with neither counter at its end. -/
def Undisturbing (state : ChainSession) : ChainEvent → Prop
  | .session .lan event => (state.phase .lan).givesUp event = true → state.cancelled = true
  | .session .egress .tick =>
    match state.phase .egress with
    | .bridging (some monitor) =>
      (state.own + state.foreign).oneSided = state.own.oneSided ∧
        monitor.lastUp < counterMax ∧ monitor.lastDown < counterMax
    | _ => True
  | _ => True

instance (state : ChainSession) (event : ChainEvent) : Decidable (Undisturbing state event) := by
  unfold Undisturbing
  split
  · infer_instance
  · split <;> infer_instance
  · infer_instance

/-! ### The counters and the record -/

theorem Monitor.tick_last (threshold : ℕ) (status : LiveStatus) (monitor : Monitor) :
    (monitor.tick threshold status).1.lastUp = status.upBytes ∧
      (monitor.tick threshold status).1.lastDown = status.downBytes := by
  rw [Monitor.tick]
  split_ifs <;> exact ⟨rfl, rfl⟩

/-- The shared counters are what the egress monitor sampled last and what both sessions have counted
since. -/
structure Counted (state : ChainSession) : Prop where
  up_le : state.status.upBytes ≤ counterMax
  down_le : state.status.downBytes ≤ counterMax
  sampled : ∀ monitor, state.phase .egress = .bridging (some monitor) →
    state.status.upBytes = min (monitor.lastUp + (state.own + state.foreign).up) counterMax ∧
      state.status.downBytes = min (monitor.lastDown + (state.own + state.foreign).down) counterMax

theorem counted_start (kind : SessionKind) : Counted (.start kind) where
  up_le := Nat.zero_le _
  down_le := Nat.zero_le _
  sampled := fun _ hphase ↦ absurd hphase nofun

theorem ChainSession.step_session {state next : ChainSession} {session : ChainRole}
    {event : SessionEvent} (hstep : state.step (.session session event) = some next) :
    ∃ phase effect, (state.phase session).step (state.kindOf session) state.cancelled
        (Monitor.sample state.status) (Monitor.tick stallSilentSecs state.status) event =
          some (phase, effect) ∧ next = state.publish session event (phase, effect) := by
  obtain ⟨⟨phase, effect⟩, hphase, hnext⟩ := Option.map_eq_some_iff.mp hstep
  exact ⟨phase, effect, hphase, hnext.symm⟩

/-- Every step keeps the counters with the record. -/
theorem Counted.step {state next : ChainSession} {event : ChainEvent} (hcounted : Counted state)
    (hstep : state.step event = some next) : Counted next := by
  cases event with
  | cancel =>
    obtain rfl := Option.some.inj hstep
    exact ⟨hcounted.up_le, hcounted.down_le, hcounted.sampled⟩
  | session session event =>
    obtain ⟨phase, effect, hphase, rfl⟩ := ChainSession.step_session hstep
    have hup : (state.status.publish effect).upBytes =
        min (state.status.upBytes + effect.up) counterMax :=
      LiveStatus.publish_upBytes hcounted.up_le
    have hdown : (state.status.publish effect).downBytes =
        min (state.status.downBytes + effect.down) counterMax :=
      LiveStatus.publish_downBytes hcounted.down_le
    refine ⟨hup ▸ min_le_right _ _, hdown ▸ min_le_right _ _, fun monitor hmonitor ↦ ?_⟩
    cases session with
    | lan =>
      have hbefore : state.phase .egress = .bridging (some monitor) := by
        rwa [ChainSession.publish_phase, Function.update_of_ne (by decide)] at hmonitor
      obtain ⟨hlastUp, hlastDown⟩ := hcounted.sampled monitor hbefore
      simp only [ChainSession.publish, Effect.traffic, Traffic.add_up, Traffic.add_down]
        at hlastUp hlastDown ⊢
      constructor <;> omega
    | egress =>
      rw [ChainSession.publish_phase, Function.update_self] at hmonitor
      dsimp only at hmonitor
      subst hmonitor
      have hupLe := hcounted.up_le
      have hdownLe := hcounted.down_le
      rcases (Phase.stepped_of_step hphase).of_bridging rfl with
        ⟨hbefore, hsamples⟩ | ⟨hsamples, rfl, hlast⟩
      · obtain ⟨hlastUp, hlastDown⟩ := hcounted.sampled monitor hbefore
        simp only [ChainSession.publish, hsamples, Effect.traffic, Traffic.add_up,
          Traffic.add_down, Bool.false_eq_true, if_false] at hlastUp hlastDown ⊢
        constructor <;> omega
      · have hsame : monitor.lastUp = state.status.upBytes ∧
            monitor.lastDown = state.status.downBytes := by
          rcases hlast with rfl | ⟨before, rfl⟩
          · exact ⟨rfl, rfl⟩
          · exact Monitor.tick_last ..
        simp only [ChainSession.publish, hsamples, if_true, Traffic.add_up, Traffic.add_down,
          Traffic.zero_up, Traffic.zero_down, hsame.1, hsame.2, add_zero] at hup hdown ⊢
        exact ⟨hup, hdown⟩

/-- As long as no counter was at its end, the monitor sees in the counters what both sessions have
counted. -/
theorem Counted.oneSided {state : ChainSession} (hcounted : Counted state) {monitor : Monitor}
    (hmonitor : state.phase .egress = .bridging (some monitor))
    (hup : monitor.lastUp < counterMax) (hdown : monitor.lastDown < counterMax) :
    monitor.oneSided state.status = (state.own + state.foreign).oneSided := by
  obtain ⟨hlastUp, hlastDown⟩ := hcounted.sampled monitor hmonitor
  have hupMoved : monitor.lastUp < state.status.upBytes ↔ 0 < (state.own + state.foreign).up := by
    omega
  have hdownMoved : monitor.lastDown < state.status.downBytes ↔
      0 < (state.own + state.foreign).down := by
    omega
  rw [Monitor.oneSided, Traffic.oneSided, decide_eq_decide.mpr hupMoved,
    decide_eq_decide.mpr hdownMoved]

/-! ### The view of the egress session -/

/-- What the egress session sees: its phase, the bytes it has counted itself since the last sample,
and the token. -/
structure EgressView where
  kind : SessionKind
  phase : Phase ℕ
  own : Traffic
  cancelled : Bool

namespace EgressView

/-- The tick of a monitor that counts the bytes of the egress session alone. -/
def tick (own : Traffic) (silentSecs : ℕ) : ℕ × Bool :=
  if own.oneSided then (silentSecs + 1, decide (stallSilentSecs ≤ silentSecs + 1)) else (0, false)

/-- The egress session without a VPN session beside it. -/
def step (view : EgressView) : ChainEvent → Option EgressView
  | .cancel => some { view with cancelled := true }
  | .session .egress event =>
    (view.phase.step view.kind view.cancelled 0 (tick view.own) event).map fun result ↦
      { view with
        phase := result.1
        own := if Phase.samples event then 0 else view.own + result.2.traffic
        cancelled := view.cancelled || result.2.cancels }
  | .session .lan _ => none

end EgressView

/-- The view of the egress session. -/
def ChainSession.view (state : ChainSession) : EgressView where
  kind := state.kind
  phase := (state.phase .egress).map Monitor.silentSecs
  own := state.own
  cancelled := state.cancelled

/-- An undisturbing tick of the monitor is one of a monitor that counts the egress session alone. -/
theorem Undisturbing.tick {state : ChainSession} (hcounted : Counted state)
    (hundisturbing : Undisturbing state (.session .egress .tick)) {monitor : Monitor}
    (hmonitor : state.phase .egress = .bridging (some monitor)) :
    EgressView.tick state.own monitor.silentSecs =
      ((Monitor.tick stallSilentSecs state.status monitor).1.silentSecs,
        (Monitor.tick stallSilentSecs state.status monitor).2) := by
  unfold Undisturbing at hundisturbing
  dsimp only at hundisturbing
  rw [hmonitor] at hundisturbing
  obtain ⟨hsame, hup, hdown⟩ := hundisturbing
  rw [EgressView.tick, Monitor.tick, hcounted.oneSided hmonitor hup hdown, hsame]
  split_ifs <;> rfl

/-- With undisturbing steps the chained session unwinds to its egress session. -/
theorem unwinds_egress :
    Unwinds ChainSession.step Counted Undisturbing ChainEvent.ofEgress ChainSession.view
      EgressView.step where
  kept := fun _ _ _ hcounted _ hstep ↦ hcounted.step hstep
  hidden := by
    intro state event next hcounted hundisturbing hhidden hstep
    cases event with
    | cancel => cases hhidden
    | session session event =>
      cases session with
      | egress => cases hhidden
      | lan =>
        obtain ⟨phase, effect, hphase, rfl⟩ := ChainSession.step_session hstep
        have hcancelled : (state.cancelled || effect.cancels) = state.cancelled := by
          by_cases hcancels : effect.cancels = true
          · have hgave := ((Phase.stepped_of_step hphase).of_cancels hcancels).2
            rw [hgave.elim id hundisturbing, Bool.true_or]
          · rw [Bool.eq_false_of_not_eq_true hcancels, Bool.or_false]
        rw [ChainSession.view, ChainSession.view, ChainSession.publish]
        dsimp only
        rw [hcancelled, Function.update_of_ne (by decide)]
  visible := by
    intro state event hcounted hundisturbing hvisible
    cases event with
    | cancel => rfl
    | session session event =>
      cases session with
      | lan => cases hvisible
      | egress =>
        have htick : ∀ monitor, state.phase .egress = .bridging (some monitor) → event = .tick →
            EgressView.tick state.own monitor.silentSecs =
              ((Monitor.tick stallSilentSecs state.status monitor).1.silentSecs,
                (Monitor.tick stallSilentSecs state.status monitor).2) := by
          rintro monitor hmonitor rfl
          exact hundisturbing.tick hcounted hmonitor
        have hmap : ((state.phase .egress).map Monitor.silentSecs).step state.kind state.cancelled 0
            (EgressView.tick state.own) event =
              ((state.phase .egress).step state.kind state.cancelled
                (Monitor.sample state.status) (Monitor.tick stallSilentSecs state.status)
                event).map fun result ↦ (result.1.map Monitor.silentSecs, result.2) :=
          Phase.step_map Monitor.silentSecs rfl htick
        rw [ChainSession.step, EgressView.step, ChainSession.view]
        dsimp only
        rw [hmap, Option.map_map, Option.map_map]
        refine congrFun (congrArg Option.map (funext fun result ↦ ?_)) _
        dsimp only [Function.comp_apply, ChainSession.view]
        rw [ChainSession.publish_phase, Function.update_self]
        rfl

/-! ### Noninterference -/

/-- The VPN session does not disturb the egress session: in two undisturbing runs with the same
events of the egress session and of the user, whatever the VPN session does in either, the egress
session has come to the same, and it decides alike on every further event. -/
theorem egress_undisturbed {kind : SessionKind} {first second : ChainSession}
    {events others : List ChainEvent}
    (hfirst : run (guarded Undisturbing ChainSession.step) (.start kind) events = some first)
    (hsecond : run (guarded Undisturbing ChainSession.step) (.start kind) others = some second)
    (hsame : events.filter ChainEvent.ofEgress = others.filter ChainEvent.ofEgress) :
    first.decisions = second.decisions ∧
      ∀ event, event.ofEgress = true → Undisturbing first event → Undisturbing second event →
        (first.step event).map ChainSession.decisions =
          (second.step event).map ChainSession.decisions := by
  have hview : first.view = second.view :=
    unwinds_egress.view_unique hfirst hsecond (counted_start kind) (counted_start kind) rfl hsame
  refine ⟨congrArg (fun view : EgressView ↦ (view.phase, view.cancelled)) hview,
    fun event hevent hfirstQuiet hsecondQuiet ↦ ?_⟩
  have hfirstCounted := (unwinds_egress.run_view hfirst (counted_start kind)).2
  have hsecondCounted := (unwinds_egress.run_view hsecond (counted_start kind)).2
  have hstep := unwinds_egress.step_unique hfirstCounted hsecondCounted hview hevent hfirstQuiet
    hsecondQuiet
  have hcomp : ∀ result : Option ChainSession, result.map ChainSession.decisions =
      (result.map ChainSession.view).map fun view ↦ (view.phase, view.cancelled) := fun result ↦ by
    rw [Option.map_map]
    rfl
  rw [hcomp, hcomp, hstep]

/-- The events of an egress session that opens, samples and ticks without any traffic. -/
def idleEgress : List ChainEvent :=
  [.session .egress .setUp, .session .egress .sample, .session .egress .tick]

/-- The same events, with a VPN session that carries bytes in one direction before the tick. -/
def besideUpload : List ChainEvent :=
  [.session .lan (.connected (ipv4 10 66 0 2)), .session .lan .setUp, .session .egress .setUp,
    .session .egress .sample, .session .lan (.sent 40), .session .egress .tick]

/-- The events of an egress session that carries bytes both ways. -/
def busyEgress : List ChainEvent :=
  [.session .egress .setUp, .session .egress .sample, .session .egress (.sent 60),
    .session .egress (.received 1200), .session .egress .tick]

/-- The same events beside a VPN session that uploads and loses its connection. -/
def besideLoss : List ChainEvent :=
  [.session .lan (.connected (ipv4 10 66 0 2)), .session .lan .setUp, .session .egress .setUp,
    .session .egress .sample, .session .lan (.sent 40), .session .egress (.sent 60),
    .session .egress (.received 1200), .session .lan .receiveFailed, .session .egress .tick]

/-- The VPN session loses its connection without any effect on what the egress session decides. -/
theorem egress_undisturbed_besideLoss :
    ∃ first second,
      run (guarded Undisturbing ChainSession.step) (.start .packet) busyEgress = some first ∧
        run (guarded Undisturbing ChainSession.step) (.start .packet) besideLoss = some second ∧
        first.decisions = second.decisions ∧
        ∀ event, event.ofEgress = true → Undisturbing first event → Undisturbing second event →
          (first.step event).map ChainSession.decisions =
            (second.step event).map ChainSession.decisions := by
  obtain ⟨first, hfirst⟩ : ∃ first,
      run (guarded Undisturbing ChainSession.step) (.start .packet) busyEgress = some first :=
    Option.isSome_iff_exists.mp (by decide +kernel)
  obtain ⟨second, hsecond⟩ : ∃ second,
      run (guarded Undisturbing ChainSession.step) (.start .packet) besideLoss = some second :=
    Option.isSome_iff_exists.mp (by decide +kernel)
  exact ⟨first, second, hfirst, hsecond, egress_undisturbed hfirst hsecond (by decide)⟩

/-- The events of an idle egress session beside a VPN session that loses its connection and fails to
redial. -/
def besideGiveUp : List ChainEvent :=
  [.session .lan (.connected (ipv4 10 66 0 2)), .session .lan .setUp, .session .lan .receiveFailed,
    .session .lan .closed, .session .lan .redialFailed, .session .lan .redialFailed,
    .session .lan .redialFailed] ++ idleEgress

/-- The upload of the VPN session makes the idle egress session report a stall and close its
connection, and when the VPN session gives up, the egress session ends with it. -/
theorem egress_disturbed :
    ∃ alone beside abandoned, run ChainSession.step (.start .packet) idleEgress = some alone ∧
      run ChainSession.step (.start .packet) besideUpload = some beside ∧
      run ChainSession.step (.start .packet) besideGiveUp = some abandoned ∧
      besideUpload.filter ChainEvent.ofEgress = idleEgress.filter ChainEvent.ofEgress ∧
      besideGiveUp.filter ChainEvent.ofEgress = idleEgress.filter ChainEvent.ofEgress ∧
      alone.decisions = (.bridging (some 0), false) ∧ beside.decisions = (.closing, false) ∧
      (alone.step (.session .egress .cancelSeen)).map ChainSession.decisions = none ∧
      (abandoned.step (.session .egress .cancelSeen)).map ChainSession.decisions =
        some (.ended, true) :=
  ⟨_, _, _, rfl, rfl, rfl, by decide, by decide, rfl, rfl, rfl, rfl⟩

end EntroTunnel.Client
