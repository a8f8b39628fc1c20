import EntroTunnel.Client.Carrier
import EntroTunnel.Client.PacketSession
import EntroTunnel.Foundation.PartialRun

/-!
# Cancellation of the engine task

The engine task from its start to its end: `run_session` or `run_chain_session` with
`connect_chain`, then the session of `PacketSession`. `EngineHandle::stop` fires the token and waits
for the task, so the task must come to its end without the remote side. Every stage is an await
point or a stretch of local work. A bridging, redialing or serving session races its wait with the
token. The waits of the connect and handshake phase, of the name lookups and of `writer.close` are
not raced; those over a carrier of the chain end with the tasks of the carrier, which watch the
token themselves.

`own` are the steps that need nobody else: local work, seeing the token, the steps of the carrier's
two readers, and the error of a wait over a carrier that is broken. `Honoured` says that with the
token set the task has ended or has such a step. It holds in runs where the token is not fired at an
unguarded wait (`stop_prompt`).
-/

set_option autoImplicit false
set_option relaxedAutoImplicit false

namespace EntroTunnel.Client

open EntroTunnel.Core EntroTunnel.Foundation

/-! ### Model -/

/-- Where the engine task is: at a name lookup, after which a chain looks up once `again`; at the
transport, `Hello` and `Welcome` of a hop; at the local work before the session runs, or at a lookup
for one of its rules; or in the session. -/
inductive Stage
  | resolving (again : Bool)
  | dialing
  | greeting
  | awaiting
  | preparing
  | lookingUp
  | running (phase : Phase Monitor)
  deriving DecidableEq, Repr

namespace Stage

/-- The stages of a name lookup. -/
def lookingUpName : Stage → Bool
  | .resolving _ | .lookingUp => true
  | _ => false

/-- The stages of the handshake with a hop. -/
def connecting : Stage → Bool
  | .dialing | .greeting | .awaiting => true
  | _ => false

/-- The stages that wait on a connection without looking at the token. -/
def waiting : Stage → Bool
  | .dialing | .greeting | .awaiting | .running .closing => true
  | _ => false

/-- The stages that read the connection they wait on. -/
def reading : Stage → Bool
  | .dialing | .awaiting => true
  | _ => false

end Stage

/-- The engine task. `hops` are the hops after the first one and `targets` those of them that are
still to be dialed, `lookups` the names that setup has still to resolve, and `carriers` the carriers
of the chain, newest first. -/
structure EngineTask where
  kind : SessionKind
  hops : List TargetAddr
  targets : List TargetAddr
  lookups : ℕ
  status : LiveStatus
  cancelled : Bool
  stage : Stage
  carriers : List Carrier

/-- A step of the task, of a carrier, or of those who share its token and its status. -/
inductive EngineAction
  | cancel
  | publish (effect : Effect)
  | resolved
  | resolveFailed
  | dialed
  | greeted
  | welcomed (ip : Ipv4Addr)
  | connectFailed
  | prepared
  | prepareFailed
  | lookedUp
  | session (event : SessionEvent)
  | carrier (index : ℕ) (action : CarrierAction)
  deriving DecidableEq, Repr

namespace EngineTask

/-- The task of a session that has just been started. A host that is an address needs no lookup; a
chain looks the first hop up once more when the first lookup has failed. -/
def start (kind : SessionKind) (named : Bool) (targets : List TargetAddr) (lookups : ℕ) :
    EngineTask where
  kind
  hops := targets
  targets
  lookups
  status := {}
  cancelled := false
  stage := if named then .resolving !targets.isEmpty else .dialing
  carriers := []

/-- The task has returned. -/
def finish (state : EngineTask) : EngineTask :=
  { state with stage := .running .ended }

/-- The carriers after an event of the session: to redial is to build the chain anew. -/
def carriersAfter (state : EngineTask) : SessionEvent → List Carrier
  | .redialed _ => (state.hops.map Carrier.start).reverse
  | _ => state.carriers

/-- One step. -/
def step (state : EngineTask) : EngineAction → Option EngineTask
  | .cancel => some { state with cancelled := true }
  | .publish effect => some { state with status := state.status.publish effect }
  | .resolved =>
    match state.stage with
    | .resolving _ => some { state with stage := .dialing }
    | _ => none
  | .resolveFailed =>
    match state.stage with
    | .resolving true => some { state with stage := .resolving false }
    | .resolving false => some state.finish
    | _ => none
  | .dialed => if state.stage = .dialing then some { state with stage := .greeting } else none
  | .greeted => if state.stage = .greeting then some { state with stage := .awaiting } else none
  | .welcomed ip =>
    if state.stage = .awaiting then
      match state.targets with
      | target :: rest =>
        some
          { state with
            stage := .dialing
            targets := rest
            carriers := Carrier.start target :: state.carriers }
      | [] =>
        some
          { state with
            stage := .preparing
            status := state.status.publish { assignedIp := some ip } }
    else none
  | .connectFailed =>
    if state.stage.connecting then some state.finish else none
  | .prepared =>
    if state.stage = .preparing then
      match state.lookups with
      | 0 => some { state with stage := .running (Phase.opened state.kind) }
      | lookups + 1 => some { state with stage := .lookingUp, lookups }
    else none
  | .prepareFailed => if state.stage = .preparing then some state.finish else none
  | .lookedUp => if state.stage = .lookingUp then some { state with stage := .preparing } else none
  | .session event =>
    match state.stage with
    | .running phase =>
      (phase.step state.kind state.cancelled (Monitor.sample state.status)
        (Monitor.tick stallSilentSecs state.status) event).map fun (phase, effect) ↦
          { state with
            status := state.status.publish effect
            cancelled := state.cancelled || effect.cancels
            stage := .running phase
            carriers := state.carriersAfter event }
    | _ => none
  | .carrier index action =>
    (state.carriers[index]?).bind fun carrier ↦
      (carrier.step state.cancelled action).map fun (next, _) ↦
        { state with carriers := state.carriers.set index next }

end EngineTask

/-! ### Steps of its own -/

/-- The steps of the two tasks of a carrier that hold the far end of its pipe. -/
def CarrierAction.ofFarEnd : CarrierAction → Bool
  | .queue | .close | .write _ | .written | .writeFailed | .pong | .cancelUplink
  | .cancelDownlink => true
  | _ => false

/-- The steps that the engine takes without the remote side. -/
def EngineTask.own (state : EngineTask) : EngineAction → Bool
  | .prepared => true
  | .session .cancelSeen => true
  | .connectFailed | .session .closed => state.carriers.head?.any Carrier.broken
  | .carrier 0 (.nearReads count) => decide (0 < count) && state.stage.reading
  | .carrier 0 action => action.ofFarEnd
  | _ => false

/-- With the token set, the task has ended or can take a step of its own. -/
def Honoured (state : EngineTask) : Prop :=
  state.cancelled = true → state.stage = .running .ended ∨
    ∃ action, state.own action = true ∧ (state.step action).isSome = true

/-! ### The condition -/

/-- A carrier in the way of its own end: the queue to its writer pump is full, or its pipe is, while
the hop above is not reading. -/
def Carrier.Jammed (carrier : Carrier) (reading : Bool) : Prop :=
  carrier.out.hasReceiver = true ∧ carrierCapacity ≤ carrier.out.items.length ∨
    reading = false ∧ pipeSize ≤ carrier.toNear.length

instance (carrier : Carrier) (reading : Bool) : Decidable (carrier.Jammed reading) :=
  inferInstanceAs (Decidable (_ ∨ _))

/-- A wait on the remote side that nothing else ends: a lookup, or the transport, the handshake or
the close of a connection that is a direct one, or that runs over a jammed carrier. -/
def Unguarded (state : EngineTask) : Prop :=
  state.stage.lookingUpName = true ∨
    state.stage.waiting = true ∧ ∀ top ∈ state.carriers.head?, top.Jammed state.stage.reading

instance (state : EngineTask) : Decidable (Unguarded state) :=
  inferInstanceAs (Decidable (_ ∨ _))

/-- The frames that a step queues for the writer pump. -/
def CarrierAction.frames : CarrierAction → ℕ
  | .queue | .close | .pong => 1
  | _ => 0

/-- The bytes that a step writes to the near end. -/
def CarrierAction.bytes : CarrierAction → ℕ
  | .write count => count
  | _ => 0

/-- The condition on a step: the token is not fired at an unguarded wait, and once it is set, setup
comes to no further lookup and the carrier under a wait keeps room in its queue, and in its pipe as
long as nobody reads it. -/
def Prompt (state : EngineTask) : EngineAction → Prop
  | .cancel => ¬ Unguarded state
  | .prepared => state.cancelled = true → state.lookups = 0
  | .dialed => state.cancelled = true → ∀ top ∈ state.carriers.head?, top.toNear.length < pipeSize
  | .carrier 0 action =>
    state.cancelled = true → state.stage.waiting = true → ∀ top ∈ state.carriers.head?,
      (top.out.hasReceiver = true → top.out.items.length + action.frames < carrierCapacity) ∧
        (state.stage.reading = false → top.toNear.length + action.bytes < pipeSize)
  | _ => True

instance (state : EngineTask) (action : EngineAction) : Decidable (Prompt state action) := by
  unfold Prompt
  split <;> infer_instance

/-! ### Carriers whose token is set -/

namespace Carrier

variable {cancelled : Bool} {carrier next : Carrier} {action : CarrierAction}
  {frame : Option Frame}

/-- A queue with room, or without a receiver, does not hold up its sender. -/
theorem isSome_trySend {capacity : ℕ} {channel : Channel Frame capacity}
    (hroom : channel.hasReceiver = true → channel.items.length < capacity)
    (hreceiver : channel.hasReceiver = true) (item : Frame) :
    (channel.trySend item).isSome = true := by
  rw [Option.isSome_iff_ne_none, Ne, Channel.trySend_eq_none]
  exact fun hfull ↦ absurd (hfull hreceiver) (not_le.mpr (hroom hreceiver))

/-- With the token set and room in the queue, a carrier whose far end is still held has a step
towards dropping it, unless its pipe to the near end is full. -/
theorem exists_ofFarEnd (hbroken : carrier.broken = false)
    (hroom : carrier.out.hasReceiver = true → carrier.out.items.length < carrierCapacity) :
    (∃ action : CarrierAction, action.ofFarEnd = true ∧
        (carrier.step true action).isSome = true) ∨
      carrier.near ≠ .gone ∧ pipeSize ≤ carrier.toNear.length := by
  have hqueued : ∀ item, carrier.out.hasReceiver = true →
      (carrier.out.trySend item).isSome = true :=
    fun item hreceiver ↦ isSome_trySend hroom hreceiver item
  cases huplink : carrier.uplink with
  | reading => exact Or.inl ⟨.cancelUplink, rfl, by simp [step, huplink]⟩
  | sending data =>
    refine Or.inl ⟨.queue, rfl, ?_⟩
    rw [step, huplink]
    dsimp only
    split_ifs with hreceiver
    · rw [Option.isSome_map]
      exact hqueued _ hreceiver
    · rfl
  | closing =>
    refine Or.inl ⟨.close, rfl, ?_⟩
    rw [step, if_pos huplink]
    split_ifs with hreceiver
    · rw [Option.isSome_map]
      exact hqueued _ hreceiver
    · rfl
  | ended =>
    cases hdownlink : carrier.downlink with
    | ended => simp [broken, huplink, hdownlink] at hbroken
    | receiving => exact Or.inl ⟨.cancelDownlink, rfl, by simp [step, hdownlink]⟩
    | ponging =>
      refine Or.inl ⟨.pong, rfl, ?_⟩
      rw [step, if_pos hdownlink]
      split_ifs with hreceiver
      · rw [Option.isSome_map]
        exact hqueued _ hreceiver
      · rfl
    | writing rest =>
      cases rest with
      | nil => exact Or.inl ⟨.written, rfl, by simp [step, hdownlink]⟩
      | cons byte rest =>
        by_cases hgone : carrier.near = .gone
        · exact Or.inl ⟨.writeFailed, rfl, by simp [step, hdownlink, hgone]⟩
        by_cases hfull : pipeSize ≤ carrier.toNear.length
        · exact Or.inr ⟨hgone, hfull⟩
        · refine Or.inl ⟨.write 1, rfl, ?_⟩
          rw [step, hdownlink]
          dsimp only
          rw [if_pos ⟨hgone, Nat.one_pos, by simp, by omega⟩]
          rfl

/-- The queue grows by the frames of the step, and nobody comes back to receive. -/
theorem Stepped.out_le (hstep : carrier.Stepped cancelled action next frame) :
    next.out.items.length ≤ carrier.out.items.length + action.frames ∧
      (next.out.hasReceiver = true → carrier.out.hasReceiver = true) := by
  cases hstep with
  | take frame rest hpump hrecv =>
    obtain ⟨hitems, -, hreceiver⟩ := Channel.recv_eq_item hrecv
    dsimp only
    rw [hitems, List.length_cons, hreceiver]
    exact ⟨by omega, id⟩
  | queue data out huplink hsend =>
    obtain ⟨-, -, hitems, -, hreceiver⟩ := Channel.trySend_eq_some hsend
    simp [hitems, hreceiver, CarrierAction.frames]
  | close out huplink hsend =>
    obtain ⟨-, -, hitems, -, hreceiver⟩ := Channel.trySend_eq_some hsend
    simp [hitems, hreceiver, CarrierAction.frames]
  | pong out hdownlink hsend =>
    obtain ⟨-, -, hitems, -, hreceiver⟩ := Channel.trySend_eq_some hsend
    simp [hitems, hreceiver, CarrierAction.frames]
  | closed => exact ⟨Nat.zero_le _, fun hreceiver ↦ absurd hreceiver nofun⟩
  | receive received =>
    rw [demux_items, demux_hasReceiver]
    exact ⟨Nat.le_add_right _ _, id⟩
  | receiveFailed | writeFailed | cancelDownlink =>
    rw [endDownlink_items, endDownlink_hasReceiver]
    exact ⟨Nat.le_add_right _ _, id⟩
  | closeFailed => simp
  | _ => exact ⟨Nat.le_add_right _ _, id⟩

/-- The pipe to the near end grows by the bytes of the step. -/
theorem Stepped.toNear_le (hstep : carrier.Stepped cancelled action next frame) :
    next.toNear.length ≤ carrier.toNear.length + action.bytes := by
  cases hstep with
  | write count rest =>
    dsimp only [CarrierAction.bytes]
    rw [List.length_append, List.length_take]
    omega
  | receive received =>
    rw [demux_toNear]
    exact Nat.le_add_right _ _
  | nearReads count =>
    dsimp only
    rw [List.length_drop]
    omega
  | _ => exact Nat.le_add_right _ _

/-- A carrier that keeps room through a step is not jammed by it. -/
theorem Stepped.not_jammed (hstep : carrier.Stepped cancelled action next frame) {reading : Bool}
    (hroom : carrier.out.hasReceiver = true →
      carrier.out.items.length + action.frames < carrierCapacity)
    (hpipe : reading = false → carrier.toNear.length + action.bytes < pipeSize) :
    ¬ next.Jammed reading := by
  rintro (⟨hreceiver, hfull⟩ | ⟨hreading, hfull⟩)
  · have hbefore := hroom (hstep.out_le.2 hreceiver)
    have hle := hstep.out_le.1
    omega
  · have hbefore := hpipe hreading
    have hle := hstep.toNear_le
    omega

end Carrier

/-! ### Runs -/

/-- A session that runs has been set up, and once the token is set no wait is unguarded. -/
structure Guarded (state : EngineTask) : Prop where
  setUp : ∀ phase, state.stage = .running phase → phase.isSetUp = true
  guarded : state.cancelled = true → ¬ Unguarded state

/-- An unguarded wait does not depend on the token or the status. -/
theorem unguarded_congr {state next : EngineTask} (hstage : next.stage = state.stage)
    (hcarriers : next.carriers = state.carriers) : Unguarded next ↔ Unguarded state := by
  unfold Unguarded
  rw [hstage, hcarriers]

/-- An unguarded wait has begun before the token is set. -/
theorem Guarded.not_cancelled {state : EngineTask} (hguarded : Guarded state)
    (hunguarded : Unguarded state) : state.cancelled = false :=
  Bool.eq_false_of_not_eq_true fun hcancelled ↦ hguarded.guarded hcancelled hunguarded

/-- Before the token is set and before the session runs, there is nothing to guard. -/
theorem guarded_of_not_cancelled {state : EngineTask} (hcancelled : state.cancelled = false)
    (hstage : ∀ phase, state.stage ≠ .running phase) : Guarded state where
  setUp := fun phase hphase ↦ absurd hphase (hstage phase)
  guarded := fun hset ↦ absurd (hcancelled.symm.trans hset) nofun

/-- Before the session runs, the wait that counts is the one over the newest carrier. -/
theorem guarded_of_connecting {state : EngineTask} (hstage : ∀ phase, state.stage ≠ .running phase)
    (hlookup : state.stage.lookingUpName = false)
    (hclear : state.cancelled = true → state.stage.waiting = true →
      ¬ ∀ top ∈ state.carriers.head?, top.Jammed state.stage.reading) : Guarded state where
  setUp := fun phase hphase ↦ absurd hphase (hstage phase)
  guarded := by
    rintro hcancelled (hname | ⟨hwaiting, hjammed⟩)
    · cases hlookup.symm.trans hname
    · exact hclear hcancelled hwaiting hjammed

theorem guarded_start (kind : SessionKind) (named : Bool) (targets : List TargetAddr)
    (lookups : ℕ) : Guarded (.start kind named targets lookups) :=
  guarded_of_not_cancelled rfl fun _ ↦ by cases named <;> exact nofun

theorem guarded_finish (state : EngineTask) : Guarded state.finish where
  setUp := fun phase hphase ↦ by
    cases hphase
    rfl
  guarded := by
    rintro - (hlookup | ⟨hwaiting, -⟩)
    · cases hlookup
    · cases hwaiting

/-- A carrier that has just been opened is in nobody's way. -/
theorem not_jammed_start (target : TargetAddr) (reading : Bool) :
    ¬ (Carrier.start target).Jammed reading := by
  rintro (⟨-, hfull⟩ | ⟨-, hfull⟩)
  · simp [Carrier.start, Channel.items_offer, Channel.empty, carrierCapacity] at hfull
  · simp [Carrier.start, pipeSize] at hfull

/-- A step of a carrier leaves the wait over the newest one guarded as long as that one has room. -/
theorem guarded_carrier {state : EngineTask} (hguarded : Guarded state) {index : ℕ}
    {action : CarrierAction} (hprompt : Prompt state (.carrier index action))
    {carrier next : Carrier} {frame : Option Frame}
    (hcarrier : state.carriers[index]? = some carrier)
    (hstep : carrier.Stepped state.cancelled action next frame) :
    Guarded { state with carriers := state.carriers.set index next } := by
  refine ⟨hguarded.setUp, fun hcancelled hunguarded ↦ hguarded.guarded hcancelled ?_⟩
  cases index with
  | succ index =>
    have hhead : (state.carriers.set (index + 1) next).head? = state.carriers.head? := by
      cases state.carriers <;> rfl
    unfold Unguarded at hunguarded ⊢
    rwa [hhead] at hunguarded
  | zero =>
    obtain ⟨older, hcarriers⟩ : ∃ older, state.carriers = carrier :: older := by
      cases hlist : state.carriers with
      | nil => rw [hlist] at hcarrier; exact absurd hcarrier nofun
      | cons top older =>
        rw [hlist] at hcarrier
        exact ⟨older, by rw [Option.some.inj hcarrier]⟩
    rcases hunguarded with hlookup | ⟨hwaiting, hjammed⟩
    · exact Or.inl hlookup
    obtain ⟨hroom, hpipe⟩ := hprompt hcancelled hwaiting carrier (by rw [hcarriers]; rfl)
    rw [hcarriers, List.set_cons_zero, List.head?_cons] at hjammed
    exact absurd (hjammed next rfl) (hstep.not_jammed hroom hpipe)

/-- Every step that meets the condition keeps the waits guarded. -/
theorem guarded_step {state next : EngineTask} {action : EngineAction} (hguarded : Guarded state)
    (hprompt : Prompt state action) (hstep : state.step action = some next) : Guarded next := by
  have hlookup : state.stage.lookingUpName = true → state.cancelled = false :=
    fun hlookup ↦ hguarded.not_cancelled (Or.inl hlookup)
  cases action with
  | cancel =>
    obtain rfl := Option.some.inj hstep
    exact ⟨hguarded.setUp, fun _ hunguarded ↦ hprompt ((unguarded_congr rfl rfl).mp hunguarded)⟩
  | publish effect =>
    obtain rfl := Option.some.inj hstep
    exact ⟨hguarded.setUp, fun hcancelled hunguarded ↦
      hguarded.guarded hcancelled ((unguarded_congr rfl rfl).mp hunguarded)⟩
  | resolved =>
    simp only [EngineTask.step] at hstep
    split at hstep <;> cases hstep
    exact guarded_of_not_cancelled (hlookup (by rw [‹state.stage = _›]; rfl)) fun _ ↦ nofun
  | resolveFailed =>
    simp only [EngineTask.step] at hstep
    split at hstep <;> cases hstep
    · exact guarded_of_not_cancelled (hlookup (by rw [‹state.stage = _›]; rfl)) fun _ ↦ nofun
    · exact guarded_finish state
  | lookedUp =>
    simp only [EngineTask.step] at hstep
    split_ifs at hstep with hstage
    cases hstep
    exact guarded_of_not_cancelled (hlookup (by rw [hstage]; rfl)) fun _ ↦ nofun
  | dialed =>
    simp only [EngineTask.step] at hstep
    split_ifs at hstep with hstage
    cases hstep
    refine guarded_of_connecting (fun _ ↦ nofun) rfl fun hcancelled _ hjammed ↦ ?_
    refine hguarded.guarded hcancelled (Or.inr ⟨by rw [hstage]; rfl, fun top htop ↦ ?_⟩)
    rcases hjammed top htop with hfull | ⟨-, hfull⟩
    · exact Or.inl hfull
    · exact absurd hfull (not_le.mpr (hprompt hcancelled top htop))
  | greeted =>
    simp only [EngineTask.step] at hstep
    split_ifs at hstep with hstage
    cases hstep
    refine guarded_of_connecting (fun _ ↦ nofun) rfl fun hcancelled _ hjammed ↦ ?_
    refine hguarded.guarded hcancelled (Or.inr ⟨by rw [hstage]; rfl, fun top htop ↦ ?_⟩)
    rcases hjammed top htop with hfull | ⟨hreading, -⟩
    · exact Or.inl hfull
    · cases hreading
  | welcomed ip =>
    simp only [EngineTask.step] at hstep
    split_ifs at hstep with hstage
    split at hstep <;> cases hstep
    · exact guarded_of_connecting (fun _ ↦ nofun) rfl fun _ _ hjammed ↦
        not_jammed_start _ _ (hjammed _ rfl)
    · exact guarded_of_connecting (fun _ ↦ nofun) rfl fun _ hwaiting ↦ by cases hwaiting
  | connectFailed | prepareFailed =>
    simp only [EngineTask.step] at hstep
    split_ifs at hstep with hstage
    cases hstep
    exact guarded_finish state
  | prepared =>
    simp only [EngineTask.step] at hstep
    split_ifs at hstep with hstage
    split at hstep <;> cases hstep
    · refine ⟨fun phase hphase ↦ ?_, fun _ hunguarded ↦ ?_⟩
      · cases hphase
        exact Phase.isSetUp_opened state.kind
      · rcases hunguarded with hlookup | ⟨hwaiting, -⟩
        · cases hlookup
        · cases hkind : state.kind <;> simp [hkind, Phase.opened, Stage.waiting] at hwaiting
    · refine guarded_of_not_cancelled (Bool.eq_false_of_not_eq_true fun hcancelled ↦ ?_)
        fun _ ↦ nofun
      have hnone := hprompt hcancelled
      omega
  | session event =>
    simp only [EngineTask.step] at hstep
    split at hstep
    · rename_i phase hstage
      obtain ⟨⟨nextPhase, effect⟩, htaken, rfl⟩ := Option.map_eq_some_iff.mp hstep
      have hstepped := Phase.stepped_of_step htaken
      refine ⟨fun later hlater ↦ ?_, ?_⟩
      · cases hlater
        exact hstepped.isSetUp (hguarded.setUp phase hstage)
      · rintro hcancelled (hlookup | ⟨hwaiting, -⟩)
        · cases hlookup
        obtain rfl : nextPhase = .closing := by
          cases nextPhase <;> first | rfl | cases hwaiting
        rcases Bool.or_eq_true_iff.mp hcancelled with hbefore | hcancels
        · exact hstepped.ne_closing hbefore rfl
        · exact absurd (hstepped.of_cancels hcancels).1 nofun
    · cases hstep
  | carrier index action =>
    simp only [EngineTask.step] at hstep
    obtain ⟨carrier, hcarrier, hmap⟩ := Option.bind_eq_some_iff.mp hstep
    obtain ⟨⟨moved, frame⟩, htaken, rfl⟩ := Option.map_eq_some_iff.mp hmap
    exact guarded_carrier hguarded hprompt hcarrier (Carrier.stepped_of_step htaken)

/-! ### Steps of its own in a guarded state -/

section Own

variable {state : EngineTask} {top : Carrier} {older : List Carrier}

/-- The steps of the tasks that hold the far end of the newest carrier are the task's own. -/
theorem own_ofFarEnd {action : CarrierAction} (hfar : action.ofFarEnd = true) :
    state.own (.carrier 0 action) = true := by
  cases action <;> first | exact hfar | cases hfar

theorem isSome_step_carrier (hcancelled : state.cancelled = true)
    (hcarriers : state.carriers = top :: older) {action : CarrierAction}
    (hstep : (top.step true action).isSome = true) :
    (state.step (.carrier 0 action)).isSome = true := by
  simp only [EngineTask.step, hcarriers, List.getElem?_cons_zero, Option.bind_some, hcancelled,
    Option.isSome_map]
  exact hstep

/-- A wait over a carrier that is not jammed: the carrier is broken, or there is a step of its own
towards breaking it. -/
theorem exists_own_of_not_jammed (hcancelled : state.cancelled = true)
    (hcarriers : state.carriers = top :: older) (hclear : ¬ top.Jammed state.stage.reading) :
    top.broken = true ∨ ∃ action, state.own action = true ∧ (state.step action).isSome = true := by
  by_cases hbroken : top.broken = true
  · exact Or.inl hbroken
  have hroom : top.out.hasReceiver = true → top.out.items.length < carrierCapacity :=
    fun hreceiver ↦ not_le.mp fun hfull ↦ hclear (Or.inl ⟨hreceiver, hfull⟩)
  rcases Carrier.exists_ofFarEnd (Bool.eq_false_of_not_eq_true hbroken) hroom with
    ⟨action, hfar, hstep⟩ | ⟨hnear, hfull⟩
  · exact Or.inr ⟨.carrier 0 action, own_ofFarEnd hfar,
      isSome_step_carrier hcancelled hcarriers hstep⟩
  -- The pipe is full, so the hop above reads it: a full pipe nobody reads is jammed.
  have hreading : state.stage.reading = true := by
    by_contra hnot
    exact hclear (Or.inr ⟨Bool.eq_false_of_not_eq_true hnot, hfull⟩)
  have hone : 1 ≤ top.toNear.length := le_trans (by decide) hfull
  refine Or.inr ⟨.carrier 0 (.nearReads 1), ?_, isSome_step_carrier hcancelled hcarriers ?_⟩
  · rw [EngineTask.own, hreading]
    rfl
  · rw [Carrier.step, if_pos ⟨hnear, hone⟩]
    rfl

/-- A guarded wait on a connection runs over a carrier, which is broken or leaves a step of its own.
-/
theorem exists_own_of_waiting (hguarded : Guarded state) (hcancelled : state.cancelled = true)
    (hwaiting : state.stage.waiting = true) :
    state.carriers.head?.any Carrier.broken = true ∨
      ∃ action, state.own action = true ∧ (state.step action).isSome = true := by
  have hguard := hguarded.guarded hcancelled
  cases hcarriers : state.carriers with
  | nil => exact absurd (Or.inr ⟨hwaiting, by simp [hcarriers]⟩) hguard
  | cons top older =>
    refine exists_own_of_not_jammed hcancelled hcarriers fun hjammed ↦ ?_
    exact hguard (Or.inr ⟨hwaiting, by simpa [hcarriers] using hjammed⟩)

/-- In a guarded state the token is honoured: one case for every stage. -/
theorem honoured_of_guarded (hguarded : Guarded state) : Honoured state := by
  intro hcancelled
  have hguard := hguarded.guarded hcancelled
  cases hstage : state.stage with
  | resolving again => exact absurd (Or.inl (by rw [hstage]; rfl)) hguard
  | lookingUp => exact absurd (Or.inl (by rw [hstage]; rfl)) hguard
  | dialing | greeting | awaiting =>
    have hconnecting : state.stage.connecting = true := by rw [hstage]; rfl
    rcases exists_own_of_waiting hguarded hcancelled (by rw [hstage]; rfl) with hbroken | hown
    · refine Or.inr ⟨.connectFailed, hbroken, ?_⟩
      rw [EngineTask.step, if_pos hconnecting]
      rfl
    · exact Or.inr hown
  | preparing =>
    refine Or.inr ⟨.prepared, rfl, ?_⟩
    rw [EngineTask.step, if_pos hstage]
    split <;> rfl
  | running phase =>
    by_cases hclosing : phase = .closing
    · subst hclosing
      rcases exists_own_of_waiting hguarded hcancelled (by rw [hstage]; rfl) with hbroken | hown
      · exact Or.inr ⟨.session .closed, hbroken, by simp [EngineTask.step, hstage, Phase.step]⟩
      · exact Or.inr hown
    · rcases Phase.cancelSeen_isSome (hguarded.setUp phase hstage) hclosing with hended | hseen
      · exact Or.inl (by rw [hended])
      · refine Or.inr ⟨.session .cancelSeen, rfl, ?_⟩
        simp only [EngineTask.step, hstage, Option.isSome_map, hcancelled]
        exact hseen

end Own

/-- Engine task, cancellation. In a run in which the token is not fired at an unguarded wait, and
comes to none once it is set, the token is honoured in every state: the task has ended or has a step
of its own. -/
theorem stop_prompt (kind : SessionKind) (named : Bool) (targets : List TargetAddr) (lookups : ℕ)
    (actions : List EngineAction) (final : EngineTask)
    (hrun : run (guarded Prompt EngineTask.step) (.start kind named targets lookups) actions =
      some final) :
    Honoured final :=
  honoured_of_guarded <| guarded_preserves
    (fun _ _ _ hguarded hprompt hstep ↦ guarded_step hguarded hprompt hstep) hrun
    (guarded_start kind named targets lookups)

/-- A packet session to a server that is an address, cancelled while it bridges. -/
theorem stop_prompt_bridging :
    ∃ final, run (guarded Prompt EngineTask.step) (.start .packet false [] 0)
        [.dialed, .greeted, .welcomed 1, .prepared, .session (.sent 3), .cancel] = some final ∧
      Honoured final := by
  obtain ⟨final, hrun⟩ := Option.isSome_iff_exists.mp (show
    (run (guarded Prompt EngineTask.step) (.start .packet false [] 0)
      [.dialed, .greeted, .welcomed 1, .prepared, .session (.sent 3), .cancel]).isSome = true by
    decide +kernel)
  exact ⟨final, hrun, stop_prompt .packet false [] 0 _ final hrun⟩

/-- The server accepts the connection and never answers: once the token is fired, nothing is left to
the task but to wait. -/
theorem cancel_unseen :
    ∃ final, run EngineTask.step (.start .packet false [] 0) [.dialed, .greeted, .cancel] =
        some final ∧ ¬ Honoured final := by
  refine ⟨_, rfl, fun hhonoured ↦ ?_⟩
  rcases hhonoured rfl with hended | ⟨action, hown, hstep⟩
  · cases hended
  cases action with
  | prepared => cases hstep
  | connectFailed => cases hown
  | session event => cases hstep
  | carrier index action => cases hstep
  | _ => cases hown

end EntroTunnel.Client
