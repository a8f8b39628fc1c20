import EntroTunnel.Core.Wire
import EntroTunnel.Foundation.Channel
import EntroTunnel.Foundation.Reach

/-!
# The TUN device on Windows

`TunDevice` of `core/src/tun.rs` for Wintun. Packets of the adapter lie in the ring of the session.
A thread of its own takes them out one by one, `receive_blocking`, and hands each to a bounded
queue, from which `recv` reads. `Drop` shuts the session down and joins the thread.
`receive_blocking` takes what lies in the ring before it reports the shutdown. The queue is a field
of the device and is dropped only after the join.

A thread that waits for room in the queue is not woken by the shutdown, and nobody reads from the
queue of a device that is being dropped; the adapter goes on filling the ring until the drop has
returned. `drop_returns_iff` says when the drop is nevertheless sure to return: the thread has
ended, or what has arrived and was not read, with all that arrives during the drop, fits the queue.
-/

set_option autoImplicit false
set_option relaxedAutoImplicit false

namespace EntroTunnel.Core

open EntroTunnel.Foundation

/-! ### The device -/

/-- Capacity of the queue between the thread and `recv`. -/
def wintunQueue : ℕ := 1024

/-- Where the thread that drains the ring stands. -/
inductive DrainThread
  | receiving
  | sending (packet : Bytes)
  | finished
  deriving DecidableEq, Repr

/-- The packet that waits for room in the queue. -/
def DrainThread.hand : DrainThread → List Bytes
  | .sending packet => [packet]
  | _ => []

/-- The steps that the thread and the join have before them without another packet. -/
def DrainThread.steps (dropped : Bool) : DrainThread → ℕ
  | .sending _ => 3
  | .receiving => 2
  | .finished => (!dropped).toNat

/-- A device with the session it belongs to. `arrived` records the packets that the adapter has put
into the ring and `results` what `recv` returned, the packets it took off the queue being `taken`.
-/
structure WintunDevice where
  ring : List Bytes
  thread : DrainThread
  queue : Channel Bytes wintunQueue
  dropping : Bool
  dropped : Bool
  arrived : List Bytes
  taken : List Bytes
  results : List (Except String Bytes)

/-- A step of the adapter, of the thread or of the owner of the device. -/
inductive WintunAction
  | arrive (packet : Bytes)
  | receive
  | receiveFails
  | adapterFails
  | handOver
  | recv (bufferLen : ℕ)
  | beginDrop
  | join
  deriving DecidableEq, Repr

/-- A step of the thread, or the join that the drop waits in. -/
def WintunAction.isOwn : WintunAction → Bool
  | .receive | .receiveFails | .handOver | .join => true
  | .arrive _ | .adapterFails | .recv _ | .beginDrop => false

def WintunAction.isArrival : WintunAction → Bool
  | .arrive _ => true
  | _ => false

namespace WintunDevice

/-- `create`. -/
def create : WintunDevice where
  ring := []
  thread := .receiving
  queue := .empty
  dropping := false
  dropped := false
  arrived := []
  taken := []
  results := []

/-- What `recv` makes of a packet, given the length of its buffer. -/
def fill (bufferLen : ℕ) (packet : Bytes) : Except String Bytes :=
  if bufferLen < packet.length then
    .error ("tun recv: packet " ++ toString packet.length ++ " bytes exceeds buffer " ++
      toString bufferLen)
  else .ok packet

/-- The thread ends, and its end of the queue with it. -/
def endThread (device : WintunDevice) : WintunDevice :=
  { device with thread := .finished, queue := device.queue.dropSender }

/-- One step. -/
def step (device : WintunDevice) : WintunAction → Option WintunDevice
  | .arrive packet =>
    if device.dropped then none
    else
      some { device with
        ring := device.ring ++ [packet]
        arrived := device.arrived ++ [packet] }
  | .receive =>
    match device.thread, device.ring with
    | .receiving, packet :: rest => some { device with ring := rest, thread := .sending packet }
    | _, _ => none
  -- The shutdown is reported when nothing is left in the ring.
  | .receiveFails =>
    match device.thread, device.ring with
    | .receiving, [] => if device.dropping then some device.endThread else none
    | _, _ => none
  -- The session fails for another reason: the adapter is gone.
  | .adapterFails =>
    match device.thread with
    | .receiving => some device.endThread
    | _ => none
  | .handOver =>
    match device.thread with
    | .sending packet =>
      if device.queue.hasReceiver then
        -- `blocking_send` waits for room.
        (device.queue.trySend packet).map fun queue ↦
          { device with queue, thread := .receiving }
      else some device.endThread
    | _ => none
  -- A device that is being dropped has no other owner.
  | .recv bufferLen =>
    if device.dropping then none
    else
      match device.queue.recv with
      | .item packet rest =>
        some { device with
          queue := rest
          taken := device.taken ++ [packet]
          results := device.results ++ [fill bufferLen packet] }
      | .ended =>
        some { device with results := device.results ++ [.error "wintun reader stopped"] }
      | .waiting => none
  | .beginDrop => if device.dropping then none else some { device with dropping := true }
  | .join =>
    if device.dropping ∧ device.dropped = false ∧ device.thread = .finished then
      some { device with dropped := true, queue := device.queue.dropReceiver }
    else none

/-- The drop has returned. -/
def Returned (device : WintunDevice) : Prop :=
  device.dropped = true

/-- The packets that have arrived and were not read. -/
def unread (device : WintunDevice) : List Bytes :=
  device.queue.items ++ (device.thread.hand ++ device.ring)

/-! ### What a step can do -/

section Steps

variable {device next : WintunDevice}

theorem step_receive (hstep : device.step .receive = some next) :
    ∃ packet rest, device.thread = .receiving ∧ device.ring = packet :: rest ∧
      next = { device with ring := rest, thread := .sending packet } := by
  simp only [step] at hstep
  split at hstep
  · rename_i packet rest hthread hring
    exact ⟨packet, rest, hthread, hring, (Option.some.inj hstep).symm⟩
  · cases hstep

theorem step_receiveFails (hstep : device.step .receiveFails = some next) :
    device.thread = .receiving ∧ next = device.endThread := by
  simp only [step] at hstep
  split at hstep
  · rename_i hthread hring
    split_ifs at hstep
    exact ⟨hthread, (Option.some.inj hstep).symm⟩
  · cases hstep

theorem step_adapterFails (hstep : device.step .adapterFails = some next) :
    device.thread = .receiving ∧ next = device.endThread := by
  simp only [step] at hstep
  split at hstep
  · rename_i hthread
    exact ⟨hthread, (Option.some.inj hstep).symm⟩
  · cases hstep

theorem step_handOver (hstep : device.step .handOver = some next) :
    ∃ packet, device.thread = .sending packet ∧
      ((∃ queue, device.queue.trySend packet = some queue ∧
          next = { device with queue, thread := .receiving }) ∨
        device.queue.hasReceiver = false) := by
  simp only [step] at hstep
  split at hstep
  · rename_i packet hthread
    refine ⟨packet, hthread, ?_⟩
    by_cases hreceiver : device.queue.hasReceiver = true
    · rw [if_pos hreceiver] at hstep
      obtain ⟨queue, hsend, rfl⟩ := Option.map_eq_some_iff.mp hstep
      exact .inl ⟨queue, hsend, rfl⟩
    · exact .inr (Bool.eq_false_iff.mpr hreceiver)
  · cases hstep

theorem step_recv {bufferLen : ℕ} (hstep : device.step (.recv bufferLen) = some next) :
    device.dropping = false ∧
      ((∃ packet rest, device.queue.recv = .item packet rest ∧
        next = { device with
          queue := rest
          taken := device.taken ++ [packet]
          results := device.results ++ [fill bufferLen packet] }) ∨
      next = { device with results := device.results ++ [.error "wintun reader stopped"] }) := by
  simp only [step] at hstep
  split_ifs at hstep with hdropping
  refine ⟨Bool.eq_false_iff.mpr hdropping, ?_⟩
  split at hstep
  · rename_i packet rest hrecv
    exact .inl ⟨packet, rest, hrecv, (Option.some.inj hstep).symm⟩
  · exact .inr (Option.some.inj hstep).symm
  · cases hstep

theorem step_arrive {packet : Bytes} (hstep : device.step (.arrive packet) = some next) :
    device.dropped = false ∧
      next = { device with
        ring := device.ring ++ [packet]
        arrived := device.arrived ++ [packet] } := by
  simp only [step] at hstep
  split_ifs at hstep with hdropped
  exact ⟨Bool.eq_false_iff.mpr hdropped, (Option.some.inj hstep).symm⟩

theorem step_beginDrop (hstep : device.step .beginDrop = some next) :
    device.dropping = false ∧ next = { device with dropping := true } := by
  simp only [step] at hstep
  split_ifs at hstep with hdropping
  exact ⟨Bool.eq_false_iff.mpr hdropping, (Option.some.inj hstep).symm⟩

theorem step_join (hstep : device.step .join = some next) :
    device.dropping = true ∧ device.dropped = false ∧ device.thread = .finished ∧
      next = { device with dropped := true, queue := device.queue.dropReceiver } := by
  simp only [step] at hstep
  split_ifs at hstep with hjoin
  exact ⟨hjoin.1, hjoin.2.1, hjoin.2.2, (Option.some.inj hstep).symm⟩

end Steps

/-! ### Nothing is lost before the drop -/

/-- A device holds what has arrived and was not read. -/
structure Holds (device : WintunDevice) : Prop where
  packets : device.dropped = false → device.arrived = device.taken ++ device.unread
  receiver : device.queue.hasReceiver = !device.dropped
  finished : device.dropped = true → device.thread = .finished ∧ device.dropping = true

theorem holds_create : create.Holds where
  packets _ := rfl
  receiver := rfl
  finished h := absurd h Bool.false_ne_true

variable {device next : WintunDevice}

/-- A thread that has not ended keeps the drop from returning. -/
theorem Holds.dropped_eq_false (hholds : device.Holds) (hgoing : device.thread ≠ .finished) :
    device.dropped = false :=
  Bool.eq_false_iff.mpr fun hdropped ↦ hgoing (hholds.finished hdropped).1

theorem Holds.hasReceiver (hholds : device.Holds) (hgoing : device.thread ≠ .finished) :
    device.queue.hasReceiver = true := by
  rw [hholds.receiver, hholds.dropped_eq_false hgoing]
  rfl

/-- The thread always has someone to hand a packet to. -/
theorem Holds.handOver (hholds : device.Holds) (hstep : device.step .handOver = some next) :
    ∃ packet queue, device.thread = .sending packet ∧
      device.queue.trySend packet = some queue ∧
        next = { device with queue, thread := .receiving } := by
  obtain ⟨packet, hthread, ⟨queue, hsend, hnext⟩ | hnobody⟩ := step_handOver hstep
  · exact ⟨packet, queue, hthread, hsend, hnext⟩
  · have hgoing : device.thread ≠ .finished := by
      rw [hthread]
      exact DrainThread.noConfusion
    exact absurd ((hholds.hasReceiver hgoing).symm.trans hnobody) (Ne.symm Bool.false_ne_true)

/-- The thread ends with nothing in its hand. -/
theorem Holds.endThread (hholds : device.Holds) (hthread : device.thread = .receiving) :
    device.endThread.Holds := by
  have hgoing : device.thread ≠ .finished := by
    rw [hthread]
    exact DrainThread.noConfusion
  refine ⟨fun h ↦ ?_, hholds.receiver, fun h ↦ ?_⟩
  · rw [WintunDevice.endThread, unread, hholds.packets h, unread, hthread]
    rfl
  · exact absurd h (Bool.eq_false_iff.mp (hholds.dropped_eq_false hgoing))

theorem Holds.step (hholds : device.Holds) {action : WintunAction}
    (hstep : device.step action = some next) : next.Holds := by
  cases action with
  | arrive packet =>
    obtain ⟨-, rfl⟩ := step_arrive hstep
    refine ⟨fun h ↦ ?_, hholds.receiver, hholds.finished⟩
    simp only [unread, hholds.packets h, List.append_assoc]
  | receive =>
    obtain ⟨packet, rest, hthread, hring, rfl⟩ := step_receive hstep
    refine ⟨fun h ↦ ?_, hholds.receiver, fun h ↦ ?_⟩
    · rw [hholds.packets h, unread, unread, hthread, hring]
      rfl
    · exact absurd (hthread.symm.trans (hholds.finished h).1) DrainThread.noConfusion
  | receiveFails =>
    obtain ⟨hthread, rfl⟩ := step_receiveFails hstep
    exact hholds.endThread hthread
  | adapterFails =>
    obtain ⟨hthread, rfl⟩ := step_adapterFails hstep
    exact hholds.endThread hthread
  | handOver =>
    obtain ⟨packet, queue, hthread, hsend, rfl⟩ := hholds.handOver hstep
    obtain ⟨-, -, hitems, -, hkept⟩ := Channel.trySend_eq_some hsend
    refine ⟨fun h ↦ ?_, hkept.trans hholds.receiver, fun h ↦ ?_⟩
    · rw [hholds.packets h, unread, unread, hthread, hitems, List.append_assoc]
      rfl
    · exact absurd (hthread.symm.trans (hholds.finished h).1) DrainThread.noConfusion
  | recv bufferLen =>
    obtain ⟨hdropping, ⟨packet, rest, hrecv, rfl⟩ | rfl⟩ := step_recv hstep
    · obtain ⟨hitems, -, hreceiver⟩ := Channel.recv_eq_item hrecv
      refine ⟨fun h ↦ ?_, hreceiver.trans hholds.receiver, hholds.finished⟩
      rw [hholds.packets h, unread, unread, hitems, List.append_assoc]
      rfl
    · exact ⟨hholds.packets, hholds.receiver, hholds.finished⟩
  | beginDrop =>
    obtain ⟨-, rfl⟩ := step_beginDrop hstep
    exact ⟨hholds.packets, hholds.receiver, fun h ↦ ⟨(hholds.finished h).1, rfl⟩⟩
  | join =>
    obtain ⟨hdropping, -, hthread, rfl⟩ := step_join hstep
    exact ⟨fun h ↦ absurd h (Ne.symm Bool.false_ne_true), rfl, fun _ ↦ ⟨hthread, hdropping⟩⟩

theorem Holds.run {actions : List WintunAction} (hholds : device.Holds)
    (hrun : Foundation.run WintunDevice.step device actions = some next) : next.Holds :=
  run_preserves (fun _ _ _ hbefore hstep ↦ Holds.step hbefore hstep) hrun hholds

/-! ### The drop comes to rest -/

/-- What the thread and the join can still do. -/
def work (device : WintunDevice) : ℕ :=
  2 * device.ring.length + device.thread.steps device.dropped

theorem steps_le (dropped : Bool) (thread : DrainThread) : thread.steps dropped ≤ 3 := by
  cases thread with
  | finished => exact (Bool.toNat_le (!dropped)).trans (by decide)
  | receiving => exact Nat.le_succ 2
  | sending packet => exact le_rfl

/-- A thread that ends has less to do. -/
theorem work_endThread (hthread : device.thread ≠ .finished) :
    1 + device.endThread.work ≤ device.work := by
  have hended : device.endThread.work ≤ 2 * device.ring.length + 1 :=
    Nat.add_le_add_left (Bool.toNat_le _) _
  have hgoing : 2 ≤ device.thread.steps device.dropped := by
    cases hstands : device.thread with
    | finished => exact absurd hstands hthread
    | receiving => exact le_rfl
    | sending packet => exact Nat.le_succ 2
  unfold work at hended ⊢
  omega

/-- A step of the thread or the join leaves less to do, a packet that arrives two steps more. -/
theorem work_step (hdropping : device.dropping = true) {action : WintunAction}
    (hstep : device.step action = some next) :
    next.dropping = true ∧
      action.isOwn.toNat + next.work ≤ device.work + 2 * action.isArrival.toNat := by
  cases action with
  | arrive packet =>
    obtain ⟨-, rfl⟩ := step_arrive hstep
    refine ⟨hdropping, ?_⟩
    simp only [work, List.length_append, List.length_singleton, WintunAction.isOwn,
      WintunAction.isArrival, Bool.toNat_false, Bool.toNat_true]
    omega
  | receive =>
    obtain ⟨packet, rest, hthread, hring, rfl⟩ := step_receive hstep
    refine ⟨hdropping, ?_⟩
    simp only [work, DrainThread.steps, hthread, hring, List.length_cons, WintunAction.isOwn,
      WintunAction.isArrival, Bool.toNat_false, Bool.toNat_true]
    omega
  | receiveFails =>
    obtain ⟨hthread, rfl⟩ := step_receiveFails hstep
    exact ⟨hdropping, work_endThread (by rw [hthread]; exact DrainThread.noConfusion)⟩
  | adapterFails =>
    obtain ⟨hthread, rfl⟩ := step_adapterFails hstep
    have hless := @work_endThread device (by rw [hthread]; exact DrainThread.noConfusion)
    exact ⟨hdropping, (Nat.add_le_add_right (Nat.zero_le 1) _).trans hless⟩
  | handOver =>
    obtain ⟨packet, hthread, ⟨queue, -, rfl⟩ | hnobody⟩ := step_handOver hstep
    · refine ⟨hdropping, ?_⟩
      simp only [work, DrainThread.steps, hthread, WintunAction.isOwn, WintunAction.isArrival,
        Bool.toNat_false, Bool.toNat_true]
      omega
    · have hless := @work_endThread device (by rw [hthread]; exact DrainThread.noConfusion)
      simp only [WintunDevice.step, hthread, hnobody, Bool.false_eq_true, if_false,
        Option.some.injEq] at hstep
      obtain rfl := hstep
      exact ⟨hdropping, hless⟩
  | recv bufferLen =>
    exact absurd (hdropping.symm.trans (step_recv hstep).1) (Ne.symm Bool.false_ne_true)
  | beginDrop =>
    exact absurd (hdropping.symm.trans (step_beginDrop hstep).1) (Ne.symm Bool.false_ne_true)
  | join =>
    obtain ⟨-, hgoing, hthread, rfl⟩ := step_join hstep
    refine ⟨hdropping, ?_⟩
    simp only [work, DrainThread.steps, hthread, hgoing, Bool.not_true, Bool.not_false,
      WintunAction.isOwn, WintunAction.isArrival, Bool.toNat_false, Bool.toNat_true]
    omega

/-- The thread and the join take two steps for every packet and a few more. -/
theorem work_run {more : List WintunAction} (hdropping : device.dropping = true)
    (hrun : run step device more = some next) :
    more.countP (fun action ↦ action.isOwn) + next.work ≤
      device.work + 2 * more.countP fun action ↦ action.isArrival := by
  induction more generalizing device with
  | nil =>
    obtain rfl := Option.some.inj hrun
    simp
  | cons action rest ih =>
    obtain ⟨middle, hstep, hrest⟩ := run_cons_eq_some.mp hrun
    obtain ⟨hmiddle, hfirst⟩ := work_step hdropping hstep
    have hlater := ih hmiddle hrest
    simp only [List.countP_cons]
    cases hown : action.isOwn <;> cases harrival : action.isArrival <;>
      simp only [hown, harrival, Bool.toNat_false, Bool.toNat_true, if_true, Bool.false_eq_true,
        if_false] at hfirst ⊢ <;> omega

/-! ### Returning from the drop -/

/-- The thread waits for room in a queue that nobody reads any more. -/
structure Stuck (device : WintunDevice) : Prop where
  dropping : device.dropping = true
  going : device.dropped = false
  receiver : device.queue.hasReceiver = true
  full : wintunQueue ≤ device.queue.items.length
  waits : ∃ packet, device.thread = .sending packet

/-- Neither the thread nor the join takes a step. -/
def AtRest (device : WintunDevice) : Prop :=
  Resting step (fun action ↦ action.isOwn = true) device

/-- Only the adapter goes on when the thread is stuck. -/
theorem Stuck.step (hstuck : device.Stuck) {action : WintunAction}
    (hstep : device.step action = some next) : action.isArrival = true ∧ next.Stuck := by
  obtain ⟨hdropping, hgoing, hreceiver, hfull, packet, hthread⟩ := hstuck
  cases action with
  | arrive other =>
    obtain ⟨-, rfl⟩ := step_arrive hstep
    exact ⟨rfl, hdropping, hgoing, hreceiver, hfull, packet, hthread⟩
  | receive =>
    obtain ⟨_, _, hreceiving, -⟩ := step_receive hstep
    exact absurd (hthread.symm.trans hreceiving) DrainThread.noConfusion
  | receiveFails =>
    exact absurd (hthread.symm.trans (step_receiveFails hstep).1) DrainThread.noConfusion
  | adapterFails =>
    exact absurd (hthread.symm.trans (step_adapterFails hstep).1) DrainThread.noConfusion
  | handOver =>
    obtain ⟨other, -, ⟨queue, hsend, -⟩ | hnobody⟩ := step_handOver hstep
    · have hroom := (Channel.trySend_eq_some hsend).2.1
      exact absurd hfull (Nat.not_le.mpr hroom)
    · exact absurd (hnobody.symm.trans hreceiver) Bool.false_ne_true
  | recv bufferLen =>
    exact absurd (hdropping.symm.trans (step_recv hstep).1) (Ne.symm Bool.false_ne_true)
  | beginDrop =>
    exact absurd (hdropping.symm.trans (step_beginDrop hstep).1) (Ne.symm Bool.false_ne_true)
  | join =>
    exact absurd (hthread.symm.trans (step_join hstep).2.2.1) DrainThread.noConfusion

theorem Stuck.atRest (hstuck : device.Stuck) : device.AtRest := by
  intro action hown
  by_contra htaken
  obtain ⟨next, hstep⟩ := Option.ne_none_iff_exists'.mp htaken
  have harrival := (hstuck.step hstep).1
  cases action with
  | arrive packet => cases hown
  | _ => cases harrival

/-- A drop that is stuck never returns. -/
theorem Stuck.run {later : List WintunAction} (hstuck : device.Stuck)
    (hrun : Foundation.run WintunDevice.step device later = some next) : next.Stuck :=
  run_preserves (fun _ _ _ hbefore hstep ↦ (Stuck.step hbefore hstep).2) hrun hstuck

theorem exists_receive {packet : Bytes} {rest : List Bytes} (hthread : device.thread = .receiving)
    (hring : device.ring = packet :: rest) :
    device.step .receive = some { device with ring := rest, thread := .sending packet } := by
  simp only [step, hthread, hring]

theorem exists_handOver {packet : Bytes} (hthread : device.thread = .sending packet)
    (hreceiver : device.queue.hasReceiver = true)
    (hroom : device.queue.items.length < wintunQueue) :
    ∃ queue, device.queue.trySend packet = some queue ∧
      device.step .handOver = some { device with queue, thread := .receiving } := by
  obtain ⟨queue, hsend⟩ := Channel.exists_trySend hreceiver hroom packet
  refine ⟨queue, hsend, ?_⟩
  simp only [step, hthread, if_pos hreceiver, hsend, Option.map_some]

/-- A drop that has come to rest has returned, or it is stuck. -/
theorem Holds.returned_or_stuck (hholds : device.Holds) (hdropping : device.dropping = true)
    (hrest : device.AtRest) : device.Returned ∨ device.Stuck := by
  by_cases hreturned : device.dropped = true
  · exact .inl hreturned
  have hgoing : device.dropped = false := Bool.eq_false_iff.mpr hreturned
  refine .inr ?_
  cases hthread : device.thread with
  | finished =>
    have hjoin : device.step .join =
        some { device with dropped := true, queue := device.queue.dropReceiver } :=
      if_pos ⟨hdropping, hgoing, hthread⟩
    exact absurd (hjoin.symm.trans (hrest .join rfl)) (Option.some_ne_none _)
  | receiving =>
    cases hring : device.ring with
    | nil =>
      have hfails : device.step .receiveFails = some device.endThread := by
        simp only [WintunDevice.step, hthread, hring, hdropping, if_true]
      exact absurd (hfails.symm.trans (hrest .receiveFails rfl)) (Option.some_ne_none _)
    | cons packet rest =>
      have hreceive := exists_receive hthread hring
      exact absurd (hreceive.symm.trans (hrest .receive rfl)) (Option.some_ne_none _)
  | sending packet =>
    have hreceiver := hholds.hasReceiver (by rw [hthread]; exact DrainThread.noConfusion)
    refine ⟨hdropping, hgoing, hreceiver, ?_, packet, hthread⟩
    by_contra hroom
    obtain ⟨queue, -, hhand⟩ := exists_handOver hthread hreceiver (Nat.not_le.mp hroom)
    exact absurd (hhand.symm.trans (hrest .handOver rfl)) (Option.some_ne_none _)

/-- The drop is begun, and the thread has ended or has room for all that it can still hand over with
`count` packets more. -/
def Safe (count : ℕ) (device : WintunDevice) : Prop :=
  device.dropping = true ∧
    (device.thread = .finished ∨ device.unread.length + count ≤ wintunQueue)

theorem Safe.not_stuck {count : ℕ} (hsafe : device.Safe count) : ¬ device.Stuck := by
  rintro ⟨-, -, -, hfull, packet, hthread⟩
  rcases hsafe.2 with hended | hroom
  · exact DrainThread.noConfusion (hthread.symm.trans hended)
  · rw [unread, hthread, List.length_append, List.length_append] at hroom
    change device.queue.items.length + (1 + device.ring.length) + count ≤ wintunQueue at hroom
    omega

/-- A safe drop stays safe, for one packet less when one arrives. -/
theorem Safe.step {count : ℕ} (hsafe : device.Safe count) (hholds : device.Holds)
    {action : WintunAction} (harrival : action.isArrival.toNat ≤ count)
    (hstep : device.step action = some next) : next.Safe (count - action.isArrival.toNat) := by
  obtain ⟨hdropping, hroom⟩ := hsafe
  cases action with
  | arrive packet =>
    obtain ⟨-, rfl⟩ := step_arrive hstep
    refine ⟨hdropping, hroom.imp_right fun hfits ↦ ?_⟩
    have hone : 1 ≤ count := harrival
    change (device.queue.items ++ (device.thread.hand ++ (device.ring ++ [packet]))).length +
      (count - 1) ≤ wintunQueue
    simp only [unread, List.length_append, List.length_singleton] at hfits ⊢
    omega
  | receive =>
    obtain ⟨packet, rest, hthread, hring, rfl⟩ := step_receive hstep
    refine ⟨hdropping, .inr ?_⟩
    have hunread := hroom.resolve_left fun h ↦
      absurd (hthread.symm.trans h) DrainThread.noConfusion
    rwa [unread, hthread, hring] at hunread
  | receiveFails =>
    obtain ⟨-, rfl⟩ := step_receiveFails hstep
    exact ⟨hdropping, .inl rfl⟩
  | adapterFails =>
    obtain ⟨-, rfl⟩ := step_adapterFails hstep
    exact ⟨hdropping, .inl rfl⟩
  | handOver =>
    obtain ⟨packet, queue, hthread, hsend, rfl⟩ := hholds.handOver hstep
    obtain ⟨-, -, hitems, -⟩ := Channel.trySend_eq_some hsend
    refine ⟨hdropping, .inr ?_⟩
    have hunread := hroom.resolve_left fun h ↦
      absurd (hthread.symm.trans h) DrainThread.noConfusion
    rw [unread, hthread] at hunread
    rwa [unread, hitems, List.append_assoc]
  | recv bufferLen =>
    exact absurd (hdropping.symm.trans (step_recv hstep).1) (Ne.symm Bool.false_ne_true)
  | beginDrop =>
    exact absurd (hdropping.symm.trans (step_beginDrop hstep).1) (Ne.symm Bool.false_ne_true)
  | join =>
    obtain ⟨-, -, hthread, rfl⟩ := step_join hstep
    exact ⟨hdropping, .inl hthread⟩

/-- What is safe for a number of packets stays safe as long as no more arrive. -/
theorem Safe.run {more : List WintunAction} {count : ℕ} (hsafe : device.Safe count)
    (hholds : device.Holds) (hmore : (more.countP fun action ↦ action.isArrival) ≤ count)
    (hrun : Foundation.run WintunDevice.step device more = some next) :
    ∃ left, next.Safe left := by
  induction more generalizing device count with
  | nil =>
    obtain rfl := Option.some.inj hrun
    exact ⟨count, hsafe⟩
  | cons action rest ih =>
    obtain ⟨middle, hstep, hrest⟩ := run_cons_eq_some.mp hrun
    rw [List.countP_cons] at hmore
    have hsplit : (rest.countP fun action ↦ action.isArrival) + action.isArrival.toNat ≤ count := by
      cases harrival : action.isArrival <;> simpa [harrival] using hmore
    refine ih (hsafe.step hholds (by omega) hstep) (hholds.step hstep) (by omega) hrest

/-! ### Getting stuck -/

/-- With more unread packets than the queue has room for, a thread that has one in its hand can get
stuck: it hands over one packet after the other until the queue is full. -/
theorem canStick_of_sending {rest : List Bytes} {packet : Bytes} (hring : device.ring = rest)
    (hthread : device.thread = .sending packet) (hdropping : device.dropping = true)
    (hgoing : device.dropped = false) (hreceiver : device.queue.hasReceiver = true)
    (hmore : wintunQueue < device.unread.length) :
    CanReach WintunDevice.step (fun action ↦ action.isOwn = true) Stuck device := by
  induction rest generalizing device packet with
  | nil =>
    refine canReach_of_goal ⟨hdropping, hgoing, hreceiver, ?_, packet, hthread⟩
    rw [unread, hthread, hring, List.length_append] at hmore
    exact Nat.le_of_lt_succ hmore
  | cons first rest ih =>
    by_cases hfull : wintunQueue ≤ device.queue.items.length
    · exact canReach_of_goal ⟨hdropping, hgoing, hreceiver, hfull, packet, hthread⟩
    · obtain ⟨queue, hsend, hhand⟩ := exists_handOver hthread hreceiver (Nat.not_le.mp hfull)
      obtain ⟨-, -, hitems, -, hkept⟩ := Channel.trySend_eq_some hsend
      refine .of_step hhand rfl (.of_step (exists_receive rfl hring) rfl ?_)
      refine ih rfl rfl hdropping hgoing (hkept.trans hreceiver) ?_
      rw [unread, hthread, hring] at hmore
      rwa [unread, hitems, List.append_assoc]

theorem canStick (hholds : device.Holds) (hdropping : device.dropping = true)
    (hthread : device.thread ≠ .finished) (hmore : wintunQueue < device.unread.length) :
    CanReach WintunDevice.step (fun action ↦ action.isOwn = true) Stuck device := by
  have hgoing := hholds.dropped_eq_false hthread
  have hreceiver := hholds.hasReceiver hthread
  cases hstands : device.thread with
  | finished => exact absurd hstands hthread
  | sending packet => exact canStick_of_sending rfl hstands hdropping hgoing hreceiver hmore
  | receiving =>
    rw [unread, hstands] at hmore
    cases hring : device.ring with
    | nil =>
      have hqueued : device.queue.items ++ (DrainThread.receiving.hand ++ []) =
          device.queue.items := List.append_nil device.queue.items
      rw [hring, hqueued] at hmore
      exact absurd device.queue.length_le (Nat.not_le.mpr hmore)
    | cons first rest =>
      refine .of_step (exists_receive hstands hring) rfl ?_
      refine canStick_of_sending rfl rfl hdropping hgoing hreceiver ?_
      rw [hring] at hmore
      exact hmore

/-- Packets can arrive as long as the drop has not returned. -/
theorem run_arrivals (hgoing : device.dropped = false) (packets : List Bytes) :
    run step device (packets.map .arrive) =
      some { device with
        ring := device.ring ++ packets
        arrived := device.arrived ++ packets } := by
  induction packets generalizing device with
  | nil => simp
  | cons packet rest ih =>
    have hstep : device.step (.arrive packet) =
        some { device with
          ring := device.ring ++ [packet]
          arrived := device.arrived ++ [packet] } := by
      simp only [step, hgoing, Bool.false_eq_true, if_false]
    have hrest := @ih { device with
      ring := device.ring ++ [packet]
      arrived := device.arrived ++ [packet] } hgoing
    rw [List.map_cons, run_cons, hstep, Option.bind_some, hrest]
    simp only [List.append_assoc, List.singleton_append]

/-- As soon as the packets that can still arrive are too many for the queue, the drop can get
stuck. -/
theorem exists_stuck (hholds : device.Holds) (hdropping : device.dropping = true)
    (hthread : device.thread ≠ .finished) {count : ℕ}
    (hmore : wintunQueue < device.unread.length + count) :
    ∃ more final, (more.countP fun action ↦ action.isArrival) ≤ count ∧
      run step device more = some final ∧ final.Stuck := by
  let packets : List Bytes := List.replicate (wintunQueue + 1 - device.unread.length) []
  have hfew : packets.length ≤ count := by
    rw [List.length_replicate]
    omega
  have harrive := run_arrivals (hholds.dropped_eq_false hthread) packets
  have hafter : wintunQueue < (device.unread ++ packets).length := by
    rw [List.length_append, List.length_replicate]
    omega
  rw [unread, List.append_assoc, List.append_assoc] at hafter
  obtain ⟨own, final, hown, hrun, hstuck⟩ := canStick (hholds.run harrive) hdropping hthread hafter
  refine ⟨packets.map .arrive ++ own, final, ?_, ?_, hstuck⟩
  · have hnone : (own.countP fun action ↦ action.isArrival) = 0 := by
      refine List.countP_eq_zero.mpr fun action hmem harrival ↦ ?_
      have hsame := hown action hmem
      cases action with
      | arrive packet => cases hsame
      | _ => cases harrival
    have hlength : ((packets.map WintunAction.arrive).countP fun action ↦ action.isArrival) ≤
        packets.length := List.countP_le_length.trans (List.length_map _).le
    rw [List.countP_append, hnone, Nat.add_zero]
    exact hlength.trans hfew
  · rw [run_append, harrive]
    exact hrun

/-- Once the drop of a device has begun, the thread and the join come to rest whatever the adapter
does. They rest with the drop returned in all runs with at most `count` more packets exactly if the
thread has ended or these packets and the unread ones fit the queue. Otherwise the thread can come
to wait for room in the queue, and the drop for the thread, and then both wait forever. -/
theorem drop_returns_iff {actions : List WintunAction} {device : WintunDevice}
    (hrun : run step create actions = some device) (hdropping : device.dropping = true) :
    (∀ (more : List WintunAction) (final : WintunDevice), run step device more = some final →
        (more.countP fun action ↦ action.isOwn) ≤
            2 * (device.ring.length + more.countP fun action ↦ action.isArrival) + 3 ∧
          (final.AtRest → ¬ final.Returned → ∀ (later : List WintunAction) (last : WintunDevice),
            run step final later = some last → ¬ last.Returned)) ∧
      ∀ count : ℕ,
        (∀ (more : List WintunAction) (final : WintunDevice),
            (more.countP fun action ↦ action.isArrival) ≤ count →
              run step device more = some final → final.AtRest → final.Returned) ↔
          device.thread = .finished ∨
            device.arrived.length + count ≤ device.taken.length + wintunQueue := by
  have hholds := holds_create.run hrun
  have hunread : device.thread ≠ .finished →
      device.arrived.length = device.taken.length + device.unread.length := by
    intro hthread
    rw [hholds.packets (hholds.dropped_eq_false hthread), List.length_append]
  have hstays : ∀ {more : List WintunAction} {final : WintunDevice},
      run step device more = some final → final.dropping = true := fun hmore ↦
    run_preserves (fun _ _ _ hbefore hstep ↦ (work_step hbefore hstep).1) hmore hdropping
  refine ⟨fun more final hmore ↦ ⟨?_, fun hrest hgoing later last hlater ↦ ?_⟩, fun count ↦ ?_⟩
  · have hbound := work_run hdropping hmore
    have hsteps := steps_le device.dropped device.thread
    unfold work at hbound
    omega
  · have hstuck : final.Stuck :=
      ((hholds.run hmore).returned_or_stuck (hstays hmore) hrest).resolve_left hgoing
    exact fun hreturned ↦ Bool.false_ne_true ((hstuck.run hlater).going.symm.trans hreturned)
  constructor
  · intro hreturns
    by_contra hneither
    obtain ⟨hthread, hmore⟩ := not_or.mp hneither
    rw [hunread hthread, Nat.add_assoc, Nat.add_le_add_iff_left, Nat.not_le] at hmore
    obtain ⟨more, final, hfew, hmoreRun, hstuck⟩ := exists_stuck hholds hdropping hthread hmore
    have hreturned := hreturns more final hfew hmoreRun hstuck.atRest
    exact Bool.false_ne_true (hstuck.going.symm.trans hreturned)
  · intro hroom more final hfew hmoreRun hrest
    have hsafe : device.Safe count := by
      refine ⟨hdropping, ?_⟩
      by_cases hthread : device.thread = .finished
      · exact .inl hthread
      · have hfits := hroom.resolve_left hthread
        rw [hunread hthread, Nat.add_assoc, Nat.add_le_add_iff_left] at hfits
        exact .inr hfits
    obtain ⟨left, hleft⟩ := hsafe.run hholds hfew hmoreRun
    exact ((hholds.run hmoreRun).returned_or_stuck hleft.1 hrest).resolve_right hleft.not_stuck

/-- A device is dropped while the thread has a packet in its hand and another one lies in the ring.
A thousand packets more do not keep the drop from returning, and two thousand can. -/
theorem drop_returns_iff_twoPackets : ∃ device,
    run step create [.arrive [0x45], .arrive [0x46], .receive, .beginDrop] = some device ∧
      (∀ (more : List WintunAction) (final : WintunDevice),
        (more.countP fun action ↦ action.isArrival) ≤ 1000 →
          run step device more = some final → final.AtRest → final.Returned) ∧
      ¬ ∀ (more : List WintunAction) (final : WintunDevice),
        (more.countP fun action ↦ action.isArrival) ≤ 2000 →
          run step device more = some final → final.AtRest → final.Returned := by
  have hdrop := @drop_returns_iff [.arrive [0x45], .arrive [0x46], .receive, .beginDrop] _ rfl rfl
  exact ⟨_, rfl, (hdrop.2 1000).mpr (.inr (by decide)), fun hreturns ↦
    absurd ((hdrop.2 2000).mp hreturns) (by decide)⟩

end WintunDevice

end EntroTunnel.Core
