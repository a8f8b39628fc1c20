import EntroTunnel.Foundation.PartialRun

/-!
# What the available actions can reach

Some of the actions of a system may be out of reach: a party that never answers, a resource that
stays taken. `CanReach` says that a goal can be reached by the actions that are available, in some
order. It is shown step by step (`CanReach.of_step`) and refuted by a condition that the available
actions keep and that excludes the goal (`kept_of_run`). `Resting` is a state in which no available
action is taken.
-/

set_option autoImplicit false
set_option relaxedAutoImplicit false

namespace EntroTunnel.Foundation

variable {State Action : Type*}

/-- Some run of available actions ends in the goal. -/
def CanReach (step : State → Action → Option State) (available : Action → Prop)
    (goal : State → Prop) (state : State) : Prop :=
  ∃ actions final, (∀ action ∈ actions, available action) ∧
    run step state actions = some final ∧ goal final

/-- No available action is taken. -/
def Resting (step : State → Action → Option State) (available : Action → Prop) (state : State) :
    Prop :=
  ∀ action, available action → step state action = none

variable {step : State → Action → Option State} {available : Action → Prop} {goal : State → Prop}
  {state next : State} {action : Action}

/-- A goal is reached where it holds. -/
theorem canReach_of_goal (hgoal : goal state) : CanReach step available goal state :=
  ⟨[], state, fun _ hmem ↦ absurd hmem List.not_mem_nil, rfl, hgoal⟩

/-- A goal is reached before an available action if it is after it. -/
theorem CanReach.of_step (hstep : step state action = some next) (havailable : available action)
    (hreaches : CanReach step available goal next) : CanReach step available goal state := by
  obtain ⟨actions, final, hall, hrun, hgoal⟩ := hreaches
  refine ⟨action :: actions, final, ?_, run_cons_eq_some.mpr ⟨next, hstep, hrun⟩, hgoal⟩
  exact List.forall_mem_cons.mpr ⟨havailable, hall⟩

/-- A goal is reached before a run of available actions if it is after it. -/
theorem CanReach.of_run {actions : List Action} (hrun : run step state actions = some next)
    (havailable : ∀ action ∈ actions, available action)
    (hreaches : CanReach step available goal next) : CanReach step available goal state := by
  obtain ⟨more, final, hall, hmore, hgoal⟩ := hreaches
  refine ⟨actions ++ more, final, List.forall_mem_append.mpr ⟨havailable, hall⟩, ?_, hgoal⟩
  rw [run_append, hrun]
  exact hmore

/-- What the available actions keep holds after every run of them. -/
theorem kept_of_run (Kept : State → Prop)
    (hkept : ∀ state action next, Kept state → available action → step state action = some next →
      Kept next)
    {actions : List Action} {final : State} (hall : ∀ action ∈ actions, available action)
    (hrun : run step state actions = some final) (hstart : Kept state) : Kept final := by
  induction actions generalizing state with
  | nil =>
    obtain rfl := Option.some.inj hrun
    exact hstart
  | cons action rest ih =>
    obtain ⟨next, hnext, hrest⟩ := run_cons_eq_some.mp hrun
    obtain ⟨hfirst, hlater⟩ := List.forall_mem_cons.mp hall
    exact ih hlater hrest (hkept state action next hstart hfirst hnext)

end EntroTunnel.Foundation
