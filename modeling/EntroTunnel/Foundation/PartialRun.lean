import Mathlib.Data.List.Basic
import Mathlib.Data.List.Induction

/-!
# Runs of partial steps

A system is given by a partial step: in a state an action is either taken, with one next state,
or refused. Nondeterminism (scheduling, the network, a peer) sits in the choice of the action.
`run` takes a list of actions in order and is refused as soon as one of them is.

`run_preserves` is the invariant rule: what every step preserves, every run preserves. A run whose
steps all meet a condition on the state before the step is a run of the step restricted to that
condition (`guarded`), so the same rule serves both (`guarded_preserves`). `run_append` splits a run
at any point, `run_records` is the rule for invariants that see the actions taken so far, and
`run_of_guarded` forgets the condition. Steps that decrease a measure make short runs
(`run_length_le`).
-/

set_option autoImplicit false
set_option relaxedAutoImplicit false

namespace EntroTunnel.Foundation

variable {State Action : Type*}

/-- Take a list of actions in order; refused as soon as one of them is refused. -/
def run (step : State → Action → Option State) : State → List Action → Option State
  | state, [] => some state
  | state, action :: rest => (step state action).bind fun next ↦ run step next rest

/-- The step restricted to a condition on the state before it. -/
def guarded (condition : State → Action → Prop) [∀ state action, Decidable (condition state action)]
    (step : State → Action → Option State) (state : State) (action : Action) : Option State :=
  if condition state action then step state action else none

section Runs

variable {step : State → Action → Option State}

@[simp] theorem run_nil (state : State) : run step state [] = some state := rfl

theorem run_cons (state : State) (action : Action) (rest : List Action) :
    run step state (action :: rest) = (step state action).bind fun next ↦ run step next rest :=
  rfl

/-- A nonempty run takes its first action and then runs the rest. -/
theorem run_cons_eq_some {state final : State} {action : Action} {rest : List Action} :
    run step state (action :: rest) = some final ↔
      ∃ next, step state action = some next ∧ run step next rest = some final := by
  rw [run_cons, Option.bind_eq_some_iff]

/-- A run splits at every point. -/
theorem run_append (state : State) (first second : List Action) :
    run step state (first ++ second) =
      (run step state first).bind fun middle ↦ run step middle second := by
  induction first generalizing state with
  | nil => rfl
  | cons action rest ih =>
    rw [List.cons_append, run_cons, run_cons, Option.bind_assoc]
    exact congrArg _ (funext ih)

/-- The invariant rule: what every step preserves, every run preserves. -/
theorem run_preserves {Invariant : State → Prop}
    (hstep : ∀ state action next, Invariant state → step state action = some next →
      Invariant next)
    {state final : State} {actions : List Action} (hrun : run step state actions = some final)
    (hstart : Invariant state) : Invariant final := by
  induction actions generalizing state with
  | nil =>
    rw [run_nil, Option.some.injEq] at hrun
    exact hrun ▸ hstart
  | cons action rest ih =>
    obtain ⟨next, hnext, hrest⟩ := run_cons_eq_some.mp hrun
    exact ih hrest (hstep state action next hstart hnext)

/-- A run followed by one more step. -/
theorem run_concat_eq_some {state final : State} {actions : List Action} {action : Action} :
    run step state (actions ++ [action]) = some final ↔
      ∃ middle, run step state actions = some middle ∧ step middle action = some final := by
  rw [run_append, Option.bind_eq_some_iff]
  refine exists_congr fun middle ↦ and_congr_right fun _ ↦ ?_
  rw [run_cons_eq_some]
  constructor
  · rintro ⟨next, hnext, hnil⟩
    obtain rfl := Option.some.inj hnil
    exact hnext
  · exact fun hnext ↦ ⟨final, hnext, rfl⟩

/-- The invariant rule for what a state owes to the actions that led to it. -/
theorem run_records {Invariant : List Action → State → Prop} {start : State}
    (hstart : Invariant [] start)
    (hstep : ∀ actions action state next, run step start actions = some state →
      Invariant actions state → step state action = some next →
        Invariant (actions ++ [action]) next)
    {actions : List Action} {final : State} (hrun : run step start actions = some final) :
    Invariant actions final := by
  induction actions using List.reverseRecOn generalizing final with
  | nil =>
    rw [run_nil, Option.some.injEq] at hrun
    exact hrun ▸ hstart
  | append_singleton actions action ih =>
    obtain ⟨middle, hmiddle, hlast⟩ := run_concat_eq_some.mp hrun
    exact hstep actions action middle final hmiddle (ih hmiddle) hlast

end Runs

section Guarded

variable {step : State → Action → Option State} {condition : State → Action → Prop}
  [∀ state action, Decidable (condition state action)]

/-- A restricted step is taken exactly when its condition holds and the step is taken. -/
theorem guarded_eq_some {state next : State} {action : Action} :
    guarded condition step state action = some next ↔
      condition state action ∧ step state action = some next := by
  unfold guarded
  split_ifs with hcondition <;> simp [hcondition]

/-- The invariant rule for runs whose steps all meet a condition. -/
theorem guarded_preserves {Invariant : State → Prop}
    (hstep : ∀ state action next, Invariant state → condition state action →
      step state action = some next → Invariant next)
    {state final : State} {actions : List Action}
    (hrun : run (guarded condition step) state actions = some final) (hstart : Invariant state) :
    Invariant final := by
  refine run_preserves (fun state action next hinvariant htaken ↦ ?_) hrun hstart
  obtain ⟨hcondition, htaken⟩ := guarded_eq_some.mp htaken
  exact hstep state action next hinvariant hcondition htaken

/-- A run whose steps all meet a condition is a run. -/
theorem run_of_guarded {state final : State} {actions : List Action}
    (hrun : run (guarded condition step) state actions = some final) :
    run step state actions = some final := by
  induction actions generalizing state with
  | nil => exact hrun
  | cons action rest ih =>
    obtain ⟨next, hnext, hrest⟩ := run_cons_eq_some.mp hrun
    exact run_cons_eq_some.mpr ⟨next, (guarded_eq_some.mp hnext).2, ih hrest⟩

end Guarded

section Measured

variable {step : State → Action → Option State}

/-- Steps that a measure pays for cannot go on: a run of them is no longer than the measure was. -/
theorem run_length_le {measure : State → ℕ} {Paid : Action → Prop}
    (hstep : ∀ state action next, Paid action → step state action = some next →
      measure next < measure state)
    {state final : State} {actions : List Action} (hpaid : ∀ action ∈ actions, Paid action)
    (hrun : run step state actions = some final) :
    actions.length + measure final ≤ measure state := by
  induction actions generalizing state with
  | nil =>
    obtain rfl := Option.some.inj hrun
    exact Nat.le_of_eq (Nat.zero_add _)
  | cons action rest ih =>
    obtain ⟨next, hnext, hrest⟩ := run_cons_eq_some.mp hrun
    have hfirst := hstep state action next (hpaid action List.mem_cons_self) hnext
    have hlater := ih (fun other h ↦ hpaid other (List.mem_cons_of_mem _ h)) hrest
    rw [List.length_cons]
    omega

end Measured

end EntroTunnel.Foundation
