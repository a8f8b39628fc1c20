import EntroTunnel.Foundation.PartialRun

/-!
# Noninterference by unwinding

Two parties act on one system, and one of them is to be undisturbed by the other. What it sees of
the system is its view, and its actions are the visible ones. A system unwinds when a hidden action
leaves the view alone and a visible action acts on the view as a step of the view's own, taken or
refused alike (`Unwinds`). Then a run, less its hidden actions, is a run of the view (`run_view`),
and two runs with the same visible actions lead to the same view (`view_unique`).

The rules are for guarded runs with an invariant, so that a system that unwinds in some states only
can be treated on the runs that stay in them.
-/

set_option autoImplicit false
set_option relaxedAutoImplicit false

namespace EntroTunnel.Foundation

variable {State Action View : Type*}

/-- In the states that meet the invariant, the actions that meet the condition keep it, the hidden
ones among them leave the view alone, and the visible ones act on the view as a step of the view. -/
structure Unwinds (step : State → Action → Option State) (Invariant : State → Prop)
    (condition : State → Action → Prop) (visible : Action → Bool) (view : State → View)
    (viewStep : View → Action → Option View) : Prop where
  kept : ∀ state action next, Invariant state → condition state action →
    step state action = some next → Invariant next
  hidden : ∀ state action next, Invariant state → condition state action →
    visible action = false → step state action = some next → view next = view state
  visible : ∀ state action, Invariant state → condition state action → visible action = true →
    (step state action).map view = viewStep (view state) action

namespace Unwinds

variable {step : State → Action → Option State} {Invariant : State → Prop}
  {condition : State → Action → Prop} {visible : Action → Bool} {view : State → View}
  {viewStep : View → Action → Option View}

/-- In states with the same view a visible action is taken in both with the same view afterwards, or
refused in both. -/
theorem step_unique (hunwinds : Unwinds step Invariant condition visible view viewStep)
    {first second : State} {action : Action} (hfirst : Invariant first)
    (hsecond : Invariant second) (hview : view first = view second)
    (hvisible : visible action = true) (hfirstCondition : condition first action)
    (hsecondCondition : condition second action) :
    (step first action).map view = (step second action).map view := by
  rw [hunwinds.visible first action hfirst hfirstCondition hvisible,
    hunwinds.visible second action hsecond hsecondCondition hvisible, hview]

variable [∀ state action, Decidable (condition state action)]

/-- A run, less its hidden actions, is a run of the view. -/
theorem run_view (hunwinds : Unwinds step Invariant condition visible view viewStep)
    {state final : State} {actions : List Action}
    (hrun : run (guarded condition step) state actions = some final) (hstart : Invariant state) :
    run viewStep (view state) (actions.filter visible) = some (view final) ∧ Invariant final := by
  induction actions generalizing state with
  | nil =>
    rw [run_nil, Option.some.injEq] at hrun
    subst hrun
    exact ⟨rfl, hstart⟩
  | cons action rest ih =>
    obtain ⟨next, htaken, hrest⟩ := run_cons_eq_some.mp hrun
    obtain ⟨hcondition, hnext⟩ := guarded_eq_some.mp htaken
    obtain ⟨hview, hfinal⟩ := ih hrest (hunwinds.kept state action next hstart hcondition hnext)
    refine ⟨?_, hfinal⟩
    by_cases hvisible : visible action = true
    · rw [List.filter_cons_of_pos hvisible, run_cons_eq_some]
      refine ⟨view next, ?_, hview⟩
      rw [← hunwinds.visible state action hstart hcondition hvisible, hnext]
      rfl
    · rw [List.filter_cons_of_neg hvisible,
        ← hunwinds.hidden state action next hstart hcondition (by simpa using hvisible) hnext]
      exact hview

/-- Two runs with the same visible actions, from states with the same view, lead to the same view.
-/
theorem view_unique (hunwinds : Unwinds step Invariant condition visible view viewStep)
    {first second firstFinal secondFinal : State} {actions others : List Action}
    (hfirst : run (guarded condition step) first actions = some firstFinal)
    (hsecond : run (guarded condition step) second others = some secondFinal)
    (hfirstStart : Invariant first) (hsecondStart : Invariant second)
    (hview : view first = view second)
    (hsame : actions.filter visible = others.filter visible) :
    view firstFinal = view secondFinal := by
  have hleft := (hunwinds.run_view hfirst hfirstStart).1
  have hright := (hunwinds.run_view hsecond hsecondStart).1
  rw [hview, hsame, hright] at hleft
  exact (Option.some.inj hleft).symm

end Unwinds

end EntroTunnel.Foundation
