import Mathlib.Logic.Basic

/-!
# Sequential programs on a shared state

A script is a sequential program as others see it: it performs operations one at a time, each with a
reply that decides how it goes on, and ends with a result or gives up. Between two operations the
state belongs to whoever else acts on it. `alone` runs a script without interference.

Two properties say what a script does in every surrounding: `Within` bounds the operations that it
may perform as long as the replies are as expected, and `Owes` says that it cannot end with a result
before it has performed an operation of a kind. Both pass through `bind` and to the rest of the
script after an operation, so an invariant of an interleaving can be read off the scripts as they
were written.
-/

set_option autoImplicit false
set_option relaxedAutoImplicit false

namespace EntroTunnel.Foundation

universe u v w

/-- A sequential program: it has ended with a result, has given up, or performs an operation and
goes on with the reply. -/
inductive Script (Op : Type u) (Reply : Op → Type v) (α : Type w)
  | done (result : α)
  | fail
  | act (op : Op) (next : Reply op → Script Op Reply α)

namespace Script

variable {Op : Type u} {Reply : Op → Type v} {α β : Type w} {State : Type*}

/-- One script after the other; giving up ends both. -/
def bind : Script Op Reply α → (α → Script Op Reply β) → Script Op Reply β
  | .done result, rest => rest result
  | .fail, _ => .fail
  | .act op next, rest => .act op fun reply ↦ (next reply).bind rest

instance : Monad (Script Op Reply) where
  pure := done
  bind := bind

@[simp] theorem done_bind (result : α) (rest : α → Script Op Reply β) :
    (done result >>= rest) = rest result := rfl

@[simp] theorem pure_bind (result : α) (rest : α → Script Op Reply β) :
    ((pure result : Script Op Reply α) >>= rest) = rest result := rfl

@[simp] theorem fail_bind (rest : α → Script Op Reply β) :
    ((fail : Script Op Reply α) >>= rest) = fail := rfl

@[simp] theorem act_bind (op : Op) (next : Reply op → Script Op Reply α)
    (rest : α → Script Op Reply β) :
    (act op next >>= rest) = act op fun reply ↦ next reply >>= rest := rfl

/-! ### Running alone -/

section Alone

variable (exec : (op : Op) → State → State × Reply op)

/-- Run a script to its end on a state that nothing else changes. -/
def alone : Script Op Reply α → State → State × Option α
  | .done result, state => (state, some result)
  | .fail, state => (state, none)
  | .act op next, state => (next (exec op state).2).alone (exec op state).1

theorem alone_bind (script : Script Op Reply α) (rest : α → Script Op Reply β) (state : State) :
    (script >>= rest).alone exec state =
      match script.alone exec state with
      | (middle, some result) => (rest result).alone exec middle
      | (middle, none) => (middle, none) := by
  induction script generalizing state with
  | done result => rfl
  | fail => rfl
  | act op next ih =>
    rw [act_bind, alone, ih, alone]

end Alone

/-! ### What a script does in every surrounding -/

/-- Every operation that the script performs is allowed, as long as every reply is expected. -/
def Within (allowed : Op → Prop) (expected : (op : Op) → Reply op → Prop) :
    Script Op Reply α → Prop
  | .done _ => True
  | .fail => True
  | .act op next => allowed op ∧ ∀ reply, expected op reply → (next reply).Within allowed expected

/-- The script performs a due operation before it ends with a result. -/
def Owes (due : Op → Prop) : Script Op Reply α → Prop
  | .done _ => False
  | .fail => True
  | .act op next => due op ∨ ∀ reply, (next reply).Owes due

variable {allowed due : Op → Prop} {expected : (op : Op) → Reply op → Prop}
  {script : Script Op Reply α} {rest : α → Script Op Reply β}

theorem Within.bind (hscript : script.Within allowed expected)
    (hrest : ∀ result, (rest result).Within allowed expected) :
    (script >>= rest).Within allowed expected := by
  induction script with
  | done result => exact hrest result
  | fail => trivial
  | act op next ih =>
    exact ⟨hscript.1, fun reply hreply ↦ ih reply (hscript.2 reply hreply)⟩

/-- What the first of two scripts owes, both owe. -/
theorem Owes.bind_left (howes : script.Owes due) : (script >>= rest).Owes due := by
  induction script with
  | done result => exact howes.elim
  | fail => trivial
  | act op next ih => exact howes.imp_right fun hnext reply ↦ ih reply (hnext reply)

/-- What the second of two scripts owes whatever the first results in, both owe. -/
theorem Owes.bind_right (howes : ∀ result, (rest result).Owes due) :
    (script >>= rest).Owes due := by
  induction script with
  | done result => exact howes result
  | fail => trivial
  | act op next ih => exact Or.inr fun reply ↦ ih reply

end Script

end EntroTunnel.Foundation
