import Mathlib.Data.List.Basic
import Mathlib.Logic.Function.Basic
import EntroTunnel.Foundation.Script

/-!
# What a script leads to when it runs alone

`Ensures` says of a script and a state that the run of the script alone ends with a result and a
state that are as wanted, or gives up in a state that is. The rules follow the script: a result, an
operation, one script after the other, and a loop over a list (`ensures_foldlM`), whose invariant
may depend on what the loop has gathered.

A program that changes a table and remembers how to undo it is the use in mind. `unmatched` is a
table without the entries that some removal matches, and `unmatched_append` says that removals take
back what was added when each added entry is matched: what is left then is the old table without
those of its entries that are matched too. `putBack` sets one key of a table to a saved value.
-/

set_option autoImplicit false
set_option relaxedAutoImplicit false

namespace EntroTunnel.Foundation

universe u v w

namespace Script

variable {Op : Type u} {Reply : Op → Type v} {α β : Type w} {γ : Type*} {State : Type*}
  {exec : (op : Op) → State → State × Reply op}

/-- The script alone ends with a result after which `post` holds, or gives up where `failed`
does. -/
def Ensures (exec : (op : Op) → State → State × Reply op) (script : Script Op Reply α)
    (post : α → State → Prop) (failed : State → Prop) (state : State) : Prop :=
  match script.alone exec state with
  | (after, some result) => post result after
  | (after, none) => failed after

variable {script : Script Op Reply α} {rest : α → Script Op Reply β} {post : α → State → Prop}
  {failed : State → Prop} {state : State}

@[simp] theorem ensures_done {result : α} :
    (done result : Script Op Reply α).Ensures exec post failed state ↔ post result state := Iff.rfl

@[simp] theorem ensures_pure {result : α} :
    (pure result : Script Op Reply α).Ensures exec post failed state ↔ post result state := Iff.rfl

@[simp] theorem ensures_fail :
    (fail : Script Op Reply α).Ensures exec post failed state ↔ failed state := Iff.rfl

@[simp] theorem ensures_act {op : Op} {next : Reply op → Script Op Reply α} :
    (act op next).Ensures exec post failed state ↔
      (next (exec op state).2).Ensures exec post failed (exec op state).1 := Iff.rfl

theorem ensures_bind {post : β → State → Prop} :
    (script >>= rest).Ensures exec post failed state ↔
      script.Ensures exec (fun result ↦ (rest result).Ensures exec post failed) failed state := by
  unfold Ensures
  rw [alone_bind]
  cases script.alone exec state with
  | mk middle result =>
    cases result <;> rfl

theorem Ensures.imp {weaker : α → State → Prop} {weakerFailed : State → Prop}
    (hensures : script.Ensures exec post failed state)
    (hpost : ∀ result after, post result after → weaker result after)
    (hfailed : ∀ after, failed after → weakerFailed after) :
    script.Ensures exec weaker weakerFailed state := by
  unfold Ensures at hensures ⊢
  cases halone : script.alone exec state with
  | mk after result =>
    rw [halone] at hensures
    cases result with
    | none => exact hfailed after hensures
    | some result => exact hpost result after hensures

/-- One script after the other, with a condition in between. -/
theorem Ensures.bind {middle : α → State → Prop} {post : β → State → Prop}
    (hfirst : script.Ensures exec middle failed state)
    (hrest : ∀ result after, middle result after →
      (rest result).Ensures exec post failed after) :
    (script >>= rest).Ensures exec post failed state :=
  ensures_bind.mpr (hfirst.imp hrest fun _ h ↦ h)

/-- A loop keeps what every turn of it keeps. -/
theorem ensures_foldlM {items : List γ} {body : α → γ → Script Op Reply α} {start : α}
    (hbody : ∀ item ∈ items, ∀ gathered before, post gathered before →
      (body gathered item).Ensures exec post failed before)
    (hstart : post start state) : (items.foldlM body start).Ensures exec post failed state := by
  induction items generalizing start state with
  | nil => exact hstart
  | cons item items ih =>
    rw [List.foldlM_cons]
    refine (hbody item List.mem_cons_self start state hstart).bind fun gathered after hafter ↦ ?_
    exact ih (fun other hother ↦ hbody other (List.mem_cons_of_mem item hother)) hafter

/-- What a run that ended led to. -/
theorem Ensures.of_some {after : State} {result : α}
    (hensures : script.Ensures exec post failed state)
    (halone : script.alone exec state = (after, some result)) : post result after := by
  unfold Ensures at hensures
  rw [halone] at hensures
  exact hensures

/-- What a run that gave up led to. -/
theorem Ensures.of_none {after : State} (hensures : script.Ensures exec post failed state)
    (halone : script.alone exec state = (after, none)) : failed after := by
  unfold Ensures at hensures
  rw [halone] at hensures
  exact hensures

end Script

/-! ### Taking back what was added -/

section Removals

variable {ρ : Type*}

/-- The entries that no removal matches. -/
def unmatched (removals : List (ρ → Bool)) (table : List ρ) : List ρ :=
  table.filter fun entry ↦ removals.all fun removal ↦ !removal entry

theorem unmatched_cons (removal : ρ → Bool) (removals : List (ρ → Bool)) (table : List ρ) :
    unmatched (removal :: removals) table =
      unmatched removals (table.filter fun entry ↦ !removal entry) := by
  rw [unmatched, unmatched, List.filter_filter]
  refine List.filter_congr fun entry _ ↦ ?_
  rw [List.all_cons, Bool.and_comm]

/-- Removals that match everything that was added leave what they leave of the old table. -/
theorem unmatched_append {removals : List (ρ → Bool)} {table added : List ρ}
    (hadded : ∀ entry ∈ added, ∃ removal ∈ removals, removal entry = true) :
    unmatched removals (table ++ added) = unmatched removals table := by
  have hnone : unmatched removals added = [] := by
    refine List.filter_eq_nil_iff.mpr fun entry hentry hkept ↦ ?_
    obtain ⟨removal, hremoval, hmatch⟩ := hadded entry hentry
    have hall := List.all_eq_true.mp hkept removal hremoval
    rw [hmatch] at hall
    exact Bool.false_ne_true hall
  rw [unmatched, List.filter_append, ← unmatched, ← unmatched, hnone, List.append_nil]

/-- A table is left as it is by removals that match none of its entries, and by no others. -/
theorem unmatched_eq_self_iff {removals : List (ρ → Bool)} {table : List ρ} :
    unmatched removals table = table ↔
      ∀ entry ∈ table, ∀ removal ∈ removals, removal entry = false := by
  rw [unmatched, List.filter_eq_self]
  refine forall₂_congr fun entry _ ↦ ?_
  rw [List.all_eq_true]
  refine forall₂_congr fun removal _ ↦ ?_
  rw [Bool.not_eq_true']

end Removals

section Settings

variable {κ ν : Type*} [DecidableEq κ]

/-- A table with the saved value of one key. -/
def putBack (saved : Option (κ × ν)) (table : κ → ν) : κ → ν :=
  saved.elim table fun (key, value) ↦ Function.update table key value

/-- A table in which no other key was changed is the old one again exactly if the saved value was
the old one. -/
theorem putBack_eq_iff {saved : Option (κ × ν)} {now before : κ → ν}
    (hsame : ∀ key, (∀ value, saved ≠ some (key, value)) → now key = before key) :
    putBack saved now = before ↔ ∀ key value, saved = some (key, value) → before key = value := by
  cases saved with
  | none =>
    constructor
    · exact fun _ key value h ↦ absurd h.symm (Option.some_ne_none _)
    · intro _
      ext key
      exact hsame key fun value ↦ (Option.some_ne_none _).symm
  | some entry =>
    obtain ⟨key, value⟩ := entry
    show Function.update now key value = before ↔ _
    rw [Function.update_eq_iff]
    constructor
    · rintro ⟨hvalue, -⟩ other found hfound
      obtain ⟨rfl, rfl⟩ := Prod.mk.inj (Option.some.inj hfound)
      exact hvalue.symm
    · intro hvalue
      refine ⟨(hvalue key value rfl).symm, fun other hother ↦ hsame other fun found hfound ↦ ?_⟩
      exact hother (Prod.mk.inj (Option.some.inj hfound)).1.symm

end Settings

end EntroTunnel.Foundation
