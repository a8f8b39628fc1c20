import Mathlib.Logic.Function.Basic

/-!
# Assignments to a store of settings

A store has a value for every key, and a list of writes assigns values in order.
`assign_eq_self_iff` is the rule for writes that leave everything as it was: each write has the
value that was there, unless a later one of the list writes the same key. Where no key is written
with two values, `assign_eq_self_iff_forall` says so of all writes at once.
-/

set_option autoImplicit false
set_option relaxedAutoImplicit false

namespace EntroTunnel.Foundation

variable {κ ν : Type*} [DecidableEq κ]

/-- Writes in order. -/
def assign : List (κ × ν) → (κ → ν) → κ → ν
  | [], store => store
  | (key, value) :: rest, store => assign rest (Function.update store key value)

theorem assign_append (first second : List (κ × ν)) (store : κ → ν) :
    assign (first ++ second) store = assign second (assign first store) := by
  induction first generalizing store with
  | nil => rfl
  | cons write rest ih => exact ih _

/-- A key that is not written keeps its value. -/
theorem assign_of_not_mem {writes : List (κ × ν)} {key : κ} (hkey : key ∉ writes.map Prod.fst)
    (store : κ → ν) : assign writes store key = store key := by
  induction writes generalizing store with
  | nil => rfl
  | cons write rest ih =>
    rw [List.map_cons, List.mem_cons, not_or] at hkey
    rw [assign, ih hkey.2, Function.update_of_ne hkey.1]

/-- A key that is written has a value that does not depend on the store. -/
theorem assign_of_mem {writes : List (κ × ν)} {key : κ} (hkey : key ∈ writes.map Prod.fst)
    (first second : κ → ν) : assign writes first key = assign writes second key := by
  induction writes generalizing first second with
  | nil => exact absurd hkey List.not_mem_nil
  | cons write rest ih =>
    by_cases hrest : key ∈ rest.map Prod.fst
    · exact ih hrest _ _
    · obtain rfl : key = write.1 := by
        rw [List.map_cons, List.mem_cons] at hkey
        exact hkey.resolve_right hrest
      simp only [assign, assign_of_not_mem hrest, Function.update_self]

@[simp] theorem assign_nil_eq_self (store : κ → ν) : assign [] store = store ↔ True :=
  iff_true_intro rfl

/-- Writes leave everything as it was when the first does, unless its key is written again, and the
others do. -/
theorem assign_eq_self_iff (key : κ) (value : ν) (rest : List (κ × ν)) (store : κ → ν) :
    assign ((key, value) :: rest) store = store ↔
      (key ∉ rest.map Prod.fst → store key = value) ∧ assign rest store = store := by
  have hothers : ∀ other, other ≠ key ∨ other ∈ rest.map Prod.fst →
      assign ((key, value) :: rest) store other = assign rest store other := by
    intro other hother
    by_cases hmem : other ∈ rest.map Prod.fst
    · exact assign_of_mem hmem _ _
    · rw [assign, assign_of_not_mem hmem, assign_of_not_mem hmem,
        Function.update_of_ne (hother.resolve_right hmem)]
  constructor
  · intro hself
    refine ⟨fun hkey ↦ ?_, funext fun other ↦ ?_⟩
    · rw [← congrFun hself key, assign, assign_of_not_mem hkey, Function.update_self]
    · by_cases hmem : other ∈ rest.map Prod.fst
      · rw [← hothers other (Or.inr hmem), hself]
      · exact assign_of_not_mem hmem store
  · rintro ⟨hkey, hrest⟩
    refine funext fun other ↦ ?_
    by_cases hother : other ≠ key ∨ other ∈ rest.map Prod.fst
    · rw [hothers other hother, hrest]
    · rw [not_or, not_not] at hother
      obtain ⟨rfl, hmem⟩ := hother
      rw [assign, assign_of_not_mem hmem, Function.update_self, hkey hmem]

/-- Writes that give a key the same value each time leave everything as it was exactly if each has
the value that was there. -/
theorem assign_eq_self_iff_forall {writes : List (κ × ν)} {value : κ → ν}
    (hvalue : ∀ write ∈ writes, write.2 = value write.1) (store : κ → ν) :
    assign writes store = store ↔ ∀ write ∈ writes, store write.1 = write.2 := by
  induction writes with
  | nil => simp
  | cons write rest ih =>
    have hrest := fun other hother ↦ hvalue other (List.mem_cons_of_mem write hother)
    rw [assign_eq_self_iff, ih hrest, List.forall_mem_cons]
    refine and_congr_left fun hall ↦ ⟨fun hlast ↦ ?_, fun hwrite _ ↦ hwrite⟩
    by_cases hmem : write.1 ∈ rest.map Prod.fst
    · obtain ⟨other, hother, hkey⟩ := List.mem_map.mp hmem
      rw [hvalue write List.mem_cons_self, ← hkey, ← hrest other hother]
      exact hall other hother
    · exact hlast hmem

/-- After writes that give a key the same value each time, a key that is written has its value. -/
theorem assign_eq_of_mem {writes : List (κ × ν)} {value : κ → ν}
    (hvalue : ∀ write ∈ writes, write.2 = value write.1) (store : κ → ν) {write : κ × ν}
    (hwrite : write ∈ writes) : assign writes store write.1 = write.2 := by
  have hsame : assign writes value = value :=
    (assign_eq_self_iff_forall hvalue value).mpr fun other hother ↦ (hvalue other hother).symm
  rw [assign_of_mem (List.mem_map_of_mem hwrite) store value, hsame, hvalue write hwrite]

/-- Writes that are made only if a condition holds. -/
theorem assign_if (taken : Prop) [Decidable taken] (block : List (κ × ν)) (store : κ → ν) :
    (if taken then assign block store else store) =
      assign (if taken then block else []) store := by
  by_cases htaken : taken
  · rw [if_pos htaken, if_pos htaken]
  · rw [if_neg htaken, if_neg htaken]
    rfl

/-- The rule for a block of writes to distinct keys that may be left out. -/
theorem assign_block_eq_self_iff {block : List (κ × ν)} (hblock : (block.map Prod.fst).Nodup)
    (taken : Prop) [Decidable taken] (rest : List (κ × ν)) (store : κ → ν) :
    assign ((if taken then block else []) ++ rest) store = store ↔
      (taken → ∀ write ∈ block, write.1 ∉ rest.map Prod.fst → store write.1 = write.2) ∧
        assign rest store = store := by
  by_cases htaken : taken
  · rw [if_pos htaken]
    induction block with
    | nil => simp
    | cons write others ih =>
      rw [List.map_cons, List.nodup_cons] at hblock
      rw [List.cons_append, assign_eq_self_iff, ih hblock.2, List.map_append, List.mem_append,
        List.forall_mem_cons]
      simp only [hblock.1, htaken, false_or, forall_const]
      rw [and_assoc]
  · rw [if_neg htaken, List.nil_append]
    simp [htaken]

end EntroTunnel.Foundation
