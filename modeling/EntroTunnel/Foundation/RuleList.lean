import Mathlib.Data.List.Basic
import Mathlib.Data.List.Count

/-!
# Ordered lists of rules

A list of rules in which a rule is added at either end and deleted by its text: a deletion takes out
the first rule that is equal to it, whoever put it there. `append_diff` follows deletions through
rules that were added in front; from it, `append_diff_eq_iff` gives the exact condition under which
the old rules are left as they were, and `concat_erase_eq_iff` the one for a rule that was added at
the end.
-/

set_option autoImplicit false
set_option relaxedAutoImplicit false

namespace EntroTunnel.Foundation

variable {α : Type*} [BEq α] [LawfulBEq α]

/-- Deletions take out the rules in front first; what is deleted more often than it stands there is
deleted behind them. -/
theorem append_diff (added old deleted : List α) :
    (added ++ old).diff deleted = added.diff deleted ++ old.diff (deleted.diff added) := by
  induction deleted generalizing added old with
  | nil => rw [List.nil_diff, List.diff_nil, List.diff_nil, List.diff_nil]
  | cons rule rest ih =>
    by_cases hadded : rule ∈ added
    · rw [List.diff_cons, List.erase_append_left old hadded, ih, List.diff_cons,
        List.cons_diff_of_mem hadded]
    · rw [List.diff_cons, List.erase_append_right old hadded, ih, List.diff_cons,
        List.erase_of_not_mem hadded, List.cons_diff_of_not_mem hadded, List.diff_cons]

/-- Deletions that do not match leave the rules as they are. -/
theorem diff_eq_self {rules deleted : List α} (hnone : ∀ rule ∈ deleted, rule ∉ rules) :
    rules.diff deleted = rules := by
  induction deleted with
  | nil => exact List.diff_nil rules
  | cons rule rest ih =>
    rw [List.diff_cons, List.erase_of_not_mem (hnone rule List.mem_cons_self)]
    exact ih fun other hother ↦ hnone other (List.mem_cons_of_mem rule hother)

/-- Rules are added in front and deletions run: the old rules are left exactly if every rule is
deleted as often as it was added, or more often and then is not among the old ones. -/
theorem append_diff_eq_iff {added old deleted : List α} :
    (added ++ old).diff deleted = old ↔
      added.diff deleted = [] ∧ ∀ rule ∈ deleted.diff added, rule ∉ old := by
  constructor
  · intro hsame
    have hcount : ∀ rule, added.count rule + old.count rule - deleted.count rule =
        old.count rule := by
      intro rule
      rw [← List.count_append, ← List.count_diff, hsame]
    refine ⟨List.eq_nil_iff_forall_not_mem.mpr fun rule hrule ↦ ?_, fun rule hrule hold ↦ ?_⟩
    · have hleft := List.count_pos_iff.mpr hrule
      have hrules := hcount rule
      rw [List.count_diff] at hleft
      omega
    · have hdeleted := List.count_pos_iff.mpr hrule
      have hrules := hcount rule
      have hthere := List.count_pos_iff.mpr hold
      rw [List.count_diff] at hdeleted
      omega
  · rintro ⟨hadded, hnone⟩
    rw [append_diff, hadded, List.nil_append, diff_eq_self hnone]

omit [BEq α] [LawfulBEq α] in
theorem concat_eq_cons_iff {rule : α} {rules : List α} :
    rules ++ [rule] = rule :: rules ↔ ∀ other ∈ rules, other = rule := by
  induction rules with
  | nil => simp
  | cons first rest ih =>
    rw [List.cons_append, List.cons.injEq, List.forall_mem_cons]
    refine and_congr_right fun hfirst ↦ ?_
    rw [hfirst]
    exact ih

/-- A rule is added at the end and its first copy deleted: the list is left exactly if no other rule
stands behind a copy. -/
theorem concat_erase_eq_iff {rule : α} {rules : List α} :
    (rules ++ [rule]).erase rule = rules ↔ ∀ other ∈ rules.dropWhile (· != rule), other = rule := by
  induction rules with
  | nil => simp
  | cons first rest ih =>
    by_cases hfirst : first = rule
    · subst hfirst
      have hdrop : (first :: rest).dropWhile (· != first) = first :: rest := by simp
      rw [List.cons_append, List.erase_cons_head, hdrop, concat_eq_cons_iff, List.forall_mem_cons,
        eq_self, true_and]
    · have hdrop : (first :: rest).dropWhile (· != rule) = rest.dropWhile (· != rule) := by
        simp [hfirst]
      rw [List.cons_append, List.erase_cons_tail (by simpa using hfirst), hdrop, List.cons.injEq,
        ih, eq_self, true_and]

end EntroTunnel.Foundation
