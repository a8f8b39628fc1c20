import Mathlib.Algebra.BigOperators.Fin
import Mathlib.Algebra.Order.BigOperators.Group.Finset
import Mathlib.Algebra.Order.BigOperators.Group.List
import Mathlib.Data.List.AList

/-!
# Sums over lists and tables

How a sum changes with one entry. `sum_set` changes an item of a list, `sum_insert` an entry of a
table: the new sum with the old value is the old sum with the new value. `sum_picked_le` says that
values picked at distinct places are together at most the sum over all places, and
`sum_add_picked_le` the same beside a part of every item. `add_sum_drop_deltas` telescopes the
differences of a list of growing totals, and `addU64` is a sum of 64 bits, which wraps around.
-/

set_option autoImplicit false
set_option relaxedAutoImplicit false

namespace EntroTunnel.Foundation

section Lists

variable {α : Type*} {items : List α} {place : ℕ} {old : α}

/-- The sum after one item is replaced. -/
theorem sum_set (value : α → ℕ) (hold : items[place]? = some old) (new : α) :
    ((items.set place new).map value).sum + value old = (items.map value).sum + value new := by
  induction items generalizing place with
  | nil => cases hold
  | cons first rest ih =>
    cases place with
    | zero =>
      obtain rfl := Option.some.inj hold
      simp only [List.set_cons_zero, List.map_cons, List.sum_cons]
      omega
    | succ place =>
      have hrest : ((rest.set place new).map value).sum + value old =
          (rest.map value).sum + value new := ih hold
      simp only [List.set_cons_succ, List.map_cons, List.sum_cons]
      omega

theorem sum_le_sum_set {value : α → ℕ} (hold : items[place]? = some old) {new : α}
    (hnew : value old ≤ value new) :
    (items.map value).sum ≤ ((items.set place new).map value).sum := by
  have hset := sum_set value hold new
  omega

theorem sum_map_eq_sum_range (value : α → ℕ) (items : List α) :
    (items.map value).sum =
      ∑ place ∈ Finset.range items.length, (items[place]?.map value).getD 0 := by
  induction items with
  | nil => rfl
  | cons first rest ih =>
    rw [List.map_cons, List.sum_cons, ih, List.length_cons, Finset.sum_range_succ']
    simp only [List.getElem?_cons_succ, List.getElem?_cons_zero, Option.map_some, Option.getD_some]
    exact Nat.add_comm _ _

/-- Values picked at distinct places of a list, none above the item's own, are together at most the
sum over the list. -/
theorem sum_picked_le {value : α → ℕ} {picked : List (ℕ × ℕ)}
    (hplaces : (picked.map Prod.fst).Nodup)
    (hpicked : ∀ pick ∈ picked, ∃ item, items[pick.1]? = some item ∧ pick.2 ≤ value item) :
    (picked.map Prod.snd).sum ≤ (items.map value).sum := by
  have hbelow : ∀ pick ∈ picked, pick.2 ≤ (items[pick.1]?.map value).getD 0 := by
    intro pick hmem
    obtain ⟨item, hitem, hle⟩ := hpicked pick hmem
    rwa [hitem, Option.map_some, Option.getD_some]
  calc (picked.map Prod.snd).sum
      ≤ (picked.map fun pick ↦ (items[pick.1]?.map value).getD 0).sum :=
        List.sum_le_sum hbelow
    _ = ((picked.map Prod.fst).map fun place ↦ (items[place]?.map value).getD 0).sum := by
        rw [List.map_map]
        rfl
    _ = ∑ place ∈ (picked.map Prod.fst).toFinset, (items[place]?.map value).getD 0 :=
        (List.sum_toFinset _ hplaces).symm
    _ ≤ ∑ place ∈ Finset.range items.length, (items[place]?.map value).getD 0 := by
        refine Finset.sum_le_sum_of_subset fun place hplace ↦ ?_
        obtain ⟨pick, hmem, rfl⟩ := List.mem_map.mp (List.mem_toFinset.mp hplace)
        obtain ⟨item, hitem, -⟩ := hpicked pick hmem
        exact Finset.mem_range.mpr (List.getElem?_eq_some_iff.mp hitem).1
    _ = (items.map value).sum := (sum_map_eq_sum_range value items).symm

/-- The same beside a part of each item: what is picked and the parts make at most the sum if they
do at every place. -/
theorem sum_add_picked_le {value part : α → ℕ} {picked : List (ℕ × ℕ)}
    (hplaces : (picked.map Prod.fst).Nodup) (hpart : ∀ item ∈ items, part item ≤ value item)
    (hpicked : ∀ pick ∈ picked, ∃ item, items[pick.1]? = some item ∧
      part item + pick.2 ≤ value item) :
    (items.map part).sum + (picked.map Prod.snd).sum ≤ (items.map value).sum := by
  have hrest : (picked.map Prod.snd).sum ≤ (items.map fun item ↦ value item - part item).sum := by
    refine sum_picked_le hplaces fun pick hmem ↦ ?_
    obtain ⟨item, hitem, hle⟩ := hpicked pick hmem
    exact ⟨item, hitem, by omega⟩
  calc (items.map part).sum + (picked.map Prod.snd).sum
      ≤ (items.map part).sum + (items.map fun item ↦ value item - part item).sum :=
        Nat.add_le_add_left hrest _
    _ = (items.map fun item ↦ part item + (value item - part item)).sum :=
        List.sum_map_add.symm
    _ = (items.map value).sum := by
        refine congrArg _ (List.map_congr_left fun item hmem ↦ ?_)
        exact Nat.add_sub_cancel' (hpart item hmem)

end Lists

section Tables

variable {κ β : Type*} [DecidableEq κ]

theorem sum_kerase (value : (Σ _ : κ, β) → ℕ) (entries : List (Σ _ : κ, β)) (key : κ) :
    ((entries.kerase key).map value).sum + ((entries.dlookup key).map (value ⟨key, ·⟩)).getD 0 =
      (entries.map value).sum := by
  induction entries with
  | nil => rfl
  | cons entry rest ih =>
    by_cases hkey : key = entry.1
    · obtain ⟨first, content⟩ := entry
      obtain rfl : key = first := hkey
      have herased : (⟨key, content⟩ :: rest : List (Σ _ : κ, β)).kerase key = rest :=
        List.kerase_cons_eq rfl
      rw [herased, List.dlookup_cons_eq, Option.map_some, Option.getD_some, List.map_cons,
        List.sum_cons, Nat.add_comm]
    · rw [List.kerase_cons_ne hkey, List.dlookup_cons_ne _ _ hkey, List.map_cons, List.sum_cons,
        List.map_cons, List.sum_cons, Nat.add_assoc, ih]

/-- The sum after an entry is put into a table. -/
theorem sum_insert (value : (Σ _ : κ, β) → ℕ) (table : AList fun _ : κ ↦ β) (key : κ)
    (content : β) :
    ((table.insert key content).entries.map value).sum +
        ((table.lookup key).map (value ⟨key, ·⟩)).getD 0 =
      (table.entries.map value).sum + value ⟨key, content⟩ := by
  have hkerase := sum_kerase value table.entries key
  rw [AList.entries_insert, List.map_cons, List.sum_cons, ← hkerase, AList.lookup]
  omega

end Tables

section Totals

/-- The sum of two counters of 64 bits. -/
def addU64 (first second : ℕ) : ℕ :=
  (first + second) % UInt64.size

theorem addU64_of_lt {first second : ℕ} (hfits : first + second < UInt64.size) :
    addU64 first second = first + second :=
  Nat.mod_eq_of_lt hfits

/-- The differences of totals, each to the one before it. -/
def deltas : ℕ → List ℕ → List ℕ
  | _, [] => []
  | previous, total :: rest => (total - previous) :: deltas total rest

/-- The differences of growing totals from some place on lead from the total before it to the last
one. -/
theorem add_sum_drop_deltas {previous : ℕ} {totals : List ℕ}
    (hgrow : (previous :: totals).Pairwise (· ≤ ·)) (count : ℕ) :
    (totals.take count).getLast?.getD previous + ((deltas previous totals).drop count).sum =
      totals.getLast?.getD previous := by
  induction totals generalizing previous count with
  | nil => simp [deltas]
  | cons total rest ih =>
    obtain ⟨hfirst, hrest⟩ := List.pairwise_cons.mp hgrow
    rw [List.getLast?_cons, Option.getD_some]
    cases count with
    | zero =>
      have hlater := ih hrest 0
      have hle := hfirst total List.mem_cons_self
      rw [List.take_zero, List.getLast?_nil, Option.getD_none, List.drop_zero] at hlater ⊢
      rw [deltas, List.sum_cons]
      omega
    | succ count =>
      rw [List.take_succ_cons, List.getLast?_cons, Option.getD_some, deltas, List.drop_succ_cons]
      exact ih hrest count

end Totals

end EntroTunnel.Foundation
