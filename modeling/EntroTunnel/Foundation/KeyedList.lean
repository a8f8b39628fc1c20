import Mathlib.Data.List.Nodup

/-!
# Lists with keys

A list in which an item is found by its key, always the first with that key. `upsert` replaces the
item that is found, or adds the new one at the end. `find?_upsert` says what is found afterwards and
`filter_upsert` that items under other keys stay as they are, in their order; `nodup_upsert` keeps
the keys distinct. `find?_foldl_upsert`, `filter_foldl_upsert` and `nodup_foldl_upsert` say the same
of a batch, in which the last item under a key wins.
-/

set_option autoImplicit false
set_option relaxedAutoImplicit false

namespace EntroTunnel.Foundation

section Upsert

variable {α κ : Type*} [DecidableEq κ] (key : α → κ)

/-- Put an item in the place of the first one with its key, or at the end. -/
def upsert (item : α) : List α → List α
  | [] => [item]
  | first :: rest => if key first = key item then item :: rest else first :: upsert item rest

theorem map_upsert (item : α) (list : List α) :
    (upsert key item list).map key =
      if key item ∈ list.map key then list.map key else list.map key ++ [key item] := by
  induction list with
  | nil => simp [upsert]
  | cons first rest ih =>
    by_cases hfirst : key first = key item
    · simp [upsert, hfirst]
    · have hmem : key item ∈ (first :: rest).map key ↔ key item ∈ rest.map key := by
        rw [List.map_cons, List.mem_cons, or_iff_right (Ne.symm hfirst)]
      rw [upsert, if_neg hfirst, List.map_cons, ih]
      by_cases hitem : key item ∈ rest.map key
      · rw [if_pos hitem, if_pos (hmem.mpr hitem), List.map_cons]
      · rw [if_neg hitem, if_neg (mt hmem.mp hitem), List.map_cons, List.cons_append]

theorem nodup_upsert {item : α} {list : List α} (hlist : (list.map key).Nodup) :
    ((upsert key item list).map key).Nodup := by
  rw [map_upsert]
  split_ifs with hmem
  · exact hlist
  · exact List.nodup_append.mpr ⟨hlist, List.nodup_singleton _, fun _ h _ h' ↦
      (List.mem_singleton.mp h').symm ▸ fun heq ↦ hmem (heq ▸ h)⟩

theorem find?_upsert (item : α) (list : List α) (sought : κ) :
    ((upsert key item list).find? fun other ↦ key other = sought) =
      if key item = sought then some item else list.find? fun other ↦ key other = sought := by
  induction list with
  | nil => simp [upsert, List.find?_singleton]
  | cons first rest ih =>
    by_cases hfirst : key first = key item <;> by_cases hsought : key item = sought
    · simp [upsert, hfirst, hsought]
    · simp [upsert, hfirst, hsought]
    · simp only [upsert, if_neg hfirst, List.find?_cons, ih, if_pos hsought]
      simp [hsought ▸ hfirst]
    · simp only [upsert, if_neg hfirst, List.find?_cons, ih, if_neg hsought]

/-- Items that a test under other keys selects stay as they are. -/
theorem filter_upsert {item : α} {keep : α → Bool}
    (hkeep : ∀ other, key other = key item → keep other = false) (list : List α) :
    (upsert key item list).filter keep = list.filter keep := by
  have hitem := hkeep item rfl
  induction list with
  | nil => simp [upsert, hitem]
  | cons first rest ih =>
    by_cases hfirst : key first = key item
    · simp [upsert, hfirst, hitem, hkeep first hfirst]
    · simp [upsert, hfirst, List.filter_cons, ih]

theorem nodup_foldl_upsert {items list : List α} (hlist : (list.map key).Nodup) :
    ((items.foldl (fun list item ↦ upsert key item list) list).map key).Nodup := by
  induction items generalizing list with
  | nil => exact hlist
  | cons item rest ih => exact ih (nodup_upsert key hlist)

/-- The last item of a batch under a key wins. -/
theorem find?_foldl_upsert (items list : List α) (sought : κ) :
    ((items.foldl (fun list item ↦ upsert key item list) list).find?
        fun other ↦ key other = sought) =
      (items.reverse.find? fun other ↦ key other = sought).or
        (list.find? fun other ↦ key other = sought) := by
  induction items generalizing list with
  | nil => rfl
  | cons item rest ih =>
    rw [List.foldl_cons, ih, find?_upsert, List.reverse_cons, List.find?_append]
    by_cases hitem : key item = sought <;>
      cases rest.reverse.find? fun other ↦ key other = sought <;> simp [hitem]

theorem filter_foldl_upsert {items : List α} {keep : α → Bool}
    (hkeep : ∀ item ∈ items, ∀ other, key other = key item → keep other = false) (list : List α) :
    (items.foldl (fun list item ↦ upsert key item list) list).filter keep = list.filter keep := by
  induction items generalizing list with
  | nil => rfl
  | cons item rest ih =>
    rw [List.foldl_cons, ih fun other h ↦ hkeep other (List.mem_cons_of_mem _ h)]
    exact filter_upsert key (hkeep item List.mem_cons_self) list

end Upsert

end EntroTunnel.Foundation
