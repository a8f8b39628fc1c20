import Mathlib.Data.List.Basic

/-!
# Lists as tables of places

A list in which an item is known by its place and keeps it: items are added at the end or replaced
where they stand. `getElem?_concat_eq_some` says what stands at a place after an item was added, and
`getElem?_set_of_eq_some` after the one at some place was replaced.
-/

set_option autoImplicit false
set_option relaxedAutoImplicit false

namespace EntroTunnel.Foundation

variable {α : Type*} {list : List α} {item found old : α} {place : ℕ}

/-- What stands at a place after an item was added is what stood there, or the item at the end. -/
theorem getElem?_concat_eq_some :
    (list ++ [item])[place]? = some found ↔
      list[place]? = some found ∨ place = list.length ∧ item = found := by
  constructor
  · intro hfound
    rw [List.getElem?_append] at hfound
    split_ifs at hfound with hbefore
    · exact .inl hfound
    · obtain ⟨hlast, hsame⟩ := List.getElem?_eq_some_iff.mp hfound
      rw [List.length_singleton] at hlast
      rw [List.getElem_singleton] at hsame
      exact .inr ⟨by omega, hsame⟩
  · rintro (hfound | ⟨rfl, rfl⟩)
    · rw [List.getElem?_append_left (List.getElem?_eq_some_iff.mp hfound).1, hfound]
    · exact List.getElem?_concat_length

/-- What stands at each place after the item that stood at one was replaced. -/
theorem getElem?_set_of_eq_some (hold : list[place]? = some old) (item : α) (other : ℕ) :
    (list.set place item)[other]? = if place = other then some item else list[other]? := by
  rw [List.getElem?_set]
  split_ifs with hsame hlength
  · rfl
  · exact absurd (List.getElem?_eq_some_iff.mp hold).1 hlength
  · rfl

end EntroTunnel.Foundation
