import Mathlib.Data.List.Basic

/-!
# Positional writes into a file

Several writers may have one file open, each at a position of its own. `writeAt` puts a chunk at a
position; a gap that a truncation by another writer left is filled with a blank. `Agrees text upto
file` says that the file starts with the first bytes of a text. When all writers write the same
text, each piece at its own place, a write never spoils what agrees (`Agrees.writeAt`), and a write
at the end of what agrees extends it (`Agrees.extend`). A single writer leaves a beginning of its
text (`writeAt_take`).
-/

set_option autoImplicit false
set_option relaxedAutoImplicit false

namespace EntroTunnel.Foundation

variable {α : Type*}

/-- Writes a chunk at a position. -/
def writeAt (blank : α) (file : List α) (offset : ℕ) (chunk : List α) : List α :=
  file.take offset ++ List.replicate (offset - file.length) blank ++ chunk ++
    file.drop (offset + chunk.length)

/-- The piece of a text at a position. -/
def piece (text : List α) (offset count : ℕ) : List α :=
  (text.drop offset).take count

theorem length_piece {text : List α} {offset count : ℕ} (hfits : offset + count ≤ text.length) :
    (piece text offset count).length = count := by
  rw [piece, List.length_take, List.length_drop]
  omega

theorem getElem?_piece {text : List α} {offset count index : ℕ} (hindex : index < count) :
    (piece text offset count)[index]? = text[offset + index]? := by
  rw [piece, List.getElem?_take_of_lt hindex, List.getElem?_drop]

theorem length_before (blank : α) (file : List α) (offset : ℕ) :
    (file.take offset ++ List.replicate (offset - file.length) blank).length = offset := by
  rw [List.length_append, List.length_take, List.length_replicate]
  omega

/-- A write of a piece leaves the file no longer than the text. -/
theorem length_writeAt_le {blank : α} {file text : List α} {offset count : ℕ}
    (hfits : offset + count ≤ text.length) (hfile : file.length ≤ text.length) :
    (writeAt blank file offset (piece text offset count)).length ≤ text.length := by
  rw [writeAt, List.length_append, List.length_append, length_before, length_piece hfits,
    List.length_drop]
  omega

/-- The bytes of the file in front of the chunk. -/
theorem getElem?_writeAt_before {blank : α} {file chunk : List α} {offset index : ℕ}
    (hindex : index < offset) (hfile : index < file.length) :
    (writeAt blank file offset chunk)[index]? = file[index]? := by
  have hbefore := length_before blank file offset
  rw [writeAt, List.append_assoc, List.getElem?_append_left (by omega),
    List.getElem?_append_left (by rw [List.length_take]; omega), List.getElem?_take_of_lt hindex]

/-- The bytes of the chunk. -/
theorem getElem?_writeAt_chunk {blank : α} {file chunk : List α} {offset index : ℕ}
    (hindex : index < chunk.length) :
    (writeAt blank file offset chunk)[offset + index]? = chunk[index]? := by
  have hbefore := length_before blank file offset
  rw [writeAt, List.append_assoc, List.getElem?_append_right (by omega), hbefore,
    Nat.add_sub_cancel_left, List.getElem?_append_left hindex]

/-- The bytes of the file behind the chunk. -/
theorem getElem?_writeAt_after {blank : α} {file chunk : List α} {offset index : ℕ}
    (hindex : offset + chunk.length ≤ index) :
    (writeAt blank file offset chunk)[index]? = file[index]? := by
  have hbefore := length_before blank file offset
  rw [writeAt, List.getElem?_append_right (by rw [List.length_append]; omega), List.length_append,
    hbefore, List.getElem?_drop, Nat.add_sub_cancel' hindex]

/-- The first bytes of the file are those of the text. -/
def Agrees (text : List α) (upto : ℕ) (file : List α) : Prop :=
  ∀ index < upto, file[index]? = text[index]?

namespace Agrees

variable {blank : α} {text file : List α} {upto offset count : ℕ}

/-- A write of a piece keeps what agrees. -/
protected theorem writeAt (hagrees : Agrees text upto file) (hupto : upto ≤ text.length)
    (hfits : offset + count ≤ text.length) :
    Agrees text upto (writeAt blank file offset (piece text offset count)) := by
  intro index hindex
  have hlength := length_piece hfits
  have hinside : index < file.length := by
    by_contra hout
    have hnone := hagrees index hindex
    rw [List.getElem?_eq_none (Nat.not_lt.mp hout), eq_comm, List.getElem?_eq_none_iff] at hnone
    omega
  by_cases hbefore : index < offset
  · rw [getElem?_writeAt_before hbefore hinside]
    exact hagrees index hindex
  · obtain ⟨place, rfl⟩ := Nat.exists_eq_add_of_le (Nat.not_lt.mp hbefore)
    by_cases hplace : place < count
    · rw [getElem?_writeAt_chunk (by omega), getElem?_piece hplace]
    · rw [getElem?_writeAt_after (by omega)]
      exact hagrees _ hindex

/-- A write at the end of what agrees extends it. -/
theorem extend (hagrees : Agrees text offset file) (hfits : offset + count ≤ text.length) :
    Agrees text (offset + count) (writeAt blank file offset (piece text offset count)) := by
  intro index hindex
  have hlength := length_piece hfits
  by_cases hbefore : index < offset
  · exact hagrees.writeAt (by omega) hfits index hbefore
  · obtain ⟨place, rfl⟩ := Nat.exists_eq_add_of_le (Nat.not_lt.mp hbefore)
    rw [getElem?_writeAt_chunk (by omega), getElem?_piece (by omega)]

/-- A file that agrees with the whole text and is no longer than it is the text. -/
theorem eq_text (hagrees : Agrees text text.length file) (hfile : file.length ≤ text.length) :
    file = text := by
  refine List.ext_getElem? fun index ↦ ?_
  by_cases hindex : index < text.length
  · exact hagrees index hindex
  · rw [List.getElem?_eq_none (by omega), List.getElem?_eq_none (by omega)]

theorem self (text : List α) (upto : ℕ) : Agrees text upto text := fun _ _ ↦ rfl

end Agrees

/-- Writing a piece of the text that is already there changes nothing. -/
theorem writeAt_self {blank : α} {text : List α} {offset count : ℕ}
    (hfits : offset + count ≤ text.length) :
    writeAt blank text offset (piece text offset count) = text :=
  ((Agrees.self text text.length).writeAt (Nat.le_refl _) hfits).eq_text
    (length_writeAt_le hfits (Nat.le_refl _))

/-- A single writer that goes on where it stopped has written a longer beginning of its text. -/
theorem writeAt_take {blank : α} {text : List α} {offset count : ℕ}
    (hfits : offset + count ≤ text.length) :
    writeAt blank (text.take offset) offset (piece text offset count) =
      text.take (offset + count) := by
  have hlength : (text.take offset).length = offset := by
    rw [List.length_take]
    omega
  rw [writeAt, hlength, Nat.sub_self, List.replicate_zero, List.append_nil, List.take_take,
    Nat.min_self, List.drop_eq_nil_of_le (by omega), List.append_nil, List.take_add, piece]

end EntroTunnel.Foundation
