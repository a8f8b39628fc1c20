import Mathlib.Data.List.Nodup

/-!
# Installing entries into a keyed table and taking them out again

A table is a list of entries with keys. `addNew` appends an entry unless its key is already
present, and `installed` is what a list of attempts adds, each attempt possibly refused for a reason
of its own. `undoAll` runs a list of removals; each removes the first entry it matches, whoever put
it there.

`mem_installed` says which attempts of a list take effect. A removal
recorded for an entry that was added takes out that entry; a removal recorded although the entry was
not added takes out an entry that was there before. `undoAll_append` separates the two: the removals
act on the old part of the table as they would on the old table alone, and what they leave of the
added part matches none of the removals that have no match in the old part. From it,
`filter_undoAll_append` gives the kept entries after installing and undoing, and
`filter_undoAll_eq_iff` the exact condition under which they are the kept entries of before: the
first old match of every removal, if there is one, is an entry that is not kept.
-/

set_option autoImplicit false
set_option relaxedAutoImplicit false

namespace EntroTunnel.Foundation

variable {ρ κ : Type*} {dst : ρ → κ}

/-! ### Installing -/

section Installing

variable [DecidableEq κ]

/-- Append an entry; refused when its key is already present. -/
def addNew (dst : ρ → κ) (table : List ρ) (entry : ρ) : Option (List ρ) :=
  if dst entry ∈ table.map dst then none else some (table ++ [entry])

/-- What a list of attempts adds to a table, in order. An attempt marked `true` is refused; any
other takes effect unless its key is already present. -/
def installed (dst : ρ → κ) (table : List ρ) : List (Bool × ρ) → List ρ
  | [] => []
  | (refused, entry) :: rest =>
    if refused = true ∨ dst entry ∈ table.map dst then installed dst table rest
    else entry :: installed dst (table ++ [entry]) rest

/-- An installed entry has a key that the table did not have. -/
theorem dst_notMem_of_mem_installed {table : List ρ} {attempts : List (Bool × ρ)} {entry : ρ}
    (hentry : entry ∈ installed dst table attempts) : dst entry ∉ table.map dst := by
  induction attempts generalizing table with
  | nil => exact absurd hentry List.not_mem_nil
  | cons attempt rest ih =>
    obtain ⟨refused, first⟩ := attempt
    rw [installed] at hentry
    split_ifs at hentry with hblocked
    · exact ih hentry
    · rcases List.mem_cons.mp hentry with rfl | hrest
      · exact fun hkey ↦ hblocked (Or.inr hkey)
      · exact fun hkey ↦ ih hrest (by simp [List.mem_map.mp hkey])

/-- Installed entries have pairwise distinct keys. -/
theorem nodup_map_installed (table : List ρ) (attempts : List (Bool × ρ)) :
    ((installed dst table attempts).map dst).Nodup := by
  induction attempts generalizing table with
  | nil => exact List.nodup_nil
  | cons attempt rest ih =>
    obtain ⟨refused, entry⟩ := attempt
    rw [installed]
    split_ifs
    · exact ih table
    · refine List.nodup_cons.mpr ⟨fun hkey ↦ ?_, ih (table ++ [entry])⟩
      obtain ⟨other, hother, hsame⟩ := List.mem_map.mp hkey
      exact dst_notMem_of_mem_installed hother (by simp [hsame])

/-- Attempts made one after the other add what they add to the table as it is by then. -/
theorem installed_append (table : List ρ) (first second : List (Bool × ρ)) :
    installed dst table (first ++ second) =
      installed dst table first ++ installed dst (table ++ installed dst table first) second := by
  induction first generalizing table with
  | nil => simp [installed]
  | cons attempt rest ih =>
    obtain ⟨refused, entry⟩ := attempt
    rw [List.cons_append, installed, installed]
    split_ifs
    · exact ih table
    · rw [ih (table ++ [entry]), List.cons_append, List.append_assoc, List.singleton_append]

/-- Only attempts that are not refused take effect. -/
theorem mem_attempts_of_mem_installed {table : List ρ} {attempts : List (Bool × ρ)} {entry : ρ}
    (hentry : entry ∈ installed dst table attempts) : (false, entry) ∈ attempts := by
  induction attempts generalizing table with
  | nil => exact absurd hentry List.not_mem_nil
  | cons attempt rest ih =>
    obtain ⟨refused, first⟩ := attempt
    rw [installed] at hentry
    split_ifs at hentry with hblocked
    · exact List.mem_cons_of_mem _ (ih hentry)
    · rcases List.mem_cons.mp hentry with rfl | hrest
      · have hopen : refused = false := by simpa using fun h ↦ hblocked (Or.inl h)
        rw [hopen]
        exact List.mem_cons_self
      · exact List.mem_cons_of_mem _ (ih hrest)

/-- After an attempt that is not refused, a key that the table lacked is installed, by this attempt
or by an earlier one. -/
theorem exists_installed_of_attempt {table : List ρ} {attempts : List (Bool × ρ)} {entry : ρ}
    (hattempt : (false, entry) ∈ attempts) (hkey : dst entry ∉ table.map dst) :
    ∃ other ∈ installed dst table attempts, dst other = dst entry := by
  induction attempts generalizing table with
  | nil => exact absurd hattempt List.not_mem_nil
  | cons attempt rest ih =>
    obtain ⟨refused, first⟩ := attempt
    rw [installed]
    rcases List.mem_cons.mp hattempt with hhead | hrest
    · obtain ⟨rfl, rfl⟩ := Prod.mk.inj hhead
      rw [if_neg (by simpa using hkey)]
      exact ⟨entry, List.mem_cons_self, rfl⟩
    · split_ifs with hblocked
      · exact ih hrest hkey
      · by_cases hsame : dst entry = dst first
        · exact ⟨first, List.mem_cons_self, hsame.symm⟩
        · have hkeyNext : dst entry ∉ (table ++ [first]).map dst := by
            rw [List.map_append, List.mem_append, List.map_singleton, List.mem_singleton]
            exact fun h ↦ h.elim hkey hsame
          obtain ⟨other, hother, hdst⟩ := ih hrest hkeyNext
          exact ⟨other, List.mem_cons_of_mem _ hother, hdst⟩

/-- Which attempts take effect: those that are not refused and whose key is not in the table.
Assumes: attempts with one key that are not refused agree on the entry. -/
theorem mem_installed {table : List ρ} {attempts : List (Bool × ρ)}
    (hunique : ∀ first second, (false, first) ∈ attempts → (false, second) ∈ attempts →
      dst first = dst second → first = second)
    {entry : ρ} : entry ∈ installed dst table attempts ↔
      (false, entry) ∈ attempts ∧ dst entry ∉ table.map dst := by
  constructor
  · exact fun hentry ↦
      ⟨mem_attempts_of_mem_installed hentry, dst_notMem_of_mem_installed hentry⟩
  · rintro ⟨hattempt, hkey⟩
    obtain ⟨other, hother, hdst⟩ := exists_installed_of_attempt hattempt hkey
    rw [hunique entry other hattempt (mem_attempts_of_mem_installed hother) hdst.symm]
    exact hother

end Installing

/-! ### Undoing -/

/-- Run removals in order; each removes the first entry it matches, if any. -/
def undoAll (removals : List (ρ → Bool)) (table : List ρ) : List ρ :=
  removals.foldl (fun table removal ↦ table.eraseP removal) table

@[simp] theorem undoAll_nil (table : List ρ) : undoAll [] table = table := rfl

@[simp] theorem undoAll_cons (removal : ρ → Bool) (rest : List (ρ → Bool)) (table : List ρ) :
    undoAll (removal :: rest) table = undoAll rest (table.eraseP removal) := rfl

theorem undoAll_sublist (removals : List (ρ → Bool)) (table : List ρ) :
    (undoAll removals table).Sublist table := by
  induction removals generalizing table with
  | nil => exact List.Sublist.refl table
  | cons removal rest ih => exact (ih _).trans List.eraseP_sublist

/-- Removals without a match leave the table as it is. -/
theorem undoAll_eq_self {removals : List (ρ → Bool)} {table : List ρ}
    (hnone : ∀ removal ∈ removals, ∀ entry ∈ table, removal entry = false) :
    undoAll removals table = table := by
  induction removals with
  | nil => rfl
  | cons removal rest ih =>
    have hfirst : table.eraseP removal = table := List.eraseP_of_forall_not fun entry hentry ↦ by
      simp [hnone removal List.mem_cons_self entry hentry]
    rw [undoAll_cons, hfirst]
    exact ih fun other hother ↦ hnone other (List.mem_cons_of_mem _ hother)

/-- In a list with pairwise distinct keys a removal leaves nothing that it matches. Assumes: the
removal matches entries of one key only. -/
theorem eraseP_not_matched {table : List ρ} {removal : ρ → Bool}
    (hdistinct : (table.map dst).Nodup)
    (hkey : ∀ first second, removal first = true → removal second = true → dst first = dst second)
    {entry : ρ} (hentry : entry ∈ table.eraseP removal) : removal entry = false := by
  by_contra hmatch
  rw [Bool.not_eq_false] at hmatch
  obtain ⟨first, before, after, hbefore, hfirst, htable, herased⟩ :=
    List.exists_of_eraseP (List.mem_of_mem_eraseP hentry) hmatch
  have hsame : first = entry := List.inj_on_of_nodup_map hdistinct
    (htable ▸ List.mem_append_right _ List.mem_cons_self) (List.mem_of_mem_eraseP hentry)
    (hkey first entry hfirst hmatch)
  have hnodup : (before ++ first :: after).Nodup := htable ▸ hdistinct.of_map dst
  rw [herased, List.mem_append] at hentry
  rcases hentry with h | h
  · exact hbefore entry h hmatch
  · exact (List.nodup_cons.mp (List.nodup_append.mp hnodup).2.1).1 (hsame ▸ h)

/-- Removals on an old table with added entries: on the old part they act as on the old table
alone, and what is left of the added part matches no removal without a match in the old part.
Assumes: the added entries have pairwise distinct keys, and every removal matches entries of one key
only. -/
theorem undoAll_append (removals : List (ρ → Bool)) (old added : List ρ)
    (hdistinct : (added.map dst).Nodup)
    (hkey : ∀ removal ∈ removals, ∀ first second, removal first = true → removal second = true →
      dst first = dst second) :
    ∃ left : List ρ, left.Sublist added ∧
      undoAll removals (old ++ added) = undoAll removals old ++ left ∧
      ∀ removal ∈ removals, (∀ entry ∈ old, removal entry = false) →
        ∀ entry ∈ left, removal entry = false := by
  induction removals generalizing old added with
  | nil => exact ⟨added, List.Sublist.refl added, rfl, fun _ h ↦ absurd h List.not_mem_nil⟩
  | cons removal rest ih =>
    have hrest := fun other hother ↦ hkey other (List.mem_cons_of_mem removal hother)
    by_cases hold : ∃ entry ∈ old, removal entry = true
    · obtain ⟨entry, hmem, hmatch⟩ := hold
      obtain ⟨left, hleft, heq, hclear⟩ := ih (old.eraseP removal) added hdistinct hrest
      refine ⟨left, hleft, ?_, fun other hother hnone ↦ ?_⟩
      · rw [undoAll_cons, undoAll_cons, List.eraseP_append_left hmatch added hmem]
        exact heq
      · rcases List.mem_cons.mp hother with rfl | hother
        · exact absurd hmatch (by simp [hnone entry hmem])
        · exact hclear other hother fun entry hentry ↦ hnone entry (List.mem_of_mem_eraseP hentry)
    · have hunmatched : ∀ entry ∈ old, ¬ removal entry = true := fun entry hentry hmatch ↦
        hold ⟨entry, hentry, hmatch⟩
      have herased : ((added.eraseP removal).map dst).Nodup :=
        hdistinct.sublist (List.eraseP_sublist.map dst)
      obtain ⟨left, hleft, heq, hclear⟩ := ih old (added.eraseP removal) herased hrest
      refine ⟨left, hleft.trans List.eraseP_sublist, ?_, fun other hother hnone ↦ ?_⟩
      · rw [undoAll_cons, undoAll_cons, List.eraseP_append_right added hunmatched,
          List.eraseP_of_forall_not hunmatched]
        exact heq
      · rcases List.mem_cons.mp hother with rfl | hother
        · exact fun entry hentry ↦ eraseP_not_matched hdistinct
            (hkey other List.mem_cons_self) (hleft.subset hentry)
        · exact hclear other hother hnone

/-- The kept entries after entries were added and removals run are those of the old table after the
removals alone. Assumes: every kept entry that was added is matched by a removal without a match in
the old table. -/
theorem filter_undoAll_append {removals : List (ρ → Bool)} {old added : List ρ} {keep : ρ → Bool}
    (hdistinct : (added.map dst).Nodup)
    (hkey : ∀ removal ∈ removals, ∀ first second, removal first = true → removal second = true →
      dst first = dst second)
    (hundone : ∀ entry ∈ added, keep entry = true → ∃ removal ∈ removals,
      removal entry = true ∧ ∀ other ∈ old, removal other = false) :
    (undoAll removals (old ++ added)).filter keep = (undoAll removals old).filter keep := by
  obtain ⟨left, hleft, heq, hclear⟩ := undoAll_append removals old added hdistinct hkey
  have hnone : left.filter keep = [] := List.filter_eq_nil_iff.mpr fun entry hentry hkept ↦ by
    obtain ⟨removal, hremoval, hmatch, hold⟩ := hundone entry (hleft.subset hentry) hkept
    rw [hclear removal hremoval hold entry hentry] at hmatch
    exact Bool.false_ne_true hmatch
  rw [heq, List.filter_append, hnone, List.append_nil]

/-- Removing the first match changes the kept entries exactly when that match is kept. -/
theorem filter_eraseP_eq_iff (table : List ρ) (removal keep : ρ → Bool) :
    (table.eraseP removal).filter keep = table.filter keep ↔
      ∀ entry, table.find? removal = some entry → keep entry = false := by
  induction table with
  | nil => simp
  | cons first rest ih =>
    cases hmatch : removal first with
    | true =>
      rw [List.eraseP_cons_of_pos hmatch, List.find?_cons_of_pos hmatch]
      cases hkeep : keep first with
      | true =>
        rw [List.filter_cons_of_pos hkeep]
        refine ⟨fun h ↦ ?_, fun h ↦ absurd (h first rfl) (by simp [hkeep])⟩
        exact absurd (congrArg List.length h) (by simp)
      | false => simp [hkeep]
    | false =>
      rw [List.eraseP_cons_of_neg (by simp [hmatch]), List.find?_cons_of_neg (by simp [hmatch])]
      cases hkeep : keep first <;> simpa [List.filter_cons, hkeep] using ih

/-- A removal does not change the first match of a removal that shares no match with it. -/
theorem find?_eraseP_of_disjoint {table : List ρ} {removal other : ρ → Bool}
    (hdisjoint : ∀ entry ∈ table, ¬ (removal entry = true ∧ other entry = true)) :
    (table.eraseP removal).find? other = table.find? other := by
  induction table with
  | nil => rfl
  | cons first rest ih =>
    have hrest := ih fun entry hentry ↦ hdisjoint entry (List.mem_cons_of_mem _ hentry)
    cases hmatch : removal first with
    | true =>
      have hother : ¬ other first = true := fun h ↦ hdisjoint first List.mem_cons_self ⟨hmatch, h⟩
      rw [List.eraseP_cons_of_pos hmatch, List.find?_cons_of_neg hother]
    | false =>
      rw [List.eraseP_cons_of_neg (by simp [hmatch])]
      cases hother : other first with
      | true => rw [List.find?_cons_of_pos hother, List.find?_cons_of_pos hother]
      | false =>
        rw [List.find?_cons_of_neg (by simp [hother]), List.find?_cons_of_neg (by simp [hother]),
          hrest]

/-- The kept entries survive a list of removals exactly when the first match of each removal, if it
has one, is not kept. Assumes: no entry is matched by two of the removals. -/
theorem filter_undoAll_eq_iff (removals : List (ρ → Bool)) (table : List ρ) (keep : ρ → Bool)
    (hdisjoint : removals.Pairwise fun first second ↦
      ∀ entry ∈ table, ¬ (first entry = true ∧ second entry = true)) :
    (undoAll removals table).filter keep = table.filter keep ↔
      ∀ removal ∈ removals, ∀ entry, table.find? removal = some entry → keep entry = false := by
  induction removals generalizing table with
  | nil => simp
  | cons removal rest ih =>
    obtain ⟨hfirst, hrest⟩ := List.pairwise_cons.mp hdisjoint
    have hrestErased : rest.Pairwise fun first second ↦
        ∀ entry ∈ table.eraseP removal, ¬ (first entry = true ∧ second entry = true) :=
      hrest.imp fun h entry hentry ↦ h entry (List.mem_of_mem_eraseP hentry)
    have hfind : ∀ other ∈ rest, (table.eraseP removal).find? other = table.find? other :=
      fun other hother ↦ find?_eraseP_of_disjoint (hfirst other hother)
    have htail := ih (table.eraseP removal) hrestErased
    rw [undoAll_cons, List.forall_mem_cons, ← filter_eraseP_eq_iff]
    constructor
    · intro hsame
      have hlower : ((undoAll rest (table.eraseP removal)).filter keep).Sublist
          ((table.eraseP removal).filter keep) := (undoAll_sublist rest _).filter keep
      have hupper : ((table.eraseP removal).filter keep).Sublist (table.filter keep) :=
        List.eraseP_sublist.filter keep
      have herased : (table.eraseP removal).filter keep = table.filter keep :=
        hupper.eq_of_length_le (hsame ▸ hlower.length_le)
      refine ⟨herased, fun other hother entry hentry ↦ ?_⟩
      exact htail.mp (hsame.trans herased.symm) other hother entry
        ((hfind other hother).trans hentry)
    · rintro ⟨herased, hnotKept⟩
      rw [htail.mpr fun other hother entry hentry ↦
        hnotKept other hother entry ((hfind other hother).symm.trans hentry), herased]

end EntroTunnel.Foundation
