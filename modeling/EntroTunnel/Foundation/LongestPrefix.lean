import Mathlib.Data.List.MinMax
import Mathlib.Data.List.Nodup

/-!
# Longest-prefix lookup

A table is a list of entries, each keyed by a word, its destination prefix. `lookup` selects for an
address, itself a word, the first among the entries with the longest key that is a prefix of the
address. Addresses and prefixes are plain words over an arbitrary alphabet, so the width of an
address plays no part.

`lookup_append_cases` compares the lookup in a table with the lookup after entries were appended:
the old selection stays unless an appended entry is strictly longer. With pairwise distinct
appended keys, `exists_lookup_append_iff` says exactly when the selection after appending still
meets a property that the old selection had: no appended entry without the property outmatches the
old selection, unless an appended entry with the property is longer still.
-/

set_option autoImplicit false
set_option relaxedAutoImplicit false

namespace EntroTunnel.Foundation

variable {ρ α : Type*} [DecidableEq α] {dst : ρ → List α}

/-- The first among the entries with the longest key that is a prefix of the address. -/
def lookup (dst : ρ → List α) (table : List ρ) (address : List α) : Option ρ :=
  (table.filter fun entry ↦ dst entry <+: address).argmax fun entry ↦ (dst entry).length

theorem lookup_mem {table : List ρ} {address : List α} {entry : ρ}
    (hlookup : lookup dst table address = some entry) :
    entry ∈ table ∧ dst entry <+: address := by
  have hmem := List.mem_filter.mp (List.argmax_mem (Option.mem_def.mpr hlookup))
  exact ⟨hmem.1, of_decide_eq_true hmem.2⟩

theorem le_of_lookup {table : List ρ} {address : List α} {entry other : ρ}
    (hlookup : lookup dst table address = some entry) (hother : other ∈ table)
    (hmatch : dst other <+: address) : (dst other).length ≤ (dst entry).length :=
  List.le_of_mem_argmax (f := fun entry ↦ (dst entry).length)
    (List.mem_filter.mpr ⟨hother, decide_eq_true hmatch⟩) (Option.mem_def.mpr hlookup)

/-- A lookup succeeds as soon as one key is a prefix of the address. -/
theorem exists_lookup {table : List ρ} {address : List α} {entry : ρ} (hentry : entry ∈ table)
    (hmatch : dst entry <+: address) : ∃ selected, lookup dst table address = some selected := by
  have hmem : entry ∈ table.filter fun entry ↦ decide (dst entry <+: address) :=
    List.mem_filter.mpr ⟨hentry, decide_eq_true hmatch⟩
  refine Option.ne_none_iff_exists'.mp fun hnone ↦ ?_
  rw [lookup, List.argmax_eq_none] at hnone
  rw [hnone] at hmem
  exact List.not_mem_nil hmem

omit [DecidableEq α] in
/-- Two prefixes of one address of the same length are equal. -/
theorem prefix_eq_of_length {first second address : List α} (hfirst : first <+: address)
    (hsecond : second <+: address) (hlength : first.length = second.length) : first = second :=
  (List.prefix_of_prefix_length_le hfirst hsecond hlength.le).eq_of_length hlength

/-- Appending one entry changes the selection only when its key is a strictly longer match. -/
theorem lookup_concat (table : List ρ) (entry : ρ) (address : List α) :
    lookup dst (table ++ [entry]) address =
      if dst entry <+: address then
        match lookup dst table address with
        | none => some entry
        | some selected =>
          if (dst selected).length < (dst entry).length then some entry else some selected
      else lookup dst table address := by
  unfold lookup
  rw [List.filter_append]
  by_cases hmatch : dst entry <+: address
  · rw [List.filter_cons_of_pos (by simpa using hmatch), List.filter_nil, List.argmax_concat,
      if_pos hmatch]
    cases List.argmax (fun entry ↦ (dst entry).length)
      (List.filter (fun entry ↦ decide (dst entry <+: address)) table) <;> rfl
  · rw [List.filter_cons_of_neg (by simpa using hmatch), List.filter_nil, List.append_nil,
      if_neg hmatch]

/-- The selection when no match is longer than a key of the table: the first entry of that key. -/
theorem lookup_eq_of_find {table : List ρ} {address key : List α} {entry : ρ}
    (hfind : table.find? (fun entry ↦ dst entry = key) = some entry) (hmatch : key <+: address)
    (hlongest : ∀ other ∈ table, dst other <+: address → (dst other).length ≤ key.length) :
    lookup dst table address = some entry := by
  induction table using List.reverseRecOn with
  | nil => exact absurd hfind nofun
  | append_singleton table last ih =>
    have hbefore : ∀ other ∈ table, dst other <+: address → (dst other).length ≤ key.length :=
      fun other hother ↦ hlongest other (List.mem_append_left _ hother)
    rw [List.find?_append] at hfind
    rw [lookup_concat]
    cases hfirst : table.find? fun entry ↦ dst entry = key with
    | some first =>
      rw [hfirst, Option.some_or] at hfind
      rw [ih (hfirst.trans hfind) hbefore]
      have hkey : dst entry = key := by simpa using List.find?_some (hfirst.trans hfind)
      split_ifs with hlast
      · have hle := hlongest last (List.mem_append_right _ (List.mem_singleton_self last)) hlast
        dsimp only
        rw [if_neg (by rw [hkey]; omega)]
      · rfl
    | none =>
      rw [hfirst, Option.none_or, List.find?_singleton] at hfind
      split_ifs at hfind with hlast
      obtain rfl := Option.some.inj hfind
      have hkey : dst last = key := of_decide_eq_true hlast
      rw [if_pos (hkey ▸ hmatch)]
      cases hold : lookup dst table address with
      | none => rfl
      | some selected =>
        have hle := hbefore selected (lookup_mem hold).1 (lookup_mem hold).2
        have hne : (dst selected).length ≠ key.length := fun hlength ↦ by
          have hsame := prefix_eq_of_length (lookup_mem hold).2 hmatch hlength
          exact List.find?_eq_none.mp hfirst selected (lookup_mem hold).1 (by simpa using hsame)
        dsimp only
        rw [if_pos (by rw [hkey]; omega)]

/-- After entries are appended, the selection is the old one or a strictly longer appended one. -/
theorem lookup_append_cases {table added : List ρ} {address : List α} {old new : ρ}
    (hold : lookup dst table address = some old)
    (hnew : lookup dst (table ++ added) address = some new) :
    new = old ∨ new ∈ added ∧ (dst old).length < (dst new).length := by
  induction added using List.reverseRecOn generalizing new with
  | nil =>
    rw [List.append_nil, hold, Option.some.injEq] at hnew
    exact Or.inl hnew.symm
  | append_singleton added entry ih =>
    obtain ⟨middle, hmiddle⟩ : ∃ middle, lookup dst (table ++ added) address = some middle :=
      exists_lookup (List.mem_append_left _ (lookup_mem hold).1) (lookup_mem hold).2
    rw [← List.append_assoc, lookup_concat, hmiddle] at hnew
    have hkeep : middle = old ∨ middle ∈ added ++ [entry] ∧
        (dst old).length < (dst middle).length :=
      (ih hmiddle).imp_right fun h ↦ ⟨List.mem_append_left _ h.1, h.2⟩
    have hle : (dst old).length ≤ (dst middle).length := by
      rcases hkeep with rfl | ⟨_, hlt⟩
      · exact le_rfl
      · exact hlt.le
    dsimp only at hnew
    split_ifs at hnew with hmatch hlonger
    · rw [Option.some.injEq] at hnew
      subst hnew
      exact Or.inr ⟨List.mem_append_right _ (List.mem_singleton_self entry),
        lt_of_le_of_lt hle hlonger⟩
    · exact Option.some.inj hnew ▸ hkeep
    · exact Option.some.inj hnew ▸ hkeep

/-- A property of the selection survives appended entries with pairwise distinct keys exactly when
every appended match without the property is no longer than the old selection, or is shorter than
an appended match with the property. Assumes: the old selection has the property. -/
theorem exists_lookup_append_iff {Good : ρ → Prop} {table added : List ρ} {address : List α}
    {old : ρ} (hold : lookup dst table address = some old) (hgood : Good old)
    (hdistinct : (added.map dst).Nodup) :
    (∃ new, lookup dst (table ++ added) address = some new ∧ Good new) ↔
      ∀ bad ∈ added, ¬ Good bad → dst bad <+: address →
        (dst bad).length ≤ (dst old).length ∨
          ∃ good ∈ added, Good good ∧ dst good <+: address ∧
            (dst bad).length < (dst good).length := by
  constructor
  · rintro ⟨new, hnew, hgoodNew⟩ bad hbad hnotGood hmatch
    have hle := le_of_lookup hnew (List.mem_append_right _ hbad) hmatch
    rcases lookup_append_cases hold hnew with rfl | ⟨hadded, -⟩
    · exact Or.inl hle
    · refine Or.inr ⟨new, hadded, hgoodNew, (lookup_mem hnew).2, lt_of_le_of_ne hle
        fun hlength ↦ ?_⟩
      have hsame := prefix_eq_of_length hmatch (lookup_mem hnew).2 hlength
      have hentry : bad = new := List.inj_on_of_nodup_map hdistinct hbad hadded hsame
      exact hnotGood (hentry ▸ hgoodNew)
  · intro hbound
    obtain ⟨new, hnew⟩ : ∃ new, lookup dst (table ++ added) address = some new :=
      exists_lookup (List.mem_append_left _ (lookup_mem hold).1) (lookup_mem hold).2
    refine ⟨new, hnew, ?_⟩
    by_contra hnotGood
    rcases lookup_append_cases hold hnew with rfl | ⟨hadded, hlonger⟩
    · exact hnotGood hgood
    · rcases hbound new hadded hnotGood (lookup_mem hnew).2 with hle | ⟨good, hmem, -, hmatch, hlt⟩
      · omega
      · have := le_of_lookup hnew (List.mem_append_right _ hmem) hmatch
        omega

end EntroTunnel.Foundation
