import EntroTunnel.Desktop.ProfileFormat
import EntroTunnel.Foundation.KeyedList
import Mathlib.Data.List.Perm.Subperm

/-!
# The profile store of the desktop app

Four commands of `client-tauri/src-tauri/src/main.rs` change the stored profiles: each loads the
whole list from `profiles.json`, changes it, and writes the whole file back. `upsert_profile`
replaces the profile of the same name, `remove_profile` deletes by name, `import_profile` renames
what it imports, and `import_profiles_toml` replaces in a batch. `perform` is one call of a command.

`names_nodup` is the invariant over any calls, and `edit_filter` says of each edit what it leaves
alone.
-/

set_option autoImplicit false
set_option relaxedAutoImplicit false

namespace EntroTunnel.Desktop

open EntroTunnel.Core EntroTunnel.Client EntroTunnel.Foundation EntroTunnel.Foundation.Document

/-! ### The file -/

/-- What `profiles.json` holds. A file that is no JSON text, or that cannot be read, may hold whole
elements of a list all the same. -/
inductive FileContent
  | absent
  | unreadable (elements : List Document)
  | malformed (elements : List Document)
  | document (value : Document)
  deriving Repr

/-- The list elements that stand in a file. -/
def FileContent.elements : FileContent → List Document
  | .absent => []
  | .unreadable elements | .malformed elements => elements
  | .document (.array elements) => elements
  | .document _ => []

/-- `load_profiles`: the current format, else the format of older builds, else nothing. -/
def loadProfiles : FileContent → List Profile
  | .document value =>
    match readList readProfile value with
    | some list => list
    | none =>
      match readList readConfig value with
      | some old => old.map ClientConfig.toProfile
      | none => []
  | _ => []

/-- What becomes of `std::fs::write`: it cannot open the file, or fails after some whole elements.
-/
inductive WriteOutcome
  | written
  | refused (error : String)
  | cut (kept : ℕ) (error : String)
  deriving DecidableEq, Repr

/-- `save_profiles`: the file afterwards, and the result. -/
def saveProfiles (content : FileContent) (list : List Profile) :
    WriteOutcome → FileContent × Except String Unit
  | .written => (.document (.array (list.map writeProfile)), .ok ())
  | .refused error => (content, .error error)
  | .cut kept error => (.malformed ((list.take kept).map writeProfile), .error error)

/-- What is saved is loaded again. -/
@[simp] theorem loadProfiles_saved (list : List Profile) :
    loadProfiles (.document (.array (list.map writeProfile))) = list := by
  rw [loadProfiles, readList_map readProfile_write]

/-! ### Names -/

/-- The name that is tried with a number. -/
def numberedName (name : String) (number : ℕ) : String :=
  name ++ " (" ++ toString number ++ ")"

/-- The loop of `unique_name`, for a bounded count of numbers. -/
def uniqueNameFrom (name : String) (list : List Profile) (number : ℕ) : ℕ → Option String
  | 0 => none
  | fuel + 1 =>
    if list.any fun profile ↦ profile.name = numberedName name number then
      uniqueNameFrom name list (number + 1) fuel
    else some (numberedName name number)

/-- `unique_name`. One more number than there are profiles is always enough. -/
def uniqueName (name : String) (list : List Profile) : String :=
  if list.any fun profile ↦ profile.name = name then
    (uniqueNameFrom name list 2 (list.length + 1)).getD name
  else name

theorem numberedName_injective (name : String) : Function.Injective (numberedName name) := by
  intro first second hnames
  rw [numberedName, numberedName, String.append_left_inj, String.append_right_inj] at hnames
  have hdigits := congrArg (fun text : String ↦ Nat.ofDigitChars 10 text.toList 0) hnames
  simpa using hdigits

theorem uniqueNameFrom_some {name found : String} {list : List Profile} {number fuel : ℕ}
    (hfound : uniqueNameFrom name list number fuel = some found) :
    found ∉ list.map Profile.name := by
  induction fuel generalizing number with
  | zero => exact absurd hfound (by simp [uniqueNameFrom])
  | succ fuel ih =>
    rw [uniqueNameFrom] at hfound
    split_ifs at hfound with htaken
    · exact ih hfound
    · obtain rfl := Option.some.inj hfound
      simpa using htaken

theorem uniqueNameFrom_none {name : String} {list : List Profile} {number fuel : ℕ}
    (hnone : uniqueNameFrom name list number fuel = none) :
    (List.range' number fuel).map (numberedName name) ⊆ list.map Profile.name := by
  induction fuel generalizing number with
  | zero => exact List.nil_subset _
  | succ fuel ih =>
    rw [uniqueNameFrom] at hnone
    split_ifs at hnone with htaken
    obtain ⟨profile, hprofile, hname⟩ := List.any_eq_true.mp htaken
    rw [List.range'_succ, List.map_cons, List.cons_subset]
    exact ⟨List.mem_map.mpr ⟨profile, hprofile, of_decide_eq_true hname⟩, ih hnone⟩

/-- One more number than there are profiles is enough for the loop of `unique_name`. -/
theorem exists_uniqueNameFrom (name : String) (list : List Profile) (number : ℕ) :
    ∃ found, uniqueNameFrom name list number (list.length + 1) = some found := by
  cases hfound : uniqueNameFrom name list number (list.length + 1) with
  | some found => exact ⟨found, rfl⟩
  | none =>
    -- More distinct candidates than there are profiles would all be taken.
    have hnodup : ((List.range' number (list.length + 1)).map (numberedName name)).Nodup :=
      List.Nodup.map (numberedName_injective name) List.nodup_range'
    have hlength := (hnodup.subperm (uniqueNameFrom_none hfound)).length_le
    rw [List.length_map, List.length_range', List.length_map] at hlength
    omega

/-- The loop of `unique_name` ends, with a name that is not taken. -/
theorem uniqueName_not_mem (name : String) (list : List Profile) :
    uniqueName name list ∉ list.map Profile.name := by
  rw [uniqueName]
  split_ifs with htaken
  · obtain ⟨found, hfound⟩ := exists_uniqueNameFrom name list 2
    rw [hfound]
    exact uniqueNameFrom_some hfound
  · simpa using htaken

/-- A search that ends does so after a number of candidates that does not depend on the bound. -/
theorem exists_tried {name found : String} {list : List Profile} {number fuel : ℕ}
    (hfound : uniqueNameFrom name list number fuel = some found) :
    ∃ tried ≤ fuel, ∀ bound, uniqueNameFrom name list number bound =
      if bound < tried then none else some found := by
  induction fuel generalizing number with
  | zero => exact absurd hfound (by simp [uniqueNameFrom])
  | succ fuel ih =>
    rw [uniqueNameFrom] at hfound
    split_ifs at hfound with htaken
    · obtain ⟨tried, htried, hsearch⟩ := ih hfound
      refine ⟨tried + 1, Nat.succ_le_succ htried, fun bound ↦ ?_⟩
      cases bound with
      | zero => rw [if_pos (Nat.succ_pos tried), uniqueNameFrom]
      | succ bound => simp only [uniqueNameFrom, if_pos htaken, hsearch, Nat.add_lt_add_iff_right]
    · obtain rfl := Option.some.inj hfound
      refine ⟨1, Nat.succ_le_succ (Nat.zero_le fuel), fun bound ↦ ?_⟩
      cases bound with
      | zero => rw [if_pos Nat.one_pos, uniqueNameFrom]
      | succ bound => rw [uniqueNameFrom, if_neg htaken, if_neg (by omega)]

/-- `unique_name` returns a name that is not taken, the requested one if it is free. If not, the
loop ends by itself: it tries one candidate more than there are profiles at most. -/
theorem uniqueName_terminates (name : String) (list : List Profile) :
    uniqueName name list ∉ list.map Profile.name ∧
      (name ∉ list.map Profile.name → uniqueName name list = name) ∧
      (name ∈ list.map Profile.name → ∃ tried ≤ list.length + 1, ∀ bound,
        uniqueNameFrom name list 2 bound =
          if bound < tried then none else some (uniqueName name list)) := by
  have htaken : (list.any fun profile ↦ profile.name = name) = true ↔
      name ∈ list.map Profile.name := by
    simp
  refine ⟨uniqueName_not_mem name list, fun hfree ↦ ?_, fun hmem ↦ ?_⟩
  · rw [uniqueName, if_neg (mt htaken.mp hfree)]
  · rw [uniqueName, if_pos (htaken.mpr hmem)]
    obtain ⟨found, hfound⟩ := exists_uniqueNameFrom name list 2
    rw [hfound, Option.getD_some]
    exact exists_tried hfound

/-! ### What is imported -/

/-- The text formats and encodings of other libraries. -/
structure Formats where
  json : Bytes → Except String Document
  toml : String → Except String Document
  /-- What a deserializer says of a document of another shape. -/
  mismatch : Document → String
  base64 : List Char → Except String Bytes
  base64UrlSafe : List Char → Except String Bytes
  base64UrlSafeNoPad : List Char → Except String Bytes

/-- `from_str` of a format: parse the text, and read the document. -/
def Formats.fromText {α : Type*} (formats : Formats) (reader : Reader α)
    (parsed : Except String Document) : Except String α :=
  match parsed with
  | .error error => .error error
  | .ok document =>
    match reader document with
    | some value => .ok value
    | none => .error (formats.mismatch document)

/-- `Profile::decode_link`. -/
def decodeLink (formats : Formats) (link : String) : Except String Profile :=
  let text := trim link.toList
  let body := trim ((stripPrefix "entro://".toList text).getD text)
  match formats.base64 body <|> formats.base64UrlSafe body <|> formats.base64UrlSafeNoPad body with
  | .error error => .error ("config: invalid config link (base64): " ++ error)
  | .ok bytes =>
    match formats.fromText readProfile (formats.json bytes) with
    | .error error => .error ("config: invalid config link (json): " ++ error)
    | .ok profile => .ok profile

/-- A bundle of profiles. -/
def readBundle : Reader (List Profile) := fun document ↦ do
  let field ← slots ["profiles"] document
  defaulted field "profiles" [] (readList readProfile)

/-- The second half of `profiles_from_toml`: a single `client.toml`. -/
def profileFromConfig (formats : Formats) (toml : String) : Except String (List Profile) :=
  match formats.fromText readConfig (formats.toml toml) with
  | .error error => .error ("config: not a profile bundle or client.toml: " ++ error)
  | .ok config =>
    if config.servers = [] then
      .error "config: TOML has no profiles and no [[servers]] to import"
    else
      .ok [{ config.toProfile with name := if config.name = "" then "imported" else config.name }]

/-- `profiles_from_toml`. -/
def profilesFromToml (formats : Formats) (toml : String) : Except String (List Profile) :=
  match formats.fromText readBundle (formats.toml toml) with
  | .ok [] | .error _ => profileFromConfig formats toml
  | .ok profiles => .ok profiles

/-! ### The commands -/

/-- `upsert_profile`. -/
def upsertProfile (content : FileContent) (profile : Profile) (write : WriteOutcome) :
    FileContent × Except String Unit :=
  saveProfiles content (upsert Profile.name profile (loadProfiles content)) write

/-- `remove_profile`. -/
def removeProfile (content : FileContent) (name : String) (write : WriteOutcome) :
    FileContent × Except String Unit :=
  saveProfiles content ((loadProfiles content).filter fun profile ↦ profile.name ≠ name) write

/-- The profile that `import_profile` stores. -/
def importedProfile (list : List Profile) (profile : Profile) : Profile :=
  let name := if trim profile.name.toList = [] then "imported" else profile.name
  { profile with name := uniqueName name list }

/-- `import_profile`. -/
def importProfile (formats : Formats) (content : FileContent) (link : String)
    (write : WriteOutcome) : FileContent × Except String Profile :=
  match decodeLink formats link with
  | .error error => (content, .error error)
  | .ok profile =>
    if profile.servers = [] then (content, .error "the imported config has no servers")
    else
      let stored := importedProfile (loadProfiles content) profile
      let saved := saveProfiles content (loadProfiles content ++ [stored]) write
      (saved.1, saved.2.map fun _ ↦ stored)

/-- An entry of an import that is not skipped. -/
def wellFormed (profile : Profile) : Bool :=
  !((trim profile.name.toList).isEmpty || profile.servers.isEmpty)

/-- The loop of `import_profiles_toml`: the list and the count of imported entries. -/
def importEntry (state : List Profile × ℕ) (profile : Profile) : List Profile × ℕ :=
  if wellFormed profile then (upsert Profile.name profile state.1, state.2 + 1) else state

/-- `import_profiles_toml`. -/
def importProfilesToml (formats : Formats) (content : FileContent) (toml : String)
    (write : WriteOutcome) : FileContent × Except String ℕ :=
  match profilesFromToml formats toml with
  | .error error => (content, .error error)
  | .ok parsed =>
    let (list, count) := parsed.foldl importEntry (loadProfiles content, 0)
    if count = 0 then (content, .error "no valid profiles found in the TOML")
    else
      let saved := saveProfiles content list write
      (saved.1, saved.2.map fun _ ↦ count)

/-- A call of a command. -/
inductive Call
  | upsert (profile : Profile)
  | remove (name : String)
  | importLink (link : String)
  | importToml (toml : String)
  deriving DecidableEq, Repr

/-- What a command returns. -/
inductive Reply
  | done
  | stored (profile : Profile)
  | imported (count : ℕ)
  deriving DecidableEq, Repr

/-- One call: the file afterwards and the result. -/
def perform (formats : Formats) (content : FileContent) (call : Call) (write : WriteOutcome) :
    FileContent × Except String Reply :=
  match call with
  | .upsert profile =>
    let outcome := upsertProfile content profile write
    (outcome.1, outcome.2.map fun _ ↦ .done)
  | .remove name =>
    let outcome := removeProfile content name write
    (outcome.1, outcome.2.map fun _ ↦ .done)
  | .importLink link =>
    let outcome := importProfile formats content link write
    (outcome.1, outcome.2.map .stored)
  | .importToml toml =>
    let outcome := importProfilesToml formats content toml write
    (outcome.1, outcome.2.map .imported)

/-- The file after calls, whatever they return. -/
def afterCalls (formats : Formats) (content : FileContent) (calls : List (Call × WriteOutcome)) :
    FileContent :=
  calls.foldl (fun content call ↦ (perform formats content call.1 call.2).1) content

/-! ### What a call makes of the list -/

/-- What a call makes of the loaded list and returns, when nothing is wrong with the file. -/
def edit (formats : Formats) (list : List Profile) : Call → Except String (List Profile × Reply)
  | .upsert profile => .ok (upsert Profile.name profile list, .done)
  | .remove name => .ok (list.filter fun profile ↦ profile.name ≠ name, .done)
  | .importLink link =>
    match decodeLink formats link with
    | .error error => .error error
    | .ok profile =>
      if profile.servers = [] then .error "the imported config has no servers"
      else
        let stored := importedProfile list profile
        .ok (list ++ [stored], .stored stored)
  | .importToml toml =>
    match profilesFromToml formats toml with
    | .error error => .error error
    | .ok parsed =>
      let entries := parsed.filter wellFormed
      if entries = [] then .error "no valid profiles found in the TOML"
      else
        .ok (entries.foldl (fun list entry ↦ upsert Profile.name entry list) list,
          .imported entries.length)

theorem foldl_importEntry (parsed list : List Profile) (count : ℕ) :
    parsed.foldl importEntry (list, count) =
      ((parsed.filter wellFormed).foldl (fun list entry ↦ upsert Profile.name entry list) list,
        count + (parsed.filter wellFormed).length) := by
  induction parsed generalizing list count with
  | nil => rfl
  | cons entry rest ih =>
    by_cases hentry : wellFormed entry
    · rw [List.foldl_cons, importEntry, if_pos hentry, ih, List.filter_cons_of_pos hentry,
        List.foldl_cons, List.length_cons, Nat.add_assoc, Nat.add_comm 1]
    · rw [List.foldl_cons, importEntry, if_neg hentry, ih, List.filter_cons_of_neg hentry]

/-- A call is an edit of the loaded list, which is saved unless the edit fails. -/
theorem perform_eq_edit (formats : Formats) (content : FileContent) (call : Call)
    (write : WriteOutcome) :
    perform formats content call write =
      match edit formats (loadProfiles content) call with
      | .error error => (content, .error error)
      | .ok (list, reply) =>
        ((saveProfiles content list write).1,
          (saveProfiles content list write).2.map fun _ ↦ reply) := by
  cases call with
  | upsert profile => rfl
  | remove name => rfl
  | importLink link =>
    simp only [perform, importProfile, edit]
    cases decodeLink formats link with
    | error error => rfl
    | ok profile =>
      by_cases hservers : profile.servers = []
      · simp only [hservers, if_true]
        rfl
      · simp only [hservers, if_false]
        cases write <;> rfl
  | importToml toml =>
    simp only [perform, importProfilesToml, edit]
    cases profilesFromToml formats toml with
    | error error => rfl
    | ok parsed =>
      simp only [foldl_importEntry, Nat.zero_add, List.length_eq_zero_iff]
      by_cases hentries : parsed.filter wellFormed = []
      · simp only [hentries, if_true]
        rfl
      · simp only [hentries, if_false]
        cases write <;> rfl

/-- The names that a call touches. -/
def touched (formats : Formats) (list : List Profile) : Call → List String
  | .upsert profile => [profile.name]
  | .remove name => [name]
  | .importLink link =>
    match decodeLink formats link with
    | .error _ => []
    | .ok profile => [(importedProfile list profile).name]
  | .importToml toml =>
    match profilesFromToml formats toml with
    | .error _ => []
    | .ok parsed => (parsed.filter wellFormed).map Profile.name

section Edit

variable {formats : Formats} {list next : List Profile} {call : Call} {reply : Reply}

theorem edit_importLink {link : String}
    (hedit : edit formats list (.importLink link) = .ok (next, reply)) :
    ∃ profile, decodeLink formats link = .ok profile ∧
      next = list ++ [importedProfile list profile] ∧
      reply = .stored (importedProfile list profile) := by
  simp only [edit] at hedit
  cases hdecode : decodeLink formats link with
  | error error => simp [hdecode] at hedit
  | ok profile =>
    simp only [hdecode] at hedit
    split_ifs at hedit
    obtain ⟨rfl, rfl⟩ := Prod.mk.inj (Except.ok.inj hedit)
    exact ⟨profile, rfl, rfl, rfl⟩

theorem edit_importToml {toml : String}
    (hedit : edit formats list (.importToml toml) = .ok (next, reply)) :
    ∃ parsed, profilesFromToml formats toml = .ok parsed ∧
      next = (parsed.filter wellFormed).foldl
        (fun list entry ↦ upsert Profile.name entry list) list ∧
      reply = .imported (parsed.filter wellFormed).length := by
  simp only [edit] at hedit
  cases hparsed : profilesFromToml formats toml with
  | error error => simp [hparsed] at hedit
  | ok parsed =>
    simp only [hparsed] at hedit
    split_ifs at hedit
    obtain ⟨rfl, rfl⟩ := Prod.mk.inj (Except.ok.inj hedit)
    exact ⟨parsed, rfl, rfl, rfl⟩

/-- Every edit keeps the names distinct. -/
theorem edit_nodup (hedit : edit formats list call = .ok (next, reply))
    (hlist : (list.map Profile.name).Nodup) : (next.map Profile.name).Nodup := by
  cases call with
  | upsert profile =>
    obtain ⟨rfl, -⟩ := Prod.mk.inj (Except.ok.inj hedit)
    exact nodup_upsert Profile.name hlist
  | remove name =>
    obtain ⟨rfl, -⟩ := Prod.mk.inj (Except.ok.inj hedit)
    exact hlist.sublist (List.filter_sublist.map _)
  | importLink link =>
    obtain ⟨profile, -, rfl, -⟩ := edit_importLink hedit
    rw [List.map_append, List.map_singleton]
    refine List.nodup_append.mpr ⟨hlist, List.nodup_singleton _, fun name hname other hother ↦ ?_⟩
    obtain rfl := List.mem_singleton.mp hother
    rintro rfl
    exact uniqueName_not_mem _ list hname
  | importToml toml =>
    obtain ⟨parsed, -, rfl, -⟩ := edit_importToml hedit
    exact nodup_foldl_upsert Profile.name hlist

/-- Every edit leaves the profiles under other names as they are, in their order. -/
theorem edit_filter (hedit : edit formats list call = .ok (next, reply)) :
    (next.filter fun profile ↦ profile.name ∉ touched formats list call) =
      list.filter fun profile ↦ profile.name ∉ touched formats list call := by
  cases call with
  | upsert profile =>
    obtain ⟨rfl, -⟩ := Prod.mk.inj (Except.ok.inj hedit)
    exact filter_upsert Profile.name (fun other hother ↦ by simp [touched, hother]) list
  | remove name =>
    obtain ⟨rfl, -⟩ := Prod.mk.inj (Except.ok.inj hedit)
    rw [List.filter_filter]
    exact List.filter_congr fun profile _ ↦ by simp [touched]
  | importLink link =>
    obtain ⟨profile, hdecode, rfl, -⟩ := edit_importLink hedit
    rw [List.filter_append]
    simp [touched, hdecode]
  | importToml toml =>
    obtain ⟨parsed, hparsed, rfl, -⟩ := edit_importToml hedit
    refine filter_foldl_upsert Profile.name (fun entry hentry other hother ↦ ?_) list
    have hmem : other.name ∈ (parsed.filter wellFormed).map Profile.name :=
      hother ▸ List.mem_map_of_mem hentry
    simp only [touched, hparsed, hmem, not_true_eq_false, decide_false]

end Edit

/-! ### What a call does to the file -/

section Perform

variable {formats : Formats} {content : FileContent} {call : Call} {write : WriteOutcome}

/-- A call succeeds when its edit does and the file is written. -/
theorem perform_ok {reply : Reply}
    (hperform : (perform formats content call write).2 = .ok reply) :
    ∃ list, edit formats (loadProfiles content) call = .ok (list, reply) ∧
      (perform formats content call write).1 = .document (.array (list.map writeProfile)) := by
  rw [perform_eq_edit] at hperform ⊢
  cases hedit : edit formats (loadProfiles content) call with
  | error error => simp [hedit] at hperform
  | ok outcome =>
    obtain ⟨list, answer⟩ := outcome
    cases write with
    | written =>
      simp only [hedit, saveProfiles, Except.map] at hperform
      obtain rfl := Except.ok.inj hperform
      exact ⟨list, rfl, rfl⟩
    | refused error => simp [hedit, saveProfiles, Except.map] at hperform
    | cut kept error => simp [hedit, saveProfiles, Except.map] at hperform

/-- A call that fails although the file can be written fails before it writes. -/
theorem perform_error {error : String} (hperform : (perform formats content call .written).2 =
    .error error) (write : WriteOutcome) :
    perform formats content call write = (content, .error error) := by
  rw [perform_eq_edit] at hperform ⊢
  cases hedit : edit formats (loadProfiles content) call with
  | error other =>
    simp only [hedit] at hperform
    obtain rfl := Except.error.inj hperform
    rfl
  | ok outcome => simp [hedit, saveProfiles, Except.map] at hperform

/-- A call keeps the names distinct, whatever becomes of its write. -/
theorem perform_nodup (hcontent : ((loadProfiles content).map Profile.name).Nodup) :
    ((loadProfiles (perform formats content call write).1).map Profile.name).Nodup := by
  rw [perform_eq_edit]
  cases hedit : edit formats (loadProfiles content) call with
  | error error => exact hcontent
  | ok outcome =>
    obtain ⟨list, reply⟩ := outcome
    cases write with
    | written =>
      simp only [saveProfiles, loadProfiles_saved]
      exact edit_nodup hedit hcontent
    | refused error => exact hcontent
    | cut kept error => exact List.nodup_nil

/-- The invariant of the store: after any calls, whatever they return, the names are distinct. -/
theorem names_nodup (hcontent : ((loadProfiles content).map Profile.name).Nodup)
    (calls : List (Call × WriteOutcome)) :
    ((loadProfiles (afterCalls formats content calls)).map Profile.name).Nodup := by
  induction calls generalizing content with
  | nil => exact hcontent
  | cons first rest ih => exact ih (perform_nodup hcontent)

end Perform

/-! ### The contract of the store -/

/-- A batch changes nothing under other names, and its last entry under a name is what is found. -/
def Replaces (entries before after : List Profile) : Prop :=
  (after.filter fun profile ↦ profile.name ∉ entries.map Profile.name) =
      (before.filter fun profile ↦ profile.name ∉ entries.map Profile.name) ∧
    ∀ name ∈ entries.map Profile.name,
      (after.find? fun profile ↦ profile.name = name) =
        entries.reverse.find? fun profile ↦ profile.name = name

/-- What the store owes after any calls, and what the next call owes. `entries` selects the entries
of a batch that count. -/
structure StoreContract (formats : Formats) (entries : List Profile → List Profile)
    (content : FileContent) (call : Call) (write : WriteOutcome) : Prop where
  nodup : ((loadProfiles content).map Profile.name).Nodup
  /-- A call that would fail even if its write went through leaves the file alone. -/
  error_keeps : ∀ error, (perform formats content call .written).2 = .error error →
    perform formats content call write = (content, .error error)
  adds_one : ∀ link stored, call = .importLink link →
    (perform formats content call write).2 = .ok (.stored stored) →
    loadProfiles (perform formats content call write).1 = loadProfiles content ++ [stored] ∧
      stored.name ∉ (loadProfiles content).map Profile.name
  replaces : ∀ toml count parsed, call = .importToml toml →
    profilesFromToml formats toml = .ok parsed →
    (perform formats content call write).2 = .ok (.imported count) →
    Replaces (entries parsed) (loadProfiles content)
      (loadProfiles (perform formats content call write).1)

theorem foldl_upsert_replaces (entries list : List Profile) :
    Replaces entries list
      (entries.foldl (fun list entry ↦ upsert Profile.name entry list) list) := by
  constructor
  · refine filter_foldl_upsert Profile.name (fun entry hentry other hother ↦ ?_) list
    have hmem : other.name ∈ entries.map Profile.name := hother ▸ List.mem_map_of_mem hentry
    simp only [hmem, not_true_eq_false, decide_false]
  · intro name hname
    obtain ⟨entry, hentry, rfl⟩ := List.mem_map.mp hname
    have hfound : (entries.reverse.find? fun profile ↦ profile.name = entry.name).isSome :=
      List.find?_isSome.mpr ⟨entry, List.mem_reverse.mpr hentry, decide_eq_true rfl⟩
    rw [find?_foldl_upsert, Option.or_of_isSome hfound]

/-- The store keeps its contract after any calls; of a batch the well-formed entries count. -/
theorem store_contract (formats : Formats) (content : FileContent)
    (hcontent : ((loadProfiles content).map Profile.name).Nodup)
    (calls : List (Call × WriteOutcome)) (call : Call) (write : WriteOutcome) :
    StoreContract formats (List.filter wellFormed) (afterCalls formats content calls) call
      write where
  nodup := names_nodup hcontent calls
  error_keeps _ herror := perform_error herror write
  adds_one link stored hcall hperform := by
    subst hcall
    obtain ⟨list, hedit, hnext⟩ := perform_ok hperform
    obtain ⟨profile, -, rfl, hreply⟩ := edit_importLink hedit
    obtain rfl := Reply.stored.inj hreply
    rw [hnext]
    exact ⟨loadProfiles_saved _, uniqueName_not_mem _ _⟩
  replaces toml count parsed hcall hparsed hperform := by
    subst hcall
    obtain ⟨list, hedit, hnext⟩ := perform_ok hperform
    obtain ⟨other, hother, rfl, -⟩ := edit_importToml hedit
    obtain rfl := Except.ok.inj (hparsed.symm.trans hother)
    rw [hnext, loadProfiles_saved]
    exact foldl_upsert_replaces _ _

/-! ### A bundle with a repeated name -/

/-- A bundle that names one profile twice, the second time without servers. -/
def repeatedBundle : String :=
  "[[profiles]]\nname = \"home\"\n[[profiles.servers]]\nname = \"s\"\nhost = \"h\"\nport = 443\n" ++
    "token = \"t\"\nnoise_psk = \"k\"\n[[profiles]]\nname = \"home\"\n"

/-- Formats that know one text. -/
def bundleFormats : Formats where
  json _ := .error "expected value"
  toml text :=
    if text = repeatedBundle then
      .ok (.object [("profiles", .array [
        .object [("name", .string "home"), ("servers", .array [
          .object [("name", .string "s"), ("host", .string "h"), ("port", .integer 443),
            ("token", .string "t"), ("noise_psk", .string "k")]])],
        .object [("name", .string "home")]])])
    else .error "expected a table"
  mismatch _ := "invalid type"
  base64 _ := .error "invalid symbol"
  base64UrlSafe _ := .error "invalid symbol"
  base64UrlSafeNoPad _ := .error "invalid symbol"

/-- The entries of the bundle. -/
def repeatedEntries : List Profile :=
  [{ name := "home"
     servers := [{ name := "s", host := "h", port := 443, token := "t", noisePsk := "k" }] },
    { name := "home" }]

/-- The last entry of a repeated name does not win when it is skipped. -/
theorem store_contract_literal : ¬ ∀ (formats : Formats) (content : FileContent),
    ((loadProfiles content).map Profile.name).Nodup →
      ∀ (calls : List (Call × WriteOutcome)) (call : Call) (write : WriteOutcome),
        StoreContract formats id (afterCalls formats content calls) call write := by
  intro hclaim
  have hcontract := hclaim bundleFormats .absent List.nodup_nil [] (.importToml repeatedBundle)
    .written
  have hreplaces := hcontract.replaces repeatedBundle 1 repeatedEntries rfl
    (by decide +kernel) (by decide +kernel)
  exact absurd (hreplaces.2 "home" (by decide +kernel)) (by decide +kernel)

/-- Two imports of the bundle into an empty store. -/
theorem store_contract_bundle : StoreContract bundleFormats (List.filter wellFormed)
    (afterCalls bundleFormats .absent [(.importToml repeatedBundle, .written)])
    (.importToml repeatedBundle) .written :=
  store_contract bundleFormats .absent List.nodup_nil [(.importToml repeatedBundle, .written)]
    (.importToml repeatedBundle) .written

end EntroTunnel.Desktop
