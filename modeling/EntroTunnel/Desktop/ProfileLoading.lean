import EntroTunnel.Desktop.ProfileStore

/-!
# What loading makes of a file

`load_profiles` takes the whole file as a list of profiles, or the whole file as a list of old
entries, or gives up and starts from nothing. A command then writes the list back, so that a file
in which one entry cannot be read loses all others with it (`keepsProfiles_iff`). A file of old
entries is loaded entry by entry (`loadProfiles_old`), but only their lists of servers are taken:
the one server in the flat fields of an entry is dropped (`upgrade_active_iff`).
-/

set_option autoImplicit false
set_option relaxedAutoImplicit false

namespace EntroTunnel.Desktop

open EntroTunnel.Client EntroTunnel.Foundation EntroTunnel.Foundation.Document

/-! ### Old entries -/

/-- A file of old entries is loaded as one profile for each entry, whichever format accepts it. -/
theorem loadProfiles_old {value : Document} {old : List ClientConfig}
    (hold : readList readConfig value = some old) :
    loadProfiles (.document value) = old.map ClientConfig.toProfile := by
  rw [loadProfiles, hold]
  cases hlist : readList readProfile value with
  | none => rfl
  | some list =>
    obtain ⟨elements, rfl, hprofiles⟩ := readList_eq_some.mp hlist
    obtain ⟨_, heq, hconfigs⟩ := readList_eq_some.mp hold
    obtain rfl := Document.array.inj heq
    -- Both formats accept every element, and an element that both accept is one profile.
    change list = old.map ClientConfig.toProfile
    clear hlist hold heq
    induction hprofiles generalizing old with
    | nil =>
      obtain rfl := List.forall₂_nil_left_iff.mp hconfigs
      rfl
    | cons hprofile _ ih =>
      obtain ⟨config, rest, hconfig, hrest, rfl⟩ := List.forall₂_cons_left_iff.mp hconfigs
      rw [List.map_cons, toProfile_of_reads hprofile hconfig, ih hrest]

/-- With a list of servers, an old entry and its profile agree on the active server. -/
theorem activeServer_toProfile {config : ClientConfig} (hservers : config.servers ≠ []) :
    config.toProfile.activeServer = config.activeServer := by
  obtain ⟨first, rest, hcons⟩ := List.exists_cons_of_ne_nil hservers
  simp only [Profile.activeServer, ClientConfig.toProfile, ClientConfig.activeServer,
    ClientConfig.activeServer?, hcons]
  cases config.selectedServer <;> rfl

/-- Without one, the profile has no active server. -/
theorem activeServer_toProfile_nil {config : ClientConfig} (hservers : config.servers = []) :
    config.toProfile.activeServer = .error "profile has no servers" := by
  simp only [Profile.activeServer, ClientConfig.toProfile, hservers]

/-- What an old entry without a list of servers has as its active server. -/
theorem activeServer_nil {config : ClientConfig} (hservers : config.servers = []) :
    (config.serverHost = "" ∧ config.activeServer = .error "no servers configured") ∨
      config.serverHost ≠ "" ∧ ∃ server, config.activeServer = .ok server := by
  by_cases hhost : config.serverHost = ""
  · refine Or.inl ⟨hhost, ?_⟩
    simp only [ClientConfig.activeServer, ClientConfig.activeServer?, hservers, hhost,
      if_true]
  · refine Or.inr ⟨hhost, ?_⟩
    simp only [ClientConfig.activeServer, ClientConfig.activeServer?, hservers, hhost,
      if_false]
    exact ⟨_, rfl⟩

/-- Profile and entry have the same active server exactly when the entry has a list of servers. -/
theorem activeServer_eq_iff (config : ClientConfig) :
    config.toProfile.activeServer = config.activeServer ↔ config.servers ≠ [] := by
  refine ⟨fun heq hservers ↦ ?_, activeServer_toProfile⟩
  rw [activeServer_toProfile_nil hservers] at heq
  rcases activeServer_nil hservers with ⟨-, hactive⟩ | ⟨-, server, hactive⟩ <;>
    simp [hactive] at heq

/-- They have the same server, or none, exactly when the entry has a list of servers or no flat
server either. -/
theorem activeServer_toOption_eq_iff (config : ClientConfig) :
    config.toProfile.activeServer.toOption = config.activeServer.toOption ↔
      config.servers ≠ [] ∨ config.serverHost = "" := by
  by_cases hservers : config.servers = []
  · rw [activeServer_toProfile_nil hservers]
    rcases activeServer_nil hservers with ⟨hhost, hactive⟩ | ⟨hhost, server, hactive⟩
    · simp [hactive, hhost, Except.toOption]
    · simp [hactive, hservers, hhost, Except.toOption]
  · simp [activeServer_toProfile hservers, hservers]

/-- After an upgrade there is one profile for each old entry, in order and under its name, and each
has the active server of its entry exactly when every entry has a list of servers. Errors aside, it
is enough that every other entry has no flat server either. -/
theorem upgrade_active_iff (value : Document) (old : List ClientConfig)
    (hold : readList readConfig value = some old) :
    (loadProfiles (.document value)).map Profile.name = old.map (fun config ↦ config.name) ∧
      ((loadProfiles (.document value)).map Profile.activeServer =
          old.map ClientConfig.activeServer ↔ ∀ config ∈ old, config.servers ≠ []) ∧
      ((loadProfiles (.document value)).map (fun profile ↦ profile.activeServer.toOption) =
          old.map (fun config ↦ config.activeServer.toOption) ↔
        ∀ config ∈ old, config.servers ≠ [] ∨ config.serverHost = "") := by
  rw [loadProfiles_old hold]
  refine ⟨?_, ?_, ?_⟩
  · rw [List.map_map]
    rfl
  · rw [List.map_map, List.map_inj_left]
    exact forall₂_congr fun config _ ↦ activeServer_eq_iff config
  · rw [List.map_map, List.map_inj_left]
    exact forall₂_congr fun config _ ↦ activeServer_toOption_eq_iff config

/-- An entry of an older build with its one server in the flat fields, as it is stored. -/
def flatEntry : Document :=
  .object [("name", .string "home"), ("mode", .string "vpn"),
    ("server_host", .string "vpn.example.org"), ("server_port", .integer 443),
    ("token", .string "t"), ("noise_psk", .string "k")]

/-- The same entry. -/
def flatConfig : ClientConfig where
  name := "home"
  mode := .vpn
  serverHost := "vpn.example.org"
  serverPort := 443
  token := "t"
  noisePsk := "k"

/-- The profile of the flat entry has no server any more. -/
theorem upgrade_active_flat : ¬ ∀ (value : Document) (old : List ClientConfig),
    readList readConfig value = some old →
      (loadProfiles (.document value)).map Profile.name = old.map (fun config ↦ config.name) ∧
        (loadProfiles (.document value)).map Profile.activeServer =
          old.map ClientConfig.activeServer := by
  intro hclaim
  have hactive := (hclaim (.array [flatEntry]) [flatConfig] (by decide +kernel)).2
  exact absurd (congrArg (List.map Except.toOption) hactive) (by decide +kernel)

/-- The first and the third part for the flat entry. -/
theorem upgrade_active_flatConfig :
    (loadProfiles (.document (.array [flatEntry]))).map Profile.name = ["home"] ∧
      (loadProfiles (.document (.array [flatEntry]))).map Profile.activeServer ≠
        [flatConfig].map ClientConfig.activeServer := by
  have hupgrade := upgrade_active_iff (.array [flatEntry]) [flatConfig] (by decide +kernel)
  refine ⟨hupgrade.1, fun hactive ↦ ?_⟩
  exact hupgrade.2.1.mp hactive flatConfig (List.mem_singleton_self _) rfl

/-! ### Files that cannot be read as a whole -/

/-- The whole file is a list in the current format or in the old one. -/
def FileContent.readsAsList : FileContent → Bool
  | .document value =>
    (readList readProfile value).isSome || (readList readConfig value).isSome
  | _ => false

/-- Every element of the old file that is by itself a profile under an untouched name is an element
of the new file. -/
def KeepsProfiles (touched : List String) (before after : FileContent) : Prop :=
  ∀ element ∈ before.elements, ∀ profile, readProfile element = some profile →
    profile.name ∉ touched → ∃ kept ∈ after.elements, readProfile kept = some profile

/-- From a file that reads as a list every element that is a profile is loaded. -/
theorem mem_loadProfiles {content : FileContent} (hreads : content.readsAsList)
    {element : Document} (helement : element ∈ content.elements) {profile : Profile}
    (hprofile : readProfile element = some profile) : profile ∈ loadProfiles content := by
  cases content with
  | document value =>
    cases hold : readList readConfig value with
    | some old =>
      obtain ⟨elements, rfl, hconfigs⟩ := readList_eq_some.mp hold
      obtain ⟨config, hconfig, hread⟩ := exists_mem_of_forall₂ hconfigs helement
      rw [loadProfiles_old hold, toProfile_of_reads hprofile hread]
      exact List.mem_map_of_mem hconfig
    | none =>
      rw [FileContent.readsAsList, hold, Option.isSome_none, Bool.or_false] at hreads
      obtain ⟨list, hlist⟩ := Option.isSome_iff_exists.mp hreads
      obtain ⟨elements, rfl, hprofiles⟩ := readList_eq_some.mp hlist
      obtain ⟨other, hother, hread⟩ := exists_mem_of_forall₂ hprofiles helement
      obtain rfl := Option.some.inj (hprofile.symm.trans hread)
      rw [loadProfiles, hlist]
      exact hother
  | absent | unreadable elements | malformed elements => exact absurd hreads Bool.false_ne_true

/-- From any other file nothing is loaded. -/
theorem loadProfiles_of_not_reads {content : FileContent} (hreads : ¬content.readsAsList) :
    loadProfiles content = [] := by
  cases content with
  | document value =>
    simp only [FileContent.readsAsList, Bool.or_eq_true, not_or, Bool.not_eq_true,
      Option.isSome_eq_false_iff, Option.isNone_iff_eq_none] at hreads
    simp only [loadProfiles, hreads.1, hreads.2]
  | absent | unreadable elements | malformed elements => rfl

/-- A call that succeeds keeps the profiles under untouched names exactly when the whole file reads
as a list, or holds no such profile. -/
theorem keepsProfiles_iff (formats : Formats) (content : FileContent) (call : Call)
    (write : WriteOutcome) (reply : Reply)
    (hperform : (perform formats content call write).2 = .ok reply) :
    KeepsProfiles (touched formats (loadProfiles content) call) content
        (perform formats content call write).1 ↔
      content.readsAsList ∨
        ∀ element ∈ content.elements, ∀ profile, readProfile element = some profile →
          profile.name ∈ touched formats (loadProfiles content) call := by
  obtain ⟨list, hedit, hnext⟩ := perform_ok hperform
  have hfilter := edit_filter hedit
  rw [hnext]
  constructor
  · intro hkeeps
    by_cases hreads : content.readsAsList
    · exact Or.inl hreads
    · refine Or.inr fun element helement profile hprofile ↦ ?_
      by_contra htouched
      obtain ⟨kept, hkept, hread⟩ := hkeeps element helement profile hprofile htouched
      obtain ⟨other, hother, rfl⟩ := List.mem_map.mp hkept
      obtain rfl := Option.some.inj ((readProfile_write other).symm.trans hread)
      -- The edit started from nothing, so that nothing is under an untouched name.
      have hmem := hfilter ▸ List.mem_filter.mpr ⟨hother, decide_eq_true htouched⟩
      rw [loadProfiles_of_not_reads hreads] at hmem
      exact absurd hmem List.not_mem_nil
  · rintro (hreads | hnone) element helement profile hprofile huntouched
    · have hmem := mem_loadProfiles hreads helement hprofile
      have hmem := hfilter.symm ▸ List.mem_filter.mpr ⟨hmem, decide_eq_true huntouched⟩
      exact ⟨writeProfile profile, List.mem_map_of_mem (List.mem_of_mem_filter hmem),
        readProfile_write profile⟩
    · exact absurd (hnone element helement profile hprofile) huntouched

/-- Two stored profiles, the second with servers of the wrong shape. -/
def mixedFile : FileContent :=
  .document (.array [
    .object [("name", .string "home"), ("servers", .array [])],
    .object [("name", .string "work"), ("servers", .string "none")]])

/-- Saving a third profile loses the first. -/
theorem keepsProfiles_mixed : ¬ ∀ (formats : Formats) (content : FileContent) (call : Call)
    (write : WriteOutcome) (reply : Reply),
      (perform formats content call write).2 = .ok reply →
        KeepsProfiles (touched formats (loadProfiles content) call) content
          (perform formats content call write).1 := by
  intro hclaim
  obtain ⟨kept, hkept, hread⟩ := hclaim bundleFormats mixedFile (.upsert { name := "new" }) .written
    .done rfl _ List.mem_cons_self { name := "home" } (by decide +kernel) (by decide +kernel)
  obtain rfl := List.mem_singleton.mp hkept
  exact absurd hread (by decide +kernel)

/-- The same for the condition. -/
theorem keepsProfiles_home :
    KeepsProfiles ["new"] (.document (.array [writeProfile { name := "home" }]))
    (perform bundleFormats (.document (.array [writeProfile { name := "home" }]))
      (.upsert { name := "new" }) .written).1 :=
  (keepsProfiles_iff bundleFormats (.document (.array [writeProfile { name := "home" }]))
    (.upsert { name := "new" }) .written .done rfl).mpr (Or.inl (by decide +kernel))

end EntroTunnel.Desktop
