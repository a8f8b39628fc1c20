import EntroTunnel.Client.Profile
import EntroTunnel.Foundation.FileWrite
import EntroTunnel.Foundation.PartialRun
import EntroTunnel.Foundation.Places

/-!
# The device-local state of the desktop app

`settings.json` holds the connection settings and the active profile. Three commands load the whole
state, change one part and save the whole state: `set_settings` and `set_active_profile`, which run
on the main thread one at a time, and `connect_profile`, which runs on any thread beside them. No
lock keeps them apart. A save truncates the file when it opens it and then writes piece by piece; a
file that cannot be parsed loads as the default state.

`saved` is the settings that the last completed `set_settings` call was given; no step reads it. A
call that loaded the state before that call saved it will put the old settings back. `settings_kept`
is the condition under which none does.
-/

set_option autoImplicit false
set_option relaxedAutoImplicit false

namespace EntroTunnel.Desktop

open EntroTunnel.Core EntroTunnel.Client EntroTunnel.Foundation

variable {α : Type*}

/-- What `settings.json` stores. -/
structure LocalState where
  settings : ConnectionSettings := {}
  activeProfile : Option String := none
  deriving DecidableEq, Repr

/-- The text of a state, over any type of characters, and what is read from a text. The blank is
what a gap in a file reads as. -/
structure StateFormat (α : Type*) where
  blank : α
  render : LocalState → List α
  parse : List α → Option LocalState

/-- What was written is read back. -/
def StateFormat.RoundTrips (format : StateFormat α) : Prop :=
  ∀ local', format.parse (format.render local') = some local'

/-- `load_state`: the default state when there is no file or when it does not parse. -/
def loadState (format : StateFormat α) (file : Option (List α)) : LocalState :=
  (file.bind format.parse).getD {}

/-! ### Calls -/

/-- A call of a command that saves the state. -/
inductive StateCall
  | setSettings (settings : ConnectionSettings)
  | setActiveProfile (name : Option String)
  | connect (name : String)
  deriving DecidableEq, Repr

namespace StateCall

/-- What the command makes of the state that it loaded. -/
def change (call : StateCall) (loaded : LocalState) : LocalState :=
  match call with
  | .setSettings settings => { loaded with settings }
  | .setActiveProfile name => { loaded with activeProfile := name }
  | .connect name => { loaded with activeProfile := some name }

/-- The settings after the call completed, by what they were before. -/
def settingsAfter (call : StateCall) (saved : ConnectionSettings) : ConnectionSettings :=
  match call with
  | .setSettings settings => settings
  | _ => saved

/-- The command runs on the main thread. -/
def onMainThread : StateCall → Bool
  | .connect _ => false
  | _ => true

/-- A call saves the settings it is given, or those that it loaded. -/
theorem change_settings (call : StateCall) (loaded : LocalState) :
    (call.change loaded).settings = call.settingsAfter loaded.settings := by
  cases call <;> rfl

end StateCall

/-- How far a call is. -/
inductive Progress (α : Type*)
  | starting
  | holding (loaded : LocalState)
  /-- The file is open and its first characters are written. -/
  | writing (text : List α) (offset : ℕ)
  | returned
  deriving DecidableEq, Repr

namespace Progress

def isWriting : Progress α → Bool
  | .writing _ _ => true
  | _ => false

def isReturned : Progress α → Bool
  | .returned => true
  | _ => false

/-- The state that a call has loaded and not saved yet. -/
def loaded : Progress α → Option LocalState
  | .holding loaded => some loaded
  | _ => none

end Progress

/-- The file, with the calls that have been made. -/
structure StateStore (α : Type*) where
  file : Option (List α)
  calls : List (StateCall × Progress α)
  saved : ConnectionSettings
  deriving DecidableEq, Repr

/-- What can happen to the store. -/
inductive StateAction
  | invoke (call : StateCall)
  /-- `connect_profile` does not find its profile. -/
  | notFound (index : ℕ)
  | load (index : ℕ)
  | openFile (index : ℕ)
  | write (index count : ℕ)
  | finish (index : ℕ)
  /-- The file cannot be opened. -/
  | refuse (index : ℕ)
  /-- A write fails. -/
  | fail (index : ℕ)
  deriving DecidableEq, Repr

namespace StateStore

/-- The app with what an earlier run left in the file. -/
def start (format : StateFormat α) (file : Option (List α)) : StateStore α where
  file := file
  calls := []
  saved := (loadState format file).settings

/-- A call goes on. -/
def proceed (store : StateStore α) (index : ℕ) (call : StateCall) (progress : Progress α) :
    StateStore α :=
  { store with calls := store.calls.set index (call, progress) }

def step (format : StateFormat α) (store : StateStore α) : StateAction → Option (StateStore α)
  | .invoke call =>
    if call.onMainThread ∧
        store.calls.any fun entry ↦ entry.1.onMainThread && !entry.2.isReturned then none
    else some { store with calls := store.calls ++ [(call, .starting)] }
  | .notFound index =>
    match store.calls[index]? with
    | some (.connect name, .starting) => some (store.proceed index (.connect name) .returned)
    | _ => none
  | .load index =>
    match store.calls[index]? with
    | some (call, .starting) =>
      some (store.proceed index call (.holding (loadState format store.file)))
    | _ => none
  | .openFile index =>
    match store.calls[index]? with
    | some (call, .holding loaded) =>
      some { store.proceed index call (.writing (format.render (call.change loaded)) 0) with
        file := some [] }
    | _ => none
  | .write index count =>
    match store.calls[index]? with
    | some (call, .writing text offset) =>
      if offset + count ≤ text.length then
        some { store.proceed index call (.writing text (offset + count)) with
          file := store.file.map fun file ↦
            writeAt format.blank file offset (piece text offset count) }
      else none
    | _ => none
  | .finish index =>
    match store.calls[index]? with
    | some (call, .writing text offset) =>
      if offset = text.length then
        some { store.proceed index call .returned with saved := call.settingsAfter store.saved }
      else none
    | _ => none
  | .refuse index =>
    match store.calls[index]? with
    | some (call, .holding _) => some (store.proceed index call .returned)
    | _ => none
  | .fail index =>
    match store.calls[index]? with
    | some (call, .writing _ _) => some (store.proceed index call .returned)
    | _ => none

/-- No call is in progress. -/
def atRest (store : StateStore α) : Bool :=
  store.calls.all fun entry ↦ entry.2.isReturned

/-- A call that opens the file finds no other call writing it and, unless it brings new settings,
still holds the settings that were saved last; and no write fails. -/
def Undisturbed (store : StateStore α) : StateAction → Prop
  | .openFile index =>
    (∀ entry ∈ store.calls, entry.2.isWriting = false) ∧
      ∀ entry ∈ store.calls[index]?, ∀ loaded ∈ entry.2.loaded,
        entry.1.settingsAfter loaded.settings = entry.1.settingsAfter store.saved
  | .fail _ => False
  | _ => True

instance (store : StateStore α) (action : StateAction) : Decidable (store.Undisturbed action) := by
  cases action <;> unfold Undisturbed <;> infer_instance

/-! ### What a step keeps -/

/-- Some call is writing. -/
def Writing (store : StateStore α) (index : ℕ) : Prop :=
  ∃ entry, store.calls[index]? = some entry ∧ entry.2.isWriting = true

/-- While no call is writing, the file has the settings that were saved last. A call that is writing
is the only one, has written a beginning of its text, and the text has the settings that are saved
when it completes. -/
structure Intact (format : StateFormat α) (store : StateStore α) : Prop where
  quiet : (∀ index, ¬store.Writing index) → (loadState format store.file).settings = store.saved
  writer : ∀ {index : ℕ} {call : StateCall} {text : List α} {offset : ℕ},
    store.calls[index]? = some (call, .writing text offset) → store.file = some (text.take offset) ∧
      ∃ state, text = format.render state ∧ state.settings = call.settingsAfter store.saved
  alone : ∀ {first second : ℕ}, store.Writing first → store.Writing second → first = second

variable {format : StateFormat α} {store next : StateStore α} {index other : ℕ} {call : StateCall}
  {before after : Progress α}

theorem getElem?_proceed (hat : store.calls[index]? = some (call, before)) :
    (store.proceed index call after).calls[other]? =
      if index = other then some (call, after) else store.calls[other]? :=
  getElem?_set_of_eq_some hat (call, after) other

/-- Which calls are writing after a call went on. -/
theorem writing_proceed (hat : store.calls[index]? = some (call, before)) :
    (store.proceed index call after).Writing other ↔
      (index = other ∧ after.isWriting = true) ∨ (index ≠ other ∧ store.Writing other) := by
  unfold Writing
  rw [getElem?_proceed hat]
  by_cases hindex : index = other <;> simp [hindex]

theorem writing_of_at (hat : store.calls[index]? = some (call, before)) :
    store.Writing index ↔ before.isWriting = true := by
  unfold Writing
  simp [hat]

/-- A call that neither was writing nor begins to changes nothing about the file. -/
theorem Intact.proceed (hintact : Intact format store)
    (hat : store.calls[index]? = some (call, before)) (hbefore : before.isWriting = false)
    (hafter : after.isWriting = false) : Intact format (store.proceed index call after) := by
  have hwriting : ∀ other,
      (store.proceed index call after).Writing other ↔ store.Writing other := by
    intro other
    rw [writing_proceed hat]
    by_cases hindex : index = other
    · subst hindex
      simp [writing_of_at hat, hbefore, hafter]
    · simp [hindex]
  constructor
  · intro hquiet
    exact hintact.quiet fun other ↦ (not_congr (hwriting other)).mp (hquiet other)
  · intro other writer text offset hother
    rw [getElem?_proceed hat] at hother
    split_ifs at hother with hindex
    · obtain ⟨-, rfl⟩ := Prod.mk.inj (Option.some.inj hother)
      exact absurd hafter (by simp [Progress.isWriting])
    · exact hintact.writer hother
  · intro first second hfirst hsecond
    exact hintact.alone ((hwriting first).mp hfirst) ((hwriting second).mp hsecond)

/-- The call at an index after a new one came in. -/
theorem getElem?_invoke {entry : StateCall × Progress α} (call : StateCall) :
    (store.calls ++ [(call, .starting)])[other]? = some entry ↔
      store.calls[other]? = some entry ∨
        (other = store.calls.length ∧ entry = (call, .starting)) :=
  getElem?_concat_eq_some.trans (or_congr_right (and_congr_right' eq_comm))

/-- A new call changes nothing about the file. -/
theorem Intact.invoke (hintact : Intact format store) (call : StateCall) :
    Intact format { store with calls := store.calls ++ [(call, .starting)] } := by
  have hwriting : ∀ other,
      Writing { store with calls := store.calls ++ [(call, .starting)] } other ↔
      store.Writing other := by
    intro other
    constructor
    · rintro ⟨entry, hentry, hprogress⟩
      rcases (getElem?_invoke call).mp hentry with hentry | ⟨-, rfl⟩
      · exact ⟨entry, hentry, hprogress⟩
      · exact absurd hprogress Bool.false_ne_true
    · rintro ⟨entry, hentry, hprogress⟩
      exact ⟨entry, (getElem?_invoke call).mpr (Or.inl hentry), hprogress⟩
  constructor
  · intro hquiet
    exact hintact.quiet fun other ↦ (not_congr (hwriting other)).mp (hquiet other)
  · intro other writer text offset hother
    rcases (getElem?_invoke call).mp hother with hother | ⟨-, heq⟩
    · exact hintact.writer hother
    · exact absurd (Prod.mk.inj heq).2 (by simp)
  · intro first second hfirst hsecond
    exact hintact.alone ((hwriting first).mp hfirst) ((hwriting second).mp hsecond)

/-- The only writer opens the file, with the settings that are to be saved. -/
theorem intact_openFile {loaded : LocalState}
    (hat : store.calls[index]? = some (call, .holding loaded))
    (hquiet : ∀ entry ∈ store.calls, entry.2.isWriting = false)
    (hfresh : call.settingsAfter loaded.settings = call.settingsAfter store.saved) :
    Intact format { store.proceed index call (.writing (format.render (call.change loaded)) 0) with
      file := some [] } := by
  have hnone : ∀ other, ¬store.Writing other := by
    rintro other ⟨entry, hentry, hprogress⟩
    rw [hquiet entry (List.mem_of_getElem? hentry)] at hprogress
    exact Bool.false_ne_true hprogress
  constructor
  · intro hnext
    exact absurd ((writing_proceed hat).mpr (Or.inl ⟨rfl, rfl⟩)) (hnext index)
  · intro other writer text offset hother
    have hother := (getElem?_proceed hat).symm.trans hother
    split_ifs at hother with hindex
    · obtain ⟨rfl, hwriting⟩ := Prod.mk.inj (Option.some.inj hother)
      obtain ⟨rfl, rfl⟩ := Progress.writing.inj hwriting
      exact ⟨rfl, _, rfl, (call.change_settings loaded).trans hfresh⟩
    · exact absurd ⟨_, hother, rfl⟩ (hnone other)
  · intro first second hfirst hsecond
    rcases (writing_proceed hat).mp hfirst with ⟨rfl, -⟩ | ⟨-, hfirst⟩
    · rcases (writing_proceed hat).mp hsecond with ⟨rfl, -⟩ | ⟨-, hsecond⟩
      · rfl
      · exact absurd hsecond (hnone second)
    · exact absurd hfirst (hnone first)

/-- The writer writes the next piece. -/
theorem Intact.write (hintact : Intact format store) {text : List α} {offset count : ℕ}
    (hat : store.calls[index]? = some (call, .writing text offset))
    (hfits : offset + count ≤ text.length) :
    Intact format { store.proceed index call (.writing text (offset + count)) with
      file := store.file.map fun file ↦
        writeAt format.blank file offset (piece text offset count) } := by
  have hwriter : store.Writing index := (writing_of_at hat).mpr rfl
  have hwriting : ∀ other, Writing { store.proceed index call (.writing text (offset + count)) with
      file := store.file.map fun file ↦
        writeAt format.blank file offset (piece text offset count) } other → index = other := by
    intro other hother
    rcases (writing_proceed hat).mp hother with ⟨heq, -⟩ | ⟨-, hother⟩
    · exact heq
    · exact hintact.alone hwriter hother
  obtain ⟨hfile, hstate⟩ := hintact.writer hat
  constructor
  · intro hnext
    exact absurd ((writing_proceed hat).mpr (Or.inl ⟨rfl, rfl⟩)) (hnext index)
  · intro other writer written reached hother
    obtain rfl := hwriting other ⟨_, hother, rfl⟩
    have hother := (getElem?_proceed hat).symm.trans hother
    rw [if_pos rfl] at hother
    obtain ⟨rfl, hwriting⟩ := Prod.mk.inj (Option.some.inj hother)
    obtain ⟨rfl, rfl⟩ := Progress.writing.inj hwriting
    refine ⟨?_, hstate⟩
    simp only [hfile, Option.map_some]
    rw [writeAt_take hfits]
  · intro first second hfirst hsecond
    exact (hwriting first hfirst).symm.trans (hwriting second hsecond)

/-- The writer completes. -/
theorem Intact.finish (hround : format.RoundTrips) (hintact : Intact format store)
    {text : List α} (hat : store.calls[index]? = some (call, .writing text text.length)) :
    Intact format
      { store.proceed index call .returned with saved := call.settingsAfter store.saved } := by
  have hwriter : store.Writing index := (writing_of_at hat).mpr rfl
  have hnone : ∀ other, ¬Writing
      { store.proceed index call .returned with
        saved := call.settingsAfter store.saved } other := by
    intro other hother
    rcases (writing_proceed hat).mp hother with ⟨-, hreturned⟩ | ⟨hne, hother⟩
    · exact Bool.false_ne_true hreturned
    · exact hne (hintact.alone hwriter hother)
  obtain ⟨hfile, state, rfl, hsettings⟩ := hintact.writer hat
  constructor
  · intro _
    have hload : loadState format store.file = state := by
      rw [loadState, hfile, List.take_length, Option.bind_some, hround, Option.getD_some]
    exact (congrArg LocalState.settings hload).trans hsettings
  · intro other writer text offset hother
    exact absurd ⟨_, hother, rfl⟩ (hnone other)
  · intro first second hfirst
    exact absurd hfirst (hnone first)

/-- Every undisturbed step keeps the file intact. -/
theorem Intact.step (hround : format.RoundTrips) (hintact : Intact format store)
    {action : StateAction} (hundisturbed : store.Undisturbed action)
    (hstep : store.step format action = some next) : Intact format next := by
  cases action with
  | invoke call =>
    simp only [StateStore.step] at hstep
    split_ifs at hstep
    exact Option.some.inj hstep ▸ hintact.invoke call
  | fail index => exact absurd hundisturbed id
  | notFound index =>
    simp only [StateStore.step] at hstep
    split at hstep
    next name hat => exact Option.some.inj hstep ▸ hintact.proceed hat rfl rfl
    next => exact absurd hstep (by simp)
  | load index =>
    simp only [StateStore.step] at hstep
    split at hstep
    next call hat => exact Option.some.inj hstep ▸ hintact.proceed hat rfl rfl
    next => exact absurd hstep (by simp)
  | refuse index =>
    simp only [StateStore.step] at hstep
    split at hstep
    next call loaded hat => exact Option.some.inj hstep ▸ hintact.proceed hat rfl rfl
    next => exact absurd hstep (by simp)
  | openFile index =>
    simp only [StateStore.step] at hstep
    split at hstep
    next call loaded hat =>
      exact Option.some.inj hstep ▸
        intact_openFile hat hundisturbed.1 (hundisturbed.2 _ hat loaded rfl)
    next => exact absurd hstep (by simp)
  | write index count =>
    simp only [StateStore.step] at hstep
    split at hstep
    next call text offset hat =>
      split_ifs at hstep with hfits
      exact Option.some.inj hstep ▸ hintact.write hat hfits
    next => exact absurd hstep (by simp)
  | finish index =>
    simp only [StateStore.step] at hstep
    split at hstep
    next call text offset hat =>
      split_ifs at hstep with hoffset
      subst hoffset
      exact Option.some.inj hstep ▸ hintact.finish hround hat
    next => exact absurd hstep (by simp)

theorem intact_start (format : StateFormat α) (file : Option (List α)) :
    Intact format (start format file) where
  quiet _ := rfl
  writer hat := absurd hat (by simp [start])
  alone hfirst := absurd hfirst (by simp [Writing, start])

/-- In every state of an undisturbed run in which no call is in progress, the file has the settings
of the `set_settings` call that completed last. -/
theorem settings_kept (format : StateFormat α) (hround : format.RoundTrips)
    (file : Option (List α)) (actions : List StateAction) (store : StateStore α)
    (hrun : run (guarded Undisturbed (step format)) (start format file) actions = some store)
    (hrest : store.atRest = true) : (loadState format store.file).settings = store.saved := by
  have hintact : Intact format store :=
    guarded_preserves (fun _ _ _ hintact hundisturbed hstep ↦
      Intact.step hround hintact hundisturbed hstep) hrun (intact_start format file)
  refine hintact.quiet fun index ⟨entry, hentry, hwriting⟩ ↦ ?_
  have hreturned := List.all_eq_true.mp hrest entry (List.mem_of_getElem? hentry)
  obtain ⟨call, progress⟩ := entry
  cases progress <;> simp [Progress.isWriting, Progress.isReturned] at hwriting hreturned

section Example

/-- Each state is one character. -/
def stateText : StateFormat (Option LocalState) where
  blank := none
  render state := [some state]
  parse text :=
    match text with
    | [some state] => some state
    | _ => none

theorem stateText_roundTrips : stateText.RoundTrips := fun _ ↦ rfl

/-- `connect_profile` loads the state, `set_settings` is called and completes, and `connect_profile`
saves what it loaded. -/
def settingsBetween : List StateAction :=
  [.invoke (.connect "home"), .load 0,
    .invoke (.setSettings { mode := .httpProxy }), .load 1, .openFile 1, .write 1 1, .finish 1,
    .openFile 0, .write 0 1, .finish 0]

/-- The settings of a completed call are lost to a connect that loaded before. -/
theorem settings_lost : ¬ ∀ (format : StateFormat (Option LocalState)), format.RoundTrips →
    ∀ (file : Option (List (Option LocalState))) (actions : List StateAction)
      (store : StateStore (Option LocalState)),
      run (step format) (start format file) actions = some store → store.atRest = true →
        (loadState format store.file).settings = store.saved := by
  intro hclaim
  obtain ⟨store, hrun, hstore⟩ := Option.any_eq_true _ _ |>.mp
    (by decide +kernel : (run (step stateText) (start stateText none) settingsBetween).any
      (fun store ↦ store.atRest &&
        decide ((loadState stateText store.file).settings ≠ store.saved)) = true)
  rw [Bool.and_eq_true, decide_eq_true_eq] at hstore
  exact hstore.2 (hclaim stateText stateText_roundTrips none settingsBetween store hrun hstore.1)

/-- `set_settings` completes while `connect_profile` has not loaded the state yet. -/
def settingsBefore : List StateAction :=
  [.invoke (.connect "home"), .invoke (.setSettings { mode := .httpProxy }), .load 1, .openFile 1,
    .write 1 1, .finish 1, .load 0, .openFile 0, .write 0 1, .finish 0]

/-- The settings that `set_settings` has saved are those in the file after `connect_profile` has
saved its own. -/
theorem settings_kept_before : ∃ store,
    run (guarded Undisturbed (step stateText)) (start stateText none) settingsBefore = some store ∧
      (loadState stateText store.file).settings = { mode := .httpProxy } := by
  obtain ⟨store, hrun, hstore⟩ := Option.any_eq_true _ _ |>.mp
    (by decide +kernel :
      (run (guarded Undisturbed (step stateText)) (start stateText none) settingsBefore).any
        (fun store ↦ store.atRest && decide (store.saved = { mode := .httpProxy })) = true)
  rw [Bool.and_eq_true, decide_eq_true_eq] at hstore
  exact ⟨store, hrun, (settings_kept stateText stateText_roundTrips none settingsBefore store hrun
    hstore.1).trans hstore.2⟩

end Example

end StateStore

end EntroTunnel.Desktop
