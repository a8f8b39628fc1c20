import EntroTunnel.Foundation.FileWrite
import EntroTunnel.Foundation.PartialRun
import EntroTunnel.Foundation.Places
import EntroTunnel.Server.PeerRequests

/-!
# The peer registry under concurrent administration

Any number of admin requests are handled at a time. A handler checks and changes the list of peers
under the write lock, and `persist` renders the configuration and writes the file under a read lock
that it takes later. Several handlers may be in `persist` at once: the file is truncated when it is
opened and written piece by piece, so their writes interleave. No change of the list falls between
the rendering and the end of the writing, since the write lock waits for all readers.

`toml` stands for the serialization of the configuration, over any type of characters. The history
lists the changes in the order in which they were made, each with the index of its request; no step
reads it.

The main result is `registry_consistent`: tokens and IPs stay distinct, a change holds until a later
one undoes it, and the file has the peers of memory whenever no request is in flight.
-/

set_option autoImplicit false
set_option relaxedAutoImplicit false

namespace EntroTunnel.Server

open EntroTunnel.Core EntroTunnel.Foundation

variable {α : Type*}

/-- The text that `save` writes for a configuration, and what `load` reads from a text. The blank is
what a gap in a file reads as. -/
structure Toml (α : Type*) where
  blank : α
  render : ServerConfig → List α
  parse : List α → Option ServerConfig

/-- What was written is read back. -/
def Toml.RoundTrips (toml : Toml α) : Prop :=
  ∀ config, toml.parse (toml.render config) = some config

/-! ### Handlers -/

/-- How far the handler of a request is. -/
inductive Handling (α : Type*)
  /-- Before the write lock. -/
  | waiting (authorized : Bool)
  /-- The list has changed; `persist` waits for the read lock. -/
  | changed
  /-- Under the read lock, with the rendered configuration. -/
  | saving (text : List α)
  /-- The file is open and its first bytes are written. -/
  | writing (text : List α) (offset : ℕ)
  | answered (status : StatusCode)
  deriving DecidableEq, Repr

namespace Handling

/-- The handler holds the read lock. -/
def reading : Handling α → Bool
  | .saving _ | .writing _ _ => true
  | _ => false

/-- The change is made and the file has not been opened for it yet. -/
def unsaved : Handling α → Bool
  | .changed | .saving _ => true
  | _ => false

def isAnswered : Handling α → Bool
  | .answered _ => true
  | _ => false

end Handling

/-- The configuration in memory and on disk, with the requests that have come in. -/
structure PeerRegistry (α : Type*) where
  config : ServerConfig
  file : List α
  requests : List (PeerRequest × Handling α)
  /-- The changes in the order in which they were made. -/
  history : List (ℕ × PeerRequest)
  deriving DecidableEq, Repr

/-- What can happen to the registry. -/
inductive RegistryAction
  | arrive (authorized : Bool) (request : PeerRequest)
  | change (index : ℕ)
  | lock (index : ℕ)
  | openFile (index : ℕ)
  | write (index count : ℕ)
  | finish (index : ℕ)
  | fail (index : ℕ)
  deriving DecidableEq, Repr

/-- The action is not the failure of a save. -/
def RegistryAction.Saves : RegistryAction → Prop
  | .fail _ => False
  | _ => True

namespace PeerRegistry

/-- A server that was started with this configuration and this file. -/
def start (config : ServerConfig) (file : List α) : PeerRegistry α :=
  { config, file, requests := [], history := [] }

/-- The handler of a request goes on. -/
def proceed (registry : PeerRegistry α) (index : ℕ) (request : PeerRequest)
    (handling : Handling α) : PeerRegistry α :=
  { registry with requests := registry.requests.set index (request, handling) }

/-- The change of the list under the write lock. -/
def apply (registry : PeerRegistry α) (index : ℕ) (request : PeerRequest) : PeerRegistry α :=
  { registry.proceed index request .changed with
    config := { registry.config with peers := request.applied registry.config.peers }
    history := registry.history ++ [(index, request)] }

/-- One step of a handler, or a request that comes in. -/
def step (toml : Toml α) (registry : PeerRegistry α) : RegistryAction → Option (PeerRegistry α)
  | .arrive authorized request =>
    some { registry with requests := registry.requests ++ [(request, .waiting authorized)] }
  | .change index =>
    match registry.requests[index]? with
    | some (request, .waiting authorized) =>
      if authorized then
        -- the write lock waits for the readers; the section under it is one step
        if registry.requests.any fun entry ↦ entry.2.reading then none
        else if request.Changes registry.config.peers then some (registry.apply index request)
        else some (registry.proceed index request (.answered request.refusal))
      else some (registry.proceed index request (.answered .unauthorized))
    | _ => none
  | .lock index =>
    match registry.requests[index]? with
    | some (request, .changed) =>
      some (registry.proceed index request (.saving (toml.render registry.config)))
    | _ => none
  | .openFile index =>
    match registry.requests[index]? with
    | some (request, .saving text) =>
      some { registry.proceed index request (.writing text 0) with file := [] }
    | _ => none
  | .write index count =>
    match registry.requests[index]? with
    | some (request, .writing text offset) =>
      if offset + count ≤ text.length then
        some { registry.proceed index request (.writing text (offset + count)) with
          file := writeAt toml.blank registry.file offset (piece text offset count) }
      else none
    | _ => none
  | .finish index =>
    match registry.requests[index]? with
    | some (request, .writing text offset) =>
      if offset = text.length then some (registry.proceed index request (.answered request.success))
      else none
    | _ => none
  | .fail index =>
    match registry.requests[index]? with
    | some (request, handling) =>
      if handling.reading then
        some (registry.proceed index request (.answered .internalServerError))
      else none
    | none => none

/-- What a step does whose save does not fail. -/
inductive Stepped (toml : Toml α) (registry : PeerRegistry α) :
    RegistryAction → PeerRegistry α → Prop
  | arrive (authorized : Bool) (request : PeerRequest) :
    Stepped toml registry (.arrive authorized request)
      { registry with requests := registry.requests ++ [(request, .waiting authorized)] }
  | change (index : ℕ) (request : PeerRequest)
    (hat : registry.requests[index]? = some (request, .waiting true))
    (hlock : ∀ entry ∈ registry.requests, entry.2.reading = false)
    (hchanges : request.Changes registry.config.peers) :
    Stepped toml registry (.change index) (registry.apply index request)
  | refuse (index : ℕ) (request : PeerRequest) (authorized : Bool) (status : StatusCode)
    (hat : registry.requests[index]? = some (request, .waiting authorized))
    (hstatus : status.isError = true) :
    Stepped toml registry (.change index) (registry.proceed index request (.answered status))
  | lock (index : ℕ) (request : PeerRequest)
    (hat : registry.requests[index]? = some (request, .changed)) :
    Stepped toml registry (.lock index)
      (registry.proceed index request (.saving (toml.render registry.config)))
  | openFile (index : ℕ) (request : PeerRequest) (text : List α)
    (hat : registry.requests[index]? = some (request, .saving text)) :
    Stepped toml registry (.openFile index)
      { registry.proceed index request (.writing text 0) with file := [] }
  | write (index count : ℕ) (request : PeerRequest) (text : List α) (offset : ℕ)
    (hat : registry.requests[index]? = some (request, .writing text offset))
    (hfits : offset + count ≤ text.length) :
    Stepped toml registry (.write index count)
      { registry.proceed index request (.writing text (offset + count)) with
        file := writeAt toml.blank registry.file offset (piece text offset count) }
  | finish (index : ℕ) (request : PeerRequest) (text : List α)
    (hat : registry.requests[index]? = some (request, .writing text text.length)) :
    Stepped toml registry (.finish index)
      (registry.proceed index request (.answered request.success))

variable {toml : Toml α} {registry next : PeerRegistry α} {action : RegistryAction}

theorem stepped_of_step (hsaves : action.Saves) (hstep : registry.step toml action = some next) :
    registry.Stepped toml action next := by
  cases action <;> simp only [step] at hstep
  case arrive authorized request =>
    cases hstep
    exact .arrive authorized request
  case change index =>
    split at hstep
    · split_ifs at hstep with hauthorized hreading hchanges <;> cases hstep
      · subst hauthorized
        refine .change index _ ‹_› (fun entry hmem ↦ ?_) hchanges
        by_contra hheld
        exact hreading (List.any_eq_true.mpr ⟨entry, hmem, Bool.not_eq_false _ ▸ hheld⟩)
      · exact .refuse index _ _ _ ‹_› (PeerRequest.isError_refusal _)
      · exact .refuse index _ _ _ ‹_› rfl
    · cases hstep
  case lock index =>
    split at hstep <;> cases hstep
    exact .lock index _ ‹_›
  case openFile index =>
    split at hstep <;> cases hstep
    exact .openFile index _ _ ‹_›
  case write index count =>
    split at hstep
    · split_ifs at hstep with hfits
      cases hstep
      exact .write index count _ _ _ ‹_› hfits
    · cases hstep
  case finish index =>
    split at hstep
    · split_ifs at hstep with hend
      cases hstep
      subst hend
      exact .finish index _ _ ‹_›
    · cases hstep
  case fail index => exact hsaves.elim

/-- A save that fails answers its request, and touches nothing else. -/
theorem proceed_of_fail {index : ℕ} (hstep : registry.step toml (.fail index) = some next) :
    ∃ request handling, registry.requests[index]? = some (request, handling) ∧
      next = registry.proceed index request (.answered .internalServerError) := by
  simp only [step] at hstep
  split at hstep
  · split_ifs at hstep
    cases hstep
    exact ⟨_, _, ‹_›, rfl⟩
  · cases hstep

/-- Handlers only add to the history. -/
theorem Stepped.history_prefix (hstep : registry.Stepped toml action next) :
    registry.history <+: next.history := by
  cases hstep with
  | change index request hat hlock hchanges => exact List.prefix_append _ _
  | _ => exact List.prefix_refl _

/-! ### Places of the handlers -/

theorem at_proceed_self {index : ℕ} {request other : PeerRequest} {old handling : Handling α}
    (hat : registry.requests[index]? = some (other, old)) :
    (registry.proceed index request handling).requests[index]? = some (request, handling) := by
  obtain ⟨hindex, -⟩ := List.getElem?_eq_some_iff.mp hat
  exact List.getElem?_set_self hindex

theorem at_proceed_of_ne {index other : ℕ} {request : PeerRequest} {handling : Handling α}
    (hne : index ≠ other) :
    (registry.proceed index request handling).requests[other]? = registry.requests[other]? :=
  List.getElem?_set_ne hne

/-- After a step of one handler each handler is where it was, or it is the one that went on. -/
theorem at_of_proceed {index other : ℕ} {request found : PeerRequest} {handling place : Handling α}
    (hat : (registry.proceed index request handling).requests[other]? = some (found, place)) :
    (other = index ∧ found = request ∧ place = handling) ∨
      registry.requests[other]? = some (found, place) := by
  by_cases hne : index = other
  · subst hne
    obtain ⟨hindex, -⟩ := List.getElem?_eq_some_iff.mp hat
    have hlength : index < registry.requests.length := by
      rwa [proceed, List.length_set] at hindex
    rw [proceed, List.getElem?_set_self hlength] at hat
    obtain ⟨rfl, rfl⟩ := Prod.mk.inj (Option.some.inj hat)
    exact .inl ⟨rfl, rfl, rfl⟩
  · rw [at_proceed_of_ne hne] at hat
    exact .inr hat

/-- Handlers stay where they are when a request comes in. -/
theorem at_arrive {other : ℕ} {found : PeerRequest} {place : Handling α}
    (hat : registry.requests[other]? = some (found, place)) (arrived : PeerRequest × Handling α) :
    (registry.requests ++ [arrived])[other]? = some (found, place) :=
  getElem?_concat_eq_some.mpr (.inl hat)

/-- A handler is in one place. -/
theorem handling_unique {index : ℕ} {request found : PeerRequest} {place other : Handling α}
    (hat : registry.requests[index]? = some (request, place))
    (hfound : registry.requests[index]? = some (found, other)) : place = other :=
  (Prod.mk.inj (Option.some.inj (hat.symm.trans hfound))).2

theorem at_of_arrive {other : ℕ} {request found : PeerRequest} {authorized : Bool}
    {place : Handling α}
    (hat : (registry.requests ++ [(request, Handling.waiting authorized)])[other]? =
      some (found, place)) :
    place = .waiting authorized ∨ registry.requests[other]? = some (found, place) := by
  obtain hold | ⟨-, hlast⟩ := getElem?_concat_eq_some.mp hat
  · exact .inr hold
  · exact .inl (Prod.mk.inj hlast).2.symm

/-- Handlers that go on leave those alone that wait for the write lock. -/
theorem waiting_of_proceed {index other : ℕ} {request found : PeerRequest} {place : Handling α}
    (hplace : place ≠ .waiting true)
    (hat : (registry.proceed index request place).requests[other]? =
      some (found, .waiting true)) :
    registry.requests[other]? = some (found, .waiting true) :=
  (at_of_proceed hat).resolve_left fun hself ↦ hplace hself.2.2.symm

/-- A request that waits for the write lock with leave to take it has waited before, or comes in. -/
theorem Stepped.waiting (hstep : registry.Stepped toml action next) {other : ℕ}
    {found : PeerRequest} (hat : next.requests[other]? = some (found, .waiting true)) :
    registry.requests[other]? = some (found, .waiting true) ∨ action = .arrive true found := by
  cases hstep with
  | arrive authorized request =>
    obtain hbefore | ⟨-, hlast⟩ := getElem?_concat_eq_some.mp hat
    · exact .inl hbefore
    · obtain ⟨rfl, hauthorized⟩ := Prod.mk.inj hlast
      obtain rfl := Handling.waiting.inj hauthorized
      exact .inr rfl
  | _ => exact .inl (waiting_of_proceed (by simp) hat)

/-- A change is made for a request that waits for the write lock with leave to take it. -/
theorem Stepped.mem_history (hstep : registry.Stepped toml action next) {index : ℕ}
    {request : PeerRequest} (hmem : (index, request) ∈ next.history) :
    (index, request) ∈ registry.history ∨
      registry.requests[index]? = some (request, .waiting true) := by
  cases hstep with
  | change place changed hat hlock hchanges =>
    obtain hbefore | hlast := List.mem_append.mp hmem
    · exact .inl hbefore
    · obtain ⟨rfl, rfl⟩ := Prod.mk.inj (List.mem_singleton.mp hlast)
      exact .inr hat
  | _ => exact .inl hmem

end PeerRegistry

/-! ### The list in memory -/

/-- No two records have the same token, and no two the same IP. -/
def DistinctPeers (peers : List PeerConfig) : Prop :=
  (peers.map fun peer ↦ peer.token).Nodup ∧ (peers.map fun peer ↦ peer.ip).Nodup

instance (peers : List PeerConfig) : Decidable (DistinctPeers peers) :=
  inferInstanceAs (Decidable (_ ∧ _))

namespace PeerRequest

/-- What a successful request has made true of the list. -/
def Holds (peers : List PeerConfig) : PeerRequest → Prop
  | .add peer => peer ∈ peers
  | .del token => ∀ old ∈ peers, old.token ≠ token

/-- A later request takes back what an earlier one has made true. -/
def Undoes : PeerRequest → PeerRequest → Prop
  | .del token, .add peer => peer.token = token
  | .add peer, .del token => peer.token = token
  | _, _ => False

variable {peers : List PeerConfig} {request earlier : PeerRequest}

theorem distinct_applied (hdistinct : DistinctPeers peers) (hchanges : request.Changes peers) :
    DistinctPeers (request.applied peers) := by
  obtain ⟨htokens, hips⟩ := hdistinct
  refine ⟨?_, nodup_ip_applied hips hchanges⟩
  cases request with
  | add peer =>
    rw [applied, List.map_append, List.nodup_append_comm]
    refine List.nodup_cons.mpr ⟨fun hmem ↦ ?_, htokens⟩
    obtain ⟨old, hold, hsame⟩ := List.mem_map.mp hmem
    exact (hchanges old hold).1 hsame
  | del token => exact htokens.sublist (List.filter_sublist.map _)

theorem holds_applied (peers : List PeerConfig) (request : PeerRequest) :
    request.Holds (request.applied peers) := by
  cases request with
  | add peer => exact List.mem_append_right _ List.mem_cons_self
  | del token =>
    intro old hmem
    simpa using (List.mem_filter.mp hmem).2

/-- A change that does not take back an earlier one leaves what that one made true. -/
theorem holds_of_not_undoes (hholds : earlier.Holds peers) (hkeeps : ¬ request.Undoes earlier) :
    earlier.Holds (request.applied peers) := by
  cases earlier with
  | add peer =>
    cases request with
    | add other => exact List.mem_append_left _ hholds
    | del token => exact List.mem_filter.mpr ⟨hholds, by simpa [Undoes] using hkeeps⟩
  | del token =>
    intro old hmem
    cases request with
    | add peer =>
      rcases List.mem_append.mp hmem with hold | hnew
      · exact hholds old hold
      · rw [List.mem_singleton.mp hnew]
        exact hkeeps
    | del other => exact hholds old (List.mem_of_mem_filter hmem)

end PeerRequest

/-- The change was made, and none of the changes after it takes it back. -/
def Standing (history : List (ℕ × PeerRequest)) (entry : ℕ × PeerRequest) : Prop :=
  ∃ before after, history = before ++ entry :: after ∧
    ∀ later ∈ after, ¬ later.2.Undoes entry.2

/-- A change stands after another one if it is the other one, or stood before and is not undone. -/
theorem standing_concat {history : List (ℕ × PeerRequest)} {entry last : ℕ × PeerRequest}
    (hstanding : Standing (history ++ [last]) entry) :
    entry = last ∨ (Standing history entry ∧ ¬ last.2.Undoes entry.2) := by
  obtain ⟨before, after, hsplit, hkeeps⟩ := hstanding
  rcases List.eq_nil_or_concat' after with rfl | ⟨middle, final, rfl⟩
  · obtain ⟨-, hlast⟩ := List.append_inj' hsplit rfl
    exact .inl (List.cons.inj hlast).1.symm
  · rw [← List.cons_append, ← List.append_assoc] at hsplit
    obtain ⟨hbefore, hlast⟩ := List.append_inj' hsplit rfl
    obtain rfl := (List.cons.inj hlast).1
    refine .inr ⟨⟨before, middle, hbefore, fun later hmem ↦ ?_⟩, ?_⟩
    · exact hkeeps later (List.mem_append_left _ hmem)
    · exact hkeeps last (List.mem_append_right _ List.mem_cons_self)

namespace PeerRegistry

variable {toml : Toml α} {registry next : PeerRegistry α} {action : RegistryAction}

/-- Every change that stands holds of the list, those made before the server was started too. -/
def Kept (past : List (ℕ × PeerRequest)) (registry : PeerRegistry α) : Prop :=
  ∀ entry, Standing (past ++ registry.history) entry → entry.2.Holds registry.config.peers

theorem kept_start (config : ServerConfig) (file : List α) : (start config file).Kept [] := by
  rintro entry ⟨before, after, hsplit, -⟩
  exact absurd hsplit (by simp [start])

theorem Kept.step {past : List (ℕ × PeerRequest)} (hkept : registry.Kept past)
    (hstep : registry.Stepped toml action next) : next.Kept past := by
  cases hstep with
  | change index request hat hlock hchanges =>
    intro entry hstanding
    rw [apply, ← List.append_assoc] at hstanding
    rcases standing_concat hstanding with rfl | ⟨hstood, hkeeps⟩
    · exact PeerRequest.holds_applied _ _
    · exact PeerRequest.holds_of_not_undoes (hkept entry hstood) hkeeps
  | arrive => exact hkept
  | refuse => exact hkept
  | lock => exact hkept
  | openFile => exact hkept
  | write => exact hkept
  | finish => exact hkept

/-- What a list of changes makes of the peers. -/
def replay (peers : List PeerConfig) (changes : List (ℕ × PeerRequest)) : List PeerConfig :=
  changes.foldl (fun peers change ↦ change.2.applied peers) peers

/-- The peers are what the changes that were made have made of the first ones. -/
def Replayed (initial : List PeerConfig) (past : List (ℕ × PeerRequest))
    (registry : PeerRegistry α) : Prop :=
  registry.config.peers = replay initial (past ++ registry.history)

theorem Replayed.step {initial : List PeerConfig} {past : List (ℕ × PeerRequest)}
    (hreplayed : registry.Replayed initial past) (hstep : registry.Stepped toml action next) :
    next.Replayed initial past := by
  cases hstep with
  | change index request hat hlock hchanges =>
    rw [Replayed, apply, ← List.append_assoc, replay, List.foldl_append]
    exact congrArg request.applied hreplayed
  | _ => exact hreplayed

theorem distinct_step (hdistinct : DistinctPeers registry.config.peers)
    (hstep : registry.Stepped toml action next) : DistinctPeers next.config.peers := by
  cases hstep with
  | change index request hat hlock hchanges =>
    exact PeerRequest.distinct_applied hdistinct hchanges
  | arrive => exact hdistinct
  | refuse => exact hdistinct
  | lock => exact hdistinct
  | openFile => exact hdistinct
  | write => exact hdistinct
  | finish => exact hdistinct

/-! ### The answers -/

/-- What a handler's place says about the history: a change is recorded as soon as it is made, and a
success is only answered for one. -/
def Recorded (history : List (ℕ × PeerRequest)) (index : ℕ) (request : PeerRequest) :
    Handling α → Prop
  | .waiting _ => True
  | .changed | .saving _ | .writing _ _ => (index, request) ∈ history
  | .answered status =>
    status.isError = false → status = request.success ∧ (index, request) ∈ history

/-- The handler has made its change and does not answer with an error. -/
def Succeeds (request : PeerRequest) : Handling α → Prop
  | .waiting _ => False
  | .changed | .saving _ | .writing _ _ => True
  | .answered status => status = request.success

theorem Recorded.append {history : List (ℕ × PeerRequest)} {index : ℕ} {request : PeerRequest}
    {place : Handling α} (hplace : Recorded history index request place)
    (later : List (ℕ × PeerRequest)) : Recorded (history ++ later) index request place := by
  cases place with
  | waiting authorized => trivial
  | changed => exact List.mem_append_left _ hplace
  | saving text => exact List.mem_append_left _ hplace
  | writing text offset => exact List.mem_append_left _ hplace
  | answered status =>
    exact fun hstatus ↦ (hplace hstatus).imp_right (List.mem_append_left _)

/-- What a handler's place says is so. -/
def AllRecorded (registry : PeerRegistry α) : Prop :=
  ∀ index request place, registry.requests[index]? = some (request, place) →
    Recorded registry.history index request place

theorem allRecorded_start (config : ServerConfig) (file : List α) :
    (start config file).AllRecorded :=
  fun _ _ _ hat ↦ absurd hat (by simp [start])

/-- One handler goes on, and the history with it. -/
theorem AllRecorded.proceed (hall : registry.AllRecorded) {index : ℕ} {request : PeerRequest}
    {place : Handling α} (later : List (ℕ × PeerRequest))
    (hplace : Recorded (registry.history ++ later) index request place) :
    ∀ other found now, (registry.proceed index request place).requests[other]? = some (found, now) →
      Recorded (registry.history ++ later) other found now := by
  intro other found now hnow
  obtain ⟨rfl, rfl, rfl⟩ | hbefore := at_of_proceed hnow
  · exact hplace
  · exact (hall other found now hbefore).append later

/-- One handler goes on and changes nothing. -/
theorem AllRecorded.proceed_same (hall : registry.AllRecorded) {index : ℕ} {request : PeerRequest}
    {place : Handling α} (hplace : Recorded registry.history index request place) :
    (registry.proceed index request place).AllRecorded := by
  have hkept := hall.proceed [] (by rwa [List.append_nil])
  rwa [List.append_nil] at hkept

/-- An answer that is an error claims nothing. -/
theorem recorded_of_isError {history : List (ℕ × PeerRequest)} {index : ℕ} {request : PeerRequest}
    {status : StatusCode} (hstatus : status.isError = true) :
    Recorded history index request (.answered status : Handling α) :=
  fun hgood ↦ absurd hgood (by rw [hstatus]; decide)

theorem AllRecorded.step (hall : registry.AllRecorded) (hstep : registry.Stepped toml action next) :
    next.AllRecorded := by
  cases hstep with
  | arrive authorized request =>
    intro other found place hplace
    obtain rfl | hbefore := at_of_arrive hplace
    · trivial
    · exact hall other found place hbefore
  | change index request hat hlock hchanges =>
    exact hall.proceed [(index, request)] (List.mem_append_right _ List.mem_cons_self)
  | refuse index request authorized status hat hstatus =>
    exact hall.proceed_same (recorded_of_isError hstatus)
  | lock index request hat =>
    have hmem : (index, request) ∈ registry.history := hall index request _ hat
    exact hall.proceed_same hmem
  | openFile index request text hat =>
    have hmem : (index, request) ∈ registry.history := hall index request _ hat
    have hkept : (registry.proceed index request (.writing text 0)).AllRecorded :=
      hall.proceed_same hmem
    exact hkept
  | write index count request text offset hat hfits =>
    have hmem : (index, request) ∈ registry.history := hall index request _ hat
    have hkept : (registry.proceed index request (.writing text (offset + count))).AllRecorded :=
      hall.proceed_same hmem
    exact hkept
  | finish index request text hat =>
    have hmem : (index, request) ∈ registry.history := hall index request _ hat
    exact hall.proceed_same fun _ ↦ ⟨rfl, hmem⟩

/-- A request that was answered with success has made its change, which holds unless a later one
takes it back. -/
theorem AllRecorded.holds (hall : registry.AllRecorded) (hkept : registry.Kept []) {index : ℕ}
    {request : PeerRequest}
    (hat : registry.requests[index]? = some (request, .answered request.success)) :
    ∃ before after, registry.history = before ++ (index, request) :: after ∧
      ((∀ later ∈ after, ¬ later.2.Undoes request) → request.Holds registry.config.peers) := by
  have hrecorded := hall index request _ hat
  obtain ⟨-, hmem⟩ := hrecorded (PeerRequest.isError_success request)
  obtain ⟨before, after, hsplit⟩ := List.append_of_mem hmem
  refine ⟨before, after, hsplit, fun hkeeps ↦ ?_⟩
  exact hkept (index, request) ⟨before, after, hsplit, hkeeps⟩

/-- Every change in the history is that of a handler that does not answer with an error. -/
def AllSucceed (registry : PeerRegistry α) : Prop :=
  ∀ index request, (index, request) ∈ registry.history →
    ∃ place, registry.requests[index]? = some (request, place) ∧ Succeeds request place

/-- One handler goes on after its change. -/
theorem AllSucceed.proceed (hall : registry.AllSucceed) {index : ℕ} {request : PeerRequest}
    {old place : Handling α} (hat : registry.requests[index]? = some (request, old))
    (hsucceeds : Succeeds request old → Succeeds request place) :
    (registry.proceed index request place).AllSucceed := by
  intro other found hmem
  obtain ⟨now, hnow, hgood⟩ := hall other found hmem
  by_cases hne : index = other
  · subst hne
    rw [hat] at hnow
    obtain ⟨rfl, rfl⟩ := Prod.mk.inj (Option.some.inj hnow)
    exact ⟨place, at_proceed_self hat, hsucceeds hgood⟩
  · exact ⟨now, by rw [at_proceed_of_ne hne, hnow], hgood⟩

theorem AllSucceed.step (hall : registry.AllSucceed) (hstep : registry.Stepped toml action next) :
    next.AllSucceed := by
  cases hstep with
  | arrive authorized request =>
    intro other found hmem
    obtain ⟨place, hplace, hgood⟩ := hall other found hmem
    exact ⟨place, at_arrive hplace _, hgood⟩
  | change index request hat hlock hchanges =>
    intro other found hmem
    rcases List.mem_append.mp hmem with hold | hnew
    · obtain ⟨place, hplace, hgood⟩ := hall other found hold
      have hne : index ≠ other := by
        rintro rfl
        rw [hat] at hplace
        obtain ⟨-, rfl⟩ := Prod.mk.inj (Option.some.inj hplace)
        exact hgood
      exact ⟨place, (at_proceed_of_ne hne).trans hplace, hgood⟩
    · obtain ⟨rfl, rfl⟩ := Prod.mk.inj (List.mem_singleton.mp hnew)
      exact ⟨.changed, at_proceed_self hat, trivial⟩
  | refuse index request authorized status hat hstatus => exact hall.proceed hat False.elim
  | lock index request hat => exact hall.proceed hat fun _ ↦ trivial
  | openFile index request text hat =>
    have hkept : (registry.proceed index request (.writing text 0)).AllSucceed :=
      hall.proceed hat fun _ ↦ trivial
    exact hkept
  | write index count request text offset hat hfits =>
    have hkept : (registry.proceed index request (.writing text (offset + count))).AllSucceed :=
      hall.proceed hat fun _ ↦ trivial
    exact hkept
  | finish index request text hat => exact hall.proceed hat fun _ ↦ rfl

/-! ### The file -/

/-- The text that a handler saves is the one of this configuration. -/
def Rendered (text : List α) : Handling α → Prop
  | .saving saved => saved = text
  | .writing saved offset => saved = text ∧ offset ≤ text.length
  | _ => True

/-- What the file is when every change has at least begun to be written. -/
inductive Current (toml : Toml α) (registry : PeerRegistry α) : Prop
  /-- Nothing has been written since the start. -/
  | loaded (hparse : toml.parse registry.file = some registry.config)
    (hquiet : ∀ (index : ℕ) (request : PeerRequest) (place : Handling α),
      registry.requests[index]? = some (request, place) → place.reading = false)
  | written (hfile : registry.file = toml.render registry.config)
  /-- The handler that truncated the file last goes on writing. What it has written stays, since the
  other writers write the same text. -/
  | underway (index : ℕ) (request : PeerRequest) (offset : ℕ)
    (hat : registry.requests[index]? =
      some (request, .writing (toml.render registry.config) offset))
    (hagrees : Agrees (toml.render registry.config) offset registry.file)
    (hlength : registry.file.length ≤ (toml.render registry.config).length)

/-- Every text that is being saved is the current one, and so is the file, as soon as every change
has at least begun to be written. -/
structure Saved (toml : Toml α) (registry : PeerRegistry α) : Prop where
  rendered : ∀ (index : ℕ) (request : PeerRequest) (place : Handling α),
    registry.requests[index]? = some (request, place) → Rendered (toml.render registry.config) place
  current : (∀ (index : ℕ) (request : PeerRequest) (place : Handling α),
    registry.requests[index]? = some (request, place) → place.unsaved = false) →
      registry.Current toml

/-- A handler goes on without touching the list. -/
theorem Saved.rendered_proceed (hsaved : registry.Saved toml) {index : ℕ} {request : PeerRequest}
    {place : Handling α} (hplace : Rendered (toml.render registry.config) place) :
    ∀ (other : ℕ) (found : PeerRequest) (now : Handling α),
      (registry.proceed index request place).requests[other]? = some (found, now) →
        Rendered (toml.render registry.config) now := by
  intro other found now hnow
  obtain ⟨rfl, rfl, rfl⟩ | hbefore := at_of_proceed hnow
  · exact hplace
  · exact hsaved.rendered other found now hbefore

/-- No handler that has to open the file was left out before another one went on. -/
theorem unsaved_of_proceed {index : ℕ} {request : PeerRequest} {old place : Handling α}
    (hat : registry.requests[index]? = some (request, old)) (hold : old.unsaved = false)
    (hall : ∀ (other : ℕ) (found : PeerRequest) (now : Handling α),
      (registry.proceed index request place).requests[other]? = some (found, now) →
        now.unsaved = false) :
    ∀ (other : ℕ) (found : PeerRequest) (now : Handling α),
      registry.requests[other]? = some (found, now) → now.unsaved = false := by
  intro other found now hnow
  by_cases hne : index = other
  · subst hne
    rw [hat] at hnow
    obtain ⟨-, rfl⟩ := Prod.mk.inj (Option.some.inj hnow)
    exact hold
  · exact hall other found now ((at_proceed_of_ne hne).trans hnow)

/-- No handler saves after one has gone on to a place where it does not. -/
theorem quiet_of_proceed {index : ℕ} {request : PeerRequest} {place : Handling α}
    (hplace : place.reading = false)
    (hquiet : ∀ (other : ℕ) (found : PeerRequest) (now : Handling α),
      registry.requests[other]? = some (found, now) → now.reading = false) :
    ∀ (other : ℕ) (found : PeerRequest) (now : Handling α),
      (registry.proceed index request place).requests[other]? = some (found, now) →
        now.reading = false := by
  intro other found now hnow
  obtain ⟨rfl, rfl, rfl⟩ | hbefore := at_of_proceed hnow
  · exact hplace
  · exact hquiet other found now hbefore

/-- A request comes in. -/
theorem Saved.arrive (hsaved : registry.Saved toml) (authorized : Bool) (request : PeerRequest) :
    Saved toml
      { registry with requests := registry.requests ++ [(request, .waiting authorized)] } := by
  refine ⟨fun other found place hplace ↦ ?_, fun hall ↦ ?_⟩
  · obtain rfl | hbefore := at_of_arrive hplace
    · trivial
    · exact hsaved.rendered other found place hbefore
  · cases hsaved.current fun other found place hplace ↦
      hall other found place (at_arrive hplace _) with
    | loaded hparse hquiet =>
      refine .loaded hparse fun other found place hplace ↦ ?_
      obtain rfl | hold := at_of_arrive hplace
      · rfl
      · exact hquiet other found place hold
    | written hfile => exact .written hfile
    | underway index writer offset hat hagrees hlength =>
      exact .underway index writer offset (at_arrive hat _) hagrees hlength

/-- A handler gives up before it has changed the list. -/
theorem Saved.refuse (hsaved : registry.Saved toml) {index : ℕ} {request : PeerRequest}
    {authorized : Bool} (hat : registry.requests[index]? = some (request, .waiting authorized))
    (status : StatusCode) : (registry.proceed index request (.answered status)).Saved toml := by
  refine ⟨hsaved.rendered_proceed trivial, fun hall ↦ ?_⟩
  cases hsaved.current (unsaved_of_proceed hat rfl hall) with
  | loaded hparse hquiet => exact .loaded hparse (quiet_of_proceed rfl hquiet)
  | written hfile => exact .written hfile
  | underway writer found offset hwriter hagrees hlength =>
    have hne : index ≠ writer := by
      rintro rfl
      cases handling_unique hat hwriter
    exact .underway writer found offset ((at_proceed_of_ne hne).trans hwriter) hagrees hlength

/-- A handler writes a piece of the file. -/
theorem Saved.write (hsaved : registry.Saved toml) {index count offset : ℕ} {request : PeerRequest}
    {text : List α} (hat : registry.requests[index]? = some (request, .writing text offset))
    (hfits : offset + count ≤ text.length) :
    Saved toml { registry.proceed index request (.writing text (offset + count)) with
      file := writeAt toml.blank registry.file offset (piece text offset count) } := by
  obtain ⟨rfl, -⟩ : text = toml.render registry.config ∧ _ := hsaved.rendered index request _ hat
  refine ⟨hsaved.rendered_proceed ⟨rfl, hfits⟩, fun hall ↦ ?_⟩
  cases hsaved.current (unsaved_of_proceed hat rfl hall) with
  | loaded hparse hquiet => cases hquiet index request _ hat
  | written hfile =>
    refine .written ?_
    change writeAt toml.blank registry.file offset _ = _
    rw [hfile, writeAt_self hfits]
    rfl
  | underway writer found written hwriter hagrees hlength =>
    have hshort : (writeAt toml.blank registry.file offset (piece _ offset count)).length ≤ _ :=
      length_writeAt_le hfits hlength
    by_cases hne : index = writer
    · subst hne
      obtain ⟨-, rfl⟩ := Handling.writing.inj (handling_unique hat hwriter)
      exact .underway index request _ (at_proceed_self hat) (hagrees.extend hfits) hshort
    · obtain ⟨-, hwritten⟩ := hsaved.rendered writer found _ hwriter
      exact .underway writer found written ((at_proceed_of_ne hne).trans hwriter)
        (hagrees.writeAt hwritten hfits) hshort

/-- A handler has written all of its text. -/
theorem Saved.finish (hsaved : registry.Saved toml) {index : ℕ} {request : PeerRequest}
    {text : List α} (hat : registry.requests[index]? = some (request, .writing text text.length)) :
    (registry.proceed index request (.answered request.success)).Saved toml := by
  obtain ⟨rfl, -⟩ : text = toml.render registry.config ∧ _ := hsaved.rendered index request _ hat
  refine ⟨hsaved.rendered_proceed trivial, fun hall ↦ ?_⟩
  cases hsaved.current (unsaved_of_proceed hat rfl hall) with
  | loaded hparse hquiet => cases hquiet index request _ hat
  | written hfile => exact .written hfile
  | underway writer found offset hwriter hagrees hlength =>
    by_cases hne : index = writer
    · subst hne
      obtain ⟨-, rfl⟩ := Handling.writing.inj (handling_unique hat hwriter)
      exact .written (hagrees.eq_text hlength)
    · exact .underway writer found offset ((at_proceed_of_ne hne).trans hwriter) hagrees hlength

/-- Under the write lock no handler is saving, so that a change leaves no text of before. -/
theorem saved_apply {index : ℕ} {request : PeerRequest} {authorized : Bool}
    (hat : registry.requests[index]? = some (request, .waiting authorized))
    (hlock : ∀ entry ∈ registry.requests, entry.2.reading = false) :
    (registry.apply index request).Saved toml := by
  refine ⟨fun other found place hplace ↦ ?_, fun hall ↦ ?_⟩
  · obtain ⟨rfl, rfl, rfl⟩ | hbefore := at_of_proceed hplace
    · trivial
    · have hfree := hlock _ (List.mem_of_getElem? hbefore)
      cases place with
      | saving => cases hfree
      | writing => cases hfree
      | _ => trivial
  · cases hall index request .changed (at_proceed_self hat)

/-- A change owes nothing to what was saved before. -/
theorem saved_of_step (hsaved : next.history = registry.history → registry.Saved toml)
    (hstep : registry.Stepped toml action next) : next.Saved toml := by
  cases hstep with
  | arrive authorized request => exact (hsaved rfl).arrive authorized request
  | change index request hat hlock hchanges => exact saved_apply hat hlock
  | refuse index request authorized status hat => exact (hsaved rfl).refuse hat status
  | lock index request hat =>
    refine ⟨(hsaved rfl).rendered_proceed rfl, fun hall ↦ ?_⟩
    cases hall index request _ (at_proceed_self hat)
  | openFile index request text hat =>
    obtain rfl : text = toml.render registry.config := (hsaved rfl).rendered index request _ hat
    refine ⟨(hsaved rfl).rendered_proceed ⟨rfl, Nat.zero_le _⟩, fun _ ↦ ?_⟩
    exact .underway index request 0 (at_proceed_self hat) (fun _ hindex ↦ absurd hindex (by omega))
      (Nat.zero_le _)
  | write index count request text offset hat hfits => exact (hsaved rfl).write hat hfits
  | finish index request text hat => exact (hsaved rfl).finish hat

/-! ### Whole runs -/

/-- No request is in flight. -/
def Settled (registry : PeerRegistry α) : Prop :=
  ∀ entry ∈ registry.requests, entry.2.isAnswered = true

/-- What holds of the registry in every state of a run without failed saves. -/
structure Consistent (toml : Toml α) (registry : PeerRegistry α) : Prop where
  distinct : DistinctPeers registry.config.peers
  kept : registry.Kept []
  recorded : registry.AllRecorded
  succeeds : registry.AllSucceed
  saved : registry.Saved toml

theorem saved_start {config : ServerConfig} {file : List α}
    (hparse : toml.parse file = some config) : (start config file).Saved toml where
  rendered := fun _ _ _ hat ↦ absurd hat (by simp [start])
  current := fun _ ↦ .loaded hparse fun _ _ _ hat ↦ absurd hat (by simp [start])

theorem consistent_start {config : ServerConfig} {file : List α}
    (hparse : toml.parse file = some config) (hdistinct : DistinctPeers config.peers) :
    (start config file).Consistent toml where
  distinct := hdistinct
  kept := kept_start config file
  recorded := allRecorded_start config file
  succeeds := fun _ _ hmem ↦ absurd hmem (List.not_mem_nil)
  saved := saved_start hparse

theorem Consistent.step (hconsistent : registry.Consistent toml)
    (hstep : registry.Stepped toml action next) : next.Consistent toml where
  distinct := distinct_step hconsistent.distinct hstep
  kept := hconsistent.kept.step hstep
  recorded := hconsistent.recorded.step hstep
  succeeds := hconsistent.succeeds.step hstep
  saved := saved_of_step (fun _ ↦ hconsistent.saved) hstep

/-- When no request is in flight, the file is read as the configuration in memory. -/
theorem Consistent.parse_file (hconsistent : registry.Consistent toml) (hround : toml.RoundTrips)
    (hsettled : registry.Settled) : toml.parse registry.file = some registry.config := by
  have hunsaved : ∀ (index : ℕ) (request : PeerRequest) (place : Handling α),
      registry.requests[index]? = some (request, place) → place.unsaved = false := by
    intro index request place hat
    have hanswered := hsettled _ (List.mem_of_getElem? hat)
    cases place with
    | answered status => rfl
    | _ => cases hanswered
  cases hconsistent.saved.current hunsaved with
  | loaded hparse hquiet => exact hparse
  | written hfile =>
    rw [hfile]
    exact hround registry.config
  | underway index request offset hat => cases hsettled _ (List.mem_of_getElem? hat)

theorem consistent_of_run {config : ServerConfig} {file : List α}
    (hparse : toml.parse file = some config) (hdistinct : DistinctPeers config.peers)
    {actions : List RegistryAction} (hsaves : ∀ action ∈ actions, action.Saves)
    (hrun : run (step toml) (start config file) actions = some registry) :
    registry.Consistent toml := by
  induction actions using List.reverseRecOn generalizing registry with
  | nil =>
    obtain rfl := Option.some.inj hrun
    exact consistent_start hparse hdistinct
  | append_singleton earlier action ih =>
    obtain ⟨middle, hmiddle, hstep⟩ := run_concat_eq_some.mp hrun
    have hbefore := ih (fun other hmem ↦ hsaves other (List.mem_append_left _ hmem)) hmiddle
    have hlast := hsaves action (List.mem_append_right _ List.mem_cons_self)
    exact hbefore.step (stepped_of_step hlast hstep)

/-- Under every interleaving of requests whose saves succeed, tokens and IPs stay distinct, what a
successful request made true stays true until a later change takes it back, and the changes are
those of successful requests. When no request is in flight, the file has the peers of memory. -/
theorem registry_consistent (toml : Toml α) (hround : toml.RoundTrips) (config : ServerConfig)
    (file : List α) (hparse : toml.parse file = some config)
    (hdistinct : DistinctPeers config.peers) (actions : List RegistryAction)
    (hsaves : ∀ action ∈ actions, action.Saves) (registry : PeerRegistry α)
    (hrun : run (step toml) (start config file) actions = some registry) :
    DistinctPeers registry.config.peers ∧
      (∀ (index : ℕ) (request : PeerRequest),
        registry.requests[index]? = some (request, .answered request.success) →
          ∃ before after, registry.history = before ++ (index, request) :: after ∧
            ((∀ later ∈ after, ¬ later.2.Undoes request) →
              request.Holds registry.config.peers)) ∧
        (∀ (index : ℕ) (request : PeerRequest), (index, request) ∈ registry.history →
          ∃ place, registry.requests[index]? = some (request, place) ∧ Succeeds request place) ∧
          (registry.Settled →
            (toml.parse registry.file).map (fun saved ↦ saved.peers) =
              some registry.config.peers) := by
  have hconsistent := consistent_of_run hparse hdistinct hsaves hrun
  refine ⟨hconsistent.distinct, fun _ _ hat ↦ hconsistent.recorded.holds hconsistent.kept hat,
    hconsistent.succeeds, fun hsettled ↦ ?_⟩
  rw [hconsistent.parse_file hround hsettled]
  rfl

section Example

/-- A file as the tables of its configuration. -/
inductive ConfigTable
  | blank
  | network (values : NetworkConfig)
  | peer (record : PeerConfig)
  deriving DecidableEq, Repr

def ConfigTable.toPeer : ConfigTable → Option PeerConfig
  | ConfigTable.peer record => some record
  | _ => none

/-- The network table and a table for each peer. -/
def tableToml : Toml ConfigTable where
  blank := .blank
  render := fun config ↦ .network config.network :: config.peers.map .peer
  parse := fun text ↦
    match text with
    | ConfigTable.network network :: tables =>
      (tables.mapM ConfigTable.toPeer).map fun peers ↦ { network, peers }
    | _ => none

theorem tableToml_roundTrips : tableToml.RoundTrips := by
  intro config
  have hpeers : ∀ peers : List PeerConfig,
      (peers.map ConfigTable.peer).mapM ConfigTable.toPeer = some peers := by
    intro peers
    induction peers with
    | nil => rfl
    | cons peer peers ih =>
      rw [List.map_cons, List.mapM_cons, ih]
      rfl
  change ((config.peers.map ConfigTable.peer).mapM ConfigTable.toPeer).map _ = _
  rw [hpeers]
  rfl

def tabletPeer : PeerConfig :=
  { name := "tablet", token := "other", ip := 0x0a420003#32 }

/-- A peer is added and another one deleted. Both changes are made before either is saved, and the
second handler truncates the file in the middle of the first one's writing. -/
def overlappingSaves : List RegistryAction :=
  [.arrive true (.add tabletPeer), .arrive true (.del "secret"), .change 0, .change 1, .lock 0,
    .lock 1, .openFile 0, .write 0 1, .openFile 1, .write 0 1, .write 1 2, .finish 0, .finish 1]

/-- After two overlapping saves the file holds the peers in memory. -/
theorem registry_consistent_overlappingSaves :
    ∃ registry, run (step tableToml) (start lanServer (tableToml.render lanServer))
        overlappingSaves = some registry ∧ registry.config.peers = [tabletPeer] ∧
      (tableToml.parse registry.file).map (fun saved ↦ saved.peers) =
        some registry.config.peers := by
  obtain ⟨registry, hrun, hcheck⟩ := Option.any_eq_true _ _ |>.mp
    (by decide +kernel : (run (step tableToml) (start lanServer (tableToml.render lanServer))
      overlappingSaves).any (fun registry ↦ registry.config.peers = [tabletPeer] &&
        registry.requests.all fun entry ↦ entry.2.isAnswered) = true)
  rw [Bool.and_eq_true, decide_eq_true_eq, List.all_eq_true] at hcheck
  have hconsistent := registry_consistent tableToml tableToml_roundTrips lanServer
    (tableToml.render lanServer) (tableToml_roundTrips lanServer) (by decide +kernel)
    overlappingSaves (by simp [overlappingSaves, RegistryAction.Saves]) registry hrun
  exact ⟨registry, hrun, hcheck.1, hconsistent.2.2.2 hcheck.2⟩

end Example

end PeerRegistry

end EntroTunnel.Server
