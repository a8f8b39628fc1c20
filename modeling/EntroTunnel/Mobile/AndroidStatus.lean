import EntroTunnel.Foundation.PartialRun

/-!
# The status of the Android core

`nativeConnect` and `nativeStop` are made one after the other. Each stops the session that it finds,
in the background: the runtime of the session is told to shut down and its task is not waited for,
so the task may still write the flags that all sessions share. `nativeConnect` starts a new session
and waits for what its task reports.

A session is known by its place in the order of starts. The call in progress and the tasks advance
from one access to the shared state to the next, in any order. `FD_TX`, which only decides when a
task ends, is left out.

`status_truthful` says that `RUNNING` and `LAST_ERROR` tell the truth about the current session as
long as no task writes a flag that belongs to a newer session.
-/

set_option autoImplicit false
set_option relaxedAutoImplicit false

namespace EntroTunnel.Mobile

open EntroTunnel.Foundation

/-- The task of a session, by the step it takes next. -/
inductive Phase
  | connecting
  | serving
  /-- `engine::run` has returned an error, and `LAST_ERROR` is written next. -/
  | failing (error : String)
  /-- `RUNNING` is written next. -/
  | clearing
  | finished
  /-- The runtime has dropped the task. -/
  | dropped
  deriving DecidableEq, Repr

/-- A task that will not take another step. -/
def Phase.ended : Phase → Bool
  | .finished | .dropped => true
  | _ => false

/-- A session: whether `stop_impl` has cancelled it and shut its runtime down, its task, and what
the task has sent to the call. -/
structure Session where
  cancelled : Bool
  shut : Bool
  phase : Phase
  sent : Option (Except String String)

/-- Who has called `stop_impl`. -/
inductive Caller
  | nativeStop
  | nativeConnect
  /-- `nativeConnect`, after its session failed. -/
  | failed (error : String)
  deriving DecidableEq, Repr

/-- The call in progress, by the step it takes next. -/
inductive Position
  | idle
  /-- `stop_impl` is about to take the handle out of `ENGINE`. -/
  | taking (caller : Caller)
  | cancelling (session : ℕ) (caller : Caller)
  | unsetting (session : ℕ) (caller : Caller)
  | shutting (session : ℕ) (caller : Caller)
  | building
  | takingError
  | setting
  | spawning
  | storing (session : ℕ)
  | receiving (session : ℕ)
  deriving DecidableEq, Repr

/-- The call is at a step at which the slot has its handle. -/
def Position.slotted : Position → Bool
  | .idle | .taking _ | .receiving _ => true
  | _ => false

/-- The statics and the sessions. An error is kept with the session whose task wrote it, and
`connected` is the session of the latest `nativeConnect` that succeeded. -/
structure State where
  running : Bool
  lastError : Option (ℕ × String)
  engine : Option ℕ
  sessions : List Session
  position : Position
  reply : Option (Except String String)
  connected : Option ℕ

/-- The library when it is loaded. -/
def initial : State where
  running := false
  lastError := none
  engine := none
  sessions := []
  position := .idle
  reply := none
  connected := none

/-- The flags in `status_json`. -/
structure Status where
  running : Bool
  error : Option String
  deriving DecidableEq, Repr

def State.status (state : State) : Status where
  running := state.running
  error := state.lastError.map Prod.snd

inductive Action
  | nativeStop
  /-- `nativeConnect`, with the error if its arguments do not parse. -/
  | nativeConnect (parsed : Except String Unit)
  /-- The call in progress takes its next step. -/
  | advance
  | buildFails (error : String)
  /-- `recv_timeout` gives no result. -/
  | timeOut
  /-- `engine::run` sends a result to the call; after an error it returns the error. -/
  | report (session : ℕ) (result : Except String String)
  /-- `engine::run` returns after it has served. -/
  | finish (session : ℕ) (result : Except String Unit)
  | writeError (session : ℕ)
  | storeStopped (session : ℕ)
  /-- A runtime that is shutting down drops its task at an await. -/
  | drop (session : ℕ)

namespace State

def change (state : State) (session : ℕ) (edit : Session → Session) : State :=
  { state with sessions := state.sessions.modify session edit }

def enter (state : State) (session : ℕ) (phase : Phase) : State :=
  state.change session fun entry ↦ { entry with phase }

def phase (state : State) (session : ℕ) : Option Phase :=
  state.sessions[session]?.map Session.phase

/-- What follows `stop_impl`. -/
def afterStop (state : State) : Caller → State
  | .nativeStop => { state with position := .idle }
  | .nativeConnect => { state with position := .building }
  | .failed error => { state with position := .idle, reply := some (.error error) }

/-- The next step of the call in progress: `stop_impl` and `connect_impl`. -/
def advance (state : State) : Option State :=
  match state.position with
  | .idle => none
  | .taking caller =>
    match state.engine with
    | some session => some { state with engine := none, position := .cancelling session caller }
    | none => some (state.afterStop caller)
  | .cancelling session caller =>
    some { state.change session fun entry ↦ { entry with cancelled := true } with
      position := .unsetting session caller }
  | .unsetting session caller =>
    some { state with running := false, position := .shutting session caller }
  | .shutting session caller =>
    some ((state.change session fun entry ↦ { entry with shut := true }).afterStop caller)
  | .building => some { state with position := .takingError }
  | .takingError => some { state with lastError := none, position := .setting }
  | .setting => some { state with running := true, position := .spawning }
  | .spawning =>
    some { state with
      sessions := state.sessions ++ [⟨false, false, .connecting, none⟩]
      position := .storing state.sessions.length }
  | .storing session =>
    some { state with engine := some session, position := .receiving session }
  | .receiving session =>
    match state.sessions[session]?.bind Session.sent with
    | none => none
    | some (.ok config) =>
      some { state with
        position := .idle, reply := some (.ok config), connected := some session }
    | some (.error error) => some { state with position := .taking (.failed error) }

def step (state : State) : Action → Option State
  | .nativeStop =>
    if state.position = .idle then some { state with position := .taking .nativeStop } else none
  | .nativeConnect (.error error) =>
    if state.position = .idle then some { state with reply := some (.error error) } else none
  | .nativeConnect (.ok ()) =>
    if state.position = .idle then some { state with position := .taking .nativeConnect } else none
  | .advance => state.advance
  | .buildFails error =>
    if state.position = .building then
      some { state with position := .idle, reply := some (.error error) }
    else none
  | .timeOut =>
    match state.position with
    | .receiving _ => some { state with position := .taking (.failed "timed out connecting") }
    | _ => none
  | .report session result =>
    if state.phase session = some .connecting then
      some (state.change session fun entry ↦ { entry with
        sent := some result
        phase := match result with
          | .ok _ => .serving
          | .error error => .failing error })
    else none
  | .finish session result =>
    if state.phase session = some .serving then
      some (state.enter session (match result with
        | .ok () => .clearing
        | .error error => .failing error))
    else none
  | .writeError session =>
    match state.phase session with
    | some (.failing error) =>
      some { state.enter session .clearing with lastError := some (session, error) }
    | _ => none
  | .storeStopped session =>
    if state.phase session = some .clearing then
      some { state.enter session .finished with running := false }
    else none
  | .drop session =>
    if state.sessions[session]?.any fun entry ↦
        entry.shut && (entry.phase = .connecting || entry.phase = .serving) then
      some (state.enter session .dropped)
    else none

/-- The session has not been stopped and its task has not finished. -/
def Live (state : State) (session : ℕ) : Prop :=
  ∃ entry, state.sessions[session]? = some entry ∧ entry.cancelled = false ∧
    entry.phase.ended = false

/-- The status tells the truth: it is running exactly if the session of the latest successful
`nativeConnect` is live, and an error is one of the newest session. -/
def Truthful (state : State) : Prop :=
  (state.status.running = true ↔ ∃ session, state.connected = some session ∧ state.Live session) ∧
    ∀ session error, state.lastError = some (session, error) → session + 1 = state.sessions.length

/-- The condition on the runs below: a task stores `false` in `RUNNING` only while `RUNNING` is not
set for a newer session, and writes `LAST_ERROR` only as the newest session, before the next one
clears it, or right before it is cleared. -/
def timely (state : State) : Action → Bool
  | .storeStopped session =>
    !state.running || (state.position ≠ .spawning && session + 1 = state.sessions.length)
  | .writeError session =>
    state.position = .takingError ||
      (state.position ≠ .setting && state.position ≠ .spawning &&
        session + 1 = state.sessions.length)
  | _ => true

abbrev Timely (state : State) (action : Action) : Prop :=
  state.timely action = true

theorem timely_storeStopped_iff (state : State) (session : ℕ) :
    state.Timely (.storeStopped session) ↔ state.running = false ∨
      state.position ≠ .spawning ∧ session + 1 = state.sessions.length := by
  simp [Timely, timely]

theorem timely_writeError_iff (state : State) (session : ℕ) :
    state.Timely (.writeError session) ↔ state.position = .takingError ∨
      state.position ≠ .setting ∧ state.position ≠ .spawning ∧
        session + 1 = state.sessions.length := by
  simp [Timely, timely, and_assoc]

/-! ### The session that the flags are about -/

/-- The session whose state `RUNNING` has. -/
def tracked (state : State) : Option ℕ :=
  match state.position with
  | .idle | .taking _ | .receiving _ => state.engine
  | .cancelling session _ | .unsetting session _ | .storing session => some session
  | _ => none

/-- The session that is not cancelled. -/
def held (state : State) : Option ℕ :=
  match state.position with
  | .idle | .taking _ | .receiving _ => state.engine
  | .cancelling session _ | .storing session => some session
  | _ => none

/-- The task of the tracked session has not stored `false` in `RUNNING`. -/
def TrackedRuns (state : State) : Prop :=
  ∃ session entry, state.tracked = some session ∧ state.sessions[session]? = some entry ∧
    entry.phase ≠ .finished

/-- What holds of every session: it is cancelled unless the call or the slot has it, it is not
tracked once its runtime shuts down, and its task is dropped only then. -/
structure EntryFits (state : State) (session : ℕ) (entry : Session) : Prop where
  held : entry.cancelled = false ↔ state.held = some session
  untracked : entry.shut = true → state.tracked ≠ some session
  dropped : entry.phase = .dropped → entry.shut = true

/-- The flags and the slot agree with the sessions. -/
structure Consistent (state : State) : Prop where
  slot : state.position.slotted = false → state.engine = none
  received : ∀ session, state.position = .receiving session → state.engine = some session
  newest : ∀ session, state.tracked = some session → session + 1 = state.sessions.length
  entries : ∀ session entry, state.sessions[session]? = some entry → state.EntryFits session entry
  running : state.running = true ↔ state.position = .spawning ∨ state.TrackedRuns
  error : ∀ session error, state.lastError = some (session, error) →
    state.position = .takingError ∨ state.position ≠ .setting ∧ state.position ≠ .spawning ∧
      session + 1 = state.sessions.length
  connected : state.position = .idle → ∀ session, state.engine = some session →
    state.connected = some session

variable {state next : State} {action : Action} {session : ℕ}

/-- While it says that it is running and no call is in progress, the newest session is the connected
one and is live. -/
theorem exists_live (hstate : state.Consistent) (hidle : state.position = .idle)
    (hrunning : state.running = true) :
    ∃ session, session + 1 = state.sessions.length ∧ state.connected = some session ∧
      state.Live session := by
  rcases hstate.running.mp hrunning with hspawning | ⟨session, entry, hsession, hentry, hphase⟩
  · rw [hidle] at hspawning
    cases hspawning
  · have hfits := hstate.entries session entry hentry
    have hengine : state.engine = some session := by
      rwa [tracked, hidle] at hsession
    have hheld : state.held = some session := by
      rwa [held, hidle]
    refine ⟨session, hstate.newest session hsession, hstate.connected hidle session hengine, entry,
      hentry, hfits.held.mpr hheld, ?_⟩
    cases hstep : entry.phase with
    | finished => exact absurd hstep hphase
    | dropped => exact absurd hsession (hfits.untracked (hfits.dropped hstep))
    | _ => rfl

theorem Consistent.truthful (hstate : state.Consistent) (hidle : state.position = .idle) :
    state.Truthful := by
  refine ⟨⟨fun hrunning ↦ ?_, ?_⟩, fun session error herror ↦ ?_⟩
  · obtain ⟨session, -, hlive⟩ := exists_live hstate hidle hrunning
    exact ⟨session, hlive⟩
  · rintro ⟨session, -, entry, hentry, hcancelled, hended⟩
    have hheld := (hstate.entries session entry hentry).held.mp hcancelled
    have htracked : state.tracked = some session := by
      rw [held, hidle] at hheld
      rwa [tracked, hidle]
    refine hstate.running.mpr (.inr ⟨session, entry, htracked, hentry, fun hphase ↦ ?_⟩)
    rw [hphase] at hended
    cases hended
  · rcases hstate.error session error herror with hposition | ⟨-, -, hnewest⟩
    · rw [hidle] at hposition
      cases hposition
    · exact hnewest

theorem getElem?_change (state : State) (session other : ℕ) (edit : Session → Session) :
    (state.change session edit).sessions[other]? =
      (state.sessions[other]?).map fun entry ↦ if session = other then edit entry else entry := by
  rw [change, List.getElem?_modify]
  cases state.sessions[other]? <;> simp

/-! ### Steps of the call -/

theorem trackedRuns_congr (htracked : next.tracked = state.tracked)
    (hsessions : next.sessions = state.sessions) : next.TrackedRuns ↔ state.TrackedRuns := by
  simp only [TrackedRuns, htracked, hsessions]

theorem not_trackedRuns (htracked : state.tracked = none) : ¬state.TrackedRuns := by
  rintro ⟨session, entry, hsession, -⟩
  rw [htracked] at hsession
  cases hsession

/-- A task that does not store `false` in `RUNNING` leaves it right. -/
theorem trackedRuns_change {edit : Session → Session}
    (hfinished : ∀ entry, state.sessions[session]? = some entry →
      ((edit entry).phase = .finished ↔ entry.phase = .finished)) :
    (state.change session edit).TrackedRuns ↔ state.TrackedRuns := by
  constructor
  · rintro ⟨other, entry, hother, hentry, hphase⟩
    rw [getElem?_change] at hentry
    obtain ⟨old, hold, rfl⟩ := Option.map_eq_some_iff.mp hentry
    refine ⟨other, old, hother, hold, fun hold' ↦ hphase ?_⟩
    split
    · next hsame => exact (hfinished old (hsame ▸ hold)).mpr hold'
    · exact hold'
  · rintro ⟨other, entry, hother, hentry, hphase⟩
    refine ⟨other, _, hother, (getElem?_change ..).trans (congrArg _ hentry), fun hnew ↦ hphase ?_⟩
    split at hnew
    · next hsame => exact (hfinished entry (hsame ▸ hentry)).mp hnew
    · exact hnew

/-- Unless it is about to be cleared, an error is one of the newest session. -/
theorem Consistent.newest_of_error (hstate : state.Consistent)
    (hposition : state.position ≠ .takingError) {error : String}
    (hlast : state.lastError = some (session, error)) : session + 1 = state.sessions.length :=
  ((hstate.error session error hlast).resolve_left hposition).2.2

/-- A step of the call that leaves the sessions and `RUNNING` as they are. -/
theorem Consistent.move (hstate : state.Consistent) (hsessions : next.sessions = state.sessions)
    (htracked : next.tracked = state.tracked) (hheld : next.held = state.held)
    (hrunning : next.running = state.running) (hlast : next.lastError = state.lastError)
    (hbefore : state.position ≠ .spawning ∧ state.position ≠ .takingError)
    (hafter : next.position ≠ .spawning ∧ next.position ≠ .setting)
    (hslot : next.position.slotted = false → next.engine = none)
    (hreceived : ∀ session, next.position = .receiving session → next.engine = some session)
    (hconnected : next.position = .idle → ∀ session, next.engine = some session →
      next.connected = some session) : next.Consistent := by
  refine ⟨hslot, hreceived, fun session hsession ↦ ?_, fun session entry hentry ↦ ?_, ?_,
    fun session error herror ↦ ?_, hconnected⟩
  · rw [htracked] at hsession
    rw [hsessions]
    exact hstate.newest session hsession
  · rw [hsessions] at hentry
    obtain ⟨hcancelled, hshut, hdropped⟩ := hstate.entries session entry hentry
    rw [← hheld] at hcancelled
    rw [← htracked] at hshut
    exact ⟨hcancelled, hshut, hdropped⟩
  · rw [hrunning, hstate.running, trackedRuns_congr htracked hsessions, or_iff_right hbefore.1,
      or_iff_right hafter.1]
  · rw [hlast] at herror
    rw [hsessions]
    exact .inr ⟨hafter.2, hafter.1, hstate.newest_of_error hbefore.2 herror⟩

/-- While no session is tracked, `RUNNING` is set only right before one is spawned. -/
theorem Consistent.running_iff (hstate : state.Consistent) (htracked : state.tracked = none) :
    state.running = true ↔ state.position = .spawning :=
  hstate.running.trans (or_iff_left (not_trackedRuns htracked))

/-- Every session is cancelled, and a task is dropped only by a runtime that shuts down. -/
def AllCancelled (state : State) : Prop :=
  ∀ (session : ℕ) (entry : Session), state.sessions[session]? = some entry →
    entry.cancelled = true ∧ (entry.phase = .dropped → entry.shut = true)

theorem Consistent.allCancelled (hstate : state.Consistent) (hheld : state.held = none) :
    state.AllCancelled := by
  intro session entry hentry
  have hfits := hstate.entries session entry hentry
  refine ⟨?_, hfits.dropped⟩
  rw [← Bool.not_eq_false, hfits.held, hheld]
  exact Option.some_ne_none session ∘ Eq.symm

/-- A step of the call after which no session is tracked. -/
theorem consistent_of_untracked (htracked : next.tracked = none) (hheld : next.held = none)
    (hengine : next.engine = none) (hreceiving : ∀ session, next.position ≠ .receiving session)
    (hcancelled : next.AllCancelled) (hrunning : next.running = true ↔ next.position = .spawning)
    (herror : ∀ session error, next.lastError = some (session, error) →
      next.position = .takingError ∨ next.position ≠ .setting ∧ next.position ≠ .spawning ∧
        session + 1 = next.sessions.length) : next.Consistent := by
  refine ⟨fun _ ↦ hengine, fun session hposition ↦ absurd hposition (hreceiving session),
    fun session hsession ↦ ?_, fun session entry hentry ↦ ?_, ?_, herror, fun _ session hslot ↦ ?_⟩
  · rw [htracked] at hsession
    cases hsession
  · obtain ⟨hentryCancelled, hdropped⟩ := hcancelled session entry hentry
    refine ⟨?_, fun _ ↦ ?_, hdropped⟩
    · rw [hentryCancelled, hheld]
      exact iff_of_false Bool.noConfusion (Option.some_ne_none session).symm
    · rw [htracked]
      exact (Option.some_ne_none session).symm
  · rw [hrunning, or_iff_left (not_trackedRuns htracked)]
  · rw [hengine] at hslot
    cases hslot

/-- `h.cancel.cancel()`: the session is no longer held, and still tracked. -/
theorem consistent_of_cancel (hstate : state.Consistent) {caller : Caller}
    (hcancelling : state.position = .cancelling session caller) :
    State.Consistent { state.change session fun entry ↦ { entry with cancelled := true } with
      position := .unsetting session caller } := by
  have htracked : state.tracked = some session := by
    rw [tracked, hcancelling]
  have hheld : state.held = some session := by
    rw [held, hcancelling]
  have hlength (edit : Session → Session) :
      (state.change session edit).sessions.length = state.sessions.length :=
    List.length_modify ..
  refine ⟨fun _ ↦ hstate.slot (by rw [hcancelling]; rfl), fun _ ↦ Position.noConfusion,
    fun other hother ↦ ?_, fun other entry hentry ↦ ?_, ?_, fun other error hlast ↦ ?_,
    Position.noConfusion⟩
  · exact (hstate.newest other (htracked.trans hother)).trans (hlength _).symm
  · obtain ⟨old, hold, rfl⟩ := Option.map_eq_some_iff.mp ((getElem?_change ..).symm.trans hentry)
    have hfits := hstate.entries other old hold
    by_cases hsame : session = other
    · rw [if_pos hsame]
      exact ⟨iff_of_false Bool.noConfusion (Option.some_ne_none _).symm,
        fun hshut _ ↦ hfits.untracked hshut (hsame ▸ htracked), hfits.dropped⟩
    · rw [if_neg hsame]
      refine ⟨iff_of_false (fun hcancelled ↦ hsame ?_) (Option.some_ne_none _).symm,
        fun _ hother ↦ hsame (Option.some.inj hother), hfits.dropped⟩
      exact Option.some.inj (hheld.symm.trans (hfits.held.mp hcancelled))
  · have hspawning : state.position ≠ .spawning := by
      rw [hcancelling]
      exact Position.noConfusion
    rw [or_iff_right Position.noConfusion]
    have hruns : (state.change session fun entry ↦ { entry with cancelled := true }).TrackedRuns ↔
        state.TrackedRuns := trackedRuns_change fun _ _ ↦ Iff.rfl
    exact (hstate.running.trans (or_iff_right hspawning)).trans
      (hruns.symm.trans (trackedRuns_congr htracked rfl))
  · have hposition : state.position ≠ .takingError := by
      rw [hcancelling]
      exact Position.noConfusion
    exact .inr ⟨Position.noConfusion, Position.noConfusion,
      (hstate.newest_of_error hposition hlast).trans (hlength _).symm⟩

/-- A session that is spawned is the tracked one, and the only one that is not cancelled. -/
theorem consistent_of_spawn (hstate : state.Consistent) (hspawning : state.position = .spawning) :
    State.Consistent { state with
      sessions := state.sessions ++ [⟨false, false, .connecting, none⟩]
      position := .storing state.sessions.length } := by
  have hheld : state.held = none := by
    rw [held, hspawning]
  refine ⟨fun _ ↦ hstate.slot (by rw [hspawning]; rfl), fun _ ↦ Position.noConfusion,
    fun session hsession ↦ ?_, fun session entry hentry ↦ ?_, ?_, fun session error hlast ↦ ?_,
    Position.noConfusion⟩
  · rw [← Option.some.inj hsession, List.length_append, List.length_singleton]
  · dsimp only at hentry
    by_cases hold : session < state.sessions.length
    · rw [List.getElem?_append_left hold] at hentry
      obtain ⟨hcancelled, hdropped⟩ := hstate.allCancelled hheld session entry hentry
      have hother : some state.sessions.length ≠ some session :=
        fun hsame ↦ Nat.ne_of_gt hold (Option.some.inj hsame)
      refine ⟨iff_of_false (fun hfree ↦ ?_) hother, fun _ ↦ hother, hdropped⟩
      rw [hcancelled] at hfree
      cases hfree
    · rw [List.getElem?_append_right (Nat.le_of_not_lt hold)] at hentry
      rw [List.getElem?_singleton, Option.ite_none_right_eq_some] at hentry
      obtain ⟨hindex, hnew⟩ := hentry
      obtain rfl : session = state.sessions.length := by omega
      rw [← Option.some.inj hnew]
      exact ⟨iff_of_true rfl rfl, fun hshut ↦ Bool.noConfusion hshut, Phase.noConfusion⟩
  · refine iff_of_true (hstate.running.mpr (.inl hspawning)) (.inr ?_)
    exact ⟨state.sessions.length, _, rfl, List.getElem?_concat_length, Phase.noConfusion⟩
  · rcases hstate.error session error hlast with hposition | ⟨-, hposition, -⟩
    · rw [hspawning] at hposition
      cases hposition
    · exact absurd hspawning hposition

/-- The runtime is told to shut down: no session is tracked any more. -/
theorem consistent_of_shut (hstate : state.Consistent) {caller : Caller}
    (hshutting : state.position = .shutting session caller) :
    State.Consistent
      ((state.change session fun entry ↦ { entry with shut := true }).afterStop caller) := by
  have htracked : state.tracked = none := by
    rw [tracked, hshutting]
  have hheld : state.held = none := by
    rw [held, hshutting]
  have hengine : state.engine = none := hstate.slot (by rw [hshutting]; rfl)
  have hstopped : ¬state.running = true := by
    rw [hstate.running_iff htracked, hshutting]
    exact Position.noConfusion
  have hposition : state.position ≠ .takingError := by
    rw [hshutting]
    exact Position.noConfusion
  have hlength : (state.change session fun entry ↦ { entry with shut := true }).sessions.length =
      state.sessions.length := List.length_modify ..
  have hcancelled :
      (state.change session fun entry ↦ { entry with shut := true }).AllCancelled := by
    intro other entry hentry
    obtain ⟨old, hold, rfl⟩ := Option.map_eq_some_iff.mp ((getElem?_change ..).symm.trans hentry)
    obtain ⟨holdCancelled, hdropped⟩ := hstate.allCancelled hheld other old hold
    split
    · exact ⟨holdCancelled, fun _ ↦ rfl⟩
    · exact ⟨holdCancelled, hdropped⟩
  have herror : ∀ other error, state.lastError = some (other, error) →
      other + 1 = (state.change session fun entry ↦ { entry with shut := true }).sessions.length :=
    fun other error hlast ↦ (hstate.newest_of_error hposition hlast).trans hlength.symm
  cases caller with
  | nativeConnect =>
    exact consistent_of_untracked rfl rfl hengine (fun _ ↦ Position.noConfusion) hcancelled
      (iff_of_false hstopped Position.noConfusion)
      fun other error hlast ↦ .inr ⟨Position.noConfusion, Position.noConfusion,
        herror other error hlast⟩
  | _ =>
    exact consistent_of_untracked hengine hengine hengine (fun _ ↦ Position.noConfusion) hcancelled
      (iff_of_false hstopped Position.noConfusion)
      fun other error hlast ↦ .inr ⟨Position.noConfusion, Position.noConfusion,
        herror other error hlast⟩

/-- Every step of the call in progress keeps the flags and the slot in agreement. -/
theorem consistent_of_advance (hstate : state.Consistent) (hadvance : state.advance = some next) :
    next.Consistent := by
  have hcancel := @consistent_of_cancel state
  have hspawn := consistent_of_spawn hstate
  have hshut := @consistent_of_shut state
  obtain ⟨running, lastError, engine, sessions, position, reply, connected⟩ := state
  cases position with
  | idle => cases hadvance
  | taking caller =>
    cases engine with
    | none =>
      have hnone : ∀ session, none = some session → connected = some session :=
        fun _ hnone ↦ absurd hnone (Option.some_ne_none _).symm
      cases caller <;> cases hadvance <;>
        exact hstate.move rfl rfl rfl rfl rfl ⟨Position.noConfusion, Position.noConfusion⟩
          ⟨Position.noConfusion, Position.noConfusion⟩ (fun _ ↦ rfl)
          (fun _ ↦ Position.noConfusion) (fun _ ↦ hnone)
    | some session =>
      cases hadvance
      exact hstate.move rfl rfl rfl rfl rfl ⟨Position.noConfusion, Position.noConfusion⟩
        ⟨Position.noConfusion, Position.noConfusion⟩ (fun _ ↦ rfl)
        (fun _ ↦ Position.noConfusion) Position.noConfusion
  | cancelling session caller =>
    cases hadvance
    exact hcancel hstate rfl
  | unsetting session caller =>
    cases hadvance
    refine consistent_of_untracked rfl rfl (hstate.slot rfl) (fun _ ↦ Position.noConfusion)
      (hstate.allCancelled rfl) (iff_of_false Bool.noConfusion Position.noConfusion)
      fun session error hlast ↦ .inr ⟨Position.noConfusion, Position.noConfusion, ?_⟩
    exact hstate.newest_of_error Position.noConfusion hlast
  | shutting session caller =>
    cases hadvance
    exact hshut hstate rfl
  | building =>
    cases hadvance
    exact hstate.move rfl rfl rfl rfl rfl ⟨Position.noConfusion, Position.noConfusion⟩
      ⟨Position.noConfusion, Position.noConfusion⟩ (fun _ ↦ hstate.slot rfl)
      (fun _ ↦ Position.noConfusion) Position.noConfusion
  | takingError =>
    cases hadvance
    refine consistent_of_untracked rfl rfl (hstate.slot rfl) (fun _ ↦ Position.noConfusion)
      (hstate.allCancelled rfl) ?_ fun _ _ hnone ↦ absurd hnone (Option.some_ne_none _).symm
    exact iff_of_false (fun hset ↦ Position.noConfusion ((hstate.running_iff rfl).mp hset))
      Position.noConfusion
  | setting =>
    cases hadvance
    refine consistent_of_untracked rfl rfl (hstate.slot rfl) (fun _ ↦ Position.noConfusion)
      (hstate.allCancelled rfl) (iff_of_true rfl rfl) fun session error hlast ↦ ?_
    exact absurd rfl ((hstate.error session error hlast).resolve_left Position.noConfusion).1
  | spawning =>
    cases hadvance
    exact hspawn rfl
  | storing session =>
    cases hadvance
    exact hstate.move rfl rfl rfl rfl rfl ⟨Position.noConfusion, Position.noConfusion⟩
      ⟨Position.noConfusion, Position.noConfusion⟩ Bool.noConfusion
      (fun _ hposition ↦ Position.receiving.inj hposition ▸ rfl) Position.noConfusion
  | receiving session =>
    have hengine := hstate.received session rfl
    simp only [advance] at hadvance
    split at hadvance
    · cases hadvance
    · cases hadvance
      exact hstate.move rfl rfl rfl rfl rfl ⟨Position.noConfusion, Position.noConfusion⟩
        ⟨Position.noConfusion, Position.noConfusion⟩ Bool.noConfusion
        (fun _ ↦ Position.noConfusion) (fun _ _ hslot ↦ hengine.symm.trans hslot)
    · cases hadvance
      exact hstate.move rfl rfl rfl rfl rfl ⟨Position.noConfusion, Position.noConfusion⟩
        ⟨Position.noConfusion, Position.noConfusion⟩ Bool.noConfusion
        (fun _ ↦ Position.noConfusion) Position.noConfusion

/-! ### Steps of the tasks -/

theorem entryFits_of_change (hstate : state.Consistent) (edit : Session → Session)
    (hedit : ∀ entry, state.sessions[session]? = some entry →
      (edit entry).cancelled = entry.cancelled ∧ (edit entry).shut = entry.shut ∧
        ((edit entry).phase = .dropped → entry.shut = true))
    {other : ℕ} {entry : Session}
    (hentry : (state.change session edit).sessions[other]? = some entry) :
    (state.change session edit).EntryFits other entry := by
  have htracked : (state.change session edit).tracked = state.tracked := rfl
  have hheld : (state.change session edit).held = state.held := rfl
  rw [getElem?_change] at hentry
  obtain ⟨old, hold, rfl⟩ := Option.map_eq_some_iff.mp hentry
  have hfits := hstate.entries other old hold
  by_cases hsame : session = other
  · subst hsame
    obtain ⟨hcancelled, hshut, hdropped⟩ := hedit old hold
    rw [if_pos rfl]
    refine ⟨?_, ?_, fun hphase ↦ ?_⟩
    · rw [hcancelled]
      exact hfits.held
    · rw [hshut]
      exact hfits.untracked
    · rw [hshut]
      exact hdropped hphase
  · rw [if_neg hsame]
    exact ⟨hfits.held, hfits.untracked, hfits.dropped⟩

/-- A step of a task that does not write a flag: it does not finish, and it is dropped only by a
runtime that shuts down. -/
theorem consistent_of_change (hstate : state.Consistent) {edit : Session → Session}
    (hedit : ∀ entry, state.sessions[session]? = some entry →
      (edit entry).cancelled = entry.cancelled ∧ (edit entry).shut = entry.shut ∧
        ((edit entry).phase = .dropped → entry.shut = true))
    (hfinished : ∀ entry, state.sessions[session]? = some entry →
      ((edit entry).phase = .finished ↔ entry.phase = .finished)) :
    (state.change session edit).Consistent := by
  have hlength : (state.change session edit).sessions.length = state.sessions.length :=
    List.length_modify ..
  refine ⟨hstate.slot, hstate.received, fun other hother ↦ ?_,
    fun other entry ↦ entryFits_of_change hstate edit hedit, ?_, fun other error hlast ↦ ?_,
    hstate.connected⟩
  · rw [hlength]
    exact hstate.newest other hother
  · exact hstate.running.trans (or_congr_right (trackedRuns_change hfinished).symm)
  · rw [hlength]
    exact hstate.error other error hlast

/-- A task writes `LAST_ERROR`: the newest session, or right before the next one clears it. -/
theorem consistent_of_writeError (hstate : state.Consistent) {error : String}
    (htimely : state.Timely (.writeError session)) :
    State.Consistent { state with lastError := some (session, error) } := by
  obtain ⟨hslot, hreceived, hnewest, hentries, hrunning, -, hconnected⟩ := hstate
  refine ⟨hslot, hreceived, hnewest, fun other entry hentry ↦ { hentries other entry hentry with },
    hrunning, ?_, hconnected⟩
  intro other text hlast
  cases hlast
  exact (timely_writeError_iff state session).mp htimely

/-- A tracked session whose task runs after another one finished is not that one and ran before. -/
theorem trackedRuns_of_finish (hruns : (state.enter session .finished).TrackedRuns) :
    state.TrackedRuns ∧ state.tracked ≠ some session := by
  obtain ⟨other, entry, hother, hentry, hphase⟩ := hruns
  rw [enter, getElem?_change] at hentry
  obtain ⟨old, hold, rfl⟩ := Option.map_eq_some_iff.mp hentry
  have hne : session ≠ other := by
    rintro rfl
    exact hphase (by rw [if_pos rfl])
  rw [if_neg hne] at hphase
  refine ⟨⟨other, old, hother, hold, hphase⟩, fun hsame ↦ ?_⟩
  exact hne (Option.some.inj (hsame.symm.trans hother))

/-- A task stores `false` in `RUNNING` and finishes. -/
theorem consistent_of_storeStopped (hstate : state.Consistent)
    (htimely : state.Timely (.storeStopped session)) :
    State.Consistent { state.enter session .finished with running := false } := by
  have hlength : (state.enter session .finished).sessions.length = state.sessions.length :=
    List.length_modify ..
  rw [timely_storeStopped_iff] at htimely
  refine ⟨hstate.slot, hstate.received, fun other hother ↦ ?_, fun other entry hentry ↦ ?_, ?_,
    fun other error hlast ↦ ?_, hstate.connected⟩
  · exact (hstate.newest other hother).trans hlength.symm
  · have hfits : (state.enter session .finished).EntryFits other entry :=
      entryFits_of_change hstate (fun entry ↦ { entry with phase := .finished })
        (fun _ _ ↦ ⟨rfl, rfl, Phase.noConfusion⟩) hentry
    exact { hfits with }
  · refine iff_of_false Bool.noConfusion ?_
    rintro (hspawning | hruns)
    · rcases htimely with hstopped | ⟨hposition, -⟩
      · exact Bool.noConfusion (hstopped.symm.trans (hstate.running.mpr (.inl hspawning)))
      · exact hposition hspawning
    · have hafter : (state.enter session .finished).TrackedRuns := hruns
      obtain ⟨hbefore, hother⟩ := trackedRuns_of_finish hafter
      rcases htimely with hstopped | ⟨-, hnewest⟩
      · exact Bool.noConfusion (hstopped.symm.trans (hstate.running.mpr (.inr hbefore)))
      · obtain ⟨other, -, htracked, -⟩ := hbefore
        have hlast := hstate.newest other htracked
        obtain rfl : other = session := by omega
        exact hother htracked
  · exact (hstate.error other error hlast).imp_right fun ⟨hset, hspawn, hnewest⟩ ↦
      ⟨hset, hspawn, hnewest.trans hlength.symm⟩

/-- A task that has not ended enters another step. -/
theorem consistent_of_enter (hstate : state.Consistent) {before after : Phase}
    (hbefore : state.phase session = some before) (hopen : before.ended = false)
    (hafter : after.ended = false) : (state.enter session after).Consistent := by
  refine consistent_of_change hstate (fun entry _ ↦ ⟨rfl, rfl, ?_⟩) fun entry hentry ↦ ?_
  · rintro rfl
    cases hafter
  · rw [phase, hentry, Option.map_some, Option.some.injEq] at hbefore
    subst hbefore
    constructor
    · rintro rfl
      cases hafter
    · intro hphase
      rw [hphase] at hopen
      cases hopen

/-- A call is started, or ends at once. -/
theorem consistent_of_idle (hstate : state.Consistent) (hidle : state.position = .idle)
    {position : Position} (hposition : position = .idle ∨ ∃ caller, position = .taking caller)
    (reply : Option (Except String String)) : State.Consistent { state with position, reply } := by
  obtain ⟨running, lastError, engine, sessions, before, last, connected⟩ := state
  obtain rfl : before = .idle := hidle
  rcases hposition with rfl | ⟨caller, rfl⟩
  · exact hstate.move rfl rfl rfl rfl rfl ⟨Position.noConfusion, Position.noConfusion⟩
      ⟨Position.noConfusion, Position.noConfusion⟩ Bool.noConfusion
      (fun _ ↦ Position.noConfusion) hstate.connected
  · exact hstate.move rfl rfl rfl rfl rfl ⟨Position.noConfusion, Position.noConfusion⟩
      ⟨Position.noConfusion, Position.noConfusion⟩ Bool.noConfusion
      (fun _ ↦ Position.noConfusion) Position.noConfusion

theorem consistent_of_buildFails (hstate : state.Consistent)
    (hbuilding : state.position = .building) (reply : Option (Except String String)) :
    State.Consistent { state with position := .idle, reply } := by
  have hengine : state.engine = none := hstate.slot (by rw [hbuilding]; rfl)
  obtain ⟨running, lastError, engine, sessions, before, last, connected⟩ := state
  obtain rfl : before = .building := hbuilding
  obtain rfl : engine = none := hengine
  exact hstate.move rfl rfl rfl rfl rfl ⟨Position.noConfusion, Position.noConfusion⟩
    ⟨Position.noConfusion, Position.noConfusion⟩ Bool.noConfusion
    (fun _ ↦ Position.noConfusion) fun _ _ hnone ↦ absurd hnone (Option.some_ne_none _).symm

theorem consistent_of_timeOut (hstate : state.Consistent)
    (hreceiving : state.position = .receiving session) (caller : Caller) :
    State.Consistent { state with position := .taking caller } := by
  obtain ⟨running, lastError, engine, sessions, before, last, connected⟩ := state
  obtain rfl : before = .receiving session := hreceiving
  exact hstate.move rfl rfl rfl rfl rfl ⟨Position.noConfusion, Position.noConfusion⟩
    ⟨Position.noConfusion, Position.noConfusion⟩ Bool.noConfusion
    (fun _ ↦ Position.noConfusion) Position.noConfusion

/-- Timely steps keep the flags and the slot in agreement. -/
theorem Consistent.step (hstate : state.Consistent) (htimely : state.Timely action)
    (hstep : state.step action = some next) : next.Consistent := by
  cases action with
  | nativeStop =>
    simp only [State.step] at hstep
    split_ifs at hstep with hidle
    cases hstep
    exact consistent_of_idle hstate hidle (.inr ⟨.nativeStop, rfl⟩) state.reply
  | nativeConnect parsed =>
    cases parsed with
    | error error =>
      simp only [State.step] at hstep
      split_ifs at hstep with hidle
      cases hstep
      exact consistent_of_idle hstate hidle (.inl hidle) (some (.error error))
    | ok _ =>
      simp only [State.step] at hstep
      split_ifs at hstep with hidle
      cases hstep
      exact consistent_of_idle hstate hidle (.inr ⟨.nativeConnect, rfl⟩) state.reply
  | advance => exact consistent_of_advance hstate hstep
  | buildFails error =>
    simp only [State.step] at hstep
    split_ifs at hstep with hbuilding
    cases hstep
    exact consistent_of_buildFails hstate hbuilding (some (.error error))
  | timeOut =>
    simp only [State.step] at hstep
    split at hstep
    · next session hreceiving =>
      cases hstep
      exact consistent_of_timeOut hstate hreceiving (.failed "timed out connecting")
    · cases hstep
  | report session result =>
    simp only [State.step] at hstep
    split_ifs at hstep with hconnecting
    cases hstep
    refine consistent_of_change hstate (fun entry hentry ↦ ⟨rfl, rfl, ?_⟩) fun entry hentry ↦ ?_
    · cases result <;> exact Phase.noConfusion
    · rw [phase, hentry, Option.map_some, Option.some.injEq] at hconnecting
      rw [hconnecting]
      cases result <;> exact ⟨Phase.noConfusion, Phase.noConfusion⟩
  | finish session result =>
    simp only [State.step] at hstep
    split_ifs at hstep with hserving
    cases hstep
    cases result <;> exact consistent_of_enter hstate hserving rfl rfl
  | writeError session =>
    simp only [State.step] at hstep
    split at hstep
    · next error hfailing =>
      cases hstep
      exact consistent_of_enter (consistent_of_writeError hstate htimely) hfailing rfl rfl
    · cases hstep
  | storeStopped session =>
    simp only [State.step] at hstep
    split_ifs at hstep
    cases hstep
    exact consistent_of_storeStopped hstate htimely
  | drop session =>
    simp only [State.step] at hstep
    split_ifs at hstep with hdrop
    cases hstep
    refine consistent_of_change hstate (fun entry hentry ↦ ⟨rfl, rfl, fun _ ↦ ?_⟩)
      fun entry hentry ↦ ⟨Phase.noConfusion, fun hfinished ↦ ?_⟩
    · rw [hentry, Option.any_some, Bool.and_eq_true] at hdrop
      exact hdrop.1
    · rw [hentry, Option.any_some, hfinished, Bool.and_eq_true] at hdrop
      exact Bool.noConfusion hdrop.2

theorem consistent_initial : initial.Consistent :=
  consistent_of_untracked rfl rfl rfl (fun _ ↦ Position.noConfusion)
    (fun _ _ hentry ↦ absurd hentry (Option.some_ne_none _).symm)
    (iff_of_false Bool.noConfusion Position.noConfusion)
    fun _ _ hlast ↦ absurd hlast (Option.some_ne_none _).symm

/-- What a timely run reaches. -/
theorem consistent_of_run {actions : List Action}
    (hrun : run (guarded Timely step) initial actions = some state) : state.Consistent :=
  guarded_preserves (fun _ _ _ hstate htimely hstep ↦ hstate.step htimely hstep) hrun
    consistent_initial

/-- A step that is not timely and is taken with no call in progress makes the status lie. -/
theorem timely_of_truthful (hstate : state.Consistent) (hidle : state.position = .idle)
    (hstep : state.step action = some next) (htruthful : next.Truthful) : state.Timely action := by
  cases action with
  | storeStopped session =>
    simp only [State.step] at hstep
    split_ifs at hstep
    cases hstep
    rw [timely_storeStopped_iff, hidle]
    cases hrunning : state.running with
    | false => exact .inl rfl
    | true =>
      obtain ⟨live, hnewest, hconnected, entry, hentry, hlive⟩ := exists_live hstate hidle hrunning
      by_cases hsame : session = live
      · exact .inr ⟨Position.noConfusion, hsame ▸ hnewest⟩
      · have hother : (state.enter session .finished).sessions[live]? = some entry := by
          rw [enter, getElem?_change, hentry, Option.map_some, if_neg hsame]
        cases htruthful.1.mpr ⟨live, hconnected, entry, hother, hlive⟩
  | writeError session =>
    simp only [State.step] at hstep
    split at hstep
    · next error _ =>
      cases hstep
      have hnewest := htruthful.2 session error rfl
      rw [timely_writeError_iff, hidle]
      exact .inr ⟨Position.noConfusion, Position.noConfusion,
        hnewest.trans (List.length_modify ..)⟩
    · cases hstep
  | _ => rfl

end State

/-- After every run of timely steps, in any state with no call in progress, the status tells the
truth, and a step that keeps it so is timely. -/
theorem status_truthful {actions : List Action} {state : State}
    (hrun : run (guarded State.Timely State.step) initial actions = some state)
    (hidle : state.position = .idle) :
    state.Truthful ∧ ∀ action next, state.step action = some next → next.position = .idle →
      (next.Truthful ↔ state.Timely action) := by
  have hstate := State.consistent_of_run hrun
  refine ⟨hstate.truthful hidle, fun action next hstep hnext ↦ ?_⟩
  exact ⟨State.timely_of_truthful hstate hidle hstep,
    fun htimely ↦ (hstate.step htimely hstep).truthful hnext⟩

section Runs

/-- A first session connects, and a second `nativeConnect` cancels it. Its task returns. -/
def replaced (result : Except String Unit) : List Action :=
  [.nativeConnect (.ok ()), .advance, .advance, .advance, .advance, .advance, .advance,
    .report 0 (.ok "{}"), .advance, .nativeConnect (.ok ()), .advance, .advance, .finish 0 result]

/-- The second session connects. -/
def reconnected : List Action :=
  [.advance, .advance, .advance, .advance, .advance, .advance, .advance, .report 1 (.ok "{}"),
    .advance]

/-- The second session has connected, and the first one has finished before. -/
def replacedState : State where
  running := true
  lastError := none
  engine := some 1
  sessions := [⟨true, true, .finished, some (.ok "{}")⟩, ⟨false, false, .serving, some (.ok "{}")⟩]
  position := .idle
  reply := some (.ok "{}")
  connected := some 1

/-- The second session has connected after the first one was cancelled, and the status says so. -/
theorem status_truthful_replaced :
    run (guarded State.Timely State.step) initial
        (replaced (.ok ()) ++ .storeStopped 0 :: reconnected) = some replacedState ∧
      replacedState.Truthful :=
  ⟨rfl, (@status_truthful (replaced (.ok ()) ++ .storeStopped 0 :: reconnected) replacedState
    rfl rfl).1⟩

/-- The task of the first session stores `false` in `RUNNING`, or writes `LAST_ERROR`, after the
second session has connected. -/
theorem status_lies :
    (∃ state, run State.step initial (replaced (.ok ()) ++ reconnected ++ [.storeStopped 0]) =
        some state ∧ state.position = .idle ∧ state.status.running = false ∧
      state.connected = some 1 ∧ state.Live 1) ∧
    ∃ state, run State.step initial
        (replaced (.error "reset") ++ reconnected ++ [.writeError 0]) = some state ∧
      state.position = .idle ∧ state.connected = some 1 ∧ state.lastError = some (0, "reset") :=
  ⟨⟨_, rfl, rfl, rfl, rfl, _, rfl, rfl, rfl⟩, _, rfl, rfl, rfl, rfl⟩

end Runs

end EntroTunnel.Mobile
