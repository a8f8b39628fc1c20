import EntroTunnel.Core.Address
import EntroTunnel.Core.Wire
import EntroTunnel.Foundation.PartialRun
import EntroTunnel.Foundation.Places
import Mathlib.Data.List.Infix

/-!
# The engine behind the desktop commands

The desktop app keeps the handle of the running engine in one slot. `connect_profile` takes the
handle out and stops that engine, starts a new one, waits up to three seconds with the new handle in
a local variable, and then writes it to the slot; `disconnect` and `quit_app` take the handle and
stop its engine. Nothing keeps two commands apart. A handle that is dropped stops nothing: the
engine goes on.

An engine is known by its place in the order of starts. Each command advances by itself from one
access to the shared state, or one await, to the next, in any order among the commands.
-/

set_option autoImplicit false
set_option relaxedAutoImplicit false

namespace EntroTunnel.Desktop

open EntroTunnel.Core EntroTunnel.Foundation

/-- What an engine task returned. -/
inductive TaskResult
  | finished
  | failed (error : String)
  | panicked (error : String)
  deriving DecidableEq, Repr

/-- An engine task with its cancel token. -/
structure EngineTask where
  cancelled : Bool
  result : Option TaskResult
  deriving DecidableEq, Repr

/-- What `EngineHandle::stop` returns when the task has ended: the text of its error. -/
def TaskResult.stopError : TaskResult → Option String
  | .finished => none
  | .failed error => some error
  | .panicked error => some ("transport: engine task join: " ++ error)

/-- What the commands read of the composed configuration. -/
structure ConnectConfig where
  mode : SessionMode
  joinVpn : Bool
  requestedIp : Option Ipv4Addr
  deriving DecidableEq, Repr

/-- Packet modes create a TUN device, and so does joining the VPN from a proxy mode. -/
def ConnectConfig.needsTun (config : ConnectConfig) : Bool :=
  config.mode = .globalProxy || config.mode = .vpn || config.joinVpn

/-- The message of an engine that ended before the wait was over. -/
def earlyFailMessage (config : ConnectConfig) (result : TaskResult) : String :=
  let message := match result with
    | .finished => "the session ended immediately"
    | .failed error => error
    | .panicked error => "engine task failed: " ++ error
  let low := message.toList.map Char.toLower
  if config.needsTun && ("not permitted".toList <:+: low || "denied".toList <:+: low ||
      "permission".toList <:+: low) then
    message ++ " — Global proxy / VPN create a virtual NIC and need administrator/root. " ++
      "Run the app elevated, or switch to System proxy mode (no admin needed)."
  else message

/-- The status shown to the user, less the peers and counters that a running engine reports. -/
structure Status where
  connected : Bool
  profile : Option String
  assignedIp : Option Ipv4Addr
  mode : Option SessionMode
  error : Option String
  deriving DecidableEq, Repr

/-- A profile to connect to. -/
structure Request where
  name : String
  config : ConnectConfig
  deriving DecidableEq, Repr

/-- The commands that only stop the engine. -/
inductive Purpose
  | disconnect
  | quit
  deriving DecidableEq, Repr

/-- A command, by the step it takes next. -/
inductive Command
  /-- `connect_profile` is about to take the slot. -/
  | connecting (request : Request)
  /-- It awaits the engine that it found. -/
  | replacing (request : Request) (previous : ℕ)
  | starting (request : Request)
  /-- It looks at the new engine every 150 ms. -/
  | waiting (request : Request) (handle waited : ℕ)
  | failing (request : Request) (handle : ℕ)
  /-- It is about to write the slot. -/
  | storing (request : Request) (handle : ℕ)
  | publishing (request : Request)
  /-- `disconnect` or `quit_app` is about to take the slot. -/
  | taking (purpose : Purpose)
  | awaiting (purpose : Purpose) (handle : ℕ)
  | stopped (purpose : Purpose) (error : Option String)
  | returned (result : Except String Unit)

/-- The engine that a command has the handle of. -/
def Command.handle : Command → Option ℕ
  | .replacing _ handle | .waiting _ handle _ | .failing _ handle | .storing _ handle
  | .awaiting _ handle => some handle
  | _ => none

/-- The engine that a command is stopping. -/
def Command.stops : Command → Option ℕ
  | .replacing _ handle | .awaiting _ handle => some handle
  | _ => none

theorem Command.handle_of_stops {command : Command} {handle : ℕ}
    (hstops : command.stops = some handle) : command.handle = some handle := by
  cases command <;> first | exact hstops | exact absurd hstops nofun

structure AppState where
  engine : Option ℕ
  status : Status
  quitting : Bool
  exited : Bool
  tasks : List EngineTask
  commands : List Command

namespace AppState

/-- The app before the first command. -/
def start : AppState where
  engine := none
  status := ⟨false, none, none, none, none⟩
  quitting := false
  exited := false
  tasks := []
  commands := []

/-- The result of a task that has ended. -/
def result (state : AppState) (handle : ℕ) : Option TaskResult :=
  state.tasks[handle]?.bind EngineTask.result

/-- The engine task has not ended. -/
def running (state : AppState) (handle : ℕ) : Bool :=
  state.tasks[handle]?.any fun task ↦ task.result.isNone

def put (state : AppState) (index : ℕ) (command : Command) : AppState :=
  { state with commands := state.commands.set index command }

/-- `cancel.cancel()`. -/
def cancel (state : AppState) (handle : ℕ) : AppState :=
  { state with tasks := state.tasks.modify handle fun task ↦ { task with cancelled := true } }

/-- The next step of a command. -/
def advance (state : AppState) (index : ℕ) : Command → Option AppState
  | .connecting request =>
    match state.engine with
    | some previous =>
      some { (state.cancel previous).put index (.replacing request previous) with engine := none }
    | none => some (state.put index (.starting request))
  | .replacing request previous =>
    (state.result previous).map fun _ ↦ state.put index (.starting request)
  | .starting request =>
    some { state.put index (.waiting request state.tasks.length 0) with
      tasks := state.tasks ++ [⟨false, none⟩] }
  | .waiting request handle waited =>
    if (state.result handle).isSome then some (state.put index (.failing request handle))
    else if waited ≥ 3000 then some (state.put index (.storing request handle))
    else some (state.put index (.waiting request handle (waited + 150)))
  | .failing request handle =>
    (state.result handle).map fun result ↦
      let message := earlyFailMessage request.config result
      { state.put index (.returned (.error message)) with
        status := ⟨false, some request.name, none, some request.config.mode, some message⟩ }
  | .storing request handle =>
    some { state.put index (.publishing request) with engine := some handle }
  | .publishing request =>
    some { state.put index (.returned (.ok ())) with
      status :=
        ⟨true, some request.name, request.config.requestedIp, some request.config.mode, none⟩ }
  | .taking purpose =>
    match state.engine with
    | some handle =>
      some { (state.cancel handle).put index (.awaiting purpose handle) with engine := none }
    | none => some (state.put index (.stopped purpose none))
  | .awaiting purpose handle =>
    (state.result handle).map fun result ↦ state.put index (.stopped purpose result.stopError)
  | .stopped .disconnect error =>
    some { state.put index (.returned (.ok ())) with
      status := { state.status with connected := false, error } }
  | .stopped .quit _ => some { state.put index (.returned (.ok ())) with exited := true }
  | .returned _ => none

/-- A command is invoked, a command takes its next step, or an engine task ends. -/
inductive Action
  /-- `connect_profile`, with what the stored files say of the profile. -/
  | connect (name : String) (config : Option ConnectConfig)
  | disconnect
  | quit
  | advance (index : ℕ)
  | engineEnds (handle : ℕ) (result : TaskResult)
  deriving DecidableEq, Repr

/-- Invoke a command. -/
def invoke (state : AppState) (command : Command) : AppState :=
  { state with commands := state.commands ++ [command] }

/-- What the running app does. -/
def act (state : AppState) : Action → Option AppState
  | .connect name (some config) => some (state.invoke (.connecting ⟨name, config⟩))
  | .connect name none =>
    some (state.invoke (.returned (.error ("profile '" ++ name ++ "' not found"))))
  | .disconnect => some (state.invoke (.taking .disconnect))
  | .quit => some { state.invoke (.taking .quit) with quitting := true }
  | .advance index => state.commands[index]?.bind (state.advance index)
  | .engineEnds handle result =>
    if state.running handle then
      some { state with
        tasks := state.tasks.modify handle fun task ↦ { task with result := some result } }
    else none

/-- One step. `app.exit(0)` ends the commands and the engine tasks with the app. -/
def step (state : AppState) (action : Action) : Option AppState :=
  if state.exited then none else state.act action

/-! ### What a step does to the handles -/

/-- What a step does to the slot, the tasks and the commands. -/
inductive Moved (state next : AppState) : Action → Prop
  | invoked (action : Action) (command : Command) (hhandle : command.handle = none)
      (hengine : next.engine = state.engine) (htasks : next.tasks = state.tasks)
      (hcommands : next.commands = state.commands ++ [command]) : Moved state next action
  | ended (handle : ℕ) (result : TaskResult) (hengine : next.engine = state.engine)
      (hrunning : ∀ other, next.running other = true → state.running other = true)
      (hlength : next.tasks.length = state.tasks.length)
      (hcommands : next.commands = state.commands) : Moved state next (.engineEnds handle result)
  | kept (index : ℕ) (command changed : Command) (hcommand : state.commands[index]? = some command)
      (hhandle : changed.handle = command.handle) (hstops : changed.stops = command.stops)
      (hengine : next.engine = state.engine) (htasks : next.tasks = state.tasks)
      (hcommands : next.commands = state.commands.set index changed) :
      Moved state next (.advance index)
  | taken (index : ℕ) (command changed : Command) (handle : ℕ)
      (hcommand : state.commands[index]? = some command) (hfree : command.handle = none)
      (hhandle : changed.handle = some handle) (hstops : changed.stops = some handle)
      (hslot : state.engine = some handle) (hengine : next.engine = none)
      (hrunning : ∀ other, next.running other = state.running other)
      (hlength : next.tasks.length = state.tasks.length)
      (hcommands : next.commands = state.commands.set index changed) :
      Moved state next (.advance index)
  | released (index : ℕ) (command changed : Command) (handle : ℕ)
      (hcommand : state.commands[index]? = some command) (hheld : command.handle = some handle)
      (hended : state.running handle = false) (hengine : next.engine = state.engine)
      (htasks : next.tasks = state.tasks)
      (hcommands : next.commands = state.commands.set index changed) :
      Moved state next (.advance index)
  | started (index : ℕ) (request : Request)
      (hcommand : state.commands[index]? = some (.starting request))
      (hengine : next.engine = state.engine)
      (htasks : next.tasks = state.tasks ++ [⟨false, none⟩])
      (hcommands : next.commands =
        state.commands.set index (.waiting request state.tasks.length 0)) :
      Moved state next (.advance index)
  | stored (index : ℕ) (request : Request) (handle : ℕ)
      (hcommand : state.commands[index]? = some (.storing request handle))
      (hengine : next.engine = some handle) (htasks : next.tasks = state.tasks)
      (hcommands : next.commands = state.commands.set index (.publishing request)) :
      Moved state next (.advance index)

variable {state next : AppState} {action : Action} {index handle : ℕ}

theorem running_congr (htasks : next.tasks = state.tasks) (handle : ℕ) :
    next.running handle = state.running handle := by
  unfold running
  rw [htasks]

theorem running_cancel (state : AppState) (handle other : ℕ) :
    (state.cancel handle).running other = state.running other := by
  unfold running cancel
  rw [List.getElem?_modify]
  cases state.tasks[other]? with
  | none => rfl
  | some task =>
    by_cases hsame : handle = other
    · simp [hsame]
    · simp [hsame]

theorem not_running_of_result {result : TaskResult} (hresult : state.result handle = some result) :
    state.running handle = false := by
  unfold AppState.result at hresult
  obtain ⟨task, htask, hended⟩ := Option.bind_eq_some_iff.mp hresult
  unfold running
  rw [htask, Option.any_some, hended]
  rfl

theorem moved_of_advance {command : Command} (hcommand : state.commands[index]? = some command)
    (hadvance : state.advance index command = some next) : state.Moved next (.advance index) := by
  cases command with
  | connecting request =>
    simp only [advance] at hadvance
    cases hslot : state.engine with
    | none =>
      rw [hslot] at hadvance
      obtain rfl := Option.some.inj hadvance
      refine .kept index _ (.starting request) hcommand ?_ ?_ ?_ ?_ ?_ <;> rfl
    | some previous =>
      rw [hslot] at hadvance
      obtain rfl := Option.some.inj hadvance
      exact .taken index _ _ previous hcommand rfl rfl rfl hslot rfl
        (running_cancel state previous) (List.length_modify ..) rfl
  | replacing request previous =>
    obtain ⟨result, hresult, rfl⟩ := Option.map_eq_some_iff.mp hadvance
    exact .released index _ _ previous hcommand rfl (not_running_of_result hresult) rfl rfl rfl
  | starting request =>
    obtain rfl := Option.some.inj hadvance
    exact .started index request hcommand rfl rfl rfl
  | waiting request handle waited =>
    simp only [advance] at hadvance
    split_ifs at hadvance <;> obtain rfl := Option.some.inj hadvance
    · refine .kept index _ (.failing request handle) hcommand ?_ ?_ ?_ ?_ ?_ <;> rfl
    · refine .kept index _ (.storing request handle) hcommand ?_ ?_ ?_ ?_ ?_ <;> rfl
    · refine .kept index _ (.waiting request handle (waited + 150)) hcommand ?_ ?_ ?_ ?_ ?_ <;> rfl
  | failing request handle =>
    obtain ⟨result, hresult, rfl⟩ := Option.map_eq_some_iff.mp hadvance
    exact .released index _ _ handle hcommand rfl (not_running_of_result hresult) rfl rfl rfl
  | storing request handle =>
    obtain rfl := Option.some.inj hadvance
    exact .stored index request handle hcommand rfl rfl rfl
  | publishing request =>
    obtain rfl := Option.some.inj hadvance
    refine .kept index _ (.returned (.ok ())) hcommand ?_ ?_ ?_ ?_ ?_ <;> rfl
  | taking purpose =>
    simp only [advance] at hadvance
    cases hslot : state.engine with
    | none =>
      rw [hslot] at hadvance
      obtain rfl := Option.some.inj hadvance
      refine .kept index _ (.stopped purpose none) hcommand ?_ ?_ ?_ ?_ ?_ <;> rfl
    | some handle =>
      rw [hslot] at hadvance
      obtain rfl := Option.some.inj hadvance
      exact .taken index _ _ handle hcommand rfl rfl rfl hslot rfl
        (running_cancel state handle) (List.length_modify ..) rfl
  | awaiting purpose handle =>
    obtain ⟨result, hresult, rfl⟩ := Option.map_eq_some_iff.mp hadvance
    exact .released index _ _ handle hcommand rfl (not_running_of_result hresult) rfl rfl rfl
  | stopped purpose error =>
    cases purpose <;> obtain rfl := Option.some.inj hadvance <;>
      refine .kept index _ (.returned (.ok ())) hcommand ?_ ?_ ?_ ?_ ?_ <;> rfl
  | returned result => exact absurd hadvance nofun

theorem act_of_step (hstep : state.step action = some next) : state.act action = some next := by
  rw [step] at hstep
  split_ifs at hstep
  exact hstep

theorem moved_of_step (hstep : state.step action = some next) : state.Moved next action := by
  replace hstep := act_of_step hstep
  cases action with
  | connect name config =>
    cases config <;> obtain rfl := Option.some.inj hstep <;> exact .invoked _ _ rfl rfl rfl rfl
  | disconnect =>
    obtain rfl := Option.some.inj hstep
    exact .invoked _ _ rfl rfl rfl rfl
  | quit =>
    obtain rfl := Option.some.inj hstep
    exact .invoked _ _ rfl rfl rfl rfl
  | advance index =>
    obtain ⟨command, hcommand, hadvance⟩ := Option.bind_eq_some_iff.mp hstep
    exact moved_of_advance hcommand hadvance
  | engineEnds handle result =>
    simp only [act] at hstep
    split_ifs at hstep
    obtain rfl := Option.some.inj hstep
    refine .ended handle result rfl (fun other hrunning ↦ ?_) (List.length_modify ..) rfl
    unfold running at hrunning ⊢
    rw [List.getElem?_modify] at hrunning
    cases htask : state.tasks[other]? with
    | none => simp [htask] at hrunning
    | some task =>
      by_cases hsame : handle = other
      · simp [htask, hsame] at hrunning
      · simpa [htask, hsame] using hrunning

/-! ### Who has the handle of a running engine -/

/-- Some command is stopping the engine. -/
def Stopping (state : AppState) (handle : ℕ) : Prop :=
  ∃ command ∈ state.commands, command.stops = some handle

instance (state : AppState) (handle : ℕ) : Decidable (state.Stopping handle) :=
  inferInstanceAs (Decidable (∃ command ∈ state.commands, command.stops = some handle))

/-- A running engine is in the slot, or a command has its handle and will store or stop it. -/
def Held (state : AppState) : Prop :=
  ∀ handle, state.running handle = true →
    state.engine = some handle ∨ ∃ command ∈ state.commands, command.handle = some handle

/-- At most one engine runs besides one that is being stopped. -/
def AtMostOne (state : AppState) : Prop :=
  ∃ stopping other, ∀ handle, state.running handle = true →
    handle = other ∨ handle = stopping ∧ state.Stopping handle

/-- Any engine that runs is being stopped, and there is one at most. -/
def allStopping (state : AppState) : Bool :=
  (List.range state.tasks.length).all fun handle ↦ !state.running handle ||
    (state.Stopping handle && (List.range state.tasks.length).all fun other ↦
      !state.running other || other = handle)

/-- The condition on the runs below: a command starts an engine only while any other that runs is
being stopped, does not store a handle over that of a running engine, and takes the slot in order to
stop its engine only while no other command has the handle of a running one. -/
def orderly (state : AppState) : Action → Bool
  | .advance index =>
    match state.commands[index]? with
    | some (.starting _) => state.allStopping
    | some (.storing _ _) => state.engine.all fun handle ↦ !state.running handle
    | some (.taking _) => state.commands.all fun command ↦
        command.handle.all fun handle ↦ !state.running handle
    | _ => true
  | _ => true

abbrev Orderly (state : AppState) (action : Action) : Prop :=
  state.orderly action = true

theorem lt_length_of_running (hrunning : state.running handle = true) :
    handle < state.tasks.length := by
  obtain ⟨task, htask, -⟩ := Option.any_eq_true _ _ |>.mp hrunning
  exact (List.getElem?_eq_some_iff.mp htask).1

theorem stopping_of_allStopping (hall : state.allStopping = true)
    (hrunning : state.running handle = true) :
    state.Stopping handle ∧ ∀ other, state.running other = true → other = handle := by
  have hhandle := List.all_eq_true.mp hall handle
    (List.mem_range.mpr (lt_length_of_running hrunning))
  simp only [hrunning, Bool.not_true, Bool.false_or, Bool.and_eq_true, decide_eq_true_iff]
    at hhandle
  refine ⟨hhandle.1, fun other hother ↦ ?_⟩
  have hsame := List.all_eq_true.mp hhandle.2 other
    (List.mem_range.mpr (lt_length_of_running hother))
  simpa [hother] using hsame

/-- The task that a step starts is the only one that runs after it and did not before. -/
theorem running_started (htasks : next.tasks = state.tasks ++ [⟨false, none⟩])
    (hrunning : next.running handle = true) :
    state.running handle = true ∨ handle = state.tasks.length := by
  unfold running at hrunning ⊢
  rw [htasks] at hrunning
  obtain ⟨task, htask, hruns⟩ := Option.any_eq_true _ _ |>.mp hrunning
  obtain hold | ⟨hlast, -⟩ := getElem?_concat_eq_some.mp htask
  · left
    rw [hold]
    exact hruns
  · exact .inr hlast

/-- The tasks that ran before a step, or the one it starts. -/
theorem Moved.running (hmoved : state.Moved next action) (hrunning : next.running handle = true) :
    state.running handle = true ∨ handle = state.tasks.length := by
  cases hmoved with
  | invoked _ _ _ _ htasks | kept _ _ _ _ _ _ _ htasks | released _ _ _ _ _ _ _ _ htasks
  | stored _ _ _ _ _ htasks =>
    exact .inl (running_congr htasks handle ▸ hrunning)
  | ended _ _ _ hbefore => exact .inl (hbefore handle hrunning)
  | taken _ _ _ _ _ _ _ _ _ _ hsame => exact .inl (hsame handle ▸ hrunning)
  | started _ _ _ _ htasks => exact running_started htasks hrunning

/-- After one command has changed, every command is there but for its old form. -/
theorem mem_changed {command changed : Command} (hcommand : state.commands[index]? = some command)
    (hcommands : next.commands = state.commands.set index changed) :
    changed ∈ next.commands ∧
      ∀ other ∈ state.commands, other = command ∨ other ∈ next.commands := by
  obtain ⟨hlt, -⟩ := List.getElem?_eq_some_iff.mp hcommand
  rw [hcommands]
  refine ⟨List.mem_set hlt changed, fun other hother ↦ ?_⟩
  obtain ⟨place, hplace⟩ := List.mem_iff_getElem?.mp hother
  by_cases hsame : index = place
  · subst hsame
    exact .inl (Option.some.inj (hplace.symm.trans hcommand))
  · refine .inr (List.mem_iff_getElem?.mpr ⟨place, ?_⟩)
    rw [List.getElem?_set_ne hsame]
    exact hplace

theorem held_start : start.Held :=
  fun _ h ↦ absurd h nofun

theorem Held.step (hheld : state.Held) (horderly : state.Orderly action)
    (hmoved : state.Moved next action) : next.Held := by
  intro handle hrunning
  have hbefore := hmoved.running hrunning
  cases hmoved with
  | invoked action command hhandle hengine htasks hcommands =>
    rw [hengine, hcommands]
    refine (hheld handle (running_congr htasks handle ▸ hrunning)).imp_right ?_
    rintro ⟨found, hfound, hholds⟩
    exact ⟨found, List.mem_append_left _ hfound, hholds⟩
  | ended ended result hengine hbefore hlength hcommands =>
    rw [hengine, hcommands]
    exact hheld handle (hbefore handle hrunning)
  | kept index command changed hcommand hhandle hstops hengine htasks hcommands =>
    obtain ⟨hchanged, hothers⟩ := mem_changed hcommand hcommands
    rw [hengine]
    refine (hheld handle (running_congr htasks handle ▸ hrunning)).imp_right ?_
    rintro ⟨found, hfound, hholds⟩
    obtain rfl | hkept := hothers found hfound
    · exact ⟨changed, hchanged, hhandle.trans hholds⟩
    · exact ⟨found, hkept, hholds⟩
  | taken index command changed taken hcommand hfree hhandle hstops hslot hengine hsame hlength
      hcommands =>
    obtain ⟨hchanged, hothers⟩ := mem_changed hcommand hcommands
    right
    obtain hsaved | ⟨found, hfound, hholds⟩ := hheld handle (hsame handle ▸ hrunning)
    · obtain rfl := Option.some.inj (hslot.symm.trans hsaved)
      exact ⟨changed, hchanged, hhandle⟩
    · obtain rfl | hkept := hothers found hfound
      · exact absurd (hfree.symm.trans hholds) nofun
      · exact ⟨found, hkept, hholds⟩
  | released index command changed released hcommand hhandle hended hengine htasks hcommands =>
    obtain ⟨-, hothers⟩ := mem_changed hcommand hcommands
    have hold := running_congr htasks handle ▸ hrunning
    rw [hengine]
    refine (hheld handle hold).imp_right ?_
    rintro ⟨found, hfound, hholds⟩
    obtain rfl | hkept := hothers found hfound
    · obtain rfl := Option.some.inj (hhandle.symm.trans hholds)
      exact absurd (hended.symm.trans hold) nofun
    · exact ⟨found, hkept, hholds⟩
  | started index request hcommand hengine htasks hcommands =>
    obtain ⟨hchanged, hothers⟩ := mem_changed hcommand hcommands
    obtain hold | rfl := hbefore
    · rw [hengine]
      refine (hheld handle hold).imp_right ?_
      rintro ⟨found, hfound, hholds⟩
      obtain rfl | hkept := hothers found hfound
      · exact absurd hholds nofun
      · exact ⟨found, hkept, hholds⟩
    · exact .inr ⟨_, hchanged, rfl⟩
  | stored index request stored hcommand hengine htasks hcommands =>
    obtain ⟨-, hothers⟩ := mem_changed hcommand hcommands
    have hold := running_congr htasks handle ▸ hrunning
    have hslot : state.engine.all (fun saved ↦ !state.running saved) = true := by
      simpa only [Orderly, orderly, hcommand] using horderly
    rw [hengine]
    obtain hsaved | ⟨found, hfound, hholds⟩ := hheld handle hold
    · rw [hsaved, Option.all_some, hold] at hslot
      exact absurd hslot nofun
    · obtain rfl | hkept := hothers found hfound
      · exact .inl hholds
      · exact .inr ⟨found, hkept, hholds⟩

/-- An engine that is being stopped, is so as long as it runs. -/
theorem Moved.stopping (hmoved : state.Moved next action) (hstopping : state.Stopping handle)
    (hrunning : state.running handle = true) : next.Stopping handle := by
  obtain ⟨found, hfound, hstops⟩ := hstopping
  cases hmoved with
  | invoked action command hhandle hengine htasks hcommands =>
    exact ⟨found, hcommands ▸ List.mem_append_left _ hfound, hstops⟩
  | ended ended result hengine hbefore hlength hcommands =>
    exact ⟨found, hcommands ▸ hfound, hstops⟩
  | kept index command changed hcommand hhandle hsame hengine htasks hcommands =>
    obtain ⟨hchanged, hothers⟩ := mem_changed hcommand hcommands
    obtain rfl | hkept := hothers found hfound
    · exact ⟨changed, hchanged, hsame.trans hstops⟩
    · exact ⟨found, hkept, hstops⟩
  | taken index command changed taken hcommand hfree hhandle _ _ _ _ _ hcommands =>
    obtain ⟨-, hothers⟩ := mem_changed hcommand hcommands
    obtain rfl | hkept := hothers found hfound
    · exact absurd (hfree.symm.trans (Command.handle_of_stops hstops)) nofun
    · exact ⟨found, hkept, hstops⟩
  | released index command changed released hcommand hhandle hended hengine htasks hcommands =>
    obtain ⟨-, hothers⟩ := mem_changed hcommand hcommands
    obtain rfl | hkept := hothers found hfound
    · obtain rfl := Option.some.inj (hhandle.symm.trans (Command.handle_of_stops hstops))
      exact absurd (hended.symm.trans hrunning) nofun
    · exact ⟨found, hkept, hstops⟩
  | started index request hcommand hengine htasks hcommands =>
    obtain ⟨-, hothers⟩ := mem_changed hcommand hcommands
    obtain rfl | hkept := hothers found hfound
    · exact absurd hstops nofun
    · exact ⟨found, hkept, hstops⟩
  | stored index request stored hcommand hengine htasks hcommands =>
    obtain ⟨-, hothers⟩ := mem_changed hcommand hcommands
    obtain rfl | hkept := hothers found hfound
    · exact absurd hstops nofun
    · exact ⟨found, hkept, hstops⟩

theorem atMostOne_start : start.AtMostOne :=
  ⟨0, 0, fun _ h ↦ absurd h nofun⟩

/-- A step that starts nothing. -/
theorem AtMostOne.kept (hone : state.AtMostOne) (hmoved : state.Moved next action)
    (hbefore : ∀ handle, next.running handle = true → state.running handle = true) :
    next.AtMostOne := by
  obtain ⟨stopping, other, hall⟩ := hone
  refine ⟨stopping, other, fun handle hrunning ↦ ?_⟩
  have hold := hbefore handle hrunning
  exact (hall handle hold).imp_right fun ⟨hsame, hstopping⟩ ↦
    ⟨hsame, hmoved.stopping hstopping hold⟩

theorem AtMostOne.step (hone : state.AtMostOne) (horderly : state.Orderly action)
    (hmoved : state.Moved next action) : next.AtMostOne := by
  have hcopy := hmoved
  cases hmoved with
  | started index request hcommand hengine htasks hcommands =>
    have hall : state.allStopping = true := by
      simpa only [Orderly, orderly, hcommand] using horderly
    by_cases hany : ∃ handle, state.running handle = true
    · obtain ⟨stopping, hstopping⟩ := hany
      obtain ⟨hstops, hothers⟩ := stopping_of_allStopping hall hstopping
      refine ⟨stopping, state.tasks.length, fun handle hrunning ↦ ?_⟩
      obtain hold | hnew := hcopy.running hrunning
      · exact .inr ⟨hothers handle hold, hothers handle hold ▸ hcopy.stopping hstops hstopping⟩
      · exact .inl hnew
    · refine ⟨0, state.tasks.length, fun handle hrunning ↦ ?_⟩
      exact .inl ((hcopy.running hrunning).resolve_left fun hold ↦ hany ⟨handle, hold⟩)
  | invoked _ _ _ _ htasks | kept _ _ _ _ _ _ _ htasks | released _ _ _ _ _ _ _ _ htasks
  | stored _ _ _ _ _ htasks =>
    exact hone.kept hcopy fun handle hrunning ↦ running_congr htasks handle ▸ hrunning
  | ended _ _ _ hbefore => exact hone.kept hcopy hbefore
  | taken _ _ _ _ _ _ _ _ _ _ hsame =>
    exact hone.kept hcopy fun handle hrunning ↦ hsame handle ▸ hrunning

/-- Of the first engines only the one that a certain command is stopping may still run. -/
structure StoppedBy (count index : ℕ) (state : AppState) : Prop where
  old : count ≤ state.tasks.length
  only : ∀ handle < count, state.running handle = true →
    state.commands[index]?.bind Command.stops = some handle

theorem StoppedBy.step {count : ℕ} (hstopped : StoppedBy count index state)
    (hmoved : state.Moved next action) : StoppedBy count index next := by
  obtain ⟨hold, honly⟩ := hstopped
  have hbefore : ∀ handle < count, next.running handle = true → state.running handle = true :=
    fun handle hlt hrunning ↦ (hmoved.running hrunning).resolve_right fun hnew ↦ by omega
  -- A command that changes is another one, or stops the same engine, or has its engine stopped.
  have hput : ∀ {place : ℕ} {command changed : Command},
      state.commands[place]? = some command →
      next.commands = state.commands.set place changed →
      (∀ handle < count, command.stops = some handle → next.running handle = true →
        changed.stops = some handle) →
      ∀ handle < count, next.running handle = true →
        next.commands[index]?.bind Command.stops = some handle := by
    intro place command changed hcommand hcommands hsame handle hlt hrunning
    have hstops := honly handle hlt (hbefore handle hlt hrunning)
    rw [hcommands, getElem?_set_of_eq_some hcommand]
    split_ifs with hplace
    · subst hplace
      rw [hcommand, Option.bind_some] at hstops
      rw [Option.bind_some]
      exact hsame handle hlt hstops hrunning
    · exact hstops
  cases hmoved with
  | invoked action command hhandle hengine htasks hcommands =>
    refine ⟨htasks ▸ hold, fun handle hlt hrunning ↦ ?_⟩
    obtain ⟨found, hfound, hstops⟩ :=
      Option.bind_eq_some_iff.mp (honly handle hlt (hbefore handle hlt hrunning))
    rw [hcommands, getElem?_concat_eq_some.mpr (.inl hfound)]
    exact hstops
  | ended ended result hengine _ hlength hcommands =>
    refine ⟨hlength ▸ hold, fun handle hlt hrunning ↦ ?_⟩
    rw [hcommands]
    exact honly handle hlt (hbefore handle hlt hrunning)
  | kept place command changed hcommand hhandle hstops hengine htasks hcommands =>
    exact ⟨htasks ▸ hold, hput hcommand hcommands fun _ _ h _ ↦ hstops.trans h⟩
  | taken place command changed taken hcommand hfree _ _ _ _ _ hlength hcommands =>
    refine ⟨hlength ▸ hold, hput hcommand hcommands fun handle _ hstops _ ↦ ?_⟩
    exact absurd (hfree.symm.trans (Command.handle_of_stops hstops)) nofun
  | released place command changed released hcommand hhandle hended hengine htasks hcommands =>
    refine ⟨htasks ▸ hold, hput hcommand hcommands fun handle _ hstops hrunning ↦ ?_⟩
    obtain rfl := Option.some.inj (hhandle.symm.trans (Command.handle_of_stops hstops))
    rw [running_congr htasks] at hrunning
    exact absurd (hended.symm.trans hrunning) nofun
  | started place request hcommand hengine htasks hcommands =>
    refine ⟨?_, hput hcommand hcommands fun _ _ hstops _ ↦ absurd hstops nofun⟩
    rw [htasks, List.length_append]
    omega
  | stored place request stored hcommand hengine htasks hcommands =>
    exact ⟨htasks ▸ hold, hput hcommand hcommands fun _ _ hstops _ ↦ absurd hstops nofun⟩

/-- An orderly command that takes the slot to stop its engine, stops every engine that runs. -/
theorem Held.stoppedBy {purpose : Purpose} (hheld : state.Held)
    (hcommand : state.commands[index]? = some (.taking purpose))
    (horderly : state.Orderly (.advance index))
    (hstep : state.step (.advance index) = some next) :
    StoppedBy state.tasks.length index next := by
  have hfree : state.commands.all (fun command ↦
      command.handle.all fun handle ↦ !state.running handle) = true := by
    simpa only [Orderly, orderly, hcommand] using horderly
  have hslot : ∀ handle, state.running handle = true → state.engine = some handle := by
    intro handle hrunning
    refine (hheld handle hrunning).resolve_right ?_
    rintro ⟨command, hmem, hholds⟩
    have hended := List.all_eq_true.mp hfree command hmem
    rw [hholds, Option.all_some, hrunning] at hended
    exact absurd hended nofun
  obtain ⟨command, hfound, hadvance⟩ := Option.bind_eq_some_iff.mp (act_of_step hstep)
  obtain rfl := Option.some.inj (hfound.symm.trans hcommand)
  have hlt := (List.getElem?_eq_some_iff.mp hcommand).1
  simp only [advance] at hadvance
  cases hengine : state.engine with
  | none =>
    rw [hengine] at hadvance
    obtain rfl := Option.some.inj hadvance
    refine ⟨le_rfl, fun handle _ hrunning ↦ ?_⟩
    exact absurd (hengine.symm.trans (hslot handle hrunning)) nofun
  | some saved =>
    rw [hengine] at hadvance
    obtain rfl := Option.some.inj hadvance
    refine ⟨(List.length_modify ..).ge, fun handle _ hrunning ↦ ?_⟩
    have hold := (running_cancel state saved handle).symm.trans hrunning
    obtain rfl := Option.some.inj (hengine.symm.trans (hslot handle hold))
    exact congrArg (Option.bind · Command.stops) (List.getElem?_set_self hlt)

/-- In an orderly run at most one engine runs besides one that is being stopped, every running
engine can be stopped, and a `disconnect` or a quit that has completed leaves no engine running that
was started before it took the slot. -/
theorem engine_controlled {actions : List Action}
    (hrun : run (guarded Orderly step) start actions = some state) :
    state.AtMostOne ∧ state.Held ∧
      ∀ (earlier later : List Action) (index : ℕ) (before : AppState) (purpose : Purpose)
        (result : Except String Unit), actions = earlier ++ .advance index :: later →
          run step start earlier = some before →
            before.commands[index]? = some (.taking purpose) →
              state.commands[index]? = some (.returned result) →
                ∀ handle < before.tasks.length, state.running handle = false := by
  have hheld : ∀ {final : AppState} {actions : List Action},
      run (guarded Orderly step) start actions = some final → final.Held := fun hrun ↦
    guarded_preserves (fun _ _ _ h horderly hstep ↦ Held.step h horderly (moved_of_step hstep))
      hrun held_start
  refine ⟨?_, hheld hrun, ?_⟩
  · exact guarded_preserves
      (fun _ _ _ h horderly hstep ↦ AtMostOne.step h horderly (moved_of_step hstep))
      hrun atMostOne_start
  rintro earlier later index before purpose result rfl hearlier htaking hreturned handle hlt
  rw [run_append, Option.bind_eq_some_iff] at hrun
  obtain ⟨middle, hmiddle, hlater⟩ := hrun
  obtain rfl := Option.some.inj ((run_of_guarded hmiddle).symm.trans hearlier)
  obtain ⟨after, hafter, hrest⟩ := run_cons_eq_some.mp hlater
  obtain ⟨horderly, hstep⟩ := guarded_eq_some.mp hafter
  have hstopped : StoppedBy middle.tasks.length index state :=
    run_preserves (fun _ _ _ h hstep ↦ h.step (moved_of_step hstep)) (run_of_guarded hrest)
      ((hheld hmiddle).stoppedBy htaking horderly hstep)
  by_contra hrunning
  have hstops := hstopped.only handle hlt (Bool.eq_true_of_not_eq_false hrunning)
  rw [hreturned] at hstops
  exact absurd hstops nofun

/-! ### Disconnecting while a connection is set up -/

section Example

/-- A profile in VPN mode. -/
def vpnConfig : ConnectConfig := ⟨.vpn, false, none⟩

/-- `connect_profile` up to the wait for its engine. -/
def connectRun (index : ℕ) : List Action :=
  [.connect "home" (some vpnConfig), .advance index, .advance index]

/-- The engine stays up, and its handle is stored. -/
def storeRun (index : ℕ) : List Action :=
  connectRun index ++ List.replicate 21 (.advance index) ++ [.advance index, .advance index]

/-- A `disconnect` whose engine ends when it is told to. -/
def disconnectRun (index handle : ℕ) : List Action :=
  [.disconnect, .advance index, .engineEnds handle .finished, .advance index, .advance index]

/-- An engine is started and its handle stored; after a `disconnect` none runs. -/
theorem engine_controlled_disconnectRun :
    ∃ state, run (guarded Orderly step) start (storeRun 0 ++ disconnectRun 1 0) = some state ∧
      state.AtMostOne ∧ state.Held ∧
      ∀ (earlier later : List Action) (index : ℕ) (before : AppState) (purpose : Purpose)
        (result : Except String Unit),
        storeRun 0 ++ disconnectRun 1 0 = earlier ++ .advance index :: later →
          run step start earlier = some before →
            before.commands[index]? = some (.taking purpose) →
              state.commands[index]? = some (.returned result) →
                ∀ handle < before.tasks.length, state.running handle = false := by
  obtain ⟨state, hrun⟩ : ∃ state,
      run (guarded Orderly step) start (storeRun 0 ++ disconnectRun 1 0) = some state :=
    Option.isSome_iff_exists.mp (by decide +kernel)
  exact ⟨state, hrun, engine_controlled hrun⟩

/-- A `disconnect` while the new engine is in the hands of `connect_profile` leaves it running. -/
theorem engine_left_running :
    ¬ ∀ (actions earlier later : List Action) (state before : AppState) (index : ℕ)
      (purpose : Purpose) (result : Except String Unit),
      run step start actions = some state → actions = earlier ++ .advance index :: later →
        run step start earlier = some before →
          before.commands[index]? = some (.taking purpose) →
            state.commands[index]? = some (.returned result) →
              ∀ handle < before.tasks.length, state.running handle = false := by
  intro hall
  have hended := hall (connectRun 0 ++ [.disconnect, .advance 1, .advance 1])
    (connectRun 0 ++ [.disconnect]) [.advance 1] _ _ 1 .disconnect (.ok ()) rfl rfl rfl rfl rfl 0
    (by decide)
  exact absurd hended nofun

end Example

end AppState

end EntroTunnel.Desktop
