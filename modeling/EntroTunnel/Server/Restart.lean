import EntroTunnel.Foundation.ByteDecode
import EntroTunnel.Foundation.PartialRun
import EntroTunnel.Server.PeerRegistry
import EntroTunnel.Server.Startup

/-!
# A server that is administered and restarted

A `Process` is a running server and the bytes of its configuration file. Any number of requests are
handled at a time (`PeerRegistry`): each is authorized, changes the peers in memory under the write
lock, and writes the whole configuration to the file piece by piece, so that the saves of two
requests interleave and each may fail. A restart is `run` of `server/src/main.rs`. It may come at
any moment, also in the middle of a save; it reads the file as it stands then, and gives up when it
finds something wrong with it.

`config_durable` says who may change the peers, and what the file owes to memory. When no handler is
between its change and its answer and no save has failed since the last change, a restart brings
back the configuration. Where every restart comes at such a moment, a change that was answered with
success is there for good, or until a later change takes it back. IPv6 is part of the configuration:
the comment on `subnet6` says that `None` disables it, but no file stands for `None`.
-/

set_option autoImplicit false
set_option relaxedAutoImplicit false

namespace EntroTunnel.Server.File

open EntroTunnel.Core EntroTunnel.Client EntroTunnel.Desktop EntroTunnel.Foundation
  EntroTunnel.Foundation.Document

/-! ### Requests -/

/-- What a request carries to be authorized: the `token` of its query, empty when it has none, and
the text of its `Authorization` header. -/
structure Credentials where
  query : String
  authorization : Option String

/-- `authorized`. -/
def authorized (config : ServerConfig) (credentials : Credentials) : Bool :=
  if credentials.query ≠ "" ∧ credentials.query = config.web.adminToken then true
  else
    match credentials.authorization.bind fun value ↦
        stripPrefix "Bearer ".toList value.toList with
    | some token => decide (token = config.web.adminToken.toList)
    | none => false

/-- The credentials name a token, in the query or in the header. -/
def Credentials.Carries (credentials : Credentials) (token : String) : Prop :=
  credentials.query ≠ "" ∧ credentials.query = token ∨
    credentials.authorization = some ("Bearer " ++ token)

theorem authorized_iff (config : ServerConfig) (credentials : Credentials) :
    authorized config credentials = true ↔ credentials.Carries config.web.adminToken := by
  rw [authorized, Credentials.Carries]
  split_ifs with hquery
  · exact iff_of_true rfl (.inl hquery)
  cases hheader : credentials.authorization with
  | none => simp only [Option.bind_none, Bool.false_eq_true, hquery, reduceCtorEq, or_self]
  | some value =>
    rw [Option.bind_some, Option.some.injEq, or_iff_right hquery]
    cases hstrip : stripPrefix "Bearer ".toList value.toList with
    | none =>
      refine iff_of_false Bool.false_ne_true fun hvalue ↦ stripPrefix_eq_none.mp hstrip ?_
      rw [hvalue, String.toList_append]
      exact List.prefix_append _ _
    | some token =>
      have hvalue := eq_append_of_stripPrefix hstrip
      dsimp only
      rw [decide_eq_true_iff, ← String.toList_inj, hvalue, String.toList_append,
        List.append_cancel_left_eq]

/-! ### The file -/

/-- `std::fs::read_to_string`, for the bytes of the file. -/
def readToString (bytes : Bytes) : Except String String :=
  match String.fromUTF8? ⟨bytes.toArray⟩ with
  | some text => .ok text
  | none => .error "stream did not contain valid UTF-8"

theorem readToString_toUTF8 (text : String) :
    readToString text.toUTF8.data.toList = .ok text := by
  have hbytes : String.fromUTF8? ⟨text.toUTF8.data.toList.toArray⟩ = some text :=
    fromUTF8?_toUTF8 text
  rw [readToString, hbytes]

/-- The file of a server: a list of peers is saved with the rest of the configuration that the
server was started with, and is read back from a file that has the same rest. -/
def ServerConfig.registryToml (library : Library) (host : Host) (path : String)
    (config : ServerConfig) : Toml UInt8 where
  blank := 0
  render session :=
    match ServerConfig.toToml library { config with peers := session.peers } with
    | .ok text => text.toUTF8.data.toList
    | .error _ => []
  parse bytes :=
    match ServerConfig.load library path (readToString bytes) with
    | .ok loaded =>
      if { loaded with peers := config.peers } = config then some (loaded.running host) else none
    | .error _ => none

/-! ### The server -/

/-- A running server and its configuration file. -/
structure Process where
  /-- What the server was started with. -/
  config : ServerConfig
  registry : PeerRegistry UInt8
  /-- A save has failed since the last change. No step reads it. -/
  failed : Bool
  /-- The changes that were made before the last restart. No step reads them. -/
  past : List (ℕ × PeerRequest)

inductive ProcessAction
  | request (credentials : Credentials) (request : PeerRequest)
  | proceed (action : RegistryAction)
  | restart

namespace Process

/-- The configuration in memory. -/
def current (process : Process) : ServerConfig :=
  { process.config with peers := process.registry.config.peers }

/-- All changes, in the order in which they were made. -/
def log (process : Process) : List (ℕ × PeerRequest) :=
  process.past ++ process.registry.history

/-- A server that was started with this configuration and this file. -/
def start (host : Host) (config : ServerConfig) (file : Bytes) (past : List (ℕ × PeerRequest)) :
    Process where
  config := config
  registry := .start (config.running host) file
  failed := false
  past := past

/-- No handler is between its change and its answer. -/
def AtRest (process : Process) : Prop :=
  ∀ entry ∈ process.registry.requests, entry.2.unsaved = false ∧ entry.2.reading = false

instance (process : Process) : Decidable process.AtRest :=
  inferInstanceAs (Decidable (∀ _ ∈ _, _))

section Steps

variable (library : Library) (host : Host) (path : String)

/-- A step of the handlers. -/
def advance (process : Process) (action : RegistryAction) : Option Process :=
  (process.registry.step (process.config.registryToml library host path) action).map
    fun registry ↦
      { process with
        registry
        failed :=
          match action with
          | .fail _ => true
          | _ => process.failed && decide (registry.history = process.registry.history) }

/-- What a handler does by itself. It does not open the file for a configuration that cannot be
serialized. -/
def proceeds (process : Process) : RegistryAction → Bool
  | .arrive _ _ => false
  | .openFile _ => (process.current.toToml library).toOption.isSome
  | _ => true

/-- One step. A server that gives up on its configuration is not restarted. -/
def step (process : Process) : ProcessAction → Option Process
  | .request credentials request =>
    process.advance library host path (.arrive (authorized process.current credentials) request)
  | .proceed action =>
    if process.proceeds library action then process.advance library host path action else none
  | .restart =>
    match ServerConfig.load library path (readToString process.registry.file) with
    | .error _ => none
    | .ok config =>
      match startup host config with
      | .error _ => none
      | .ok _ => some (.start host config process.registry.file process.log)

end Steps

/-- A restart comes when the file is that of memory. -/
def Orderly (process : Process) : ProcessAction → Prop
  | .restart => process.failed = false ∧ process.AtRest
  | _ => True

instance (process : Process) (action : ProcessAction) : Decidable (process.Orderly action) := by
  cases action
  case restart => exact inferInstanceAs (Decidable (_ ∧ _))
  all_goals exact .isTrue trivial

/-- The step is not the failure of a save. -/
def Saves : ProcessAction → Prop
  | .proceed action => action.Saves
  | _ => True

/-! ### What a step keeps -/

section Durability

variable {library : Library} {host : Host} {path : String} {process next : Process}

/-- A step of the handlers: a save fails, or the registry takes a step and a change forgets that a
save has failed. -/
theorem advance_cases {action : RegistryAction}
    (hadvance : process.advance library host path action = some next) :
    next.config = process.config ∧ next.past = process.past ∧
      ((∃ index request handling, action = .fail index ∧ next.failed = true ∧
          process.registry.requests[index]? = some (request, handling) ∧
          next.registry = process.registry.proceed index request (.answered .internalServerError)) ∨
        (process.registry.Stepped (process.config.registryToml library host path) action
            next.registry ∧
          next.failed =
            (process.failed && decide (next.registry.history = process.registry.history)))) := by
  obtain ⟨registry, hstep, rfl⟩ := Option.map_eq_some_iff.mp hadvance
  refine ⟨rfl, rfl, ?_⟩
  cases action with
  | fail index =>
    obtain ⟨request, handling, hat, hregistry⟩ := PeerRegistry.proceed_of_fail hstep
    exact .inl ⟨index, request, handling, rfl, rfl, hat, hregistry⟩
  | _ => exact .inr ⟨PeerRegistry.stepped_of_step (by trivial) hstep, rfl⟩

/-- A request comes in, a handler goes on, or the server is started again from the file. -/
theorem step_cases {action : ProcessAction}
    (hstep : process.step library host path action = some next) :
    (∃ inner, (action = .proceed inner ∧ process.proceeds library inner = true ∨
        ∃ credentials request, action = .request credentials request ∧
          inner = .arrive (authorized process.current credentials) request) ∧
        process.advance library host path inner = some next) ∨
      action = .restart ∧ ∃ config started,
        ServerConfig.load library path (readToString process.registry.file) = .ok config ∧
        startup host config = .ok started ∧
        next = .start host config process.registry.file process.log := by
  cases action with
  | request credentials request => exact .inl ⟨_, .inr ⟨credentials, request, rfl, rfl⟩, hstep⟩
  | proceed inner =>
    rw [step] at hstep
    split_ifs at hstep with hproceeds
    exact .inl ⟨inner, .inl ⟨rfl, hproceeds⟩, hstep⟩
  | restart =>
    rw [step] at hstep
    cases hload : ServerConfig.load library path (readToString process.registry.file) with
    | error error =>
      rw [hload] at hstep
      cases hstep
    | ok config =>
      cases hstarted : startup host config with
      | error error =>
        simp only [hload, hstarted] at hstep
        cases hstep
      | ok started =>
        simp only [hload, hstarted, Option.some.injEq] at hstep
        exact .inr ⟨rfl, config, started, rfl, hstarted, hstep.symm⟩

/-- A server that is running was started with its configuration, which has IPv6. Its answers are
true, and it saves what is in memory, unless a save has failed since the last change. -/
structure Sound (library : Library) (host : Host) (path : String) (process : Process) :
    Prop where
  hasIpv6 : process.config.HasIpv6
  started : ∃ started, startup host process.config = .ok started
  recorded : process.registry.AllRecorded
  saved : process.failed = false →
    process.registry.Saved (process.config.registryToml library host path)

theorem sound_start (hnulls : Nullless library) {config : ServerConfig} {started : Startup}
    {file : Bytes} (hload : ServerConfig.load library path (readToString file) = .ok config)
    (hstarted : startup host config = .ok started) (past : List (ℕ × PeerRequest)) :
    (start host config file past).Sound library host path where
  hasIpv6 := hasIpv6_of_load hnulls hload
  started := ⟨started, hstarted⟩
  recorded := PeerRegistry.allRecorded_start _ _
  saved := fun _ ↦ by
    have hparse : (config.registryToml library host path).parse file =
        some (config.running host) := by
      simp only [ServerConfig.registryToml, hload, if_true]
    exact PeerRegistry.saved_start hparse

theorem Sound.advance (hsound : process.Sound library host path) {action : RegistryAction}
    (hadvance : process.advance library host path action = some next) :
    next.Sound library host path := by
  obtain ⟨hconfig, -, ⟨index, request, handling, -, hfailed, hat, hregistry⟩ |
    ⟨hstepped, hfailed⟩⟩ :=
    advance_cases hadvance
  · refine ⟨hconfig ▸ hsound.hasIpv6, hconfig ▸ hsound.started, ?_, fun hnot ↦ ?_⟩
    · rw [hregistry]
      exact hsound.recorded.proceed_same (PeerRegistry.recorded_of_isError rfl)
    · rw [hfailed] at hnot
      cases hnot
  · refine ⟨hconfig ▸ hsound.hasIpv6, hconfig ▸ hsound.started, hsound.recorded.step hstepped,
      fun hnot ↦ ?_⟩
    rw [hconfig]
    refine PeerRegistry.saved_of_step (fun hsame ↦ hsound.saved ?_) hstepped
    simpa [hfailed, hsame] using hnot

theorem Sound.step (hnulls : Nullless library) (hsound : process.Sound library host path)
    {action : ProcessAction} (hstep : process.step library host path action = some next) :
    next.Sound library host path := by
  obtain ⟨inner, -, hadvance⟩ | ⟨-, config, started, hload, hstarted, rfl⟩ := step_cases hstep
  · exact hsound.advance hadvance
  · exact sound_start hnulls hload hstarted _

/-- When the file is that of memory, it is loaded as the configuration in memory. -/
theorem Sound.load (hsound : process.Sound library host path) (hfailed : process.failed = false)
    (hrest : process.AtRest)
    (hkeeps : Keeps library.renderToml library.toml (writeConfig process.current)) :
    ServerConfig.load library path (readToString process.registry.file) = .ok process.current := by
  have hunsaved : ∀ (index : ℕ) (request : PeerRequest) (place : Handling UInt8),
      process.registry.requests[index]? = some (request, place) → place.unsaved = false :=
    fun _ _ _ hat ↦ (hrest _ (List.mem_of_getElem? hat)).1
  cases (hsound.saved hfailed).current hunsaved with
  | loaded hparse hquiet =>
    simp only [ServerConfig.registryToml] at hparse
    split at hparse
    · rename_i loaded hload
      split_ifs at hparse with hrest
      -- What was loaded has the rest of the configuration, and the peers of memory.
      have hpeers : loaded.peers = process.registry.config.peers := by
        rw [← Option.some.inj hparse, ServerConfig.running_peers]
      rw [hload, current, ← hrest, ← hpeers]
    · cases hparse
  | written hfile =>
    obtain ⟨text, hrender, hload⟩ := process.current.reload_toToml path hkeeps
    have hipv6 : process.current.HasIpv6 := hsound.hasIpv6
    rw [(process.current.reloaded_eq_iff).mpr hipv6] at hload
    have htext : process.registry.file = text.toUTF8.data.toList := by
      rw [current] at hrender
      rw [hfile, ServerConfig.registryToml]
      simp only [hrender]
    rw [htext, readToString_toUTF8, hload]
  | underway index request offset hat =>
    cases (hrest _ (List.mem_of_getElem? hat)).2

/-- A restart brings back what is in memory. -/
theorem Sound.restart (hsound : process.Sound library host path) (hfailed : process.failed = false)
    (hrest : process.AtRest)
    (hkeeps : Keeps library.renderToml library.toml (writeConfig process.current)) :
    process.step library host path .restart =
      some (.start host process.current process.registry.file process.log) := by
  obtain ⟨started, hstarted⟩ := hsound.started
  have hpeers : startup host process.current = .ok started :=
    (startup_with_peers process.registry.config.peers).trans hstarted
  simp only [Process.step, hsound.load hfailed hrest hkeeps, hpeers]

/-- Handlers only add to the log. -/
theorem log_of_advance {action : RegistryAction}
    (hadvance : process.advance library host path action = some next) :
    process.log <+: next.log := by
  obtain ⟨-, hpast, ⟨_, _, _, -, -, -, hregistry⟩ | ⟨hstepped, -⟩⟩ := advance_cases hadvance
  · rw [log, log, hpast, hregistry]
    exact List.prefix_refl _
  · rw [log, log, hpast]
    exact (List.prefix_append_right_inj _).mpr hstepped.history_prefix

theorem log_of_step {action : ProcessAction}
    (hstep : process.step library host path action = some next) : process.log <+: next.log := by
  obtain ⟨inner, -, hadvance⟩ | ⟨-, config, started, -, -, rfl⟩ := step_cases hstep
  · exact log_of_advance hadvance
  · exact List.prefix_append _ _

/-! ### Whole runs -/

theorem sound_of_run (hnulls : Nullless library) {first : Process}
    (hfirst : first.Sound library host path) {actions : List ProcessAction}
    (hrun : run (Process.step library host path) first actions = some process) :
    process.Sound library host path :=
  run_preserves (fun _ _ _ hsound hstep ↦ hsound.step hnulls hstep) hrun hfirst

theorem log_of_run {first : Process} {actions : List ProcessAction}
    (hrun : run (Process.step library host path) first actions = some process) :
    first.log <+: process.log := by
  have hstep : ∀ state action next, first.log <+: log state →
      step library host path state action = some next → first.log <+: log next :=
    fun _ _ _ hprefix hstep ↦ hprefix.trans (log_of_step hstep)
  exact run_preserves hstep hrun (List.prefix_refl _)

/-- A change was asked for by a request that named the admin token of the time. -/
def Asked (library : Library) (host : Host) (path : String) (first : Process)
    (actions : List ProcessAction) (request : PeerRequest) : Prop :=
  ∃ earlier credentials state, earlier ++ [.request credentials request] <+: actions ∧
    run (Process.step library host path) first earlier = some state ∧
      credentials.Carries state.current.web.adminToken

/-- All changes were asked for, and so is what waits for the write lock with leave to take it. -/
structure AllAsked (library : Library) (host : Host) (path : String) (first : Process)
    (actions : List ProcessAction) (process : Process) : Prop where
  waiting : ∀ (index : ℕ) (request : PeerRequest),
    process.registry.requests[index]? = some (request, .waiting true) →
      Asked library host path first actions request
  log : ∀ entry ∈ process.log, Asked library host path first actions entry.2

theorem Asked.concat {first : Process} {actions : List ProcessAction} {request : PeerRequest}
    (hasked : Asked library host path first actions request) (action : ProcessAction) :
    Asked library host path first (actions ++ [action]) request := by
  obtain ⟨earlier, credentials, state, hearlier, hstate⟩ := hasked
  exact ⟨earlier, credentials, state, hearlier.trans (List.prefix_append _ _), hstate⟩

theorem AllAsked.advance {first : Process} {actions : List ProcessAction}
    (hasked : AllAsked library host path first actions process)
    (hprocess : run (Process.step library host path) first actions = some process)
    {action : ProcessAction} {inner : RegistryAction}
    (haction : action = .proceed inner ∧ process.proceeds library inner = true ∨
      ∃ credentials request, action = .request credentials request ∧
        inner = .arrive (authorized process.current credentials) request)
    (hadvance : process.advance library host path inner = some next) :
    AllAsked library host path first (actions ++ [action]) next := by
  obtain ⟨-, hpast, ⟨_, _, _, -, -, -, hregistry⟩ | ⟨hstepped, -⟩⟩ := advance_cases hadvance
  · refine ⟨fun index request hat ↦ ?_, fun entry hmem ↦ ?_⟩
    · rw [hregistry] at hat
      have hbefore := PeerRegistry.waiting_of_proceed (by simp) hat
      exact (hasked.waiting index request hbefore).concat action
    · rw [Process.log, hpast, hregistry] at hmem
      exact (hasked.log entry hmem).concat action
  · refine ⟨fun index request hat ↦ ?_, fun entry hmem ↦ ?_⟩
    · obtain hbefore | rfl := hstepped.waiting hat
      · exact (hasked.waiting index request hbefore).concat action
      -- It has just come in, and was authorized.
      · obtain ⟨-, hproceeds⟩ | ⟨credentials, _, rfl, harrive⟩ := haction
        · cases hproceeds
        · obtain ⟨hauthorized, rfl⟩ := RegistryAction.arrive.inj harrive
          exact ⟨actions, credentials, process, List.prefix_refl _, hprocess,
            (authorized_iff _ _).mp hauthorized.symm⟩
    · rw [Process.log, hpast] at hmem
      obtain hbefore | hmade := List.mem_append.mp hmem
      · exact (hasked.log entry (List.mem_append_left _ hbefore)).concat action
      · obtain hbefore | hwaiting := hstepped.mem_history hmade
        · exact (hasked.log entry (List.mem_append_right _ hbefore)).concat action
        · exact (hasked.waiting entry.1 entry.2 hwaiting).concat action

theorem allAsked_of_run {config : ServerConfig} {file : Bytes} {actions : List ProcessAction}
    (hrun : run (Process.step library host path) (.start host config file []) actions =
      some process) :
    AllAsked library host path (.start host config file []) actions process := by
  refine run_records ?_ ?_ hrun
  · exact ⟨fun _ _ hat ↦ absurd hat (by simp [start, PeerRegistry.start]),
      fun _ hmem ↦ absurd hmem (by simp [Process.log, start, PeerRegistry.start])⟩
  · intro actions action state next hstate hasked hstep
    obtain ⟨inner, haction, hadvance⟩ | ⟨-, config, started, -, -, rfl⟩ := step_cases hstep
    · exact hasked.advance hstate haction hadvance
    · refine ⟨fun _ _ hat ↦ absurd hat (by simp [start, PeerRegistry.start]),
        fun entry hmem ↦ (hasked.log entry ?_).concat action⟩
      simpa [Process.log, start, PeerRegistry.start] using hmem

/-- Without a failure of a save none has failed. -/
theorem failed_of_run {first : Process} (hfirst : first.failed = false)
    {actions : List ProcessAction} (hsaves : ∀ action ∈ actions, Saves action)
    (hrun : run (Process.step library host path) first actions = some process) :
    process.failed = false := by
  induction actions generalizing first with
  | nil =>
    obtain rfl := Option.some.inj hrun
    exact hfirst
  | cons action rest ih =>
    obtain ⟨middle, hmiddle, hrest⟩ := run_cons_eq_some.mp hrun
    refine ih ?_ (fun other hmem ↦ hsaves other (List.mem_cons_of_mem _ hmem)) hrest
    obtain ⟨inner, haction, hadvance⟩ | ⟨-, config, started, -, -, rfl⟩ := step_cases hmiddle
    · obtain ⟨-, -, ⟨index, _, _, rfl, -⟩ | ⟨-, hfailed⟩⟩ := advance_cases hadvance
      · obtain ⟨rfl, -⟩ | ⟨_, _, -, harrive⟩ := haction
        · exact (hsaves _ List.mem_cons_self).elim
        · cases harrive
      · rw [hfailed, hfirst, Bool.false_and]
    · rfl

/-- The library keeps every configuration that the run comes to. -/
def KeepsAll (library : Library) (host : Host) (path : String) (first : Process)
    (actions : List ProcessAction) : Prop :=
  ∀ earlier state, earlier <+: actions →
    run (Process.step library host path) first earlier = some state →
      Keeps library.renderToml library.toml (writeConfig state.current)

/-- Memory is the configuration of the first start but for the peers. These are what all changes
have made of the first ones, and every change that stands holds of them. -/
structure Lasting (initial : ServerConfig) (process : Process) : Prop where
  config : process.config = { initial with peers := process.config.peers }
  replayed : process.registry.Replayed initial.peers process.past
  kept : process.registry.Kept process.past

theorem Lasting.step {config : ServerConfig} (hlasting : process.Lasting config)
    (hsound : process.Sound library host path)
    (hkeeps : Keeps library.renderToml library.toml (writeConfig process.current))
    {action : ProcessAction} (horderly : process.Orderly action)
    (hstep : process.step library host path action = some next) : next.Lasting config := by
  obtain ⟨inner, -, hadvance⟩ | ⟨rfl, -⟩ := step_cases hstep
  · obtain ⟨hconfig, hpast, ⟨_, _, _, -, -, -, hregistry⟩ | ⟨hstepped, -⟩⟩ :=
      advance_cases hadvance
    · refine ⟨hconfig ▸ hlasting.config, ?_, ?_⟩
      · rw [hpast, hregistry]
        exact hlasting.replayed
      · rw [hpast, hregistry]
        exact hlasting.kept
    · exact ⟨hconfig ▸ hlasting.config, hpast ▸ hlasting.replayed.step hstepped,
        hpast ▸ hlasting.kept.step hstepped⟩
  · obtain ⟨hfailed, hrest⟩ := horderly
    rw [hsound.restart hfailed hrest hkeeps] at hstep
    obtain rfl := Option.some.inj hstep
    refine ⟨?_, ?_, fun entry hstanding ↦ hlasting.kept entry ?_⟩
    · rw [start, current, hlasting.config]
    · simpa [PeerRegistry.Replayed, start, PeerRegistry.start, log, current] using
        hlasting.replayed
    · simpa [start, PeerRegistry.start, log] using hstanding

theorem lasting_of_run (hnulls : Nullless library) {config : ServerConfig} {first : Process}
    (hfirst : first.Sound library host path) (hlasting : first.Lasting config)
    {actions : List ProcessAction} (hkeeps : KeepsAll library host path first actions)
    (hrun : run (guarded Orderly (Process.step library host path)) first actions = some process) :
    process.Lasting config := by
  have hstep : ∀ actions action state next,
      run (guarded Orderly (Process.step library host path)) first actions = some state →
        (KeepsAll library host path first actions → state.Lasting config) →
          guarded Orderly (Process.step library host path) state action = some next →
            KeepsAll library host path first (actions ++ [action]) → next.Lasting config := by
    intro actions action state next hstate hbefore hnext hkeeps
    obtain ⟨horderly, htaken⟩ := guarded_eq_some.mp hnext
    have hstateRun := run_of_guarded hstate
    have hkept := hkeeps actions state (List.prefix_append _ _) hstateRun
    refine (hbefore fun earlier other hearlier ↦ ?_).step (sound_of_run hnulls hfirst hstateRun)
      hkept horderly htaken
    exact hkeeps earlier other (hearlier.trans (List.prefix_append _ _))
  exact run_records (fun _ ↦ hlasting) hstep hrun hkeeps

/-- A server that was started from a file, in every run of overlapping admin requests, failed saves
and restarts: IPv6 has a subnet and a gateway at all times; every change was asked for by a request
with the admin token of the time; a restart changes nothing when no handler is between its change
and its answer and no save has failed since the last change; no save has failed if none fails; and
as long as every restart comes at such a moment, memory is the first configuration with all changes
made to its peers, exactly the credentials with its admin token are authorized, and what a request
has changed that was answered with success holds from then on until a later change takes it back. -/
theorem config_durable (library : Library) (hnulls : Nullless library) (host : Host)
    (path : String) (file : Bytes) (config : ServerConfig) (started : Startup)
    (hload : ServerConfig.load library path (readToString file) = .ok config)
    (hstarted : startup host config = .ok started) (actions : List ProcessAction)
    (process : Process)
    (hkeeps : KeepsAll library host path (.start host config file []) actions)
    (hrun : run (Process.step library host path) (.start host config file []) actions =
      some process) :
    process.current.HasIpv6 ∧
      (∀ entry ∈ process.log,
        Asked library host path (.start host config file []) actions entry.2) ∧
      (process.failed = false → process.AtRest →
        process.step library host path .restart =
          some (.start host process.current process.registry.file process.log)) ∧
      ((∀ action ∈ actions, Saves action) → process.failed = false) ∧
      (run (guarded Orderly (Process.step library host path)) (.start host config file [])
          actions = some process →
        process.current =
            { config with peers := PeerRegistry.replay config.peers process.log } ∧
          (∀ credentials, authorized process.current credentials = true ↔
            credentials.Carries config.web.adminToken) ∧
          ∀ earlier later state index request, actions = earlier ++ later →
            run (Process.step library host path) (.start host config file []) earlier =
                some state →
              state.registry.requests[index]? = some (request, .answered request.success) →
                ∃ before after, process.log = before ++ (index, request) :: after ∧
                  ((∀ change ∈ after, ¬ change.2.Undoes request) →
                    request.Holds process.current.peers)) := by
  have hfirst : (start host config file []).Sound library host path :=
    sound_start hnulls hload hstarted []
  have hsound := sound_of_run hnulls hfirst hrun
  refine ⟨hsound.hasIpv6, (allAsked_of_run hrun).log, fun hfailed hrest ↦ ?_,
    fun hsaves ↦ failed_of_run rfl hsaves hrun, fun horderly ↦ ?_⟩
  · exact hsound.restart hfailed hrest (hkeeps actions process (List.prefix_refl _) hrun)
  have hlasting :=
    lasting_of_run hnulls hfirst ⟨rfl, rfl, PeerRegistry.kept_start _ _⟩ hkeeps horderly
  have hcurrent : process.current =
      { config with peers := PeerRegistry.replay config.peers process.log } := by
    have hpeers : process.registry.config.peers = PeerRegistry.replay config.peers process.log :=
      hlasting.replayed
    rw [current, hlasting.config, hpeers]
  refine ⟨hcurrent, fun credentials ↦ ?_, ?_⟩
  · rw [hcurrent]
    exact authorized_iff _ _
  · rintro earlier later state index request rfl hstate hat
    rw [run_append, hstate, Option.bind_some] at hrun
    have hrecorded := (sound_of_run hnulls hfirst hstate).recorded index request _ hat
    obtain ⟨-, hmem⟩ := hrecorded (PeerRequest.isError_success request)
    have hlogged := (log_of_run hrun).subset (List.mem_append_right state.past hmem)
    obtain ⟨before, after, hsplit⟩ := List.append_of_mem hlogged
    exact ⟨before, after, hsplit, fun hkeeps ↦
      hlasting.kept (index, request) ⟨before, after, hsplit, hkeeps⟩⟩

end Durability

end Process

/-! ### A peer is added twice and deleted once -/

section Example

def tabletRecord : PeerConfig where
  name := "tablet"
  token := "p1"
  ip := ipv4 10 66 0 3

/-- The starter configuration after a peer was added. -/
def tabletConfig : ServerConfig :=
  { starterConfig with peers := starterConfig.peers ++ [tabletRecord] }

def starterText : String :=
  "[[listeners]]\ntransport = \"tcp\"\nbind = \"0.0.0.0:8443\"\ntls = true\n\n" ++
    "[network]\nsubnet = \"10.66.0.0/24\"\ngateway = \"10.66.0.1\"\nmtu = 1380\n" ++
    "dns = [\n    \"8.8.8.8\",\n    \"1.1.1.1\",\n]\ntun_name = \"et0\"\n" ++
    "subnet6 = \"fd66::/64\"\ngateway6 = \"fd66::1\"\n" ++
    "dns6 = [\n    \"2001:4860:4860::8888\",\n    \"2606:4700:4700::1111\",\n]\n\n" ++
    "[security]\nnoise_psk = \"" ++ generatePsk zeroKey ++ "\"\n\n" ++
    "[web]\nbind = \"127.0.0.1:9000\"\nadmin_token = \"a0\"\n\n" ++
    "[[peers]]\nname = \"example\"\ntoken = \"p0\"\nip = \"10.66.0.2\"\nenabled = true\n" ++
    "allow_global = true\nallow_http_proxy = true\n"

def tabletTable : String :=
  "\n[[peers]]\nname = \"tablet\"\ntoken = \"p1\"\nip = \"10.66.0.3\"\nenabled = true\n" ++
    "allow_global = true\nallow_http_proxy = true\n"

def tabletText : String :=
  starterText ++ tabletTable

/-- A library that knows the two texts. -/
def starterLibrary : Library where
  json := fun _ ↦ .error "expected value"
  toml := fun text ↦
    if text = starterText then .ok (writeConfig starterConfig)
    else if text = tabletText then .ok (writeConfig tabletConfig)
    else .error "expected a table"
  mismatch := fun _ ↦ "missing field"
  base64 := fun _ ↦ .error "invalid symbol"
  base64UrlSafe := fun _ ↦ .error "invalid symbol"
  base64UrlSafeNoPad := fun _ ↦ .error "invalid symbol"
  renderToml := fun
    | .object [_, _, _, _, ("peers", .array [_])] => .ok starterText
    | .object [_, _, _, _, ("peers", .array [_, _])] => .ok tabletText
    | _ => .error "unsupported type"
  renderJson := fun _ ↦ .error "unsupported type"

theorem tabletText_ne : tabletText ≠ starterText := by
  intro hsame
  have hlength := congrArg String.length hsame
  rw [tabletText, String.length_append, Nat.add_eq_left] at hlength
  exact absurd hlength (by decide +kernel)

theorem starterLibrary_keeps_starter :
    Keeps starterLibrary.renderToml starterLibrary.toml (writeConfig starterConfig) := by
  have hparse : starterLibrary.toml starterText = .ok (writeConfig starterConfig) := by
    simp only [starterLibrary, if_true]
  exact fun _ ↦ ⟨starterText, _, rfl, hparse, .refl _⟩

theorem starterLibrary_keeps_tablet :
    Keeps starterLibrary.renderToml starterLibrary.toml (writeConfig tabletConfig) := by
  have hparse : starterLibrary.toml tabletText = .ok (writeConfig tabletConfig) := by
    simp only [starterLibrary, tabletText_ne, if_true, if_false]
  exact fun _ ↦ ⟨tabletText, _, rfl, hparse, .refl _⟩

theorem starterLibrary_nullless : Nullless starterLibrary := by
  intro text document hparse
  simp only [starterLibrary] at hparse
  split_ifs at hparse
  · exact Except.ok.inj hparse ▸ (plain_config starterConfig).noNull
  · exact Except.ok.inj hparse ▸ (plain_config tabletConfig).noNull

def admin : Credentials where
  query := ""
  authorization := some "Bearer a0"

/-- A request that cannot be saved, two more that are saved at the same time, and one without the
admin token. -/
def overlappingRequests : List ProcessAction :=
  [.request admin (.add tabletRecord), .request admin (.del "p1"),
    .request ⟨"a0", none⟩ (.add tabletRecord), .request ⟨"p1", none⟩ (.del "p0"),
    .proceed (.change 0), .proceed (.lock 0), .proceed (.fail 0),
    .proceed (.change 1), .proceed (.change 2), .proceed (.change 3), .proceed (.lock 1),
    .proceed (.lock 2), .proceed (.openFile 1), .proceed (.write 1 100), .proceed (.openFile 2),
    .proceed (.write 2 tabletText.utf8ByteSize),
    .proceed (.write 1 (tabletText.utf8ByteSize - 100)), .proceed (.finish 1), .proceed (.finish 2)]

/-- The server with the starter configuration and its file. -/
def starterProcess : Process :=
  .start starterHost starterConfig starterText.toUTF8.data.toList []

theorem overlappingRequests_run :
    (run (guarded Process.Orderly (Process.step starterLibrary starterHost "server.toml"))
      starterProcess overlappingRequests).any (fun process ↦
        process.current = tabletConfig && process.failed = false && process.AtRest &&
          process.registry.requests[2]? = some (.add tabletRecord, .answered .created) &&
          process.log = [(0, .add tabletRecord), (1, .del "p1"),
            (2, .add tabletRecord)]) = true := by
  decide +kernel

theorem overlappingRequests_states :
    ∀ earlier ∈ overlappingRequests.inits,
      (run (Process.step starterLibrary starterHost "server.toml") starterProcess earlier).all
        (fun state ↦ state.current = starterConfig || state.current = tabletConfig) = true := by
  decide +kernel

/-- Nothing follows the last entry of a list that has it only there. -/
theorem eq_nil_of_concat_eq {α : Type*} {items before after : List α} {last : α}
    (hlast : last ∉ items) (hsplit : items ++ [last] = before ++ last :: after) : after = [] := by
  obtain ⟨middle, rfl, hmiddle⟩ | ⟨middle, rfl, hmiddle⟩ := List.append_eq_append_iff.mp hsplit
  · cases middle with
    | nil => exact (List.cons.inj hmiddle).2.symm
    | cons first rest =>
      have hlength := congrArg List.length hmiddle
      simp at hlength
  · cases middle with
    | nil => exact (List.cons.inj hmiddle).2
    | cons first rest =>
      obtain ⟨rfl, -⟩ := List.cons.inj hmiddle
      exact absurd (List.mem_append_right before List.mem_cons_self) hlast

/-- The record of the request that was answered with success is there after a restart. -/
theorem config_durable_tablet : ∃ process restarted : Process,
    run (guarded Process.Orderly (Process.step starterLibrary starterHost "server.toml"))
        starterProcess overlappingRequests = some process ∧
      process.step starterLibrary starterHost "server.toml" .restart = some restarted ∧
      restarted.current = tabletConfig ∧
      (PeerRequest.add tabletRecord).Holds restarted.current.peers := by
  have hload : ServerConfig.load starterLibrary "server.toml"
      (readToString starterText.toUTF8.data.toList) = .ok starterConfig := by
    obtain ⟨text, hrender, hload⟩ :=
      starterConfig.reload_toToml "server.toml" starterLibrary_keeps_starter
    have hipv6 : starterConfig.HasIpv6 := ⟨rfl, by decide +kernel⟩
    rw [(starterConfig.reloaded_eq_iff).mpr hipv6] at hload
    obtain rfl : starterText = text := Except.ok.inj hrender
    rw [readToString_toUTF8, hload]
  obtain ⟨process, hguarded, hcheck⟩ := (Option.any_eq_true _ _).mp overlappingRequests_run
  simp only [Bool.and_eq_true, decide_eq_true_eq] at hcheck
  obtain ⟨⟨⟨⟨hcurrent, hfailed⟩, hrest⟩, hanswered⟩, hlog⟩ := hcheck
  have hrun := run_of_guarded hguarded
  -- The library knows the two configurations that the run comes to.
  have hkeeps : Process.KeepsAll starterLibrary starterHost "server.toml" starterProcess
      overlappingRequests := by
    intro earlier state hearlier hstate
    have hknown := overlappingRequests_states earlier (List.mem_inits _ _ |>.mpr hearlier)
    rw [hstate, Option.all_some, Bool.or_eq_true, decide_eq_true_eq, decide_eq_true_eq] at hknown
    rcases hknown with hstarter | htablet
    · rw [hstarter]
      exact starterLibrary_keeps_starter
    · rw [htablet]
      exact starterLibrary_keeps_tablet
  obtain ⟨-, -, hrestart, -, -⟩ := Process.config_durable starterLibrary starterLibrary_nullless
    starterHost "server.toml" _ starterConfig starterStartup hload startup_starterHost
    overlappingRequests process hkeeps hrun
  have hrestarted := hrestart hfailed hrest
  have hrunRestarted := run_concat_eq_some.mpr ⟨process, hrun, hrestarted⟩
  have horderly : process.Orderly .restart := ⟨hfailed, hrest⟩
  have hguardedRestarted := run_concat_eq_some.mpr
    ⟨process, hguarded, guarded_eq_some.mpr ⟨horderly, hrestarted⟩⟩
  have hkeepsRestarted : Process.KeepsAll starterLibrary starterHost "server.toml" starterProcess
      (overlappingRequests ++ [.restart]) := by
    intro earlier state hearlier hstate
    rcases List.prefix_concat_iff.mp hearlier with rfl | hbefore
    · obtain rfl := Option.some.inj (hrunRestarted.symm.trans hstate)
      exact hcurrent ▸ starterLibrary_keeps_tablet
    · exact hkeeps earlier state hbefore hstate
  obtain ⟨-, -, -, -, hlasting⟩ := Process.config_durable starterLibrary starterLibrary_nullless
    starterHost "server.toml" _ starterConfig starterStartup hload startup_starterHost
    (overlappingRequests ++ [ProcessAction.restart]) _ hkeepsRestarted hrunRestarted
  obtain ⟨-, -, hholds⟩ := hlasting hguardedRestarted
  obtain ⟨before, after, hsplit, hstands⟩ := hholds overlappingRequests [.restart] process 2
    (.add tabletRecord) rfl hrun hanswered
  refine ⟨process, _, hguarded, hrestarted, hcurrent, hstands ?_⟩
  -- It was the last change.
  have hlast : after = [] := by
    have hwhole : process.log = before ++ (2, .add tabletRecord) :: after := by
      rw [← hsplit]
      exact (List.append_nil _).symm
    have hnew : (2, PeerRequest.add tabletRecord) ∉
        [(0, PeerRequest.add tabletRecord), (1, .del "p1")] := by decide
    exact eq_nil_of_concat_eq hnew (hlog.symm.trans hwhole)
  rw [hlast]
  exact List.forall_mem_nil _

end Example

end EntroTunnel.Server.File
