import EntroTunnel.Server.Connections

/-!
# The handshake as a gate

Every call of `handle_connection` with what it writes to its client and what it counts. A call whose
first frame is refused ends at once, and one whose first frame is accepted becomes a connection of
the server. `Admissible` is the condition, in the terms of the configuration: the version, an
enabled first record with the token, and `allow_global` for a client that asks for global routing.

`handshake_gate` says that a call becomes a connection exactly under that condition, that a refused
call writes at most a `Reject` and leaves router and counters alone, and that the first frame of a
connection is its `Welcome` with the IP of the record, whatever the other tasks queue for it.
-/

set_option autoImplicit false
set_option relaxedAutoImplicit false

namespace EntroTunnel.Server

open EntroTunnel.Core EntroTunnel.Foundation

/-! ### Counters -/

/-- What a frame adds to the traffic counters. -/
def countedBytes : Option Frame → ℕ
  | some (.packet bytes) => bytes.length
  | some (.streamData _ data) => data.length
  | _ => 0

/-- Cumulative traffic for one peer that has since disconnected. -/
structure PeerAgg where
  name : String
  ip : Ipv4Addr
  mode : SessionMode
  up : ℕ
  down : ℕ
  deriving DecidableEq, Repr

/-- In-memory server metrics since process start. -/
structure Metrics where
  totalUp : ℕ
  totalDown : ℕ
  agg : AList fun _ : String ↦ PeerAgg
  deriving DecidableEq

namespace Metrics

def new : Metrics := ⟨0, 0, ∅⟩

/-- `add_up` and `add_down`. -/
def add (metrics : Metrics) (up down : ℕ) : Metrics :=
  { metrics with totalUp := metrics.totalUp + up, totalDown := metrics.totalDown + down }

/-- `fold_session`. -/
def foldSession (metrics : Metrics) (peer : PeerConfig) (mode : SessionMode) (up down : ℕ) :
    Metrics :=
  let old := metrics.agg.lookup peer.token
  { metrics with
    agg := metrics.agg.insert peer.token
      { name := peer.name
        ip := peer.ip
        mode := mode
        up := (old.map PeerAgg.up).getD 0 + up
        down := (old.map PeerAgg.down).getD 0 + down } }

end Metrics

/-! ### Calls -/

/-- A call of `handle_connection`: the configuration in which it judged its first frame, the frames
that it has written to the client, and its counters. -/
structure Call where
  config : ServerConfig
  first : Option Frame
  written : List Frame
  up : ℕ
  down : ℕ
  deriving DecidableEq, Repr

/-- A call that has read its first frame and written these frames. -/
def Call.start (config : ServerConfig) (first : Option Frame) (written : List Frame) : Call :=
  { config, first, written, up := 0, down := 0 }

/-- A frame was received, or one was written. -/
def Call.exchange (call : Call) (received sent : Option Frame) : Call :=
  { call with
    written := call.written ++ sent.toList
    up := call.up + countedBytes received
    down := call.down + countedBytes sent }

/-- The first frame is a `Hello` that passes every check of the handshake. -/
def Admissible (config : ServerConfig) (first : Option Frame) : Prop :=
  ∃ hello peer, first = some (.hello hello) ∧ hello.version = protocolVersion ∧
    config.findPeer hello.token = some peer ∧ peer.enabled = true ∧
      ¬ (hello.mode = .globalProxy ∧ peer.allowGlobal = false)

/-- The handshake lets through exactly the first frames that pass its checks. -/
theorem admissible_iff (config : ServerConfig) (first : Option Frame) :
    Admissible config first ↔ ∃ peer hello, admission config first = .accepted peer hello := by
  constructor
  · rintro ⟨hello, peer, rfl, hversion, hfound, henabled, hglobal⟩
    refine ⟨peer, hello, ?_⟩
    simp only [admission, hversion, hfound, henabled, if_neg hglobal, ne_eq, not_true_eq_false,
      if_false, if_true]
  · rintro ⟨peer, hello, haccepted⟩
    obtain ⟨hfirst, hchecks⟩ := admission_accepted haccepted
    exact ⟨hello, peer, hfirst, hchecks⟩

/-! ### The server with its calls -/

/-- The server, its metrics, and the calls: those that became the connections, in the order of the
connections, and those that were refused. -/
structure Gate where
  app : AppState
  metrics : Metrics
  sessions : List Call
  refused : List Call

/-- A call begins, or a task of the server goes on. -/
inductive GateAction
  | connect (first : Option Frame) (rejectSent : Bool)
  | server (action : ServerAction)

namespace Gate

def start (config : ServerConfig) (ipv6 hasTun : Bool) : Gate :=
  { app := .start config ipv6 hasTun, metrics := .new, sessions := [], refused := [] }

/-- The call of a connection has sent its `Welcome`. A call that could not send it starts neither a
writer task nor a reader loop. -/
def established (gate : Gate) (index : ℕ) : Bool :=
  gate.sessions[index]?.any fun call ↦ call.written ≠ []

/-- The frame that a session step takes off the link. -/
def receivedFrame : SessionAction → Option Frame
  | .receive frame _ => some frame
  | _ => none

/-- The frame that a session step writes to the link. -/
def sentFrame (session : Session) : SessionAction → Option Frame
  | .send =>
    match session.outbox.recv with
    | .item frame _ => some frame
    | _ => none
  | _ => none

/-- The metrics after a step of a session; its end folds its counters into the totals of the peer.
-/
def counted (gate : Gate) (index : ℕ) (session : Session) (action : SessionAction) : Metrics :=
  let metrics := gate.metrics.add (countedBytes (receivedFrame action))
    (countedBytes (sentFrame session action))
  match action, gate.sessions[index]? with
  | .shutdown, some call =>
    if call.written ≠ [] then
      metrics.foldSession session.peer session.hello.mode call.up call.down
    else metrics
  | _, _ => metrics

/-- One step. -/
def step (gate : Gate) : GateAction → Option Gate
  | .connect first rejectSent =>
    (gate.app.step (.connect first)).map fun app ↦
      match admission gate.app.config first with
      | .closed => { gate with
          app, refused := gate.refused ++ [.start gate.app.config first []] }
      | .rejected reason => { gate with
          app
          refused := gate.refused ++
            [.start gate.app.config first (if rejectSent then [.reject reason] else [])] }
      | .accepted _ _ => { gate with
          app, sessions := gate.sessions ++ [.start gate.app.config first []] }
  | .server (.connect _) => none
  | .server (.sendWelcome index sent) =>
    (gate.app.step (.sendWelcome index sent)).map fun app ↦
      let welcome := (gate.app.connections[index]?.bind Connection.welcome).map Frame.welcome
      if sent then
        { gate with app, sessions := gate.sessions.modify index (·.exchange none welcome) }
      else { gate with app }
  | .server (.session index action) =>
    match gate.app.connections[index]? with
    | some connection =>
      if gate.established index ∨ action = .shutdown then
        (gate.app.step (.session index action)).map fun app ↦
          { gate with
            app
            metrics := gate.counted index connection.session action
            sessions := gate.sessions.modify index
              (·.exchange (receivedFrame action) (sentFrame connection.session action)) }
      else none
    | none => none
  | .server action => (gate.app.step action).map fun app ↦ { gate with app }

/-- The frames of a refused call. -/
def AtMostReject (written : List Frame) : Prop :=
  written = [] ∨ ∃ reason, written = [.reject reason]

/-- The frames of a connection: the `Welcome` with the IP comes first. -/
def Opens (written : List Frame) (ip : Ipv4Addr) : Prop :=
  written = [] ∨ ∃ welcome rest, written = .welcome welcome :: rest ∧ welcome.assignedIp = ip

/-- What a step can do. -/
inductive Stepped (gate : Gate) : GateAction → Gate → Prop
  | refused (first : Option Frame) (rejectSent : Bool) (written : List Frame)
    (hrefused : ¬ Admissible gate.app.config first) (hwritten : AtMostReject written) :
    Stepped gate (.connect first rejectSent)
      { gate with refused := gate.refused ++ [.start gate.app.config first written] }
  | accepted (first : Option Frame) (rejectSent : Bool) (peer : PeerConfig) (hello : Hello)
    (haccepted : admission gate.app.config first = .accepted peer hello) :
    Stepped gate (.connect first rejectSent)
      { gate with
        app := { gate.app with connections := gate.app.connections ++
          [⟨.admitted, none, .start peer hello gate.app.hasTun⟩] }
        sessions := gate.sessions ++ [.start gate.app.config first []] }
  | welcomed (index : ℕ) (connection : Connection) (app : AppState)
    (hconnection : gate.app.connections[index]? = some connection)
    (happ : gate.app.Stepped (.sendWelcome index true) app) :
    Stepped gate (.server (.sendWelcome index true))
      { gate with
        app
        sessions := gate.sessions.modify index
          (·.exchange none (connection.welcome.map Frame.welcome)) }
  | session (index : ℕ) (action : SessionAction) (app : AppState) (metrics : Metrics)
    (received sent : Option Frame) (happ : gate.app.Stepped (.session index action) app)
    (hsent : gate.established index = true ∨ sent = none) :
    Stepped gate (.server (.session index action))
      { gate with
        app, metrics, sessions := gate.sessions.modify index (·.exchange received sent) }
  | task (action : ServerAction) (app : AppState) (happ : gate.app.Stepped action app)
    (hcall : ∀ first, action ≠ .connect first) :
    Stepped gate (.server action) { gate with app }

variable {gate next : Gate}

theorem stepped_of_step {action : GateAction} (hstep : gate.step action = some next) :
    gate.Stepped action next := by
  cases action with
  | connect first rejectSent =>
    obtain ⟨app, happ, rfl⟩ := Option.map_eq_some_iff.mp hstep
    have hrefused : (∀ peer hello, admission gate.app.config first ≠ .accepted peer hello) →
        ¬ Admissible gate.app.config first := by
      intro hnone hadmissible
      obtain ⟨peer, hello, haccepted⟩ := (admissible_iff _ _).mp hadmissible
      exact hnone peer hello haccepted
    cases hadmission : admission gate.app.config first with
    | closed =>
      simp only [AppState.step, hadmission, Option.some.injEq] at happ
      subst happ
      exact .refused first rejectSent [] (hrefused (by simp [hadmission])) (.inl rfl)
    | rejected reason =>
      simp only [AppState.step, hadmission, Option.some.injEq] at happ
      subst happ
      refine .refused first rejectSent _ (hrefused (by simp [hadmission])) ?_
      cases rejectSent with
      | true => exact .inr ⟨reason, rfl⟩
      | false => exact .inl rfl
    | accepted peer hello =>
      simp only [AppState.step, hadmission, Option.some.injEq] at happ
      subst happ
      exact .accepted first rejectSent peer hello hadmission
  | server action =>
    cases action with
    | connect first => cases hstep
    | sendWelcome index sent =>
      obtain ⟨app, happ, rfl⟩ := Option.map_eq_some_iff.mp hstep
      have hstepped := AppState.stepped_of_step happ
      cases sent with
      | true =>
        obtain ⟨connection, hphase, -⟩ := Option.map_eq_some_iff.mp happ
        have hconnection := (AppState.inPhase_eq_some hphase).1
        simp only [hconnection, Option.bind_some, if_true]
        exact .welcomed index connection app hconnection hstepped
      | false => exact .task _ app hstepped (by simp)
    | session index action =>
      simp only [step] at hstep
      split at hstep
      · rename_i connection hconnection
        split_ifs at hstep with hallowed
        obtain ⟨app, happ, rfl⟩ := Option.map_eq_some_iff.mp hstep
        refine .session index action app _ _ _ (AppState.stepped_of_step happ) ?_
        rcases hallowed with hestablished | rfl
        · exact .inl hestablished
        · exact .inr rfl
      · cases hstep
    | reconfigure | assign | insert6 | insert4 | remove4 | remove6 | tunPacket =>
      simp only [step, Option.map_eq_some_iff] at hstep
      obtain ⟨app, happ, rfl⟩ := hstep
      exact .task _ app (AppState.stepped_of_step happ) (by simp)

/-! ### What every run keeps -/

/-- The task steps of the server open and close no connection. -/
theorem length_connections {state after : AppState} {action : ServerAction}
    (hstep : state.Stepped action after) (hcall : ∀ first, action ≠ .connect first) :
    after.connections.length = state.connections.length := by
  cases hstep with
  | accepted first => exact absurd rfl (hcall first)
  | refused first => exact absurd rfl (hcall first)
  | reconfigure | unrouted => rfl
  | _ => exact List.length_set

/-- Registrations come from connections. -/
theorem registrations_lt {state after : AppState} {action : ServerAction}
    (hstep : state.Stepped action after)
    (hbefore : ∀ entry ∈ state.registrations, entry.2 < state.connections.length) :
    ∀ entry ∈ after.registrations, entry.2 < after.connections.length := by
  cases hstep with
  | insert6 index connection hconnection =>
    intro entry hmem
    change entry.2 < (state.connections.set _ _).length
    rw [List.length_set]
    rcases List.mem_cons.mp hmem with rfl | hold
    · exact (List.getElem?_eq_some_iff.mp hconnection).1
    · exact hbefore entry hold
  | accepted first peer hello =>
    intro entry hmem
    change entry.2 < (state.connections ++ [_]).length
    rw [List.length_append]
    exact Nat.lt_add_right _ (hbefore entry hmem)
  | reconfigure | refused | unrouted => exact hbefore
  | _ =>
    intro entry hmem
    change entry.2 < (state.connections.set _ _).length
    rw [List.length_set]
    exact hbefore entry hmem

/-- The `Welcome` that a connection has prepared carries its IP. -/
def WelcomesIp (connection : Connection) : Prop :=
  ∀ welcome, connection.welcome = some welcome → welcome.assignedIp = connection.ip

theorem welcomesIp_step {state after : AppState} {action : ServerAction}
    (hstep : state.Stepped action after)
    (hall : ∀ (index : ℕ) (connection : Connection), state.connections[index]? = some connection →
      WelcomesIp connection)
    (index : ℕ) (connection : Connection) (hafter : after.connections[index]? = some connection) :
    WelcomesIp connection := by
  refine hstep.forall hall (fun peer hello welcome hsome ↦ by cases hsome) ?_ ?_ index connection
    hafter
  · rintro old sessionId - welcome hsome
    obtain rfl := Option.some.inj hsome
    rfl
  · intro old phase session hold hpeer _ welcome hsome
    rw [hold welcome hsome, Connection.ip, Connection.ip, hpeer]

/-- The call and the connection that it became. -/
def Joined (call : Call) (connection : Connection) : Prop :=
  admission call.config call.first =
      .accepted connection.session.peer connection.session.hello ∧
    Opens call.written connection.ip

/-- What holds in every state of a run. -/
structure Sound (gate : Gate) : Prop where
  refused : ∀ call ∈ gate.refused, ¬ Admissible call.config call.first ∧
    AtMostReject call.written ∧ call.up = 0 ∧ call.down = 0
  length : gate.sessions.length = gate.app.connections.length
  joined : ∀ (index : ℕ) (call : Call) (connection : Connection),
    gate.sessions[index]? = some call → gate.app.connections[index]? = some connection →
      Joined call connection
  welcomes : ∀ (index : ℕ) (connection : Connection),
    gate.app.connections[index]? = some connection → WelcomesIp connection
  registrations : ∀ entry ∈ gate.app.registrations, entry.2 < gate.app.connections.length

theorem sound_start (config : ServerConfig) (ipv6 hasTun : Bool) :
    (start config ipv6 hasTun).Sound where
  refused := fun _ hmem ↦ absurd hmem List.not_mem_nil
  length := rfl
  joined := fun _ _ _ hcall ↦ absurd hcall (by simp [start])
  welcomes := fun _ _ hconnection ↦ absurd hconnection (by simp [start, AppState.start])
  registrations := fun _ hmem ↦ absurd hmem List.not_mem_nil

/-- Task steps leave the peer and the greeting of a connection. -/
theorem Joined.kept {state after : AppState} {action : ServerAction}
    (hstep : state.Stepped action after) (hcall : ∀ first, action ≠ .connect first) {index : ℕ}
    {call : Call} {connection : Connection}
    (hafter : after.connections[index]? = some connection)
    (hjoined : ∀ old, state.connections[index]? = some old → Joined call old) :
    Joined call connection := by
  obtain ⟨old, hold, hpeer, hhello⟩ | ⟨first, _, _, hconnect, -⟩ := hstep.origin hafter
  · obtain ⟨haccepted, hopens⟩ := hjoined old hold
    refine ⟨by rw [hpeer, hhello, haccepted], ?_⟩
    rwa [Connection.ip, hpeer]
  · exact absurd hconnect (hcall first)

/-- A task step that writes nothing to a client before its `Welcome`. -/
theorem Sound.task (hsound : gate.Sound) {action : ServerAction} {app : AppState}
    (happ : gate.app.Stepped action app) (hcall : ∀ first, action ≠ .connect first)
    {sessions : List Call} (hlength : sessions.length = gate.sessions.length)
    (hsessions : ∀ (index : ℕ) (call : Call), sessions[index]? = some call →
      ∃ old, gate.sessions[index]? = some old ∧
        ∀ connection, gate.app.connections[index]? = some connection →
          Joined old connection → Joined call connection)
    (metrics : Metrics) : ({ gate with app, metrics, sessions } : Gate).Sound where
  refused := hsound.refused
  length := by
    change sessions.length = app.connections.length
    rw [hlength, hsound.length, length_connections happ hcall]
  joined := by
    intro index call connection hplace hafter
    obtain ⟨old, hold, hkept⟩ := hsessions index call hplace
    exact Joined.kept happ hcall hafter fun before hbefore ↦
      hkept before hbefore (hsound.joined index old before hold hbefore)
  welcomes := welcomesIp_step happ hsound.welcomes
  registrations := registrations_lt happ hsound.registrations

/-- One call has exchanged frames. -/
theorem exchanged {sessions : List Call} {place index : ℕ} {received sent : Option Frame}
    {call : Call}
    (hplace : (sessions.modify place (·.exchange received sent))[index]? = some call) :
    sessions[index]? = some call ∨
      ∃ old, place = index ∧ sessions[index]? = some old ∧ call = old.exchange received sent := by
  rw [List.getElem?_modify] at hplace
  obtain ⟨old, hold, hcall⟩ := Option.map_eq_some_iff.mp hplace
  by_cases hsame : place = index
  · rw [if_pos hsame] at hcall
    exact .inr ⟨old, hsame, hold, hcall.symm⟩
  · rw [if_neg hsame] at hcall
    exact .inl (hold.trans (congrArg some hcall))

/-- Frames after the first one do not matter. -/
theorem Opens.append {written : List Frame} {ip : Ipv4Addr} (hopens : Opens written ip)
    {sent : List Frame} (hfirst : written = [] → Opens sent ip) : Opens (written ++ sent) ip := by
  rcases hopens with rfl | ⟨welcome, rest, rfl, hip⟩
  · exact hfirst rfl
  · exact .inr ⟨welcome, rest ++ sent, rfl, hip⟩

/-- A task step in which one call exchanges frames; its first frame is a `Welcome` with the IP. -/
theorem Sound.exchange (hsound : gate.Sound) {action : ServerAction} {app : AppState}
    (happ : gate.app.Stepped action app) (hcall : ∀ first, action ≠ .connect first) {index : ℕ}
    {received sent : Option Frame}
    (hfirst : ∀ call connection, gate.sessions[index]? = some call →
      gate.app.connections[index]? = some connection → call.written = [] →
        Opens sent.toList connection.ip)
    (metrics : Metrics) :
    ({ gate with
        app, metrics, sessions := gate.sessions.modify index (·.exchange received sent) } :
      Gate).Sound := by
  refine hsound.task happ hcall (List.length_modify _ _ _) (fun other call hplace ↦ ?_) metrics
  obtain hold | ⟨old, rfl, hold, rfl⟩ := exchanged hplace
  · exact ⟨call, hold, fun _ _ hjoined ↦ hjoined⟩
  · refine ⟨old, hold, fun connection hconnection hjoined ↦ ⟨hjoined.1, ?_⟩⟩
    exact hjoined.2.append (hfirst old connection hold hconnection)

/-- A call becomes a connection. -/
theorem Sound.accepted (hsound : gate.Sound) {first : Option Frame} {peer : PeerConfig}
    {hello : Hello} (haccepted : admission gate.app.config first = .accepted peer hello) :
    ({ gate with
        app := { gate.app with connections := gate.app.connections ++
          [⟨.admitted, none, .start peer hello gate.app.hasTun⟩] }
        sessions := gate.sessions ++ [.start gate.app.config first []] } : Gate).Sound := by
  have happ : gate.app.Stepped (.connect first) _ := .accepted first peer hello haccepted
  refine ⟨hsound.refused, ?_, ?_, welcomesIp_step happ hsound.welcomes,
    registrations_lt happ hsound.registrations⟩
  · change (gate.sessions ++ [_]).length = (gate.app.connections ++ [_]).length
    rw [List.length_append, List.length_append, hsound.length]
    rfl
  · intro index call connection hcall hconnection
    change (gate.sessions ++ [_])[index]? = _ at hcall
    change (gate.app.connections ++ [_])[index]? = _ at hconnection
    by_cases hold : index < gate.app.connections.length
    · rw [List.getElem?_append_left (hsound.length ▸ hold)] at hcall
      rw [List.getElem?_append_left hold] at hconnection
      exact hsound.joined index call connection hcall hconnection
    · rw [List.getElem?_append_right (by rw [hsound.length]; exact not_lt.mp hold)] at hcall
      rw [List.getElem?_append_right (not_lt.mp hold)] at hconnection
      obtain rfl := List.mem_singleton.mp (List.mem_of_getElem? hcall)
      obtain rfl := List.mem_singleton.mp (List.mem_of_getElem? hconnection)
      exact ⟨haccepted, .inl rfl⟩

theorem Sound.step {action : GateAction} (hsound : gate.Sound)
    (hstep : gate.Stepped action next) : next.Sound := by
  cases hstep with
  | refused first rejectSent written hrefused hwritten =>
    refine { hsound with refused := fun call hmem ↦ ?_ }
    rcases List.mem_append.mp hmem with hold | hnew
    · exact hsound.refused call hold
    · rw [List.mem_singleton.mp hnew]
      exact ⟨hrefused, hwritten, rfl, rfl⟩
  | accepted first rejectSent peer hello haccepted => exact hsound.accepted haccepted
  | welcomed index connection app hconnection happ =>
    refine hsound.exchange happ (by simp) (fun call before _ hbefore _ ↦ ?_) gate.metrics
    obtain rfl := Option.some.inj (hbefore.symm.trans hconnection)
    cases hwelcome : before.welcome with
    | none => exact .inl rfl
    | some welcome =>
      exact .inr ⟨welcome, [], rfl, hsound.welcomes index before hconnection welcome hwelcome⟩
  | session index action app metrics received sent happ hsent =>
    refine hsound.exchange happ (by simp) (fun call before hcall _ hnone ↦ ?_) metrics
    rcases hsent with hestablished | rfl
    · rw [established, hcall] at hestablished
      exact absurd hnone (by simpa using hestablished)
    · exact .inl rfl
  | task action app happ hcall =>
    exact hsound.task happ hcall rfl (fun index call hplace ↦ ⟨call, hplace, fun _ _ h ↦ h⟩)
      gate.metrics

/-! ### Registration -/

/-- The steps that are left of a call between its handshake and its `Welcome`. -/
def registration (index : ℕ) (sessionId : Uuid) : Phase → List GateAction
  | .admitted =>
    [.server (.assign index sessionId), .server (.insert6 index), .server (.insert4 index)]
  | .assigned => [.server (.insert6 index), .server (.insert4 index)]
  | .indexed => [.server (.insert4 index)]
  | _ => []

section Registration

variable {index : ℕ} {connection : Connection}

theorem inPhase_of_place {phase : Phase} (hplace : gate.app.connections[index]? = some connection)
    (hphase : connection.phase = phase) : gate.app.inPhase index phase = some connection := by
  rw [AppState.inPhase, hplace, Option.filter_some, if_pos (decide_eq_true hphase)]

theorem place_put {changed : Connection} (hplace : gate.app.connections[index]? = some connection) :
    (gate.app.put index changed).connections[index]? = some changed := by
  rw [AppState.put_connections hplace, if_pos rfl]

theorem registers_indexed (hplace : gate.app.connections[index]? = some connection)
    (hphase : connection.phase = .indexed) :
    ∃ next, run step gate [.server (.insert4 index)] = some next ∧
      next.app.router.owner connection.ip = some index := by
  have hstep : ∃ next, gate.step (.server (.insert4 index)) = some next ∧
      next.app.router = gate.app.router.insert4 connection.ip (connection.entry index) := by
    simp only [step, AppState.step, inPhase_of_place hplace hphase]
    exact ⟨_, rfl, rfl⟩
  obtain ⟨next, hnext, hrouter⟩ := hstep
  refine ⟨next, by rw [run_cons, hnext]; rfl, ?_⟩
  rw [hrouter, Router.owner_insert4, if_pos rfl]
  rfl

theorem registers_assigned (hplace : gate.app.connections[index]? = some connection)
    (hphase : connection.phase = .assigned) :
    ∃ next, run step gate [.server (.insert6 index), .server (.insert4 index)] = some next ∧
      next.app.router.owner connection.ip = some index := by
  have hstep : ∃ next, gate.step (.server (.insert6 index)) = some next ∧
      next.app.connections[index]? = some { connection with phase := .indexed } := by
    simp only [step, AppState.step, inPhase_of_place hplace hphase]
    exact ⟨_, rfl, place_put hplace⟩
  obtain ⟨next, hnext, hindexed⟩ := hstep
  have hregisters := registers_indexed hindexed rfl
  rw [run_cons, hnext]
  exact hregisters

theorem registers_admitted (sessionId : Uuid)
    (hplace : gate.app.connections[index]? = some connection)
    (hphase : connection.phase = .admitted) :
    ∃ next, run step gate
        [.server (.assign index sessionId), .server (.insert6 index), .server (.insert4 index)] =
          some next ∧ next.app.router.owner connection.ip = some index := by
  have hstep : ∃ next welcome, gate.step (.server (.assign index sessionId)) = some next ∧
      next.app.connections[index]? = some { connection with phase := .assigned, welcome } := by
    simp only [step, AppState.step, inPhase_of_place hplace hphase]
    exact ⟨_, _, rfl, place_put hplace⟩
  obtain ⟨next, welcome, hnext, hassigned⟩ := hstep
  have hregisters := registers_assigned hassigned rfl
  rw [run_cons, hnext]
  exact hregisters

/-- A call that has passed the handshake can go on to registration, whatever the other tasks do. -/
theorem registers (sessionId : Uuid) (hplace : gate.app.connections[index]? = some connection)
    (hphase : registration index sessionId connection.phase ≠ []) :
    ∃ next, run step gate (registration index sessionId connection.phase) = some next ∧
      next.app.router.owner connection.ip = some index := by
  cases hat : connection.phase with
  | admitted => exact registers_admitted sessionId hplace hat
  | assigned => exact registers_assigned hplace hat
  | indexed => exact registers_indexed hplace hat
  | _ => exact absurd (by rw [hat]; rfl) hphase

end Registration

/-- What becomes of a call is decided by its first frame and the configuration. -/
theorem connect_cases (gate : Gate) (first : Option Frame) (rejectSent : Bool) :
    ∃ next, gate.step (.connect first rejectSent) = some next ∧
      (Admissible gate.app.config first →
        next.sessions = gate.sessions ++ [.start gate.app.config first []] ∧
          next.refused = gate.refused) ∧
      (¬ Admissible gate.app.config first →
        next.app = gate.app ∧ next.metrics = gate.metrics ∧ next.sessions = gate.sessions) := by
  have happ : ∃ app, gate.app.step (.connect first) = some app := by
    rw [AppState.step]
    split
    · exact ⟨_, rfl⟩
    · exact ⟨_, rfl⟩
  obtain ⟨next, hstep⟩ : ∃ next, gate.step (.connect first rejectSent) = some next := by
    obtain ⟨app, happ⟩ := happ
    rw [step, happ]
    exact ⟨_, rfl⟩
  refine ⟨next, hstep, ?_⟩
  cases stepped_of_step hstep with
  | refused _ _ written hrefused =>
    exact ⟨fun hadmissible ↦ absurd hadmissible hrefused, fun _ ↦ ⟨rfl, rfl, rfl⟩⟩
  | accepted _ _ peer hello haccepted =>
    have hadmissible := (admissible_iff gate.app.config first).mpr ⟨peer, hello, haccepted⟩
    exact ⟨fun _ ↦ ⟨rfl, rfl⟩, fun hrefused ↦ absurd hadmissible hrefused⟩

/-! ### Every run -/

/-- A call becomes a connection, and registers, exactly when its first frame passes the checks. A
refused call registers nothing, counts nothing and writes at most a `Reject`. The first frame that a
connection writes is its `Welcome` with the IP of the peer record. -/
theorem handshake_gate (config : ServerConfig) (ipv6 hasTun : Bool) (actions : List GateAction)
    (gate : Gate) (hrun : run step (start config ipv6 hasTun) actions = some gate) :
    (∀ call ∈ gate.sessions, Admissible call.config call.first) ∧
      (∀ call ∈ gate.refused, ¬ Admissible call.config call.first ∧ AtMostReject call.written ∧
        call.up = 0 ∧ call.down = 0) ∧
      (∀ first rejectSent, ∃ next, gate.step (.connect first rejectSent) = some next ∧
        (Admissible gate.app.config first →
          next.sessions = gate.sessions ++ [.start gate.app.config first []] ∧
            next.refused = gate.refused) ∧
        (¬ Admissible gate.app.config first →
          next.app = gate.app ∧ next.metrics = gate.metrics ∧ next.sessions = gate.sessions)) ∧
      (∀ entry ∈ gate.app.registrations, entry.2 < gate.sessions.length) ∧
      ∀ (index : ℕ) (call : Call), gate.sessions[index]? = some call →
        ∃ connection hello, gate.app.connections[index]? = some connection ∧
          call.first = some (.hello hello) ∧
          call.config.findPeer hello.token = some connection.session.peer ∧
          Opens call.written connection.session.peer.ip ∧
          ∀ sessionId, registration index sessionId connection.phase ≠ [] →
            ∃ next, run step gate (registration index sessionId connection.phase) = some next ∧
              next.app.router.owner connection.session.peer.ip = some index := by
  have hsound : gate.Sound :=
    run_preserves (fun _ _ _ hbefore hstep ↦ hbefore.step (stepped_of_step hstep)) hrun
      (sound_start config ipv6 hasTun)
  have hjoined : ∀ (index : ℕ) (call : Call), gate.sessions[index]? = some call →
      ∃ connection, gate.app.connections[index]? = some connection ∧ Joined call connection := by
    intro index call hcall
    have hindex : index < gate.app.connections.length := by
      rw [← hsound.length]
      exact (List.getElem?_eq_some_iff.mp hcall).1
    have hconnection := List.getElem?_eq_getElem hindex
    exact ⟨_, hconnection, hsound.joined index call _ hcall hconnection⟩
  refine ⟨fun call hmem ↦ ?_, hsound.refused, gate.connect_cases, fun entry hmem ↦ ?_,
    fun index call hcall ↦ ?_⟩
  · obtain ⟨index, hcall⟩ := List.mem_iff_getElem?.mp hmem
    obtain ⟨connection, -, haccepted, -⟩ := hjoined index call hcall
    exact (admissible_iff _ _).mpr ⟨_, _, haccepted⟩
  · rw [hsound.length]
    exact hsound.registrations entry hmem
  · obtain ⟨connection, hconnection, haccepted, hopens⟩ := hjoined index call hcall
    obtain ⟨hfirst, -, hfound, -, -⟩ := admission_accepted haccepted
    exact ⟨connection, _, hconnection, hfirst, hfound, hopens,
      fun sessionId hphase ↦ registers sessionId hconnection hphase⟩

section Example

/-- A packet for the peer. -/
def lanPacket : Bytes :=
  [0x45, 0, 0, 20, 0, 0, 0, 0, 64, 6, 0, 0, 198, 51, 100, 1, 10, 66, 0, 2]

/-- A client is admitted between two that are not. The TUN reader queues a packet for it before its
`Welcome` goes out. -/
def greetedRun : List GateAction :=
  [.connect (some .ping) true, .connect (some (.hello (lanHello .vpn))) true,
    .connect (some (.hello (lanHello .globalProxy))) true, .server (.assign 0 7),
    .server (.insert6 0), .server (.insert4 0), .server (.tunPacket lanPacket),
    .server (.sendWelcome 0 true), .server (.session 0 .send)]

/-- Two first messages are refused, and the client between them gets its `Welcome` before the
packet. -/
theorem handshake_gate_greetedRun :
    ∃ gate call, run step (start lanServer false true) greetedRun = some gate ∧
      gate.sessions[0]? = some call ∧ gate.refused.length = 2 ∧ call.written.length = 2 ∧
      Admissible call.config call.first ∧ Opens call.written (ipv4 10 66 0 2) := by
  obtain ⟨gate, hrun, hcheck⟩ := Option.any_eq_true _ _ |>.mp
    (by decide +kernel : (run step (start lanServer false true) greetedRun).any (fun gate ↦
      gate.refused.length = 2 && gate.sessions[0]?.any fun call ↦
        call.written.length = 2 && call.config = lanServer &&
          call.first = some (.hello (lanHello .vpn))) = true)
  simp only [Bool.and_eq_true, decide_eq_true_eq] at hcheck
  obtain ⟨call, hcall, hwritten⟩ := (Option.any_eq_true _ _).mp hcheck.2
  simp only [Bool.and_eq_true, decide_eq_true_eq] at hwritten
  obtain ⟨hadmissible, -, -, -, hopened⟩ := handshake_gate lanServer false true greetedRun gate hrun
  obtain ⟨connection, hello, -, hfirst, hfound, hopens, -⟩ := hopened 0 call hcall
  rw [hwritten.2, Option.some.injEq, Frame.hello.injEq] at hfirst
  rw [hwritten.1.2, ← hfirst] at hfound
  have hpeer : connection.session.peer = lanPeer :=
    Option.some.inj (hfound.symm.trans (by decide +kernel))
  rw [hpeer] at hopens
  exact ⟨gate, call, hrun, hcall, hcheck.1, hwritten.1.1,
    hadmissible call (List.mem_of_getElem? hcall), hopens⟩

end Example

end Gate

end EntroTunnel.Server
