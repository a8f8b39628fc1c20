import EntroTunnel.Foundation.Places
import EntroTunnel.Server.Session

/-!
# The server

All connections of a server with the router and the TUN reader they share. A connection task is
admitted, reads the network parameters, registers in two writes, sends its `Welcome`, serves the
session, and unregisters in two writes once the reader loop has ended or the `Welcome` could not be
sent. Tasks run in any order, and the configuration may be replaced at any time (by the web admin).
A connection stands for its queue by its position in `connections`.

`registrations` records which connection began to register which IP, the latest first.
-/

set_option autoImplicit false
set_option relaxedAutoImplicit false

namespace EntroTunnel.Server

open EntroTunnel.Core EntroTunnel.Foundation

/-- How far a connection task has come. -/
inductive Phase
  | admitted
  | assigned
  | indexed
  | registered
  | established
  | leaving
  | removed
  | unregistered
  | closed
  deriving DecidableEq, Repr

namespace Phase

/-- `register` has begun. -/
def started : Phase → Bool
  | .admitted | .assigned => false
  | _ => true

/-- `register` has returned and `unregister` has not begun. -/
def live : Phase → Bool
  | .registered | .established => true
  | _ => false

/-- `register` has written the IPv6 index and `unregister` has not begun. -/
def inIndex : Phase → Bool
  | .indexed | .registered | .established => true
  | _ => false

/-- The session's tasks are running. -/
def serves : Phase → Bool
  | .established | .leaving | .removed | .unregistered | .closed => true
  | _ => false

/-- The phase after a step of the session's tasks. -/
def next : Phase → SessionAction → Option Phase
  | .established, .disconnect => some .leaving
  | .unregistered, .shutdown => some .closed
  | _, .disconnect | _, .shutdown => none
  | phase, _ => if phase.serves then some phase else none

/-- What the session's tasks do to the phase. -/
theorem next_cases {phase after : Phase} {action : SessionAction}
    (hnext : phase.next action = some after) :
    after = phase ∨ (phase = .established ∧ action = .disconnect ∧ after = .leaving) ∨
      (phase = .unregistered ∧ action = .shutdown ∧ after = .closed) := by
  unfold next at hnext
  split at hnext
  · exact .inr (.inl ⟨rfl, rfl, (Option.some.inj hnext).symm⟩)
  · exact .inr (.inr ⟨rfl, rfl, (Option.some.inj hnext).symm⟩)
  · exact absurd hnext nofun
  · exact absurd hnext nofun
  · split_ifs at hnext
    exact .inl (Option.some.inj hnext).symm

/-- A step of the session's tasks never goes back to registration. -/
theorem next_eq_some {phase after : Phase} {action : SessionAction}
    (hnext : phase.next action = some after) :
    (phase.started = true → after.started = true) ∧ (after.live = true → phase.live = true) ∧
      (after.inIndex = true → phase.inIndex = true) := by
  obtain rfl | ⟨rfl, -, rfl⟩ | ⟨rfl, -, rfl⟩ := next_cases hnext
  · exact ⟨id, id, id⟩
  · decide
  · decide

end Phase

/-- A connection that was accepted. `welcome` is there as soon as the parameters were read. -/
structure Connection where
  phase : Phase
  welcome : Option Welcome
  session : Session
  deriving DecidableEq

namespace Connection

/-- The assigned IP. -/
def ip (connection : Connection) : Ipv4Addr :=
  connection.session.peer.ip

/-- The assigned IPv6 address. -/
def ip6 (connection : Connection) : Option Ipv6Addr :=
  connection.welcome.bind Welcome.assignedIp6

/-- What the router keeps of the connection. -/
def entry (connection : Connection) (index : ℕ) : Entry where
  tx := index
  info :=
    { name := connection.session.peer.name
      mode := connection.session.hello.mode
      vpnMember := vpnMember connection.session.hello
      ip6 := connection.ip6 }
  token := connection.session.peer.token

end Connection

/-- The state. `ipv6` says whether it has IPv6 egress. -/
structure AppState where
  config : ServerConfig
  ipv6 : Bool
  hasTun : Bool
  router : Router
  connections : List Connection
  registrations : List (Ipv4Addr × ℕ)

/-- A step of the state. -/
inductive ServerAction
  | reconfigure (config : ServerConfig)
  | connect (first : Option Frame)
  | assign (index : ℕ) (sessionId : Uuid)
  | insert6 (index : ℕ)
  | insert4 (index : ℕ)
  | sendWelcome (index : ℕ) (sent : Bool)
  | session (index : ℕ) (action : SessionAction)
  | remove4 (index : ℕ)
  | remove6 (index : ℕ)
  | tunPacket (packet : Bytes)

namespace AppState

/-- A server without connections. -/
def start (config : ServerConfig) (ipv6 hasTun : Bool) : AppState :=
  ⟨config, ipv6, hasTun, .new, [], []⟩

/-- The connection at an index, if it is in the phase. -/
def inPhase (state : AppState) (index : ℕ) (phase : Phase) : Option Connection :=
  state.connections[index]?.filter fun connection ↦ connection.phase = phase

/-- Put a connection in its place. -/
def put (state : AppState) (index : ℕ) (connection : Connection) : AppState :=
  { state with connections := state.connections.set index connection }

/-- The connection that began to register the IP last. -/
def latestFor (state : AppState) (ip : Ipv4Addr) : Option ℕ :=
  state.registrations.lookup ip

/-- Hand a frame to the queue of a connection; `false` when it is full or has no receiver. -/
def handTo (state : AppState) (index : ℕ) (frame : Frame) : AppState × Bool :=
  match state.connections[index]? with
  | some connection =>
    match connection.session.outbox.trySend frame with
    | some outbox =>
      (state.put index { connection with session := { connection.session with outbox } }, true)
    | none => (state, false)
  | none => (state, false)

/-- `Router::deliver`. -/
def deliver (state : AppState) (ip : Ipv4Addr) (frame : Frame) : AppState × Bool :=
  match state.router.owner ip with
  | some index => state.handTo index frame
  | none => (state, false)

/-- `Router::deliver6`. -/
def deliver6 (state : AppState) (ip6 : Ipv6Addr) (frame : Frame) : AppState × Bool :=
  match state.router.owner6 ip6 with
  | some index => state.handTo index frame
  | none => (state, false)

/-- One packet of `run_tun_router`. -/
def routePacket (state : AppState) (packet : Bytes) : AppState :=
  match destination packet with
  | some (.v4 ip) => (state.deliver ip (.packet packet)).1
  | some (.v6 ip6) => (state.deliver6 ip6 (.packet packet)).1
  | none => state

/-- A peer list is what the router has at that time. -/
def peersCurrent (state : AppState) (connection : Connection) : SessionAction → Prop
  | .receive _ peers => peers = state.router.peerInfos connection.ip
  | _ => True

instance (state : AppState) (connection : Connection) :
    DecidablePred (state.peersCurrent connection)
  | .receive _ peers => inferInstanceAs (Decidable (peers = state.router.peerInfos connection.ip))
  | .send | .remote _ _ | .delivered | .sendFailed | .disconnect | .shutdown => .isTrue trivial

/-- One step. -/
def step (state : AppState) : ServerAction → Option AppState
  | .reconfigure config => some { state with config }
  | .connect first =>
    match admission state.config first with
    | .accepted peer hello =>
      some { state with
        connections := state.connections ++
          [⟨.admitted, none, .start peer hello state.hasTun⟩] }
    | _ => some state
  | .assign index sessionId =>
    (state.inPhase index .admitted).map fun connection ↦
      state.put index { connection with
        phase := .assigned
        welcome := some (welcome state.config state.ipv6 sessionId connection.session.peer) }
  | .insert6 index =>
    (state.inPhase index .assigned).map fun connection ↦
      { state.put index { connection with phase := .indexed } with
        router := state.router.insert6 connection.ip6 index
        registrations := (connection.ip, index) :: state.registrations }
  | .insert4 index =>
    (state.inPhase index .indexed).map fun connection ↦
      { state.put index { connection with phase := .registered } with
        router := state.router.insert4 connection.ip (connection.entry index) }
  | .sendWelcome index sent =>
    (state.inPhase index .registered).map fun connection ↦
      if sent then
        state.put index { connection with
          phase := .established
          session := { connection.session with
            wire := (connection.welcome.map Frame.welcome).toList } }
      else
        state.put index { connection with
          phase := .leaving
          session := { connection.session with reading := false } }
  | .session index action =>
    match state.connections[index]? with
    | some connection =>
      if state.peersCurrent connection action then
        (connection.phase.next action).bind fun phase ↦
          (connection.session.step action).map fun session ↦
            state.put index { connection with phase, session }
      else none
    | none => none
  | .remove4 index =>
    (state.inPhase index .leaving).map fun connection ↦
      { state.put index { connection with phase := .removed } with
        router := state.router.remove4 connection.ip }
  | .remove6 index =>
    (state.inPhase index .removed).map fun connection ↦
      { state.put index { connection with phase := .unregistered } with
        router := state.router.remove6 connection.ip6 }
  | .tunPacket packet => some (state.routePacket packet)

/-! ### What a step changes -/

section Steps

variable {state next : AppState} {index other : ℕ} {connection changed : Connection}

theorem inPhase_eq_some {phase : Phase} (h : state.inPhase index phase = some connection) :
    state.connections[index]? = some connection ∧ connection.phase = phase := by
  obtain ⟨hconnection, hphase⟩ := Option.filter_eq_some_iff.mp h
  exact ⟨hconnection, of_decide_eq_true hphase⟩

/-- A connection that is accepted moves no other one. -/
theorem kept_concat {connections : List Connection}
    (hplace : connections[index]? = some connection) (accepted : Connection) :
    (connections ++ [accepted])[index]? = some connection :=
  getElem?_concat_eq_some.mpr (.inl hplace)

/-- The connections after one was put in its place. -/
theorem put_connections (hplace : state.connections[index]? = some connection) :
    (state.put index changed).connections[other]? =
      if index = other then some changed else state.connections[other]? :=
  getElem?_set_of_eq_some hplace changed other

/-- What is found at a place after a connection was put in its own. -/
theorem exists_put {old : Connection} {Kept : Connection → Prop}
    (hold : state.connections[index]? = some old)
    (hplace : state.connections[other]? = some connection) (hkept : Kept connection)
    (hchanged : old = connection → Kept changed) :
    ∃ after, (state.put index changed).connections[other]? = some after ∧ Kept after := by
  rw [put_connections hold]
  split_ifs with hsame
  · subst hsame
    exact ⟨changed, rfl, hchanged (Option.some.inj (hold.symm.trans hplace))⟩
  · exact ⟨connection, hplace, hkept⟩

/-- Handing a frame over changes one queue. -/
theorem handTo_cases (state : AppState) (index : ℕ) (frame : Frame) :
    (state.handTo index frame).1 = state ∨
      ∃ connection outbox, state.connections[index]? = some connection ∧
        (state.handTo index frame).1 =
          state.put index { connection with session := { connection.session with outbox } } := by
  unfold handTo
  split
  · rename_i connection hconnection
    split
    · rename_i outbox _
      exact .inr ⟨connection, outbox, hconnection, rfl⟩
    · exact .inl rfl
  · exact .inl rfl

/-- Routing a packet changes at most one queue. -/
theorem routePacket_cases (state : AppState) (packet : Bytes) :
    state.routePacket packet = state ∨
      ∃ index connection outbox, state.connections[index]? = some connection ∧
        state.routePacket packet =
          state.put index { connection with session := { connection.session with outbox } } := by
  have hdelivered : ∀ owner : Option ℕ, ∀ result : AppState,
      (match owner with
        | some index => state.handTo index (.packet packet)
        | none => (state, false)).1 = result →
      result = state ∨ ∃ index connection outbox, state.connections[index]? = some connection ∧
        result = state.put index
          { connection with session := { connection.session with outbox } } := by
    rintro owner _ rfl
    cases owner with
    | none => exact .inl rfl
    | some index =>
      obtain hsame | ⟨connection, outbox, hconnection, hput⟩ :=
        state.handTo_cases index (.packet packet)
      · exact .inl hsame
      · exact .inr ⟨index, connection, outbox, hconnection, hput⟩
  unfold routePacket
  split
  · exact hdelivered _ _ rfl
  · exact hdelivered _ _ rfl
  · exact .inl rfl

theorem step_session {action : SessionAction}
    (hstep : state.step (.session index action) = some next) :
    ∃ connection phase session, state.connections[index]? = some connection ∧
      connection.phase.next action = some phase ∧ connection.session.step action = some session ∧
        next = state.put index { connection with phase, session } := by
  simp only [step] at hstep
  split at hstep
  · rename_i connection hconnection
    split_ifs at hstep
    obtain ⟨phase, hphase, hsession⟩ := Option.bind_eq_some_iff.mp hstep
    obtain ⟨session, hstepped, rfl⟩ := Option.map_eq_some_iff.mp hsession
    exact ⟨connection, phase, session, hconnection, hphase, hstepped, rfl⟩
  · exact absurd hstep nofun

/-- What a step can do: one case for every way in which `step` is taken. -/
inductive Stepped (state : AppState) : ServerAction → AppState → Prop
  | reconfigure (config : ServerConfig) :
    Stepped state (.reconfigure config) { state with config }
  | accepted (first : Option Frame) (peer : PeerConfig) (hello : Hello)
    (haccepted : admission state.config first = .accepted peer hello) :
    Stepped state (.connect first)
      { state with
        connections := state.connections ++ [⟨.admitted, none, .start peer hello state.hasTun⟩] }
  | refused (first : Option Frame)
    (hrefused : ∀ peer hello, admission state.config first ≠ .accepted peer hello) :
    Stepped state (.connect first) state
  | assign (index : ℕ) (sessionId : Uuid) (connection : Connection)
    (hconnection : state.connections[index]? = some connection)
    (hphase : connection.phase = .admitted) :
    Stepped state (.assign index sessionId)
      (state.put index { connection with
        phase := .assigned
        welcome := some (welcome state.config state.ipv6 sessionId connection.session.peer) })
  | insert6 (index : ℕ) (connection : Connection)
    (hconnection : state.connections[index]? = some connection)
    (hphase : connection.phase = .assigned) :
    Stepped state (.insert6 index)
      { state.put index { connection with phase := .indexed } with
        router := state.router.insert6 connection.ip6 index
        registrations := (connection.ip, index) :: state.registrations }
  | insert4 (index : ℕ) (connection : Connection)
    (hconnection : state.connections[index]? = some connection)
    (hphase : connection.phase = .indexed) :
    Stepped state (.insert4 index)
      { state.put index { connection with phase := .registered } with
        router := state.router.insert4 connection.ip (connection.entry index) }
  | established (index : ℕ) (connection : Connection)
    (hconnection : state.connections[index]? = some connection)
    (hphase : connection.phase = .registered) :
    Stepped state (.sendWelcome index true)
      (state.put index { connection with
        phase := .established
        session := { connection.session with
          wire := (connection.welcome.map Frame.welcome).toList } })
  | dropped (index : ℕ) (connection : Connection)
    (hconnection : state.connections[index]? = some connection)
    (hphase : connection.phase = .registered) :
    Stepped state (.sendWelcome index false)
      (state.put index { connection with
        phase := .leaving
        session := { connection.session with reading := false } })
  | session (index : ℕ) (action : SessionAction) (connection : Connection) (phase : Phase)
    (session : Session) (hconnection : state.connections[index]? = some connection)
    (hphase : connection.phase.next action = some phase)
    (hsession : connection.session.step action = some session) :
    Stepped state (.session index action) (state.put index { connection with phase, session })
  | remove4 (index : ℕ) (connection : Connection)
    (hconnection : state.connections[index]? = some connection)
    (hphase : connection.phase = .leaving) :
    Stepped state (.remove4 index)
      { state.put index { connection with phase := .removed } with
        router := state.router.remove4 connection.ip }
  | remove6 (index : ℕ) (connection : Connection)
    (hconnection : state.connections[index]? = some connection)
    (hphase : connection.phase = .removed) :
    Stepped state (.remove6 index)
      { state.put index { connection with phase := .unregistered } with
        router := state.router.remove6 connection.ip6 }
  | unrouted (packet : Bytes) : Stepped state (.tunPacket packet) state
  | routed (packet : Bytes) (index : ℕ) (connection : Connection)
    (outbox : Channel Frame sessionCapacity)
    (hconnection : state.connections[index]? = some connection) :
    Stepped state (.tunPacket packet)
      (state.put index { connection with session := { connection.session with outbox } })

theorem stepped_of_step {action : ServerAction} (hstep : state.step action = some next) :
    state.Stepped action next := by
  cases action with
  | reconfigure config =>
    obtain rfl := Option.some.inj hstep
    exact .reconfigure config
  | connect first =>
    simp only [step] at hstep
    split at hstep
    · obtain rfl := Option.some.inj hstep
      exact .accepted first _ _ ‹_›
    · obtain rfl := Option.some.inj hstep
      exact .refused first ‹_›
  | assign index sessionId =>
    obtain ⟨connection, hphase, rfl⟩ := Option.map_eq_some_iff.mp hstep
    exact .assign index sessionId connection (inPhase_eq_some hphase).1 (inPhase_eq_some hphase).2
  | insert6 index =>
    obtain ⟨connection, hphase, rfl⟩ := Option.map_eq_some_iff.mp hstep
    exact .insert6 index connection (inPhase_eq_some hphase).1 (inPhase_eq_some hphase).2
  | insert4 index =>
    obtain ⟨connection, hphase, rfl⟩ := Option.map_eq_some_iff.mp hstep
    exact .insert4 index connection (inPhase_eq_some hphase).1 (inPhase_eq_some hphase).2
  | sendWelcome index sent =>
    obtain ⟨connection, hphase, rfl⟩ := Option.map_eq_some_iff.mp hstep
    cases sent with
    | true =>
      exact .established index connection (inPhase_eq_some hphase).1 (inPhase_eq_some hphase).2
    | false =>
      exact .dropped index connection (inPhase_eq_some hphase).1 (inPhase_eq_some hphase).2
  | session index action =>
    obtain ⟨connection, phase, session, hconnection, hphase, hsession, rfl⟩ := step_session hstep
    exact .session index action connection phase session hconnection hphase hsession
  | remove4 index =>
    obtain ⟨connection, hphase, rfl⟩ := Option.map_eq_some_iff.mp hstep
    exact .remove4 index connection (inPhase_eq_some hphase).1 (inPhase_eq_some hphase).2
  | remove6 index =>
    obtain ⟨connection, hphase, rfl⟩ := Option.map_eq_some_iff.mp hstep
    exact .remove6 index connection (inPhase_eq_some hphase).1 (inPhase_eq_some hphase).2
  | tunPacket packet =>
    obtain rfl := Option.some.inj hstep
    obtain hsame | ⟨index, connection, outbox, hconnection, hput⟩ := state.routePacket_cases packet
    · rw [hsame]
      exact .unrouted packet
    · rw [hput]
      exact .routed packet index connection outbox hconnection

/-- What a step leaves of a connection: whose it is, and its addresses once they are assigned. -/
theorem Stepped.kept {action : ServerAction} (hstep : state.Stepped action next)
    (hplace : state.connections[other]? = some connection) :
    ∃ after, next.connections[other]? = some after ∧
      after.session.peer = connection.session.peer ∧
      after.session.hello = connection.session.hello ∧
      (connection.phase ≠ .admitted → after.ip6 = connection.ip6) := by
  have hput : ∀ {index : ℕ} {old changed : Connection}, state.connections[index]? = some old →
      changed.session.peer = old.session.peer → changed.session.hello = old.session.hello →
      (old.phase ≠ .admitted → changed.ip6 = old.ip6) →
      ∃ after, (state.put index changed).connections[other]? = some after ∧
        after.session.peer = connection.session.peer ∧
        after.session.hello = connection.session.hello ∧
        (connection.phase ≠ .admitted → after.ip6 = connection.ip6) := by
    intro index old changed hold hpeer hhello hip6
    refine exists_put hold hplace ⟨rfl, rfl, fun _ ↦ rfl⟩ ?_
    rintro rfl
    exact ⟨hpeer, hhello, hip6⟩
  cases hstep with
  | reconfigure | refused | unrouted => exact ⟨connection, hplace, rfl, rfl, fun _ ↦ rfl⟩
  | accepted first peer hello =>
    exact ⟨connection, kept_concat hplace _, rfl, rfl, fun _ ↦ rfl⟩
  | assign index sessionId old hold hphase =>
    exact hput hold rfl rfl fun h ↦ absurd hphase h
  | insert6 index old hold | insert4 index old hold | established index old hold
  | dropped index old hold | remove4 index old hold | remove6 index old hold
  | routed packet index old outbox hold => exact hput hold rfl rfl fun _ ↦ rfl
  | session index action old phase session hold hphase hsession =>
    obtain ⟨hpeer, hhello, -⟩ := Session.step_fixed hsession
    exact hput hold hpeer hhello fun _ ↦ rfl

/-- Where a connection comes from: it was there, or has just been admitted. -/
theorem Stepped.origin {action : ServerAction} (hstep : state.Stepped action next)
    (hafter : next.connections[other]? = some connection) :
    (∃ old, state.connections[other]? = some old ∧
        connection.session.peer = old.session.peer ∧
        connection.session.hello = old.session.hello) ∨
      ∃ first peer hello, action = .connect first ∧
        admission state.config first = .accepted peer hello ∧ other = state.connections.length ∧
        connection = ⟨.admitted, none, .start peer hello state.hasTun⟩ := by
  cases hplace : state.connections[other]? with
  | some old =>
    obtain ⟨after, hkept, hpeer, hhello, -⟩ := hstep.kept hplace
    obtain rfl := Option.some.inj (hkept.symm.trans hafter)
    exact .inl ⟨old, rfl, hpeer, hhello⟩
  | none =>
    have hlength := List.getElem?_eq_none_iff.mp hplace
    have hput : ∀ {index : ℕ} {changed : Connection},
        (state.put index changed).connections[other]? = none := by
      intro index changed
      rw [List.getElem?_eq_none_iff, put, List.length_set]
      exact hlength
    cases hstep with
    | accepted first peer hello haccepted =>
      obtain hold | ⟨rfl, hsame⟩ := getElem?_concat_eq_some.mp hafter
      · exact absurd (hplace.symm.trans hold) nofun
      · exact .inr ⟨first, peer, hello, rfl, haccepted, rfl, hsame.symm⟩
    | reconfigure | refused | unrouted => exact absurd (hplace.symm.trans hafter) nofun
    | _ => exact absurd (hput.symm.trans hafter) nofun

/-- The rule for what holds of every connection by itself: of an admitted one, when its parameters
are read, and when its task or its session steps. -/
theorem Stepped.forall {Property : Connection → Prop} {action : ServerAction}
    (hstep : state.Stepped action next)
    (hall : ∀ (index : ℕ) (connection : Connection), state.connections[index]? = some connection →
      Property connection)
    (hadmitted : ∀ peer hello, Property ⟨.admitted, none, .start peer hello state.hasTun⟩)
    (hassigned : ∀ connection sessionId, Property connection → Property { connection with
      phase := .assigned
      welcome := some (welcome state.config state.ipv6 sessionId connection.session.peer) })
    (hkept : ∀ connection phase session, Property connection →
      session.peer = connection.session.peer → session.hello = connection.session.hello →
        Property { connection with phase, session })
    (index : ℕ) (connection : Connection) (hafter : next.connections[index]? = some connection) :
    Property connection := by
  have hput : ∀ {place : ℕ} {old changed : Connection}, state.connections[place]? = some old →
      (Property old → Property changed) →
        (state.put place changed).connections[index]? = some connection → Property connection := by
    intro place old changed hold hchanged hfound
    rw [put_connections hold] at hfound
    split_ifs at hfound
    · obtain rfl := Option.some.inj hfound
      exact hchanged (hall place old hold)
    · exact hall index connection hfound
  cases hstep with
  | reconfigure | refused | unrouted => exact hall index connection hafter
  | accepted first peer hello =>
    obtain hold | ⟨-, rfl⟩ := getElem?_concat_eq_some.mp hafter
    · exact hall index connection hold
    · exact hadmitted peer hello
  | assign place sessionId old hold => exact hput hold (hassigned old sessionId) hafter
  | insert6 place old hold | insert4 place old hold | established place old hold
  | dropped place old hold | remove4 place old hold | remove6 place old hold
  | routed packet place old outbox hold =>
    refine hput hold (fun h ↦ hkept old _ _ h ?_ ?_) hafter <;> rfl
  | session place action old phase session hold hphase hsession =>
    obtain ⟨hpeer, hhello, -⟩ := Session.step_fixed hsession
    exact hput hold (fun h ↦ hkept old phase session h hpeer hhello) hafter

end Steps

end AppState

end EntroTunnel.Server
