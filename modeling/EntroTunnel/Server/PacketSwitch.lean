import EntroTunnel.Server.Ownership

/-!
# The server as a packet switch

What becomes of the packets that the server reads off its TUN, over all connections at once. A
`Switch` is the server with a record: of every packet that `run_tun_router` read, with the
connection whose queue took it, if one did; of the frames that arrived at each client; and of the
connections whose `Welcome` was sent, since only these have a writer task and a reader loop.

What a connection has of the packets is `Supplied`. It is kept by every step of its session
(`Supplied.proceed`), and the packets for other connections do not touch it (`Serves.of_put`).
`packets_switched` says that the server is a switch: a packet goes to one connection at most, which
has the destination for its address; the packets that arrive at a client are those that its queue
took, in order and each once; the client gets its `Welcome` before anything else; and what a client
sends reaches the TUN in order, if the client may send packets at all.
-/

set_option autoImplicit false
set_option relaxedAutoImplicit false

namespace EntroTunnel.Server

open EntroTunnel.Core EntroTunnel.Foundation

/-! ### Packets among the frames -/

/-- The packet that a frame carries. -/
def packetOf : Frame → Option Bytes
  | .packet bytes => some bytes
  | _ => none

/-- The packets among the frames. -/
def packetsOf (frames : List Frame) : List Bytes :=
  frames.filterMap packetOf

@[simp] theorem packetsOf_nil : packetsOf [] = [] := rfl

@[simp] theorem packetsOf_append (first second : List Frame) :
    packetsOf (first ++ second) = packetsOf first ++ packetsOf second :=
  List.filterMap_append

@[simp] theorem packetsOf_packet (bytes : Bytes) : packetsOf [.packet bytes] = [bytes] := rfl

theorem packetsOf_singleton {frame : Frame} (hframe : packetOf frame = none) :
    packetsOf [frame] = [] :=
  List.filterMap_cons_none hframe

/-- A queue that a frame without a packet was offered has the packets that it had. -/
theorem packetsOf_offer {capacity : ℕ} (channel : Channel Frame capacity) {frame : Frame}
    (hframe : packetOf frame = none) :
    packetsOf (channel.offer frame).items = packetsOf channel.items := by
  rw [Channel.items_offer]
  split_ifs
  · rw [packetsOf_append, packetsOf_singleton hframe, List.append_nil]
  · rfl

/-- The tasks of a stream send no packets. -/
theorem packetsOf_stepped {listening : Bool} {stream next : RemoteStream} {action : RemoteAction}
    {frame : Option Frame} (hstep : stream.Stepped listening action next frame) :
    packetsOf frame.toList = [] := by
  cases hstep <;> cases listening <;> rfl

/-! ### The switch -/

/-- The frames that a step of a session brings to its client. -/
def Session.arrived (session : Session) : SessionAction → List Frame
  | .delivered => session.wire.head?.toList
  | _ => []

namespace AppState

/-- The connection that a packet is handed to. -/
def addressee (state : AppState) (packet : Bytes) : Option ℕ :=
  match destination packet with
  | some (.v4 ip) => state.router.owner ip
  | some (.v6 ip6) => state.router.owner6 ip6
  | none => none

/-- The connection whose queue takes a packet. -/
def taker (state : AppState) (packet : Bytes) : Option ℕ :=
  (state.addressee packet).filter fun index ↦ (state.handTo index (.packet packet)).2

/-- The frames that a step of the session of a connection brings to its client. -/
def arrivals (state : AppState) (index : ℕ) (action : SessionAction) : List (ℕ × Frame) :=
  match state.connections[index]? with
  | some connection => (connection.session.arrived action).map fun frame ↦ (index, frame)
  | none => []

end AppState

/-- A server with a record of its packets. -/
structure Switch where
  state : AppState
  /-- The packets read off the TUN, with the connections whose queues took them. -/
  switched : List (Bytes × Option ℕ)
  /-- The frames that arrived, with the connections of the clients. -/
  delivered : List (ℕ × Frame)
  /-- The connections whose `Welcome` was sent. -/
  welcomed : List ℕ

namespace Switch

def start (config : ServerConfig) (ipv6 hasTun : Bool) : Switch :=
  ⟨.start config ipv6 hasTun, [], [], []⟩

/-- The frames that arrived at the client of a connection. -/
def deliveredTo (switch : Switch) (index : ℕ) : List Frame :=
  switch.delivered.filterMap fun (other, frame) ↦ if other = index then some frame else none

/-- The packets that the queue of a connection took. -/
def switchedTo (switch : Switch) (index : ℕ) : List Bytes :=
  switch.switched.filterMap fun (packet, taker) ↦ if taker = some index then some packet else none

/-- A session's tasks run once its `Welcome` was sent. Without it the queue is only dropped. -/
def runs (switch : Switch) : ServerAction → Bool
  | .session index action => action = .shutdown || index ∈ switch.welcomed
  | _ => true

/-- The record of a step. -/
def record (switch : Switch) (next : AppState) : ServerAction → Switch
  | .tunPacket packet =>
    { switch with
      state := next
      switched := switch.switched ++ [(packet, switch.state.taker packet)] }
  | .session index action =>
    { switch with
      state := next
      delivered := switch.delivered ++ switch.state.arrivals index action }
  | .sendWelcome index true =>
    { switch with state := next, welcomed := index :: switch.welcomed }
  | _ => { switch with state := next }

def step (switch : Switch) (action : ServerAction) : Option Switch :=
  if switch.runs action then
    (switch.state.step action).map fun next ↦ switch.record next action
  else none

end Switch

/-! ### What a connection has got and given -/

/-- A packet is addressed to a connection. -/
def Connection.Addressed (connection : Connection) (packet : Bytes) : Prop :=
  destination packet = some (.v4 connection.ip) ∨
    ∃ ip6, connection.ip6 = some ip6 ∧ destination packet = some (.v6 ip6)

/-- What a connection has of the packets that its queue took. As long as the queue is received from
nothing is lost of them. -/
structure Supplied (delivered : List Frame) (switched : List Bytes) (welcomed : Prop)
    (connection : Connection) : Prop where
  order : packetsOf (delivered ++ connection.session.wire) ++
    packetsOf connection.session.outbox.items <+: switched
  whole : connection.session.outbox.hasReceiver = true →
    packetsOf (delivered ++ connection.session.wire) ++
      packetsOf connection.session.outbox.items = switched
  before : ¬ welcomed → delivered = [] ∧ connection.session.wire = []
  after : welcomed → ∃ welcome, connection.welcome = some welcome ∧
    (delivered ++ connection.session.wire).head? = some (.welcome welcome)
  assigned : connection.phase ≠ .admitted → ∃ welcome, connection.welcome = some welcome
  address : ∀ welcome, connection.welcome = some welcome → welcome.assignedIp = connection.ip
  unserved : connection.phase.serves = false → ¬ welcomed
  uplink : connection.session.tunOut =
    if connection.session.admitsPackets ∧ connection.session.hasTun then
      packetsOf connection.session.received
    else []

namespace Supplied

variable {delivered : List Frame} {switched : List Bytes} {welcomed : Prop}
  {connection : Connection}

theorem admitted (peer : PeerConfig) (hello : Hello) (hasTun : Bool) (hwelcomed : ¬ welcomed) :
    Supplied [] [] welcomed ⟨.admitted, none, .start peer hello hasTun⟩ where
  order := List.prefix_rfl
  whole _ := rfl
  before _ := ⟨rfl, rfl⟩
  after h := absurd h hwelcomed
  assigned h := absurd rfl h
  address _ h := nomatch h
  unserved _ := hwelcomed
  uplink := (ite_self _).symm

/-- The task of a connection goes on. -/
theorem moved (hsupplied : Supplied delivered switched welcomed connection) {phase : Phase}
    (hassigned : phase ≠ .admitted → connection.phase ≠ .admitted)
    (hserves : connection.phase.serves = true → phase.serves = true) (reading : Bool) :
    Supplied delivered switched welcomed
      { connection with phase, session := { connection.session with reading } } where
  order := hsupplied.order
  whole := hsupplied.whole
  before := hsupplied.before
  after := hsupplied.after
  assigned h := hsupplied.assigned (hassigned h)
  address := hsupplied.address
  unserved h := by
    refine hsupplied.unserved (Bool.eq_false_iff.mpr fun hserving ↦ ?_)
    exact absurd (hserves hserving) (Bool.eq_false_iff.mp h)
  uplink := hsupplied.uplink

/-- The parameters were read. -/
theorem assign (hsupplied : Supplied delivered switched welcomed connection)
    (hphase : connection.phase = .admitted) {welcome : Welcome}
    (hwelcome : welcome.assignedIp = connection.ip) :
    Supplied delivered switched welcomed
      { connection with phase := .assigned, welcome := some welcome } where
  order := hsupplied.order
  whole := hsupplied.whole
  before := hsupplied.before
  after h := absurd h (hsupplied.unserved (by rw [hphase]; rfl))
  assigned _ := ⟨welcome, rfl⟩
  address other h := Option.some.inj h ▸ hwelcome
  unserved _ := hsupplied.unserved (by rw [hphase]; rfl)
  uplink := hsupplied.uplink

/-- The `Welcome` was sent. -/
theorem welcome (hsupplied : Supplied delivered switched welcomed connection)
    (hphase : connection.phase = .registered) {now : Prop} (hnow : now) :
    Supplied delivered switched now
      { connection with
        phase := .established
        session := { connection.session with
          wire := (connection.welcome.map Frame.welcome).toList } } := by
  have hwelcomed : ¬ welcomed := hsupplied.unserved (by rw [hphase]; rfl)
  obtain ⟨hdelivered, hwire⟩ := hsupplied.before hwelcomed
  obtain ⟨sent, hsent⟩ := hsupplied.assigned (by rw [hphase]; nofun)
  have hsame : packetsOf (delivered ++ (connection.welcome.map Frame.welcome).toList) =
      packetsOf (delivered ++ connection.session.wire) := by
    rw [hsent, hwire, List.append_nil, Option.map_some, Option.toList_some, packetsOf_append,
      packetsOf_singleton rfl, List.append_nil]
  exact {
    order := by
      rw [hsame]
      exact hsupplied.order
    whole := fun h ↦ by
      rw [hsame]
      exact hsupplied.whole h
    before := fun h ↦ absurd hnow h
    after := fun _ ↦ ⟨sent, hsent, by rw [hdelivered, hsent]; rfl⟩
    assigned := fun _ ↦ ⟨sent, hsent⟩
    address := hsupplied.address
    unserved := fun h ↦ nomatch h
    uplink := hsupplied.uplink }

/-- The queue takes a packet. -/
theorem take (hsupplied : Supplied delivered switched welcomed connection) {packet : Bytes}
    {outbox : Channel Frame sessionCapacity}
    (hsend : connection.session.outbox.trySend (.packet packet) = some outbox) :
    Supplied delivered (switched ++ [packet]) welcomed
      { connection with session := { connection.session with outbox } } := by
  obtain ⟨hreceiver, -, hitems, -⟩ := Channel.trySend_eq_some hsend
  have hwhole : packetsOf (delivered ++ connection.session.wire) ++ packetsOf outbox.items =
      switched ++ [packet] := by
    rw [hitems, packetsOf_append connection.session.outbox.items, packetsOf_packet,
      ← List.append_assoc, hsupplied.whole hreceiver]
  exact {
    order := hwhole ▸ List.prefix_rfl
    whole := fun _ ↦ hwhole
    before := hsupplied.before
    after := hsupplied.after
    assigned := hsupplied.assigned
    address := hsupplied.address
    unserved := hsupplied.unserved
    uplink := hsupplied.uplink }

/-- The session goes on, and some frames arrive. -/
theorem proceed (hsupplied : Supplied delivered switched welcomed connection) {session : Session}
    {arrived : List Frame} {phase : Phase}
    (hassigned : connection.phase ≠ .admitted) (hserves : phase.serves = true)
    (hpeer : session.peer = connection.session.peer)
    (hquiet : ¬ welcomed → arrived = [] ∧ session.wire = connection.session.wire)
    (hreceiver : session.outbox.hasReceiver = true →
      connection.session.outbox.hasReceiver = true)
    (hless : packetsOf (arrived ++ session.wire) ++ packetsOf session.outbox.items <+:
      packetsOf connection.session.wire ++ packetsOf connection.session.outbox.items)
    (hsame : session.outbox.hasReceiver = true →
      packetsOf (arrived ++ session.wire) ++ packetsOf session.outbox.items =
        packetsOf connection.session.wire ++ packetsOf connection.session.outbox.items)
    (hwire : connection.session.wire <+: arrived ++ session.wire)
    (huplink : session.tunOut =
      if session.admitsPackets ∧ session.hasTun then packetsOf session.received else []) :
    Supplied (delivered ++ arrived) switched welcomed { connection with phase, session } := by
  have hbefore : packetsOf (delivered ++ connection.session.wire) ++
      packetsOf connection.session.outbox.items = packetsOf delivered ++
        (packetsOf connection.session.wire ++ packetsOf connection.session.outbox.items) := by
    rw [packetsOf_append, List.append_assoc]
  have hafter : packetsOf (delivered ++ arrived ++ session.wire) ++ packetsOf session.outbox.items =
      packetsOf delivered ++
        (packetsOf (arrived ++ session.wire) ++ packetsOf session.outbox.items) := by
    rw [List.append_assoc, packetsOf_append, List.append_assoc]
  exact {
    order := by
      show packetsOf (delivered ++ arrived ++ session.wire) ++ _ <+: switched
      rw [hafter]
      exact ((List.prefix_append_right_inj _).mpr hless).trans (hbefore ▸ hsupplied.order)
    whole := fun h ↦ by
      show packetsOf (delivered ++ arrived ++ session.wire) ++ _ = switched
      rw [hafter, hsame h, ← hbefore]
      exact hsupplied.whole (hreceiver h)
    before := fun h ↦ by
      obtain ⟨hdelivered, hnothing⟩ := hsupplied.before h
      obtain ⟨harrived, hkept⟩ := hquiet h
      exact ⟨by rw [hdelivered, harrived, List.nil_append], hkept.trans hnothing⟩
    after := fun h ↦ by
      obtain ⟨welcome, hwelcome, hfirst⟩ := hsupplied.after h
      refine ⟨welcome, hwelcome, ?_⟩
      obtain ⟨rest, hrest⟩ := hwire
      show (delivered ++ arrived ++ session.wire).head? = _
      rw [List.append_assoc, ← hrest, ← List.append_assoc, List.head?_append, hfirst]
      rfl
    assigned := fun _ ↦ hsupplied.assigned hassigned
    address := fun welcome hwelcome ↦ by
      rw [hsupplied.address welcome hwelcome, Connection.ip, Connection.ip, hpeer]
    unserved := fun h ↦ absurd (hserves.symm.trans h) (Ne.symm Bool.false_ne_true)
    uplink := huplink }

end Supplied

/-! ### What a session does with packets -/

theorem Phase.serves_next {phase after : Phase} {action : SessionAction}
    (hnext : phase.next action = some after) : phase.serves = true ∧ after.serves = true := by
  unfold Phase.next at hnext
  split at hnext
  · exact ⟨rfl, (Option.some.inj hnext) ▸ rfl⟩
  · exact ⟨rfl, (Option.some.inj hnext) ▸ rfl⟩
  · exact absurd hnext.symm (Option.some_ne_none after)
  · exact absurd hnext.symm (Option.some_ne_none after)
  · split_ifs at hnext with hserves
    exact ⟨hserves, Option.some.inj hnext ▸ hserves⟩

section Sessions

variable {session next : Session}

/-- What reading a frame does to the queue and to the TUN. -/
theorem handle_packets (session : Session) (peers : List PeerInfo) (frame : Frame) :
    packetsOf (session.handle peers frame).outbox.items = packetsOf session.outbox.items ∧
      (session.handle peers frame).outbox.hasReceiver = session.outbox.hasReceiver ∧
      (session.handle peers frame).tunOut =
        if session.admitsPackets ∧ session.hasTun then
          session.tunOut ++ packetsOf [frame]
        else session.tunOut := by
  cases frame with
  | packet bytes =>
    simp only [Session.handle, packetsOf_packet]
    split_ifs
    · exact ⟨rfl, rfl, rfl⟩
    · exact ⟨rfl, rfl, rfl⟩
  | ping =>
    rw [packetsOf_singleton rfl, List.append_nil, ite_self]
    exact ⟨packetsOf_offer _ rfl, Channel.hasReceiver_offer _ _, rfl⟩
  | getPeers =>
    rw [packetsOf_singleton rfl, List.append_nil, ite_self]
    exact ⟨packetsOf_offer _ rfl, Channel.hasReceiver_offer _ _, rfl⟩
  | streamOpen id target =>
    rw [packetsOf_singleton rfl, List.append_nil, ite_self]
    simp only [Session.handle]
    split_ifs
    · exact ⟨rfl, rfl, rfl⟩
    · exact ⟨packetsOf_offer _ rfl, Channel.hasReceiver_offer _ _, rfl⟩
  | _ =>
    rw [packetsOf_singleton rfl, List.append_nil, ite_self]
    exact ⟨rfl, rfl, rfl⟩

/-- What a task of a session does with the packets on their way to the client. -/
theorem step_packets {action : SessionAction} (hstep : session.step action = some next) :
    (next.outbox.hasReceiver = true → session.outbox.hasReceiver = true) ∧
      packetsOf (session.arrived action ++ next.wire) ++ packetsOf next.outbox.items <+:
        packetsOf session.wire ++ packetsOf session.outbox.items ∧
      (next.outbox.hasReceiver = true →
        packetsOf (session.arrived action ++ next.wire) ++ packetsOf next.outbox.items =
          packetsOf session.wire ++ packetsOf session.outbox.items) ∧
      session.wire <+: session.arrived action ++ next.wire := by
  have hkept : ∀ {outbox : Channel Frame sessionCapacity} {wire : List Frame},
      packetsOf wire ++ packetsOf outbox.items =
        packetsOf session.wire ++ packetsOf session.outbox.items →
      (outbox.hasReceiver = true → session.outbox.hasReceiver = true) → session.wire <+: wire →
        (outbox.hasReceiver = true → session.outbox.hasReceiver = true) ∧
          packetsOf wire ++ packetsOf outbox.items <+:
            packetsOf session.wire ++ packetsOf session.outbox.items ∧
          (outbox.hasReceiver = true → packetsOf wire ++ packetsOf outbox.items =
            packetsOf session.wire ++ packetsOf session.outbox.items) ∧
          session.wire <+: wire :=
    fun hsame hreceiver hwire ↦ ⟨hreceiver, hsame ▸ List.prefix_rfl, fun _ ↦ hsame, hwire⟩
  have hdropped : (session.outbox.dropReceiver.hasReceiver = true →
        session.outbox.hasReceiver = true) ∧
      packetsOf session.wire ++ packetsOf session.outbox.dropReceiver.items <+:
        packetsOf session.wire ++ packetsOf session.outbox.items ∧
      (session.outbox.dropReceiver.hasReceiver = true →
        packetsOf session.wire ++ packetsOf session.outbox.dropReceiver.items =
          packetsOf session.wire ++ packetsOf session.outbox.items) ∧
      session.wire <+: session.wire := by
    refine ⟨fun h ↦ absurd h Bool.false_ne_true, ?_, fun h ↦ absurd h Bool.false_ne_true,
      List.prefix_rfl⟩
    rw [Channel.items_dropReceiver, packetsOf_nil, List.append_nil]
    exact List.prefix_append _ _
  cases action with
  | receive frame peers =>
    obtain ⟨-, rfl⟩ := Session.step_receive hstep
    obtain ⟨hitems, hreceiver, -⟩ :=
      handle_packets { session with received := session.received ++ [frame] } peers frame
    obtain ⟨-, -, -, -, -, hwire⟩ :=
      Session.handle_frame { session with received := session.received ++ [frame] } peers frame
    refine hkept ?_ (fun h ↦ hreceiver.symm.trans h) ?_
    · rw [hitems]
      exact congrArg (packetsOf · ++ _) hwire
    · exact ⟨[], (List.append_nil _).trans hwire.symm⟩
  | send =>
    obtain ⟨frame, rest, hrecv, rfl⟩ := Session.step_send hstep
    obtain ⟨hitems, -, hreceiver⟩ := Channel.recv_eq_item hrecv
    refine hkept ?_ (fun h ↦ hreceiver.symm.trans h) (List.prefix_append _ _)
    show packetsOf (session.wire ++ [frame]) ++ packetsOf rest.items = _
    rw [hitems, packetsOf_append, List.append_assoc, ← packetsOf_append, List.singleton_append]
  | remote index action =>
    obtain ⟨stream, after, frame, outbox, -, hstream, hput, rfl⟩ := Session.step_remote hstep
    obtain ⟨hitems, -, hreceiver⟩ := Channel.put_eq_some hput
    refine hkept ?_ (fun h ↦ hreceiver.symm.trans h) List.prefix_rfl
    show packetsOf session.wire ++ packetsOf outbox.items = _
    rw [hitems, packetsOf_append, packetsOf_stepped (RemoteStream.stepped_of_step hstream),
      List.append_nil]
  | delivered =>
    obtain ⟨frame, rest, hwire, rfl⟩ := Session.step_delivered hstep
    have harrived : session.arrived .delivered ++ rest = session.wire := by
      rw [Session.arrived, hwire]
      rfl
    exact hkept (congrArg (packetsOf · ++ _) harrived) id
      ⟨[], (List.append_nil _).trans harrived.symm⟩
  | sendFailed =>
    obtain rfl := Session.step_sendFailed hstep
    exact hdropped
  | disconnect =>
    obtain ⟨-, rfl⟩ := Session.step_disconnect hstep
    exact hkept rfl id List.prefix_rfl
  | shutdown =>
    obtain ⟨-, rfl⟩ := Session.step_shutdown hstep
    exact hdropped

/-- What a task of a session does with the packets of the client. -/
theorem step_uplink {action : SessionAction} (hstep : session.step action = some next)
    (huplink : session.tunOut =
      if session.admitsPackets ∧ session.hasTun then packetsOf session.received else []) :
    next.tunOut = if next.admitsPackets ∧ next.hasTun then packetsOf next.received else [] := by
  cases action with
  | receive frame peers =>
    obtain ⟨-, rfl⟩ := Session.step_receive hstep
    obtain ⟨-, -, htun⟩ :=
      handle_packets { session with received := session.received ++ [frame] } peers frame
    obtain ⟨-, hhello, hhasTun, hreceived, -⟩ :=
      Session.handle_frame { session with received := session.received ++ [frame] } peers frame
    rw [htun, Session.admitsPackets, Session.admitsPackets, hhello, hhasTun, hreceived,
      packetsOf_append]
    change (if session.admitsPackets = true ∧ session.hasTun = true then
      session.tunOut ++ packetsOf [frame] else session.tunOut) =
        if session.admitsPackets = true ∧ session.hasTun = true then _ else []
    rw [huplink]
    split_ifs <;> rfl
  | send =>
    obtain ⟨frame, rest, -, rfl⟩ := Session.step_send hstep
    exact huplink
  | remote index action =>
    obtain ⟨stream, after, frame, outbox, -, -, -, rfl⟩ := Session.step_remote hstep
    exact huplink
  | delivered =>
    obtain ⟨frame, rest, -, rfl⟩ := Session.step_delivered hstep
    exact huplink
  | sendFailed =>
    obtain rfl := Session.step_sendFailed hstep
    exact huplink
  | disconnect =>
    obtain ⟨-, rfl⟩ := Session.step_disconnect hstep
    exact huplink
  | shutdown =>
    obtain ⟨-, rfl⟩ := Session.step_shutdown hstep
    exact huplink

end Sessions

/-! ### Handing a packet over -/

namespace AppState

variable {state : AppState} {index : ℕ} {packet : Bytes}

theorem routePacket_eq (state : AppState) (packet : Bytes) :
    state.routePacket packet = match state.addressee packet with
      | some index => (state.handTo index (.packet packet)).1
      | none => state := by
  unfold routePacket addressee
  cases destination packet with
  | none => rfl
  | some addr =>
    cases addr with
    | v4 ip =>
      simp only [deliver]
      cases state.router.owner ip <;> rfl
    | v6 ip6 =>
      simp only [deliver6]
      cases state.router.owner6 ip6 <;> rfl

/-- What is handed over is the newest frame of the queue. -/
theorem handTo_taken {frame : Frame} (htaken : (state.handTo index frame).2 = true) :
    ∃ connection outbox, state.connections[index]? = some connection ∧
      connection.session.outbox.trySend frame = some outbox ∧
        (state.handTo index frame).1 =
          state.put index { connection with session := { connection.session with outbox } } := by
  unfold handTo at htaken ⊢
  split
  · rename_i connection hconnection
    rw [hconnection] at htaken
    split
    · rename_i outbox hsend
      exact ⟨connection, outbox, hconnection, hsend, rfl⟩
    · rename_i hrefused
      simp only [hrefused, Bool.false_eq_true] at htaken
  · rename_i hnone
    simp only [hnone, Bool.false_eq_true] at htaken

theorem handTo_refused {frame : Frame} (hrefused : (state.handTo index frame).2 = false) :
    (state.handTo index frame).1 = state := by
  unfold handTo at hrefused ⊢
  split
  · rename_i connection hconnection
    rw [hconnection] at hrefused
    split
    · rename_i outbox hsend
      simp only [hsend, Bool.true_eq_false] at hrefused
    · rfl
  · rfl

/-- A packet that no queue takes is dropped. -/
theorem routePacket_dropped (htaker : state.taker packet = none) :
    state.routePacket packet = state := by
  rw [routePacket_eq]
  split
  · rename_i index haddressee
    rw [taker, haddressee] at htaker
    refine handTo_refused (Bool.eq_false_iff.mpr fun htaken ↦ ?_)
    rw [Option.filter_some, if_pos htaken] at htaker
    exact absurd htaker (Option.some_ne_none index)
  · rfl

/-- A packet goes to the queue that takes it. -/
theorem routePacket_taken (htaker : state.taker packet = some index) :
    ∃ connection outbox, state.connections[index]? = some connection ∧
      connection.session.outbox.trySend (.packet packet) = some outbox ∧
        state.routePacket packet =
          state.put index { connection with session := { connection.session with outbox } } := by
  obtain ⟨haddressee, htaken⟩ := Option.filter_eq_some_iff.mp htaker
  rw [routePacket_eq, haddressee]
  exact handTo_taken htaken

/-- A packet is handed to a connection that has its destination for an address. -/
theorem Owned.addressed (howned : state.Owned) (htaker : state.taker packet = some index) :
    ∃ connection, state.connections[index]? = some connection ∧ connection.Addressed packet ∧
      connection.phase ≠ .admitted := by
  obtain ⟨haddressee, -⟩ := Option.filter_eq_some_iff.mp htaker
  unfold addressee at haddressee
  split at haddressee
  · rename_i ip hdestination
    obtain ⟨connection, hconnection, hip, hphase⟩ := howned.owner haddressee
    refine ⟨connection, hconnection, .inl ?_, fun hadmitted ↦ ?_⟩
    · rw [hdestination, hip]
    · rw [hadmitted] at hphase
      exact absurd hphase Bool.false_ne_true
  · rename_i ip6 hdestination
    obtain ⟨connection, hconnection, hip6, hphase⟩ := howned.entry6 ip6 index haddressee
    refine ⟨connection, hconnection, .inr ⟨ip6, hip6, hdestination⟩, fun hadmitted ↦ ?_⟩
    rw [hadmitted] at hphase
    exact absurd hphase Bool.false_ne_true
  · exact absurd haddressee.symm (Option.some_ne_none index)

end AppState

/-! ### Every connection is served -/

namespace Switch

/-- Every connection has its packets, and packets are for connections. -/
structure Serves (switch : Switch) : Prop where
  owned : switch.state.Owned
  served : ∀ (index : ℕ) (connection : Connection),
    switch.state.connections[index]? = some connection →
      Supplied (switch.deliveredTo index) (switch.switchedTo index) (index ∈ switch.welcomed)
        connection
  addressed : ∀ (index : ℕ) (connection : Connection),
    switch.state.connections[index]? = some connection →
      ∀ packet ∈ switch.switchedTo index,
        connection.Addressed packet ∧ connection.phase ≠ .admitted
  fresh : ∀ index, switch.state.connections[index]? = none →
    switch.deliveredTo index = [] ∧ switch.switchedTo index = [] ∧ index ∉ switch.welcomed

variable {switch after : Switch} {index : ℕ} {connection changed : Connection}

theorem serves_start (config : ServerConfig) (ipv6 hasTun : Bool) :
    (start config ipv6 hasTun).Serves where
  owned := AppState.owned_start config ipv6 hasTun
  served _ _ h := absurd h.symm (Option.some_ne_none _)
  addressed _ _ h := absurd h.symm (Option.some_ne_none _)
  fresh _ _ := ⟨rfl, rfl, List.not_mem_nil⟩

/-- The rule for a step at one connection: what it makes of this one, and that the record of the
others is as before. -/
theorem Serves.of_put (hserves : switch.Serves)
    (hconnection : switch.state.connections[index]? = some connection)
    (hafter : after.state.connections = switch.state.connections.set index changed)
    (howned : after.state.Owned)
    (hothers : ∀ other, other ≠ index → after.deliveredTo other = switch.deliveredTo other ∧
      after.switchedTo other = switch.switchedTo other ∧
        (other ∈ after.welcomed ↔ other ∈ switch.welcomed))
    (hsupplied : Supplied (after.deliveredTo index) (after.switchedTo index)
      (index ∈ after.welcomed) changed)
    (haddressed : ∀ packet ∈ after.switchedTo index,
      changed.Addressed packet ∧ changed.phase ≠ .admitted) : after.Serves := by
  have hplace : ∀ other, after.state.connections[other]? =
      if index = other then some changed else switch.state.connections[other]? := by
    intro other
    rw [hafter]
    exact getElem?_set_of_eq_some hconnection changed other
  refine ⟨howned, fun other found hfound ↦ ?_, fun other found hfound ↦ ?_, fun other hnone ↦ ?_⟩
  · rw [hplace] at hfound
    split_ifs at hfound with hsame
    · obtain rfl := Option.some.inj hfound
      exact hsame ▸ hsupplied
    · obtain ⟨hdelivered, hswitched, hwelcomed⟩ := hothers other (Ne.symm hsame)
      rw [hdelivered, hswitched, propext hwelcomed]
      exact hserves.served other found hfound
  · rw [hplace] at hfound
    split_ifs at hfound with hsame
    · obtain rfl := Option.some.inj hfound
      exact hsame ▸ haddressed
    · rw [(hothers other (Ne.symm hsame)).2.1]
      exact hserves.addressed other found hfound
  · rw [hplace] at hnone
    split_ifs at hnone with hsame
    obtain ⟨hdelivered, hswitched, hwelcomed⟩ := hothers other (Ne.symm hsame)
    rw [hdelivered, hswitched, hwelcomed]
    exact hserves.fresh other hnone

/-- The rule for a step at one connection that is not recorded. -/
theorem Serves.of_kept (hserves : switch.Serves) {next : AppState}
    (hconnection : switch.state.connections[index]? = some connection)
    (hnext : next.connections = switch.state.connections.set index changed) (howned : next.Owned)
    (hsupplied : Supplied (switch.deliveredTo index) (switch.switchedTo index)
      (index ∈ switch.welcomed) connection → Supplied (switch.deliveredTo index)
        (switch.switchedTo index) (index ∈ switch.welcomed) changed)
    (hpeer : changed.session.peer = connection.session.peer)
    (hphase : connection.phase ≠ .admitted → changed.phase ≠ .admitted)
    (hip6 : connection.phase ≠ .admitted → changed.ip6 = connection.ip6) :
    ({ switch with state := next } : Switch).Serves := by
  refine hserves.of_put hconnection hnext howned (fun _ _ ↦ ⟨rfl, rfl, Iff.rfl⟩)
    (hsupplied (hserves.served index connection hconnection)) fun packet hpacket ↦ ?_
  obtain ⟨haddressed, hassigned⟩ := hserves.addressed index connection hconnection packet hpacket
  refine ⟨?_, hphase hassigned⟩
  rw [Connection.Addressed, Connection.ip, hpeer, hip6 hassigned]
  exact haddressed

/-- The rule for a step that leaves the connections and their record as they are. -/
theorem Serves.of_same (hserves : switch.Serves)
    (hconnections : after.state.connections = switch.state.connections)
    (howned : after.state.Owned)
    (hrecord : ∀ index, after.deliveredTo index = switch.deliveredTo index ∧
      after.switchedTo index = switch.switchedTo index ∧
        (index ∈ after.welcomed ↔ index ∈ switch.welcomed)) : after.Serves := by
  refine ⟨howned, fun index connection hfound ↦ ?_, fun index connection hfound ↦ ?_,
    fun index hnone ↦ ?_⟩
  · obtain ⟨hdelivered, hswitched, hwelcomed⟩ := hrecord index
    rw [hdelivered, hswitched, propext hwelcomed]
    exact hserves.served index connection (hconnections ▸ hfound)
  · rw [(hrecord index).2.1]
    exact hserves.addressed index connection (hconnections ▸ hfound)
  · obtain ⟨hdelivered, hswitched, hwelcomed⟩ := hrecord index
    rw [hdelivered, hswitched, hwelcomed]
    exact hserves.fresh index (hconnections ▸ hnone)

/-- The rule for a connection that is accepted. -/
theorem Serves.admit (hserves : switch.Serves) {next : AppState} {peer : PeerConfig}
    {hello : Hello} {hasTun : Bool}
    (hnext : next.connections =
      switch.state.connections ++ [⟨.admitted, none, .start peer hello hasTun⟩])
    (howned : next.Owned) : ({ switch with state := next } : Switch).Serves := by
  obtain ⟨hdelivered, hswitched, hwelcomed⟩ :=
    hserves.fresh switch.state.connections.length (List.getElem?_eq_none le_rfl)
  refine ⟨howned, fun index connection hfound ↦ ?_, fun index connection hfound ↦ ?_,
    fun index hnone ↦ ?_⟩
  · rw [hnext] at hfound
    obtain hold | ⟨rfl, rfl⟩ := getElem?_concat_eq_some.mp hfound
    · exact hserves.served index connection hold
    · show Supplied (switch.deliveredTo _) (switch.switchedTo _) _ _
      rw [hdelivered, hswitched]
      exact .admitted peer hello hasTun hwelcomed
  · rw [hnext] at hfound
    obtain hold | ⟨rfl, rfl⟩ := getElem?_concat_eq_some.mp hfound
    · exact hserves.addressed index connection hold
    · intro packet hpacket
      replace hpacket : packet ∈ switch.switchedTo switch.state.connections.length := hpacket
      rw [hswitched] at hpacket
      exact absurd hpacket List.not_mem_nil
  · rw [hnext, List.getElem?_eq_none_iff, List.length_append] at hnone
    exact hserves.fresh index (List.getElem?_eq_none (Nat.le_of_add_right_le hnone))

/-! ### Steps -/

theorem switchedTo_concat (switch : Switch) (next : AppState) (packet : Bytes) (index : ℕ) :
    (switch.record next (.tunPacket packet)).switchedTo index =
      switch.switchedTo index ++
        if switch.state.taker packet = some index then [packet] else [] := by
  simp only [switchedTo, record, List.filterMap_append, List.filterMap_cons, List.filterMap_nil]
  split_ifs <;> rfl

theorem deliveredTo_session (next : AppState) {action : SessionAction} (other : ℕ)
    (hconnection : switch.state.connections[index]? = some connection) :
    (switch.record next (.session index action)).deliveredTo other =
      switch.deliveredTo other ++
        if index = other then connection.session.arrived action else [] := by
  simp only [deliveredTo, record, AppState.arrivals, hconnection, List.filterMap_append,
    List.filterMap_map, List.append_cancel_left_eq]
  split_ifs with hsame
  · subst hsame
    exact (List.filterMap_congr fun frame _ ↦ if_pos rfl).trans (List.filterMap_some)
  · exact List.filterMap_eq_nil_iff.mpr fun frame _ ↦ if_neg hsame

/-- The router hands one packet over. -/
theorem Serves.route (hserves : switch.Serves) (packet : Bytes) :
    (switch.record (switch.state.routePacket packet) (.tunPacket packet)).Serves := by
  have howned : (switch.state.routePacket packet).Owned :=
    @AppState.Owned.step _ _ hserves.owned (.tunPacket packet) rfl
  cases htaker : switch.state.taker packet with
  | none =>
    refine hserves.of_same ?_ howned fun index ↦ ⟨rfl, ?_, Iff.rfl⟩
    · exact congrArg AppState.connections (AppState.routePacket_dropped htaker)
    · rw [switchedTo_concat, htaker, if_neg (Ne.symm (Option.some_ne_none index)), List.append_nil]
  | some index =>
    obtain ⟨connection, outbox, hconnection, hsend, hroute⟩ := AppState.routePacket_taken htaker
    obtain ⟨found, hfound, haddressed, hassigned⟩ := hserves.owned.addressed htaker
    obtain rfl := Option.some.inj (hfound.symm.trans hconnection)
    have hswitched : (switch.record (switch.state.routePacket packet)
        (.tunPacket packet)).switchedTo index = switch.switchedTo index ++ [packet] := by
      rw [switchedTo_concat, htaker, if_pos rfl]
    refine hserves.of_put hconnection (congrArg AppState.connections hroute) howned
      (fun other hother ↦ ⟨rfl, ?_, Iff.rfl⟩) ?_ fun taken htaken ↦ ?_
    · rw [switchedTo_concat, htaker, if_neg fun h ↦ hother (Option.some.inj h).symm,
        List.append_nil]
    · rw [hswitched]
      exact (hserves.served index found hconnection).take hsend
    · rw [hswitched, List.mem_append, List.mem_singleton] at htaken
      obtain hold | rfl := htaken
      · exact hserves.addressed index found hconnection taken hold
      · exact ⟨haddressed, hassigned⟩

/-- A session takes a step, which runs once the `Welcome` was sent or closes the queue. -/
theorem Serves.session (hserves : switch.Serves) {action : SessionAction} {phase : Phase}
    {session : Session} (hruns : switch.runs (.session index action) = true)
    (hconnection : switch.state.connections[index]? = some connection)
    (hphase : connection.phase.next action = some phase)
    (hsession : connection.session.step action = some session)
    (howned : (switch.state.put index { connection with phase, session }).Owned) :
    (switch.record (switch.state.put index { connection with phase, session })
      (.session index action)).Serves := by
  obtain ⟨hserving, hafter⟩ := Phase.serves_next hphase
  obtain ⟨hpeer, -⟩ := Session.step_fixed hsession
  obtain ⟨hreceiver, hless, hsame, hwire⟩ := step_packets hsession
  have hsupplied := hserves.served index connection hconnection
  have hassigned : ∀ {other : Phase}, other.serves = true → other ≠ .admitted := by
    rintro _ h rfl
    exact absurd h Bool.false_ne_true
  have hquiet : index ∉ switch.welcomed →
      connection.session.arrived action = [] ∧ session.wire = connection.session.wire := by
    intro hwelcomed
    simp only [runs, hwelcomed, decide_false, Bool.or_false, decide_eq_true_iff] at hruns
    subst hruns
    obtain ⟨-, rfl⟩ := Session.step_shutdown hsession
    exact ⟨rfl, rfl⟩
  refine hserves.of_put hconnection rfl howned (fun other hother ↦ ⟨?_, rfl, Iff.rfl⟩) ?_
    fun packet hpacket ↦ ?_
  · rw [deliveredTo_session _ other hconnection, if_neg (Ne.symm hother), List.append_nil]
  · rw [deliveredTo_session _ index hconnection, if_pos rfl]
    exact hsupplied.proceed (hassigned hserving) hafter hpeer hquiet hreceiver hless hsame hwire
      (step_uplink hsession hsupplied.uplink)
  · obtain ⟨haddressed, -⟩ := hserves.addressed index connection hconnection packet hpacket
    refine ⟨?_, hassigned hafter⟩
    rw [Connection.Addressed, Connection.ip, hpeer]
    exact haddressed

/-- The `Welcome` of a connection is sent. -/
theorem Serves.welcome (hserves : switch.Serves)
    (hconnection : switch.state.connections[index]? = some connection)
    (hphase : connection.phase = .registered)
    (hchanged : changed = { connection with
      phase := .established
      session := { connection.session with
        wire := (connection.welcome.map Frame.welcome).toList } })
    (howned : (switch.state.put index changed).Owned) :
    (switch.record (switch.state.put index changed) (.sendWelcome index true)).Serves := by
  subst hchanged
  refine hserves.of_put hconnection rfl howned (fun other hother ↦ ⟨rfl, rfl, ?_⟩) ?_
    fun packet hpacket ↦ ?_
  · exact List.mem_cons.trans (or_iff_right hother)
  · exact (hserves.served index connection hconnection).welcome hphase List.mem_cons_self
  · obtain ⟨haddressed, -⟩ := hserves.addressed index connection hconnection packet hpacket
    exact ⟨haddressed, Phase.noConfusion⟩

theorem Serves.step (hserves : switch.Serves) {action : ServerAction}
    (hstep : switch.step action = some after) : after.Serves := by
  unfold Switch.step at hstep
  split_ifs at hstep with hruns
  obtain ⟨next, hnext, rfl⟩ := Option.map_eq_some_iff.mp hstep
  have howned : next.Owned := hserves.owned.step hnext
  have hroute : ∀ packet, action = .tunPacket packet → (switch.record next action).Serves := by
    rintro packet rfl
    obtain rfl := Option.some.inj hnext
    exact hserves.route packet
  cases AppState.stepped_of_step hnext with
  | reconfigure => exact hserves.of_same rfl howned fun _ ↦ ⟨rfl, rfl, Iff.rfl⟩
  | refused => exact hserves.of_same rfl howned fun _ ↦ ⟨rfl, rfl, Iff.rfl⟩
  | accepted => exact hserves.admit rfl howned
  | assign index sessionId connection hconnection hphase =>
    exact hserves.of_kept hconnection rfl howned (fun h ↦ h.assign hphase rfl) rfl
      (fun h ↦ absurd hphase h) fun h ↦ absurd hphase h
  | insert6 index connection hconnection hphase | insert4 index connection hconnection hphase
  | remove4 index connection hconnection hphase | remove6 index connection hconnection hphase =>
    refine hserves.of_kept hconnection rfl howned (fun h ↦ h.moved ?_ ?_ connection.session.reading)
      rfl ?_ fun _ ↦ rfl
    all_goals simp [hphase, Phase.serves]
  | dropped index connection hconnection hphase =>
    refine hserves.of_kept hconnection rfl howned (fun h ↦ h.moved ?_ ?_ false) rfl ?_ fun _ ↦ rfl
    all_goals simp [hphase, Phase.serves]
  | established index connection hconnection hphase =>
    exact hserves.welcome hconnection hphase rfl howned
  | session index action connection phase session hconnection hphase hsession =>
    exact hserves.session hruns hconnection hphase hsession howned
  | unrouted packet | routed packet => exact hroute packet rfl

end Switch

/-! ### The switch over a run -/

/-- The packet that a step reads off the TUN. -/
def ServerAction.readPacket : ServerAction → Option Bytes
  | .tunPacket packet => some packet
  | _ => none

/-- Every packet off the TUN is recorded, in order. -/
theorem Switch.step_switched {switch after : Switch} {action : ServerAction}
    (hstep : switch.step action = some after) :
    after.switched.map Prod.fst = switch.switched.map Prod.fst ++ action.readPacket.toList := by
  unfold Switch.step at hstep
  split_ifs at hstep
  obtain ⟨next, -, rfl⟩ := Option.map_eq_some_iff.mp hstep
  cases action with
  | tunPacket packet => exact List.map_append
  | sendWelcome index sent => cases sent <;> exact (List.append_nil _).symm
  | _ => exact (List.append_nil _).symm

/-- The server switches packets. Every packet off the TUN goes to one connection at most, which has
its destination for an address. What arrives at a client is its `Welcome` with its address, and of
packets those that its queue took, in order and each once; all of them have arrived or are on their
way as long as the queue is received from. What the client sends goes to the TUN in order, if the
session admits packets and there is a TUN, and nothing goes there otherwise. -/
theorem packets_switched (config : ServerConfig) (ipv6 hasTun : Bool)
    {actions : List ServerAction} {switch : Switch}
    (hrun : run Switch.step (.start config ipv6 hasTun) actions = some switch) :
    switch.switched.map Prod.fst = actions.filterMap ServerAction.readPacket ∧
      ∀ (index : ℕ) (connection : Connection),
        switch.state.connections[index]? = some connection →
          packetsOf (switch.deliveredTo index) <+: switch.switchedTo index ∧
          (connection.session.outbox.hasReceiver = true →
            packetsOf (switch.deliveredTo index ++ connection.session.wire) ++
              packetsOf connection.session.outbox.items = switch.switchedTo index) ∧
          (∀ packet ∈ switch.switchedTo index, connection.Addressed packet) ∧
          (switch.deliveredTo index = [] ∨ ∃ welcome, connection.welcome = some welcome ∧
            welcome.assignedIp = connection.ip ∧
              (switch.deliveredTo index).head? = some (.welcome welcome)) ∧
          connection.session.tunOut =
            if connection.session.admitsPackets ∧ connection.session.hasTun then
              packetsOf connection.session.received
            else [] := by
  have hserves : switch.Serves :=
    run_preserves (fun _ _ _ hserves hstep ↦ Switch.Serves.step hserves hstep) hrun
      (Switch.serves_start config ipv6 hasTun)
  refine ⟨?_, fun index connection hconnection ↦ ?_⟩
  · refine @run_records _ _ _ (fun taken (final : Switch) ↦
      final.switched.map Prod.fst = taken.filterMap ServerAction.readPacket) _ rfl ?_ _ _ hrun
    intro taken action before next _ htaken hstep
    rw [Switch.step_switched hstep, htaken, List.filterMap_append]
    cases action <;> rfl
  · have hsupplied := hserves.served index connection hconnection
    refine ⟨?_, hsupplied.whole, fun packet hpacket ↦
      (hserves.addressed index connection hconnection packet hpacket).1, ?_, hsupplied.uplink⟩
    · refine .trans ?_ hsupplied.order
      rw [packetsOf_append, List.append_assoc]
      exact List.prefix_append _ _
    · cases hdelivered : switch.deliveredTo index with
      | nil => exact .inl rfl
      | cons frame rest =>
        have hwelcomed : index ∈ switch.welcomed := by
          by_contra h
          exact absurd (hdelivered.symm.trans (hsupplied.before h).1) (List.cons_ne_nil frame rest)
        obtain ⟨welcome, hwelcome, hfirst⟩ := hsupplied.after hwelcomed
        rw [hdelivered] at hfirst
        exact .inr ⟨welcome, hwelcome, hsupplied.address welcome hwelcome, hfirst⟩

section Example

/-- An IPv4 packet of 20 bytes to the laptop, with a mark of its own. -/
def packetTo (mark : UInt8) : Bytes :=
  [0x45, mark, 0, 20, 0, 0, 0, 0, 64, 17, 0, 0, 1, 1, 1, 1, 10, 66, 0, 2]

/-- The laptop registers, and packets come for it before its `Welcome` was sent and after it. -/
def earlyPacketRun : List ServerAction :=
  [.connect (some (.hello (lanHello .vpn))), .assign 0 0, .insert6 0, .tunPacket (packetTo 0),
    .insert4 0, .tunPacket (packetTo 1), .sendWelcome 0 true, .tunPacket (packetTo 2),
    .session 0 .send, .session 0 .delivered, .session 0 .delivered, .session 0 .send]

/-- The first packet is dropped, and the second one comes after the `Welcome`. -/
theorem packets_switched_early : ∃ switch, run Switch.step (.start lanServer true true)
      earlyPacketRun = some switch ∧
    switch.switched = [(packetTo 0, none), (packetTo 1, some 0), (packetTo 2, some 0)] ∧
    packetsOf (switch.deliveredTo 0) = [packetTo 1] ∧
    switch.switched.map Prod.fst = [packetTo 0, packetTo 1, packetTo 2] ∧
    ∃ connection, switch.state.connections[0]? = some connection ∧
      packetsOf (switch.deliveredTo 0) <+: switch.switchedTo 0 ∧
      ∀ packet ∈ switch.switchedTo 0, connection.Addressed packet := by
  obtain ⟨switch, hrun, hswitch⟩ : ∃ switch,
      run Switch.step (.start lanServer true true) earlyPacketRun = some switch ∧
      (switch.switched = [(packetTo 0, none), (packetTo 1, some 0), (packetTo 2, some 0)] &&
        packetsOf (switch.deliveredTo 0) = [packetTo 1] &&
          switch.state.connections[0]?.isSome) = true :=
    Option.any_eq_true _ _ |>.mp (by decide +kernel)
  simp only [Bool.and_eq_true, decide_eq_true_iff] at hswitch
  obtain ⟨⟨hswitched, hdelivered⟩, hconnected⟩ := hswitch
  obtain ⟨connection, hconnection⟩ := Option.isSome_iff_exists.mp hconnected
  obtain ⟨hread, hsupplied⟩ := packets_switched lanServer true true hrun
  obtain ⟨harrived, -, haddressed, -⟩ := hsupplied 0 connection hconnection
  exact ⟨switch, hrun, hswitched, hdelivered, hread, connection, hconnection, harrived, haddressed⟩

end Example

end EntroTunnel.Server
