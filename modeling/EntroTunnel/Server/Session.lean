import EntroTunnel.Foundation.PartialRun
import EntroTunnel.Server.RemoteStream
import EntroTunnel.Server.Router

/-!
# One session

`handle_connection` of `server/src/session.rs` from the `Welcome` on: the reader loop, the writer
task and the streams. The reader loop answers into the session's queue without waiting for room, and
hands stream data on in the same way. The writer task moves frames from the queue to the link.
`wire` holds what was written to the link and not yet received by the client. `streams` maps an id
to the number of its stream; a stream that is no longer in it goes on until its queue has ended.

The answer to `GetPeers` comes from the router and is given to the step (`Router.peerInfos`).
`received` records the frames of the reader loop, and `tunOut` the packets handed to the TUN.
-/

set_option autoImplicit false
set_option relaxedAutoImplicit false

namespace EntroTunnel.Server

open EntroTunnel.Core EntroTunnel.Foundation

/-- Capacity of a session's queue. -/
def sessionCapacity : ℕ := 1024

/-- A session. -/
structure Session where
  peer : PeerConfig
  hello : Hello
  hasTun : Bool
  outbox : Channel Frame sessionCapacity
  wire : List Frame
  reading : Bool
  streams : AList fun _ : StreamId ↦ ℕ
  remotes : List RemoteStream
  received : List Frame
  tunOut : List Bytes
  deriving DecidableEq

/-- A step of a session. -/
inductive SessionAction
  | receive (frame : Frame) (peers : List PeerInfo)
  | send
  | remote (index : ℕ) (action : RemoteAction)
  | delivered
  | sendFailed
  | disconnect
  | shutdown
  deriving DecidableEq, Repr

namespace Session

/-- A session after its `Welcome`. -/
def start (peer : PeerConfig) (hello : Hello) (hasTun : Bool) : Session where
  peer := peer
  hello := hello
  hasTun := hasTun
  outbox := Channel.empty
  wire := []
  reading := true
  streams := ∅
  remotes := []
  received := []
  tunOut := []

/-- Native packet modes, and any session that joined the VPN. -/
def admitsPackets (session : Session) : Bool :=
  !session.hello.mode.isStream || vpnMember session.hello

/-- Apply a change to the stream with the id, if the session has one. -/
def modifyStream (session : Session) (id : StreamId) (change : RemoteStream → RemoteStream) :
    List RemoteStream :=
  match session.streams.lookup id with
  | some index => session.remotes.modify index change
  | none => session.remotes

/-- Take a stream out of the table, which drops the session's end of its queue. -/
def dropStream (session : Session) (id : StreamId) : Session :=
  { session with
    streams := session.streams.erase id
    remotes := session.modifyStream id RemoteStream.dropSender }

/-- Open a stream; one with the same id loses its place. -/
def openStream (session : Session) (id : StreamId) (target : TargetAddr) : Session :=
  { session with
    streams := session.streams.insert id session.remotes.length
    remotes := session.modifyStream id RemoteStream.dropSender ++
      [.start id target session.received.length] }

/-- One frame of the reader loop. -/
def handle (session : Session) (peers : List PeerInfo) : Frame → Session
  | .packet bytes =>
    if session.admitsPackets ∧ session.hasTun then
      { session with tunOut := session.tunOut ++ [bytes] }
    else session
  | .ping => { session with outbox := session.outbox.offer .pong }
  | .getPeers => { session with outbox := session.outbox.offer (.peerList peers) }
  | .streamOpen id target =>
    if session.peer.allowHttpProxy then session.openStream id target
    else
      { session with
        outbox := session.outbox.offer
          (.streamClose id (some "http proxy not allowed for this peer")) }
  | .streamData id data => { session with remotes := session.modifyStream id (·.push data) }
  | .streamClose id _ => session.dropStream id
  | _ => session

/-- One step. -/
def step (session : Session) : SessionAction → Option Session
  | .receive frame peers =>
    if session.reading then
      some ({ session with received := session.received ++ [frame] }.handle peers frame)
    else none
  | .send =>
    match session.outbox.recv with
    | .item frame rest => some { session with outbox := rest, wire := session.wire ++ [frame] }
    | _ => none
  | .remote index action =>
    match session.remotes[index]? with
    | some stream =>
      match stream.step session.outbox.hasReceiver action with
      -- A frame waits for room in the queue, and the step with it.
      | some (next, frame) =>
        (session.outbox.put frame).map fun outbox ↦
          { session with outbox, remotes := session.remotes.set index next }
      | none => none
    | none => none
  | .delivered =>
    match session.wire with
    | _ :: rest => some { session with wire := rest }
    | [] => none
  | .sendFailed =>
    if session.outbox.items ≠ [] then
      some { session with outbox := session.outbox.dropReceiver }
    else none
  | .disconnect => if session.reading then some { session with reading := false } else none
  -- The writer task is aborted, and the table goes out of scope.
  | .shutdown =>
    if session.reading then none
    else
      some { session with
        outbox := session.outbox.dropReceiver
        streams := ∅
        remotes := session.remotes.map RemoteStream.dropSender }

/-! ### What a step changes -/

section Steps

variable {session next : Session}

/-- Reading a frame changes the queue, the streams and the TUN only. -/
theorem handle_frame (session : Session) (peers : List PeerInfo) (frame : Frame) :
    (session.handle peers frame).peer = session.peer ∧
      (session.handle peers frame).hello = session.hello ∧
      (session.handle peers frame).hasTun = session.hasTun ∧
      (session.handle peers frame).received = session.received ∧
      (session.handle peers frame).reading = session.reading ∧
      (session.handle peers frame).wire = session.wire := by
  unfold handle
  split <;> (try split_ifs) <;> exact ⟨rfl, rfl, rfl, rfl, rfl, rfl⟩

theorem step_receive {frame : Frame} {peers : List PeerInfo}
    (hstep : session.step (.receive frame peers) = some next) :
    session.reading = true ∧
      next = { session with received := session.received ++ [frame] }.handle peers frame := by
  simp only [step] at hstep
  split_ifs at hstep with hreading
  exact ⟨hreading, (Option.some.inj hstep).symm⟩

theorem step_send (hstep : session.step .send = some next) :
    ∃ frame rest, session.outbox.recv = .item frame rest ∧
      next = { session with outbox := rest, wire := session.wire ++ [frame] } := by
  simp only [step] at hstep
  split at hstep
  · rename_i frame rest hrecv
    exact ⟨frame, rest, hrecv, (Option.some.inj hstep).symm⟩
  · exact absurd hstep nofun

theorem step_remote {index : ℕ} {action : RemoteAction}
    (hstep : session.step (.remote index action) = some next) :
    ∃ stream streamNext frame outbox, session.remotes[index]? = some stream ∧
      stream.step session.outbox.hasReceiver action = some (streamNext, frame) ∧
        session.outbox.put frame = some outbox ∧
          next = { session with outbox, remotes := session.remotes.set index streamNext } := by
  simp only [step] at hstep
  split at hstep
  · rename_i stream hstream
    split at hstep
    · rename_i streamNext frame hstreamStep
      obtain ⟨outbox, hput, rfl⟩ := Option.map_eq_some_iff.mp hstep
      exact ⟨stream, streamNext, frame, outbox, hstream, hstreamStep, hput, rfl⟩
    · exact absurd hstep nofun
  · exact absurd hstep nofun

theorem step_delivered (hstep : session.step .delivered = some next) :
    ∃ frame rest, session.wire = frame :: rest ∧ next = { session with wire := rest } := by
  simp only [step] at hstep
  split at hstep
  · rename_i frame rest hwire
    exact ⟨frame, rest, hwire, (Option.some.inj hstep).symm⟩
  · exact absurd hstep nofun

theorem step_sendFailed (hstep : session.step .sendFailed = some next) :
    next = { session with outbox := session.outbox.dropReceiver } := by
  simp only [step] at hstep
  split_ifs at hstep
  exact (Option.some.inj hstep).symm

theorem step_disconnect (hstep : session.step .disconnect = some next) :
    session.reading = true ∧ next = { session with reading := false } := by
  simp only [step] at hstep
  split_ifs at hstep with hreading
  exact ⟨hreading, (Option.some.inj hstep).symm⟩

theorem step_shutdown (hstep : session.step .shutdown = some next) :
    session.reading = false ∧
      next = { session with
        outbox := session.outbox.dropReceiver
        streams := ∅
        remotes := session.remotes.map RemoteStream.dropSender } := by
  simp only [step] at hstep
  split_ifs at hstep with hreading
  exact ⟨Bool.eq_false_iff.mpr hreading, (Option.some.inj hstep).symm⟩

/-- No step changes whose session it is. -/
theorem step_fixed {action : SessionAction} (hstep : session.step action = some next) :
    next.peer = session.peer ∧ next.hello = session.hello ∧ next.hasTun = session.hasTun := by
  cases action with
  | receive frame peers =>
    obtain ⟨-, rfl⟩ := step_receive hstep
    obtain ⟨hpeer, hhello, hhasTun, -⟩ :=
      handle_frame { session with received := session.received ++ [frame] } peers frame
    exact ⟨hpeer, hhello, hhasTun⟩
  | send =>
    obtain ⟨_, _, -, rfl⟩ := step_send hstep
    exact ⟨rfl, rfl, rfl⟩
  | remote index action =>
    obtain ⟨_, _, _, _, -, -, -, rfl⟩ := step_remote hstep
    exact ⟨rfl, rfl, rfl⟩
  | delivered =>
    obtain ⟨_, _, -, rfl⟩ := step_delivered hstep
    exact ⟨rfl, rfl, rfl⟩
  | sendFailed =>
    obtain rfl := step_sendFailed hstep
    exact ⟨rfl, rfl, rfl⟩
  | disconnect =>
    obtain ⟨-, rfl⟩ := step_disconnect hstep
    exact ⟨rfl, rfl, rfl⟩
  | shutdown =>
    obtain ⟨-, rfl⟩ := step_shutdown hstep
    exact ⟨rfl, rfl, rfl⟩

end Steps

end Session

end EntroTunnel.Server
