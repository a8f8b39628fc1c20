import EntroTunnel.Client.Carrier
import EntroTunnel.Server.Session

/-!
# A hop that carries the next one

The carrier tasks of the client, the hop's session, and the frames in flight between them. A tunnel
is taken as a link of frames in both directions, whatever carries it: the first hop's is a network
connection, that of a later hop runs through the carrier of the hop before. A side that closes its
writing direction lets the other read what is in flight and then the end.

A step is internal when a task of the client or the server takes it, or the link delivers. The
network, the next hop's transport, remote hosts and the router take the others.
-/

set_option autoImplicit false
set_option relaxedAutoImplicit false

namespace EntroTunnel.Link

open EntroTunnel.Core EntroTunnel.Foundation EntroTunnel.Client EntroTunnel.Server

/-- Both ends of the tunnel to a hop. `up` was written by the client and not yet received by the
server. -/
structure Hop where
  carrier : Carrier
  up : List Frame
  session : Session
  deriving DecidableEq

/-- A step of a hop. -/
inductive HopAction
  | carrier (action : CarrierAction)
  | toServer (peers : List PeerInfo)
  | toClient
  | clientEof
  | clientLost
  | serverEof
  | serverLost
  | sessionSend
  | sendFailed
  | remote (index : ℕ) (action : RemoteAction)
  | shutdown
  | deliver (packet : Bytes)
  deriving DecidableEq, Repr

namespace HopAction

/-- Taken by a task of the client or the server, or by the link. -/
def Internal : HopAction → Bool
  | .carrier action => !action.External
  | .remote _ action => !action.External
  | .toServer _ | .toClient | .clientEof | .serverEof | .sessionSend | .shutdown => true
  | .clientLost | .serverLost | .sendFailed | .deliver _ => false

end HopAction

namespace Hop

/-- A hop whose session has just begun and whose carrier has just been opened. -/
def start (peer : PeerConfig) (hello : Hello) (hasTun : Bool) (target : TargetAddr) : Hop :=
  ⟨.start target, [], .start peer hello hasTun⟩

/-- The session does something by itself. -/
def sessionStep (hop : Hop) (action : SessionAction) : Option Hop :=
  (hop.session.step action).map fun session ↦ { hop with session }

/-- The downlink receives, or fails to. -/
def receive (hop : Hop) (action : CarrierAction) : Option Hop :=
  (hop.carrier.step false action).map fun result ↦ { hop with carrier := result.1 }

/-- One step. -/
def step (cancelled : Bool) (hop : Hop) : HopAction → Option Hop
  | .carrier (.receive _) => none
  | .carrier .receiveFailed => none
  | .carrier action =>
    (hop.carrier.step cancelled action).map fun result ↦
      { hop with carrier := result.1, up := hop.up ++ result.2.toList }
  | .toServer peers =>
    match hop.up with
    | frame :: rest => { hop with up := rest }.sessionStep (.receive frame peers)
    | [] => none
  | .toClient =>
    match hop.session.wire with
    | frame :: rest =>
      { hop with session := { hop.session with wire := rest } }.receive (.receive frame)
    | [] => none
  | .clientEof =>
    if hop.session.wire = [] ∧ hop.session.outbox.hasReceiver = false then
      hop.receive .receiveFailed
    else none
  | .clientLost => hop.receive .receiveFailed
  | .serverEof =>
    if hop.up = [] ∧ hop.carrier.pump = .ended then hop.sessionStep .disconnect else none
  | .serverLost => hop.sessionStep .disconnect
  | .sessionSend => hop.sessionStep .send
  | .sendFailed => hop.sessionStep .sendFailed
  | .remote index action => hop.sessionStep (.remote index action)
  -- Without the writer task a shutdown has happened, or changes nothing that the client can see.
  | .shutdown => if hop.session.outbox.hasReceiver then hop.sessionStep .shutdown else none
  | .deliver packet =>
    some { hop with
      session := { hop.session with outbox := hop.session.outbox.offer (.packet packet) } }

/-- No task of either side can step, and the link has nothing to deliver. -/
def Quiescent (cancelled : Bool) (hop : Hop) : Prop :=
  ∀ action, action.Internal = true → hop.step cancelled action = none

/-- No task of the carrier runs, and the session is over. -/
structure Released (hop : Hop) : Prop where
  pump : hop.carrier.pump = .ended
  uplink : hop.carrier.uplink = .ended
  downlink : hop.carrier.downlink = .ended
  reading : hop.session.reading = false
  writing : hop.session.outbox.hasReceiver = false

/-! ### What a step does -/

/-- What a step of a hop is: a step of the carrier, of the session, or of both. -/
inductive Stepped (cancelled : Bool) (hop : Hop) : HopAction → Hop → Prop
  | carrier (action : CarrierAction) (next : Carrier) (frame : Option Frame)
    (hreceive : ∀ frame, action ≠ .receive frame) (hfailed : action ≠ .receiveFailed)
    (hcarrier : hop.carrier.Stepped cancelled action next frame) :
    Stepped cancelled hop (.carrier action)
      { hop with carrier := next, up := hop.up ++ frame.toList }
  | toServer (peers : List PeerInfo) (frame : Frame) (rest : List Frame) (session : Session)
    (hup : hop.up = frame :: rest)
    (hsession : hop.session.step (.receive frame peers) = some session) :
    Stepped cancelled hop (.toServer peers) { hop with up := rest, session }
  | toClient (frame : Frame) (rest : List Frame) (hwire : hop.session.wire = frame :: rest)
    (hdownlink : hop.carrier.downlink = .receiving) :
    Stepped cancelled hop .toClient
      { hop with
        carrier := hop.carrier.demux frame
        session := { hop.session with wire := rest } }
  | lost (action : HopAction) (haction : action = .clientEof ∨ action = .clientLost)
    (hdownlink : hop.carrier.downlink = .receiving) :
    Stepped cancelled hop action { hop with carrier := hop.carrier.endDownlink }
  | session (action : HopAction) (sessionAction : SessionAction) (session : Session)
    (hreceive : ∀ frame peers, sessionAction ≠ .receive frame peers)
    (hdelivered : sessionAction ≠ .delivered)
    (hsession : hop.session.step sessionAction = some session) :
    Stepped cancelled hop action { hop with session }
  | deliver (packet : Bytes) :
    Stepped cancelled hop (.deliver packet)
      { hop with
        session := { hop.session with outbox := hop.session.outbox.offer (.packet packet) } }

variable {cancelled : Bool} {hop next : Hop} {action : HopAction}

theorem stepped_of_sessionStep {sessionAction : SessionAction}
    (hstep : hop.sessionStep sessionAction = some next)
    (hreceive : ∀ frame peers, sessionAction ≠ .receive frame peers)
    (hdelivered : sessionAction ≠ .delivered) : hop.Stepped cancelled action next := by
  obtain ⟨session, hsession, rfl⟩ := Option.map_eq_some_iff.mp hstep
  exact .session action sessionAction session hreceive hdelivered hsession

theorem receive_failed (hstep : hop.receive .receiveFailed = some next) :
    hop.carrier.downlink = .receiving ∧ next = { hop with carrier := hop.carrier.endDownlink } := by
  obtain ⟨result, hcarrier, rfl⟩ := Option.map_eq_some_iff.mp hstep
  have hstepped := Carrier.stepped_of_step hcarrier
  obtain ⟨carrier, frame⟩ := result
  cases hstepped with
  | receiveFailed hdownlink => exact ⟨hdownlink, rfl⟩

theorem stepped_of_step (hstep : hop.step cancelled action = some next) :
    hop.Stepped cancelled action next := by
  cases action with
  | carrier action =>
    have htaken : (∀ frame, action ≠ .receive frame) ∧ action ≠ .receiveFailed ∧
        (hop.carrier.step cancelled action).map (fun result ↦
          { hop with carrier := result.1, up := hop.up ++ result.2.toList }) = some next := by
      cases action with
      | receive frame => exact absurd hstep (by simp [step])
      | receiveFailed => exact absurd hstep (by simp [step])
      | _ => exact ⟨by simp, by simp, hstep⟩
    obtain ⟨hreceive, hfailed, hmap⟩ := htaken
    obtain ⟨⟨carrier, frame⟩, hcarrier, rfl⟩ := Option.map_eq_some_iff.mp hmap
    exact .carrier action carrier frame hreceive hfailed (Carrier.stepped_of_step hcarrier)
  | toServer peers =>
    simp only [step] at hstep
    split at hstep
    · rename_i frame rest hup
      obtain ⟨session, hsession, rfl⟩ := Option.map_eq_some_iff.mp hstep
      exact .toServer peers frame rest session hup hsession
    · exact absurd hstep nofun
  | toClient =>
    simp only [step] at hstep
    split at hstep
    · rename_i frame rest hwire
      obtain ⟨⟨carrier, sent⟩, hcarrier, rfl⟩ := Option.map_eq_some_iff.mp hstep
      cases Carrier.stepped_of_step hcarrier with
      | receive frame hdownlink => exact .toClient frame rest hwire hdownlink
    · exact absurd hstep nofun
  | clientEof =>
    simp only [step] at hstep
    split_ifs at hstep
    obtain ⟨hdownlink, rfl⟩ := receive_failed hstep
    exact .lost _ (.inl rfl) hdownlink
  | clientLost =>
    obtain ⟨hdownlink, rfl⟩ := receive_failed hstep
    exact .lost _ (.inr rfl) hdownlink
  | serverEof =>
    simp only [step] at hstep
    split_ifs at hstep
    exact stepped_of_sessionStep hstep (fun _ _ ↦ nofun) nofun
  | serverLost | sessionSend | sendFailed | remote index action =>
    exact stepped_of_sessionStep hstep (fun _ _ ↦ nofun) nofun
  | shutdown =>
    simp only [step] at hstep
    split_ifs at hstep
    exact stepped_of_sessionStep hstep (fun _ _ ↦ nofun) nofun
  | deliver packet =>
    obtain rfl := Option.some.inj hstep
    exact .deliver packet

/-- The ends of the queue stay in order. -/
theorem wellFormed_step (hwf : hop.carrier.WellFormed) (hstep : hop.Stepped cancelled action next) :
    next.carrier.WellFormed := by
  cases hstep with
  | carrier _ _ _ _ _ hcarrier => exact hwf.step hcarrier
  | toServer | session | deliver => exact hwf
  | toClient frame _ _ hdownlink => exact hwf.demux hdownlink frame
  | lost _ _ hdownlink => exact hwf.endDownlink (by simp [hdownlink])

theorem Quiescent.quiet (hquiet : hop.Quiescent cancelled) : hop.carrier.Quiet cancelled := by
  intro action hexternal
  have hnone := hquiet (.carrier action) (by simp [HopAction.Internal, hexternal])
  cases action <;> first | exact Option.map_eq_none_iff.mp hnone | exact absurd hexternal nofun

/-! ### Where a hop waits -/

/-- A stream whose tasks are over or wait for the session or the remote host. -/
def idleStream (stream : RemoteStream) : Bool :=
  (match stream.relay, stream.inbox.recv with
    | .dialing, _ | .ended, _ | .waiting, .waiting => true
    | _, _ => false) &&
  match stream.down with
  | .absent | .finished | .aborted => true
  | .reading => stream.inbound = [] && !stream.inboundEof && !stream.reset
  | _ => false

theorem step_idleStream {listening : Bool} {stream : RemoteStream}
    (hidle : idleStream stream = true)
    {action : RemoteAction} (hinternal : action.External = false) :
    stream.step listening action = none := by
  simp only [idleStream, Bool.and_eq_true] at hidle
  obtain ⟨hrelay, hdown⟩ := hidle
  by_contra hsome
  obtain ⟨⟨next, frame⟩, hstep⟩ := Option.ne_none_iff_exists'.mp hsome
  cases RemoteStream.stepped_of_step hstep with
  | dialed | dialFailed | writeFailed | remoteSends | remoteCloses | remoteResets =>
    simp [RemoteAction.External] at hinternal
  | refuse _ hphase | write _ _ hphase | written hphase => simp [hphase] at hrelay
  | take _ _ hphase hrecv | finish hphase hrecv => simp [hphase, hrecv] at hrelay
  | read count hphase hcount _ hlength =>
    rw [hphase] at hdown
    have hempty : stream.inbound = [] := by
      simp only [Bool.and_eq_true, decide_eq_true_iff] at hdown
      exact hdown.1.1
    rw [hempty, List.length_nil] at hlength
    omega
  | readEof hphase _ heof => simp [hphase, heof] at hdown
  | readFailed hphase hreset => simp [hphase, hreset] at hdown
  | forward _ hphase | forwardFailed _ hphase | close hphase => simp [hphase] at hdown

/-- Every task of a hop is over or waits for the near end, the network or a remote host. -/
def idle (cancelled : Bool) (hop : Hop) : Bool :=
  (hop.carrier.pump = .ended || (hop.carrier.pump = .waiting && hop.carrier.out.items = [] &&
    hop.carrier.out.hasSender && !cancelled)) &&
  (hop.carrier.uplink = .ended || (hop.carrier.uplink = .reading && hop.carrier.toFar = [] &&
    hop.carrier.near = .opened && !cancelled)) &&
  (hop.carrier.downlink = .ended || (hop.carrier.downlink = .receiving && hop.session.wire = [] &&
    hop.session.outbox.hasReceiver && !cancelled)) &&
  (if hop.session.reading then hop.up = [] && hop.carrier.pump ≠ .ended
    else !hop.session.outbox.hasReceiver) &&
  hop.session.outbox.items = [] && hop.session.remotes.all idleStream

theorem quiet_of_idle {cancelled : Bool} {hop : Hop} (hidle : hop.idle cancelled = true) :
    hop.carrier.Quiet cancelled := by
  simp only [idle, Bool.and_eq_true, Bool.or_eq_true, decide_eq_true_iff,
    Bool.not_eq_true'] at hidle
  obtain ⟨⟨⟨⟨⟨hpump, huplink⟩, hdownlink⟩, -⟩, -⟩, -⟩ := hidle
  intro action hexternal
  by_contra hsome
  obtain ⟨⟨next, frame⟩, hstep⟩ := Option.ne_none_iff_exists'.mp hsome
  cases Carrier.stepped_of_step hstep with
  | sendFailed | receive | receiveFailed | nearWrites | nearReads | nearShuts | nearDrops =>
    simp [CarrierAction.External] at hexternal
  | take frame rest hphase hrecv =>
    have hitems := (Channel.recv_eq_item hrecv).1
    simp [hphase, hitems] at hpump
  | takeEnd hphase hrecv =>
    have hsender := (Channel.recv_eq_ended hrecv).2
    simp [hphase, hsender] at hpump
  | sent _ hphase | closed hphase => simp [hphase] at hpump
  | cancelPump hcancelled hphase => simp [hphase, hcancelled] at hpump
  | read count hphase hcount hlength =>
    have hempty : hop.carrier.toFar = [] := by
      refine (huplink.resolve_left (by simp [hphase])).1.1.2
    rw [hempty, List.length_nil] at hlength
    omega
  | readEof hphase _ hnear => simp [hphase, hnear] at huplink
  | queue _ _ hphase | queueFailed _ hphase | close _ hphase | closeFailed hphase =>
    simp [hphase] at huplink
  | cancelUplink hcancelled hphase => simp [hphase, hcancelled] at huplink
  | write _ _ hphase | written hphase | writeFailed _ _ hphase | pong _ hphase
  | pongFailed hphase => simp [hphase] at hdownlink
  | cancelDownlink hcancelled hphase => simp [hphase, hcancelled] at hdownlink

/-- An idle hop is quiescent. -/
theorem quiescent_of_idle {cancelled : Bool} {hop : Hop} (hidle : hop.idle cancelled = true) :
    hop.Quiescent cancelled := by
  have hquiet := quiet_of_idle hidle
  simp only [idle, Bool.and_eq_true, Bool.or_eq_true, decide_eq_true_iff,
    Bool.not_eq_true'] at hidle
  obtain ⟨⟨⟨⟨-, hdownlink⟩, hsession⟩, hitems⟩, hremotes⟩ := hidle
  intro action hinternal
  cases action with
  | carrier action =>
    have hnone := hquiet action (by simpa [HopAction.Internal] using hinternal)
    cases action <;> first | rfl | exact congrArg (Option.map _) hnone
  | toServer peers =>
    by_cases hreading : hop.session.reading = true
    · rw [if_pos hreading] at hsession
      simp only [Bool.and_eq_true, decide_eq_true_iff] at hsession
      simp [step, hsession.1]
    · cases hup : hop.up <;> simp [step, hup, sessionStep, Session.step, hreading]
  | toClient =>
    cases hwire : hop.session.wire with
    | nil => simp [step, hwire]
    | cons frame rest =>
      simp only [hwire] at hdownlink
      have hended : hop.carrier.downlink = .ended := hdownlink.resolve_right (by simp)
      simp [step, hwire, receive, Carrier.step, hended]
  | clientEof =>
    obtain hended | hwaiting := hdownlink
    · simp [step, receive, Carrier.step, hended]
    · simp [step, hwaiting.1.2]
  | serverEof =>
    by_cases hreading : hop.session.reading = true
    · rw [if_pos hreading] at hsession
      simp only [Bool.and_eq_true, decide_eq_true_iff] at hsession
      simp [step, hsession.2]
    · simp [step, sessionStep, Session.step, hreading]
  | sessionSend =>
    cases hrecv : hop.session.outbox.recv with
    | item frame rest => cases (Channel.recv_eq_item hrecv).1.symm.trans hitems
    | ended | waiting => simp [step, sessionStep, Session.step, hrecv]
  | remote index action =>
    simp only [step, sessionStep, Session.step, Option.map_eq_none_iff]
    split
    · rename_i stream hstream
      have hidleStream := List.all_eq_true.mp hremotes stream (List.mem_of_getElem? hstream)
      rw [step_idleStream hidleStream (by simpa [HopAction.Internal] using hinternal)]
    · rfl
  | shutdown =>
    by_cases hreading : hop.session.reading = true
    · simp [step, sessionStep, Session.step, hreading]
    · rw [if_neg hreading] at hsession
      simp only [Bool.not_eq_true'] at hsession
      simp [step, hsession]
  | clientLost | serverLost | sendFailed | deliver => cases hinternal

end Hop

end EntroTunnel.Link
