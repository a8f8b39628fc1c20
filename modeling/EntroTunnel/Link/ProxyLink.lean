import EntroTunnel.Client.ProxyClient
import EntroTunnel.Server.Session

/-!
# One HTTP-proxy link

The client and the server's session of one link, with the frames in flight between them. Frames
arrive in the order in which they were written. The link itself stays up: the writer and reader
loops of both sides run, and what may fail is a dial, a local socket or a remote socket.

The server's packet router shares the session's queue, and drops a packet that finds no room.

A step is internal when a task of the client or the server takes it; applications, remote hosts, the
network, timers and the router take the others. A link is quiescent when no internal step is
possible.
-/

set_option autoImplicit false
set_option relaxedAutoImplicit false

namespace EntroTunnel.Link

open EntroTunnel.Core EntroTunnel.Foundation EntroTunnel.Client EntroTunnel.Server

/-- Both ends of a link. -/
structure ProxyLink where
  client : ProxyClient
  session : Session
  deriving DecidableEq

/-- A step of a link. -/
inductive LinkAction
  | client (action : ClientAction)
  | sessionSend
  | remote (index : ℕ) (action : RemoteAction)
  | toServer (peers : List PeerInfo)
  | toClient
  | deliver (packet : Bytes)
  deriving DecidableEq, Repr

namespace LinkAction

/-- Taken by a task of the client or the server. -/
def Internal : LinkAction → Bool
  | .client (.conn _ action) => !action.External
  | .client .send | .client .hand | .client .pong => true
  | .client _ => false
  | .remote _ action => !action.External
  | .sessionSend | .toServer _ | .toClient => true
  | .deliver _ => false

end LinkAction

namespace ProxyLink

/-- A link after the `Welcome`. -/
def start (peer : PeerConfig) (hello : Hello) (hasTun : Bool) : ProxyLink :=
  ⟨.start, .start peer hello hasTun⟩

/-- One step. -/
def step (link : ProxyLink) : LinkAction → Option ProxyLink
  | .client (.receive _) => none
  | .client action => (link.client.step action).map fun client ↦ { link with client }
  | .sessionSend => (link.session.step .send).map fun session ↦ { link with session }
  | .remote index action =>
    (link.session.step (.remote index action)).map fun session ↦ { link with session }
  | .toServer peers =>
    match link.client.wire with
    | frame :: rest =>
      (link.session.step (.receive frame peers)).map fun session ↦
        ⟨{ link.client with wire := rest }, session⟩
    | [] => none
  | .toClient =>
    match link.session.wire with
    | frame :: rest =>
      (link.client.step (.receive frame)).map fun client ↦
        ⟨client, { link.session with wire := rest }⟩
    | [] => none
  | .deliver packet =>
    some { link with
      session := { link.session with outbox := link.session.outbox.offer (.packet packet) } }

/-- No task of either side can step. -/
def Quiescent (link : ProxyLink) : Prop :=
  ∀ action, action.Internal = true → link.step action = none

section Steps

variable {link next : ProxyLink}

theorem step_client {action : ClientAction} (hstep : link.step (.client action) = some next) :
    (∀ frame, action ≠ .receive frame) ∧ ∃ client, link.client.step action = some client ∧
      next = { link with client } := by
  cases action with
  | receive frame => exact absurd hstep nofun
  | _ =>
    simp only [step] at hstep
    obtain ⟨client, hclient, rfl⟩ := Option.map_eq_some_iff.mp hstep
    exact ⟨by simp, client, hclient, rfl⟩

theorem step_sessionSend (hstep : link.step .sessionSend = some next) :
    ∃ session, link.session.step .send = some session ∧ next = { link with session } := by
  obtain ⟨session, hsession, rfl⟩ := Option.map_eq_some_iff.mp hstep
  exact ⟨session, hsession, rfl⟩

theorem step_linkRemote {index : ℕ} {action : RemoteAction}
    (hstep : link.step (.remote index action) = some next) :
    ∃ session, link.session.step (.remote index action) = some session ∧
      next = { link with session } := by
  obtain ⟨session, hsession, rfl⟩ := Option.map_eq_some_iff.mp hstep
  exact ⟨session, hsession, rfl⟩

theorem step_toServer {peers : List PeerInfo} (hstep : link.step (.toServer peers) = some next) :
    ∃ frame rest session, link.client.wire = frame :: rest ∧
      link.session.step (.receive frame peers) = some session ∧
        next = ⟨{ link.client with wire := rest }, session⟩ := by
  simp only [step] at hstep
  split at hstep
  · rename_i frame rest hwire
    obtain ⟨session, hsession, rfl⟩ := Option.map_eq_some_iff.mp hstep
    exact ⟨frame, rest, session, hwire, hsession, rfl⟩
  · exact absurd hstep nofun

theorem step_toClient (hstep : link.step .toClient = some next) :
    ∃ frame rest, link.session.wire = frame :: rest ∧ link.client.reader = .idle ∧
      next = ⟨link.client.demux frame, { link.session with wire := rest }⟩ := by
  simp only [step] at hstep
  split at hstep
  · rename_i frame rest hwire
    obtain ⟨client, hclient, rfl⟩ := Option.map_eq_some_iff.mp hstep
    obtain ⟨hreader, rfl⟩ := ProxyClient.step_clientReceive hclient
    exact ⟨frame, rest, hwire, hreader, rfl⟩
  · exact absurd hstep nofun

end Steps

end ProxyLink

end EntroTunnel.Link
