import EntroTunnel.Link.ProxyLink

/-!
# One stream of a link

What a link holds of a single stream: the local connection with its place in the client's table, the
frames of the stream on their way to the server, the server's table entry and remote stream, the
frames on their way back, and the message that the reader loop holds for the handler. `Step` says
how these change when a task acts on the stream. Steps of the link that concern other streams, and
the moves of a frame from a queue to the wire, do not show here.

The protocol of a stream is studied on this abstraction; `Link/Projection` shows that every step of
a link is, for each of its streams, one of these steps or none.
-/

set_option autoImplicit false
set_option relaxedAutoImplicit false

namespace EntroTunnel.Link

open EntroTunnel.Core EntroTunnel.Foundation EntroTunnel.Client EntroTunnel.Server

/-- A stream with its frames in flight. -/
@[ext]
structure StreamView where
  conn : LocalConn
  registered : Bool
  up : List Frame
  inTable : Bool
  remote : Option RemoteStream
  down : List Frame
  held : Option ToLocal

/-- Who acts on a stream: a task of the local connection or of the remote stream, the session's
reader loop, which may find `room` for an answer, or the client's reader loop. -/
inductive StreamLabel
  | conn (action : LocalAction)
  | remote (action : RemoteAction)
  | arrive (room : Bool)
  | demux
  | hand

/-- The refusal of a stream by a server that does not proxy for the peer. -/
def notAllowed (id : StreamId) : Frame :=
  .streamClose id (some "http proxy not allowed for this peer")

namespace StreamView

/-- The effect of a step of the local connection. -/
def affected (view : StreamView) (conn : LocalConn) : LocalEffect → StreamView
  | .none => { view with conn }
  | .register => { view with conn, registered := true }
  | .unregister => { view with conn, registered := false }
  | .emit frame => { view with conn, up := view.up ++ [frame] }

/-- One step of a stream; `allow` says whether the peer may use the proxy. -/
inductive Step (allow : Bool) (view : StreamView) : StreamLabel → StreamView → Prop
  | conn {action : LocalAction} {next : LocalConn} {effect : LocalEffect}
    (hstep : view.conn.Stepped action next effect) :
    Step allow view (.conn action) (view.affected next effect)
  | remote {action : RemoteAction} {stream next : RemoteStream} {frame : Option Frame}
    (hremote : view.remote = some stream) (hstep : stream.Stepped true action next frame) :
    Step allow view (.remote action)
      { view with remote := some next, down := view.down ++ frame.toList }
  | opened {room : Bool} (target : TargetAddr) (rest : List Frame) (place : ℕ)
    (hup : view.up = .streamOpen view.conn.id target :: rest) (hallow : allow = true) :
    Step allow view (.arrive room)
      { view with
        up := rest
        inTable := true
        remote := some (.start view.conn.id target place) }
  | refused {room : Bool} (target : TargetAddr) (rest : List Frame)
    (hup : view.up = .streamOpen view.conn.id target :: rest) (hallow : allow = false) :
    Step allow view (.arrive room)
      { view with
        up := rest
        down := view.down ++ if room then [notAllowed view.conn.id] else [] }
  | data {room : Bool} (bytes : Bytes) (rest : List Frame)
    (hup : view.up = .streamData view.conn.id bytes :: rest) :
    Step allow view (.arrive room)
      { view with
        up := rest
        remote := if view.inTable then view.remote.map (·.push bytes) else view.remote }
  | closed {room : Bool} (error : Option String) (rest : List Frame)
    (hup : view.up = .streamClose view.conn.id error :: rest) :
    Step allow view (.arrive room)
      { view with
        up := rest
        inTable := false
        remote := if view.inTable then view.remote.map .dropSender else view.remote }
  | demuxData (bytes : Bytes) (rest : List Frame)
    (hdown : view.down = .streamData view.conn.id bytes :: rest) (hheld : view.held = none) :
    Step allow view .demux
      { view with
        down := rest
        held := if view.registered then some (.data bytes) else none }
  | demuxClose (error : Option String) (rest : List Frame)
    (hdown : view.down = .streamClose view.conn.id error :: rest) (hheld : view.held = none) :
    Step allow view .demux
      { view with
        down := rest
        registered := false
        held := if view.registered then some .close else none }
  | hand (msg : ToLocal) (inbox : Channel ToLocal localCapacity) (hheld : view.held = some msg)
    (hsend : view.conn.inbox.trySend msg = some inbox) :
    Step allow view .hand { view with conn := view.conn.received msg inbox, held := none }
  | dropped (msg : ToLocal) (hheld : view.held = some msg)
    (hreceiver : view.conn.inbox.hasReceiver = false) :
    Step allow view .hand { view with held := none }

end StreamView

/-! ### Messages for the handler -/

/-- What the reader loop makes of a frame for a handler. -/
def toLocal : Frame → Option ToLocal
  | .streamData _ data => some (.data data)
  | .streamClose _ _ => some .close
  | _ => none

/-- The bytes that messages carry. -/
def bytesOf (messages : List ToLocal) : Bytes :=
  messages.flatMap fun msg ↦ match msg with
    | .data bytes => bytes
    | .close => []

@[simp] theorem bytesOf_nil : bytesOf [] = [] := rfl

@[simp] theorem bytesOf_append (first second : List ToLocal) :
    bytesOf (first ++ second) = bytesOf first ++ bytesOf second :=
  List.flatMap_append

@[simp] theorem bytesOf_data (bytes : Bytes) (rest : List ToLocal) :
    bytesOf (.data bytes :: rest) = bytes ++ bytesOf rest := rfl

@[simp] theorem bytesOf_close (rest : List ToLocal) : bytesOf (.close :: rest) = bytesOf rest := rfl

/-- All messages on their way to the handler, the next one first. -/
def StreamView.messages (view : StreamView) : List ToLocal :=
  view.conn.inbox.items ++ view.held.toList ++ view.down.filterMap toLocal

/-! ### States of the two ends -/

end EntroTunnel.Link

namespace EntroTunnel.Client.LocalConn

open EntroTunnel.Core EntroTunnel.Foundation

/-- The stream has not been opened yet. -/
def fresh (conn : LocalConn) : Bool :=
  match conn.phase with
  | .parsing _ | .refused | .opening _ _ => true
  | _ => false

/-- The stream has been opened, and the handler takes messages now or later. -/
def receiving (conn : LocalConn) : Bool :=
  match conn.phase with
  | .greeting _ | .forwarding _ | .waiting | .delivering _ => true
  | _ => false

/-- What the handler writes ahead of the stream's data. -/
def answer (conn : LocalConn) : Bytes :=
  if conn.isConnect then established else []

/-- What the handler has written, and what is left of what it is writing. -/
def outward (conn : LocalConn) : Bytes :=
  conn.output ++ match conn.phase with
    | .greeting rest | .delivering rest => rest
    | _ => []

end EntroTunnel.Client.LocalConn

namespace EntroTunnel.Server.RemoteStream

open EntroTunnel.Core EntroTunnel.Foundation

/-- The stream's `StreamClose` has been put into the session's queue. -/
def reported (stream : RemoteStream) : Bool :=
  stream.down = .finished || (stream.relay = .ended && stream.down = .absent)

/-- The down task may forward what the remote host sends. -/
def flowing (stream : RemoteStream) : Bool :=
  match stream.down with
  | .absent | .reading | .forwarding _ => true
  | _ => false

/-- What the down task has read and not forwarded, and what it has not read. -/
def unsent (stream : RemoteStream) : Bytes :=
  match stream.down with
  | .forwarding data => data ++ stream.inbound
  | _ => stream.inbound

end EntroTunnel.Server.RemoteStream
