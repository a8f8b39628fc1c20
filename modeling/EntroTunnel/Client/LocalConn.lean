import EntroTunnel.Client.HttpHead
import EntroTunnel.Foundation.Channel

/-!
# One local connection of the proxy

`handle_local` of `client-core/src/proxy.rs`, with the uplink task it spawns and the socket they
share. The handler reads the request head, enters the stream into the table, opens it, answers
`CONNECT` or forwards what it has read, and then writes what arrives for the stream to the socket,
until the stream is closed or a write fails. It aborts the uplink task and leaves the table then.
The uplink task forwards what the application sends, and closes the stream when there is no more.
When the answer to `CONNECT` cannot be written the handler gives up at once, and stays in the table.

`step` is one step of the two tasks or of the application, with what it does to the rest of the
client. The link itself does not fail here, so a frame is never refused, only delayed.
-/

set_option autoImplicit false
set_option relaxedAutoImplicit false

namespace EntroTunnel.Client

open EntroTunnel.Core EntroTunnel.Foundation

/-- Message delivered from the reader loop to a local connection handler. -/
inductive ToLocal
  | data (bytes : Bytes)
  | close
  deriving DecidableEq, Repr

/-- Capacity of the queue between the reader loop and a handler. -/
def localCapacity : ℕ := 256

/-- Size of the buffer of `parse_http_head`. -/
def headReadSize : ℕ := 2048

/-- Size of the buffer of the uplink task. -/
def localReadSize : ℕ := 16384

/-- The answer to `CONNECT`. -/
def established : Bytes :=
  "HTTP/1.1 200 Connection Established\r\n\r\n".toUTF8.data.toList

/-- Where the handler is. -/
inductive LocalPhase
  | parsing (buf : Bytes)
  | refused
  | opening (target : TargetAddr) (forward : Bytes)
  | greeting (rest : Bytes)
  | forwarding (data : Bytes)
  | waiting
  | delivering (rest : Bytes)
  | done
  | abandoned
  deriving DecidableEq, Repr

/-- Where the uplink task is. -/
inductive UplinkPhase
  | absent
  | reading
  | sending (data : Bytes)
  | closing
  | finished
  | aborted
  deriving DecidableEq, Repr

/-- The uplink task after an abort. -/
def UplinkPhase.abort : UplinkPhase → UplinkPhase
  | .finished => .finished
  | _ => .aborted

/-- A local connection with its socket: `inbound` is what the application has sent and nobody has
read, `output` all that was written to it, and `writeFailed` says that a write to it has failed. -/
structure LocalConn where
  id : StreamId
  phase : LocalPhase
  uplink : UplinkPhase
  inbox : Channel ToLocal localCapacity
  isConnect : Bool
  inbound : Bytes
  inboundEof : Bool
  reset : Bool
  output : Bytes
  writeFailed : Bool
  deriving DecidableEq

/-- A step of a local connection. -/
inductive LocalAction
  | read (count : ℕ)
  | readEof
  | readFailed
  | openStream
  | greet (count : ℕ)
  | greeted
  | forwardHead
  | take
  | takeClose
  | endOfInput
  | deliver (count : ℕ)
  | delivered
  | upRead (count : ℕ)
  | upEof
  | upFailed
  | upSend
  | upClose
  | greetFailed
  | deliverFailed
  | localSends (data : Bytes)
  | localCloses
  | localResets
  deriving DecidableEq, Repr

namespace LocalAction

/-- Taken by the application or the local network, not by a task. -/
def External : LocalAction → Bool
  | .greetFailed | .deliverFailed | .localSends _ | .localCloses | .localResets => true
  | _ => false

end LocalAction

/-- What a step of a local connection does to the rest of the client. -/
inductive LocalEffect
  | none
  | register
  | unregister
  | emit (frame : Frame)
  deriving DecidableEq, Repr

namespace LocalConn

/-- A connection that has just been accepted. -/
def start (id : StreamId) : LocalConn where
  id := id
  phase := .parsing []
  uplink := .absent
  inbox := Channel.empty
  isConnect := false
  inbound := []
  inboundEof := false
  reset := false
  output := []
  writeFailed := false

/-- The uplink task is spawned and the handler starts to write. -/
def serve (conn : LocalConn) : LocalConn :=
  { conn with phase := .waiting, uplink := .reading }

/-- The handler after it has opened the stream. -/
def opened (conn : LocalConn) (forward : Bytes) : LocalConn :=
  if conn.isConnect then { conn with phase := .greeting established }
  else if forward ≠ [] then { conn with phase := .forwarding forward }
  else conn.serve

/-- The handler is over. -/
def finish (conn : LocalConn) : LocalConn :=
  { conn with
    phase := .done
    uplink := conn.uplink.abort
    inbox := conn.inbox.dropReceiver.dropSender }

/-- The handler after a read of the request head. -/
def parsed (conn : LocalConn) : HeadStep → LocalConn × LocalEffect
  | .more buf => ({ conn with phase := .parsing buf }, .none)
  | .done target isConnect forward =>
    ({ conn with phase := .opening target forward, isConnect }, .register)
  | .failed _ => ({ conn with phase := .refused }, .none)

/-- One step, with its effect. -/
def step (conn : LocalConn) : LocalAction → Option (LocalConn × LocalEffect)
  | .read count =>
    match conn.phase with
    | .parsing buf =>
      if 0 < count ∧ count ≤ headReadSize ∧ count ≤ conn.inbound.length then
        some ({ conn with inbound := conn.inbound.drop count }.parsed
          (headStep buf (conn.inbound.take count)))
      else none
    | _ => none
  | .readEof =>
    match conn.phase with
    | .parsing buf =>
      if conn.inbound = [] ∧ conn.inboundEof = true then some (conn.parsed (headStep buf []))
      else none
    | _ => none
  | .readFailed =>
    match conn.phase with
    | .parsing _ =>
      if conn.reset = true then some ({ conn with phase := .refused }, .none) else none
    | _ => none
  | .openStream =>
    match conn.phase with
    | .opening target forward => some (conn.opened forward, .emit (.streamOpen conn.id target))
    | _ => none
  | .greet count =>
    match conn.phase with
    | .greeting rest =>
      if 0 < count ∧ count ≤ rest.length then
        some ({ conn with
          phase := .greeting (rest.drop count)
          output := conn.output ++ rest.take count }, .none)
      else none
    | _ => none
  | .greeted => if conn.phase = .greeting [] then some (conn.serve, .none) else none
  | .greetFailed =>
    match conn.phase with
    | .greeting (_ :: _) =>
      some ({ conn with
        phase := .abandoned
        inbox := conn.inbox.dropReceiver
        writeFailed := true }, .none)
    | _ => none
  | .forwardHead =>
    match conn.phase with
    | .forwarding data => some (conn.serve, .emit (.streamData conn.id data))
    | _ => none
  | .take =>
    match conn.phase, conn.inbox.recv with
    | .waiting, .item (.data data) rest =>
      some ({ conn with phase := .delivering data, inbox := rest }, .none)
    | _, _ => none
  | .takeClose =>
    match conn.phase, conn.inbox.recv with
    | .waiting, .item .close _ => some (conn.finish, .unregister)
    | _, _ => none
  | .endOfInput =>
    match conn.phase, conn.inbox.recv with
    | .waiting, .ended => some (conn.finish, .unregister)
    | _, _ => none
  | .deliver count =>
    match conn.phase with
    | .delivering rest =>
      if 0 < count ∧ count ≤ rest.length then
        some ({ conn with
          phase := .delivering (rest.drop count)
          output := conn.output ++ rest.take count }, .none)
      else none
    | _ => none
  | .delivered =>
    if conn.phase = .delivering [] then some ({ conn with phase := .waiting }, .none) else none
  | .deliverFailed =>
    match conn.phase with
    | .delivering (_ :: _) => some ({ conn.finish with writeFailed := true }, .unregister)
    | _ => none
  | .upRead count =>
    if conn.uplink = .reading ∧ 0 < count ∧ count ≤ localReadSize ∧ count ≤ conn.inbound.length
    then
      some ({ conn with
        uplink := .sending (conn.inbound.take count)
        inbound := conn.inbound.drop count }, .none)
    else none
  | .upEof =>
    if conn.uplink = .reading ∧ conn.inbound = [] ∧ conn.inboundEof = true then
      some ({ conn with uplink := .closing }, .none)
    else none
  | .upFailed =>
    if conn.uplink = .reading ∧ conn.reset = true then
      some ({ conn with uplink := .closing }, .none)
    else none
  | .upSend =>
    match conn.uplink with
    | .sending data => some ({ conn with uplink := .reading }, .emit (.streamData conn.id data))
    | _ => none
  | .upClose =>
    if conn.uplink = .closing then
      some ({ conn with uplink := .finished }, .emit (.streamClose conn.id none))
    else none
  | .localSends data =>
    if conn.inboundEof = false ∧ conn.reset = false then
      some ({ conn with inbound := conn.inbound ++ data }, .none)
    else none
  | .localCloses => some ({ conn with inboundEof := true }, .none)
  | .localResets => some ({ conn with reset := true }, .none)

/-- What a step can do: one case for every way in which `step` is taken. -/
inductive Stepped (conn : LocalConn) : LocalAction → LocalConn → LocalEffect → Prop
  | read (count : ℕ) (buf : Bytes) (hphase : conn.phase = .parsing buf)
    (hcount : 0 < count ∧ count ≤ headReadSize ∧ count ≤ conn.inbound.length) :
    Stepped conn (.read count)
      ({ conn with inbound := conn.inbound.drop count }.parsed
        (headStep buf (conn.inbound.take count))).1
      ({ conn with inbound := conn.inbound.drop count }.parsed
        (headStep buf (conn.inbound.take count))).2
  | readEof (buf : Bytes) (hphase : conn.phase = .parsing buf) (hinbound : conn.inbound = [])
    (heof : conn.inboundEof = true) :
    Stepped conn .readEof { conn with phase := .refused } .none
  | readFailed (buf : Bytes) (hphase : conn.phase = .parsing buf) (hreset : conn.reset = true) :
    Stepped conn .readFailed { conn with phase := .refused } .none
  | openStream (target : TargetAddr) (forward : Bytes)
    (hphase : conn.phase = .opening target forward) :
    Stepped conn .openStream (conn.opened forward) (.emit (.streamOpen conn.id target))
  | greet (count : ℕ) (rest : Bytes) (hphase : conn.phase = .greeting rest)
    (hcount : 0 < count ∧ count ≤ rest.length) :
    Stepped conn (.greet count)
      { conn with
        phase := .greeting (rest.drop count)
        output := conn.output ++ rest.take count } .none
  | greeted (hphase : conn.phase = .greeting []) : Stepped conn .greeted conn.serve .none
  | greetFailed (byte : UInt8) (rest : Bytes) (hphase : conn.phase = .greeting (byte :: rest)) :
    Stepped conn .greetFailed
      { conn with
        phase := .abandoned
        inbox := conn.inbox.dropReceiver
        writeFailed := true } .none
  | forwardHead (data : Bytes) (hphase : conn.phase = .forwarding data) :
    Stepped conn .forwardHead conn.serve (.emit (.streamData conn.id data))
  | take (data : Bytes) (rest : Channel ToLocal localCapacity) (hphase : conn.phase = .waiting)
    (hrecv : conn.inbox.recv = .item (.data data) rest) :
    Stepped conn .take { conn with phase := .delivering data, inbox := rest } .none
  | takeClose (rest : Channel ToLocal localCapacity) (hphase : conn.phase = .waiting)
    (hrecv : conn.inbox.recv = .item .close rest) :
    Stepped conn .takeClose conn.finish .unregister
  | endOfInput (hphase : conn.phase = .waiting) (hrecv : conn.inbox.recv = .ended) :
    Stepped conn .endOfInput conn.finish .unregister
  | deliver (count : ℕ) (rest : Bytes) (hphase : conn.phase = .delivering rest)
    (hcount : 0 < count ∧ count ≤ rest.length) :
    Stepped conn (.deliver count)
      { conn with
        phase := .delivering (rest.drop count)
        output := conn.output ++ rest.take count } .none
  | delivered (hphase : conn.phase = .delivering []) :
    Stepped conn .delivered { conn with phase := .waiting } .none
  | deliverFailed (byte : UInt8) (rest : Bytes)
    (hphase : conn.phase = .delivering (byte :: rest)) :
    Stepped conn .deliverFailed { conn.finish with writeFailed := true } .unregister
  | upRead (count : ℕ) (huplink : conn.uplink = .reading) (hcount : 0 < count)
    (hsize : count ≤ localReadSize) (hinbound : count ≤ conn.inbound.length) :
    Stepped conn (.upRead count)
      { conn with
        uplink := .sending (conn.inbound.take count)
        inbound := conn.inbound.drop count } .none
  | upEof (huplink : conn.uplink = .reading) (hinbound : conn.inbound = [])
    (heof : conn.inboundEof = true) : Stepped conn .upEof { conn with uplink := .closing } .none
  | upFailed (huplink : conn.uplink = .reading) (hreset : conn.reset = true) :
    Stepped conn .upFailed { conn with uplink := .closing } .none
  | upSend (data : Bytes) (huplink : conn.uplink = .sending data) :
    Stepped conn .upSend { conn with uplink := .reading } (.emit (.streamData conn.id data))
  | upClose (huplink : conn.uplink = .closing) :
    Stepped conn .upClose { conn with uplink := .finished } (.emit (.streamClose conn.id none))
  | localSends (data : Bytes) (heof : conn.inboundEof = false) (hreset : conn.reset = false) :
    Stepped conn (.localSends data) { conn with inbound := conn.inbound ++ data } .none
  | localCloses : Stepped conn .localCloses { conn with inboundEof := true } .none
  | localResets : Stepped conn .localResets { conn with reset := true } .none

theorem stepped_of_step {conn next : LocalConn} {action : LocalAction} {effect : LocalEffect}
    (hstep : conn.step action = some (next, effect)) : conn.Stepped action next effect := by
  cases action <;> simp only [step] at hstep
  case read count =>
    split at hstep
    · split_ifs at hstep with hcount
      obtain ⟨rfl, rfl⟩ := Prod.mk.inj (Option.some.inj hstep)
      exact .read count _ ‹_› hcount
    · cases hstep
  case readEof =>
    split at hstep
    · split_ifs at hstep with h
      cases hstep
      exact .readEof _ ‹_› h.1 h.2
    · cases hstep
  case readFailed =>
    split at hstep
    · split_ifs at hstep with hreset
      cases hstep
      exact .readFailed _ ‹_› hreset
    · cases hstep
  case openStream =>
    split at hstep <;> cases hstep
    exact .openStream _ _ ‹_›
  case greet count =>
    split at hstep
    · split_ifs at hstep with hcount
      cases hstep
      exact .greet count _ ‹_› hcount
    · cases hstep
  case greeted =>
    split_ifs at hstep with hphase
    cases hstep
    exact .greeted hphase
  case greetFailed =>
    split at hstep <;> cases hstep
    exact .greetFailed _ _ ‹_›
  case forwardHead =>
    split at hstep <;> cases hstep
    exact .forwardHead _ ‹_›
  case take =>
    split at hstep <;> cases hstep
    exact .take _ _ ‹_› ‹_›
  case takeClose =>
    split at hstep <;> cases hstep
    exact .takeClose _ ‹_› ‹_›
  case endOfInput =>
    split at hstep <;> cases hstep
    exact .endOfInput ‹_› ‹_›
  case deliver count =>
    split at hstep
    · split_ifs at hstep with hcount
      cases hstep
      exact .deliver count _ ‹_› hcount
    · cases hstep
  case delivered =>
    split_ifs at hstep with hphase
    cases hstep
    exact .delivered hphase
  case deliverFailed =>
    split at hstep <;> cases hstep
    exact .deliverFailed _ _ ‹_›
  case upRead count =>
    split_ifs at hstep with h
    cases hstep
    exact .upRead count h.1 h.2.1 h.2.2.1 h.2.2.2
  case upEof =>
    split_ifs at hstep with h
    cases hstep
    exact .upEof h.1 h.2.1 h.2.2
  case upFailed =>
    split_ifs at hstep with h
    cases hstep
    exact .upFailed h.1 h.2
  case upSend =>
    split at hstep <;> cases hstep
    exact .upSend _ ‹_›
  case upClose =>
    split_ifs at hstep with huplink
    cases hstep
    exact .upClose huplink
  case localSends data =>
    split_ifs at hstep with h
    cases hstep
    exact .localSends data h.1 h.2
  case localCloses =>
    cases hstep
    exact .localCloses
  case localResets =>
    cases hstep
    exact .localResets

end LocalConn

end EntroTunnel.Client
