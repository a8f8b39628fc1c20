import EntroTunnel.Core.AddressText
import EntroTunnel.Core.Wire
import EntroTunnel.Foundation.Channel

/-!
# One proxied stream on the server

The tasks that `open_remote_stream` of `server/src/session.rs` spawns for a stream, with the socket
they work on. The relay task dials the target, reports a failed dial, and otherwise writes what it
receives from its queue to the socket, one `write_all` after the other, each in as many pieces as
the socket takes. The down task, spawned after the dial, reads the socket and forwards what it read
to the session's queue, and closes the stream when there is nothing more to read. The relay task
ends when its queue has ended or a write fails, and aborts the down task then.

`step` is one step of the tasks or of the remote host. It returns the frame that is put into the
session's queue in this step, if any; `listening` says whether that queue still has its receiver. An
aborted task is taken to stop at once: whatever it still did before it noticed could as well have
happened before the abort.
-/

set_option autoImplicit false
set_option relaxedAutoImplicit false

namespace EntroTunnel.Server

open EntroTunnel.Core EntroTunnel.Foundation

/-- Capacity of the queue between the session and a relay task. -/
def remoteCapacity : ℕ := 256

/-- Size of the buffer of the down task. -/
def remoteReadSize : ℕ := 16384

/-- Where the relay task is. -/
inductive RelayPhase
  | dialing
  | refusing (error : String)
  | waiting
  | writing (rest : Bytes)
  | ended
  deriving DecidableEq, Repr

/-- Where the down task is. -/
inductive DownPhase
  | absent
  | reading
  | forwarding (data : Bytes)
  | closing
  | finished
  | aborted
  deriving DecidableEq, Repr

/-- A chunk handed to the stream, with the number of chunks that waited in its queue then. -/
structure Arrival where
  data : Bytes
  waiting : ℕ
  deriving DecidableEq, Repr

/-- A stream with its tasks and its socket. `sent` is all that the remote host has sent, `arrivals`
all that the session has handed over, and `opened` the number of frames the session had read when it
opened the stream. -/
structure RemoteStream where
  id : StreamId
  target : TargetAddr
  inbox : Channel Bytes remoteCapacity
  relay : RelayPhase
  down : DownPhase
  inbound : Bytes
  inboundEof : Bool
  reset : Bool
  written : Bytes
  sent : Bytes
  arrivals : List Arrival
  opened : ℕ
  deriving DecidableEq

/-- A step of the tasks of a stream. -/
inductive RemoteAction
  | refuse
  | take
  | write (count : ℕ)
  | written
  | finish
  | read (count : ℕ)
  | readEof
  | readFailed
  | forward
  | close
  | dialed
  | dialFailed (error : String)
  | writeFailed
  | remoteSends (data : Bytes)
  | remoteCloses
  | remoteResets
  deriving DecidableEq, Repr

namespace RemoteAction

/-- Taken by the network or the remote host, not by a task. -/
def External : RemoteAction → Bool
  | .dialed | .dialFailed _ | .writeFailed | .remoteSends _ | .remoteCloses | .remoteResets => true
  | _ => false

end RemoteAction

/-- The target as it is dialed. -/
def addrText : TargetAddr → String
  | .domain host port => host ++ ":" ++ toString port.toNat
  | .ip ⟨.v4 ip, port⟩ => ipv4Text ip ++ ":" ++ toString port.toNat
  | .ip ⟨.v6 ip, port⟩ => "[" ++ ipv6Text ip ++ "]:" ++ toString port.toNat

/-- The text that reports a failed dial. -/
def dialError (target : TargetAddr) (error : String) : String :=
  "dial " ++ addrText target ++ ": " ++ error

/-- The down task after an abort. -/
def DownPhase.abort : DownPhase → DownPhase
  | .finished => .finished
  | _ => .aborted

namespace RemoteStream

/-- A stream that has just been opened. -/
def start (id : StreamId) (target : TargetAddr) (opened : ℕ) : RemoteStream where
  id := id
  target := target
  inbox := Channel.empty
  relay := .dialing
  down := .absent
  inbound := []
  inboundEof := false
  reset := false
  written := []
  sent := []
  arrivals := []
  opened := opened

/-- The session hands a chunk over without waiting for room. -/
def push (stream : RemoteStream) (data : Bytes) : RemoteStream :=
  { stream with
    inbox := stream.inbox.offer data
    arrivals := stream.arrivals ++ [⟨data, stream.inbox.items.length⟩] }

/-- The session drops its end of the queue. -/
def dropSender (stream : RemoteStream) : RemoteStream :=
  { stream with inbox := stream.inbox.dropSender }

/-- The relay task is over. -/
def stop (stream : RemoteStream) : RemoteStream :=
  { stream with relay := .ended, inbox := stream.inbox.dropReceiver, down := stream.down.abort }

/-- One step, with the frame it puts into the session's queue. -/
def step (listening : Bool) (stream : RemoteStream) :
    RemoteAction → Option (RemoteStream × Option Frame)
  | .dialed =>
    if stream.relay = .dialing then some ({ stream with relay := .waiting, down := .reading }, none)
    else none
  | .dialFailed error =>
    if stream.relay = .dialing then some ({ stream with relay := .refusing error }, none) else none
  | .refuse =>
    match stream.relay with
    | .refusing error =>
      some ({ stream with relay := .ended, inbox := stream.inbox.dropReceiver },
        if listening then some (.streamClose stream.id (some (dialError stream.target error)))
        else none)
    | _ => none
  | .take =>
    match stream.relay, stream.inbox.recv with
    | .waiting, .item data rest =>
      some ({ stream with relay := .writing data, inbox := rest }, none)
    | _, _ => none
  | .write count =>
    match stream.relay with
    | .writing rest =>
      if 0 < count ∧ count ≤ rest.length then
        some ({ stream with
          relay := .writing (rest.drop count)
          written := stream.written ++ rest.take count }, none)
      else none
    | _ => none
  | .written =>
    if stream.relay = .writing [] then some ({ stream with relay := .waiting }, none) else none
  | .writeFailed =>
    match stream.relay with
    | .writing (_ :: _) => some (stream.stop, none)
    | _ => none
  | .finish =>
    match stream.relay, stream.inbox.recv with
    | .waiting, .ended => some (stream.stop, none)
    | _, _ => none
  | .read count =>
    if stream.down = .reading ∧ 0 < count ∧ count ≤ remoteReadSize ∧ count ≤ stream.inbound.length
    then
      some ({ stream with
        down := .forwarding (stream.inbound.take count)
        inbound := stream.inbound.drop count }, none)
    else none
  | .readEof =>
    if stream.down = .reading ∧ stream.inbound = [] ∧ stream.inboundEof = true then
      some ({ stream with down := .closing }, none)
    else none
  | .readFailed =>
    if stream.down = .reading ∧ stream.reset = true then
      some ({ stream with down := .closing }, none)
    else none
  | .forward =>
    match stream.down with
    | .forwarding data =>
      if listening then
        some ({ stream with down := .reading }, some (.streamData stream.id data))
      else some ({ stream with down := .closing }, none)
    | _ => none
  | .close =>
    if stream.down = .closing then
      some ({ stream with down := .finished },
        if listening then some (.streamClose stream.id none) else none)
    else none
  | .remoteSends data =>
    if stream.down ≠ .absent ∧ stream.inboundEof = false ∧ stream.reset = false then
      some ({ stream with inbound := stream.inbound ++ data, sent := stream.sent ++ data }, none)
    else none
  | .remoteCloses =>
    if stream.down ≠ .absent then some ({ stream with inboundEof := true }, none) else none
  | .remoteResets =>
    if stream.down ≠ .absent then some ({ stream with reset := true }, none) else none

/-- What a step can do: one case for every way in which `step` is taken. -/
inductive Stepped (listening : Bool) (stream : RemoteStream) :
    RemoteAction → RemoteStream → Option Frame → Prop
  | dialed (hrelay : stream.relay = .dialing) :
    Stepped listening stream .dialed { stream with relay := .waiting, down := .reading } none
  | dialFailed (error : String) (hrelay : stream.relay = .dialing) :
    Stepped listening stream (.dialFailed error) { stream with relay := .refusing error } none
  | refuse (error : String) (hrelay : stream.relay = .refusing error) :
    Stepped listening stream .refuse
      { stream with relay := .ended, inbox := stream.inbox.dropReceiver }
      (if listening then some (.streamClose stream.id (some (dialError stream.target error)))
        else none)
  | take (data : Bytes) (rest : Channel Bytes remoteCapacity) (hrelay : stream.relay = .waiting)
    (hrecv : stream.inbox.recv = .item data rest) :
    Stepped listening stream .take { stream with relay := .writing data, inbox := rest } none
  | write (count : ℕ) (rest : Bytes) (hrelay : stream.relay = .writing rest)
    (hcount : 0 < count ∧ count ≤ rest.length) :
    Stepped listening stream (.write count)
      { stream with
        relay := .writing (rest.drop count)
        written := stream.written ++ rest.take count } none
  | written (hrelay : stream.relay = .writing []) :
    Stepped listening stream .written { stream with relay := .waiting } none
  | writeFailed (byte : UInt8) (rest : Bytes) (hrelay : stream.relay = .writing (byte :: rest)) :
    Stepped listening stream .writeFailed stream.stop none
  | finish (hrelay : stream.relay = .waiting) (hrecv : stream.inbox.recv = .ended) :
    Stepped listening stream .finish stream.stop none
  | read (count : ℕ) (hdown : stream.down = .reading) (hcount : 0 < count)
    (hsize : count ≤ remoteReadSize) (hinbound : count ≤ stream.inbound.length) :
    Stepped listening stream (.read count)
      { stream with
        down := .forwarding (stream.inbound.take count)
        inbound := stream.inbound.drop count } none
  | readEof (hdown : stream.down = .reading) (hinbound : stream.inbound = [])
    (heof : stream.inboundEof = true) :
    Stepped listening stream .readEof { stream with down := .closing } none
  | readFailed (hdown : stream.down = .reading) (hreset : stream.reset = true) :
    Stepped listening stream .readFailed { stream with down := .closing } none
  | forward (data : Bytes) (hdown : stream.down = .forwarding data)
      (hlistening : listening = true) :
    Stepped listening stream .forward { stream with down := .reading }
      (some (.streamData stream.id data))
  | forwardFailed (data : Bytes) (hdown : stream.down = .forwarding data)
    (hlistening : listening = false) :
    Stepped listening stream .forward { stream with down := .closing } none
  | close (hdown : stream.down = .closing) :
    Stepped listening stream .close { stream with down := .finished }
      (if listening then some (.streamClose stream.id none) else none)
  | remoteSends (data : Bytes) (hdown : stream.down ≠ .absent) (heof : stream.inboundEof = false)
    (hreset : stream.reset = false) :
    Stepped listening stream (.remoteSends data)
      { stream with inbound := stream.inbound ++ data, sent := stream.sent ++ data } none
  | remoteCloses (hdown : stream.down ≠ .absent) :
    Stepped listening stream .remoteCloses { stream with inboundEof := true } none
  | remoteResets (hdown : stream.down ≠ .absent) :
    Stepped listening stream .remoteResets { stream with reset := true } none

theorem stepped_of_step {listening : Bool} {stream next : RemoteStream} {action : RemoteAction}
    {frame : Option Frame} (hstep : stream.step listening action = some (next, frame)) :
    stream.Stepped listening action next frame := by
  cases action <;> simp only [step] at hstep
  case dialed =>
    split_ifs at hstep with hrelay
    obtain ⟨rfl, rfl⟩ := Prod.mk.inj (Option.some.inj hstep)
    exact .dialed hrelay
  case dialFailed error =>
    split_ifs at hstep with hrelay
    obtain ⟨rfl, rfl⟩ := Prod.mk.inj (Option.some.inj hstep)
    exact .dialFailed error hrelay
  case refuse =>
    split at hstep <;> cases hstep
    exact .refuse _ ‹_›
  case take =>
    split at hstep <;> cases hstep
    exact .take _ _ ‹_› ‹_›
  case write count =>
    split at hstep
    · split_ifs at hstep with hcount
      cases hstep
      exact .write count _ ‹_› hcount
    · cases hstep
  case written =>
    split_ifs at hstep with hrelay
    cases hstep
    exact .written hrelay
  case writeFailed =>
    split at hstep <;> cases hstep
    exact .writeFailed _ _ ‹_›
  case finish =>
    split at hstep <;> cases hstep
    exact .finish ‹_› ‹_›
  case read count =>
    split_ifs at hstep with h
    cases hstep
    exact .read count h.1 h.2.1 h.2.2.1 h.2.2.2
  case readEof =>
    split_ifs at hstep with h
    cases hstep
    exact .readEof h.1 h.2.1 h.2.2
  case readFailed =>
    split_ifs at hstep with h
    cases hstep
    exact .readFailed h.1 h.2
  case forward =>
    split at hstep
    · split_ifs at hstep with hlistening <;> cases hstep
      · exact .forward _ ‹_› hlistening
      · exact .forwardFailed _ ‹_› (Bool.eq_false_iff.mpr hlistening)
    · cases hstep
  case close =>
    by_cases hdown : stream.down = .closing
    · rw [if_pos hdown] at hstep
      cases hstep
      exact .close hdown
    · rw [if_neg hdown] at hstep
      cases hstep
  case remoteSends data =>
    split_ifs at hstep with h
    cases hstep
    exact .remoteSends data h.1 h.2.1 h.2.2
  case remoteCloses =>
    split_ifs at hstep with hdown
    cases hstep
    exact .remoteCloses hdown
  case remoteResets =>
    split_ifs at hstep with hdown
    cases hstep
    exact .remoteResets hdown

/-- A step keeps the chunks that were handed over and the place at which the stream was opened. -/
theorem Stepped.frame {listening : Bool} {stream next : RemoteStream} {action : RemoteAction}
    {frame : Option Frame} (hstep : stream.Stepped listening action next frame) :
    next.id = stream.id ∧ next.target = stream.target ∧ next.arrivals = stream.arrivals ∧
      next.opened = stream.opened := by
  cases hstep <;> exact ⟨rfl, rfl, rfl, rfl⟩

end RemoteStream

end EntroTunnel.Server
