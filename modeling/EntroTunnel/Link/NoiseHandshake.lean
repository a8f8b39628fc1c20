import EntroTunnel.Core.Psk
import EntroTunnel.Link.FrameChannel

/-!
# The Noise handshake

`initiator_handshake` and `responder_handshake` of `core/src/crypto/noise.rs` exchange two messages
over a byte stream, each behind its length, and turn into the halves of the frame channel
(`core/src/transport/tcp.rs`). The same stream carries both, so a message of the channel may follow
the handshake message of its sender before the other end has read that.

`NoiseLibrary` stands for the `snow` package: the handshake states and the cipher states they turn
into. `Completes` is what it promises to ends with one key, `Rejects` to ends with different keys.

A `NoiseSession` is the state of both ends and of the two directions between them. Either end, and
the network in either direction, take their steps in any order. `handshake_completes` says that two
ends with one key always reach transport mode with matching states, and that each direction is then
a queue of frames; `handshake_rejected` that ends with different keys never do, and that the
responder does not answer.
-/

set_option autoImplicit false
set_option relaxedAutoImplicit false

namespace EntroTunnel.Link

open EntroTunnel.Foundation EntroTunnel.Core

/-! ### Handshake messages -/

/-- `write_hs`. -/
def writeHs (data : Bytes) : Bytes :=
  writeU16 (UInt16.ofNat data.length) ++ data

/-- `read_hs`. -/
def readHs (segments : List Segment) : Except Error (Bytes × List Segment) :=
  match readExact 2 segments with
  | none => .error (.io "early eof")
  | some (head, body) =>
    match readExact (beValue head) body with
    | none => .error (.io "early eof")
    | some (msg, rest) => .ok (msg, rest)

/-- The states of the `snow` package: of a handshake, made from a key and random bytes, and the two
cipher states that a finished one turns into, to send and to receive with. The messages have an
empty payload. -/
structure NoiseLibrary (η σ τ : Type*) extends Snow σ τ where
  buildInitiator : Psk → Bytes → Except String η
  buildResponder : Psk → Bytes → Except String η
  writeHandshake : η → Except String (Bytes × η)
  readHandshake : η → Bytes → Except String η
  intoTransportMode : η → Except String (σ × τ)

/-- `noise_err`. -/
def noiseErr (error : String) : Error :=
  .crypto ("noise: " ++ error)

/-! ### Both ends -/

/-- How far an end has come in its handshake function. -/
inductive HandshakeSide (η : Type*)
  | built (hs : η)
  | written (hs : η)
  | read (hs : η)
  | transport
  deriving DecidableEq

/-- Both ends and the two directions. `broken` says that one of them, or the network, has ended the
connection. -/
structure NoiseSession (η σ τ : Type*) where
  initiator : HandshakeSide η
  responder : HandshakeSide η
  initiatorError : Option Error
  responderError : Option Error
  /-- From the initiator to the responder. -/
  up : Pipe (Option σ) (Option τ) Frame ChannelError
  /-- From the responder to the initiator. -/
  down : Pipe (Option σ) (Option τ) Frame ChannelError
  broken : Bool

inductive NoiseAction
  | initiatorWrite
  | initiatorRead
  | responderRead
  | responderWrite
  | up (action : PipeAction Frame)
  | down (action : PipeAction Frame)

section Steps

variable {η σ τ : Type*}

/-- A frame channel whose ends get their cipher states from the handshake. -/
def channelTransfer (library : NoiseLibrary η σ τ) :
    Transfer (Option σ) (Option τ) Frame ChannelError :=
  (frameTransfer (noiseFraming library.toSnow)).whenReady .codec

/-- `read_hs` on what has arrived; `none` while more can come. -/
def awaitHs (pipe : Pipe (Option σ) (Option τ) Frame ChannelError) :
    Option (Except Error (Bytes × List Segment)) :=
  match readHs pipe.arrived with
  | .ok (msg, rest) => some (.ok (msg, rest))
  | .error error => if pipe.closed ∧ pipe.flight = [] then some (.error error) else none

namespace NoiseSession

/-- Two ends that are connected. -/
def start (initiator responder : η) : NoiseSession η σ τ where
  initiator := .built initiator
  responder := .built responder
  initiatorError := none
  responderError := none
  up := .fresh none none
  down := .fresh none none
  broken := false

/-- The handshake of the initiator fails, and its end is dropped. -/
def failInitiator (session : NoiseSession η σ τ) (error : Error) : NoiseSession η σ τ :=
  { session with initiatorError := some error, up := { session.up with closed := true } }

/-- The handshake of the responder fails, and its end is dropped. -/
def failResponder (session : NoiseSession η σ τ) (error : Error) : NoiseSession η σ τ :=
  { session with responderError := some error, down := { session.down with closed := true } }

/-- `-> e` of `initiator_handshake`. -/
def initiatorWrite (library : NoiseLibrary η σ τ) (session : NoiseSession η σ τ) :
    Option (NoiseSession η σ τ) :=
  match session.initiator with
  | .built hs =>
    some <|
      if session.up.closed then session.failInitiator (.io "broken pipe")
      else
        match library.writeHandshake hs with
        | .error error => session.failInitiator (noiseErr error)
        | .ok (msg, next) =>
          { session with
            initiator := .written next
            up := { session.up with flight := session.up.flight ++ writeHs msg } }
  | _ => none

/-- `<- e, ee` of `initiator_handshake`, and its end. -/
def initiatorRead (library : NoiseLibrary η σ τ) (session : NoiseSession η σ τ) :
    Option (NoiseSession η σ τ) :=
  match session.initiator with
  | .written hs =>
    (awaitHs session.down).map fun
      | .error error => session.failInitiator error
      | .ok (msg, rest) =>
        match library.readHandshake hs msg with
        | .error error => session.failInitiator (noiseErr error)
        | .ok next =>
          match library.intoTransportMode next with
          | .error error => session.failInitiator (noiseErr error)
          | .ok (sending, receiving) =>
            { session with
              initiator := .transport
              up := { session.up with sender := some sending }
              down := { session.down with arrived := rest, receiver := some receiving } }
  | _ => none

/-- `<- e` of `responder_handshake`. -/
def responderRead (library : NoiseLibrary η σ τ) (session : NoiseSession η σ τ) :
    Option (NoiseSession η σ τ) :=
  match session.responder with
  | .built hs =>
    (awaitHs session.up).map fun
      | .error error => session.failResponder error
      | .ok (msg, rest) =>
        match library.readHandshake hs msg with
        | .error error => session.failResponder (noiseErr error)
        | .ok next =>
          { session with responder := .read next, up := { session.up with arrived := rest } }
  | _ => none

/-- `-> e, ee` of `responder_handshake`, and its end. -/
def responderWrite (library : NoiseLibrary η σ τ) (session : NoiseSession η σ τ) :
    Option (NoiseSession η σ τ) :=
  match session.responder with
  | .read hs =>
    some <|
      if session.down.closed then session.failResponder (.io "broken pipe")
      else
        match library.writeHandshake hs with
        | .error error => session.failResponder (noiseErr error)
        | .ok (msg, next) =>
          match library.intoTransportMode next with
          | .error error => session.failResponder (noiseErr error)
          | .ok (sending, receiving) =>
            { session with
              responder := .transport
              up := { session.up with receiver := some receiving }
              down :=
                { session.down with
                  flight := session.down.flight ++ writeHs msg, sender := some sending } }
  | _ => none

/-- One step. Only an end in transport mode has the halves of the channel, and an end that has
failed takes no step. -/
def step (library : NoiseLibrary η σ τ) (session : NoiseSession η σ τ) :
    NoiseAction → Option (NoiseSession η σ τ)
  | .initiatorWrite =>
    if session.initiatorError = none then session.initiatorWrite library else none
  | .initiatorRead =>
    if session.initiatorError = none then session.initiatorRead library else none
  | .responderRead =>
    if session.responderError = none then session.responderRead library else none
  | .responderWrite =>
    if session.responderError = none then session.responderWrite library else none
  | .up action =>
    if session.up.isReady action then
      (session.up.step (channelTransfer library) action).map fun up ↦
        { session with up, broken := session.broken || Pipe.breaks action }
    else none
  | .down action =>
    if session.down.isReady action then
      (session.down.step (channelTransfer library) action).map fun down ↦
        { session with down, broken := session.broken || Pipe.breaks action }
    else none

end NoiseSession

end Steps

end EntroTunnel.Link
