import EntroTunnel.Link.NoiseSession

/-!
# The two ends of a transport, each by itself

A transport runs over any byte stream: a network connection, or the pipe of a carrier. So an end is
taken by itself here, with what it has written to the stream and what it has taken from it, and
nothing is said of what is between the ends. A transport is `Faithful` if the frames that an end
receives are the first of those that the other has sent, as long as each takes the first of the
bytes that the other has written, and no end gives up.

`noiseTransport` has the handshake functions and the frame channel of the TCP transport as its ends.
A pair of ends is a `NoiseSession` in which the bytes that were written and not taken are on the way
(`joined`), so that the Noise transport is faithful when the ends have one key.
-/

set_option autoImplicit false
set_option relaxedAutoImplicit false

namespace EntroTunnel.Link

open EntroTunnel.Foundation EntroTunnel.Core

/-- One end of a transport. -/
structure TransportEnd where
  State : Type
  Action : Type
  step : State → Action → Option State
  /-- The bytes that it has written to its stream. -/
  written : State → Bytes
  /-- The bytes that it has taken from its stream. -/
  taken : State → Bytes
  sent : State → List Frame
  received : State → List Frame
  /-- It has given up at an error of the handshake or of a frame. -/
  failed : State → Bool

/-- The end that connects and the end that accepts, and what both start from. -/
structure StreamTransport where
  client : TransportEnd
  server : TransportEnd
  Setup : Type
  clientStart : Setup → client.State
  serverStart : Setup → server.State

namespace StreamTransport

variable (transport : StreamTransport)

/-- Each end has taken the first of the bytes that the other has written. -/
def Supplied (client : transport.client.State) (server : transport.server.State) : Prop :=
  transport.server.taken server <+: transport.client.written client ∧
    transport.client.taken client <+: transport.server.written server

/-- Each end has received the first of the frames that the other has sent. -/
def InOrder (client : transport.client.State) (server : transport.server.State) : Prop :=
  transport.server.received server <+: transport.client.sent client ∧
    transport.client.received client <+: transport.server.sent server

/-- No end has given up. -/
def Unfailed (client : transport.client.State) (server : transport.server.State) : Prop :=
  transport.client.failed client = false ∧ transport.server.failed server = false

/-- An invariant of both ends, kept as long as they are supplied. -/
structure Kept (Invariant : transport.client.State → transport.server.State → Prop) : Prop where
  start : ∀ setup, Invariant (transport.clientStart setup) (transport.serverStart setup)
  client : ∀ client server action next, Invariant client server →
    transport.client.step client action = some next → transport.Supplied next server →
      Invariant next server
  server : ∀ client server action next, Invariant client server →
    transport.server.step server action = some next → transport.Supplied client next →
      Invariant client next
  inOrder : ∀ client server, Invariant client server → transport.InOrder client server
  unfailed : ∀ client server, Invariant client server → transport.Unfailed client server

/-- Whatever is between the ends, frames are received in the order in which they were sent, and no
end gives up. -/
def Faithful : Prop :=
  ∃ Invariant, transport.Kept Invariant

end StreamTransport

/-! ### An end of a Noise connection -/

/-- An end of a Noise connection. `segments` holds what was taken from the stream and not read. -/
structure NoiseEnd (η σ τ : Type) where
  side : HandshakeSide η
  sender : Option σ
  receiver : Option τ
  segments : List Segment
  written : Bytes
  taken : Bytes
  sent : List Frame
  received : List Frame
  failed : Bool

/-- A step of an end. A frame is one that can be in memory. -/
inductive NoiseEndAction
  | writeHs
  | readHs
  | take (segment : Segment)
  | send (frame : { frame : Frame // frame.Buildable })
  | recv

namespace NoiseEnd

variable {η σ τ : Type}

def start (hs : η) : NoiseEnd η σ τ where
  side := .built hs
  sender := none
  receiver := none
  segments := []
  written := []
  taken := []
  sent := []
  received := []
  failed := false

/-- The end gives up. -/
def fail (noise : NoiseEnd η σ τ) : NoiseEnd η σ τ :=
  { noise with failed := true }

/-- `-> e` of `initiator_handshake`. -/
def initiatorWrite (library : NoiseLibrary η σ τ) (noise : NoiseEnd η σ τ) :
    Option (NoiseEnd η σ τ) :=
  match noise.side with
  | .built hs =>
    match library.writeHandshake hs with
    | .error _ => some noise.fail
    | .ok (msg, next) =>
      some { noise with side := .written next, written := noise.written ++ Link.writeHs msg }
  | _ => none

/-- `<- e, ee` of `initiator_handshake`, and its end. -/
def initiatorRead (library : NoiseLibrary η σ τ) (noise : NoiseEnd η σ τ) :
    Option (NoiseEnd η σ τ) :=
  match noise.side, Link.readHs noise.segments with
  | .written hs, .ok (msg, rest) =>
    match library.readHandshake hs msg with
    | .error _ => some noise.fail
    | .ok next =>
      match library.intoTransportMode next with
      | .error _ => some noise.fail
      | .ok (sending, receiving) =>
        some { noise with
          side := .transport, sender := some sending, receiver := some receiving, segments := rest }
  | _, _ => none

/-- `<- e` of `responder_handshake`. -/
def responderRead (library : NoiseLibrary η σ τ) (noise : NoiseEnd η σ τ) :
    Option (NoiseEnd η σ τ) :=
  match noise.side, Link.readHs noise.segments with
  | .built hs, .ok (msg, rest) =>
    match library.readHandshake hs msg with
    | .error _ => some noise.fail
    | .ok next => some { noise with side := .read next, segments := rest }
  | _, _ => none

/-- `-> e, ee` of `responder_handshake`, and its end. -/
def responderWrite (library : NoiseLibrary η σ τ) (noise : NoiseEnd η σ τ) :
    Option (NoiseEnd η σ τ) :=
  match noise.side with
  | .read hs =>
    match library.writeHandshake hs with
    | .error _ => some noise.fail
    | .ok (msg, next) =>
      match library.intoTransportMode next with
      | .error _ => some noise.fail
      | .ok (sending, receiving) =>
        some { noise with
          side := .transport
          sender := some sending
          receiver := some receiving
          written := noise.written ++ Link.writeHs msg }
  | _ => none

/-- A frame is sent; one that the channel refuses leaves no trace. -/
def send (library : NoiseLibrary η σ τ) (noise : NoiseEnd η σ τ) (frame : Frame) :
    Option (NoiseEnd η σ τ) :=
  match noise.sender with
  | none => none
  | some ts =>
    match FrameWriter.send (noiseFraming library.toSnow) ts frame with
    | .error _ => some noise
    | .ok (bytes, next) =>
      some { noise with
        sender := some next, written := noise.written ++ bytes, sent := noise.sent ++ [frame] }

/-- A frame is read. An end that has not enough waits. -/
def recv (library : NoiseLibrary η σ τ) (noise : NoiseEnd η σ τ) : Option (NoiseEnd η σ τ) :=
  match noise.receiver with
  | none => none
  | some ts =>
    match FrameReader.recv ((noiseFraming library.toSnow).recv ts noise.segments) with
    | .error error => if error.endsStream then none else some noise.fail
    | .ok (frame, next, rest) =>
      some { noise with
        receiver := some next, segments := rest, received := noise.received ++ [frame] }

/-- One step, with the two steps of the handshake function. -/
def step (library : NoiseLibrary η σ τ)
    (write read : NoiseEnd η σ τ → Option (NoiseEnd η σ τ)) (noise : NoiseEnd η σ τ)
    (action : NoiseEndAction) : Option (NoiseEnd η σ τ) :=
  if noise.failed then none
  else
    match action with
    | .writeHs => write noise
    | .readHs => read noise
    | .take segment =>
      some { noise with
        segments := noise.segments ++ [segment], taken := noise.taken ++ segment.val }
    | .send frame => noise.send library frame
    | .recv => noise.recv library

end NoiseEnd

/-- Two handshake states that were built with one key. -/
structure NoiseSetup {η σ τ : Type} (library : NoiseLibrary η σ τ) where
  psk : Psk
  initiatorSeed : Bytes
  responderSeed : Bytes
  initiator : η
  responder : η
  builtInitiator : library.buildInitiator psk initiatorSeed = .ok initiator
  builtResponder : library.buildResponder psk responderSeed = .ok responder

/-- The Noise transport between two ends that have one key. -/
def noiseTransport {η σ τ : Type} (library : NoiseLibrary η σ τ) : StreamTransport where
  client :=
    { State := NoiseEnd η σ τ
      Action := NoiseEndAction
      step := NoiseEnd.step library (NoiseEnd.initiatorWrite library)
        (NoiseEnd.initiatorRead library)
      written := NoiseEnd.written
      taken := NoiseEnd.taken
      sent := NoiseEnd.sent
      received := NoiseEnd.received
      failed := NoiseEnd.failed }
  server :=
    { State := NoiseEnd η σ τ
      Action := NoiseEndAction
      step := NoiseEnd.step library (NoiseEnd.responderWrite library)
        (NoiseEnd.responderRead library)
      written := NoiseEnd.written
      taken := NoiseEnd.taken
      sent := NoiseEnd.sent
      received := NoiseEnd.received
      failed := NoiseEnd.failed }
  Setup := NoiseSetup library
  clientStart setup := .start setup.initiator
  serverStart setup := .start setup.responder

/-! ### Two ends are a session -/

section Joined

variable {η σ τ : Type} {library : NoiseLibrary η σ τ}

/-- What one end writes, as far as the other has not taken it, is on the way. -/
def joinedPipe (writer reader : NoiseEnd η σ τ) :
    Pipe (Option σ) (Option τ) Frame ChannelError where
  sender := writer.sender
  receiver := reader.receiver
  flight := writer.written.drop reader.taken.length
  arrived := reader.segments
  closed := false
  lost := false
  sent := writer.sent
  received := reader.received
  failure := none

def joined (client server : NoiseEnd η σ τ) : NoiseSession η σ τ where
  initiator := client.side
  responder := server.side
  initiatorError := none
  responderError := none
  up := joinedPipe client server
  down := joinedPipe server client
  broken := false

variable {client server writer reader next : NoiseEnd η σ τ}

/-- What is written more is on the way behind the rest. -/
theorem drop_written (htaken : reader.taken <+: writer.written) (bytes : Bytes) :
    (writer.written ++ bytes).drop reader.taken.length =
      writer.written.drop reader.taken.length ++ bytes :=
  List.drop_append_of_le_length htaken.length_le

/-- Sending changes nothing that the end reads with. -/
theorem NoiseEnd.send_frame {frame : Frame} (hsend : writer.send library frame = some next) :
    next.side = writer.side ∧ next.failed = writer.failed ∧ next.taken = writer.taken ∧
      joinedPipe reader next = joinedPipe reader writer := by
  unfold NoiseEnd.send at hsend
  split at hsend
  · cases hsend
  · split at hsend
    · obtain rfl := Option.some.inj hsend
      exact ⟨rfl, rfl, rfl, rfl⟩
    · obtain rfl := Option.some.inj hsend
      exact ⟨rfl, rfl, rfl, rfl⟩

/-- Receiving changes nothing that the end writes with. -/
theorem NoiseEnd.recv_frame (hrecv : reader.recv library = some next) :
    next.side = reader.side ∧ next.taken = reader.taken ∧ next.written = reader.written ∧
      joinedPipe next writer = joinedPipe reader writer := by
  unfold NoiseEnd.recv at hrecv
  split at hrecv
  · cases hrecv
  · split at hrecv
    · split_ifs at hrecv
      obtain rfl := Option.some.inj hrecv
      exact ⟨rfl, rfl, rfl, rfl⟩
    · obtain rfl := Option.some.inj hrecv
      exact ⟨rfl, rfl, rfl, rfl⟩

/-- A frame that an end sends is sent on its pipe, unless it is refused. -/
theorem joinedPipe_send (htaken : reader.taken <+: writer.written) {frame : Frame}
    (hsend : writer.send library frame = some next) :
    next = writer ∨ ((joinedPipe writer reader).isReady (.send frame) = true ∧
      (joinedPipe writer reader).step (channelTransfer library) (.send frame) =
        some (joinedPipe next reader)) := by
  unfold NoiseEnd.send at hsend
  cases hsender : writer.sender with
  | none =>
    rw [hsender] at hsend
    cases hsend
  | some ts =>
    rw [hsender] at hsend
    simp only at hsend
    cases hresult : FrameWriter.send (noiseFraming library.toSnow) ts frame with
    | error error =>
      rw [hresult] at hsend
      exact .inl (Option.some.inj hsend).symm
    | ok sent =>
      obtain ⟨bytes, after⟩ := sent
      rw [hresult] at hsend
      obtain rfl := Option.some.inj hsend
      right
      constructor
      · show writer.sender.isSome = true
        rw [hsender]
        rfl
      · simp only [Pipe.step, joinedPipe, channelTransfer, Transfer.whenReady, frameTransfer,
          hsender, hresult, Except.map]
        rw [drop_written htaken]
        rfl

/-- What an end takes arrives on its pipe. -/
theorem joinedPipe_take {segment : Segment}
    (htaken : reader.taken ++ segment.val <+: writer.written) :
    (joinedPipe writer reader).step (channelTransfer library) (.arrive segment.val.length) =
      some (joinedPipe writer
        { reader with
          segments := reader.segments ++ [segment], taken := reader.taken ++ segment.val }) := by
  obtain ⟨more, hmore⟩ := htaken
  have hflight : writer.written.drop reader.taken.length = segment.val ++ more := by
    rw [← hmore, List.append_assoc, List.drop_left]
  have hpiece : (joinedPipe writer reader).flight.take segment.val.length = segment.val := by
    rw [joinedPipe, hflight, List.take_left]
  have hrest : (joinedPipe writer reader).flight.drop segment.val.length =
      writer.written.drop (reader.taken ++ segment.val).length := by
    rw [joinedPipe, hflight, List.drop_left, ← hmore, List.drop_left]
  rw [Pipe.step_arrive (by rw [hpiece]; exact segment.property)]
  simp only [hpiece, hrest]
  rfl

/-- A frame that an end reads is read off its pipe, or the end gives up at a failure of the pipe. -/
theorem joinedPipe_recv (hrecv : reader.recv library = some next) :
    (joinedPipe writer reader).isReady .recv = true ∧
      (next.failed = reader.failed ∧
          (joinedPipe writer reader).step (channelTransfer library) .recv =
            some (joinedPipe writer next) ∨
        ∃ failed error, (joinedPipe writer reader).step (channelTransfer library) .recv =
          some failed ∧ failed.failure = some error ∧ failed.closed = false) := by
  unfold NoiseEnd.recv at hrecv
  cases hreceiver : reader.receiver with
  | none =>
    rw [hreceiver] at hrecv
    cases hrecv
  | some ts =>
    rw [hreceiver] at hrecv
    simp only at hrecv
    constructor
    · show reader.receiver.isSome = true
      rw [hreceiver]
      rfl
    cases hresult : FrameReader.recv ((noiseFraming library.toSnow).recv ts reader.segments) with
    | error error =>
      rw [hresult] at hrecv
      simp only at hrecv
      split_ifs at hrecv with hends
      right
      refine ⟨{ joinedPipe writer reader with failure := some error }, error, ?_, rfl, rfl⟩
      simp only [Pipe.step, joinedPipe, channelTransfer, Transfer.whenReady, frameTransfer,
        hreceiver, hresult, Except.map, hends]
      rfl
    | ok read =>
      obtain ⟨frame, after, rest⟩ := read
      rw [hresult] at hrecv
      obtain rfl := Option.some.inj hrecv
      refine .inl ⟨rfl, ?_⟩
      simp only [Pipe.step, joinedPipe, channelTransfer, Transfer.whenReady, frameTransfer,
        hreceiver, hresult, Except.map]
      rfl

variable {initiator responder : η}

/-- Both ends are at a place of one handshake, and none has failed. -/
structure NoisePair (transcript : Transcript library initiator responder)
    (client server : NoiseEnd η σ τ) : Prop where
  clientWell : client.failed = false
  serverWell : server.failed = false
  up : server.taken <+: client.written
  down : client.taken <+: server.written
  follows : ∃ place, Follows transcript place (joined client server)

variable {transcript : Transcript library initiator responder}

/-- A step of both ends together that does not break the connection fails none of them. -/
theorem unfailed_of_step (htagged : library.toSnow.Tagged)
    (hpair : NoisePair transcript client server) {action : NoiseAction} (hvalid : action.Valid)
    {after : NoiseSession η σ τ} (hstep : (joined client server).step library action = some after)
    (hbroken : after.broken = false) :
    after.initiatorError = none ∧ after.responderError = none := by
  obtain ⟨place, hfollows⟩ := hpair.follows
  obtain ⟨later, hlater⟩ := hfollows.step htagged hvalid hstep
  exact hlater.unfailed hbroken

theorem valid_of_not_send {action : NoiseAction}
    (hsend : ∀ frame, action ≠ .up (.send frame) ∧ action ≠ .down (.send frame)) :
    action.Valid := by
  rintro frame (h | h)
  · exact absurd h (hsend frame).1
  · exact absurd h (hsend frame).2

/-- A pipe of both ends that is not closed has not failed. -/
theorem no_failure (htagged : library.toSnow.Tagged) (hpair : NoisePair transcript client server)
    {failed : Pipe (Option σ) (Option τ) Frame ChannelError} {error : ChannelError}
    (hfailed : (client.receiver.isSome = true ∧
        (joinedPipe server client).step (channelTransfer library) .recv = some failed) ∨
      (server.receiver.isSome = true ∧
        (joinedPipe client server).step (channelTransfer library) .recv = some failed))
    (herror : failed.failure = some error) (hclosed : failed.closed = false) : False := by
  obtain ⟨place, hfollows⟩ := hpair.follows
  have hvalidDown : NoiseAction.Valid (.down .recv) := valid_of_not_send fun _ ↦ by simp
  have hvalidUp : NoiseAction.Valid (.up .recv) := valid_of_not_send fun _ ↦ by simp
  obtain ⟨hready, hstep⟩ | ⟨hready, hstep⟩ := hfailed
  · obtain ⟨later, hlater⟩ := hfollows.step htagged hvalidDown (NoiseSession.step_down hready hstep)
    have hend := (hlater.down.failure herror).1
    rw [hclosed] at hend
    cases hend
  · obtain ⟨later, hlater⟩ := hfollows.step htagged hvalidUp (NoiseSession.step_up hready hstep)
    have hend := (hlater.up.failure herror).1
    rw [hclosed] at hend
    cases hend

/-- The pair after a step that both ends take together. -/
theorem NoisePair.moved (htagged : library.toSnow.Tagged)
    (hpair : NoisePair transcript client server) {clientNext serverNext : NoiseEnd η σ τ}
    {action : NoiseAction} (hvalid : action.Valid)
    (hstep : (joined client server).step library action = some (joined clientNext serverNext))
    (hwell : clientNext.failed = client.failed ∧ serverNext.failed = server.failed)
    (hup : serverNext.taken <+: clientNext.written)
    (hdown : clientNext.taken <+: serverNext.written) :
    NoisePair transcript clientNext serverNext where
  clientWell := hwell.1.trans hpair.clientWell
  serverWell := hwell.2.trans hpair.serverWell
  up := hup
  down := hdown
  follows := by
    obtain ⟨place, hfollows⟩ := hpair.follows
    exact hfollows.step htagged hvalid hstep

theorem pair_initiatorWrite (htagged : library.toSnow.Tagged)
    (hpair : NoisePair transcript client server)
    (hstep : client.initiatorWrite library = some next)
    (hup : server.taken <+: next.written) (hdown : next.taken <+: server.written) :
    NoisePair transcript next server := by
  have hvalid : NoiseAction.initiatorWrite.Valid := valid_of_not_send fun _ ↦ by simp
  unfold NoiseEnd.initiatorWrite at hstep
  cases hside : client.side with
  | built hs =>
    rw [hside] at hstep
    simp only at hstep
    cases hwrite : library.writeHandshake hs with
    | error error =>
      have hfail : (joined client server).step library .initiatorWrite =
          some ((joined client server).failInitiator (noiseErr error)) := by
        simp [NoiseSession.step, NoiseSession.initiatorWrite, joined, hside, hwrite, joinedPipe]
      have hnone := (unfailed_of_step htagged hpair hvalid hfail rfl).1
      cases hnone
    | ok written =>
      obtain ⟨msg, after⟩ := written
      rw [hwrite] at hstep
      obtain rfl := Option.some.inj hstep
      refine hpair.moved htagged hvalid ?_ ⟨rfl, rfl⟩ hup hdown
      simp [NoiseSession.step, NoiseSession.initiatorWrite, joined, hside, hwrite, joinedPipe,
        drop_written hpair.up]
  | _ =>
    rw [hside] at hstep
    cases hstep

theorem pair_initiatorRead (htagged : library.toSnow.Tagged)
    (hpair : NoisePair transcript client server)
    (hstep : client.initiatorRead library = some next)
    (hup : server.taken <+: next.written) (hdown : next.taken <+: server.written) :
    NoisePair transcript next server := by
  have hvalid : NoiseAction.initiatorRead.Valid := valid_of_not_send fun _ ↦ by simp
  have hfailed : ∀ error, (joined client server).step library .initiatorRead ≠
      some ((joined client server).failInitiator error) := by
    intro error hfail
    have hnone := (unfailed_of_step htagged hpair hvalid hfail rfl).1
    cases hnone
  unfold NoiseEnd.initiatorRead at hstep
  cases hside : client.side with
  | written hs =>
    cases hread : readHs client.segments with
    | error error =>
      rw [hside, hread] at hstep
      cases hstep
    | ok message =>
      obtain ⟨msg, rest⟩ := message
      rw [hside, hread] at hstep
      simp only at hstep
      cases haccept : library.readHandshake hs msg with
      | error error =>
        refine absurd ?_ (hfailed (noiseErr error))
        simp [NoiseSession.step, NoiseSession.initiatorRead, joined, hside, awaitHs, joinedPipe,
          hread, haccept]
      | ok after =>
        rw [haccept] at hstep
        simp only at hstep
        cases hmode : library.intoTransportMode after with
        | error error =>
          refine absurd ?_ (hfailed (noiseErr error))
          simp [NoiseSession.step, NoiseSession.initiatorRead, joined, hside, awaitHs,
            joinedPipe, hread, haccept, hmode]
        | ok states =>
          obtain ⟨sending, receiving⟩ := states
          rw [hmode] at hstep
          obtain rfl := Option.some.inj hstep
          refine hpair.moved htagged hvalid ?_ ⟨rfl, rfl⟩ hup hdown
          simp [NoiseSession.step, NoiseSession.initiatorRead, joined, hside, awaitHs,
            joinedPipe, hread, haccept, hmode]
  | _ =>
    rw [hside] at hstep
    cases hstep

theorem pair_responderRead (htagged : library.toSnow.Tagged)
    (hpair : NoisePair transcript client server)
    (hstep : server.responderRead library = some next)
    (hup : next.taken <+: client.written) (hdown : client.taken <+: next.written) :
    NoisePair transcript client next := by
  have hvalid : NoiseAction.responderRead.Valid := valid_of_not_send fun _ ↦ by simp
  unfold NoiseEnd.responderRead at hstep
  cases hside : server.side with
  | built hs =>
    cases hread : readHs server.segments with
    | error error =>
      rw [hside, hread] at hstep
      cases hstep
    | ok message =>
      obtain ⟨msg, rest⟩ := message
      rw [hside, hread] at hstep
      simp only at hstep
      cases haccept : library.readHandshake hs msg with
      | error error =>
        have hfail : (joined client server).step library .responderRead =
            some ((joined client server).failResponder (noiseErr error)) := by
          simp [NoiseSession.step, NoiseSession.responderRead, joined, hside, awaitHs, joinedPipe,
            hread, haccept]
        have hnone := (unfailed_of_step htagged hpair hvalid hfail rfl).2
        cases hnone
      | ok after =>
        rw [haccept] at hstep
        obtain rfl := Option.some.inj hstep
        refine hpair.moved htagged hvalid ?_ ⟨rfl, rfl⟩ hup hdown
        simp [NoiseSession.step, NoiseSession.responderRead, joined, hside, awaitHs, joinedPipe,
          hread, haccept]
  | _ =>
    rw [hside] at hstep
    cases hstep

theorem pair_responderWrite (htagged : library.toSnow.Tagged)
    (hpair : NoisePair transcript client server)
    (hstep : server.responderWrite library = some next)
    (hup : next.taken <+: client.written) (hdown : client.taken <+: next.written) :
    NoisePair transcript client next := by
  have hvalid : NoiseAction.responderWrite.Valid := valid_of_not_send fun _ ↦ by simp
  have hfailed : ∀ error, (joined client server).step library .responderWrite ≠
      some ((joined client server).failResponder error) := by
    intro error hfail
    have hnone := (unfailed_of_step htagged hpair hvalid hfail rfl).2
    cases hnone
  unfold NoiseEnd.responderWrite at hstep
  cases hside : server.side with
  | read hs =>
    rw [hside] at hstep
    simp only at hstep
    cases hwrite : library.writeHandshake hs with
    | error error =>
      refine absurd ?_ (hfailed (noiseErr error))
      simp [NoiseSession.step, NoiseSession.responderWrite, joined, hside, hwrite, joinedPipe]
    | ok written =>
      obtain ⟨msg, after⟩ := written
      rw [hwrite] at hstep
      simp only at hstep
      cases hmode : library.intoTransportMode after with
      | error error =>
        refine absurd ?_ (hfailed (noiseErr error))
        simp [NoiseSession.step, NoiseSession.responderWrite, joined, hside, hwrite, joinedPipe,
          hmode]
      | ok states =>
        obtain ⟨sending, receiving⟩ := states
        rw [hmode] at hstep
        obtain rfl := Option.some.inj hstep
        refine hpair.moved htagged hvalid ?_ ⟨rfl, rfl⟩ hup hdown
        simp [NoiseSession.step, NoiseSession.responderWrite, joined, hside, hwrite, joinedPipe,
          hmode, drop_written hpair.down]
  | _ =>
    rw [hside] at hstep
    cases hstep

theorem pair_client (htagged : library.toSnow.Tagged)
    (hpair : NoisePair transcript client server) {action : NoiseEndAction}
    (hstep : NoiseEnd.step library (NoiseEnd.initiatorWrite library)
      (NoiseEnd.initiatorRead library) client action = some next)
    (hup : server.taken <+: next.written) (hdown : next.taken <+: server.written) :
    NoisePair transcript next server := by
  simp only [NoiseEnd.step, hpair.clientWell, Bool.false_eq_true, if_false] at hstep
  cases action with
  | writeHs => exact pair_initiatorWrite htagged hpair hstep hup hdown
  | readHs => exact pair_initiatorRead htagged hpair hstep hup hdown
  | take segment =>
    obtain rfl := Option.some.inj hstep
    have hvalid : NoiseAction.Valid (.down (.arrive segment.val.length)) :=
      valid_of_not_send fun _ ↦ by simp
    have hready : (joined client server).down.isReady (.arrive segment.val.length) = true := rfl
    exact hpair.moved htagged hvalid (NoiseSession.step_down hready (joinedPipe_take hdown))
      ⟨hpair.clientWell.symm, rfl⟩ hup hdown
  | send frame =>
    obtain ⟨hside, hwell, -, hreads⟩ := @NoiseEnd.send_frame _ _ _ _ _ server _ _ hstep
    obtain rfl | ⟨hready, hsend⟩ := joinedPipe_send hpair.up hstep
    · exact hpair
    · have hvalid : NoiseAction.Valid (.up (.send frame.val)) := by
        rintro other (h | h)
        · cases h
          exact frame.property
        · cases h
      refine hpair.moved htagged hvalid ?_ ⟨hwell, rfl⟩ hup hdown
      rw [NoiseSession.step_up hready hsend]
      simp only [joined, hside, hreads]
      rfl
  | recv =>
    obtain ⟨hside, -, -, hwrites⟩ := @NoiseEnd.recv_frame _ _ _ _ server _ _ hstep
    obtain ⟨hready, ⟨hwell, hrecv⟩ | ⟨failed, error, hrecv, herror, hclosed⟩⟩ :=
      @joinedPipe_recv _ _ _ _ server _ _ hstep
    · have hvalid : NoiseAction.Valid (.down .recv) := valid_of_not_send fun _ ↦ by simp
      have hready' : (joined client server).down.isReady .recv = true := hready
      have htaken := NoiseSession.step_down hready' hrecv
      refine hpair.moved htagged hvalid (htaken.trans ?_) ⟨hwell, rfl⟩ hup hdown
      simp only [joined, hside, hwrites]
      rfl
    · exact (no_failure htagged hpair (.inl ⟨hready, hrecv⟩) herror hclosed).elim

theorem pair_server (htagged : library.toSnow.Tagged)
    (hpair : NoisePair transcript client server) {action : NoiseEndAction}
    (hstep : NoiseEnd.step library (NoiseEnd.responderWrite library)
      (NoiseEnd.responderRead library) server action = some next)
    (hup : next.taken <+: client.written) (hdown : client.taken <+: next.written) :
    NoisePair transcript client next := by
  simp only [NoiseEnd.step, hpair.serverWell, Bool.false_eq_true, if_false] at hstep
  cases action with
  | writeHs => exact pair_responderWrite htagged hpair hstep hup hdown
  | readHs => exact pair_responderRead htagged hpair hstep hup hdown
  | take segment =>
    obtain rfl := Option.some.inj hstep
    have hvalid : NoiseAction.Valid (.up (.arrive segment.val.length)) :=
      valid_of_not_send fun _ ↦ by simp
    have hready : (joined client server).up.isReady (.arrive segment.val.length) = true := rfl
    exact hpair.moved htagged hvalid (NoiseSession.step_up hready (joinedPipe_take hup))
      ⟨rfl, hpair.serverWell.symm⟩ hup hdown
  | send frame =>
    obtain ⟨hside, hwell, -, hreads⟩ := @NoiseEnd.send_frame _ _ _ _ _ client _ _ hstep
    obtain rfl | ⟨hready, hsend⟩ := joinedPipe_send hpair.down hstep
    · exact hpair
    · have hvalid : NoiseAction.Valid (.down (.send frame.val)) := by
        rintro other (h | h)
        · cases h
        · cases h
          exact frame.property
      refine hpair.moved htagged hvalid ?_ ⟨rfl, hwell⟩ hup hdown
      rw [NoiseSession.step_down hready hsend]
      simp only [joined, hside, hreads]
      rfl
  | recv =>
    obtain ⟨hside, -, -, hwrites⟩ := @NoiseEnd.recv_frame _ _ _ _ client _ _ hstep
    obtain ⟨hready, ⟨hwell, hrecv⟩ | ⟨failed, error, hrecv, herror, hclosed⟩⟩ :=
      @joinedPipe_recv _ _ _ _ client _ _ hstep
    · have hvalid : NoiseAction.Valid (.up .recv) := valid_of_not_send fun _ ↦ by simp
      have hready' : (joined client server).up.isReady .recv = true := hready
      have htaken := NoiseSession.step_up hready' hrecv
      refine hpair.moved htagged hvalid (htaken.trans ?_) ⟨rfl, hwell⟩ hup hdown
      simp only [joined, hside, hwrites]
      rfl
    · exact (no_failure htagged hpair (.inr ⟨hready, hrecv⟩) herror hclosed).elim

/-- Ends that were built with one key are faithful, whatever stream is between them. -/
theorem noise_faithful (htagged : library.toSnow.Tagged) (hcompletes : Completes library) :
    (noiseTransport library).Faithful := by
  refine ⟨fun client server ↦ ∃ (setup : NoiseSetup library)
    (transcript : Transcript library setup.initiator setup.responder),
      NoisePair transcript client server, ⟨?_, ?_, ?_, ?_, ?_⟩⟩
  · intro setup
    obtain ⟨transcript⟩ := hcompletes setup.psk setup.initiatorSeed setup.responderSeed
      setup.initiator setup.responder setup.builtInitiator setup.builtResponder
    exact ⟨setup, transcript, rfl, rfl, List.nil_prefix, List.nil_prefix, .built, follows_start⟩
  · rintro client server action next ⟨setup, transcript, hpair⟩ hstep ⟨hup, hdown⟩
    exact ⟨setup, transcript, pair_client htagged hpair hstep hup hdown⟩
  · rintro client server action next ⟨setup, transcript, hpair⟩ hstep ⟨hup, hdown⟩
    exact ⟨setup, transcript, pair_server htagged hpair hstep hup hdown⟩
  · rintro client server ⟨setup, transcript, hpair⟩
    obtain ⟨place, hfollows⟩ := hpair.follows
    exact ⟨hfollows.up.received_prefix, hfollows.down.received_prefix⟩
  · rintro client server ⟨setup, transcript, hpair⟩
    exact ⟨hpair.clientWell, hpair.serverWell⟩

end Joined

end EntroTunnel.Link
