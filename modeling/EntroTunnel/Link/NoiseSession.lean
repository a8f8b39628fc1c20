import EntroTunnel.Foundation.Reach
import EntroTunnel.Link.NoiseHandshake

/-!
# Both ends of a Noise connection

What the two handshake functions and the halves of the channel do together, in every order of the
steps of the ends and of the network (`NoiseSession`).

With one key the ends go through five places (`Place`), and the invariant `Follows` says what is on
the stream at each: nothing, the message of the initiator, nothing, the message of the responder
with the frames that the responder already sends behind it, and frames only. An end reads its
message off the stream and no byte more, so the first frames are not lost with it. With different
keys the responder stops at the first message (`Refused`).
-/

set_option autoImplicit false
set_option relaxedAutoImplicit false

namespace EntroTunnel.Link

open EntroTunnel.Foundation EntroTunnel.Core

section Library

variable {η σ τ : Type*}

/-- A handshake between two ends, and the cipher states it ends with. -/
structure Transcript (library : NoiseLibrary η σ τ) (initiator responder : η) where
  first : Bytes
  second : Bytes
  waiting : η
  answering : η
  initiatorDone : η
  responderDone : η
  upSender : σ
  upReceiver : τ
  downSender : σ
  downReceiver : τ
  writeFirst : library.writeHandshake initiator = .ok (first, waiting)
  readFirst : library.readHandshake responder first = .ok answering
  writeSecond : library.writeHandshake answering = .ok (second, responderDone)
  readSecond : library.readHandshake waiting second = .ok initiatorDone
  initiatorTransport : library.intoTransportMode initiatorDone = .ok (upSender, downReceiver)
  responderTransport : library.intoTransportMode responderDone = .ok (downSender, upReceiver)
  upInOrder : library.toSnow.InOrder upSender upReceiver
  downInOrder : library.toSnow.InOrder downSender downReceiver
  first_le : first.length ≤ 1024
  second_le : second.length ≤ 1024

/-- Ends with one key complete the handshake with each other. -/
def Completes (library : NoiseLibrary η σ τ) : Prop :=
  ∀ psk initiatorSeed responderSeed initiator responder,
    library.buildInitiator psk initiatorSeed = .ok initiator →
      library.buildResponder psk responderSeed = .ok responder →
        Nonempty (Transcript library initiator responder)

/-- The first message fits the buffer, and an end with another key does not accept it. -/
def Rejects (library : NoiseLibrary η σ τ) : Prop :=
  ∀ initiatorPsk responderPsk initiatorSeed responderSeed initiator responder,
    initiatorPsk ≠ responderPsk →
      library.buildInitiator initiatorPsk initiatorSeed = .ok initiator →
        library.buildResponder responderPsk responderSeed = .ok responder →
          ∀ first waiting, library.writeHandshake initiator = .ok (first, waiting) →
            first.length ≤ 1024 ∧ ∃ error, library.readHandshake responder first = .error error

end Library

/-! ### Handshake messages off the stream -/

theorem length_writeHs (data : Bytes) :
    (writeU16 (UInt16.ofNat data.length)).length = 2 :=
  length_beBytes 2 _

theorem lt_size_of_le {data : Bytes} (hfits : data.length ≤ 1024) : data.length < UInt16.size :=
  lt_of_le_of_lt hfits (by decide)

/-- A handshake message is read off the stream, and what is behind it stays. -/
theorem readHs_of_content {data more : Bytes} {segments : List Segment}
    (hfits : data.length ≤ 1024) (hcontent : content segments = writeHs data ++ more) :
    ∃ rest, readHs segments = .ok (data, rest) ∧ content rest = more := by
  rw [writeHs, List.append_assoc] at hcontent
  obtain ⟨body, hhead, hbody⟩ := readExact_of_content hcontent
  obtain ⟨rest, hread, hrest⟩ := readExact_of_content hbody
  rw [length_writeHs] at hhead
  refine ⟨rest, ?_, hrest⟩
  simp only [readHs, hhead, beValue_writeU16 (lt_size_of_le hfits), hread]

/-- Nothing is read from a part of a handshake message. -/
theorem readHs_of_cut {data : Bytes} {segments : List Segment} {position : ℕ}
    (hfits : data.length ≤ 1024) (hposition : position < (writeHs data).length)
    (hcontent : content segments = (writeHs data).take position) :
    readHs segments = .error (.io "early eof") := by
  obtain ⟨-, hhead⟩ | ⟨-, rest, hhead, hbody⟩ := readExact_of_cut hposition hcontent
  · rw [length_writeHs] at hhead
    rw [readHs, hhead]
  · rw [length_writeHs] at hhead
    simp only [readHs, hhead, beValue_writeU16 (lt_size_of_le hfits), hbody]

theorem readHs_of_nil {segments : List Segment} (hcontent : content segments = []) :
    readHs segments = .error (.io "early eof") := by
  rw [readHs, readExact_eq_none (by rw [hcontent]; exact Nat.zero_lt_two)]

section Awaiting

variable {σ τ : Type*} {pipe : Pipe (Option σ) (Option τ) Frame ChannelError}
  {result : Except Error (Bytes × List Segment)}

/-- A message that is not there is an error at the end of the stream only. -/
theorem awaitHs_of_error {error : Error} (hread : readHs pipe.arrived = .error error)
    (hawait : awaitHs pipe = some result) : result = .error error ∧ pipe.closed = true := by
  simp only [awaitHs, hread] at hawait
  split_ifs at hawait with hended
  exact ⟨(Option.some.inj hawait).symm, hended.1⟩

variable {transfer : Transfer σ τ Frame ChannelError} {Valid : Frame → Prop}
  {Matches : σ → τ → Prop} {ended : ChannelError} {firstSender : σ} {firstReceiver : τ}
  {senderReady broken : Bool}

theorem broken_of_closed {header : Bytes} {receiverReady : Bool}
    (hbegins : Pipe.Begins transfer Valid Matches ended firstSender firstReceiver header senderReady
      receiverReady broken pipe) (hclosed : pipe.closed = true) : broken = true := by
  by_contra hbroken
  rw [(hbegins.unbroken (Bool.not_eq_true _ ▸ hbroken)).1] at hclosed
  cases hclosed

/-- An end that waits for a message reads that message, or the connection is broken. -/
theorem awaitHs_cases {data : Bytes} (hfits : data.length ≤ 1024)
    (hbegins : Pipe.Begins transfer Valid Matches ended firstSender firstReceiver (writeHs data)
      senderReady false broken pipe) (hawait : awaitHs pipe = some result) :
    (∃ rest, result = .ok (data, rest) ∧
      Pipe.Begins transfer Valid Matches ended firstSender firstReceiver [] senderReady false broken
        { pipe with arrived := rest }) ∨
      ∃ error, result = .error error ∧ broken = true := by
  obtain ⟨bytes, hbytes, -⟩ := hbegins.header_bytes
  have harrived : content pipe.arrived <+: writeHs data ++ bytes :=
    (List.prefix_append _ _).trans hbytes
  rcases Pipe.arrived_cases harrived with ⟨more, hcontent, -⟩ | ⟨position, hposition, hcontent⟩
  · obtain ⟨rest, hread, hrest⟩ := readHs_of_content hfits hcontent
    simp only [awaitHs, hread] at hawait
    refine .inl ⟨rest, (Option.some.inj hawait).symm, hbegins.readHeader ?_⟩
    rw [hcontent, hrest]
  · obtain ⟨rfl, hclosed⟩ := awaitHs_of_error (readHs_of_cut hfits hposition hcontent) hawait
    exact .inr ⟨_, rfl, broken_of_closed hbegins hclosed⟩

/-- An end that waits before the other has written anything. -/
theorem awaitHs_nothing
    (hbegins : Pipe.Begins transfer Valid Matches ended firstSender firstReceiver [] false false
      broken pipe) (hawait : awaitHs pipe = some result) :
    ∃ error, result = .error error ∧ broken = true := by
  obtain ⟨rfl, hclosed⟩ := awaitHs_of_error (readHs_of_nil hbegins.nothing) hawait
  exact ⟨_, rfl, broken_of_closed hbegins hclosed⟩

end Awaiting

/-! ### One key -/

/-- How far both ends have come. -/
inductive Place
  | built
  | greeted
  | answering
  | answered
  | transport
  deriving DecidableEq

namespace Place

variable {η σ τ : Type*} {library : NoiseLibrary η σ τ} {initiator responder : η}

def initiatorSide (transcript : Transcript library initiator responder) : Place → HandshakeSide η
  | built => .built initiator
  | greeted | answering | answered => .written transcript.waiting
  | transport => .transport

def responderSide (transcript : Transcript library initiator responder) : Place → HandshakeSide η
  | built | greeted => .built responder
  | answering => .read transcript.answering
  | answered | transport => .transport

/-- What is in front of the frames of the initiator. -/
def upHeader (transcript : Transcript library initiator responder) : Place → Bytes
  | greeted => writeHs transcript.first
  | _ => []

/-- What is in front of the frames of the responder. -/
def downHeader (transcript : Transcript library initiator responder) : Place → Bytes
  | answered => writeHs transcript.second
  | _ => []

def initiatorReady : Place → Bool
  | transport => true
  | _ => false

def responderReady : Place → Bool
  | answered | transport => true
  | _ => false

end Place

section OneKey

variable {η σ τ : Type*} {library : NoiseLibrary η σ τ} {initiator responder : η}

/-- Both ends are at a place of their handshake, with the messages of that place on the stream. -/
structure Follows (transcript : Transcript library initiator responder) (place : Place)
    (session : NoiseSession η σ τ) : Prop where
  initiator : session.initiator = place.initiatorSide transcript
  responder : session.responder = place.responderSide transcript
  up : Pipe.Begins (frameTransfer (noiseFraming library.toSnow)) Frame.Buildable
    library.toSnow.InOrder (.link .closed) transcript.upSender transcript.upReceiver
    (place.upHeader transcript) place.initiatorReady place.responderReady session.broken session.up
  down : Pipe.Begins (frameTransfer (noiseFraming library.toSnow)) Frame.Buildable
    library.toSnow.InOrder (.link .closed) transcript.downSender transcript.downReceiver
    (place.downHeader transcript) place.responderReady place.initiatorReady session.broken
    session.down
  unfailed : session.broken = false →
    session.initiatorError = none ∧ session.responderError = none

variable {transcript : Transcript library initiator responder} {place : Place}
  {session next : NoiseSession η σ τ}

theorem follows_start : Follows transcript .built (NoiseSession.start initiator responder) where
  initiator := rfl
  responder := rfl
  up := Pipe.begins_fresh transcript.upInOrder
  down := Pipe.begins_fresh transcript.downInOrder
  unfailed := fun _ ↦ ⟨rfl, rfl⟩

/-- An end gives up on a broken connection. -/
theorem Follows.failInitiator (hfollows : Follows transcript place session)
    (hbroken : session.broken = true) (error : Error) :
    Follows transcript place (session.failInitiator error) where
  initiator := hfollows.initiator
  responder := hfollows.responder
  up := by
    have hup := hfollows.up
    rw [hbroken] at hup
    change Pipe.Begins _ _ _ _ _ _ _ _ _ session.broken _
    rw [hbroken]
    exact hup.close
  down := hfollows.down
  unfailed := fun hunbroken ↦ by
    change session.broken = false at hunbroken
    rw [hbroken] at hunbroken
    cases hunbroken

theorem Follows.failResponder (hfollows : Follows transcript place session)
    (hbroken : session.broken = true) (error : Error) :
    Follows transcript place (session.failResponder error) where
  initiator := hfollows.initiator
  responder := hfollows.responder
  up := hfollows.up
  down := by
    have hdown := hfollows.down
    rw [hbroken] at hdown
    change Pipe.Begins _ _ _ _ _ _ _ _ _ session.broken _
    rw [hbroken]
    exact hdown.close
  unfailed := fun hunbroken ↦ by
    change session.broken = false at hunbroken
    rw [hbroken] at hunbroken
    cases hunbroken

/-- The initiator writes in the first place only, and unless its end is closed the ends have come to
the second. -/
theorem Follows.initiatorWrite (hfollows : Follows transcript place session)
    (hstep : session.initiatorWrite library = some next) :
    place = .built ∧ (Follows transcript .greeted next ∧ next.broken = session.broken ∨
      Follows transcript .built next ∧ session.broken = true) := by
  obtain ⟨hinitiator, hresponder, hup, hdown, hunfailed⟩ := hfollows
  cases place with
  | built =>
    refine ⟨rfl, ?_⟩
    simp only [NoiseSession.initiatorWrite, hinitiator, Place.initiatorSide, transcript.writeFirst,
      Option.some.injEq] at hstep
    split_ifs at hstep with hclosed
    · obtain rfl := hstep
      have hbroken := broken_of_closed hup hclosed
      exact .inr ⟨Follows.failInitiator ⟨hinitiator, hresponder, hup, hdown, hunfailed⟩ hbroken _,
        hbroken⟩
    · obtain rfl := hstep
      have hwritten := hup.writeHeader (Bool.not_eq_true _ ▸ hclosed) (writeHs transcript.first)
      exact .inl ⟨⟨rfl, hresponder, hwritten, hdown, hunfailed⟩, rfl⟩
  | _ =>
    simp only [NoiseSession.initiatorWrite, hinitiator, Place.initiatorSide, reduceCtorEq] at hstep

/-- The initiator reads the answer, and both ends are in transport mode. -/
theorem Follows.initiatorRead (hfollows : Follows transcript place session)
    (hstep : session.initiatorRead library = some next) :
    (place = .answered ∧ Follows transcript .transport next ∧ next.broken = session.broken) ∨
      Follows transcript place next ∧ session.broken = true := by
  obtain ⟨hinitiator, hresponder, hup, hdown, hunfailed⟩ := hfollows
  have hsame : Follows transcript place session :=
    ⟨hinitiator, hresponder, hup, hdown, hunfailed⟩
  cases place with
  | built | transport =>
    simp only [NoiseSession.initiatorRead, hinitiator, Place.initiatorSide, reduceCtorEq] at hstep
  | greeted | answering =>
    simp only [NoiseSession.initiatorRead, hinitiator, Place.initiatorSide] at hstep
    obtain ⟨result, hawait, rfl⟩ := Option.map_eq_some_iff.mp hstep
    obtain ⟨error, rfl, hbroken⟩ := awaitHs_nothing hdown hawait
    exact .inr ⟨hsame.failInitiator hbroken error, hbroken⟩
  | answered =>
    simp only [NoiseSession.initiatorRead, hinitiator, Place.initiatorSide] at hstep
    obtain ⟨result, hawait, rfl⟩ := Option.map_eq_some_iff.mp hstep
    rcases awaitHs_cases transcript.second_le hdown hawait with
      ⟨rest, rfl, hrest⟩ | ⟨error, rfl, hbroken⟩
    · refine .inl ⟨rfl, ?_⟩
      simp only [transcript.readSecond, transcript.initiatorTransport]
      exact ⟨⟨rfl, hresponder, hup.readySender, hrest.readyReceiver, hunfailed⟩, trivial⟩
    · exact .inr ⟨hsame.failInitiator hbroken error, hbroken⟩

/-- The responder reads the first message. -/
theorem Follows.responderRead (hfollows : Follows transcript place session)
    (hstep : session.responderRead library = some next) :
    (place = .greeted ∧ Follows transcript .answering next ∧ next.broken = session.broken) ∨
      Follows transcript place next ∧ session.broken = true := by
  obtain ⟨hinitiator, hresponder, hup, hdown, hunfailed⟩ := hfollows
  have hsame : Follows transcript place session :=
    ⟨hinitiator, hresponder, hup, hdown, hunfailed⟩
  cases place with
  | answering | answered | transport =>
    simp only [NoiseSession.responderRead, hresponder, Place.responderSide, reduceCtorEq] at hstep
  | built =>
    simp only [NoiseSession.responderRead, hresponder, Place.responderSide] at hstep
    obtain ⟨result, hawait, rfl⟩ := Option.map_eq_some_iff.mp hstep
    obtain ⟨error, rfl, hbroken⟩ := awaitHs_nothing hup hawait
    exact .inr ⟨hsame.failResponder hbroken error, hbroken⟩
  | greeted =>
    simp only [NoiseSession.responderRead, hresponder, Place.responderSide] at hstep
    obtain ⟨result, hawait, rfl⟩ := Option.map_eq_some_iff.mp hstep
    rcases awaitHs_cases transcript.first_le hup hawait with
      ⟨rest, rfl, hrest⟩ | ⟨error, rfl, hbroken⟩
    · refine .inl ⟨rfl, ?_⟩
      simp only [transcript.readFirst]
      exact ⟨⟨hinitiator, rfl, hrest, hdown, hunfailed⟩, trivial⟩
    · exact .inr ⟨hsame.failResponder hbroken error, hbroken⟩

/-- The responder answers, and has the halves of its channel. -/
theorem Follows.responderWrite (hfollows : Follows transcript place session)
    (hstep : session.responderWrite library = some next) :
    place = .answering ∧ (Follows transcript .answered next ∧ next.broken = session.broken ∨
      Follows transcript .answering next ∧ session.broken = true) := by
  obtain ⟨hinitiator, hresponder, hup, hdown, hunfailed⟩ := hfollows
  cases place with
  | answering =>
    refine ⟨rfl, ?_⟩
    simp only [NoiseSession.responderWrite, hresponder, Place.responderSide, transcript.writeSecond,
      transcript.responderTransport, Option.some.injEq] at hstep
    split_ifs at hstep with hclosed
    · obtain rfl := hstep
      have hbroken := broken_of_closed hdown hclosed
      exact .inr ⟨Follows.failResponder ⟨hinitiator, hresponder, hup, hdown, hunfailed⟩ hbroken _,
        hbroken⟩
    · obtain rfl := hstep
      have hwritten := hdown.writeHeader (Bool.not_eq_true _ ▸ hclosed) (writeHs transcript.second)
      exact .inl ⟨⟨hinitiator, rfl, hup.readyReceiver, hwritten.readySender, hunfailed⟩, rfl⟩
  | _ =>
    simp only [NoiseSession.responderWrite, hresponder, Place.responderSide, reduceCtorEq] at hstep

/-- The frames that a step is asked to send are frames. -/
def NoiseAction.Valid (action : NoiseAction) : Prop :=
  ∀ frame, action = .up (.send frame) ∨ action = .down (.send frame) → frame.Buildable

theorem channel_reliable (htagged : library.toSnow.Tagged) :
    Pipe.Reliable (frameTransfer (noiseFraming library.toSnow)) Frame.Buildable
      library.toSnow.InOrder (.link .closed) :=
  frames_reliable (noise_delivers htagged) (noise_waits htagged) fun _ ↦ rfl

theorem Follows.up_step (htagged : library.toSnow.Tagged)
    (hfollows : Follows transcript place session) {action : PipeAction Frame}
    (hvalid : NoiseAction.Valid (.up action))
    (hstep : session.step library (.up action) = some next) : Follows transcript place next := by
  simp only [NoiseSession.step] at hstep
  split_ifs at hstep with hready
  obtain ⟨up, hup, rfl⟩ := Option.map_eq_some_iff.mp hstep
  refine ⟨hfollows.initiator, hfollows.responder, ?_, ?_, fun hbroken ↦ ?_⟩
  · exact hfollows.up.step (channel_reliable htagged)
      (fun frame hframe ↦ hvalid frame (.inl (congrArg _ hframe))) hready hup
  · exact hfollows.down.weaken fun hbroken ↦ (Bool.or_eq_false_iff.mp hbroken).1
  · exact hfollows.unfailed (Bool.or_eq_false_iff.mp hbroken).1

theorem Follows.down_step (htagged : library.toSnow.Tagged)
    (hfollows : Follows transcript place session) {action : PipeAction Frame}
    (hvalid : NoiseAction.Valid (.down action))
    (hstep : session.step library (.down action) = some next) : Follows transcript place next := by
  simp only [NoiseSession.step] at hstep
  split_ifs at hstep with hready
  obtain ⟨down, hdown, rfl⟩ := Option.map_eq_some_iff.mp hstep
  refine ⟨hfollows.initiator, hfollows.responder, ?_, ?_, fun hbroken ↦ ?_⟩
  · exact hfollows.up.weaken fun hbroken ↦ (Bool.or_eq_false_iff.mp hbroken).1
  · exact hfollows.down.step (channel_reliable htagged)
      (fun frame hframe ↦ hvalid frame (.inr (congrArg _ hframe))) hready hdown
  · exact hfollows.unfailed (Bool.or_eq_false_iff.mp hbroken).1

/-- Every step leaves both ends at a place of the handshake. -/
theorem Follows.step (htagged : library.toSnow.Tagged)
    (hfollows : Follows transcript place session) {action : NoiseAction}
    (hvalid : action.Valid) (hstep : session.step library action = some next) :
    ∃ place, Follows transcript place next := by
  cases action with
  | initiatorWrite =>
    simp only [NoiseSession.step] at hstep
    split_ifs at hstep
    obtain ⟨-, ⟨hnext, -⟩ | ⟨hnext, -⟩⟩ := hfollows.initiatorWrite hstep
    · exact ⟨_, hnext⟩
    · exact ⟨_, hnext⟩
  | initiatorRead =>
    simp only [NoiseSession.step] at hstep
    split_ifs at hstep
    obtain ⟨-, hnext, -⟩ | ⟨hnext, -⟩ := hfollows.initiatorRead hstep
    · exact ⟨_, hnext⟩
    · exact ⟨_, hnext⟩
  | responderRead =>
    simp only [NoiseSession.step] at hstep
    split_ifs at hstep
    obtain ⟨-, hnext, -⟩ | ⟨hnext, -⟩ := hfollows.responderRead hstep
    · exact ⟨_, hnext⟩
    · exact ⟨_, hnext⟩
  | responderWrite =>
    simp only [NoiseSession.step] at hstep
    split_ifs at hstep
    obtain ⟨-, ⟨hnext, -⟩ | ⟨hnext, -⟩⟩ := hfollows.responderWrite hstep
    · exact ⟨_, hnext⟩
    · exact ⟨_, hnext⟩
  | up action => exact ⟨place, hfollows.up_step htagged hvalid hstep⟩
  | down action => exact ⟨place, hfollows.down_step htagged hvalid hstep⟩

theorem follows_of_run (htagged : library.toSnow.Tagged)
    (transcript : Transcript library initiator responder) {actions : List NoiseAction}
    (hvalid : ∀ action ∈ actions, action.Valid)
    (hrun : run (NoiseSession.step library) (NoiseSession.start initiator responder) actions =
      some session) : ∃ place, Follows transcript place session := by
  have hkept : ∀ state action next, (∃ place, Follows transcript place state) →
      NoiseAction.Valid action → NoiseSession.step library state action = some next →
        ∃ place, Follows transcript place next := by
    rintro state action next ⟨place, hfollows⟩ haction hstep
    exact hfollows.step htagged haction hstep
  exact kept_of_run _ hkept hvalid hrun ⟨.built, follows_start⟩

/-! ### Progress -/

theorem NoiseSession.step_up {action : PipeAction Frame}
    {up : Pipe (Option σ) (Option τ) Frame ChannelError}
    (hready : session.up.isReady action = true)
    (hstep : session.up.step (channelTransfer library) action = some up) :
    session.step library (.up action) =
      some { session with up, broken := session.broken || Pipe.breaks action } := by
  rw [NoiseSession.step, if_pos hready, hstep]
  rfl

theorem NoiseSession.step_down {action : PipeAction Frame}
    {down : Pipe (Option σ) (Option τ) Frame ChannelError}
    (hready : session.down.isReady action = true)
    (hstep : session.down.step (channelTransfer library) action = some down) :
    session.step library (.down action) =
      some { session with down, broken := session.broken || Pipe.breaks action } := by
  rw [NoiseSession.step, if_pos hready, hstep]
  rfl

/-- A step of the handshake, or one that delivers what was sent. -/
def NoiseAction.proceeds : NoiseAction → Bool
  | .up action | .down action => Pipe.delivers action
  | _ => true

/-- What is on the way to the responder arrives. -/
theorem Follows.arriveUp (htagged : library.toSnow.Tagged)
    (hfollows : Follows transcript place session) :
    ∃ actions next, (∀ action ∈ actions, NoiseAction.proceeds action = true) ∧
      run (NoiseSession.step library) session actions = some next ∧ Follows transcript place next ∧
        next.up.flight = [] ∧ next.broken = session.broken := by
  by_cases hflight : session.up.flight = []
  · exact ⟨[], session, List.forall_mem_nil _, rfl, hfollows, hflight, rfl⟩
  · have hpiece : session.up.flight.take session.up.flight.length ≠ [] := by
      rwa [List.take_length]
    obtain ⟨up, hup, hnone⟩ : ∃ up, session.up.step (channelTransfer library)
        (.arrive session.up.flight.length) = some up ∧ up.flight = [] :=
      ⟨_, Pipe.step_arrive hpiece, List.drop_length⟩
    have hstep : session.step library (.up (.arrive session.up.flight.length)) =
        some { session with up, broken := session.broken || false } :=
      NoiseSession.step_up rfl hup
    refine ⟨[.up (.arrive session.up.flight.length)], _, List.forall_mem_singleton.mpr rfl, ?_,
      hfollows.up_step htagged ?_ hstep, hnone, Bool.or_false _⟩
    · rw [run_cons, hstep]
      rfl
    · rintro frame (hsend | hsend) <;> cases hsend

/-- What is on the way to the initiator arrives. -/
theorem Follows.arriveDown (htagged : library.toSnow.Tagged)
    (hfollows : Follows transcript place session) :
    ∃ actions next, (∀ action ∈ actions, NoiseAction.proceeds action = true) ∧
      run (NoiseSession.step library) session actions = some next ∧ Follows transcript place next ∧
        next.down.flight = [] ∧ next.broken = session.broken := by
  by_cases hflight : session.down.flight = []
  · exact ⟨[], session, List.forall_mem_nil _, rfl, hfollows, hflight, rfl⟩
  · have hpiece : session.down.flight.take session.down.flight.length ≠ [] := by
      rwa [List.take_length]
    obtain ⟨down, hdown, hnone⟩ : ∃ down, session.down.step (channelTransfer library)
        (.arrive session.down.flight.length) = some down ∧ down.flight = [] :=
      ⟨_, Pipe.step_arrive hpiece, List.drop_length⟩
    have hstep : session.step library (.down (.arrive session.down.flight.length)) =
        some { session with down, broken := session.broken || false } :=
      NoiseSession.step_down rfl hdown
    refine ⟨[.down (.arrive session.down.flight.length)], _, List.forall_mem_singleton.mpr rfl, ?_,
      hfollows.down_step htagged ?_ hstep, hnone, Bool.or_false _⟩
    · rw [run_cons, hstep]
      rfl
    · rintro frame (hsend | hsend) <;> cases hsend

/-- Deliveries to a ready server end, one after the other. -/
theorem NoiseSession.run_up {actions : List (PipeAction Frame)}
    {final : Pipe (Option σ) (Option τ) Frame ChannelError}
    (hready : session.up.sender.isSome = true ∧ session.up.receiver.isSome = true)
    (hall : ∀ action ∈ actions, Pipe.delivers action = true)
    (hrun : run (Pipe.step (channelTransfer library)) session.up actions = some final) :
    run (NoiseSession.step library) session (actions.map .up) =
      some { session with up := final } := by
  induction actions generalizing session with
  | nil =>
    obtain rfl := Option.some.inj hrun
    rfl
  | cons action rest ih =>
    obtain ⟨middle, hmiddle, hrest⟩ := run_cons_eq_some.mp hrun
    obtain ⟨hfirst, hlater⟩ := List.forall_mem_cons.mp hall
    obtain ⟨hsender, hreceiver⟩ := Pipe.isSome_of_step hmiddle
    have hend : session.up.isReady action = true := by
      cases action with
      | send value => exact hready.1
      | recv => exact hready.2
      | _ => rfl
    have hbroken : (session.broken || Pipe.breaks action) = session.broken := by
      cases action with
      | shutdown | lose kept => cases hfirst
      | _ => exact Bool.or_false _
    rw [List.map_cons, run_cons, NoiseSession.step_up hend hmiddle, hbroken, Option.bind_some]
    exact @ih { session with up := middle } ⟨hsender hready.1, hreceiver hready.2⟩ hlater hrest

/-- Deliveries to a ready client end, one after the other. -/
theorem NoiseSession.run_down {actions : List (PipeAction Frame)}
    {final : Pipe (Option σ) (Option τ) Frame ChannelError}
    (hready : session.down.sender.isSome = true ∧ session.down.receiver.isSome = true)
    (hall : ∀ action ∈ actions, Pipe.delivers action = true)
    (hrun : run (Pipe.step (channelTransfer library)) session.down actions = some final) :
    run (NoiseSession.step library) session (actions.map .down) =
      some { session with down := final } := by
  induction actions generalizing session with
  | nil =>
    obtain rfl := Option.some.inj hrun
    rfl
  | cons action rest ih =>
    obtain ⟨middle, hmiddle, hrest⟩ := run_cons_eq_some.mp hrun
    obtain ⟨hfirst, hlater⟩ := List.forall_mem_cons.mp hall
    obtain ⟨hsender, hreceiver⟩ := Pipe.isSome_of_step hmiddle
    have hend : session.down.isReady action = true := by
      cases action with
      | send value => exact hready.1
      | recv => exact hready.2
      | _ => rfl
    have hbroken : (session.broken || Pipe.breaks action) = session.broken := by
      cases action with
      | shutdown | lose kept => cases hfirst
      | _ => exact Bool.or_false _
    rw [List.map_cons, run_cons, NoiseSession.step_down hend hmiddle, hbroken, Option.bind_some]
    exact @ih { session with down := middle } ⟨hsender hready.1, hreceiver hready.2⟩ hlater hrest

/-- Both ends are in transport mode and have received what the other sent. -/
def NoiseSession.Finished (session : NoiseSession η σ τ) : Prop :=
  session.initiator = .transport ∧ session.responder = .transport ∧
    session.up.received = session.up.sent ∧ session.down.received = session.down.sent

/-- What can be reached by the steps of the handshake and by deliveries. -/
def Finishes (library : NoiseLibrary η σ τ) : NoiseSession η σ τ → Prop :=
  CanReach (NoiseSession.step library) (fun action ↦ action.proceeds = true) NoiseSession.Finished

/-- An end that waits on an unbroken stream reads the message that has arrived. -/
theorem awaitHs_arrived {transfer : Transfer σ τ Frame ChannelError} {Valid : Frame → Prop}
    {Matches : σ → τ → Prop} {ended : ChannelError} {firstSender : σ} {firstReceiver : τ}
    {senderReady : Bool} {pipe : Pipe (Option σ) (Option τ) Frame ChannelError} {data : Bytes}
    (hfits : data.length ≤ 1024)
    (hbegins : Pipe.Begins transfer Valid Matches ended firstSender firstReceiver (writeHs data)
      senderReady false false pipe) (hflight : pipe.flight = []) :
    ∃ rest, awaitHs pipe = some (.ok (data, rest)) := by
  obtain ⟨bytes, -, hwhole⟩ := hbegins.header_bytes
  have hcontent := hwhole (hbegins.unbroken rfl).2
  rw [hflight, List.append_nil] at hcontent
  obtain ⟨rest, hread, -⟩ := readHs_of_content hfits hcontent
  exact ⟨rest, by simp only [awaitHs, hread]⟩

theorem Follows.finishes_transport (htagged : library.toSnow.Tagged)
    (hfollows : Follows transcript .transport session) (hunbroken : session.broken = false) :
    Finishes library session := by
  obtain ⟨hinitiator, hresponder, hup, hdown, -⟩ := hfollows
  rw [hunbroken] at hup hdown
  have hreliable := channel_reliable htagged
  obtain ⟨upward, up, hupward, hruns, hsent, hsame⟩ := hup.drains hreliable
  obtain ⟨downward, down, hdownward, hfalls, hanswered, halike⟩ := hdown.drains hreliable
  have hfirst := NoiseSession.run_up ⟨hup.sender, hup.receiver.1⟩ hupward hruns
  have hsecond := @NoiseSession.run_down _ _ _ _ { session with up } _ _
    ⟨hdown.sender, hdown.receiver.1⟩ hdownward hfalls
  refine CanReach.of_run hfirst ?_ (CanReach.of_run hsecond ?_ (canReach_of_goal ?_))
  · rintro _ hmem
    obtain ⟨action, haction, rfl⟩ := List.mem_map.mp hmem
    exact hupward action haction
  · rintro _ hmem
    obtain ⟨action, haction, rfl⟩ := List.mem_map.mp hmem
    exact hdownward action haction
  · exact ⟨hinitiator, hresponder, hsent.trans hsame.symm, hanswered.trans halike.symm⟩

theorem Follows.finishes_answered (htagged : library.toSnow.Tagged)
    (hfollows : Follows transcript .answered session) (hunbroken : session.broken = false) :
    Finishes library session := by
  obtain ⟨actions, arrived, hall, hrun, harrived, hflight, hbroken⟩ := hfollows.arriveDown htagged
  rw [hunbroken] at hbroken
  have hdown := harrived.down
  rw [hbroken] at hdown
  obtain ⟨rest, hawait⟩ := awaitHs_arrived transcript.second_le hdown hflight
  obtain ⟨next, hread⟩ : ∃ next, arrived.initiatorRead library = some next := by
    simp only [NoiseSession.initiatorRead, harrived.initiator, Place.initiatorSide, hawait,
      Option.map_some]
    exact ⟨_, rfl⟩
  have hstep : arrived.step library .initiatorRead = some next :=
    (if_pos (harrived.unfailed hbroken).1).trans hread
  refine CanReach.of_run hrun hall (CanReach.of_step hstep rfl ?_)
  obtain ⟨-, hnext, hsame⟩ | ⟨-, hends⟩ := harrived.initiatorRead hread
  · exact hnext.finishes_transport htagged (hsame.trans hbroken)
  · rw [hbroken] at hends
    cases hends

theorem Follows.finishes_answering (htagged : library.toSnow.Tagged)
    (hfollows : Follows transcript .answering session) (hunbroken : session.broken = false) :
    Finishes library session := by
  obtain ⟨next, hwrite⟩ : ∃ next, session.responderWrite library = some next := by
    simp only [NoiseSession.responderWrite, hfollows.responder, Place.responderSide]
    exact ⟨_, rfl⟩
  have hstep : session.step library .responderWrite = some next :=
    (if_pos (hfollows.unfailed hunbroken).2).trans hwrite
  refine CanReach.of_step hstep rfl ?_
  obtain ⟨-, ⟨hnext, hsame⟩ | ⟨-, hends⟩⟩ := hfollows.responderWrite hwrite
  · exact hnext.finishes_answered htagged (hsame.trans hunbroken)
  · rw [hunbroken] at hends
    cases hends

theorem Follows.finishes_greeted (htagged : library.toSnow.Tagged)
    (hfollows : Follows transcript .greeted session) (hunbroken : session.broken = false) :
    Finishes library session := by
  obtain ⟨actions, arrived, hall, hrun, harrived, hflight, hbroken⟩ := hfollows.arriveUp htagged
  rw [hunbroken] at hbroken
  have hup := harrived.up
  rw [hbroken] at hup
  obtain ⟨rest, hawait⟩ := awaitHs_arrived transcript.first_le hup hflight
  obtain ⟨next, hread⟩ : ∃ next, arrived.responderRead library = some next := by
    simp only [NoiseSession.responderRead, harrived.responder, Place.responderSide, hawait,
      Option.map_some]
    exact ⟨_, rfl⟩
  have hstep : arrived.step library .responderRead = some next :=
    (if_pos (harrived.unfailed hbroken).2).trans hread
  refine CanReach.of_run hrun hall (CanReach.of_step hstep rfl ?_)
  obtain ⟨-, hnext, hsame⟩ | ⟨-, hends⟩ := harrived.responderRead hread
  · exact hnext.finishes_answering htagged (hsame.trans hbroken)
  · rw [hbroken] at hends
    cases hends

/-- From every place of an unbroken connection both ends can come to the end. -/
theorem Follows.finishes (htagged : library.toSnow.Tagged)
    (hfollows : Follows transcript place session) (hunbroken : session.broken = false) :
    Finishes library session := by
  cases place with
  | built =>
    obtain ⟨next, hwrite⟩ : ∃ next, session.initiatorWrite library = some next := by
      simp only [NoiseSession.initiatorWrite, hfollows.initiator, Place.initiatorSide]
      exact ⟨_, rfl⟩
    have hstep : session.step library .initiatorWrite = some next :=
      (if_pos (hfollows.unfailed hunbroken).1).trans hwrite
    refine CanReach.of_step hstep rfl ?_
    obtain ⟨-, ⟨hnext, hsame⟩ | ⟨-, hends⟩⟩ := hfollows.initiatorWrite hwrite
    · exact hnext.finishes_greeted htagged (hsame.trans hunbroken)
    · rw [hunbroken] at hends
      cases hends
  | greeted => exact hfollows.finishes_greeted htagged hunbroken
  | answering => exact hfollows.finishes_answering htagged hunbroken
  | answered => exact hfollows.finishes_answered htagged hunbroken
  | transport => exact hfollows.finishes_transport htagged hunbroken

end OneKey

/-! ### Different keys -/

section DifferentKeys

variable {η σ τ : Type*} {library : NoiseLibrary η σ τ} {initiator responder : η}
  {session next : NoiseSession η σ τ}

/-- The responder does not accept the message of the initiator. -/
def Refuses (library : NoiseLibrary η σ τ) (initiator responder : η) : Prop :=
  ∀ first waiting, library.writeHandshake initiator = .ok (first, waiting) →
    first.length ≤ 1024 ∧ ∃ error, library.readHandshake responder first = .error error

/-- The initiator has written its message or not; the responder has written nothing. -/
structure Refused (library : NoiseLibrary η σ τ) (initiator responder : η)
    (session : NoiseSession η σ τ) : Prop where
  initiator : session.initiator = .built initiator ∧ session.up.Silent [] ∨
    ∃ first waiting, library.writeHandshake initiator = .ok (first, waiting) ∧
      session.initiator = .written waiting ∧ session.up.Silent (writeHs first)
  responder : session.responder = .built responder
  down : session.down.Silent []

theorem refused_start :
    Refused library initiator responder (NoiseSession.start initiator responder) where
  initiator := .inl ⟨rfl, rfl, rfl, rfl, rfl, List.nil_prefix⟩
  responder := rfl
  down := ⟨rfl, rfl, rfl, rfl, List.nil_prefix⟩

/-- A writer that drops its end puts nothing on the stream. -/
theorem silent_close {σ τ α ε : Type*} {header : Bytes}
    {pipe : Pipe (Option σ) (Option τ) α ε} (hsilent : pipe.Silent header) :
    Pipe.Silent header { pipe with closed := true } :=
  ⟨hsilent.sender, hsilent.receiver, hsilent.sent, hsilent.received, hsilent.bytes⟩

theorem Refused.failInitiator (hrefused : Refused library initiator responder session)
    (error : Error) : Refused library initiator responder (session.failInitiator error) where
  initiator := by
    rcases hrefused.initiator with ⟨hbuilt, hup⟩ | ⟨first, waiting, hwrite, hwritten, hup⟩
    · exact .inl ⟨hbuilt, silent_close hup⟩
    · exact .inr ⟨first, waiting, hwrite, hwritten, silent_close hup⟩
  responder := hrefused.responder
  down := hrefused.down

theorem Refused.failResponder (hrefused : Refused library initiator responder session)
    (error : Error) : Refused library initiator responder (session.failResponder error) where
  initiator := hrefused.initiator
  responder := hrefused.responder
  down := silent_close hrefused.down

theorem Refused.initiatorWrite (hrefused : Refused library initiator responder session)
    (hstep : session.initiatorWrite library = some next) :
    Refused library initiator responder next := by
  rcases hrefused.initiator with ⟨hbuilt, hup⟩ | ⟨first, waiting, -, hwritten, -⟩
  · simp only [NoiseSession.initiatorWrite, hbuilt, Option.some.injEq] at hstep
    split_ifs at hstep
    · exact hstep ▸ hrefused.failInitiator _
    · cases hwrite : library.writeHandshake initiator with
      | error error =>
        simp only [hwrite] at hstep
        exact hstep ▸ hrefused.failInitiator _
      | ok written =>
        obtain ⟨first, waiting⟩ := written
        simp only [hwrite] at hstep
        obtain rfl := hstep
        refine ⟨.inr ⟨first, waiting, hwrite, rfl, hup.sender, hup.receiver, hup.sent, hup.received,
          ?_⟩, hrefused.responder, hrefused.down⟩
        rw [← List.append_assoc, List.prefix_nil.mp hup.bytes, List.nil_append]
  · simp only [NoiseSession.initiatorWrite, hwritten, reduceCtorEq] at hstep

theorem Refused.initiatorRead (hrefused : Refused library initiator responder session)
    (hstep : session.initiatorRead library = some next) :
    Refused library initiator responder next := by
  rcases hrefused.initiator with ⟨hbuilt, -⟩ | ⟨first, waiting, -, hwritten, -⟩
  · simp only [NoiseSession.initiatorRead, hbuilt, reduceCtorEq] at hstep
  · simp only [NoiseSession.initiatorRead, hwritten] at hstep
    obtain ⟨result, hawait, rfl⟩ := Option.map_eq_some_iff.mp hstep
    have hnone := (List.append_eq_nil_iff.mp (List.prefix_nil.mp hrefused.down.bytes)).1
    obtain ⟨rfl, -⟩ := awaitHs_of_error (readHs_of_nil hnone) hawait
    exact hrefused.failInitiator _

/-- Reading the first message fails. -/
theorem Refused.responderRead (hrefuses : Refuses library initiator responder)
    (hrefused : Refused library initiator responder session)
    (hstep : session.responderRead library = some next) :
    Refused library initiator responder next := by
  simp only [NoiseSession.responderRead, hrefused.responder] at hstep
  obtain ⟨result, hawait, rfl⟩ := Option.map_eq_some_iff.mp hstep
  rcases hrefused.initiator with ⟨-, hup⟩ | ⟨first, waiting, hwrite, -, hup⟩
  · have hnone := (List.append_eq_nil_iff.mp (List.prefix_nil.mp hup.bytes)).1
    obtain ⟨rfl, -⟩ := awaitHs_of_error (readHs_of_nil hnone) hawait
    exact hrefused.failResponder _
  · obtain ⟨hfits, error, herror⟩ := hrefuses first waiting hwrite
    have harrived : content session.up.arrived <+: writeHs first ++ [] := by
      rw [List.append_nil]
      exact (List.prefix_append _ _).trans hup.bytes
    rcases Pipe.arrived_cases harrived with ⟨more, hcontent, -⟩ | ⟨position, hposition, hcontent⟩
    · obtain ⟨rest, hread, -⟩ := readHs_of_content hfits hcontent
      simp only [awaitHs, hread, Option.some.injEq] at hawait
      obtain rfl := hawait
      simp only [herror]
      exact hrefused.failResponder _
    · obtain ⟨rfl, -⟩ := awaitHs_of_error (readHs_of_cut hfits hposition hcontent) hawait
      exact hrefused.failResponder _

theorem Refused.step (hrefuses : Refuses library initiator responder)
    (hrefused : Refused library initiator responder session) {action : NoiseAction}
    (hstep : session.step library action = some next) :
    Refused library initiator responder next := by
  cases action with
  | initiatorWrite =>
    simp only [NoiseSession.step] at hstep
    split_ifs at hstep
    exact hrefused.initiatorWrite hstep
  | initiatorRead =>
    simp only [NoiseSession.step] at hstep
    split_ifs at hstep
    exact hrefused.initiatorRead hstep
  | responderRead =>
    simp only [NoiseSession.step] at hstep
    split_ifs at hstep
    exact hrefused.responderRead hrefuses hstep
  | responderWrite =>
    simp only [NoiseSession.step] at hstep
    split_ifs at hstep
    simp only [NoiseSession.responderWrite, hrefused.responder, reduceCtorEq] at hstep
  | up action =>
    simp only [NoiseSession.step] at hstep
    split_ifs at hstep with hready
    obtain ⟨up, hup, rfl⟩ := Option.map_eq_some_iff.mp hstep
    refine ⟨?_, hrefused.responder, hrefused.down⟩
    rcases hrefused.initiator with ⟨hbuilt, hsilent⟩ | ⟨first, waiting, hwrite, hwritten, hsilent⟩
    · exact .inl ⟨hbuilt, hsilent.step hready hup⟩
    · exact .inr ⟨first, waiting, hwrite, hwritten, hsilent.step hready hup⟩
  | down action =>
    simp only [NoiseSession.step] at hstep
    split_ifs at hstep with hready
    obtain ⟨down, hdown, rfl⟩ := Option.map_eq_some_iff.mp hstep
    exact ⟨hrefused.initiator, hrefused.responder, hrefused.down.step hready hdown⟩

end DifferentKeys

/-! ### Every order of the steps -/

/-- Two ends that were built with one key, in every run of both ends and of the network: each has
received the first of the frames that the other sent; reading fails on a broken connection only; and
while it is not broken no end has failed, and both can still come to transport mode with everything
received. -/
theorem handshake_completes {η σ τ : Type*} (library : NoiseLibrary η σ τ)
    (htagged : library.toSnow.Tagged) (hcompletes : Completes library) (psk : Psk)
    (initiatorSeed responderSeed : Bytes) (initiator responder : η)
    (hinitiator : library.buildInitiator psk initiatorSeed = .ok initiator)
    (hresponder : library.buildResponder psk responderSeed = .ok responder)
    (actions : List NoiseAction) (session : NoiseSession η σ τ)
    (hvalid : ∀ action ∈ actions, action.Valid)
    (hrun : run (NoiseSession.step library) (NoiseSession.start initiator responder) actions =
      some session) :
    session.up.received <+: session.up.sent ∧ session.down.received <+: session.down.sent ∧
      (∀ error, session.up.failure = some error ∨ session.down.failure = some error →
        error.endsStream = true ∧ session.broken = true) ∧
      (session.broken = false →
        session.initiatorError = none ∧ session.responderError = none ∧
          Finishes library session) := by
  obtain ⟨transcript⟩ :=
    hcompletes psk initiatorSeed responderSeed initiator responder hinitiator hresponder
  obtain ⟨place, hfollows⟩ := follows_of_run htagged transcript hvalid hrun
  refine ⟨hfollows.up.received_prefix, hfollows.down.received_prefix, ?_, fun hunbroken ↦ ?_⟩
  · rintro error (herror | herror)
    · obtain ⟨hclosed, hends⟩ := hfollows.up.failure herror
      exact ⟨hends, broken_of_closed hfollows.up hclosed⟩
    · obtain ⟨hclosed, hends⟩ := hfollows.down.failure herror
      exact ⟨hends, broken_of_closed hfollows.down hclosed⟩
  · obtain ⟨hfirst, hsecond⟩ := hfollows.unfailed hunbroken
    exact ⟨hfirst, hsecond, hfollows.finishes htagged hunbroken⟩

/-- A message is 32 random bytes and the key; the cipher states are counters. -/
def keyedNoise : NoiseLibrary (Psk × Bytes) ℕ ℕ where
  toSnow := countingSnow
  buildInitiator := fun psk seed ↦ if seed.length = 32 then .ok (psk, seed) else .error "rng"
  buildResponder := fun psk seed ↦ if seed.length = 32 then .ok (psk, seed) else .error "rng"
  writeHandshake := fun (psk, seed) ↦ .ok (seed ++ psk.bytes, (psk, seed))
  readHandshake := fun (psk, seed) message ↦
    if message.drop 32 = psk.bytes then .ok (psk, seed) else .error "decrypt error"
  intoTransportMode := fun _ ↦ .ok (0, 0)

theorem keyedNoise_read {psk other : Psk} {seed theirs : Bytes} (hseed : theirs.length = 32) :
    keyedNoise.readHandshake (psk, seed) (theirs ++ other.bytes) =
      if other.bytes = psk.bytes then .ok (psk, seed) else .error "decrypt error" := by
  simp only [keyedNoise, ← hseed, List.drop_left]

/-- An end that was built has 32 random bytes. -/
theorem keyedNoise_built {psk : Psk} {seed : Bytes} {built : Psk × Bytes}
    (hbuilt : (if seed.length = 32 then Except.ok (psk, seed) else .error "rng") =
      Except.ok built) : built = (psk, seed) ∧ seed.length = 32 := by
  split_ifs at hbuilt with hseed
  exact ⟨(Except.ok.inj hbuilt).symm, hseed⟩

theorem keyedNoise_message_le {psk : Psk} {seed : Bytes} (hseed : seed.length = 32) :
    (seed ++ psk.bytes).length ≤ 1024 := by
  rw [List.length_append, hseed, psk.length_bytes]
  decide

theorem keyedNoise_completes : Completes keyedNoise := by
  intro psk initiatorSeed responderSeed initiator responder hinitiator hresponder
  obtain ⟨rfl, hfirst⟩ := keyedNoise_built hinitiator
  obtain ⟨rfl, hsecond⟩ := keyedNoise_built hresponder
  exact ⟨{
    first := initiatorSeed ++ psk.bytes
    second := responderSeed ++ psk.bytes
    waiting := (psk, initiatorSeed)
    answering := (psk, responderSeed)
    initiatorDone := (psk, initiatorSeed)
    responderDone := (psk, responderSeed)
    upSender := 0
    upReceiver := 0
    downSender := 0
    downReceiver := 0
    writeFirst := rfl
    readFirst := (keyedNoise_read hfirst).trans (if_pos rfl)
    writeSecond := rfl
    readSecond := (keyedNoise_read hsecond).trans (if_pos rfl)
    initiatorTransport := rfl
    responderTransport := rfl
    upInOrder := countingSnow_inOrder 0
    downInOrder := countingSnow_inOrder 0
    first_le := keyedNoise_message_le hfirst
    second_le := keyedNoise_message_le hsecond }⟩

theorem keyedNoise_rejects : Rejects keyedNoise := by
  intro initiatorPsk responderPsk initiatorSeed responderSeed initiator responder hkeys hinitiator
    hresponder first waiting hwrite
  obtain ⟨rfl, hseed⟩ := keyedNoise_built hinitiator
  obtain ⟨rfl, -⟩ := keyedNoise_built hresponder
  obtain ⟨rfl, -⟩ := Prod.mk.inj (Except.ok.inj hwrite)
  refine ⟨keyedNoise_message_le hseed, "decrypt error", (keyedNoise_read hseed).trans (if_neg ?_)⟩
  exact fun hsame ↦ hkeys (Psk.ext hsame)

/-- A key of which every byte is the same. -/
def repeatedKey (byte : UInt8) : Psk :=
  ⟨List.replicate 32 byte, List.length_replicate⟩

/-- The responder has answered and sends a frame right behind its answer, before the initiator has
read that. -/
theorem handshake_completes_early :
    ∃ session : NoiseSession (Psk × Bytes) ℕ ℕ,
      run (NoiseSession.step keyedNoise)
          (NoiseSession.start (repeatedKey 7, List.replicate 32 1)
            (repeatedKey 7, List.replicate 32 2))
          [.initiatorWrite, .up (.arrive 9), .up (.arrive 100), .responderRead, .responderWrite,
            .down (.send .pong)] = some session ∧
        session.down.sent = [.pong] ∧ Finishes keyedNoise session := by
  obtain ⟨session, hrun, hsent⟩ := Option.any_eq_true _ _ |>.mp
    (by decide +kernel : (run (NoiseSession.step keyedNoise)
      (NoiseSession.start (repeatedKey 7, List.replicate 32 1) (repeatedKey 7, List.replicate 32 2))
      [.initiatorWrite, .up (.arrive 9), .up (.arrive 100), .responderRead, .responderWrite,
        .down (.send .pong)]).any
        (fun session ↦ decide (session.down.sent = [.pong] ∧ session.broken = false)) = true)
  obtain ⟨hpong, hunbroken⟩ := of_decide_eq_true hsent
  have hcompletes := handshake_completes keyedNoise countingSnow_tagged keyedNoise_completes
    (repeatedKey 7) (List.replicate 32 1) (List.replicate 32 2) _ _ rfl rfl _ session ?_ hrun
  · exact ⟨session, hrun, hpong, (hcompletes.2.2.2 hunbroken).2.2⟩
  · intro action haction frame hsend
    simp only [List.mem_cons, List.not_mem_nil, or_false] at haction
    rcases haction with rfl | rfl | rfl | rfl | rfl | rfl <;> rcases hsend with hsend | hsend <;>
      cases hsend
    trivial

/-- Two ends that were built with different keys, in every run: none comes to transport mode, the
responder writes nothing at all, and no frame is sent. -/
theorem handshake_rejected {η σ τ : Type*} (library : NoiseLibrary η σ τ)
    (hrejects : Rejects library) (initiatorPsk responderPsk : Psk)
    (hkeys : initiatorPsk ≠ responderPsk) (initiatorSeed responderSeed : Bytes)
    (initiator responder : η)
    (hinitiator : library.buildInitiator initiatorPsk initiatorSeed = .ok initiator)
    (hresponder : library.buildResponder responderPsk responderSeed = .ok responder)
    (actions : List NoiseAction) (session : NoiseSession η σ τ)
    (hrun : run (NoiseSession.step library) (NoiseSession.start initiator responder) actions =
      some session) :
    session.initiator ≠ .transport ∧ session.responder ≠ .transport ∧
      content session.down.arrived ++ session.down.flight = [] ∧
      session.up.sent = [] ∧ session.down.sent = [] ∧ session.up.received = [] ∧
      session.down.received = [] := by
  have hrefuses : Refuses library initiator responder :=
    hrejects initiatorPsk responderPsk initiatorSeed responderSeed initiator responder hkeys
      hinitiator hresponder
  have hrefused : Refused library initiator responder session :=
    run_preserves (fun state action next hrefused hstep ↦ Refused.step hrefuses hrefused hstep) hrun
      refused_start
  refine ⟨?_, ?_, List.prefix_nil.mp hrefused.down.bytes, ?_, hrefused.down.sent, ?_,
    hrefused.down.received⟩
  · rcases hrefused.initiator with ⟨hbuilt, -⟩ | ⟨first, waiting, -, hwritten, -⟩
    · simp only [hbuilt, ne_eq, reduceCtorEq, not_false_iff]
    · simp only [hwritten, ne_eq, reduceCtorEq, not_false_iff]
  · simp only [hrefused.responder, ne_eq, reduceCtorEq, not_false_iff]
  · rcases hrefused.initiator with ⟨-, hup⟩ | ⟨first, waiting, -, -, hup⟩
    · exact hup.sent
    · exact hup.sent
  · rcases hrefused.initiator with ⟨-, hup⟩ | ⟨first, waiting, -, -, hup⟩
    · exact hup.received
    · exact hup.received

/-- The responder reads the message of an initiator with another key. -/
theorem handshake_rejected_keys :
    ∃ session : NoiseSession (Psk × Bytes) ℕ ℕ,
      run (NoiseSession.step keyedNoise)
          (NoiseSession.start (repeatedKey 7, List.replicate 32 1)
            (repeatedKey 8, List.replicate 32 2))
          [.initiatorWrite, .up (.arrive 100), .responderRead] = some session ∧
        session.responderError = some (.crypto "noise: decrypt error") ∧
          session.down.flight = [] := by
  obtain ⟨session, hrun, herror⟩ := Option.any_eq_true _ _ |>.mp
    (by decide +kernel : (run (NoiseSession.step keyedNoise)
      (NoiseSession.start (repeatedKey 7, List.replicate 32 1) (repeatedKey 8, List.replicate 32 2))
      [.initiatorWrite, .up (.arrive 100), .responderRead]).any
        (fun session ↦ decide
          (session.responderError = some (.crypto "noise: decrypt error"))) = true)
  have hrejected := handshake_rejected keyedNoise keyedNoise_rejects (repeatedKey 7) (repeatedKey 8)
    (by decide) (List.replicate 32 1) (List.replicate 32 2) _ _ rfl rfl _ session hrun
  exact ⟨session, hrun, of_decide_eq_true herror, (List.append_eq_nil_iff.mp hrejected.2.2.1).2⟩

end EntroTunnel.Link
