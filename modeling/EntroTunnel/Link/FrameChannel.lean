import EntroTunnel.Core.FrameDecode
import EntroTunnel.Foundation.Pipe
import EntroTunnel.Link.StreamEnd

/-!
# The frame channel

`FrameWriter` and `FrameReader` of `core/src/protocol/mod.rs` put one frame into one message of the
transport. `frameTransfer` is the pair over the halves of a transport that frames a byte stream, and
`WsRx.recv` the receiving half of the WebSocket transport, whose library hands over whole messages
and shows control messages too.

`frames_fifo` says that a frame channel is a queue of frames, whatever the network does: over each
of the three framings the reader returns the first of the frames that were sent, in order, and takes
nothing for the end of the channel but its end.
-/

set_option autoImplicit false
set_option relaxedAutoImplicit false

namespace EntroTunnel.Link

open EntroTunnel.Foundation EntroTunnel.Core

/-- What a frame channel reports: an error of the transport, or a message that is no frame. -/
inductive ChannelError
  | link (error : Error)
  | codec
  deriving DecidableEq, Repr

/-- The errors that a receiving half returns at the end of its stream only. -/
def Error.endsStream : Error → Bool
  | .closed | .io _ | .transport _ => true
  | .crypto _ | .protocol _ => false

def ChannelError.endsStream : ChannelError → Bool
  | .link error => error.endsStream
  | .codec => false

section Channel

variable {σ τ : Type*}

/-- `FrameWriter::send`. -/
def FrameWriter.send (framing : Framing σ τ Error) (ts : σ) (frame : Frame) :
    Except ChannelError (Bytes × σ) :=
  (framing.send ts frame.encode).mapError .link

/-- `FrameReader::recv`, on what the receiving half returned. -/
def FrameReader.recv {ρ : Type*} : Except Error (Bytes × ρ) → Except ChannelError (Frame × ρ)
  | .error error => .error (.link error)
  | .ok (bytes, rest) =>
    match Frame.decode bytes with
    | some frame => .ok (frame, rest)
    | none => .error .codec

/-- `protocol::frames`. -/
def frameTransfer (framing : Framing σ τ Error) : Transfer σ τ Frame ChannelError where
  send := FrameWriter.send framing
  recv := fun ts segments ↦ FrameReader.recv (framing.recv ts segments)
  endsStream := ChannelError.endsStream

/-! ### From messages to frames -/

theorem FrameWriter.send_eq_ok {framing : Framing σ τ Error} {ts next : σ} {frame : Frame}
    {bytes : Bytes} (hsend : send framing ts frame = .ok (bytes, next)) :
    framing.send ts frame.encode = .ok (bytes, next) := by
  unfold send at hsend
  cases hresult : framing.send ts frame.encode with
  | error error =>
    rw [hresult] at hsend
    cases hsend
  | ok sent =>
    rw [hresult] at hsend
    exact congrArg _ (Except.ok.inj hsend)

/-- A message that the writer made is read as its frame. -/
theorem FrameReader.recv_encode {ρ : Type*} {frame : Frame} (hframe : frame.Buildable) (rest : ρ) :
    recv (.ok (frame.encode, rest)) = .ok (frame, rest) := by
  have hdecode := Frame.decode_encode hframe []
  rw [List.append_nil] at hdecode
  simp only [recv, hdecode]

/-- Between matching states nothing is read from a part of a message. -/
def WaitsForMessage (framing : Framing σ τ Error) (Matches : σ → τ → Prop) : Prop :=
  ∀ sender receiver message bytes next, Matches sender receiver →
    framing.send sender message = .ok (bytes, next) →
      ∀ segments position, position < bytes.length → content segments = bytes.take position →
        ∃ error, framing.recv receiver segments = .error error ∧ error.endsStream = true

/-- Halves that deliver messages deliver frames. -/
theorem frames_reliable {framing : Framing σ τ Error} {Matches : σ → τ → Prop}
    (hdelivers : framing.Delivers Matches) (hwaits : WaitsForMessage framing Matches)
    (hend : ∀ receiver, framing.recv receiver [] = .error .closed) :
    Pipe.Reliable (frameTransfer framing) Frame.Buildable Matches (.link .closed) where
  delivers := by
    intro sender receiver frame bytes next hframe hmatches hsend segments more hcontent
    obtain ⟨after, rest, hrecv, hrest, hnext⟩ := hdelivers sender receiver frame.encode bytes next
      hmatches (FrameWriter.send_eq_ok hsend) segments more hcontent
    refine ⟨after, rest, ?_, hrest, hnext⟩
    change FrameReader.recv (framing.recv receiver segments) = _
    rw [hrecv, FrameReader.recv_encode hframe]
  waits := by
    intro sender receiver frame bytes next _ hmatches hsend segments position hposition hcontent
    obtain ⟨error, hrecv, hends⟩ := hwaits sender receiver frame.encode bytes next hmatches
      (FrameWriter.send_eq_ok hsend) segments position hposition hcontent
    refine ⟨.link error, ?_, hends⟩
    change FrameReader.recv (framing.recv receiver segments) = _
    rw [hrecv, FrameReader.recv]
  ends := by
    intro receiver
    change FrameReader.recv (framing.recv receiver []) = _
    rw [hend, FrameReader.recv]
  endsStream := rfl

end Channel

/-! ### The three framings -/

theorem lengthDelimited_waits {ended : ℕ → Error} (hended : ∀ count, (ended count).endsStream) :
    WaitsForMessage (statelessFraming lengthDelimitedSend (lengthDelimitedRecv ended))
      fun _ _ ↦ True := by
  intro _ _ msg bytes _ _ hsend segments position hposition hcontent
  change (lengthDelimitedSend msg).map _ = _ at hsend
  change ∃ error, (lengthDelimitedRecv ended segments).map _ = _ ∧ _
  cases hresult : lengthDelimitedSend msg with
  | error error =>
    rw [hresult] at hsend
    cases hsend
  | ok sent =>
    rw [hresult] at hsend
    obtain ⟨rfl, -⟩ := Prod.mk.inj (Except.ok.inj hsend)
    obtain ⟨hfits, rfl⟩ := lengthDelimitedSend_eq_ok hresult
    have hlength : (writeU32 (UInt32.ofNat msg.length)).length = 4 := length_beBytes 4 _
    have hvalue := beValue_writeU32 (hfits.trans_lt maxMessageLen_lt)
    obtain ⟨-, hhead⟩ | ⟨-, rest, hhead, hbody⟩ := readExact_of_cut hposition hcontent
    · rw [hlength] at hhead
      exact ⟨.closed, by rw [lengthDelimitedRecv, hhead]; rfl, rfl⟩
    · rw [hlength] at hhead
      refine ⟨ended (content rest).length, ?_, hended _⟩
      simp only [lengthDelimitedRecv, hhead, hvalue, if_neg (not_lt.mpr hfits), hbody]
      rfl

theorem noise_waits {σ τ : Type*} {snow : Snow σ τ} (htagged : snow.Tagged) :
    WaitsForMessage (noiseFraming snow) snow.InOrder := by
  intro sender receiver msg bytes next _ hsend segments position hposition hcontent
  obtain ⟨cipher, hfits, hwrite, rfl⟩ := NoiseSink.send_eq_ok hsend
  have hlength : (writeU16 (UInt16.ofNat cipher.length)).length = 2 := length_beBytes 2 _
  have hcast := NoiseSink.cipher_length_lt htagged hfits hwrite
  change ∃ error, NoiseStream.recv snow receiver segments = _ ∧ _
  obtain ⟨-, hhead⟩ | ⟨-, rest, hhead, hbody⟩ := readExact_of_cut hposition hcontent
  · rw [hlength] at hhead
    exact ⟨.closed, by rw [NoiseStream.recv, hhead], rfl⟩
  · rw [hlength] at hhead
    refine ⟨.io "early eof", ?_, rfl⟩
    simp only [NoiseStream.recv, hhead, beValue_writeU16 hcast, hbody]

/-! ### WebSocket -/

/-- What the WebSocket library hands over. A text, a ping or a pong carries nothing for the channel.
-/
inductive WsMessage
  | binary (data : Bytes)
  | text
  | ping
  | pong
  | close
  deriving DecidableEq, Repr

/-- An error of the WebSocket library. -/
inductive WsError
  | connectionClosed
  | alreadyClosed
  | other (text : String)
  deriving DecidableEq, Repr

/-- `ws_err`. -/
def wsErr : WsError → Error
  | .connectionClosed | .alreadyClosed => .closed
  | .other text => .transport ("ws: " ++ text)

/-- `WsRx::recv`, on what the library is going to hand over. -/
def WsRx.recv : List (Except WsError WsMessage) →
    Except Error (Bytes × List (Except WsError WsMessage))
  | [] => .error .closed
  | .ok (.binary data) :: rest => .ok (data, rest)
  | .ok .close :: _ => .error .closed
  | .ok .text :: rest | .ok .ping :: rest | .ok .pong :: rest => recv rest
  | .error error :: _ => .error (wsErr error)

/-- A number of frames. -/
def wsFrames : ℕ → List (Except WsError WsMessage) →
    Except ChannelError (List Frame × List (Except WsError WsMessage))
  | 0, items => .ok ([], items)
  | count + 1, items => do
    let (frame, rest) ← FrameReader.recv (WsRx.recv items)
    let (frames, after) ← wsFrames count rest
    pure (frame :: frames, after)

/-- The channel goes on. -/
def goesOn : Except WsError WsMessage → Bool
  | .ok .close | .error _ => false
  | _ => true

/-- What a message carries for the channel. -/
def binaryPayload : Except WsError WsMessage → Option Bytes
  | .ok (.binary data) => some data
  | _ => none

/-- What ends a channel. -/
def wsEnd (items : List (Except WsError WsMessage)) : Error :=
  match items.dropWhile goesOn with
  | .error error :: _ => wsErr error
  | _ => .closed

/-- The messages that carry nothing are skipped. -/
theorem WsRx.recv_cons {item : Except WsError WsMessage} (hgoes : goesOn item = true)
    (hpayload : binaryPayload item = none) (rest : List (Except WsError WsMessage)) :
    recv (item :: rest) = recv rest := by
  rcases item with error | message
  · cases hgoes
  · cases message with
    | binary data => cases hpayload
    | close => cases hgoes
    | _ => rfl

/-- Whatever stands between them, the frames before the end of the channel are returned in order,
and then its end. -/
theorem wsFrames_eq {items : List (Except WsError WsMessage)} {frames : List Frame}
    (hframes : ∀ frame ∈ frames, frame.Buildable)
    (hitems : (items.takeWhile goesOn).filterMap binaryPayload = frames.map Frame.encode) :
    ∃ rest, wsFrames frames.length items = .ok (frames, rest) ∧
      WsRx.recv rest = .error (wsEnd items) := by
  induction items generalizing frames with
  | nil =>
    obtain rfl := List.map_eq_nil_iff.mp hitems.symm
    exact ⟨[], rfl, rfl⟩
  | cons item rest ih =>
    cases hgoes : goesOn item with
    | false =>
      rw [List.takeWhile_cons_of_neg (by rw [hgoes]; decide)] at hitems
      obtain rfl := List.map_eq_nil_iff.mp hitems.symm
      refine ⟨item :: rest, rfl, ?_⟩
      rw [wsEnd, List.dropWhile_cons_of_neg (by rw [hgoes]; decide)]
      rcases item with error | message
      · rfl
      · cases message with
        | close => rfl
        | _ => cases hgoes
    | true =>
      have hend : wsEnd (item :: rest) = wsEnd rest := by
        rw [wsEnd, List.dropWhile_cons_of_pos hgoes, wsEnd]
      rw [List.takeWhile_cons_of_pos hgoes] at hitems
      cases hpayload : binaryPayload item with
      | none =>
        rw [List.filterMap_cons_none hpayload] at hitems
        obtain ⟨after, hall, hlast⟩ := ih hframes hitems
        cases frames with
        | nil =>
          obtain rfl : rest = after := (Prod.mk.inj (Except.ok.inj hall)).2
          exact ⟨item :: rest, rfl, by rw [WsRx.recv_cons hgoes hpayload, hlast, hend]⟩
        | cons frame others =>
          refine ⟨after, ?_, hlast.trans (congrArg _ hend.symm)⟩
          rw [List.length_cons, wsFrames, WsRx.recv_cons hgoes hpayload]
          exact hall
      | some data =>
        rw [List.filterMap_cons_some hpayload] at hitems
        cases frames with
        | nil => cases hitems
        | cons frame others =>
          rw [List.map_cons] at hitems
          obtain ⟨rfl, hothers⟩ := List.cons.inj hitems
          obtain ⟨hframe, hframes⟩ := List.forall_mem_cons.mp hframes
          obtain ⟨after, hall, hlast⟩ := ih hframes hothers
          have hitem : item = .ok (.binary frame.encode) := by
            rcases item with error | message
            · cases hpayload
            · cases message with
              | binary data =>
                obtain rfl := Option.some.inj hpayload
                rfl
              | _ => cases hpayload
          refine ⟨after, ?_, hlast.trans (congrArg _ hend.symm)⟩
          subst hitem
          rw [List.length_cons, wsFrames, WsRx.recv, FrameReader.recv_encode hframe]
          change (wsFrames others.length rest >>= _) = _
          rw [hall]
          rfl

/-! ### Every transport -/

/-- Over every transport a frame channel is a queue of frames. -/
theorem frames_fifo {σ τ : Type*} (snow : Snow σ τ) (htagged : snow.Tagged) (sender : σ)
    (receiver : τ) (horder : snow.InOrder sender receiver) :
    Pipe.RefinesQueue (frameTransfer ldFraming) Frame.Buildable () () (.link .closed) ∧
      Pipe.RefinesQueue (frameTransfer quicFraming) Frame.Buildable () () (.link .closed) ∧
      Pipe.RefinesQueue (frameTransfer (noiseFraming snow)) Frame.Buildable sender receiver
        (.link .closed) ∧
      ∀ (items : List (Except WsError WsMessage)) (frames : List Frame),
        (∀ frame ∈ frames, frame.Buildable) →
          (items.takeWhile goesOn).filterMap binaryPayload = frames.map Frame.encode →
            ∃ rest, wsFrames frames.length items = .ok (frames, rest) ∧
              WsRx.recv rest = .error (wsEnd items) := by
  refine ⟨?_, ?_, ?_, fun items frames ↦ wsFrames_eq⟩
  · exact (frames_reliable (lengthDelimited_delivers _) (lengthDelimited_waits fun _ ↦ rfl)
      fun _ ↦ rfl).refinesQueue trivial
  · exact (frames_reliable (lengthDelimited_delivers _) (lengthDelimited_waits fun _ ↦ rfl)
      fun _ ↦ rfl).refinesQueue trivial
  · exact (frames_reliable (noise_delivers htagged) (noise_waits htagged)
      fun _ ↦ rfl).refinesQueue horder

/-- Two frames that arrive in two pieces, cut inside the first; a ping stands between two frames of
a WebSocket. -/
theorem frames_fifo_counting :
    (∃ pipe, run (Pipe.step (frameTransfer (noiseFraming countingSnow))) (Pipe.fresh 0 0)
        [.send .ping, .send .getPeers, .arrive 5, .arrive 100, .recv, .shutdown, .recv, .recv] =
          some pipe ∧ pipe.received.length = 2 ∧ pipe.received <+: pipe.sent) ∧
      ∃ rest, wsFrames 2 [.ok (.binary Frame.ping.encode), .ok .ping,
          .ok (.binary Frame.getPeers.encode), .ok .close] = .ok ([.ping, .getPeers], rest) ∧
        WsRx.recv rest = .error .closed := by
  obtain ⟨-, -, hnoise, hws⟩ :=
    frames_fifo countingSnow countingSnow_tagged 0 0 (countingSnow_inOrder 0)
  have hframes : ∀ frame ∈ [Frame.ping, Frame.getPeers], frame.Buildable := by
    simp [Frame.Buildable]
  refine ⟨?_, hws _ [.ping, .getPeers] hframes rfl⟩
  obtain ⟨pipe, hrun, hcount⟩ := Option.any_eq_true _ _ |>.mp
    (by decide +kernel : (run (Pipe.step (frameTransfer (noiseFraming countingSnow)))
      (Pipe.fresh 0 0) [.send .ping, .send .getPeers, .arrive 5, .arrive 100, .recv, .shutdown,
        .recv, .recv]).any (fun pipe ↦ decide (pipe.received.length = 2)) = true)
  refine ⟨pipe, hrun, of_decide_eq_true hcount, (hnoise _ pipe (fun frame hmem ↦ ?_) hrun).1⟩
  simp only [List.mem_cons, PipeAction.send.injEq, reduceCtorEq, List.not_mem_nil, or_false,
    or_self] at hmem
  exact hframes frame (by simpa using hmem)

end EntroTunnel.Link
