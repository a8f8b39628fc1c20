import EntroTunnel.Client.Carrier
import EntroTunnel.Client.LocalConn
import EntroTunnel.Core.FrameCodec
import EntroTunnel.Server.RemoteStream
import EntroTunnel.Server.Router

/-!
# Frame sizes and transport limits

Every frame that a component puts on a link has to pass the size check of the transport's
`MessageSink::send`: an error there ends the writer task, and the link with it. A `Production` is a
frame, or the frames of one request head, together with what the producing component built it from,
and `Legal` says what the component can have read. `accepted_iff` gives the exact condition under
which every transport takes the frames. The limit of Noise decides, since it is below the others and
no producer splits a frame.

Chunks of the uplinks and of the remote reader, replies and keepalives always fit. A packet, the
bytes of a request head, a host name, an error text and a peer list may be too long.
-/

set_option autoImplicit false
set_option relaxedAutoImplicit false

namespace EntroTunnel.Link

open EntroTunnel.Core EntroTunnel.Client EntroTunnel.Server

/-! ### Transports -/

/-- Max plaintext of a Noise transport message: 65535 bytes less the 16-byte tag. -/
def noiseMaxPlaintext : ℕ := 65519

/-- Maximum size of a single message on the length-delimited transports. -/
def maxMessageLen : ℕ := 256 * 1024

/-- The transports that carry frames. -/
inductive Transport
  | noise
  | lengthDelimited
  | quic
  | webSocket
  deriving DecidableEq, Repr

namespace Transport

/-- The size check of `MessageSink::send`; a WebSocket has none of its own. -/
def send (transport : Transport) (msg : Bytes) : Except String Unit :=
  match transport with
  | .noise =>
    if noiseMaxPlaintext < msg.length then
      .error ("noise message too large: " ++ toString msg.length ++ " (max " ++
        toString noiseMaxPlaintext ++ ")")
    else .ok ()
  | .lengthDelimited | .quic =>
    if maxMessageLen < msg.length then .error ("message too large: " ++ toString msg.length)
    else .ok ()
  | .webSocket => .ok ()

/-- A size check passes what is no longer than its limit. -/
theorem check_eq_ok_iff {limit length : ℕ} {error : String} :
    (if limit < length then .error error else .ok () : Except String Unit) = .ok () ↔
      length ≤ limit := by
  split_ifs with hlong
  · exact ⟨nofun, fun hfits ↦ absurd hfits (not_le.mpr hlong)⟩
  · exact ⟨fun _ ↦ not_lt.mp hlong, fun _ ↦ rfl⟩

theorem send_noise_eq_ok_iff (msg : Bytes) :
    noise.send msg = .ok () ↔ msg.length ≤ noiseMaxPlaintext :=
  check_eq_ok_iff

theorem send_lengthDelimited_eq_ok_iff (msg : Bytes) :
    lengthDelimited.send msg = .ok () ↔ msg.length ≤ maxMessageLen :=
  check_eq_ok_iff

/-- A message passes every transport exactly when it fits into a Noise message. -/
theorem forall_send_eq_ok_iff (msg : Bytes) :
    (∀ transport : Transport, transport.send msg = .ok ()) ↔ msg.length ≤ noiseMaxPlaintext := by
  constructor
  · intro hall
    exact (send_noise_eq_ok_iff msg).mp (hall .noise)
  · intro hfits transport
    have hbelow : noiseMaxPlaintext ≤ maxMessageLen := by decide
    cases transport with
    | noise => exact (send_noise_eq_ok_iff msg).mpr hfits
    | lengthDelimited | quic =>
      exact (send_lengthDelimited_eq_ok_iff msg).mpr (hfits.trans hbelow)
    | webSocket => rfl

end Transport

/-! ### Producers -/

/-- A component that enqueues frames, with what it builds them from. -/
inductive Production
  | clientTun (mtu : UInt16) (packet : Bytes)
  | serverTun (packet : Bytes)
  | requestHead (id : StreamId) (reads : List Bytes)
  | localUplink (id : StreamId) (chunk : Bytes)
  | remoteReader (id : StreamId) (chunk : Bytes)
  | carrierOpen (target : TargetAddr)
  | carrierUplink (chunk : Bytes)
  | streamEnd (id : StreamId)
  | dialFailed (id : StreamId) (target : TargetAddr) (error : String)
  | notAllowed (id : StreamId)
  | getPeers
  | ping
  | pong
  | peerList (router : Router) (assigned : Ipv4Addr)

namespace Production

/-- What the component can have read. A TUN buffer on a client holds the MTU and at least 2048
bytes, on the server 65535 bytes. -/
def Legal : Production → Prop
  | .clientTun mtu packet => 0 < packet.length ∧ packet.length ≤ max mtu.toNat 2048
  | .serverTun packet => 20 ≤ packet.length ∧ packet.length ≤ 65535
  | .requestHead _ reads => ∀ chunk ∈ reads, chunk.length ≤ headReadSize
  | .localUplink _ chunk => 0 < chunk.length ∧ chunk.length ≤ localReadSize
  | .remoteReader _ chunk => 0 < chunk.length ∧ chunk.length ≤ remoteReadSize
  | .carrierUplink chunk => 0 < chunk.length ∧ chunk.length ≤ carrierReadSize
  | _ => True

/-- The frames of `handle_local` after the request head. -/
def headFrames (id : StreamId) : HeadStep → List Frame
  | .done target isConnect forward =>
    if isConnect = false ∧ forward ≠ [] then [.streamOpen id target, .streamData id forward]
    else [.streamOpen id target]
  | _ => []

/-- The frames that the component enqueues. -/
def frames : Production → List Frame
  | .clientTun _ packet | .serverTun packet => [.packet packet]
  | .requestHead id reads => headFrames id (parseHttpHead [] reads)
  | .localUplink id chunk | .remoteReader id chunk => [.streamData id chunk]
  | .carrierOpen target => [.streamOpen carrierId target]
  | .carrierUplink chunk => [.streamData carrierId chunk]
  | .streamEnd id => [.streamClose id none]
  | .dialFailed id target error => [.streamClose id (some (dialError target error))]
  | .notAllowed id => [.streamClose id (some "http proxy not allowed for this peer")]
  | .getPeers => [.getPeers]
  | .ping => [.ping]
  | .pong => [.pong]
  | .peerList router assigned => [.peerList (router.peerInfos assigned)]

/-- The destination and the bytes to forward are short enough. -/
def headFits : HeadStep → Prop
  | .done target isConnect forward =>
    target.size ≤ 65511 ∧ (isConnect = false → forward.length ≤ 65503)
  | _ => True

/-- What is read stays below the limit less the codec's overhead: 12 bytes around a packet, a peer
list and the text of a `StreamClose` (5 more), 16 around stream data, 8 around a destination. -/
def Fits : Production → Prop
  | .clientTun _ packet | .serverTun packet => packet.length ≤ 65507
  | .requestHead _ reads => headFits (parseHttpHead [] reads)
  | .carrierOpen target => target.size ≤ 65511
  | .dialFailed _ target error => (dialError target error).utf8ByteSize ≤ 65502
  | .peerList router assigned =>
    ((router.peerInfos assigned).map fun peer ↦ peer.size).sum ≤ 65507
  | _ => True

/-- The frames of a request head. -/
theorem headFrames_size_le_iff (id : StreamId) (outcome : HeadStep) :
    (∀ frame ∈ headFrames id outcome, frame.size ≤ noiseMaxPlaintext) ↔ headFits outcome := by
  cases outcome with
  | done target isConnect forward =>
    simp only [headFrames, headFits, noiseMaxPlaintext]
    split_ifs with hplain
    · simp only [List.forall_mem_cons, List.not_mem_nil, false_imp_iff, implies_true, and_true,
        Frame.size, hplain.1, true_imp_iff]
      omega
    · have hforward : isConnect = false → forward.length = 0 := fun hconnect ↦
        List.length_eq_zero_iff.mpr (by simpa [hconnect] using hplain)
      simp only [List.forall_mem_singleton, Frame.size]
      exact ⟨fun hopen ↦ ⟨by omega, fun hconnect ↦ by rw [hforward hconnect]; omega⟩,
        fun hfits ↦ by omega⟩
  | more buf => exact iff_of_true (List.forall_mem_nil _) trivial
  | failed error => exact iff_of_true (List.forall_mem_nil _) trivial

/-- Every transport takes all frames of a component exactly when what it read stays below the Noise
limit less the codec's overhead. -/
theorem accepted_iff {production : Production} (hlegal : production.Legal) :
    (∀ frame ∈ production.frames, ∀ transport : Transport,
      transport.send frame.encode = .ok ()) ↔ production.Fits := by
  simp only [Transport.forall_send_eq_ok_iff, Frame.length_encode]
  cases production with
  | requestHead id reads => exact headFrames_size_le_iff id (parseHttpHead [] reads)
  | clientTun mtu packet | serverTun packet =>
    simp only [frames, List.forall_mem_singleton, Frame.size, Fits, noiseMaxPlaintext]
    omega
  | localUplink id chunk | remoteReader id chunk | carrierUplink chunk =>
    simp only [frames, List.forall_mem_singleton, Frame.size, Fits, noiseMaxPlaintext, iff_true]
    simp only [Legal, localReadSize, remoteReadSize, carrierReadSize] at hlegal
    omega
  | carrierOpen target =>
    simp only [frames, List.forall_mem_singleton, Frame.size, Fits, noiseMaxPlaintext]
    omega
  | dialFailed id target error =>
    simp only [frames, List.forall_mem_singleton, Frame.size, Foundation.optionSize, Fits,
      noiseMaxPlaintext]
    omega
  | peerList router assigned =>
    simp only [frames, List.forall_mem_singleton, Frame.size, Fits, noiseMaxPlaintext]
    omega
  | streamEnd id | notAllowed id | getPeers | ping | pong =>
    simp only [frames, List.forall_mem_singleton, Frame.size, Fits, iff_true]
    decide

/-- Under an MTU of 65535 a packet of 65507 bytes is the longest that every transport takes. -/
theorem accepted_iff_largestPacket :
    (∀ frame ∈ (clientTun 65535 (List.replicate 65507 0)).frames, ∀ transport : Transport,
      transport.send frame.encode = .ok ()) ∧
      ¬ ∀ frame ∈ (clientTun 65535 (List.replicate 65508 0)).frames, ∀ transport : Transport,
        transport.send frame.encode = .ok () := by
  have hlegal : ∀ count, 0 < count → count ≤ 65535 →
      (clientTun 65535 (List.replicate count 0)).Legal := by
    intro count hpos hmtu
    rw [Legal, List.length_replicate]
    exact ⟨hpos, hmtu.trans (le_max_left _ _)⟩
  constructor
  · refine (accepted_iff (hlegal 65507 (by decide) (by decide))).mpr ?_
    rw [Fits, List.length_replicate]
  · intro hall
    have hfits := (accepted_iff (hlegal 65508 (by decide) (by decide))).mp hall
    rw [Fits, List.length_replicate] at hfits
    exact absurd hfits (by decide)

/-- Under an MTU of 65535 a packet of that length is refused by Noise. -/
theorem refused_under_large_mtu :
    ¬ ∀ production : Production, production.Legal →
      ∀ frame ∈ production.frames, ∀ transport : Transport,
        transport.send frame.encode = .ok () := by
  intro hall
  obtain ⟨packet, hlength⟩ : ∃ packet : Bytes, packet.length = 65535 :=
    ⟨List.replicate 65535 0, List.length_replicate⟩
  have hlegal : (clientTun 65535 packet).Legal := by
    rw [Legal, hlength]
    decide
  have hsize := (Transport.forall_send_eq_ok_iff _).mp
    (hall _ hlegal (.packet packet) (List.mem_singleton_self _))
  rw [Frame.length_encode, Frame.size, hlength, noiseMaxPlaintext] at hsize
  omega

end Production

end EntroTunnel.Link
