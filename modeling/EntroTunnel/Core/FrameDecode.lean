import EntroTunnel.Core.FrameCodec
import EntroTunnel.Foundation.ByteDecode

/-!
# The frame decoding

`FrameReader::recv` hands one message of the transport to `bincode::deserialize`, which takes a
frame off its front and ignores what follows. The decoders stand in the order of the encodings of
`FrameCodec`. A variant index, a tag byte or a text that no value has is an error, and so is a
message that ends early.

`Frame.Buildable` says that the lengths in a frame are lengths of values in memory, so that the
eight bytes in front of a string, a byte string or a list hold them.
-/

set_option autoImplicit false
set_option relaxedAutoImplicit false

namespace EntroTunnel.Core

open EntroTunnel.Foundation

/-! ### Decoders -/

def decodeVariant : Decoder ℕ :=
  decodeLe 4

def decodeU16 : Decoder UInt16 :=
  UInt16.ofNat <$> decodeLe 2

def decodeU32 : Decoder UInt32 :=
  UInt32.ofNat <$> decodeLe 4

def decodeIpv4 : Decoder Ipv4Addr :=
  BitVec.ofNat 32 <$> decodeBe 4

def decodeIpv6 : Decoder Ipv6Addr :=
  BitVec.ofNat 128 <$> decodeBe 16

/-- `Uuid::from_slice` takes 16 bytes and no others. -/
def decodeUuid : Decoder Uuid := do
  let bytes ← decodeBytes
  if bytes.length = 16 then pure (BitVec.ofNat 128 (beValue bytes)) else failure

def SessionMode.decode : Decoder SessionMode := do
  let variant ← decodeVariant
  match variant with
  | 0 => pure .globalProxy
  | 1 => pure .systemProxy
  | 2 => pure .httpProxy
  | 3 => pure .vpn
  | _ => failure

def SocketAddr.decode : Decoder SocketAddr := do
  let variant ← decodeVariant
  match variant with
  | 0 =>
    let ip ← decodeIpv4
    let port ← decodeU16
    pure ⟨.v4 ip, port⟩
  | 1 =>
    let ip ← decodeIpv6
    let port ← decodeU16
    pure ⟨.v6 ip, port⟩
  | _ => failure

def TargetAddr.decode : Decoder TargetAddr := do
  let variant ← decodeVariant
  match variant with
  | 0 => TargetAddr.ip <$> SocketAddr.decode
  | 1 =>
    let host ← decodeString
    let port ← decodeU16
    pure (.domain host port)
  | _ => failure

def Hello.decode : Decoder Hello := do
  let version ← decodeU16
  let token ← decodeString
  let mode ← SessionMode.decode
  let requestedIp ← decodeOption decodeIpv4
  let clientName ← decodeOption decodeString
  let joinVpn ← decodeBool
  pure { version, token, mode, requestedIp, clientName, joinVpn }

def Welcome.decode : Decoder Welcome := do
  let sessionId ← decodeUuid
  let assignedIp ← decodeIpv4
  let prefixLen ← decodeByte
  let gateway ← decodeIpv4
  let mtu ← decodeU16
  let dns ← decodeList decodeIpv4
  let assignedIp6 ← decodeOption decodeIpv6
  let prefix6 ← decodeByte
  let gateway6 ← decodeOption decodeIpv6
  let dns6 ← decodeList decodeIpv6
  pure
    { sessionId, assignedIp, prefixLen, gateway, mtu, dns, assignedIp6, prefix6, gateway6, dns6 }

def PeerInfo.decode : Decoder PeerInfo := do
  let ip ← decodeIpv4
  let name ← decodeString
  let ip6 ← decodeOption decodeIpv6
  pure { ip, name, ip6 }

/-- The derived `Deserialize` of a frame. -/
def Frame.decoder : Decoder Frame := do
  let variant ← decodeVariant
  match variant with
  | 0 => Frame.hello <$> Hello.decode
  | 1 => Frame.welcome <$> Welcome.decode
  | 2 => Frame.reject <$> decodeString
  | 3 => pure .ping
  | 4 => pure .pong
  | 5 => Frame.packet <$> decodeBytes
  | 6 =>
    let id ← decodeU32
    let target ← TargetAddr.decode
    pure (.streamOpen id target)
  | 7 =>
    let id ← decodeU32
    let data ← decodeBytes
    pure (.streamData id data)
  | 8 =>
    let id ← decodeU32
    let error ← decodeOption decodeString
    pure (.streamClose id error)
  | 9 => pure .getPeers
  | 10 => Frame.peerList <$> decodeList PeerInfo.decode
  | _ => failure

/-- `bincode::deserialize` of a message; bytes after the frame are allowed. -/
def Frame.decode (message : Bytes) : Option Frame :=
  (Frame.decoder.run message).map Prod.fst

/-! ### Frames that fit into memory -/

/-- The text's bytes can be counted by a `usize`. -/
def TextBuildable (text : String) : Prop := Counted text.utf8ByteSize

def TargetAddr.Buildable : TargetAddr → Prop
  | .ip _ => True
  | .domain host _ => TextBuildable host

def Hello.Buildable (hello : Hello) : Prop :=
  TextBuildable hello.token ∧ ∀ name, hello.clientName = some name → TextBuildable name

def Welcome.Buildable (welcome : Welcome) : Prop :=
  Counted welcome.dns.length ∧ Counted welcome.dns6.length

def PeerInfo.Buildable (peer : PeerInfo) : Prop :=
  TextBuildable peer.name

instance (peer : PeerInfo) : Decidable peer.Buildable :=
  inferInstanceAs (Decidable (Counted peer.name.utf8ByteSize))

/-- Every length in the frame is one that `len()` returns for a value in memory. -/
def Frame.Buildable : Frame → Prop
  | .hello message => message.Buildable
  | .welcome message => message.Buildable
  | .reject reason => TextBuildable reason
  | .packet bytes => Counted bytes.length
  | .streamOpen _ target => target.Buildable
  | .streamData _ data => Counted data.length
  | .streamClose _ error => ∀ text, error = some text → TextBuildable text
  | .peerList peers => Counted peers.length ∧ ∀ peer ∈ peers, peer.Buildable
  | .ping | .pong | .getPeers => True

/-! ### Reading back -/

theorem reads_decodeVariant (index : ℕ) (hindex : index < 256 ^ 4) :
    Reads decodeVariant (encodeVariant index) index :=
  reads_decodeLe hindex

theorem reads_decodeU16 (value : UInt16) : Reads decodeU16 (encodeU16 value) value := by
  have hvalue : value.toNat < 256 ^ 2 := value.toNat_lt
  have hreads := (reads_decodeLe hvalue).map UInt16.ofNat
  rwa [UInt16.ofNat_toNat] at hreads

theorem reads_decodeU32 (value : UInt32) : Reads decodeU32 (leBytes 4 value.toNat) value := by
  have hvalue : value.toNat < 256 ^ 4 := value.toNat_lt
  have hreads := (reads_decodeLe hvalue).map UInt32.ofNat
  rwa [UInt32.ofNat_toNat] at hreads

theorem reads_decodeIpv4 (addr : Ipv4Addr) : Reads decodeIpv4 (encodeIpv4 addr) addr := by
  have haddr : addr.toNat < 256 ^ 4 := addr.isLt
  have hreads := (reads_decodeBe haddr).map (BitVec.ofNat 32)
  rwa [BitVec.ofNat_toNat, BitVec.setWidth_eq] at hreads

theorem reads_decodeIpv6 (addr : Ipv6Addr) : Reads decodeIpv6 (encodeIpv6 addr) addr := by
  have haddr : addr.toNat < 256 ^ 16 := addr.isLt
  have hreads := (reads_decodeBe haddr).map (BitVec.ofNat 128)
  rwa [BitVec.ofNat_toNat, BitVec.setWidth_eq] at hreads

theorem reads_decodeUuid (id : Uuid) : Reads decodeUuid (encodeUuid id) id := by
  have hid : id.toNat < 256 ^ 16 := id.isLt
  have hlength : (beBytes 16 id.toNat).length = 16 := length_beBytes 16 id.toNat
  have hcount : Counted (beBytes 16 id.toNat).length := by
    rw [hlength]
    decide
  refine (reads_decodeBytes hcount).bind_pure ?_
  rw [if_pos hlength, beValue_beBytes 16 _ hid, BitVec.ofNat_toNat, BitVec.setWidth_eq]

theorem SessionMode.reads_decode (mode : SessionMode) : Reads decode mode.encode mode := by
  cases mode with
  | globalProxy => exact (reads_decodeVariant 0 (by decide)).bind_pure rfl
  | systemProxy => exact (reads_decodeVariant 1 (by decide)).bind_pure rfl
  | httpProxy => exact (reads_decodeVariant 2 (by decide)).bind_pure rfl
  | vpn => exact (reads_decodeVariant 3 (by decide)).bind_pure rfl

theorem SocketAddr.reads_decode (addr : SocketAddr) : Reads decode addr.encode addr := by
  obtain ⟨ip, port⟩ := addr
  cases ip with
  | v4 ip =>
    simp only [encode, List.append_assoc]
    exact (reads_decodeVariant 0 (by decide)).bind
      ((reads_decodeIpv4 ip).bind ((reads_decodeU16 port).bind_pure rfl))
  | v6 ip =>
    simp only [encode, List.append_assoc]
    exact (reads_decodeVariant 1 (by decide)).bind
      ((reads_decodeIpv6 ip).bind ((reads_decodeU16 port).bind_pure rfl))

theorem TargetAddr.reads_decode {target : TargetAddr} (htarget : target.Buildable) :
    Reads decode target.encode target := by
  cases target with
  | ip addr => exact (reads_decodeVariant 0 (by decide)).bind (addr.reads_decode.map TargetAddr.ip)
  | domain host port =>
    rw [encode, List.append_assoc]
    exact (reads_decodeVariant 1 (by decide)).bind
      ((reads_decodeString htarget).bind ((reads_decodeU16 port).bind_pure rfl))

theorem Hello.reads_decode {hello : Hello} (hhello : hello.Buildable) :
    Reads decode hello.encode hello := by
  obtain ⟨htoken, hname⟩ := hhello
  simp only [encode, List.append_assoc]
  refine (reads_decodeU16 _).bind ((reads_decodeString htoken).bind
    ((SessionMode.reads_decode _).bind (Reads.bind ?_ (Reads.bind ?_
      ((reads_decodeBool _).bind_pure rfl)))))
  · exact reads_decodeOption fun ip _ ↦ reads_decodeIpv4 ip
  · exact reads_decodeOption fun name hsome ↦ reads_decodeString (hname name hsome)

theorem Welcome.reads_decode {welcome : Welcome} (hwelcome : welcome.Buildable) :
    Reads decode welcome.encode welcome := by
  obtain ⟨hdns, hdns6⟩ := hwelcome
  simp only [encode, List.append_assoc]
  refine (reads_decodeUuid _).bind ((reads_decodeIpv4 _).bind ((reads_decodeByte _).bind
    ((reads_decodeIpv4 _).bind ((reads_decodeU16 _).bind (Reads.bind ?_ (Reads.bind ?_
      ((reads_decodeByte _).bind (Reads.bind ?_ (Reads.bind_pure ?_ rfl)))))))))
  · exact reads_decodeList hdns fun ip _ ↦ reads_decodeIpv4 ip
  · exact reads_decodeOption fun ip _ ↦ reads_decodeIpv6 ip
  · exact reads_decodeOption fun ip _ ↦ reads_decodeIpv6 ip
  · exact reads_decodeList hdns6 fun ip _ ↦ reads_decodeIpv6 ip

theorem PeerInfo.reads_decode {peer : PeerInfo} (hpeer : peer.Buildable) :
    Reads decode peer.encode peer := by
  simp only [encode, List.append_assoc]
  refine (reads_decodeIpv4 _).bind ((reads_decodeString hpeer).bind (Reads.bind_pure ?_ rfl))
  exact reads_decodeOption fun ip _ ↦ reads_decodeIpv6 ip

/-- The decoder takes a frame's encoding off the front of every message that starts with it. -/
theorem Frame.reads_decoder {frame : Frame} (hframe : frame.Buildable) :
    Reads decoder frame.encode frame := by
  cases frame with
  | hello message =>
    exact (reads_decodeVariant 0 (by decide)).bind ((Hello.reads_decode hframe).map hello)
  | welcome message =>
    exact (reads_decodeVariant 1 (by decide)).bind ((Welcome.reads_decode hframe).map welcome)
  | reject reason =>
    exact (reads_decodeVariant 2 (by decide)).bind ((reads_decodeString hframe).map reject)
  | ping => exact (reads_decodeVariant 3 (by decide)).bind_pure rfl
  | pong => exact (reads_decodeVariant 4 (by decide)).bind_pure rfl
  | packet bytes =>
    exact (reads_decodeVariant 5 (by decide)).bind ((reads_decodeBytes hframe).map packet)
  | streamOpen id target =>
    rw [encode, List.append_assoc]
    exact (reads_decodeVariant 6 (by decide)).bind
      ((reads_decodeU32 id).bind ((TargetAddr.reads_decode hframe).bind_pure rfl))
  | streamData id data =>
    rw [encode, List.append_assoc]
    exact (reads_decodeVariant 7 (by decide)).bind
      ((reads_decodeU32 id).bind ((reads_decodeBytes hframe).bind_pure rfl))
  | streamClose id error =>
    rw [encode, List.append_assoc]
    have herror := reads_decodeOption fun text hsome ↦ reads_decodeString (hframe text hsome)
    exact (reads_decodeVariant 8 (by decide)).bind
      ((reads_decodeU32 id).bind (herror.bind_pure rfl))
  | getPeers => exact (reads_decodeVariant 9 (by decide)).bind_pure rfl
  | peerList peers =>
    have hlist := reads_decodeList hframe.1 fun peer hmem ↦
      PeerInfo.reads_decode (hframe.2 peer hmem)
    exact (reads_decodeVariant 10 (by decide)).bind (hlist.map peerList)

/-! ### The codec -/

theorem Frame.decode_encode {frame : Frame} (hframe : frame.Buildable) (rest : Bytes) :
    decode (frame.encode ++ rest) = some frame := by
  rw [decode, reads_decoder hframe]
  rfl

/-- What the writer puts into a message comes out of the reader, whatever follows it, and the
encodings of two frames are neither equal nor a prefix of each other. -/
theorem Frame.codec_round_trip (frame : Frame) (hframe : frame.Buildable) :
    (∀ rest : Bytes, decode (frame.encode ++ rest) = some frame) ∧
      (∀ other : Frame, other.Buildable → frame.encode = other.encode → frame = other) ∧
        ∀ other : Frame, other.Buildable → frame.encode <+: other.encode →
          frame.encode = other.encode := by
  refine ⟨decode_encode hframe, fun other hother hsame ↦ ?_, fun other hother hle ↦ ?_⟩
  · have hle : frame.encode <+: other.encode := by rw [hsame]
    exact ((reads_decoder hframe).eq_of_isPrefix (reads_decoder hother) hle).2
  · exact ((reads_decoder hframe).eq_of_isPrefix (reads_decoder hother) hle).1

/-- A list of two peers, one with a name outside ASCII, is decoded from its bytes and two more. -/
theorem Frame.codec_round_trip_peerList :
    decode ((peerList [⟨ipv4 10 66 0 2, "laptop", none⟩, ⟨ipv4 10 66 0 3, "é", some 5⟩]).encode ++
        [9, 9]) =
      some (peerList [⟨ipv4 10 66 0 2, "laptop", none⟩, ⟨ipv4 10 66 0 3, "é", some 5⟩]) := by
  have hnames : ∀ peer ∈ [(⟨ipv4 10 66 0 2, "laptop", none⟩ : PeerInfo),
      ⟨ipv4 10 66 0 3, "é", some 5⟩], peer.Buildable := by
    simp only [List.forall_mem_cons]
    exact ⟨by decide, by decide, List.forall_mem_nil _⟩
  exact (codec_round_trip (.peerList _) ⟨by decide, hnames⟩).1 [9, 9]

end EntroTunnel.Core
