import EntroTunnel.Foundation.ByteDecode
import EntroTunnel.Foundation.ByteStream
import EntroTunnel.Link.FrameSize

/-!
# Message framing of the transports

The transports cut their byte stream into messages. `LdSink` and `LdStream`, for TLS over TCP, and
the two halves of a QUIC stream put the length in front as a big-endian `u32`. `NoiseSink` encrypts
a message first and puts the length of the ciphertext in front as a `u16`. The receiving halves read
the length and then as many bytes.

`Snow` stands for the cipher states of the `snow` package. A `TransportState` has one for each
direction, so a side's sends and receives do not disturb each other.
-/

set_option autoImplicit false
set_option relaxedAutoImplicit false

namespace EntroTunnel.Link

open EntroTunnel.Foundation EntroTunnel.Core

/-- The errors of `core/src/error.rs` that the halves return. -/
inductive Error
  | io (text : String)
  | crypto (text : String)
  | protocol (text : String)
  | transport (text : String)
  | closed
  deriving DecidableEq, Repr

/-- `write_u32`. -/
def writeU32 (value : UInt32) : Bytes :=
  beBytes 4 value.toNat

/-- `write_u16`. -/
def writeU16 (value : UInt16) : Bytes :=
  beBytes 2 value.toNat

/-! ### Length-delimited halves -/

/-- The length check, the length as a `u32` and the message. -/
def lengthDelimitedSend (msg : Bytes) : Except Error Bytes :=
  if maxMessageLen < msg.length then
    .error (.protocol ("message too large: " ++ toString msg.length))
  else .ok (writeU32 (UInt32.ofNat msg.length) ++ msg)

/-- The length, its check and the message; `ended` is the error when the stream ends inside the
message, after this many bytes of it. -/
def lengthDelimitedRecv (ended : ℕ → Error) (segments : List Segment) :
    Except Error (Bytes × List Segment) :=
  match readExact 4 segments with
  | none => .error .closed
  | some (head, body) =>
    if maxMessageLen < beValue head then
      .error (.protocol ("frame too large: " ++ toString (beValue head)))
    else
      match readExact (beValue head) body with
      | none => .error (ended (content body).length)
      | some (msg, rest) => .ok (msg, rest)

/-- `LdSink::send`. -/
def LdSink.send (msg : Bytes) : Except Error Bytes :=
  lengthDelimitedSend msg

/-- `LdStream::recv`. -/
def LdStream.recv (segments : List Segment) : Except Error (Bytes × List Segment) :=
  lengthDelimitedRecv (fun _ ↦ .io "early eof") segments

/-- `QuicSink::send`. -/
def QuicSink.send (msg : Bytes) : Except Error Bytes :=
  lengthDelimitedSend msg

/-- `QuicRecv::recv`. -/
def QuicRecv.recv (segments : List Segment) : Except Error (Bytes × List Segment) :=
  lengthDelimitedRecv
    (fun count ↦ .transport
      ("quic read: stream finished early (" ++ toString count ++ " bytes read)"))
    segments

/-! ### Noise halves -/

/-- The cipher states of the two ends of one direction, with the texts of their errors. -/
structure Snow (σ τ : Type*) where
  writeMessage : σ → Bytes → Except String (Bytes × σ)
  readMessage : τ → Bytes → Except String (Bytes × τ)

namespace Snow

variable {σ τ : Type*}

/-- A ciphertext is 16 bytes longer than its plaintext. -/
def Tagged (snow : Snow σ τ) : Prop :=
  ∀ ts msg cipher next, snow.writeMessage ts msg = .ok (cipher, next) →
    cipher.length = msg.length + 16

/-- Encrypts one message after the other. -/
def writeAll (snow : Snow σ τ) : σ → List Bytes → Except String (List Bytes × σ)
  | ts, [] => .ok ([], ts)
  | ts, msg :: msgs => do
    let (cipher, next) ← snow.writeMessage ts msg
    let (ciphers, last) ← writeAll snow next msgs
    pure (cipher :: ciphers, last)

/-- Decrypts one ciphertext after the other. -/
def readAll (snow : Snow σ τ) : τ → List Bytes → Except String (List Bytes × τ)
  | ts, [] => .ok ([], ts)
  | ts, cipher :: ciphers => do
    let (msg, next) ← snow.readMessage ts cipher
    let (msgs, last) ← readAll snow next ciphers
    pure (msg :: msgs, last)

/-- Decrypting the ciphertexts in the order of their encryption returns the plaintexts. -/
def InOrder (snow : Snow σ τ) (sender : σ) (receiver : τ) : Prop :=
  ∀ msgs ciphers last, snow.writeAll sender msgs = .ok (ciphers, last) →
    ∃ after, snow.readAll receiver ciphers = .ok (msgs, after)

end Snow

section Noise

variable {σ τ : Type*}

/-- `NoiseSink::send`. -/
def NoiseSink.send (snow : Snow σ τ) (ts : σ) (msg : Bytes) : Except Error (Bytes × σ) :=
  if noiseMaxPlaintext < msg.length then
    .error (.protocol ("noise message too large: " ++ toString msg.length ++ " (max " ++
      toString noiseMaxPlaintext ++ ")"))
  else
    match snow.writeMessage ts msg with
    | .error error => .error (.crypto ("noise encrypt: " ++ error))
    | .ok (cipher, next) => .ok (writeU16 (UInt16.ofNat cipher.length) ++ cipher, next)

/-- `NoiseStream::recv`. -/
def NoiseStream.recv (snow : Snow σ τ) (ts : τ) (segments : List Segment) :
    Except Error (Bytes × τ × List Segment) :=
  match readExact 2 segments with
  | none => .error .closed
  | some (head, body) =>
    match readExact (beValue head) body with
    | none => .error (.io "early eof")
    | some (cipher, rest) =>
      match snow.readMessage ts cipher with
      | .error error => .error (.crypto ("noise decrypt: " ++ error))
      | .ok (msg, next) => .ok (msg, next, rest)

end Noise

/-! ### The halves as framings -/

/-- Halves without a state. -/
def statelessFraming (send : Bytes → Except Error Bytes)
    (recv : List Segment → Except Error (Bytes × List Segment)) : Framing Unit Unit Error where
  send := fun _ msg ↦ (send msg).map fun bytes ↦ (bytes, ())
  recv := fun _ segments ↦ (recv segments).map fun (msg, rest) ↦ (msg, (), rest)

def ldFraming : Framing Unit Unit Error :=
  statelessFraming LdSink.send LdStream.recv

def quicFraming : Framing Unit Unit Error :=
  statelessFraming QuicSink.send QuicRecv.recv

def noiseFraming {σ τ : Type*} (snow : Snow σ τ) : Framing σ τ Error where
  send := NoiseSink.send snow
  recv := NoiseStream.recv snow

/-! ### The length field -/

theorem maxMessageLen_lt : maxMessageLen < UInt32.size := by decide

theorem noiseMaxPlaintext_add_tag_lt : noiseMaxPlaintext + 16 < UInt16.size := by decide

theorem readExact_header {header body more : Bytes} {segments : List Segment}
    (hcontent : content segments = header ++ body ++ more) :
    ∃ rest, readExact header.length segments = some (header, rest) ∧
      content rest = body ++ more := by
  rw [List.append_assoc] at hcontent
  exact readExact_of_content hcontent

theorem beValue_writeU32 {length : ℕ} (hlength : length < UInt32.size) :
    beValue (writeU32 (UInt32.ofNat length)) = length := by
  have hcast : (UInt32.ofNat length).toNat = length := UInt32.toNat_ofNat_of_lt' hlength
  rw [writeU32, hcast, beValue_beBytes 4 length hlength]

theorem beValue_writeU16 {length : ℕ} (hlength : length < UInt16.size) :
    beValue (writeU16 (UInt16.ofNat length)) = length := by
  have hcast : (UInt16.ofNat length).toNat = length := UInt16.toNat_ofNat_of_lt' hlength
  rw [writeU16, hcast, beValue_beBytes 2 length hlength]

/-! ### One message -/

theorem lengthDelimitedSend_eq_ok {msg bytes : Bytes}
    (hsend : lengthDelimitedSend msg = .ok bytes) :
    msg.length ≤ maxMessageLen ∧ bytes = writeU32 (UInt32.ofNat msg.length) ++ msg := by
  unfold lengthDelimitedSend at hsend
  split_ifs at hsend with hlong
  · exact ⟨not_lt.mp hlong, (Except.ok.inj hsend).symm⟩

/-- A length-delimited message is read back, and nothing after it. -/
theorem lengthDelimitedRecv_of_send {ended : ℕ → Error} {msg bytes more : Bytes}
    {segments : List Segment} (hsend : lengthDelimitedSend msg = .ok bytes)
    (hcontent : content segments = bytes ++ more) :
    ∃ rest, lengthDelimitedRecv ended segments = .ok (msg, rest) ∧ content rest = more := by
  obtain ⟨hfits, rfl⟩ := lengthDelimitedSend_eq_ok hsend
  obtain ⟨body, hhead, hbody⟩ := readExact_header hcontent
  obtain ⟨rest, hmsg, hrest⟩ := readExact_of_content hbody
  have hlength : (writeU32 (UInt32.ofNat msg.length)).length = 4 := length_beBytes 4 _
  have hvalue := beValue_writeU32 (hfits.trans_lt maxMessageLen_lt)
  refine ⟨rest, ?_, hrest⟩
  rw [hlength] at hhead
  simp only [lengthDelimitedRecv, hhead, hvalue, if_neg (not_lt.mpr hfits), hmsg]

theorem lengthDelimited_delivers (ended : ℕ → Error) :
    (statelessFraming lengthDelimitedSend (lengthDelimitedRecv ended)).Delivers
      fun _ _ ↦ True := by
  intro _ _ msg bytes _ _ hsend segments more hcontent
  change (lengthDelimitedSend msg).map _ = _ at hsend
  cases hresult : lengthDelimitedSend msg with
  | error error =>
    rw [hresult] at hsend
    cases hsend
  | ok sent =>
    rw [hresult] at hsend
    obtain ⟨rfl, -⟩ := Prod.mk.inj (Except.ok.inj hsend)
    obtain ⟨rest, hrecv, hrest⟩ := lengthDelimitedRecv_of_send hresult hcontent
    refine ⟨(), rest, ?_, hrest, trivial⟩
    change (lengthDelimitedRecv ended segments).map _ = _
    rw [hrecv]
    rfl

section Noise

variable {σ τ : Type*} {snow : Snow σ τ}

theorem NoiseSink.send_eq_ok {ts next : σ} {msg bytes : Bytes}
    (hsend : send snow ts msg = .ok (bytes, next)) :
    ∃ cipher, msg.length ≤ noiseMaxPlaintext ∧ snow.writeMessage ts msg = .ok (cipher, next) ∧
      bytes = writeU16 (UInt16.ofNat cipher.length) ++ cipher := by
  unfold send at hsend
  split_ifs at hsend with hlong
  split at hsend
  · cases hsend
  · rename_i cipher after hwrite
    obtain ⟨rfl, rfl⟩ := Prod.mk.inj (Except.ok.inj hsend)
    exact ⟨cipher, not_lt.mp hlong, hwrite, rfl⟩

theorem Snow.readAll_cons_eq_ok {ts last : τ} {cipher : Bytes} {ciphers : List Bytes}
    {msg : Bytes} {msgs : List Bytes}
    (hread : snow.readAll ts (cipher :: ciphers) = .ok (msg :: msgs, last)) :
    ∃ next, snow.readMessage ts cipher = .ok (msg, next) ∧
      snow.readAll next ciphers = .ok (msgs, last) := by
  rw [readAll] at hread
  cases hfirst : snow.readMessage ts cipher with
  | error error =>
    rw [hfirst] at hread
    cases hread
  | ok first =>
    obtain ⟨plain, next⟩ := first
    rw [hfirst] at hread
    change (snow.readAll next ciphers >>= _) = _ at hread
    cases hrest : snow.readAll next ciphers with
    | error error =>
      rw [hrest] at hread
      cases hread
    | ok rest =>
      obtain ⟨plains, final⟩ := rest
      rw [hrest] at hread
      obtain ⟨hmsgs, rfl⟩ := Prod.mk.inj (Except.ok.inj hread)
      obtain ⟨rfl, rfl⟩ := List.cons.inj hmsgs
      exact ⟨next, rfl, hrest⟩

/-- The next ciphertext decrypts to its plaintext, and the order goes on after it. -/
theorem Snow.InOrder.next {sender after : σ} {receiver : τ} {msg cipher : Bytes}
    (horder : snow.InOrder sender receiver)
    (hwrite : snow.writeMessage sender msg = .ok (cipher, after)) :
    ∃ next, snow.readMessage receiver cipher = .ok (msg, next) ∧ snow.InOrder after next := by
  have hone : snow.writeAll sender [msg] = .ok ([cipher], after) := by
    rw [writeAll, hwrite]
    rfl
  obtain ⟨last, hread⟩ := horder _ _ _ hone
  obtain ⟨next, hnext, -⟩ := readAll_cons_eq_ok hread
  refine ⟨next, hnext, fun msgs ciphers final hall ↦ ?_⟩
  have hmore : snow.writeAll sender (msg :: msgs) = .ok (cipher :: ciphers, final) := by
    rw [writeAll, hwrite]
    change (snow.writeAll after msgs >>= _) = _
    rw [hall]
    rfl
  obtain ⟨end_, hreads⟩ := horder _ _ _ hmore
  obtain ⟨other, hother, hrest⟩ := readAll_cons_eq_ok hreads
  rw [hnext] at hother
  obtain ⟨-, rfl⟩ := Prod.mk.inj (Except.ok.inj hother)
  exact ⟨end_, hrest⟩

theorem NoiseSink.cipher_length_lt (htagged : snow.Tagged) {ts next : σ} {msg cipher : Bytes}
    (hfits : msg.length ≤ noiseMaxPlaintext)
    (hwrite : snow.writeMessage ts msg = .ok (cipher, next)) : cipher.length < UInt16.size := by
  have htag := htagged ts msg cipher next hwrite
  have hbound := noiseMaxPlaintext_add_tag_lt
  omega

theorem noise_delivers (htagged : snow.Tagged) : (noiseFraming snow).Delivers snow.InOrder := by
  intro sender receiver msg bytes next horder hsend segments more hcontent
  obtain ⟨cipher, hfits, hwrite, rfl⟩ := NoiseSink.send_eq_ok hsend
  obtain ⟨after, hread, hnext⟩ := horder.next hwrite
  obtain ⟨body, hhead, hbody⟩ := readExact_header hcontent
  obtain ⟨rest, hcipher, hrest⟩ := readExact_of_content hbody
  have hlength : (writeU16 (UInt16.ofNat cipher.length)).length = 2 := length_beBytes 2 _
  have hcast := NoiseSink.cipher_length_lt htagged hfits hwrite
  refine ⟨after, rest, ?_, hrest, hnext⟩
  rw [hlength] at hhead
  change NoiseStream.recv snow receiver segments = _
  simp only [NoiseStream.recv, hhead, beValue_writeU16 hcast, hcipher, hread]

end Noise

/-! ### What is accepted -/

/-- The halves accept exactly what the size check of their transport lets through. -/
theorem lengthDelimitedSend_accepts_iff (msg : Bytes) :
    (∃ bytes, lengthDelimitedSend msg = .ok bytes) ↔
      Transport.lengthDelimited.send msg = .ok () := by
  rw [lengthDelimitedSend, Transport.send]
  split_ifs <;> simp

/-- The Noise half accepts what passes its size check and can be encrypted. -/
theorem NoiseSink.send_accepts_iff {σ τ : Type*} (snow : Snow σ τ) (ts : σ) (msg : Bytes) :
    (∃ sent, NoiseSink.send snow ts msg = .ok sent) ↔
      Transport.noise.send msg = .ok () ∧ ∃ written, snow.writeMessage ts msg = .ok written := by
  rw [NoiseSink.send, Transport.send]
  split_ifs with hlong
  · simp
  · cases snow.writeMessage ts msg <;> simp

/-! ### Whole runs -/

/-- Every sequence of accepted messages comes out of the receiving half as it was sent, for every
cut of the byte stream. A message is accepted when it is no longer than the limit of its format, and
no cast shortens a length. -/
theorem framing_faithful {σ τ : Type*} (snow : Snow σ τ) (htagged : snow.Tagged) (sender : σ)
    (receiver : τ) (horder : snow.InOrder sender receiver) :
    ldFraming.Faithful .closed () () ∧ quicFraming.Faithful .closed () () ∧
      (noiseFraming snow).Faithful .closed sender receiver ∧
        (∀ msg, ((∃ bytes, LdSink.send msg = .ok bytes) ↔ msg.length ≤ maxMessageLen) ∧
          ((∃ bytes, QuicSink.send msg = .ok bytes) ↔ msg.length ≤ maxMessageLen) ∧
          ∀ ts, (∃ sent, NoiseSink.send snow ts msg = .ok sent) ↔
            msg.length ≤ noiseMaxPlaintext ∧ ∃ written, snow.writeMessage ts msg = .ok written) ∧
        (∀ msg bytes, LdSink.send msg = .ok bytes ∨ QuicSink.send msg = .ok bytes →
          (UInt32.ofNat msg.length).toNat = msg.length) ∧
          ∀ ts msg bytes next, NoiseSink.send snow ts msg = .ok (bytes, next) →
            ∃ cipher, snow.writeMessage ts msg = .ok (cipher, next) ∧
              (UInt16.ofNat cipher.length).toNat = cipher.length := by
  refine ⟨(lengthDelimited_delivers _).faithful trivial fun _ ↦ rfl,
    (lengthDelimited_delivers _).faithful trivial fun _ ↦ rfl,
    (noise_delivers htagged).faithful horder fun _ ↦ rfl, fun msg ↦ ⟨?_, ?_, fun ts ↦ ?_⟩,
    fun msg bytes hsend ↦ ?_, fun ts msg bytes next hsend ↦ ?_⟩
  · exact (lengthDelimitedSend_accepts_iff msg).trans
      (Transport.send_lengthDelimited_eq_ok_iff msg)
  · exact (lengthDelimitedSend_accepts_iff msg).trans
      (Transport.send_lengthDelimited_eq_ok_iff msg)
  · rw [NoiseSink.send_accepts_iff, Transport.send_noise_eq_ok_iff]
  · have hfits : msg.length ≤ maxMessageLen :=
      (lengthDelimitedSend_eq_ok (hsend.elim id id)).1
    exact UInt32.toNat_ofNat_of_lt' (hfits.trans_lt maxMessageLen_lt)
  · obtain ⟨cipher, hfits, hwrite, -⟩ := NoiseSink.send_eq_ok hsend
    have hcast := NoiseSink.cipher_length_lt htagged hfits hwrite
    exact ⟨cipher, hwrite, UInt16.toNat_ofNat_of_lt' hcast⟩

/-- Counters for cipher states: the tag of a message is its number. -/
def countingSnow : Snow ℕ ℕ where
  writeMessage := fun count msg ↦ .ok (msg ++ beBytes 16 count, count + 1)
  readMessage := fun count cipher ↦
    if cipher.drop (cipher.length - 16) = beBytes 16 count then
      .ok (cipher.take (cipher.length - 16), count + 1)
    else .error "decrypt error"

theorem countingSnow_tagged : countingSnow.Tagged := by
  intro count msg cipher next hwrite
  obtain ⟨rfl, -⟩ := Prod.mk.inj (Except.ok.inj hwrite)
  rw [List.length_append, length_beBytes]

theorem countingSnow_read (count : ℕ) (msg : Bytes) :
    countingSnow.readMessage count (msg ++ beBytes 16 count) = .ok (msg, count + 1) := by
  have hlength : (msg ++ beBytes 16 count).length - 16 = msg.length := by
    rw [List.length_append, length_beBytes]
    omega
  simp only [countingSnow, hlength, List.drop_left, List.take_left, if_true]

theorem countingSnow_inOrder (count : ℕ) : countingSnow.InOrder count count := by
  intro msgs
  induction msgs generalizing count with
  | nil =>
    intro ciphers last hwrite
    obtain ⟨rfl, -⟩ := Prod.mk.inj (Except.ok.inj hwrite)
    exact ⟨count, rfl⟩
  | cons msg msgs ih =>
    intro ciphers last hwrite
    change (countingSnow.writeAll (count + 1) msgs >>= _) = _ at hwrite
    cases hrest : countingSnow.writeAll (count + 1) msgs with
    | error error =>
      rw [hrest] at hwrite
      cases hwrite
    | ok rest =>
      rw [hrest] at hwrite
      obtain ⟨rfl, -⟩ := Prod.mk.inj (Except.ok.inj hwrite)
      obtain ⟨after, hread⟩ := ih (count + 1) _ _ hrest
      refine ⟨after, ?_⟩
      rw [Snow.readAll, countingSnow_read]
      change (countingSnow.readAll (count + 1) rest.1 >>= _) = _
      rw [hread]
      rfl

/-- Over each format an empty message and one of two bytes arrive from a stream that is cut inside a
length, and the longest message is accepted. -/
theorem framing_faithful_counting :
    (∃ after, ldFraming.recvAll 2 () [⟨[0], by decide⟩, ⟨[0, 0, 0, 0, 0], by decide⟩,
        ⟨[0, 2, 7, 8], by decide⟩] = .ok ([[], [7, 8]], after, []) ∧
      ldFraming.recv after [] = .error .closed) ∧
    (∃ after, quicFraming.recvAll 2 () [⟨[0, 0], by decide⟩, ⟨[0, 0, 0, 0, 0, 2, 7], by decide⟩,
        ⟨[8], by decide⟩] = .ok ([[], [7, 8]], after, []) ∧
      quicFraming.recv after [] = .error .closed) ∧
    (∃ after, (noiseFraming countingSnow).recvAll 2 0
        [⟨[0], by decide⟩, ⟨[16, 0, 0, 0, 0, 0, 0, 0, 0], by decide⟩,
          ⟨[0, 0, 0, 0, 0, 0, 0, 0, 0, 18, 7, 8, 0, 0, 0, 0, 0, 0, 0, 0, 0, 0, 0, 0, 0, 0, 0, 1],
            by decide⟩] = .ok ([[], [7, 8]], after, []) ∧
      (noiseFraming countingSnow).recv after [] = .error .closed) ∧
    (∃ bytes, LdSink.send (List.replicate maxMessageLen 7) = .ok bytes) ∧
    (∃ bytes, QuicSink.send (List.replicate maxMessageLen 7) = .ok bytes) ∧
    ∃ sent, NoiseSink.send countingSnow 0 (List.replicate noiseMaxPlaintext 7) = .ok sent := by
  obtain ⟨hld, hquic, hnoise, haccepts, -, -⟩ :=
    framing_faithful countingSnow countingSnow_tagged 0 0 (countingSnow_inOrder 0)
  have hlongest (length : ℕ) : (List.replicate length (7 : UInt8)).length ≤ length :=
    List.length_replicate.le
  exact ⟨hld [[], [7, 8]] _ () rfl _ (by decide +kernel),
    hquic [[], [7, 8]] _ () rfl _ (by decide +kernel),
    hnoise [[], [7, 8]] _ 2 rfl _ (by decide +kernel), (haccepts _).1.mpr (hlongest maxMessageLen),
    (haccepts _).2.1.mpr (hlongest maxMessageLen),
    ((haccepts _).2.2 0).mpr ⟨hlongest noiseMaxPlaintext, _, rfl⟩⟩

end EntroTunnel.Link
