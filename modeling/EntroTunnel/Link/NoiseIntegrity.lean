import EntroTunnel.Foundation.Reach
import EntroTunnel.Link.FrameChannel

/-!
# A Noise channel over a network that cannot be trusted

One direction of a Noise connection when whatever lies between the two ends hands over any bytes at
all: it may drop, repeat, reorder, cut or make up. So may the servers that relay a hop of a chain,
and so does a relay that loses a chunk in the middle of a stream.

The cipher is taken at its word about two things: ciphertexts are accepted in the order of their
encryption only (`Snow.Numbered`, besides `Snow.InOrder`), and none is accepted that was not
written; a run in which one was is marked as `forged`. The length fields are not protected.
`frames_authentic` says that this is enough: the reader returns the first of the frames that were
sent, and at most fails.
-/

set_option autoImplicit false
set_option relaxedAutoImplicit false

namespace EntroTunnel.Link

open EntroTunnel.Foundation EntroTunnel.Core

/-! ### The order of ciphertexts -/

namespace Snow

variable {σ τ : Type*} {snow : Snow σ τ}

/-- Of the ciphertexts of a sender, a receiver that has read the first `count` accepts the next one
and no other. -/
def Numbered (snow : Snow σ τ) (sender : σ) (receiver : τ) : Prop :=
  ∀ msgs ciphers last count after, snow.writeAll sender msgs = .ok (ciphers, last) →
    snow.readAll receiver (ciphers.take count) = .ok (msgs.take count, after) →
      ∀ cipher ∈ ciphers, ∀ accepted, snow.readMessage after cipher = .ok accepted →
        ciphers[count]? = some cipher

theorem writeAll_cons_eq_ok {ts last : σ} {msg : Bytes} {msgs ciphers : List Bytes}
    (hwrite : snow.writeAll ts (msg :: msgs) = .ok (ciphers, last)) :
    ∃ cipher next rest, snow.writeMessage ts msg = .ok (cipher, next) ∧
      snow.writeAll next msgs = .ok (rest, last) ∧ ciphers = cipher :: rest := by
  rw [writeAll] at hwrite
  cases hfirst : snow.writeMessage ts msg with
  | error error =>
    rw [hfirst] at hwrite
    cases hwrite
  | ok first =>
    obtain ⟨cipher, next⟩ := first
    rw [hfirst] at hwrite
    change (snow.writeAll next msgs >>= _) = _ at hwrite
    cases hrest : snow.writeAll next msgs with
    | error error =>
      rw [hrest] at hwrite
      cases hwrite
    | ok rest =>
      obtain ⟨others, final⟩ := rest
      rw [hrest] at hwrite
      obtain ⟨rfl, rfl⟩ := Prod.mk.inj (Except.ok.inj hwrite)
      exact ⟨cipher, next, others, rfl, hrest, rfl⟩

theorem writeAll_cons {ts next last : σ} {msg cipher : Bytes} {msgs rest : List Bytes}
    (hfirst : snow.writeMessage ts msg = .ok (cipher, next))
    (hrest : snow.writeAll next msgs = .ok (rest, last)) :
    snow.writeAll ts (msg :: msgs) = .ok (cipher :: rest, last) := by
  rw [writeAll, hfirst]
  change (snow.writeAll next msgs >>= _) = _
  rw [hrest]
  rfl

theorem writeAll_concat {ts middle last : σ} {msg cipher : Bytes} {msgs ciphers : List Bytes}
    (hwrite : snow.writeAll ts msgs = .ok (ciphers, middle))
    (hlast : snow.writeMessage middle msg = .ok (cipher, last)) :
    snow.writeAll ts (msgs ++ [msg]) = .ok (ciphers ++ [cipher], last) := by
  induction msgs generalizing ts ciphers with
  | nil =>
    obtain ⟨rfl, rfl⟩ := Prod.mk.inj (Except.ok.inj hwrite)
    exact writeAll_cons hlast rfl
  | cons first msgs ih =>
    obtain ⟨head, next, rest, hfirst, hrest, rfl⟩ := writeAll_cons_eq_ok hwrite
    exact writeAll_cons hfirst (ih hrest)

theorem length_writeAll {ts last : σ} {msgs ciphers : List Bytes}
    (hwrite : snow.writeAll ts msgs = .ok (ciphers, last)) : ciphers.length = msgs.length := by
  induction msgs generalizing ts ciphers with
  | nil =>
    obtain ⟨rfl, -⟩ := Prod.mk.inj (Except.ok.inj hwrite)
    rfl
  | cons first msgs ih =>
    obtain ⟨head, next, rest, -, hrest, rfl⟩ := writeAll_cons_eq_ok hwrite
    rw [List.length_cons, List.length_cons, ih hrest]

/-- The first of the ciphertexts are those of the first messages. -/
theorem writeAll_take {ts last : σ} {msgs ciphers : List Bytes}
    (hwrite : snow.writeAll ts msgs = .ok (ciphers, last)) (count : ℕ) :
    ∃ middle, snow.writeAll ts (msgs.take count) = .ok (ciphers.take count, middle) := by
  induction msgs generalizing ts ciphers count with
  | nil =>
    obtain ⟨rfl, rfl⟩ := Prod.mk.inj (Except.ok.inj hwrite)
    exact ⟨ts, by rw [List.take_nil, writeAll]⟩
  | cons first msgs ih =>
    obtain ⟨head, next, rest, hfirst, hrest, rfl⟩ := writeAll_cons_eq_ok hwrite
    cases count with
    | zero => exact ⟨ts, rfl⟩
    | succ count =>
      obtain ⟨middle, htaken⟩ := ih hrest count
      exact ⟨middle, writeAll_cons hfirst htaken⟩

theorem readAll_cons {ts next last : τ} {cipher msg : Bytes} {ciphers msgs : List Bytes}
    (hfirst : snow.readMessage ts cipher = .ok (msg, next))
    (hrest : snow.readAll next ciphers = .ok (msgs, last)) :
    snow.readAll ts (cipher :: ciphers) = .ok (msg :: msgs, last) := by
  rw [readAll, hfirst]
  change (snow.readAll next ciphers >>= _) = _
  rw [hrest]
  rfl

theorem length_readAll {ts last : τ} {ciphers msgs : List Bytes}
    (hread : snow.readAll ts ciphers = .ok (msgs, last)) : msgs.length = ciphers.length := by
  induction ciphers generalizing ts msgs with
  | nil =>
    obtain ⟨rfl, -⟩ := Prod.mk.inj (Except.ok.inj hread)
    rfl
  | cons cipher ciphers ih =>
    cases msgs with
    | nil =>
      rw [readAll] at hread
      cases hfirst : snow.readMessage ts cipher with
      | error error =>
        rw [hfirst] at hread
        cases hread
      | ok first =>
        rw [hfirst] at hread
        change (snow.readAll first.2 ciphers >>= _) = _ at hread
        cases hrest : snow.readAll first.2 ciphers with
        | error error =>
          rw [hrest] at hread
          cases hread
        | ok rest =>
          rw [hrest] at hread
          cases (Prod.mk.inj (Except.ok.inj hread)).1
    | cons msg msgs =>
      obtain ⟨next, -, hrest⟩ := readAll_cons_eq_ok hread
      rw [List.length_cons, List.length_cons, ih hrest]

/-- What is read after some ciphertexts have been read. -/
theorem readAll_concat {ts middle last : τ} {cipher msg : Bytes} {ciphers msgs : List Bytes}
    (hread : snow.readAll ts ciphers = .ok (msgs, middle))
    (hmore : snow.readAll ts (ciphers ++ [cipher]) = .ok (msgs ++ [msg], last)) :
    snow.readMessage middle cipher = .ok (msg, last) := by
  induction ciphers generalizing ts msgs with
  | nil =>
    obtain ⟨rfl, rfl⟩ := Prod.mk.inj (Except.ok.inj hread)
    obtain ⟨next, hnext, hend⟩ := readAll_cons_eq_ok hmore
    obtain ⟨-, rfl⟩ := Prod.mk.inj (Except.ok.inj hend)
    exact hnext
  | cons first ciphers ih =>
    cases msgs with
    | nil => exact absurd (length_readAll hread) (by simp)
    | cons head msgs =>
      obtain ⟨next, hfirst, hrest⟩ := readAll_cons_eq_ok hread
      obtain ⟨other, hother, hothers⟩ := readAll_cons_eq_ok hmore
      obtain ⟨-, rfl⟩ := Prod.mk.inj (Except.ok.inj (hfirst.symm.trans hother))
      exact ih hrest hothers

end Snow

/-! ### A channel and what is between its ends -/

/-- One direction of a Noise connection. -/
structure Tampered (σ τ : Type*) where
  sender : σ
  receiver : τ
  /-- The ciphertexts of the frames that were sent. -/
  written : List Bytes
  sent : List Frame
  /-- What was handed over to the receiver, and not read. -/
  arrived : List Segment
  eof : Bool
  received : List Frame
  failure : Option ChannelError
  /-- A ciphertext was accepted that had not been written. -/
  forged : Bool

/-- A step of the writer, of the reader, or of what is between them. -/
inductive TamperedAction
  | send (frame : Frame)
  | inject (segment : Segment)
  | shutdown
  | recv

/-- What `NoiseStream::recv` takes for the next ciphertext. -/
def nextCipher (segments : List Segment) : Option Bytes :=
  (readExact 2 segments).bind fun (head, body) ↦
    (readExact (beValue head) body).map fun (cipher, _) ↦ cipher

namespace Tampered

variable {σ τ : Type*}

def fresh (sender : σ) (receiver : τ) : Tampered σ τ where
  sender := sender
  receiver := receiver
  written := []
  sent := []
  arrived := []
  eof := false
  received := []
  failure := none
  forged := false

/-- One step. A reader that needs more waits until the stream has ended, and reads no further once
it has reported an error. -/
def step (snow : Snow σ τ) (channel : Tampered σ τ) : TamperedAction → Option (Tampered σ τ)
  | .send frame =>
    match FrameWriter.send (noiseFraming snow) channel.sender frame with
    | .error _ => some channel
    | .ok (bytes, next) =>
      some { channel with
        sender := next
        written := channel.written ++ [bytes.drop 2]
        sent := channel.sent ++ [frame] }
  | .inject segment => some { channel with arrived := channel.arrived ++ [segment] }
  | .shutdown => some { channel with eof := true }
  | .recv =>
    if channel.failure.isSome then none
    else
      match (frameTransfer (noiseFraming snow)).recv channel.receiver channel.arrived with
      | .ok (frame, next, rest) =>
        some { channel with
          receiver := next
          arrived := rest
          received := channel.received ++ [frame]
          forged := channel.forged || (nextCipher channel.arrived).all (· ∉ channel.written) }
      | .error error =>
        if error.endsStream ∧ ¬ channel.eof then none
        else some { channel with failure := some error }

/-- What was read are the first of the ciphertexts that were written. -/
structure Authentic (snow : Snow σ τ) (sender : σ) (receiver : τ) (channel : Tampered σ τ) :
    Prop where
  buildable : ∀ frame ∈ channel.sent, frame.Buildable
  writes : snow.writeAll sender (channel.sent.map Frame.encode) =
    .ok (channel.written, channel.sender)
  reads : channel.forged = false → ∃ count ≤ channel.sent.length,
    channel.received = channel.sent.take count ∧
      snow.readAll receiver (channel.written.take count) =
        .ok ((channel.sent.map Frame.encode).take count, channel.receiver)

section Runs

variable {snow : Snow σ τ} {sender : σ} {receiver : τ} {channel next : Tampered σ τ}

theorem authentic_fresh (snow : Snow σ τ) (sender : σ) (receiver : τ) :
    Authentic snow sender receiver (fresh sender receiver) :=
  ⟨fun _ hmem ↦ absurd hmem List.not_mem_nil, rfl, fun _ ↦ ⟨0, le_rfl, rfl, rfl⟩⟩

/-- A frame that was read is what the next ciphertext decrypts to. -/
theorem recv_eq_ok {ts after : τ} {segments rest : List Segment} {frame : Frame}
    (hrecv : (frameTransfer (noiseFraming snow)).recv ts segments = .ok (frame, after, rest)) :
    ∃ cipher msg, nextCipher segments = some cipher ∧
      snow.readMessage ts cipher = .ok (msg, after) ∧ Frame.decode msg = some frame := by
  change FrameReader.recv (NoiseStream.recv snow ts segments) = _ at hrecv
  unfold NoiseStream.recv at hrecv
  cases hhead : readExact 2 segments with
  | none =>
    simp only [hhead] at hrecv
    cases hrecv
  | some header =>
    obtain ⟨head, body⟩ := header
    simp only [hhead] at hrecv
    cases hbody : readExact (beValue head) body with
    | none =>
      simp only [hbody] at hrecv
      cases hrecv
    | some read =>
      obtain ⟨cipher, more⟩ := read
      simp only [hbody] at hrecv
      cases hread : snow.readMessage ts cipher with
      | error error =>
        simp only [hread] at hrecv
        cases hrecv
      | ok message =>
        obtain ⟨msg, last⟩ := message
        simp only [hread, FrameReader.recv] at hrecv
        cases hdecode : Frame.decode msg with
        | none =>
          simp only [hdecode] at hrecv
          cases hrecv
        | some decoded =>
          simp only [hdecode, Except.ok.injEq, Prod.mk.injEq] at hrecv
          obtain ⟨rfl, rfl, rfl⟩ := hrecv
          exact ⟨cipher, msg, by simp only [nextCipher, hhead, hbody, Option.bind_some,
            Option.map_some], hread, hdecode⟩

/-- A frame that was sent. -/
theorem send_eq_ok {ts after : σ} {frame : Frame} {bytes : Bytes}
    (hsend : FrameWriter.send (noiseFraming snow) ts frame = .ok (bytes, after)) :
    snow.writeMessage ts frame.encode = .ok (bytes.drop 2, after) := by
  obtain ⟨cipher, -, hwrite, rfl⟩ := NoiseSink.send_eq_ok (FrameWriter.send_eq_ok hsend)
  have hlength : (writeU16 (UInt16.ofNat cipher.length)).length = 2 := length_beBytes 2 _
  rw [← hlength, List.drop_left]
  exact hwrite

theorem Authentic.send (hauthentic : Authentic snow sender receiver channel) {frame : Frame}
    (hframe : frame.Buildable) {bytes : Bytes} {after : σ}
    (hsend : FrameWriter.send (noiseFraming snow) channel.sender frame = .ok (bytes, after)) :
    Authentic snow sender receiver { channel with
      sender := after
      written := channel.written ++ [bytes.drop 2]
      sent := channel.sent ++ [frame] } where
  buildable := by
    intro other hmem
    rcases List.mem_append.mp hmem with hmem | hmem
    · exact hauthentic.buildable other hmem
    · exact List.mem_singleton.mp hmem ▸ hframe
  writes := by
    rw [List.map_append]
    exact Snow.writeAll_concat hauthentic.writes (send_eq_ok hsend)
  reads hforged := by
    obtain ⟨count, hcount, hreceived, hreads⟩ := hauthentic.reads hforged
    have hlength := Snow.length_writeAll hauthentic.writes
    refine ⟨count, ?_, ?_, ?_⟩
    · rw [List.length_append]
      exact hcount.trans (Nat.le_add_right _ _)
    · rw [List.take_append_of_le_length hcount]
      exact hreceived
    · rw [List.map_append, List.take_append_of_le_length (by rwa [hlength, List.length_map]),
        List.take_append_of_le_length (by rwa [List.length_map])]
      exact hreads

/-- A ciphertext that was accepted and had been written is the next one. -/
theorem Authentic.recv (horder : snow.InOrder sender receiver)
    (hnumbered : snow.Numbered sender receiver)
    (hauthentic : Authentic snow sender receiver channel) {frame : Frame} {after : τ}
    {rest : List Segment}
    (hrecv : (frameTransfer (noiseFraming snow)).recv channel.receiver channel.arrived =
      .ok (frame, after, rest)) :
    Authentic snow sender receiver { channel with
      receiver := after
      arrived := rest
      received := channel.received ++ [frame]
      forged := channel.forged || (nextCipher channel.arrived).all (· ∉ channel.written) } where
  buildable := hauthentic.buildable
  writes := hauthentic.writes
  reads hforged := by
    obtain ⟨hunforged, hknown⟩ := Bool.or_eq_false_iff.mp hforged
    obtain ⟨count, -, hreceived, hreads⟩ := hauthentic.reads hunforged
    obtain ⟨cipher, msg, hcipher, hread, hdecode⟩ := recv_eq_ok hrecv
    rw [hcipher, Option.all_some, decide_eq_false_iff_not, not_not] at hknown
    have hplace := hnumbered _ _ _ _ _ hauthentic.writes hreads cipher hknown _ hread
    have hlength := Snow.length_writeAll hauthentic.writes
    rw [List.length_map] at hlength
    obtain ⟨hcount, hget⟩ := List.getElem?_eq_some_iff.mp hplace
    -- The next ciphertext decrypts to the frame that it was made of.
    obtain ⟨sent, hsent⟩ : ∃ sent, channel.sent[count]? = some sent :=
      ⟨_, List.getElem?_eq_getElem (hlength ▸ hcount)⟩
    have hsents : channel.sent.take (count + 1) = channel.sent.take count ++ [sent] := by
      rw [List.take_add_one, hsent, Option.toList_some]
    have hciphers : channel.written.take (count + 1) = channel.written.take count ++ [cipher] := by
      rw [List.take_add_one, hplace, Option.toList_some]
    obtain ⟨middle, hwrites⟩ := Snow.writeAll_take hauthentic.writes (count + 1)
    obtain ⟨last, hall⟩ := horder _ _ _ hwrites
    have hnext := hall
    rw [← List.map_take, hsents, hciphers, List.map_append, List.map_take] at hnext
    have hdecrypt := Snow.readAll_concat hreads hnext
    obtain ⟨hmsg, rfl⟩ := Prod.mk.inj (Except.ok.inj (hread.symm.trans hdecrypt))
    have hbuildable := hauthentic.buildable sent (List.mem_of_getElem? hsent)
    have hframe : Frame.decode sent.encode = some sent := by
      have hencoded := Frame.decode_encode hbuildable []
      rwa [List.append_nil] at hencoded
    rw [hmsg, hframe] at hdecode
    obtain rfl := Option.some.inj hdecode
    exact ⟨count + 1, hlength ▸ hcount, by rw [hreceived, hsents], hall⟩

theorem Authentic.step (horder : snow.InOrder sender receiver)
    (hnumbered : snow.Numbered sender receiver)
    (hauthentic : Authentic snow sender receiver channel) {action : TamperedAction}
    (hvalid : ∀ frame, action = .send frame → frame.Buildable)
    (hstep : channel.step snow action = some next) : Authentic snow sender receiver next := by
  cases action with
  | send frame =>
    simp only [Tampered.step] at hstep
    split at hstep
    · exact Option.some.inj hstep ▸ hauthentic
    · rename_i bytes after hsend
      exact Option.some.inj hstep ▸ hauthentic.send (hvalid frame rfl) hsend
  | inject segment =>
    exact Option.some.inj hstep ▸ ⟨hauthentic.buildable, hauthentic.writes, hauthentic.reads⟩
  | shutdown =>
    exact Option.some.inj hstep ▸ ⟨hauthentic.buildable, hauthentic.writes, hauthentic.reads⟩
  | recv =>
    simp only [Tampered.step] at hstep
    split_ifs at hstep with hfailed
    split at hstep
    · rename_i frame after rest hrecv
      exact Option.some.inj hstep ▸ hauthentic.recv horder hnumbered hrecv
    · split_ifs at hstep
      exact Option.some.inj hstep ▸ ⟨hauthentic.buildable, hauthentic.writes, hauthentic.reads⟩

end Runs

/-! ### Every network -/

/-- Whatever is handed over to the receiver, and in whatever order the steps are taken: as long as
no ciphertext is accepted that was not written, the frames that were received are the first of those
that were sent. -/
theorem frames_authentic (snow : Snow σ τ) (sender : σ) (receiver : τ)
    (horder : snow.InOrder sender receiver) (hnumbered : snow.Numbered sender receiver)
    (actions : List TamperedAction)
    (hvalid : ∀ frame, .send frame ∈ actions → frame.Buildable) (channel : Tampered σ τ)
    (hrun : run (Tampered.step snow) (fresh sender receiver) actions = some channel)
    (hunforged : channel.forged = false) : channel.received <+: channel.sent := by
  have hkept : ∀ state action after, Authentic snow sender receiver state →
      (∀ frame, action = .send frame → frame.Buildable) →
        Tampered.step snow state action = some after → Authentic snow sender receiver after :=
    fun _ _ _ hauthentic hframe hstep ↦ hauthentic.step horder hnumbered hframe hstep
  have hall : ∀ action ∈ actions, ∀ frame, action = .send frame → frame.Buildable := by
    rintro _ hmem frame rfl
    exact hvalid frame hmem
  have hauthentic : Authentic snow sender receiver channel :=
    kept_of_run _ hkept hall hrun (authentic_fresh snow sender receiver)
  obtain ⟨count, -, hreceived, -⟩ := hauthentic.reads hunforged
  exact hreceived ▸ List.take_prefix _ _

/-! ### A replayed ciphertext -/

/-- The number of a message is its tag, and the numbers of one key are exhausted. -/
def nonceSnow : Snow ℕ ℕ where
  writeMessage := fun nonce msg ↦
    if nonce < 2 ^ 64 - 1 then .ok (msg ++ beBytes 16 nonce, nonce + 1) else .error "exhausted"
  readMessage := fun nonce cipher ↦
    if nonce < 2 ^ 64 - 1 ∧ cipher.drop (cipher.length - 16) = beBytes 16 nonce then
      .ok (cipher.take (cipher.length - 16), nonce + 1)
    else .error "decrypt error"

theorem nonceSnow_write_eq_ok {nonce next : ℕ} {msg cipher : Bytes}
    (hwrite : nonceSnow.writeMessage nonce msg = .ok (cipher, next)) :
    nonce < 2 ^ 64 - 1 ∧ cipher = msg ++ beBytes 16 nonce ∧ next = nonce + 1 := by
  simp only [nonceSnow] at hwrite
  split_ifs at hwrite with hnonce
  obtain ⟨rfl, rfl⟩ := Prod.mk.inj (Except.ok.inj hwrite)
  exact ⟨hnonce, rfl, rfl⟩

theorem nonceSnow_read_eq_ok {nonce next : ℕ} {msg cipher : Bytes}
    (hread : nonceSnow.readMessage nonce cipher = .ok (msg, next)) :
    nonce < 2 ^ 64 - 1 ∧ cipher.drop (cipher.length - 16) = beBytes 16 nonce ∧
      next = nonce + 1 := by
  simp only [nonceSnow] at hread
  split_ifs at hread with haccepts
  obtain ⟨-, rfl⟩ := Prod.mk.inj (Except.ok.inj hread)
  exact ⟨haccepts.1, haccepts.2, rfl⟩

/-- The tag of a ciphertext. -/
theorem drop_tag (msg : Bytes) (nonce : ℕ) :
    (msg ++ beBytes 16 nonce).drop ((msg ++ beBytes 16 nonce).length - 16) = beBytes 16 nonce := by
  rw [List.length_append, length_beBytes, Nat.add_sub_cancel, List.drop_left]

theorem nonceSnow_inOrder (nonce : ℕ) : nonceSnow.InOrder nonce nonce := by
  intro msgs
  induction msgs generalizing nonce with
  | nil =>
    intro ciphers last hwrite
    obtain ⟨rfl, -⟩ := Prod.mk.inj (Except.ok.inj hwrite)
    exact ⟨nonce, rfl⟩
  | cons msg msgs ih =>
    intro ciphers last hwrite
    obtain ⟨cipher, next, rest, hfirst, hrest, rfl⟩ := Snow.writeAll_cons_eq_ok hwrite
    obtain ⟨hnonce, rfl, rfl⟩ := nonceSnow_write_eq_ok hfirst
    obtain ⟨after, hread⟩ := ih (nonce + 1) _ _ hrest
    refine ⟨after, Snow.readAll_cons ?_ hread⟩
    have hlength : (msg ++ beBytes 16 nonce).length - 16 = msg.length := by
      rw [List.length_append, length_beBytes, Nat.add_sub_cancel]
    simp only [nonceSnow, hnonce, hlength, List.drop_left, List.take_left, and_self, if_true]

/-- The ciphertext at a place has its number for a tag. -/
theorem nonceSnow_tag {nonce last index : ℕ} {msgs ciphers : List Bytes} {cipher : Bytes}
    (hwrite : nonceSnow.writeAll nonce msgs = .ok (ciphers, last))
    (hplace : ciphers[index]? = some cipher) :
    nonce + index < 2 ^ 64 - 1 ∧
      cipher.drop (cipher.length - 16) = beBytes 16 (nonce + index) := by
  induction msgs generalizing nonce ciphers index with
  | nil =>
    obtain ⟨rfl, -⟩ := Prod.mk.inj (Except.ok.inj hwrite)
    cases hplace
  | cons msg msgs ih =>
    obtain ⟨first, next, rest, hfirst, hrest, rfl⟩ := Snow.writeAll_cons_eq_ok hwrite
    obtain ⟨hnonce, rfl, rfl⟩ := nonceSnow_write_eq_ok hfirst
    cases index with
    | zero =>
      obtain rfl := Option.some.inj hplace
      exact ⟨hnonce, drop_tag msg nonce⟩
    | succ index =>
      have htag := ih hrest hplace
      rwa [Nat.add_right_comm, Nat.add_assoc] at htag

theorem nonceSnow_after {nonce last : ℕ} {ciphers msgs : List Bytes}
    (hread : nonceSnow.readAll nonce ciphers = .ok (msgs, last)) :
    last = nonce + ciphers.length := by
  have hlength := Snow.length_readAll hread
  induction ciphers generalizing nonce msgs with
  | nil =>
    obtain ⟨-, rfl⟩ := Prod.mk.inj (Except.ok.inj hread)
    rfl
  | cons cipher ciphers ih =>
    cases msgs with
    | nil => cases hlength
    | cons msg msgs =>
      obtain ⟨next, hfirst, hrest⟩ := Snow.readAll_cons_eq_ok hread
      obtain ⟨-, -, rfl⟩ := nonceSnow_read_eq_ok hfirst
      rw [ih hrest (Nat.succ.inj hlength), List.length_cons]
      omega

theorem nonceSnow_numbered (nonce : ℕ) : nonceSnow.Numbered nonce nonce := by
  intro msgs ciphers last count after hwrite hread cipher hmem accepted haccepted
  obtain ⟨index, hplace⟩ := List.mem_iff_getElem?.mp hmem
  obtain ⟨hbound, htag⟩ := nonceSnow_tag hwrite hplace
  obtain ⟨hnonce, hexpected, -⟩ := nonceSnow_read_eq_ok haccepted
  have hsmall : (2 : ℕ) ^ 64 - 1 < 256 ^ 16 := by decide
  have hsame : nonce + index = after := by
    have hvalues := congrArg beValue (htag.symm.trans hexpected)
    rwa [beValue_beBytes 16 _ (hbound.trans hsmall), beValue_beBytes 16 _ (hnonce.trans hsmall)]
      at hvalues
  have hindex := (List.getElem?_eq_some_iff.mp hplace).1
  rw [nonceSnow_after hread, List.length_take] at hsame
  obtain rfl : index = count := by omega
  exact hplace

/-- A ping on the stream, the first message of its sender. -/
def pingSegment : Segment :=
  ⟨writeU16 20 ++ Frame.encode .ping ++ beBytes 16 0, by decide⟩

/-- The network hands over the first message again in place of the second. -/
theorem frames_authentic_replay :
    ∃ channel, run (Tampered.step nonceSnow) (fresh 0 0)
        [.send .ping, .send .getPeers, .inject pingSegment, .recv, .inject pingSegment, .recv] =
          some channel ∧
      channel.failure = some (.link (.crypto "noise decrypt: decrypt error")) ∧
        channel.received.length = 1 ∧ channel.received <+: channel.sent := by
  obtain ⟨channel, hrun, hchannel⟩ := Option.any_eq_true _ _ |>.mp
    (by decide +kernel : (run (Tampered.step nonceSnow) (fresh 0 0)
      [.send .ping, .send .getPeers, .inject pingSegment, .recv, .inject pingSegment, .recv]).any
      (fun channel ↦ decide (channel.failure =
          some (.link (.crypto "noise decrypt: decrypt error")) ∧
        channel.received.length = 1 ∧ channel.forged = false)) = true)
  obtain ⟨hfailure, hcount, hunforged⟩ := of_decide_eq_true hchannel
  refine ⟨channel, hrun, hfailure, hcount, ?_⟩
  refine frames_authentic nonceSnow 0 0 (nonceSnow_inOrder 0) (nonceSnow_numbered 0) _ ?_ channel
    hrun hunforged
  intro frame hmem
  simp only [List.mem_cons, TamperedAction.send.injEq, reduceCtorEq, List.not_mem_nil,
    or_false] at hmem
  rcases hmem with rfl | rfl <;> simp [Frame.Buildable]

end Tampered

end EntroTunnel.Link
