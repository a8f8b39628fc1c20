import EntroTunnel.Link.Framing

/-!
# The end of a message stream

What `recv` returns when the byte stream ends. A receiving half reads the length field with
`read_u32` or `read_u16` and takes every end of the stream there for a clean one, and the rest of
the message with `read_exact`, where the end is another error. So `Error::Closed` is returned
between two messages, where it belongs, and also when the length field itself is cut:
`clean_end_iff` is the exact condition, and `cut_header_closed` such a cut.
-/

set_option autoImplicit false
set_option relaxedAutoImplicit false

namespace EntroTunnel.Link

open EntroTunnel.Foundation EntroTunnel.Core

/-- For messages that are accepted, the position is not inside the length field of one. -/
def OutsideHeader {σ τ : Type*} (framing : Framing σ τ Error) (header : ℕ) (sender : σ)
    (messages : List Bytes) (position : ℕ) : Prop :=
  ∀ wires last, framing.sendEach sender messages = .ok (wires, last) →
    Framing.offsetAt wires position = 0 ∨ header ≤ Framing.offsetAt wires position

/-! ### One message that is cut -/

/-- A cut length field is not filled, and a cut message is not after its length field. -/
theorem readExact_of_cut {header body : Bytes} {segments : List Segment} {position : ℕ}
    (hposition : position < (header ++ body).length)
    (hcontent : content segments = (header ++ body).take position) :
    (position < header.length ∧ readExact header.length segments = none) ∨
      (header.length ≤ position ∧ ∃ rest, readExact header.length segments = some (header, rest) ∧
        readExact body.length rest = none) := by
  rw [List.length_append] at hposition
  by_cases hcut : position < header.length
  · refine .inl ⟨hcut, readExact_eq_none ?_⟩
    rw [hcontent, List.length_take, List.length_append]
    omega
  · have hwhole : header.length ≤ position := Nat.not_lt.mp hcut
    rw [List.take_append, List.take_of_length_le hwhole] at hcontent
    obtain ⟨rest, hread, hrest⟩ := readExact_of_content hcontent
    refine .inr ⟨hwhole, rest, hread, readExact_eq_none ?_⟩
    rw [hrest, List.length_take]
    omega

theorem lengthDelimited_cuts {ended : ℕ → Error} (hended : ∀ count, ended count ≠ .closed) :
    (statelessFraming lengthDelimitedSend (lengthDelimitedRecv ended)).Cuts
      (fun _ _ ↦ True) .closed 4 := by
  intro _ _ msg bytes _ _ hsend segments position hposition hcontent
  change (lengthDelimitedSend msg).map _ = _ at hsend
  change ∃ error, (lengthDelimitedRecv ended segments).map _ = _ ∧ _
  cases hresult : lengthDelimitedSend msg with
  | error error =>
    rw [hresult] at hsend
    cases hsend
  | ok sent =>
    rw [hresult] at hsend
    obtain ⟨rfl, -⟩ := Prod.mk.inj (Except.ok.inj hsend)
    obtain ⟨hfits, rfl⟩ := lengthDelimitedSend_eq_ok hresult
    have hlength : (writeU32 (UInt32.ofNat msg.length)).length = 4 := length_beBytes 4 _
    have hvalue := beValue_writeU32 (hfits.trans_lt maxMessageLen_lt)
    obtain ⟨hcut, hhead⟩ | ⟨hwhole, rest, hhead, hbody⟩ := readExact_of_cut hposition hcontent
    · rw [hlength] at hcut hhead
      refine ⟨.closed, ?_, iff_of_true rfl hcut⟩
      rw [lengthDelimitedRecv, hhead]
      rfl
    · rw [hlength] at hwhole hhead
      refine ⟨ended (content rest).length, ?_, iff_of_false (hended _) (not_lt.mpr hwhole)⟩
      simp only [lengthDelimitedRecv, hhead, hvalue, if_neg (not_lt.mpr hfits), hbody]
      rfl

theorem noise_cuts {σ τ : Type*} {snow : Snow σ τ} (htagged : snow.Tagged) :
    (noiseFraming snow).Cuts snow.InOrder .closed 2 := by
  intro sender receiver msg bytes next _ hsend segments position hposition hcontent
  obtain ⟨cipher, hfits, hwrite, rfl⟩ := NoiseSink.send_eq_ok hsend
  have hlength : (writeU16 (UInt16.ofNat cipher.length)).length = 2 := length_beBytes 2 _
  have hcast := NoiseSink.cipher_length_lt htagged hfits hwrite
  change ∃ error, NoiseStream.recv snow receiver segments = _ ∧ _
  obtain ⟨hcut, hhead⟩ | ⟨hwhole, rest, hhead, hbody⟩ := readExact_of_cut hposition hcontent
  · rw [hlength] at hcut hhead
    refine ⟨.closed, ?_, iff_of_true rfl hcut⟩
    rw [NoiseStream.recv, hhead]
  · rw [hlength] at hwhole hhead
    refine ⟨.io "early eof", ?_, iff_of_false (fun h ↦ Error.noConfusion h) (not_lt.mpr hwhole)⟩
    simp only [NoiseStream.recv, hhead, beValue_writeU16 hcast, hbody]

/-! ### Whole runs -/

theorem lengthDelimited_reportsEnd_iff {ended : ℕ → Error} (hended : ∀ count, ended count ≠ .closed)
    (messages : List Bytes) (position : ℕ) :
    (statelessFraming lengthDelimitedSend (lengthDelimitedRecv ended)).ReportsEnd .closed () ()
        messages position ↔
      OutsideHeader (statelessFraming lengthDelimitedSend (lengthDelimitedRecv ended)) 4 ()
        messages position :=
  (lengthDelimited_delivers ended).reportsEnd_iff (lengthDelimited_cuts hended) (by omega)
    (fun _ ↦ rfl) trivial messages position

theorem noise_reportsEnd_iff {σ τ : Type*} {snow : Snow σ τ} (htagged : snow.Tagged) {sender : σ}
    {receiver : τ} (horder : snow.InOrder sender receiver) (messages : List Bytes)
    (position : ℕ) :
    (noiseFraming snow).ReportsEnd .closed sender receiver messages position ↔
      OutsideHeader (noiseFraming snow) 2 sender messages position :=
  (noise_delivers htagged).reportsEnd_iff (noise_cuts htagged) (by omega) (fun _ ↦ rfl) horder
    messages position

/-- For all messages and every position at which the stream may end: the messages that lie wholly
before it are returned, and `Error::Closed` after them exactly if the stream ends between two
messages, if and only if the position is not inside a length field. -/
theorem clean_end_iff {σ τ : Type*} (snow : Snow σ τ) (htagged : snow.Tagged) (sender : σ)
    (receiver : τ) (horder : snow.InOrder sender receiver) (messages : List Bytes)
    (position : ℕ) :
    (ldFraming.ReportsEnd .closed () () messages position ↔
      OutsideHeader ldFraming 4 () messages position) ∧
    (quicFraming.ReportsEnd .closed () () messages position ↔
      OutsideHeader quicFraming 4 () messages position) ∧
    ((noiseFraming snow).ReportsEnd .closed sender receiver messages position ↔
      OutsideHeader (noiseFraming snow) 2 sender messages position) :=
  ⟨lengthDelimited_reportsEnd_iff (fun _ h ↦ Error.noConfusion h) messages position,
    lengthDelimited_reportsEnd_iff (fun _ h ↦ Error.noConfusion h) messages position,
    noise_reportsEnd_iff htagged horder messages position⟩

/-- The stream ends inside the ciphertext of the second message. -/
theorem clean_end_iff_counting :
    (noiseFraming countingSnow).ReportsEnd .closed 0 0 [[], [7, 8]] 30 := by
  refine (clean_end_iff countingSnow countingSnow_tagged 0 0 (countingSnow_inOrder 0)
    [[], [7, 8]] 30).2.2.mpr fun wires last hsend ↦ ?_
  obtain ⟨rfl, -⟩ := Prod.mk.inj (Except.ok.inj hsend)
  decide

/-- A message of one byte of which the stream has half the length field: `Error::Closed`. -/
theorem cut_header_closed : ¬ ldFraming.ReportsEnd .closed () () [[7]] 2 := by
  intro hreports
  have hended : ∀ _ : ℕ, Error.io "early eof" ≠ .closed := fun _ h ↦ Error.noConfusion h
  obtain hoffset | hoffset :=
    (lengthDelimited_reportsEnd_iff hended [[7]] 2).mp hreports _ () rfl
  · exact absurd hoffset (by decide)
  · exact absurd hoffset (by decide)

end EntroTunnel.Link
