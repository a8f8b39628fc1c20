import Mathlib.Data.List.Basic

/-!
# Byte streams and message framing

A byte stream keeps the order of the bytes and nothing else: the reader finds it cut into segments,
wherever the network cut it. A segment is not empty, since a read of no bytes is the end of the
stream. `readExact` fills a buffer across segments and leaves the unread part of the last one;
what it returns depends on the bytes of the stream alone (`readExact_of_content`).

A `Framing` sends messages over such a stream. Both ends may keep a state, as encryption does with
its counters. `Framing.Delivers` is what one message needs: the receiver, in a state that matches
the sender's, takes exactly the bytes that the sender wrote off the stream and returns the message.
`Delivers.recvAll` follows the messages of a whole run.

A stream may end inside a message. `Framing.Cuts` says what the receiver makes of a message that is
cut, and `Delivers.reportsEnd_iff` at which positions the end of the stream is taken for what it is.
-/

set_option autoImplicit false
set_option relaxedAutoImplicit false

namespace EntroTunnel.Foundation

/-! ### Segmented streams -/

/-- The bytes that one read can find. -/
abbrev Segment := { bytes : List UInt8 // bytes ≠ [] }

/-- The bytes of a stream. -/
def content (segments : List Segment) : List UInt8 :=
  segments.flatMap Subtype.val

@[simp] theorem content_nil : content [] = [] := rfl

@[simp] theorem content_cons (segment : Segment) (rest : List Segment) :
    content (segment :: rest) = segment.val ++ content rest := rfl

theorem eq_nil_of_content {segments : List Segment} (hnil : content segments = []) :
    segments = [] := by
  cases segments with
  | nil => rfl
  | cons segment rest =>
    rw [content_cons, List.append_eq_nil_iff] at hnil
    exact absurd hnil.1 segment.property

/-- A segment without its first bytes, if any are left. -/
def leftover (bytes : List UInt8) (rest : List Segment) : List Segment :=
  if hbytes : bytes = [] then rest else ⟨bytes, hbytes⟩ :: rest

@[simp] theorem content_leftover (bytes : List UInt8) (rest : List Segment) :
    content (leftover bytes rest) = bytes ++ content rest := by
  unfold leftover
  split_ifs with hbytes
  · rw [hbytes, List.nil_append]
  · rw [content_cons]

/-- Reads until a buffer of this size is full; `none` if the stream ends before. A read takes no
more than the buffer has room for. -/
def readExact : ℕ → List Segment → Option (List UInt8 × List Segment)
  | need, [] => if need = 0 then some ([], []) else none
  | need, segment :: rest =>
    if segment.val.length < need then
      (readExact (need - segment.val.length) rest).map fun (bytes, after) ↦
        (segment.val ++ bytes, after)
    else some (segment.val.take need, leftover (segment.val.drop need) rest)

/-- A buffer is filled with the first bytes of the stream, however the stream is cut. -/
theorem readExact_of_content {segments : List Segment} {bytes more : List UInt8}
    (hcontent : content segments = bytes ++ more) :
    ∃ rest, readExact bytes.length segments = some (bytes, rest) ∧ content rest = more := by
  induction segments generalizing bytes with
  | nil =>
    obtain ⟨rfl, rfl⟩ := List.append_eq_nil_iff.mp hcontent.symm
    exact ⟨[], rfl, rfl⟩
  | cons segment after ih =>
    rw [content_cons] at hcontent
    have hsegment : segment.val <+: segment.val ++ content after := List.prefix_append _ _
    have hbytes : bytes <+: segment.val ++ content after := ⟨more, hcontent.symm⟩
    by_cases hshort : segment.val.length < bytes.length
    · obtain ⟨tail, rfl⟩ : segment.val <+: bytes :=
        List.prefix_of_prefix_length_le hsegment hbytes (Nat.le_of_lt hshort)
      rw [List.append_assoc, List.append_cancel_left_eq] at hcontent
      obtain ⟨rest, hread, hrest⟩ := ih hcontent
      refine ⟨rest, ?_, hrest⟩
      have hneed : (segment.val ++ tail).length - segment.val.length = tail.length := by
        rw [List.length_append]
        omega
      rw [readExact, if_pos hshort, hneed, hread]
      rfl
    · obtain ⟨tail, htail⟩ : bytes <+: segment.val :=
        List.prefix_of_prefix_length_le hbytes hsegment (Nat.not_lt.mp hshort)
      refine ⟨leftover tail after, ?_, ?_⟩
      · rw [readExact, if_neg hshort, ← htail, List.take_left, List.drop_left]
      · rw [← htail, List.append_assoc, List.append_cancel_left_eq] at hcontent
        rw [content_leftover, hcontent]

/-- A buffer that is larger than the stream is not filled. -/
theorem readExact_eq_none {segments : List Segment} {need : ℕ}
    (hshort : (content segments).length < need) : readExact need segments = none := by
  induction segments generalizing need with
  | nil =>
    rw [content_nil, List.length_nil] at hshort
    rw [readExact, if_neg (Nat.ne_of_gt hshort)]
  | cons segment after ih =>
    rw [content_cons, List.length_append] at hshort
    rw [readExact, if_pos (by omega), ih (by omega), Option.map_none]

/-! ### Framing -/

/-- Two ends that send and receive messages over a byte stream, each with a state of its own. -/
structure Framing (σ τ ε : Type*) where
  /-- The bytes that a message puts on the stream. -/
  send : σ → List UInt8 → Except ε (List UInt8 × σ)
  /-- One message off the stream. -/
  recv : τ → List Segment → Except ε (List UInt8 × τ × List Segment)

namespace Framing

variable {σ τ ε : Type*}

/-- Sends one message after the other; the bytes of all of them. -/
def sendAll (framing : Framing σ τ ε) : σ → List (List UInt8) → Except ε (List UInt8 × σ)
  | sender, [] => .ok ([], sender)
  | sender, message :: messages =>
    match framing.send sender message with
    | .error error => .error error
    | .ok (bytes, next) =>
      match sendAll framing next messages with
      | .error error => .error error
      | .ok (more, last) => .ok (bytes ++ more, last)

/-- Receives a number of messages. -/
def recvAll (framing : Framing σ τ ε) :
    ℕ → τ → List Segment → Except ε (List (List UInt8) × τ × List Segment)
  | 0, receiver, segments => .ok ([], receiver, segments)
  | count + 1, receiver, segments =>
    match framing.recv receiver segments with
    | .error error => .error error
    | .ok (message, next, rest) =>
      match recvAll framing count next rest with
      | .error error => .error error
      | .ok (messages, last, after) => .ok (message :: messages, last, after)

/-- Between matching states a message that was sent is received, from every stream that starts with
the bytes sent, and the states match again. -/
def Delivers (framing : Framing σ τ ε) (Matches : σ → τ → Prop) : Prop :=
  ∀ sender receiver message bytes next, Matches sender receiver →
    framing.send sender message = .ok (bytes, next) →
      ∀ segments more, content segments = bytes ++ more →
        ∃ after rest, framing.recv receiver segments = .ok (message, after, rest) ∧
          content rest = more ∧ Matches next after

theorem Delivers.recvAll {framing : Framing σ τ ε} {Matches : σ → τ → Prop}
    (hdelivers : framing.Delivers Matches) {messages : List (List UInt8)} {sender last : σ}
    {receiver : τ} {bytes more : List UInt8} {segments : List Segment}
    (hmatches : Matches sender receiver)
    (hsend : framing.sendAll sender messages = .ok (bytes, last))
    (hcontent : content segments = bytes ++ more) :
    ∃ after rest, framing.recvAll messages.length receiver segments = .ok (messages, after, rest) ∧
      content rest = more ∧ Matches last after := by
  induction messages generalizing sender receiver bytes segments with
  | nil =>
    obtain ⟨rfl, rfl⟩ := Prod.mk.inj (Except.ok.inj hsend)
    exact ⟨receiver, segments, rfl, hcontent, hmatches⟩
  | cons message messages ih =>
    rw [sendAll] at hsend
    split at hsend
    · cases hsend
    · rename_i first next hfirst
      split at hsend
      · cases hsend
      · rename_i tail final htail
        obtain ⟨rfl, rfl⟩ := Prod.mk.inj (Except.ok.inj hsend)
        rw [List.append_assoc] at hcontent
        obtain ⟨middle, rest, hrecv, hrest, hnext⟩ :=
          hdelivers sender receiver message first next hmatches hfirst segments _ hcontent
        obtain ⟨after, final, hall, hfinal, hlast⟩ := ih hnext htail hrest
        refine ⟨after, final, ?_, hfinal, hlast⟩
        rw [List.length_cons, Framing.recvAll, hrecv]
        simp only [hall]

/-- Whatever messages the sender accepts in a row, and wherever the stream is cut, the receiver
returns these messages in order, and the end of the stream after them. -/
def Faithful (framing : Framing σ τ ε) (closed : ε) (sender : σ) (receiver : τ) : Prop :=
  ∀ messages wire last, framing.sendAll sender messages = .ok (wire, last) →
    ∀ segments, content segments = wire →
      ∃ after, framing.recvAll messages.length receiver segments = .ok (messages, after, []) ∧
        framing.recv after [] = .error closed

theorem Delivers.faithful {framing : Framing σ τ ε} {Matches : σ → τ → Prop} {closed : ε}
    (hdelivers : framing.Delivers Matches) {sender : σ} {receiver : τ}
    (hmatches : Matches sender receiver)
    (hend : ∀ receiver, framing.recv receiver [] = .error closed) :
    framing.Faithful closed sender receiver := by
  intro messages wire last hsend segments hcontent
  rw [← List.append_nil wire] at hcontent
  obtain ⟨after, rest, hrecv, hrest, -⟩ := hdelivers.recvAll hmatches hsend hcontent
  rw [eq_nil_of_content hrest] at hrecv
  exact ⟨after, hrecv, hend after⟩

/-! ### Streams that end anywhere -/

/-- Sends one message after the other; the bytes of each. -/
def sendEach (framing : Framing σ τ ε) :
    σ → List (List UInt8) → Except ε (List (List UInt8) × σ)
  | sender, [] => .ok ([], sender)
  | sender, message :: messages =>
    match framing.send sender message with
    | .error error => .error error
    | .ok (bytes, next) =>
      match sendEach framing next messages with
      | .error error => .error error
      | .ok (wires, last) => .ok (bytes :: wires, last)

/-- How many messages lie wholly before a position. -/
def wholeBefore : List (List UInt8) → ℕ → ℕ
  | [], _ => 0
  | bytes :: wires, position =>
    if bytes.length ≤ position then wholeBefore wires (position - bytes.length) + 1 else 0

/-- How far a position lies inside a message; between two messages, zero. -/
def offsetAt : List (List UInt8) → ℕ → ℕ
  | [], _ => 0
  | bytes :: wires, position =>
    if bytes.length ≤ position then offsetAt wires (position - bytes.length) else position

/-- When the stream ends at a position, the receiver returns the messages that lie wholly before it,
and then an error, which is `closed` exactly between two messages. -/
def ReportsEnd (framing : Framing σ τ ε) (closed : ε) (sender : σ) (receiver : τ)
    (messages : List (List UInt8)) (position : ℕ) : Prop :=
  ∀ wires last, framing.sendEach sender messages = .ok (wires, last) →
    ∀ segments, content segments = wires.flatten.take position →
      ∃ after rest error,
        framing.recvAll (wholeBefore wires position) receiver segments =
          .ok (messages.take (wholeBefore wires position), after, rest) ∧
        framing.recv after rest = .error error ∧
        (error = closed ↔ offsetAt wires position = 0)

/-- Between matching states a message that is cut is an error, which is `closed` exactly if the cut
is before the end of the header. -/
def Cuts (framing : Framing σ τ ε) (Matches : σ → τ → Prop) (closed : ε) (header : ℕ) : Prop :=
  ∀ sender receiver message bytes next, Matches sender receiver →
    framing.send sender message = .ok (bytes, next) →
      ∀ segments position, position < bytes.length → content segments = bytes.take position →
        ∃ error, framing.recv receiver segments = .error error ∧
          (error = closed ↔ position < header)

section Ending

variable {framing : Framing σ τ ε} {Matches : σ → τ → Prop} {closed : ε} {header : ℕ}

theorem Delivers.recv_until (hdelivers : framing.Delivers Matches)
    (hcuts : framing.Cuts Matches closed header) (hheader : 0 < header)
    (hend : ∀ receiver, framing.recv receiver [] = .error closed)
    {messages wires : List (List UInt8)} {sender last : σ} {receiver : τ}
    (hmatches : Matches sender receiver)
    (hsend : framing.sendEach sender messages = .ok (wires, last)) {position : ℕ}
    {segments : List Segment} (hcontent : content segments = wires.flatten.take position) :
    ∃ after rest error,
      framing.recvAll (wholeBefore wires position) receiver segments =
        .ok (messages.take (wholeBefore wires position), after, rest) ∧
      framing.recv after rest = .error error ∧
      (error = closed ↔ offsetAt wires position < header) := by
  induction messages generalizing sender receiver wires position segments with
  | nil =>
    obtain ⟨rfl, rfl⟩ := Prod.mk.inj (Except.ok.inj hsend)
    rw [List.flatten_nil, List.take_nil] at hcontent
    obtain rfl := eq_nil_of_content hcontent
    exact ⟨receiver, [], closed, rfl, hend receiver, iff_of_true rfl hheader⟩
  | cons message messages ih =>
    rw [sendEach] at hsend
    split at hsend
    · cases hsend
    rename_i bytes next hfirst
    split at hsend
    · cases hsend
    rename_i more final hmore
    obtain ⟨rfl, rfl⟩ := Prod.mk.inj (Except.ok.inj hsend)
    rw [List.flatten_cons] at hcontent
    rw [wholeBefore, offsetAt]
    split_ifs with hwhole
    · rw [List.take_append, List.take_of_length_le hwhole] at hcontent
      obtain ⟨middle, left, hrecv, hleft, hnext⟩ :=
        hdelivers sender receiver message bytes next hmatches hfirst segments _ hcontent
      obtain ⟨after, rest, error, hall, herror, hclosed⟩ := ih hnext hmore hleft
      refine ⟨after, rest, error, ?_, herror, hclosed⟩
      rw [List.take_succ_cons, Framing.recvAll, hrecv]
      simp only [hall]
    · have hinside : position < bytes.length := Nat.not_le.mp hwhole
      rw [List.take_append_of_le_length (Nat.le_of_lt hinside)] at hcontent
      obtain ⟨error, herror, hclosed⟩ :=
        hcuts sender receiver message bytes next hmatches hfirst segments position hinside hcontent
      exact ⟨receiver, segments, error, rfl, herror, hclosed⟩

/-- The end of the stream is reported rightly except where it cuts a header. -/
theorem Delivers.reportsEnd_iff (hdelivers : framing.Delivers Matches)
    (hcuts : framing.Cuts Matches closed header) (hheader : 0 < header)
    (hend : ∀ receiver, framing.recv receiver [] = .error closed) {sender : σ} {receiver : τ}
    (hmatches : Matches sender receiver) (messages : List (List UInt8)) (position : ℕ) :
    framing.ReportsEnd closed sender receiver messages position ↔
      ∀ wires last, framing.sendEach sender messages = .ok (wires, last) →
        offsetAt wires position = 0 ∨ header ≤ offsetAt wires position := by
  constructor
  · intro hreports wires last hsend
    have hcontent : content (leftover (wires.flatten.take position) []) =
        wires.flatten.take position := by
      rw [content_leftover, content_nil, List.append_nil]
    obtain ⟨after, rest, error, hall, herror, hzero⟩ := hreports wires last hsend _ hcontent
    obtain ⟨after', rest', error', hall', herror', hbefore⟩ :=
      hdelivers.recv_until hcuts hheader hend hmatches hsend hcontent
    obtain ⟨-, hstate⟩ := Prod.mk.inj (Except.ok.inj (hall.symm.trans hall'))
    obtain ⟨rfl, rfl⟩ := Prod.mk.inj hstate
    obtain rfl := Except.error.inj (herror.symm.trans herror')
    have hsame := hzero.symm.trans hbefore
    omega
  · intro hposition wires last hsend segments hcontent
    obtain ⟨after, rest, error, hall, herror, hbefore⟩ :=
      hdelivers.recv_until hcuts hheader hend hmatches hsend hcontent
    refine ⟨after, rest, error, hall, herror, hbefore.trans ?_⟩
    have hoffset := hposition wires last hsend
    omega

end Ending

end Framing

end EntroTunnel.Foundation
