import EntroTunnel.Foundation.ByteStream
import EntroTunnel.Foundation.PartialRun

/-!
# One direction of a connection

Values are written as bytes to a stream, travel, arrive in pieces of any size, and are read from
what has arrived. A `Transfer` is the pair of a writer and a reader of values, each with a state of
its own; a `Framing` is the case in which the values are messages. A `Pipe` is the state of one
direction with what was written and what was read so far. The writer, the network and the reader
take their steps in any order; the connection may be shut down, or be lost with a part of what is on
the way.

A reader that has not enough waits. So the errors of a reader are of two kinds: those that it can
only make at the end of the stream (`endsStream`), and the others.

`Pipe.Carries` is the invariant: what was written is what was read, followed by values whose bytes
are those that have arrived and those on the way. A pipe thus refines a queue:
`received_prefix_sent` says that nothing is lost, doubled or put in another order, `failure_of_run`
what an end means, and `Carries.drains` that a pipe that was not lost delivers everything.
-/

set_option autoImplicit false
set_option relaxedAutoImplicit false

namespace EntroTunnel.Foundation

/-- A writer and a reader of values over a byte stream. -/
structure Transfer (σ τ α ε : Type*) where
  /-- The bytes that a value puts on the stream. -/
  send : σ → α → Except ε (List UInt8 × σ)
  /-- One value off the stream. -/
  recv : τ → List Segment → Except ε (α × τ × List Segment)
  /-- The error of a reader that has come to the end of the stream. -/
  endsStream : ε → Bool

namespace Transfer

variable {σ τ α ε : Type*}

/-- Writes one value after the other. -/
def sendAll (transfer : Transfer σ τ α ε) : σ → List α → Except ε (List UInt8 × σ)
  | sender, [] => .ok ([], sender)
  | sender, value :: values =>
    match transfer.send sender value with
    | .error error => .error error
    | .ok (bytes, next) =>
      match sendAll transfer next values with
      | .error error => .error error
      | .ok (more, last) => .ok (bytes ++ more, last)

/-- Between matching states a valid value that was written is read, from every stream that starts
with its bytes, and the states match again. -/
def Delivers (transfer : Transfer σ τ α ε) (Valid : α → Prop) (Matches : σ → τ → Prop) : Prop :=
  ∀ sender receiver value bytes next, Valid value → Matches sender receiver →
    transfer.send sender value = .ok (bytes, next) →
      ∀ segments more, content segments = bytes ++ more →
        ∃ after rest, transfer.recv receiver segments = .ok (value, after, rest) ∧
          content rest = more ∧ Matches next after

/-- Between matching states nothing is read from a part of a valid value. -/
def Waits (transfer : Transfer σ τ α ε) (Valid : α → Prop) (Matches : σ → τ → Prop) : Prop :=
  ∀ sender receiver value bytes next, Valid value → Matches sender receiver →
    transfer.send sender value = .ok (bytes, next) →
      ∀ segments position, position < bytes.length → content segments = bytes.take position →
        ∃ error, transfer.recv receiver segments = .error error ∧ transfer.endsStream error = true

theorem sendAll_cons_eq_ok {transfer : Transfer σ τ α ε} {sender last : σ} {value : α}
    {values : List α} {bytes : List UInt8} :
    transfer.sendAll sender (value :: values) = .ok (bytes, last) ↔
      ∃ first next more, transfer.send sender value = .ok (first, next) ∧
        transfer.sendAll next values = .ok (more, last) ∧ bytes = first ++ more := by
  rw [sendAll]
  constructor
  · intro hsend
    split at hsend
    · cases hsend
    · rename_i first next hfirst
      split at hsend
      · cases hsend
      · rename_i more final hmore
        obtain ⟨rfl, rfl⟩ := Prod.mk.inj (Except.ok.inj hsend)
        exact ⟨first, next, more, hfirst, hmore, rfl⟩
  · rintro ⟨first, next, more, hfirst, hmore, rfl⟩
    simp only [hfirst, hmore]

/-- Writing one more value. -/
theorem sendAll_concat {transfer : Transfer σ τ α ε} {sender middle last : σ} {values : List α}
    {value : α} {bytes more : List UInt8}
    (hsend : transfer.sendAll sender values = .ok (bytes, middle))
    (hlast : transfer.send middle value = .ok (more, last)) :
    transfer.sendAll sender (values ++ [value]) = .ok (bytes ++ more, last) := by
  induction values generalizing sender bytes with
  | nil =>
    obtain ⟨rfl, rfl⟩ := Prod.mk.inj (Except.ok.inj hsend)
    exact sendAll_cons_eq_ok.mpr ⟨more, last, [], hlast, rfl, (List.append_nil more).symm⟩
  | cons first rest ih =>
    obtain ⟨bytes, next, others, hfirst, hothers, rfl⟩ := sendAll_cons_eq_ok.mp hsend
    exact sendAll_cons_eq_ok.mpr
      ⟨bytes, next, others ++ more, hfirst, ih hothers, List.append_assoc _ _ _⟩

end Transfer

namespace Transfer

variable {σ τ α ε : Type*}

/-- The pair for ends that get the states with which they write and read later. -/
def whenReady (notReady : ε) (transfer : Transfer σ τ α ε) :
    Transfer (Option σ) (Option τ) α ε where
  send
    | none, _ => .error notReady
    | some sender, value => (transfer.send sender value).map fun (bytes, next) ↦ (bytes, some next)
  recv
    | none, _ => .error notReady
    | some receiver, segments =>
      (transfer.recv receiver segments).map fun (value, next, rest) ↦ (value, some next, rest)
  endsStream := transfer.endsStream

end Transfer

/-- One direction of a connection. -/
structure Pipe (σ τ α ε : Type*) where
  sender : σ
  receiver : τ
  /-- Written, and not arrived. -/
  flight : List UInt8
  /-- Arrived, and not read. -/
  arrived : List Segment
  /-- Nothing more is written. -/
  closed : Bool
  /-- The connection broke; what was on the way may have been cut. -/
  lost : Bool
  /-- What the writer accepted so far. -/
  sent : List α
  /-- What the reader returned so far. -/
  received : List α
  /-- What the reader reported in place of a value. -/
  failure : Option ε

/-- A step of the writer, the network or the reader. -/
inductive PipeAction (α : Type*)
  | send (value : α)
  | shutdown
  | lose (kept : ℕ)
  | arrive (count : ℕ)
  | recv

namespace Pipe

variable {σ τ α ε : Type*}

/-- A new connection. -/
def fresh (sender : σ) (receiver : τ) : Pipe σ τ α ε where
  sender := sender
  receiver := receiver
  flight := []
  arrived := []
  closed := false
  lost := false
  sent := []
  received := []
  failure := none

/-- One step. A value that the writer refuses leaves no trace. A reader that needs more waits as
long as more can come, and reads no further once it has reported an error. -/
def step (transfer : Transfer σ τ α ε) (pipe : Pipe σ τ α ε) :
    PipeAction α → Option (Pipe σ τ α ε)
  | .send value =>
    if pipe.closed then none
    else
      match transfer.send pipe.sender value with
      | .error _ => some pipe
      | .ok (bytes, next) =>
        some { pipe with
          sender := next, flight := pipe.flight ++ bytes, sent := pipe.sent ++ [value] }
  | .shutdown => some { pipe with closed := true }
  | .lose kept => some { pipe with closed := true, lost := true, flight := pipe.flight.take kept }
  | .arrive count =>
    if hpiece : pipe.flight.take count = [] then none
    else
      some { pipe with
        flight := pipe.flight.drop count
        arrived := pipe.arrived ++ [⟨pipe.flight.take count, hpiece⟩] }
  | .recv =>
    if pipe.failure.isSome then none
    else
      match transfer.recv pipe.receiver pipe.arrived with
      | .ok (value, next, rest) =>
        some { pipe with
          receiver := next, arrived := rest, received := pipe.received ++ [value] }
      | .error error =>
        if transfer.endsStream error ∧ ¬ (pipe.closed ∧ pipe.flight = []) then none
        else some { pipe with failure := some error }

/-- The step ends the connection. -/
def breaks : PipeAction α → Bool
  | .shutdown | .lose _ => true
  | _ => false

theorem step_arrive_of_nil {transfer : Transfer σ τ α ε} {pipe : Pipe σ τ α ε} {count : ℕ}
    (hpiece : pipe.flight.take count = []) : pipe.step transfer (.arrive count) = none :=
  dif_pos hpiece

theorem step_arrive {transfer : Transfer σ τ α ε} {pipe : Pipe σ τ α ε} {count : ℕ}
    (hpiece : pipe.flight.take count ≠ []) :
    pipe.step transfer (.arrive count) =
      some { pipe with
        flight := pipe.flight.drop count
        arrived := pipe.arrived ++ [⟨pipe.flight.take count, hpiece⟩] } :=
  dif_neg hpiece

/-- What was written is what was read, followed by the pending values, whose bytes have arrived or
are on the way. A header that is not a value may be in front of them. -/
structure Carries (transfer : Transfer σ τ α ε) (Valid : α → Prop) (Matches : σ → τ → Prop)
    (ended : ε) (header : List UInt8) (pipe : Pipe σ τ α ε) (pending : List α) : Prop where
  bytes : ∃ start bytes, Matches start pipe.receiver ∧
    transfer.sendAll start pending = .ok (bytes, pipe.sender) ∧
      content pipe.arrived ++ pipe.flight <+: header ++ bytes ∧
        (pipe.lost = false → content pipe.arrived ++ pipe.flight = header ++ bytes)
  sent : pipe.sent = pipe.received ++ pending
  valid : ∀ value ∈ pending, Valid value
  closed : pipe.lost = true → pipe.closed = true
  failure : ∀ error, pipe.failure = some error → pipe.closed = true ∧ pipe.flight = [] ∧
    transfer.endsStream error = true ∧ (pipe.lost = false → pending = [] ∧ error = ended)

/-- What a reader needs to know about the values that were written. -/
structure Reliable (transfer : Transfer σ τ α ε) (Valid : α → Prop) (Matches : σ → τ → Prop)
    (ended : ε) : Prop where
  delivers : transfer.Delivers Valid Matches
  waits : transfer.Waits Valid Matches
  ends : ∀ receiver, transfer.recv receiver [] = .error ended
  endsStream : transfer.endsStream ended = true

section Carrying

variable {transfer : Transfer σ τ α ε} {Valid : α → Prop} {Matches : σ → τ → Prop} {ended : ε}
  {pipe next : Pipe σ τ α ε} {pending : List α}

theorem carries_fresh {sender : σ} {receiver : τ} (hmatches : Matches sender receiver) :
    Carries transfer Valid Matches ended [] (fresh sender receiver) [] where
  bytes := ⟨sender, [], hmatches, rfl, List.nil_prefix, fun _ ↦ rfl⟩
  sent := rfl
  valid := List.forall_mem_nil _
  closed := fun hlost ↦ by cases hlost
  failure := fun _ hfailure ↦ by cases hfailure

/-- What has arrived of two strings is the first and a part of the second, or a part of the first.
-/
theorem arrived_cases {arrived first more : List UInt8} (harrived : arrived <+: first ++ more) :
    (∃ rest, arrived = first ++ rest ∧ rest <+: more) ∨
      ∃ position, position < first.length ∧ arrived = first.take position := by
  by_cases hwhole : first.length ≤ arrived.length
  · obtain ⟨rest, rfl⟩ := List.prefix_of_prefix_length_le (List.prefix_append first more) harrived
      hwhole
    exact .inl ⟨rest, rfl, (List.prefix_append_right_inj first).mp harrived⟩
  · have hshort : arrived.length < first.length := Nat.not_le.mp hwhole
    have hpart := List.prefix_of_prefix_length_le harrived (List.prefix_append first more)
      (Nat.le_of_lt hshort)
    exact .inr ⟨arrived.length, hshort, List.prefix_iff_eq_take.mp hpart⟩

/-- The reader finds the first pending value, or waits, or is at the end of the stream. -/
theorem Carries.recv_cases (hreliable : Reliable transfer Valid Matches ended)
    (hcarries : Carries transfer Valid Matches ended [] pipe pending) :
    (∃ value rest after segments, pending = value :: rest ∧
      transfer.recv pipe.receiver pipe.arrived = .ok (value, after, segments) ∧
        Carries transfer Valid Matches ended []
          { pipe with
            receiver := after, arrived := segments, received := pipe.received ++ [value]
            failure := none } rest) ∨
      ∃ error, transfer.recv pipe.receiver pipe.arrived = .error error ∧
        transfer.endsStream error = true ∧
          (pipe.flight = [] → pipe.lost = false → pending = [] ∧ error = ended) := by
  obtain ⟨start, bytes, hmatches, hsend, hbytes, hwhole⟩ := hcarries.bytes
  rw [List.nil_append] at hbytes hwhole
  cases pending with
  | nil =>
    obtain ⟨rfl, -⟩ := Prod.mk.inj (Except.ok.inj hsend)
    have hnone := List.append_eq_nil_iff.mp (List.prefix_nil.mp hbytes)
    rw [eq_nil_of_content hnone.1]
    exact .inr ⟨ended, hreliable.ends _, hreliable.endsStream, fun _ _ ↦ ⟨rfl, rfl⟩⟩
  | cons value rest =>
    obtain ⟨first, next, more, hfirst, hmore, rfl⟩ := Transfer.sendAll_cons_eq_ok.mp hsend
    obtain ⟨hvalue, hothers⟩ := List.forall_mem_cons.mp hcarries.valid
    have harrived : content pipe.arrived <+: first ++ more :=
      (List.prefix_append _ _).trans hbytes
    rcases arrived_cases harrived with ⟨left, hcontent, hleft⟩ | ⟨position, hposition, hcontent⟩
    · obtain ⟨after, segments, hrecv, hsegments, hafter⟩ :=
        hreliable.delivers start pipe.receiver value first next hvalue hmatches hfirst _ _ hcontent
      refine .inl ⟨value, rest, after, segments, rfl, hrecv, ?_⟩
      rw [hcontent, List.append_assoc, List.prefix_append_right_inj] at hbytes
      rw [hcontent, List.append_assoc, List.append_cancel_left_eq] at hwhole
      refine ⟨⟨next, more, hafter, hmore, ?_, ?_⟩, ?_, hothers, hcarries.closed, ?_⟩
      · exact hsegments ▸ hbytes
      · exact hsegments ▸ hwhole
      · rw [hcarries.sent, List.append_assoc, List.singleton_append]
      · exact fun _ hfailure ↦ by cases hfailure
    · obtain ⟨error, herror, hends⟩ :=
        hreliable.waits start pipe.receiver value first next hvalue hmatches hfirst _ _ hposition
          hcontent
      refine .inr ⟨error, herror, hends, fun hflight hlost ↦ ?_⟩
      -- nothing is on the way, so the value would be there whole
      have hlength := congrArg List.length (hwhole hlost)
      rw [hflight, List.append_nil, hcontent, List.length_take, List.length_append] at hlength
      omega

/-- What arrives was on the way. -/
theorem content_arrive {arrived : List Segment} {flight : List UInt8} {count : ℕ}
    (hpiece : flight.take count ≠ []) :
    content (arrived ++ [⟨flight.take count, hpiece⟩]) ++ flight.drop count =
      content arrived ++ flight := by
  rw [content, List.flatMap_append, List.flatMap_singleton, List.append_assoc,
    List.take_append_drop]
  rfl

/-- Every step keeps a pipe carrying; values are read only where no header is in front of them. -/
theorem Carries.step (hreliable : Reliable transfer Valid Matches ended) {header : List UInt8}
    (hcarries : Carries transfer Valid Matches ended header pipe pending) {action : PipeAction α}
    (hvalid : ∀ value, action = .send value → Valid value) (hheader : action = .recv → header = [])
    (hstep : pipe.step transfer action = some next) :
    ∃ after, Carries transfer Valid Matches ended header next after := by
  obtain ⟨start, bytes, hmatches, hsend, hbytes, hwhole⟩ := hcarries.bytes
  cases action with
  | send value =>
    simp only [Pipe.step] at hstep
    split_ifs at hstep with hclosed
    have hlost : pipe.lost = false := by
      by_contra hlost
      exact hclosed (hcarries.closed (Bool.not_eq_false _ ▸ hlost))
    have hfailure : pipe.failure = none := by
      by_contra hfailure
      obtain ⟨error, herror⟩ := Option.ne_none_iff_exists'.mp hfailure
      exact hclosed (hcarries.failure error herror).1
    split at hstep
    · obtain rfl := Option.some.inj hstep
      exact ⟨pending, hcarries⟩
    · rename_i more last hvalue
      obtain rfl := Option.some.inj hstep
      have hbytes' : content pipe.arrived ++ (pipe.flight ++ more) = header ++ (bytes ++ more) := by
        rw [← List.append_assoc, hwhole hlost, List.append_assoc]
      refine ⟨pending ++ [value], ⟨start, bytes ++ more, hmatches,
        Transfer.sendAll_concat hsend hvalue, ?_, fun _ ↦ hbytes'⟩, ?_, ?_, hcarries.closed, ?_⟩
      · exact hbytes' ▸ List.prefix_refl _
      · rw [hcarries.sent, List.append_assoc]
      · exact List.forall_mem_append.mpr
          ⟨hcarries.valid, List.forall_mem_singleton.mpr (hvalid value rfl)⟩
      · intro error herror
        rw [hfailure] at herror
        cases herror
  | shutdown =>
    obtain rfl := Option.some.inj hstep
    refine ⟨pending, hcarries.bytes, hcarries.sent, hcarries.valid, fun _ ↦ rfl,
      fun error herror ↦ ?_⟩
    exact ⟨rfl, (hcarries.failure error herror).2⟩
  | lose kept =>
    obtain rfl := Option.some.inj hstep
    refine ⟨pending, ⟨start, bytes, hmatches, hsend, ?_, fun hlost ↦ by cases hlost⟩, hcarries.sent,
      hcarries.valid, fun _ ↦ rfl, fun error herror ↦ ?_⟩
    · exact ((List.prefix_append_right_inj _).mpr (List.take_prefix _ _)).trans hbytes
    · obtain ⟨-, hflight, hends, -⟩ := hcarries.failure error herror
      refine ⟨rfl, ?_, hends, fun hlost ↦ by cases hlost⟩
      rw [hflight, List.take_nil]
  | arrive count =>
    simp only [Pipe.step] at hstep
    split_ifs at hstep with hpiece
    obtain rfl := Option.some.inj hstep
    have hsame := @content_arrive pipe.arrived _ _ hpiece
    refine ⟨pending, ⟨start, bytes, hmatches, hsend, hsame ▸ hbytes, fun hlost ↦ ?_⟩,
      hcarries.sent, hcarries.valid, hcarries.closed, fun error herror ↦ ?_⟩
    · exact hsame.trans (hwhole hlost)
    · obtain ⟨-, hflight, -⟩ := hcarries.failure error herror
      exact absurd (by rw [hflight, List.take_nil]) hpiece
  | recv =>
    obtain rfl := hheader rfl
    simp only [Pipe.step] at hstep
    split_ifs at hstep with hfailure
    rw [Option.not_isSome_iff_eq_none] at hfailure
    rcases hcarries.recv_cases hreliable with
      ⟨value, rest, after, segments, rfl, hrecv, hnext⟩ | ⟨error, hrecv, hends, hlast⟩
    · rw [hrecv] at hstep
      obtain rfl := Option.some.inj hstep
      refine ⟨rest, ?_⟩
      rw [← hfailure] at hnext
      exact hnext
    · rw [hrecv] at hstep
      simp only [hends, true_and] at hstep
      split_ifs at hstep with hmore
      obtain rfl := Option.some.inj hstep
      obtain ⟨hclosed, hflight⟩ := hmore
      refine ⟨pending, hcarries.bytes, hcarries.sent, hcarries.valid, hcarries.closed,
        fun other hother ↦ ?_⟩
      obtain rfl := Option.some.inj hother
      exact ⟨hclosed, hflight, hends, hlast hflight⟩

/-! ### Whole runs -/

/-- The values that a run is asked to write are valid. -/
def AllValid (Valid : α → Prop) (actions : List (PipeAction α)) : Prop :=
  ∀ value, .send value ∈ actions → Valid value

theorem carries_of_run (hreliable : Reliable transfer Valid Matches ended) {sender : σ}
    {receiver : τ} (hmatches : Matches sender receiver) {actions : List (PipeAction α)}
    (hvalid : AllValid Valid actions)
    (hrun : run (step transfer) (fresh sender receiver) actions = some pipe) :
    ∃ pending, Carries transfer Valid Matches ended [] pipe pending := by
  have hstep : ∀ actions action state after,
      run (step transfer) (fresh sender receiver) actions = some state →
        (AllValid Valid actions →
          ∃ pending, Carries transfer Valid Matches ended [] state pending) →
          step transfer state action = some after → AllValid Valid (actions ++ [action]) →
            ∃ pending, Carries transfer Valid Matches ended [] after pending := by
    intro actions action state after _ hbefore hstep hvalid
    obtain ⟨pending, hcarries⟩ :=
      hbefore fun value hmem ↦ hvalid value (List.mem_append_left _ hmem)
    refine hcarries.step hreliable (fun value hvalue ↦ ?_) (fun _ ↦ rfl) hstep
    exact hvalid value (List.mem_append_right _ (List.mem_singleton.mpr hvalue.symm))
  exact run_records (fun _ ↦ ⟨[], carries_fresh hmatches⟩) hstep hrun hvalid

/-- In every run the values that were read are the first of those that were written, in order. -/
theorem received_prefix_sent (hreliable : Reliable transfer Valid Matches ended) {sender : σ}
    {receiver : τ} (hmatches : Matches sender receiver) {actions : List (PipeAction α)}
    (hvalid : AllValid Valid actions)
    (hrun : run (step transfer) (fresh sender receiver) actions = some pipe) :
    pipe.received <+: pipe.sent := by
  obtain ⟨pending, hcarries⟩ := carries_of_run hreliable hmatches hvalid hrun
  rw [hcarries.sent]
  exact List.prefix_append _ _

/-- A reader reports nothing but the end of the stream, and on a connection that was not lost it has
returned everything before. -/
theorem failure_of_run (hreliable : Reliable transfer Valid Matches ended) {sender : σ}
    {receiver : τ} (hmatches : Matches sender receiver) {actions : List (PipeAction α)}
    (hvalid : AllValid Valid actions)
    (hrun : run (step transfer) (fresh sender receiver) actions = some pipe) {error : ε}
    (hfailure : pipe.failure = some error) :
    pipe.closed = true ∧ pipe.flight = [] ∧ transfer.endsStream error = true ∧
      (pipe.lost = false → pipe.received = pipe.sent ∧ error = ended) := by
  obtain ⟨pending, hcarries⟩ := carries_of_run hreliable hmatches hvalid hrun
  obtain ⟨hclosed, hflight, hends, hwhole⟩ := hcarries.failure error hfailure
  refine ⟨hclosed, hflight, hends, fun hlost ↦ ?_⟩
  obtain ⟨rfl, rfl⟩ := hwhole hlost
  rw [hcarries.sent, List.append_nil]
  exact ⟨rfl, rfl⟩

/-! ### Delivery -/

/-- What is on the way arrives. -/
def arrivals (pipe : Pipe σ τ α ε) : List (PipeAction α) :=
  if pipe.flight = [] then [] else [.arrive pipe.flight.length]

theorem run_arrivals (transfer : Transfer σ τ α ε) (pipe : Pipe σ τ α ε) :
    ∃ after, run (step transfer) pipe pipe.arrivals = some after ∧ after.flight = [] ∧
      after.failure = pipe.failure ∧ after.sent = pipe.sent ∧ after.received = pipe.received ∧
        after.lost = pipe.lost ∧ after.closed = pipe.closed := by
  unfold arrivals
  split_ifs with hflight
  · exact ⟨pipe, rfl, hflight, rfl, rfl, rfl, rfl, rfl⟩
  · have hpiece : pipe.flight.take pipe.flight.length ≠ [] := by
      rwa [List.take_length]
    refine ⟨{ pipe with
        flight := pipe.flight.drop pipe.flight.length
        arrived := pipe.arrived ++ [⟨pipe.flight.take pipe.flight.length, hpiece⟩] }, ?_,
      List.drop_length, rfl, rfl, rfl, rfl, rfl⟩
    rw [run_cons, step_arrive hpiece]
    rfl

/-- Once everything has arrived the reader returns one pending value after the other, and does not
wait for anything. -/
theorem Carries.run_recv (hreliable : Reliable transfer Valid Matches ended)
    (hcarries : Carries transfer Valid Matches ended [] pipe pending) (hflight : pipe.flight = [])
    (hlost : pipe.lost = false) (hfailure : pipe.failure = none) :
    ∃ after, run (Pipe.step transfer) pipe (List.replicate pending.length .recv) = some after ∧
      after.received = pipe.received ++ pending ∧ after.sent = pipe.sent := by
  induction pending generalizing pipe with
  | nil => exact ⟨pipe, rfl, (List.append_nil _).symm, rfl⟩
  | cons value rest ih =>
    rcases hcarries.recv_cases hreliable with
      ⟨first, others, after, segments, hpending, hrecv, hnext⟩ | ⟨error, -, -, hlast⟩
    · obtain ⟨rfl, rfl⟩ := List.cons.inj hpending
      obtain ⟨final, hrun, hreceived, hsent⟩ := ih hnext hflight hlost rfl
      refine ⟨final, ?_, ?_, hsent⟩
      · have hstep : pipe.step transfer .recv =
            some { pipe with
              receiver := after, arrived := segments, received := pipe.received ++ [value]
              failure := none } := by
          simp only [Pipe.step, hfailure, Option.isSome_none, Bool.false_eq_true, if_false, hrecv]
        rw [List.length_cons, List.replicate_succ, run_cons, hstep]
        exact hrun
      · rw [hreceived, List.append_assoc, List.singleton_append]
    · exact absurd (hlast hflight hlost).1 (List.cons_ne_nil _ _)

/-- The step adds nothing and ends nothing. -/
def delivers : PipeAction α → Bool
  | .arrive _ | .recv => true
  | _ => false

/-- On a connection that is not lost and whose reader still reads, the arrival of what is on the way
lets the reader return all that was written. -/
theorem Carries.drains (hreliable : Reliable transfer Valid Matches ended)
    (hcarries : Carries transfer Valid Matches ended [] pipe pending) (hlost : pipe.lost = false)
    (hfailure : pipe.failure = none) :
    ∃ actions final, (∀ action ∈ actions, delivers action = true) ∧
      run (Pipe.step transfer) pipe actions = some final ∧
        final.received = pipe.sent ∧ final.sent = pipe.sent := by
  obtain ⟨after, harrivals, hflight, hafter, hsent, hreceived, hlost', -⟩ :=
    run_arrivals transfer pipe
  have hkeeps : ∃ pending, Carries transfer Valid Matches ended [] after pending := by
    unfold arrivals at harrivals
    split_ifs at harrivals with hnone
    · obtain rfl := Option.some.inj harrivals
      exact ⟨pending, hcarries⟩
    · obtain ⟨next, hstep, hrest⟩ := run_cons_eq_some.mp harrivals
      obtain rfl := Option.some.inj hrest
      exact hcarries.step hreliable (fun _ hvalue ↦ by cases hvalue) (fun hrecv ↦ by cases hrecv)
        hstep
  obtain ⟨pending, hcarries⟩ := hkeeps
  obtain ⟨final, hfinal, hall, hsame⟩ :=
    hcarries.run_recv hreliable hflight (hlost'.trans hlost) (hafter.trans hfailure)
  refine ⟨pipe.arrivals ++ List.replicate pending.length .recv, final, fun action hmem ↦ ?_, ?_, ?_,
    hsame.trans hsent⟩
  · rcases List.mem_append.mp hmem with harrive | hrecv
    · unfold arrivals at harrive
      split_ifs at harrive
      · exact absurd harrive List.not_mem_nil
      · rw [List.mem_singleton.mp harrive]
        rfl
    · rw [List.eq_of_mem_replicate hrecv]
      rfl
  · rw [run_append, harrivals]
    exact hfinal
  · rw [hall, ← hcarries.sent, hsent]

/-- Whatever the steps of the writer, the network and the reader: what was read are the first of the
values that were written; the reader reports nothing but an end of the stream, and on a connection
that was not lost only `ended`, after everything was read; and until then it can still read all of
it. -/
def RefinesQueue (transfer : Transfer σ τ α ε) (Valid : α → Prop) (sender : σ) (receiver : τ)
    (ended : ε) : Prop :=
  ∀ actions pipe, AllValid Valid actions →
    run (step transfer) (fresh sender receiver) actions = some pipe →
      pipe.received <+: pipe.sent ∧
        (∀ error, pipe.failure = some error → pipe.closed = true ∧
          transfer.endsStream error = true ∧
            (pipe.lost = false → pipe.received = pipe.sent ∧ error = ended)) ∧
          (pipe.lost = false → pipe.failure = none →
            ∃ more final, run (step transfer) pipe more = some final ∧
              final.received = pipe.sent)

theorem Reliable.refinesQueue (hreliable : Reliable transfer Valid Matches ended) {sender : σ}
    {receiver : τ} (hmatches : Matches sender receiver) :
    RefinesQueue transfer Valid sender receiver ended := by
  intro actions pipe hvalid hrun
  refine ⟨received_prefix_sent hreliable hmatches hvalid hrun, fun error herror ↦ ?_,
    fun hlost hfailure ↦ ?_⟩
  · obtain ⟨hclosed, -, hends, hwhole⟩ := failure_of_run hreliable hmatches hvalid hrun herror
    exact ⟨hclosed, hends, hwhole⟩
  · obtain ⟨pending, hcarries⟩ := carries_of_run hreliable hmatches hvalid hrun
    obtain ⟨more, final, -, hdrained, hall, -⟩ := hcarries.drains hreliable hlost hfailure
    exact ⟨more, final, hdrained, hall⟩

end Carrying

/-! ### Ends that are not ready -/

section Readiness

variable {transfer : Transfer σ τ α ε} {notReady : ε} {firstSender : σ} {firstReceiver : τ}
  {pipe next : Pipe (Option σ) (Option τ) α ε} {action : PipeAction α}

/-- The pipe with the states that its ends are going to have. -/
def complete (firstSender : σ) (firstReceiver : τ) (pipe : Pipe (Option σ) (Option τ) α ε) :
    Pipe σ τ α ε :=
  { pipe with
    sender := pipe.sender.getD firstSender, receiver := pipe.receiver.getD firstReceiver }

/-- The end that takes the step is ready. -/
def isReady (pipe : Pipe (Option σ) (Option τ) α ε) : PipeAction α → Bool
  | .send _ => pipe.sender.isSome
  | .recv => pipe.receiver.isSome
  | _ => true

/-- A step of a ready end is a step of the completed pipe. -/
theorem step_complete (hready : pipe.isReady action = true) :
    (pipe.step (transfer.whenReady notReady) action).map (complete firstSender firstReceiver) =
      (pipe.complete firstSender firstReceiver).step transfer action := by
  obtain ⟨sender, receiver, flight, arrived, closed, lost, sent, received, failure⟩ := pipe
  cases action with
  | send value =>
    obtain ⟨sender, rfl⟩ := Option.isSome_iff_exists.mp hready
    cases closed with
    | true => rfl
    | false =>
      simp only [step, complete, Option.getD_some, Transfer.whenReady]
      cases transfer.send sender value with
      | error error => rfl
      | ok sent => rfl
  | shutdown => rfl
  | lose kept => rfl
  | arrive count =>
    by_cases hpiece : flight.take count = []
    · rw [step_arrive_of_nil hpiece, step_arrive_of_nil hpiece, Option.map_none]
    · rw [step_arrive hpiece, step_arrive hpiece]
      rfl
  | recv =>
    obtain ⟨receiver, rfl⟩ := Option.isSome_iff_exists.mp hready
    cases failure with
    | some error => rfl
    | none =>
      cases hrecv : transfer.recv receiver arrived with
      | error error =>
        have hready : (transfer.whenReady notReady).recv (some receiver) arrived =
            .error error := by
          simp only [Transfer.whenReady, hrecv, Except.map]
        simp only [step, complete, Option.getD_some, hrecv, hready]
        by_cases hwaits : transfer.endsStream error ∧ ¬ (closed ∧ flight = [])
        · exact (congrArg _ (if_pos hwaits)).trans (if_pos hwaits).symm
        · exact (congrArg _ (if_neg hwaits)).trans (if_neg hwaits).symm
      | ok read =>
        have hready : (transfer.whenReady notReady).recv (some receiver) arrived =
            .ok (read.1, some read.2.1, read.2.2) := by
          simp only [Transfer.whenReady, hrecv, Except.map]
        simp only [step, complete, Option.getD_some, hrecv, hready]
        rfl

/-! ### Ends that become ready one after the other -/

/-- A direction whose ends become ready one after the other. The reader becomes ready when it has
read the header, and reads nothing before; the writer writes no value before it is ready. -/
structure Begins (transfer : Transfer σ τ α ε) (Valid : α → Prop) (Matches : σ → τ → Prop)
    (ended : ε) (firstSender : σ) (firstReceiver : τ) (header : List UInt8)
    (senderReady receiverReady broken : Bool) (pipe : Pipe (Option σ) (Option τ) α ε) : Prop where
  carries : ∃ pending, Carries transfer Valid Matches ended header
    (pipe.complete firstSender firstReceiver) pending
  sender : if senderReady then pipe.sender.isSome = true else pipe.sender = none ∧ pipe.sent = []
  receiver : if receiverReady then pipe.receiver.isSome = true ∧ header = []
    else pipe.receiver = none ∧ pipe.failure = none ∧ pipe.received = []
  unbroken : broken = false → pipe.closed = false ∧ pipe.lost = false

section Beginning

variable {Valid : α → Prop} {Matches : σ → τ → Prop} {ended : ε} {header : List UInt8}
  {senderReady receiverReady broken : Bool}

theorem begins_fresh (hmatches : Matches firstSender firstReceiver) :
    Begins transfer Valid Matches ended firstSender firstReceiver [] false false false
      (fresh none none) where
  carries := ⟨[], carries_fresh hmatches⟩
  sender := ⟨rfl, rfl⟩
  receiver := ⟨rfl, rfl, rfl⟩
  unbroken := fun _ ↦ ⟨rfl, rfl⟩

/-- What a step of a pipe leaves alone. -/
theorem step_frame {transfer : Transfer σ τ α ε} {pipe next : Pipe σ τ α ε}
    {action : PipeAction α} (hstep : pipe.step transfer action = some next) :
    ((∀ value, action ≠ .send value) → next.sender = pipe.sender ∧ next.sent = pipe.sent) ∧
      (action ≠ .recv → next.receiver = pipe.receiver ∧ next.failure = pipe.failure ∧
        next.received = pipe.received) ∧
      (breaks action = false → next.closed = pipe.closed ∧ next.lost = pipe.lost) := by
  cases action with
  | send value =>
    simp only [step] at hstep
    split_ifs at hstep
    split at hstep <;> obtain rfl := Option.some.inj hstep <;>
      exact ⟨fun h ↦ absurd rfl (h value), fun _ ↦ ⟨rfl, rfl, rfl⟩, fun _ ↦ ⟨rfl, rfl⟩⟩
  | shutdown =>
    obtain rfl := Option.some.inj hstep
    exact ⟨fun _ ↦ ⟨rfl, rfl⟩, fun _ ↦ ⟨rfl, rfl, rfl⟩, fun h ↦ by cases h⟩
  | lose kept =>
    obtain rfl := Option.some.inj hstep
    exact ⟨fun _ ↦ ⟨rfl, rfl⟩, fun _ ↦ ⟨rfl, rfl, rfl⟩, fun h ↦ by cases h⟩
  | arrive count =>
    simp only [step] at hstep
    split_ifs at hstep
    obtain rfl := Option.some.inj hstep
    exact ⟨fun _ ↦ ⟨rfl, rfl⟩, fun _ ↦ ⟨rfl, rfl, rfl⟩, fun _ ↦ ⟨rfl, rfl⟩⟩
  | recv =>
    simp only [step] at hstep
    split_ifs at hstep
    split at hstep
    · obtain rfl := Option.some.inj hstep
      exact ⟨fun _ ↦ ⟨rfl, rfl⟩, fun h ↦ absurd rfl h, fun _ ↦ ⟨rfl, rfl⟩⟩
    · split_ifs at hstep
      obtain rfl := Option.some.inj hstep
      exact ⟨fun _ ↦ ⟨rfl, rfl⟩, fun h ↦ absurd rfl h, fun _ ↦ ⟨rfl, rfl⟩⟩

/-- An end that is ready stays ready. -/
theorem isSome_of_step (hstep : pipe.step (transfer.whenReady notReady) action = some next) :
    (pipe.sender.isSome = true → next.sender.isSome = true) ∧
      (pipe.receiver.isSome = true → next.receiver.isSome = true) := by
  obtain ⟨hsender, hreceiver, -⟩ := step_frame hstep
  constructor
  · intro hready
    cases action with
    | send value =>
      obtain ⟨sender, hsome⟩ := Option.isSome_iff_exists.mp hready
      simp only [step, hsome, Transfer.whenReady] at hstep
      split_ifs at hstep
      cases hsend : transfer.send sender value with
      | error error =>
        simp only [hsend, Except.map] at hstep
        obtain rfl := Option.some.inj hstep
        exact hready
      | ok sent =>
        simp only [hsend, Except.map] at hstep
        obtain rfl := Option.some.inj hstep
        rfl
    | _ => rwa [(hsender (by simp)).1]
  · intro hready
    cases action with
    | recv =>
      obtain ⟨receiver, hsome⟩ := Option.isSome_iff_exists.mp hready
      simp only [step, hsome, Transfer.whenReady] at hstep
      split_ifs at hstep
      cases hrecv : transfer.recv receiver pipe.arrived with
      | error error =>
        simp only [hrecv, Except.map] at hstep
        split_ifs at hstep
        obtain rfl := Option.some.inj hstep
        rfl
      | ok read =>
        simp only [hrecv, Except.map] at hstep
        obtain rfl := Option.some.inj hstep
        rfl
    | _ => rwa [(hreceiver (by simp)).1]

/-- A step of a ready end. -/
theorem Begins.step (hreliable : Reliable transfer Valid Matches ended)
    (hbegins : Begins transfer Valid Matches ended firstSender firstReceiver header senderReady
      receiverReady broken pipe)
    (hvalid : ∀ value, action = .send value → Valid value) (hready : pipe.isReady action = true)
    (hstep : pipe.step (transfer.whenReady notReady) action = some next) :
    Begins transfer Valid Matches ended firstSender firstReceiver header senderReady receiverReady
      (broken || breaks action) next := by
  obtain ⟨hsender, hreceiver, hclosed⟩ := step_frame hstep
  obtain ⟨hsenderSome, hreceiverSome⟩ := isSome_of_step hstep
  refine ⟨?_, ?_, ?_, ?_⟩
  · obtain ⟨pending, hcarries⟩ := hbegins.carries
    have hcomplete : (pipe.complete firstSender firstReceiver).step transfer action =
        some (next.complete firstSender firstReceiver) := by
      rw [← step_complete hready, hstep, Option.map_some]
    refine hcarries.step hreliable hvalid (fun hrecv ↦ ?_) hcomplete
    subst hrecv
    have hreader := hbegins.receiver
    split_ifs at hreader
    · exact hreader.2
    · rw [isReady, hreader.1] at hready
      cases hready
  · have hwriter := hbegins.sender
    split_ifs at hwriter ⊢
    · exact hsenderSome hwriter
    · have hnot : ∀ value, action ≠ .send value := by
        rintro value rfl
        rw [isReady, hwriter.1] at hready
        cases hready
      rw [(hsender hnot).1, (hsender hnot).2]
      exact hwriter
  · have hreader := hbegins.receiver
    split_ifs at hreader ⊢
    · exact ⟨hreceiverSome hreader.1, hreader.2⟩
    · have hnot : action ≠ .recv := by
        rintro rfl
        rw [isReady, hreader.1] at hready
        cases hready
      rw [(hreceiver hnot).1, (hreceiver hnot).2.1, (hreceiver hnot).2.2]
      exact hreader
  · intro hbroken
    obtain ⟨hbefore, hbreaks⟩ := Bool.or_eq_false_iff.mp hbroken
    rw [(hclosed hbreaks).1, (hclosed hbreaks).2]
    exact hbegins.unbroken hbefore

/-- The other direction breaks. -/
theorem Begins.weaken (hbegins : Begins transfer Valid Matches ended firstSender firstReceiver
      header senderReady receiverReady broken pipe) {after : Bool}
    (hafter : after = false → broken = false) :
    Begins transfer Valid Matches ended firstSender firstReceiver header senderReady receiverReady
      after pipe where
  carries := hbegins.carries
  sender := hbegins.sender
  receiver := hbegins.receiver
  unbroken := fun hunbroken ↦ hbegins.unbroken (hafter hunbroken)

/-- The writer drops its end of a broken connection. -/
theorem Begins.close (hbegins : Begins transfer Valid Matches ended firstSender firstReceiver header
      senderReady receiverReady true pipe) :
    Begins transfer Valid Matches ended firstSender firstReceiver header senderReady receiverReady
      true { pipe with closed := true } where
  carries := by
    obtain ⟨pending, hcarries⟩ := hbegins.carries
    refine ⟨pending, hcarries.bytes, hcarries.sent, hcarries.valid, fun _ ↦ rfl,
      fun error herror ↦ ?_⟩
    exact ⟨rfl, (hcarries.failure error herror).2⟩
  sender := hbegins.sender
  receiver := hbegins.receiver
  unbroken := fun hbroken ↦ by cases hbroken

/-- The writer becomes ready. -/
theorem Begins.readySender (hbegins : Begins transfer Valid Matches ended firstSender firstReceiver
      header false receiverReady broken pipe) :
    Begins transfer Valid Matches ended firstSender firstReceiver header true receiverReady broken
      { pipe with sender := some firstSender } where
  carries := by
    obtain ⟨pending, hcarries⟩ := hbegins.carries
    have hsender : pipe.sender = none := hbegins.sender.1
    rw [complete, hsender] at hcarries
    exact ⟨pending, hcarries⟩
  sender := rfl
  receiver := hbegins.receiver
  unbroken := hbegins.unbroken

/-- The reader becomes ready. -/
theorem Begins.readyReceiver (hbegins : Begins transfer Valid Matches ended firstSender
      firstReceiver [] senderReady false broken pipe) :
    Begins transfer Valid Matches ended firstSender firstReceiver [] senderReady true broken
      { pipe with receiver := some firstReceiver } where
  carries := by
    obtain ⟨pending, hcarries⟩ := hbegins.carries
    have hreceiver : pipe.receiver = none := hbegins.receiver.1
    rw [complete, hreceiver] at hcarries
    exact ⟨pending, hcarries⟩
  sender := hbegins.sender
  receiver := ⟨rfl, rfl⟩
  unbroken := hbegins.unbroken

/-- The bytes of a header, and of the values behind it. -/
theorem Begins.header_bytes (hbegins : Begins transfer Valid Matches ended firstSender firstReceiver
      header senderReady false broken pipe) :
    ∃ bytes, content pipe.arrived ++ pipe.flight <+: header ++ bytes ∧
      (pipe.lost = false → content pipe.arrived ++ pipe.flight = header ++ bytes) := by
  obtain ⟨pending, hcarries⟩ := hbegins.carries
  obtain ⟨start, bytes, -, -, hbytes, hwhole⟩ := hcarries.bytes
  exact ⟨bytes, hbytes, hwhole⟩

/-- The writer writes the header in front of its first value. -/
theorem Begins.writeHeader (hbegins : Begins transfer Valid Matches ended firstSender firstReceiver
      [] false false broken pipe) (hclosed : pipe.closed = false) (header : List UInt8) :
    Begins transfer Valid Matches ended firstSender firstReceiver header false false broken
      { pipe with flight := pipe.flight ++ header } where
  carries := by
    obtain ⟨pending, hcarries⟩ := hbegins.carries
    obtain ⟨start, bytes, hmatches, hsend, -, hwhole⟩ := hcarries.bytes
    have hsent : pipe.received ++ pending = [] := hcarries.sent.symm.trans hbegins.sender.2
    obtain ⟨-, rfl⟩ := List.append_eq_nil_iff.mp hsent
    obtain ⟨rfl, hlast⟩ := Prod.mk.inj (Except.ok.inj hsend)
    have hlost : pipe.lost = false := by
      by_contra hlost
      have hdone : pipe.closed = true := hcarries.closed (Bool.not_eq_false _ ▸ hlost)
      rw [hclosed] at hdone
      cases hdone
    have hnone : content pipe.arrived ++ pipe.flight = [] := hwhole hlost
    have hsame : content pipe.arrived ++ (pipe.flight ++ header) = header ++ [] := by
      rw [← List.append_assoc, hnone, List.append_nil, List.nil_append]
    refine ⟨[], ⟨start, [], hmatches, hsend, hsame ▸ List.prefix_refl _, fun _ ↦ hsame⟩,
      hcarries.sent, hcarries.valid, hcarries.closed, fun error herror ↦ ?_⟩
    have hfailure : pipe.failure = some error := herror
    rw [hbegins.receiver.2.1] at hfailure
    cases hfailure
  sender := hbegins.sender
  receiver := hbegins.receiver
  unbroken := hbegins.unbroken

/-- The reader reads the header. -/
theorem Begins.readHeader (hbegins : Begins transfer Valid Matches ended firstSender firstReceiver
      header senderReady false broken pipe) {rest : List Segment}
    (hcontent : content pipe.arrived = header ++ content rest) :
    Begins transfer Valid Matches ended firstSender firstReceiver [] senderReady false broken
      { pipe with arrived := rest } where
  carries := by
    obtain ⟨pending, hcarries⟩ := hbegins.carries
    obtain ⟨start, bytes, hmatches, hsend, hbytes, hwhole⟩ := hcarries.bytes
    change content pipe.arrived ++ pipe.flight <+: _ at hbytes
    change _ → content pipe.arrived ++ pipe.flight = _ at hwhole
    rw [hcontent, List.append_assoc, List.prefix_append_right_inj] at hbytes
    rw [hcontent, List.append_assoc, List.append_cancel_left_eq] at hwhole
    refine ⟨pending, ⟨start, bytes, hmatches, hsend, hbytes, hwhole⟩, hcarries.sent, hcarries.valid,
      hcarries.closed, fun error herror ↦ ?_⟩
    have hfailure : pipe.failure = some error := herror
    rw [hbegins.receiver.2.1] at hfailure
    cases hfailure
  sender := hbegins.sender
  receiver := hbegins.receiver
  unbroken := hbegins.unbroken

theorem Begins.received_prefix (hbegins : Begins transfer Valid Matches ended firstSender
      firstReceiver header senderReady receiverReady broken pipe) :
    pipe.received <+: pipe.sent := by
  obtain ⟨pending, hcarries⟩ := hbegins.carries
  exact ⟨pending, hcarries.sent.symm⟩

/-- A reader reports nothing but an end of the stream. -/
theorem Begins.failure (hbegins : Begins transfer Valid Matches ended firstSender firstReceiver
      header senderReady receiverReady broken pipe) {error : ε}
    (herror : pipe.failure = some error) :
    pipe.closed = true ∧ transfer.endsStream error = true := by
  obtain ⟨pending, hcarries⟩ := hbegins.carries
  obtain ⟨hclosed, -, hends, -⟩ := hcarries.failure error herror
  exact ⟨hclosed, hends⟩

/-- Nothing is on the stream before a header. -/
theorem Begins.nothing (hbegins : Begins transfer Valid Matches ended firstSender firstReceiver []
      false false broken pipe) :
    content pipe.arrived = [] := by
  obtain ⟨pending, hcarries⟩ := hbegins.carries
  obtain ⟨start, bytes, -, hsend, hbytes, -⟩ := hcarries.bytes
  have hsent : pipe.received ++ pending = [] := hcarries.sent.symm.trans hbegins.sender.2
  obtain ⟨-, rfl⟩ := List.append_eq_nil_iff.mp hsent
  obtain ⟨rfl, -⟩ := Prod.mk.inj (Except.ok.inj hsend)
  exact (List.append_eq_nil_iff.mp (List.prefix_nil.mp hbytes)).1

/-- A run of the completed pipe is one of the pipe whose ends are ready. -/
theorem run_of_complete {actions : List (PipeAction α)} {final : Pipe σ τ α ε}
    (hsender : pipe.sender.isSome = true) (hreceiver : pipe.receiver.isSome = true)
    (hrun : run (Pipe.step transfer) (pipe.complete firstSender firstReceiver) actions =
      some final) :
    ∃ last, run (Pipe.step (transfer.whenReady notReady)) pipe actions = some last ∧
      last.complete firstSender firstReceiver = final := by
  induction actions generalizing pipe with
  | nil => exact ⟨pipe, rfl, Option.some.inj hrun⟩
  | cons action rest ih =>
    obtain ⟨middle, hmiddle, hrest⟩ := run_cons_eq_some.mp hrun
    have hready : pipe.isReady action = true := by cases action <;> trivial
    have hsame : (pipe.step (transfer.whenReady notReady) action).map
        (complete firstSender firstReceiver) =
          (pipe.complete firstSender firstReceiver).step transfer action := step_complete hready
    obtain ⟨next, hnext, rfl⟩ := Option.map_eq_some_iff.mp (hsame.trans hmiddle)
    obtain ⟨hsenderNext, hreceiverNext⟩ := isSome_of_step hnext
    obtain ⟨last, hlast, hfinal⟩ := ih (hsenderNext hsender) (hreceiverNext hreceiver) hrest
    exact ⟨last, run_cons_eq_some.mpr ⟨next, hnext, hlast⟩, hfinal⟩

/-- Once both ends of an unbroken connection are ready, everything can be delivered. -/
theorem Begins.drains (hreliable : Reliable transfer Valid Matches ended)
    (hbegins : Begins transfer Valid Matches ended firstSender firstReceiver header true true false
      pipe) :
    ∃ actions final, (∀ action ∈ actions, delivers action = true) ∧
      run (Pipe.step (transfer.whenReady notReady)) pipe actions = some final ∧
        final.received = pipe.sent ∧ final.sent = pipe.sent := by
  obtain ⟨pending, hcarries⟩ := hbegins.carries
  obtain ⟨hreceiver, rfl⟩ := hbegins.receiver
  obtain ⟨hclosed, hlost⟩ := hbegins.unbroken rfl
  have hfailure : pipe.failure = none := by
    by_contra hfailure
    obtain ⟨error, herror⟩ := Option.ne_none_iff_exists'.mp hfailure
    have hended : pipe.closed = true := (hcarries.failure error herror).1
    rw [hclosed] at hended
    cases hended
  obtain ⟨actions, final, hall, hrun, hreceived, hsent⟩ :=
    hcarries.drains hreliable hlost hfailure
  obtain ⟨last, hlast, rfl⟩ := run_of_complete hbegins.sender hreceiver hrun
  exact ⟨actions, last, hall, hlast, hreceived, hsent⟩

end Beginning

/-- A direction whose ends never become ready: no more than a header is on the stream. -/
structure Silent (header : List UInt8) (pipe : Pipe (Option σ) (Option τ) α ε) : Prop where
  sender : pipe.sender = none
  receiver : pipe.receiver = none
  sent : pipe.sent = []
  received : pipe.received = []
  bytes : content pipe.arrived ++ pipe.flight <+: header

theorem Silent.step {header : List UInt8} (hsilent : Silent header pipe)
    (hready : pipe.isReady action = true)
    (hstep : pipe.step (transfer.whenReady notReady) action = some next) : Silent header next := by
  obtain ⟨hsender, hreceiver, hsent, hreceived, hbytes⟩ := hsilent
  cases action with
  | send value =>
    rw [isReady, hsender] at hready
    cases hready
  | recv =>
    rw [isReady, hreceiver] at hready
    cases hready
  | shutdown =>
    obtain rfl := Option.some.inj hstep
    exact ⟨hsender, hreceiver, hsent, hreceived, hbytes⟩
  | lose kept =>
    obtain rfl := Option.some.inj hstep
    refine ⟨hsender, hreceiver, hsent, hreceived, ?_⟩
    exact ((List.prefix_append_right_inj _).mpr (List.take_prefix _ _)).trans hbytes
  | arrive count =>
    simp only [Pipe.step] at hstep
    split_ifs at hstep with hpiece
    obtain rfl := Option.some.inj hstep
    exact ⟨hsender, hreceiver, hsent, hreceived, content_arrive hpiece ▸ hbytes⟩

end Readiness

end Pipe

end EntroTunnel.Foundation
