import EntroTunnel.Client.HttpHead
import EntroTunnel.Core.TextRules

/-!
# A request head in several reads

What an application sends reaches the proxy in reads whose sizes the network decides. `readHead` is
`parse_http_head` with the reads that it leaves to the uplink task, and `delivered` are the bytes
that go to the remote host: those that are forwarded, and then those of the reads that are left.

The search for the end of the head only sees whole reads, but it finds the same place in all of them
(`findSub_append`). So the request line is read from the same bytes however they are cut
(`outcome_parseHttpHead`). For `CONNECT` everything read so far is discarded with the head, and
`kept_iff` says that no byte is lost exactly when a read ends where the head does.
-/

set_option autoImplicit false
set_option relaxedAutoImplicit false

namespace EntroTunnel.Client

open EntroTunnel.Core

/-! ### The first occurrence -/

section FirstOccurrence

variable {needle first : Bytes} {pos : ℕ}

theorem findSub_cons_pos {byte : UInt8} {rest : Bytes} (hbegins : needle <+: byte :: rest) :
    findSub needle (byte :: rest) = some 0 := by
  rw [findSub, if_pos (List.isPrefixOf_iff_prefix.mpr hbegins)]

theorem findSub_cons_neg {byte : UInt8} {rest : Bytes}
    (hbegins : ¬needle <+: byte :: rest) :
    findSub needle (byte :: rest) = (findSub needle rest).map (· + 1) := by
  rw [findSub, if_neg (mt List.isPrefixOf_iff_prefix.mp hbegins)]

/-- An occurrence lies within the text. -/
theorem findSub_le (hfound : findSub needle first = some pos) :
    pos + needle.length ≤ first.length := by
  induction first generalizing pos with
  | nil => cases hfound
  | cons byte rest ih =>
    by_cases hbegins : needle <+: byte :: rest
    · rw [findSub_cons_pos hbegins, Option.some.injEq] at hfound
      have hlength := hbegins.length_le
      omega
    · rw [findSub_cons_neg hbegins] at hfound
      obtain ⟨before, hbefore, rfl⟩ := Option.map_eq_some_iff.mp hfound
      have hle := ih hbefore
      rw [List.length_cons]
      omega

/-- What follows a text does not change its first occurrence. -/
theorem findSub_append (hfound : findSub needle first = some pos) (second : Bytes) :
    findSub needle (first ++ second) = some pos := by
  induction first generalizing pos with
  | nil => cases hfound
  | cons byte rest ih =>
    by_cases hbegins : needle <+: byte :: rest
    · have hlonger : needle <+: byte :: (rest ++ second) :=
        hbegins.trans (List.prefix_append (byte :: rest) second)
      rw [findSub_cons_pos hbegins] at hfound
      rw [List.cons_append, findSub_cons_pos hlonger, hfound]
    · rw [findSub_cons_neg hbegins] at hfound
      obtain ⟨before, hbefore, rfl⟩ := Option.map_eq_some_iff.mp hfound
      have hle := findSub_le hbefore
      -- The rest is long enough for the needle, so a longer text has it in front only if this has.
      have hlonger : ¬needle <+: byte :: (rest ++ second) := by
        intro hlonger
        refine hbegins (List.prefix_of_prefix_length_le hlonger (List.prefix_append _ second) ?_)
        rw [List.length_cons]
        omega
      rw [List.cons_append, findSub_cons_neg hlonger, ih hbefore, Option.map_some]

/-- A text that ends before the first occurrence does has none. -/
theorem findSub_eq_none {second : Bytes} (hfound : findSub needle (first ++ second) = some pos)
    (hlt : first.length < pos + needle.length) : findSub needle first = none := by
  rw [Option.eq_none_iff_forall_ne_some]
  intro other hother
  have heq := (findSub_append hother second).symm.trans hfound
  have hle := findSub_le hother
  rw [Option.some.inj heq] at hle
  omega

end FirstOccurrence

namespace Http

/-! ### Heads and reads -/

/-- A request head: bytes that have the empty line at their end and not before. -/
structure Head where
  bytes : Bytes
  pos : ℕ
  found : findSub headEnd bytes = some pos
  length_eq : bytes.length = pos + 4

theorem Head.length_pos (head : Head) : ([] : Bytes).length < head.bytes.length := by
  rw [head.length_eq]
  exact Nat.lt_of_lt_of_le (by decide) (Nat.le_add_left 4 _)

/-- The first word of the first line is `CONNECT`, in any letter case. -/
def Head.IsConnect (head : Head) : Prop :=
  eqIgnoreAsciiCase ((splitWhitespace ((lines (fromUtf8Lossy head.bytes)).headD [])).headD [])
    "CONNECT".toList

/-- A way in which bytes arrive: reads of any size, but none that is empty. -/
structure Split (sent : Bytes) where
  reads : List Bytes
  nonempty : ∀ read ∈ reads, read ≠ []
  flatten_eq : reads.flatten = sent

/-- One of the reads ends after a number of bytes. -/
def Split.Cuts {sent : Bytes} (split : Split sent) (length : ℕ) : Prop :=
  ∃ count, (split.reads.take count).flatten.length = length

theorem length_take_mono (reads : List Bytes) {fewer more : ℕ} (hle : fewer ≤ more) :
    (reads.take fewer).flatten.length ≤ (reads.take more).flatten.length := by
  rw [← Nat.add_sub_cancel' hle, List.take_add, List.flatten_append, List.length_append]
  exact Nat.le_add_right _ _

theorem flatten_take_append_drop (reads : List Bytes) (count : ℕ) :
    (reads.take count).flatten ++ (reads.drop count).flatten = reads.flatten := by
  rw [← List.flatten_append, List.take_append_drop]

/-- `parse_http_head` on the reads of a connection, with the reads that are left after it. -/
def readHead (buf : Bytes) : List Bytes → HeadStep × List Bytes
  | [] => (.more buf, [])
  | chunk :: rest =>
    match headStep buf chunk with
    | .more buf => readHead buf rest
    | outcome => (outcome, rest)

theorem fst_readHead (buf : Bytes) (reads : List Bytes) :
    (readHead buf reads).1 = parseHttpHead buf reads := by
  induction reads generalizing buf with
  | nil => rfl
  | cons chunk rest ih =>
    rw [readHead, parseHttpHead]
    cases headStep buf chunk with
    | more buf => exact ih buf
    | done | failed => rfl

/-- A head that is read took some of the reads, and left the others. -/
theorem readHead_done {buf forward : Bytes} {reads rest : List Bytes} {target : TargetAddr}
    {isConnect : Bool} (hread : readHead buf reads = (.done target isConnect forward, rest)) :
    ∃ taken, reads = taken ++ rest ∧ forward = if isConnect then [] else buf ++ taken.flatten := by
  induction reads generalizing buf with
  | nil => cases hread
  | cons chunk others ih =>
    rw [readHead] at hread
    cases hhead : headStep buf chunk with
    | more more =>
      rw [hhead] at hread
      obtain ⟨taken, htaken, hforward⟩ := ih hread
      refine ⟨chunk :: taken, congrArg (chunk :: ·) htaken, ?_⟩
      rw [hforward, more_of_headStep hhead, List.flatten_cons, List.append_assoc]
    | done target' isConnect' forward' =>
      rw [hhead, Prod.mk.injEq, HeadStep.done.injEq] at hread
      obtain ⟨⟨-, rfl, rfl⟩, rfl⟩ := hread
      refine ⟨[chunk], rfl, ?_⟩
      rw [forward_eq_of_headStep hhead, List.flatten_singleton]
    | failed error =>
      rw [hhead] at hread
      cases hread

/-- What the handler does when it has read a head and maybe more. -/
def afterHead (head buf : Bytes) : HeadStep :=
  match parseRequestLine head with
  | .ok (target, isConnect) => .done target isConnect (if isConnect then [] else buf)
  | .error error => .failed error

section Reading

variable {head : Head} {body buf chunk later : Bytes} {reads : List Bytes}

/-- A read that does not reach the end of the head. -/
theorem headStep_of_lt (hchunk : chunk ≠ []) (hsent : buf ++ chunk ++ later = head.bytes ++ body)
    (hlt : (buf ++ chunk).length < head.bytes.length) :
    headStep buf chunk =
      if 64 * 1024 < (buf ++ chunk).length then .failed .tooLarge else .more (buf ++ chunk) := by
  have hnone : findSub headEnd (buf ++ chunk) = none := by
    have hfound := findSub_append head.found body
    rw [← hsent] at hfound
    exact findSub_eq_none hfound (head.length_eq ▸ hlt)
  simp only [headStep, if_neg hchunk, hnone]

/-- A read that reaches the end of the head. -/
theorem headStep_of_le (hchunk : chunk ≠ []) (hsent : buf ++ chunk ++ later = head.bytes ++ body)
    (hle : head.bytes.length ≤ (buf ++ chunk).length) :
    headStep buf chunk = afterHead head.bytes (buf ++ chunk) := by
  obtain ⟨more, hmore⟩ : head.bytes <+: buf ++ chunk :=
    List.prefix_of_prefix_length_le ⟨body, rfl⟩ ⟨later, hsent⟩ hle
  have hfound : findSub headEnd (buf ++ chunk) = some head.pos := by
    rw [← hmore]
    exact findSub_append head.found more
  have htake : (buf ++ chunk).take (head.pos + 4) = head.bytes := by
    rw [← hmore, ← head.length_eq, List.take_left]
  cases hparse : parseRequestLine head.bytes with
  | ok => simp only [headStep, if_neg hchunk, hfound, htake, hparse, afterHead]
  | error => simp only [headStep, if_neg hchunk, hfound, htake, hparse, afterHead]

theorem append_take_succ (buf chunk : Bytes) (reads : List Bytes) (count : ℕ) :
    buf ++ ((chunk :: reads).take (count + 1)).flatten =
      buf ++ chunk ++ (reads.take count).flatten := by
  rw [List.take_succ_cons, List.flatten_cons, List.append_assoc]

/-- What holds of the bytes before the first read, and from then on. -/
theorem forall_take_cons {Holds : Bytes → Prop} {count : ℕ} (hfirst : Holds buf)
    (hrest : ∀ fewer < count, Holds (buf ++ chunk ++ (reads.take fewer).flatten)) :
    ∀ fewer < count + 1, Holds (buf ++ ((chunk :: reads).take fewer).flatten) := by
  intro fewer hfewer
  cases fewer with
  | zero =>
    rw [List.take_zero, List.flatten_nil, List.append_nil]
    exact hfirst
  | succ fewer =>
    rw [append_take_succ]
    exact hrest fewer (Nat.lt_of_succ_lt_succ hfewer)

/-- The head is read up to the first read that reaches its end, or refused before it when more than
64 KiB have been read. -/
theorem readHead_cases (hreads : ∀ read ∈ reads, read ≠ [])
    (hsent : buf ++ reads.flatten = head.bytes ++ body) (hlt : buf.length < head.bytes.length) :
    ∃ count, (∀ fewer < count, (buf ++ (reads.take fewer).flatten).length < head.bytes.length) ∧
      ((64 * 1024 < (buf ++ (reads.take count).flatten).length ∧
          (buf ++ (reads.take count).flatten).length < head.bytes.length ∧
          readHead buf reads = (.failed .tooLarge, reads.drop count)) ∨
        (head.bytes.length ≤ (buf ++ (reads.take count).flatten).length ∧
          (∀ fewer < count, 0 < fewer → (buf ++ (reads.take fewer).flatten).length ≤ 64 * 1024) ∧
          readHead buf reads =
            (afterHead head.bytes (buf ++ (reads.take count).flatten), reads.drop count))) := by
  induction reads generalizing buf with
  | nil =>
    have hlength := congrArg List.length hsent
    simp only [List.flatten_nil, List.append_nil, List.length_append] at hlength
    omega
  | cons chunk rest ih =>
    rw [List.forall_mem_cons] at hreads
    have hfirst : ∀ fewer < 1, (buf ++ ((chunk :: rest).take fewer).flatten).length <
        head.bytes.length :=
      @forall_take_cons buf chunk rest (·.length < head.bytes.length) 0 hlt fun _ hfewer ↦
        absurd hfewer (Nat.not_lt_zero _)
    have htake : buf ++ ((chunk :: rest).take 1).flatten = buf ++ chunk := by
      rw [List.take_succ_cons, List.take_zero, List.flatten_singleton]
    have hsent : buf ++ chunk ++ rest.flatten = head.bytes ++ body := by
      rw [← hsent, List.flatten_cons, List.append_assoc]
    by_cases hle : head.bytes.length ≤ (buf ++ chunk).length
    · refine ⟨1, hfirst, Or.inr ⟨htake ▸ hle, ?_, ?_⟩⟩
      · intro fewer hfewer hpos
        omega
      · have hstep := headStep_of_le hreads.1 hsent hle
        rw [htake, readHead, hstep, afterHead]
        cases parseRequestLine head.bytes with
        | ok => rfl
        | error => rfl
    · have hstep := headStep_of_lt hreads.1 hsent (Nat.lt_of_not_le hle)
      by_cases hlarge : 64 * 1024 < (buf ++ chunk).length
      · rw [if_pos hlarge] at hstep
        refine ⟨1, hfirst, Or.inl ⟨htake ▸ hlarge, htake ▸ Nat.lt_of_not_le hle, ?_⟩⟩
        rw [readHead, hstep]
        rfl
      · rw [if_neg hlarge] at hstep
        obtain ⟨count, hfewer, hcases⟩ := ih hreads.2 hsent (Nat.lt_of_not_le hle)
        have hread : readHead buf (chunk :: rest) = readHead (buf ++ chunk) rest := by
          rw [readHead, hstep]
        refine ⟨count + 1, ?_, ?_⟩
        · exact @forall_take_cons buf chunk rest (·.length < head.bytes.length) count hlt hfewer
        · rw [append_take_succ, hread, List.drop_succ_cons]
          refine hcases.imp_right fun hreached ↦ ⟨hreached.1, ?_, hreached.2.2⟩
          intro fewer hlt' hpos
          obtain ⟨fewer, rfl⟩ := Nat.exists_eq_succ_of_ne_zero (Nat.ne_of_gt hpos)
          rw [append_take_succ]
          by_cases hzero : fewer = 0
          · rw [hzero, List.take_zero, List.flatten_nil, List.append_nil]
            exact Nat.le_of_not_lt hlarge
          · exact hreached.2.1 fewer (Nat.lt_of_succ_lt_succ hlt') (Nat.pos_of_ne_zero hzero)

end Reading

/-! ### What reaches the remote host -/

/-- The bytes that go to the remote host: what is forwarded, and then what the uplink task reads. -/
def delivered (reads : List Bytes) : Bytes :=
  match readHead [] reads with
  | (.done _ _ forward, rest) => forward ++ rest.flatten
  | _ => []

/-- What is read from a head, once it is read. -/
def outcome : HeadStep → Option (Except HeadError (TargetAddr × Bool))
  | .more _ => none
  | .done target isConnect _ => some (.ok (target, isConnect))
  | .failed error => some (.error error)

/-- Bytes that an application sends: a request head of at most 64 KiB and more. -/
structure Upload where
  head : Head
  head_size : head.bytes.length ≤ 64 * 1024
  body : Bytes

def Upload.bytes (upload : Upload) : Bytes :=
  upload.head.bytes ++ upload.body

/-- What the remote host is to get: for `CONNECT` all that follows the head, for another request
everything, and nothing when the head is refused. -/
def Upload.toRemote (upload : Upload) : Bytes :=
  match parseRequestLine upload.head.bytes with
  | .ok (_, true) => upload.body
  | .ok (_, false) => upload.bytes
  | .error _ => []

/-- The request is read as a whole, and every byte that is due is delivered. -/
def Upload.Kept (upload : Upload) (split : Split upload.bytes) : Prop :=
  outcome (parseHttpHead [] split.reads) = some (parseRequestLine upload.head.bytes) ∧
    delivered split.reads = upload.toRemote

theorem Head.parseRequestLine_connect {head : Head} (hconnect : head.IsConnect) :
    ∃ target, parseRequestLine head.bytes = .ok (target, true) := by
  unfold Head.IsConnect at hconnect
  simp only [parseRequestLine, hconnect, if_true]
  exact ⟨_, rfl⟩

theorem Head.parseRequestLine_other {head : Head} (hconnect : ¬head.IsConnect) :
    (∃ target, parseRequestLine head.bytes = .ok (target, false)) ∨
      ∃ error, parseRequestLine head.bytes = .error error := by
  unfold Head.IsConnect at hconnect
  simp only [parseRequestLine, hconnect]
  rw [if_neg Bool.false_ne_true]
  split_ifs
  · exact Or.inr ⟨_, rfl⟩
  · exact Or.inl ⟨_, rfl⟩

/-- A read ends where the head does exactly when the reads that complete the head hold nothing else.
-/
theorem Split.cuts_iff {head : Head} {body : Bytes} (split : Split (head.bytes ++ body)) {count : ℕ}
    (hfewer : ∀ fewer < count, (split.reads.take fewer).flatten.length < head.bytes.length)
    (hle : head.bytes.length ≤ (split.reads.take count).flatten.length) :
    split.Cuts head.bytes.length ↔ (split.reads.take count).flatten = head.bytes := by
  have hall : (split.reads.take count).flatten ++ (split.reads.drop count).flatten =
      head.bytes ++ body := (flatten_take_append_drop _ _).trans split.flatten_eq
  refine ⟨fun ⟨other, hother⟩ ↦ ?_, fun heq ↦ ⟨count, congrArg List.length heq⟩⟩
  have hcount : count ≤ other := by
    by_contra hlt
    exact absurd hother (hfewer other (Nat.lt_of_not_le hlt)).ne
  have hmono : (split.reads.take count).flatten.length ≤ head.bytes.length :=
    hother ▸ length_take_mono _ hcount
  exact (List.append_inj hall (Nat.le_antisymm hmono hle)).1

/-- The reads that complete a head of at most 64 KiB, and those that are left. -/
theorem Upload.readHead_eq (upload : Upload) (split : Split upload.bytes) :
    ∃ whole rest, whole ++ rest.flatten = upload.bytes ∧
      readHead [] split.reads = (afterHead upload.head.bytes whole, rest) ∧
      (split.Cuts upload.head.bytes.length ↔ whole = upload.head.bytes) := by
  obtain ⟨count, hfewer, hcases⟩ := readHead_cases split.nonempty
    ((List.nil_append _).trans split.flatten_eq) upload.head.length_pos
  simp only [List.nil_append] at hfewer hcases
  rcases hcases with ⟨hlarge, hlt, -⟩ | ⟨hle, -, hread⟩
  · exact absurd upload.head_size (Nat.not_le.mpr (hlarge.trans hlt))
  · have hall := (flatten_take_append_drop split.reads count).trans split.flatten_eq
    exact ⟨_, _, hall, hread, split.cuts_iff hfewer hle⟩

/-- The request line is read from the same bytes, however they are cut. -/
theorem Upload.outcome_parseHttpHead (upload : Upload) (split : Split upload.bytes) :
    outcome (parseHttpHead [] split.reads) = some (parseRequestLine upload.head.bytes) := by
  obtain ⟨whole, rest, -, hread, -⟩ := upload.readHead_eq split
  rw [← fst_readHead, hread, afterHead]
  cases parseRequestLine upload.head.bytes with
  | ok => rfl
  | error => rfl

/-- However a request with a head of at most 64 KiB is cut into reads, the same is read from it; and
every byte is delivered exactly when, for `CONNECT`, a read ends where the head does. -/
theorem Upload.kept_iff (upload : Upload) (split : Split upload.bytes) :
    upload.Kept split ↔
      (upload.head.IsConnect → split.Cuts upload.head.bytes.length) := by
  obtain ⟨whole, rest, hwhole, hread, hcuts⟩ := upload.readHead_eq split
  refine (and_iff_right (upload.outcome_parseHttpHead split)).trans ?_
  rw [delivered, hread, afterHead, Upload.toRemote, hcuts]
  by_cases hconnect : upload.head.IsConnect
  · obtain ⟨target, hparse⟩ := Head.parseRequestLine_connect hconnect
    simp only [hparse, if_true, List.nil_append, hconnect, true_implies]
    constructor
    · intro hrest
      rw [hrest] at hwhole
      exact List.append_cancel_right hwhole
    · intro heq
      rw [heq] at hwhole
      exact List.append_cancel_left hwhole
  · refine iff_of_true ?_ fun hnot ↦ absurd hnot hconnect
    rcases Head.parseRequestLine_other hconnect with ⟨target, hparse⟩ | ⟨error, hparse⟩
    · simp only [hparse, Bool.false_eq_true, if_false]
      exact hwhole
    · simp only [hparse]

/-- A `CONNECT` head and one byte of the tunnel behind it. -/
def earlyUpload : Upload where
  head :=
    { bytes := ascii "CONNECT a.test:443 HTTP/1.1\r\n\r\n".toList
      pos := 27
      found := by decide +kernel
      length_eq := by decide +kernel }
  head_size := by decide +kernel
  body := [22]

/-- A byte that arrives together with the head of a `CONNECT` is lost. -/
theorem early_byte_lost : ¬∀ (upload : Upload) (split : Split upload.bytes), upload.Kept split := by
  intro hall
  have hnonempty : ∀ read ∈ [earlyUpload.bytes], read ≠ [] := by decide +kernel
  have hflatten : [earlyUpload.bytes].flatten = earlyUpload.bytes := List.flatten_singleton
  have hkept := hall earlyUpload ⟨[earlyUpload.bytes], hnonempty, hflatten⟩
  have hdelivered : delivered [earlyUpload.bytes] = [] := by decide +kernel
  have hdue : earlyUpload.toRemote = [22] := by decide +kernel
  exact absurd (hdelivered.symm.trans (hkept.2.trans hdue)) (by decide)

end Http

end EntroTunnel.Client
