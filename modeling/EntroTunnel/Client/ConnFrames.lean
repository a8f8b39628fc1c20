import EntroTunnel.Client.LocalConn
import EntroTunnel.Client.RequestStreams
import EntroTunnel.Foundation.PartialRun

/-!
# The frames of one local connection

`handleLocal` lists the frames that a connection sends for its reads; `LocalConn` takes the same
connection step by step, with its two tasks and the application in any order. Here the second is
measured by the first: in every run, the frames that were sent are the first of `handleLocal` on the
reads that were made (`frames_of_run`), and the reads are what the application has sent, but for
what is still in the socket (`reads_of_run`).
-/

set_option autoImplicit false
set_option relaxedAutoImplicit false

namespace EntroTunnel.Client.Http

open EntroTunnel.Core EntroTunnel.Foundation

/-- A connection with what the application has sent, the reads that were made of it, and the frames
that went to the link. -/
structure Exchange where
  conn : LocalConn
  sent : Bytes
  reads : List Bytes
  frames : List Frame

/-- What a step of the application adds to the socket. -/
def sentBy : LocalAction → Bytes
  | .localSends data => data
  | _ => []

/-- What a step reads from the socket. -/
def readBy (conn : LocalConn) : LocalAction → List Bytes
  | .read count | .upRead count => [conn.inbound.take count]
  | _ => []

/-- The frame that a step sends. -/
def framesOf : LocalEffect → List Frame
  | .emit frame => [frame]
  | _ => []

namespace Exchange

def start (id : StreamId) : Exchange :=
  { conn := .start id, sent := [], reads := [], frames := [] }

/-- One step of the connection. -/
def step (exchange : Exchange) (action : LocalAction) : Option Exchange :=
  (exchange.conn.step action).map fun result ↦
    { conn := result.1
      sent := exchange.sent ++ sentBy action
      reads := exchange.reads ++ readBy exchange.conn action
      frames := exchange.frames ++ framesOf result.2 }

variable {exchange next : Exchange} {action : LocalAction}

theorem stepped_of_step (hstep : exchange.step action = some next) :
    ∃ effect, exchange.conn.Stepped action next.conn effect ∧
      next.sent = exchange.sent ++ sentBy action ∧
      next.reads = exchange.reads ++ readBy exchange.conn action ∧
      next.frames = exchange.frames ++ framesOf effect := by
  obtain ⟨⟨conn, effect⟩, hconn, rfl⟩ := Option.map_eq_some_iff.mp hstep
  exact ⟨effect, LocalConn.stepped_of_step hconn, rfl, rfl, rfl⟩

/-! ### The reads -/

/-- The reads are not empty, and followed by what is still in the socket they are what was sent. -/
structure Taken (exchange : Exchange) : Prop where
  nonempty : ∀ read ∈ exchange.reads, read ≠ []
  flatten_eq : exchange.reads.flatten ++ exchange.conn.inbound = exchange.sent

/-- A read takes bytes off the socket. -/
theorem Taken.read (htaken : exchange.Taken) {count : ℕ} (hpos : 0 < count)
    (hle : count ≤ exchange.conn.inbound.length) {after : LocalConn}
    (hafter : after.inbound = exchange.conn.inbound.drop count) {frames : List Frame} :
    Taken ⟨after, exchange.sent, exchange.reads ++ [exchange.conn.inbound.take count], frames⟩ := by
  refine ⟨List.forall_mem_append.mpr ⟨htaken.nonempty, ?_⟩, ?_⟩
  · refine List.forall_mem_singleton.mpr (List.ne_nil_of_length_pos ?_)
    rw [List.length_take]
    omega
  · rw [List.flatten_append, List.flatten_singleton, List.append_assoc, hafter,
      List.take_append_drop]
    exact htaken.flatten_eq

theorem Taken.step (htaken : exchange.Taken) (hstep : exchange.step action = some next) :
    next.Taken := by
  obtain ⟨conn, sent, reads, frames⟩ := next
  obtain ⟨effect, hconn, rfl, rfl, rfl⟩ := stepped_of_step hstep
  have hkept : ∀ after : LocalConn, after.inbound = exchange.conn.inbound →
      Taken ⟨after, exchange.sent ++ [], exchange.reads ++ [],
        exchange.frames ++ framesOf effect⟩ := by
    intro after hinbound
    simp only [List.append_nil]
    exact ⟨htaken.nonempty, by rw [hinbound]; exact htaken.flatten_eq⟩
  cases hconn with
  | read count buf hphase hcount =>
    rw [show sentBy (.read count) = [] from rfl, List.append_nil]
    refine htaken.read hcount.1 hcount.2.2 ?_
    cases headStep buf (exchange.conn.inbound.take count) <;> rfl
  | upRead count huplink hcount hsize hinbound =>
    rw [show sentBy (.upRead count) = [] from rfl, List.append_nil]
    exact htaken.read hcount hinbound rfl
  | localSends data heof hreset =>
    refine ⟨?_, ?_⟩
    · rw [show readBy exchange.conn (.localSends data) = [] from rfl, List.append_nil]
      exact htaken.nonempty
    · rw [show readBy exchange.conn (.localSends data) = [] from rfl, List.append_nil,
        ← List.append_assoc, htaken.flatten_eq]
      rfl
  | openStream target forward hphase =>
    have hinbound : (exchange.conn.opened forward).inbound = exchange.conn.inbound := by
      unfold LocalConn.opened
      split_ifs <;> rfl
    exact hkept _ hinbound
  | _ => exact hkept _ rfl

/-- What a connection has read is what the application has sent, but for what is still in the
socket. -/
theorem reads_of_run {id : StreamId} {actions : List LocalAction}
    (hrun : run step (start id) actions = some exchange) : exchange.Taken :=
  run_preserves (fun _ _ _ htaken hstep ↦ htaken.step hstep) hrun
    ⟨fun _ hmem ↦ absurd hmem List.not_mem_nil, rfl⟩

/-! ### The frames -/

/-- What a connection sends first: the stream is opened, and what was read with the head goes on. -/
def openFrames (id : StreamId) (target : TargetAddr) (isConnect : Bool) (forward : Bytes) :
    List Frame :=
  .streamOpen id target :: if isConnect = false ∧ forward ≠ [] then [.streamData id forward] else []

/-- What the uplink task has sent of the reads that are left to it, after the first frames. -/
def Uplinked (id : StreamId) (first : List Frame) (rest : List Bytes) (frames : List Frame) :
    UplinkPhase → Prop
  | .absent => False
  | .reading | .closing => frames = first ++ rest.map (.streamData id ·)
  | .sending data => ∃ earlier, rest = earlier ++ [data] ∧
      frames = first ++ earlier.map (.streamData id ·)
  | .finished => frames = first ++ rest.map (.streamData id ·) ++ [.streamClose id none]
  | .aborted => frames <+: first ++ rest.map (.streamData id ·)

/-- The connection serves its stream: the head is read, and the uplink task is at work or over. -/
def Serves (exchange : Exchange) : Prop :=
  ∃ target forward rest,
    readHead [] exchange.reads = (.done target exchange.conn.isConnect forward, rest) ∧
      Uplinked exchange.conn.id
        (openFrames exchange.conn.id target exchange.conn.isConnect forward) rest exchange.frames
        exchange.conn.uplink

/-- The stream is open, and the uplink task has not been started. -/
def Opens (exchange : Exchange) (isConnect : Bool) (data : Bytes) : Prop :=
  exchange.conn.isConnect = isConnect ∧ exchange.conn.uplink = .absent ∧
    ∃ target, readHead [] exchange.reads = (.done target isConnect data, []) ∧
      exchange.frames = [.streamOpen exchange.conn.id target]

/-- What has been read and sent where the handler is. -/
def Follows (exchange : Exchange) : Prop :=
  match exchange.conn.phase with
  | .parsing buf => exchange.conn.uplink = .absent ∧ exchange.frames = [] ∧
      readHead [] exchange.reads = (.more buf, [])
  | .refused => exchange.conn.uplink = .absent ∧ exchange.frames = []
  | .opening target forward => exchange.conn.uplink = .absent ∧ exchange.frames = [] ∧
      readHead [] exchange.reads = (.done target exchange.conn.isConnect forward, [])
  | .greeting _ | .abandoned => ∃ data, exchange.Opens true data
  | .forwarding data => data ≠ [] ∧ exchange.Opens false data
  | .waiting | .delivering _ | .done => exchange.Serves

/-- A read after those that did not end the head. -/
theorem readHead_concat_more {buf more : Bytes} {reads : List Bytes}
    (hread : readHead buf reads = (.more more, [])) (chunk : Bytes) :
    readHead buf (reads ++ [chunk]) = (headStep more chunk, []) := by
  induction reads generalizing buf with
  | nil =>
    obtain ⟨hmore, -⟩ := Prod.mk.inj hread
    obtain rfl := HeadStep.more.inj hmore
    rw [List.nil_append, readHead]
    cases headStep buf chunk <;> rfl
  | cons first rest ih =>
    rw [List.cons_append, readHead]
    rw [readHead] at hread
    cases hhead : headStep buf first with
    | more next =>
      rw [hhead] at hread
      exact ih hread
    | done | failed =>
      rw [hhead] at hread
      cases hread

/-- A read after the one that ended the head. -/
theorem readHead_concat_done {buf forward chunk : Bytes} {target : TargetAddr} {isConnect : Bool}
    {reads rest : List Bytes}
    (hread : readHead buf reads = (.done target isConnect forward, rest)) :
    readHead buf (reads ++ [chunk]) = (.done target isConnect forward, rest ++ [chunk]) := by
  induction reads generalizing buf with
  | nil => cases hread
  | cons first others ih =>
    rw [List.cons_append, readHead]
    rw [readHead] at hread
    cases hhead : headStep buf first with
    | more next =>
      rw [hhead] at hread
      exact ih hread
    | done | failed =>
      rw [hhead] at hread
      obtain ⟨houtcome, rfl⟩ := Prod.mk.inj hread
      rw [← houtcome]

theorem handleLocal_eq {id : StreamId} {reads rest : List Bytes} {target : TargetAddr}
    {isConnect : Bool} {forward : Bytes}
    (hread : readHead [] reads = (.done target isConnect forward, rest)) :
    handleLocal id reads = openFrames id target isConnect forward ++
      rest.map (.streamData id ·) ++ [.streamClose id none] := by
  rw [handleLocal, hread, openFrames]
  rfl

/-- What was sent where the handler is, is the first part of the frames of the reads. -/
theorem Follows.frames_le (hfollows : exchange.Follows) :
    exchange.frames <+: handleLocal exchange.conn.id exchange.reads := by
  have hopens : ∀ {isConnect : Bool} {data : Bytes}, exchange.Opens isConnect data →
      exchange.frames <+: handleLocal exchange.conn.id exchange.reads := by
    rintro isConnect data ⟨-, -, target, hread, hframes⟩
    rw [hframes, handleLocal_eq hread, openFrames, List.cons_append, List.cons_append]
    exact List.cons_prefix_cons.mpr ⟨rfl, List.nil_prefix⟩
  have hserves : exchange.Serves →
      exchange.frames <+: handleLocal exchange.conn.id exchange.reads := by
    rintro ⟨target, forward, rest, hread, huplinked⟩
    rw [handleLocal_eq hread]
    cases huplink : exchange.conn.uplink with
    | absent =>
      rw [huplink] at huplinked
      exact huplinked.elim
    | reading | closing =>
      rw [huplink] at huplinked
      rw [show exchange.frames = _ from huplinked]
      exact List.prefix_append _ _
    | sending data =>
      rw [huplink] at huplinked
      obtain ⟨earlier, rfl, hframes⟩ := huplinked
      rw [hframes, List.map_append, List.append_assoc, List.append_assoc]
      exact List.prefix_append_right_inj _ |>.mpr (List.prefix_append _ _)
    | finished =>
      rw [huplink] at huplinked
      exact (show exchange.frames = _ from huplinked) ▸ List.prefix_rfl
    | aborted =>
      rw [huplink] at huplinked
      exact List.IsPrefix.trans huplinked (List.prefix_append _ _)
  unfold Follows at hfollows
  split at hfollows
  · rw [hfollows.2.1]
    exact List.nil_prefix
  · rw [hfollows.2]
    exact List.nil_prefix
  · rw [hfollows.2.1]
    exact List.nil_prefix
  · exact hopens hfollows.choose_spec
  · exact hopens hfollows.choose_spec
  · exact hopens hfollows.2
  · exact hserves hfollows
  · exact hserves hfollows
  · exact hserves hfollows

/-- The uplink task is aborted wherever it is. -/
theorem Uplinked.abort {id : StreamId} {first frames : List Frame} {rest : List Bytes}
    {uplink : UplinkPhase} (huplinked : Uplinked id first rest frames uplink) :
    Uplinked id first rest frames uplink.abort := by
  cases uplink with
  | absent => exact huplinked.elim
  | reading | closing =>
    have hframes : frames = first ++ rest.map (.streamData id ·) := huplinked
    exact hframes ▸ List.prefix_rfl
  | sending data =>
    obtain ⟨earlier, rfl, hframes⟩ := huplinked
    rw [hframes]
    show first ++ earlier.map (.streamData id ·) <+: _
    rw [List.map_append, ← List.append_assoc]
    exact List.prefix_append _ _
  | finished | aborted => exact huplinked

/-- A step of the uplink task, which the handler has started. -/
theorem Follows.of_uplink (hfollows : exchange.Follows) (huplink : exchange.conn.uplink ≠ .absent)
    (hphase : next.conn.phase = exchange.conn.phase) (hserves : exchange.Serves → next.Serves) :
    next.Follows := by
  unfold Follows at hfollows ⊢
  rw [hphase]
  cases hcase : exchange.conn.phase with
  | parsing | refused | opening =>
    rw [hcase] at hfollows
    exact absurd hfollows.1 huplink
  | greeting | abandoned =>
    rw [hcase] at hfollows
    exact absurd hfollows.choose_spec.2.1 huplink
  | forwarding data =>
    rw [hcase] at hfollows
    exact absurd hfollows.2.2.1 huplink
  | waiting | delivering | done =>
    rw [hcase] at hfollows
    exact hserves hfollows

/-- The uplink task is started. -/
theorem Opens.serve {isConnect : Bool} {data : Bytes} (hopens : exchange.Opens isConnect data)
    {sent : Bytes} {frames : List Frame} (hframes : ∀ target,
      exchange.frames = [.streamOpen exchange.conn.id target] →
        frames = openFrames exchange.conn.id target isConnect data) :
    Serves ⟨exchange.conn.serve, sent, exchange.reads, frames⟩ := by
  obtain ⟨rfl, -, target, hread, hopened⟩ := hopens
  refine ⟨target, data, [], hread, ?_⟩
  exact (hframes target hopened).trans (List.append_nil _).symm

theorem Follows.step (hfollows : exchange.Follows) (hstep : exchange.step action = some next) :
    next.Follows := by
  obtain ⟨conn, sent, reads, frames⟩ := next
  obtain ⟨effect, hconn, rfl, rfl, rfl⟩ := stepped_of_step hstep
  have hphaseOf : ∀ {phase : LocalPhase}, exchange.conn.phase = phase →
      Follows { exchange with conn := { exchange.conn with phase } } := by
    rintro phase rfl
    exact hfollows
  have hemits : ∀ {after : LocalConn} {sent : Bytes} {frames : List Frame},
      Follows ⟨after, sent, exchange.reads, frames⟩ →
        Follows ⟨after, sent, exchange.reads ++ [], frames⟩ := by
    intro after sent frames hafter
    rw [List.append_nil]
    exact hafter
  have hquiet : ∀ {after : LocalConn} {sent : Bytes},
      Follows ⟨after, sent, exchange.reads, exchange.frames⟩ →
        Follows ⟨after, sent, exchange.reads ++ [], exchange.frames ++ []⟩ := by
    intro after sent hafter
    rw [List.append_nil, List.append_nil]
    exact hafter
  cases hconn with
  | read count buf hphase hcount =>
    obtain ⟨huplink, hframes, hread⟩ := hphaseOf hphase
    have hconcat := readHead_concat_more hread (exchange.conn.inbound.take count)
    cases hhead : headStep buf (exchange.conn.inbound.take count) with
    | more more =>
      rw [hhead] at hconcat
      exact ⟨huplink, by rw [hframes]; rfl, hconcat⟩
    | done target isConnect forward =>
      rw [hhead] at hconcat
      exact ⟨huplink, by rw [hframes]; rfl, hconcat⟩
    | failed error => exact ⟨huplink, by rw [hframes]; rfl⟩
  | readEof buf hphase | readFailed buf hphase =>
    obtain ⟨huplink, hframes, -⟩ := hphaseOf hphase
    exact hquiet ⟨huplink, hframes⟩
  | openStream target forward hphase =>
    obtain ⟨huplink, hframes, hread⟩ := hphaseOf hphase
    have hopens : ∀ after : LocalConn, after.id = exchange.conn.id →
        after.isConnect = exchange.conn.isConnect → after.uplink = .absent →
        Opens ⟨after, exchange.sent, exchange.reads,
          exchange.frames ++ [.streamOpen exchange.conn.id target]⟩
          exchange.conn.isConnect forward := by
      intro after hid hconnect habsent
      refine ⟨hconnect, habsent, target, hread, ?_⟩
      rw [hid, show exchange.frames = [] from hframes]
      rfl
    have hopened : Follows ⟨exchange.conn.opened forward, exchange.sent, exchange.reads,
        exchange.frames ++ [.streamOpen exchange.conn.id target]⟩ := by
      unfold LocalConn.opened
      split_ifs with hconnect hforward
      · exact ⟨forward, hconnect ▸ hopens _ rfl rfl huplink⟩
      · rw [Bool.not_eq_true] at hconnect
        exact ⟨hforward, hconnect ▸ hopens _ rfl rfl huplink⟩
      · rw [not_not] at hforward
        refine (hopens exchange.conn rfl rfl huplink).serve fun other hother ↦ ?_
        rw [show exchange.frames ++ _ = _ from hother, hforward]
        simp [openFrames]
    exact hemits hopened
  | greet count rest hphase | greetFailed byte rest hphase =>
    have hopens : ∃ data, exchange.Opens true data := hphaseOf hphase
    exact hquiet hopens
  | greeted hphase =>
    obtain ⟨data, hopens⟩ := hphaseOf hphase
    exact hquiet (@Opens.serve exchange true data hopens exchange.sent _ fun _ hframes ↦ hframes)
  | forwardHead data hphase =>
    obtain ⟨hdata, hopens⟩ := hphaseOf hphase
    rw [show readBy exchange.conn .forwardHead = [] from rfl, List.append_nil]
    refine Opens.serve hopens fun target hframes ↦ ?_
    rw [show exchange.frames = _ from hframes, openFrames, if_pos ⟨rfl, hdata⟩]
    rfl
  | take data rest hphase | deliver count rest hphase | delivered hphase =>
    have hserves : exchange.Serves := hphaseOf hphase
    exact hquiet hserves
  | takeClose rest hphase | endOfInput hphase | deliverFailed byte rest hphase =>
    obtain ⟨target, forward, rest, hread, huplinked⟩ : exchange.Serves := hphaseOf hphase
    exact hquiet ⟨target, forward, rest, hread, huplinked.abort⟩
  | upRead count huplink =>
    refine hfollows.of_uplink (by rw [huplink]; simp) rfl ?_
    rintro ⟨target, forward, rest, hread, huplinked⟩
    rw [huplink] at huplinked
    refine ⟨target, forward, _, readHead_concat_done hread, rest, rfl, ?_⟩
    exact (List.append_nil _).trans huplinked
  | upEof huplink | upFailed huplink =>
    refine hquiet (hfollows.of_uplink (by rw [huplink]; simp) rfl ?_)
    rintro ⟨target, forward, rest, hread, huplinked⟩
    rw [huplink] at huplinked
    exact ⟨target, forward, rest, hread, huplinked⟩
  | upSend data huplink =>
    refine hemits (hfollows.of_uplink (by rw [huplink]; simp) rfl ?_)
    rintro ⟨target, forward, rest, hread, huplinked⟩
    rw [huplink] at huplinked
    obtain ⟨earlier, rfl, hframes⟩ := huplinked
    refine ⟨target, forward, _, hread, ?_⟩
    show exchange.frames ++ [.streamData exchange.conn.id data] = _
    rw [hframes, List.map_append, List.append_assoc]
    rfl
  | upClose huplink =>
    refine hemits (hfollows.of_uplink (by rw [huplink]; simp) rfl ?_)
    rintro ⟨target, forward, rest, hread, huplinked⟩
    rw [huplink] at huplinked
    refine ⟨target, forward, rest, hread, ?_⟩
    show exchange.frames ++ [.streamClose exchange.conn.id none] = _
    rw [show exchange.frames = _ from huplinked]
  | localSends data => exact hquiet hfollows
  | localCloses | localResets => exact hquiet hfollows

/-- What a connection has sent is the first part of the frames that its reads make. -/
theorem frames_of_run {id : StreamId} {actions : List LocalAction}
    (hrun : run step (start id) actions = some exchange) :
    exchange.frames <+: handleLocal exchange.conn.id exchange.reads := by
  refine Follows.frames_le ?_
  exact run_preserves (fun _ _ _ hfollows hstep ↦ hfollows.step hstep) hrun ⟨rfl, rfl, rfl⟩

end Exchange

end EntroTunnel.Client.Http
