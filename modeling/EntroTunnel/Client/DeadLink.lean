import EntroTunnel.Client.StalledConsumer

/-!
# A link that is gone

What is left of `run_http_mode` when its reader loop and its writer loop have returned. Neither
tells anybody: the accept loop waits for the token, and a handler waits for its application or for a
message, from a `StreamMap` that it holds itself and that therefore never drops its sender.

`Released` names what has to be the case for the mode to be over: the token, the applications, and a
`StreamMap` without a sender to a living handler. `ended_iff_released` says that a quiescent mode
over a dead link is over exactly then, and `serving_of_run` that it is not before the user cancels.
-/

set_option autoImplicit false
set_option relaxedAutoImplicit false

namespace EntroTunnel.Client.HttpMode

open EntroTunnel.Core EntroTunnel.Foundation

/-- The steps of the tasks, with the ends that the token brings, where the sockets in `stalled` take
nothing. -/
def Own (stalled : Set ℕ) : HttpAction → Prop
  | .client (.conn index action) =>
    action.External = false ∧ (index ∈ stalled → action.writesSocket = false)
  | .client .send | .client .hand | .client .pong => True
  | .emitFailed _ _ | .pongFailed => True
  | .writerCancelled | .readerCancelled | .mainCancelled | .writerAborted | .readerAborted => True
  | _ => False

/-- The token is set, no application withholds its request head, no stalled socket withholds a
write, and the `StreamMap` has no sender to a handler that still receives. -/
structure Released (stalled : Set ℕ) (mode : HttpMode) : Prop where
  token : mode.cancelled = true
  heads : ∀ conn ∈ mode.client.conns, ∀ buf, conn.phase ≠ .parsing buf
  sockets : ∀ index ∈ stalled, ∀ conn, mode.client.conns[index]? = some conn →
    conn.awaitsSocket mode.writing = false
  table : ∀ id index conn, mode.client.streams.lookup id = some index →
    mode.client.conns[index]? = some conn → conn.inbox.hasReceiver = false

variable {stalled : Set ℕ} {mode next : HttpMode} {index : ℕ} {conn : LocalConn}

/-! ### Quiescent connections -/

/-- Over a dead link a connection of a quiescent mode has no step of its own: a frame that it wants
to queue is refused. -/
theorem conn_rests (hwired : Wired mode) (hwriting : mode.writing = false)
    (hreading : mode.reading = false) (hresting : Resting step (Own stalled) mode)
    (hconn : mode.client.conns[index]? = some conn) {action : LocalAction}
    (hinternal : action.External = false)
    (hsocket : index ∈ stalled → action.writesSocket = false) : conn.step action = none := by
  by_contra hsome
  obtain ⟨⟨later, effect⟩, hstep⟩ := Option.ne_none_iff_exists'.mp hsome
  have hidle : mode.client.reader = .idle := hwired.idle hreading
  have hreceiver : mode.client.out.hasReceiver = false := hwired.out.trans hwriting
  have hnone := hresting (.client (.conn index action)) ⟨hinternal, hsocket⟩
  have hended : ¬ (action = .endOfInput ∧ mode.client.reader.target = some index) := by
    rw [hidle]
    rintro ⟨-, htarget⟩
    cases htarget
  have hclient : mode.client.step (.conn index action) =
      (mode.client.put index later).apply conn.id index effect := by
    simp only [ProxyClient.step, hconn, hstep, if_neg hended]
  have hruns : mode.runs (.conn index action) = true := rfl
  rw [step, if_pos hruns, hclient] at hnone
  cases effect with
  | emit frame =>
    have hrefused := hresting (.emitFailed index action) trivial
    rw [step, hreceiver, if_neg Bool.false_ne_true] at hrefused
    simp only [refuseFrame, hconn, hstep] at hrefused
    cases hrefused
  | _ => cases hnone

/-- A handler that waits goes on when there is a message or the end of the queue. -/
theorem waiting_of_rests (hphase : conn.phase = .waiting)
    (hrests : ∀ action, action.External = false → action.writesSocket = false →
      conn.step action = none) : conn.inbox.hasSender = true := by
  cases hrecv : conn.inbox.recv with
  | item msg rest =>
    cases msg with
    | data bytes =>
      have htake := hrests .take rfl rfl
      simp only [LocalConn.step, hphase, hrecv] at htake
      cases htake
    | close =>
      have htake := hrests .takeClose rfl rfl
      simp only [LocalConn.step, hphase, hrecv] at htake
      cases htake
  | ended =>
    have hend := hrests .endOfInput rfl rfl
    simp only [LocalConn.step, hphase, hrecv] at hend
    cases hend
  | waiting => exact (Channel.recv_eq_waiting hrecv).2

/-- A write that is going on has a step on its socket. -/
theorem exists_write {rest : Bytes} (hrest : rest ≠ [])
    (hphase : conn.phase = .greeting rest ∨ conn.phase = .delivering rest) :
    ∃ action result, action.External = false ∧ conn.step action = some result := by
  have hcount : 0 < rest.length ∧ rest.length ≤ rest.length :=
    ⟨List.length_pos_of_ne_nil hrest, Nat.le_refl _⟩
  rcases hphase with hphase | hphase
  · refine ⟨.greet rest.length, ?_⟩
    simp only [LocalConn.step, hphase]
    rw [if_pos hcount]
    exact ⟨_, rfl, rfl⟩
  · refine ⟨.deliver rest.length, ?_⟩
    simp only [LocalConn.step, hphase]
    rw [if_pos hcount]
    exact ⟨_, rfl, rfl⟩

/-- Where nothing is withheld, a quiescent connection over a dead link is closed. -/
theorem closed_of_released (hwired : Wired mode) (hwriting : mode.writing = false)
    (hreading : mode.reading = false) (hresting : Resting step (Own stalled) mode)
    (hreleased : Released stalled mode) (hconn : mode.client.conns[index]? = some conn) :
    conn.closed = true := by
  have hrests (action : LocalAction) (hinternal : action.External = false)
      (hsocket : index ∈ stalled → action.writesSocket = false) : conn.step action = none :=
    conn_rests hwired hwriting hreading hresting hconn hinternal hsocket
  have hwrites {rest : Bytes} (hphase : conn.phase = .greeting rest ∨
      conn.phase = .delivering rest) : rest = [] := by
    by_contra hrest
    obtain ⟨action, result, hinternal, hstep⟩ := exists_write hrest hphase
    have hindex : index ∉ stalled := by
      intro hindex
      have hawaits := hreleased.sockets index hindex conn hconn
      unfold LocalConn.awaitsSocket at hawaits
      rcases hphase with hphase | hphase <;> rw [hphase] at hawaits <;> simp [hrest] at hawaits
    rw [hrests action hinternal fun h ↦ absurd h hindex] at hstep
    cases hstep
  cases hphase : conn.phase with
  | parsing buf => exact absurd hphase (hreleased.heads conn (List.mem_of_getElem? hconn) buf)
  | refused | done | abandoned => rw [LocalConn.closed, hphase]
  | opening target forward =>
    have hopening := hrests .openStream rfl fun _ ↦ rfl
    simp only [LocalConn.step, hphase] at hopening
    cases hopening
  | forwarding data =>
    have hforwarding := hrests .forwardHead rfl fun _ ↦ rfl
    simp only [LocalConn.step, hphase] at hforwarding
    cases hforwarding
  | greeting rest =>
    have hgreeted := hrests .greeted rfl fun _ ↦ rfl
    obtain rfl := hwrites (Or.inl hphase)
    rw [LocalConn.step, if_pos hphase] at hgreeted
    cases hgreeted
  | delivering rest =>
    have hdelivered := hrests .delivered rfl fun _ ↦ rfl
    obtain rfl := hwrites (Or.inr hphase)
    rw [LocalConn.step, if_pos hphase] at hdelivered
    cases hdelivered
  | waiting =>
    -- the sender that keeps the handler waiting is the one in the table
    have hsender := waiting_of_rests hphase fun action hinternal hsocket ↦
      hrests action hinternal fun _ ↦ hsocket
    have hreceiver : conn.inbox.hasReceiver = true :=
      (hwired.client.receiver index conn hconn).trans (by rw [LocalConn.holding, hphase])
    have hentered : conn.entered = true := by rw [LocalConn.entered, hphase]
    rcases hwired.client.sender index conn hconn hentered hreceiver hsender with hlookup | hclosing
    · have hgone := hreleased.table conn.id index conn hlookup hconn
      exact absurd (hreceiver.symm.trans hgone) (by simp)
    · rw [hwired.idle hreading] at hclosing
      cases hclosing

/-! ### The mode -/

/-- A closed connection withholds nothing. -/
theorem released_of_closed (hwired : Wired mode) (hserving : mode.serving = false)
    (hclosed : ∀ conn ∈ mode.client.conns, conn.closed = true) : Released stalled mode where
  token := hwired.token hserving
  heads conn hmem buf hphase := by
    have hover := hclosed conn hmem
    rw [LocalConn.closed, hphase] at hover
    cases hover
  sockets index _ conn hconn := by
    have hover := hclosed conn (List.mem_of_getElem? hconn)
    unfold LocalConn.closed at hover
    unfold LocalConn.awaitsSocket
    cases hphase : conn.phase <;> simp [hphase] at hover ⊢
  table id index conn hlookup hconn := by
    obtain ⟨other, hother, hentered⟩ := hwired.client.table id index hlookup
    obtain rfl := Option.some.inj (hconn.symm.trans hother)
    have hover := hclosed conn (List.mem_of_getElem? hconn)
    rw [hwired.client.receiver index conn hconn]
    unfold LocalConn.closed at hover
    unfold LocalConn.entered at hentered
    unfold LocalConn.holding
    cases hphase : conn.phase <;> simp [hphase] at hover hentered ⊢

/-- In every reachable quiescent state in which the reader loop and the writer loop have returned,
whatever ended them and whichever sockets take nothing: the accept loop has returned and every
connection is closed if and only if the token is set, no application withholds its request head or a
write, and the `StreamMap` has no sender to a handler that still receives. -/
theorem ended_iff_released {actions : List HttpAction} (stalled : Set ℕ)
    (hrun : run step .start actions = some mode) (hwriting : mode.writing = false)
    (hreading : mode.reading = false) (hresting : Resting step (Own stalled) mode) :
    (mode.serving = false ∧ ∀ conn ∈ mode.client.conns, conn.closed = true) ↔
      Released stalled mode := by
  have hwired := wired_of_run hrun
  constructor
  · rintro ⟨hserving, hclosed⟩
    exact released_of_closed hwired hserving hclosed
  · intro hreleased
    refine ⟨Bool.eq_false_iff.mpr fun hserving ↦ ?_, fun conn hmem ↦ ?_⟩
    · have hmain := hresting .mainCancelled trivial
      rw [step, if_pos ⟨hserving, hreleased.token⟩] at hmain
      cases hmain
    · obtain ⟨index, hconn⟩ := List.mem_iff_getElem?.mp hmem
      exact closed_of_released hwired hwriting hreading hresting hreleased hconn

/-- The accept loop runs as long as the user does not cancel, whatever becomes of the link. -/
theorem serving_of_run {actions : List HttpAction} (hrun : run step .start actions = some mode)
    (hcancel : .cancel ∉ actions) : mode.serving = true := by
  have hnever : ∀ action ∈ actions, action ≠ .cancel := fun action hmem hcancelled ↦
    hcancel (hcancelled ▸ hmem)
  have htoken : mode.cancelled = false := by
    refine kept_of_run (fun mode : HttpMode ↦ mode.cancelled = false) ?_ hnever hrun rfl
    intro before action after htoken hother hstep
    cases stepped_of_step hstep with
    | cancel => exact absurd rfl hother
    | _ => exact htoken
  refine Bool.eq_true_of_not_eq_false fun hserving ↦ ?_
  exact absurd (htoken.symm.trans ((wired_of_run hrun).token hserving)) (by simp)

/-- A connection that is closed, and whose uplink task was aborted, takes no step of its own. -/
theorem external_of_closed {action : LocalAction} {later : LocalConn} {effect : LocalEffect}
    (hclosed : conn.closed = true) (huplink : conn.uplink = .aborted)
    (hstep : conn.Stepped action later effect) : action.External = true ∧ effect = .none := by
  unfold LocalConn.closed at hclosed
  cases hstep with
  | upRead count hrunning | upEof hrunning | upFailed hrunning | upSend data hrunning
  | upClose hrunning =>
    rw [huplink] at hrunning
    cases hrunning
  | localSends | localCloses | localResets => exact ⟨rfl, rfl⟩
  | _ => simp [*] at hclosed

/-- Where every connection is closed a mode over a dead link rests, unless its accept loop sees the
token. -/
theorem resting_of_closed (hwired : Wired mode)
    (hconns : ∀ conn ∈ mode.client.conns, conn.closed = true ∧ conn.uplink = .aborted)
    (hwriting : mode.writing = false) (hreading : mode.reading = false)
    (hmain : mode.serving = true → mode.cancelled = false) : Resting step (Own stalled) mode := by
  intro action hown
  by_contra hsome
  obtain ⟨next, hstep⟩ := Option.ne_none_iff_exists'.mp hsome
  cases stepped_of_step hstep with
  | cancel => exact hown
  | emitFailed index action conn later frame hreceiver hconn hconnStep =>
    obtain ⟨hclosed, huplink⟩ := hconns conn (List.mem_of_getElem? hconn)
    cases (external_of_closed hclosed huplink hconnStep).2
  | pongFailed hponging =>
    rw [hwired.idle hreading] at hponging
    cases hponging
  | writerEnded action haction hrunning => exact absurd (hwriting.symm.trans hrunning) (by simp)
  | readerEnded action haction hrunning => exact absurd (hreading.symm.trans hrunning) (by simp)
  | mainCancelled hserving hcancelled =>
    exact absurd ((hmain hserving).symm.trans hcancelled) (by simp)
  | client action client hruns hclient =>
    cases action with
    | conn index action =>
      obtain ⟨conn, later, effect, hconn, hconnStep, -⟩ := ProxyClient.step_conn hclient
      obtain ⟨hclosed, huplink⟩ := hconns conn (List.mem_of_getElem? hconn)
      have hexternal := (external_of_closed hclosed huplink hconnStep).1
      exact absurd (hown.1.symm.trans hexternal) (by simp)
    | send => exact absurd (hwriting.symm.trans hruns) (by simp)
    | hand | pong => exact absurd (hreading.symm.trans hruns) (by simp)
    | _ => exact hown

/-- An application sends a request, and the server opens the stream and closes it again. Then the
link fails under both loops and the user cancels. -/
def servedRun : List HttpAction :=
  [.client .accept, .client (.conn 0 (.localSends plainHead)), .client (.conn 0 (.read 26)),
    .client (.conn 0 .openStream), .client (.conn 0 .forwardHead),
    .client (.receive (.streamClose 1 none)), .client .hand, .client (.conn 0 .takeClose),
    .readerFailed, .writerFailed, .cancel, .mainCancelled]

/-- After the link is gone and the user has cancelled, a mode whose one connection was served is
over. -/
theorem ended_iff_released_cancelled : ∃ mode conn,
    run step .start servedRun = some mode ∧ mode.client.conns = [conn] ∧ Released ∅ mode := by
  obtain ⟨mode, hrun, hstate⟩ := Option.any_eq_true _ _ |>.mp (by decide +kernel :
    (run step .start servedRun).any fun mode ↦
      mode.client.conns.length = 1 ∧
        (∀ conn ∈ mode.client.conns, conn.closed = true ∧ conn.uplink = .aborted) ∧
        mode.writing = false ∧ mode.reading = false ∧ mode.serving = false)
  rw [decide_eq_true_iff] at hstate
  obtain ⟨hlength, hconns, hwriting, hreading, hserving⟩ := hstate
  obtain ⟨conn, hconn⟩ := List.length_eq_one_iff.mp hlength
  have hresting : Resting step (Own ∅) mode :=
    resting_of_closed (wired_of_run hrun) hconns hwriting hreading fun h ↦
      absurd (h.symm.trans hserving) (by simp)
  exact ⟨mode, conn, hrun, hconn, (ended_iff_released ∅ hrun hwriting hreading hresting).mp
    ⟨hserving, fun conn hmem ↦ (hconns conn hmem).1⟩⟩

/-- When the link fails under both loops, nothing moves any more and the mode goes on. -/
theorem serving_over_dead_link :
    ¬ ∀ (stalled : Set ℕ) (actions : List HttpAction) (mode : HttpMode),
      run step .start actions = some mode → mode.writing = false → mode.reading = false →
        Resting step (Own stalled) mode →
          mode.serving = false ∧ ∀ conn ∈ mode.client.conns, conn.closed = true := by
  intro hclaim
  obtain ⟨mode, hrun, hstate⟩ := Option.any_eq_true _ _ |>.mp (by decide +kernel :
    (run step .start [.readerFailed, .writerFailed]).any fun mode ↦
      (∀ conn ∈ mode.client.conns, conn.closed = true ∧ conn.uplink = .aborted) ∧
        mode.writing = false ∧ mode.reading = false ∧ mode.serving = true ∧
        mode.cancelled = false)
  rw [decide_eq_true_iff] at hstate
  obtain ⟨hconns, hwriting, hreading, hserving, htoken⟩ := hstate
  have hresting : Resting step (Own ∅) mode :=
    resting_of_closed (wired_of_run hrun) hconns hwriting hreading fun _ ↦ htoken
  have hended := (hclaim ∅ _ mode hrun hwriting hreading hresting).1
  exact absurd (hserving.symm.trans hended) (by simp)

end EntroTunnel.Client.HttpMode
