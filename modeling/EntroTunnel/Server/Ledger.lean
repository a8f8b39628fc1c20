import EntroTunnel.Foundation.Sums
import EntroTunnel.Server.HandshakeGate

/-!
# Traffic accounts

How `handle_connection` and its writer task count traffic. A payload is added to a counter of the
session and then to one of the server: by the reader loop when it has come in, by the writer task
when it has been sent. A handler whose reader loop has ended takes the session out of the router,
aborts the writer task, reads the two counters of the session, and folds what it has read into the
totals of the peer. An abort takes effect only when the writer task waits, so a frame that is on its
way out may be counted at any time after it.

The counters of the code are of 64 bits and wrap. Here they are natural numbers, whose value the
code has as long as it stays below `2 ^ 64`, and modulo `2 ^ 64` after that.

`Account` is this part of one connection, and `Ledger` the server with the accounts of all its
connections; `received` and `sent` record the payload that was transferred. `Ledger.Sound` says what
the counters owe to each other in every state of every run.
-/

set_option autoImplicit false
set_option relaxedAutoImplicit false

namespace EntroTunnel.Server

open EntroTunnel.Core EntroTunnel.Foundation

/-! ### One connection -/

/-- Where a handler is: before its `Welcome` or unable to send it, in its reader loop, or at the
end, with the counters that it has read. -/
inductive Handler
  | joining
  | dropped
  | waiting
  | took (frame : Frame)
  | counted (frame : Frame)
  | totalled (frame : Frame)
  | aborted
  | loadedUp (up : ℕ)
  | loadedDown (up down : ℕ)
  | folded (up down : ℕ)
  deriving DecidableEq, Repr

/-- Where a writer task is: it has sent a payload, and has counted it for the session. -/
inductive Writer
  | waiting
  | sent (bytes : ℕ)
  | counted (bytes : ℕ)
  deriving DecidableEq, Repr

namespace Handler

/-- The reader loop and the writer task have been started. -/
def serves : Handler → Bool
  | .joining | .dropped => false
  | _ => true

/-- The reader loop is over. -/
def closing : Handler → Bool
  | .aborted | .loadedUp _ | .loadedDown _ _ | .folded _ _ => true
  | _ => false

/-- The counter of what was sent has been read. -/
def hasRead : Handler → Bool
  | .loadedDown _ _ | .folded _ _ => true
  | _ => false

/-- Bytes that have come in and are not counted. -/
def uncounted : Handler → ℕ
  | .took frame => countedBytes (some frame)
  | _ => 0

/-- Bytes that are counted for the session, but not for the server. -/
def pending : Handler → ℕ
  | .counted frame => countedBytes (some frame)
  | _ => 0

/-- What was folded into the totals of the peer. -/
def foldedUp : Handler → ℕ
  | .folded up _ => up
  | _ => 0

def foldedDown : Handler → ℕ
  | .folded _ down => down
  | _ => 0

/-- What the handler has read is what came in, and no more than what is counted as sent. -/
def ReadFrom (up down : ℕ) : Handler → Prop
  | .loadedUp readUp => readUp = up
  | .loadedDown readUp readDown | .folded readUp readDown => readUp = up ∧ readDown ≤ down
  | _ => True

theorem ReadFrom.mono {handler : Handler} {up down more : ℕ} (hread : handler.ReadFrom up down)
    (hmore : down ≤ more) : handler.ReadFrom up more := by
  cases handler with
  | loadedUp readUp => exact hread
  | loadedDown readUp readDown | folded readUp readDown => exact ⟨hread.1, hread.2.trans hmore⟩
  | _ => trivial

end Handler

namespace Writer

/-- The writer task has sent a frame. One without payload is not counted. -/
def afterSend (bytes : ℕ) : Writer :=
  if bytes = 0 then .waiting else .sent bytes

/-- Bytes that were sent and are not counted. -/
def uncounted : Writer → ℕ
  | .sent bytes => bytes
  | _ => 0

/-- Bytes that are counted for the session, but not for the server. -/
def pending : Writer → ℕ
  | .counted bytes => bytes
  | _ => 0

@[simp] theorem uncounted_afterSend (bytes : ℕ) : (afterSend bytes).uncounted = bytes := by
  unfold afterSend
  split_ifs with hzero
  · exact hzero.symm
  · rfl

@[simp] theorem pending_afterSend (bytes : ℕ) : (afterSend bytes).pending = 0 := by
  unfold afterSend
  split_ifs <;> rfl

end Writer

/-- The account of a connection. -/
structure Account where
  token : String
  handler : Handler
  writer : Writer
  up : ℕ
  down : ℕ
  received : ℕ
  sent : ℕ
  deriving DecidableEq, Repr

/-- A step of the handler or of the writer task of a connection. -/
inductive AccountAction
  | welcome (sent : Bool)
  | arrive (frame : Frame)
  | addUp
  | addTotalUp
  | handle (peers : List PeerInfo)
  | disconnect
  | send (frame : Frame)
  | addDown
  | addTotalDown
  | sendFailed
  | abort
  | loadUp
  | loadDown
  | fold
  | stop
  deriving DecidableEq, Repr

namespace Account

/-- The account of a connection that is admitted. -/
def start (token : String) : Account where
  token := token
  handler := .joining
  writer := .waiting
  up := 0
  down := 0
  received := 0
  sent := 0

/-- One step. A frame without payload adds nothing. -/
def step (account : Account) : AccountAction → Option Account
  | .welcome sent =>
    match account.handler with
    | .joining => some { account with handler := if sent then .waiting else .dropped }
    | _ => none
  | .arrive frame =>
    match account.handler with
    | .waiting => some { account with
        handler := .took frame
        received := account.received + countedBytes (some frame) }
    | _ => none
  | .addUp =>
    match account.handler with
    | .took frame => some { account with
        handler := .counted frame
        up := account.up + countedBytes (some frame) }
    | _ => none
  | .addTotalUp =>
    match account.handler with
    | .counted frame => some { account with handler := .totalled frame }
    | _ => none
  | .handle _ =>
    match account.handler with
    | .totalled _ => some { account with handler := .waiting }
    | _ => none
  | .disconnect =>
    match account.handler with
    | .waiting => some account
    | _ => none
  | .send frame =>
    match account.writer with
    | .waiting =>
      if account.handler.serves then
        some { account with
          writer := .afterSend (countedBytes (some frame))
          sent := account.sent + countedBytes (some frame) }
      else none
    | _ => none
  | .addDown =>
    match account.writer with
    | .sent bytes => some { account with
        writer := .counted bytes
        down := account.down + bytes }
    | _ => none
  | .addTotalDown =>
    match account.writer with
    | .counted _ => some { account with writer := .waiting }
    | _ => none
  | .sendFailed =>
    match account.writer with
    | .waiting => if account.handler.serves then some account else none
    | _ => none
  | .abort =>
    match account.handler with
    | .waiting => some { account with handler := .aborted }
    | _ => none
  | .loadUp =>
    match account.handler with
    | .aborted => some { account with handler := .loadedUp account.up }
    | _ => none
  | .loadDown =>
    match account.handler with
    | .loadedUp up => some { account with handler := .loadedDown up account.down }
    | _ => none
  | .fold =>
    match account.handler with
    | .loadedDown up down => some { account with handler := .folded up down }
    | _ => none
  | .stop =>
    match account.writer with
    | .waiting =>
      if account.handler = .dropped ∨ account.handler.closing then some account else none
    | _ => none

/-- What a step does to the metrics. -/
def metricsAfter (account : Account) (connection : Connection) (metrics : Metrics) :
    AccountAction → Metrics
  | .addTotalUp =>
    match account.handler with
    | .counted frame => metrics.add (countedBytes (some frame)) 0
    | _ => metrics
  | .addTotalDown =>
    match account.writer with
    | .counted bytes => metrics.add 0 bytes
    | _ => metrics
  | .fold =>
    match account.handler with
    | .loadedDown up down =>
      metrics.foldSession connection.session.peer connection.session.hello.mode up down
    | _ => metrics
  | _ => metrics

/-- What a step needs of the connection, and what it does to the server. -/
def appAfter (account : Account) (app : AppState) (index : ℕ) (connection : Connection) :
    AccountAction → Option AppState
  | .welcome sent => app.step (.sendWelcome index sent)
  | .arrive _ => if connection.phase = .established then some app else none
  | .handle peers =>
    match account.handler with
    | .totalled frame => app.step (.session index (.receive frame peers))
    | _ => none
  | .disconnect => app.step (.session index .disconnect)
  | .send frame =>
    match connection.session.outbox.recv with
    | .item next _ => if next = frame then app.step (.session index .send) else none
    | _ => none
  | .sendFailed => app.step (.session index .sendFailed)
  | .abort => if connection.phase = .unregistered then some app else none
  | .stop => app.step (.session index .shutdown)
  | .addUp | .addTotalUp | .addDown | .addTotalDown | .loadUp | .loadDown | .fold => some app

/-- What the counters of one connection owe to its traffic: what is transferred is counted, or about
to be; what the handler has read at its end is no more than was counted; and nothing is counted
before the `Welcome`. -/
structure Sound (account : Account) : Prop where
  received : account.received = account.up + account.handler.uncounted
  sent : account.sent = account.down + account.writer.uncounted
  read : account.handler.ReadFrom account.up account.down
  idle : account.handler.serves = false → account.writer = .waiting ∧ account.up = 0 ∧
    account.down = 0

theorem sound_start (token : String) : (start token).Sound :=
  ⟨rfl, rfl, trivial, fun _ ↦ ⟨rfl, rfl, rfl⟩⟩

/-- What a step can do. -/
inductive Stepped (account : Account) : AccountAction → Account → Prop
  | welcomed (hhandler : account.handler = .joining) :
    Stepped account (.welcome true) { account with handler := .waiting }
  | dropped (hhandler : account.handler = .joining) :
    Stepped account (.welcome false) { account with handler := .dropped }
  | arrive (frame : Frame) (hhandler : account.handler = .waiting) :
    Stepped account (.arrive frame) { account with
      handler := .took frame
      received := account.received + countedBytes (some frame) }
  | addUp (frame : Frame) (hhandler : account.handler = .took frame) :
    Stepped account .addUp { account with
      handler := .counted frame
      up := account.up + countedBytes (some frame) }
  | addTotalUp (frame : Frame) (hhandler : account.handler = .counted frame) :
    Stepped account .addTotalUp { account with handler := .totalled frame }
  | handle (peers : List PeerInfo) (frame : Frame) (hhandler : account.handler = .totalled frame) :
    Stepped account (.handle peers) { account with handler := .waiting }
  | disconnect (hhandler : account.handler = .waiting) : Stepped account .disconnect account
  | send (frame : Frame) (hwriter : account.writer = .waiting)
    (hserves : account.handler.serves = true) :
    Stepped account (.send frame) { account with
      writer := .afterSend (countedBytes (some frame))
      sent := account.sent + countedBytes (some frame) }
  | addDown (bytes : ℕ) (hwriter : account.writer = .sent bytes) :
    Stepped account .addDown { account with
      writer := .counted bytes
      down := account.down + bytes }
  | addTotalDown (bytes : ℕ) (hwriter : account.writer = .counted bytes) :
    Stepped account .addTotalDown { account with writer := .waiting }
  | sendFailed (hwriter : account.writer = .waiting) : Stepped account .sendFailed account
  | abort (hhandler : account.handler = .waiting) :
    Stepped account .abort { account with handler := .aborted }
  | loadUp (hhandler : account.handler = .aborted) :
    Stepped account .loadUp { account with handler := .loadedUp account.up }
  | loadDown (up : ℕ) (hhandler : account.handler = .loadedUp up) :
    Stepped account .loadDown { account with handler := .loadedDown up account.down }
  | fold (up down : ℕ) (hhandler : account.handler = .loadedDown up down) :
    Stepped account .fold { account with handler := .folded up down }
  | stop (hwriter : account.writer = .waiting) : Stepped account .stop account

variable {account next : Account} {action : AccountAction}

theorem stepped_of_step (hstep : account.step action = some next) :
    account.Stepped action next := by
  cases action <;> simp only [step] at hstep
  case welcome sent =>
    split at hstep <;> cases hstep
    cases sent with
    | true => exact .welcomed ‹_›
    | false => exact .dropped ‹_›
  case arrive frame =>
    split at hstep <;> cases hstep
    exact .arrive frame ‹_›
  case addUp =>
    split at hstep <;> cases hstep
    exact .addUp _ ‹_›
  case addTotalUp =>
    split at hstep <;> cases hstep
    exact .addTotalUp _ ‹_›
  case handle peers =>
    split at hstep <;> cases hstep
    exact .handle peers _ ‹_›
  case disconnect =>
    split at hstep <;> cases hstep
    exact .disconnect ‹_›
  case send frame =>
    split at hstep
    · split_ifs at hstep with hserves
      cases hstep
      exact .send frame ‹_› hserves
    · cases hstep
  case addDown =>
    split at hstep <;> cases hstep
    exact .addDown _ ‹_›
  case addTotalDown =>
    split at hstep <;> cases hstep
    exact .addTotalDown _ ‹_›
  case sendFailed =>
    split at hstep
    · split_ifs at hstep
      cases hstep
      exact .sendFailed ‹_›
    · cases hstep
  case abort =>
    split at hstep <;> cases hstep
    exact .abort ‹_›
  case loadUp =>
    split at hstep <;> cases hstep
    exact .loadUp ‹_›
  case loadDown =>
    split at hstep <;> cases hstep
    exact .loadDown _ ‹_›
  case fold =>
    split at hstep <;> cases hstep
    exact .fold _ _ ‹_›
  case stop =>
    split at hstep
    · split_ifs at hstep
      cases hstep
      exact .stop ‹_›
    · cases hstep

/-- Counters and traffic never decrease, and an account keeps its token. -/
structure Grows (account after : Account) : Prop where
  token : after.token = account.token
  up : account.up ≤ after.up
  down : account.down ≤ after.down
  received : account.received ≤ after.received
  sent : account.sent ≤ after.sent

theorem Grows.refl (account : Account) : account.Grows account :=
  ⟨rfl, le_rfl, le_rfl, le_rfl, le_rfl⟩

theorem Stepped.grows (hstep : account.Stepped action next) : account.Grows next := by
  cases hstep with
  | arrive frame hhandler => exact ⟨rfl, le_rfl, le_rfl, Nat.le_add_right _ _, le_rfl⟩
  | addUp frame hhandler => exact ⟨rfl, Nat.le_add_right _ _, le_rfl, le_rfl, le_rfl⟩
  | send frame hwriter hserves => exact ⟨rfl, le_rfl, le_rfl, le_rfl, Nat.le_add_right _ _⟩
  | addDown bytes hwriter => exact ⟨rfl, le_rfl, Nat.le_add_right _ _, le_rfl, le_rfl⟩
  | _ => exact ⟨rfl, le_rfl, le_rfl, le_rfl, le_rfl⟩

/-- A step that leaves the counters alone and neither takes in nor sends anything. -/
theorem Sound.of_handler (hsound : account.Sound) {handler : Handler}
    (huncounted : handler.uncounted = account.handler.uncounted)
    (hread : handler.ReadFrom account.up account.down)
    (hserves : handler.serves = false → account.handler.serves = false) :
    { account with handler }.Sound :=
  ⟨by rw [hsound.received, huncounted], hsound.sent, hread, fun h ↦ hsound.idle (hserves h)⟩

theorem Sound.step (hsound : account.Sound) (hstep : account.Stepped action next) :
    next.Sound := by
  cases hstep with
  | disconnect | sendFailed | stop => exact hsound
  | welcomed hhandler =>
    exact hsound.of_handler (by rw [hhandler]; rfl) trivial fun h ↦ nomatch h
  | dropped hhandler =>
    exact hsound.of_handler (by rw [hhandler]; rfl) trivial fun _ ↦ by rw [hhandler]; rfl
  | addTotalUp frame hhandler | handle peers frame hhandler | abort hhandler =>
    exact hsound.of_handler (by rw [hhandler]; rfl) trivial fun h ↦ nomatch h
  | loadUp hhandler =>
    exact hsound.of_handler (by rw [hhandler]; rfl) rfl fun h ↦ nomatch h
  | loadDown up hhandler =>
    have hread := hsound.read
    rw [hhandler] at hread
    exact hsound.of_handler (by rw [hhandler]; rfl) ⟨hread, le_rfl⟩ fun h ↦ nomatch h
  | fold up down hhandler =>
    have hread := hsound.read
    rw [hhandler] at hread
    exact hsound.of_handler (by rw [hhandler]; rfl) hread fun h ↦ nomatch h
  | arrive frame hhandler =>
    have hreceived : account.received = account.up := by
      rw [hsound.received, hhandler]
      rfl
    exact ⟨by rw [hreceived]; rfl, hsound.sent, trivial, fun h ↦ nomatch h⟩
  | addUp frame hhandler =>
    have hreceived := hsound.received
    rw [hhandler] at hreceived
    exact ⟨hreceived, hsound.sent, trivial, fun h ↦ nomatch h⟩
  | send frame hwriter hserves =>
    have hsent : account.sent = account.down := by
      rw [hsound.sent, hwriter]
      rfl
    refine ⟨hsound.received, ?_, hsound.read, fun h ↦ absurd (hserves.symm.trans h) (by decide)⟩
    rw [Writer.uncounted_afterSend, hsent]
  | addDown bytes hwriter =>
    have hsent := hsound.sent
    rw [hwriter] at hsent
    refine ⟨hsound.received, hsent, hsound.read.mono (Nat.le_add_right _ _), fun h ↦ ?_⟩
    exact absurd ((hsound.idle h).1.symm.trans hwriter) (by simp)
  | addTotalDown bytes hwriter =>
    have hsent := hsound.sent
    rw [hwriter] at hsent
    refine ⟨hsound.received, hsent, hsound.read, fun h ↦ ?_⟩
    exact absurd ((hsound.idle h).1.symm.trans hwriter) (by simp)

/-- The server counts what the session has counted. -/
theorem Stepped.totals (hstep : account.Stepped action next) (connection : Connection)
    (metrics : Metrics) :
    (account.metricsAfter connection metrics action).totalUp + next.handler.pending + account.up =
        metrics.totalUp + account.handler.pending + next.up ∧
      (account.metricsAfter connection metrics action).totalDown + next.writer.pending +
        account.down = metrics.totalDown + account.writer.pending + next.down := by
  have hkept : ∀ {handler : Handler}, handler.pending = account.handler.pending →
      metrics.totalUp + handler.pending + account.up =
          metrics.totalUp + account.handler.pending + account.up ∧
        metrics.totalDown + account.writer.pending + account.down =
          metrics.totalDown + account.writer.pending + account.down := by
    intro handler hpending
    exact ⟨by rw [hpending], rfl⟩
  cases hstep with
  | disconnect | sendFailed | stop => exact ⟨rfl, rfl⟩
  | welcomed hhandler | dropped hhandler | arrive _ hhandler | handle _ _ hhandler
  | abort hhandler | loadUp hhandler | loadDown _ hhandler =>
    exact hkept (by rw [hhandler]; rfl)
  | addUp frame hhandler =>
    refine ⟨?_, rfl⟩
    simp only [metricsAfter, hhandler, Handler.pending]
    omega
  | addTotalUp frame hhandler =>
    refine ⟨?_, ?_⟩ <;> simp only [metricsAfter, hhandler, Handler.pending, Metrics.add] <;> omega
  | send frame hwriter hserves =>
    refine ⟨rfl, ?_⟩
    rw [Writer.pending_afterSend, hwriter]
    rfl
  | addDown bytes hwriter =>
    refine ⟨rfl, ?_⟩
    simp only [metricsAfter, hwriter, Writer.pending]
    omega
  | addTotalDown bytes hwriter =>
    refine ⟨?_, ?_⟩ <;> simp only [metricsAfter, hwriter, Writer.pending, Metrics.add] <;> omega
  | fold up down hhandler =>
    simp [metricsAfter, hhandler, Handler.pending, Metrics.foldSession]

end Account

/-! ### The totals of the peers -/

/-- The sum of the totals of the peers whose token passes a test. -/
def foldedFor (keep : String → Bool) (amount : PeerAgg → ℕ)
    (agg : AList fun _ : String ↦ PeerAgg) : ℕ :=
  (agg.entries.map fun entry ↦ if keep entry.1 then amount entry.2 else 0).sum

/-- The total of a peer is part of the sum. -/
theorem le_foldedFor {amount : PeerAgg → ℕ} {agg : AList fun _ : String ↦ PeerAgg} {token : String}
    {total : PeerAgg} (hlookup : agg.lookup token = some total) :
    amount total ≤ foldedFor (fun other ↦ other = token) amount agg := by
  have hmem := AList.mem_lookup_iff.mp (Option.mem_def.mpr hlookup)
  have hle := List.le_sum_of_mem (List.mem_map_of_mem (f := fun entry : (Σ _ : String, PeerAgg) ↦
    if decide (entry.1 = token) then amount entry.2 else 0) hmem)
  rwa [if_pos (decide_eq_true rfl)] at hle

/-- What a session adds to the sum when it is folded. -/
theorem foldedFor_foldSession (keep : String → Bool) {amount : PeerAgg → ℕ} (metrics : Metrics)
    (peer : PeerConfig) (mode : SessionMode) {up down more : ℕ}
    (hmore : ∀ old : Option PeerAgg, amount
      { name := peer.name
        ip := peer.ip
        mode := mode
        up := (old.map PeerAgg.up).getD 0 + up
        down := (old.map PeerAgg.down).getD 0 + down } = (old.map amount).getD 0 + more) :
    foldedFor keep amount (metrics.foldSession peer mode up down).agg =
      foldedFor keep amount metrics.agg + if keep peer.token then more else 0 := by
  have hsum := sum_insert (fun entry : (Σ _ : String, PeerAgg) ↦
    if keep entry.1 then amount entry.2 else 0) metrics.agg peer.token
    { name := peer.name
      ip := peer.ip
      mode := mode
      up := ((metrics.agg.lookup peer.token).map PeerAgg.up).getD 0 + up
      down := ((metrics.agg.lookup peer.token).map PeerAgg.down).getD 0 + down }
  rw [hmore] at hsum
  simp only [foldedFor, Metrics.foldSession]
  cases hlookup : metrics.agg.lookup peer.token with
  | none =>
    simp only [hlookup, Option.map_none, Option.getD_none, Nat.zero_add, Nat.add_zero] at hsum ⊢
    exact hsum
  | some old =>
    simp only [hlookup, Option.map_some, Option.getD_some] at hsum ⊢
    split_ifs at hsum ⊢ <;> omega

theorem Account.Stepped.folds {account next : Account} {action : AccountAction}
    (hstep : account.Stepped action next) (keep : String → Bool) {connection : Connection}
    (htoken : connection.session.peer.token = account.token) (metrics : Metrics) :
    foldedFor keep PeerAgg.up (account.metricsAfter connection metrics action).agg +
          (if keep account.token then account.handler.foldedUp else 0) =
        foldedFor keep PeerAgg.up metrics.agg +
          (if keep next.token then next.handler.foldedUp else 0) ∧
      foldedFor keep PeerAgg.down (account.metricsAfter connection metrics action).agg +
          (if keep account.token then account.handler.foldedDown else 0) =
        foldedFor keep PeerAgg.down metrics.agg +
          (if keep next.token then next.handler.foldedDown else 0) := by
  cases hstep with
  | fold up down hhandler =>
    simp only [Account.metricsAfter, hhandler, Handler.foldedUp, Handler.foldedDown, ite_self,
      Nat.add_zero]
    rw [foldedFor_foldSession keep metrics _ _ fun _ ↦ rfl,
      foldedFor_foldSession keep metrics _ _ fun _ ↦ rfl, htoken]
    exact ⟨rfl, rfl⟩
  | welcomed hhandler | dropped hhandler | arrive _ hhandler | addUp _ hhandler
  | addTotalUp _ hhandler | handle _ _ hhandler | abort hhandler | loadUp hhandler
  | loadDown _ hhandler =>
    simp only [Account.metricsAfter, hhandler]
    exact ⟨rfl, rfl⟩
  | addTotalDown bytes hwriter =>
    simp only [Account.metricsAfter, hwriter]
    exact ⟨rfl, rfl⟩
  | _ => exact ⟨rfl, rfl⟩

/-! ### All connections -/

/-- The server with the accounts of its connections, in the order of the connections. -/
structure Ledger where
  app : AppState
  metrics : Metrics
  accounts : List Account

/-- A connection is made, a handler or its writer task goes on, or something else in the server. -/
inductive LedgerAction
  | connect (first : Option Frame)
  | account (index : ℕ) (action : AccountAction)
  | task (action : ServerAction)

namespace Ledger

def start (config : ServerConfig) (ipv6 hasTun : Bool) : Ledger :=
  { app := .start config ipv6 hasTun, metrics := .new, accounts := [] }

/-- The steps of the server that do not belong to an account. -/
def isTask : ServerAction → Bool
  | .reconfigure _ | .assign _ _ | .insert6 _ | .insert4 _ | .remove4 _ | .remove6 _
  | .tunPacket _ | .session _ (.remote _ _) | .session _ .delivered => true
  | _ => false

/-- One step. -/
def step (ledger : Ledger) : LedgerAction → Option Ledger
  | .connect first =>
    (ledger.app.step (.connect first)).map fun app ↦
      match admission ledger.app.config first with
      | .accepted peer _ => { ledger with app, accounts := ledger.accounts ++ [.start peer.token] }
      | _ => { ledger with app }
  | .account index action =>
    match ledger.accounts[index]?, ledger.app.connections[index]? with
    | some account, some connection =>
      (account.step action).bind fun next ↦
        (account.appAfter ledger.app index connection action).map fun app ↦
          { app
            metrics := account.metricsAfter connection ledger.metrics action
            accounts := ledger.accounts.set index next }
    | _, _ => none
  | .task action =>
    if isTask action then (ledger.app.step action).map fun app ↦ { ledger with app } else none

/-- The server makes a step of its own, or none. -/
def Moves (app next : AppState) : Prop :=
  next = app ∨ ∃ action, (∀ first, action ≠ .connect first) ∧ app.Stepped action next

/-- What a step can do. -/
inductive Stepped (ledger : Ledger) : LedgerAction → Ledger → Prop
  | accepted (first : Option Frame) (peer : PeerConfig) (hello : Hello)
    (haccepted : admission ledger.app.config first = .accepted peer hello) :
    Stepped ledger (.connect first)
      { ledger with
        app := { ledger.app with connections := ledger.app.connections ++
          [⟨.admitted, none, .start peer hello ledger.app.hasTun⟩] }
        accounts := ledger.accounts ++ [.start peer.token] }
  | refused (first : Option Frame) : Stepped ledger (.connect first) ledger
  | account (index : ℕ) (action : AccountAction) (account next : Account)
    (connection : Connection) (app : AppState)
    (haccount : ledger.accounts[index]? = some account)
    (hconnection : ledger.app.connections[index]? = some connection)
    (hstep : account.Stepped action next)
    (happ : account.appAfter ledger.app index connection action = some app) :
    Stepped ledger (.account index action)
      { app
        metrics := account.metricsAfter connection ledger.metrics action
        accounts := ledger.accounts.set index next }
  | task (action : ServerAction) (app : AppState) (htask : isTask action = true)
    (happ : ledger.app.Stepped action app) :
    Stepped ledger (.task action) { ledger with app }

variable {ledger next : Ledger}

theorem stepped_of_step {action : LedgerAction} (hstep : ledger.step action = some next) :
    ledger.Stepped action next := by
  cases action with
  | connect first =>
    obtain ⟨app, happ, rfl⟩ := Option.map_eq_some_iff.mp hstep
    cases hadmission : admission ledger.app.config first with
    | accepted peer hello =>
      simp only [AppState.step, hadmission, Option.some.injEq] at happ
      subst happ
      exact .accepted first peer hello hadmission
    | closed | rejected =>
      simp only [AppState.step, hadmission, Option.some.injEq] at happ
      subst happ
      exact .refused first
  | account index action =>
    simp only [step] at hstep
    split at hstep
    · rename_i account connection haccount hconnection
      obtain ⟨after, hafter, hmap⟩ := Option.bind_eq_some_iff.mp hstep
      obtain ⟨app, happ, rfl⟩ := Option.map_eq_some_iff.mp hmap
      exact .account index action account after connection app haccount hconnection
        (Account.stepped_of_step hafter) happ
    · cases hstep
  | task action =>
    simp only [step] at hstep
    split_ifs at hstep with htask
    obtain ⟨app, happ, rfl⟩ := Option.map_eq_some_iff.mp hstep
    exact .task action app htask (AppState.stepped_of_step happ)

/-- A step of an account is at most one step of the server, and no new connection. -/
theorem moves_of_appAfter {account : Account} {app after : AppState} {index : ℕ}
    {connection : Connection} {action : AccountAction}
    (happ : account.appAfter app index connection action = some after) : Moves app after := by
  have hstep : ∀ action : ServerAction, (∀ first, action ≠ .connect first) →
      app.step action = some after → Moves app after :=
    fun action hcall hstep ↦ Or.inr ⟨action, hcall, AppState.stepped_of_step hstep⟩
  cases action with
  | welcome sent => exact hstep (.sendWelcome index sent) (by simp) happ
  | disconnect => exact hstep (.session index .disconnect) (by simp) happ
  | sendFailed => exact hstep (.session index .sendFailed) (by simp) happ
  | stop => exact hstep (.session index .shutdown) (by simp) happ
  | handle peers =>
    simp only [Account.appAfter] at happ
    split at happ
    · exact hstep _ (by simp) happ
    · cases happ
  | send frame =>
    simp only [Account.appAfter] at happ
    split at happ
    · split_ifs at happ
      exact hstep _ (by simp) happ
    · cases happ
  | arrive frame | abort =>
    simp only [Account.appAfter] at happ
    split_ifs at happ
    exact Or.inl (Option.some.inj happ).symm
  | addUp | addTotalUp | addDown | addTotalDown | loadUp | loadDown | fold =>
    exact Or.inl (Option.some.inj happ).symm

/-- The tokens of the connections. -/
def tokens (app : AppState) : List String :=
  app.connections.map fun connection ↦ connection.session.peer.token

theorem tokens_of_moves {app after : AppState} (hmoves : Moves app after) :
    tokens after = tokens app := by
  obtain rfl | ⟨action, hcall, hstep⟩ := hmoves
  · rfl
  · refine List.ext_getElem? fun index ↦ ?_
    simp only [tokens, List.getElem?_map]
    cases hplace : app.connections[index]? with
    | some connection =>
      obtain ⟨found, hfound, hpeer, -⟩ := hstep.kept hplace
      rw [hfound, Option.map_some, Option.map_some, hpeer]
    | none =>
      have hlength := Gate.length_connections hstep hcall
      rw [List.getElem?_eq_none_iff, ← hlength, ← List.getElem?_eq_none_iff] at hplace
      rw [hplace]

/-- The sum of a value over the accounts. -/
def total (ledger : Ledger) (value : Account → ℕ) : ℕ :=
  (ledger.accounts.map value).sum

/-- What the counters owe to each other: the server has counted what the sessions have, up to what
is being counted, and the totals of the peers are what was folded. -/
structure Sound (ledger : Ledger) : Prop where
  accounts : ∀ account ∈ ledger.accounts, account.Sound
  tokens : ledger.accounts.map Account.token = tokens ledger.app
  totalUp : ledger.metrics.totalUp + ledger.total (·.handler.pending) = ledger.total Account.up
  totalDown : ledger.metrics.totalDown + ledger.total (·.writer.pending) =
    ledger.total Account.down
  foldedUp : ∀ keep, foldedFor keep PeerAgg.up ledger.metrics.agg =
    ledger.total fun account ↦ if keep account.token then account.handler.foldedUp else 0
  foldedDown : ∀ keep, foldedFor keep PeerAgg.down ledger.metrics.agg =
    ledger.total fun account ↦ if keep account.token then account.handler.foldedDown else 0

theorem sound_start (config : ServerConfig) (ipv6 hasTun : Bool) :
    (start config ipv6 hasTun).Sound where
  accounts := fun _ hmem ↦ absurd hmem List.not_mem_nil
  tokens := rfl
  totalUp := rfl
  totalDown := rfl
  foldedUp := fun _ ↦ rfl
  foldedDown := fun _ ↦ rfl

/-- The account of a connection has the token of its peer. -/
theorem Sound.token_eq (hsound : ledger.Sound) {index : ℕ} {account : Account}
    {connection : Connection} (haccount : ledger.accounts[index]? = some account)
    (hconnection : ledger.app.connections[index]? = some connection) :
    connection.session.peer.token = account.token := by
  have htokens := congrArg (·[index]?) hsound.tokens
  simp only [Ledger.tokens, List.getElem?_map, haccount, hconnection, Option.map_some,
    Option.some.injEq] at htokens
  exact htokens.symm

theorem total_accepted (ledger : Ledger) (value : Account → ℕ) (app : AppState) (account : Account)
    (hvalue : value account = 0) :
    ({ ledger with app, accounts := ledger.accounts ++ [account] } : Ledger).total value =
      ledger.total value := by
  simp only [total, List.map_append, List.map_singleton, List.sum_append, List.sum_singleton,
    hvalue, Nat.add_zero]

theorem Sound.step (hsound : ledger.Sound) {action : LedgerAction}
    (hstep : ledger.Stepped action next) : next.Sound := by
  cases hstep with
  | refused => exact hsound
  | task action app htask happ =>
    have hcall : ∀ first, action ≠ .connect first := by
      rintro first rfl
      cases htask
    have hmoves : Moves ledger.app app := Or.inr ⟨action, hcall, happ⟩
    exact { hsound with tokens := hsound.tokens.trans (tokens_of_moves hmoves).symm }
  | accepted first peer hello haccepted =>
    refine ⟨?_, ?_, ?_, ?_, fun keep ↦ ?_, fun keep ↦ ?_⟩
    · exact List.forall_mem_append.mpr ⟨hsound.accounts,
        List.forall_mem_singleton.mpr (Account.sound_start peer.token)⟩
    · rw [List.map_append, hsound.tokens, Ledger.tokens, Ledger.tokens, List.map_append]
      rfl
    · rw [total_accepted, total_accepted]
      · exact hsound.totalUp
      · rfl
      · rfl
    · rw [total_accepted, total_accepted]
      · exact hsound.totalDown
      · rfl
      · rfl
    · rw [total_accepted]
      · exact hsound.foldedUp keep
      · exact ite_self 0
    · rw [total_accepted]
      · exact hsound.foldedDown keep
      · exact ite_self 0
  | account index action account after connection app haccount hconnection hstep happ =>
    have htoken := hsound.token_eq haccount hconnection
    obtain ⟨hup, hdown⟩ := hstep.totals connection ledger.metrics
    have hset : ∀ value : Account → ℕ, ((ledger.accounts.set index after).map value).sum +
        value account = ledger.total value + value after := fun value ↦
      sum_set value haccount after
    refine ⟨?_, ?_, ?_, ?_, fun keep ↦ ?_, fun keep ↦ ?_⟩
    · intro other hother
      rcases List.mem_or_eq_of_mem_set hother with hold | rfl
      · exact hsound.accounts other hold
      · exact (hsound.accounts account (List.mem_of_getElem? haccount)).step hstep
    · rw [tokens_of_moves (moves_of_appAfter happ), ← hsound.tokens]
      refine List.ext_getElem? fun other ↦ ?_
      rw [List.map_set, hstep.grows.token, List.getElem?_set, List.length_map]
      split_ifs with hsame hlt
      · rw [← hsame, List.getElem?_map, haccount, Option.map_some]
      · exact absurd (List.getElem?_eq_some_iff.mp haccount).1 hlt
      · rfl
    · have hpending := hset (·.handler.pending)
      have hcounted := hset Account.up
      have hbefore := hsound.totalUp
      simp only [total] at hpending hcounted hbefore ⊢
      omega
    · have hpending := hset (·.writer.pending)
      have hcounted := hset Account.down
      have hbefore := hsound.totalDown
      simp only [total] at hpending hcounted hbefore ⊢
      omega
    · have hfolds := (hstep.folds keep htoken ledger.metrics).1
      have hchanged := hset fun account ↦ if keep account.token then account.handler.foldedUp else 0
      have hbefore := hsound.foldedUp keep
      simp only [total] at hchanged hbefore ⊢
      omega
    · have hfolds := (hstep.folds keep htoken ledger.metrics).2
      have hchanged := hset fun account ↦
        if keep account.token then account.handler.foldedDown else 0
      have hbefore := hsound.foldedDown keep
      simp only [total] at hchanged hbefore ⊢
      omega

/-- The counters owe this to each other in every state of every run. -/
theorem sound_of_run {config : ServerConfig} {ipv6 hasTun : Bool} {actions : List LedgerAction}
    (hrun : run step (start config ipv6 hasTun) actions = some ledger) : ledger.Sound :=
  run_preserves (fun _ _ _ hsound hstep ↦ hsound.step (stepped_of_step hstep)) hrun
    (sound_start config ipv6 hasTun)

end Ledger

end EntroTunnel.Server
