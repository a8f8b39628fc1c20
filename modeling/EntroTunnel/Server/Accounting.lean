import EntroTunnel.Server.Ledger

/-!
# Conservation of the traffic counters

Whether the totals of the peers make up the totals of the server once all connections are over. What
comes in is counted by the handler itself, so nothing of it is missing (`peersUp_eq`). What goes out
is counted by the writer task, which an abort does not stop at once: bytes that it adds after the
handler has read the counter are in the total of the server and in no peer's (`traffic_lost`).
`Timely` excludes these steps, and in runs without them both totals are conserved
(`traffic_conserved`).
-/

set_option autoImplicit false
set_option relaxedAutoImplicit false

namespace EntroTunnel.Server

open EntroTunnel.Core EntroTunnel.Foundation

/-- What the totals of all peers make together. -/
def Metrics.peersUp (metrics : Metrics) : ℕ :=
  (metrics.agg.entries.map fun entry ↦ entry.2.up).sum

def Metrics.peersDown (metrics : Metrics) : ℕ :=
  (metrics.agg.entries.map fun entry ↦ entry.2.down).sum

/-- The handler is over, with the counters folded if it has served. -/
def Handler.over : Handler → Bool
  | .dropped | .folded _ _ => true
  | _ => false

/-- What the handler has read as sent is all that is counted. -/
def Handler.ReadAll (down : ℕ) : Handler → Prop
  | .loadedDown _ readDown | .folded _ readDown => readDown = down
  | _ => True

namespace Account

variable {account next : Account} {action : AccountAction}

theorem foldedUp_eq (hsound : account.Sound) (hover : account.handler.over = true) :
    account.handler.foldedUp = account.up ∧ account.handler.pending = 0 := by
  cases hhandler : account.handler with
  | dropped =>
    have hidle := hsound.idle (by rw [hhandler]; rfl)
    exact ⟨hidle.2.1.symm, rfl⟩
  | folded up down =>
    have hread := hsound.read
    rw [hhandler] at hread
    exact ⟨hread.1, rfl⟩
  | _ =>
    rw [hhandler] at hover
    cases hover

theorem foldedDown_eq (hsound : account.Sound) (hall : account.handler.ReadAll account.down)
    (hover : account.handler.over = true) : account.handler.foldedDown = account.down := by
  cases hhandler : account.handler with
  | dropped =>
    have hidle := hsound.idle (by rw [hhandler]; rfl)
    exact hidle.2.2.symm
  | folded up down =>
    rw [hhandler] at hall
    exact hall
  | _ =>
    rw [hhandler] at hover
    cases hover

/-- Only what the writer task adds after the handler has read the counter is missed. -/
theorem Stepped.readAll (hstep : account.Stepped action next)
    (htimely : action = .addDown → account.handler.hasRead = false)
    (hall : account.handler.ReadAll account.down) : next.handler.ReadAll next.down := by
  cases hstep with
  | disconnect | sendFailed | stop | send | addTotalDown => exact hall
  | loadDown => rfl
  | fold up down hhandler =>
    rw [hhandler] at hall
    exact hall
  | addDown bytes hwriter =>
    have hunread := htimely rfl
    cases hhandler : account.handler with
    | loadedDown | folded =>
      rw [hhandler] at hunread
      cases hunread
    | _ => trivial
  | _ => trivial

end Account

namespace Ledger

variable {ledger next : Ledger}

/-- All handlers and their writer tasks have finished. -/
def Finished (ledger : Ledger) : Prop :=
  (∀ account ∈ ledger.accounts, account.handler.over = true ∧ account.writer = .waiting) ∧
    ∀ connection ∈ ledger.app.connections, connection.phase = .closed

instance (ledger : Ledger) : Decidable ledger.Finished :=
  inferInstanceAs (Decidable (_ ∧ _))

/-- A writer task adds no bytes to the counter of its session after the handler has read it. -/
def Timely (ledger : Ledger) : LedgerAction → Prop
  | .account index .addDown =>
    ∀ account ∈ ledger.accounts[index]?, account.handler.hasRead = false
  | _ => True

instance (ledger : Ledger) : DecidablePred ledger.Timely := fun action ↦ by
  unfold Timely
  split
  · infer_instance
  · infer_instance

theorem total_congr {first second : Account → ℕ}
    (hsame : ∀ account ∈ ledger.accounts, first account = second account) :
    ledger.total first = ledger.total second := by
  rw [total, List.map_congr_left hsame]
  rfl

theorem total_eq_zero {value : Account → ℕ}
    (hzero : ∀ account ∈ ledger.accounts, value account = 0) : ledger.total value = 0 := by
  refine List.sum_eq_zero fun amount hmem ↦ ?_
  obtain ⟨account, haccount, rfl⟩ := List.mem_map.mp hmem
  exact hzero account haccount

/-- What came in is conserved in every run. -/
theorem Sound.peersUp_eq (hsound : ledger.Sound) (hfinished : ledger.Finished) :
    ledger.metrics.peersUp = ledger.metrics.totalUp := by
  have hfolded := hsound.foldedUp fun _ ↦ true
  simp only [foldedFor, if_true] at hfolded
  have hover : ∀ account ∈ ledger.accounts, account.handler.foldedUp = account.up ∧
      account.handler.pending = 0 := fun account hmem ↦
    Account.foldedUp_eq (hsound.accounts account hmem) (hfinished.1 account hmem).1
  have htotal := hsound.totalUp
  rw [total_eq_zero fun account hmem ↦ (hover account hmem).2, Nat.add_zero] at htotal
  rw [Metrics.peersUp, hfolded, htotal, total_congr fun account hmem ↦ (hover account hmem).1]

/-- What went out is conserved if no handler has read its counter early. -/
theorem Sound.peersDown_eq (hsound : ledger.Sound) (hfinished : ledger.Finished)
    (hall : ∀ account ∈ ledger.accounts, account.handler.ReadAll account.down) :
    ledger.metrics.peersDown = ledger.metrics.totalDown := by
  have hfolded := hsound.foldedDown fun _ ↦ true
  simp only [foldedFor, if_true] at hfolded
  have hover : ∀ account ∈ ledger.accounts, account.handler.foldedDown = account.down :=
    fun account hmem ↦ Account.foldedDown_eq (hsound.accounts account hmem) (hall account hmem)
      (hfinished.1 account hmem).1
  have hpending : ∀ account ∈ ledger.accounts, account.writer.pending = 0 := by
    intro account hmem
    rw [(hfinished.1 account hmem).2]
    rfl
  have htotal := hsound.totalDown
  rw [total_eq_zero hpending, Nat.add_zero] at htotal
  rw [Metrics.peersDown, hfolded, htotal, total_congr hover]

theorem Stepped.readAll {action : LedgerAction} (hstep : ledger.Stepped action next)
    (htimely : ledger.Timely action)
    (hall : ∀ account ∈ ledger.accounts, account.handler.ReadAll account.down) :
    ∀ account ∈ next.accounts, account.handler.ReadAll account.down := by
  cases hstep with
  | refused | task => exact hall
  | accepted first peer hello =>
    exact List.forall_mem_append.mpr ⟨hall, List.forall_mem_singleton.mpr trivial⟩
  | account index action account after connection app haccount hconnection hstep happ =>
    intro other hother
    rcases List.mem_or_eq_of_mem_set hother with hold | rfl
    · exact hall other hold
    · refine hstep.readAll ?_ (hall account (List.mem_of_getElem? haccount))
      rintro rfl
      exact htimely account haccount

/-- In every run in which no writer task adds bytes to the counter of its session after the handler
has read it: once all handlers and writer tasks have finished, the totals of the peers make up the
totals of the server. -/
theorem traffic_conserved {config : ServerConfig} {ipv6 hasTun : Bool}
    {actions : List LedgerAction}
    (hrun : run (guarded Timely step) (start config ipv6 hasTun) actions = some ledger)
    (hfinished : ledger.Finished) :
    ledger.metrics.peersUp = ledger.metrics.totalUp ∧
      ledger.metrics.peersDown = ledger.metrics.totalDown := by
  have hsound := sound_of_run (run_of_guarded hrun)
  have hall : ∀ account ∈ ledger.accounts, account.handler.ReadAll account.down := by
    have hkept : ∀ (ledger : Ledger) (action : LedgerAction) (next : Ledger),
        (∀ account ∈ ledger.accounts, account.handler.ReadAll account.down) →
        ledger.Timely action → ledger.step action = some next →
        ∀ account ∈ next.accounts, account.handler.ReadAll account.down :=
      fun _ _ _ hall htimely hstep ↦ (stepped_of_step hstep).readAll htimely hall
    exact guarded_preserves hkept hrun fun _ hmem ↦ absurd hmem List.not_mem_nil
  exact ⟨hsound.peersUp_eq hfinished, hsound.peersDown_eq hfinished hall⟩

section Example

/-- A LAN session sends a packet to its client and loses its connection. -/
def sentRun : List LedgerAction :=
  [.connect (some (.hello (lanHello .vpn))), .task (.assign 0 7), .task (.insert6 0),
    .task (.insert4 0), .account 0 (.welcome true), .task (.tunPacket Gate.lanPacket),
    .account 0 (.send (.packet Gate.lanPacket)), .account 0 .disconnect, .task (.remove4 0),
    .task (.remove6 0), .account 0 .abort, .account 0 .loadUp]

/-- The writer task counts the packet before the handler reads the counter. -/
def countedRun : List LedgerAction :=
  sentRun ++ [.account 0 .addDown, .account 0 .addTotalDown, .account 0 .loadDown,
    .account 0 .fold, .account 0 .stop]

/-- The writer task counts the packet after the handler has read the counter. -/
def lateRun : List LedgerAction :=
  sentRun ++ [.account 0 .loadDown, .account 0 .addDown, .account 0 .addTotalDown,
    .account 0 .fold, .account 0 .stop]

/-- A packet of 20 bytes that was counted in time is in both totals. -/
theorem traffic_conserved_countedRun :
    ∃ ledger, run (guarded Timely step) (start lanServer true true) countedRun = some ledger ∧
      ledger.metrics.totalDown = 20 ∧ ledger.metrics.peersUp = ledger.metrics.totalUp ∧
      ledger.metrics.peersDown = ledger.metrics.totalDown := by
  obtain ⟨ledger, hrun, hledger⟩ : ∃ ledger,
      run (guarded Timely step) (start lanServer true true) countedRun = some ledger ∧
        (decide ledger.Finished && ledger.metrics.totalDown = 20) = true :=
    Option.any_eq_true _ _ |>.mp (by decide +kernel)
  simp only [Bool.and_eq_true, decide_eq_true_iff] at hledger
  exact ⟨ledger, hrun, hledger.2, traffic_conserved hrun hledger.1⟩

/-- The packet is in the total of the server and in no peer's. -/
theorem traffic_lost :
    ¬ ∀ (config : ServerConfig) (ipv6 hasTun : Bool) (actions : List LedgerAction)
      (ledger : Ledger), run step (start config ipv6 hasTun) actions = some ledger →
        ledger.Finished →
          ledger.metrics.peersUp = ledger.metrics.totalUp ∧
            ledger.metrics.peersDown = ledger.metrics.totalDown := by
  intro hall
  obtain ⟨ledger, hrun, hledger⟩ : ∃ ledger,
      run step (start lanServer true true) lateRun = some ledger ∧
        (decide ledger.Finished && ledger.metrics.peersDown = 0 &&
          ledger.metrics.totalDown = 20) = true :=
    Option.any_eq_true _ _ |>.mp (by decide +kernel)
  simp only [Bool.and_eq_true, decide_eq_true_iff] at hledger
  obtain ⟨⟨hfinished, hpeers⟩, htotal⟩ := hledger
  have hsame := (hall _ _ _ _ _ hrun hfinished).2
  rw [hpeers, htotal] at hsame
  cases hsame

end Example

end Ledger

end EntroTunnel.Server
