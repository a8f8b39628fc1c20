import EntroTunnel.Server.Ledger
import EntroTunnel.Server.Ownership

/-!
# Live sessions and their accounts

A session that stands in the router has an account whose handler has not left its reader loop for
good (`Linked.live`): the entry belongs to a connection that has not begun to unregister, and a
handler aborts its writer task after `unregister` only. So what the router shows is not folded yet.
`Stepped.grown` and `Stepped.placed` say what a step leaves of the accounts and the connections.
-/

set_option autoImplicit false
set_option relaxedAutoImplicit false

namespace EntroTunnel.Server

open EntroTunnel.Core EntroTunnel.Foundation

namespace Phase

/-- `unregister` has returned. -/
def ended : Phase → Bool
  | .unregistered | .closed => true
  | _ => false

theorem ended_next {phase after : Phase} {action : SessionAction}
    (hnext : phase.next action = some after) (hended : phase.ended = true) :
    after.ended = true := by
  obtain rfl | ⟨rfl, -, rfl⟩ | ⟨rfl, -, rfl⟩ := next_cases hnext
  · exact hended
  · cases hended
  · rfl

theorem not_mapped_of_ended {phase : Phase} (hended : phase.ended = true) :
    phase.mapped = false := by
  cases phase <;> first | rfl | cases hended

end Phase

/-- A connection that has unregistered stays so. -/
theorem AppState.Stepped.ended {state next : AppState} {action : ServerAction}
    (hstep : state.Stepped action next) {place : ℕ} {connection : Connection}
    (hplace : state.connections[place]? = some connection)
    (hended : connection.phase.ended = true) :
    ∃ after, next.connections[place]? = some after ∧ after.phase.ended = true := by
  have hput : ∀ {index : ℕ} {old changed : Connection}, state.connections[index]? = some old →
      (old.phase.ended = true → changed.phase.ended = true) →
      ∃ after, (state.put index changed).connections[place]? = some after ∧
        after.phase.ended = true := by
    intro index old changed hold hchanged
    refine exists_put hold hplace hended ?_
    rintro rfl
    exact hchanged hended
  cases hstep with
  | reconfigure | refused | unrouted => exact ⟨connection, hplace, hended⟩
  | accepted first peer hello => exact ⟨connection, kept_concat hplace _, hended⟩
  | assign index sessionId old hold hphase | insert6 index old hold hphase
  | insert4 index old hold hphase | established index old hold hphase
  | dropped index old hold hphase | remove4 index old hold hphase =>
    refine hput hold fun h ↦ ?_
    rw [hphase] at h
    cases h
  | remove6 index old hold hphase => exact hput hold fun _ ↦ rfl
  | session index action old phase session hold hphase hsession =>
    exact hput hold (Phase.ended_next hphase)
  | routed packet index old outbox hold => exact hput hold id

/-- The counters of the session were folded. -/
def Handler.isFolded : Handler → Bool
  | .folded _ _ => true
  | _ => false

theorem Handler.folded_eq_zero {handler : Handler} (hfolded : handler.isFolded = false) :
    handler.foldedUp = 0 ∧ handler.foldedDown = 0 := by
  cases handler with
  | folded up down => cases hfolded
  | _ => exact ⟨rfl, rfl⟩

namespace Account

variable {account next : Account} {action : AccountAction}

theorem Stepped.isFolded (hstep : account.Stepped action next) (hfold : action ≠ .fold)
    (hfolded : account.handler.isFolded = false) : next.handler.isFolded = false := by
  cases hstep with
  | fold => exact absurd rfl hfold
  | disconnect | send | addDown | addTotalDown | sendFailed | stop => exact hfolded
  | _ => rfl

theorem Stepped.closing (hstep : account.Stepped action next) (habort : action ≠ .abort)
    (hclosing : next.handler.closing = true) : account.handler.closing = true := by
  cases hstep with
  | abort => exact absurd rfl habort
  | disconnect | send | addDown | addTotalDown | sendFailed | stop => exact hclosing
  | loadUp hhandler | loadDown _ hhandler | fold _ _ hhandler =>
    rw [hhandler]
    rfl
  | _ => cases hclosing

/-- No more is folded than was transferred. -/
theorem Sound.folded_le (hsound : account.Sound) :
    account.handler.foldedUp ≤ account.received ∧ account.handler.foldedDown ≤ account.sent := by
  have hreceived := hsound.received
  have hsent := hsound.sent
  have hread := hsound.read
  cases hhandler : account.handler with
  | folded up down =>
    rw [hhandler] at hread
    obtain ⟨rfl, hdown⟩ := hread
    exact ⟨by rw [hreceived]; exact Nat.le_add_right _ _,
      hdown.trans (by rw [hsent]; exact Nat.le_add_right _ _)⟩
  | _ => exact ⟨Nat.zero_le _, Nat.zero_le _⟩

theorem Sound.counted_le (hsound : account.Sound) :
    account.up ≤ account.received ∧ account.down ≤ account.sent := by
  rw [hsound.received, hsound.sent]
  exact ⟨Nat.le_add_right _ _, Nat.le_add_right _ _⟩

end Account

namespace Ledger

variable {ledger next : Ledger} {action : LedgerAction}

/-- What a step leaves of an account. -/
theorem Stepped.grown (hstep : ledger.Stepped action next) {place : ℕ} {account : Account}
    (haccount : ledger.accounts[place]? = some account) :
    ∃ after, next.accounts[place]? = some after ∧ account.Grows after ∧
      (action ≠ .account place .fold → account.handler.isFolded = false →
        after.handler.isFolded = false) := by
  cases hstep with
  | refused | task => exact ⟨account, haccount, .refl account, fun _ h ↦ h⟩
  | accepted first peer hello =>
    exact ⟨account, getElem?_concat_eq_some.mpr (.inl haccount), .refl account, fun _ h ↦ h⟩
  | account index action old changed connection app hold hconnection hstepped happ =>
    rw [getElem?_set_of_eq_some hold]
    split_ifs with hsame
    · subst hsame
      obtain rfl := Option.some.inj (hold.symm.trans haccount)
      exact ⟨changed, rfl, hstepped.grows,
        fun hfold ↦ hstepped.isFolded fun h ↦ hfold (by rw [h])⟩
    · exact ⟨account, haccount, .refl account, fun _ h ↦ h⟩

/-- What a step of the server within the ledger is. -/
theorem Stepped.app_cases (hstep : ledger.Stepped action next) :
    Moves ledger.app next.app ∨ ∃ first peer hello, action = .connect first ∧
      admission ledger.app.config first = .accepted peer hello ∧
      next.app = { ledger.app with connections := ledger.app.connections ++
        [⟨.admitted, none, .start peer hello ledger.app.hasTun⟩] } := by
  cases hstep with
  | accepted first peer hello haccepted => exact Or.inr ⟨first, peer, hello, rfl, haccepted, rfl⟩
  | refused => exact Or.inl (Or.inl rfl)
  | account index action account after connection app haccount hconnection hstep happ =>
    exact Or.inl (moves_of_appAfter happ)
  | task action app htask happ =>
    refine Or.inl (Or.inr ⟨action, ?_, happ⟩)
    rintro first rfl
    cases htask

/-- What a step leaves of a connection. -/
theorem Stepped.placed (hstep : ledger.Stepped action next) {place : ℕ} {connection : Connection}
    (hplace : ledger.app.connections[place]? = some connection) :
    ∃ after, next.app.connections[place]? = some after ∧ after.ip = connection.ip ∧
      (connection.phase.ended = true → after.phase.ended = true) := by
  obtain (hsame | ⟨inner, -, hinner⟩) | ⟨first, peer, hello, -, -, happ⟩ := hstep.app_cases
  · rw [hsame]
    exact ⟨connection, hplace, rfl, id⟩
  · obtain ⟨after, hafter, hpeer, -⟩ := hinner.kept hplace
    refine ⟨after, hafter, by rw [Connection.ip, hpeer]; rfl, fun hended ↦ ?_⟩
    obtain ⟨found, hfound, hkept⟩ := hinner.ended hplace hended
    obtain rfl := Option.some.inj (hfound.symm.trans hafter)
    exact hkept
  · rw [happ]
    exact ⟨connection, AppState.kept_concat hplace _, rfl, id⟩

/-- The accounts belong to the connections, the entries of the router to connections, and a handler
that is closing has unregistered. -/
structure Linked (ledger : Ledger) : Prop where
  sound : ledger.Sound
  owned : ledger.app.Owned
  ended : ∀ (place : ℕ) (account : Account) (connection : Connection),
    ledger.accounts[place]? = some account → ledger.app.connections[place]? = some connection →
      account.handler.closing = true → connection.phase.ended = true

theorem linked_start (config : ServerConfig) (ipv6 hasTun : Bool) :
    (start config ipv6 hasTun).Linked where
  sound := sound_start config ipv6 hasTun
  owned := AppState.owned_start config ipv6 hasTun
  ended := fun _ _ _ haccount ↦ absurd haccount (by simp [start])

/-- Every connection has an account. -/
theorem Sound.account_of_connection (hsound : ledger.Sound) {place : ℕ} {connection : Connection}
    (hplace : ledger.app.connections[place]? = some connection) :
    ∃ account, ledger.accounts[place]? = some account ∧
      account.token = connection.session.peer.token := by
  have htokens := congrArg (·[place]?) hsound.tokens
  simp only [Ledger.tokens, List.getElem?_map, hplace, Option.map_some] at htokens
  exact Option.map_eq_some_iff.mp htokens

theorem Linked.step (hlinked : ledger.Linked) (hstep : ledger.Stepped action next) :
    next.Linked where
  sound := hlinked.sound.step hstep
  owned := by
    obtain (hsame | ⟨inner, -, hinner⟩) | ⟨first, peer, hello, rfl, haccepted, happ⟩ :=
      hstep.app_cases
    · rw [hsame]
      exact hlinked.owned
    · exact hlinked.owned.stepped hinner
    · rw [happ]
      exact hlinked.owned.stepped (.accepted first peer hello haccepted)
  ended := by
    intro place after found hafter hfound hclosing
    have hkept : ∀ account, ledger.accounts[place]? = some account →
        account.handler.closing = true → found.phase.ended = true := by
      intro account haccount hbefore
      cases hplace : ledger.app.connections[place]? with
      | some connection =>
        obtain ⟨same, hsame, -, hended⟩ := hstep.placed hplace
        obtain rfl := Option.some.inj (hsame.symm.trans hfound)
        exact hended (hlinked.ended place account connection haccount hplace hbefore)
      | none =>
        have hlength := congrArg List.length hlinked.sound.tokens
        rw [List.length_map, Ledger.tokens, List.length_map] at hlength
        have hlt := (List.getElem?_eq_some_iff.mp haccount).1
        exact absurd hlt (by rw [hlength, Nat.not_lt]; exact List.getElem?_eq_none_iff.mp hplace)
    cases hstep with
    | refused | task => exact hkept after hafter hclosing
    | accepted first peer hello =>
      obtain hold | ⟨-, rfl⟩ := getElem?_concat_eq_some.mp hafter
      · exact hkept after hold hclosing
      · cases hclosing
    | account index action old changed connection app hold hconnection hstepped happ =>
      rw [getElem?_set_of_eq_some hold] at hafter
      split_ifs at hafter with hsame
      · subst hsame
        obtain rfl := Option.some.inj hafter
        by_cases habort : action = .abort
        · subst habort
          simp only [Account.appAfter] at happ
          split_ifs at happ with hphase
          obtain rfl := Option.some.inj happ
          obtain rfl := Option.some.inj (hconnection.symm.trans hfound)
          rw [hphase]
          rfl
        · exact hkept old hold (hstepped.closing habort hclosing)
      · exact hkept after hafter hclosing

/-- A session in the router is not folded. -/
theorem Linked.live (hlinked : ledger.Linked) {ip : Ipv4Addr} {entry : Entry}
    (hlookup : ledger.app.router.peers.lookup ip = some entry) :
    ∃ connection account, ledger.app.connections[entry.tx]? = some connection ∧
      connection.ip = ip ∧ ledger.accounts[entry.tx]? = some account ∧
      account.token = entry.token ∧ account.handler.isFolded = false := by
  obtain ⟨connection, hconnection, hip, hentry, hmapped⟩ := hlinked.owned.entry ip entry hlookup
  obtain ⟨account, haccount, htoken⟩ := hlinked.sound.account_of_connection hconnection
  refine ⟨connection, account, hconnection, hip, haccount, ?_, ?_⟩
  · rw [htoken, hentry]
    rfl
  · have hended := hlinked.ended entry.tx account connection haccount hconnection
    cases hhandler : account.handler with
    | folded up down =>
      rw [hhandler] at hended
      rw [Phase.not_mapped_of_ended (hended rfl)] at hmapped
      cases hmapped
    | _ => rfl

end Ledger

end EntroTunnel.Server
