import EntroTunnel.Server.LiveSessions
import EntroTunnel.Server.PeerStats

/-!
# The statistics endpoint

`stats` of `server/src/web.rs`, while the server goes on. A request takes a snapshot of the live
sessions from the router, peer by peer, and reads the totals of the peers after it, token by token.
A session moves from the one to the other in between: if it is folded after its counters were read
and before the total of its token is, it is counted twice (`session_counted_twice`). `Settled`
excludes these steps, and in runs without them no line of an answer exceeds what the sessions with
its token have transferred (`stats_counted_once`).

Either iteration visits an entry at most once, and each that was there when it began. Other tasks
may go on between any two reads; that the router locks an entry while its two counters are loaded is
not used. The answer keeps the accounts as they were when it was complete. Uptime and timeline are
left out. The counters are those of the accounts, natural numbers that the code has as long as they
stay below `2 ^ 64`.
-/

set_option autoImplicit false
set_option relaxedAutoImplicit false

namespace EntroTunnel.Server

open EntroTunnel.Core EntroTunnel.Foundation

/-- Where a request is: in the router, between the two counters of a session, in the totals, or
answered. -/
inductive StatsPhase
  | visiting
  | loading (index : ℕ)
  | merging
  | answered
  deriving DecidableEq, Repr

/-- The answer. -/
structure StatsResp where
  totalUp : ℕ
  totalDown : ℕ
  online : ℕ
  peers : List PeerStat

/-- A request: the peers it has to pass and has passed, the live sessions by their number, the
tokens it has to read, the totals it has read, and its answer. -/
structure StatsRequest where
  phase : StatsPhase
  due : List Ipv4Addr
  passed : List Ipv4Addr
  live : List (ℕ × LiveEntry)
  dueTokens : List String
  agg : AList fun _ : String ↦ PeerAgg
  answer : Option (StatsResp × List Account)

/-- A step of a request. -/
inductive RequestAction
  | visit (ip : Ipv4Addr)
  | loadDown
  | collected
  | readAgg (token : String)
  | respond
  deriving DecidableEq, Repr

/-- What the sessions with a token have transferred. -/
def transferred (value : Account → ℕ) (accounts : List Account) (token : String) : ℕ :=
  (accounts.map fun account ↦ if account.token = token then value account else 0).sum

namespace StatsRequest

/-- A request that has been authorised. -/
def start (ledger : Ledger) : StatsRequest where
  phase := .visiting
  due := ledger.app.router.peers.keys
  passed := []
  live := []
  dueTokens := []
  agg := ∅
  answer := none

/-- The counters of a session that the router shows; `down` is loaded after `up`. -/
def snapshot (ip : Ipv4Addr) (entry : Entry) (account : Account) : LiveEntry where
  ip := ip
  name := entry.info.name
  token := entry.token
  mode := entry.info.mode
  up := account.up
  down := 0

/-- Load `down` into the entry of a session. -/
def loadInto (index down : ℕ) (item : ℕ × LiveEntry) : ℕ × LiveEntry :=
  if item.1 = index then (item.1, { item.2 with down }) else item

/-- What is answered when all has been read. -/
def response (ledger : Ledger) (request : StatsRequest) : StatsResp where
  totalUp := ledger.metrics.totalUp
  totalDown := ledger.metrics.totalDown
  online := request.live.length
  peers := peerStats request.agg (request.live.map Prod.snd)

/-- One step. -/
def step (ledger : Ledger) (request : StatsRequest) : RequestAction → Option StatsRequest
  | .visit ip =>
    if request.phase = .visiting ∧ ip ∉ request.passed then
      match ledger.app.router.peers.lookup ip with
      | none => some { request with passed := ip :: request.passed }
      | some entry =>
        ledger.accounts[entry.tx]?.map fun account ↦
          { request with
            phase := .loading entry.tx
            passed := ip :: request.passed
            live := request.live ++ [(entry.tx, snapshot ip entry account)] }
    else none
  | .loadDown =>
    match request.phase with
    | .loading index =>
      ledger.accounts[index]?.map fun account ↦
        { request with
          phase := .visiting
          live := request.live.map (loadInto index account.down) }
    | _ => none
  | .collected =>
    if request.phase = .visiting ∧ request.due.all (· ∈ request.passed) then
      some { request with phase := .merging, dueTokens := ledger.metrics.agg.keys }
    else none
  | .readAgg token =>
    if request.phase = .merging ∧ token ∉ request.agg then
      (ledger.metrics.agg.lookup token).map fun total ↦
        { request with agg := request.agg.insert token total }
    else none
  | .respond =>
    if request.phase = .merging ∧ request.dueTokens.all (· ∈ request.agg) then
      some { request with
        phase := .answered
        answer := some (request.response ledger, ledger.accounts) }
    else none

/-- What a step can do. -/
inductive Stepped (ledger : Ledger) (request : StatsRequest) : RequestAction → StatsRequest → Prop
  | missed (ip : Ipv4Addr) :
    Stepped ledger request (.visit ip) { request with passed := ip :: request.passed }
  | visit (ip : Ipv4Addr) (entry : Entry) (account : Account) (hphase : request.phase = .visiting)
    (hpassed : ip ∉ request.passed)
    (hlookup : ledger.app.router.peers.lookup ip = some entry)
    (haccount : ledger.accounts[entry.tx]? = some account) :
    Stepped ledger request (.visit ip)
      { request with
        phase := .loading entry.tx
        passed := ip :: request.passed
        live := request.live ++ [(entry.tx, snapshot ip entry account)] }
  | loadDown (index : ℕ) (account : Account) (hphase : request.phase = .loading index)
    (haccount : ledger.accounts[index]? = some account) :
    Stepped ledger request .loadDown
      { request with
        phase := .visiting
        live := request.live.map (loadInto index account.down) }
  | collected (hphase : request.phase = .visiting) :
    Stepped ledger request .collected
      { request with phase := .merging, dueTokens := ledger.metrics.agg.keys }
  | readAgg (token : String) (total : PeerAgg) (hphase : request.phase = .merging)
    (hunread : token ∉ request.agg) (hlookup : ledger.metrics.agg.lookup token = some total) :
    Stepped ledger request (.readAgg token) { request with agg := request.agg.insert token total }
  | respond (hphase : request.phase = .merging) :
    Stepped ledger request .respond
      { request with
        phase := .answered
        answer := some (request.response ledger, ledger.accounts) }

variable {ledger : Ledger} {request next : StatsRequest}

theorem stepped_of_step {action : RequestAction} (hstep : request.step ledger action = some next) :
    request.Stepped ledger action next := by
  cases action <;> simp only [step] at hstep
  case visit ip =>
    split_ifs at hstep with hvisit
    split at hstep
    · obtain rfl := Option.some.inj hstep
      exact .missed ip
    · obtain ⟨account, haccount, rfl⟩ := Option.map_eq_some_iff.mp hstep
      exact .visit ip _ account hvisit.1 hvisit.2 ‹_› haccount
  case loadDown =>
    split at hstep
    · obtain ⟨account, haccount, rfl⟩ := Option.map_eq_some_iff.mp hstep
      exact .loadDown _ account ‹_› haccount
    · cases hstep
  case collected =>
    split_ifs at hstep with hcollected
    obtain rfl := Option.some.inj hstep
    exact .collected hcollected.1
  case readAgg token =>
    split_ifs at hstep with hread
    obtain ⟨total, hlookup, rfl⟩ := Option.map_eq_some_iff.mp hstep
    exact .readAgg token total hread.1 hread.2 hlookup
  case respond =>
    split_ifs at hstep with hrespond
    obtain rfl := Option.some.inj hstep
    exact .respond hrespond.1

/-- The request counts something of the session, or may do so, and has yet to read the total of its
token. -/
def Pending (request : StatsRequest) (item : ℕ × LiveEntry) : Prop :=
  request.phase ≠ .answered ∧ item.2.token ∉ request.agg ∧
    (item.2.up ≠ 0 ∨ item.2.down ≠ 0 ∨ request.phase = .loading item.1)

instance (request : StatsRequest) : DecidablePred request.Pending := fun _ ↦
  inferInstanceAs (Decidable (_ ∧ _))

/-- The entry of a live session belongs to a connection and its account, and shows no more than is
counted. -/
def Shows (ledger : Ledger) (item : ℕ × LiveEntry) : Prop :=
  ∃ connection account, ledger.app.connections[item.1]? = some connection ∧
    connection.ip = item.2.ip ∧ ledger.accounts[item.1]? = some account ∧
    account.token = item.2.token ∧ item.2.up ≤ account.up ∧ item.2.down ≤ account.down

/-- The line of a token in the list of an answer is at most what its sessions have transferred. -/
def Bounded (peers : List PeerStat) (accounts : List Account) : Prop :=
  ∀ stat ∈ peers, stat.up ≤ transferred Account.received accounts stat.token ∧
    stat.down ≤ transferred Account.sent accounts stat.token

/-- What a request owes to the ledger. -/
structure Sound (ledger : Ledger) (request : StatsRequest) : Prop where
  places : (request.live.map Prod.fst).Nodup
  passed : ∀ item ∈ request.live, item.2.ip ∈ request.passed
  shows : ∀ item ∈ request.live, Shows ledger item
  unread : request.phase = .visiting ∨ (∃ index, request.phase = .loading index) → request.agg = ∅
  unfolded : ∀ item ∈ request.live, request.Pending item →
    ∀ account, ledger.accounts[item.1]? = some account → account.handler.isFolded = false
  read : ∀ token total, request.agg.lookup token = some total →
    total.up + liveFor LiveEntry.up (request.live.map Prod.snd) token ≤
        transferred Account.received ledger.accounts token ∧
      total.down + liveFor LiveEntry.down (request.live.map Prod.snd) token ≤
        transferred Account.sent ledger.accounts token
  answer : ∀ response accounts, request.answer = some (response, accounts) →
    Bounded response.peers accounts

theorem sound_start (ledger other : Ledger) : (start ledger).Sound other where
  places := List.nodup_nil
  passed := fun _ hmem ↦ absurd hmem List.not_mem_nil
  shows := fun _ hmem ↦ absurd hmem List.not_mem_nil
  unread := fun _ ↦ rfl
  unfolded := fun _ hmem ↦ absurd hmem List.not_mem_nil
  read := fun _ _ hlookup ↦ absurd hlookup nofun
  answer := fun _ _ hanswer ↦ absurd hanswer nofun

/-! ### A step of the ledger -/

/-- What the sessions with a token have transferred never decreases. -/
theorem transferred_le {after : Ledger} {action : LedgerAction}
    (hstep : ledger.Stepped action after)
    {value : Account → ℕ} (hvalue : ∀ account next : Account, account.Grows next →
      value account ≤ value next) (token : String) :
    transferred value ledger.accounts token ≤ transferred value after.accounts token := by
  cases hstep with
  | refused | task => exact le_rfl
  | accepted first peer hello =>
    rw [transferred, transferred, List.map_append, List.sum_append]
    exact Nat.le_add_right _ _
  | account index action old changed connection app hold hconnection hstepped happ =>
    refine sum_le_sum_set hold ?_
    rw [hstepped.grows.token]
    split_ifs
    · exact hvalue old changed hstepped.grows
    · exact le_rfl

theorem Shows.step {after : Ledger} {action : LedgerAction} {item : ℕ × LiveEntry}
    (hshows : Shows ledger item) (hstep : ledger.Stepped action after) : Shows after item := by
  obtain ⟨connection, account, hconnection, hip, haccount, htoken, hup, hdown⟩ := hshows
  obtain ⟨found, hfound, hsame, -⟩ := hstep.placed hconnection
  obtain ⟨changed, hchanged, hgrows, -⟩ := hstep.grown haccount
  exact ⟨found, changed, hfound, hsame.trans hip, hchanged, hgrows.token.trans htoken,
    hup.trans hgrows.up, hdown.trans hgrows.down⟩

/-- The ledger goes on, and folds no session that the request has yet to account for. -/
theorem Sound.of_ledger (hsound : request.Sound ledger) {after : Ledger} {action : LedgerAction}
    (hstep : ledger.Stepped action after)
    (hfold : ∀ item ∈ request.live, action = .account item.1 .fold → ¬ request.Pending item) :
    request.Sound after where
  places := hsound.places
  passed := hsound.passed
  shows := fun item hmem ↦ (hsound.shows item hmem).step hstep
  unread := hsound.unread
  unfolded := by
    intro item hmem hpending account haccount
    obtain ⟨-, before, -, -, hbefore, -⟩ := hsound.shows item hmem
    obtain ⟨found, hfound, -, hunfolded⟩ := hstep.grown hbefore
    obtain rfl := Option.some.inj (hfound.symm.trans haccount)
    exact hunfolded (fun haction ↦ hfold item hmem haction hpending)
      (hsound.unfolded item hmem hpending before hbefore)
  read := by
    intro token total hlookup
    obtain ⟨hup, hdown⟩ := hsound.read token total hlookup
    exact ⟨hup.trans (transferred_le hstep (fun _ _ hgrows ↦ hgrows.received) token),
      hdown.trans (transferred_le hstep (fun _ _ hgrows ↦ hgrows.sent) token)⟩
  answer := hsound.answer

/-! ### A step of the request -/

@[simp] theorem loadInto_fst (index down : ℕ) (item : ℕ × LiveEntry) :
    (loadInto index down item).1 = item.1 := by
  unfold loadInto
  split_ifs <;> rfl

@[simp] theorem loadInto_ip (index down : ℕ) (item : ℕ × LiveEntry) :
    (loadInto index down item).2.ip = item.2.ip := by
  unfold loadInto
  split_ifs <;> rfl

@[simp] theorem loadInto_token (index down : ℕ) (item : ℕ × LiveEntry) :
    (loadInto index down item).2.token = item.2.token := by
  unfold loadInto
  split_ifs <;> rfl

theorem Shows.loadInto {index : ℕ} {account : Account} {item : ℕ × LiveEntry}
    (hshows : Shows ledger item) (haccount : ledger.accounts[index]? = some account) :
    Shows ledger (loadInto index account.down item) := by
  unfold StatsRequest.loadInto
  split_ifs with hsame
  · obtain ⟨connection, found, hconnection, hip, hfound, htoken, hup, -⟩ := hshows
    subst hsame
    obtain rfl := Option.some.inj (haccount.symm.trans hfound)
    exact ⟨connection, account, hconnection, hip, haccount, htoken, hup, le_rfl⟩
  · exact hshows

/-- What the snapshot has of a token beside a part of each account of the token, if both fit into
the account at every place. -/
theorem Sound.add_live_le (hsound : request.Sound ledger) (amount : LiveEntry → ℕ)
    (part value : Account → ℕ) {token : String}
    (hpart : ∀ account ∈ ledger.accounts, part account ≤ value account)
    (hlive : ∀ item ∈ request.live, item.2.token = token →
      ∀ account, ledger.accounts[item.1]? = some account →
        part account + amount item.2 ≤ value account) :
    transferred part ledger.accounts token + liveFor amount (request.live.map Prod.snd) token ≤
      transferred value ledger.accounts token := by
  have hpicked := @sum_add_picked_le Account ledger.accounts
    (fun account ↦ if account.token = token then value account else 0)
    (fun account ↦ if account.token = token then part account else 0)
    (request.live.map fun item ↦ (item.1, if item.2.token = token then amount item.2 else 0))
  simp only [List.map_map, Function.comp_def] at hpicked
  rw [transferred, liveFor, List.map_map, transferred]
  refine hpicked hsound.places (fun account hmem ↦ ?_) fun pick hmem ↦ ?_
  · split_ifs
    · exact hpart account hmem
    · exact le_rfl
  · obtain ⟨item, hitem, rfl⟩ := List.mem_map.mp hmem
    obtain ⟨-, account, -, -, haccount, htoken, -⟩ := hsound.shows item hitem
    refine ⟨account, haccount, ?_⟩
    rw [htoken]
    split_ifs with hsame
    · exact hlive item hitem hsame account haccount
    · exact le_rfl

/-- What the snapshot has of a token is at most what its sessions have transferred. -/
theorem Sound.live_le (hsound : request.Sound ledger)
    (haccounts : ∀ account ∈ ledger.accounts, account.Sound) (token : String) :
    liveFor LiveEntry.up (request.live.map Prod.snd) token ≤
        transferred Account.received ledger.accounts token ∧
      liveFor LiveEntry.down (request.live.map Prod.snd) token ≤
        transferred Account.sent ledger.accounts token := by
  have hshown : ∀ item ∈ request.live, ∀ account, ledger.accounts[item.1]? = some account →
      item.2.up ≤ account.received ∧ item.2.down ≤ account.sent := by
    intro item hmem account haccount
    obtain ⟨-, found, -, -, hfound, -, hup, hdown⟩ := hsound.shows item hmem
    obtain rfl := Option.some.inj (hfound.symm.trans haccount)
    obtain ⟨hreceived, hsent⟩ := (haccounts found (List.mem_of_getElem? hfound)).counted_le
    exact ⟨hup.trans hreceived, hdown.trans hsent⟩
  constructor
  · refine (Nat.le_add_left _ _).trans
      (hsound.add_live_le LiveEntry.up (fun _ ↦ 0) Account.received ?_ ?_)
    · exact fun _ _ ↦ Nat.zero_le _
    · intro item hmem _ account haccount
      rw [Nat.zero_add]
      exact (hshown item hmem account haccount).1
  · refine (Nat.le_add_left _ _).trans
      (hsound.add_live_le LiveEntry.down (fun _ ↦ 0) Account.sent ?_ ?_)
    · exact fun _ _ ↦ Nat.zero_le _
    · intro item hmem _ account haccount
      rw [Nat.zero_add]
      exact (hshown item hmem account haccount).2

/-- A session that the snapshot has counted is not folded, and one that was folded adds nothing. -/
theorem Sound.beside_folded (hsound : request.Sound ledger)
    (haccounts : ∀ account ∈ ledger.accounts, account.Sound) (hphase : request.phase = .merging)
    {item : ℕ × LiveEntry} (hmem : item ∈ request.live) (hunread : item.2.token ∉ request.agg)
    {account : Account} (haccount : ledger.accounts[item.1]? = some account) :
    account.handler.foldedUp + item.2.up ≤ account.received ∧
      account.handler.foldedDown + item.2.down ≤ account.sent := by
  have haccountSound := haccounts account (List.mem_of_getElem? haccount)
  by_cases hzero : item.2.up = 0 ∧ item.2.down = 0
  · rw [hzero.1, hzero.2]
    exact haccountSound.folded_le
  · have hpending : request.Pending item := by
      refine ⟨by rw [hphase]; simp, hunread, ?_⟩
      rw [not_and_or] at hzero
      exact hzero.imp_right Or.inl
    obtain ⟨hup, hdown⟩ :=
      Handler.folded_eq_zero (hsound.unfolded item hmem hpending account haccount)
    obtain ⟨-, found, -, -, hfound, -, hshownUp, hshownDown⟩ := hsound.shows item hmem
    obtain rfl := Option.some.inj (hfound.symm.trans haccount)
    rw [hup, hdown, Nat.zero_add, Nat.zero_add]
    exact ⟨hshownUp.trans haccountSound.counted_le.1, hshownDown.trans haccountSound.counted_le.2⟩

/-- The total that is read of a token, and what the snapshot has of it. -/
theorem Sound.total_add_live_le (hsound : request.Sound ledger) (hledger : ledger.Sound)
    (hphase : request.phase = .merging) {token : String} {total : PeerAgg}
    (hunread : token ∉ request.agg) (hlookup : ledger.metrics.agg.lookup token = some total) :
    total.up + liveFor LiveEntry.up (request.live.map Prod.snd) token ≤
        transferred Account.received ledger.accounts token ∧
      total.down + liveFor LiveEntry.down (request.live.map Prod.snd) token ≤
        transferred Account.sent ledger.accounts token := by
  have hfoldedUp : total.up ≤ transferred (·.handler.foldedUp) ledger.accounts token := by
    refine (le_foldedFor hlookup).trans (Nat.le_of_eq ?_)
    rw [hledger.foldedUp]
    simp only [decide_eq_true_eq]
    rfl
  have hfoldedDown : total.down ≤ transferred (·.handler.foldedDown) ledger.accounts token := by
    refine (le_foldedFor hlookup).trans (Nat.le_of_eq ?_)
    rw [hledger.foldedDown]
    simp only [decide_eq_true_eq]
    rfl
  constructor
  · refine (Nat.add_le_add_right hfoldedUp _).trans
      (hsound.add_live_le LiveEntry.up _ Account.received ?_ ?_)
    · exact fun account hmem ↦ (hledger.accounts account hmem).folded_le.1
    · rintro item hmem rfl account haccount
      exact (hsound.beside_folded hledger.accounts hphase hmem hunread haccount).1
  · refine (Nat.add_le_add_right hfoldedDown _).trans
      (hsound.add_live_le LiveEntry.down _ Account.sent ?_ ?_)
    · exact fun account hmem ↦ (hledger.accounts account hmem).folded_le.2
    · rintro item hmem rfl account haccount
      exact (hsound.beside_folded hledger.accounts hphase hmem hunread haccount).2

theorem Sound.bounded (hsound : request.Sound ledger)
    (haccounts : ∀ account ∈ ledger.accounts, account.Sound) :
    Bounded (peerStats request.agg (request.live.map Prod.snd)) ledger.accounts := by
  intro stat hstat
  obtain ⟨hup, hdown⟩ := mem_peerStats hstat
  rw [hup, hdown]
  cases hlookup : request.agg.lookup stat.token with
  | some total => exact hsound.read stat.token total hlookup
  | none =>
    obtain ⟨hliveUp, hliveDown⟩ := hsound.live_le haccounts stat.token
    rw [Option.map_none, Option.map_none, Option.getD_none, Nat.zero_add, Nat.zero_add]
    exact ⟨hliveUp, hliveDown⟩

theorem Sound.visit (hsound : request.Sound ledger) (hlinked : ledger.Linked) {ip : Ipv4Addr}
    {entry : Entry} {account : Account} (hphase : request.phase = .visiting)
    (hpassed : ip ∉ request.passed) (hlookup : ledger.app.router.peers.lookup ip = some entry)
    (haccount : ledger.accounts[entry.tx]? = some account) :
    { request with
      phase := .loading entry.tx
      passed := ip :: request.passed
      live := request.live ++ [(entry.tx, snapshot ip entry account)] }.Sound ledger := by
  obtain ⟨connection, found, hconnection, hip, hfound, htoken, hfolded⟩ := hlinked.live hlookup
  obtain rfl := Option.some.inj (hfound.symm.trans haccount)
  have hempty := hsound.unread (Or.inl hphase)
  refine ⟨?_, ?_, ?_, fun _ ↦ hempty, ?_, ?_, hsound.answer⟩
  · rw [List.map_append, List.map_singleton, List.nodup_append]
    refine ⟨hsound.places, List.nodup_singleton _, fun place hplace other hother hsame ↦ hpassed ?_⟩
    -- A session is shown under its own address only, which would have been passed.
    obtain ⟨item, hitem, rfl⟩ := List.mem_map.mp hplace
    rw [List.mem_singleton.mp hother] at hsame
    obtain ⟨holder, -, hholder, hshown, -⟩ := hsound.shows item hitem
    rw [hsame] at hholder
    obtain rfl := Option.some.inj (hholder.symm.trans hconnection)
    rw [← hip, hshown]
    exact hsound.passed item hitem
  · refine List.forall_mem_append.mpr ⟨fun item hitem ↦ ?_, List.forall_mem_singleton.mpr ?_⟩
    · exact List.mem_cons_of_mem _ (hsound.passed item hitem)
    · exact List.mem_cons_self
  · refine List.forall_mem_append.mpr ⟨hsound.shows, List.forall_mem_singleton.mpr ?_⟩
    exact ⟨connection, found, hconnection, hip, hfound, htoken, le_rfl, Nat.zero_le _⟩
  · intro item hitem hpending other hother
    by_cases hsame : item.1 = entry.tx
    · rw [hsame] at hother
      obtain rfl := Option.some.inj (hfound.symm.trans hother)
      exact hfolded
    · obtain hold | hnew := List.mem_append.mp hitem
      · refine hsound.unfolded item hold ⟨by rw [hphase]; simp, hpending.2.1, ?_⟩ other hother
        obtain hup | hdown | hloading := hpending.2.2
        · exact Or.inl hup
        · exact Or.inr (Or.inl hdown)
        · exact absurd (StatsPhase.loading.inj hloading).symm hsame
      · rw [List.mem_singleton.mp hnew] at hsame
        exact absurd rfl hsame
  · intro token total hread
    rw [hempty] at hread
    cases hread

theorem Sound.loadDown (hsound : request.Sound ledger) {index : ℕ} {account : Account}
    (hphase : request.phase = .loading index)
    (haccount : ledger.accounts[index]? = some account) :
    { request with
      phase := .visiting
      live := request.live.map (loadInto index account.down) }.Sound ledger := by
  have hempty := hsound.unread (Or.inr ⟨index, hphase⟩)
  refine ⟨?_, ?_, ?_, fun _ ↦ hempty, ?_, ?_, hsound.answer⟩
  · rw [List.map_map]
    simp only [Function.comp_def, loadInto_fst]
    exact hsound.places
  · refine List.forall_mem_map.mpr fun item hitem ↦ ?_
    rw [loadInto_ip]
    exact hsound.passed item hitem
  · exact List.forall_mem_map.mpr fun item hitem ↦ (hsound.shows item hitem).loadInto haccount
  · refine List.forall_mem_map.mpr fun item hitem hpending other hother ↦ ?_
    rw [loadInto_fst] at hother
    refine hsound.unfolded item hitem ⟨by rw [hphase]; simp, ?_, ?_⟩ other hother
    · rw [hempty]
      exact AList.notMem_empty _
    · by_cases hsame : item.1 = index
      · rw [hphase, hsame]
        exact Or.inr (Or.inr rfl)
      · have hvalues := hpending.2.2
        rw [StatsRequest.loadInto, if_neg hsame] at hvalues
        obtain hup | hdown | hvisiting := hvalues
        · exact Or.inl hup
        · exact Or.inr (Or.inl hdown)
        · cases hvisiting
  · intro token total hread
    rw [hempty] at hread
    cases hread

/-- What an item owes before a step that neither loads nor visits. -/
theorem Pending.of_later {item : ℕ × LiveEntry} (hpending : next.Pending item)
    (hphase : next.phase = .merging) (hbefore : request.phase ≠ .answered)
    (hagg : item.2.token ∈ request.agg → item.2.token ∈ next.agg) : request.Pending item := by
  refine ⟨hbefore, fun hmem ↦ hpending.2.1 (hagg hmem), ?_⟩
  obtain hup | hdown | hloading := hpending.2.2
  · exact Or.inl hup
  · exact Or.inr (Or.inl hdown)
  · rw [hphase] at hloading
    cases hloading

theorem Sound.step (hsound : request.Sound ledger) (hlinked : ledger.Linked)
    {action : RequestAction} (hstep : request.Stepped ledger action next) : next.Sound ledger := by
  cases hstep with
  | missed ip =>
    exact { hsound with
      passed := fun item hmem ↦ List.mem_cons_of_mem _ (hsound.passed item hmem) }
  | visit ip entry account hphase hpassed hlookup haccount =>
    exact hsound.visit hlinked hphase hpassed hlookup haccount
  | loadDown index account hphase haccount => exact hsound.loadDown hphase haccount
  | collected hphase =>
    refine { hsound with unread := ?_, unfolded := ?_ }
    · rintro (h | ⟨_, h⟩) <;> cases h
    · intro item hmem hpending
      exact hsound.unfolded item hmem (hpending.of_later rfl (by rw [hphase]; simp) id)
  | readAgg token total hphase hunread hlookup =>
    refine { hsound with unread := ?_, unfolded := ?_, read := ?_ }
    · rintro (h | ⟨_, h⟩) <;> cases hphase.symm.trans h
    · intro item hmem hpending
      refine hsound.unfolded item hmem (hpending.of_later hphase (by rw [hphase]; simp) fun h ↦ ?_)
      exact (AList.mem_insert _).mpr (Or.inr h)
    · intro other found hread
      by_cases hsame : other = token
      · rw [hsame, AList.lookup_insert] at hread
        obtain rfl := Option.some.inj hread
        rw [hsame]
        exact hsound.total_add_live_le hlinked.sound hphase hunread hlookup
      · rw [AList.lookup_insert_ne hsame] at hread
        exact hsound.read other found hread
  | respond hphase =>
    refine { hsound with unread := ?_, unfolded := ?_, answer := ?_ }
    · rintro (h | ⟨_, h⟩) <;> cases h
    · exact fun item hmem hpending ↦ absurd rfl hpending.1
    · intro response accounts hanswer
      obtain ⟨rfl, rfl⟩ := Prod.mk.inj (Option.some.inj hanswer)
      exact hsound.bounded hlinked.sound.accounts

end StatsRequest

/-! ### The server with its requests -/

/-- The server with the requests that were authorised. -/
structure StatsServer where
  ledger : Ledger
  requests : List StatsRequest

/-- The server goes on, a request comes in, or a request goes on. -/
inductive StatsAction
  | ledger (action : LedgerAction)
  | stats (authorized : Bool)
  | request (place : ℕ) (action : RequestAction)

namespace StatsServer

def start (config : ServerConfig) (ipv6 hasTun : Bool) : StatsServer :=
  { ledger := .start config ipv6 hasTun, requests := [] }

/-- One step. A request that is not authorised is refused at once. -/
def step (server : StatsServer) : StatsAction → Option StatsServer
  | .ledger action => (server.ledger.step action).map fun ledger ↦ { server with ledger }
  | .stats authorized =>
    if authorized then some { server with requests := server.requests ++ [.start server.ledger] }
    else some server
  | .request place action =>
    server.requests[place]?.bind fun request ↦
      (request.step server.ledger action).map fun next ↦
        { server with requests := server.requests.set place next }

/-- No session is folded whose counters are in the snapshot of a request that has yet to read the
total of its token. -/
def Settled (server : StatsServer) : StatsAction → Prop
  | .ledger (.account index .fold) =>
    ∀ request ∈ server.requests, ∀ item ∈ request.live, item.1 = index → ¬ request.Pending item
  | _ => True

instance (server : StatsServer) : DecidablePred server.Settled := fun action ↦ by
  unfold Settled
  split
  · infer_instance
  · infer_instance

/-- What the requests owe to the ledger. -/
structure Sound (server : StatsServer) : Prop where
  linked : server.ledger.Linked
  requests : ∀ request ∈ server.requests, request.Sound server.ledger

theorem Sound.step {server next : StatsServer} {action : StatsAction} (hsound : server.Sound)
    (hsettled : server.Settled action) (hstep : server.step action = some next) : next.Sound := by
  cases action with
  | ledger action =>
    obtain ⟨ledger, hledger, rfl⟩ := Option.map_eq_some_iff.mp hstep
    have hstepped := Ledger.stepped_of_step hledger
    refine ⟨hsound.linked.step hstepped, fun request hmem ↦ ?_⟩
    refine (hsound.requests request hmem).of_ledger hstepped fun item hitem hfold ↦ ?_
    rw [hfold] at hsettled
    exact hsettled request hmem item hitem rfl
  | stats authorized =>
    simp only [StatsServer.step] at hstep
    split_ifs at hstep
    · obtain rfl := Option.some.inj hstep
      refine ⟨hsound.linked, List.forall_mem_append.mpr ⟨hsound.requests, ?_⟩⟩
      exact List.forall_mem_singleton.mpr (StatsRequest.sound_start server.ledger server.ledger)
    · obtain rfl := Option.some.inj hstep
      exact hsound
  | request place action =>
    obtain ⟨request, hrequest, hmap⟩ := Option.bind_eq_some_iff.mp hstep
    obtain ⟨after, hafter, rfl⟩ := Option.map_eq_some_iff.mp hmap
    refine ⟨hsound.linked, fun other hother ↦ ?_⟩
    obtain hold | rfl := List.mem_or_eq_of_mem_set hother
    · exact hsound.requests other hold
    · exact (hsound.requests request (List.mem_of_getElem? hrequest)).step hsound.linked
        (StatsRequest.stepped_of_step hafter)

/-- In every run in which no session is folded whose counters are in the snapshot of a request that
has yet to read the total of its token: no line of an answer exceeds what the sessions with its
token had transferred when the answer was complete. -/
theorem stats_counted_once {config : ServerConfig} {ipv6 hasTun : Bool} {actions : List StatsAction}
    {server : StatsServer}
    (hrun : run (guarded Settled step) (start config ipv6 hasTun) actions = some server)
    {request : StatsRequest} (hrequest : request ∈ server.requests) {response : StatsResp}
    {accounts : List Account} (hanswer : request.answer = some (response, accounts)) :
    ∀ stat ∈ response.peers, stat.up ≤ transferred Account.received accounts stat.token ∧
      stat.down ≤ transferred Account.sent accounts stat.token := by
  have hsound : server.Sound := by
    refine guarded_preserves (fun _ _ _ hsound ↦ hsound.step) hrun ⟨?_, ?_⟩
    · exact Ledger.linked_start config ipv6 hasTun
    · exact fun _ hmem ↦ absurd hmem List.not_mem_nil
  exact (hsound.requests request hrequest).answer response accounts hanswer

section Example

/-- A LAN session that has received a packet. -/
def receivedRun : List StatsAction :=
  [.ledger (.connect (some (.hello (lanHello .vpn)))), .ledger (.task (.assign 0 7)),
    .ledger (.task (.insert6 0)), .ledger (.task (.insert4 0)),
    .ledger (.account 0 (.welcome true)),
    .ledger (.account 0 (.arrive (.packet Gate.lanPacket))), .ledger (.account 0 .addUp),
    .ledger (.account 0 .addTotalUp), .ledger (.account 0 (.handle []))]

/-- A request takes its snapshot. -/
def snapshotRun : List StatsAction :=
  [.stats true, .request 0 (.visit lanPeer.ip), .request 0 .loadDown, .request 0 .collected]

/-- The session ends and is folded. -/
def foldRun : List StatsAction :=
  [.ledger (.account 0 .disconnect), .ledger (.task (.remove4 0)), .ledger (.task (.remove6 0)),
    .ledger (.account 0 .abort), .ledger (.account 0 .loadUp), .ledger (.account 0 .loadDown),
    .ledger (.account 0 .fold)]

/-- The request is answered before the session is folded, with one line that counts it once. -/
theorem stats_counted_once_receivedRun :
    ∃ server, run (guarded Settled step) (start lanServer true true)
        (receivedRun ++ snapshotRun ++ [.request 0 .respond] ++ foldRun) = some server ∧
      ∃ request ∈ server.requests, ∃ response accounts,
        request.answer = some (response, accounts) ∧ response.peers.length = 1 ∧
        ∀ stat ∈ response.peers, stat.up ≤ transferred Account.received accounts stat.token ∧
          stat.down ≤ transferred Account.sent accounts stat.token := by
  obtain ⟨server, hrun, hserver⟩ : ∃ server, run (guarded Settled step) (start lanServer true true)
        (receivedRun ++ snapshotRun ++ [.request 0 .respond] ++ foldRun) = some server ∧
      (server.requests.any fun request ↦ request.answer.any fun answer ↦
        answer.1.peers.length = 1) = true :=
    Option.any_eq_true _ _ |>.mp (by decide +kernel)
  obtain ⟨request, hrequest, hany⟩ := List.any_eq_true.mp hserver
  obtain ⟨⟨response, accounts⟩, hanswer, hlength⟩ := (Option.any_eq_true _ _).mp hany
  exact ⟨server, hrun, request, hrequest, response, accounts, hanswer, of_decide_eq_true hlength,
    stats_counted_once hrun hrequest hanswer⟩

/-- The session is folded between the snapshot and the total of its token: its packet of 20 bytes is
reported as 40. -/
theorem session_counted_twice :
    ¬ ∀ (config : ServerConfig) (ipv6 hasTun : Bool) (actions : List StatsAction)
      (server : StatsServer), run step (start config ipv6 hasTun) actions = some server →
        ∀ request ∈ server.requests, ∀ (response : StatsResp) (accounts : List Account),
          request.answer = some (response, accounts) →
            ∀ stat ∈ response.peers, stat.up ≤ transferred Account.received accounts stat.token ∧
              stat.down ≤ transferred Account.sent accounts stat.token := by
  intro hall
  obtain ⟨server, hrun, hserver⟩ : ∃ server, run step (start lanServer true true)
        (receivedRun ++ snapshotRun ++ foldRun ++
          [.request 0 (.readAgg lanPeer.token), .request 0 .respond]) = some server ∧
      (server.requests.any fun request ↦ request.answer.any fun answer ↦
        answer.1.peers.any fun stat ↦ stat.up = 40 &&
          transferred Account.received answer.2 stat.token = 20) = true :=
    Option.any_eq_true _ _ |>.mp (by decide +kernel)
  obtain ⟨request, hrequest, hany⟩ := List.any_eq_true.mp hserver
  obtain ⟨⟨response, accounts⟩, hanswer, hpeers⟩ := (Option.any_eq_true _ _).mp hany
  obtain ⟨stat, hstat, hvalues⟩ := List.any_eq_true.mp hpeers
  simp only [Bool.and_eq_true, decide_eq_true_iff] at hvalues
  have hle := (hall _ _ _ _ _ hrun request hrequest response accounts hanswer stat hstat).1
  rw [hvalues.1, hvalues.2] at hle
  exact absurd hle (by decide)

end Example

end StatsServer

end EntroTunnel.Server
