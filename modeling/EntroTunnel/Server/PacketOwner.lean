import EntroTunnel.Server.Ownership

/-!
# Sessions of one peer in different modes

A client may hold several sessions with one token, in different modes, and only some of them handle
packets: its chain relay runs in HTTP-proxy mode while a second session joins the peer LAN. The
router keeps one session for an address, the one that registered last, whatever it can do, so the
relay takes the address away from the LAN session (`lan_unreachable`). `Considerate` excludes the
steps that do so; in runs without them an address that has a live session for packets is delivered
to one, and listed to the other members if one of its sessions is a member (`packets_preferred`).
-/

set_option autoImplicit false
set_option relaxedAutoImplicit false

namespace EntroTunnel.Server

open EntroTunnel.Core EntroTunnel.Foundation

/-- What a session can do with packets: nothing, take them, or take them as a member of the LAN. -/
def Connection.rank (connection : Connection) : ℕ :=
  if vpnMember connection.session.hello then 2
  else if connection.session.admitsPackets then 1
  else 0

theorem Connection.rank_pos_iff (connection : Connection) :
    0 < connection.rank ↔ connection.session.admitsPackets = true := by
  unfold rank Session.admitsPackets
  cases vpnMember connection.session.hello <;> cases connection.session.hello.mode.isStream <;> simp

theorem Connection.rank_eq_two_iff (connection : Connection) :
    2 ≤ connection.rank ↔ vpnMember connection.session.hello = true := by
  unfold rank
  split_ifs with hmember <;> simp [hmember]

/-- Each key of a map that some holder of it can use for packets belongs to a holder that can do as
much. A connection holds its key in certain phases. -/
def Best {Key : Type*} (key : Connection → Option Key) (holds : Phase → Bool)
    (owner : Key → Option ℕ) (connections : List Connection) : Prop :=
  ∀ (value : Key) (index : ℕ) (connection : Connection), connections[index]? = some connection →
    key connection = some value → holds connection.phase = true → 0 < connection.rank →
      ∃ place holder, owner value = some place ∧ connections[place]? = some holder ∧
        key holder = some value ∧ holds holder.phase = true ∧ connection.rank ≤ holder.rank

namespace Best

variable {Key : Type*} {key : Connection → Option Key} {holds : Phase → Bool}
  {owner : Key → Option ℕ} {state : AppState} {index : ℕ} {connection changed : Connection}

/-- A connection that holds its key or not, as before. -/
theorem kept (hbest : Best key holds owner state.connections)
    (hconnection : state.connections[index]? = some connection)
    (hkey : key changed = key connection) (hholds : holds changed.phase = holds connection.phase)
    (hrank : changed.rank = connection.rank) :
    Best key holds owner (state.put index changed).connections := by
  have hold : ∀ {other : ℕ} {found : Connection},
      (state.put index changed).connections[other]? = some found →
        ∃ old, state.connections[other]? = some old ∧ key found = key old ∧
          holds found.phase = holds old.phase ∧ found.rank = old.rank := by
    intro other found hfound
    rw [AppState.put_connections hconnection] at hfound
    split_ifs at hfound with hsame
    · obtain rfl := Option.some.inj hfound
      exact ⟨connection, hsame ▸ hconnection, hkey, hholds, hrank⟩
    · exact ⟨found, hfound, rfl, rfl, rfl⟩
  intro value other found hfound hvalue hphase hpositive
  obtain ⟨old, hplace, hkeyOld, hholdsOld, hrankOld⟩ := hold hfound
  obtain ⟨place, holder, howner, hholder, hholderKey, hholderPhase, hle⟩ := hbest value other old
    hplace (hkeyOld ▸ hvalue) (hholdsOld ▸ hphase) (hrankOld ▸ hpositive)
  by_cases hsame : index = place
  · subst hsame
    obtain rfl := Option.some.inj (hholder.symm.trans hconnection)
    refine ⟨index, changed, howner, ?_, hkey.trans hholderKey, hholds.trans hholderPhase, ?_⟩
    · rw [AppState.put_connections hconnection, if_pos rfl]
    · rw [hrank, hrankOld]
      exact hle
  · refine ⟨place, holder, howner, ?_, hholderKey, hholderPhase, hrankOld ▸ hle⟩
    rw [AppState.put_connections hconnection, if_neg hsame]
    exact hholder

/-- A connection that holds nothing afterwards; no key that it owned has another holder for packets.
-/
theorem lost (hbest : Best key holds owner state.connections)
    (hconnection : state.connections[index]? = some connection)
    (hholds : holds changed.phase = false)
    (hothers : ∀ value, owner value = some index → key connection = some value →
      holds connection.phase = true → ∀ (other : ℕ) (found : Connection),
        state.connections[other]? = some found → other ≠ index → key found = some value →
          holds found.phase = true → found.rank = 0) :
    Best key holds owner (state.put index changed).connections := by
  intro value other found hfound hvalue hphase hpositive
  rw [AppState.put_connections hconnection] at hfound
  split_ifs at hfound with hsame
  · obtain rfl := Option.some.inj hfound
    exact absurd (hholds.symm.trans hphase) nofun
  · obtain ⟨place, holder, howner, hholder, hholderKey, hholderPhase, hle⟩ :=
      hbest value other found hfound hvalue hphase hpositive
    by_cases hplace : index = place
    · subst hplace
      obtain rfl := Option.some.inj (hholder.symm.trans hconnection)
      have hzero := hothers value howner hholderKey hholderPhase other found hfound (Ne.symm hsame)
        hvalue hphase
      omega
    · refine ⟨place, holder, howner, ?_, hholderKey, hholderPhase, hle⟩
      rw [AppState.put_connections hconnection, if_neg hplace]
      exact hholder

/-- A connection takes its key; the other holders can do no more. -/
theorem gained [DecidableEq Key] (hbest : Best key holds owner state.connections)
    (hconnection : state.connections[index]? = some connection) {value : Key}
    (hkey : key changed = some value) (hholds : holds changed.phase = true)
    (hold : holds connection.phase = false)
    (hothers : ∀ (other : ℕ) (found : Connection), state.connections[other]? = some found →
      other ≠ index → key found = some value → holds found.phase = true →
        found.rank ≤ changed.rank) :
    Best key holds (fun other ↦ if other = value then some index else owner other)
      (state.put index changed).connections := by
  intro wanted other found hfound hwanted hphase hpositive
  have hindex : (state.put index changed).connections[index]? = some changed := by
    rw [AppState.put_connections hconnection, if_pos rfl]
  by_cases hsame : index = other
  · subst hsame
    obtain rfl := Option.some.inj (hfound.symm.trans hindex)
    obtain rfl := Option.some.inj (hkey.symm.trans hwanted)
    exact ⟨index, found, if_pos rfl, hindex, hkey, hholds, le_rfl⟩
  · rw [AppState.put_connections hconnection, if_neg hsame] at hfound
    by_cases hvalue : wanted = value
    · subst hvalue
      exact ⟨index, changed, if_pos rfl, hindex, hkey, hholds,
        hothers other found hfound (Ne.symm hsame) hwanted hphase⟩
    · obtain ⟨place, holder, howner, hholder, hholderKey, hholderPhase, hle⟩ :=
        hbest wanted other found hfound hwanted hphase hpositive
      have hplace : index ≠ place := by
        rintro rfl
        obtain rfl := Option.some.inj (hholder.symm.trans hconnection)
        exact absurd (hold.symm.trans hholderPhase) nofun
      refine ⟨place, holder, (if_neg hvalue).trans howner, ?_, hholderKey, hholderPhase, hle⟩
      rw [AppState.put_connections hconnection, if_neg hplace]
      exact hholder

/-- An entry is removed that no holder needs for packets. -/
theorem removed {connections : List Connection} [DecidableEq Key]
    (hbest : Best key holds owner connections) {value : Key}
    (hnone : ∀ (other : ℕ) (found : Connection), connections[other]? = some found →
      key found = some value → holds found.phase = true → found.rank = 0) :
    Best key holds (fun other ↦ if other = value then none else owner other) connections := by
  intro wanted other found hfound hwanted hphase hpositive
  have hvalue : wanted ≠ value := by
    rintro rfl
    have hzero := hnone other found hfound hwanted hphase
    omega
  obtain ⟨place, holder, howner, hrest⟩ := hbest wanted other found hfound hwanted hphase hpositive
  exact ⟨place, holder, (if_neg hvalue).trans howner, hrest⟩

/-- A connection that is accepted holds nothing. -/
theorem accepted (hbest : Best key holds owner state.connections)
    (hholds : holds changed.phase = false) :
    Best key holds owner (state.connections ++ [changed]) := by
  intro value other found hfound hvalue hphase hpositive
  obtain hold | ⟨-, rfl⟩ := getElem?_concat_eq_some.mp hfound
  · obtain ⟨place, holder, howner, hholder, hrest⟩ :=
      hbest value other found hold hvalue hphase hpositive
    exact ⟨place, holder, howner, AppState.kept_concat hholder _, hrest⟩
  · exact absurd (hholds.symm.trans hphase) nofun

end Best

namespace AppState

/-- No other connection of a kind can do more than `bound`. -/
def atMost (state : AppState) (index bound : ℕ) (kind : Connection → Bool) : Bool :=
  state.connections.zipIdx.all fun found ↦
    found.2 = index || !kind found.1 || found.1.rank ≤ bound

/-- Live, with the IP. -/
def liveAt (ip : Ipv4Addr) (connection : Connection) : Bool :=
  connection.ip = ip && connection.phase.live

/-- In the index, with the IPv6 address. -/
def indexedAt (ip6 : Ipv6Addr) (connection : Connection) : Bool :=
  connection.ip6 = some ip6 && connection.phase.inIndex

/-- A connection may take its entries from sessions that can do no more than it can. -/
def mayTake (state : AppState) (index : ℕ) : Bool :=
  state.connections[index]?.all fun connection ↦
    state.atMost index connection.rank (liveAt connection.ip)

def mayTake6 (state : AppState) (index : ℕ) : Bool :=
  state.connections[index]?.all fun connection ↦ connection.ip6.all fun ip6 ↦
    state.atMost index connection.rank (indexedAt ip6)

/-- A connection may stop to serve an entry of its own when nobody else needs it for packets. -/
def mayLeave (state : AppState) (index : ℕ) : Bool :=
  state.connections[index]?.all fun connection ↦
    (state.router.owner connection.ip ≠ some index ||
      state.atMost index 0 (liveAt connection.ip)) &&
    connection.ip6.all fun ip6 ↦ state.router.owner6 ip6 ≠ some index ||
      state.atMost index 0 (indexedAt ip6)

/-- A connection may remove an entry that nobody else needs for packets. -/
def mayRemove (state : AppState) (index : ℕ) : Bool :=
  state.connections[index]?.all fun connection ↦ state.atMost index 0 (liveAt connection.ip)

def mayRemove6 (state : AppState) (index : ℕ) : Bool :=
  state.connections[index]?.all fun connection ↦ connection.ip6.all fun ip6 ↦
    state.atMost index 0 (indexedAt ip6)

/-- The step takes no entry away from a live session that handles packets. -/
def considerate (state : AppState) : ServerAction → Bool
  | .insert4 index => state.mayTake index
  | .insert6 index => state.mayTake6 index
  | .sendWelcome index sent => sent || state.mayLeave index
  | .session index action => action ≠ .disconnect || state.mayLeave index
  | .remove4 index => state.mayRemove index
  | .remove6 index => state.mayRemove6 index
  | _ => true

/-- The condition on the runs below. -/
abbrev Considerate (state : AppState) (action : ServerAction) : Prop :=
  state.considerate action = true

variable {state next : AppState} {index : ℕ} {connection : Connection}

theorem rank_le_of_atMost {bound : ℕ} {kind : Connection → Bool}
    (hmost : state.atMost index bound kind = true) {other : ℕ} {found : Connection}
    (hfound : state.connections[other]? = some found) (hother : other ≠ index)
    (hkind : kind found = true) : found.rank ≤ bound := by
  have hmem : (found, other) ∈ state.connections.zipIdx :=
    List.mk_mem_zipIdx_iff_getElem?.mpr hfound
  have hall := List.all_eq_true.mp hmost _ hmem
  simpa [hother, hkind] using hall

/-- Both maps give an address to a session that can do the most. -/
structure Preferred (state : AppState) : Prop where
  best : Best (fun connection ↦ some connection.ip) Phase.live state.router.owner state.connections
  best6 : Best Connection.ip6 Phase.inIndex state.router.owner6 state.connections

theorem rank_eq {changed : Connection} (hhello : changed.session.hello = connection.session.hello) :
    changed.rank = connection.rank := by
  unfold Connection.rank Session.admitsPackets
  rw [hhello]

theorem preferred_start (config : ServerConfig) (ipv6 hasTun : Bool) :
    (start config ipv6 hasTun).Preferred :=
  ⟨fun _ _ _ h ↦ absurd h nofun, fun _ _ _ h ↦ absurd h nofun⟩

/-- A connection that stays live, or not, and in the index, or not. -/
theorem Preferred.kept (hpreferred : state.Preferred) {changed : Connection}
    (hconnection : state.connections[index]? = some connection)
    (hpeer : changed.session.peer = connection.session.peer)
    (hhello : changed.session.hello = connection.session.hello)
    (hip6 : changed.ip6 = connection.ip6)
    (hlive : changed.phase.live = connection.phase.live)
    (hindex : changed.phase.inIndex = connection.phase.inIndex) :
    (state.put index changed).Preferred := by
  have hip : changed.ip = connection.ip := congrArg PeerConfig.ip hpeer
  exact ⟨hpreferred.best.kept hconnection (congrArg some hip) hlive (rank_eq hhello),
    hpreferred.best6.kept hconnection hip6 hindex (rank_eq hhello)⟩

/-- A connection whose reader loop ends, or whose `Welcome` fails. -/
theorem Preferred.left (hpreferred : state.Preferred) {changed : Connection}
    (hconnection : state.connections[index]? = some connection)
    (hleave : state.mayLeave index = true) (hphase : changed.phase = .leaving) :
    (state.put index changed).Preferred := by
  have hboth := Option.all_eq_true _ _ |>.mp hleave connection hconnection
  rw [Bool.and_eq_true] at hboth
  have hleave4 : state.router.owner connection.ip = some index →
      state.atMost index 0 (liveAt connection.ip) = true := fun howner ↦ by
    simpa [howner] using hboth.1
  have hleave6 : ∀ ip6 ∈ connection.ip6, state.router.owner6 ip6 = some index →
      state.atMost index 0 (indexedAt ip6) = true := fun ip6 hip6 howner ↦ by
    simpa [howner] using (Option.all_eq_true _ _).mp hboth.2 ip6 hip6
  constructor
  · refine hpreferred.best.lost hconnection (by rw [hphase]; rfl) ?_
    intro ip howner hip _ other found hfound hother hfoundIp hlive
    obtain rfl := Option.some.inj hip
    have hkind : liveAt connection.ip found = true := by
      simp [liveAt, Option.some.inj hfoundIp, hlive]
    exact Nat.le_zero.mp (rank_le_of_atMost (hleave4 howner) hfound hother hkind)
  · refine hpreferred.best6.lost hconnection (by rw [hphase]; rfl) ?_
    intro ip6 howner hip6 _ other found hfound hother hfoundIp6 hindex
    have hkind : indexedAt ip6 found = true := by simp [indexedAt, hfoundIp6, hindex]
    exact Nat.le_zero.mp (rank_le_of_atMost (hleave6 ip6 hip6 howner) hfound hother hkind)

/-- A connection that is neither live nor in the index, before and after. -/
theorem Preferred.idle (hpreferred : state.Preferred) {changed : Connection}
    (hconnection : state.connections[index]? = some connection)
    (hlive : connection.phase.live = false) (hindex : connection.phase.inIndex = false)
    (hlive' : changed.phase.live = false) (hindex' : changed.phase.inIndex = false) :
    (state.put index changed).Preferred :=
  ⟨hpreferred.best.lost hconnection hlive' fun _ _ _ h ↦ absurd (hlive.symm.trans h) nofun,
    hpreferred.best6.lost hconnection hindex' fun _ _ _ h ↦ absurd (hindex.symm.trans h) nofun⟩

theorem Preferred.insert6 (hpreferred : state.Preferred)
    (hconnection : state.connections[index]? = some connection)
    (hphase : connection.phase = .assigned) (htake : state.mayTake6 index = true) :
    ({ state.put index { connection with phase := .indexed } with
      router := state.router.insert6 connection.ip6 index
      registrations := (connection.ip, index) :: state.registrations } : AppState).Preferred := by
  constructor
  · have howner : (state.router.insert6 connection.ip6 index).owner = state.router.owner :=
      funext fun ip ↦ Router.owner_insert6 ..
    show Best _ _ (state.router.insert6 connection.ip6 index).owner (state.put index _).connections
    rw [howner]
    exact hpreferred.best.lost hconnection rfl fun _ _ _ h ↦ by simp [hphase, Phase.live] at h
  · show Best _ _ (state.router.insert6 connection.ip6 index).owner6 (state.put index _).connections
    cases hip6 : connection.ip6 with
    | none =>
      -- Nothing is written, and the connection holds no key.
      intro value other found hfound hvalue hindex hpositive
      rw [put_connections hconnection] at hfound
      split_ifs at hfound with hsame
      · obtain rfl := Option.some.inj hfound
        exact absurd (hip6.symm.trans hvalue) nofun
      · obtain ⟨place, holder, howner, hholder, hrest⟩ :=
          hpreferred.best6 value other found hfound hvalue hindex hpositive
        refine ⟨place, holder, howner, ?_, hrest⟩
        rw [put_connections hconnection, if_neg]
        · exact hholder
        · rintro rfl
          obtain rfl := Option.some.inj (hholder.symm.trans hconnection)
          exact absurd (hip6.symm.trans hrest.1) nofun
    | some ip6 =>
      have howner : (state.router.insert6 (some ip6) index).owner6 =
          fun other ↦ if other = ip6 then some index else state.router.owner6 other := by
        funext other
        rw [Router.owner6_insert6]
        simp only [Option.some.injEq, eq_comm]
      rw [howner]
      refine hpreferred.best6.gained hconnection hip6 rfl (by rw [hphase]; rfl) ?_
      intro other found hfound hother hfoundIp6 hindex
      have hkind : indexedAt ip6 found = true := by simp [indexedAt, hfoundIp6, hindex]
      have hmost := (Option.all_eq_true _ _).mp htake connection hconnection
      rw [hip6] at hmost
      exact rank_le_of_atMost hmost hfound hother hkind

theorem Preferred.insert4 (hpreferred : state.Preferred)
    (hconnection : state.connections[index]? = some connection)
    (hphase : connection.phase = .indexed) (htake : state.mayTake index = true) :
    ({ state.put index { connection with phase := .registered } with
      router := state.router.insert4 connection.ip (connection.entry index) } : AppState).Preferred
    := by
  constructor
  · have howner : (state.router.insert4 connection.ip (connection.entry index)).owner =
        fun other ↦ if other = connection.ip then some index else state.router.owner other :=
      funext fun other ↦ Router.owner_insert4 ..
    show Best _ _ (state.router.insert4 connection.ip (connection.entry index)).owner
      (state.put index _).connections
    rw [howner]
    refine hpreferred.best.gained hconnection rfl rfl (by rw [hphase]; rfl) ?_
    intro other found hfound hother hfoundIp hlive
    have hkind : liveAt connection.ip found = true := by
      simp [liveAt, Option.some.inj hfoundIp, hlive]
    have hmost := (Option.all_eq_true _ _).mp htake connection hconnection
    exact rank_le_of_atMost hmost hfound hother hkind
  · refine hpreferred.best6.kept hconnection ?_ ?_ ?_
    · rfl
    · rw [hphase]
      rfl
    · rfl

theorem Preferred.remove4 (hpreferred : state.Preferred)
    (hconnection : state.connections[index]? = some connection)
    (hphase : connection.phase = .leaving) (hremove : state.mayRemove index = true) :
    ({ state.put index { connection with phase := .removed } with
      router := state.router.remove4 connection.ip } : AppState).Preferred := by
  have hidle : (state.put index { connection with phase := .removed }).Preferred :=
    hpreferred.idle hconnection (by rw [hphase]; rfl) (by rw [hphase]; rfl) rfl rfl
  refine ⟨?_, hidle.best6⟩
  have howner : (state.router.remove4 connection.ip).owner =
      fun other ↦ if other = connection.ip then none else state.router.owner other :=
    funext fun other ↦ Router.owner_remove4 ..
  show Best _ _ (state.router.remove4 connection.ip).owner (state.put index _).connections
  rw [howner]
  refine hidle.best.removed fun other found hfound hfoundIp hlive ↦ ?_
  rw [put_connections hconnection] at hfound
  split_ifs at hfound with hother
  · obtain rfl := Option.some.inj hfound
    exact absurd hlive nofun
  · have hkind : liveAt connection.ip found = true := by
      simp [liveAt, Option.some.inj hfoundIp, hlive]
    have hmost := (Option.all_eq_true _ _).mp hremove connection hconnection
    exact Nat.le_zero.mp (rank_le_of_atMost hmost hfound (Ne.symm hother) hkind)

theorem Preferred.remove6 (hpreferred : state.Preferred)
    (hconnection : state.connections[index]? = some connection)
    (hphase : connection.phase = .removed) (hremove : state.mayRemove6 index = true) :
    ({ state.put index { connection with phase := .unregistered } with
      router := state.router.remove6 connection.ip6 } : AppState).Preferred := by
  have hidle : (state.put index { connection with phase := .unregistered }).Preferred :=
    hpreferred.idle hconnection (by rw [hphase]; rfl) (by rw [hphase]; rfl) rfl rfl
  constructor
  · have howner : (state.router.remove6 connection.ip6).owner = state.router.owner :=
      funext fun ip ↦ Router.owner_remove6 ..
    show Best _ _ (state.router.remove6 connection.ip6).owner (state.put index _).connections
    rw [howner]
    exact hidle.best
  · show Best _ _ (state.router.remove6 connection.ip6).owner6 (state.put index _).connections
    cases hip6 : connection.ip6 with
    | none => exact hidle.best6
    | some ip6 =>
      have howner : (state.router.remove6 (some ip6)).owner6 =
          fun other ↦ if other = ip6 then none else state.router.owner6 other := by
        funext other
        rw [Router.owner6_remove6]
        simp only [Option.some.injEq, eq_comm]
      rw [howner]
      refine hidle.best6.removed fun other found hfound hfoundIp6 hindex ↦ ?_
      rw [put_connections hconnection] at hfound
      split_ifs at hfound with hother
      · obtain rfl := Option.some.inj hfound
        exact absurd hindex nofun
      · have hkind : indexedAt ip6 found = true := by simp [indexedAt, hfoundIp6, hindex]
        have hmost := (Option.all_eq_true _ _).mp hremove connection hconnection
        rw [hip6] at hmost
        exact Nat.le_zero.mp (rank_le_of_atMost hmost hfound (Ne.symm hother) hkind)

/-- Every considerate step keeps the preference. -/
theorem Preferred.step (hpreferred : state.Preferred) {action : ServerAction}
    (hconsiderate : state.Considerate action) (hstep : state.step action = some next) :
    next.Preferred := by
  cases stepped_of_step hstep with
  | reconfigure => exact ⟨hpreferred.best, hpreferred.best6⟩
  | refused | unrouted => exact hpreferred
  | accepted => exact ⟨hpreferred.best.accepted rfl, hpreferred.best6.accepted rfl⟩
  | assign index sessionId connection hconnection hphase =>
    exact hpreferred.idle hconnection (by rw [hphase]; rfl) (by rw [hphase]; rfl) rfl rfl
  | insert6 index connection hconnection hphase =>
    exact hpreferred.insert6 hconnection hphase hconsiderate
  | insert4 index connection hconnection hphase =>
    exact hpreferred.insert4 hconnection hphase hconsiderate
  | established index connection hconnection hphase =>
    exact hpreferred.kept hconnection rfl rfl rfl (by rw [hphase]; rfl) (by rw [hphase]; rfl)
  | dropped index connection hconnection => exact hpreferred.left hconnection hconsiderate rfl
  | session index action connection phase session hconnection hphase hsession =>
    obtain ⟨hpeer, hhello, -⟩ := Session.step_fixed hsession
    obtain rfl | ⟨-, rfl, rfl⟩ | ⟨hold, -, rfl⟩ := Phase.next_cases hphase
    · exact hpreferred.kept hconnection hpeer hhello rfl rfl rfl
    · exact hpreferred.left hconnection hconsiderate rfl
    · exact hpreferred.idle hconnection (by rw [hold]; rfl) (by rw [hold]; rfl) rfl rfl
  | remove4 index connection hconnection hphase =>
    exact hpreferred.remove4 hconnection hphase hconsiderate
  | remove6 index connection hconnection hphase =>
    exact hpreferred.remove6 hconnection hphase hconsiderate
  | routed packet index connection outbox hconnection =>
    refine hpreferred.kept hconnection ?_ ?_ ?_ ?_ ?_ <;> rfl

/-- An entry of the IPv4 map is listed to the others if its session is a member. -/
theorem mem_peerInfos {router : Router} {ip assigned : Ipv4Addr} {entry : Entry}
    (hlookup : router.peers.lookup ip = some entry) (hmember : entry.info.vpnMember = true)
    (hassigned : ip ≠ assigned) : ∃ peer ∈ router.peerInfos assigned, peer.ip = ip := by
  refine ⟨⟨ip, entry.info.name, entry.info.ip6⟩, List.mem_map.mpr ⟨(ip, entry.info), ?_, rfl⟩, rfl⟩
  refine List.mem_filter.mpr ⟨List.mem_map.mpr ⟨⟨ip, entry⟩, ?_, rfl⟩, by simp [hassigned, hmember]⟩
  exact AList.mem_lookup_iff.mp hlookup

/-- In a considerate run an address that has a live session for packets is delivered to one, and its
IPv4 address is listed to the other members if one of its live sessions is a member. -/
theorem packets_preferred {config : ServerConfig} {ipv6 hasTun : Bool}
    {actions : List ServerAction}
    (hrun : run (guarded Considerate AppState.step) (start config ipv6 hasTun) actions = some state)
    (hconnection : state.connections[index]? = some connection)
    (hlive : connection.phase.live = true) (hpackets : connection.session.admitsPackets = true) :
    (∃ place holder, state.connections[place]? = some holder ∧ holder.ip = connection.ip ∧
        holder.phase.live = true ∧ holder.session.admitsPackets = true ∧
        ∀ frame, state.deliver connection.ip frame = state.handTo place frame) ∧
      (∀ ip6 ∈ connection.ip6, ∃ place holder, state.connections[place]? = some holder ∧
        holder.ip6 = some ip6 ∧ holder.phase.inIndex = true ∧
        holder.session.admitsPackets = true ∧
        ∀ frame, state.deliver6 ip6 frame = state.handTo place frame) ∧
      (vpnMember connection.session.hello = true → ∀ assigned, connection.ip ≠ assigned →
        ∃ peer ∈ state.router.peerInfos assigned, peer.ip = connection.ip) := by
  have hpreferred : state.Preferred :=
    guarded_preserves (fun _ _ _ h hconsiderate hstep ↦ Preferred.step h hconsiderate hstep) hrun
      (preferred_start config ipv6 hasTun)
  have howned : state.Owned :=
    run_preserves (fun _ _ _ h hstep ↦ Owned.step h hstep) (run_of_guarded hrun)
      (owned_start config ipv6 hasTun)
  have hpositive := connection.rank_pos_iff.mpr hpackets
  have hindex : connection.phase.inIndex = true := by
    cases hphase : connection.phase <;> rw [hphase] at hlive <;> first | rfl | exact hlive
  obtain ⟨place, holder, howner, hholder, hip, hholderLive, hle⟩ :=
    hpreferred.best connection.ip index connection hconnection rfl hlive hpositive
  refine ⟨⟨place, holder, hholder, Option.some.inj hip, hholderLive,
    holder.rank_pos_iff.mp (hpositive.trans_le hle), fun frame ↦ ?_⟩, fun ip6 hip6 ↦ ?_,
    fun hmember assigned hassigned ↦ ?_⟩
  · rw [deliver, howner]
  · obtain ⟨place, holder, howner, hholder, hholderIp6, hholderIndex, hle⟩ :=
      hpreferred.best6 ip6 index connection hconnection hip6 hindex hpositive
    refine ⟨place, holder, hholder, hholderIp6, hholderIndex,
      holder.rank_pos_iff.mp (hpositive.trans_le hle), fun frame ↦ ?_⟩
    rw [deliver6, howner]
  · obtain ⟨entry, hlookup, rfl⟩ := Option.map_eq_some_iff.mp howner
    obtain ⟨found, hfound, -, hentry, -⟩ := howned.entry connection.ip entry hlookup
    obtain rfl := Option.some.inj (hfound.symm.trans hholder)
    have hfoundMember := found.rank_eq_two_iff.mp
      ((connection.rank_eq_two_iff.mpr hmember).trans hle)
    refine mem_peerInfos hlookup ?_ hassigned
    rw [hentry]
    exact hfoundMember

/-! ### A relay session beside a LAN session -/

section Example

/-- A session of the peer registers in a mode. -/
def registerRun (index : ℕ) (mode : SessionMode) : List ServerAction :=
  [.connect (some (.hello (lanHello mode))), .assign index 0, .insert6 index, .insert4 index,
    .sendWelcome index true]

/-- A proxy session of a peer registers first and its VPN session after it: packets to the address
reach a session that admits them. -/
theorem packets_preferred_registerRun :
    ∃ state, run (guarded Considerate AppState.step) (start lanServer true true)
        (registerRun 0 .httpProxy ++ registerRun 1 .vpn) = some state ∧
      ∃ connection, state.connections[1]? = some connection ∧
        (∃ place holder, state.connections[place]? = some holder ∧ holder.ip = connection.ip ∧
          holder.phase.live = true ∧ holder.session.admitsPackets = true ∧
          ∀ frame, state.deliver connection.ip frame = state.handTo place frame) ∧
        (∀ ip6 ∈ connection.ip6, ∃ place holder, state.connections[place]? = some holder ∧
          holder.ip6 = some ip6 ∧ holder.phase.inIndex = true ∧
          holder.session.admitsPackets = true ∧
          ∀ frame, state.deliver6 ip6 frame = state.handTo place frame) ∧
        (vpnMember connection.session.hello = true → ∀ assigned, connection.ip ≠ assigned →
          ∃ peer ∈ state.router.peerInfos assigned, peer.ip = connection.ip) := by
  obtain ⟨state, hrun, hstate⟩ : ∃ state,
      run (guarded Considerate AppState.step) (start lanServer true true)
        (registerRun 0 .httpProxy ++ registerRun 1 .vpn) = some state ∧
      (state.connections[1]?.any fun connection ↦
        connection.phase.live && connection.session.admitsPackets) = true :=
    Option.any_eq_true _ _ |>.mp (by decide +kernel)
  obtain ⟨connection, hconnection, hphase⟩ := Option.any_eq_true _ _ |>.mp hstate
  rw [Bool.and_eq_true] at hphase
  exact ⟨state, hrun, connection, hconnection,
    packets_preferred hrun hconnection hphase.1 hphase.2⟩

/-- The number of frames in the queue of a connection. -/
def queued (state : AppState) (index : ℕ) : ℕ :=
  (state.connections[index]?.map fun connection ↦ connection.session.outbox.items.length).getD 0

/-- The relay session registers after the LAN session, and packets for the LAN go to the relay. -/
theorem lan_unreachable :
    ¬ ∀ (config : ServerConfig) (ipv6 hasTun : Bool) (actions : List ServerAction)
      (state : AppState) (index : ℕ) (connection : Connection),
      run AppState.step (start config ipv6 hasTun) actions = some state →
        state.connections[index]? = some connection → connection.phase.live = true →
          connection.session.admitsPackets = true →
            ∃ place holder, state.connections[place]? = some holder ∧
              holder.session.admitsPackets = true ∧
              ∀ frame, state.deliver connection.ip frame = state.handTo place frame := by
  intro hall
  obtain ⟨state, hrun, hstate⟩ : ∃ state,
      run AppState.step (start lanServer true true)
        (registerRun 0 .vpn ++ registerRun 1 .httpProxy) = some state ∧
      (state.connections[0]?.any (fun connection ↦
          connection.phase.live && connection.session.admitsPackets &&
            connection.ip = lanPeer.ip) &&
        state.connections.zipIdx.all (fun found ↦
          !found.1.session.admitsPackets || found.2 = 0) &&
        (state.deliver lanPeer.ip .ping).1.queued 0 ≠ (state.handTo 0 .ping).1.queued 0) = true :=
    Option.any_eq_true _ _ |>.mp (by decide +kernel)
  simp only [Bool.and_eq_true, decide_eq_true_iff] at hstate
  obtain ⟨⟨hfirst, hothers⟩, hqueued⟩ := hstate
  obtain ⟨connection, hconnection, hlive⟩ := Option.any_eq_true _ _ |>.mp hfirst
  simp only [Bool.and_eq_true, decide_eq_true_iff] at hlive
  obtain ⟨place, holder, hholder, hpackets, hdeliver⟩ :=
    hall _ _ _ _ _ _ _ hrun hconnection hlive.1.1 hlive.1.2
  have hplace := List.all_eq_true.mp hothers (holder, place)
    (List.mk_mem_zipIdx_iff_getElem?.mpr hholder)
  obtain rfl : place = 0 := by simpa [hpackets] using hplace
  rw [hlive.2] at hdeliver
  exact hqueued (by rw [hdeliver])

end Example

end AppState

end EntroTunnel.Server
