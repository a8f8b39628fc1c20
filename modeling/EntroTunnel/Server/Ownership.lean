import EntroTunnel.Server.Connections

/-!
# Whose session the router hands packets to

The entries of the router belong to connections: an IPv4 entry to one that was assigned the address
and has registered, an IPv6 entry to one whose IPv6 address it is and whose `register` has begun, as
long as they have not removed them again (`Owned`). Other connections may have removed or displaced
them, so the converse does not hold.
-/

set_option autoImplicit false
set_option relaxedAutoImplicit false

namespace EntroTunnel.Server

open EntroTunnel.Core EntroTunnel.Foundation

namespace Phase

/-- `register` has written the IPv4 map, and `unregister` has not. -/
def mapped : Phase → Bool
  | .registered | .established | .leaving => true
  | _ => false

/-- `register` has written the IPv6 index, and `unregister` has not. -/
def mapped6 : Phase → Bool
  | .indexed | .registered | .established | .leaving | .removed => true
  | _ => false

theorem mapped_next {phase after : Phase} {action : SessionAction}
    (hnext : phase.next action = some after) :
    (phase.mapped = true → after.mapped = true) ∧
      (phase.mapped6 = true → after.mapped6 = true) := by
  obtain rfl | ⟨rfl, -, rfl⟩ | ⟨rfl, -, rfl⟩ := next_cases hnext
  · exact ⟨id, id⟩
  · decide
  · decide

end Phase

namespace AppState

/-- The entries of the router belong to connections. -/
structure Owned (state : AppState) : Prop where
  entry : ∀ ip entry, state.router.peers.lookup ip = some entry →
    ∃ connection, state.connections[entry.tx]? = some connection ∧ connection.ip = ip ∧
      entry = connection.entry entry.tx ∧ connection.phase.mapped = true
  entry6 : ∀ ip6 index, state.router.owner6 ip6 = some index →
    ∃ connection, state.connections[index]? = some connection ∧ connection.ip6 = some ip6 ∧
      connection.phase.mapped6 = true

variable {state next : AppState} {index : ℕ} {connection changed : Connection}

theorem owned_start (config : ServerConfig) (ipv6 hasTun : Bool) :
    (start config ipv6 hasTun).Owned :=
  ⟨fun _ _ h ↦ absurd h nofun, fun _ _ h ↦ absurd h nofun⟩

/-- A change of one connection, and what the router keeps and gains. -/
theorem Owned.of_put (howned : state.Owned)
    (hconnection : state.connections[index]? = some connection) {router : Router}
    {registrations : List (Ipv4Addr × ℕ)}
    (hentry : ∀ ip entry, router.peers.lookup ip = some entry →
      if entry.tx = index then
        changed.ip = ip ∧ entry = changed.entry index ∧ changed.phase.mapped = true
      else state.router.peers.lookup ip = some entry)
    (hentry6 : ∀ ip6 other, router.owner6 ip6 = some other →
      if other = index then changed.ip6 = some ip6 ∧ changed.phase.mapped6 = true
      else state.router.owner6 ip6 = some other) :
    ({ state.put index changed with router, registrations } : AppState).Owned := by
  constructor
  · intro ip entry hlookup
    show ∃ found, (state.put index changed).connections[entry.tx]? = some found ∧ _
    rw [put_connections hconnection]
    have hcases := hentry ip entry hlookup
    split_ifs at hcases with hsame
    · rw [if_pos hsame.symm]
      exact ⟨changed, rfl, hcases.1, by rw [hsame]; exact hcases.2.1, hcases.2.2⟩
    · rw [if_neg (Ne.symm hsame)]
      exact howned.entry ip entry hcases
  · intro ip6 other hlookup
    show ∃ found, (state.put index changed).connections[other]? = some found ∧ _
    rw [put_connections hconnection]
    have hcases := hentry6 ip6 other hlookup
    split_ifs at hcases with hsame
    · rw [if_pos hsame.symm]
      exact ⟨changed, rfl, hcases⟩
    · rw [if_neg (Ne.symm hsame)]
      exact howned.entry6 ip6 other hcases

/-- What a connection still owns after a change that keeps whose it is. -/
theorem Owned.entry_of_kept (howned : state.Owned)
    (hconnection : state.connections[index]? = some connection)
    (hpeer : changed.session.peer = connection.session.peer)
    (hhello : changed.session.hello = connection.session.hello)
    (hip6 : connection.phase ≠ .admitted → changed.ip6 = connection.ip6)
    (hmapped : connection.phase.mapped = true → changed.phase.mapped = true)
    {ip : Ipv4Addr} {entry : Entry} (hlookup : state.router.peers.lookup ip = some entry) :
    if entry.tx = index then
      changed.ip = ip ∧ entry = changed.entry index ∧ changed.phase.mapped = true
    else state.router.peers.lookup ip = some entry := by
  split_ifs with hsame
  · obtain ⟨found, hfound, hip, hentry, hphase⟩ := howned.entry ip entry hlookup
    rw [hsame] at hfound hentry
    obtain rfl := Option.some.inj (hfound.symm.trans hconnection)
    have hadmitted : found.phase ≠ .admitted := by
      intro h
      rw [h] at hphase
      exact absurd hphase nofun
    refine ⟨?_, ?_, hmapped hphase⟩
    · rw [← hip, Connection.ip, hpeer]
      rfl
    · rw [hentry, Connection.entry, Connection.entry, hpeer, hhello, hip6 hadmitted]
  · exact hlookup

theorem Owned.entry6_of_kept (howned : state.Owned)
    (hconnection : state.connections[index]? = some connection)
    (hip6 : connection.phase ≠ .admitted → changed.ip6 = connection.ip6)
    (hmapped : connection.phase.mapped6 = true → changed.phase.mapped6 = true)
    {ip6 : Ipv6Addr} {other : ℕ} (hlookup : state.router.owner6 ip6 = some other) :
    if other = index then changed.ip6 = some ip6 ∧ changed.phase.mapped6 = true
    else state.router.owner6 ip6 = some other := by
  split_ifs with hsame
  · obtain ⟨found, hfound, haddr, hphase⟩ := howned.entry6 ip6 other hlookup
    rw [hsame] at hfound
    obtain rfl := Option.some.inj (hfound.symm.trans hconnection)
    have hadmitted : found.phase ≠ .admitted := by
      intro h
      rw [h] at hphase
      exact absurd hphase nofun
    exact ⟨(hip6 hadmitted).trans haddr, hmapped hphase⟩
  · exact hlookup

/-- A change of one connection, while the router stays as it is. -/
theorem Owned.of_kept (howned : state.Owned)
    (hconnection : state.connections[index]? = some connection)
    (hpeer : changed.session.peer = connection.session.peer)
    (hhello : changed.session.hello = connection.session.hello)
    (hip6 : connection.phase ≠ .admitted → changed.ip6 = connection.ip6)
    (hmapped : connection.phase.mapped = true → changed.phase.mapped = true)
    (hmapped6 : connection.phase.mapped6 = true → changed.phase.mapped6 = true) :
    (state.put index changed).Owned :=
  @Owned.of_put _ _ _ _ howned hconnection state.router state.registrations
    (fun _ _ h ↦ howned.entry_of_kept hconnection hpeer hhello hip6 hmapped h)
    fun _ _ h ↦ howned.entry6_of_kept hconnection hip6 hmapped6 h

theorem Owned.stepped (howned : state.Owned) {action : ServerAction}
    (hstep : state.Stepped action next) : next.Owned := by
  cases hstep with
  | reconfigure => exact ⟨howned.entry, howned.entry6⟩
  | refused | unrouted => exact howned
  | accepted first peer hello =>
    constructor
    · intro ip entry hlookup
      obtain ⟨found, hfound, hrest⟩ := howned.entry ip entry hlookup
      exact ⟨found, kept_concat hfound _, hrest⟩
    · intro ip6 other hlookup
      obtain ⟨found, hfound, hrest⟩ := howned.entry6 ip6 other hlookup
      exact ⟨found, kept_concat hfound _, hrest⟩
  | assign index sessionId connection hconnection hphase =>
    exact howned.of_kept hconnection rfl rfl (fun h ↦ absurd hphase h) (by rw [hphase]; nofun)
      (by rw [hphase]; nofun)
  | insert6 index connection hconnection hphase =>
    refine howned.of_put hconnection (fun ip entry hlookup ↦ ?_) fun ip6 other hlookup ↦ ?_
    · rw [Router.peers_insert6] at hlookup
      refine howned.entry_of_kept hconnection ?_ ?_ (fun _ ↦ ?_) ?_ hlookup
      · rfl
      · rfl
      · rfl
      · rw [hphase]
        nofun
    · rw [Router.owner6_insert6] at hlookup
      split_ifs at hlookup with haddr
      · rw [if_pos (Option.some.inj hlookup).symm]
        exact ⟨haddr, rfl⟩
      · refine howned.entry6_of_kept hconnection (fun _ ↦ ?_) (fun _ ↦ ?_) hlookup <;> rfl
  | insert4 index connection hconnection hphase =>
    refine howned.of_put hconnection (fun ip entry hlookup ↦ ?_) fun ip6 other hlookup ↦ ?_
    · replace hlookup :
          (state.router.peers.insert connection.ip (connection.entry index)).lookup ip =
        some entry := hlookup
      by_cases hip : ip = connection.ip
      · rw [hip, AList.lookup_insert] at hlookup
        obtain rfl := Option.some.inj hlookup
        rw [if_pos (show (connection.entry index).tx = index from rfl)]
        exact ⟨hip.symm, rfl, rfl⟩
      · rw [AList.lookup_insert_ne hip] at hlookup
        refine howned.entry_of_kept hconnection ?_ ?_ (fun _ ↦ ?_) (fun _ ↦ ?_) hlookup <;> rfl
    · refine howned.entry6_of_kept hconnection (fun _ ↦ ?_) (fun _ ↦ ?_) hlookup <;> rfl
  | established index connection hconnection hphase =>
    exact howned.of_kept hconnection rfl rfl (fun _ ↦ rfl) (fun _ ↦ rfl) fun _ ↦ rfl
  | dropped index connection hconnection hphase =>
    exact howned.of_kept hconnection rfl rfl (fun _ ↦ rfl) (fun _ ↦ rfl) fun _ ↦ rfl
  | session index action connection phase session hconnection hphase hsession =>
    obtain ⟨hpeer, hhello, -⟩ := Session.step_fixed hsession
    obtain ⟨hmapped, hmapped6⟩ := Phase.mapped_next hphase
    exact howned.of_kept hconnection hpeer hhello (fun _ ↦ rfl) hmapped hmapped6
  | remove4 index connection hconnection hphase =>
    refine howned.of_put hconnection (fun ip entry hlookup ↦ ?_) fun ip6 other hlookup ↦ ?_
    · replace hlookup : (state.router.peers.erase connection.ip).lookup ip = some entry := hlookup
      by_cases hip : ip = connection.ip
      · rw [hip, AList.lookup_erase] at hlookup
        exact absurd hlookup nofun
      · rw [AList.lookup_erase_ne hip] at hlookup
        rw [if_neg]
        · exact hlookup
        · intro hsame
          obtain ⟨found, hfound, hfoundIp, -⟩ := howned.entry ip entry hlookup
          rw [hsame] at hfound
          obtain rfl := Option.some.inj (hfound.symm.trans hconnection)
          exact hip hfoundIp.symm
    · refine howned.entry6_of_kept hconnection (fun _ ↦ ?_) (fun _ ↦ ?_) hlookup <;> rfl
  | remove6 index connection hconnection hphase =>
    refine howned.of_put hconnection (fun ip entry hlookup ↦ ?_) fun ip6 other hlookup ↦ ?_
    · rw [Router.peers_remove6] at hlookup
      refine howned.entry_of_kept hconnection ?_ ?_ (fun _ ↦ ?_) ?_ hlookup
      · rfl
      · rfl
      · rfl
      · rw [hphase]
        nofun
    · rw [Router.owner6_remove6] at hlookup
      split_ifs at hlookup with haddr
      rw [if_neg]
      · exact hlookup
      · rintro rfl
        obtain ⟨found, hfound, hfoundIp6, -⟩ := howned.entry6 ip6 other hlookup
        obtain rfl := Option.some.inj (hfound.symm.trans hconnection)
        exact haddr hfoundIp6
  | routed packet index connection outbox hconnection =>
    exact howned.of_kept hconnection rfl rfl (fun _ ↦ rfl) id id

theorem Owned.step (howned : state.Owned) {action : ServerAction}
    (hstep : state.step action = some next) : next.Owned :=
  howned.stepped (stepped_of_step hstep)

/-- The session that a frame for an address is handed to was assigned the address. -/
theorem Owned.owner (howned : state.Owned) {ip : Ipv4Addr}
    (howner : state.router.owner ip = some index) :
    ∃ connection, state.connections[index]? = some connection ∧ connection.ip = ip ∧
      connection.phase.mapped = true := by
  obtain ⟨entry, hlookup, rfl⟩ := Option.map_eq_some_iff.mp howner
  obtain ⟨connection, hconnection, hip, -, hphase⟩ := howned.entry ip entry hlookup
  exact ⟨connection, hconnection, hip, hphase⟩

end AppState

end EntroTunnel.Server
