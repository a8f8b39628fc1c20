import EntroTunnel.Server.Connections

/-!
# Router entries of live sessions

Whether the session that registered a virtual IP last keeps its entries in the router. `unregister`
removes what stands under an IP, whoever registered it, and two sessions of one token overlap
whenever a client reconnects before the server has noticed that its old link is gone: the end of the
old session then takes away the entries of the new one (`entry_lost`). `Undisturbed` excludes the
steps that do so: a write to the router by a connection while a later one for the same IP is live,
and the removal of an index entry that a later one has written. In runs without such steps every
live session that registered last is reached under its addresses (`live_session_reached`).
-/

set_option autoImplicit false
set_option relaxedAutoImplicit false

namespace EntroTunnel.Server

open EntroTunnel.Core EntroTunnel.Foundation

namespace AppState

/-- The step does not write to what a later live connection for the same IP relies on. -/
def Undisturbed (state : AppState) : ServerAction → Prop
  | .insert4 index | .remove4 index =>
    ∀ connection ∈ state.connections[index]?, ∀ latest ∈ state.latestFor connection.ip,
      latest ≠ index → ∀ other ∈ state.connections[latest]?, other.phase.live = false
  | .remove6 index =>
    ∀ connection ∈ state.connections[index]?, ∀ latest ∈ state.latestFor connection.ip,
      latest ≠ index → ∀ other ∈ state.connections[latest]?,
        connection.ip6 = none ∨ other.ip6 ≠ connection.ip6 ∨ other.phase.inIndex = false
  | _ => True

instance (state : AppState) : DecidablePred state.Undisturbed
  | .insert4 index => inferInstanceAs (Decidable (∀ connection ∈ state.connections[index]?,
      ∀ latest ∈ state.latestFor connection.ip, latest ≠ index →
        ∀ other ∈ state.connections[latest]?, other.phase.live = false))
  | .remove4 index => inferInstanceAs (Decidable (∀ connection ∈ state.connections[index]?,
      ∀ latest ∈ state.latestFor connection.ip, latest ≠ index →
        ∀ other ∈ state.connections[latest]?, other.phase.live = false))
  | .remove6 index => inferInstanceAs (Decidable (∀ connection ∈ state.connections[index]?,
      ∀ latest ∈ state.latestFor connection.ip, latest ≠ index →
        ∀ other ∈ state.connections[latest]?,
          connection.ip6 = none ∨ other.ip6 ≠ connection.ip6 ∨ other.phase.inIndex = false))
  | .reconfigure _ | .connect _ | .assign _ _ | .insert6 _ | .sendWelcome _ _ | .session _ _
  | .tunPacket _ => .isTrue trivial

/-- The invariant of runs without disturbance. -/
structure Sound (state : AppState) : Prop where
  known : ∀ ip index, (ip, index) ∈ state.registrations →
    ∃ connection, state.connections[index]? = some connection ∧ connection.ip = ip ∧
      connection.phase.started = true
  derived : ∀ (index : ℕ) (connection : Connection), state.connections[index]? = some connection →
    ∀ ip6 ∈ connection.ip6, ∃ subnet6, ip6 = deriveIpv6 subnet6 connection.ip
  owns : ∀ ip index connection, state.latestFor ip = some index →
    state.connections[index]? = some connection → connection.phase.live = true →
      state.router.owner ip = some index
  owns6 : ∀ ip index connection, state.latestFor ip = some index →
    state.connections[index]? = some connection → connection.phase.inIndex = true →
      ∀ ip6 ∈ connection.ip6, state.router.owner6 ip6 = some index

variable {state next : AppState} {index : ℕ} {connection changed : Connection}

theorem sound_start (config : ServerConfig) (ipv6 hasTun : Bool) :
    (start config ipv6 hasTun).Sound :=
  ⟨fun _ _ h ↦ absurd h (List.not_mem_nil), fun _ _ h ↦ absurd h nofun,
    fun _ _ _ h ↦ absurd h nofun, fun _ _ _ h ↦ absurd h nofun⟩

/-- The latest connection for an IP was assigned that IP. -/
theorem Sound.ip_of_latestFor (hsound : state.Sound) {ip : Ipv4Addr}
    (hlatest : state.latestFor ip = some index)
    (hconnection : state.connections[index]? = some connection) :
    connection.ip = ip ∧ connection.phase.started = true := by
  obtain ⟨before, after, hsplit, -⟩ := List.lookup_eq_some_iff.mp hlatest
  obtain ⟨found, hfound, hip, hstarted⟩ := hsound.known ip index (by simp [hsplit])
  obtain rfl : found = connection := Option.some.inj (hfound.symm.trans hconnection)
  exact ⟨hip, hstarted⟩

/-- Connections with one IPv6 address have one IP. -/
theorem Sound.ip_eq_of_ip6 (hsound : state.Sound) {other : ℕ} {found : Connection} {ip6 : Ipv6Addr}
    (hconnection : state.connections[index]? = some connection)
    (hfound : state.connections[other]? = some found) (hip6 : connection.ip6 = some ip6)
    (hother : ip6 ∈ found.ip6) : connection.ip = found.ip := by
  obtain ⟨first, hfirst⟩ := hsound.derived index connection hconnection ip6 hip6
  obtain ⟨second, hsecond⟩ := hsound.derived other found hfound ip6 hother
  exact eq_of_deriveIpv6_eq (hfirst.symm.trans hsecond)

/-- A change of one connection that keeps its addresses; what the router owes is shown apart. -/
theorem Sound.of_put (hsound : state.Sound)
    (hconnection : state.connections[index]? = some connection) (hip : changed.ip = connection.ip)
    (hstarted : connection.phase.started = true → changed.phase.started = true)
    (hderived : ∀ ip6 ∈ changed.ip6, ∃ subnet6, ip6 = deriveIpv6 subnet6 changed.ip)
    (router : Router)
    (howns : ∀ ip latest found, state.latestFor ip = some latest →
      (state.put index changed).connections[latest]? = some found → found.phase.live = true →
        router.owner ip = some latest)
    (howns6 : ∀ ip latest found, state.latestFor ip = some latest →
      (state.put index changed).connections[latest]? = some found → found.phase.inIndex = true →
        ∀ ip6 ∈ found.ip6, router.owner6 ip6 = some latest) :
    ({ state.put index changed with router } : AppState).Sound := by
  refine ⟨fun ip other hregistered ↦ ?_, fun other found hfound ↦ ?_, howns, howns6⟩
  · obtain ⟨found, hfound, hsame, hphase⟩ := hsound.known ip other hregistered
    show ∃ found, (state.put index changed).connections[other]? = some found ∧ _
    rw [put_connections hconnection]
    split_ifs with hother
    · subst hother
      obtain rfl : found = connection := Option.some.inj (hfound.symm.trans hconnection)
      exact ⟨changed, rfl, hip.trans hsame, hstarted hphase⟩
    · exact ⟨found, hfound, hsame, hphase⟩
  · replace hfound : (state.put index changed).connections[other]? = some found := hfound
    rw [put_connections hconnection] at hfound
    split_ifs at hfound
    · obtain rfl := Option.some.inj hfound
      exact hderived
    · exact hsound.derived other found hfound

/-- A change of one connection that neither makes it live nor puts it into the index. -/
theorem Sound.of_change (hsound : state.Sound)
    (hconnection : state.connections[index]? = some connection) (hip : changed.ip = connection.ip)
    (hip6 : changed.ip6 = connection.ip6)
    (hstarted : connection.phase.started = true → changed.phase.started = true)
    (hlive : changed.phase.live = true → connection.phase.live = true)
    (hindex : changed.phase.inIndex = true → connection.phase.inIndex = true) :
    (state.put index changed).Sound := by
  have hfound : ∀ (latest : ℕ) (found : Connection),
      (state.put index changed).connections[latest]? = some found →
      ∃ old : Connection, state.connections[latest]? = some old ∧ found.ip6 = old.ip6 ∧
        (found.phase.live = true → old.phase.live = true) ∧
          (found.phase.inIndex = true → old.phase.inIndex = true) := by
    intro latest found hfound
    rw [put_connections hconnection] at hfound
    split_ifs at hfound with hother
    · obtain rfl := Option.some.inj hfound
      exact ⟨connection, hother ▸ hconnection, hip6, hlive, hindex⟩
    · exact ⟨found, hfound, rfl, fun h ↦ h, fun h ↦ h⟩
  refine hsound.of_put hconnection hip hstarted ?_ state.router ?_ ?_
  · rw [hip6, hip]
    exact hsound.derived index connection hconnection
  · intro ip latest found hlatest hput hphase
    obtain ⟨old, hold, -, holdLive, -⟩ := hfound latest found hput
    exact hsound.owns ip latest old hlatest hold (holdLive hphase)
  · intro ip latest found hlatest hput hphase
    obtain ⟨old, hold, holdIp6, -, holdIndex⟩ := hfound latest found hput
    rw [holdIp6]
    exact hsound.owns6 ip latest old hlatest hold (holdIndex hphase)

/-! ### The writes to the router -/

/-- The first write of `register` makes the connection the latest one for its IP. -/
theorem Sound.insert6 (hsound : state.Sound)
    (hconnection : state.connections[index]? = some connection)
    (hphase : connection.phase = .assigned) :
    ({ state.put index { connection with phase := .indexed } with
      router := state.router.insert6 connection.ip6 index
      registrations := (connection.ip, index) :: state.registrations } : AppState).Sound := by
  -- A connection that has not begun to register is not the latest one for any IP.
  have hnew : ∀ ip, state.latestFor ip ≠ some index := by
    intro ip hlatest
    have hstarted := (hsound.ip_of_latestFor hlatest hconnection).2
    rw [hphase] at hstarted
    exact absurd hstarted (by decide)
  have hlatest : ∀ ip latest, ((connection.ip, index) :: state.registrations).lookup ip =
      some latest → (ip = connection.ip ∧ latest = index) ∨
        (ip ≠ connection.ip ∧ state.latestFor ip = some latest ∧ latest ≠ index) := by
    intro ip latest hlookup
    rw [List.lookup_cons] at hlookup
    by_cases hip : ip = connection.ip
    · rw [beq_iff_eq.mpr hip] at hlookup
      exact .inl ⟨hip, (Option.some.inj hlookup).symm⟩
    · rw [beq_eq_false_iff_ne.mpr hip] at hlookup
      exact .inr ⟨hip, hlookup, fun h ↦ hnew ip (h ▸ hlookup)⟩
  refine ⟨fun ip other hregistered ↦ ?_, fun other found hfound ↦ ?_, fun ip latest found h hput
    hlive ↦ ?_, fun ip latest found h hput hindex ip6 hip6 ↦ ?_⟩
  · show ∃ found, (state.put index _).connections[other]? = some found ∧ _
    rw [put_connections hconnection]
    obtain hhead | htail := List.mem_cons.mp hregistered
    · obtain ⟨rfl, rfl⟩ := Prod.mk.inj hhead
      exact ⟨_, if_pos rfl, rfl, rfl⟩
    · obtain ⟨found, hfound, hsame, hstarted⟩ := hsound.known ip other htail
      split_ifs with hother
      · subst hother
        obtain rfl : found = connection := Option.some.inj (hfound.symm.trans hconnection)
        exact ⟨_, rfl, hsame, rfl⟩
      · exact ⟨found, hfound, hsame, hstarted⟩
  · replace hfound : (state.put index _).connections[other]? = some found := hfound
    rw [put_connections hconnection] at hfound
    split_ifs at hfound
    · obtain rfl := Option.some.inj hfound
      exact hsound.derived index connection hconnection
    · exact hsound.derived other found hfound
  · replace hput : (state.put index _).connections[latest]? = some found := hput
    rw [put_connections hconnection] at hput
    show (state.router.insert6 _ _).owner ip = _
    rw [Router.owner_insert6]
    obtain ⟨-, rfl⟩ | ⟨-, hold, hother⟩ := hlatest ip latest h
    · rw [if_pos rfl] at hput
      obtain rfl := Option.some.inj hput
      exact absurd hlive Bool.false_ne_true
    · rw [if_neg (Ne.symm hother)] at hput
      exact hsound.owns ip latest found hold hput hlive
  · replace hput : (state.put index _).connections[latest]? = some found := hput
    rw [put_connections hconnection] at hput
    show (state.router.insert6 _ _).owner6 ip6 = _
    rw [Router.owner6_insert6]
    obtain ⟨-, rfl⟩ | ⟨hip, hold, hother⟩ := hlatest ip latest h
    · rw [if_pos rfl] at hput
      obtain rfl := Option.some.inj hput
      exact if_pos hip6
    · rw [if_neg (Ne.symm hother)] at hput
      rw [if_neg]
      · exact hsound.owns6 ip latest found hold hput hindex ip6 hip6
      · intro hsame
        have hsameIp := hsound.ip_eq_of_ip6 hconnection hput hsame hip6
        exact hip ((hsound.ip_of_latestFor hold hput).1.symm.trans hsameIp.symm)

/-- The second write of `register`, while no later connection for the IP is live. -/
theorem Sound.insert4 (hsound : state.Sound)
    (hconnection : state.connections[index]? = some connection)
    (hphase : connection.phase = .indexed) (hundisturbed : state.Undisturbed (.insert4 index)) :
    ({ state.put index { connection with phase := .registered } with
      router := state.router.insert4 connection.ip (connection.entry index) } :
      AppState).Sound := by
  refine hsound.of_put hconnection ?_ ?_ ?_ _ (fun ip latest found hlatest hput hlive ↦ ?_)
    fun ip latest found hlatest hput hindex ip6 hip6 ↦ ?_
  · rfl
  · exact fun _ ↦ rfl
  · exact hsound.derived index connection hconnection
  · rw [put_connections hconnection] at hput
    rw [Router.owner_insert4]
    by_cases hlatestIndex : index = latest
    · subst hlatestIndex
      rw [if_pos (hsound.ip_of_latestFor hlatest hconnection).1.symm]
      rfl
    · rw [if_neg hlatestIndex] at hput
      split_ifs with hip
      · subst hip
        have hdead := hundisturbed connection hconnection latest hlatest (Ne.symm hlatestIndex)
          found hput
        exact absurd (hlive.symm.trans hdead) (by decide)
      · exact hsound.owns ip latest found hlatest hput hlive
  · rw [put_connections hconnection] at hput
    rw [Router.owner6_insert4]
    split_ifs at hput with hlatestIndex
    · subst hlatestIndex
      obtain rfl := Option.some.inj hput
      exact hsound.owns6 ip index connection hlatest hconnection (by rw [hphase]; rfl) ip6 hip6
    · exact hsound.owns6 ip latest found hlatest hput hindex ip6 hip6

/-- The first write of `unregister`, while no later connection for the IP is live. -/
theorem Sound.remove4 (hsound : state.Sound)
    (hconnection : state.connections[index]? = some connection)
    (hundisturbed : state.Undisturbed (.remove4 index)) :
    ({ state.put index { connection with phase := .removed } with
      router := state.router.remove4 connection.ip } : AppState).Sound := by
  refine hsound.of_put hconnection ?_ ?_ ?_ _ (fun ip latest found hlatest hput hlive ↦ ?_)
    fun ip latest found hlatest hput hindex ip6 hip6 ↦ ?_
  · rfl
  · exact fun _ ↦ rfl
  · exact hsound.derived index connection hconnection
  · rw [put_connections hconnection] at hput
    rw [Router.owner_remove4]
    split_ifs at hput with hlatestIndex
    · obtain rfl := Option.some.inj hput
      exact absurd hlive Bool.false_ne_true
    · split_ifs with hip
      · subst hip
        have hdead := hundisturbed connection hconnection latest hlatest (Ne.symm hlatestIndex)
          found hput
        exact absurd (hlive.symm.trans hdead) (by decide)
      · exact hsound.owns ip latest found hlatest hput hlive
  · rw [put_connections hconnection] at hput
    rw [Router.owner6_remove4]
    split_ifs at hput with hlatestIndex
    · obtain rfl := Option.some.inj hput
      exact absurd hindex Bool.false_ne_true
    · exact hsound.owns6 ip latest found hlatest hput hindex ip6 hip6

/-- The second write of `unregister`, while no later connection stands in the index there. -/
theorem Sound.remove6 (hsound : state.Sound)
    (hconnection : state.connections[index]? = some connection)
    (hundisturbed : state.Undisturbed (.remove6 index)) :
    ({ state.put index { connection with phase := .unregistered } with
      router := state.router.remove6 connection.ip6 } : AppState).Sound := by
  refine hsound.of_put hconnection ?_ ?_ ?_ _ (fun ip latest found hlatest hput hlive ↦ ?_)
    fun ip latest found hlatest hput hindex ip6 hip6 ↦ ?_
  · rfl
  · exact fun _ ↦ rfl
  · exact hsound.derived index connection hconnection
  · rw [put_connections hconnection] at hput
    rw [Router.owner_remove6]
    split_ifs at hput with hlatestIndex
    · obtain rfl := Option.some.inj hput
      exact absurd hlive Bool.false_ne_true
    · exact hsound.owns ip latest found hlatest hput hlive
  · rw [put_connections hconnection] at hput
    rw [Router.owner6_remove6]
    split_ifs at hput with hlatestIndex
    · obtain rfl := Option.some.inj hput
      exact absurd hindex Bool.false_ne_true
    · split_ifs with hsame
      · have hip := hsound.ip_eq_of_ip6 hconnection hput hsame hip6
        have hlatestIp : state.latestFor connection.ip = some latest := by
          rw [hip, (hsound.ip_of_latestFor hlatest hput).1]
          exact hlatest
        rcases hundisturbed connection hconnection latest hlatestIp (Ne.symm hlatestIndex) found
          hput with hnone | hdifferent | hgone
        · exact absurd (hsame.symm.trans hnone) nofun
        · exact absurd (Option.mem_def.mp hip6 |>.trans hsame.symm) hdifferent
        · exact absurd (hindex.symm.trans hgone) (by decide)
      · exact hsound.owns6 ip latest found hlatest hput hindex ip6 hip6

/-! ### The other steps -/

/-- A connection that is accepted has not registered yet. -/
theorem Sound.connect (hsound : state.Sound) (peer : PeerConfig) (hello : Hello) :
    ({ state with
      connections := state.connections ++
        [⟨.admitted, none, .start peer hello state.hasTun⟩] } : AppState).Sound := by
  have hkept : ∀ (other : ℕ) (found : Connection), state.connections[other]? = some found →
      (state.connections ++ [⟨.admitted, none, .start peer hello state.hasTun⟩])[other]? =
        some found :=
    fun other found hfound ↦ kept_concat hfound _
  have hlatest : ∀ (ip : Ipv4Addr) (latest : ℕ) (found : Connection),
      state.latestFor ip = some latest →
        (state.connections ++ [⟨.admitted, none, .start peer hello state.hasTun⟩])[latest]? =
          some found → state.connections[latest]? = some found := by
    intro ip latest found hlookup hfound
    obtain ⟨before, after, hsplit, -⟩ := List.lookup_eq_some_iff.mp hlookup
    obtain ⟨old, hold, -, -⟩ := hsound.known ip latest (by simp [hsplit])
    rwa [Option.some.inj ((hkept latest old hold).symm.trans hfound)] at hold
  constructor
  · intro ip other hregistered
    obtain ⟨found, hfound, hsame⟩ := hsound.known ip other hregistered
    exact ⟨found, hkept other found hfound, hsame⟩
  · intro other found hfound ip6 hip6
    replace hfound : (state.connections ++
      [⟨.admitted, none, .start peer hello state.hasTun⟩])[other]? = some found := hfound
    obtain hold | ⟨-, rfl⟩ := getElem?_concat_eq_some.mp hfound
    · exact hsound.derived other found hold ip6 hip6
    · exact absurd hip6 nofun
  · exact fun ip latest found hlookup hfound ↦
      hsound.owns ip latest found hlookup (hlatest ip latest found hlookup hfound)
  · exact fun ip latest found hlookup hfound ↦
      hsound.owns6 ip latest found hlookup (hlatest ip latest found hlookup hfound)

/-- The parameters are read: the IPv6 address is derived from the IPv4 address. -/
theorem Sound.assign (hsound : state.Sound)
    (hconnection : state.connections[index]? = some connection)
    (hphase : connection.phase = .admitted) (sessionId : Uuid) :
    (state.put index { connection with
      phase := .assigned
      welcome := some (welcome state.config state.ipv6 sessionId connection.session.peer) }).Sound
    := by
  have hnew : ∀ ip latest, state.latestFor ip = some latest → index ≠ latest := by
    rintro ip _ hlatest rfl
    have hstarted := (hsound.ip_of_latestFor hlatest hconnection).2
    rw [hphase] at hstarted
    exact absurd hstarted Bool.false_ne_true
  refine hsound.of_put hconnection ?_ ?_ ?_ state.router (fun ip latest found hlatest hput ↦ ?_)
    fun ip latest found hlatest hput ↦ ?_
  · rfl
  · intro hstarted
    rw [hphase] at hstarted
    exact absurd hstarted Bool.false_ne_true
  · intro ip6 hip6
    obtain ⟨subnet6, -, rfl⟩ := Option.map_eq_some_iff.mp hip6
    exact ⟨subnet6, rfl⟩
  · rw [put_connections hconnection, if_neg (hnew ip latest hlatest)] at hput
    exact hsound.owns ip latest found hlatest hput
  · rw [put_connections hconnection, if_neg (hnew ip latest hlatest)] at hput
    exact hsound.owns6 ip latest found hlatest hput

/-- Every step without disturbance keeps the invariant. -/
theorem Sound.step (hsound : state.Sound) {action : ServerAction}
    (hundisturbed : state.Undisturbed action) (hstep : state.step action = some next) :
    next.Sound := by
  cases action with
  | reconfigure config =>
    obtain rfl := Option.some.inj hstep
    exact ⟨hsound.known, hsound.derived, hsound.owns, hsound.owns6⟩
  | connect first =>
    simp only [AppState.step] at hstep
    split at hstep
    · obtain rfl := Option.some.inj hstep
      exact hsound.connect _ _
    · obtain rfl := Option.some.inj hstep
      exact hsound
  | assign index sessionId =>
    obtain ⟨connection, hphase, rfl⟩ := Option.map_eq_some_iff.mp hstep
    obtain ⟨hconnection, hphase⟩ := inPhase_eq_some hphase
    exact hsound.assign hconnection hphase sessionId
  | insert6 index =>
    obtain ⟨connection, hphase, rfl⟩ := Option.map_eq_some_iff.mp hstep
    obtain ⟨hconnection, hphase⟩ := inPhase_eq_some hphase
    exact hsound.insert6 hconnection hphase
  | insert4 index =>
    obtain ⟨connection, hphase, rfl⟩ := Option.map_eq_some_iff.mp hstep
    obtain ⟨hconnection, hphase⟩ := inPhase_eq_some hphase
    exact hsound.insert4 hconnection hphase hundisturbed
  | sendWelcome index sent =>
    obtain ⟨connection, hphase, rfl⟩ := Option.map_eq_some_iff.mp hstep
    obtain ⟨hconnection, hphase⟩ := inPhase_eq_some hphase
    split_ifs
    · exact hsound.of_change hconnection rfl rfl (fun _ ↦ rfl) (fun _ ↦ by rw [hphase]; rfl)
        fun _ ↦ by rw [hphase]; rfl
    · exact hsound.of_change hconnection rfl rfl (fun _ ↦ rfl)
        (fun h ↦ absurd h Bool.false_ne_true) fun h ↦ absurd h Bool.false_ne_true
  | session index action =>
    obtain ⟨connection, phase, session, hconnection, hphase, hsession, rfl⟩ := step_session hstep
    obtain ⟨hstarted, hlive, hindex⟩ := Phase.next_eq_some hphase
    have hip : session.peer.ip = connection.ip :=
      congrArg PeerConfig.ip (Session.step_fixed hsession).1
    exact hsound.of_change hconnection hip rfl hstarted hlive hindex
  | remove4 index =>
    obtain ⟨connection, hphase, rfl⟩ := Option.map_eq_some_iff.mp hstep
    exact hsound.remove4 (inPhase_eq_some hphase).1 hundisturbed
  | remove6 index =>
    obtain ⟨connection, hphase, rfl⟩ := Option.map_eq_some_iff.mp hstep
    exact hsound.remove6 (inPhase_eq_some hphase).1 hundisturbed
  | tunPacket packet =>
    obtain rfl := Option.some.inj hstep
    obtain hsame | ⟨index, connection, outbox, hconnection, hput⟩ :=
      state.routePacket_cases packet
    · rw [hsame]
      exact hsound
    · rw [hput]
      exact hsound.of_change hconnection rfl rfl (fun h ↦ h) (fun h ↦ h) fun h ↦ h

/-- In a run without disturbance a live session that was the last to register its IP is handed every
frame for its addresses. -/
theorem live_session_reached {config : ServerConfig} {ipv6 hasTun : Bool}
    {actions : List ServerAction} {state : AppState}
    (hrun : run (guarded Undisturbed AppState.step) (start config ipv6 hasTun) actions = some state)
    {ip : Ipv4Addr} {index : ℕ} {connection : Connection}
    (hlatest : state.latestFor ip = some index)
    (hconnection : state.connections[index]? = some connection)
    (hlive : connection.phase.live = true) (frame : Frame) :
    state.deliver ip frame = state.handTo index frame ∧
      ∀ ip6 ∈ connection.ip6, state.deliver6 ip6 frame = state.handTo index frame := by
  have hsound : state.Sound :=
    guarded_preserves (fun _ _ _ hsound hundisturbed hstep ↦ Sound.step hsound hundisturbed hstep)
      hrun (sound_start config ipv6 hasTun)
  have hindex : connection.phase.inIndex = true := by
    cases hphase : connection.phase <;> rw [hphase] at hlive <;> first | rfl | exact hlive
  constructor
  · rw [deliver, hsound.owns ip index connection hlatest hconnection hlive]
  · intro ip6 hip6
    rw [deliver6, hsound.owns6 ip index connection hlatest hconnection hindex ip6 hip6]

/-! ### Runs -/

section Example

/-- The peer connects for the time given by the index, up to its `Welcome`. -/
def joinRun (index : ℕ) : List ServerAction :=
  [.connect (some (.hello (lanHello .vpn))), .assign index 0, .insert6 index, .insert4 index,
    .sendWelcome index true]

/-- The first session ends before the second begins. -/
def successiveRun : List ServerAction :=
  joinRun 0 ++ [.session 0 .disconnect, .remove4 0, .remove6 0, .session 0 .shutdown] ++ joinRun 1

/-- The first session ends after the second has begun. -/
def reconnectRun : List ServerAction :=
  joinRun 0 ++ joinRun 1 ++ [.session 0 .disconnect, .remove4 0]

/-- After an orderly change of sessions the second one is reached. -/
theorem live_session_reached_successiveRun :
    ∃ state, run (guarded Undisturbed AppState.step) (start lanServer true true) successiveRun =
        some state ∧
      state.deliver lanPeer.ip .ping = state.handTo 1 .ping ∧ (state.handTo 1 .ping).2 = true := by
  obtain ⟨state, hrun, hstate⟩ : ∃ state,
      run (guarded Undisturbed AppState.step) (start lanServer true true) successiveRun =
        some state ∧
      (state.latestFor lanPeer.ip = some 1 && (state.handTo 1 .ping).2 &&
        state.connections[1]?.any fun connection ↦ connection.phase.live) = true :=
    Option.any_eq_true _ _ |>.mp (by decide +kernel)
  simp only [Bool.and_eq_true, decide_eq_true_iff] at hstate
  obtain ⟨connection, hconnection, hlive⟩ := Option.any_eq_true _ _ |>.mp hstate.2
  exact ⟨state, hrun, (live_session_reached hrun hstate.1.1 hconnection hlive .ping).1,
    hstate.1.2⟩

/-- The end of an older session takes away the entry of a live one for the same IP. -/
theorem entry_lost :
    ¬ ∀ (config : ServerConfig) (ipv6 hasTun : Bool) (actions : List ServerAction)
      (state : AppState) (ip : Ipv4Addr) (index : ℕ) (connection : Connection) (frame : Frame),
      run AppState.step (start config ipv6 hasTun) actions = some state →
        state.latestFor ip = some index → state.connections[index]? = some connection →
          connection.phase.live = true → state.deliver ip frame = state.handTo index frame := by
  intro hall
  obtain ⟨state, hrun, hstate⟩ : ∃ state,
      run AppState.step (start lanServer true true) reconnectRun = some state ∧
      (state.latestFor lanPeer.ip = some 1 && (state.handTo 1 .ping).2 &&
        !(state.deliver lanPeer.ip .ping).2 &&
          state.connections[1]?.any fun connection ↦ connection.phase.live) = true :=
    Option.any_eq_true _ _ |>.mp (by decide +kernel)
  simp only [Bool.and_eq_true, decide_eq_true_iff, Bool.not_eq_true'] at hstate
  obtain ⟨⟨⟨hlatest, hhanded⟩, hlost⟩, hconnection⟩ := hstate
  obtain ⟨connection, hconnection, hlive⟩ := Option.any_eq_true _ _ |>.mp hconnection
  have hsame := hall _ _ _ _ state lanPeer.ip 1 connection .ping hrun hlatest hconnection hlive
  rw [hsame, hhanded] at hlost
  exact absurd hlost nofun

end Example

end AppState

end EntroTunnel.Server
