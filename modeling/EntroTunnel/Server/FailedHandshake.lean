import EntroTunnel.Server.Connections

/-!
# Handshakes that fail

What a connection that ends before its session is established leaves in the router. A refused
connection never registers. One that is cut off while its `Welcome` is sent has registered, and
unregisters by address, so it removes the entries that it has displaced together with its own:
`handshake_restores_iff` says that the maps are as before exactly when there was nothing to
displace, and `session_displaced` is a reconnect that fails and takes the live session of its peer
with it.
-/

set_option autoImplicit false
set_option relaxedAutoImplicit false

namespace EntroTunnel.Server

open EntroTunnel.Core EntroTunnel.Foundation

/-- Both maps give the same answers. -/
def Router.SameMaps (router other : Router) : Prop :=
  (∀ ip, router.peers.lookup ip = other.peers.lookup ip) ∧
    ∀ ip6, router.peers6.lookup ip6 = other.peers6.lookup ip6

namespace Router

variable (router : Router) (ip : Ipv4Addr) (ip6 : Option Ipv6Addr) (entry : Entry)

theorem lookup_peers_unregister (other : Ipv4Addr) :
    ((router.register ip ip6 entry).unregister ip ip6).peers.lookup other =
      if other = ip then none else router.peers.lookup other := by
  have hpeers : ((router.register ip ip6 entry).unregister ip ip6).peers =
      (router.peers.insert ip entry).erase ip := by
    cases ip6 <;> rfl
  rw [hpeers]
  split_ifs with hip
  · rw [hip, AList.lookup_erase]
  · rw [AList.lookup_erase_ne hip, AList.lookup_insert_ne hip]

theorem lookup_peers6_unregister (other : Ipv6Addr) :
    ((router.register ip ip6 entry).unregister ip ip6).peers6.lookup other =
      if ip6 = some other then none else router.peers6.lookup other := by
  cases ip6 with
  | none => rfl
  | some addr =>
    show ((router.peers6.insert addr entry.tx).erase addr).lookup other = _
    by_cases hsame : addr = other
    · rw [if_pos (congrArg some hsame), hsame, AList.lookup_erase]
    · rw [if_neg (fun h ↦ hsame (Option.some.inj h)), AList.lookup_erase_ne (Ne.symm hsame),
        AList.lookup_insert_ne (Ne.symm hsame)]

/-- Registering and unregistering gives back a router that had no entries there, and no other. -/
theorem sameMaps_unregister_iff :
    ((router.register ip ip6 entry).unregister ip ip6).SameMaps router ↔
      router.peers.lookup ip = none ∧ ∀ addr ∈ ip6, router.peers6.lookup addr = none := by
  constructor
  · rintro ⟨hpeers, hpeers6⟩
    refine ⟨?_, fun addr haddr ↦ ?_⟩
    · rw [← hpeers, lookup_peers_unregister, if_pos rfl]
    · rw [← hpeers6, lookup_peers6_unregister, if_pos (Option.mem_def.mp haddr)]
  · rintro ⟨hpeers, hpeers6⟩
    refine ⟨fun other ↦ ?_, fun other ↦ ?_⟩
    · rw [lookup_peers_unregister]
      split_ifs with hip
      · rw [hip, hpeers]
      · rfl
    · rw [lookup_peers6_unregister]
      split_ifs with hsame
      · rw [hpeers6 other hsame]
      · rfl

end Router

namespace AppState

variable {state : AppState}

/-- All that `handle_connection` does for a connection that ends before its session is established:
nothing after a refusal, and otherwise all up to the failure of the `Welcome`. -/
def failedHandshake (state : AppState) (first : Option Frame) (sessionId : Uuid) :
    List ServerAction :=
  let index := state.connections.length
  .connect first :: match admission state.config first with
    | .accepted _ _ =>
      [.assign index sessionId, .insert6 index, .insert4 index, .sendWelcome index false,
        .remove4 index, .remove6 index]
    | _ => []

/-- The address that an admitted peer displaces in the IPv6 index. -/
def assignedIp6 (state : AppState) (peer : PeerConfig) : Option Ipv6Addr :=
  (welcome state.config state.ipv6 0 peer).assignedIp6

/-- The newest connection is found under its number, and put back there. -/
theorem inPhase_last {olds : List Connection} {connection : Connection}
    (hconnections : state.connections = olds ++ [connection]) :
    state.inPhase olds.length connection.phase = some connection := by
  rw [inPhase, hconnections, List.getElem?_concat_length]
  simp

theorem put_last {olds : List Connection} {connection : Connection}
    (hconnections : state.connections = olds ++ [connection]) (changed : Connection) :
    (state.put olds.length changed).connections = olds ++ [changed] := by
  rw [put, hconnections, List.set_append_right _ _ le_rfl, Nat.sub_self]
  rfl

/-- The router after the newest connection has registered and failed to send its `Welcome`. -/
theorem run_dropped {olds : List Connection} {connection : Connection}
    (hconnections : state.connections = olds ++ [connection])
    (hphase : connection.phase = .assigned) :
    ∃ next, run step state [.insert6 olds.length, .insert4 olds.length,
        .sendWelcome olds.length false, .remove4 olds.length, .remove6 olds.length] = some next ∧
      next.router =
        (state.router.register connection.ip connection.ip6
          (connection.entry olds.length)).unregister connection.ip connection.ip6 := by
  have hat : ∀ {before : AppState} {last : Connection} {phase : Phase},
      before.connections = olds ++ [last] → last.phase = phase →
        before.inPhase olds.length phase = some last := by
    rintro before last phase hbefore rfl
    exact inPhase_last hbefore
  refine ⟨_, run_cons_eq_some.mpr ⟨_, congrArg (Option.map _) (hat hconnections hphase),
    run_cons_eq_some.mpr ⟨_, congrArg (Option.map _) (hat (put_last hconnections _) rfl),
      run_cons_eq_some.mpr ⟨_, congrArg (Option.map _)
        (hat (put_last (put_last hconnections _) _) rfl),
        run_cons_eq_some.mpr ⟨_, congrArg (Option.map _)
          (hat (put_last (put_last (put_last hconnections _) _) _) rfl),
          run_cons_eq_some.mpr ⟨_, congrArg (Option.map _)
            (hat (put_last (put_last (put_last (put_last hconnections _) _) _) _) rfl),
            rfl⟩⟩⟩⟩⟩, rfl⟩

/-- A handshake that fails leaves the maps as they were exactly when it was refused, or there was no
entry under the addresses of the peer. -/
theorem handshake_restores_iff (state : AppState) (first : Option Frame) (sessionId : Uuid) :
    ∃ next, run step state (state.failedHandshake first sessionId) = some next ∧
      (next.router.SameMaps state.router ↔
        ∀ peer hello, admission state.config first = .accepted peer hello →
          state.router.peers.lookup peer.ip = none ∧
            ∀ addr ∈ state.assignedIp6 peer, state.router.peers6.lookup addr = none) := by
  unfold failedHandshake
  by_cases hadmission : ∃ peer hello, admission state.config first = .accepted peer hello
  · obtain ⟨peer, hello, haccepted⟩ := hadmission
    have hconnect : state.step (.connect first) = some { state with
        connections :=
          state.connections ++ [⟨.admitted, none, .start peer hello state.hasTun⟩] } := by
      simp only [step, haccepted]
    have hadmitted : ({ state with
        connections := state.connections ++ [⟨.admitted, none, .start peer hello state.hasTun⟩] } :
          AppState).connections = state.connections ++
            [⟨.admitted, none, .start peer hello state.hasTun⟩] := rfl
    obtain ⟨next, hrun, hrouter⟩ := run_dropped (put_last hadmitted
      ⟨.assigned, some (welcome state.config state.ipv6 sessionId peer),
        .start peer hello state.hasTun⟩) rfl
    have hassign := congrArg (Option.map fun connection : Connection ↦
      ({ state with connections := state.connections ++
          [⟨.admitted, none, .start peer hello state.hasTun⟩] } : AppState).put
        state.connections.length { connection with
          phase := .assigned
          welcome := some (welcome state.config state.ipv6 sessionId connection.session.peer) })
      (inPhase_last hadmitted)
    refine ⟨next, ?_, ?_⟩
    · rw [haccepted]
      exact run_cons_eq_some.mpr ⟨_, hconnect, run_cons_eq_some.mpr ⟨_, hassign, hrun⟩⟩
    · rw [hrouter]
      refine (Router.sameMaps_unregister_iff ..).trans ⟨fun hnone other greeting hother ↦ ?_,
        fun hall ↦ hall peer hello haccepted⟩
      obtain ⟨rfl, -⟩ := Admission.accepted.inj (haccepted.symm.trans hother)
      exact hnone
  · have hrefused : ∀ peer hello, admission state.config first ≠ .accepted peer hello :=
      fun peer hello h ↦ hadmission ⟨peer, hello, h⟩
    refine ⟨state, ?_, iff_of_true ⟨fun _ ↦ rfl, fun _ ↦ rfl⟩ fun peer hello h ↦
      absurd h (hrefused peer hello)⟩
    cases hcase : admission state.config first with
    | accepted peer hello => exact absurd hcase (hrefused peer hello)
    | closed | rejected reason =>
      refine run_cons_eq_some.mpr ⟨state, ?_, rfl⟩
      simp only [step, hcase]

/-! ### A reconnect that fails -/

section Example

/-- A peer connects, up to its `Welcome`. -/
def connectRun : List ServerAction :=
  [.connect (some (.hello (lanHello .vpn))), .assign 0 0, .insert6 0, .insert4 0,
    .sendWelcome 0 true]

/-- A second connection of the peer is cut off before its `Welcome`, and the live session is no
longer in the router. -/
theorem session_displaced :
    ¬ ∀ (config : ServerConfig) (ipv6 hasTun : Bool) (actions : List ServerAction)
      (state next : AppState) (first : Option Frame) (sessionId : Uuid),
      run step (start config ipv6 hasTun) actions = some state →
        run step state (state.failedHandshake first sessionId) = some next →
          next.router.SameMaps state.router := by
  intro hall
  obtain ⟨state, hrun, hstate⟩ : ∃ state,
      run step (start lanServer true true) connectRun = some state ∧
      ((run step state (state.failedHandshake (some (.hello (lanHello .vpn))) 0)).any fun next ↦
        (state.router.peers.lookup lanPeer.ip).isSome &&
          next.router.peers.lookup lanPeer.ip = none) = true :=
    Option.any_eq_true _ _ |>.mp (by decide +kernel)
  obtain ⟨next, hnext, hlost⟩ := Option.any_eq_true _ _ |>.mp hstate
  simp only [Bool.and_eq_true, decide_eq_true_iff] at hlost
  have hsame := (hall _ _ _ _ _ _ _ _ hrun hnext).1 lanPeer.ip
  rw [hlost.2] at hsame
  rw [← hsame] at hlost
  exact absurd hlost.1 nofun

end Example

end AppState

end EntroTunnel.Server
