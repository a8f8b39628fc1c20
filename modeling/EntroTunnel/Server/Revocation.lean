import EntroTunnel.Server.Admin
import EntroTunnel.Server.Ownership

/-!
# Sessions of deleted peers

A session is served by the record of its peer as it was when the session was admitted. The record
pins every address under which the session gets packets, and it stays in the configuration until
`del_peer` is called for its token (`queued_packet_entitled`). The call does not end the session, so
a deleted peer still gets its packets (`revoked_session_served`), until its link ends.
-/

set_option autoImplicit false
set_option relaxedAutoImplicit false

namespace EntroTunnel.Server

open EntroTunnel.Core EntroTunnel.Foundation

namespace AppState

/-- The session whose queue takes a packet from the TUN, if one does. -/
def queuedTo (state : AppState) (packet : Bytes) : Option ℕ :=
  match destination packet with
  | some (.v4 ip) =>
    if (state.deliver ip (.packet packet)).2 then state.router.owner ip else none
  | some (.v6 ip6) =>
    if (state.deliver6 ip6 (.packet packet)).2 then state.router.owner6 ip6 else none
  | none => none

/-- The configuration contains an enabled record with the token of the connection that pins the IP.
-/
def Entitled (config : ServerConfig) (connection : Connection) (ip : Ipv4Addr) : Prop :=
  ∃ peer ∈ config.peers, peer.enabled = true ∧ peer.token = connection.session.hello.token ∧
    peer.ip = ip

/-- How a connection came to be in a run: it was admitted for a record of the configuration at that
time, which is still there unless its token was deleted since. -/
def Admitted (start : AppState) (actions : List AdminAction) (config : ServerConfig) (index : ℕ)
    (connection : Connection) : Prop :=
  ∃ before first after middle, actions = before ++ .server (.connect first) :: after ∧
    run adminStep start before = some middle ∧ index = middle.connections.length ∧
    connection.session.peer ∈ middle.config.peers ∧ connection.session.peer.enabled = true ∧
    connection.session.peer.token = connection.session.hello.token ∧
    (connection.session.peer ∈ config.peers ∨ ∃ context : AdminContext, context.authorized = true ∧
      .delPeer context connection.session.peer.token ∈ after)

variable {origin state next : AppState}

/-- One more step: the configuration loses records by `del_peer` only. -/
theorem Admitted.step {actions : List AdminAction} {action : AdminAction} {index : ℕ}
    {connection after : Connection}
    (hadmitted : Admitted origin actions state.config index connection)
    (hpeer : after.session.peer = connection.session.peer)
    (hhello : after.session.hello = connection.session.hello)
    (hstep : state.adminStep action = some next) :
    Admitted origin (actions ++ [action]) next.config index after := by
  obtain ⟨before, first, later, middle, rfl, hrun, hindex, hmem, henabled, htoken, hstill⟩ :=
    hadmitted
  refine ⟨before, first, later ++ [action], middle, by simp, hrun, hindex, ?_⟩
  rw [hpeer, hhello]
  refine ⟨hmem, henabled, htoken, ?_⟩
  obtain hstill | ⟨context, hauthorized, hdeleted⟩ := hstill
  · obtain ⟨inner, -, -, hconfig⟩ | ⟨context, peer, -, rfl⟩ | ⟨context, token, rfl, rfl⟩ :=
      adminStep_cases hstep
    · rw [hconfig]
      exact .inl hstill
    · exact .inl (mem_addPeer context state.config peer hstill)
    · obtain hkept | ⟨hauthorized, rfl⟩ := mem_delPeer context state.config token hstill
      · exact .inl hkept
      · exact .inr ⟨context, hauthorized, List.mem_append_right _ List.mem_cons_self⟩
  · exact .inr ⟨context, hauthorized, List.mem_append_left _ hdeleted⟩

/-- Every connection of a run was admitted in it. -/
theorem admitted_of_run {config : ServerConfig} {ipv6 hasTun : Bool} {actions : List AdminAction}
    (hrun : run adminStep (start config ipv6 hasTun) actions = some state) :
    ∀ (index : ℕ) (connection : Connection), state.connections[index]? = some connection →
      Admitted (start config ipv6 hasTun) actions state.config index connection := by
  refine @run_records _ _ _ (fun actions state ↦ ∀ (index : ℕ) (connection : Connection),
    state.connections[index]? = some connection →
      Admitted (start config ipv6 hasTun) actions state.config index connection) _ ?_ ?_ _ _ hrun
  · exact fun index connection h ↦ absurd h nofun
  · intro actions action state next hprefix ih hstep index connection hconnection
    obtain ⟨inner, rfl, hinner, hconfig⟩ | ⟨context, peer, rfl, rfl⟩ | ⟨context, token, rfl, rfl⟩ :=
      adminStep_cases hstep
    · obtain ⟨old, hold, hpeer, hhello⟩ | ⟨first, peer, hello, rfl, haccepted, rfl, rfl⟩ :=
        (stepped_of_step hinner).origin hconnection
      · exact (ih index old hold).step hpeer hhello hstep
      · obtain ⟨-, -, hfound, henabled, -⟩ := admission_accepted haccepted
        have hmem : peer ∈ state.config.peers := List.mem_of_find?_eq_some hfound
        have htoken : peer.token = hello.token := by simpa using List.find?_some hfound
        refine ⟨actions, first, [], state, rfl, hprefix, rfl, hmem, henabled, htoken, .inl ?_⟩
        rw [hconfig]
        exact hmem
    · exact (ih index connection hconnection).step rfl rfl hstep
    · exact (ih index connection hconnection).step rfl rfl hstep

/-- The IPv6 address of a connection is derived from its IP in the subnet of the configuration. -/
def Derived (network : NetworkConfig) (connection : Connection) : Prop :=
  ∀ ip6 ∈ connection.ip6, ∃ subnet6, network.subnet6 = some subnet6 ∧
    ip6 = deriveIpv6 subnet6 connection.ip

/-- The network parameters stay, and the IPv6 addresses with them. -/
theorem derived_of_run {config : ServerConfig} {ipv6 hasTun : Bool} {actions : List AdminAction}
    (hrun : run adminStep (start config ipv6 hasTun) actions = some state) :
    state.config.network = config.network ∧ ∀ (index : ℕ) (connection : Connection),
      state.connections[index]? = some connection → Derived config.network connection := by
  refine @run_preserves _ _ _ (fun state ↦ state.config.network = config.network ∧
    ∀ (index : ℕ) (connection : Connection), state.connections[index]? = some connection →
      Derived config.network connection) ?_ _ _ _ hrun ⟨rfl, fun _ _ h ↦ absurd h nofun⟩
  rintro state action next ⟨hnetwork, hall⟩ hstep
  obtain ⟨inner, -, hinner, hconfig⟩ | ⟨context, peer, -, rfl⟩ | ⟨context, token, -, rfl⟩ :=
    adminStep_cases hstep
  · refine ⟨by rw [hconfig, hnetwork], (stepped_of_step hinner).forall hall ?_ ?_ ?_⟩
    · exact fun peer hello ip6 h ↦ absurd h nofun
    · intro connection sessionId _ ip6 hip6
      obtain ⟨subnet6, hsubnet6, rfl⟩ := Option.map_eq_some_iff.mp hip6
      rw [hnetwork] at hsubnet6
      split_ifs at hsubnet6
      exact ⟨subnet6, hsubnet6, rfl⟩
    · intro connection phase session hderived hpeer _ ip6 hip6
      obtain ⟨subnet6, hsubnet6, rfl⟩ := hderived ip6 hip6
      refine ⟨subnet6, hsubnet6, ?_⟩
      rw [Connection.ip, Connection.ip, hpeer]
  · exact ⟨(addPeer_network context state.config peer).trans hnetwork, hall⟩
  · exact ⟨(delPeer_network context state.config token).trans hnetwork, hall⟩

theorem owned_of_run {config : ServerConfig} {ipv6 hasTun : Bool} {actions : List AdminAction}
    (hrun : run adminStep (start config ipv6 hasTun) actions = some state) : state.Owned := by
  refine run_preserves (fun state action next howned hstep ↦ ?_) hrun
    (owned_start config ipv6 hasTun)
  obtain ⟨inner, hinner⟩ := step_of_adminStep hstep
  exact Owned.step howned hinner

/-- The address a packet is delivered under, for the peer with the pinned IP. -/
def Addressed (network : NetworkConfig) (packet : Bytes) (ip : Ipv4Addr) : Prop :=
  destination packet = some (.v4 ip) ∨
    ∃ subnet6, network.subnet6 = some subnet6 ∧
      destination packet = some (.v6 (deriveIpv6 subnet6 ip))

/-- Whenever a packet is queued to a session, its destination belongs to the record the session was
admitted for, and the configuration still contains that record unless its token was deleted since.
-/
theorem queued_packet_entitled {config : ServerConfig} {ipv6 hasTun : Bool}
    {actions : List AdminAction}
    (hrun : run adminStep (start config ipv6 hasTun) actions = some state) {packet : Bytes}
    {index : ℕ} (hqueued : state.queuedTo packet = some index) :
    ∃ connection, state.connections[index]? = some connection ∧
      Addressed config.network packet connection.session.peer.ip ∧
        Admitted (start config ipv6 hasTun) actions state.config index connection := by
  have howned := owned_of_run hrun
  unfold queuedTo at hqueued
  split at hqueued
  · rename_i ip hdestination
    split_ifs at hqueued
    obtain ⟨connection, hconnection, hip, -⟩ := howned.owner hqueued
    refine ⟨connection, hconnection, .inl ?_, admitted_of_run hrun index connection hconnection⟩
    rw [hdestination, ← hip]
    rfl
  · rename_i ip6 hdestination
    split_ifs at hqueued
    obtain ⟨connection, hconnection, hip6, -⟩ := howned.entry6 ip6 index hqueued
    obtain ⟨subnet6, hsubnet6, rfl⟩ := (derived_of_run hrun).2 index connection hconnection ip6 hip6
    exact ⟨connection, hconnection, .inr ⟨subnet6, hsubnet6, hdestination⟩,
      admitted_of_run hrun index connection hconnection⟩
  · exact absurd hqueued nofun

/-! ### A session that outlives its record -/

section Example

/-- The peer of `lanServer` connects. -/
def peerJoins : List AdminAction :=
  [.server (.connect (some (.hello (lanHello .vpn)))), .server (.assign 0 0), .server (.insert6 0),
    .server (.insert4 0), .server (.sendWelcome 0 true)]

/-- A packet for the peer, with an IPv4 header and nothing else. -/
def packetForPeer : Bytes :=
  [0x45, 0, 0, 20, 0, 0, 0, 0, 64, 17, 0, 0, 10, 66, 0, 1, 10, 66, 0, 2]

/-- A packet that was queued for a peer that has joined is on its way to a session of that peer. -/
theorem queued_packet_entitled_peerJoins :
    ∃ state, run adminStep (start lanServer true true) peerJoins = some state ∧
      state.queuedTo packetForPeer = some 0 ∧
        ∃ connection, state.connections[0]? = some connection ∧
          Addressed lanServer.network packetForPeer connection.session.peer.ip ∧
            Admitted (start lanServer true true) peerJoins state.config 0 connection := by
  obtain ⟨state, hrun, hqueued⟩ : ∃ state,
      run adminStep (start lanServer true true) peerJoins = some state ∧
      decide (state.queuedTo packetForPeer = some 0) = true :=
    Option.any_eq_true _ _ |>.mp (by decide +kernel)
  have hqueued := of_decide_eq_true hqueued
  exact ⟨state, hrun, hqueued, queued_packet_entitled hrun hqueued⟩

/-- The record is deleted, and the session still gets the packets of its IP. -/
theorem revoked_session_served :
    ¬ ∀ (config : ServerConfig) (ipv6 hasTun : Bool) (actions : List AdminAction)
      (state : AppState) (packet : Bytes) (ip : Ipv4Addr) (index : ℕ) (connection : Connection),
      run adminStep (start config ipv6 hasTun) actions = some state →
        destination packet = some (.v4 ip) → state.queuedTo packet = some index →
          state.connections[index]? = some connection → Entitled state.config connection ip := by
  intro hall
  obtain ⟨state, hrun, hstate⟩ : ∃ state,
      run adminStep (start lanServer true true)
        (peerJoins ++ [.delPeer ⟨true, true⟩ "secret"]) = some state ∧
      (state.config.peers.isEmpty && state.queuedTo packetForPeer = some 0 &&
        state.connections[0]?.isSome) = true :=
    Option.any_eq_true _ _ |>.mp (by decide +kernel)
  simp only [Bool.and_eq_true, decide_eq_true_iff, List.isEmpty_iff] at hstate
  obtain ⟨⟨hpeers, hqueued⟩, hsome⟩ := hstate
  obtain ⟨connection, hconnection⟩ := Option.isSome_iff_exists.mp hsome
  obtain ⟨peer, hmem, -⟩ := hall lanServer true true _ state packetForPeer lanPeer.ip 0 connection
    hrun (by decide +kernel) hqueued hconnection
  rw [hpeers] at hmem
  exact absurd hmem List.not_mem_nil

end Example

end AppState

end EntroTunnel.Server
