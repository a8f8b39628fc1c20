import EntroTunnel.Server.Session

/-!
# Packets to the TUN

What a session may hand to the server's TUN. The routing rules drop a packet to an address outside
the virtual subnet when its peer is not allowed global routing. `handle_connection` looks at
`allow_global` only for sessions in global-proxy mode; the frame loop admits packets by mode and VPN
membership and does not look at the destination. `egress_confined_iff` is the exact condition under
which a peer without global routing stays inside the virtual subnet.
-/

set_option autoImplicit false
set_option relaxedAutoImplicit false

namespace EntroTunnel.Server

open EntroTunnel.Core EntroTunnel.Foundation

/-- The address lies in the virtual subnet of its family. -/
def NetworkConfig.InSubnet (network : NetworkConfig) : IpAddr → Prop
  | .v4 addr => ∃ net ∈ network.subnet, net.Contains addr
  | .v6 addr => ∃ net ∈ network.subnet6, net.Contains addr

instance (network : NetworkConfig) : DecidablePred network.InSubnet
  | .v4 addr => inferInstanceAs (Decidable (∃ net ∈ network.subnet, net.Contains addr))
  | .v6 addr => inferInstanceAs (Decidable (∃ net ∈ network.subnet6, net.Contains addr))

/-- The packet is not addressed to the outside of the virtual subnet. -/
def Confined (config : ServerConfig) (packet : Bytes) : Prop :=
  ∀ addr ∈ destination packet, config.network.InSubnet addr

instance (config : ServerConfig) (packet : Bytes) : Decidable (Confined config packet) :=
  inferInstanceAs (Decidable (∀ addr ∈ destination packet, config.network.InSubnet addr))

/-- The packets among the frames. -/
def packets (frames : List Frame) : List Bytes :=
  frames.filterMap fun frame ↦ match frame with
    | .packet bytes => some bytes
    | _ => none

namespace Session

/-- What the session hands to the TUN, from what it has read. -/
def admitted (session : Session) : List Bytes :=
  if session.admitsPackets ∧ session.hasTun then packets session.received else []

/-- One frame adds its packet, if the session admits packets. -/
theorem tunOut_handle (session : Session) (peers : List PeerInfo) (frame : Frame) :
    (session.handle peers frame).tunOut =
      session.tunOut ++ if session.admitsPackets ∧ session.hasTun then packets [frame] else [] := by
  cases frame with
  | packet bytes =>
    simp only [handle]
    split_ifs with hadmits
    · rfl
    · exact (List.append_nil _).symm
  | streamOpen id target =>
    simp only [handle]
    split_ifs <;> exact (List.append_nil _).symm
  | _ => exact (List.append_nil _).symm.trans (congrArg _ (ite_self []).symm)

/-- Reading a frame keeps the TUN at the admitted packets. -/
theorem tunOut_receive {session : Session} (peers : List PeerInfo) (frame : Frame)
    (htun : session.tunOut = session.admitted) :
    ({ session with received := session.received ++ [frame] }.handle peers frame).tunOut =
      if session.admitsPackets ∧ session.hasTun then packets (session.received ++ [frame])
      else [] := by
  rw [tunOut_handle]
  show session.tunOut ++ (if session.admitsPackets ∧ session.hasTun then _ else _) = _
  rw [htun, admitted]
  split_ifs with hadmits
  · exact (List.filterMap_append ..).symm
  · rfl

/-- Every step keeps the TUN at the admitted packets. -/
theorem tunOut_step {session next : Session} {action : SessionAction}
    (htun : session.tunOut = session.admitted) (hstep : session.step action = some next) :
    next.tunOut = next.admitted := by
  cases action with
  | receive frame peers =>
    obtain ⟨-, rfl⟩ := step_receive hstep
    obtain ⟨-, hhello, hhasTun, hreceived, -, -⟩ :=
      handle_frame { session with received := session.received ++ [frame] } peers frame
    rw [tunOut_receive peers frame htun, admitted, admitsPackets, admitsPackets, hhello, hhasTun,
      hreceived]
  | send =>
    obtain ⟨_, _, -, rfl⟩ := step_send hstep
    exact htun
  | remote index action =>
    obtain ⟨_, _, _, _, -, -, -, rfl⟩ := step_remote hstep
    exact htun
  | delivered =>
    obtain ⟨_, _, -, rfl⟩ := step_delivered hstep
    exact htun
  | sendFailed =>
    obtain rfl := step_sendFailed hstep
    exact htun
  | disconnect =>
    obtain ⟨-, rfl⟩ := step_disconnect hstep
    exact htun
  | shutdown =>
    obtain ⟨-, rfl⟩ := step_shutdown hstep
    exact htun

/-- In every run the TUN is handed exactly the admitted packets. -/
theorem tunOut_eq_admitted {peer : PeerConfig} {hello : Hello} {hasTun : Bool}
    {actions : List SessionAction} {session : Session}
    (hrun : run step (start peer hello hasTun) actions = some session) :
    session.tunOut = session.admitted ∧ session.hello = hello ∧ session.hasTun = hasTun := by
  have hstep : ∀ session action next,
      session.tunOut = session.admitted ∧ session.hello = hello ∧ session.hasTun = hasTun →
        step session action = some next →
          next.tunOut = next.admitted ∧ next.hello = hello ∧ next.hasTun = hasTun := by
    rintro session action next ⟨htun, hhello, hhasTun⟩ hstep
    obtain ⟨-, hsameHello, hsameTun⟩ := step_fixed hstep
    exact ⟨tunOut_step htun hstep, hsameHello.trans hhello, hsameTun.trans hhasTun⟩
  refine run_preserves hstep hrun ⟨?_, rfl, rfl⟩
  rw [admitted]
  exact (ite_self []).symm

end Session

section Egress

variable {config : ServerConfig} {first : Option Frame} {peer : PeerConfig} {hello : Hello}

/-- Without global routing, packets are admitted from a session in `vpn` mode and from a proxy
session that joined the VPN. -/
theorem admitsPackets_iff {session : Session} (hhello : session.hello = hello)
    (haccepted : admission config first = .accepted peer hello)
    (hglobal : peer.allowGlobal = false) :
    session.admitsPackets = true ↔ ¬ (hello.mode.isStream = true ∧ hello.joinVpn = false) := by
  obtain ⟨-, -, -, -, hmode⟩ := admission_accepted haccepted
  have hmode : hello.mode ≠ .globalProxy := fun h ↦ hmode ⟨h, hglobal⟩
  rw [Session.admitsPackets, hhello, vpnMember]
  cases hmodeOf : hello.mode with
  | globalProxy => exact absurd hmodeOf hmode
  | _ => simp [SessionMode.isStream]

/-- The packets that an accepted session without global routing hands to the TUN stay inside the
virtual subnet exactly when there is no TUN, or the session is a proxy session outside the VPN, or
every packet it received is addressed inside. -/
theorem egress_confined_iff (haccepted : admission config first = .accepted peer hello)
    (hglobal : peer.allowGlobal = false) {hasTun : Bool} {actions : List SessionAction}
    {session : Session}
    (hrun : run Session.step (.start peer hello hasTun) actions = some session) :
    (∀ packet ∈ session.tunOut, Confined config packet) ↔
      hasTun = false ∨ (hello.mode.isStream = true ∧ hello.joinVpn = false) ∨
        ∀ packet ∈ packets session.received, Confined config packet := by
  obtain ⟨htun, hhello, hhasTun⟩ := Session.tunOut_eq_admitted hrun
  have hadmits := admitsPackets_iff hhello haccepted hglobal
  rw [htun, Session.admitted, hhasTun]
  split_ifs with hboth
  · rw [or_iff_right (by simp [hboth.2]), or_iff_right (hadmits.mp hboth.1)]
  · refine iff_of_true (List.forall_mem_nil _) ?_
    by_cases htunOff : hasTun = false
    · exact .inl htunOff
    · have hclosed : ¬ session.admitsPackets = true := fun h ↦ hboth ⟨h, by simpa using htunOff⟩
      exact .inr (.inl (not_not.mp fun h ↦ hclosed (hadmits.mpr h)))

end Egress

/-! ### A run -/

section Example

/-- A packet of 20 bytes from `10.66.0.2` to `8.8.8.8`. -/
def outsidePacket : Bytes :=
  [0x45, 0, 0, 20, 0, 0, 0, 0, 64, 17, 0, 0, 10, 66, 0, 2, 8, 8, 8, 8]

/-- A packet of 20 bytes from `10.66.0.2` to `10.66.0.3`. -/
def insidePacket : Bytes :=
  [0x45, 0, 0, 20, 0, 0, 0, 0, 64, 17, 0, 0, 10, 66, 0, 2, 10, 66, 0, 3]

/-- A session in `vpn` mode that has sent one packet. -/
def afterPacket (packet : Bytes) : Session :=
  { Session.start lanPeer (lanHello .vpn) true with
    received := [.packet packet]
    tunOut := [packet] }

/-- A packet to a peer is handed to the TUN, and the condition holds. -/
theorem egress_confined_iff_insidePacket :
    (∀ packet ∈ (afterPacket insidePacket).tunOut, Confined lanServer packet) ↔
      true = false ∨ ((lanHello .vpn).mode.isStream = true ∧ (lanHello .vpn).joinVpn = false) ∨
        ∀ packet ∈ packets (afterPacket insidePacket).received, Confined lanServer packet :=
  @egress_confined_iff lanServer (some (.hello (lanHello .vpn))) lanPeer (lanHello .vpn)
    (by decide +kernel) rfl
    true [.receive (.packet insidePacket) []] _ rfl

/-- A peer without global routing reaches the internet in `vpn` mode. -/
theorem egress_not_confined :
    ¬ ∀ (config : ServerConfig) (first : Option Frame) (peer : PeerConfig) (hello : Hello)
      (hasTun : Bool) (actions : List SessionAction) (session : Session),
      admission config first = .accepted peer hello → peer.allowGlobal = false →
        run Session.step (.start peer hello hasTun) actions = some session →
          ∀ packet ∈ session.tunOut, Confined config packet := by
  intro hall
  refine absurd (hall lanServer (some (.hello (lanHello .vpn))) lanPeer (lanHello .vpn) true
    [.receive (.packet outsidePacket) []] (afterPacket outsidePacket) (by decide +kernel) rfl rfl
    outsidePacket (List.mem_singleton_self _)) ?_
  decide +kernel

end Example

end EntroTunnel.Server
