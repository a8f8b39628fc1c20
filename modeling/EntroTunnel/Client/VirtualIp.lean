import EntroTunnel.Client.ChainSession

/-!
# The owner of the displayed address

Both sessions of `run_chain_session` write the record that the front-end shows. When the client
joins the VPN, the session with the first hop is meant to own the virtual address and the peer list;
when it does not, the address is that of the egress hop. `Displayed` keeps, beside the two sessions,
who wrote the address and the peers last and which address each hop assigned last.

The flag decides who writes at setup only: `run_packet_mode` writes the address of every reconnect
that it makes, and the readers of both sessions write every peer list that they receive.
`oneOwner_iff` says that the record has its owner through a whole run exactly when, with `join_vpn`,
the egress session never reconnects and its hop never sends a peer list.
-/

set_option autoImplicit false
set_option relaxedAutoImplicit false

namespace EntroTunnel.Client

open EntroTunnel.Core EntroTunnel.Foundation

/-- The address that an event of a session makes known. -/
def SessionEvent.ip : SessionEvent → Option Ipv4Addr
  | .connected ip | .redialed ip => some ip
  | _ => none

/-- The peer list that an event of a session makes known. -/
def SessionEvent.peers : SessionEvent → Option (List PeerInfo)
  | .peerList peers => some peers
  | _ => none

/-- A session publishes what its event makes known, and it connects only once. -/
theorem Phase.step_publishes {μ : Type} {kind : SessionKind} {cancelled : Bool} {sample : μ}
    {tick : μ → μ × Bool} {phase next : Phase μ} {event : SessionEvent} {effect : Effect}
    (hstep : phase.step kind cancelled sample tick event = some (next, effect)) :
    effect.assignedIp = event.ip ∧ effect.peers = event.peers ∧ next ≠ .connecting := by
  cases phase with
  | connecting =>
    cases event <;> cases hstep <;> exact ⟨rfl, rfl, by simp⟩
  | settingUp =>
    cases event <;> cases kind <;> cases hstep <;> exact ⟨rfl, rfl, by simp [opened]⟩
  | closing =>
    cases event <;> cases hstep
    exact ⟨rfl, rfl, by simp⟩
  | ended => cases event <;> cases hstep
  | serving writing reading =>
    cases event <;> cases writing <;> cases reading <;> cases cancelled <;> cases hstep <;>
      exact ⟨rfl, rfl, by simp⟩
  | redialing attempt =>
    cases event with
    | redialFailed =>
      rw [step] at hstep
      split_ifs at hstep <;> cases hstep <;> exact ⟨rfl, rfl, by simp⟩
    | _ => cases cancelled <;> cases hstep <;> exact ⟨rfl, rfl, by simp⟩
  | bridging monitor =>
    cases event with
    | sendFailed | receiveFailed =>
      cases cancelled <;> cases hstep <;> exact ⟨rfl, rfl, by simp⟩
    | tick =>
      cases monitor with
      | none => cases hstep
      | some before =>
        rw [step] at hstep
        split_ifs at hstep
        · cases cancelled <;> cases hstep <;> exact ⟨rfl, rfl, by simp⟩
        · cases hstep
          exact ⟨rfl, rfl, by simp⟩
    | _ => cases monitor <;> cases cancelled <;> cases hstep <;> exact ⟨rfl, rfl, by simp⟩

/-- Only a session that is not connected yet connects for the first time. -/
theorem Phase.step_connected {μ : Type} {kind : SessionKind} {cancelled : Bool} {sample : μ}
    {tick : μ → μ × Bool} {phase : Phase μ} {ip : Ipv4Addr} (hphase : phase ≠ .connecting) :
    phase.step kind cancelled sample tick (.connected ip) = none := by
  cases phase with
  | connecting => exact absurd rfl hphase
  | serving writing reading => cases writing <;> cases reading <;> rfl
  | bridging monitor => cases monitor <;> rfl
  | _ => rfl

theorem Phase.step_ended {μ : Type} {kind : SessionKind} {cancelled : Bool} {sample : μ}
    {tick : μ → μ × Bool} (event : SessionEvent) :
    (Phase.ended : Phase μ).step kind cancelled sample tick event = none := by
  cases event <;> rfl

/-! ### What is displayed -/

/-- Both sessions, the address that each hop assigned last, and who wrote the address and the peers
of the record last. -/
structure Displayed where
  session : ChainSession
  ip : ChainRole → Option Ipv4Addr
  ipOwner : Option ChainRole
  peersOwner : Option ChainRole

namespace Displayed

/-- What the egress session runs over the chain. -/
def egressKind : SessionMode → SessionKind
  | .globalProxy => .packet
  | .httpProxy | .systemProxy | .vpn => .http

/-- `run_chain_session` with the chain up, and the address that its last hop assigned. A pure VPN
connects to the first hop alone. -/
def launch (finalMode : SessionMode) (joinVpn : Bool) (assigned : Ipv4Addr) : Displayed :=
  let started := ChainSession.start (egressKind finalMode)
  match finalMode with
  | .vpn =>
    { session := { started with phase := Function.update started.phase .egress .ended }
      ip := fun _ ↦ none
      ipOwner := none
      peersOwner := none }
  | .globalProxy | .httpProxy | .systemProxy =>
    let known := Function.update (fun _ ↦ none) ChainRole.egress (some assigned)
    if joinVpn then { session := started, ip := known, ipOwner := none, peersOwner := none }
    else
      { session := { started with
          status := { assignedIp := some assigned }
          phase := Function.update started.phase .lan .ended }
        ip := known
        ipOwner := some .egress
        peersOwner := none }

/-- Publish what an event of a session has come to, and record who did. -/
def publish (displayed : Displayed) (role : ChainRole) (event : SessionEvent)
    (result : Phase Monitor × Effect) : Displayed where
  session := displayed.session.publish role event result
  ip :=
    if result.2.assignedIp.isSome then Function.update displayed.ip role result.2.assignedIp
    else displayed.ip
  ipOwner := if result.2.assignedIp.isSome then some role else displayed.ipOwner
  peersOwner := if result.2.peers.isSome then some role else displayed.peersOwner

/-- One event of the chained session. -/
def step (displayed : Displayed) : ChainEvent → Option Displayed
  | .cancel => some { displayed with session := { displayed.session with cancelled := true } }
  | .session role event =>
    ((displayed.session.phase role).step (displayed.session.kindOf role)
      displayed.session.cancelled (Monitor.sample displayed.session.status)
      (Monitor.tick stallSilentSecs displayed.session.status) event).map
        (displayed.publish role event)

/-- The record is of the chained session and changes nothing in it. -/
theorem step_session (displayed : Displayed) (event : ChainEvent) :
    (displayed.step event).map session = displayed.session.step event := by
  cases event with
  | cancel => rfl
  | session role event => rw [step, Option.map_map, ChainSession.step]; rfl

/-- The record has the owner that the configuration gives it: with `join_vpn` nothing in it is from
the egress hop and the address is the last one of the first hop, without it the address is the last
one of the egress hop. -/
structure OneOwner (joinVpn : Bool) (displayed : Displayed) : Prop where
  ipOwner : joinVpn = true → displayed.ipOwner ≠ some .egress
  peersOwner : joinVpn = true → displayed.peersOwner ≠ some .egress
  lan : joinVpn = true → ∀ ip, displayed.ip .lan = some ip →
    displayed.session.status.assignedIp = some ip
  egress : joinVpn = false → ∀ ip, displayed.ip .egress = some ip →
    displayed.session.status.assignedIp = some ip

end Displayed

/-- The egress session makes an address or a peer list known. -/
def ChainEvent.egressPublishes : ChainEvent → Bool
  | .session .egress (.redialed _) | .session .egress (.peerList _) => true
  | _ => false

namespace Displayed

/-- What holds of every state that is reached: the egress session has connected, and without
`join_vpn` one of the sessions is not there. -/
structure Alone (joinVpn : Bool) (displayed : Displayed) : Prop where
  connected : displayed.session.phase .egress ≠ .connecting
  single : joinVpn = false → displayed.session.phase .lan = .ended ∨
    displayed.session.phase .egress = .ended ∧ displayed.ip .egress = none

variable {joinVpn : Bool} {displayed next : Displayed} {event : ChainEvent}

theorem alone_launch (finalMode : SessionMode) (joinVpn : Bool) (assigned : Ipv4Addr) :
    (launch finalMode joinVpn assigned).Alone joinVpn := by
  cases finalMode with
  | vpn => exact ⟨nofun, fun _ ↦ .inr ⟨rfl, rfl⟩⟩
  | _ =>
    cases joinVpn with
    | true => exact ⟨nofun, fun h ↦ absurd h Bool.true_eq_false.mp⟩
    | false => exact ⟨nofun, fun _ ↦ .inl rfl⟩

theorem oneOwner_launch (finalMode : SessionMode) (joinVpn : Bool) (assigned : Ipv4Addr) :
    (launch finalMode joinVpn assigned).OneOwner joinVpn := by
  cases finalMode with
  | vpn =>
    exact ⟨fun _ ↦ nofun, fun _ ↦ nofun, fun _ _ h ↦ absurd h nofun, fun _ _ h ↦ absurd h nofun⟩
  | _ =>
    cases joinVpn with
    | true =>
      exact ⟨fun _ ↦ nofun, fun _ ↦ nofun, fun _ _ h ↦ absurd h nofun, fun h ↦ absurd h nofun⟩
    | false =>
      exact ⟨fun h ↦ absurd h nofun, fun h ↦ absurd h nofun, fun h ↦ absurd h nofun,
        fun _ _ hip ↦ hip⟩

theorem publish_assignedIp (status : LiveStatus) (effect : Effect) :
    (status.publish effect).assignedIp = effect.assignedIp.or status.assignedIp := by
  rw [LiveStatus.publish, LiveStatus.addTrafficUp, LiveStatus.addTrafficDown]
  split_ifs <;> rfl

/-- A step of a session, with the event that it publishes. -/
theorem session_of_step {role : ChainRole} {event : SessionEvent}
    (hstep : displayed.step (.session role event) = some next) :
    displayed.session.phase role ≠ .ended ∧
      (displayed.session.phase role = .connecting ∨ ∀ ip, event ≠ .connected ip) ∧
      next.session.phase role ≠ .connecting ∧
      (∀ other, other ≠ role → next.session.phase other = displayed.session.phase other) ∧
      next.session.status.assignedIp = event.ip.or displayed.session.status.assignedIp ∧
      next.ip = (if event.ip.isSome then Function.update displayed.ip role event.ip
        else displayed.ip) ∧
      next.ipOwner = (if event.ip.isSome then some role else displayed.ipOwner) ∧
      next.peersOwner = (if event.peers.isSome then some role else displayed.peersOwner) := by
  obtain ⟨⟨phase, effect⟩, hphase, rfl⟩ := Option.map_eq_some_iff.mp hstep
  obtain ⟨hip, hpeers, hconnecting⟩ := Phase.step_publishes hphase
  refine ⟨fun hended ↦ ?_, ?_, ?_, fun other hother ↦ ?_, ?_, ?_, ?_, ?_⟩
  · rw [hended, Phase.step_ended] at hphase
    cases hphase
  · by_contra hneither
    obtain ⟨hphaseNot, hevent⟩ := not_or.mp hneither
    obtain ⟨ip, hevent⟩ := not_forall.mp hevent
    rw [not_not.mp hevent, Phase.step_connected hphaseNot] at hphase
    cases hphase
  · rw [publish, ChainSession.publish_phase, Function.update_self]
    exact hconnecting
  · rw [publish, ChainSession.publish_phase, Function.update_of_ne hother]
  · rw [← hip]
    exact publish_assignedIp _ _
  · rw [← hip]
    rfl
  · rw [← hip]
    rfl
  · rw [← hpeers]
    rfl

theorem Alone.step (halone : displayed.Alone joinVpn) (hstep : displayed.step event = some next) :
    next.Alone joinVpn := by
  cases event with
  | cancel =>
    obtain rfl := Option.some.inj hstep
    exact ⟨halone.connected, halone.single⟩
  | session role event =>
    obtain ⟨hrunning, -, hconnecting, hothers, -, hip, -, -⟩ := session_of_step hstep
    cases role with
    | egress =>
      refine ⟨hconnecting, fun hjoin ↦ ?_⟩
      rcases halone.single hjoin with hlan | ⟨hegress, -⟩
      · exact .inl ((hothers .lan nofun).trans hlan)
      · exact absurd hegress hrunning
    | lan =>
      refine ⟨(hothers .egress nofun).symm ▸ halone.connected, fun hjoin ↦ ?_⟩
      rcases halone.single hjoin with hlan | ⟨hegress, hnone⟩
      · exact absurd hlan hrunning
      · refine .inr ⟨(hothers .egress nofun).trans hegress, ?_⟩
        rw [hip]
        split_ifs
        · exact (Function.update_of_ne (by decide) _ _).trans hnone
        · exact hnone

/-- The session that steps writes the record with the address that its hop has assigned. -/
theorem known_of_step {role : ChainRole} {event : SessionEvent}
    (hstep : displayed.step (.session role event) = some next)
    (hknown : ∀ ip, displayed.ip role = some ip →
      displayed.session.status.assignedIp = some ip) :
    ∀ ip, next.ip role = some ip → next.session.status.assignedIp = some ip := by
  obtain ⟨-, -, -, -, hstatus, hip, -, -⟩ := session_of_step hstep
  intro ip hnext
  rw [hip] at hnext
  rw [hstatus]
  cases hevent : event.ip with
  | none =>
    rw [hevent, if_neg (by simp)] at hnext
    rw [Option.none_or]
    exact hknown ip hnext
  | some assigned =>
    rw [hevent, Option.isSome_some, if_pos rfl, Function.update_self] at hnext
    rw [Option.some_or, hnext]

/-- An egress session that has connected and publishes nothing. -/
theorem quiet_of_not_publishes {event : SessionEvent} (hconnected : ∀ ip, event ≠ .connected ip)
    (hquiet : (ChainEvent.session .egress event).egressPublishes = false) :
    event.ip = none ∧ event.peers = none := by
  cases event with
  | connected ip => exact absurd rfl (hconnected ip)
  | redialed | peerList => cases hquiet
  | _ => exact ⟨rfl, rfl⟩

/-- A step in which the egress session publishes nothing keeps the owner, and without `join_vpn`
every step does. -/
theorem OneOwner.step (howner : displayed.OneOwner joinVpn) (halone : displayed.Alone joinVpn)
    (hquiet : joinVpn = true → event.egressPublishes = false)
    (hstep : displayed.step event = some next) : next.OneOwner joinVpn := by
  cases event with
  | cancel =>
    obtain rfl := Option.some.inj hstep
    exact ⟨howner.ipOwner, howner.peersOwner, howner.lan, howner.egress⟩
  | session role event =>
    obtain ⟨hrunning, hconnected, -, -, hstatus, hip, hipOwner, hpeersOwner⟩ :=
      session_of_step hstep
    cases role with
    | egress =>
      have hnothing (hjoin : joinVpn = true) : event.ip = none ∧ event.peers = none :=
        quiet_of_not_publishes (hconnected.resolve_left halone.connected) (hquiet hjoin)
      refine ⟨fun hjoin ↦ ?_, fun hjoin ↦ ?_, fun hjoin ↦ ?_, fun hjoin ↦ ?_⟩
      · rw [hipOwner, (hnothing hjoin).1]
        exact howner.ipOwner hjoin
      · rw [hpeersOwner, (hnothing hjoin).2]
        exact howner.peersOwner hjoin
      · rw [hip, hstatus, (hnothing hjoin).1]
        exact howner.lan hjoin
      · exact known_of_step hstep (howner.egress hjoin)
    | lan =>
      refine ⟨fun hjoin ↦ ?_, fun hjoin ↦ ?_, fun hjoin ↦ ?_, fun hjoin ↦ ?_⟩
      · rw [hipOwner]
        split_ifs
        · exact nofun
        · exact howner.ipOwner hjoin
      · rw [hpeersOwner]
        split_ifs
        · exact nofun
        · exact howner.peersOwner hjoin
      · exact known_of_step hstep (howner.lan hjoin)
      · rcases halone.single hjoin with hlan | ⟨-, hnone⟩
        · exact absurd hlan hrunning
        · have hstill : next.ip .egress = none := by
            rw [hip]
            split_ifs
            · exact (Function.update_of_ne (by decide) _ _).trans hnone
            · exact hnone
          exact fun ip h ↦ absurd (hstill.symm.trans h) nofun

/-- What the egress session publishes is in the record next. -/
theorem not_oneOwner_of_publishes (hpublishes : event.egressPublishes = true)
    (hstep : displayed.step event = some next) : ¬ next.OneOwner true := by
  intro howner
  cases event with
  | cancel => cases hpublishes
  | session role event =>
    obtain ⟨-, -, -, -, -, -, hipOwner, hpeersOwner⟩ := session_of_step hstep
    cases role with
    | lan => cases hpublishes
    | egress =>
      cases event with
      | redialed ip => exact howner.ipOwner rfl hipOwner
      | peerList peers => exact howner.peersOwner rfl hpeersOwner
      | _ => cases hpublishes

/-! ### Whole runs -/

theorem oneOwner_run {finalMode : SessionMode} {assigned : Ipv4Addr} {events : List ChainEvent}
    {final : Displayed} (hquiet : joinVpn = true → ∀ event ∈ events, event.egressPublishes = false)
    (hrun : run step (launch finalMode joinVpn assigned) events = some final) :
    final.OneOwner joinVpn ∧ final.Alone joinVpn := by
  induction events using List.reverseRecOn generalizing final with
  | nil =>
    obtain rfl := Option.some.inj hrun
    exact ⟨oneOwner_launch .., alone_launch ..⟩
  | append_singleton events event ih =>
    obtain ⟨middle, hmiddle, hstep⟩ := run_concat_eq_some.mp hrun
    obtain ⟨howner, halone⟩ := ih (fun hjoin other hother ↦
      hquiet hjoin other (List.mem_append_left _ hother)) hmiddle
    refine ⟨howner.step halone (fun hjoin ↦ ?_) hstep, halone.step hstep⟩
    exact hquiet hjoin event (List.mem_append_right _ (List.mem_singleton_self _))

/-- In every run of the chained session, the record has its owner in every state that is reached
exactly when, with `join_vpn`, no event of the run makes an address or a peer list of the egress hop
known. -/
theorem oneOwner_iff {finalMode : SessionMode} {assigned : Ipv4Addr} {events : List ChainEvent}
    {final : Displayed} (hrun : run step (launch finalMode joinVpn assigned) events = some final) :
    (∀ before state, before <+: events →
      run step (launch finalMode joinVpn assigned) before = some state → state.OneOwner joinVpn) ↔
      (joinVpn = true → ∀ event ∈ events, event.egressPublishes = false) := by
  constructor
  · rintro howner rfl event hevent
    obtain ⟨before, after, rfl⟩ := List.append_of_mem hevent
    rw [List.append_cons, run_append] at hrun
    obtain ⟨state, hstate, -⟩ := Option.bind_eq_some_iff.mp hrun
    have howned := howner (before ++ [event]) state ⟨after, (List.append_cons ..).symm⟩ hstate
    obtain ⟨middle, -, hstep⟩ := run_concat_eq_some.mp hstate
    by_contra hpublishes
    exact not_oneOwner_of_publishes (Bool.eq_true_of_not_eq_false hpublishes) hstep howned
  · intro hquiet before state hbefore hstate
    refine (oneOwner_run (fun hjoin event hevent ↦ ?_) hstate).1
    exact hquiet hjoin event (hbefore.subset hevent)

/-- Both sessions are up, the first hop having assigned 10.66.0.2. -/
def bothUp : List ChainEvent :=
  [.session .lan (.connected (ipv4 10 66 0 2)), .session .lan .setUp, .session .egress .setUp,
    .session .lan (.peerList [])]

/-- Both sessions are up, and the egress has not reconnected. -/
theorem oneOwner_iff_bothUp :
    ∃ final, run step (launch .globalProxy true (ipv4 10 77 0 9)) bothUp = some final ∧
      ((∀ before state, before <+: bothUp →
        run step (launch .globalProxy true (ipv4 10 77 0 9)) before = some state →
          state.OneOwner true) ↔
        (true = true → ∀ event ∈ bothUp, event.egressPublishes = false)) := by
  obtain ⟨final, hfinal⟩ : ∃ final,
      run step (launch .globalProxy true (ipv4 10 77 0 9)) bothUp = some final := ⟨_, rfl⟩
  exact ⟨final, hfinal, oneOwner_iff hfinal⟩

/-- The egress session loses its connection and rebuilds the chain: its address replaces the one of
the first hop. -/
theorem reconnect_takes_over :
    ∃ final, run step (launch .globalProxy true (ipv4 10 77 0 9))
        (bothUp ++ [.session .egress .receiveFailed, .session .egress .closed,
          .session .egress (.redialed (ipv4 10 77 0 9))]) = some final ∧
      final.ip .lan = some (ipv4 10 66 0 2) ∧
      final.session.status.assignedIp = some (ipv4 10 77 0 9) ∧ ¬ final.OneOwner true :=
  ⟨_, rfl, rfl, rfl, fun howner ↦ howner.ipOwner rfl rfl⟩

end Displayed

end EntroTunnel.Client
