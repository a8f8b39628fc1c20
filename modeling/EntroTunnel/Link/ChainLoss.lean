import EntroTunnel.Foundation.PartialRun
import EntroTunnel.Foundation.Places
import EntroTunnel.Link.Chain

/-!
# A hop that is lost

When reading a hop's tunnel fails, or the hop closes the carrier's stream, the carrier's downlink
ends and drops its half of the pipe. The uplink keeps the other half while it waits for bytes, so
the next hop's transport waits for an end that does not come (`loss_unseen`). The uplink ends too
when it finds that the writer pump is gone. `EndsTogether` excludes the steps that end a downlink
whose uplink goes on; in runs without them the loss of any hop reaches the reader of the last one
(`loss_reaches_end`).
-/

set_option autoImplicit false
set_option relaxedAutoImplicit false

namespace EntroTunnel.Link

open EntroTunnel.Core EntroTunnel.Foundation EntroTunnel.Client EntroTunnel.Server

namespace Hop

/-- The uplink is over, or will be without anything new from the near end: its pipe or the token
says so, or it has bytes that it will not get rid of. -/
def uplinkEnding (cancelled : Bool) (hop : Hop) : Bool :=
  match hop.carrier.uplink with
  | .ended | .closing => true
  | .sending _ => cancelled || hop.carrier.near ≠ .opened || !hop.carrier.out.hasReceiver
  | .reading => cancelled || hop.carrier.near ≠ .opened ||
      (!hop.carrier.out.hasReceiver && hop.carrier.toFar ≠ [])

/-- A step that may end the downlink ends it with the uplink. -/
def endsTogether (cancelled : Bool) (hop : Hop) : HopAction → Bool
  | .toClient => hop.session.wire.head?.all fun frame ↦
      match frame with
      | .streamClose id _ => id ≠ carrierId || hop.uplinkEnding cancelled
      | _ => true
  | .clientEof | .clientLost => hop.uplinkEnding cancelled
  | _ => true

/-- The downlink does not go before the uplink. -/
def Together (cancelled : Bool) (hop : Hop) : Prop :=
  hop.carrier.downlink = .ended → hop.uplinkEnding cancelled = true

variable {cancelled : Bool} {hop next : Hop} {action : HopAction}

/-- What ends the uplink is there to stay. -/
theorem uplinkEnding_congr (hending : hop.uplinkEnding cancelled = true)
    (huplink : next.carrier.uplink = hop.carrier.uplink)
    (hreceiver : hop.carrier.out.hasReceiver = false → next.carrier.out.hasReceiver = false)
    (hnear : hop.carrier.near ≠ .opened → next.carrier.near ≠ .opened)
    (hbytes : hop.carrier.toFar ≠ [] → next.carrier.toFar ≠ []) :
    next.uplinkEnding cancelled = true := by
  unfold uplinkEnding at hending ⊢
  rw [huplink]
  cases hphase : hop.carrier.uplink with
  | ended | closing => rfl
  | sending data =>
    simp only [hphase, Bool.or_eq_true, decide_eq_true_iff, Bool.not_eq_true'] at hending ⊢
    exact hending.imp (Or.imp_right hnear) hreceiver
  | reading =>
    simp only [hphase, Bool.or_eq_true, Bool.and_eq_true, decide_eq_true_iff,
      Bool.not_eq_true'] at hending ⊢
    exact hending.imp (Or.imp_right hnear) (And.imp hreceiver hbytes)

theorem uplinkEnding_carrier {carrierAction : CarrierAction} {carrier : Carrier}
    {frame : Option Frame} (hending : hop.uplinkEnding cancelled = true)
    (hcarrier : hop.carrier.Stepped cancelled carrierAction carrier frame) (up : List Frame) :
    ({ hop with carrier, up } : Hop).uplinkEnding cancelled = true := by
  cases hcarrier with
  | read count huplink =>
    simp only [uplinkEnding, huplink, Bool.or_eq_true, Bool.and_eq_true] at hending ⊢
    exact hending.imp_right And.left
  | queue data out huplink hsend =>
    obtain ⟨hthere, -⟩ := Channel.trySend_eq_some hsend
    simp only [uplinkEnding, huplink, hthere, Bool.or_eq_true, Bool.not_true,
      Bool.false_eq_true, or_false] at hending ⊢
    exact .inl hending
  | readEof | queueFailed | close | closeFailed | cancelUplink => rfl
  | take _ _ _ hrecv =>
    obtain ⟨-, -, hreceiver⟩ := Channel.recv_eq_item hrecv
    exact uplinkEnding_congr hending rfl (fun h ↦ hreceiver.trans h) id id
  | pong _ _ hsend =>
    obtain ⟨-, -, -, -, hreceiver⟩ := Channel.trySend_eq_some hsend
    exact uplinkEnding_congr hending rfl (fun h ↦ hreceiver.trans h) id id
  | closed => exact uplinkEnding_congr hending rfl (fun _ ↦ rfl) id id
  | receive received =>
    refine uplinkEnding_congr hending (Carrier.demux_uplink received) ?_ ?_ ?_
    · exact fun h ↦ (Carrier.demux_hasReceiver received).trans h
    · exact fun h ↦ (Carrier.demux_near received).symm ▸ h
    · exact fun h ↦ (Carrier.demux_toFar received).symm ▸ h
  | receiveFailed | writeFailed | cancelDownlink =>
    exact uplinkEnding_congr hending rfl (fun h ↦ Carrier.endDownlink_hasReceiver.trans h) id id
  | nearWrites data => exact uplinkEnding_congr hending rfl id id (by simp +contextual)
  | nearShuts | nearDrops => exact uplinkEnding_congr hending rfl id (fun _ ↦ by simp) id
  | takeEnd | sent | sendFailed | cancelPump | write | written | pongFailed | nearReads =>
    exact uplinkEnding_congr hending rfl id id id

theorem uplinkEnding_of_near (hnear : hop.carrier.near ≠ .opened) :
    hop.uplinkEnding cancelled = true := by
  unfold uplinkEnding
  split <;> simp [hnear]

theorem uplinkEnding_of_cancelled (hcancelled : cancelled = true) :
    hop.uplinkEnding cancelled = true := by
  unfold uplinkEnding
  split <;> simp [hcancelled]

/-- A step of the carrier that is not one of the tunnel's reader. -/
theorem together_carrier {carrierAction : CarrierAction} {carrier : Carrier}
    {frame : Option Frame} (htogether : hop.Together cancelled)
    (hreceive : ∀ frame, carrierAction ≠ .receive frame) (hfailed : carrierAction ≠ .receiveFailed)
    (hcarrier : hop.carrier.Stepped cancelled carrierAction carrier frame) (up : List Frame) :
    ({ hop with carrier, up } : Hop).Together cancelled := by
  intro hended
  have hkept : hop.uplinkEnding cancelled = true →
      ({ hop with carrier, up } : Hop).uplinkEnding cancelled = true :=
    fun hending ↦ uplinkEnding_carrier hending hcarrier up
  cases hcarrier with
  | receive frame => exact absurd rfl (hreceive frame)
  | receiveFailed => exact absurd rfl hfailed
  | write | written | pong | pongFailed => exact absurd hended nofun
  | writeFailed _ _ _ hnear => exact hkept (uplinkEnding_of_near (by simp [hnear]))
  | cancelDownlink hcancelled => exact hkept (uplinkEnding_of_cancelled hcancelled)
  | _ => exact hkept (htogether hended)

/-- A step keeps the downlink with the uplink. -/
theorem together_step (htogether : hop.Together cancelled)
    (hends : hop.endsTogether cancelled action = true)
    (hstep : hop.Stepped cancelled action next) : next.Together cancelled := by
  cases hstep with
  | carrier carrierAction carrier frame hreceive hfailed hcarrier =>
    exact together_carrier htogether hreceive hfailed hcarrier _
  | toServer | session | deliver => exact htogether
  | toClient frame rest hwire hdownlink =>
    intro hended
    have hreceived :
        hop.carrier.Stepped cancelled (.receive frame) (hop.carrier.demux frame) none :=
      .receive frame hdownlink
    suffices hending : hop.uplinkEnding cancelled = true from
      uplinkEnding_carrier hending hreceived hop.up
    rw [endsTogether, hwire, List.head?_cons, Option.all_some] at hends
    cases frame with
    | streamClose id error =>
      by_cases hid : id = carrierId
      · simpa [hid] using hends
      · simp [Carrier.demux, hid, hdownlink] at hended
    | streamData id data =>
      by_cases hid : id = carrierId <;> simp [Carrier.demux, hid, hdownlink] at hended
    | ping => simp [Carrier.demux] at hended
    | _ => simp [Carrier.demux, hdownlink] at hended
  | lost action haction hdownlink =>
    intro _
    have hlost : hop.carrier.Stepped cancelled .receiveFailed hop.carrier.endDownlink none :=
      .receiveFailed hdownlink
    suffices hending : hop.uplinkEnding cancelled = true from
      uplinkEnding_carrier hending hlost hop.up
    obtain rfl | rfl := haction <;> exact hends

/-- A downlink that is over stays so. -/
theorem downlink_over (hstep : hop.Stepped cancelled action next)
    (hended : hop.carrier.downlink = .ended) : next.carrier.downlink = .ended := by
  cases hstep with
  | carrier _ _ _ _ _ hcarrier => exact hcarrier.downlink_over.1 hended
  | toServer | session | deliver => exact hended
  | toClient _ _ _ hdownlink => exact absurd (hdownlink.symm.trans hended) nofun
  | lost => rfl

/-- A downlink that is over has its uplink with it once nothing moves any more. -/
theorem broken_of_quiescent (hquiet : hop.Quiescent cancelled) (hwf : hop.carrier.WellFormed)
    (htogether : hop.Together cancelled) (hended : hop.carrier.downlink = .ended) :
    hop.carrier.broken = true := by
  have huplink : hop.carrier.uplink = .ended := by
    refine (hquiet.quiet.uplink hwf).resolve_right ?_
    rintro ⟨hreading, hempty, hopened, hnot⟩
    have hending := htogether hended
    simp [uplinkEnding, hreading, hempty, hopened, hnot] at hending
  simp [Carrier.broken, huplink, hended]

end Hop

namespace Chain

variable {chain next : Chain} {action : ChainAction} {index : ℕ}

/-- No step ends the downlink of a carrier whose uplink goes on. -/
def endsTogether (chain : Chain) : ChainAction → Bool
  | .hop index action => chain.hops[index]?.all fun hop ↦ hop.endsTogether chain.cancelled action
  | .starve index => (chain.above index).all fun upper ↦ upper.uplinkEnding chain.cancelled
  | _ => true

/-- The condition on the runs below. -/
abbrev EndsTogether (chain : Chain) (action : ChainAction) : Prop :=
  chain.endsTogether action = true

/-- What every step keeps. -/
structure Joined (chain : Chain) : Prop where
  wellFormed : ∀ hop ∈ chain.hops, hop.carrier.WellFormed
  together : ∀ hop ∈ chain.hops, hop.Together chain.cancelled
  /-- A near end below another carrier is dropped only by a tunnel whose reader is gone. -/
  dropped : ∀ (index : ℕ) (hop upper : Hop), chain.hops[index]? = some hop →
    chain.hops[index + 1]? = some upper → hop.carrier.near = .gone →
      upper.carrier.downlink = .ended
  /-- The topmost tunnel is there, or what it ran over is not asked for. -/
  last : ∀ hop, chain.last = some hop → chain.top = .reading ∨ chain.top = .failed →
    hop.carrier.near = .opened
  failed : ∀ hop, chain.last = some hop → chain.top = .failed → hop.carrier.downlink = .ended

theorem joined_start : start.Joined := by
  refine ⟨?_, ?_, ?_, ?_, ?_⟩ <;> simp [start, Chain.last]

/-- One hop changes, and perhaps the topmost tunnel. -/
theorem Joined.put (hjoined : chain.Joined) {hop changed : Hop}
    (hhop : chain.hops[index]? = some hop) (hhops : next.hops = chain.hops.set index changed)
    (hcancelled : next.cancelled = chain.cancelled)
    (hkeeps : next.top = .reading ∨ next.top = .failed → next.top = chain.top)
    (hwf : changed.carrier.WellFormed) (htogether : changed.Together chain.cancelled)
    (hended : hop.carrier.downlink = .ended → changed.carrier.downlink = .ended)
    (hnear : changed.carrier.near = hop.carrier.near ∨
      (∃ upper, chain.hops[index + 1]? = some upper ∧
        (changed.carrier.near = .gone → upper.carrier.downlink = .ended)) ∨
      (chain.hops[index + 1]? = none ∧ ¬(next.top = .reading ∨ next.top = .failed))) :
    next.Joined := by
  have hlt := (List.getElem?_eq_some_iff.mp hhop).1
  have hset : ∀ place, next.hops[place]? =
      if index = place then some changed else chain.hops[place]? := by
    intro place
    rw [hhops, getElem?_set_of_eq_some hhop]
  have hlastIs : index = chain.hops.length - 1 → chain.last = some hop := by
    intro hsame
    rw [Chain.last, ← hsame]
    exact hhop
  refine ⟨fun other hother ↦ ?_, fun other hother ↦ ?_,
    fun place lower upper hlower hupper hgone ↦ ?_,
    fun other hother htop ↦ ?_, fun other hother htop ↦ ?_⟩
  · obtain hold | rfl := List.mem_or_eq_of_mem_set (hhops ▸ hother)
    · exact hjoined.wellFormed other hold
    · exact hwf
  · rw [hcancelled]
    obtain hold | rfl := List.mem_or_eq_of_mem_set (hhops ▸ hother)
    · exact hjoined.together other hold
    · exact htogether
  · rw [hset] at hlower hupper
    by_cases hplace : index = place
    · subst hplace
      rw [if_pos rfl] at hlower
      rw [if_neg (by omega)] at hupper
      obtain rfl := Option.some.inj hlower
      obtain hsame | ⟨above, habove, hdropped⟩ | ⟨hnone, -⟩ := hnear
      · exact hjoined.dropped index hop upper hhop hupper (hsame.symm.trans hgone)
      · obtain rfl := Option.some.inj (habove.symm.trans hupper)
        exact hdropped hgone
      · rw [hnone] at hupper
        exact absurd hupper (by simp)
    · rw [if_neg hplace] at hlower
      by_cases habove : index = place + 1
      · rw [if_pos habove] at hupper
        obtain rfl := Option.some.inj hupper
        exact hended (hjoined.dropped place lower hop hlower (habove ▸ hhop) hgone)
      · rw [if_neg habove] at hupper
        exact hjoined.dropped place lower upper hlower hupper hgone
  · rw [Chain.last, hhops, List.length_set, ← hhops, hset] at hother
    have hold := hkeeps htop
    split_ifs at hother with hsame
    · obtain rfl := Option.some.inj hother
      obtain hkept | ⟨above, habove, -⟩ | ⟨-, hnot⟩ := hnear
      · exact hkept.trans (hjoined.last hop (hlastIs hsame) (hold ▸ htop))
      · have hthere := (List.getElem?_eq_some_iff.mp habove).1
        omega
      · exact absurd htop hnot
    · exact hjoined.last other hother (hold ▸ htop)
  · rw [Chain.last, hhops, List.length_set, ← hhops, hset] at hother
    have hold : chain.top = .failed := (hkeeps (.inr htop)).symm.trans htop
    split_ifs at hother with hsame
    · obtain rfl := Option.some.inj hother
      exact hended (hjoined.failed hop (hlastIs hsame) hold)
    · exact hjoined.failed other hother hold

/-- The topmost tunnel is closed or dropped, and the near end below it with it. -/
theorem Joined.endTop (hjoined : chain.Joined) {top : TopPhase} {near : NearEnd}
    (hnear : near ≠ .opened) (htop : top ≠ .reading ∧ top ≠ .failed) :
    (chain.endTop top near).Joined := by
  have hnot : ¬(top = .reading ∨ top = .failed) := not_or.mpr htop
  unfold Chain.endTop
  cases hlast : chain.last with
  | none =>
    exact ⟨hjoined.wellFormed, hjoined.together, hjoined.dropped, fun _ _ h ↦ absurd h hnot,
      fun _ _ h ↦ absurd h htop.2⟩
  | some hop =>
    have hmem : hop ∈ chain.hops := List.mem_of_getElem? hlast
    refine hjoined.put hlast rfl rfl (fun h ↦ absurd h hnot)
      ((hjoined.wellFormed hop hmem).kept rfl rfl Iff.rfl rfl (hjoined.wellFormed hop hmem).drained)
      (fun _ ↦ Hop.uplinkEnding_of_near hnear) id (.inr (.inr ⟨?_, hnot⟩))
    rw [List.getElem?_eq_none_iff]
    omega

theorem Joined.step (hjoined : chain.Joined) (hends : chain.EndsTogether action)
    (hstep : chain.step action = some next) : next.Joined := by
  cases stepped_of_step hstep with
  | extend peer hello hasTun target htop =>
    refine ⟨?_, ?_, fun place lower upper hlower hupper hgone ↦ ?_, fun hop hhop _ ↦ ?_,
      fun hop hhop hfailed ↦ ?_⟩
    · simpa [or_imp, forall_and, Hop.start] using
        ⟨hjoined.wellFormed, Carrier.wellFormed_start target⟩
    · have hnew : (Hop.start peer hello hasTun target).Together chain.cancelled :=
        fun h ↦ CarrierDownlink.noConfusion h
      simpa [or_imp, forall_and] using ⟨hjoined.together, hnew⟩
    · have hlt := (List.getElem?_eq_some_iff.mp hupper).1
      rw [List.length_append, List.length_singleton] at hlt
      rw [List.getElem?_append_left (by omega)] at hlower
      by_cases hinside : place + 1 < chain.hops.length
      · rw [List.getElem?_append_left hinside] at hupper
        exact hjoined.dropped place lower upper hlower hupper hgone
      · have hlast : chain.last = some lower := by
          rw [Chain.last, show chain.hops.length - 1 = place by omega]
          exact hlower
        cases (hjoined.last lower hlast (.inl htop)).symm.trans hgone
    · have hnew : hop = .start peer hello hasTun target := by
        simpa [Chain.last, eq_comm] using hhop
      rw [hnew]
      rfl
    · cases htop.symm.trans hfailed
  | hop index action hop changed hnear hhop hchanged =>
    have hmem := mem_of_hop hhop
    refine hjoined.put hhop rfl rfl (fun _ ↦ rfl)
      (Hop.wellFormed_step (hjoined.wellFormed hop hmem) hchanged)
      (Hop.together_step (hjoined.together hop hmem) ?_ hchanged) (Hop.downlink_over hchanged)
      (.inl (Hop.near_step hnear hchanged))
    simpa [EndsTogether, endsTogether, hhop] using hends
  | near action index hop changed hhop hnear =>
    have hmem := mem_of_hop hhop
    have hwf := hjoined.wellFormed hop hmem
    cases hnear with
    | writes data hopened =>
      have hwrites : hop.carrier.Stepped chain.cancelled (.nearWrites data)
          { hop.carrier with toFar := hop.carrier.toFar ++ data } none := .nearWrites data hopened
      exact hjoined.put hhop rfl rfl (fun _ ↦ rfl) (hwf.step hwrites)
        (Hop.together_carrier (hjoined.together hop hmem) (fun _ ↦ by simp)
          (by simp) hwrites hop.up)
        id (.inl rfl)
    | reads count hthere =>
      have hreads : hop.carrier.Stepped chain.cancelled (.nearReads count)
          { hop.carrier with toNear := hop.carrier.toNear.drop count } none :=
        .nearReads count hthere
      exact hjoined.put hhop rfl rfl (fun _ ↦ rfl) (hwf.step hreads)
        (Hop.together_carrier (hjoined.together hop hmem) (fun _ ↦ by simp) (by simp) hreads hop.up)
        id (.inl rfl)
  | ended action index hop upper near hhop hupper hnear hgone hpump hdownlink =>
    have hwf := hjoined.wellFormed hop (mem_of_hop hhop)
    exact hjoined.put hhop rfl rfl (fun _ ↦ rfl) (hwf.kept rfl rfl Iff.rfl rfl hwf.drained)
      (fun _ ↦ Hop.uplinkEnding_of_near hnear) id (.inr (.inl ⟨upper, hupper, hdownlink⟩))
  | starved index hop upper hhop hbroken hupper hdownlink =>
    have hwf := hjoined.wellFormed upper (mem_of_hop hupper)
    have hending : upper.uplinkEnding chain.cancelled = true := by
      simpa [EndsTogether, endsTogether, above, hupper] using hends
    have hlost :
        upper.carrier.Stepped chain.cancelled .receiveFailed upper.carrier.endDownlink none :=
      .receiveFailed hdownlink
    exact hjoined.put hupper rfl rfl (fun _ ↦ rfl) (hwf.step hlost)
      (fun _ ↦ Hop.uplinkEnding_carrier hending hlost upper.up) (fun _ ↦ rfl) (.inl rfl)
  | failed index hop hhop hbroken hlast htop =>
    have hlastIs : chain.last = some hop := by
      have hlt := (List.getElem?_eq_some_iff.mp hhop).1
      rw [List.getElem?_eq_none_iff] at hlast
      rw [Chain.last, show chain.hops.length - 1 = index by omega]
      exact hhop
    refine ⟨hjoined.wellFormed, hjoined.together, hjoined.dropped,
      fun other hother _ ↦ hjoined.last other hother (.inl htop), fun other hother _ ↦ ?_⟩
    obtain rfl := Option.some.inj (hlastIs.symm.trans hother)
    simp only [Carrier.broken, Bool.and_eq_true, decide_eq_true_iff] at hbroken
    exact hbroken.2
  | closeTop htop | dropTop htop => exact hjoined.endTop (by simp) (by simp)
  | cancel =>
    exact ⟨hjoined.wellFormed, fun _ _ _ ↦ Hop.uplinkEnding_of_cancelled rfl, hjoined.dropped,
      hjoined.last, hjoined.failed⟩

/-! ### The end of the chain learns of it -/

/-- Bytes that the tunnel above could read do not wait. -/
theorem Quiescent.drained (hquiet : chain.Quiescent) {hop : Hop}
    (hhop : chain.hops[index]? = some hop) (hreads : chain.aboveReads index = true)
    (hnear : hop.carrier.near ≠ .gone) : hop.carrier.toNear = [] := by
  by_contra hbytes
  have hlength : 1 ≤ hop.carrier.toNear.length := List.length_pos_iff.mpr hbytes
  have hnone := hquiet (.consume index 1) rfl
  simp only [step, hreads, zero_lt_one, and_self, if_true, nearStep, hhop, Option.bind_some,
    Option.map_eq_none_iff, Carrier.step] at hnone
  rw [if_pos ⟨hnear, hlength⟩] at hnone
  cases hnone

/-- The tunnel above finds the end of a pipe that is empty and has lost its far end. -/
theorem Quiescent.not_starving (hquiet : chain.Quiescent) {hop : Hop}
    (hhop : chain.hops[index]? = some hop) (hbroken : hop.carrier.broken = true)
    (hempty : hop.carrier.toNear = []) : chain.aboveReads index = false := by
  by_contra hreads
  have hnone := hquiet (.starve index) rfl
  unfold aboveReads at hreads
  cases habove : chain.above index with
  | none =>
    rw [habove] at hreads
    have htop : chain.top = .reading := by simpa using hreads
    simp [step, hhop, hbroken, hempty, habove, htop] at hnone
  | some upper =>
    rw [habove] at hreads
    have hdownlink : upper.carrier.downlink = .receiving := by simpa using hreads
    simp [step, hhop, hbroken, hempty, habove, Hop.receive, Carrier.step, hdownlink] at hnone

/-- While the topmost tunnel is there no downlink is stuck. -/
theorem Quiescent.downlink (hquiet : chain.Quiescent) (hjoined : chain.Joined)
    (htop : chain.top = .reading ∨ chain.top = .failed) :
    ∀ distance index hop, index + 1 + distance = chain.hops.length →
      chain.hops[index]? = some hop →
        hop.carrier.downlink = .ended ∨ hop.carrier.downlink = .receiving := by
  intro distance
  induction distance with
  | zero =>
    intro index hop hindex hhop
    have hlast : chain.last = some hop := by
      rw [Chain.last, ← hindex]
      exact hhop
    have habove : chain.above index = none := List.getElem?_eq_none_iff.mpr (by omega)
    obtain hended | ⟨hreceiving, -⟩ | ⟨byte, rest, hwriting, hnear, hfull⟩ :=
      (hquiet.hop hhop).quiet.downlink (hjoined.wellFormed hop (mem_of_hop hhop))
    · exact .inl hended
    · exact .inr hreceiving
    · obtain hreading | hfailed := htop
      · have hempty := hquiet.drained hhop (by simp [aboveReads, habove, hreading]) hnear
        simp [hempty, pipeSize] at hfull
      · exact .inl (hjoined.failed hop hlast hfailed)
  | succ distance ih =>
    intro index hop hindex hhop
    obtain ⟨upper, hupper⟩ : ∃ upper, chain.hops[index + 1]? = some upper :=
      ⟨_, List.getElem?_eq_getElem (by omega)⟩
    have hupperMem := mem_of_hop hupper
    obtain hended | ⟨hreceiving, -⟩ | ⟨byte, rest, hwriting, hnear, hfull⟩ :=
      (hquiet.hop hhop).quiet.downlink (hjoined.wellFormed hop (mem_of_hop hhop))
    · exact .inl hended
    · exact .inr hreceiving
    · obtain hover | hreads := ih (index + 1) upper (by omega) hupper
      · have hwf := hjoined.wellFormed upper hupperMem
        have hbroken := Hop.broken_of_quiescent (hquiet.hop hupper) hwf
          (hjoined.together upper hupperMem) hover
        have hpump := (hquiet.hop hupper).quiet.pump_ended hwf hbroken
        exact absurd (hquiet.gone hhop hupper hpump hover) hnear
      · have hempty := hquiet.drained hhop (by simp [aboveReads, above, hupper, hreads]) hnear
        simp [hempty, pipeSize] at hfull

/-- In a run whose steps all meet the condition, once a hop's downlink is over and nothing moves any
more, the end is there to read on the pipe of that carrier and of every later one, and the reader of
the topmost tunnel has failed. -/
theorem loss_reaches_end {actions : List ChainAction}
    (hrun : run (guarded EndsTogether step) start actions = some chain)
    (hquiet : chain.Quiescent) (htop : chain.top = .reading ∨ chain.top = .failed) {hop : Hop}
    (hhop : chain.hops[index]? = some hop) (hlost : hop.carrier.downlink = .ended) :
    (∀ (place : ℕ) (other : Hop), index ≤ place → chain.hops[place]? = some other →
      other.carrier.broken = true) ∧ chain.top = .failed := by
  have hjoined : chain.Joined :=
    guarded_preserves (fun _ _ _ h hends hstep ↦ Joined.step h hends hstep) hrun joined_start
  have hbroken : ∀ {place : ℕ} {other : Hop}, chain.hops[place]? = some other →
      other.carrier.downlink = .ended → other.carrier.broken = true := fun hplace hended ↦
    Hop.broken_of_quiescent (hquiet.hop hplace) (hjoined.wellFormed _ (mem_of_hop hplace))
      (hjoined.together _ (mem_of_hop hplace)) hended
  -- One carrier after the other: what lost its far end is read to the end by the tunnel above.
  have hfinds : ∀ {place : ℕ} {other : Hop}, chain.hops[place]? = some other →
      other.carrier.broken = true → other.carrier.near ≠ .gone →
        chain.aboveReads place = false := by
    intro place other hplace hdead hnear
    by_contra hreads
    have hempty := hquiet.drained hplace (Bool.eq_true_of_not_eq_false hreads) hnear
    exact hreads (hquiet.not_starving hplace hdead hempty)
  have hall : ∀ distance other, chain.hops[index + distance]? = some other →
      other.carrier.broken = true := by
    intro distance
    induction distance with
    | zero =>
      intro other hother
      obtain rfl := Option.some.inj (hhop.symm.trans hother)
      exact hbroken hhop hlost
    | succ distance ih =>
      intro other hother
      have hlt := (List.getElem?_eq_some_iff.mp hother).1
      obtain ⟨lower, hlower⟩ : ∃ lower, chain.hops[index + distance]? = some lower :=
        ⟨_, List.getElem?_eq_getElem (by omega)⟩
      refine hbroken hother ?_
      by_cases hgone : lower.carrier.near = .gone
      · exact hjoined.dropped _ lower other hlower hother hgone
      · have hdeaf := hfinds hlower (ih lower hlower) hgone
        rw [aboveReads, above, show index + distance + 1 = index + (distance + 1) by omega,
          hother] at hdeaf
        refine (hquiet.downlink hjoined htop (chain.hops.length - (index + (distance + 1) + 1)) _
          other (by omega) hother).resolve_right ?_
        simpa using hdeaf
  refine ⟨fun place other hle hother ↦ hall (place - index) other ?_, ?_⟩
  · rw [Nat.add_sub_cancel' hle]
    exact hother
  · have hlt := (List.getElem?_eq_some_iff.mp hhop).1
    obtain ⟨final, hfinal⟩ : ∃ final, chain.hops[chain.hops.length - 1]? = some final :=
      ⟨_, List.getElem?_eq_getElem (by omega)⟩
    have hdead : final.carrier.broken = true :=
      hall (chain.hops.length - 1 - index) final
        (by rw [Nat.add_sub_cancel' (by omega)]; exact hfinal)
    have hnear := hjoined.last final hfinal htop
    have hdeaf := hfinds hfinal hdead (by simp [hnear])
    rw [aboveReads, above, List.getElem?_eq_none_iff.mpr (by omega)] at hdeaf
    exact htop.resolve_left (by simpa using hdeaf)

section Example

/-- The writer pump fails, and the uplink finds it gone. -/
def brokenWriteRun (index : ℕ) : List ChainAction :=
  [.write index [1], .hop index (.carrier (.read 1)), .hop index (.carrier .queue),
    .hop index (.carrier .take), .hop index (.carrier .sendFailed), .hop index (.carrier .closed),
    .write index [2], .hop index (.carrier (.read 1)), .hop index (.carrier .queue),
    .hop index (.carrier .close)]

/-- A write to the first hop fails, and the loss reaches the tunnel at the end of the chain. -/
theorem loss_reaches_end_brokenWriteRun :
    ∃ chain, run (guarded EndsTogether step) start
        (openRun 0 ++ brokenWriteRun 0 ++ [.hop 0 .clientLost, .starve 0, .hop 0 .serverEof,
          .hop 0 .shutdown, .hop 0 (.remote 0 .finish)]) = some chain ∧
      ∃ hop, chain.hops[0]? = some hop ∧
        (∀ (place : ℕ) (other : Hop), 0 ≤ place → chain.hops[place]? = some other →
          other.carrier.broken = true) ∧ chain.top = .failed := by
  obtain ⟨chain, hrun, hchain⟩ : ∃ chain, run (guarded EndsTogether step) start
        (openRun 0 ++ brokenWriteRun 0 ++ [.hop 0 .clientLost, .starve 0, .hop 0 .serverEof,
          .hop 0 .shutdown, .hop 0 (.remote 0 .finish)]) = some chain ∧
      (chain.idle && chain.top = .failed &&
        chain.hops[0]?.any fun hop ↦ hop.carrier.downlink = .ended) = true :=
    Option.any_eq_true _ _ |>.mp (by decide +kernel)
  simp only [Bool.and_eq_true, decide_eq_true_iff] at hchain
  obtain ⟨hop, hhop, hlost⟩ := Option.any_eq_true _ _ |>.mp hchain.2
  exact ⟨chain, hrun, hop, hhop, loss_reaches_end hrun (quiescent_of_idle hchain.1.1)
    (.inr hchain.1.2) hhop (of_decide_eq_true hlost)⟩

/-- The hop closes the carrier's stream, and the tunnel above goes on waiting. -/
theorem loss_unseen :
    ¬ ∀ (actions : List ChainAction) (chain : Chain) (index : ℕ) (hop : Hop),
      run step start actions = some chain → chain.cancelled = false → chain.Quiescent →
        chain.top = .reading ∨ chain.top = .failed → chain.hops[index]? = some hop →
          hop.carrier.downlink = .ended → hop.carrier.broken = true := by
  intro hall
  obtain ⟨chain, hrun, hchain⟩ : ∃ chain, run step start (openRun 0 ++ reportRun 0) = some chain ∧
      (chain.idle && chain.cancelled = false && chain.top = .reading &&
        chain.hops[0]?.any fun hop ↦
          hop.carrier.downlink = .ended && !hop.carrier.broken) = true :=
    Option.any_eq_true _ _ |>.mp (by decide +kernel)
  simp only [Bool.and_eq_true, decide_eq_true_iff] at hchain
  obtain ⟨⟨⟨hidle, hcancelled⟩, htop⟩, hany⟩ := hchain
  obtain ⟨hop, hhop, hlost⟩ := Option.any_eq_true _ _ |>.mp hany
  rw [Bool.and_eq_true, decide_eq_true_iff] at hlost
  have hbroken := hall _ _ _ hop hrun hcancelled (quiescent_of_idle hidle) (.inl htop) hhop hlost.1
  rw [hbroken] at hlost
  exact absurd hlost.2 nofun

end Example

end Chain

end EntroTunnel.Link
