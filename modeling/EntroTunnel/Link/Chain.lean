import EntroTunnel.Link.CarrierHop

/-!
# A chain of hops

`connect_chain` of `client-core/src/chain.rs`, and what becomes of the chain. The tunnel to each hop
but the last is consumed by a carrier, and the next hop's tunnel runs over its near end; `hops` are
the hops that carry another one, the first hop first. The topmost tunnel is the one that is being
set up, or the one that the engine uses: when it is extended by one more hop its frame reader and
writer go into a new carrier.

A carrier's near end belongs to the tunnel above it. It is read by that tunnel's reader, shut when
the tunnel's writer is closed, and dropped when its writer and its reader are gone: for a tunnel
with a carrier when its writer pump and its downlink are over, for the topmost tunnel when
`connect_chain` fails or the engine replaces the channel.
-/

set_option autoImplicit false
set_option relaxedAutoImplicit false

namespace EntroTunnel.Link

open EntroTunnel.Core EntroTunnel.Foundation EntroTunnel.Client EntroTunnel.Server

/-- The topmost tunnel: its reader waits for frames, its reader has failed, its writer is closed and
nobody reads it any more, or it is dropped. -/
inductive TopPhase
  | reading
  | failed
  | closed
  | dropped
  deriving DecidableEq, Repr

/-- A chain while it is built, in use and after. -/
structure Chain where
  hops : List Hop
  top : TopPhase
  cancelled : Bool
  deriving DecidableEq

/-- A step of a chain. -/
inductive ChainAction
  /-- `open_carrier` over the topmost tunnel, which ends in a session of its own. -/
  | extend (peer : PeerConfig) (hello : Hello) (hasTun : Bool) (target : TargetAddr)
  | hop (index : ℕ) (action : HopAction)
  /-- The tunnel above writes to the near end. -/
  | write (index : ℕ) (data : Bytes)
  /-- The tunnel above reads from the near end. -/
  | consume (index count : ℕ)
  /-- The reader of the tunnel above finds the end. -/
  | starve (index : ℕ)
  /-- The writer of the tunnel above was closed. -/
  | shut (index : ℕ)
  /-- The tunnel above is gone. -/
  | drop (index : ℕ)
  | closeTop
  | dropTop
  | cancel
  deriving DecidableEq, Repr

namespace ChainAction

/-- Taken by a task of the client or a server, or by a link. -/
def Internal : ChainAction → Bool
  | .hop _ action => action.Internal
  | .consume .. | .starve _ | .shut _ | .drop _ => true
  | .extend .. | .write .. | .closeTop | .dropTop | .cancel => false

end ChainAction

/-- A step of the near end is not a step of the hop by itself. -/
def HopAction.nearEnd : HopAction → Bool
  | .carrier (.nearWrites _) | .carrier (.nearReads _) | .carrier .nearShuts
  | .carrier .nearDrops => true
  | _ => false

/-- A step of a hop leaves its near end alone, unless it is one of the near end. -/
theorem Hop.near_step {cancelled : Bool} {hop next : Hop} {action : HopAction}
    (hnear : action.nearEnd = false) (hstep : hop.Stepped cancelled action next) :
    next.carrier.near = hop.carrier.near := by
  cases hstep with
  | carrier action carrier frame hreceive hfailed hcarrier =>
    cases hcarrier with
    | receive frame => exact absurd rfl (hreceive frame)
    | nearWrites | nearReads | nearShuts | nearDrops => exact absurd hnear nofun
    | _ => rfl
  | toServer | session | deliver | lost => rfl
  | toClient frame => exact Carrier.demux_near frame

/-- The near end of a hop's carrier changes. -/
def Hop.withNear (hop : Hop) (near : NearEnd) : Hop :=
  { hop with carrier := { hop.carrier with near } }

namespace Chain

/-- The first hop's tunnel is up. -/
def start : Chain := ⟨[], .reading, false⟩

/-- The tunnel above a hop's carrier. -/
def above (chain : Chain) (index : ℕ) : Option Hop :=
  chain.hops[index + 1]?

/-- The reader of the tunnel above waits for bytes. -/
def aboveReads (chain : Chain) (index : ℕ) : Bool :=
  match chain.above index with
  | some upper => upper.carrier.downlink = .receiving
  | none => chain.top = .reading

/-- The writer of the tunnel above may write. -/
def aboveWrites (chain : Chain) (index : ℕ) : Bool :=
  match chain.above index with
  | some upper => upper.carrier.pump ≠ .ended
  | none => chain.top = .reading || chain.top = .failed

/-- Change a hop by a step of its near end. -/
def nearStep (chain : Chain) (index : ℕ) (action : CarrierAction) : Option Chain :=
  chain.hops[index]?.bind fun hop ↦ (hop.carrier.step false action).map fun result ↦
    { chain with hops := chain.hops.set index { hop with carrier := result.1 } }

/-- The hop whose near end belongs to the topmost tunnel. -/
def last (chain : Chain) : Option Hop :=
  chain.hops[chain.hops.length - 1]?

theorem hops_of_last_eq_none {chain : Chain} (hlast : chain.last = none) : chain.hops = [] := by
  rw [last, List.getElem?_eq_none_iff] at hlast
  exact List.length_eq_zero_iff.mp (by omega)

/-- Shut or drop the near end of the last carrier, if there is one. -/
def endTop (chain : Chain) (top : TopPhase) (near : NearEnd) : Chain :=
  match chain.last with
  | some hop =>
    { chain with hops := chain.hops.set (chain.hops.length - 1) (hop.withNear near), top }
  | none => { chain with top }

/-- One step. -/
def step (chain : Chain) : ChainAction → Option Chain
  | .extend peer hello hasTun target =>
    if chain.top = .reading then
      some { chain with hops := chain.hops ++ [.start peer hello hasTun target] }
    else none
  | .hop index action =>
    if action.nearEnd then none
    else
      chain.hops[index]?.bind fun hop ↦ (hop.step chain.cancelled action).map fun next ↦
        { chain with hops := chain.hops.set index next }
  | .write index data =>
    if chain.aboveWrites index then chain.nearStep index (.nearWrites data) else none
  | .consume index count =>
    if chain.aboveReads index ∧ 0 < count then chain.nearStep index (.nearReads count) else none
  | .starve index =>
    chain.hops[index]?.bind fun hop ↦
      if hop.carrier.broken ∧ hop.carrier.toNear = [] then
        match chain.above index with
        | some upper => (upper.receive .receiveFailed).map fun next ↦
            { chain with hops := chain.hops.set (index + 1) next }
        | none => if chain.top = .reading then some { chain with top := .failed } else none
      else none
  | .shut index =>
    (chain.above index).bind fun upper ↦
      if upper.carrier.pump = .ended then chain.nearStep index .nearShuts else none
  | .drop index =>
    (chain.above index).bind fun upper ↦
      if upper.carrier.pump = .ended ∧ upper.carrier.downlink = .ended then
        chain.nearStep index .nearDrops
      else none
  | .closeTop =>
    if chain.top = .reading ∨ chain.top = .failed then some (chain.endTop .closed .shut) else none
  | .dropTop => if chain.top ≠ .dropped then some (chain.endTop .dropped .gone) else none
  | .cancel => some { chain with cancelled := true }

/-- Nothing can step any more without the engine, the network or a remote host. -/
def Quiescent (chain : Chain) : Prop :=
  ∀ action, action.Internal = true → chain.step action = none

/-! ### What a step does -/

/-- What a near end does without changing hands. -/
inductive NearStepped (hop : Hop) : Hop → Prop
  | writes (data : Bytes) (hnear : hop.carrier.near = .opened) :
    NearStepped hop
      { hop with carrier := { hop.carrier with toFar := hop.carrier.toFar ++ data } }
  | reads (count : ℕ) (hnear : hop.carrier.near ≠ .gone) :
    NearStepped hop
      { hop with carrier := { hop.carrier with toNear := hop.carrier.toNear.drop count } }

/-- One case for every way in which `step` is taken. -/
inductive Stepped (chain : Chain) : ChainAction → Chain → Prop
  | extend (peer : PeerConfig) (hello : Hello) (hasTun : Bool) (target : TargetAddr)
    (htop : chain.top = .reading) :
    Stepped chain (.extend peer hello hasTun target)
      { chain with hops := chain.hops ++ [.start peer hello hasTun target] }
  | hop (index : ℕ) (action : HopAction) (hop next : Hop) (hnear : action.nearEnd = false)
    (hhop : chain.hops[index]? = some hop) (hstep : hop.Stepped chain.cancelled action next) :
    Stepped chain (.hop index action) { chain with hops := chain.hops.set index next }
  | near (action : ChainAction) (index : ℕ) (hop next : Hop)
    (hhop : chain.hops[index]? = some hop) (hnear : NearStepped hop next) :
    Stepped chain action { chain with hops := chain.hops.set index next }
  | ended (action : ChainAction) (index : ℕ) (hop upper : Hop) (near : NearEnd)
    (hhop : chain.hops[index]? = some hop) (hupper : chain.hops[index + 1]? = some upper)
    (hnear : near ≠ .opened) (hgone : hop.carrier.near ≠ .gone)
    (hpump : upper.carrier.pump = .ended)
    (hdownlink : near = .gone → upper.carrier.downlink = .ended) :
    Stepped chain action
      { chain with hops := chain.hops.set index (hop.withNear near) }
  | starved (index : ℕ) (hop upper : Hop) (hhop : chain.hops[index]? = some hop)
    (hbroken : hop.carrier.broken = true) (hupper : chain.hops[index + 1]? = some upper)
    (hdownlink : upper.carrier.downlink = .receiving) :
    Stepped chain (.starve index)
      { chain with
        hops := chain.hops.set (index + 1)
          { upper with carrier := upper.carrier.endDownlink } }
  | failed (index : ℕ) (hop : Hop) (hhop : chain.hops[index]? = some hop)
    (hbroken : hop.carrier.broken = true) (hlast : chain.hops[index + 1]? = none)
    (htop : chain.top = .reading) : Stepped chain (.starve index) { chain with top := .failed }
  | closeTop (htop : chain.top = .reading ∨ chain.top = .failed) :
    Stepped chain .closeTop (chain.endTop .closed .shut)
  | dropTop (htop : chain.top ≠ .dropped) : Stepped chain .dropTop (chain.endTop .dropped .gone)
  | cancel : Stepped chain .cancel { chain with cancelled := true }

variable {chain next : Chain} {action : ChainAction}

/-- A step of a near end that the tunnel above takes. -/
theorem carrier_of_nearStep {index : ℕ} {nearAction : CarrierAction}
    (hstep : chain.nearStep index nearAction = some next) :
    ∃ hop carrier frame, chain.hops[index]? = some hop ∧
      hop.carrier.Stepped false nearAction carrier frame ∧
        next = { chain with hops := chain.hops.set index { hop with carrier } } := by
  obtain ⟨hop, hhop, hmap⟩ := Option.bind_eq_some_iff.mp hstep
  obtain ⟨⟨carrier, frame⟩, hcarrier, rfl⟩ := Option.map_eq_some_iff.mp hmap
  exact ⟨hop, carrier, frame, hhop, Carrier.stepped_of_step hcarrier, rfl⟩

theorem stepped_of_step (hstep : chain.step action = some next) : chain.Stepped action next := by
  cases action with
  | extend peer hello hasTun target =>
    simp only [step] at hstep
    split_ifs at hstep with htop
    obtain rfl := Option.some.inj hstep
    exact .extend peer hello hasTun target htop
  | hop index action =>
    simp only [step] at hstep
    split_ifs at hstep with hnear
    obtain ⟨hop, hhop, hmap⟩ := Option.bind_eq_some_iff.mp hstep
    obtain ⟨changed, hchanged, rfl⟩ := Option.map_eq_some_iff.mp hmap
    exact .hop index action hop changed (Bool.eq_false_iff.mpr hnear) hhop
      (Hop.stepped_of_step hchanged)
  | write index data =>
    simp only [step] at hstep
    split_ifs at hstep
    obtain ⟨hop, carrier, frame, hhop, hcarrier, rfl⟩ := carrier_of_nearStep hstep
    cases hcarrier with
    | nearWrites data hnear => exact .near _ index hop _ hhop (.writes data hnear)
  | consume index count =>
    simp only [step] at hstep
    split_ifs at hstep
    obtain ⟨hop, carrier, frame, hhop, hcarrier, rfl⟩ := carrier_of_nearStep hstep
    cases hcarrier with
    | nearReads count hnear => exact .near _ index hop _ hhop (.reads count hnear)
  | starve index =>
    obtain ⟨hop, hhop, htaken⟩ := Option.bind_eq_some_iff.mp hstep
    have hend : hop.carrier.broken = true ∧ hop.carrier.toNear = [] := by
      by_contra hnone
      rw [if_neg hnone] at htaken
      exact absurd htaken nofun
    rw [if_pos hend] at htaken
    split at htaken
    · rename_i upper hupper
      obtain ⟨changed, hchanged, rfl⟩ := Option.map_eq_some_iff.mp htaken
      obtain ⟨hdownlink, rfl⟩ := Hop.receive_failed hchanged
      exact .starved index hop upper hhop hend.1 hupper hdownlink
    · rename_i hlast
      split_ifs at htaken with htop
      obtain rfl := Option.some.inj htaken
      exact .failed index hop hhop hend.1 hlast htop
  | shut index =>
    obtain ⟨upper, hupper, htaken⟩ := Option.bind_eq_some_iff.mp hstep
    split_ifs at htaken with hpump
    obtain ⟨hop, carrier, frame, hhop, hcarrier, rfl⟩ := carrier_of_nearStep htaken
    cases hcarrier with
    | nearShuts hnear =>
      exact .ended _ index hop upper .shut hhop hupper nofun (by simp [hnear]) hpump nofun
  | drop index =>
    obtain ⟨upper, hupper, htaken⟩ := Option.bind_eq_some_iff.mp hstep
    split_ifs at htaken with hended
    obtain ⟨hop, carrier, frame, hhop, hcarrier, rfl⟩ := carrier_of_nearStep htaken
    cases hcarrier with
    | nearDrops hnear =>
      exact .ended _ index hop upper .gone hhop hupper nofun hnear hended.1 fun _ ↦ hended.2
  | closeTop =>
    simp only [step] at hstep
    split_ifs at hstep with htop
    obtain rfl := Option.some.inj hstep
    exact .closeTop htop
  | dropTop =>
    simp only [step] at hstep
    split_ifs at hstep with htop
    obtain rfl := Option.some.inj hstep
    exact .dropTop htop
  | cancel =>
    obtain rfl := Option.some.inj hstep
    exact .cancel

theorem mem_of_hop {index : ℕ} {hop : Hop} (hhop : chain.hops[index]? = some hop) :
    hop ∈ chain.hops :=
  List.mem_of_getElem? hhop

theorem Quiescent.hop (hquiet : chain.Quiescent) {index : ℕ} {hop : Hop}
    (hhop : chain.hops[index]? = some hop) : hop.Quiescent chain.cancelled := by
  intro hopAction hinternal
  have hnear : hopAction.nearEnd = false := by
    cases hopAction with
    | carrier carrierAction => cases carrierAction <;> first | rfl | exact absurd hinternal nofun
    | _ => rfl
  have hnone := hquiet (.hop index hopAction) hinternal
  simpa [step, hnear, hhop] using hnone

/-- A tunnel that is gone has dropped the near end below. -/
theorem Quiescent.gone (hquiet : chain.Quiescent) {index : ℕ} {hop upper : Hop}
    (hhop : chain.hops[index]? = some hop) (hupper : chain.hops[index + 1]? = some upper)
    (hpump : upper.carrier.pump = .ended) (hdownlink : upper.carrier.downlink = .ended) :
    hop.carrier.near = .gone := by
  by_contra hthere
  have hnone := hquiet (.drop index) rfl
  simp [step, above, hupper, hpump, hdownlink, nearStep, hhop, Carrier.step, hthere] at hnone

/-! ### Where a chain waits -/

/-- The tunnel above has nothing to read, nothing to shut and nothing to drop. -/
def idleEnd (chain : Chain) (index : ℕ) (hop : Hop) : Bool :=
  (!chain.aboveReads index ||
    ((hop.carrier.toNear = [] || hop.carrier.near = .gone) && !hop.carrier.broken)) &&
  (chain.above index).all fun upper ↦ upper.carrier.pump ≠ .ended ||
    (hop.carrier.near ≠ .opened &&
      (upper.carrier.downlink ≠ .ended || hop.carrier.near = .gone))

/-- Every task of a chain is over or waits for the engine, the network or a remote host. -/
def idle (chain : Chain) : Bool :=
  chain.hops.zipIdx.all fun found ↦
    found.1.idle chain.cancelled && chain.idleEnd found.2 found.1

theorem idle_hop (hidle : chain.idle = true) {index : ℕ} {hop : Hop}
    (hhop : chain.hops[index]? = some hop) :
    hop.idle chain.cancelled = true ∧ chain.idleEnd index hop = true := by
  have hboth := List.all_eq_true.mp hidle (hop, index)
    (List.mk_mem_zipIdx_iff_getElem?.mpr hhop)
  simpa using hboth

/-- An idle chain is quiescent. -/
theorem quiescent_of_idle (hidle : chain.idle = true) : chain.Quiescent := by
  intro action hinternal
  by_contra hsome
  obtain ⟨next, hstep⟩ := Option.ne_none_iff_exists'.mp hsome
  cases action with
  | hop index hopAction =>
    simp only [step] at hstep
    split_ifs at hstep
    obtain ⟨hop, hhop, hmap⟩ := Option.bind_eq_some_iff.mp hstep
    have hnone := Hop.quiescent_of_idle (idle_hop hidle hhop).1 hopAction hinternal
    rw [hnone] at hmap
    cases hmap
  | consume index count =>
    simp only [step] at hstep
    split_ifs at hstep with hreads
    obtain ⟨hop, hhop, hmap⟩ := Option.bind_eq_some_iff.mp hstep
    have hend := (idle_hop hidle hhop).2
    simp only [idleEnd, hreads.1, Bool.not_true, Bool.false_or, Bool.and_eq_true, Bool.or_eq_true,
      decide_eq_true_iff] at hend
    obtain hempty | hgone := hend.1.1
    · simp [Carrier.step, hempty, (Nat.pos_iff_ne_zero.mp hreads.2)] at hmap
    · simp [Carrier.step, hgone] at hmap
  | starve index =>
    obtain ⟨hop, hhop, htaken⟩ := Option.bind_eq_some_iff.mp hstep
    have hcondition : hop.carrier.broken = true ∧ hop.carrier.toNear = [] := by
      by_contra hnot
      rw [if_neg hnot] at htaken
      cases htaken
    rw [if_pos hcondition] at htaken
    have hend := (idle_hop hidle hhop).2
    have hreads : chain.aboveReads index = false := by
      simp only [idleEnd, hcondition.1, Bool.not_true, Bool.and_false, Bool.or_false,
        Bool.and_eq_true, Bool.not_eq_true'] at hend
      exact hend.1
    unfold aboveReads at hreads
    cases habove : chain.above index with
    | none =>
      rw [habove] at htaken hreads
      simp [of_decide_eq_false hreads] at htaken
    | some upper =>
      rw [habove] at htaken hreads
      simp [Hop.receive, Carrier.step, of_decide_eq_false hreads] at htaken
  | shut index =>
    obtain ⟨upper, hupper, htaken⟩ := Option.bind_eq_some_iff.mp hstep
    split_ifs at htaken with hpump
    obtain ⟨hop, hhop, hmap⟩ := Option.bind_eq_some_iff.mp htaken
    have hend := (idle_hop hidle hhop).2
    rw [idleEnd, hupper] at hend
    have hnear : hop.carrier.near ≠ .opened := by
      simp [hpump] at hend
      exact hend.2.1
    simp [Carrier.step, hnear] at hmap
  | drop index =>
    obtain ⟨upper, hupper, htaken⟩ := Option.bind_eq_some_iff.mp hstep
    split_ifs at htaken with hended
    obtain ⟨hop, hhop, hmap⟩ := Option.bind_eq_some_iff.mp htaken
    have hend := (idle_hop hidle hhop).2
    rw [idleEnd, hupper] at hend
    have hnear : hop.carrier.near = .gone := by
      simp [hended.1, hended.2] at hend
      exact hend.2.2
    simp [Carrier.step, hnear] at hmap
  | extend | write | closeTop | dropTop | cancel => cases hinternal

/-! ### A hop that is opened and lost -/

section Example

/-- The next hop, as the one before it is asked to dial it. -/
def nextTarget : TargetAddr := .ip ⟨.v4 0xc0000202#32, 8443⟩

/-- A carrier is opened, and the hop's session has dialed the next hop. -/
def openRun (index : ℕ) : List ChainAction :=
  [.extend lanPeer (lanHello .httpProxy) false nextTarget, .hop index (.carrier .take),
    .hop index (.carrier .sent), .hop index (.toServer []), .hop index (.remote 0 .dialed)]

/-- The next hop closes its connection, and the hop reports it to the client. -/
def reportRun (index : ℕ) : List ChainAction :=
  [.hop index (.remote 0 .remoteCloses), .hop index (.remote 0 .readEof),
    .hop index (.remote 0 .close), .hop index .sessionSend, .hop index .toClient]

/-- The uplink tells the hop that its end of the pipe was closed. -/
def tellRun (index : ℕ) : List ChainAction :=
  [.hop index (.carrier .readEof), .hop index (.carrier .close), .hop index (.carrier .take),
    .hop index (.carrier .sent), .hop index (.toServer []), .hop index (.remote 0 .finish)]

/-- The pump closes the tunnel, and the session ends. -/
def endRun (index : ℕ) : List ChainAction :=
  [.hop index (.carrier .take), .hop index (.carrier .closed), .hop index .serverEof,
    .hop index .shutdown]

end Example

end Chain

end EntroTunnel.Link
