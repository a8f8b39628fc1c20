import EntroTunnel.Link.HopRelay
import EntroTunnel.Link.TransportEnd

/-!
# Frames through any number of hops

`connect_chain` connects the first hop over the network, and every other hop over a stream that the
server before it relays. So a chain is a stack of tunnels: the tunnel to a hop has a client end at
the client of the chain, a server end at the hop, and the session that the hop runs; from the second
hop on the client end runs over a carrier, which is fed by the tunnel below, and the server end over
the socket that the session below has dialed.

A step is a step of one part, or one more hop. It is taken if afterwards no part has taken what the
part next to it has not given (`Linked`). Nothing else is said of the order of the steps.

The tunnel to every hop receives the frames in the order in which they were sent, as long as no hop
below it has dropped a chunk (`stack_sound`). The induction is on the run. A step of an end is the
only one that needs an argument: its tunnel is supplied by the tunnel below, whose frames are in
order since the step has left it as it was (`supplied_over`).
-/

set_option autoImplicit false
set_option relaxedAutoImplicit false

namespace EntroTunnel.Link

open EntroTunnel.Core EntroTunnel.Foundation EntroTunnel.Client EntroTunnel.Server

/-! ### The tunnel to one hop -/

/-- The tunnel to one hop. The first hop has no carrier. -/
structure Level (transport : StreamTransport) where
  carrier : Option Piped
  client : transport.client.State
  server : transport.server.State
  session : Session

/-- A step of a part of the tunnel. -/
inductive LevelAction (transport : StreamTransport)
  | carrier (action : PipedAction)
  | client (action : transport.client.Action)
  | server (action : transport.server.Action)
  | session (action : HopServerAction)

namespace Level

variable {transport : StreamTransport}

def start (transport : StreamTransport) (carrier : Option Piped) (setup : transport.Setup)
    (peer : PeerConfig) (hello : Hello) (hasTun : Bool) : Level transport where
  carrier := carrier
  client := transport.clientStart setup
  server := transport.serverStart setup
  session := .start peer hello hasTun

def step (level : Level transport) : LevelAction transport → Option (Level transport)
  | .carrier action =>
    (level.carrier.bind fun carrier ↦ carrier.step action).map fun next ↦
      { level with carrier := some next }
  | .client action =>
    (transport.client.step level.client action).map fun next ↦ { level with client := next }
  | .server action =>
    (transport.server.step level.server action).map fun next ↦ { level with server := next }
  | .session action =>
    (hopServerStep level.session action).map fun next ↦ { level with session := next }

/-- The session reads and writes what comes behind `Hello` and `Welcome`. -/
def Coupled (level : Level transport) : Prop :=
  level.session.received <+: (transport.server.received level.server).drop 1 ∧
    (transport.server.sent level.server).drop 1 <+: level.session.wire

instance (level : Level transport) : Decidable level.Coupled :=
  inferInstanceAs (Decidable (_ ∧ _))

/-- The carrier of a tunnel takes the frames of the tunnel below behind its `Welcome`, and the
server end is at the socket that the session below has dialed. -/
def Over (lower upper : Level transport) (carrier : Piped) : Prop :=
  ((transport.client.sent lower.client).drop 1 <+: offered carrier ∧
      carrier.received <+: (transport.client.received lower.client).drop 1) ∧
    (transport.client.taken upper.client <+: carrier.read ∧
      carrier.written <+: transport.client.written upper.client) ∧
    (transport.server.taken upper.server <+: toNext lower.session ∧
      fromNext lower.session <+: transport.server.written upper.server)

instance (lower upper : Level transport) (carrier : Piped) : Decidable (Over lower upper carrier) :=
  inferInstanceAs (Decidable (_ ∧ _))

/-- The tunnel above runs over the tunnel below. -/
def Carries (lower upper : Level transport) : Prop :=
  ∃ carrier ∈ upper.carrier, Over lower upper carrier

instance (lower upper : Level transport) : Decidable (Carries lower upper) :=
  inferInstanceAs (Decidable (∃ carrier ∈ upper.carrier, _))

variable {lower upper : Level transport} {carrier : Piped} {target : TargetAddr}

/-- A tunnel whose frames are in order supplies the tunnel above it, unless a chunk was dropped. -/
theorem supplied_over (hover : Over lower upper carrier) (hcoupled : lower.Coupled)
    (hup : Piped.Upward target carrier) (hdown : Piped.Downward carrier)
    (hrelaying : Relaying lower.session)
    (hinOrder : transport.InOrder lower.client lower.server) (hroom : NoDrop lower.session) :
    transport.Supplied upper.client upper.server := by
  obtain ⟨⟨hsent, hreceived⟩, ⟨htaken, hwritten⟩, hdialed, hanswered⟩ := hover
  obtain ⟨hread, hwrote⟩ := hcoupled
  obtain ⟨hserver, hclient⟩ := hinOrder
  have hoffered : lower.session.received <+: offered carrier :=
    hread.trans ((hserver.drop 1).trans hsent)
  have hwire : carrier.received <+: lower.session.wire :=
    hreceived.trans ((hclient.drop 1).trans hwrote)
  have hcarrier : OfCarrier lower.session.received :=
    (offered_of_upward hup).1.initial hoffered
  constructor
  · exact hdialed.trans ((relayed_up hup hrelaying hroom hoffered).trans hwritten)
  · exact htaken.trans ((relayed_down hdown hrelaying hcarrier hwire).trans hanswered)

/-- The parts of a tunnel keep their own invariants. -/
structure Kept (level : Level transport) : Prop where
  relaying : Relaying level.session
  carrier : ∀ carrier ∈ level.carrier,
    ∃ target, Piped.Upward target carrier ∧ Piped.Downward carrier

theorem Kept.step {level next : Level transport} {action : LevelAction transport}
    (hkept : level.Kept) (hstep : level.step action = some next) : next.Kept := by
  cases action with
  | carrier action =>
    obtain ⟨after, hafter, rfl⟩ := Option.map_eq_some_iff.mp hstep
    obtain ⟨before, hbefore, htaken⟩ := Option.bind_eq_some_iff.mp hafter
    obtain ⟨target, hup, hdown⟩ := hkept.carrier before hbefore
    refine ⟨hkept.relaying, fun other hother ↦ ?_⟩
    obtain rfl := Option.some.inj hother
    exact ⟨target, Piped.step_keeps hup hdown htaken⟩
  | client action =>
    obtain ⟨after, -, rfl⟩ := Option.map_eq_some_iff.mp hstep
    exact ⟨hkept.relaying, hkept.carrier⟩
  | server action =>
    obtain ⟨after, -, rfl⟩ := Option.map_eq_some_iff.mp hstep
    exact ⟨hkept.relaying, hkept.carrier⟩
  | session action =>
    obtain ⟨after, hafter, rfl⟩ := Option.map_eq_some_iff.mp hstep
    exact ⟨hkept.relaying.step hafter, hkept.carrier⟩

/-- A chunk that a hop has dropped stays dropped. -/
theorem noDrop_of_step {level next : Level transport} {action : LevelAction transport}
    (hstep : level.step action = some next) (hroom : NoDrop next.session) :
    NoDrop level.session := by
  cases action with
  | session action =>
    obtain ⟨after, hafter, rfl⟩ := Option.map_eq_some_iff.mp hstep
    exact Link.noDrop_of_step hafter hroom
  | _ =>
    obtain ⟨after, -, rfl⟩ := Option.map_eq_some_iff.mp hstep
    exact hroom

end Level

/-! ### The chain -/

section Stack

variable {transport : StreamTransport}

/-- The first tunnel runs over the network, and every other over the one below. -/
def Linked (levels : List (Level transport)) : Prop :=
  (∀ level ∈ levels.head?, transport.Supplied level.client level.server) ∧
    (∀ level ∈ levels, level.Coupled) ∧ levels.IsChain Level.Carries

instance (client : transport.client.State) (server : transport.server.State) :
    Decidable (transport.Supplied client server) :=
  inferInstanceAs (Decidable (_ ∧ _))

instance (levels : List (Level transport)) : Decidable (Linked levels) :=
  inferInstanceAs (Decidable (_ ∧ _ ∧ _))

/-- What happens in a chain: `open_carrier` and `connect_over` add a hop, or a part steps. -/
inductive StackAction (transport : StreamTransport)
  | extend (target : TargetAddr) (setup : transport.Setup) (peer : PeerConfig) (hello : Hello)
      (hasTun : Bool)
  | level (index : ℕ) (action : LevelAction transport)

/-- The chain after an action. -/
def stackNext (levels : List (Level transport)) :
    StackAction transport → Option (List (Level transport))
  | .extend target setup peer hello hasTun =>
    some (levels ++ [.start transport (some (.start target)) setup peer hello hasTun])
  | .level index action =>
    (levels[index]?.bind fun level ↦ level.step action).map fun next ↦ levels.set index next

/-- One step. -/
def stackStep (levels : List (Level transport)) (action : StackAction transport) :
    Option (List (Level transport)) :=
  (stackNext levels action).filter fun next ↦ Linked next

/-- `connect` to the first hop. -/
def stackStart (transport : StreamTransport) (setup : transport.Setup) (peer : PeerConfig)
    (hello : Hello) (hasTun : Bool) : List (Level transport) :=
  [.start transport none setup peer hello hasTun]

/-- No hop below has dropped a chunk. -/
def Clean (levels : List (Level transport)) (index : ℕ) : Prop :=
  ∀ level ∈ levels.take index, NoDrop level.session

instance (levels : List (Level transport)) (index : ℕ) : Decidable (Clean levels index) :=
  inferInstanceAs (Decidable (∀ level ∈ levels.take index, _))

variable {Invariant : transport.client.State → transport.server.State → Prop}
  {levels next : List (Level transport)}

/-- The invariant: the parts keep theirs, and the ends of a tunnel theirs unless a chunk was dropped
on the way. -/
structure StackKept (Invariant : transport.client.State → transport.server.State → Prop)
    (levels : List (Level transport)) : Prop where
  parts : ∀ level ∈ levels, level.Kept
  ends : ∀ (index : ℕ) (level : Level transport), levels[index]? = some level →
    Clean levels index → Invariant level.client level.server

theorem clean_iff {index : ℕ} :
    Clean levels index ↔ ∀ (place : ℕ) (level : Level transport), place < index →
      levels[place]? = some level → NoDrop level.session := by
  constructor
  · intro hclean place level hplace hlevel
    refine hclean level (List.mem_iff_getElem?.mpr ⟨place, ?_⟩)
    rw [List.getElem?_take_of_lt hplace]
    exact hlevel
  · intro hplaces level hmem
    obtain ⟨place, hlevel⟩ := List.mem_iff_getElem?.mp hmem
    by_cases hplace : place < index
    · rw [List.getElem?_take_of_lt hplace] at hlevel
      exact hplaces place level hplace hlevel
    · rw [List.getElem?_take, if_neg hplace] at hlevel
      cases hlevel

/-- A part of one tunnel steps. -/
theorem clean_of_set {index place : ℕ} {before after : Level transport}
    (hbefore : levels[index]? = some before)
    (hroom : NoDrop after.session → NoDrop before.session)
    (hclean : Clean (levels.set index after) place) : Clean levels place := by
  rw [clean_iff] at hclean ⊢
  intro other level hother hlevel
  by_cases hsame : index = other
  · subst hsame
    obtain rfl := Option.some.inj (hbefore.symm.trans hlevel)
    refine hroom (hclean index after hother ?_)
    exact List.getElem?_set_self (List.getElem?_eq_some_iff.mp hbefore).1
  · refine hclean other level hother ?_
    rw [List.getElem?_set_ne hsame]
    exact hlevel

/-- Every tunnel is supplied if the frames of the tunnel below are in order. -/
theorem supplied_of_linked (hlinked : Linked levels) (hparts : ∀ level ∈ levels, level.Kept)
    {index : ℕ} {level : Level transport} (hlevel : levels[index]? = some level)
    (hclean : Clean levels index)
    (hbelow : ∀ (below : ℕ) (lower : Level transport), below + 1 = index →
      levels[below]? = some lower → transport.InOrder lower.client lower.server) :
    transport.Supplied level.client level.server := by
  obtain ⟨hnetwork, hcoupled, hchain⟩ := hlinked
  cases index with
  | zero =>
    rw [← List.head?_eq_getElem?] at hlevel
    exact hnetwork level hlevel
  | succ below =>
    obtain ⟨hlength, rfl⟩ := List.getElem?_eq_some_iff.mp hlevel
    have hlower := List.getElem?_eq_getElem (Nat.lt_of_succ_lt hlength)
    have hmem := List.mem_of_getElem? hlower
    obtain ⟨carrier, hcarrier, hover⟩ := List.isChain_iff_getElem.mp hchain below hlength
    obtain ⟨target, hup, hdown⟩ := (hparts _ (List.mem_of_getElem? hlevel)).carrier _ hcarrier
    exact Level.supplied_over hover (hcoupled _ hmem) hup hdown (hparts _ hmem).relaying
      (hbelow below _ rfl hlower) (clean_iff.mp hclean below _ (Nat.lt_succ_self below) hlower)

theorem stackKept_start (hfaithful : transport.Kept Invariant) (setup : transport.Setup)
    (peer : PeerConfig) (hello : Hello) (hasTun : Bool) :
    StackKept Invariant (stackStart transport setup peer hello hasTun) := by
  constructor
  · intro level hlevel
    obtain rfl := List.mem_singleton.mp hlevel
    exact ⟨relaying_start peer hello hasTun,
      fun carrier hcarrier ↦ absurd hcarrier (Option.not_mem_none carrier)⟩
  · intro index level hlevel _
    obtain rfl := List.mem_singleton.mp (List.mem_of_getElem? hlevel)
    exact hfaithful.start setup

/-- One more hop. -/
theorem StackKept.extend (hfaithful : transport.Kept Invariant) (hkept : StackKept Invariant levels)
    (target : TargetAddr) (setup : transport.Setup) (peer : PeerConfig) (hello : Hello)
    (hasTun : Bool) :
    StackKept Invariant
      (levels ++ [.start transport (some (.start target)) setup peer hello hasTun]) := by
  constructor
  · intro level hlevel
    obtain hold | hnew := List.mem_append.mp hlevel
    · exact hkept.parts level hold
    · obtain rfl := List.mem_singleton.mp hnew
      refine ⟨relaying_start peer hello hasTun, fun carrier hcarrier ↦ ?_⟩
      obtain rfl := Option.some.inj hcarrier
      exact ⟨target, Piped.upward_start target, Piped.downward_start target⟩
  · intro index level hlevel hclean
    by_cases hold : index < levels.length
    · rw [List.getElem?_append_left hold] at hlevel
      rw [Clean, List.take_append_of_le_length hold.le] at hclean
      exact hkept.ends index level hlevel hclean
    · rw [List.getElem?_append_right (not_lt.mp hold)] at hlevel
      obtain rfl := List.mem_singleton.mp (List.mem_of_getElem? hlevel)
      exact hfaithful.start setup

/-- A part of one tunnel steps. -/
theorem StackKept.set (hfaithful : transport.Kept Invariant) (hkept : StackKept Invariant levels)
    {index : ℕ} {before after : Level transport} {action : LevelAction transport}
    (hbefore : levels[index]? = some before) (hstep : before.step action = some after)
    (hlinked : Linked (levels.set index after)) : StackKept Invariant (levels.set index after) := by
  have hlength := (List.getElem?_eq_some_iff.mp hbefore).1
  have hparts : ∀ level ∈ levels.set index after, level.Kept := by
    intro level hlevel
    obtain hold | rfl := List.mem_or_eq_of_mem_set hlevel
    · exact hkept.parts level hold
    · exact (hkept.parts before (List.mem_of_getElem? hbefore)).step hstep
  have hcleanBefore : ∀ place, Clean (levels.set index after) place → Clean levels place :=
    fun _ ↦ clean_of_set hbefore (Level.noDrop_of_step hstep)
  have hothers : ∀ (place : ℕ) (level : Level transport), index ≠ place →
      (levels.set index after)[place]? = some level → Clean (levels.set index after) place →
        Invariant level.client level.server := by
    intro place level hplace hlevel hclean
    rw [List.getElem?_set_ne hplace] at hlevel
    exact hkept.ends place level hlevel (hcleanBefore place hclean)
  refine ⟨hparts, fun place level hlevel hclean ↦ ?_⟩
  by_cases hplace : index = place
  swap
  · exact hothers place level hplace hlevel hclean
  subst hplace
  have hinvariant := hkept.ends index before hbefore (hcleanBefore index hclean)
  have hsupplied : transport.Supplied level.client level.server := by
    refine supplied_of_linked hlinked hparts hlevel hclean fun below lower hbelow hlower ↦ ?_
    have hcleanBelow : Clean (levels.set index after) below := by
      intro other hother
      refine hclean other ((List.take_prefix_take_left ?_).mem hother)
      omega
    exact hfaithful.inOrder _ _ (hothers below lower (by omega) hlower hcleanBelow)
  rw [List.getElem?_set_self hlength] at hlevel
  obtain rfl := Option.some.inj hlevel
  cases action with
  | client action =>
    obtain ⟨client, hclient, rfl⟩ := Option.map_eq_some_iff.mp hstep
    exact hfaithful.client _ _ _ _ hinvariant hclient hsupplied
  | server action =>
    obtain ⟨server, hserver, rfl⟩ := Option.map_eq_some_iff.mp hstep
    exact hfaithful.server _ _ _ _ hinvariant hserver hsupplied
  | _ =>
    obtain ⟨part, -, rfl⟩ := Option.map_eq_some_iff.mp hstep
    exact hinvariant

theorem StackKept.step (hfaithful : transport.Kept Invariant) (hkept : StackKept Invariant levels)
    {action : StackAction transport} (hstep : stackStep levels action = some next) :
    StackKept Invariant next := by
  obtain ⟨hnext, hlinked⟩ := Option.filter_eq_some_iff.mp hstep
  cases action with
  | extend target setup peer hello hasTun =>
    obtain rfl := Option.some.inj hnext
    exact hkept.extend hfaithful target setup peer hello hasTun
  | level index action =>
    obtain ⟨after, hafter, rfl⟩ := Option.map_eq_some_iff.mp hnext
    obtain ⟨before, hbefore, htaken⟩ := Option.bind_eq_some_iff.mp hafter
    exact hkept.set hfaithful hbefore htaken (of_decide_eq_true hlinked)

/-- Every run of a chain over a faithful transport. -/
theorem stack_sound (hfaithful : transport.Faithful) {setup : transport.Setup}
    {peer : PeerConfig} {hello : Hello} {hasTun : Bool} {actions : List (StackAction transport)}
    (hrun : run stackStep (stackStart transport setup peer hello hasTun) actions = some levels)
    {index : ℕ} {level : Level transport} (hlevel : levels[index]? = some level)
    (hclean : Clean levels index) :
    transport.InOrder level.client level.server ∧
      transport.Unfailed level.client level.server := by
  obtain ⟨Invariant, hinvariant⟩ := hfaithful
  have hkept : StackKept Invariant levels :=
    run_preserves (fun _ _ _ hkept hstep ↦ hkept.step hinvariant hstep) hrun
      (stackKept_start hinvariant setup peer hello hasTun)
  have hends := hkept.ends index level hlevel hclean
  exact ⟨hinvariant.inOrder _ _ hends, hinvariant.unfailed _ _ hends⟩

end Stack

/-! ### A chain of TCP hops -/

/-- A chain of any number of hops, each with a key of its own: the tunnel to a hop fails at neither
end, and each end has received the first of the frames that the other has sent, as long as no hop
before it has dropped a chunk at a full queue. -/
theorem chain_frames_inOrder {η σ τ : Type} (library : NoiseLibrary η σ τ)
    (htagged : library.toSnow.Tagged) (hcompletes : Completes library)
    (setup : NoiseSetup library) (peer : PeerConfig) (hello : Hello) (hasTun : Bool)
    (actions : List (StackAction (noiseTransport library)))
    (levels : List (Level (noiseTransport library)))
    (hrun : run stackStep (stackStart (noiseTransport library) setup peer hello hasTun) actions =
      some levels) (index : ℕ) (client server : NoiseEnd η σ τ) (session : Session)
    (carrier : Option Piped) (hlevel : levels[index]? = some ⟨carrier, client, server, session⟩)
    (hclean : Clean levels index) :
    (server.received <+: client.sent ∧ client.received <+: server.sent) ∧
      client.failed = false ∧ server.failed = false :=
  stack_sound (noise_faithful htagged hcompletes) hrun hlevel hclean

/-! ### Two hops -/

section Example

/-- Both ends of a tunnel whose key is one byte. -/
def keyedSetup (byte : UInt8) : NoiseSetup keyedNoise where
  psk := repeatedKey byte
  initiatorSeed := List.replicate 32 1
  responderSeed := List.replicate 32 2
  initiator := (repeatedKey byte, List.replicate 32 1)
  responder := (repeatedKey byte, List.replicate 32 2)
  builtInitiator := rfl
  builtResponder := rfl

/-- The handshake message of an end with this seed. -/
def keyedMessage (seed key : UInt8) : Bytes :=
  writeHs (List.replicate 32 seed ++ List.replicate 32 key)

/-- A frame as an end sends it behind `count` others. -/
def sealed (count : ℕ) (frame : Frame) : Bytes :=
  match FrameWriter.send (noiseFraming countingSnow) count frame with
  | .ok (bytes, _) => bytes
  | .error _ => []

/-- The end takes these bytes from its stream. -/
def taking (bytes : Bytes) : NoiseEndAction :=
  if hbytes : bytes ≠ [] then .take ⟨bytes, hbytes⟩ else .readHs

/-- A frame for the stream of the second tunnel. -/
def chunk (bytes : Bytes) (hcounted : Foundation.Counted bytes.length) :
    { frame : Frame // frame.Buildable } :=
  ⟨.streamData carrierId bytes, hcounted⟩

def clientRun (index : ℕ) (actions : List NoiseEndAction) :
    List (StackAction (noiseTransport keyedNoise)) :=
  actions.map fun action ↦ .level index (.client action)

def serverRun (index : ℕ) (actions : List NoiseEndAction) :
    List (StackAction (noiseTransport keyedNoise)) :=
  actions.map fun action ↦ .level index (.server action)

def carrierRun (actions : List CarrierAction) : List (StackAction (noiseTransport keyedNoise)) :=
  actions.map fun action ↦ .level 1 (.carrier (.carrier action))

def sessionRun (actions : List SessionAction) : List (StackAction (noiseTransport keyedNoise)) :=
  actions.map fun action ↦ .level 0 (.session (.session action))

/-- A frame goes up the first tunnel. -/
def upRun (count : ℕ) (frame : { frame : Frame // frame.Buildable }) :
    List (StackAction (noiseTransport keyedNoise)) :=
  clientRun 0 [.send frame] ++ serverRun 0 [taking (sealed count frame.val), .recv]

/-- A frame goes down the first tunnel. -/
def downRun (count : ℕ) (frame : { frame : Frame // frame.Buildable }) :
    List (StackAction (noiseTransport keyedNoise)) :=
  serverRun 0 [.send frame] ++ clientRun 0 [taking (sealed count frame.val), .recv]

/-- What was written to the second tunnel reaches its server. -/
def relayUpRun (count : ℕ) (bytes : Bytes) (hcounted : Foundation.Counted bytes.length) :
    List (StackAction (noiseTransport keyedNoise)) :=
  carrierRun [.nearWrites bytes, .read bytes.length, .queue, .take] ++
    upRun count (chunk bytes hcounted) ++ carrierRun [.sent] ++
    sessionRun [.receive (.streamData carrierId bytes) [], .remote 0 .take,
      .remote 0 (.write bytes.length), .remote 0 .written] ++ serverRun 1 [taking bytes]

/-- What the server of the second tunnel has written reaches its client. -/
def relayDownRun (count : ℕ) (bytes : Bytes) (hcounted : Foundation.Counted bytes.length) :
    List (StackAction (noiseTransport keyedNoise)) :=
  sessionRun [.remote 0 (.remoteSends bytes), .remote 0 (.read bytes.length), .remote 0 .forward,
      .send] ++ downRun count (chunk bytes hcounted) ++
    carrierRun [.receive (.streamData carrierId bytes), .write bytes.length, .written,
      .nearReads bytes.length] ++ clientRun 1 [taking bytes]

def nextHop : TargetAddr := .ip ⟨.v4 0xc0000202#32, 8443⟩

/-- Both handshakes, and a ping that goes to the second hop. -/
def twoHopRun : List (StackAction (noiseTransport keyedNoise)) :=
  clientRun 0 [.writeHs] ++ serverRun 0 [taking (keyedMessage 1 7), .readHs, .writeHs] ++
    clientRun 0 [taking (keyedMessage 2 7), .readHs] ++
    upRun 0 ⟨.hello (lanHello .httpProxy), (by decide : Foundation.Counted 6), nofun⟩ ++
    downRun 0 ⟨.pong, trivial⟩ ++
    [.extend nextHop (keyedSetup 8) lanPeer (lanHello .httpProxy) false] ++
    carrierRun [.take] ++ upRun 1 ⟨.streamOpen carrierId nextHop, trivial⟩ ++ carrierRun [.sent] ++
    sessionRun [.receive (.streamOpen carrierId nextHop) [], .remote 0 .dialed] ++
    clientRun 1 [.writeHs] ++ relayUpRun 2 (keyedMessage 1 8) (by decide) ++
    serverRun 1 [.readHs, .writeHs] ++ relayDownRun 1 (keyedMessage 2 8) (by decide) ++
    clientRun 1 [.readHs, .send ⟨.ping, trivial⟩] ++ relayUpRun 3 (sealed 0 .ping) (by decide) ++
    serverRun 1 [.recv]

/-- The second hop has received the ping. -/
theorem chain_frames_inOrder_twoHops :
    ∃ (levels : List (Level (noiseTransport keyedNoise)))
      (client server : NoiseEnd (Psk × Bytes) ℕ ℕ),
      run stackStep (stackStart (noiseTransport keyedNoise) (keyedSetup 7) lanPeer
          (lanHello .httpProxy) false) twoHopRun = some levels ∧
        (∃ carrier session, levels[1]? = some ⟨carrier, client, server, session⟩) ∧
        server.received = [.ping] ∧ server.received <+: client.sent ∧
        client.failed = false ∧ server.failed = false := by
  obtain ⟨levels, hrun, hlevels⟩ := Option.any_eq_true _ _ |>.mp
    (by decide +kernel : (run stackStep (stackStart (noiseTransport keyedNoise) (keyedSetup 7)
      lanPeer (lanHello .httpProxy) false) twoHopRun).any (fun levels ↦ levels[1]?.any fun level ↦
        decide (NoiseEnd.received level.server = [.ping] ∧ Clean levels 1)) = true)
  obtain ⟨⟨carrier, client, server, session⟩, hlevel, hdecided⟩ :=
    Option.any_eq_true _ _ |>.mp hlevels
  obtain ⟨hping, hclean⟩ := of_decide_eq_true hdecided
  obtain ⟨⟨hserver, -⟩, hwell⟩ := chain_frames_inOrder keyedNoise countingSnow_tagged
    keyedNoise_completes (keyedSetup 7) lanPeer (lanHello .httpProxy) false twoHopRun levels hrun 1
    client server session carrier hlevel hclean
  exact ⟨levels, client, server, hrun, ⟨carrier, session, hlevel⟩, hping, hserver, hwell⟩

end Example

end EntroTunnel.Link
