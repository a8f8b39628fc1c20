import EntroTunnel.Link.TunnelStack
import EntroTunnel.Link.ProxyLink

/-!
# A link is a tunnel

`ProxyLink` takes the frames between the client and the session for two queues. Here they go through
the tunnel to the last hop of a chain, down to the bytes of its transport, which are relayed by the
hops before. A `ProxiedStack` is the chain with the client of `run_http_mode` at its end: the writer
loop hands its frames to the client end of the last tunnel, and the reader loop takes what that end
has received. The client starts when the chain is complete, and the last tunnel stays up as in
`ProxyLink`.

Seen from the frames, every step is one of the link or none (`Refined.step`): what was handed over
and not read by the session is in flight (`linkOf`). So a proxied stack is always where the link can
come to, unless a hop has dropped a chunk (`stack_refines_link`).
-/

set_option autoImplicit false
set_option relaxedAutoImplicit false

namespace EntroTunnel.Link

open EntroTunnel.Core EntroTunnel.Foundation EntroTunnel.Client EntroTunnel.Server

/-! ### What is in flight does not matter to a step -/

section Wires

variable {client next : ProxyClient} {session sessionNext : Session}

/-- An effect of a connection is the same whatever is in flight. -/
theorem apply_anyWire {id : StreamId} {index : ℕ} {effect : LocalEffect}
    (happly : client.apply id index effect = some next) :
    next.wire = client.wire ∧ ∀ wire,
      ({ client with wire } : ProxyClient).apply id index effect = some { next with wire } := by
  cases effect with
  | emit frame =>
    obtain ⟨out, hsend, rfl⟩ := Option.map_eq_some_iff.mp happly
    refine ⟨rfl, fun wire ↦ ?_⟩
    exact Option.map_eq_some_iff.mpr ⟨out, hsend, rfl⟩
  | _ =>
    obtain rfl := Option.some.inj happly
    exact ⟨rfl, fun wire ↦ rfl⟩

/-- A step of the client is the same whatever is in flight. -/
theorem client_anyWire {action : ClientAction} (hstep : client.step action = some next) :
    ∃ sent, next.wire = client.wire ++ sent ∧ ∀ wire,
      ({ client with wire } : ProxyClient).step action =
        some { next with wire := wire ++ sent } := by
  cases action with
  | accept =>
    obtain rfl := Option.some.inj hstep
    exact ⟨[], (List.append_nil _).symm, fun wire ↦ by rw [List.append_nil]; rfl⟩
  | conn index action =>
    simp only [ProxyClient.step] at hstep
    split at hstep
    · rename_i conn hconn
      split_ifs at hstep with hheld
      split at hstep
      · rename_i connNext effect hconnStep
        obtain ⟨hwire, hany⟩ := apply_anyWire hstep
        refine ⟨[], by rw [hwire, List.append_nil]; rfl, fun wire ↦ ?_⟩
        simp only [ProxyClient.step, hconn, hconnStep, if_neg hheld, List.append_nil]
        exact hany wire
      · cases hstep
    · cases hstep
  | send =>
    obtain ⟨frame, rest, hrecv, rfl⟩ := ProxyClient.step_send hstep
    refine ⟨[frame], rfl, fun wire ↦ ?_⟩
    simp only [ProxyClient.step, hrecv]
  | keepalive =>
    obtain rfl := Option.some.inj hstep
    exact ⟨[.ping], rfl, fun wire ↦ rfl⟩
  | getPeers | lanPacket bytes =>
    obtain ⟨out, hsend, rfl⟩ := Option.map_eq_some_iff.mp hstep
    refine ⟨[], (List.append_nil _).symm, fun wire ↦ ?_⟩
    rw [List.append_nil]
    exact Option.map_eq_some_iff.mpr ⟨out, hsend, rfl⟩
  | receive frame =>
    obtain ⟨hreader, rfl⟩ := ProxyClient.step_clientReceive hstep
    refine ⟨[], ?_, fun wire ↦ ?_⟩
    · cases frame <;> simp only [ProxyClient.demux, List.append_nil] <;> split <;> rfl
    · simp only [ProxyClient.step, if_pos hreader, List.append_nil]
      cases frame <;> simp only [ProxyClient.demux] <;> split <;> rfl
  | hand =>
    obtain ⟨index, msg, conn, hreader, hconn, ⟨inbox, hsend, rfl⟩ | ⟨hgone, rfl⟩⟩ :=
      ProxyClient.step_hand hstep
    · have hlistens := (Channel.trySend_eq_some hsend).1
      refine ⟨[], (List.append_nil _).symm, fun wire ↦ ?_⟩
      simp only [ProxyClient.step, hreader, hconn, if_pos hlistens, hsend, List.append_nil]
      rfl
    · refine ⟨[], (List.append_nil _).symm, fun wire ↦ ?_⟩
      simp [ProxyClient.step, hreader, hconn, hgone, List.append_nil]
  | pong =>
    obtain ⟨hreader, out, hsend, rfl⟩ := ProxyClient.step_pong hstep
    refine ⟨[], (List.append_nil _).symm, fun wire ↦ ?_⟩
    simp only [ProxyClient.step, if_pos hreader, hsend, List.append_nil]
    rfl

/-- A frame is handled the same whatever is in flight. -/
theorem handle_anyWire (session : Session) (peers : List PeerInfo) (frame : Frame)
    (wire : List Frame) : ({ session with wire } : Session).handle peers frame =
      { session.handle peers frame with wire } := by
  cases frame with
  | packet bytes =>
    have hadmits : ({ session with wire } : Session).admitsPackets = session.admitsPackets := rfl
    simp only [Session.handle, hadmits]
    split_ifs
    · rfl
    · rfl
  | streamOpen id target =>
    simp only [Session.handle]
    split_ifs
    · rfl
    · rfl
  | _ => rfl

/-- A step of a session on a tunnel that stays up is the same whatever is in flight. -/
theorem session_anyWire {action : SessionAction} (hstep : session.step action = some sessionNext)
    (hup : action = .send ∨ (∃ index remote, action = .remote index remote) ∨
      ∃ frame peers, action = .receive frame peers) :
    ∃ sent, sessionNext.wire = session.wire ++ sent ∧ ∀ wire,
      ({ session with wire } : Session).step action =
        some { sessionNext with wire := wire ++ sent } := by
  obtain rfl | ⟨index, remote, rfl⟩ | ⟨frame, peers, rfl⟩ := hup
  · obtain ⟨frame, rest, hrecv, rfl⟩ := Session.step_send hstep
    refine ⟨[frame], rfl, fun wire ↦ ?_⟩
    simp only [Session.step, hrecv]
  · obtain ⟨stream, streamNext, frame, outbox, hstream, hremote, hput, rfl⟩ :=
      Session.step_remote hstep
    refine ⟨[], (List.append_nil _).symm, fun wire ↦ ?_⟩
    simp only [Session.step, hstream, hremote, hput, List.append_nil]
    rfl
  · obtain ⟨hreading, rfl⟩ := Session.step_receive hstep
    have hwire := (Session.handle_frame
      { session with received := session.received ++ [frame] } peers frame).2.2.2.2.2
    refine ⟨[], by rw [hwire, List.append_nil], fun wire ↦ ?_⟩
    simp only [Session.step, if_pos hreading, List.append_nil]
    rw [← handle_anyWire]

end Wires

/-! ### The client over a chain -/

/-- A chain with the client over its last tunnel. `read` is what the reader loop has taken. -/
structure ProxiedStack (transport : StreamTransport) where
  levels : List (Level transport)
  running : Bool
  client : ProxyClient
  read : List Frame

/-- A step of the chain, the start of the client, or a step of it. -/
inductive ProxiedAction (transport : StreamTransport)
  | stack (action : StackAction transport)
  | runHttpMode
  | client (action : ClientAction)

/-- The session finds its tunnel down. -/
def endsTunnel {transport : StreamTransport} : LevelAction transport → Bool
  | .session (.session .sendFailed) => true
  | .session (.session .disconnect) => true
  | .session (.session .shutdown) => true
  | _ => false

/-- The frame that the reader loop takes. -/
def readBy : ClientAction → List Frame
  | .receive frame => [frame]
  | _ => []

/-- The link as the client and the session see it. -/
def linkOf (client : ProxyClient) (read : List Frame) (session : Session) : ProxyLink where
  client := { client with wire := client.wire.drop session.received.length }
  session := { session with wire := session.wire.drop read.length }

namespace ProxiedStack

variable {transport : StreamTransport}

/-- `connect_chain`, before `run_http_mode`. -/
def start (transport : StreamTransport) (setup : transport.Setup) (peer : PeerConfig)
    (hello : Hello) (hasTun : Bool) : ProxiedStack transport where
  levels := stackStart transport setup peer hello hasTun
  running := false
  client := .start
  read := []

/-- The client starts when the chain is complete, and the last tunnel stays up. -/
def permits (state : ProxiedStack transport) : StackAction transport → Bool
  | .extend _ _ _ _ _ => !state.running
  | .level index action => index + 1 ≠ state.levels.length || !endsTunnel action

/-- The end of the last tunnel sends behind its `Hello` what the writer loop hands over, and the
reader loop takes what that end has received behind its `Welcome`. -/
def Attached (state : ProxiedStack transport) : Prop :=
  ∀ top ∈ state.levels.getLast?,
    (transport.client.sent top.client).drop 1 <+: state.client.wire ∧
      state.read <+: (transport.client.received top.client).drop 1

instance (state : ProxiedStack transport) : Decidable state.Attached :=
  inferInstanceAs (Decidable (∀ top ∈ state.levels.getLast?, _))

/-- The state after an action. -/
def next (state : ProxiedStack transport) :
    ProxiedAction transport → Option (ProxiedStack transport)
  | .stack action =>
    if state.permits action then
      (stackNext state.levels action).map fun levels ↦ { state with levels }
    else none
  | .runHttpMode => some { state with running := true }
  | .client action =>
    if state.running then
      (state.client.step action).map fun client ↦
        { state with client, read := state.read ++ readBy action }
    else none

/-- One step. -/
def step (state : ProxiedStack transport) (action : ProxiedAction transport) :
    Option (ProxiedStack transport) :=
  (state.next action).filter fun next ↦ Linked next.levels ∧ next.Attached

end ProxiedStack

/-! ### Seen from the frames -/

section Explained

variable {client clientNext : ProxyClient} {read readNext : List Frame}
  {session sessionNext : Session}

/-- The link comes to what the client and the session see of it. -/
def Explained (client : ProxyClient) (read : List Frame) (session : Session) : Prop :=
  ∃ actions, run ProxyLink.step (.start session.peer session.hello session.hasTun) actions =
    some (linkOf client read session)

theorem explained_start (peer : PeerConfig) (hello : Hello) (hasTun : Bool) :
    Explained .start [] (.start peer hello hasTun) :=
  ⟨[], rfl⟩

/-- One more step of the link. -/
theorem Explained.concat (hexplained : Explained client read session) (action : LinkAction)
    (hstep : (linkOf client read session).step action =
      some (linkOf clientNext readNext sessionNext))
    (hfixed : sessionNext.peer = session.peer ∧ sessionNext.hello = session.hello ∧
      sessionNext.hasTun = session.hasTun) : Explained clientNext readNext sessionNext := by
  obtain ⟨actions, hrun⟩ := hexplained
  obtain ⟨hpeer, hhello, hhasTun⟩ := hfixed
  refine ⟨actions ++ [action], ?_⟩
  rw [hpeer, hhello, hhasTun]
  exact run_concat_eq_some.mpr ⟨_, hrun, hstep⟩

theorem step_of_client {link : ProxyLink} {action : ClientAction}
    (hreceive : ∀ frame, action ≠ .receive frame)
    (hstep : link.client.step action = some clientNext) :
    link.step (.client action) = some { link with client := clientNext } := by
  cases action with
  | receive frame => exact absurd rfl (hreceive frame)
  | _ => simp only [ProxyLink.step, hstep, Option.map_some]

/-- A step of the client is one of the link. -/
theorem Explained.byClient (hexplained : Explained client read session)
    (hreceived : session.received <+: client.wire) {action : ClientAction}
    (hread : read ++ readBy action <+: session.wire)
    (hstep : client.step action = some clientNext) :
    Explained clientNext (read ++ readBy action) session := by
  obtain ⟨sent, hwire, hany⟩ := client_anyWire hstep
  have hflight : clientNext.wire.drop session.received.length =
      client.wire.drop session.received.length ++ sent := by
    rw [hwire, List.drop_append_of_le_length hreceived.length_le]
  have htaken := hany (client.wire.drop session.received.length)
  rw [← hflight] at htaken
  by_cases hreceive : ∃ frame, action = .receive frame
  · obtain ⟨frame, rfl⟩ := hreceive
    obtain ⟨more, hmore⟩ := hread
    have hhead : session.wire.drop read.length = frame :: more := by
      rw [← hmore, readBy, List.append_assoc, List.drop_left]
      rfl
    have hrest : session.wire.drop (read ++ [frame]).length = more := by
      rw [← hmore]
      exact List.drop_left
    refine hexplained.concat .toClient ?_ ⟨rfl, rfl, rfl⟩
    simp only [ProxyLink.step, linkOf, hhead, htaken, Option.map_some, readBy, hrest]
  · have hother : ∀ frame, action ≠ .receive frame := not_exists.mp hreceive
    have hnone : readBy action = [] := by
      cases action with
      | receive frame => exact absurd rfl (hother frame)
      | _ => rfl
    rw [hnone, List.append_nil]
    refine hexplained.concat (.client action) ?_ ⟨rfl, rfl, rfl⟩
    exact step_of_client hother htaken

/-- A step of the session is one of the link, as long as the tunnel stays up. -/
theorem Explained.bySession (hexplained : Explained client read session)
    (hread : read <+: session.wire) (hreceived : sessionNext.received <+: client.wire)
    {action : HopServerAction} {transport : StreamTransport}
    (hup : endsTunnel (.session action : LevelAction transport) = false)
    (hstep : hopServerStep session action = some sessionNext) :
    Explained client read sessionNext := by
  cases action with
  | deliver packet =>
    obtain rfl := Option.some.inj hstep
    exact hexplained.concat (.deliver packet) rfl ⟨rfl, rfl, rfl⟩
  | session action =>
    have hflight : ∀ {sent : List Frame}, sessionNext.wire = session.wire ++ sent →
        sessionNext.wire.drop read.length = session.wire.drop read.length ++ sent := by
      intro sent hwire
      rw [hwire, List.drop_append_of_le_length hread.length_le]
    cases action with
    | send =>
      have hsession : session.step .send = some sessionNext := hstep
      obtain ⟨sent, hwire, hany⟩ := session_anyWire hsession (.inl rfl)
      have htaken := hany (session.wire.drop read.length)
      rw [← hflight hwire] at htaken
      obtain ⟨_, _, -, rfl⟩ := Session.step_send hsession
      refine hexplained.concat .sessionSend ?_ (Session.step_fixed hsession)
      exact Option.map_eq_some_iff.mpr ⟨_, htaken, rfl⟩
    | remote index remote =>
      have hsession : session.step (.remote index remote) = some sessionNext := hstep
      obtain ⟨sent, hwire, hany⟩ := session_anyWire hsession (.inr (.inl ⟨index, remote, rfl⟩))
      have htaken := hany (session.wire.drop read.length)
      rw [← hflight hwire] at htaken
      obtain ⟨_, _, _, _, -, -, -, rfl⟩ := Session.step_remote hsession
      refine hexplained.concat (.remote index remote) ?_ (Session.step_fixed hsession)
      exact Option.map_eq_some_iff.mpr ⟨_, htaken, rfl⟩
    | receive frame peers =>
      have hsession : session.step (.receive frame peers) = some sessionNext := hstep
      obtain ⟨sent, hwire, hany⟩ := session_anyWire hsession (.inr (.inr ⟨frame, peers, rfl⟩))
      have htaken := hany (session.wire.drop read.length)
      rw [← hflight hwire] at htaken
      have hgrown : sessionNext.received = session.received ++ [frame] := by
        obtain ⟨-, rfl⟩ := Session.step_receive hsession
        exact (Session.handle_frame _ peers frame).2.2.2.1
      rw [hgrown] at hreceived
      obtain ⟨more, hmore⟩ := hreceived
      have hhead : client.wire.drop session.received.length = frame :: more := by
        rw [← hmore, List.append_assoc, List.drop_left]
        rfl
      have hrest : client.wire.drop sessionNext.received.length = more := by
        rw [← hmore, hgrown, List.drop_left]
      refine hexplained.concat (.toServer peers) ?_ (Session.step_fixed hsession)
      simp only [ProxyLink.step, linkOf, hhead, htaken, Option.map_some, hrest]
    | delivered => cases hstep
    | sendFailed | disconnect | shutdown => cases hup

end Explained

/-! ### Every run -/

section Runs

variable {transport : StreamTransport}
  {Invariant : transport.client.State → transport.server.State → Prop}
  {state next : ProxiedStack transport}

/-- What the session has read was handed over, and what the reader loop has taken the session has
written. -/
def Passed (state : ProxiedStack transport) (top : Level transport) : Prop :=
  top.session.received <+: state.client.wire ∧ state.read <+: top.session.wire

/-- The invariant: the chain keeps its own, and as long as no hop before the last has dropped a
chunk, the link comes to what is seen of it. -/
structure Refined (Invariant : transport.client.State → transport.server.State → Prop)
    (state : ProxiedStack transport) : Prop where
  kept : StackKept Invariant state.levels
  waiting : state.running = false → state.client = .start ∧ state.read = []
  passed : ∀ top, state.levels.getLast? = some top →
    Clean state.levels (state.levels.length - 1) → Passed state top
  explained : ∀ top, state.levels.getLast? = some top →
    Clean state.levels (state.levels.length - 1) →
      Explained state.client state.read top.session

theorem getLast?_set {levels : List (Level transport)} {index : ℕ} (after : Level transport)
    (hindex : index < levels.length) :
    (levels.set index after).getLast? =
      if index + 1 = levels.length then some after else levels.getLast? := by
  rw [List.getLast?_eq_getElem?, List.getLast?_eq_getElem?, List.length_set]
  by_cases hlast : index + 1 = levels.length
  · have hplace : levels.length - 1 = index := by omega
    rw [if_pos hlast, hplace, List.getElem?_set_self hindex]
  · have hplace : index ≠ levels.length - 1 := by omega
    rw [if_neg hlast, List.getElem?_set_ne hplace]

/-- The last tunnel passes frames on in order. -/
theorem passed_of_linked (hfaithful : transport.Kept Invariant)
    (hkept : StackKept Invariant state.levels) (hlinked : Linked state.levels)
    (hattached : state.Attached) {top : Level transport} (htop : state.levels.getLast? = some top)
    (hclean : Clean state.levels (state.levels.length - 1)) : Passed state top := by
  have hplace : state.levels[state.levels.length - 1]? = some top := by
    rw [← List.getLast?_eq_getElem?]
    exact htop
  obtain ⟨hserver, hclient⟩ := hfaithful.inOrder _ _ (hkept.ends _ _ hplace hclean)
  obtain ⟨hread, hwrote⟩ := hlinked.2.1 top (List.mem_of_getElem? hplace)
  obtain ⟨hsent, hreceived⟩ := hattached top htop
  constructor
  · exact hread.trans ((hserver.drop 1).trans hsent)
  · exact hreceived.trans ((hclient.drop 1).trans hwrote)

/-- A part of one tunnel steps. -/
theorem Refined.set (hrefined : Refined Invariant state) {index : ℕ}
    {before after : Level transport} {action : LevelAction transport}
    (hbefore : state.levels[index]? = some before) (hstep : before.step action = some after)
    (hpermits : state.permits (.level index action) = true) {top : Level transport}
    (htop : (state.levels.set index after).getLast? = some top)
    (hclean : Clean (state.levels.set index after) ((state.levels.set index after).length - 1))
    (hreceived : top.session.received <+: state.client.wire) :
    Explained state.client state.read top.session := by
  have hindex := (List.getElem?_eq_some_iff.mp hbefore).1
  have hcleanBefore : Clean state.levels (state.levels.length - 1) := by
    rw [List.length_set] at hclean
    exact clean_of_set hbefore (Level.noDrop_of_step hstep) hclean
  rw [getLast?_set after hindex] at htop
  by_cases hlast : index + 1 = state.levels.length
  swap
  · rw [if_neg hlast] at htop
    exact hrefined.explained top htop hcleanBefore
  rw [if_pos hlast] at htop
  obtain rfl := Option.some.inj htop
  have hbeforeTop : state.levels.getLast? = some before := by
    rw [List.getLast?_eq_getElem?, ← hlast, Nat.add_sub_cancel]
    exact hbefore
  have hexplained := hrefined.explained before hbeforeTop hcleanBefore
  cases action with
  | session action =>
    obtain ⟨session, hsession, rfl⟩ := Option.map_eq_some_iff.mp hstep
    have hup : endsTunnel (.session action : LevelAction transport) = false := by
      simpa [ProxiedStack.permits, hlast] using hpermits
    exact hexplained.bySession (hrefined.passed before hbeforeTop hcleanBefore).2 hreceived hup
      hsession
  | _ =>
    obtain ⟨part, -, rfl⟩ := Option.map_eq_some_iff.mp hstep
    exact hexplained

/-- What a step changes: the chain alone, or the client once it runs. -/
theorem next_cases {action : ProxiedAction transport} (hnext : state.next action = some next) :
    (∃ stackAction levels, action = .stack stackAction ∧ state.permits stackAction = true ∧
        stackNext state.levels stackAction = some levels ∧ next = { state with levels }) ∨
      (action = .runHttpMode ∧ next = { state with running := true }) ∨
      ∃ clientAction client, action = .client clientAction ∧ state.running = true ∧
        state.client.step clientAction = some client ∧
          next = { state with client, read := state.read ++ readBy clientAction } := by
  cases action with
  | stack action =>
    simp only [ProxiedStack.next] at hnext
    split_ifs at hnext with hpermits
    obtain ⟨levels, hlevels, rfl⟩ := Option.map_eq_some_iff.mp hnext
    exact .inl ⟨action, levels, rfl, hpermits, hlevels, rfl⟩
  | runHttpMode => exact .inr (.inl ⟨rfl, (Option.some.inj hnext).symm⟩)
  | client action =>
    simp only [ProxiedStack.next] at hnext
    split_ifs at hnext with hrunning
    obtain ⟨client, hclient, rfl⟩ := Option.map_eq_some_iff.mp hnext
    exact .inr (.inr ⟨action, client, rfl, hrunning, hclient, rfl⟩)

/-- The chain keeps its invariant, and the client waits for it. -/
theorem Refined.kept_next (hfaithful : transport.Kept Invariant)
    (hrefined : Refined Invariant state) {action : ProxiedAction transport}
    (hnext : state.next action = some next) (hlinked : Linked next.levels) :
    StackKept Invariant next.levels ∧
      (next.running = false → next.client = .start ∧ next.read = []) := by
  obtain ⟨stackAction, levels, -, -, hlevels, rfl⟩ | ⟨-, rfl⟩ |
    ⟨clientAction, client, -, hrunning, -, rfl⟩ := next_cases hnext
  · have htaken : stackStep state.levels stackAction = some levels :=
      Option.filter_eq_some_iff.mpr ⟨hlevels, decide_eq_true hlinked⟩
    exact ⟨hrefined.kept.step hfaithful htaken, hrefined.waiting⟩
  · exact ⟨hrefined.kept, fun h ↦ absurd h (by simp)⟩
  · refine ⟨hrefined.kept, fun h ↦ ?_⟩
    rw [hrunning] at h
    cases h

/-- Every step is one of the link or none. -/
theorem Refined.step (hfaithful : transport.Kept Invariant) (hrefined : Refined Invariant state)
    {action : ProxiedAction transport} (hstep : state.step action = some next) :
    Refined Invariant next := by
  obtain ⟨hnext, hchecked⟩ := Option.filter_eq_some_iff.mp hstep
  obtain ⟨hlinked, hattached⟩ := of_decide_eq_true hchecked
  obtain ⟨hkept, hwaiting⟩ := hrefined.kept_next hfaithful hnext hlinked
  have hpassed : ∀ top, next.levels.getLast? = some top →
      Clean next.levels (next.levels.length - 1) → Passed next top :=
    fun _ htop hclean ↦ passed_of_linked hfaithful hkept hlinked hattached htop hclean
  refine ⟨hkept, hwaiting, hpassed, fun top htop hclean ↦ ?_⟩
  have htopPassed := hpassed top htop hclean
  obtain ⟨stackAction, levels, -, hpermits, hlevels, rfl⟩ | ⟨-, rfl⟩ |
    ⟨clientAction, client, -, -, hclient, rfl⟩ := next_cases hnext
  · cases stackAction with
    | extend target setup peer hello hasTun =>
      obtain rfl := Option.some.inj hlevels
      obtain ⟨hclient, hread⟩ := hrefined.waiting (by simpa [ProxiedStack.permits] using hpermits)
      rw [List.getLast?_concat] at htop
      obtain rfl := Option.some.inj htop
      show Explained state.client state.read _
      rw [hclient, hread]
      exact explained_start peer hello hasTun
    | level index action =>
      obtain ⟨after, hafter, rfl⟩ := Option.map_eq_some_iff.mp hlevels
      obtain ⟨before, hbefore, htaken⟩ := Option.bind_eq_some_iff.mp hafter
      exact hrefined.set hbefore htaken hpermits htop hclean htopPassed.1
  · exact hrefined.explained top htop hclean
  · exact (hrefined.explained top htop hclean).byClient (hrefined.passed top htop hclean).1
      htopPassed.2 hclient

theorem refined_start (hfaithful : transport.Kept Invariant) (setup : transport.Setup)
    (peer : PeerConfig) (hello : Hello) (hasTun : Bool) :
    Refined Invariant (.start transport setup peer hello hasTun) := by
  constructor
  · exact stackKept_start hfaithful setup peer hello hasTun
  · exact fun _ ↦ ⟨rfl, rfl⟩
  · intro top htop _
    obtain rfl := Option.some.inj htop
    exact ⟨List.nil_prefix, List.nil_prefix⟩
  · intro top htop _
    obtain rfl := Option.some.inj htop
    exact explained_start peer hello hasTun

/-- Over a chain of any number of TCP hops, with handshakes, relayed streams and messages cut
anywhere, the client and the session of the last hop come only where the link comes, as long as no
hop before the last has dropped a chunk at a full queue. -/
theorem stack_refines_link {η σ τ : Type} (library : NoiseLibrary η σ τ)
    (htagged : library.toSnow.Tagged) (hcompletes : Completes library)
    (setup : NoiseSetup library) (peer : PeerConfig) (hello : Hello) (hasTun : Bool)
    (actions : List (ProxiedAction (noiseTransport library)))
    (state : ProxiedStack (noiseTransport library))
    (hrun : run ProxiedStack.step (.start (noiseTransport library) setup peer hello hasTun)
      actions = some state)
    (top : Level (noiseTransport library)) (htop : state.levels.getLast? = some top)
    (hclean : Clean state.levels (state.levels.length - 1)) :
    ∃ linkActions, run ProxyLink.step
        (.start top.session.peer top.session.hello top.session.hasTun) linkActions =
      some (linkOf state.client state.read top.session) := by
  obtain ⟨Invariant, hinvariant⟩ := noise_faithful htagged hcompletes
  have hrefined : Refined Invariant state :=
    run_preserves (fun _ _ _ hrefined hstep ↦ hrefined.step hinvariant hstep) hrun
      (refined_start hinvariant setup peer hello hasTun)
  exact hrefined.explained top htop hclean

end Runs

/-! ### A ping to the second hop -/

section Example

/-- A ping goes to the session of the second hop, and its answer comes back. -/
def answeredRun : List (StackAction (noiseTransport keyedNoise)) :=
  clientRun 1 [.send ⟨.ping, trivial⟩] ++ relayUpRun 4 (sealed 1 .ping) (by decide) ++
    serverRun 1 [.recv, .send ⟨.pong, trivial⟩] ++ relayDownRun 2 (sealed 0 .pong) (by decide) ++
    [.level 1 (.session (.session (.receive .ping []))), .level 1 (.session (.session .send))] ++
    serverRun 1 [.send ⟨.pong, trivial⟩] ++ relayDownRun 3 (sealed 1 .pong) (by decide) ++
    clientRun 1 [.recv, .recv]

/-- The keepalive of a client over two hops. -/
def pingRun : List (ProxiedAction (noiseTransport keyedNoise)) :=
  twoHopRun.map .stack ++ [.runHttpMode, .client .keepalive] ++ answeredRun.map .stack ++
    [.client (.receive .pong)]

/-- The link comes to where the answer was read. -/
theorem stack_refines_link_ping :
    ∃ (state : ProxiedStack (noiseTransport keyedNoise)) (top : Level (noiseTransport keyedNoise))
      (linkActions : List LinkAction),
      run ProxiedStack.step (.start (noiseTransport keyedNoise) (keyedSetup 7) lanPeer
          (lanHello .httpProxy) false) pingRun = some state ∧
        state.levels.getLast? = some top ∧ state.levels.length = 2 ∧ state.read = [.pong] ∧
        run ProxyLink.step (.start top.session.peer top.session.hello top.session.hasTun)
          linkActions = some (linkOf state.client state.read top.session) := by
  obtain ⟨state, hrun, hstate⟩ := Option.any_eq_true _ _ |>.mp
    (by decide +kernel : (run ProxiedStack.step (.start (noiseTransport keyedNoise) (keyedSetup 7)
      lanPeer (lanHello .httpProxy) false) pingRun).any (fun state ↦
        decide (state.levels.length = 2 ∧ state.read = [.pong] ∧ Clean state.levels 1) &&
          state.levels.getLast?.isSome) = true)
  obtain ⟨hdecided, hsome⟩ := Bool.and_eq_true_iff.mp hstate
  obtain ⟨hlength, hread, hclean⟩ := of_decide_eq_true hdecided
  obtain ⟨top, htop⟩ := Option.isSome_iff_exists.mp hsome
  obtain ⟨linkActions, hlink⟩ := stack_refines_link keyedNoise countingSnow_tagged
    keyedNoise_completes (keyedSetup 7) lanPeer (lanHello .httpProxy) false pingRun state hrun top
    htop (by rw [hlength]; exact hclean)
  exact ⟨state, top, linkActions, hrun, htop, hlength, hread, hlink⟩

end Example

end EntroTunnel.Link
