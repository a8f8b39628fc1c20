import EntroTunnel.Client.Carrier
import EntroTunnel.Client.SessionDrivers
import EntroTunnel.Core.AddressParse
import EntroTunnel.Core.Psk
import EntroTunnel.Foundation.Places

/-!
# Connecting a chain

`connect_chain` of `client-core/src/chain.rs` with `connect_over` of `core/src/transport/mod.rs`.
The first hop is dialed; every later one is reached through a carrier stream over the tunnel to the
hop before, with a transport handshake of its own on top. A `Tunnel` is the record of one such
handshake: the endpoint and the key it was made with, the tunnel it runs over, and what was sent and
received on it by the connecting code. What the tasks of a carrier send is not in it; their first
frame is, which `open_carrier` queues.

`Outside` decides everything else: which names resolve, which handshakes and sends succeed, what the
hops reply. `chain_roles` says for all of it what each hop is told, in the fields of its entry in
the profile, and where a failure stops. `connectChain_planned` relates it to the session drivers,
whose plan names the hops and their greetings only.
-/

set_option autoImplicit false
set_option relaxedAutoImplicit false

namespace EntroTunnel.Client.Driver.ChainConnect

open EntroTunnel.Core EntroTunnel.Foundation

/-! ### What the code connects with -/

/-- The errors of `core/src/error.rs`. -/
inductive ConnectError
  | io (text : String)
  | codec (text : String)
  | crypto (text : String)
  | protocol (text : String)
  | auth (text : String)
  | transport (text : String)
  | config (text : String)
  | closed
  | notImplemented (text : String)
  deriving DecidableEq, Repr

/-- Where and how a server is dialed. -/
structure Endpoint where
  host : String
  port : UInt16
  kind : TransportKind
  wsPath : String
  serverName : String
  deriving DecidableEq, Repr

/-- Client-side security material. -/
structure ClientSecurity where
  noisePsk : Psk
  tlsSkipVerify : Bool
  tlsPinnedCertPem : Option String
  deriving DecidableEq

/-- One channel that a transport handshake has brought up. -/
structure Tunnel where
  endpoint : Endpoint
  security : ClientSecurity
  /-- The tunnel whose carrier stream it runs over; none for a socket. -/
  below : Option ℕ
  sent : List Frame
  received : List Frame
  deriving DecidableEq

/-- What the code does not decide; `none` is success where an error may be returned. -/
structure Outside where
  lookupHost : String → UInt16 → Except ConnectError (List IpAddr)
  base64 : List Char → Except String Bytes
  connect : Endpoint → ClientSecurity → Option ConnectError
  connectOver : List Tunnel → Endpoint → ClientSecurity → Option ConnectError
  sendFails : List Tunnel → ℕ → Frame → Option ConnectError
  recv : List Tunnel → ℕ → Except ConnectError Frame
  /-- The text of a frame in an error. -/
  debug : Frame → String

variable (outside : Outside)

def endpointOf (server : ServerEntry) : Endpoint where
  host := server.host
  port := server.port
  kind := server.transport
  wsPath := "/et"
  serverName := server.sni

def securityOf (server : ServerEntry) : Except ConnectError ClientSecurity :=
  match parsePsk outside.base64 server.noisePsk with
  | .error error => .error (.config error)
  | .ok noisePsk =>
    .ok { noisePsk, tlsSkipVerify := server.tlsSkipVerify, tlsPinnedCertPem := none }

def targetOf (server : ServerEntry) : TargetAddr :=
  match parseIpAddr server.host.toList with
  | some ip => .ip ⟨ip, server.port⟩
  | none => .domain server.host server.port

def resolve (host : String) (port : UInt16) : Except ConnectError IpAddr :=
  match parseIpAddr host.toList with
  | some ip => .ok ip
  | none =>
    match outside.lookupHost host port with
    | .error error => .error error
    | .ok [] => .error (.config ("cannot resolve host " ++ host))
    | .ok (ip :: _) => .ok ip

/-! ### Channels -/

def Tunnel.send (frames : List Frame) (tunnel : Tunnel) : Tunnel :=
  { tunnel with sent := tunnel.sent ++ frames }

def Tunnel.receive (frame : Frame) (tunnel : Tunnel) : Tunnel :=
  { tunnel with received := tunnel.received ++ [frame] }

/-- A channel that nothing was sent on. -/
def Tunnel.fresh (endpoint : Endpoint) (security : ClientSecurity) (below : Option ℕ) : Tunnel where
  endpoint := endpoint
  security := security
  below := below
  sent := []
  received := []

/-- `transport::connect`: the index of the new tunnel. -/
def connect (endpoint : Endpoint) (security : ClientSecurity) (tunnels : List Tunnel) :
    Except ConnectError ℕ × List Tunnel :=
  match outside.connect endpoint security with
  | some error => (.error error, tunnels)
  | none => (.ok tunnels.length, tunnels ++ [.fresh endpoint security none])

/-- `transport::connect_over` the near end of a carrier. -/
def connectOver (below : ℕ) (endpoint : Endpoint) (security : ClientSecurity)
    (tunnels : List Tunnel) : Except ConnectError ℕ × List Tunnel :=
  match endpoint.kind with
  | .quic =>
    (.error (.notImplemented ("QUIC can only be the first hop of a proxy chain " ++
      "(UDP can't tunnel over a relayed stream)")), tunnels)
  | .tcp | .ws =>
    match outside.connectOver tunnels endpoint security with
    | some error => (.error error, tunnels)
    | none => (.ok tunnels.length, tunnels ++ [.fresh endpoint security (some below)])

/-- `open_carrier`: what it queues for the hop. -/
def openCarrier (tunnel : ℕ) (target : TargetAddr) (tunnels : List Tunnel) : List Tunnel :=
  tunnels.modify tunnel (.send (Carrier.start target).out.items)

/-- `handshake`. A send that fails may have reached the hop. -/
def handshake (tunnel : ℕ) (srv : ServerEntry) (mode : SessionMode)
    (requestedIp : Option Ipv4Addr) (clientName : Option String) (tunnels : List Tunnel) :
    Except ConnectError Welcome × List Tunnel :=
  let hello := Frame.hello (Driver.handshake srv mode requestedIp clientName)
  let greeted := tunnels.modify tunnel (.send [hello])
  match outside.sendFails tunnels tunnel hello with
  | some error => (.error error, greeted)
  | none =>
    match outside.recv greeted tunnel with
    | .error error => (.error error, greeted)
    | .ok reply =>
      let answered := greeted.modify tunnel (.receive reply)
      match reply with
      | .welcome welcome => (.ok welcome, answered)
      | .reject reason => (.error (.auth reason), answered)
      | other => (.error (.protocol ("expected Welcome, got " ++ outside.debug other)), answered)

/-! ### The chain -/

/-- `ChainTunnel`: the tunnel to the last hop. -/
structure ChainTunnel where
  tunnel : ℕ
  welcome : Welcome
  firstHopIp : IpAddr
  deriving DecidableEq

section Connect

variable (last : ℕ) (finalMode : SessionMode) (requestedIp : Option Ipv4Addr)
  (clientName : Option String)

/-- The loop over the hops from `k` on; `tunnel` and `welcome` are of the hop before. -/
def connectRest : ℕ → ℕ → Welcome → List ServerEntry → List Tunnel →
    Except ConnectError (ℕ × Welcome) × List Tunnel
  | _, tunnel, welcome, [], tunnels => (.ok (tunnel, welcome), tunnels)
  | k, tunnel, _, hop :: rest, tunnels =>
    let opened := openCarrier tunnel (targetOf hop) tunnels
    match securityOf outside hop with
    | .error error => (.error error, opened)
    | .ok security =>
      match connectOver outside tunnel (endpointOf hop) security opened with
      | (.error error, left) => (.error error, left)
      | (.ok above, raised) =>
        match handshake outside above hop (if k = last then finalMode else .httpProxy)
            (if k = last then requestedIp else none) clientName raised with
        | (.error error, left) => (.error error, left)
        | (.ok welcome, greeted) => connectRest (k + 1) above welcome rest greeted

end Connect

/-- `connect_chain`, from no tunnel at all. -/
def connectChain (hops : List ServerEntry) (finalMode : SessionMode)
    (requestedIp : Option Ipv4Addr) (clientName : Option String) :
    Except ConnectError ChainTunnel × List Tunnel :=
  match hops with
  | [] => (.error (.config "proxy chain is empty"), [])
  | hop0 :: rest =>
    let last := rest.length
    match resolve outside hop0.host hop0.port with
    | .error error => (.error error, [])
    | .ok firstHopIp =>
      match securityOf outside hop0 with
      | .error error => (.error error, [])
      | .ok security =>
        match connect outside (endpointOf hop0) security [] with
        | (.error error, left) => (.error error, left)
        | (.ok tunnel, raised) =>
          match handshake outside tunnel hop0 (if last = 0 then finalMode else .httpProxy)
              (if last = 0 then requestedIp else none) clientName raised with
          | (.error error, left) => (.error error, left)
          | (.ok welcome, greeted) =>
            match connectRest outside last finalMode requestedIp clientName 1 tunnel welcome rest
                greeted with
            | (.error error, left) => (.error error, left)
            | (.ok (tunnel, welcome), final) => (.ok { tunnel, welcome, firstHopIp }, final)

/-! ### What each hop is told -/

section Roles

variable {outside} (hops : List ServerEntry) (finalMode : SessionMode)
  (requestedIp : Option Ipv4Addr) (clientName : Option String)

/-- The greeting of the hop at an index, as `connect_chain` makes it. -/
def greeting (k : ℕ) (hop : ServerEntry) : Hello :=
  Driver.handshake hop (if k + 1 = hops.length then finalMode else .httpProxy)
    (if k + 1 = hops.length then requestedIp else none) clientName

/-- The tunnel was brought up with the endpoint and the key of the hop at an index, over the tunnel
to the hop before. -/
structure Tunnel.OfHop (outside : Outside) (tunnel : Tunnel) (k : ℕ) (hop : ServerEntry) :
    Prop where
  endpoint : tunnel.endpoint = endpointOf hop
  security : securityOf outside hop = .ok tunnel.security
  below : tunnel.below = if k = 0 then none else some (k - 1)

/-- What asks the hop before to dial the hop at an index. -/
def opening (k : ℕ) : List Frame :=
  (hops[k]?).toList.flatMap fun hop ↦ (Carrier.start (targetOf hop)).out.items

/-- The tunnel to a hop that has answered its greeting. Hops before `carried` are asked to dial the
next one. -/
def Accepted (outside : Outside) (carried k : ℕ) (tunnel : Tunnel) : Prop :=
  ∃ hop welcome, hops[k]? = some hop ∧ tunnel.OfHop outside k hop ∧
    tunnel.sent = .hello (greeting hops finalMode requestedIp clientName k hop) ::
      (if k < carried then opening hops (k + 1) else []) ∧
    tunnel.received = [.welcome welcome]

/-- The first `count` hops have answered, and nothing else was connected. -/
structure Established (outside : Outside) (carried count : ℕ) (tunnels : List Tunnel) : Prop where
  length : tunnels.length = count
  accepted : ∀ k tunnel, tunnels[k]? = some tunnel →
    Accepted hops finalMode requestedIp clientName outside carried k tunnel

/-- The chain is connected: every hop has answered, the last one with the welcome that is given. -/
structure Connected (outside : Outside) (tunnel : ℕ) (welcome : Welcome)
    (tunnels : List Tunnel) : Prop where
  last : tunnel + 1 = hops.length
  established : Established hops finalMode requestedIp clientName outside tunnel
    (tunnel + 1) tunnels
  welcomed : (tunnels[tunnel]?).map Tunnel.received = some [.welcome welcome]

/-- The hop at an index could not be connected: the hops before it have answered, and it was sent
its greeting at most. -/
def Failed (outside : Outside) (tunnels : List Tunnel) : Prop :=
  ∃ k hop accepted, hops[k]? = some hop ∧
    Established hops finalMode requestedIp clientName outside k k accepted ∧
    (tunnels = accepted ∨ ∃ tunnel, tunnels = accepted ++ [tunnel] ∧ tunnel.OfHop outside k hop ∧
      tunnel.sent = [.hello (greeting hops finalMode requestedIp clientName k hop)])

theorem greeting_cons {k : ℕ} {first next hop : ServerEntry} {rest : List ServerEntry} :
    greeting (first :: next :: rest) finalMode requestedIp clientName (k + 1) hop =
      greeting (next :: rest) finalMode requestedIp clientName k hop := by
  simp only [greeting, List.length_cons, Nat.add_right_cancel_iff]

/-- What a hop is told: its own token, and the mode and the address of the session if it is the
last. -/
structure Role (k : ℕ) (hop : ServerEntry) (hello : Hello) : Prop where
  token : hello.token = hop.token
  mode : hello.mode =
    if k + 1 = hops.length ∧ finalMode ≠ .systemProxy then finalMode else .httpProxy
  requestedIp : hello.requestedIp = if k + 1 = hops.length then requestedIp else none
  clientName : hello.clientName = clientName
  joinVpn : hello.joinVpn = false

/-- A stream target is the address of a server: its host as an IP address if it is the text of one,
and by its name otherwise. -/
def AddressOf (server : ServerEntry) : TargetAddr → Prop
  | .ip addr => parseIpAddr server.host.toList = some addr.ip ∧ addr.port = server.port
  | .domain host port =>
    parseIpAddr server.host.toList = none ∧ host = server.host ∧ port = server.port

/-- The tunnel at an index is the one to that hop: its transport handshake was made with the fields
that the profile has for the hop, and runs over what the hop before was asked to dial; the hop is
greeted in its role, and is asked to dial the next hop and nothing else. -/
structure Told (outside : Outside) (tunnels : List Tunnel) (k : ℕ) (tunnel : Tunnel)
    (hop : ServerEntry) : Prop where
  host : tunnel.endpoint.host = hop.host
  port : tunnel.endpoint.port = hop.port
  transport : tunnel.endpoint.kind = hop.transport
  wsPath : tunnel.endpoint.wsPath = "/et"
  serverName : tunnel.endpoint.serverName = hop.serverName.getD hop.host
  noisePsk : outside.base64 (trim hop.noisePsk.toList) = .ok tunnel.security.noisePsk.bytes
  tlsSkipVerify : tunnel.security.tlsSkipVerify = hop.tlsSkipVerify
  tlsPinnedCertPem : tunnel.security.tlsPinnedCertPem = none
  dialed : k = 0 → tunnel.below = none
  relayed : ∀ j, k = j + 1 → tunnel.below = some j ∧ ∃ lower target, tunnels[j]? = some lower ∧
    .streamOpen carrierId target ∈ lower.sent ∧ AddressOf hop target
  greeted : ∃ hello frames, tunnel.sent = .hello hello :: frames ∧
    Role hops finalMode requestedIp clientName k hop hello ∧
    (frames = [] ∨ ∃ next target, hops[k + 1]? = some next ∧ AddressOf next target ∧
      frames = [.streamOpen carrierId target])

/-- The tunnels that `connect_chain` leaves. A failure at a hop leaves none beyond it, and that hop
is not asked to dial another. -/
structure ChainRoles (outside : Outside)
    (run : Except ConnectError ChainTunnel × List Tunnel) : Prop where
  told : ∀ k tunnel, run.2[k]? = some tunnel → ∃ hop, hops[k]? = some hop ∧
    Told hops finalMode requestedIp clientName outside run.2 k tunnel hop
  connected : ∀ chain, run.1 = .ok chain → chain.tunnel + 1 = hops.length ∧
    run.2.length = hops.length ∧
    (run.2[chain.tunnel]?).map Tunnel.received = some [.welcome chain.welcome]
  failed : ∀ error, run.1 = .error error → ∃ k, k < hops.length ∧ k ≤ run.2.length ∧
    run.2.length ≤ k + 1 ∧
    (∀ j tunnel, j < k → run.2[j]? = some tunnel →
      ∃ welcome, tunnel.received = [.welcome welcome]) ∧
    ∀ tunnel, run.2[k]? = some tunnel → ∃ hello, tunnel.sent = [.hello hello]

variable {hops finalMode requestedIp clientName}

theorem modify_append_length {α : Type*} (list : List α) (item : α) (change : α → α) :
    (list ++ [item]).modify list.length change = list ++ [change item] := by
  induction list with
  | nil => rfl
  | cons first rest ih =>
    rw [List.cons_append, List.length_cons, List.modify_succ_cons, ih, List.cons_append]

/-- A greeting on a fresh tunnel: it was sent, and a welcome is what was received. -/
theorem handshake_cases {tunnels final : List Tunnel} {tunnel : Tunnel} {srv : ServerEntry}
    {mode : SessionMode} {requestedIp : Option Ipv4Addr} {clientName : Option String}
    {result : Except ConnectError Welcome} (hsent : tunnel.sent = [])
    (hreceived : tunnel.received = [])
    (hrun : handshake outside tunnels.length srv mode requestedIp clientName
      (tunnels ++ [tunnel]) = (result, final)) :
    ∃ received, final = tunnels ++ [{ tunnel with
        sent := [.hello (Driver.handshake srv mode requestedIp clientName)]
        received }] ∧
      ∀ welcome, result = .ok welcome → received = [.welcome welcome] := by
  have hgreeted := modify_append_length tunnels tunnel
    (.send [.hello (Driver.handshake srv mode requestedIp clientName)])
  have hone : tunnel.send [.hello (Driver.handshake srv mode requestedIp clientName)] =
      { tunnel with
        sent := [.hello (Driver.handshake srv mode requestedIp clientName)]
        received := [] } := by
    rw [Tunnel.send, hsent, List.nil_append, ← hreceived]
  rw [hone] at hgreeted
  unfold handshake at hrun
  dsimp only at hrun
  rw [hgreeted] at hrun
  split at hrun
  · obtain ⟨rfl, rfl⟩ := Prod.mk.inj hrun
    exact ⟨[], rfl, fun _ h ↦ absurd h nofun⟩
  split at hrun
  · obtain ⟨rfl, rfl⟩ := Prod.mk.inj hrun
    exact ⟨[], rfl, fun _ h ↦ absurd h nofun⟩
  rename_i reply _
  have hanswered := modify_append_length tunnels
    { tunnel with
      sent := [.hello (Driver.handshake srv mode requestedIp clientName)]
      received := [] } (.receive reply)
  rw [hanswered] at hrun
  refine ⟨[reply], ?_, ?_⟩
  · split at hrun <;> exact (Prod.mk.inj hrun).2.symm
  · intro welcome hwelcome
    subst hwelcome
    split at hrun
    · obtain ⟨hsame, -⟩ := Prod.mk.inj hrun
      rw [Except.ok.inj hsame]
    · exact absurd (Prod.mk.inj hrun).1 nofun
    · exact absurd (Prod.mk.inj hrun).1 nofun

/-- The last hop that has answered is asked to dial the next one. -/
theorem Established.openCarrier {k : ℕ} {tunnels : List Tunnel} {next : ServerEntry}
    (hestablished : Established hops finalMode requestedIp clientName outside k (k + 1) tunnels)
    (hnext : hops[k + 1]? = some next) :
    Established hops finalMode requestedIp clientName outside (k + 1) (k + 1)
      (openCarrier k (targetOf next) tunnels) where
  length := (List.length_modify ..).trans hestablished.length
  accepted := by
    intro j tunnel htunnel
    rw [ChainConnect.openCarrier, List.getElem?_modify] at htunnel
    obtain ⟨before, hbefore, rfl⟩ := Option.map_eq_some_iff.mp htunnel
    obtain ⟨hop, welcome, hhop, hof, hsent, hreceived⟩ := hestablished.accepted j before hbefore
    have hj : j < k + 1 := hestablished.length ▸ (List.getElem?_eq_some_iff.mp hbefore).1
    by_cases hlast : k = j
    · subst hlast
      rw [if_neg (lt_irrefl k)] at hsent
      refine ⟨hop, welcome, hhop, ?_, ?_, ?_⟩
      · rw [if_pos rfl]
        exact ⟨hof.endpoint, hof.security, hof.below⟩
      · rw [if_pos rfl, if_pos hj, opening, hnext, Tunnel.send, hsent]
        rfl
      · rw [if_pos rfl]
        exact hreceived
    · refine ⟨hop, welcome, hhop, ?_⟩
      rw [if_pos (by omega)] at hsent
      rw [if_neg hlast, if_pos hj]
      exact ⟨hof, hsent, hreceived⟩

/-- One more hop has answered. -/
theorem Established.append {k : ℕ} {tunnels : List Tunnel} {tunnel : Tunnel} {hop : ServerEntry}
    {welcome : Welcome}
    (hestablished : Established hops finalMode requestedIp clientName outside k k tunnels)
    (hhop : hops[k]? = some hop) (hof : tunnel.OfHop outside k hop)
    (hsent : tunnel.sent = [.hello (greeting hops finalMode requestedIp clientName k hop)])
    (hreceived : tunnel.received = [.welcome welcome]) :
    Established hops finalMode requestedIp clientName outside k (k + 1) (tunnels ++ [tunnel]) where
  length := by rw [List.length_append, hestablished.length, List.length_singleton]
  accepted := by
    intro j other hother
    obtain hbefore | ⟨hlast, rfl⟩ := getElem?_concat_eq_some.mp hother
    · exact hestablished.accepted j other hbefore
    · obtain rfl : j = k := hlast.trans hestablished.length
      exact ⟨hop, welcome, hhop, hof, by rw [if_neg (lt_irrefl j), hsent], hreceived⟩

/-- A greeting on the fresh tunnel to the hop at an index ends with one more hop that has answered,
or with the failure of this one. -/
theorem Established.handshake {k : ℕ} {tunnels final : List Tunnel} {tunnel : Tunnel}
    {hop : ServerEntry} {mode : SessionMode} {ip : Option Ipv4Addr}
    {result : Except ConnectError Welcome}
    (hestablished : Established hops finalMode requestedIp clientName outside k k tunnels)
    (hhop : hops[k]? = some hop) (hof : tunnel.OfHop outside k hop) (hsent : tunnel.sent = [])
    (hreceived : tunnel.received = [])
    (hgreeting : Driver.handshake hop mode ip clientName =
      greeting hops finalMode requestedIp clientName k hop)
    (hrun : handshake outside tunnels.length hop mode ip clientName (tunnels ++ [tunnel]) =
      (result, final)) :
    (∀ welcome, result = .ok welcome →
      Established hops finalMode requestedIp clientName outside k (k + 1) final ∧
        (final[k]?).map Tunnel.received = some [.welcome welcome]) ∧
      ∀ error, result = .error error →
        Failed hops finalMode requestedIp clientName outside final := by
  obtain ⟨received, rfl, hwelcome⟩ := handshake_cases hsent hreceived hrun
  rw [hgreeting]
  have hofNext : ({ tunnel with
      sent := [.hello (greeting hops finalMode requestedIp clientName k hop)]
      received := received } : Tunnel).OfHop outside k hop :=
    ⟨hof.endpoint, hof.security, hof.below⟩
  constructor
  · intro welcome hresult
    refine ⟨hestablished.append hhop hofNext rfl (hwelcome welcome hresult), ?_⟩
    rw [← hestablished.length, List.getElem?_concat_length, Option.map_some,
      hwelcome welcome hresult]
  · intro error _
    exact ⟨k, hop, tunnels, hhop, hestablished, .inr ⟨_, rfl, hofNext, rfl⟩⟩

/-- A carrier stream carries the handshake of the next hop, or nothing is connected. -/
theorem connectOver_cases {below : ℕ} {endpoint : Endpoint} {security : ClientSecurity}
    {tunnels final : List Tunnel} {result : Except ConnectError ℕ}
    (hrun : connectOver outside below endpoint security tunnels = (result, final)) :
    (∃ error, result = .error error ∧ final = tunnels) ∨
      result = .ok tunnels.length ∧ final = tunnels ++ [.fresh endpoint security (some below)] := by
  unfold connectOver at hrun
  split at hrun
  · obtain ⟨rfl, rfl⟩ := Prod.mk.inj hrun
    exact .inl ⟨_, rfl, rfl⟩
  all_goals
    split at hrun
    · obtain ⟨rfl, rfl⟩ := Prod.mk.inj hrun
      exact .inl ⟨_, rfl, rfl⟩
    · obtain ⟨rfl, rfl⟩ := Prod.mk.inj hrun
      exact .inr ⟨rfl, rfl⟩

/-- The loop ends with every hop, or with a hop that could not be connected. -/
theorem connectRest_cases {k : ℕ} {welcome : Welcome} {done rest : List ServerEntry}
    {tunnels final : List Tunnel} {result : Except ConnectError (ℕ × Welcome)}
    (hhops : hops = done ++ rest) (hdone : done.length = k + 1)
    (hestablished : Established hops finalMode requestedIp clientName outside k (k + 1) tunnels)
    (hwelcome : (tunnels[k]?).map Tunnel.received = some [.welcome welcome])
    (hrun : connectRest outside (hops.length - 1) finalMode requestedIp clientName (k + 1) k welcome
      rest tunnels = (result, final)) :
    (∀ tunnel welcome, result = .ok (tunnel, welcome) →
      Connected hops finalMode requestedIp clientName outside tunnel welcome final) ∧
      ∀ error, result = .error error →
        Failed hops finalMode requestedIp clientName outside final := by
  induction rest generalizing k welcome done tunnels with
  | nil =>
    obtain ⟨rfl, rfl⟩ := Prod.mk.inj hrun
    refine ⟨fun tunnel last hlast ↦ ?_, fun _ h ↦ absurd h nofun⟩
    obtain ⟨rfl, rfl⟩ := Prod.mk.inj (Except.ok.inj hlast)
    rw [List.append_nil] at hhops
    exact ⟨by rw [hhops, hdone], hestablished, hwelcome⟩
  | cons hop rest ih =>
    have hhop : hops[k + 1]? = some hop := by
      rw [hhops, ← hdone, List.getElem?_append_right le_rfl, Nat.sub_self, List.getElem?_cons_zero]
    have hopened := hestablished.openCarrier hhop
    have hfailed : Failed hops finalMode requestedIp clientName outside
        (openCarrier k (targetOf hop) tunnels) :=
      ⟨k + 1, hop, _, hhop, hopened, .inl rfl⟩
    rw [connectRest] at hrun
    split at hrun
    · obtain ⟨rfl, rfl⟩ := Prod.mk.inj hrun
      exact ⟨fun _ _ h ↦ absurd h nofun, fun _ _ ↦ hfailed⟩
    rename_i security hsecurity
    split at hrun
    · rename_i error left hover
      obtain ⟨rfl, rfl⟩ := Prod.mk.inj hrun
      rcases connectOver_cases hover with ⟨_, -, rfl⟩ | ⟨hok, -⟩
      · exact ⟨fun _ _ h ↦ absurd h nofun, fun _ _ ↦ hfailed⟩
      · exact absurd hok nofun
    rename_i above raised hover
    rcases connectOver_cases hover with ⟨_, herror, -⟩ | ⟨hok, rfl⟩
    · exact absurd herror nofun
    obtain rfl := Except.ok.inj hok
    have hof : (Tunnel.fresh (endpointOf hop) security (some k)).OfHop outside (k + 1) hop :=
      ⟨rfl, hsecurity, rfl⟩
    have hlast : (k + 1 = hops.length - 1) = (k + 1 + 1 = hops.length) := by
      refine propext ⟨fun h ↦ ?_, fun h ↦ ?_⟩ <;> omega
    have hgreeting : Driver.handshake hop
        (if k + 1 = hops.length - 1 then finalMode else .httpProxy)
        (if k + 1 = hops.length - 1 then requestedIp else none) clientName =
          greeting hops finalMode requestedIp clientName (k + 1) hop := by
      simp only [greeting, hlast]
    split at hrun
    · rename_i error left hgreeted
      obtain ⟨rfl, rfl⟩ := Prod.mk.inj hrun
      obtain ⟨-, hleft⟩ := hopened.handshake hhop hof rfl rfl hgreeting hgreeted
      exact ⟨fun _ _ h ↦ absurd h nofun, fun _ _ ↦ hleft error rfl⟩
    · rename_i next greeted hgreeted
      obtain ⟨hnext, -⟩ := hopened.handshake hhop hof rfl rfl hgreeting hgreeted
      obtain ⟨hnextEstablished, hnextWelcome⟩ := hnext next rfl
      rw [hopened.length] at hrun
      have hsplit : hops = (done ++ [hop]) ++ rest := by
        rw [hhops, List.append_assoc, List.singleton_append]
      have hcount : (done ++ [hop]).length = k + 1 + 1 := by
        rw [List.length_append, hdone, List.length_singleton]
      exact ih hsplit hcount hnextEstablished hnextWelcome hrun

theorem role_greeting {k : ℕ} {hop : ServerEntry} :
    Role hops finalMode requestedIp clientName k hop
      (greeting hops finalMode requestedIp clientName k hop) where
  token := rfl
  mode := by
    rw [greeting, Driver.handshake]
    by_cases hlast : k + 1 = hops.length
    · rw [if_pos hlast]
      cases finalMode <;> simp [hlast, SessionMode.wire]
    · simp [hlast, SessionMode.wire]
  requestedIp := rfl
  clientName := rfl
  joinVpn := rfl

/-- The key of a hop is what its text in the profile is decoded to. -/
theorem securityOf_eq_ok {server : ServerEntry} {security : ClientSecurity}
    (hsecurity : securityOf outside server = .ok security) :
    outside.base64 (trim server.noisePsk.toList) = .ok security.noisePsk.bytes ∧
      security.tlsSkipVerify = server.tlsSkipVerify ∧ security.tlsPinnedCertPem = none := by
  unfold securityOf at hsecurity
  split at hsecurity
  · exact absurd hsecurity nofun
  · rename_i noisePsk hparse
    obtain rfl := Except.ok.inj hsecurity
    exact ⟨parsePsk_eq_ok.mp hparse, rfl, rfl⟩

theorem addressOf_targetOf (server : ServerEntry) : AddressOf server (targetOf server) := by
  unfold targetOf
  split
  · rename_i ip hparse
    exact ⟨hparse, rfl⟩
  · rename_i hparse
    exact ⟨hparse, rfl, rfl⟩

theorem opening_of_getElem? {k : ℕ} {next : ServerEntry} (hnext : hops[k]? = some next) :
    opening hops k = [.streamOpen carrierId (targetOf next)] := by
  rw [opening, hnext]
  rfl

/-- Every tunnel is to the hop at its index, and every hop but the last of them was asked to
dial. -/
structure Greeted (hops : List ServerEntry) (finalMode : SessionMode)
    (requestedIp : Option Ipv4Addr) (clientName : Option String) (outside : Outside) (carried : ℕ)
    (tunnels : List Tunnel) : Prop where
  length : tunnels.length ≤ carried + 1
  inside : carried < hops.length
  hop : ∀ k tunnel, tunnels[k]? = some tunnel → ∃ hop, hops[k]? = some hop ∧
    tunnel.OfHop outside k hop ∧
    tunnel.sent = .hello (greeting hops finalMode requestedIp clientName k hop) ::
      (if k < carried then opening hops (k + 1) else [])

theorem Established.greeted {carried count : ℕ} {tunnels : List Tunnel}
    (hestablished : Established hops finalMode requestedIp clientName outside carried count tunnels)
    (hcount : count ≤ carried + 1) (hcarried : carried < hops.length) :
    Greeted hops finalMode requestedIp clientName outside carried tunnels where
  length := hestablished.length.trans_le hcount
  inside := hcarried
  hop := by
    intro k tunnel htunnel
    obtain ⟨hop, _, hhop, hof, hsent, -⟩ := hestablished.accepted k tunnel htunnel
    exact ⟨hop, hhop, hof, hsent⟩

theorem Failed.greeted {tunnels : List Tunnel}
    (hfailed : Failed hops finalMode requestedIp clientName outside tunnels) :
    ∃ carried, Greeted hops finalMode requestedIp clientName outside carried tunnels := by
  obtain ⟨k, hop, accepted, hhop, hestablished, rfl | ⟨tunnel, rfl, hof, hsent⟩⟩ := hfailed
  all_goals
    have hbefore := hestablished.greeted (Nat.le_succ k) (List.getElem?_eq_some_iff.mp hhop).1
  · exact ⟨k, hbefore⟩
  · refine ⟨k, ?_, hbefore.inside, ?_⟩
    · rw [List.length_append, hestablished.length, List.length_singleton]
    · intro j other hother
      obtain hold | ⟨hlast, rfl⟩ := getElem?_concat_eq_some.mp hother
      · exact hbefore.hop j other hold
      · obtain rfl : j = k := hlast.trans hestablished.length
        exact ⟨hop, hhop, hof, by rw [hsent, if_neg (lt_irrefl j)]⟩

theorem Greeted.told {carried k : ℕ} {tunnels : List Tunnel} {tunnel : Tunnel}
    (hgreeted : Greeted hops finalMode requestedIp clientName outside carried tunnels)
    (htunnel : tunnels[k]? = some tunnel) :
    ∃ hop, hops[k]? = some hop ∧
      Told hops finalMode requestedIp clientName outside tunnels k tunnel hop := by
  obtain ⟨hop, hhop, hof, hsent⟩ := hgreeted.hop k tunnel htunnel
  obtain ⟨hpsk, hverify, hpinned⟩ := securityOf_eq_ok hof.security
  refine ⟨hop, hhop, ?_⟩
  constructor
  case host => rw [hof.endpoint, endpointOf]
  case port => rw [hof.endpoint, endpointOf]
  case transport => rw [hof.endpoint, endpointOf]
  case wsPath => rw [hof.endpoint, endpointOf]
  case serverName => rw [hof.endpoint, endpointOf, ServerEntry.sni]
  case noisePsk => exact hpsk
  case tlsSkipVerify => exact hverify
  case tlsPinnedCertPem => exact hpinned
  case dialed =>
    intro hfirst
    rw [hof.below, if_pos hfirst]
  case relayed =>
    rintro j rfl
    refine ⟨by rw [hof.below, if_neg (Nat.succ_ne_zero j), Nat.add_sub_cancel], ?_⟩
    have hindex := (List.getElem?_eq_some_iff.mp htunnel).1
    have hlower : tunnels[j]? = some tunnels[j] := List.getElem?_eq_getElem (by omega)
    obtain ⟨lowerHop, -, -, hlowerSent⟩ := hgreeted.hop j _ hlower
    have hcarried : j < carried := by
      have := hgreeted.length
      omega
    refine ⟨_, targetOf hop, hlower, ?_, addressOf_targetOf hop⟩
    rw [hlowerSent, if_pos hcarried, opening_of_getElem? hhop]
    exact List.mem_cons_of_mem _ (List.mem_singleton_self _)
  case greeted =>
    refine ⟨_, _, hsent, role_greeting, ?_⟩
    by_cases hcarried : k < carried
    · have hindex : k + 1 < hops.length := by
        have := hgreeted.inside
        omega
      have hnext := List.getElem?_eq_getElem hindex
      exact .inr ⟨_, targetOf _, hnext, addressOf_targetOf _,
        (if_pos hcarried).trans (opening_of_getElem? hnext)⟩
    · exact .inl (if_neg hcarried)

/-- `connect_chain` ends with every hop, or with a hop that could not be connected. -/
theorem connectChain_cases {final : List Tunnel} {result : Except ConnectError ChainTunnel}
    (hhops : hops ≠ []) (hrun : connectChain outside hops finalMode requestedIp clientName =
      (result, final)) :
    (∀ chain, result = .ok chain →
      Connected hops finalMode requestedIp clientName outside chain.tunnel chain.welcome final) ∧
      ∀ error, result = .error error →
        Failed hops finalMode requestedIp clientName outside final := by
  obtain ⟨hop0, rest, rfl⟩ := List.exists_cons_of_ne_nil hhops
  have hnone : Established (hop0 :: rest) finalMode requestedIp clientName outside 0 0 [] :=
    ⟨rfl, fun _ _ h ↦ absurd h (by simp)⟩
  have hfailed : Failed (hop0 :: rest) finalMode requestedIp clientName outside [] :=
    ⟨0, hop0, [], rfl, hnone, .inl rfl⟩
  rw [connectChain] at hrun
  split at hrun
  · obtain ⟨rfl, rfl⟩ := Prod.mk.inj hrun
    exact ⟨fun _ h ↦ absurd h nofun, fun _ _ ↦ hfailed⟩
  split at hrun
  · obtain ⟨rfl, rfl⟩ := Prod.mk.inj hrun
    exact ⟨fun _ h ↦ absurd h nofun, fun _ _ ↦ hfailed⟩
  rename_i security hsecurity
  rw [connect] at hrun
  cases hconnect : outside.connect (endpointOf hop0) security with
  | some error =>
    simp only [hconnect] at hrun
    obtain ⟨rfl, rfl⟩ := Prod.mk.inj hrun
    exact ⟨fun _ h ↦ absurd h nofun, fun _ _ ↦ hfailed⟩
  | none =>
    simp only [hconnect] at hrun
    have hof : (Tunnel.fresh (endpointOf hop0) security none).OfHop outside 0 hop0 :=
      ⟨rfl, hsecurity, rfl⟩
    have hlast : (rest.length = 0) = (0 + 1 = (hop0 :: rest).length) := by
      rw [List.length_cons]
      exact propext (by omega)
    have hgreeting : Driver.handshake hop0 (if rest.length = 0 then finalMode else .httpProxy)
        (if rest.length = 0 then requestedIp else none) clientName =
          greeting (hop0 :: rest) finalMode requestedIp clientName 0 hop0 := by
      simp only [greeting, hlast]
    split at hrun
    · rename_i error left hgreeted
      obtain ⟨rfl, rfl⟩ := Prod.mk.inj hrun
      obtain ⟨-, hleft⟩ := hnone.handshake rfl hof rfl rfl hgreeting hgreeted
      exact ⟨fun _ h ↦ absurd h nofun, fun _ _ ↦ hleft error rfl⟩
    rename_i welcome greeted hgreeted
    obtain ⟨hok, -⟩ := hnone.handshake rfl hof rfl rfl hgreeting hgreeted
    obtain ⟨hestablished, hreceived⟩ := hok welcome rfl
    have hsplit : hop0 :: rest = [hop0] ++ rest := rfl
    have hlength : rest.length = (hop0 :: rest).length - 1 := rfl
    rw [hlength] at hrun
    split at hrun
    · rename_i error left hrest
      obtain ⟨rfl, rfl⟩ := Prod.mk.inj hrun
      obtain ⟨-, hleft⟩ := connectRest_cases hsplit rfl hestablished hreceived hrest
      exact ⟨fun _ h ↦ absurd h nofun, fun _ _ ↦ hleft error rfl⟩
    · rename_i tunnel lastWelcome left hrest
      obtain ⟨rfl, rfl⟩ := Prod.mk.inj hrun
      obtain ⟨hall, -⟩ := connectRest_cases hsplit rfl hestablished hreceived hrest
      refine ⟨fun chain hchain ↦ ?_, fun _ h ↦ absurd h nofun⟩
      obtain rfl := Except.ok.inj hchain
      exact hall tunnel lastWelcome rfl

/-- Whatever becomes of a run, its tunnels are greeted hops. -/
theorem connectChain_greeted (hhops : hops ≠ []) :
    ∃ carried, Greeted hops finalMode requestedIp clientName outside carried
      (connectChain outside hops finalMode requestedIp clientName).2 := by
  generalize hrun : connectChain outside hops finalMode requestedIp clientName = run
  obtain ⟨result, final⟩ := run
  obtain ⟨hok, herror⟩ := connectChain_cases hhops hrun
  cases result with
  | ok chain =>
    have hconnected := hok chain rfl
    have hinside : chain.tunnel < hops.length := hconnected.last.le
    exact ⟨chain.tunnel, hconnected.established.greeted le_rfl hinside⟩
  | error error => exact (herror error rfl).greeted

/-- The plan of the drivers has the same greetings. -/
theorem connectChain_getElem? (k : ℕ) :
    (Driver.connectChain finalMode requestedIp clientName hops)[k]? =
      (hops[k]?).map fun hop ↦ (hop, greeting hops finalMode requestedIp clientName k hop) := by
  fun_induction Driver.connectChain finalMode requestedIp clientName hops generalizing k with
  | case1 => rfl
  | case2 last =>
    cases k with
    | zero => rfl
    | succ k => rfl
  | case3 hop next rest ih =>
    cases k with
    | zero =>
      rw [List.getElem?_cons_zero, List.getElem?_cons_zero, Option.map_some, greeting,
        if_neg (by simp), if_neg (by simp)]
    | succ k =>
      rw [List.getElem?_cons_succ, List.getElem?_cons_succ, ih]
      simp only [greeting_cons]

/-- A hop is sent the greeting that the drivers have planned for it. -/
theorem connectChain_planned (hhops : hops ≠ []) {k : ℕ} {tunnel : Tunnel}
    (htunnel : (connectChain outside hops finalMode requestedIp clientName).2[k]? = some tunnel) :
    ∃ hop hello, tunnel.sent.head? = some (.hello hello) ∧
      (Driver.connectChain finalMode requestedIp clientName hops)[k]? = some (hop, hello) := by
  obtain ⟨carried, hgreeted⟩ := connectChain_greeted hhops
  obtain ⟨hop, hhop, -, hsent⟩ := hgreeted.hop k tunnel htunnel
  exact ⟨hop, _, by rw [hsent, List.head?_cons],
    by rw [connectChain_getElem?, hhop, Option.map_some]⟩

/-- Every tunnel is made with the fields of its own hop and greeted with its token, whatever the
names, the transports and the servers do; the last hop alone has the mode and the address of the
session, and behind a failure nothing is connected. -/
theorem chain_roles (outside : Outside) (hops : List ServerEntry) (finalMode : SessionMode)
    (requestedIp : Option Ipv4Addr) (clientName : Option String) (hhops : hops ≠ []) :
    ChainRoles hops finalMode requestedIp clientName outside
      (connectChain outside hops finalMode requestedIp clientName) := by
  generalize hrun : connectChain outside hops finalMode requestedIp clientName = run
  obtain ⟨carried, hgreeted⟩ := hrun ▸ connectChain_greeted hhops
  obtain ⟨result, final⟩ := run
  obtain ⟨hok, herror⟩ := connectChain_cases hhops hrun
  refine ⟨fun k tunnel htunnel ↦ hgreeted.told htunnel, fun chain hchain ↦ ?_,
    fun error hfailed ↦ ?_⟩
  · have hconnected := hok chain hchain
    exact ⟨hconnected.last, hconnected.established.length.trans hconnected.last,
      hconnected.welcomed⟩
  · obtain ⟨k, hop, accepted, hhop, hestablished, hleft⟩ := herror error hfailed
    have hinside := (List.getElem?_eq_some_iff.mp hhop).1
    have hanswered : ∀ (j : ℕ) (tunnel : Tunnel), accepted[j]? = some tunnel →
        ∃ welcome, tunnel.received = [.welcome welcome] := by
      intro j tunnel htunnel
      obtain ⟨_, welcome, -, -, -, hreceived⟩ := hestablished.accepted j tunnel htunnel
      exact ⟨welcome, hreceived⟩
    have hcount := hestablished.length
    rcases hleft with rfl | ⟨tunnel, rfl, -, hsent⟩
    · refine ⟨k, hinside, hcount.ge, hcount.le.trans (Nat.le_succ k),
        fun j tunnel _ ↦ hanswered j tunnel, fun tunnel htunnel ↦ ?_⟩
      exact absurd (List.getElem?_eq_some_iff.mp htunnel).1 hcount.le.not_gt
    · have hlength : (accepted ++ [tunnel]).length = k + 1 := by
        rw [List.length_append, hcount, List.length_singleton]
      refine ⟨k, hinside, hlength.ge.trans' (Nat.le_succ k), hlength.le, fun j other hj hother ↦ ?_,
        fun other hother ↦ ?_⟩
      · rw [List.getElem?_append_left (by omega)] at hother
        exact hanswered j other hother
      · rw [← hcount, List.getElem?_concat_length] at hother
        obtain rfl := Option.some.inj hother
        exact ⟨_, hsent⟩

/-- A hop that is dialed by its name, with another name for TLS. -/
def nearServer : ServerEntry where
  name := "near"
  host := "near.example"
  port := 443
  token := "one"
  noisePsk := "AAAAAAAAAAAAAAAAAAAAAAAAAAAAAAAAAAAAAAAAAAA="
  serverName := some "front.example"

/-- A hop with an address for a host, and another key and transport. -/
def farServer : ServerEntry where
  name := "far"
  host := "192.0.2.7"
  port := 8443
  transport := .ws
  token := "two"
  noisePsk := " AQEBAQEBAQEBAQEBAQEBAQEBAQEBAQEBAQEBAQEBAQE=\n"
  tlsSkipVerify := true

/-- The welcome of either hop. -/
def chainWelcome : Welcome where
  sessionId := 0
  assignedIp := 0x0a080002
  prefixLen := 24
  gateway := 0x0a080001
  mtu := 1280
  dns := []
  assignedIp6 := none
  prefix6 := 0
  gateway6 := none
  dns6 := []

/-- Every name resolves, every handshake and every send succeeds, and every hop accepts. -/
def obliging : Outside where
  lookupHost _ _ := .ok [.v4 0x0a000001]
  base64 := strictBase64
  connect _ _ := none
  connectOver _ _ _ := none
  sendFails _ _ _ := none
  recv _ _ := .ok (.welcome chainWelcome)
  debug _ := ""

/-- A name, and behind it an address: each hop with its own key, transport and token. -/
theorem chain_roles_two :
    connectChain obliging [nearServer, farServer] .globalProxy (some 0x0a080002) (some "laptop") =
        (.ok { tunnel := 1, welcome := chainWelcome, firstHopIp := .v4 0x0a000001 },
          [{ endpoint := ⟨"near.example", 443, .tcp, "/et", "front.example"⟩
             security := ⟨⟨List.replicate 32 0, rfl⟩, false, none⟩
             below := none
             sent := [.hello ⟨2, "one", .httpProxy, none, some "laptop", false⟩,
               .streamOpen 1 (.ip ⟨.v4 (ipv4 192 0 2 7), 8443⟩)]
             received := [.welcome chainWelcome] },
            { endpoint := ⟨"192.0.2.7", 8443, .ws, "/et", "192.0.2.7"⟩
              security := ⟨⟨List.replicate 32 1, rfl⟩, true, none⟩
              below := some 0
              sent := [.hello ⟨2, "two", .globalProxy, some 0x0a080002, some "laptop", false⟩]
              received := [.welcome chainWelcome] }]) ∧
      ChainRoles [nearServer, farServer] .globalProxy (some 0x0a080002) (some "laptop") obliging
        (connectChain obliging [nearServer, farServer] .globalProxy (some 0x0a080002)
          (some "laptop")) :=
  ⟨by decide +kernel, chain_roles _ _ _ _ _ (List.cons_ne_nil _ _)⟩

end Roles

end EntroTunnel.Client.Driver.ChainConnect
