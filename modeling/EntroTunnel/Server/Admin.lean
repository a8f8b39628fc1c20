import EntroTunnel.Server.Connections

/-!
# The web admin

The two requests of `server/src/web.rs` that change the configuration. Each changes the list of
peers in memory first and writes the file then (`persist`), so a file that cannot be written turns
the answer into an error and leaves the change. Nothing else changes the configuration of a running
server, and sessions are not told.
-/

set_option autoImplicit false
set_option relaxedAutoImplicit false

namespace EntroTunnel.Server

open EntroTunnel.Core EntroTunnel.Foundation

/-- The answer to an admin request. -/
inductive StatusCode
  | created
  | noContent
  | unauthorized
  | notFound
  | conflict
  | internalServerError
  deriving DecidableEq, Repr

/-- What the handlers see besides the request itself: whether the request carries the admin token,
and whether the file can be written. -/
structure AdminContext where
  authorized : Bool
  saves : Bool
  deriving DecidableEq, Repr

/-- `persist`, after a change that answers with `status`. -/
def AdminContext.persist (context : AdminContext) (status : StatusCode) : StatusCode :=
  if context.saves then status else .internalServerError

/-- `add_peer`. -/
def addPeer (context : AdminContext) (config : ServerConfig) (peer : PeerConfig) :
    ServerConfig × StatusCode :=
  if context.authorized then
    if config.peers.any fun old ↦ old.token = peer.token || old.ip = peer.ip then
      (config, .conflict)
    else ({ config with peers := config.peers ++ [peer] }, context.persist .created)
  else (config, .unauthorized)

/-- `del_peer`. -/
def delPeer (context : AdminContext) (config : ServerConfig) (token : String) :
    ServerConfig × StatusCode :=
  if context.authorized then
    let peers := config.peers.filter fun peer ↦ peer.token ≠ token
    if peers.length = config.peers.length then (config, .notFound)
    else ({ config with peers }, context.persist .noContent)
  else (config, .unauthorized)

/-- A step of a server with its web admin. -/
inductive AdminAction
  | server (action : ServerAction)
  | addPeer (context : AdminContext) (peer : PeerConfig)
  | delPeer (context : AdminContext) (token : String)

namespace AppState

/-- One step; the configuration changes by the two requests only. -/
def adminStep (state : AppState) : AdminAction → Option AppState
  | .server (.reconfigure _) => none
  | .server action => state.step action
  | .addPeer context peer => state.step (.reconfigure (addPeer context state.config peer).1)
  | .delPeer context token => state.step (.reconfigure (delPeer context state.config token).1)

variable {state next : AppState}

/-- What an admin step is: a step that keeps the configuration, or a change of the peers. -/
theorem adminStep_cases {action : AdminAction} (hstep : state.adminStep action = some next) :
    (∃ inner, action = .server inner ∧ state.step inner = some next ∧ next.config = state.config) ∨
      (∃ context peer, action = .addPeer context peer ∧
        next = { state with config := (addPeer context state.config peer).1 }) ∨
      ∃ context token, action = .delPeer context token ∧
        next = { state with config := (delPeer context state.config token).1 } := by
  cases action with
  | server inner =>
    have hinner : state.step inner = some next ∧ ∀ config, inner ≠ .reconfigure config := by
      cases inner with
      | reconfigure config => exact absurd hstep nofun
      | _ => exact ⟨hstep, by simp⟩
    refine .inl ⟨inner, rfl, hinner.1, ?_⟩
    cases stepped_of_step hinner.1 with
    | reconfigure config => exact absurd rfl (hinner.2 config)
    | _ => rfl
  | addPeer context peer =>
    exact .inr (.inl ⟨context, peer, rfl, (Option.some.inj hstep).symm⟩)
  | delPeer context token =>
    exact .inr (.inr ⟨context, token, rfl, (Option.some.inj hstep).symm⟩)

/-- Every admin step is a step of the server. -/
theorem step_of_adminStep {action : AdminAction} (hstep : state.adminStep action = some next) :
    ∃ inner, state.step inner = some next := by
  obtain ⟨inner, -, hinner, -⟩ | ⟨context, peer, -, rfl⟩ | ⟨context, token, -, rfl⟩ :=
    adminStep_cases hstep
  · exact ⟨inner, hinner⟩
  · exact ⟨.reconfigure _, rfl⟩
  · exact ⟨.reconfigure _, rfl⟩

end AppState

/-! ### What the requests keep -/

section Requests

variable (context : AdminContext) (config : ServerConfig)

theorem addPeer_network (peer : PeerConfig) :
    (addPeer context config peer).1.network = config.network := by
  unfold addPeer
  split_ifs <;> rfl

theorem delPeer_network (token : String) :
    (delPeer context config token).1.network = config.network := by
  unfold delPeer
  dsimp only
  split_ifs <;> rfl

/-- No record is lost by `add_peer`. -/
theorem mem_addPeer {old : PeerConfig} (peer : PeerConfig) (hold : old ∈ config.peers) :
    old ∈ (addPeer context config peer).1.peers := by
  unfold addPeer
  split_ifs
  · exact hold
  · exact List.mem_append_left _ hold
  · exact hold

/-- `del_peer` takes away no record but those with the token, and only when it is authorised. -/
theorem mem_delPeer {old : PeerConfig} (token : String) (hold : old ∈ config.peers) :
    old ∈ (delPeer context config token).1.peers ∨
      (context.authorized = true ∧ token = old.token) := by
  unfold delPeer
  dsimp only
  split_ifs with hauthorized hnone
  · exact .inl hold
  · by_cases htoken : old.token = token
    · exact .inr ⟨hauthorized, htoken.symm⟩
    · exact .inl (List.mem_filter.mpr ⟨hold, by simpa using htoken⟩)
  · exact .inl hold

end Requests

end EntroTunnel.Server
