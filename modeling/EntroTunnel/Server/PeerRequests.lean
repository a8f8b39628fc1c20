import EntroTunnel.Server.Admin

/-!
# Requests that change the peers

`add_peer` and `del_peer` in one form. A request is refused before it touches the list, or it
changes the list and then writes the file. `handle_eq` gives the outcome in the three cases, and
`unchanged_on_error_iff` the condition under which an error leaves the list as it was. The request
that fails it is one whose change could not be saved: the list has changed, and the same request,
sent again, is refused.
-/

set_option autoImplicit false
set_option relaxedAutoImplicit false

namespace EntroTunnel.Server

open EntroTunnel.Core

/-- `Result<StatusCode, StatusCode>`: the answers on the `Err` side. -/
def StatusCode.isError : StatusCode → Bool
  | .created | .noContent => false
  | .unauthorized | .notFound | .conflict | .internalServerError => true

/-- A request of the admin that changes the list of peers. -/
inductive PeerRequest
  | add (peer : PeerConfig)
  | del (token : String)
  deriving DecidableEq, Repr

namespace PeerRequest

/-- The handler of the request. -/
def handle (context : AdminContext) (config : ServerConfig) :
    PeerRequest → ServerConfig × StatusCode
  | .add peer => addPeer context config peer
  | .del token => delPeer context config token

/-- The request finds something to change: neither the token nor the IP to add is in use, or the
token to delete is. -/
def Changes (peers : List PeerConfig) : PeerRequest → Prop
  | .add peer => ∀ old ∈ peers, old.token ≠ peer.token ∧ old.ip ≠ peer.ip
  | .del token => ∃ old ∈ peers, old.token = token

instance (peers : List PeerConfig) (request : PeerRequest) : Decidable (request.Changes peers) := by
  cases request with
  | add peer => exact inferInstanceAs (Decidable (∀ _ ∈ _, _))
  | del token => exact inferInstanceAs (Decidable (∃ _ ∈ _, _))

/-- The list after the change. -/
def applied (peers : List PeerConfig) : PeerRequest → List PeerConfig
  | .add peer => peers ++ [peer]
  | .del token => peers.filter fun peer ↦ peer.token ≠ token

/-- The answer to a change that was saved. -/
def success : PeerRequest → StatusCode
  | .add _ => .created
  | .del _ => .noContent

/-- The answer to a request that finds nothing to change. -/
def refusal : PeerRequest → StatusCode
  | .add _ => .conflict
  | .del _ => .notFound

@[simp] theorem isError_success (request : PeerRequest) : request.success.isError = false := by
  cases request <;> rfl

@[simp] theorem isError_refusal (request : PeerRequest) : request.refusal.isError = true := by
  cases request <;> rfl

/-- `retain` keeps the number of records exactly when no record has the token. -/
theorem length_filter_eq_iff (peers : List PeerConfig) (token : String) :
    (peers.filter fun peer ↦ peer.token ≠ token).length = peers.length ↔
      ¬ (del token).Changes peers := by
  rw [List.length_filter_eq_length_iff]
  simp [Changes]

/-- A change is never without effect. -/
theorem applied_ne {peers : List PeerConfig} {request : PeerRequest}
    (hchanges : request.Changes peers) : request.applied peers ≠ peers := by
  intro hsame
  have hlength := congrArg List.length hsame
  cases request with
  | add peer =>
    rw [applied, List.length_append, List.length_singleton] at hlength
    omega
  | del token => exact (length_filter_eq_iff peers token).mp hlength hchanges

/-- A change keeps the IPs distinct. -/
theorem nodup_ip_applied {peers : List PeerConfig} {request : PeerRequest}
    (hdistinct : (peers.map fun peer ↦ peer.ip).Nodup) (hchanges : request.Changes peers) :
    ((request.applied peers).map fun peer ↦ peer.ip).Nodup := by
  cases request with
  | add peer =>
    rw [applied, List.map_append, List.nodup_append_comm]
    refine List.nodup_cons.mpr ⟨fun hmem ↦ ?_, hdistinct⟩
    obtain ⟨old, hold, hsame⟩ := List.mem_map.mp hmem
    exact (hchanges old hold).2 hsame
  | del token => exact hdistinct.sublist (List.filter_sublist.map _)

/-- The same request finds nothing to change any more. -/
theorem not_changes_applied (peers : List PeerConfig) (request : PeerRequest) :
    ¬ request.Changes (request.applied peers) := by
  cases request with
  | add peer =>
    intro hfree
    exact (hfree peer (List.mem_append_right _ List.mem_cons_self)).1 rfl
  | del token =>
    rintro ⟨old, hmem, htoken⟩
    rw [applied, List.mem_filter, decide_eq_true_eq] at hmem
    exact hmem.2 htoken

/-- What a request does: it is not authorised, it is refused, or it changes the list and saves it.
-/
theorem handle_eq (context : AdminContext) (config : ServerConfig) (request : PeerRequest) :
    request.handle context config =
      if context.authorized then
        if request.Changes config.peers then
          ({ config with peers := request.applied config.peers }, context.persist request.success)
        else (config, request.refusal)
      else (config, .unauthorized) := by
  cases request with
  | add peer =>
    have hany : (config.peers.any fun old ↦ old.token = peer.token || old.ip = peer.ip) = true ↔
        ¬ (add peer).Changes config.peers := by
      simp only [Changes, List.any_eq_true]
      push Not
      simp [or_iff_not_imp_left]
    by_cases hchanges : (add peer).Changes config.peers
    · rw [handle, addPeer, if_neg (mt hany.mp (not_not.mpr hchanges)), if_pos hchanges]
      rfl
    · rw [handle, addPeer, if_pos (hany.mpr hchanges), if_neg hchanges]
      rfl
  | del token =>
    by_cases hchanges : (del token).Changes config.peers
    · have hlength := mt (length_filter_eq_iff config.peers token).mp (not_not.mpr hchanges)
      rw [handle, delPeer, if_neg hlength, if_pos hchanges]
      rfl
    · have hlength := (length_filter_eq_iff config.peers token).mpr hchanges
      rw [handle, delPeer, if_pos hlength, if_neg hchanges]
      rfl

/-- An error leaves the list of peers as it was, except when the change was made and the file could
not be written. -/
theorem unchanged_on_error_iff (context : AdminContext) (config : ServerConfig)
    (request : PeerRequest) :
    ((request.handle context config).2.isError = true →
        (request.handle context config).1.peers = config.peers) ↔
      (context.authorized = true → request.Changes config.peers → context.saves = true) := by
  rw [handle_eq]
  split_ifs with hauthorized hchanges
  · constructor
    · intro hunchanged _ _
      by_contra hsaves
      have herror : (context.persist request.success).isError = true := by
        rw [AdminContext.persist, if_neg hsaves]
        rfl
      exact applied_ne hchanges (hunchanged herror)
    · intro hsaves herror
      rw [AdminContext.persist, if_pos (hsaves hauthorized hchanges), isError_success] at herror
      cases herror
  · exact ⟨fun _ _ hfound ↦ absurd hfound hchanges, fun _ _ ↦ rfl⟩
  · exact ⟨fun _ htrue ↦ absurd htrue hauthorized, fun _ _ ↦ rfl⟩

/-- A deletion that is answered with an error has deleted the peer. -/
theorem changed_on_error :
    ¬ ∀ (context : AdminContext) (config : ServerConfig) (request : PeerRequest),
      (request.handle context config).2.isError = true →
        (request.handle context config).1.peers = config.peers := by
  intro hall
  exact absurd (hall ⟨true, false⟩ lanServer (del "secret") (by decide)) (by decide)

/-- A change that was answered with an error is refused when it is tried again. -/
theorem retry_refused {context : AdminContext} {config : ServerConfig} {request : PeerRequest}
    (hauthorized : context.authorized = true) (hchanges : request.Changes config.peers)
    (later : AdminContext) (hlater : later.authorized = true) :
    (request.handle later (request.handle context config).1).2 = request.refusal := by
  have hfirst : (request.handle context config).1.peers = request.applied config.peers := by
    rw [handle_eq, if_pos hauthorized, if_pos hchanges]
  rw [handle_eq, if_pos hlater, hfirst, if_neg (not_changes_applied config.peers request)]

end PeerRequest

end EntroTunnel.Server
