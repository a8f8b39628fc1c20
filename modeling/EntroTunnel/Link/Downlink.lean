import EntroTunnel.Link.LinkRest
import EntroTunnel.Link.LinkWork

/-!
# The response of a stream

What a local application gets of the bytes that the remote host sends. The relay task of a stream
ends when the client has closed the stream and its queue is drained, and aborts the down task then;
nothing tells the client. So a response is cut short when the relay task ends first, and the handler
waits for ever. In every run in which it does not (`Patient`), what was written is a prefix of the
response, and in a link at rest a response that the remote host has closed is written as a whole and
the connection is over (`response_delivered`).

`halfClose_cuts_response` is a run in which the application closes its sending direction after its
request, and gets nothing of the response.
-/

set_option autoImplicit false
set_option relaxedAutoImplicit false

namespace EntroTunnel.Link

open EntroTunnel.Core EntroTunnel.Foundation EntroTunnel.Client EntroTunnel.Server

/-- The steps with which the relay task of a connected stream ends. -/
def endsRelay : RemoteAction → Bool
  | .finish | .writeFailed => true
  | _ => false

/-- The relay task does not end before the down task, as long as the client has the stream in its
table. -/
def Patient (_ : Bool) (view : StreamView) : StreamLabel → Prop
  | .remote action =>
    endsRelay action = true → view.registered = true →
      ∀ stream ∈ view.remote, stream.down = .finished
  | _ => True

instance (allow : Bool) (view : StreamView) (label : StreamLabel) :
    Decidable (Patient allow view label) :=
  match label with
  | .remote _ => inferInstanceAs (Decidable (_ → _ → _))
  | .conn _ | .arrive _ | .demux | .hand => inferInstanceAs (Decidable True)

/-- The down task of a stream in the client's table is not cut off, and a handler that is over has
left no uplink task. -/
structure Uncut (view : StreamView) : Prop where
  down : view.registered = true → ∀ stream ∈ view.remote, stream.down ≠ .aborted
  uplink : view.conn.phase = .done → view.conn.uplink = .finished ∨ view.conn.uplink = .aborted

section Patient

variable {allow : Bool} {view next : StreamView} {label : StreamLabel}

theorem uncut_fresh (view : StreamView) (hfresh : Fresh view) : Uncut view := by
  refine ⟨fun _ stream hstream ↦ ?_, fun hdone ↦ ?_⟩
  · cases hfresh.remote.symm.trans hstream
  · have hphase := hfresh.fresh
    rw [LocalConn.fresh, hdone] at hphase
    cases hphase

/-- A handler that parses its request head has no stream on the server. -/
theorem remote_of_parsing (hinvariant : StreamInv allow view) {buf : Bytes}
    (hphase : view.conn.phase = .parsing buf) : view.remote = none := by
  have hfresh : view.conn.fresh = true := by rw [LocalConn.fresh, hphase]
  cases hinvariant with
  | fresh h => exact h.remote
  | requested h => cases hfresh.symm.trans h.fresh
  | arrived h => cases hfresh.symm.trans h.fresh

/-- The uplink task of a handler that is over. -/
theorem uplink_of_stepped {conn after : LocalConn} {action : LocalAction} {effect : LocalEffect}
    (hover : conn.phase = .done → conn.uplink = .finished ∨ conn.uplink = .aborted)
    (hstep : conn.Stepped action after effect) :
    after.phase = .done → after.uplink = .finished ∨ after.uplink = .aborted := by
  have habort : conn.uplink.abort = .finished ∨ conn.uplink.abort = .aborted := by
    cases conn.uplink <;> simp [UplinkPhase.abort]
  cases hstep with
  | read count buf hphase =>
    cases headStep buf (conn.inbound.take count) <;> simp [LocalConn.parsed]
  | openStream target forward =>
    simp only [LocalConn.opened]
    split_ifs <;> simp [LocalConn.serve]
  | takeClose | endOfInput | deliverFailed => exact fun _ ↦ habort
  | upRead _ huplink | upEof huplink | upFailed huplink | upSend _ huplink =>
    intro hdone
    have hbefore := hover hdone
    simp [huplink] at hbefore
  | upClose => exact fun _ ↦ .inl rfl
  | localSends | localCloses | localResets => exact hover
  | _ => simp [LocalConn.serve]

/-- The down task is cut off only when the relay task ends first. -/
theorem down_of_stepped {stream after : RemoteStream} {action : RemoteAction} {frame : Option Frame}
    (hstep : stream.Stepped true action after frame)
    (hends : endsRelay action = true → stream.down = .finished) (hdown : stream.down ≠ .aborted) :
    after.down ≠ .aborted := by
  cases hstep with
  | finish | writeFailed =>
    have hfinished := hends rfl
    simp [RemoteStream.stop, hfinished, DownPhase.abort]
  | dialFailed | refuse | take | write | written | remoteSends | remoteCloses | remoteResets =>
    exact hdown
  | _ => simp

/-- The session hands data over or drops its end of a queue; the tasks of the stream stay. -/
theorem exists_before {remote : Option RemoteStream} {inTable : Bool}
    (change : RemoteStream → RemoteStream)
    (hchange : ∀ stream, (change stream).down = stream.down ∧ (change stream).relay = stream.relay)
    {stream : RemoteStream} (hstream : stream ∈ if inTable then remote.map change else remote) :
    ∃ before ∈ remote, stream.down = before.down ∧ stream.relay = before.relay := by
  split_ifs at hstream
  · obtain ⟨before, hbefore, rfl⟩ := Option.map_eq_some_iff.mp hstream
    exact ⟨before, hbefore, hchange before⟩
  · exact ⟨stream, hstream, rfl, rfl⟩

theorem uncut_step (view : StreamView) (label : StreamLabel) (next : StreamView)
    (hinvariant : StreamInv allow view) (huncut : Uncut view) (hpatient : Patient allow view label)
    (hstep : view.Step allow label next) : Uncut next := by
  cases hstep with
  | conn hstep =>
    rename_i action conn effect
    have huplink := uplink_of_stepped huncut.uplink hstep
    cases effect with
    | none | emit frame => exact ⟨huncut.down, huplink⟩
    | register =>
      obtain ⟨buf, hparsing⟩ := (ProxyLink.own_of_stepped hstep).2
      refine ⟨fun _ stream hstream ↦ ?_, huplink⟩
      cases (remote_of_parsing hinvariant hparsing).symm.trans hstream
    | unregister => exact ⟨nofun, huplink⟩
  | remote hremote hstep =>
    refine ⟨fun hregistered stream hstream ↦ ?_, huncut.uplink⟩
    obtain rfl := Option.some.inj hstream
    exact down_of_stepped hstep (fun hends ↦ hpatient hends hregistered _ hremote)
      (huncut.down hregistered _ hremote)
  | opened target rest place =>
    refine ⟨fun _ stream hstream ↦ ?_, huncut.uplink⟩
    obtain rfl := Option.some.inj hstream
    exact nofun
  | data bytes rest =>
    refine ⟨fun hregistered stream hstream ↦ ?_, huncut.uplink⟩
    obtain ⟨before, hbefore, hdown, -⟩ := exists_before (·.push bytes) (fun _ ↦ ⟨rfl, rfl⟩) hstream
    exact hdown ▸ huncut.down hregistered before hbefore
  | closed error rest =>
    refine ⟨fun hregistered stream hstream ↦ ?_, huncut.uplink⟩
    obtain ⟨before, hbefore, hdown, -⟩ := exists_before .dropSender (fun _ ↦ ⟨rfl, rfl⟩) hstream
    exact hdown ▸ huncut.down hregistered before hbefore
  | refused | demuxData | dropped => exact ⟨huncut.down, huncut.uplink⟩
  | demuxClose => exact ⟨nofun, huncut.uplink⟩
  | hand msg inbox hheld hsend =>
    obtain ⟨after, hreceived, -⟩ := received_eq view.conn msg inbox
    rw [hreceived]
    exact ⟨huncut.down, huncut.uplink⟩

/-- A stream that the session has opened is served. -/
theorem Arrived.serves (harrived : Arrived allow view) {stream : RemoteStream}
    (hstream : view.remote = some stream) : Served view stream := by
  have hallow : allow = true := by
    by_contra hallow
    cases (harrived.refused (Bool.eq_false_iff.mpr hallow)).1.symm.trans hstream
  obtain ⟨served, hserved, hold⟩ := harrived.served hallow
  obtain rfl := Option.some.inj (hstream.symm.trans hserved)
  exact hold

/-- Nothing but the response is written to an application, after the proxy's own answer. -/
theorem StreamInv.output_le (hinvariant : StreamInv allow view) {stream : RemoteStream}
    (hstream : view.remote = some stream) :
    view.conn.output <+: view.conn.answer ++ stream.sent := by
  cases hinvariant with
  | fresh h => cases h.remote.symm.trans hstream
  | requested h => cases h.remote.symm.trans hstream
  | arrived h =>
    have hold := h.serves hstream
    cases hreceiving : view.conn.receiving with
    | true =>
      exact (output_prefix_outward _).trans
        ((List.prefix_append _ _).trans (hold.live hreceiving).balanced.le)
    | false => exact (hold.dead hreceiving).output_le

/-- A stream at rest whose remote host has closed: all of its response is written, and the
connection is over. -/
theorem delivered_of_rest (hinvariant : StreamInv allow view) (huncut : Uncut view)
    (hdown : view.down = []) (hheld : view.held = none) (hidle : view.conn.idle = true)
    {stream : RemoteStream} (hstream : view.remote = some stream)
    (hidleStream : Hop.idleStream stream = true) (heof : stream.inboundEof = true)
    (hreset : stream.reset = false) (hwrite : view.conn.writeFailed = false) :
    view.conn.output = view.conn.answer ++ stream.sent ∧ view.conn.phase = .done := by
  cases hinvariant with
  | fresh h => cases h.remote.symm.trans hstream
  | requested h => cases h.remote.symm.trans hstream
  | arrived h =>
    have hold := h.serves hstream
    have habsent : stream.down ≠ .absent := fun habsent ↦
      absurd (heof.symm.trans (hold.tasks.unconnected habsent).1) nofun
    have hreported : stream.reported = true → stream.down = .finished := by
      intro hreported
      simpa [RemoteStream.reported, habsent] using hreported
    cases hreceiving : view.conn.receiving with
    | true =>
      -- The handler waits for a message, and the stream has not reported its end.
      have hwaiting : view.conn.inbox.items = [] := by
        by_contra hitems
        obtain ⟨action, hinternal, -, hstep⟩ :=
          LocalConn.exists_step_of_receiving hreceiving fun _ ↦ hitems
        rw [LocalConn.step_idle hidle hinternal] at hstep
        cases hstep
      have hmessages : view.messages = [] := by
        simp [StreamView.messages, hwaiting, hheld, hdown]
      have hlive := hold.live hreceiving
      rw [hmessages] at hlive
      have hopen : stream.reported ≠ true := fun hreported ↦
        absurd (hlive.reported.mpr hreported) List.not_mem_nil
      have hregistered : view.registered = true := by
        by_contra hregistered
        exact absurd (hlive.silent (Bool.eq_false_iff.mpr hregistered)).2 List.not_mem_nil
      have haborted := huncut.down hregistered stream hstream
      have hfinished : stream.down ≠ .finished := fun hfinished ↦
        hopen (by simp [RemoteStream.reported, hfinished])
      simp only [Hop.idleStream, Bool.and_eq_true] at hidleStream
      cases hphase : stream.down <;> simp [hphase, heof] at hidleStream habsent haborted hfinished
    | false =>
      have hdone := (h.ended hreceiving).resolve_right (by simp [hwrite])
      have hdead := hold.dead hreceiving
      have hfinished := hreported (hdead.reported hdone (by simp [hwrite]))
      exact ⟨hdead.all hdone (by simp [hwrite]) hfinished hreset, hdone⟩

end Patient

namespace ProxyLink

/-- In every run whose relay tasks end after the down tasks: what an application gets is a prefix of
the response, after the proxy's own answer to `CONNECT`; the tasks of the link come to rest; and
then a response that the remote host closed is delivered as a whole to an application that keeps
reading, and its connection is over. -/
theorem response_delivered {peer : PeerConfig} {hello : Hello} {hasTun : Bool}
    {actions : List LinkAction} {final : ProxyLink}
    (hrun : run (guarded (Meets Patient) ProxyLink.step) (start peer hello hasTun) actions =
      some final)
    {place : ℕ} {conn : LocalConn} (hconn : final.client.conns[place]? = some conn)
    {stream : RemoteStream} (hstream : stream ∈ final.session.remotes)
    (hid : stream.id = conn.id) :
    conn.output <+: conn.answer ++ stream.sent ∧
      (∀ internal rest, (∀ action ∈ internal, action.Internal = true) →
        run ProxyLink.step final internal = some rest → internal.length ≤ final.work) ∧
      (final.Quiescent → stream.inboundEof = true → stream.reset = false →
        conn.writeFailed = false →
          conn.output = conn.answer ++ stream.sent ∧ conn.phase = .done ∧
            (conn.uplink = .finished ∨ conn.uplink = .aborted)) := by
  have hsound := streams_of_run uncut_fresh uncut_step rfl hrun
  have hplace := (List.getElem?_eq_some_iff.mp hconn).1.trans_le hsound.numbered.count
  obtain ⟨hinvariant, huncut⟩ := hsound.streams place hplace
  have hown : (final.view place).conn = conn := connAt_eq hconn
  have hremote : (final.view place).remote = some stream := by
    refine hsound.numbered.remote_eq hstream (hid.trans ?_)
    rw [← hsound.numbered.conns place, connAt_eq hconn]
  refine ⟨?_, fun internal rest hinternal hrest ↦ ?_, fun hquiescent heof hreset hwrite ↦ ?_⟩
  · rw [← hown]
    exact hinvariant.output_le hremote
  · exact (Nat.le_add_right _ _).trans (internal_length_le hinternal hrest)
  · have hidle := hquiescent.idle hsound.numbered hsound.aimed fun index hindex ↦
      (hsound.streams index hindex).1
    obtain ⟨-, hdown, hheld, hidleConn, hidleStream⟩ := rest_of_idle hidle place
    obtain ⟨hall, hdone⟩ := delivered_of_rest hinvariant huncut hdown hheld hidleConn hremote
      (hidleStream stream hremote) heof hreset (hown ▸ hwrite)
    rw [hown] at hall hdone
    exact ⟨hall, hdone, hown ▸ huncut.uplink (hown ▸ hdone)⟩

/-! ### Runs -/

section Example

def proxyLink : ProxyLink := .start lanPeer (lanHello .httpProxy) false

/-- A request head that is forwarded as it is. -/
def getHead : Bytes := "GET http://h/ HTTP/1.1\r\n\r\n".toUTF8.data.toList

/-- An application connects and sends a request, which is forwarded to the remote host. -/
def requestRun : List LinkAction :=
  [.client .accept, .client (.conn 0 (.localSends getHead)), .client (.conn 0 (.read 26)),
    .client (.conn 0 .openStream), .client (.conn 0 .forwardHead), .client .send, .client .send,
    .toServer [], .remote 0 .dialed, .toServer [], .remote 0 .take, .remote 0 (.write 26),
    .remote 0 .written]

/-- The application closes its sending direction, and the session reads the `StreamClose`. -/
def halfCloseRun : List LinkAction :=
  [.client (.conn 0 .localCloses), .client (.conn 0 .upEof), .client (.conn 0 .upClose),
    .client .send, .toServer []]

/-- The remote host answers with a byte and closes. -/
def answerRun : List LinkAction :=
  [.remote 0 (.remoteSends [7]), .remote 0 .remoteCloses]

/-- The down task forwards the answer, and the handler writes it. -/
def forwardRun : List LinkAction :=
  [.remote 0 (.read 1), .remote 0 .forward, .remote 0 .readEof, .remote 0 .close, .sessionSend,
    .sessionSend]

def deliveryRun : List LinkAction :=
  [.toClient, .client .hand, .toClient, .client .hand, .client (.conn 0 .take),
    .client (.conn 0 (.deliver 1)), .client (.conn 0 .delivered), .client (.conn 0 .takeClose)]

/-- The end of a run with one connection, checked. -/
theorem exists_final {actions : List LinkAction}
    {step : ProxyLink → LinkAction → Option ProxyLink}
    {check : LocalConn → RemoteStream → Bool}
    (hcheck : (run step proxyLink actions).any (fun final ↦ final.idle &&
      final.client.conns[0]?.any fun conn ↦ final.session.remotes[0]?.any fun stream ↦
        stream.id = conn.id && check conn stream) = true) :
    ∃ final conn stream, run step proxyLink actions = some final ∧ final.Quiescent ∧
      final.client.conns[0]? = some conn ∧ stream ∈ final.session.remotes ∧ stream.id = conn.id ∧
        check conn stream = true := by
  obtain ⟨final, hrun, hfinal⟩ := (Option.any_eq_true _ _).mp hcheck
  obtain ⟨hidle, hconns⟩ := (Bool.and_eq_true _ _).mp hfinal
  obtain ⟨conn, hconn, hremotes⟩ := (Option.any_eq_true _ _).mp hconns
  obtain ⟨stream, hstream, hfacts⟩ := (Option.any_eq_true _ _).mp hremotes
  obtain ⟨hid, hcheck⟩ := (Bool.and_eq_true _ _).mp hfacts
  exact ⟨final, conn, stream, hrun, quiescent_of_idle hidle, hconn, List.mem_of_getElem? hstream,
    of_decide_eq_true hid, hcheck⟩

/-- A response that the down task has forwarded before the half-close is read. -/
theorem response_delivered_forwarded :
    ∃ final conn stream,
      run (guarded (Meets Patient) ProxyLink.step) proxyLink
        (requestRun ++ answerRun ++ forwardRun ++ halfCloseRun ++ [.remote 0 .finish] ++
          deliveryRun) = some final ∧
        final.client.conns[0]? = some conn ∧ stream ∈ final.session.remotes ∧ stream.sent = [7] ∧
          conn.output = conn.answer ++ stream.sent ∧ conn.phase = .done := by
  obtain ⟨final, conn, stream, hrun, hquiescent, hconn, hstream, hid, hfacts⟩ := @exists_final
    (requestRun ++ answerRun ++ forwardRun ++ halfCloseRun ++ [.remote 0 .finish] ++ deliveryRun)
    (guarded (Meets Patient) ProxyLink.step)
    (fun conn stream ↦ stream.inboundEof && !stream.reset && !conn.writeFailed &&
      stream.sent = [7]) (by decide +kernel)
  simp only [Bool.and_eq_true, Bool.not_eq_true', decide_eq_true_iff] at hfacts
  obtain ⟨⟨⟨heof, hreset⟩, hwrite⟩, hsent⟩ := hfacts
  obtain ⟨hall, hdone, -⟩ :=
    (response_delivered hrun hconn hstream hid).2.2 hquiescent heof hreset hwrite
  exact ⟨final, conn, stream, hrun, hconn, hstream, hsent, hall, hdone⟩

/-- An application that half-closes before the response gets nothing, and its connection waits. -/
theorem halfClose_cuts_response :
    ¬ ∀ (peer : PeerConfig) (hello : Hello) (hasTun : Bool) (actions : List LinkAction)
      (final : ProxyLink) (place : ℕ) (conn : LocalConn) (stream : RemoteStream),
      run ProxyLink.step (start peer hello hasTun) actions = some final →
        final.client.conns[place]? = some conn → stream ∈ final.session.remotes →
          stream.id = conn.id → final.Quiescent → stream.inboundEof = true →
            stream.reset = false → conn.reset = false → conn.writeFailed = false →
              conn.output = conn.answer ++ stream.sent ∧ conn.phase = .done := by
  intro hall
  obtain ⟨final, conn, stream, hrun, hquiescent, hconn, hstream, hid, hfacts⟩ := @exists_final
    (requestRun ++ halfCloseRun ++ answerRun ++ [.remote 0 .finish]) ProxyLink.step
    (fun conn stream ↦ stream.inboundEof && !stream.reset && !conn.reset && !conn.writeFailed &&
      conn.phase = .waiting) (by decide +kernel)
  simp only [Bool.and_eq_true, Bool.not_eq_true', decide_eq_true_iff] at hfacts
  obtain ⟨⟨⟨⟨heof, hreset⟩, hconnReset⟩, hwrite⟩, hwaiting⟩ := hfacts
  have hdone := (hall _ _ _ _ final 0 conn stream hrun hconn hstream hid hquiescent heof hreset
    hconnReset hwrite).2
  cases hwaiting.symm.trans hdone

end Example

end ProxyLink

end EntroTunnel.Link
