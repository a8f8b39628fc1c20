import EntroTunnel.Link.StreamTables

/-!
# Isolation of streams

Where the bytes of a stream come from. `StreamView.outgoing` are the bytes that have been written to
the remote socket of a stream or can still get there, and `Owned` says that the application of its
own connection has sent all of them, that the remote socket is dialed for the target of its own
`StreamOpen`, and that what the handler has written or can still write was read from this socket,
after the proxy's own answer to `CONNECT`.

`isolated_of_run` proves it of every stream in every run with fewer connections than ids, and
`streams_isolated` puts the streams together: a remote socket belongs to one connection, and a step
moves nothing but the stream that it concerns.
-/

set_option autoImplicit false
set_option relaxedAutoImplicit false

namespace EntroTunnel.Client.LocalConn

open EntroTunnel.Core

/-- What the handler has of its application's bytes. -/
def headBytes (conn : LocalConn) : Bytes :=
  match conn.phase with
  | .parsing buf => buf
  | .opening _ forward => forward
  | .forwarding data => data
  | _ => []

/-- What the uplink task has of them. -/
def uplinkBytes (conn : LocalConn) : Bytes :=
  match conn.uplink with
  | .sending data => data
  | _ => []

/-- The application's bytes that are not queued yet. -/
def pending (conn : LocalConn) : Bytes :=
  conn.headBytes ++ conn.uplinkBytes ++ conn.inbound

/-- The uplink task is not there before the handler has queued what it has. -/
def Early (conn : LocalConn) : Prop :=
  conn.headBytes ≠ [] → conn.uplink = .absent

end EntroTunnel.Client.LocalConn

namespace EntroTunnel.Server.RemoteStream

open EntroTunnel.Core

/-- What the relay task has in its hand. -/
def relayBytes (stream : RemoteStream) : Bytes :=
  match stream.relay with
  | .writing rest => rest
  | _ => []

/-- What was written to the remote socket, and what can still be. -/
def outgoing (stream : RemoteStream) : Bytes :=
  stream.written ++ stream.relayBytes ++ stream.inbox.items.flatten

end EntroTunnel.Server.RemoteStream

namespace EntroTunnel.Link

open EntroTunnel.Core EntroTunnel.Foundation EntroTunnel.Client EntroTunnel.Server

/-- The bytes that a frame carries to the remote host. -/
def sentBytes : Frame → Bytes
  | .streamData _ data => data
  | _ => []

/-- The bytes that frames carry to the remote host. -/
def payloads (frames : List Frame) : Bytes :=
  frames.flatMap sentBytes

/-- What an application sends in a step of its connection. -/
def sentIn : LocalAction → Bytes
  | .localSends data => data
  | _ => []

/-- What an application sends in a step of its stream. -/
def StreamLabel.sent : StreamLabel → Bytes
  | .conn action => sentIn action
  | _ => []

namespace StreamView

/-- The bytes on their way from the application to the remote socket, with those that are there. -/
def outgoing (view : StreamView) : Bytes :=
  (view.remote.map RemoteStream.outgoing).getD [] ++ payloads view.up ++ view.conn.pending

/-- How many bytes the handler has written, or writes when it has taken what is on its way. -/
def incoming (view : StreamView) : ℕ :=
  if view.conn.receiving then (view.conn.outward ++ bytesOf view.messages).length
  else view.conn.output.length

end StreamView

@[simp] theorem payloads_nil : payloads [] = [] := rfl

@[simp] theorem payloads_append (first second : List Frame) :
    payloads (first ++ second) = payloads first ++ payloads second :=
  List.flatMap_append

@[simp] theorem payloads_data (id : StreamId) (data : Bytes) (rest : List Frame) :
    payloads (.streamData id data :: rest) = data ++ payloads rest := rfl

@[simp] theorem payloads_open (id : StreamId) (target : TargetAddr) (rest : List Frame) :
    payloads (.streamOpen id target :: rest) = payloads rest := rfl

@[simp] theorem payloads_close (id : StreamId) (error : Option String) (rest : List Frame) :
    payloads (.streamClose id error :: rest) = payloads rest := rfl

/-! ### To the remote socket -/

section Outgoing

variable {conn after : LocalConn} {action : LocalAction} {effect : LocalEffect}

/-- A request head is forwarded as it was read, or discarded. -/
theorem forward_of_headStep {buf chunk forward : Bytes} {target : TargetAddr} {isConnect : Bool}
    (hhead : headStep buf chunk = .done target isConnect forward) :
    forward = [] ∨ forward = buf ++ chunk := by
  rw [forward_eq_of_headStep hhead]
  split_ifs
  · exact Or.inl rfl
  · exact Or.inr rfl

theorem early_of_stepped (hfresh : conn.fresh = true → conn.uplink = .absent)
    (hearly : conn.Early) (hstep : conn.Stepped action after effect) : after.Early := by
  unfold LocalConn.Early LocalConn.headBytes at hearly ⊢
  cases hstep with
  | read count buf hphase =>
    have habsent : conn.uplink = .absent := hfresh (by rw [LocalConn.fresh, hphase])
    cases headStep buf (conn.inbound.take count) <;> exact fun _ ↦ habsent
  | openStream target forward hphase =>
    have habsent : conn.uplink = .absent := hfresh (by rw [LocalConn.fresh, hphase])
    unfold LocalConn.opened
    split_ifs
    · exact fun _ ↦ habsent
    · exact fun _ ↦ habsent
    · exact fun h ↦ absurd rfl h
  | upRead count huplink | upEof huplink | upFailed huplink | upSend data huplink
  | upClose huplink =>
    intro hbytes
    rw [huplink] at hearly
    cases hearly hbytes
  | localSends | localCloses | localResets => exact hearly
  | _ => exact fun h ↦ absurd rfl h

/-- A step moves the bytes of the application on, or drops them. -/
theorem pending_of_stepped (hfresh : conn.fresh = true → conn.uplink = .absent)
    (hearly : conn.Early) (hstep : conn.Stepped action after effect) :
    (payloads (emitted effect) ++ after.pending).Sublist (conn.pending ++ sentIn action) := by
  unfold LocalConn.pending LocalConn.headBytes LocalConn.uplinkBytes
  cases hstep with
  | read count buf hphase =>
    have habsent : conn.uplink = .absent := hfresh (by rw [LocalConn.fresh, hphase])
    have hdrop : (conn.inbound.drop count).Sublist conn.inbound := List.drop_sublist ..
    cases hhead : headStep buf (conn.inbound.take count) with
    | more buf' =>
      obtain rfl := more_of_headStep hhead
      simp [LocalConn.parsed, hphase, habsent, emitted, sentIn]
    | done target isConnect forward =>
      obtain rfl | rfl := forward_of_headStep hhead
      · simpa [LocalConn.parsed, hphase, habsent, emitted, sentIn] using
          hdrop.trans (List.sublist_append_right buf conn.inbound)
      · simp [LocalConn.parsed, hphase, habsent, emitted, sentIn]
    | failed error =>
      simpa [LocalConn.parsed, hphase, habsent, emitted, sentIn] using
        hdrop.trans (List.sublist_append_right buf conn.inbound)
  | openStream target forward hphase =>
    have habsent : conn.uplink = .absent := hfresh (by rw [LocalConn.fresh, hphase])
    unfold LocalConn.opened LocalConn.serve
    split_ifs <;> simp [hphase, habsent, emitted, sentIn]
  | upSend data huplink =>
    have hhead : conn.headBytes = [] := by
      by_contra hbytes
      cases huplink.symm.trans (hearly hbytes)
    unfold LocalConn.headBytes at hhead
    simp [hhead, huplink, emitted, sentIn]
  | upRead count huplink => simp [huplink, emitted, sentIn]
  | upEof huplink | upFailed huplink | upClose huplink => simp [huplink, emitted, sentIn]
  | forwardHead data hphase =>
    simp [hphase, emitted, sentIn, LocalConn.serve]
  | greeted hphase =>
    simp [hphase, emitted, sentIn, LocalConn.serve]
  | takeClose rest hphase | endOfInput hphase =>
    cases huplink : conn.uplink <;>
      simp [hphase, huplink, emitted, sentIn, LocalConn.finish, UplinkPhase.abort]
  | deliverFailed byte rest hphase =>
    cases huplink : conn.uplink <;>
      simp [hphase, huplink, emitted, sentIn, LocalConn.finish, UplinkPhase.abort]
  | readEof buf hphase | readFailed buf hphase | greet count rest hphase
  | greetFailed byte rest hphase | take data rest hphase | deliver count rest hphase
  | delivered hphase =>
    simp [hphase, emitted, sentIn]
  | localSends | localCloses | localResets => simp [emitted, sentIn]

/-- A step of the relay task or of the remote host. -/
theorem outgoing_of_stepped {stream next : RemoteStream} {action : RemoteAction}
    {frame : Option Frame} (hstep : stream.Stepped true action next frame) :
    next.outgoing.Sublist stream.outgoing := by
  have hstop (listed : Bytes) : (stream.written ++ [] ++ ([] : List Bytes).flatten).Sublist
      (stream.written ++ listed ++ stream.inbox.items.flatten) := by
    rw [List.append_nil, List.flatten_nil, List.append_nil, List.append_assoc]
    exact List.sublist_append_left ..
  unfold RemoteStream.outgoing RemoteStream.relayBytes
  cases hstep with
  | dialed hrelay | dialFailed error hrelay | written hrelay => simp [hrelay]
  | take data rest hrelay hrecv => simp [hrelay, (Channel.recv_eq_item hrecv).1]
  | write count rest hrelay hcount => simp [hrelay]
  | refuse | writeFailed | finish => exact hstop _
  | _ => exact List.Sublist.refl _

/-- The session hands bytes over, or drops them. -/
theorem outgoing_push (stream : RemoteStream) (bytes : Bytes) :
    (stream.push bytes).outgoing.Sublist (stream.outgoing ++ bytes) := by
  unfold RemoteStream.outgoing RemoteStream.relayBytes RemoteStream.push
  rw [Channel.items_offer]
  split_ifs
  · simp
  · simp

variable {allow : Bool} {view next : StreamView} {label : StreamLabel}

/-- The uplink task of a connection that has not opened its stream. -/
theorem StreamInv.absent (hinvariant : StreamInv allow view) (hfresh : view.conn.fresh = true) :
    view.conn.uplink = .absent := by
  cases hinvariant with
  | fresh h => exact h.uplink
  | requested h => cases hfresh.symm.trans h.fresh
  | arrived h => cases hfresh.symm.trans h.fresh

/-- A step of a stream moves its bytes on, or drops them; there are no others. -/
theorem outgoing_of_step (hinvariant : StreamInv allow view) (hearly : view.conn.Early)
    (hstep : view.Step allow label next) :
    next.outgoing.Sublist (view.outgoing ++ label.sent) := by
  cases hstep with
  | conn hstep =>
    rename_i action conn effect
    obtain ⟨hconn, hup, -, hremote, -⟩ := affected_fixed view conn effect
    have hpending := pending_of_stepped hinvariant.absent hearly hstep
    unfold StreamView.outgoing
    rw [hconn, hup, hremote, payloads_append]
    simpa [StreamLabel.sent] using hpending
  | remote hremote hstep =>
    simpa [StreamView.outgoing, StreamLabel.sent, hremote] using outgoing_of_stepped hstep
  | opened target rest place hup =>
    simp [StreamView.outgoing, StreamLabel.sent, hup, RemoteStream.outgoing, RemoteStream.start,
      RemoteStream.relayBytes]
  | refused target rest hup => simp [StreamView.outgoing, StreamLabel.sent, hup]
  | closed error rest hup =>
    have hdrop : (view.remote.map RemoteStream.dropSender).map RemoteStream.outgoing =
        view.remote.map RemoteStream.outgoing := by
      rw [Option.map_map]
      rfl
    unfold StreamView.outgoing
    split_ifs
    · simp [StreamLabel.sent, hup, hdrop]
    · simp [StreamLabel.sent, hup]
  | data bytes rest hup =>
    have hpush : (((if view.inTable then view.remote.map (·.push bytes) else view.remote).map
        RemoteStream.outgoing).getD []).Sublist
          ((view.remote.map RemoteStream.outgoing).getD [] ++ bytes) := by
      split_ifs
      · cases view.remote with
        | none => exact List.nil_sublist _
        | some stream => exact outgoing_push stream bytes
      · exact List.sublist_append_left ..
    have hrest := hpush.append (List.Sublist.refl (payloads rest ++ view.conn.pending))
    unfold StreamView.outgoing
    simpa [StreamLabel.sent, hup] using hrest
  | demuxData | demuxClose | dropped => simp [StreamView.outgoing, StreamLabel.sent]
  | hand msg inbox hheld hsend =>
    obtain ⟨after, hreceived, -⟩ := received_eq view.conn msg inbox
    rw [hreceived]
    simp [StreamView.outgoing, StreamLabel.sent, LocalConn.pending, LocalConn.headBytes,
      LocalConn.uplinkBytes]

end Outgoing

/-! ### From the remote socket -/

section Incoming

variable {allow : Bool} {view next : StreamView} {label : StreamLabel}

/-- What the handler has written or can still write is covered by the answer to `CONNECT` and by
what was read from the remote socket, less what the down task has in its hand. -/
structure Backed (view : StreamView) (stream : RemoteStream) : Prop where
  covered : view.incoming + stream.unsent.length ≤ view.conn.answer.length + stream.sent.length
  unread : stream.inbound <:+ stream.sent

theorem output_le_incoming (view : StreamView) : view.conn.output.length ≤ view.incoming := by
  unfold StreamView.incoming
  split_ifs
  · rw [List.length_append, LocalConn.outward, List.length_append]
    omega
  · exact Nat.le_refl _

theorem messages_affected (view : StreamView) (conn : LocalConn) (effect : LocalEffect) :
    (view.affected conn effect).messages =
      conn.inbox.items ++ view.held.toList ++ view.down.filterMap toLocal := by
  cases effect <;> rfl

theorem over_of_stepped {conn after : LocalConn} {action : LocalAction} {effect : LocalEffect}
    (hends : ¬ endsHandler action = false) (hstep : conn.Stepped action after effect) :
    after.receiving = false ∧ after.output = conn.output ∧ after.answer = conn.answer := by
  cases hstep with
  | takeClose | endOfInput | deliverFailed | greetFailed => exact ⟨rfl, rfl, rfl⟩
  | _ => exact absurd rfl hends

/-- A handler writes what was on its way to it. -/
theorem incoming_of_stepped {action : LocalAction} {conn : LocalConn} {effect : LocalEffect}
    (hfresh : view.conn.fresh = false) (hstep : view.conn.Stepped action conn effect) :
    (view.affected conn effect).incoming ≤ view.incoming ∧ conn.answer = view.conn.answer := by
  obtain ⟨hconn, -⟩ := affected_fixed view conn effect
  by_cases hends : endsHandler action = false
  · have hkept := kept_of_stepped hfresh hends hstep
    refine ⟨?_, hkept.answer⟩
    unfold StreamView.incoming
    rw [hconn, hkept.receiving, messages_affected]
    by_cases hreceiving : view.conn.receiving = true
    · obtain ⟨taken, hitems, -, houtward⟩ := hkept.taken
      rw [if_pos hreceiving, if_pos hreceiving, houtward, StreamView.messages, hitems]
      simp only [bytesOf_append, List.append_assoc]
      exact Nat.le_refl _
    · rw [if_neg hreceiving, if_neg hreceiving,
        hkept.output (Bool.eq_false_iff.mpr hreceiving)]
  · obtain ⟨hover, houtput, hanswer⟩ := over_of_stepped hends hstep
    refine ⟨?_, hanswer⟩
    have hle := output_le_incoming view
    rw [StreamView.incoming, hconn, hover, if_neg Bool.false_ne_true, houtput]
    exact hle

/-- The down task forwards what it has read, and the remote host sends more. -/
theorem unsent_of_stepped {stream after : RemoteStream} {action : RemoteAction}
    {frame : Option Frame} (hstep : stream.Stepped true action after frame) :
    (bytesOf (frame.toList.filterMap toLocal)).length + after.unsent.length + stream.sent.length ≤
      stream.unsent.length + after.sent.length := by
  have hnothing : (bytesOf ((none : Option Frame).toList.filterMap toLocal)).length = 0 := rfl
  have hstop : stream.stop.unsent.length ≤ stream.unsent.length := by
    unfold RemoteStream.unsent RemoteStream.stop
    cases stream.down <;> simp [DownPhase.abort]
  unfold RemoteStream.unsent at hstop ⊢
  cases hstep with
  | writeFailed | finish =>
    rw [hnothing]
    simp only [RemoteStream.stop] at hstop ⊢
    omega
  | dialed =>
    have hdialed : stream.inbound.length ≤ stream.unsent.length := by
      unfold RemoteStream.unsent
      cases stream.down <;> simp
    unfold RemoteStream.unsent at hdialed
    rw [hnothing]
    simp only
    omega
  | read count hdown hcount hsize hinbound => simp [hdown]
  | forward data hdown => simp [hdown, toLocal]
  | remoteSends data =>
    cases stream.down <;> simp <;> omega
  | readEof hdown | readFailed hdown | close hdown | forwardFailed data hdown =>
    simp_all [toLocal]
  | _ => simp [toLocal]

/-- What the handler of a stream sees of its messages. -/
theorem incoming_le {extra : ℕ} (hreceiving : next.conn.receiving = view.conn.receiving)
    (houtward : next.conn.outward = view.conn.outward)
    (houtput : next.conn.output = view.conn.output)
    (hbytes : (bytesOf next.messages).length ≤ (bytesOf view.messages).length + extra) :
    next.incoming ≤ view.incoming + extra := by
  unfold StreamView.incoming
  rw [hreceiving, houtward, houtput]
  split_ifs
  · rw [List.length_append, List.length_append]
    omega
  · exact Nat.le_add_right _ _

/-- What was read from the socket stays read. -/
theorem unread_of_stepped {stream after : RemoteStream} {action : RemoteAction}
    {frame : Option Frame} (hunread : stream.inbound <:+ stream.sent)
    (hstep : stream.Stepped true action after frame) : after.inbound <:+ after.sent := by
  cases hstep with
  | read count => exact (List.drop_suffix count stream.inbound).trans hunread
  | remoteSends data =>
    obtain ⟨taken, htaken⟩ := hunread
    refine ⟨taken, ?_⟩
    rw [← List.append_assoc, htaken]
  | _ => exact hunread

/-- A stream that is opened has nothing to write but the answer to `CONNECT`. -/
theorem backed_start (hinvariant : StreamInv allow view) {target : TargetAddr} {rest : List Frame}
    (hup : view.up = .streamOpen view.conn.id target :: rest) (place : ℕ) :
    Backed { view with
      up := rest
      inTable := true
      remote := some (.start view.conn.id target place) } (.start view.conn.id target place) := by
  refine ⟨?_, List.nil_suffix⟩
  show view.incoming + 0 ≤ view.conn.answer.length + 0
  cases hinvariant with
  | fresh h => cases hup.symm.trans h.up
  | arrived h =>
    have hopen := h.up
    rw [hup] at hopen
    cases hopen _ List.mem_cons_self
  | requested h =>
    have hmessages : view.messages = [] := by
      simp [StreamView.messages, h.inbox, h.held, h.down]
    unfold StreamView.incoming
    split_ifs with hreceiving
    · simp [hmessages, h.outward hreceiving]
    · exact (h.output (Bool.eq_false_iff.mpr hreceiving)).length_le

/-- Messages are moved on or dropped, and the handler is where it was. -/
structure Moved (view next : StreamView) : Prop where
  receiving : next.conn.receiving = view.conn.receiving
  outward : next.conn.outward = view.conn.outward
  output : next.conn.output = view.conn.output
  answer : next.conn.answer = view.conn.answer
  messages : (bytesOf next.messages).length ≤ (bytesOf view.messages).length

/-- Taken by one of the reader loops. -/
def StreamLabel.handed : StreamLabel → Bool
  | .arrive _ | .demux | .hand => true
  | .conn _ | .remote _ => false

theorem moved_of_step (hhanded : label.handed = true) (hstep : view.Step allow label next) :
    Moved view next := by
  cases hstep with
  | conn | remote => cases hhanded
  | opened | data | closed => exact ⟨rfl, rfl, rfl, rfl, Nat.le_refl _⟩
  | refused target rest hup hrefused =>
    rename_i room
    refine ⟨rfl, rfl, rfl, rfl, ?_⟩
    cases room <;> simp [StreamView.messages, notAllowed, toLocal]
  | demuxData bytes rest hdown hheld =>
    refine ⟨rfl, rfl, rfl, rfl, ?_⟩
    cases view.registered <;> simp [StreamView.messages, hdown, hheld, toLocal]
  | demuxClose error rest hdown hheld =>
    refine ⟨rfl, rfl, rfl, rfl, ?_⟩
    cases view.registered <;> simp [StreamView.messages, hdown, hheld, toLocal]
  | hand msg inbox hheld hsend =>
    obtain ⟨-, -, hitems, -, -⟩ := Channel.trySend_eq_some hsend
    obtain ⟨after, hreceived, hafter, -⟩ := received_eq view.conn msg inbox
    rw [hreceived]
    refine ⟨rfl, rfl, rfl, rfl, Nat.le_of_eq ?_⟩
    simp [StreamView.messages, hafter, hitems, hheld]
  | dropped msg hheld =>
    refine ⟨rfl, rfl, rfl, rfl, ?_⟩
    cases msg <;> simp [StreamView.messages, hheld]

theorem Moved.incoming_le (hmoved : Moved view next) : next.incoming ≤ view.incoming :=
  @Link.incoming_le _ _ 0 hmoved.receiving hmoved.outward hmoved.output hmoved.messages

theorem Backed.of_moved {stream : RemoteStream} (hbacked : Backed view stream)
    (hmoved : Moved view next) : Backed next stream := by
  obtain ⟨hcovered, hunread⟩ := hbacked
  refine ⟨?_, hunread⟩
  rw [hmoved.answer]
  exact (Nat.add_le_add_right hmoved.incoming_le _).trans hcovered

/-- The session hands bytes over or drops its end of the queue. -/
theorem Backed.of_change (hbacked : ∀ stream ∈ view.remote, Backed view stream)
    (hmoved : Moved view next) (change : RemoteStream → RemoteStream)
    (hchange : ∀ stream, (change stream).unsent = stream.unsent ∧
      (change stream).sent = stream.sent ∧ (change stream).inbound = stream.inbound)
    {inTable : Bool}
    (hremote : next.remote = if inTable then view.remote.map change else view.remote) :
    ∀ stream ∈ next.remote, Backed next stream := by
  intro stream hstream
  rw [hremote] at hstream
  split_ifs at hstream
  · obtain ⟨before, hbefore, rfl⟩ := Option.map_eq_some_iff.mp hstream
    obtain ⟨hunsent, hsent, hinbound⟩ := hchange before
    obtain ⟨hcovered, hunread⟩ := (hbacked before hbefore).of_moved hmoved
    exact ⟨by rwa [hunsent, hsent], by rwa [hinbound, hsent]⟩
  · exact (hbacked stream hstream).of_moved hmoved

theorem backed_of_step (hinvariant : StreamInv allow view)
    (hbacked : ∀ stream ∈ view.remote, Backed view stream)
    (hstep : view.Step allow label next) : ∀ stream ∈ next.remote, Backed next stream := by
  have hmoved : label.handed = true → Moved view next := fun hhanded ↦ moved_of_step hhanded hstep
  cases hstep with
  | conn hstep =>
    rename_i action conn effect
    obtain ⟨hconn, -, -, hremote, -⟩ := affected_fixed view conn effect
    intro stream hstream
    rw [hremote] at hstream
    have hfresh : view.conn.fresh = false := by
      cases hinvariant with
      | fresh h => cases h.remote.symm.trans hstream
      | requested h => exact h.fresh
      | arrived h => exact h.fresh
    obtain ⟨hincoming, hanswer⟩ := incoming_of_stepped hfresh hstep
    obtain ⟨hcovered, hunread⟩ := hbacked stream hstream
    refine ⟨?_, hunread⟩
    rw [hconn, hanswer]
    exact (Nat.add_le_add_right hincoming _).trans hcovered
  | remote hremote hstep =>
    rename_i action stream after frame
    obtain ⟨hcovered, hunread⟩ := hbacked stream hremote
    have hunsent := unsent_of_stepped hstep
    intro found hfound
    obtain rfl : after = found := Option.some.inj hfound
    refine ⟨?_, unread_of_stepped hunread hstep⟩
    have hincoming : StreamView.incoming
        { view with remote := some after, down := view.down ++ frame.toList } ≤
          view.incoming + (bytesOf (frame.toList.filterMap toLocal)).length := by
      refine incoming_le rfl rfl rfl (Nat.le_of_eq ?_)
      simp [StreamView.messages]
      omega
    show StreamView.incoming _ + _ ≤ view.conn.answer.length + _
    omega
  | opened target rest place hup =>
    intro stream hstream
    obtain rfl := Option.some.inj hstream
    exact backed_start hinvariant hup place
  | data bytes rest hup =>
    exact Backed.of_change hbacked (hmoved rfl) (·.push bytes) (fun _ ↦ ⟨rfl, rfl, rfl⟩) rfl
  | closed error rest hup =>
    exact Backed.of_change hbacked (hmoved rfl) .dropSender (fun _ ↦ ⟨rfl, rfl, rfl⟩) rfl
  | refused | demuxData | demuxClose | hand | dropped =>
    exact fun stream hstream ↦ (hbacked stream hstream).of_moved (hmoved rfl)

/-- What was written to the application was read from the remote socket, after the answer to
`CONNECT`. -/
theorem Backed.output {stream : RemoteStream} (hbacked : Backed view stream)
    (hle : view.conn.output <+: view.conn.answer ++ stream.sent) :
    ∃ taken, stream.sent = taken ++ stream.inbound ∧
      view.conn.output <+: view.conn.answer ++ taken := by
  obtain ⟨hcovered, taken, htaken⟩ := hbacked
  have hunread : stream.inbound.length ≤ stream.unsent.length := by
    unfold RemoteStream.unsent
    cases stream.down <;> simp
  have hoff := output_le_incoming view
  refine ⟨taken, htaken.symm, List.prefix_of_prefix_length_le hle ?_ ?_⟩
  · rw [← htaken, ← List.append_assoc]
    exact List.prefix_append _ _
  · have hlength := congrArg List.length htaken
    rw [List.length_append] at hlength ⊢
    omega

/-- Without a remote stream the handler has nothing to write but the answer to `CONNECT`. -/
structure Silent (view : StreamView) : Prop where
  outward : view.conn.outward <+: view.conn.answer
  messages : bytesOf view.messages = []

theorem Silent.of_moved (hsilent : Silent view) (hmoved : Moved view next) : Silent next := by
  obtain ⟨houtward, hmessages⟩ := hsilent
  refine ⟨by rwa [hmoved.outward, hmoved.answer], List.eq_nil_of_length_eq_zero ?_⟩
  have hle := hmoved.messages
  rw [hmessages] at hle
  exact Nat.le_zero.mp hle

theorem outward_of_over {conn : LocalConn} (hreceiving : conn.receiving = false) :
    conn.outward = conn.output := by
  unfold LocalConn.outward
  cases hphase : conn.phase with
  | greeting | delivering => simp [LocalConn.receiving, hphase] at hreceiving
  | _ => exact List.append_nil _

/-- A connection that has not written anything opens its stream, or goes on reading its head. -/
theorem outward_of_fresh {conn after : LocalConn} {action : LocalAction} {effect : LocalEffect}
    (hfresh : conn.fresh = true) (houtput : conn.output = []) (huplink : conn.uplink = .absent)
    (hstep : conn.Stepped action after effect) : after.outward <+: after.answer := by
  have houtward : conn.outward = [] := by
    rw [outward_of_over, houtput]
    unfold LocalConn.fresh at hfresh
    unfold LocalConn.receiving
    split at hfresh <;> simp_all
  cases hstep with
  | read count buf =>
    cases headStep buf (conn.inbound.take count) <;>
      simp [LocalConn.parsed, LocalConn.outward, houtput]
  | readEof | readFailed => simp [LocalConn.outward, houtput]
  | openStream target forward =>
    obtain ⟨-, -, -, -, -, hopened⟩ := opened_spec conn forward
    exact (hopened houtput) ▸ List.prefix_rfl
  | greet _ _ hphase | greeted hphase | greetFailed _ _ hphase | forwardHead _ hphase
  | take _ _ hphase | takeClose _ hphase | endOfInput hphase | deliver _ _ hphase
  | delivered hphase | deliverFailed _ _ hphase =>
    rw [LocalConn.fresh, hphase] at hfresh
    cases hfresh
  | upRead _ h | upEof h | upFailed h | upSend _ h | upClose h => cases huplink.symm.trans h
  | localSends | localCloses | localResets =>
    show conn.outward <+: _
    rw [houtward]
    exact List.nil_prefix

/-- A handler takes its messages from the front of its queue. -/
theorem inbox_of_stepped {conn after : LocalConn} {action : LocalAction} {effect : LocalEffect}
    (hstep : conn.Stepped action after effect) : after.inbox.items <:+ conn.inbox.items := by
  cases hstep with
  | read count buf =>
    cases headStep buf (conn.inbound.take count) <;> exact List.suffix_rfl
  | openStream target forward =>
    obtain ⟨-, -, -, hinbox, -⟩ := opened_spec conn forward
    exact hinbox ▸ List.suffix_rfl
  | take data rest hphase hrecv =>
    rw [(Channel.recv_eq_item hrecv).1]
    exact List.suffix_cons _ _
  | takeClose | endOfInput | deliverFailed | greetFailed => exact List.nil_suffix
  | _ => exact List.suffix_rfl

theorem silent_of_stepped (hinvariant : StreamInv allow view) (hsilent : Silent view)
    {action : LocalAction} {conn : LocalConn} {effect : LocalEffect}
    (hstep : view.conn.Stepped action conn effect) : Silent (view.affected conn effect) := by
  obtain ⟨hconn, -⟩ := affected_fixed view conn effect
  obtain ⟨houtward, hbytes⟩ := hsilent
  rw [StreamView.messages, bytesOf_append, bytesOf_append, List.append_assoc,
    List.append_eq_nil_iff] at hbytes
  obtain ⟨hinbox, hlater⟩ := hbytes
  refine ⟨?_, ?_⟩
  · rw [hconn]
    cases hfresh : view.conn.fresh with
    | true =>
      cases hinvariant with
      | fresh h => exact outward_of_fresh hfresh h.output h.uplink hstep
      | requested h => cases hfresh.symm.trans h.fresh
      | arrived h => cases hfresh.symm.trans h.fresh
    | false =>
      by_cases hends : endsHandler action = false
      · have hkept := kept_of_stepped hfresh hends hstep
        obtain ⟨taken, hitems, -, hwritten⟩ := hkept.taken
        rw [hitems, bytesOf_append, List.append_eq_nil_iff] at hinbox
        rw [hwritten, hinbox.1, List.append_nil, hkept.answer]
        exact houtward
      · obtain ⟨hover, houtput, hanswer⟩ := over_of_stepped hends hstep
        rw [outward_of_over hover, houtput, hanswer]
        exact (output_prefix_outward view.conn).trans houtward
  · obtain ⟨taken, hitems⟩ := inbox_of_stepped hstep
    rw [← hitems, bytesOf_append, List.append_eq_nil_iff] at hinbox
    rw [messages_affected, bytesOf_append, bytesOf_append, List.append_assoc, hinbox.2, hlater]
    rfl

theorem silent_of_step (hinvariant : StreamInv allow view)
    (hsilent : view.remote = none → Silent view) (hstep : view.Step allow label next)
    (hremote : next.remote = none) : Silent next := by
  have hmoved : label.handed = true → Moved view next := fun hhanded ↦ moved_of_step hhanded hstep
  cases hstep with
  | conn hstep =>
    rename_i action conn effect
    obtain ⟨-, -, -, hsame, -⟩ := affected_fixed view conn effect
    exact silent_of_stepped hinvariant (hsilent (hsame ▸ hremote)) hstep
  | remote | opened => cases hremote
  | data | closed =>
    refine (hsilent ?_).of_moved (hmoved rfl)
    by_cases htable : view.inTable = true <;> simpa [htable] using hremote
  | refused | demuxData | demuxClose | hand | dropped =>
    exact (hsilent hremote).of_moved (hmoved rfl)

end Incoming

/-! ### The bytes of a stream -/

section Owning

variable {allow : Bool} {view next : StreamView} {label : StreamLabel} {sent : Bytes}
  {requested : TargetAddr → Prop}

/-- A stream whose application has sent `sent`, and whose handler has asked for what `requested`
holds of. -/
structure Owned (sent : Bytes) (requested : TargetAddr → Prop) (view : StreamView) : Prop where
  early : view.conn.Early
  outgoing : view.outgoing.Sublist sent
  opens : ∀ target, .streamOpen view.conn.id target ∈ view.up → requested target
  target : ∀ stream ∈ view.remote, requested stream.target
  backed : ∀ stream ∈ view.remote, Backed view stream
  silent : view.remote = none → Silent view

/-- More may have been asked for. -/
theorem Owned.mono {more : TargetAddr → Prop} (howned : Owned sent requested view)
    (hmore : ∀ target, requested target → more target) : Owned sent more view :=
  ⟨howned.early, howned.outgoing, fun target h ↦ hmore target (howned.opens target h),
    fun stream h ↦ hmore stream.target (howned.target stream h), howned.backed, howned.silent⟩

theorem early_of_step (hinvariant : StreamInv allow view) (hearly : view.conn.Early)
    (hstep : view.Step allow label next) : next.conn.Early := by
  cases hstep with
  | conn hstep =>
    rename_i action conn effect
    rw [(affected_fixed view conn effect).1]
    exact early_of_stepped hinvariant.absent hearly hstep
  | hand msg inbox =>
    obtain ⟨after, hreceived, -⟩ := received_eq view.conn msg inbox
    rw [hreceived]
    exact hearly
  | _ => exact hearly

/-- A `StreamOpen` asks for the target of the handler that sends it. -/
theorem open_of_stepped {conn after : LocalConn} {action : LocalAction} {effect : LocalEffect}
    (hstep : conn.Stepped action after effect) {id : StreamId} {target : TargetAddr}
    (hopen : .streamOpen id target ∈ emitted effect) :
    action = .openStream ∧ ∃ forward, conn.phase = .opening target forward := by
  cases hstep with
  | read count buf =>
    revert hopen
    cases headStep buf (conn.inbound.take count) <;> simp [LocalConn.parsed, emitted]
  | openStream asked forward hphase =>
    obtain ⟨-, rfl⟩ : id = conn.id ∧ target = asked := by simpa [emitted] using hopen
    exact ⟨rfl, forward, hphase⟩
  | _ => simp [emitted] at hopen

theorem opens_of_step (hopens : ∀ target, .streamOpen view.conn.id target ∈ view.up →
      requested target)
    (hrequested : label = .conn .openStream → ∀ target forward,
      view.conn.phase = .opening target forward → requested target)
    (hstep : view.Step allow label next) (target : TargetAddr)
    (htarget : .streamOpen next.conn.id target ∈ next.up) : requested target := by
  cases hstep with
  | conn hstep =>
    rename_i action conn effect
    obtain ⟨hconn, hup, -⟩ := affected_fixed view conn effect
    rw [hconn, hup, (ProxyLink.own_of_stepped hstep).1] at htarget
    obtain hold | hnew := List.mem_append.mp htarget
    · exact hopens target hold
    · obtain ⟨rfl, forward, hphase⟩ := open_of_stepped hstep hnew
      exact hrequested rfl target forward hphase
  | opened other rest place hup | refused other rest hup | data bytes rest hup
  | closed error rest hup =>
    exact hopens target (hup ▸ List.mem_cons_of_mem _ htarget)
  | hand msg inbox =>
    obtain ⟨after, hreceived, -⟩ := received_eq view.conn msg inbox
    rw [hreceived] at htarget
    exact hopens target htarget
  | remote | demuxData | demuxClose | dropped => exact hopens target htarget

/-- The session dials what it was asked for. -/
theorem target_of_step (hopens : ∀ target, .streamOpen view.conn.id target ∈ view.up →
      requested target)
    (htarget : ∀ stream ∈ view.remote, requested stream.target)
    (hstep : view.Step allow label next) (stream : RemoteStream) (hstream : stream ∈ next.remote) :
    requested stream.target := by
  have hchanged {inTable : Bool} (change : RemoteStream → RemoteStream)
      (hchange : ∀ stream, (change stream).target = stream.target)
      (hremote : stream ∈ if inTable then view.remote.map change else view.remote) :
      requested stream.target := by
    split_ifs at hremote
    · obtain ⟨before, hbefore, rfl⟩ := Option.map_eq_some_iff.mp hremote
      exact (hchange before).symm ▸ htarget before hbefore
    · exact htarget stream hremote
  cases hstep with
  | conn hstep =>
    rename_i action conn effect
    obtain ⟨-, -, -, hremote, -⟩ := affected_fixed view conn effect
    exact htarget stream (hremote ▸ hstream)
  | remote hremote hstep =>
    obtain rfl := Option.some.inj hstream
    rw [hstep.frame.2.1]
    exact htarget _ hremote
  | opened target rest place hup =>
    obtain rfl := Option.some.inj hstream
    exact hopens target (hup ▸ List.mem_cons_self)
  | data bytes => exact hchanged (·.push bytes) (fun _ ↦ rfl) hstream
  | closed => exact hchanged .dropSender (fun _ ↦ rfl) hstream
  | refused | demuxData | demuxClose | hand | dropped => exact htarget stream hstream

theorem Owned.step (howned : Owned sent requested view) (hinvariant : StreamInv allow view)
    (hrequested : label = .conn .openStream → ∀ target forward,
      view.conn.phase = .opening target forward → requested target)
    (hstep : view.Step allow label next) : Owned (sent ++ label.sent) requested next where
  early := early_of_step hinvariant howned.early hstep
  outgoing := (outgoing_of_step hinvariant howned.early hstep).trans
    (howned.outgoing.append_right label.sent)
  opens := opens_of_step howned.opens hrequested hstep
  target := target_of_step howned.opens howned.target hstep
  backed := backed_of_step hinvariant howned.backed hstep
  silent := silent_of_step hinvariant howned.silent hstep

end Owning

/-- A connection with its remote stream: the socket is dialed for what the handler has asked for,
what is written to it was sent by the application, and what the application got was read from it,
after the proxy's own answer to `CONNECT`. -/
structure Carries (conn : LocalConn) (sent : Bytes) (requested : TargetAddr → Prop)
    (stream : RemoteStream) : Prop where
  target : requested stream.target
  written : stream.written.Sublist sent
  output : ∃ taken, stream.sent = taken ++ stream.inbound ∧ conn.output <+: conn.answer ++ taken

theorem Owned.carries {allow : Bool} {view : StreamView} {sent : Bytes}
    {requested : TargetAddr → Prop} (howned : Owned sent requested view)
    (hinvariant : StreamInv allow view) {stream : RemoteStream}
    (hstream : view.remote = some stream) : Carries view.conn sent requested stream where
  target := howned.target stream hstream
  written := by
    have houtgoing := howned.outgoing
    unfold StreamView.outgoing at houtgoing
    rw [hstream, Option.map_some, Option.getD_some, List.append_assoc] at houtgoing
    have hwritten : stream.written.Sublist stream.outgoing := by
      unfold RemoteStream.outgoing
      rw [List.append_assoc]
      exact List.sublist_append_left ..
    exact hwritten.trans ((List.sublist_append_left ..).trans houtgoing)
  output := (howned.backed stream hstream).output (hinvariant.output_le hstream)

namespace ProxyLink

/-- What the application of a place sends in a step. -/
def sentAt (place : ℕ) : LinkAction → Bytes
  | .client (.conn index action) => if index = place then sentIn action else []
  | _ => []

/-- All that the application of a place sends in a run. -/
def sentBy (place : ℕ) (actions : List LinkAction) : Bytes :=
  actions.flatMap (sentAt place)

/-- In the run from `begun`, the handler of a place sends a `StreamOpen` for a target. -/
def AskedFor (begun : ProxyLink) (place : ℕ) (actions : List LinkAction) (target : TargetAddr) :
    Prop :=
  ∃ earlier middle forward, earlier ++ [.client (.conn place .openStream)] <+: actions ∧
    run ProxyLink.step begun earlier = some middle ∧
      (connAt middle.client place).phase = .opening target forward

section Labels

variable {link : ProxyLink} {index : ℕ} {action : LinkAction}

theorem sentAt_eq (link : ProxyLink) (index : ℕ) (action : LinkAction) :
    sentAt index action = ((link.label index action).map StreamLabel.sent).getD [] := by
  have hnone {label : StreamLabel} (hsent : label.sent = []) (taken : Prop) [Decidable taken] :
      (((if taken then some label else none).map StreamLabel.sent).getD []) = [] := by
    split_ifs
    · exact hsent
    · rfl
  cases action with
  | client action =>
    cases action with
    | conn place action =>
      simp only [sentAt, label]
      split_ifs <;> rfl
    | hand => exact (hnone rfl _).symm
    | _ => rfl
  | remote place action =>
    simp only [label]
    split
    · exact (hnone rfl _).symm
    · rfl
  | toServer peers =>
    simp only [label]
    split
    · exact (hnone rfl _).symm
    · rfl
  | toClient =>
    simp only [label]
    split
    · exact (hnone rfl _).symm
    · rfl
  | _ => rfl

theorem action_of_label {act : LocalAction} (hlabel : link.label index action = some (.conn act)) :
    action = .client (.conn index act) := by
  cases action with
  | client action =>
    cases action with
    | conn place action =>
      simp only [label] at hlabel
      split_ifs at hlabel with hplace
      obtain rfl : action = act := by simpa using hlabel
      rw [hplace]
    | hand =>
      simp only [label] at hlabel
      split_ifs at hlabel
      cases Option.some.inj hlabel
    | _ => cases hlabel
  | remote | toServer | toClient =>
    simp only [label] at hlabel
    split at hlabel
    · split_ifs at hlabel
      cases Option.some.inj hlabel
    · cases hlabel
  | _ => cases hlabel

end Labels

section Runs

variable {peer : PeerConfig} {hello : Hello} {hasTun : Bool} {actions : List LinkAction}
  {link next final : ProxyLink}

/-- Connections stay in their places. -/
theorem conns_length_le {action : LinkAction} (hstep : link.step action = some next) :
    link.client.conns.length ≤ next.client.conns.length := by
  cases action with
  | client action =>
    obtain ⟨hreceive, client, hclient, rfl⟩ := step_client hstep
    cases action with
    | accept =>
      obtain rfl := Option.some.inj hclient
      rw [List.length_append]
      exact Nat.le_add_right _ _
    | conn place action =>
      obtain ⟨conn, connNext, effect, hconn, -, happly⟩ := ProxyClient.step_conn hclient
      exact ((apply_fixed happly).2.trans List.length_set).ge
    | send =>
      obtain ⟨frame, rest, -, rfl⟩ := ProxyClient.step_send hclient
      exact Nat.le_refl _
    | keepalive =>
      obtain rfl := Option.some.inj hclient
      exact Nat.le_refl _
    | getPeers | lanPacket bytes =>
      obtain ⟨out, -, rfl⟩ := Option.map_eq_some_iff.mp hclient
      exact Nat.le_refl _
    | receive frame => exact absurd rfl (hreceive frame)
    | hand =>
      obtain ⟨_, _, _, -, -, ⟨_, -, rfl⟩ | ⟨-, rfl⟩⟩ := ProxyClient.step_hand hclient
      · exact (List.length_set ..).ge
      · exact Nat.le_refl _
    | pong =>
      obtain ⟨-, out, -, rfl⟩ := ProxyClient.step_pong hclient
      exact Nat.le_refl _
  | sessionSend =>
    obtain ⟨_, -, rfl⟩ := step_sessionSend hstep
    exact Nat.le_refl _
  | remote index action =>
    obtain ⟨_, -, rfl⟩ := step_linkRemote hstep
    exact Nat.le_refl _
  | toServer peers =>
    obtain ⟨_, _, _, -, -, rfl⟩ := step_toServer hstep
    exact Nat.le_refl _
  | toClient =>
    obtain ⟨frame, _, -, -, rfl⟩ := step_toClient hstep
    exact (congrArg List.length (demux_fixed link.client frame).1).ge
  | deliver packet =>
    obtain rfl := Option.some.inj hstep
    exact Nat.le_refl _

/-- What a run keeps of every stream, with the actions that led to it. -/
structure Isolated (begun : ProxyLink) (actions : List LinkAction) (link : ProxyLink) : Prop where
  numbered : link.Numbered
  streams : ∀ index < idCount, StreamInv link.session.peer.allowHttpProxy (link.view index)
  owned : ∀ index < idCount,
    Owned (sentBy index actions) (AskedFor begun index actions) (link.view index)

theorem isolated_start (begun : ProxyLink) :
    Isolated begun [] (start peer hello hasTun) where
  numbered := numbered_start
  streams index _ := .fresh (fresh_start index)
  owned index _ :=
    { early := fun hbytes ↦ absurd rfl hbytes
      outgoing := List.Sublist.refl []
      opens := fun _ htarget ↦ absurd htarget List.not_mem_nil
      target := fun _ hstream ↦ by cases hstream
      backed := fun _ hstream ↦ by cases hstream
      silent := fun _ ↦ ⟨List.nil_prefix, rfl⟩ }

theorem Isolated.step {begun : ProxyLink} (hisolated : Isolated begun actions link)
    (hrun : run ProxyLink.step begun actions = some link) {action : LinkAction}
    (hcount : action = .client .accept → link.client.conns.length < idCount)
    (hstep : link.step action = some next) : Isolated begun (actions ++ [action]) next := by
  obtain ⟨hnumbered, hstreams, howned⟩ := hisolated
  obtain ⟨hnext, hseen⟩ := projects hnumbered hstreams hcount hstep
  have hpeer := congrArg PeerConfig.allowHttpProxy (step_peer hstep)
  have hsent (index : ℕ) : sentBy index (actions ++ [action]) =
      sentBy index actions ++ ((link.label index action).map StreamLabel.sent).getD [] := by
    rw [← sentAt_eq, sentBy, sentBy, List.flatMap_append, List.flatMap_singleton]
  have hasked (index : ℕ) (target : TargetAddr) (htarget : AskedFor begun index actions target) :
      AskedFor begun index (actions ++ [action]) target := by
    obtain ⟨earlier, middle, forward, hearlier, hrest⟩ := htarget
    exact ⟨earlier, middle, forward, hearlier.trans (List.prefix_append _ _), hrest⟩
  refine ⟨hnext, fun index hindex ↦ ?_, fun index hindex ↦ ?_⟩
  · have hown := hseen index hindex
    rw [hpeer]
    cases hlabel : link.label index action with
    | none =>
      rw [hlabel] at hown
      exact hown ▸ hstreams index hindex
    | some label =>
      rw [hlabel] at hown
      exact (hstreams index hindex).step hown
  · have hown := hseen index hindex
    have hold := (howned index hindex).mono (hasked index)
    rw [hsent]
    cases hlabel : link.label index action with
    | none =>
      rw [hlabel] at hown
      rw [Option.map_none, Option.getD_none, List.append_nil]
      exact hown ▸ hold
    | some label =>
      rw [hlabel] at hown
      refine hold.step (hstreams index hindex) (fun hopen target forward hphase ↦ ?_) hown
      obtain rfl := action_of_label (hopen ▸ hlabel)
      exact ⟨actions, link, forward, List.prefix_rfl, hrun, hphase⟩

theorem isolated_of_run (hrun : run ProxyLink.step (start peer hello hasTun) actions = some final)
    (hcount : final.client.conns.length < idCount) :
    Isolated (start peer hello hasTun) actions final := by
  refine @run_records _ _ _ (fun actions link ↦ link.client.conns.length < idCount →
    Isolated (start peer hello hasTun) actions link) _ (fun _ ↦ isolated_start _)
    (fun actions action link next hrun hold hstep hcount ↦ ?_) _ _ hrun hcount
  have hbefore := (conns_length_le hstep).trans_lt hcount
  exact (hold hbefore).step hrun (fun _ ↦ hbefore) hstep

/-- A place that no connection has taken has no remote stream. -/
theorem exists_conn {allow : Bool} {place : ℕ} (hinvariant : StreamInv allow (link.view place))
    {stream : RemoteStream} (hremote : (link.view place).remote = some stream) :
    ∃ conn, link.client.conns[place]? = some conn := by
  by_contra hnone
  have hstart : (link.view place).conn = .start (idOf place) := by
    show connAt link.client place = _
    rw [connAt, Option.eq_none_iff_forall_ne_some.mpr fun conn h ↦ hnone ⟨conn, h⟩,
      Option.getD_none]
  cases hremote.symm.trans (remote_of_parsing hinvariant (congrArg LocalConn.phase hstart))

/-- In every run with fewer connections than ids: the remote stream with the id of a connection
carries this connection, without one the connection gets nothing but the proxy's own answer, every
remote stream has the id of exactly one connection, and a further step leaves all streams as they
are but the one that it concerns. -/
theorem streams_isolated
    (hrun : run ProxyLink.step (start peer hello hasTun) actions = some final)
    (hcount : final.client.conns.length < idCount) :
    (∀ (place : ℕ) (conn : LocalConn), final.client.conns[place]? = some conn →
      (∀ stream ∈ final.session.remotes, stream.id = conn.id →
        Carries conn (sentBy place actions) (AskedFor (start peer hello hasTun) place actions)
          stream) ∧
      ((∀ stream ∈ final.session.remotes, stream.id ≠ conn.id) → conn.output <+: conn.answer)) ∧
    ((final.session.remotes.map RemoteStream.id).Nodup ∧
      ∀ stream ∈ final.session.remotes, ∃! place : ℕ, ∃ conn : LocalConn,
        final.client.conns[place]? = some conn ∧ conn.id = stream.id) ∧
    ∀ action next, final.step action = some next → ∀ place < idCount,
      final.place action ≠ some place → next.view place = final.view place := by
  obtain ⟨hnumbered, hstreams, howned⟩ := isolated_of_run hrun hcount
  have hown : ∀ (place : ℕ) (conn : LocalConn), final.client.conns[place]? = some conn →
      place < idCount ∧ (final.view place).conn = conn ∧ conn.id = idOf place := by
    intro place conn hconn
    have hat : connAt final.client place = conn := connAt_eq hconn
    exact ⟨(List.getElem?_eq_some_iff.mp hconn).1.trans hcount, hat, hat ▸ hnumbered.conns place⟩
  refine ⟨fun place conn hconn ↦ ?_, ⟨hnumbered.remotes, fun stream hstream ↦ ?_⟩,
    fun action next hstep place hplace hother ↦ ?_⟩
  · obtain ⟨hplace, rfl, hid⟩ := hown place conn hconn
    refine ⟨fun stream hstream hsame ↦ ?_, fun hnone ↦ ?_⟩
    · exact (howned place hplace).carries (hstreams place hplace)
        (hnumbered.remote_eq hstream (hsame.trans hid))
    · have hremote : (final.view place).remote = none := by
        refine streamWith_eq_none.mpr fun hmem ↦ ?_
        obtain ⟨stream, hstream, hsame⟩ := List.mem_map.mp hmem
        exact hnone stream hstream (hsame.trans hid.symm)
      exact (output_prefix_outward _).trans ((howned place hplace).silent hremote).outward
  · obtain ⟨place, hplace, hid⟩ := exists_idOf stream.id
    obtain ⟨conn, hconn⟩ := exists_conn (hstreams place hplace)
      (hnumbered.remote_eq hstream hid.symm)
    refine ⟨place, ⟨conn, hconn, (hown place conn hconn).2.2.trans hid⟩, ?_⟩
    rintro other ⟨otherConn, hother, hsame⟩
    obtain ⟨hlt, -, hotherId⟩ := hown other otherConn hother
    exact idOf_inj hlt hplace ((hotherId.symm.trans hsame).trans hid.symm)
  · obtain ⟨-, hseen⟩ := projects hnumbered hstreams (fun _ ↦ hcount) hstep
    have hplaceSeen := hseen place hplace
    cases hlabel : final.label place action with
    | none => rwa [hlabel] at hplaceSeen
    | some label => exact absurd (place_of_label hplace hlabel) hother

end Runs

/-- A request and its answer: the remote host got a part of the request head, and the application
got what was read from this host. -/
theorem streams_isolated_answered :
    ∃ final, run ProxyLink.step proxyLink
        (requestRun ++ answerRun ++ forwardRun ++ deliveryRun) = some final ∧
      ∃ conn stream, final.client.conns[0]? = some conn ∧ stream ∈ final.session.remotes ∧
        stream.id = conn.id ∧ conn.output = [7] ∧ stream.written = getHead ∧
          Carries conn (sentBy 0 (requestRun ++ answerRun ++ forwardRun ++ deliveryRun))
            (AskedFor proxyLink 0 (requestRun ++ answerRun ++ forwardRun ++ deliveryRun))
              stream := by
  obtain ⟨final, hrun, hcheck⟩ : ∃ final,
      run ProxyLink.step proxyLink (requestRun ++ answerRun ++ forwardRun ++ deliveryRun) =
        some final ∧
        (decide (final.client.conns.length = 1) &&
          final.client.conns[0]?.any fun (conn : LocalConn) ↦
            final.session.remotes[0]?.any fun (stream : RemoteStream) ↦
              decide (stream.id = conn.id) && decide (conn.output = [7]) &&
                decide (stream.written = getHead)) = true :=
    Option.any_eq_true _ _ |>.mp (by decide +kernel)
  rw [Bool.and_eq_true, decide_eq_true_iff] at hcheck
  obtain ⟨hlength, hconn⟩ := hcheck
  obtain ⟨conn, hconn, hstreams⟩ := (Option.any_eq_true _ _).mp hconn
  obtain ⟨stream, hstream, hfacts⟩ := (Option.any_eq_true _ _).mp hstreams
  simp only [Bool.and_eq_true, decide_eq_true_iff] at hfacts
  obtain ⟨⟨hid, houtput⟩, hwritten⟩ := hfacts
  have hmem := List.mem_of_getElem? hstream
  have hcount : final.client.conns.length < idCount := by
    rw [hlength]
    decide
  exact ⟨final, hrun, conn, stream, hconn, hmem, hid, houtput, hwritten,
    ((streams_isolated hrun hcount).1 0 conn hconn).1 stream hmem hid⟩

/-- An application asks for a tunnel and gets the proxy's own answer, which no remote host has sent.
-/
theorem established_of_no_host :
    ¬ ∀ (peer : PeerConfig) (hello : Hello) (hasTun : Bool) (actions : List LinkAction)
      (final : ProxyLink), run ProxyLink.step (start peer hello hasTun) actions = some final →
        final.client.conns.length < idCount → ∀ conn ∈ final.client.conns, ∀ byte ∈ conn.output,
          ∃ stream ∈ final.session.remotes, stream.id = conn.id ∧ byte ∈ stream.sent := by
  intro hall
  obtain ⟨final, hrun, hfinal⟩ : ∃ final,
      run ProxyLink.step proxyLink [.client .accept,
        .client (.conn 0 (.localSends "CONNECT h:1 HTTP/1.1\r\n\r\n".toUTF8.data.toList)),
        .client (.conn 0 (.read 24)), .client (.conn 0 .openStream),
        .client (.conn 0 (.greet 39))] =
          some final ∧
        (decide (final.client.conns.length = 1 ∧ final.session.remotes = []) &&
          final.client.conns[0]?.any fun (conn : LocalConn) ↦
            decide (conn.output = established)) = true :=
    Option.any_eq_true _ _ |>.mp (by decide +kernel)
  simp only [Bool.and_eq_true, decide_eq_true_iff] at hfinal
  obtain ⟨⟨hlength, hremotes⟩, hconn⟩ := hfinal
  obtain ⟨conn, hconn, houtput⟩ := (Option.any_eq_true _ _).mp hconn
  obtain ⟨byte, hbyte⟩ : ∃ byte, byte ∈ conn.output := by
    rw [decide_eq_true_iff.mp houtput]
    exact ⟨72, by decide⟩
  have hcount : final.client.conns.length < idCount := by
    rw [hlength]
    decide
  obtain ⟨stream, hstream, -⟩ :=
    hall _ _ _ _ final hrun hcount conn (List.mem_of_getElem? hconn) byte hbyte
  rw [hremotes] at hstream
  cases hstream

end ProxyLink

end EntroTunnel.Link
