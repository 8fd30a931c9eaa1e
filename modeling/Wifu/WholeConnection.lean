import Wifu.Opening

/-!
# A connection from its creation on

From the creation of the two endpoints on, nothing is assumed of the handshake: it is opening, or what has been sent is
delivered.
-/

namespace Wifu

namespace Connection

open Endpoint (SendInv SendMode Ending Listening)

/-- As `streamCondition`; the receiver processes one SYN, which opens the stream. -/
def wholeCondition (s : Connection × Flights) : Input → Prop
  | .sender i => Endpoint.sendCondition False s.1.sender i ∧
      ∀ p ∈ s.1.sender.delivered i, p.validChecksum = true → p.ack = true →
        Fresh s.1.receiver.receivedBytes.length s.2.acks p
  | .receiver i => ∀ p ∈ s.1.receiver.delivered i, s.1.receiver.accepts p = true →
      (p.syn = true → s.1.receiver.rc.receiveWindow.started = false) ∧
      Fresh s.1.receiver.receivedBytes.length s.2.segments p

instance (s : Connection × Flights) : (i : Input) → Decidable (wholeCondition s i)
  | .sender i => inferInstanceAs (Decidable (Endpoint.sendCondition False s.1.sender i ∧
      ∀ p ∈ s.1.sender.delivered i, p.validChecksum = true → p.ack = true →
        Fresh s.1.receiver.receivedBytes.length s.2.acks p))
  | .receiver i => inferInstanceAs (Decidable (∀ p ∈ s.1.receiver.delivered i, s.1.receiver.accepts p = true →
      (p.syn = true → s.1.receiver.rc.receiveWindow.started = false) ∧
      Fresh s.1.receiver.receivedBytes.length s.2.segments p))

/-- The sender has not left the handshake, and the receiver has processed at most its SYN. -/
structure Opening (s : Connection × Flights) : Prop where
  sending : SendInv False s.1.sender
  senderEnding : s.1.sender.Ending
  balance : s.1.receiver.WindowBalance
  receiverEnding : s.1.receiver.Ending
  early : s.1.sender.rc.initialized = true → s.1.sender.cmc.state.isEarly = true
  unsent : s.1.sender.rc.initialized = false → sentPackets s.1.sender.dispatched = []
  accepted : s.1.sender.accepted = []
  finSent : finSent s.1.sender.dispatched = false
  listening : s.1.receiver.Listening
  opened : s.1.receiver.rc.receiveWindow.started = true → s.1.sender.rc.initialized = true
  flights : s.2 = s.1.firstFlights

/-- The stream arrives; the receiver has processed the sender's SYN and has answered. -/
structure Delivering (s : Connection × Flights) : Prop extends DeliveryInv s where
  started : s.1.receiver.rc.receiveWindow.started = true
  answered : sentPackets s.1.receiver.dispatched ≠ []

/-- A connection in every state. -/
def WholeInv (s : Connection × Flights) : Prop := Opening s ∨ Delivering s

section

variable {s s' : Connection × Flights} {i : Endpoint.Input} {e' : Endpoint} {p : TCPPacket}

theorem Opening.create (a b : SocketId) (la ra lb rb : AddressPort) :
    Opening (⟨.create a la ra, .create b lb rb⟩, {}) where
  sending := Endpoint.create_sendInv a la ra
  senderEnding := .create a la ra
  balance := .create b lb rb
  receiverEnding := .create b lb rb
  early h := by cases h
  unsent _ := rfl
  accepted := rfl
  finSent := rfl
  listening := .create b lb rb
  opened h := by cases h
  flights := rfl

/-- What has been sent in the handshake, recorded as it is sent. -/
theorem firstFlights_sender (hs : s'.1 = { s.1 with sender := e' }) (hstep : Endpoint.step i s.1.sender = .ok e')
    (hfirst : s.2 = s.1.firstFlights) (hacks : s'.2.acks = s.2.acks)
    (hsegments : s'.2.segments = s.2.segments ++ newFlights 0 s.1.sender e') : s'.2 = s'.1.firstFlights := by
  obtain ⟨d, hsent, hnew⟩ := newFlights_eq (n := 0) hstep
  have hflights : s'.2 = ⟨s'.2.segments, s'.2.acks⟩ := rfl
  rw [hflights, hsegments, hacks, hfirst, hs, hnew]
  simp [firstFlights, hsent]

theorem firstFlights_receiver (hs : s'.1 = { s.1 with receiver := e' }) (hstep : Endpoint.step i s.1.receiver = .ok e')
    (hfirst : s.2 = s.1.firstFlights) (hsegments : s'.2.segments = s.2.segments)
    (hacks : s'.2.acks = s.2.acks ++ newFlights 0 s.1.receiver e') : s'.2 = s'.1.firstFlights := by
  obtain ⟨d, hsent, hnew⟩ := newFlights_eq (n := 0) hstep
  have hflights : s'.2 = ⟨s'.2.segments, s'.2.acks⟩ := rfl
  rw [hflights, hsegments, hacks, hfirst, hs, hnew]
  simp [firstFlights, hsent]

namespace Opening

/-- What the sender has sent is its SYN or empty. -/
theorem opens (h : Opening s) (hp : p ∈ sentPackets s.1.sender.dispatched) : p.Opens := by
  have hfin : p.fin = false := by
    by_contra hfin
    have hsent : Wifu.finSent s.1.sender.dispatched = true := List.any_eq_true.2 ⟨p, hp, by simpa using hfin⟩
    rw [h.finSent] at hsent
    cases hsent
  have hok := h.sending.sentOk p hp
  refine ⟨fun hsyn => (hok.syn hsyn).2, hfin, fun hsyn => ?_⟩
  by_contra hlen
  have hdata : p.IsData := ⟨hsyn, hfin, by omega⟩
  obtain ⟨k, -, hpre⟩ := hok.data hsyn hfin (List.length_pos_iff.1 hdata.length_data.1)
  rw [h.accepted, List.drop_nil, List.prefix_nil] at hpre
  have := hdata.length_data.1
  rw [hpre] at this
  cases this

/-- A packet with the ACK bit acknowledges the SYN, which the receiver has processed. -/
theorem acknowledges (h : Opening s) (hp : p ∈ sentPackets s.1.receiver.dispatched) (hack : p.ack = true) :
    s.1.receiver.Heard ∧ p.ackNumber = iss + 1 := by
  rcases h.listening.heard with hheard | hheard
  · rw [hheard.sent p hp] at hack
    cases hack
  · exact ⟨hheard, hheard.acks p hp hack⟩

theorem receiver (h : Opening s) (hen : flightMachine.enabled (.receiver i) s)
    (hc : wholeCondition s (.receiver i)) (hstep : flightMachine.step (.receiver i) s = .ok s') : Opening s' := by
  obtain ⟨e', hstep, hs, hsegments, hacks⟩ := receiver_step hstep
  have hsender : s'.1.sender = s.1.sender := by rw [hs]
  have hreceiver : s'.1.receiver = e' := by rw [hs]
  have hsyn : Endpoint.synBeforeData s.1.receiver i := fun _ _ _ _ => ⟨h.listening.buffer, h.listening.receiveBuffer⟩
  have hlistening : e'.Listening := by
    refine h.listening.step h.receiverEnding hen.1 hstep fun p hp ha => ?_
    obtain ⟨f, hf, rfl, -⟩ := (hc p hp ha).2
    rw [h.flights] at hf
    obtain ⟨q, hq, rfl⟩ := List.mem_map.1 hf
    exact h.opens hq
  have hopened (hstarted : e'.rc.receiveWindow.started = true) : s.1.sender.rc.initialized = true := by
    by_contra hinit
    have hunsent := h.unsent (by simpa using hinit)
    cases Endpoint.step_receivedStep h.balance hstep with
    | same _ hwindow _ =>
      rw [hwindow] at hstarted
      exact hinit (h.opened hstarted)
    | accept p hp ha _ _ =>
      obtain ⟨f, hf, rfl, -⟩ := (hc p hp ha).2
      rw [h.flights] at hf
      obtain ⟨q, hq, -⟩ := List.mem_map.1 hf
      rw [hunsent] at hq
      cases hq
  refine ⟨hsender ▸ h.sending, hsender ▸ h.senderEnding, hreceiver ▸ h.balance.step hen.1 hsyn hstep,
    hreceiver ▸ h.receiverEnding.step hen.1 hstep, hsender ▸ h.early, hsender ▸ h.unsent, hsender ▸ h.accepted,
    hsender ▸ h.finSent, hreceiver ▸ hlistening, ?_, ?_⟩
  · rw [hsender, hreceiver]
    exact hopened
  · rw [hlistening.received] at hacks
    exact firstFlights_receiver hs hstep h.flights hsegments hacks

/-- The sender goes on opening, or leaves the handshake. -/
theorem sender (h : Opening s) (hen : flightMachine.enabled (.sender i) s)
    (hc : wholeCondition s (.sender i)) (hstep : flightMachine.step (.sender i) s = .ok s') : WholeInv s' := by
  obtain ⟨hcond, hfresh⟩ := hc
  obtain ⟨e', hstep, hs, hacks, hsegments⟩ := sender_step hstep
  have hsender : s'.1.sender = e' := by rw [hs]
  have hreceiver : s'.1.receiver = s.1.receiver := by rw [hs]
  have hsend : SendInv False e' := h.sending.step hen.1 hcond hstep
  have hending : e'.Ending := h.senderEnding.step hen.1 hstep
  rw [h.listening.received] at hsegments
  have hflights : s'.2 = s'.1.firstFlights := firstFlights_sender hs hstep h.flights hacks hsegments
  have hunsent (hinit' : e'.rc.initialized = false) : sentPackets e'.dispatched = [] := by
    obtain ⟨hinit, hsame⟩ := Endpoint.step_uninitialized hstep hinit'
    exact hsame.trans (h.unsent hinit)
  have hopening (hearly : e'.rc.initialized = true → e'.cmc.state.isEarly = true) (haccepted : e'.accepted = [])
      (hfin : Wifu.finSent e'.dispatched = false) : WholeInv s' := by
    refine .inl ⟨hsender ▸ hsend, hsender ▸ hending, hreceiver ▸ h.balance, hreceiver ▸ h.receiverEnding,
      hsender ▸ hearly, hsender ▸ hunsent, hsender ▸ haccepted, hsender ▸ hfin, hreceiver ▸ h.listening, ?_, hflights⟩
    rw [hsender, hreceiver]
    intro hstarted
    by_contra hinit'
    have hinit := h.opened hstarted
    rw [(Endpoint.step_uninitialized hstep (by simpa using hinit')).1] at hinit
    cases hinit
  by_cases hinit' : e'.rc.initialized = true
  · by_cases hearly' : e'.cmc.state.isEarly = true
    · -- the SYN has been sent and not been acknowledged
      cases hsend with
      | deleted hdel _ =>
        rw [hending.deleted hdel] at hearly'
        cases hearly'
      | preSyn hp _ _ =>
        rw [hp.initialized] at hinit'
        cases hinit'
      | sent hb hm =>
        refine hopening (fun _ => hearly') (hb.early hearly') ?_
        by_contra hfin
        have hclosing := hm.finSent_isClosing (by simpa using hfin)
        rw [ConnectionManagerState.not_isEarly_of_isClosing hclosing] at hearly'
        cases hearly'
    · have hlate : e'.cmc.state.isEarly = false := by simpa using hearly'
      have hinit : s.1.sender.rc.initialized = true := by
        by_contra hinit
        rw [Endpoint.step_initialized h.sending (by simpa using hinit) hstep hinit'] at hlate
        cases hlate
      obtain ⟨haccepted, p, hp, hsum, hack, hsnd⟩ :=
        Endpoint.step_leaves h.sending hen.1 (h.early hinit) hstep hlate
      obtain ⟨f, hf, rfl, -⟩ := hfresh p hp hsum hack
      rw [h.flights] at hf
      obtain ⟨q, hq, rfl⟩ := List.mem_map.1 hf
      obtain ⟨hheard, hnumber⟩ := h.acknowledges hq hack
      have hshake : s'.1.Handshake := by
        refine ⟨hsender ▸ hinit', hsender ▸ hsnd.trans hnumber, hsender ▸ haccepted, ?_, hreceiver ▸ hheard.rcvNxt,
          hreceiver ▸ h.listening.received, hreceiver ▸ hheard.acks⟩
        rw [hreceiver]
        exact ⟨hheard.started, hheard.rcvNxt.trans hheard.firstExpected.symm, h.listening.buffer⟩
      have hstart := DeliveryInv.start (hsender ▸ hsend) (hreceiver ▸ h.balance) (hsender ▸ hending)
        (hreceiver ▸ h.receiverEnding) hshake (hreceiver ▸ h.listening.hasEnded)
      rw [← hflights] at hstart
      refine .inr ⟨hstart, hreceiver ▸ hheard.started, ?_⟩
      rw [hreceiver]
      exact List.ne_nil_of_mem hq
  · have hinit' : e'.rc.initialized = false := by simpa using hinit'
    refine hopening (fun hi => ?_) ?_ ?_
    · rw [hinit'] at hi
      cases hi
    · rcases Endpoint.step_accepted hstep with haccepted | ⟨hdel, -⟩
      · exact haccepted.trans h.accepted
      · cases hsend with
        | deleted hdel' _ =>
          rw [hdel] at hdel'
          cases hdel'
        | preSyn hp _ _ => exact hp.accepted
        | sent hb _ =>
          rw [hb.initialized] at hinit'
          cases hinit'
    · unfold Wifu.finSent
      rw [hunsent hinit']
      rfl

end Opening

namespace Delivering

/-- The receiver has processed the SYN, and so processes no other one. -/
theorem step {i : Input} (h : Delivering s) (hen : flightMachine.enabled i s) (hc : wholeCondition s i)
    (hstep : flightMachine.step i s = .ok s') : Delivering s' := by
  cases i with
  | sender i =>
    obtain ⟨e', -, hs, -⟩ := sender_step hstep
    refine ⟨h.toDeliveryInv.step hen hc hstep, ?_, ?_⟩ <;> rw [hs]
    · exact h.started
    · exact h.answered
  | receiver i =>
    have hstream : streamCondition s (.receiver i) := by
      intro p hp ha
      obtain ⟨hsyn, hfresh⟩ := hc p hp ha
      refine ⟨?_, hfresh⟩
      by_contra hsyn'
      have := hsyn (by simpa using hsyn')
      rw [h.started] at this
      cases this
    obtain ⟨e', hown, hs, -⟩ := receiver_step hstep
    refine ⟨h.toDeliveryInv.step hen hstream hstep, ?_, ?_⟩ <;> rw [hs]
    · exact Endpoint.step_started h.balance h.started hown
    · obtain ⟨d, hsent, -⟩ := newFlights_eq (n := 0) hown
      rw [hsent]
      exact List.append_ne_nil_of_left_ne_nil h.answered d

end Delivering

theorem WholeInv.step {i : Input} (h : WholeInv s) (hen : flightMachine.enabled i s) (hc : wholeCondition s i)
    (hstep : flightMachine.step i s = .ok s') : WholeInv s' := by
  rcases h with h | h
  · cases i with
    | sender i => exact h.sender hen hc hstep
    | receiver i => exact .inl (h.receiver hen hc hstep)
  · exact .inr (h.step hen hc hstep)

/-- What a connection guarantees of the direction from the sender to the receiver. -/
structure Delivers (c : Connection) : Prop where
  handed : handedBytes c.receiver.dispatched <+: c.sender.accepted
  kept : ∃ l, l <:+ c.sender.socket.sendBuffer ∧ c.sender.accepted = c.receiver.receivedBytes ++ l
  closed : c.sender.cmc.state.isClosing = true → c.receiver.receivedBytes = c.sender.accepted
  ended : c.receiver.cmc.state.hasEnded = true →
    finSent c.sender.dispatched = true ∧ c.receiver.receivedBytes = c.sender.accepted
  agreed : c.sender.rc.initialized = true → c.sender.cmc.state.isEarly = false →
    c.receiver.rc.receiveWindow.started = true

theorem WholeInv.delivers (h : WholeInv s) : s.1.Delivers := by
  rcases h with h | h
  · have hreceived := h.listening.received
    refine ⟨?_, ⟨[], List.nil_suffix, ?_⟩, fun _ => ?_, fun hend => ?_, fun hinit hlate => ?_⟩
    · rw [h.listening.handed]
      exact List.nil_prefix
    · rw [h.accepted, hreceived, List.append_nil]
    · rw [h.accepted, hreceived]
    · rw [h.listening.hasEnded] at hend
      cases hend
    · rw [h.early hinit] at hlate
      cases hlate
  · refine ⟨(List.prefix_append _ _).trans h.received, ⟨_, h.unreceived, ?_⟩, h.complete, fun hend => ?_,
      fun _ _ => h.started⟩
    · exact (List.prefix_iff_eq_append.1 h.received).symm
    · have hf := h.ended hend
      exact ⟨hf, h.complete (h.isClosing hf)⟩

end

/-- From the creation of two endpoints on, in every run that meets `wholeCondition`: the bytes handed to the receiving
application are the beginning of those accepted from the sending one, what has not been received is in the send buffer,
a sender that closes has had everything received, the end of the stream is the end of what has been accepted, and where
the sender has left the handshake the receiver has processed its SYN. -/
theorem whole_connection {a b : SocketId} {la ra lb rb : AddressPort} {is : List Input} {s : Connection × Flights}
    (hrun : flightMachine.Run wholeCondition (⟨.create a la ra, .create b lb rb⟩, {}) is s) : s.1.Delivers := by
  have hinv : WholeInv s := hrun.invariant WholeInv (.inl (.create a b la ra lb rb))
    fun _ _ _ hinv hen hc hstep => hinv.step hen hc hstep
  exact hinv.delivers

/-- After the handshake the client sends two bytes and closes; the server reads them. -/
def transferScript : List Input :=
  handshakeScript ++ [.sender (.send ⟨2, [1, 2]⟩), .sender .drain, .sender .drain, .sender (.close ⟨3⟩),
    .receiver (.packet (clientSegment 2 2 [1, 2])), .receiver .drain, .receiver .drain, .receiver (.receive ⟨4, 9⟩),
    .receiver .drain]

/-- The client's FIN leaves after its bytes have been acknowledged, and the server processes it. -/
theorem whole_connection_close : ∃ s : Connection × Flights, s.1.sender.accepted = [1, 2] ∧
    s.1.receiver.cmc.state = .closeWait ∧ s.1.Delivers := by
  have h : (flightMachine.replay wholeCondition (transferScript ++
      [.sender (.packet { Endpoint.segment 2 4 [] with receiveWindowSize := 65533 }), .sender .drain, .sender .drain,
        .receiver (.packet { clientSegment 4 2 [] with fin := true }), .receiver .drain]) (clientAndServer, {})).any
      (fun s => decide (s.1.sender.accepted = [1, 2] ∧ s.1.receiver.cmc.state = .closeWait)) = true := by
    decide +kernel
  obtain ⟨s, hrun, hq⟩ := Transition.Machine.exists_run h
  obtain ⟨haccepted, hstate⟩ := of_decide_eq_true hq
  exact ⟨s, haccepted, hstate, whole_connection hrun⟩

end Connection

end Wifu
