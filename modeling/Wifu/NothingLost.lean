import Wifu.StateDiagram
import Wifu.StreamIntegrity

/-!
# Nothing is lost

What the receiver has not received of the accepted bytes is still in the sender's send buffer.  The sender closes only when
everything has been acknowledged, and so received; the end of the stream, which the FIN tells, is the end of what the sender
has accepted.
-/

namespace Wifu

namespace ConnectionManagerState

/-- The peer's FIN has been processed. -/
def hasEnded : ConnectionManagerState → Bool
  | .closeWait | .lastAck | .timeWait | .closing => true
  | _ => false

section

variable {s t : ConnectionManagerState} {c : Cause} {cs : List Cause}

theorem not_isOpen_of_isClosing (h : s.isClosing = true) : s.isOpen = false := by
  cases s <;> first | rfl | cases h

theorem next_hasEnded (h : s.next c = some t) (ht : t.hasEnded = true) : s.hasEnded = true ∨ c = .fin ∨ c = .finAck := by
  unfold next at h
  split at h <;> cases h <;> first | exact .inl rfl | exact .inr (.inl rfl) | exact .inr (.inr rfl) | cases ht

/-- Only a FIN ends the stream. -/
theorem follow_hasEnded (h : s.follow cs = some t) (ht : t.hasEnded = true) (hs : s.hasEnded = false) :
    ∃ c ∈ cs, c = .fin ∨ c = .finAck := by
  induction cs generalizing s with
  | nil =>
    cases h
    rw [hs] at ht
    cases ht
  | cons c cs ih =>
    obtain ⟨u, hu, h⟩ := Option.bind_eq_some_iff.1 h
    by_cases hend : u.hasEnded = true
    · exact ⟨c, List.mem_cons_self, (next_hasEnded hu hend).resolve_left (by simp [hs])⟩
    · obtain ⟨d, hd, hfin⟩ := ih h (by simpa using hend)
      exact ⟨d, List.mem_cons_of_mem c hd, hfin⟩

end

end ConnectionManagerState

namespace Endpoint

section

variable {strict : Prop} {e e' : Endpoint} {i : Input} {p : TCPPacket} {u u' : Nat}

/-! ### The sender -/

theorem Oldest.unique (h : e.Oldest u) (h' : e.Oldest u') : u' = u := by
  have hmax : tcpSocketMaxBufferSize = 131071 := rfl
  have hle := h.le
  have hacc := h.accepted_le
  exact h'.position_eq h.sndUna (by omega) (by omega)

/-- Closing, everything accepted has been acknowledged. -/
theorem SendMode.closing_acknowledged (hm : SendMode strict e) (hs : e.cmc.state.isClosing = true) :
    ∃ u, e.Oldest u ∧ 1 + e.accepted.length ≤ u := by
  have hmax : tcpSocketMaxBufferSize = 131071 := rfl
  have hopen := ConnectionManagerState.not_isOpen_of_isClosing hs
  cases hm with
  | sending u n m c hm =>
    rw [hm.state] at hopen
    cases hopen
  | resending u m c hm =>
    rw [hm.state] at hopen
    cases hopen
  | finWaiting hm => exact ⟨_, ⟨hm.rc.sndUna, by omega, by omega⟩, le_rfl⟩
  | finSent u n c k hm =>
    rcases hm.buffer with ⟨hu, -⟩ | ⟨hu, -⟩
    · exact ⟨u, ⟨hm.rc.sndUna, by omega, by omega⟩, by omega⟩
    · exact ⟨u, ⟨hm.rc.sndUna, by omega, by omega⟩, by omega⟩

theorem SendMode.finSent_isClosing (hm : SendMode strict e) (hf : Wifu.finSent e.dispatched = true) :
    e.cmc.state.isClosing = true := by
  cases hm with
  | sending u n m c hm =>
    rw [hm.finSent] at hf
    cases hf
  | resending u m c hm =>
    rw [hm.finSent] at hf
    cases hf
  | finWaiting hm => exact hm.state
  | finSent u n c k hm => exact hm.state

/-- What has been accepted behind `snd_una` is in the send buffer. -/
theorem SendMode.unacknowledged (hb : e.SendBase) (hm : SendMode strict e) :
    ∃ u, e.Oldest u ∧ ∀ k, u ≤ 1 + k → e.accepted.drop k <:+ e.socket.sendBuffer := by
  have hbuffer {u : Nat} (h : e.socket.sendBuffer = (synByte :: e.accepted).drop u) (k : Nat) (hk : u ≤ 1 + k) :
      e.accepted.drop k <:+ e.socket.sendBuffer := by
    have hdrop : e.accepted.drop k = ((synByte :: e.accepted).drop u).drop (1 + k - u) := by
      rw [List.drop_drop, show u + (1 + k - u) = k + 1 by omega, List.drop_succ_cons]
    rw [h, hdrop]
    exact List.drop_suffix _ _
  have hnone {k : Nat} (hk : e.accepted.length ≤ k) : e.accepted.drop k <:+ e.socket.sendBuffer := by
    rw [List.drop_of_length_le hk]
    exact List.nil_suffix
  obtain ⟨u, hu⟩ := hm.oldest hb
  refine ⟨u, hu, fun k hk => ?_⟩
  cases hm with
  | sending v n m c hm =>
    have ho := hm.order
    have hlen := hb.buffer_le
    rw [hm.buffer, List.length_drop, List.length_cons] at hlen
    exact hbuffer hm.buffer k (by rwa [hu.unique ⟨hm.rc.sndUna, by omega, by omega⟩])
  | resending v m c hm =>
    have ho := hm.order
    have hlen := hb.buffer_le
    rw [hm.buffer, List.length_drop, List.length_cons] at hlen
    exact hbuffer hm.buffer k (by rwa [hu.unique ⟨hm.rc.sndUna, by omega, by omega⟩])
  | finWaiting hm =>
    obtain ⟨v, hv, hle⟩ := (SendMode.finWaiting hm : SendMode strict e).closing_acknowledged hm.state
    rw [hu.unique hv] at hle
    exact hnone (by omega)
  | finSent v n c m hm =>
    obtain ⟨v, hv, hle⟩ := SendMode.closing_acknowledged (.finSent v n c m hm) hm.state
    rw [hu.unique hv] at hle
    exact hnone (by omega)

/-- Nothing is accepted behind a FIN. -/
theorem accepted_of_finSent (hinv : SendInv strict e) (hinv' : SendInv strict e') (hstep : step i e = .ok e')
    (hf : finSent e.dispatched = true) : e'.accepted = e.accepted := by
  have hmax : tcpSocketMaxBufferSize = 131071 := rfl
  obtain ⟨q, hq, hfin⟩ := List.any_eq_true.1 hf
  obtain ⟨d, hsent, -⟩ := Connection.newFlights_eq (n := 0) hstep
  have hq' : q ∈ sentPackets e'.dispatched := by
    rw [hsent]
    exact List.mem_append_left _ hq
  have hnumber := ((hinv.sentOk q hq).fin hfin).2
  rw [((hinv'.sentOk q hq').fin hfin).2] at hnumber
  have hlength := step_accepted_length hstep
  have hle := (step_accepted_grows hstep).length_le
  have heq := (seqAt_inj (by omega) (by omega)).1 hnumber
  exact ((step_accepted_grows hstep).eq_of_length (by omega)).symm

/-- A step that deletes the socket, or comes after that, finds it closed and accepts nothing. -/
theorem step_deletes (hinv : SendInv strict e) (hinit : e.rc.initialized = true) (hend : e.Ending) (hen : enabled i e)
    (hstep : step i e = .ok e') (hdel : e'.deleted = true) : e.cmc.state = .closed ∧ e'.accepted = e.accepted := by
  have haccepted : e'.accepted = e.accepted := by
    rcases step_accepted hstep with h | ⟨hnot, -⟩
    · exact h
    · rw [hdel] at hnot
      cases hnot
  refine ⟨?_, haccepted⟩
  cases hinv with
  | deleted hdel' _ => exact hend.deleted hdel'
  | preSyn hp _ _ =>
    rw [hp.initialized] at hinit
    cases hinit
  | sent hb hm =>
    by_cases hi : i = .drain
    · subst hi
      obtain ⟨hforward, hstate⟩ := Forward.drain hend.toDeletesClosed hend.closing hstep
      rw [← hstate]
      exact hforward.deletes.deleted hdel
    · have hlow (hq : e.queue = []) (h : (if e.deleted then .ok e else e.handleLow i) = .ok e') : e'.SendBase := by
        rw [hb.deleted, if_neg Bool.false_ne_true] at h
        exact (hm.handleLow hb hq h).1
      have hb' : e'.SendBase := by
        cases i with
        | drain => exact absurd rfl hi
        | _ => exact hlow hen hstep
      rw [hb'.deleted] at hdel
      cases hdel

/-! ### The receiver -/

/-- Received bytes stay. -/
theorem step_receivedBytes_grows (hw : e.WindowBalance) (hstep : step i e = .ok e') :
    e.receivedBytes <+: e'.receivedBytes := by
  cases step_receivedStep hw hstep with
  | same _ _ hr => rw [hr]
  | accept p _ _ h hh =>
    obtain ⟨hindex, l, hl, -⟩ := Places.receive_appends h
    rw [receivedBytes_append hw.balanced hl hindex hh]
    exact List.prefix_append _ _

theorem accepts_of_takes (h : e.takes p = true) : e.accepts p = true := by
  unfold takes at h
  simp only [Bool.and_eq_true, Bool.not_eq_true', Bool.and_eq_false_iff, decide_eq_false_iff_not] at h
  obtain ⟨⟨⟨hsum, hack⟩, hseq⟩, hfin⟩ := h
  refine accepts_taken hsum (Bool.and_eq_false_iff.2 (hack.imp_right (by simp))) hseq fun hf => ?_
  have := hfin.resolve_left (by simp [hf])
  omega

/-- A step into the states behind the FIN takes one. -/
theorem step_hasEnded (hinv : e.Ending) (hen : enabled i e) (hstep : step i e = .ok e') (hs : e.cmc.state.hasEnded = false)
    (hs' : e'.cmc.state.hasEnded = true) : ∃ p, e.delivered i = some p ∧ e.accepts p = true ∧ p.fin = true := by
  obtain ⟨-, cs, -, hbrings, hfollow⟩ := step_path hinv.toDeletesClosed hinv.closing hen hstep
  obtain ⟨c, hc, hfin⟩ := ConnectionManagerState.follow_hasEnded hfollow hs' hs
  have hb := hbrings c hc
  rcases hfin with rfl | rfl
  · obtain ⟨p, hp, htakes, hfin⟩ := hb
    exact ⟨p, hp, accepts_of_takes htakes, hfin⟩
  · obtain ⟨p, hp, htakes, hfin⟩ := hb
    replace hfin : (p.fin && p.ack) = true := hfin
    rw [Bool.and_eq_true] at hfin
    exact ⟨p, hp, accepts_of_takes htakes, hfin.1⟩

end

end Endpoint

namespace Connection

open Endpoint (SendInv SendMode Ending)

/-- The stream arrives, all of it before the sender closes, and it ends with a FIN that has been sent. -/
structure DeliveryInv (s : Connection × Flights) : Prop extends StreamInv s where
  senderEnding : s.1.sender.Ending
  receiverEnding : s.1.receiver.Ending
  complete : s.1.sender.cmc.state.isClosing = true → s.1.receiver.receivedBytes = s.1.sender.accepted
  ended : s.1.receiver.cmc.state.hasEnded = true → finSent s.1.sender.dispatched = true

section

variable {s s' : Connection × Flights} {i : Endpoint.Input} {e' : Endpoint}

namespace DeliveryInv

/-- The sender has sent its FIN: it is closing. -/
theorem isClosing (h : DeliveryInv s) (hf : finSent s.1.sender.dispatched = true) :
    s.1.sender.cmc.state.isClosing = true := by
  cases h.sending with
  | deleted hdel _ =>
    rw [h.senderEnding.deleted hdel]
    rfl
  | preSyn hp _ _ =>
    have := hp.initialized
    rw [h.initialized] at this
    cases this
  | sent _ hm => exact hm.finSent_isClosing hf

/-- The position of `snd_una` is not behind `rcv_nxt` while the receiver reassembles. -/
theorem closing_received (hinv : StreamInv s) (hmode : Streaming s) (hm : SendMode False s.1.sender)
    (hs : s.1.sender.cmc.state.isClosing = true) : s.1.receiver.receivedBytes = s.1.sender.accepted := by
  obtain ⟨u, hu, hle⟩ := hmode.oldest
  obtain ⟨v, hv, hle'⟩ := hm.closing_acknowledged hs
  have huv := hu.unique hv
  have hreceived := hinv.received
  exact hreceived.eq_of_length_le (by omega)

theorem sender (h : DeliveryInv s) (hen : flightMachine.enabled (.sender i) s)
    (hc : streamCondition s (.sender i)) (hstep : flightMachine.step (.sender i) s = .ok s') : DeliveryInv s' := by
  have hinv' := h.toStreamInv.sender hen hc hstep
  obtain ⟨e', hstep, hs, -⟩ := sender_step hstep
  have hsender : s'.1.sender = e' := by rw [hs]
  have hreceiver : s'.1.receiver = s.1.receiver := by rw [hs]
  have hending := h.senderEnding.step hen.1 hstep
  have hsend' : SendInv False e' := hsender ▸ hinv'.sending
  -- once the FIN has been sent nothing changes
  have hdone (hf : finSent s.1.sender.dispatched = true) : s.1.receiver.receivedBytes = e'.accepted := by
    rw [Endpoint.accepted_of_finSent h.sending hsend' hstep hf]
    exact h.complete (h.isClosing hf)
  refine ⟨hinv', hsender ▸ hending, hreceiver ▸ h.receiverEnding, fun hclosing => ?_, fun hend => ?_⟩
  · by_cases hf : finSent s.1.sender.dispatched = true
    · rw [hsender, hreceiver]
      exact hdone hf
    · cases hsend' with
      | deleted hdel _ =>
        -- it was closed before
        obtain ⟨hstate, haccepted⟩ := Endpoint.step_deletes h.sending h.initialized h.senderEnding hen.1 hstep hdel
        rw [hsender, hreceiver, haccepted]
        refine h.complete ?_
        rw [hstate]
        rfl
      | preSyn hp _ _ =>
        have := hp.initialized
        rw [← hsender, hinv'.initialized] at this
        cases this
      | sent hb hm =>
        rcases hinv'.mode with hmode | hmode
        · exact closing_received hinv' hmode (hsender ▸ hm) hclosing
        · -- the receiver had processed the FIN before
          refine absurd ?_ hf
          rcases h.mode with hstream | hfinished
          · have hunexpected := hmode.unexpected
            rw [hreceiver] at hunexpected
            exact absurd hstream.firstExpected hunexpected
          · obtain ⟨q, hq, hfin, -⟩ := hfinished.fin
            exact List.any_eq_true.2 ⟨q, hq, hfin⟩
  · rw [hsender]
    rw [hreceiver] at hend
    exact Endpoint.finSent_step (h.ended hend) hstep

theorem receiver (h : DeliveryInv s) (hen : flightMachine.enabled (.receiver i) s)
    (hc : streamCondition s (.receiver i)) (hstep : flightMachine.step (.receiver i) s = .ok s') : DeliveryInv s' := by
  have hinv' := h.toStreamInv.receiver hen hc hstep
  obtain ⟨e', hstep, hs, -⟩ := receiver_step hstep
  have hsender : s'.1.sender = s.1.sender := by rw [hs]
  have hreceiver : s'.1.receiver = e' := by rw [hs]
  have hgrows := Endpoint.step_receivedBytes_grows h.balance hstep
  have hreceived := hinv'.received
  refine ⟨hinv', hsender ▸ h.senderEnding, hreceiver ▸ h.receiverEnding.step hen.1 hstep, fun hclosing => ?_,
    fun hend => ?_⟩
  · rw [hsender] at hclosing hreceived ⊢
    rw [hreceiver] at hreceived ⊢
    rw [h.complete hclosing] at hgrows
    exact hreceived.eq_of_length_le hgrows.length_le
  · rw [hsender]
    rw [hreceiver] at hend
    by_cases hbefore : s.1.receiver.cmc.state.hasEnded = true
    · exact h.ended hbefore
    · obtain ⟨p, hp, ha, hfin⟩ := Endpoint.step_hasEnded h.receiverEnding hen.1 hstep (by simpa using hbefore) hend
      obtain ⟨f, hf, rfl, -⟩ := (hc p hp ha).2
      exact List.any_eq_true.2 ⟨_, h.carried f hf, hfin⟩

theorem step {i : Input} (h : DeliveryInv s) (hen : flightMachine.enabled i s) (hc : streamCondition s i)
    (hstep : flightMachine.step i s = .ok s') : DeliveryInv s' := by
  cases i with
  | sender i => exact h.sender hen hc hstep
  | receiver i => exact h.receiver hen hc hstep

/-- What has not been received is in the send buffer. -/
theorem unreceived (h : DeliveryInv s) :
    s.1.sender.accepted.drop s.1.receiver.receivedBytes.length <:+ s.1.sender.socket.sendBuffer := by
  have hnone (heq : s.1.receiver.receivedBytes = s.1.sender.accepted) :
      s.1.sender.accepted.drop s.1.receiver.receivedBytes.length <:+ s.1.sender.socket.sendBuffer := by
    rw [heq, List.drop_length]
    exact List.nil_suffix
  rcases h.mode with hmode | hmode
  · cases h.sending with
    | deleted hdel _ => exact hnone (h.complete (by rw [h.senderEnding.deleted hdel]; rfl))
    | preSyn hp _ _ =>
      have := hp.initialized
      rw [h.initialized] at this
      cases this
    | sent hb hm =>
      obtain ⟨u, hu, hbuffer⟩ := hm.unacknowledged hb
      obtain ⟨v, hv, hle⟩ := hmode.oldest
      have huv := hu.unique hv
      exact hbuffer _ (by omega)
  · obtain ⟨q, hq, hfin, -⟩ := hmode.fin
    exact hnone (h.complete (h.isClosing (List.any_eq_true.2 ⟨q, hq, hfin⟩)))

end DeliveryInv

end

/-- In the handshake both sides keep what holds of the deletion of a socket. -/
theorem opening_ending {a b : SocketId} {la ra lb rb : AddressPort} {is : List Input} {c : Connection}
    (h : machine.Run opening ⟨.create a la ra, .create b lb rb⟩ is c) : c.sender.Ending ∧ c.receiver.Ending := by
  refine h.invariant (fun c => c.sender.Ending ∧ c.receiver.Ending) ⟨.create a la ra, .create b lb rb⟩ ?_
  intro c i c' hinv hen _ hstep
  cases i with
  | sender i =>
    obtain ⟨e', hown, hok⟩ := bind_eq_ok.1 hstep
    cases hok
    exact ⟨hinv.1.step hen.1 hown, hinv.2⟩
  | receiver i =>
    obtain ⟨e', hown, hok⟩ := bind_eq_ok.1 hstep
    cases hok
    exact ⟨hinv.1, hinv.2.step hen.1 hown⟩

/-- A handshake in which the receiver has not come behind a FIN is a start. -/
theorem DeliveryInv.start {c : Connection} (hsend : SendInv False c.sender) (hw : c.receiver.WindowBalance)
    (hsender : c.sender.Ending) (hreceiver : c.receiver.Ending) (hshake : c.Handshake)
    (hend : c.receiver.cmc.state.hasEnded = false) : DeliveryInv (c, c.firstFlights) := by
  refine ⟨.start hsend hw hshake, hsender, hreceiver, fun _ => ?_, fun h => ?_⟩
  · exact hshake.received.trans hshake.accepted.symm
  · rw [hend] at h
    cases h

end Connection

end Wifu
