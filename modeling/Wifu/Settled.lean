import Wifu.SendView

/-!
# Endpoints past the beginning

Once the SYN has been sent the container stays with its socket and the connection manager never listens again; a
socket whose state is closed is about to be deleted.
-/

namespace Wifu

namespace Endpoint

/-- The container has found its socket; in the closed state the socket's deletion waits in the queue. -/
structure Settled (e : Endpoint) : Prop where
  initiations : initiations e.queue = []
  listen : e.cmc.state ≠ .listen
  closed : e.cmc.state = .closed → ⟨e.socket.id, .deleteSocket⟩ ∈ e.queue
  made : ∀ v ∈ e.queue, v.Made

section

variable {e e' : Endpoint} {p : TCPPacket}

theorem initiations_append (q q' : List ProtocolEvent) : Wifu.initiations (q ++ q') =
    Wifu.initiations q ++ Wifu.initiations q' := by
  simp [Wifu.initiations]

theorem initiations_harmless {s : SocketId} {q : List ProtocolEvent} (h : ∀ v ∈ q, v.Harmless s) :
    Wifu.initiations q = [] := by
  unfold Wifu.initiations
  rw [List.filter_eq_nil_iff]
  intro v hv
  have hkind := (h v hv).base.2
  unfold ProtocolEvent.isInitiation
  split
  · rename_i s' l r li hk
    exact absurd hk (hkind s' l r li)
  · simp

/-- A change that leaves the connection manager's state alone and starts no connection. -/
theorem Settled.of_same (hs : e.Settled) (hstate : e'.cmc.state = e.cmc.state)
    (hinit : Wifu.initiations e'.queue = Wifu.initiations e.queue) (hid : e'.socket.id = e.socket.id) (hg : Grows e e') :
    e'.Settled := by
  refine ⟨hinit.trans hs.initiations, hstate ▸ hs.listen, fun hc => ?_, hg.made hs.made⟩
  rw [hid]
  exact hg.mem_queue (hs.closed (hstate ▸ hc))

theorem ConnectionManagerState.isOpen_or_isClosing {s : ConnectionManagerState} :
    s ≠ .listen ↔ s.isOpen = true ∨ s.isClosing = true := by
  cases s <;> simp [ConnectionManagerState.isOpen, ConnectionManagerState.isClosing]

theorem SendFrame.grows (h : SendFrame e e') : Grows e e' := by
  obtain ⟨q, hq, hharm, -⟩ := h.queue
  obtain ⟨d, hd, -⟩ := h.dispatched
  exact ⟨⟨q, hq, fun v hv => (hharm v hv).made⟩, ⟨d, hd⟩⟩

theorem Settled.frame (hs : e.Settled) (h : SendFrame e e') : e'.Settled := by
  obtain ⟨q, hq, hharm, hclosed⟩ := h.queue
  refine ⟨?_, ?_, fun hc => ?_, h.grows.made hs.made⟩
  · rw [hq, initiations_append, hs.initiations, initiations_harmless hharm]
    rfl
  · have hstate := ConnectionManagerState.isOpen_or_isClosing.1 hs.listen
    exact ConnectionManagerState.isOpen_or_isClosing.2 (hstate.imp h.stateOpen h.stateClosing)
  · rw [hq, h.id]
    rcases hclosed hc with hc | hmem
    · exact List.mem_append_left _ (hs.closed hc)
    · exact List.mem_append_right _ hmem

/-- Closing sends the FIN, or stops listening, or does nothing. -/
theorem managerClose_cases (e : Endpoint) :
    (∃ s, (s = .finWait1 ∨ s = .lastAck) ∧ e.managerClose = { e with
      cmc := { e.cmc with state := s }, queue := e.queue ++ [⟨e.socket.id, .sendPacket e.finPacket⟩] }) ∨
      e.cmc.state = .listen ∨ e.managerClose = e := by
  cases h : e.cmc.state with
  | established =>
    by_cases hbuf : e.socket.sendBuffer = []
    · refine .inl ⟨.finWait1, .inl rfl, ?_⟩
      simp [Endpoint.managerClose, h, hbuf, setState, stateExit, stateEnter, enqueue, enqueueFor]
    · refine .inr (.inr ?_)
      simp [Endpoint.managerClose, h, hbuf]
  | closeWait =>
    refine .inl ⟨.lastAck, .inr rfl, ?_⟩
    simp [Endpoint.managerClose, h, setState, stateExit, stateEnter, enqueue, enqueueFor]
  | listen => exact .inr (.inl rfl)
  | _ =>
    refine .inr (.inr ?_)
    simp [Endpoint.managerClose, h]

theorem Settled.managerClose (hs : e.Settled) : e.managerClose.Settled := by
  rcases managerClose_cases e with ⟨s, hstate, heq⟩ | hlisten | heq
  · have hmade := (Grows.managerClose e).made hs.made
    rw [heq] at hmade ⊢
    refine ⟨(initiations_append_other rfl).trans hs.initiations, ?_, ?_, hmade⟩
    · rcases hstate with rfl | rfl <;> simp
    · rcases hstate with rfl | rfl <;> simp
  · exact absurd hlisten hs.listen
  · rw [heq]
    exact hs

theorem Settled.runSavedClose (hs : e.Settled) : e.runSavedClose.Settled := by
  rcases runSavedClose_cases e with ⟨-, heq⟩ | ⟨-, heq⟩ <;> rw [heq]
  · have hc := hs.managerClose
    exact ⟨hc.initiations, hc.listen, hc.closed, hc.made⟩
  · exact hs

/-- What the congestion control does. -/
theorem Settled.congestion (hs : e.Settled) (hc : CongestionChange e e') (hg : Grows e e') : e'.Settled :=
  hs.of_same (congrArg ConnectionManagerContext.state hc.cmc) hc.initiations (congrArg Socket.id hc.socket) hg

theorem Settled.reliabilityReceivePacket (hs : e.Settled) (h : e.reliabilityReceivePacket p = .ok e') :
    e'.Settled := by
  obtain ⟨e₁, h₁, hack, h⟩ := reliabilityReceivePacket_ok h
  have hecho : Grows e (e.updateEchoReply p) := (SendFrame.updateEchoReply e p).grows
  have hs₁ : e₁.Settled := hs.of_same (congrArg ConnectionManagerContext.state hack.cmc) hack.initiations hack.id
    (hecho.trans (.handleAck h₁))
  split at h
  · obtain ⟨v, -, rfl⟩ := h
    exact hs₁.frame (.withReceive e₁ v (SendFrame.acceptEvents e₁ p v))
  · rw [h]
    exact hs₁

theorem Settled.receivePacket (hs : e.Settled) (h : e.receivePacket p = .ok e') : e'.Settled := by
  have hcase := receivePacket_cases e p
  rw [h] at hcase
  cases hcase with
  | corrupt _ h =>
    cases h
    exact hs
  | skipping _ _ _ h => exact hs.reliabilityReceivePacket h.symm
  | lingering _ _ _ h =>
    cases h
    exact hs.frame (.managerReceivePacket e p hs.listen)
  | answered _ _ h =>
    cases h
    exact hs.frame (.createAndDispatchAck e)
  | ignored _ _ h =>
    cases h
    exact hs
  | parked _ _ _ _ _ h =>
    cases h
    exact ⟨hs.initiations, hs.listen, hs.closed, hs.made⟩
  | taken _ _ _ _ h =>
    obtain ⟨e₁, h₁, h⟩ := bind_eq_ok.1 h.symm
    obtain ⟨e₂, h₂, h⟩ := bind_eq_ok.1 h
    cases h
    have hs₁ := hs.reliabilityReceivePacket h₁
    have hs₂ := hs₁.frame (.managerReceivePacket e₁ p hs₁.listen)
    exact (hs₂.congestion (.receiveUnlessDuplicate h₂) (.receiveUnlessDuplicate h₂)).runSavedClose

theorem reliabilityReceivePacket_same (h : e.reliabilityReceivePacket p = .ok e') :
    e'.socket.id = e.socket.id ∧ e'.deleted = e.deleted := by
  obtain ⟨e₁, -, hack, h⟩ := reliabilityReceivePacket_ok h
  split at h
  · obtain ⟨v, -, rfl⟩ := h
    exact ⟨hack.id, hack.deleted⟩
  · rw [h]
    exact ⟨hack.id, hack.deleted⟩

/-- A packet leaves the endpoint its socket. -/
theorem receivePacket_same (h : e.receivePacket p = .ok e') :
    e'.socket.id = e.socket.id ∧ e'.deleted = e.deleted := by
  have hman (f : Endpoint) : (f.managerReceivePacket p).socket.id = f.socket.id ∧
      (f.managerReceivePacket p).deleted = f.deleted :=
    ⟨congrArg Socket.id (ManagerChange.receivePacket f p).socket, (ManagerChange.receivePacket f p).deleted⟩
  have hcase := receivePacket_cases e p
  rw [h] at hcase
  cases hcase with
  | corrupt _ h | answered _ _ h | ignored _ _ h | parked _ _ _ _ _ h =>
    cases h
    exact ⟨rfl, rfl⟩
  | skipping _ _ _ h => exact reliabilityReceivePacket_same h.symm
  | lingering _ _ _ h =>
    cases h
    exact hman e
  | taken _ _ _ _ h =>
    obtain ⟨e₁, h₁, h⟩ := bind_eq_ok.1 h.symm
    obtain ⟨e₂, h₂, h⟩ := bind_eq_ok.1 h
    cases h
    obtain ⟨hid₁, hdel₁⟩ := reliabilityReceivePacket_same h₁
    have hc := CongestionChange.receiveUnlessDuplicate h₂
    have hclose := ManagerChange.runSavedClose e₂
    exact ⟨(congrArg Socket.id (hclose.socket.trans hc.socket)).trans ((hman e₁).1.trans hid₁),
      hclose.deleted.trans (hc.deleted.trans ((hman e₁).2.trans hdel₁))⟩

/-! ### Waiting events -/

/-- The segment made for a retransmission has a length that is a length. -/
theorem resendPacket_nonneg (h : e.resendPacket = .ok p) : 0 ≤ p.dataLengthBytes := by
  unfold resendPacket at h
  simp only at h
  obtain ⟨-, -, h⟩ := bind_eq_ok.1 h
  split at h
  · cases h
    exact Int.le_refl 0
  · split at h
    · cases h
      exact Int.le_refl 0
    · obtain ⟨k, -, h⟩ := bind_eq_ok.1 h
      obtain ⟨-, -, h⟩ := bind_eq_ok.1 h
      cases h
      exact Int.natCast_nonneg _

theorem Grows.saveInBuffer (e : Endpoint) (s : SendEvent) (n : Nat) : Grows e (e.saveInBuffer s n) :=
  ⟨⟨[⟨e.socket.id, .sendBufferNotEmpty⟩], rfl, by simp [ProtocolEvent.Made, ProtocolEvent.packet]⟩, ⟨_, rfl⟩⟩

/-- Nothing leaves the queue while a protocol event is handled. -/
theorem Grows.handleProtocolEvent {k : ProtocolEventKind} (h : e.handleProtocolEvent k = .ok e') : Grows e e' := by
  unfold Endpoint.handleProtocolEvent at h
  split at h
  · obtain ⟨q, hsent⟩ := sendPacket_ok h
    obtain ⟨d, hd, -⟩ := hsent.dispatched
    exact ⟨⟨[], by rw [hsent.queue, List.append_nil], by simp⟩, ⟨_, by rw [hd, List.append_assoc]⟩⟩
  · unfold resendPacketEvent congestionResendPacket resendData at h
    obtain ⟨q, hq, h⟩ := bind_eq_ok.1 h
    cases h
    refine ⟨⟨_, rfl, ?_⟩, ⟨[], (List.append_nil _).symm⟩⟩
    rw [List.forall_mem_singleton]
    exact ProtocolEvent.made_packet _ (resendPacket_nonneg hq)
  · exact .sendPackets h
  · obtain ⟨-, rfl⟩ | ⟨_, n, -, -, ⟨-, rfl⟩ | ⟨-, rfl⟩⟩ := sendBufferNotFull_ok h
    · exact .refl _
    · exact (Grows.saveInBuffer e _ n).trans (.of_eq rfl rfl)
    · exact .refl _
  · cases h
    exact (SendFrame.receiveBufferNotEmpty e).grows
  · cases h
    exact (SendFrame.receiveBufferNotFull e).grows
  · cases h
    exact .of_eq rfl rfl
  · cases h
    exact .refl _
  · cases h
    exact .of_eq rfl rfl

/-- A waiting event keeps the state, and the socket unless it moves the container to its socket. -/
theorem handleProtocolEvent_same {k : ProtocolEventKind} (hk : ∀ s l r li, k ≠ .connectionInitiated s l r li)
    (h : e.handleProtocolEvent k = .ok e') : e'.cmc.state = e.cmc.state ∧ e'.socket.id = e.socket.id ∧
      Wifu.initiations e'.queue = Wifu.initiations e.queue ∧ (k ≠ .deleteSocket → e'.deleted = e.deleted) := by
  have hframe (hf : SendFrame e e') (hstate : e'.cmc.state = e.cmc.state) : e'.cmc.state = e.cmc.state ∧
      e'.socket.id = e.socket.id ∧ Wifu.initiations e'.queue = Wifu.initiations e.queue ∧
      (k ≠ .deleteSocket → e'.deleted = e.deleted) := by
    obtain ⟨q, hq, hharm, -⟩ := hf.queue
    refine ⟨hstate, hf.id, ?_, fun _ => hf.deleted⟩
    rw [hq, initiations_append, initiations_harmless hharm, List.append_nil]
  have hcongestion (hc : CongestionChange e e') : e'.cmc.state = e.cmc.state ∧
      e'.socket.id = e.socket.id ∧ Wifu.initiations e'.queue = Wifu.initiations e.queue ∧
      (k ≠ .deleteSocket → e'.deleted = e.deleted) :=
    ⟨congrArg ConnectionManagerContext.state hc.cmc, congrArg Socket.id hc.socket, hc.initiations, fun _ => hc.deleted⟩
  unfold Endpoint.handleProtocolEvent at h
  split at h
  · obtain ⟨q, hsent⟩ := sendPacket_ok h
    exact ⟨hsent.state, hsent.id, congrArg Wifu.initiations hsent.queue, fun _ => hsent.deleted⟩
  · exact hcongestion (.resendPacket h)
  · exact hcongestion (.sendPackets h)
  · obtain ⟨-, rfl⟩ | ⟨_, n, -, -, ⟨-, rfl⟩ | ⟨-, rfl⟩⟩ := sendBufferNotFull_ok h
    · exact ⟨rfl, rfl, rfl, fun _ => rfl⟩
    · exact ⟨rfl, rfl, initiations_append_other rfl, fun _ => rfl⟩
    · exact ⟨rfl, rfl, rfl, fun _ => rfl⟩
  · cases h
    refine hframe (.receiveBufferNotEmpty e) ?_
    obtain heq | ⟨r, -, -, heq⟩ := receiveBufferNotEmpty_cases e
    · rw [heq]
    · rw [heq]
      unfold createAndDispatchReceivedData
      simp only
      split <;> rfl
  · cases h
    refine hframe (.receiveBufferNotFull e) ?_
    obtain ⟨-, heq⟩ | ⟨p, -, -, heq⟩ := receiveBufferNotFull_cases e <;> rw [heq]
    rfl
  · rename_i s l r li
    exact absurd rfl (hk s l r li)
  · cases h
    exact ⟨rfl, rfl, rfl, fun _ => rfl⟩
  · cases h
    exact ⟨rfl, rfl, rfl, fun hd => absurd rfl hd⟩

/-- The event just taken out of the queue is handled. -/
theorem Settled.handleProtocolEvent (hs : e.Settled) {v : ProtocolEvent} {vs : List ProtocolEvent}
    (hq : e.queue = v :: vs) (hdel : e.deleted = false)
    (h : { e with queue := vs }.handleProtocolEvent v.kind = .ok e') :
    e'.deleted = true ∨ e'.Settled ∧ e'.socket.id = e.socket.id ∧ e'.deleted = false := by
  have hinit := hs.initiations
  rw [hq] at hinit
  have hnot : v.isInitiation = false := by
    by_contra hv
    have hv : v.isInitiation = true := by simpa using hv
    simp [Wifu.initiations, hv] at hinit
  have hrest : Wifu.initiations vs = [] := by
    simpa [Wifu.initiations, hnot] using hinit
  have hk : ∀ s l r li, v.kind ≠ .connectionInitiated s l r li := by
    intro s l r li hk
    unfold ProtocolEvent.isInitiation at hnot
    rw [hk] at hnot
    cases hnot
  obtain ⟨hstate, hid, hnew, hkeep⟩ := handleProtocolEvent_same hk h
  by_cases hd : v.kind = .deleteSocket
  · rw [hd] at h
    cases h
    exact .inl rfl
  · have hgrows := Grows.handleProtocolEvent h
    have hmade : ∀ w ∈ vs, w.Made := fun w hw => hs.made w (by rw [hq]; exact List.mem_cons_of_mem _ hw)
    refine .inr ⟨⟨hnew.trans hrest, ?_, fun hc => ?_, hgrows.made hmade⟩, hid, (hkeep hd).trans hdel⟩
    · rw [hstate]
      exact hs.listen
    · rw [hstate] at hc
      have hmem := hs.closed hc
      rw [hq] at hmem
      rw [hid]
      rcases List.mem_cons.1 hmem with rfl | hmem
      · exact absurd rfl hd
      · exact hgrows.mem_queue hmem

/-- A step of an endpoint past the beginning. -/
theorem Settled.step (hs : e.Settled) {i : Input} (hdel : e.deleted = false) (hen : enabled i e)
    (hstep : step i e = .ok e') : e'.deleted = true ∨ e'.Settled ∧ e'.socket.id = e.socket.id ∧ e'.deleted = false := by
  have hidle (hq : e.queue = []) : e.cmc.state ≠ .closed := by
    intro hc
    have hmem := hs.closed hc
    rw [hq] at hmem
    cases hmem
  cases step_ok hstep with
  | dropped _ h =>
    cases h
    exact .inr ⟨hs, rfl, hdel⟩
  | @skipped v vs hq hc h =>
    cases h
    have hinit := hs.initiations
    rw [hq] at hinit
    refine .inr ⟨⟨?_, hs.listen, fun hclosed => ?_, fun w hw => hs.made w (by rw [hq]; exact List.mem_cons_of_mem _ hw)⟩,
      rfl, hdel⟩
    · unfold Wifu.initiations at hinit ⊢
      rw [List.filter_eq_nil_iff] at hinit ⊢
      exact fun w hw => hinit w (List.mem_cons_of_mem _ hw)
    · have hmem := hs.closed hclosed
      rw [hq] at hmem
      rcases List.mem_cons.1 hmem with rfl | hmem
      · simp [contains, hdel] at hc
      · exact hmem
  | event hq _ _ h => exact hs.handleProtocolEvent hq hdel h.symm
  | @packet i p ps hd _ _ h =>
    have hq : e.queue = [] := by
      cases i <;> first | exact hen | cases hd
    have hs' : ({ e with redelivered := ps } : Endpoint).Settled := ⟨hs.initiations, hs.listen, hs.closed, hs.made⟩
    obtain ⟨hid, hkeep⟩ := receivePacket_same h.symm
    exact .inr ⟨hs'.receivePacket h.symm, hid, hkeep.trans hdel⟩
  | listen l _ h =>
    cases h
    rw [managerListen_of_ne (hidle hen)]
    exact .inr ⟨hs, rfl, hdel⟩
  | connect c _ h =>
    cases h
    rw [managerConnect_of_ne (hidle hen)]
    exact .inr ⟨hs, rfl, hdel⟩
  | send s _ _ h =>
    obtain ⟨n, -, ⟨-, rfl⟩ | ⟨-, rfl⟩⟩ := send_ok h.symm
    · exact .inr ⟨hs.of_same rfl (initiations_append_other rfl) rfl (.saveInBuffer e s n), rfl, hdel⟩
    · exact .inr ⟨⟨hs.initiations, hs.listen, hs.closed, hs.made⟩, rfl, hdel⟩
  | receive r _ _ h =>
    have hframe := SendFrame.receive h.symm
    exact .inr ⟨hs.frame hframe, hframe.id, hframe.deleted.trans hdel⟩
  | close c _ h =>
    cases h
    rcases close_cases e c with ⟨-, heq⟩ | ⟨-, heq⟩ <;> rw [heq]
    · have hc := hs.managerClose
      exact .inr ⟨⟨hc.initiations, hc.listen, hc.closed, hc.made⟩, congrArg Socket.id (ManagerChange.close e).socket,
        (ManagerChange.close e).deleted.trans hdel⟩
    · exact .inr ⟨⟨hs.initiations, hs.listen, hs.closed, hs.made⟩, rfl, hdel⟩
  | timerFired t _ _ h =>
    have h := h.symm
    unfold timerFired at h
    have hack := AckChange.timerFired e t
    have hstate : (e.reliabilityTimerFired t).cmc.state = e.cmc.state := congrArg ConnectionManagerContext.state hack.cmc
    have hs₁ : (e.reliabilityTimerFired t).Settled :=
      hs.of_same hstate hack.initiations hack.id (.reliabilityTimerFired e t)
    have hman := ManagerChange.timerFired (e.reliabilityTimerFired t) t
    have hcongestion := CongestionChange.timerFired h
    refine .inr ⟨(hs₁.frame (.managerTimerFired _ t)).congestion hcongestion (.congestionTimerFired h), ?_, ?_⟩
    · rw [hcongestion.socket, hman.socket, hack.id]
    · rw [hcongestion.deleted, hman.deleted, hack.deleted, hdel]
  | tick now _ h =>
    cases h
    exact .inr ⟨⟨hs.initiations, hs.listen, hs.closed, hs.made⟩, rfl, hdel⟩

end

end Endpoint

end Wifu
