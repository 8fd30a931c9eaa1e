import Wifu.CloseRequest

/-!
# What the handlers put in the queue

A handler only adds events to the queue.  Most of them are ordinary.  The others are the FIN that waits after the connection
manager has closed, the deletion of a closed socket, what the congestion control sends again from the front of the send
buffer, and the request for that.
-/

namespace Wifu

/-- The event sends no FIN, asks for no retransmission and deletes no socket. -/
structure ProtocolEvent.Ordinary (v : ProtocolEvent) : Prop where
  isResend : v.isResend = false
  fin : ∀ p ∈ v.packet, p.fin = false
  keepsSocket : v.kind ≠ .deleteSocket

theorem ProtocolEvent.ordinary_packet (s : SocketId) {p : TCPPacket} (hp : p.fin = false) :
    (⟨s, .sendPacket p⟩ : ProtocolEvent).Ordinary := by
  refine ⟨rfl, fun q hq => ?_, by simp⟩
  rw [← Option.some_inj.1 hq]
  exact hp

/-- An event that is neither a packet nor one of the other exceptions. -/
theorem ProtocolEvent.ordinary_other {v : ProtocolEvent} (hr : v.isResend = false) (hp : v.packet = none)
    (hd : v.kind ≠ .deleteSocket) : v.Ordinary := by
  refine ⟨hr, fun q hq => ?_, hd⟩
  rw [hp] at hq
  cases hq

namespace Endpoint

/-- Ordinary events are added to the queue. -/
def Appends (e e' : Endpoint) : Prop := ∃ q, e'.queue = e.queue ++ q ∧ ∀ v ∈ q, v.Ordinary

/-- The socket's deletion is added to the queue, and its manager is in the state `Closed`. -/
structure Deletes (e e' : Endpoint) : Prop where
  state : e'.cmc.state = .closed
  queue : e'.queue = e.queue ++ [⟨e.socket.id, .deleteSocket⟩]

namespace Appends

variable {e e' e'' : Endpoint} {p : TCPPacket}

theorem of_eq (h : e'.queue = e.queue) : Appends e e' := ⟨[], by rw [h, List.append_nil], by simp⟩

theorem refl (e : Endpoint) : Appends e e := of_eq rfl

theorem trans (h : Appends e e') (h' : Appends e' e'') : Appends e e'' := by
  obtain ⟨q, hq, hnew⟩ := h
  obtain ⟨q', hq', hnew'⟩ := h'
  refine ⟨q ++ q', by rw [hq', hq, List.append_assoc], fun v hv => ?_⟩
  rcases List.mem_append.1 hv with hv | hv
  · exact hnew v hv
  · exact hnew' v hv

theorem enqueueFor (e : Endpoint) {s : SocketId} {k : ProtocolEventKind} (h : (⟨s, k⟩ : ProtocolEvent).Ordinary) :
    Appends e (e.enqueueFor s k) :=
  ⟨[⟨s, k⟩], rfl, by simpa using h⟩

theorem enqueuePacket (e : Endpoint) (s : SocketId) (hp : p.fin = false) : Appends e (e.enqueueFor s (.sendPacket p)) :=
  enqueueFor e (ProtocolEvent.ordinary_packet s hp)

theorem enqueueOther (e : Endpoint) {s : SocketId} {k : ProtocolEventKind}
    (hr : (⟨s, k⟩ : ProtocolEvent).isResend = false) (hp : (⟨s, k⟩ : ProtocolEvent).packet = none)
    (hd : k ≠ .deleteSocket) : Appends e (e.enqueueFor s k) :=
  enqueueFor e (ProtocolEvent.ordinary_other hr hp hd)

theorem createAndDispatchAck (e : Endpoint) : Appends e e.createAndDispatchAck := enqueuePacket e _ rfl

/-! ### Receiving data and reading it -/

theorem handleControlBitsAndData (h : e.handleControlBitsAndData p = .ok e') : Appends e e' := by
  obtain ⟨v, -, rfl⟩ := handleControlBitsAndData_ok h
  refine ⟨_, rfl, ?_⟩
  have hack : (⟨e.socket.id, .sendPacket e.emptyPacket⟩ : ProtocolEvent).Ordinary := ProtocolEvent.ordinary_packet _ rfl
  have hgrown : (⟨e.socket.id, .receiveBufferNotEmpty⟩ : ProtocolEvent).Ordinary :=
    ProtocolEvent.ordinary_other rfl rfl (by simp)
  intro x hx
  unfold acceptEvents dataEvents at hx
  split at hx
  · cases hx
  · split at hx
    · rcases List.mem_append.1 hx with hx | hx
      · split at hx
        · rw [List.mem_singleton.1 hx]
          exact hgrown
        · cases hx
      · rw [List.mem_singleton.1 hx]
        exact hack
    · cases hx

theorem createAndDispatchReceivedData (e : Endpoint) (r : ReceiveEvent) :
    Appends e (e.createAndDispatchReceivedData r) := by
  unfold Endpoint.createAndDispatchReceivedData
  simp only
  refine trans ?_ (enqueueOther _ rfl rfl (by simp))
  have hack (c : Prop) [Decidable c] : Appends e (if c then e.createAndDispatchAck else e) := by
    split
    · exact createAndDispatchAck e
    · exact refl e
  exact (hack _).trans (of_eq rfl)

theorem receive {r : ReceiveEvent} (h : e.reliabilityReceive r = .ok e') : Appends e e' := by
  obtain ⟨-, rfl⟩ | ⟨-, -, rfl⟩ := reliabilityReceive_ok h
  · exact createAndDispatchReceivedData e r
  · exact of_eq rfl

theorem receiveBufferNotEmpty (e : Endpoint) : Appends e e.reliabilityReceiveBufferNotEmpty := by
  obtain heq | ⟨r, -, -, heq⟩ := receiveBufferNotEmpty_cases e <;> rw [heq]
  · exact refl e
  · exact (createAndDispatchReceivedData e _).trans (of_eq rfl)

theorem receiveBufferNotFull (e : Endpoint) : Appends e e.receiveBufferNotFull := by
  refine of_eq ?_
  obtain ⟨-, heq⟩ | ⟨p, -, -, heq⟩ := receiveBufferNotFull_cases e <;> rw [heq]
  rfl

/-! ### The connection manager -/

theorem setState (e : Endpoint) (s : ConnectionManagerState) : Appends e (e.setState s) := of_eq (setState_queue e s)

theorem processSyn (e : Endpoint) (p : TCPPacket) : Appends e (e.processSyn p) := by
  have hnumbered : Appends e { e with
      nextSocket := e.nextSocket + 1, cmc := { e.cmc with acceptSocket := e.socket.id } } := of_eq rfl
  unfold Endpoint.processSyn
  exact ((hnumbered.trans (enqueueOther _ rfl rfl (by simp))).trans (enqueuePacket _ _ rfl)).trans (setState _ _)

theorem closeSocket (e : Endpoint) : Deletes e ((e.enqueue .deleteSocket).setState .closed) :=
  ⟨setState_state _ _, setState_queue _ _⟩

/-- Only a socket in LAST_ACK is deleted when a packet is received. -/
theorem managerReceivePacket (e : Endpoint) (p : TCPPacket) : Appends e (e.managerReceivePacket p) ∨
    Deletes e (e.managerReceivePacket p) := by
  have hanswer (s : ConnectionManagerState) : Appends e (e.createAndDispatchAck.setState s) :=
    (createAndDispatchAck e).trans (setState _ _)
  unfold Endpoint.managerReceivePacket
  split
  · split
    · exact .inl (processSyn e p)
    · exact .inl (refl e)
  · split
    · exact .inl ((enqueuePacket e _ rfl).trans (setState _ _))
    · exact .inl (refl e)
  · split
    · exact .inl ((enqueueOther e rfl rfl (by simp)).trans (setState _ _))
    · exact .inl (refl e)
  · split
    · exact .inl (refl e)
    · split
      · exact .inl ((hanswer _).trans (of_eq rfl))
      · exact .inl (refl e)
  · split
    · exact .inl (hanswer _)
    · split
      · exact .inl (setState _ _)
      · exact .inl (refl e)
  · split
    · exact .inl (hanswer _)
    · exact .inl (refl e)
  · split
    · exact .inl (setState _ _)
    · exact .inl (refl e)
  · split
    · exact .inr (closeSocket e)
    · exact .inl (refl e)
  · split
    · exact .inl ((createAndDispatchAck e).trans (of_eq rfl))
    · exact .inl (refl e)
  · exact .inl (refl e)
  · exact .inl (refl e)

theorem managerTimerFired (e : Endpoint) (t : TimeoutEvent) : Appends e (e.managerTimerFired t) ∨
    Deletes e (e.managerTimerFired t) := by
  unfold Endpoint.managerTimerFired
  split
  · split
    · exact .inr (closeSocket e)
    · exact .inl (refl e)
  · exact .inl (refl e)

theorem managerListen (e : Endpoint) (l : ListenEvent) : Appends e (e.managerListen l) := by
  unfold Endpoint.managerListen
  split
  · exact of_eq (setState_queue _ _)
  · exact refl e

theorem managerConnect (e : Endpoint) (c : ConnectEvent) : Appends e (e.managerConnect c) := by
  unfold Endpoint.managerConnect
  split
  · have hset : Appends e { e with
        cmc := { e.cmc with connectionType := .activeOpen, connectEvent := some c, socket := e.socket.id }
        socket := { e.socket with
          localAddress := ⟨c.localAddress, e.socket.localAddress.port⟩, remoteAddress := c.address } } := of_eq rfl
    exact (hset.trans (enqueuePacket _ _ rfl)).trans (setState _ _)
  · exact refl e

/-! ### The congestion control -/

theorem sendOnePacket {w : Bool} (h : e.sendOnePacket w = .ok e') : Appends e e' := by
  obtain ⟨k, -, -, -, -, -, rfl⟩ := sendOnePacket_ok h
  exact enqueuePacket _ _ rfl

theorem sendPackets (h : e.sendPackets = .ok e') : Appends e e' :=
  sendPackets_invariant (Appends e) h (refl e) fun _ _ ha _ hone => ha.trans (sendOnePacket hone)

theorem startProbeTimer (e : Endpoint) : Appends e e.startProbeTimer := by
  refine of_eq ?_
  unfold Endpoint.startProbeTimer
  split <;> rfl

theorem cancelProbeTimer (e : Endpoint) : Appends e e.cancelProbeTimer := by
  refine of_eq ?_
  unfold Endpoint.cancelProbeTimer
  split <;> rfl

theorem congestionReceivePacket (h : e.congestionReceivePacket p = .ok e') : Appends e e' := by
  unfold Endpoint.congestionReceivePacket at h
  split at h
  · obtain ⟨ccc, -, h⟩ := bind_eq_ok.1 h
    have hset : Appends e { e with ccc := ccc } := of_eq rfl
    unfold sendOrProbe at h
    split at h
    · cases h
      exact hset.trans (startProbeTimer _)
    · exact (hset.trans (cancelProbeTimer _)).trans (sendPackets h)
  · cases h
    exact refl e

theorem receiveUnlessDuplicate {b : Bool} (h : e.receiveUnlessDuplicate p b = .ok e') : Appends e e' := by
  obtain ⟨-, rfl⟩ | ⟨-, h⟩ := receiveUnlessDuplicate_ok h
  · exact refl _
  · exact congestionReceivePacket h

theorem congestionTimerFired {t : TimeoutEvent} (h : e.congestionTimerFired t = .ok e') : Appends e e' := by
  unfold Endpoint.congestionTimerFired at h
  split at h
  · have htimer : Appends e ({ e with
        ccc := { e.ccc with probeTimer := some (e.newTimeout e.socket.id) } }.dispatchTimeout e.socket.id) := of_eq rfl
    exact htimer.trans (sendOnePacket h)
  · cases h
    exact refl e

/-! ### The send buffer -/

theorem saveInBuffer (e : Endpoint) (s : SendEvent) (n : Nat) : Appends e (e.saveInBuffer s n) :=
  ⟨[⟨e.socket.id, .sendBufferNotEmpty⟩], rfl, by simpa using ProtocolEvent.ordinary_other rfl rfl (by simp)⟩

theorem send {s : SendEvent} (h : e.send s = .ok e') : Appends e e' := by
  obtain ⟨n, -, ⟨-, rfl⟩ | ⟨-, rfl⟩⟩ := send_ok h
  · exact saveInBuffer e s n
  · exact of_eq rfl

theorem sendBufferNotFull (h : e.sendBufferNotFull = .ok e') : Appends e e' := by
  obtain ⟨-, rfl⟩ | ⟨_, n, -, -, ⟨-, rfl⟩ | ⟨-, rfl⟩⟩ := sendBufferNotFull_ok h
  · exact refl _
  · exact (saveInBuffer e _ n).trans (of_eq rfl)
  · exact refl _

theorem startTimer (e : Endpoint) : Appends e e.startTimer := by
  unfold Endpoint.startTimer
  split
  · exact refl e
  · exact of_eq rfl

theorem cancelTimer (e : Endpoint) : Appends e e.cancelTimer := by
  refine of_eq ?_
  unfold Endpoint.cancelTimer
  split <;> rfl

theorem handleValidAck (h : e.handleValidAck p = .ok e') : Appends e e' := by
  unfold Endpoint.handleValidAck at h
  obtain ⟨-, -, h⟩ := bind_eq_ok.1 h
  have hacked : Appends e { e with
      rc := { e.rc with snd := e.rc.snd.acknowledge p.ackNumber }
      socket := { e.socket with
        sendBuffer := e.socket.sendBuffer.drop (p.ackNumber - e.rc.snd.sndUna).toNat } } := of_eq rfl
  have hnew := hacked.trans (enqueueOther _ (s := e.socket.id) (k := .sendBufferNotFull) rfl rfl (by simp))
  split at h
  · cases h
    exact hnew.trans (cancelTimer _)
  · split at h
    · cases h
      exact hnew.trans ((cancelTimer _).trans (startTimer _))
    · cases h
      exact hnew

/-! ### The exceptions -/

/-- Closing sends a FIN, or deletes a socket that listens, or does nothing. -/
theorem managerClose (e : Endpoint) :
    (∃ s, (s = .finWait1 ∨ s = .lastAck) ∧ e.managerClose = { e with
      cmc := { e.cmc with state := s }, queue := e.queue ++ [⟨e.socket.id, .sendPacket e.finPacket⟩] }) ∨
    (e.cmc.state = .listen ∧ Deletes e e.managerClose) ∨ e.managerClose = e := by
  rcases managerClose_cases e with h | hlisten | h
  · exact .inl h
  · refine .inr (.inl ⟨hlisten, ?_⟩)
    unfold Endpoint.managerClose
    rw [hlisten]
    exact closeSocket e
  · exact .inr (.inr h)

/-- What is sent again has a FIN only if the FIN stands at the front of the send buffer. -/
theorem congestionResendPacket (h : e.congestionResendPacket = .ok e') : ∃ p : TCPPacket,
    e'.queue = e.queue ++ [⟨e.socket.id, .sendPacket p⟩] ∧
    (p.fin = true → e.socket.sendBuffer.head? = some finByte) := by
  unfold Endpoint.congestionResendPacket resendData at h
  obtain ⟨q, hq, h⟩ := bind_eq_ok.1 h
  cases h
  refine ⟨q, rfl, fun hfin => ?_⟩
  unfold resendPacket at hq
  simp only at hq
  obtain ⟨-, -, hq⟩ := bind_eq_ok.1 hq
  split at hq
  · cases hq
    cases hfin
  · split at hq
    · assumption
    · obtain ⟨k, -, hq⟩ := bind_eq_ok.1 hq
      obtain ⟨-, -, hq⟩ := bind_eq_ok.1 hq
      cases hq
      cases hfin

end Appends

end Endpoint

end Wifu
