import Wifu.Tahoe

/-!
# Case analysis of a step

Which handler a step calls and on which endpoint (`step_cases`), and the ways a packet takes through
`icontext_receive_packet` (`receivePacket_cases`).  What a step does to one part of the state follows from these by
cases, without unfolding `step`.
-/

namespace Wifu

namespace Endpoint

/-! ### What each handler does -/

section

variable {e e' : Endpoint} {p : TCPPacket}

theorem getAvailableRoom_ok {n : Nat} (h : e.getAvailableRoom = .ok n) :
    e.socket.sendBuffer.length ≤ tcpSocketMaxBufferSize ∧ n = tcpSocketMaxBufferSize - e.socket.sendBuffer.length := by
  unfold getAvailableRoom at h
  obtain ⟨_, hle, h⟩ := bind_eq_ok.1 h
  rw [check_eq_ok, decide_eq_true_iff] at hle
  exact ⟨hle, (Except.ok.inj h).symm⟩

theorem send_ok {s : SendEvent} (h : e.send s = .ok e') : ∃ n, e.getAvailableRoom = .ok n ∧
    (0 < n ∧ e' = e.saveInBuffer s n ∨ n = 0 ∧ e' = { e with savedSendEvent := some s }) := by
  unfold send at h
  obtain ⟨n, hn, h⟩ := bind_eq_ok.1 h
  by_cases hpos : 0 < n
  · rw [if_pos hpos] at h
    exact ⟨n, hn, .inl ⟨hpos, (Except.ok.inj h).symm⟩⟩
  · rw [if_neg hpos] at h
    exact ⟨n, hn, .inr ⟨by omega, (Except.ok.inj h).symm⟩⟩

/-- The request that waits is answered when there is room. -/
theorem sendBufferNotFull_ok (h : e.sendBufferNotFull = .ok e') : e.savedSendEvent = none ∧ e' = e ∨
    ∃ s n, e.savedSendEvent = some s ∧ e.getAvailableRoom = .ok n ∧
      (0 < n ∧ e' = { e.saveInBuffer s n with savedSendEvent := none } ∨ n = 0 ∧ e' = e) := by
  unfold sendBufferNotFull at h
  cases hs : e.savedSendEvent with
  | none =>
    rw [hs] at h
    exact .inl ⟨rfl, (Except.ok.inj h).symm⟩
  | some s =>
    rw [hs] at h
    obtain ⟨n, hn, h⟩ := bind_eq_ok.1 h
    by_cases hpos : 0 < n
    · rw [if_pos hpos] at h
      exact .inr ⟨s, n, rfl, hn, .inl ⟨hpos, (Except.ok.inj h).symm⟩⟩
    · rw [if_neg hpos] at h
      exact .inr ⟨s, n, rfl, hn, .inr ⟨by omega, (Except.ok.inj h).symm⟩⟩

/-- A request to receive is answered at once, or waits. -/
theorem reliabilityReceive_ok {r : ReceiveEvent} (h : e.reliabilityReceive r = .ok e') :
    e.socket.receiveBuffer ≠ [] ∧ e' = e.createAndDispatchReceivedData r ∨
      e.socket.receiveBuffer = [] ∧ e.rc.receiveEvent = none ∧
        e' = { e with rc := { e.rc with receiveEvent := some r } } := by
  unfold reliabilityReceive at h
  by_cases hbuf : e.socket.receiveBuffer = []
  · rw [if_neg (not_not.2 hbuf)] at h
    obtain ⟨_, hnone, h⟩ := bind_eq_ok.1 h
    rw [check_eq_ok, Option.isNone_iff_eq_none] at hnone
    exact .inr ⟨hbuf, hnone, (Except.ok.inj h).symm⟩
  · rw [if_pos hbuf] at h
    exact .inl ⟨hbuf, (Except.ok.inj h).symm⟩

/-- Without a request or without data there is nothing to hand over. -/
theorem receiveBufferNotEmpty_idle (h : e.rc.receiveEvent = none ∨ e.socket.receiveBuffer = []) :
    e.reliabilityReceiveBufferNotEmpty = e := by
  unfold reliabilityReceiveBufferNotEmpty
  split
  · rfl
  · rename_i r hr
    rw [if_pos (h.resolve_left (by simp [hr]))]

theorem receiveBufferNotEmpty_waiting {r : ReceiveEvent} (hr : e.rc.receiveEvent = some r)
    (hbuf : e.socket.receiveBuffer ≠ []) : e.reliabilityReceiveBufferNotEmpty =
      { e.createAndDispatchReceivedData r with
        rc := { (e.createAndDispatchReceivedData r).rc with receiveEvent := none } } := by
  unfold reliabilityReceiveBufferNotEmpty
  rw [hr]
  simp only [hbuf, if_false]

/-- The request that waits is answered once there is data. -/
theorem receiveBufferNotEmpty_cases (e : Endpoint) : e.reliabilityReceiveBufferNotEmpty = e ∨
    ∃ r, e.rc.receiveEvent = some r ∧ e.socket.receiveBuffer ≠ [] ∧ e.reliabilityReceiveBufferNotEmpty =
      { e.createAndDispatchReceivedData r with
        rc := { (e.createAndDispatchReceivedData r).rc with receiveEvent := none } } := by
  cases hr : e.rc.receiveEvent with
  | none => exact .inl (receiveBufferNotEmpty_idle (.inl hr))
  | some r =>
    by_cases hbuf : e.socket.receiveBuffer = []
    · exact .inl (receiveBufferNotEmpty_idle (.inr hbuf))
    · exact .inr ⟨r, rfl, hbuf, receiveBufferNotEmpty_waiting hr hbuf⟩

/-- The saved FIN is given back once everything has been read. -/
theorem receiveBufferNotFull_cases (e : Endpoint) :
    (e.savedFin = none ∨ e.rc.rcvWnd.toNat ≠ maxTcpReceiveWindowSize) ∧ e.receiveBufferNotFull = e ∨
    ∃ p, e.savedFin = some p ∧ e.rc.rcvWnd.toNat = maxTcpReceiveWindowSize ∧
      e.receiveBufferNotFull = { e with redelivered := e.redelivered ++ [p] }.dispatch (.networkReceivePacket p) := by
  unfold receiveBufferNotFull
  cases hf : e.savedFin with
  | none => exact .inl ⟨.inl rfl, rfl⟩
  | some p =>
    by_cases hwnd : e.rc.rcvWnd.toNat = maxTcpReceiveWindowSize
    · exact .inr ⟨p, rfl, hwnd, if_pos hwnd⟩
    · exact .inl ⟨.inr hwnd, if_neg hwnd⟩

/-- Closing at once, or once everything has been sent. -/
theorem close_cases (e : Endpoint) (c : CloseEvent) :
    (e.socket.sendBuffer = [] ∧ e.savedSendEvent = none) ∧ e.close c = e.managerClose.dispatch (.closeResponse c) ∨
    ¬(e.socket.sendBuffer = [] ∧ e.savedSendEvent = none) ∧
      e.close c = { e with savedCloseEvent := some c }.dispatch (.closeResponse c) := by
  unfold close
  simp only
  by_cases h : e.socket.sendBuffer = [] ∧ e.savedSendEvent = none
  · rw [if_pos h]
    exact .inl ⟨h, rfl⟩
  · rw [if_neg h]
    exact .inr ⟨h, rfl⟩

/-- The saved CloseEvent is carried out, or nothing happens. -/
theorem runSavedClose_cases (e : Endpoint) :
    (e.savedCloseEvent.isSome = true ∧ e.socket.sendBuffer = [] ∧ e.savedSendEvent = none) ∧
      e.runSavedClose = { e.managerClose with savedCloseEvent := none } ∨
    ¬(e.savedCloseEvent.isSome = true ∧ e.socket.sendBuffer = [] ∧ e.savedSendEvent = none) ∧ e.runSavedClose = e := by
  by_cases h : e.savedCloseEvent.isSome = true ∧ e.socket.sendBuffer = [] ∧ e.savedSendEvent = none
  · exact .inl ⟨h, if_pos h⟩
  · exact .inr ⟨h, if_neg h⟩

theorem receiveUnlessDuplicate_ok {b : Bool} (h : e.receiveUnlessDuplicate p b = .ok e') :
    b = true ∧ e' = e ∨ b = false ∧ e.congestionReceivePacket p = .ok e' := by
  cases b with
  | true => exact .inl ⟨rfl, (Except.ok.inj h).symm⟩
  | false => exact .inr ⟨rfl, h⟩

/-! The handlers fail where the functions they call do. -/

theorem send_error {a : Abort} {s : SendEvent} (h : e.send s = .error a) : e.getAvailableRoom = .error a := by
  unfold send at h
  rcases bind_eq_error.1 h with h | ⟨n, -, h⟩
  · exact h
  · split at h <;> cases h

theorem sendBufferNotFull_error {a : Abort} (h : e.sendBufferNotFull = .error a) : e.getAvailableRoom = .error a := by
  unfold sendBufferNotFull at h
  split at h
  · cases h
  · rcases bind_eq_error.1 h with h | ⟨n, -, h⟩
    · exact h
    · split at h <;> cases h

theorem reliabilityReceive_error {a : Abort} {r : ReceiveEvent} (h : e.reliabilityReceive r = .error a) :
    a = .receivePending := by
  unfold reliabilityReceive at h
  split at h
  · cases h
  · rcases bind_eq_error.1 h with h | ⟨_, -, h⟩
    · exact (check_eq_error.1 h).2.symm
    · cases h

theorem receiveUnlessDuplicate_error {a : Abort} {b : Bool} (h : e.receiveUnlessDuplicate p b = .error a) :
    e.congestionReceivePacket p = .error a := by
  cases b with
  | true => cases h
  | false => exact h

theorem updateEchoReply_eq (e : Endpoint) (p : TCPPacket) :
    ∃ t, e.updateEchoReply p = { e with rc := { e.rc with echoReply := t } } := by
  unfold updateEchoReply
  cases p.timestamp with
  | none => exact ⟨e.rc.echoReply, rfl⟩
  | some ts => exact ⟨ts.timestamp, rfl⟩

/-- Opening actively, or nothing. -/
theorem managerConnect_cases (e : Endpoint) (c : ConnectEvent) : e.managerConnect c = e ∨
    ∃ s : Socket, (s.id = e.socket.id ∧ s.sendBuffer = e.socket.sendBuffer ∧ s.receiveBuffer = e.socket.receiveBuffer) ∧
      e.cmc.state = .closed ∧ e.managerConnect c = { e with
        cmc := { e.cmc with
          connectionType := .activeOpen, connectEvent := some c, socket := e.socket.id, state := .synSent }
        socket := s
        queue := e.queue ++ [⟨e.socket.id, .sendPacket { TCPPacket.new s.localAddress s.remoteAddress [] with
          syn := true }⟩] } := by
  by_cases h : e.cmc.state = .closed
  · exact .inr ⟨{ e.socket with
      localAddress := ⟨c.localAddress, e.socket.localAddress.port⟩, remoteAddress := c.address },
      ⟨rfl, rfl, rfl⟩, h, managerConnect_closed h c⟩
  · exact .inl (managerConnect_of_ne h c)

end

/-! ### Which handler a step calls -/

/-- The packet that a step delivers. -/
def delivered (e : Endpoint) : Input → Option TCPPacket
  | .packet p => if e.deleted then none else some p
  | .redeliver => if e.deleted then none else e.redelivered.head?
  | _ => none

/-- The call a step makes; `r` is what it returns. -/
inductive StepCase (e : Endpoint) (r : Except Abort Endpoint) : Input → Prop
  | dropped {i : Input} (hd : e.delivered i = none) (h : r = .ok e) : StepCase e r i
  | skipped {v : ProtocolEvent} {vs : List ProtocolEvent} (hq : e.queue = v :: vs) (hc : e.contains v.socket = false)
      (h : r = .ok { e with queue := vs }) : StepCase e r .drain
  | event {v : ProtocolEvent} {vs : List ProtocolEvent} (hq : e.queue = v :: vs) (hs : v.socket = e.socket.id)
      (hdel : e.deleted = false) (h : r = { e with queue := vs }.handleProtocolEvent v.kind) : StepCase e r .drain
  | packet {i : Input} {p : TCPPacket} {ps : List TCPPacket} (hd : e.delivered i = some p) (hdel : e.deleted = false)
      (hps : ps = e.redelivered ∨ e.redelivered = p :: ps)
      (h : r = { e with redelivered := ps }.receivePacket p) : StepCase e r i
  | listen (l : ListenEvent) (hdel : e.deleted = false) (h : r = .ok (e.managerListen l)) : StepCase e r (.listen l)
  | connect (c : ConnectEvent) (hdel : e.deleted = false) (h : r = .ok (e.managerConnect c)) : StepCase e r (.connect c)
  | send (s : SendEvent) (hdel : e.deleted = false) (hs : e.cmc.state.canSend = true) (h : r = e.send s) :
      StepCase e r (.send s)
  | receive (q : ReceiveEvent) (hdel : e.deleted = false) (hs : e.cmc.state.canReceive = true)
      (h : r = e.reliabilityReceive q) : StepCase e r (.receive q)
  | close (c : CloseEvent) (hdel : e.deleted = false) (h : r = .ok (e.close c)) : StepCase e r (.close c)
  | timerFired (t : TimeoutEvent) (hdel : e.deleted = false) (ht : t.socket = e.socket.id) (h : r = e.timerFired t) :
      StepCase e r (.timerFired t)
  | tick (now : BitVec 32) (hdel : e.deleted = false) (h : r = .ok { e with now := now }) : StepCase e r (.tick now)

theorem step_cases (e : Endpoint) (i : Input) : StepCase e (step i e) i := by
  cases i with
  | drain =>
    unfold step drain
    simp only
    split
    · exact .dropped rfl rfl
    · rename_i v vs hq
      split
      · rename_i hc
        unfold contains at hc
        rw [Bool.and_eq_true, beq_iff_eq, Bool.not_eq_true'] at hc
        exact .event hq hc.1 hc.2 rfl
      · rename_i hc
        exact .skipped hq (by simpa [contains] using hc) rfl
  | redeliver =>
    unfold step handleLow
    simp only
    split
    · rename_i hdel
      exact .dropped (by simp [delivered, hdel]) rfl
    · rename_i hdel
      split
      · rename_i hr
        exact .dropped (by simp [delivered, hr]) rfl
      · rename_i p ps hr
        exact .packet (by simp [delivered, hdel, hr]) (by simpa using hdel) (.inr hr) rfl
  | packet p =>
    unfold step handleLow
    simp only
    split
    · rename_i hdel
      exact .dropped (by simp [delivered, hdel]) rfl
    · rename_i hdel
      exact .packet (by simp [delivered, hdel]) (by simpa using hdel) (.inl rfl) rfl
  | send s =>
    unfold step handleLow
    simp only
    split
    · exact .dropped rfl rfl
    · rename_i hdel
      split
      · rename_i hs
        exact .send s (by simpa using hdel) hs rfl
      · exact .dropped rfl rfl
  | receive q =>
    unfold step handleLow
    simp only
    split
    · exact .dropped rfl rfl
    · rename_i hdel
      split
      · rename_i hs
        exact .receive q (by simpa using hdel) hs rfl
      · exact .dropped rfl rfl
  | timerFired t =>
    unfold step handleLow
    simp only
    split
    · exact .dropped rfl rfl
    · rename_i hdel
      split
      · rename_i ht
        exact .timerFired t (by simpa using hdel) ht rfl
      · exact .dropped rfl rfl
  | listen l =>
    unfold step handleLow
    simp only
    split
    · exact .dropped rfl rfl
    · rename_i hdel
      exact .listen l (by simpa using hdel) rfl
  | connect c =>
    unfold step handleLow
    simp only
    split
    · exact .dropped rfl rfl
    · rename_i hdel
      exact .connect c (by simpa using hdel) rfl
  | close c =>
    unfold step handleLow
    simp only
    split
    · exact .dropped rfl rfl
    · rename_i hdel
      exact .close c (by simpa using hdel) rfl
  | tick now =>
    unfold step handleLow
    simp only
    split
    · exact .dropped rfl rfl
    · rename_i hdel
      exact .tick now (by simpa using hdel) rfl

/-- The call made by a step that succeeds. -/
theorem step_ok {e e' : Endpoint} {i : Input} (h : step i e = .ok e') : StepCase e (.ok e') i := by
  have hcase := step_cases e i
  rwa [h] at hcase

/-- A socket that has been deleted only loses its events. -/
theorem step_deleted_same {e e' : Endpoint} {i : Input} (hdel : e.deleted = true) (h : step i e = .ok e') :
    e.delivered i = none ∧ ∃ q, e' = { e with queue := q } := by
  have hnone : e.delivered i = none := by
    cases i <;> simp [delivered, hdel]
  refine ⟨hnone, ?_⟩
  replace h := step_ok h
  cases h with
  | dropped _ h =>
    cases h
    exact ⟨_, rfl⟩
  | @skipped v vs _ _ h =>
    cases h
    exact ⟨vs, rfl⟩
  | _ => simp_all

theorem step_deleted {e e' : Endpoint} {i : Input} (hdel : e.deleted = true) (h : step i e = .ok e') :
    e'.deleted = true := by
  obtain ⟨-, q, rfl⟩ := step_deleted_same hdel h
  exact hdel

/-- The call made by a step that fails. -/
theorem step_error {e : Endpoint} {a : Abort} {i : Input} (h : step i e = .error a) : StepCase e (.error a) i := by
  have hcase := step_cases e i
  rwa [h] at hcase

/-- The way a packet takes; `r` is what `icontext_receive_packet` returns. -/
inductive PacketCase (e : Endpoint) (p : TCPPacket) (r : Except Abort Endpoint) : Prop
  | corrupt (hsum : p.validChecksum = false) (h : r = .ok e)
  /-- The ACK number is not acceptable; only the reliability state sees the packet. -/
  | skipping (hsum : p.validChecksum = true) (hack : p.ack = true) (hinv : isValidAckNumber e.rc p = false)
      (h : r = e.reliabilityReceivePacket p)
  | lingering (hack : (p.ack && !isValidAckNumber e.rc p) = false) (hseq : isValidSequenceNumber e.rc p = false)
      (hs : e.cmc.state = .timeWait) (h : r = .ok (e.managerReceivePacket p))
  | answered (hack : (p.ack && !isValidAckNumber e.rc p) = false) (hseq : isValidSequenceNumber e.rc p = false)
      (h : r = .ok e.createAndDispatchAck)
  | ignored (hack : (p.ack && !isValidAckNumber e.rc p) = false) (hseq : isValidSequenceNumber e.rc p = false)
      (h : r = .ok e)
  /-- A FIN waits until the application has read everything. -/
  | parked (hsum : p.validChecksum = true) (hack : (p.ack && !isValidAckNumber e.rc p) = false)
      (hseq : isValidSequenceNumber e.rc p = true) (hfin : p.fin = true)
      (hwnd : e.rc.rcvWnd.toNat < maxTcpReceiveWindowSize) (h : r = .ok { e with savedFin := some p })
  /-- All three contexts see the packet. -/
  | taken (hsum : p.validChecksum = true) (hack : (p.ack && !isValidAckNumber e.rc p) = false)
      (hseq : isValidSequenceNumber e.rc p = true)
      (hfin : p.fin = true → maxTcpReceiveWindowSize ≤ e.rc.rcvWnd.toNat)
      (h : r = do
        let e₁ ← e.reliabilityReceivePacket p
        let e₂ ← (e₁.managerReceivePacket p).receiveUnlessDuplicate p (isDuplicateAck e.rc p)
        .ok e₂.runSavedClose)

theorem receivePacket_cases (e : Endpoint) (p : TCPPacket) : PacketCase e p (e.receivePacket p) := by
  unfold receivePacket
  split
  · rename_i hsum
    exact .corrupt (by simpa using hsum) rfl
  · rename_i hsum
    have hsum : p.validChecksum = true := by simpa using hsum
    split
    · rename_i hinv
      rw [Bool.and_eq_true, Bool.not_eq_true'] at hinv
      exact .skipping hsum hinv.1 hinv.2 rfl
    · rename_i hack
      have hack : (p.ack && !isValidAckNumber e.rc p) = false := by simpa using hack
      split
      · rename_i hseq
        have hseq : isValidSequenceNumber e.rc p = false := by simpa using hseq
        split
        · rename_i hs
          exact .lingering hack hseq hs rfl
        · split
          · exact .answered hack hseq rfl
          · exact .ignored hack hseq rfl
      · rename_i hseq
        have hseq : isValidSequenceNumber e.rc p = true := by simpa using hseq
        split
        · rename_i hfin
          exact .parked hsum hack hseq hfin.1 hfin.2 rfl
        · rename_i hfin
          refine .taken hsum hack hseq (fun hf => ?_) rfl
          by_contra hlt
          exact hfin ⟨hf, by omega⟩

end Endpoint

end Wifu
