import Wifu.SendRun

/-!
# Control bits are acknowledged before the connection manager advances

The connection manager leaves the states in which it waits for the acknowledgement of its SYN or FIN when a packet with
an acceptable ACK number arrives, whatever that number is.  As long as those packets acknowledge everything that has been
sent, `snd_una` has passed the SYN or FIN.
-/

namespace Wifu

/-- The packet moves the connection manager out of a state in which its SYN or FIN is to be acknowledged. -/
def ConnectionManagerState.movedBy (s : ConnectionManagerState) (p : TCPPacket) : Bool :=
  match s with
  | .synSent => p.syn && p.ack
  | .synReceived | .finWait1 => p.ack
  | .lastAck => p.isNakedAck
  | _ => false

/-- A state in which the acknowledgement of the SYN or FIN is waited for. -/
def ConnectionManagerState.waitsForAck : ConnectionManagerState → Bool
  | .synSent | .synReceived | .finWait1 | .lastAck => true
  | _ => false

theorem OutstandingDataContext.acknowledge_sndUna (c : OutstandingDataContext) (a : BitVec 32) :
    (c.acknowledge a).sndUna = a := by
  unfold acknowledge
  simp only
  split <;> rfl

namespace Endpoint

/-- A packet that moves the connection manager out of such a state, and whose ACK number is acceptable, acknowledges
everything that has been sent. -/
def ackCondition (e : Endpoint) (i : Input) : Prop :=
  ∀ p ∈ e.delivered i, e.cmc.state.movedBy p = true → isValidAckNumber e.rc p = true →
    p.ackNumber = e.rc.snd.sndMax

instance (e : Endpoint) (i : Input) : Decidable (ackCondition e i) :=
  inferInstanceAs (Decidable (∀ p ∈ e.delivered i, _))

section

variable {strict : Prop} {e e' : Endpoint} {p : TCPPacket}

/-! ### When the connection manager moves -/

theorem managerReceivePacket_state (hw : e.cmc.state.waitsForAck = true) (hp : e.cmc.state.movedBy p = false) :
    (e.managerReceivePacket p).cmc.state = e.cmc.state := by
  unfold managerReceivePacket
  cases hs : e.cmc.state with
  | synSent =>
    have hack : (p.syn && p.ack) = false := by rw [hs] at hp; exact hp
    simp only [hack, Bool.false_eq_true, if_false, hs]
  | synReceived =>
    have hack : p.ack = false := by rw [hs] at hp; exact hp
    simp only [hack, Bool.false_eq_true, if_false, hs]
  | finWait1 =>
    have hack : p.ack = false := by rw [hs] at hp; exact hp
    simp only [hack, Bool.and_false, Bool.false_eq_true, if_false, hs]
  | lastAck =>
    have hack : p.isNakedAck = false := by rw [hs] at hp; exact hp
    simp only [hack, Bool.false_eq_true, if_false, hs]
  | _ =>
    rw [hs] at hw
    cases hw

theorem managerClose_waits (hw : e.cmc.state.waitsForAck = true) : e.managerClose = e := by
  unfold managerClose
  cases hs : e.cmc.state with
  | listen | established | closeWait =>
    rw [hs] at hw
    cases hw
  | _ => rfl

theorem runSavedClose_state (hw : e.cmc.state.waitsForAck = true) : e.runSavedClose.cmc.state = e.cmc.state := by
  rcases runSavedClose_cases e with ⟨-, heq⟩ | ⟨-, heq⟩
  · rw [heq]
    rw [managerClose_waits hw]
  · rw [heq]

theorem reliabilityReceivePacket_cmc (h : e.reliabilityReceivePacket p = .ok e') : e'.cmc = e.cmc := by
  obtain ⟨e₁, -, hack, h⟩ := reliabilityReceivePacket_ok h
  split at h
  · obtain ⟨v, -, rfl⟩ := h
    exact hack.cmc
  · rw [h]
    exact hack.cmc

/-- An acceptable ACK number becomes `snd_una`. -/
theorem handleAck_sndUna {b : Bool} (hb : e.SendBase) (hm : SendMode strict e) (hq : e.queue = []) (hack : p.ack = true)
    (hvalid : isValidAckNumber e.rc p = true) (h : e.handleAck p = .ok (b, e')) :
    e'.rc.snd.sndUna = p.ackNumber := by
  unfold handleAck at h
  simp only [hack, Bool.not_true, Bool.false_eq_true, if_false] at h
  by_cases hr : betweenEqualRight e.rc.snd.sndUna p.ackNumber e.rc.snd.sndMax = true
  · rw [if_pos hr] at h
    obtain ⟨e₁, h₁, h⟩ := bind_eq_ok.1 h
    cases h
    obtain ⟨hnum, hne⟩ := hm.acked_outstanding hb hq hr
    rw [(handleValidAck_frame hq hnum hne h₁).snd]
    exact OutstandingDataContext.acknowledge_sndUna _ _
  · obtain ⟨u, n, m, c, k, hi⟩ := hm.idle hb hq
    have ho := hi.order
    have hna : p.ackNumber = e.rc.snd.sndUna := by
      unfold isValidAckNumber at hvalid
      obtain ⟨a, ha, hua, ham⟩ := hi.rc.betweenEqual (by omega) (by omega) hvalid
      rw [ha, hi.rc.betweenEqualRight_iff (by omega) (by omega) hua ham] at hr
      rw [ha, hi.rc.sndUna, show a = u by omega]
    have hdup : (e.handleDuplicateAck p).rc.snd.sndUna = e.rc.snd.sndUna := by
      unfold handleDuplicateAck countDuplicateAck
      simp only
      split <;> split <;> rfl
    rw [if_neg hr, not_beyond_of_valid hvalid, if_neg Bool.false_ne_true] at h
    split at h
    · cases h
      rw [hdup, hna]
    · cases h
      exact hna.symm

/-- A packet moves the connection manager out of a state that waits for an ACK only with an acceptable ACK number,
which becomes `snd_una`. -/
theorem receivePacket_moves (hb : e.SendBase) (hm : SendMode strict e) (hq : e.queue = [])
    (hw : e.cmc.state.waitsForAck = true) (h : e.receivePacket p = .ok e') (hne : e'.cmc.state ≠ e.cmc.state) :
    e.cmc.state.movedBy p = true ∧ isValidAckNumber e.rc p = true ∧ e'.rc.snd.sndUna = p.ackNumber := by
  have hcase := receivePacket_cases e p
  rw [h] at hcase
  cases hcase with
  | corrupt _ h | answered _ _ h | ignored _ _ h | parked _ _ _ _ _ h =>
    cases h
    exact absurd rfl hne
  | skipping _ _ _ h => exact absurd (congrArg _ (reliabilityReceivePacket_cmc h.symm)) hne
  | lingering _ _ hs _ =>
    rw [hs] at hw
    cases hw
  | taken _ hinv _ _ h =>
    obtain ⟨e₁, h₁, h⟩ := bind_eq_ok.1 h.symm
    obtain ⟨e₂, h₂, h⟩ := bind_eq_ok.1 h
    cases h
    have hcmc := reliabilityReceivePacket_cmc h₁
    have hcc := CongestionChange.receiveUnlessDuplicate h₂
    have hmoved : e.cmc.state.movedBy p = true := by
      rw [← Bool.not_eq_false]
      intro hno
      have hstate : e₂.cmc.state = e.cmc.state := by
        rw [hcc.cmc, managerReceivePacket_state (by rw [hcmc]; exact hw) (by rw [hcmc]; exact hno), hcmc]
      exact hne ((runSavedClose_state (by rw [hstate]; exact hw)).trans hstate)
    have hack : p.ack = true := by
      unfold ConnectionManagerState.movedBy at hmoved
      split at hmoved
      · exact (Bool.and_eq_true _ _ ▸ hmoved).2
      · exact hmoved
      · exact hmoved
      · unfold TCPPacket.isNakedAck at hmoved
        simp only [Bool.and_eq_true] at hmoved
        exact hmoved.1.1.1.1.1.1
      · cases hmoved
    have hvalid : isValidAckNumber e.rc p = true := by simpa [hack] using hinv
    refine ⟨hmoved, hvalid, ?_⟩
    obtain ⟨b, e₀, hhandle, hframe⟩ := reliabilityReceivePacket_frame h₁
    have hecho := SendFrame.updateEchoReply e p
    have hrc : (e.updateEchoReply p).queue = e.queue ∧
        isValidAckNumber (e.updateEchoReply p).rc p = isValidAckNumber e.rc p := by
      obtain ⟨t, heq⟩ := updateEchoReply_eq e p
      rw [heq]
      exact ⟨rfl, rfl⟩
    have hclose : e₂.runSavedClose.rc = e₂.rc := (ManagerChange.runSavedClose e₂).rc
    rw [hclose, hcc.rc, (ManagerChange.receivePacket e₁ p).rc, hframe.snd]
    exact handleAck_sndUna (hecho.base hb) (hecho.mode hm) (hrc.1.trans hq) hack (hrc.2.trans hvalid) hhandle

theorem createAndDispatchReceivedData_cmc (e : Endpoint) (r : ReceiveEvent) :
    (e.createAndDispatchReceivedData r).cmc = e.cmc := by
  unfold createAndDispatchReceivedData
  simp only [enqueue, enqueueFor, dispatch]
  split <;> rfl

theorem handleProtocolEvent_state {k : ProtocolEventKind} (h : e.handleProtocolEvent k = .ok e') :
    e'.cmc.state = e.cmc.state := by
  unfold handleProtocolEvent at h
  split at h
  · obtain ⟨q, hs⟩ := sendPacket_ok h
    exact hs.state
  · rw [(CongestionChange.resendPacket h).cmc]
  · rw [(CongestionChange.sendPackets h).cmc]
  · obtain ⟨-, rfl⟩ | ⟨_, k, -, -, ⟨-, rfl⟩ | ⟨-, rfl⟩⟩ := sendBufferNotFull_ok h <;> rfl
  · cases h
    obtain heq | ⟨r, -, -, heq⟩ := receiveBufferNotEmpty_cases e
    · rw [heq]
    · rw [heq]
      exact congrArg _ (createAndDispatchReceivedData_cmc e _)
  · cases h
    obtain ⟨-, heq⟩ | ⟨p, -, -, heq⟩ := receiveBufferNotFull_cases e <;> rw [heq]
    rfl
  · cases h
    rfl
  · cases h
    rfl
  · cases h
    rfl

/-- A step moves the connection manager out of a state that waits for an ACK only when it delivers a packet that does,
with an acceptable ACK number, which becomes `snd_una`. -/
theorem step_moves {i : Input} (hinv : SendInv strict e) (hen : enabled i e) (hw : e.cmc.state.waitsForAck = true)
    (h : step i e = .ok e') (hne : e'.cmc.state ≠ e.cmc.state) :
    e.SendBase ∧ SendMode strict e ∧ e.queue = [] ∧ ∃ p, e.delivered i = some p ∧ e.cmc.state.movedBy p = true ∧
      isValidAckNumber e.rc p = true ∧ e'.rc.snd.sndUna = p.ackNumber := by
  have hclosed : e.cmc.state ≠ .closed := by
    intro hs
    rw [hs] at hw
    cases hw
  have hsent (hd : e.deleted = false) (hq : e.queue = []) : e.SendBase ∧ SendMode strict e := by
    cases hinv with
    | deleted hd' _ =>
      rw [hd] at hd'
      cases hd'
    | preSyn hp _ _ => rcases hp.cases_idle hq with hs | hs <;> (rw [hs] at hw; cases hw)
    | sent hb hm => exact ⟨hb, hm⟩
  replace h := step_ok h
  cases h with
  | dropped _ h | skipped _ _ h | tick _ _ h =>
    cases h
    exact absurd rfl hne
  | event _ _ _ h => exact absurd (handleProtocolEvent_state h.symm) hne
  | @packet i p ps hd hdel _ h =>
    have hq : e.queue = [] := by
      cases i <;> first | exact hen | cases hd
    obtain ⟨hb, hm⟩ := hsent hdel hq
    have hframe : SendFrame e { e with redelivered := ps } :=
      .of_same ⟨rfl, rfl, rfl, rfl, rfl, rfl, rfl, rfl, rfl, rfl, rfl, rfl⟩
    have hmoves := receivePacket_moves (hframe.base hb) (hframe.mode hm) hq hw h.symm hne
    exact ⟨hb, hm, hq, p, hd, hmoves⟩
  | listen l _ h =>
    cases h
    rw [managerListen_of_ne hclosed] at hne
    exact absurd rfl hne
  | connect c _ h =>
    cases h
    rw [managerConnect_of_ne hclosed] at hne
    exact absurd rfl hne
  | send s _ _ h =>
    obtain ⟨k, -, ⟨-, rfl⟩ | ⟨-, rfl⟩⟩ := send_ok h.symm <;> exact absurd rfl hne
  | receive r _ _ h =>
    obtain ⟨-, rfl⟩ | ⟨-, -, rfl⟩ := reliabilityReceive_ok h.symm
    · exact absurd (congrArg _ (createAndDispatchReceivedData_cmc e r)) hne
    · exact absurd rfl hne
  | close c _ h =>
    cases h
    -- a state that waits for an ACK ignores the request to close
    rcases close_cases e c with ⟨-, heq⟩ | ⟨-, heq⟩
    · rw [heq, managerClose_waits hw] at hne
      exact absurd rfl hne
    · rw [heq] at hne
      exact absurd rfl hne
  | timerFired t _ _ h =>
    replace h := h.symm
    unfold timerFired at h
    have hrel : (e.reliabilityTimerFired t).cmc = e.cmc := (AckChange.timerFired e t).cmc
    have hman : ((e.reliabilityTimerFired t).managerTimerFired t).cmc = e.cmc := by
      unfold managerTimerFired
      rw [hrel]
      cases hs : e.cmc.state with
      | timeWait =>
        rw [hs] at hw
        cases hw
      | _ => exact hrel
    exact absurd (congrArg _ ((CongestionChange.timerFired h).cmc.trans hman)) hne

/-- The connection manager has left the handshake with its SYN acknowledged, and `FinWait1` and `LastAck` with its FIN
acknowledged. -/
structure ControlAcknowledged (e e' : Endpoint) : Prop where
  syn : e.cmc.state.isEarly = true → e'.cmc.state.isEarly = false → e'.rc.snd.sndUna = iss + 1
  fin : e.cmc.state = .finWait1 ∨ e.cmc.state = .lastAck → e'.cmc.state ≠ e.cmc.state →
    finSent e.dispatched = true ∧
      ∀ q ∈ sentPackets e.dispatched, q.fin = true → e'.rc.snd.sndUna = q.sequenceNumber + 1

/-- Along every run that meets `sendCondition` and `ackCondition`, the connection manager leaves the handshake,
`FinWait1` and `LastAck` only with its SYN or FIN acknowledged. -/
theorem control_acknowledged {id : SocketId} {l r : AddressPort} {is : List Input} {i : Input}
    (hrun : machine.Run (fun e i => sendCondition False e i ∧ ackCondition e i) (create id l r) is e)
    (hen : enabled i e) (hc : ackCondition e i) (hs : step i e = .ok e') : ControlAcknowledged e e' := by
  have hinv := run_sendInv (fun _ _ h => h.1) hrun
  constructor
  · intro hearly hearly'
    have hw : e.cmc.state.waitsForAck = true := by
      cases hstate : e.cmc.state <;> simp_all [ConnectionManagerState.isEarly, ConnectionManagerState.waitsForAck]
    have hne : e'.cmc.state ≠ e.cmc.state := by
      intro heq
      rw [heq, hearly] at hearly'
      cases hearly'
    obtain ⟨hb, hm, hq, p, hp, hmoved, hvalid, hsnd⟩ := step_moves hinv hen hw hs hne
    rw [hsnd, hc p hp hmoved hvalid]
    rcases hm.cases_idle hq with ⟨u, n, m, hm⟩ | ⟨u, c, k, hm⟩
    · have hm1 : m = 1 := by
        have hacc := hb.early hearly
        have ho := hm.order
        rw [hacc, List.length_nil] at ho
        omega
      rw [hm.rc.sndMax, hm1]
      rfl
    · have := hm.state
      cases hstate : e.cmc.state <;> simp_all [ConnectionManagerState.isEarly, ConnectionManagerState.isClosing]
  · intro hstate hne
    have hw : e.cmc.state.waitsForAck = true := by
      rcases hstate with h | h <;> rw [h] <;> rfl
    obtain ⟨hb, hm, hq, p, hp, hmoved, hvalid, hsnd⟩ := step_moves hinv hen hw hs hne
    rcases hm.cases_idle hq with ⟨u, n, m, hm⟩ | ⟨u, c, k, hm⟩
    · have := hm.state
      rcases hstate with h | h <;> rw [h] at this <;> cases this
    · refine ⟨hm.finSent, fun q hq' hf => ?_⟩
      rw [hsnd, hc p hp hmoved hvalid, hm.rc.sndMax, ((hb.sent q hq').fin hf).2]
      have hone : seqAt (1 + e.accepted.length) + BitVec.ofNat 32 1 = seqAt (2 + e.accepted.length) := by
        rw [seqAt_add]
        congr 1
        omega
      exact hone.symm

end

/-- The client's FIN is acknowledged. -/
theorem control_acknowledged_fin : ∃ e e',
    machine.Run (fun e i => sendCondition False e i ∧ ackCondition e i) client
      (connectScript 100 ++ [.close ⟨2⟩, .drain]) e ∧
    step (.packet (segment 101 3 [])) e = .ok e' ∧ e.cmc.state = .finWait1 ∧ e'.cmc.state = .finWait2 ∧
    ControlAcknowledged e e' := by
  have h : (machine.replay (fun e i => sendCondition False e i ∧ ackCondition e i)
      (connectScript 100 ++ [.close ⟨2⟩, .drain]) client).any (fun e =>
      decide (enabled (.packet (segment 101 3 [])) e) && decide (ackCondition e (.packet (segment 101 3 []))) &&
      decide (e.cmc.state = .finWait1) &&
      machine.leads (.packet (segment 101 3 [])) e fun e' => decide (e'.cmc.state = .finWait2)) = true := by
    decide +kernel
  obtain ⟨e, hrun, hq⟩ := Transition.Machine.exists_run h
  simp only [Bool.and_eq_true, decide_eq_true_eq] at hq
  obtain ⟨⟨⟨hen, hc⟩, hstate⟩, hl⟩ := hq
  obtain ⟨e', hs, hstate'⟩ := Transition.Machine.leads_iff.1 hl
  exact ⟨e, e', hrun, hs, hstate, of_decide_eq_true hstate', control_acknowledged hrun hen hc hs⟩

/-- A SYN whose ACK number is the client's `iss` establishes the connection with the client's SYN outstanding. -/
theorem control_acknowledged_iss : ∃ e e',
    machine.Run Transition.anyStep client [.connect ⟨1, serverAddress, clientAddress.address⟩, .drain] e ∧
    enabled (.packet { segment 100 1 [] with syn := true }) e ∧
    step (.packet { segment 100 1 [] with syn := true }) e = .ok e' ∧ e.cmc.state = .synSent ∧
    e'.cmc.state = .established ∧ e'.rc.snd.sndUna = iss := by
  have h : (machine.replay Transition.anyStep [.connect ⟨1, serverAddress, clientAddress.address⟩, .drain] client).any
      (fun e => decide (enabled (.packet { segment 100 1 [] with syn := true }) e) && decide (e.cmc.state = .synSent) &&
      machine.leads (.packet { segment 100 1 [] with syn := true }) e fun e' =>
        decide (e'.cmc.state = .established) && decide (e'.rc.snd.sndUna = iss)) = true := by decide +kernel
  obtain ⟨e, hrun, hq⟩ := Transition.Machine.exists_run h
  simp only [Bool.and_eq_true, decide_eq_true_eq] at hq
  obtain ⟨⟨hen, hstate⟩, hl⟩ := hq
  obtain ⟨e', hs, hq'⟩ := Transition.Machine.leads_iff.1 hl
  rw [Bool.and_eq_true, decide_eq_true_eq, decide_eq_true_eq] at hq'
  exact ⟨e, e', hrun, hen, hs, hstate, hq'⟩

end Endpoint

end Wifu
