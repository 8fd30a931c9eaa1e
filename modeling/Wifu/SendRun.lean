import Wifu.SendAck

/-!
# Runs of the sending side

Every step that meets `sendCondition` keeps the invariant of the sending side; so it holds along every run of such
steps.  Whenever nothing waits in the queue the two sending contexts agree.
-/

namespace Wifu

namespace Endpoint

section

variable {strict : Prop} {e e' e'' : Endpoint} {p : TCPPacket} {u n m c : Nat}

/-! ### Before the SYN -/

theorem Unsent.frame (hu : e.Unsent) (h : SendFrame e e') : e'.Unsent where
  initialized := h.initialized.trans hu.initialized
  rcSnd := h.snd.trans hu.rcSnd
  cccSnd := h.cccSnd.trans hu.cccSnd
  timeoutEvent := by
    rw [← Option.not_isSome_iff_eq_none]
    intro ht
    rcases h.timer ht with ht | hne
    · rw [hu.timeoutEvent] at ht
      cases ht
    · exact hne hu.sendBuffer
  sendBuffer := h.sendBuffer.trans hu.sendBuffer
  savedSendEvent := h.savedSendEvent.trans hu.savedSendEvent
  accepted := h.accepted.trans hu.accepted
  sent := fun p hp => (h.sent hp).elim (hu.sent p) fun hp => hp

/-- A step that sends nothing and puts nothing in the queue. -/
theorem PreSyn.frame (hp : e.PreSyn) (h : SendFrame e e') (hq : e'.queue = e.queue)
    (hs : e'.cmc.state = e.cmc.state) : e'.PreSyn := by
  refine ⟨hp.toUnsent.frame h, ?_⟩
  rw [hq, hs, h.id]
  exact hp.queue

theorem PreSyn.cases_idle (hp : e.PreSyn) (hq : e.queue = []) : e.cmc.state = .closed ∨ e.cmc.state = .listen := by
  rcases hp.queue with ⟨hstate, -⟩ | ⟨-, p, -, h | ⟨_, _, _, _, h⟩⟩
  · exact hstate
  · rw [hq] at h
    cases h
  · rw [hq] at h
    cases h

theorem Unsent.numUnsent (hu : e.Unsent) : e.numUnsent = 0 := by
  unfold Endpoint.numUnsent
  rw [hu.sendBuffer, hu.cccSnd]
  rfl

/-- The state of an endpoint whose SYN has not been sent. -/
theorem PreSyn.state (hp : e.PreSyn) :
    e.cmc.state = .closed ∨ e.cmc.state = .listen ∨ e.cmc.state = .synSent ∨ e.cmc.state = .synReceived := by
  rcases hp.queue with ⟨h | h, -⟩ | ⟨h, -⟩
  · exact .inl h
  · exact .inr (.inl h)
  · cases hs : e.cmc.state <;> simp_all [ConnectionManagerState.isEarly]

theorem managerClose_listen (h : e.cmc.state = .listen) : e.managerClose = { e with
    cmc := { e.cmc with state := .closed }, queue := e.queue ++ [⟨e.socket.id, .deleteSocket⟩] } := by
  simp [managerClose, h, setState, stateExit, stateEnter, enqueue, enqueueFor]

theorem PreSyn.managerClose (hp : e.PreSyn) (ht : e.TimersOk) :
    e.managerClose.PreSyn ∧ e.managerClose.TimersOk := by
  rcases managerClose_eq hp.sendBuffer with ⟨s, hs, -⟩ | hlisten | heq
  · rcases hs with ⟨-, hs⟩ | ⟨-, hs⟩ <;> (have hstate := hp.state; rw [hs] at hstate; simp at hstate)
  · rw [managerClose_listen hlisten]
    refine ⟨⟨⟨hp.initialized, hp.rcSnd, hp.cccSnd, hp.timeoutEvent, hp.sendBuffer, hp.savedSendEvent, hp.accepted,
      hp.sent⟩, .inl ⟨.inl rfl, ?_⟩⟩, ht.congr rfl rfl rfl⟩
    rcases hp.queue with ⟨-, hq⟩ | ⟨he, -⟩
    · intro v hv
      rcases List.mem_append.1 hv with hv | hv
      · exact hq v hv
      · exact List.mem_singleton.1 hv
    · rw [hlisten] at he
      cases he
  · rw [heq]
    exact ⟨hp, ht⟩

/-- A SYN makes a listening endpoint send its own. -/
theorem processSyn_eq (h : e.cmc.state = .listen) : e.processSyn p = { e with
    nextSocket := e.nextSocket + 1
    cmc := { e.cmc with acceptSocket := e.socket.id, state := .synReceived }
    queue := e.queue ++
      [⟨e.socket.id, .connectionInitiated e.nextSocket e.socket.localAddress p.source e.cmc.listenEvent⟩,
        ⟨e.nextSocket, .sendPacket { TCPPacket.new p.destination p.source [] with syn := true, ack := true }⟩] } := by
  simp [processSyn, h, setState, stateExit, stateEnter, enqueue, enqueueFor]

theorem PreSyn.managerReceivePacket (hp : e.PreSyn) (ht : e.TimersOk) (hq : e.queue = []) :
    (e.managerReceivePacket p).PreSyn ∧ (e.managerReceivePacket p).TimersOk := by
  rcases hp.cases_idle hq with hs | hs
  · unfold Endpoint.managerReceivePacket
    simp only [hs]
    exact ⟨hp, ht⟩
  · unfold Endpoint.managerReceivePacket
    simp only [hs]
    split
    · rw [processSyn_eq hs]
      refine ⟨⟨⟨hp.initialized, hp.rcSnd, hp.cccSnd, hp.timeoutEvent, hp.sendBuffer, hp.savedSendEvent, hp.accepted,
        hp.sent⟩, .inr ⟨rfl, { TCPPacket.new p.destination p.source [] with syn := true, ack := true }, ⟨rfl, rfl⟩,
        .inr ⟨e.nextSocket, e.socket.localAddress, p.source, e.cmc.listenEvent, ?_⟩⟩⟩, ht.congr rfl rfl rfl⟩
      simp [hq]
    · exact ⟨hp, ht⟩

/-- No ACK number is handled before the SYN. -/
theorem Unsent.handleAck (hu : e.Unsent) (hb : p.ack = true → lessThan e.rc.snd.sndMax p.ackNumber = false) :
    e.handleAck p = .ok (true, e) := by
  unfold Endpoint.handleAck
  rw [hu.rcSnd] at hb ⊢
  cases hack : p.ack with
  | false => rfl
  | true =>
    have hb : lessThan 0 p.ackNumber = false := hb hack
    have hright : betweenEqualRight 0 p.ackNumber 0 = false := by
      unfold betweenEqualRight
      rw [hb, Bool.false_and]
    have hleft : betweenEqualLeft p.ackNumber 0 0 = false := by
      unfold betweenEqualLeft
      rw [lessThan_self, Bool.and_false]
    rw [if_neg (by simp), if_neg (by rw [hright]; simp), if_neg (by rw [hb]; simp), if_neg (by rw [hleft]; simp)]

/-- An ACK number beyond what has been sent is answered. -/
theorem Unsent.handleAck_beyond (hu : e.Unsent) (hack : p.ack = true)
    (hb : lessThan e.rc.snd.sndMax p.ackNumber = true) : e.handleAck p = .ok (false, e.createAndDispatchAck) := by
  unfold Endpoint.handleAck
  rw [hu.rcSnd] at hb ⊢
  have hb : lessThan 0 p.ackNumber = true := hb
  have hright : betweenEqualRight 0 p.ackNumber 0 = false := by
    unfold betweenEqualRight lessThanOrEqual
    rw [hb, lessThan_asymm hb, Bool.true_and, Bool.false_or, beq_eq_false_iff_ne]
    intro h
    rw [h, lessThan_self] at hb
    cases hb
  rw [hack, if_neg (by simp), if_neg (by rw [hright]; simp), if_pos hb]

theorem updateEchoReply_same (e : Endpoint) (p : TCPPacket) :
    (e.updateEchoReply p).rc.snd = e.rc.snd ∧ (e.updateEchoReply p).queue = e.queue ∧
      (e.updateEchoReply p).cmc = e.cmc := by
  obtain ⟨t, heq⟩ := updateEchoReply_eq e p
  rw [heq]
  exact ⟨rfl, rfl, rfl⟩

/-- What a packet brings for the receiving side before the SYN is no data. -/
theorem Unsent.reliabilityReceivePacket (hu : e.Unsent)
    (hbeyond : p.ack = true → lessThan e.rc.snd.sndMax p.ackNumber = false)
    (hdata : 0 < p.dataLengthBytes → p.syn = true ∨ p.fin = true) (h : e.reliabilityReceivePacket p = .ok e') :
    SendFrame e e' ∧ e'.queue = e.queue ∧ e'.cmc.state = e.cmc.state := by
  have hecho := SendFrame.updateEchoReply e p
  have hsame := updateEchoReply_same e p
  unfold Endpoint.reliabilityReceivePacket at h
  rw [(hu.frame hecho).handleAck (by rw [hsame.1]; exact hbeyond)] at h
  change (e.updateEchoReply p).handleControlBitsAndData p = .ok e' at h
  refine ⟨hecho.trans (.handleControlBitsAndData h), ?_⟩
  obtain ⟨v, -, rfl⟩ := handleControlBitsAndData_ok h
  have hnone : (e.updateEchoReply p).acceptEvents p v = [] := by
    unfold acceptEvents
    split
    · rfl
    · rename_i hctl
      rw [if_neg]
      intro hd
      rcases hdata hd with h | h <;> simp [h] at hctl
  rw [hnone, List.append_nil]
  exact ⟨hsame.2.1, congrArg ConnectionManagerContext.state hsame.2.2⟩

/-- The congestion control has nothing to send before the SYN. -/
theorem Unsent.congestionReceivePacket (hu : e.Unsent) (h : e.congestionReceivePacket p = .ok e') :
    SendFrame e e' ∧ e'.queue = e.queue ∧ e'.cmc.state = e.cmc.state := by
  have hstate := congrArg ConnectionManagerContext.state (CongestionChange.receivePacket h).cmc
  unfold Endpoint.congestionReceivePacket at h
  split at h
  · rename_i hack
    obtain ⟨-, hbetween⟩ := Bool.and_eq_true _ _ ▸ hack
    obtain ⟨ccc, hccc, h⟩ := bind_eq_ok.1 h
    obtain ⟨hsnd, hprobe⟩ := acknowledgeSegment_ok hccc
    have hzero : p.ackNumber = 0 := by
      rw [hu.cccSnd] at hbetween
      unfold betweenEqual at hbetween
      rw [Bool.and_eq_true, lessThanOrEqual_iff, lessThanOrEqual_iff] at hbetween
      rcases hbetween with ⟨hl | hl, hr | hr⟩
      · rw [lessThan_asymm hl] at hr
        cases hr
      · exact hr
      · exact hl.symm
      · exact hr
    have hsnd' : ccc.snd = e.ccc.snd := by
      rw [hsnd, hzero, hu.cccSnd]
      rfl
    have hframe := SendFrame.withCongestion e hsnd' hprobe
    unfold sendOrProbe at h
    split at h
    · cases h
      refine ⟨hframe.trans (.startProbeTimer _), ?_, hstate⟩
      unfold startProbeTimer
      split <;> rfl
    · have hcancel := hframe.trans (.cancelProbeTimer _)
      rw [sendPackets_nothing (le_of_eq (hu.frame hcancel).numUnsent)] at h
      cases h
      refine ⟨hcancel, ?_, hstate⟩
      unfold cancelProbeTimer
      split <;> rfl
  · cases h
    exact ⟨.refl e, rfl, rfl⟩

/-- A packet is received before the SYN. -/
theorem PreSyn.receivePacket (hp : e.PreSyn) (ht : e.TimersOk) (hd : e.deleted = false) (hq : e.queue = [])
    (hc : p.validChecksum = true → (p.ack = true → lessThan e.rc.snd.sndMax p.ackNumber = false) ∧
      (e.accepts p = true → 0 < p.dataLengthBytes → p.syn = true ∨ p.fin = true))
    (h : e.receivePacket p = .ok e') : SendInv strict e' := by
  have hstay (hp : e.PreSyn) : SendInv strict e := .preSyn hp ht hd
  have hstate := hp.cases_idle hq
  unfold Endpoint.receivePacket at h
  cases hsum : p.validChecksum with
  | false =>
    simp only [hsum, Bool.not_false, if_true] at h
    cases h
    exact hstay hp
  | true =>
  obtain ⟨hbeyond, hdata⟩ := hc hsum
  unfold accepts at hdata
  simp only [hsum, Bool.not_true, Bool.false_eq_true, if_false, Bool.true_and] at h hdata
  cases hinv : p.ack && !isValidAckNumber e.rc p with
  | true =>
    rw [hinv, if_pos rfl] at h hdata
    obtain ⟨hack, -⟩ := Bool.and_eq_true _ _ ▸ hinv
    obtain ⟨hframe, hqueue, hs⟩ := hp.toUnsent.reliabilityReceivePacket hbeyond (hdata (by rw [hbeyond hack]; rfl)) h
    exact .preSyn (hp.frame hframe hqueue hs) (hframe.timers ht) (hframe.deleted.trans hd)
  | false =>
    rw [hinv, if_neg Bool.false_ne_true] at h hdata
    split at h
    · split at h
      · rename_i htw
        rcases hstate with hs | hs <;> (rw [hs] at htw; cases htw)
      · split at h
        · rename_i hsend
          rcases hstate with hs | hs <;> (rw [hs] at hsend; cases hsend)
        · cases h
          exact hstay hp
    · rename_i hseq
      split at h
      · cases h
        have hframe : SendFrame e { e with savedFin := some p } :=
          .of_same ⟨rfl, rfl, rfl, rfl, rfl, rfl, rfl, rfl, rfl, rfl, rfl, rfl⟩
        exact .preSyn (hp.frame hframe rfl rfl) (hframe.timers ht) hd
      · rename_i hfin
        have hacc : (isValidSequenceNumber e.rc p &&
            !(p.fin && decide (e.rc.rcvWnd.toNat < maxTcpReceiveWindowSize))) = true := by
          rw [Bool.and_eq_true]
          refine ⟨by simpa using hseq, ?_⟩
          cases hf : p.fin with
          | false => rfl
          | true => simpa [hf] using hfin
        obtain ⟨e₁, h₁, h⟩ := bind_eq_ok.1 h
        obtain ⟨e₂, h₂, h⟩ := bind_eq_ok.1 h
        cases h
        obtain ⟨hframe, hqueue, hs⟩ := hp.toUnsent.reliabilityReceivePacket hbeyond (hdata hacc) h₁
        obtain ⟨hp₁, ht₁⟩ := (hp.frame hframe hqueue hs).managerReceivePacket (p := p) (hframe.timers ht)
          (hqueue.trans hq)
        have hd₁ : (e₁.managerReceivePacket p).deleted = false :=
          (ManagerChange.receivePacket e₁ p).deleted.trans (hframe.deleted.trans hd)
        have hp₂ : e₂.PreSyn ∧ e₂.TimersOk ∧ e₂.deleted = false := by
          obtain ⟨-, rfl⟩ | ⟨-, h₂⟩ := receiveUnlessDuplicate_ok h₂
          · exact ⟨hp₁, ht₁, hd₁⟩
          · obtain ⟨hframe, hqueue, hs⟩ := hp₁.toUnsent.congestionReceivePacket h₂
            exact ⟨hp₁.frame hframe hqueue hs, hframe.timers ht₁, hframe.deleted.trans hd₁⟩
        rcases runSavedClose_cases e₂ with ⟨-, heq⟩ | ⟨-, heq⟩ <;> rw [heq]
        · obtain ⟨hp₃, ht₃⟩ := hp₂.1.managerClose hp₂.2.1
          have hframe : SendFrame e₂.managerClose { e₂.managerClose with savedCloseEvent := none } :=
            .of_same ⟨rfl, rfl, rfl, rfl, rfl, rfl, rfl, rfl, rfl, rfl, rfl, rfl⟩
          exact .preSyn (hp₃.frame hframe rfl rfl) (hframe.timers ht₃)
            ((ManagerChange.close e₂).deleted.trans hp₂.2.2)
        · exact .preSyn hp₂.1 hp₂.2.1 hp₂.2.2

/-- An event of low priority is handled before the SYN. -/
theorem PreSyn.handleLow {i : Input} (hp : e.PreSyn) (ht : e.TimersOk) (hd : e.deleted = false) (hq : e.queue = [])
    (hc : preSynCondition e i) (h : e.handleLow i = .ok e') : SendInv strict e' := by
  have hstate := hp.cases_idle hq
  have hpacket {f : Endpoint} {p : TCPPacket} (hf : f.PreSyn ∧ f.TimersOk ∧ f.deleted = false ∧ f.queue = [])
      (hrc : f.rc = e.rc) (hdel : e.delivered i = some p) (h : f.receivePacket p = .ok e') : SendInv strict e' := by
    refine hf.1.receivePacket hf.2.1 hf.2.2.1 hf.2.2.2 (fun hsum => ?_) h
    have := hc p hdel hp.initialized hsum
    unfold accepts at this ⊢
    rw [hrc]
    exact this
  unfold Endpoint.handleLow at h
  split at h
  · cases h
    exact .preSyn hp ht hd
  · rename_i l
    cases h
    rcases hstate with hs | hs
    · rw [managerListen_closed hs]
      exact .preSyn ⟨⟨hp.initialized, hp.rcSnd, hp.cccSnd, hp.timeoutEvent, hp.sendBuffer, hp.savedSendEvent,
        hp.accepted, hp.sent⟩, .inl ⟨.inr rfl, by simp [hq]⟩⟩ (ht.congr rfl rfl rfl) hd
    · rw [managerListen_of_ne (by simp [hs])]
      exact .preSyn hp ht hd
  · rename_i c
    cases h
    rcases hstate with hs | hs
    · rw [managerConnect_closed hs, hq]
      exact .preSyn ⟨⟨hp.initialized, hp.rcSnd, hp.cccSnd, hp.timeoutEvent, hp.sendBuffer, hp.savedSendEvent,
        hp.accepted, hp.sent⟩, .inr ⟨rfl, { TCPPacket.new ⟨c.localAddress, e.socket.localAddress.port⟩ c.address []
          with syn := true }, ⟨rfl, rfl⟩, .inl rfl⟩⟩ (ht.congr rfl rfl rfl) hd
    · rw [managerConnect_of_ne (by simp [hs])]
      exact .preSyn hp ht hd
  · have hsend : e.cmc.state.canSend = false := by rcases hstate with hs | hs <;> rw [hs] <;> rfl
    rw [hsend, if_neg Bool.false_ne_true] at h
    cases h
    exact .preSyn hp ht hd
  · have hreceive : e.cmc.state.canReceive = false := by rcases hstate with hs | hs <;> rw [hs] <;> rfl
    rw [hreceive, if_neg Bool.false_ne_true] at h
    cases h
    exact .preSyn hp ht hd
  · rename_i c
    cases h
    obtain ⟨hp', ht'⟩ := hp.managerClose ht
    unfold close
    rw [if_pos ⟨hp.sendBuffer, hp.savedSendEvent⟩]
    have hframe := SendFrame.dispatch e.managerClose (f := .closeResponse c) (.of_none rfl rfl)
    exact .preSyn (hp'.frame hframe rfl rfl) (hframe.timers ht') ((ManagerChange.close e).deleted.trans hd)
  · rename_i p
    exact hpacket ⟨hp, ht, hd, hq⟩ rfl (by simp [delivered, hd]) h
  · split at h
    · cases h
      exact .preSyn hp ht hd
    · rename_i p ps hr
      have hframe : SendFrame e { e with redelivered := ps } :=
        .of_same ⟨rfl, rfl, rfl, rfl, rfl, rfl, rfl, rfl, rfl, rfl, rfl, rfl⟩
      exact hpacket ⟨hp.frame hframe rfl rfl, hframe.timers ht, hd, hq⟩ rfl (by simp [delivered, hd, hr]) h
  · rename_i t
    split at h
    · unfold Endpoint.timerFired at h
      have hrel : e.reliabilityTimerFired t = e := by
        unfold reliabilityTimerFired
        rw [hp.timeoutEvent, if_neg (by simp)]
      have hman : e.managerTimerFired t = e := by
        unfold managerTimerFired
        rcases hstate with hs | hs <;> rw [hs]
      rw [hrel, hman] at h
      unfold congestionTimerFired at h
      split at h
      · have hnone : numUnsent ({ e with
            ccc := { e.ccc with probeTimer := some (e.newTimeout e.socket.id) } }.dispatchTimeout e.socket.id) = 0 :=
          hp.toUnsent.numUnsent
        exact absurd h (sendOnePacket_nothing (le_of_eq hnone))
      · cases h
        exact .preSyn hp ht hd
    · cases h
      exact .preSyn hp ht hd
  · cases h
    have hframe (now : BitVec 32) : SendFrame e { e with now := now } :=
      .of_same ⟨rfl, rfl, rfl, rfl, rfl, rfl, rfl, rfl, rfl, rfl, rfl, rfl⟩
    exact .preSyn (hp.frame (hframe _) rfl rfl) ((hframe _).timers ht) hd

/-! ### After the SYN -/

theorem SendMode.canSend (hm : SendMode strict e) (hq : e.queue = []) (hs : e.cmc.state.canSend = true) :
    ∃ u n m, OpenMode e u n m n := by
  rcases hm.cases_idle hq with hm | ⟨u, c, k, hm⟩
  · exact hm
  · have := hm.state
    cases hstate : e.cmc.state <;> simp_all [ConnectionManagerState.canSend, ConnectionManagerState.isClosing]

/-- A request to send is answered, or saved when the send buffer is full. -/
theorem SendMode.send {s : SendEvent} (hb : e.SendBase) (hm : SendMode strict e) (hq : e.queue = [])
    (hstate : e.cmc.state.canSend = true) (h : e.send s = .ok e') : e'.SendBase ∧ SendMode strict e' := by
  have hearly : e.cmc.state.isEarly = false := by
    cases hs : e.cmc.state <;> simp_all [ConnectionManagerState.canSend, ConnectionManagerState.isEarly]
  obtain ⟨u, n, m, hm⟩ := hm.canSend hq hstate
  obtain ⟨k, hk, ⟨-, rfl⟩ | ⟨-, rfl⟩⟩ := send_ok h
  · obtain ⟨hb', hm'⟩ := hm.saveInBuffer hb (by simp [hq, waiting]) hearly s (getAvailableRoom_ok hk).2
    exact ⟨hb', .sending u n m n hm'⟩
  · exact ⟨⟨hb.initialized, hb.deleted, hb.sent, hb.buffer_le, hb.timer, hb.timers.congr rfl rfl rfl, hb.early,
      fun _ => hearly, hb.queue, hb.closed⟩,
      .sending u n m n ⟨hm.rc, hm.ccc, hm.order, hm.buffer, hm.pending, hm.resends, hm.quiet, hm.state, hm.finSent⟩⟩

/-- The timers of the connection fire. -/
theorem SendMode.timerFired {t : TimeoutEvent} (hb : e.SendBase) (hm : SendMode strict e) (hq : e.queue = [])
    (h : e.timerFired t = .ok e') : e'.SendBase ∧ SendMode strict e' := by
  unfold Endpoint.timerFired at h
  by_cases ht : e.rc.timeoutEvent = some t
  · have hrel : e.reliabilityTimerFired t =
        ({ e with rc := { e.rc with timeoutEvent := none } } : Endpoint).requestResend .timeout := by
      unfold reliabilityTimerFired
      rw [if_pos ht]
    have hclear := SendFrame.clearTimer e
    obtain ⟨hb₁, hm₁⟩ := requestResend_mode (hclear.base hb) (hclear.mode hm) hq
      (hb.timer (by rw [ht]; rfl)) .timeout
    rw [hrel] at h
    have hman := SendFrame.managerTimerFired
      (({ e with rc := { e.rc with timeoutEvent := none } } : Endpoint).requestResend .timeout) t
    have hprobe : ((({ e with rc := { e.rc with timeoutEvent := none } } : Endpoint).requestResend
        .timeout).managerTimerFired t).ccc.probeTimer ≠ some t := by
      rw [(ManagerChange.timerFired _ t).ccc]
      exact hb.timers.differ t ht
    unfold congestionTimerFired at h
    rw [if_neg hprobe] at h
    cases h
    exact ⟨hman.base hb₁, hman.mode hm₁⟩
  · have hrel : e.reliabilityTimerFired t = e := by
      unfold reliabilityTimerFired
      rw [if_neg ht]
    rw [hrel] at h
    have hman := SendFrame.managerTimerFired e t
    have hb₁ := hman.base hb
    have hm₁ := hman.mode hm
    unfold congestionTimerFired at h
    split at h
    · -- the probe timer starts again
      have hframe : SendFrame (e.managerTimerFired t) ({ e.managerTimerFired t with
          ccc := { (e.managerTimerFired t).ccc with
            probeTimer := some ((e.managerTimerFired t).newTimeout (e.managerTimerFired t).socket.id) }
          }.dispatchTimeout (e.managerTimerFired t).socket.id) := .restartProbeTimer _
      have hempty := (hman.trans hframe).waiting_empty (by simp [hq, waiting])
      cases hframe.mode hm₁ with
      | sending u n m c hm₂ =>
        obtain ⟨hb₂, -, k, -, hm₃, -⟩ := hm₂.sendOnePacket (hframe.base hb₁) (fun r hr => (hempty r hr).syn) h
        exact ⟨hb₂, .sending u n m _ hm₃⟩
      | resending u m c hm₂ =>
        have := hm₂.resends
        rw [(hman.trans hframe).resends, hq] at this
        cases this
      | finWaiting hm₂ => exact absurd h (sendOnePacket_nothing (le_of_eq hm₂.numUnsent))
      | finSent u n c k hm₂ => exact absurd h (sendOnePacket_nothing hm₂.numUnsent)
    · cases h
      exact ⟨hb₁, hm₁⟩

/-- An event of low priority is handled after the SYN. -/
theorem SendMode.handleLow {i : Input} (hb : e.SendBase) (hm : SendMode strict e) (hq : e.queue = [])
    (h : e.handleLow i = .ok e') : e'.SendBase ∧ SendMode strict e' := by
  have hclosed : e.cmc.state ≠ .closed := by
    intro hs
    have := hb.closed hs
    rw [hq] at this
    cases this
  have hframe {f : Endpoint} (hf : SendFrame e f) : f.SendBase ∧ SendMode strict f := ⟨hf.base hb, hf.mode hm⟩
  unfold Endpoint.handleLow at h
  split at h
  · cases h
    exact ⟨hb, hm⟩
  · cases h
    rw [managerListen_of_ne hclosed]
    exact ⟨hb, hm⟩
  · cases h
    rw [managerConnect_of_ne hclosed]
    exact ⟨hb, hm⟩
  · split at h
    · rename_i hs
      exact hm.send hb hq hs h
    · cases h
      exact ⟨hb, hm⟩
  · split at h
    · exact hframe (.receive h)
    · cases h
      exact ⟨hb, hm⟩
  · rename_i c
    cases h
    rcases close_cases e c with ⟨hs, heq⟩ | ⟨-, heq⟩ <;> rw [heq]
    · obtain ⟨hb', hm'⟩ := managerClose_mode hb hm hs.1 hs.2
      have hdispatch := SendFrame.dispatch e.managerClose (f := .closeResponse c) (.of_none rfl rfl)
      exact ⟨hdispatch.base hb', hdispatch.mode hm'⟩
    · have hsave : SendFrame e { e with savedCloseEvent := some c } :=
        .of_same ⟨rfl, rfl, rfl, rfl, rfl, rfl, rfl, rfl, rfl, rfl, rfl, rfl⟩
      exact hframe (hsave.trans (.dispatch _ (.of_none rfl rfl)))
  · exact hm.receivePacket hb hq h
  · split at h
    · cases h
      exact ⟨hb, hm⟩
    · rename_i p ps hr
      have hpop : SendFrame e { e with redelivered := ps } :=
        .of_same ⟨rfl, rfl, rfl, rfl, rfl, rfl, rfl, rfl, rfl, rfl, rfl, rfl⟩
      exact (hpop.mode hm).receivePacket (hpop.base hb) hq h
  · split at h
    · exact hm.timerFired hb hq h
    · cases h
      exact ⟨hb, hm⟩
  · cases h
    exact hframe (.of_same ⟨rfl, rfl, rfl, rfl, rfl, rfl, rfl, rfl, rfl, rfl, rfl, rfl⟩)

/-! ### Runs -/

/-- A step keeps the invariant of the sending side. -/
theorem SendInv.step {i : Input} (hinv : SendInv strict e) (hen : enabled i e) (hc : sendCondition strict e i)
    (h : step i e = .ok e') : SendInv strict e' := by
  have hlow (hq : e.queue = []) (h : (if e.deleted then .ok e else e.handleLow i) = .ok e') :
      SendInv strict e' := by
    cases hinv with
    | deleted hd hs =>
      rw [if_pos hd] at h
      cases h
      exact .deleted hd hs
    | preSyn hp ht hd =>
      rw [hd, if_neg Bool.false_ne_true] at h
      exact hp.handleLow ht hd hq hc.1 h
    | sent hb hm =>
      rw [hb.deleted, if_neg Bool.false_ne_true] at h
      obtain ⟨hb', hm'⟩ := hm.handleLow hb hq h
      exact .sent hb' hm'
  cases i with
  | drain => exact hinv.drain (hc.2 rfl) h
  | _ => exact hlow hen h

theorem create_sendInv (id : SocketId) (l r : AddressPort) : SendInv strict (create id l r) := by
  refine .preSyn ⟨⟨rfl, rfl, rfl, rfl, rfl, rfl, rfl, ?_⟩, .inl ⟨.inl rfl, ?_⟩⟩ ⟨?_, ?_, ?_⟩ rfl
  · intro p hp
    cases hp
  · intro v hv
    cases hv
  · intro t ht
    cases ht
  · intro t ht
    cases ht
  · intro t ht
    cases ht

/-- The invariant of the sending side holds along every run that meets the condition. -/
theorem run_sendInv {id : SocketId} {l r : AddressPort} {is : List Input} {P : Endpoint → Input → Prop}
    (hP : ∀ e i, P e i → sendCondition strict e i) (h : machine.Run P (create id l r) is e) : SendInv strict e :=
  h.invariant (SendInv strict) (create_sendInv id l r) fun _ _ _ hinv hen hp hs => hinv.step hen (hP _ _ hp) hs

end

end Endpoint

end Wifu
