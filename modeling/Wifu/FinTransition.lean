import Wifu.CloseRequest

/-!
# What a step does with a FIN

The connection manager takes its FIN transition only on a packet that passes both acceptance tests and is not parked
(`step_hasTakenFin`).  A parked FIN is saved in the container, and given back to the dispatcher when the application
has read everything (`step_parkStep`).
-/

namespace Wifu

/-- The states that the connection manager is in after the peer's FIN. -/
def ConnectionManagerState.hasTakenFin : ConnectionManagerState → Bool
  | .closeWait | .closing | .lastAck | .timeWait | .closed => true
  | _ => false

/-- The FIN transition: `state_receive_packet` of a state that waits for the peer's FIN. -/
def ConnectionManagerState.takesFin (s : ConnectionManagerState) (p : TCPPacket) : Bool :=
  match s with
  | .established | .finWait2 => p.fin
  | .finWait1 => p.fin && p.ack
  | _ => false

namespace Endpoint

/-- The packet reaches all three contexts. -/
def passesOn (e : Endpoint) (p : TCPPacket) : Bool :=
  p.validChecksum && !(p.ack && !isValidAckNumber e.rc p) && isValidSequenceNumber e.rc p &&
    !(p.fin && decide (e.rc.rcvWnd.toNat < maxTcpReceiveWindowSize))

section

variable {e e' : Endpoint} {p : TCPPacket} {i : Input}

/-! ### The connection manager -/

theorem managerReceivePacket_hasTakenFin (hsyn : p.syn = false) :
    (e.managerReceivePacket p).cmc.state.hasTakenFin = (e.cmc.state.hasTakenFin || e.cmc.state.takesFin p) := by
  unfold managerReceivePacket
  cases hstate : e.cmc.state with
  | closed | closeWait => simp [hstate, ConnectionManagerState.hasTakenFin]
  | listen | synSent =>
    simp [hstate, hsyn, ConnectionManagerState.hasTakenFin, ConnectionManagerState.takesFin]
  | synReceived =>
    simp only
    split
    · rw [setState_state]
      rfl
    · rw [hstate]
      rfl
  | established =>
    simp only [hsyn, Bool.false_eq_true, if_false]
    split
    · rename_i hfin
      show ((e.createAndDispatchAck).setState .closeWait).cmc.state.hasTakenFin = _
      rw [setState_state]
      simp [ConnectionManagerState.hasTakenFin, ConnectionManagerState.takesFin, hfin]
    · rename_i hfin
      simp [hstate, ConnectionManagerState.hasTakenFin, ConnectionManagerState.takesFin, hfin]
  | finWait1 =>
    simp only
    split
    · rename_i hfin
      rw [setState_state]
      simp [ConnectionManagerState.hasTakenFin, ConnectionManagerState.takesFin, hfin]
    · rename_i hfin
      have hnot : (p.fin && p.ack) = false := by simpa using hfin
      split
      · rw [setState_state]
        simp [ConnectionManagerState.hasTakenFin, ConnectionManagerState.takesFin, hnot]
      · simp [hstate, ConnectionManagerState.hasTakenFin, ConnectionManagerState.takesFin, hnot]
  | finWait2 =>
    simp only
    split
    · rename_i hfin
      rw [setState_state]
      simp [ConnectionManagerState.hasTakenFin, ConnectionManagerState.takesFin, hfin]
    · rename_i hfin
      simp [hstate, ConnectionManagerState.hasTakenFin, ConnectionManagerState.takesFin, hfin]
  | closing =>
    simp only
    split
    · rw [setState_state]
      rfl
    · rw [hstate]
      rfl
  | lastAck =>
    simp only
    split
    · rw [setState_state]
      rfl
    · rw [hstate]
      rfl
  | timeWait =>
    simp only
    split
    · show e.cmc.state.hasTakenFin = _
      rw [hstate]
      rfl
    · rw [hstate]
      rfl

theorem managerClose_hasTakenFin (hlisten : e.cmc.state ≠ .listen) :
    e.managerClose.cmc.state.hasTakenFin = e.cmc.state.hasTakenFin := by
  unfold managerClose
  cases hstate : e.cmc.state with
  | listen => exact absurd hstate hlisten
  | established =>
    simp only
    split
    · show (e.setState .finWait1).cmc.state.hasTakenFin = _
      rw [setState_state]
      rfl
    · rw [hstate]
  | closeWait =>
    simp only
    rw [setState_state]
    rfl
  | _ => simp only [hstate]

theorem runSavedClose_hasTakenFin (hlisten : e.cmc.state ≠ .listen) :
    e.runSavedClose.cmc.state.hasTakenFin = e.cmc.state.hasTakenFin := by
  rcases runSavedClose_cases e with ⟨-, heq⟩ | ⟨-, heq⟩
  · rw [heq]
    exact managerClose_hasTakenFin hlisten
  · rw [heq]

theorem managerTimerFired_hasTakenFin (t : TimeoutEvent) :
    (e.managerTimerFired t).cmc.state.hasTakenFin = e.cmc.state.hasTakenFin := by
  unfold managerTimerFired
  split
  · rename_i hstate
    split
    · rw [setState_state, hstate]
      rfl
    · rfl
  · rfl

theorem close_hasTakenFin (hlisten : e.cmc.state ≠ .listen) (c : CloseEvent) :
    (e.close c).cmc.state.hasTakenFin = e.cmc.state.hasTakenFin := by
  rcases close_cases e c with ⟨-, heq⟩ | ⟨-, heq⟩ <;> rw [heq]
  · exact managerClose_hasTakenFin hlisten
  · rfl

/-- `icontext_receive_packet` moves the connection manager past the FIN only with a packet that passes on. -/
theorem receivePacket_hasTakenFin (hs : e.Settled) (hsyn : p.validChecksum = true → p.syn = false)
    (h : e.receivePacket p = .ok e') :
    e'.cmc.state.hasTakenFin = (e.cmc.state.hasTakenFin || (e.passesOn p && e.cmc.state.takesFin p)) := by
  have hcase := receivePacket_cases e p
  rw [h] at hcase
  cases hcase with
  | corrupt hsum h =>
    cases h
    simp [passesOn, hsum]
  | skipping hsum hack hinv h =>
    have hcmc := reliabilityReceivePacket_cmc h.symm
    rw [hcmc]
    simp [passesOn, hack, hinv]
  | lingering hack hseq hstate h =>
    cases h
    have hlinger : (e.managerReceivePacket p).cmc.state = .timeWait := by
      unfold managerReceivePacket
      simp only [hstate]
      split
      · exact hstate
      · exact hstate
    rw [hlinger, hstate]
    rfl
  | answered hack hseq h =>
    cases h
    have hstate : e.createAndDispatchAck.cmc.state = e.cmc.state := rfl
    rw [hstate]
    simp [passesOn, hseq]
  | ignored hack hseq h =>
    cases h
    simp [passesOn, hseq]
  | parked hsum hack hseq hfin hwnd h =>
    cases h
    simp [passesOn, hfin, hwnd]
  | taken hsum hack hseq hfin h =>
    obtain ⟨e₁, h₁, h⟩ := bind_eq_ok.1 h.symm
    obtain ⟨e₂, h₂, h⟩ := bind_eq_ok.1 h
    cases h
    have hpass : e.passesOn p = true := by
      unfold passesOn
      rw [hsum, hack, hseq]
      cases hf : p.fin with
      | false => rfl
      | true =>
        have := hfin hf
        simp only [Bool.true_and, Bool.not_false, Bool.and_true, Bool.not_eq_true', decide_eq_false_iff_not]
        omega
    have hstate₁ : e₁.cmc.state = e.cmc.state := congrArg ConnectionManagerContext.state (reliabilityReceivePacket_cmc h₁)
    have hs₁ := hs.reliabilityReceivePacket h₁
    have hs₂ := hs₁.frame (.managerReceivePacket e₁ p hs₁.listen)
    have hstate₂ : e₂.cmc.state = (e₁.managerReceivePacket p).cmc.state := by
      rw [(CongestionChange.receiveUnlessDuplicate h₂).cmc]
    rw [runSavedClose_hasTakenFin (hstate₂ ▸ hs₂.listen), hstate₂, managerReceivePacket_hasTakenFin (hsyn hsum),
      hstate₁, hpass, Bool.true_and]

/-- The connection manager takes its FIN transition in a step that delivers a packet that passes on. -/
theorem step_hasTakenFin (hs : e.Settled) (hen : enabled i e)
    (hsyn : ∀ p, e.delivered i = some p → p.validChecksum = true → p.syn = false) (hstep : step i e = .ok e') :
    e'.cmc.state.hasTakenFin = (e.cmc.state.hasTakenFin ||
      (e.delivered i).any fun p => e.passesOn p && e.cmc.state.takesFin p) := by
  have hidle (hq : e.queue = []) : e.cmc.state ≠ .closed := by
    intro hc
    have hmem := hs.closed hc
    rw [hq] at hmem
    cases hmem
  have hsame (hd : e.delivered i = none) (h : e'.cmc.state.hasTakenFin = e.cmc.state.hasTakenFin) :
      e'.cmc.state.hasTakenFin = (e.cmc.state.hasTakenFin ||
        (e.delivered i).any fun p => e.passesOn p && e.cmc.state.takesFin p) := by
    rw [hd, h, Option.any_none, Bool.or_false]
  cases step_ok hstep with
  | dropped hd h =>
    cases h
    exact hsame hd rfl
  | skipped _ _ h =>
    cases h
    exact hsame rfl rfl
  | event _ _ _ h =>
    have hstate := handleProtocolEvent_state h.symm
    exact hsame rfl (congrArg ConnectionManagerState.hasTakenFin hstate)
  | @packet i p ps hd _ _ h =>
    have hs' : ({ e with redelivered := ps } : Endpoint).Settled := ⟨hs.initiations, hs.listen, hs.closed, hs.made⟩
    rw [hd, Option.any_some]
    exact (receivePacket_hasTakenFin hs' (hsyn p hd) h.symm :)
  | listen l _ h =>
    cases h
    refine hsame rfl ?_
    rw [managerListen_of_ne (hidle hen)]
  | connect c _ h =>
    cases h
    refine hsame rfl ?_
    rw [managerConnect_of_ne (hidle hen)]
  | send s _ _ h =>
    refine hsame rfl ?_
    obtain ⟨n, -, ⟨-, rfl⟩ | ⟨-, rfl⟩⟩ := send_ok h.symm <;> rfl
  | receive r _ _ h =>
    refine hsame rfl ?_
    obtain ⟨-, rfl⟩ | ⟨-, -, rfl⟩ := reliabilityReceive_ok h.symm
    · rw [createAndDispatchReceivedData_cmc]
    · rfl
  | close c _ h =>
    cases h
    exact hsame rfl (close_hasTakenFin hs.listen c)
  | timerFired t _ _ h =>
    have h := h.symm
    unfold timerFired at h
    refine hsame rfl ?_
    rw [(CongestionChange.timerFired h).cmc, managerTimerFired_hasTakenFin, (AckChange.timerFired e t).cmc]
  | tick now _ h =>
    cases h
    exact hsame rfl rfl

/-! ### The saved FIN -/

theorem reliabilityReceivePacket_parked (h : e.reliabilityReceivePacket p = .ok e') :
    e'.savedFin = e.savedFin ∧ e'.redelivered = e.redelivered := by
  obtain ⟨e₁, -, hack, h⟩ := reliabilityReceivePacket_ok h
  split at h
  · obtain ⟨v, -, rfl⟩ := h
    exact ⟨hack.savedFin, hack.redelivered⟩
  · rw [h]
    exact ⟨hack.savedFin, hack.redelivered⟩

/-- Receiving a packet saves it when it is a FIN that comes before everything has been read. -/
theorem receivePacket_parked (h : e.receivePacket p = .ok e') : e'.redelivered = e.redelivered ∧
    (e'.savedFin = e.savedFin ∨ p.validChecksum = true ∧ p.fin = true ∧
      e.rc.rcvWnd.toNat < maxTcpReceiveWindowSize ∧ e'.savedFin = some p ∧ e'.receiveView = e.receiveView) := by
  have hcase := receivePacket_cases e p
  rw [h] at hcase
  cases hcase with
  | corrupt _ h | answered _ _ h | ignored _ _ h =>
    cases h
    exact ⟨rfl, .inl rfl⟩
  | skipping _ _ _ h =>
    obtain ⟨hfin, hre⟩ := reliabilityReceivePacket_parked h.symm
    exact ⟨hre, .inl hfin⟩
  | lingering _ _ _ h =>
    cases h
    exact ⟨(ManagerChange.receivePacket e p).redelivered, .inl (ManagerChange.receivePacket e p).savedFin⟩
  | parked hsum _ _ hfin hwnd h =>
    cases h
    exact ⟨rfl, .inr ⟨hsum, hfin, hwnd, rfl, rfl⟩⟩
  | taken _ _ _ _ h =>
    obtain ⟨e₁, h₁, h⟩ := bind_eq_ok.1 h.symm
    obtain ⟨e₂, h₂, h⟩ := bind_eq_ok.1 h
    cases h
    obtain ⟨hfin₁, hre₁⟩ := reliabilityReceivePacket_parked h₁
    have hman := ManagerChange.receivePacket e₁ p
    have hcongestion := CongestionChange.receiveUnlessDuplicate h₂
    have hclose := ManagerChange.runSavedClose e₂
    exact ⟨hclose.redelivered.trans (hcongestion.redelivered.trans (hman.redelivered.trans hre₁)),
      .inl (hclose.savedFin.trans (hcongestion.savedFin.trans (hman.savedFin.trans hfin₁)))⟩

theorem createAndDispatchReceivedData_parked (e : Endpoint) (r : ReceiveEvent) :
    (e.createAndDispatchReceivedData r).savedFin = e.savedFin ∧
      (e.createAndDispatchReceivedData r).redelivered = e.redelivered := by
  unfold createAndDispatchReceivedData
  simp only [enqueue, enqueueFor, dispatch]
  split <;> exact ⟨rfl, rfl⟩

/-- A protocol event gives back at most the saved FIN. -/
theorem handleProtocolEvent_parked {k : ProtocolEventKind} (h : e.handleProtocolEvent k = .ok e') :
    e'.savedFin = e.savedFin ∧ (e'.redelivered = e.redelivered ∨
      ∃ p, e.savedFin = some p ∧ e'.redelivered = e.redelivered ++ [p]) := by
  unfold handleProtocolEvent at h
  split at h
  · unfold sendPacket at h
    obtain ⟨⟨q, e₁⟩, h₁, h⟩ := bind_eq_ok.1 h
    cases h
    have hack := AckChange.sendPacket h₁
    exact ⟨hack.savedFin, .inl hack.redelivered⟩
  · have hc := CongestionChange.resendPacket h
    exact ⟨hc.savedFin, .inl hc.redelivered⟩
  · have hc := CongestionChange.sendPackets h
    exact ⟨hc.savedFin, .inl hc.redelivered⟩
  · obtain ⟨-, rfl⟩ | ⟨_, n, -, -, ⟨-, rfl⟩ | ⟨-, rfl⟩⟩ := sendBufferNotFull_ok h <;> exact ⟨rfl, .inl rfl⟩
  · cases h
    obtain heq | ⟨r, -, -, heq⟩ := receiveBufferNotEmpty_cases e <;> rw [heq]
    · exact ⟨rfl, .inl rfl⟩
    · obtain ⟨hfin, hre⟩ := createAndDispatchReceivedData_parked e _
      exact ⟨hfin, .inl hre⟩
  · cases h
    obtain ⟨-, heq⟩ | ⟨p, hp, -, heq⟩ := receiveBufferNotFull_cases e <;> rw [heq]
    · exact ⟨rfl, .inl rfl⟩
    · exact ⟨rfl, .inr ⟨p, hp, rfl⟩⟩
  · cases h
    exact ⟨rfl, .inl rfl⟩
  · cases h
    exact ⟨rfl, .inl rfl⟩
  · cases h
    exact ⟨rfl, .inl rfl⟩

/-- How a step changes the saved FIN and the packets that the dispatcher gives back. -/
inductive ParkStep (e : Endpoint) (i : Input) (e' : Endpoint) : Prop
  | same (hf : e'.savedFin = e.savedFin) (hr : e'.redelivered = e.redelivered)
  /-- The saved FIN is given back. -/
  | given (p : TCPPacket) (hp : e.savedFin = some p) (hf : e'.savedFin = e.savedFin)
      (hr : e'.redelivered = e.redelivered ++ [p])
  /-- A packet given back is delivered. -/
  | redelivered (p : TCPPacket) (hd : e.delivered i = some p) (hr : e.redelivered = p :: e'.redelivered)
      (hf : e'.savedFin = e.savedFin)
  | parked (p : TCPPacket) (hd : e.delivered i = some p) (hsum : p.validChecksum = true) (hfin : p.fin = true)
      (hwnd : e.rc.rcvWnd.toNat < maxTcpReceiveWindowSize) (hf : e'.savedFin = some p)
      (hr : e'.redelivered = e.redelivered ∨ e.redelivered = p :: e'.redelivered)
      (hview : e'.receiveView = e.receiveView)

theorem step_parkStep (hstep : step i e = .ok e') : ParkStep e i e' := by
  cases step_ok hstep with
  | dropped hd h =>
    cases h
    exact .same rfl rfl
  | skipped _ _ h =>
    cases h
    exact .same rfl rfl
  | event _ _ _ h =>
    obtain ⟨hf, hr | ⟨p, hp, hr⟩⟩ := handleProtocolEvent_parked h.symm
    · exact .same hf hr
    · exact .given p hp hf hr
  | @packet i p ps hd _ hps h =>
    obtain ⟨hr, hf⟩ := receivePacket_parked h.symm
    have hr : e'.redelivered = ps := hr
    rw [← hr] at hps
    rcases hf with hf | ⟨hsum, hfin, hwnd, hf, hview⟩
    · rcases hps with hps | hps
      · exact .same hf hps
      · exact .redelivered p hd hps hf
    · exact .parked p hd hsum hfin hwnd hf hps hview
  | listen l _ h =>
    cases h
    exact .same (ManagerChange.listen e l).savedFin (ManagerChange.listen e l).redelivered
  | connect c _ h =>
    cases h
    obtain heq | ⟨_, -, -, heq⟩ := managerConnect_cases e c <;> rw [heq]
    · exact .same rfl rfl
    · exact .same rfl rfl
  | send s _ _ h =>
    obtain ⟨n, -, ⟨-, rfl⟩ | ⟨-, rfl⟩⟩ := send_ok h.symm <;> exact .same rfl rfl
  | receive r _ _ h =>
    obtain ⟨-, rfl⟩ | ⟨-, -, rfl⟩ := reliabilityReceive_ok h.symm
    · obtain ⟨hf, hr⟩ := createAndDispatchReceivedData_parked e r
      exact .same hf hr
    · exact .same rfl rfl
  | close c _ h =>
    cases h
    rcases close_cases e c with ⟨-, heq⟩ | ⟨-, heq⟩ <;> rw [heq]
    · exact .same (ManagerChange.close e).savedFin (ManagerChange.close e).redelivered
    · exact .same rfl rfl
  | timerFired t _ _ h =>
    have h := h.symm
    unfold timerFired at h
    have hc := CongestionChange.timerFired h
    have hm := ManagerChange.timerFired (e.reliabilityTimerFired t) t
    have ha := AckChange.timerFired e t
    exact .same (hc.savedFin.trans (hm.savedFin.trans ha.savedFin))
      (hc.redelivered.trans (hm.redelivered.trans ha.redelivered))
  | tick now _ h =>
    cases h
    exact .same rfl rfl

/-! ### The window after a step -/

theorem createAndDispatchReceivedData_notFull (e : Endpoint) (r : ReceiveEvent) :
    ⟨e.socket.id, .receiveBufferNotFull⟩ ∈ (e.createAndDispatchReceivedData r).queue := by
  unfold createAndDispatchReceivedData
  simp only [enqueue, enqueueFor, dispatch]
  split <;> simp [createAndDispatchAck, enqueue, enqueueFor]

/-- A packet does not make the window bigger. -/
theorem ReceiveStep.rcvWnd_le {v : ReceiveView} {p : TCPPacket} (hc : v.receiveWindow.Counted) {v' : ReceiveView}
    (h : v.receive p = .ok v') : v'.rcvWnd.toNat ≤ v.rcvWnd.toNat := by
  unfold ReceiveView.receive at h
  split at h
  · cases h
    exact le_rfl
  · split at h
    · rename_i hd
      obtain ⟨hn, hwnd⟩ := ReceiveView.data_rcvWnd hc hd h
      omega
    · cases h
      exact le_rfl

/-- When a step makes the window bigger, an event says that the receive buffer is not full. -/
theorem step_rcvWnd (hc : e.rc.receiveWindow.Counted) (hstep : step i e = .ok e') :
    e'.rc.rcvWnd.toNat ≤ e.rc.rcvWnd.toNat ∨ ⟨e.socket.id, .receiveBufferNotFull⟩ ∈ e'.queue := by
  have hview (v : ReceiveView) (h : e'.receiveView = v) (hv : v.rcvWnd = e.rc.rcvWnd) :
      e'.rc.rcvWnd.toNat ≤ e.rc.rcvWnd.toNat := by
    have hwnd : e'.rc.rcvWnd = v.rcvWnd := congrArg ReceiveView.rcvWnd h
    rw [hwnd, hv]
  have hcall := step_ok hstep
  cases step_receiveView hstep with
  | same _ h => exact .inl (hview _ h rfl)
  | accept p hp ha h => exact .inl (ReceiveStep.rcvWnd_le (v := e.receiveView) hc h)
  | moved _ _ h => exact .inl (hview _ h rfl)
  | read n hd _ h =>
    cases hcall with
    | dropped _ h' =>
      cases h'
      exact .inl le_rfl
    | skipped _ _ h' =>
      cases h'
      exact .inl le_rfl
    | @event v vs hq hs _ h' =>
      have h' := h'.symm
      unfold handleProtocolEvent at h'
      split at h'
      · exact .inl (hview _ (sendPacket_receiveView h') rfl)
      · exact .inl (hview _ (CongestionChange.resendPacket h').receiveView rfl)
      · exact .inl (hview _ (CongestionChange.sendPackets h').receiveView rfl)
      · exact .inl (hview _ (sendBufferNotFull_receiveView h') rfl)
      · cases h'
        obtain heq | ⟨r, -, -, heq⟩ := receiveBufferNotEmpty_cases { e with queue := vs } <;> rw [heq]
        · exact .inl le_rfl
        · exact .inr (createAndDispatchReceivedData_notFull _ _)
      · cases h'
        obtain ⟨-, heq⟩ | ⟨p, -, -, heq⟩ := receiveBufferNotFull_cases { e with queue := vs } <;> rw [heq]
        · exact .inl le_rfl
        · exact .inl le_rfl
      · cases h'
        exact .inl le_rfl
      · cases h'
        exact .inl le_rfl
      · cases h'
        exact .inl le_rfl
    | packet hd' _ _ _ =>
      rw [hd] at hd'
      cases hd'
    | listen l _ h' =>
      cases h'
      exact .inl (hview _ (ManagerChange.listen e l).receiveView rfl)
    | connect c _ h' =>
      cases h'
      exact .inl (hview _ (congrArg Prod.fst (connect_receiveTrace e c)) rfl)
    | send s _ _ h' => exact .inl (hview _ (send_receiveView h'.symm) rfl)
    | receive r _ _ h' =>
      obtain ⟨-, rfl⟩ | ⟨-, -, rfl⟩ := reliabilityReceive_ok h'.symm
      · exact .inr (createAndDispatchReceivedData_notFull _ _)
      · exact .inl le_rfl
    | close c _ h' =>
      cases h'
      exact .inl (hview _ (congrArg Prod.fst (close_receiveTrace e c)) rfl)
    | timerFired t _ _ h' => exact .inl (hview _ (timerFired_receiveView h'.symm) rfl)
    | tick now _ h' =>
      cases h'
      exact .inl le_rfl

end

end Endpoint

end Wifu
