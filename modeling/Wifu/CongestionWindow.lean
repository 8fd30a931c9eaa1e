import Wifu.ReceiveView

/-!
# The congestion window

The congestion control on its own: acknowledging packets and retransmissions, in any order, while the sending changes
what is outstanding.  The window stays between one segment and a little more than `mss * mss` bytes, from where
congestion avoidance adds nothing; so no step divides by zero or overflows, and the state says on which side of the
threshold the window is.  What an endpoint does to its context is a run of this machine.
-/

namespace Wifu

/-- What happens to the congestion control's context. -/
inductive CongestionInput
  | packet (p : TCPPacket)
  | resend
  /-- The sending moves `snd_nxt`, sends data for the first time or uses the probe timer. -/
  | sending (snd : OutstandingDataContext) (dataSent : Bool) (probeTimer : Option TimeoutEvent)
  deriving DecidableEq

namespace TCPTahoeCongestionControlContext

open Endpoint (setCwnd congestionResend acknowledgeSegment updateSendWindow)

/-- The part of each handler that changes the windows. -/
def step : CongestionInput → TCPTahoeCongestionControlContext → Except Abort TCPTahoeCongestionControlContext
  | .packet p, c =>
    if p.ack && betweenEqual c.snd.sndUna p.ackNumber c.snd.sndMax then acknowledgeSegment c p else .ok c
  | .resend, c => .ok (congestionResend c)
  | .sending snd dataSent probeTimer, c => .ok { c with snd := snd, dataSent := dataSent, probeTimer := probeTimer }

/-- The congestion control on its own. -/
def machine : Transition.Machine TCPTahoeCongestionControlContext CongestionInput Abort := ⟨fun _ _ => True, step⟩

instance (i : CongestionInput) (c : TCPTahoeCongestionControlContext) : Decidable (machine.enabled i c) :=
  .isTrue trivial

/-- At most 65537 bytes are outstanding at a retransmission. -/
def resendBounded (c : TCPTahoeCongestionControlContext) (i : CongestionInput) : Prop :=
  i = .resend → c.snd.numOutstanding.toNat ≤ 65537

instance (c : TCPTahoeCongestionControlContext) (i : CongestionInput) : Decidable (resendBounded c i) :=
  inferInstanceAs (Decidable (_ → _))

/-- The invariant of the congestion control. -/
structure WindowInv (c : TCPTahoeCongestionControlContext) : Prop where
  mss_le : mss ≤ c.cwnd.toNat
  le : c.cwnd.toNat ≤ mss * mss + mss
  ssthreshold : 2 * mss ≤ c.ssthreshold.toNat
  state : c.state = .slowStart ↔ c.cwnd.toNat ≤ c.ssthreshold.toNat

section

variable {c c' : TCPTahoeCongestionControlContext}

/-- What a new acknowledgement adds to the window. -/
def increase (c : TCPTahoeCongestionControlContext) : Nat :=
  match c.state with
  | .slowStart => mss
  | .congestionAvoidance => mss * mss / c.cwnd.toNat

theorem WindowInv.congr (h : WindowInv c) (hcwnd : c'.cwnd = c.cwnd) (hs : c'.ssthreshold = c.ssthreshold)
    (hstate : c'.state = c.state) : WindowInv c' := by
  constructor
  · rw [hcwnd]
    exact h.mss_le
  · rw [hcwnd]
    exact h.le
  · rw [hs]
    exact h.ssthreshold
  · rw [hstate, hcwnd, hs]
    exact h.state

/-- The new window is computed without overflow. -/
theorem WindowInv.increase_le (h : WindowInv c) : c.cwnd.toNat + c.increase ≤ mss * mss + mss := by
  have hmss : mss = 1448 := rfl
  have hsquare : mss * mss = 2096704 := rfl
  have hlow := h.mss_le
  have hthreshold := c.ssthreshold.isLt
  unfold increase
  cases hs : c.state with
  | slowStart =>
    have := h.state.1 hs
    simp only
    omega
  | congestionAvoidance =>
    simp only
    by_cases hbig : mss * mss < c.cwnd.toNat
    · rw [Nat.div_eq_of_lt hbig]
      exact h.le
    · have hdiv : mss * mss / c.cwnd.toNat ≤ mss * mss / mss := Nat.div_le_div_left hlow (by omega)
      rw [Nat.mul_div_cancel _ (by omega)] at hdiv
      omega

theorem setCwnd_slowStart (hs : c.state = .slowStart) : setCwnd c = .ok { c with
    cwnd := c.cwnd + BitVec.ofNat 32 mss
    state := if c.ssthreshold.toNat < (c.cwnd + BitVec.ofNat 32 mss).toNat then .congestionAvoidance
      else .slowStart } := by
  simp only [Endpoint.setCwnd, hs]

theorem setCwnd_congestionAvoidance (hs : c.state = .congestionAvoidance) (hne : c.cwnd ≠ 0) :
    setCwnd c = .ok { c with cwnd := c.cwnd + BitVec.ofNat 32 (mss * mss) / c.cwnd } := by
  have hcheck : check (c.cwnd != 0) .divisionByZero = .ok () := by
    rw [check_eq_ok]
    simpa using hne
  simp only [Endpoint.setCwnd, hs, hcheck]
  rfl

/-- `set_cwnd` of either state divides by no zero and adds what it should. -/
theorem WindowInv.setCwnd (h : WindowInv c) : ∃ c', setCwnd c = .ok c' ∧ c'.cwnd.toNat = c.cwnd.toNat + c.increase ∧
    c'.ssthreshold = c.ssthreshold ∧ WindowInv c' := by
  have hmss : mss = 1448 := rfl
  have hsquare : mss * mss = 2096704 := rfl
  have hlow := h.mss_le
  have hhigh := h.increase_le
  unfold increase at hhigh ⊢
  cases hs : c.state with
  | slowStart =>
    rw [hs] at hhigh
    simp only at hhigh
    have hsum : (c.cwnd + BitVec.ofNat 32 mss).toNat = c.cwnd.toNat + mss := by
      rw [BitVec.toNat_add, BitVec.toNat_ofNat]
      omega
    refine ⟨_, setCwnd_slowStart hs, hsum, rfl, ?_, ?_, h.ssthreshold, ?_⟩
    · rw [hsum]
      omega
    · rw [hsum]
      exact hhigh
    · simp only [hsum]
      split
      · rename_i hlt
        simpa using hlt
      · rename_i hlt
        simpa using hlt
  | congestionAvoidance =>
    rw [hs] at hhigh
    simp only at hhigh
    have hne : c.cwnd ≠ 0 := by
      intro hzero
      rw [hzero] at hlow
      exact absurd hlow (by decide)
    have hquot : (BitVec.ofNat 32 (mss * mss) / c.cwnd).toNat = mss * mss / c.cwnd.toNat := by
      rw [BitVec.toNat_udiv, BitVec.toNat_ofNat]
      congr 1
    have hsum : (c.cwnd + BitVec.ofNat 32 (mss * mss) / c.cwnd).toNat = c.cwnd.toNat + mss * mss / c.cwnd.toNat := by
      rw [BitVec.toNat_add, hquot]
      omega
    have hlt : c.ssthreshold.toNat < c.cwnd.toNat := by
      by_contra hle
      rw [h.state.2 (by omega)] at hs
      cases hs
    refine ⟨_, setCwnd_congestionAvoidance hs hne, hsum, rfl, ?_, ?_, h.ssthreshold, ?_⟩
    · rw [hsum]
      omega
    · rw [hsum]
      exact hhigh
    · simp only [hsum]
      constructor
      · intro hss
        rw [hs] at hss
        cases hss
      · intro hle
        have := Nat.zero_le (mss * mss / c.cwnd.toNat)
        omega

/-- `resend` of either state; the new threshold fits in 16 bits. -/
theorem ssthreshold_resend (h : c.snd.numOutstanding.toNat ≤ 65537) :
    (congestionResend c).ssthreshold.toNat = max (c.snd.numOutstanding.toNat / 2) (2 * mss) := by
  have hmss : mss = 1448 := rfl
  simp only [congestionResend, BitVec.toNat_ofNat]
  omega

theorem WindowInv.resend (h : c.snd.numOutstanding.toNat ≤ 65537) : WindowInv (congestionResend c) := by
  have hthreshold := ssthreshold_resend h
  have hcwnd : (congestionResend c).cwnd.toNat = mss := rfl
  refine ⟨hcwnd.ge, ?_, ?_, ?_⟩
  · rw [hcwnd]
    decide
  · rw [hthreshold]
    exact Nat.le_max_right _ _
  · rw [hthreshold, hcwnd]
    refine ⟨fun _ => ?_, fun _ => rfl⟩
    exact le_trans (by decide) (Nat.le_max_right _ _)

/-! ### Runs -/

/-- A step divides by no zero and keeps the invariant. -/
theorem WindowInv.step {i : CongestionInput} (h : WindowInv c) (hb : resendBounded c i) :
    ∃ c', step i c = .ok c' ∧ WindowInv c' := by
  cases i with
  | packet p =>
    have hupdate : WindowInv (updateSendWindow { c with snd := c.snd.acknowledge p.ackNumber } p) := by
      unfold updateSendWindow
      split
      · exact h.congr rfl rfl rfl
      · exact h.congr rfl rfl rfl
    unfold TCPTahoeCongestionControlContext.step acknowledgeSegment
    by_cases hack : (p.ack && betweenEqual c.snd.sndUna p.ackNumber c.snd.sndMax) = true
    · by_cases hnew : (betweenEqualRight c.snd.sndUna p.ackNumber c.snd.sndMax &&
          (updateSendWindow { c with snd := c.snd.acknowledge p.ackNumber } p).dataSent) = true
      · obtain ⟨c', hset, -, -, hinv⟩ := hupdate.setCwnd
        exact ⟨c', by simp only [hack, hnew, if_true, hset], hinv⟩
      · exact ⟨_, by simp only [hack, hnew, if_true, Bool.false_eq_true, if_false], hupdate⟩
    · exact ⟨c, by simp only [hack, Bool.false_eq_true, if_false], h⟩
  | resend => exact ⟨_, rfl, .resend (hb rfl)⟩
  | sending snd dataSent probeTimer => exact ⟨_, rfl, h.congr rfl rfl rfl⟩

theorem WindowInv.init : WindowInv {} := by
  have hmss : mss = 1448 := rfl
  have hcwnd : ({} : TCPTahoeCongestionControlContext).cwnd.toNat = 4380 := rfl
  have hthreshold : ({} : TCPTahoeCongestionControlContext).ssthreshold.toNat = 65535 := rfl
  constructor
  · omega
  · rw [hcwnd]
    decide
  · omega
  · rw [hcwnd, hthreshold]
    simp

theorem WindowInv.run {is : List CongestionInput} (hr : machine.Run resendBounded c is c') (h : WindowInv c) :
    WindowInv c' := by
  refine hr.invariant WindowInv h ?_
  intro t i u ht _ hb hs
  obtain ⟨u', hu, hinv⟩ := ht.step hb
  rw [show TCPTahoeCongestionControlContext.step i t = .ok u from hs] at hu
  cases hu
  exact hinv

/-- The window is at least one segment and the threshold at least two; the state is the one that the window calls for;
no division by zero, no overflow of the window, no truncation of the threshold. -/
theorem congestion_window {is : List CongestionInput} (hr : machine.Run resendBounded {} is c) :
    (mss ≤ c.cwnd.toNat ∧ 2 * mss ≤ c.ssthreshold.toNat) ∧
    ((c.state = .slowStart ↔ c.cwnd.toNat ≤ c.ssthreshold.toNat) ∧
      (c.state = .congestionAvoidance ↔ c.ssthreshold.toNat < c.cwnd.toNat)) ∧
    (∀ i, resendBounded c i → ∃ c', machine.step i c = .ok c') ∧
    (∃ c', setCwnd c = .ok c' ∧ c'.cwnd.toNat = c.cwnd.toNat + c.increase) ∧
    (resendBounded c .resend →
      (congestionResend c).ssthreshold.toNat = max (c.snd.numOutstanding.toNat / 2) (2 * mss)) := by
  have hinv := WindowInv.init.run hr
  refine ⟨⟨hinv.mss_le, hinv.ssthreshold⟩, ⟨hinv.state, ?_⟩, ?_, ?_, fun hb => ssthreshold_resend (hb rfl)⟩
  · have hstate := hinv.state
    cases hs : c.state with
    | slowStart =>
      have := hstate.1 hs
      simp only [reduceCtorEq, false_iff]
      omega
    | congestionAvoidance =>
      rw [hs] at hstate
      simp only [reduceCtorEq, false_iff] at hstate
      simp only [true_iff]
      omega
  · intro i hb
    obtain ⟨c', hs, -⟩ := hinv.step hb
    exact ⟨c', hs⟩
  · obtain ⟨c', hs, hsum, -⟩ := hinv.setCwnd
    exact ⟨c', hs, hsum⟩

/-- A retransmission, and acknowledgements that take the window over the new threshold and on by a fraction. -/
def avoidanceScript : List CongestionInput :=
  [.sending ⟨10002, 2, 65539⟩ true none, .resend, .packet (Endpoint.segment 1 3 []), .packet (Endpoint.segment 1 4 []),
    .packet (Endpoint.segment 1 5 []), .packet (Endpoint.segment 1 6 [])]

theorem congestion_window_avoidance : ∃ c, machine.Run resendBounded {} avoidanceScript c ∧
    c.state = .congestionAvoidance ∧ c.cwnd = 6154 ∧ mss ≤ c.cwnd.toNat ∧ 2 * mss ≤ c.ssthreshold.toNat := by
  have h : (machine.replay resendBounded avoidanceScript {}).any (fun c =>
      decide (c.state = .congestionAvoidance) && decide (c.cwnd = 6154)) = true := by decide +kernel
  obtain ⟨c, hrun, hq⟩ := Transition.Machine.exists_run h
  simp only [Bool.and_eq_true, decide_eq_true_eq] at hq
  exact ⟨c, hrun, hq.1, hq.2, (congestion_window hrun).1⟩

/-! ### What an endpoint does to its context -/

/-- One context leads to the other. -/
def Reaches (c c' : TCPTahoeCongestionControlContext) : Prop := ∃ is, machine.Run resendBounded c is c'

theorem Reaches.refl (c : TCPTahoeCongestionControlContext) : Reaches c c := ⟨[], .nil⟩

theorem Reaches.trans {c'' : TCPTahoeCongestionControlContext} (h : Reaches c c') (h' : Reaches c' c'') :
    Reaches c c'' := by
  obtain ⟨is, hr⟩ := h
  obtain ⟨js, hr'⟩ := h'
  exact ⟨is ++ js, hr.trans hr'⟩

theorem Reaches.of_step {i : CongestionInput} (hs : machine.step i c = .ok c') (hb : resendBounded c i) :
    Reaches c c' := ⟨[] ++ [i], .snoc .nil trivial hb hs⟩

theorem Reaches.sending (c : TCPTahoeCongestionControlContext) (snd : OutstandingDataContext) (dataSent : Bool)
    (probeTimer : Option TimeoutEvent) :
    Reaches c { c with snd := snd, dataSent := dataSent, probeTimer := probeTimer } :=
  .of_step (i := .sending snd dataSent probeTimer) rfl (by simp [resendBounded])

end

end TCPTahoeCongestionControlContext

namespace Endpoint

open TCPTahoeCongestionControlContext (Reaches)

/-- At most 65537 bytes are outstanding when a retransmission is handled. -/
def resendsBounded (e : Endpoint) (i : Input) : Prop :=
  i = .drain → ∀ v ∈ e.queue.head?, ∀ r, v.kind = .resendPacket r → e.ccc.snd.numOutstanding.toNat ≤ 65537

section

variable {e e' : Endpoint} {p : TCPPacket}

theorem sendOnePacket_reaches {w : Bool} (h : e.sendOnePacket w = .ok e') : Reaches e.ccc e'.ccc := by
  unfold sendOnePacket at h
  obtain ⟨n, -, h⟩ := bind_eq_ok.1 h
  obtain ⟨-, -, h⟩ := bind_eq_ok.1 h
  obtain ⟨-, -, h⟩ := bind_eq_ok.1 h
  obtain ⟨-, -, h⟩ := bind_eq_ok.1 h
  cases h
  exact .sending _ _ _ _

theorem sendPackets_reaches (h : e.sendPackets = .ok e') : Reaches e.ccc e'.ccc :=
  sendPackets_invariant (fun f => Reaches e.ccc f.ccc) h (.refl _) fun _ _ hr _ hone => hr.trans (sendOnePacket_reaches hone)

theorem sendOrProbe_reaches (h : e.sendOrProbe = .ok e') : Reaches e.ccc e'.ccc := by
  have hstart : Reaches e.ccc e.startProbeTimer.ccc := by
    unfold startProbeTimer
    split
    · exact .refl _
    · exact .sending _ _ _ _
  have hcancel : Reaches e.ccc e.cancelProbeTimer.ccc := by
    unfold cancelProbeTimer
    split
    · exact .refl _
    · exact .sending _ _ _ _
  unfold sendOrProbe at h
  split at h
  · cases h
    exact hstart
  · exact hcancel.trans (sendPackets_reaches h)

theorem congestionReceivePacket_reaches (h : e.congestionReceivePacket p = .ok e') : Reaches e.ccc e'.ccc := by
  unfold congestionReceivePacket at h
  by_cases hack : (p.ack && betweenEqual e.ccc.snd.sndUna p.ackNumber e.ccc.snd.sndMax) = true
  · rw [if_pos hack] at h
    obtain ⟨ccc, hccc, h⟩ := bind_eq_ok.1 h
    have hstep : TCPTahoeCongestionControlContext.machine.step (.packet p) e.ccc = .ok ccc := by
      show TCPTahoeCongestionControlContext.step (.packet p) e.ccc = .ok ccc
      unfold TCPTahoeCongestionControlContext.step
      simp only [hack, if_true, hccc]
    have hpacket : Reaches e.ccc ccc :=
      .of_step hstep (by simp [TCPTahoeCongestionControlContext.resendBounded])
    exact hpacket.trans (sendOrProbe_reaches h)
  · rw [if_neg hack] at h
    cases h
    exact .refl _

theorem congestionTimerFired_reaches {t : TimeoutEvent} (h : e.congestionTimerFired t = .ok e') :
    Reaches e.ccc e'.ccc := by
  unfold congestionTimerFired at h
  split at h
  · have hprobe : Reaches e.ccc { e.ccc with probeTimer := some (e.newTimeout e.socket.id) } := .sending _ _ _ _
    exact hprobe.trans (sendOnePacket_reaches h)
  · cases h
    exact .refl _

theorem congestionResendPacket_reaches (hb : e.ccc.snd.numOutstanding.toNat ≤ 65537)
    (h : e.congestionResendPacket = .ok e') : Reaches e.ccc e'.ccc := by
  unfold congestionResendPacket resendData at h
  obtain ⟨q, -, h⟩ := bind_eq_ok.1 h
  cases h
  have hresend : Reaches e.ccc (congestionResend e.ccc) := .of_step (i := .resend) rfl fun _ => hb
  exact hresend.trans (.sending _ _ _ _)

theorem reliabilityReceivePacket_ccc (h : e.reliabilityReceivePacket p = .ok e') : e'.ccc = e.ccc := by
  obtain ⟨e₁, -, hack, h⟩ := reliabilityReceivePacket_ok h
  split at h
  · obtain ⟨v, -, rfl⟩ := h
    exact hack.ccc
  · rw [h]
    exact hack.ccc

theorem runSavedClose_ccc (e : Endpoint) : e.runSavedClose.ccc = e.ccc := (ManagerChange.runSavedClose e).ccc

theorem receivePacket_reaches (h : e.receivePacket p = .ok e') : Reaches e.ccc e'.ccc := by
  have hcase := receivePacket_cases e p
  rw [h] at hcase
  cases hcase with
  | corrupt _ h => cases h; exact .refl _
  | skipping _ _ _ h =>
    rw [reliabilityReceivePacket_ccc h.symm]
    exact .refl _
  | lingering _ _ _ h =>
    cases h
    rw [(ManagerChange.receivePacket e p).ccc]
    exact .refl _
  | answered _ _ h => cases h; exact .refl _
  | ignored _ _ h => cases h; exact .refl _
  | parked _ _ _ _ _ h => cases h; exact .refl _
  | taken _ _ _ _ h =>
    obtain ⟨e₁, h₁, h⟩ := bind_eq_ok.1 h.symm
    obtain ⟨e₂, h₂, h⟩ := bind_eq_ok.1 h
    cases h
    rw [runSavedClose_ccc, ← reliabilityReceivePacket_ccc h₁, ← (ManagerChange.receivePacket e₁ p).ccc]
    obtain ⟨-, rfl⟩ | ⟨-, h₂⟩ := receiveUnlessDuplicate_ok h₂
    · exact .refl _
    · exact congestionReceivePacket_reaches h₂

theorem sendPacket_reaches (h : e.sendPacket p = .ok e') : Reaches e.ccc e'.ccc := by
  unfold sendPacket at h
  obtain ⟨⟨q, e₁⟩, h₁, h⟩ := bind_eq_ok.1 h
  cases h
  rw [← (AckChange.sendPacket h₁).ccc]
  exact .sending _ _ _ _

theorem createAndDispatchReceivedData_ccc (e : Endpoint) (r : ReceiveEvent) :
    (e.createAndDispatchReceivedData r).ccc = e.ccc := by
  unfold createAndDispatchReceivedData
  simp only
  split <;> rfl

theorem handleProtocolEvent_reaches {k : ProtocolEventKind}
    (hb : ∀ r, k = .resendPacket r → e.ccc.snd.numOutstanding.toNat ≤ 65537) (h : e.handleProtocolEvent k = .ok e') :
    Reaches e.ccc e'.ccc := by
  unfold handleProtocolEvent at h
  cases k with
  | sendPacket p => exact sendPacket_reaches h
  | resendPacket r => exact congestionResendPacket_reaches (hb r rfl) h
  | sendBufferNotEmpty => exact sendPackets_reaches h
  | sendBufferNotFull =>
    simp only at h
    obtain ⟨-, rfl⟩ | ⟨_, n, -, -, ⟨-, rfl⟩ | ⟨-, rfl⟩⟩ := sendBufferNotFull_ok h
    · exact .refl _
    · exact .refl _
    · exact .refl _
  | receiveBufferNotEmpty =>
    cases h
    obtain heq | ⟨r, -, -, heq⟩ := receiveBufferNotEmpty_cases e <;> rw [heq]
    · exact .refl _
    · simp only [createAndDispatchReceivedData_ccc]
      exact .refl _
  | receiveBufferNotFull =>
    cases h
    obtain ⟨-, heq⟩ | ⟨p, -, -, heq⟩ := receiveBufferNotFull_cases e <;> rw [heq]
    · exact .refl _
    · exact .refl _
  | connectionInitiated | connectionEstablished | deleteSocket =>
    cases h
    exact .refl _

/-- A step of an endpoint is a run of its congestion control. -/
theorem step_reaches {i : Input} (hb : e.resendsBounded i) (h : step i e = .ok e') : Reaches e.ccc e'.ccc := by
  replace h := step_ok h
  cases h with
  | dropped _ h => cases h; exact .refl _
  | skipped _ _ h => cases h; exact .refl _
  | @event v vs hq _ _ h =>
    have hbound : ∀ r, v.kind = .resendPacket r → e.ccc.snd.numOutstanding.toNat ≤ 65537 :=
      hb rfl v (by rw [hq]; rfl)
    have hreach := handleProtocolEvent_reaches (e := { e with queue := vs }) hbound h.symm
    exact hreach
  | packet _ _ _ h =>
    have hreach := receivePacket_reaches h.symm
    exact hreach
  | listen l _ h =>
    cases h
    rw [(ManagerChange.listen e l).ccc]
    exact .refl _
  | connect c _ h =>
    cases h
    obtain heq | ⟨_, -, -, heq⟩ := managerConnect_cases e c <;> rw [heq]
    · exact .refl _
    · exact .refl _
  | send s _ _ h =>
    obtain ⟨n, -, ⟨-, rfl⟩ | ⟨-, rfl⟩⟩ := send_ok h.symm
    · exact .refl _
    · exact .refl _
  | receive q _ _ h =>
    replace h := h.symm
    obtain ⟨-, rfl⟩ | ⟨-, -, rfl⟩ := reliabilityReceive_ok h
    · rw [createAndDispatchReceivedData_ccc]
      exact .refl _
    · exact .refl _
  | close c _ h =>
    cases h
    rcases close_cases e c with ⟨-, heq⟩ | ⟨-, heq⟩ <;> rw [heq]
    · show Reaches e.ccc e.managerClose.ccc
      rw [(ManagerChange.close e).ccc]
      exact .refl _
    · exact .refl _
  | timerFired t _ _ h =>
    have hreach := congestionTimerFired_reaches h.symm
    rw [(ManagerChange.timerFired _ t).ccc, (AckChange.timerFired e t).ccc] at hreach
    exact hreach
  | tick now _ h => cases h; exact .refl _

end

end Endpoint

end Wifu
