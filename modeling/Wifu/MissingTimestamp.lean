import Wifu.ReceiveView

/-!
# Acknowledgements without a timestamp (`TCPTahoeReliabilityState.cc`, `TCPAP.cc`, `TCPAPSendRateLimiter.cc`)

`handle_valid_ack` hands the timestamp option of the packet to `update_rto`, and the rate limiter of `TCPAP` computes the
round trip time from it; neither looks whether there is one.
-/

namespace Wifu

namespace Endpoint

section

variable {e : Endpoint} {p : TCPPacket}

/-- The packet's ACK gets to `update_rto`: it acknowledges something new, and the packet is neither refused nor kept for
later. -/
def reachesUpdateRto (e : Endpoint) (p : TCPPacket) : Bool :=
  p.validChecksum && p.ack && betweenEqualRight e.rc.snd.sndUna p.ackNumber e.rc.snd.sndMax &&
    isValidSequenceNumber e.rc p && !(p.fin && decide (e.rc.rcvWnd.toNat < maxTcpReceiveWindowSize))

theorem handleValidAck_nullTimestamp : e.handleValidAck p = .error .nullTimestamp ↔ p.timestamp = none := by
  unfold handleValidAck
  constructor
  · intro h
    rcases bind_eq_error.1 h with h | ⟨_, -, h⟩
    · simpa using (check_eq_error.1 h).1
    · split at h
      · cases h
      · split at h <;> cases h
  · intro h
    rw [h]
    rfl

theorem handleAck_nullTimestamp : e.handleAck p = .error .nullTimestamp ↔
    p.ack = true ∧ betweenEqualRight e.rc.snd.sndUna p.ackNumber e.rc.snd.sndMax = true ∧ p.timestamp = none := by
  unfold handleAck
  split
  · rename_i hack
    refine iff_of_false (fun h => by cases h) ?_
    rintro ⟨hack', -⟩
    rw [hack'] at hack
    cases hack
  · rename_i hack
    have hack : p.ack = true := by simpa using hack
    split
    · rename_i hnew
      rw [← handleValidAck_nullTimestamp (e := e)]
      constructor
      · intro h
        rcases bind_eq_error.1 h with h | ⟨_, -, h⟩
        · exact ⟨hack, hnew, h⟩
        · cases h
      · rintro ⟨-, -, h⟩
        rw [h]
        rfl
    · rename_i hold
      refine iff_of_false (fun h => ?_) fun h => hold h.2.1
      split at h
      · cases h
      · split at h <;> cases h

/-- Only the acknowledgement stops at the missing option. -/
theorem reliabilityReceivePacket_nullTimestamp : e.reliabilityReceivePacket p = .error .nullTimestamp ↔
    p.ack = true ∧ betweenEqualRight e.rc.snd.sndUna p.ackNumber e.rc.snd.sndMax = true ∧ p.timestamp = none := by
  have hsnd : (e.updateEchoReply p).rc.snd = e.rc.snd := by
    obtain ⟨t, heq⟩ := updateEchoReply_eq e p
    rw [heq]
  rw [← hsnd, ← handleAck_nullTimestamp]
  unfold reliabilityReceivePacket
  constructor
  · intro h
    rcases bind_eq_error.1 h with h | ⟨⟨b, e₁⟩, -, h⟩
    · exact h
    · simp only at h
      split at h
      · have hside := ReceiveView.receive_error (handleControlBitsAndData_error h)
        cases hside
      · cases h
  · intro h
    rw [h]
    rfl

/-- A packet stops at the missing option exactly when its ACK gets to `update_rto` without one. -/
theorem receivePacket_nullTimestamp : e.receivePacket p = .error .nullTimestamp ↔
    e.reachesUpdateRto p = true ∧ p.timestamp = none := by
  unfold reachesUpdateRto
  simp only [Bool.and_eq_true, Bool.not_eq_true']
  constructor
  · intro h
    have hcase := receivePacket_cases e p
    rw [h] at hcase
    cases hcase with
    | skipping _ _ hinv h =>
      obtain ⟨-, hnew, -⟩ := reliabilityReceivePacket_nullTimestamp.1 h.symm
      have hvalid : isValidAckNumber e.rc p = true := valid_of_betweenRight hnew
      rw [hinv] at hvalid
      cases hvalid
    | taken hsum hack hseq hfin h =>
      rcases bind_eq_error.1 h.symm with h | ⟨e₁, -, h⟩
      · obtain ⟨hack, hnew, hnone⟩ := reliabilityReceivePacket_nullTimestamp.1 h
        refine ⟨⟨⟨⟨⟨hsum, hack⟩, hnew⟩, hseq⟩, ?_⟩, hnone⟩
        by_contra hparked
        have hparked : p.fin = true ∧ e.rc.rcvWnd.toNat < maxTcpReceiveWindowSize := by simpa using hparked
        have hle := hfin hparked.1
        omega
      · -- what comes after the reliability state stops elsewhere
        rcases bind_eq_error.1 h with h | ⟨_, -, h⟩
        · have hside := congestionReceivePacket_error (receiveUnlessDuplicate_error h)
          cases hside
        · cases h
    | corrupt _ h => cases h
    | lingering _ _ _ h => cases h
    | answered _ _ h => cases h
    | ignored _ _ h => cases h
    | parked _ _ _ _ _ h => cases h
  · rintro ⟨⟨⟨⟨⟨hsum, hack⟩, hnew⟩, hseq⟩, hparked⟩, hnone⟩
    have hvalid : isValidAckNumber e.rc p = true := valid_of_betweenRight hnew
    have hparked : ¬(p.fin = true ∧ e.rc.rcvWnd.toNat < maxTcpReceiveWindowSize) := by simpa using hparked
    have herror := (reliabilityReceivePacket_nullTimestamp (e := e)).2 ⟨hack, hnew, hnone⟩
    unfold receivePacket
    rw [if_neg (by simp [hsum]), if_neg (by simp [hvalid]), if_neg (by simp [hseq]), if_neg hparked]
    simp only [herror]
    rfl

/-- A step stops at the missing option exactly when it delivers a packet whose ACK gets to `update_rto` without one. -/
theorem step_nullTimestamp (i : Input) (e : Endpoint) : step i e = .error .nullTimestamp ↔
    ∃ p ∈ e.delivered i, e.reachesUpdateRto p = true ∧ p.timestamp = none := by
  have hcase := step_cases e i
  generalize step i e = r at hcase
  cases hcase with
  | @packet _ p ps hd _ _ h =>
    have hsame : ({ e with redelivered := ps } : Endpoint).reachesUpdateRto p = e.reachesUpdateRto p := rfl
    rw [h, receivePacket_nullTimestamp, hsame]
    constructor
    · intro h
      exact ⟨p, hd, h⟩
    · rintro ⟨q, hq, h⟩
      rw [Option.mem_def, hd, Option.some_inj] at hq
      exact hq ▸ h
  | dropped hd h =>
    rw [h]
    refine iff_of_false (fun h => by cases h) ?_
    rintro ⟨q, hq, -⟩
    rw [Option.mem_def, hd] at hq
    cases hq
  | @event v vs _ _ _ h =>
    refine iff_of_false (fun hr => ?_) (by rintro ⟨q, hq, -⟩; cases hq)
    rw [hr] at h
    have hside := handleProtocolEvent_error h.symm
    cases hside
  | send s _ _ h =>
    refine iff_of_false (fun hr => ?_) (by rintro ⟨q, hq, -⟩; cases hq)
    rw [hr] at h
    have hroom := (getAvailableRoom_error (send_error h.symm)).1
    cases hroom
  | receive q _ _ h =>
    refine iff_of_false (fun hr => ?_) (by rintro ⟨q, hq, -⟩; cases hq)
    rw [hr] at h
    have hpending := reliabilityReceive_error h.symm
    cases hpending
  | timerFired t _ _ h =>
    refine iff_of_false (fun hr => ?_) (by rintro ⟨q, hq, -⟩; cases hq)
    rw [hr] at h
    have hside := congestionTimerFired_error h.symm
    cases hside
  | skipped _ _ h | listen _ _ h | connect _ _ h | close _ _ h | tick _ _ h =>
    rw [h]
    exact iff_of_false (fun h => by cases h) (by rintro ⟨q, hq, -⟩; cases hq)

end

end Endpoint

/-- An endpoint of `TCPAP`, with what the rate limiter's context keeps about acknowledgements. -/
structure PacedEndpoint where
  endpoint : Endpoint
  /-- `fixed_rate_`, an unsigned number whose initial value is −1. -/
  fixedRate : BitVec 32 := -1
  echoReply : BitVec 32 := 0
  deriving DecidableEq

namespace PacedEndpoint

/-- `TCPAPSendRateLimiter::state_receive_packet` up to the round trip time; the rest computes the rate. -/
def rateLimiterReceivePacket (c : PacedEndpoint) (p : TCPPacket) : Except Abort PacedEndpoint :=
  if c.fixedRate ≠ 0 then .ok c
  else if p.ack then
    match p.timestamp with
    | none => .error .nullTimestamp
    | some ts => .ok { c with echoReply := ts.timestamp }
  else .ok c

/-- `TCPAP::icontext_receive_packet`. -/
def receivePacket (c : PacedEndpoint) (p : TCPPacket) : Except Abort PacedEndpoint := do
  let e ← c.endpoint.receivePacket p
  { c with endpoint := e }.rateLimiterReceivePacket p

theorem rateLimiterReceivePacket_nullTimestamp {c : PacedEndpoint} {p : TCPPacket} :
    c.rateLimiterReceivePacket p = .error .nullTimestamp ↔ c.fixedRate = 0 ∧ p.ack = true ∧ p.timestamp = none := by
  unfold rateLimiterReceivePacket
  split
  · rename_i hrate
    exact iff_of_false (fun h => by cases h) fun h => hrate h.1
  · rename_i hrate
    have hrate : c.fixedRate = 0 := by simpa using hrate
    split
    · rename_i hack
      split
      · rename_i hnone
        exact iff_of_true rfl ⟨hrate, hack, hnone⟩
      · rename_i ts hsome
        refine iff_of_false (fun h => by cases h) ?_
        rintro ⟨-, -, hnone⟩
        rw [hsome] at hnone
        cases hnone
    · rename_i hack
      exact iff_of_false (fun h => by cases h) fun h => hack h.2.1

/-- In every state, a step reads a missing timestamp option exactly when it delivers a packet without one whose ACK gets to
`update_rto`; a packet of `TCPAP` does so also when it has an ACK and the rate is not fixed. -/
theorem timestamp_needed (i : Endpoint.Input) (e : Endpoint) (c : PacedEndpoint) (p : TCPPacket) :
    (Endpoint.step i e = .error .nullTimestamp ↔
      ∃ q ∈ e.delivered i, e.reachesUpdateRto q = true ∧ q.timestamp = none) ∧
    (c.receivePacket p = .error .nullTimestamp ↔
      (c.endpoint.reachesUpdateRto p = true ∧ p.timestamp = none) ∨
        ((∃ e', c.endpoint.receivePacket p = .ok e') ∧ c.fixedRate = 0 ∧ p.ack = true ∧ p.timestamp = none)) := by
  refine ⟨Endpoint.step_nullTimestamp i e, ?_⟩
  rw [← Endpoint.receivePacket_nullTimestamp]
  unfold receivePacket
  cases hr : c.endpoint.receivePacket p with
  | error a =>
    show Except.error a = _ ↔ _
    simp
  | ok e =>
    show ({ c with endpoint := e } : PacedEndpoint).rateLimiterReceivePacket p = .error .nullTimestamp ↔ _
    rw [rateLimiterReceivePacket_nullTimestamp]
    simp

/-- The acknowledgement of a byte, without options; and any ACK, after the fixed rate has been set to zero. -/
theorem timestamp_missing :
    (∃ e, Endpoint.machine.Run Transition.anyStep Endpoint.client
        (Endpoint.connectScript 100 ++ [.send ⟨1, [7]⟩, .drain, .drain]) e ∧
      (Endpoint.step (.packet { Endpoint.segment 101 3 [] with timestamp := none }) e) = .error .nullTimestamp) ∧
    ∃ e, Endpoint.machine.Run Transition.anyStep Endpoint.client (Endpoint.connectScript 100) e ∧
      (({ endpoint := e, fixedRate := 0 } : PacedEndpoint).receivePacket
        { Endpoint.segment 101 2 [] with timestamp := none }) = .error .nullTimestamp := by
  have hack : (Endpoint.machine.replay Transition.anyStep
      (Endpoint.connectScript 100 ++ [.send ⟨1, [7]⟩, .drain, .drain]) Endpoint.client).any (fun e =>
      decide (Endpoint.step (.packet { Endpoint.segment 101 3 [] with timestamp := none }) e = .error .nullTimestamp)) =
        true := by decide +kernel
  have hpaced : (Endpoint.machine.replay Transition.anyStep (Endpoint.connectScript 100) Endpoint.client).any
      (fun e => decide (({ endpoint := e, fixedRate := 0 } : PacedEndpoint).receivePacket
        { Endpoint.segment 101 2 [] with timestamp := none } = .error .nullTimestamp)) = true := by decide +kernel
  obtain ⟨e, hrun, hq⟩ := Transition.Machine.exists_run hack
  obtain ⟨e', hrun', hq'⟩ := Transition.Machine.exists_run hpaced
  exact ⟨⟨e, hrun, of_decide_eq_true hq⟩, ⟨e', hrun', of_decide_eq_true hq'⟩⟩

end PacedEndpoint

end Wifu
