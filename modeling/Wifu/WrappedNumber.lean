import Wifu.WindowEdge

/-!
# The number zero (`TCPTahoeReliabilityState.cc`, `TCPTahoe.cc`)

`set_ack_number_and_bit` and `is_valid_sequence_number` take `rcv_nxt == 0` for a connection that has not received a SYN.
While `rcv_nxt` is another number every segment acknowledges it and only segments in the window pass; when the numbers of
an open connection wrap around to 0, neither holds.
-/

namespace Wifu

namespace Endpoint

/-- A segment is acceptable (RFC 793): its first or its last byte lies in the window, or the window is closed and the segment
is empty and stands at `rcv_nxt`. -/
def InWindow (rc : TCPTahoeReliabilityContext) (p : TCPPacket) : Prop :=
  if p.dataLengthBytes = 0 ∧ rc.rcvWnd = 0 then p.sequenceNumber = rc.rcvNxt
  else 0 ≤ p.dataLengthBytes ∧ (Serial.dist rc.rcvNxt p.sequenceNumber < rc.rcvWnd.toNat ∨
    (0 < p.dataLengthBytes ∧
      Serial.dist rc.rcvNxt (p.sequenceNumber + BitVec.ofInt 32 p.dataLengthBytes - 1) < rc.rcvWnd.toNat))

instance (rc : TCPTahoeReliabilityContext) (p : TCPPacket) : Decidable (InWindow rc p) :=
  if h : p.dataLengthBytes = 0 ∧ rc.rcvWnd = 0 then
    decidable_of_iff (p.sequenceNumber = rc.rcvNxt) (by rw [InWindow, if_pos h])
  else
    decidable_of_iff (0 ≤ p.dataLengthBytes ∧ (Serial.dist rc.rcvNxt p.sequenceNumber < rc.rcvWnd.toNat ∨
      (0 < p.dataLengthBytes ∧
        Serial.dist rc.rcvNxt (p.sequenceNumber + BitVec.ofInt 32 p.dataLengthBytes - 1) < rc.rcvWnd.toNat)))
      (by rw [InWindow, if_neg h])

/-- The peer's SYN has been processed. -/
def synchronized (e : Endpoint) : Prop := e.rc.receiveWindow.started = true

instance (e : Endpoint) : Decidable e.synchronized := inferInstanceAs (Decidable (_ = _))

/-- The number expected next is not 0 once the SYN has been processed. -/
def expectsNonzero (e : Endpoint) : Prop := e.synchronized → e.rc.rcvNxt ≠ 0

instance (e : Endpoint) : Decidable e.expectsNonzero := inferInstanceAs (Decidable (_ → _))

/-- A segment that has been sent, and `rcv_nxt` when it was. -/
structure Acknowledging where
  segment : TCPPacket
  rcvNxt : BitVec 32
  deriving DecidableEq

/-- The segments sent after the SYN has been processed. -/
def observeAcks (e : Endpoint) (_ : Input) (e' : Endpoint) (h : List Acknowledging) : List Acknowledging :=
  if e.synchronized then
    h ++ ((sentPackets e'.dispatched).drop (sentPackets e.dispatched).length).map fun q => ⟨q, e.rc.rcvNxt⟩
  else h

/-- The endpoint with the segments it has sent on the open connection. -/
def acknowledgingMachine : Transition.Machine (Endpoint × List Acknowledging) Input Abort := machine.observed observeAcks

instance (i : Input) (s : Endpoint × List Acknowledging) : Decidable (acknowledgingMachine.enabled i s) :=
  inferInstanceAs (Decidable (enabled i s.1))

section

variable {rc : TCPTahoeReliabilityContext} {e e' : Endpoint} {i : Input} {p q : TCPPacket}

/-! ### The window -/

private theorem betweenEqualLeft_window (n : BitVec 32) (w : BitVec 16) (s : BitVec 32) :
    betweenEqualLeft n s (n + w.setWidth 32) = true ↔ Serial.dist n s < w.toNat := by
  have hlt := w.isLt
  have hwidth : w.setWidth 32 = BitVec.ofNat 32 w.toNat := by
    apply BitVec.eq_of_toNat_eq
    rw [BitVec.toNat_setWidth, BitVec.toNat_ofNat]
  have hdist : Serial.dist n (n + w.setWidth 32) = w.toNat := by
    rw [hwidth]
    exact Serial.dist_add_ofNat _ (by omega)
  rw [betweenEqualLeft_iff (by omega), hdist]

/-- While the number expected next is not 0, the sequence check is that of the window. -/
theorem isValidSequenceNumber_iff (h : rc.rcvNxt ≠ 0) : isValidSequenceNumber rc p = true ↔ InWindow rc p := by
  have hopen : 0 < rc.rcvWnd ↔ rc.rcvWnd ≠ 0 := by
    constructor
    · rintro hpos hzero
      rw [hzero] at hpos
      exact absurd hpos (by decide)
    · intro hne
      rw [BitVec.lt_def]
      have hpos : rc.rcvWnd.toNat ≠ 0 := fun hzero => hne (BitVec.eq_of_toNat_eq hzero)
      exact Nat.pos_of_ne_zero hpos
  unfold isValidSequenceNumber InWindow
  simp only [if_neg h, hopen]
  by_cases hw : rc.rcvWnd = 0
  · -- a closed window
    rcases Int.lt_trichotomy p.dataLengthBytes 0 with hneg | hempty | hdata
    · have hne : p.dataLengthBytes ≠ 0 := by omega
      have hle : ¬0 < p.dataLengthBytes := by omega
      have hnot : ¬0 ≤ p.dataLengthBytes := by omega
      simp [hle, hne, hnot]
    · simp [hempty, hw]
    · have hne : p.dataLengthBytes ≠ 0 := by omega
      simp [hdata, hne, hw]
  · have hw : ¬rc.rcvWnd = 0#16 := hw
    rcases Int.lt_trichotomy p.dataLengthBytes 0 with hneg | hempty | hdata
    · have hne : p.dataLengthBytes ≠ 0 := by omega
      have hle : ¬0 < p.dataLengthBytes := by omega
      have hnot : ¬0 ≤ p.dataLengthBytes := by omega
      simp [hle, hne, hnot]
    · simp [hempty, hw, betweenEqualLeft_window]
    · have hne : p.dataLengthBytes ≠ 0 := by omega
      have hle : 0 ≤ p.dataLengthBytes := by omega
      simp [hdata, hne, hle, hw, betweenEqualLeft_window]

/-- At 0 every segment passes. -/
theorem isValidSequenceNumber_zero (h : rc.rcvNxt = 0) : isValidSequenceNumber rc p = true := by
  unfold isValidSequenceNumber
  exact if_pos h

/-! ### The segments sent -/

/-- A segment leaves with the number expected next, and with the ACK bit when that is not 0 or the bit was set before. -/
theorem sendPacket_acknowledges (h : e.sendPacket p = .ok e')
    (hs : sentPackets e'.dispatched = sentPackets e.dispatched ++ [q]) :
    q.ackNumber = e.rc.rcvNxt ∧ q.ack = (p.ack || e.rc.rcvNxt != 0) := by
  unfold sendPacket at h
  obtain ⟨⟨q', e₁⟩, h₁, h⟩ := bind_eq_ok.1 h
  cases h
  have hlog : sentPackets ((e₁.congestionSendPacket q').dispatch (.networkSendPacket q')).dispatched =
      sentPackets e.dispatched ++ [q'] := by
    rw [← sentPackets_congr (AckChange.sendPacket h₁).transfers]
    exact sentPackets_append
  have hq : q = q' := by
    rw [hs] at hlog
    exact List.singleton_inj.1 (List.append_inj' hlog rfl).2
  subst hq
  unfold reliabilitySendPacket at h₁
  simp only at h₁
  obtain ⟨b, -, h₁⟩ := bind_eq_ok.1 h₁
  obtain ⟨q', h₂, h₁⟩ := bind_eq_ok.1 h₁
  cases h₁
  have hset : (setSequenceNumber e.rc p).2.rcvNxt = e.rc.rcvNxt ∧ (setSequenceNumber e.rc p).1.ack = p.ack := by
    unfold setSequenceNumber
    split <;> exact ⟨rfl, rfl⟩
  unfold insertTimestamp at h₂
  split at h₂
  · cases h₂
  · cases h₂
    refine ⟨hset.1, ?_⟩
    show ((setSequenceNumber e.rc p).1.ack || (setSequenceNumber e.rc p).2.rcvNxt != 0) = _
    rw [hset.1, hset.2]

/-- A segment that a step sends while the number expected next is not 0 acknowledges it. -/
theorem step_acknowledges (hnext : e.rc.rcvNxt ≠ 0) (hstep : step i e = .ok e')
    (hq : q ∈ (sentPackets e'.dispatched).drop (sentPackets e.dispatched).length) :
    q.ack = true ∧ q.ackNumber = e.rc.rcvNxt := by
  have hnone (hs : sentPackets e'.dispatched = sentPackets e.dispatched) : False := by
    rw [hs, List.drop_length] at hq
    cases hq
  cases step_sendStep hstep with
  | same _ hs => exact (hnone hs).elim
  | acked _ _ _ _ _ _ _ hs => exact (hnone hs).elim
  | rewound _ _ _ _ hs => exact (hnone hs).elim
  | @sent p r vs hi hdel hqueue hsends =>
    subst hi
    have hcall := step_ok hstep
    have hsent : sentPackets e'.dispatched = sentPackets e.dispatched ++ [r] := hsends.sent
    rw [hsent, List.drop_left, List.mem_singleton] at hq
    subst hq
    cases hcall with
    | packet hd _ _ _ => cases hd
    | dropped hd h =>
      cases h
      simp at hsent
    | skipped hq' hc h =>
      rw [hqueue] at hq'
      cases hq'
      simp [contains, hdel] at hc
    | event hq' _ _ h =>
      rw [hqueue] at hq'
      cases hq'
      obtain ⟨hnumber, hbit⟩ := sendPacket_acknowledges (e := { e with queue := vs }) h.symm hsent
      refine ⟨?_, hnumber⟩
      have hnonzero : (e.rc.rcvNxt != 0) = true := bne_iff_ne.2 hnext
      rw [hbit, hnonzero, Bool.or_true]

end

/-- In every run in which the number expected next is not 0 when a step is taken on an open connection, every segment sent
on the open connection has the ACK bit and acknowledges that number; and in every state in which the number is not 0,
segments outside the window fail the sequence check. -/
theorem open_acknowledges {id : SocketId} {l r : AddressPort} {is : List Input} {s : Endpoint × List Acknowledging}
    (h : acknowledgingMachine.Run (fun s _ => s.1.expectsNonzero) (create id l r, []) is s) :
    (∀ a ∈ s.2, a.segment.ack = true ∧ a.segment.ackNumber = a.rcvNxt) ∧
    (s.1.expectsNonzero → s.1.synchronized → ∀ p, ¬InWindow s.1.rc p → isValidSequenceNumber s.1.rc p = false) := by
  constructor
  · refine h.invariant (fun s => ∀ a ∈ s.2, a.segment.ack = true ∧ a.segment.ackNumber = a.rcvNxt) ?_ ?_
    · intro a ha
      cases ha
    · rintro ⟨e, sent⟩ i ⟨e', sent'⟩ ih _ hcond hstep a ha
      obtain ⟨hstep, hobs⟩ := Transition.Machine.observed_step.1 hstep
      change sent' = observeAcks e i e' sent at hobs
      rw [hobs] at ha
      unfold observeAcks at ha
      split at ha
      · rename_i hopen
        rcases List.mem_append.1 ha with hold | hnew
        · exact ih a hold
        · obtain ⟨q, hq, rfl⟩ := List.mem_map.1 hnew
          exact step_acknowledges (hcond hopen) hstep hq
      · exact ih a ha
  · intro hnext hopen p hout
    rw [← Bool.not_eq_true, isValidSequenceNumber_iff (hnext hopen)]
    exact hout

/-- A state with 0 expected next breaks the law: there is a segment outside the window, and it passes. -/
theorem zero_accepts {rc : TCPTahoeReliabilityContext} (h : rc.rcvNxt = 0) :
    ∃ p, ¬InWindow rc p ∧ isValidSequenceNumber rc p = true := by
  refine ⟨segment 2147483648 0 [], ?_, isValidSequenceNumber_zero h⟩
  have hlt := rc.rcvWnd.isLt
  have hdist : Serial.dist rc.rcvNxt (segment 2147483648 0 []).sequenceNumber = 2147483648 := by
    rw [h]
    decide
  unfold InWindow
  split
  · rw [h]
    decide
  · rw [hdist]
    rintro ⟨-, hfirst | ⟨hdata, -⟩⟩
    · omega
    · exact absurd hdata (by decide)

/-- A client sends a byte after it has received a SYN with the number 100. -/
theorem open_acknowledges_byte : ∃ s : Endpoint × List Acknowledging, s.2 ≠ [] ∧
    ∀ a ∈ s.2, a.segment.ack = true ∧ a.segment.ackNumber = a.rcvNxt := by
  have h : (acknowledgingMachine.replay (fun s _ => s.1.expectsNonzero)
      (connectScript 100 ++ [.send ⟨1, [7]⟩, .drain, .drain]) (client, [])).any (fun s => decide (s.2 ≠ [])) = true := by
    decide +kernel
  obtain ⟨s, hrun, hq⟩ := Transition.Machine.exists_run h
  exact ⟨s, of_decide_eq_true hq, (@open_acknowledges 1 clientAddress ⟨0, 0⟩ _ s hrun).1⟩

/-- When the peer's SYN has the number 2 ^ 32 − 1, a byte is sent without the ACK bit, and a segment far outside the window
is received as if it had been expected. -/
theorem wrapped_forgets : ∃ s, acknowledgingMachine.Run Transition.anyStep (client, [])
      (connectScript 4294967295 ++ [.packet (segment 0 2 []), .send ⟨1, [7]⟩, .drain, .drain]) s ∧
    s.1.cmc.state = .established ∧ s.1.synchronized ∧
    (∃ a ∈ s.2, a.segment.data = [7] ∧ a.segment.ack = false) ∧
    ¬InWindow s.1.rc (segment 2147483648 2 []) ∧ isValidSequenceNumber s.1.rc (segment 2147483648 2 []) = true := by
  have h : (acknowledgingMachine.replay Transition.anyStep
      (connectScript 4294967295 ++ [.packet (segment 0 2 []), .send ⟨1, [7]⟩, .drain, .drain]) (client, [])).any (fun s =>
      decide (s.1.cmc.state = .established) && decide s.1.synchronized &&
      s.2.any (fun a => decide (a.segment.data = [7]) && !a.segment.ack) &&
      decide (s.1.rc.rcvNxt = 0) && decide (¬InWindow s.1.rc (segment 2147483648 2 []))) = true := by decide +kernel
  obtain ⟨s, hrun, hq⟩ := Transition.Machine.exists_run h
  simp only [Bool.and_eq_true, decide_eq_true_eq, List.any_eq_true, Bool.not_eq_true'] at hq
  obtain ⟨⟨⟨⟨hstate, hopen⟩, hsent⟩, hzero⟩, hout⟩ := hq
  exact ⟨s, hrun, hstate, hopen, hsent, hout, isValidSequenceNumber_zero hzero⟩

end Endpoint

end Wifu
