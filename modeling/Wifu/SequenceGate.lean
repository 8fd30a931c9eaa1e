import Wifu.Conservation

/-!
# The sequence check as a gate

A packet that fails `is_valid_sequence_number` leaves the receiving side alone, and `rcv_nxt` only moves forward,
unless the packet skips the check because its ACK number is stale, or a SYN or FIN starts before `rcv_nxt`.
-/

namespace Wifu

namespace Endpoint

/-- An accepted packet with content has passed the sequence check; on a synchronized connection an accepted SYN or FIN
does not end before `rcv_nxt`, and a SYN comes while nothing is held out of order. -/
def gateCondition (e : Endpoint) (i : Input) : Prop :=
  ∀ p ∈ e.delivered i, e.accepts p = true → p.hasContent →
    isValidSequenceNumber e.rc p = true ∧ e.receiveView.synKeepsWindow p ∧
      (e.cmc.state.canSendAck = true → p.syn = true ∨ p.fin = true →
        lessThanOrEqual e.rc.rcvNxt (p.sequenceNumber + 1) = true)

instance (e : Endpoint) (i : Input) : Decidable (gateCondition e i) :=
  inferInstanceAs (Decidable (∀ p ∈ e.delivered i, _))

/-- The receiving side's numbers are in order along every run that meets the condition. -/
theorem run_bounded {id : SocketId} {l r : AddressPort} {is : List Input} {e : Endpoint}
    (h : machine.Run gateCondition (create id l r) is e) : e.receiveView.Bounded := by
  refine h.invariant (fun e => e.receiveView.Bounded) (create_bounded id l r) ?_
  intro e i e' hb _ hg hs
  refine (step_receiveView hs).bounded hb ?_
  intro p hp ha hsyn
  exact (hg p hp ha (.inl hsyn)).2.1 hsyn

private theorem lessThan_add_small {a : BitVec 32} {n : Nat} (hn : n ≤ 65535) :
    lessThan (a + BitVec.ofNat 32 n) a = false := by
  rw [← Bool.not_eq_true, lessThan_iff, BitVec.toNat_add, BitVec.toNat_ofNat]
  have := a.isLt
  omega

/-- Accepting a packet does not move `rcv_nxt` back. -/
theorem receive_rcvNxt_forward {v v' : ReceiveView} {p : TCPPacket} (hb : v.Bounded)
    (hctl : p.syn = true ∨ p.fin = true → lessThanOrEqual v.rcvNxt (p.sequenceNumber + 1) = true)
    (h : v.receive p = .ok v') : lessThan v'.rcvNxt v.rcvNxt = false := by
  unfold ReceiveView.receive at h
  split at h
  · rename_i hc
    cases h
    rcases lessThanOrEqual_iff.1 (hctl (by simpa using hc)) with h | h
    · exact lessThan_asymm h
    · exact h ▸ lessThan_self _
  · split at h
    · rename_i hp
      obtain ⟨l, hl⟩ := ReceiveView.data_ok hb.counted hp h
      rw [hl.rcvNxt]
      have ht := hb.total_le
      have hbal := hl.balance
      have hsize := hl.counted.nonneg
      unfold ReceiveView.total at ht
      exact lessThan_add_small (by omega)
    · cases h
      exact lessThan_self _

/-- Along every run whose steps meet `gateCondition`, a packet that fails the sequence check changes nothing on the
receiving side, and on a synchronized connection `rcv_nxt` never moves back. -/
theorem sequence_gate {id : SocketId} {l r : AddressPort} {is : List Input} {e e' : Endpoint} {i : Input}
    (hrun : machine.Run gateCondition (create id l r) is e) (hg : gateCondition e i) (hs : step i e = .ok e') :
    (∀ p ∈ e.delivered i, isValidSequenceNumber e.rc p = false → e'.receiveView = e.receiveView) ∧
      (e.cmc.state.canSendAck = true → lessThan e'.rc.rcvNxt e.rc.rcvNxt = false) := by
  have hb := run_bounded hrun
  have hcontent {v : ReceiveView} {p : TCPPacket} (hn : ¬p.hasContent)
      (h : e.receiveView.receive p = .ok v) : v = e.receiveView := by
    unfold TCPPacket.hasContent at hn
    unfold ReceiveView.receive at h
    rw [if_neg (by simp_all), if_neg (by simp_all)] at h
    cases h
    rfl
  have hstep := step_receiveView hs
  constructor
  · intro p hp hinvalid
    cases hstep with
    | same _ h => exact h
    | accept q hq ha h =>
      rw [Option.mem_def, hq, Option.some_inj] at hp
      subst hp
      by_cases hc : q.hasContent
      · rw [(hg q hq ha hc).1] at hinvalid
        cases hinvalid
      · exact hcontent hc h
    | read n hd => rw [hd] at hp; cases hp
    | moved hd => rw [hd] at hp; cases hp
  · intro hstate
    change lessThan e'.receiveView.rcvNxt e.receiveView.rcvNxt = false
    cases hstep with
    | same _ h => rw [h]; exact lessThan_self _
    | accept q hq ha h =>
      by_cases hc : q.hasContent
      · exact receive_rcvNxt_forward hb ((hg q hq ha hc).2.2 hstate) h
      · rw [hcontent hc h]
        exact lessThan_self _
    | read n _ _ h => rw [h]; exact lessThan_self _
    | moved _ _ h => rw [h]; exact lessThan_self _

/-- An old segment on a connection just opened. -/
theorem sequence_gate_old_segment : ∃ e e', machine.Run gateCondition client (connectScript 100) e ∧
    isValidSequenceNumber e.rc (segment 50 2 [1]) = false ∧ step (.packet (segment 50 2 [1])) e = .ok e' ∧
    e'.receiveView = e.receiveView := by
  have h : (machine.replay gateCondition (connectScript 100) client).any (fun e =>
      decide (gateCondition e (.packet (segment 50 2 [1]))) &&
      decide (segment 50 2 [1] ∈ e.delivered (.packet (segment 50 2 [1]))) &&
      !isValidSequenceNumber e.rc (segment 50 2 [1]) &&
      machine.leads (.packet (segment 50 2 [1])) e fun _ => true) = true := by decide +kernel
  obtain ⟨e, hrun, hq⟩ := Transition.Machine.exists_run h
  simp only [Bool.and_eq_true, decide_eq_true_eq, Bool.not_eq_true'] at hq
  obtain ⟨⟨⟨hg, hp⟩, hinvalid⟩, hl⟩ := hq
  obtain ⟨e', hs, -⟩ := Transition.Machine.leads_iff.1 hl
  exact ⟨e, e', hrun, hinvalid, hs, (sequence_gate hrun hg hs).1 _ hp hinvalid⟩

/-- A FIN with an ACK number below `snd_una` skips the sequence check and takes `rcv_nxt` back. -/
theorem sequence_gate_stale_fin : ∃ e e' p, machine.Run Transition.anyStep client (connectScript 100) e ∧
    e.cmc.state = .established ∧ enabled (.packet p) e ∧ p.validChecksum = true ∧
    isValidSequenceNumber e.rc p = false ∧ step (.packet p) e = .ok e' ∧
    lessThan e'.rc.rcvNxt e.rc.rcvNxt = true := by
  have h : (machine.replay Transition.anyStep (connectScript 100) client).any (fun e =>
      decide (e.cmc.state = .established) && decide (enabled (.packet { segment 50 1 [] with fin := true }) e) &&
      !isValidSequenceNumber e.rc { segment 50 1 [] with fin := true } &&
      machine.leads (.packet { segment 50 1 [] with fin := true }) e fun e' =>
        lessThan e'.rc.rcvNxt e.rc.rcvNxt) = true := by decide +kernel
  obtain ⟨e, hrun, hq⟩ := Transition.Machine.exists_run h
  simp only [Bool.and_eq_true, decide_eq_true_eq, Bool.not_eq_true'] at hq
  obtain ⟨⟨⟨hstate, hen⟩, hinvalid⟩, hl⟩ := hq
  obtain ⟨e', hs, hback⟩ := Transition.Machine.leads_iff.1 hl
  exact ⟨e, e', _, hrun, hstate, hen, rfl, hinvalid, hs, hback⟩

end Endpoint

end Wifu
