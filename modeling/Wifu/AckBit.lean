import Wifu.QueuedPackets
import Wifu.WindowEdge

/-!
# The ACK bit before the peer's SYN

A packet that waits in the queue has the ACK bit only when it answers a SYN.  All others get it when they leave, once
`rcv_nxt` is not 0.  So an endpoint that has not processed a SYN sends no ACK.
-/

namespace Wifu

namespace Endpoint

section

variable {e e' : Endpoint} {i : Input} {p q : TCPPacket}

/-- Where no SYN is accepted, no packet with the ACK bit joins the queue. -/
theorem step_addsUnacked (hstep : step i e = .ok e') (hsyn : ∀ p ∈ e.delivered i, e.accepts p = true → p.syn = false) :
    Adds (fun p => p.ack = false) e e' := by
  refine Adds.step (fun _ _ _ _ _ => rfl) hstep fun p hp ha hs => ?_
  rw [hsyn p hp ha] at hs
  cases hs

/-- A packet leaves with its own ACK bit, or with the one that it gets when `rcv_nxt` is not 0. -/
theorem sendPacket_ack (h : e.sendPacket p = .ok e')
    (hs : sentPackets e'.dispatched = sentPackets e.dispatched ++ [q]) : q.ack = (p.ack || e.rc.rcvNxt != 0) := by
  unfold sendPacket at h
  obtain ⟨⟨q', e₁⟩, h₁, h⟩ := bind_eq_ok.1 h
  cases h
  have hlog : sentPackets ((e₁.congestionSendPacket q').dispatch (.networkSendPacket q')).dispatched =
      sentPackets e.dispatched ++ [q'] := by
    rw [← sentPackets_congr (AckChange.sendPacket h₁).transfers]
    exact sentPackets_append
  have hq : q = q' := by
    rw [hs] at hlog
    exact List.singleton_inj.1 (List.append_inj' hlog rfl).2
  subst hq
  unfold reliabilitySendPacket at h₁
  simp only at h₁
  obtain ⟨b, -, h₁⟩ := bind_eq_ok.1 h₁
  obtain ⟨q', h₂, h₁⟩ := bind_eq_ok.1 h₁
  cases h₁
  have hnumbered : (setSequenceNumber e.rc p).1.ack = p.ack ∧ (setSequenceNumber e.rc p).2.rcvNxt = e.rc.rcvNxt := by
    unfold setSequenceNumber
    split <;> exact ⟨rfl, rfl⟩
  have hack : q'.ack = ((setSequenceNumber e.rc p).1.ack || (setSequenceNumber e.rc p).2.rcvNxt != 0) := by
    unfold insertTimestamp at h₂
    split at h₂
    · cases h₂
    · cases h₂
      rfl
  rw [hnumbered.1, hnumbered.2] at hack
  exact hack

/-- While `rcv_nxt` is 0 and no packet with the ACK bit waits, no ACK is sent. -/
theorem step_unacked (hqueue : ∀ v ∈ e.queue, ∀ p ∈ v.packet, p.ack = false) (hrcv : e.rc.rcvNxt = 0)
    (hstep : step i e = .ok e') : ∀ q ∈ sentPackets e'.dispatched, q ∈ sentPackets e.dispatched ∨ q.ack = false := by
  intro q hq
  cases step_sendStep hstep with
  | same _ hs | acked _ _ _ _ _ _ _ hs | rewound _ _ _ _ hs =>
    rw [hs] at hq
    exact .inl hq
  | @sent p q' vs hi hdel hv hsends =>
    subst hi
    rw [hsends.sent] at hq
    refine (List.mem_append.1 hq).imp_right fun hq => ?_
    rw [List.mem_singleton.1 hq]
    have hp : p.ack = false := hqueue _ (by rw [hv]; exact List.mem_cons_self) p rfl
    cases step_ok hstep with
    | packet hd _ _ _ => cases hd
    | dropped hd h =>
      cases h
      have := hsends.sent
      simp at this
    | skipped hv' hc h =>
      rw [hv] at hv'
      cases hv'
      simp [contains, hdel] at hc
    | event hv' _ _ h =>
      rw [hv] at hv'
      cases hv'
      have hack := sendPacket_ack h.symm hsends.sent
      rw [hp, show ({ e with queue := vs } : Endpoint).rc.rcvNxt = 0 from hrcv] at hack
      exact hack

end

end Endpoint

end Wifu
