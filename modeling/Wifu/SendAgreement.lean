import Wifu.SendRun

/-!
# The two sending contexts agree

Whenever nothing waits in the queue, both sending contexts have the same `snd_una` and `snd_nxt`, no more is outstanding
than the send buffer holds, and every segment sent so far carries the part of the stream that its number says.
-/

namespace Wifu

namespace Endpoint

variable {e : Endpoint}

/-- The two contexts hold the same numbers, and what is outstanding is in the send buffer. -/
structure ContextsAgree (e : Endpoint) : Prop where
  sndUna : e.ccc.snd.sndUna = e.rc.snd.sndUna
  sndNxt : e.ccc.snd.sndNxt = e.rc.snd.sndNxt
  outstanding : e.rc.snd.numOutstanding.toNat ≤ e.socket.sendBuffer.length

theorem SendMode.contextsAgree (hb : e.SendBase) (hm : SendMode True e) (hq : e.queue = []) : e.ContextsAgree := by
  obtain ⟨u, n, m, c, k, hi⟩ := hm.idle hb hq
  have ho := hi.order
  have hout := hi.rc.toNat_numOutstanding (by omega) (by omega)
  have hle := hi.outstanding
  refine ⟨hi.ccc.sndUna.trans hi.rc.sndUna.symm, ?_, by omega⟩
  rcases hm.cases_idle hq with ⟨u, n, m, hm⟩ | ⟨u, c, k, hm⟩
  · exact hm.ccc.sndNxt.trans hm.rc.sndNxt.symm
  · rw [hm.ccc.sndNxt, hm.rc.sndNxt, (hm.once trivial).1]

theorem PreSyn.contextsAgree (hp : e.PreSyn) : e.ContextsAgree := by
  refine ⟨?_, ?_, ?_⟩
  · rw [hp.cccSnd, hp.rcSnd]
  · rw [hp.cccSnd, hp.rcSnd]
  · rw [hp.rcSnd]
    exact Nat.zero_le _

/-- Along every run that meets `sendCondition`, in which no FIN is sent again, the contexts agree whenever nothing waits
in the queue, and every segment sent has the number of what it carries. -/
theorem contexts_agree {id : SocketId} {l r : AddressPort} {is : List Input}
    (hrun : machine.Run (sendCondition True) (create id l r) is e) :
    (e.queue = [] → e.deleted = false → e.ContextsAgree) ∧
      ∀ p ∈ sentPackets e.dispatched, SentOk e.accepted p := by
  cases run_sendInv (fun _ _ h => h) hrun with
  | deleted hd hs =>
    refine ⟨fun _ hd' => ?_, hs⟩
    rw [hd] at hd'
    cases hd'
  | preSyn hp _ _ => exact ⟨fun _ _ => hp.contextsAgree, fun p hs => .of_isEmpty (hp.sent p hs)⟩
  | sent hb hm => exact ⟨fun hq _ => hm.contextsAgree hb hq, hb.sent⟩

/-- The client sends three bytes, and sends them again when its timer fires. -/
def resendScript : List Input :=
  connectScript 100 ++ [.send ⟨2, [1, 2, 3]⟩, .drain, .drain, .timerFired ⟨2, 1⟩, .drain, .drain]

/-- Three bytes sent twice, both times with the number of the first. -/
theorem contexts_agree_resend : ∃ e, machine.Run (sendCondition True) client resendScript e ∧ e.queue = [] ∧
    e.accepted = [1, 2, 3] ∧ ((sentPackets e.dispatched).map TCPPacket.data).count [1, 2, 3] = 2 ∧ e.ContextsAgree ∧
    ∀ p ∈ sentPackets e.dispatched, SentOk e.accepted p := by
  have h : (machine.replay (sendCondition True) resendScript client).any (fun e =>
      decide (e.queue = []) && !e.deleted && decide (e.accepted = [1, 2, 3]) &&
      decide (((sentPackets e.dispatched).map TCPPacket.data).count [1, 2, 3] = 2)) = true := by decide +kernel
  obtain ⟨e, hrun, hq⟩ := Transition.Machine.exists_run h
  simp only [Bool.and_eq_true, decide_eq_true_eq, Bool.not_eq_true'] at hq
  obtain ⟨⟨⟨hqueue, hdel⟩, hacc⟩, hsent⟩ := hq
  exact ⟨e, hrun, hqueue, hacc, hsent, (contexts_agree hrun).1 hqueue hdel, (contexts_agree hrun).2⟩

/-- The client closes, and its FIN is sent again: the congestion control counts the FIN twice. -/
theorem contexts_agree_fin_twice : ∃ e,
    machine.Run Transition.anyStep client
      (connectScript 100 ++ [.close ⟨2⟩, .drain, .timerFired ⟨2, 1⟩, .drain, .drain]) e ∧
    e.queue = [] ∧ e.deleted = false ∧ e.rc.snd.sndNxt = 3 ∧ e.ccc.snd.sndNxt = 4 := by
  have h : (machine.replay Transition.anyStep
      (connectScript 100 ++ [.close ⟨2⟩, .drain, .timerFired ⟨2, 1⟩, .drain, .drain]) client).any (fun e =>
      decide (e.queue = []) && !e.deleted && decide (e.rc.snd.sndNxt = 3) && decide (e.ccc.snd.sndNxt = 4)) = true := by
    decide +kernel
  obtain ⟨e, hrun, hq⟩ := Transition.Machine.exists_run h
  simp only [Bool.and_eq_true, decide_eq_true_eq, Bool.not_eq_true'] at hq
  exact ⟨e, hrun, hq.1.1.1, hq.1.1.2, hq.1.2, hq.2⟩

end Endpoint

end Wifu
