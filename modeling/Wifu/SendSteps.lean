import Wifu.SendFrame

/-!
# Steps of the sending side

What each handler that sends or acknowledges does to the mode of the sending side.
-/

namespace Wifu

namespace Endpoint

section

variable {e e' : Endpoint} {u n m c : Nat}

/-! ### Data segments -/

/-- What `send_one_packet` puts in the queue. -/
theorem sendOnePacket_ok {w : Bool} (h : e.sendOnePacket w = .ok e') :
    ∃ k : Nat, 0 < k ∧ (k : Int) ≤ e.numUnsent ∧ k ≤ maxDataLength ∧ 0 ≤ e.ccc.snd.numOutstanding.toInt ∧
      (w = false → (k : Int) ≤ e.ccc.maxAllowedToSend - e.ccc.snd.numOutstanding.toInt) ∧
      e' = { e with ccc := { e.ccc with
          snd := e.ccc.snd.setSndNxt (e.ccc.snd.sndNxt + BitVec.ofNat 32 k) } }.enqueue
        (.sendPacket (.new e.socket.localAddress e.socket.remoteAddress
          ((e.socket.sendBuffer.drop e.ccc.snd.numOutstanding.toInt.toNat).take k))) := by
  unfold sendOnePacket at h
  simp only at h
  obtain ⟨k, h₁, h⟩ := bind_eq_ok.1 h
  obtain ⟨_, -, h⟩ := bind_eq_ok.1 h
  obtain ⟨_, h₂, h⟩ := bind_eq_ok.1 h
  obtain ⟨_, -, h⟩ := bind_eq_ok.1 h
  cases h
  unfold getSendDataLength at h₁
  simp only at h₁
  obtain ⟨_, h₃, h₁⟩ := bind_eq_ok.1 h₁
  cases h₁
  have h₂ := of_decide_eq_true (check_eq_ok.1 h₂)
  have h₃ := of_decide_eq_true (check_eq_ok.1 h₃)
  generalize hk : (if w = true then min (min e.numUnsent ↑maxDataLength) ↑maxTcpReceiveWindowSize
    else min (min (min e.numUnsent ↑maxDataLength) ↑maxTcpReceiveWindowSize)
      (↑e.ccc.maxAllowedToSend - e.ccc.snd.numOutstanding.toInt)) = k at h₃ ⊢
  have hle : k ≤ e.numUnsent ∧ k ≤ maxDataLength ∧
      (w = false → k ≤ e.ccc.maxAllowedToSend - e.ccc.snd.numOutstanding.toInt) := by
    split at hk
    · refine ⟨by omega, by omega, ?_⟩
      simp_all
    · omega
  obtain ⟨j, rfl⟩ := Int.eq_ofNat_of_zero_le (Int.le_of_lt h₃)
  refine ⟨j, by omega, hle.1, by omega, h₂, hle.2.2, ?_⟩
  rw [BitVec.ofInt_natCast, Int.toNat_natCast]

theorem sendOnePacket_nothing {w : Bool} (hu : e.numUnsent ≤ 0) : e.sendOnePacket w ≠ .ok e' := by
  intro h
  obtain ⟨k, hk, hle, -⟩ := sendOnePacket_ok h
  omega

theorem length_buffer (hm : OpenMode e u n m c) : e.socket.sendBuffer.length = 1 + e.accepted.length - u := by
  rw [hm.buffer, List.length_drop, List.length_cons]
  omega

/-- The positions in a mode that sends lie close together. -/
theorem OpenMode.bounds (hb : e.SendBase) (hm : OpenMode e u n m c) :
    u ≤ n ∧ n ≤ c ∧ n ≤ m ∧ m ≤ 1 + e.accepted.length ∧ c ≤ 1 + e.accepted.length ∧
      1 + e.accepted.length ≤ u + tcpSocketMaxBufferSize := by
  have hlen := length_buffer hm
  have hle := hb.buffer_le
  obtain ⟨h₁, h₂, h₃, -⟩ := hm.order
  have h₄ := hm.pending.le
  have h₅ := hm.pending.le_length (by omega)
  exact ⟨h₁, h₄, h₂, h₃, h₅, by omega⟩

theorem OpenMode.numUnsent (hb : e.SendBase) (hm : OpenMode e u n m c) :
    e.ccc.snd.numOutstanding.toInt = (c - u : Nat) ∧ e.numUnsent = (1 + e.accepted.length - c : Nat) := by
  have hbound := hm.bounds hb
  have hout := hm.ccc.toInt_numOutstanding (by omega) (by unfold tcpSocketMaxBufferSize at hbound; omega)
  refine ⟨hout, ?_⟩
  unfold Endpoint.numUnsent
  rw [hout, length_buffer hm]
  omega

/-- A segment is added to the queue and the congestion control changes, but not its timer. -/
theorem SendBase.enqueuePacket (hb : e.SendBase) {ccc : TCPTahoeCongestionControlContext}
    (hccc : ccc.probeTimer = e.ccc.probeTimer) (p : TCPPacket) :
    ({ e with ccc := ccc }.enqueue (.sendPacket p)).SendBase := by
  refine ⟨hb.initialized, hb.deleted, hb.sent, hb.buffer_le, hb.timer,
    ⟨hb.timers.1, by simpa [enqueue, enqueueFor, hccc] using hb.timers.2,
      by simpa [enqueue, enqueueFor, hccc] using hb.timers.3⟩,
    hb.early, hb.saved, ?_, fun h => List.mem_append_left _ (hb.closed h)⟩
  intro v hv
  rcases List.mem_append.1 hv with hv | hv
  · exact hb.queue v hv
  · rw [List.mem_singleton.1 hv]
    exact ⟨.inl rfl, by simp⟩

/-- One more data segment takes up the next positions. -/
theorem OpenMode.sendOnePacket {w : Bool} (hb : e.SendBase) (hm : OpenMode e u n m c)
    (hsyn : ∀ p ∈ waiting e.queue, p.syn = false) (h : e.sendOnePacket w = .ok e') :
    e'.SendBase ∧ (∀ p ∈ waiting e'.queue, p.syn = false) ∧
      ∃ k, 0 < k ∧ OpenMode e' u n m (c + k) ∧
        (w = false → c + k ≤ u + e.ccc.maxAllowedToSend) := by
  obtain ⟨k, hk, hunsent, hmax, -, hwnd, rfl⟩ := sendOnePacket_ok h
  obtain ⟨hout, hun⟩ := hm.numUnsent hb
  have hbound := hm.bounds hb
  have hc := hm.order.2.2.2
  rw [hun] at hunsent
  rw [hout, Int.toNat_natCast]
  have hdrop : e.socket.sendBuffer.drop (c - u) = e.accepted.drop (c - 1) := by
    obtain ⟨j, rfl⟩ := Nat.exists_eq_add_of_le hc
    rw [hm.buffer, List.drop_drop, show u + (1 + j - u) = j + 1 by omega, List.drop_succ_cons,
      Nat.add_sub_cancel_left]
  rw [hdrop]
  have hlen : ((e.accepted.drop (c - 1)).take k).length = k := by
    rw [List.length_take, List.length_drop]
    omega
  have hdata := TCPPacket.new_data (s := e.socket.localAddress) (d := e.socket.remoteAddress) (hlen.trans_le hmax)
  have hdlen := TCPPacket.new_dataLengthBytes (s := e.socket.localAddress) (d := e.socket.remoteAddress)
    (hlen.trans_le hmax)
  have hp : (TCPPacket.new e.socket.localAddress e.socket.remoteAddress
      ((e.accepted.drop (c - 1)).take k)).IsData := ⟨rfl, rfl, by rw [hdlen, hlen]; omega⟩
  have hwait (q : ProtocolEvent) (p : TCPPacket) (hq : q.kind = .sendPacket p) : waiting [q] = [p] := by
    simp [waiting, ProtocolEvent.packet, hq]
  refine ⟨hb.enqueuePacket (by rfl) _, ?_, k, hk, ⟨hm.rc, ?_, ?_, hm.buffer, ?_, ?_, ?_, hm.state, hm.finSent⟩, ?_⟩
  · intro p hp'
    simp only [enqueue, enqueueFor, waiting_append, List.mem_append] at hp'
    rcases hp' with hp' | hp'
    · exact hsyn p hp'
    · rw [hwait _ _ rfl, List.mem_singleton] at hp'
      rw [hp']
      rfl
  · have hnxt : e.ccc.snd.sndNxt + BitVec.ofNat 32 k = seqAt (c + k) := by
      rw [hm.ccc.sndNxt, seqAt_add]
    have hmax : k ≤ 1448 := hmax
    have := hm.ccc.setSndNxt (k := c + k) (by omega) (by unfold tcpSocketMaxBufferSize at hbound; omega)
    rw [Nat.max_assoc, Nat.max_eq_right (Nat.le_add_right c k)] at this
    simp only [enqueue, enqueueFor]
    rw [hnxt]
    exact this
  · exact ⟨hm.order.1, hm.order.2.1, hm.order.2.2.1, by omega⟩
  · simp only [enqueue, enqueueFor, waiting_append]
    rw [hwait _ _ rfl]
    have hpre : (TCPPacket.new e.socket.localAddress e.socket.remoteAddress
        ((e.accepted.drop (c - 1)).take k)).data <+: e.accepted.drop (c - 1) := by
      rw [hdata]
      exact List.take_prefix _ _
    have happ := hm.pending.append_data hsyn (k := c - 1) (by omega) hp hpre
    rw [hdata, hlen] at happ
    exact happ
  · simp only [enqueue, enqueueFor]
    rw [resends_append, hm.resends]
    rfl
  · rintro ⟨p, hp', hs⟩
    exfalso
    simp only [enqueue, enqueueFor, waiting_append, List.mem_append] at hp'
    rcases hp' with hp' | hp'
    · rw [hsyn p hp'] at hs
      cases hs
    · rw [hwait _ _ rfl, List.mem_singleton] at hp'
      rw [hp'] at hs
      cases hs
  · intro hw
    have := hwnd hw
    omega

theorem OpenMode.sendPackets (hb : e.SendBase) (hm : OpenMode e u n m c)
    (hsyn : ∀ p ∈ waiting e.queue, p.syn = false) (h : e.sendPackets = .ok e') :
    e'.SendBase ∧ ∃ c', OpenMode e' u n m c' := by
  have hloop := sendPackets_invariant
    (fun f => f.SendBase ∧ (∀ p ∈ waiting f.queue, p.syn = false) ∧ ∃ c', OpenMode f u n m c') h ⟨hb, hsyn, c, hm⟩ ?_
  · exact ⟨hloop.1, hloop.2.2⟩
  · rintro f f' ⟨hb, hsyn, c, hm⟩ _ hone
    obtain ⟨hb₁, hsyn₁, k, -, hm₁, -⟩ := hm.sendOnePacket hb hsyn hone
    exact ⟨hb₁, hsyn₁, c + k, hm₁⟩

theorem sendPackets_nothing (hu : e.numUnsent ≤ 0) : e.sendPackets = .ok e := by
  have hroom : e.roomToSend = false := by
    unfold roomToSend
    rw [Bool.and_eq_false_iff]
    exact .inl (decide_eq_false (by omega))
  unfold Endpoint.sendPackets
  cases e.socket.sendBuffer.length with
  | zero => rfl
  | succ fuel => simp [sendPacketsLoop, hroom]

theorem FinWaitingMode.numUnsent (hm : FinWaitingMode e) : e.numUnsent = 0 := by
  unfold Endpoint.numUnsent
  rw [hm.buffer, hm.ccc.toInt_numOutstanding (Nat.le_refl _) (by omega)]
  simp

theorem FinSentMode.numUnsent {strict : Prop} {k : Nat} (hm : FinSentMode strict e u n c k) : e.numUnsent ≤ 0 := by
  have ho := hm.order
  unfold Endpoint.numUnsent
  rcases hm.buffer with ⟨hu, hbuf⟩ | ⟨hu, hbuf⟩
  · rw [hbuf, hm.ccc.toInt_numOutstanding (by omega) (by omega), List.length_singleton]
    omega
  · rw [hbuf, hm.ccc.toInt_numOutstanding (by omega) (by omega), List.length_nil]
    omega

/-! ### Bytes accepted from the application -/

theorem accepted_saveInBuffer (e : Endpoint) (s : SendEvent) (n : Nat) :
    (e.saveInBuffer s n).accepted = e.accepted ++ s.data.take (min n s.data.length) := by
  simp [Endpoint.accepted, saveInBuffer, enqueue, enqueueFor, Endpoint.dispatch, acceptedBytes,
    FrameworkEvent.accepted]

theorem OpenMode.saveInBuffer (hb : e.SendBase) (hm : OpenMode e u n m c)
    (hsyn : ∀ p ∈ waiting e.queue, p.syn = false) (hearly : e.cmc.state.isEarly = false) (s : SendEvent) {k : Nat}
    (hk : k = tcpSocketMaxBufferSize - e.socket.sendBuffer.length) :
    (e.saveInBuffer s k).SendBase ∧ OpenMode (e.saveInBuffer s k) u n m c := by
  have hacc := accepted_saveInBuffer e s k
  have hsent : sentPackets (e.saveInBuffer s k).dispatched = sentPackets e.dispatched := by
    simp [Endpoint.saveInBuffer, enqueue, enqueueFor, Endpoint.dispatch, sentPackets, FrameworkEvent.sent]
  have hfin (p : TCPPacket) (hp : p ∈ sentPackets e.dispatched) : p.fin = false := by
    have h := hm.finSent
    unfold Wifu.finSent at h
    rw [List.any_eq_false] at h
    simpa using h p hp
  have hbuf : (e.saveInBuffer s k).socket.sendBuffer =
      e.socket.sendBuffer ++ s.data.take (min k s.data.length) := rfl
  have hqueue : (e.saveInBuffer s k).queue = e.queue ++ [⟨e.socket.id, .sendBufferNotEmpty⟩] := rfl
  have hu : u ≤ (synByte :: e.accepted).length := by
    have := hm.bounds hb
    rw [List.length_cons]
    omega
  constructor
  · refine ⟨hb.initialized, hb.deleted, ?_, ?_, ?_, ⟨hb.timers.1, hb.timers.2, hb.timers.3⟩, ?_, hb.saved, ?_,
      fun h => List.mem_append_left _ (hb.closed h)⟩
    · rw [hsent, hacc]
      exact fun p hp => (hb.sent p hp).append (hfin p hp) _
    · rw [hbuf, List.length_append, List.length_take]
      have := hb.buffer_le
      omega
    · rw [hbuf]
      intro ht
      have := hb.timer ht
      simp [this]
    · intro he
      change e.cmc.state.isEarly = true at he
      rw [hearly] at he
      cases he
    · rw [hqueue]
      intro v hv
      rcases List.mem_append.1 hv with hv | hv
      · exact hb.queue v hv
      · rw [List.mem_singleton.1 hv]
        exact ⟨.inl rfl, by simp⟩
  · refine ⟨hm.rc, hm.ccc, ?_, ?_, ?_, ?_, ?_, hm.state, ?_⟩
    · obtain ⟨h₁, h₂, h₃, h₄⟩ := hm.order
      rw [hacc, List.length_append]
      exact ⟨h₁, h₂, by omega, h₄⟩
    · rw [hbuf, hacc, hm.buffer, ← List.cons_append, List.drop_append_of_le_length hu]
    · rw [hacc, hqueue, waiting_append]
      exact (hm.pending.mono _).append_empty (by simp [waiting, ProtocolEvent.packet])
    · rw [hqueue, resends_append, hm.resends]
      rfl
    · rw [hqueue, waiting_append]
      rintro ⟨p, hp, hs⟩
      have hp : p ∈ waiting e.queue := by simpa [waiting, ProtocolEvent.packet] using hp
      rw [hsyn p hp] at hs
      cases hs
    · unfold Wifu.finSent
      rw [hsent]
      exact hm.finSent

/-! ### Closing -/

/-- Closing in a state that sends the FIN. -/
theorem managerClose_eq (hbuf : e.socket.sendBuffer = []) :
    (∃ s, (s = .finWait1 ∧ e.cmc.state = .established ∨ s = .lastAck ∧ e.cmc.state = .closeWait) ∧ e.managerClose = { e with
        cmc := { e.cmc with state := s }
        queue := e.queue ++ [⟨e.socket.id, .sendPacket e.finPacket⟩] }) ∨
      e.cmc.state = .listen ∨ e.managerClose = e := by
  cases h : e.cmc.state with
  | established =>
    refine .inl ⟨.finWait1, .inl ⟨rfl, rfl⟩, ?_⟩
    simp [managerClose, h, hbuf, setState, stateExit, stateEnter, enqueue, enqueueFor]
  | closeWait =>
    refine .inl ⟨.lastAck, .inr ⟨rfl, rfl⟩, ?_⟩
    simp [managerClose, h, setState, stateExit, stateEnter, enqueue, enqueueFor]
  | listen => exact .inr (.inl rfl)
  | _ =>
    refine .inr (.inr ?_)
    simp [managerClose, h]

/-- Once everything has been acknowledged the FIN is put in the queue. -/
theorem managerClose_mode {strict : Prop} (hb : e.SendBase) (hm : SendMode strict e)
    (hbuf : e.socket.sendBuffer = []) (hs : e.savedSendEvent = none) :
    e.managerClose.SendBase ∧ SendMode strict e.managerClose := by
  have hclosing (h : e.cmc.state.isClosing = true) : e.managerClose = e := by
    unfold managerClose
    split
    · simp_all [ConnectionManagerState.isClosing]
    · simp_all [ConnectionManagerState.isClosing]
    · simp_all [ConnectionManagerState.isClosing]
    · rfl
  cases hm with
  | finWaiting hm =>
    rw [hclosing hm.state]
    exact ⟨hb, .finWaiting hm⟩
  | finSent u n c k hm =>
    rw [hclosing hm.state]
    exact ⟨hb, .finSent u n c k hm⟩
  | resending u m c hm =>
    have hlen := congrArg List.length hm.buffer
    rw [hbuf, List.length_drop, List.length_cons, List.length_nil] at hlen
    have := hm.order
    omega
  | sending u n m c hm =>
    have hlen := length_buffer hm
    have hbound := hm.bounds hb
    rw [hbuf, List.length_nil] at hlen
    obtain ⟨hu, hn, hmm, hc⟩ : u = 1 + e.accepted.length ∧ n = 1 + e.accepted.length ∧
        m = 1 + e.accepted.length ∧ c = 1 + e.accepted.length := by omega
    have hccc := hm.ccc
    rw [hu, hn, hmm, hc] at hm
    rw [hu, hmm, hc, Nat.max_self] at hccc
    rcases managerClose_eq hbuf with ⟨s, hstate, heq⟩ | hlisten | heq
    · rw [heq]
      constructor
      · refine ⟨hb.initialized, hb.deleted, hb.sent, hb.buffer_le, hb.timer,
          ⟨hb.timers.1, hb.timers.2, hb.timers.3⟩, ?_, ?_, ?_, ?_⟩
        · rcases hstate with ⟨rfl, -⟩ | ⟨rfl, -⟩ <;> simp [ConnectionManagerState.isEarly]
        · rcases hstate with ⟨rfl, -⟩ | ⟨rfl, -⟩ <;> simp [ConnectionManagerState.isEarly]
        · intro v hv
          rcases List.mem_append.1 hv with hv | hv
          · exact hb.queue v hv
          · rw [List.mem_singleton.1 hv]
            exact ⟨.inl rfl, by simp⟩
        · rcases hstate with ⟨rfl, -⟩ | ⟨rfl, -⟩ <;> simp
      · refine .finWaiting ⟨hm.rc, hccc, hbuf, hs, ?_, ?_, ?_, hm.finSent⟩
        · refine ⟨waiting e.queue, e.finPacket, [], ?_, ⟨rfl, rfl⟩, hm.pending.all_empty, by simp⟩
          simp [waiting, ProtocolEvent.packet]
        · rw [resends_append, hm.resends]
          rfl
        · rcases hstate with ⟨rfl, -⟩ | ⟨rfl, -⟩ <;> rfl
    · have := hm.state
      rw [hlisten] at this
      cases this
    · rw [heq]
      exact ⟨hb, .sending _ _ _ _ hm⟩

end

end Endpoint

end Wifu
