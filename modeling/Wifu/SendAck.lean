import Wifu.SendDrain

/-!
# Acknowledgements and the invariant of the sending side

A packet is received while nothing waits in the queue.  An acceptable ACK number moves both sending contexts, first
that of the reliability state and then that of the congestion control; in between the endpoint is looked at as if the
second had moved already (`acknowledged`).
-/

namespace Wifu

namespace Endpoint

/-- The endpoint with the ACK number of a packet acknowledged by the congestion control. -/
def acknowledged (e : Endpoint) (p : TCPPacket) : Endpoint :=
  { e with ccc := { e.ccc with snd := e.ccc.snd.acknowledge p.ackNumber } }

section

variable {strict : Prop} {e e' e'' : Endpoint} {p : TCPPacket} {u n m c : Nat}

/-! ### Frames -/

theorem TimersOk.congr (h : e.TimersOk) (hrc : e'.rc.timeoutEvent = e.rc.timeoutEvent)
    (hccc : e'.ccc.probeTimer = e.ccc.probeTimer) (hn : e'.nextTimer = e.nextTimer) : e'.TimersOk := by
  refine ⟨?_, ?_, ?_⟩
  · rw [hrc, hn]
    exact h.timeoutEvent
  · rw [hccc, hn]
    exact h.probeTimer
  · rw [hrc, hccc]
    exact h.differ

namespace SendFrame

/-- A step that sends nothing does so whatever the congestion control has acknowledged. -/
theorem acknowledged (h : SendFrame e e') (p : TCPPacket) : SendFrame (e.acknowledged p) (e'.acknowledged p) :=
  { h with
    cccSnd := by simp [Endpoint.acknowledged, h.cccSnd]
    timers := fun ht => (h.timers (ht.congr rfl rfl rfl)).congr rfl rfl rfl
    queue := h.queue
    dispatched := h.dispatched }

/-- The congestion control changes, but neither its send variables nor its timer. -/
theorem withCongestion (e : Endpoint) {ccc : TCPTahoeCongestionControlContext} (hsnd : ccc.snd = e.ccc.snd)
    (hprobe : ccc.probeTimer = e.ccc.probeTimer) : SendFrame e { e with ccc := ccc } :=
  { refl e with
    cccSnd := hsnd
    timers := fun ht => ht.congr rfl hprobe rfl
    queue := ⟨[], by simp, by simp, .inl⟩
    dispatched := ⟨[], by simp, by simp⟩ }

theorem clearTimer (e : Endpoint) : SendFrame e { e with rc := { e.rc with timeoutEvent := none } } :=
  { refl e with
    timer := by simp
    timers := fun h => ⟨by simp, h.2, by simp⟩
    queue := ⟨[], by simp, by simp, .inl⟩
    dispatched := ⟨[], by simp, by simp⟩ }

theorem waiting_empty (h : SendFrame e e') (he : ∀ r ∈ waiting e.queue, r.IsEmpty) :
    ∀ r ∈ waiting e'.queue, r.IsEmpty := by
  obtain ⟨q, hq, hh, -⟩ := h.queue
  intro r hr
  rw [hq, waiting_append, List.mem_append] at hr
  exact hr.elim (he r) (waiting_harmless hh r)

theorem resends (h : SendFrame e e') : Wifu.resends e'.queue = Wifu.resends e.queue := by
  obtain ⟨q, hq, hh, -⟩ := h.queue
  rw [hq, resends_append, resends_harmless hh, Nat.add_zero]

end SendFrame

/-! ### Nothing waits -/

/-- The send variables while nothing waits in the queue. -/
structure IdleAt (e : Endpoint) (u n m c k : Nat) : Prop where
  rc : SndAt e.rc.snd u n m
  ccc : SndAt e.ccc.snd u c k
  order : u ≤ n ∧ n ≤ m ∧ m ≤ k ∧ n ≤ c ∧ c ≤ k ∧ k ≤ u + 131072
  outstanding : n ≤ u + e.socket.sendBuffer.length

/-- While nothing waits the endpoint is sending, or its FIN has been sent. -/
theorem SendMode.cases_idle (hm : SendMode strict e) (hq : e.queue = []) :
    (∃ u n m, OpenMode e u n m n) ∨ ∃ u c k, FinSentMode strict e u (2 + e.accepted.length) c k := by
  have hfin (h : OneFin (waiting e.queue)) : False := by
    obtain ⟨as, r, bs, h, -⟩ := h
    rw [hq] at h
    cases as <;> cases h
  have hres (h : resends e.queue = 1) : False := by
    rw [hq] at h
    cases h
  cases hm with
  | sending u n m c hm =>
    have hpending := hm.pending
    rw [hq] at hpending
    cases hpending
    exact .inl ⟨u, n, m, hm⟩
  | resending u m c hm => exact (hres hm.resends).elim
  | finWaiting hm => exact (hfin hm.fin).elim
  | finSent u n c k hm =>
    rcases hm.queue with ⟨-, -, hn⟩ | ⟨hr, -⟩ | ⟨-, hf, -⟩
    · subst hn
      exact .inr ⟨u, c, k, hm⟩
    · exact (hres hr).elim
    · exact (hfin hf).elim

theorem SendMode.idle (hb : e.SendBase) (hm : SendMode strict e) (hq : e.queue = []) :
    ∃ u n m c k, IdleAt e u n m c k := by
  rcases hm.cases_idle hq with ⟨u, n, m, hm⟩ | ⟨u, c, k, hm⟩
  · have hbound := hm.bounds hb
    unfold tcpSocketMaxBufferSize at hbound
    refine ⟨u, n, m, n, max m n, hm.rc, hm.ccc, by omega, ?_⟩
    rw [length_buffer hm]
    omega
  · have ho := hm.order
    rcases hm.buffer with ⟨hu, hbuf⟩ | ⟨hu, hbuf⟩
    · exact ⟨u, _, _, c, k, hm.rc, hm.ccc, by omega, by rw [hbuf, List.length_singleton]; omega⟩
    · exact ⟨u, _, _, c, k, hm.rc, hm.ccc, by omega, by omega⟩

/-! ### Retransmissions requested -/

/-- A retransmission is requested while something is outstanding. -/
theorem requestResend_mode (hb : e.SendBase) (hm : SendMode strict e) (hq : e.queue = [])
    (hne : e.socket.sendBuffer ≠ []) (r : ResendReason) :
    (e.requestResend r).SendBase ∧ SendMode strict (e.requestResend r) := by
  have hqueue : (e.requestResend r).queue = [⟨e.socket.id, .resendPacket r⟩] := by
    simp [requestResend, enqueue, enqueueFor, hq]
  have hacc : (e.requestResend r).accepted = e.accepted := rfl
  constructor
  · refine ⟨hb.initialized, hb.deleted, hb.sent, hb.buffer_le, hb.timer, hb.timers.congr rfl rfl rfl, hb.early, hb.saved,
      ?_, ?_⟩
    · rw [hqueue]
      intro v hv
      rw [List.mem_singleton.1 hv]
      exact ⟨.inl rfl, by simp⟩
    · intro h
      have := hb.closed h
      rw [hq] at this
      cases this
  · have hempty : ∀ q ∈ waiting (e.requestResend r).queue, q.IsEmpty := by
      rw [hqueue]
      simp [waiting, ProtocolEvent.packet]
    have hresends : resends (e.requestResend r).queue = 1 := by
      rw [hqueue]
      rfl
    have hlen := List.length_pos_iff.2 hne
    rcases hm.cases_idle hq with ⟨u, n, m, hm⟩ | ⟨u, c, k, hm⟩
    · have hbound := hm.bounds hb
      unfold tcpSocketMaxBufferSize at hbound
      rw [length_buffer hm] at hlen
      refine .resending u m n ⟨?_, ?_, ?_, hm.buffer, hempty, hresends, ?_, hm.state, hm.finSent⟩
      · have h := hm.rc.setSndNxt (k := u) (by omega) (by omega)
        rw [← hm.rc.sndUna, Nat.max_eq_left (by omega)] at h
        exact h
      · have h := hm.ccc
        rw [Nat.max_eq_left (by omega)] at h
        exact h
      · rw [hacc]
        omega
      · rw [hqueue]
        intro v hv
        rw [List.mem_singleton.1 hv]
        rfl
    · have hu : u = 1 + e.accepted.length := by
        rcases hm.buffer with ⟨hu, -⟩ | ⟨-, hbuf⟩
        · exact hu
        · exact absurd hbuf hne
      refine .finSent u u c k ⟨?_, hm.ccc, hm.buffer, hm.order, hm.once, hm.savedSendEvent,
        .inr (.inl ⟨hresends, hempty, rfl, hu⟩), hm.state, hm.finSent⟩
      have h := hm.rc.setSndNxt (k := u) (by omega) (by omega)
      rw [← hm.rc.sndUna, Nat.max_eq_left (by omega)] at h
      exact h

/-- A duplicate ACK is counted, and the third one requests a retransmission. -/
theorem handleDuplicateAck_mode (hb : e.SendBase) (hm : SendMode strict e) (hq : e.queue = []) (hack : p.ack = true)
    (hdup : betweenEqualLeft p.ackNumber e.rc.snd.sndUna e.rc.snd.sndNxt = true) :
    (e.handleDuplicateAck p).SendBase ∧ SendMode strict (e.handleDuplicateAck p) ∧
      (isDuplicateAck e.rc p = false → SendFrame e (e.handleDuplicateAck p)) := by
  have hcount : SendFrame e { e with rc := countDuplicateAck e.rc p } := by
    unfold countDuplicateAck
    split <;> exact .of_same ⟨rfl, rfl, rfl, rfl, rfl, rfl, rfl, rfl, rfl, rfl, rfl, rfl⟩
  have hb' := hcount.base hb
  have hm' := hcount.mode hm
  have hne : e.socket.sendBuffer ≠ [] := by
    obtain ⟨u, n, m, c, k, hi⟩ := hm.idle hb hq
    have ho := hi.order
    have hlt := hi.rc.lt_of_betweenEqualLeft (by omega) (by omega) hdup
    have hout := hi.outstanding
    rw [← List.length_pos_iff]
    omega
  unfold handleDuplicateAck
  simp only
  split
  · rename_i h3
    obtain ⟨hb'', hm''⟩ := requestResend_mode hb' hm' hq hne .threeDuplicateAcks
    refine ⟨hb'', hm'', fun hd => ?_⟩
    unfold countDuplicateAck at h3
    split at h3
    · rename_i heq
      simp only at h3
      have : isDuplicateAck e.rc p = true := by
        unfold isDuplicateAck
        simp [hack, heq, hdup]
        omega
      rw [this] at hd
      cases hd
    · cases h3
  · exact ⟨hb', hm', fun _ => hcount⟩

/-! ### Acceptable ACK numbers -/

/-- The reliability state after an acceptable ACK number, its timer stopped. -/
def ackedReliability (e : Endpoint) (p : TCPPacket) : Endpoint :=
  { e with
    rc := { e.rc with snd := e.rc.snd.acknowledge p.ackNumber, timeoutEvent := none }
    socket := { e.socket with sendBuffer := e.socket.sendBuffer.drop (p.ackNumber - e.rc.snd.sndUna).toNat }
    queue := [⟨e.socket.id, .sendBufferNotFull⟩] }

theorem ackedReliability_base (hb : e.SendBase) (hq : e.queue = []) :
    ((e.ackedReliability p).acknowledged p).SendBase := by
  refine ⟨hb.initialized, hb.deleted, hb.sent, ?_, by simp [acknowledged, ackedReliability],
    ⟨by simp [acknowledged, ackedReliability], hb.timers.2, by simp [acknowledged, ackedReliability]⟩, hb.early,
    hb.saved, ?_, ?_⟩
  · have := hb.buffer_le
    simp only [acknowledged, ackedReliability, List.length_drop]
    omega
  · intro v hv
    rw [List.mem_singleton.1 hv]
    exact ⟨.inl rfl, by simp⟩
  · intro h
    have := hb.closed h
    rw [hq] at this
    cases this

/-- The number acknowledged is a position of the stream; what lies before it leaves the send buffer. -/
theorem length_acked {a : Nat} (h : SndAt e.rc.snd u n m) (ha : p.ackNumber = seqAt a) (hua : u ≤ a)
    (hlt : a < u + 4294967296) : (p.ackNumber - e.rc.snd.sndUna).toNat = a - u := by
  rw [ha, h.sndUna]
  exact dist_seqAt hua hlt

theorem OpenMode.ackedReliability (hb : e.SendBase) (hm : OpenMode e u n m n)
    (hr : betweenEqualRight e.rc.snd.sndUna p.ackNumber e.rc.snd.sndMax = true) :
    ∃ u' n', OpenMode ((e.ackedReliability p).acknowledged p) u' n' m n' := by
  have hbound := hm.bounds hb
  unfold tcpSocketMaxBufferSize at hbound
  have hccc := hm.ccc
  rw [Nat.max_eq_left (by omega)] at hccc
  obtain ⟨a, ha, hua, ham⟩ := hm.rc.betweenEqualRight (by omega) (by omega) hr
  have hlen := length_acked hm.rc ha (by omega) (by omega)
  have hrc' := hm.rc.acknowledge (a := a) ham (by omega) (by omega) (by omega)
  have hccc' := hccc.acknowledge (a := a) ham (by omega) (by omega) (by omega)
  rw [← ha] at hrc' hccc'
  refine ⟨a, max n a, hrc', ?_, ?_, ?_, .nil, rfl, ?_, hm.state, hm.finSent⟩
  · rw [Nat.max_eq_left (show max n a ≤ m by omega)]
    exact hccc'
  · change a ≤ max n a ∧ max n a ≤ m ∧ m ≤ 1 + e.accepted.length ∧ 1 ≤ max n a
    omega
  · change e.socket.sendBuffer.drop (p.ackNumber - e.rc.snd.sndUna).toNat = (synByte :: e.accepted).drop a
    rw [hlen, hm.buffer, List.drop_drop, Nat.add_sub_cancel' (Nat.le_of_lt hua)]
  · rintro ⟨r, hr, -⟩
    cases hr

theorem FinSentMode.ackedReliability {k : Nat} (hm : FinSentMode strict e u (2 + e.accepted.length) c k)
    (hr : betweenEqualRight e.rc.snd.sndUna p.ackNumber e.rc.snd.sndMax = true) :
    FinSentMode strict ((e.ackedReliability p).acknowledged p) (2 + e.accepted.length) (2 + e.accepted.length) c k := by
  have ho := hm.order
  have hu : 1 + e.accepted.length ≤ u ∧ u ≤ 2 + e.accepted.length := by
    rcases hm.buffer with ⟨hu, -⟩ | ⟨hu, -⟩ <;> omega
  obtain ⟨a, ha, hua, ham⟩ := hm.rc.betweenEqualRight (by omega) (by omega) hr
  have hae : a = 2 + e.accepted.length := by omega
  subst hae
  have hbuf : e.socket.sendBuffer = [finByte] := by
    rcases hm.buffer with ⟨-, h⟩ | ⟨h, -⟩
    · exact h
    · omega
  have hlen := length_acked hm.rc ha (by omega) (by omega)
  have hrc := hm.rc.acknowledge (a := 2 + e.accepted.length) (by omega) (by omega) (by omega) (by omega)
  have hccc := hm.ccc.acknowledge (a := 2 + e.accepted.length) (by omega) (by omega) (by omega) (by omega)
  rw [← ha, Nat.max_eq_left (by omega)] at hrc hccc
  refine ⟨hrc, hccc, .inr ⟨rfl, ?_⟩, ho, hm.once, hm.savedSendEvent, .inl ⟨rfl, by simp [waiting, acknowledged,
    Endpoint.ackedReliability, ProtocolEvent.packet], rfl⟩, hm.state, hm.finSent⟩
  change e.socket.sendBuffer.drop (p.ackNumber - e.rc.snd.sndUna).toNat = []
  rw [hlen, hbuf, List.drop_eq_nil_of_le]
  rw [List.length_singleton]
  omega

/-- The mode after an acceptable ACK number. -/
theorem SendMode.ackedReliability (hb : e.SendBase) (hm : SendMode strict e) (hq : e.queue = [])
    (hr : betweenEqualRight e.rc.snd.sndUna p.ackNumber e.rc.snd.sndMax = true) :
    SendMode strict ((e.ackedReliability p).acknowledged p) := by
  rcases hm.cases_idle hq with ⟨u, n, m, hm⟩ | ⟨u, c, k, hm⟩
  · obtain ⟨u', n', hm'⟩ := hm.ackedReliability hb hr
    exact .sending u' n' m n' hm'
  · exact .finSent _ _ _ _ (hm.ackedReliability hr)

/-- The timer is stopped unless something remains outstanding, and then the send buffer is not empty. -/
theorem SendMode.acked_outstanding (hb : e.SendBase) (hm : SendMode strict e) (hq : e.queue = [])
    (hr : betweenEqualRight e.rc.snd.sndUna p.ackNumber e.rc.snd.sndMax = true) :
    0 < p.ackNumber - e.rc.snd.sndUna ∧
      ((e.rc.snd.acknowledge p.ackNumber).sndNxt ≠ (e.rc.snd.acknowledge p.ackNumber).sndUna →
        (e.ackedReliability p).socket.sendBuffer ≠ []) := by
  obtain ⟨u, n, m, c, k, hi⟩ := hm.idle hb hq
  have ho := hi.order
  obtain ⟨a, ha, hua, ham⟩ := hi.rc.betweenEqualRight (by omega) (by omega) hr
  have hlen := length_acked hi.rc ha (by omega) (by omega)
  constructor
  · rw [BitVec.lt_def, hlen]
    change 0 < a - u
    omega
  · intro hne
    have hack := hi.rc.acknowledge (a := a) ham (by omega) (by omega) (by omega)
    rw [← ha] at hack
    rw [hack.sndNxt, hack.sndUna] at hne
    have hna : a < n := by
      by_contra hle
      exact hne (by rw [Nat.max_eq_right (by omega)])
    have hout := hi.outstanding
    rw [← List.length_pos_iff]
    change 0 < (e.socket.sendBuffer.drop (p.ackNumber - e.rc.snd.sndUna).toNat).length
    rw [hlen, List.length_drop]
    omega

theorem cancelTimer_frame (e : Endpoint) : SendFrame { e with rc := { e.rc with timeoutEvent := none } } e.cancelTimer := by
  unfold cancelTimer
  split
  · rename_i h
    rw [← h]
    exact .refl e
  · exact .dispatch _ (.of_none rfl rfl)

/-- What `handle_valid_ack` does, up to the running of the timer. -/
theorem handleValidAck_frame (hq : e.queue = []) (hnum : 0 < p.ackNumber - e.rc.snd.sndUna)
    (hne : (e.rc.snd.acknowledge p.ackNumber).sndNxt ≠ (e.rc.snd.acknowledge p.ackNumber).sndUna →
      (e.ackedReliability p).socket.sendBuffer ≠ [])
    (h : e.handleValidAck p = .ok e') : SendFrame (e.ackedReliability p) e' := by
  have hcancel := cancelTimer_frame (({ e with
    rc := { e.rc with snd := e.rc.snd.acknowledge p.ackNumber }
    socket := { e.socket with
      sendBuffer := e.socket.sendBuffer.drop (p.ackNumber - e.rc.snd.sndUna).toNat } } : Endpoint).enqueue
    .sendBufferNotFull)
  simp only [enqueue, enqueueFor, hq, List.nil_append] at hcancel
  unfold handleValidAck at h
  simp only at h
  obtain ⟨_, -, h⟩ := bind_eq_ok.1 h
  simp only [enqueue, enqueueFor, hq, List.nil_append] at h
  by_cases hout : (e.rc.snd.acknowledge p.ackNumber).sndNxt = (e.rc.snd.acknowledge p.ackNumber).sndUna
  · rw [if_pos hout] at h
    cases h
    exact hcancel
  · rw [if_neg hout, if_pos hnum] at h
    cases h
    refine hcancel.trans (.startTimer _ ?_)
    rw [hcancel.sendBuffer]
    exact hne hout

/-! ### Received packets -/

theorem acknowledged_eq (h : e.ccc.snd.acknowledge p.ackNumber = e.ccc.snd) : e.acknowledged p = e := by
  unfold acknowledged
  rw [h]

/-- The ACK number of a packet that passes the check: a new one is acknowledged, another one may be a duplicate. -/
theorem handleAck_mode {b : Bool} (hb : e.SendBase) (hm : SendMode strict e) (hq : e.queue = [])
    (hack : p.ack = true) (hvalid : isValidAckNumber e.rc p = true) (h : e.handleAck p = .ok (b, e')) :
    if isDuplicateAck e.rc p then e'.SendBase ∧ SendMode strict e'
    else (e'.acknowledged p).SendBase ∧ SendMode strict (e'.acknowledged p) ∧
      (∀ r ∈ waiting e'.queue, r.IsEmpty) ∧ resends e'.queue = 0 := by
  obtain ⟨u, n, m, c, k, hi⟩ := hm.idle hb hq
  have ho := hi.order
  unfold handleAck at h
  simp only [hack, Bool.not_true, Bool.false_eq_true, if_false] at h
  by_cases hr : betweenEqualRight e.rc.snd.sndUna p.ackNumber e.rc.snd.sndMax = true
  · have hdup : isDuplicateAck e.rc p = false := by
      obtain ⟨a, ha, hua, ham⟩ := hi.rc.betweenEqualRight (by omega) (by omega) hr
      have hleft : betweenEqualLeft p.ackNumber e.rc.snd.sndUna e.rc.snd.sndNxt = false := by
        rw [← Bool.not_eq_true, betweenEqualLeft, Bool.and_eq_true, ha, hi.rc.sndUna, lessThanOrEqual_iff,
          lessThan_seqAt (by omega) (by omega), seqAt_inj (by omega) (by omega)]
        omega
      unfold isDuplicateAck
      simp [hleft]
    rw [hdup, if_neg Bool.false_ne_true]
    rw [if_pos hr] at h
    obtain ⟨e₁, h₁, h⟩ := bind_eq_ok.1 h
    cases h
    obtain ⟨hnum, hne⟩ := hm.acked_outstanding hb hq hr
    have hframe := handleValidAck_frame hq hnum hne h₁
    refine ⟨(hframe.acknowledged p).base (ackedReliability_base hb hq),
      (hframe.acknowledged p).mode (hm.ackedReliability hb hq hr), hframe.waiting_empty ?_, hframe.resends.trans rfl⟩
    simp [waiting, ackedReliability, ProtocolEvent.packet]
  · have hna : p.ackNumber = e.rc.snd.sndUna := by
      unfold isValidAckNumber at hvalid
      obtain ⟨a, ha, hua, ham⟩ := hi.rc.betweenEqual (by omega) (by omega) hvalid
      rw [ha, hi.rc.betweenEqualRight_iff (by omega) (by omega) hua ham] at hr
      rw [ha, hi.rc.sndUna, show a = u by omega]
    have hbeyond : lessThan e.rc.snd.sndMax p.ackNumber = false := not_beyond_of_valid hvalid
    have hsame : e.ccc.snd.acknowledge p.ackNumber = e.ccc.snd := by
      rw [hna, hi.rc.sndUna, ← hi.ccc.sndUna]
      exact hi.ccc.acknowledge_self (by omega) (by omega)
    have hidle : (e.acknowledged p).SendBase ∧ SendMode strict (e.acknowledged p) ∧
        (∀ r ∈ waiting e.queue, r.IsEmpty) ∧ resends e.queue = 0 := by
      rw [acknowledged_eq hsame, hq]
      exact ⟨hb, hm, by simp [waiting], rfl⟩
    rw [if_neg hr, hbeyond, if_neg Bool.false_ne_true] at h
    split at h
    · rename_i hleft
      cases h
      obtain ⟨hb', hm', hframe⟩ := handleDuplicateAck_mode hb hm hq hack hleft
      split
      · exact ⟨hb', hm'⟩
      · rename_i hdup
        have hframe := hframe (by simpa using hdup)
        exact ⟨(hframe.acknowledged p).base hidle.1, (hframe.acknowledged p).mode hidle.2.1,
          hframe.waiting_empty hidle.2.2.1, hframe.resends.trans hidle.2.2.2⟩
    · rename_i hleft
      cases h
      have hdup : isDuplicateAck e.rc p = false := by
        unfold isDuplicateAck
        simp [hleft]
      rw [hdup, if_neg Bool.false_ne_true]
      exact hidle

/-- The ACK number of a packet that fails the check. -/
theorem handleAck_invalid {b : Bool} (hb : e.SendBase) (hm : SendMode strict e) (hq : e.queue = [])
    (hack : p.ack = true) (hvalid : isValidAckNumber e.rc p = false) (h : e.handleAck p = .ok (b, e')) :
    e'.SendBase ∧ SendMode strict e' := by
  have hr : ¬betweenEqualRight e.rc.snd.sndUna p.ackNumber e.rc.snd.sndMax = true := by
    intro hr
    have := valid_of_betweenRight hr
    unfold isValidAckNumber at hvalid
    rw [this] at hvalid
    cases hvalid
  unfold handleAck at h
  simp only [hack, Bool.not_true, Bool.false_eq_true, if_false] at h
  rw [if_neg hr] at h
  split at h
  · cases h
    have hframe := SendFrame.createAndDispatchAck e
    exact ⟨hframe.base hb, hframe.mode hm⟩
  · split at h
    · rename_i hleft
      cases h
      obtain ⟨hb', hm', -⟩ := handleDuplicateAck_mode hb hm hq hack hleft
      exact ⟨hb', hm'⟩
    · cases h
      exact ⟨hb, hm⟩

theorem reliabilityReceivePacket_frame (h : e.reliabilityReceivePacket p = .ok e') :
    ∃ b e₁, (e.updateEchoReply p).handleAck p = .ok (b, e₁) ∧ SendFrame e₁ e' := by
  unfold reliabilityReceivePacket at h
  obtain ⟨⟨b, e₁⟩, h₁, h⟩ := bind_eq_ok.1 h
  refine ⟨b, e₁, h₁, ?_⟩
  simp only at h
  split at h
  · exact .handleControlBitsAndData h
  · cases h
    exact .refl _

/-- The congestion control sends what has room, or nothing. -/
theorem SendMode.sendPackets (hb : e.SendBase) (hm : SendMode strict e) (hempty : ∀ r ∈ waiting e.queue, r.IsEmpty)
    (hres : resends e.queue = 0) (h : e.sendPackets = .ok e') : e'.SendBase ∧ SendMode strict e' := by
  cases hm with
  | sending u n m c hm =>
    obtain ⟨hb', c', hm'⟩ := hm.sendPackets hb (fun r hr => (hempty r hr).syn) h
    exact ⟨hb', .sending u n m c' hm'⟩
  | resending u m c hm =>
    rw [hm.resends] at hres
    cases hres
  | finWaiting hm =>
    rw [sendPackets_nothing (le_of_eq hm.numUnsent)] at h
    cases h
    exact ⟨hb, .finWaiting hm⟩
  | finSent u n c k hm =>
    rw [sendPackets_nothing hm.numUnsent] at h
    cases h
    exact ⟨hb, .finSent u n c k hm⟩

theorem acknowledgeSegment_ok {c c' : TCPTahoeCongestionControlContext} (h : acknowledgeSegment c p = .ok c') :
    c'.snd = c.snd.acknowledge p.ackNumber ∧ c'.probeTimer = c.probeTimer := by
  have hwindow (c : TCPTahoeCongestionControlContext) :
      (updateSendWindow c p).snd = c.snd ∧ (updateSendWindow c p).probeTimer = c.probeTimer := by
    unfold updateSendWindow
    split <;> exact ⟨rfl, rfl⟩
  have hcwnd {c c' : TCPTahoeCongestionControlContext} (h : setCwnd c = .ok c') :
      c'.snd = c.snd ∧ c'.probeTimer = c.probeTimer := by
    unfold setCwnd at h
    split at h
    · cases h
      exact ⟨rfl, rfl⟩
    · obtain ⟨_, -, h⟩ := bind_eq_ok.1 h
      cases h
      exact ⟨rfl, rfl⟩
  unfold acknowledgeSegment at h
  simp only at h
  obtain ⟨hsnd, hprobe⟩ := hwindow { c with snd := c.snd.acknowledge p.ackNumber }
  split at h
  · obtain ⟨hsnd', hprobe'⟩ := hcwnd h
    exact ⟨hsnd'.trans hsnd, hprobe'.trans hprobe⟩
  · cases h
    exact ⟨hsnd, hprobe⟩

/-- The congestion control handles an ACK number that the reliability state has acknowledged. -/
theorem congestionReceivePacket_mode (hb : (e.acknowledged p).SendBase) (hm : SendMode strict (e.acknowledged p))
    (hempty : ∀ r ∈ waiting e.queue, r.IsEmpty) (hres : resends e.queue = 0) (hack : p.ack = true)
    (hbetween : betweenEqual e.ccc.snd.sndUna p.ackNumber e.ccc.snd.sndMax = true)
    (h : e.congestionReceivePacket p = .ok e') : e'.SendBase ∧ SendMode strict e' := by
  unfold congestionReceivePacket at h
  rw [hack, hbetween] at h
  obtain ⟨ccc, hccc, h⟩ := bind_eq_ok.1 h
  have hsnd := acknowledgeSegment_ok hccc
  have hframe : SendFrame (e.acknowledged p) { e with ccc := ccc } :=
    .withCongestion (e.acknowledged p) hsnd.1 hsnd.2
  unfold sendOrProbe at h
  split at h
  · cases h
    have hframe := hframe.trans (.startProbeTimer _)
    exact ⟨hframe.base hb, hframe.mode hm⟩
  · have hframe := hframe.trans (.cancelProbeTimer _)
    exact (hframe.mode hm).sendPackets (hframe.base hb) (hframe.waiting_empty hempty) (hframe.resends.trans hres) h

theorem SendMode.not_listen (hm : SendMode strict e) : e.cmc.state ≠ .listen := by
  intro h
  cases hm with
  | sending u n m c hm =>
    have := hm.state
    rw [h] at this
    cases this
  | resending u m c hm =>
    have := hm.state
    rw [h] at this
    cases this
  | finWaiting hm =>
    have := hm.state
    rw [h] at this
    cases this
  | finSent u n c k hm =>
    have := hm.state
    rw [h] at this
    cases this

theorem runSavedClose_mode (hb : e.SendBase) (hm : SendMode strict e) :
    e.runSavedClose.SendBase ∧ SendMode strict e.runSavedClose := by
  rcases runSavedClose_cases e with ⟨hc, heq⟩ | ⟨-, heq⟩ <;> rw [heq]
  · obtain ⟨hb', hm'⟩ := managerClose_mode hb hm hc.2.1 hc.2.2
    have hframe : SendFrame e.managerClose { e.managerClose with savedCloseEvent := none } :=
      .of_same ⟨rfl, rfl, rfl, rfl, rfl, rfl, rfl, rfl, rfl, rfl, rfl, rfl⟩
    exact ⟨hframe.base hb', hframe.mode hm'⟩
  · exact ⟨hb, hm⟩

/-- A packet that passes both checks goes through the three contexts. -/
theorem SendMode.receiveValid (hb : e.SendBase) (hm : SendMode strict e) (hq : e.queue = [])
    (hvalid : (p.ack && !isValidAckNumber e.rc p) = false) (h₁ : e.reliabilityReceivePacket p = .ok e')
    (h₂ : (e'.managerReceivePacket p).receiveUnlessDuplicate p (isDuplicateAck e.rc p) = .ok e'') :
    e''.SendBase ∧ SendMode strict e'' := by
  have hstate : e'.cmc.state ≠ .listen := by
    obtain ⟨e₁, -, hack, h⟩ := reliabilityReceivePacket_ok h₁
    have hcmc : e'.cmc = e.cmc := by
      split at h
      · obtain ⟨v, -, rfl⟩ := h
        exact hack.cmc
      · rw [h]
        exact hack.cmc
    rw [hcmc]
    exact hm.not_listen
  have hecho := SendFrame.updateEchoReply e p
  have hrc : (e.updateEchoReply p).rc.snd = e.rc.snd ∧ (e.updateEchoReply p).queue = e.queue ∧
      isValidAckNumber (e.updateEchoReply p).rc p = isValidAckNumber e.rc p ∧
      isDuplicateAck (e.updateEchoReply p).rc p = isDuplicateAck e.rc p := by
    obtain ⟨t, heq⟩ := updateEchoReply_eq e p
    rw [heq]
    exact ⟨rfl, rfl, rfl, rfl⟩
  obtain ⟨b, e₁, hhandle, hframe⟩ := reliabilityReceivePacket_frame h₁
  have hframe := hframe.trans (.managerReceivePacket e' p hstate)
  have hb₀ := hecho.base hb
  have hm₀ := hecho.mode hm
  have hq₀ := hrc.2.1.trans hq
  cases hack : p.ack with
  | false =>
    have hdup : isDuplicateAck e.rc p = false := by simp [isDuplicateAck, hack]
    have hsame : e₁ = e.updateEchoReply p := by
      unfold handleAck at hhandle
      simp only [hack, Bool.not_false, if_true] at hhandle
      cases hhandle
      rfl
    rw [hsame] at hframe
    unfold receiveUnlessDuplicate congestionReceivePacket at h₂
    simp only [hdup, hack, Bool.false_and, Bool.false_eq_true, if_false] at h₂
    cases h₂
    exact ⟨hframe.base hb₀, hframe.mode hm₀⟩
  | true =>
    have hv : isValidAckNumber (e.updateEchoReply p).rc p = true := by
      rw [hrc.2.2.1]
      simpa [hack] using hvalid
    have hmode := handleAck_mode hb₀ hm₀ hq₀ hack hv hhandle
    rw [hrc.2.2.2] at hmode
    unfold receiveUnlessDuplicate at h₂
    split at hmode
    · rename_i hdup
      rw [if_pos hdup] at h₂
      cases h₂
      exact ⟨hframe.base hmode.1, hframe.mode hmode.2⟩
    · rename_i hdup
      rw [if_neg hdup] at h₂
      obtain ⟨hb₁, hm₁, hempty, hres⟩ := hmode
      have hccc : (e'.managerReceivePacket p).ccc.snd = e.ccc.snd := by
        rw [hframe.cccSnd, (AckChange.handleAck hhandle).ccc, hecho.cccSnd]
      refine congestionReceivePacket_mode ((hframe.acknowledged p).base hb₁) ((hframe.acknowledged p).mode hm₁)
        (hframe.waiting_empty hempty) (hframe.resends.trans hres) hack ?_ h₂
      obtain ⟨u, n, m, c, k, hi⟩ := hm.idle hb hq
      have ho := hi.order
      rw [hrc.2.2.1] at hv
      unfold isValidAckNumber at hv
      obtain ⟨a, ha, hua, ham⟩ := hi.rc.betweenEqual (by omega) (by omega) hv
      rw [hccc, ha]
      exact hi.ccc.betweenEqual_of_le (by omega) hua (by omega)

/-- A packet is received after the SYN. -/
theorem SendMode.receivePacket (hb : e.SendBase) (hm : SendMode strict e) (hq : e.queue = [])
    (h : e.receivePacket p = .ok e') : e'.SendBase ∧ SendMode strict e' := by
  have hframe {f : Endpoint} (hf : SendFrame e f) : f.SendBase ∧ SendMode strict f := ⟨hf.base hb, hf.mode hm⟩
  unfold Endpoint.receivePacket at h
  split at h
  · cases h
    exact ⟨hb, hm⟩
  cases hinv : p.ack && !isValidAckNumber e.rc p with
  | true =>
    rw [hinv, if_pos rfl] at h
    obtain ⟨b, e₁, hhandle, hf⟩ := reliabilityReceivePacket_frame h
    obtain ⟨hack, hv⟩ := Bool.and_eq_true _ _ ▸ hinv
    have hecho := SendFrame.updateEchoReply e p
    have hrc : (e.updateEchoReply p).queue = e.queue ∧
        isValidAckNumber (e.updateEchoReply p).rc p = isValidAckNumber e.rc p := by
      obtain ⟨t, heq⟩ := updateEchoReply_eq e p
      rw [heq]
      exact ⟨rfl, rfl⟩
    obtain ⟨hb₁, hm₁⟩ := handleAck_invalid (hecho.base hb) (hecho.mode hm) (hrc.1.trans hq) hack
      (by rw [hrc.2]; simpa using hv) hhandle
    exact ⟨hf.base hb₁, hf.mode hm₁⟩
  | false =>
    rw [hinv, if_neg Bool.false_ne_true] at h
    split at h
    · split at h
      · cases h
        exact hframe (.managerReceivePacket e p hm.not_listen)
      · split at h
        · cases h
          exact hframe (.createAndDispatchAck e)
        · cases h
          exact ⟨hb, hm⟩
    · split at h
      · cases h
        exact hframe (.of_same ⟨rfl, rfl, rfl, rfl, rfl, rfl, rfl, rfl, rfl, rfl, rfl, rfl⟩)
      · obtain ⟨e₁, h₁, h⟩ := bind_eq_ok.1 h
        obtain ⟨e₂, h₂, h⟩ := bind_eq_ok.1 h
        cases h
        obtain ⟨hb₂, hm₂⟩ := hm.receiveValid hb hq hinv h₁ h₂
        exact runSavedClose_mode hb₂ hm₂

end

end Endpoint

end Wifu
