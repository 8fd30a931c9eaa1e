import Wifu.SendProgress

/-!
# Where the sending side stands

`snd_una` is the number of one position of the send stream, and what has been accepted behind that position fits in the
send buffer.  A step accepts no more than the buffer has room for, so the number tells the position; a data segment that
leaves carries bytes from there on.
-/

namespace Wifu

namespace Endpoint

section

variable {strict : Prop} {e e' : Endpoint} {i : Input} {p q : TCPPacket} {vs : List ProtocolEvent} {u u' : Nat}

/-! ### What a step accepts -/

theorem handleProtocolEvent_accepted {k : ProtocolEventKind} (hk : k ≠ .sendBufferNotFull)
    (h : e.handleProtocolEvent k = .ok e') : e'.accepted = e.accepted := by
  cases k with
  | sendPacket p =>
    obtain ⟨q, hsent⟩ := sendPacket_ok h
    exact hsent.accepted
  | resendPacket r => exact acceptedBytes_congr (CongestionChange.resendPacket h).transfers
  | sendBufferNotEmpty => exact acceptedBytes_congr (CongestionChange.sendPackets h).transfers
  | sendBufferNotFull => exact absurd rfl hk
  | receiveBufferNotEmpty =>
    cases h
    exact (SendFrame.receiveBufferNotEmpty e).accepted
  | receiveBufferNotFull =>
    cases h
    exact (SendFrame.receiveBufferNotFull e).accepted
  | connectionInitiated | connectionEstablished | deleteSocket =>
    cases h
    rfl

/-- At most the room in the send buffer is accepted. -/
theorem saveInBuffer_accepted {n : Nat} (hn : e.getAvailableRoom = .ok n) (s : SendEvent) :
    ∃ l, (e.saveInBuffer s n).accepted = e.accepted ++ l ∧ l.length ≤ tcpSocketMaxBufferSize := by
  refine ⟨_, accepted_saveInBuffer e s n, ?_⟩
  have := (getAvailableRoom_ok hn).2
  rw [List.length_take]
  omega

/-- A step accepts at most what the send buffer holds, and nothing when it deletes the socket. -/
theorem step_accepted (hstep : step i e = .ok e') : e'.accepted = e.accepted ∨
    e'.deleted = false ∧ ∃ l, e'.accepted = e.accepted ++ l ∧ l.length ≤ tcpSocketMaxBufferSize := by
  have hman (hm : ManagerChange e e') : e'.accepted = e.accepted := acceptedBytes_congr hm.transfers
  cases step_ok hstep with
  | dropped _ h | skipped _ _ h | tick _ _ h =>
    cases h
    exact .inl rfl
  | @event v vs _ _ hdel h =>
    by_cases hk : v.kind = .sendBufferNotFull
    · rw [hk] at h
      have h : ({ e with queue := vs } : Endpoint).sendBufferNotFull = .ok e' := h.symm
      rcases sendBufferNotFull_ok h with ⟨-, rfl⟩ | ⟨s, n, -, hn, ⟨-, rfl⟩ | ⟨-, rfl⟩⟩
      · exact .inl rfl
      · exact .inr ⟨hdel, saveInBuffer_accepted hn s⟩
      · exact .inl rfl
    · have hsame := handleProtocolEvent_accepted hk h.symm
      exact .inl hsame
  | packet _ _ _ h =>
    have hsame := (receivePacket_accepted h.symm).1
    exact .inl hsame
  | listen l _ h =>
    cases h
    exact .inl (hman (.listen e l))
  | connect c _ h =>
    cases h
    obtain heq | ⟨_, -, -, heq⟩ := managerConnect_cases e c <;> rw [heq] <;> exact .inl rfl
  | send s hdel _ h =>
    obtain ⟨n, hn, ⟨-, rfl⟩ | ⟨-, rfl⟩⟩ := send_ok h.symm
    · exact .inr ⟨hdel, saveInBuffer_accepted hn s⟩
    · exact .inl rfl
  | receive r _ _ h => exact .inl (SendFrame.receive h.symm).accepted
  | close c _ h =>
    cases h
    have hdispatch (f : Endpoint) : (f.dispatch (.closeResponse c)).accepted = f.accepted := by
      simp [accepted, dispatch, acceptedBytes, FrameworkEvent.accepted]
    rcases close_cases e c with ⟨-, heq⟩ | ⟨-, heq⟩ <;> rw [heq]
    · exact .inl ((hdispatch _).trans (acceptedBytes_congr (ManagerChange.close e).transfers))
    · exact .inl (hdispatch _)
  | timerFired t _ _ h =>
    have h := h.symm
    unfold timerFired at h
    refine .inl (acceptedBytes_congr ?_)
    rw [(CongestionChange.timerFired h).transfers, (ManagerChange.timerFired _ t).transfers,
      (AckChange.timerFired e t).transfers]

/-- What has been accepted stays. -/
theorem step_accepted_grows (hstep : step i e = .ok e') : e.accepted <+: e'.accepted := by
  rcases step_accepted hstep with h | ⟨-, l, h, -⟩
  · rw [h]
  · rw [h]
    exact List.prefix_append _ _

theorem step_accepted_length (hstep : step i e = .ok e') :
    e'.accepted.length ≤ e.accepted.length + tcpSocketMaxBufferSize := by
  rcases step_accepted hstep with h | ⟨-, l, h, hl⟩
  · rw [h]
    exact Nat.le_add_right _ _
  · rw [h, List.length_append]
    omega

/-! ### The position of `snd_una` -/

/-- `snd_una` stands at the position `u`, and what has been accepted from there on fits in the send buffer. -/
structure Oldest (e : Endpoint) (u : Nat) : Prop where
  sndUna : e.rc.snd.sndUna = seqAt u
  le : u ≤ 2 + e.accepted.length
  accepted_le : 1 + e.accepted.length ≤ u + tcpSocketMaxBufferSize

theorem SendMode.oldest (hb : e.SendBase) (hm : SendMode strict e) : ∃ u, e.Oldest u := by
  have hlen := hb.buffer_le
  cases hm with
  | sending u n m c hm =>
    have ho := hm.order
    rw [hm.buffer, List.length_drop, List.length_cons] at hlen
    exact ⟨u, hm.rc.sndUna, by omega, by omega⟩
  | resending u m c hm =>
    have ho := hm.order
    rw [hm.buffer, List.length_drop, List.length_cons] at hlen
    exact ⟨u, hm.rc.sndUna, by omega, by omega⟩
  | finWaiting hm => exact ⟨_, hm.rc.sndUna, by omega, by omega⟩
  | finSent u n c k hm =>
    refine ⟨u, hm.rc.sndUna, ?_, ?_⟩
    · rcases hm.buffer with ⟨hu, -⟩ | ⟨hu, -⟩ <;> omega
    · rcases hm.buffer with ⟨hu, -⟩ | ⟨hu, -⟩ <;> omega

/-- The number tells the position, as long as not too much has been accepted in between. -/
theorem Oldest.position_eq (h' : e'.Oldest u') {k : Nat} (hk : e'.rc.snd.sndUna = seqAt k)
    (h₁ : k ≤ e'.accepted.length + 2147483648) (h₂ : e'.accepted.length ≤ k + 2147483648) : u' = k := by
  have hmax : tcpSocketMaxBufferSize = 131071 := rfl
  have hle := h'.le
  have hacc := h'.accepted_le
  have hnumber : seqAt u' = seqAt k := h'.sndUna.symm.trans hk
  exact (seqAt_inj (by omega) (by omega)).1 hnumber

/-- A step that leaves `snd_una` alone leaves its position alone. -/
theorem Oldest.step (h : e.Oldest u) (hinv : SendInv strict e') (hinit : e'.rc.initialized = true)
    (hstep : Endpoint.step i e = .ok e') (hsnd : e'.rc.snd.sndUna = e.rc.snd.sndUna) : e'.Oldest u := by
  have hmax : tcpSocketMaxBufferSize = 131071 := rfl
  have hnumber : e'.rc.snd.sndUna = seqAt u := hsnd.trans h.sndUna
  cases hinv with
  | deleted hdel _ =>
    rcases step_accepted hstep with hsame | ⟨hdel', -⟩
    · exact ⟨hnumber, by rw [hsame]; exact h.le, by rw [hsame]; exact h.accepted_le⟩
    · rw [hdel] at hdel'
      cases hdel'
  | preSyn hp _ _ =>
    rw [hp.initialized] at hinit
    cases hinit
  | sent hb hm =>
    obtain ⟨u', hu'⟩ := hm.oldest hb
    have hle := (step_accepted_grows hstep).length_le
    have hlength := step_accepted_length hstep
    have h₁ := h.le
    have h₂ := h.accepted_le
    rw [← hu'.position_eq hnumber (by omega) (by omega)]
    exact hu'

/-- What has been sent says where it belongs. -/
theorem SendInv.sentOk (hinv : SendInv strict e) : ∀ p ∈ sentPackets e.dispatched, SentOk e.accepted p := by
  cases hinv with
  | deleted _ hs => exact hs
  | preSyn hp _ _ => exact fun p hs => .of_isEmpty (hp.sent p hs)
  | sent hb _ => exact hb.sent

/-- A packet is taken in one of the modes, and leaves the sending side in one. -/
theorem SendInv.delivered (hinv : SendInv strict e) (hinit : e.rc.initialized = true) (hen : enabled i e)
    (hd : e.delivered i = some p) (hstep : Endpoint.step i e = .ok e') : e'.SendBase ∧ SendMode strict e' := by
  have hdel : e.deleted = false := by
    by_contra hdel
    rw [(step_deleted_same (by simpa using hdel) hstep).1] at hd
    cases hd
  cases hinv with
  | deleted hdel' _ =>
    rw [hdel] at hdel'
    cases hdel'
  | preSyn hp _ _ =>
    rw [hp.initialized] at hinit
    cases hinit
  | sent hb hm =>
    have hlow (hq : e.queue = []) (h : (if e.deleted then .ok e else e.handleLow i) = .ok e') :
        e'.SendBase ∧ SendMode strict e' := by
      rw [hdel, if_neg Bool.false_ne_true] at h
      exact hm.handleLow hb hq h
    cases i with
    | packet q => exact hlow hen hstep
    | redeliver => exact hlow hen hstep
    | _ => cases hd

/-- A damaged packet changes nothing that is sent. -/
theorem step_damaged (hd : e.delivered i = some p) (hsum : p.validChecksum = false) (hstep : step i e = .ok e') :
    e'.rc = e.rc := by
  cases step_ok hstep with
  | dropped hnone _ =>
    rw [hd] at hnone
    cases hnone
  | @packet _ q ps hq _ _ h =>
    cases hd.symm.trans hq
    unfold receivePacket at h
    rw [if_pos (by simp [hsum])] at h
    cases h
    rfl
  | _ => cases hd

/-- `snd_una` changes only to a number that an undamaged packet acknowledges. -/
theorem step_acknowledged (hinit : e.rc.initialized = true) (hstep : step i e = .ok e') :
    e'.rc.initialized = true ∧ (e'.rc.snd.sndUna = e.rc.snd.sndUna ∨ ∃ p, e.delivered i = some p ∧
      p.validChecksum = true ∧ p.ack = true ∧ e'.rc.snd.sndUna = p.ackNumber) := by
  cases step_sendStep hstep with
  | same h _ =>
    have hsnd : e'.rc.snd = e.rc.snd := congrArg SendView.snd h
    exact ⟨(congrArg SendView.initialized h).trans hinit, .inl (by rw [hsnd])⟩
  | sent _ _ _ hsends =>
    refine ⟨hsends.initialized, .inl ?_⟩
    rw [hsends.snd]
    unfold setSequenceNumber
    simp only [hinit, Bool.not_true, Bool.false_eq_true, if_false]
    rfl
  | @acked p hd hack hnew hsnd hinit' _ _ _ =>
    have hnumber : e'.rc.snd.sndUna = p.ackNumber := by
      rw [hsnd]
      unfold OutstandingDataContext.acknowledge
      simp only
      split <;> rfl
    refine ⟨hinit'.trans hinit, .inr ⟨p, hd, ?_, hack, hnumber⟩⟩
    by_contra hsum
    -- a damaged packet would leave `snd_una` behind the number
    have hsame := step_damaged hd (by simpa using hsum) hstep
    rw [hsame] at hnumber
    unfold betweenEqualRight at hnew
    rw [hnumber, Bool.and_eq_true, lessThan_iff] at hnew
    omega
  | rewound hsnd hinit' _ _ _ =>
    refine ⟨hinit'.trans hinit, .inl ?_⟩
    rw [hsnd]
    rfl

/-! ### The position of a data segment -/

/-- A data segment that leaves carries accepted bytes from a position at or behind that of `snd_una`. -/
theorem SendMode.segment_position (hb : e.SendBase) (hm : SendMode strict e)
    (hq : e.queue = ⟨e.socket.id, .sendPacket p⟩ :: vs) (hs : PacketSent { e with queue := vs } e' p q)
    (hdata : q.IsData) : ∃ u k, e.Oldest u ∧ u ≤ 1 + k ∧ q.sequenceNumber = seqAt (1 + k) ∧
      q.data <+: e.accepted.drop k := by
  have hp : p.IsData := ⟨hs.syn ▸ hdata.syn, hs.fin ▸ hdata.fin, hs.length ▸ hdata.length⟩
  have hmem : p ∈ waiting e.queue := by
    rw [hq]
    exact List.mem_filterMap.2 ⟨_, List.mem_cons_self, rfl⟩
  have hnonempty (h : p.IsEmpty) : False := by
    have := h.length
    have := hp.length
    omega
  have hnotFin (h : OneFin (waiting e.queue)) : False := by
    obtain ⟨as, r, bs, heq, hr, has, hbs⟩ := h
    rw [heq] at hmem
    rcases List.mem_append.1 hmem with hmem | hmem
    · exact hnonempty (has p hmem)
    · rcases List.mem_cons.1 hmem with rfl | hmem
      · have := hr.fin
        rw [hp.fin] at this
        cases this
      · exact hnonempty (hbs p hmem)
  cases hm with
  | sending u n m c hm =>
    -- the head of the queue takes up the positions from `snd_nxt` on
    have hlen := hb.buffer_le
    rw [hm.buffer, List.length_drop, List.length_cons] at hlen
    have ho := hm.order
    have hpending := hm.pending
    rw [hq] at hpending
    have hwaiting : waiting (⟨e.socket.id, .sendPacket p⟩ :: vs) = p :: waiting vs := rfl
    rw [hwaiting] at hpending
    cases hpending with
    | empty hempty _ => exact (hnonempty hempty).elim
    | syn hsyn _ =>
      have := hsyn.syn
      rw [hp.syn] at this
      cases this
    | @data k _ _ _ _ hd _ =>
      refine ⟨u, k, ⟨hm.rc.sndUna, by omega, by omega⟩, ho.1, ?_, ?_⟩
      · rw [hs.number]
        unfold setSequenceNumber
        have hinit := hb.initialized
        simp only [hinit, Bool.not_true, Bool.false_eq_true, if_false]
        exact hm.rc.sndNxt
      · rw [hs.data]
        exact hd
  | resending u m c hm => exact (hnonempty (hm.empty p hmem)).elim
  | finWaiting hm => exact (hnotFin hm.fin).elim
  | finSent u n c k hm =>
    rcases hm.queue with ⟨-, hempty, -⟩ | ⟨-, hempty, -⟩ | ⟨-, hfin, -⟩
    · exact (hnonempty (hempty p hmem)).elim
    · exact (hnonempty (hempty p hmem)).elim
    · exact (hnotFin hfin).elim

end

end Endpoint

end Wifu
