import Wifu.SendQueue

/-!
# Protocol events and the invariant of the sending side

The invariant is kept by every waiting protocol event that meets `sendCondition`: a retransmission is made while the
front of the send buffer is a SYN or FIN byte only if that SYN or FIN is what is outstanding.
-/

namespace Wifu

namespace Endpoint

/-- A waiting retransmission finds the byte of a SYN at the front of the send buffer only when the SYN is outstanding,
and that of a FIN only when the FIN has been sent; `strict` excludes the retransmission of a FIN. -/
def resendCondition (strict : Prop) (e : Endpoint) : Prop :=
  ∀ v ∈ e.queue.head?, v.isResend = true →
    (e.socket.sendBuffer.head? = some synByte → e.accepted.length < e.socket.sendBuffer.length) ∧
    (e.socket.sendBuffer.head? = some finByte → finSent e.dispatched = true) ∧
    (strict → finSent e.dispatched = false)

/-- Before its own SYN the endpoint receives nothing that it would acknowledge. -/
def preSynCondition (e : Endpoint) (i : Input) : Prop :=
  ∀ p ∈ e.delivered i, e.rc.initialized = false → p.validChecksum = true →
    (p.ack = true → lessThan e.rc.snd.sndMax p.ackNumber = false) ∧
    (e.accepts p = true → 0 < p.dataLengthBytes → p.syn = true ∨ p.fin = true)

/-- The condition on the steps of the sending side. -/
def sendCondition (strict : Prop) (e : Endpoint) (i : Input) : Prop :=
  preSynCondition e i ∧ (i = .drain → resendCondition strict e)

instance (strict : Prop) [Decidable strict] (e : Endpoint) : Decidable (resendCondition strict e) :=
  inferInstanceAs (Decidable (∀ v ∈ e.queue.head?, _))

instance (e : Endpoint) (i : Input) : Decidable (preSynCondition e i) :=
  inferInstanceAs (Decidable (∀ p ∈ e.delivered i, _))

instance (strict : Prop) [Decidable strict] (e : Endpoint) (i : Input) : Decidable (sendCondition strict e i) :=
  inferInstanceAs (Decidable (_ ∧ _))

section

variable {strict : Prop} {e e' : Endpoint} {p q : TCPPacket} {v : ProtocolEvent} {vs : List ProtocolEvent}
variable {u n m c : Nat}

/-! ### After the SYN -/

theorem SendMode.setSndNxt_self (hb : e.SendBase) (hm : SendMode strict e) :
    e.rc.snd.setSndNxt e.rc.snd.sndNxt = e.rc.snd := by
  cases hm with
  | sending u n m c hm =>
    have hbound := hm.bounds hb
    unfold tcpSocketMaxBufferSize at hbound
    exact hm.rc.setSndNxt_self (by omega) (by omega)
  | resending u m c hm =>
    have hbound := hm.bound hb
    have ho := hm.order
    unfold tcpSocketMaxBufferSize at hbound
    exact hm.rc.setSndNxt_self (by omega) (by omega)
  | finWaiting hm => exact hm.rc.setSndNxt_self (Nat.le_refl _) (by omega)
  | finSent u n c k hm =>
    have hn : 1 + e.accepted.length ≤ n ∧ n ≤ 2 + e.accepted.length := by
      rcases hm.queue with ⟨-, -, hn⟩ | ⟨-, -, hn, hu⟩ | ⟨-, -, hn, hu, -⟩ <;> omega
    exact hm.rc.setSndNxt_self (by omega) (by omega)

theorem SendMode.drainPacket (hb : e.SendBase) (hm : SendMode strict e) (hq : e.queue = v :: vs)
    (hv : v.kind = .sendPacket p) (h : ({ e with queue := vs } : Endpoint).sendPacket p = .ok e') :
    e'.SendBase ∧ SendMode strict e' := by
  obtain ⟨q, hs⟩ := sendPacket_ok h
  by_cases hp : p.IsEmpty
  · have hinert : Inert v := by
      refine ⟨by simp [ProtocolEvent.isResend, hv], ?_⟩
      simp [ProtocolEvent.packet, hv, hp]
    have hb' := hb.pop hq (by simp [hv])
    have hm' := hm.pop hq hinert
    have hframe := hs.frame hp hb.initialized (hm'.setSndNxt_self hb')
    exact ⟨hframe.base hb', hframe.mode hm'⟩
  · exact hm.sendContent hb hq hv hp hs

/-- The SYN does not wait behind an event that makes the endpoint send data. -/
theorem OpenMode.noSyn (hm : OpenMode e u n m c) (hv : v ∈ e.queue) (hd : v.sendsData = true) :
    ∀ p ∈ waiting e.queue, p.syn = false := by
  intro p hp
  rw [← Bool.not_eq_true]
  intro hs
  rw [hm.quiet ⟨p, hp, hs⟩ v hv] at hd
  cases hd

theorem SendMode.drainSendPackets (hb : e.SendBase) (hm : SendMode strict e)
    (hq : e.queue = v :: vs) (hv : v.kind = .sendBufferNotEmpty)
    (h : ({ e with queue := vs } : Endpoint).sendPackets = .ok e') : e'.SendBase ∧ SendMode strict e' := by
  have hdata : v.sendsData = true := by simp [ProtocolEvent.sendsData, hv]
  have hmem : v ∈ e.queue := by simp [hq]
  have hinert : Inert v := ⟨by simp [ProtocolEvent.isResend, hv], by simp [ProtocolEvent.packet, hv]⟩
  have hb' := hb.pop hq (by simp [hv])
  have hm' := hm.pop hq hinert
  have hnothing (hu : numUnsent { e with queue := vs } ≤ 0) : e'.SendBase ∧ SendMode strict e' := by
    rw [sendPackets_nothing hu] at h
    cases h
    exact ⟨hb', hm'⟩
  have hwait : waiting e.queue = waiting vs := by
    rw [hq, waiting_cons]
    simp [ProtocolEvent.packet, hv]
  cases hm with
  | sending u n m c hm =>
    have hsyn := hm.noSyn hmem hdata
    rw [hwait] at hsyn
    obtain ⟨hb'', c', hm''⟩ := (hm.pop hq hinert).sendPackets hb' hsyn h
    exact ⟨hb'', .sending u n m c' hm''⟩
  | resending u m c hm =>
    rw [hm.quiet v hmem] at hdata
    cases hdata
  | finWaiting hm => exact hnothing (le_of_eq hm.numUnsent)
  | finSent u n c k hm => exact hnothing hm.numUnsent

theorem SendMode.drainSendBufferNotFull (hb : e.SendBase) (hm : SendMode strict e)
    (hq : e.queue = v :: vs) (hv : v.kind = .sendBufferNotFull)
    (h : ({ e with queue := vs } : Endpoint).sendBufferNotFull = .ok e') : e'.SendBase ∧ SendMode strict e' := by
  have hdata : v.sendsData = true := by simp [ProtocolEvent.sendsData, hv]
  have hmem : v ∈ e.queue := by simp [hq]
  have hinert : Inert v := ⟨by simp [ProtocolEvent.isResend, hv], by simp [ProtocolEvent.packet, hv]⟩
  have hb' := hb.pop hq (by simp [hv])
  have hm' := hm.pop hq hinert
  unfold Endpoint.sendBufferNotFull at h
  simp only at h
  split at h
  · cases h
    exact ⟨hb', hm'⟩
  · rename_i s hsaved
    obtain ⟨k, hk, h⟩ := bind_eq_ok.1 h
    have hk : k = tcpSocketMaxBufferSize - e.socket.sendBuffer.length := (getAvailableRoom_ok hk).2
    split at h
    · cases h
      cases hm with
      | sending u n m c hm =>
        have hsyn := hm.noSyn hmem hdata
        rw [hq, waiting_cons] at hsyn
        have hsaved' : e.savedSendEvent.isSome = true := by simp [hsaved]
        obtain ⟨hb'', hm''⟩ := (hm.pop hq hinert).saveInBuffer hb'
          (fun p hp => hsyn p (List.mem_append_right _ hp)) (hb.saved hsaved') s hk
        exact ⟨⟨hb''.initialized, hb''.deleted, hb''.sent, hb''.buffer_le, hb''.timer,
          ⟨hb''.timers.1, hb''.timers.2, hb''.timers.3⟩, hb''.early, by simp, hb''.queue, hb''.closed⟩,
          .sending u n m c ⟨hm''.rc, hm''.ccc, hm''.order, hm''.buffer, hm''.pending, hm''.resends, hm''.quiet,
            hm''.state, hm''.finSent⟩⟩
      | resending u m c hm =>
        rw [hm.quiet v hmem] at hdata
        cases hdata
      | finWaiting hm =>
        rw [hm.savedSendEvent] at hsaved
        cases hsaved
      | finSent u n c k hm =>
        rw [hm.savedSendEvent] at hsaved
        cases hsaved
    · cases h
      exact ⟨hb', hm'⟩

theorem SendMode.drainResend (hb : e.SendBase) (hm : SendMode strict e) (hq : e.queue = v :: vs)
    (hv : v.isResend = true) (hc : resendCondition strict e)
    (h : ({ e with queue := vs } : Endpoint).congestionResendPacket = .ok e') : e'.SendBase ∧ SendMode strict e' := by
  obtain ⟨hsyn, hfin, hstrict⟩ := hc v (by simp [hq]) hv
  have hres : Wifu.resends e.queue = Wifu.resends vs + 1 := by
    rw [hq, resends_cons, hv, if_pos rfl]
  cases hm with
  | sending u n m c hm =>
    have := hm.resends
    omega
  | resending u m c hm =>
    have hfin' : e.socket.sendBuffer.head? ≠ some finByte := by
      intro hh
      have := hfin hh
      rw [hm.finSent] at this
      cases this
    obtain ⟨hb', c', hm'⟩ := hm.resend hb hq hv hsyn hfin' h
    exact ⟨hb', .sending u u m c' hm'⟩
  | finWaiting hm =>
    have := hm.resends
    omega
  | finSent u n c k hm =>
    refine hm.resend hb hq hv (fun hs => ?_) h
    have := hstrict hs
    rw [hm.finSent] at this
    cases this

/-- A waiting event is handled after the SYN. -/
theorem SendMode.drain (hb : e.SendBase) (hm : SendMode strict e) (hc : resendCondition strict e)
    (h : e.drain = .ok e') : SendInv strict e' := by
  unfold Endpoint.drain at h
  split at h
  · cases h
    exact .sent hb hm
  rename_i v vs hq
  obtain ⟨hsocket, hinit⟩ := hb.queue v (by simp [hq])
  simp only at h
  split at h
  · unfold handleProtocolEvent at h
    have hinert (hr : v.isResend = false) (hp : v.packet = none) : Inert v := ⟨hr, by simp [hp]⟩
    split at h
    · rename_i p hk
      obtain ⟨hb', hm'⟩ := hm.drainPacket hb hq hk h
      exact .sent hb' hm'
    · rename_i r hk
      obtain ⟨hb', hm'⟩ := hm.drainResend hb hq (by simp [ProtocolEvent.isResend, hk]) hc h
      exact .sent hb' hm'
    · rename_i hk
      obtain ⟨hb', hm'⟩ := hm.drainSendPackets hb hq hk h
      exact .sent hb' hm'
    · rename_i hk
      obtain ⟨hb', hm'⟩ := hm.drainSendBufferNotFull hb hq hk h
      exact .sent hb' hm'
    · rename_i hk
      cases h
      have hb' := hb.pop hq (by simp [hk])
      have hm' := hm.pop hq (hinert (by simp [ProtocolEvent.isResend, hk]) (by simp [ProtocolEvent.packet, hk]))
      have hframe := SendFrame.receiveBufferNotEmpty { e with queue := vs }
      exact .sent (hframe.base hb') (hframe.mode hm')
    · rename_i hk
      cases h
      have hb' := hb.pop hq (by simp [hk])
      have hm' := hm.pop hq (hinert (by simp [ProtocolEvent.isResend, hk]) (by simp [ProtocolEvent.packet, hk]))
      have hframe := SendFrame.receiveBufferNotFull { e with queue := vs }
      exact .sent (hframe.base hb') (hframe.mode hm')
    · rename_i hk
      exact absurd hk (hinit _ _ _ _)
    · rename_i hk
      cases h
      exact .sent (hb.pop hq (by simp [hk]))
        (hm.pop hq (hinert (by simp [ProtocolEvent.isResend, hk]) (by simp [ProtocolEvent.packet, hk])))
    · cases h
      exact .deleted rfl hb.sent
  · rename_i hcontains
    cases h
    have hne : v.socket ≠ e.socket.id := by
      intro heq
      simp [contains, heq, hb.deleted] at hcontains
    obtain ⟨s, hk⟩ := hsocket.resolve_left hne
    exact .sent (hb.pop hq (by simp [hk])) (hm.pop hq ⟨by simp [ProtocolEvent.isResend, hk],
      by simp [ProtocolEvent.packet, hk]⟩)

/-! ### Before the SYN -/

/-- The SYN leaves. -/
theorem Unsent.sendSyn (hp : e.Unsent) (ht : e.TimersOk) (hd : e.deleted = false) (hearly : e.cmc.state.isEarly = true)
    (hsyn : p.IsSyn) (hq : e.queue = []) (hs : PacketSent e e' p q) : SendInv strict e' := by
  have hnum : setSequenceNumber e.rc p = ({ p with sequenceNumber := iss },
      { e.rc with snd := (e.rc.snd.setSndUna iss).setSndNxt (iss + 1), initialized := true }) := by
    unfold setSequenceNumber
    rw [hp.initialized]
    rfl
  have hsnd := hs.snd
  have hnumber := hs.number
  have hccc := hs.cccSnd
  rw [hnum] at hsnd hnumber
  simp only [congestionSendPacket, hsyn.syn, if_true] at hccc
  rw [hp.rcSnd] at hsnd
  rw [hp.cccSnd] at hccc
  have hstart : SndAt ((({} : OutstandingDataContext).setSndUna iss).setSndNxt (iss + 1)) 0 1 1 :=
    ⟨by decide, by decide, by decide⟩
  have hacc : e'.accepted = [] := hs.accepted.trans hp.accepted
  have hbuf : e'.socket.sendBuffer = [synByte] := by
    have := hs.sendBuffer
    simp only [appendControlBytes, hp.sendBuffer, hsyn.syn] at this
    exact (Except.ok.inj this).symm
  have hqueue : e'.queue = [] := hs.queue.trans hq
  have hsent : ∀ r ∈ sentPackets e'.dispatched, SentOk e'.accepted r := by
    intro r hr
    rcases hs.sent hr with hr | hr | rfl
    · exact .of_isEmpty (hp.sent r hr)
    · exact .of_isEmpty hr
    · refine ⟨fun _ => ⟨hs.fin.trans hsyn.fin, hnumber⟩, fun h => ?_, fun h => ?_⟩
      · rw [hs.fin, hsyn.fin] at h
        cases h
      · rw [hs.syn, hsyn.syn] at h
        cases h
  refine .sent ⟨hs.initialized, hs.deleted.trans hd, hsent, by rw [hbuf]; decide, by simp [hbuf], hs.timers ht,
    fun _ => hacc, ?_, by simp [hqueue], ?_⟩ (.sending 0 1 1 1 ⟨?_, ?_, ?_, ?_, ?_, ?_, ?_, ?_, ?_⟩)
  · rw [hs.savedSendEvent, hp.savedSendEvent]
    simp
  · rw [hs.state]
    intro h
    rw [h] at hearly
    cases hearly
  · rw [hsnd]
    exact hstart
  · rw [hccc]
    exact hstart
  · simp [hacc]
  · rw [hbuf, hacc]
    rfl
  · rw [hqueue]
    exact .nil
  · rw [hqueue]
    rfl
  · simp [hqueue, waiting]
  · rw [hs.state]
    cases hstate : e.cmc.state <;> simp_all [ConnectionManagerState.isEarly, ConnectionManagerState.isOpen]
  · rw [hs.finSent, hsyn.fin, Bool.or_false]
    unfold Wifu.finSent
    rw [List.any_eq_false]
    intro r hr
    simp [(hp.sent r hr).fin]

/-- A waiting event is handled before the SYN has been sent. -/
theorem PreSyn.drain (hp : e.PreSyn) (ht : e.TimersOk) (hd : e.deleted = false) (h : e.drain = .ok e') :
    SendInv strict e' := by
  have hcontains (vs : List ProtocolEvent) : Endpoint.contains { e with queue := vs } e.socket.id = true := by
    simp [contains, hd]
  unfold Endpoint.drain at h
  rcases hp.queue with ⟨hstate, hq⟩ | ⟨hearly, p, hsyn, hq | ⟨s, l, r, li, hq⟩⟩
  · split at h
    · cases h
      exact .preSyn hp ht hd
    · rename_i v vs hv
      rw [hq v (by simp [hv])] at h
      simp only [hcontains vs, if_true, handleProtocolEvent] at h
      cases h
      exact .deleted rfl fun p hs => .of_isEmpty (hp.sent p hs)
  · rw [hq] at h
    simp only [hcontains [], if_true, handleProtocolEvent] at h
    obtain ⟨q, hs⟩ := sendPacket_ok h
    have hu : Unsent { e with queue := [] } := ⟨hp.initialized, hp.rcSnd, hp.cccSnd, hp.timeoutEvent,
      hp.sendBuffer, hp.savedSendEvent, hp.accepted, hp.sent⟩
    exact hu.sendSyn ⟨ht.1, ht.2, ht.3⟩ hd hearly hsyn rfl hs
  · rw [hq] at h
    simp only [hcontains [⟨s, .sendPacket p⟩], if_true, handleProtocolEvent] at h
    cases h
    exact .preSyn ⟨⟨hp.initialized, hp.rcSnd, hp.cccSnd, hp.timeoutEvent, rfl, hp.savedSendEvent,
      hp.accepted, hp.sent⟩, .inr ⟨hearly, p, hsyn, .inl rfl⟩⟩ ⟨ht.1, ht.2, ht.3⟩ hd

theorem SendInv.drain (hinv : SendInv strict e) (hc : resendCondition strict e) (h : e.drain = .ok e') :
    SendInv strict e' := by
  cases hinv with
  | deleted hd hs =>
    unfold Endpoint.drain at h
    split at h
    · cases h
      exact .deleted hd hs
    · simp only [contains, hd, Bool.not_true, Bool.and_false, Bool.false_eq_true, if_false] at h
      cases h
      exact .deleted rfl hs
  | preSyn hp ht hd => exact hp.drain ht hd h
  | sent hb hm => exact hm.drain hb hc h

end

end Endpoint

end Wifu
