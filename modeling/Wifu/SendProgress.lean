import Wifu.CongestionWindow
import Wifu.RetransmissionTimer
import Wifu.SendAssertions

/-!
# The sender makes progress

Unsent bytes do not wait for nothing: some are outstanding, the peer's window is being probed, or the event that sends
them waits in the queue.  Once the SYN has been acknowledged the probe timer runs or the window has room for a segment.
-/

namespace Wifu

/-- The bytes are none of those that stand for a SYN or a FIN. -/
def Plain (l : List UInt8) : Prop := ∀ b ∈ l, b ≠ synByte ∧ b ≠ finByte

instance (l : List UInt8) : Decidable (Plain l) := inferInstanceAs (Decidable (∀ b ∈ l, _))

theorem acceptedBytes_transfers (d : List FrameworkEvent) : acceptedBytes (transfers d) = acceptedBytes d := by
  unfold acceptedBytes transfers
  induction d with
  | nil => rfl
  | cons f d ih => cases f <;> simp [List.filter_cons, FrameworkEvent.isTransfer, FrameworkEvent.accepted, ih]

theorem acceptedBytes_congr {d d' : List FrameworkEvent} (h : transfers d' = transfers d) :
    acceptedBytes d' = acceptedBytes d := by
  rw [← acceptedBytes_transfers, h, acceptedBytes_transfers]

namespace Endpoint

/-! ### Accepting bytes -/

/-- How a step changes the bytes accepted and the request that waits for room. -/
inductive AcceptStep (e : Endpoint) (i : Input) (e' : Endpoint) : Prop
  | same (ha : e'.accepted = e.accepted) (hs : e'.savedSendEvent = e.savedSendEvent)
  | accept (s : SendEvent) (n : Nat) (hs : i = .send s ∨ e.savedSendEvent = some s)
      (ha : e'.accepted = e.accepted ++ s.data.take n)
      (hsaved : e'.savedSendEvent = none ∨ e'.savedSendEvent = e.savedSendEvent)
  | save (s : SendEvent) (hi : i = .send s) (ha : e'.accepted = e.accepted) (hs : e'.savedSendEvent = some s)

section

variable {e e' : Endpoint} {p : TCPPacket} {i : Input}

theorem SendFrame.acceptStep (h : SendFrame e e') : AcceptStep e i e' := .same h.accepted h.savedSendEvent

theorem reliabilityReceivePacket_accepted (h : e.reliabilityReceivePacket p = .ok e') :
    e'.accepted = e.accepted ∧ e'.savedSendEvent = e.savedSendEvent := by
  obtain ⟨e₁, -, hack, h⟩ := reliabilityReceivePacket_ok h
  have hacc : e₁.accepted = e.accepted := acceptedBytes_congr hack.transfers
  split at h
  · obtain ⟨v, -, rfl⟩ := h
    exact ⟨hacc, hack.savedSendEvent⟩
  · rw [h]
    exact ⟨hacc, hack.savedSendEvent⟩

theorem receivePacket_accepted (h : e.receivePacket p = .ok e') :
    e'.accepted = e.accepted ∧ e'.savedSendEvent = e.savedSendEvent := by
  have hman (f f' : Endpoint) (hm : ManagerChange f f') : f'.accepted = f.accepted ∧ f'.savedSendEvent = f.savedSendEvent :=
    ⟨acceptedBytes_congr hm.transfers, hm.savedSendEvent⟩
  have hcase := receivePacket_cases e p
  rw [h] at hcase
  cases hcase with
  | corrupt _ h | answered _ _ h | ignored _ _ h | parked _ _ _ _ _ h =>
    cases h
    exact ⟨rfl, rfl⟩
  | skipping _ _ _ h => exact reliabilityReceivePacket_accepted h.symm
  | lingering _ _ _ h =>
    cases h
    exact hman _ _ (.receivePacket e p)
  | taken _ _ _ _ h =>
    obtain ⟨e₁, h₁, h⟩ := bind_eq_ok.1 h.symm
    obtain ⟨e₂, h₂, h⟩ := bind_eq_ok.1 h
    cases h
    obtain ⟨hacc₁, hsaved₁⟩ := reliabilityReceivePacket_accepted h₁
    obtain ⟨hacc₂, hsaved₂⟩ := hman _ _ (.receivePacket e₁ p)
    have hc := CongestionChange.receiveUnlessDuplicate h₂
    obtain ⟨hacc₃, hsaved₃⟩ := hman _ _ (.runSavedClose e₂)
    exact ⟨hacc₃.trans ((acceptedBytes_congr hc.transfers).trans (hacc₂.trans hacc₁)),
      hsaved₃.trans (hc.savedSendEvent.trans (hsaved₂.trans hsaved₁))⟩

theorem sendBufferNotFull_acceptStep (h : e.sendBufferNotFull = .ok e') : AcceptStep e i e' := by
  obtain ⟨-, rfl⟩ | ⟨s, n, hs, -, ⟨-, rfl⟩ | ⟨-, rfl⟩⟩ := sendBufferNotFull_ok h
  · exact .same rfl rfl
  · exact .accept s (min n s.data.length) (.inr hs) (accepted_saveInBuffer e s n) (.inl rfl)
  · exact .same rfl rfl

theorem handleProtocolEvent_acceptStep {k : ProtocolEventKind} (h : e.handleProtocolEvent k = .ok e') :
    AcceptStep e i e' := by
  have hcongestion (hc : CongestionChange e e') : AcceptStep e i e' :=
    .same (acceptedBytes_congr hc.transfers) hc.savedSendEvent
  unfold handleProtocolEvent at h
  split at h
  · obtain ⟨q, hsent⟩ := sendPacket_ok h
    exact .same hsent.accepted hsent.savedSendEvent
  · exact hcongestion (.resendPacket h)
  · exact hcongestion (.sendPackets h)
  · exact sendBufferNotFull_acceptStep h
  · cases h
    exact (SendFrame.receiveBufferNotEmpty e).acceptStep
  · cases h
    exact (SendFrame.receiveBufferNotFull e).acceptStep
  · cases h
    exact .same rfl rfl
  · cases h
    exact .same rfl rfl
  · cases h
    exact .same rfl rfl

theorem step_acceptStep (hstep : step i e = .ok e') : AcceptStep e i e' := by
  have hman (hm : ManagerChange e e') : AcceptStep e i e' := .same (acceptedBytes_congr hm.transfers) hm.savedSendEvent
  cases step_ok hstep with
  | dropped _ h =>
    cases h
    exact .same rfl rfl
  | skipped _ _ h =>
    cases h
    exact .same rfl rfl
  | @event v vs _ _ _ h =>
    have haccept : AcceptStep { e with queue := vs } .drain e' := handleProtocolEvent_acceptStep h.symm
    cases haccept with
    | same ha hs => exact .same ha hs
    | accept s n hs ha hsaved => exact .accept s n hs ha hsaved
    | save s hi ha hs => exact .save s hi ha hs
  | @packet i p ps _ _ _ h =>
    obtain ⟨ha, hs⟩ := receivePacket_accepted h.symm
    exact .same ha hs
  | listen l _ h =>
    cases h
    exact hman (.listen e l)
  | connect c _ h =>
    cases h
    obtain heq | ⟨_, -, -, heq⟩ := managerConnect_cases e c <;> rw [heq]
    · exact .same rfl rfl
    · exact .same rfl rfl
  | send s _ _ h =>
    obtain ⟨n, -, ⟨-, rfl⟩ | ⟨-, rfl⟩⟩ := send_ok h.symm
    · exact .accept s (min n s.data.length) (.inl rfl) (accepted_saveInBuffer e s n) (.inr rfl)
    · exact .save s rfl rfl rfl
  | receive r _ _ h => exact (SendFrame.receive h.symm).acceptStep
  | close c _ h =>
    cases h
    have hdispatch (f : Endpoint) : (f.dispatch (.closeResponse c)).accepted = f.accepted := by
      simp [accepted, dispatch, acceptedBytes, FrameworkEvent.accepted]
    rcases close_cases e c with ⟨-, heq⟩ | ⟨-, heq⟩ <;> rw [heq]
    · have hm := ManagerChange.close e
      exact .same ((hdispatch _).trans (acceptedBytes_congr hm.transfers)) hm.savedSendEvent
    · exact .same (hdispatch _) rfl
  | timerFired t _ _ h =>
    have h := h.symm
    unfold timerFired at h
    have hack := AckChange.timerFired e t
    have hm := ManagerChange.timerFired (e.reliabilityTimerFired t) t
    have hc := CongestionChange.timerFired h
    refine .same (acceptedBytes_congr ?_) ?_
    · rw [hc.transfers, hm.transfers, hack.transfers]
    · rw [hc.savedSendEvent, hm.savedSendEvent, hack.savedSendEvent]
  | tick now _ h =>
    cases h
    exact .same rfl rfl

/-- The application's data has none of the bytes that stand for a SYN or a FIN. -/
def sendsPlain (i : Input) : Prop :=
  match i with
  | .send s => Plain s.data
  | _ => True

instance : (i : Input) → Decidable (sendsPlain i)
  | .send s => inferInstanceAs (Decidable (Plain s.data))
  | .drain | .listen _ | .connect _ | .receive _ | .close _ | .packet _ | .redeliver | .timerFired _ | .tick _ =>
    .isTrue trivial

/-- All bytes accepted, or waiting to be, are plain. -/
structure PlainData (e : Endpoint) : Prop where
  accepted : Plain e.accepted
  saved : ∀ s, e.savedSendEvent = some s → Plain s.data

theorem PlainData.step (h : e.PlainData) (hi : sendsPlain i) (hstep : step i e = .ok e') : e'.PlainData := by
  cases step_acceptStep hstep with
  | same ha hs => exact ⟨ha ▸ h.accepted, hs ▸ h.saved⟩
  | accept s n hs ha hsaved =>
    have hplain : Plain s.data := by
      rcases hs with rfl | hs
      · exact hi
      · exact h.saved s hs
    constructor
    · rw [ha]
      intro b hb
      rcases List.mem_append.1 hb with hb | hb
      · exact h.accepted b hb
      · exact hplain b (List.mem_of_mem_take hb)
    · intro s' hs'
      rcases hsaved with hnone | hsame
      · rw [hnone] at hs'
        cases hs'
      · exact h.saved s' (hsame ▸ hs')
  | save s hi' ha hs =>
    subst hi'
    refine ⟨ha ▸ h.accepted, fun s' hs' => ?_⟩
    rw [hs] at hs'
    cases hs'
    exact hi

/-! ### Retransmissions of plain data -/

theorem PlainData.buffer_head (h : e.PlainData) {u : Nat} (hbuf : e.socket.sendBuffer = (synByte :: e.accepted).drop u) :
    (e.socket.sendBuffer.head? = some synByte → u = 0) ∧ e.socket.sendBuffer.head? ≠ some finByte := by
  rw [hbuf]
  cases u with
  | zero =>
    refine ⟨fun _ => rfl, ?_⟩
    rw [List.drop_zero, List.head?_cons]
    decide
  | succ u =>
    rw [List.drop_succ_cons]
    have hmem {b : UInt8} (hb : (e.accepted.drop u).head? = some b) : b ≠ synByte ∧ b ≠ finByte :=
      h.accepted b (List.mem_of_mem_drop (List.mem_of_mem_head? hb))
    exact ⟨fun hb => absurd rfl (hmem hb).1, fun hb => absurd rfl (hmem hb).2⟩

/-- With plain data a retransmission is never taken for that of a SYN or a FIN. -/
theorem PlainData.resendCondition (h : e.PlainData) (hm : SendMode False e) : resendCondition False e := by
  intro v hv hresend
  have hpos : resends e.queue ≠ 0 := by
    obtain ⟨vs, hvs⟩ : ∃ vs, e.queue = v :: vs := by
      cases hq : e.queue with
      | nil =>
        rw [hq] at hv
        cases hv
      | cons w vs =>
        rw [hq] at hv
        cases hv
        exact ⟨vs, rfl⟩
    rw [hvs, resends_cons, if_pos hresend]
    omega
  cases hm with
  | sending u n m c hm => exact absurd hm.resends hpos
  | finWaiting hm => exact absurd hm.resends hpos
  | resending u m c hm =>
    obtain ⟨hsyn, hfin⟩ := h.buffer_head hm.buffer
    refine ⟨fun hhead => ?_, fun hhead => absurd hhead hfin, False.elim⟩
    rw [hm.buffer, hsyn hhead]
    simp
  | finSent u n c k hm =>
    refine ⟨fun hhead => ?_, fun _ => hm.finSent, False.elim⟩
    rcases hm.buffer with ⟨-, hbuf⟩ | ⟨-, hbuf⟩
    · rw [hbuf] at hhead
      exact absurd hhead (by decide)
    · rw [hbuf] at hhead
      cases hhead

/-- No segment of a send stream takes `snd_nxt` round to `snd_una`. -/
theorem SendMode.staysBehind (hb : e.SendBase) (hm : SendMode False e) : staysBehind e i := by
  intro hi _ v hv hsock p hp hcontent
  obtain ⟨vs, hq⟩ : ∃ vs, e.queue = v :: vs := by
    cases hq : e.queue with
    | nil =>
      rw [hq] at hv
      cases hv
    | cons w vs =>
      rw [hq] at hv
      cases hv
      exact ⟨vs, rfl⟩
  have hwaiting : waiting e.queue = p :: waiting vs := by
    rw [hq, waiting_cons, Option.mem_def.1 hp]
    rfl
  have hempty : ¬p.IsEmpty := by
    rintro ⟨hs, hf, hl⟩
    unfold TCPPacket.hasContent at hcontent
    simp [hs, hf, hl] at hcontent
  have hfinish {u n m : Nat} (hat : SndAt e.rc.snd u n m) (hone : p.sequenceLength = 1) (hun : u ≤ n)
      (hnu : n < u + 4294967295) : e.rc.snd.sndNxt + p.sequenceLength ≠ e.rc.snd.sndUna := by
    rw [hat.sndNxt, hat.sndUna, hone]
    have hnext : seqAt n + 1 = seqAt (n + 1) := seqAt_add n 1
    rw [hnext, Ne, seqAt_inj (by omega) (by omega)]
    omega
  have honefin (hf : OneFin (waiting e.queue)) : p.sequenceLength = 1 := by
    rw [hwaiting] at hf
    simp [TCPPacket.sequenceLength, (hf.head hempty).1.fin]
  cases hm with
  | sending u n m c hm =>
    have hbound := hm.bounds hb
    have hpending := hm.pending
    unfold tcpSocketMaxBufferSize at hbound
    rw [hwaiting] at hpending
    cases hpending with
    | empty he _ => exact absurd he hempty
    | syn hs _ =>
      exact hfinish hm.rc (by simp [TCPPacket.sequenceLength, hs.syn]) (by omega) (by omega)
    | @data k _ _ _ hdata _ hrest =>
      obtain ⟨hlen, hnat⟩ := hdata.length_data
      have hend := hrest.le
      have hseq : p.sequenceLength = BitVec.ofNat 32 p.data.length := by
        simp [TCPPacket.sequenceLength, hdata.syn, hdata.fin, hnat]
      rw [hm.rc.sndNxt, hm.rc.sndUna, hseq, seqAt_add, Ne, seqAt_inj (by omega) (by omega)]
      omega
  | resending u m c hm =>
    have hmem : p ∈ waiting e.queue := by rw [hwaiting]; simp
    exact absurd (hm.empty p hmem) hempty
  | finWaiting hm => exact hfinish hm.rc (honefin hm.fin) (Nat.le_refl _) (by omega)
  | finSent u n c k hm =>
    have hmem : p ∈ waiting e.queue := by rw [hwaiting]; simp
    rcases hm.queue with ⟨-, hall, -⟩ | ⟨-, hall, -⟩ | ⟨-, hfin, hn, -⟩
    · exact absurd (hall p hmem) hempty
    · exact absurd (hall p hmem) hempty
    · exact hfinish hm.rc (honefin hfin) hn.ge (by omega)

/-! ### Progress -/

end

/-- The congestion window holds at least one segment and does not overflow. -/
structure WindowBounds (c : TCPTahoeCongestionControlContext) : Prop where
  mss_le : mss ≤ c.cwnd.toNat
  le : c.cwnd.toNat ≤ mss * mss + mss
  slowStart : c.state = .slowStart → c.cwnd.toNat ≤ 65535

/-- Unsent bytes do not wait for nothing. -/
structure Progress (e : Endpoint) : Prop where
  bounds : WindowBounds e.ccc
  /-- Until the SYN is acknowledged its byte stands in the send buffer in front of all accepted bytes. -/
  window : e.socket.sendBuffer.length = e.accepted.length + 1 ∨ e.ccc.probeTimer.isSome = true ∨ mss ≤ e.ccc.sndWnd.toNat
  driven : e.ccc.probeTimer.isSome = true ∨ 0 < e.ccc.snd.numOutstanding.toNat ∨ e.numUnsent ≤ 0 ∨
    ⟨e.socket.id, .sendBufferNotEmpty⟩ ∈ e.queue

section

variable {e e' : Endpoint} {p : TCPPacket} {i : Input}

theorem WindowBounds.congr {c c' : TCPTahoeCongestionControlContext} (h : WindowBounds c) (hcwnd : c'.cwnd = c.cwnd)
    (hstate : c'.state = c.state) : WindowBounds c' := by
  constructor
  · rw [hcwnd]
    exact h.mss_le
  · rw [hcwnd]
    exact h.le
  · rw [hcwnd, hstate]
    exact h.slowStart

theorem WindowBounds.resend (c : TCPTahoeCongestionControlContext) : WindowBounds (congestionResend c) := by
  have hcwnd : (congestionResend c).cwnd.toNat = 1448 := rfl
  refine ⟨hcwnd.ge, ?_, fun _ => ?_⟩
  · rw [hcwnd]
    decide
  · rw [hcwnd]
    decide

theorem WindowBounds.setCwnd {c c' : TCPTahoeCongestionControlContext} (h : WindowBounds c) (hc : setCwnd c = .ok c') :
    WindowBounds c' := by
  have hmss : mss = 1448 := rfl
  have hsquare : mss * mss = 2096704 := rfl
  have hlow := h.mss_le
  have hhigh := h.le
  cases hs : c.state with
  | slowStart =>
    rw [TCPTahoeCongestionControlContext.setCwnd_slowStart hs] at hc
    cases hc
    have hslow := h.slowStart hs
    have hsum : (c.cwnd + BitVec.ofNat 32 mss).toNat = c.cwnd.toNat + mss := by
      rw [BitVec.toNat_add, BitVec.toNat_ofNat]
      omega
    have hthreshold := c.ssthreshold.isLt
    refine ⟨?_, ?_, ?_⟩
    · rw [hsum]
      omega
    · rw [hsum]
      omega
    · simp only [hsum]
      split
      · intro h
        cases h
      · intro _
        omega
  | congestionAvoidance =>
    have hne : c.cwnd ≠ 0 := by
      intro hzero
      rw [hzero] at hlow
      exact absurd hlow (by decide)
    rw [TCPTahoeCongestionControlContext.setCwnd_congestionAvoidance hs hne] at hc
    cases hc
    have hquot : (BitVec.ofNat 32 (mss * mss) / c.cwnd).toNat = mss * mss / c.cwnd.toNat := by
      rw [BitVec.toNat_udiv, BitVec.toNat_ofNat]
      congr 1
    -- a window beyond `mss * mss` no longer grows
    have hle : c.cwnd.toNat + mss * mss / c.cwnd.toNat ≤ mss * mss + mss := by
      by_cases hbig : mss * mss < c.cwnd.toNat
      · rw [Nat.div_eq_of_lt hbig]
        exact hhigh
      · have hdiv : mss * mss / c.cwnd.toNat ≤ mss * mss / mss := Nat.div_le_div_left hlow (by omega)
        rw [Nat.mul_div_cancel _ (by omega)] at hdiv
        omega
    have hsum : (c.cwnd + BitVec.ofNat 32 (mss * mss) / c.cwnd).toNat = c.cwnd.toNat + mss * mss / c.cwnd.toNat := by
      rw [BitVec.toNat_add, hquot]
      omega
    refine ⟨?_, ?_, fun h => ?_⟩
    · rw [hsum]
      omega
    · rw [hsum]
      exact hle
    · simp only [hs] at h
      cases h

theorem WindowBounds.acknowledgeSegment {c c' : TCPTahoeCongestionControlContext} (h : WindowBounds c)
    (hc : acknowledgeSegment c p = .ok c') : WindowBounds c' := by
  have hupdate : WindowBounds (updateSendWindow { c with snd := c.snd.acknowledge p.ackNumber } p) := by
    unfold updateSendWindow
    split
    · exact h.congr rfl rfl
    · exact h.congr rfl rfl
  unfold Endpoint.acknowledgeSegment at hc
  simp only at hc
  split at hc
  · exact hupdate.setCwnd hc
  · cases hc
    exact hupdate

/-- A window of a whole segment lets something be sent. -/
theorem WindowBounds.maxAllowedToSend_pos {c : TCPTahoeCongestionControlContext} (h : WindowBounds c)
    (hw : mss ≤ c.sndWnd.toNat) : 0 < c.maxAllowedToSend := by
  have hmss : mss = 1448 := rfl
  have hlow := h.mss_le
  unfold TCPTahoeCongestionControlContext.maxAllowedToSend
  simp only
  have hmod : min c.sndWnd.toNat c.cwnd.toNat % mss < mss := Nat.mod_lt _ (by omega)
  omega

theorem mss_le_of_maxAllowedToSend_pos {c : TCPTahoeCongestionControlContext} (h : 0 < c.maxAllowedToSend) :
    mss ≤ c.sndWnd.toNat := by
  by_contra hlt
  unfold TCPTahoeCongestionControlContext.maxAllowedToSend at h
  simp only at h
  rw [Nat.mod_eq_of_lt (by omega)] at h
  omega

/-! ### Sending data -/

theorem sendOnePacket_ccc {w : Bool} (h : e.sendOnePacket w = .ok e') :
    e'.ccc = { e.ccc with snd := e'.ccc.snd } := by
  obtain ⟨k, -, -, -, -, -, rfl⟩ := sendOnePacket_ok h
  rfl

/-- `send_packets` changes no more of the context than its send variables. -/
theorem sendPackets_ccc (h : e.sendPackets = .ok e') : e'.ccc = { e.ccc with snd := e'.ccc.snd } := by
  refine sendPackets_invariant (fun f => f.ccc = { e.ccc with snd := f.ccc.snd }) h rfl fun f f' hf _ hone => ?_
  rw [sendOnePacket_ccc hone, hf]

/-- A segment sent when there is room adds to what is outstanding. -/
theorem sendOnePacket_outstanding (hroom : e.roomToSend = true) (h : e.sendOnePacket false = .ok e') :
    0 < e'.ccc.snd.numOutstanding.toNat := by
  obtain ⟨k, hk, -, hmax, -, -, rfl⟩ := sendOnePacket_ok h
  have hlt := (roomToSend_iff.1 hroom).2
  have hallowed := maxAllowedToSend_le e.ccc
  have hmss : maxDataLength = 1448 := rfl
  have hsum := OutstandingDataContext.numOutstanding_setSndNxt (c := e.ccc.snd) (k := k) (by omega)
  exact lt_of_lt_of_eq (by omega) hsum.symm

theorem sendPacketsLoop_outstanding {fuel : Nat} (hpos : 0 < e.ccc.snd.numOutstanding.toNat)
    (h : sendPacketsLoop fuel e = .ok e') : 0 < e'.ccc.snd.numOutstanding.toNat := by
  induction fuel generalizing e with
  | zero =>
    cases h
    exact hpos
  | succ fuel ih =>
    unfold sendPacketsLoop at h
    split at h
    · rename_i hroom
      obtain ⟨e₁, h₁, h⟩ := bind_eq_ok.1 h
      exact ih (sendOnePacket_outstanding hroom h₁) h
    · cases h
      exact hpos

/-- With something to send and room for it `send_packets` makes something outstanding; else it does nothing. -/
theorem sendPackets_outstanding (h : e.sendPackets = .ok e') :
    if e.roomToSend then 0 < e'.ccc.snd.numOutstanding.toNat else e' = e := by
  have hlength (hroom : e.roomToSend = true) := (roomToSend_iff.1 hroom).1
  unfold sendPackets at h
  generalize e.socket.sendBuffer.length = fuel at h hlength
  cases hroom : e.roomToSend with
  | false =>
    rw [if_neg Bool.false_ne_true]
    cases fuel with
    | zero =>
      cases h
      rfl
    | succ fuel =>
      unfold sendPacketsLoop at h
      rw [hroom, if_neg Bool.false_ne_true] at h
      cases h
      rfl
  | true =>
    rw [if_pos rfl]
    obtain ⟨fuel, rfl⟩ : ∃ k, fuel = k + 1 := ⟨fuel - 1, by have := hlength hroom; omega⟩
    unfold sendPacketsLoop at h
    rw [hroom, if_pos rfl] at h
    obtain ⟨e₁, h₁, h⟩ := bind_eq_ok.1 h
    exact sendPacketsLoop_outstanding (sendOnePacket_outstanding hroom h₁) h

/-- After an acceptable ACK the window is open or is being probed, and unsent bytes are on their way. -/
theorem sendOrProbe_progress (hb : WindowBounds e.ccc) (h : e.sendOrProbe = .ok e') : e'.Progress := by
  unfold sendOrProbe at h
  split at h
  · cases h
    have hsome : e.startProbeTimer.ccc.probeTimer.isSome = true := by
      unfold startProbeTimer
      split
      · rename_i t ht
        rw [ht]
        rfl
      · rfl
    have hccc : e.startProbeTimer.ccc.cwnd = e.ccc.cwnd ∧ e.startProbeTimer.ccc.state = e.ccc.state := by
      unfold startProbeTimer
      split <;> exact ⟨rfl, rfl⟩
    exact ⟨hb.congr hccc.1 hccc.2, .inr (.inl hsome), .inl hsome⟩
  · rename_i hroom
    have hlt : e.ccc.snd.numOutstanding.toNat < e.ccc.maxAllowedToSend := by omega
    have hcancel : e.cancelProbeTimer.ccc = { e.ccc with probeTimer := none } ∧
        e.cancelProbeTimer.socket = e.socket := by
      unfold cancelProbeTimer
      split
      · rename_i ht
        rw [← ht]
        exact ⟨rfl, rfl⟩
      · exact ⟨rfl, rfl⟩
    have hccc := sendPackets_ccc h
    rw [hcancel.1] at hccc
    have hsocket : e'.socket = e.socket := (CongestionChange.sendPackets h).socket.trans hcancel.2
    have hwnd : e'.ccc.sndWnd = e.ccc.sndWnd := by rw [hccc]
    refine ⟨?_, .inr (.inr ?_), ?_⟩
    · rw [hccc]
      exact hb.congr rfl rfl
    · rw [hwnd]
      exact mss_le_of_maxAllowedToSend_pos (by omega)
    · have hout := sendPackets_outstanding h
      split at hout
      · exact .inr (.inl hout)
      · rename_i hnot
        refine .inr (.inr (.inl ?_))
        have hno : ¬0 < e.cancelProbeTimer.numUnsent := by
          intro hunsent
          unfold roomToSend at hnot
          rw [hcancel.1] at hnot
          simp only [Bool.and_eq_true, decide_eq_true_eq, not_and] at hnot
          exact hnot hunsent hlt
        rw [hout]
        omega

/-! ### Handlers -/

/-- The windows, what is outstanding and the send buffer stay as they are. -/
theorem Progress.of_same (hp : e.Progress) (hsnd : e'.ccc.snd = e.ccc.snd)
    (hccc : e'.ccc.probeTimer = e.ccc.probeTimer ∧ e'.ccc.sndWnd = e.ccc.sndWnd ∧ e'.ccc.cwnd = e.ccc.cwnd ∧
      e'.ccc.state = e.ccc.state) (hbuf : e'.socket.sendBuffer = e.socket.sendBuffer)
    (hacc : e'.accepted = e.accepted) (hid : e'.socket.id = e.socket.id) (hq : ∀ v ∈ e.queue, v ∈ e'.queue) :
    e'.Progress := by
  obtain ⟨hprobe, hwnd, hcwnd, hstate⟩ := hccc
  refine ⟨hp.bounds.congr hcwnd hstate, ?_, ?_⟩
  · rw [hprobe, hwnd, hbuf, hacc]
    exact hp.window
  · have hunsent : e'.numUnsent = e.numUnsent := by
      unfold numUnsent
      rw [hsnd, hbuf]
    rw [hprobe, hsnd, hunsent, hid]
    exact hp.driven.imp_right (Or.imp_right (Or.imp_right (hq _)))

theorem Progress.keep (hp : e.Progress) (hccc : e'.ccc = e.ccc) (hbuf : e'.socket.sendBuffer = e.socket.sendBuffer)
    (hacc : e'.accepted = e.accepted) (hid : e'.socket.id = e.socket.id) (hg : Grows e e') : e'.Progress := by
  refine hp.of_same ?_ ?_ hbuf hacc hid fun v hv => hg.mem_queue hv
  · rw [hccc]
  · rw [hccc]
    exact ⟨rfl, rfl, rfl, rfl⟩

theorem Progress.manager (hp : e.Progress) (hm : ManagerChange e e') (hg : Grows e e') : e'.Progress :=
  hp.keep hm.ccc (by rw [hm.socket]) (acceptedBytes_congr hm.transfers) (by rw [hm.socket]) hg

/-- Only a new ACK number takes bytes out of the send buffer. -/
theorem handleAck_sendBuffer {b : Bool}
    (hnew : ¬(p.ack = true ∧ betweenEqualRight e.rc.snd.sndUna p.ackNumber e.rc.snd.sndMax = true))
    (h : e.handleAck p = .ok (b, e')) : e'.socket.sendBuffer = e.socket.sendBuffer := by
  unfold handleAck at h
  split at h
  · cases h
    rfl
  · rename_i hack
    split at h
    · rename_i hright
      exact absurd ⟨by simpa using hack, hright⟩ hnew
    · split at h
      · cases h
        rfl
      · split at h
        · cases h
          unfold handleDuplicateAck
          simp only
          split <;> rfl
        · cases h
          rfl

theorem reliabilityReceivePacket_keeps (h : e.reliabilityReceivePacket p = .ok e') :
    Grows e e' ∧ e'.ccc = e.ccc ∧ e'.socket.id = e.socket.id ∧
      (¬(p.ack = true ∧ betweenEqualRight e.rc.snd.sndUna p.ackNumber e.rc.snd.sndMax = true) →
        e'.socket.sendBuffer = e.socket.sendBuffer) := by
  have hgrows : Grows e (e.updateEchoReply p) := (SendFrame.updateEchoReply e p).grows
  have hsame : (e.updateEchoReply p).rc.snd = e.rc.snd ∧
      (e.updateEchoReply p).socket.sendBuffer = e.socket.sendBuffer := by
    obtain ⟨t, heq⟩ := updateEchoReply_eq e p
    rw [heq]
    exact ⟨rfl, rfl⟩
  obtain ⟨e₁, h₁, hack, h⟩ := reliabilityReceivePacket_ok h
  have hg₁ := hgrows.trans (.handleAck h₁)
  have hbuf : ¬(p.ack = true ∧ betweenEqualRight e.rc.snd.sndUna p.ackNumber e.rc.snd.sndMax = true) →
      e₁.socket.sendBuffer = e.socket.sendBuffer := by
    intro hnew
    rw [← hsame.1] at hnew
    exact (handleAck_sendBuffer hnew h₁).trans hsame.2
  split at h
  · obtain ⟨v, -, rfl⟩ := h
    exact ⟨hg₁.trans (SendFrame.withReceive e₁ v (SendFrame.acceptEvents e₁ p v)).grows, hack.ccc, hack.id, hbuf⟩
  · rw [h]
    exact ⟨hg₁, hack.ccc, hack.id, hbuf⟩

/-- An invalid ACK number acknowledges nothing. -/
theorem not_new_of_invalid (hinv : isValidAckNumber e.rc p = false) :
    ¬(p.ack = true ∧ betweenEqualRight e.rc.snd.sndUna p.ackNumber e.rc.snd.sndMax = true) := by
  rintro ⟨-, hright⟩
  have hvalid : isValidAckNumber e.rc p = true := valid_of_betweenRight hright
  rw [hinv] at hvalid
  cases hvalid

/-- Nor does a duplicate ACK. -/
theorem not_new_of_duplicate (hdup : isDuplicateAck e.rc p = true) :
    ¬(p.ack = true ∧ betweenEqualRight e.rc.snd.sndUna p.ackNumber e.rc.snd.sndMax = true) := by
  rintro ⟨-, hright⟩
  unfold isDuplicateAck betweenEqualLeft at hdup
  unfold betweenEqualRight at hright
  simp only [Bool.and_eq_true] at hdup hright
  rcases lessThanOrEqual_iff.1 hdup.1.2.1 with hlt | heq
  · have := lessThan_asymm hright.1
    rw [hlt] at this
    cases this
  · rw [heq, lessThan_self] at hright
    cases hright.1

/-- Both contexts see a new acknowledgement, so that the window is looked at whenever the send buffer shrinks. -/
theorem Progress.receivePacket (hp : e.Progress)
    (hagree : betweenEqualRight e.rc.snd.sndUna p.ackNumber e.rc.snd.sndMax = true →
      betweenEqual e.ccc.snd.sndUna p.ackNumber e.ccc.snd.sndMax = true)
    (h : e.receivePacket p = .ok e') : e'.Progress := by
  have hsame (hbuf : ¬(p.ack = true ∧ betweenEqualRight e.rc.snd.sndUna p.ackNumber e.rc.snd.sndMax = true))
      {f : Endpoint} (h : e.reliabilityReceivePacket p = .ok f) : f.Progress := by
    obtain ⟨hg, hccc, hid, hkeep⟩ := reliabilityReceivePacket_keeps h
    exact hp.keep hccc (hkeep hbuf) (reliabilityReceivePacket_accepted h).1 hid hg
  have hclose (f : Endpoint) (hf : f.Progress) : f.runSavedClose.Progress := by
    rcases runSavedClose_cases f with ⟨-, heq⟩ | ⟨-, heq⟩ <;> rw [heq]
    · have hc := hf.manager (.close f) (.managerClose f)
      exact ⟨hc.bounds, hc.window, hc.driven⟩
    · exact hf
  have hcase := receivePacket_cases e p
  rw [h] at hcase
  cases hcase with
  | corrupt _ h | ignored _ _ h =>
    cases h
    exact hp
  | answered _ _ h =>
    cases h
    exact hp.keep rfl rfl rfl rfl (.enqueuePacket _ _ (by exact Int.natCast_nonneg _))
  | parked _ _ _ _ _ h =>
    cases h
    exact ⟨hp.bounds, hp.window, hp.driven⟩
  | lingering _ _ _ h =>
    cases h
    exact hp.manager (.receivePacket e p) (.managerReceivePacket e p)
  | skipping _ _ hinv h => exact hsame (not_new_of_invalid hinv) h.symm
  | taken _ _ _ _ h =>
    obtain ⟨e₁, h₁, h⟩ := bind_eq_ok.1 h.symm
    obtain ⟨e₂, h₂, h⟩ := bind_eq_ok.1 h
    cases h
    refine hclose e₂ ?_
    have hman (hp₁ : e₁.Progress) : (e₁.managerReceivePacket p).Progress :=
      hp₁.manager (.receivePacket e₁ p) (.managerReceivePacket e₁ p)
    unfold receiveUnlessDuplicate at h₂
    split at h₂
    · rename_i hdup
      cases h₂
      exact hman (hsame (not_new_of_duplicate hdup) h₁)
    · have hccc : (e₁.managerReceivePacket p).ccc = e.ccc :=
        (ManagerChange.receivePacket e₁ p).ccc.trans (reliabilityReceivePacket_keeps h₁).2.1
      unfold congestionReceivePacket at h₂
      split at h₂
      · obtain ⟨ccc, hack, h₂⟩ := bind_eq_ok.1 h₂
        rw [hccc] at hack
        exact sendOrProbe_progress (hp.bounds.acknowledgeSegment hack) h₂
      · rename_i hnot
        cases h₂
        rw [hccc] at hnot
        refine hman (hsame ?_ h₁)
        rintro ⟨hack, hright⟩
        exact hnot (by rw [hack, hagree hright]; rfl)

/-- The probe timer starts again before it sends. -/
theorem Progress.timerFired (hp : e.Progress) {t : TimeoutEvent} (h : e.timerFired t = .ok e') : e'.Progress := by
  unfold Endpoint.timerFired at h
  have hack := AckChange.timerFired e t
  have hbuf : (e.reliabilityTimerFired t).socket = e.socket := by
    unfold reliabilityTimerFired
    split <;> rfl
  have hp₁ := hp.keep hack.ccc (by rw [hbuf]) (acceptedBytes_congr hack.transfers) hack.id (.reliabilityTimerFired e t)
  have hp₂ := hp₁.manager (.timerFired _ t) (.managerTimerFired _ t)
  unfold congestionTimerFired at h
  split at h
  · have hccc := sendOnePacket_ccc h
    have hsome : e'.ccc.probeTimer.isSome = true := by
      rw [hccc]
      rfl
    refine ⟨?_, .inr (.inl hsome), .inl hsome⟩
    rw [hccc]
    exact hp₂.bounds.congr rfl rfl
  · cases h
    exact hp₂

theorem Progress.saveInBuffer (hp : e.Progress) (s : SendEvent) (n : Nat) : (e.saveInBuffer s n).Progress := by
  refine ⟨hp.bounds, ?_, .inr (.inr (.inr (List.mem_append_right _ List.mem_cons_self)))⟩
  rw [accepted_saveInBuffer]
  refine hp.window.imp_left fun hw => ?_
  simp only [Endpoint.saveInBuffer, enqueue, enqueueFor, dispatch, List.length_append, hw]
  omega

/-! ### Waiting events -/

theorem Progress.pop (hp : e.Progress) {v : ProtocolEvent} {vs : List ProtocolEvent} (hq : e.queue = v :: vs)
    (hv : v.kind ≠ .sendBufferNotEmpty) : ({ e with queue := vs } : Endpoint).Progress := by
  refine ⟨hp.bounds, hp.window, hp.driven.imp_right (Or.imp_right (Or.imp_right fun hmem => ?_))⟩
  rw [hq] at hmem
  rcases List.mem_cons.1 hmem with heq | hmem
  · exact absurd (by rw [← heq]) hv
  · exact hmem

theorem sendPacket_ccc (h : e.sendPacket p = .ok e') : e'.ccc.probeTimer = e.ccc.probeTimer ∧
    e'.ccc.sndWnd = e.ccc.sndWnd ∧ e'.ccc.cwnd = e.ccc.cwnd ∧ e'.ccc.state = e.ccc.state := by
  unfold sendPacket at h
  obtain ⟨⟨q, e₁⟩, h₁, h⟩ := bind_eq_ok.1 h
  cases h
  have hccc := (AckChange.sendPacket h₁).ccc
  simp only [dispatch, congestionSendPacket, hccc]
  exact ⟨trivial, trivial, trivial, trivial⟩

/-- A segment leaves; after a SYN something is outstanding. -/
theorem Progress.sendPacket (hp : e.Progress) (h : e.sendPacket p = .ok e') :
    Wifu.finSent e'.dispatched = true ∨ e'.Progress := by
  obtain ⟨q, hsends⟩ := sendPacket_sends h
  have hfields := sendPacket_ccc h
  have hsnd := hsends.cccSnd
  have hbuf := hsends.sendBuffer
  have hqueue : ∀ v ∈ e.queue, v ∈ e'.queue := by
    rw [hsends.queue]
    exact fun v hv => hv
  unfold congestionSendPacket at hsnd
  simp only at hsnd
  unfold appendControlBytes at hbuf
  by_cases hfin : p.fin = true
  · left
    unfold Wifu.finSent
    rw [hsends.sent, List.any_append]
    simp [hsends.fin, hfin]
  · right
    by_cases hsyn : p.syn = true
    · rw [if_pos hsyn] at hsnd
      have hout : 0 < e'.ccc.snd.numOutstanding.toNat := by
        have hone : e'.ccc.snd.numOutstanding = 1 := by
          unfold OutstandingDataContext.numOutstanding
          rw [hsnd]
          show iss + 1 - iss = 1
          decide
        rw [hone]
        decide
      refine ⟨hp.bounds.congr hfields.2.2.1 hfields.2.2.2, ?_, .inr (.inl hout)⟩
      rw [hfields.1, hfields.2.1, show e'.accepted = e.accepted from hsends.accepted]
      split at hbuf
      · -- an empty send buffer does not hold the SYN's byte
        obtain ⟨_, hempty, hbuf⟩ := bind_eq_ok.1 hbuf
        have hnil := List.isEmpty_iff.1 (check_eq_ok.1 hempty)
        rcases hp.window with hw | hw
        · rw [hnil] at hw
          cases hw
        · exact .inr hw
      · rw [if_neg fun h => hfin h.1] at hbuf
        rw [← Except.ok.inj hbuf]
        exact hp.window
    · rw [if_neg hsyn, if_neg hfin] at hsnd
      rw [if_neg fun h => hsyn h.1, if_neg fun h => hfin h.1] at hbuf
      exact hp.of_same hsnd hfields (Except.ok.inj hbuf).symm hsends.accepted hsends.id hqueue

/-- A retransmission makes something outstanding. -/
theorem Progress.resendPacketEvent (hp : e.Progress) (h : e.resendPacketEvent = .ok e') : e'.Progress := by
  unfold Endpoint.resendPacketEvent congestionResendPacket resendData at h
  obtain ⟨q, hq, h⟩ := bind_eq_ok.1 h
  cases h
  have hlen : 0 < q.sequenceLength.toNat := by
    unfold TCPPacket.sequenceLength
    cases resendPacket_ok hq with
    | syn _ hs => simp [hs.syn]
    | fin _ hf => simp [hf.fin]
    | data _ _ hd _ =>
      rw [hd.syn, hd.fin]
      have hpos := hd.length
      have hlt := q.dataLengthBytes_lt
      rw [if_neg (by decide), BitVec.toNat_ofInt]
      omega
  have hout (a b : BitVec 32) : a + b - a = b := by ring
  refine ⟨(WindowBounds.resend e.ccc).congr rfl rfl, hp.window, .inr (.inl ?_)⟩
  show 0 < (e.ccc.snd.sndUna + q.sequenceLength - e.ccc.snd.sndUna).toNat
  rw [hout]
  exact hlen

/-- The event that sends is gone; what it has not sent waits for an ACK or for the peer's window. -/
theorem Progress.sendPackets (hp : e.Progress) (hb : e.SendBase) (hm : SendMode False e) {v : ProtocolEvent}
    {vs : List ProtocolEvent} (hq : e.queue = v :: vs) (hv : v.kind = .sendBufferNotEmpty)
    (h : ({ e with queue := vs } : Endpoint).sendPackets = .ok e') : e'.Progress := by
  have hccc : e'.ccc = { e.ccc with snd := e'.ccc.snd } := sendPackets_ccc (e := { e with queue := vs }) h
  have hchange := CongestionChange.sendPackets h
  have hsocket : e'.socket = e.socket := hchange.socket
  have hacc : e'.accepted = e.accepted := acceptedBytes_congr hchange.transfers
  have hwindow : e'.socket.sendBuffer.length = e'.accepted.length + 1 ∨ e'.ccc.probeTimer.isSome = true ∨
      mss ≤ e'.ccc.sndWnd.toNat := by
    rw [hccc, hsocket, hacc]
    exact hp.window
  have hbounds : WindowBounds e'.ccc := by
    rw [hccc]
    exact hp.bounds.congr rfl rfl
  refine ⟨hbounds, hwindow, ?_⟩
  have hout := sendPackets_outstanding h
  split at hout
  · exact .inr (.inl hout)
  · rename_i hroom
    subst hout
    by_cases hpos : 0 < e.ccc.snd.numOutstanding.toNat
    · exact .inr (.inl hpos)
    by_cases hunsent : e.numUnsent ≤ 0
    · exact .inr (.inr (.inl hunsent))
    -- unsent bytes and none outstanding: there was no room, so the window is being probed
    left
    have hallowed : e.ccc.maxAllowedToSend = 0 := by
      unfold roomToSend at hroom
      simp only [Bool.and_eq_true, decide_eq_true_eq, not_and] at hroom
      have hno : ¬e.ccc.snd.numOutstanding.toNat < e.ccc.maxAllowedToSend := hroom (by
        show 0 < e.numUnsent
        omega)
      omega
    rcases hp.window with hw | hw | hw
    · exfalso
      cases hm with
      | sending u n m c hm =>
        have hbound := hm.bounds hb
        rw [length_buffer hm] at hw
        have ho := hm.order
        rw [hm.ccc.toNat_numOutstanding (by omega) (by unfold tcpSocketMaxBufferSize at hbound; omega)] at hpos
        omega
      | resending u m c hm =>
        have hquiet := hm.quiet v (by rw [hq]; simp)
        unfold ProtocolEvent.sendsData at hquiet
        rw [hv] at hquiet
        cases hquiet
      | finWaiting hm => exact hunsent (le_of_eq hm.numUnsent)
      | finSent u n c k hm => exact hunsent hm.numUnsent
    · exact hw
    · have := hp.bounds.maxAllowedToSend_pos hw
      omega

/-- A waiting event is handled. -/
theorem Progress.handleProtocolEvent (hp : e.Progress) (hb : e.SendBase) (hm : SendMode False e) {v : ProtocolEvent}
    {vs : List ProtocolEvent} (hq : e.queue = v :: vs)
    (h : { e with queue := vs }.handleProtocolEvent v.kind = .ok e') :
    e'.deleted = true ∨ Wifu.finSent e'.dispatched = true ∨ e'.Progress := by
  have hgrows := Grows.handleProtocolEvent h
  have hkind := (hb.queue v (by rw [hq]; simp)).2
  unfold Endpoint.handleProtocolEvent at h
  split at h
  · rename_i hv
    exact .inr ((hp.pop hq (by rw [hv]; simp)).sendPacket h)
  · rename_i hv
    exact .inr (.inr ((hp.pop hq (by rw [hv]; simp)).resendPacketEvent h))
  · rename_i hv
    exact .inr (.inr (hp.sendPackets hb hm hq hv h))
  · rename_i hv
    have hp' := hp.pop hq (by rw [hv]; simp)
    obtain ⟨-, rfl⟩ | ⟨s, n, -, -, ⟨-, rfl⟩ | ⟨-, rfl⟩⟩ := sendBufferNotFull_ok h
    · exact .inr (.inr hp')
    · have hsave := hp'.saveInBuffer s n
      exact .inr (.inr ⟨hsave.bounds, hsave.window, hsave.driven⟩)
    · exact .inr (.inr hp')
  · rename_i hv
    cases h
    have hframe := SendFrame.receiveBufferNotEmpty { e with queue := vs }
    refine .inr (.inr ((hp.pop hq (by rw [hv]; simp)).keep ?_ hframe.sendBuffer hframe.accepted hframe.id hgrows))
    obtain heq | ⟨r, -, -, heq⟩ := receiveBufferNotEmpty_cases { e with queue := vs }
    · rw [heq]
    · rw [heq]
      exact createAndDispatchReceivedData_ccc _ _
  · rename_i hv
    cases h
    have hframe := SendFrame.receiveBufferNotFull { e with queue := vs }
    refine .inr (.inr ((hp.pop hq (by rw [hv]; simp)).keep ?_ hframe.sendBuffer hframe.accepted hframe.id hgrows))
    obtain ⟨-, heq⟩ | ⟨p, -, -, heq⟩ := receiveBufferNotFull_cases { e with queue := vs } <;> rw [heq]
    rfl
  · rename_i s l r li hv
    exact absurd hv (hkind s l r li)
  · rename_i hv
    cases h
    exact .inr (.inr (hp.pop hq (by rw [hv]; simp)))
  · cases h
    exact .inl rfl

/-! ### Steps and runs -/

/-- Both contexts take the same ACK numbers for new ones while nothing waits. -/
theorem SendMode.agree (hb : e.SendBase) (hm : SendMode False e) (hq : e.queue = []) {k : BitVec 32}
    (h : betweenEqualRight e.rc.snd.sndUna k e.rc.snd.sndMax = true) :
    betweenEqual e.ccc.snd.sndUna k e.ccc.snd.sndMax = true := by
  obtain ⟨u, n, m, c, j, hi⟩ := hm.idle hb hq
  have ho := hi.order
  obtain ⟨a, rfl, hua, ham⟩ := hi.rc.betweenEqualRight (by omega) (by omega) h
  exact hi.ccc.betweenEqual_of_le (by omega) (by omega) (by omega)

theorem Progress.step (hp : e.Progress) (hb : e.SendBase) (hm : SendMode False e) (hen : enabled i e)
    (hstep : step i e = .ok e') : e'.deleted = true ∨ Wifu.finSent e'.dispatched = true ∨ e'.Progress := by
  have hidle (hq : e.queue = []) : e.cmc.state ≠ .closed := by
    intro hc
    have hmem := hb.closed hc
    rw [hq] at hmem
    cases hmem
  cases step_ok hstep with
  | dropped _ h =>
    cases h
    exact .inr (.inr hp)
  | @skipped v vs hq hc h =>
    cases h
    obtain ⟨hsock | ⟨s, hk⟩, -⟩ := hb.queue v (by rw [hq]; simp)
    · simp [contains, hsock, hb.deleted] at hc
    · exact .inr (.inr (hp.pop hq (by rw [hk]; simp)))
  | event hq _ _ h => exact hp.handleProtocolEvent hb hm hq h.symm
  | @packet i p ps hd _ _ h =>
    have hq : e.queue = [] := by
      cases i <;> first | exact hen | cases hd
    have hp' : ({ e with redelivered := ps } : Endpoint).Progress := ⟨hp.bounds, hp.window, hp.driven⟩
    exact .inr (.inr (hp'.receivePacket (fun hnew => hm.agree hb hq hnew) h.symm))
  | listen l _ h =>
    cases h
    rw [managerListen_of_ne (hidle hen)]
    exact .inr (.inr hp)
  | connect c _ h =>
    cases h
    rw [managerConnect_of_ne (hidle hen)]
    exact .inr (.inr hp)
  | send s _ _ h =>
    obtain ⟨n, -, ⟨-, rfl⟩ | ⟨-, rfl⟩⟩ := send_ok h.symm
    · exact .inr (.inr (hp.saveInBuffer s n))
    · exact .inr (.inr ⟨hp.bounds, hp.window, hp.driven⟩)
  | receive r _ _ h =>
    have hframe := SendFrame.receive h.symm
    refine .inr (.inr (hp.keep ?_ hframe.sendBuffer hframe.accepted hframe.id hframe.grows))
    obtain ⟨-, rfl⟩ | ⟨-, -, rfl⟩ := reliabilityReceive_ok h.symm
    · exact createAndDispatchReceivedData_ccc _ _
    · rfl
  | close c _ h =>
    cases h
    have hdispatch (f : Endpoint) (hf : f.Progress) : (f.dispatch (.closeResponse c)).Progress := by
      have hsilent := SendFrame.dispatch f (f := .closeResponse c) (.of_none rfl rfl)
      exact hf.keep rfl rfl hsilent.accepted rfl (.dispatch f _)
    rcases close_cases e c with ⟨-, heq⟩ | ⟨-, heq⟩ <;> rw [heq]
    · exact .inr (.inr (hdispatch _ (hp.manager (.close e) (.managerClose e))))
    · exact .inr (.inr (hdispatch _ ⟨hp.bounds, hp.window, hp.driven⟩))
  | timerFired t _ _ h => exact .inr (.inr (hp.timerFired h.symm))
  | tick now _ h =>
    cases h
    exact .inr (.inr ⟨hp.bounds, hp.window, hp.driven⟩)

theorem WindowBounds.reaches {c c' : TCPTahoeCongestionControlContext} (h : WindowBounds c)
    (hr : TCPTahoeCongestionControlContext.Reaches c c') : WindowBounds c' := by
  obtain ⟨is, hrun⟩ := hr
  refine hrun.invariant WindowBounds h fun c i c' hc _ _ hs => ?_
  cases i with
  | packet p =>
    change (if p.ack && betweenEqual c.snd.sndUna p.ackNumber c.snd.sndMax then Endpoint.acknowledgeSegment c p
      else .ok c) = .ok c' at hs
    split at hs
    · exact hc.acknowledgeSegment hs
    · cases hs
      exact hc
  | resend =>
    cases hs
    exact .resend c
  | sending snd dataSent probeTimer =>
    cases hs
    exact hc.congr rfl rfl

/-- The SYN leaves: it is outstanding, and its byte stands in the send buffer. -/
theorem Unopened.progress (hu : e.Unopened) (hw : WindowBounds e'.ccc) (hstep : Endpoint.step .drain e = .ok e')
    (hdel : e.deleted = false) {q : TCPPacket} {vs : List ProtocolEvent} (hq : e.queue = ⟨e.socket.id, .sendPacket p⟩ :: vs)
    (hp : p.hasContent) (hsends : Sends { e with queue := vs } p q e') :
    e'.SendBase ∧ SendMode False e' ∧ e'.Progress := by
  have hshape : e.cmc.state.isEarly = true ∧ p.IsSyn ∧ vs = [] := by
    rcases hu.queue with ⟨-, hharm⟩ | ⟨hearly, r, hr, hqueue | ⟨s, l, r', li, hqueue⟩⟩
    · have hempty : (⟨e.socket.id, .sendPacket p⟩ : ProtocolEvent).Harmless e.socket.id := hharm _ (by rw [hq]; simp)
      obtain ⟨-, hs, hf, hl⟩ := hempty
      unfold TCPPacket.hasContent at hp
      simp [hs, hf, hl] at hp
    · rw [hq] at hqueue
      cases hqueue
      exact ⟨hearly, hr, rfl⟩
    · rw [hq] at hqueue
      cases hqueue
  obtain ⟨hearly, hsyn, rfl⟩ := hshape
  have hinv : SendInv False e' :=
    PreSyn.drain ⟨hu.toUnsent, .inr ⟨hearly, p, hsyn, .inl hq⟩⟩ hu.timers hdel hstep
  have hsnd := hsends.cccSnd
  simp only [congestionSendPacket, hsyn.syn, if_true] at hsnd
  have hbuf : e'.socket.sendBuffer = [synByte] := by
    have hbuf := hsends.sendBuffer
    simp only [appendControlBytes, hu.sendBuffer, hsyn.syn] at hbuf
    exact (Except.ok.inj hbuf).symm
  have hacc : e'.accepted = [] := hsends.accepted.trans hu.accepted
  have hout : 0 < e'.ccc.snd.numOutstanding.toNat := by
    have hone : e'.ccc.snd.numOutstanding = 1 := by
      unfold OutstandingDataContext.numOutstanding
      rw [hsnd]
      show iss + 1 - iss = 1
      decide
    rw [hone]
    decide
  have hprogress : e'.Progress := by
    refine ⟨hw, .inl ?_, .inr (.inl hout)⟩
    rw [hbuf, hacc]
    rfl
  cases hinv with
  | deleted h _ =>
    rw [hsends.deleted, hdel] at h
    cases h
  | preSyn h _ _ =>
    have hinit := h.initialized
    rw [hsends.initialized] at hinit
    cases hinit
  | sent hb hm => exact ⟨hb, hm, hprogress⟩

/-- What holds at every moment. -/
structure StallInv (e : Endpoint) : Prop where
  armed : ArmedInv e
  plain : e.PlainData
  sending : e.deleted = true ∨ (e.Unopened ∧ WindowBounds e.ccc) ∨
    (e.SendBase ∧ SendMode False e ∧ (Wifu.finSent e.dispatched = true ∨ e.Progress))

/-- The SYN leaves first, and the application's data has none of the in-band bytes. -/
def stallCondition (e : Endpoint) (i : Input) : Prop := opensWithContent e i ∧ sendsPlain i

instance (e : Endpoint) (i : Input) : Decidable (stallCondition e i) := inferInstanceAs (Decidable (_ ∧ _))

theorem finSent_step (hf : Wifu.finSent e.dispatched = true) (hstep : step i e = .ok e') :
    Wifu.finSent e'.dispatched = true := by
  unfold Wifu.finSent at hf ⊢
  cases step_sendStep hstep with
  | same _ h | acked _ _ _ _ _ _ _ h | rewound _ _ _ _ h => rw [h, hf]
  | sent _ _ _ h => rw [h.sent, List.any_append, show (sentPackets e.dispatched).any TCPPacket.fin = true from hf, Bool.true_or]

/-- A step before anything has been sent. -/
theorem Unopened.stallStep (hu : e.Unopened) (hw : WindowBounds e.ccc) (hen : enabled i e) (hc : opensWithContent e i)
    (hstep : Endpoint.step i e = .ok e') : e'.deleted = true ∨ (e'.Unopened ∧ WindowBounds e'.ccc) ∨
      (e'.SendBase ∧ SendMode False e' ∧ (Wifu.finSent e'.dispatched = true ∨ e'.Progress)) := by
  have hbounded : resendsBounded e i := by
    rintro rfl v hv r hk
    exfalso
    have hmem : v ∈ e.queue := List.mem_of_mem_head? hv
    rcases hu.queue with ⟨-, hharm⟩ | ⟨-, p, -, hq | ⟨s, l, r', li, hq⟩⟩
    · have hh := hharm v hmem
      unfold ProtocolEvent.Harmless at hh
      rw [hk] at hh
      exact hh
    · rw [hq] at hv
      cases hv
      cases hk
    · rw [hq] at hv
      cases hv
      cases hk
  have hw' := hw.reaches (step_reaches hbounded hstep)
  rcases hu.step hen hstep with h | hinit | h
  · exact .inl h
  · by_cases hdel : e.deleted = true
    · exact .inl (step_deleted hdel hstep)
    cases step_sendStep hstep with
    | @sent p q vs hi hdel hq hsends =>
      subst hi
      exact .inr (.inr (by
        obtain ⟨hb, hm, hp⟩ := hu.progress hw' hstep hdel hq (hc rfl hu.initialized _ (by rw [hq]; rfl) rfl p rfl) hsends
        exact ⟨hb, hm, .inr hp⟩))
    | same hv _ =>
      have hsame : e'.rc.initialized = e.rc.initialized := congrArg SendView.initialized hv
      rw [hsame, hu.initialized] at hinit
      cases hinit
    | acked _ _ _ _ h _ _ _ | rewound _ h _ _ _ =>
      rw [h, hu.initialized] at hinit
      cases hinit
  · exact .inr (.inl ⟨h, hw'⟩)

theorem StallInv.step (h : StallInv e) (hen : enabled i e) (hc : stallCondition e i) (hstep : step i e = .ok e') :
    StallInv e' := by
  have hplain := h.plain.step hc.2 hstep
  rcases h.sending with hdel | ⟨hu, hw⟩ | ⟨hb, hm, hp⟩
  · have hdel' := step_deleted hdel hstep
    exact ⟨.deleted hdel', hplain, .inl hdel'⟩
  · refine ⟨h.armed.step hen ⟨hc.1, ?_⟩ hstep, hplain, hu.stallStep hw hen hc.1 hstep⟩
    intro _ hinit
    rw [hu.initialized] at hinit
    cases hinit
  · refine ⟨h.armed.step hen ⟨hc.1, hm.staysBehind hb⟩ hstep, hplain, ?_⟩
    have hsend : sendCondition False e i := by
      refine ⟨fun p _ hinit => ?_, fun _ => h.plain.resendCondition hm⟩
      rw [hb.initialized] at hinit
      cases hinit
    have hp' : e'.deleted = true ∨ Wifu.finSent e'.dispatched = true ∨ e'.Progress := by
      rcases hp with hf | hp
      · exact .inr (.inl (finSent_step hf hstep))
      · exact hp.step hb hm hen hstep
    cases SendInv.step (.sent hb hm) hen hsend hstep with
    | deleted hdel _ => exact .inl hdel
    | preSyn hpre _ _ =>
      have hinit : e'.rc.initialized = true := by
        cases step_sendStep hstep with
        | same hv _ => exact (congrArg SendView.initialized hv).trans hb.initialized
        | sent _ _ _ hsends => exact hsends.initialized
        | acked _ _ _ _ h _ _ _ | rewound _ h _ _ _ => exact h.trans hb.initialized
      rw [hpre.initialized] at hinit
      cases hinit
    | sent hb' hm' =>
      rcases hp' with hdel | hp'
      · exact .inl hdel
      · exact .inr (.inr ⟨hb', hm', hp'⟩)

theorem create_stallInv (id : SocketId) (l r : AddressPort) : StallInv (create id l r) := by
  refine ⟨.unopened (.create id l r) rfl, ⟨?_, ?_⟩, .inr (.inl ⟨.create id l r, ?_, ?_, ?_⟩)⟩
  · intro b hb
    cases hb
  · intro s hs
    cases hs
  · show mss ≤ initialCwnd
    decide
  · show initialCwnd ≤ mss * mss + mss
    decide
  · intro _
    show initialCwnd ≤ 65535
    decide

/-- The peer's window has no room for a whole segment. -/
def closedWindowScript : List Input :=
  [.connect ⟨1, serverAddress, clientAddress.address⟩, .drain,
    .packet { segment 5 2 [] with syn := true, receiveWindowSize := 100 }, .drain, .drain, .send ⟨2, [1, 2]⟩, .drain]

/-- A listening socket answers a stray ACK, so that its SYN is its second segment. -/
def strayScript : List Input :=
  [.listen ⟨1, 5⟩, .packet (segment 7 5 []), .drain, .packet { segment 100 0 [] with syn := true, ack := false },
    .drain, .drain, .packet (segment 101 3 []), .drain, .drain, .send ⟨2, [1, 2]⟩, .drain]

end

end Endpoint

end Wifu
