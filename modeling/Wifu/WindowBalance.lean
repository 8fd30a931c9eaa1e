import Wifu.ReceiveAssertions
import Wifu.Settled
import Mathlib.Data.Set.Card

/-!
# The balance of the receive window along runs

From the handshake on, the receive window, the bytes held out of order and the bytes the application has not read add
up to the biggest window in every state, and each update of `rcv_wnd` is the one of the integers: it takes away the
bytes that `insert` found new and gives back the bytes handed to the application.
-/

namespace Wifu

/-! ### The numbers held -/

/-- A packet covers the numbers of its bytes. -/
theorem TCPPacket.covers_iff_exists {p : TCPPacket} {n : BitVec 32} (hp : 0 < p.dataLengthBytes) :
    p.covers n = true ↔ ∃ k : Nat, (k : Int) < p.dataLengthBytes ∧ n = p.sequenceNumber + BitVec.ofNat 32 k := by
  obtain ⟨len, hlen⟩ := Int.eq_ofNat_of_zero_le (Int.le_of_lt hp)
  have hlt := p.dataLengthBytes_lt
  have hdist : Serial.dist p.sequenceNumber (p.sequenceNumber + BitVec.ofInt 32 p.dataLengthBytes) = len := by
    rw [hlen, BitVec.ofInt_natCast]
    exact Serial.dist_add_ofNat _ (by omega)
  unfold covers
  rw [betweenEqualLeft_iff (by omega), hdist]
  constructor
  · intro h
    exact ⟨Serial.dist p.sequenceNumber n, by omega, (Serial.add_dist _ _).symm⟩
  · rintro ⟨k, hk, rfl⟩
    rw [Serial.dist_add_ofNat _ (by omega)]
    omega

namespace TCPPacketBuffer

/-- The sequence numbers of the bytes held. -/
def heldNumbers (b : TCPPacketBuffer) : Set (BitVec 32) := {n | ∃ q ∈ b.buffer, q.covers n = true}

/-- The count of a window in order is the number of sequence numbers held. -/
theorem Held.windowSize_eq {b : TCPPacketBuffer} (h : b.Held) : b.windowSize = b.heldNumbers.ncard := by
  obtain ⟨hord, hahead⟩ := h
  generalize hn : b.firstExpectedSequenceNumber = n at hord hahead
  have himage : b.heldNumbers = (fun x : Int => n + BitVec.ofInt 32 x) ''
      (Intervals.cover 0 (b.buffer.map (TCPPacket.interval n)) : Set Int) := by
    ext m
    simp only [heldNumbers, Set.mem_ofPred_eq, Set.mem_image, Finset.mem_coe, Intervals.mem_cover, List.mem_map,
      exists_exists_and_eq_and, TCPPacket.interval]
    constructor
    · rintro ⟨q, hq, hm⟩
      obtain ⟨k, hk, rfl⟩ := (TCPPacket.covers_iff_exists (hord.data q hq)).1 hm
      have := hahead q hq
      refine ⟨q.offset n + k, ⟨by omega, q, hq, by omega, by omega⟩, ?_⟩
      rw [← add_ofInt_add_ofInt, ← q.sequenceNumber_eq n, BitVec.ofInt_natCast]
    · rintro ⟨x, ⟨-, q, hq, h1, h2⟩, rfl⟩
      obtain ⟨k, hk⟩ := Int.eq_ofNat_of_zero_le (show 0 ≤ x - q.offset n by omega)
      refine ⟨q, hq, (TCPPacket.covers_iff_exists (hord.data q hq)).2 ⟨k, by omega, ?_⟩⟩
      have hx : x = q.offset n + k := by omega
      rw [hx, ← add_ofInt_add_ofInt, ← q.sequenceNumber_eq n, BitVec.ofInt_natCast]
  have hinj : Set.InjOn (fun x : Int => n + BitVec.ofInt 32 x)
      (Intervals.cover 0 (b.buffer.map (TCPPacket.interval n)) : Set Int) := by
    have hbound (x : Int) (hx : x ∈ Intervals.cover 0 (b.buffer.map (TCPPacket.interval n))) :
        0 ≤ x ∧ x < 1073807360 := by
      simp only [Intervals.mem_cover, List.mem_map, exists_exists_and_eq_and, TCPPacket.interval] at hx
      obtain ⟨h0, q, hq, -, h2⟩ := hx
      have := (hord.near q hq).2
      have := q.dataLengthBytes_lt
      omega
    intro x hx y hy hxy
    have hx := hbound x hx
    have hy := hbound y hy
    exact (add_ofInt_inj (by omega) (by omega)).1 hxy
  unfold windowSize
  rw [hn, hord.sizeLoop_eq, himage, Set.InjOn.ncard_image hinj, Set.ncard_coe_finset]

end TCPPacketBuffer

/-! ### The balance -/

namespace ReceiveView

/-- Everything that is not in the window is held or unread, and the index does not exceed the receive buffer. -/
structure Balanced (v : ReceiveView) : Prop where
  counted : v.receiveWindow.Counted
  total : v.total = maxTcpReceiveWindowSize
  receiveIndex : v.receiveIndex ≤ v.receiveBuffer.length

section

variable {v v' : ReceiveView} {p : TCPPacket}

theorem Balanced.bounded (hb : v.Balanced) : v.Bounded := ⟨hb.counted, Int.le_of_eq hb.total⟩

theorem DataStep.balanced {l : List UInt8} (h : DataStep v l v') (hb : v.Balanced) : v'.Balanced := by
  have ht := hb.total
  have hi := hb.receiveIndex
  have hlen : v'.receiveBuffer.length = v.receiveBuffer.length + l.length := by
    rw [h.receiveBuffer, List.length_append]
  have hindex := h.receiveIndex
  have hbalance := h.balance
  refine ⟨h.counted, ?_, by omega⟩
  rw [← ht]
  unfold ReceiveView.total unread
  omega

theorem Balanced.receive (hb : v.Balanced) (hsyn : synKeepsWindow v p) (h : v.receive p = .ok v') :
    v'.Balanced := by
  unfold ReceiveView.receive at h
  split at h
  · cases h
    obtain ⟨hc, hs⟩ := controlBits_window hb.counted hsyn
    refine ⟨hc, ?_, hb.receiveIndex⟩
    rw [← hb.total]
    unfold ReceiveView.total
    rw [hs]
    rfl
  · split at h
    · rename_i hp
      obtain ⟨l, hl⟩ := data_ok hb.counted hp h
      exact hl.balanced hb
    · cases h
      exact hb

theorem Balanced.read {n : Nat} (hb : v.Balanced) (hn : n ≤ v.unread) : (v.read n).Balanced := by
  have h₁ := read_rcvWnd hn hb.counted.nonneg hb.bounded.total_le
  have h₂ := read_unread hn
  have h₃ : (v.read n).receiveWindow.windowSize = v.receiveWindow.windowSize := rfl
  refine ⟨hb.counted, ?_, ?_⟩
  · rw [← hb.total]
    unfold ReceiveView.total
    omega
  · unfold ReceiveView.read
    simp only
    split
    · exact Nat.zero_le _
    · omega

/-- Nothing is lost when a socket without received bytes is exchanged. -/
theorem Balanced.moved (hb : v.Balanced) (hempty : v.receiveBuffer = []) : v.moved.Balanced := by
  have heq : v.moved = v := by
    unfold ReceiveView.moved
    rw [← hempty]
  rw [heq]
  exact hb

/-- The bytes of a packet that `insert` finds new. -/
def numInserted (v : ReceiveView) (p : TCPPacket) : Int :=
  match v.receiveWindow.insert p with
  | .ok (n, _) => n
  | .error _ => 0

/-- Accepted data makes `rcv_wnd` smaller by the bytes found new. -/
theorem data_rcvWnd (hc : v.receiveWindow.Counted) (hp : 0 < p.dataLengthBytes) (h : v.data p = .ok v') :
    0 ≤ v.numInserted p ∧ (v'.rcvWnd.toNat : Int) = v.rcvWnd.toNat - v.numInserted p := by
  unfold data at h
  obtain ⟨⟨n, w⟩, h₁, h⟩ := bind_eq_ok.1 h
  obtain ⟨_, h₂, h⟩ := bind_eq_ok.1 h
  obtain ⟨⟨l, w'⟩, -, h⟩ := bind_eq_ok.1 h
  cases h
  have h₂ : n ≤ v.rcvWnd.toNat := by simpa using check_eq_ok.1 h₂
  have hn := (hc.insert hp h₁).2.1
  have hnum : v.numInserted p = n := by
    unfold numInserted
    rw [h₁]
  have hlt := v.rcvWnd.isLt
  refine ⟨by omega, ?_⟩
  rw [hnum]
  simp only [BitVec.toNat_ofInt]
  omega

end

end ReceiveView

namespace Endpoint

/-! ### What is handed to the application -/

/-- The receiving side, and the bytes handed to the application. -/
def receiveTrace (e : Endpoint) : ReceiveView × List UInt8 := (e.receiveView, handedBytes e.dispatched)

section

variable {e e' : Endpoint} {p : TCPPacket}

theorem ManagerChange.receiveTrace (h : ManagerChange e e') : e'.receiveTrace = e.receiveTrace :=
  Prod.ext h.receiveView (handedBytes_congr h.transfers)

theorem CongestionChange.receiveTrace (h : CongestionChange e e') : e'.receiveTrace = e.receiveTrace :=
  Prod.ext h.receiveView (handedBytes_congr h.transfers)

theorem AckChange.receiveTrace (h : AckChange e e') : e'.receiveTrace = e.receiveTrace :=
  Prod.ext h.receiveView (handedBytes_congr h.transfers)

/-- Receiving a packet hands nothing to the application. -/
theorem receivePacket_handed (h : e.receivePacket p = .ok e') :
    handedBytes e'.dispatched = handedBytes e.dispatched := by
  have hreliability {e₁ : Endpoint} (h : e.reliabilityReceivePacket p = .ok e₁) :
      handedBytes e₁.dispatched = handedBytes e.dispatched := by
    obtain ⟨e₂, -, hack, h⟩ := reliabilityReceivePacket_ok h
    rw [← handedBytes_congr hack.transfers]
    split at h
    · obtain ⟨v, -, rfl⟩ := h
      rfl
    · rw [h]
  have hcase := receivePacket_cases e p
  rw [h] at hcase
  cases hcase with
  | corrupt _ h =>
    cases h
    rfl
  | skipping _ _ _ h => exact hreliability h.symm
  | lingering _ _ _ h =>
    cases h
    exact handedBytes_congr (ManagerChange.receivePacket e p).transfers
  | answered _ _ h =>
    cases h
    rfl
  | ignored _ _ h =>
    cases h
    rfl
  | parked _ _ _ _ _ h =>
    cases h
    rfl
  | taken _ _ _ _ h =>
    obtain ⟨e₁, h₁, h⟩ := bind_eq_ok.1 h.symm
    obtain ⟨e₂, h₂, h⟩ := bind_eq_ok.1 h
    cases h
    have hmanager := handedBytes_congr (ManagerChange.receivePacket e₁ p).transfers
    have hcongestion := handedBytes_congr (CongestionChange.receiveUnlessDuplicate h₂).transfers
    have hclose := handedBytes_congr (ManagerChange.runSavedClose e₂).transfers
    exact hclose.trans (hcongestion.trans (hmanager.trans (hreliability h₁)))

/-- The application reads the next `n` bytes. -/
def Reads (e : Endpoint) (n : Nat) (e' : Endpoint) : Prop :=
  n ≤ e.receiveView.unread ∧ e'.receiveTrace = (e.receiveView.read n,
    handedBytes e.dispatched ++ (e.socket.receiveBuffer.drop e.rc.receiveIndex).take n)

theorem createAndDispatchReceivedData_reads (e : Endpoint) (r : ReceiveEvent) :
    e.Reads (e.readLength r) (e.createAndDispatchReceivedData r) := by
  refine ⟨Nat.min_le_left _ _, Prod.ext (createAndDispatchReceivedData_receiveView e r) ?_⟩
  have hack (c : Prop) [Decidable c] (e : Endpoint) :
      (if c then e.createAndDispatchAck else e).dispatched = e.dispatched := by
    split <;> rfl
  unfold createAndDispatchReceivedData
  simp only [Endpoint.receiveTrace, enqueue, enqueueFor, dispatch, hack, handedBytes_append]
  congr 1
  exact List.append_nil _

theorem receive_reads {r : ReceiveEvent} (h : e.reliabilityReceive r = .ok e') :
    e'.receiveTrace = e.receiveTrace ∨ ∃ n, e.Reads n e' := by
  obtain ⟨-, rfl⟩ | ⟨-, -, rfl⟩ := reliabilityReceive_ok h
  · exact .inr ⟨_, createAndDispatchReceivedData_reads e r⟩
  · exact .inl rfl

theorem saveInBuffer_receiveTrace (s : SendEvent) (n : Nat) : (e.saveInBuffer s n).receiveTrace = e.receiveTrace := by
  refine Prod.ext rfl ?_
  simp [receiveTrace, saveInBuffer, enqueue, enqueueFor, dispatch, handedBytes, FrameworkEvent.handed]

theorem send_receiveTrace {s : SendEvent} (h : e.send s = .ok e') : e'.receiveTrace = e.receiveTrace := by
  obtain ⟨n, -, ⟨-, rfl⟩ | ⟨-, rfl⟩⟩ := send_ok h
  · exact saveInBuffer_receiveTrace s n
  · rfl

/-- What a protocol event does to the receiving side and to what is handed over. -/
theorem handleProtocolEvent_receiveTrace {k : ProtocolEventKind} (h : e.handleProtocolEvent k = .ok e') :
    e'.receiveTrace = e.receiveTrace ∨ (∃ n, e.Reads n e') ∨ ((∃ s l r li, k = .connectionInitiated s l r li) ∧
      e'.receiveTrace = (e.receiveView.moved, handedBytes e.dispatched)) := by
  unfold handleProtocolEvent at h
  split at h
  · rename_i p
    unfold sendPacket at h
    obtain ⟨⟨p', e₁⟩, h₁, h⟩ := bind_eq_ok.1 h
    cases h
    have hack := AckChange.sendPacket h₁
    have hhanded : handedBytes (e₁.dispatched ++ [.networkSendPacket p']) = handedBytes e₁.dispatched := by
      simp [handedBytes, FrameworkEvent.handed]
    exact .inl (Prod.ext hack.receiveView (hhanded.trans (handedBytes_congr hack.transfers)))
  · exact .inl (CongestionChange.resendPacket h).receiveTrace
  · exact .inl (CongestionChange.sendPackets h).receiveTrace
  · obtain ⟨-, rfl⟩ | ⟨_, n, -, -, ⟨-, rfl⟩ | ⟨-, rfl⟩⟩ := sendBufferNotFull_ok h
    · exact .inl rfl
    · exact .inl (saveInBuffer_receiveTrace _ n)
    · exact .inl rfl
  · cases h
    obtain heq | ⟨r, -, -, heq⟩ := receiveBufferNotEmpty_cases e <;> rw [heq]
    · exact .inl rfl
    · exact .inr (.inl ⟨_, createAndDispatchReceivedData_reads e _⟩)
  · cases h
    obtain ⟨-, heq⟩ | ⟨p, -, -, heq⟩ := receiveBufferNotFull_cases e <;> rw [heq]
    · exact .inl rfl
    · refine .inl (Prod.ext rfl ?_)
      simp [receiveTrace, dispatch, handedBytes, FrameworkEvent.handed]
  · cases h
    exact .inr (.inr ⟨⟨_, _, _, _, rfl⟩, rfl⟩)
  · cases h
    exact .inl rfl
  · cases h
    exact .inl rfl

theorem close_receiveTrace (e : Endpoint) (c : CloseEvent) : (e.close c).receiveTrace = e.receiveTrace := by
  have hdispatch (e : Endpoint) : (e.dispatch (.closeResponse c)).receiveTrace = e.receiveTrace := by
    refine Prod.ext rfl ?_
    simp [receiveTrace, dispatch, handedBytes, FrameworkEvent.handed]
  unfold close
  simp only [hdispatch]
  split
  · exact (ManagerChange.close e).receiveTrace
  · rfl

theorem connect_receiveTrace (e : Endpoint) (c : ConnectEvent) : (e.managerConnect c).receiveTrace = e.receiveTrace := by
  obtain heq | ⟨s, ⟨-, -, hreceive⟩, -, heq⟩ := managerConnect_cases e c
  · rw [heq]
  · rw [heq, receiveTrace, receiveView, hreceive]
    rfl

theorem timerFired_receiveTrace {t : TimeoutEvent} (h : e.timerFired t = .ok e') :
    e'.receiveTrace = e.receiveTrace := by
  unfold timerFired at h
  rw [(CongestionChange.timerFired h).receiveTrace, (ManagerChange.timerFired _ t).receiveTrace,
    (AckChange.timerFired e t).receiveTrace]

/-- What a step does to the receiving side and hands to the application. -/
inductive TraceStep (e : Endpoint) (i : Input) (e' : Endpoint) : Prop
  | same (hd : ∀ p ∈ e.delivered i, e.accepts p = false) (h : e'.receiveTrace = e.receiveTrace)
  | accept (p : TCPPacket) (hp : e.delivered i = some p) (ha : e.accepts p = true)
      (h : e.receiveView.receive p = .ok e'.receiveView)
      (hh : handedBytes e'.dispatched = handedBytes e.dispatched)
  | read (n : Nat) (hd : e.delivered i = none) (h : e.Reads n e')
  | moved (hd : e.delivered i = none)
      (hq : ∃ s l r li, e.queue.head? = some ⟨e.socket.id, .connectionInitiated s l r li⟩)
      (h : e'.receiveTrace = (e.receiveView.moved, handedBytes e.dispatched))

theorem TraceStep.unchanged {i : Input} (hd : e.delivered i = none) (h : e'.receiveTrace = e.receiveTrace) :
    TraceStep e i e' :=
  .same (fun p hp => by rw [hd] at hp; cases hp) h

theorem step_traceStep {i : Input} (hstep : step i e = .ok e') : TraceStep e i e' := by
  cases step_ok hstep with
  | dropped hd h =>
    cases h
    exact .unchanged hd rfl
  | skipped _ _ h =>
    cases h
    exact .unchanged rfl rfl
  | @event v vs hq hs _ h =>
    rcases handleProtocolEvent_receiveTrace h.symm with h | ⟨n, h⟩ | ⟨⟨s, l, r, li, hk⟩, h⟩
    · exact .unchanged rfl h
    · exact .read n rfl h
    · refine .moved rfl ⟨s, l, r, li, ?_⟩ h
      rw [hq, List.head?_cons, ← hs, ← hk]
  | @packet _ p ps hd _ _ h =>
    have hhanded : handedBytes e'.dispatched = handedBytes e.dispatched :=
      receivePacket_handed (e := { e with redelivered := ps }) h.symm
    cases step_receiveView hstep with
    | same hnone h => exact .same hnone (Prod.ext h hhanded)
    | accept q hq ha h => exact .accept q hq ha h hhanded
    | read _ hnone _ _ => rw [hd] at hnone; cases hnone
    | moved hnone _ _ => rw [hd] at hnone; cases hnone
  | listen l _ h =>
    cases h
    exact .unchanged rfl (ManagerChange.listen e l).receiveTrace
  | connect c _ h =>
    cases h
    exact .unchanged rfl (connect_receiveTrace e c)
  | send s _ _ h => exact .unchanged rfl (send_receiveTrace h.symm)
  | receive r _ _ h =>
    rcases receive_reads h.symm with h | ⟨n, h⟩
    · exact .unchanged rfl h
    · exact .read n rfl h
  | close c _ h =>
    cases h
    exact .unchanged rfl (close_receiveTrace e c)
  | timerFired t _ _ h => exact .unchanged rfl (timerFired_receiveTrace h.symm)
  | tick _ _ h =>
    cases h
    exact .unchanged rfl rfl

/-! ### Where a connection is initiated -/

theorem setState_queue (e : Endpoint) (s : ConnectionManagerState) : (e.setState s).queue = e.queue := by
  have hexit : e.stateExit.queue = e.queue := by
    unfold stateExit
    split <;> rfl
  have henter (e : Endpoint) : e.stateEnter.queue = e.queue := by
    unfold stateEnter
    split
    · rfl
    · split <;> rfl
    · rfl
  unfold setState
  rw [henter]
  exact hexit

theorem SendFrame.initiations (h : SendFrame e e') : Wifu.initiations e'.queue = Wifu.initiations e.queue := by
  obtain ⟨q, hq, hharm, -⟩ := h.queue
  rw [hq, initiations_append, initiations_harmless hharm, List.append_nil]

theorem managerClose_initiations (e : Endpoint) : Wifu.initiations e.managerClose.queue = Wifu.initiations e.queue := by
  rcases managerClose_cases e with ⟨s, -, heq⟩ | hlisten | heq
  · rw [heq]
    exact initiations_append_other rfl
  · unfold managerClose
    rw [hlisten]
    simp only
    rw [setState_queue]
    exact initiations_append_other rfl
  · rw [heq]

theorem runSavedClose_initiations (e : Endpoint) : Wifu.initiations e.runSavedClose.queue = Wifu.initiations e.queue := by
  rcases runSavedClose_cases e with ⟨-, heq⟩ | ⟨-, heq⟩
  · rw [heq]
    exact managerClose_initiations e
  · rw [heq]

/-- Only the listening state initiates a connection, on a SYN. -/
theorem managerReceivePacket_initiations (e : Endpoint) (p : TCPPacket) :
    Wifu.initiations (e.managerReceivePacket p).queue = Wifu.initiations e.queue ∨
      e.cmc.state = .listen ∧ p.syn = true := by
  by_cases hlisten : e.cmc.state = .listen
  · by_cases hsyn : p.syn = true
    · exact .inr ⟨hlisten, hsyn⟩
    · refine .inl ?_
      simp [managerReceivePacket, hlisten, hsyn]
  · exact .inl (SendFrame.managerReceivePacket e p hlisten).initiations

theorem reliabilityReceivePacket_initiations (h : e.reliabilityReceivePacket p = .ok e') :
    Wifu.initiations e'.queue = Wifu.initiations e.queue := by
  obtain ⟨e₁, -, hack, h⟩ := reliabilityReceivePacket_ok h
  rw [← hack.initiations]
  split at h
  · obtain ⟨v, -, rfl⟩ := h
    exact (SendFrame.withReceive e₁ v (SendFrame.acceptEvents e₁ p v)).initiations
  · rw [h]

/-- A packet that initiates a connection is an accepted SYN. -/
theorem receivePacket_initiations (h : e.receivePacket p = .ok e') :
    Wifu.initiations e'.queue = Wifu.initiations e.queue ∨ e.accepts p = true ∧ p.syn = true := by
  have hcase := receivePacket_cases e p
  rw [h] at hcase
  cases hcase with
  | corrupt _ h =>
    cases h
    exact .inl rfl
  | skipping _ _ _ h => exact .inl (reliabilityReceivePacket_initiations h.symm)
  | lingering _ _ hstate h =>
    cases h
    refine .inl (SendFrame.managerReceivePacket e p ?_).initiations
    rw [hstate]
    simp
  | answered _ _ h =>
    cases h
    exact .inl (initiations_append_other rfl)
  | ignored _ _ h =>
    cases h
    exact .inl rfl
  | parked _ _ _ _ _ h =>
    cases h
    exact .inl rfl
  | taken hsum hack hseq hfin h =>
    obtain ⟨e₁, h₁, h⟩ := bind_eq_ok.1 h.symm
    obtain ⟨e₂, h₂, h⟩ := bind_eq_ok.1 h
    cases h
    by_cases hsyn : p.syn = true
    · exact .inr ⟨accepts_taken hsum hack hseq hfin, hsyn⟩
    · have hclose := runSavedClose_initiations e₂
      have hcongestion := (CongestionChange.receiveUnlessDuplicate h₂).initiations
      rcases managerReceivePacket_initiations e₁ p with hmanager | ⟨-, hmanager⟩
      · exact .inl (hclose.trans (hcongestion.trans (hmanager.trans (reliabilityReceivePacket_initiations h₁))))
      · exact absurd hmanager hsyn

/-- A connection is initiated by an accepted SYN only. -/
theorem step_initiations {i : Input} (hstep : step i e = .ok e') (hnew : Wifu.initiations e'.queue ≠ []) :
    Wifu.initiations e.queue ≠ [] ∨ ∃ p, e.delivered i = some p ∧ e.accepts p = true ∧ p.syn = true := by
  have hsame (h : Wifu.initiations e'.queue = Wifu.initiations e.queue) : Wifu.initiations e.queue ≠ [] ∨
      ∃ p, e.delivered i = some p ∧ e.accepts p = true ∧ p.syn = true := .inl (h ▸ hnew)
  have hrest {v : ProtocolEvent} {vs : List ProtocolEvent} (hq : e.queue = v :: vs) (h : Wifu.initiations vs ≠ []) :
      Wifu.initiations e.queue ≠ [] := by
    intro hnil
    rw [hq] at hnil
    refine h ?_
    unfold Wifu.initiations at hnil ⊢
    rw [List.filter_eq_nil_iff] at hnil ⊢
    exact fun w hw => hnil w (List.mem_cons_of_mem v hw)
  cases step_ok hstep with
  | dropped _ h =>
    cases h
    exact hsame rfl
  | skipped hq _ h =>
    cases h
    exact .inl (hrest hq hnew)
  | @event v vs hq _ _ h =>
    by_cases hk : ∃ s l r li, v.kind = .connectionInitiated s l r li
    · obtain ⟨s, l, r, li, hk⟩ := hk
      have hv : v.isInitiation = true := by
        unfold ProtocolEvent.isInitiation
        rw [hk]
      refine .inl ?_
      rw [hq]
      simp [Wifu.initiations, hv]
    · have hk' : ∀ s l r li, v.kind ≠ .connectionInitiated s l r li := fun s l r li he => hk ⟨s, l, r, li, he⟩
      obtain ⟨-, -, hsame, -⟩ := handleProtocolEvent_same hk' h.symm
      rw [hsame] at hnew
      exact .inl (hrest hq hnew)
  | @packet _ p ps hd _ _ h =>
    rcases receivePacket_initiations (e := { e with redelivered := ps }) h.symm with h | ⟨ha, hsyn⟩
    · exact hsame h
    · exact .inr ⟨p, hd, ha, hsyn⟩
  | listen l _ h =>
    cases h
    refine hsame ?_
    unfold managerListen
    split
    · rw [setState_queue]
    · rfl
  | connect c _ h =>
    cases h
    refine hsame ?_
    obtain heq | ⟨_, -, -, heq⟩ := managerConnect_cases e c
    · rw [heq]
    · rw [heq]
      exact initiations_append_other rfl
  | send s _ _ h =>
    refine hsame ?_
    obtain ⟨n, -, ⟨-, rfl⟩ | ⟨-, rfl⟩⟩ := send_ok h.symm
    · exact initiations_append_other rfl
    · rfl
  | receive r _ _ h => exact hsame (SendFrame.receive h.symm).initiations
  | close c _ h =>
    cases h
    refine hsame ?_
    rcases close_cases e c with ⟨-, heq⟩ | ⟨-, heq⟩ <;> rw [heq]
    · exact managerClose_initiations e
    · rfl
  | timerFired t _ _ h =>
    refine hsame ?_
    have hc := CongestionChange.timerFired h.symm
    rw [hc.initiations, (SendFrame.managerTimerFired _ t).initiations, (AckChange.timerFired e t).initiations]
  | tick _ _ h =>
    cases h
    exact hsame rfl

end

/-! ### Runs -/

/-- An accepted SYN comes before any data. -/
def synBeforeData (e : Endpoint) (i : Input) : Prop :=
  ∀ p ∈ e.delivered i, e.accepts p = true → p.syn = true →
    e.rc.receiveWindow.buffer = [] ∧ e.socket.receiveBuffer = []

instance (e : Endpoint) (i : Input) : Decidable (synBeforeData e i) :=
  inferInstanceAs (Decidable (∀ p ∈ e.delivered i, _))

/-- The receiving side is balanced, and a connection that waits for its socket has received nothing. -/
structure WindowBalance (e : Endpoint) : Prop where
  balanced : e.receiveView.Balanced
  initiations : Wifu.initiations e.queue ≠ [] → e.socket.receiveBuffer = []

/-- The new bytes that a step puts in the window. -/
def numInserted (e : Endpoint) (i : Input) : Int :=
  match e.delivered i with
  | some p => if e.accepts p && ReceiveView.isData p then e.receiveView.numInserted p else 0
  | none => 0

/-- The number of bytes handed to the application so far. -/
def numHanded (e : Endpoint) : Nat := (handedBytes e.dispatched).length

/-- The update of `rcv_wnd` is that of the integers. -/
structure UpdatesExactly (e : Endpoint) (i : Input) (e' : Endpoint) : Prop where
  inserted : 0 ≤ e.numInserted i ∧ e.numInserted i ≤ e.rc.rcvWnd.toNat
  handed : e.numHanded ≤ e'.numHanded
  updated : (e'.rc.rcvWnd.toNat : Int) = e.rc.rcvWnd.toNat - e.numInserted i + (e'.numHanded - e.numHanded)

section

variable {e e' : Endpoint} {i : Input}

theorem WindowBalance.create (id : SocketId) (l r : AddressPort) : (create id l r).WindowBalance := by
  have hb := create_bounded id l r
  refine ⟨⟨hb.counted, ?_, Nat.le_refl 0⟩, fun _ => rfl⟩
  rw [receiveView_create]
  simp [ReceiveView.total, ReceiveView.unread, TCPPacketBuffer.windowSize, TCPPacketBuffer.sizeLoop,
    maxTcpReceiveWindowSize]

theorem synBeforeData.keeps (h : synBeforeData e i) {p : TCPPacket} (hp : e.delivered i = some p)
    (ha : e.accepts p = true) : e.receiveView.synKeepsWindow p := fun hsyn => .inl (h p hp ha hsyn).1

/-- A step keeps the balance. -/
theorem WindowBalance.step (hw : e.WindowBalance) (hen : enabled i e) (hsyn : synBeforeData e i)
    (hstep : step i e = .ok e') : e'.WindowBalance := by
  have hidle {p : TCPPacket} (hp : e.delivered i = some p) : e.queue = [] := by
    cases i with
    | packet q => exact hen
    | redeliver => exact hen
    | _ => cases hp
  have hwait := step_initiations hstep
  cases step_traceStep hstep with
  | same hd h =>
    have hview : e'.receiveView = e.receiveView := congrArg Prod.fst h
    refine ⟨hview ▸ hw.balanced, fun hnew => ?_⟩
    have hbuffer : e'.socket.receiveBuffer = e.socket.receiveBuffer := congrArg ReceiveView.receiveBuffer hview
    rw [hbuffer]
    rcases hwait hnew with hold | ⟨p, hp, ha, -⟩
    · exact hw.initiations hold
    · rw [hd p hp] at ha
      cases ha
  | accept p hp ha h _ =>
    refine ⟨hw.balanced.receive (hsyn.keeps hp ha) h, fun hnew => ?_⟩
    rcases hwait hnew with hold | ⟨q, hq, -, hqsyn⟩
    · rw [hidle hp] at hold
      exact absurd rfl hold
    · -- a SYN leaves the receive buffer alone
      rw [hp] at hq
      cases hq
      unfold ReceiveView.receive at h
      rw [if_pos (by simp [hqsyn])] at h
      have hview := Except.ok.inj h
      have hbuffer : e'.socket.receiveBuffer = e.socket.receiveBuffer :=
        (congrArg ReceiveView.receiveBuffer hview).symm
      rw [hbuffer]
      exact (hsyn p hp ha hqsyn).2
  | read n hd h =>
    obtain ⟨hn, h⟩ := h
    have hview : e'.receiveView = e.receiveView.read n := congrArg Prod.fst h
    refine ⟨hview ▸ hw.balanced.read hn, fun hnew => ?_⟩
    have hbuffer : e'.socket.receiveBuffer = (e.receiveView.read n).receiveBuffer :=
      congrArg ReceiveView.receiveBuffer hview
    have hempty : e.socket.receiveBuffer = [] := by
      rcases hwait hnew with hold | ⟨p, hp, -⟩
      · exact hw.initiations hold
      · rw [hd] at hp
        cases hp
    rw [hbuffer]
    unfold ReceiveView.read
    simp only
    split
    · rfl
    · exact hempty
  | moved _ hq h =>
    have hview : e'.receiveView = e.receiveView.moved := congrArg Prod.fst h
    have hempty : e.socket.receiveBuffer = [] := by
      obtain ⟨s, l, r, li, hq⟩ := hq
      refine hw.initiations fun hnil => ?_
      unfold Wifu.initiations at hnil
      rw [List.filter_eq_nil_iff] at hnil
      exact hnil _ (List.mem_of_mem_head? hq) rfl
    refine ⟨hview ▸ hw.balanced.moved hempty, fun _ => ?_⟩
    exact congrArg ReceiveView.receiveBuffer hview

theorem numInserted_none (hd : e.delivered i = none) : e.numInserted i = 0 := by
  unfold numInserted
  rw [hd]

/-- A step updates `rcv_wnd` as integers are updated. -/
theorem WindowBalance.updates (hw : e.WindowBalance) (hstep : Endpoint.step i e = .ok e') : e.UpdatesExactly i e' := by
  have hzero (h0 : e.numInserted i = 0) (hrcv : e'.rc.rcvWnd = e.rc.rcvWnd)
      (hh : handedBytes e'.dispatched = handedBytes e.dispatched) : e.UpdatesExactly i e' := by
    have hhanded : e'.numHanded = e.numHanded := congrArg List.length hh
    refine ⟨by omega, Nat.le_of_eq hhanded.symm, ?_⟩
    rw [hrcv]
    omega
  cases step_traceStep hstep with
  | same hd h =>
    have hview : e'.receiveView = e.receiveView := congrArg Prod.fst h
    refine hzero ?_ (congrArg ReceiveView.rcvWnd hview) (congrArg Prod.snd h)
    unfold numInserted
    split
    · rename_i p hp
      rw [hd p hp]
      rfl
    · rfl
  | accept p hp ha h hh =>
    have hnum : e.numInserted i = if ReceiveView.isData p then e.receiveView.numInserted p else 0 := by
      unfold numInserted
      rw [hp]
      simp only [ha, Bool.true_and]
    unfold ReceiveView.receive at h
    split at h
    · rename_i hc
      refine hzero ?_ (congrArg ReceiveView.rcvWnd (Except.ok.inj h)).symm hh
      rw [hnum, if_neg]
      simp [ReceiveView.isData, hc]
    · rename_i hc
      split at h
      · rename_i hd
        have hhanded : e'.numHanded = e.numHanded := congrArg List.length hh
        obtain ⟨hn, hrcv⟩ := ReceiveView.data_rcvWnd hw.balanced.counted hd h
        rw [if_pos (ReceiveView.isData_iff.2 ⟨hc, hd⟩)] at hnum
        have hrcv : (e'.rc.rcvWnd.toNat : Int) = e.rc.rcvWnd.toNat - e.receiveView.numInserted p := hrcv
        refine ⟨by omega, Nat.le_of_eq hhanded.symm, by omega⟩
      · rename_i hd
        refine hzero ?_ (congrArg ReceiveView.rcvWnd (Except.ok.inj h)).symm hh
        rw [hnum, if_neg]
        simp [ReceiveView.isData, hd]
  | read n hd h =>
    obtain ⟨hn, h⟩ := h
    have hview : e'.receiveView = e.receiveView.read n := congrArg Prod.fst h
    have hrcv : e'.rc.rcvWnd.toNat = e.rc.rcvWnd.toNat + n := by
      have hread := ReceiveView.read_rcvWnd hn hw.balanced.counted.nonneg hw.balanced.bounded.total_le
      rw [← hview] at hread
      exact hread
    have hhanded : e'.numHanded = e.numHanded + n := by
      have hlen := congrArg (fun t => t.2.length) h
      simp only [List.length_append, List.length_take, List.length_drop] at hlen
      have hn : n ≤ e.socket.receiveBuffer.length - e.rc.receiveIndex := hn
      rw [Nat.min_eq_left hn] at hlen
      exact hlen
    have h0 := numInserted_none hd
    refine ⟨by omega, by omega, by omega⟩
  | moved hd _ h =>
    have hview : e'.receiveView = e.receiveView.moved := congrArg Prod.fst h
    exact hzero (numInserted_none hd) (congrArg ReceiveView.rcvWnd hview) (congrArg Prod.snd h)

end

theorem run_windowBalance {id : SocketId} {l r : AddressPort} {is : List Input} {e : Endpoint}
    (hrun : machine.Run synBeforeData (create id l r) is e) : e.WindowBalance :=
  hrun.invariant WindowBalance (.create id l r) fun _ _ _ hw hen hsyn hstep => hw.step hen hsyn hstep

/-- In every state of a run whose SYNs come before data: the receive window, the bytes held out of order and the
unread bytes add up to the biggest window, the index lies in the receive buffer, and no step's update of `rcv_wnd`
wraps.  The count of the bytes held is the number of distinct sequence numbers held, as long as the run keeps the
window in order. -/
theorem receive_window_conserved {id : SocketId} {l r : AddressPort} {is : List Input} {e : Endpoint}
    (hrun : machine.Run synBeforeData (create id l r) is e) :
    (e.rc.rcvWnd.toNat + e.rc.receiveWindow.windowSize + (e.socket.receiveBuffer.length - e.rc.receiveIndex) : Int) =
        maxTcpReceiveWindowSize ∧
      e.rc.receiveIndex ≤ e.socket.receiveBuffer.length ∧
      (∀ i e', step i e = .ok e' → e.UpdatesExactly i e') ∧
      (machine.Run keepsOrder (create id l r) is e →
        e.rc.receiveWindow.windowSize = e.rc.receiveWindow.heldNumbers.ncard) := by
  have hw := run_windowBalance hrun
  have hindex : e.rc.receiveIndex ≤ e.socket.receiveBuffer.length := hw.balanced.receiveIndex
  refine ⟨?_, hindex, fun i e' hstep => hw.updates hstep, fun horder => (run_held horder).2.windowSize_eq⟩
  have htotal : (e.rc.rcvWnd.toNat + e.rc.receiveWindow.windowSize +
      (e.socket.receiveBuffer.length - e.rc.receiveIndex : Nat) : Int) = maxTcpReceiveWindowSize := hw.balanced.total
  omega

/-- Data with a gap before it, data that fills a part of the gap, and the application reads one byte. -/
def gapScript : List Input :=
  connectScript 100 ++ [.packet (segment 105 2 [5, 6]), .drain, .packet (segment 101 2 [1, 2, 3]), .drain, .drain,
    .receive ⟨7, 1⟩, .drain, .packet (segment 105 2 [5, 6, 7]), .drain]

/-- Three bytes are held and two unread, in a run that reads in parts. -/
theorem receive_window_conserved_gap : ∃ e, machine.Run synBeforeData client gapScript e ∧
    (e.rc.rcvWnd.toNat = 65530 ∧ e.rc.receiveWindow.windowSize = 3 ∧ e.socket.receiveBuffer = [1, 2, 3] ∧
      e.rc.receiveIndex = 1) ∧
    (e.rc.rcvWnd.toNat + e.rc.receiveWindow.windowSize + (e.socket.receiveBuffer.length - e.rc.receiveIndex) : Int) =
      maxTcpReceiveWindowSize ∧ (e.rc.receiveWindow.heldNumbers.ncard : Int) = 3 := by
  have h : (machine.replay (fun e i => synBeforeData e i ∧ keepsOrder e i) gapScript client).any (fun e =>
      decide (e.rc.rcvWnd.toNat = 65530 ∧ e.rc.receiveWindow.windowSize = 3 ∧ e.socket.receiveBuffer = [1, 2, 3] ∧
        e.rc.receiveIndex = 1)) = true := by decide +kernel
  obtain ⟨e, hrun, hq⟩ := Transition.Machine.exists_run h
  have hq := of_decide_eq_true hq
  have hsyn : machine.Run synBeforeData client gapScript e := hrun.mono fun _ _ h => h.1
  obtain ⟨htotal, -, -, hheld⟩ := receive_window_conserved hsyn
  have hnumbers := hheld (hrun.mono fun _ _ h => h.2)
  exact ⟨e, hsyn, hq, htotal, hnumbers.symm.trans hq.2.1⟩

end Endpoint

end Wifu
