import Wifu.Frame

/-!
# What a step does to the receiving side

The receiving side of an endpoint is the part that the peer's sequence numbers govern: `rcv_nxt`, `rcv_wnd`, the
out-of-order window and the receive buffer.  A step leaves it as it is, hands it an accepted packet, lets the
application read from it, or moves it to the new socket (`step_receiveView`).
-/

namespace Wifu

/-- The receiving side of an endpoint. -/
structure ReceiveView where
  rcvNxt : BitVec 32
  rcvWnd : BitVec 16
  receiveWindow : TCPPacketBuffer
  receiveIndex : Nat
  receiveBuffer : List UInt8

namespace ReceiveView

/-- `handle_control_bits` on the receiving side. -/
def controlBits (v : ReceiveView) (p : TCPPacket) : ReceiveView :=
  { v with
    rcvNxt := p.sequenceNumber + 1
    receiveWindow :=
      if p.syn then v.receiveWindow.setFirstSequenceNumber (p.sequenceNumber + 1) else v.receiveWindow }

/-- `handle_data` on the receiving side. -/
def data (v : ReceiveView) (p : TCPPacket) : Except Abort ReceiveView := do
  let (numInserted, window) ← v.receiveWindow.insert p
  check (numInserted ≤ v.rcvWnd.toNat) .windowOverflow
  let (appended, window) ← window.getContinuousData v.rcvNxt
  .ok { v with
    rcvWnd := BitVec.ofInt 16 (v.rcvWnd.toNat - numInserted)
    rcvNxt := v.rcvNxt + BitVec.ofNat 32 appended.length
    receiveWindow := window
    receiveBuffer := v.receiveBuffer ++ appended }

/-- `handle_control_bits_and_data` on the receiving side. -/
def receive (v : ReceiveView) (p : TCPPacket) : Except Abort ReceiveView :=
  if p.syn || p.fin then .ok (v.controlBits p) else if 0 < p.dataLengthBytes then v.data p else .ok v

/-- The bytes of the receive buffer that the application has not read. -/
def unread (v : ReceiveView) : Nat := v.receiveBuffer.length - v.receiveIndex

/-- `create_and_dispatch_received_data` on the receiving side, for `n` bytes. -/
def read (v : ReceiveView) (n : Nat) : ReceiveView :=
  let cleared := v.receiveIndex + n ≥ v.receiveBuffer.length
  { v with
    rcvWnd := v.rcvWnd + BitVec.ofNat 16 n
    receiveIndex := if cleared then 0 else v.receiveIndex + n
    receiveBuffer := if cleared then [] else v.receiveBuffer }

/-- The receiving side on a new socket. -/
def moved (v : ReceiveView) : ReceiveView := { v with receiveBuffer := [] }

/-- Receiving stops at assertions of the receiving side only. -/
theorem receive_error {v : ReceiveView} {p : TCPPacket} {a : Abort} (h : v.receive p = .error a) :
    a.receiveSide = true := by
  unfold receive at h
  split at h
  · cases h
  split at h
  · unfold data at h
    rcases bind_eq_error.1 h with h | ⟨⟨n, w⟩, -, h⟩
    · unfold TCPPacketBuffer.insert at h
      rcases bind_eq_error.1 h with h | ⟨_, -, h⟩
      · rw [← (check_eq_error.1 h).2]
        rfl
      · simp only at h
        rcases bind_eq_error.1 h with h | ⟨_, -, h⟩
        · rw [← (check_eq_error.1 h).2]
          rfl
        · split at h <;> cases h
    rcases bind_eq_error.1 h with h | ⟨_, -, h⟩
    · rw [← (check_eq_error.1 h).2]
      rfl
    rcases bind_eq_error.1 h with h | ⟨⟨l, w'⟩, -, h⟩
    · unfold TCPPacketBuffer.getContinuousData at h
      rcases bind_eq_error.1 h with h | ⟨_, -, h⟩
      · rw [← (check_eq_error.1 h).2]
        rfl
      · split at h
        · cases h
        · rcases bind_eq_error.1 h with h | ⟨_, -, h⟩
          · rw [← (check_eq_error.1 h).2]
            rfl
          · cases h
    · cases h
  · cases h

end ReceiveView

namespace Endpoint

def receiveView (e : Endpoint) : ReceiveView :=
  ⟨e.rc.rcvNxt, e.rc.rcvWnd, e.rc.receiveWindow, e.rc.receiveIndex, e.socket.receiveBuffer⟩

/-! ### Accepted packets -/

/-- The ACK number is neither acceptable nor beyond `snd_max`; such a packet skips the sequence check. -/
def staleAck (rc : TCPTahoeReliabilityContext) (p : TCPPacket) : Bool :=
  p.ack && !isValidAckNumber rc p && !lessThan rc.snd.sndMax p.ackNumber

/-- The packet reaches `handle_control_bits_and_data`. -/
def accepts (e : Endpoint) (p : TCPPacket) : Bool :=
  p.validChecksum &&
    if p.ack && !isValidAckNumber e.rc p then !lessThan e.rc.snd.sndMax p.ackNumber
    else isValidSequenceNumber e.rc p && !(p.fin && decide (e.rc.rcvWnd.toNat < maxTcpReceiveWindowSize))

/-- The bytes that a step hands to the application. -/
def readLength (e : Endpoint) (r : ReceiveEvent) : Nat := min e.receiveView.unread r.dataLength

/-! ### Handlers that leave the receiving side as it is -/

section

variable {e e' : Endpoint}

theorem ManagerChange.receiveView (h : ManagerChange e e') : e'.receiveView = e.receiveView := by
  unfold Endpoint.receiveView
  rw [h.rc, h.socket]

theorem CongestionChange.receiveView (h : CongestionChange e e') : e'.receiveView = e.receiveView := by
  unfold Endpoint.receiveView
  rw [h.rc, h.socket]

theorem AckChange.receiveView (h : AckChange e e') : e'.receiveView = e.receiveView := by
  unfold Endpoint.receiveView
  rw [h.rcvNxt, h.rcvWnd, h.receiveWindow, h.receiveIndex, h.receiveBuffer]

end

/-! ### Receiving a packet -/

/-- The endpoint with another receiving side. -/
def withReceive (e : Endpoint) (v : ReceiveView) : Endpoint :=
  { e with
    rc := { e.rc with
      rcvNxt := v.rcvNxt
      rcvWnd := v.rcvWnd
      receiveWindow := v.receiveWindow
      receiveIndex := v.receiveIndex }
    socket := { e.socket with receiveBuffer := v.receiveBuffer } }

@[simp] theorem receiveView_withReceive (e : Endpoint) (v : ReceiveView) : (e.withReceive v).receiveView = v := rfl

/-- What receiving data puts in the queue: the receive buffer has grown, and an ACK. -/
def dataEvents (e : Endpoint) (grown : Bool) : List ProtocolEvent :=
  (if grown then [⟨e.socket.id, .receiveBufferNotEmpty⟩] else []) ++ [⟨e.socket.id, .sendPacket e.emptyPacket⟩]

section

variable {e e' : Endpoint} {p : TCPPacket} {a : Abort}

/-- `handle_data` on an endpoint is `handle_data` on its receiving side. -/
theorem handleData_ok (h : e.handleData p = .ok e') :
    ∃ v, e.receiveView.data p = .ok v ∧ e' = { e.withReceive v with
      queue := e.queue ++ e.dataEvents (decide (e.socket.receiveBuffer.length < v.receiveBuffer.length)) } := by
  unfold handleData at h
  obtain ⟨⟨n, w⟩, h₁, h⟩ := bind_eq_ok.1 h
  obtain ⟨_, h₂, h⟩ := bind_eq_ok.1 h
  obtain ⟨⟨l, w'⟩, h₃, h⟩ := bind_eq_ok.1 h
  cases h
  refine ⟨_, bind_eq_ok.2 ⟨_, h₁, bind_eq_ok.2 ⟨_, h₂, bind_eq_ok.2 ⟨_, h₃, rfl⟩⟩⟩, ?_⟩
  have hlen : e.socket.receiveBuffer.length < (e.socket.receiveBuffer ++ l).length ↔ 0 < l.length := by
    rw [List.length_append]
    omega
  simp only [receiveView, hlen]
  split
  · rename_i hl
    rw [decide_eq_true hl]
    simp [withReceive, dataEvents, createAndDispatchAck, enqueue, enqueueFor, emptyPacket]
  · rename_i hl
    rw [decide_eq_false hl]
    simp [withReceive, dataEvents, createAndDispatchAck, enqueue, enqueueFor, emptyPacket]

theorem handleData_error (h : e.handleData p = .error a) : e.receiveView.data p = .error a := by
  unfold handleData at h
  unfold ReceiveView.data
  rcases bind_eq_error.1 h with h | ⟨⟨n, w⟩, h₁, h⟩
  · exact bind_eq_error.2 (.inl h)
  refine bind_eq_error.2 (.inr ⟨_, h₁, ?_⟩)
  rcases bind_eq_error.1 h with h | ⟨_, h₂, h⟩
  · exact bind_eq_error.2 (.inl h)
  refine bind_eq_error.2 (.inr ⟨_, h₂, ?_⟩)
  rcases bind_eq_error.1 h with h | ⟨⟨l, w'⟩, h₃, h⟩
  · exact bind_eq_error.2 (.inl h)
  cases h

/-- What accepting a packet puts in the queue. -/
def acceptEvents (e : Endpoint) (p : TCPPacket) (v : ReceiveView) : List ProtocolEvent :=
  if p.syn || p.fin then []
  else if 0 < p.dataLengthBytes then
    e.dataEvents (decide (e.socket.receiveBuffer.length < v.receiveBuffer.length))
  else []

theorem handleControlBitsAndData_ok (h : e.handleControlBitsAndData p = .ok e') :
    ∃ v, e.receiveView.receive p = .ok v ∧
      e' = { e.withReceive v with queue := e.queue ++ e.acceptEvents p v } := by
  unfold handleControlBitsAndData at h
  unfold ReceiveView.receive acceptEvents
  split
  · rename_i hc
    rw [if_pos hc] at h
    cases h
    exact ⟨_, rfl, by simp [handleControlBits, withReceive, ReceiveView.controlBits, receiveView]⟩
  · rename_i hc
    rw [if_neg hc] at h
    split
    · rename_i hd
      rw [if_pos hd] at h
      exact handleData_ok h
    · rename_i hd
      rw [if_neg hd] at h
      cases h
      exact ⟨_, rfl, by simp [withReceive, receiveView]⟩

theorem handleControlBitsAndData_error (h : e.handleControlBitsAndData p = .error a) :
    e.receiveView.receive p = .error a := by
  unfold handleControlBitsAndData at h
  unfold ReceiveView.receive
  split
  · rename_i hc
    rw [if_pos hc] at h
    cases h
  · rename_i hc
    rw [if_neg hc] at h
    split
    · rename_i hd
      rw [if_pos hd] at h
      exact handleData_error h
    · rename_i hd
      rw [if_neg hd] at h
      cases h

/-- `handle_ack` lets the packet pass unless its number is beyond `snd_max`. -/
theorem handleAck_passes {b : Bool} (h : e.handleAck p = .ok (b, e')) :
    b = (!p.ack || betweenEqualRight e.rc.snd.sndUna p.ackNumber e.rc.snd.sndMax ||
      !lessThan e.rc.snd.sndMax p.ackNumber) := by
  unfold handleAck at h
  split at h
  · rename_i hack
    cases h
    simp [hack]
  · split at h
    · rename_i hr
      obtain ⟨_, -, h⟩ := bind_eq_ok.1 h
      cases h
      simp [hr]
    · rename_i hack hr
      split at h
      · rename_i hl
        cases h
        simp_all
      · rename_i hl
        have : b = true := by
          split at h <;> (cases h; rfl)
        simp_all

theorem handleAck_error (h : e.handleAck p = .error a) : a = .nullTimestamp := by
  have hvalid (h : e.handleValidAck p = .error a) : a = .nullTimestamp := by
    unfold handleValidAck at h
    rcases bind_eq_error.1 h with h | ⟨_, -, h⟩
    · exact (check_eq_error.1 h).2.symm
    · split at h
      · cases h
      · split at h <;> cases h
  unfold handleAck at h
  split at h
  · cases h
  · split at h
    · rcases bind_eq_error.1 h with h | ⟨_, -, h⟩
      · exact hvalid h
      · cases h
    · split at h
      · cases h
      · split at h <;> cases h

/-- The packet passes `handle_ack`. -/
def passesAck (rc : TCPTahoeReliabilityContext) (p : TCPPacket) : Bool :=
  !p.ack || betweenEqualRight rc.snd.sndUna p.ackNumber rc.snd.sndMax || !lessThan rc.snd.sndMax p.ackNumber

/-- `state_receive_packet`: the acknowledgement, then the control bits and data of a packet that passes it. -/
theorem reliabilityReceivePacket_ok (h : e.reliabilityReceivePacket p = .ok e') :
    ∃ e₁, (e.updateEchoReply p).handleAck p = .ok (passesAck e.rc p, e₁) ∧ AckChange e e₁ ∧
      if passesAck e.rc p then ∃ v, e.receiveView.receive p = .ok v ∧
        e' = { e₁.withReceive v with queue := e₁.queue ++ e₁.acceptEvents p v }
      else e' = e₁ := by
  unfold reliabilityReceivePacket at h
  obtain ⟨⟨b, e₁⟩, h₁, h⟩ := bind_eq_ok.1 h
  have hb : b = passesAck e.rc p := by
    have hsnd : (e.updateEchoReply p).rc.snd = e.rc.snd := by
      obtain ⟨t, heq⟩ := updateEchoReply_eq e p
      rw [heq]
    rw [handleAck_passes h₁, hsnd]
    rfl
  subst hb
  have hack := (AckChange.updateEchoReply e p).trans (AckChange.handleAck h₁)
  refine ⟨e₁, h₁, hack, ?_⟩
  simp only at h
  split
  · rename_i hp
    rw [if_pos hp] at h
    rw [← hack.receiveView]
    exact handleControlBitsAndData_ok h
  · rename_i hp
    rw [if_neg hp] at h
    cases h
    rfl

theorem reliabilityReceivePacket_receiveView (h : e.reliabilityReceivePacket p = .ok e') :
    if passesAck e.rc p then e.receiveView.receive p = .ok e'.receiveView
    else e'.receiveView = e.receiveView := by
  obtain ⟨e₁, -, hack, h⟩ := reliabilityReceivePacket_ok h
  split
  · rename_i hp
    rw [if_pos hp] at h
    obtain ⟨v, hv, rfl⟩ := h
    exact hv
  · rename_i hp
    rw [if_neg hp] at h
    rw [h]
    exact hack.receiveView

theorem reliabilityReceivePacket_error (h : e.reliabilityReceivePacket p = .error a) (ha : a.receiveSide = true) :
    passesAck e.rc p = true ∧ e.receiveView.receive p = .error a := by
  unfold reliabilityReceivePacket at h
  rcases bind_eq_error.1 h with h | ⟨⟨b, e₁⟩, h₁, h⟩
  · rw [handleAck_error h] at ha
    cases ha
  · have hack := (AckChange.updateEchoReply e p).trans (AckChange.handleAck h₁)
    have hb := handleAck_passes h₁
    have hsnd : (e.updateEchoReply p).rc.snd = e.rc.snd := by
      obtain ⟨t, heq⟩ := updateEchoReply_eq e p
      rw [heq]
    rw [hsnd] at hb
    simp only at h
    split at h
    · rename_i hp
      rw [← hack.receiveView]
      exact ⟨hb.symm.trans hp, handleControlBitsAndData_error h⟩
    · cases h

theorem valid_of_betweenRight {l n r : BitVec 32} (h : betweenEqualRight l n r = true) :
    betweenEqual l n r = true := by
  unfold betweenEqualRight at h
  unfold betweenEqual
  rw [Bool.and_eq_true] at h ⊢
  exact ⟨lessThanOrEqual_iff.2 (.inl h.1), h.2⟩

theorem not_beyond_of_valid {l n r : BitVec 32} (h : betweenEqual l n r = true) : lessThan r n = false := by
  unfold betweenEqual at h
  rw [Bool.and_eq_true] at h
  rcases lessThanOrEqual_iff.1 h.2 with h | rfl
  · exact lessThan_asymm h
  · exact lessThan_self n

/-- A packet with an acceptable ACK number passes `handle_ack`. -/
theorem passesAck_of_valid (rc : TCPTahoeReliabilityContext) (h : (p.ack && !isValidAckNumber rc p) = false) :
    passesAck rc p = true := by
  unfold passesAck
  cases hack : p.ack with
  | false => simp
  | true =>
    have hv : isValidAckNumber rc p = true := by simpa [hack] using h
    rw [not_beyond_of_valid hv]
    simp

theorem passesAck_of_invalid (rc : TCPTahoeReliabilityContext) (h : (p.ack && !isValidAckNumber rc p) = true) :
    passesAck rc p = !lessThan rc.snd.sndMax p.ackNumber := by
  obtain ⟨hack, hv⟩ := Bool.and_eq_true _ _ ▸ h
  have hr : betweenEqualRight rc.snd.sndUna p.ackNumber rc.snd.sndMax = false := by
    rw [← Bool.not_eq_true]
    intro hr
    have := valid_of_betweenRight hr
    unfold isValidAckNumber at hv
    simp [this] at hv
  unfold passesAck
  simp [hack, hr]

theorem runSavedClose_receiveView (e : Endpoint) : e.runSavedClose.receiveView = e.receiveView :=
  (ManagerChange.runSavedClose e).receiveView

/-- A packet that takes part in `taken` is accepted. -/
theorem accepts_taken (hsum : p.validChecksum = true) (hack : (p.ack && !isValidAckNumber e.rc p) = false)
    (hseq : isValidSequenceNumber e.rc p = true)
    (hfin : p.fin = true → maxTcpReceiveWindowSize ≤ e.rc.rcvWnd.toNat) : e.accepts p = true := by
  have hnot : (p.fin && decide (e.rc.rcvWnd.toNat < maxTcpReceiveWindowSize)) = false := by
    cases hf : p.fin with
    | false => rfl
    | true =>
      have := hfin hf
      simp only [Bool.true_and, decide_eq_false_iff_not]
      omega
  unfold accepts
  rw [hsum, hack, hseq, hnot]
  rfl

/-- A packet that skips the sequence check is accepted when its ACK number is not beyond `snd_max`. -/
theorem accepts_skipping (hsum : p.validChecksum = true) (hack : p.ack = true)
    (hinv : isValidAckNumber e.rc p = false) : e.accepts p = passesAck e.rc p := by
  rw [passesAck_of_invalid e.rc (by rw [hack, hinv]; rfl)]
  unfold accepts
  rw [hsum, hack, hinv]
  rfl

theorem accepts_invalid (hack : (p.ack && !isValidAckNumber e.rc p) = false)
    (hseq : isValidSequenceNumber e.rc p = false) : e.accepts p = false := by
  unfold accepts
  rw [hack, hseq]
  simp

theorem accepts_parked (hack : (p.ack && !isValidAckNumber e.rc p) = false) (hfin : p.fin = true)
    (hwnd : e.rc.rcvWnd.toNat < maxTcpReceiveWindowSize) : e.accepts p = false := by
  unfold accepts
  rw [hack, hfin, decide_eq_true hwnd]
  simp

/-- What follows the reliability state leaves the receiving side as it is. -/
theorem taken_receiveView {e₁ e₂ : Endpoint} {dup : Bool}
    (h : (e₁.managerReceivePacket p).receiveUnlessDuplicate p dup = .ok e₂) :
    e₂.runSavedClose.receiveView = e₁.receiveView := by
  have hm := (ManagerChange.receivePacket e₁ p).receiveView
  rw [runSavedClose_receiveView]
  obtain ⟨-, rfl⟩ | ⟨-, h⟩ := receiveUnlessDuplicate_ok h
  · exact hm
  · rw [(CongestionChange.receivePacket h).receiveView, hm]

/-- A packet changes the receiving side when it is accepted, and only by `handle_control_bits_and_data`. -/
theorem receivePacket_receiveView (h : e.receivePacket p = .ok e') :
    if e.accepts p then e.receiveView.receive p = .ok e'.receiveView else e'.receiveView = e.receiveView := by
  have hcase := receivePacket_cases e p
  rw [h] at hcase
  cases hcase with
  | corrupt hsum h =>
    cases h
    simp [accepts, hsum]
  | skipping hsum hack hinv h =>
    rw [accepts_skipping hsum hack hinv]
    exact reliabilityReceivePacket_receiveView h.symm
  | lingering hack hseq _ h =>
    cases h
    rw [accepts_invalid hack hseq, if_neg Bool.false_ne_true]
    exact (ManagerChange.receivePacket e p).receiveView
  | answered hack hseq h =>
    cases h
    rw [accepts_invalid hack hseq, if_neg Bool.false_ne_true]
    rfl
  | ignored hack hseq h =>
    cases h
    rw [accepts_invalid hack hseq, if_neg Bool.false_ne_true]
  | parked _ hack _ hfin hwnd h =>
    cases h
    rw [accepts_parked hack hfin hwnd, if_neg Bool.false_ne_true]
    rfl
  | taken hsum hack hseq hfin h =>
    obtain ⟨e₁, h₁, h⟩ := bind_eq_ok.1 h.symm
    obtain ⟨e₂, h₂, h⟩ := bind_eq_ok.1 h
    cases h
    have hview := reliabilityReceivePacket_receiveView h₁
    rw [if_pos (passesAck_of_valid e.rc hack)] at hview
    rw [accepts_taken hsum hack hseq hfin, if_pos rfl, taken_receiveView h₂]
    exact hview

/-- A packet stops at what the reliability state or the congestion control stops at. -/
theorem receivePacket_error_side (h : e.receivePacket p = .error a) : a.receptionSide = true ∨ a.congestionSide = true := by
  have hreliability (h : e.reliabilityReceivePacket p = .error a) : a.receptionSide = true := by
    unfold reliabilityReceivePacket at h
    rcases bind_eq_error.1 h with h | ⟨⟨b, e₁⟩, -, h⟩
    · rw [handleAck_error h]
      rfl
    · simp only at h
      split at h
      · exact Abort.receptionSide_of_receiveSide (ReceiveView.receive_error (handleControlBitsAndData_error h))
      · cases h
  have hcase := receivePacket_cases e p
  rw [h] at hcase
  cases hcase with
  | skipping _ _ _ h => exact .inl (hreliability h.symm)
  | taken _ _ _ _ h =>
    rcases bind_eq_error.1 h.symm with h | ⟨_, -, h⟩
    · exact .inl (hreliability h)
    · rcases bind_eq_error.1 h with h | ⟨_, -, h⟩
      · exact .inr (congestionReceivePacket_error (receiveUnlessDuplicate_error h))
      · cases h
  | corrupt _ h | lingering _ _ _ h | answered _ _ h | ignored _ _ h | parked _ _ _ _ _ h => cases h

/-- A failure of the receiving side while a packet is handled comes from accepting the packet. -/
theorem receivePacket_error (h : e.receivePacket p = .error a) (ha : a.receiveSide = true) :
    e.accepts p = true ∧ e.receiveView.receive p = .error a := by
  have hcase := receivePacket_cases e p
  rw [h] at hcase
  cases hcase with
  | skipping hsum hack hinv h =>
    rw [accepts_skipping hsum hack hinv]
    exact reliabilityReceivePacket_error h.symm ha
  | taken hsum hack hseq hfin h =>
    refine ⟨accepts_taken hsum hack hseq hfin, ?_⟩
    rcases bind_eq_error.1 h.symm with h | ⟨e₁, -, h⟩
    · exact (reliabilityReceivePacket_error h ha).2
    · rcases bind_eq_error.1 h with h | ⟨_, -, h⟩
      · rw [Abort.receiveSide_of_congestionSide (congestionReceivePacket_error (receiveUnlessDuplicate_error h))] at ha
        cases ha
      · cases h
  | corrupt _ h => cases h
  | lingering _ _ _ h => cases h
  | answered _ _ h => cases h
  | ignored _ _ h => cases h
  | parked _ _ _ _ _ h => cases h

/-! ### Reading -/

theorem createAndDispatchReceivedData_receiveView (e : Endpoint) (r : ReceiveEvent) :
    (e.createAndDispatchReceivedData r).receiveView = e.receiveView.read (e.readLength r) := by
  have hack (c : Prop) [Decidable c] (e : Endpoint) :
      (if c then e.createAndDispatchAck else e).rc = e.rc ∧
        (if c then e.createAndDispatchAck else e).socket = e.socket := by
    split <;> exact ⟨rfl, rfl⟩
  unfold createAndDispatchReceivedData
  simp only [receiveView, enqueue, enqueueFor, dispatch, (hack _ e).1, (hack _ e).2]
  rfl

end

/-! ### Steps -/

section

variable {e e' : Endpoint}

theorem sendPacket_receiveView {p : TCPPacket} (h : e.sendPacket p = .ok e') : e'.receiveView = e.receiveView := by
  unfold sendPacket at h
  obtain ⟨⟨p', e₁⟩, h₁, h⟩ := bind_eq_ok.1 h
  cases h
  exact (AckChange.sendPacket h₁).receiveView

theorem send_receiveView {s : SendEvent} (h : e.send s = .ok e') : e'.receiveView = e.receiveView := by
  obtain ⟨n, -, ⟨-, rfl⟩ | ⟨-, rfl⟩⟩ := send_ok h <;> rfl

theorem sendBufferNotFull_receiveView (h : e.sendBufferNotFull = .ok e') : e'.receiveView = e.receiveView := by
  obtain ⟨-, rfl⟩ | ⟨_, n, -, -, ⟨-, rfl⟩ | ⟨-, rfl⟩⟩ := sendBufferNotFull_ok h <;> rfl

theorem timerFired_receiveView {t : TimeoutEvent} (h : e.timerFired t = .ok e') :
    e'.receiveView = e.receiveView := by
  unfold timerFired at h
  rw [(CongestionChange.timerFired h).receiveView, (ManagerChange.timerFired _ t).receiveView,
    (AckChange.timerFired e t).receiveView]

/-- What a protocol event does to the receiving side. -/
theorem handleProtocolEvent_receiveView {k : ProtocolEventKind} (h : e.handleProtocolEvent k = .ok e') :
    e'.receiveView = e.receiveView ∨ (∃ n, n ≤ e.receiveView.unread ∧ e'.receiveView = e.receiveView.read n) ∨
      ((∃ s l r li, k = .connectionInitiated s l r li) ∧ e'.receiveView = e.receiveView.moved) := by
  unfold handleProtocolEvent at h
  split at h
  · exact .inl (sendPacket_receiveView h)
  · exact .inl (CongestionChange.resendPacket h).receiveView
  · exact .inl (CongestionChange.sendPackets h).receiveView
  · exact .inl (sendBufferNotFull_receiveView h)
  · cases h
    obtain heq | ⟨r, -, -, heq⟩ := receiveBufferNotEmpty_cases e <;> rw [heq]
    · exact .inl rfl
    · exact .inr (.inl ⟨_, Nat.min_le_left _ _, createAndDispatchReceivedData_receiveView e _⟩)
  · cases h
    obtain ⟨-, heq⟩ | ⟨p, -, -, heq⟩ := receiveBufferNotFull_cases e <;> (rw [heq]; exact .inl rfl)
  · cases h
    exact .inr (.inr ⟨⟨_, _, _, _, rfl⟩, rfl⟩)
  · cases h
    exact .inl rfl
  · cases h
    exact .inl rfl

theorem managerConnect_receiveView (e : Endpoint) (c : ConnectEvent) :
    (e.managerConnect c).receiveView = e.receiveView := by
  obtain heq | ⟨s, ⟨-, -, hbuf⟩, -, heq⟩ := managerConnect_cases e c <;> rw [heq]
  unfold receiveView
  rw [hbuf]

theorem close_receiveView (e : Endpoint) (c : CloseEvent) : (e.close c).receiveView = e.receiveView := by
  rcases close_cases e c with ⟨-, heq⟩ | ⟨-, heq⟩ <;> rw [heq]
  · exact (ManagerChange.close e).receiveView
  · rfl

/-- What a step does to the receiving side: it is handed an accepted packet, read from, moved to another socket or
left as it is. -/
inductive ReceiveStep (e : Endpoint) (i : Input) (v : ReceiveView) : Prop
  | same (hd : ∀ p ∈ e.delivered i, e.accepts p = false) (h : v = e.receiveView)
  | accept (p : TCPPacket) (hp : e.delivered i = some p) (ha : e.accepts p = true)
      (h : e.receiveView.receive p = .ok v)
  | read (n : Nat) (hd : e.delivered i = none) (hn : n ≤ e.receiveView.unread) (h : v = e.receiveView.read n)
  | moved (hd : e.delivered i = none)
      (hq : ∃ s l r li, e.queue.head? = some ⟨e.socket.id, .connectionInitiated s l r li⟩)
      (h : v = e.receiveView.moved)

theorem ReceiveStep.unchanged {i : Input} {v : ReceiveView} (hd : e.delivered i = none) (h : v = e.receiveView) :
    ReceiveStep e i v :=
  .same (fun p hp => by rw [hd] at hp; cases hp) h

theorem step_receiveView {i : Input} (h : step i e = .ok e') : ReceiveStep e i e'.receiveView := by
  replace h := step_ok h
  cases h with
  | dropped hd h =>
    cases h
    exact .unchanged hd rfl
  | skipped _ _ h =>
    cases h
    exact .unchanged rfl rfl
  | @event v vs hq hs _ h =>
    rcases handleProtocolEvent_receiveView h.symm with h | ⟨n, hn, h⟩ | ⟨⟨s, l, r, li, hk⟩, h⟩
    · exact .unchanged rfl h
    · exact .read n rfl hn h
    · refine .moved rfl ⟨s, l, r, li, ?_⟩ h
      rw [hq, List.head?_cons, ← hs, ← hk]
  | @packet _ p ps hd _ _ h =>
    have hv := receivePacket_receiveView h.symm
    change if e.accepts p then e.receiveView.receive p = .ok e'.receiveView else e'.receiveView = e.receiveView at hv
    split at hv
    · rename_i hacc
      exact .accept p hd hacc hv
    · rename_i hacc
      refine .same (fun q hq => ?_) hv
      rw [hd, Option.mem_some_iff] at hq
      rw [← hq]
      simpa using hacc
  | listen l _ h =>
    cases h
    exact .unchanged rfl (ManagerChange.listen e l).receiveView
  | connect c _ h =>
    cases h
    exact .unchanged rfl (managerConnect_receiveView e c)
  | send s _ _ h => exact .unchanged rfl (send_receiveView h.symm)
  | receive r _ _ h =>
    obtain ⟨-, rfl⟩ | ⟨-, -, rfl⟩ := reliabilityReceive_ok h.symm
    · exact .read _ rfl (Nat.min_le_left _ _) (createAndDispatchReceivedData_receiveView e r)
    · exact .unchanged rfl rfl
  | close c _ h =>
    cases h
    exact .unchanged rfl (close_receiveView e c)
  | timerFired t _ _ h => exact .unchanged rfl (timerFired_receiveView h.symm)
  | tick _ _ h =>
    cases h
    exact .unchanged rfl rfl

theorem handleProtocolEvent_error {k : ProtocolEventKind} {a : Abort} (h : e.handleProtocolEvent k = .error a) :
    a.receptionSide = false := by
  unfold handleProtocolEvent at h
  split at h
  · rcases sendPacket_error h with rfl | rfl <;> rfl
  · exact Abort.receptionSide_of_congestionSide (resendData_error h)
  · exact Abort.receptionSide_of_congestionSide (sendPackets_error h)
  · rw [(getAvailableRoom_error (sendBufferNotFull_error h)).1]
    rfl
  all_goals cases h

/-- A failed assertion of the receiving side comes from accepting a packet. -/
theorem step_error_receiveSide {i : Input} {a : Abort} (h : step i e = .error a) (ha : a.receiveSide = true) :
    ∃ p, e.delivered i = some p ∧ e.accepts p = true ∧ e.receiveView.receive p = .error a := by
  replace h := step_error h
  cases h with
  | @event v vs _ _ _ h =>
    rw [Abort.receiveSide_of_receptionSide (handleProtocolEvent_error h.symm)] at ha
    cases ha
  | @packet _ p ps hd _ _ h =>
    have hacc := receivePacket_error h.symm ha
    exact ⟨p, hd, hacc⟩
  | send s _ _ h =>
    rw [(getAvailableRoom_error (send_error h.symm)).1] at ha
    cases ha
  | receive r _ _ h =>
    rw [reliabilityReceive_error h.symm] at ha
    cases ha
  | timerFired t _ _ h =>
    rw [Abort.receiveSide_of_congestionSide (congestionTimerFired_error h.symm)] at ha
    cases ha
  | dropped _ h => cases h
  | skipped _ _ h => cases h
  | listen _ _ h => cases h
  | connect _ _ h => cases h
  | close _ _ h => cases h
  | tick _ _ h => cases h

end

end Endpoint

end Wifu
