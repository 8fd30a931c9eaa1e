import Wifu.SendAgreement

/-!
# The assertions about a segment's payload

`send_packets` only calls `send_one_packet` when there is something to send and room for it, so its assertions hold in
every state.  The probe timer calls it without looking, and `resend_data` asks the window for room; their assertions
hold under conditions on the send buffer and the peer's window.
-/

namespace Wifu

/-- No assertion is one of both sides. -/
theorem Abort.sendSide_of_receiveSide {a : Abort} (h : a.receiveSide = true) : a.sendSide = false := by
  cases a with
  | notStarted | negativeInsert | firstExpected | windowOverflow => rfl
  | _ => cases h

namespace Endpoint

/-- The step stops at an assertion about a segment's payload. -/
def failsSending (e : Endpoint) (i : Input) : Bool :=
  match step i e with
  | .ok _ => false
  | .error a => a.sendSide

/-- The probe timer fires in the step. -/
def probeFires (e : Endpoint) : Input → Bool
  | .timerFired t => !e.deleted && t.socket == e.socket.id && e.ccc.probeTimer == some t
  | _ => false

/-- The probe timer fires only while the send buffer holds bytes that have not been sent, and bytes are sent again only
while the peer's window has room for a whole segment. -/
def payloadCondition (e : Endpoint) (i : Input) : Prop :=
  (probeFires e i = true → e.ccc.snd.numOutstanding.toNat < e.socket.sendBuffer.length) ∧
    (i = .drain → ∀ v ∈ e.queue.head?, v.isResend = true → e.socket.sendBuffer.head? ≠ some synByte →
      e.socket.sendBuffer.head? ≠ some finByte → mss ≤ e.ccc.sndWnd.toNat)

instance (e : Endpoint) (i : Input) : Decidable (payloadCondition e i) :=
  inferInstanceAs (Decidable ((_ → _) ∧ (_ → ∀ v ∈ e.queue.head?, _)))

section

variable {e e' : Endpoint} {p : TCPPacket} {a : Abort}

/-! ### Sending data -/

theorem maxAllowedToSend_le (c : TCPTahoeCongestionControlContext) : c.maxAllowedToSend ≤ 65535 := by
  unfold TCPTahoeCongestionControlContext.maxAllowedToSend
  have := c.sndWnd.isLt
  simp only
  omega

/-- With something to send and, unless the window is ignored, room for it, the assertions hold. -/
theorem sendOnePacket_error_payload {w : Bool} (hout : e.ccc.snd.numOutstanding.toNat < 2147483648)
    (hlt : e.ccc.snd.numOutstanding.toNat < e.socket.sendBuffer.length)
    (hroom : w = false → e.ccc.snd.numOutstanding.toNat < e.ccc.maxAllowedToSend)
    (h : e.sendOnePacket w = .error a) : a.sendSide = false := by
  have hint : e.ccc.snd.numOutstanding.toInt = e.ccc.snd.numOutstanding.toNat :=
    BitVec.toInt_eq_toNat_of_lt (by omega)
  have hmax : (maxDataLength : Int) = 1448 := rfl
  have hwnd : (maxTcpReceiveWindowSize : Int) = 65535 := rfl
  unfold sendOnePacket at h
  simp only at h
  rcases bind_eq_error.1 h with h | ⟨k, hk, h⟩
  · unfold getSendDataLength at h
    simp only at h
    rcases bind_eq_error.1 h with h | ⟨_, -, h⟩
    · exfalso
      have hle := of_decide_eq_false (check_eq_error.1 h).1
      unfold numUnsent at hle
      cases w with
      | false =>
        have := hroom rfl
        simp only [Bool.false_eq_true, if_false] at hle
        omega
      | true =>
        simp only [if_true] at hle
        omega
    · cases h
  have hpos : 0 < k := by
    unfold getSendDataLength at hk
    simp only at hk
    obtain ⟨_, hpos, hk⟩ := bind_eq_ok.1 hk
    cases hk
    exact of_decide_eq_true (check_eq_ok.1 hpos)
  rcases bind_eq_error.1 h with h | ⟨_, -, h⟩
  · exfalso
    have := of_decide_eq_false (check_eq_error.1 h).1
    omega
  rcases bind_eq_error.1 h with h | ⟨_, -, h⟩
  · rw [← (check_eq_error.1 h).2]
    rfl
  rcases bind_eq_error.1 h with h | ⟨_, -, h⟩
  · exfalso
    have hle := of_decide_eq_false (check_eq_error.1 h).1
    rw [hint] at hle
    simp only [TCPPacket.new, List.length_take, List.length_drop, Int.toNat_natCast, maxDataLength, mtu] at hle
    omega
  · cases h

/-- The condition of the loop, as numbers. -/
theorem roomToSend_iff : e.roomToSend = true ↔ e.ccc.snd.numOutstanding.toNat < e.socket.sendBuffer.length ∧
    e.ccc.snd.numOutstanding.toNat < e.ccc.maxAllowedToSend := by
  have hallowed := maxAllowedToSend_le e.ccc
  unfold roomToSend numUnsent
  rw [Bool.and_eq_true, decide_eq_true_eq, decide_eq_true_eq]
  refine and_congr_left fun hroom => ?_
  have hint : e.ccc.snd.numOutstanding.toInt = e.ccc.snd.numOutstanding.toNat :=
    BitVec.toInt_eq_toNat_of_lt (by omega)
  omega

/-- `send_packets` never stops at an assertion about a payload. -/
theorem sendPackets_error_payload (h : e.sendPackets = .error a) : a.sendSide = false := by
  obtain ⟨f, hroom, h⟩ := sendPackets_fails h
  obtain ⟨hlt, hroom⟩ := roomToSend_iff.1 hroom
  have hallowed := maxAllowedToSend_le f.ccc
  exact sendOnePacket_error_payload (by omega) hlt (fun _ => hroom) h

/-! ### Sending again -/

/-- The data length of a segment sent again, with nothing outstanding: what the buffer, a segment and the window
allow. -/
theorem getResendDataLength_of_rewound (hout : e.ccc.snd.numOutstanding = 0) :
    e.getResendDataLength =
      if 0 < e.socket.sendBuffer.length ∧ 0 < e.ccc.maxAllowedToSend then
        .ok ((min e.socket.sendBuffer.length (min mss e.ccc.maxAllowedToSend) : Nat) : Int)
      else .error .resendDataLength := by
  have hle := maxAllowedToSend_le e.ccc
  have hlen : min (min e.numUnsent (maxDataLength : Int)) (min (e.ccc.maxAllowedToSend : Int)
      (maxTcpReceiveWindowSize : Int)) =
      ((min e.socket.sendBuffer.length (min mss e.ccc.maxAllowedToSend) : Nat) : Int) := by
    unfold numUnsent
    rw [hout]
    simp only [maxDataLength, mss, mtu, maxTcpReceiveWindowSize]
    change min (min ((e.socket.sendBuffer.length : Int) - 0) _) _ = _
    omega
  have hmss : 0 < mss := by decide
  unfold getResendDataLength
  simp only [hlen, check]
  by_cases hpos : 0 < e.socket.sendBuffer.length ∧ 0 < e.ccc.maxAllowedToSend
  · have hcheck : decide (0 < ((min e.socket.sendBuffer.length (min mss e.ccc.maxAllowedToSend) : Nat) : Int)) = true := by
      rw [decide_eq_true_eq]
      omega
    rw [if_pos hpos, if_pos hcheck]
    rfl
  · have hcheck : decide (0 < ((min e.socket.sendBuffer.length (min mss e.ccc.maxAllowedToSend) : Nat) : Int)) = false := by
      rw [decide_eq_false_iff_not]
      omega
    rw [if_neg hpos, hcheck]
    rfl

/-- With a window of one segment, that is a whole segment or the whole buffer. -/
theorem getResendDataLength_eq (hout : e.ccc.snd.numOutstanding = 0) (hallowed : e.ccc.maxAllowedToSend = mss)
    (hne : e.socket.sendBuffer ≠ []) :
    e.getResendDataLength = .ok (min (e.socket.sendBuffer.length : Int) mss) := by
  have hpos : 0 < e.socket.sendBuffer.length ∧ 0 < mss := ⟨List.length_pos_iff.2 hne, by decide⟩
  rw [getResendDataLength_of_rewound hout, hallowed, if_pos hpos, Nat.min_self]
  exact congrArg Except.ok (by omega)

/-- With a control bit at the front of the send buffer, or a window of a segment, the assertions hold. -/
theorem resendPacket_error_payload (h : e.resendPacket = .error a) (hne : e.socket.sendBuffer ≠ [])
    (hwnd : e.socket.sendBuffer.head? ≠ some synByte → e.socket.sendBuffer.head? ≠ some finByte →
      e.ccc.snd.numOutstanding = 0 ∧ e.ccc.maxAllowedToSend = mss) : a.sendSide = false := by
  unfold resendPacket at h
  simp only at h
  rcases bind_eq_error.1 h with h | ⟨_, -, h⟩
  · have := (check_eq_error.1 h).1
    simp [hne] at this
  split at h
  · cases h
  rename_i hsyn
  split at h
  · cases h
  rename_i hfin
  obtain ⟨hout, hallowed⟩ := hwnd hsyn hfin
  rw [getResendDataLength_eq hout hallowed hne] at h
  exfalso
  rcases bind_eq_error.1 h with h | ⟨k, hk, h⟩
  · cases h
  cases hk
  rcases bind_eq_error.1 h with h | ⟨_, -, h⟩
  · have hle := of_decide_eq_false (check_eq_error.1 h).1
    have hpos := List.length_pos_iff.2 hne
    have hmss : (mss : Int) = 1448 := rfl
    split at hle
    · rename_i hlast
      have hone : e.socket.sendBuffer.length = 1 := by omega
      obtain ⟨x, hx⟩ := List.length_eq_one_iff.1 hone
      rw [hx] at hlast hfin
      exact hfin hlast
    · omega
  · cases h

theorem congestionResendPacket_error_payload (hne : e.socket.sendBuffer ≠ [])
    (hwnd : e.socket.sendBuffer.head? ≠ some synByte → e.socket.sendBuffer.head? ≠ some finByte →
      mss ≤ e.ccc.sndWnd.toNat)
    (h : e.congestionResendPacket = .error a) : a.sendSide = false := by
  unfold congestionResendPacket resendData at h
  simp only at h
  rcases bind_eq_error.1 h with h | ⟨_, -, h⟩
  · refine resendPacket_error_payload h hne fun hsyn hfin => ⟨?_, ?_⟩
    · simp [OutstandingDataContext.numOutstanding]
    · have hsnd := hwnd hsyn hfin
      have hcwnd : (BitVec.ofNat 32 mss).toNat = mss := rfl
      simp only [TCPTahoeCongestionControlContext.maxAllowedToSend, congestionResend, hcwnd]
      rw [Nat.min_eq_right hsnd, Nat.mod_self]
      rfl
  · cases h

/-! ### Other handlers -/

theorem handleControlBitsAndData_error_payload (h : e.handleControlBitsAndData p = .error a) : a.sendSide = false :=
  Abort.sendSide_of_receiveSide (ReceiveView.receive_error (handleControlBitsAndData_error h))

theorem reliabilityReceivePacket_error_payload (h : e.reliabilityReceivePacket p = .error a) :
    a.sendSide = false := by
  unfold reliabilityReceivePacket at h
  rcases bind_eq_error.1 h with h | ⟨⟨b, e₁⟩, -, h⟩
  · rw [handleAck_error h]
    rfl
  · simp only at h
    split at h
    · exact handleControlBitsAndData_error_payload h
    · cases h

theorem congestionReceivePacket_error_payload (h : e.congestionReceivePacket p = .error a) : a.sendSide = false := by
  unfold congestionReceivePacket at h
  split at h
  · rcases bind_eq_error.1 h with h | ⟨ccc, -, h⟩
    · unfold acknowledgeSegment at h
      simp only at h
      split at h
      · unfold setCwnd at h
        split at h
        · cases h
        · rcases bind_eq_error.1 h with h | ⟨_, -, h⟩
          · rw [← (check_eq_error.1 h).2]
            rfl
          · cases h
      · cases h
    · unfold sendOrProbe at h
      split at h
      · cases h
      · exact sendPackets_error_payload h
  · cases h

theorem receivePacket_error_payload (h : e.receivePacket p = .error a) : a.sendSide = false := by
  have hcase := receivePacket_cases e p
  rw [h] at hcase
  cases hcase with
  | skipping _ _ _ h => exact reliabilityReceivePacket_error_payload h.symm
  | taken _ _ _ _ h =>
    rcases bind_eq_error.1 h.symm with h | ⟨_, -, h⟩
    · exact reliabilityReceivePacket_error_payload h
    · rcases bind_eq_error.1 h with h | ⟨_, -, h⟩
      · exact congestionReceivePacket_error_payload (receiveUnlessDuplicate_error h)
      · cases h
  | corrupt _ h | lingering _ _ _ h | answered _ _ h | ignored _ _ h | parked _ _ _ _ _ h => cases h

theorem sendPacket_error_payload (h : e.sendPacket p = .error a) : a.sendSide = false := by
  rcases sendPacket_error h with rfl | rfl <;> rfl

theorem getAvailableRoom_error_payload (h : e.getAvailableRoom = .error a) : a.sendSide = false := by
  rw [(getAvailableRoom_error h).1]
  rfl

end

/-! ### Steps -/

section

variable {strict : Prop} {e : Endpoint} {a : Abort}

/-- A retransmission waits only while the send buffer holds something. -/
theorem SendInv.resend_nonempty {v : ProtocolEvent} {vs : List ProtocolEvent} (hinv : SendInv strict e)
    (hd : e.deleted = false) (hq : e.queue = v :: vs) (hv : v.isResend = true) : e.socket.sendBuffer ≠ [] := by
  have hres : resends e.queue = resends vs + 1 := by
    rw [hq, resends_cons, hv, if_pos rfl]
  cases hinv with
  | deleted hd' _ =>
    rw [hd] at hd'
    cases hd'
  | preSyn hp _ _ =>
    have hno : resends e.queue = 0 := by
      rcases hp.queue with ⟨-, hq⟩ | ⟨-, p, -, hq | ⟨s, l, r, li, hq⟩⟩
      · unfold resends
        rw [List.countP_eq_zero]
        intro w hw
        rw [hq w hw]
        simp [ProtocolEvent.isResend]
      · rw [hq]
        rfl
      · rw [hq]
        rfl
    omega
  | sent hb hm =>
    cases hm with
    | sending u n m c hm =>
      have := hm.resends
      omega
    | resending u m c hm =>
      have ho := hm.order
      rw [hm.buffer, ← List.length_pos_iff, List.length_drop, List.length_cons]
      omega
    | finWaiting hm =>
      have := hm.resends
      omega
    | finSent u n c k hm =>
      rcases hm.queue with ⟨hr, -, -⟩ | ⟨-, -, -, hu⟩ | ⟨hr, -⟩
      · omega
      · rcases hm.buffer with ⟨-, hbuf⟩ | ⟨hu', -⟩
        · simp [hbuf]
        · omega
      · omega

/-- A waiting event does not stop at an assertion about a payload. -/
theorem event_error_payload {v : ProtocolEvent} {vs : List ProtocolEvent} (hinv : SendInv strict e) (hd : e.deleted = false)
    (hq : e.queue = v :: vs) (hc : payloadCondition e .drain)
    (h : { e with queue := vs }.handleProtocolEvent v.kind = .error a) : a.sendSide = false := by
  unfold handleProtocolEvent at h
  split at h
  · exact sendPacket_error_payload h
  · rename_i r hk
    have hres : v.isResend = true := by simp [ProtocolEvent.isResend, hk]
    exact congestionResendPacket_error_payload (e := { e with queue := vs }) (hinv.resend_nonempty hd hq hres)
      (hc.2 rfl v (by simp [hq]) hres) h
  · exact sendPackets_error_payload h
  · exact getAvailableRoom_error_payload (sendBufferNotFull_error h)
  all_goals cases h

theorem SendInv.buffer_le (hinv : SendInv strict e) (hd : e.deleted = false) :
    e.socket.sendBuffer.length ≤ tcpSocketMaxBufferSize := by
  cases hinv with
  | deleted hd' _ =>
    rw [hd] at hd'
    cases hd'
  | preSyn hp _ _ =>
    rw [hp.sendBuffer]
    exact Nat.zero_le _
  | sent hb _ => exact hb.buffer_le

/-- A timer does not stop at an assertion about a payload. -/
theorem timerFired_error_payload {t : TimeoutEvent} (hbuf : e.socket.sendBuffer.length ≤ tcpSocketMaxBufferSize)
    (hprobe : e.ccc.probeTimer = some t → e.ccc.snd.numOutstanding.toNat < e.socket.sendBuffer.length)
    (h : e.timerFired t = .error a) : a.sendSide = false := by
  unfold timerFired at h
  have hman := ManagerChange.timerFired (e.reliabilityTimerFired t) t
  have hrel := AckChange.timerFired e t
  have hsame : (e.reliabilityTimerFired t).socket.sendBuffer = e.socket.sendBuffer := by
    unfold reliabilityTimerFired
    split <;> rfl
  unfold tcpSocketMaxBufferSize at hbuf
  unfold congestionTimerFired at h
  split at h
  · rename_i hp
    rw [hman.ccc, hrel.ccc] at hp
    have hlt := hprobe hp
    have hccc : ((e.reliabilityTimerFired t).managerTimerFired t).ccc.snd = e.ccc.snd := by rw [hman.ccc, hrel.ccc]
    have hsocket : ((e.reliabilityTimerFired t).managerTimerFired t).socket.sendBuffer = e.socket.sendBuffer := by
      rw [hman.socket, hsame]
    refine sendOnePacket_error_payload (w := true) ?_ ?_ nofun h
    · simp only [dispatchTimeout, hccc]
      omega
    · simp only [dispatchTimeout, hccc, hsocket]
      exact hlt
  · cases h

/-- Along every run that meets `sendCondition` and `payloadCondition`, no step stops at an assertion about a segment's
payload. -/
theorem send_assertions {id : SocketId} {l r : AddressPort} {is : List Input} {i : Input}
    (hrun : machine.Run (fun e i => sendCondition False e i ∧ payloadCondition e i) (create id l r) is e)
    (hen : enabled i e) (hc : payloadCondition e i) : failsSending e i = false := by
  have hinv := run_sendInv (fun _ _ h => h.1) hrun
  unfold failsSending
  cases hs : step i e with
  | ok e' => rfl
  | error a =>
    show a.sendSide = false
    replace hs := step_error hs
    cases hs with
    | event hq _ hdel h => exact event_error_payload hinv hdel hq hc h.symm
    | packet _ _ _ h => exact receivePacket_error_payload h.symm
    | send _ _ _ h => exact getAvailableRoom_error_payload (send_error h.symm)
    | receive _ _ _ h =>
      rw [reliabilityReceive_error h.symm]
      rfl
    | timerFired t hdel hsocket h =>
      refine timerFired_error_payload (hinv.buffer_le hdel) (fun hp => hc.1 ?_) h.symm
      simp [probeFires, hdel, hsocket, hp]
    | dropped _ h | skipped _ _ h | listen _ _ h | connect _ _ h | close _ _ h | tick _ _ h => cases h

end

/-- The client connects to a server whose window is smaller than a segment. -/
def smallWindowScript : List Input :=
  [.connect ⟨1, serverAddress, clientAddress.address⟩, .drain,
    .packet { segment 100 2 [] with syn := true, receiveWindowSize := 100 }, .drain, .drain]

/-- Three bytes that the window has no room for are sent as a probe. -/
theorem send_assertions_probe : ∃ e,
    machine.Run (fun e i => sendCondition False e i ∧ payloadCondition e i) client
      (smallWindowScript ++ [.send ⟨2, [1, 2, 3]⟩, .drain]) e ∧
    probeFires e (.timerFired ⟨2, 1⟩) = true ∧ failsSending e (.timerFired ⟨2, 1⟩) = false := by
  have h : (machine.replay (fun e i => sendCondition False e i ∧ payloadCondition e i)
      (smallWindowScript ++ [.send ⟨2, [1, 2, 3]⟩, .drain]) client).any (fun e =>
      probeFires e (.timerFired ⟨2, 1⟩) && decide (enabled (.timerFired ⟨2, 1⟩) e) &&
      decide (payloadCondition e (.timerFired ⟨2, 1⟩))) = true := by decide +kernel
  obtain ⟨e, hrun, hq⟩ := Transition.Machine.exists_run h
  simp only [Bool.and_eq_true, decide_eq_true_eq] at hq
  obtain ⟨⟨hprobe, hen⟩, hc⟩ := hq
  exact ⟨e, hrun, hprobe, send_assertions hrun hen hc⟩

/-- The probe timer, started by a small window while there is nothing to send, fires. -/
theorem send_assertions_nothing_to_probe : ∃ e, machine.Run Transition.anyStep client smallWindowScript e ∧
    enabled (.timerFired ⟨2, 1⟩) e ∧ step (.timerFired ⟨2, 1⟩) e = .error .sendDataLength := by
  have h : (machine.replay Transition.anyStep smallWindowScript client).any (fun e =>
      decide (enabled (.timerFired ⟨2, 1⟩) e) &&
      match step (.timerFired ⟨2, 1⟩) e with
      | .error a => decide (a = .sendDataLength)
      | .ok _ => false) = true := by decide +kernel
  obtain ⟨e, hrun, hq⟩ := Transition.Machine.exists_run h
  rw [Bool.and_eq_true, decide_eq_true_eq] at hq
  refine ⟨e, hrun, hq.1, ?_⟩
  have hfail := hq.2
  split at hfail
  · rename_i a ha
    rw [ha, of_decide_eq_true hfail]
  · cases hfail

end Endpoint

end Wifu
