import Wifu.MalformedLengths
import Wifu.QueueEvents

/-!
# Fast retransmission (`TCPTahoeReliabilityState.cc`, `TCPTahoe.cc`)

`handle_duplicate_ack` keeps the ACK number it has seen last and how often it has come again; the fourth segment that it
takes with one number asks for a retransmission.  It takes every segment whose number is not beyond `snd_una` while
`snd_nxt` is, also one with data, with a FIN, or with a number long acknowledged.
-/

namespace Wifu

/-- The event asks for a fast retransmission. -/
def ProtocolEvent.isFastResend (v : ProtocolEvent) : Bool := decide (v.kind = .resendPacket .threeDuplicateAcks)

/-- The fast retransmissions that wait in a queue. -/
def fastResends (q : List ProtocolEvent) : Nat := q.countP ProtocolEvent.isFastResend

theorem fastResends_append (q q' : List ProtocolEvent) : fastResends (q ++ q') = fastResends q + fastResends q' :=
  List.countP_append

theorem fastResends_ordinary {q : List ProtocolEvent} (h : ∀ v ∈ q, v.Ordinary) : fastResends q = 0 := by
  unfold fastResends
  rw [List.countP_eq_zero]
  intro v hv hfast
  have hnot := (h v hv).isResend
  unfold ProtocolEvent.isFastResend at hfast
  unfold ProtocolEvent.isResend at hnot
  rw [of_decide_eq_true hfast] at hnot
  cases hnot

namespace Endpoint

/-! ### The claims of a packet on the counter -/

/-- The packet reaches the reliability state. -/
def reachesReliability (e : Endpoint) (p : TCPPacket) : Bool :=
  p.validChecksum &&
    (p.ack && !isValidAckNumber e.rc p ||
      isValidSequenceNumber e.rc p && !(p.fin && decide (e.rc.rcvWnd.toNat < maxTcpReceiveWindowSize)))

/-- The packet that a step has the reliability state process. -/
def processed (e : Endpoint) (i : Input) : Option TCPPacket := (e.delivered i).filter e.reachesReliability

/-- The packet goes to `handle_duplicate_ack`. -/
def countsDuplicate (rc : TCPTahoeReliabilityContext) (p : TCPPacket) : Bool :=
  p.ack && !betweenEqualRight rc.snd.sndUna p.ackNumber rc.snd.sndMax && !lessThan rc.snd.sndMax p.ackNumber &&
    betweenEqualLeft p.ackNumber rc.snd.sndUna rc.snd.sndNxt

/-- A duplicate ACK: an empty segment that acknowledges `snd_una` again while data is outstanding. -/
def duplicatesAck (rc : TCPTahoeReliabilityContext) (p : TCPPacket) : Bool :=
  p.ack && p.ackNumber == rc.snd.sndUna && p.dataLengthBytes == 0 && !p.syn && !p.fin && rc.snd.numOutstanding != 0

/-! ### Handlers that leave the counter alone -/

/-- The counter stays, and no fast retransmission is requested. -/
structure Uncounted (e e' : Endpoint) : Prop where
  number : e'.rc.duplicateAckNumber = e.rc.duplicateAckNumber
  duplicates : e'.rc.duplicates = e.rc.duplicates
  queue : ∃ q, e'.queue = e.queue ++ q ∧ fastResends q = 0

namespace Uncounted

variable {e e' e'' : Endpoint} {p : TCPPacket}

theorem of_appends (hn : e'.rc.duplicateAckNumber = e.rc.duplicateAckNumber)
    (hd : e'.rc.duplicates = e.rc.duplicates) (h : Appends e e') : Uncounted e e' := by
  obtain ⟨q, hq, hord⟩ := h
  exact ⟨hn, hd, q, hq, fastResends_ordinary hord⟩

/-- The handlers of the other contexts do not touch the counter. -/
theorem of_rc (hrc : e'.rc = e.rc) (h : Appends e e') : Uncounted e e' := of_appends (by rw [hrc]) (by rw [hrc]) h

theorem of_eq (hn : e'.rc.duplicateAckNumber = e.rc.duplicateAckNumber) (hd : e'.rc.duplicates = e.rc.duplicates)
    (hq : e'.queue = e.queue) : Uncounted e e' :=
  of_appends hn hd (.of_eq hq)

theorem refl (e : Endpoint) : Uncounted e e := of_eq rfl rfl rfl

theorem trans (h : Uncounted e e') (h' : Uncounted e' e'') : Uncounted e e'' := by
  obtain ⟨hn, hd, q, hq, hzero⟩ := h
  obtain ⟨hn', hd', q', hq', hzero'⟩ := h'
  refine ⟨hn'.trans hn, hd'.trans hd, q ++ q', by rw [hq', hq, List.append_assoc], ?_⟩
  rw [fastResends_append, hzero, hzero']

/-! ### The reliability state -/

theorem createAndDispatchAck (e : Endpoint) : Uncounted e e.createAndDispatchAck :=
  of_rc rfl (.createAndDispatchAck e)

theorem startTimer (e : Endpoint) : Uncounted e e.startTimer := by
  refine of_appends ?_ ?_ (.startTimer e)
  · unfold Endpoint.startTimer
    split <;> rfl
  · unfold Endpoint.startTimer
    split <;> rfl

theorem updateEchoReply (e : Endpoint) (p : TCPPacket) : Uncounted e (e.updateEchoReply p) := by
  obtain ⟨t, heq⟩ := updateEchoReply_eq e p
  rw [heq]
  exact of_eq rfl rfl rfl

theorem handleValidAck (h : e.handleValidAck p = .ok e') : Uncounted e e' := by
  have hcancel (f : Endpoint) : f.cancelTimer.rc.duplicateAckNumber = f.rc.duplicateAckNumber ∧
      f.cancelTimer.rc.duplicates = f.rc.duplicates := by
    unfold cancelTimer
    split <;> exact ⟨rfl, rfl⟩
  have hcounter : e'.rc.duplicateAckNumber = e.rc.duplicateAckNumber ∧ e'.rc.duplicates = e.rc.duplicates := by
    unfold Endpoint.handleValidAck at h
    obtain ⟨-, -, h⟩ := bind_eq_ok.1 h
    split at h
    · cases h
      exact hcancel _
    · split at h
      · cases h
        have hstart := startTimer (Endpoint.cancelTimer (({ e with
          rc := { e.rc with snd := e.rc.snd.acknowledge p.ackNumber }
          socket := { e.socket with
            sendBuffer := e.socket.sendBuffer.drop (p.ackNumber - e.rc.snd.sndUna).toNat } } : Endpoint).enqueue
          .sendBufferNotFull))
        exact ⟨hstart.number.trans (hcancel _).1, hstart.duplicates.trans (hcancel _).2⟩
      · cases h
        exact ⟨rfl, rfl⟩
  exact of_appends hcounter.1 hcounter.2 (.handleValidAck h)

theorem handleControlBitsAndData (h : e.handleControlBitsAndData p = .ok e') : Uncounted e e' := by
  have happends := Appends.handleControlBitsAndData h
  obtain ⟨v, -, rfl⟩ := handleControlBitsAndData_ok h
  exact of_appends rfl rfl happends

theorem sendPacket (h : e.sendPacket p = .ok e') : Uncounted e e' := by
  obtain ⟨q, hsent⟩ := sendPacket_ok h
  have hcounter : e'.rc.duplicateAckNumber = e.rc.duplicateAckNumber ∧ e'.rc.duplicates = e.rc.duplicates := by
    unfold Endpoint.sendPacket reliabilitySendPacket at h
    obtain ⟨⟨q, e₁⟩, h₁, h⟩ := bind_eq_ok.1 h
    cases h
    simp only at h₁
    obtain ⟨b, -, h₁⟩ := bind_eq_ok.1 h₁
    obtain ⟨q', -, h₁⟩ := bind_eq_ok.1 h₁
    cases h₁
    have hnumber : (setSequenceNumber e.rc p).2.duplicateAckNumber = e.rc.duplicateAckNumber ∧
        (setSequenceNumber e.rc p).2.duplicates = e.rc.duplicates := by
      unfold setSequenceNumber
      split <;> exact ⟨rfl, rfl⟩
    have hstart (f : Endpoint) (q : TCPPacket) : Uncounted f (f.checkAndStartTimer q) := by
      unfold checkAndStartTimer
      split
      · exact startTimer f
      · exact refl f
    exact ⟨(hstart _ _).number.trans hnumber.1, (hstart _ _).duplicates.trans hnumber.2⟩
  exact of_eq hcounter.1 hcounter.2 hsent.queue

theorem createAndDispatchReceivedData (e : Endpoint) (r : ReceiveEvent) :
    Uncounted e (e.createAndDispatchReceivedData r) := by
  refine of_appends ?_ ?_ (.createAndDispatchReceivedData e r)
  · unfold Endpoint.createAndDispatchReceivedData
    simp only
    split <;> rfl
  · unfold Endpoint.createAndDispatchReceivedData
    simp only
    split <;> rfl

theorem receive {r : ReceiveEvent} (h : e.reliabilityReceive r = .ok e') : Uncounted e e' := by
  obtain ⟨-, rfl⟩ | ⟨-, -, rfl⟩ := reliabilityReceive_ok h
  · exact createAndDispatchReceivedData e r
  · exact of_eq rfl rfl rfl

/-! ### The other contexts -/

theorem of_deletes (hrc : e'.rc = e.rc) (h : Deletes e e') : Uncounted e e' :=
  ⟨by rw [hrc], by rw [hrc], _, h.queue, rfl⟩

theorem managerReceivePacket (e : Endpoint) (p : TCPPacket) : Uncounted e (e.managerReceivePacket p) := by
  have hrc := (ManagerChange.receivePacket e p).rc
  rcases Appends.managerReceivePacket e p with h | h
  · exact of_rc hrc h
  · exact of_deletes hrc h

theorem managerTimerFired (e : Endpoint) (t : TimeoutEvent) : Uncounted e (e.managerTimerFired t) := by
  have hrc := (ManagerChange.timerFired e t).rc
  rcases Appends.managerTimerFired e t with h | h
  · exact of_rc hrc h
  · exact of_deletes hrc h

theorem managerClose (e : Endpoint) : Uncounted e e.managerClose := by
  have hrc := (ManagerChange.close e).rc
  rcases Appends.managerClose e with ⟨s, -, h⟩ | ⟨-, h⟩ | h
  · exact ⟨by rw [hrc], by rw [hrc], [⟨e.socket.id, .sendPacket e.finPacket⟩], by rw [h], rfl⟩
  · exact of_deletes hrc h
  · rw [h]
    exact refl e

theorem managerConnect (e : Endpoint) (c : ConnectEvent) : Uncounted e (e.managerConnect c) := by
  refine of_rc ?_ (.managerConnect e c)
  obtain heq | ⟨_, -, -, heq⟩ := managerConnect_cases e c <;> rw [heq]

theorem runSavedClose (e : Endpoint) : Uncounted e e.runSavedClose := by
  rcases runSavedClose_cases e with ⟨-, heq⟩ | ⟨-, heq⟩ <;> rw [heq]
  · exact (managerClose e).trans (of_eq rfl rfl rfl)
  · exact refl e

theorem close (e : Endpoint) (c : CloseEvent) : Uncounted e (e.close c) := by
  rcases close_cases e c with ⟨-, heq⟩ | ⟨-, heq⟩ <;> rw [heq]
  · exact (managerClose e).trans (of_eq rfl rfl rfl)
  · exact of_eq rfl rfl rfl

theorem receiveUnlessDuplicate {b : Bool} (h : e.receiveUnlessDuplicate p b = .ok e') : Uncounted e e' :=
  of_rc (CongestionChange.receiveUnlessDuplicate h).rc (.receiveUnlessDuplicate h)

theorem timerFired {t : TimeoutEvent} (h : e.timerFired t = .ok e') : Uncounted e e' := by
  have hreliability : Uncounted e (e.reliabilityTimerFired t) := by
    unfold reliabilityTimerFired
    split
    · exact ⟨rfl, rfl, [⟨e.socket.id, .resendPacket .timeout⟩], rfl, rfl⟩
    · exact refl e
  unfold Endpoint.timerFired at h
  exact (hreliability.trans (managerTimerFired _ t)).trans (of_rc (CongestionChange.timerFired h).rc (.congestionTimerFired h))

theorem sendBufferNotFull (h : e.sendBufferNotFull = .ok e') : Uncounted e e' := by
  refine of_rc ?_ (.sendBufferNotFull h)
  obtain ⟨-, rfl⟩ | ⟨_, n, -, -, ⟨-, rfl⟩ | ⟨-, rfl⟩⟩ := sendBufferNotFull_ok h <;> rfl

theorem send {s : SendEvent} (h : e.send s = .ok e') : Uncounted e e' := by
  refine of_rc ?_ (.send h)
  obtain ⟨n, -, ⟨-, rfl⟩ | ⟨-, rfl⟩⟩ := send_ok h <;> rfl

theorem handleProtocolEvent {k : ProtocolEventKind} (h : e.handleProtocolEvent k = .ok e') : Uncounted e e' := by
  cases k with
  | sendPacket p => exact sendPacket h
  | resendPacket r =>
    have hrc := (CongestionChange.resendPacket h).rc
    obtain ⟨p, hq, -⟩ := Appends.congestionResendPacket h
    exact ⟨by rw [hrc], by rw [hrc], _, hq, rfl⟩
  | sendBufferNotEmpty => exact of_rc (CongestionChange.sendPackets h).rc (.sendPackets h)
  | sendBufferNotFull => exact sendBufferNotFull h
  | receiveBufferNotEmpty =>
    cases h
    obtain heq | ⟨r, -, -, heq⟩ := receiveBufferNotEmpty_cases e <;> rw [heq]
    · exact refl e
    · exact (createAndDispatchReceivedData e _).trans (of_eq rfl rfl rfl)
  | receiveBufferNotFull =>
    cases h
    obtain ⟨-, heq⟩ | ⟨p, -, -, heq⟩ := receiveBufferNotFull_cases e <;> rw [heq]
    · exact refl e
    · exact of_eq rfl rfl rfl
  | connectionInitiated | connectionEstablished | deleteSocket =>
    cases h
    exact of_eq rfl rfl rfl

end Uncounted

/-! ### What the counter takes -/

/-- The packet is the fourth with its number that the counter takes. -/
def fourthTaken (rc : TCPTahoeReliabilityContext) (p : TCPPacket) : Prop :=
  countsDuplicate rc p = true ∧ rc.duplicateAckNumber = p.ackNumber ∧ rc.duplicates = 2

instance (rc : TCPTahoeReliabilityContext) (p : TCPPacket) : Decidable (fourthTaken rc p) :=
  inferInstanceAs (Decidable (_ ∧ _))

/-- The counter takes the packet, and asks for a retransmission at the fourth. -/
structure Counted (e : Endpoint) (p : TCPPacket) (e' : Endpoint) : Prop where
  number : e'.rc.duplicateAckNumber = p.ackNumber
  duplicates : e'.rc.duplicates = if e.rc.duplicateAckNumber = p.ackNumber then e.rc.duplicates + 1 else 0
  queue : ∃ q, e'.queue = e.queue ++ q ∧ fastResends q = if fourthTaken e.rc p then 1 else 0

section

variable {e e' e'' : Endpoint} {p : TCPPacket}

theorem Counted.trans (h : Counted e p e') (h' : Uncounted e' e'') : Counted e p e'' := by
  obtain ⟨q, hq, hfast⟩ := h.queue
  obtain ⟨q', hq', hzero⟩ := h'.queue
  refine ⟨h'.number.trans h.number, h'.duplicates.trans h.duplicates, q ++ q', by rw [hq', hq, List.append_assoc], ?_⟩
  rw [fastResends_append, hfast, hzero, Nat.add_zero]

theorem handleDuplicateAck_counted (hc : countsDuplicate e.rc p = true) : Counted e p (e.handleDuplicateAck p) := by
  unfold handleDuplicateAck
  by_cases hn : e.rc.duplicateAckNumber = p.ackNumber
  · have hcount : countDuplicateAck e.rc p = { e.rc with duplicates := e.rc.duplicates + 1 } := by
      unfold countDuplicateAck
      rw [if_pos hn]
    by_cases hd : e.rc.duplicates = 2
    · have hfourth : fourthTaken e.rc p := ⟨hc, hn, hd⟩
      have hthree : e.rc.duplicates + 1 = 3 := by omega
      simp only [hcount, if_pos hthree]
      refine ⟨hn, by rw [if_pos hn]; rfl, [⟨e.socket.id, .resendPacket .threeDuplicateAcks⟩], rfl, ?_⟩
      rw [if_pos hfourth]
      rfl
    · have hfourth : ¬fourthTaken e.rc p := fun h => hd h.2.2
      have hthree : ¬e.rc.duplicates + 1 = 3 := by omega
      simp only [hcount, if_neg hthree]
      refine ⟨hn, by rw [if_pos hn], [], (List.append_nil _).symm, ?_⟩
      rw [if_neg hfourth]
      rfl
  · have hcount : countDuplicateAck e.rc p = { e.rc with duplicateAckNumber := p.ackNumber, duplicates := 0 } := by
      unfold countDuplicateAck
      rw [if_neg hn]
    have hfourth : ¬fourthTaken e.rc p := fun h => hn h.2.1
    have hthree : ¬(0 : Int) = 3 := by omega
    simp only [hcount, if_neg hthree]
    refine ⟨rfl, by rw [if_neg hn], [], (List.append_nil _).symm, ?_⟩
    rw [if_neg hfourth]
    rfl

/-- `state_receive_packet` of the reliability state. -/
theorem reliabilityReceivePacket_counter (h : e.reliabilityReceivePacket p = .ok e') :
    if countsDuplicate e.rc p then Counted e p e' else Uncounted e e' := by
  have hecho := Uncounted.updateEchoReply e p
  have hsnd := updateEchoReply_snd e p
  have hsame : countsDuplicate (e.updateEchoReply p).rc p = countsDuplicate e.rc p := by
    unfold countsDuplicate
    rw [hsnd]
  have hqueue : (e.updateEchoReply p).queue = e.queue := by
    obtain ⟨t, heq⟩ := updateEchoReply_eq e p
    rw [heq]
  obtain ⟨⟨b, e₁⟩, hack, hrest⟩ := bind_eq_ok.1 h
  replace hrest : Uncounted e₁ e' := by
    simp only at hrest
    split at hrest
    · exact .handleControlBitsAndData hrest
    · cases hrest
      exact .refl _
  unfold handleAck at hack
  rw [hsnd] at hack
  by_cases hbit : p.ack = true
  · rw [if_neg (by simp [hbit])] at hack
    by_cases hnew : betweenEqualRight e.rc.snd.sndUna p.ackNumber e.rc.snd.sndMax = true
    · have hnot : countsDuplicate e.rc p = false := by simp [countsDuplicate, hnew]
      rw [if_pos hnew] at hack
      obtain ⟨e₂, h₂, hack⟩ := bind_eq_ok.1 hack
      cases hack
      rw [hnot]
      exact (hecho.trans (.handleValidAck h₂)).trans hrest
    · rw [if_neg hnew] at hack
      by_cases hbeyond : lessThan e.rc.snd.sndMax p.ackNumber = true
      · have hnot : countsDuplicate e.rc p = false := by simp [countsDuplicate, hbeyond]
        rw [if_pos hbeyond] at hack
        cases hack
        rw [hnot]
        exact (hecho.trans (.createAndDispatchAck _)).trans hrest
      · rw [if_neg hbeyond] at hack
        by_cases hbehind : betweenEqualLeft p.ackNumber e.rc.snd.sndUna e.rc.snd.sndNxt = true
        · have hcounts : countsDuplicate e.rc p = true := by simp [countsDuplicate, hbit, hnew, hbeyond, hbehind]
          rw [if_pos hbehind] at hack
          cases hack
          rw [if_pos hcounts]
          -- the counter does not read the echo reply that the packet has set
          have hcounted := (handleDuplicateAck_counted (hsame.trans hcounts)).trans hrest
          obtain ⟨q, hq, hfast⟩ := hcounted.queue
          have hfourth : fourthTaken (e.updateEchoReply p).rc p ↔ fourthTaken e.rc p := by
            unfold fourthTaken
            rw [hsame, hecho.number, hecho.duplicates]
          refine ⟨hcounted.number, ?_, q, ?_, ?_⟩
          · rw [hcounted.duplicates, hecho.number, hecho.duplicates]
          · rw [hq]
            exact congrArg (· ++ q) hqueue
          · rw [hfast]
            exact if_congr hfourth rfl rfl
        · have hnot : countsDuplicate e.rc p = false := by simp [countsDuplicate, hbehind]
          rw [if_neg hbehind] at hack
          cases hack
          rw [hnot]
          exact hecho.trans hrest
  · have hnot : countsDuplicate e.rc p = false := by simp [countsDuplicate, hbit]
    rw [if_pos (by simpa using hbit)] at hack
    cases hack
    rw [hnot]
    exact hecho.trans hrest

/-- `icontext_receive_packet`. -/
theorem receivePacket_counter (h : e.receivePacket p = .ok e') :
    if e.reachesReliability p && countsDuplicate e.rc p then Counted e p e' else Uncounted e e' := by
  have hcase := receivePacket_cases e p
  rw [h] at hcase
  unfold reachesReliability
  cases hcase with
  | corrupt hsum h =>
    cases h
    simp only [hsum, Bool.false_and]
    exact .refl e
  | skipping hsum hack hinv h =>
    simp only [hsum, hack, hinv, Bool.not_false, Bool.true_and, Bool.true_or]
    exact reliabilityReceivePacket_counter h.symm
  | lingering hack hseq _ h =>
    cases h
    simp only [hack, hseq, Bool.false_and, Bool.or_false, Bool.and_false]
    exact .managerReceivePacket e p
  | answered hack hseq h =>
    cases h
    simp only [hack, hseq, Bool.false_and, Bool.or_false, Bool.and_false]
    exact .createAndDispatchAck e
  | ignored hack hseq h =>
    cases h
    simp only [hack, hseq, Bool.false_and, Bool.or_false, Bool.and_false]
    exact .refl e
  | parked _ hack _ hfin hwnd h =>
    cases h
    simp only [hack, hfin, decide_eq_true hwnd, Bool.and_self, Bool.not_true, Bool.and_false, Bool.or_self,
      Bool.false_and]
    exact .of_eq rfl rfl rfl
  | taken hsum hack hseq hfin h =>
    have hpassed : (p.fin && decide (e.rc.rcvWnd.toNat < maxTcpReceiveWindowSize)) = false := by
      rw [← Bool.not_eq_true, Bool.and_eq_true, decide_eq_true_eq]
      rintro ⟨hf, hlt⟩
      have := hfin hf
      omega
    simp only [hsum, hack, hseq, hpassed, Bool.not_false, Bool.and_self, Bool.or_true, Bool.true_and]
    obtain ⟨e₁, h₁, h⟩ := bind_eq_ok.1 h.symm
    obtain ⟨e₂, h₂, h⟩ := bind_eq_ok.1 h
    cases h
    have hmanager := Uncounted.managerReceivePacket e₁ p
    have hrest := (hmanager.trans (.receiveUnlessDuplicate h₂)).trans (.runSavedClose e₂)
    have hcounter := reliabilityReceivePacket_counter h₁
    split
    · rename_i hc
      rw [if_pos hc] at hcounter
      exact hcounter.trans hrest
    · rename_i hc
      rw [if_neg hc] at hcounter
      exact hcounter.trans hrest

theorem drain_counter (hen : enabled .drain e) (h : step .drain e = .ok e') :
    Uncounted { e with queue := e.queue.tail } e' := by
  obtain ⟨v, vs, hq⟩ := List.exists_cons_of_ne_nil hen
  rw [hq, List.tail_cons]
  replace h : e.drain = .ok e' := h
  unfold drain at h
  rw [hq] at h
  simp only at h
  split at h
  · exact .handleProtocolEvent h
  · cases h
    exact .refl _

/-- The counter takes the packet that a step delivers, or it stays as it is. -/
theorem step_counter {i : Input} (hen : enabled i e) (h : step i e = .ok e') :
    (∃ p ∈ e.processed i, countsDuplicate e.rc p = true ∧ Counted { e with queue := e.queue.tail } p e') ∨
    ((∀ p ∈ e.processed i, countsDuplicate e.rc p = false) ∧ Uncounted { e with queue := e.queue.tail } e') := by
  have hnone (hd : e.delivered i = none) (hu : Uncounted { e with queue := e.queue.tail } e') :
      (∃ p ∈ e.processed i, countsDuplicate e.rc p = true ∧ Counted { e with queue := e.queue.tail } p e') ∨
      ((∀ p ∈ e.processed i, countsDuplicate e.rc p = false) ∧ Uncounted { e with queue := e.queue.tail } e') := by
    refine .inr ⟨fun p hp => ?_, hu⟩
    unfold processed at hp
    rw [hd] at hp
    cases hp
  by_cases hi : i = .drain
  · subst hi
    exact hnone rfl (drain_counter hen h)
  -- an event of low priority finds the queue empty
  have hq : e.queue = [] := by
    cases i with
    | drain => exact absurd rfl hi
    | _ => exact hen
  have hidle : { e with queue := e.queue.tail } = e := by rw [hq, List.tail_nil, ← hq]
  rw [hidle] at hnone ⊢
  replace h := step_ok h
  cases h with
  | dropped hd h => cases h; exact hnone hd (.refl e)
  | skipped => exact absurd rfl hi
  | event => exact absurd rfl hi
  | @packet _ p ps hd _ _ h =>
    have hcounter := receivePacket_counter h.symm
    have hreach : ({ e with redelivered := ps } : Endpoint).reachesReliability p = e.reachesReliability p := rfl
    rw [hreach] at hcounter
    have hprocessed : e.processed i = if e.reachesReliability p then some p else none := by
      unfold processed
      rw [hd]
      rfl
    by_cases hr : e.reachesReliability p = true
    · rw [hprocessed, if_pos hr]
      by_cases hc : countsDuplicate e.rc p = true
      · rw [hr, Bool.true_and, if_pos hc] at hcounter
        exact .inl ⟨p, rfl, hc, hcounter.number, hcounter.duplicates, hcounter.queue⟩
      · rw [hr, Bool.true_and, if_neg hc] at hcounter
        refine .inr ⟨?_, hcounter.number, hcounter.duplicates, hcounter.queue⟩
        intro q hq
        cases hq
        simpa using hc
    · rw [hprocessed, if_neg hr]
      simp only [hr, Bool.false_and] at hcounter
      refine .inr ⟨?_, hcounter.number, hcounter.duplicates, hcounter.queue⟩
      intro q hq
      cases hq
  | listen l _ h => cases h; exact hnone rfl (.of_rc (ManagerChange.listen e l).rc (.managerListen e l))
  | connect c _ h => cases h; exact hnone rfl (.managerConnect e c)
  | send s _ _ h => exact hnone rfl (.send h.symm)
  | receive r _ _ h => exact hnone rfl (.receive h.symm)
  | close c _ h => cases h; exact hnone rfl (.close e c)
  | timerFired t _ _ h => exact hnone rfl (.timerFired h.symm)
  | tick now _ h => cases h; exact hnone rfl (.of_eq rfl rfl rfl)

/-! ### Duplicate ACKs of one number -/

/-- What has happened since `snd_una` changed last. -/
structure DuplicateHistory where
  /-- The duplicate ACKs processed. -/
  duplicates : Nat := 0
  /-- The fast retransmissions requested. -/
  requests : Nat := 0
  deriving DecidableEq

/-- The fast retransmissions that a step requests: those among the events it adds to the queue. -/
def fastRequests (e e' : Endpoint) : Nat := fastResends (e'.queue.drop e.queue.tail.length)

/-- The step processes a duplicate ACK. -/
def readsDuplicate (e : Endpoint) (i : Input) : Bool := (e.processed i).any (duplicatesAck e.rc)

/-- Counts the duplicate ACKs and the requests of one `snd_una`. -/
def observeDuplicates (e : Endpoint) (i : Input) (e' : Endpoint) (h : DuplicateHistory) : DuplicateHistory :=
  if e'.rc.snd.sndUna = e.rc.snd.sndUna then
    ⟨h.duplicates + (e.readsDuplicate i).toNat, h.requests + e.fastRequests e'⟩
  else ⟨0, e.fastRequests e'⟩

/-- The endpoint with the history of its duplicate ACKs. -/
def duplicateMachine : Transition.Machine (Endpoint × DuplicateHistory) Input Abort := machine.observed observeDuplicates

instance (i : Input) (s : Endpoint × DuplicateHistory) : Decidable (duplicateMachine.enabled i s) :=
  inferInstanceAs (Decidable (enabled i s.1))

/-- The step processes the third duplicate ACK of a `snd_una`. -/
def readsThird (s : Endpoint × DuplicateHistory) (i : Input) : Prop := s.1.readsDuplicate i = true ∧ s.2.duplicates = 2

instance (s : Endpoint × DuplicateHistory) (i : Input) : Decidable (readsThird s i) :=
  inferInstanceAs (Decidable (_ ∧ _))

/-- Fast retransmission: the step requests one at the third duplicate ACK only, and `is_duplicate_ack` foretells the count
that the number of the packet has after the step. -/
structure FastRetransmits (s : Endpoint × DuplicateHistory) (i : Input) (e' : Endpoint) : Prop where
  requests : s.1.fastRequests e' = if readsThird s i then 1 else 0
  foretold : ∀ p ∈ s.1.processed i,
    (isDuplicateAck s.1.rc p = true ↔ e'.rc.duplicateAckNumber = p.ackNumber ∧ 3 ≤ e'.rc.duplicates)

/-- The counter suits a packet.  The fourth packet that it takes with one number is the third duplicate ACK; and it has not
taken too many with the number of a packet that it passes over. -/
def CountsThird (s : Endpoint × DuplicateHistory) (p : TCPPacket) : Prop :=
  (fourthTaken s.1.rc p ↔ duplicatesAck s.1.rc p = true ∧ s.2.duplicates = 2) ∧
  (countsDuplicate s.1.rc p = false → s.1.rc.duplicateAckNumber = p.ackNumber →
    ((p.ack && betweenEqualLeft p.ackNumber s.1.rc.snd.sndUna s.1.rc.snd.sndNxt) = true → s.1.rc.duplicates ≠ 2) ∧
    ((p.ack && betweenEqualLeft p.ackNumber s.1.rc.snd.sndUna s.1.rc.snd.sndNxt) = false → s.1.rc.duplicates < 3))

instance (s : Endpoint × DuplicateHistory) (p : TCPPacket) : Decidable (CountsThird s p) :=
  inferInstanceAs (Decidable (_ ∧ _))

/-- The counter suits the packet that a step processes. -/
def countsRight (s : Endpoint × DuplicateHistory) (i : Input) : Prop := ∀ p ∈ s.1.processed i, CountsThird s p

instance (s : Endpoint × DuplicateHistory) (i : Input) : Decidable (countsRight s i) :=
  inferInstanceAs (Decidable (∀ p ∈ s.1.processed i, _))

/-- The counter asks for a retransmission at the fourth packet that it takes with one number, whatever the packet brings. -/
theorem step_fastRequests {i : Input} (hen : enabled i e) (h : step i e = .ok e') :
    e.fastRequests e' = if ∃ p ∈ e.processed i, fourthTaken e.rc p then 1 else 0 := by
  unfold fastRequests
  rcases step_counter hen h with ⟨p, hp, -, hcounted⟩ | ⟨hnone, huncounted⟩
  · obtain ⟨q, hq, hfast⟩ := hcounted.queue
    rw [hq, List.drop_left, hfast]
    have hp : e.processed i = some p := hp
    refine if_congr ?_ rfl rfl
    simp [hp, fourthTaken, countsDuplicate]
  · obtain ⟨q, hq, hzero⟩ := huncounted.queue
    rw [hq, List.drop_left, hzero, if_neg]
    rintro ⟨p, hp, hfourth⟩
    have hcounts := hfourth.1
    rw [hnone p hp] at hcounts
    cases hcounts

/-- The number of the counter after a step, for a packet that was processed. -/
theorem step_foretold {i : Input} (hen : enabled i e) (h : step i e = .ok e') (hp : p ∈ e.processed i) :
    (isDuplicateAck e.rc p = true ↔ e'.rc.duplicateAckNumber = p.ackNumber ∧ 3 ≤ e'.rc.duplicates) ↔
    (countsDuplicate e.rc p = false → e.rc.duplicateAckNumber = p.ackNumber →
      ((p.ack && betweenEqualLeft p.ackNumber e.rc.snd.sndUna e.rc.snd.sndNxt) = true → e.rc.duplicates ≠ 2) ∧
      ((p.ack && betweenEqualLeft p.ackNumber e.rc.snd.sndUna e.rc.snd.sndNxt) = false → e.rc.duplicates < 3)) := by
  have hp : e.processed i = some p := hp
  have hdup : isDuplicateAck e.rc p = true ↔ (p.ack && betweenEqualLeft p.ackNumber e.rc.snd.sndUna e.rc.snd.sndNxt) = true ∧
      e.rc.duplicateAckNumber = p.ackNumber ∧ 2 ≤ e.rc.duplicates := by
    unfold isDuplicateAck
    simp only [Bool.and_eq_true, beq_iff_eq, decide_eq_true_eq]
    constructor
    · rintro ⟨⟨⟨hack, hn⟩, hbehind⟩, hle⟩
      exact ⟨⟨hack, hbehind⟩, hn, by omega⟩
    · rintro ⟨⟨hack, hbehind⟩, hn, hle⟩
      exact ⟨⟨⟨hack, hn⟩, hbehind⟩, by omega⟩
  rw [hdup]
  rcases step_counter hen h with ⟨q, hq, hc, hcounted⟩ | ⟨hnone, huncounted⟩
  · rw [hp] at hq
    cases hq
    have hbehind : (p.ack && betweenEqualLeft p.ackNumber e.rc.snd.sndUna e.rc.snd.sndNxt) = true := by
      unfold countsDuplicate at hc
      simp only [Bool.and_eq_true] at hc ⊢
      exact ⟨hc.1.1.1, hc.2⟩
    refine iff_of_true ?_ fun hnot => absurd hc (by simp [hnot])
    rw [hcounted.number, hcounted.duplicates]
    simp only [hbehind]
    by_cases hn : e.rc.duplicateAckNumber = p.ackNumber
    · simp only [hn]
      simp
      omega
    · simp [hn]
  · have hc := hnone p hp
    rw [huncounted.number, huncounted.duplicates]
    simp only [hc]
    by_cases hn : e.rc.duplicateAckNumber = p.ackNumber
    · by_cases hb : (p.ack && betweenEqualLeft p.ackNumber e.rc.snd.sndUna e.rc.snd.sndNxt) = true
      · simp only [hn, hb]
        simp
        omega
      · simp only [hn, hb]
        simp
    · simp [hn]

/-- A step keeps the law of fast retransmission exactly when the counter suits the packet that it processes. -/
theorem step_fastRetransmits {s : Endpoint × DuplicateHistory} {i : Input} (hen : enabled i s.1)
    (h : step i s.1 = .ok e') : FastRetransmits s i e' ↔ countsRight s i := by
  have hrequests := step_fastRequests hen h
  cases hp : s.1.processed i with
  | none =>
    have hthird : ¬readsThird s i := by simp [readsThird, readsDuplicate, hp]
    have hnone : ¬∃ p ∈ s.1.processed i, fourthTaken s.1.rc p := by simp [hp]
    refine iff_of_true ⟨?_, ?_⟩ ?_
    · rw [hrequests, if_neg hnone, if_neg hthird]
    · simp [hp]
    · simp [countsRight, hp]
  | some p =>
    have hfourth : (∃ p ∈ s.1.processed i, fourthTaken s.1.rc p) ↔ fourthTaken s.1.rc p := by simp [hp]
    have hthird : readsThird s i ↔ duplicatesAck s.1.rc p = true ∧ s.2.duplicates = 2 := by
      simp [readsThird, readsDuplicate, hp]
    have hforetold := step_foretold hen h (p := p) hp
    have honce : (if fourthTaken s.1.rc p then 1 else 0) = (if readsThird s i then 1 else 0) ↔
        (fourthTaken s.1.rc p ↔ readsThird s i) := by
      by_cases hf : fourthTaken s.1.rc p <;> by_cases ht : readsThird s i <;> simp [hf, ht]
    constructor
    · rintro ⟨hreq, htold⟩ q hq
      rw [hp] at hq
      cases hq
      rw [hrequests, if_congr hfourth rfl rfl, honce, hthird] at hreq
      exact ⟨hreq, hforetold.1 (htold p hp)⟩
    · intro hc
      obtain ⟨hreq, htold⟩ := hc p hp
      refine ⟨?_, fun q hq => ?_⟩
      · rw [hrequests, if_congr hfourth rfl rfl, honce, hthird]
        exact hreq
      · rw [hp] at hq
        cases hq
        exact hforetold.2 htold

/-- A packet that the counter takes does not move `snd_una`. -/
theorem step_sndUna {i : Input} (h : step i e = .ok e') (hp : p ∈ e.processed i) (hc : countsDuplicate e.rc p = true) :
    e'.rc.snd.sndUna = e.rc.snd.sndUna := by
  have hd : e.delivered i = some p := (Option.filter_eq_some_iff.1 hp).1
  cases step_sendStep h with
  | same hv _ => exact congrArg (fun v => v.snd.sndUna) hv
  | sent hi _ _ _ =>
    subst hi
    cases hd
  | acked hq _ hnew _ _ _ _ _ =>
    rw [hd] at hq
    cases hq
    simp [countsDuplicate, hnew] at hc
  | rewound hsnd _ _ _ _ =>
    rw [hsnd]
    rfl

/-- One `snd_una` sees one request, at its third duplicate ACK. -/
theorem step_requests {s t : Endpoint × DuplicateHistory} {i : Input}
    (hs : s.2.requests ≤ 1 ∧ (s.2.duplicates ≤ 2 → s.2.requests = 0)) (hen : duplicateMachine.enabled i s)
    (hc : countsRight s i) (h : duplicateMachine.step i s = .ok t) :
    t.2.requests ≤ 1 ∧ (t.2.duplicates ≤ 2 → t.2.requests = 0) := by
  obtain ⟨e, h₀⟩ := s
  obtain ⟨e', h₁⟩ := t
  obtain ⟨hstep, hobs⟩ := Transition.Machine.observed_step.1 h
  change h₁ = observeDuplicates e i e' h₀ at hobs
  have hlaw := (step_fastRetransmits (s := (e, h₀)) hen hstep).2 hc
  have hfast : e.fastRequests e' = if readsThird (e, h₀) i then 1 else 0 := hlaw.requests
  obtain ⟨hone, hzero⟩ := hs
  simp only at hone hzero ⊢
  rw [hobs]
  unfold observeDuplicates
  by_cases hthird : readsThird (e, h₀) i
  · rw [if_pos hthird] at hfast
    obtain ⟨hread, htwo⟩ := hthird
    have htwo : h₀.duplicates = 2 := htwo
    have hread : e.readsDuplicate i = true := hread
    obtain ⟨p, hp, hdup⟩ := (Option.any_eq_true _ _).1 hread
    have hfourth : fourthTaken e.rc p := (hc p hp).1.2 ⟨hdup, htwo⟩
    rw [if_pos (step_sndUna hstep hp hfourth.1), hfast, hread]
    have hnone := hzero (by omega)
    simp only [Bool.toNat_true]
    omega
  · rw [if_neg hthird] at hfast
    rw [hfast]
    by_cases hsame : e'.rc.snd.sndUna = e.rc.snd.sndUna
    · rw [if_pos hsame]
      refine ⟨by simpa using hone, fun hle => ?_⟩
      simp only at hle ⊢
      exact hzero (by omega)
    · rw [if_neg hsame]
      simp

end

/-- In every run in which the counter suits each packet processed, each step requests a retransmission exactly at the third
duplicate ACK, with `is_duplicate_ack` foretelling the count, and one at most is requested while `snd_una` stays; a further
step keeps the law if and only if the counter suits its packet. -/
theorem fast_retransmission {id : SocketId} {l r : AddressPort} {is : List Input} {s : Endpoint × DuplicateHistory}
    (h : duplicateMachine.Run countsRight (create id l r, {}) is s) :
    (∀ js i ks, is = js ++ i :: ks → ∃ t u, duplicateMachine.Run countsRight (create id l r, {}) js t ∧
      duplicateMachine.step i t = .ok u ∧ FastRetransmits t i u.1) ∧
    s.2.requests ≤ 1 ∧
    ∀ i e', enabled i s.1 → step i s.1 = .ok e' → (FastRetransmits s i e' ↔ countsRight s i) := by
  refine ⟨?_, ?_, fun i e' hen hstep => step_fastRetransmits hen hstep⟩
  · refine h.forall_step (fun t i u => FastRetransmits t i u.1) ?_
    intro js t i u _ hen hc hstep
    exact (step_fastRetransmits hen (Transition.Machine.observed_step.1 hstep).1).2 hc
  · have hinv := h.invariant (fun s => s.2.requests ≤ 1 ∧ (s.2.duplicates ≤ 2 → s.2.requests = 0)) ⟨by simp, by simp⟩
      fun _ _ _ hs hen hc hstep => step_requests hs hen hc hstep
    exact hinv.1

/-- A byte is on its way, and a data segment comes before the duplicate ACKs: the third of them asks for the byte again. -/
theorem fast_retransmission_behind_data : ∃ s : Endpoint × DuplicateHistory, s.2.duplicates = 3 ∧ s.2.requests = 1 ∧
    s.2.requests ≤ 1 := by
  have h : (duplicateMachine.replay countsRight (connectScript 100 ++ [.send ⟨1, [7]⟩, .drain, .drain,
      .packet (segment 101 2 [1]), .drain, .drain, .packet (segment 102 2 []), .packet (segment 102 2 []),
      .packet (segment 102 2 [])]) (client, {})).any (fun s => decide (s.2 = ⟨3, 1⟩)) = true := by decide +kernel
  obtain ⟨s, hrun, hq⟩ := Transition.Machine.exists_run h
  have hs := of_decide_eq_true hq
  exact ⟨s, by rw [hs], by rw [hs], (@fast_retransmission 1 clientAddress ⟨0, 0⟩ _ s hrun).2.1⟩

/-- Nothing is requested at the third of three duplicate ACKs; and at the fourth ACK of a byte acknowledged long ago, which is
no duplicate ACK, a retransmission is. -/
theorem third_duplicate_missed :
    (∃ s e', duplicateMachine.Run Transition.anyStep (client, {}) (connectScript 100 ++ [.send ⟨1, [7]⟩, .drain, .drain,
        .packet (segment 101 2 []), .packet (segment 101 2 [])]) s ∧
      step (.packet (segment 101 2 [])) s.1 = .ok e' ∧ readsThird s (.packet (segment 101 2 [])) ∧
      s.1.fastRequests e' = 0) ∧
    ∃ s e', duplicateMachine.Run Transition.anyStep (client, {}) (connectScript 100 ++ [.send ⟨1, [7]⟩, .drain, .drain,
        .packet (segment 101 3 []), .drain, .send ⟨2, [8]⟩, .drain, .drain, .packet (segment 101 2 []),
        .packet (segment 101 2 []), .packet (segment 101 2 [])]) s ∧
      step (.packet (segment 101 2 [])) s.1 = .ok e' ∧ s.1.readsDuplicate (.packet (segment 101 2 [])) = false ∧
      s.1.fastRequests e' = 1 := by
  have hmissed : (duplicateMachine.replay Transition.anyStep (connectScript 100 ++ [.send ⟨1, [7]⟩, .drain, .drain,
      .packet (segment 101 2 []), .packet (segment 101 2 [])]) (client, {})).any (fun s =>
      decide (readsThird s (.packet (segment 101 2 []))) &&
        machine.leads (.packet (segment 101 2 [])) s.1 (fun e' => s.1.fastRequests e' == 0)) = true := by decide +kernel
  have hstale : (duplicateMachine.replay Transition.anyStep (connectScript 100 ++ [.send ⟨1, [7]⟩, .drain, .drain,
      .packet (segment 101 3 []), .drain, .send ⟨2, [8]⟩, .drain, .drain, .packet (segment 101 2 []),
      .packet (segment 101 2 []), .packet (segment 101 2 [])]) (client, {})).any (fun s =>
      !s.1.readsDuplicate (.packet (segment 101 2 [])) &&
        machine.leads (.packet (segment 101 2 [])) s.1 (fun e' => s.1.fastRequests e' == 1)) = true := by decide +kernel
  obtain ⟨s, hrun, hq⟩ := Transition.Machine.exists_run hmissed
  obtain ⟨s', hrun', hq'⟩ := Transition.Machine.exists_run hstale
  simp only [Bool.and_eq_true, decide_eq_true_eq, Bool.not_eq_true', Transition.Machine.leads_iff, beq_iff_eq] at hq hq'
  obtain ⟨hthird, e', hstep, hzero⟩ := hq
  obtain ⟨hnone, f', hstep', hone⟩ := hq'
  exact ⟨⟨s, e', hrun, hstep, hthird, hzero⟩, s', f', hrun', hstep', hnone, hone⟩

end Endpoint

end Wifu
