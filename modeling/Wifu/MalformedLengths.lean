import Wifu.HeaderLocation
import Wifu.SequenceGate

/-!
# Data offsets that do not fit (`TCPPacket.cc`, `TCPTahoe.cc`)

`get_data_length_bytes` is a signed difference of three fields of the header.  An offset past the end of the segment makes
it negative, an offset below five makes bytes of the header data.  Nothing checks the offset itself; what stands between
such a packet and the contexts is the sequence check.
-/

namespace Wifu

open ByteMemory

namespace WirePacket

/-- `TCPOPT_TIMESTAMP`. -/
def tcpoptTimestamp : UInt8 := 8

/-- The timestamps in the bytes of an option. -/
def timestampOf (o : TCPHeaderOption) : TCPTimestampOption :=
  ⟨bigEndian32 (fun i => o.data.getD i 0) 2, bigEndian32 (fun i => o.data.getD i 0) 6⟩

/-- The packet after its TCP checksum has been validated. -/
def checked (p : WirePacket) : WirePacket := p.isValidTcpChecksum.2

theorem getDataLengthBytes_lt (p : WirePacket) : p.getDataLengthBytes < 65536 := by
  have hlt := p.getIpTotLength.isLt
  show (p.getIpTotLength.toNat : Int) - p.getIpHeaderLengthBytes - p.getTcpHeaderLengthBytes < 65536
  omega

/-- What the getters return to the protocol for a packet whose checksum has been validated; `option` is the timestamp option
found. -/
def view (p : WirePacket) (validChecksum : Bool) (option : Option TCPHeaderOption) : TCPPacket where
  source := ⟨bigEndian32 p.payload 12, p.getSourcePort⟩
  destination := ⟨bigEndian32 p.payload 16, p.getDestinationPort⟩
  sequenceNumber := p.getTcpSequenceNumber
  ackNumber := p.getTcpAckNumber
  urg := p.isTcpUrg
  ack := p.isTcpAck
  psh := p.isTcpPsh
  rst := p.isTcpRst
  syn := p.isTcpSyn
  fin := p.isTcpFin
  receiveWindowSize := p.getTcpReceiveWindowSize
  timestamp := option.map timestampOf
  dataLengthBytes := p.getDataLengthBytes
  data := Slice.slice p.payload p.getData p.getDataLengthBytes.toNat
  dataLengthBytes_lt := p.getDataLengthBytes_lt
  length_data := Slice.length_slice _ _ _
  validChecksum := validChecksum

/-- A packet as the protocol sees it; `none` when its options cannot be parsed. -/
def toTCPPacket (p : WirePacket) (fuel : Nat) : Option TCPPacket :=
  (p.checked.getOption fuel tcpoptTimestamp).map (p.checked.view p.isValidTcpChecksum.1)

/-- The data offset is too small for the header, or points past the end of the segment. -/
def Malformed (p : WirePacket) : Prop :=
  p.getTcpDataOffset < 5 ∨ p.getIpTotLength.toNat < p.getIpHeaderLengthBytes + p.getTcpHeaderLengthBytes

/-- The payload lies behind the TCP header of twenty bytes and inside the packet. -/
def Located (p : WirePacket) : Prop :=
  p.getNextHeader + tcpHeaderSize ≤ p.getData ∧ p.getData + p.getDataLengthBytes ≤ p.getIpTotLength.toNat

instance (p : WirePacket) : Decidable p.Malformed := inferInstanceAs (Decidable (_ ∨ _))

instance (p : WirePacket) : Decidable p.Located := inferInstanceAs (Decidable (_ ∧ _))

section

variable {p : WirePacket}

/-- With a data offset of five or more what is handed on as payload is payload. -/
theorem located_iff (h : p.getIpHeaderLengthBytes + p.getTcpHeaderLengthBytes ≤ p.getIpTotLength.toNat) :
    p.Located ↔ 5 ≤ p.getTcpDataOffset := by
  have hlength : p.getDataLengthBytes =
      p.getIpTotLength.toNat - p.getIpHeaderLengthBytes - p.getTcpHeaderLengthBytes := rfl
  have hdata : p.getData = p.getIpHeaderLengthBytes + p.getTcpHeaderLengthBytes := rfl
  have hnext : p.getNextHeader = p.getIpHeaderLengthBytes := rfl
  have hheader : p.getTcpHeaderLengthBytes = p.getTcpDataOffset * 4 := rfl
  have hsize : tcpHeaderSize = 20 := rfl
  unfold Located
  omega

/-- No option is looked for in a header that is too short for one. -/
theorem getOption_short {fuel : Nat} {kind : UInt8} (hoptions : p.options = []) (h : p.getTcpDataOffset < 5) :
    p.getOption fuel kind = some none := by
  have hparse : TCPHeaderOptionCollection.parseOptions (fun i => p.payload (p.getOptionsPointer + i))
      (BitVec.ofNat 4 p.getTcpDataOffset) fuel = some {} := by
    unfold TCPHeaderOptionCollection.parseOptions
    rw [if_neg]
    rw [BitVec.toNat_ofNat]
    omega
  unfold getOption parsedOptions
  rw [if_pos hoptions, hparse]
  rfl

end

end WirePacket

namespace Endpoint

/-- The packet's payload gets to `handle_data`. -/
def handsData (e : Endpoint) (p : TCPPacket) : Bool :=
  e.accepts p && !p.syn && !p.fin && decide (0 < p.dataLengthBytes)

/-- The contexts, the buffers and the collection are as before. -/
structure Unchanged (e e' : Endpoint) : Prop where
  container : e'.toTCPTahoeIContextContainer = e.toTCPTahoeIContextContainer
  socket : e'.socket = e.socket
  nextSocket : e'.nextSocket = e.nextSocket
  deleted : e'.deleted = e.deleted

/-- The packet changes nothing, and no payload of it is taken that does not lie where payload lies. -/
def Rejects (e : Endpoint) (w : WirePacket) (p : TCPPacket) : Prop :=
  (∃ e', e.receivePacket p = .ok e' ∧ Unchanged e e') ∧ (e.handsData p = true → w.Located)

/-- Neither data nor a control bit, or a control bit that stands right before `rcv_nxt` already. -/
def Idle (rc : TCPTahoeReliabilityContext) (p : TCPPacket) : Prop :=
  (p.syn = true ∨ p.fin = true → p.sequenceNumber + 1 = rc.rcvNxt) ∧
  (p.syn = true → rc.receiveWindow.setFirstSequenceNumber (p.sequenceNumber + 1) = rc.receiveWindow) ∧
  (¬(p.syn = true ∨ p.fin = true) → p.dataLengthBytes ≤ 0)

/-- The packet fails the sequence check, and a FIN does so outside TIME-WAIT (where it would have to find a timer that has
not been made yet); or it skips the sequence check, and all that the reliability state would write is there already. -/
def Harmless (e : Endpoint) (p : TCPPacket) : Prop :=
  (p.ack = true ∧ isValidAckNumber e.rc p = false ∧ (∀ ts ∈ p.timestamp, ts.timestamp = e.rc.echoReply) ∧
    (lessThan e.rc.snd.sndMax p.ackNumber = true ∨
      betweenEqualLeft p.ackNumber e.rc.snd.sndUna e.rc.snd.sndNxt = false ∧ Idle e.rc p)) ∨
  ((p.ack = true → isValidAckNumber e.rc p = true) ∧ isValidSequenceNumber e.rc p = false ∧
    (e.cmc.state = .timeWait → p.fin = true → e.cmc.timeWaitTimer = some (e.newTimeout e.cmc.socket)))

instance (rc : TCPTahoeReliabilityContext) (p : TCPPacket) : Decidable (Idle rc p) :=
  inferInstanceAs (Decidable (_ ∧ _))

instance (e : Endpoint) (p : TCPPacket) : Decidable (e.Harmless p) := inferInstanceAs (Decidable (_ ∨ _))

section

variable {e e' : Endpoint} {p : TCPPacket}

/-! ### Packets that skip the sequence check -/

theorem updateEchoReply_snd (e : Endpoint) (p : TCPPacket) : (e.updateEchoReply p).rc.snd = e.rc.snd := by
  unfold updateEchoReply
  split <;> rfl

/-- The reliability state on a packet whose ACK number acknowledges nothing new. -/
theorem reliabilityReceivePacket_old (hack : p.ack = true)
    (hold : betweenEqualRight e.rc.snd.sndUna p.ackNumber e.rc.snd.sndMax = false) :
    e.reliabilityReceivePacket p =
      if lessThan e.rc.snd.sndMax p.ackNumber then .ok (e.updateEchoReply p).createAndDispatchAck
      else if betweenEqualLeft p.ackNumber e.rc.snd.sndUna e.rc.snd.sndNxt then
        ((e.updateEchoReply p).handleDuplicateAck p).handleControlBitsAndData p
      else (e.updateEchoReply p).handleControlBitsAndData p := by
  unfold reliabilityReceivePacket handleAck
  rw [updateEchoReply_snd, if_neg (by simp [hack]), if_neg (by simp [hold])]
  split
  · rfl
  · split <;> rfl

theorem updateEchoReply_unchanged (h : ∀ ts ∈ p.timestamp, ts.timestamp = e.rc.echoReply) : e.updateEchoReply p = e := by
  unfold updateEchoReply
  split
  · rfl
  · rename_i ts hts
    show { e with rc := { e.rc with echoReply := ts.timestamp } } = e
    rw [h ts hts]

theorem echoReply_updateEchoReply {ts : TCPTimestampOption} (h : p.timestamp = some ts) :
    (e.updateEchoReply p).rc.echoReply = ts.timestamp := by
  unfold updateEchoReply
  rw [h]

theorem handleControlBitsAndData_idle (h : Idle e.rc p) : e.handleControlBitsAndData p = .ok e := by
  obtain ⟨hnext, hwindow, hempty⟩ := h
  unfold handleControlBitsAndData
  by_cases hctl : p.syn = true ∨ p.fin = true
  · have hnext := hnext hctl
    rw [if_pos (by simpa using hctl)]
    unfold handleControlBits
    simp only
    rw [hnext]
    split
    · rename_i hsyn
      have hwindow := hwindow hsyn
      rw [hnext] at hwindow
      rw [hwindow]
    · rfl
  · have hempty := hempty hctl
    rw [if_neg (by simpa using hctl), if_neg (by omega)]

/-- What a packet without data leaves. -/
theorem handleControlBitsAndData_empty (hdata : p.dataLengthBytes ≤ 0) (h : e.handleControlBitsAndData p = .ok e') :
    (p.syn = true ∨ p.fin = true) ∧ e' = e.handleControlBits p ∨ ¬(p.syn = true ∨ p.fin = true) ∧ e' = e := by
  unfold handleControlBitsAndData at h
  split at h
  · rename_i hctl
    cases h
    exact .inl ⟨by simpa using hctl, rfl⟩
  · rename_i hctl
    rw [if_neg (by omega)] at h
    cases h
    exact .inr ⟨by simpa using hctl, rfl⟩

/-- A packet without data that is taken although its ACK number acknowledges nothing new changes nothing only when it has
nothing to say. -/
theorem Unchanged.idle {e₁ : Endpoint} (hdata : p.dataLengthBytes ≤ 0) (h : e₁.handleControlBitsAndData p = .ok e')
    (hnext : e'.rc.rcvNxt = e.rc.rcvNxt) (hwindow : e'.rc.receiveWindow = e.rc.receiveWindow)
    (hwindow₁ : e₁.rc.receiveWindow = e.rc.receiveWindow) : Idle e.rc p := by
  rcases handleControlBitsAndData_empty hdata h with ⟨hctl, rfl⟩ | ⟨hctl, rfl⟩
  · refine ⟨fun _ => hnext, fun hsyn => ?_, fun hnone => absurd hctl hnone⟩
    have hset : (e₁.handleControlBits p).rc.receiveWindow =
        e₁.rc.receiveWindow.setFirstSequenceNumber (p.sequenceNumber + 1) := by
      unfold handleControlBits
      simp only [hsyn, if_true]
    rw [hset, hwindow₁] at hwindow
    exact hwindow
  · exact ⟨fun h => absurd h hctl, fun h => absurd (.inl h) hctl, fun _ => hdata⟩

/-- A counted ACK is a change. -/
theorem countDuplicateAck_ne (rc : TCPTahoeReliabilityContext) (p : TCPPacket) :
    (countDuplicateAck rc p).duplicateAckNumber ≠ rc.duplicateAckNumber ∨
      (countDuplicateAck rc p).duplicates ≠ rc.duplicates := by
  unfold countDuplicateAck
  split
  · exact .inr fun h => by
      have h : rc.duplicates + 1 = rc.duplicates := h
      omega
  · rename_i hne
    exact .inl fun h => hne h.symm

/-- The packet skips the sequence check: only the reliability state sees it. -/
theorem receivePacket_skipping (hsum : p.validChecksum = true) (hack : p.ack = true)
    (hinv : isValidAckNumber e.rc p = false) : e.receivePacket p =
      if lessThan e.rc.snd.sndMax p.ackNumber then .ok (e.updateEchoReply p).createAndDispatchAck
      else if betweenEqualLeft p.ackNumber e.rc.snd.sndUna e.rc.snd.sndNxt then
        ((e.updateEchoReply p).handleDuplicateAck p).handleControlBitsAndData p
      else (e.updateEchoReply p).handleControlBitsAndData p := by
  have hold : betweenEqualRight e.rc.snd.sndUna p.ackNumber e.rc.snd.sndMax = false := by
    by_contra hnew
    have hvalid : isValidAckNumber e.rc p = true := valid_of_betweenRight (by simpa using hnew)
    rw [hinv] at hvalid
    cases hvalid
  rw [← reliabilityReceivePacket_old hack hold]
  unfold receivePacket
  rw [if_neg (by simp [hsum]), if_pos (by simp [hack, hinv])]

/-! ### Packets that fail the sequence check -/

theorem receivePacket_invalid (hsum : p.validChecksum = true) (hack : p.ack = true → isValidAckNumber e.rc p = true)
    (hseq : isValidSequenceNumber e.rc p = false) : e.receivePacket p =
      if e.cmc.state = .timeWait then .ok (e.managerReceivePacket p)
      else if e.cmc.state.canSendAck then .ok e.createAndDispatchAck else .ok e := by
  unfold receivePacket
  rw [if_neg (by simp [hsum]), if_neg, if_pos (by simp [hseq])]
  rw [Bool.and_eq_true, Bool.not_eq_true']
  rintro ⟨hack', hinv⟩
  rw [hack hack'] at hinv
  cases hinv

theorem accepts_of_invalid (hack : p.ack = true → isValidAckNumber e.rc p = true)
    (hseq : isValidSequenceNumber e.rc p = false) : e.accepts p = false := by
  unfold accepts
  rw [hseq, Bool.false_and]
  split
  · rename_i hinv
    rw [Bool.and_eq_true, Bool.not_eq_true'] at hinv
    rw [hack hinv.1] at hinv
    cases hinv.2
  · exact Bool.and_false _

/-- The timer of TIME-WAIT when it has been started again. -/
theorem timeWaitTimer_restart (e : Endpoint) :
    (e.createAndDispatchAck.stopTimeWaitTimer.startTimeWaitTimer).cmc =
      { e.cmc with timeWaitTimer := some (e.newTimeout e.cmc.socket) } := rfl

/-- A harmless packet is rejected, and its payload is not taken. -/
theorem Harmless.unchanged (h : e.Harmless p) (hsum : p.validChecksum = true) :
    (∃ e', e.receivePacket p = .ok e' ∧ Unchanged e e') ∧ e.handsData p = false := by
  rcases h with ⟨hack, hinv, hecho, hrest⟩ | ⟨hack, hseq, htimer⟩
  · rw [receivePacket_skipping hsum hack hinv, updateEchoReply_unchanged hecho]
    by_cases hbeyond : lessThan e.rc.snd.sndMax p.ackNumber = true
    · rw [if_pos hbeyond]
      refine ⟨⟨_, rfl, ⟨rfl, rfl, rfl, rfl⟩⟩, ?_⟩
      unfold handsData accepts
      rw [if_pos (by simp [hack, hinv]), hbeyond]
      simp
    · obtain ⟨hdup, hidle⟩ := hrest.resolve_left hbeyond
      rw [if_neg hbeyond, if_neg (by simp [hdup]), handleControlBitsAndData_idle hidle]
      refine ⟨⟨_, rfl, ⟨rfl, rfl, rfl, rfl⟩⟩, ?_⟩
      by_contra hhands
      unfold handsData at hhands
      simp only [Bool.not_eq_false, Bool.and_eq_true, Bool.not_eq_true', decide_eq_true_eq] at hhands
      have hempty := hidle.2.2 (by simp [hhands.1.2, hhands.1.1.2])
      omega
  · refine ⟨?_, by unfold handsData; rw [accepts_of_invalid hack hseq]; rfl⟩
    rw [receivePacket_invalid hsum hack hseq]
    split
    · rename_i hstate
      refine ⟨_, rfl, ?_⟩
      unfold managerReceivePacket
      rw [hstate]
      simp only
      split
      · rename_i hfin
        have hcmc : (e.createAndDispatchAck.stopTimeWaitTimer.startTimeWaitTimer).cmc = e.cmc := by
          rw [timeWaitTimer_restart, ← htimer hstate hfin]
        refine ⟨?_, rfl, rfl, rfl⟩
        show { e.toTCPTahoeIContextContainer with
          cmc := (e.createAndDispatchAck.stopTimeWaitTimer.startTimeWaitTimer).cmc } = e.toTCPTahoeIContextContainer
        rw [hcmc]
      · exact ⟨rfl, rfl, rfl, rfl⟩
    · split
      · exact ⟨_, rfl, ⟨rfl, rfl, rfl, rfl⟩⟩
      · exact ⟨_, rfl, ⟨rfl, rfl, rfl, rfl⟩⟩

/-- A negative length fails the sequence check once a number is expected. -/
theorem isValidSequenceNumber_negative (hnext : e.rc.rcvNxt ≠ 0) (hdata : p.dataLengthBytes < 0) :
    isValidSequenceNumber e.rc p = false := by
  unfold isValidSequenceNumber
  rw [if_neg hnext, if_neg (by omega), if_neg (by omega), if_neg (by omega), if_neg (by omega)]

/-- When a packet of negative length changes nothing, it is harmless. -/
theorem Unchanged.harmless (hdata : p.dataLengthBytes < 0) (hnext : e.rc.rcvNxt ≠ 0) (hsum : p.validChecksum = true)
    (hok : e.receivePacket p = .ok e') (h : Unchanged e e') : e.Harmless p := by
  have hrc : e'.rc = e.rc := congrArg TCPTahoeIContextContainer.rc h.container
  have hcmc : e'.cmc = e.cmc := congrArg TCPTahoeIContextContainer.cmc h.container
  by_cases hskip : p.ack = true ∧ isValidAckNumber e.rc p = false
  · obtain ⟨hack, hinv⟩ := hskip
    rw [receivePacket_skipping hsum hack hinv] at hok
    have hwindow (e : Endpoint) : (e.updateEchoReply p).rc.receiveWindow = e.rc.receiveWindow := by
      unfold updateEchoReply
      split <;> rfl
    -- nothing after `update_echo_reply` touches the timestamp
    have hecho (hkept : e'.rc.echoReply = (e.updateEchoReply p).rc.echoReply) :
        ∀ ts ∈ p.timestamp, ts.timestamp = e.rc.echoReply := by
      intro ts hts
      rw [← hrc, hkept, echoReply_updateEchoReply hts]
    refine .inl ⟨hack, hinv, ?_⟩
    by_cases hbeyond : lessThan e.rc.snd.sndMax p.ackNumber = true
    · rw [if_pos hbeyond] at hok
      cases hok
      exact ⟨hecho rfl, .inl hbeyond⟩
    rw [if_neg hbeyond] at hok
    by_cases hdup : betweenEqualLeft p.ackNumber e.rc.snd.sndUna e.rc.snd.sndNxt = true
    · rw [if_pos hdup] at hok
      -- the duplicate ACK is counted
      exfalso
      have hcount : e'.rc.duplicateAckNumber = (countDuplicateAck (e.updateEchoReply p).rc p).duplicateAckNumber ∧
          e'.rc.duplicates = (countDuplicateAck (e.updateEchoReply p).rc p).duplicates := by
        have hcounted : ((e.updateEchoReply p).handleDuplicateAck p).rc.duplicateAckNumber =
            (countDuplicateAck (e.updateEchoReply p).rc p).duplicateAckNumber ∧
            ((e.updateEchoReply p).handleDuplicateAck p).rc.duplicates =
              (countDuplicateAck (e.updateEchoReply p).rc p).duplicates := by
          unfold handleDuplicateAck
          simp only
          split <;> exact ⟨rfl, rfl⟩
        rcases handleControlBitsAndData_empty (Int.le_of_lt hdata) hok with ⟨-, rfl⟩ | ⟨-, rfl⟩ <;> exact hcounted
      have hsame : (e.updateEchoReply p).rc.duplicateAckNumber = e.rc.duplicateAckNumber ∧
          (e.updateEchoReply p).rc.duplicates = e.rc.duplicates := by
        unfold updateEchoReply
        split <;> exact ⟨rfl, rfl⟩
      rcases countDuplicateAck_ne (e.updateEchoReply p).rc p with hne | hne
      · exact hne (by rw [← hcount.1, hrc, hsame.1])
      · exact hne (by rw [← hcount.2, hrc, hsame.2])
    · rw [if_neg hdup] at hok
      refine ⟨?_, .inr ⟨by simpa using hdup, ?_⟩⟩
      · refine hecho ?_
        rcases handleControlBitsAndData_empty (Int.le_of_lt hdata) hok with ⟨-, rfl⟩ | ⟨-, rfl⟩ <;> rfl
      · exact Unchanged.idle (Int.le_of_lt hdata) hok (by rw [hrc]) (by rw [hrc]) (hwindow e)
  · have hseq := isValidSequenceNumber_negative (p := p) hnext hdata
    have hack : p.ack = true → isValidAckNumber e.rc p = true := by
      intro hack
      by_contra hinv
      exact hskip ⟨hack, by simpa using hinv⟩
    rw [receivePacket_invalid hsum hack hseq] at hok
    refine .inr ⟨hack, hseq, fun hstate hfin => ?_⟩
    rw [if_pos hstate] at hok
    cases hok
    unfold managerReceivePacket at hcmc
    rw [hstate] at hcmc
    simp only [hfin, if_true] at hcmc
    rw [timeWaitTimer_restart] at hcmc
    rw [← hcmc]

/-- Data that is not taken comes in a harmless packet, when there is no timestamp. -/
theorem harmless_of_not_handsData (hdata : 0 < p.dataLengthBytes) (hsyn : p.syn = false) (hfin : p.fin = false)
    (hnone : p.timestamp = none) (hsum : p.validChecksum = true) (h : e.handsData p = false) : e.Harmless p := by
  have haccepts : e.accepts p = false := by
    unfold handsData at h
    simpa [hsyn, hfin, hdata] using h
  unfold accepts at haccepts
  rw [hsum, Bool.true_and] at haccepts
  split at haccepts
  · rename_i hinv
    rw [Bool.and_eq_true, Bool.not_eq_true'] at hinv
    refine .inl ⟨hinv.1, hinv.2, fun ts hts => ?_, .inl (by simpa using haccepts)⟩
    rw [hnone] at hts
    cases hts
  · rename_i hack
    refine .inr ⟨fun hack' => ?_, by simpa [hfin] using haccepts, fun _ hfin' => ?_⟩
    · by_contra hinv
      exact hack (by simp [hack', hinv])
    · rw [hfin] at hfin'
      cases hfin'

end

/-- A segment from the server to the client with the sequence number `seq`, a data offset and flags, its checksum left to
be set. -/
private def rawSegment (seq ack doff flags : UInt8) (checksum : List UInt8) : List UInt8 :=
  [0x45, 0, 0, 40, 0, 0, 0, 0, 65, 6, 0, 0, 10, 0, 0, 2, 10, 0, 0, 1,
    0, 80, 156, 64, 0, 0, 0, seq, 0, 0, 0, ack, doff * 16, flags, 255, 255] ++ checksum ++ [0, 0]

/-- A client that expects the number 101. -/
private def expecting101 : Endpoint := { client with rc := { client.rc with rcvNxt := 101 } }

end Endpoint

end Wifu
