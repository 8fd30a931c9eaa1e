import Wifu.OptionsRoundTrip
import Wifu.Lib.Transition

/-!
# The packet log (`PacketLogger.cc`, `PacketLogReader.cc`)

The log has a header, and for each packet a record: its header, a fake Ethernet header and the bytes of the packet.  The
reader makes a new packet for each record and copies as many bytes into it as a new packet has (`log_round_trip`).
-/

namespace Wifu

open ByteMemory

namespace IPPacket

/-- `get_ip_protocol`. -/
def getIpProtocol (p : IPPacket) : UInt8 := p.payload 9

/-- The `get_ip_tot_length` bytes of a packet. -/
def bytes (p : IPPacket) : List UInt8 := Slice.slice p.payload 0 p.getIpTotLength.toNat

end IPPacket

/-- A packet with the time of `log`.  The total length covers the IP header and fits in the buffer. -/
structure PacketLoggerItem where
  packet : IPPacket
  tvSec : BitVec 32
  tvUsec : BitVec 32
  header : 20 ≤ packet.getIpTotLength.toNat
  length : packet.getIpTotLength.toNat ≤ mtu

/-- `sizeof (PcapFileHeader)`. -/
def pcapFileHeaderSize : Nat := 24

/-- `sizeof (PcapPacketHeader)`. -/
def pcapPacketHeaderSize : Nat := 16

/-- `FAKE_ETHERNET_HEADER_SIZE`. -/
def fakeEthernetHeaderSize : Nat := 14

/-- The bytes that `write_file_header` writes. -/
def pcapFileHeader : List UInt8 :=
  littleEndianBytes32 0xa1b2c3d4 ++ littleEndianBytes 2 ++ littleEndianBytes 4 ++ littleEndianBytes32 0 ++
    littleEndianBytes32 0 ++ littleEndianBytes32 65535 ++ littleEndianBytes32 1

def fakeEthernetHeader : List UInt8 :=
  [0x00, 0x50, 0x56, 0xb7, 0x16, 0xc7, 0x00, 0x0f, 0xfe, 0xfe, 0x52, 0x17, 0x08, 0x00]

namespace PacketLoggerItem

/-- `incl_len` and `orig_len`. -/
def inclLen (item : PacketLoggerItem) : BitVec 32 :=
  BitVec.ofNat 32 (item.packet.getIpTotLength.toNat + fakeEthernetHeaderSize)

/-- The `PcapPacketHeader` of an item. -/
def packetHeader (item : PacketLoggerItem) : List UInt8 :=
  littleEndianBytes32 item.tvSec ++ littleEndianBytes32 item.tvUsec ++ littleEndianBytes32 item.inclLen ++
    littleEndianBytes32 item.inclLen

/-- What `flush` writes for an item. -/
def record (item : PacketLoggerItem) : List UInt8 :=
  item.packetHeader ++ (fakeEthernetHeader ++ item.packet.bytes)

end PacketLoggerItem

/-! ### The logger -/

structure PacketLogger where
  /-- The bytes of the file. -/
  file : List UInt8
  items : List PacketLoggerItem := []
  flushCount : Int := 1
  /-- `timeout_`, by its number. -/
  timeout : Nat := 0

namespace PacketLogger

/-- The logger after `reset`, which `main` calls. -/
def start : PacketLogger := { file := pcapFileHeader, timeout := 1 }

/-- `flush`; the next timeout is a new one. -/
def flush (l : PacketLogger) : PacketLogger :=
  { l with file := l.file ++ (l.items.map PacketLoggerItem.record).flatten, items := [], timeout := l.timeout + 1 }

/-- `log`. -/
def log (l : PacketLogger) (item : PacketLoggerItem) : PacketLogger :=
  if l.flushCount < 0 then l
  else
    let l := { l with items := l.items ++ [item] }
    if l.flushCount ≤ l.items.length then l.flush else l

/-- `imodule_timer_fired`. -/
def imoduleTimerFired (l : PacketLogger) (timeout : Nat) : PacketLogger :=
  if l.timeout = timeout then l.flush else l

inductive Input
  | log (item : PacketLoggerItem)
  | flush
  | setFlushThreshold (count : Int)
  | timerFired (timeout : Nat)

def step : Input → PacketLogger → Except Empty PacketLogger
  | .log item, l => .ok (l.log item)
  | .flush, l => .ok l.flush
  | .setFlushThreshold count, l => .ok { l with flushCount := count }
  | .timerFired timeout, l => .ok (l.imoduleTimerFired timeout)

/-- The packets that have been taken in: with a negative threshold none is. -/
def observe (l : PacketLogger) (i : Input) (_ : PacketLogger) (logged : List PacketLoggerItem) : List PacketLoggerItem :=
  match i with
  | .log item => if l.flushCount < 0 then logged else logged ++ [item]
  | _ => logged

def machine : Transition.Machine PacketLogger Input Empty := ⟨fun _ _ => True, step⟩

def historyMachine : Transition.Machine (PacketLogger × List PacketLoggerItem) Input Empty := machine.observed observe

instance (i : Input) (s : PacketLogger × List PacketLoggerItem) : Decidable (historyMachine.enabled i s) := .isTrue trivial

/-- The file with everything in memory behind it is the header and the records of the packets logged. -/
def Complete (s : PacketLogger × List PacketLoggerItem) : Prop :=
  s.1.flush.file = pcapFileHeader ++ (s.2.map PacketLoggerItem.record).flatten

section

variable {l : PacketLogger} {logged : List PacketLoggerItem} {item : PacketLoggerItem}

theorem flush_flush (l : PacketLogger) : l.flush.flush.file = l.flush.file := List.append_nil _

/-- Taking in a packet adds its record, whether it is written now or later. -/
theorem flush_log (hcount : ¬l.flushCount < 0) : (l.log item).flush.file = l.flush.file ++ item.record := by
  have hflush : ({ l with items := l.items ++ [item] } : PacketLogger).flush.file = l.flush.file ++ item.record := by
    show l.file ++ ((l.items ++ [item]).map PacketLoggerItem.record).flatten = _
    rw [List.map_append, List.flatten_append, ← List.append_assoc]
    simp [flush]
  unfold log
  rw [if_neg hcount]
  simp only
  split
  · rw [flush_flush, hflush]
  · exact hflush

theorem Complete.step {s s' : PacketLogger × List PacketLoggerItem} {i : Input} (hs : Complete s)
    (hstep : historyMachine.step i s = .ok s') : Complete s' := by
  obtain ⟨hok, hobs⟩ := Transition.Machine.observed_step.1 hstep
  obtain ⟨l, logged⟩ := s
  obtain ⟨l', logged'⟩ := s'
  replace hok : PacketLogger.step i l = .ok l' := hok
  replace hobs : logged' = observe l i l' logged := hobs
  have hs : l.flush.file = pcapFileHeader ++ (logged.map PacketLoggerItem.record).flatten := hs
  subst hobs
  cases i with
  | log item =>
    obtain rfl : l.log item = l' := Except.ok.inj hok
    show (l.log item).flush.file = _ ++ ((if l.flushCount < 0 then logged else logged ++ [item]).map _).flatten
    by_cases hcount : l.flushCount < 0
    · rw [if_pos hcount, show l.log item = l from if_pos hcount]
      exact hs
    · rw [if_neg hcount, flush_log hcount, hs]
      simp
  | flush =>
    obtain rfl : l.flush = l' := Except.ok.inj hok
    exact (flush_flush l).trans hs
  | setFlushThreshold count =>
    obtain rfl := Except.ok.inj hok
    exact hs
  | timerFired timeout =>
    obtain rfl : l.imoduleTimerFired timeout = l' := Except.ok.inj hok
    refine Eq.trans ?_ hs
    unfold imoduleTimerFired
    split
    · exact flush_flush l
    · rfl

theorem run_complete {is : List Input} {s : PacketLogger × List PacketLoggerItem}
    (h : historyMachine.Run Transition.anyStep (start, []) is s) : Complete s :=
  h.invariant Complete rfl fun _ _ _ hs _ _ hstep => hs.step hstep

end

end PacketLogger

/-! ### The reader -/

inductive LogError
  | malformedPacket
  | packetProtocolNotSet
  | unknownProtocol (protocol : UInt8)
  deriving DecidableEq, Repr

/-- An `ifstream`: the bytes behind the position, the position, and whether a read has failed. -/
structure LogStream where
  rest : List UInt8
  pos : Nat := 0
  failed : Bool := false

namespace LogStream

/-- `read`: the bytes that there are. -/
def read (f : LogStream) (n : Nat) : List UInt8 × LogStream :=
  if f.failed then ([], f)
  else (f.rest.take n, ⟨f.rest.drop n, f.pos + (f.rest.take n).length, decide (f.rest.length < n)⟩)

def tellg (f : LogStream) : Int := if f.failed then -1 else f.pos

/-- What reading makes smaller. -/
def remaining (f : LogStream) : Nat := if f.failed then 0 else f.rest.length + 1

theorem remaining_read_le (f : LogStream) (n : Nat) : (f.read n).2.remaining ≤ f.remaining := by
  unfold read remaining
  cases hf : f.failed with
  | true => simp [hf]
  | false =>
    simp only [Bool.false_eq_true, if_false]
    split
    · omega
    · rw [List.length_drop]
      omega

theorem remaining_read_lt {f : LogStream} {n : Nat} (hn : 0 < n) (hf : f.failed = false) :
    (f.read n).2.remaining < f.remaining := by
  unfold read remaining
  rw [hf]
  simp only [Bool.false_eq_true, if_false]
  split
  · omega
  · rename_i hlen
    rw [List.length_drop]
    simp only [decide_eq_true_eq] at hlen
    omega

/-- Reading a piece that is there. -/
theorem read_append {f : LogStream} (l l' : List UInt8) (hf : f.failed = false) (hrest : f.rest = l ++ l') :
    f.read l.length = (l, ⟨l', f.pos + l.length, false⟩) := by
  unfold read
  rw [hf, hrest]
  simp

end LogStream

structure PacketLogReader where
  filein : LogStream
  logLength : Int
  /-- `pcap_packet_header_buffer_`. -/
  pcapPacketHeader : Nat → UInt8
  /-- `packet_payload_`. -/
  packetPayload : Nat → UInt8

namespace PacketLogReader

/-- `more_packets_to_read`; a negative difference is a large `size_t`. -/
def morePacketsToRead (r : PacketLogReader) : Bool :=
  !decide (0 ≤ r.logLength - r.filein.tellg ∧ r.logLength - r.filein.tellg ≤ pcapPacketHeaderSize) && !r.filein.failed

/-- `get_new_packet`, which makes a packet on the bytes that its buffer has. -/
def getNewPacket (memory : Nat → UInt8) (protocol : UInt8) : Except LogError WirePacket :=
  if protocol = 206 then .ok (.create memory)
  else if protocol = 6 then .ok (.create memory)
  else if protocol = 0 then .error .packetProtocolNotSet
  else .error (.unknownProtocol protocol)

/-- The copy into a new packet has the length of the new packet. -/
def copyPayload (packetPayload : Nat → UInt8) (packet : WirePacket) : WirePacket :=
  { packet with
    payload := write packet.payload 0 (Slice.slice packetPayload fakeEthernetHeaderSize packet.getIpTotLength.toNat) }

/-- One round of the loop of `get_trace`. -/
def readPacket (memory : Nat → UInt8) (r : PacketLogReader) : Except LogError (WirePacket × PacketLogReader) :=
  let header := r.filein.read pcapPacketHeaderSize
  let pcapPacketHeader := write r.pcapPacketHeader 0 header.1
  let inclLen := (littleEndian32 pcapPacketHeader 8).toNat
  if inclLen ≤ mtu + fakeEthernetHeaderSize then
    let body := header.2.read inclLen
    let packetPayload := write r.packetPayload 0 body.1
    let protocol := packetPayload (fakeEthernetHeaderSize + 9)
    (getNewPacket memory protocol).map fun packet =>
      (copyPayload packetPayload packet, ⟨body.2, r.logLength, pcapPacketHeader, packetPayload⟩)
  else .error .malformedPacket

theorem morePacketsToRead_failed {r : PacketLogReader} (h : r.morePacketsToRead = true) : r.filein.failed = false := by
  unfold morePacketsToRead at h
  simp only [Bool.and_eq_true, Bool.not_eq_true'] at h
  exact h.2

/-- Each round takes bytes off, or fails to. -/
theorem readPacket_remaining {memory : Nat → UInt8} {r r' : PacketLogReader} {packet : WirePacket}
    (hmore : r.morePacketsToRead = true) (h : r.readPacket memory = .ok (packet, r')) :
    r'.filein.remaining < r.filein.remaining := by
  have hheader := LogStream.remaining_read_lt (n := pcapPacketHeaderSize) (by decide) (morePacketsToRead_failed hmore)
  unfold readPacket at h
  simp only at h
  split at h
  · cases hnew : getNewPacket memory (write r.packetPayload 0 ((r.filein.read pcapPacketHeaderSize).2.read
        (littleEndian32 (write r.pcapPacketHeader 0 (r.filein.read pcapPacketHeaderSize).1) 8).toNat).1
        (fakeEthernetHeaderSize + 9)) with
    | error e =>
      rw [hnew] at h
      cases h
    | ok p =>
      rw [hnew] at h
      cases h
      exact Nat.lt_of_le_of_lt (LogStream.remaining_read_le _ _) hheader
  · cases h

/-- The loop of `get_trace`, with fuel for its rounds; the packet with the number `k` is made on `fresh k`. -/
def readPackets (fresh : Nat → Nat → UInt8) : Nat → Nat → PacketLogReader → Except LogError (List WirePacket)
  | 0, _, _ => .ok []
  | fuel + 1, k, r =>
    if r.morePacketsToRead then
      match r.readPacket (fresh k) with
      | .error e => .error e
      | .ok (packet, r') => (readPackets fresh fuel (k + 1) r').map (packet :: ·)
    else .ok []

/-- The loop with as much fuel as it can use. -/
def readAll (fresh : Nat → Nat → UInt8) (k : Nat) (r : PacketLogReader) : Except LogError (List WirePacket) :=
  readPackets fresh r.filein.remaining k r

/-- `get_trace`; the length of the file is an `int`, and a negative one is a large `size_t`. -/
def getTrace (fresh : Nat → Nat → UInt8) (pcapPacketHeader packetPayload : Nat → UInt8) (file : List UInt8) :
    Except LogError (List WirePacket) :=
  let filein : LogStream := { rest := file }
  let logLength := (BitVec.ofNat 32 file.length).toInt
  if 0 ≤ logLength ∧ logLength ≤ pcapFileHeaderSize then .ok []
  else readAll fresh 0 ⟨(filein.read pcapFileHeaderSize).2, logLength, pcapPacketHeader, packetPayload⟩

/-- The reader returns as many packets as were logged, in the same order, each with the same bytes. -/
def RoundTrip (fresh : Nat → Nat → UInt8) (pcapPacketHeader packetPayload : Nat → UInt8) (logged : List PacketLoggerItem)
    (file : List UInt8) : Prop :=
  ∃ trace, getTrace fresh pcapPacketHeader packetPayload file = .ok trace ∧
    trace.map (fun p => p.toIPPacket.bytes) = logged.map (fun item => item.packet.bytes)

/-- A packet that comes back: the reader knows its protocol, and its bytes behind the first forty are those that the new
packet has there already. -/
def Readable (memory : Nat → UInt8) (p : IPPacket) : Prop :=
  (p.getIpProtocol = 206 ∨ p.getIpProtocol = 6) ∧ ∀ i, 40 ≤ i → i < p.getIpTotLength.toNat → memory i = p.payload i

section

variable {fresh : Nat → Nat → UInt8} {r r' : PacketLogReader} {k : Nat} {memory : Nat → UInt8}

/-- Nothing is read when nothing remains. -/
theorem readPackets_done (h : r.filein.remaining = 0) (fuel : Nat) : readPackets fresh fuel k r = .ok [] := by
  have hmore : r.morePacketsToRead = false := by
    by_contra hmore
    have hf := morePacketsToRead_failed (by simpa using hmore)
    unfold LogStream.remaining at h
    rw [hf] at h
    simp at h
  cases fuel with
  | zero => rfl
  | succ fuel =>
    unfold readPackets
    rw [hmore]
    rfl

/-- The loop ends before it uses up its fuel. -/
theorem readPackets_fuel {fuel fuel' : Nat} (h : r.filein.remaining ≤ fuel) (h' : r.filein.remaining ≤ fuel') :
    readPackets fresh fuel k r = readPackets fresh fuel' k r := by
  induction fuel generalizing fuel' k r with
  | zero =>
    have hzero : r.filein.remaining = 0 := by omega
    rw [readPackets_done hzero, readPackets_done hzero]
  | succ fuel ih =>
    cases fuel' with
    | zero =>
      have hzero : r.filein.remaining = 0 := by omega
      rw [readPackets_done hzero, readPackets_done hzero]
    | succ fuel' =>
      unfold readPackets
      split
      · rename_i hmore
        split
        · rfl
        · rename_i packet r' hread
          have hlt := readPacket_remaining hmore hread
          have heq : readPackets fresh fuel (k + 1) r' = readPackets fresh fuel' (k + 1) r' := ih (by omega) (by omega)
          rw [heq]
      · rfl

theorem readAll_stop (h : r.morePacketsToRead = false) : readAll fresh k r = .ok [] := by
  unfold readAll
  cases r.filein.remaining with
  | zero => rfl
  | succ fuel =>
    unfold readPackets
    rw [h]
    rfl

theorem readAll_more (h : r.morePacketsToRead = true) : readAll fresh k r =
    (r.readPacket (fresh k)).bind fun p => (readAll fresh (k + 1) p.2).map (p.1 :: ·) := by
  have hround (fuel : Nat) : readPackets fresh (fuel + 1) k r =
      (r.readPacket (fresh k)).bind fun p => (readPackets fresh fuel (k + 1) p.2).map (p.1 :: ·) := by
    show (if r.morePacketsToRead then _ else _) = _
    rw [if_pos h]
    cases r.readPacket (fresh k) with
    | error e => rfl
    | ok p => rfl
  have hf : r.filein.remaining = r.filein.rest.length + 1 := by
    unfold LogStream.remaining
    rw [morePacketsToRead_failed h]
    rfl
  show readPackets fresh r.filein.remaining k r = _
  rw [hf, hround]
  cases hread : r.readPacket (fresh k) with
  | error e => rfl
  | ok p =>
    have hlt := readPacket_remaining h hread
    exact congrArg (Except.map (p.1 :: ·)) (readPackets_fuel (by omega) (Nat.le_refl _))

/-! ### Reading a record -/

/-- The bytes of a record that a round has read. -/
theorem readPacket_record {item : PacketLoggerItem} {rest : List UInt8} (hf : r.filein.failed = false)
    (hrest : r.filein.rest = item.record ++ rest) : ∃ (r' : PacketLogReader) (buffer : Nat → UInt8),
      r'.filein = ⟨rest, r.filein.pos + item.record.length, false⟩ ∧ r'.logLength = r.logLength ∧
      (∀ i < item.packet.getIpTotLength.toNat, buffer (fakeEthernetHeaderSize + i) = item.packet.payload i) ∧
      ∀ memory, r.readPacket memory = (getNewPacket memory item.packet.getIpProtocol).map fun packet =>
        (copyPayload buffer packet, r') := by
  have hlength : item.packetHeader.length = pcapPacketHeaderSize := rfl
  have hbytes : item.packet.bytes.length = item.packet.getIpTotLength.toNat := Slice.length_slice _ _ _
  have hbodyLength : (fakeEthernetHeader ++ item.packet.bytes).length =
      item.packet.getIpTotLength.toNat + fakeEthernetHeaderSize := by
    rw [List.length_append, hbytes]
    exact Nat.add_comm _ _
  have htot := item.length
  have hinclLen : item.inclLen.toNat = (fakeEthernetHeader ++ item.packet.bytes).length := by
    rw [hbodyLength]
    exact Nat.mod_eq_of_lt (by unfold fakeEthernetHeaderSize mtu at *; omega)
  have hheader := LogStream.read_append item.packetHeader (fakeEthernetHeader ++ item.packet.bytes ++ rest) hf
    (by rw [hrest, PacketLoggerItem.record]; simp)
  have hbody := LogStream.read_append (f := ⟨fakeEthernetHeader ++ item.packet.bytes ++ rest,
    r.filein.pos + item.packetHeader.length, false⟩) (fakeEthernetHeader ++ item.packet.bytes) rest rfl rfl
  -- the length is the third number of the header
  have hincl : littleEndian32 (write r.pcapPacketHeader 0 item.packetHeader) 8 = item.inclLen := by
    have hskip (m : Nat → UInt8) : littleEndian32 (write (write m 8 (littleEndianBytes32 item.inclLen)) 12
        (littleEndianBytes32 item.inclLen)) 8 = littleEndian32 (write m 8 (littleEndianBytes32 item.inclLen)) 8 :=
      littleEndian32_congr fun k hk => write_of_not_mem (.inl (by omega))
    unfold PacketLoggerItem.packetHeader
    rw [write_append, write_append]
    exact (hskip _).trans (littleEndian32_write _ 8 item.inclLen)
  have hpayload {i : Nat} (hi : i < item.packet.getIpTotLength.toNat) :
      write r.packetPayload 0 (fakeEthernetHeader ++ item.packet.bytes) (fakeEthernetHeaderSize + i) =
        item.packet.payload i := by
    rw [write_append]
    show write (write r.packetPayload 0 fakeEthernetHeader) 14 item.packet.bytes (14 + i) = _
    rw [write_of_mem (Nat.le_add_right _ i) (by rw [hbytes]; exact Nat.add_lt_add_left hi _)]
    show item.packet.bytes.getD (14 + i - 14) 0 = _
    rw [Nat.add_sub_cancel_left, List.getD_eq_getElem _ _ (by rw [hbytes]; exact hi)]
    exact (Slice.getElem_slice _).trans (congrArg item.packet.payload (Nat.zero_add i))
  refine ⟨⟨⟨rest, r.filein.pos + item.record.length, false⟩, r.logLength, write r.pcapPacketHeader 0 item.packetHeader,
    write r.packetPayload 0 (fakeEthernetHeader ++ item.packet.bytes)⟩,
    write r.packetPayload 0 (fakeEthernetHeader ++ item.packet.bytes), rfl, rfl, fun i => hpayload, fun memory => ?_⟩
  unfold readPacket
  rw [← hlength, hheader]
  simp only
  rw [hincl, hinclLen, hbody]
  have hheaderLength := item.header
  have hlengths : item.record.length = item.packetHeader.length + (fakeEthernetHeader ++ item.packet.bytes).length :=
    List.length_append
  rw [if_pos (by rw [hbodyLength]; exact Nat.add_le_add_right htot _), hpayload (i := 9) (by omega), hlengths, ← Nat.add_assoc]
  rfl

/-! ### The packet that a round makes -/

/-- A new packet has forty bytes. -/
theorem create_getIpTotLength (memory : Nat → UInt8) : (WirePacket.create memory).getIpTotLength = 40 := by
  have hip := WirePacket.create_getIpHeaderLengthWords memory
  have htcp := WirePacket.create_getTcpDataOffset memory
  have hlengths : (WirePacket.create memory).getIpTotLength = BitVec.ofNat 16
      ((WirePacket.create memory).getIpHeaderLengthWords * 4 + (WirePacket.create memory).getTcpDataOffset * 4) :=
    bigEndian_write _ 2 _
  rw [hlengths, hip, htcp]
  rfl

theorem create_payload (memory : Nat → UInt8) {i : Nat} (hi : 40 ≤ i) :
    (WirePacket.create memory).payload i = memory i := by
  have hports := WirePacket.create_tcp memory
  have hinit : (IPPacket.init memory).payload i = memory i := by
    simp only [IPPacket.init, IPPacket.setIpTotLength]
    rw [write_of_not_mem (by simp; omega), write_of_not_mem (by simp; omega), write_of_not_mem (by simp; omega),
      write_of_not_mem (by simp [IPPacket.ipHeaderSize]; omega)]
  rw [← hinit]
  refine (write_of_not_mem (by simp; omega)).trans (write_of_not_mem ?_)
  have hnext : (IPPacket.init memory).getNextHeader = 20 := hports
  show i < (IPPacket.init memory).getNextHeader + 12 ∨ (IPPacket.init memory).getNextHeader + 12 + 1 ≤ i
  omega

/-- The packet has the bytes of the record up to the fortieth, and then those of its own memory. -/
theorem bytes_copyPayload {buffer : Nat → UInt8} {p : IPPacket} (htot : 20 ≤ p.getIpTotLength.toNat)
    (hbuffer : ∀ i < p.getIpTotLength.toNat, buffer (fakeEthernetHeaderSize + i) = p.payload i) :
    (copyPayload buffer (.create memory)).toIPPacket.bytes = p.bytes ↔
      ∀ i, 40 ≤ i → i < p.getIpTotLength.toNat → memory i = p.payload i := by
  have hcopied {i : Nat} (hi : i < 40) :
      (copyPayload buffer (.create memory)).payload i = buffer (fakeEthernetHeaderSize + i) := by
    show write _ 0 (Slice.slice buffer fakeEthernetHeaderSize _) i = _
    rw [create_getIpTotLength, write_of_mem (Nat.zero_le i) (by simpa using hi)]
    rw [Nat.sub_zero, List.getD_eq_getElem _ _ (by simpa using hi)]
    exact Slice.getElem_slice _
  have hkept {i : Nat} (hi : 40 ≤ i) : (copyPayload buffer (.create memory)).payload i = memory i := by
    rw [← create_payload memory hi]
    show write _ 0 (Slice.slice buffer fakeEthernetHeaderSize _) i = _
    rw [create_getIpTotLength]
    exact write_of_not_mem (.inr (by simpa using hi))
  have hsame : (copyPayload buffer (.create memory)).toIPPacket.getIpTotLength = p.getIpTotLength :=
    bigEndian_congr ((hcopied (by omega)).trans (hbuffer 2 (by omega)))
      ((hcopied (by omega)).trans (hbuffer 3 (by omega)))
  unfold IPPacket.bytes
  rw [hsame, Slice.slice_eq_iff]
  simp only [Nat.zero_add, Nat.cast_id]
  constructor
  · intro h i hi hlt
    rw [← hkept hi]
    exact h i hlt
  · intro h i hlt
    by_cases hi : i < 40
    · exact (hcopied hi).trans (hbuffer i hlt)
    · exact (hkept (by omega)).trans (h i (by omega) hlt)

/-! ### Reading a whole log -/

theorem getNewPacket_known {protocol : UInt8} (h : protocol = 206 ∨ protocol = 6) :
    getNewPacket memory protocol = .ok (.create memory) := by
  unfold getNewPacket
  rcases h with rfl | rfl <;> rfl

theorem getNewPacket_ok {protocol : UInt8} {packet : WirePacket} (h : getNewPacket memory protocol = .ok packet) :
    (protocol = 206 ∨ protocol = 6) ∧ packet = .create memory := by
  unfold getNewPacket at h
  split at h
  · exact ⟨.inl ‹_›, (Except.ok.inj h).symm⟩
  · split at h
    · exact ⟨.inr ‹_›, (Except.ok.inj h).symm⟩
    · split at h <;> cases h

/-- There is more to read unless between no and sixteen bytes seem to be left. -/
theorem morePacketsToRead_iff (hf : r.filein.failed = false) :
    r.morePacketsToRead = true ↔ r.logLength < r.filein.pos ∨ r.filein.pos + 16 < r.logLength := by
  have htell : r.filein.tellg = r.filein.pos := by
    unfold LogStream.tellg
    rw [hf]
    rfl
  unfold morePacketsToRead
  rw [htell, hf]
  simp [pcapPacketHeaderSize]
  omega

/-- A round on a record, and the rest of the loop behind it. -/
theorem readAll_record (fresh : Nat → Nat → UInt8) {item : PacketLoggerItem} {rest : List UInt8} (hf : r.filein.failed = false)
    (hrest : r.filein.rest = item.record ++ rest) (hmore : r.morePacketsToRead = true) :
    ∃ (r' : PacketLogReader) (buffer : Nat → UInt8),
      r'.filein = ⟨rest, r.filein.pos + item.record.length, false⟩ ∧ r'.logLength = r.logLength ∧
      (∀ i < item.packet.getIpTotLength.toNat, buffer (fakeEthernetHeaderSize + i) = item.packet.payload i) ∧
      readAll fresh k r = (getNewPacket (fresh k) item.packet.getIpProtocol).bind fun packet =>
        (readAll fresh (k + 1) r').map (copyPayload buffer packet :: ·) := by
  obtain ⟨r', buffer, hfilein, hlog, hbuffer, hread⟩ := readPacket_record hf hrest
  refine ⟨r', buffer, hfilein, hlog, hbuffer, ?_⟩
  rw [readAll_more hmore, hread]
  cases getNewPacket (fresh k) item.packet.getIpProtocol with
  | error e => rfl
  | ok packet => rfl

/-- A trace that is read starts with the packet of the first round. -/
theorem bind_cons_ok {α : Type} {x : Except LogError α} {f : α → Except LogError (List WirePacket)}
    {g : α → WirePacket} {trace : List WirePacket} (h : (x.bind fun a => (f a).map (g a :: ·)) = .ok trace) :
    ∃ a rest, x = .ok a ∧ f a = .ok rest ∧ trace = g a :: rest := by
  cases x with
  | error e => cases h
  | ok a =>
    replace h : (f a).map (g a :: ·) = .ok trace := h
    cases hf : f a with
    | error e =>
      rw [hf] at h
      cases h
    | ok rest =>
      rw [hf] at h
      exact ⟨a, rest, rfl, hf, (Except.ok.inj h).symm⟩

/-- A packet comes back in the place of its record, and the others behind it. -/
theorem roundTrip_cons {item : PacketLoggerItem} {items : List PacketLoggerItem} {buffer : Nat → UInt8}
    {rest : Except LogError (List WirePacket)}
    (hbuffer : ∀ i < item.packet.getIpTotLength.toNat, buffer (fakeEthernetHeaderSize + i) = item.packet.payload i) :
    (∃ trace, ((getNewPacket memory item.packet.getIpProtocol).bind fun packet =>
        rest.map (copyPayload buffer packet :: ·)) = .ok trace ∧
      trace.map (fun p => p.toIPPacket.bytes) = (item :: items).map (fun item => item.packet.bytes)) ↔
      Readable memory item.packet ∧ ∃ trace, rest = .ok trace ∧
        trace.map (fun p => p.toIPPacket.bytes) = items.map (fun item => item.packet.bytes) := by
  constructor
  · rintro ⟨trace, htrace, hbytes⟩
    obtain ⟨packet, trace', hnew, hrest, rfl⟩ := bind_cons_ok htrace
    obtain ⟨hprotocol, rfl⟩ := getNewPacket_ok hnew
    obtain ⟨hfirst, hothers⟩ := List.cons.inj hbytes
    exact ⟨⟨hprotocol, (bytes_copyPayload item.header hbuffer).1 hfirst⟩, trace', hrest, hothers⟩
  · rintro ⟨⟨hprotocol, hmemory⟩, trace, rfl, hothers⟩
    rw [getNewPacket_known hprotocol]
    exact ⟨_, rfl, congrArg₂ List.cons ((bytes_copyPayload item.header hbuffer).2 hmemory) hothers⟩

/-- Reading the records of packets, with the true length of the file. -/
theorem readAll_records {items : List PacketLoggerItem} (hf : r.filein.failed = false)
    (hrest : r.filein.rest = (items.map PacketLoggerItem.record).flatten)
    (hlength : r.logLength = r.filein.pos + r.filein.rest.length) :
    (∃ trace, readAll fresh k r = .ok trace ∧
      trace.map (fun p => p.toIPPacket.bytes) = items.map (fun item => item.packet.bytes)) ↔
      ∀ i, (h : i < items.length) → Readable (fresh (k + i)) items[i].packet := by
  induction items generalizing k r with
  | nil =>
    have hmore : r.morePacketsToRead = false := by
      rw [← Bool.not_eq_true, morePacketsToRead_iff hf, hlength, hrest]
      simp
    rw [readAll_stop hmore]
    exact iff_of_true ⟨[], rfl, rfl⟩ (fun i h => absurd h (Nat.not_lt_zero i))
  | cons item items ih =>
    have hrest' : r.filein.rest = item.record ++ (items.map PacketLoggerItem.record).flatten := hrest
    have hmore : r.morePacketsToRead = true := by
      have hrecord : 16 < item.record.length := by
        show 16 < (item.packetHeader ++ (fakeEthernetHeader ++ item.packet.bytes)).length
        rw [List.length_append, List.length_append, show item.packetHeader.length = 16 from rfl,
          show fakeEthernetHeader.length = 14 from rfl]
        omega
      rw [morePacketsToRead_iff hf, hlength, hrest', List.length_append]
      omega
    obtain ⟨r', buffer, hfilein, hlog, hbuffer, hread⟩ := readAll_record fresh (k := k) hf hrest' hmore
    have hothers := ih (k := k + 1) (r := r') (by rw [hfilein]) (by rw [hfilein]) (by
      rw [hlog, hlength, hfilein, hrest', List.length_append]
      push_cast
      omega)
    rw [hread, roundTrip_cons hbuffer, hothers]
    constructor
    · rintro ⟨hfirst, hothers⟩ i h
      cases i with
      | zero => exact hfirst
      | succ i =>
        have hi := hothers i (Nat.lt_of_succ_lt_succ h)
        rw [Nat.add_assoc, Nat.add_comm 1 i] at hi
        exact hi
    · intro h
      refine ⟨h 0 (Nat.succ_pos _), fun i hi => ?_⟩
      have hi' := h (i + 1) (Nat.succ_lt_succ hi)
      rw [show k + (i + 1) = k + 1 + i by omega] at hi'
      exact hi'

/-- Reading with an `int` that is less than the length of the file does not give as many packets as were logged: it ends too
early, or it reads the last header once more. -/
theorem readAll_overflow {items : List PacketLoggerItem} (hf : r.filein.failed = false)
    (hrest : r.filein.rest = (items.map PacketLoggerItem.record).flatten)
    (hlength : r.logLength < r.filein.pos + r.filein.rest.length) {trace : List WirePacket}
    (h : readAll fresh k r = .ok trace) : trace.length ≠ items.length := by
  induction items generalizing k r trace with
  | nil =>
    have hmore : r.morePacketsToRead = true := by
      rw [hrest] at hlength
      rw [morePacketsToRead_iff hf]
      exact .inl (by simpa using hlength)
    rw [readAll_more hmore] at h
    obtain ⟨packet, rest, -, -, rfl⟩ := bind_cons_ok h
    exact Nat.succ_ne_zero _
  | cons item items ih =>
    have hrest' : r.filein.rest = item.record ++ (items.map PacketLoggerItem.record).flatten := hrest
    cases hmore : r.morePacketsToRead with
    | false =>
      rw [readAll_stop hmore] at h
      cases h
      exact (Nat.succ_ne_zero _).symm
    | true =>
      obtain ⟨r', buffer, hfilein, hlog, hbuffer, hread⟩ := readAll_record fresh (k := k) hf hrest' hmore
      rw [hread] at h
      obtain ⟨packet, rest, -, hothers, rfl⟩ := bind_cons_ok h
      refine fun heq => ih (by rw [hfilein]) (by rw [hfilein]) ?_ hothers (Nat.succ.inj heq)
      rw [hrest', List.length_append] at hlength
      rw [hlog, hfilein]
      push_cast at hlength ⊢
      omega

/-- The bytes of a log with these packets. -/
def fileLength (logged : List PacketLoggerItem) : Nat :=
  pcapFileHeaderSize + (logged.map fun item => 30 + item.packet.getIpTotLength.toNat).sum

theorem length_records (logged : List PacketLoggerItem) :
    pcapFileHeaderSize + (logged.map PacketLoggerItem.record).flatten.length = fileLength logged := by
  unfold fileLength
  rw [List.length_flatten, List.map_map]
  congr 2
  refine List.map_congr_left fun item _ => ?_
  show (item.packetHeader ++ (fakeEthernetHeader ++ item.packet.bytes)).length = _
  rw [List.length_append, List.length_append, show item.packet.bytes.length = _ from Slice.length_slice _ _ _,
    ← Nat.add_assoc]
  rfl

/-- What is read from a log with these packets. -/
theorem roundTrip_iff (fresh : Nat → Nat → UInt8) (pcapPacketHeader packetPayload : Nat → UInt8)
    (logged : List PacketLoggerItem) :
    RoundTrip fresh pcapPacketHeader packetPayload logged (pcapFileHeader ++ (logged.map PacketLoggerItem.record).flatten) ↔
      fileLength logged < 2 ^ 31 ∧ ∀ i, (h : i < logged.length) → Readable (fresh i) logged[i].packet := by
  have hread : LogStream.read { rest := pcapFileHeader ++ (logged.map PacketLoggerItem.record).flatten }
      pcapFileHeaderSize = (pcapFileHeader, ⟨(logged.map PacketLoggerItem.record).flatten, 0 + 24, false⟩) :=
    LogStream.read_append (f := { rest := pcapFileHeader ++ (logged.map PacketLoggerItem.record).flatten })
      pcapFileHeader _ rfl rfl
  have htotal : (pcapFileHeader ++ (logged.map PacketLoggerItem.record).flatten).length = fileLength logged := by
    rw [List.length_append, ← length_records]
    rfl
  have hrecords := length_records logged
  have hempty (h : fileLength logged ≤ 24) : logged = [] := by
    cases logged with
    | nil => rfl
    | cons item items =>
      unfold fileLength pcapFileHeaderSize at h
      rw [List.map_cons, List.sum_cons] at h
      omega
  unfold pcapFileHeaderSize at hrecords
  unfold RoundTrip getTrace
  simp only [htotal, hread]
  by_cases hlong : fileLength logged < 2 ^ 31
  · have hlength : (BitVec.ofNat 32 (fileLength logged)).toInt = fileLength logged := by
      rw [BitVec.toInt_ofNat', Int.bmod_eq_of_le] <;> omega
    rw [hlength]
    split
    · rename_i hshort
      obtain rfl := hempty (by unfold pcapFileHeaderSize at hshort; omega)
      exact iff_of_true ⟨[], rfl, rfl⟩ ⟨hlong, fun i h => absurd h (Nat.not_lt_zero i)⟩
    · rw [readAll_records rfl rfl (by push_cast; omega)]
      simp only [Nat.zero_add]
      exact ⟨fun h => ⟨hlong, h⟩, fun h => h.2⟩
  · have hlength : (BitVec.ofNat 32 (fileLength logged)).toInt < fileLength logged := by
      have hlt := BitVec.toInt_lt (x := BitVec.ofNat 32 (fileLength logged))
      omega
    refine iff_of_false ?_ (fun h => hlong h.1)
    rintro ⟨trace, htrace, hbytes⟩
    have hcount : trace.length = logged.length := by
      have hcount := congrArg List.length hbytes
      rwa [List.length_map, List.length_map] at hcount
    split at htrace
    · cases htrace
      have hnil : logged = [] := List.eq_nil_of_length_eq_zero hcount.symm
      rw [hnil] at hlong
      exact hlong (by decide)
    · exact readAll_overflow rfl rfl (by push_cast; omega) htrace hcount

end

end PacketLogReader

/-- After any sequence of packets, flushes, thresholds and timers, what the reader makes of the log once it has been flushed:
it returns the packets that were logged, each with its bytes, if and only if the file has less than 2³¹ bytes, each packet
is one of SimpleTCP or TCPTahoe, and its bytes behind the first forty are those that the reader's new packet has there
already. -/
theorem log_round_trip (fresh : Nat → Nat → UInt8) (pcapPacketHeader packetPayload : Nat → UInt8)
    {is : List PacketLogger.Input} {s : PacketLogger × List PacketLoggerItem}
    (h : PacketLogger.historyMachine.Run Transition.anyStep (.start, []) is s) :
    PacketLogReader.RoundTrip fresh pcapPacketHeader packetPayload s.2 s.1.flush.file ↔
      PacketLogReader.fileLength s.2 < 2 ^ 31 ∧
        ∀ i, (h : i < s.2.length) → PacketLogReader.Readable (fresh i) s.2[i].packet := by
  have hfile : s.1.flush.file = _ := PacketLogger.run_complete h
  rw [hfile, PacketLogReader.roundTrip_iff]

/-- A packet of `protocol` with one byte of data behind headers of forty bytes. -/
def oneByte (protocol : UInt8) : IPPacket :=
  ⟨write (write (fun _ => 0) 0 [0x45, 0, 0, 41, 0, 0, 0, 0, 65, protocol]) 40 [104]⟩

theorem oneByte_length (protocol : UInt8) : (oneByte protocol).getIpTotLength = 41 := rfl

/-- The packet, logged at the time 0. -/
def oneByteItem (protocol : UInt8) : PacketLoggerItem where
  packet := oneByte protocol
  tvSec := 0
  tvUsec := 0
  header := by rw [oneByte_length]; decide
  length := by rw [oneByte_length]; decide

/-- The packet comes back when the new packet has its byte already. -/
theorem log_round_trip_oneByte :
    PacketLogReader.RoundTrip (fun _ _ => 104) (fun _ => 0) (fun _ => 0) [oneByteItem 6]
      (PacketLogger.start.log (oneByteItem 6)).flush.file := by
  have h : PacketLogger.historyMachine.Run Transition.anyStep (.start, []) [.log (oneByteItem 6)]
      (PacketLogger.start.log (oneByteItem 6), [oneByteItem 6]) := .snoc .nil trivial trivial rfl
  refine (log_round_trip (fun _ _ => 104) (fun _ => 0) (fun _ => 0) h).2 ⟨by decide, fun i hi => ?_⟩
  obtain rfl : i = 0 := Nat.lt_one_iff.1 hi
  refine ⟨.inr rfl, fun j hj hlt => ?_⟩
  replace hlt : j < 41 := hlt
  obtain rfl : j = 40 := by omega
  rfl

/-- A byte behind the first forty is lost, and a UDP packet stops the reader. -/
theorem log_forgets :
    ¬PacketLogReader.RoundTrip (fun _ _ => 0) (fun _ => 0) (fun _ => 0) [oneByteItem 6]
        (PacketLogger.start.log (oneByteItem 6)).flush.file ∧
      ¬PacketLogReader.RoundTrip (fun _ _ => 104) (fun _ => 0) (fun _ => 0) [oneByteItem 17]
        (PacketLogger.start.log (oneByteItem 17)).flush.file := by
  constructor
  · intro h
    have hreadable := ((PacketLogReader.roundTrip_iff _ _ _ [oneByteItem 6]).1 h).2 0 (Nat.succ_pos 0)
    have hbyte := hreadable.2 40 (Nat.le_refl 40) (by decide)
    exact absurd hbyte (by decide)
  · intro h
    have hreadable := ((PacketLogReader.roundTrip_iff _ _ _ [oneByteItem 17]).1 h).2 0 (Nat.succ_pos 0)
    exact absurd hreadable.1 (by decide)

end Wifu
