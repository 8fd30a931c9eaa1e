import Wifu.MalformedLengths
import Wifu.OptionsRoundTrip
import Wifu.Lib.Layout

/-!
# Segments as bytes (`TCPPacket.cc`, `TCPTimestampOption.cc`, `RawSocketSender.cc`, `RawSocketListener.cc`)

The protocol makes a packet with a timestamp option, sets its fields and its data, packs it and sets its checksums; the
bytes up to the total length go to the wire, and the other side reads them into a packet of its own.  The bytes depend on
the fields only, not on the order in which they have been set, and the other side reads the same fields.
-/

namespace Wifu

open ByteMemory

attribute [ext] TCPPacket

/-- `TCP_TAHOE`. -/
def tcpTahoeProtocol : UInt8 := 6

/-! ### The timestamp option -/

namespace TCPHeaderOption

/-- Four bytes of the option, the highest byte first. -/
def store32 (o : TCPHeaderOption) (position : Nat) (n : BitVec 32) (h : position + 4 ≤ tcpHeaderOptionMaxSize) :
    TCPHeaderOption :=
  ⟨o.data.take position ++ bigEndianBytes32 n ++ o.data.drop (position + 4), by
    rw [List.length_append, List.length_append, List.length_take, List.length_drop, o.length_data,
      length_bigEndianBytes32, Nat.min_eq_left (by omega)]
    omega⟩

/-- `TCPTimestampOption::set_timestamp`. -/
def setTimestamp (o : TCPHeaderOption) (timestamp : BitVec 32) : TCPHeaderOption :=
  o.store32 2 timestamp (by decide)

/-- `TCPTimestampOption::set_echo_reply`. -/
def setEchoReply (o : TCPHeaderOption) (echo : BitVec 32) : TCPHeaderOption := o.store32 6 echo (by decide)

end TCPHeaderOption

/-- The option object that holds two timestamps. -/
def TCPTimestampOption.toOption (ts : TCPTimestampOption) : TCPHeaderOption :=
  ⟨8 :: 10 :: (bigEndianBytes32 ts.timestamp ++ bigEndianBytes32 ts.echoReply ++ List.replicate 30 0), rfl⟩

/-- The flags of the TCP header. -/
inductive TCPFlag
  | fin | syn | rst | psh | ack | urg
  deriving DecidableEq

/-- The bit of a flag in its byte. -/
def TCPFlag.bit : TCPFlag → Nat
  | .fin => 0 | .syn => 1 | .rst => 2 | .psh => 3 | .ack => 4 | .urg => 5

/-- A byte after an assignment to a field of one bit. -/
def assignBit (byte : UInt8) (bit : Nat) (value : Bool) : UInt8 :=
  if value then byte ||| UInt8.ofNat (2 ^ bit) else byte &&& ~~~UInt8.ofNat (2 ^ bit)

/-! ### The setters -/

namespace WirePacket

/-- Storing bytes in the buffer. -/
def store (p : WirePacket) (a : Nat) (l : List UInt8) : WirePacket := { p with payload := write p.payload a l }

/-- `set_ip_protocol`. -/
def setIpProtocol (p : WirePacket) (protocol : UInt8) : WirePacket := p.store 9 [protocol]

/-- `set_ip_source_address_s`. -/
def setIpSourceAddress (p : WirePacket) (address : BitVec 32) : WirePacket := p.store 12 (bigEndianBytes32 address)

/-- `set_ip_destination_address_s`. -/
def setIpDestinationAddress (p : WirePacket) (address : BitVec 32) : WirePacket := p.store 16 (bigEndianBytes32 address)

/-- `set_source_port`. -/
def setSourcePort (p : WirePacket) (port : BitVec 16) : WirePacket := p.store p.ports (bigEndianBytes port)

/-- `set_destination_port`. -/
def setDestinationPort (p : WirePacket) (port : BitVec 16) : WirePacket := p.store (p.ports + 2) (bigEndianBytes port)

/-- `set_tcp_sequence_number`. -/
def setTcpSequenceNumber (p : WirePacket) (n : BitVec 32) : WirePacket := p.store (p.tcp + 4) (bigEndianBytes32 n)

/-- `set_tcp_ack_number`. -/
def setTcpAckNumber (p : WirePacket) (n : BitVec 32) : WirePacket := p.store (p.tcp + 8) (bigEndianBytes32 n)

/-- `set_tcp_fin` and its siblings. -/
def setTcpFlag (p : WirePacket) (flag : TCPFlag) (value : Bool) : WirePacket :=
  p.store (p.tcp + 13) [assignBit (p.payload (p.tcp + 13)) flag.bit value]

/-- `set_tcp_receive_window_size`. -/
def setTcpReceiveWindowSize (p : WirePacket) (window : BitVec 16) : WirePacket :=
  p.store (p.tcp + 14) (bigEndianBytes window)

/-- A change of the timestamp option that `get_option` finds. -/
def changeTimestamp (p : WirePacket) (f : TCPHeaderOption → TCPHeaderOption) : WirePacket :=
  match p.options.find? fun o => o.1.kind = tcpoptTimestamp with
  | none => p
  | some o => { p with options := p.options.map fun o' => if o'.2 = o.2 then (f o'.1, o'.2) else o' }

end WirePacket

/-- A call of a setter. -/
inductive FieldCall
  | ipProtocol (protocol : UInt8)
  | ipSourceAddress (address : BitVec 32)
  | ipDestinationAddress (address : BitVec 32)
  | sourcePort (port : BitVec 16)
  | destinationPort (port : BitVec 16)
  | tcpSequenceNumber (n : BitVec 32)
  | tcpAckNumber (n : BitVec 32)
  | tcpFlag (flag : TCPFlag) (value : Bool)
  | tcpReceiveWindowSize (window : BitVec 16)
  | timestamp (timestamp : BitVec 32)
  | echoReply (echo : BitVec 32)

/-- The packet after a call. -/
def WirePacket.set (p : WirePacket) : FieldCall → WirePacket
  | .ipProtocol protocol => p.setIpProtocol protocol
  | .ipSourceAddress address => p.setIpSourceAddress address
  | .ipDestinationAddress address => p.setIpDestinationAddress address
  | .sourcePort port => p.setSourcePort port
  | .destinationPort port => p.setDestinationPort port
  | .tcpSequenceNumber n => p.setTcpSequenceNumber n
  | .tcpAckNumber n => p.setTcpAckNumber n
  | .tcpFlag flag value => p.setTcpFlag flag value
  | .tcpReceiveWindowSize window => p.setTcpReceiveWindowSize window
  | .timestamp timestamp => p.changeTimestamp (·.setTimestamp timestamp)
  | .echoReply echo => p.changeTimestamp (·.setEchoReply echo)

/-- What the getters return after a setter of a flag. -/
def TCPPacket.setFlag (p : TCPPacket) : TCPFlag → Bool → TCPPacket
  | .fin, value => { p with fin := value }
  | .syn, value => { p with syn := value }
  | .rst, value => { p with rst := value }
  | .psh, value => { p with psh := value }
  | .ack, value => { p with ack := value }
  | .urg, value => { p with urg := value }

/-- What the getters return after a call. -/
def TCPPacket.set (p : TCPPacket) : FieldCall → TCPPacket
  | .ipProtocol _ => p
  | .ipSourceAddress address => { p with source := { p.source with address } }
  | .ipDestinationAddress address => { p with destination := { p.destination with address } }
  | .sourcePort port => { p with source := { p.source with port } }
  | .destinationPort port => { p with destination := { p.destination with port } }
  | .tcpSequenceNumber n => { p with sequenceNumber := n }
  | .tcpAckNumber n => { p with ackNumber := n }
  | .tcpFlag flag value => p.setFlag flag value
  | .tcpReceiveWindowSize window => { p with receiveWindowSize := window }
  | .timestamp timestamp => { p with timestamp := p.timestamp.map fun ts => { ts with timestamp } }
  | .echoReply echo => { p with timestamp := p.timestamp.map fun ts => { ts with echoReply := echo } }

/-- The protocol after a call. -/
def FieldCall.protocol (protocol : UInt8) : FieldCall → UInt8
  | .ipProtocol protocol => protocol
  | _ => protocol

/-! ### From one side to the other -/

namespace WirePacket

/-- A new packet with a new timestamp option, its fields and its data; `none` when `set_data` throws. -/
def compose (memory : Nat → UInt8) (place : Nat) (before : List FieldCall) (data : List UInt8)
    (after : List FieldCall) : Option WirePacket :=
  let p := (create memory).insertTcpHeaderOption (timestampOption, place)
  ((before.foldl set p).setData data).map fun p => after.foldl set p

/-- The end of `icontext_send_packet`. -/
def finish (p : WirePacket) : WirePacket := p.pack.calculateAndSetTcpChecksum

/-- `NetworkInterface::imodule_network_send` and `RawSocketSender::send`: the bytes that are sent. -/
def imoduleNetworkSend (p : IPPacket) : List UInt8 :=
  let p := p.calculateAndSetIpChecksum
  Slice.slice p.payload 0 p.getIpTotLength.toNat

/-- The bytes of a packet that the protocol sends. -/
def transmit (p : WirePacket) : List UInt8 := imoduleNetworkSend p.finish.toIPPacket

/-- One round of `RawSocketListener`: `recv` reads at most `MTU` bytes, and nothing is done with a packet of another
length. -/
def listen (memory : Nat → UInt8) (datagram : List UInt8) : Option WirePacket :=
  let bytes := datagram.take mtu
  let packet := receive memory bytes
  if bytes.length = packet.getIpTotLength.toNat then some packet else none

/-- What the protocol sees of a datagram; `NetworkInterface::imodule_network_receive` drops a packet whose IP checksum is
not valid. -/
def decode (memory : Nat → UInt8) (fuel : Nat) (datagram : List UInt8) : Option TCPPacket :=
  (listen memory datagram).bind fun p =>
    let r := p.isValidIpChecksum
    if r.1 then { p with toIPPacket := r.2 }.toTCPPacket fuel else none

end WirePacket

/-! ### The bytes of the fields -/

/-- The bytes of the header, without the total length and the checksums. -/
inductive SegmentField
  | version | typeOfService | identification | timeToLive | ipProtocol | sourceAddress | destinationAddress
  | sourcePort | destinationPort | sequenceNumber | ackNumber | dataOffset | flags | window | urgentPointer
  deriving DecidableEq

namespace SegmentField

def position : SegmentField → Nat
  | version => 0 | typeOfService => 1 | identification => 4 | timeToLive => 8 | ipProtocol => 9
  | sourceAddress => 12 | destinationAddress => 16 | sourcePort => 20 | destinationPort => 22
  | sequenceNumber => 24 | ackNumber => 28 | dataOffset => 32 | flags => 33 | window => 34 | urgentPointer => 38

def size : SegmentField → Nat
  | version | typeOfService | timeToLive | ipProtocol | dataOffset | flags => 1
  | sourcePort | destinationPort | window | urgentPointer => 2
  | identification | sourceAddress | destinationAddress | sequenceNumber | ackNumber => 4

end SegmentField

/-- The header of a segment. -/
def segmentLayout : Layout SegmentField where
  position := SegmentField.position
  size := SegmentField.size
  apart := by
    intro i j hij
    cases i <;> cases j <;> first | exact absurd rfl hij | decide

/-- The byte with the flags. -/
def flagByte (fin syn rst psh ack urg : Bool) : UInt8 :=
  UInt8.ofNat (fin.toNat + 2 * syn.toNat + 4 * rst.toNat + 8 * psh.toNat + 16 * ack.toNat + 32 * urg.toNat)

/-- The header of a packet with one timestamp option. -/
def TCPPacket.headerBytes (protocol : UInt8) (p : TCPPacket) : SegmentField → List UInt8
  | .version => [0x45]
  | .typeOfService => [0]
  | .identification => [0, 0, 0, 0]
  | .timeToLive => [65]
  | .ipProtocol => [protocol]
  | .sourceAddress => bigEndianBytes32 p.source.address
  | .destinationAddress => bigEndianBytes32 p.destination.address
  | .sourcePort => bigEndianBytes p.source.port
  | .destinationPort => bigEndianBytes p.destination.port
  | .sequenceNumber => bigEndianBytes32 p.sequenceNumber
  | .ackNumber => bigEndianBytes32 p.ackNumber
  | .dataOffset => [0x80]
  | .flags => [flagByte p.fin p.syn p.rst p.psh p.ack p.urg]
  | .window => bigEndianBytes p.receiveWindowSize
  | .urgentPointer => [0, 0]

theorem assignBit_flagByte (flag : TCPFlag) (value : Bool) (p : TCPPacket) :
    assignBit (flagByte p.fin p.syn p.rst p.psh p.ack p.urg) flag.bit value =
      flagByte (p.setFlag flag value).fin (p.setFlag flag value).syn (p.setFlag flag value).rst
        (p.setFlag flag value).psh (p.setFlag flag value).ack (p.setFlag flag value).urg := by
  have hbits : ∀ fin syn rst psh ack urg value : Bool,
      assignBit (flagByte fin syn rst psh ack urg) 0 value = flagByte value syn rst psh ack urg ∧
      assignBit (flagByte fin syn rst psh ack urg) 1 value = flagByte fin value rst psh ack urg ∧
      assignBit (flagByte fin syn rst psh ack urg) 2 value = flagByte fin syn value psh ack urg ∧
      assignBit (flagByte fin syn rst psh ack urg) 3 value = flagByte fin syn rst value ack urg ∧
      assignBit (flagByte fin syn rst psh ack urg) 4 value = flagByte fin syn rst psh value urg ∧
      assignBit (flagByte fin syn rst psh ack urg) 5 value = flagByte fin syn rst psh ack value := by
    decide +kernel
  obtain ⟨h0, h1, h2, h3, h4, h5⟩ := hbits p.fin p.syn p.rst p.psh p.ack p.urg value
  cases flag
  · exact h0
  · exact h1
  · exact h2
  · exact h3
  · exact h4
  · exact h5

/-- The flags that a receiver finds in the byte. -/
theorem testBit_flagByte (fin syn rst psh ack urg : Bool) :
    ((flagByte fin syn rst psh ack urg).toNat.testBit 0 = fin ∧ (flagByte fin syn rst psh ack urg).toNat.testBit 1 = syn ∧
      (flagByte fin syn rst psh ack urg).toNat.testBit 2 = rst) ∧
    (flagByte fin syn rst psh ack urg).toNat.testBit 3 = psh ∧ (flagByte fin syn rst psh ack urg).toNat.testBit 4 = ack ∧
      (flagByte fin syn rst psh ack urg).toNat.testBit 5 = urg := by
  revert fin syn rst psh ack urg
  decide +kernel

namespace WirePacket

/-! ### Setting fields -/

/-- The header in the buffer and the option are those of a packet that the protocol sees as `p`. -/
structure Represents (protocol : UInt8) (w : WirePacket) (p : TCPPacket) : Prop where
  ports : w.ports = 20
  tcp : w.tcp = 20
  option : ∃ ts place, p.timestamp = some ts ∧ w.options = [(ts.toOption, place)]
  header : segmentLayout.Holds w.payload (p.headerBytes protocol)

/-- The data behind a header with one timestamp option. -/
structure HasData (w : WirePacket) (data : List UInt8) : Prop where
  totLength : w.getIpTotLength.toNat = 52 + data.length
  data : Slice.slice w.payload 52 data.length = data

section

variable {w w' : WirePacket} {p p' : TCPPacket} {protocol protocol' : UInt8} {data l : List UInt8}
  {ts ts' : TCPTimestampOption}

theorem Represents.store (h : w.Represents protocol p) (f : SegmentField) (hl : l.length = f.size)
    (hbytes : Function.update (p.headerBytes protocol) f l = p'.headerBytes protocol')
    (hts : p'.timestamp = p.timestamp) : (w.store f.position l).Represents protocol' p' where
  ports := h.ports
  tcp := h.tcp
  option := by
    rw [hts]
    exact h.option
  header := by
    rw [← hbytes]
    exact h.header.store hl

/-- The bytes of a changed option. -/
theorem toOption_setTimestamp (ts : TCPTimestampOption) (timestamp : BitVec 32) :
    ts.toOption.setTimestamp timestamp = { ts with timestamp : TCPTimestampOption }.toOption := rfl

theorem toOption_setEchoReply (ts : TCPTimestampOption) (echo : BitVec 32) :
    ts.toOption.setEchoReply echo = { ts with echoReply := echo : TCPTimestampOption }.toOption := rfl

theorem Represents.changeTimestamp (h : w.Represents protocol p) {f : TCPHeaderOption → TCPHeaderOption}
    (hts : ∀ ts ∈ p.timestamp, ∃ ts' ∈ p'.timestamp, f ts.toOption = ts'.toOption)
    (hbytes : p'.headerBytes protocol = p.headerBytes protocol) :
    (w.changeTimestamp f).Represents protocol p' := by
  obtain ⟨ts, place, hsome, hoptions⟩ := h.option
  obtain ⟨ts', hsome', hf⟩ := hts ts hsome
  have hchange : w.changeTimestamp f = { w with options := [(ts'.toOption, place)] } := by
    unfold WirePacket.changeTimestamp
    rw [hoptions, List.find?_cons_of_pos (by rfl)]
    simp [hf]
  rw [hchange]
  exact ⟨h.ports, h.tcp, ⟨ts', place, hsome', rfl⟩, by
    rw [hbytes]
    exact h.header⟩

/-- A setter does to the bytes what it does to the getters. -/
theorem Represents.set (h : w.Represents protocol p) (c : FieldCall) :
    (w.set c).Represents (c.protocol protocol) (p.set c) := by
  have hports (n : Nat) : w.ports + n = 20 + n := congrArg (· + n) h.ports
  have htcp (n : Nat) : w.tcp + n = 20 + n := congrArg (· + n) h.tcp
  cases c with
  | ipProtocol protocol' => exact h.store .ipProtocol rfl (by funext f; cases f <;> rfl) rfl
  | ipSourceAddress address => exact h.store .sourceAddress rfl (by funext f; cases f <;> rfl) rfl
  | ipDestinationAddress address => exact h.store .destinationAddress rfl (by funext f; cases f <;> rfl) rfl
  | sourcePort port =>
    show (w.store (w.ports + 0) _).Represents _ _
    rw [hports]
    exact h.store .sourcePort rfl (by funext f; cases f <;> rfl) rfl
  | destinationPort port =>
    show (w.store (w.ports + 2) _).Represents _ _
    rw [hports]
    exact h.store .destinationPort rfl (by funext f; cases f <;> rfl) rfl
  | tcpSequenceNumber n =>
    show (w.store (w.tcp + 4) _).Represents _ _
    rw [htcp]
    exact h.store .sequenceNumber rfl (by funext f; cases f <;> rfl) rfl
  | tcpAckNumber n =>
    show (w.store (w.tcp + 8) _).Represents _ _
    rw [htcp]
    exact h.store .ackNumber rfl (by funext f; cases f <;> rfl) rfl
  | tcpFlag flag value =>
    show (w.store (w.tcp + 13) [assignBit (w.payload (w.tcp + 13)) flag.bit value]).Represents _ _
    have hbyte : w.payload 33 = flagByte p.fin p.syn p.rst p.psh p.ack p.urg := byte_of_slice (h.header .flags)
    rw [htcp, hbyte, assignBit_flagByte]
    exact h.store .flags rfl (by cases flag <;> (funext f; cases f <;> rfl)) (by cases flag <;> rfl)
  | tcpReceiveWindowSize window =>
    show (w.store (w.tcp + 14) _).Represents _ _
    rw [htcp]
    exact h.store .window rfl (by funext f; cases f <;> rfl) rfl
  | timestamp timestamp =>
    refine h.changeTimestamp (f := (·.setTimestamp timestamp)) (fun ts hts => ?_) rfl
    refine ⟨{ ts with timestamp }, ?_, toOption_setTimestamp ts timestamp⟩
    show p.timestamp.map _ = _
    rw [hts]
    rfl
  | echoReply echo =>
    refine h.changeTimestamp (f := (·.setEchoReply echo)) (fun ts hts => ?_) rfl
    refine ⟨{ ts with echoReply := echo }, ?_, toOption_setEchoReply ts echo⟩
    show p.timestamp.map _ = _
    rw [hts]
    rfl

/-- A setter of a header field leaves the total length, the options and the data. -/
theorem Represents.set_frame (h : w.Represents protocol p) (c : FieldCall) :
    (∀ i, i < 4 ∨ 40 ≤ i → (w.set c).payload i = w.payload i) ∧ (w.set c).dataSet = w.dataSet := by
  have hports := h.ports
  have htcp := h.tcp
  have hchange (f : TCPHeaderOption → TCPHeaderOption) :
      (w.changeTimestamp f).payload = w.payload ∧ (w.changeTimestamp f).dataSet = w.dataSet := by
    unfold WirePacket.changeTimestamp
    split <;> exact ⟨rfl, rfl⟩
  cases c with
  | timestamp timestamp => exact ⟨fun i _ => congrFun (hchange _).1 i, (hchange _).2⟩
  | echoReply echo => exact ⟨fun i _ => congrFun (hchange _).1 i, (hchange _).2⟩
  | ipProtocol | ipSourceAddress | ipDestinationAddress | sourcePort | destinationPort | tcpSequenceNumber | tcpAckNumber
    | tcpFlag | tcpReceiveWindowSize => exact ⟨fun i hi => write_of_not_mem (by simp; omega), rfl⟩

theorem HasData.congr (h : w.HasData data) (hm : ∀ i, i < 4 ∨ 40 ≤ i → w'.payload i = w.payload i) : w'.HasData data where
  totLength := by
    rw [← h.totLength]
    exact congrArg BitVec.toNat (bigEndian_congr (hm 2 (by omega)) (hm 3 (by omega)))
  data := (Slice.slice_congr fun k _ => hm (52 + k) (by omega)).trans h.data

theorem Represents.sets (h : w.Represents protocol p) (cs : List FieldCall) :
    (cs.foldl WirePacket.set w).Represents (cs.foldl FieldCall.protocol protocol) (cs.foldl TCPPacket.set p) := by
  induction cs generalizing w p protocol with
  | nil => exact h
  | cons c cs ih => exact ih (h.set c)

theorem Represents.sets_frame (h : w.Represents protocol p) (cs : List FieldCall) :
    (∀ i, i < 4 ∨ 40 ≤ i → (cs.foldl WirePacket.set w).payload i = w.payload i) ∧
      (cs.foldl WirePacket.set w).dataSet = w.dataSet := by
  induction cs generalizing w p protocol with
  | nil => exact ⟨fun i _ => rfl, rfl⟩
  | cons c cs ih =>
    obtain ⟨hm, hset⟩ := h.set_frame c
    obtain ⟨hm', hset'⟩ := ih (h.set c)
    exact ⟨fun i hi => (hm' i hi).trans (hm i hi), hset'.trans hset⟩

/-! ### A new packet -/

/-- The bytes of a packet before anything is set. -/
theorem holds_zero {memory : Nat → UInt8} (hzero : ∀ i, 20 ≤ i → i < 40 → memory i = 0) :
    segmentLayout.Holds (write memory 0 (List.replicate IPPacket.ipHeaderSize 0))
      fun f => List.replicate f.size 0 := by
  intro f
  refine List.eq_replicate_iff.2 ⟨Slice.length_slice _ _ _, fun x hx => ?_⟩
  obtain ⟨k, hk, rfl⟩ := List.mem_map.1 hx
  have hlt : f.position + k < 40 := by
    have hk : k < f.size := List.mem_range.1 hk
    cases f <;> simp only [SegmentField.position, SegmentField.size] at hk ⊢ <;> omega
  show write memory 0 (List.replicate 20 0) (f.position + k) = 0
  by_cases h20 : f.position + k < 20
  · rw [write_of_mem (by omega) (by simpa using h20), List.getD_eq_getElem _ _ (by simpa using h20),
      List.getElem_replicate]
  · rw [write_of_not_mem (by simp; omega)]
    exact hzero _ (by omega) hlt

theorem holds_setTcpDataOffset {v : SegmentField → List UInt8} {x : UInt8} {n : Nat} (htcp : w.tcp = 20)
    (h : segmentLayout.Holds w.payload v) (hoffset : v .dataOffset = [x]) :
    segmentLayout.Holds (w.setTcpDataOffset n).payload
      (Function.update v .dataOffset [UInt8.ofNat (n % 16 * 16 + x.toNat % 16)]) := by
  have hbyte : w.payload 32 = x := byte_of_slice ((h .dataOffset).trans hoffset)
  show segmentLayout.Holds (write w.payload (w.tcp + 12) [UInt8.ofNat (n % 16 * 16 +
    (w.payload (w.tcp + 12)).toNat % 16)]) _
  rw [htcp, hbyte]
  exact h.store (i := .dataOffset) rfl

theorem optionsLength_timestamp (ts : TCPTimestampOption) (place : Nat) : optionsLength [(ts.toOption, place)] = 10 := by
  have hlength : ts.toOption.length = 10 := rfl
  unfold optionsLength
  rw [List.map_singleton, List.sum_singleton, hlength]
  rfl

/-- The words of a timestamp option. -/
theorem paddedLength_timestamp (ts : TCPTimestampOption) (place : Nat) : paddedLength [(ts.toOption, place)] = 3 := by
  unfold paddedLength
  rw [optionsLength_timestamp]

/-- A new packet with a timestamp option. -/
def newSegment (memory : Nat → UInt8) (place : Nat) : WirePacket :=
  (create memory).insertTcpHeaderOption (timestampOption, place)

theorem apart_totLength (f : SegmentField) :
    segmentLayout.position f + segmentLayout.size f ≤ 2 ∨ 2 + 2 ≤ segmentLayout.position f := by
  cases f <;> decide

/-- The memory that a packet is made in is cleared. -/
theorem newSegment_represents {memory : Nat → UInt8} (hzero : ∀ i, 20 ≤ i → i < 40 → memory i = 0) (place : Nat)
    (data : List UInt8) : (newSegment memory place).Represents 0 (TCPPacket.new ⟨0, 0⟩ ⟨0, 0⟩ data) := by
  have hfirst := (holds_zero hzero).store (i := .version) (l := [0x45]) rfl
  have hlength := hfirst.write (a := 2)
    (l := bigEndianBytes (BitVec.ofNat 16 (IPPacket.getIpHeaderLengthBytes
      ⟨write (write memory 0 (List.replicate IPPacket.ipHeaderSize 0)) 0 [0x45]⟩))) apart_totLength
  have hinit : segmentLayout.Holds (IPPacket.init memory).payload _ :=
    hlength.store (i := .timeToLive) (l := [65]) rfl
  have htcp : (IPPacket.init memory).getNextHeader = 20 := congrArg (· * 4) (getIpHeaderLengthWords_init memory)
  have hfive := holds_setTcpDataOffset (w := ⟨IPPacket.init memory, (IPPacket.init memory).getNextHeader,
    (IPPacket.init memory).getNextHeader, [], false⟩) (n := 5) htcp hinit rfl
  have hcreate : segmentLayout.Holds (create memory).payload _ := hfive.write apart_totLength
  have hinsert := holds_setTcpDataOffset
    (w := { create memory with options := (create memory).options ++ [(timestampOption, place)] })
    (n := (create memory).getTcpDataOffset + paddedLength ((create memory).options ++ [(timestampOption, place)]))
    (create_tcp memory) hcreate rfl
  refine ⟨create_ports memory, create_tcp memory, ⟨⟨0, 0⟩, place, rfl, rfl⟩, hinsert.of_eq fun f => ?_⟩
  have hpadded : paddedLength ((create memory).options ++ [(timestampOption, place)]) = 3 :=
    paddedLength_timestamp ⟨0, 0⟩ place
  rw [create_getTcpDataOffset, hpadded]
  cases f with
  | dataOffset => rfl
  | sourceAddress | destinationAddress | sequenceNumber | ackNumber =>
    show List.replicate 4 0 = bigEndianBytes32 0
    decide
  | sourcePort | destinationPort | window =>
    show List.replicate 2 0 = bigEndianBytes 0
    decide
  | _ => rfl

/-! ### The data -/

theorem Represents.getNextHeader (h : w.Represents protocol p) : w.getNextHeader = 20 := by
  have hbyte : w.payload 0 = 0x45 := byte_of_slice (h.header .version)
  show (w.payload 0).toNat % 16 * 4 = 20
  rw [hbyte]
  rfl

theorem Represents.getTcpDataOffset (h : w.Represents protocol p) : w.getTcpDataOffset = 8 := by
  have hbyte : w.payload 32 = 0x80 := byte_of_slice (h.header .dataOffset)
  show (w.payload (w.tcp + 12)).toNat / 16 = 8
  rw [h.tcp, hbyte]
  rfl

theorem Represents.getData (h : w.Represents protocol p) : w.getData = 52 := by
  show w.getNextHeader + w.getTcpDataOffset * 4 = 52
  rw [h.getNextHeader, h.getTcpDataOffset]

/-- The header and the data of a packet that the protocol sees as `p`. -/
structure Carries (protocol : UInt8) (w : WirePacket) (p : TCPPacket) : Prop extends w.Represents protocol p where
  data : w.HasData p.data

theorem Represents.setData (h : w.Represents protocol p) (hset : w.dataSet = false)
    (hlength : p.data.length ≤ Wifu.maxDataLength) :
    ∃ w', w.setData p.data = some w' ∧ w'.Carries protocol p := by
  have hmax : Wifu.maxDataLength = 1448 := rfl
  have hip : w.getIpHeaderLengthBytes = 20 := h.getNextHeader
  have htcp : w.getTcpHeaderLengthBytes = 32 := congrArg (· * 4) h.getTcpDataOffset
  have hdata : w.setData p.data = some { w with
      payload := write (write w.payload 52 p.data) 2 (bigEndianBytes (BitVec.ofNat 16 (20 + 32 + p.data.length)))
      dataSet := true } := by
    have hbefore (i : Nat) (hi : i < 52) : write w.payload 52 p.data i = w.payload i := write_of_not_mem (.inl hi)
    have hip' : ({ w with payload := write w.payload 52 p.data, dataSet := true } : WirePacket).getIpHeaderLengthBytes =
        20 := by
      rw [← hip]
      exact congrArg (fun b : UInt8 => b.toNat % 16 * 4) (hbefore 0 (by omega))
    have htcp' : ({ w with payload := write w.payload 52 p.data, dataSet := true } : WirePacket).getTcpHeaderLengthBytes =
        32 := by
      rw [← htcp]
      exact congrArg (fun b : UInt8 => b.toNat / 16 * 4) (hbefore (w.tcp + 12) (by rw [h.tcp]; omega))
    unfold WirePacket.setData
    rw [if_neg (by rw [hset]; exact Bool.false_ne_true), h.getData]
    simp only
    rw [hip', htcp']
    rfl
  have happart (f : SegmentField) : segmentLayout.position f + segmentLayout.size f ≤ 52 := by
    cases f <;> decide
  refine ⟨_, hdata, ⟨h.ports, h.tcp, h.option, ?_⟩, ?_, ?_⟩
  · exact (h.header.write fun f => .inl (happart f)).write apart_totLength
  · show (bigEndian (write _ 2 (bigEndianBytes _)) 2).toNat = _
    rw [bigEndian_write, BitVec.toNat_ofNat]
    omega
  · show Slice.slice (write _ 2 _) 52 p.data.length = p.data
    rw [slice_write_of_disjoint (by simp)]
    exact slice_write_self w.payload 52 p.data

theorem Carries.sets (h : w.Carries protocol p) {cs : List FieldCall}
    (hdata : (cs.foldl TCPPacket.set p).data = p.data) :
    (cs.foldl WirePacket.set w).Carries (cs.foldl FieldCall.protocol protocol) (cs.foldl TCPPacket.set p) := by
  refine ⟨h.toRepresents.sets cs, ?_⟩
  rw [hdata]
  exact h.data.congr (h.toRepresents.sets_frame cs).1

end

end WirePacket

namespace TCPPacket

variable {p : TCPPacket}

/-- The calls leave the data, and whether the checksum is valid. -/
theorem set_data (p : TCPPacket) (c : FieldCall) : (p.set c).data = p.data ∧
    (p.set c).dataLengthBytes = p.dataLengthBytes ∧ (p.set c).validChecksum = p.validChecksum ∧
    (p.set c).timestamp.isSome = p.timestamp.isSome := by
  cases c with
  | tcpFlag flag value => cases flag <;> exact ⟨rfl, rfl, rfl, rfl⟩
  | timestamp | echoReply => exact ⟨rfl, rfl, rfl, Option.isSome_map⟩
  | _ => exact ⟨rfl, rfl, rfl, rfl⟩

theorem sets_data (p : TCPPacket) (cs : List FieldCall) : (cs.foldl set p).data = p.data ∧
    (cs.foldl set p).dataLengthBytes = p.dataLengthBytes ∧ (cs.foldl set p).validChecksum = p.validChecksum ∧
    (cs.foldl set p).timestamp.isSome = p.timestamp.isSome := by
  induction cs generalizing p with
  | nil => exact ⟨rfl, rfl, rfl, rfl⟩
  | cons c cs ih =>
    obtain ⟨h₁, h₂, h₃, h₄⟩ := ih (p.set c)
    obtain ⟨h₁', h₂', h₃', h₄'⟩ := p.set_data c
    exact ⟨h₁.trans h₁', h₂.trans h₂', h₃.trans h₃', h₄.trans h₄'⟩

/-- A packet that the protocol makes: it has a timestamp option, and its data fits. -/
structure Sendable (p : TCPPacket) : Prop where
  timestamp : p.timestamp.isSome = true
  dataLength : p.dataLengthBytes = p.data.length
  fits : p.data.length ≤ maxDataLength
  validChecksum : p.validChecksum = true

theorem sendable_iff : p.Sendable ↔ p.timestamp.isSome = true ∧ p.dataLengthBytes = p.data.length ∧
    p.data.length ≤ maxDataLength ∧ p.validChecksum = true :=
  ⟨fun h => ⟨h.timestamp, h.dataLength, h.fits, h.validChecksum⟩, fun h => ⟨h.1, h.2.1, h.2.2.1, h.2.2.2⟩⟩

instance : Decidable p.Sendable := decidable_of_iff' _ sendable_iff

theorem new_sendable (source destination : AddressPort) (data : List UInt8) : (new source destination data).Sendable where
  timestamp := rfl
  dataLength := rfl
  fits := List.length_take_le _ _
  validChecksum := rfl

theorem Sendable.sets (h : p.Sendable) (cs : List FieldCall) : (cs.foldl set p).Sendable := by
  obtain ⟨h₁, h₂, h₃, h₄⟩ := p.sets_data cs
  exact ⟨h₄.trans h.timestamp, by rw [h₂, h₁, h.dataLength], by rw [h₁]; exact h.fits, h₃.trans h.validChecksum⟩

end TCPPacket

namespace IPPacket

section

variable {p p' : IPPacket}

/-- The checksum that the header of a packet should have. -/
def computedIpChecksum (p : IPPacket) : BitVec 16 :=
  checksum (p.setIpChecksum 0).payload 0 (BitVec.ofNat 16 (p.setIpChecksum 0).getIpHeaderLengthBytes)

theorem payload_calculateAndSetIpChecksum (p : IPPacket) : p.calculateAndSetIpChecksum.payload =
    write p.payload 10 (littleEndianBytes p.computedIpChecksum) := write_littleEndian_twice _ _ _ _

theorem isValidIpChecksum_fst (p : IPPacket) : p.isValidIpChecksum.1 = (p.getIpChecksum == p.computedIpChecksum) := by
  show (p.getIpChecksum == littleEndian p.calculateAndSetIpChecksum.payload 10) = _
  rw [payload_calculateAndSetIpChecksum, littleEndian_write]

/-- The first twenty bytes without the checksum itself decide what it should be. -/
theorem computedIpChecksum_congr (hwords : p.getIpHeaderLengthWords = 5) (hwords' : p'.getIpHeaderLengthWords = 5)
    (h : ∀ i < 20, i ≠ 10 → i ≠ 11 → p'.payload i = p.payload i) : p'.computedIpChecksum = p.computedIpChecksum := by
  have hlength {q : IPPacket} (hq : q.getIpHeaderLengthWords = 5) :
      (q.setIpChecksum 0).getIpHeaderLengthBytes = 20 := by
    have hfirst : write q.payload 10 (littleEndianBytes 0) 0 = q.payload 0 := write_of_not_mem (.inl (by omega))
    show (write q.payload 10 (littleEndianBytes 0) 0).toNat % 16 * 4 = 20
    rw [hfirst]
    exact congrArg (· * 4) hq
  unfold computedIpChecksum
  rw [hlength hwords, hlength hwords', checksum_eq, checksum_eq]
  congr 1
  refine words_congr fun i _ hi => ?_
  have hi : i < 20 := by simpa using hi
  show write p'.payload 10 (littleEndianBytes 0) i = write p.payload 10 (littleEndianBytes 0) i
  by_cases hsum : 10 ≤ i ∧ i < 12
  · rw [write_of_mem hsum.1 (by simpa using hsum.2), write_of_mem hsum.1 (by simpa using hsum.2)]
  · rw [write_of_not_mem (by simp; omega), write_of_not_mem (by simp; omega), h i hi (by omega) (by omega)]

end

end IPPacket

namespace WirePacket

/-! ### The bytes of a segment -/

section

variable {w w' : WirePacket} {p p' : TCPPacket} {protocol : UInt8} {m m' : Nat → UInt8} {n i : Nat}

/-- The segment without the checksums decides what the TCP checksum should be. -/
theorem computedTcpChecksum_congr (htcp : w.tcp = 20) (htcp' : w'.tcp = 20) (hwords : w.getIpHeaderLengthWords = 5)
    (hwords' : w'.getIpHeaderLengthWords = 5) (htot : w'.getIpTotLength = w.getIpTotLength)
    (hle : 20 ≤ w.getIpTotLength.toNat)
    (h : ∀ i < w.getIpTotLength.toNat, 9 ≤ i → i ≠ 10 → i ≠ 11 → i ≠ 36 → i ≠ 37 → w'.payload i = w.payload i) :
    w'.computedTcpChecksum = w.computedTcpChecksum := by
  rw [computedTcpChecksum_eq htcp' hwords' (by rw [htot]; exact hle), computedTcpChecksum_eq htcp hwords hle, htot]
  congr 1
  refine IPPacket.words_congr fun i h8 hi => ?_
  by_cases h20 : i < 20
  · have hlength : w'.nextLength = w.nextLength := by
      show (w'.getIpTotLength.toNat : Int) - (w'.getIpHeaderLengthWords * 4 : Nat) = _
      rw [htot, hwords', ← hwords]
      rfl
    have hsame (k : Nat) (h₁ : 12 ≤ k) (h₂ : k < 20) : w'.payload k = w.payload k :=
      h k (by omega) (by omega) (by omega) (by omega) (by omega) (by omega)
    rw [checkedBytes_pseudo h8 h20, checkedBytes_pseudo h8 h20, pseudoHeader_eq, pseudoHeader_eq, hlength,
      hsame 12 (by omega) (by omega), hsame 13 (by omega) (by omega), hsame 14 (by omega) (by omega),
      hsame 15 (by omega) (by omega), hsame 16 (by omega) (by omega), hsame 17 (by omega) (by omega),
      hsame 18 (by omega) (by omega), hsame 19 (by omega) (by omega),
      h 9 (by omega) (by omega) (by omega) (by omega) (by omega) (by omega)]
  · rw [checkedBytes_segment (by omega), checkedBytes_segment (by omega), payload_setTcpChecksum, payload_setTcpChecksum,
      htcp, htcp']
    by_cases hsum : 36 ≤ i ∧ i < 38
    · rw [write_of_mem hsum.1 (by simpa using hsum.2), write_of_mem hsum.1 (by simpa using hsum.2)]
    · rw [write_of_not_mem (by simp; omega), write_of_not_mem (by simp; omega)]
      exact h i (by omega) (by omega) (by omega) (by omega) (by omega) (by omega)

/-- The packet of a memory, with its pointers behind an IP header of twenty bytes. -/
def ofMemory (m : Nat → UInt8) : WirePacket := ⟨⟨m⟩, 20, 20, [], false⟩

/-- A memory that starts with the bytes of a segment. -/
structure Segment (protocol : UInt8) (p : TCPPacket) (m : Nat → UInt8) : Prop where
  header : segmentLayout.Holds m (p.headerBytes protocol)
  totLength : (bigEndian m 2).toNat = 52 + p.data.length
  options : ∃ ts ∈ p.timestamp, Slice.slice m 40 12 = packedOptions [(ts.toOption, 0)]
  data : Slice.slice m 52 p.data.length = p.data
  ipChecksum : littleEndian m 10 = (IPPacket.mk m).computedIpChecksum
  tcpChecksum : littleEndian m 36 = (ofMemory m).computedTcpChecksum

theorem Segment.words (h : Segment protocol p m) : (IPPacket.mk m).getIpHeaderLengthWords = 5 := by
  have hbyte : m 0 = 0x45 := byte_of_slice (h.header .version)
  show (m 0).toNat % 16 = 5
  rw [hbyte]
  rfl

theorem field_lt (f : SegmentField) : segmentLayout.position f + segmentLayout.size f ≤ 40 := by
  cases f <;> decide

/-- The bytes up to the total length are all that counts. -/
theorem Segment.congr (h : Segment protocol p m) (hm : ∀ i < 52 + p.data.length, m' i = m i) :
    Segment protocol p m' := by
  have htot : bigEndian m' 2 = bigEndian m 2 := bigEndian_congr (hm 2 (by omega)) (hm 3 (by omega))
  have hwords : (IPPacket.mk m').getIpHeaderLengthWords = 5 := by
    rw [← h.words]
    exact congrArg (fun b : UInt8 => b.toNat % 16) (hm 0 (by omega))
  have hlength := h.totLength
  obtain ⟨ts, hts, hoptions⟩ := h.options
  refine ⟨h.header.congr fun f k hk => hm _ ?_, by rw [htot, hlength], ⟨ts, hts, ?_⟩, ?_, ?_, ?_⟩
  · have hlt := field_lt f
    omega
  · exact (Slice.slice_congr fun k hk => hm (40 + k) (by omega)).trans hoptions
  · exact (Slice.slice_congr fun k hk => hm (52 + k) (by omega)).trans h.data
  · rw [littleEndian_congr (hm 10 (by omega)) (hm 11 (by omega)), h.ipChecksum]
    exact (IPPacket.computedIpChecksum_congr h.words hwords fun i hi _ _ => hm i (by omega)).symm
  · rw [littleEndian_congr (hm 36 (by omega)) (hm 37 (by omega)), h.tcpChecksum]
    refine (@computedTcpChecksum_congr (ofMemory m) (ofMemory m') rfl rfl h.words hwords htot ?_
      fun i hi _ _ _ _ _ => hm i ?_).symm
    · show 20 ≤ (bigEndian m 2).toNat
      omega
    · have hi : i < (bigEndian m 2).toNat := hi
      omega

/-- Every byte of the header is in a field, in the total length or in a checksum. -/
theorem field_cover : ∀ i < 40, i = 2 ∨ i = 3 ∨ i = 10 ∨ i = 11 ∨ i = 36 ∨ i = 37 ∨
    ∃ f ∈ [SegmentField.version, .typeOfService, .identification, .timeToLive, .ipProtocol, .sourceAddress,
      .destinationAddress, .sourcePort, .destinationPort, .sequenceNumber, .ackNumber, .dataOffset, .flags, .window,
      .urgentPointer], f.position ≤ i ∧ i - f.position < f.size := by
  decide

/-- A packet as the protocol sees it decides all bytes of its segment. -/
theorem Segment.unique (h : Segment protocol p m) (h' : Segment protocol p m') :
    ∀ i < 52 + p.data.length, m' i = m i := by
  have htot : bigEndian m' 2 = bigEndian m 2 := BitVec.eq_of_toNat_eq (h'.totLength.trans h.totLength.symm)
  obtain ⟨ts, hts, hoptions⟩ := h.options
  obtain ⟨ts', hts', hoptions'⟩ := h'.options
  obtain rfl : ts = ts' := Option.some.inj (hts.symm.trans hts')
  -- everything but the checksums
  have hplain (i : Nat) (hi : i < 52 + p.data.length) (h10 : i ≠ 10) (h11 : i ≠ 11) (h36 : i ≠ 36) (h37 : i ≠ 37) :
      m' i = m i := by
    by_cases h40 : i < 40
    · obtain rfl | rfl | hi | hi | hi | hi | ⟨f, -, hle, hlt⟩ := field_cover i h40
      · exact (bigEndian_inj.1 htot).1
      · exact (bigEndian_inj.1 htot).2
      · exact absurd hi h10
      · exact absurd hi h11
      · exact absurd hi h36
      · exact absurd hi h37
      · have hsame := Slice.slice_eq_iff.1 ((h'.header f).trans (h.header f).symm) (i - f.position) hlt
        have hadd : segmentLayout.position f + (i - f.position) = i := Nat.add_sub_cancel' hle
        rw [Nat.cast_id, hadd] at hsame
        exact hsame
    · by_cases h52 : i < 52
      · have hsame := Slice.slice_eq_iff.1 (hoptions'.trans hoptions.symm) (i - 40) (by omega)
        rw [Nat.cast_id, Nat.add_sub_cancel' (by omega)] at hsame
        exact hsame
      · have hsame := Slice.slice_eq_iff.1 (h'.data.trans h.data.symm) (i - 52) (by omega)
        rw [Nat.cast_id, Nat.add_sub_cancel' (by omega)] at hsame
        exact hsame
  have hip : littleEndian m' 10 = littleEndian m 10 := by
    rw [h.ipChecksum, h'.ipChecksum]
    exact IPPacket.computedIpChecksum_congr h.words h'.words fun i hi h10 h11 =>
      hplain i (by omega) h10 h11 (by omega) (by omega)
  have htcp : littleEndian m' 36 = littleEndian m 36 := by
    rw [h.tcpChecksum, h'.tcpChecksum]
    have htotal : (bigEndian m 2).toNat = 52 + p.data.length := h.totLength
    refine @computedTcpChecksum_congr (ofMemory m) (ofMemory m') rfl rfl h.words h'.words htot ?_
      fun i hi _ h10 h11 h36 h37 => hplain i ?_ h10 h11 h36 h37
    · show 20 ≤ (bigEndian m 2).toNat
      omega
    · have hi : i < (bigEndian m 2).toNat := hi
      omega
  intro i hi
  by_cases h10 : i = 10
  · subst h10
    exact (littleEndian_inj.1 hip).1
  by_cases h11 : i = 11
  · subst h11
    exact (littleEndian_inj.1 hip).2
  by_cases h36 : i = 36
  · subst h36
    exact (littleEndian_inj.1 htcp).1
  by_cases h37 : i = 37
  · subst h37
    exact (littleEndian_inj.1 htcp).2
  exact hplain i hi h10 h11 h36 h37

/-- The bytes that are sent. -/
theorem Carries.transmit (h : w.Carries protocol p) (hfits : p.data.length ≤ Wifu.maxDataLength) :
    ∃ m, Segment protocol p m ∧ w.transmit = Slice.slice m 0 (52 + p.data.length) := by
  have hmax : Wifu.maxDataLength = 1448 := rfl
  obtain ⟨ts, place, hts, hoptions⟩ := h.option
  -- the options
  generalize hpacked : packedOptions [(ts.toOption, 0)] = bytes
  have hbytes : bytes.length = 12 := by
    rw [← hpacked, length_packedOptions (by rw [optionsLength_timestamp]; omega), paddedLength_timestamp]
  have hpack : w.pack = w.store 40 bytes := by
    show w.store (w.getNextHeader + 20) (packedOptions w.options) = _
    rw [h.getNextHeader, hoptions, ← hpacked]
    rfl
  have hpacked' : w.pack.Represents protocol p := by
    rw [hpack]
    exact ⟨h.ports, h.tcp, h.option, h.header.write fun f => .inl (field_lt f)⟩
  -- the TCP checksum
  have hwords : w.pack.getIpHeaderLengthWords = 5 := by
    have hnext : w.pack.getIpHeaderLengthWords * 4 = 20 := hpacked'.getNextHeader
    omega
  have hfinish : w.finish = w.pack.setTcpChecksum w.pack.computedTcpChecksum := calculateAndSetTcpChecksum_plain hwords
  generalize hip : w.finish.toIPPacket.computedIpChecksum = sum
  have hsend : w.finish.toIPPacket.calculateAndSetIpChecksum.payload =
      write (write (write w.payload 40 bytes) 36 (littleEndianBytes w.pack.computedTcpChecksum)) 10
        (littleEndianBytes sum) := by
    rw [IPPacket.payload_calculateAndSetIpChecksum, hip, hfinish]
    show write (write w.pack.payload (w.pack.tcp + 16) _) 10 _ = _
    rw [hpacked'.tcp, hpack]
    rfl
  generalize hm : write (write (write w.payload 40 bytes) 36 (littleEndianBytes w.pack.computedTcpChecksum)) 10
    (littleEndianBytes sum) = m at hsend
  have hsame (i : Nat) (h10 : i ≠ 10) (h11 : i ≠ 11) (h36 : i ≠ 36) (h37 : i ≠ 37) : m i = w.pack.payload i := by
    rw [← hm, write_of_not_mem (by simp; omega), write_of_not_mem (by simp; omega), hpack]
    rfl
  have hheader : segmentLayout.Holds m (p.headerBytes protocol) := by
    refine hpacked'.header.congr fun f k hk => hsame _ ?_ ?_ ?_ ?_
    all_goals
      cases f <;> simp only [segmentLayout, SegmentField.position, SegmentField.size] at hk ⊢ <;> omega
  have htot : bigEndian m 2 = bigEndian w.payload 2 := by
    have hbefore (i : Nat) (hi : i < 4) : m i = w.payload i := by
      rw [hsame i (by omega) (by omega) (by omega) (by omega), hpack]
      exact write_of_not_mem (.inl (by omega))
    exact bigEndian_congr (hbefore 2 (by omega)) (hbefore 3 (by omega))
  have htotal : (bigEndian m 2).toNat = 52 + p.data.length := by
    rw [htot]
    exact h.data.totLength
  have hwords' : (IPPacket.mk m).getIpHeaderLengthWords = 5 := by
    rw [← hwords]
    exact congrArg (fun b : UInt8 => b.toNat % 16) (hsame 0 (by omega) (by omega) (by omega) (by omega))
  refine ⟨m, ⟨hheader, htotal, ⟨ts, hts, ?_⟩, ?_, ?_, ?_⟩, ?_⟩
  · rw [hpacked, ← hbytes]
    refine Eq.trans (Slice.slice_congr fun k hk => ?_) (slice_write_self w.payload 40 bytes)
    show m (40 + k) = write w.payload 40 bytes (40 + k)
    rw [hsame _ (by omega) (by omega) (by omega) (by omega), hpack]
    rfl
  · refine Eq.trans (Slice.slice_congr fun k hk => ?_) h.data.data
    show m (52 + k) = w.payload (52 + k)
    rw [hsame _ (by omega) (by omega) (by omega) (by omega), hpack]
    exact write_of_not_mem (.inr (by omega))
  · have hread : littleEndian m 10 = sum := by
      rw [← hm]
      exact littleEndian_write _ _ _
    rw [hread, ← hip]
    have hfields : w.finish.getIpHeaderLengthWords = 5 := by
      rw [hfinish, getIpHeaderLengthWords_setTcpChecksum, hwords]
    refine (IPPacket.computedIpChecksum_congr hfields hwords' fun i hi h10 h11 => ?_).symm
    show m i = w.finish.payload i
    rw [hsame i h10 h11 (by omega) (by omega), hfinish]
    exact (setTcpChecksum_of_lt _ (by rw [hpacked'.tcp]; omega)).symm
  · have hread : littleEndian m 36 = w.pack.computedTcpChecksum := by
      rw [← hm]
      refine Eq.trans (littleEndian_congr ?_ ?_) (littleEndian_write (write w.payload 40 bytes) 36 _)
      · exact write_of_not_mem (.inr (by simp))
      · exact write_of_not_mem (.inr (by simp))
    rw [hread]
    have htot' : w.pack.getIpTotLength = bigEndian m 2 := by
      refine (bigEndian_congr ?_ ?_).symm <;> exact hsame _ (by omega) (by omega) (by omega) (by omega)
    refine (@computedTcpChecksum_congr w.pack (ofMemory m) hpacked'.tcp rfl hwords hwords' htot'.symm ?_
      fun i _ _ h10 h11 h36 h37 => hsame i h10 h11 h36 h37).symm
    rw [htot']
    omega
  · show Slice.slice w.finish.toIPPacket.calculateAndSetIpChecksum.payload 0
      (bigEndian w.finish.toIPPacket.calculateAndSetIpChecksum.payload 2).toNat = _
    rw [hsend, htotal]

/-! ### What the other side reads -/

/-- Validating the TCP checksum of a packet with an IP header of twenty bytes leaves the packet as it is. -/
theorem checked_plain (hwords : w.getIpHeaderLengthWords = 5) : w.checked = w := by
  show (w.calculateAndSetTcpChecksum).setTcpChecksum w.getTcpChecksum = w
  rw [calculateAndSetTcpChecksum_plain hwords, setTcpChecksum_setTcpChecksum]
  show ({ w with payload := write w.payload (w.tcp + 16) (littleEndianBytes (littleEndian w.payload (w.tcp + 16))) } :
    WirePacket) = w
  rw [littleEndianBytes_eq, write_slice]

/-- The timestamps of an option are in its first ten bytes. -/
theorem timestampOf_of_value {o : TCPHeaderOption} {ts : TCPTimestampOption} (h : o.value = ts.toOption.value) :
    o.kind = tcpoptTimestamp ∧ timestampOf o = ts := by
  have hkind : o.kind = ts.toOption.kind := congrArg Prod.fst h
  have hlength : o.length = ts.toOption.length := congrArg (·.2.1) h
  have hbytes : optionBytes o = optionBytes ts.toOption := congrArg (·.2.2) h
  have htake : o.data.take 10 = 8 :: 10 :: (bigEndianBytes32 ts.timestamp ++ bigEndianBytes32 ts.echoReply) := by
    have hten : o.length.toNat = 10 := by
      rw [hlength]
      rfl
    rw [← hten]
    exact hbytes
  -- the bytes from `a` on, as a receiver reads them
  have hread (a : Nat) (ha : a + 4 ≤ 10) :
      Slice.slice (fun i => o.data.getD i 0) a 4 = ((o.data.take 10).drop a).take 4 := by
    refine List.ext_getElem ?_ fun k hk _ => ?_
    · rw [Slice.length_slice, List.length_take, List.length_drop, List.length_take, o.length_data, tcpHeaderOptionMaxSize]
      omega
    · rw [Slice.getElem_slice, List.getElem_take, List.getElem_drop, List.getElem_take]
      have hk : k < 4 := by simpa using hk
      exact List.getD_eq_getElem _ _ (by
        rw [o.length_data, tcpHeaderOptionMaxSize, Nat.cast_id]
        omega)
  refine ⟨hkind, ?_⟩
  have hfirst : bigEndian32 (fun i => o.data.getD i 0) 2 = ts.timestamp := bigEndian32_of_slice (by
    rw [hread 2 (by omega), htake]
    rfl)
  have hsecond : bigEndian32 (fun i => o.data.getD i 0) 6 = ts.echoReply := bigEndian32_of_slice (by
    rw [hread 6 (by omega), htake]
    rfl)
  exact congrArg₂ TCPTimestampOption.mk hfirst hsecond

/-- The option that is found in the bytes of a segment. -/
theorem Segment.getOption (h : Segment protocol p w.payload) (hoptions : w.options = []) (htcp : w.tcp = 20) {fuel : Nat}
    (hfuel : 1 < fuel) : ∃ o, w.getOption fuel tcpoptTimestamp = some (some o) ∧ p.timestamp = some (timestampOf o) := by
  obtain ⟨ts, hts, hbytes⟩ := h.options
  have hnext : w.getNextHeader = 20 := congrArg (· * 4) h.words
  have hoffset : w.getTcpDataOffset = 8 := by
    have hbyte : w.payload 32 = 0x80 := byte_of_slice (h.header .dataOffset)
    show (w.payload (w.tcp + 12)).toNat / 16 = 8
    rw [htcp, hbyte]
    rfl
  have hsum : ([ts.toOption].map fun o => o.length.toNat).sum = 10 := rfl
  have hmemory : TCPHeaderOptionCollection.bytesAt (fun i => w.payload (w.getOptionsPointer + i)) 0
      (([ts.toOption].map fun o => o.length.toNat).sum + 2) =
        ([ts.toOption].map optionBytes).flatten ++ List.replicate 2 0 := by
    rw [hsum, TCPHeaderOptionCollection.bytesAt_eq_slice]
    refine Eq.trans (Slice.slice_congr fun k _ => ?_) (hbytes.trans ?_)
    · show w.payload (w.getNextHeader + 20 + (0 + k)) = w.payload (40 + k)
      rw [hnext, Nat.zero_add]
    · unfold packedOptions
      rw [paddedLength_timestamp, optionsLength_timestamp]
      rfl
  obtain ⟨r, hparse, hvalue, haborted⟩ := TCPHeaderOptionCollection.parse_packed [ts.toOption]
    (by rw [List.forall_mem_singleton]; exact ⟨Nat.le_of_ble_eq_true rfl, Nat.le_of_ble_eq_true rfl⟩) (k := 2) (by rw [hsum]; omega) hfuel hmemory
  obtain ⟨o, ho, hvalue⟩ := List.map_eq_singleton_iff.1 hvalue
  obtain ⟨hkind, hoption⟩ := timestampOf_of_value hvalue
  refine ⟨o, ?_, by rw [hoption]; exact hts⟩
  have hparsed : w.parsedOptions fuel = some [o] := by
    unfold parsedOptions TCPHeaderOptionCollection.parseOptions TCPHeaderOptionCollection.optionBytes
    rw [if_pos hoptions, hoffset, if_pos (by decide)]
    rw [hsum] at hparse
    show (TCPHeaderOptionCollection.parse _ fuel 0 (BitVec.ofNat 8 (10 + 2))).bind _ = _
    rw [hparse]
    show (if r.aborted = true then none else some r.options) = _
    rw [haborted, ho]
    rfl
  unfold WirePacket.getOption
  rw [hparsed]
  show some (TCPHeaderOptionCollection.findOption tcpoptTimestamp [o]) = _
  unfold TCPHeaderOptionCollection.findOption
  rw [List.find?_cons_of_pos (by simpa using hkind)]

/-- The getters of a packet that holds a segment. -/
theorem Segment.view (h : Segment protocol p w.payload) (hs : p.Sendable) (hports : w.ports = 20) (htcp : w.tcp = 20)
    {o : TCPHeaderOption} (ho : p.timestamp = some (timestampOf o)) : w.view true (some o) = p := by
  have hnext : w.getNextHeader = 20 := congrArg (· * 4) h.words
  have hdata : w.getData = 52 := by
    have hbyte : w.payload 32 = 0x80 := byte_of_slice (h.header .dataOffset)
    show w.getNextHeader + (w.payload (w.tcp + 12)).toNat / 16 * 4 = 52
    rw [hnext, htcp, hbyte]
    rfl
  have hlength : w.getDataLengthBytes = p.data.length := by
    have htot : w.getIpTotLength.toNat = 52 + p.data.length := h.totLength
    have hsplit : w.getData = w.getIpHeaderLengthBytes + w.getTcpHeaderLengthBytes := rfl
    show (w.getIpTotLength.toNat : Int) - w.getIpHeaderLengthBytes - w.getTcpHeaderLengthBytes = _
    omega
  have hflag (bit : Nat) : w.flag bit =
      (flagByte p.fin p.syn p.rst p.psh p.ack p.urg).toNat.testBit bit := by
    have hbyte : w.payload 33 = flagByte p.fin p.syn p.rst p.psh p.ack p.urg := byte_of_slice (h.header .flags)
    show (w.payload (w.tcp + 13)).toNat.testBit bit = _
    rw [htcp, hbyte]
  obtain ⟨⟨hfin, hsyn, hrst⟩, hpsh, hack, hurg⟩ := testBit_flagByte p.fin p.syn p.rst p.psh p.ack p.urg
  have hports' (n : Nat) : w.ports + n = 20 + n := congrArg (· + n) hports
  have htcp' (n : Nat) : w.tcp + n = 20 + n := congrArg (· + n) htcp
  ext1
  · exact congrArg₂ AddressPort.mk (bigEndian32_of_slice (h.header .sourceAddress))
      ((congrArg (bigEndian w.payload) hports).trans (bigEndian_of_slice (h.header .sourcePort)))
  · exact congrArg₂ AddressPort.mk (bigEndian32_of_slice (h.header .destinationAddress))
      ((congrArg (bigEndian w.payload) (hports' 2)).trans (bigEndian_of_slice (h.header .destinationPort)))
  · exact (congrArg (bigEndian32 w.payload) (htcp' 4)).trans (bigEndian32_of_slice (h.header .sequenceNumber))
  · exact (congrArg (bigEndian32 w.payload) (htcp' 8)).trans (bigEndian32_of_slice (h.header .ackNumber))
  · exact (hflag 5).trans hurg
  · exact (hflag 4).trans hack
  · exact (hflag 3).trans hpsh
  · exact (hflag 2).trans hrst
  · exact (hflag 1).trans hsyn
  · exact (hflag 0).trans hfin
  · exact (congrArg (bigEndian w.payload) (htcp' 14)).trans (bigEndian_of_slice (h.header .window))
  · exact ho.symm
  · exact hlength.trans hs.dataLength.symm
  · show Slice.slice w.payload w.getData w.getDataLengthBytes.toNat = p.data
    rw [hdata, hlength, Int.toNat_natCast]
    exact h.data
  · exact hs.validChecksum.symm

/-- Reading the bytes of a segment gives the packet. -/
theorem Segment.decode (h : Segment protocol p m) (hs : p.Sendable) (memory : Nat → UInt8) {fuel : Nat}
    (hfuel : 1 < fuel) : WirePacket.decode memory fuel (Slice.slice m 0 (52 + p.data.length)) = some p := by
  have hfits := hs.fits
  have hmax : Wifu.maxDataLength = 1448 := rfl
  have hmtu : mtu = 1500 := rfl
  generalize hr : receive memory (Slice.slice m 0 (52 + p.data.length)) = r
  have hread (i : Nat) (hi : i < 52 + p.data.length) : r.payload i = m i := by
    rw [← hr]
    exact receive_payload hi
  have hseg : Segment protocol p r.payload := h.congr hread
  have hports : r.ports = 20 := by rw [← hr, receive_ports]
  have htcp : r.tcp = 20 := by rw [← hr, receive_tcp]
  have hoptions : r.options = [] := by rw [← hr]; rfl
  have hwords : r.getIpHeaderLengthWords = 5 := hseg.words
  have hlisten : listen memory (Slice.slice m 0 (52 + p.data.length)) = some r := by
    have htake : (Slice.slice m 0 (52 + p.data.length)).take mtu = Slice.slice m 0 (52 + p.data.length) :=
      List.take_of_length_le (by rw [Slice.length_slice]; omega)
    unfold listen
    rw [htake]
    simp only
    rw [hr, if_pos]
    rw [Slice.length_slice]
    exact hseg.totLength.symm
  have hip : r.isValidIpChecksum.1 = true := by
    rw [IPPacket.isValidIpChecksum_fst, beq_iff_eq]
    exact hseg.ipChecksum
  have hsame : ({ r with toIPPacket := r.isValidIpChecksum.2 } : WirePacket) = r := by
    have hpayload : r.isValidIpChecksum.2 = r.toIPPacket := IPPacket.ext (IPPacket.isValidIpChecksum_payload r.toIPPacket)
    rw [hpayload]
  have htcpSum : r.isValidTcpChecksum.1 = true := by
    have hofMemory : (ofMemory r.payload).computedTcpChecksum = r.computedTcpChecksum :=
      computedTcpChecksum_congr htcp rfl hwords hwords rfl
        (by
          have htot : r.getIpTotLength.toNat = 52 + p.data.length := hseg.totLength
          omega) fun i _ _ _ _ _ _ => rfl
    rw [isValidTcpChecksum_fst, beq_iff_eq, ← hofMemory, ← hseg.tcpChecksum]
    unfold getTcpChecksum
    rw [htcp]
  obtain ⟨o, ho, hts⟩ := hseg.getOption hoptions htcp hfuel
  unfold WirePacket.decode
  rw [hlisten]
  show (if r.isValidIpChecksum.1 = true then
    ({ r with toIPPacket := r.isValidIpChecksum.2 } : WirePacket).toTCPPacket fuel else none) = some p
  rw [if_pos hip, hsame]
  unfold toTCPPacket
  rw [checked_plain hwords, htcpSum, ho, Option.map_some, hseg.view hs hports htcp hts]

/-- The bytes that are sent depend on the packet as the protocol sees it only. -/
theorem Carries.transmit_eq (h : w.Carries protocol p) (h' : w'.Carries protocol p)
    (hfits : p.data.length ≤ Wifu.maxDataLength) : w'.transmit = w.transmit := by
  obtain ⟨m, hm, heq⟩ := h.transmit hfits
  obtain ⟨m', hm', heq'⟩ := h'.transmit hfits
  rw [heq, heq']
  refine Slice.slice_congr fun k hk => ?_
  have hsame := hm.unique hm' k hk
  simpa using hsame

/-- A packet that has been made as the protocol makes it. -/
theorem compose_carries {memory : Nat → UInt8} (hzero : ∀ i, 20 ≤ i → i < 40 → memory i = 0) (place : Nat)
    (before after : List FieldCall) {data : List UInt8} (hfits : data.length ≤ Wifu.maxDataLength) :
    ∃ w, compose memory place before data after = some w ∧
      w.Carries ((before ++ after).foldl FieldCall.protocol 0)
        ((before ++ after).foldl TCPPacket.set (TCPPacket.new ⟨0, 0⟩ ⟨0, 0⟩ data)) := by
  have hnew := newSegment_represents hzero place data
  obtain ⟨hdata, -, -, -⟩ := TCPPacket.sets_data (TCPPacket.new ⟨0, 0⟩ ⟨0, 0⟩ data) before
  rw [TCPPacket.new_data hfits] at hdata
  obtain ⟨w, hw, hcarries⟩ := (hnew.sets before).setData ((hnew.sets_frame before).2.trans rfl) (by
    rw [hdata]
    exact hfits)
  rw [hdata] at hw
  refine ⟨after.foldl WirePacket.set w, ?_, ?_⟩
  · show ((before.foldl WirePacket.set (newSegment memory place)).setData data).map _ = _
    rw [hw]
    rfl
  · rw [List.foldl_append, List.foldl_append]
    exact hcarries.sets (TCPPacket.sets_data _ after).1

end

/-- A packet with a timestamp option on which setters have been called in any order, with its data set in between, is sent
as bytes that the other side reads: their number is the total length, both checksums are valid, and the protocol there sees
the fields that the calls have set and the data. -/
theorem segment_round_trip (memory memory' : Nat → UInt8) (place : Nat) (before after : List FieldCall)
    (data : List UInt8) (fuel : Nat) (hzero : ∀ i, 20 ≤ i → i < 40 → memory i = 0)
    (hfits : data.length ≤ Wifu.maxDataLength) (hfuel : 1 < fuel) :
    ∃ w, compose memory place before data after = some w ∧
      decode memory' fuel w.transmit =
        some ((before ++ after).foldl TCPPacket.set (TCPPacket.new ⟨0, 0⟩ ⟨0, 0⟩ data)) := by
  obtain ⟨w, hw, hcarries⟩ := compose_carries hzero place before after hfits
  have hs := (TCPPacket.new_sendable ⟨0, 0⟩ ⟨0, 0⟩ data).sets (before ++ after)
  obtain ⟨m, hm, heq⟩ := hcarries.transmit hs.fits
  exact ⟨w, hw, by rw [heq, hm.decode hs memory' hfuel]⟩

/-- A segment with two bytes of data. -/
theorem segment_round_trip_data : ∃ w, compose (fun _ => 0) 1
    [.ipDestinationAddress 0x0a000002, .destinationPort 80, .ipSourceAddress 0x0a000001, .sourcePort 5000] [104, 105]
      [.ipProtocol tcpTahoeProtocol, .tcpSequenceNumber 7, .tcpAckNumber 9, .tcpFlag .ack true, .timestamp 1000] = some w ∧
    decode (fun _ => 0) 2 w.transmit = some { TCPPacket.new ⟨0x0a000001, 5000⟩ ⟨0x0a000002, 80⟩ [104, 105] with
      sequenceNumber := 7, ackNumber := 9, ack := true, timestamp := some ⟨1000, 0⟩ } :=
  segment_round_trip (fun _ => 0) (fun _ => 0) 1
    [.ipDestinationAddress 0x0a000002, .destinationPort 80, .ipSourceAddress 0x0a000001, .sourcePort 5000]
    [.ipProtocol tcpTahoeProtocol, .tcpSequenceNumber 7, .tcpAckNumber 9, .tcpFlag .ack true, .timestamp 1000] [104, 105] 2
    (fun _ _ _ => rfl) (by decide) (by decide)

end WirePacket

end Wifu
