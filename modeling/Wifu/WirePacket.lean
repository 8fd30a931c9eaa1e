import Wifu.HeaderOptions
import Wifu.Packet
import Wifu.Lib.ByteMemory
import Wifu.Lib.OnesComplement

/-!
# Packets as bytes (`IPPacket.cc`, `WiFuPacket.cc`, `TCPPacket.cc`, the option visitors)

A packet object holds a buffer, `payload_`, and pointers into it.  The buffer is a memory of bytes and a pointer is its
distance from the start of the buffer.  The IP header has its length in words in the low half of byte 0, the total
length in bytes 2 and 3, the protocol in byte 9, the checksum in bytes 10 and 11 and the addresses in bytes 12 to 19.
-/

namespace Wifu

open ByteMemory

/-- An `IPPacket`: its buffer. -/
@[ext] structure IPPacket where
  payload : Nat → UInt8

namespace IPPacket

/-- `sizeof (struct iphdr)`. -/
def ipHeaderSize : Nat := 20

/-- `sizeof (struct ip_pseudo_header)`. -/
def ipPseudoHeaderSize : Nat := 12

/-- `get_ip_header_length_words`. -/
def getIpHeaderLengthWords (p : IPPacket) : Nat := (p.payload 0).toNat % 16

/-- `get_ip_header_length_bytes`. -/
def getIpHeaderLengthBytes (p : IPPacket) : Nat := p.getIpHeaderLengthWords * 4

/-- `get_next_header`. -/
def getNextHeader (p : IPPacket) : Nat := p.getIpHeaderLengthBytes

/-- `get_ip_tot_length`. -/
def getIpTotLength (p : IPPacket) : BitVec 16 := bigEndian p.payload 2

/-- `set_ip_tot_length`. -/
def setIpTotLength (p : IPPacket) (length : BitVec 16) : IPPacket := ⟨write p.payload 2 (bigEndianBytes length)⟩

/-- `get_ip_checksum`; the bytes are not swapped. -/
def getIpChecksum (p : IPPacket) : BitVec 16 := littleEndian p.payload 10

/-- `set_ip_checksum`. -/
def setIpChecksum (p : IPPacket) (sum : BitVec 16) : IPPacket := ⟨write p.payload 10 (littleEndianBytes sum)⟩

/-! ### The checksum -/

/-- The first loop of `checksum` and the last byte of an odd length; `sum` is a `long`. -/
def addWords (m : Nat → UInt8) (ptr : Nat) : Nat → Nat → Nat
  | 0, sum => sum
  | 1, sum => sum + (m ptr).toNat
  | len + 2, sum =>
    let sum := sum + (littleEndian m ptr).toNat
    addWords m (ptr + 2) len (if sum.testBit 31 then sum % 65536 + sum / 65536 else sum)

/-- The last loop of `checksum`, with fuel for its rounds. -/
def foldCarries : Nat → Nat → Nat
  | 0, sum => sum
  | fuel + 1, sum => if sum / 65536 ≠ 0 then foldCarries fuel (sum % 65536 + sum / 65536) else sum

/-- `checksum`; each round of the last loop makes the sum smaller. -/
def checksum (m : Nat → UInt8) (ptr : Nat) (len : BitVec 16) : BitVec 16 :=
  let sum := addWords m ptr len.toNat 0
  ~~~BitVec.ofNat 16 (foldCarries sum sum)

/-- `calculate_and_set_ip_checksum`. -/
def calculateAndSetIpChecksum (p : IPPacket) : IPPacket :=
  let p := p.setIpChecksum 0
  p.setIpChecksum (checksum p.payload 0 (BitVec.ofNat 16 p.getIpHeaderLengthBytes))

/-- `is_valid_ip_checksum`: its answer, and the packet it leaves. -/
def isValidIpChecksum (p : IPPacket) : Bool × IPPacket :=
  let currentChecksum := p.getIpChecksum
  let p := p.calculateAndSetIpChecksum
  let calculatedChecksum := p.getIpChecksum
  (currentChecksum == calculatedChecksum, p.setIpChecksum currentChecksum)

/-- `length` of `compute_next_checksum`. -/
def nextLength (p : IPPacket) : Int := p.getIpTotLength.toNat - p.getIpHeaderLengthBytes

/-- The pseudo header of a packet. -/
def pseudoHeader (p : IPPacket) : List UInt8 :=
  Slice.slice p.payload 12 4 ++ Slice.slice p.payload 16 4 ++ [0, p.payload 9] ++
    bigEndianBytes (BitVec.ofInt 16 p.nextLength)

/-- `compute_next_checksum`: the checksum, and the packet it leaves.  The pseudo header is written right before the next
header; then the first twenty bytes are put back. -/
def computeNextChecksum (p : IPPacket) : BitVec 16 × IPPacket :=
  let ip := Slice.slice p.payload 0 ipHeaderSize
  let packet := p.getNextHeader - ipPseudoHeaderSize
  let payload := write p.payload packet p.pseudoHeader
  let packetLength := BitVec.ofInt 16 (ipPseudoHeaderSize + p.nextLength)
  (checksum payload packet packetLength, ⟨write payload 0 ip⟩)

/-- `init` on the bytes that the buffer has. -/
def init (memory : Nat → UInt8) : IPPacket :=
  let p : IPPacket := ⟨write memory 0 (List.replicate ipHeaderSize 0)⟩
  let p : IPPacket := ⟨write p.payload 0 [0x45]⟩
  let p := p.setIpTotLength (BitVec.ofNat 16 p.getIpHeaderLengthBytes)
  ⟨write p.payload 8 [65]⟩

end IPPacket

/-- A `TCPPacket` with its buffer.  The options are pointers: an object and its place in memory. -/
structure WirePacket extends IPPacket where
  /-- `ports_`. -/
  ports : Nat
  /-- `tcp_`. -/
  tcp : Nat
  options : List (TCPHeaderOption × Nat) := []
  dataSet : Bool := false

namespace WirePacket

/-- `sizeof (struct tcphdr)`. -/
def tcpHeaderSize : Nat := 20

/-! ### The fields of the header -/

/-- `get_source_port`. -/
def getSourcePort (p : WirePacket) : BitVec 16 := bigEndian p.payload p.ports

/-- `get_destination_port`. -/
def getDestinationPort (p : WirePacket) : BitVec 16 := bigEndian p.payload (p.ports + 2)

/-- `get_tcp_sequence_number`. -/
def getTcpSequenceNumber (p : WirePacket) : BitVec 32 := bigEndian32 p.payload (p.tcp + 4)

/-- `get_tcp_ack_number`. -/
def getTcpAckNumber (p : WirePacket) : BitVec 32 := bigEndian32 p.payload (p.tcp + 8)

/-- `get_tcp_data_offset`: the high half of a byte. -/
def getTcpDataOffset (p : WirePacket) : Nat := (p.payload (p.tcp + 12)).toNat / 16

/-- `set_tcp_data_offset`; the field has four bits. -/
def setTcpDataOffset (p : WirePacket) (length : Nat) : WirePacket :=
  { p with
    payload := write p.payload (p.tcp + 12)
      [UInt8.ofNat (length % 16 * 16 + (p.payload (p.tcp + 12)).toNat % 16)] }

/-- The flags, by their bits. -/
def flag (p : WirePacket) (bit : Nat) : Bool := (p.payload (p.tcp + 13)).toNat.testBit bit

def isTcpFin (p : WirePacket) : Bool := p.flag 0

def isTcpSyn (p : WirePacket) : Bool := p.flag 1

def isTcpRst (p : WirePacket) : Bool := p.flag 2

def isTcpPsh (p : WirePacket) : Bool := p.flag 3

def isTcpAck (p : WirePacket) : Bool := p.flag 4

def isTcpUrg (p : WirePacket) : Bool := p.flag 5

/-- `get_tcp_receive_window_size`. -/
def getTcpReceiveWindowSize (p : WirePacket) : BitVec 16 := bigEndian p.payload (p.tcp + 14)

/-- `get_tcp_checksum`; the bytes are not swapped. -/
def getTcpChecksum (p : WirePacket) : BitVec 16 := littleEndian p.payload (p.tcp + 16)

/-- `set_tcp_checksum`. -/
def setTcpChecksum (p : WirePacket) (sum : BitVec 16) : WirePacket :=
  { p with payload := write p.payload (p.tcp + 16) (littleEndianBytes sum) }

/-- `get_tcp_header_length_bytes`. -/
def getTcpHeaderLengthBytes (p : WirePacket) : Nat := p.getTcpDataOffset * 4

/-- `get_data`. -/
def getData (p : WirePacket) : Nat := p.getNextHeader + p.getTcpHeaderLengthBytes

/-- `get_data_length_bytes`. -/
def getDataLengthBytes (p : WirePacket) : Int :=
  p.getIpTotLength.toNat - p.getIpHeaderLengthBytes - p.getTcpHeaderLengthBytes

/-- `max_data_length`. -/
def maxDataLength (p : WirePacket) : Int := mtu - p.getIpHeaderLengthBytes - p.getTcpHeaderLengthBytes

/-- `get_options_pointer`. -/
def getOptionsPointer (p : WirePacket) : Nat := p.getNextHeader + tcpHeaderSize

/-! ### The checksum -/

/-- `calculate_and_set_tcp_checksum`. -/
def calculateAndSetTcpChecksum (p : WirePacket) : WirePacket :=
  let p := p.setTcpChecksum 0
  let r := p.computeNextChecksum
  { p with toIPPacket := r.2 }.setTcpChecksum r.1

/-- `is_valid_tcp_checksum`: its answer, and the packet it leaves. -/
def isValidTcpChecksum (p : WirePacket) : Bool × WirePacket :=
  let currentChecksum := p.getTcpChecksum
  let p := p.calculateAndSetTcpChecksum
  let calculatedChecksum := p.getTcpChecksum
  (currentChecksum == calculatedChecksum, p.setTcpChecksum currentChecksum)

/-! ### Options -/

/-- The bytes of the options as `GetTCPHeaderOptionsLengthVisitor` adds them up. -/
def optionsLength (options : List (TCPHeaderOption × Nat)) : Nat := (options.map fun o => o.1.length.toNat).sum

/-- `get_padded_length`: the words that the options take up. -/
def paddedLength (options : List (TCPHeaderOption × Nat)) : Nat := (optionsLength options + 3) / 4 % 256

/-- `insert_tcp_header_option`. -/
def insertTcpHeaderOption (p : WirePacket) (option : TCPHeaderOption × Nat) : WirePacket :=
  let p := { p with options := p.options ++ [option] }
  p.setTcpDataOffset (p.getTcpDataOffset + paddedLength p.options)

/-- `TCPHeaderOptionCollection::remove`: every entry that points to the option found. -/
def removeOption (options : List (TCPHeaderOption × Nat)) (kind : UInt8) : List (TCPHeaderOption × Nat) :=
  match options.find? fun o => o.1.kind = kind with
  | none => options
  | some o => options.filter fun o' => o'.2 ≠ o.2

/-- `remove_tcp_header_option`. -/
def removeTcpHeaderOption (p : WirePacket) (kind : UInt8) : WirePacket :=
  let p := { p with options := removeOption p.options kind }
  p.setTcpDataOffset (p.getTcpDataOffset + paddedLength p.options)

/-- `get_option` on a packet whose options have been parsed, or the options that it parses; `none` when the parse does not
return. -/
def parsedOptions (p : WirePacket) (fuel : Nat) : Option (List TCPHeaderOption) :=
  if p.options = [] then
    (TCPHeaderOptionCollection.parseOptions (fun i => p.payload (p.getOptionsPointer + i))
      (BitVec.ofNat 4 p.getTcpDataOffset) fuel).bind fun r => if r.aborted then none else some r.options
  else some (p.options.map Prod.fst)

/-- `get_option`. -/
def getOption (p : WirePacket) (fuel : Nat) (kind : UInt8) : Option (Option TCPHeaderOption) :=
  (p.parsedOptions fuel).map (TCPHeaderOptionCollection.findOption kind)

/-- `set_data`; a second call throws an exception. -/
def setData (p : WirePacket) (data : List UInt8) : Option WirePacket :=
  if p.dataSet then none
  else
    let p := { p with payload := write p.payload p.getData data, dataSet := true }
    let length := BitVec.ofNat 16 (p.getIpHeaderLengthBytes + p.getTcpHeaderLengthBytes + data.length)
    some { p with toIPPacket := p.setIpTotLength length }

/-- The bytes that `GetTCPHeaderOptionsDataVisitor` copies from an option. -/
def optionBytes (o : TCPHeaderOption) : List UInt8 := o.data.take o.length.toNat

/-- `pack`: the options one after another, and zeros up to the next word. -/
def pack (p : WirePacket) : WirePacket :=
  let bytes := (p.options.map fun o => optionBytes o.1).flatten
  let numPaddedBytes := (paddedLength p.options * 4 - optionsLength p.options) % 256
  { p with payload := write p.payload p.getOptionsPointer (bytes ++ List.replicate numPaddedBytes 0) }

/-! ### Making and receiving packets -/

/-- The constructor, on the bytes that the buffer has. -/
def create (memory : Nat → UInt8) : WirePacket :=
  let p := IPPacket.init memory
  let p : WirePacket := { toIPPacket := p, ports := p.getNextHeader, tcp := p.getNextHeader }
  let p := p.setTcpDataOffset 5
  { p with
    toIPPacket := p.setIpTotLength (BitVec.ofNat 16 (p.getIpHeaderLengthBytes + p.getTcpHeaderLengthBytes)) }

/-- The packet that `RawSocketListener` reads bytes into; it has been made before. -/
def receive (memory : Nat → UInt8) (bytes : List UInt8) : WirePacket :=
  let p := create memory
  { p with payload := write p.payload 0 bytes }

/-- The default header is one of twenty bytes. -/
theorem getIpHeaderLengthWords_init (memory : Nat → UInt8) : (IPPacket.init memory).getIpHeaderLengthWords = 5 := by
  have hfirst : (IPPacket.init memory).payload 0 = 0x45 := by
    simp only [IPPacket.init, IPPacket.setIpTotLength]
    rw [write_of_not_mem (by omega), write_of_not_mem (by omega), write_of_mem (by omega) (by simp)]
    rfl
  unfold IPPacket.getIpHeaderLengthWords
  rw [hfirst]
  rfl

@[simp] theorem create_ports (memory : Nat → UInt8) : (create memory).ports = 20 :=
  congrArg (· * 4) (getIpHeaderLengthWords_init memory)

@[simp] theorem create_tcp (memory : Nat → UInt8) : (create memory).tcp = 20 :=
  congrArg (· * 4) (getIpHeaderLengthWords_init memory)

/-- The pointers of a packet are those of the default header, whatever is read into it. -/
@[simp] theorem receive_ports (memory : Nat → UInt8) (bytes : List UInt8) : (receive memory bytes).ports = 20 :=
  create_ports memory

@[simp] theorem receive_tcp (memory : Nat → UInt8) (bytes : List UInt8) : (receive memory bytes).tcp = 20 :=
  create_tcp memory

end WirePacket

end Wifu
