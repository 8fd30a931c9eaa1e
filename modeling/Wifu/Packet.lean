import Wifu.Math

/-!
# Packets (`TCPPacket.cc`, `TCPTimestampOption.cc`, `defines.h`)

A packet is modelled by what its getters return.  The byte layout of the headers is not part of this module: the
number returned by `get_data_length_bytes` (total length less both header lengths) is a field, and so is the result
of `is_valid_tcp_checksum`.
-/

namespace Wifu

/-- `MAX_TCP_RECEIVE_WINDOW_SIZE`. -/
def maxTcpReceiveWindowSize : Nat := 65535

/-- `TCP_SOCKET_MAX_BUFFER_SIZE`. -/
def tcpSocketMaxBufferSize : Nat := 131071

/-- `MTU`. -/
def mtu : Nat := 1500

/-- `TCPPacket::max_data_length` of a packet with a 20-byte IP header and one timestamp option. -/
def maxDataLength : Nat := mtu - 20 - 32

/-- `SYN_BYTE`. -/
def synByte : UInt8 := 22

/-- `FIN_BYTE`. -/
def finByte : UInt8 := 23

structure AddressPort where
  address : BitVec 32
  port : BitVec 16
  deriving DecidableEq, Repr

structure TCPTimestampOption where
  timestamp : BitVec 32
  echoReply : BitVec 32
  deriving DecidableEq, Repr

/-- A packet; `data` holds the bytes from `get_data` on, as many as `dataLengthBytes` says.  The total length of a
packet is a 16-bit number. -/
structure TCPPacket where
  source : AddressPort
  destination : AddressPort
  sequenceNumber : BitVec 32 := 0
  ackNumber : BitVec 32 := 0
  urg : Bool := false
  ack : Bool := false
  psh : Bool := false
  rst : Bool := false
  syn : Bool := false
  fin : Bool := false
  receiveWindowSize : BitVec 16 := 0
  timestamp : Option TCPTimestampOption
  dataLengthBytes : Int
  data : List UInt8
  dataLengthBytes_lt : dataLengthBytes < 65536
  length_data : data.length = dataLengthBytes.toNat
  validChecksum : Bool := true
  deriving DecidableEq

namespace TCPPacket

/-- A new packet with an empty timestamp option, its addresses and its data set. -/
def new (source destination : AddressPort) (data : List UInt8) : TCPPacket where
  source := source
  destination := destination
  timestamp := some ⟨0, 0⟩
  dataLengthBytes := (data.take maxDataLength).length
  data := data.take maxDataLength
  dataLengthBytes_lt := by
    rw [List.length_take, maxDataLength, mtu]
    omega
  length_data := (Int.toNat_natCast _).symm

theorem new_data {s d : AddressPort} {l : List UInt8} (h : l.length ≤ maxDataLength) : (new s d l).data = l :=
  List.take_of_length_le h

theorem new_dataLengthBytes {s d : AddressPort} {l : List UInt8} (h : l.length ≤ maxDataLength) :
    (new s d l).dataLengthBytes = l.length := by
  change ((l.take maxDataLength).length : Int) = l.length
  rw [List.take_of_length_le h]

@[simp] theorem new_nil_dataLengthBytes (s d : AddressPort) : (new s d []).dataLengthBytes = 0 := rfl

@[simp] theorem new_nil_data (s d : AddressPort) : (new s d []).data = [] := rfl

@[simp] theorem new_syn (s d : AddressPort) (l : List UInt8) : (new s d l).syn = false := rfl

@[simp] theorem new_fin (s d : AddressPort) (l : List UInt8) : (new s d l).fin = false := rfl

@[simp] theorem new_timestamp (s d : AddressPort) (l : List UInt8) : (new s d l).timestamp = some ⟨0, 0⟩ := rfl

/-- `is_naked_ack`. -/
def isNakedAck (p : TCPPacket) : Bool :=
  p.ack && p.dataLengthBytes == 0 && !p.fin && !p.psh && !p.rst && !p.syn && !p.urg

/-- The packet carries something for the receiving side. -/
def hasContent (p : TCPPacket) : Prop := p.syn = true ∨ p.fin = true ∨ 0 < p.dataLengthBytes

instance (p : TCPPacket) : Decidable p.hasContent := inferInstanceAs (Decidable (_ ∨ _))

/-- The sequence numbers a segment takes up when it is sent: one for a SYN or FIN, else one for each byte. -/
def sequenceLength (p : TCPPacket) : BitVec 32 :=
  if p.syn || p.fin then 1 else BitVec.ofInt 32 p.dataLengthBytes

end TCPPacket

end Wifu
