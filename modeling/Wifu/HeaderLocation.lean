import Wifu.Checksum

/-!
# Where the TCP header is read (`TCPPacket.cc`, `WiFuPacket.cc`, `RawSocketListener.cc`)

The getters of the ports and of the TCP fields go through pointers that are set when a packet object is made, behind its
default IP header of twenty bytes.  `RawSocketListener` reads bytes into the object afterwards.  `get_next_header` looks
at the header length of those bytes.
-/

namespace Wifu

open ByteMemory

/-- What the getters of the ports and of the TCP fields return. -/
@[ext] structure TCPFields where
  sourcePort : BitVec 16
  destinationPort : BitVec 16
  sequenceNumber : BitVec 32
  ackNumber : BitVec 32
  dataOffset : Nat
  flags : List Bool
  receiveWindowSize : BitVec 16
  checksum : BitVec 16
  deriving DecidableEq

/-- The TCP header at a position of a buffer. -/
def TCPFields.at (m : Nat → UInt8) (a : Nat) : TCPFields where
  sourcePort := bigEndian m a
  destinationPort := bigEndian m (a + 2)
  sequenceNumber := bigEndian32 m (a + 4)
  ackNumber := bigEndian32 m (a + 8)
  dataOffset := (m (a + 12)).toNat / 16
  flags := (List.range 6).map fun bit => (m (a + 13)).toNat.testBit bit
  receiveWindowSize := bigEndian m (a + 14)
  checksum := littleEndian m (a + 16)

namespace WirePacket

/-- The fields as the getters read them. -/
def fields (p : WirePacket) : TCPFields where
  sourcePort := p.getSourcePort
  destinationPort := p.getDestinationPort
  sequenceNumber := p.getTcpSequenceNumber
  ackNumber := p.getTcpAckNumber
  dataOffset := p.getTcpDataOffset
  flags := [p.isTcpFin, p.isTcpSyn, p.isTcpRst, p.isTcpPsh, p.isTcpAck, p.isTcpUrg]
  receiveWindowSize := p.getTcpReceiveWindowSize
  checksum := p.getTcpChecksum

/-- The getters read the header at a position, whatever bytes the buffer holds. -/
def ReadsAt (p : WirePacket) (a : Nat) : Prop := ∀ m, (p.withPayload m).fields = .at m a

variable {p : WirePacket} {a : Nat}

/-- A memory with one byte that is not zero. -/
private def single (a : Nat) (b : UInt8) : Nat → UInt8 := write (fun _ => 0) a [b]

private theorem single_ne_zero {i : Nat} {b : UInt8} (h : single a b i ≠ 0) : i = a := by
  by_contra hne
  exact h (write_of_not_mem (by simp; omega))

private theorem single_self (a : Nat) (b : UInt8) : single a b a = b := by
  unfold single
  rw [write_of_mem (Nat.le_refl a) (by simp), Nat.sub_self]
  rfl

/-- The getters read where both pointers point to. -/
theorem readsAt_iff : p.ReadsAt a ↔ p.ports = a ∧ p.tcp = a := by
  constructor
  · intro h
    have hports : p.ports = a := by
      -- the high byte of the source port tells the position
      have hport : bigEndian (single a 1) p.ports = bigEndian (single a 1) a :=
        congrArg TCPFields.sourcePort (h (single a 1))
      have hvalue := congrArg BitVec.toNat hport
      rw [bigEndian_toNat, bigEndian_toNat, single_self] at hvalue
      refine single_ne_zero (b := 1) fun hzero => ?_
      rw [hzero] at hvalue
      have hlt := (single a 1 (p.ports + 1)).toNat_lt
      change 256 * 0 + _ = 256 * 1 + _ at hvalue
      omega
    have htcp : p.tcp = a := by
      have hoffset : (single (a + 12) 16 (p.tcp + 12)).toNat / 16 = (single (a + 12) 16 (a + 12)).toNat / 16 :=
        congrArg TCPFields.dataOffset (h (single (a + 12) 16))
      rw [single_self] at hoffset
      have hbyte : p.tcp + 12 = a + 12 := single_ne_zero (b := 16) fun hzero => by
        rw [hzero] at hoffset
        cases hoffset
      omega
    exact ⟨hports, htcp⟩
  · rintro ⟨hports, htcp⟩ m
    have hread : (p.withPayload m).fields = { TCPFields.at m p.tcp with
        sourcePort := bigEndian m p.ports
        destinationPort := bigEndian m (p.ports + 2) } := rfl
    rw [hread, hports, htcp]
    rfl

/-- The getters of a received packet read the header behind an IP header of twenty bytes; that is where `get_next_header`
points exactly when the received IP header has twenty bytes. -/
theorem header_location (memory : Nat → UInt8) (bytes : List UInt8) :
    (receive memory bytes).ReadsAt 20 ∧
    ((receive memory bytes).ReadsAt (receive memory bytes).getNextHeader ↔
      (receive memory bytes).getIpHeaderLengthWords = 5) := by
  rw [readsAt_iff, readsAt_iff, receive_ports, receive_tcp]
  refine ⟨⟨rfl, rfl⟩, ?_⟩
  show 20 = (receive memory bytes).getIpHeaderLengthWords * 4 ∧ 20 = (receive memory bytes).getIpHeaderLengthWords * 4 ↔ _
  omega

/-- Behind an IP header of six words the getters return the bytes of its option as ports. -/
theorem header_misplaced :
    (receive (fun _ => 0) optionSegment).getNextHeader = 24 ∧
    (receive (fun _ => 0) optionSegment).fields ≠ .at (receive (fun _ => 0) optionSegment).payload 24 ∧
    (receive (fun _ => 0) optionSegment).getSourcePort = 0x101 ∧
    (TCPFields.at (receive (fun _ => 0) optionSegment).payload 24).sourcePort = 80 := by
  decide +kernel

end WirePacket

end Wifu
