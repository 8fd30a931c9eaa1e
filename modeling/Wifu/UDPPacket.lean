import Wifu.Checksum
import Wifu.FailedRequest
import Wifu.SimpleUDP

/-!
# Sending datagrams (`UDPPacket.cc`, `SimpleUDP.cc`)

`set_data` copies the data of a message behind the UDP header and sets the two length fields.  A library message can have
far more data than a packet has room for, and nothing in between asks `max_data_length` (`sendto_fits`).
-/

namespace Wifu

open ByteMemory

/-- `UNIX_SOCKET_MAX_BUFFER_SIZE`. -/
def unixSocketMaxBufferSize : Nat := 131071

/-- A `SendToMessage`. -/
structure SendToMessage where
  addr : AddressPort
  data : List UInt8
  length_data : data.length ≤ unixSocketMaxBufferSize

/-- An IP address as it is stored. -/
def addressBytes (address : BitVec 32) : List UInt8 :=
  bigEndianBytes (address.extractLsb' 16 16) ++ bigEndianBytes (address.extractLsb' 0 16)

@[simp] theorem length_addressBytes (address : BitVec 32) : (addressBytes address).length = 4 := rfl

/-- A `UDPPacket` with its buffer. -/
structure UDPPacket extends IPPacket where
  /-- `ports_`. -/
  ports : Nat
  /-- `udp_`. -/
  udp : Nat

namespace UDPPacket

/-- `UDP_HEADER_LENGTH_BYTES`. -/
def udpHeaderLengthBytes : Nat := 8

/-- Storing bytes in the buffer. -/
def store (p : UDPPacket) (a : Nat) (l : List UInt8) : UDPPacket := { p with payload := write p.payload a l }

/-- `set_ip_destination_address_s`. -/
def setIpDestinationAddress (p : UDPPacket) (address : BitVec 32) : UDPPacket := p.store 16 (addressBytes address)

/-- `set_ip_source_address_s`. -/
def setIpSourceAddress (p : UDPPacket) (address : BitVec 32) : UDPPacket := p.store 12 (addressBytes address)

/-- `set_source_port`. -/
def setSourcePort (p : UDPPacket) (port : BitVec 16) : UDPPacket := p.store p.ports (bigEndianBytes port)

/-- `set_destination_port`. -/
def setDestinationPort (p : UDPPacket) (port : BitVec 16) : UDPPacket := p.store (p.ports + 2) (bigEndianBytes port)

/-- `set_ip_protocol`. -/
def setIpProtocol (p : UDPPacket) (protocol : UInt8) : UDPPacket := p.store 9 [protocol]

/-- `get_udp_length_bytes`. -/
def getUdpLengthBytes (p : UDPPacket) : BitVec 16 := bigEndian p.payload (p.udp + 4)

/-- `set_udp_length_bytes`. -/
def setUdpLengthBytes (p : UDPPacket) (newlen : BitVec 16) : UDPPacket := p.store (p.udp + 4) (bigEndianBytes newlen)

/-- `set_udp_checksum`. -/
def setUdpChecksum (p : UDPPacket) (sum : BitVec 16) : UDPPacket := p.store (p.udp + 6) (littleEndianBytes sum)

/-- `calculate_and_set_udp_checksum`. -/
def calculateAndSetUdpChecksum (p : UDPPacket) : UDPPacket :=
  let p := p.setUdpChecksum 0
  let r := p.computeNextChecksum
  { p with toIPPacket := r.2 }.setUdpChecksum r.1

/-- `get_data`. -/
def getData (p : UDPPacket) : Nat := p.getNextHeader + udpHeaderLengthBytes

/-- `get_data_length_bytes`. -/
def getDataLengthBytes (p : UDPPacket) : Int :=
  p.getIpTotLength.toNat - p.getIpHeaderLengthBytes - udpHeaderLengthBytes

/-- `max_data_length`. -/
def maxDataLength (p : UDPPacket) : Int := mtu - p.getIpHeaderLengthBytes - udpHeaderLengthBytes

/-- `set_data`; the buffer has `MTU` bytes. -/
def setData (p : UDPPacket) (data : List UInt8) : Except UDPAbort UDPPacket :=
  if mtu < p.getData + data.length then .error .copyTooLong
  else
    let p := p.store p.getData data
    let p := p.setUdpLengthBytes (BitVec.ofNat 16 (udpHeaderLengthBytes + data.length))
    let length := BitVec.ofNat 16 (p.getIpHeaderLengthBytes + udpHeaderLengthBytes + data.length)
    .ok { p with toIPPacket := p.setIpTotLength length }.calculateAndSetUdpChecksum

/-- The constructor, on the bytes that the buffer has. -/
def create (memory : Nat → UInt8) : UDPPacket :=
  let p := IPPacket.init memory
  { toIPPacket := p.setIpTotLength (BitVec.ofNat 16 (p.getIpHeaderLengthBytes + udpHeaderLengthBytes))
    ports := p.getNextHeader
    udp := p.getNextHeader }

end UDPPacket

namespace SimpleUDP

/-- What `icontext_send` dispatches, and the local address that it leaves. -/
structure SentDatagram where
  localAddressPort : AddressPort
  packet : UDPPacket
  response : RequestResponse

/-- `icontext_send`; `SourceGetter` finds the address of the interface towards a destination. -/
def icontextSend (sourceAddress : BitVec 32 → BitVec 32) (memory : Nat → UInt8) (localAp : AddressPort)
    (m : SendToMessage) : Except UDPAbort SentDatagram := do
  let localAp : AddressPort :=
    if localAp.address = 0 then ⟨sourceAddress m.addr.address, localAp.port⟩ else localAp
  let p := UDPPacket.create memory
  let p := p.setIpDestinationAddress m.addr.address
  let p := p.setDestinationPort m.addr.port
  let p := p.setIpSourceAddress localAp.address
  let p := p.setSourcePort localAp.port
  let p := p.setIpProtocol 17
  let p ← p.setData m.data
  pure ⟨localAp, p.calculateAndSetUdpChecksum, ⟨m.data.length, 0⟩⟩

/-- The length fields of the packet are those of its data, which is the message's, and the response says how much there
is. -/
structure Faithful (m : SendToMessage) (r : SentDatagram) : Prop where
  udpLength : r.packet.getUdpLengthBytes.toNat = UDPPacket.udpHeaderLengthBytes + m.data.length
  totLength : r.packet.getIpTotLength.toNat =
    r.packet.getIpHeaderLengthBytes + UDPPacket.udpHeaderLengthBytes + m.data.length
  data : Slice.slice r.packet.payload r.packet.getData m.data.length = m.data
  returnValue : r.response.returnValue = r.packet.getDataLengthBytes

end SimpleUDP

namespace UDPPacket

/-! ### What the setters leave -/

section

variable {p p' : UDPPacket} {a i : Nat} {l : List UInt8}

theorem store_of_not_mem (h : i < a ∨ a + l.length ≤ i) : (p.store a l).payload i = p.payload i := write_of_not_mem h

/-- The packet has an IP header of twenty bytes, and its pointers stand behind it. -/
structure Plain (p : UDPPacket) : Prop where
  words : p.getIpHeaderLengthWords = 5
  ports : p.ports = 20
  udp : p.udp = 20

theorem Plain.getNextHeader (h : p.Plain) : p.getNextHeader = 20 := by
  show p.getIpHeaderLengthWords * 4 = 20
  rw [h.words]

theorem Plain.getData (h : p.Plain) : p.getData = 28 := congrArg (· + 8) h.getNextHeader

theorem Plain.store (h : p.Plain) (ha : 0 < a) : (p.store a l).Plain := by
  refine ⟨?_, h.ports, h.udp⟩
  unfold IPPacket.getIpHeaderLengthWords
  rw [store_of_not_mem (.inl ha)]
  exact h.words

theorem create_plain (memory : Nat → UInt8) : (create memory).Plain := by
  have hwords := WirePacket.getIpHeaderLengthWords_init memory
  refine ⟨?_, congrArg (· * 4) hwords, congrArg (· * 4) hwords⟩
  rw [← hwords]
  unfold IPPacket.getIpHeaderLengthWords create
  simp only [IPPacket.setIpTotLength]
  rw [write_of_not_mem (.inl (by omega))]

theorem create_maxDataLength (memory : Nat → UInt8) : (create memory).maxDataLength = 1472 := by
  have h : (create memory).getIpHeaderLengthBytes = 20 := (create_plain memory).getNextHeader
  unfold maxDataLength
  rw [h]
  rfl

theorem setUdpChecksum_setUdpChecksum (p : UDPPacket) (sum sum' : BitVec 16) :
    (p.setUdpChecksum sum).setUdpChecksum sum' = p.setUdpChecksum sum' := by
  show ({ p with payload := write (write _ _ _) _ _ } : UDPPacket) = { p with payload := write _ _ _ }
  simp only [store, setUdpChecksum, write_littleEndian_twice]

/-- With an IP header of twenty bytes `calculate_and_set_udp_checksum` only sets the checksum. -/
theorem Plain.calculateAndSetUdpChecksum (h : p.Plain) : ∃ sum, p.calculateAndSetUdpChecksum = p.setUdpChecksum sum := by
  have hplain : (p.setUdpChecksum 0).Plain := h.store (by rw [h.udp]; omega)
  have hip : (p.setUdpChecksum 0).computeNextChecksum.2 = (p.setUdpChecksum 0).toIPPacket :=
    IPPacket.ext (IPPacket.computeNextChecksum_plain hplain.words)
  refine ⟨(p.setUdpChecksum 0).computeNextChecksum.1, ?_⟩
  show ({ p.setUdpChecksum 0 with toIPPacket := (p.setUdpChecksum 0).computeNextChecksum.2 }).setUdpChecksum _ = _
  rw [hip]
  exact setUdpChecksum_setUdpChecksum p 0 _

/-- A packet that carries `data` with true length fields. -/
structure Carries (p : UDPPacket) (data : List UInt8) : Prop extends p.Plain where
  udpLength : p.getUdpLengthBytes.toNat = udpHeaderLengthBytes + data.length
  totLength : p.getIpTotLength.toNat = p.getIpHeaderLengthBytes + udpHeaderLengthBytes + data.length
  data : Slice.slice p.payload p.getData data.length = data

variable {data : List UInt8}

/-- The checksum is apart from the length fields and the data. -/
theorem Carries.calculateAndSetUdpChecksum (h : p.Carries data) : p.calculateAndSetUdpChecksum.Carries data := by
  obtain ⟨sum, hsum⟩ := h.toPlain.calculateAndSetUdpChecksum
  rw [hsum]
  have hplain : (p.setUdpChecksum sum).Plain := h.toPlain.store (by rw [h.udp]; omega)
  have hsame {i : Nat} (hi : i < 26 ∨ 28 ≤ i) : (p.setUdpChecksum sum).payload i = p.payload i := by
    refine store_of_not_mem ?_
    rw [h.udp]
    exact hi
  have hudp : (p.setUdpChecksum sum).getUdpLengthBytes = p.getUdpLengthBytes := by
    unfold getUdpLengthBytes
    rw [hplain.udp, h.udp]
    exact bigEndian_congr (hsame (by omega)) (hsame (by omega))
  have htot : (p.setUdpChecksum sum).getIpTotLength = p.getIpTotLength :=
    bigEndian_congr (hsame (by omega)) (hsame (by omega))
  have hheader : (p.setUdpChecksum sum).getIpHeaderLengthBytes = p.getIpHeaderLengthBytes :=
    hplain.getNextHeader.trans h.toPlain.getNextHeader.symm
  refine ⟨hplain, by rw [hudp, h.udpLength], by rw [htot, hheader, h.totLength], ?_⟩
  rw [hplain.getData, ← h.toPlain.getData]
  refine Eq.trans (Slice.slice_congr fun k hk => hsame (.inr ?_)) h.data
  rw [h.toPlain.getData]
  exact Nat.le_add_right 28 k

/-- The data and the two length fields are stored apart from each other. -/
theorem Plain.carries_store (h : p.Plain) (data : List UInt8) (hlen : data.length ≤ 1472) :
    Carries (((p.store 28 data).store 24 (bigEndianBytes (BitVec.ofNat 16 (8 + data.length)))).store 2
      (bigEndianBytes (BitVec.ofNat 16 (20 + 8 + data.length)))) data := by
  have hplain : (((p.store 28 data).store 24 (bigEndianBytes (BitVec.ofNat 16 (8 + data.length)))).store 2
      (bigEndianBytes (BitVec.ofNat 16 (20 + 8 + data.length)))).Plain :=
    ((h.store (by omega)).store (by omega)).store (by omega)
  refine ⟨hplain, ?_, ?_, ?_⟩
  · unfold getUdpLengthBytes
    rw [hplain.udp]
    have hread : bigEndian (((p.store 28 data).store 24 (bigEndianBytes (BitVec.ofNat 16 (8 + data.length)))).store 2
        (bigEndianBytes (BitVec.ofNat 16 (20 + 8 + data.length)))).payload 24 =
        bigEndian ((p.store 28 data).store 24 (bigEndianBytes (BitVec.ofNat 16 (8 + data.length)))).payload 24 :=
      bigEndian_congr (store_of_not_mem (by simp)) (store_of_not_mem (by simp))
    rw [hread]
    refine (congrArg BitVec.toNat (bigEndian_write _ 24 _)).trans ?_
    rw [BitVec.toNat_ofNat, Nat.mod_eq_of_lt (by omega)]
    rfl
  · refine (congrArg BitVec.toNat (bigEndian_write _ 2 _)).trans ?_
    rw [BitVec.toNat_ofNat, Nat.mod_eq_of_lt (by omega)]
    exact congrArg (· + 8 + data.length) hplain.getNextHeader.symm
  · rw [hplain.getData]
    refine Eq.trans (Slice.slice_congr fun k hk => ?_) (slice_write_self p.payload 28 data)
    refine (store_of_not_mem ?_).trans (store_of_not_mem ?_)
    · exact .inr (by simp; omega)
    · exact .inr (by simp; omega)

/-- What `set_data` does: it needs room behind the headers. -/
theorem Plain.setData (h : p.Plain) (data : List UInt8) :
    if 1472 < data.length then p.setData data = .error .copyTooLong
    else ∃ p', p.setData data = .ok p' ∧ p'.Carries data := by
  have hstored : (p.store 28 data).Plain := h.store (by omega)
  have hlength : ((p.store 28 data).setUdpLengthBytes (BitVec.ofNat 16 (8 + data.length))).getIpHeaderLengthBytes = 20 :=
    (hstored.store (by rw [hstored.udp]; omega)).getNextHeader
  unfold UDPPacket.setData
  rw [h.getData]
  split
  · rw [if_pos (by unfold mtu; omega)]
  · rename_i hlen
    rw [if_neg (by unfold mtu; omega)]
    refine ⟨_, rfl, Carries.calculateAndSetUdpChecksum ?_⟩
    have hcarries := h.carries_store data (by omega)
    simp only [udpHeaderLengthBytes, hlength]
    rw [setUdpLengthBytes, hstored.udp]
    exact hcarries

end

end UDPPacket

namespace SimpleUDP

/-- The packet of a send before its data is set. -/
def headers (memory : Nat → UInt8) (localAp addr : AddressPort) : UDPPacket :=
  ((((UDPPacket.create memory).setIpDestinationAddress addr.address).setDestinationPort addr.port).setIpSourceAddress
    localAp.address).setSourcePort localAp.port |>.setIpProtocol 17

theorem headers_plain (memory : Nat → UInt8) (localAp addr : AddressPort) : (headers memory localAp addr).Plain := by
  have h₁ : ((UDPPacket.create memory).setIpDestinationAddress addr.address).Plain :=
    (UDPPacket.create_plain memory).store (by omega)
  have h₂ := h₁.store (a := ((UDPPacket.create memory).setIpDestinationAddress addr.address).ports + 2)
    (l := bigEndianBytes addr.port) (by omega)
  have h₃ := h₂.store (a := 12) (l := addressBytes localAp.address) (by omega)
  exact (h₃.store (l := bigEndianBytes localAp.port) (Nat.lt_of_lt_of_eq (Nat.succ_pos 19) h₃.ports.symm)).store (by omega)

/-- The local address that a send uses. -/
def sendAddress (sourceAddress : BitVec 32 → BitVec 32) (localAp : AddressPort) (m : SendToMessage) : AddressPort :=
  if localAp.address = 0 then ⟨sourceAddress m.addr.address, localAp.port⟩ else localAp

theorem icontextSend_eq (sourceAddress : BitVec 32 → BitVec 32) (memory : Nat → UInt8) (localAp : AddressPort)
    (m : SendToMessage) : icontextSend sourceAddress memory localAp m =
      ((headers memory (sendAddress sourceAddress localAp m) m.addr).setData m.data).map fun p =>
        ⟨sendAddress sourceAddress localAp m, p.calculateAndSetUdpChecksum, ⟨m.data.length, 0⟩⟩ := by
  show (headers memory (sendAddress sourceAddress localAp m) m.addr).setData m.data >>= (fun p => _) = _
  cases (headers memory (sendAddress sourceAddress localAp m) m.addr).setData m.data with
  | error a => rfl
  | ok p => rfl

/-- Too long a message does not fit behind the headers. -/
theorem icontextSend_long {sourceAddress : BitVec 32 → BitVec 32} {memory : Nat → UInt8} {localAp : AddressPort}
    {m : SendToMessage} (h : 1472 < m.data.length) :
    icontextSend sourceAddress memory localAp m = .error .copyTooLong := by
  have hset := (headers_plain memory (sendAddress sourceAddress localAp m) m.addr).setData m.data
  rw [if_pos h] at hset
  rw [icontextSend_eq, hset]
  rfl

/-- A send stays within the packet, its length fields are true, and its return value is the number of data bytes of the
packet, if and only if the data is not longer than `max_data_length` says. -/
theorem sendto_fits (sourceAddress : BitVec 32 → BitVec 32) (memory : Nat → UInt8) (localAp : AddressPort)
    (m : SendToMessage) :
    (∃ r, icontextSend sourceAddress memory localAp m = .ok r ∧ Faithful m r) ↔
      m.data.length ≤ (UDPPacket.create memory).maxDataLength := by
  rw [UDPPacket.create_maxDataLength]
  by_cases hlong : 1472 < m.data.length
  · rw [icontextSend_long hlong]
    refine iff_of_false ?_ (by omega)
    rintro ⟨r, hr, -⟩
    cases hr
  · have hset := (headers_plain memory (sendAddress sourceAddress localAp m) m.addr).setData m.data
    rw [if_neg hlong] at hset
    obtain ⟨p, hp, hcarries⟩ := hset
    rw [icontextSend_eq, hp]
    have hsum := hcarries.calculateAndSetUdpChecksum
    refine iff_of_true ⟨_, rfl, hsum.udpLength, hsum.totLength, hsum.data, ?_⟩ (by omega)
    show (m.data.length : Int) = p.calculateAndSetUdpChecksum.getDataLengthBytes
    unfold UDPPacket.getDataLengthBytes
    rw [hsum.totLength]
    omega

/-- A message with one byte more than `max_data_length`. -/
def longMessage : SendToMessage where
  addr := ⟨0x0a000002, 5000⟩
  data := List.replicate 1473 0
  length_data := by
    rw [List.length_replicate]
    decide

/-- The copy of a message of 1473 bytes runs past the packet. -/
theorem sendto_overrun :
    longMessage.data.length = 1473 ∧
      ¬∃ r, icontextSend id (fun _ => 0) ⟨0x0a000001, 5000⟩ longMessage = .ok r ∧ Faithful longMessage r := by
  have hlength : longMessage.data.length = 1473 := List.length_replicate
  have hlong : 1472 < longMessage.data.length := by
    rw [hlength]
    decide
  refine ⟨hlength, ?_⟩
  rw [icontextSend_long hlong]
  rintro ⟨r, hr, -⟩
  cases hr

end SimpleUDP

end Wifu
