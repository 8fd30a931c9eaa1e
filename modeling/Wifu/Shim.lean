import Wifu.Checksum

/-!
# Shim headers (`core/src/packet/ippacket.cc`, `tcppacket.cc`)

`insert_shim` puts a WiFu header and a shim behind the IP header of a packet, and `remove_shim` takes them out.  Both
compute the IP checksum over the first twenty bytes of the IP header only (`shim_round_trip`).
-/

namespace Wifu

open ByteMemory

namespace IPPacket

section

variable {m : Nat → UInt8} {ptr len : Nat}

open OnesComplement

/-- The words of two pieces, of which the first has whole words. -/
theorem words_add (m : Nat → UInt8) (ptr k len : Nat) :
    words m ptr (2 * k + len) = words m ptr (2 * k) ++ words m (ptr + 2 * k) len := by
  induction k generalizing ptr with
  | zero => simp [words]
  | succ k ih =>
    have hleft : 2 * (k + 1) + len = 2 * k + len + 2 := by omega
    have hright : 2 * (k + 1) = 2 * k + 2 := by omega
    have hptr : ptr + (2 * k + 2) = ptr + 2 + 2 * k := by omega
    rw [hleft, hright, words, words, ih, hptr]
    rfl

/-- Words that are not all zero have a positive sum. -/
theorem total_words_pos (hlen : 0 < len) (h : m ptr ≠ 0) : 0 < total (words m ptr len) := by
  have hbyte : 0 < (m ptr).toNat := by
    rw [Nat.pos_iff_ne_zero]
    intro hzero
    exact h (UInt8.toNat_inj.1 hzero)
  cases len with
  | zero => omega
  | succ len =>
    cases len with
    | zero =>
      rw [words, total_cons, ofNat_byte_toNat]
      omega
    | succ len =>
      rw [words, total_cons, littleEndian_toNat]
      omega

/-- The checksum of the first twenty bytes of a header, stored in them, makes the checksum of the whole header valid exactly
when the words behind the twenty bytes add up to a multiple of 65535. -/
theorem checksum_stored {w : Nat} (hw : 5 ≤ w) (hw' : w < 16) (hfirst : m 0 ≠ 0) :
    checksum (write (write m 10 (littleEndianBytes 0)) 10
      (littleEndianBytes (checksum (write m 10 (littleEndianBytes 0)) 0 20))) 0 (BitVec.ofNat 16 (w * 4)) = 0 ↔
      total (words m 20 (w * 4 - 20)) ≡ 0 [MOD 65535] := by
  have hzero := littleEndian_write m 10 0
  have hfirst₀ : write m 10 (littleEndianBytes 0) 0 ≠ 0 := by
    rw [write_of_not_mem (.inl (by omega))]
    exact hfirst
  have hoptions₀ : words (write m 10 (littleEndianBytes 0)) 20 (w * 4 - 20) = words m 20 (w * 4 - 20) :=
    words_congr fun i hi _ => write_of_not_mem (.inr (by simp; omega))
  rw [← hoptions₀]
  generalize write m 10 (littleEndianBytes 0) = m₀ at *
  have hstored := littleEndian_write m₀ 10 (checksum m₀ 0 20)
  have hfirst₁ : write m₀ 10 (littleEndianBytes (checksum m₀ 0 20)) 0 ≠ 0 := by
    rw [write_of_not_mem (.inl (by omega))]
    exact hfirst₀
  have hoptions : words (write m₀ 10 (littleEndianBytes (checksum m₀ 0 20))) 20 (w * 4 - 20) =
      words m₀ 20 (w * 4 - 20) := words_congr fun i hi _ => write_of_not_mem (.inr (by simp; omega))
  -- the field was zero, and is now what the sum of the twenty bytes is short of all ones
  have hchange : total (words (write m₀ 10 (littleEndianBytes (checksum m₀ 0 20))) 0 20) + wordAt m₀ 20 10 =
      total (words m₀ 0 20) + wordAt (write m₀ 10 (littleEndianBytes (checksum m₀ 0 20))) 20 10 :=
    @total_words_change _ _ 0 20 5 (by omega) fun i h₁ h₂ => write_of_not_mem (by simp; omega)
  have hold : wordAt m₀ 20 10 = 0 := by
    unfold wordAt
    rw [if_neg (by omega), hzero]
    rfl
  have hnew : wordAt (write m₀ 10 (littleEndianBytes (checksum m₀ 0 20))) 20 10 = (checksum m₀ 0 20).toNat := by
    unfold wordAt
    rw [if_neg (by omega), hstored]
  have hshort : (checksum m₀ 0 20).toNat + (OnesComplement.sum (words m₀ 0 20)).toNat = 65535 := by
    rw [checksum_eq]
    exact toNat_checksum _
  have hsum : (OnesComplement.sum (words m₀ 0 20)).toNat ≡ total (words m₀ 0 20) [MOD 65535] :=
    (represents_sum _).modEq
  have htwenty : total (words (write m₀ 10 (littleEndianBytes (checksum m₀ 0 20))) 0 20) ≡ 0 [MOD 65535] := by
    unfold Nat.ModEq at hsum ⊢
    omega
  have hpos : 0 < total (words (write m₀ 10 (littleEndianBytes (checksum m₀ 0 20))) 0 20) :=
    total_words_pos (by omega) hfirst₁
  have hsplit : total (words (write m₀ 10 (littleEndianBytes (checksum m₀ 0 20))) 0 (w * 4)) =
      total (words (write m₀ 10 (littleEndianBytes (checksum m₀ 0 20))) 0 20) + total (words m₀ 20 (w * 4 - 20)) := by
    have hwords := words_add (write m₀ 10 (littleEndianBytes (checksum m₀ 0 20))) 0 10 (w * 4 - 20)
    rw [show 2 * 10 + (w * 4 - 20) = w * 4 by omega, show 0 + 2 * 10 = 20 by rfl, show 2 * 10 = 20 by rfl,
      hoptions] at hwords
    rw [hwords, total_append]
  rw [checksum_eq, BitVec.toNat_ofNat, Nat.mod_eq_of_lt (by omega), checksum_eq_zero_iff (by omega), hsplit]
  unfold Nat.ModEq at htwenty ⊢
  omega

end

end IPPacket

namespace Core

/-! ### The packet -/

/-- `BUF_SIZE`. -/
def bufSize : Nat := 4096

/-- `MAX_IP_LENGTH`. -/
def maxIpLength : Nat := 1500

/-- `WIFU_PROTOCOL`. -/
def wifuProtocol : UInt8 := 253

/-- `WIFU_VERSION`. -/
def wifuVersion : UInt8 := 1

/-- `WIFU_LENGTH`. -/
def wifuLength : Nat := 4

inductive Abort
  /-- A copy runs past a buffer, or its length is negative. -/
  | badCopy
  deriving DecidableEq, Repr

/-- An `IPPacket` from a netfilter queue; a `TCPPacket` also has `tcp_`. -/
@[ext] structure IPPacket where
  payload : Nat → UInt8
  payloadLength : Int
  tcp : Option Nat

/-- A shim; its length is a `u_int8_t`. -/
structure Shim where
  bytes : List UInt8
  length_lt : bytes.length < 256

namespace IPPacket

/-- Storing bytes in the buffer. -/
def store (p : IPPacket) (a : Nat) (l : List UInt8) : IPPacket := { p with payload := write p.payload a l }

/-- `get_ip_length_bytes`. -/
def getIpLengthBytes (p : IPPacket) : Nat := (p.payload 0).toNat % 16 * 4

/-- `get_ip_protocol`. -/
def getIpProtocol (p : IPPacket) : UInt8 := p.payload 9

/-- `set_ip_protocol`. -/
def setIpProtocol (p : IPPacket) (protocol : UInt8) : IPPacket := p.store 9 [protocol]

/-- `get_ip_datagram_length`. -/
def getIpDatagramLength (p : IPPacket) : BitVec 16 := bigEndian p.payload 2

/-- `set_ip_datagram_length`. -/
def setIpDatagramLength (p : IPPacket) (length : BitVec 16) : IPPacket := p.store 2 (bigEndianBytes length)

/-- `recalculate_ip_checksum`; `checksum` is the one of the transport. -/
def recalculateIpChecksum (p : IPPacket) : IPPacket :=
  let p := p.store 10 (littleEndianBytes 0)
  p.store 10 (littleEndianBytes (Wifu.IPPacket.checksum p.payload 0 20))

/-- `get_next_header`. -/
def getNextHeader (p : IPPacket) : Nat :=
  if p.getIpProtocol ≠ wifuProtocol then p.getIpLengthBytes
  else p.getIpLengthBytes + wifuLength + (p.payload (p.getIpLengthBytes + 3)).toNat

/-- `cleanup_shim`. -/
def cleanupShim (p : IPPacket) : IPPacket := { p with tcp := p.tcp.map fun _ => p.getNextHeader }

/-! ### Making room -/

/-- `is_tcp_syn` of a `TCPPacket`. -/
def isTcpSyn (p : IPPacket) : Bool := p.tcp.any fun tcp => (p.payload (tcp + 13)).toNat.testBit 1

/-- The loop of `set_tcp_maxseg_option`, with fuel for its rounds; each round takes at least one byte. -/
def maxsegLoop (extra : BitVec 16) : Nat → Nat → Int → (Nat → UInt8) → (Nat → UInt8)
  | 0, _, _, m => m
  | fuel + 1, ptr, length, m =>
    if 0 < length then
      let opcode := m ptr
      if opcode = 0 then m
      else if opcode = 1 then maxsegLoop extra fuel (ptr + 1) (length - 1) m
      else
        let opsize := (m (ptr + 1)).toNat
        if opsize < 2 then m
        else if length < opsize then m
        else if opcode = 2 then
          if opsize = 4 then write m (ptr + 2) (bigEndianBytes (bigEndian m (ptr + 2) - extra)) else m
        else maxsegLoop extra fuel (ptr + opsize) (length - opsize) m
    else m

/-- `set_tcp_maxseg_option`. -/
def setTcpMaxsegOption (p : IPPacket) (tcp : Nat) (extra : BitVec 16) : IPPacket :=
  if p.isTcpSyn then
    let length : Int := ((p.payload (tcp + 12)).toNat / 16 * 4 : Nat) - 20
    { p with payload := maxsegLoop extra length.toNat (tcp + 20) length p.payload }
  else p

/-- `udptcp_checksum`. -/
def udptcpChecksum (p : IPPacket) (header : Nat) : Except Abort (BitVec 16) :=
  let length := p.payloadLength - p.getIpLengthBytes
  if length < 0 ∨ (bufSize : Int) < 12 + length then .error .badCopy
  else
    let pseudo := Slice.slice p.payload 12 4 ++ Slice.slice p.payload 16 4 ++ [0, p.payload 9] ++
      bigEndianBytes (BitVec.ofInt 16 length)
    let packet := write (fun _ => 0) 0 (pseudo ++ Slice.slice p.payload header length.toNat)
    .ok (Wifu.IPPacket.checksum packet 0 (BitVec.ofInt 16 (12 + length)))

/-- `recalculate_tcp_checksum`. -/
def recalculateTcpChecksum (p : IPPacket) (tcp : Nat) : Except Abort IPPacket := do
  let p := p.store (tcp + 16) (littleEndianBytes 0)
  let sum ← p.udptcpChecksum tcp
  pure (p.store (tcp + 16) (littleEndianBytes sum))

/-- `make_room_for_shim`; only a `TCPPacket` does something. -/
def makeRoomForShim (p : IPPacket) (length : Nat) : Except Abort IPPacket :=
  match p.tcp with
  | none => .ok p
  | some tcp =>
    if p.isTcpSyn then
      (p.setTcpMaxsegOption tcp (BitVec.ofNat 16 (wifuLength + length))).recalculateTcpChecksum tcp
    else .ok p

/-! ### Inserting and removing -/

/-- `insert_shim`. -/
def insertShim (p : IPPacket) (shim : Shim) (shimType : UInt8) : Except Abort IPPacket := do
  let p ← p.makeRoomForShim shim.bytes.length
  let wifuLength := wifuLength + shim.bytes.length
  let newLength := BitVec.ofNat 16 (p.getIpDatagramLength.toNat + wifuLength)
  if maxIpLength < newLength.toNat then pure p
  else
    let mangleLength := p.payloadLength + wifuLength
    let ipLength := p.getIpLengthBytes
    let protocol := p.getIpProtocol
    let p := p.setIpProtocol wifuProtocol
    let p := p.setIpDatagramLength newLength
    let p := p.recalculateIpChecksum
    let dataLength := p.payloadLength - ipLength
    if dataLength < 0 ∨ (bufSize : Int) < mangleLength then throw .badCopy
    else
      let wifu := [wifuVersion, shimType, protocol, UInt8.ofNat shim.bytes.length]
      let mangle := Slice.slice p.payload 0 ipLength ++ (wifu ++ (shim.bytes ++
        Slice.slice p.payload ipLength dataLength.toNat))
      pure { p.store 0 mangle with payloadLength := mangleLength }.cleanupShim

/-- `get_shim`. -/
def getShim (p : IPPacket) : Option Nat :=
  if p.getIpProtocol ≠ wifuProtocol then none else some (p.getIpLengthBytes + wifuLength)

/-- `remove_shim`. -/
def removeShim (p : IPPacket) : Except Abort IPPacket :=
  if p.getIpProtocol ≠ wifuProtocol then .ok p
  else
    let ipLength := p.getIpLengthBytes
    let shimLength := (p.payload (ipLength + 3)).toNat
    let wifuLength := wifuLength + shimLength
    let newLength := BitVec.ofInt 16 (p.getIpDatagramLength.toNat - wifuLength)
    let p := p.setIpProtocol (p.payload (ipLength + 2))
    let p := p.setIpDatagramLength newLength
    let p := p.recalculateIpChecksum
    let mangleLength := p.payloadLength - wifuLength
    let dataLength := mangleLength - ipLength
    if dataLength < 0 ∨ (bufSize : Int) < mangleLength then .error .badCopy
    else
      let mangle := Slice.slice p.payload 0 ipLength ++
        Slice.slice p.payload (ipLength + wifuLength) dataLength.toNat
      .ok { p.store 0 mangle with payloadLength := mangleLength }.cleanupShim

/-! ### What is behind the IP header -/

/-- The IP header that both operations write. -/
def withHeader (p : IPPacket) (protocol : UInt8) (length : BitVec 16) : IPPacket :=
  ((p.setIpProtocol protocol).setIpDatagramLength length).recalculateIpChecksum

/-- The checksum of a packet is valid over its whole IP header. -/
def IpChecksumValid (p : IPPacket) : Prop :=
  Wifu.IPPacket.checksum p.payload 0 (BitVec.ofNat 16 p.getIpLengthBytes) = 0

/-- The sum of the words of the IP options. -/
def optionsTotal (p : IPPacket) : Nat :=
  OnesComplement.total (Wifu.IPPacket.words p.payload 20 (p.getIpLengthBytes - 20))

section

variable {p q : IPPacket} {shim : Shim} {shimType protocol : UInt8} {length : BitVec 16} {i h' : Nat} {l : List UInt8}

theorem store_payload (h : i < h' ∨ h' + l.length ≤ i) : (p.store h' l).payload i = p.payload i := write_of_not_mem h

theorem recalculateIpChecksum_payload (hi : i < 10 ∨ 12 ≤ i) : p.recalculateIpChecksum.payload i = p.payload i :=
  (store_payload hi).trans (store_payload hi)

theorem withHeader_payload (hi : i ≠ 9) (hi₂ : i ≠ 2) (hi₃ : i ≠ 3) (hi₁₀ : i ≠ 10) (hi₁₁ : i ≠ 11) :
    (p.withHeader protocol length).payload i = p.payload i := by
  refine (recalculateIpChecksum_payload (by omega)).trans ((store_payload ?_).trans (store_payload ?_))
  · simp
    omega
  · simp
    omega

theorem withHeader_protocol : (p.withHeader protocol length).getIpProtocol = protocol := by
  have hsum : (p.withHeader protocol length).payload 9 =
      ((p.setIpProtocol protocol).setIpDatagramLength length).payload 9 :=
    recalculateIpChecksum_payload (.inl (by omega))
  have hlength : ((p.setIpProtocol protocol).setIpDatagramLength length).payload 9 = (p.setIpProtocol protocol).payload 9 :=
    store_payload (.inr (by simp))
  exact hsum.trans (hlength.trans (write_of_mem (m := p.payload) (i := 9) (a := 9) (l := [protocol]) (by omega) (by simp)))

theorem withHeader_datagramLength (p : IPPacket) (protocol : UInt8) (length : BitVec 16) :
    (p.withHeader protocol length).getIpDatagramLength = length := by
  refine Eq.trans (bigEndian_congr ?_ ?_) (bigEndian_write (p.setIpProtocol protocol).payload 2 length)
  · exact recalculateIpChecksum_payload (.inl (by omega))
  · exact recalculateIpChecksum_payload (.inl (by omega))

theorem withHeader_ipLengthBytes (p : IPPacket) (protocol : UInt8) (length : BitVec 16) :
    (p.withHeader protocol length).getIpLengthBytes = p.getIpLengthBytes := by
  unfold getIpLengthBytes
  rw [withHeader_payload (i := 0) (by omega) (by omega) (by omega) (by omega) (by omega)]

/-- Copying back a header and what comes behind it. -/
theorem store_slice_append (p : IPPacket) (n : Nat) (l : List UInt8) :
    p.store 0 (Slice.slice p.payload 0 n ++ l) = p.store n l := by
  unfold store
  rw [write_append, write_slice, Slice.length_slice, Nat.zero_add]

/-- The checksum that the operations write is valid exactly when the words of the IP options add up to a multiple of 65535. -/
theorem withHeader_valid (protocol : UInt8) (length : BitVec 16)
    (hq : ∀ i < p.getIpLengthBytes, q.payload i = (p.withHeader protocol length).payload i) (hl : 20 ≤ p.getIpLengthBytes) :
    q.IpChecksumValid ↔ p.optionsTotal ≡ 0 [MOD 65535] := by
  have hlength : q.getIpLengthBytes = p.getIpLengthBytes := by
    rw [← withHeader_ipLengthBytes p protocol length]
    unfold getIpLengthBytes
    rw [hq 0 (by omega)]
  have hfirst : p.payload 0 ≠ 0 := by
    intro hzero
    unfold getIpLengthBytes at hl
    rw [hzero] at hl
    simp at hl
  have hfields : ((p.setIpProtocol protocol).setIpDatagramLength length).payload 0 ≠ 0 := by
    have h : ((p.setIpProtocol protocol).setIpDatagramLength length).payload 0 = p.payload 0 :=
      (store_payload (.inl (by omega))).trans (store_payload (.inl (by omega)))
    rw [h]
    exact hfirst
  have hoptions : Wifu.IPPacket.words ((p.setIpProtocol protocol).setIpDatagramLength length).payload 20
      (p.getIpLengthBytes - 20) = Wifu.IPPacket.words p.payload 20 (p.getIpLengthBytes - 20) :=
    Wifu.IPPacket.words_congr fun i hi _ => (store_payload (.inr (by simp; omega))).trans
      (store_payload (.inr (by simp; omega)))
  have hheader : Wifu.IPPacket.checksum q.payload 0 (BitVec.ofNat 16 p.getIpLengthBytes) =
      Wifu.IPPacket.checksum (p.withHeader protocol length).payload 0 (BitVec.ofNat 16 p.getIpLengthBytes) := by
    rw [Wifu.IPPacket.checksum_eq, Wifu.IPPacket.checksum_eq]
    congr 1
    refine Wifu.IPPacket.words_congr fun i _ hi => hq i ?_
    rw [BitVec.toNat_ofNat] at hi
    exact Nat.lt_of_lt_of_le hi ((Nat.zero_add _).le.trans (Nat.mod_le _ _))
  unfold IpChecksumValid optionsTotal
  rw [hlength, hheader, ← hoptions]
  exact Wifu.IPPacket.checksum_stored (w := (p.payload 0).toNat % 16) (by unfold getIpLengthBytes at hl; omega)
    (Nat.mod_lt _ (by omega)) hfields

/-- An IP packet as it comes: it has its own protocol, the length of the datagram is that of the buffer, and the IP header is
in it. -/
structure Whole (p : IPPacket) : Prop where
  ihl : 20 ≤ p.getIpLengthBytes
  protocol : p.getIpProtocol ≠ wifuProtocol
  datagramLength : (p.getIpDatagramLength.toNat : Int) = p.payloadLength
  header : p.getIpLengthBytes ≤ p.payloadLength

/-- What stands behind the IP header. -/
def data (p : IPPacket) : List UInt8 :=
  Slice.slice p.payload p.getIpLengthBytes (p.payloadLength - p.getIpLengthBytes).toNat

/-- The WiFu header, the shim and the data of a packet. -/
def shimmed (p : IPPacket) (shim : Shim) (shimType : UInt8) : List UInt8 :=
  [wifuVersion, shimType, p.getIpProtocol, UInt8.ofNat shim.bytes.length] ++ (shim.bytes ++ p.data)

theorem makeRoomForShim_eq {n : Nat} (h : p.isTcpSyn = false) : p.makeRoomForShim n = .ok p := by
  unfold makeRoomForShim
  split
  · rfl
  · rw [h]
    rfl

/-- What stands behind the IP header stays when the header is written. -/
theorem withHeader_slice (p : IPPacket) (protocol : UInt8) (length : BitVec 16) {i : Nat} (n : Nat) (h : 12 ≤ i) :
    Slice.slice (p.withHeader protocol length).payload i n = Slice.slice p.payload i n :=
  Slice.slice_congr fun k _ => withHeader_payload (by show i + k ≠ 9; omega) (by show i + k ≠ 2; omega)
    (by show i + k ≠ 3; omega) (by show i + k ≠ 10; omega) (by show i + k ≠ 11; omega)

/-- The packet with the WiFu header and the shim. -/
def inserted (p : IPPacket) (shim : Shim) (shimType : UInt8) : IPPacket :=
  { (p.withHeader wifuProtocol (BitVec.ofNat 16 (p.getIpDatagramLength.toNat +
      (wifuLength + shim.bytes.length)))).store p.getIpLengthBytes (p.shimmed shim shimType) with
    payloadLength := p.payloadLength + (wifuLength + shim.bytes.length : Nat) }.cleanupShim

/-- What `insert_shim` makes of a packet that it does not refuse. -/
theorem insertShim_eq (shimType : UInt8) (hp : p.Whole) (hsyn : p.isTcpSyn = false)
    (hroom : p.payloadLength + wifuLength + shim.bytes.length ≤ maxIpLength) : p.insertShim shim shimType =
      .ok (p.inserted shim shimType) := by
  have hdatagram := hp.datagramLength
  have hheader := hp.header
  have hlength : ¬maxIpLength < (BitVec.ofNat 16 (p.getIpDatagramLength.toNat + (wifuLength + shim.bytes.length))).toNat := by
    rw [BitVec.toNat_ofNat, Nat.mod_eq_of_lt (by unfold maxIpLength at hroom; omega)]
    omega
  unfold insertShim
  rw [makeRoomForShim_eq hsyn]
  simp only [bind, Except.bind]
  rw [if_neg hlength, if_neg]
  · unfold inserted
    have hdata := withHeader_slice p wifuProtocol
      (BitVec.ofNat 16 (p.getIpDatagramLength.toNat + (wifuLength + shim.bytes.length)))
      (p.payloadLength - p.getIpLengthBytes).toNat (Nat.le_trans (by omega) hp.ihl : 12 ≤ p.getIpLengthBytes)
    generalize hlen : BitVec.ofNat 16 (p.getIpDatagramLength.toNat + (wifuLength + shim.bytes.length)) = len at *
    show Except.ok { (p.withHeader wifuProtocol len).store 0 (Slice.slice (p.withHeader wifuProtocol len).payload 0
      p.getIpLengthBytes ++ ([wifuVersion, shimType, p.getIpProtocol, UInt8.ofNat shim.bytes.length] ++ (shim.bytes ++
        Slice.slice (p.withHeader wifuProtocol len).payload p.getIpLengthBytes
          (p.payloadLength - p.getIpLengthBytes).toNat))) with
        payloadLength := p.payloadLength + (wifuLength + shim.bytes.length : Nat) }.cleanupShim = _
    rw [store_slice_append, hdata]
    rfl
  · show ¬(p.payloadLength - p.getIpLengthBytes < 0 ∨
      (bufSize : Int) < p.payloadLength + (wifuLength + shim.bytes.length : Nat))
    unfold maxIpLength at hroom
    unfold bufSize
    push_cast
    omega

/-- The IP header of the packet with the shim. -/
theorem inserted_payload_of_lt (hi : i < p.getIpLengthBytes) : (p.inserted shim shimType).payload i =
    (p.withHeader wifuProtocol (BitVec.ofNat 16 (p.getIpDatagramLength.toNat +
      (wifuLength + shim.bytes.length)))).payload i := write_of_not_mem (.inl hi)

theorem inserted_ipLengthBytes (shim : Shim) (shimType : UInt8) (hl : 20 ≤ p.getIpLengthBytes) :
    (p.inserted shim shimType).getIpLengthBytes = p.getIpLengthBytes := by
  refine Eq.trans ?_ (withHeader_ipLengthBytes p wifuProtocol
    (BitVec.ofNat 16 (p.getIpDatagramLength.toNat + (wifuLength + shim.bytes.length))))
  unfold getIpLengthBytes
  rw [inserted_payload_of_lt (by omega)]

theorem inserted_protocol (shim : Shim) (shimType : UInt8) (hl : 20 ≤ p.getIpLengthBytes) :
    (p.inserted shim shimType).getIpProtocol = wifuProtocol :=
  (inserted_payload_of_lt (by omega)).trans withHeader_protocol

theorem inserted_datagramLength (hl : 20 ≤ p.getIpLengthBytes) : (p.inserted shim shimType).getIpDatagramLength =
    BitVec.ofNat 16 (p.getIpDatagramLength.toNat + (wifuLength + shim.bytes.length)) :=
  (bigEndian_congr (inserted_payload_of_lt (by omega)) (inserted_payload_of_lt (by omega))).trans
    (withHeader_datagramLength _ _ _)

/-- The WiFu header, the shim and the data stand behind the IP header. -/
theorem inserted_behind (p : IPPacket) (shim : Shim) (shimType : UInt8) : Slice.slice (p.inserted shim shimType).payload
    p.getIpLengthBytes (p.shimmed shim shimType).length = p.shimmed shim shimType := slice_write_self _ _ _

theorem length_data (p : IPPacket) : p.data.length = (p.payloadLength - p.getIpLengthBytes).toNat :=
  Slice.length_slice _ _ _

theorem inserted_pieces (p : IPPacket) (shim : Shim) (shimType : UInt8) :
    (p.inserted shim shimType).payload (p.getIpLengthBytes + 2) = p.getIpProtocol ∧
    ((p.inserted shim shimType).payload (p.getIpLengthBytes + 3)).toNat = shim.bytes.length ∧
    Slice.slice (p.inserted shim shimType).payload (p.getIpLengthBytes + wifuLength) shim.bytes.length = shim.bytes ∧
    Slice.slice (p.inserted shim shimType).payload (p.getIpLengthBytes + (wifuLength + shim.bytes.length))
      p.data.length = p.data := by
  have hbehind := inserted_behind p shim shimType
  have hlength : (p.shimmed shim shimType).length = 4 + (shim.bytes.length + p.data.length) := by
    unfold shimmed
    rw [List.length_append, List.length_append]
    rfl
  rw [hlength, Slice.slice_add, Slice.slice_add] at hbehind
  obtain ⟨hwifu, hrest⟩ := List.append_inj hbehind (by simp)
  obtain ⟨hshim, hdata⟩ := List.append_inj hrest (by simp)
  refine ⟨congrArg (fun l => l.getD 2 0) hwifu, ?_, hshim, ?_⟩
  · have hbyte := congrArg (fun l => (l.getD 3 0).toNat) hwifu
    exact hbyte.trans (UInt8.toNat_ofNat_of_lt' shim.length_lt)
  · rw [← Nat.add_assoc]
    exact hdata

/-- What `remove_shim` makes of a packet with a shim. -/
theorem removeShim_eq {n : Nat} (hprotocol : p.getIpProtocol = wifuProtocol) (hl : 20 ≤ p.getIpLengthBytes)
    (hn : wifuLength + (p.payload (p.getIpLengthBytes + 3)).toNat = n) (hlow : p.getIpLengthBytes + n ≤ p.payloadLength)
    (hhigh : p.payloadLength ≤ maxIpLength) : p.removeShim =
      .ok { (p.withHeader (p.payload (p.getIpLengthBytes + 2)) (BitVec.ofInt 16 (p.getIpDatagramLength.toNat - n))).store
        p.getIpLengthBytes (Slice.slice p.payload (p.getIpLengthBytes + n)
          (p.payloadLength - n - p.getIpLengthBytes).toNat) with payloadLength := p.payloadLength - n }.cleanupShim := by
  subst hn
  unfold removeShim
  rw [if_neg (not_not.2 hprotocol)]
  simp only
  rw [if_neg]
  · have hdata := withHeader_slice p (p.payload (p.getIpLengthBytes + 2)) (BitVec.ofInt 16 (p.getIpDatagramLength.toNat -
        (wifuLength + (p.payload (p.getIpLengthBytes + 3)).toNat : Nat)))
      (p.payloadLength - (wifuLength + (p.payload (p.getIpLengthBytes + 3)).toNat : Nat) - p.getIpLengthBytes).toNat
      (by omega : 12 ≤ p.getIpLengthBytes + (wifuLength + (p.payload (p.getIpLengthBytes + 3)).toNat))
    generalize hlen : BitVec.ofInt 16 (p.getIpDatagramLength.toNat -
      (wifuLength + (p.payload (p.getIpLengthBytes + 3)).toNat : Nat)) = len at *
    show Except.ok { (p.withHeader (p.payload (p.getIpLengthBytes + 2)) len).store 0 (Slice.slice
      (p.withHeader (p.payload (p.getIpLengthBytes + 2)) len).payload 0 p.getIpLengthBytes ++ Slice.slice
        (p.withHeader (p.payload (p.getIpLengthBytes + 2)) len).payload
        (p.getIpLengthBytes + (wifuLength + (p.payload (p.getIpLengthBytes + 3)).toNat))
        (p.payloadLength - (wifuLength + (p.payload (p.getIpLengthBytes + 3)).toNat : Nat) - p.getIpLengthBytes).toNat) with
      payloadLength := p.payloadLength - (wifuLength + (p.payload (p.getIpLengthBytes + 3)).toNat : Nat) }.cleanupShim = _
    rw [store_slice_append, hdata]
  · show ¬(p.payloadLength - (wifuLength + (p.payload (p.getIpLengthBytes + 3)).toNat : Nat) - p.getIpLengthBytes < 0 ∨
      (bufSize : Int) < p.payloadLength - (wifuLength + (p.payload (p.getIpLengthBytes + 3)).toNat : Nat))
    unfold maxIpLength at hhigh
    unfold bufSize
    omega

/-- The packet after the shim has been removed. -/
def removed (p q : IPPacket) : IPPacket :=
  { (q.withHeader p.getIpProtocol p.getIpDatagramLength).store p.getIpLengthBytes p.data with
    payloadLength := p.payloadLength }.cleanupShim

/-- Removing the shim that was inserted. -/
theorem removeShim_inserted (shimType : UInt8) (hp : p.Whole)
    (hroom : p.payloadLength + wifuLength + shim.bytes.length ≤ maxIpLength) :
    (p.inserted shim shimType).removeShim = .ok (p.removed (p.inserted shim shimType)) := by
  have hheader := hp.header
  have hdatagram := hp.datagramLength
  have hihl := inserted_ipLengthBytes shim shimType hp.ihl
  obtain ⟨hprotocol, hshimLength, -, hdata⟩ := inserted_pieces p shim shimType
  have hpayloadLength : (p.inserted shim shimType).payloadLength =
      p.payloadLength + (wifuLength + shim.bytes.length : Nat) := rfl
  have heq := removeShim_eq (p := p.inserted shim shimType) (n := wifuLength + shim.bytes.length)
    (inserted_protocol shim shimType hp.ihl) (by rw [hihl]; exact hp.ihl) (by rw [hihl, hshimLength])
    (by rw [hihl, hpayloadLength]; push_cast; omega) (by rw [hpayloadLength]; push_cast; omega)
  rw [heq, hihl, hprotocol, hpayloadLength, inserted_datagramLength hp.ihl, Int.add_sub_cancel, ← length_data, hdata]
  have hlength : BitVec.ofInt 16 ((BitVec.ofNat 16 (p.getIpDatagramLength.toNat +
      (wifuLength + shim.bytes.length))).toNat - (wifuLength + shim.bytes.length : Nat)) = p.getIpDatagramLength := by
    unfold maxIpLength at hroom
    rw [BitVec.toNat_ofNat, Nat.mod_eq_of_lt (by omega)]
    push_cast
    rw [show (p.getIpDatagramLength.toNat : Int) + (wifuLength + shim.bytes.length) - (wifuLength + shim.bytes.length) =
      (p.getIpDatagramLength.toNat : Int) by omega]
    rw [BitVec.ofInt_natCast]
    simp
  rw [hlength]
  rfl

/-- Every byte of the packet is as before, except those of the IP checksum. -/
theorem removed_payload (hp : p.Whole) (hsame : ∀ i < p.getIpLengthBytes, i ≠ 2 → i ≠ 3 → i ≠ 9 → i ≠ 10 → i ≠ 11 →
    q.payload i = p.payload i) (hi : (i : Int) < p.payloadLength) (h₁₀ : i ≠ 10) (h₁₁ : i ≠ 11) :
    (p.removed q).payload i = p.payload i := by
  have hihl := hp.ihl
  have hheader (h : i < p.getIpLengthBytes) :
      (p.removed q).payload i = (q.withHeader p.getIpProtocol p.getIpDatagramLength).payload i := write_of_not_mem (.inl h)
  by_cases hlt : i < p.getIpLengthBytes
  · rw [hheader hlt]
    by_cases h₉ : i = 9
    · subst h₉
      exact withHeader_protocol
    by_cases h₂₃ : i = 2 ∨ i = 3
    · have hbytes := withHeader_datagramLength q p.getIpProtocol p.getIpDatagramLength
      obtain ⟨htwo, hthree⟩ := bigEndian_inj.1 hbytes
      rcases h₂₃ with rfl | rfl
      · exact htwo
      · exact hthree
    · rw [withHeader_payload h₉ (by omega) (by omega) h₁₀ h₁₁]
      exact hsame i hlt (by omega) (by omega) h₉ h₁₀ h₁₁
  · have hlength := length_data p
    have hstored : (p.removed q).payload i = p.data.getD (i - p.getIpLengthBytes) 0 :=
      write_of_mem (by omega) (by omega)
    rw [hstored, List.getD_eq_getElem _ _ (by omega)]
    refine (Slice.getElem_slice _).trans (congrArg p.payload ?_)
    show p.getIpLengthBytes + (i - p.getIpLengthBytes) = i
    omega

/-- What inserting a shim and removing it should do: the shim and the next header are found in between, the IP checksum is
valid after both, and at the end the packet is what it was, the checksum apart. -/
structure RoundTrip (p : IPPacket) (shim : Shim) (q r : IPPacket) : Prop where
  shimBytes : ∃ a, q.getShim = some a ∧ Slice.slice q.payload a shim.bytes.length = shim.bytes
  nextHeader : q.getNextHeader = p.getNextHeader + (wifuLength + shim.bytes.length) ∧
    Slice.slice q.payload q.getNextHeader p.data.length = p.data
  insertedValid : q.IpChecksumValid
  removedValid : r.IpChecksumValid
  payloadLength : r.payloadLength = p.payloadLength
  payload : ∀ i : Nat, (i : Int) < p.payloadLength → i ≠ 10 → i ≠ 11 → r.payload i = p.payload i

theorem inserted_valid (shim : Shim) (shimType : UInt8) (hl : 20 ≤ p.getIpLengthBytes) :
    (p.inserted shim shimType).IpChecksumValid ↔ p.optionsTotal ≡ 0 [MOD 65535] :=
  withHeader_valid _ _ (fun _ hi => inserted_payload_of_lt hi) hl

/-- Inserting a shim and removing it again is a round trip if and only if the words of the IP options add up to a multiple
of 65535. -/
theorem shim_round_trip (p : IPPacket) (shim : Shim) (shimType : UInt8) (hp : p.Whole) (hsyn : p.isTcpSyn = false)
    (hroom : p.payloadLength + wifuLength + shim.bytes.length ≤ maxIpLength) :
    (∃ q r, p.insertShim shim shimType = .ok q ∧ q.removeShim = .ok r ∧ RoundTrip p shim q r) ↔
      p.optionsTotal ≡ 0 [MOD 65535] := by
  have hinsert := insertShim_eq shimType hp hsyn hroom
  have hremove := removeShim_inserted shimType hp hroom
  have hvalid := inserted_valid shim shimType hp.ihl
  constructor
  · rintro ⟨q, r, hq, -, hround⟩
    rw [hinsert] at hq
    obtain rfl := Except.ok.inj hq
    exact hvalid.1 hround.insertedValid
  · intro htotal
    have hihl := hp.ihl
    have hlength := inserted_ipLengthBytes shim shimType hp.ihl
    obtain ⟨-, hshimLength, hshim, hdata⟩ := inserted_pieces p shim shimType
    have hprotocol := inserted_protocol shim shimType hp.ihl
    have hsame {i : Nat} (hi : i < p.getIpLengthBytes) (h₂ : i ≠ 2) (h₃ : i ≠ 3) (h₉ : i ≠ 9) (h₁₀ : i ≠ 10)
        (h₁₁ : i ≠ 11) : (p.inserted shim shimType).payload i = p.payload i :=
      (inserted_payload_of_lt hi).trans (withHeader_payload h₉ h₂ h₃ h₁₀ h₁₁)
    have hnext : (p.inserted shim shimType).getNextHeader =
        p.getIpLengthBytes + (wifuLength + shim.bytes.length) := by
      unfold getNextHeader
      rw [if_neg (not_not.2 hprotocol), hlength, hshimLength, Nat.add_assoc]
    refine ⟨_, _, hinsert, hremove, ⟨⟨_, if_neg (not_not.2 hprotocol), ?_⟩, ⟨?_, ?_⟩, hvalid.2 htotal, ?_, rfl,
      fun i => removed_payload hp fun i => hsame⟩⟩
    · rw [hlength]
      exact hshim
    · rw [hnext]
      unfold getNextHeader
      rw [if_pos hp.protocol]
    · rw [hnext]
      exact hdata
    · have hoptions : (p.inserted shim shimType).optionsTotal = p.optionsTotal := by
        unfold optionsTotal
        rw [hlength]
        exact congrArg OnesComplement.total (Wifu.IPPacket.words_congr fun i hi hlt =>
          hsame (by omega) (by omega) (by omega) (by omega) (by omega) (by omega))
      rw [← hoptions] at htotal
      refine (withHeader_valid p.getIpProtocol p.getIpDatagramLength (fun i hi => ?_)
        (by rw [hlength]; exact hp.ihl)).2 htotal
      rw [hlength] at hi
      exact write_of_not_mem (.inl hi)

end

/-- A datagram with one byte behind an IP header without options. -/
def plainPacket : IPPacket where
  payload := write (fun _ => 0) 0 [0x45, 0, 0, 21, 0, 0, 0, 0, 64, 17, 0, 0, 10, 0, 0, 1, 10, 0, 0, 2, 7]
  payloadLength := 21
  tcp := none

/-- A shim of two bytes. -/
def twoBytes : Shim := ⟨[100, 0], by decide⟩

theorem shim_round_trip_plainPacket : ∃ q r, plainPacket.insertShim twoBytes 0 = .ok q ∧ q.removeShim = .ok r ∧
    RoundTrip plainPacket twoBytes q r :=
  (shim_round_trip plainPacket twoBytes 0 ⟨by decide, by decide, by decide, by decide⟩ rfl (by decide)).2 rfl

/-- A datagram whose IP header has four bytes of options. -/
def optionPacket : IPPacket where
  payload := write (fun _ => 0) 0 [0x46, 0, 0, 24, 0, 0, 0, 0, 64, 17, 0, 0, 10, 0, 0, 1, 10, 0, 0, 2, 1, 1, 1, 0]
  payloadLength := 24
  tcp := none

/-- The IP checksum is not valid over an IP header with these options. -/
theorem shim_checksum_short : optionPacket.Whole ∧ ¬∃ q r, optionPacket.insertShim twoBytes 0 = .ok q ∧
    q.removeShim = .ok r ∧ RoundTrip optionPacket twoBytes q r := by
  have hwhole : optionPacket.Whole := ⟨by decide, by decide, by decide, by decide⟩
  refine ⟨hwhole, ?_⟩
  rintro ⟨q, r, hq, -, hround⟩
  rw [insertShim_eq 0 hwhole rfl (by decide)] at hq
  obtain rfl := Except.ok.inj hq
  exact absurd ((inserted_valid twoBytes 0 hwhole.ihl).1 hround.insertedValid) (by decide)

end IPPacket

end Core

end Wifu
