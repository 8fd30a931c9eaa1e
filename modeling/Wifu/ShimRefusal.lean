import Wifu.Shim

/-!
# Refusing a shim (`core/src/packet/ippacket.cc`, `tcppacket.cc`)

`insert_shim` makes room before it tests the length, and the length is a 16-bit sum.  Making room in a SYN rewrites the
maximum segment size and the TCP checksum (`refusal_unchanged`).
-/

namespace Wifu

open ByteMemory

namespace Core

namespace IPPacket

/-- Where the loop of `set_tcp_maxseg_option` finds a maximum segment size. -/
def maxsegPosition : Nat → Nat → Int → (Nat → UInt8) → Option Nat
  | 0, _, _, _ => none
  | fuel + 1, ptr, length, m =>
    if 0 < length then
      let opcode := m ptr
      if opcode = 0 then none
      else if opcode = 1 then maxsegPosition fuel (ptr + 1) (length - 1) m
      else
        let opsize := (m (ptr + 1)).toNat
        if opsize < 2 then none
        else if length < opsize then none
        else if opcode = 2 then
          if opsize = 4 then some (ptr + 2) else none
        else maxsegPosition fuel (ptr + opsize) (length - opsize) m
    else none

/-- `get_tcp_length_bytes` without the twenty bytes of the header. -/
def optionsLength (p : IPPacket) (tcp : Nat) : Int := ((p.payload (tcp + 12)).toNat / 16 * 4 : Nat) - 20

/-- The place of the maximum segment size that `set_tcp_maxseg_option` changes. -/
def maxseg (p : IPPacket) (tcp : Nat) : Option Nat :=
  maxsegPosition (p.optionsLength tcp).toNat (tcp + 20) (p.optionsLength tcp) p.payload

/-- The TCP checksum is the one that `recalculate_tcp_checksum` computes. -/
def TcpChecksumRight (p : IPPacket) (tcp : Nat) : Prop :=
  (p.store (tcp + 16) (littleEndianBytes 0)).udptcpChecksum tcp = .ok (littleEndian p.payload (tcp + 16))

/-- A packet as it comes from the queue: the IP header is in it, it fits in its buffer, and `tcp_` is where the constructor
puts it. -/
structure Received (p : IPPacket) : Prop where
  ihl : 20 ≤ p.getIpLengthBytes
  header : p.getIpLengthBytes ≤ p.payloadLength
  buffer : p.payloadLength ≤ bufSize
  tcp : ∀ tcp ∈ p.tcp, tcp = p.getNextHeader

section

variable {p : IPPacket} {extra : BitVec 16} {fuel ptr tcp a : Nat} {length : Int} {m : Nat → UInt8}

/-- The loop changes the maximum segment size that it finds, and nothing else. -/
theorem maxsegLoop_eq : maxsegLoop extra fuel ptr length m = match maxsegPosition fuel ptr length m with
    | none => m
    | some a => write m a (bigEndianBytes (bigEndian m a - extra)) := by
  induction fuel generalizing ptr length with
  | zero => rfl
  | succ fuel ih =>
    unfold maxsegLoop maxsegPosition
    by_cases hlength : 0 < length
    · simp only [if_pos hlength]
      by_cases hend : m ptr = 0
      · simp only [if_pos hend]
      by_cases hnop : m ptr = 1
      · simp only [if_neg hend, if_pos hnop]
        exact ih
      simp only [if_neg hend, if_neg hnop]
      by_cases hsmall : (m (ptr + 1)).toNat < 2
      · simp only [if_pos hsmall]
      by_cases hlarge : length < (m (ptr + 1)).toNat
      · simp only [if_neg hsmall, if_pos hlarge]
      simp only [if_neg hsmall, if_neg hlarge]
      by_cases hmaxseg : m ptr = 2
      · simp only [if_pos hmaxseg]
        by_cases hfour : (m (ptr + 1)).toNat = 4
        · simp only [if_pos hfour]
        · simp only [if_neg hfour]
      · simp only [if_neg hmaxseg]
        exact ih
    · simp only [if_neg hlength]

theorem maxsegPosition_ge (h : maxsegPosition fuel ptr length m = some a) : ptr + 2 ≤ a := by
  induction fuel generalizing ptr length with
  | zero => cases h
  | succ fuel ih =>
    unfold maxsegPosition at h
    simp only at h
    -- the options before it, if any, are at the front
    split_ifs at h
    · exact Nat.le_of_succ_le (ih h)
    · exact (Option.some.inj h).le
    · exact Nat.le_trans (by omega) (ih h)

/-! ### Making room -/

theorem length_pos_of_shim (shim : Shim) : BitVec.ofNat 16 (wifuLength + shim.bytes.length) ≠ 0 := by
  intro hzero
  have hlt := shim.length_lt
  have htoNat := congrArg BitVec.toNat hzero
  rw [BitVec.toNat_ofNat, Nat.mod_eq_of_lt (by unfold wifuLength; omega)] at htoNat
  unfold wifuLength at htoNat
  simp at htoNat

/-- The payload of a SYN in which room has been made, and of which the checksum has been set to zero. -/
theorem setTcpMaxsegOption_payload (tcp : Nat) (extra : BitVec 16) (hsyn : p.isTcpSyn = true) :
    (p.setTcpMaxsegOption tcp extra).payload = match p.maxseg tcp with
    | none => p.payload
    | some a => write p.payload a (bigEndianBytes (bigEndian p.payload a - extra)) := by
  unfold setTcpMaxsegOption
  rw [if_pos hsyn]
  exact maxsegLoop_eq

/-- The option walk leaves everything before the options. -/
theorem setTcpMaxsegOption_of_lt (hsyn : p.isTcpSyn = true) {i : Nat} (hi : i < tcp + 22) :
    (p.setTcpMaxsegOption tcp extra).payload i = p.payload i := by
  rw [setTcpMaxsegOption_payload tcp extra hsyn]
  cases hmaxseg : p.maxseg tcp with
  | none => rfl
  | some a => exact write_of_not_mem (.inl (Nat.lt_of_lt_of_le hi (maxsegPosition_ge hmaxseg)))

theorem setTcpMaxsegOption_frame : (p.setTcpMaxsegOption tcp extra).payloadLength = p.payloadLength ∧
    (p.setTcpMaxsegOption tcp extra).tcp = p.tcp := by
  unfold setTcpMaxsegOption
  split
  · exact ⟨rfl, rfl⟩
  · exact ⟨rfl, rfl⟩

theorem Received.tcp_ge (hp : p.Received) (htcp : p.tcp = some tcp) : 20 ≤ tcp := by
  have hihl := hp.ihl
  have hnext := hp.tcp tcp htcp
  unfold getNextHeader at hnext
  split at hnext <;> omega

/-- The copy of `udptcp_checksum` fits, whatever is behind the IP header. -/
theorem udptcpChecksum_ok (tcp : Nat) {q : IPPacket} (hp : p.Received) (hlength : q.payloadLength = p.payloadLength)
    (hfirst : q.payload 0 = p.payload 0) : ∃ sum, q.udptcpChecksum tcp = .ok sum := by
  have hihl := hp.ihl
  have hheader := hp.header
  have hbuffer := hp.buffer
  have hq : q.getIpLengthBytes = p.getIpLengthBytes := by
    unfold getIpLengthBytes
    rw [hfirst]
  unfold udptcpChecksum
  rw [hq, hlength]
  simp only
  rw [if_neg (by omega)]
  exact ⟨_, rfl⟩

/-- A SYN gives room without an error. -/
theorem makeRoomForShim_syn (hp : p.Received) (htcp : p.tcp = some tcp) (hsyn : p.isTcpSyn = true) (n : Nat) :
    ∃ sum, ((p.setTcpMaxsegOption tcp (BitVec.ofNat 16 (wifuLength + n))).store (tcp + 16)
        (littleEndianBytes 0)).udptcpChecksum tcp = .ok sum ∧
      p.makeRoomForShim n = .ok (((p.setTcpMaxsegOption tcp (BitVec.ofNat 16 (wifuLength + n))).store (tcp + 16)
        (littleEndianBytes 0)).store (tcp + 16) (littleEndianBytes sum)) := by
  have hge := hp.tcp_ge htcp
  obtain ⟨sum, hsum⟩ := udptcpChecksum_ok tcp (q := (p.setTcpMaxsegOption tcp
    (BitVec.ofNat 16 (wifuLength + n))).store (tcp + 16) (littleEndianBytes 0)) hp setTcpMaxsegOption_frame.1
    ((store_payload (.inl (by omega))).trans (setTcpMaxsegOption_of_lt hsyn (by omega)))
  refine ⟨sum, hsum, ?_⟩
  unfold makeRoomForShim
  rw [htcp]
  simp only
  rw [if_pos hsyn]
  unfold recalculateTcpChecksum
  simp only
  rw [hsum]
  rfl

/-- Making room in a SYN leaves the packet only when there is no maximum segment size and the checksum is right. -/
theorem room_unchanged {sum : BitVec 16} {shim : Shim} (hsyn : p.isTcpSyn = true)
    (hsum : ((p.setTcpMaxsegOption tcp (BitVec.ofNat 16 (wifuLength + shim.bytes.length))).store (tcp + 16)
      (littleEndianBytes 0)).udptcpChecksum tcp = .ok sum) :
    (((p.setTcpMaxsegOption tcp (BitVec.ofNat 16 (wifuLength + shim.bytes.length))).store (tcp + 16)
      (littleEndianBytes 0)).store (tcp + 16) (littleEndianBytes sum)).payload = p.payload ↔
      p.maxseg tcp = none ∧ p.TcpChecksumRight tcp := by
  have hpayload := setTcpMaxsegOption_payload tcp (BitVec.ofNat 16 (wifuLength + shim.bytes.length)) hsyn
  have hstored : (((p.setTcpMaxsegOption tcp (BitVec.ofNat 16 (wifuLength + shim.bytes.length))).store (tcp + 16)
      (littleEndianBytes 0)).store (tcp + 16) (littleEndianBytes sum)).payload =
      write (p.setTcpMaxsegOption tcp (BitVec.ofNat 16 (wifuLength + shim.bytes.length))).payload (tcp + 16)
        (littleEndianBytes sum) := write_littleEndian_twice _ _ _ _
  rw [hstored]
  cases hmaxseg : p.maxseg tcp with
  | some a =>
    rw [hmaxseg] at hpayload
    have hge := maxsegPosition_ge hmaxseg
    refine iff_of_false (fun heq => ?_) (by simp)
    -- the two bytes of the maximum segment size are behind the checksum, and not what they were
    have hread : bigEndian (write (p.setTcpMaxsegOption tcp (BitVec.ofNat 16 (wifuLength + shim.bytes.length))).payload
        (tcp + 16) (littleEndianBytes sum)) a = bigEndian p.payload a - BitVec.ofNat 16 (wifuLength + shim.bytes.length) := by
      rw [hpayload, ← bigEndian_write p.payload a (bigEndian p.payload a - _)]
      exact bigEndian_congr (write_of_not_mem (.inr (by simp; omega))) (write_of_not_mem (.inr (by simp; omega)))
    rw [heq] at hread
    exact length_pos_of_shim shim (by bv_omega)
  | none =>
    rw [hmaxseg] at hpayload
    replace hpayload : (p.setTcpMaxsegOption tcp (BitVec.ofNat 16 (wifuLength + shim.bytes.length))).payload =
      p.payload := hpayload
    have hsame : p.setTcpMaxsegOption tcp (BitVec.ofNat 16 (wifuLength + shim.bytes.length)) = p :=
      IPPacket.ext hpayload setTcpMaxsegOption_frame.1 setTcpMaxsegOption_frame.2
    rw [hsame] at hsum
    rw [hpayload]
    unfold TcpChecksumRight
    rw [hsum]
    constructor
    · intro heq
      refine ⟨rfl, congrArg Except.ok ?_⟩
      rw [← littleEndian_write p.payload (tcp + 16) sum, heq]
    · rintro ⟨-, hright⟩
      rw [Except.ok.inj hright, littleEndianBytes_eq]
      exact write_slice _ _ _

/-- A packet whose size test, on a 16-bit sum, refuses it, with the room made. -/
theorem insertShim_room {q : IPPacket} {shim : Shim} (shimType : UInt8)
    (hroom : p.makeRoomForShim shim.bytes.length = .ok q) (hdatagram : q.getIpDatagramLength = p.getIpDatagramLength) :
    if maxIpLength < (p.getIpDatagramLength.toNat + (wifuLength + shim.bytes.length)) % 65536 then
      p.insertShim shim shimType = .ok q
    else ∀ r, p.insertShim shim shimType = .ok r →
      r.payloadLength = q.payloadLength + (wifuLength + shim.bytes.length : Nat) := by
  have htest : (BitVec.ofNat 16 (q.getIpDatagramLength.toNat + (wifuLength + shim.bytes.length))).toNat =
      (p.getIpDatagramLength.toNat + (wifuLength + shim.bytes.length)) % 65536 := by
    rw [hdatagram, BitVec.toNat_ofNat]
  unfold insertShim
  rw [hroom]
  simp only [bind, Except.bind]
  rw [htest]
  split
  · rfl
  · intro r hr
    split at hr
    · cases hr
    · obtain rfl := Except.ok.inj hr
      rfl

/-- What making room does to a packet that has come from the queue. -/
theorem makeRoomForShim_cases (hp : p.Received) (shim : Shim) :
    ∃ q, p.makeRoomForShim shim.bytes.length = .ok q ∧ q.getIpDatagramLength = p.getIpDatagramLength ∧
      q.payloadLength = p.payloadLength ∧
      (q.payload = p.payload ↔
        ∀ tcp, p.tcp = some tcp → p.isTcpSyn = true → p.maxseg tcp = none ∧ p.TcpChecksumRight tcp) := by
  cases hsyn : p.isTcpSyn with
  | false => exact ⟨p, makeRoomForShim_eq hsyn, rfl, rfl, iff_of_true rfl (by simp)⟩
  | true =>
    obtain ⟨tcp, htcp⟩ : ∃ tcp, p.tcp = some tcp := by
      unfold isTcpSyn at hsyn
      cases htcp : p.tcp with
      | none =>
        rw [htcp] at hsyn
        cases hsyn
      | some tcp => exact ⟨tcp, rfl⟩
    obtain ⟨sum, hsum, hroom⟩ := makeRoomForShim_syn hp htcp hsyn shim.bytes.length
    have hge := hp.tcp_ge htcp
    refine ⟨_, hroom, ?_, setTcpMaxsegOption_frame.1, (room_unchanged hsyn hsum).trans ?_⟩
    · have hbefore {i : Nat} (hi : i < tcp) : (((p.setTcpMaxsegOption tcp (BitVec.ofNat 16 (wifuLength +
          shim.bytes.length))).store (tcp + 16) (littleEndianBytes 0)).store (tcp + 16)
            (littleEndianBytes sum)).payload i = p.payload i :=
        (store_payload (.inl (by omega))).trans ((store_payload (.inl (by omega))).trans
          (setTcpMaxsegOption_of_lt hsyn (by omega)))
      exact bigEndian_congr (hbefore (by omega)) (hbefore (by omega))
    · constructor
      · intro h tcp' htcp' _
        obtain rfl := Option.some.inj (htcp.symm.trans htcp')
        exact h
      · intro h
        exact h tcp htcp rfl

end

/-- `insert_shim` leaves the bytes of the packet and its length. -/
def LeavesUnchanged (p : IPPacket) (shim : Shim) (shimType : UInt8) : Prop :=
  ∃ q, p.insertShim shim shimType = .ok q ∧ q.payload = p.payload ∧ q.payloadLength = p.payloadLength

/-- `insert_shim` leaves a packet as it is if and only if the 16-bit sum of the lengths is too large, and the packet is not a
SYN, or one without a maximum segment size and with the right checksum.  A datagram that would be too long for its shim is
refused in the first case only. -/
theorem refusal_unchanged (p : IPPacket) (shim : Shim) (shimType : UInt8) (hp : p.Received) :
    p.LeavesUnchanged shim shimType ↔
      maxIpLength < (p.getIpDatagramLength.toNat + (wifuLength + shim.bytes.length)) % 65536 ∧
        ∀ tcp, p.tcp = some tcp → p.isTcpSyn = true → p.maxseg tcp = none ∧ p.TcpChecksumRight tcp := by
  obtain ⟨q, hroom, hdatagram, hlength, hsame⟩ := makeRoomForShim_cases hp shim
  have hinsert := insertShim_room shimType hroom hdatagram
  rw [← hsame]
  split at hinsert
  · rename_i hrefused
    constructor
    · rintro ⟨r, hr, hpayload, -⟩
      rw [hinsert] at hr
      obtain rfl := Except.ok.inj hr
      exact ⟨hrefused, hpayload⟩
    · rintro ⟨-, hpayload⟩
      exact ⟨q, hinsert, hpayload, hlength⟩
  · rename_i hwrapped
    refine iff_of_false ?_ (fun h => hwrapped h.1)
    rintro ⟨r, hr, -, hsize⟩
    have hgrown := hinsert r hr
    unfold wifuLength at hgrown
    push_cast at hgrown
    omega

/-- A datagram of 1500 bytes. -/
def fullPacket : IPPacket where
  payload := write (fun _ => 0) 0 [0x45, 0, 5, 220, 0, 0, 0, 0, 64, 17]
  payloadLength := 1500
  tcp := none

theorem refusal_unchanged_fullPacket : fullPacket.LeavesUnchanged twoBytes 0 :=
  (refusal_unchanged fullPacket twoBytes 0 ⟨by decide, by decide, by decide, fun _ h => nomatch h⟩).2
    ⟨by decide, fun _ h => nomatch h⟩

/-- A SYN of 1500 bytes with a maximum segment size of 1460. -/
def fullSyn : IPPacket where
  payload := write (fun _ => 0) 0 ([0x45, 0, 5, 220, 0, 0, 0, 0, 64, 6, 0, 0, 10, 0, 0, 1, 10, 0, 0, 2] ++
    [0, 80, 0, 81, 0, 0, 0, 1, 0, 0, 0, 0, 0x60, 2, 0, 0, 0, 0, 0, 0, 2, 4, 5, 180])
  payloadLength := 1500
  tcp := some 20

/-- A packet whose header says that it has 65530 bytes. -/
def longPacket : IPPacket where
  payload := write (fun _ => 0) 0 [0x45, 0, 255, 250, 0, 0, 0, 0, 64, 17]
  payloadLength := 100
  tcp := none

/-- A SYN is rewritten before its shim is refused, and with 65530 bytes the sum wraps. -/
theorem refusal_changes :
    maxIpLength < fullSyn.getIpDatagramLength.toNat + (wifuLength + twoBytes.bytes.length) ∧
      ¬fullSyn.LeavesUnchanged twoBytes 0 ∧
      maxIpLength < longPacket.getIpDatagramLength.toNat + (wifuLength + twoBytes.bytes.length) ∧
      ¬longPacket.LeavesUnchanged twoBytes 0 := by
  have hsyn : fullSyn.Received := ⟨by decide, by decide, by decide, fun tcp h => by cases h; decide⟩
  have hlong : longPacket.Received := ⟨by decide, by decide, by decide, fun _ h => nomatch h⟩
  refine ⟨by decide, ?_, by decide, ?_⟩
  · obtain ⟨q, hroom, hdatagram, -, hsame⟩ := makeRoomForShim_cases hsyn twoBytes
    have hinsert := insertShim_room 0 hroom hdatagram
    rw [if_pos (by decide)] at hinsert
    rintro ⟨r, hr, hpayload, -⟩
    rw [hinsert] at hr
    obtain rfl := Except.ok.inj hr
    have hmaxseg := (hsame.1 hpayload 20 rfl (by decide)).1
    exact absurd hmaxseg (by decide)
  · obtain ⟨q, hroom, hdatagram, hlength, -⟩ := makeRoomForShim_cases hlong twoBytes
    have hinsert := insertShim_room 0 hroom hdatagram
    rw [if_neg (by decide)] at hinsert
    rintro ⟨r, hr, -, hsize⟩
    have hgrown := hinsert r hr
    rw [hlength, hsize] at hgrown
    exact absurd hgrown (by decide)

end IPPacket

end Core

end Wifu
