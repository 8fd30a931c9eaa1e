import Wifu.WirePacket

/-!
# The checksum (`IPPacket.cc`, `TCPPacket.cc`)

`checksum` adds words with deferred carries; the result is the one's-complement checksum of the words.  The TCP checksum
is computed over a pseudo header that is written into the packet.  After the IP header of twenty bytes has been put back
nothing of it is left; behind a longer IP header the part of it that lies over the IP options stays.
-/

namespace Wifu

open ByteMemory OnesComplement

namespace IPPacket

/-- The 16-bit words of a buffer, low byte first; a last single byte is padded with zero. -/
def words (m : Nat → UInt8) (ptr : Nat) : Nat → List (BitVec 16)
  | 0 => []
  | 1 => [BitVec.ofNat 16 (m ptr).toNat]
  | len + 2 => littleEndian m ptr :: words m (ptr + 2) len

section

variable {m m' : Nat → UInt8} {ptr len sum fuel : Nat}

/-! ### The loops -/

theorem ofNat_byte_toNat (b : UInt8) : (BitVec.ofNat 16 b.toNat).toNat = b.toNat := by
  have := b.toNat_lt
  rw [BitVec.toNat_ofNat, Nat.mod_eq_of_lt (by omega)]

/-- The first loop adds up the words; a carry does not matter. -/
theorem represents_addWords (m : Nat → UInt8) (ptr len sum : Nat) :
    Represents 16 (addWords m ptr len sum) (sum + total (words m ptr len)) := by
  fun_induction addWords m ptr len sum with
  | case1 ptr sum => exact .refl 16 _
  | case2 ptr sum =>
    simp only [words, total_cons, total_nil, ofNat_byte_toNat, Nat.add_zero]
    exact .refl 16 _
  | case3 ptr len sum _ ih =>
    rw [words, total_cons, ← Nat.add_assoc]
    refine ih.trans (.add_right ?_ _)
    split
    · exact represents_carry 16 _
    · exact .refl 16 _

/-- With fuel for every round the last loop ends with a word. -/
theorem represents_foldCarries (h : sum ≤ fuel) : foldCarries fuel sum < 65536 ∧ Represents 16 (foldCarries fuel sum) sum := by
  induction fuel generalizing sum with
  | zero =>
    have : sum = 0 := by omega
    subst this
    exact ⟨by simp [foldCarries], .refl 16 _⟩
  | succ fuel ih =>
    unfold foldCarries
    split
    · rename_i hcarry
      have hle : sum % 65536 + sum / 65536 ≤ fuel := by omega
      obtain ⟨hlt, hrep⟩ := ih hle
      exact ⟨hlt, hrep.trans (represents_carry 16 sum)⟩
    · rename_i hnone
      exact ⟨by omega, .refl 16 _⟩

/-- The checksum of a buffer is the one's-complement checksum of its words. -/
theorem checksum_eq (m : Nat → UInt8) (ptr : Nat) (len : BitVec 16) :
    checksum m ptr len = OnesComplement.checksum (words m ptr len.toNat) := by
  have hwords := represents_addWords m ptr len.toNat 0
  rw [Nat.zero_add] at hwords
  obtain ⟨hlt, hfold⟩ := represents_foldCarries (Nat.le_refl (addWords m ptr len.toNat 0))
  have hunique := (hfold.trans hwords).unique (represents_sum _) hlt (OnesComplement.sum (words m ptr len.toNat)).isLt
  have hsum : BitVec.ofNat 16 (foldCarries (addWords m ptr len.toNat 0) (addWords m ptr len.toNat 0)) =
      OnesComplement.sum (words m ptr len.toNat) := by
    apply BitVec.eq_of_toNat_eq
    rw [BitVec.toNat_ofNat, Nat.mod_eq_of_lt hlt, hunique]
  show ~~~BitVec.ofNat 16 _ = ~~~OnesComplement.sum _
  rw [hsum]

/-- Less than `2 ^ 16` bytes never add up to `2 ^ 31`: the test in the first loop never holds, and `sum` fits a `long` of
32 bits. -/
theorem addWords_eq (h : sum + (len + 1) / 2 * 65535 < 2147483648) :
    addWords m ptr len sum = sum + total (words m ptr len) := by
  fun_induction addWords m ptr len sum with
  | case1 ptr sum => rfl
  | case2 ptr sum =>
    simp only [words, total_cons, total_nil, ofNat_byte_toNat, Nat.add_zero]
  | case3 ptr len sum next ih =>
    have hlt := (littleEndian m ptr).isLt
    have hnext : next = sum + (littleEndian m ptr).toNat := rfl
    have hbit : next.testBit 31 = false := Nat.testBit_lt_two_pow (by omega)
    rw [hbit] at ih ⊢
    simp only [Bool.false_eq_true, if_false] at ih ⊢
    rw [ih (by omega), words, total_cons, hnext, Nat.add_assoc]

/-! ### The words of buffers that differ in few bytes -/

theorem words_congr (h : ∀ i, ptr ≤ i → i < ptr + len → m i = m' i) : words m ptr len = words m' ptr len := by
  fun_induction words m ptr len with
  | case1 ptr => rfl
  | case2 ptr => rw [words, h ptr (by omega) (by omega)]
  | case3 ptr len ih =>
    rw [words, littleEndian_congr (h ptr (by omega) (by omega)) (h (ptr + 1) (by omega) (by omega)),
      ih fun i h₁ h₂ => h i (by omega) (by omega)]

/-- The value of the word at `o` in a buffer that ends at `last`. -/
def wordAt (m : Nat → UInt8) (last o : Nat) : Nat :=
  if o + 1 = last then (m o).toNat else (littleEndian m o).toNat

/-- A change of one word changes the sum by the change of the word. -/
theorem total_words_change {k : Nat} (hk : 2 * k < len)
    (h : ∀ i, i ≠ ptr + 2 * k → i ≠ ptr + 2 * k + 1 → m' i = m i) :
    total (words m' ptr len) + wordAt m (ptr + len) (ptr + 2 * k) =
      total (words m ptr len) + wordAt m' (ptr + len) (ptr + 2 * k) := by
  fun_induction words m ptr len generalizing k with
  | case1 ptr => omega
  | case2 ptr =>
    have hk₀ : k = 0 := by omega
    subst hk₀
    simp only [words, total_cons, total_nil, ofNat_byte_toNat, wordAt, Nat.mul_zero, Nat.add_zero, if_true]
    omega
  | case3 ptr len ih =>
    show total (words m' ptr (len + 2)) + wordAt m (ptr + (len + 2)) (ptr + 2 * k) =
      total (littleEndian m ptr :: words m (ptr + 2) len) + wordAt m' (ptr + (len + 2)) (ptr + 2 * k)
    rw [words, total_cons, total_cons]
    cases k with
    | zero =>
      have htail : words m' (ptr + 2) len = words m (ptr + 2) len :=
        words_congr fun i h₁ _ => h i (by omega) (by omega)
      simp only [wordAt, Nat.mul_zero, Nat.add_zero]
      rw [if_neg (by omega), if_neg (by omega), htail]
      omega
    | succ k =>
      have hhead : littleEndian m' ptr = littleEndian m ptr :=
        littleEndian_congr (h ptr (by omega) (by omega)) (h (ptr + 1) (by omega) (by omega))
      have hrest := ih (k := k) (by omega) fun i h₁ h₂ => h i (by omega) (by omega)
      have hlast : ptr + 2 + len = ptr + (len + 2) := by omega
      have hword : ptr + 2 + 2 * k = ptr + 2 * (k + 1) := by omega
      rw [hlast, hword] at hrest
      rw [hhead]
      omega

/-! ### The IP checksum -/

/-- Validating the IP checksum leaves the packet as it is. -/
theorem isValidIpChecksum_payload (p : IPPacket) : p.isValidIpChecksum.2.payload = p.payload := by
  show write (write (write p.payload 10 (littleEndianBytes 0)) 10 (littleEndianBytes _)) 10
    (littleEndianBytes (littleEndian p.payload 10)) = p.payload
  rw [write_littleEndian_twice, write_littleEndian_twice, littleEndianBytes_eq, write_slice]

/-! ### The pseudo header -/

@[simp] theorem length_pseudoHeader (p : IPPacket) : p.pseudoHeader.length = 12 := rfl

/-- The pseudo header depends on the IP header only. -/
theorem pseudoHeader_congr {p p' : IPPacket} (h : ∀ i < 20, p'.payload i = p.payload i) :
    p'.pseudoHeader = p.pseudoHeader := by
  have hihl : p'.getIpHeaderLengthBytes = p.getIpHeaderLengthBytes := by
    unfold getIpHeaderLengthBytes getIpHeaderLengthWords
    rw [h 0 (by omega)]
  have htot : p'.getIpTotLength = p.getIpTotLength := bigEndian_congr (h 2 (by omega)) (h 3 (by omega))
  have hslice {a : Nat} (ha : a + 4 ≤ 20) : Slice.slice p'.payload a 4 = Slice.slice p.payload a 4 :=
    Slice.slice_congr fun k hk => h (a + k) (by omega)
  unfold pseudoHeader nextLength
  rw [hihl, htot, hslice (by omega), hslice (by omega), h 9 (by omega)]

/-- What `compute_next_checksum` leaves: the first twenty bytes, and behind them the rest of the pseudo header. -/
theorem computeNextChecksum_payload (p : IPPacket) (i : Nat) : p.computeNextChecksum.2.payload i =
    if i < 20 then p.payload i else write p.payload (p.getNextHeader - 12) p.pseudoHeader i := by
  show write (write p.payload (p.getNextHeader - 12) p.pseudoHeader) 0 (Slice.slice p.payload 0 20) i = _
  split
  · rename_i hi
    rw [write_of_mem (by omega) (by simpa using hi), List.getD_eq_getElem _ _ (by simpa using hi), Slice.getElem_slice]
    show p.payload (0 + (i - 0)) = p.payload i
    rw [Nat.sub_zero, Nat.zero_add]
  · rename_i hi
    exact write_of_not_mem (by simp; omega)

/-- With an IP header of twenty bytes the whole pseudo header is put back. -/
theorem computeNextChecksum_plain {p : IPPacket} (h : p.getIpHeaderLengthWords = 5) :
    p.computeNextChecksum.2.payload = p.payload := by
  have hnext : p.getNextHeader = 20 := by
    show p.getIpHeaderLengthWords * 4 = 20
    rw [h]
  funext i
  rw [computeNextChecksum_payload, hnext]
  split
  · rfl
  · exact write_of_not_mem (by simp; omega)

end

end IPPacket

namespace WirePacket

section

variable {p : WirePacket} {i : Nat}

/-! ### Validating the TCP checksum -/

theorem payload_setTcpChecksum (p : WirePacket) (sum : BitVec 16) :
    (p.setTcpChecksum sum).payload = write p.payload (p.tcp + 16) (littleEndianBytes sum) := rfl

theorem getTcpChecksum_setTcpChecksum (p : WirePacket) (sum : BitVec 16) :
    (p.setTcpChecksum sum).getTcpChecksum = sum := littleEndian_write _ _ _

theorem setTcpChecksum_setTcpChecksum (p : WirePacket) (sum sum' : BitVec 16) :
    (p.setTcpChecksum sum).setTcpChecksum sum' = p.setTcpChecksum sum' := by
  unfold setTcpChecksum
  simp only [write_littleEndian_twice]

/-- Setting the checksum of a header behind the IP header leaves the IP header. -/
theorem setTcpChecksum_of_lt (sum : BitVec 16) (h : i < p.tcp + 16) : (p.setTcpChecksum sum).payload i = p.payload i :=
  write_of_not_mem (.inl h)

/-- The checksum that a packet should have. -/
def computedTcpChecksum (p : WirePacket) : BitVec 16 := (p.setTcpChecksum 0).computeNextChecksum.1

theorem isValidTcpChecksum_fst (p : WirePacket) :
    p.isValidTcpChecksum.1 = (p.getTcpChecksum == p.computedTcpChecksum) := by
  show (p.getTcpChecksum == (p.calculateAndSetTcpChecksum).getTcpChecksum) = _
  unfold calculateAndSetTcpChecksum
  rw [getTcpChecksum_setTcpChecksum]
  rfl

/-- The checksum of a packet does not count for the one that it should have. -/
theorem computedTcpChecksum_setTcpChecksum (p : WirePacket) (sum : BitVec 16) :
    (p.setTcpChecksum sum).computedTcpChecksum = p.computedTcpChecksum := by
  unfold computedTcpChecksum
  rw [setTcpChecksum_setTcpChecksum]

theorem getIpHeaderLengthWords_setTcpChecksum (p : WirePacket) (sum : BitVec 16) :
    (p.setTcpChecksum sum).getIpHeaderLengthWords = p.getIpHeaderLengthWords := by
  unfold IPPacket.getIpHeaderLengthWords
  rw [setTcpChecksum_of_lt sum (by omega)]

/-- With an IP header of twenty bytes `calculate_and_set_tcp_checksum` only sets the checksum. -/
theorem calculateAndSetTcpChecksum_plain (h : p.getIpHeaderLengthWords = 5) :
    p.calculateAndSetTcpChecksum = p.setTcpChecksum p.computedTcpChecksum := by
  have hip : (p.setTcpChecksum 0).computeNextChecksum.2 = (p.setTcpChecksum 0).toIPPacket :=
    IPPacket.ext (IPPacket.computeNextChecksum_plain ((getIpHeaderLengthWords_setTcpChecksum p 0).trans h))
  show ({ p.setTcpChecksum 0 with toIPPacket := (p.setTcpChecksum 0).computeNextChecksum.2 }).setTcpChecksum
    p.computedTcpChecksum = _
  rw [hip]
  exact setTcpChecksum_setTcpChecksum p 0 _

/-- A packet validates after its checksum has been calculated. -/
theorem isValidTcpChecksum_calculated (h : p.getIpHeaderLengthWords = 5) :
    p.calculateAndSetTcpChecksum.isValidTcpChecksum.1 = true := by
  rw [calculateAndSetTcpChecksum_plain h, isValidTcpChecksum_fst, getTcpChecksum_setTcpChecksum,
    computedTcpChecksum_setTcpChecksum, beq_self_eq_true]

/-! ### Damage to a packet -/

/-- A word of a packet with an IP header of twenty bytes that the checksum covers: the word with the protocol, the
addresses, and the segment. -/
def Covered (p : WirePacket) (o : Nat) : Prop :=
  o % 2 = 0 ∧ (o = 8 ∨ (12 ≤ o ∧ o < p.getIpTotLength.toNat))

instance (p : WirePacket) (o : Nat) : Decidable (p.Covered o) := inferInstanceAs (Decidable (_ ∧ _))

/-- What the checksum counts of the word: of the first one the protocol only, and one byte of a last word without a
second one. -/
def coveredWord (p : WirePacket) (o : Nat) : Nat :=
  if o = 8 then 256 * (p.payload 9).toNat else IPPacket.wordAt p.payload p.getIpTotLength.toNat o

/-- The bytes that are added up. -/
def checkedBytes (p : WirePacket) : Nat → UInt8 := write (p.setTcpChecksum 0).payload 8 p.pseudoHeader

/-- Where the checksum finds a word. -/
def checkedPosition (o : Nat) : Nat := if o = 8 then 16 else if o < 20 then o - 4 else o

theorem pseudoHeader_eq (p : IPPacket) : p.pseudoHeader = [p.payload 12, p.payload 13, p.payload 14, p.payload 15,
    p.payload 16, p.payload 17, p.payload 18, p.payload 19, 0, p.payload 9] ++
      bigEndianBytes (BitVec.ofInt 16 p.nextLength) := rfl

theorem checkedBytes_pseudo (h₁ : 8 ≤ i) (h₂ : i < 20) : p.checkedBytes i = p.pseudoHeader.getD (i - 8) 0 :=
  write_of_mem h₁ (by simpa using h₂)

/-- The addresses. -/
theorem checkedBytes_address (h₁ : 12 ≤ i) (h₂ : i < 20) : p.checkedBytes (i - 4) = p.payload i := by
  rw [checkedBytes_pseudo (by omega) (by omega), pseudoHeader_eq]
  interval_cases i <;> rfl

/-- The word with the protocol. -/
theorem checkedBytes_protocol : p.checkedBytes 16 = 0 ∧ p.checkedBytes 17 = p.payload 9 := by
  rw [checkedBytes_pseudo (by omega) (by omega), checkedBytes_pseudo (by omega) (by omega), pseudoHeader_eq]
  exact ⟨rfl, rfl⟩

/-- The segment, with a checksum of zero. -/
theorem checkedBytes_segment (h : 20 ≤ i) : p.checkedBytes i = (p.setTcpChecksum 0).payload i :=
  write_of_not_mem (by simp; omega)

theorem checkedBytes_of_ne (h : 20 ≤ i) (h₁ : i ≠ p.tcp + 16) (h₂ : i ≠ p.tcp + 17) :
    p.checkedBytes i = p.payload i := by
  rw [checkedBytes_segment h, payload_setTcpChecksum]
  exact write_of_not_mem (by simp; omega)

theorem computedTcpChecksum_eq (htcp : p.tcp = 20) (h : p.getIpHeaderLengthWords = 5)
    (htot : 20 ≤ p.getIpTotLength.toNat) : p.computedTcpChecksum =
      OnesComplement.checksum (IPPacket.words p.checkedBytes 8 (p.getIpTotLength.toNat - 8)) := by
  have hsame (i : Nat) (hi : i < 20) : (p.setTcpChecksum 0).payload i = p.payload i :=
    setTcpChecksum_of_lt 0 (by omega)
  have hpseudo := IPPacket.pseudoHeader_congr hsame
  have hnext : (p.setTcpChecksum 0).getNextHeader = 20 := by
    show (p.setTcpChecksum 0).getIpHeaderLengthWords * 4 = 20
    rw [getIpHeaderLengthWords_setTcpChecksum, h]
  have hlength : (p.setTcpChecksum 0).nextLength = (p.getIpTotLength.toNat : Int) - 20 := by
    have htot : (p.setTcpChecksum 0).getIpTotLength = p.getIpTotLength :=
      bigEndian_congr (hsame 2 (by omega)) (hsame 3 (by omega))
    show ((p.setTcpChecksum 0).getIpTotLength.toNat : Int) - (p.setTcpChecksum 0).getIpHeaderLengthWords * 4 = _
    rw [htot, getIpHeaderLengthWords_setTcpChecksum, h]
    rfl
  have hlt := p.getIpTotLength.isLt
  have hlen : (BitVec.ofInt 16 (12 + (p.setTcpChecksum 0).nextLength)).toNat = p.getIpTotLength.toNat - 8 := by
    rw [hlength, BitVec.toNat_ofInt]
    omega
  show IPPacket.checksum (write (p.setTcpChecksum 0).payload ((p.setTcpChecksum 0).getNextHeader - 12)
    (p.setTcpChecksum 0).pseudoHeader) ((p.setTcpChecksum 0).getNextHeader - 12)
      (BitVec.ofInt 16 (12 + (p.setTcpChecksum 0).nextLength)) = _
  rw [IPPacket.checksum_eq, hlen, hnext, hpseudo]
  rfl

/-- The checksum adds up the covered words. -/
theorem wordAt_checkedBytes {o : Nat} (htcp : p.tcp = 20) (htot : 20 ≤ p.getIpTotLength.toNat) (ho : p.Covered o)
    (hcheck : o ≠ 36) :
    IPPacket.wordAt p.checkedBytes p.getIpTotLength.toNat (checkedPosition o) = p.coveredWord o := by
  obtain ⟨heven, hrange⟩ := ho
  unfold coveredWord checkedPosition IPPacket.wordAt
  by_cases h8 : o = 8
  · obtain ⟨h₁, h₂⟩ := checkedBytes_protocol (p := p)
    rw [if_pos h8, if_pos h8, if_neg (by omega), littleEndian_toNat, h₁, h₂]
    simp
  by_cases h20 : o < 20
  · rw [if_neg h8, if_neg h8, if_pos h20, if_neg (by omega), if_neg (by omega), littleEndian_toNat, littleEndian_toNat,
      checkedBytes_address (by omega) (by omega), show o - 4 + 1 = o + 1 - 4 by omega,
      checkedBytes_address (by omega) (by omega)]
  · have hfirst : p.checkedBytes o = p.payload o := checkedBytes_of_ne (by omega) (by omega) (by omega)
    have hsecond : p.checkedBytes (o + 1) = p.payload (o + 1) := checkedBytes_of_ne (by omega) (by omega) (by omega)
    rw [if_neg h8, if_neg h8, if_neg h20, hfirst, littleEndian_toNat, littleEndian_toNat, hfirst, hsecond]

/-- The same packet with other bytes in the buffer. -/
def withPayload (p : WirePacket) (m : Nat → UInt8) : WirePacket := { p with payload := m }

variable {m : Nat → UInt8} {o : Nat}

/-- A change of a covered word changes no other byte that is added up. -/
theorem checkedBytes_change (htcp : p.tcp = 20) (ho : p.Covered o) (h : ∀ i, i ≠ o → i ≠ o + 1 → m i = p.payload i)
    (hi : i ≠ checkedPosition o) (hi' : i ≠ checkedPosition o + 1) :
    (p.withPayload m).checkedBytes i = p.checkedBytes i := by
  obtain ⟨heven, hrange⟩ := ho
  obtain ⟨q, hq, hcases⟩ : ∃ q, checkedPosition o = q ∧
      ((o = 8 ∧ q = 16) ∨ (12 ≤ o ∧ o < 20 ∧ q = o - 4) ∨ (20 ≤ o ∧ q = o)) := by
    refine ⟨_, rfl, ?_⟩
    unfold checkedPosition
    split
    · omega
    · split <;> omega
  rw [hq] at hi hi'
  have htot : (p.withPayload m).getIpTotLength = p.getIpTotLength :=
    bigEndian_congr (h 2 (by omega) (by omega)) (h 3 (by omega) (by omega))
  have hihl : (p.withPayload m).getIpHeaderLengthBytes = p.getIpHeaderLengthBytes := by
    show (m 0).toNat % 16 * 4 = (p.payload 0).toNat % 16 * 4
    rw [h 0 (by omega) (by omega)]
  by_cases h8 : i < 8
  · have hleft (q : WirePacket) (hq : q.tcp = 20) : q.checkedBytes i = q.payload i := by
      have hwrite : q.checkedBytes i = (q.setTcpChecksum 0).payload i := write_of_not_mem (.inl h8)
      rw [hwrite, setTcpChecksum_of_lt 0 (by omega)]
    rw [hleft p htcp, hleft (p.withPayload m) htcp]
    exact h i (by omega) (by omega)
  by_cases h20 : i < 20
  · have hlength : (p.withPayload m).nextLength = p.nextLength := by
      unfold IPPacket.nextLength
      rw [htot, hihl]
    rw [checkedBytes_pseudo (by omega) h20, checkedBytes_pseudo (by omega) h20, pseudoHeader_eq, pseudoHeader_eq,
      hlength]
    have hbyte (j : Nat) (hj : j ≠ o) (hj' : j ≠ o + 1) : (p.withPayload m).payload j = p.payload j := h j hj hj'
    interval_cases i
    case «16» | «18» | «19» => rfl
    all_goals
      simp only [List.cons_append, List.nil_append, Nat.reduceSub, List.getD_cons_succ, List.getD_cons_zero]
      exact hbyte _ (by omega) (by omega)
  · rw [checkedBytes_segment (by omega), checkedBytes_segment (by omega), payload_setTcpChecksum,
      payload_setTcpChecksum]
    show write m (p.tcp + 16) (littleEndianBytes 0) i = write p.payload (p.tcp + 16) (littleEndianBytes 0) i
    by_cases hsum : p.tcp + 16 ≤ i ∧ i < p.tcp + 16 + (littleEndianBytes 0).length
    · rw [write_of_mem hsum.1 hsum.2, write_of_mem hsum.1 hsum.2]
    · rw [write_of_not_mem (by omega), write_of_not_mem (by omega)]
      exact h i (by omega) (by omega)

/-- The checksum that is computed does not depend on what the checksum field holds. -/
theorem computedTcpChecksum_field (htcp : p.tcp = 20) (h : ∀ i, i ≠ 36 → i ≠ 36 + 1 → m i = p.payload i) :
    (p.withPayload m).computedTcpChecksum = p.computedTcpChecksum := by
  have hzero : (p.withPayload m).setTcpChecksum 0 = p.setTcpChecksum 0 := by
    show ({ p with payload := write m (p.tcp + 16) (littleEndianBytes 0) } : WirePacket) =
      { p with payload := write p.payload (p.tcp + 16) (littleEndianBytes 0) }
    congr 2
    funext i
    by_cases hsum : p.tcp + 16 ≤ i ∧ i < p.tcp + 16 + (littleEndianBytes 0).length
    · rw [write_of_mem hsum.1 hsum.2, write_of_mem hsum.1 hsum.2]
    · rw [write_of_not_mem (by omega), write_of_not_mem (by omega)]
      have hlen := length_littleEndianBytes 0
      exact h i (by omega) (by omega)
  unfold computedTcpChecksum
  rw [hzero]

/-- A covered word is one of the words that are added up. -/
theorem Covered.checkedPosition (ho : p.Covered o) (htot : 20 ≤ p.getIpTotLength.toNat) :
    ∃ k, WirePacket.checkedPosition o = 8 + 2 * k ∧ 2 * k < p.getIpTotLength.toNat - 8 := by
  obtain ⟨heven, hrange⟩ := ho
  obtain ⟨k, hk⟩ : ∃ k, WirePacket.checkedPosition o = 8 + 2 * k := by
    unfold WirePacket.checkedPosition
    split
    · exact ⟨4, rfl⟩
    · split
      · exact ⟨(o - 12) / 2, by omega⟩
      · exact ⟨(o - 8) / 2, by omega⟩
  refine ⟨k, hk, ?_⟩
  unfold WirePacket.checkedPosition at hk
  split at hk
  · omega
  · split at hk <;> omega

/-- Another checksum in the field than the one that was right is found. -/
theorem isValidTcpChecksum_field (htcp : p.tcp = 20) (htot' : (p.withPayload m).getIpTotLength = p.getIpTotLength)
    (h : ∀ i, i ≠ 36 → i ≠ 36 + 1 → m i = p.payload i) (hword : (p.withPayload m).coveredWord 36 ≠ p.coveredWord 36)
    (hvalid : p.getTcpChecksum = p.computedTcpChecksum) :
    (p.withPayload m).getTcpChecksum ≠ (p.withPayload m).computedTcpChecksum := by
  rw [computedTcpChecksum_field htcp h, ← hvalid]
  intro heq
  have hbytes : m 36 = p.payload 36 ∧ m 37 = p.payload 37 := by
    have heq : littleEndian m (p.tcp + 16) = littleEndian p.payload (p.tcp + 16) := heq
    rw [htcp] at heq
    exact littleEndian_inj.1 heq
  refine hword ?_
  unfold coveredWord IPPacket.wordAt
  rw [htot']
  show (if 36 = 8 then _ else if 36 + 1 = p.getIpTotLength.toNat then (m 36).toNat else (littleEndian m 36).toNat) = _
  rw [hbytes.1, littleEndian_congr hbytes.1 hbytes.2]
  rfl

/-- Changing another covered word changes the checksum that is computed, unless the sum stays the same. -/
theorem computedTcpChecksum_change (htcp : p.tcp = 20) (hihl : p.getIpHeaderLengthWords = 5)
    (hihl' : (p.withPayload m).getIpHeaderLengthWords = 5) (htot : 20 ≤ p.getIpTotLength.toNat)
    (htot' : (p.withPayload m).getIpTotLength = p.getIpTotLength) (ho : p.Covered o) (hcheck : o ≠ 36)
    (h : ∀ i, i ≠ o → i ≠ o + 1 → m i = p.payload i)
    (hword : ¬(p.withPayload m).coveredWord o ≡ p.coveredWord o [MOD 65535]) :
    p.computedTcpChecksum ≠ (p.withPayload m).computedTcpChecksum := by
  rw [computedTcpChecksum_eq htcp hihl htot, computedTcpChecksum_eq (p := p.withPayload m) htcp hihl'
    (htot'.symm ▸ htot), htot']
  have hword₁ := wordAt_checkedBytes htcp htot ho hcheck
  have hword₂ := wordAt_checkedBytes (p := p.withPayload m) htcp (htot'.symm ▸ htot) (by
    unfold Covered
    rw [htot']
    exact ho) hcheck
  rw [htot'] at hword₂
  obtain ⟨k, hk, hlt⟩ := ho.checkedPosition htot
  have hchange := @IPPacket.total_words_change p.checkedBytes (p.withPayload m).checkedBytes 8 _ k hlt
    fun i hi hi' => checkedBytes_change htcp ho h (by rw [hk]; exact hi) (by rw [hk]; exact hi')
  rw [show 8 + (p.getIpTotLength.toNat - 8) = p.getIpTotLength.toNat by omega, ← hk, hword₁, hword₂] at hchange
  refine checksum_ne fun htotal => hword ?_
  have hmod : total (IPPacket.words (p.withPayload m).checkedBytes 8 (p.getIpTotLength.toNat - 8)) +
      p.coveredWord o ≡ total (IPPacket.words (p.withPayload m).checkedBytes 8 (p.getIpTotLength.toNat - 8)) +
      (p.withPayload m).coveredWord o [MOD 65535] := by
    rw [hchange]
    exact htotal.add_right _
  exact (Nat.ModEq.add_left_cancel' _ hmod).symm

/-- A change of a covered word to a value that is not the same modulo 65535 is found. -/
theorem isValidTcpChecksum_change (htcp : p.tcp = 20) (hihl : p.getIpHeaderLengthWords = 5)
    (htot : 20 ≤ p.getIpTotLength.toNat) (ho : p.Covered o) (h : ∀ i, i ≠ o → i ≠ o + 1 → m i = p.payload i)
    (hword : ¬(p.withPayload m).coveredWord o ≡ p.coveredWord o [MOD 65535]) (hvalid : p.isValidTcpChecksum.1 = true) :
    (p.withPayload m).isValidTcpChecksum.1 = false := by
  have ⟨heven, hrange⟩ := ho
  have htot' : (p.withPayload m).getIpTotLength = p.getIpTotLength :=
    bigEndian_congr (h 2 (by omega) (by omega)) (h 3 (by omega) (by omega))
  have hihl' : (p.withPayload m).getIpHeaderLengthWords = 5 := by
    rw [← hihl]
    show (m 0).toNat % 16 = (p.payload 0).toNat % 16
    rw [h 0 (by omega) (by omega)]
  rw [isValidTcpChecksum_fst, beq_iff_eq] at hvalid
  rw [isValidTcpChecksum_fst, beq_eq_false_iff_ne]
  by_cases hcheck : o = 36
  · subst hcheck
    exact isValidTcpChecksum_field htcp htot' h (fun heq => hword (by rw [heq])) hvalid
  · have hsum : (p.withPayload m).getTcpChecksum = p.getTcpChecksum := by
      have hfirst : m (p.tcp + 16) = p.payload (p.tcp + 16) := h _ (by omega) (by omega)
      have hsecond : m (p.tcp + 16 + 1) = p.payload (p.tcp + 16 + 1) := h _ (by omega) (by omega)
      exact littleEndian_congr hfirst hsecond
    rw [hsum, hvalid]
    exact computedTcpChecksum_change htcp hihl hihl' htot htot' ho hcheck h hword

/-! ### What validating leaves behind -/

/-- The bytes of the IP options that the pseudo header is written over, the checksum field apart, are those of the pseudo
header already. -/
def PseudoHeaderFits (p : WirePacket) : Prop :=
  ∀ i < p.getNextHeader, 20 ≤ i → p.getNextHeader ≤ i + 12 → i ≠ p.tcp + 16 → i ≠ p.tcp + 17 →
    p.payload i = p.pseudoHeader.getD (i - (p.getNextHeader - 12)) 0

instance (p : WirePacket) : Decidable p.PseudoHeaderFits := inferInstanceAs (Decidable (∀ i < p.getNextHeader, _))

/-- Behind the first twenty bytes validating leaves the pseudo header. -/
theorem isValidTcpChecksum_payload (htcp : 4 ≤ p.tcp) (hihl : 5 ≤ p.getIpHeaderLengthWords) (i : Nat) :
    p.isValidTcpChecksum.2.payload i =
      if 20 ≤ i ∧ i < p.getNextHeader ∧ p.getNextHeader ≤ i + 12 ∧ i ≠ p.tcp + 16 ∧ i ≠ p.tcp + 17 then
        p.pseudoHeader.getD (i - (p.getNextHeader - 12)) 0
      else p.payload i := by
  have hpayload : p.isValidTcpChecksum.2.payload = write (p.setTcpChecksum 0).computeNextChecksum.2.payload (p.tcp + 16)
      (littleEndianBytes (littleEndian p.payload (p.tcp + 16))) := by
    show write (write (p.setTcpChecksum 0).computeNextChecksum.2.payload (p.tcp + 16) (littleEndianBytes _)) (p.tcp + 16)
      (littleEndianBytes (littleEndian p.payload (p.tcp + 16))) = _
    rw [write_littleEndian_twice]
  have hsame (j : Nat) (hj : j < 20) : (p.setTcpChecksum 0).payload j = p.payload j :=
    setTcpChecksum_of_lt 0 (by omega)
  have hnext : (p.setTcpChecksum 0).getNextHeader = p.getNextHeader := by
    show (p.setTcpChecksum 0).getIpHeaderLengthWords * 4 = p.getIpHeaderLengthWords * 4
    rw [getIpHeaderLengthWords_setTcpChecksum]
  have hle : 20 ≤ p.getNextHeader := by
    show 20 ≤ p.getIpHeaderLengthWords * 4
    omega
  rw [hpayload, littleEndianBytes_eq]
  by_cases hsum : p.tcp + 16 ≤ i ∧ i < p.tcp + 16 + 2
  · rw [write_of_mem hsum.1 (by simpa using hsum.2), if_neg (by omega), List.getD_eq_getElem _ _ (by simp; omega),
      Slice.getElem_slice]
    show p.payload (p.tcp + 16 + (i - (p.tcp + 16))) = p.payload i
    rw [Nat.add_sub_cancel' hsum.1]
  · have hkeep : (p.setTcpChecksum 0).payload i = p.payload i := write_of_not_mem (by simp; omega)
    rw [write_of_not_mem (by simp; omega), IPPacket.computeNextChecksum_payload, IPPacket.pseudoHeader_congr hsame, hnext]
    by_cases h20 : i < 20
    · rw [if_pos h20, if_neg (by omega), hkeep]
    · rw [if_neg h20]
      by_cases hmem : p.getNextHeader - 12 ≤ i ∧ i < p.getNextHeader
      · rw [write_of_mem hmem.1 (by simp; omega), if_pos (by omega)]
      · rw [write_of_not_mem (by simp; omega), if_neg (by omega), hkeep]

end

/-- Every buffer has the one's-complement checksum of its words; a packet with an IP header of twenty bytes validates
after its checksum has been set; and when one covered word of a valid packet is changed to a value that is not the same
modulo 65535, the packet does not validate. -/
theorem checksum_correct :
    (∀ (m : Nat → UInt8) (ptr : Nat) (len : BitVec 16),
      IPPacket.checksum m ptr len = OnesComplement.checksum (IPPacket.words m ptr len.toNat)) ∧
    (∀ p : WirePacket, p.getIpHeaderLengthWords = 5 → p.calculateAndSetTcpChecksum.isValidTcpChecksum.1 = true) ∧
    ∀ (p : WirePacket) (m : Nat → UInt8) (o : Nat), p.tcp = 20 → p.getIpHeaderLengthWords = 5 →
      20 ≤ p.getIpTotLength.toNat → p.Covered o → (∀ i, i ≠ o → i ≠ o + 1 → m i = p.payload i) →
      ¬(p.withPayload m).coveredWord o ≡ p.coveredWord o [MOD 65535] → p.isValidTcpChecksum.1 = true →
      (p.withPayload m).isValidTcpChecksum.1 = false :=
  ⟨IPPacket.checksum_eq, fun _ h => isValidTcpChecksum_calculated h,
    fun _ _ _ htcp hihl htot ho h hword hvalid => isValidTcpChecksum_change htcp hihl htot ho h hword hvalid⟩

/-- A segment without data, the checksum set. -/
def plainSegment : List UInt8 :=
  [0x45, 0, 0, 40, 0, 0, 0, 0, 65, 6, 0, 0, 192, 168, 0, 1, 192, 168, 0, 2,
    0, 80, 0, 81, 0, 0, 0, 9, 0, 0, 0, 7, 0x50, 16, 4, 0, 0x29, 0xd0, 0, 0]

theorem checksum_correct_plainSegment :
    IPPacket.checksum (receive (fun _ => 0) plainSegment).payload 20 5 =
      OnesComplement.checksum (IPPacket.words (receive (fun _ => 0) plainSegment).payload 20 5) ∧
    (receive (fun _ => 0) plainSegment).calculateAndSetTcpChecksum.isValidTcpChecksum.1 = true ∧
    ((receive (fun _ => 0) plainSegment).withPayload
      (write (receive (fun _ => 0) plainSegment).payload 20 [0, 81])).isValidTcpChecksum.1 = false :=
  ⟨checksum_correct.1 _ 20 5, checksum_correct.2.1 _ (by decide +kernel),
    checksum_correct.2.2 _ _ 20 (receive_tcp _ _) (by decide +kernel) (by decide +kernel) (by decide +kernel)
      (fun i h₁ h₂ => write_of_not_mem (by simp; omega)) (by decide +kernel) (by decide +kernel)⟩

/-- Validating the checksums of a received packet leaves all its bytes as they are exactly when the pseudo header fits the
IP options that it is written over. -/
theorem validation_frame (memory : Nat → UInt8) (bytes : List UInt8)
    (hihl : 5 ≤ (receive memory bytes).getIpHeaderLengthWords) :
    ((receive memory bytes).isValidTcpChecksum.2.payload = (receive memory bytes).payload ∧
      (receive memory bytes).isValidIpChecksum.2.payload = (receive memory bytes).payload) ↔
    (receive memory bytes).PseudoHeaderFits := by
  have htcp := receive_tcp memory bytes
  generalize receive memory bytes = p at hihl htcp
  constructor
  · rintro ⟨h, -⟩ i hi h20 hle h₁ h₂
    have hi' := congrFun h i
    rw [isValidTcpChecksum_payload (by omega) hihl, if_pos ⟨h20, hi, hle, h₁, h₂⟩] at hi'
    exact hi'.symm
  · intro hfits
    refine ⟨funext fun i => ?_, IPPacket.isValidIpChecksum_payload p.toIPPacket⟩
    rw [isValidTcpChecksum_payload (by omega) hihl]
    split
    · rename_i hi
      obtain ⟨h20, hi, hle, h₁, h₂⟩ := hi
      exact (hfits i hi h20 hle h₁ h₂).symm
    · rfl

theorem validation_frame_plainSegment :
    (receive (fun _ => 0) plainSegment).isValidTcpChecksum.2.payload = (receive (fun _ => 0) plainSegment).payload :=
  ((validation_frame (fun _ => 0) plainSegment (by decide +kernel)).2 (by decide +kernel)).1

/-- A segment behind an IP header of six words, whose option is three times "no operation" and "end of options". -/
def optionSegment : List UInt8 :=
  [0x46, 0, 0, 44, 0, 0, 0, 0, 65, 6, 0, 0, 192, 168, 0, 1, 192, 168, 0, 2, 1, 1, 1, 0,
    0, 80, 0, 81, 0, 0, 0, 9, 0, 0, 0, 7, 0x50, 16, 4, 0, 0, 0, 0, 0]

/-- The third word of the pseudo header is left in the place of the IP option. -/
theorem validation_leaves_pseudoHeader :
    (receive (fun _ => 0) optionSegment).getIpHeaderLengthWords = 6 ∧
    (receive (fun _ => 0) optionSegment).getIpTotLength = 44 ∧
    Slice.slice (receive (fun _ => 0) optionSegment).payload 20 4 = [1, 1, 1, 0] ∧
    Slice.slice (receive (fun _ => 0) optionSegment).isValidTcpChecksum.2.payload 20 4 = [0, 6, 0, 20] := by
  decide +kernel

end WirePacket

end Wifu
