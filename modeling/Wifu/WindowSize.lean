import Wifu.PacketBuffer

/-!
# The byte count of the receive window

`windowSize` is the count that `size` computes.  `insert` returns the growth of the count, and `get_continuous_data`
appends as many bytes as the count loses.  Nothing is assumed about the order of the packets in the buffer.
-/

namespace Wifu

namespace TCPPacketBuffer

/-- The number of bytes that `size` computes. -/
def windowSize (b : TCPPacketBuffer) : Int := sizeLoop b.firstExpectedSequenceNumber b.buffer

/-- The buffer holds packets with data only, and the cached count is not stale. -/
structure Counted (b : TCPPacketBuffer) : Prop where
  data : ∀ p ∈ b.buffer, 0 < p.dataLengthBytes
  cached : b.cachedSize < 0 ∨ b.cachedSize = b.windowSize

/-! ### Placement -/

theorem toInt_dist {a b : BitVec 32} (h : Serial.dist a b < 2147483648) :
    (b - a).toInt = Serial.dist a b := by
  unfold Serial.dist at h ⊢
  rw [BitVec.toInt_eq_toNat_of_lt (by omega)]

private theorem dist_dataEnd (p : TCPPacket) (h : 0 < p.dataLengthBytes) :
    Serial.dist p.sequenceNumber (p.sequenceNumber + BitVec.ofInt 32 p.dataLengthBytes) =
      p.dataLengthBytes.toNat := by
  obtain ⟨n, hn⟩ := Int.eq_ofNat_of_zero_le (Int.le_of_lt h)
  have hlt := p.dataLengthBytes_lt
  rw [hn] at hlt ⊢
  rw [BitVec.ofInt_natCast]
  exact Serial.dist_add_ofNat _ (by omega)

/-- A packet overlaps the current number when that lies strictly inside it. -/
theorem placement_overlap {s : BitVec 32} {p : TCPPacket} (hp : 0 < p.dataLengthBytes)
    (h : placement s p = .overlap) :
    0 < difference s p ∧ difference s p < p.dataLengthBytes ∧
      difference s p = Serial.dist p.sequenceNumber s := by
  have hend := dist_dataEnd p hp
  have hlt := p.dataLengthBytes_lt
  unfold placement at h
  split at h
  · cases h
  · split at h
    · rename_i hb
      rw [between_iff (by omega)] at hb
      have := toInt_dist (a := p.sequenceNumber) (b := s) (by omega)
      unfold difference
      omega
    · split at h <;> cases h

/-! ### Counting -/

section Walk

variable {s : BitVec 32} {p : TCPPacket} {ps : List TCPPacket}

private theorem sizeLoop_equal (h : placement s p = .equal) : sizeLoop s (p :: ps) =
    p.dataLengthBytes + sizeLoop (s + BitVec.ofInt 32 p.dataLengthBytes) ps := by
  simp only [sizeLoop, h]

private theorem sizeLoop_overlap (h : placement s p = .overlap) : sizeLoop s (p :: ps) =
    p.dataLengthBytes - difference s p +
      sizeLoop (s + BitVec.ofInt 32 (p.dataLengthBytes - difference s p)) ps := by
  simp only [sizeLoop, h]

private theorem sizeLoop_past (h : placement s p = .past) : sizeLoop s (p :: ps) = sizeLoop s ps := by
  simp only [sizeLoop, h]

private theorem sizeLoop_gap (h : placement s p = .gap) : sizeLoop s (p :: ps) =
    p.dataLengthBytes + sizeLoop (p.sequenceNumber + BitVec.ofInt 32 p.dataLengthBytes) ps := by
  simp only [sizeLoop, h]

private theorem continuousLoop_equal (h : placement s p = .equal) : continuousLoop s (p :: ps) =
    (p.data ++ (continuousLoop (s + BitVec.ofInt 32 p.dataLengthBytes) ps).1,
      (continuousLoop (s + BitVec.ofInt 32 p.dataLengthBytes) ps).2) := by
  simp only [continuousLoop, h]

private theorem continuousLoop_overlap (h : placement s p = .overlap) : continuousLoop s (p :: ps) =
    (p.data.drop (difference s p).toNat ++
        (continuousLoop (s + BitVec.ofInt 32 (p.dataLengthBytes - difference s p)) ps).1,
      (continuousLoop (s + BitVec.ofInt 32 (p.dataLengthBytes - difference s p)) ps).2) := by
  simp only [continuousLoop, h]

private theorem continuousLoop_past (h : placement s p = .past) :
    continuousLoop s (p :: ps) = continuousLoop s ps := by
  simp only [continuousLoop, h]

private theorem continuousLoop_gap (h : placement s p = .gap) :
    continuousLoop s (p :: ps) = ([], s, p :: ps) := by
  simp only [continuousLoop, h]

end Walk

theorem sizeLoop_nonneg (l : List TCPPacket) (hl : ∀ p ∈ l, 0 < p.dataLengthBytes) (s : BitVec 32) :
    0 ≤ sizeLoop s l := by
  induction l generalizing s with
  | nil => exact Int.le_refl 0
  | cons p ps ih =>
    have hp := hl p (by simp)
    have ih := fun s => ih (fun q hq => hl q (by simp [hq])) s
    cases h : placement s p with
    | equal =>
      have := ih (s + BitVec.ofInt 32 p.dataLengthBytes)
      rw [sizeLoop_equal h]
      omega
    | overlap =>
      have hd := placement_overlap hp h
      have := ih (s + BitVec.ofInt 32 (p.dataLengthBytes - difference s p))
      rw [sizeLoop_overlap h]
      omega
    | past =>
      rw [sizeLoop_past h]
      exact ih s
    | gap =>
      have := ih (p.sequenceNumber + BitVec.ofInt 32 p.dataLengthBytes)
      rw [sizeLoop_gap h]
      omega

/-- The walk of `get_continuous_data` takes out as many bytes as the count loses. -/
theorem sizeLoop_continuousLoop (l : List TCPPacket) (hl : ∀ p ∈ l, 0 < p.dataLengthBytes) (s : BitVec 32) :
    sizeLoop s l = (continuousLoop s l).1.length + sizeLoop (continuousLoop s l).2.1 (continuousLoop s l).2.2 := by
  induction l generalizing s with
  | nil => rfl
  | cons p ps ih =>
    have hp := hl p (by simp)
    have ih := fun s => ih (fun q hq => hl q (by simp [hq])) s
    have hlen := p.length_data
    cases h : placement s p with
    | equal =>
      rw [sizeLoop_equal h, continuousLoop_equal h, ih]
      simp only [List.length_append]
      omega
    | overlap =>
      have hd := placement_overlap hp h
      rw [sizeLoop_overlap h, continuousLoop_overlap h, ih]
      simp only [List.length_append, List.length_drop]
      omega
    | past =>
      rw [sizeLoop_past h, continuousLoop_past h]
      exact ih s
    | gap =>
      rw [continuousLoop_gap h]
      simp

/-- The walk moves the sequence number by the number of bytes it takes out. -/
theorem continuousLoop_number (l : List TCPPacket) (hl : ∀ p ∈ l, 0 < p.dataLengthBytes) (s : BitVec 32) :
    (continuousLoop s l).2.1 = s + BitVec.ofNat 32 (continuousLoop s l).1.length := by
  induction l generalizing s with
  | nil => simp [continuousLoop]
  | cons p ps ih =>
    have hp := hl p (by simp)
    have ih := fun s => ih (fun q hq => hl q (by simp [hq])) s
    have hlen := p.length_data
    cases h : placement s p with
    | equal =>
      have hnat : BitVec.ofInt 32 p.dataLengthBytes = BitVec.ofNat 32 p.data.length := by
        rw [← BitVec.ofInt_natCast]
        congr 1
        omega
      rw [continuousLoop_equal h]
      simp only
      rw [ih, List.length_append, ← Serial.ofNat_add_ofNat, ← BitVec.add_assoc, hnat]
    | overlap =>
      have hd := placement_overlap hp h
      have hnat : BitVec.ofInt 32 (p.dataLengthBytes - difference s p) =
          BitVec.ofNat 32 (p.data.length - (difference s p).toNat) := by
        rw [← BitVec.ofInt_natCast]
        congr 1
        omega
      rw [continuousLoop_overlap h]
      simp only
      rw [ih, List.length_append, ← Serial.ofNat_add_ofNat, ← BitVec.add_assoc, List.length_drop, hnat]
    | past =>
      rw [continuousLoop_past h]
      exact ih s
    | gap =>
      rw [continuousLoop_gap h]
      simp

theorem continuousLoop_suffix (l : List TCPPacket) (s : BitVec 32) : (continuousLoop s l).2.2 <:+ l := by
  induction l generalizing s with
  | nil => exact List.suffix_refl []
  | cons p ps ih =>
    unfold continuousLoop
    split
    · exact (ih _).trans (List.suffix_cons p ps)
    · exact (ih _).trans (List.suffix_cons p ps)
    · exact (ih _).trans (List.suffix_cons p ps)
    · exact List.suffix_refl _

theorem Counted.sized {b : TCPPacketBuffer} (h : b.Counted) :
    b.sized = { b with cachedSize := b.windowSize } := by
  unfold TCPPacketBuffer.sized
  split
  · rcases h.cached with h | h
    · omega
    · rw [← h]
  · rfl

private theorem mem_eraseIdx_insertIdx {l : List TCPPacket} {i j : Nat} {p q : TCPPacket}
    (h : q ∈ (l.insertIdx i p).eraseIdx j) : q ∈ l ∨ q = p := by
  have h := List.mem_of_mem_eraseIdx h
  rcases Nat.lt_or_ge l.length i with hi | hi
  · rw [List.insertIdx_of_length_lt hi] at h
    exact .inl h
  · rcases (List.mem_insertIdx hi).1 h with h | h
    · exact .inr h
    · exact .inl h

theorem mem_place {b : TCPPacketBuffer} {p q : TCPPacket} (h : q ∈ b.place p) : q ∈ b.buffer ∨ q = p := by
  unfold place at h
  split at h
  · split at h
    · exact mem_eraseIdx_insertIdx h
    · exact mem_eraseIdx_insertIdx h
  · have hle : b.position p ≤ b.buffer.length := Search.lowerBound_le _ _
    rcases (List.mem_insertIdx hle).1 h with h | h
    · exact .inr h
    · exact .inl h

private theorem sized_markDirty (b : TCPPacketBuffer) :
    b.markDirty.sized = { b with cachedSize := sizeLoop b.firstExpectedSequenceNumber b.buffer } := by
  unfold markDirty TCPPacketBuffer.sized
  rw [if_neg (by simp)]

/-- What `insert` does: the count of the list with the packet is compared with the count before. -/
theorem insert_eq {b : TCPPacketBuffer} (hb : b.sized = { b with cachedSize := b.windowSize }) (p : TCPPacket)
    (hs : b.started = true) :
    b.insert p =
      if sizeLoop b.firstExpectedSequenceNumber (b.place p) < b.windowSize then .error .negativeInsert
      else if sizeLoop b.firstExpectedSequenceNumber (b.place p) = b.windowSize ∧ b.found p = none then
        .ok (0, { b with cachedSize := b.windowSize })
      else .ok (sizeLoop b.firstExpectedSequenceNumber (b.place p) - b.windowSize,
        { b with
          buffer := b.place p
          cachedSize := sizeLoop b.firstExpectedSequenceNumber (b.place p) }) := by
  have hle : b.position p ≤ b.buffer.length := Search.lowerBound_le _ _
  have hc : check b.started .notStarted = .ok () := by rw [hs]; rfl
  have hplace (n : Int) : ({ b with cachedSize := n } : TCPPacketBuffer).place p = b.place p := rfl
  have hfound (n : Int) : ({ b with cachedSize := n } : TCPPacketBuffer).found p = b.found p := rfl
  have hposition (n : Int) : ({ b with cachedSize := n } : TCPPacketBuffer).position p = b.position p := rfl
  unfold insert
  rw [hb, hc]
  simp only [sized_markDirty, hplace, hfound, hposition, bind, Except.bind]
  by_cases hlt : sizeLoop b.firstExpectedSequenceNumber (b.place p) < b.windowSize
  · rw [if_pos hlt, check, if_neg (by simp; omega)]
  · rw [if_neg hlt, check, if_pos (by simp; omega)]
    simp only
    by_cases hz : sizeLoop b.firstExpectedSequenceNumber (b.place p) = b.windowSize ∧ b.found p = none
    · have hins : b.place p = b.buffer.insertIdx (b.position p) p := by
        unfold place
        rw [hz.2]
      rw [if_pos hz, if_pos ⟨by omega, hz.2⟩, hz.1, hins, List.eraseIdx_insertIdx_self]
      simp
    · rw [if_neg hz, if_neg (fun h => hz ⟨by omega, h.2⟩)]

/-- After `insert` the count has grown by the number it returns. -/
theorem Counted.insert {b b' : TCPPacketBuffer} {p : TCPPacket} {n : Int} (hb : b.Counted)
    (hp : 0 < p.dataLengthBytes) (h : b.insert p = .ok (n, b')) :
    b'.Counted ∧ 0 ≤ n ∧ b'.windowSize = b.windowSize + n ∧ b.started = true ∧ b'.started = true ∧
      b'.firstExpectedSequenceNumber = b.firstExpectedSequenceNumber := by
  have hs : b.started = true := by
    unfold TCPPacketBuffer.insert at h
    obtain ⟨_, h, -⟩ := bind_eq_ok.1 h
    exact check_eq_ok.1 h
  rw [insert_eq hb.sized p hs] at h
  split at h
  · cases h
  · rename_i hlt
    split at h
    · cases h
      exact ⟨⟨hb.data, .inr rfl⟩, Int.le_refl 0, (Int.add_zero _).symm, hs, hs, rfl⟩
    · cases h
      refine ⟨⟨?_, .inr rfl⟩, by omega, ?_, hs, hs, rfl⟩
      · intro q hq
        rcases mem_place hq with hq | rfl
        · exact hb.data q hq
        · exact hp
      · unfold windowSize at hlt ⊢
        simp only
        omega

/-- After `get_continuous_data` the count has lost the bytes appended. -/
theorem Counted.getContinuousData {b b' : TCPPacketBuffer} {s : BitVec 32} {l : List UInt8} (hb : b.Counted)
    (h : b.getContinuousData s = .ok (l, b')) :
    b'.Counted ∧ b.windowSize = l.length + b'.windowSize ∧ b'.started = true ∧
      (b.buffer ≠ [] → b.firstExpectedSequenceNumber = s) ∧
      b'.firstExpectedSequenceNumber = b.firstExpectedSequenceNumber + BitVec.ofNat 32 l.length := by
  unfold TCPPacketBuffer.getContinuousData at h
  obtain ⟨_, hs, h⟩ := bind_eq_ok.1 h
  have hs := check_eq_ok.1 hs
  split at h
  · rename_i hnil
    cases h
    exact ⟨hb, by simp, hs, fun h => absurd hnil h, by simp⟩
  · obtain ⟨_, hf, h⟩ := bind_eq_ok.1 h
    have hf : b.firstExpectedSequenceNumber = s := by simpa using check_eq_ok.1 hf
    cases h
    refine ⟨⟨fun q hq => hb.data q ((continuousLoop_suffix _ _).subset hq), .inl (by simp [markDirty])⟩, ?_, hs,
      fun _ => hf, ?_⟩
    · unfold windowSize
      rw [hf]
      exact sizeLoop_continuousLoop _ hb.data s
    · rw [hf]
      exact continuousLoop_number _ hb.data s

/-- `set_first_sequence_number` does not change the count of an empty buffer, nor one that starts there already. -/
theorem Counted.setFirstSequenceNumber {b : TCPPacketBuffer} {s : BitVec 32} (hb : b.Counted)
    (h : b.buffer = [] ∨ b.firstExpectedSequenceNumber = s) :
    (b.setFirstSequenceNumber s).Counted ∧ (b.setFirstSequenceNumber s).windowSize = b.windowSize := by
  have hsize : (b.setFirstSequenceNumber s).windowSize = b.windowSize := by
    unfold windowSize TCPPacketBuffer.setFirstSequenceNumber
    rcases h with h | h
    · simp only [h, sizeLoop]
    · rw [h]
  refine ⟨⟨hb.data, ?_⟩, hsize⟩
  rw [hsize]
  exact hb.cached

theorem Counted.nonneg {b : TCPPacketBuffer} (hb : b.Counted) : 0 ≤ b.windowSize :=
  sizeLoop_nonneg _ hb.data _

end TCPPacketBuffer

end Wifu
