import Wifu.WindowWalk
import Wifu.Lib.Transition

/-!
# Reassembly of a byte stream

A receive window is given slices of one byte stream, in any order and with any overlaps, and its continuous data is
taken out now and then.  A position `k` of the stream has the sequence number `s₀ + k`.  As long as each inserted
slice, the buffered packets and the first expected number lie within one stretch of the stream shorter than half the
sequence space, the bytes taken out are the longest part of the stream without a gap, and `insert` returns the number
of bytes it added (`reassembled`).
-/

namespace Wifu

/-- A receive window and what has gone in and come out. -/
structure Reassembly where
  window : TCPPacketBuffer
  /-- The bytes that `get_continuous_data` appended. -/
  delivered : List UInt8 := []
  /-- The sum of what `insert` returned. -/
  returned : Int := 0
  /-- The positions of the bytes in the slices that were inserted. -/
  received : Finset Nat := ∅
  deriving DecidableEq

namespace Reassembly

open TCPPacketBuffer (sizeLoop continuousLoop Walk Slices Facing insert_eq mem_place)
open Slice (slice)

inductive Input
  | insert (position : Nat) (p : TCPPacket)
  | getContinuousData

/-- The positions of the bytes of a slice. -/
def positions (a : Nat) (p : TCPPacket) : Finset Nat := Finset.Ico a (a + p.data.length)

def step : Input → Reassembly → Except Abort Reassembly
  | .insert a p, t => do
    let r ← t.window.insert p
    .ok { t with window := r.2, returned := t.returned + r.1, received := t.received ∪ positions a p }
  | .getContinuousData, t => do
    let r ← t.window.getContinuousData t.window.firstExpectedSequenceNumber
    .ok { t with window := r.2, delivered := t.delivered ++ r.1 }

def machine : Transition.Machine Reassembly Input Abort where
  enabled _ _ := True
  step := step

instance (i : Input) (t : Reassembly) : Decidable (machine.enabled i t) := .isTrue trivial

/-- A window that has just been given its first sequence number. -/
def start (s₀ : BitVec 32) : Reassembly where
  window := ({} : TCPPacketBuffer).setFirstSequenceNumber s₀

/-- The offset of a buffered packet from the first expected number. -/
def offset (t : Reassembly) (q : TCPPacket) : Int := q.offset t.window.firstExpectedSequenceNumber

/-- Where the first expected number, a slice at `a` and the buffered packets begin and end in the stream. -/
def spans (t : Reassembly) (a : Nat) (p : TCPPacket) : List (Int × Int) :=
  ((t.delivered.length : Int), (t.delivered.length : Int)) :: ((a : Int), (a : Int) + p.data.length) ::
    t.window.buffer.map fun q =>
      (t.delivered.length + t.offset q, t.delivered.length + t.offset q + q.data.length)

/-- They lie in one window shorter than half the sequence space. -/
def InWindow (t : Reassembly) (a : Nat) (p : TCPPacket) : Prop :=
  ∀ x ∈ t.spans a p, ∀ y ∈ t.spans a p, x.2 < y.1 + 2147483648

instance (t : Reassembly) (a : Nat) (p : TCPPacket) : Decidable (t.InWindow a p) :=
  inferInstanceAs (Decidable (∀ x ∈ t.spans a p, ∀ y ∈ t.spans a p, x.2 < y.1 + 2147483648))

/-- What may be inserted: a slice of the stream that is not empty, within the window. -/
def Allowed (stream : Nat → UInt8) (s₀ : BitVec 32) (t : Reassembly) : Input → Prop
  | .insert a p =>
    p.sequenceNumber = s₀ + BitVec.ofNat 32 a ∧ p.data ≠ [] ∧ p.data = slice stream a p.data.length ∧ t.InWindow a p
  | .getContinuousData => True

instance (stream : Nat → UInt8) (s₀ : BitVec 32) (t : Reassembly) (i : Input) :
    Decidable (Allowed stream s₀ t i) := by
  cases i with
  | insert a p => exact inferInstanceAs (Decidable (_ ∧ _ ∧ _ ∧ _))
  | getContinuousData => exact .isTrue trivial

/-- The byte at a position of the stream is one of a buffered packet. -/
def Buffered (s₀ : BitVec 32) (t : Reassembly) (k : Nat) : Prop :=
  ∃ q ∈ t.window.buffer, ∃ j < q.data.length, q.sequenceNumber + BitVec.ofNat 32 j = s₀ + BitVec.ofNat 32 k

instance (s₀ : BitVec 32) (t : Reassembly) (k : Nat) : Decidable (Buffered s₀ t k) :=
  inferInstanceAs (Decidable (∃ q ∈ t.window.buffer, ∃ j < q.data.length, _ = _))

/-- The number of bytes of a slice at or behind the first expected number that are not buffered. -/
def newBytes (s₀ : BitVec 32) (t : Reassembly) (a : Nat) (p : TCPPacket) : Nat :=
  ((positions a p).filter fun k => t.delivered.length ≤ k ∧ ¬Buffered s₀ t k).card

/-! ### The invariant -/

/-- The stream seen from the first expected number. -/
def ahead (stream : Nat → UInt8) (t : Reassembly) (k : Int) : UInt8 := stream (t.delivered.length + k).toNat

/-- A byte of a buffered packet, by its offset from the first expected number. -/
def Covers (t : Reassembly) (k : Int) : Prop :=
  ∃ q ∈ t.window.buffer, t.offset q ≤ k ∧ k < t.offset q + q.dataLengthBytes

structure Reassembled (stream : Nat → UInt8) (s₀ : BitVec 32) (t : Reassembly) : Prop where
  started : t.window.started = true
  counted : t.window.Counted
  number : t.window.firstExpectedSequenceNumber = s₀ + BitVec.ofNat 32 t.delivered.length
  walk : Walk t.window.firstExpectedSequenceNumber 0 t.window.buffer
  slices : Slices t.window.firstExpectedSequenceNumber (ahead stream t) t.window.buffer
  delivered : t.delivered = slice stream 0 t.delivered.length
  complete : ∀ k < t.delivered.length, k ∈ t.received
  pending : ∀ k, t.delivered.length ≤ k → (k ∈ t.received ↔ t.Covers ((k : Int) - t.delivered.length))
  balance : t.returned = t.delivered.length + t.window.windowSize

variable {stream : Nat → UInt8} {s₀ : BitVec 32} {t u : Reassembly} {a : Nat} {p : TCPPacket}

theorem start_reassembled : (start s₀).Reassembled stream s₀ where
  started := rfl
  counted := ⟨by simp [start, TCPPacketBuffer.setFirstSequenceNumber],
    .inl (by simp [start, TCPPacketBuffer.setFirstSequenceNumber])⟩
  number := by simp [start, TCPPacketBuffer.setFirstSequenceNumber]
  walk := ⟨by simp [start, TCPPacketBuffer.setFirstSequenceNumber],
    by simp [start, TCPPacketBuffer.setFirstSequenceNumber],
    by simp [start, TCPPacketBuffer.setFirstSequenceNumber],
    by simp [start, TCPPacketBuffer.setFirstSequenceNumber]⟩
  slices := by simp [Slices, start, TCPPacketBuffer.setFirstSequenceNumber]
  delivered := rfl
  complete := by simp [start]
  pending := by simp [Covers, start, TCPPacketBuffer.setFirstSequenceNumber]
  balance := rfl

theorem Reassembled.size (h : t.Reassembled stream s₀) : t.window.sized.cachedSize = t.window.windowSize := by
  rw [h.counted.sized]

/-! ### Inserting a slice -/

/-- The differences that `InWindow` bounds. -/
theorem InWindow.bounds (h : t.InWindow a p) :
    (t.delivered.length : Int) < a + 2147483648 ∧
      (a : Int) + p.data.length < t.delivered.length + 2147483648 ∧
      ∀ q ∈ t.window.buffer, (a : Int) + p.data.length < t.delivered.length + t.offset q + 2147483648 ∧
        t.delivered.length + t.offset q + q.data.length < a + 2147483648 := by
  have hd : ((t.delivered.length : Int), (t.delivered.length : Int)) ∈ t.spans a p := List.mem_cons_self
  have ha : ((a : Int), (a : Int) + p.data.length) ∈ t.spans a p := List.mem_cons_of_mem _ List.mem_cons_self
  have h1 := h _ hd _ ha
  have h2 := h _ ha _ hd
  refine ⟨h1, h2, fun q hq => ?_⟩
  have hq : (t.delivered.length + t.offset q, t.delivered.length + t.offset q + q.data.length) ∈ t.spans a p :=
    List.mem_cons_of_mem _ (List.mem_cons_of_mem _ (List.mem_map_of_mem hq))
  have h3 := h _ ha _ hq
  have h4 := h _ hq _ ha
  exact ⟨h3, h4⟩

section Insert

variable (h : t.Reassembled stream s₀) (hi : Allowed stream s₀ t (.insert a p))

include h in
/-- The sequence number of a position, seen from the first expected number. -/
theorem Reassembled.number_at (k : Nat) :
    s₀ + BitVec.ofNat 32 k =
      t.window.firstExpectedSequenceNumber + BitVec.ofInt 32 ((k : Int) - t.delivered.length) := by
  rw [h.number, ← BitVec.ofInt_natCast (n := t.delivered.length), add_ofInt_add_ofInt, add_sub_cancel,
    BitVec.ofInt_natCast]

include h hi in
/-- The slice lies where its position says. -/
theorem Reassembled.offset_eq : t.offset p = a - t.delivered.length := by
  obtain ⟨hseq, -, -, hw⟩ := hi
  obtain ⟨h1, h2, -⟩ := hw.bounds
  rw [h.number_at] at hseq
  unfold Reassembly.offset TCPPacket.offset
  rw [hseq]
  exact toInt_add_ofInt_sub (by omega) (by omega)

include h hi in
theorem Reassembled.facing : Facing t.window.firstExpectedSequenceNumber p t.window.buffer := by
  have hoff : p.offset t.window.firstExpectedSequenceNumber = _ := h.offset_eq hi
  obtain ⟨-, -, -, hw⟩ := hi
  obtain ⟨-, -, hq⟩ := hw.bounds
  unfold Reassembly.offset at hq
  refine ⟨h.walk.sorted, fun q hb => ?_, fun q hb => ?_⟩
  · have := (hq q hb).1
    omega
  · have := (hq q hb).2
    omega

include h hi in
theorem Reassembled.place_walk : Walk t.window.firstExpectedSequenceNumber 0 (t.window.place p) := by
  have hoff : p.offset t.window.firstExpectedSequenceNumber = _ := h.offset_eq hi
  have hsorted := (h.facing hi).place_sorted
  obtain ⟨-, hdata, -, hw⟩ := hi
  have hlen := p.length_data
  have hpos := List.length_pos_iff.2 hdata
  obtain ⟨h1, h2, -⟩ := hw.bounds
  refine ⟨fun q hq => ?_, hsorted, fun q hq => ?_, fun q hq => ?_⟩
  · rcases mem_place hq with hq | rfl
    · exact h.walk.data q hq
    · omega
  · rcases mem_place hq with hq | rfl
    · exact h.walk.close q hq
    · omega
  · rcases mem_place hq with hq | rfl
    · exact h.walk.far q hq
    · omega

include h hi in
theorem Reassembled.place_slices :
    Slices t.window.firstExpectedSequenceNumber (ahead stream t) (t.window.place p) := by
  have hoff : p.offset t.window.firstExpectedSequenceNumber = _ := h.offset_eq hi
  intro q hq
  rcases mem_place hq with hq | rfl
  · exact h.slices q hq
  · obtain ⟨-, -, hdata, -⟩ := hi
    rw [hoff]
    conv_lhs => rw [hdata]
    refine Slice.slice_congr fun k _ => ?_
    unfold ahead
    rw [Nat.cast_id]
    congr 1
    omega

/-- A byte of the stream is buffered when the interval of a packet has its offset. -/
theorem Reassembled.buffered_iff (h : t.Reassembled stream s₀) {k : Nat} (hk : t.delivered.length ≤ k)
    (hlt : k < t.delivered.length + 2147483648) : Buffered s₀ t k ↔ t.Covers ((k : Int) - t.delivered.length) := by
  unfold Buffered Covers
  refine exists_congr fun q => and_congr_right fun hq => ?_
  have h1 := h.walk.close q hq
  have h2 := h.walk.far q hq
  have hlen := q.length_data
  have hnumber (j : Nat) (hj : j < q.data.length) :
      q.sequenceNumber + BitVec.ofNat 32 j = s₀ + BitVec.ofNat 32 k ↔
        t.offset q + j = (k : Int) - t.delivered.length := by
    rw [h.number_at, q.sequenceNumber_eq t.window.firstExpectedSequenceNumber, ← BitVec.ofInt_natCast,
      add_ofInt_add_ofInt]
    exact add_ofInt_inj (by omega) (by omega)
  unfold Reassembly.offset at *
  constructor
  · rintro ⟨j, hj, heq⟩
    have := (hnumber j hj).1 heq
    omega
  · rintro ⟨hlo, hhi⟩
    obtain ⟨j, hj⟩ := Int.eq_ofNat_of_zero_le
      (show 0 ≤ (k : Int) - t.delivered.length - q.offset t.window.firstExpectedSequenceNumber by omega)
    exact ⟨j, by omega, (hnumber j (by omega)).2 (by omega)⟩

theorem covers_iff {k : Int} (hk : 0 ≤ k) :
    t.Covers k ↔ k ∈ Intervals.cover 0
      (t.window.buffer.map (TCPPacket.interval t.window.firstExpectedSequenceNumber)) := by
  rw [Intervals.mem_cover]
  simp only [List.mem_map, exists_exists_and_eq_and, TCPPacket.interval, Covers, Reassembly.offset, hk, true_and]

include h hi in
/-- The new bytes by their offsets from the first expected number. -/
theorem Reassembled.newBytes_eq : newBytes s₀ t a p =
    (Finset.Ico (max 0 (p.interval t.window.firstExpectedSequenceNumber).1)
      (p.interval t.window.firstExpectedSequenceNumber).2 \
        Intervals.cover 0 (t.window.buffer.map (TCPPacket.interval t.window.firstExpectedSequenceNumber))).card := by
  have hoff : p.offset t.window.firstExpectedSequenceNumber = _ := h.offset_eq hi
  obtain ⟨-, hdata, -, hw⟩ := hi
  have hlen := p.length_data
  have hpos := List.length_pos_iff.2 hdata
  obtain ⟨h1, h2, -⟩ := hw.bounds
  have hnew (k : Nat) (hk : t.delivered.length ≤ k) (hlt : k < a + p.data.length) : Buffered s₀ t k ↔
      (k : Int) - t.delivered.length ∈ Intervals.cover 0
        (t.window.buffer.map (TCPPacket.interval t.window.firstExpectedSequenceNumber)) := by
    rw [h.buffered_iff hk (by omega), covers_iff (by omega)]
  unfold newBytes
  refine Finset.card_bij (fun k _ => (k : Int) - t.delivered.length) (fun k hk => ?_) (fun k _ j _ hkj => by omega)
    (fun x hx => ?_)
  · simp only [positions, Finset.mem_filter, Finset.mem_Ico] at hk
    obtain ⟨⟨hlo, hhi⟩, hge, hout⟩ := hk
    rw [hnew k hge hhi] at hout
    simp only [TCPPacket.interval, Finset.mem_sdiff, Finset.mem_Ico, max_le_iff]
    exact ⟨⟨⟨by omega, by omega⟩, by omega⟩, hout⟩
  · simp only [TCPPacket.interval, Finset.mem_sdiff, Finset.mem_Ico, max_le_iff] at hx
    obtain ⟨⟨⟨h0, hlo⟩, hhi⟩, hout⟩ := hx
    obtain ⟨k, hk⟩ := Int.eq_ofNat_of_zero_le (show 0 ≤ x + t.delivered.length by omega)
    have hxk : (k : Int) - t.delivered.length = x := by omega
    refine ⟨k, ?_, hxk⟩
    simp only [positions, Finset.mem_filter, Finset.mem_Ico]
    rw [← hxk, ← hnew k (by omega) (by omega)] at hout
    exact ⟨⟨by omega, by omega⟩, by omega, hout⟩

include h hi in
/-- The count of the window with the slice put in. -/
theorem Reassembled.sizeLoop_place :
    sizeLoop t.window.firstExpectedSequenceNumber (t.window.place p) = t.window.windowSize + newBytes s₀ t a p := by
  rw [(h.facing hi).sizeLoop_place h.walk (h.place_walk hi), h.newBytes_eq hi]
  rfl

include h hi in
/-- The positions covered with the slice put in. -/
theorem Reassembled.place_covers (k : Int) :
    (∃ q ∈ t.window.place p, t.offset q ≤ k ∧ k < t.offset q + q.dataLengthBytes) ↔
      t.Covers k ∨ ((a : Int) - t.delivered.length ≤ k ∧ k < a - t.delivered.length + p.data.length) := by
  have hoff : p.offset t.window.firstExpectedSequenceNumber = _ := h.offset_eq hi
  have hlen := p.length_data
  have hpos := List.length_pos_iff.2 hi.2.1
  have hdata : (p.data.length : Int) = p.dataLengthBytes := by omega
  have hcov := (h.facing hi).place_covered k
  simp only [List.mem_map, exists_exists_and_eq_and, TCPPacket.interval, hoff] at hcov
  unfold Covers Reassembly.offset
  rw [hcov, hdata]

end Insert

theorem step_insert {r : Int × TCPPacketBuffer} (h : t.window.insert p = .ok r) :
    step (.insert a p) t = .ok { t with
      window := r.2
      returned := t.returned + r.1
      received := t.received ∪ positions a p } := by
  simp only [step, h]
  rfl

theorem Reassembled.insert (h : t.Reassembled stream s₀) (hi : Allowed stream s₀ t (.insert a p)) :
    ∃ u, step (.insert a p) t = .ok u ∧ u.Reassembled stream s₀ ∧ u.delivered = t.delivered ∧
      u.returned = t.returned + newBytes s₀ t a p := by
  have hgrow := h.sizeLoop_place hi
  have hcovers := h.place_covers hi
  have hmem (k : Nat) : k ∈ positions a p ↔ (a : Int) - t.delivered.length ≤ (k : Int) - t.delivered.length ∧
      (k : Int) - t.delivered.length < a - t.delivered.length + p.data.length := by
    rw [positions, Finset.mem_Ico]
    omega
  have hinsert := insert_eq h.counted.sized p h.started
  rw [if_neg (by omega)] at hinsert
  by_cases hsame : sizeLoop t.window.firstExpectedSequenceNumber (t.window.place p) = t.window.windowSize ∧
      t.window.found p = none
  · -- the packet is taken out again: its bytes from the first expected number on are all buffered
    rw [if_pos hsame] at hinsert
    have hzero : newBytes s₀ t a p = 0 := by omega
    have hheld (k : Nat) (hk : t.delivered.length ≤ k) (hp : k ∈ positions a p) :
        t.Covers ((k : Int) - t.delivered.length) := by
      have hempty := Finset.card_eq_zero.1 hzero
      have hout : k ∉ (positions a p).filter fun k => t.delivered.length ≤ k ∧ ¬Buffered s₀ t k := by
        rw [hempty]
        exact Finset.notMem_empty k
      simp only [Finset.mem_filter, hp, hk, true_and, not_not] at hout
      have hlt := (Finset.mem_Ico.1 hp).2
      have hbound := hi.2.2.2.bounds.2.1
      exact (h.buffered_iff hk (by omega)).1 hout
    refine ⟨_, step_insert hinsert, ?_, rfl, by simp [hzero]⟩
    refine ⟨h.started, ⟨h.counted.data, .inr rfl⟩, h.number, h.walk, h.slices, h.delivered, fun k hk => ?_,
      fun k hk => ?_, (add_zero t.returned).trans h.balance⟩
    · exact Finset.mem_union_left _ (h.complete k hk)
    · show k ∈ t.received ∪ positions a p ↔ t.Covers ((k : Int) - t.delivered.length)
      rw [Finset.mem_union, h.pending k hk]
      constructor
      · rintro (hc | hp)
        · exact hc
        · exact hheld k hk hp
      · exact .inl
  · rw [if_neg hsame] at hinsert
    refine ⟨_, step_insert hinsert, ?_, rfl, by simp only; omega⟩
    refine ⟨h.started, ⟨(h.place_walk hi).data, .inr rfl⟩, h.number, h.place_walk hi, h.place_slices hi, h.delivered,
      fun k hk => ?_, fun k hk => ?_, ?_⟩
    · exact Finset.mem_union_left _ (h.complete k hk)
    · show k ∈ t.received ∪ positions a p ↔ ∃ q ∈ t.window.place p, t.offset q ≤ (k : Int) - t.delivered.length ∧
        (k : Int) - t.delivered.length < t.offset q + q.dataLengthBytes
      rw [Finset.mem_union, h.pending k hk, hcovers, hmem]
    · have hbalance := h.balance
      show t.returned + (sizeLoop t.window.firstExpectedSequenceNumber (t.window.place p) - t.window.windowSize) =
        t.delivered.length + sizeLoop t.window.firstExpectedSequenceNumber (t.window.place p)
      omega

/-! ### Taking out the continuous data -/

/-- The state after the continuous data is taken out. -/
def taken (t : Reassembly) : Reassembly :=
  let r := continuousLoop t.window.firstExpectedSequenceNumber t.window.buffer
  { t with
    window := { t.window with
      buffer := r.2.2
      firstExpectedSequenceNumber := r.2.1 }.markDirty
    delivered := t.delivered ++ r.1 }

theorem step_getContinuousData (hs : t.window.started = true) (h : t.window.buffer ≠ []) :
    step .getContinuousData t = .ok t.taken := by
  have hget : t.window.getContinuousData t.window.firstExpectedSequenceNumber =
      .ok ((continuousLoop t.window.firstExpectedSequenceNumber t.window.buffer).1, t.taken.window) := by
    have hstarted : check t.window.started .notStarted = .ok () := check_eq_ok.2 hs
    unfold TCPPacketBuffer.getContinuousData
    rw [hstarted, if_neg h, beq_self_eq_true]
    rfl
  simp only [step, hget]
  rfl

/-- The offset `y` that the loop reaches, and what it takes out. -/
theorem Reassembled.exists_taken (h : t.Reassembled stream s₀) : ∃ (m : Nat) (l : List TCPPacket),
    TCPPacketBuffer.Taken t.window.firstExpectedSequenceNumber 0 m t.window.buffer l ∧
      t.window.buffer = l ++ t.taken.window.buffer ∧
      t.taken.delivered = t.delivered ++ slice (ahead stream t) 0 m ∧
      t.taken.window.firstExpectedSequenceNumber = t.window.firstExpectedSequenceNumber + BitVec.ofInt 32 m ∧
      ∀ q ∈ t.taken.window.buffer, (m : Int) < t.offset q ∧ t.taken.offset q = t.offset q - m := by
  obtain ⟨y, l, ht⟩ := h.walk.continuousLoop_taken
  have hbytes := h.walk.continuousLoop_bytes h.slices
  have hzero : t.window.firstExpectedSequenceNumber + BitVec.ofInt 32 0 = t.window.firstExpectedSequenceNumber := by
    simp
  obtain ⟨m, rfl⟩ := Int.eq_ofNat_of_zero_le ht.forward
  have hlength := ht.length
  have hsplit := ht.split
  have hnumber := ht.number
  have hbehind := ht.behind
  rw [hzero] at hbytes hlength hsplit hnumber hbehind
  have hm : (continuousLoop t.window.firstExpectedSequenceNumber t.window.buffer).1.length = m := by omega
  rw [hm] at hbytes
  refine ⟨m, l, ht, hsplit, ?_, hnumber, fun q hq => ⟨hbehind q hq, ?_⟩⟩
  · show t.delivered ++ (continuousLoop t.window.firstExpectedSequenceNumber t.window.buffer).1 = _
    rw [hbytes]
  · have hmem : q ∈ t.window.buffer := hsplit ▸ List.mem_append_right l hq
    have h1 := hbehind q hq
    have h2 := h.walk.data q hmem
    have h3 := h.walk.far q hmem
    show q.offset (continuousLoop t.window.firstExpectedSequenceNumber t.window.buffer).2.1 = _
    rw [hnumber]
    exact TCPPacket.offset_add_sub (by omega) (by omega)

theorem Reassembled.taken (h : t.Reassembled stream s₀) :
    t.taken.Reassembled stream s₀ ∧ t.taken.delivered.length ∉ t.taken.received := by
  obtain ⟨m, l, ht, hsplit, hdelivered, hnumber, hrest⟩ := h.exists_taken
  have hlength : t.taken.delivered.length = t.delivered.length + m := by
    rw [hdelivered, List.length_append, Slice.length_slice]
  have hmem (q : TCPPacket) (hq : q ∈ t.taken.window.buffer) : q ∈ t.window.buffer :=
    hsplit ▸ List.mem_append_right l hq
  have hpending (k : Nat) (hk : t.taken.delivered.length ≤ k) :
      k ∈ t.taken.received ↔ t.taken.Covers ((k : Int) - t.taken.delivered.length) := by
    show k ∈ t.received ↔ _
    rw [h.pending k (by omega)]
    constructor
    · rintro ⟨q, hq, hlo, hhi⟩
      rw [hsplit] at hq
      rcases List.mem_append.1 hq with hq | hq
      · have := ht.before q hq
        unfold Reassembly.offset at hhi
        omega
      · have := (hrest q hq).2
        exact ⟨q, hq, by omega, by omega⟩
    · rintro ⟨q, hq, hlo, hhi⟩
      have := (hrest q hq).2
      exact ⟨q, hmem q hq, by omega, by omega⟩
  refine ⟨⟨h.started, ⟨fun q hq => h.walk.data q (hmem q hq), .inl (show (-1 : Int) < 0 by decide)⟩, ?_, ?_, fun q hq => ?_, ?_,
    fun k hk => ?_, hpending, ?_⟩, ?_⟩
  · rw [h.number_at, hnumber, hlength]
    congr 2
    omega
  · refine ⟨fun q hq => h.walk.data q (hmem q hq), ?_, fun q hq => ?_, fun q hq => ?_⟩
    · have hsorted : t.taken.window.buffer.Pairwise fun p q => t.offset p < t.offset q :=
        h.walk.sorted.sublist (by rw [hsplit]; exact List.sublist_append_right _ _)
      refine hsorted.imp_of_mem fun {q r} hq hr hlt => ?_
      have h1 := (hrest q hq).2
      have h2 := (hrest r hr).2
      unfold Reassembly.offset at *
      omega
    · have h1 := (hrest q hq).1
      have h2 := (hrest q hq).2
      unfold Reassembly.offset at *
      omega
    · have h1 := (hrest q hq).2
      have h2 := h.walk.far q (hmem q hq)
      unfold Reassembly.offset at *
      omega
  · have hoff := (hrest q hq).2
    have hdata := h.slices q (hmem q hq)
    unfold Reassembly.offset at hoff
    conv_lhs => rw [hdata]
    refine Slice.slice_congr fun k _ => ?_
    unfold ahead
    rw [hoff, hlength]
    congr 2
    push_cast
    ring
  · rw [hlength, Slice.slice_add, ← h.delivered, hdelivered]
    congr 1
    refine Slice.slice_congr fun k _ => ?_
    unfold ahead
    rw [Nat.cast_id, Nat.cast_id]
    congr 1
    omega
  · by_cases hlt : k < t.delivered.length
    · exact h.complete k hlt
    · obtain ⟨q, hq, hin⟩ := ht.covered ((k : Int) - t.delivered.length) (by omega) (by omega)
      exact (h.pending k (by omega)).2 ⟨q, hsplit ▸ List.mem_append_left _ hq, hin⟩
  · have hbalance := h.balance
    have hcount := TCPPacketBuffer.sizeLoop_continuousLoop t.window.buffer h.walk.data
      t.window.firstExpectedSequenceNumber
    show t.returned = (t.delivered ++
      (continuousLoop t.window.firstExpectedSequenceNumber t.window.buffer).1).length + t.taken.window.windowSize
    rw [hbalance, List.length_append, TCPPacketBuffer.windowSize, hcount]
    push_cast
    exact (add_assoc _ _ _).symm
  · rw [hpending _ (le_refl _), sub_self]
    rintro ⟨q, hq, hlo, -⟩
    have h1 := (hrest q hq).1
    have h2 := (hrest q hq).2
    omega

theorem Reassembled.getContinuousData (h : t.Reassembled stream s₀) :
    ∃ u, step .getContinuousData t = .ok u ∧ u.Reassembled stream s₀ ∧ u.returned = t.returned ∧
      u.received = t.received ∧ u.delivered.length ∉ u.received := by
  by_cases hnil : t.window.buffer = []
  · have hget : t.window.getContinuousData t.window.firstExpectedSequenceNumber = .ok ([], t.window) := by
      unfold TCPPacketBuffer.getContinuousData
      rw [h.started, if_pos hnil]
      rfl
    have hstep : step .getContinuousData t = .ok t := by
      simp only [step, hget]
      show Except.ok { t with delivered := t.delivered ++ [] } = Except.ok t
      rw [List.append_nil]
    refine ⟨t, hstep, h, rfl, rfl, ?_⟩
    rw [h.pending _ (le_refl _), Covers, hnil]
    simp
  · exact ⟨t.taken, step_getContinuousData h.started hnil, h.taken.1, rfl, rfl, h.taken.2⟩

/-! ### Every run -/

/-- What a step does: `insert` returns the number of new bytes, and `get_continuous_data` appends up to the first
byte that was not received. -/
def Effect (s₀ : BitVec 32) (t : Reassembly) : Input → Reassembly → Prop
  | .insert a p, u => u.delivered = t.delivered ∧ u.returned = t.returned + newBytes s₀ t a p
  | .getContinuousData, u => u.returned = t.returned ∧ u.delivered.length ∉ u.received

theorem Reassembled.step (h : t.Reassembled stream s₀) {i : Input} (hi : Allowed stream s₀ t i) :
    ∃ u, step i t = .ok u ∧ u.Reassembled stream s₀ ∧ Effect s₀ t i u := by
  cases i with
  | insert a p =>
    obtain ⟨u, hstep, hu, h1, h2⟩ := h.insert hi
    exact ⟨u, hstep, hu, h1, h2⟩
  | getContinuousData =>
    obtain ⟨u, hstep, hu, h1, -, h2⟩ := h.getContinuousData
    exact ⟨u, hstep, hu, h1, h2⟩

theorem run_reassembled {is : List Input} (hr : machine.Run (Allowed stream s₀) (start s₀) is t) :
    t.Reassembled stream s₀ := by
  refine hr.invariant (Reassembled stream s₀) start_reassembled fun t i u ht _ hi hstep => ?_
  obtain ⟨u', hstep', hu, -⟩ := ht.step hi
  have hstep : Reassembly.step i t = .ok u := hstep
  rw [hstep'] at hstep
  cases hstep
  exact hu

/-- Along every run on slices of a stream, the bytes delivered are the first bytes of the stream, all of them were
received, and the numbers `insert` returned add up to the bytes delivered and those in the window; and each further
step succeeds and does what it should. -/
theorem reassembled {is : List Input} (hr : machine.Run (Allowed stream s₀) (start s₀) is t) :
    t.delivered = slice stream 0 t.delivered.length ∧ (∀ k < t.delivered.length, k ∈ t.received) ∧
      t.returned = t.delivered.length + t.window.sized.cachedSize ∧
      ∀ i, Allowed stream s₀ t i → ∃ u, Reassembly.step i t = .ok u ∧ Effect s₀ t i u := by
  have h := run_reassembled hr
  refine ⟨h.delivered, h.complete, ?_, fun i hi => ?_⟩
  · rw [h.size]
    exact h.balance
  · obtain ⟨u, hstep, -, heffect⟩ := h.step hi
    exact ⟨u, hstep, heffect⟩

/-- The packet with the slice of `n` bytes at `a`. -/
def slicePacket (stream : Nat → UInt8) (s₀ : BitVec 32) (a n : Nat) : TCPPacket :=
  { TCPPacket.new ⟨0, 0⟩ ⟨0, 0⟩ (slice stream a n) with sequenceNumber := s₀ + BitVec.ofNat 32 a }

/-- Two slices with one start, one that covers both, and one behind a gap, at numbers that wrap past 0. -/
def slicesScript : List Input :=
  let insert (a n : Nat) : Input := .insert a (slicePacket UInt8.ofNat 0xfffffffe a n)
  [insert 3 4, insert 3 2, insert 9 2, insert 0 1, .getContinuousData, insert 0 5, insert 2 1, .getContinuousData]

theorem reassembled_wrap : ∃ t : Reassembly,
    t.delivered = [0, 1, 2, 3, 4, 5, 6] ∧ t.returned = t.delivered.length + t.window.sized.cachedSize := by
  obtain ⟨t, hr, h⟩ := Transition.Machine.exists_run (M := machine) (P := Allowed UInt8.ofNat 0xfffffffe)
    (s := start 0xfffffffe) (i := slicesScript) (q := fun t => decide (t.delivered = [0, 1, 2, 3, 4, 5, 6]))
    (by decide +kernel)
  exact ⟨t, of_decide_eq_true h, (reassembled hr).2.2.1⟩

end Reassembly

end Wifu
