import Wifu.WindowSize
import Wifu.Lib.Intervals
import Wifu.Lib.Slice
import Mathlib.Data.Int.Interval

/-!
# Walks over the out-of-order window

Seen from a sequence number, each packet is an interval of offsets.  The walks of `size` and `get_continuous_data` are
walks over these intervals, as long as no packet of a list sorted by offsets is half the sequence space away from
where the walk begins (`Walk`).  `insert` puts a packet where its offset belongs when no packet of the window starts
half the space away from it (`Facing`).
-/

namespace Wifu

namespace TCPPacket

/-- How far behind `n` the packet starts, as a signed number. -/
def offset (n : BitVec 32) (p : TCPPacket) : Int := (p.sequenceNumber - n).toInt

/-- The offsets of the packet's bytes. -/
def interval (n : BitVec 32) (p : TCPPacket) : Int × Int := (p.offset n, p.offset n + p.dataLengthBytes)

theorem sequenceNumber_eq (n : BitVec 32) (p : TCPPacket) : p.sequenceNumber = n + BitVec.ofInt 32 (p.offset n) :=
  (add_ofInt_toInt p.sequenceNumber).symm

/-- The offset from a number further on. -/
theorem offset_add_sub {n : BitVec 32} {p : TCPPacket} {x : Int} (h1 : x ≤ p.offset n + 2147483648)
    (h2 : p.offset n < x + 2147483648) : p.offset (n + BitVec.ofInt 32 x) = p.offset n - x := by
  have hseq : p.sequenceNumber = n + BitVec.ofInt 32 x + BitVec.ofInt 32 (p.offset n - x) := by
    rw [add_ofInt_add_ofInt, add_sub_cancel, ← sequenceNumber_eq]
  conv_lhs => rw [offset, hseq]
  exact toInt_add_ofInt_sub (by omega) (by omega)

end TCPPacket

namespace TCPPacketBuffer

open TCPPacket (interval)

variable {n : BitVec 32} {x : Int} {p : TCPPacket} {l : List TCPPacket}

/-- Where a packet lies with respect to a walk that has reached the offset `x`. -/
theorem placement_offset (hp : 0 < p.dataLengthBytes) (h1 : x < p.offset n + 2147483648)
    (h2 : p.offset n + p.dataLengthBytes < x + 2147483648) :
    placement (n + BitVec.ofInt 32 x) p =
      if x = p.offset n then .equal
      else if p.offset n < x ∧ x < p.offset n + p.dataLengthBytes then .overlap
      else if p.offset n < x then .past
      else .gap := by
  have hequal : n + BitVec.ofInt 32 x = n + BitVec.ofInt 32 (p.offset n) ↔ x = p.offset n :=
    add_ofInt_inj (by omega) (by omega)
  have hleft : lessThan (n + BitVec.ofInt 32 (p.offset n)) (n + BitVec.ofInt 32 x) = true ↔ p.offset n < x :=
    lessThan_add_ofInt (by omega) (by omega)
  have hright : lessThan (n + BitVec.ofInt 32 x) (n + BitVec.ofInt 32 (p.offset n + p.dataLengthBytes)) = true ↔
      x < p.offset n + p.dataLengthBytes :=
    lessThan_add_ofInt (by omega) (by omega)
  unfold placement between
  rw [p.sequenceNumber_eq n, add_ofInt_add_ofInt]
  simp only [hequal, Bool.and_eq_true, hleft, hright]

/-- The bytes of an overlapping packet before the offset `x`. -/
theorem difference_offset (h1 : p.offset n < x) (h2 : x < p.offset n + p.dataLengthBytes) :
    difference (n + BitVec.ofInt 32 x) p = x - p.offset n := by
  have hlt := p.dataLengthBytes_lt
  have hx : n + BitVec.ofInt 32 x = p.sequenceNumber + BitVec.ofInt 32 (x - p.offset n) := by
    rw [p.sequenceNumber_eq n, add_ofInt_add_ofInt, add_sub_cancel]
  unfold difference
  rw [hx]
  exact toInt_add_ofInt_sub (by omega) (by omega)

/-- A walk over a sorted list that has reached the offset `x`. -/
structure Walk (n : BitVec 32) (x : Int) (l : List TCPPacket) : Prop where
  data : ∀ p ∈ l, 0 < p.dataLengthBytes
  sorted : l.Pairwise fun p q => p.offset n < q.offset n
  close : ∀ p ∈ l, x < p.offset n + 2147483648
  far : ∀ p ∈ l, p.offset n + p.dataLengthBytes < x + 2147483648

namespace Walk

theorem sublist {l' : List TCPPacket} (h : Walk n x l) (hl : l'.Sublist l) : Walk n x l' :=
  ⟨fun p hp => h.data p (hl.subset hp), h.sorted.sublist hl, fun p hp => h.close p (hl.subset hp),
    fun p hp => h.far p (hl.subset hp)⟩

theorem tail (h : Walk n x (p :: l)) : Walk n x l := h.sublist (List.sublist_cons_self p l)

/-- The walk goes on at the end of a packet that does not lie before it. -/
theorem next (h : Walk n x (p :: l)) (hx : x ≤ p.offset n + p.dataLengthBytes) :
    Walk n (p.offset n + p.dataLengthBytes) l := by
  have hlt := p.dataLengthBytes_lt
  have htail := h.tail
  refine ⟨htail.data, htail.sorted, fun q hq => ?_, fun q hq => ?_⟩
  · have := (List.pairwise_cons.1 h.sorted).1 q hq
    omega
  · have := htail.far q hq
    omega

theorem intervals_sorted (h : Walk n x l) : (l.map (interval n)).Pairwise fun p q => p.1 ≤ q.1 :=
  List.pairwise_map.2 (h.sorted.imp fun hpq => hpq.le)

/-- The four ways a walk meets the next packet. -/
theorem meets (h : Walk n x (p :: l)) :
    (placement (n + BitVec.ofInt 32 x) p = .equal ∧ x = p.offset n) ∨
      (placement (n + BitVec.ofInt 32 x) p = .overlap ∧ p.offset n < x ∧ x < p.offset n + p.dataLengthBytes ∧
        difference (n + BitVec.ofInt 32 x) p = x - p.offset n) ∨
      (placement (n + BitVec.ofInt 32 x) p = .past ∧ p.offset n + p.dataLengthBytes ≤ x) ∨
      (placement (n + BitVec.ofInt 32 x) p = .gap ∧ x < p.offset n) := by
  have hp := h.data p List.mem_cons_self
  have hplace := placement_offset hp (h.close p List.mem_cons_self) (h.far p List.mem_cons_self)
  by_cases hx : x = p.offset n
  · rw [if_pos hx] at hplace
    exact .inl ⟨hplace, hx⟩
  · rw [if_neg hx] at hplace
    by_cases hin : p.offset n < x ∧ x < p.offset n + p.dataLengthBytes
    · rw [if_pos hin] at hplace
      exact .inr (.inl ⟨hplace, hin.1, hin.2, difference_offset hin.1 hin.2⟩)
    · rw [if_neg hin] at hplace
      by_cases hpast : p.offset n < x
      · rw [if_pos hpast] at hplace
        exact .inr (.inr (.inl ⟨hplace, by omega⟩))
      · rw [if_neg hpast] at hplace
        exact .inr (.inr (.inr ⟨hplace, by omega⟩))

/-- The loop of `size` walks over the intervals. -/
theorem sizeLoop_eq (h : Walk n x l) :
    sizeLoop (n + BitVec.ofInt 32 x) l = Intervals.walk x (l.map (interval n)) := by
  induction l generalizing x with
  | nil => rfl
  | cons p l ih =>
    have hp := h.data p List.mem_cons_self
    simp only [List.map_cons, Intervals.walk, interval, Int.card_Ico]
    unfold sizeLoop
    rcases h.meets with ⟨hm, hx⟩ | ⟨hm, hlo, hhi, hdiff⟩ | ⟨hm, hx⟩ | ⟨hm, hx⟩
    · simp only [hm]
      rw [add_ofInt_add_ofInt, hx, ih (hx ▸ h.next (by omega)), if_neg (by omega)]
      simp only [max_self]
      push_cast
      omega
    · have hend : x + (p.dataLengthBytes - (x - p.offset n)) = p.offset n + p.dataLengthBytes := by omega
      simp only [hm]
      rw [hdiff, add_ofInt_add_ofInt, hend, ih (h.next (by omega)), if_neg (by omega), max_eq_left (by omega)]
      push_cast
      omega
    · simp only [hm]
      rw [if_pos hx]
      exact ih h.tail
    · simp only [hm]
      rw [p.sequenceNumber_eq n, add_ofInt_add_ofInt, ih (h.next (by omega)), if_neg (by omega),
        max_eq_right (by omega)]
      push_cast
      omega

/-- The count of a window is the number of bytes covered from the first expected number on. -/
theorem sizeLoop_eq_card (h : Walk n 0 l) :
    sizeLoop n l = (Intervals.cover 0 (l.map (interval n))).card := by
  have hwalk := h.sizeLoop_eq
  rw [← Intervals.walk_eq_card h.intervals_sorted, ← hwalk]
  simp

end Walk

/-- The packets are slices of one sequence of bytes. -/
def Slices (n : BitVec 32) (f : Int → UInt8) (l : List TCPPacket) : Prop :=
  ∀ p ∈ l, p.data = Slice.slice f (p.offset n) p.data.length

/-- What the loop of `get_continuous_data` does from the offset `x` on: it reaches an offset `y`, every byte up to
there is one of a packet it takes out, and it leaves the packets that start behind `y`. -/
structure Taken (n : BitVec 32) (x y : Int) (l taken : List TCPPacket) : Prop where
  forward : x ≤ y
  length : ((continuousLoop (n + BitVec.ofInt 32 x) l).1.length : Int) = y - x
  number : (continuousLoop (n + BitVec.ofInt 32 x) l).2.1 = n + BitVec.ofInt 32 y
  split : l = taken ++ (continuousLoop (n + BitVec.ofInt 32 x) l).2.2
  covered : ∀ k, x ≤ k → k < y → ∃ p ∈ taken, p.offset n ≤ k ∧ k < p.offset n + p.dataLengthBytes
  before : ∀ p ∈ taken, p.offset n + p.dataLengthBytes ≤ y
  behind : ∀ p ∈ (continuousLoop (n + BitVec.ofInt 32 x) l).2.2, y < p.offset n

/-- A packet taken out that reaches from the walk's offset on to its end. -/
private theorem Taken.cons {y : Int} {taken : List TCPPacket} (hp : p.offset n ≤ x)
    (h : Taken n (p.offset n + p.dataLengthBytes) y l taken) (hx : x ≤ p.offset n + p.dataLengthBytes)
    (hlength : ((continuousLoop (n + BitVec.ofInt 32 x) (p :: l)).1.length : Int) =
      p.offset n + p.dataLengthBytes - x +
        (continuousLoop (n + BitVec.ofInt 32 (p.offset n + p.dataLengthBytes)) l).1.length)
    (hloop : (continuousLoop (n + BitVec.ofInt 32 x) (p :: l)).2 =
      (continuousLoop (n + BitVec.ofInt 32 (p.offset n + p.dataLengthBytes)) l).2) :
    Taken n x y (p :: l) (p :: taken) := by
  have hrest := h.length
  refine ⟨hx.trans h.forward, by omega, by rw [hloop]; exact h.number, ?_, fun k h1 h2 => ?_, fun q hq => ?_, ?_⟩
  · rw [hloop, List.cons_append, ← h.split]
  · by_cases hk : k < p.offset n + p.dataLengthBytes
    · exact ⟨p, List.mem_cons_self, by omega, hk⟩
    · obtain ⟨q, hq, hin⟩ := h.covered k (by omega) h2
      exact ⟨q, List.mem_cons_of_mem _ hq, hin⟩
  · rcases List.mem_cons.1 hq with rfl | hq
    · exact h.forward
    · exact h.before q hq
  · rw [hloop]
    exact h.behind

theorem Walk.continuousLoop_taken (h : Walk n x l) : ∃ y taken, Taken n x y l taken := by
  induction l generalizing x with
  | nil =>
    refine ⟨x, [], le_refl x, by simp [continuousLoop], rfl, rfl, fun k h1 h2 => by omega, by simp,
      by simp [continuousLoop]⟩
  | cons p l ih =>
    have hp := h.data p List.mem_cons_self
    have hlen := p.length_data
    rcases h.meets with ⟨hm, hx⟩ | ⟨hm, hlo, hhi, hdiff⟩ | ⟨hm, hx⟩ | ⟨hm, hx⟩
    · obtain ⟨y, taken, ht⟩ := ih (h.next (by omega))
      refine ⟨y, p :: taken, ht.cons (by omega) (by omega) ?_ ?_⟩
      · simp only [continuousLoop, hm]
        rw [add_ofInt_add_ofInt, hx, List.length_append]
        omega
      · simp only [continuousLoop, hm]
        rw [add_ofInt_add_ofInt, hx]
    · obtain ⟨y, taken, ht⟩ := ih (h.next (by omega))
      have hend : x + (p.dataLengthBytes - (x - p.offset n)) = p.offset n + p.dataLengthBytes := by omega
      refine ⟨y, p :: taken, ht.cons (by omega) (by omega) ?_ ?_⟩
      · simp only [continuousLoop, hm]
        rw [hdiff, add_ofInt_add_ofInt, hend, List.length_append, List.length_drop]
        omega
      · simp only [continuousLoop, hm]
        rw [hdiff, add_ofInt_add_ofInt, hend]
    · obtain ⟨y, taken, ht⟩ := ih h.tail
      have hloop : continuousLoop (n + BitVec.ofInt 32 x) (p :: l) = continuousLoop (n + BitVec.ofInt 32 x) l := by
        simp only [continuousLoop, hm]
      refine ⟨y, p :: taken, ht.forward, by rw [hloop]; exact ht.length, by rw [hloop]; exact ht.number, ?_,
        fun k h1 h2 => ?_, fun q hq => ?_, ?_⟩
      · rw [hloop, List.cons_append, ← ht.split]
      · obtain ⟨q, hq, hin⟩ := ht.covered k h1 h2
        exact ⟨q, List.mem_cons_of_mem _ hq, hin⟩
      · rcases List.mem_cons.1 hq with rfl | hq
        · exact hx.trans ht.forward
        · exact ht.before q hq
      · rw [hloop]
        exact ht.behind
    · have hloop : continuousLoop (n + BitVec.ofInt 32 x) (p :: l) = ([], n + BitVec.ofInt 32 x, p :: l) := by
        simp only [continuousLoop, hm]
      refine ⟨x, [], le_refl x, by simp [hloop], by rw [hloop], by rw [hloop]; rfl, fun k h1 h2 => by omega, by simp, ?_⟩
      rw [hloop]
      intro q hq
      rcases List.mem_cons.1 hq with rfl | hq
      · exact hx
      · exact hx.trans ((List.pairwise_cons.1 h.sorted).1 q hq)

/-- The bytes the loop appends are those of the sequence from its offset on. -/
theorem Walk.continuousLoop_bytes {f : Int → UInt8} (h : Walk n x l) (hs : Slices n f l) :
    (continuousLoop (n + BitVec.ofInt 32 x) l).1 =
      Slice.slice f x (continuousLoop (n + BitVec.ofInt 32 x) l).1.length := by
  induction l generalizing x with
  | nil => rfl
  | cons p l ih =>
    have hp := h.data p List.mem_cons_self
    have hlen := p.length_data
    have hdata := hs p List.mem_cons_self
    have hs' : Slices n f l := fun q hq => hs q (List.mem_cons_of_mem _ hq)
    rcases h.meets with ⟨hm, hx⟩ | ⟨hm, hlo, hhi, hdiff⟩ | ⟨hm, hx⟩ | ⟨hm, hx⟩
    · have ih := ih (h.next (by omega)) hs'
      simp only [continuousLoop, hm]
      rw [add_ofInt_add_ofInt, hx, List.length_append, Slice.slice_add, ← hdata]
      have hcast : p.offset n + ((p.data.length : Nat) : Int) = p.offset n + p.dataLengthBytes := by omega
      rw [hcast, ← ih]
    · have ih := ih (h.next (by omega)) hs'
      have hend : x + (p.dataLengthBytes - (x - p.offset n)) = p.offset n + p.dataLengthBytes := by omega
      simp only [continuousLoop, hm]
      rw [hdiff, add_ofInt_add_ofInt, hend]
      -- the part of the packet from `x` on
      obtain ⟨m, hm'⟩ := Int.eq_ofNat_of_zero_le (show 0 ≤ x - p.offset n by omega)
      obtain ⟨r, hr⟩ := Nat.exists_eq_add_of_le (show m ≤ p.data.length by omega)
      have hdrop : p.data.drop m = Slice.slice f x r := by
        rw [hdata, hr, Slice.drop_slice]
        congr 1
        omega
      have hcast : x + ((r : Nat) : Int) = p.offset n + p.dataLengthBytes := by omega
      rw [hm', Int.toNat_natCast, hdrop, List.length_append, Slice.length_slice, Slice.slice_add, hcast, ← ih]
    · simp only [continuousLoop, hm]
      exact ih h.tail hs'
    · simp only [continuousLoop, hm]
      rfl

/-! ### Putting a packet in -/

/-- The list is sorted, and none of its packets starts half the sequence space away from `p`. -/
structure Facing (n : BitVec 32) (p : TCPPacket) (l : List TCPPacket) : Prop where
  sorted : l.Pairwise fun p q => p.offset n < q.offset n
  before : ∀ q ∈ l, p.offset n < q.offset n + 2147483648
  behind : ∀ q ∈ l, q.offset n < p.offset n + 2147483648

theorem sequenceNumber_inj {q : TCPPacket} : q.sequenceNumber = p.sequenceNumber ↔ q.offset n = p.offset n := by
  constructor
  · intro h
    unfold TCPPacket.offset
    rw [h]
  · intro h
    rw [q.sequenceNumber_eq n, p.sequenceNumber_eq n, h]

namespace Facing

variable {b : TCPPacketBuffer}

/-- `lower_bound` splits the window in the packets that start before `p` and the others. -/
theorem position (h : Facing n p b.buffer) :
    ∃ l₁ l₂, b.buffer = l₁ ++ l₂ ∧ b.position p = l₁.length ∧ (∀ q ∈ l₁, q.offset n < p.offset n) ∧
      ∀ q ∈ l₂, p.offset n ≤ q.offset n := by
  have hless (q : TCPPacket) (hq : q ∈ b.buffer) :
      lessThan q.sequenceNumber p.sequenceNumber = true ↔ q.offset n < p.offset n := by
    have h1 := h.before q hq
    have h2 := h.behind q hq
    rw [q.sequenceNumber_eq n, p.sequenceNumber_eq n, lessThan_add_ofInt h2 h1]
  have hsorted : b.buffer.Pairwise fun x y =>
      lessThan y.sequenceNumber p.sequenceNumber = true → lessThan x.sequenceNumber p.sequenceNumber = true := by
    refine h.sorted.imp_of_mem fun {x y} hx hy hxy hlt => ?_
    rw [hless y hy] at hlt
    rw [hless x hx]
    exact hxy.trans hlt
  obtain ⟨h1, h2⟩ := Search.lowerBound_spec hsorted
  refine ⟨b.buffer.take (b.position p), b.buffer.drop (b.position p), (List.take_append_drop _ _).symm, ?_,
    fun q hq => ?_, fun q hq => ?_⟩
  · have hle : b.position p ≤ b.buffer.length := Search.lowerBound_le _ _
    rw [List.length_take, Nat.min_eq_left hle]
  · exact (hless q (List.mem_of_mem_take hq)).1 (h1 q hq)
  · have := h2 q hq
    rw [← Bool.not_eq_true, hless q (List.mem_of_mem_drop hq)] at this
    omega

/-- The two ways `insert` puts a packet in the window: it goes where it belongs, or the bigger one of it and the
packet with the same number stays. -/
theorem place (h : Facing n p b.buffer) :
    ∃ l₁ l₂ l₃, b.buffer = l₁ ++ l₂ ++ l₃ ∧ (∀ q ∈ l₁, q.offset n < p.offset n) ∧
      (∀ q ∈ l₃, p.offset n < q.offset n) ∧
      ((l₂ = [] ∧ b.found p = none ∧ b.place p = l₁ ++ p :: l₃) ∨
        ∃ q, l₂ = [q] ∧ b.found p = some q ∧ q.offset n = p.offset n ∧
          (q.dataLengthBytes ≤ p.dataLengthBytes ∧ b.place p = l₁ ++ p :: l₃ ∨
            p.dataLengthBytes < q.dataLengthBytes ∧ b.place p = b.buffer)) := by
  obtain ⟨l₁, l₂, hl, hpos, h1, h2⟩ := h.position
  have hinsert : b.buffer.insertIdx (b.position p) p = l₁ ++ p :: l₂ := by
    rw [hpos, hl]
    exact Search.insertIdx_append l₁ l₂ p
  have hhead : b.buffer[b.position p]? = l₂.head? := by
    rw [hpos, hl, List.getElem?_append_right (Nat.le_refl _), Nat.sub_self, List.head?_eq_getElem?]
  have hnone (hf : b.found p = none) : b.place p = l₁ ++ p :: l₂ := by
    unfold TCPPacketBuffer.place
    rw [hf, ← hinsert]
  cases l₂ with
  | nil =>
    have hf : b.found p = none := by
      unfold found
      rw [hhead]
      rfl
    exact ⟨l₁, [], [], by simpa using hl, h1, by simp, .inl ⟨rfl, hf, hnone hf⟩⟩
  | cons q l₃ =>
    have hsorted := h.sorted
    rw [hl] at hsorted
    have h3 := (List.pairwise_cons.1 (List.pairwise_append.1 hsorted).2.1).1
    have hq := h2 q List.mem_cons_self
    by_cases hseq : q.sequenceNumber = p.sequenceNumber
    · have hoff := (sequenceNumber_inj (n := n)).1 hseq
      have hf : b.found p = some q := by
        unfold found
        rw [hhead]
        simp [hseq]
      refine ⟨l₁, [q], l₃, by simpa using hl, h1, fun r hr => hoff ▸ h3 r hr, .inr ⟨q, rfl, hf, hoff, ?_⟩⟩
      unfold TCPPacketBuffer.place
      rw [hf]
      simp only
      split
      · rename_i hle
        refine .inl ⟨hle, ?_⟩
        rw [hinsert, hpos]
        simp [List.eraseIdx_append_of_length_le]
      · rename_i hle
        refine .inr ⟨by omega, ?_⟩
        rw [hinsert, hpos, hl]
        simp [List.eraseIdx_append_of_length_le]
    · have hf : b.found p = none := by
        unfold found
        rw [hhead]
        simp [hseq]
      have hne : q.offset n ≠ p.offset n := fun h => hseq (sequenceNumber_inj.2 h)
      refine ⟨l₁, [], q :: l₃, by simpa using hl, h1, fun r hr => ?_, .inl ⟨rfl, hf, hnone hf⟩⟩
      rcases List.mem_cons.1 hr with rfl | hr
      · omega
      · have := h3 r hr
        omega

/-- The window with the packet put in is sorted. -/
theorem place_sorted (h : Facing n p b.buffer) : (b.place p).Pairwise fun p q => p.offset n < q.offset n := by
  obtain ⟨l₁, l₂, l₃, hl, h1, h3, hplace⟩ := h.place
  have hput : (l₁ ++ p :: l₃).Pairwise fun p q => p.offset n < q.offset n := by
    have hrest : (l₁ ++ l₃).Pairwise fun p q => p.offset n < q.offset n := by
      refine h.sorted.sublist ?_
      rw [hl, List.append_assoc]
      exact (List.sublist_append_right l₂ l₃).append_left l₁
    obtain ⟨ha, hb, hc⟩ := List.pairwise_append.1 hrest
    refine List.pairwise_append.2 ⟨ha, List.pairwise_cons.2 ⟨h3, hb⟩, fun q hq r hr => ?_⟩
    rcases List.mem_cons.1 hr with rfl | hr
    · exact h1 q hq
    · exact hc q hq r hr
  rcases hplace with ⟨-, -, hplace⟩ | ⟨q, -, -, -, ⟨-, hplace⟩ | ⟨-, hplace⟩⟩
  · rw [hplace]
    exact hput
  · rw [hplace]
    exact hput
  · rw [hplace]
    exact h.sorted

/-- The offsets covered after a packet is put in: those covered before, and its own. -/
theorem place_covered (h : Facing n p b.buffer) (k : Int) :
    (∃ q ∈ (b.place p).map (interval n), q.1 ≤ k ∧ k < q.2) ↔
      (∃ q ∈ b.buffer.map (interval n), q.1 ≤ k ∧ k < q.2) ∨ ((p.interval n).1 ≤ k ∧ k < (p.interval n).2) := by
  simp only [List.mem_map, exists_exists_and_eq_and, TCPPacket.interval]
  obtain ⟨l₁, l₂, l₃, hl, -, -, hplace⟩ := h.place
  rcases hplace with ⟨rfl, -, hplace⟩ | ⟨q, rfl, -, hoff, ⟨hle, hplace⟩ | ⟨hlt, hplace⟩⟩
  · rw [hplace, hl]
    simp only [List.append_nil, List.mem_append, List.mem_cons, or_and_right, exists_or, exists_eq_left]
    rw [or_assoc]
    exact or_congr_right or_comm
  · rw [hplace, hl]
    simp only [List.mem_append, List.mem_cons, List.not_mem_nil, or_false, or_and_right, exists_or, exists_eq_left,
      hoff]
    constructor
    · rintro (h | h | h)
      · exact .inl (.inl (.inl h))
      · exact .inr h
      · exact .inl (.inr h)
    · rintro (((h | h) | h) | h)
      · exact .inl h
      · exact .inr (.inl ⟨h.1, by omega⟩)
      · exact .inr (.inr h)
      · exact .inr (.inl h)
  · rw [hplace, hl]
    simp only [List.mem_append, List.mem_cons, List.not_mem_nil, or_false, or_and_right, exists_or, exists_eq_left,
      hoff]
    constructor
    · exact .inl
    · rintro (h | h)
      · exact h
      · exact .inl (.inr ⟨h.1, by omega⟩)

/-- Putting a packet in adds its bytes that were not covered to the count. -/
theorem sizeLoop_place (h : Facing n p b.buffer) (hb : Walk n 0 b.buffer) (hp : Walk n 0 (b.place p)) :
    sizeLoop n (b.place p) = sizeLoop n b.buffer +
      (Finset.Ico (max 0 (p.interval n).1) (p.interval n).2 \ Intervals.cover 0 (b.buffer.map (interval n))).card := by
  rw [hp.sizeLoop_eq_card, hb.sizeLoop_eq_card, Intervals.card_cover_put h.place_covered]
  push_cast
  rfl

end Facing

end TCPPacketBuffer

end Wifu
