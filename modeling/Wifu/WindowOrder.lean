import Wifu.WindowWalk

/-!
# The order of the out-of-order window

Seen from the first expected number, each packet is an interval of offsets.  As long as the packets lie within a
quarter of the sequence space, the window is sorted by offsets and the walks of `size` and `get_continuous_data` are
walks over these intervals: the count is the number of bytes covered, and what `insert` adds is the number of bytes of
the packet that nothing covered (`newBytes`).
-/

namespace Wifu

namespace TCPPacket

/-- The number is that of a byte of the packet. -/
def covers (p : TCPPacket) (n : BitVec 32) : Bool :=
  betweenEqualLeft p.sequenceNumber n (p.sequenceNumber + BitVec.ofInt 32 p.dataLengthBytes)

/-- The packet starts within a quarter of the sequence space from `n`. -/
def Near (n : BitVec 32) (p : TCPPacket) : Prop := -1073741824 ≤ p.offset n ∧ p.offset n < 1073741824

instance (n : BitVec 32) (p : TCPPacket) : Decidable (p.Near n) := inferInstanceAs (Decidable (_ ∧ _))

/-- The offset from a number further on. -/
theorem offset_add {n : BitVec 32} {p : TCPPacket} {x : Int} (hx : 0 ≤ x) (hp : x ≤ p.offset n)
    (hnear : p.Near n) : p.offset (n + BitVec.ofInt 32 x) = p.offset n - x := by
  have h := hnear.2
  exact offset_add_sub (by omega) (by omega)

/-- A number at an offset near the packet's is one of its bytes when the offset lies in the packet's interval. -/
theorem covers_iff {n : BitVec 32} {p : TCPPacket} {x : Int} (hp : 0 < p.dataLengthBytes)
    (h1 : x ≤ p.offset n + 2147418112) (h2 : p.offset n ≤ x + 2147418112) :
    p.covers (n + BitVec.ofInt 32 x) = true ↔ p.offset n ≤ x ∧ x < p.offset n + p.dataLengthBytes := by
  have hlt := p.dataLengthBytes_lt
  unfold covers betweenEqualLeft
  rw [p.sequenceNumber_eq n, add_ofInt_add_ofInt, Bool.and_eq_true, lessThanOrEqual_add_ofInt (by omega) (by omega),
    lessThan_add_ofInt (by omega) (by omega)]

end TCPPacket

namespace TCPPacketBuffer

open TCPPacket (Near)

/-- The number is not behind the first expected one and no packet of the window has its byte. -/
def isNew (b : TCPPacketBuffer) (n : BitVec 32) : Bool :=
  lessThanOrEqual b.firstExpectedSequenceNumber n && b.buffer.all fun q => !q.covers n

/-- The number of bytes of a packet that are new to the window. -/
def newBytes (b : TCPPacketBuffer) (p : TCPPacket) : Nat :=
  ((Finset.range p.data.length).filter fun k => b.isNew (p.sequenceNumber + BitVec.ofNat 32 k) = true).card

/-- Packets with data near `n`, sorted by their offsets. -/
structure Ordered (n : BitVec 32) (l : List TCPPacket) : Prop where
  data : ∀ p ∈ l, 0 < p.dataLengthBytes
  near : ∀ p ∈ l, p.Near n
  sorted : l.Pairwise fun p q => p.offset n < q.offset n

/-- A window as a step leaves it: ordered, with a gap before each packet. -/
structure Held (b : TCPPacketBuffer) : Prop where
  ordered : Ordered b.firstExpectedSequenceNumber b.buffer
  ahead : ∀ p ∈ b.buffer, 0 < p.offset b.firstExpectedSequenceNumber

theorem Ordered.sublist {n : BitVec 32} {l l' : List TCPPacket} (h : Ordered n l) (hl : l'.Sublist l) :
    Ordered n l' :=
  ⟨fun p hp => h.data p (hl.subset hp), fun p hp => h.near p (hl.subset hp), h.sorted.sublist hl⟩

theorem Ordered.intervals_sorted {n : BitVec 32} {l : List TCPPacket} (h : Ordered n l) :
    (l.map (TCPPacket.interval n)).Pairwise fun p q => p.1 ≤ q.1 :=
  List.pairwise_map.2 (h.sorted.imp fun hpq => hpq.le)

/-! ### The walks -/

/-- A walk over an ordered list that has reached the offset `x`. -/
structure Reached (n : BitVec 32) (x : Int) (l : List TCPPacket) : Prop where
  ordered : Ordered n l
  nonneg : 0 ≤ x
  close : ∀ p ∈ l, x ≤ p.offset n + 1073741824

theorem Reached.walk {n : BitVec 32} {x : Int} {l : List TCPPacket} (h : Reached n x l) : Walk n x l := by
  refine ⟨h.ordered.data, h.ordered.sorted, fun p hp => ?_, fun p hp => ?_⟩
  · have := h.close p hp
    omega
  · have h1 := p.dataLengthBytes_lt
    have h2 := (h.ordered.near p hp).2
    have h3 := h.nonneg
    omega

theorem Ordered.reached {n : BitVec 32} {l : List TCPPacket} (h : Ordered n l) : Reached n 0 l :=
  ⟨h, le_refl 0, fun p hp => by have := (h.near p hp).1; omega⟩

/-- The count of an ordered window is the number of bytes covered. -/
theorem Ordered.sizeLoop_eq {n : BitVec 32} {l : List TCPPacket} (h : Ordered n l) :
    sizeLoop n l = (Intervals.cover 0 (l.map (TCPPacket.interval n))).card :=
  h.reached.walk.sizeLoop_eq_card

/-! ### Putting a packet in -/

section Place

variable {n : BitVec 32} {b : TCPPacketBuffer} {p : TCPPacket}

theorem Ordered.facing (h : Ordered n b.buffer) (hp : p.Near n) : Facing n p b.buffer := by
  refine ⟨h.sorted, fun q hq => ?_, fun q hq => ?_⟩
  · have h1 := hp.2
    have h2 := (h.near q hq).1
    omega
  · have h1 := hp.1
    have h2 := (h.near q hq).2
    omega

/-- An ordered window with a near packet put in is ordered. -/
theorem Ordered.place_ordered (h : Ordered n b.buffer) (hp : p.Near n) (hd : 0 < p.dataLengthBytes) :
    Ordered n (b.place p) := by
  refine ⟨fun q hq => ?_, fun q hq => ?_, (h.facing hp).place_sorted⟩
  · rcases mem_place hq with hq | rfl
    · exact h.data q hq
    · exact hd
  · rcases mem_place hq with hq | rfl
    · exact h.near q hq
    · exact hp

/-- The new bytes of a packet are those of its offsets from the first expected number on that no packet covers. -/
theorem Held.newBytes_eq (h : b.Held)
    (hp : p.Near b.firstExpectedSequenceNumber) :
    b.newBytes p = (Finset.Ico (max 0 (p.interval b.firstExpectedSequenceNumber).1)
      (p.interval b.firstExpectedSequenceNumber).2 \
        Intervals.cover 0 (b.buffer.map (TCPPacket.interval b.firstExpectedSequenceNumber))).card := by
  have hlen := p.length_data
  have hlt := p.dataLengthBytes_lt
  have hp1 := hp.1
  have hp2 := hp.2
  obtain ⟨hord, hahead⟩ := h
  generalize hn : b.firstExpectedSequenceNumber = n at hord hahead hp1 hp2
  have hseq (k : Nat) : p.sequenceNumber + BitVec.ofNat 32 k = n + BitVec.ofInt 32 (p.offset n + k) := by
    rw [← BitVec.ofInt_natCast, ← add_ofInt_add_ofInt, ← p.sequenceNumber_eq n]
  have hnew (k : Nat) (hk : k < p.data.length) : b.isNew (p.sequenceNumber + BitVec.ofNat 32 k) = true ↔
      0 ≤ p.offset n + k ∧ p.offset n + k ∉ Intervals.cover 0 (b.buffer.map (TCPPacket.interval n)) := by
    have hle : lessThanOrEqual n (n + BitVec.ofInt 32 (p.offset n + k)) = true ↔ 0 ≤ p.offset n + k := by
      have := lessThanOrEqual_add_ofInt (n := n) (x := 0) (y := p.offset n + k) (by omega) (by omega)
      simpa using this
    have hcov (h0 : 0 ≤ p.offset n + k) (q : TCPPacket) (hq : q ∈ b.buffer) :
        q.covers (n + BitVec.ofInt 32 (p.offset n + k)) = true ↔
          q.offset n ≤ p.offset n + k ∧ p.offset n + k < q.offset n + q.dataLengthBytes := by
      have := hahead q hq
      have := (hord.near q hq).2
      exact TCPPacket.covers_iff (hord.data q hq) (by omega) (by omega)
    unfold isNew
    rw [hn, hseq, Bool.and_eq_true, hle, List.all_eq_true, Intervals.mem_cover]
    simp only [List.mem_map, exists_exists_and_eq_and, TCPPacket.interval, Bool.not_eq_true']
    constructor
    · rintro ⟨h0, hall⟩
      refine ⟨h0, ?_⟩
      rintro ⟨-, q, hq, hin⟩
      rw [← hcov h0 q hq, hall q hq] at hin
      cases hin
    · rintro ⟨h0, hout⟩
      refine ⟨h0, fun q hq => ?_⟩
      rw [← Bool.not_eq_true, hcov h0 q hq]
      exact fun hin => hout ⟨h0, q, hq, hin⟩
  unfold newBytes
  refine Finset.card_bij (fun k _ => p.offset n + k) (fun k hk => ?_) (fun k _ j _ hkj => by omega) (fun x hx => ?_)
  · obtain ⟨hk, hi⟩ := Finset.mem_filter.1 hk
    have hk := Finset.mem_range.1 hk
    obtain ⟨h0, hout⟩ := (hnew k hk).1 hi
    simp only [TCPPacket.interval, Finset.mem_sdiff, Finset.mem_Ico, max_le_iff]
    exact ⟨⟨⟨h0, by omega⟩, by omega⟩, hout⟩
  · simp only [TCPPacket.interval, Finset.mem_sdiff, Finset.mem_Ico, max_le_iff] at hx
    obtain ⟨⟨⟨h0, hlo⟩, hhi⟩, hout⟩ := hx
    obtain ⟨k, hk⟩ := Int.eq_ofNat_of_zero_le (show 0 ≤ x - p.offset n by omega)
    have hxk : p.offset n + k = x := by omega
    have hk' : k < p.data.length := by omega
    refine ⟨k, Finset.mem_filter.2 ⟨Finset.mem_range.2 hk', (hnew k hk').2 ?_⟩, hxk⟩
    rw [hxk]
    exact ⟨h0, hout⟩

/-- `insert` adds the new bytes to the count. -/
theorem Held.sizeLoop_place (h : b.Held)
    (hp : p.Near b.firstExpectedSequenceNumber) (hd : 0 < p.dataLengthBytes) :
    sizeLoop b.firstExpectedSequenceNumber (b.place p) = b.windowSize + b.newBytes p := by
  unfold windowSize
  rw [(h.ordered.place_ordered hp hd).sizeLoop_eq, h.ordered.sizeLoop_eq, h.newBytes_eq hp,
    Intervals.card_cover_put (h.ordered.facing hp).place_covered]
  push_cast
  rfl

/-- `insert` on a started window returns the new bytes and leaves the window in order. -/
theorem Held.insert (h : b.Held) (hb : b.Counted) (hp : p.Near b.firstExpectedSequenceNumber)
    (hd : 0 < p.dataLengthBytes) (hs : b.started = true) :
    ∃ b', b.insert p = .ok (b.newBytes p, b') ∧ b'.started = true ∧
      b'.firstExpectedSequenceNumber = b.firstExpectedSequenceNumber ∧
      Ordered b.firstExpectedSequenceNumber b'.buffer ∧
      (b'.buffer = [] ↔ b.buffer = [] ∧ b.newBytes p = 0) := by
  have hgrow := h.sizeLoop_place hp hd
  have hordered := h.ordered.place_ordered hp hd
  obtain ⟨l₁, l₂, l₃, hl, -, -, hplace⟩ := (h.ordered.facing hp).place
  have hne : b.place p ≠ [] := by
    rcases hplace with ⟨-, -, hplace⟩ | ⟨q, hq, -, -, ⟨-, hplace⟩ | ⟨-, hplace⟩⟩
    · simp [hplace]
    · simp [hplace]
    · simp [hplace, hl, hq]
  rw [insert_eq hb.sized p hs, if_neg (by omega)]
  split
  · rename_i hsame
    have hzero : b.newBytes p = 0 := by omega
    rw [hzero]
    exact ⟨_, rfl, hs, rfl, h.ordered, by simp⟩
  · rename_i hsame
    have hgrown : sizeLoop b.firstExpectedSequenceNumber (b.place p) - b.windowSize = b.newBytes p := by omega
    rw [hgrown]
    refine ⟨{ b with
      buffer := b.place p
      cachedSize := sizeLoop b.firstExpectedSequenceNumber (b.place p) }, rfl, hs, rfl, hordered, ?_⟩
    constructor
    · exact fun he => absurd he hne
    · rintro ⟨hnil, hzero⟩
      have hfound : b.found p = none := by
        unfold found
        rw [hnil]
        rfl
      exact absurd ⟨by omega, hfound⟩ hsame

/-- The window that `get_continuous_data` leaves is in order, with a gap in front. -/
theorem Ordered.getContinuousData {b' : TCPPacketBuffer} {s : BitVec 32} {l : List UInt8}
    (h : Ordered b.firstExpectedSequenceNumber b.buffer) (hg : b.getContinuousData s = .ok (l, b')) : b'.Held := by
  unfold TCPPacketBuffer.getContinuousData at hg
  obtain ⟨_, -, hg⟩ := bind_eq_ok.1 hg
  split at hg
  · rename_i hnil
    cases hg
    exact ⟨h, by simp [hnil]⟩
  · obtain ⟨_, hf, hg⟩ := bind_eq_ok.1 hg
    have hf : b.firstExpectedSequenceNumber = s := by simpa using check_eq_ok.1 hf
    cases hg
    rw [hf] at h
    obtain ⟨y, taken, hy, -, hnumber, hsplit, -, -, hstop⟩ := h.reached.walk.continuousLoop_taken
    have hzero : s + BitVec.ofInt 32 0 = s := by simp
    rw [hzero] at hnumber hsplit hstop
    have hsub : (continuousLoop s b.buffer).2.2.Sublist b.buffer := by
      conv_rhs => rw [hsplit]
      exact List.sublist_append_right _ _
    have hrest := h.sublist hsub
    have hoffset (q : TCPPacket) (hq : q ∈ (continuousLoop s b.buffer).2.2) :
        q.offset (s + BitVec.ofInt 32 y) = q.offset s - y :=
      TCPPacket.offset_add hy (hstop q hq).le (hrest.near q hq)
    have hahead (q : TCPPacket) (hq : q ∈ (continuousLoop s b.buffer).2.2) :
        0 < q.offset (s + BitVec.ofInt 32 y) := by
      have := hstop q hq
      rw [hoffset q hq]
      omega
    refine ⟨?_, ?_⟩
    · change Ordered (continuousLoop s b.buffer).2.1 (continuousLoop s b.buffer).2.2
      rw [hnumber]
      refine ⟨hrest.data, fun q hq => ?_, hrest.sorted.imp_of_mem fun {q r} hq hr hlt => ?_⟩
      · have h1 := hahead q hq
        have h2 := (hrest.near q hq).2
        have h3 := hoffset q hq
        exact ⟨by omega, by omega⟩
      · rw [hoffset q hq, hoffset r hr]
        omega
    · change ∀ q ∈ (continuousLoop s b.buffer).2.2, 0 < q.offset (continuousLoop s b.buffer).2.1
      rw [hnumber]
      exact hahead

end Place

end TCPPacketBuffer

end Wifu
