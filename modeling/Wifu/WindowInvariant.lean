import Wifu.CircularOrder
import Wifu.WindowOrder
import Wifu.Lib.Transition

/-!
# The representation of the out-of-order window (`TCPPacketBuffer.cc`)

The packets of the window are sorted by their sequence numbers, and a count that is kept is the one that `size` would
compute.  The order needs the packets to start in one window of less than half the sequence space, and only when one is
put in (`Represented.insert`); what the other operations leave is a part of the list.  The count needs nothing: every
path that changes the list without marking the count puts the list back as it was counted.
-/

namespace Wifu

/-- An operation on a `TCPPacketBuffer` that has its first sequence number. -/
inductive BufferOperation
  | insert (p : TCPPacket)
  | remove (p : TCPPacket)
  | getContinuousData (sequenceNumber : BitVec 32)
  | size
  deriving DecidableEq

namespace TCPPacketBuffer

open Transition

/-- The buffer as a machine; only packets of the buffer are removed, and a failed assertion ends the run. -/
def operations : Machine TCPPacketBuffer BufferOperation Abort where
  enabled op b :=
    match op with
    | .remove p => p ∈ b.buffer
    | _ => True
  step op b :=
    match op with
    | .insert p => do
      let r ← b.insert p
      .ok r.2
    | .remove p => .ok (b.remove p).2
    | .getContinuousData sequenceNumber => do
      let r ← b.getContinuousData sequenceNumber
      .ok r.2
    | .size => do
      check b.started .notStarted
      .ok b.sized

instance (op : BufferOperation) (b : TCPPacketBuffer) : Decidable (operations.enabled op b) :=
  match op with
  | .remove p => inferInstanceAs (Decidable (p ∈ b.buffer))
  | .insert _ | .getContinuousData _ | .size => .isTrue trivial

/-- The packets start in the window of less than half the sequence space from `n` on. -/
def StartIn (n : BitVec 32) (l : List TCPPacket) : Prop := ∀ q ∈ l, Serial.dist n q.sequenceNumber < 2147483648

instance (n : BitVec 32) (l : List TCPPacket) : Decidable (StartIn n l) := inferInstanceAs (Decidable (∀ q ∈ l, _))

/-- When a packet is put in, it and the packets of the buffer start in one window. -/
def Windowed (b : TCPPacketBuffer) (op : BufferOperation) : Prop :=
  ∀ p, op = .insert p → ∃ n, StartIn n (p :: b.buffer)

/-- The invariant: sorted packets, and a count that is up to date where there is one. -/
structure Represented (b : TCPPacketBuffer) : Prop where
  sorted : b.buffer.Pairwise fun p q => lessThan p.sequenceNumber q.sequenceNumber = true
  cached : 0 ≤ b.cachedSize → b.cachedSize = b.windowSize

variable {n : BitVec 32} {b t : TCPPacketBuffer} {p : TCPPacket} {l : List TCPPacket}

/-! ### The order in a window -/

theorem offset_of_startIn (h : StartIn n l) {q : TCPPacket} (hq : q ∈ l) :
    q.offset n = Serial.dist n q.sequenceNumber :=
  toInt_dist (h q hq)

/-- In a window the packets are sorted by number when they are sorted by offset. -/
theorem sorted_iff (h : StartIn n l) : (l.Pairwise fun p q => lessThan p.sequenceNumber q.sequenceNumber = true) ↔
    l.Pairwise fun p q => p.offset n < q.offset n := by
  refine List.Pairwise.iff_of_mem fun {x y} hx hy => ?_
  rw [lessThan_of_window (h x hx) (h y hy), offset_of_startIn h hx, offset_of_startIn h hy]
  omega

theorem facing_of_startIn (hb : b.buffer.Pairwise fun p q => lessThan p.sequenceNumber q.sequenceNumber = true)
    (h : StartIn n (p :: b.buffer)) : Facing n p b.buffer := by
  have hp := h p List.mem_cons_self
  have hrest : StartIn n b.buffer := fun q hq => h q (List.mem_cons_of_mem _ hq)
  refine ⟨(sorted_iff hrest).1 hb, fun q hq => ?_, fun q hq => ?_⟩
  · rw [offset_of_startIn h List.mem_cons_self, offset_of_startIn hrest hq]
    omega
  · have := hrest q hq
    rw [offset_of_startIn h List.mem_cons_self, offset_of_startIn hrest hq]
    omega

/-! ### The operations -/

theorem Represented.start (n : BitVec 32) : Represented (({} : TCPPacketBuffer).setFirstSequenceNumber n) where
  sorted := .nil
  cached h := absurd h (by simp [setFirstSequenceNumber])

theorem Represented.sized_eq (h : Represented b) : b.sized = { b with cachedSize := b.windowSize } := by
  unfold sized
  split
  · rename_i hle
    rw [← h.cached hle]
  · rfl

theorem Represented.sized (h : Represented b) : Represented b.sized := by
  rw [h.sized_eq]
  exact ⟨h.sorted, fun _ => rfl⟩

/-- A shorter list with the mark is represented. -/
theorem Represented.markDirty (h : Represented b) {l : List TCPPacket} (hl : l.Sublist b.buffer) (n : BitVec 32) :
    Represented ({ b with buffer := l, firstExpectedSequenceNumber := n } : TCPPacketBuffer).markDirty where
  sorted := h.sorted.sublist hl
  cached hle := absurd hle (by simp [TCPPacketBuffer.markDirty])

theorem Represented.insert (h : Represented b) (hp : StartIn n (p :: b.buffer)) {k : Int}
    (hb : b.insert p = .ok (k, t)) : Represented t := by
  have hs : b.started = true := by
    unfold TCPPacketBuffer.insert at hb
    obtain ⟨_, hcheck, _⟩ := bind_eq_ok.1 hb
    exact check_eq_ok.1 hcheck
  rw [insert_eq h.sized_eq p hs] at hb
  split at hb
  · cases hb
  split at hb
  · -- no new bytes: the list is the one before
    cases hb
    exact ⟨h.sorted, fun _ => rfl⟩
  · cases hb
    refine ⟨?_, fun _ => rfl⟩
    have hplace : StartIn n (b.place p) := by
      intro q hq
      rcases mem_place hq with hq | rfl
      · exact hp q (List.mem_cons_of_mem _ hq)
      · exact hp q List.mem_cons_self
    exact (sorted_iff hplace).2 (facing_of_startIn h.sorted hp).place_sorted

theorem Represented.remove (h : Represented b) (p : TCPPacket) : Represented (b.remove p).2 := by
  unfold TCPPacketBuffer.remove
  split
  · split
    · exact h.markDirty (List.eraseIdx_sublist _ _) _
    · exact h
  · exact h

theorem Represented.getContinuousData (h : Represented b) {s : BitVec 32} {r : List UInt8}
    (hb : b.getContinuousData s = .ok (r, t)) : Represented t := by
  unfold TCPPacketBuffer.getContinuousData at hb
  obtain ⟨_, -, hb⟩ := bind_eq_ok.1 hb
  split at hb
  · cases hb
    exact h
  · obtain ⟨_, -, hb⟩ := bind_eq_ok.1 hb
    cases hb
    exact h.markDirty (continuousLoop_suffix _ _).sublist _

theorem Represented.step {op : BufferOperation} (h : Represented b) (hw : Windowed b op)
    (hs : operations.step op b = .ok t) : Represented t := by
  cases op with
  | insert p =>
    obtain ⟨n, hn⟩ := hw p rfl
    obtain ⟨⟨k, u⟩, hinsert, hs⟩ := bind_eq_ok.1 hs
    cases hs
    exact h.insert hn hinsert
  | remove p =>
    cases hs
    exact h.remove p
  | getContinuousData sequenceNumber =>
    obtain ⟨⟨r, u⟩, hget, hs⟩ := bind_eq_ok.1 hs
    cases hs
    exact h.getContinuousData hget
  | size =>
    obtain ⟨_, -, hs⟩ := bind_eq_ok.1 hs
    cases hs
    exact h.sized

/-- A packet of the buffer is found when it is removed. -/
theorem Represented.remove_eq (h : Represented b) (hn : StartIn n b.buffer) (hp : p ∈ b.buffer) :
    b.remove p = (some p, ({ b with buffer := b.buffer.erase p } : TCPPacketBuffer).markDirty) := by
  have hface : Facing n p b.buffer :=
    facing_of_startIn h.sorted (List.forall_mem_cons.2 ⟨hn p hp, hn⟩)
  obtain ⟨l₁, l₂, hl, hposition, hbefore, hbehind⟩ := hface.position
  have hnotbefore : p ∉ l₁ := fun hmem => absurd (hbefore p hmem) (lt_irrefl _)
  cases l₂ with
  | nil =>
    rw [hl, List.append_nil] at hp
    exact absurd hp hnotbefore
  | cons q l₂ =>
    have hq : q = p := by
      by_contra hne
      rw [hl, List.mem_append, List.mem_cons] at hp
      obtain hp | rfl | hp := hp
      · exact hnotbefore hp
      · exact hne rfl
      · have hsorted := hface.sorted
        rw [hl] at hsorted
        have hlt := (List.pairwise_cons.1 (List.pairwise_append.1 hsorted).2.1).1 p hp
        have hle := hbehind q List.mem_cons_self
        omega
    subst hq
    have hget : b.buffer[b.position q]? = some q := by simp [hl, hposition]
    have herase : b.buffer.eraseIdx (b.position q) = b.buffer.erase q := by
      rw [hl, hposition, List.erase_append_right _ hnotbefore, List.eraseIdx_append_of_length_le (le_refl _)]
      simp
    unfold TCPPacketBuffer.remove
    rw [hget, ← herase]
    simp

/-! ### Every sequence of operations -/

theorem represented_of_run {ops : List BufferOperation}
    (hrun : operations.Run Windowed (({} : TCPPacketBuffer).setFirstSequenceNumber n) ops b) : Represented b :=
  hrun.invariant Represented (.start n) fun _ _ _ h _ hw => h.step hw

/-- After any sequence of operations whose packets start in one window when one is put in, the packets are sorted and no two
have one number, and a count that is kept is the one of the packets from the first expected number on. -/
theorem representation {n : BitVec 32} {ops : List BufferOperation} {b : TCPPacketBuffer}
    (hrun : operations.Run Windowed (({} : TCPPacketBuffer).setFirstSequenceNumber n) ops b) :
    (b.buffer.Pairwise fun p q => lessThan p.sequenceNumber q.sequenceNumber = true) ∧
      (b.buffer.map (·.sequenceNumber)).Nodup ∧
      (0 ≤ b.cachedSize → b.cachedSize = sizeLoop b.firstExpectedSequenceNumber b.buffer) := by
  have h := represented_of_run hrun
  refine ⟨h.sorted, List.pairwise_map.2 (h.sorted.imp fun {p q} hlt heq => ?_), h.cached⟩
  rw [heq, lessThan_self] at hlt
  cases hlt

/-- The packets that are put in start in the window from `n` on, with those of the buffer. -/
def windowedFrom (n : BitVec 32) (b : TCPPacketBuffer) (op : BufferOperation) : Bool :=
  match op with
  | .insert p => decide (StartIn n (p :: b.buffer))
  | _ => true

theorem windowed_of_windowedFrom {op : BufferOperation} (h : windowedFrom n b op = true) : Windowed b op := by
  rintro p rfl
  exact ⟨n, of_decide_eq_true h⟩

/-- Two packets with one start, one without new bytes, one that is removed and one behind a gap, at numbers that wrap
past 0. -/
theorem representation_wrap : ∃ b : TCPPacketBuffer, b.buffer.length = 2 ∧ b.cachedSize = 4 ∧
    (b.buffer.map (·.sequenceNumber)).Nodup ∧ b.cachedSize = sizeLoop b.firstExpectedSequenceNumber b.buffer := by
  let packet (s : BitVec 32) (data : List UInt8) : TCPPacket :=
    { TCPPacket.new ⟨0, 0⟩ ⟨0, 0⟩ data with sequenceNumber := s }
  obtain ⟨b, hrun, hb⟩ := Machine.exists_run (M := operations) (P := fun b op => windowedFrom 0xfffffff0 b op = true)
    (s := ({} : TCPPacketBuffer).setFirstSequenceNumber 0xfffffffe)
    (i := [.insert (packet 1 [3]), .insert (packet 1 [3, 4]), .insert (packet 2 [4]), .insert (packet 0xfffffffe [0]),
      .getContinuousData 0xfffffffe, .insert (packet 7 [9]), .remove (packet 7 [9]), .insert (packet 8 [10, 11]), .size])
    (q := fun b => decide (b.buffer.length = 2 ∧ b.cachedSize = 4)) (by decide +kernel)
  obtain ⟨hlength, hsize⟩ := of_decide_eq_true hb
  have h := representation (hrun.mono fun _ _ => windowed_of_windowedFrom)
  exact ⟨b, hlength, hsize, h.2.1, h.2.2 (by omega)⟩

end TCPPacketBuffer

end Wifu
