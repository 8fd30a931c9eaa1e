import Wifu.Reassembly
import Wifu.WindowBalance

/-!
# The receiving side reassembles a stream

While the peer sends slices of one stream, the receiving side of an endpoint carries out a `Reassembly`: accepted data
is an insert followed by `get_continuous_data`.  The window and the bytes held out of order together are the space in
front of `rcv_nxt`; every byte received lies before the end of this space, so a slice that does too always fits.
-/

namespace Wifu

/-! ### Bytes that wait for a gap to be filled -/

namespace Reassembly

variable {stream : Nat → UInt8} {s₀ : BitVec 32} {t : Reassembly} {a : Nat} {p : TCPPacket}

/-- The positions received that have not been delivered. -/
def waiting (t : Reassembly) : Finset Nat := t.received.filter (t.delivered.length ≤ ·)

/-- The count of the window is the number of bytes that wait. -/
theorem Reassembled.windowSize_eq (h : t.Reassembled stream s₀) : t.window.windowSize = t.waiting.card := by
  have hcard : t.waiting.card = (Intervals.cover 0
      (t.window.buffer.map (TCPPacket.interval t.window.firstExpectedSequenceNumber))).card := by
    refine Finset.card_bij (fun k _ => (k : Int) - t.delivered.length) (fun k hk => ?_)
      (fun k _ j _ hkj => by omega) (fun x hx => ?_)
    · obtain ⟨hr, hle⟩ := Finset.mem_filter.1 hk
      rw [← covers_iff (by omega)]
      exact (h.pending k hle).1 hr
    · have h0 := (Intervals.mem_cover.1 hx).1
      obtain ⟨k, hk⟩ := Int.eq_ofNat_of_zero_le (show 0 ≤ x + t.delivered.length by omega)
      have hkx : (k : Int) - t.delivered.length = x := by omega
      refine ⟨k, Finset.mem_filter.2 ⟨?_, by omega⟩, hkx⟩
      rw [h.pending k (by omega), covers_iff (by omega), hkx]
      exact hx
  have hsize : t.window.windowSize = _ := h.walk.sizeLoop_eq_card
  rw [hsize, hcard]

/-- The new bytes of a slice are those not received yet. -/
theorem Reassembled.newBytes_eq_card (h : t.Reassembled stream s₀) (hi : Allowed stream s₀ t (.insert a p)) :
    newBytes s₀ t a p = ((positions a p).filter fun k => t.delivered.length ≤ k ∧ k ∉ t.received).card := by
  unfold newBytes
  congr 1
  refine Finset.filter_congr fun k hk => and_congr_right fun hle => not_congr ?_
  have hlt := (Finset.mem_Ico.1 hk).2
  have hbound := hi.2.2.2.bounds.2.1
  rw [h.buffered_iff hle (by omega), h.pending k hle]

/-- New bytes and waiting bytes together have room where all of them lie. -/
theorem Reassembled.newBytes_le {m : Nat} (h : t.Reassembled stream s₀) (hi : Allowed stream s₀ t (.insert a p))
    (hin : ∀ k ∈ t.received, k < t.delivered.length + m) (hend : a + p.data.length ≤ t.delivered.length + m) :
    newBytes s₀ t a p + t.window.windowSize ≤ m := by
  have hdisj : Disjoint ((positions a p).filter fun k => t.delivered.length ≤ k ∧ k ∉ t.received) t.waiting := by
    rw [Finset.disjoint_left]
    intro k hk hw
    exact (Finset.mem_filter.1 hk).2.2 (Finset.mem_filter.1 hw).1
  have hsub : ((positions a p).filter fun k => t.delivered.length ≤ k ∧ k ∉ t.received) ∪ t.waiting ⊆
      Finset.Ico t.delivered.length (t.delivered.length + m) := by
    intro k hk
    rw [Finset.mem_Ico]
    rcases Finset.mem_union.1 hk with hk | hk
    · obtain ⟨hp, hle, -⟩ := Finset.mem_filter.1 hk
      have := (Finset.mem_Ico.1 hp).2
      exact ⟨hle, by omega⟩
    · obtain ⟨hr, hle⟩ := Finset.mem_filter.1 hk
      exact ⟨hle, hin k hr⟩
  have hcard := Finset.card_le_card hsub
  rw [Finset.card_union_of_disjoint hdisj, Nat.card_Ico, ← h.newBytes_eq_card hi] at hcard
  rw [h.windowSize_eq]
  omega

/-- The packets that stay lie behind a gap. -/
theorem Reassembled.taken_ahead (h : t.Reassembled stream s₀) : ∀ q ∈ t.taken.window.buffer, 0 < t.taken.offset q := by
  obtain ⟨m, l, -, -, -, -, hrest⟩ := h.exists_taken
  intro q hq
  obtain ⟨hbehind, hoffset⟩ := hrest q hq
  omega

/-- Inserting a slice and taking out the continuous data. -/
theorem Reassembled.insert_continuous (h : t.Reassembled stream s₀) (hi : Allowed stream s₀ t (.insert a p)) :
    ∃ (w w' : TCPPacketBuffer) (l : List UInt8) (u : Reassembly),
      t.window.insert p = .ok ((newBytes s₀ t a p : Int), w) ∧
      w.getContinuousData t.window.firstExpectedSequenceNumber = .ok (l, w') ∧ u.window = w' ∧
      u.Reassembled stream s₀ ∧ (∀ q ∈ u.window.buffer, 0 < u.offset q) ∧ u.delivered = t.delivered ++ l ∧
      u.received = t.received ∪ positions a p := by
  obtain ⟨u, hstep, hu, hdelivered, hreturned⟩ := h.insert hi
  obtain ⟨⟨n, w⟩, hinsert, hstep⟩ := bind_eq_ok.1 hstep
  cases hstep
  have hn : n = newBytes s₀ t a p := by
    simp only at hreturned
    omega
  have hfirst : w.firstExpectedSequenceNumber = t.window.firstExpectedSequenceNumber := by
    rw [h.number]
    exact hu.number
  rw [hn] at hinsert
  by_cases hnil : w.buffer = []
  · refine ⟨w, w, [], _, hinsert, ?_, rfl, hu, by simp [hnil], by simp, rfl⟩
    have hstarted : check w.started .notStarted = .ok () := check_eq_ok.2 hu.started
    unfold TCPPacketBuffer.getContinuousData
    rw [hstarted, if_pos hnil]
    rfl
  · have hget := step_getContinuousData hu.started hnil
    obtain ⟨⟨l, w'⟩, hget, htaken⟩ := bind_eq_ok.1 hget
    have htaken := Except.ok.inj htaken
    rw [hfirst] at hget
    refine ⟨w, w', l, Reassembly.taken _, hinsert, hget, ?_, hu.taken.1, hu.taken_ahead, ?_, rfl⟩
    · rw [← htaken]
    · rw [← htaken]

end Reassembly

/-! ### The receiving side -/

namespace ReceiveView

/-- The bytes held out of order. -/
def held (v : ReceiveView) : Nat := v.receiveWindow.windowSize.toNat

/-- The window and the bytes held in it. -/
def space (v : ReceiveView) : Nat := v.rcvWnd.toNat + v.held

/-- The receiving side carries out the reassembly `t` of the stream, whose first number is `s₀`. -/
structure Receives (stream : Nat → UInt8) (s₀ : BitVec 32) (v : ReceiveView) (t : Reassembly) : Prop where
  window : v.receiveWindow = t.window
  rcvNxt : v.rcvNxt = t.window.firstExpectedSequenceNumber
  reassembled : t.Reassembled stream s₀
  ahead : ∀ q ∈ t.window.buffer, 0 < t.offset q
  inside : ∀ k ∈ t.received, k < t.delivered.length + v.space

/-- The receiving side carries out the reassembly `t`, wherever the bytes that it holds lie. -/
structure Follows (stream : Nat → UInt8) (s₀ : BitVec 32) (v : ReceiveView) (t : Reassembly) : Prop where
  window : v.receiveWindow = t.window
  rcvNxt : v.rcvNxt = t.window.firstExpectedSequenceNumber
  reassembled : t.Reassembled stream s₀
  ahead : ∀ q ∈ t.window.buffer, 0 < t.offset q

variable {stream : Nat → UInt8} {s₀ : BitVec 32} {v v' : ReceiveView} {t : Reassembly} {a n m : Nat} {p : TCPPacket}

theorem Receives.follows (h : Receives stream s₀ v t) : Follows stream s₀ v t :=
  ⟨h.window, h.rcvNxt, h.reassembled, h.ahead⟩

theorem Follows.number (h : Follows stream s₀ v t) : v.rcvNxt = s₀ + BitVec.ofNat 32 t.delivered.length :=
  h.rcvNxt.trans h.reassembled.number

theorem Receives.number (h : Receives stream s₀ v t) : v.rcvNxt = s₀ + BitVec.ofNat 32 t.delivered.length :=
  h.follows.number

theorem Receives.held_eq (h : Receives stream s₀ v t) : (v.held : Int) = v.receiveWindow.windowSize := by
  have hnonneg := h.reassembled.counted.nonneg
  unfold held
  rw [h.window]
  omega

/-- Only `rcv_nxt` and the window matter. -/
theorem Follows.congr (h : Follows stream s₀ v t) (hn : v'.rcvNxt = v.rcvNxt)
    (hw : v'.receiveWindow = v.receiveWindow) : Follows stream s₀ v' t :=
  ⟨hw.trans h.window, hn.trans h.rcvNxt, h.reassembled, h.ahead⟩

/-- A slice may be inserted that ends, like all bytes received, within `m` bytes of the first expected one, unless the
stream has moved on by half the sequence space since. -/
theorem Follows.allowed (h : Follows stream s₀ v t) (hin : ∀ k ∈ t.received, k < t.delivered.length + m)
    (hnumber : p.sequenceNumber = s₀ + BitVec.ofNat 32 a) (hne : p.data ≠ [])
    (hdata : p.data = Slice.slice stream a p.data.length) (hend : a + p.data.length ≤ t.delivered.length + m)
    (hm : m < 2147483648) (hlate : t.delivered.length + m < a + 2147483648) :
    Reassembly.Allowed stream s₀ t (.insert a p) := by
  have hbuffered (q : TCPPacket) (hq : q ∈ t.window.buffer) :
      0 < t.offset q ∧ t.offset q + q.data.length ≤ m := by
    have hahead := h.ahead q hq
    have hpos := h.reassembled.walk.data q hq
    have hlen := q.length_data
    obtain ⟨k, hk⟩ := Int.eq_ofNat_of_zero_le
      (show 0 ≤ t.delivered.length + t.offset q + q.dataLengthBytes - 1 by omega)
    have hcovers : t.Covers ((k : Int) - t.delivered.length) := ⟨q, hq, by omega, by omega⟩
    have hlt := hin k ((h.reassembled.pending k (by omega)).2 hcovers)
    exact ⟨hahead, by omega⟩
  have hspan (x : Int × Int) (hx : x ∈ t.spans a p) : x.2 ≤ t.delivered.length + m ∧
      (t.delivered.length ≤ x.1 ∨ a ≤ x.1) := by
    rcases List.mem_cons.1 hx with rfl | hx
    · exact ⟨by simp only; omega, .inl (by simp)⟩
    · rcases List.mem_cons.1 hx with rfl | hx
      · exact ⟨by simp only; omega, .inr (by simp)⟩
      · obtain ⟨q, hq, rfl⟩ := List.mem_map.1 hx
        obtain ⟨h1, h2⟩ := hbuffered q hq
        exact ⟨by simp only; omega, .inl (by simp only; omega)⟩
  refine ⟨hnumber, hne, hdata, fun x hx y hy => ?_⟩
  have hx := (hspan x hx).1
  have hy := (hspan y hy).2
  omega

/-- A slice that ends before the end of the space may be inserted, unless the stream has moved on by half the sequence
space since. -/
theorem Receives.allowed (h : Receives stream s₀ v t) (hspace : v.space ≤ maxTcpReceiveWindowSize)
    (hnumber : p.sequenceNumber = s₀ + BitVec.ofNat 32 a) (hne : p.data ≠ [])
    (hdata : p.data = Slice.slice stream a p.data.length) (hend : a + p.data.length ≤ t.delivered.length + v.space)
    (hlate : t.delivered.length + maxTcpReceiveWindowSize < a + 2147483648) :
    Reassembly.Allowed stream s₀ t (.insert a p) := by
  have hmax : maxTcpReceiveWindowSize = 65535 := rfl
  exact h.follows.allowed h.inside hnumber hne hdata hend (by omega) (by omega)

/-- A slice that is accepted carries the reassembly on. -/
theorem Follows.data (h : Follows stream s₀ v t) (hi : Reassembly.Allowed stream s₀ t (.insert a p))
    (hok : v.data p = .ok v') :
    ∃ (u : Reassembly) (l : List UInt8), Follows stream s₀ v' u ∧ u.delivered = t.delivered ++ l ∧
      v'.receiveBuffer = v.receiveBuffer ++ l ∧ v'.receiveIndex = v.receiveIndex ∧
      u.received = t.received ∪ Reassembly.positions a p := by
  obtain ⟨w, w', l, u, hinsert, hget, hwindow, hu, hahead, hdelivered, hreceived⟩ := h.reassembled.insert_continuous hi
  rw [← h.window] at hinsert
  rw [← h.rcvNxt] at hget
  unfold ReceiveView.data at hok
  obtain ⟨r, hr, hok⟩ := bind_eq_ok.1 hok
  cases hinsert.symm.trans hr
  obtain ⟨_, -, hok⟩ := bind_eq_ok.1 hok
  obtain ⟨r, hr, hok⟩ := bind_eq_ok.1 hok
  cases hget.symm.trans hr
  cases hok
  refine ⟨u, l, ⟨hwindow.symm, ?_, hu, hahead⟩, hdelivered, rfl, rfl, hreceived⟩
  have hlen : u.delivered.length = t.delivered.length + l.length := by
    rw [hdelivered, List.length_append]
  rw [hu.number, hlen, ← Serial.ofNat_add_ofNat]
  simp only [h.number]
  ac_rfl

/-- A slice that ends before the end of the space is accepted without a failed assertion. -/
theorem Receives.data (h : Receives stream s₀ v t) (hi : Reassembly.Allowed stream s₀ t (.insert a p))
    (hend : a + p.data.length ≤ t.delivered.length + v.space) :
    ∃ (v' : ReceiveView) (u : Reassembly) (l : List UInt8),
      v.data p = .ok v' ∧ Receives stream s₀ v' u ∧ u.delivered = t.delivered ++ l ∧
      v'.receiveBuffer = v.receiveBuffer ++ l ∧ v'.receiveIndex = v.receiveIndex ∧
      u.delivered.length + v'.space = t.delivered.length + v.space := by
  obtain ⟨w, w', l₀, u₀, hinsert, hget, -⟩ := h.reassembled.insert_continuous hi
  have hroom := h.reassembled.newBytes_le hi h.inside hend
  have hheld := h.held_eq
  have hcheck : check (decide ((Reassembly.newBytes s₀ t a p : Int) ≤ v.rcvWnd.toNat)) .windowOverflow = .ok () := by
    rw [check_eq_ok, decide_eq_true_eq]
    rw [h.window] at hheld
    unfold space at hroom
    omega
  rw [← h.window] at hinsert
  rw [← h.rcvNxt] at hget
  have hok : v.data p = .ok _ :=
    bind_eq_ok.2 ⟨_, hinsert, bind_eq_ok.2 ⟨_, hcheck, bind_eq_ok.2 ⟨_, hget, rfl⟩⟩⟩
  obtain ⟨u, l, hu, hdelivered, hbuffer, hindex, hreceived⟩ := h.follows.data hi hok
  -- what the window loses is held
  have hpos : 0 < p.dataLengthBytes := by
    have hlen := p.length_data
    have := List.length_pos_iff.2 hi.2.1
    omega
  obtain ⟨l', hstep⟩ := data_ok (h.window ▸ h.reassembled.counted) hpos hok
  have hl : l = l' := List.append_cancel_left (hbuffer.symm.trans hstep.receiveBuffer)
  subst hl
  generalize ({ v with
    rcvWnd := BitVec.ofInt 16 (v.rcvWnd.toNat - Reassembly.newBytes s₀ t a p)
    rcvNxt := v.rcvNxt + BitVec.ofNat 32 l₀.length
    receiveWindow := w'
    receiveBuffer := v.receiveBuffer ++ l₀ } : ReceiveView) = v' at *
  have hlen : u.delivered.length = t.delivered.length + l.length := by
    rw [hdelivered, List.length_append]
  have hheld' : (v'.held : Int) = v'.receiveWindow.windowSize := by
    have := hstep.counted.nonneg
    unfold held
    omega
  have hspace : u.delivered.length + v'.space = t.delivered.length + v.space := by
    have hbalance := hstep.balance
    unfold space
    omega
  refine ⟨v', u, l, hok, ⟨hu.window, hu.rcvNxt, hu.reassembled, hu.ahead, fun k hk => ?_⟩, hdelivered, hbuffer, hindex,
    hspace⟩
  rw [hspace]
  rw [hreceived] at hk
  rcases Finset.mem_union.1 hk with hk | hk
  · exact h.inside k hk
  · have := (Finset.mem_Ico.1 hk).2
    omega

theorem Balanced.space_le (hb : v.Balanced) : v.space ≤ maxTcpReceiveWindowSize := by
  have htotal := hb.total
  have hnonneg := hb.counted.nonneg
  unfold ReceiveView.total at htotal
  unfold space held
  omega

/-- A read makes the space bigger by the bytes read. -/
theorem Balanced.read_space (hb : v.Balanced) (hn : n ≤ v.unread) : (v.read n).space = v.space + n := by
  have hread := read_rcvWnd hn hb.counted.nonneg hb.bounded.total_le
  have hheld : (v.read n).held = v.held := rfl
  unfold space
  omega

theorem Receives.read (h : Receives stream s₀ v t) (hb : v.Balanced) (hn : n ≤ v.unread) :
    Receives stream s₀ (v.read n) t := by
  refine ⟨h.window, h.rcvNxt, h.reassembled, h.ahead, fun k hk => ?_⟩
  have := h.inside k hk
  rw [hb.read_space hn]
  omega

theorem Receives.moved (h : Receives stream s₀ v t) : Receives stream s₀ v.moved t :=
  ⟨h.window, h.rcvNxt, h.reassembled, h.ahead, h.inside⟩

end ReceiveView

namespace Endpoint

variable {stream : Nat → UInt8} {s₀ : BitVec 32} {e : Endpoint} {i : Input} {v : ReceiveView} {t : Reassembly}

/-- What a step delivers is a slice that may be inserted and ends before the end of the space, or carries no data. -/
def DeliversSlice (stream : Nat → UInt8) (s₀ : BitVec 32) (e : Endpoint) (i : Input) (t : Reassembly) : Prop :=
  ∀ p ∈ e.delivered i, e.accepts p = true → p.syn = false ∧ p.fin = false ∧ (p.data ≠ [] →
    ∃ a, Reassembly.Allowed stream s₀ t (.insert a p) ∧
      a + p.data.length ≤ t.delivered.length + e.receiveView.space)

/-- A step that delivers a slice carries the reassembly on, and the end of the space does not move back. -/
theorem ReceiveStep.receives (hstep : ReceiveStep e i v) (hr : ReceiveView.Receives stream s₀ e.receiveView t)
    (hb : e.receiveView.Balanced) (hslice : DeliversSlice stream s₀ e i t) :
    ∃ u l, ReceiveView.Receives stream s₀ v u ∧ u.delivered = t.delivered ++ l ∧
      l.length ≤ e.receiveView.space ∧
      t.delivered.length + e.receiveView.space ≤ u.delivered.length + v.space := by
  cases hstep with
  | same _ h => exact ⟨t, [], h ▸ hr, by simp, by simp, by rw [h]⟩
  | read n _ hn h =>
    refine ⟨t, [], h ▸ hr.read hb hn, by simp, by simp, ?_⟩
    rw [h, hb.read_space hn]
    omega
  | moved _ _ h =>
    refine ⟨t, [], h ▸ hr.moved, by simp, by simp, ?_⟩
    rw [h]
    exact le_rfl
  | accept p hp ha h =>
    obtain ⟨hsyn, hfin, hdata⟩ := hslice p hp ha
    unfold ReceiveView.receive at h
    rw [if_neg (by simp [hsyn, hfin])] at h
    split at h
    · rename_i hpos
      have hlen := p.length_data
      obtain ⟨a, hallowed, hend⟩ := hdata (List.length_pos_iff.1 (by omega))
      obtain ⟨v', u, l, hok, hu, hl, -, -, hspace⟩ := hr.data hallowed hend
      rw [hok] at h
      cases h
      refine ⟨u, l, hu, hl, ?_, hspace.ge⟩
      rw [hl, List.length_append] at hspace
      omega
    · cases h
      exact ⟨t, [], hr, by simp, by simp, le_rfl⟩

end Endpoint

end Wifu
