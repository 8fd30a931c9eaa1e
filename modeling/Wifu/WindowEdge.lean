import Wifu.ReceiveStream
import Wifu.SendView

/-!
# The right edge of the receive window

The window that a segment offers ends at `rcv_nxt + rcv_wnd`.  Bytes received out of order make `rcv_wnd` smaller while
`rcv_nxt` stays, so the edge itself moves left; the edge and the bytes held out of order together never do.  A slice of
the peer's stream that lay in a window offered to it therefore always fits.
-/

namespace Wifu

open Slice (slice)

/-- The window that a segment offers, by positions of the stream. -/
structure Offer where
  /-- The position of the segment's ACK number. -/
  left : Int
  window : Nat
  /-- The bytes held out of order when the segment was sent. -/
  held : Nat
  deriving DecidableEq, Repr

/-- The right edge of the window. -/
def Offer.right (o : Offer) : Int := o.left + o.window

/-- What the peer has been offered. -/
structure Offers where
  /-- The position of `rcv_nxt`. -/
  next : Nat
  /-- The windows of the segments sent, the oldest first. -/
  offers : List Offer
  deriving DecidableEq, Repr

namespace Endpoint

/-- Records the windows that a step offers. -/
def observeOffers (e : Endpoint) (_ : Input) (e' : Endpoint) (h : Offers) : Offers :=
  let next := h.next + Serial.dist e.rc.rcvNxt e'.rc.rcvNxt
  let sent := (sentPackets e'.dispatched).drop (sentPackets e.dispatched).length
  { next := next
    offers := h.offers ++ sent.map fun q =>
      ⟨next + (q.ackNumber - e'.rc.rcvNxt).toInt, q.receiveWindowSize.toNat, e'.receiveView.held⟩ }

/-- The machine of an endpoint with a record of the windows it has offered. -/
def offeringMachine : Transition.Machine (Endpoint × Offers) Input Abort := machine.observed observeOffers

instance (i : Input) (s : Endpoint × Offers) : Decidable (offeringMachine.enabled i s) :=
  inferInstanceAs (Decidable (enabled i s.1))

/-- The peer's SYN has been processed, and nothing is held out of order. -/
structure Synchronized (e : Endpoint) : Prop where
  started : e.rc.receiveWindow.started = true
  rcvNxt : e.rc.rcvNxt = e.rc.receiveWindow.firstExpectedSequenceNumber
  buffer : e.rc.receiveWindow.buffer = []

/-- What the peer has been offered in the handshake. -/
def firstOffer (e : Endpoint) : Offers := ⟨0, [⟨0, e.rc.rcvWnd.toNat, 0⟩]⟩

/-- The position of a packet in the stream; of those with its number, the one nearest to `rcv_nxt`. -/
def position (s : Endpoint × Offers) (p : TCPPacket) : Int := s.2.next + (p.sequenceNumber - s.1.rc.rcvNxt).toInt

/-- The packet is a slice of the stream that lay in a window offered to the peer, and the stream has not moved on by
half the sequence space since. -/
def SliceOffered (stream : Nat → UInt8) (s : Endpoint × Offers) (p : TCPPacket) : Prop :=
  p.syn = false ∧ p.fin = false ∧ p.data ≠ [] ∧ 0 ≤ position s p ∧
    p.data = slice stream (position s p).toNat p.data.length ∧
    (∃ o ∈ s.2.offers, position s p + p.data.length ≤ o.right) ∧
    s.2.next + maxTcpReceiveWindowSize < position s p + 2147483648

instance (stream : Nat → UInt8) (s : Endpoint × Offers) (p : TCPPacket) : Decidable (SliceOffered stream s p) :=
  inferInstanceAs (Decidable (_ ∧ _ ∧ _ ∧ _ ∧ _ ∧ (∃ o ∈ s.2.offers, _) ∧ _))

/-- Undamaged packets come from the peer: they are slices of the stream or carry no data. -/
def fromPeer (stream : Nat → UInt8) (s : Endpoint × Offers) (i : Input) : Prop :=
  ∀ p ∈ s.1.delivered i, p.validChecksum = true →
    p.syn = false ∧ p.fin = false ∧ (p.data ≠ [] → SliceOffered stream s p)

instance (stream : Nat → UInt8) (s : Endpoint × Offers) (i : Input) : Decidable (fromPeer stream s i) :=
  inferInstanceAs (Decidable (∀ p ∈ s.1.delivered i, _))

/-! ### The window that a segment carries -/

section

variable {e e' : Endpoint} {i : Input} {p q : TCPPacket}

theorem sendPacket_advertises (h : e.sendPacket p = .ok e')
    (hs : sentPackets e'.dispatched = sentPackets e.dispatched ++ [q]) :
    q.ackNumber = e'.rc.rcvNxt ∧ q.receiveWindowSize = e'.rc.rcvWnd := by
  unfold sendPacket at h
  obtain ⟨⟨q', e₁⟩, h₁, h⟩ := bind_eq_ok.1 h
  cases h
  have hlog : sentPackets ((e₁.congestionSendPacket q').dispatch (.networkSendPacket q')).dispatched =
      sentPackets e.dispatched ++ [q'] := by
    rw [← sentPackets_congr (AckChange.sendPacket h₁).transfers]
    exact sentPackets_append
  have hq : q = q' := by
    rw [hs] at hlog
    exact List.singleton_inj.1 (List.append_inj' hlog rfl).2
  subst hq
  have hview := (AckChange.sendPacket h₁)
  unfold reliabilitySendPacket at h₁
  simp only at h₁
  obtain ⟨b, -, h₁⟩ := bind_eq_ok.1 h₁
  obtain ⟨q', h₂, h₁⟩ := bind_eq_ok.1 h₁
  cases h₁
  have hack : q'.ackNumber = (setSequenceNumber e.rc p).2.rcvNxt := by
    unfold insertTimestamp at h₂
    split at h₂
    · cases h₂
    · cases h₂
      rfl
  have hnext : (setSequenceNumber e.rc p).2.rcvNxt = e.rc.rcvNxt := by
    unfold setSequenceNumber
    split <;> rfl
  exact ⟨(hack.trans hnext).trans hview.rcvNxt.symm, rfl⟩

/-- A step sends at most one segment, with the window as it is then. -/
theorem step_advertises (hstep : step i e = .ok e') :
    sentPackets e'.dispatched = sentPackets e.dispatched ∨
      ∃ q, sentPackets e'.dispatched = sentPackets e.dispatched ++ [q] ∧ q.ackNumber = e'.rc.rcvNxt ∧
        q.receiveWindowSize = e'.rc.rcvWnd := by
  cases step_sendStep hstep with
  | same _ hs => exact .inl hs
  | acked _ _ _ _ _ _ _ hs => exact .inl hs
  | rewound _ _ _ _ hs => exact .inl hs
  | @sent p q vs hi hdel hq hsends =>
    subst hi
    have hcall := step_ok hstep
    cases hcall with
    | packet hd _ _ _ => cases hd
    | dropped hd h =>
      cases h
      have := hsends.sent
      simp at this
    | skipped hq' hc h =>
      rw [hq] at hq'
      cases hq'
      simp [contains, hdel] at hc
    | event hq' _ _ h =>
      rw [hq] at hq'
      cases hq'
      exact .inr ⟨q, hsends.sent, sendPacket_advertises h.symm hsends.sent⟩

end

/-! ### The invariant -/

/-- The receiving side reassembles the stream, and the windows offered end before the space does. -/
structure Offering (stream : Nat → UInt8) (s₀ : BitVec 32) (s : Endpoint × Offers) : Prop where
  balance : s.1.WindowBalance
  receives : ∃ t, ReceiveView.Receives stream s₀ s.1.receiveView t ∧ t.delivered.length = s.2.next
  ordered : s.2.offers.Pairwise fun a b : Offer => a.right + a.held ≤ b.right + b.held
  reach : ∀ o ∈ s.2.offers, o.right + o.held ≤ s.2.next + s.1.receiveView.space

section

variable {stream : Nat → UInt8} {s₀ : BitVec 32} {s s' : Endpoint × Offers} {i : Input} {e : Endpoint} {p : TCPPacket}

/-- From the handshake on, the receiving side carries out the reassembly that begins there. -/
theorem Synchronized.follows (hs : e.Synchronized) (hc : e.rc.receiveWindow.Counted) :
    ReceiveView.Follows stream e.rc.rcvNxt e.receiveView { window := e.rc.receiveWindow } := by
  have hbuffer := hs.buffer
  refine ⟨rfl, hs.rcvNxt, ⟨hs.started, hc, by simp [hs.rcvNxt], ⟨?_, ?_, ?_, ?_⟩, ?_, rfl, by simp, ?_, ?_⟩, ?_⟩
  · simp [hbuffer]
  · simp [hbuffer]
  · simp [hbuffer]
  · simp [hbuffer]
  · simp [TCPPacketBuffer.Slices, hbuffer]
  · simp [Reassembly.Covers, hbuffer]
  · simp [TCPPacketBuffer.windowSize, TCPPacketBuffer.sizeLoop, hbuffer]
  · simp [hbuffer]

theorem Offering.start (hw : e.WindowBalance) (hs : e.Synchronized) :
    Offering stream e.rc.rcvNxt (e, e.firstOffer) := by
  have hf : ReceiveView.Follows stream e.rc.rcvNxt e.receiveView { window := e.rc.receiveWindow } :=
    hs.follows hw.balanced.counted
  refine ⟨hw, ⟨_, ⟨hf.window, hf.rcvNxt, hf.reassembled, hf.ahead, by simp⟩, rfl⟩, by simp [firstOffer], ?_⟩
  intro o ho
  rw [firstOffer, List.mem_singleton] at ho
  subst ho
  have hspace : e.receiveView.space = e.rc.rcvWnd.toNat := by
    unfold ReceiveView.space ReceiveView.held
    rw [show e.receiveView.receiveWindow = e.rc.receiveWindow from rfl]
    simp [TCPPacketBuffer.windowSize, TCPPacketBuffer.sizeLoop, hs.buffer, receiveView]
  simp only [Offer.right, firstOffer, hspace]
  omega

/-- The number of the position of a packet. -/
theorem Offering.sequenceNumber (h : Offering stream s₀ s) (h0 : 0 ≤ position s p) :
    p.sequenceNumber = s₀ + BitVec.ofNat 32 (position s p).toNat := by
  obtain ⟨t, ht, hnext⟩ := h.receives
  have hnumber : s.1.rc.rcvNxt = s₀ + BitVec.ofNat 32 s.2.next := by
    rw [← hnext]
    exact ht.number
  have hpos : ((position s p).toNat : Int) = s.2.next + (p.sequenceNumber - s.1.rc.rcvNxt).toInt := by
    unfold position at h0 ⊢
    omega
  rw [← BitVec.ofInt_natCast, hpos, ← add_ofInt_add_ofInt, BitVec.ofInt_natCast, ← hnumber]
  exact (add_ofInt_toInt _).symm

/-- A slice that was offered may be inserted and ends before the space does. -/
theorem Offering.allowed (h : Offering stream s₀ s) {t : Reassembly}
    (ht : ReceiveView.Receives stream s₀ s.1.receiveView t) (hnext : t.delivered.length = s.2.next)
    (hp : SliceOffered stream s p) :
    Reassembly.Allowed stream s₀ t (.insert (position s p).toNat p) ∧
      (position s p).toNat + p.data.length ≤ t.delivered.length + s.1.receiveView.space := by
  obtain ⟨-, -, hne, h0, hdata, ⟨o, ho, hright⟩, hlate⟩ := hp
  have hreach := h.reach o ho
  have hend : (position s p).toNat + p.data.length ≤ t.delivered.length + s.1.receiveView.space := by omega
  exact ⟨ht.allowed h.balance.balanced.space_le (h.sequenceNumber h0) hne hdata hend (by omega), hend⟩

theorem accepts_validChecksum (h : e.accepts p = true) : p.validChecksum = true := by
  unfold accepts at h
  rw [Bool.and_eq_true] at h
  exact h.1

theorem Offering.deliversSlice (h : Offering stream s₀ s) (hc : fromPeer stream s i) {t : Reassembly}
    (ht : ReceiveView.Receives stream s₀ s.1.receiveView t) (hnext : t.delivered.length = s.2.next) :
    DeliversSlice stream s₀ s.1 i t := by
  intro p hp ha
  obtain ⟨hsyn, hfin, hdata⟩ := hc p hp (accepts_validChecksum ha)
  exact ⟨hsyn, hfin, fun hne => ⟨_, h.allowed ht hnext (hdata hne)⟩⟩

/-- What a step adds to the record. -/
theorem observeOffers_eq {e e' : Endpoint} {h : Offers} (hstep : Endpoint.step i e = .ok e') :
    ∃ l, observeOffers e i e' h = ⟨h.next + Serial.dist e.rc.rcvNxt e'.rc.rcvNxt, h.offers ++ l⟩ ∧
      (l = [] ∨ l = [⟨(h.next + Serial.dist e.rc.rcvNxt e'.rc.rcvNxt : Nat), e'.rc.rcvWnd.toNat, e'.receiveView.held⟩]) := by
  unfold observeOffers
  rcases step_advertises hstep with hs | ⟨q, hs, hack, hwnd⟩
  · refine ⟨[], ?_, .inl rfl⟩
    rw [hs, List.drop_eq_nil_of_le le_rfl]
    rfl
  · refine ⟨_, ?_, .inr rfl⟩
    rw [hs, List.drop_left' rfl]
    simp [hack, hwnd]

theorem Offering.step (h : Offering stream s₀ s) (hen : offeringMachine.enabled i s) (hc : fromPeer stream s i)
    (hstep : offeringMachine.step i s = .ok s') : Offering stream s₀ s' := by
  obtain ⟨hstep, hobs⟩ := Transition.Machine.observed_step.1 hstep
  obtain ⟨t, ht, hnext⟩ := h.receives
  have hslice := h.deliversSlice hc ht hnext
  have hb := h.balance.balanced
  have hsyn : synBeforeData s.1 i := by
    intro p hp ha hsyn
    rw [(hslice p hp ha).1] at hsyn
    cases hsyn
  have hw := h.balance.step hen hsyn hstep
  obtain ⟨u, l, hu, hl, hlength, hspace⟩ := (step_receiveView hstep).receives ht hb hslice
  have hlen : u.delivered.length = t.delivered.length + l.length := by
    rw [hl, List.length_append]
  -- the record follows `rcv_nxt`
  have hdist : Serial.dist s.1.rc.rcvNxt s'.1.rc.rcvNxt = l.length := by
    have hmax : maxTcpReceiveWindowSize = 65535 := rfl
    have hle := hb.space_le
    have h1 : s.1.rc.rcvNxt = _ := ht.number
    have h2 : s'.1.rc.rcvNxt = _ := hu.number
    rw [h1, h2, hlen, ← Serial.ofNat_add_ofNat, ← add_assoc]
    exact Serial.dist_add_ofNat _ (by omega)
  obtain ⟨new, hrecord, hnew⟩ := observeOffers_eq (h := s.2) hstep
  rw [hdist] at hrecord hnew
  rw [hrecord] at hobs
  have hnext' : s'.2.next = s.2.next + l.length := by rw [hobs]
  have hoffers : s'.2.offers = s.2.offers ++ new := by rw [hobs]
  have hreach (o : Offer) (ho : o ∈ s.2.offers) :
      o.right + o.held ≤ s'.2.next + s'.1.receiveView.space := by
    have := h.reach o ho
    omega
  have hlast (o : Offer) (ho : o ∈ new) : o.right + o.held = s'.2.next + s'.1.receiveView.space := by
    rcases hnew with rfl | rfl
    · cases ho
    · rw [List.mem_singleton] at ho
      rw [ho, hnext']
      have hspace' : s'.1.receiveView.space = s'.1.rc.rcvWnd.toNat + s'.1.receiveView.held := rfl
      simp only [Offer.right]
      omega
  refine ⟨hw, ⟨u, hu, by omega⟩, ?_, fun o ho => ?_⟩
  · rw [hoffers]
    refine List.pairwise_append.2 ⟨h.ordered, ?_, fun a ha b hb => ?_⟩
    · rcases hnew with rfl | rfl
      · exact .nil
      · exact List.pairwise_singleton _ _
    · rw [hlast b hb]
      exact hreach a ha
  · rw [hoffers] at ho
    rcases List.mem_append.1 ho with ho | ho
    · exact hreach o ho
    · exact (hlast o ho).le

/-! ### Slices that were offered -/

/-- A slice that was offered does not overflow the window. -/
theorem Offering.not_overflow (h : Offering stream s₀ s) (hp : SliceOffered stream s p) :
    Endpoint.step (.packet p) s.1 ≠ .error .windowOverflow := by
  intro herror
  obtain ⟨q, hq, -, hfail⟩ := step_error_receiveSide herror rfl
  have hqp : q = p := by
    simp only [delivered] at hq
    split at hq
    · cases hq
    · exact (Option.some_inj.1 hq).symm
  subst hqp
  obtain ⟨t, ht, hnext⟩ := h.receives
  obtain ⟨hallowed, hend⟩ := h.allowed ht hnext hp
  obtain ⟨v, -, -, hok, -⟩ := ht.data hallowed hend
  unfold ReceiveView.receive at hfail
  rw [if_neg (by simp [hp.1, hp.2.1]), hok] at hfail
  split at hfail <;> cases hfail

/-- Data whose last byte lies in the window passes the sequence check. -/
theorem isValidSequenceNumber_of_last {rc : TCPTahoeReliabilityContext} (hlen : 0 < p.dataLengthBytes)
    (hpos : 0 < p.offset rc.rcvNxt + p.dataLengthBytes)
    (hlast : p.offset rc.rcvNxt + p.dataLengthBytes ≤ rc.rcvWnd.toNat) : isValidSequenceNumber rc p = true := by
  have hwnd : 0 < rc.rcvWnd := by
    have : 0 < rc.rcvWnd.toNat := by omega
    bv_omega
  have hlt := rc.rcvWnd.isLt
  have hend : p.sequenceNumber + BitVec.ofInt 32 p.dataLengthBytes - 1 =
      rc.rcvNxt + BitVec.ofInt 32 (p.offset rc.rcvNxt + p.dataLengthBytes - 1) := by
    rw [sub_eq_iff_eq_add, p.sequenceNumber_eq rc.rcvNxt, add_ofInt_add_ofInt]
    have hone : (1 : BitVec 32) = BitVec.ofInt 32 1 := rfl
    rw [hone, add_ofInt_add_ofInt, sub_add_cancel]
  have hedge : rc.rcvNxt + rc.rcvWnd.setWidth 32 = rc.rcvNxt + BitVec.ofInt 32 rc.rcvWnd.toNat := by
    rw [BitVec.ofInt_natCast, BitVec.ofNat_toNat]
  have hzero : rc.rcvNxt = rc.rcvNxt + BitVec.ofInt 32 0 := by simp
  have hin : betweenEqualLeft rc.rcvNxt (p.sequenceNumber + BitVec.ofInt 32 p.dataLengthBytes - 1)
      (rc.rcvNxt + rc.rcvWnd.setWidth 32) = true := by
    unfold betweenEqualLeft
    rw [hend, hedge, Bool.and_eq_true]
    constructor
    · conv_lhs => arg 1; rw [hzero]
      rw [lessThanOrEqual_add_ofInt (by omega) (by omega)]
      omega
    · rw [lessThan_add_ofInt (by omega) (by omega)]
      omega
  unfold isValidSequenceNumber
  simp only
  split
  · rfl
  · rw [if_pos ⟨hlen, hwnd⟩, hin, Bool.or_true]

/-- A slice that was offered is rejected only when it has nothing new, or when it ends beyond the right edge while
bytes are held out of order. -/
theorem Offering.rejected (h : Offering stream s₀ s) (hp : SliceOffered stream s p)
    (hv : isValidSequenceNumber s.1.rc p = false) : position s p + p.data.length ≤ s.2.next ∨
      0 < s.1.receiveView.held ∧ s.2.next + s.1.rc.rcvWnd.toNat < position s p + p.data.length := by
  obtain ⟨-, -, hne, -, -, ⟨o, ho, hright⟩, -⟩ := hp
  have hreach := h.reach o ho
  have hspace : s.1.receiveView.space = s.1.rc.rcvWnd.toNat + s.1.receiveView.held := rfl
  have hlen := p.length_data
  have hpos := List.length_pos_iff.2 hne
  have hposition : position s p = s.2.next + p.offset s.1.rc.rcvNxt := rfl
  by_cases hnew : position s p + p.data.length ≤ s.2.next
  · exact .inl hnew
  · right
    by_contra hnot
    have hvalid := @isValidSequenceNumber_of_last p s.1.rc (by omega) (by omega) (by omega)
    rw [hv] at hvalid
    cases hvalid

end

/-- From a handshake on, while the peer sends slices of one stream inside the windows it has been offered and none is
delivered half the sequence space late: the right edge of the window and the bytes held out of order together never
move left, from one segment sent to the next and up to the present state; and a slice that was offered never overflows
the window, and is rejected only when it has nothing new, or when it ends beyond the right edge while bytes are held
out of order. -/
theorem window_edge_kept {id : SocketId} {l r : AddressPort} {is₀ is : List Input} {e₀ : Endpoint}
    {s : Endpoint × Offers} {stream : Nat → UInt8} (hshake : machine.Run synBeforeData (create id l r) is₀ e₀)
    (hsync : e₀.Synchronized) (hrun : offeringMachine.Run (fromPeer stream) (e₀, e₀.firstOffer) is s) :
    s.1.rc.rcvNxt = e₀.rc.rcvNxt + BitVec.ofNat 32 s.2.next ∧
    (s.2.offers.Pairwise fun a b : Offer => a.right + a.held ≤ b.right + b.held) ∧
    (∀ o ∈ s.2.offers, o.right + o.held ≤ s.2.next + s.1.rc.rcvWnd.toNat + s.1.receiveView.held) ∧
    ∀ p, SliceOffered stream s p → step (.packet p) s.1 ≠ .error .windowOverflow ∧
      (isValidSequenceNumber s.1.rc p = false → position s p + p.data.length ≤ s.2.next ∨
        0 < s.1.receiveView.held ∧ s.2.next + s.1.rc.rcvWnd.toNat < position s p + p.data.length) := by
  have hoffering : Offering stream e₀.rc.rcvNxt s :=
    hrun.invariant (Offering stream e₀.rc.rcvNxt) (.start (run_windowBalance hshake) hsync)
      fun _ _ _ h hen hc hstep => h.step hen hc hstep
  obtain ⟨t, ht, hnext⟩ := hoffering.receives
  refine ⟨?_, hoffering.ordered, fun o ho => ?_, fun p hp => ⟨hoffering.not_overflow hp, hoffering.rejected hp⟩⟩
  · rw [← hnext]
    exact ht.number
  · have hreach := hoffering.reach o ho
    have hspace : s.1.receiveView.space = s.1.rc.rcvWnd.toNat + s.1.receiveView.held := rfl
    omega

theorem synchronized_iff {e : Endpoint} : e.Synchronized ↔ e.rc.receiveWindow.started = true ∧
    e.rc.rcvNxt = e.rc.receiveWindow.firstExpectedSequenceNumber ∧ e.rc.receiveWindow.buffer = [] :=
  ⟨fun h => ⟨h.started, h.rcvNxt, h.buffer⟩, fun h => ⟨h.1, h.2.1, h.2.2⟩⟩

instance (e : Endpoint) : Decidable e.Synchronized := decidable_of_iff' _ synchronized_iff

/-- The stream of the bytes 1, 2, 3, …. -/
def counting (k : Nat) : UInt8 := UInt8.ofNat (k + 1)

/-- A replay of a connected client that receives the counting stream gives runs that do. -/
theorem exists_offering {i : List Input} {q : Endpoint × Offers → Bool}
    (h : (machine.replay synBeforeData (connectScript 100) client).any (fun e => decide e.Synchronized &&
      (offeringMachine.replay (fromPeer counting) i (e, e.firstOffer)).any q) = true) :
    ∃ e₀ s, machine.Run synBeforeData client (connectScript 100) e₀ ∧ e₀.Synchronized ∧
      offeringMachine.Run (fromPeer counting) (e₀, e₀.firstOffer) i s ∧ q s = true := by
  obtain ⟨e₀, hshake, h⟩ := Transition.Machine.exists_run h
  rw [Bool.and_eq_true, decide_eq_true_iff] at h
  obtain ⟨s, hrun, hq⟩ := Transition.Machine.exists_run h.2
  exact ⟨e₀, s, hshake, h.1, hrun, hq⟩

/-- Two bytes out of order, then two in order: the two between fit. -/
theorem window_edge_kept_gap : ∃ s : Endpoint × Offers, s.1.receiveView.held = 2 ∧
    s.2.offers.map Offer.right = [65535, 65533, 65533] ∧
    SliceOffered counting s (segment 103 2 [3, 4]) ∧
    (s.2.offers.Pairwise fun a b : Offer => a.right + a.held ≤ b.right + b.held) ∧
    step (.packet (segment 103 2 [3, 4])) s.1 ≠ .error .windowOverflow := by
  obtain ⟨e₀, s, hshake, hsync, hrun, hq⟩ := exists_offering
    (i := [.packet (segment 105 2 [5, 6]), .drain, .packet (segment 101 2 [1, 2]), .drain, .drain])
    (q := fun s => decide (s.1.receiveView.held = 2 ∧ s.2.offers.map Offer.right = [65535, 65533, 65533] ∧
      SliceOffered counting s (segment 103 2 [3, 4]))) (by decide +kernel)
  obtain ⟨hheld, hright, hslice⟩ := of_decide_eq_true hq
  have hkept := window_edge_kept hshake hsync hrun
  exact ⟨s, hheld, hright, hslice, hkept.2.1, (hkept.2.2.2 _ hslice).1⟩

/-- Two bytes received out of order move the right edge of the next segment to the left, and the last two bytes of the
window offered before are rejected. -/
theorem window_edge_moves_left : ∃ e₀ s, machine.Run synBeforeData client (connectScript 100) e₀ ∧ e₀.Synchronized ∧
    offeringMachine.Run (fromPeer counting) (e₀, e₀.firstOffer) [.packet (segment 105 2 [5, 6]), .drain] s ∧
    s.2.offers.map Offer.right = [65535, 65533] ∧ SliceOffered counting s (segment 65634 2 [254, 255]) ∧
    (s.2.next : Int) ≤ position s (segment 65634 2 [254, 255]) ∧
    isValidSequenceNumber s.1.rc (segment 65634 2 [254, 255]) = false := by
  obtain ⟨e₀, s, hshake, hsync, hrun, hq⟩ := exists_offering (i := [.packet (segment 105 2 [5, 6]), .drain])
    (q := fun s => decide (s.2.offers.map Offer.right = [65535, 65533] ∧
      SliceOffered counting s (segment 65634 2 [254, 255]) ∧
      (s.2.next : Int) ≤ position s (segment 65634 2 [254, 255]) ∧
      isValidSequenceNumber s.1.rc (segment 65634 2 [254, 255]) = false)) (by decide +kernel)
  exact ⟨e₀, s, hshake, hsync, hrun, of_decide_eq_true hq⟩

end Endpoint

end Wifu
