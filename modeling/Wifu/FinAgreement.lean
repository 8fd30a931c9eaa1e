import Wifu.FinTransition
import Wifu.WindowEdge

/-!
# The peer's FIN

The reliability context consumes a FIN by moving `rcv_nxt` past it, the connection manager by its FIN transition.  They
agree as long as each FIN that is delivered reaches both: its ACK number is not outdated, and the connection manager is
in a state that takes it.
-/

namespace Wifu

/-- What is recorded about the peer's FIN. -/
structure FinRecord where
  /-- The number of the FIN, once one has been delivered. -/
  number : Option (BitVec 32) := none
  /-- The steps in which `rcv_nxt` passed the FIN. -/
  passes : Nat := 0
  /-- The steps in which the connection manager took its FIN transition. -/
  transitions : Nat := 0
  deriving DecidableEq, Repr

/-- `rcv_nxt` is behind the FIN with the number. -/
def passedFin (number : Option (BitVec 32)) (rcvNxt : BitVec 32) : Bool := number.any fun n => rcvNxt == n + 1

@[simp] theorem passedFin_none (rcvNxt : BitVec 32) : passedFin none rcvNxt = false := rfl

@[simp] theorem passedFin_some (n rcvNxt : BitVec 32) : passedFin (some n) rcvNxt = (rcvNxt == n + 1) := rfl

/-- A FIN with data at the number itself has not been passed. -/
theorem passedFin_self (n : BitVec 32) : passedFin (some n) n = false := by
  rw [passedFin_some, beq_eq_false_iff_ne]
  bv_omega

namespace ReceiveView

/-- Data that ends before the first expected number leaves an empty window as it is. -/
theorem data_stale {v v' : ReceiveView} {p : TCPPacket} (hc : v.receiveWindow.Counted)
    (hbuffer : v.receiveWindow.buffer = []) (hs : v.receiveWindow.started = true)
    (hp : p.Near v.receiveWindow.firstExpectedSequenceNumber)
    (hend : p.offset v.receiveWindow.firstExpectedSequenceNumber + p.dataLengthBytes ≤ 0) (hd : 0 < p.dataLengthBytes)
    (h : v.data p = .ok v') :
    v'.rcvNxt = v.rcvNxt ∧ v'.rcvWnd = v.rcvWnd ∧ v'.receiveWindow.buffer = [] ∧ v'.receiveWindow.started = true ∧
      v'.receiveWindow.firstExpectedSequenceNumber = v.receiveWindow.firstExpectedSequenceNumber := by
  have hheld : v.receiveWindow.Held := by
    refine ⟨⟨?_, ?_, ?_⟩, ?_⟩ <;> simp [hbuffer]
  have hnew : v.receiveWindow.newBytes p = 0 := by
    rw [hheld.newBytes_eq hp]
    simp only [TCPPacket.interval]
    rw [Finset.Ico_eq_empty (by omega)]
    simp
  obtain ⟨w, hinsert, hstarted, hfirst, -, hempty⟩ := hheld.insert hc hp hd hs
  rw [hnew] at hinsert
  have hw : w.buffer = [] := hempty.2 ⟨hbuffer, hnew⟩
  have hget : w.getContinuousData v.rcvNxt = .ok ([], w) := by
    have hcheck : check w.started .notStarted = .ok () := check_eq_ok.2 hstarted
    unfold TCPPacketBuffer.getContinuousData
    rw [hcheck, if_pos hw]
    rfl
  unfold data at h
  obtain ⟨⟨n, w₁⟩, h₁, h⟩ := bind_eq_ok.1 h
  obtain ⟨_, -, h⟩ := bind_eq_ok.1 h
  obtain ⟨⟨l, w₂⟩, h₂, h⟩ := bind_eq_ok.1 h
  rw [hinsert] at h₁
  cases h₁
  rw [hget] at h₂
  cases h₂
  cases h
  exact ⟨by simp, by simp, hw, hstarted, hfirst⟩

end ReceiveView

namespace Endpoint

/-! ### The record -/

/-- The number of the peer's FIN after a step. -/
def finNumber (e : Endpoint) (i : Input) : Option (BitVec 32) → Option (BitVec 32)
  | some n => some n
  | none => (e.delivered i).bind fun p => if p.validChecksum && p.fin then some p.sequenceNumber else none

/-- Records what a step does with the FIN. -/
def observeFin (e : Endpoint) (i : Input) (e' : Endpoint) (h : FinRecord) : FinRecord where
  number := e.finNumber i h.number
  passes := h.passes +
    if !passedFin h.number e.rc.rcvNxt && passedFin (e.finNumber i h.number) e'.rc.rcvNxt then 1 else 0
  transitions := h.transitions + if !e.cmc.state.hasTakenFin && e'.cmc.state.hasTakenFin then 1 else 0

/-- The machine of an endpoint with a record of the peer's FIN. -/
def finMachine : Transition.Machine (Endpoint × FinRecord) Input Abort := machine.observed observeFin

instance (i : Input) (s : Endpoint × FinRecord) : Decidable (finMachine.enabled i s) :=
  inferInstanceAs (Decidable (enabled i s.1))

/-- `rcv_nxt` has passed the peer's FIN. -/
def finPassed (s : Endpoint × FinRecord) : Bool := passedFin s.2.number s.1.rc.rcvNxt

/-! ### The peer -/

/-- Where a FIN stands: the first one behind all data, which has been acknowledged; a later one is the same again. -/
def finStands (e : Endpoint) (p : TCPPacket) : Option (BitVec 32) → Prop
  | none => p.sequenceNumber = e.rc.rcvNxt ∧ e.rc.receiveWindow.buffer = []
  | some n => p.sequenceNumber = n

instance (e : Endpoint) (p : TCPPacket) : (number : Option (BitVec 32)) → Decidable (finStands e p number)
  | none => inferInstanceAs (Decidable (_ ∧ _))
  | some _ => inferInstanceAs (Decidable (_ = _))

/-- Data comes before the FIN. -/
def beforeFin (p : TCPPacket) : Option (BitVec 32) → Prop
  | none => True
  | some n => 0 < p.dataLengthBytes → p.Near n ∧ p.offset n + p.dataLengthBytes ≤ 0

instance (p : TCPPacket) : (number : Option (BitVec 32)) → Decidable (beforeFin p number)
  | none => .isTrue trivial
  | some _ => inferInstanceAs (Decidable (_ → _))

/-- A packet of a peer past the handshake that acknowledges only what was sent, and sends its FIN without data and only
after all its data has been acknowledged. -/
def finComesLast (s : Endpoint × FinRecord) (p : TCPPacket) : Prop :=
  p.syn = false ∧ (p.ack = true → lessThan s.1.rc.snd.sndMax p.ackNumber = false) ∧
    (p.fin = true → p.dataLengthBytes = 0 ∧ finStands s.1 p s.2.number) ∧ (p.fin = false → beforeFin p s.2.number)

instance (s : Endpoint × FinRecord) (p : TCPPacket) : Decidable (finComesLast s p) :=
  inferInstanceAs (Decidable (_ ∧ (_ → _) ∧ (_ → _ ∧ _) ∧ (_ → _)))

/-- A FIN that has not been passed has no outdated ACK number and, if it is not parked, finds the connection manager in
a state that takes it. -/
def finReachesBoth (s : Endpoint × FinRecord) (p : TCPPacket) : Prop :=
  p.fin = true → finPassed s = false → (p.ack = true → isValidAckNumber s.1.rc p = true) ∧
    (maxTcpReceiveWindowSize ≤ s.1.rc.rcvWnd.toNat → s.1.cmc.state.takesFin p = true)

instance (s : Endpoint × FinRecord) (p : TCPPacket) : Decidable (finReachesBoth s p) :=
  inferInstanceAs (Decidable (_ → _ → (_ → _) ∧ (_ → _)))

/-- Undamaged packets are those of such a peer, and FINs reach both contexts. -/
def finCondition (s : Endpoint × FinRecord) (i : Input) : Prop :=
  ∀ p ∈ s.1.delivered i, p.validChecksum = true → finComesLast s p ∧ finReachesBoth s p

instance (s : Endpoint × FinRecord) (i : Input) : Decidable (finCondition s i) :=
  inferInstanceAs (Decidable (∀ p ∈ s.1.delivered i, _))

/-- The handshake has been answered, no data has been received out of order, and no FIN has come. -/
structure Opened (e : Endpoint) : Prop where
  synchronized : e.Synchronized
  state : e.cmc.state = .synReceived ∨ e.cmc.state = .established
  queue : e.queue = []
  redelivered : e.redelivered = []
  savedFin : e.savedFin = none
  deleted : e.deleted = false

/-! ### The receiving side -/

section

variable {number : Option (BitVec 32)} {v v' : ReceiveView} {p : TCPPacket} {n : Nat}

/-- Where the receiving side stands when the number of the FIN is known: nothing is held, and once `rcv_nxt` has passed
the FIN the window is the biggest. -/
structure FinPlace (number : Option (BitVec 32)) (v : ReceiveView) : Prop where
  started : v.receiveWindow.started = true
  before : number = none → v.rcvNxt = v.receiveWindow.firstExpectedSequenceNumber
  after : ∀ n, number = some n → v.receiveWindow.buffer = [] ∧
    v.receiveWindow.firstExpectedSequenceNumber = n ∧ (v.rcvNxt = n ∨ v.rcvNxt = n + 1)
  read : passedFin number v.rcvNxt = true → v.rcvWnd.toNat = maxTcpReceiveWindowSize

/-- The first FIN gives the number. -/
theorem FinPlace.first (h : FinPlace none v) (hbuffer : v.receiveWindow.buffer = []) : FinPlace (some v.rcvNxt) v := by
  refine ⟨h.started, fun hnone => (by cases hnone), fun n hn => ?_, fun hp => ?_⟩
  · cases hn
    exact ⟨hbuffer, (h.before rfl).symm, .inl rfl⟩
  · rw [passedFin_self] at hp
    cases hp

/-- A FIN is passed. -/
theorem FinPlace.controlBits (h : FinPlace (some p.sequenceNumber) v) (hsyn : p.syn = false)
    (hwnd : v.rcvWnd.toNat = maxTcpReceiveWindowSize) : FinPlace (some p.sequenceNumber) (v.controlBits p) := by
  obtain ⟨hbuffer, hfirst, -⟩ := h.after _ rfl
  have hwindow : (v.controlBits p).receiveWindow = v.receiveWindow := by
    unfold ReceiveView.controlBits
    rw [hsyn]
    rfl
  refine ⟨?_, fun hnone => (by cases hnone), fun n hn => ?_, fun _ => hwnd⟩
  · rw [hwindow]
    exact h.started
  · cases hn
    rw [hwindow]
    exact ⟨hbuffer, hfirst, .inr rfl⟩

/-- Data does not move `rcv_nxt` past the FIN. -/
theorem FinPlace.data (h : FinPlace number v) (hc : v.receiveWindow.Counted) (hp : beforeFin p number)
    (hd : 0 < p.dataLengthBytes) (hdata : v.data p = .ok v') :
    FinPlace number v' ∧ passedFin number v'.rcvNxt = passedFin number v.rcvNxt := by
  cases number with
  | none =>
    obtain ⟨l, hl⟩ := ReceiveView.data_ok hc hd hdata
    refine ⟨⟨hl.started.2, fun _ => ?_, fun n hn => (by cases hn), fun hpassed => (by cases hpassed)⟩, rfl⟩
    rw [hl.rcvNxt, hl.firstExpected, h.before rfl]
  | some n =>
    obtain ⟨hbuffer, hfirst, hnext⟩ := h.after n rfl
    obtain ⟨hnear, hend⟩ := hp hd
    rw [← hfirst] at hnear hend
    obtain ⟨hnext', hwnd', hbuffer', hstarted', hfirst'⟩ :=
      ReceiveView.data_stale hc hbuffer h.started hnear hend hd hdata
    refine ⟨⟨hstarted', fun hnone => (by cases hnone), fun m hm => ?_, fun hpassed => ?_⟩, by rw [hnext']⟩
    · cases hm
      rw [hnext', hfirst']
      exact ⟨hbuffer', hfirst, hnext⟩
    · rw [hnext'] at hpassed
      rw [hwnd']
      exact h.read hpassed

/-- When `rcv_nxt` has passed the FIN, nothing is left to read. -/
theorem FinPlace.unread (h : FinPlace number v) (hb : v.Balanced) (hpassed : passedFin number v.rcvNxt = true) :
    v.receiveIndex = v.receiveBuffer.length := by
  have htotal := hb.total
  have hwnd := h.read hpassed
  have hnonneg := hb.counted.nonneg
  have hindex := hb.receiveIndex
  unfold ReceiveView.total ReceiveView.unread at htotal
  omega

theorem FinPlace.reads (h : FinPlace number v) (hb : v.Balanced) (hn : n ≤ v.unread) : FinPlace number (v.read n) := by
  refine ⟨h.started, h.before, h.after, fun hpassed => ?_⟩
  have hpassed : passedFin number v.rcvNxt = true := hpassed
  have hread := ReceiveView.read_rcvWnd hn hb.counted.nonneg hb.bounded.total_le
  have hindex := h.unread hb hpassed
  have hwnd := h.read hpassed
  unfold ReceiveView.unread at hn
  omega

end

/-! ### The invariant -/

/-- The reliability context and the connection manager agree about the FIN. -/
structure FinAgreement (s : Endpoint × FinRecord) : Prop where
  settled : s.1.deleted = true ∨ s.1.Settled
  balance : s.1.WindowBalance
  place : FinPlace s.2.number s.1.receiveView
  agree : finPassed s = s.1.cmc.state.hasTakenFin
  passes : s.2.passes = if finPassed s then 1 else 0
  transitions : s.2.transitions = if finPassed s then 1 else 0
  parked : ∀ p, s.1.savedFin = some p ∨ p ∈ s.1.redelivered →
    p.fin = true ∧ p.validChecksum = true ∧ p.dataLengthBytes = 0 ∧ s.2.number = some p.sequenceNumber
  pending : s.1.savedFin.isSome = true → s.1.deleted = true ∨ finPassed s = true ∨
    s.1.rc.rcvWnd.toNat < maxTcpReceiveWindowSize ∨ ⟨s.1.socket.id, .receiveBufferNotFull⟩ ∈ s.1.queue ∨
    s.1.redelivered ≠ []

section

variable {e e' : Endpoint} {s s' : Endpoint × FinRecord} {i : Input} {p : TCPPacket}

theorem accepts_of_passesOn (h : e.passesOn p = true) : e.accepts p = true := by
  unfold passesOn at h
  simp only [Bool.and_eq_true] at h
  obtain ⟨⟨⟨hsum, hack⟩, hseq⟩, hfin⟩ := h
  unfold accepts
  rw [hsum, Bool.not_eq_true'] at *
  rw [if_neg (by simpa using hack), hseq, hfin]
  rfl

theorem ack_of_valid (h : p.ack = true → isValidAckNumber e.rc p = true) :
    (p.ack && !isValidAckNumber e.rc p) = false := by
  cases ha : p.ack with
  | false => rfl
  | true => simp [h ha]

theorem passesOn_of_accepts (h : e.accepts p = true) (hack : p.ack = true → isValidAckNumber e.rc p = true) :
    e.passesOn p = true := by
  have hnot := ack_of_valid hack
  unfold accepts at h
  rw [hnot, Bool.and_eq_true] at h
  obtain ⟨hsum, h⟩ := h
  simp only [Bool.false_eq_true, if_false] at h
  unfold passesOn
  rw [hsum, hnot]
  simpa using h

/-- The connection manager takes only a FIN. -/
theorem takesFin_fin {state : ConnectionManagerState} (h : state.takesFin p = true) : p.fin = true := by
  unfold ConnectionManagerState.takesFin at h
  split at h
  · exact h
  · exact h
  · exact (Bool.and_eq_true_iff.1 h).1
  · cases h

theorem finNumber_fin {number : Option (BitVec 32)} (hd : e.delivered i = some p) (hsum : p.validChecksum = true)
    (hfin : p.fin = true) (hstands : finStands e p number) : e.finNumber i number = some p.sequenceNumber := by
  cases number with
  | none => simp [finNumber, hd, hsum, hfin]
  | some n =>
    have hn : p.sequenceNumber = n := hstands
    rw [hn]
    rfl

theorem finNumber_data {number : Option (BitVec 32)} (hd : e.delivered i = some p) (hfin : p.fin = false) :
    e.finNumber i number = number := by
  cases number with
  | none => simp [finNumber, hd, hfin]
  | some n => rfl

theorem finNumber_none {number : Option (BitVec 32)} (hd : e.delivered i = none) : e.finNumber i number = number := by
  cases number with
  | none => simp [finNumber, hd]
  | some n => rfl

/-- Recording the number of the FIN passes nothing. -/
theorem FinPlace.recorded {h : FinRecord} (hplace : FinPlace h.number e.receiveView) (hc : finCondition (e, h) i) :
    FinPlace (e.finNumber i h.number) e.receiveView ∧
      passedFin (e.finNumber i h.number) e.rc.rcvNxt = finPassed (e, h) := by
  have hsame (hn : e.finNumber i h.number = h.number) : FinPlace (e.finNumber i h.number) e.receiveView ∧
      passedFin (e.finNumber i h.number) e.rc.rcvNxt = finPassed (e, h) := by
    rw [hn]
    exact ⟨hplace, rfl⟩
  cases hnumber : h.number with
  | some n =>
    rw [← hnumber]
    exact hsame (by rw [hnumber]; rfl)
  | none =>
    rw [← hnumber]
    cases hd : e.delivered i with
    | none => exact hsame (finNumber_none hd)
    | some p =>
      by_cases hfin : (p.validChecksum && p.fin) = true
      · obtain ⟨hsum, hf⟩ := Bool.and_eq_true_iff.1 hfin
        obtain ⟨⟨-, -, hlast, -⟩, -⟩ := hc p hd hsum
        have hstands := (hlast hf).2
        rw [finNumber_fin hd hsum hf hstands]
        rw [hnumber] at hplace hstands
        obtain ⟨hnext, hbuffer⟩ := hstands
        refine ⟨hnext ▸ hplace.first hbuffer, ?_⟩
        rw [hnext, passedFin_self]
        unfold finPassed
        rw [hnumber]
        rfl
      · refine hsame ?_
        rw [hnumber]
        simp only [finNumber, hd, Option.bind_some, if_neg hfin]

/-- The FIN is passed in the steps in which the connection manager takes it. -/
theorem FinPlace.step {h : FinRecord} (hplace : FinPlace h.number e.receiveView) (hb : e.receiveView.Balanced)
    (hc : finCondition (e, h) i) (hstep : Endpoint.step i e = .ok e') :
    FinPlace (e.finNumber i h.number) e'.receiveView ∧
      passedFin (e.finNumber i h.number) e'.rc.rcvNxt = (finPassed (e, h) ||
        (e.delivered i).any fun p => e.passesOn p && e.cmc.state.takesFin p) := by
  obtain ⟨hplace', hpassed⟩ := hplace.recorded hc
  have hidle {v : ReceiveView} (hv : e'.receiveView = v) (hp : FinPlace (e.finNumber i h.number) v)
      (hnext : passedFin (e.finNumber i h.number) v.rcvNxt = finPassed (e, h))
      (hany : ((e.delivered i).any fun p => e.passesOn p && e.cmc.state.takesFin p) = false) :
      FinPlace (e.finNumber i h.number) e'.receiveView ∧
        passedFin (e.finNumber i h.number) e'.rc.rcvNxt = (finPassed (e, h) ||
          (e.delivered i).any fun p => e.passesOn p && e.cmc.state.takesFin p) := by
    have hrcv : e'.rc.rcvNxt = v.rcvNxt := congrArg ReceiveView.rcvNxt hv
    rw [hv, hrcv, hnext, hany, Bool.or_false]
    exact ⟨hp, rfl⟩
  cases step_receiveView hstep with
  | same hd hv =>
    refine hidle hv hplace' hpassed ?_
    rw [Option.any_eq_false]
    intro p hp
    cases hpass : e.passesOn p with
    | false => rfl
    | true =>
      have := accepts_of_passesOn hpass
      rw [hd p hp] at this
      cases this
  | read n hd hn hv => exact hidle hv (hplace'.reads hb hn) hpassed (by rw [hd]; rfl)
  | moved hd _ hv => exact hidle hv ⟨hplace'.started, hplace'.before, hplace'.after, hplace'.read⟩ hpassed (by rw [hd]; rfl)
  | accept p hp ha hv =>
    have hsum := accepts_validChecksum ha
    obtain ⟨⟨hsyn, -, hlast, hbefore⟩, hboth⟩ := hc p hp hsum
    unfold ReceiveView.receive at hv
    cases hf : p.fin with
    | false =>
      have hany : ((e.delivered i).any fun p => e.passesOn p && e.cmc.state.takesFin p) = false := by
        rw [hp, Option.any_some]
        cases htakes : e.cmc.state.takesFin p with
        | false => exact Bool.and_false _
        | true =>
          have := takesFin_fin htakes
          rw [hf] at this
          cases this
      rw [if_neg (by simp [hsyn, hf])] at hv
      split at hv
      · rename_i hd
        have hnumber : e.finNumber i h.number = h.number := finNumber_data hp hf
        obtain ⟨hplace', hnext⟩ := hplace'.data hb.counted (hnumber.symm ▸ hbefore hf) hd hv
        exact hidle rfl hplace' (hnext.trans hpassed) hany
      · exact hidle (Except.ok.inj hv).symm hplace' hpassed hany
    | true =>
      rw [if_pos (by simp [hf])] at hv
      have hv : e'.receiveView = e.receiveView.controlBits p := (Except.ok.inj hv).symm
      have hnumber := finNumber_fin hp hsum hf (hlast hf).2
      rw [hnumber] at hplace' hpassed ⊢
      have hrcv : e'.rc.rcvNxt = p.sequenceNumber + 1 := congrArg ReceiveView.rcvNxt hv
      have htrue : passedFin (some p.sequenceNumber) e'.rc.rcvNxt = true := by
        rw [hrcv, passedFin_some, beq_self_eq_true]
      rw [hv, htrue]
      cases hfirst : finPassed (e, h) with
      | true =>
        rw [hfirst] at hpassed
        exact ⟨hplace'.controlBits hsyn (hplace'.read hpassed), rfl⟩
      | false =>
        obtain ⟨hack, htakes⟩ := hboth hf hfirst
        have hpass := passesOn_of_accepts ha hack
        have hwnd : maxTcpReceiveWindowSize ≤ e.rc.rcvWnd.toNat := by
          by_contra hlt
          unfold passesOn at hpass
          simp [hf, show e.rc.rcvWnd.toNat < maxTcpReceiveWindowSize by omega] at hpass
        have hmax : e.rc.rcvWnd.toNat = maxTcpReceiveWindowSize := by
          have := e.rc.rcvWnd.isLt
          have hsize : maxTcpReceiveWindowSize = 65535 := rfl
          omega
        refine ⟨hplace'.controlBits hsyn hmax, ?_⟩
        rw [hp, Option.any_some, hpass, htakes hwnd]
        rfl

/-! ### The steps -/

/-- The event that the receive buffer is not full stays in the queue until it gives the saved FIN back. -/
theorem step_notFull (hmem : ⟨e.socket.id, .receiveBufferNotFull⟩ ∈ e.queue) (hdel : e.deleted = false)
    (hen : enabled i e) (hstep : Endpoint.step i e = .ok e') :
    ⟨e.socket.id, .receiveBufferNotFull⟩ ∈ e'.queue ∨
      (e'.savedFin.isSome = true → e'.rc.rcvWnd.toNat < maxTcpReceiveWindowSize ∨ e'.redelivered ≠ []) := by
  have hidle (hq : e.queue = []) : False := by
    rw [hq] at hmem
    cases hmem
  have hi : i = .drain := by
    cases i with
    | drain => rfl
    | _ => exact (hidle hen).elim
  subst hi
  cases step_ok hstep with
  | dropped _ h =>
    cases h
    exact .inl hmem
  | @skipped v vs hq hc h =>
    cases h
    rw [hq] at hmem
    rcases List.mem_cons.1 hmem with rfl | hmem
    · simp [contains, hdel] at hc
    · exact .inl hmem
  | @event v vs hq _ _ h =>
    rw [hq] at hmem
    rcases List.mem_cons.1 hmem with rfl | hmem
    · right
      cases h
      intro hsome
      unfold receiveBufferNotFull at hsome ⊢
      split
      · rename_i hnone
        have hnone : e.savedFin = none := hnone
        simp [hnone] at hsome
      · split
        · exact .inr (by simp [dispatch])
        · rename_i hlt
          have hlt : ¬e.rc.rcvWnd.toNat = maxTcpReceiveWindowSize := hlt
          have hbound := e.rc.rcvWnd.isLt
          have hmax : maxTcpReceiveWindowSize = 65535 := rfl
          exact .inl (show e.rc.rcvWnd.toNat < maxTcpReceiveWindowSize by omega)
    · exact .inl ((Grows.handleProtocolEvent h.symm).mem_queue hmem)
  | packet hd _ _ _ => cases hd

/-- A packet without data at `rcv_nxt` is valid in an open window. -/
theorem isValidSequenceNumber_next {rc : TCPTahoeReliabilityContext} (hlen : p.dataLengthBytes = 0)
    (hnext : p.sequenceNumber = rc.rcvNxt) (hwnd : 0 < rc.rcvWnd.toNat) : isValidSequenceNumber rc p = true := by
  have hpos : 0 < rc.rcvWnd := by bv_omega
  unfold isValidSequenceNumber
  simp only
  split
  · rfl
  · rw [if_neg (by omega), if_neg (by omega), if_pos ⟨hlen, hpos⟩, hnext]
    have hlt := rc.rcvWnd.isLt
    have hedge : rc.rcvNxt + rc.rcvWnd.setWidth 32 = rc.rcvNxt + BitVec.ofInt 32 rc.rcvWnd.toNat := by
      rw [BitVec.ofInt_natCast, BitVec.ofNat_toNat]
    have hzero : rc.rcvNxt = rc.rcvNxt + BitVec.ofInt 32 0 := by simp
    unfold betweenEqualLeft
    rw [hedge, Bool.and_eq_true]
    constructor
    · conv_lhs => arg 1; rw [hzero]
      conv_lhs => arg 2; rw [hzero]
      rw [lessThanOrEqual_add_ofInt (by omega) (by omega)]
    · conv_lhs => arg 1; rw [hzero]
      rw [lessThan_add_ofInt (by omega) (by omega)]
      omega

/-- The number of a FIN that has not been passed is `rcv_nxt`. -/
theorem FinAgreement.sequenceNumber (h : FinAgreement s) (hstands : finStands s.1 p s.2.number)
    (hfirst : finPassed s = false) : p.sequenceNumber = s.1.rc.rcvNxt := by
  cases hnumber : s.2.number with
  | none =>
    rw [hnumber] at hstands
    exact hstands.1
  | some n =>
    rw [hnumber] at hstands
    have hn : p.sequenceNumber = n := hstands
    obtain ⟨-, -, hnext | hnext⟩ := h.place.after n hnumber
    · exact hn.trans hnext.symm
    · have hnext : s.1.rc.rcvNxt = n + 1 := hnext
      unfold finPassed at hfirst
      rw [hnumber, hnext, passedFin_some, beq_self_eq_true] at hfirst
      cases hfirst

/-- A FIN given back that the application has read up to is passed, unless it has been passed before. -/
theorem FinAgreement.takes (h : FinAgreement s) (hc : finCondition s i) (hd : s.1.delivered i = some p)
    (hp : p ∈ s.1.redelivered) (hfirst : finPassed s = false)
    (hwnd : maxTcpReceiveWindowSize ≤ s.1.rc.rcvWnd.toNat) :
    (s.1.passesOn p && s.1.cmc.state.takesFin p) = true := by
  obtain ⟨hfin, hsum, hlen, -⟩ := h.parked p (.inr hp)
  obtain ⟨⟨-, -, hlast, -⟩, hboth⟩ := hc p hd hsum
  obtain ⟨hack, htakes⟩ := hboth hfin hfirst
  have hmax : maxTcpReceiveWindowSize = 65535 := rfl
  have hseq := isValidSequenceNumber_next hlen (h.sequenceNumber (hlast hfin).2 hfirst) (by omega)
  rw [htakes hwnd, Bool.and_true]
  unfold passesOn
  rw [hsum, ack_of_valid hack, hseq, hfin]
  simpa using hwnd

theorem FinAgreement.start {e : Endpoint} (hw : e.WindowBalance) (h : e.Opened) : FinAgreement (e, {}) := by
  have hstate : e.cmc.state ≠ .listen ∧ e.cmc.state ≠ .closed ∧ e.cmc.state.hasTakenFin = false := by
    rcases h.state with hs | hs <;> rw [hs] <;> decide
  refine ⟨.inr ⟨?_, hstate.1, fun hc => absurd hc hstate.2.1, ?_⟩, hw,
    ⟨h.synchronized.started, fun _ => h.synchronized.rcvNxt, fun n hn => (by cases hn), fun hp => (by cases hp)⟩,
    hstate.2.2.symm, rfl, rfl, fun p hp => ?_, fun hsome => ?_⟩
  · rw [h.queue]
    rfl
  · rw [h.queue]
    exact fun v hv => (by cases hv)
  · rcases hp with hp | hp
    · rw [h.savedFin] at hp
      cases hp
    · rw [h.redelivered] at hp
      cases hp
  · rw [h.savedFin] at hsome
    cases hsome

/-- The connection manager takes its FIN transition in a step that delivers a packet that passes on. -/
theorem FinAgreement.step_hasTakenFin (h : FinAgreement s) (hen : enabled i s.1) (hc : finCondition s i)
    (hstep : Endpoint.step i s.1 = .ok e') : e'.cmc.state.hasTakenFin = (s.1.cmc.state.hasTakenFin ||
      (s.1.delivered i).any fun p => s.1.passesOn p && s.1.cmc.state.takesFin p) := by
  rcases h.settled with hdel | hs
  · obtain ⟨hnone, q, rfl⟩ := step_deleted_same hdel hstep
    rw [hnone, Option.any_none, Bool.or_false]
  · exact Endpoint.step_hasTakenFin hs hen (fun p hd hsum => (hc p hd hsum).1.1) hstep

/-- What is parked, and what is given back, is the recorded FIN. -/
theorem FinAgreement.step_parked (h : FinAgreement s) (hc : finCondition s i) (hstep : Endpoint.step i s.1 = .ok e') :
    ∀ p, e'.savedFin = some p ∨ p ∈ e'.redelivered → p.fin = true ∧ p.validChecksum = true ∧
      p.dataLengthBytes = 0 ∧ s.1.finNumber i s.2.number = some p.sequenceNumber := by
  have hold (p : TCPPacket) (hp : s.1.savedFin = some p ∨ p ∈ s.1.redelivered) : p.fin = true ∧
      p.validChecksum = true ∧ p.dataLengthBytes = 0 ∧ s.1.finNumber i s.2.number = some p.sequenceNumber := by
    obtain ⟨hfin, hsum, hlen, hnumber⟩ := h.parked p hp
    rw [hnumber]
    exact ⟨hfin, hsum, hlen, rfl⟩
  intro p hp
  cases step_parkStep hstep with
  | same hf hr =>
    rw [hf, hr] at hp
    exact hold p hp
  | given q hq hf hr =>
    rw [hf, hr, List.mem_append, List.mem_singleton] at hp
    rcases hp with hp | hp | rfl
    · exact hold p (.inl hp)
    · exact hold p (.inr hp)
    · exact hold p (.inl hq)
  | redelivered q _ hr hf =>
    rw [hf] at hp
    exact hold p (hp.imp_right fun hp => hr ▸ List.mem_cons_of_mem _ hp)
  | parked q hd hsum hfin _ hf hr _ =>
    rcases hp with hp | hp
    · rw [hf] at hp
      cases hp
      obtain ⟨⟨-, -, hlast, -⟩, -⟩ := hc _ hd hsum
      exact ⟨hfin, hsum, (hlast hfin).1, finNumber_fin hd hsum hfin (hlast hfin).2⟩
    · rcases hr with hr | hr
      · exact hold p (.inr (hr ▸ hp))
      · exact hold p (.inr (hr ▸ List.mem_cons_of_mem _ hp))

/-- A parked FIN is given back once the application has read everything. -/
theorem FinAgreement.step_pending (h : FinAgreement s) (hen : enabled i s.1) (hc : finCondition s i)
    (hstep : Endpoint.step i s.1 = .ok e') (hsome : e'.savedFin.isSome = true) : e'.deleted = true ∨
      passedFin (s.1.finNumber i s.2.number) e'.rc.rcvNxt = true ∨ e'.rc.rcvWnd.toNat < maxTcpReceiveWindowSize ∨
      ⟨e'.socket.id, .receiveBufferNotFull⟩ ∈ e'.queue ∨ e'.redelivered ≠ [] := by
  have hpassed := (h.place.step h.balance.balanced hc hstep).2
  by_cases hdel : s.1.deleted = true
  · exact .inl (step_deleted hdel hstep)
  have hdel : s.1.deleted = false := by simpa using hdel
  obtain hs := h.settled.resolve_left (by simp [hdel])
  rcases hs.step hdel hen hstep with hdel' | ⟨-, hid, -⟩
  · exact .inl hdel'
  refine .inr (or_iff_not_imp_left.2 fun hnot => ?_)
  rw [hpassed, Bool.or_eq_true, not_or] at hnot
  obtain ⟨hfirst, hany⟩ := hnot
  have hfirst : finPassed s = false := by simpa using hfirst
  -- the window only becomes bigger when the application reads
  have hwindow (hlt : s.1.rc.rcvWnd.toNat < maxTcpReceiveWindowSize) :
      e'.rc.rcvWnd.toNat < maxTcpReceiveWindowSize ∨ ⟨e'.socket.id, .receiveBufferNotFull⟩ ∈ e'.queue ∨
        e'.redelivered ≠ [] := by
    rw [hid]
    rcases step_rcvWnd h.balance.balanced.counted hstep with hle | hmem
    · exact .inl (by omega)
    · exact .inr (.inl hmem)
  have hsaved (hsome : s.1.savedFin.isSome = true) (hkeep : s.1.redelivered ≠ [] → e'.redelivered ≠ []) :
      e'.rc.rcvWnd.toNat < maxTcpReceiveWindowSize ∨ ⟨e'.socket.id, .receiveBufferNotFull⟩ ∈ e'.queue ∨
        e'.redelivered ≠ [] := by
    rcases h.pending hsome with hdel' | hp | hlt | hmem | hne
    · rw [hdel] at hdel'
      cases hdel'
    · rw [hfirst] at hp
      cases hp
    · exact hwindow hlt
    · rw [hid]
      rcases step_notFull hmem hdel hen hstep with hmem | hdone
      · exact .inr (.inl hmem)
      · exact (hdone ‹_›).imp_right .inr
    · exact .inr (.inr (hkeep hne))
  cases step_parkStep hstep with
  | same hf hr =>
    rw [hf] at hsome
    exact hsaved hsome (by rw [hr]; exact id)
  | given p hp hf hr => exact .inr (.inr (by simp [hr]))
  | redelivered p hd hr hf =>
    by_cases hwnd : s.1.rc.rcvWnd.toNat < maxTcpReceiveWindowSize
    · exact hwindow hwnd
    · have htakes := h.takes hc hd (by rw [hr]; exact List.mem_cons_self) hfirst (by omega)
      rw [hd, Option.any_some] at hany
      exact absurd htakes hany
  | parked p _ _ _ hwnd _ _ hview =>
    have hsame : e'.rc.rcvWnd = s.1.rc.rcvWnd := congrArg ReceiveView.rcvWnd hview
    exact .inl (hsame ▸ hwnd)

theorem FinAgreement.step (h : FinAgreement s) (hen : finMachine.enabled i s) (hc : finCondition s i)
    (hstep : finMachine.step i s = .ok s') : FinAgreement s' := by
  obtain ⟨hstep, hobs⟩ := Transition.Machine.observed_step.1 hstep
  have hen : enabled i s.1 := hen
  have hnumber : s'.2.number = s.1.finNumber i s.2.number := by
    rw [hobs]
    rfl
  obtain ⟨hplace, hpassed⟩ := h.place.step h.balance.balanced hc hstep
  have htaken := h.step_hasTakenFin hen hc hstep
  have hparked := h.step_parked hc hstep
  have hpending := h.step_pending hen hc hstep
  rw [← hnumber] at hplace hpassed hparked hpending
  have hagree : finPassed s' = s'.1.cmc.state.hasTakenFin := by
    rw [htaken, ← h.agree]
    exact hpassed
  have hsyn : synBeforeData s.1 i := by
    intro p hp ha hsyn
    rw [(hc p hp (accepts_validChecksum ha)).1.1] at hsyn
    cases hsyn
  have hmono : finPassed s = true → finPassed s' = true := by
    intro hp
    have hp : finPassed (s.1, s.2) = true := hp
    show passedFin s'.2.number s'.1.rc.rcvNxt = true
    rw [hpassed, hp, Bool.true_or]
  have hpasses : s'.2.passes = s.2.passes + if !finPassed s && finPassed s' then 1 else 0 := by
    unfold finPassed
    rw [hnumber, hobs]
    rfl
  have htransitions : s'.2.transitions = s.2.transitions + if !finPassed s && finPassed s' then 1 else 0 := by
    rw [h.agree, hagree, hobs]
    rfl
  have hsettled : s'.1.deleted = true ∨ s'.1.Settled := by
    by_cases hdel : s.1.deleted = true
    · exact .inl (step_deleted hdel hstep)
    · exact ((h.settled.resolve_left hdel).step (by simpa using hdel) hen hstep).imp_right And.left
  refine ⟨hsettled, h.balance.step hen hsyn hstep, hplace, hagree, ?_, ?_, hparked, hpending⟩
  · rw [hpasses, h.passes]
    cases hp : finPassed s with
    | false => simp
    | true => simp [hmono hp]
  · rw [htransitions, h.transitions]
    cases hp : finPassed s with
    | false => simp
    | true => simp [hmono hp]

/-- A FIN that does not reach both contexts is passed, and the connection manager does not take it. -/
theorem FinAgreement.splits (h : FinAgreement s) (hen : finMachine.enabled i s) (hd : s.1.delivered i = some p)
    (hsum : p.validChecksum = true) (hc : finComesLast s p) (hnot : ¬finReachesBoth s p)
    (hstep : finMachine.step i s = .ok s') : finPassed s' = true ∧ s'.1.cmc.state.hasTakenFin = false := by
  obtain ⟨hstep, hobs⟩ := Transition.Machine.observed_step.1 hstep
  obtain ⟨hsyn, hack, hlast, -⟩ := hc
  unfold finReachesBoth at hnot
  push Not at hnot
  obtain ⟨hfin, hfirst, hnot⟩ := hnot
  obtain ⟨hlen, hstands⟩ := hlast hfin
  have hmax : maxTcpReceiveWindowSize = 65535 := rfl
  have hs : s.1.Settled := by
    refine h.settled.resolve_left fun hdel => ?_
    rw [(step_deleted_same hdel hstep).1] at hd
    cases hd
  constructor
  · have haccepts : s.1.accepts p = true := by
      unfold accepts
      rw [hsum, Bool.true_and]
      split
      · rename_i hinv
        rw [hack (Bool.and_eq_true_iff.1 hinv).1]
        rfl
      · rename_i hvalid
        have hvalid : p.ack = true → isValidAckNumber s.1.rc p = true := by simpa using hvalid
        obtain ⟨hwnd, -⟩ := hnot hvalid
        rw [isValidSequenceNumber_next hlen (h.sequenceNumber hstands hfirst) (by omega), hfin]
        simpa using hwnd
    have hnumber := finNumber_fin hd hsum hfin hstands
    have hrcv : s'.1.rc.rcvNxt = p.sequenceNumber + 1 := by
      cases step_receiveView hstep with
      | same hnone _ =>
        have := hnone p hd
        rw [haccepts] at this
        cases this
      | accept q hq _ hv =>
        rw [hd] at hq
        cases hq
        unfold ReceiveView.receive at hv
        rw [if_pos (by simp [hfin])] at hv
        exact congrArg ReceiveView.rcvNxt (Except.ok.inj hv).symm
      | read _ hnone _ _ =>
        rw [hd] at hnone
        cases hnone
      | moved hnone _ _ =>
        rw [hd] at hnone
        cases hnone
    have hrecord : s'.2.number = some p.sequenceNumber := by
      rw [← hnumber, hobs]
      rfl
    unfold finPassed
    rw [hrecord, hrcv, passedFin_some, beq_self_eq_true]
  · have htaken := Endpoint.step_hasTakenFin hs hen (fun q hq _ => by
      rw [hd] at hq
      cases hq
      exact hsyn) hstep
    have hnone : (s.1.passesOn p && s.1.cmc.state.takesFin p) = false := by
      cases hpass : s.1.passesOn p with
      | false => rfl
      | true =>
        unfold passesOn at hpass
        simp only [Bool.and_eq_true, Bool.not_eq_true'] at hpass
        obtain ⟨⟨⟨-, hvalid⟩, -⟩, -⟩ := hpass
        have hvalid : p.ack = true → isValidAckNumber s.1.rc p = true := by simpa using hvalid
        simpa using (hnot hvalid).2
    rw [htaken, ← h.agree, hfirst, hd, Option.any_some, hnone]
    rfl

end

theorem opened_iff {e : Endpoint} : e.Opened ↔ e.Synchronized ∧
    (e.cmc.state = .synReceived ∨ e.cmc.state = .established) ∧ e.queue = [] ∧ e.redelivered = [] ∧
    e.savedFin = none ∧ e.deleted = false :=
  ⟨fun h => ⟨h.synchronized, h.state, h.queue, h.redelivered, h.savedFin, h.deleted⟩,
    fun h => ⟨h.1, h.2.1, h.2.2.1, h.2.2.2.1, h.2.2.2.2.1, h.2.2.2.2.2⟩⟩

instance (e : Endpoint) : Decidable e.Opened := decidable_of_iff' _ opened_iff

/-- Undamaged packets are those of a peer that sends its FIN last. -/
def finLast (s : Endpoint × FinRecord) (i : Input) : Prop :=
  ∀ p ∈ s.1.delivered i, p.validChecksum = true → finComesLast s p

instance (s : Endpoint × FinRecord) (i : Input) : Decidable (finLast s i) :=
  inferInstanceAs (Decidable (∀ p ∈ s.1.delivered i, _))

/-- The server sends one byte and its FIN, which is parked. -/
def parkScript : List Input :=
  [.packet (segment 101 2 [1]), .drain, .drain, .packet { segment 102 2 [] with fin := true }]

/-- A replay of a connected client gives runs of it. -/
theorem exists_finRun {P : Endpoint × FinRecord → Input → Prop} [∀ s i, Decidable (P s i)] {i : List Input}
    {q : Endpoint × FinRecord → Bool} (h : (machine.replay synBeforeData (connectScript 100) client).any (fun e =>
      decide e.Opened && (finMachine.replay P i (e, {})).any q) = true) :
    ∃ e₀ s, machine.Run synBeforeData client (connectScript 100) e₀ ∧ e₀.Opened ∧ finMachine.Run P (e₀, {}) i s ∧
      q s = true := by
  obtain ⟨e₀, hopen, h⟩ := Transition.Machine.exists_run h
  rw [Bool.and_eq_true, decide_eq_true_iff] at h
  obtain ⟨s, hrun, hq⟩ := Transition.Machine.exists_run h.2
  exact ⟨e₀, s, hopen, h.1, hrun, hq⟩

end Endpoint

end Wifu
