import Wifu.SequenceGate

/-!
# What `rcv_nxt` acknowledges

After the peer's SYN, `rcv_nxt` counts the bytes put in the receive buffer and the peer's FIN, as long as each SYN and
FIN that is accepted stands where the stream has got to.
-/

namespace Wifu

/-- What the peer's packets have brought so far. -/
structure Received where
  /-- The number of the first SYN processed. -/
  irs : Option (BitVec 32) := none
  /-- The bytes appended to the receive buffer. -/
  appended : Nat := 0
  /-- A FIN has been processed. -/
  fin : Bool := false
  deriving DecidableEq, Repr

namespace Received

/-- The number that `rcv_nxt` should have. -/
def rcvNxt (h : Received) (irs : BitVec 32) : BitVec 32 :=
  irs + 1 + BitVec.ofNat 32 h.appended + if h.fin then 1 else 0

/-- What is recorded of an accepted packet that takes the receive buffer from length `n` to length `n'`. -/
def accept (h : Received) (p : TCPPacket) (n n' : Nat) : Received where
  irs := match h.irs with
    | some irs => some irs
    | none => if p.syn then some p.sequenceNumber else none
  appended := h.appended + (n' - n)
  fin := h.fin || p.fin

theorem accept_irs {h : Received} {p : TCPPacket} (hs : p.syn = false) (n n' : Nat) :
    (h.accept p n n').irs = h.irs := by
  unfold accept
  rw [hs]
  cases h.irs <;> rfl

/-- A packet without control bits that appends nothing leaves the record alone. -/
theorem accept_same {h : Received} {p : TCPPacket} (hs : p.syn = false) (hf : p.fin = false) (n : Nat) :
    h.accept p n n = h := by
  have hirs := accept_irs (h := h) hs n n
  unfold accept at hirs ⊢
  simp only at hirs
  rw [hirs, hf]
  simp

end Received

namespace Endpoint

/-- Records what a step receives. -/
def observeReceived (e : Endpoint) (i : Input) (e' : Endpoint) (h : Received) : Received :=
  match e.delivered i with
  | some p =>
    if e.accepts p then h.accept p e.socket.receiveBuffer.length e'.socket.receiveBuffer.length else h
  | none => h

/-- The machine of an endpoint with a record of what it has received. -/
def receivedMachine : Transition.Machine (Endpoint × Received) Input Abort := machine.observed observeReceived

/-- An accepted SYN is the first one or ends at `rcv_nxt`; an accepted FIN carries no data and, when it is the first
one, stands at `rcv_nxt`, later ends there. -/
def controlCondition (s : Endpoint × Received) (i : Input) : Prop :=
  ∀ p ∈ s.1.delivered i, s.1.accepts p = true →
    (p.syn = true → p.fin = false ∧ (s.2.irs = none ∨ p.sequenceNumber + 1 = s.1.rc.rcvNxt)) ∧
    (p.fin = true → p.dataLengthBytes ≤ 0 ∧ s.2.irs ≠ none ∧
      if s.2.fin then p.sequenceNumber + 1 = s.1.rc.rcvNxt else p.sequenceNumber = s.1.rc.rcvNxt)

instance (s : Endpoint × Received) (i : Input) : Decidable (controlCondition s i) :=
  inferInstanceAs (Decidable (∀ p ∈ s.1.delivered i, _))

/-- Before the first SYN the window is not started; after it `rcv_nxt` counts what has been received. -/
structure Truthful (v : ReceiveView) (h : Received) : Prop where
  before : h.irs = none → v.receiveWindow.started = false ∧ h.appended = 0 ∧ h.fin = false
  after : ∀ irs, h.irs = some irs → v.rcvNxt = h.rcvNxt irs

/-- Accepted data moves `rcv_nxt` by the bytes it appends, and needs a started window. -/
theorem data_appends {v v' : ReceiveView} {p : TCPPacket} (h : v.data p = .ok v') :
    v.receiveWindow.started = true ∧
      ∃ l, v'.receiveBuffer = v.receiveBuffer ++ l ∧ v'.rcvNxt = v.rcvNxt + BitVec.ofNat 32 l.length := by
  unfold ReceiveView.data at h
  obtain ⟨⟨n, w⟩, h₁, h⟩ := bind_eq_ok.1 h
  obtain ⟨_, -, h⟩ := bind_eq_ok.1 h
  obtain ⟨⟨l, w'⟩, -, h⟩ := bind_eq_ok.1 h
  cases h
  refine ⟨?_, l, rfl, rfl⟩
  unfold TCPPacketBuffer.insert at h₁
  obtain ⟨_, hs, -⟩ := bind_eq_ok.1 h₁
  exact check_eq_ok.1 hs

theorem Truthful.receive {v v' : ReceiveView} {h : Received} {p : TCPPacket} (ht : Truthful v h)
    (hsyn : p.syn = true → p.fin = false ∧ (h.irs = none ∨ p.sequenceNumber + 1 = v.rcvNxt))
    (hfin : p.fin = true → h.irs ≠ none ∧
      if h.fin then p.sequenceNumber + 1 = v.rcvNxt else p.sequenceNumber = v.rcvNxt)
    (hr : v.receive p = .ok v') :
    Truthful v' (h.accept p v.receiveBuffer.length v'.receiveBuffer.length) := by
  unfold ReceiveView.receive at hr
  split at hr
  · rename_i hc
    cases hr
    have happended : (h.accept p v.receiveBuffer.length v.receiveBuffer.length).appended = h.appended := by
      simp [Received.accept]
    change Truthful _ (h.accept p v.receiveBuffer.length v.receiveBuffer.length)
    cases hs : p.syn with
    | true =>
      obtain ⟨hf, hirs⟩ := hsyn hs
      refine ⟨?_, ?_⟩
      · intro hnone
        cases hi : h.irs <;> simp [Received.accept, hs, hi] at hnone
      · intro irs heq
        change p.sequenceNumber + 1 = _
        rw [Received.rcvNxt, happended]
        cases hi : h.irs with
        | none =>
          obtain ⟨-, ha, hff⟩ := ht.before hi
          simp only [Received.accept, hs, hi, if_true, Option.some_inj] at heq
          simp [Received.accept, ha, hff, hf, heq]
        | some irs' =>
          simp only [Received.accept, hi, Option.some_inj] at heq
          rcases hirs with hirs | hirs
          · rw [hi] at hirs
            cases hirs
          · rw [hirs, ht.after irs' hi, heq]
            simp [Received.accept, Received.rcvNxt, hf]
    | false =>
      have hf : p.fin = true := by simpa [hs] using hc
      obtain ⟨hirs, hseq⟩ := hfin hf
      refine ⟨fun hnone => ?_, ?_⟩
      · exact absurd (by rwa [Received.accept_irs hs] at hnone) hirs
      · intro irs heq
        rw [Received.accept_irs hs] at heq
        have hafter := ht.after irs heq
        change p.sequenceNumber + 1 = _
        rw [Received.rcvNxt, happended]
        cases hff : h.fin with
        | true =>
          rw [hff, if_pos rfl] at hseq
          rw [hseq, hafter]
          simp [Received.accept, Received.rcvNxt, hff]
        | false =>
          rw [hff, if_neg Bool.false_ne_true] at hseq
          rw [hseq, hafter]
          simp [Received.accept, Received.rcvNxt, hff, hf]
  · rename_i hc
    have hs : p.syn = false := by
      cases hs : p.syn <;> simp [hs] at hc ⊢
    have hf : p.fin = false := by
      cases hf : p.fin <;> simp [hf] at hc ⊢
    split at hr
    · obtain ⟨hstarted, l, hbuf, hnxt⟩ := data_appends hr
      have happended : (h.accept p v.receiveBuffer.length v'.receiveBuffer.length).appended =
          h.appended + l.length := by
        simp [Received.accept, hbuf]
      refine ⟨?_, ?_⟩
      · intro hnone
        rw [Received.accept_irs hs] at hnone
        rw [(ht.before hnone).1] at hstarted
        cases hstarted
      · intro irs heq
        rw [Received.accept_irs hs] at heq
        rw [hnxt, ht.after irs heq, Received.rcvNxt, Received.rcvNxt, happended, ← Serial.ofNat_add_ofNat]
        simp only [Received.accept, hf, Bool.or_false]
        ac_rfl
    · cases hr
      rw [Received.accept_same hs hf]
      exact ht

/-- Along every run that meets `controlCondition`, `rcv_nxt` counts what has been received. -/
theorem run_truthful {id : SocketId} {l r : AddressPort} {is : List Input} {s : Endpoint × Received}
    (h : receivedMachine.Run controlCondition (create id l r, {}) is s) : Truthful s.1.receiveView s.2 := by
  refine h.invariant (fun s => Truthful s.1.receiveView s.2) ⟨fun _ => ⟨rfl, rfl, rfl⟩, nofun⟩ ?_
  intro s i s' ht _ hc hs
  obtain ⟨hs, hobs⟩ := Transition.Machine.observed_step.1 hs
  have hsame {v : ReceiveView} (hd : ∀ p ∈ s.1.delivered i, s.1.accepts p = false)
      (hv : v.rcvNxt = s.1.receiveView.rcvNxt) (hw : v.receiveWindow = s.1.receiveView.receiveWindow) :
      Truthful v s'.2 := by
    have hkeep : s'.2 = s.2 := by
      rw [hobs, observeReceived]
      cases hp : s.1.delivered i with
      | none => rfl
      | some p => simp [hd p hp]
    rw [hkeep]
    exact ⟨fun hn => hw ▸ ht.before hn, fun irs hi => hv ▸ ht.after irs hi⟩
  have hnone (hd : s.1.delivered i = none) : ∀ p ∈ s.1.delivered i, s.1.accepts p = false := by
    simp [hd]
  cases step_receiveView hs with
  | same hd h => exact hsame hd (h ▸ rfl) (h ▸ rfl)
  | read n hd _ h => exact hsame (hnone hd) (h ▸ rfl) (h ▸ rfl)
  | moved hd _ h => exact hsame (hnone hd) (h ▸ rfl) (h ▸ rfl)
  | accept p hp ha hr =>
    obtain ⟨hsyn, hfin⟩ := hc p hp ha
    have hrec : s'.2 =
        s.2.accept p s.1.receiveView.receiveBuffer.length s'.1.receiveView.receiveBuffer.length := by
      rw [hobs, observeReceived]
      simp [hp, ha, receiveView]
    rw [hrec]
    exact ht.receive hsyn (fun hf => (hfin hf).2) hr

/-- Along every run that meets `controlCondition`, once the peer's SYN `irs` has been processed `rcv_nxt` is
`irs + 1`, plus the bytes appended to the receive buffer, plus one for a processed FIN. -/
theorem rcvNxt_truthful {id : SocketId} {l r : AddressPort} {is : List Input} {s : Endpoint × Received}
    (hrun : receivedMachine.Run controlCondition (create id l r, {}) is s) :
    ∀ irs, s.2.irs = some irs →
      s.1.rc.rcvNxt = irs + 1 + BitVec.ofNat 32 s.2.appended + if s.2.fin then 1 else 0 :=
  (run_truthful hrun).after

instance (i : Input) (s : Endpoint × Received) : Decidable (receivedMachine.enabled i s) :=
  inferInstanceAs (Decidable (enabled i s.1))

/-- Three bytes and a FIN behind them, once they have been read. -/
def readAllScript : List Input :=
  connectScript 100 ++ [.packet (segment 101 2 [1, 2, 3]), .drain, .drain, .receive ⟨2, 10⟩, .drain,
    .packet { segment 104 2 [] with fin := true }]

theorem rcvNxt_truthful_readAll : ∃ s, receivedMachine.Run controlCondition (client, {}) readAllScript s ∧
    s.2 = ⟨some 100, 3, true⟩ ∧ s.1.rc.rcvNxt = 100 + 1 + BitVec.ofNat 32 3 + 1 := by
  have h : (receivedMachine.replay controlCondition readAllScript (client, {})).any
      (fun s => decide (s.2 = ⟨some 100, 3, true⟩)) = true := by decide +kernel
  obtain ⟨s, hrun, hq⟩ := Transition.Machine.exists_run h
  have hq := of_decide_eq_true hq
  refine ⟨s, hrun, hq, ?_⟩
  have ht := rcvNxt_truthful hrun 100 (by rw [hq])
  rw [hq] at ht
  exact ht

/-- A FIN ahead of missing data makes `rcv_nxt` cover nine bytes that never arrived. -/
theorem rcvNxt_fin_ahead : ∃ s, receivedMachine.Run Transition.anyStep (client, {})
      (connectScript 100 ++ [.packet { segment 110 2 [] with fin := true }]) s ∧
    s.2 = ⟨some 100, 0, true⟩ ∧ s.1.rc.rcvNxt = 100 + 1 + 9 + 1 ∧ s.1.rc.rcvNxt ≠ s.2.rcvNxt 100 := by
  have h : (receivedMachine.replay Transition.anyStep
      (connectScript 100 ++ [.packet { segment 110 2 [] with fin := true }]) (client, {})).any
      (fun s => decide (s.2 = ⟨some 100, 0, true⟩) && decide (s.1.rc.rcvNxt = 100 + 1 + 9 + 1)) = true := by
    decide +kernel
  obtain ⟨s, hrun, hq⟩ := Transition.Machine.exists_run h
  simp only [Bool.and_eq_true, decide_eq_true_eq] at hq
  refine ⟨s, hrun, hq.1, hq.2, ?_⟩
  rw [hq.1, hq.2]
  decide

end Endpoint

end Wifu
