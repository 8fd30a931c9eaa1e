import Wifu.DelayedACK
import Wifu.SendView

/-!
# The ACK timer

`create_and_dispatch_ack` puts an ACK off until enough segments have come or the ACK timer fires.  The timer is due as
long as no ACK is put off for the first time while the retransmission timer runs: `start_ack_timer` then starts none.
-/

namespace Wifu

namespace DelayedACKEndpoint

/-- The ACK timer runs while an ACK is put off. -/
def AckDue (c : TCPDelayedACKReliabilityContext) : Prop := 0 < c.curAckCount → c.ackTimer ≠ none

instance (c : TCPDelayedACKReliabilityContext) : Decidable (AckDue c) := inferInstanceAs (Decidable (_ → _))

/-- An ACK need not be put off, or the ACK timer is running, or it can be started. -/
def Timed (c : TCPDelayedACKReliabilityContext) (delayCount : BitVec 16) (rtoRunning : Bool) : Prop :=
  delayCount ≤ c.curAckCount + 1 ∨ c.ackTimer ≠ none ∨ rtoRunning = false

instance (c : TCPDelayedACKReliabilityContext) (n : BitVec 16) (b : Bool) : Decidable (Timed c n b) :=
  inferInstanceAs (Decidable (_ ∨ _))

/-- The retransmission timer is running after `handle_ack` has seen the packet. -/
def rtoAfterAck (rc : TCPTahoeReliabilityContext) (p : TCPPacket) : Bool :=
  if p.ack && betweenEqualRight rc.snd.sndUna p.ackNumber rc.snd.sndMax then
    decide ((rc.snd.acknowledge p.ackNumber).sndNxt ≠ (rc.snd.acknowledge p.ackNumber).sndUna)
  else rc.timeoutEvent.isSome

/-- The packet brings data and no control bit. -/
def isData (p : TCPPacket) : Prop := (p.syn || p.fin) = false ∧ 0 < p.dataLengthBytes

instance (p : TCPPacket) : Decidable (isData p) := inferInstanceAs (Decidable (_ ∧ _))

/-- What the reliability state answers to a packet is timed. -/
def packetTimed (d : DelayedACKEndpoint) (p : TCPPacket) : Prop :=
  if Endpoint.passesAck d.rc p then
    isData p → Timed d.delayed (d.delayed.getDelayBasedOnSeqNum p.sequenceNumber) (rtoAfterAck d.rc p)
  else Timed d.delayed d.delayed.delayCount d.rc.timeoutEvent.isSome

instance (d : DelayedACKEndpoint) (p : TCPPacket) : Decidable (d.packetTimed p) := by
  unfold packetTimed
  infer_instance

/-- The reliability state sees the packet. -/
def reaches (e : Endpoint) (p : TCPPacket) : Bool := p.validChecksum && (!Endpoint.passesAck e.rc p || e.accepts p)

/-- The packet that a step hands to the reliability state. -/
def delivered (d : DelayedACKEndpoint) : Input → Option TCPPacket
  | .event i => (d.toEndpoint.delivered i).filter (reaches d.toEndpoint)
  | .setSocketOption _ _ _ => none

/-- The ReceiveEvent that a step answers from the receive buffer. -/
def answered (d : DelayedACKEndpoint) : Input → Option ReceiveEvent
  | .event .drain =>
    match d.queue with
    | [] => none
    | v :: _ =>
      if d.contains v.socket && v.kind == .receiveBufferNotEmpty && d.socket.receiveBuffer != [] then d.rc.receiveEvent
      else none
  | .event (.receive r) =>
    if !d.deleted && d.cmc.state.canReceive && d.socket.receiveBuffer != [] then some r else none
  | _ => none

/-- A step puts no ACK off for the first time while the retransmission timer runs. -/
structure AckTimed (d : DelayedACKEndpoint) (i : Input) : Prop where
  packet : ∀ p ∈ d.delivered i, d.packetTimed p
  window : ∀ r ∈ d.answered i, doublesWindow d.toEndpoint r →
    Timed d.delayed d.delayed.delayCount d.rc.timeoutEvent.isSome

instance (d : DelayedACKEndpoint) (i : Input) : Decidable (d.AckTimed i) :=
  decidable_of_iff ((∀ p ∈ d.delivered i, d.packetTimed p) ∧ ∀ r ∈ d.answered i, doublesWindow d.toEndpoint r →
    Timed d.delayed d.delayed.delayCount d.rc.timeoutEvent.isSome) ⟨fun h => ⟨h.1, h.2⟩, fun h => ⟨h.1, h.2⟩⟩

/-! ### What a call does to the ACK timer -/

/-- A call that succeeds leaves the ACK timer due exactly if `c`, and it stops at no assertion about the timer. -/
def Leaves (c : Prop) : Except DelayedACKAbort DelayedACKEndpoint → Prop
  | .ok d => AckDue d.delayed ↔ c
  | .error a => a ≠ .noAckTimer

section

variable {d d' : DelayedACKEndpoint} {p : TCPPacket} {c : Prop}

theorem Leaves.bind {x : Except DelayedACKAbort DelayedACKEndpoint}
    {f : DelayedACKEndpoint → Except DelayedACKAbort DelayedACKEndpoint} (hx : Leaves c x)
    (hf : ∀ d, (f d = .error .noAckTimer → False) ∧ ∀ d', f d = .ok d' → d'.delayed = d.delayed) :
    Leaves c (do let d ← x; f d) := by
  cases x with
  | error a => exact hx
  | ok d =>
    obtain ⟨herror, hok⟩ := hf d
    show Leaves c (f d)
    cases hfd : f d with
    | error a =>
      rintro rfl
      exact herror hfd
    | ok d' =>
      show AckDue d'.delayed ↔ c
      rw [hok d' hfd]
      exact hx

theorem Leaves.congr {c' : Prop} {x : Except DelayedACKAbort DelayedACKEndpoint} (hx : Leaves c x) (h : c ↔ c') :
    Leaves c' x := by
  cases x with
  | error a => exact hx
  | ok d => exact Iff.trans hx h

theorem lift_ok {x : Except Abort Endpoint} (h : d.lift x = .ok d') :
    ∃ e, x = .ok e ∧ d' = { d with toEndpoint := e } := by
  unfold lift at h
  split at h
  · cases h
    exact ⟨_, rfl, rfl⟩
  · cases h

theorem lift_error {x : Except Abort Endpoint} (h : d.lift x = .error .noAckTimer) : False := by
  unfold lift at h
  split at h
  · cases h
  · cases h

theorem lift_delayed {x : Except Abort Endpoint} (h : d.lift x = .ok d') : d'.delayed = d.delayed := by
  obtain ⟨_, -, rfl⟩ := lift_ok h
  rfl

/-- A handler without a part in the acknowledgements. -/
theorem Leaves.lift (hdue : AckDue d.delayed) {x : Except Abort Endpoint} : Leaves True (d.lift x) := by
  cases h : d.lift x with
  | error a =>
    rintro rfl
    exact lift_error h
  | ok d' =>
    show AckDue d'.delayed ↔ True
    rw [lift_delayed h]
    exact iff_true_intro hdue

theorem Leaves.ok (hdue : AckDue d.delayed) {e : Endpoint} : Leaves True (.ok { d with toEndpoint := e }) :=
  iff_true_intro hdue

/-- The one place where an ACK is put off. -/
theorem createAndDispatchAck_leaves (hdue : AckDue d.delayed) :
    Leaves (Timed d.delayed d.delayed.delayCount d.rc.timeoutEvent.isSome) d.createAndDispatchAck := by
  unfold createAndDispatchAck
  simp only
  by_cases hreached : d.delayed.delayCount ≤ d.delayed.curAckCount + 1
  · rw [if_pos hreached]
    have htimed : Timed d.delayed d.delayed.delayCount d.rc.timeoutEvent.isSome := .inl hreached
    by_cases hwaits : 1 < d.delayed.delayCount
    · rw [if_pos hwaits]
      have harmed : d.delayed.ackTimer ≠ none := by
        refine hdue ?_
        bv_omega
      cases ht : d.delayed.ackTimer with
      | none => exact absurd ht harmed
      | some t =>
        unfold cancelAckTimer
        simp only
        refine iff_of_true (fun hpos => ?_) htimed
        cases hpos
    · rw [if_neg hwaits]
      refine iff_of_true (fun hpos => ?_) htimed
      cases hpos
  · rw [if_neg hreached]
    by_cases harmed : d.delayed.ackTimer = none
    · rw [if_pos harmed]
      unfold startAckTimer
      cases hrto : d.rc.timeoutEvent with
      | none =>
        simp only
        exact iff_of_true (fun _ => nofun) (.inr (.inr rfl))
      | some t =>
        simp only
        refine iff_of_false (fun hd => ?_) ?_
        · have hzero : ¬0 < d.delayed.curAckCount := fun hpos => hdue hpos harmed
          refine hd ?_ harmed
          show 0 < d.delayed.curAckCount + 1
          bv_omega
        · rintro (h | h | h)
          · exact hreached h
          · exact h harmed
          · cases h
    · rw [if_neg harmed]
      exact iff_of_true (fun _ => harmed) (.inr (.inl harmed))

theorem placeData_timeoutEvent {e e' : Endpoint} (h : placeData e p = .ok e') :
    e'.rc.timeoutEvent = e.rc.timeoutEvent := by
  unfold placeData at h
  obtain ⟨⟨n, w⟩, -, h⟩ := bind_eq_ok.1 h
  obtain ⟨-, -, h⟩ := bind_eq_ok.1 h
  obtain ⟨⟨l, w'⟩, -, h⟩ := bind_eq_ok.1 h
  cases h
  split <;> rfl

theorem handleData_leaves (hdue : AckDue d.delayed) :
    Leaves (Timed d.delayed (d.delayed.getDelayBasedOnSeqNum p.sequenceNumber) d.rc.timeoutEvent.isSome)
      (d.handleData p) := by
  unfold handleData
  simp only
  generalize hd₁ : ({ d with
    delayed := { d.delayed with delayCount := d.delayed.getDelayBasedOnSeqNum p.sequenceNumber } } :
    DelayedACKEndpoint) = d₁
  have hdue₁ : AckDue d₁.delayed := by
    rw [← hd₁]
    exact hdue
  have hrto₁ : d₁.rc.timeoutEvent = d.rc.timeoutEvent := by rw [← hd₁]
  cases hplace : d₁.lift (placeData d.toEndpoint p) with
  | error a =>
    rintro rfl
    exact lift_error hplace
  | ok d₂ =>
    have hdelayed := lift_delayed hplace
    obtain ⟨e, hx, hd₂⟩ := lift_ok hplace
    have hrto : d₂.rc.timeoutEvent = d.rc.timeoutEvent := by
      rw [hd₂]
      exact placeData_timeoutEvent hx
    have hack := createAndDispatchAck_leaves (d := d₂) (by rw [hdelayed]; exact hdue₁)
    rw [hdelayed, hrto, ← hd₁] at hack
    exact hack

/-! ### A packet -/

theorem handleValidAck_timer {e e' : Endpoint} (h : e.handleValidAck p = .ok e')
    (hnew : betweenEqualRight e.rc.snd.sndUna p.ackNumber e.rc.snd.sndMax = true) : e'.rc.timeoutEvent.isSome =
      decide ((e.rc.snd.acknowledge p.ackNumber).sndNxt ≠ (e.rc.snd.acknowledge p.ackNumber).sndUna) := by
  have hpos : 0 < p.ackNumber - e.rc.snd.sndUna := by
    unfold betweenEqualRight at hnew
    have hlt := (Bool.and_eq_true _ _ ▸ hnew).1
    rw [lessThan_iff] at hlt
    bv_omega
  unfold Endpoint.handleValidAck at h
  obtain ⟨-, -, h⟩ := bind_eq_ok.1 h
  -- the endpoint before its timer is looked at
  generalize hg : (({ e with
      rc := { e.rc with snd := e.rc.snd.acknowledge p.ackNumber }
      socket := { e.socket with
        sendBuffer := e.socket.sendBuffer.drop (p.ackNumber - e.rc.snd.sndUna).toNat } } : Endpoint).enqueue
    .sendBufferNotFull) = g at h
  have hsnd : g.rc.snd = e.rc.snd.acknowledge p.ackNumber := by rw [← hg]; rfl
  rw [hsnd] at h
  by_cases hout : (e.rc.snd.acknowledge p.ackNumber).sndNxt = (e.rc.snd.acknowledge p.ackNumber).sndUna
  · rw [if_pos hout] at h
    cases h
    rw [Endpoint.cancelTimer_timeoutEvent]
    simp [hout]
  · rw [if_neg hout, if_pos hpos] at h
    cases h
    have hstart : g.resetTimer.rc.timeoutEvent.isSome = true := by
      unfold Endpoint.resetTimer Endpoint.startTimer
      rw [Endpoint.cancelTimer_timeoutEvent]
      rfl
    rw [hstart]
    simp [hout]

/-- What `handle_ack` does: it passes the packet on and leaves the ACK timer alone, or it answers the packet. -/
inductive HandleAckCase (d : DelayedACKEndpoint) (p : TCPPacket) :
    Except DelayedACKAbort (Bool × DelayedACKEndpoint) → Prop
  | failed (a : Abort) : HandleAckCase d p (.error (.base a))
  | passed {d' : DelayedACKEndpoint} (hpass : Endpoint.passesAck d.rc p = true) (hdelayed : d'.delayed = d.delayed)
      (hrto : d'.rc.timeoutEvent.isSome = rtoAfterAck d.rc p) : HandleAckCase d p (.ok (true, d'))
  | beyond (hpass : Endpoint.passesAck d.rc p = false) :
      HandleAckCase d p (do let d ← d.createAndDispatchAck; .ok (false, d))

theorem handleAck_cases (d : DelayedACKEndpoint) (p : TCPPacket) : HandleAckCase d p (d.handleAck p) := by
  unfold handleAck
  by_cases hack : p.ack = true
  · rw [if_neg (by simp [hack])]
    by_cases hnew : betweenEqualRight d.rc.snd.sndUna p.ackNumber d.rc.snd.sndMax = true
    · rw [if_pos hnew]
      cases h : d.lift (d.toEndpoint.handleValidAck p) with
      | error a =>
        cases a with
        | base a => exact .failed a
        | noAckTimer => exact (lift_error h).elim
      | ok d' =>
        obtain ⟨e, hvalid, rfl⟩ := lift_ok h
        refine .passed (by simp [Endpoint.passesAck, hnew]) rfl ?_
        rw [handleValidAck_timer hvalid hnew]
        simp [rtoAfterAck, hack, hnew]
    · rw [if_neg hnew]
      have hrto : d.rc.timeoutEvent.isSome = rtoAfterAck d.rc p := by simp [rtoAfterAck, hnew]
      by_cases hbeyond : lessThan d.rc.snd.sndMax p.ackNumber = true
      · rw [if_pos hbeyond]
        exact .beyond (by simp [Endpoint.passesAck, hack, hnew, hbeyond])
      · rw [if_neg hbeyond]
        have hpass : Endpoint.passesAck d.rc p = true := by simp [Endpoint.passesAck, hbeyond]
        split
        · refine .passed hpass rfl ?_
          rw [← hrto]
          unfold Endpoint.handleDuplicateAck Endpoint.countDuplicateAck
          simp only
          split <;> split <;> rfl
        · exact .passed hpass rfl hrto
  · rw [if_pos (by simpa using hack)]
    exact .passed (by simp [Endpoint.passesAck, hack]) rfl (by simp [rtoAfterAck, hack])

theorem reliabilityReceivePacket_leaves (hdue : AckDue d.delayed) :
    Leaves (d.packetTimed p) (d.reliabilityReceivePacket p) := by
  unfold reliabilityReceivePacket packetTimed
  generalize hd₁ : ({ d with toEndpoint := d.toEndpoint.updateEchoReply p } : DelayedACKEndpoint) = d₁
  have hdelayed₁ : d₁.delayed = d.delayed := by rw [← hd₁]
  have hsame : Endpoint.passesAck d₁.rc p = Endpoint.passesAck d.rc p ∧ rtoAfterAck d₁.rc p = rtoAfterAck d.rc p ∧
      d₁.rc.timeoutEvent = d.rc.timeoutEvent := by
    rw [← hd₁]
    unfold Endpoint.updateEchoReply
    split <;> exact ⟨rfl, rfl, rfl⟩
  obtain ⟨hpass₁, hrto₁, htimer₁⟩ := hsame
  have hcase := handleAck_cases d₁ p
  generalize d₁.handleAck p = x at hcase
  cases hcase with
  | failed a => exact nofun
  | beyond hpass =>
    rw [if_neg (by rw [← hpass₁, hpass]; simp)]
    have hack := createAndDispatchAck_leaves (d := d₁) (by rw [hdelayed₁]; exact hdue)
    rw [hdelayed₁, htimer₁] at hack
    generalize d₁.createAndDispatchAck = y at hack
    cases y with
    | error a => exact hack
    | ok d' => exact hack
  | @passed d' hpass hdelayed hrto =>
    rw [if_pos (by rw [← hpass₁]; exact hpass)]
    show Leaves _ (d'.handleControlBitsAndData p)
    rw [hdelayed₁] at hdelayed
    rw [hrto₁] at hrto
    have hdue' : AckDue d'.delayed := by rw [hdelayed]; exact hdue
    unfold handleControlBitsAndData
    by_cases hcontrol : (p.syn || p.fin) = true
    · rw [if_pos hcontrol]
      refine (Leaves.ok hdue').congr (iff_of_true trivial fun hdata => ?_)
      rw [hdata.1] at hcontrol
      cases hcontrol
    · rw [if_neg hcontrol]
      by_cases hlength : 0 < p.dataLengthBytes
      · rw [if_pos hlength]
        have hdata := handleData_leaves (p := p) hdue'
        rw [hdelayed, hrto] at hdata
        exact hdata.congr ⟨fun h _ => h, fun h => h ⟨by simpa using hcontrol, hlength⟩⟩
      · rw [if_neg hlength]
        exact (Leaves.ok hdue').congr (iff_of_true trivial fun hdata => absurd hdata.2 hlength)

/-- `icontext_receive_packet`. -/
theorem receivePacket_leaves (hdue : AckDue d.delayed) :
    Leaves (reaches d.toEndpoint p = true → d.packetTimed p) (d.receivePacket p) := by
  have hnever (h : reaches d.toEndpoint p = false) {e : Endpoint} :
      Leaves (reaches d.toEndpoint p = true → d.packetTimed p) (.ok { d with toEndpoint := e }) := by
    refine (Leaves.ok hdue).congr (iff_of_true trivial fun h' => ?_)
    rw [h] at h'
    cases h'
  unfold receivePacket
  by_cases hsum : p.validChecksum = true
  · rw [if_neg (by simp [hsum])]
    by_cases hinv : (p.ack && !Endpoint.isValidAckNumber d.rc p) = true
    · rw [if_pos hinv]
      refine (reliabilityReceivePacket_leaves hdue).congr ⟨fun h _ => h, fun h => h ?_⟩
      unfold reaches Endpoint.accepts
      rw [Endpoint.passesAck_of_invalid d.rc hinv, if_pos hinv, hsum]
      cases lessThan d.rc.snd.sndMax p.ackNumber <;> rfl
    · rw [if_neg hinv]
      have hpass := Endpoint.passesAck_of_valid d.rc (by simpa using hinv)
      have hreach : reaches d.toEndpoint p = d.toEndpoint.accepts p := by
        unfold reaches
        rw [hsum, hpass]
        rfl
      have haccepts : d.toEndpoint.accepts p = (Endpoint.isValidSequenceNumber d.rc p &&
          !(p.fin && decide (d.rc.rcvWnd.toNat < maxTcpReceiveWindowSize))) := by
        unfold Endpoint.accepts
        rw [if_neg hinv, hsum]
        rfl
      by_cases hseq : Endpoint.isValidSequenceNumber d.rc p = true
      · rw [if_neg (by simp [hseq])]
        by_cases hpark : p.fin = true ∧ d.rc.rcvWnd.toNat < maxTcpReceiveWindowSize
        · rw [if_pos hpark]
          exact hnever (by rw [hreach, haccepts, hpark.1]; simp [hpark.2])
        · rw [if_neg hpark]
          have htakes : reaches d.toEndpoint p = true := by
            rw [hreach, haccepts, hseq]
            simpa [imp_iff_not_or] using hpark
          refine (Leaves.bind (reliabilityReceivePacket_leaves hdue) fun d₁ => ⟨fun h => ?_, fun d' h => ?_⟩).congr
            ⟨fun h _ => h, fun h => h htakes⟩
          · rcases bind_eq_error.1 h with h | ⟨d₂, -, h⟩
            · exact lift_error h
            · cases h
          · obtain ⟨d₂, h₂, h⟩ := bind_eq_ok.1 h
            cases h
            exact (lift_delayed h₂ :)
      · rw [if_pos (by simpa using hseq)]
        have hnot : reaches d.toEndpoint p = false := by
          rw [hreach, haccepts]
          simp [hseq]
        split
        · exact hnever hnot
        · split
          · exact hnever hnot
          · exact hnever hnot
  · rw [if_pos (by simpa using hsum)]
    exact hnever (by simp [reaches, hsum])

/-! ### The other handlers -/

theorem createAndDispatchReceivedData_leaves (hdue : AckDue d.delayed) {r : ReceiveEvent} :
    Leaves (doublesWindow d.toEndpoint r → Timed d.delayed d.delayed.delayCount d.rc.timeoutEvent.isSome)
      (d.createAndDispatchReceivedData r) := by
  unfold createAndDispatchReceivedData
  by_cases hdoubles : doublesWindow d.toEndpoint r
  · rw [if_pos hdoubles]
    have hack := createAndDispatchAck_leaves hdue
    refine (Leaves.bind hack fun d₁ => ⟨fun h => ?_, fun d' h => ?_⟩).congr ⟨fun h _ => h, fun h => h hdoubles⟩
    · cases h
    · cases h
      rfl
  · rw [if_neg hdoubles]
    exact iff_of_true hdue fun h => absurd h hdoubles

/-- `state_timer_fired`: no ACK is put off any longer, or the timer is another one. -/
theorem reliabilityTimerFired_due (hdue : AckDue d.delayed) (t : TimeoutEvent) :
    AckDue (d.reliabilityTimerFired t).delayed := by
  unfold reliabilityTimerFired
  simp only
  split
  · intro hpos
    cases hpos
  · exact hdue

theorem timerFired_leaves (hdue : AckDue d.delayed) (t : TimeoutEvent) : Leaves True (d.timerFired t) :=
  Leaves.lift (reliabilityTimerFired_due hdue t)

theorem setSocketOption_due {c : TCPDelayedACKReliabilityContext} (hdue : AckDue c) (level optionName : Int)
    (value : BitVec 32) : AckDue (c.setSocketOption level optionName value) := by
  unfold TCPDelayedACKReliabilityContext.setSocketOption
  split
  · split
    · exact hdue
    · split
      · exact hdue
      · split <;> exact hdue
  · exact hdue

/-! ### A step -/

theorem AckTimed.of_none {i : Input} (hp : d.delivered i = none) (hr : d.answered i = none) : d.AckTimed i := by
  refine ⟨fun p h => ?_, fun r h => ?_⟩
  · rw [hp] at h
    cases h
  · rw [hr] at h
    cases h

/-- A call without a part in the acknowledgements. -/
theorem Leaves.of_none {i : Input} {x : Except DelayedACKAbort DelayedACKEndpoint} (hp : d.delivered i = none)
    (hr : d.answered i = none) (h : Leaves True x) : Leaves (d.AckTimed i) x :=
  h.congr (iff_of_true trivial (.of_none hp hr))

theorem Leaves.of_packet {i : Input} {x : Except DelayedACKAbort DelayedACKEndpoint}
    (hp : d.delivered i = if reaches d.toEndpoint p then some p else none) (hr : d.answered i = none)
    (h : Leaves (reaches d.toEndpoint p = true → d.packetTimed p) x) : Leaves (d.AckTimed i) x := by
  refine h.congr ⟨fun ht => ⟨fun q hq => ?_, fun r h => ?_⟩, fun ht hreach => ht.packet p ?_⟩
  · rw [hp] at hq
    split at hq
    · rename_i hreach
      cases hq
      exact ht hreach
    · cases hq
  · rw [hr] at h
    cases h
  · rw [hp, if_pos hreach]
    rfl

theorem Leaves.of_answered {i : Input} {x : Except DelayedACKAbort DelayedACKEndpoint} {r : ReceiveEvent}
    (hp : d.delivered i = none) (hr : d.answered i = some r)
    (h : Leaves (doublesWindow d.toEndpoint r → Timed d.delayed d.delayed.delayCount d.rc.timeoutEvent.isSome) x) :
    Leaves (d.AckTimed i) x := by
  refine h.congr ⟨fun ht => ⟨fun q hq => ?_, fun r' h => ?_⟩, fun ht => ht.window r hr⟩
  · rw [hp] at hq
    cases hq
  · rw [hr] at h
    cases h
    exact ht

theorem drain_leaves (hdue : AckDue d.delayed) : Leaves (d.AckTimed (.event .drain)) d.drain := by
  have hp : d.delivered (.event .drain) = none := rfl
  unfold drain
  cases hq : d.queue with
  | nil => exact .of_none hp (by simp [answered, hq]) (iff_true_intro hdue)
  | cons v vs =>
    simp only
    by_cases hc : d.contains v.socket = true
    · rw [if_pos (show ({ d with queue := vs } : DelayedACKEndpoint).contains v.socket = true from hc)]
      by_cases hk : v.kind = .receiveBufferNotEmpty
      · rw [hk]
        show Leaves _ ({ d with queue := vs } : DelayedACKEndpoint).reliabilityReceiveBufferNotEmpty
        unfold reliabilityReceiveBufferNotEmpty
        simp only
        cases hr : d.rc.receiveEvent with
        | none => exact .of_none hp (by simp [answered, hq, hr]) (Leaves.ok hdue)
        | some r =>
          simp only
          by_cases hbuf : d.socket.receiveBuffer = []
          · rw [if_pos hbuf]
            exact .of_none hp (by simp [answered, hq, hbuf]) (Leaves.ok hdue)
          · rw [if_neg hbuf]
            refine .of_answered hp (r := r) (by simp [answered, hq, hc, hk, hbuf, hr]) ?_
            have hanswer := createAndDispatchReceivedData_leaves (d := { d with queue := vs }) hdue (r := r)
            refine Leaves.bind hanswer fun d₁ => ⟨fun h => ?_, fun d' h => ?_⟩
            · cases h
            · cases h
              rfl
      · have hlift : ({ d with queue := vs } : DelayedACKEndpoint).handleProtocolEvent v.kind =
            ({ d with queue := vs } : DelayedACKEndpoint).lift
              (({ d with queue := vs } : DelayedACKEndpoint).toEndpoint.handleProtocolEvent v.kind) := by
          unfold handleProtocolEvent
          split
          · exact absurd (by assumption) hk
          · rfl
        rw [hlift]
        exact .of_none hp (by simp [answered, hq, hk]) (Leaves.lift hdue)
    · rw [if_neg (show ¬({ d with queue := vs } : DelayedACKEndpoint).contains v.socket = true from hc)]
      exact .of_none hp (by simp [answered, hq, hc]) (Leaves.ok hdue)

theorem receive_leaves (hdue : AckDue d.delayed) (hdel : d.deleted = false) {r : ReceiveEvent} :
    Leaves (d.AckTimed (.event (.receive r))) (d.handleLow (.receive r)) := by
  have hp : d.delivered (.event (.receive r)) = none := rfl
  unfold handleLow
  simp only
  by_cases hs : d.cmc.state.canReceive = true
  · rw [if_pos hs]
    unfold reliabilityReceive
    by_cases hbuf : d.socket.receiveBuffer = []
    · rw [if_neg (not_not.2 hbuf)]
      exact .of_none hp (by simp [answered, hbuf]) (Leaves.lift hdue)
    · rw [if_pos hbuf]
      exact .of_answered hp (r := r) (by simp [answered, hdel, hs, hbuf])
        (createAndDispatchReceivedData_leaves hdue)
  · rw [if_neg hs]
    exact .of_none hp (by simp [answered, hs]) (iff_true_intro hdue)

theorem redeliver_leaves (hdue : AckDue d.delayed) (hdel : d.deleted = false) :
    Leaves (d.AckTimed (.event .redeliver)) (d.handleLow .redeliver) := by
  unfold handleLow
  cases hr : d.redelivered with
  | nil =>
    simp only
    exact .of_none (by simp [delivered, Endpoint.delivered, hr]) rfl (iff_true_intro hdue)
  | cons p ps =>
    simp only
    have hpacket := receivePacket_leaves (d := { d with redelivered := ps }) (p := p) hdue
    refine .of_packet (p := p) ?_ rfl hpacket
    simp [delivered, Endpoint.delivered, hdel, hr, Option.filter_some]

/-- Whether the ACK timer is due after a step. -/
theorem step_leaves (hdue : AckDue d.delayed) (i : Input) : Leaves (d.AckTimed i) (step i d) := by
  cases i with
  | setSocketOption level optionName value =>
    refine .of_none rfl rfl ?_
    show Leaves True (if d.deleted then .ok d else
      .ok { d with delayed := d.delayed.setSocketOption level optionName value })
    split
    · exact iff_true_intro hdue
    · exact iff_true_intro (setSocketOption_due hdue level optionName value)
  | event i =>
    by_cases hdrain : i = .drain
    · subst hdrain
      exact drain_leaves hdue
    · have hstep : step (.event i) d = if d.deleted then .ok d else d.handleLow i := by
        cases i with
        | drain => exact absurd rfl hdrain
        | _ => rfl
      rw [hstep]
      by_cases hdel : d.deleted = true
      · rw [if_pos hdel]
        refine .of_none ?_ ?_ (iff_true_intro hdue)
        · cases i <;> simp [delivered, Endpoint.delivered, hdel]
        · cases i with
          | drain => exact absurd rfl hdrain
          | _ => simp [answered, hdel]
      · rw [if_neg hdel]
        have hdel : d.deleted = false := by simpa using hdel
        cases i with
        | drain => exact absurd rfl hdrain
        | receive r => exact receive_leaves hdue hdel
        | packet p =>
          refine .of_packet (p := p) ?_ rfl (receivePacket_leaves hdue)
          simp [delivered, Endpoint.delivered, hdel, Option.filter_some]
        | redeliver => exact redeliver_leaves hdue hdel
        | timerFired t =>
          refine .of_none rfl rfl ?_
          unfold handleLow
          simp only
          split
          · exact timerFired_leaves hdue t
          · exact iff_true_intro hdue
        | listen l => exact .of_none rfl rfl (Leaves.lift hdue (x := d.toEndpoint.handleLow (.listen l)))
        | connect c => exact .of_none rfl rfl (Leaves.lift hdue (x := d.toEndpoint.handleLow (.connect c)))
        | send s => exact .of_none rfl rfl (Leaves.lift hdue (x := d.toEndpoint.handleLow (.send s)))
        | close c => exact .of_none rfl rfl (Leaves.lift hdue (x := d.toEndpoint.handleLow (.close c)))
        | tick now => exact .of_none rfl rfl (Leaves.lift hdue (x := d.toEndpoint.handleLow (.tick now)))

/-! ### Runs -/

/-- The ACK timer is due in every state of a run, whether or not protocol events wait. -/
theorem run_ackDue {id : SocketId} {l r : AddressPort} {is : List Input}
    (h : machine.Run AckTimed (create id l r) is d) : AckDue d.delayed := by
  refine h.invariant (fun d => AckDue d.delayed) (fun hpos => by cases hpos) ?_
  intro t i u hdue _ htimed hstep
  have hleaves := step_leaves hdue i
  rw [show step i t = .ok u from hstep] at hleaves
  exact hleaves.2 htimed

/-- While an ACK is put off the ACK timer is armed, and no step finds it missing when it is to be cancelled, as long as
no ACK is put off for the first time while the retransmission timer is running. -/
theorem delayed_ack_due {id : SocketId} {l r : AddressPort} {is : List Input}
    (h : machine.Run AckTimed (create id l r) is d) :
    (d.queue = [] → 0 < d.delayed.curAckCount → d.delayed.ackTimer.isSome = true) ∧
      ∀ i, machine.enabled i d → machine.step i d ≠ .error .noAckTimer := by
  have hdue := run_ackDue h
  refine ⟨fun _ hpos => Option.isSome_iff_ne_none.2 (hdue hpos), fun i _ herror => ?_⟩
  have hleaves := step_leaves hdue i
  rw [show step i d = .error .noAckTimer from herror] at hleaves
  exact hleaves rfl

/-- The condition is exact: a step that breaks it leaves an ACK put off with no timer. -/
theorem step_not_due {i : Input} (hdue : AckDue d.delayed) (hstep : step i d = .ok d') (hnot : ¬d.AckTimed i) :
    0 < d'.delayed.curAckCount ∧ d'.delayed.ackTimer = none := by
  have hleaves := step_leaves hdue i
  rw [hstep] at hleaves
  have hlate : ¬AckDue d'.delayed := fun h => hnot (hleaves.1 h)
  unfold AckDue at hlate
  push Not at hlate
  exact hlate

end

/-! ### A receiver with data on its way -/

/-- The client's socket. -/
def client : DelayedACKEndpoint := create 1 Endpoint.clientAddress ⟨0, 0⟩

/-- Events of the plain endpoint. -/
def events (is : List Endpoint.Input) : List Input := is.map .event

/-- The client receives two segments, whose number makes it wait for a third. -/
def receiveScript : List Input :=
  events (Endpoint.connectScript 20000 ++ [.packet (Endpoint.segment 20001 2 [66]), .drain,
    .packet (Endpoint.segment 20002 2 [67]), .drain])

/-- A client that sends nothing has its ACK timer armed while an ACK is put off. -/
theorem delayed_ack_due_receiver : ∃ d, machine.Run AckTimed client receiveScript d ∧ 0 < d.delayed.curAckCount ∧
    d.delayed.ackTimer.isSome = true := by
  obtain ⟨d, hrun, h⟩ := Transition.Machine.exists_run (M := machine) (P := AckTimed) (s := client)
    (i := receiveScript) (q := fun d => decide (d.queue = [] ∧ 0 < d.delayed.curAckCount)) (by decide +kernel)
  obtain ⟨hq, hpos⟩ := of_decide_eq_true h
  exact ⟨d, hrun, hpos, (delayed_ack_due hrun).1 hq hpos⟩

/-- The client has a byte on its way, so that the retransmission timer runs, when a segment comes. -/
def crossingScript : List Input :=
  events (Endpoint.connectScript 20000 ++ [.send ⟨2, [65]⟩, .drain, .drain,
    .packet (Endpoint.segment 20001 2 [66]), .drain])

/-- The ACK of the segment is put off without a timer; the second segment after it finds no timer to cancel. -/
theorem delayed_ack_untimed : (∃ d, machine.Run Transition.anyStep client crossingScript d ∧ d.queue = [] ∧
      0 < d.delayed.curAckCount ∧ d.delayed.ackTimer = none) ∧
    ∃ d, machine.Run Transition.anyStep client
        (crossingScript ++ events [.packet (Endpoint.segment 20002 2 [67]), .drain]) d ∧
      machine.enabled (.event (.packet (Endpoint.segment 20003 2 [68]))) d ∧
      machine.step (.event (.packet (Endpoint.segment 20003 2 [68]))) d = .error .noAckTimer := by
  constructor
  · obtain ⟨d, hrun, h⟩ := Transition.Machine.exists_run (M := machine) (P := Transition.anyStep) (s := client)
      (i := crossingScript)
      (q := fun d => decide (d.queue = [] ∧ 0 < d.delayed.curAckCount ∧ d.delayed.ackTimer = none))
      (by decide +kernel)
    exact ⟨d, hrun, of_decide_eq_true h⟩
  · obtain ⟨d, hrun, h⟩ := Transition.Machine.exists_run (M := machine) (P := Transition.anyStep) (s := client)
      (i := crossingScript ++ events [.packet (Endpoint.segment 20002 2 [67]), .drain])
      (q := fun d => decide (machine.enabled (.event (.packet (Endpoint.segment 20003 2 [68]))) d) &&
        machine.stops (.event (.packet (Endpoint.segment 20003 2 [68]))) d fun a => decide (a = .noAckTimer))
      (by decide +kernel)
    rw [Bool.and_eq_true] at h
    obtain ⟨a, hstops, ha⟩ := Transition.Machine.stops_iff.1 h.2
    rw [decide_eq_true_iff] at ha
    exact ⟨d, hrun, of_decide_eq_true h.1, by rw [← ha, hstops]⟩

end DelayedACKEndpoint

end Wifu
