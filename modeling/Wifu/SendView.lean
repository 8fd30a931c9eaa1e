import Wifu.SendQueue

/-!
# Steps of the reliability context's sending side

The send variables and the retransmission timer change in three ways only: a packet leaves, a new ACK number is
handled, or `snd_nxt` goes back to `snd_una` for a retransmission.  No condition on the run is needed for this.
-/

namespace Wifu

/-- A segment that the event sends has a length that is a length. -/
def ProtocolEvent.Made (v : ProtocolEvent) : Prop := ∀ p ∈ v.packet, 0 ≤ p.dataLengthBytes

theorem ProtocolEvent.made_packet (s : SocketId) {p : TCPPacket} (hp : 0 ≤ p.dataLengthBytes) :
    (⟨s, .sendPacket p⟩ : ProtocolEvent).Made := by
  intro q hq
  rw [← Option.some_inj.1 hq]
  exact hp

theorem ProtocolEvent.Harmless.made {v : ProtocolEvent} {s : SocketId} (h : v.Harmless s) : v.Made := by
  intro p hp
  have hempty := waiting_harmless (q := [v]) (s := s) (by simpa using h) p (List.mem_filterMap.2 ⟨v, by simp, hp⟩)
  exact hempty.length.ge

namespace Endpoint

/-! ### Queue and dispatcher only grow -/

/-- Nothing leaves the queue, and what has been dispatched stays. -/
structure Grows (e e' : Endpoint) : Prop where
  queue : ∃ q, e'.queue = e.queue ++ q ∧ ∀ v ∈ q, v.Made
  dispatched : ∃ d, e'.dispatched = e.dispatched ++ d

namespace Grows

variable {e e' e'' : Endpoint}

theorem of_eq (hq : e'.queue = e.queue) (hd : e'.dispatched = e.dispatched) : Grows e e' :=
  ⟨⟨[], by rw [hq, List.append_nil], by simp⟩, ⟨[], by rw [hd, List.append_nil]⟩⟩

theorem refl (e : Endpoint) : Grows e e := of_eq rfl rfl

theorem trans (h : Grows e e') (h' : Grows e' e'') : Grows e e'' := by
  obtain ⟨⟨q, hq, hm⟩, d, hd⟩ := h
  obtain ⟨⟨q', hq', hm'⟩, d', hd'⟩ := h'
  constructor
  · refine ⟨q ++ q', by rw [hq', hq, List.append_assoc], fun v hv => ?_⟩
    rcases List.mem_append.1 hv with hv | hv
    · exact hm v hv
    · exact hm' v hv
  · exact ⟨d ++ d', by rw [hd', hd, List.append_assoc]⟩

theorem mem_queue (h : Grows e e') {v : ProtocolEvent} (hv : v ∈ e.queue) : v ∈ e'.queue := by
  obtain ⟨q, hq, -⟩ := h.queue
  rw [hq]
  exact List.mem_append_left _ hv

theorem made (h : Grows e e') (hm : ∀ v ∈ e.queue, v.Made) : ∀ v ∈ e'.queue, v.Made := by
  obtain ⟨q, hq, hnew⟩ := h.queue
  rw [hq]
  intro v hv
  rcases List.mem_append.1 hv with hv | hv
  · exact hm v hv
  · exact hnew v hv

theorem mem_dispatched (h : Grows e e') {f : FrameworkEvent} (hf : f ∈ e.dispatched) : f ∈ e'.dispatched := by
  obtain ⟨d, hd⟩ := h.dispatched
  rw [hd]
  exact List.mem_append_left _ hf

theorem enqueueFor (e : Endpoint) {s : SocketId} {k : ProtocolEventKind} (hk : (⟨s, k⟩ : ProtocolEvent).Made) :
    Grows e (e.enqueueFor s k) :=
  ⟨⟨_, rfl, by simpa using hk⟩, ⟨[], (List.append_nil _).symm⟩⟩

/-- An event that sends nothing. -/
theorem enqueueOther (e : Endpoint) {s : SocketId} {k : ProtocolEventKind}
    (hk : (⟨s, k⟩ : ProtocolEvent).packet = none) : Grows e (e.enqueueFor s k) :=
  enqueueFor e fun p hp => by rw [hk] at hp; cases hp

theorem enqueuePacket (e : Endpoint) (s : SocketId) {p : TCPPacket} (hp : 0 ≤ p.dataLengthBytes) :
    Grows e (e.enqueueFor s (.sendPacket p)) :=
  enqueueFor e (ProtocolEvent.made_packet s hp)

theorem dispatch (e : Endpoint) (f : FrameworkEvent) : Grows e (e.dispatch f) :=
  ⟨⟨[], (List.append_nil _).symm, by simp⟩, ⟨_, rfl⟩⟩

theorem dispatchTimeout (e : Endpoint) (s : SocketId) : Grows e (e.dispatchTimeout s) :=
  ⟨⟨[], (List.append_nil _).symm, by simp⟩, ⟨_, rfl⟩⟩

theorem startTimer (e : Endpoint) : Grows e e.startTimer := by
  unfold Endpoint.startTimer
  split
  · exact refl e
  · exact ⟨⟨[], (List.append_nil _).symm, by simp⟩, ⟨_, rfl⟩⟩

theorem cancelTimer (e : Endpoint) : Grows e e.cancelTimer := by
  unfold Endpoint.cancelTimer
  split
  · exact refl e
  · exact ⟨⟨[], (List.append_nil _).symm, by simp⟩, ⟨_, rfl⟩⟩

theorem requestResend (e : Endpoint) (r : ResendReason) : Grows e (e.requestResend r) := by
  have h : Grows e { e with rc := { e.rc with snd := e.rc.snd.setSndNxt e.rc.snd.sndUna } } := of_eq rfl rfl
  exact h.trans (enqueueOther _ rfl)

theorem reliabilityTimerFired (e : Endpoint) (t : TimeoutEvent) : Grows e (e.reliabilityTimerFired t) := by
  unfold Endpoint.reliabilityTimerFired
  split
  · have h : Grows e { e with rc := { e.rc with timeoutEvent := none } } := of_eq rfl rfl
    exact h.trans (requestResend _ _)
  · exact refl e

theorem handleValidAck {p : TCPPacket} (h : e.handleValidAck p = .ok e') : Grows e e' := by
  unfold Endpoint.handleValidAck at h
  obtain ⟨-, -, h⟩ := bind_eq_ok.1 h
  have hnew : Grows e (({ e with
      rc := { e.rc with snd := e.rc.snd.acknowledge p.ackNumber }
      socket := { e.socket with
        sendBuffer := e.socket.sendBuffer.drop (p.ackNumber - e.rc.snd.sndUna).toNat } } : Endpoint).enqueue
      .sendBufferNotFull) :=
    ⟨⟨[⟨e.socket.id, .sendBufferNotFull⟩], rfl, by simp [ProtocolEvent.Made, ProtocolEvent.packet]⟩,
      ⟨[], (List.append_nil _).symm⟩⟩
  split at h
  · cases h
    exact hnew.trans (cancelTimer _)
  · split at h
    · cases h
      exact hnew.trans ((cancelTimer _).trans (startTimer _))
    · cases h
      exact hnew

theorem handleAck {p : TCPPacket} {b : Bool} (h : e.handleAck p = .ok (b, e')) : Grows e e' := by
  unfold Endpoint.handleAck at h
  split at h
  · cases h
    exact refl e
  · split at h
    · obtain ⟨e₁, h₁, h⟩ := bind_eq_ok.1 h
      cases h
      exact handleValidAck h₁
    · split at h
      · cases h
        exact enqueuePacket _ _ (Int.natCast_nonneg _)
      · split at h
        · cases h
          have hcount : Grows e { e with rc := countDuplicateAck e.rc p } := of_eq rfl rfl
          unfold handleDuplicateAck
          simp only
          split
          · exact hcount.trans (requestResend _ _)
          · exact hcount
        · cases h
          exact refl e

theorem startTimeWaitTimer (e : Endpoint) : Grows e e.startTimeWaitTimer :=
  ⟨⟨[], (List.append_nil _).symm, by simp⟩, ⟨_, rfl⟩⟩

theorem stopTimeWaitTimer (e : Endpoint) : Grows e e.stopTimeWaitTimer :=
  ⟨⟨[], (List.append_nil _).symm, by simp⟩, ⟨_, rfl⟩⟩

theorem setState (e : Endpoint) (s : ConnectionManagerState) : Grows e (e.setState s) := by
  have hexit : Grows e e.stateExit := by
    unfold stateExit
    split
    · exact stopTimeWaitTimer e
    · exact refl e
  have henter (e : Endpoint) : Grows e e.stateEnter := by
    unfold stateEnter
    split
    · exact startTimeWaitTimer e
    · split
      · exact dispatch _ _
      · exact refl e
    · exact refl e
  have hset : Grows e.stateExit { e.stateExit with cmc := { e.stateExit.cmc with state := s } } := of_eq rfl rfl
  exact (hexit.trans hset).trans (henter _)

theorem processSyn (e : Endpoint) (p : TCPPacket) : Grows e (e.processSyn p) := by
  have h : Grows e { e with nextSocket := e.nextSocket + 1, cmc := { e.cmc with acceptSocket := e.socket.id } } :=
    of_eq rfl rfl
  unfold Endpoint.processSyn
  exact ((h.trans (enqueueOther _ rfl)).trans (enqueuePacket _ _ (by exact Int.natCast_nonneg _))).trans (setState _ _)

theorem managerReceivePacket (e : Endpoint) (p : TCPPacket) : Grows e (e.managerReceivePacket p) := by
  have hanswer (e : Endpoint) (s : ConnectionManagerState) : Grows e (e.createAndDispatchAck.setState s) :=
    (enqueuePacket _ _ (by exact Int.natCast_nonneg _)).trans (setState _ _)
  unfold Endpoint.managerReceivePacket
  split
  · split
    · exact processSyn e p
    · exact refl e
  · split
    · exact (enqueuePacket _ _ (by exact Int.natCast_nonneg _)).trans (setState _ _)
    · exact refl e
  · split
    · exact (enqueueOther _ rfl).trans (setState _ _)
    · exact refl e
  · split
    · exact refl e
    · split
      · exact (hanswer _ _).trans (dispatch _ _)
      · exact refl e
  · split
    · exact hanswer _ _
    · split
      · exact setState _ _
      · exact refl e
  · split
    · exact hanswer _ _
    · exact refl e
  · split
    · exact setState _ _
    · exact refl e
  · split
    · exact (enqueueOther _ rfl).trans (setState _ _)
    · exact refl e
  · split
    · exact ((enqueuePacket _ _ (by exact Int.natCast_nonneg _)).trans (stopTimeWaitTimer _)).trans (startTimeWaitTimer _)
    · exact refl e
  · exact refl e
  · exact refl e

theorem managerClose (e : Endpoint) : Grows e e.managerClose := by
  unfold Endpoint.managerClose
  split
  · exact (enqueueOther _ rfl).trans (setState _ _)
  · split
    · exact (setState _ _).trans (enqueuePacket _ _ (by exact Int.natCast_nonneg _))
    · exact refl e
  · exact (enqueuePacket _ _ (by exact Int.natCast_nonneg _)).trans (setState _ _)
  · exact refl e

theorem managerTimerFired (e : Endpoint) (t : TimeoutEvent) : Grows e (e.managerTimerFired t) := by
  unfold Endpoint.managerTimerFired
  split
  · split
    · exact (enqueueOther _ rfl).trans (setState _ _)
    · exact refl e
  · exact refl e

theorem runSavedClose (e : Endpoint) : Grows e e.runSavedClose := by
  rcases runSavedClose_cases e with ⟨-, heq⟩ | ⟨-, heq⟩ <;> rw [heq]
  · exact (managerClose e).trans (of_eq rfl rfl)
  · exact refl e

theorem sendOnePacket {w : Bool} (h : e.sendOnePacket w = .ok e') : Grows e e' := by
  unfold Endpoint.sendOnePacket at h
  obtain ⟨n, -, h⟩ := bind_eq_ok.1 h
  obtain ⟨-, -, h⟩ := bind_eq_ok.1 h
  obtain ⟨-, -, h⟩ := bind_eq_ok.1 h
  obtain ⟨-, -, h⟩ := bind_eq_ok.1 h
  cases h
  refine ⟨⟨_, rfl, ?_⟩, ⟨[], (List.append_nil _).symm⟩⟩
  rw [List.forall_mem_singleton]
  exact ProtocolEvent.made_packet _ (Int.natCast_nonneg _)

theorem sendPackets (h : e.sendPackets = .ok e') : Grows e e' :=
  sendPackets_invariant (Grows e) h (refl e) fun _ _ hg _ hone => hg.trans (sendOnePacket hone)

theorem startProbeTimer (e : Endpoint) : Grows e e.startProbeTimer := by
  unfold Endpoint.startProbeTimer
  split
  · exact refl e
  · exact ⟨⟨[], (List.append_nil _).symm, by simp⟩, ⟨_, rfl⟩⟩

theorem cancelProbeTimer (e : Endpoint) : Grows e e.cancelProbeTimer := by
  unfold Endpoint.cancelProbeTimer
  split
  · exact refl e
  · exact ⟨⟨[], (List.append_nil _).symm, by simp⟩, ⟨_, rfl⟩⟩

theorem congestionReceivePacket {p : TCPPacket} (h : e.congestionReceivePacket p = .ok e') : Grows e e' := by
  unfold Endpoint.congestionReceivePacket at h
  split at h
  · obtain ⟨ccc, -, h⟩ := bind_eq_ok.1 h
    have hset : Grows e { e with ccc := ccc } := of_eq rfl rfl
    unfold sendOrProbe at h
    split at h
    · cases h
      exact hset.trans (startProbeTimer _)
    · exact (hset.trans (cancelProbeTimer _)).trans (sendPackets h)
  · cases h
    exact refl e

theorem receiveUnlessDuplicate {p : TCPPacket} {b : Bool} (h : e.receiveUnlessDuplicate p b = .ok e') : Grows e e' := by
  obtain ⟨-, rfl⟩ | ⟨-, h⟩ := receiveUnlessDuplicate_ok h
  · exact refl _
  · exact congestionReceivePacket h

theorem congestionTimerFired {t : TimeoutEvent} (h : e.congestionTimerFired t = .ok e') : Grows e e' := by
  unfold Endpoint.congestionTimerFired at h
  split at h
  · have htimer : Grows e ({ e with
        ccc := { e.ccc with probeTimer := some (e.newTimeout e.socket.id) } }.dispatchTimeout e.socket.id) :=
      ⟨⟨[], (List.append_nil _).symm, by simp⟩, ⟨_, rfl⟩⟩
    exact htimer.trans (sendOnePacket h)
  · cases h
    exact refl e

end Grows

/-! ### The three ways -/

/-- The send variables and the retransmission timer. -/
structure SendView where
  snd : OutstandingDataContext
  initialized : Bool
  timeoutEvent : Option TimeoutEvent

def sendView (e : Endpoint) : SendView := ⟨e.rc.snd, e.rc.initialized, e.rc.timeoutEvent⟩

section

variable {e e' : Endpoint} {p q : TCPPacket}

theorem ManagerChange.sendView (h : ManagerChange e e') : e'.sendView = e.sendView := by
  unfold Endpoint.sendView
  rw [h.rc]

theorem CongestionChange.sendView (h : CongestionChange e e') : e'.sendView = e.sendView := by
  unfold Endpoint.sendView
  rw [h.rc]

/-- A packet leaves; the timer runs behind a segment with content. -/
structure Sends (e : Endpoint) (p q : TCPPacket) (e' : Endpoint) : Prop extends PacketSent e e' p q where
  sent : sentPackets e'.dispatched = sentPackets e.dispatched ++ [q]
  runs : p.hasContent → e'.rc.timeoutEvent.isSome = true
  keeps : ¬p.hasContent ∨ e.rc.timeoutEvent.isSome = true → e'.rc.timeoutEvent = e.rc.timeoutEvent

theorem checkAndStartTimer_timeoutEvent (e : Endpoint) (p : TCPPacket) :
    (p.hasContent → (e.checkAndStartTimer p).rc.timeoutEvent.isSome = true) ∧
    (¬p.hasContent ∨ e.rc.timeoutEvent.isSome = true →
      (e.checkAndStartTimer p).rc.timeoutEvent = e.rc.timeoutEvent) := by
  have hiff : (0 < p.dataLengthBytes ∨ p.syn = true ∨ p.fin = true) ↔ p.hasContent := by
    unfold TCPPacket.hasContent
    tauto
  unfold checkAndStartTimer startTimer
  by_cases hp : p.hasContent
  · rw [if_pos (hiff.2 hp)]
    cases ht : e.rc.timeoutEvent with
    | none => simp [hp, dispatchTimeout]
    | some t => simp [ht]
  · rw [if_neg fun h => hp (hiff.1 h)]
    simp [hp]

theorem sendPacket_sends (h : e.sendPacket p = .ok e') : ∃ q, Sends e p q e' := by
  obtain ⟨q, hsent⟩ := sendPacket_ok h
  unfold sendPacket at h
  obtain ⟨⟨q', e₁⟩, h₁, h⟩ := bind_eq_ok.1 h
  cases h
  have hlog : sentPackets ((e₁.congestionSendPacket q').dispatch (.networkSendPacket q')).dispatched =
      sentPackets e.dispatched ++ [q'] := by
    rw [← sentPackets_congr (AckChange.sendPacket h₁).transfers]
    exact sentPackets_append
  have hq : q = q' := by
    obtain ⟨d, hd, -⟩ := hsent.dispatched
    rw [hd, sentPackets_append] at hlog
    exact List.singleton_inj.1 (List.append_inj' hlog rfl).2
  subst hq
  unfold reliabilitySendPacket at h₁
  simp only at h₁
  obtain ⟨b, -, h₁⟩ := bind_eq_ok.1 h₁
  obtain ⟨q', -, h₁⟩ := bind_eq_ok.1 h₁
  cases h₁
  -- the timer looks at the packet as it leaves, with the content that it came with
  have hcontent : (setAckNumberAndBit (setSequenceNumber e.rc p).2 (setSequenceNumber e.rc p).1).hasContent ↔
      p.hasContent := by
    unfold setSequenceNumber
    split <;> rfl
  have htimer : (setSequenceNumber e.rc p).2.timeoutEvent = e.rc.timeoutEvent := by
    unfold setSequenceNumber
    split <;> rfl
  obtain ⟨hruns, hkeeps⟩ := checkAndStartTimer_timeoutEvent { e with rc := (setSequenceNumber e.rc p).2 }
    (setAckNumberAndBit (setSequenceNumber e.rc p).2 (setSequenceNumber e.rc p).1)
  rw [hcontent] at hruns hkeeps
  simp only [htimer] at hkeeps
  exact ⟨_, hsent, hlog, hruns, hkeeps⟩

/-- How a step changes the send variables and the retransmission timer. -/
inductive SendStep (e : Endpoint) (i : Input) (e' : Endpoint) : Prop
  | same (h : e'.sendView = e.sendView) (hs : sentPackets e'.dispatched = sentPackets e.dispatched)
  | sent {p q : TCPPacket} {vs : List ProtocolEvent} (hi : i = .drain) (hdel : e.deleted = false)
      (hq : e.queue = ⟨e.socket.id, .sendPacket p⟩ :: vs) (h : Sends { e with queue := vs } p q e')
  /-- A new ACK number; the timer starts again or stops. -/
  | acked {p : TCPPacket} (hd : e.delivered i = some p) (hack : p.ack = true)
      (hnew : betweenEqualRight e.rc.snd.sndUna p.ackNumber e.rc.snd.sndMax = true)
      (hsnd : e'.rc.snd = e.rc.snd.acknowledge p.ackNumber) (hinit : e'.rc.initialized = e.rc.initialized)
      (htimer : e'.rc.timeoutEvent.isSome = true ↔ e'.rc.snd.sndUna ≠ e'.rc.snd.sndNxt)
      (hcancel : ∀ t, e.rc.timeoutEvent = some t → .cancelTimer (some t) ∈ e'.dispatched)
      (hs : sentPackets e'.dispatched = sentPackets e.dispatched)
  /-- A retransmission is requested. -/
  | rewound (hsnd : e'.rc.snd = e.rc.snd.setSndNxt e.rc.snd.sndUna) (hinit : e'.rc.initialized = e.rc.initialized)
      (htimer : (∃ t, i = .timerFired t ∧ e.rc.timeoutEvent = some t ∧ e'.rc.timeoutEvent = none) ∨
        e'.rc.timeoutEvent = e.rc.timeoutEvent ∧ lessThan e.rc.snd.sndUna e.rc.snd.sndNxt = true)
      (hresend : ∃ r, ⟨e.socket.id, .resendPacket r⟩ ∈ e'.queue)
      (hs : sentPackets e'.dispatched = sentPackets e.dispatched)

/-- The rest of a handler leaves the send variables and the timer alone. -/
theorem SendStep.lift {e₁ : Endpoint} {i : Input} (h : SendStep e i e₁) (hi : i ≠ .drain)
    (hv : e'.sendView = e₁.sendView) (hg : Grows e₁ e') (hs : sentPackets e'.dispatched = sentPackets e₁.dispatched) :
    SendStep e i e' := by
  have hsnd : e'.rc.snd = e₁.rc.snd := congrArg SendView.snd hv
  have hinit : e'.rc.initialized = e₁.rc.initialized := congrArg SendView.initialized hv
  have htimer : e'.rc.timeoutEvent = e₁.rc.timeoutEvent := congrArg SendView.timeoutEvent hv
  cases h with
  | same h hs' => exact .same (hv.trans h) (hs.trans hs')
  | sent hi' _ _ _ => exact absurd hi' hi
  | acked hd hack hnew hsnd' hinit' htimer' hcancel hs' =>
    refine .acked hd hack hnew (hsnd.trans hsnd') (hinit.trans hinit') ?_ (fun t ht => hg.mem_dispatched (hcancel t ht))
      (hs.trans hs')
    rw [htimer, hsnd]
    exact htimer'
  | rewound hsnd' hinit' htimer' hresend hs' =>
    refine .rewound (hsnd.trans hsnd') (hinit.trans hinit') ?_ ?_ (hs.trans hs')
    · rw [htimer]
      exact htimer'
    · obtain ⟨r, hr⟩ := hresend
      exact ⟨r, hg.mem_queue hr⟩

theorem cancelTimer_timeoutEvent (e : Endpoint) : e.cancelTimer.rc.timeoutEvent = none := by
  unfold cancelTimer
  split
  · assumption
  · rfl

theorem mem_cancelTimer {t : TimeoutEvent} (ht : e.rc.timeoutEvent = some t) :
    .cancelTimer (some t) ∈ e.cancelTimer.dispatched := by
  unfold cancelTimer
  rw [ht]
  exact List.mem_append_right _ List.mem_cons_self

theorem cancelTimer_snd (e : Endpoint) : e.cancelTimer.rc.snd = e.rc.snd ∧
    e.cancelTimer.rc.initialized = e.rc.initialized := by
  unfold cancelTimer
  split <;> exact ⟨rfl, rfl⟩

/-- `handle_valid_ack`. -/
theorem handleValidAck_sendStep {f : Endpoint} {i : Input} (hv : f.sendView = e.sendView)
    (hdis : f.dispatched = e.dispatched) (hd : e.delivered i = some p) (hack : p.ack = true)
    (hnew : betweenEqualRight e.rc.snd.sndUna p.ackNumber e.rc.snd.sndMax = true) (h : f.handleValidAck p = .ok e') :
    SendStep e i e' := by
  have hsnd : f.rc.snd = e.rc.snd := congrArg SendView.snd hv
  have hinit : f.rc.initialized = e.rc.initialized := congrArg SendView.initialized hv
  have htimeout : f.rc.timeoutEvent = e.rc.timeoutEvent := congrArg SendView.timeoutEvent hv
  have hlog : sentPackets e'.dispatched = sentPackets e.dispatched := by
    rw [← hdis]
    exact sentPackets_congr (AckChange.handleValidAck h).transfers
  have hpos : 0 < p.ackNumber - e.rc.snd.sndUna := by
    have hlt : lessThan e.rc.snd.sndUna p.ackNumber = true := by
      unfold betweenEqualRight at hnew
      exact (Bool.and_eq_true _ _ ▸ hnew).1
    rw [BitVec.lt_def, BitVec.toNat_sub]
    show 0 < (2 ^ 32 - e.rc.snd.sndUna.toNat + p.ackNumber.toNat) % 2 ^ 32
    rw [lessThan_iff] at hlt
    have := e.rc.snd.sndUna.isLt
    have := p.ackNumber.isLt
    omega
  unfold handleValidAck at h
  obtain ⟨-, -, h⟩ := bind_eq_ok.1 h
  rw [hsnd] at h
  -- the endpoint before its timer is looked at
  generalize hg : (({ f with
      rc := { f.rc with snd := e.rc.snd.acknowledge p.ackNumber }
      socket := { f.socket with
        sendBuffer := f.socket.sendBuffer.drop (p.ackNumber - e.rc.snd.sndUna).toNat } } : Endpoint).enqueue
    .sendBufferNotFull) = g at h
  have hgsnd : g.rc.snd = e.rc.snd.acknowledge p.ackNumber := by rw [← hg]; rfl
  have hginit : g.rc.initialized = e.rc.initialized := by rw [← hg]; exact hinit
  have hgtimeout : g.rc.timeoutEvent = e.rc.timeoutEvent := by rw [← hg]; exact htimeout
  obtain ⟨hcsnd, hcinit⟩ := cancelTimer_snd g
  have hcancel : ∀ t, e.rc.timeoutEvent = some t → .cancelTimer (some t) ∈ g.cancelTimer.dispatched :=
    fun t ht => mem_cancelTimer (hgtimeout.trans ht)
  rw [hgsnd] at h
  by_cases hout : (e.rc.snd.acknowledge p.ackNumber).sndNxt = (e.rc.snd.acknowledge p.ackNumber).sndUna
  · rw [if_pos hout] at h
    cases h
    refine .acked hd hack hnew (hcsnd.trans hgsnd) (hcinit.trans hginit) ?_ hcancel hlog
    rw [cancelTimer_timeoutEvent, hcsnd, hgsnd]
    simp [hout]
  · rw [if_neg hout, if_pos hpos] at h
    cases h
    have hstart : g.resetTimer.rc.snd = g.cancelTimer.rc.snd ∧
        g.resetTimer.rc.initialized = g.cancelTimer.rc.initialized ∧ g.resetTimer.rc.timeoutEvent.isSome = true := by
      unfold resetTimer startTimer
      rw [cancelTimer_timeoutEvent]
      exact ⟨rfl, rfl, rfl⟩
    obtain ⟨hssnd, hsinit, hsome⟩ := hstart
    have hgrows : Grows g.cancelTimer g.resetTimer := .startTimer _
    refine .acked hd hack hnew (hssnd.trans (hcsnd.trans hgsnd)) (hsinit.trans (hcinit.trans hginit)) ?_
      (fun t ht => hgrows.mem_dispatched (hcancel t ht)) hlog
    rw [hssnd, hcsnd, hgsnd, hsome]
    simpa using Ne.symm hout

/-- `handle_ack`. -/
theorem handleAck_sendStep {f : Endpoint} {i : Input} {b : Bool} (hv : f.sendView = e.sendView)
    (hdis : f.dispatched = e.dispatched) (hid : f.socket.id = e.socket.id) (hd : e.delivered i = some p)
    (h : f.handleAck p = .ok (b, e')) : SendStep e i e' := by
  have hsnd : f.rc.snd = e.rc.snd := congrArg SendView.snd hv
  have hlog : sentPackets f.dispatched = sentPackets e.dispatched := by rw [hdis]
  unfold handleAck at h
  by_cases hack : p.ack = true
  · rw [if_neg (by simp [hack]), hsnd] at h
    by_cases hnew : betweenEqualRight e.rc.snd.sndUna p.ackNumber e.rc.snd.sndMax = true
    · rw [if_pos hnew] at h
      obtain ⟨e₁, h₁, h⟩ := bind_eq_ok.1 h
      cases h
      exact handleValidAck_sendStep hv hdis hd hack hnew h₁
    · rw [if_neg hnew] at h
      split at h
      · cases h
        exact .same hv hlog
      · split at h
        · rename_i hdup
          cases h
          unfold handleDuplicateAck
          have hcount : (countDuplicateAck f.rc p).snd = f.rc.snd ∧
              (countDuplicateAck f.rc p).initialized = f.rc.initialized ∧
              (countDuplicateAck f.rc p).timeoutEvent = f.rc.timeoutEvent := by
            unfold countDuplicateAck
            split <;> exact ⟨rfl, rfl, rfl⟩
          obtain ⟨hcsnd, hcinit, hctimer⟩ := hcount
          simp only
          split
          · refine .rewound ?_ ?_ (.inr ⟨?_, ?_⟩) ⟨.threeDuplicateAcks, ?_⟩ hlog
            · show (countDuplicateAck f.rc p).snd.setSndNxt (countDuplicateAck f.rc p).snd.sndUna = _
              rw [hcsnd, hsnd]
            · exact hcinit.trans (congrArg SendView.initialized hv)
            · exact hctimer.trans (congrArg SendView.timeoutEvent hv)
            · unfold betweenEqualLeft at hdup
              exact (Bool.and_eq_true _ _ ▸ hdup).2
            · rw [← hid]
              exact List.mem_append_right _ List.mem_cons_self
          · refine .same ?_ hlog
            rw [← hv]
            unfold Endpoint.sendView
            rw [hcsnd, hcinit, hctimer]
        · cases h
          exact .same hv hlog
  · rw [if_pos (by simpa using hack)] at h
    cases h
    exact .same hv hlog

theorem reliabilityReceivePacket_sendStep {f : Endpoint} {i : Input} (hv : f.sendView = e.sendView)
    (hdis : f.dispatched = e.dispatched) (hid : f.socket.id = e.socket.id) (hd : e.delivered i = some p)
    (hi : i ≠ .drain) (h : f.reliabilityReceivePacket p = .ok e') : SendStep e i e' := by
  obtain ⟨e₁, hack, -, hrest⟩ := reliabilityReceivePacket_ok h
  have hecho : (f.updateEchoReply p).sendView = f.sendView ∧ (f.updateEchoReply p).dispatched = f.dispatched ∧
      (f.updateEchoReply p).socket.id = f.socket.id := by
    obtain ⟨t, heq⟩ := updateEchoReply_eq f p
    rw [heq]
    exact ⟨rfl, rfl, rfl⟩
  have hstep := handleAck_sendStep (hecho.1.trans hv) (hecho.2.1.trans hdis) (hecho.2.2.trans hid) hd hack
  split at hrest
  · obtain ⟨v, -, rfl⟩ := hrest
    have hgrows : Grows e₁ { e₁.withReceive v with queue := e₁.queue ++ e₁.acceptEvents p v } :=
      ⟨⟨_, rfl, fun x hx => (SendFrame.acceptEvents e₁ p v x hx).made⟩, ⟨[], (List.append_nil _).symm⟩⟩
    exact hstep.lift hi rfl hgrows rfl
  · rw [hrest]
    exact hstep

theorem receivePacket_sendStep {f : Endpoint} {i : Input} (hv : f.sendView = e.sendView)
    (hdis : f.dispatched = e.dispatched) (hid : f.socket.id = e.socket.id) (hd : e.delivered i = some p)
    (hi : i ≠ .drain) (h : f.receivePacket p = .ok e') : SendStep e i e' := by
  have hlog : sentPackets f.dispatched = sentPackets e.dispatched := by rw [hdis]
  have hcase := receivePacket_cases f p
  rw [h] at hcase
  cases hcase with
  | corrupt _ h => cases h; exact .same hv hlog
  | skipping _ _ _ h => exact reliabilityReceivePacket_sendStep hv hdis hid hd hi h.symm
  | lingering _ _ _ h =>
    cases h
    have hman := ManagerChange.receivePacket f p
    exact .same (hman.sendView.trans hv) ((sentPackets_congr hman.transfers).trans hlog)
  | answered _ _ h => cases h; exact .same hv hlog
  | ignored _ _ h => cases h; exact .same hv hlog
  | parked _ _ _ _ _ h => cases h; exact .same hv hlog
  | taken _ _ _ _ h =>
    obtain ⟨e₁, h₁, h⟩ := bind_eq_ok.1 h.symm
    obtain ⟨e₂, h₂, h⟩ := bind_eq_ok.1 h
    cases h
    have hstep := reliabilityReceivePacket_sendStep hv hdis hid hd hi h₁
    have hman := ManagerChange.receivePacket e₁ p
    have hcc := CongestionChange.receiveUnlessDuplicate h₂
    have hclose := ManagerChange.runSavedClose e₂
    have hgrows := (Grows.managerReceivePacket e₁ p).trans ((Grows.receiveUnlessDuplicate h₂).trans (.runSavedClose e₂))
    refine hstep.lift hi ?_ hgrows ?_
    · exact hclose.sendView.trans (hcc.sendView.trans hman.sendView)
    · exact (sentPackets_congr hclose.transfers).trans ((sentPackets_congr hcc.transfers).trans
        (sentPackets_congr hman.transfers))

theorem createAndDispatchReceivedData_sendView (e : Endpoint) (r : ReceiveEvent) :
    (e.createAndDispatchReceivedData r).sendView = e.sendView ∧
      sentPackets (e.createAndDispatchReceivedData r).dispatched = sentPackets e.dispatched := by
  unfold createAndDispatchReceivedData
  simp only
  split
  · exact ⟨rfl, by simp [enqueue, enqueueFor, dispatch, createAndDispatchAck, sentPackets, FrameworkEvent.sent]⟩
  · exact ⟨rfl, by simp [enqueue, enqueueFor, dispatch, sentPackets, FrameworkEvent.sent]⟩

theorem saveInBuffer_sendView (e : Endpoint) (s : SendEvent) (n : Nat) :
    (e.saveInBuffer s n).sendView = e.sendView ∧
      sentPackets (e.saveInBuffer s n).dispatched = sentPackets e.dispatched := by
  refine ⟨rfl, ?_⟩
  simp [saveInBuffer, enqueue, enqueueFor, dispatch, sentPackets, FrameworkEvent.sent]

/-- A protocol event other than a packet to be sent leaves the send variables alone. -/
theorem handleProtocolEvent_sendView {k : ProtocolEventKind} (hk : ∀ p, k ≠ .sendPacket p)
    (h : e.handleProtocolEvent k = .ok e') :
    e'.sendView = e.sendView ∧ sentPackets e'.dispatched = sentPackets e.dispatched := by
  have hcc (hc : CongestionChange e e') :
      e'.sendView = e.sendView ∧ sentPackets e'.dispatched = sentPackets e.dispatched :=
    ⟨hc.sendView, sentPackets_congr hc.transfers⟩
  cases k with
  | sendPacket p => exact absurd rfl (hk p)
  | resendPacket r => exact hcc (.resendPacket h)
  | sendBufferNotEmpty => exact hcc (.sendPackets h)
  | sendBufferNotFull =>
    replace h : e.sendBufferNotFull = .ok e' := h
    obtain ⟨-, rfl⟩ | ⟨_, n, -, -, ⟨-, rfl⟩ | ⟨-, rfl⟩⟩ := sendBufferNotFull_ok h
    · exact ⟨rfl, rfl⟩
    · exact saveInBuffer_sendView e _ n
    · exact ⟨rfl, rfl⟩
  | receiveBufferNotEmpty =>
    cases h
    obtain heq | ⟨r, -, -, heq⟩ := receiveBufferNotEmpty_cases e <;> rw [heq]
    · exact ⟨rfl, rfl⟩
    · exact createAndDispatchReceivedData_sendView e r
  | receiveBufferNotFull =>
    cases h
    obtain ⟨-, heq⟩ | ⟨p, -, -, heq⟩ := receiveBufferNotFull_cases e <;> rw [heq]
    · exact ⟨rfl, rfl⟩
    · exact ⟨rfl, by simp [dispatch, sentPackets, FrameworkEvent.sent]⟩
  | connectionInitiated | connectionEstablished | deleteSocket =>
    cases h
    exact ⟨rfl, rfl⟩

theorem timerFired_sendStep {t : TimeoutEvent} (h : e.timerFired t = .ok e') : SendStep e (.timerFired t) e' := by
  unfold timerFired at h
  have hcc := CongestionChange.timerFired h
  have hman := ManagerChange.timerFired (e.reliabilityTimerFired t) t
  have hstep : SendStep e (.timerFired t) (e.reliabilityTimerFired t) := by
    unfold reliabilityTimerFired
    split
    · rename_i ht
      exact .rewound rfl rfl (.inl ⟨t, rfl, ht, rfl⟩) ⟨.timeout, List.mem_append_right _ List.mem_cons_self⟩ rfl
    · exact .same rfl rfl
  refine hstep.lift (by simp) ?_ ((Grows.managerTimerFired _ t).trans (.congestionTimerFired h)) ?_
  · rw [hcc.sendView, hman.sendView]
  · rw [sentPackets_congr hcc.transfers, sentPackets_congr hman.transfers]

/-- How a step changes the send variables and the retransmission timer. -/
theorem step_sendStep {i : Input} (h : step i e = .ok e') : SendStep e i e' := by
  replace h := step_ok h
  have hman (hm : ManagerChange e e') : SendStep e i e' := .same hm.sendView (sentPackets_congr hm.transfers)
  cases h with
  | dropped _ h => cases h; exact .same rfl rfl
  | skipped _ _ h => cases h; exact .same rfl rfl
  | @event v vs hq hs hdel h =>
    obtain ⟨s, k⟩ := v
    replace hs : s = e.socket.id := hs
    subst hs
    by_cases hk : ∃ p, k = .sendPacket p
    · obtain ⟨p, rfl⟩ := hk
      obtain ⟨q, hsends⟩ := sendPacket_sends h.symm
      exact .sent rfl hdel hq hsends
    · obtain ⟨hview, hsent⟩ := handleProtocolEvent_sendView (fun p hp => hk ⟨p, hp⟩) h.symm
      exact .same hview hsent
  | @packet _ p ps hd _ _ h =>
    have hi : i ≠ .drain := by
      rintro rfl
      cases hd
    exact receivePacket_sendStep (e := e) (f := { e with redelivered := ps }) rfl rfl rfl hd hi h.symm
  | listen l _ h => cases h; exact hman (.listen e l)
  | connect c _ h =>
    cases h
    obtain heq | ⟨_, -, -, heq⟩ := managerConnect_cases e c <;> rw [heq]
    · exact .same rfl rfl
    · exact .same rfl rfl
  | send s _ _ h =>
    obtain ⟨n, -, ⟨-, rfl⟩ | ⟨-, rfl⟩⟩ := send_ok h.symm
    · exact .same (saveInBuffer_sendView e s n).1 (saveInBuffer_sendView e s n).2
    · exact .same rfl rfl
  | receive r _ _ h =>
    replace h := h.symm
    obtain ⟨-, rfl⟩ | ⟨-, -, rfl⟩ := reliabilityReceive_ok h
    · exact .same (createAndDispatchReceivedData_sendView e r).1 (createAndDispatchReceivedData_sendView e r).2
    · exact .same rfl rfl
  | close c _ h =>
    cases h
    unfold close
    simp only
    have hlog (f : Endpoint) : sentPackets (f.dispatch (.closeResponse c)).dispatched = sentPackets f.dispatched := by
      simp [dispatch, sentPackets, FrameworkEvent.sent]
    split
    · exact .same (ManagerChange.close e).sendView
        ((hlog _).trans (sentPackets_congr (ManagerChange.close e).transfers))
    · exact .same rfl (hlog _)
  | timerFired t _ _ h => exact timerFired_sendStep h.symm
  | tick now _ h => cases h; exact .same rfl rfl

end

end Endpoint

end Wifu
