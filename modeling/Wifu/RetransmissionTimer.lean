import Wifu.SequenceOrder
import Wifu.Settled

/-!
# The retransmission timer

After the SYN the timer runs exactly while something is outstanding, as long as the SYN is the first segment to leave.
Between the request for a retransmission and the segment that it sends this is put off; the queue then holds what will
send it.
-/

namespace Wifu

/-- The event leads to a segment with content. -/
def ProtocolEvent.Content (v : ProtocolEvent) : Prop := v.isResend = true ∨ ∃ p ∈ v.packet, p.hasContent

namespace Endpoint

/-- The first segment to leave takes up a sequence number. -/
def opensWithContent (e : Endpoint) (i : Input) : Prop :=
  i = .drain → e.rc.initialized = false →
    ∀ v ∈ e.queue.head?, v.socket = e.socket.id → ∀ p ∈ v.packet, p.hasContent

/-- No segment takes `snd_nxt` all the way round to `snd_una`. -/
def staysBehind (e : Endpoint) (i : Input) : Prop :=
  i = .drain → e.rc.initialized = true →
    ∀ v ∈ e.queue.head?, v.socket = e.socket.id → ∀ p ∈ v.packet, p.hasContent →
      e.rc.snd.sndNxt + p.sequenceLength ≠ e.rc.snd.sndUna

/-- The condition on the steps of the retransmission timer. -/
def armingCondition (e : Endpoint) (i : Input) : Prop := opensWithContent e i ∧ staysBehind e i

instance (e : Endpoint) (i : Input) : Decidable (opensWithContent e i) :=
  inferInstanceAs (Decidable (i = .drain → e.rc.initialized = false →
    ∀ v ∈ e.queue.head?, v.socket = e.socket.id → ∀ p ∈ v.packet, p.hasContent))

instance (e : Endpoint) (i : Input) : Decidable (staysBehind e i) :=
  inferInstanceAs (Decidable (i = .drain → e.rc.initialized = true →
    ∀ v ∈ e.queue.head?, v.socket = e.socket.id → ∀ p ∈ v.packet, p.hasContent →
      e.rc.snd.sndNxt + p.sequenceLength ≠ e.rc.snd.sndUna))

instance (e : Endpoint) (i : Input) : Decidable (armingCondition e i) := inferInstanceAs (Decidable (_ ∧ _))

/-- The timer runs exactly while something is outstanding. -/
def ArmedExactly (e : Endpoint) : Prop := e.rc.timeoutEvent.isSome = true ↔ e.rc.snd.sndUna ≠ e.rc.snd.sndNxt

instance (e : Endpoint) : Decidable e.ArmedExactly := inferInstanceAs (Decidable (_ ↔ _))

/-- The timer is right, or nothing is outstanding and a segment with content is on its way. -/
def Armed (e : Endpoint) : Prop :=
  e.ArmedExactly ∨ e.rc.snd.sndUna = e.rc.snd.sndNxt ∧ ∃ v ∈ e.queue, v.socket = e.socket.id ∧ v.Content

section

variable {e e' : Endpoint} {i : Input} {p : TCPPacket}

theorem Armed.idle (ha : e.Armed) (hq : e.queue = []) : e.ArmedExactly := by
  rcases ha with ha | ⟨-, v, hv, -⟩
  · exact ha
  · rw [hq] at hv
    cases hv

theorem ArmedExactly.of_view (ha : e.ArmedExactly) (hv : e'.sendView = e.sendView) : e'.ArmedExactly := by
  have hsnd : e'.rc.snd = e.rc.snd := congrArg SendView.snd hv
  have htimer : e'.rc.timeoutEvent = e.rc.timeoutEvent := congrArg SendView.timeoutEvent hv
  unfold ArmedExactly
  rw [hsnd, htimer]
  exact ha

/-- A retransmission puts its segment in the queue. -/
theorem resendPacketEvent_content (h : e.resendPacketEvent = .ok e') :
    ∃ v ∈ e'.queue, v.socket = e'.socket.id ∧ v.Content := by
  obtain ⟨p, ccc, hfront, -, -, rfl⟩ := congestionResendPacket_ok h
  have hcontent : p.hasContent := by
    cases hfront with
    | syn _ hp => exact .inl hp.syn
    | fin _ hp => exact .inr (.inl hp.fin)
    | data _ _ hp _ => exact .inr (.inr hp.length)
  exact ⟨⟨e.socket.id, .sendPacket p⟩, List.mem_append_right _ List.mem_cons_self, rfl, .inr ⟨p, rfl, hcontent⟩⟩

/-- A segment made by the endpoint takes up no sequence number unless it has content. -/
theorem sequenceLength_of_not_content (hp : ¬p.hasContent) (hlen : 0 ≤ p.dataLengthBytes) : p.sequenceLength = 0 := by
  unfold TCPPacket.hasContent at hp
  push Not at hp
  obtain ⟨hs, hf, hl⟩ := hp
  have hzero : p.dataLengthBytes = 0 := by omega
  simp [TCPPacket.sequenceLength, hs, hf, hzero]

/-- What is on its way stays on its way until it is sent. -/
theorem Armed.pending (hdel : e.deleted = false) (hen : enabled i e) (hstep : step i e = .ok e')
    (hid : e'.socket.id = e.socket.id) (hsent : sentPackets e'.dispatched = sentPackets e.dispatched)
    (hp : ∃ v ∈ e.queue, v.socket = e.socket.id ∧ v.Content) : ∃ v ∈ e'.queue, v.socket = e'.socket.id ∧ v.Content := by
  obtain ⟨v, hv, hsock, hcontent⟩ := hp
  have hi : i = .drain := by
    by_contra hi
    have hq : e.queue = [] := by
      cases i <;> first | exact hen | exact absurd rfl hi
    rw [hq] at hv
    cases hv
  subst hi
  cases step_ok hstep with
  | dropped _ h =>
    cases h
    exact ⟨v, hv, hsock, hcontent⟩
  | @skipped w vs hq hc h =>
    cases h
    rw [hq] at hv
    rcases List.mem_cons.1 hv with rfl | hv
    · simp [contains, hdel, hsock] at hc
    · exact ⟨v, hv, hsock, hcontent⟩
  | @event w vs hq hw _ h =>
    rw [hq] at hv
    rcases List.mem_cons.1 hv with rfl | hv
    · obtain ⟨s, k⟩ := v
      rcases hcontent with hresend | ⟨p, hpacket, -⟩
      · unfold ProtocolEvent.isResend at hresend
        split at hresend
        · rename_i r hk
          rw [hk] at h
          exact resendPacketEvent_content h.symm
        · cases hresend
      · -- the segment would have been sent
        have hk : k = .sendPacket p := by
          unfold ProtocolEvent.packet at hpacket
          split at hpacket
          · rename_i q hk
            rw [← Option.some_inj.1 hpacket]
            exact hk
          · cases hpacket
        rw [hk] at h
        obtain ⟨q, hsends⟩ := sendPacket_sends h.symm
        have hlen := congrArg List.length (hsends.sent.symm.trans hsent)
        simp at hlen
    · refine ⟨v, (Grows.handleProtocolEvent h.symm).mem_queue hv, hsock.trans hid.symm, hcontent⟩
  | packet hd _ _ _ => cases hd

/-- A step after the SYN. -/
theorem Armed.step (ha : e.Armed) (hinit : e.rc.initialized = true) (hs : e.Settled) (hdel : e.deleted = false)
    (hen : enabled i e) (hc : staysBehind e i) (hstep : step i e = .ok e') (hid : e'.socket.id = e.socket.id) :
    e'.Armed := by
  cases step_sendStep hstep with
  | same hv hsent =>
    rcases ha with ha | ⟨hnone, hp⟩
    · exact .inl (ha.of_view hv)
    · have hsnd : e'.rc.snd = e.rc.snd := congrArg SendView.snd hv
      exact .inr ⟨by rw [hsnd]; exact hnone, Armed.pending hdel hen hstep hid hsent hp⟩
  | @sent p q vs hi _ hq hsends =>
    have hsnd : e'.rc.snd = e.rc.snd.setSndNxt (e.rc.snd.sndNxt + p.sequenceLength) := by
      rw [hsends.snd, (setSequenceNumber_next hinit p).2]
    by_cases hp : p.hasContent
    · left
      have hne := hc hi hinit _ (by rw [hq]; rfl) rfl p rfl hp
      unfold ArmedExactly
      rw [hsnd]
      exact ⟨fun _ => Ne.symm hne, fun _ => hsends.runs hp⟩
    · -- an empty segment changes neither the variables nor the timer
      have hmade := hs.made ⟨e.socket.id, .sendPacket p⟩ (by rw [hq]; simp) p rfl
      have hnxt : e'.rc.snd.sndNxt = e.rc.snd.sndNxt := by
        rw [hsnd, sequenceLength_of_not_content hp hmade]
        exact BitVec.add_zero _
      have huna : e'.rc.snd.sndUna = e.rc.snd.sndUna := by
        rw [hsnd]
        rfl
      have htimer : e'.rc.timeoutEvent = e.rc.timeoutEvent := hsends.keeps (.inl hp)
      unfold Armed ArmedExactly
      rw [hnxt, huna, htimer, hid]
      refine ha.imp id fun ⟨hnone, v, hv, hsock, hcontent⟩ => ⟨hnone, v, ?_, hsock, hcontent⟩
      rw [hsends.queue]
      rw [hq] at hv
      rcases List.mem_cons.1 hv with rfl | hv
      · rcases hcontent with hresend | ⟨r, hr, hcontent⟩
        · cases hresend
        · rw [← Option.some_inj.1 hr] at hcontent
          exact absurd hcontent hp
      · exact hv
  | acked _ _ _ _ _ htimer _ _ => exact .inl htimer
  | rewound hsnd _ htimer hresend _ =>
    have hnone : e'.rc.snd.sndUna = e'.rc.snd.sndNxt := by
      rw [hsnd]
      rfl
    rcases htimer with ⟨t, -, -, hnew⟩ | -
    · left
      unfold ArmedExactly
      rw [hnew, hnone]
      simp
    · obtain ⟨r, hr⟩ := hresend
      exact .inr ⟨hnone, _, hr, hid.symm, .inl rfl⟩

/-! ### Runs -/

/-- What holds of the timer at every moment: the socket is gone, nothing has been sent, or the timer is armed. -/
inductive ArmedInv (e : Endpoint) : Prop
  | deleted (h : e.deleted = true)
  | unopened (hu : e.Unopened) (hdel : e.deleted = false)
  | opened (hinit : e.rc.initialized = true) (hs : e.Settled) (ha : e.Armed) (hdel : e.deleted = false)

/-- The first segment to leave is the SYN, and nothing else waits. -/
theorem Unopened.opens (hu : e.Unopened) {q : TCPPacket} {vs : List ProtocolEvent}
    (hq : e.queue = ⟨e.socket.id, .sendPacket p⟩ :: vs) (hp : p.hasContent)
    (hsends : Sends { e with queue := vs } p q e') : e'.Settled ∧ e'.Armed := by
  have hstate : e'.cmc.state = e.cmc.state := hsends.state
  have hearly : e.cmc.state.isEarly = true ∧ vs = [] := by
    rcases hu.queue with ⟨-, hharm⟩ | ⟨hearly, r, -, hqueue | ⟨s, l, r', li, hqueue⟩⟩
    · have hempty : (⟨e.socket.id, .sendPacket p⟩ : ProtocolEvent).Harmless e.socket.id := hharm _ (by rw [hq]; simp)
      obtain ⟨-, hs, hf, hl⟩ := hempty
      unfold TCPPacket.hasContent at hp
      simp [hs, hf, hl] at hp
    · rw [hq] at hqueue
      cases hqueue
      exact ⟨hearly, rfl⟩
    · rw [hq] at hqueue
      cases hqueue
  have hqueue : e'.queue = [] := hsends.queue.trans hearly.2
  obtain ⟨-, hvar⟩ := setSequenceNumber_first hu.initialized p
  constructor
  · refine ⟨by rw [hqueue]; rfl, ?_, ?_, by simp [hqueue]⟩
    · intro hl
      rw [← hstate, hl] at hearly
      cases hearly.1
    · intro hc
      rw [← hstate, hc] at hearly
      cases hearly.1
  · left
    have hne : e'.rc.snd.sndUna ≠ e'.rc.snd.sndNxt := by
      rw [hsends.snd, hvar]
      show iss ≠ iss + 1
      decide
    exact ⟨fun _ => hne, fun _ => hsends.runs hp⟩

theorem ArmedInv.step (h : ArmedInv e) (hen : enabled i e) (hc : armingCondition e i) (hstep : step i e = .ok e') :
    ArmedInv e' := by
  cases h with
  | deleted hdel => exact .deleted (step_deleted hdel hstep)
  | opened hinit hs ha hdel =>
    rcases hs.step hdel hen hstep with hdel' | ⟨hs', hid, hdel'⟩
    · exact .deleted hdel'
    · refine .opened ?_ hs' (ha.step hinit hs hdel hen hc.2 hstep hid) hdel'
      cases step_sendStep hstep with
      | same hv _ => exact (congrArg SendView.initialized hv).trans hinit
      | sent _ _ _ hsends => exact hsends.initialized
      | acked _ _ _ _ h _ _ _ => exact h.trans hinit
      | rewound _ h _ _ _ => exact h.trans hinit
  | unopened hu hdel =>
    cases step_sendStep hstep with
    | @sent p q vs hi _ hq hsends =>
      have hp : p.hasContent := hc.1 hi hu.initialized _ (by rw [hq]; rfl) rfl p rfl
      obtain ⟨hs, ha⟩ := hu.opens hq hp hsends
      exact .opened hsends.initialized hs ha (hsends.deleted.trans hdel)
    | same hv _ =>
      have hinit : e'.rc.initialized = false := (congrArg SendView.initialized hv).trans hu.initialized
      rcases hu.step hen hstep with h | h | h
      · exact .deleted h
      · rw [hinit] at h
        cases h
      · by_cases hd : e'.deleted = true
        · exact .deleted hd
        · exact .unopened h (by simpa using hd)
    | acked _ _ hnew _ _ _ _ _ =>
      rw [hu.rcSnd] at hnew
      obtain ⟨hlt, hle⟩ := Bool.and_eq_true _ _ ▸ hnew
      rcases lessThanOrEqual_iff.1 hle with h | h
      · rw [lessThan_asymm hlt] at h
        cases h
      · rw [h, lessThan_self] at hlt
        cases hlt
    | rewound _ _ htimer _ _ =>
      rcases htimer with ⟨t, -, ht, -⟩ | ⟨-, hlt⟩
      · rw [hu.timeoutEvent] at ht
        cases ht
      · rw [hu.rcSnd, lessThan_self] at hlt
        cases hlt

/-! ### Timers that can still fire -/

/-- The retransmission timers that have neither fired nor been cancelled. -/
def observeTimers (_ : Endpoint) (i : Input) (e' : Endpoint) (live : Finset TimeoutEvent) : Finset TimeoutEvent :=
  (live ∪ e'.rc.timeoutEvent.toFinset).filter fun t => i ≠ .timerFired t ∧ .cancelTimer (some t) ∉ e'.dispatched

/-- The machine of an endpoint with a record of its retransmission timers. -/
def timersMachine : Transition.Machine (Endpoint × Finset TimeoutEvent) Input Abort := machine.observed observeTimers

instance (i : Input) (s : Endpoint × Finset TimeoutEvent) : Decidable (timersMachine.enabled i s) :=
  inferInstanceAs (Decidable (enabled i s.1))

/-- Only the timer that the context knows can still fire. -/
def OneLive (s : Endpoint × Finset TimeoutEvent) : Prop := s.2 ⊆ s.1.rc.timeoutEvent.toFinset

theorem OneLive.step {live : Finset TimeoutEvent} (h : OneLive (e, live)) (hstep : step i e = .ok e') :
    OneLive (e', observeTimers e i e' live) := by
  intro t ht
  obtain ⟨hmem, hfired, hcancelled⟩ := Finset.mem_filter.1 ht
  rcases Finset.mem_union.1 hmem with hold | hnew
  · have hold := Option.mem_toFinset.1 (h hold)
    have hsome : e.rc.timeoutEvent = some t := hold
    refine Option.mem_toFinset.2 ?_
    cases step_sendStep hstep with
    | same hv _ => exact (congrArg SendView.timeoutEvent hv).trans hsome
    | sent _ _ _ hsends =>
      have hkeeps := hsends.keeps (.inr (by rw [hsome]; rfl))
      exact hkeeps.trans hsome
    | acked _ _ _ _ _ _ hcancel _ => exact absurd (hcancel t hsome) hcancelled
    | rewound _ _ htimer _ _ =>
      rcases htimer with ⟨u, hi, hu, -⟩ | ⟨hkeeps, -⟩
      · rw [hsome] at hu
        cases hu
        exact absurd hi hfired
      · exact hkeeps.trans hsome
  · exact hnew

theorem OneLive.card {s : Endpoint × Finset TimeoutEvent} (h : OneLive s) : s.2.card ≤ 1 := by
  refine (Finset.card_le_card h).trans ?_
  cases s.1.rc.timeoutEvent <;> simp

/-- In every run in which the SYN is the first segment to leave, the retransmission timer is set exactly while something
is outstanding, whenever no protocol event is pending; and at most one retransmission timer can still fire. -/
theorem retransmission_timer_armed {id : SocketId} {l r : AddressPort} {is : List Input}
    {s : Endpoint × Finset TimeoutEvent} (h : timersMachine.Run (fun s i => armingCondition s.1 i) (create id l r, ∅) is s)
    (hdel : s.1.deleted = false) : (s.1.queue = [] → s.1.ArmedExactly) ∧ s.2.card ≤ 1 := by
  have hinv : ArmedInv s.1 ∧ OneLive s := by
    refine h.invariant (fun s => ArmedInv s.1 ∧ OneLive s) ⟨.unopened (.create id l r) rfl, by simp [OneLive]⟩ ?_
    rintro ⟨e, live⟩ i ⟨e', live'⟩ ⟨hinv, hlive⟩ hen hc hs
    obtain ⟨hstep, hobs⟩ := Transition.Machine.observed_step.1 hs
    simp only at hstep hobs
    subst hobs
    exact ⟨hinv.step hen hc hstep, hlive.step hstep⟩
  refine ⟨fun hq => ?_, hinv.2.card⟩
  cases hinv.1 with
  | deleted h =>
    rw [hdel] at h
    cases h
  | unopened hu _ =>
    unfold ArmedExactly
    rw [hu.timeoutEvent, hu.rcSnd]
    simp
  | opened _ _ ha _ => exact ha.idle hq

/-- The first of two bytes sent is acknowledged. -/
def acknowledgeScript : List Input :=
  connectScript 5 ++ [.send ⟨2, [1, 2]⟩, .drain, .drain, .packet (segment 6 3 []), .drain]

theorem retransmission_timer_armed_acknowledge :
    ∃ s, timersMachine.Run (fun s i => armingCondition s.1 i) (client, ∅) acknowledgeScript s ∧
      s.1.ArmedExactly ∧ s.1.rc.timeoutEvent.isSome = true ∧ s.2.card ≤ 1 := by
  have h : (timersMachine.replay (fun s i => armingCondition s.1 i) acknowledgeScript (client, ∅)).any (fun s =>
      decide (s.1.queue = []) && !s.1.deleted && s.1.rc.timeoutEvent.isSome) = true := by decide +kernel
  obtain ⟨s, hrun, hq⟩ := Transition.Machine.exists_run h
  simp only [Bool.and_eq_true, decide_eq_true_eq, Bool.not_eq_true'] at hq
  obtain ⟨harmed, hcard⟩ := retransmission_timer_armed hrun hq.1.2
  exact ⟨s, hrun, harmed hq.1.1, hq.2, hcard⟩

/-- A stray ACK to a listening socket is answered with an ACK; being the first segment it makes `snd_nxt` one more than
`snd_una`, and no timer runs. -/
theorem retransmission_timer_stray : ∃ s, timersMachine.Run Transition.anyStep (client, ∅)
      [.listen ⟨1, 5⟩, .packet (segment 7 5 []), .drain] s ∧
    s.1.deleted = false ∧ s.1.queue = [] ∧ s.1.rc.snd.sndUna ≠ s.1.rc.snd.sndNxt ∧ s.1.rc.timeoutEvent = none ∧
      ¬s.1.ArmedExactly := by
  have h : (timersMachine.replay Transition.anyStep [.listen ⟨1, 5⟩, .packet (segment 7 5 []), .drain]
      (client, ∅)).any (fun s => !s.1.deleted && decide (s.1.queue = []) &&
        decide (s.1.rc.snd.sndUna ≠ s.1.rc.snd.sndNxt) && decide (s.1.rc.timeoutEvent = none) &&
        decide (¬s.1.ArmedExactly)) = true := by
    decide +kernel
  obtain ⟨s, hrun, hq⟩ := Transition.Machine.exists_run h
  simp only [Bool.and_eq_true, decide_eq_true_eq, Bool.not_eq_true'] at hq
  obtain ⟨⟨⟨⟨hdel, hqueue⟩, hne⟩, hnone⟩, hnot⟩ := hq
  exact ⟨s, hrun, hdel, hqueue, hne, hnone, hnot⟩

end

end Endpoint

end Wifu
