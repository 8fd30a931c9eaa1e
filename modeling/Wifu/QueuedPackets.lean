import Wifu.QueueEvents

/-!
# The packets that the handlers put in the queue

A handler only adds to the queue, and the packets that it adds are new ones, some with the SYN or the FIN bit; the ACK bit is
set in those that answer a SYN only.  So what all such packets have, every packet that joins the queue has.
-/

namespace Wifu

namespace Endpoint

/-- The packets that join the queue have the property `P`. -/
def Adds (P : TCPPacket → Prop) (e e' : Endpoint) : Prop := ∀ v ∈ e'.queue, v ∈ e.queue ∨ ∀ p ∈ v.packet, P p

/-- The packets that the handlers make without the ACK bit have the property `P`. -/
def Making (P : TCPPacket → Prop) : Prop :=
  ∀ source destination data syn fin, P { TCPPacket.new source destination data with syn, fin }

/-- The answers to a SYN have the property `P`. -/
def Answering (P : TCPPacket → Prop) : Prop :=
  ∀ source destination syn, P { TCPPacket.new source destination [] with syn, ack := true }

namespace Adds

variable {P : TCPPacket → Prop} {e e' e'' : Endpoint} {p : TCPPacket}

theorem of_eq (h : e'.queue = e.queue) : Adds P e e' := by
  intro v hv
  rw [h] at hv
  exact .inl hv

theorem refl (e : Endpoint) : Adds P e e := of_eq rfl

theorem trans (h : Adds P e e') (h' : Adds P e' e'') : Adds P e e'' := by
  intro v hv
  rcases h' v hv with hv | hv
  · exact h v hv
  · exact .inr hv

theorem append {q : List ProtocolEvent} (hq : e'.queue = e.queue ++ q) (hnew : ∀ v ∈ q, ∀ p ∈ v.packet, P p) :
    Adds P e e' := by
  intro v hv
  rw [hq] at hv
  exact (List.mem_append.1 hv).imp_right (hnew v)

theorem enqueuePacket (e : Endpoint) (s : SocketId) (hp : P p) :
    Adds P e (e.enqueueFor s (.sendPacket p)) := by
  refine append rfl fun v hv q hq => ?_
  rw [List.mem_singleton.1 hv] at hq
  rw [← Option.some_inj.1 hq]
  exact hp

theorem enqueueOther (e : Endpoint) {s : SocketId} {k : ProtocolEventKind}
    (hk : (⟨s, k⟩ : ProtocolEvent).packet = none) : Adds P e (e.enqueueFor s k) := by
  refine append rfl fun v hv q hq => ?_
  rw [List.mem_singleton.1 hv, hk] at hq
  cases hq

theorem createAndDispatchAck (hP : Making P) (e : Endpoint) : Adds P e e.createAndDispatchAck := enqueuePacket e _ (hP _ _ [] false false)

/-! ### The reliability state -/

theorem startTimer (e : Endpoint) : Adds P e e.startTimer := by
  unfold Endpoint.startTimer
  split
  · exact refl e
  · exact of_eq rfl

theorem cancelTimer (e : Endpoint) : Adds P e e.cancelTimer := by
  unfold Endpoint.cancelTimer
  split
  · exact refl e
  · exact of_eq rfl

theorem requestResend (e : Endpoint) (r : ResendReason) : Adds P e (e.requestResend r) := by
  have hrewound : Adds P e { e with rc := { e.rc with snd := e.rc.snd.setSndNxt e.rc.snd.sndUna } } := of_eq rfl
  exact hrewound.trans (enqueueOther _ rfl)

theorem reliabilityTimerFired (e : Endpoint) (t : TimeoutEvent) : Adds P e (e.reliabilityTimerFired t) := by
  unfold Endpoint.reliabilityTimerFired
  split
  · have hstopped : Adds P e { e with rc := { e.rc with timeoutEvent := none } } := of_eq rfl
    exact hstopped.trans (requestResend _ _)
  · exact refl e

theorem handleValidAck (h : e.handleValidAck p = .ok e') : Adds P e e' := by
  unfold Endpoint.handleValidAck at h
  obtain ⟨-, -, h⟩ := bind_eq_ok.1 h
  have hacked : Adds P e { e with
      rc := { e.rc with snd := e.rc.snd.acknowledge p.ackNumber }
      socket := { e.socket with
        sendBuffer := e.socket.sendBuffer.drop (p.ackNumber - e.rc.snd.sndUna).toNat } } := of_eq rfl
  have hnew := hacked.trans (enqueueOther _ (s := e.socket.id) (k := .sendBufferNotFull) rfl)
  split at h
  · cases h
    exact hnew.trans (cancelTimer _)
  · split at h
    · cases h
      exact hnew.trans ((cancelTimer _).trans (startTimer _))
    · cases h
      exact hnew

theorem handleAck (hP : Making P) {b : Bool} (h : e.handleAck p = .ok (b, e')) : Adds P e e' := by
  unfold Endpoint.handleAck at h
  split at h
  · cases h
    exact refl e
  split at h
  · obtain ⟨e₁, h₁, h⟩ := bind_eq_ok.1 h
    cases h
    exact handleValidAck h₁
  split at h
  · cases h
    exact createAndDispatchAck hP e
  split at h
  · cases h
    have hcount : Adds P e { e with rc := countDuplicateAck e.rc p } := of_eq rfl
    unfold handleDuplicateAck
    simp only
    split
    · exact hcount.trans (requestResend _ _)
    · exact hcount
  · cases h
    exact refl e

theorem handleControlBitsAndData (hP : Making P) (h : e.handleControlBitsAndData p = .ok e') : Adds P e e' := by
  obtain ⟨v, -, rfl⟩ := handleControlBitsAndData_ok h
  refine append rfl fun w hw q hq => ?_
  unfold acceptEvents dataEvents at hw
  have hsent : w = ⟨e.socket.id, .receiveBufferNotEmpty⟩ ∨ w = ⟨e.socket.id, .sendPacket e.emptyPacket⟩ := by
    split at hw
    · cases hw
    · split at hw
      · rcases List.mem_append.1 hw with hw | hw
        · split at hw
          · exact .inl (List.mem_singleton.1 hw)
          · cases hw
        · exact .inr (List.mem_singleton.1 hw)
      · cases hw
  rcases hsent with rfl | rfl
  · cases hq
  · rw [← Option.some_inj.1 hq]
    exact hP _ _ [] false false

theorem reliabilityReceivePacket (hP : Making P) (h : e.reliabilityReceivePacket p = .ok e') : Adds P e e' := by
  unfold Endpoint.reliabilityReceivePacket at h
  obtain ⟨⟨b, e₁⟩, h₁, h⟩ := bind_eq_ok.1 h
  have hecho : Adds P e (e.updateEchoReply p) := by
    refine of_eq ?_
    unfold updateEchoReply
    split <;> rfl
  have hack := hecho.trans (handleAck hP h₁)
  simp only at h
  split at h
  · exact hack.trans (handleControlBitsAndData hP h)
  · cases h
    exact hack

theorem createAndDispatchReceivedData (hP : Making P) (e : Endpoint) (r : ReceiveEvent) :
    Adds P e (e.createAndDispatchReceivedData r) := by
  unfold Endpoint.createAndDispatchReceivedData
  simp only
  refine trans ?_ (enqueueOther _ rfl)
  have hack (c : Prop) [Decidable c] : Adds P e (if c then e.createAndDispatchAck else e) := by
    split
    · exact createAndDispatchAck hP e
    · exact refl e
  exact (hack _).trans (of_eq rfl)

theorem reliabilityReceive (hP : Making P) {r : ReceiveEvent} (h : e.reliabilityReceive r = .ok e') : Adds P e e' := by
  obtain ⟨-, rfl⟩ | ⟨-, -, rfl⟩ := reliabilityReceive_ok h
  · exact createAndDispatchReceivedData hP e r
  · exact of_eq rfl

/-! ### The connection manager -/

theorem setState (e : Endpoint) (s : ConnectionManagerState) : Adds P e (e.setState s) :=
  of_eq (setState_queue e s)

/-- Only a SYN is answered with the ACK bit. -/
theorem managerReceivePacket (hP : Making P) (e : Endpoint) (hsyn : p.syn = true → Answering P) :
    Adds P e (e.managerReceivePacket p) := by
  have hanswer (s : ConnectionManagerState) : Adds P e (e.createAndDispatchAck.setState s) :=
    (createAndDispatchAck hP e).trans (setState _ _)
  unfold Endpoint.managerReceivePacket
  cases e.cmc.state with
  | listen =>
    simp only
    split
    · rename_i hs
      have hnumbered : Adds P e { e with
          nextSocket := e.nextSocket + 1, cmc := { e.cmc with acceptSocket := e.socket.id } } := of_eq rfl
      unfold processSyn
      exact ((hnumbered.trans (enqueueOther _ rfl)).trans (enqueuePacket _ _ (hsyn hs _ _ true))).trans (setState _ _)
    · exact refl e
  | synSent =>
    simp only
    split
    · rename_i hs
      exact (enqueuePacket e _ (hsyn ((Bool.and_eq_true _ _).mp hs).1 _ _ false)).trans (setState _ _)
    · exact refl e
  | synReceived =>
    simp only
    split
    · exact (enqueueOther e rfl).trans (setState _ _)
    · exact refl e
  | established =>
    simp only
    split
    · exact refl e
    · split
      · exact (hanswer _).trans (of_eq rfl)
      · exact refl e
  | finWait1 =>
    simp only
    split
    · exact hanswer _
    · split
      · exact setState _ _
      · exact refl e
  | finWait2 =>
    simp only
    split
    · exact hanswer _
    · exact refl e
  | closing =>
    simp only
    split
    · exact setState _ _
    · exact refl e
  | lastAck =>
    simp only
    split
    · exact (enqueueOther e rfl).trans (setState _ _)
    · exact refl e
  | timeWait =>
    simp only
    split
    · exact (createAndDispatchAck hP e).trans (of_eq rfl)
    · exact refl e
  | closed | closeWait => exact refl e

theorem managerClose (hP : Making P) (e : Endpoint) : Adds P e e.managerClose := by
  rcases Appends.managerClose e with ⟨s, -, heq⟩ | ⟨-, hdeletes⟩ | heq
  · rw [heq]
    refine append rfl fun v hv q hq => ?_
    rw [List.mem_singleton.1 hv] at hq
    rw [← Option.some_inj.1 hq]
    exact hP _ _ [] false true
  · refine append hdeletes.queue fun v hv q hq => ?_
    rw [List.mem_singleton.1 hv] at hq
    cases hq
  · rw [heq]
    exact refl e

theorem runSavedClose (hP : Making P) (e : Endpoint) : Adds P e e.runSavedClose := by
  rcases runSavedClose_cases e with ⟨-, heq⟩ | ⟨-, heq⟩ <;> rw [heq]
  · exact (managerClose hP e).trans (of_eq rfl)
  · exact refl e

theorem managerTimerFired (e : Endpoint) (t : TimeoutEvent) : Adds P e (e.managerTimerFired t) := by
  unfold Endpoint.managerTimerFired
  split
  · split
    · exact (enqueueOther e rfl).trans (setState _ _)
    · exact refl e
  · exact refl e

/-! ### The congestion control and the send buffer -/

theorem sendOnePacket (hP : Making P) {w : Bool} (h : e.sendOnePacket w = .ok e') : Adds P e e' := by
  obtain ⟨k, -, -, -, -, -, rfl⟩ := sendOnePacket_ok h
  exact enqueuePacket _ _ (hP _ _ _ false false)

theorem sendPackets (hP : Making P) (h : e.sendPackets = .ok e') : Adds P e e' :=
  sendPackets_invariant (Adds P e) h (refl e) fun _ _ ha _ hone => ha.trans (sendOnePacket hP hone)

theorem congestionReceivePacket (hP : Making P) (h : e.congestionReceivePacket p = .ok e') : Adds P e e' := by
  unfold Endpoint.congestionReceivePacket at h
  split at h
  · obtain ⟨ccc, -, h⟩ := bind_eq_ok.1 h
    have hset : Adds P e { e with ccc := ccc } := of_eq rfl
    unfold sendOrProbe at h
    split at h
    · cases h
      refine hset.trans (of_eq ?_)
      unfold startProbeTimer
      split <;> rfl
    · refine (hset.trans (of_eq ?_)).trans (sendPackets hP h)
      unfold cancelProbeTimer
      split <;> rfl
  · cases h
    exact refl e

theorem receiveUnlessDuplicate (hP : Making P) {b : Bool} (h : e.receiveUnlessDuplicate p b = .ok e') : Adds P e e' := by
  obtain ⟨-, rfl⟩ | ⟨-, h⟩ := receiveUnlessDuplicate_ok h
  · exact refl _
  · exact congestionReceivePacket hP h

theorem congestionTimerFired (hP : Making P) {t : TimeoutEvent} (h : e.congestionTimerFired t = .ok e') : Adds P e e' := by
  unfold Endpoint.congestionTimerFired at h
  split at h
  · have htimer : Adds P e ({ e with
        ccc := { e.ccc with probeTimer := some (e.newTimeout e.socket.id) } }.dispatchTimeout e.socket.id) := of_eq rfl
    exact htimer.trans (sendOnePacket hP h)
  · cases h
    exact refl e

theorem congestionResendPacket (hP : Making P) (h : e.congestionResendPacket = .ok e') : Adds P e e' := by
  unfold Endpoint.congestionResendPacket resendData at h
  obtain ⟨q, hq, h⟩ := bind_eq_ok.1 h
  cases h
  refine enqueuePacket _ _ ?_
  unfold resendPacket at hq
  simp only at hq
  obtain ⟨-, -, hq⟩ := bind_eq_ok.1 hq
  split at hq
  · cases hq
    exact hP _ _ [] true false
  · split at hq
    · cases hq
      exact hP _ _ [] false true
    · obtain ⟨k, -, hq⟩ := bind_eq_ok.1 hq
      obtain ⟨-, -, hq⟩ := bind_eq_ok.1 hq
      cases hq
      exact hP _ _ _ false false

theorem saveInBuffer (e : Endpoint) (s : SendEvent) (n : Nat) : Adds P e (e.saveInBuffer s n) := by
  refine append (q := [⟨e.socket.id, .sendBufferNotEmpty⟩]) rfl fun v hv q hq => ?_
  rw [List.mem_singleton.1 hv] at hq
  cases hq

theorem send {s : SendEvent} (h : e.send s = .ok e') : Adds P e e' := by
  obtain ⟨n, -, ⟨-, rfl⟩ | ⟨-, rfl⟩⟩ := send_ok h
  · exact saveInBuffer e s n
  · exact of_eq rfl

theorem sendBufferNotFull (h : e.sendBufferNotFull = .ok e') : Adds P e e' := by
  obtain ⟨-, rfl⟩ | ⟨_, n, -, -, ⟨-, rfl⟩ | ⟨-, rfl⟩⟩ := sendBufferNotFull_ok h
  · exact refl _
  · exact (saveInBuffer e _ n).trans (of_eq rfl)
  · exact refl _

/-! ### Steps -/

/-- An accepted SYN is answered. -/
theorem receivePacket (hP : Making P) (h : e.receivePacket p = .ok e')
    (hsyn : e.accepts p = true → p.syn = true → Answering P) : Adds P e e' := by
  have hcase := receivePacket_cases e p
  rw [h] at hcase
  cases hcase with
  | corrupt _ h | ignored _ _ h =>
    cases h
    exact refl e
  | answered _ _ h =>
    cases h
    exact createAndDispatchAck hP e
  | parked _ _ _ _ _ h =>
    cases h
    exact of_eq rfl
  | skipping _ _ _ h => exact reliabilityReceivePacket hP h.symm
  | lingering _ _ hs h =>
    cases h
    unfold Endpoint.managerReceivePacket
    rw [hs]
    simp only
    split
    · exact (createAndDispatchAck hP e).trans (of_eq rfl)
    · exact refl e
  | taken hsum hack hseq hfin h =>
    obtain ⟨e₁, h₁, h⟩ := bind_eq_ok.1 h.symm
    obtain ⟨e₂, h₂, h⟩ := bind_eq_ok.1 h
    cases h
    have hmanager := managerReceivePacket hP e₁ (hsyn (accepts_taken hsum hack hseq hfin))
    exact (((reliabilityReceivePacket hP h₁).trans hmanager).trans (receiveUnlessDuplicate hP h₂)).trans (runSavedClose hP e₂)

theorem sendPacket (h : e.sendPacket p = .ok e') : Adds P e e' := by
  obtain ⟨q, hsent⟩ := sendPacket_ok h
  exact of_eq hsent.queue

theorem handleProtocolEvent (hP : Making P) {k : ProtocolEventKind} (h : e.handleProtocolEvent k = .ok e') : Adds P e e' := by
  cases k with
  | sendPacket q => exact sendPacket h
  | resendPacket => exact congestionResendPacket hP h
  | sendBufferNotEmpty => exact sendPackets hP h
  | sendBufferNotFull => exact sendBufferNotFull h
  | receiveBufferNotEmpty =>
    cases h
    obtain heq | ⟨r, -, -, heq⟩ := receiveBufferNotEmpty_cases e <;> rw [heq]
    · exact refl e
    · exact (createAndDispatchReceivedData hP e _).trans (of_eq rfl)
  | receiveBufferNotFull =>
    cases h
    obtain ⟨-, heq⟩ | ⟨q, -, -, heq⟩ := receiveBufferNotFull_cases e <;> rw [heq]
    · exact refl e
    · exact of_eq rfl
  | connectionInitiated | connectionEstablished | deleteSocket =>
    cases h
    exact of_eq rfl

theorem step (hP : Making P) {i : Input} (hstep : Endpoint.step i e = .ok e')
    (hsyn : ∀ p ∈ e.delivered i, e.accepts p = true → p.syn = true → Answering P) : Adds P e e' := by
  have hpop {v : ProtocolEvent} {vs : List ProtocolEvent} (hq : e.queue = v :: vs) :
      Adds P e { e with queue := vs } := by
    intro w hw
    rw [hq]
    exact .inl (List.mem_cons_of_mem v hw)
  cases step_ok hstep with
  | dropped _ h =>
    cases h
    exact refl e
  | skipped hq _ h =>
    cases h
    exact hpop hq
  | event hq _ _ h => exact (hpop hq).trans (handleProtocolEvent hP h.symm)
  | @packet _ p ps hd _ _ h =>
    have hpast : Adds P e { e with redelivered := ps } := of_eq rfl
    exact hpast.trans (receivePacket hP h.symm (hsyn p hd))
  | listen l _ h =>
    cases h
    unfold managerListen
    split
    · exact of_eq (setState_queue _ _)
    · exact refl e
  | connect c _ h =>
    cases h
    by_cases hs : e.cmc.state = .closed
    · rw [managerConnect_closed hs]
      refine append rfl fun v hv q hq => ?_
      rw [List.mem_singleton.1 hv] at hq
      rw [← Option.some_inj.1 hq]
      exact hP _ _ [] true false
    · rw [managerConnect_of_ne hs]
      exact refl e
  | send s _ _ h => exact send h.symm
  | receive r _ _ h => exact reliabilityReceive hP h.symm
  | close c _ h =>
    cases h
    rcases close_cases e c with ⟨-, heq⟩ | ⟨-, heq⟩ <;> rw [heq]
    · exact (managerClose hP e).trans (of_eq rfl)
    · exact of_eq rfl
  | timerFired t _ _ h =>
    refine ((reliabilityTimerFired e t).trans (managerTimerFired _ t)).trans ?_
    exact congestionTimerFired hP h.symm
  | tick _ _ h =>
    cases h
    exact of_eq rfl

end Adds

end Endpoint

end Wifu
