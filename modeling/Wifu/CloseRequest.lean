import Wifu.ControlAcknowledged
import Wifu.SendProgress
import Wifu.WindowBalance

/-!
# What a close request leads to

`icontext_close` always answers.  Its effect depends on the connection manager: the FIN is sent, the socket deleted, or
the CloseEvent saved until the send buffer is empty; where the state does nothing, the request is lost.
-/

namespace Wifu

/-- The states of the closing sequence after the FIN. -/
def ConnectionManagerState.isAfterFin : ConnectionManagerState → Bool
  | .finWait1 | .finWait2 | .closing | .lastAck | .timeWait => true
  | _ => false

/-- The states whose `state_close` does nothing and that come before the connection is open. -/
def ConnectionManagerState.ignoresClose : ConnectionManagerState → Bool
  | .closed | .synSent | .synReceived => true
  | _ => false

theorem ConnectionManagerState.isAfterFin_of_ignoresClose {s : ConnectionManagerState} (h : s.ignoresClose = true) :
    s.isAfterFin = false := by
  cases s with
  | closed | synSent | synReceived => rfl
  | _ => cases h

namespace Endpoint

/-- A FIN of the socket waits in the queue. -/
def FinWaiting (e : Endpoint) : Prop := ∃ p : TCPPacket, p.fin = true ∧ ⟨e.socket.id, .sendPacket p⟩ ∈ e.queue

/-- A container that waits for its socket has just received the SYN. -/
def MovesInSynReceived (e : Endpoint) : Prop := initiations e.queue ≠ [] → e.cmc.state = .synReceived

/-- What a handler does to the closing sequence: it enters it with a FIN in the queue, and takes nothing out. -/
structure FinStep (e e' : Endpoint) : Prop where
  grows : Grows e e'
  id : e'.socket.id = e.socket.id
  fin : e'.cmc.state.isAfterFin = true → e.cmc.state.isAfterFin = true ∨ e'.FinWaiting

section

variable {e e' e'' : Endpoint} {p : TCPPacket}

theorem FinWaiting.grows (h : e.FinWaiting) (hg : Grows e e') (hid : e'.socket.id = e.socket.id) : e'.FinWaiting := by
  obtain ⟨p, hp, hmem⟩ := h
  refine ⟨p, hp, ?_⟩
  rw [hid]
  exact hg.mem_queue hmem

theorem setState_state (e : Endpoint) (s : ConnectionManagerState) : (e.setState s).cmc.state = s := by
  unfold setState stateEnter
  simp only
  split
  · rfl
  · split <;> rfl
  · rfl

theorem setState_id (e : Endpoint) (s : ConnectionManagerState) : (e.setState s).socket.id = e.socket.id :=
  congrArg Socket.id (ManagerChange.setState e s).socket

namespace FinStep

theorem of_state (hg : Grows e e') (hid : e'.socket.id = e.socket.id)
    (h : e'.cmc.state.isAfterFin = true → e.cmc.state.isAfterFin = true) : FinStep e e' :=
  ⟨hg, hid, fun hs => .inl (h hs)⟩

theorem of_same (hg : Grows e e') (hid : e'.socket.id = e.socket.id) (hstate : e'.cmc.state = e.cmc.state) :
    FinStep e e' :=
  of_state hg hid (by rw [hstate]; exact fun h => h)

theorem refl (e : Endpoint) : FinStep e e := of_same (.refl e) rfl rfl

theorem trans (h : FinStep e e') (h' : FinStep e' e'') : FinStep e e'' := by
  refine ⟨h.grows.trans h'.grows, h'.id.trans h.id, fun hs => ?_⟩
  rcases h'.fin hs with hs | hw
  · rcases h.fin hs with hs | hw
    · exact .inl hs
    · exact .inr (hw.grows h'.grows h'.id)
  · exact .inr hw

theorem setState (e : Endpoint) {s : ConnectionManagerState}
    (hs : s.isAfterFin = true → e.cmc.state.isAfterFin = true) : FinStep e (e.setState s) :=
  of_state (.setState e s) (setState_id e s) (by rw [setState_state]; exact hs)

theorem enqueueFor (e : Endpoint) {s : SocketId} {k : ProtocolEventKind} (hk : (⟨s, k⟩ : ProtocolEvent).Made) :
    FinStep e (e.enqueueFor s k) :=
  of_same (.enqueueFor e hk) rfl rfl

/-- The socket is given up. -/
theorem closeSocket (e : Endpoint) : FinStep e ((e.enqueue .deleteSocket).setState .closed) := by
  refine of_state ((Grows.enqueueOther e rfl).trans (.setState _ _)) (setState_id _ _) fun h => ?_
  rw [setState_state] at h
  cases h

theorem congestion (h : CongestionChange e e') (hg : Grows e e') : FinStep e e' :=
  of_same hg (congrArg Socket.id h.socket) (congrArg ConnectionManagerContext.state h.cmc)

theorem frame (h : SendFrame e e') (hstate : e'.cmc.state = e.cmc.state) : FinStep e e' :=
  of_same h.grows h.id hstate

/-- Receiving a packet, the connection manager goes on in the closing sequence but does not enter it. -/
theorem managerReceivePacket (e : Endpoint) (p : TCPPacket) : FinStep e (e.managerReceivePacket p) := by
  refine of_state (.managerReceivePacket e p) (congrArg Socket.id (ManagerChange.receivePacket e p).socket) fun h => ?_
  by_contra hs
  have hs : e.cmc.state.isAfterFin = false := by simpa using hs
  unfold Endpoint.managerReceivePacket at h
  cases hstate : e.cmc.state with
  | finWait1 | finWait2 | closing | lastAck | timeWait =>
    rw [hstate] at hs
    cases hs
  | closed | closeWait =>
    simp only [hstate] at h
    cases h
  | listen =>
    simp only [hstate] at h
    split at h
    · unfold Endpoint.processSyn at h
      rw [setState_state] at h
      cases h
    · rw [hs] at h
      cases h
  | synSent | synReceived =>
    simp only [hstate] at h
    split at h
    · rw [setState_state] at h
      cases h
    · rw [hs] at h
      cases h
  | established =>
    simp only [hstate] at h
    split at h
    · rw [hs] at h
      cases h
    · split at h
      · have hclosing : ((e.createAndDispatchAck.setState .closeWait).dispatch (.preclose e.socket.id)).cmc.state =
            .closeWait := setState_state _ _
        rw [hclosing] at h
        cases h
      · rw [hs] at h
        cases h

/-- A close request that enters the closing sequence leaves a FIN in the queue. -/
theorem managerClose (e : Endpoint) : FinStep e e.managerClose := by
  rcases managerClose_cases e with ⟨s, -, heq⟩ | hlisten | heq
  · refine ⟨.managerClose e, ?_, fun _ => .inr ⟨e.finPacket, rfl, ?_⟩⟩
    · rw [heq]
    · rw [heq]
      exact List.mem_append_right _ List.mem_cons_self
  · have hclose : e.managerClose = (e.enqueue .deleteSocket).setState .closed := by
      unfold Endpoint.managerClose
      rw [hlisten]
    rw [hclose]
    exact closeSocket e
  · rw [heq]
    exact refl e

theorem runSavedClose (e : Endpoint) : FinStep e e.runSavedClose := by
  rcases runSavedClose_cases e with ⟨-, heq⟩ | ⟨-, heq⟩ <;> rw [heq]
  · exact (managerClose e).trans (of_same (.of_eq rfl rfl) rfl rfl)
  · exact refl e

theorem managerTimerFired (e : Endpoint) (t : TimeoutEvent) : FinStep e (e.managerTimerFired t) := by
  unfold Endpoint.managerTimerFired
  split
  · split
    · exact closeSocket e
    · exact refl e
  · exact refl e

theorem reliabilityReceivePacket (h : e.reliabilityReceivePacket p = .ok e') : FinStep e e' := by
  obtain ⟨e₁, hhandle, hack, h⟩ := reliabilityReceivePacket_ok h
  have hgrows : Grows e e₁ := (SendFrame.updateEchoReply e p).grows.trans (.handleAck hhandle)
  have hfirst : FinStep e e₁ := of_same hgrows hack.id (congrArg ConnectionManagerContext.state hack.cmc)
  split at h
  · obtain ⟨v, -, rfl⟩ := h
    exact hfirst.trans (frame (.withReceive e₁ v (SendFrame.acceptEvents e₁ p v)) rfl)
  · rw [h]
    exact hfirst

theorem receivePacket (h : e.receivePacket p = .ok e') : FinStep e e' := by
  have hcase := receivePacket_cases e p
  rw [h] at hcase
  cases hcase with
  | corrupt _ h | ignored _ _ h =>
    cases h
    exact refl _
  | skipping _ _ _ h => exact reliabilityReceivePacket h.symm
  | lingering _ _ _ h =>
    cases h
    exact managerReceivePacket e p
  | answered _ _ h =>
    cases h
    exact frame (.createAndDispatchAck e) rfl
  | parked _ _ _ _ _ h =>
    cases h
    exact of_same (.of_eq rfl rfl) rfl rfl
  | taken _ _ _ _ h =>
    obtain ⟨e₁, h₁, h⟩ := bind_eq_ok.1 h.symm
    obtain ⟨e₂, h₂, h⟩ := bind_eq_ok.1 h
    cases h
    have hmanager := (reliabilityReceivePacket h₁).trans (managerReceivePacket e₁ p)
    exact hmanager.trans ((congestion (.receiveUnlessDuplicate h₂) (.receiveUnlessDuplicate h₂)).trans (runSavedClose e₂))

theorem timerFired {t : TimeoutEvent} (h : e.timerFired t = .ok e') : FinStep e e' := by
  unfold Endpoint.timerFired at h
  have hack := AckChange.timerFired e t
  have hreliability : FinStep e (e.reliabilityTimerFired t) :=
    of_same (.reliabilityTimerFired e t) hack.id (congrArg ConnectionManagerContext.state hack.cmc)
  have hcongestion := congestion (.timerFired h) (.congestionTimerFired h)
  exact hreliability.trans ((managerTimerFired _ t).trans hcongestion)

theorem managerListen (e : Endpoint) (l : ListenEvent) : FinStep e (e.managerListen l) := by
  unfold Endpoint.managerListen
  split
  · rename_i hs
    have hstart : Grows e { e with
        cmc := { e.cmc with socket := e.socket.id, connectionType := .passiveOpen, listenEvent := some l } } :=
      .of_eq rfl rfl
    refine of_state (hstart.trans (.setState _ _)) (setState_id _ _) fun h => ?_
    rw [setState_state] at h
    cases h
  · exact refl e

theorem managerConnect (e : Endpoint) (c : ConnectEvent) : FinStep e (e.managerConnect c) := by
  unfold Endpoint.managerConnect
  split
  · have hstart : Grows e { e with
        cmc := { e.cmc with connectionType := .activeOpen, connectEvent := some c, socket := e.socket.id }
        socket := { e.socket with
          localAddress := ⟨c.localAddress, e.socket.localAddress.port⟩, remoteAddress := c.address } } := .of_eq rfl rfl
    refine of_state (hstart.trans ((Grows.enqueuePacket _ _ ?_).trans (.setState _ _))) (setState_id _ _) fun h => ?_
    · exact Int.le_refl 0
    · rw [setState_state] at h
      cases h
  · exact refl e

theorem saveInBuffer (e : Endpoint) (s : SendEvent) (n : Nat) : FinStep e (e.saveInBuffer s n) :=
  of_same (.saveInBuffer e s n) rfl rfl

theorem send {s : SendEvent} (h : e.send s = .ok e') : FinStep e e' := by
  obtain ⟨n, -, ⟨-, rfl⟩ | ⟨-, rfl⟩⟩ := send_ok h
  · exact saveInBuffer e s n
  · exact of_same (.of_eq rfl rfl) rfl rfl

theorem receive {r : ReceiveEvent} (h : e.reliabilityReceive r = .ok e') : FinStep e e' := by
  refine frame (.receive h) ?_
  obtain ⟨-, rfl⟩ | ⟨-, -, rfl⟩ := reliabilityReceive_ok h
  · rw [createAndDispatchReceivedData_cmc]
  · rfl

theorem close (e : Endpoint) (c : CloseEvent) : FinStep e (e.close c) := by
  rcases close_cases e c with ⟨-, heq⟩ | ⟨-, heq⟩ <;> rw [heq]
  · exact (managerClose e).trans (of_same (.dispatch _ _) rfl rfl)
  · have hsave : Grows e { e with savedCloseEvent := some c } := .of_eq rfl rfl
    exact of_same (hsave.trans (.dispatch _ _)) rfl rfl

/-- An event of low priority. -/
theorem step {i : Input} (hi : i ≠ .drain) (hstep : Endpoint.step i e = .ok e') : FinStep e e' := by
  cases step_ok hstep with
  | dropped _ h =>
    cases h
    exact refl _
  | skipped | event => exact absurd rfl hi
  | @packet _ _ ps _ _ _ h =>
    have hpop : FinStep e { e with redelivered := ps } := of_same (.of_eq rfl rfl) rfl rfl
    exact hpop.trans (receivePacket h.symm)
  | listen l _ h =>
    cases h
    exact managerListen e l
  | connect c _ h =>
    cases h
    exact managerConnect e c
  | send _ _ _ h => exact send h.symm
  | receive _ _ _ h => exact receive h.symm
  | close c _ h =>
    cases h
    exact close e c
  | timerFired _ _ _ h => exact timerFired h.symm
  | tick _ _ h =>
    cases h
    exact of_same (.of_eq rfl rfl) rfl rfl

end FinStep

/-! ### The closing sequence and its FIN -/

/-- A socket in the closing sequence has sent its FIN, or the FIN waits in the queue. -/
structure ClosingSends (e : Endpoint) : Prop where
  moves : e.MovesInSynReceived
  fin : e.cmc.state.isAfterFin = true → Wifu.finSent e.dispatched = true ∨ e.FinWaiting

theorem ClosingSends.create (id : SocketId) (l r : AddressPort) : (create id l r).ClosingSends :=
  ⟨fun h => absurd rfl h, fun h => by cases h⟩

/-- A packet that initiates a connection leaves the state SYN_RECEIVED. -/
theorem receivePacket_synReceived (hnew : Wifu.initiations e'.queue ≠ Wifu.initiations e.queue)
    (h : e.receivePacket p = .ok e') : e'.cmc.state = .synReceived := by
  have hcase := receivePacket_cases e p
  rw [h] at hcase
  cases hcase with
  | corrupt _ h | ignored _ _ h | parked _ _ _ _ _ h =>
    cases h
    exact absurd rfl hnew
  | skipping _ _ _ h => exact absurd (reliabilityReceivePacket_initiations h.symm) hnew
  | lingering _ _ hstate h =>
    cases h
    rcases managerReceivePacket_initiations e p with h | ⟨hlisten, -⟩
    · exact absurd h hnew
    · rw [hlisten] at hstate
      cases hstate
  | answered _ _ h =>
    cases h
    exact absurd (initiations_append_other rfl) hnew
  | taken _ _ _ _ h =>
    obtain ⟨e₁, h₁, h⟩ := bind_eq_ok.1 h.symm
    obtain ⟨e₂, h₂, h⟩ := bind_eq_ok.1 h
    cases h
    have hcongestion := CongestionChange.receiveUnlessDuplicate h₂
    have hclose := runSavedClose_initiations e₂
    rcases managerReceivePacket_initiations e₁ p with hmanager | ⟨hlisten, hsyn⟩
    · refine absurd ?_ hnew
      rw [hclose, hcongestion.initiations, hmanager, reliabilityReceivePacket_initiations h₁]
    · have hstate : (e₁.managerReceivePacket p).cmc.state = .synReceived := by
        unfold managerReceivePacket
        rw [hlisten]
        simp only [hsyn, if_true]
        exact setState_state _ _
      rw [← hcongestion.cmc] at hstate
      rw [runSavedClose_state (by rw [hstate]; rfl), hstate]

/-- An event of low priority keeps the invariant. -/
theorem ClosingSends.low {i : Input} (hc : e.ClosingSends) (hq : e.queue = []) (hi : i ≠ .drain)
    (hstep : Endpoint.step i e = .ok e') : e'.ClosingSends := by
  refine ⟨fun hnew => ?_, fun hs => ?_⟩
  · have hnone : Wifu.initiations e.queue = [] := by rw [hq]; rfl
    obtain hold | ⟨p, hd, -, -⟩ := step_initiations hstep hnew
    · exact absurd hnone hold
    cases step_ok hstep with
    | @packet _ p' ps _ _ _ h =>
      refine receivePacket_synReceived (p := p') (e := { e with redelivered := ps }) ?_ h.symm
      show Wifu.initiations e'.queue ≠ Wifu.initiations e.queue
      rwa [hnone]
    | dropped hnot =>
      rw [hd] at hnot
      cases hnot
    | _ => cases hd
  · rcases (FinStep.step hi hstep).fin hs with hold | hw
    · rcases hc.fin hold with hf | ⟨p, -, hmem⟩
      · exact .inl (finSent_step hf hstep)
      · rw [hq] at hmem
        cases hmem
    · exact .inr hw

/-- A waiting event keeps the invariant. -/
theorem ClosingSends.event {v : ProtocolEvent} {vs : List ProtocolEvent} (hc : e.ClosingSends) (hq : e.queue = v :: vs)
    (hstep : Endpoint.step .drain e = .ok e') (h : { e with queue := vs }.handleProtocolEvent v.kind = .ok e') :
    e'.ClosingSends := by
  have hstate := handleProtocolEvent_state h
  replace hstate : e'.cmc.state = e.cmc.state := hstate
  by_cases hinit : v.isInitiation = true
  · have hsyn : e.cmc.state = .synReceived := by
      refine hc.moves ?_
      rw [hq]
      simp [Wifu.initiations, hinit]
    refine ⟨fun _ => hstate.trans hsyn, fun hs => ?_⟩
    rw [hstate, hsyn] at hs
    cases hs
  · have hk : ∀ s l r li, v.kind ≠ .connectionInitiated s l r li := by
      intro s l r li hk
      unfold ProtocolEvent.isInitiation at hinit
      rw [hk] at hinit
      exact hinit rfl
    obtain ⟨-, hid, hnew, -⟩ := handleProtocolEvent_same hk h
    refine ⟨fun hne => ?_, fun hs => ?_⟩
    · rw [hstate]
      refine hc.moves ?_
      have hsame : Wifu.initiations e.queue = Wifu.initiations vs := by simp [hq, Wifu.initiations, hinit]
      rw [hsame]
      exact fun hnil => hne (hnew.trans hnil)
    · rw [hstate] at hs
      rcases hc.fin hs with hf | ⟨p, hp, hmem⟩
      · exact .inl (finSent_step hf hstep)
      · rw [hq] at hmem
        rcases List.mem_cons.1 hmem with heq | hmem
        · obtain ⟨q, hsent⟩ : ∃ q, PacketSent { e with queue := vs } e' p q := by
            rw [← heq] at h
            exact sendPacket_ok h
          exact .inl (by rw [hsent.finSent, hp, Bool.or_true])
        · have hwaits : ({ e with queue := vs } : Endpoint).FinWaiting := ⟨p, hp, hmem⟩
          exact .inr (hwaits.grows (.handleProtocolEvent h) hid)

theorem ClosingSends.step {i : Input} (hc : e.ClosingSends) (hdel : e.deleted = false) (hen : enabled i e)
    (hstep : Endpoint.step i e = .ok e') : e'.ClosingSends := by
  by_cases hi : i = .drain
  · subst hi
    cases step_ok hstep with
    | dropped _ h =>
      cases h
      exact hc
    | event hq _ _ h => exact hc.event hq hstep h.symm
    | packet hd => cases hd
    | @skipped v vs hq hother h =>
      cases h
      -- the event is about another socket
      have hne : v.socket ≠ e.socket.id := by
        intro heq
        simp [contains, heq, hdel] at hother
      refine ⟨fun hnew => hc.moves ?_, fun hs => (hc.fin hs).imp_right ?_⟩
      · intro hnil
        refine hnew ?_
        rw [hq] at hnil
        unfold Wifu.initiations at hnil ⊢
        rw [List.filter_eq_nil_iff] at hnil ⊢
        exact fun w hw => hnil w (List.mem_cons_of_mem v hw)
      · rintro ⟨p, hp, hmem⟩
        rw [hq] at hmem
        rcases List.mem_cons.1 hmem with rfl | hmem
        · exact absurd rfl hne
        · exact ⟨p, hp, hmem⟩
  · have hq : e.queue = [] := by
      cases i with
      | drain => exact absurd rfl hi
      | _ => exact hen
    exact hc.low hq hi hstep

theorem ClosingSends.run {e₀ : Endpoint} {P : Endpoint → Input → Prop} {is : List Input} (h : machine.Run P e₀ is e)
    (h₀ : e₀.ClosingSends) : e.deleted = true ∨ e.ClosingSends := by
  refine h.invariant (fun t => t.deleted = true ∨ t.ClosingSends) (.inr h₀) ?_
  intro t i u ht hen _ hstep
  by_cases hdel : t.deleted = true
  · exact .inl (step_deleted hdel hstep)
  · exact .inr ((ht.resolve_left hdel).step (by simpa using hdel) hen hstep)

/-! ### Draining -/

/-- The steps that only take waiting protocol events. -/
def drains (_ : Endpoint) (i : Input) : Prop := i = .drain

instance (e : Endpoint) (i : Input) : Decidable (drains e i) := inferInstanceAs (Decidable (i = .drain))

/-- There is nothing to drain. -/
theorem run_drains_nil {is : List Input} (h : machine.Run drains e is e') (hq : e.queue = []) : e' = e := by
  refine h.invariant (fun t => t = e) rfl ?_
  intro t i u ht hen hi _
  subst ht hi
  exact absurd hq hen

theorem drain_state (hstep : Endpoint.step .drain e = .ok e') : e'.cmc.state = e.cmc.state := by
  cases step_ok hstep with
  | dropped _ h | skipped _ _ h =>
    cases h
    rfl
  | packet hd => cases hd
  | event _ _ _ h => exact (handleProtocolEvent_state h.symm :)

theorem run_drains_state {is : List Input} (h : machine.Run drains e is e') : e'.cmc.state = e.cmc.state := by
  refine h.invariant (fun t => t.cmc.state = e.cmc.state) rfl ?_
  intro t i u ht _ hi hstep
  subst hi
  exact (drain_state hstep).trans ht

/-- The waiting deletion of a socket is carried out. -/
theorem run_drains_deleted {is : List Input} (h : machine.Run drains e is e')
    (hq : e.queue = [⟨e.socket.id, .deleteSocket⟩]) (hdone : e'.queue = []) : e'.deleted = true := by
  have hinv := h.invariant (fun t => t.deleted = true ∨ t.queue = [⟨t.socket.id, .deleteSocket⟩]) (.inr hq) ?_
  · refine hinv.resolve_right fun hwaits => ?_
    rw [hdone] at hwaits
    cases hwaits
  · intro t i u ht _ hi hstep
    subst hi
    have hstep : Endpoint.step .drain t = .ok u := hstep
    by_cases hdel : t.deleted = true
    · exact .inl (step_deleted hdel hstep)
    · have hqueue := ht.resolve_left hdel
      cases step_ok hstep with
      | dropped _ h =>
        cases h
        exact .inr hqueue
      | packet hd => cases hd
      | skipped hq' hother _ =>
        rw [hqueue] at hq'
        cases hq'
        simp [contains, hdel] at hother
      | event hq' _ _ h =>
        rw [hqueue] at hq'
        cases hq'
        cases h
        exact .inl rfl

/-! ### The close request -/

/-- What the claim on a close request allows: the socket is deleted, or has sent its FIN, or keeps the CloseEvent until
everything has been sent. -/
def CloseRecorded (c : CloseEvent) (e : Endpoint) : Prop :=
  e.deleted = true ∨ (e.cmc.state.isAfterFin = true ∧ Wifu.finSent e.dispatched = true) ∨
    (e.savedCloseEvent = some c ∧ ¬(e.socket.sendBuffer = [] ∧ e.savedSendEvent = none))

instance (c : CloseEvent) (e : Endpoint) : Decidable (CloseRecorded c e) := inferInstanceAs (Decidable (_ ∨ _))

/-- The CloseEvent has been answered, and then all protocol events have drained. -/
structure AnswersClose (e : Endpoint) (c : CloseEvent) (e' : Endpoint) : Prop where
  run : ∃ e₁ is, machine.enabled (.close c) e ∧ machine.step (.close c) e = .ok e₁ ∧
    e₁.dispatched.getLast? = some (.closeResponse c) ∧ machine.Run drains e₁ is e'
  drained : e'.queue = []

/-- Nothing is left to send, and the state does nothing when it closes. -/
def losesClose (e : Endpoint) : Prop :=
  e.cmc.state.ignoresClose = true ∧ e.socket.sendBuffer = [] ∧ e.savedSendEvent = none

instance (e : Endpoint) : Decidable (losesClose e) := inferInstanceAs (Decidable (_ ∧ _))

theorem close_saved (c : CloseEvent) (h : ¬(e.socket.sendBuffer = [] ∧ e.savedSendEvent = none)) :
    e.close c = { e with savedCloseEvent := some c }.dispatch (.closeResponse c) := by
  unfold close
  simp only
  rw [if_neg h]

theorem close_at_once (c : CloseEvent) (h : e.socket.sendBuffer = [] ∧ e.savedSendEvent = none) :
    e.close c = e.managerClose.dispatch (.closeResponse c) := by
  unfold close
  simp only
  rw [if_pos h]

theorem managerClose_ignored (h : e.cmc.state.ignoresClose = true) : e.managerClose = e := by
  unfold managerClose
  cases hs : e.cmc.state with
  | listen | established | closeWait =>
    rw [hs] at h
    cases h
  | _ => rfl

/-- With nothing left to send, a state past the handshake is in the closing sequence after the close. -/
theorem managerClose_isAfterFin (hbuf : e.socket.sendBuffer = []) (hs : e.cmc.state.ignoresClose = false)
    (hl : e.cmc.state ≠ .listen) : e.managerClose.cmc.state.isAfterFin = true := by
  unfold managerClose
  cases hstate : e.cmc.state with
  | closed | synSent | synReceived =>
    rw [hstate] at hs
    cases hs
  | listen => exact absurd hstate hl
  | established =>
    simp only [hbuf, if_true]
    exact congrArg ConnectionManagerState.isAfterFin (setState_state e .finWait1)
  | closeWait =>
    simp only
    rw [setState_state]
    rfl
  | finWait1 | finWait2 | closing | lastAck | timeWait =>
    simp only [hstate]
    rfl

/-- The close request and `n` steps that drain. -/
def closeAndDrain (e : Endpoint) (c : CloseEvent) (n : Nat) : Option Endpoint :=
  machine.replay drains (List.replicate n .drain) (e.close c)

theorem AnswersClose.of_closeAndDrain {c : CloseEvent} {n : Nat} (hq : e.queue = []) (hdel : e.deleted = false)
    (h : e.closeAndDrain c n = some e') (hdone : e'.queue = []) : AnswersClose e c e' := by
  refine ⟨⟨e.close c, List.replicate n .drain, hq, if_neg (by simp [hdel]), ?_, .of_replay h⟩, hdone⟩
  unfold close dispatch
  exact List.getLast?_concat

end

/-- A replay that ends in a socket whose close request is lost gives a run that does. -/
theorem exists_lost {i : List Input} (h : (machine.replay Transition.anyStep i client).any (fun e =>
    decide (e.queue = [] ∧ e.deleted = false) && (e.closeAndDrain ⟨2⟩ 0).any fun e' : Endpoint =>
      decide (e'.queue = [] ∧ ¬CloseRecorded ⟨2⟩ e')) = true) :
    ∃ e e', machine.Run Transition.anyStep client i e ∧ e.deleted = false ∧ AnswersClose e ⟨2⟩ e' ∧
      ¬CloseRecorded ⟨2⟩ e' := by
  obtain ⟨e, hrun, h⟩ := Transition.Machine.exists_run h
  rw [Bool.and_eq_true, decide_eq_true_iff, Option.any_eq_true] at h
  obtain ⟨⟨hq, hdel⟩, e', he', hdone⟩ := h
  obtain ⟨hdone, hnot⟩ := of_decide_eq_true hdone
  exact ⟨e, e', hrun, hdel, .of_closeAndDrain hq hdel he' hdone, hnot⟩

end Endpoint

end Wifu
