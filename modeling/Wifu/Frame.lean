import Wifu.StepCases

/-!
# What each context leaves alone

The handlers of one context change that context, the queue and what has been dispatched; everything else stays.  One
statement for each context: `ManagerChange`, `CongestionChange` and, for the acknowledgement side of the reliability
state, `AckChange`.
-/

namespace Wifu

/-- What the reliability state's handling of a packet stops at. -/
def Abort.receptionSide : Abort → Bool
  | .nullTimestamp => true
  | a => a.receiveSide

theorem Abort.receiveSide_of_receptionSide {a : Abort} (h : a.receptionSide = false) : a.receiveSide = false := by
  cases a with
  | nullTimestamp => cases h
  | _ => exact h

theorem Abort.receptionSide_of_receiveSide {a : Abort} (h : a.receiveSide = true) : a.receptionSide = true := by
  cases a with
  | nullTimestamp => rfl
  | _ => exact h

/-- What the congestion control stops at. -/
def Abort.congestionSide : Abort → Bool
  | .sendDataLength | .sendBufferEmpty | .sendOutOfBounds | .sendPayloadEmpty | .resendBufferEmpty | .resendDataLength
  | .resendPayloadEmpty | .divisionByZero => true
  | _ => false

theorem Abort.receptionSide_of_congestionSide {a : Abort} (h : a.congestionSide = true) : a.receptionSide = false := by
  cases a with
  | sendDataLength | sendBufferEmpty | sendOutOfBounds | sendPayloadEmpty | resendBufferEmpty | resendDataLength
  | resendPayloadEmpty | divisionByZero => rfl
  | _ => cases h

theorem Abort.receiveSide_of_congestionSide {a : Abort} (h : a.congestionSide = true) : a.receiveSide = false :=
  receiveSide_of_receptionSide (receptionSide_of_congestionSide h)

namespace Endpoint

/-! ### The loop of `send_packets` -/

/-- What holds before `send_packets` and is kept by each segment holds behind it. -/
theorem sendPackets_invariant {e e' : Endpoint} (I : Endpoint → Prop) (h : e.sendPackets = .ok e') (h0 : I e)
    (hone : ∀ f f', I f → f.roomToSend = true → f.sendOnePacket false = .ok f' → I f') : I e' := by
  unfold sendPackets at h
  generalize e.socket.sendBuffer.length = fuel at h
  induction fuel generalizing e with
  | zero =>
    cases h
    exact h0
  | succ fuel ih =>
    unfold sendPacketsLoop at h
    by_cases hroom : e.roomToSend = true
    · rw [if_pos hroom] at h
      obtain ⟨e₁, h₁, h⟩ := bind_eq_ok.1 h
      exact ih (hone _ _ h0 hroom h₁) h
    · rw [if_neg hroom] at h
      cases h
      exact h0

/-- Where `send_packets` fails, it does so in a segment for which there was room. -/
theorem sendPackets_fails {e : Endpoint} {a : Abort} (h : e.sendPackets = .error a) :
    ∃ f : Endpoint, f.roomToSend = true ∧ f.sendOnePacket false = .error a := by
  unfold sendPackets at h
  generalize e.socket.sendBuffer.length = fuel at h
  induction fuel generalizing e with
  | zero => cases h
  | succ fuel ih =>
    unfold sendPacketsLoop at h
    by_cases hroom : e.roomToSend = true
    · rw [if_pos hroom] at h
      rcases bind_eq_error.1 h with h | ⟨_, -, h⟩
      · exact ⟨e, hroom, h⟩
      · exact ih h
    · rw [if_neg hroom] at h
      cases h

/-! ### The connection manager -/

/-- `e'` differs from `e` in what the connection manager may change. -/
structure ManagerChange (e e' : Endpoint) : Prop where
  rc : e'.rc = e.rc
  ccc : e'.ccc = e.ccc
  socket : e'.socket = e.socket
  savedSendEvent : e'.savedSendEvent = e.savedSendEvent
  savedCloseEvent : e'.savedCloseEvent = e.savedCloseEvent
  savedFin : e'.savedFin = e.savedFin
  redelivered : e'.redelivered = e.redelivered
  deleted : e'.deleted = e.deleted
  transfers : transfers e'.dispatched = transfers e.dispatched

namespace ManagerChange

variable {e e' e'' : Endpoint}

theorem refl (e : Endpoint) : ManagerChange e e := ⟨rfl, rfl, rfl, rfl, rfl, rfl, rfl, rfl, rfl⟩

theorem trans (h : ManagerChange e e') (h' : ManagerChange e' e'') : ManagerChange e e'' :=
  ⟨h'.rc.trans h.rc, h'.ccc.trans h.ccc, h'.socket.trans h.socket, h'.savedSendEvent.trans h.savedSendEvent,
    h'.savedCloseEvent.trans h.savedCloseEvent, h'.savedFin.trans h.savedFin, h'.redelivered.trans h.redelivered,
    h'.deleted.trans h.deleted, h'.transfers.trans h.transfers⟩

theorem enqueueFor (e : Endpoint) (s : SocketId) (k : ProtocolEventKind) : ManagerChange e (e.enqueueFor s k) :=
  ⟨rfl, rfl, rfl, rfl, rfl, rfl, rfl, rfl, rfl⟩

theorem dispatch (e : Endpoint) {f : FrameworkEvent} (hf : f.isTransfer = false) : ManagerChange e (e.dispatch f) :=
  ⟨rfl, rfl, rfl, rfl, rfl, rfl, rfl, rfl, transfers_append_other hf⟩

theorem withManager (e : Endpoint) (c : ConnectionManagerContext) : ManagerChange e { e with cmc := c } :=
  ⟨rfl, rfl, rfl, rfl, rfl, rfl, rfl, rfl, rfl⟩

theorem startTimeWaitTimer (e : Endpoint) : ManagerChange e e.startTimeWaitTimer :=
  ⟨rfl, rfl, rfl, rfl, rfl, rfl, rfl, rfl, transfers_append_other rfl⟩

theorem stopTimeWaitTimer (e : Endpoint) : ManagerChange e e.stopTimeWaitTimer :=
  ⟨rfl, rfl, rfl, rfl, rfl, rfl, rfl, rfl, transfers_append_other rfl⟩

theorem setState (e : Endpoint) (s : ConnectionManagerState) : ManagerChange e (e.setState s) := by
  have hexit : ManagerChange e e.stateExit := by
    unfold stateExit
    split
    · exact stopTimeWaitTimer e
    · exact refl e
  have henter (e : Endpoint) : ManagerChange e e.stateEnter := by
    unfold stateEnter
    split
    · exact startTimeWaitTimer e
    · split
      · exact dispatch e rfl
      · exact refl e
    · exact refl e
  exact (hexit.trans (withManager _ _)).trans (henter _)

theorem processSyn (e : Endpoint) (p : TCPPacket) : ManagerChange e (e.processSyn p) := by
  have h : ManagerChange e { e with
      nextSocket := e.nextSocket + 1, cmc := { e.cmc with acceptSocket := e.socket.id } } :=
    ⟨rfl, rfl, rfl, rfl, rfl, rfl, rfl, rfl, rfl⟩
  unfold Endpoint.processSyn
  exact ((h.trans (enqueueFor _ _ _)).trans (enqueueFor _ _ _)).trans (setState _ _)

theorem receivePacket (e : Endpoint) (p : TCPPacket) : ManagerChange e (e.managerReceivePacket p) := by
  unfold managerReceivePacket
  split
  · split
    · exact processSyn e p
    · exact refl e
  · split
    · exact (enqueueFor _ _ _).trans (setState _ _)
    · exact refl e
  · split
    · exact (enqueueFor _ _ _).trans (setState _ _)
    · exact refl e
  · split
    · exact refl e
    · split
      · exact ((enqueueFor _ _ _).trans (setState _ _)).trans (dispatch _ rfl)
      · exact refl e
  · split
    · exact (enqueueFor _ _ _).trans (setState _ _)
    · split
      · exact setState _ _
      · exact refl e
  · split
    · exact (enqueueFor _ _ _).trans (setState _ _)
    · exact refl e
  · split
    · exact setState _ _
    · exact refl e
  · split
    · exact (enqueueFor _ _ _).trans (setState _ _)
    · exact refl e
  · split
    · exact ((enqueueFor _ _ _).trans (stopTimeWaitTimer _)).trans (startTimeWaitTimer _)
    · exact refl e
  · exact refl e
  · exact refl e

theorem close (e : Endpoint) : ManagerChange e e.managerClose := by
  unfold managerClose
  split
  · exact (enqueueFor _ _ _).trans (setState _ _)
  · split
    · exact (setState _ _).trans (enqueueFor _ _ _)
    · exact refl e
  · exact (enqueueFor _ _ _).trans (setState _ _)
  · exact refl e

/-- Carrying out the saved CloseEvent clears it; the rest is the connection manager's. -/
theorem runSavedClose (e : Endpoint) :
    ManagerChange e { e.runSavedClose with savedCloseEvent := e.savedCloseEvent } := by
  rcases runSavedClose_cases e with ⟨-, heq⟩ | ⟨-, heq⟩
  · rw [heq]
    have h := close e
    exact ⟨h.rc, h.ccc, h.socket, h.savedSendEvent, rfl, h.savedFin, h.redelivered, h.deleted, h.transfers⟩
  · rw [heq]
    exact refl e

theorem timerFired (e : Endpoint) (t : TimeoutEvent) : ManagerChange e (e.managerTimerFired t) := by
  unfold managerTimerFired
  split
  · split
    · exact (enqueueFor _ _ _).trans (setState _ _)
    · exact refl e
  · exact refl e

theorem listen (e : Endpoint) (l : ListenEvent) : ManagerChange e (e.managerListen l) := by
  by_cases hs : e.cmc.state = .closed
  · rw [managerListen_closed hs]
    exact withManager e _
  · rw [managerListen_of_ne hs]
    exact refl e

end ManagerChange

/-! ### The congestion control -/

/-- `e'` differs from `e` in what the congestion control may change. -/
structure CongestionChange (e e' : Endpoint) : Prop where
  rc : e'.rc = e.rc
  cmc : e'.cmc = e.cmc
  socket : e'.socket = e.socket
  savedSendEvent : e'.savedSendEvent = e.savedSendEvent
  savedCloseEvent : e'.savedCloseEvent = e.savedCloseEvent
  savedFin : e'.savedFin = e.savedFin
  redelivered : e'.redelivered = e.redelivered
  deleted : e'.deleted = e.deleted
  transfers : transfers e'.dispatched = transfers e.dispatched
  initiations : initiations e'.queue = initiations e.queue

namespace CongestionChange

variable {e e' e'' : Endpoint}

theorem refl (e : Endpoint) : CongestionChange e e := ⟨rfl, rfl, rfl, rfl, rfl, rfl, rfl, rfl, rfl, rfl⟩

theorem trans (h : CongestionChange e e') (h' : CongestionChange e' e'') : CongestionChange e e'' :=
  ⟨h'.rc.trans h.rc, h'.cmc.trans h.cmc, h'.socket.trans h.socket, h'.savedSendEvent.trans h.savedSendEvent,
    h'.savedCloseEvent.trans h.savedCloseEvent, h'.savedFin.trans h.savedFin, h'.redelivered.trans h.redelivered,
    h'.deleted.trans h.deleted, h'.transfers.trans h.transfers, h'.initiations.trans h.initiations⟩

theorem withCongestion (e : Endpoint) (c : TCPTahoeCongestionControlContext) :
    CongestionChange e { e with ccc := c } :=
  ⟨rfl, rfl, rfl, rfl, rfl, rfl, rfl, rfl, rfl, rfl⟩

theorem enqueueWith (e : Endpoint) (c : TCPTahoeCongestionControlContext) (p : TCPPacket) :
    CongestionChange e ({ e with ccc := c }.enqueue (.sendPacket p)) :=
  ⟨rfl, rfl, rfl, rfl, rfl, rfl, rfl, rfl, rfl, initiations_append_other rfl⟩

theorem dispatchTimeoutWith (e : Endpoint) (c : TCPTahoeCongestionControlContext) (s : SocketId) :
    CongestionChange e ({ e with ccc := c }.dispatchTimeout s) :=
  ⟨rfl, rfl, rfl, rfl, rfl, rfl, rfl, rfl, transfers_append_other rfl, rfl⟩

theorem sendOnePacket {w : Bool} (h : e.sendOnePacket w = .ok e') : CongestionChange e e' := by
  unfold Endpoint.sendOnePacket at h
  obtain ⟨n, -, h⟩ := bind_eq_ok.1 h
  obtain ⟨-, -, h⟩ := bind_eq_ok.1 h
  obtain ⟨-, -, h⟩ := bind_eq_ok.1 h
  obtain ⟨-, -, h⟩ := bind_eq_ok.1 h
  cases h
  exact enqueueWith _ _ _

theorem sendPackets (h : e.sendPackets = .ok e') : CongestionChange e e' :=
  sendPackets_invariant (CongestionChange e) h (refl e) fun _ _ hc _ hone => hc.trans (sendOnePacket hone)

theorem resendData (h : e.resendData = .ok e') : CongestionChange e e' := by
  unfold Endpoint.resendData at h
  obtain ⟨p, -, h⟩ := bind_eq_ok.1 h
  cases h
  exact enqueueWith _ _ _

theorem resendPacket (h : e.congestionResendPacket = .ok e') : CongestionChange e e' := by
  unfold congestionResendPacket at h
  exact (withCongestion e _).trans (resendData h)

theorem timerFired {t : TimeoutEvent} (h : e.congestionTimerFired t = .ok e') : CongestionChange e e' := by
  unfold congestionTimerFired at h
  split at h
  · exact (dispatchTimeoutWith e _ _).trans (sendOnePacket h)
  · cases h
    exact refl e

theorem startProbeTimer (e : Endpoint) : CongestionChange e e.startProbeTimer := by
  unfold Endpoint.startProbeTimer
  split
  · exact refl e
  · exact dispatchTimeoutWith e _ _

theorem cancelProbeTimer (e : Endpoint) : CongestionChange e e.cancelProbeTimer := by
  unfold Endpoint.cancelProbeTimer
  split
  · exact refl e
  · exact ⟨rfl, rfl, rfl, rfl, rfl, rfl, rfl, rfl, transfers_append_other rfl, rfl⟩

theorem sendOrProbe (h : e.sendOrProbe = .ok e') : CongestionChange e e' := by
  unfold Endpoint.sendOrProbe at h
  split at h
  · cases h
    exact startProbeTimer e
  · exact (cancelProbeTimer e).trans (sendPackets h)

theorem receivePacket {p : TCPPacket} (h : e.congestionReceivePacket p = .ok e') : CongestionChange e e' := by
  unfold congestionReceivePacket at h
  split at h
  · obtain ⟨ccc, -, h⟩ := bind_eq_ok.1 h
    exact (withCongestion e ccc).trans (sendOrProbe h)
  · cases h
    exact refl e

theorem receiveUnlessDuplicate {p : TCPPacket} {b : Bool} (h : e.receiveUnlessDuplicate p b = .ok e') :
    CongestionChange e e' := by
  obtain ⟨-, rfl⟩ | ⟨-, h⟩ := receiveUnlessDuplicate_ok h
  · exact refl _
  · exact receivePacket h

end CongestionChange

/-! ### Failures of the congestion control -/

section Failures

variable {e : Endpoint} {a : Abort}

theorem sendOnePacket_error {w : Bool} (h : e.sendOnePacket w = .error a) : a.congestionSide = true := by
  unfold sendOnePacket getSendDataLength at h
  simp only at h
  rcases bind_eq_error.1 h with h | ⟨n, -, h⟩
  · rcases bind_eq_error.1 h with h | ⟨_, -, h⟩
    · rw [← (check_eq_error.1 h).2]
      rfl
    · cases h
  rcases bind_eq_error.1 h with h | ⟨_, -, h⟩
  · rw [← (check_eq_error.1 h).2]
    rfl
  rcases bind_eq_error.1 h with h | ⟨_, -, h⟩
  · rw [← (check_eq_error.1 h).2]
    rfl
  rcases bind_eq_error.1 h with h | ⟨_, -, h⟩
  · rw [← (check_eq_error.1 h).2]
    rfl
  · cases h

theorem sendPackets_error (h : e.sendPackets = .error a) : a.congestionSide = true := by
  obtain ⟨f, -, h⟩ := sendPackets_fails h
  exact sendOnePacket_error h

theorem resendData_error (h : e.resendData = .error a) : a.congestionSide = true := by
  unfold resendData at h
  rcases bind_eq_error.1 h with h | ⟨_, -, h⟩
  · unfold resendPacket at h
    simp only at h
    rcases bind_eq_error.1 h with h | ⟨_, -, h⟩
    · rw [← (check_eq_error.1 h).2]
      rfl
    split at h
    · cases h
    · split at h
      · cases h
      · rcases bind_eq_error.1 h with h | ⟨_, -, h⟩
        · unfold getResendDataLength at h
          rcases bind_eq_error.1 h with h | ⟨_, -, h⟩
          · rw [← (check_eq_error.1 h).2]
            rfl
          · cases h
        · rcases bind_eq_error.1 h with h | ⟨_, -, h⟩
          · rw [← (check_eq_error.1 h).2]
            rfl
          · cases h
  · cases h

theorem congestionReceivePacket_error {p : TCPPacket} (h : e.congestionReceivePacket p = .error a) :
    a.congestionSide = true := by
  unfold congestionReceivePacket at h
  split at h
  · rcases bind_eq_error.1 h with h | ⟨_, -, h⟩
    · unfold acknowledgeSegment at h
      simp only at h
      split at h
      · unfold setCwnd at h
        split at h
        · cases h
        · rcases bind_eq_error.1 h with h | ⟨_, -, h⟩
          · rw [← (check_eq_error.1 h).2]
            rfl
          · cases h
      · cases h
    · unfold sendOrProbe at h
      split at h
      · cases h
      · exact sendPackets_error h
  · cases h

theorem congestionTimerFired_error {t : TimeoutEvent} (h : e.congestionTimerFired t = .error a) :
    a.congestionSide = true := by
  unfold congestionTimerFired at h
  split at h
  · exact sendOnePacket_error h
  · cases h

/-- Sending stops at a SYN whose byte has no place, or at a packet without a timestamp option. -/
theorem sendPacket_error {p : TCPPacket} (h : e.sendPacket p = .error a) :
    a = .synBufferNotEmpty ∨ a = .noTimestampOption := by
  unfold sendPacket at h
  rcases bind_eq_error.1 h with h | ⟨_, -, h⟩
  · unfold reliabilitySendPacket at h
    simp only at h
    rcases bind_eq_error.1 h with h | ⟨_, -, h⟩
    · unfold appendControlBytes at h
      split at h
      · rcases bind_eq_error.1 h with h | ⟨_, -, h⟩
        · exact .inl (check_eq_error.1 h).2.symm
        · cases h
      · split at h <;> cases h
    · rcases bind_eq_error.1 h with h | ⟨_, -, h⟩
      · unfold insertTimestamp at h
        split at h
        · cases h
          exact .inr rfl
        · cases h
      · cases h
  · cases h

theorem getAvailableRoom_error (h : e.getAvailableRoom = .error a) :
    a = .sendBufferOverfull ∧ tcpSocketMaxBufferSize < e.socket.sendBuffer.length := by
  unfold getAvailableRoom at h
  rcases bind_eq_error.1 h with h | ⟨_, -, h⟩
  · obtain ⟨hle, ha⟩ := check_eq_error.1 h
    exact ⟨ha.symm, by simpa using hle⟩
  · cases h

end Failures

/-! ### Acknowledgements -/

/-- `e'` differs from `e` in what the reliability state changes when it handles an acknowledgement or a timer. -/
structure AckChange (e e' : Endpoint) : Prop where
  ccc : e'.ccc = e.ccc
  cmc : e'.cmc = e.cmc
  savedSendEvent : e'.savedSendEvent = e.savedSendEvent
  savedCloseEvent : e'.savedCloseEvent = e.savedCloseEvent
  savedFin : e'.savedFin = e.savedFin
  redelivered : e'.redelivered = e.redelivered
  deleted : e'.deleted = e.deleted
  rcvNxt : e'.rc.rcvNxt = e.rc.rcvNxt
  rcvWnd : e'.rc.rcvWnd = e.rc.rcvWnd
  receiveWindow : e'.rc.receiveWindow = e.rc.receiveWindow
  receiveIndex : e'.rc.receiveIndex = e.rc.receiveIndex
  receiveEvent : e'.rc.receiveEvent = e.rc.receiveEvent
  id : e'.socket.id = e.socket.id
  receiveBuffer : e'.socket.receiveBuffer = e.socket.receiveBuffer
  transfers : transfers e'.dispatched = transfers e.dispatched
  initiations : initiations e'.queue = initiations e.queue

namespace AckChange

variable {e e' e'' : Endpoint}

theorem refl (e : Endpoint) : AckChange e e := by
  constructor <;> rfl

theorem trans (h : AckChange e e') (h' : AckChange e' e'') : AckChange e e'' :=
  ⟨h'.ccc.trans h.ccc, h'.cmc.trans h.cmc, h'.savedSendEvent.trans h.savedSendEvent,
    h'.savedCloseEvent.trans h.savedCloseEvent, h'.savedFin.trans h.savedFin, h'.redelivered.trans h.redelivered,
    h'.deleted.trans h.deleted, h'.rcvNxt.trans h.rcvNxt, h'.rcvWnd.trans h.rcvWnd,
    h'.receiveWindow.trans h.receiveWindow, h'.receiveIndex.trans h.receiveIndex,
    h'.receiveEvent.trans h.receiveEvent, h'.id.trans h.id, h'.receiveBuffer.trans h.receiveBuffer,
    h'.transfers.trans h.transfers, h'.initiations.trans h.initiations⟩

theorem startTimer (e : Endpoint) : AckChange e e.startTimer := by
  unfold Endpoint.startTimer
  split
  · exact refl e
  · constructor <;> first | rfl | exact transfers_append_other rfl

theorem cancelTimer (e : Endpoint) : AckChange e e.cancelTimer := by
  unfold Endpoint.cancelTimer
  split
  · exact refl e
  · constructor <;> first | rfl | exact transfers_append_other rfl

theorem resetTimer (e : Endpoint) : AckChange e e.resetTimer := (cancelTimer e).trans (startTimer _)

theorem enqueue (e : Endpoint) {k : ProtocolEventKind} (hk : (⟨e.socket.id, k⟩ : ProtocolEvent).isInitiation = false) :
    AckChange e (e.enqueue k) := by
  constructor <;> first | rfl | exact initiations_append_other hk

theorem requestResend (e : Endpoint) (r : ResendReason) : AckChange e (e.requestResend r) := by
  constructor <;> first | rfl | exact initiations_append_other rfl

theorem timerFired (e : Endpoint) (t : TimeoutEvent) : AckChange e (e.reliabilityTimerFired t) := by
  unfold reliabilityTimerFired
  split
  · have hclear : AckChange e { e with rc := { e.rc with timeoutEvent := none } } := by constructor <;> rfl
    exact hclear.trans (requestResend _ _)
  · exact refl e

theorem updateEchoReply (e : Endpoint) (p : TCPPacket) : AckChange e (e.updateEchoReply p) := by
  obtain ⟨t, heq⟩ := updateEchoReply_eq e p
  rw [heq]
  constructor <;> rfl

theorem handleDuplicateAck (e : Endpoint) (p : TCPPacket) : AckChange e (e.handleDuplicateAck p) := by
  have hcount : AckChange e { e with rc := countDuplicateAck e.rc p } := by
    unfold countDuplicateAck
    split <;> constructor <;> rfl
  unfold Endpoint.handleDuplicateAck
  simp only
  split
  · exact hcount.trans (requestResend _ _)
  · exact hcount

theorem handleValidAck {p : TCPPacket} (h : e.handleValidAck p = .ok e') : AckChange e e' := by
  unfold Endpoint.handleValidAck at h
  obtain ⟨-, -, h⟩ := bind_eq_ok.1 h
  have hack : AckChange e ({ e with
      rc := { e.rc with snd := e.rc.snd.acknowledge p.ackNumber }
      socket := { e.socket with
        sendBuffer := e.socket.sendBuffer.drop (p.ackNumber - e.rc.snd.sndUna).toNat } } : Endpoint) := by
    constructor <;> rfl
  have hack := hack.trans (enqueue (k := .sendBufferNotFull) _ rfl)
  split at h
  · cases h
    exact hack.trans (cancelTimer _)
  · split at h
    · cases h
      exact hack.trans (resetTimer _)
    · cases h
      exact hack

theorem handleAck {p : TCPPacket} {b : Bool} (h : e.handleAck p = .ok (b, e')) : AckChange e e' := by
  unfold Endpoint.handleAck at h
  split at h
  · cases h
    exact refl e
  · split at h
    · obtain ⟨e₁, h₁, h⟩ := bind_eq_ok.1 h
      cases h
      exact handleValidAck h₁
    · split at h
      · cases h
        exact enqueue _ rfl
      · split at h
        · cases h
          exact handleDuplicateAck _ _
        · cases h
          exact refl e

theorem checkAndStartTimer (e : Endpoint) (p : TCPPacket) : AckChange e (e.checkAndStartTimer p) := by
  unfold Endpoint.checkAndStartTimer
  split
  · exact startTimer e
  · exact refl e

theorem sendPacket {p p' : TCPPacket} (h : e.reliabilitySendPacket p = .ok (p', e')) : AckChange e e' := by
  unfold reliabilitySendPacket at h
  simp only at h
  obtain ⟨sb, -, h⟩ := bind_eq_ok.1 h
  obtain ⟨q, -, h⟩ := bind_eq_ok.1 h
  cases h
  have hseq : AckChange e { e with rc := (setSequenceNumber e.rc p).2 } := by
    unfold setSequenceNumber
    split <;> constructor <;> rfl
  have hbuf (e : Endpoint) : AckChange e { e with socket := { e.socket with sendBuffer := sb } } := by
    constructor <;> rfl
  exact (hseq.trans (checkAndStartTimer _ _)).trans (hbuf _)

end AckChange

end Endpoint

end Wifu
