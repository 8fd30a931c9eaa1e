import Wifu.SendRun
import Wifu.SendView

/-!
# The order of the send variables

Positions of the send stream are counted from the SYN on, without wrapping around.  A history variable keeps the
position that `snd_una` has reached and the position of every segment sent; the send variables stand at positions in
order, and `snd_max` at the end of the furthest segment.
-/

namespace Wifu

namespace Endpoint

/-! ### Before the first segment -/

/-- No segment has been sent: nothing waits that would take up more than one sequence number. -/
structure Unopened (e : Endpoint) : Prop extends Unsent e where
  timers : e.TimersOk
  queue :
    ((e.cmc.state = .closed ∨ e.cmc.state = .listen) ∧ ∀ v ∈ e.queue, v.Harmless e.socket.id) ∨
    (e.cmc.state.isEarly = true ∧ ∃ p : TCPPacket, p.IsSyn ∧
      (e.queue = [⟨e.socket.id, .sendPacket p⟩] ∨
        ∃ s l r li, e.queue = [⟨e.socket.id, .connectionInitiated s l r li⟩, ⟨s, .sendPacket p⟩]))

section

variable {e e' : Endpoint} {p : TCPPacket}

theorem Unopened.cases_idle (hu : e.Unopened) (hq : e.queue = []) : e.cmc.state = .closed ∨ e.cmc.state = .listen := by
  rcases hu.queue with ⟨hstate, -⟩ | ⟨-, p, -, h | ⟨_, _, _, _, h⟩⟩
  · exact hstate
  · rw [hq] at h
    cases h
  · rw [hq] at h
    cases h

/-- A step that sends nothing while no SYN waits. -/
theorem Unopened.frame (hu : e.Unsent) (ht : e.TimersOk) (h : SendFrame e e') (hq : ∀ v ∈ e.queue, v.Harmless e.socket.id)
    (hs : e'.cmc.state = .closed ∨ e'.cmc.state = .listen) : e'.Unopened := by
  refine ⟨hu.frame h, h.timers ht, .inl ⟨hs, ?_⟩⟩
  obtain ⟨q, hqueue, hnew, -⟩ := h.queue
  rw [hqueue, h.id]
  intro v hv
  rcases List.mem_append.1 hv with hv | hv
  · exact hq v hv
  · exact hnew v hv

theorem Unopened.head (hu : e.Unopened) {q : TCPPacket} {vs : List ProtocolEvent}
    (hq : e.queue = ⟨e.socket.id, .sendPacket q⟩ :: vs) : q.IsEmpty ∨ q.IsSyn := by
  rcases hu.queue with ⟨-, h⟩ | ⟨-, p, hp, h | ⟨_, _, _, _, h⟩⟩
  · have hh : (⟨e.socket.id, .sendPacket q⟩ : ProtocolEvent).Harmless e.socket.id := h _ (by rw [hq]; simp)
    exact .inl hh.2
  · rw [hq] at h
    cases h
    exact .inr hp
  · rw [hq] at h
    cases h

/-- The reliability context answers a packet, or takes what it brings. -/
theorem Unsent.reliabilityReceivePacket_frame (hu : e.Unsent) (h : e.reliabilityReceivePacket p = .ok e') :
    SendFrame e e' ∧ e'.cmc.state = e.cmc.state := by
  have hecho := SendFrame.updateEchoReply e p
  have hsame := updateEchoReply_same e p
  have hstate := congrArg ConnectionManagerContext.state hsame.2.2
  unfold Endpoint.reliabilityReceivePacket at h
  by_cases hb : p.ack = true ∧ lessThan e.rc.snd.sndMax p.ackNumber = true
  · rw [(hu.frame hecho).handleAck_beyond hb.1 (by rw [hsame.1]; exact hb.2)] at h
    cases h
    exact ⟨hecho.trans (.createAndDispatchAck _), hstate⟩
  · rw [(hu.frame hecho).handleAck (fun hack => by rw [hsame.1]; simpa [hack] using hb)] at h
    change (e.updateEchoReply p).handleControlBitsAndData p = .ok e' at h
    refine ⟨hecho.trans (.handleControlBitsAndData h), ?_⟩
    obtain ⟨v, -, rfl⟩ := handleControlBitsAndData_ok h
    exact hstate

theorem managerClose_unopened (hu : e.Unsent) (ht : e.TimersOk)
    (hq : (e.cmc.state = .closed ∨ e.cmc.state = .listen) ∧ ∀ v ∈ e.queue, v.Harmless e.socket.id) :
    e.managerClose.Unopened := by
  rcases hq.1 with hs | hs
  · have heq : e.managerClose = e := by simp [managerClose, hs]
    rw [heq]
    exact ⟨hu, ht, .inl hq⟩
  · rw [managerClose_listen hs]
    refine ⟨⟨hu.initialized, hu.rcSnd, hu.cccSnd, hu.timeoutEvent, hu.sendBuffer, hu.savedSendEvent, hu.accepted,
      hu.sent⟩, ht.congr rfl rfl rfl, .inl ⟨.inl rfl, fun v hv => ?_⟩⟩
    rcases List.mem_append.1 hv with hv | hv
    · exact hq.2 v hv
    · rw [List.mem_singleton.1 hv]
      exact rfl

/-- The saved CloseEvent changes nothing once the SYN waits. -/
theorem Unopened.runSavedClose (hu : e.Unopened) : e.runSavedClose.Unopened := by
  rcases runSavedClose_cases e with ⟨-, heq⟩ | ⟨-, heq⟩ <;> rw [heq]
  · rcases hu.queue with hq | ⟨hearly, hq⟩
    · have h := managerClose_unopened hu.toUnsent hu.timers hq
      have hframe : SendFrame e.managerClose { e.managerClose with savedCloseEvent := none } :=
        .of_same ⟨rfl, rfl, rfl, rfl, rfl, rfl, rfl, rfl, rfl, rfl, rfl, rfl⟩
      exact ⟨h.toUnsent.frame hframe, hframe.timers h.timers, h.queue⟩
    · have heq : e.managerClose = e := by
        unfold managerClose
        split <;> simp_all [ConnectionManagerState.isEarly]
      rw [heq]
      have hframe : SendFrame e { e with savedCloseEvent := none } :=
        .of_same ⟨rfl, rfl, rfl, rfl, rfl, rfl, rfl, rfl, rfl, rfl, rfl, rfl⟩
      exact ⟨hu.toUnsent.frame hframe, hframe.timers hu.timers, .inr ⟨hearly, hq⟩⟩
  · exact hu

/-- A SYN is answered with a SYN; any other packet changes nothing here. -/
theorem Unopened.managerReceivePacket (hu : e.Unopened) (hs : e.cmc.state = .closed ∨ e.cmc.state = .listen)
    (hq : p.syn = true → e.queue = []) : (e.managerReceivePacket p).Unopened := by
  unfold Endpoint.managerReceivePacket
  rcases hs with hs | hs
  · simp only [hs]
    exact hu
  · simp only [hs]
    split
    · rename_i hsyn
      rw [processSyn_eq hs]
      refine ⟨⟨hu.initialized, hu.rcSnd, hu.cccSnd, hu.timeoutEvent, hu.sendBuffer, hu.savedSendEvent, hu.accepted,
        hu.sent⟩, hu.timers.congr rfl rfl rfl, .inr ⟨rfl,
        { TCPPacket.new p.destination p.source [] with syn := true, ack := true }, ⟨rfl, rfl⟩,
        .inr ⟨e.nextSocket, e.socket.localAddress, p.source, e.cmc.listenEvent, ?_⟩⟩⟩
      simp [hq hsyn]
    · exact hu

/-- What the congestion control does keeps the queue. -/
theorem Unopened.congestionReceivePacket (hu : e.Unopened) (h : e.congestionReceivePacket p = .ok e') :
    e'.Unopened := by
  obtain ⟨hframe, hqueue, hs⟩ := hu.toUnsent.congestionReceivePacket h
  refine ⟨hu.toUnsent.frame hframe, hframe.timers hu.timers, ?_⟩
  rw [hqueue, hs, hframe.id]
  exact hu.queue

theorem Unopened.receivePacket (hu : e.Unopened) (hq : e.queue = []) (h : e.receivePacket p = .ok e') :
    e'.Unopened := by
  have hstate := hu.cases_idle hq
  have hidle : ∀ v ∈ e.queue, v.Harmless e.socket.id := by simp [hq]
  have hreliability {f : Endpoint} (h : e.reliabilityReceivePacket p = .ok f) : f.Unopened ∧
      (f.cmc.state = .closed ∨ f.cmc.state = .listen) := by
    obtain ⟨hframe, hs⟩ := hu.toUnsent.reliabilityReceivePacket_frame h
    rw [← hs] at hstate
    exact ⟨.frame hu.toUnsent hu.timers hframe hidle hstate, hstate⟩
  have hcase := receivePacket_cases e p
  rw [h] at hcase
  cases hcase with
  | corrupt _ h =>
    cases h
    exact hu
  | skipping _ _ _ h => exact (hreliability h.symm).1
  | lingering _ _ hs h => rcases hstate with hc | hc <;> (rw [hc] at hs; cases hs)
  | answered _ _ h =>
    cases h
    exact .frame hu.toUnsent hu.timers (.createAndDispatchAck e) hidle hstate
  | ignored _ _ h =>
    cases h
    exact hu
  | parked _ _ _ _ _ h =>
    cases h
    exact .frame hu.toUnsent hu.timers (.of_same ⟨rfl, rfl, rfl, rfl, rfl, rfl, rfl, rfl, rfl, rfl, rfl, rfl⟩) hidle
      hstate
  | taken _ hack _ _ h =>
    obtain ⟨e₁, h₁, h⟩ := bind_eq_ok.1 h.symm
    obtain ⟨e₂, h₂, h⟩ := bind_eq_ok.1 h
    cases h
    obtain ⟨hu₁, hs₁⟩ := hreliability h₁
    have hsyn : p.syn = true → e₁.queue = [] := by
      intro hsyn
      refine (hu.toUnsent.reliabilityReceivePacket (fun hp => ?_) (fun _ => .inl hsyn) h₁).2.1.trans hq
      have hvalid : isValidAckNumber e.rc p = true := by simpa [hp] using hack
      exact not_beyond_of_valid hvalid
    have hu₂ := hu₁.managerReceivePacket hs₁ hsyn
    obtain ⟨-, rfl⟩ | ⟨-, h₂⟩ := receiveUnlessDuplicate_ok h₂
    · exact hu₂.runSavedClose
    · exact (hu₂.congestionReceivePacket h₂).runSavedClose

/-- Timers that fire before the SYN find nothing to send. -/
theorem Unopened.timerFired (hu : e.Unopened) (hq : e.queue = []) {t : TimeoutEvent} (h : e.timerFired t = .ok e') :
    e'.Unopened := by
  have hstate := hu.cases_idle hq
  unfold Endpoint.timerFired at h
  have hrel : e.reliabilityTimerFired t = e := by
    unfold reliabilityTimerFired
    rw [hu.timeoutEvent, if_neg (by simp)]
  have hman : e.managerTimerFired t = e := by
    unfold managerTimerFired
    rcases hstate with hs | hs <;> rw [hs]
  rw [hrel, hman] at h
  unfold congestionTimerFired at h
  split at h
  · have hnone : numUnsent ({ e with
        ccc := { e.ccc with probeTimer := some (e.newTimeout e.socket.id) } }.dispatchTimeout e.socket.id) = 0 :=
      hu.toUnsent.numUnsent
    exact absurd h (sendOnePacket_nothing (le_of_eq hnone))
  · cases h
    exact hu

/-- A waiting protocol event is handled: the first segment leaves, or none does. -/
theorem Unopened.drain (hu : e.Unopened) {v : ProtocolEvent} {vs : List ProtocolEvent} (hq : e.queue = v :: vs)
    (hs : v.socket = e.socket.id) (h : { e with queue := vs }.handleProtocolEvent v.kind = .ok e') :
    e'.deleted = true ∨ e'.rc.initialized = true ∨ e'.Unopened := by
  have hsend {q : TCPPacket} (hk : v.kind = .sendPacket q) : e'.rc.initialized = true := by
    rw [hk] at h
    obtain ⟨q', hsent⟩ := sendPacket_ok h
    exact hsent.initialized
  rcases hu.queue with ⟨hstate, hharm⟩ | ⟨hearly, p, hp, hqueue | ⟨s, l, r, li, hqueue⟩⟩
  · have hv : v.Harmless e.socket.id := hharm v (by rw [hq]; simp)
    have hvs : ∀ w ∈ vs, w.Harmless e.socket.id := fun w hw => hharm w (by rw [hq]; simp [hw])
    have hu' : ({ e with queue := vs } : Endpoint).Unsent :=
      ⟨hu.initialized, hu.rcSnd, hu.cccSnd, hu.timeoutEvent, hu.sendBuffer, hu.savedSendEvent, hu.accepted, hu.sent⟩
    have ht : ({ e with queue := vs } : Endpoint).TimersOk := ⟨hu.timers.1, hu.timers.2, hu.timers.3⟩
    unfold ProtocolEvent.Harmless at hv
    split at hv
    · rename_i q hk
      exact .inr (.inl (hsend hk))
    · rename_i hk
      rw [hk] at h
      cases h
      refine .inr (.inr (.frame hu' ht (.receiveBufferNotEmpty _) hvs ?_))
      obtain heq | ⟨r, -, -, heq⟩ := receiveBufferNotEmpty_cases { e with queue := vs } <;> rw [heq]
      · exact hstate
      · unfold createAndDispatchReceivedData
        simp only
        split <;> exact hstate
    · rename_i hk
      rw [hk] at h
      cases h
      refine .inr (.inr (.frame hu' ht (.receiveBufferNotFull _) hvs ?_))
      unfold Endpoint.receiveBufferNotFull
      split
      · exact hstate
      · split <;> exact hstate
    · rename_i hk
      rw [hk] at h
      cases h
      exact .inl rfl
    · rename_i hk
      rw [hk] at h
      cases h
      exact .inr (.inr ⟨hu', ht, .inl ⟨hstate, hvs⟩⟩)
    · exact hv.elim
  · rw [hq] at hqueue
    cases hqueue
    exact .inr (.inl (hsend rfl))
  · rw [hq] at hqueue
    cases hqueue
    cases h
    exact .inr (.inr ⟨⟨hu.initialized, hu.rcSnd, hu.cccSnd, hu.timeoutEvent, rfl, hu.savedSendEvent, hu.accepted, hu.sent⟩,
      ⟨hu.timers.1, hu.timers.2, hu.timers.3⟩, .inr ⟨hearly, p, hp, .inl rfl⟩⟩)

/-- Until the first segment has been sent, every step keeps that nothing long waits. -/
theorem Unopened.step (hu : e.Unopened) {i : Input} (hen : enabled i e) (hstep : step i e = .ok e') :
    e'.deleted = true ∨ e'.rc.initialized = true ∨ e'.Unopened := by
  have hstate (hq : e.queue = []) := hu.cases_idle hq
  have hidle (hq : e.queue = []) : ∀ v ∈ e.queue, v.Harmless e.socket.id := by simp [hq]
  cases step_ok hstep with
  | dropped _ h =>
    cases h
    exact .inr (.inr hu)
  | skipped hq hc h =>
    cases h
    rcases hu.queue with ⟨hs, hharm⟩ | ⟨-, p, -, hqueue | ⟨s, l, r, li, hqueue⟩⟩
    · exact .inr (.inr ⟨⟨hu.initialized, hu.rcSnd, hu.cccSnd, hu.timeoutEvent, hu.sendBuffer, hu.savedSendEvent,
        hu.accepted, hu.sent⟩, ⟨hu.timers.1, hu.timers.2, hu.timers.3⟩,
        .inl ⟨hs, fun w hw => hharm w (by rw [hq]; simp [hw])⟩⟩)
    · rw [hq] at hqueue
      cases hqueue
      exact .inl (by simpa [contains] using hc)
    · rw [hq] at hqueue
      cases hqueue
      exact .inl (by simpa [contains] using hc)
  | event hq hs _ h => exact hu.drain hq hs h.symm
  | @packet i p ps hd _ hps h =>
    have hq : e.queue = [] := by
      cases i <;> first | exact hen | cases hd
    have hpop : SendFrame e { e with redelivered := ps } :=
      .of_same ⟨rfl, rfl, rfl, rfl, rfl, rfl, rfl, rfl, rfl, rfl, rfl, rfl⟩
    have hu' : ({ e with redelivered := ps } : Endpoint).Unopened :=
      .frame hu.toUnsent hu.timers hpop (hidle hq) (hstate hq)
    exact .inr (.inr (hu'.receivePacket hq h.symm))
  | listen l _ h =>
    cases h
    rcases hstate hen with hs | hs
    · rw [managerListen_closed hs]
      exact .inr (.inr ⟨⟨hu.initialized, hu.rcSnd, hu.cccSnd, hu.timeoutEvent, hu.sendBuffer, hu.savedSendEvent,
        hu.accepted, hu.sent⟩, hu.timers.congr rfl rfl rfl, .inl ⟨.inr rfl, hidle hen⟩⟩)
    · rw [managerListen_of_ne (by simp [hs])]
      exact .inr (.inr hu)
  | connect c _ h =>
    cases h
    rcases hstate hen with hs | hs
    · have hq : e.queue = [] := hen
      rw [managerConnect_closed hs, hq]
      exact .inr (.inr ⟨⟨hu.initialized, hu.rcSnd, hu.cccSnd, hu.timeoutEvent, hu.sendBuffer, hu.savedSendEvent,
        hu.accepted, hu.sent⟩, hu.timers.congr rfl rfl rfl, .inr ⟨rfl,
        { TCPPacket.new ⟨c.localAddress, e.socket.localAddress.port⟩ c.address [] with syn := true }, ⟨rfl, rfl⟩,
        .inl rfl⟩⟩)
    · rw [managerConnect_of_ne (by simp [hs])]
      exact .inr (.inr hu)
  | send s _ hs _ => rcases hstate hen with hc | hc <;> (rw [hc] at hs; cases hs)
  | receive r _ hs _ => rcases hstate hen with hc | hc <;> (rw [hc] at hs; cases hs)
  | close c _ h =>
    cases h
    have hclose := managerClose_unopened hu.toUnsent hu.timers ⟨hstate hen, hidle hen⟩
    unfold close
    rw [if_pos ⟨hu.sendBuffer, hu.savedSendEvent⟩]
    have hframe := SendFrame.dispatch e.managerClose (f := .closeResponse c) (.of_none rfl rfl)
    exact .inr (.inr ⟨hclose.toUnsent.frame hframe, hframe.timers hclose.timers, hclose.queue⟩)
  | timerFired t _ _ h => exact .inr (.inr (hu.timerFired hen h.symm))
  | tick now _ h =>
    cases h
    exact .inr (.inr (.frame hu.toUnsent hu.timers (.of_same ⟨rfl, rfl, rfl, rfl, rfl, rfl, rfl, rfl, rfl, rfl, rfl, rfl⟩)
      (hidle hen) (hstate hen)))

theorem Unopened.create (id : SocketId) (l r : AddressPort) : (create id l r).Unopened := by
  refine ⟨⟨rfl, rfl, rfl, rfl, rfl, rfl, rfl, ?_⟩, ⟨?_, ?_, ?_⟩, .inl ⟨.inl rfl, ?_⟩⟩
  · intro p hp
    cases hp
  · intro t ht
    cases ht
  · intro t ht
    cases ht
  · intro t ht
    cases ht
  · intro v hv
    cases hv

end

end Endpoint

/-! ### What has been sent -/

/-- The position that `snd_una` has reached, and the segments sent with their positions. -/
structure SentLog where
  una : Nat := 0
  sent : List (Nat × TCPPacket) := []
  deriving DecidableEq

namespace SentLog

/-- The position behind a segment. -/
def segmentEnd (x : Nat × TCPPacket) : Nat := x.1 + x.2.sequenceLength.toNat

/-- The end of the furthest of some segments. -/
def furthestEnd (sent : List (Nat × TCPPacket)) : Nat := (sent.map segmentEnd).foldl max 0

/-- The end of the furthest segment ever sent. -/
def furthest (h : SentLog) : Nat := furthestEnd h.sent

theorem furthestEnd_concat (sent : List (Nat × TCPPacket)) (x : Nat × TCPPacket) :
    furthestEnd (sent ++ [x]) = max (furthestEnd sent) (segmentEnd x) := by
  unfold furthestEnd
  rw [List.map_append, List.foldl_append]
  rfl

theorem segmentEnd_le {sent : List (Nat × TCPPacket)} {x : Nat × TCPPacket} (hx : x ∈ sent) :
    segmentEnd x ≤ furthestEnd sent := by
  induction sent using List.reverseRecOn with
  | nil => cases hx
  | append_singleton sent y ih =>
    rw [furthestEnd_concat]
    rcases List.mem_append.1 hx with hx | hx
    · exact (ih hx).trans (Nat.le_max_left _ _)
    · rw [List.mem_singleton.1 hx]
      exact Nat.le_max_right _ _

theorem exists_segmentEnd {sent : List (Nat × TCPPacket)} (h : sent ≠ []) :
    ∃ x ∈ sent, segmentEnd x = furthestEnd sent := by
  induction sent using List.reverseRecOn with
  | nil => exact absurd rfl h
  | append_singleton sent y ih =>
    rw [furthestEnd_concat]
    by_cases hle : furthestEnd sent ≤ segmentEnd y
    · exact ⟨y, by simp, (Nat.max_eq_right hle).symm⟩
    · have hne : sent ≠ [] := by
        rintro rfl
        exact hle (Nat.zero_le _)
      obtain ⟨x, hx, heq⟩ := ih hne
      refine ⟨x, List.mem_append_left _ hx, heq.trans ?_⟩
      rw [Nat.max_eq_left (by omega)]

end SentLog

namespace Endpoint

/-- Records where `snd_una` stands and what a step sends. -/
def observeSent (e : Endpoint) (_ : Input) (e' : Endpoint) (h : SentLog) : SentLog :=
  let una := if e.rc.initialized then h.una + Serial.dist e.rc.snd.sndUna e'.rc.snd.sndUna else 0
  let new := (sentPackets e'.dispatched).drop h.sent.length
  ⟨una, h.sent ++ new.map fun q => (una + Serial.dist e'.rc.snd.sndUna q.sequenceNumber, q)⟩

/-- The machine of an endpoint with a record of what it has sent. -/
def sentMachine : Transition.Machine (Endpoint × SentLog) Input Abort := machine.observed observeSent

/-- Less than half of the sequence numbers are unacknowledged after a step. -/
def fewUnacknowledged (s : Endpoint × SentLog) (i : Input) : Prop :=
  sentMachine.leads i s fun t => decide (t.2.furthest < t.2.una + 2147483648)

instance (s : Endpoint × SentLog) (i : Input) : Decidable (fewUnacknowledged s i) :=
  inferInstanceAs (Decidable (sentMachine.leads i s _ = true))

instance (i : Input) (s : Endpoint × SentLog) : Decidable (sentMachine.enabled i s) :=
  inferInstanceAs (Decidable (enabled i s.1))

/-- The send variables stand at positions in order; the segment that opened the connection may have been empty, and
then it counts as one position. -/
structure Ordered (s : Endpoint × SentLog) : Prop where
  log : s.2.sent.map Prod.snd = sentPackets s.1.dispatched
  numbers : ∀ x ∈ s.2.sent, x.2.sequenceNumber = seqAt x.1
  few : s.2.furthest < s.2.una + 2147483648
  before : s.1.rc.initialized = false →
    s.1.rc.snd = {} ∧ s.1.rc.timeoutEvent = none ∧ s.2 = {} ∧ (s.1.deleted = true ∨ s.1.Unopened)
  after : s.1.rc.initialized = true →
    ∃ n, SndAt s.1.rc.snd s.2.una n (max 1 s.2.furthest) ∧ s.2.una ≤ n ∧ n ≤ max 1 s.2.furthest

section

variable {e e' : Endpoint} {h : SentLog} {i : Input}

/-- A step that sends nothing records nothing but the position of `snd_una`. -/
theorem observeSent_silent (hlog : h.sent.map Prod.snd = sentPackets e.dispatched)
    (hs : sentPackets e'.dispatched = sentPackets e.dispatched) : observeSent e i e' h =
      ⟨if e.rc.initialized then h.una + Serial.dist e.rc.snd.sndUna e'.rc.snd.sndUna else 0, h.sent⟩ := by
  have hnone : (sentPackets e'.dispatched).drop h.sent.length = [] := by
    rw [hs, ← hlog, List.drop_eq_nil_of_le (by simp)]
  unfold observeSent
  simp only
  rw [hnone, List.map_nil, List.append_nil]

theorem observeSent_sent {q : TCPPacket} (hlog : h.sent.map Prod.snd = sentPackets e.dispatched)
    (hs : sentPackets e'.dispatched = sentPackets e.dispatched ++ [q]) {u : Nat}
    (huna : u = if e.rc.initialized then h.una + Serial.dist e.rc.snd.sndUna e'.rc.snd.sndUna else 0) :
    observeSent e i e' h = ⟨u, h.sent ++ [(u + Serial.dist e'.rc.snd.sndUna q.sequenceNumber, q)]⟩ := by
  have hnew : (sentPackets e'.dispatched).drop h.sent.length = [q] := by
    rw [hs, ← hlog, List.drop_left' (by simp)]
  unfold observeSent
  simp only
  rw [hnew, ← huna]
  rfl

/-- A number is at no distance from itself. -/
theorem observeSent_una (hu : e'.rc.snd.sndUna = e.rc.snd.sndUna) (h0 : e.rc.initialized = false → h.una = 0) :
    (if e.rc.initialized then h.una + Serial.dist e.rc.snd.sndUna e'.rc.snd.sndUna else 0) = h.una := by
  cases hi : e.rc.initialized with
  | false => rw [if_neg Bool.false_ne_true, h0 hi]
  | true => rw [if_pos rfl, hu, Serial.dist_self, Nat.add_zero]

theorem sequenceLength_sent {p q : TCPPacket} (hp : PacketSent e e' p q) : q.sequenceLength = p.sequenceLength := by
  unfold TCPPacket.sequenceLength
  rw [hp.syn, hp.fin, hp.length]

theorem setSequenceNumber_first {rc : TCPTahoeReliabilityContext} (hi : rc.initialized = false) (p : TCPPacket) :
    (setSequenceNumber rc p).1.sequenceNumber = iss ∧
      (setSequenceNumber rc p).2.snd = (rc.snd.setSndUna iss).setSndNxt (iss + 1) := by
  unfold setSequenceNumber
  rw [hi]
  exact ⟨rfl, rfl⟩

theorem setSequenceNumber_next {rc : TCPTahoeReliabilityContext} (hi : rc.initialized = true) (p : TCPPacket) :
    (setSequenceNumber rc p).1.sequenceNumber = rc.snd.sndNxt ∧
      (setSequenceNumber rc p).2.snd = rc.snd.setSndNxt (rc.snd.sndNxt + p.sequenceLength) := by
  unfold setSequenceNumber
  rw [hi]
  exact ⟨rfl, rfl⟩

theorem sequenceLength_le_one {p : TCPPacket} (hp : p.IsEmpty ∨ p.IsSyn) : p.sequenceLength.toNat ≤ 1 := by
  rcases hp with hp | hp
  · rw [hp.sequenceLength]
    exact Nat.zero_le 1
  · simp [TCPPacket.sequenceLength, hp.syn]

/-- The first segment: whatever it is, `snd_nxt` is now one behind the initial number. -/
theorem Ordered.first {p q : TCPPacket} {vs : List ProtocolEvent} (ho : Ordered (e, h))
    (hi : e.rc.initialized = false) (hlen : p.sequenceLength.toNat ≤ 1)
    (hs : Sends { e with queue := vs } p q e') : Ordered (e', observeSent e i e' h) := by
  obtain ⟨hsnd, -, hh, -⟩ := ho.before hi
  replace hsnd : e.rc.snd = {} := hsnd
  replace hh : h = {} := hh
  subst hh
  obtain ⟨hfirst, hvar⟩ := setSequenceNumber_first hi p
  have hnum : q.sequenceNumber = iss := hs.number.trans hfirst
  have hsnd' : e'.rc.snd = ⟨iss + 1, iss, iss + 1⟩ := by
    rw [hs.snd, hvar, hsnd]
    decide
  have hobs := observeSent_sent (i := i) (u := 0) ho.log hs.sent (by rw [hi]; rfl)
  have hpos : (0 : Nat) + Serial.dist e'.rc.snd.sndUna q.sequenceNumber = 0 := by
    rw [hnum, hsnd']
    rfl
  rw [hpos] at hobs
  have hfar : SentLog.furthestEnd [(0, q)] = p.sequenceLength.toNat := by
    rw [← sequenceLength_sent hs.toPacketSent]
    simp [SentLog.furthestEnd, SentLog.segmentEnd]
  rw [hobs]
  have hsent : sentPackets e.dispatched = [] := ho.log.symm
  refine ⟨?_, ?_, ?_, ?_, fun _ => ⟨1, ?_, Nat.zero_le 1, Nat.le_max_left _ _⟩⟩
  · exact (hs.sent.trans (congrArg (· ++ [q]) hsent)).symm
  · intro x hx
    rw [List.mem_singleton.1 hx]
    exact hnum
  · show SentLog.furthestEnd [(0, q)] < _
    omega
  · intro hinit
    rw [hs.initialized] at hinit
    cases hinit
  · show SndAt e'.rc.snd 0 1 (max 1 (SentLog.furthestEnd [(0, q)]))
    rw [hfar, Nat.max_eq_left hlen, hsnd']
    exact ⟨rfl, rfl, rfl⟩

/-- A further segment leaves at `snd_nxt`. -/
theorem Ordered.further {p q : TCPPacket} {vs : List ProtocolEvent} (ho : Ordered (e, h))
    (hi : e.rc.initialized = true) (hs : Sends { e with queue := vs } p q e')
    (hfew : (observeSent e i e' h).furthest < (observeSent e i e' h).una + 2147483648) :
    Ordered (e', observeSent e i e' h) := by
  obtain ⟨n, hat, hun, hnm⟩ := ho.after hi
  have hlen := sequenceLength_sent hs.toPacketSent
  obtain ⟨hnext, hvar⟩ := setSequenceNumber_next hi p
  have hnum : q.sequenceNumber = seqAt n := (hs.number.trans hnext).trans hat.sndNxt
  have hsnd : e'.rc.snd = e.rc.snd.setSndNxt (seqAt (n + q.sequenceLength.toNat)) := by
    have hnxt : e.rc.snd.sndNxt = seqAt n := hat.sndNxt
    rw [hs.snd, hvar, hnxt, hlen, ← seqAt_add, BitVec.ofNat_toNat, BitVec.setWidth_eq]
  have huna : e'.rc.snd.sndUna = e.rc.snd.sndUna := by rw [hsnd]; rfl
  have hobs := observeSent_sent (i := i) ho.log hs.sent rfl
  rw [observeSent_una huna (fun h0 => by rw [hi] at h0; cases h0)] at hobs
  have hfar := ho.few
  simp only at hat hun hnm hfar
  have hpos : h.una + Serial.dist e'.rc.snd.sndUna q.sequenceNumber = n := by
    rw [huna, hnum, hat.sndUna, dist_seqAt hun (by omega)]
    omega
  rw [hpos] at hobs
  have hend : (observeSent e i e' h).furthest = max h.furthest (n + q.sequenceLength.toNat) := by
    rw [hobs]
    exact SentLog.furthestEnd_concat _ _
  have hlast : (observeSent e i e' h).una = h.una := by rw [hobs]
  rw [hend, hlast] at hfew
  rw [hobs] at hend ⊢
  refine ⟨?_, ?_, ?_, ?_, fun _ => ⟨n + q.sequenceLength.toNat, ?_, ?_, ?_⟩⟩
  · rw [hs.sent, List.map_append, ho.log]
    rfl
  · intro x hx
    rcases List.mem_append.1 hx with hx | hx
    · exact ho.numbers x hx
    · rw [List.mem_singleton.1 hx]
      exact hnum
  · rw [hend]
    exact hfew
  · intro hinit
    rw [hs.initialized] at hinit
    cases hinit
  · have hnew := hat.setSndNxt (k := n + q.sequenceLength.toNat) (by omega) (by omega)
    rw [Nat.max_assoc, ← hend] at hnew
    rw [hsnd]
    exact hnew
  · show h.una ≤ _
    omega
  · simp only [hend]
    omega

/-- Before the first segment the record is empty. -/
theorem Ordered.una_eq_zero (ho : Ordered (e, h)) (h0 : e.rc.initialized = false) : h.una = 0 := by
  have hh : h = {} := (ho.before h0).2.2.1
  rw [hh]

/-- A step that leaves the send variables and the timer alone and sends nothing. -/
theorem Ordered.silent (ho : Ordered (e, h)) (hv : e'.sendView = e.sendView)
    (hs : sentPackets e'.dispatched = sentPackets e.dispatched)
    (hunopened : e.rc.initialized = false → e'.rc.initialized = false → e'.deleted = true ∨ e'.Unopened) :
    Ordered (e', observeSent e i e' h) := by
  have hsnd : e'.rc.snd = e.rc.snd := congrArg SendView.snd hv
  have hinit : e'.rc.initialized = e.rc.initialized := congrArg SendView.initialized hv
  have htimer : e'.rc.timeoutEvent = e.rc.timeoutEvent := congrArg SendView.timeoutEvent hv
  have hsame : observeSent e i e' h = h := by
    rw [observeSent_silent ho.log hs, observeSent_una (by rw [hsnd]) ho.una_eq_zero]
  rw [hsame]
  refine ⟨ho.log.trans hs.symm, ho.numbers, ho.few, fun h0 => ?_, fun h1 => ?_⟩
  · have h0' : e.rc.initialized = false := hinit ▸ h0
    obtain ⟨h₁, h₂, h₃, -⟩ := ho.before h0'
    exact ⟨hsnd.trans h₁, htimer.trans h₂, h₃, hunopened h0' h0⟩
  · simp only [hsnd]
    exact ho.after (hinit ▸ h1)

/-- No ACK number is new before the first segment. -/
theorem Ordered.initialized_of_acked {a : BitVec 32} (ho : Ordered (e, h))
    (hnew : betweenEqualRight e.rc.snd.sndUna a e.rc.snd.sndMax = true) : e.rc.initialized = true := by
  by_contra h0
  have hzero : e.rc.snd = {} := (ho.before (by simpa using h0)).1
  rw [hzero] at hnew
  unfold betweenEqualRight at hnew
  rw [Bool.and_eq_true, lessThanOrEqual_iff] at hnew
  rcases hnew.2 with hlt | heq
  · have := lessThan_asymm hlt
    rw [hnew.1] at this
    cases this
  · rw [heq, lessThan_self] at hnew
    cases hnew.1

/-- A new ACK number stands at a position that has been sent, and `snd_una` goes there. -/
theorem Ordered.acked {a : BitVec 32} (ho : Ordered (e, h))
    (hnew : betweenEqualRight e.rc.snd.sndUna a e.rc.snd.sndMax = true)
    (hsnd : e'.rc.snd = e.rc.snd.acknowledge a) (hinit : e'.rc.initialized = e.rc.initialized)
    (hs : sentPackets e'.dispatched = sentPackets e.dispatched)
    (hfew : (observeSent e i e' h).furthest < (observeSent e i e' h).una + 2147483648) :
    Ordered (e', observeSent e i e' h) := by
  have hi := ho.initialized_of_acked hnew
  obtain ⟨n, hat, hun, hnm⟩ := ho.after hi
  have hfar := ho.few
  simp only at hat hun hnm hfar
  obtain ⟨k, hk, huk, hkm⟩ := hat.betweenEqualRight (by omega) (by omega) hnew
  have hat' := hat.acknowledge (a := k) hkm (by omega) (by omega) (by omega)
  have huna : h.una + Serial.dist e.rc.snd.sndUna e'.rc.snd.sndUna = k := by
    rw [hsnd, hk, hat'.sndUna, hat.sndUna, dist_seqAt (by omega) (by omega)]
    omega
  have hobs := observeSent_silent (i := i) ho.log hs
  rw [hi, if_pos rfl, huna] at hobs
  rw [hobs] at hfew ⊢
  refine ⟨ho.log.trans hs.symm, ho.numbers, hfew, fun h0 => ?_, fun _ => ⟨max n k, ?_, ?_, ?_⟩⟩
  · simp only [hinit, hi] at h0
    cases h0
  · simp only [hsnd, hk]
    exact hat'
  · exact Nat.le_max_right _ _
  · exact Nat.max_le.2 ⟨hnm, hkm⟩

/-- A retransmission goes back to `snd_una`; there is none before the first segment. -/
theorem Ordered.rewound (ho : Ordered (e, h)) (hopen : e.rc.initialized = true)
    (hsnd : e'.rc.snd = e.rc.snd.setSndNxt e.rc.snd.sndUna) (hinit : e'.rc.initialized = e.rc.initialized)
    (hs : sentPackets e'.dispatched = sentPackets e.dispatched) : Ordered (e', observeSent e i e' h) := by
  have hsame : observeSent e i e' h = h := by
    rw [observeSent_silent ho.log hs, observeSent_una (by rw [hsnd]; rfl) ho.una_eq_zero]
  obtain ⟨n, hat, hun, hnm⟩ := ho.after hopen
  have hfar := ho.few
  simp only at hat hun hnm hfar
  rw [hsame]
  refine ⟨ho.log.trans hs.symm, ho.numbers, ho.few, fun h0 => ?_, fun _ => ⟨h.una, ?_, Nat.le_refl _, hun.trans hnm⟩⟩
  · simp only [hinit, hopen] at h0
    cases h0
  · have hnew := hat.setSndNxt (k := h.una) (by omega) (by omega)
    rw [← hat.sndUna, Nat.max_eq_left (by omega)] at hnew
    rw [hsnd]
    exact hnew

theorem Ordered.step {s t : Endpoint × SentLog} (ho : Ordered s) (hen : sentMachine.enabled i s)
    (hc : fewUnacknowledged s i) (hs : sentMachine.step i s = .ok t) : Ordered t := by
  obtain ⟨e, h⟩ := s
  obtain ⟨e', h'⟩ := t
  have hfew : h'.furthest < h'.una + 2147483648 := by
    obtain ⟨u, hu, hq⟩ := Transition.Machine.leads_iff.1 hc
    rw [hs] at hu
    cases hu
    exact of_decide_eq_true hq
  obtain ⟨hstep, hobs⟩ := Transition.Machine.observed_step.1 hs
  simp only at hstep hobs
  replace hstep : Endpoint.step i e = .ok e' := hstep
  replace hen : enabled i e := hen
  subst hobs
  cases step_sendStep hstep with
  | same hv hsent =>
    refine ho.silent hv hsent fun h0 h0' => ?_
    rcases (ho.before h0).2.2.2 with hd | hu
    · exact .inl (step_deleted hd hstep)
    · rcases hu.step hen hstep with hd | hinit | hu
      · exact .inl hd
      · rw [h0'] at hinit
        cases hinit
      · exact .inr hu
  | sent _ hdel hq hsends =>
    cases hi : e.rc.initialized with
    | false =>
      rcases (ho.before hi).2.2.2 with hd | hu
      · rw [hdel] at hd
        cases hd
      · exact ho.first hi (sequenceLength_le_one (hu.head hq)) hsends
    | true => exact ho.further hi hsends hfew
  | acked _ _ hnew hsnd hinit _ _ hsent => exact ho.acked hnew hsnd hinit hsent hfew
  | rewound hsnd hinit htimer _ hsent =>
    -- the timer does not run and nothing is outstanding before the first segment
    refine ho.rewound ?_ hsnd hinit hsent
    by_contra h0
    obtain ⟨hz, ht, -⟩ := ho.before (by simpa using h0)
    simp only at hz ht
    rcases htimer with ⟨t, -, htimer, -⟩ | ⟨-, hlt⟩
    · rw [ht] at htimer
      cases htimer
    · rw [hz, lessThan_self] at hlt
      cases hlt

/-- The order holds along every run that never has half of the sequence numbers unacknowledged. -/
theorem run_ordered {id : SocketId} {l r : AddressPort} {is : List Input} {s : Endpoint × SentLog}
    (h : sentMachine.Run fewUnacknowledged (create id l r, {}) is s) : Ordered s := by
  refine h.invariant Ordered ⟨rfl, ?_, ?_, fun _ => ⟨rfl, rfl, rfl, .inr (.create id l r)⟩, ?_⟩
    fun _ _ _ ho hen hc hs => ho.step hen hc hs
  · intro x hx
    cases hx
  · show 0 < 0 + 2147483648
    omega
  · intro hinit
    cases hinit

/-- Once the SYN has been sent the empty segment that may have come first no longer matters. -/
theorem Ordered.one_le_furthest {s : Endpoint × SentLog} (ho : Ordered s)
    (hsyn : ∃ p ∈ sentPackets s.1.dispatched, p.syn = true) : 1 ≤ s.2.furthest ∧ s.1.rc.initialized = true := by
  obtain ⟨p, hp, hs⟩ := hsyn
  rw [← ho.log] at hp
  obtain ⟨x, hx, rfl⟩ := List.mem_map.1 hp
  constructor
  · have hle := SentLog.segmentEnd_le hx
    have hone : x.2.sequenceLength.toNat = 1 := by simp [TCPPacket.sequenceLength, hs]
    unfold SentLog.segmentEnd at hle
    unfold SentLog.furthest
    omega
  · by_contra hinit
    have hnone := (ho.before (by simpa using hinit)).2.2.1
    rw [hnone] at hx
    cases hx

/-- The acceptable ACK numbers are those from `snd_una` to the end of what has been sent. -/
theorem isValidAckNumber_iff {rc : TCPTahoeReliabilityContext} {u n m : Nat} (hat : SndAt rc.snd u n m) (hum : u ≤ m)
    (hlt : m < u + 2147483648) (p : TCPPacket) :
    isValidAckNumber rc p = true ↔ ∃ a, p.ackNumber = seqAt a ∧ u ≤ a ∧ a ≤ m := by
  constructor
  · exact fun h => hat.betweenEqual hum hlt h
  · rintro ⟨a, ha, hua, ham⟩
    unfold isValidAckNumber
    rw [ha]
    exact hat.betweenEqual_of_le hlt hua ham

/-- `snd_una` of a recorded step: it moves forward only, and not beyond what has been sent. -/
theorem una_le {s t : Endpoint × SentLog} (hinit : s.1.rc.initialized = true)
    (hs : sentMachine.step i s = .ok t) :
    lessThanOrEqual s.1.rc.snd.sndUna t.1.rc.snd.sndUna = true := by
  obtain ⟨hstep, -⟩ := Transition.Machine.observed_step.1 hs
  cases step_sendStep (i := i) hstep with
  | same hv _ =>
    rw [show t.1.rc.snd = s.1.rc.snd from congrArg SendView.snd hv]
    exact lessThanOrEqual_self _
  | sent _ _ _ hsends =>
    have hu : t.1.rc.snd.sndUna = s.1.rc.snd.sndUna := by
      rw [hsends.snd, (setSequenceNumber_next hinit _).2]
      rfl
    rw [hu]
    exact lessThanOrEqual_self _
  | acked _ _ hnew hsnd _ _ _ _ =>
    have hu : ∀ k, (s.1.rc.snd.acknowledge k).sndUna = k := by
      intro k
      unfold OutstandingDataContext.acknowledge
      simp only
      split <;> rfl
    rw [hsnd, hu]
    unfold betweenEqualRight at hnew
    rw [Bool.and_eq_true] at hnew
    exact lessThanOrEqual_iff.2 (.inl hnew.1)
  | rewound hsnd _ _ _ _ =>
    rw [hsnd]
    exact lessThanOrEqual_self _

/-- After the SYN: `snd_una <= snd_nxt <= snd_max` in circular order, `snd_max` is the end of the furthest segment ever
sent, the acceptable ACK numbers are those from `snd_una` to there, and no step moves `snd_una` back. -/
theorem send_sequence_ordered {id : SocketId} {l r : AddressPort} {is : List Input} {s : Endpoint × SentLog}
    (h : sentMachine.Run fewUnacknowledged (create id l r, {}) is s)
    (hsyn : ∃ p ∈ sentPackets s.1.dispatched, p.syn = true) :
    (s.2.sent.map Prod.snd = sentPackets s.1.dispatched ∧ ∀ x ∈ s.2.sent, x.2.sequenceNumber = seqAt x.1) ∧
    (∃ n, SndAt s.1.rc.snd s.2.una n s.2.furthest ∧ s.2.una ≤ n ∧ n ≤ s.2.furthest) ∧
    betweenEqual s.1.rc.snd.sndUna s.1.rc.snd.sndNxt s.1.rc.snd.sndMax = true ∧
    ((∀ x ∈ s.2.sent, SentLog.segmentEnd x ≤ s.2.furthest) ∧ ∃ x ∈ s.2.sent, SentLog.segmentEnd x = s.2.furthest) ∧
    (∀ p, isValidAckNumber s.1.rc p = true ↔ ∃ a, p.ackNumber = seqAt a ∧ s.2.una ≤ a ∧ a ≤ s.2.furthest) ∧
    ∀ i t, sentMachine.enabled i s → fewUnacknowledged s i → sentMachine.step i s = .ok t →
      lessThanOrEqual s.1.rc.snd.sndUna t.1.rc.snd.sndUna = true := by
  have ho := run_ordered h
  obtain ⟨hone, hinit⟩ := ho.one_le_furthest hsyn
  obtain ⟨n, hat, hun, hnm⟩ := ho.after hinit
  have hfew := ho.few
  rw [Nat.max_eq_right hone] at hat hnm
  have hne : s.2.sent ≠ [] := by
    intro hnone
    obtain ⟨p, hp, -⟩ := hsyn
    rw [← ho.log, hnone] at hp
    cases hp
  refine ⟨⟨ho.log, ho.numbers⟩, ⟨n, hat, hun, hnm⟩, ?_, ⟨fun x hx => SentLog.segmentEnd_le hx,
    SentLog.exists_segmentEnd hne⟩, isValidAckNumber_iff hat (hun.trans hnm) hfew, ?_⟩
  · rw [hat.sndNxt]
    exact hat.betweenEqual_of_le hfew hun hnm
  · exact fun i t _ _ hs => una_le hinit hs

/-- A data segment is sent again after a timeout and then acknowledged in part. -/
def rewindScript : List Input :=
  connectScript 5 ++ [.packet (segment 6 2 []), .send ⟨2, [1, 2, 3]⟩, .drain, .drain, .timerFired ⟨2, 1⟩, .drain,
    .drain, .packet (segment 6 4 [])]

theorem send_sequence_ordered_rewind : ∃ s, sentMachine.Run fewUnacknowledged (client, {}) rewindScript s ∧
    s.2.una = 3 ∧ s.2.furthest = 4 ∧ s.1.rc.snd.sndMax = seqAt 4 := by
  have h : (sentMachine.replay fewUnacknowledged rewindScript (client, {})).any (fun s =>
      decide (s.2.una = 3) && decide (s.2.furthest = 4) && (sentPackets s.1.dispatched).any TCPPacket.syn) = true := by
    decide +kernel
  obtain ⟨s, hrun, hq⟩ := Transition.Machine.exists_run h
  simp only [Bool.and_eq_true, decide_eq_true_eq, List.any_eq_true] at hq
  obtain ⟨-, ⟨n, hat, -, -⟩, -⟩ := send_sequence_ordered hrun hq.2
  exact ⟨s, hrun, hq.1.1, hq.1.2, hq.1.2 ▸ hat.sndMax⟩

end

end Endpoint

end Wifu
