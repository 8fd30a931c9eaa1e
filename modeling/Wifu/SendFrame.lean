import Wifu.Frame
import Wifu.ReceiveView
import Wifu.SendInvariant

/-!
# Steps that send nothing

`SendFrame e e'` says that `e'` has the sending side of `e`, with harmless events added to the queue and silent ones
dispatched.  Such a step keeps the invariant of the sending side.
-/

namespace Wifu

/-! ### Harmless events -/

section Harmless

variable {s : SocketId} {q q' : List ProtocolEvent}

theorem ProtocolEvent.Harmless.isResend {v : ProtocolEvent} (h : v.Harmless s) : v.isResend = false := by
  unfold ProtocolEvent.Harmless at h
  unfold ProtocolEvent.isResend
  split at h <;> simp_all

theorem ProtocolEvent.Harmless.sendsData {v : ProtocolEvent} (h : v.Harmless s) : v.sendsData = false := by
  unfold ProtocolEvent.Harmless at h
  unfold ProtocolEvent.sendsData
  split at h <;> simp_all

theorem ProtocolEvent.Harmless.base {v : ProtocolEvent} (h : v.Harmless s) :
    (v.socket = s ∨ ∃ n, v.kind = .connectionEstablished n) ∧
      ∀ s' l r li, v.kind ≠ .connectionInitiated s' l r li := by
  unfold ProtocolEvent.Harmless at h
  split at h <;> simp_all

theorem waiting_harmless (h : ∀ v ∈ q, v.Harmless s) : ∀ p ∈ waiting q, p.IsEmpty := by
  intro p hp
  obtain ⟨v, hv, hvp⟩ := List.mem_filterMap.1 hp
  have hh := h v hv
  unfold ProtocolEvent.packet at hvp
  split at hvp
  · rename_i hk
    cases hvp
    unfold ProtocolEvent.Harmless at hh
    rw [hk] at hh
    exact hh.2
  · cases hvp

theorem resends_append : resends (q ++ q') = resends q + resends q' := List.countP_append

theorem resends_harmless (h : ∀ v ∈ q, v.Harmless s) : resends q = 0 := by
  unfold resends
  rw [List.countP_eq_zero]
  intro v hv
  simp [(h v hv).isResend]

theorem Quiet.append (h : Quiet q) (h' : ∀ v ∈ q', v.Harmless s) : Quiet (q ++ q') := by
  intro v hv
  rcases List.mem_append.1 hv with hv | hv
  · exact h v hv
  · exact (h' v hv).sendsData

theorem OneFin.append_empty {ps qs : List TCPPacket} (h : OneFin ps) (hq : ∀ q ∈ qs, q.IsEmpty) :
    OneFin (ps ++ qs) := by
  obtain ⟨as, p, bs, rfl, hp, has, hbs⟩ := h
  refine ⟨as, p, bs ++ qs, by simp, hp, has, fun q hq' => ?_⟩
  rcases List.mem_append.1 hq' with hq' | hq'
  · exact hbs q hq'
  · exact hq q hq'

end Harmless

namespace Endpoint

/-- `e'` has the sending side of `e`. -/
structure SendFrame (e e' : Endpoint) : Prop where
  snd : e'.rc.snd = e.rc.snd
  initialized : e'.rc.initialized = e.rc.initialized
  cccSnd : e'.ccc.snd = e.ccc.snd
  sendBuffer : e'.socket.sendBuffer = e.socket.sendBuffer
  savedSendEvent : e'.savedSendEvent = e.savedSendEvent
  id : e'.socket.id = e.socket.id
  deleted : e'.deleted = e.deleted
  timer : e'.rc.timeoutEvent.isSome = true → e.rc.timeoutEvent.isSome = true ∨ e.socket.sendBuffer ≠ []
  timers : e.TimersOk → e'.TimersOk
  queue : ∃ q, e'.queue = e.queue ++ q ∧ (∀ v ∈ q, v.Harmless e.socket.id) ∧
    (e'.cmc.state = .closed → e.cmc.state = .closed ∨ ⟨e.socket.id, .deleteSocket⟩ ∈ q)
  dispatched : ∃ d, e'.dispatched = e.dispatched ++ d ∧ ∀ f ∈ d, f.Silent
  stateOpen : e.cmc.state.isOpen = true → e'.cmc.state.isOpen = true
  stateClosing : e.cmc.state.isClosing = true → e'.cmc.state.isClosing = true
  early : e'.cmc.state.isEarly = true → e.cmc.state.isEarly = true

namespace SendFrame

variable {e e' e'' : Endpoint}

theorem refl (e : Endpoint) : SendFrame e e where
  snd := rfl
  initialized := rfl
  cccSnd := rfl
  sendBuffer := rfl
  savedSendEvent := rfl
  id := rfl
  deleted := rfl
  timer := .inl
  timers := fun h => h
  queue := ⟨[], by simp, by simp, .inl⟩
  dispatched := ⟨[], by simp, by simp⟩
  stateOpen := fun h => h
  stateClosing := fun h => h
  early := fun h => h

theorem trans (h : SendFrame e e') (h' : SendFrame e' e'') : SendFrame e e'' where
  snd := h'.snd.trans h.snd
  initialized := h'.initialized.trans h.initialized
  cccSnd := h'.cccSnd.trans h.cccSnd
  sendBuffer := h'.sendBuffer.trans h.sendBuffer
  savedSendEvent := h'.savedSendEvent.trans h.savedSendEvent
  id := h'.id.trans h.id
  deleted := h'.deleted.trans h.deleted
  timer := by
    intro ht
    rcases h'.timer ht with ht | hbuf
    · exact h.timer ht
    · rw [h.sendBuffer] at hbuf
      exact .inr hbuf
  timers := fun ht => h'.timers (h.timers ht)
  queue := by
    obtain ⟨q, hq, hh, hc⟩ := h.queue
    obtain ⟨q', hq', hh', hc'⟩ := h'.queue
    refine ⟨q ++ q', by rw [hq', hq, List.append_assoc], ?_, ?_⟩
    · intro v hv
      rcases List.mem_append.1 hv with hv | hv
      · exact hh v hv
      · exact h.id ▸ hh' v hv
    · intro hstate
      rcases hc' hstate with hstate | hmem
      · rcases hc hstate with hstate | hmem
        · exact .inl hstate
        · exact .inr (List.mem_append_left _ hmem)
      · rw [h.id] at hmem
        exact .inr (List.mem_append_right _ hmem)
  dispatched := by
    obtain ⟨d, hd, hs⟩ := h.dispatched
    obtain ⟨d', hd', hs'⟩ := h'.dispatched
    refine ⟨d ++ d', by rw [hd', hd, List.append_assoc], ?_⟩
    intro f hf
    rcases List.mem_append.1 hf with hf | hf
    · exact hs f hf
    · exact hs' f hf
  stateOpen := fun ho => h'.stateOpen (h.stateOpen ho)
  stateClosing := fun ho => h'.stateClosing (h.stateClosing ho)
  early := fun ho => h.early (h'.early ho)

theorem accepted (h : SendFrame e e') : e'.accepted = e.accepted := by
  obtain ⟨d, hd, hs⟩ := h.dispatched
  unfold Endpoint.accepted
  rw [hd, acceptedBytes_silent hs]

theorem sent (h : SendFrame e e') {p : TCPPacket} (hp : p ∈ sentPackets e'.dispatched) :
    p ∈ sentPackets e.dispatched ∨ p.IsEmpty := by
  obtain ⟨d, hd, hs⟩ := h.dispatched
  rw [hd, sentPackets_append, List.mem_append] at hp
  exact hp.imp_right (sentPackets_silent hs p)

theorem finSent (h : SendFrame e e') : Wifu.finSent e'.dispatched = Wifu.finSent e.dispatched := by
  obtain ⟨d, hd, hs⟩ := h.dispatched
  rw [hd, finSent_silent hs]

theorem base (h : SendFrame e e') (hb : e.SendBase) : e'.SendBase := by
  obtain ⟨q, hq, hh, hc⟩ := h.queue
  refine ⟨h.initialized ▸ hb.initialized, h.deleted ▸ hb.deleted, ?_, h.sendBuffer ▸ hb.buffer_le, ?_,
    h.timers hb.timers, ?_, ?_, ?_, ?_⟩
  · rw [h.accepted]
    intro p hp
    rcases h.sent hp with hp | hp
    · exact hb.sent p hp
    · exact .of_isEmpty hp
  · rw [h.sendBuffer]
    intro ht
    rcases h.timer ht with ht | hbuf
    · exact hb.timer ht
    · exact hbuf
  · rw [h.accepted]
    exact fun he => hb.early (h.early he)
  · rw [h.savedSendEvent]
    intro hs
    have he := hb.saved hs
    rw [← Bool.not_eq_true] at he ⊢
    exact fun h' => he (h.early h')
  · rw [hq, h.id]
    intro v hv
    rcases List.mem_append.1 hv with hv | hv
    · exact hb.queue v hv
    · exact (hh v hv).base
  · rw [hq, h.id]
    intro hstate
    rcases hc hstate with hstate | hmem
    · exact List.mem_append_left _ (hb.closed hstate)
    · exact List.mem_append_right _ hmem

theorem openMode (h : SendFrame e e') {u n m c : Nat} (hm : OpenMode e u n m c) : OpenMode e' u n m c := by
  obtain ⟨q, hq, hh, -⟩ := h.queue
  have hempty := waiting_harmless hh
  refine ⟨h.snd ▸ hm.rc, h.cccSnd ▸ hm.ccc, h.accepted ▸ hm.order, ?_, ?_, ?_, ?_, h.stateOpen hm.state,
    h.finSent.trans hm.finSent⟩
  · rw [h.sendBuffer, h.accepted]
    exact hm.buffer
  · rw [h.accepted, hq, waiting_append]
    exact hm.pending.append_empty hempty
  · rw [hq, resends_append, hm.resends, resends_harmless hh]
  · rw [hq, waiting_append]
    rintro ⟨p, hp, hsyn⟩
    refine (hm.quiet ⟨p, ?_, hsyn⟩).append hh
    rcases List.mem_append.1 hp with hp | hp
    · exact hp
    · rw [(hempty p hp).syn] at hsyn
      cases hsyn

theorem resendMode (h : SendFrame e e') {u m c : Nat} (hm : ResendMode e u m c) : ResendMode e' u m c := by
  obtain ⟨q, hq, hh, -⟩ := h.queue
  refine ⟨h.snd ▸ hm.rc, h.cccSnd ▸ hm.ccc, h.accepted ▸ hm.order, ?_, ?_, ?_, ?_, h.stateOpen hm.state,
    h.finSent.trans hm.finSent⟩
  · rw [h.sendBuffer, h.accepted]
    exact hm.buffer
  · rw [hq, waiting_append]
    intro p hp
    rcases List.mem_append.1 hp with hp | hp
    · exact hm.empty p hp
    · exact waiting_harmless hh p hp
  · rw [hq, resends_append, hm.resends, resends_harmless hh]
  · rw [hq]
    exact hm.quiet.append hh

theorem finWaitingMode (h : SendFrame e e') (hm : FinWaitingMode e) : FinWaitingMode e' := by
  obtain ⟨q, hq, hh, -⟩ := h.queue
  refine ⟨?_, ?_, h.sendBuffer.trans hm.buffer, h.savedSendEvent.trans hm.savedSendEvent, ?_, ?_,
    h.stateClosing hm.state, h.finSent.trans hm.finSent⟩
  · rw [h.snd, h.accepted]
    exact hm.rc
  · rw [h.cccSnd, h.accepted]
    exact hm.ccc
  · rw [hq, waiting_append]
    exact hm.fin.append_empty (waiting_harmless hh)
  · rw [hq, resends_append, hm.resends, resends_harmless hh]

theorem finSentMode (h : SendFrame e e') {strict : Prop} {u n c k : Nat} (hm : FinSentMode strict e u n c k) :
    FinSentMode strict e' u n c k := by
  obtain ⟨q, hq, hh, -⟩ := h.queue
  have hempty := waiting_harmless hh
  have happend (he : ∀ p ∈ waiting e.queue, p.IsEmpty) : ∀ p ∈ waiting e.queue ++ waiting q, p.IsEmpty := by
    intro p hp
    rcases List.mem_append.1 hp with hp | hp
    · exact he p hp
    · exact hempty p hp
  refine ⟨?_, h.cccSnd ▸ hm.ccc, ?_, h.accepted ▸ hm.order, h.accepted ▸ hm.once,
    h.savedSendEvent.trans hm.savedSendEvent, ?_, h.stateClosing hm.state, h.finSent.trans hm.finSent⟩
  · rw [h.snd, h.accepted]
    exact hm.rc
  · rw [h.sendBuffer, h.accepted]
    exact hm.buffer
  · rw [hq, resends_append, resends_harmless hh, waiting_append, h.accepted, Nat.add_zero]
    rcases hm.queue with ⟨hr, he, hn⟩ | ⟨hr, he, hn⟩ | ⟨hr, hf, hn⟩
    · exact .inl ⟨hr, happend he, hn⟩
    · exact .inr (.inl ⟨hr, happend he, hn⟩)
    · exact .inr (.inr ⟨hr, hf.append_empty hempty, hn⟩)

theorem mode (h : SendFrame e e') {strict : Prop} (hm : SendMode strict e) : SendMode strict e' := by
  cases hm with
  | sending u n m c hm => exact .sending u n m c (h.openMode hm)
  | resending u m c hm => exact .resending u m c (h.resendMode hm)
  | finWaiting hm => exact .finWaiting (h.finWaitingMode hm)
  | finSent u n c k hm => exact .finSent u n c k (h.finSentMode hm)

/-! ### Handlers that send nothing -/

/-- Only fields that the sending side does not read differ. -/
theorem of_same (h : e'.rc.snd = e.rc.snd ∧ e'.rc.initialized = e.rc.initialized ∧
      e'.rc.timeoutEvent = e.rc.timeoutEvent ∧ e'.ccc = e.ccc ∧ e'.cmc.state = e.cmc.state ∧
      e'.socket.sendBuffer = e.socket.sendBuffer ∧ e'.socket.id = e.socket.id ∧
      e'.savedSendEvent = e.savedSendEvent ∧ e'.deleted = e.deleted ∧ e'.queue = e.queue ∧
      e'.dispatched = e.dispatched ∧ e'.nextTimer = e.nextTimer) : SendFrame e e' := by
  obtain ⟨hsnd, hinit, htimer, hccc, hcmc, hbuf, hid, hsaved, hdel, hq, hd, hn⟩ := h
  refine ⟨hsnd, hinit, by rw [hccc], hbuf, hsaved, hid, hdel, by rw [htimer]; exact .inl, ?_,
    ⟨[], by simp [hq], by simp, ?_⟩, ⟨[], by simp [hd], by simp⟩, by rw [hcmc]; exact fun h => h,
    by rw [hcmc]; exact fun h => h, by rw [hcmc]; exact fun h => h⟩
  · intro ht
    refine ⟨?_, ?_, ?_⟩
    · rw [htimer, hn]
      exact ht.timeoutEvent
    · rw [hccc, hn]
      exact ht.probeTimer
    · rw [htimer, hccc]
      exact ht.differ
  · rw [hcmc]
    exact .inl

theorem enqueueFor (e : Endpoint) {s : SocketId} {k : ProtocolEventKind}
    (h : (⟨s, k⟩ : ProtocolEvent).Harmless e.socket.id) : SendFrame e (e.enqueueFor s k) where
  snd := rfl
  initialized := rfl
  cccSnd := rfl
  sendBuffer := rfl
  savedSendEvent := rfl
  id := rfl
  deleted := rfl
  timer := .inl
  timers := fun h => ⟨h.1, h.2, h.3⟩
  queue := ⟨[⟨s, k⟩], rfl, by simpa using h, .inl⟩
  dispatched := ⟨[], by simp [Endpoint.enqueueFor], by simp⟩
  stateOpen := fun h => h
  stateClosing := fun h => h
  early := fun h => h

theorem dispatch (e : Endpoint) {f : FrameworkEvent} (h : f.Silent) : SendFrame e (e.dispatch f) where
  snd := rfl
  initialized := rfl
  cccSnd := rfl
  sendBuffer := rfl
  savedSendEvent := rfl
  id := rfl
  deleted := rfl
  timer := .inl
  timers := fun h => ⟨h.1, h.2, h.3⟩
  queue := ⟨[], by simp [Endpoint.dispatch], by simp, .inl⟩
  dispatched := ⟨[f], rfl, by simpa using h⟩
  stateOpen := fun h => h
  stateClosing := fun h => h
  early := fun h => h

theorem dispatchTimeout (e : Endpoint) (s : SocketId) : SendFrame e (e.dispatchTimeout s) where
  snd := rfl
  initialized := rfl
  cccSnd := rfl
  sendBuffer := rfl
  savedSendEvent := rfl
  id := rfl
  deleted := rfl
  timer := .inl
  timers := fun h => ⟨fun t ht => Nat.lt_succ_of_lt (h.1 t ht), fun t ht => Nat.lt_succ_of_lt (h.2 t ht), h.3⟩
  queue := ⟨[], by simp [Endpoint.dispatchTimeout], by simp, .inl⟩
  dispatched := ⟨[_], rfl, by simp [FrameworkEvent.Silent, FrameworkEvent.accepted, FrameworkEvent.sent]⟩
  stateOpen := fun h => h
  stateClosing := fun h => h
  early := fun h => h

theorem createAndDispatchAck (e : Endpoint) : SendFrame e e.createAndDispatchAck :=
  enqueueFor e ⟨rfl, TCPPacket.isEmpty_new _ _⟩

theorem cancelTimer (e : Endpoint) : SendFrame e e.cancelTimer := by
  unfold Endpoint.cancelTimer
  split
  · exact refl e
  · have h : SendFrame e { e with rc := { e.rc with timeoutEvent := none } } :=
      { refl e with
        timer := by simp
        timers := fun h => ⟨by simp, h.2, by simp⟩
        queue := ⟨[], by simp, by simp, .inl⟩
        dispatched := ⟨[], by simp, by simp⟩ }
    exact h.trans (dispatch _ (.of_none rfl rfl))

theorem startTimer (e : Endpoint) (hbuf : e.socket.sendBuffer ≠ []) : SendFrame e e.startTimer := by
  unfold Endpoint.startTimer
  split
  · exact refl e
  · exact {
      snd := rfl
      initialized := rfl
      cccSnd := rfl
      sendBuffer := rfl
      savedSendEvent := rfl
      id := rfl
      deleted := rfl
      timer := fun _ => .inr hbuf
      timers := fun h => by
        refine ⟨?_, fun t ht => Nat.lt_succ_of_lt (h.2 t ht), ?_⟩
        · intro t ht
          cases ht
          exact Nat.lt_succ_self _
        · intro t ht hp
          cases ht
          exact Nat.lt_irrefl _ (h.2 _ hp)
      queue := ⟨[], by simp [Endpoint.dispatchTimeout], by simp, .inl⟩
      dispatched := ⟨[_], rfl, by simp [FrameworkEvent.Silent, FrameworkEvent.accepted, FrameworkEvent.sent]⟩
      stateOpen := fun h => h
      stateClosing := fun h => h
      early := fun h => h }

theorem updateEchoReply (e : Endpoint) (p : TCPPacket) : SendFrame e (e.updateEchoReply p) := by
  obtain ⟨t, heq⟩ := updateEchoReply_eq e p
  rw [heq]
  exact of_same ⟨rfl, rfl, rfl, rfl, rfl, rfl, rfl, rfl, rfl, rfl, rfl, rfl⟩

/-- The receiving side changes, and harmless events are added to the queue. -/
theorem withReceive (e : Endpoint) (v : ReceiveView) {q : List ProtocolEvent}
    (h : ∀ x ∈ q, x.Harmless e.socket.id) : SendFrame e { e.withReceive v with queue := e.queue ++ q } :=
  have hv : SendFrame e (e.withReceive v) :=
    of_same ⟨rfl, rfl, rfl, rfl, rfl, rfl, rfl, rfl, rfl, rfl, rfl, rfl⟩
  { hv with
    timers := fun h => ⟨h.1, h.2, h.3⟩
    queue := ⟨q, rfl, h, .inl⟩ }

theorem dataEvents (e : Endpoint) (grown : Bool) : ∀ v ∈ e.dataEvents grown, v.Harmless e.socket.id := by
  have hack : (⟨e.socket.id, .sendPacket e.emptyPacket⟩ : ProtocolEvent).Harmless e.socket.id :=
    ⟨rfl, TCPPacket.isEmpty_new _ _⟩
  unfold Endpoint.dataEvents
  intro v hv
  rcases List.mem_append.1 hv with hv | hv
  · split at hv
    · rw [List.mem_singleton.1 hv]
      exact rfl
    · cases hv
  · rw [List.mem_singleton.1 hv]
    exact hack

theorem acceptEvents (e : Endpoint) (p : TCPPacket) (v : ReceiveView) :
    ∀ x ∈ e.acceptEvents p v, x.Harmless e.socket.id := by
  unfold Endpoint.acceptEvents
  split
  · simp
  · split
    · exact dataEvents e _
    · simp

theorem handleControlBitsAndData {p : TCPPacket} (h : e.handleControlBitsAndData p = .ok e') : SendFrame e e' := by
  obtain ⟨v, -, rfl⟩ := handleControlBitsAndData_ok h
  exact withReceive e v (acceptEvents e p v)

theorem createAndDispatchReceivedData (e : Endpoint) (r : ReceiveEvent) :
    SendFrame e (e.createAndDispatchReceivedData r) := by
  unfold Endpoint.createAndDispatchReceivedData
  simp only
  refine SendFrame.trans ?_ (enqueueFor _ rfl)
  refine SendFrame.trans ?_ (dispatch _ (.of_none rfl rfl))
  have hack (c : Prop) [Decidable c] : SendFrame e (if c then e.createAndDispatchAck else e) := by
    split
    · exact createAndDispatchAck e
    · exact refl e
  exact (hack _).trans (of_same ⟨rfl, rfl, rfl, rfl, rfl, rfl, rfl, rfl, rfl, rfl, rfl, rfl⟩)

theorem receiveBufferNotEmpty (e : Endpoint) : SendFrame e e.reliabilityReceiveBufferNotEmpty := by
  obtain heq | ⟨r, -, -, heq⟩ := receiveBufferNotEmpty_cases e <;> rw [heq]
  · exact refl e
  · exact (createAndDispatchReceivedData e _).trans
      (of_same ⟨rfl, rfl, rfl, rfl, rfl, rfl, rfl, rfl, rfl, rfl, rfl, rfl⟩)

theorem receive {r : ReceiveEvent} (h : e.reliabilityReceive r = .ok e') : SendFrame e e' := by
  obtain ⟨-, rfl⟩ | ⟨-, -, rfl⟩ := reliabilityReceive_ok h
  · exact createAndDispatchReceivedData e r
  · exact of_same ⟨rfl, rfl, rfl, rfl, rfl, rfl, rfl, rfl, rfl, rfl, rfl, rfl⟩

theorem receiveBufferNotFull (e : Endpoint) : SendFrame e e.receiveBufferNotFull := by
  obtain ⟨-, heq⟩ | ⟨p, -, -, heq⟩ := receiveBufferNotFull_cases e <;> rw [heq]
  · exact refl e
  · have h : SendFrame e { e with redelivered := e.redelivered ++ [‹TCPPacket›] } :=
      of_same ⟨rfl, rfl, rfl, rfl, rfl, rfl, rfl, rfl, rfl, rfl, rfl, rfl⟩
    exact h.trans (dispatch _ (.of_none rfl rfl))

/-- The probe timer starts, whether it was running or not. -/
theorem restartProbeTimer (e : Endpoint) : SendFrame e ({ e with
    ccc := { e.ccc with probeTimer := some (e.newTimeout e.socket.id) } }.dispatchTimeout e.socket.id) where
  snd := rfl
  initialized := rfl
  cccSnd := rfl
  sendBuffer := rfl
  savedSendEvent := rfl
  id := rfl
  deleted := rfl
  timer := .inl
  timers := fun h => by
    refine ⟨fun t ht => Nat.lt_succ_of_lt (h.1 t ht), ?_, ?_⟩
    · intro t ht
      cases ht
      exact Nat.lt_succ_self _
    · intro t ht hp
      cases hp
      exact Nat.lt_irrefl _ (h.1 _ ht)
  queue := ⟨[], by simp [Endpoint.dispatchTimeout], by simp, .inl⟩
  dispatched := ⟨[_], rfl, by simp [FrameworkEvent.Silent, FrameworkEvent.accepted, FrameworkEvent.sent]⟩
  stateOpen := fun h => h
  stateClosing := fun h => h
  early := fun h => h

theorem startProbeTimer (e : Endpoint) : SendFrame e e.startProbeTimer := by
  unfold Endpoint.startProbeTimer
  split
  · exact refl e
  · exact restartProbeTimer e

theorem cancelProbeTimer (e : Endpoint) : SendFrame e e.cancelProbeTimer := by
  unfold Endpoint.cancelProbeTimer
  split
  · exact refl e
  · have h : SendFrame e { e with ccc := { e.ccc with probeTimer := none } } :=
      { refl e with
        timers := fun h => ⟨h.1, by simp, by simp⟩
        queue := ⟨[], by simp, by simp, .inl⟩
        dispatched := ⟨[], by simp, by simp⟩ }
    exact h.trans (dispatch _ (.of_none rfl rfl))

/-! ### The connection manager -/

theorem stateExit (e : Endpoint) : SendFrame e e.stateExit := by
  unfold Endpoint.stateExit
  split
  · have h : SendFrame e { e with cmc := { e.cmc with timeWaitTimer := none } } :=
      of_same ⟨rfl, rfl, rfl, rfl, rfl, rfl, rfl, rfl, rfl, rfl, rfl, rfl⟩
    exact h.trans (dispatch _ (.of_none rfl rfl))
  · exact refl e

theorem startTimeWaitTimer (e : Endpoint) : SendFrame e e.startTimeWaitTimer := by
  have h : SendFrame e { e with cmc := { e.cmc with timeWaitTimer := some (e.newTimeout e.cmc.socket) } } :=
    of_same ⟨rfl, rfl, rfl, rfl, rfl, rfl, rfl, rfl, rfl, rfl, rfl, rfl⟩
  exact h.trans (dispatchTimeout _ _)

theorem stateEnter (e : Endpoint) : SendFrame e e.stateEnter := by
  unfold Endpoint.stateEnter
  split
  · exact startTimeWaitTimer e
  · split
    · exact dispatch _ (.of_none rfl rfl)
    · exact refl e
  · exact refl e

/-- The state of a connection manager changes; `s` is on the same side of closing. -/
theorem withState (e : Endpoint) {s : ConnectionManagerState} (ho : e.cmc.state.isOpen = true → s.isOpen = true)
    (hc : e.cmc.state.isClosing = true → s.isClosing = true) (he : s.isEarly = true → e.cmc.state.isEarly = true)
    (hs : s ≠ .closed) : SendFrame e { e with cmc := { e.cmc with state := s } } :=
  { refl e with
    timers := fun h => ⟨h.1, h.2, h.3⟩
    queue := ⟨[], by simp, by simp, fun h => absurd h hs⟩
    dispatched := ⟨[], by simp, by simp⟩
    stateOpen := ho
    stateClosing := hc
    early := he }

theorem stateExit_state (e : Endpoint) : e.stateExit.cmc.state = e.cmc.state := by
  unfold Endpoint.stateExit
  split <;> rfl

theorem setState (e : Endpoint) {s : ConnectionManagerState} (ho : e.cmc.state.isOpen = true → s.isOpen = true)
    (hc : e.cmc.state.isClosing = true → s.isClosing = true) (he : s.isEarly = true → e.cmc.state.isEarly = true)
    (hs : s ≠ .closed) : SendFrame e (e.setState s) := by
  rw [← stateExit_state] at ho hc he
  exact ((stateExit e).trans (withState _ ho hc he hs)).trans (stateEnter _)

/-- The socket is to be deleted, and its manager is in the state `Closed`. -/
theorem closeSocket (e : Endpoint) (hc : e.cmc.state.isOpen = false) :
    SendFrame e ((e.enqueue .deleteSocket).setState .closed) := by
  have hq : SendFrame e (e.enqueue .deleteSocket) := enqueueFor e rfl
  have hexit := stateExit (e.enqueue .deleteSocket)
  have hstate : ((e.enqueue .deleteSocket).stateExit).cmc.state = e.cmc.state := stateExit_state _
  have hqueue : (e.enqueue .deleteSocket).stateExit.queue = e.queue ++ [⟨e.socket.id, .deleteSocket⟩] := by
    unfold Endpoint.stateExit
    split <;> rfl
  have h := hq.trans hexit
  have hclosed : SendFrame e { (e.enqueue .deleteSocket).stateExit with
      cmc := { (e.enqueue .deleteSocket).stateExit.cmc with state := .closed } } :=
    { h with
      timers := fun ht => ⟨(h.timers ht).1, (h.timers ht).2, (h.timers ht).3⟩
      queue := ⟨_, hqueue, by simp [ProtocolEvent.Harmless], fun _ => .inr (by simp)⟩
      stateOpen := by simp [hc]
      stateClosing := fun _ => rfl
      early := by simp [ConnectionManagerState.isEarly] }
  exact hclosed.trans (stateEnter _)

theorem managerReceivePacket (e : Endpoint) (p : TCPPacket) (hl : e.cmc.state ≠ .listen) :
    SendFrame e (e.managerReceivePacket p) := by
  unfold Endpoint.managerReceivePacket
  have hack (s d : AddressPort) : SendFrame e (e.enqueue (.sendPacket { TCPPacket.new s d [] with ack := true })) :=
    enqueueFor e ⟨rfl, rfl, rfl, rfl⟩
  split
  · rename_i h
    exact absurd h hl
  · rename_i h
    split
    · exact (hack _ _).trans (setState _ (fun _ => rfl) (by simp [enqueue, Endpoint.enqueueFor, h,
        ConnectionManagerState.isClosing]) (by simp [ConnectionManagerState.isEarly]) (by simp))
    · exact refl e
  · rename_i h
    split
    · have hq : SendFrame e (e.enqueueFor e.cmc.acceptSocket (.connectionEstablished e.socket.id)) :=
        enqueueFor e trivial
      exact hq.trans (setState _ (fun _ => rfl) (by simp [Endpoint.enqueueFor, h,
        ConnectionManagerState.isClosing]) (by simp [ConnectionManagerState.isEarly]) (by simp))
    · exact refl e
  · rename_i h
    split
    · exact refl e
    · split
      · exact ((createAndDispatchAck e).trans (setState _ (fun _ => rfl) (by
          simp [Endpoint.createAndDispatchAck, enqueue, Endpoint.enqueueFor, h, ConnectionManagerState.isClosing])
          (by simp [ConnectionManagerState.isEarly]) (by simp))).trans (dispatch _ (.of_none rfl rfl))
      · exact refl e
  · rename_i h
    split
    · exact (createAndDispatchAck e).trans (setState _ (by
        simp [Endpoint.createAndDispatchAck, enqueue, Endpoint.enqueueFor, h, ConnectionManagerState.isOpen])
        (fun _ => rfl) (by simp [ConnectionManagerState.isEarly]) (by simp))
    · split
      · exact setState e (by simp [h, ConnectionManagerState.isOpen]) (fun _ => rfl)
          (by simp [ConnectionManagerState.isEarly]) (by simp)
      · exact refl e
  · rename_i h
    split
    · exact (createAndDispatchAck e).trans (setState _ (by
        simp [Endpoint.createAndDispatchAck, enqueue, Endpoint.enqueueFor, h, ConnectionManagerState.isOpen])
        (fun _ => rfl) (by simp [ConnectionManagerState.isEarly]) (by simp))
    · exact refl e
  · rename_i h
    split
    · exact setState e (by simp [h, ConnectionManagerState.isOpen]) (fun _ => rfl)
        (by simp [ConnectionManagerState.isEarly]) (by simp)
    · exact refl e
  · rename_i h
    split
    · exact closeSocket e (by simp [h, ConnectionManagerState.isOpen])
    · exact refl e
  · split
    · have hstop (e : Endpoint) : SendFrame e e.stopTimeWaitTimer := by
        have h : SendFrame e { e with cmc := { e.cmc with timeWaitTimer := none } } :=
          of_same ⟨rfl, rfl, rfl, rfl, rfl, rfl, rfl, rfl, rfl, rfl, rfl, rfl⟩
        exact h.trans (dispatch _ (.of_none rfl rfl))
      exact ((createAndDispatchAck e).trans (hstop _)).trans (startTimeWaitTimer _)
    · exact refl e
  · exact refl e
  · exact refl e

theorem managerTimerFired (e : Endpoint) (t : TimeoutEvent) : SendFrame e (e.managerTimerFired t) := by
  unfold Endpoint.managerTimerFired
  split
  · rename_i h
    split
    · exact closeSocket e (by simp [h, ConnectionManagerState.isOpen])
    · exact refl e
  · exact refl e

end SendFrame

end Endpoint

end Wifu
