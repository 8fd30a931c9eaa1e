import Wifu.QueueEvents

/-!
# What goes into the send buffer

Bytes of the application enter the send buffer in `save_in_buffer_and_send_events` only, called for a request that has just
arrived or for the one that waits for room; the bytes of a SYN and a FIN enter it when such a segment is sent.  The history
keeps the requests that arrived, the answers to them and the data bytes that entered the send buffer.
-/

namespace Wifu

/-- The request that a response answers, and its return value. -/
def FrameworkEvent.sendAnswer : FrameworkEvent → Option (SendEvent × Nat)
  | .sendResponse s n => some (s, n)
  | _ => none

/-- The responses to the application's send requests. -/
def sendResponses (d : List FrameworkEvent) : List (SendEvent × Nat) := d.filterMap FrameworkEvent.sendAnswer

/-- The byte stands for neither a SYN nor a FIN. -/
def isData (b : UInt8) : Bool := b != synByte && b != finByte

/-- An answered request, its return value, and the send buffer before and after it was answered. -/
structure Answer where
  event : SendEvent
  returnValue : Nat
  before : List UInt8
  after : List UInt8

/-- The return value counts the bytes appended, which are the first ones of the request. -/
structure Answer.Exact (a : Answer) : Prop where
  after : a.after = a.before ++ a.event.data.take a.returnValue
  le : a.returnValue ≤ a.event.data.length
  pos : a.event.data ≠ [] → 1 ≤ a.returnValue

/-- The requests that arrived, the answers, and the data bytes that entered the send buffer, each in their order. -/
structure SendHistory where
  arrived : List SendEvent := []
  answers : List Answer := []
  stream : List UInt8 := []

section Responses

variable {d d' : List FrameworkEvent}

@[simp] theorem sendResponses_append : sendResponses (d ++ d') = sendResponses d ++ sendResponses d' := by
  simp [sendResponses]

theorem sendResponses_append_other {f : FrameworkEvent} (hf : f.sendAnswer = none) :
    sendResponses (d ++ [f]) = sendResponses d := by
  simp [sendResponses, hf]

theorem sendResponses_transfers (d : List FrameworkEvent) : sendResponses (transfers d) = sendResponses d := by
  unfold sendResponses transfers
  rw [List.filterMap_filter]
  congr 1
  funext f
  cases f <;> rfl

theorem sendResponses_congr (h : transfers d' = transfers d) : sendResponses d' = sendResponses d := by
  rw [← sendResponses_transfers, h, sendResponses_transfers]

end Responses

theorem Plain.filter_isData {l : List UInt8} (h : Plain l) : l.filter isData = l := by
  rw [List.filter_eq_self]
  intro b hb
  have hne := h b hb
  simp [isData, hne.1, hne.2]

theorem Plain.take {l : List UInt8} (h : Plain l) (n : Nat) : Plain (l.take n) :=
  fun b hb => h b (List.mem_of_mem_take hb)

theorem Plain.not_mem_fin {l : List UInt8} (h : Plain l) : finByte ∉ l := fun hmem => (h _ hmem).2 rfl

/-- A socket that may send is neither closing nor before its handshake. -/
theorem ConnectionManagerState.canSend_iff {s : ConnectionManagerState} :
    s.canSend = true ↔ s.isOpen = true ∧ s.isEarly = false := by
  cases s <;> simp [ConnectionManagerState.canSend, ConnectionManagerState.isOpen, ConnectionManagerState.isEarly]

theorem ConnectionManagerState.isClosing_of_canSend {s : ConnectionManagerState} (h : s.canSend = true) :
    s.isClosing = false := by
  cases s with
  | established | closeWait => rfl
  | _ => cases h

namespace Endpoint

/-- The request that a step takes in: the socket is there and may send. -/
def admitted (e : Endpoint) : Input → Option SendEvent
  | .send s => if !e.deleted && e.cmc.state.canSend then some s else none
  | _ => none

/-- The data bytes that a step has appended to the send buffer. -/
def appendedData (e e' : Endpoint) : List UInt8 :=
  (e'.socket.sendBuffer.drop e.socket.sendBuffer.length).filter isData

/-- What a step adds to the history. -/
def observeSends (e : Endpoint) (i : Input) (e' : Endpoint) (h : SendHistory) : SendHistory where
  arrived := h.arrived ++ (e.admitted i).toList
  answers := h.answers ++ ((sendResponses e'.dispatched).drop (sendResponses e.dispatched).length).map fun r =>
    ⟨r.1, r.2, e.socket.sendBuffer, e'.socket.sendBuffer⟩
  stream := h.stream ++ e.appendedData e'

/-- The machine with the history of its send requests. -/
def sendMachine : Transition.Machine (Endpoint × SendHistory) Input Abort := machine.observed observeSends

instance (i : Input) (s : Endpoint × SendHistory) : Decidable (sendMachine.enabled i s) :=
  inferInstanceAs (Decidable (enabled i s.1))

/-- A request is plain data, and comes when all earlier ones have been answered. -/
def sendsInTurn (s : Endpoint × SendHistory) (i : Input) : Prop :=
  ∀ d ∈ s.1.admitted i, Plain d.data ∧ s.2.answers.length = s.2.arrived.length

instance (s : Endpoint × SendHistory) (i : Input) : Decidable (sendsInTurn s i) :=
  inferInstanceAs (Decidable (∀ d ∈ s.1.admitted i, _))

/-! ### What leaves the sending requests alone -/

/-- `e'` has answered no request and appended nothing to the send buffer.  Where it has taken bytes out, the event that looks
at the waiting request is in the queue.  No FIN has been queued. -/
structure Keeps (e e' : Endpoint) : Prop where
  savedSendEvent : e'.savedSendEvent = e.savedSendEvent
  id : e'.socket.id = e.socket.id
  deleted : e'.deleted = e.deleted
  responses : sendResponses e'.dispatched = sendResponses e.dispatched
  sendBuffer : e'.socket.sendBuffer = e.socket.sendBuffer ∨
    (∃ k, e'.socket.sendBuffer = e.socket.sendBuffer.drop k) ∧ ⟨e'.socket.id, .sendBufferNotFull⟩ ∈ e'.queue
  canSend : e.cmc.state.canSend = true → e'.cmc.state.canSend = true
  closing : e.cmc.state.isClosing = true → e'.cmc.state.isClosing = true
  closed : e'.cmc.state = .closed → e.cmc.state = .closed ∨ ⟨e'.socket.id, .deleteSocket⟩ ∈ e'.queue
  queue : ∃ q, e'.queue = e.queue ++ q ∧ ∀ v ∈ q, (∀ p ∈ v.packet, p.fin = false) ∧
    (v.kind = .deleteSocket → e'.cmc.state.isClosing = true)

section

variable {e e' e'' : Endpoint} {p : TCPPacket} {i : Input} {v : ProtocolEvent} {vs : List ProtocolEvent}

theorem SendFrame.canSend (h : SendFrame e e') (hs : e.cmc.state.canSend = true) : e'.cmc.state.canSend = true := by
  rw [ConnectionManagerState.canSend_iff] at hs ⊢
  refine ⟨h.stateOpen hs.1, ?_⟩
  by_contra hearly
  have hearly := h.early (by simpa using hearly)
  rw [hs.2] at hearly
  cases hearly

namespace Keeps

/-- New events of the two kinds that the handlers add. -/
theorem newEvents (h : Appends e e' ∨ Deletes e e') : ∃ q, e'.queue = e.queue ++ q ∧
    ∀ v ∈ q, (∀ p ∈ v.packet, p.fin = false) ∧ (v.kind = .deleteSocket → e'.cmc.state.isClosing = true) := by
  rcases h with ⟨q, hq, hnew⟩ | hd
  · exact ⟨q, hq, fun v hv => ⟨(hnew v hv).fin, fun hk => absurd hk (hnew v hv).keepsSocket⟩⟩
  · refine ⟨_, hd.queue, fun v hv => ?_⟩
    rw [List.mem_singleton.1 hv, hd.state]
    refine ⟨fun p hp => ?_, fun _ => rfl⟩
    cases hp

/-- The sending side and the state stay. -/
theorem of_same (hsaved : e'.savedSendEvent = e.savedSendEvent) (hid : e'.socket.id = e.socket.id)
    (hdel : e'.deleted = e.deleted) (hr : sendResponses e'.dispatched = sendResponses e.dispatched)
    (hbuf : e'.socket.sendBuffer = e.socket.sendBuffer) (hstate : e'.cmc.state = e.cmc.state) (ha : Appends e e') :
    Keeps e e' where
  savedSendEvent := hsaved
  id := hid
  deleted := hdel
  responses := hr
  sendBuffer := .inl hbuf
  canSend := by rw [hstate]; exact fun h => h
  closing := by rw [hstate]; exact fun h => h
  closed := by rw [hstate]; exact .inl
  queue := newEvents (.inl ha)

theorem refl (e : Endpoint) : Keeps e e := of_same rfl rfl rfl rfl rfl rfl (.refl e)

theorem mem_queue (h : Keeps e e') {v : ProtocolEvent} (hv : v ∈ e.queue) : v ∈ e'.queue := by
  obtain ⟨q, hq, -⟩ := h.queue
  rw [hq]
  exact List.mem_append_left _ hv

theorem trans (h : Keeps e e') (h' : Keeps e' e'') : Keeps e e'' where
  savedSendEvent := h'.savedSendEvent.trans h.savedSendEvent
  id := h'.id.trans h.id
  deleted := h'.deleted.trans h.deleted
  responses := h'.responses.trans h.responses
  sendBuffer := by
    have hold {k : ProtocolEventKind} (hmem : ⟨e'.socket.id, k⟩ ∈ e'.queue) : ⟨e''.socket.id, k⟩ ∈ e''.queue := by
      rw [h'.id]
      exact h'.mem_queue hmem
    rcases h.sendBuffer with hbuf | ⟨⟨k, hk⟩, hmem⟩
    · rw [← hbuf]
      exact h'.sendBuffer
    · rcases h'.sendBuffer with hbuf' | ⟨⟨k', hk'⟩, hmem'⟩
      · exact .inr ⟨⟨k, hbuf'.trans hk⟩, hold hmem⟩
      · refine .inr ⟨⟨k + k', ?_⟩, hmem'⟩
        rw [hk', hk, List.drop_drop]
  canSend := fun hs => h'.canSend (h.canSend hs)
  closing := fun hs => h'.closing (h.closing hs)
  closed := by
    intro hs
    rcases h'.closed hs with hs | hmem
    · refine (h.closed hs).imp_right fun hmem => ?_
      rw [h'.id]
      exact h'.mem_queue hmem
    · exact .inr hmem
  queue := by
    obtain ⟨q, hq, hnew⟩ := h.queue
    obtain ⟨q', hq', hnew'⟩ := h'.queue
    refine ⟨q ++ q', by rw [hq', hq, List.append_assoc], fun v hv => ?_⟩
    rcases List.mem_append.1 hv with hv | hv
    · exact ⟨(hnew v hv).1, fun hk => h'.closing ((hnew v hv).2 hk)⟩
    · exact hnew' v hv

theorem congestion (hc : CongestionChange e e') (ha : Appends e e') : Keeps e e' :=
  of_same hc.savedSendEvent (congrArg Socket.id hc.socket) hc.deleted (sendResponses_congr hc.transfers)
    (congrArg Socket.sendBuffer hc.socket) (congrArg ConnectionManagerContext.state hc.cmc) ha

/-- A handler that leaves the sending side alone. -/
theorem frame (hf : SendFrame e e') (hq : Appends e e' ∨ Deletes e e')
    (hr : sendResponses e'.dispatched = sendResponses e.dispatched) : Keeps e e' where
  savedSendEvent := hf.savedSendEvent
  id := hf.id
  deleted := hf.deleted
  responses := hr
  sendBuffer := .inl hf.sendBuffer
  canSend := hf.canSend
  closing := hf.stateClosing
  closed := by
    obtain ⟨q, hq, -, hclosed⟩ := hf.queue
    intro hs
    refine (hclosed hs).imp_right fun hmem => ?_
    rw [hf.id, hq]
    exact List.mem_append_right _ hmem
  queue := newEvents hq

/-! ### The connection manager -/

theorem managerReceivePacket (e : Endpoint) (p : TCPPacket) : Keeps e (e.managerReceivePacket p) := by
  have hm := ManagerChange.receivePacket e p
  have hr := sendResponses_congr hm.transfers
  have hq := Appends.managerReceivePacket e p
  by_cases hl : e.cmc.state = .listen
  · -- a listening socket goes on listening, or has received a SYN
    have hstate : (e.managerReceivePacket p).cmc.state = .listen ∨ (e.managerReceivePacket p).cmc.state = .synReceived := by
      unfold Endpoint.managerReceivePacket
      rw [hl]
      simp only
      split
      · exact .inr (setState_state _ _)
      · exact .inl hl
    refine ⟨hm.savedSendEvent, congrArg Socket.id hm.socket, hm.deleted, hr, .inl (congrArg Socket.sendBuffer hm.socket),
      ?_, ?_, ?_, newEvents hq⟩
    · rw [hl]
      nofun
    · rw [hl]
      nofun
    · intro hc
      rw [hc] at hstate
      rcases hstate with h | h <;> cases h
  · exact frame (.managerReceivePacket e p hl) hq hr

theorem managerTimerFired (e : Endpoint) (t : TimeoutEvent) : Keeps e (e.managerTimerFired t) :=
  frame (.managerTimerFired e t) (Appends.managerTimerFired e t)
    (sendResponses_congr (ManagerChange.timerFired e t).transfers)

/-! ### The reliability state -/

theorem createAndDispatchAck (e : Endpoint) : Keeps e e.createAndDispatchAck :=
  frame (.createAndDispatchAck e) (.inl (.createAndDispatchAck e)) rfl

theorem requestResend (e : Endpoint) (r : ResendReason) : Keeps e (e.requestResend r) where
  savedSendEvent := rfl
  id := rfl
  deleted := rfl
  responses := rfl
  sendBuffer := .inl rfl
  canSend := fun h => h
  closing := fun h => h
  closed := .inl
  queue := by
    refine ⟨[⟨e.socket.id, .resendPacket r⟩], rfl, fun v hv => ?_⟩
    rw [List.mem_singleton.1 hv]
    refine ⟨fun p hp => ?_, nofun⟩
    cases hp

theorem reliabilityTimerFired (e : Endpoint) (t : TimeoutEvent) : Keeps e (e.reliabilityTimerFired t) := by
  unfold Endpoint.reliabilityTimerFired
  split
  · have hclear : Keeps e { e with rc := { e.rc with timeoutEvent := none } } :=
      of_same rfl rfl rfl rfl rfl rfl (.of_eq rfl)
    exact hclear.trans (requestResend _ _)
  · exact refl e

/-- An acknowledgement takes bytes out of the send buffer. -/
theorem handleValidAck (h : e.handleValidAck p = .ok e') : Keeps e e' := by
  have hack := AckChange.handleValidAck h
  have hcancel (f : Endpoint) : f.cancelTimer.queue = f.queue ∧ f.cancelTimer.socket = f.socket := by
    unfold cancelTimer
    split <;> exact ⟨rfl, rfl⟩
  have hstart (f : Endpoint) : f.startTimer.queue = f.queue ∧ f.startTimer.socket = f.socket := by
    unfold startTimer
    split <;> exact ⟨rfl, rfl⟩
  have hbuf : e'.socket.sendBuffer = e.socket.sendBuffer.drop (p.ackNumber - e.rc.snd.sndUna).toNat ∧
      e'.queue = e.queue ++ [⟨e.socket.id, .sendBufferNotFull⟩] := by
    unfold Endpoint.handleValidAck at h
    obtain ⟨-, -, h⟩ := bind_eq_ok.1 h
    split at h
    · cases h
      rw [(hcancel _).1, (hcancel _).2]
      exact ⟨rfl, rfl⟩
    · split at h
      · cases h
        unfold resetTimer
        rw [(hstart _).1, (hstart _).2, (hcancel _).1, (hcancel _).2]
        exact ⟨rfl, rfl⟩
      · cases h
        exact ⟨rfl, rfl⟩
  refine ⟨hack.savedSendEvent, hack.id, hack.deleted, sendResponses_congr hack.transfers, .inr ⟨⟨_, hbuf.1⟩, ?_⟩, ?_, ?_, ?_,
    newEvents (.inl (.handleValidAck h))⟩
  · rw [hack.id, hbuf.2]
    exact List.mem_append_right _ List.mem_cons_self
  · rw [hack.cmc]
    exact fun h => h
  · rw [hack.cmc]
    exact fun h => h
  · rw [hack.cmc]
    exact .inl

theorem handleAck {b : Bool} (h : e.handleAck p = .ok (b, e')) : Keeps e e' := by
  unfold Endpoint.handleAck at h
  split at h
  · cases h
    exact refl e
  · split at h
    · obtain ⟨e₁, h₁, h⟩ := bind_eq_ok.1 h
      cases h
      exact handleValidAck h₁
    · split at h
      · cases h
        exact createAndDispatchAck e
      · split at h
        · cases h
          have hcount : Keeps e { e with rc := countDuplicateAck e.rc p } := of_same rfl rfl rfl rfl rfl rfl (.of_eq rfl)
          unfold handleDuplicateAck
          simp only
          split
          · exact hcount.trans (requestResend _ _)
          · exact hcount
        · cases h
          exact refl e

theorem reliabilityReceivePacket (h : e.reliabilityReceivePacket p = .ok e') : Keeps e e' := by
  unfold Endpoint.reliabilityReceivePacket at h
  obtain ⟨⟨b, e₁⟩, h₁, h⟩ := bind_eq_ok.1 h
  have hecho : Keeps e (e.updateEchoReply p) := by
    obtain ⟨t, heq⟩ := updateEchoReply_eq e p
    rw [heq]
    exact of_same rfl rfl rfl rfl rfl rfl (.of_eq rfl)
  have hfirst := hecho.trans (handleAck h₁)
  simp only at h
  split at h
  · have hr : sendResponses e'.dispatched = sendResponses e₁.dispatched := by
      obtain ⟨v, -, rfl⟩ := handleControlBitsAndData_ok h
      rfl
    exact hfirst.trans (frame (.handleControlBitsAndData h) (.inl (.handleControlBitsAndData h)) hr)
  · cases h
    exact hfirst

theorem receiveUnlessDuplicate {b : Bool} (h : e.receiveUnlessDuplicate p b = .ok e') : Keeps e e' :=
  congestion (.receiveUnlessDuplicate h) (.receiveUnlessDuplicate h)

theorem timerFired {t : TimeoutEvent} (h : e.timerFired t = .ok e') : Keeps e e' := by
  unfold Endpoint.timerFired at h
  have hreliability := reliabilityTimerFired e t
  exact (hreliability.trans (managerTimerFired _ t)).trans (congestion (.timerFired h) (.congestionTimerFired h))

/-! ### Receiving data -/

theorem createAndDispatchReceivedData_responses (e : Endpoint) (r : ReceiveEvent) :
    sendResponses (e.createAndDispatchReceivedData r).dispatched = sendResponses e.dispatched := by
  unfold createAndDispatchReceivedData
  simp only
  split <;> exact sendResponses_append_other rfl

theorem receive {r : ReceiveEvent} (h : e.reliabilityReceive r = .ok e') : Keeps e e' := by
  refine frame (.receive h) (.inl (.receive h)) ?_
  obtain ⟨-, rfl⟩ | ⟨-, -, rfl⟩ := reliabilityReceive_ok h
  · exact createAndDispatchReceivedData_responses e r
  · rfl

theorem receiveBufferNotEmpty (e : Endpoint) : Keeps e e.reliabilityReceiveBufferNotEmpty := by
  refine frame (.receiveBufferNotEmpty e) (.inl (.receiveBufferNotEmpty e)) ?_
  obtain heq | ⟨r, -, -, heq⟩ := receiveBufferNotEmpty_cases e
  · rw [heq]
  · rw [heq]
    exact createAndDispatchReceivedData_responses e _

theorem receiveBufferNotFull (e : Endpoint) : Keeps e e.receiveBufferNotFull := by
  refine frame (.receiveBufferNotFull e) (.inl (.receiveBufferNotFull e)) ?_
  obtain ⟨-, heq⟩ | ⟨p, -, -, heq⟩ := receiveBufferNotFull_cases e
  · rw [heq]
  · rw [heq]
    exact sendResponses_append_other rfl

end Keeps

/-! ### The account of a socket -/

/-- A FIN waits to be sent. -/
def FinQueued (e : Endpoint) : Prop := ∃ v ∈ e.queue, ∃ p ∈ v.packet, p.fin = true

/-- What holds of a socket's send buffer and of the request that waits for room. -/
structure Accounted (e : Endpoint) : Prop where
  deleted : e.deleted = false
  bound : e.socket.sendBuffer.length ≤ tcpSocketMaxBufferSize
  /-- A request waits while the socket may send, until there is room. -/
  saved : ∀ s, e.savedSendEvent = some s → Plain s.data ∧ e.cmc.state.canSend = true ∧
    (e.socket.sendBuffer.length = tcpSocketMaxBufferSize ∨ ⟨e.socket.id, .sendBufferNotFull⟩ ∈ e.queue)
  finishing : e.FinQueued ∨ finByte ∈ e.socket.sendBuffer → e.cmc.state.isClosing = true ∧
    (e.cmc.state = .closed → ⟨e.socket.id, .deleteSocket⟩ ∈ e.queue)
  /-- Nothing enters the send buffer behind a FIN. -/
  last : finByte ∈ e.socket.sendBuffer → e.socket.sendBuffer.getLast? = some finByte
  /-- There is room for a FIN that waits. -/
  short : e.FinQueued → e.socket.sendBuffer.length ≤ 1 ∨ finByte ∈ e.socket.sendBuffer
  deleting : ∀ v ∈ e.queue, v.kind = .deleteSocket → e.cmc.state.isClosing = true

namespace Accounted

theorem create (id : SocketId) (l r : AddressPort) : (create id l r).Accounted where
  deleted := rfl
  bound := Nat.zero_le _
  saved := by
    intro s hs
    cases hs
  finishing := by
    rintro (⟨v, hv, -⟩ | hb)
    · cases hv
    · cases hb
  last := by
    intro hb
    cases hb
  short := by
    rintro ⟨v, hv, -⟩
    cases hv
  deleting := by
    intro v hv
    cases hv

theorem saved_none (h : e.Accounted) (hs : e.cmc.state.canSend = false) : e.savedSendEvent = none := by
  rw [Option.eq_none_iff_forall_ne_some]
  intro s hsaved
  have hcan := (h.saved s hsaved).2.1
  rw [hs] at hcan
  cases hcan

theorem saved_none_of_closing (h : e.Accounted) (hs : e.cmc.state.isClosing = true) : e.savedSendEvent = none := by
  refine h.saved_none ?_
  by_contra hcan
  rw [ConnectionManagerState.isClosing_of_canSend (by simpa using hcan)] at hs
  cases hs

/-- While the socket may send, there is no FIN. -/
theorem unfinished (h : e.Accounted) (hs : e.cmc.state.isClosing = false) :
    ¬e.FinQueued ∧ finByte ∉ e.socket.sendBuffer := by
  rw [← not_or]
  intro hfin
  have hc := (h.finishing hfin).1
  rw [hs] at hc
  cases hc

/-- A handler that answers no request. -/
theorem keeps (h : e.Accounted) (hk : Keeps e e') : e'.Accounted := by
  obtain ⟨q, hq, hnew⟩ := hk.queue
  have hwait : e'.FinQueued → e.FinQueued := by
    rintro ⟨v, hv, p, hp, hfin⟩
    rw [hq] at hv
    rcases List.mem_append.1 hv with hv | hv
    · exact ⟨v, hv, p, hp, hfin⟩
    · rw [(hnew v hv).1 p hp] at hfin
      cases hfin
  have hmem : finByte ∈ e'.socket.sendBuffer → finByte ∈ e.socket.sendBuffer := by
    rcases hk.sendBuffer with hbuf | ⟨⟨k, hk⟩, -⟩
    · rw [hbuf]
      exact fun h => h
    · rw [hk]
      exact List.mem_of_mem_drop
  have hold {k : ProtocolEventKind} (hv : ⟨e.socket.id, k⟩ ∈ e.queue) : ⟨e'.socket.id, k⟩ ∈ e'.queue := by
    rw [hk.id]
    exact hk.mem_queue hv
  refine ⟨hk.deleted.trans h.deleted, ?_, fun s hs => ?_, fun hfin => ?_, fun hfin => ?_, fun hfin => ?_,
    fun v hv hkind => ?_⟩
  · have hbound := h.bound
    rcases hk.sendBuffer with hbuf | ⟨⟨k, hk⟩, -⟩
    · rw [hbuf]
      exact hbound
    · rw [hk, List.length_drop]
      omega
  · obtain ⟨hplain, hcan, hroom⟩ := h.saved s (hk.savedSendEvent ▸ hs)
    refine ⟨hplain, hk.canSend hcan, ?_⟩
    rcases hk.sendBuffer with hbuf | ⟨-, hnotFull⟩
    · rw [hbuf]
      exact hroom.imp_right hold
    · exact .inr hnotFull
  · obtain ⟨hclosing, hdelete⟩ := h.finishing (hfin.imp hwait hmem)
    refine ⟨hk.closing hclosing, fun hc => ?_⟩
    rcases hk.closed hc with hc | hnew
    · exact hold (hdelete hc)
    · exact hnew
  · have hlast := h.last (hmem hfin)
    rcases hk.sendBuffer with hbuf | ⟨⟨k, hk⟩, -⟩
    · rw [hbuf]
      exact hlast
    · rw [hk] at hfin ⊢
      have hlt : k < e.socket.sendBuffer.length := by
        by_contra hle
        rw [List.drop_of_length_le (by omega)] at hfin
        cases hfin
      rw [List.getLast?_drop, if_neg (by omega)]
      exact hlast
  · rcases hk.sendBuffer with hbuf | ⟨⟨k, hk⟩, -⟩
    · rw [hbuf]
      exact h.short (hwait hfin)
    · rw [hk]
      rcases h.short (hwait hfin) with hle | hin
      · left
        rw [List.length_drop]
        omega
      · -- the FIN stands last: it stays, or nothing does
        by_cases hlt : k < e.socket.sendBuffer.length
        · right
          refine List.mem_of_getLast? ?_
          rw [List.getLast?_drop, if_neg (by omega)]
          exact h.last hin
        · left
          rw [List.length_drop]
          omega
  · rw [hq] at hv
    rcases List.mem_append.1 hv with hv | hv
    · exact hk.closing (h.deleting v hv hkind)
    · exact (hnew v hv).2 hkind

/-- An event is taken off the queue that neither looks at the waiting request nor deletes the socket. -/
theorem pop (h : e.Accounted) (hq : e.queue = v :: vs)
    (hroom : e.savedSendEvent = none ∨ v ≠ ⟨e.socket.id, .sendBufferNotFull⟩) (hdel : v ≠ ⟨e.socket.id, .deleteSocket⟩) :
    Accounted { e with queue := vs } := by
  have hrest {w : ProtocolEvent} (hw : w ∈ e.queue) (hne : v ≠ w) : w ∈ vs := by
    rw [hq] at hw
    exact (List.mem_cons.1 hw).resolve_left fun heq => hne heq.symm
  have hold {w : ProtocolEvent} (hw : w ∈ vs) : w ∈ e.queue := by
    rw [hq]
    exact List.mem_cons_of_mem v hw
  have hwait : FinQueued { e with queue := vs } → e.FinQueued := by
    rintro ⟨w, hw, hfin⟩
    exact ⟨w, hold hw, hfin⟩
  refine ⟨h.deleted, h.bound, fun s hs => ?_, fun hfin => ?_, h.last, fun hfin => h.short (hwait hfin),
    fun w hw => h.deleting w (hold hw)⟩
  · obtain ⟨hplain, hcan, hfull⟩ := h.saved s hs
    refine ⟨hplain, hcan, hfull.imp_right fun hmem => ?_⟩
    rcases hroom with hnone | hne
    · rw [hnone] at hs
      cases hs
    · exact hrest hmem hne
  · obtain ⟨hclosing, hclosed⟩ := h.finishing (hfin.imp_left hwait)
    exact ⟨hclosing, fun hc => hrest (hclosed hc) hdel⟩

/-- The socket is opened: its state was closed, and no event was pending. -/
theorem opens (h : e.Accounted) (hq : e.queue = []) (hs : e.cmc.state = .closed) (hdel : e'.deleted = e.deleted)
    (hbuf : e'.socket.sendBuffer = e.socket.sendBuffer) (hsaved : e'.savedSendEvent = e.savedSendEvent)
    (ha : Appends e e') : e'.Accounted := by
  have hnone := h.saved_none (by rw [hs]; rfl)
  have hfree : finByte ∉ e.socket.sendBuffer := by
    intro hmem
    have hdelete := (h.finishing (.inr hmem)).2 hs
    rw [hq] at hdelete
    cases hdelete
  obtain ⟨q, hq', hnew⟩ := ha
  rw [hq, List.nil_append] at hq'
  have hwait : ¬e'.FinQueued := by
    rintro ⟨v, hv, p, hp, hfin⟩
    rw [hq'] at hv
    rw [(hnew v hv).fin p hp] at hfin
    cases hfin
  refine ⟨hdel.trans h.deleted, hbuf ▸ h.bound, ?_, ?_, ?_, fun hfin => absurd hfin hwait, ?_⟩
  · rw [hsaved, hnone]
    nofun
  · rw [hbuf]
    rintro (hfin | hmem)
    · exact absurd hfin hwait
    · exact absurd hmem hfree
  · rw [hbuf]
    exact fun hmem => absurd hmem hfree
  · rw [hq']
    exact fun v hv hk => absurd hk (hnew v hv).keepsSocket

/-- Plain bytes are appended while the socket may send, and no request waits any more. -/
theorem append (h : e.Accounted) (hs : e.cmc.state.canSend = true) {l : List UInt8} (hl : Plain l)
    (hbuf : e'.socket.sendBuffer = e.socket.sendBuffer ++ l)
    (hle : e.socket.sendBuffer.length + l.length ≤ tcpSocketMaxBufferSize) (hsaved : e'.savedSendEvent = none)
    (hstate : e'.cmc.state = e.cmc.state) (hdel : e'.deleted = e.deleted) (ha : Appends e e') : e'.Accounted := by
  obtain ⟨hwaits, hfree⟩ := h.unfinished (ConnectionManagerState.isClosing_of_canSend hs)
  obtain ⟨q, hq, hnew⟩ := ha
  have hwait : ¬e'.FinQueued := by
    rintro ⟨v, hv, p, hp, hfin⟩
    rw [hq] at hv
    rcases List.mem_append.1 hv with hv | hv
    · exact hwaits ⟨v, hv, p, hp, hfin⟩
    · rw [(hnew v hv).fin p hp] at hfin
      cases hfin
  have hmem : finByte ∉ e'.socket.sendBuffer := by
    rw [hbuf, List.mem_append, not_or]
    exact ⟨hfree, hl.not_mem_fin⟩
  refine ⟨hdel.trans h.deleted, ?_, ?_, ?_, fun hin => absurd hin hmem, fun hfin => absurd hfin hwait, ?_⟩
  · rw [hbuf, List.length_append]
    exact hle
  · rw [hsaved]
    nofun
  · rintro (hfin | hin)
    · exact absurd hfin hwait
    · exact absurd hin hmem
  · rw [hq, hstate]
    intro v hv hk
    rcases List.mem_append.1 hv with hv | hv
    · exact h.deleting v hv hk
    · exact absurd hk (hnew v hv).keepsSocket

/-- With nothing left to send, closing queues a FIN, or deletes a listening socket. -/
theorem managerClose (h : e.Accounted) (hbuf : e.socket.sendBuffer = []) (hsaved : e.savedSendEvent = none) :
    e.managerClose.Accounted := by
  rcases Appends.managerClose e with ⟨s, hs, heq⟩ | ⟨-, hd⟩ | heq
  · have hclosing : s.isClosing = true ∧ s ≠ .closed := by rcases hs with rfl | rfl <;> exact ⟨rfl, nofun⟩
    rw [heq]
    refine ⟨h.deleted, h.bound, ?_, fun _ => ⟨hclosing.1, fun hc => absurd hc hclosing.2⟩, h.last, fun _ => .inl ?_,
      fun _ _ _ => hclosing.1⟩
    · show ∀ s, e.savedSendEvent = some s → _
      rw [hsaved]
      nofun
    · show e.socket.sendBuffer.length ≤ 1
      rw [hbuf]
      exact Nat.zero_le 1
  · have hm := ManagerChange.close e
    have hclosing : e.managerClose.cmc.state.isClosing = true := by
      rw [hd.state]
      rfl
    refine ⟨hm.deleted.trans h.deleted, ?_, ?_, fun _ => ⟨hclosing, fun _ => ?_⟩, ?_, fun _ => .inl ?_,
      fun _ _ _ => hclosing⟩
    · rw [hm.socket]
      exact h.bound
    · rw [hm.savedSendEvent, hsaved]
      nofun
    · rw [hd.queue, hm.socket]
      exact List.mem_append_right _ List.mem_cons_self
    · rw [hm.socket]
      exact h.last
    · rw [hm.socket, hbuf]
      exact Nat.zero_le 1
  · rw [heq]
    exact h

theorem runSavedClose (h : e.Accounted) : e.runSavedClose.Accounted := by
  rcases runSavedClose_cases e with ⟨hdone, heq⟩ | ⟨-, heq⟩ <;> rw [heq]
  · exact (h.managerClose hdone.2.1 hdone.2.2).keeps (.of_same rfl rfl rfl rfl rfl rfl (.of_eq rfl))
  · exact h

/-- A segment is sent; the byte of a SYN enters an empty send buffer, that of a FIN at most a byte. -/
theorem sendPacket (h : e.Accounted) (hq : e.queue = ⟨e.socket.id, .sendPacket p⟩ :: vs) {q : TCPPacket}
    (hs : PacketSent { e with queue := vs } e' p q)
    (hr : sendResponses e'.dispatched = sendResponses e.dispatched) : e'.Accounted := by
  have hpop : Accounted { e with queue := vs } := h.pop hq (.inr nofun) nofun
  have hqueue : e'.queue = vs := hs.queue
  have hid : e'.socket.id = e.socket.id := hs.id
  have hstate : e'.cmc.state = e.cmc.state := hs.state
  have hwait : e'.FinQueued → FinQueued { e with queue := vs } := by
    rintro ⟨v, hv, hfin⟩
    exact ⟨v, hqueue ▸ hv, hfin⟩
  have hsent := hs.sendBuffer
  replace hsent : appendControlBytes e.socket.sendBuffer p = .ok e'.socket.sendBuffer := hsent
  unfold appendControlBytes at hsent
  split at hsent
  · -- a SYN
    obtain ⟨_, hempty, hsent⟩ := bind_eq_ok.1 hsent
    rw [check_eq_ok, List.isEmpty_iff] at hempty
    rw [hempty, List.nil_append] at hsent
    have hbuf : e'.socket.sendBuffer = [synByte] := (Except.ok.inj hsent).symm
    have hfree : finByte ∉ e'.socket.sendBuffer := by
      rw [hbuf]
      decide
    refine ⟨hs.deleted.trans h.deleted, ?_, fun s hsaved => ?_, fun hfin => ?_, fun hin => absurd hin hfree,
      fun _ => .inl ?_, ?_⟩
    · rw [hbuf]
      exact Nat.succ_le_of_lt (by decide)
    · obtain ⟨hplain, hcan, hroom⟩ := hpop.saved s (hs.savedSendEvent ▸ hsaved)
      rw [hstate, hid, hqueue]
      refine ⟨hplain, hcan, .inr (hroom.resolve_left fun hfull => ?_)⟩
      replace hfull : e.socket.sendBuffer.length = tcpSocketMaxBufferSize := hfull
      rw [hempty] at hfull
      cases hfull
    · rw [hstate, hid, hqueue]
      exact hpop.finishing (.inl (hwait (hfin.resolve_right hfree)))
    · rw [hbuf]
      exact Nat.le_refl 1
    · rw [hstate, hqueue]
      exact hpop.deleting
  · split at hsent
    · -- a FIN that is not there yet
      rename_i hfin
      have hbuf : e'.socket.sendBuffer = e.socket.sendBuffer ++ [finByte] := (Except.ok.inj hsent).symm
      have hwaits : e.FinQueued := ⟨_, hq ▸ List.mem_cons_self, p, rfl, hfin.1⟩
      have hfree : finByte ∉ e.socket.sendBuffer := fun hin => hfin.2 (h.last hin)
      have hlength := (h.short hwaits).resolve_right hfree
      obtain ⟨hclosing, hclosed⟩ := h.finishing (.inl hwaits)
      have hin : finByte ∈ e'.socket.sendBuffer := by
        rw [hbuf]
        exact List.mem_append_right _ List.mem_cons_self
      refine ⟨hs.deleted.trans h.deleted, ?_, fun s hsaved => ?_, fun _ => ⟨?_, fun hc => ?_⟩, fun _ => ?_, fun _ => .inr hin,
        ?_⟩
      · rw [hbuf, List.length_append, List.length_singleton]
        unfold tcpSocketMaxBufferSize
        omega
      · rw [hs.savedSendEvent.trans (h.saved_none_of_closing hclosing)] at hsaved
        cases hsaved
      · rw [hstate]
        exact hclosing
      · have hdelete := hclosed (hstate ▸ hc)
        rw [hq] at hdelete
        rw [hid, hqueue]
        exact (List.mem_cons.1 hdelete).resolve_left nofun
      · rw [hbuf]
        exact List.getLast?_concat
      · rw [hstate, hqueue]
        exact hpop.deleting
    · have hbuf : e'.socket.sendBuffer = e.socket.sendBuffer := (Except.ok.inj hsent).symm
      exact hpop.keeps (.of_same hs.savedSendEvent hid hs.deleted hr hbuf hstate (.of_eq hqueue))

/-- What is sent again is a FIN only if the FIN stands in the send buffer. -/
theorem resendPacket (h : e.Accounted) (hresend : e.congestionResendPacket = .ok e') : e'.Accounted := by
  have hc := CongestionChange.resendPacket hresend
  obtain ⟨p, hq, hfront⟩ := Appends.congestionResendPacket hresend
  have hwait : e'.FinQueued → e.FinQueued ∨ finByte ∈ e.socket.sendBuffer := by
    rintro ⟨v, hv, p', hp', hfin⟩
    rw [hq] at hv
    rcases List.mem_append.1 hv with hv | hv
    · exact .inl ⟨v, hv, p', hp', hfin⟩
    · rw [List.mem_singleton.1 hv] at hp'
      cases hp'
      exact .inr (List.mem_of_mem_head? (hfront hfin))
  have hold {v : ProtocolEvent} (hv : v ∈ e.queue) : v ∈ e'.queue := by
    rw [hq]
    exact List.mem_append_left _ hv
  refine ⟨hc.deleted.trans h.deleted, ?_, fun s hs => ?_, fun hfin => ?_, ?_, fun hfin => ?_, fun v hv hk => ?_⟩
  · rw [hc.socket]
    exact h.bound
  · obtain ⟨hplain, hcan, hroom⟩ := h.saved s (hc.savedSendEvent ▸ hs)
    rw [hc.cmc, hc.socket]
    exact ⟨hplain, hcan, hroom.imp_right hold⟩
  · rw [hc.socket] at hfin
    have hfin : e.FinQueued ∨ finByte ∈ e.socket.sendBuffer := by
      rcases hfin with hfin | hin
      · exact hwait hfin
      · exact .inr hin
    obtain ⟨hclosing, hclosed⟩ := h.finishing hfin
    rw [hc.cmc, hc.socket]
    exact ⟨hclosing, fun hs => hold (hclosed hs)⟩
  · rw [hc.socket]
    exact h.last
  · rw [hc.socket]
    rcases hwait hfin with hfin | hin
    · exact h.short hfin
    · exact .inr hin
  · rw [hq] at hv
    rw [hc.cmc]
    rcases List.mem_append.1 hv with hv | hv
    · exact h.deleting v hv hk
    · rw [List.mem_singleton.1 hv] at hk
      cases hk

/-- The container moves to the socket made for its connection, whose send buffer is empty. -/
theorem moveToSocket (h : e.Accounted) (hs : e.cmc.state = .synReceived) (n : SocketId) (l r : AddressPort) :
    (e.moveToSocket n l r).Accounted := by
  have hclosing : e.cmc.state.isClosing = false := by
    rw [hs]
    rfl
  have hnone : e.savedSendEvent = none := h.saved_none (by rw [hs]; rfl)
  have hwait : ¬(e.moveToSocket n l r).FinQueued := (h.unfinished hclosing).1
  refine ⟨h.deleted, Nat.zero_le _, fun s hsaved => ?_, fun hfin => ?_, (fun hin => by cases hin),
    fun hfin => absurd hfin hwait, h.deleting⟩
  · replace hsaved : e.savedSendEvent = some s := hsaved
    rw [hnone] at hsaved
    cases hsaved
  · rcases hfin with hfin | hin
    · exact absurd hfin hwait
    · cases hin

end Accounted

/-! ### The answers of a step -/

/-- What a step does about send requests: `a` is the request that it takes in. -/
inductive AnswerStep (e : Endpoint) (a : Option SendEvent) (e' : Endpoint) : Prop
  | quiet (ha : a = none) (hs : e'.savedSendEvent = e.savedSendEvent)
      (hr : sendResponses e'.dispatched = sendResponses e.dispatched) (hd : e.appendedData e' = [])
  | answer (s : SendEvent) (n : Nat) (hfrom : a = some s ∧ e.savedSendEvent = none ∨ a = none ∧ e.savedSendEvent = some s)
      (hs : e'.savedSendEvent = none) (hr : sendResponses e'.dispatched = sendResponses e.dispatched ++ [(s, n)])
      (hp : Plain s.data) (hbuf : e'.socket.sendBuffer = e.socket.sendBuffer ++ s.data.take n) (hle : n ≤ s.data.length)
      (hpos : s.data ≠ [] → 1 ≤ n)
  | save (s : SendEvent) (ha : a = some s) (hnone : e.savedSendEvent = none) (hs : e'.savedSendEvent = some s)
      (hr : sendResponses e'.dispatched = sendResponses e.dispatched) (hd : e.appendedData e' = [])

theorem appendedData_eq_nil (h : e'.socket.sendBuffer.length ≤ e.socket.sendBuffer.length) : e.appendedData e' = [] := by
  unfold appendedData
  rw [List.drop_of_length_le h]
  rfl

theorem Keeps.length_le (h : Keeps e e') : e'.socket.sendBuffer.length ≤ e.socket.sendBuffer.length := by
  rcases h.sendBuffer with hbuf | ⟨⟨k, hk⟩, -⟩
  · rw [hbuf]
  · rw [hk, List.length_drop]
    omega

theorem Keeps.answerStep (h : Keeps e e') : AnswerStep e none e' :=
  .quiet rfl h.savedSendEvent h.responses (appendedData_eq_nil h.length_le)

/-- Closing answers no request. -/
theorem Keeps.managerChange_answerStep (h : Keeps e e') (hm : ManagerChange e' e'') : AnswerStep e none e'' := by
  refine .quiet rfl (hm.savedSendEvent.trans h.savedSendEvent) ((sendResponses_congr hm.transfers).trans h.responses) ?_
  refine appendedData_eq_nil ?_
  rw [hm.socket]
  exact h.length_le

/-- A request is answered with the room there is. -/
theorem Accounted.answer (h : e.Accounted) (hs : e.cmc.state.canSend = true) {s : SendEvent} (hp : Plain s.data) {n : Nat}
    (hroom : e.getAvailableRoom = .ok n) (hpos : 0 < n) (hsaved : e'.savedSendEvent = none)
    (he : e' = { e.saveInBuffer s n with savedSendEvent := e'.savedSendEvent }) :
    e'.Accounted ∧ sendResponses e'.dispatched = sendResponses e.dispatched ++ [(s, min n s.data.length)] ∧
      e'.socket.sendBuffer = e.socket.sendBuffer ++ s.data.take (min n s.data.length) ∧
      (s.data ≠ [] → 1 ≤ min n s.data.length) := by
  obtain ⟨hle, hn⟩ := getAvailableRoom_ok hroom
  have hbuf : e'.socket.sendBuffer = e.socket.sendBuffer ++ s.data.take (min n s.data.length) := by
    rw [he]
    rfl
  refine ⟨h.append hs (hp.take _) hbuf ?_ hsaved ?_ ?_ ?_, ?_, hbuf, fun hne => ?_⟩
  · rw [List.length_take]
    omega
  · rw [he]
    rfl
  · rw [he]
    rfl
  · rw [he]
    exact (Appends.saveInBuffer e s n).trans (.of_eq rfl)
  · rw [he]
    exact sendResponses_append
  · have hlength := List.length_pos_iff.2 hne
    omega

theorem Accounted.send (h : e.Accounted) (hs : e.cmc.state.canSend = true) {s : SendEvent} (hp : Plain s.data)
    (hnone : e.savedSendEvent = none) (hsend : e.send s = .ok e') : e'.Accounted ∧ AnswerStep e (some s) e' := by
  obtain ⟨n, hroom, ⟨hpos, rfl⟩ | ⟨hfull, rfl⟩⟩ := send_ok hsend
  · have hsaved : (e.saveInBuffer s n).savedSendEvent = none := hnone
    obtain ⟨hacc, hr, hbuf, hone⟩ := h.answer hs hp hroom hpos hsaved rfl
    exact ⟨hacc, .answer s _ (.inl ⟨rfl, hnone⟩) hnone hr hp hbuf (Nat.min_le_right _ _) hone⟩
  · obtain ⟨hle, hn⟩ := getAvailableRoom_ok hroom
    refine ⟨⟨h.deleted, h.bound, fun t ht => ?_, h.finishing, h.last, h.short, h.deleting⟩,
      .save s rfl hnone rfl rfl (appendedData_eq_nil (Nat.le_refl _))⟩
    cases ht
    refine ⟨hp, hs, .inl ?_⟩
    show e.socket.sendBuffer.length = tcpSocketMaxBufferSize
    omega

/-- The request that waits is answered once there is room. -/
theorem Accounted.sendBufferNotFull (h : e.Accounted) (hq : e.queue = ⟨e.socket.id, .sendBufferNotFull⟩ :: vs)
    (hsend : Endpoint.sendBufferNotFull { e with queue := vs } = .ok e') : e'.Accounted ∧ AnswerStep e none e' := by
  unfold Endpoint.sendBufferNotFull at hsend
  split at hsend
  · rename_i hnone
    cases hsend
    exact ⟨h.pop hq (.inl hnone) nofun, .quiet rfl rfl rfl (appendedData_eq_nil (Nat.le_refl _))⟩
  · rename_i s hsaved
    replace hsaved : e.savedSendEvent = some s := hsaved
    obtain ⟨hplain, hcan, -⟩ := h.saved s hsaved
    obtain ⟨n, hroom, hsend⟩ := bind_eq_ok.1 hsend
    -- with the request set aside
    have hpop : Accounted { e with queue := vs, savedSendEvent := none } := by
      have hnone : Accounted { e with savedSendEvent := none } :=
        ⟨h.deleted, h.bound, (fun s hs => by cases hs), h.finishing, h.last, h.short, h.deleting⟩
      exact hnone.pop hq (.inl rfl) nofun
    split at hsend
    · rename_i hpos
      cases hsend
      have he : { Endpoint.saveInBuffer { e with queue := vs } s n with savedSendEvent := none } =
        { Endpoint.saveInBuffer { e with queue := vs, savedSendEvent := none } s n with savedSendEvent := none } := rfl
      obtain ⟨hacc, hr, hbuf, hone⟩ := hpop.answer hcan hplain hroom hpos rfl he
      exact ⟨hacc, .answer s _ (.inr ⟨rfl, hsaved⟩) rfl hr hplain hbuf (Nat.min_le_right _ _) hone⟩
    · rename_i hpos
      cases hsend
      obtain ⟨hle, hn⟩ := getAvailableRoom_ok hroom
      refine ⟨⟨h.deleted, h.bound, fun t ht => ?_, hpop.finishing, h.last, hpop.short, hpop.deleting⟩,
        .quiet rfl rfl rfl (appendedData_eq_nil (Nat.le_refl _))⟩
      obtain ⟨hplain, hcan, -⟩ := h.saved t ht
      refine ⟨hplain, hcan, .inl ?_⟩
      show e.socket.sendBuffer.length = tcpSocketMaxBufferSize
      replace hn : n = tcpSocketMaxBufferSize - e.socket.sendBuffer.length := hn
      replace hle : e.socket.sendBuffer.length ≤ tcpSocketMaxBufferSize := hle
      omega

/-- The answers of a step depend on nothing else of the state before it. -/
theorem AnswerStep.of_before {f : Endpoint} {a : Option SendEvent} (h : AnswerStep f a e')
    (hf : f.savedSendEvent = e.savedSendEvent ∧ f.dispatched = e.dispatched ∧ f.socket = e.socket) : AnswerStep e a e' := by
  obtain ⟨hsaved, hdispatched, hsocket⟩ := hf
  have hdata : f.appendedData e' = e.appendedData e' := by
    unfold appendedData
    rw [hsocket]
  cases h with
  | quiet ha hs hr hd => exact .quiet ha (hs.trans hsaved) (hdispatched ▸ hr) (hdata ▸ hd)
  | answer s n hfrom hs hr hp hbuf hle hpos =>
    exact .answer s n (hsaved ▸ hfrom) hs (hdispatched ▸ hr) hp (hsocket ▸ hbuf) hle hpos
  | save s ha hnone hs hr hd => exact .save s ha (hsaved ▸ hnone) hs (hdispatched ▸ hr) (hdata ▸ hd)

/-- What comes behind a step answers nothing. -/
theorem AnswerStep.of_after {f : Endpoint} (h : AnswerStep e none f) (hs : e'.savedSendEvent = f.savedSendEvent)
    (hr : sendResponses e'.dispatched = sendResponses f.dispatched) (hb : e'.socket = f.socket) : AnswerStep e none e' := by
  have hdata : e.appendedData f = e.appendedData e' := by
    unfold appendedData
    rw [hb]
  cases h with
  | quiet ha hs' hr' hd => exact .quiet ha (hs.trans hs') (hr.trans hr') (hdata ▸ hd)
  | answer s n hfrom hs' hr' hp hbuf hle hpos =>
    exact .answer s n hfrom (hs.trans hs') (hr.trans hr') hp (hb ▸ hbuf) hle hpos
  | save s ha => cases ha

/-! ### One step -/

theorem Accounted.receivePacket (h : e.Accounted) (hr : e.receivePacket p = .ok e') :
    e'.Accounted ∧ AnswerStep e none e' := by
  have hkeep {f : Endpoint} (hk : Keeps e f) : f.Accounted ∧ AnswerStep e none f := ⟨h.keeps hk, hk.answerStep⟩
  have hcase := receivePacket_cases e p
  rw [hr] at hcase
  cases hcase with
  | corrupt _ h | ignored _ _ h =>
    cases h
    exact hkeep (.refl e)
  | skipping _ _ _ h => exact hkeep (.reliabilityReceivePacket h.symm)
  | lingering _ _ _ h =>
    cases h
    exact hkeep (.managerReceivePacket e p)
  | answered _ _ h =>
    cases h
    exact hkeep (.createAndDispatchAck e)
  | parked _ _ _ _ _ h =>
    cases h
    exact hkeep (.of_same rfl rfl rfl rfl rfl rfl (.of_eq rfl))
  | taken _ _ _ _ hr =>
    obtain ⟨e₁, h₁, hr⟩ := bind_eq_ok.1 hr.symm
    obtain ⟨e₂, h₂, hr⟩ := bind_eq_ok.1 hr
    cases hr
    have hk : Keeps e e₂ :=
      ((Keeps.reliabilityReceivePacket h₁).trans (.managerReceivePacket e₁ p)).trans (.receiveUnlessDuplicate h₂)
    exact ⟨(h.keeps hk).runSavedClose, (hk.managerChange_answerStep (.runSavedClose e₂)).of_after rfl rfl rfl⟩

theorem Accounted.close (h : e.Accounted) (c : CloseEvent) : (e.close c).Accounted ∧ AnswerStep e none (e.close c) := by
  have hdispatch (f : Endpoint) : Keeps f (f.dispatch (.closeResponse c)) :=
    .of_same rfl rfl rfl (sendResponses_append_other rfl) rfl rfl (.of_eq rfl)
  rcases close_cases e c with ⟨hdone, heq⟩ | ⟨-, heq⟩ <;> rw [heq]
  · refine ⟨(h.managerClose hdone.1 hdone.2).keeps (hdispatch _), ?_⟩
    exact ((Keeps.refl e).managerChange_answerStep (.close e)).of_after rfl (sendResponses_append_other rfl) rfl
  · have hsave : Keeps e { e with savedCloseEvent := some c } := .of_same rfl rfl rfl rfl rfl rfl (.of_eq rfl)
    have hk := hsave.trans (hdispatch _)
    exact ⟨h.keeps hk, hk.answerStep⟩

theorem Accounted.managerListen (h : e.Accounted) (hq : e.queue = []) (l : ListenEvent) :
    (e.managerListen l).Accounted ∧ AnswerStep e none (e.managerListen l) := by
  have hm := ManagerChange.listen e l
  refine ⟨?_, (Keeps.refl e).managerChange_answerStep hm⟩
  by_cases hs : e.cmc.state = .closed
  · exact h.opens hq hs hm.deleted (congrArg Socket.sendBuffer hm.socket) hm.savedSendEvent (.managerListen e l)
  · rw [managerListen_of_ne hs]
    exact h

theorem Accounted.managerConnect (h : e.Accounted) (hq : e.queue = []) (c : ConnectEvent) :
    (e.managerConnect c).Accounted ∧ AnswerStep e none (e.managerConnect c) := by
  have ha := Appends.managerConnect e c
  by_cases hs : e.cmc.state = .closed
  · have hsame : (e.managerConnect c).deleted = e.deleted ∧ (e.managerConnect c).savedSendEvent = e.savedSendEvent ∧
        (e.managerConnect c).socket.sendBuffer = e.socket.sendBuffer ∧
        sendResponses (e.managerConnect c).dispatched = sendResponses e.dispatched := by
      obtain heq | ⟨s, ⟨-, hbuf, -⟩, -, heq⟩ := managerConnect_cases e c <;> rw [heq]
      · exact ⟨rfl, rfl, rfl, rfl⟩
      · exact ⟨rfl, rfl, hbuf, rfl⟩
    obtain ⟨hdel, hsaved, hbuf, hr⟩ := hsame
    exact ⟨h.opens hq hs hdel hbuf hsaved ha, .quiet rfl hsaved hr (appendedData_eq_nil (by rw [hbuf]))⟩
  · rw [managerConnect_of_ne hs]
    exact ⟨h, (Keeps.refl e).answerStep⟩

/-- An event of low priority. -/
theorem Accounted.low (h : e.Accounted) (hq : e.queue = []) (hi : i ≠ .drain)
    (hin : ∀ s ∈ e.admitted i, Plain s.data ∧ e.savedSendEvent = none) (hstep : Endpoint.step i e = .ok e') :
    e'.Accounted ∧ AnswerStep e (e.admitted i) e' := by
  have hkeep (hk : Keeps e e') : e'.Accounted ∧ AnswerStep e none e' := ⟨h.keeps hk, hk.answerStep⟩
  cases hadm : e.admitted i with
  | some s =>
    obtain ⟨hplain, hnone⟩ := hin s hadm
    cases i with
    | send d =>
      simp only [admitted] at hadm
      split at hadm
      · rename_i hcan
        rw [Bool.and_eq_true, Bool.not_eq_true'] at hcan
        cases hadm
        unfold Endpoint.step handleLow at hstep
        simp only [hcan.1, hcan.2, Bool.false_eq_true, if_false, if_true] at hstep
        exact h.send hcan.2 hplain hnone hstep
      · cases hadm
    | _ => cases hadm
  | none =>
    cases step_ok hstep with
    | dropped _ h =>
      cases h
      exact hkeep (.refl e)
    | skipped | event => exact absurd rfl hi
    | @packet _ p ps _ _ _ hr =>
      have hpop : Keeps e { e with redelivered := ps } := .of_same rfl rfl rfl rfl rfl rfl (.of_eq rfl)
      obtain ⟨hacc, hans⟩ := (h.keeps hpop).receivePacket hr.symm
      exact ⟨hacc, hans.of_before ⟨rfl, rfl, rfl⟩⟩
    | listen l _ hr =>
      cases hr
      exact h.managerListen hq l
    | connect c _ hr =>
      cases hr
      exact h.managerConnect hq c
    | send s hdel hs => simp [admitted, hdel, hs] at hadm
    | receive _ _ _ hr => exact hkeep (.receive hr.symm)
    | close c _ hr =>
      cases hr
      exact h.close c
    | timerFired _ _ _ hr => exact hkeep (.timerFired hr.symm)
    | tick _ _ hr =>
      cases hr
      exact hkeep (.of_same rfl rfl rfl rfl rfl rfl (.of_eq rfl))

theorem sendPacket_responses (h : e.sendPacket p = .ok e') : sendResponses e'.dispatched = sendResponses e.dispatched := by
  unfold Endpoint.sendPacket at h
  obtain ⟨⟨q, e₁⟩, h₁, h⟩ := bind_eq_ok.1 h
  cases h
  exact (sendResponses_append_other rfl).trans (sendResponses_congr (AckChange.sendPacket h₁).transfers)

/-- Sending a segment appends the bytes of control bits only. -/
theorem PacketSent.answerStep {q : TCPPacket} (hs : PacketSent e e' p q)
    (hr : sendResponses e'.dispatched = sendResponses e.dispatched) : AnswerStep e none e' := by
  refine .quiet rfl hs.savedSendEvent hr ?_
  have hsent := hs.sendBuffer
  unfold appendControlBytes at hsent
  unfold appendedData
  split at hsent
  · obtain ⟨-, -, hsent⟩ := bind_eq_ok.1 hsent
    rw [← Except.ok.inj hsent, List.drop_left]
    rfl
  · split at hsent
    · rw [← Except.ok.inj hsent, List.drop_left]
      rfl
    · rw [← Except.ok.inj hsent, List.drop_length]
      rfl

/-- The socket has been deleted, with no request waiting. -/
structure Gone (e : Endpoint) : Prop where
  deleted : e.deleted = true
  savedSendEvent : e.savedSendEvent = none
  bound : e.socket.sendBuffer.length ≤ tcpSocketMaxBufferSize

/-- A waiting event of the socket. -/
theorem Accounted.event {k : ProtocolEventKind} (h : e.Accounted) (hc : e.ClosingSends)
    (hq : e.queue = ⟨e.socket.id, k⟩ :: vs) (hk : Endpoint.handleProtocolEvent { e with queue := vs } k = .ok e') :
    (e'.Gone ∨ e'.Accounted) ∧ AnswerStep e none e' := by
  have hkeep (hpop : Accounted { e with queue := vs }) (hk : Keeps { e with queue := vs } e') :
      (e'.Gone ∨ e'.Accounted) ∧ AnswerStep e none e' :=
    ⟨.inr (hpop.keeps hk), hk.answerStep.of_before ⟨rfl, rfl, rfl⟩⟩
  unfold Endpoint.handleProtocolEvent at hk
  cases k with
  | sendPacket p =>
    obtain ⟨q, hs⟩ := sendPacket_ok hk
    have hr := sendPacket_responses hk
    exact ⟨.inr (h.sendPacket hq hs hr), (hs.answerStep hr).of_before ⟨rfl, rfl, rfl⟩⟩
  | resendPacket r =>
    have hcongestion := CongestionChange.resendPacket hk
    refine ⟨.inr ((h.pop hq (.inr nofun) nofun).resendPacket hk), .quiet rfl hcongestion.savedSendEvent
      (sendResponses_congr hcongestion.transfers) (appendedData_eq_nil ?_)⟩
    rw [hcongestion.socket]
  | sendBufferNotEmpty => exact hkeep (h.pop hq (.inr nofun) nofun) (.congestion (.sendPackets hk) (.sendPackets hk))
  | sendBufferNotFull =>
    obtain ⟨hacc, hans⟩ := h.sendBufferNotFull hq hk
    exact ⟨.inr hacc, hans⟩
  | receiveBufferNotEmpty =>
    cases hk
    exact hkeep (h.pop hq (.inr nofun) nofun) (.receiveBufferNotEmpty _)
  | receiveBufferNotFull =>
    cases hk
    exact hkeep (h.pop hq (.inr nofun) nofun) (.receiveBufferNotFull _)
  | connectionInitiated n l r li =>
    cases hk
    have hstate : e.cmc.state = .synReceived := by
      refine hc.moves ?_
      rw [hq]
      exact List.cons_ne_nil _ _
    exact ⟨.inr ((h.pop hq (.inr nofun) nofun).moveToSocket hstate n l r),
      .quiet rfl rfl rfl (appendedData_eq_nil (Nat.zero_le _))⟩
  | connectionEstablished n =>
    cases hk
    exact hkeep (h.pop hq (.inr nofun) nofun) (.refl _)
  | deleteSocket =>
    cases hk
    have hclosing := h.deleting _ (hq ▸ List.mem_cons_self) rfl
    exact ⟨.inl ⟨rfl, h.saved_none_of_closing hclosing, h.bound⟩, .quiet rfl rfl rfl (appendedData_eq_nil (Nat.le_refl _))⟩

theorem Accounted.drain (h : e.Accounted) (hc : e.ClosingSends) (hstep : Endpoint.step .drain e = .ok e') :
    (e'.Gone ∨ e'.Accounted) ∧ AnswerStep e none e' := by
  cases step_ok hstep with
  | dropped _ h' =>
    cases h'
    exact ⟨.inr h, (Keeps.refl e).answerStep⟩
  | packet hd => cases hd
  | @skipped v vs hq hother h' =>
    cases h'
    -- the event is about another socket
    have hne (k : ProtocolEventKind) : v ≠ ⟨e.socket.id, k⟩ := by
      rintro rfl
      simp [contains, h.deleted] at hother
    exact ⟨.inr (h.pop hq (.inr (hne _)) (hne _)), .quiet rfl rfl rfl (appendedData_eq_nil (Nat.le_refl _))⟩
  | @event v vs hq hs _ hk =>
    obtain ⟨s, k⟩ := v
    replace hs : s = e.socket.id := hs
    subst hs
    exact h.event hc hq hk.symm

/-- The invariant of a run. -/
def SendAccount (e : Endpoint) : Prop := e.Gone ∨ e.Accounted ∧ e.ClosingSends

theorem SendAccount.bound (h : e.SendAccount) : e.socket.sendBuffer.length ≤ tcpSocketMaxBufferSize := by
  rcases h with h | ⟨h, -⟩
  · exact h.bound
  · exact h.bound

theorem SendAccount.step (h : e.SendAccount) (hen : enabled i e)
    (hin : ∀ s ∈ e.admitted i, Plain s.data ∧ e.savedSendEvent = none) (hstep : Endpoint.step i e = .ok e') :
    e'.SendAccount ∧ AnswerStep e (e.admitted i) e' := by
  rcases h with h | ⟨h, hc⟩
  · obtain ⟨-, q, rfl⟩ := step_deleted_same h.deleted hstep
    have hnone : e.admitted i = none := by cases i <;> simp [admitted, h.deleted]
    exact ⟨.inl ⟨h.deleted, h.savedSendEvent, h.bound⟩, .quiet hnone rfl rfl (appendedData_eq_nil (Nat.le_refl _))⟩
  · have hc' := hc.step h.deleted hen hstep
    by_cases hi : i = .drain
    · subst hi
      obtain ⟨hacc, hans⟩ := h.drain hc hstep
      exact ⟨hacc.imp_right fun h' => ⟨h', hc'⟩, hans⟩
    · have hq : e.queue = [] := by
        cases i with
        | drain => exact absurd rfl hi
        | _ => exact hen
      obtain ⟨hacc, hans⟩ := h.low hq hi hin hstep
      exact ⟨.inr ⟨hacc, hc'⟩, hans⟩

/-! ### The history -/

/-- What the history says about an endpoint. -/
structure Recorded (s : Endpoint × SendHistory) : Prop where
  account : s.1.SendAccount
  exact : ∀ a ∈ s.2.answers, a.Exact
  order : s.2.answers.map Answer.event ++ s.1.savedSendEvent.toList = s.2.arrived
  stream : s.2.stream = s.2.answers.flatMap fun a => a.event.data.take a.returnValue

/-- A step that answers nothing. -/
theorem observeSends_quiet {h : SendHistory} (hr : sendResponses e'.dispatched = sendResponses e.dispatched)
    (hd : e.appendedData e' = []) :
    e.observeSends i e' h = ⟨h.arrived ++ (e.admitted i).toList, h.answers, h.stream⟩ := by
  unfold observeSends
  rw [hr, hd, List.drop_length, List.map_nil, List.append_nil, List.append_nil]

theorem observeSends_answer {h : SendHistory} {r : SendEvent × Nat}
    (hr : sendResponses e'.dispatched = sendResponses e.dispatched ++ [r]) :
    e.observeSends i e' h = ⟨h.arrived ++ (e.admitted i).toList,
      h.answers ++ [⟨r.1, r.2, e.socket.sendBuffer, e'.socket.sendBuffer⟩], h.stream ++ e.appendedData e'⟩ := by
  unfold observeSends
  rw [hr, List.drop_left]
  rfl

theorem Recorded.step {h : SendHistory} (hr : Recorded (e, h)) (hen : enabled i e) (hc : sendsInTurn (e, h) i)
    (hstep : Endpoint.step i e = .ok e') : Recorded (e', e.observeSends i e' h) := by
  have horder : h.answers.map Answer.event ++ e.savedSendEvent.toList = h.arrived := hr.order
  have hstream : h.stream = h.answers.flatMap fun a => a.event.data.take a.returnValue := hr.stream
  have hin : ∀ s ∈ e.admitted i, Plain s.data ∧ e.savedSendEvent = none := by
    intro s hs
    obtain ⟨hplain, hlength⟩ := hc s hs
    replace hlength : h.answers.length = h.arrived.length := hlength
    refine ⟨hplain, ?_⟩
    rw [← horder, List.length_append, List.length_map] at hlength
    have hnil : e.savedSendEvent.toList = [] := List.length_eq_zero_iff.1 (by omega)
    exact Option.toList_eq_nil_iff.1 hnil
  obtain ⟨hacc, hans⟩ := hr.account.step hen hin hstep
  cases hans with
  | quiet ha hs hresp hd =>
    rw [observeSends_quiet hresp hd, ha]
    refine ⟨hacc, hr.exact, ?_, hstream⟩
    show h.answers.map Answer.event ++ e'.savedSendEvent.toList = h.arrived ++ []
    rw [hs, horder, List.append_nil]
  | answer s n hfrom hs hresp hp hbuf hle hpos =>
    have hdata : e.appendedData e' = s.data.take n := by
      unfold appendedData
      rw [hbuf, List.drop_left, (hp.take n).filter_isData]
    rw [observeSends_answer hresp, hdata]
    refine ⟨hacc, ?_, ?_, ?_⟩
    · intro a ha
      rcases List.mem_append.1 ha with ha | ha
      · exact hr.exact a ha
      · rw [List.mem_singleton.1 ha]
        exact ⟨hbuf, hle, hpos⟩
    · show (h.answers ++ [_]).map Answer.event ++ e'.savedSendEvent.toList = h.arrived ++ _
      rw [hs, List.map_append, ← horder]
      rcases hfrom with ⟨ha, hnone⟩ | ⟨ha, hsaved⟩
      · rw [ha, hnone]
        simp
      · rw [ha, hsaved]
        simp
    · show h.stream ++ _ = (h.answers ++ [_]).flatMap _
      rw [List.flatMap_append, hstream]
      simp
  | save s ha hnone hs hresp hd =>
    rw [observeSends_quiet hresp hd, ha]
    refine ⟨hacc, hr.exact, ?_, hstream⟩
    show h.answers.map Answer.event ++ e'.savedSendEvent.toList = h.arrived ++ [s]
    rw [hs, ← horder, hnone]
    simp

/-! ### The assertion about the room -/

/-- Only a send buffer that is too long stops a step at the assertion of `get_available_room_in_send_buffer`. -/
theorem step_overfull (h : Endpoint.step i e = .error .sendBufferOverfull) :
    tcpSocketMaxBufferSize < e.socket.sendBuffer.length := by
  have hcongestion {a : Abort} (ha : a.congestionSide = true) (heq : a = .sendBufferOverfull) : False := by
    subst heq
    cases ha
  replace h := step_error h
  cases h with
  | @event v vs _ _ _ h =>
    replace h := h.symm
    unfold handleProtocolEvent at h
    split at h
    · rcases sendPacket_error h with h | h <;> cases h
    · exact (hcongestion (resendData_error h) rfl).elim
    · exact (hcongestion (sendPackets_error h) rfl).elim
    · exact (getAvailableRoom_error (sendBufferNotFull_error h)).2
    all_goals cases h
  | packet _ _ _ h => rcases receivePacket_error_side h.symm with hside | hside <;> cases hside
  | send _ _ _ h => exact (getAvailableRoom_error (send_error h.symm)).2
  | receive _ _ _ h =>
    have hpending := reliabilityReceive_error h.symm
    cases hpending
  | timerFired _ _ _ h => exact (hcongestion (congestionTimerFired_error h.symm) rfl).elim
  | dropped _ h | skipped _ _ h | listen _ _ h | connect _ _ h | close _ _ h | tick _ _ h => cases h

end

/-- Along every run in which each send request is plain data and comes when the one before it has been answered: the send
buffer never has more than `TCP_SOCKET_MAX_BUFFER_SIZE` bytes, and no step stops at the assertion about its room; each
answer counts the bytes of its request that were appended, at least one if it has any; the requests are answered, and their
bytes appended, in the order in which they arrived; and once no event is pending a request that waits has a full send
buffer. -/
theorem send_buffer_account {id : SocketId} {l r : AddressPort} {is : List Input} {s : Endpoint × SendHistory}
    (h : sendMachine.Run sendsInTurn (create id l r, {}) is s) :
    s.1.socket.sendBuffer.length ≤ tcpSocketMaxBufferSize ∧
      (∀ i, step i s.1 ≠ .error .sendBufferOverfull) ∧
      (∀ a ∈ s.2.answers, a.Exact) ∧
      s.2.answers.map Answer.event ++ s.1.savedSendEvent.toList = s.2.arrived ∧
      s.2.stream = s.2.answers.flatMap (fun a => a.event.data.take a.returnValue) ∧
      (s.1.queue = [] → s.2.answers.length < s.2.arrived.length →
        s.1.socket.sendBuffer.length = tcpSocketMaxBufferSize) := by
  have hinv : Recorded s := by
    refine h.invariant Recorded ⟨.inr ⟨.create id l r, .create id l r⟩, by simp, rfl, rfl⟩ ?_
    rintro ⟨e, h⟩ i ⟨e', h'⟩ hr hen hc hs
    obtain ⟨hstep, hobs⟩ := Transition.Machine.observed_step.1 hs
    replace hobs : h' = e.observeSends i e' h := hobs
    rw [hobs]
    exact hr.step hen hc hstep
  have hbound := hinv.account.bound
  refine ⟨hbound, fun i hi => ?_, hinv.exact, hinv.order, hinv.stream, fun hq hlt => ?_⟩
  · have hover := step_overfull hi
    omega
  · obtain ⟨d, hd⟩ : ∃ d, s.1.savedSendEvent = some d := by
      cases hsaved : s.1.savedSendEvent with
      | none =>
        have hlength := congrArg List.length hinv.order
        rw [hsaved, List.length_append, List.length_map] at hlength
        replace hlength : s.2.answers.length + 0 = s.2.arrived.length := hlength
        omega
      | some d => exact ⟨d, rfl⟩
    rcases hinv.account with hgone | ⟨hacc, -⟩
    · rw [hgone.savedSendEvent] at hd
      cases hd
    · refine (hacc.saved d hd).2.2.resolve_right fun hmem => ?_
      rw [hq] at hmem
      cases hmem

/-- Two requests; the first one's bytes are acknowledged before the socket closes with the second one's still in the send
buffer. -/
def twoRequestsScript : List Input :=
  connectScript 100 ++ [.send ⟨2, [1, 2]⟩, .drain, .drain, .send ⟨3, [3]⟩, .drain, .drain, .close ⟨4⟩,
    .packet (segment 101 4 []), .drain]

theorem send_buffer_account_twoRequests : ∃ s, sendMachine.Run sendsInTurn (client, {}) twoRequestsScript s ∧
    s.1.socket.sendBuffer = [3] ∧ s.2.arrived = [⟨2, [1, 2]⟩, ⟨3, [3]⟩] ∧ s.1.savedSendEvent = none ∧
    s.2.answers.map Answer.event = s.2.arrived ∧ (∀ a ∈ s.2.answers, a.Exact) ∧
    s.2.stream = s.2.answers.flatMap fun a => a.event.data.take a.returnValue := by
  have h : (sendMachine.replay sendsInTurn twoRequestsScript (client, {})).any (fun s =>
      decide (s.1.socket.sendBuffer = [3] ∧ s.2.arrived = [⟨2, [1, 2]⟩, ⟨3, [3]⟩] ∧ s.1.savedSendEvent = none)) = true := by
    decide +kernel
  obtain ⟨s, hrun, hq⟩ := Transition.Machine.exists_run h
  obtain ⟨hbuf, harrived, hsaved⟩ := of_decide_eq_true hq
  obtain ⟨-, -, hexact, horder, hstream, -⟩ := send_buffer_account hrun
  rw [hsaved] at horder
  exact ⟨s, hrun, hbuf, harrived, hsaved, (List.append_nil _).symm.trans horder, hexact, hstream⟩

end Endpoint

end Wifu
