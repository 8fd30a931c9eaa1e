import Wifu.ReceiveDelivery

/-!
# Requests on a connection (`Protocol.cc`, `TCPTahoe.cc`, `TCPTahoeReliabilityState.cc`)

A connect, send, receive or close request is answered by a response, or waits in the one place that the container has for
its kind: the ConnectEvent of the handshake, the saved SendEvent, the ReceiveEvent of the reliability context.  An endpoint
that keeps to `answersRequests` accounts for each of them, and what waits does so where it will be answered.
-/

namespace Wifu

/-- A request of the library that the contexts answer. -/
inductive LibraryRequest
  | connect (e : ConnectEvent)
  | accept (e : AcceptEvent)
  | send (e : SendEvent)
  | receive (e : ReceiveEvent)
  | close (e : CloseEvent)
  deriving DecidableEq, Repr

/-- The request that a response answers. -/
def FrameworkEvent.answeredRequest : FrameworkEvent → Option LibraryRequest
  | .connectResponse c => some (.connect c)
  | .sendResponse s _ => some (.send s)
  | .receiveResponse r _ _ => some (.receive r)
  | .closeResponse c => some (.close c)
  | _ => none

/-- The requests answered so far. -/
def answeredRequests (d : List FrameworkEvent) : List LibraryRequest := d.filterMap FrameworkEvent.answeredRequest

section

variable {d : List FrameworkEvent} {f : FrameworkEvent}

theorem answeredRequests_append_other (hf : f.answeredRequest = none) :
    answeredRequests (d ++ [f]) = answeredRequests d := by
  simp [answeredRequests, hf]

theorem answeredRequests_append_answer {q : LibraryRequest} (hf : f.answeredRequest = some q) :
    answeredRequests (d ++ [f]) = answeredRequests d ++ [q] := by
  simp [answeredRequests, hf]

end

/-- The packet is the peer's FIN, and takes the connection manager to a state that does not receive. -/
def ConnectionManagerState.endsReceiving (s : ConnectionManagerState) (p : TCPPacket) : Bool :=
  match s with
  | .established => !p.syn && p.fin
  | .finWait1 => p.fin && p.ack
  | .finWait2 => p.fin
  | _ => false

namespace Endpoint

/-! ### The requests of an endpoint -/

/-- The request that a step brings. -/
def Input.request : Input → Option LibraryRequest
  | .connect c => some (.connect c)
  | .send s => some (.send s)
  | .receive r => some (.receive r)
  | .close c => some (.close c)
  | _ => none

/-- The ConnectEvent, while the handshake goes on. -/
def waitingConnect (e : Endpoint) : Option ConnectEvent := if e.cmc.state = .synSent then e.cmc.connectEvent else none

/-- The requests that wait. -/
def waitingRequests (e : Endpoint) : List LibraryRequest :=
  e.waitingConnect.toList.map .connect ++ (e.savedSendEvent.toList.map .send ++ e.rc.receiveEvent.toList.map .receive)

/-- The requests that are answered, and those that wait. -/
def accountedRequests (e : Endpoint) : List LibraryRequest := answeredRequests e.dispatched ++ e.waitingRequests

/-- The machine with all requests that have come. -/
def requestMachine : Transition.Machine (Endpoint × List LibraryRequest) Input Abort :=
  machine.observed fun _ i _ h => h ++ i.request.toList

instance (i : Input) (s : Endpoint × List LibraryRequest) : Decidable (requestMachine.enabled i s) :=
  inferInstanceAs (Decidable (enabled i s.1))

/-! ### Which steps account for the requests -/

/-- All three contexts see the packet. -/
def takes (e : Endpoint) (p : TCPPacket) : Bool :=
  p.validChecksum && !(p.ack && !isValidAckNumber e.rc p) && isValidSequenceNumber e.rc p &&
    !(p.fin && decide (e.rc.rcvWnd.toNat < maxTcpReceiveWindowSize))

/-- No request to receive waits, or the packet does not end receiving. -/
def keepsReceiving (e : Endpoint) (p : TCPPacket) : Prop :=
  e.rc.receiveEvent ≠ none → e.takes p = true → e.cmc.state.endsReceiving p = false

instance (e : Endpoint) (p : TCPPacket) : Decidable (e.keepsReceiving p) := inferInstanceAs (Decidable (_ → _ → _))

/-- The state answers a request or keeps it, and the place to keep it is free; the peer's FIN finds no request to receive
waiting; and the send buffer is not overfull when its room is counted. -/
def answersRequests (s : Endpoint × List LibraryRequest) : Input → Prop
  | .connect _ => s.1.deleted = false ∧ s.1.cmc.state = .closed
  | .send _ => s.1.deleted = false ∧ s.1.cmc.state.canSend = true ∧ s.1.savedSendEvent = none ∧
      s.1.socket.sendBuffer.length ≤ tcpSocketMaxBufferSize
  | .receive _ => s.1.deleted = false ∧ s.1.cmc.state.canReceive = true ∧ s.1.rc.receiveEvent = none
  | .close _ => s.1.deleted = false
  | .packet p => s.1.keepsReceiving p
  | .redeliver => ∀ p ∈ s.1.redelivered.head?, s.1.keepsReceiving p
  | .drain => s.1.savedSendEvent ≠ none → s.1.queue.head? = some ⟨s.1.socket.id, .sendBufferNotFull⟩ →
      s.1.socket.sendBuffer.length ≤ tcpSocketMaxBufferSize
  | .listen _ | .timerFired _ | .tick _ => True

instance (s : Endpoint × List LibraryRequest) : (i : Input) → Decidable (answersRequests s i)
  | .connect _ | .send _ | .receive _ => inferInstanceAs (Decidable (_ ∧ _))
  | .close _ => inferInstanceAs (Decidable (s.1.deleted = false))
  | .packet p => inferInstanceAs (Decidable (s.1.keepsReceiving p))
  | .redeliver => inferInstanceAs (Decidable (∀ p ∈ s.1.redelivered.head?, s.1.keepsReceiving p))
  | .drain => inferInstanceAs (Decidable (_ → _ → _))
  | .listen _ | .timerFired _ | .tick _ => .isTrue trivial

/-- What waits will be answered: a ConnectEvent when the handshake ends, a SendEvent when an acknowledgement makes room,
a ReceiveEvent when data comes.  A socket is deleted when it is closed. -/
structure Answerable (e : Endpoint) : Prop where
  connect : e.cmc.state = .synSent → e.cmc.connectionType = .activeOpen ∧ e.cmc.connectEvent ≠ none
  passive : e.cmc.state.isListening = true → e.cmc.connectionType = .passiveOpen
  send : e.savedSendEvent ≠ none → e.cmc.state.canSend = true ∧
    (tcpSocketMaxBufferSize ≤ e.socket.sendBuffer.length ∨ ⟨e.socket.id, .sendBufferNotFull⟩ ∈ e.queue)
  receive : e.rc.receiveEvent ≠ none → e.cmc.state.canReceive = true
  deleting : ∀ v ∈ e.queue, v.kind = .deleteSocket → e.cmc.state = .closed
  deleted : e.deleted = true → e.cmc.state = .closed

/-! ### Handlers that answer nothing -/

/-- `e'` has answered no request, and what waits in `e` waits there still. -/
structure Undisturbed (e e' : Endpoint) : Prop where
  savedSendEvent : e'.savedSendEvent = e.savedSendEvent
  receiveEvent : e'.rc.receiveEvent = e.rc.receiveEvent
  cmc : e'.cmc = e.cmc
  deleted : e'.deleted = e.deleted
  id : e'.socket.id = e.socket.id
  answered : answeredRequests e'.dispatched = answeredRequests e.dispatched
  queue : ∃ q, e'.queue = e.queue ++ q ∧ ∀ v ∈ q, v.kind ≠ .deleteSocket
  room : e.socket.sendBuffer.length ≤ e'.socket.sendBuffer.length ∨ ⟨e'.socket.id, .sendBufferNotFull⟩ ∈ e'.queue

section

variable {e e' e'' : Endpoint} {p : TCPPacket} {i : Input} {v : ProtocolEvent} {vs : List ProtocolEvent}

theorem Appends.keepsSocket (h : Appends e e') : ∃ q, e'.queue = e.queue ++ q ∧ ∀ v ∈ q, v.kind ≠ .deleteSocket := by
  obtain ⟨q, hq, hnew⟩ := h
  exact ⟨q, hq, fun v hv => (hnew v hv).keepsSocket⟩

namespace Undisturbed

theorem refl (e : Endpoint) : Undisturbed e e :=
  ⟨rfl, rfl, rfl, rfl, rfl, rfl, ⟨[], (List.append_nil _).symm, by simp⟩, .inl (Nat.le_refl _)⟩

theorem trans (h : Undisturbed e e') (h' : Undisturbed e' e'') : Undisturbed e e'' where
  savedSendEvent := h'.savedSendEvent.trans h.savedSendEvent
  receiveEvent := h'.receiveEvent.trans h.receiveEvent
  cmc := h'.cmc.trans h.cmc
  deleted := h'.deleted.trans h.deleted
  id := h'.id.trans h.id
  answered := h'.answered.trans h.answered
  queue := by
    obtain ⟨q, hq, hnew⟩ := h.queue
    obtain ⟨q', hq', hnew'⟩ := h'.queue
    refine ⟨q ++ q', by rw [hq', hq, List.append_assoc], fun v hv => ?_⟩
    rcases List.mem_append.1 hv with hv | hv
    · exact hnew v hv
    · exact hnew' v hv
  room := by
    rcases h'.room with hle' | hmem
    · refine h.room.imp (fun hle => hle.trans hle') fun hmem => ?_
      obtain ⟨q, hq, -⟩ := h'.queue
      rw [h'.id, hq]
      exact List.mem_append_left _ hmem
    · exact .inr hmem

theorem congestion (h : CongestionChange e e') (hd : answeredRequests e'.dispatched = answeredRequests e.dispatched)
    (hq : ∃ q, e'.queue = e.queue ++ q ∧ ∀ v ∈ q, v.kind ≠ .deleteSocket) : Undisturbed e e' :=
  ⟨h.savedSendEvent, by rw [h.rc], h.cmc, h.deleted, by rw [h.socket], hd, hq, .inl (by rw [h.socket])⟩

/-- The handlers that may take bytes out of the send buffer. -/
theorem keeps (h : Keeps e e') (hr : e'.rc.receiveEvent = e.rc.receiveEvent) (hc : e'.cmc = e.cmc)
    (hd : answeredRequests e'.dispatched = answeredRequests e.dispatched)
    (hq : ∃ q, e'.queue = e.queue ++ q ∧ ∀ v ∈ q, v.kind ≠ .deleteSocket) : Undisturbed e e' :=
  ⟨h.savedSendEvent, hr, hc, h.deleted, h.id, hd, hq,
    h.sendBuffer.imp (fun hbuf => (congrArg List.length hbuf).ge) And.right⟩

/-! ### The reliability state -/

theorem answered_startTimer (e : Endpoint) : answeredRequests e.startTimer.dispatched = answeredRequests e.dispatched := by
  unfold startTimer
  split
  · rfl
  · exact answeredRequests_append_other rfl

theorem answered_cancelTimer (e : Endpoint) : answeredRequests e.cancelTimer.dispatched = answeredRequests e.dispatched := by
  unfold cancelTimer
  split
  · rfl
  · exact answeredRequests_append_other rfl

theorem answered_handleAck {b : Bool} (h : e.handleAck p = .ok (b, e')) :
    answeredRequests e'.dispatched = answeredRequests e.dispatched := by
  unfold handleAck at h
  split at h
  · cases h
    rfl
  · split at h
    · obtain ⟨e₁, h₁, h⟩ := bind_eq_ok.1 h
      cases h
      unfold handleValidAck at h₁
      obtain ⟨-, -, h₁⟩ := bind_eq_ok.1 h₁
      split at h₁
      · cases h₁
        exact answered_cancelTimer _
      · split at h₁
        · cases h₁
          exact (answered_startTimer _).trans (answered_cancelTimer _)
        · cases h₁
          rfl
    · split at h
      · cases h
        rfl
      · split at h
        · cases h
          unfold handleDuplicateAck
          simp only
          split <;> rfl
        · cases h
          rfl

theorem reliabilityReceivePacket (h : e.reliabilityReceivePacket p = .ok e') : Undisturbed e e' := by
  have hk := Keeps.reliabilityReceivePacket h
  obtain ⟨e₁, hhandle, hack, h⟩ := reliabilityReceivePacket_ok h
  have hecho : (e.updateEchoReply p).queue = e.queue ∧ (e.updateEchoReply p).dispatched = e.dispatched := by
    obtain ⟨t, heq⟩ := updateEchoReply_eq e p
    rw [heq]
    exact ⟨rfl, rfl⟩
  obtain ⟨q, hq, hnew⟩ := Places.handleAck_queue hhandle
  have hd := answered_handleAck hhandle
  rw [hecho.1] at hq
  rw [hecho.2] at hd
  split at h
  · obtain ⟨w, -, rfl⟩ := h
    refine keeps hk hack.receiveEvent hack.cmc hd ⟨q ++ e₁.acceptEvents p w, ?_, fun v hv => ?_⟩
    · show e₁.queue ++ _ = _
      rw [hq, List.append_assoc]
    · rcases List.mem_append.1 hv with hv | hv
      · exact hnew v hv
      · unfold acceptEvents dataEvents at hv
        split at hv
        · cases hv
        · split at hv
          · rcases List.mem_append.1 hv with hv | hv
            · split at hv
              · rw [List.mem_singleton.1 hv]
                simp
              · cases hv
            · rw [List.mem_singleton.1 hv]
              simp
          · cases hv
  · rw [h] at hk ⊢
    exact keeps hk hack.receiveEvent hack.cmc hd ⟨q, hq, hnew⟩

theorem createAndDispatchAck (e : Endpoint) : Undisturbed e e.createAndDispatchAck :=
  keeps (.createAndDispatchAck e) rfl rfl rfl (Appends.createAndDispatchAck e).keepsSocket

theorem reliabilityTimerFired (e : Endpoint) (t : TimeoutEvent) : Undisturbed e (e.reliabilityTimerFired t) := by
  have hack := AckChange.timerFired e t
  have hrest : answeredRequests (e.reliabilityTimerFired t).dispatched = answeredRequests e.dispatched ∧
      ∃ q, (e.reliabilityTimerFired t).queue = e.queue ++ q ∧ ∀ v ∈ q, v.kind ≠ .deleteSocket := by
    unfold Endpoint.reliabilityTimerFired
    split
    · exact ⟨rfl, [⟨e.socket.id, .resendPacket .timeout⟩], rfl, by simp⟩
    · exact ⟨rfl, [], (List.append_nil _).symm, by simp⟩
  exact keeps (.reliabilityTimerFired e t) hack.receiveEvent hack.cmc hrest.1 hrest.2

theorem sendPacket (h : e.sendPacket p = .ok e') : Undisturbed e e' := by
  obtain ⟨r, hs⟩ := sendPacket_ok h
  unfold Endpoint.sendPacket at h
  obtain ⟨⟨q, e₁⟩, h₁, h⟩ := bind_eq_ok.1 h
  cases h
  have hack := AckChange.sendPacket h₁
  have hd : answeredRequests e₁.dispatched = answeredRequests e.dispatched := by
    unfold reliabilitySendPacket at h₁
    simp only at h₁
    obtain ⟨b, -, h₁⟩ := bind_eq_ok.1 h₁
    obtain ⟨q', -, h₁⟩ := bind_eq_ok.1 h₁
    cases h₁
    show answeredRequests (checkAndStartTimer _ _).dispatched = _
    unfold checkAndStartTimer
    split
    · exact answered_startTimer _
    · rfl
  refine ⟨hack.savedSendEvent, hack.receiveEvent, hack.cmc, hack.deleted, hack.id,
    (answeredRequests_append_other rfl).trans hd, ⟨[], by rw [hs.queue, List.append_nil], by simp⟩, .inl ?_⟩
  -- only the bytes of control bits are appended
  have hbuf := hs.sendBuffer
  unfold appendControlBytes at hbuf
  split at hbuf
  · obtain ⟨-, -, hbuf⟩ := bind_eq_ok.1 hbuf
    rw [← Except.ok.inj hbuf, List.length_append]
    exact Nat.le_add_right _ _
  · split at hbuf
    · rw [← Except.ok.inj hbuf, List.length_append]
      exact Nat.le_add_right _ _
    · rw [← Except.ok.inj hbuf]

/-! ### The congestion control -/

theorem sendOnePacket {b : Bool} (h : e.sendOnePacket b = .ok e') : Undisturbed e e' := by
  refine congestion (.sendOnePacket h) ?_ (Appends.sendOnePacket h).keepsSocket
  obtain ⟨k, -, -, -, -, -, rfl⟩ := sendOnePacket_ok h
  rfl

theorem sendPackets (h : e.sendPackets = .ok e') : Undisturbed e e' :=
  sendPackets_invariant (Undisturbed e) h (refl e) fun _ _ hu _ hone => hu.trans (sendOnePacket hone)

theorem congestionResendPacket (h : e.congestionResendPacket = .ok e') : Undisturbed e e' := by
  have hc := CongestionChange.resendPacket h
  obtain ⟨p, hq, -⟩ := Appends.congestionResendPacket h
  refine congestion hc ?_ ⟨_, hq, by simp⟩
  unfold Endpoint.congestionResendPacket resendData at h
  obtain ⟨q, -, h⟩ := bind_eq_ok.1 h
  cases h
  rfl

theorem receiveUnlessDuplicate {b : Bool} (h : e.receiveUnlessDuplicate p b = .ok e') : Undisturbed e e' := by
  obtain ⟨-, rfl⟩ | ⟨-, h⟩ := receiveUnlessDuplicate_ok h
  · exact refl _
  · unfold congestionReceivePacket at h
    split at h
    · obtain ⟨ccc, -, h⟩ := bind_eq_ok.1 h
      have hset : Undisturbed e { e with ccc := ccc } :=
        congestion (.withCongestion e ccc) rfl ⟨[], (List.append_nil _).symm, by simp⟩
      unfold sendOrProbe at h
      split at h
      · cases h
        refine hset.trans (congestion (.startProbeTimer _) ?_ (Appends.startProbeTimer _).keepsSocket)
        unfold startProbeTimer
        split
        · rfl
        · exact answeredRequests_append_other rfl
      · refine hset.trans ((congestion (.cancelProbeTimer _) ?_ (Appends.cancelProbeTimer _).keepsSocket).trans
          (sendPackets h))
        unfold cancelProbeTimer
        split
        · rfl
        · exact answeredRequests_append_other rfl
    · cases h
      exact refl e

theorem congestionTimerFired {t : TimeoutEvent} (h : e.congestionTimerFired t = .ok e') : Undisturbed e e' := by
  unfold Endpoint.congestionTimerFired at h
  split at h
  · refine trans ?_ (sendOnePacket h)
    exact congestion (.dispatchTimeoutWith e _ _) (answeredRequests_append_other rfl)
      ⟨[], (List.append_nil _).symm, by simp⟩
  · cases h
    exact refl e

end Undisturbed

/-! ### Accounts -/

/-- A request is answered as it comes. -/
theorem perm_answer {d w : List LibraryRequest} (q : LibraryRequest) : (d ++ [q] ++ w).Perm (d ++ w ++ [q]) := by
  rw [List.append_assoc, List.append_assoc]
  exact List.perm_append_comm.append_left d

/-- A request that waited is answered. -/
theorem perm_answer_waiting {d w w' : List LibraryRequest} (q : LibraryRequest) :
    (d ++ [q] ++ (w ++ w')).Perm (d ++ (w ++ q :: w')) := by
  rw [List.append_assoc, List.singleton_append]
  exact List.perm_middle.symm.append_left d

/-- A request comes, and waits. -/
theorem perm_wait {d w w' : List LibraryRequest} (q : LibraryRequest) :
    (d ++ (w ++ q :: w')).Perm (d ++ (w ++ w') ++ [q]) :=
  (perm_answer_waiting q).symm.trans (perm_answer q)

/-- The last of those that waited is answered. -/
theorem perm_answer_last {d w w' : List LibraryRequest} (q : LibraryRequest) :
    (d ++ [q] ++ (w ++ (w' ++ []))).Perm (d ++ (w ++ (w' ++ [q]))) := by
  rw [List.append_nil]
  exact (perm_answer q).trans (.of_eq (by simp))

/-- A request comes, and waits behind the others. -/
theorem perm_wait_last {d w w' : List LibraryRequest} (q : LibraryRequest) :
    (d ++ (w ++ (w' ++ [q]))).Perm (d ++ (w ++ (w' ++ [])) ++ [q]) :=
  .of_eq (by simp)

theorem waitingConnect_of_ne (h : e.cmc.state ≠ .synSent) : e.waitingConnect = none := if_neg h

theorem waitingRequests_congr (hc : e'.waitingConnect = e.waitingConnect) (hs : e'.savedSendEvent = e.savedSendEvent)
    (hr : e'.rc.receiveEvent = e.rc.receiveEvent) : e'.waitingRequests = e.waitingRequests := by
  unfold waitingRequests
  rw [hc, hs, hr]

theorem Undisturbed.accounted (h : Undisturbed e e') : e'.accountedRequests = e.accountedRequests := by
  have hconnect : e'.waitingConnect = e.waitingConnect := by
    unfold waitingConnect
    rw [h.cmc]
  unfold accountedRequests
  rw [h.answered, waitingRequests_congr hconnect h.savedSendEvent h.receiveEvent]

/-! ### What waits stays answerable -/

namespace Answerable

theorem create (id : SocketId) (l r : AddressPort) : (create id l r).Answerable where
  connect := by
    intro hs
    cases hs
  passive := by
    intro hl
    cases hl
  send := fun h => absurd rfl h
  receive := fun h => absurd rfl h
  deleting := by
    intro v hv
    cases hv
  deleted := fun _ => rfl

theorem undisturbed (h : e.Answerable) (hu : Undisturbed e e') : e'.Answerable := by
  obtain ⟨q, hq, hnew⟩ := hu.queue
  refine ⟨?_, ?_, fun hs => ?_, ?_, fun v hv hk => ?_, ?_⟩
  · rw [hu.cmc]
    exact h.connect
  · rw [hu.cmc]
    exact h.passive
  · obtain ⟨hcan, hroom⟩ := h.send (hu.savedSendEvent ▸ hs)
    rw [hu.cmc]
    refine ⟨hcan, ?_⟩
    rcases hu.room with hle | hmem
    · refine hroom.imp (fun hfull => hfull.trans hle) fun hmem => ?_
      rw [hu.id, hq]
      exact List.mem_append_left _ hmem
    · exact .inr hmem
  · rw [hu.receiveEvent, hu.cmc]
    exact h.receive
  · rw [hu.cmc]
    rw [hq] at hv
    rcases List.mem_append.1 hv with hv | hv
    · exact h.deleting v hv hk
    · exact absurd hk (hnew v hv)
  · rw [hu.cmc, hu.deleted]
    exact h.deleted

/-- Nothing waits in a state that neither sends nor receives. -/
theorem saved_none (h : e.Answerable) (hs : e.cmc.state.canSend = false) : e.savedSendEvent = none := by
  by_contra hne
  rw [(h.send hne).1] at hs
  cases hs

theorem receive_none (h : e.Answerable) (hs : e.cmc.state.canReceive = false) : e.rc.receiveEvent = none := by
  by_contra hne
  rw [h.receive hne] at hs
  cases hs

/-- An event other than the notice of room is taken off the queue. -/
theorem pop (h : e.Answerable) (hq : e.queue = v :: vs)
    (hv : e.savedSendEvent = none ∨ v ≠ ⟨e.socket.id, .sendBufferNotFull⟩) : Answerable { e with queue := vs } := by
  refine ⟨h.connect, h.passive, fun hs => ?_, h.receive, fun w hw => h.deleting w ?_, h.deleted⟩
  · obtain ⟨hcan, hroom⟩ := h.send hs
    refine ⟨hcan, hroom.imp_right fun hmem => ?_⟩
    rw [hq] at hmem
    exact (List.mem_cons.1 hmem).resolve_left fun heq => hv.resolve_left hs heq.symm
  · rw [hq]
    exact List.mem_cons_of_mem v hw

/-- A socket is deleted where its manager has closed. -/
theorem deletes (h : Appends e e' ∨ Deletes e e') :
    ∃ q, e'.queue = e.queue ++ q ∧ ∀ v ∈ q, v.kind = .deleteSocket → e'.cmc.state = .closed := by
  rcases h with ⟨q, hq, hnew⟩ | hd
  · exact ⟨q, hq, fun v hv hk => absurd hk (hnew v hv).keepsSocket⟩
  · exact ⟨_, hd.queue, fun _ _ _ => hd.state⟩

/-- The connection manager changes its state. -/
theorem manager (h : e.Answerable) (hm : ManagerChange e e') (htype : e'.cmc.connectionType = e.cmc.connectionType)
    (hconnect : e'.cmc.connectEvent = e.cmc.connectEvent) (hq : ∃ q, e'.queue = e.queue ++ q ∧ ∀ v ∈ q, v.kind = .deleteSocket → e'.cmc.state = .closed)
    (hsyn : e'.cmc.state = .synSent → e.cmc.state = .synSent)
    (hlisten : e'.cmc.state.isListening = true → e.cmc.state.isListening = true)
    (hclosed : e.cmc.state = .closed → e'.cmc.state = .closed)
    (hsend : e.savedSendEvent ≠ none → e.cmc.state.canSend = true → e'.cmc.state.canSend = true)
    (hreceive : e.rc.receiveEvent ≠ none → e.cmc.state.canReceive = true → e'.cmc.state.canReceive = true) :
    e'.Answerable := by
  obtain ⟨q, hq, hnew⟩ := hq
  refine ⟨fun hs => ?_, fun hl => ?_, fun hs => ?_, fun hr => ?_, fun v hv hk => ?_, fun hdel => ?_⟩
  · rw [htype, hconnect]
    exact h.connect (hsyn hs)
  · rw [htype]
    exact h.passive (hlisten hl)
  · rw [hm.savedSendEvent] at hs
    obtain ⟨hcan, hroom⟩ := h.send hs
    rw [hm.socket, hq]
    exact ⟨hsend hs hcan, hroom.imp_right (List.mem_append_left q)⟩
  · rw [hm.rc] at hr
    exact hreceive hr (h.receive hr)
  · rw [hq] at hv
    rcases List.mem_append.1 hv with hv | hv
    · exact hclosed (h.deleting v hv hk)
    · exact hnew v hv hk
  · exact hclosed (h.deleted (hm.deleted ▸ hdel))

end Answerable

/-! ### The connection manager -/

/-- `set_state` keeps what the handshake has noted; it answers the ConnectEvent when an active opening ends. -/
theorem setState_noted (e : Endpoint) (s : ConnectionManagerState) :
    (e.setState s).cmc.connectionType = e.cmc.connectionType ∧ (e.setState s).cmc.connectEvent = e.cmc.connectEvent := by
  have hexit : e.stateExit.cmc.connectionType = e.cmc.connectionType ∧
      e.stateExit.cmc.connectEvent = e.cmc.connectEvent := by
    unfold stateExit
    split <;> exact ⟨rfl, rfl⟩
  have henter (f : Endpoint) : f.stateEnter.cmc.connectionType = f.cmc.connectionType ∧
      f.stateEnter.cmc.connectEvent = f.cmc.connectEvent := by
    unfold stateEnter
    split
    · exact ⟨rfl, rfl⟩
    · split <;> exact ⟨rfl, rfl⟩
    · exact ⟨rfl, rfl⟩
  exact ⟨(henter _).1.trans hexit.1, (henter _).2.trans hexit.2⟩

theorem answered_stateExit (e : Endpoint) : answeredRequests e.stateExit.dispatched = answeredRequests e.dispatched := by
  unfold stateExit
  split
  · exact answeredRequests_append_other rfl
  · rfl

/-- No request is answered but when a connection is established that was opened actively. -/
theorem answered_setState {s : ConnectionManagerState} (h : s ≠ .established ∨ e.cmc.connectionType = .passiveOpen) :
    answeredRequests (e.setState s).dispatched = answeredRequests e.dispatched := by
  have hexit := answered_stateExit e
  have htype : e.stateExit.cmc.connectionType = e.cmc.connectionType := by
    unfold stateExit
    split <;> rfl
  unfold setState
  simp only
  unfold stateEnter
  simp only
  split
  · exact (answeredRequests_append_other rfl).trans hexit
  · rw [htype, h.resolve_left (not_not.2 rfl)]
    exact hexit
  · exact hexit

theorem answered_setState_active {c : ConnectEvent} (hs : e.cmc.state = .synSent)
    (ht : e.cmc.connectionType = .activeOpen) (hc : e.cmc.connectEvent = some c) :
    answeredRequests (e.setState .established).dispatched = answeredRequests e.dispatched ++ [.connect c] := by
  unfold setState stateExit stateEnter
  simp only [hs, ht, hc]
  exact answeredRequests_append_answer rfl

theorem managerReceivePacket_noted (e : Endpoint) (p : TCPPacket) :
    (e.managerReceivePacket p).cmc.connectionType = e.cmc.connectionType ∧
      (e.managerReceivePacket p).cmc.connectEvent = e.cmc.connectEvent := by
  have hstay : e.cmc.connectionType = e.cmc.connectionType ∧ e.cmc.connectEvent = e.cmc.connectEvent := ⟨rfl, rfl⟩
  unfold managerReceivePacket
  split
  · split
    · exact setState_noted _ _
    · exact hstay
  · split
    · exact setState_noted _ _
    · exact hstay
  · split
    · exact setState_noted _ _
    · exact hstay
  · split
    · exact hstay
    · split
      · exact setState_noted _ _
      · exact hstay
  · split
    · exact setState_noted _ _
    · split
      · exact setState_noted _ _
      · exact hstay
  · split
    · exact setState_noted _ _
    · exact hstay
  · split
    · exact setState_noted _ _
    · exact hstay
  · split
    · exact setState_noted _ _
    · exact hstay
  · split
    · exact ⟨rfl, rfl⟩
    · exact hstay
  · exact hstay
  · exact hstay

/-- A packet leads to no state from which a connection is opened actively. -/
theorem managerReceivePacket_synSent (h : (e.managerReceivePacket p).cmc.state = .synSent) : e.cmc.state = .synSent := by
  by_contra hne
  have hclosing : ((e.createAndDispatchAck.setState .closeWait).dispatch (.preclose e.socket.id)).cmc.state = .closeWait :=
    setState_state _ _
  have hsyn : (e.processSyn p).cmc.state = .synReceived := setState_state _ _
  have hwait : e.createAndDispatchAck.stopTimeWaitTimer.startTimeWaitTimer.cmc.state = e.cmc.state := rfl
  unfold managerReceivePacket at h
  split at h <;> (try split at h) <;> (try split at h) <;> simp_all [setState_state]

/-- Receiving ends with the peer's FIN only. -/
theorem managerReceivePacket_receives (hp : e.cmc.state.endsReceiving p = false)
    (h : e.cmc.state.canReceive = true) : (e.managerReceivePacket p).cmc.state.canReceive = true := by
  unfold managerReceivePacket
  cases hs : e.cmc.state with
  | established =>
    rw [hs] at hp
    have hnot : ¬(p.syn = false ∧ p.fin = true) := by simpa [ConnectionManagerState.endsReceiving] using hp
    simp only
    split
    · exact h
    · rename_i hsyn
      rw [if_neg fun hfin => hnot ⟨by simpa using hsyn, hfin⟩]
      exact h
  | finWait1 =>
    rw [hs] at hp
    replace hp : (p.fin && p.ack) = false := hp
    simp only [hp, Bool.false_eq_true, if_false]
    split
    · rw [setState_state]
      rfl
    · exact h
  | finWait2 =>
    rw [hs] at hp
    replace hp : p.fin = false := hp
    simp only [hp, Bool.false_eq_true, if_false]
    exact h
  | _ =>
    rw [hs] at h
    cases h

/-- Outside an active opening a packet answers no request. -/
theorem Answerable.answered_managerReceivePacket (h : e.Answerable) (hs : e.cmc.state ≠ .synSent) (p : TCPPacket) :
    answeredRequests (e.managerReceivePacket p).dispatched = answeredRequests e.dispatched := by
  unfold managerReceivePacket
  split
  · split
    · exact answered_setState (.inl (by simp))
    · rfl
  · exact absurd ‹_› hs
  · split
    · exact answered_setState (.inr (h.passive (by rw [‹e.cmc.state = _›]; rfl)))
    · rfl
  · split
    · rfl
    · split
      · exact (answeredRequests_append_other rfl).trans (answered_setState (.inl (by simp)))
      · rfl
  · split
    · exact answered_setState (.inl (by simp))
    · split
      · exact answered_setState (.inl (by simp))
      · rfl
  · split
    · exact answered_setState (.inl (by simp))
    · rfl
  · split
    · exact answered_setState (.inl (by simp))
    · rfl
  · split
    · exact answered_setState (.inl (by simp))
    · rfl
  · split
    · exact (answeredRequests_append_other rfl).trans (answeredRequests_append_other rfl)
    · rfl
  · rfl
  · rfl

/-- A packet answers the ConnectEvent at the end of an active opening, and no other request. -/
theorem Answerable.accounted_managerReceivePacket (h : e.Answerable) (p : TCPPacket) :
    (e.managerReceivePacket p).accountedRequests = e.accountedRequests := by
  have hm := ManagerChange.receivePacket e p
  have hrc : (e.managerReceivePacket p).rc.receiveEvent = e.rc.receiveEvent := by rw [hm.rc]
  by_cases hs : e.cmc.state = .synSent
  · by_cases hp : (p.syn && p.ack) = true
    · obtain ⟨htype, hne⟩ := h.connect hs
      obtain ⟨c, hc⟩ := Option.ne_none_iff_exists'.1 hne
      have heq : e.managerReceivePacket p =
          (e.enqueue (.sendPacket { TCPPacket.new p.destination p.source [] with ack := true })).setState .established := by
        unfold managerReceivePacket
        rw [hs]
        simp only [hp, if_true]
      have hd : answeredRequests (e.managerReceivePacket p).dispatched =
          answeredRequests e.dispatched ++ [.connect c] := by
        rw [heq]
        exact answered_setState_active hs htype hc
      have hafter : (e.managerReceivePacket p).waitingConnect = none :=
        waitingConnect_of_ne (by rw [heq, setState_state]; simp)
      have hbefore : e.waitingConnect = some c := by
        unfold waitingConnect
        rw [if_pos hs, hc]
      unfold accountedRequests waitingRequests
      rw [hd, hafter, hbefore, hm.savedSendEvent, hrc, List.append_assoc]
      rfl
    · have heq : e.managerReceivePacket p = e := by
        unfold managerReceivePacket
        rw [hs]
        simp only [hp, Bool.false_eq_true, if_false]
      rw [heq]
  · have hconnect : (e.managerReceivePacket p).waitingConnect = e.waitingConnect := by
      rw [waitingConnect_of_ne hs, waitingConnect_of_ne fun hs' => hs (managerReceivePacket_synSent hs')]
    unfold accountedRequests
    rw [h.answered_managerReceivePacket hs p, waitingRequests_congr hconnect hm.savedSendEvent hrc]

theorem Answerable.managerReceivePacket (h : e.Answerable)
    (hp : e.rc.receiveEvent ≠ none → e.cmc.state.endsReceiving p = false) : (e.managerReceivePacket p).Answerable := by
  obtain ⟨htype, hconnect⟩ := managerReceivePacket_noted e p
  refine h.manager (.receivePacket e p) htype hconnect (deletes (Appends.managerReceivePacket e p)) managerReceivePacket_synSent
    Places.managerReceivePacket_listening (fun hs => ?_) (fun _ => (Keeps.managerReceivePacket e p).canSend)
    fun hr hs => managerReceivePacket_receives (hp hr) hs
  unfold Endpoint.managerReceivePacket
  rw [hs]
  exact hs

/-! ### Closing -/

theorem managerClose_noted (e : Endpoint) : e.managerClose.cmc.connectionType = e.cmc.connectionType ∧
    e.managerClose.cmc.connectEvent = e.cmc.connectEvent := by
  unfold managerClose
  split
  · exact setState_noted _ _
  · split
    · exact setState_noted e .finWait1
    · exact ⟨rfl, rfl⟩
  · exact setState_noted _ _
  · exact ⟨rfl, rfl⟩

theorem answered_managerClose (e : Endpoint) :
    answeredRequests e.managerClose.dispatched = answeredRequests e.dispatched := by
  unfold managerClose
  split
  · exact answered_setState (.inl (by simp))
  · split
    · exact answered_setState (e := e) (.inl (by simp))
    · rfl
  · exact answered_setState (.inl (by simp))
  · rfl

/-- Closing goes on receiving, and starts no opening. -/
theorem managerClose_state (e : Endpoint) :
    (e.cmc.state.canReceive = true → e.managerClose.cmc.state.canReceive = true) ∧
      (e.cmc.state = .closed ∨ e.cmc.state = .synSent → e.managerClose = e) ∧
      (e.managerClose.cmc.state = .synSent → e.cmc.state = .synSent) ∧
      (e.managerClose.cmc.state.isListening = true → e.cmc.state.isListening = true) := by
  cases hs : e.cmc.state with
  | listen =>
    have hstate : e.managerClose.cmc.state = .closed := by
      simp only [managerClose, hs]
      exact setState_state _ _
    rw [hstate]
    simp [ConnectionManagerState.canReceive, ConnectionManagerState.isListening]
  | established =>
    have hstate : e.managerClose.cmc.state = .finWait1 ∨ e.managerClose.cmc.state = .established := by
      simp only [managerClose, hs]
      split
      · exact .inl (setState_state e .finWait1)
      · exact .inr hs
    rcases hstate with hstate | hstate <;>
      simp [hstate, ConnectionManagerState.canReceive, ConnectionManagerState.isListening]
  | closeWait =>
    have hstate : e.managerClose.cmc.state = .lastAck := by
      simp only [managerClose, hs]
      exact setState_state _ _
    rw [hstate]
    simp [ConnectionManagerState.canReceive, ConnectionManagerState.isListening]
  | _ =>
    have heq : e.managerClose = e := by simp only [managerClose, hs]
    simp [heq, hs]

/-- Closing when everything has been sent answers nothing, and gives nothing up that waits. -/
theorem Answerable.managerClose (h : e.Answerable) (hsaved : e.savedSendEvent = none) :
    e.managerClose.Answerable ∧ e.managerClose.accountedRequests = e.accountedRequests := by
  have hm := ManagerChange.close e
  obtain ⟨htype, hconnect⟩ := managerClose_noted e
  obtain ⟨hreceives, hstays, hsyn, hlisten⟩ := managerClose_state e
  constructor
  · refine h.manager hm htype hconnect ?_ hsyn hlisten (fun hs => ?_) (fun hs => absurd hsaved hs) fun _ => hreceives
    · rcases Appends.managerClose e with ⟨s, -, heq⟩ | ⟨-, hd⟩ | heq
      · rw [heq]
        exact ⟨_, rfl, by simp⟩
      · exact deletes (.inr hd)
      · rw [heq]
        exact deletes (.inl (.refl e))
    · rw [hstays (.inl hs)]
      exact hs
  · by_cases hs : e.cmc.state = .synSent
    · rw [hstays (.inr hs)]
    · have hnone : e.managerClose.waitingConnect = e.waitingConnect := by
        rw [waitingConnect_of_ne hs, waitingConnect_of_ne fun hs' => hs (hsyn hs')]
      have hrc : e.managerClose.rc.receiveEvent = e.rc.receiveEvent := by rw [hm.rc]
      unfold accountedRequests
      rw [answered_managerClose, waitingRequests_congr hnone hm.savedSendEvent hrc]

/-- A field that has no part in the requests is set. -/
theorem Undisturbed.of_same (hsaved : e'.savedSendEvent = e.savedSendEvent) (hrc : e'.rc = e.rc) (hcmc : e'.cmc = e.cmc)
    (hdel : e'.deleted = e.deleted) (hsocket : e'.socket = e.socket) (hd : answeredRequests e'.dispatched =
      answeredRequests e.dispatched) (hq : e'.queue = e.queue) : Undisturbed e e' :=
  ⟨hsaved, by rw [hrc], hcmc, hdel, by rw [hsocket], hd, ⟨[], by rw [hq, List.append_nil], by simp⟩,
    .inl (by rw [hsocket])⟩

theorem Answerable.runSavedClose (h : e.Answerable) :
    e.runSavedClose.Answerable ∧ e.runSavedClose.accountedRequests = e.accountedRequests := by
  rcases runSavedClose_cases e with ⟨⟨-, -, hsaved⟩, heq⟩ | ⟨-, heq⟩ <;> rw [heq]
  · obtain ⟨hclose, haccounted⟩ := h.managerClose hsaved
    have hclear : Undisturbed e.managerClose { e.managerClose with savedCloseEvent := none } :=
      .of_same rfl rfl rfl rfl rfl rfl rfl
    exact ⟨hclose.undisturbed hclear, hclear.accounted.trans haccounted⟩
  · exact ⟨h, rfl⟩

/-! ### One step -/

/-- `e'` accounts for what `e` does, and for what has come. -/
def Accounts (e : Endpoint) (q : Option LibraryRequest) (e' : Endpoint) : Prop :=
  e'.Answerable ∧ e'.accountedRequests.Perm (e.accountedRequests ++ q.toList)

theorem Accounts.of_perm (h : e'.Answerable) (ha : e'.accountedRequests.Perm e.accountedRequests) :
    Accounts e none e' :=
  ⟨h, ha.trans (.of_eq (List.append_nil _).symm)⟩

theorem Accounts.of_eq (h : e'.Answerable) (ha : e'.accountedRequests = e.accountedRequests) : Accounts e none e' :=
  .of_perm h (.of_eq ha)

theorem Undisturbed.accounts (hu : Undisturbed e e') (h : e.Answerable) : Accounts e none e' :=
  .of_eq (h.undisturbed hu) hu.accounted

theorem Answerable.receivePacket (h : e.Answerable) (hp : e.keepsReceiving p) (hr : e.receivePacket p = .ok e') :
    Accounts e none e' := by
  have hcase := receivePacket_cases e p
  rw [hr] at hcase
  cases hcase with
  | corrupt _ hr | ignored _ _ hr =>
    cases hr
    exact .of_eq h rfl
  | skipping _ _ _ hr => exact (Undisturbed.reliabilityReceivePacket hr.symm).accounts h
  | lingering _ _ hs hr =>
    cases hr
    refine .of_eq (h.managerReceivePacket fun _ => ?_) (h.accounted_managerReceivePacket p)
    rw [hs]
    rfl
  | answered _ _ hr =>
    cases hr
    exact (Undisturbed.createAndDispatchAck e).accounts h
  | parked _ _ _ _ _ hr =>
    cases hr
    have hu : Undisturbed e { e with savedFin := some p } := .of_same rfl rfl rfl rfl rfl rfl rfl
    exact hu.accounts h
  | taken hsum hack hseq hfin hr =>
    obtain ⟨e₁, h₁, hr⟩ := bind_eq_ok.1 hr.symm
    obtain ⟨e₂, h₂, hr⟩ := bind_eq_ok.1 hr
    cases hr
    have htakes : e.takes p = true := by
      unfold takes
      rw [hsum, hack, hseq]
      cases hf : p.fin with
      | false => rfl
      | true => simpa using hfin hf
    have hu := Undisturbed.reliabilityReceivePacket h₁
    have hbefore := h.undisturbed hu
    have hends : e₁.rc.receiveEvent ≠ none → e₁.cmc.state.endsReceiving p = false := by
      rw [hu.receiveEvent, hu.cmc]
      exact fun hwaits => hp hwaits htakes
    have hu₂ := Undisturbed.receiveUnlessDuplicate h₂
    obtain ⟨hafter, haccounted⟩ := ((hbefore.managerReceivePacket hends).undisturbed hu₂).runSavedClose
    refine .of_eq hafter ?_
    rw [haccounted, hu₂.accounted, hbefore.accounted_managerReceivePacket p, hu.accounted]

theorem Answerable.managerTimerFired (h : e.Answerable) (t : TimeoutEvent) : Accounts e none (e.managerTimerFired t) := by
  have hm := ManagerChange.timerFired e t
  have hq := Appends.managerTimerFired e t
  unfold Endpoint.managerTimerFired at hm hq ⊢
  split
  · rename_i hs
    simp only [hs] at hm hq
    split
    · rename_i ht
      rw [if_pos ht] at hm hq
      obtain ⟨htype, hconnect⟩ := setState_noted (e.enqueue .deleteSocket) .closed
      have hstate : ((e.enqueue .deleteSocket).setState .closed).cmc.state = .closed := setState_state _ _
      refine .of_eq (h.manager hm htype hconnect (deletes hq) ?_ ?_ ?_ (fun hne => ?_) fun hne => ?_) ?_
      · rw [hstate]
        simp
      · rw [hstate]
        exact fun hl => by cases hl
      · exact fun _ => hstate
      · exact absurd (h.saved_none (by rw [hs]; rfl)) hne
      · exact absurd (h.receive_none (by rw [hs]; rfl)) hne
      · have hwaiting : ((e.enqueue .deleteSocket).setState .closed).waitingConnect = e.waitingConnect := by
          rw [waitingConnect_of_ne (e := e) (by rw [hs]; simp), waitingConnect_of_ne (by rw [hstate]; simp)]
        unfold accountedRequests
        rw [answered_setState (.inl (by simp)), waitingRequests_congr hwaiting hm.savedSendEvent (by rw [hm.rc])]
        rfl
    · exact .of_eq h rfl
  · exact .of_eq h rfl

theorem Answerable.timerFired {t : TimeoutEvent} (h : e.Answerable) (ht : e.timerFired t = .ok e') :
    Accounts e none e' := by
  unfold Endpoint.timerFired at ht
  have hu := Undisturbed.reliabilityTimerFired e t
  obtain ⟨hmanager, haccounted⟩ := (h.undisturbed hu).managerTimerFired t
  have hu' := Undisturbed.congestionTimerFired ht
  refine ⟨hmanager.undisturbed hu', ?_⟩
  rw [hu'.accounted]
  exact haccounted.trans (.of_eq (by rw [hu.accounted]))

/-! ### Requests -/

theorem Answerable.close (h : e.Answerable) (c : CloseEvent) : Accounts e (some (.close c)) (e.close c) := by
  have hrespond {f : Endpoint} (hf : f.Answerable) (ha : f.accountedRequests = e.accountedRequests) :
      Accounts e (some (.close c)) (f.dispatch (.closeResponse c)) := by
    refine ⟨⟨hf.connect, hf.passive, hf.send, hf.receive, hf.deleting, hf.deleted⟩, ?_⟩
    rw [← ha]
    show (answeredRequests (f.dispatched ++ [.closeResponse c]) ++ f.waitingRequests).Perm _
    rw [answeredRequests_append_answer rfl]
    exact perm_answer _
  rcases close_cases e c with ⟨⟨-, hsaved⟩, heq⟩ | ⟨-, heq⟩ <;> rw [heq]
  · obtain ⟨hclose, haccounted⟩ := h.managerClose hsaved
    exact hrespond hclose haccounted
  · have hu : Undisturbed e { e with savedCloseEvent := some c } := .of_same rfl rfl rfl rfl rfl rfl rfl
    exact hrespond (h.undisturbed hu) hu.accounted

/-- Only a closed socket is told to listen; nothing waits there. -/
theorem Answerable.managerListen (h : e.Answerable) (hq : e.queue = []) (hdel : e.deleted = false) (l : ListenEvent) :
    Accounts e none (e.managerListen l) := by
  by_cases hs : e.cmc.state = .closed
  · have hsend := h.saved_none (by rw [hs]; rfl)
    have hreceive := h.receive_none (by rw [hs]; rfl)
    rw [managerListen_closed hs]
    refine .of_eq ⟨(fun hsyn => by cases hsyn), fun _ => rfl, fun hne => absurd hsend hne, fun hne => absurd hreceive hne,
      fun v hv => ?_, fun hd => ?_⟩ ?_
    · rw [show e.queue = [] from hq] at hv
      cases hv
    · rw [show e.deleted = false from hdel] at hd
      cases hd
    · have hwaiting : e.waitingConnect = none := waitingConnect_of_ne (by rw [hs]; simp)
      unfold accountedRequests waitingRequests
      rw [hwaiting]
      rfl
  · rw [managerListen_of_ne hs]
    exact .of_eq h rfl

/-- A ConnectEvent waits from the opening on. -/
theorem Answerable.managerConnect (h : e.Answerable) (hq : e.queue = []) (hdel : e.deleted = false)
    (hs : e.cmc.state = .closed) (c : ConnectEvent) : Accounts e (some (.connect c)) (e.managerConnect c) := by
  have hsend := h.saved_none (by rw [hs]; rfl)
  have hreceive := h.receive_none (by rw [hs]; rfl)
  rw [managerConnect_closed hs]
  refine ⟨⟨fun _ => ⟨rfl, by simp⟩, (fun hl => by cases hl), fun hne => absurd hsend hne, fun hne => absurd hreceive hne,
    fun v hv hk => ?_, fun hd => ?_⟩, ?_⟩
  · simp only [hq, List.nil_append, List.mem_singleton] at hv
    rw [hv] at hk
    cases hk
  · rw [show e.deleted = false from hdel] at hd
    cases hd
  · have hwaiting : e.waitingConnect = none := waitingConnect_of_ne (by rw [hs]; simp)
    unfold accountedRequests waitingRequests
    rw [hwaiting]
    exact perm_wait (w := []) (.connect c)

/-- Bytes are taken into the send buffer, and the request is answered. -/
theorem Answerable.saveInBuffer (h : e.Answerable) (s : SendEvent) (n : Nat) :
    { e.saveInBuffer s n with savedSendEvent := none }.Answerable := by
  refine ⟨h.connect, h.passive, fun hne => absurd rfl hne, h.receive, fun v hv hk => ?_, h.deleted⟩
  rcases List.mem_append.1 hv with hv | hv
  · exact h.deleting v hv hk
  · rw [List.mem_singleton.1 hv] at hk
    cases hk

theorem answered_saveInBuffer (e : Endpoint) (s : SendEvent) (n : Nat) :
    answeredRequests (e.saveInBuffer s n).dispatched = answeredRequests e.dispatched ++ [.send s] :=
  answeredRequests_append_answer rfl

theorem Answerable.requestSend (h : e.Answerable) (hs : e.cmc.state.canSend = true) (hnone : e.savedSendEvent = none)
    {s : SendEvent} (hsend : e.send s = .ok e') : Accounts e (some (.send s)) e' := by
  obtain ⟨n, hroom, ⟨-, rfl⟩ | ⟨hzero, rfl⟩⟩ := send_ok hsend
  · have hsaved : ({ e.saveInBuffer s n with savedSendEvent := none } : Endpoint) = e.saveInBuffer s n := by
      rw [← hnone]
      rfl
    refine ⟨hsaved ▸ h.saveInBuffer s n, ?_⟩
    unfold accountedRequests
    rw [answered_saveInBuffer]
    exact perm_answer _
  · obtain ⟨hle, hn⟩ := getAvailableRoom_ok hroom
    refine ⟨⟨h.connect, h.passive, fun _ => ⟨hs, .inl ?_⟩, h.receive, h.deleting, h.deleted⟩, ?_⟩
    · show tcpSocketMaxBufferSize ≤ e.socket.sendBuffer.length
      omega
    · unfold accountedRequests waitingRequests
      rw [hnone]
      exact perm_wait (.send s)

/-- The notice of room: the request that waits is answered, or there is no room yet. -/
theorem Answerable.sendBufferNotFull (h : e.Answerable) (hq : e.queue = ⟨e.socket.id, .sendBufferNotFull⟩ :: vs)
    (hsend : Endpoint.sendBufferNotFull { e with queue := vs } = .ok e') : Accounts e none e' := by
  rcases sendBufferNotFull_ok hsend with ⟨hnone, rfl⟩ | ⟨s, n, hs, hroom, ⟨-, rfl⟩ | ⟨hzero, rfl⟩⟩
  · exact .of_eq (h.pop hq (.inl hnone)) rfl
  · replace hs : e.savedSendEvent = some s := hs
    have hset : Answerable { e with savedSendEvent := none } :=
      ⟨h.connect, h.passive, fun hne => absurd rfl hne, h.receive, h.deleting, h.deleted⟩
    have hpop : Answerable { e with queue := vs, savedSendEvent := none } := hset.pop hq (.inl rfl)
    refine .of_perm (hpop.saveInBuffer s n) ?_
    unfold accountedRequests waitingRequests
    show (answeredRequests (Endpoint.saveInBuffer { e with queue := vs } s n).dispatched ++ _).Perm _
    rw [answered_saveInBuffer, hs]
    exact perm_answer_waiting (.send s)
  · obtain ⟨hle, hn⟩ := getAvailableRoom_ok hroom
    replace hn : n = tcpSocketMaxBufferSize - e.socket.sendBuffer.length := hn
    refine .of_eq ⟨h.connect, h.passive, fun hne => ⟨(h.send hne).1, .inl ?_⟩, h.receive,
      fun v hv => h.deleting v ?_, h.deleted⟩ rfl
    · show tcpSocketMaxBufferSize ≤ e.socket.sendBuffer.length
      omega
    · rw [hq]
      exact List.mem_cons_of_mem _ hv

/-! ### Received data -/

/-- Handing data over answers the request, and leaves the others alone. -/
theorem receivedData_undisturbed (e : Endpoint) (r : ReceiveEvent) :
    Undisturbed e { e.createAndDispatchReceivedData r with dispatched := e.dispatched } := by
  have hf := SendFrame.createAndDispatchReceivedData e r
  exact ⟨hf.savedSendEvent, createAndDispatchReceivedData_receiveEvent e r, createAndDispatchReceivedData_cmc e r,
    hf.deleted, hf.id, rfl, (Appends.createAndDispatchReceivedData e r).keepsSocket,
    .inl (congrArg List.length hf.sendBuffer).ge⟩

theorem answered_receivedData (e : Endpoint) (r : ReceiveEvent) :
    answeredRequests (e.createAndDispatchReceivedData r).dispatched = answeredRequests e.dispatched ++ [.receive r] := by
  unfold createAndDispatchReceivedData
  simp only
  split <;> exact answeredRequests_append_answer rfl

theorem waitingRequests_receivedData (e : Endpoint) (r : ReceiveEvent) :
    (e.createAndDispatchReceivedData r).waitingRequests = e.waitingRequests := by
  have hu := receivedData_undisturbed e r
  have hconnect : (e.createAndDispatchReceivedData r).waitingConnect = e.waitingConnect := by
    unfold waitingConnect
    rw [createAndDispatchReceivedData_cmc]
  exact waitingRequests_congr hconnect hu.savedSendEvent hu.receiveEvent

theorem Answerable.receivedData (h : e.Answerable) (r : ReceiveEvent) :
    (e.createAndDispatchReceivedData r).Answerable :=
  have hu := h.undisturbed (receivedData_undisturbed e r)
  ⟨hu.connect, hu.passive, hu.send, hu.receive, hu.deleting, hu.deleted⟩

theorem Answerable.requestReceive (h : e.Answerable) (hs : e.cmc.state.canReceive = true) {r : ReceiveEvent}
    (hr : e.reliabilityReceive r = .ok e') : Accounts e (some (.receive r)) e' := by
  rcases reliabilityReceive_ok hr with ⟨-, rfl⟩ | ⟨-, hnone, rfl⟩
  · refine ⟨h.receivedData r, ?_⟩
    unfold accountedRequests
    rw [answered_receivedData, waitingRequests_receivedData]
    exact perm_answer _
  · refine ⟨⟨h.connect, h.passive, h.send, fun _ => hs, h.deleting, h.deleted⟩, ?_⟩
    unfold accountedRequests waitingRequests
    rw [hnone]
    exact perm_wait_last (.receive r)

theorem Answerable.receiveBufferNotEmpty (h : e.Answerable) : Accounts e none e.reliabilityReceiveBufferNotEmpty := by
  rcases receiveBufferNotEmpty_cases e with heq | ⟨r, hr, -, heq⟩ <;> rw [heq]
  · exact .of_eq h rfl
  · have hdata := h.receivedData r
    refine .of_perm
      ⟨hdata.connect, hdata.passive, hdata.send, fun hne => absurd rfl hne, hdata.deleting, hdata.deleted⟩ ?_
    have hu := receivedData_undisturbed e r
    have hconnect : (e.createAndDispatchReceivedData r).waitingConnect = e.waitingConnect := by
      unfold waitingConnect
      rw [createAndDispatchReceivedData_cmc]
    unfold accountedRequests waitingRequests
    show (answeredRequests (e.createAndDispatchReceivedData r).dispatched ++
      ((e.createAndDispatchReceivedData r).waitingConnect.toList.map _ ++
        ((e.createAndDispatchReceivedData r).savedSendEvent.toList.map _ ++ []))).Perm _
    rw [answered_receivedData, hconnect, hu.savedSendEvent, hr]
    exact perm_answer_last (.receive r)

/-! ### Protocol events -/

/-- A waiting event of the socket. -/
theorem Answerable.event {k : ProtocolEventKind} (h : e.Answerable) (hc : e.ClosingSends)
    (hq : e.queue = ⟨e.socket.id, k⟩ :: vs) (hk : Endpoint.handleProtocolEvent { e with queue := vs } k = .ok e') :
    Accounts e none e' := by
  by_cases hnotice : k = .sendBufferNotFull
  · rw [hnotice] at hq hk
    exact h.sendBufferNotFull hq hk
  have hpop : Answerable { e with queue := vs } := h.pop hq (.inr (by simpa using hnotice))
  cases k with
  | sendPacket p => exact (Undisturbed.sendPacket hk).accounts hpop
  | resendPacket r => exact (Undisturbed.congestionResendPacket hk).accounts hpop
  | sendBufferNotEmpty => exact (Undisturbed.sendPackets hk).accounts hpop
  | sendBufferNotFull => exact absurd rfl hnotice
  | receiveBufferNotEmpty =>
    cases hk
    exact hpop.receiveBufferNotEmpty
  | receiveBufferNotFull =>
    cases hk
    rcases receiveBufferNotFull_cases { e with queue := vs } with ⟨-, heq⟩ | ⟨p, -, -, heq⟩ <;> rw [heq]
    · exact .of_eq hpop rfl
    · have hu : Undisturbed { e with queue := vs } ({ e with queue := vs, redelivered := e.redelivered ++ [p]
          }.dispatch (.networkReceivePacket p)) := .of_same rfl rfl rfl rfl rfl (answeredRequests_append_other rfl) rfl
      exact hu.accounts hpop
  | connectionInitiated s l r li =>
    cases hk
    -- a new connection starts in SYN_RECEIVED, where nothing waits
    have hstate : e.cmc.state = .synReceived := by
      refine hc.moves ?_
      simp [hq, Wifu.initiations, ProtocolEvent.isInitiation]
    have hsend := h.saved_none (by rw [hstate]; rfl)
    exact .of_eq ⟨hpop.connect, hpop.passive, fun hne => absurd hsend hne, hpop.receive, hpop.deleting, hpop.deleted⟩ rfl
  | connectionEstablished s =>
    cases hk
    exact .of_eq hpop rfl
  | deleteSocket =>
    cases hk
    have hclosed := h.deleting _ (by rw [hq]; exact List.mem_cons_self) rfl
    exact .of_eq ⟨hpop.connect, hpop.passive, hpop.send, hpop.receive, hpop.deleting, fun _ => hclosed⟩ rfl

/-- The condition on a packet that is delivered. -/
theorem answersRequests_delivered {h : List LibraryRequest} (hi : answersRequests (e, h) i) (hd : e.delivered i = some p) :
    e.keepsReceiving p := by
  cases i with
  | packet q =>
    simp only [delivered] at hd
    split at hd
    · cases hd
    · cases hd
      exact hi
  | redeliver =>
    simp only [delivered] at hd
    split at hd
    · cases hd
    · exact hi p hd
  | _ => cases hd

/-- A step that brings no request. -/
theorem Answerable.other {h : List LibraryRequest} (ha : e.Answerable) (hc : e.deleted = true ∨ e.ClosingSends)
    (hen : enabled i e) (hi : answersRequests (e, h) i) (hnone : i.request = none) (hstep : Endpoint.step i e = .ok e') :
    Accounts e none e' := by
  cases step_ok hstep with
  | dropped _ hr =>
    cases hr
    exact .of_eq ha rfl
  | @skipped v vs hq hother hr =>
    cases hr
    refine .of_eq (ha.pop hq ?_) rfl
    by_cases hdel : e.deleted = true
    · exact .inl (ha.saved_none (by rw [ha.deleted hdel]; rfl))
    · refine .inr ?_
      rintro rfl
      simp [contains, hdel] at hother
  | @event v vs hq hs hdel hr =>
    obtain ⟨s, k⟩ := v
    subst hs
    exact ha.event (hc.resolve_left (by simp [hdel])) hq hr.symm
  | @packet _ p ps hd hdel hps hr =>
    have hpop : Answerable { e with redelivered := ps } :=
      ⟨ha.connect, ha.passive, ha.send, ha.receive, ha.deleting, ha.deleted⟩
    have hkeeps : e.keepsReceiving p := answersRequests_delivered hi hd
    exact hpop.receivePacket hkeeps hr.symm
  | listen l hdel hr =>
    cases hr
    exact ha.managerListen hen hdel l
  | timerFired t _ _ hr => exact ha.timerFired hr.symm
  | tick _ _ hr =>
    cases hr
    exact .of_eq ⟨ha.connect, ha.passive, ha.send, ha.receive, ha.deleting, ha.deleted⟩ rfl
  | connect | send | receive | close => cases hnone

/-- What a step does about the requests. -/
theorem Answerable.step {h : List LibraryRequest} (ha : e.Answerable) (hc : e.deleted = true ∨ e.ClosingSends)
    (hen : enabled i e) (hi : answersRequests (e, h) i) (hstep : Endpoint.step i e = .ok e') :
    Accounts e i.request e' := by
  cases hr : i.request with
  | none => exact ha.other hc hen hi hr hstep
  | some q =>
    cases i with
    | connect c =>
      cases hr
      obtain ⟨hdel, hs⟩ := hi
      replace hdel : e.deleted = false := hdel
      simp only [Endpoint.step, handleLow, hdel, Bool.false_eq_true, if_false, Except.ok.injEq] at hstep
      rw [← hstep]
      exact ha.managerConnect hen hdel hs c
    | send d =>
      cases hr
      obtain ⟨hdel, hs, hnone, -⟩ := hi
      replace hdel : e.deleted = false := hdel
      replace hs : e.cmc.state.canSend = true := hs
      simp only [Endpoint.step, handleLow, hdel, hs, Bool.false_eq_true, if_false, if_true] at hstep
      exact ha.requestSend hs hnone hstep
    | receive r =>
      cases hr
      obtain ⟨hdel, hs, -⟩ := hi
      replace hdel : e.deleted = false := hdel
      replace hs : e.cmc.state.canReceive = true := hs
      simp only [Endpoint.step, handleLow, hdel, hs, Bool.false_eq_true, if_false, if_true] at hstep
      exact ha.requestReceive hs hstep
    | close c =>
      cases hr
      replace hi : e.deleted = false := hi
      simp only [Endpoint.step, handleLow, hi, Bool.false_eq_true, if_false, Except.ok.injEq] at hstep
      rw [← hstep]
      exact ha.close c
    | _ => cases hr

/-! ### Runs -/

/-- Each request that has come is answered, or waits where it will be answered: once, counted as often as it came. -/
structure RequestsKept (s : Endpoint × List LibraryRequest) : Prop where
  accounted : (answeredRequests s.1.dispatched ++ s.1.waitingRequests).Perm s.2
  answerable : s.1.Answerable
  /-- A request to receive waits for data, or for the notice of it. -/
  data : s.1.rc.receiveEvent = none ∨ s.1.socket.receiveBuffer = [] ∨
    s.1.deleted = false ∧ Announced s.1.socket.id s.1.queue

/-- Along every run whose steps answer or keep their requests, no request is lost. -/
theorem run_requestsKept {id : SocketId} {l r : AddressPort} {is : List Input} {s : Endpoint × List LibraryRequest}
    (h : requestMachine.Run answersRequests (create id l r, []) is s) : RequestsKept s := by
  have hinv := h.invariant (fun s => s.1.Answerable ∧ s.1.accountedRequests.Perm s.2 ∧ s.1.Delivering ∧
    (s.1.deleted = true ∨ s.1.ClosingSends)) ⟨.create id l r, .refl [], .create id l r, .inr (.create id l r)⟩ ?_
  · obtain ⟨hanswerable, haccounted, hdelivering, -⟩ := hinv
    exact ⟨haccounted, hanswerable, hdelivering.waiting⟩
  · rintro ⟨e, h⟩ i ⟨e', h'⟩ ⟨hanswerable, haccounted, hdelivering, hclosing⟩ hen hi hs
    obtain ⟨hstep, hobs⟩ := Transition.Machine.observed_step.1 hs
    replace hobs : h' = h ++ i.request.toList := hobs
    obtain ⟨hanswerable', hperm⟩ := Answerable.step hanswerable hclosing hen hi hstep
    refine ⟨hanswerable', ?_, (hdelivering.step hclosing hen hstep).1, ?_⟩
    · rw [hobs]
      exact hperm.trans (haccounted.append_right _)
    · by_cases hdel : e.deleted = true
      · exact .inl (step_deleted hdel hstep)
      · exact .inr ((hclosing.resolve_left hdel).step (by simpa using hdel) hen hstep)

/-- The step brings a request, or looks at one that waits. -/
def handlesRequest (e : Endpoint) (i : Input) : Prop :=
  i.request ≠ none ∨ i = .drain ∧ ∃ v ∈ e.queue.head?, v.kind = .sendBufferNotFull ∨ v.kind = .receiveBufferNotEmpty

theorem getAvailableRoom_succeeds (h : e.socket.sendBuffer.length ≤ tcpSocketMaxBufferSize) :
    e.getAvailableRoom = .ok (tcpSocketMaxBufferSize - e.socket.sendBuffer.length) := by
  unfold getAvailableRoom check
  rw [if_pos (by simpa using h)]
  rfl

/-- No request is stopped by an assertion. -/
theorem answersRequests_succeeds {h : List LibraryRequest} (hi : answersRequests (e, h) i) (hr : e.handlesRequest i) :
    ∃ e', Endpoint.step i e = .ok e' := by
  rcases hr with hr | ⟨rfl, v, hv, hk⟩
  · cases i with
    | connect c =>
      replace hi : e.deleted = false := hi.1
      exact ⟨e.managerConnect c, by simp only [Endpoint.step, handleLow, hi, Bool.false_eq_true, if_false]⟩
    | send d =>
      obtain ⟨hdel, hs, -, hle⟩ := hi
      replace hdel : e.deleted = false := hdel
      replace hs : e.cmc.state.canSend = true := hs
      simp only [Endpoint.step, handleLow, hdel, hs, Bool.false_eq_true, if_false, if_true]
      cases hsend : e.send d with
      | ok e' => exact ⟨e', rfl⟩
      | error a =>
        have hroom := send_error hsend
        rw [getAvailableRoom_succeeds hle] at hroom
        cases hroom
    | receive r => exact receive_succeeds hi.2.2 r
    | close c =>
      replace hi : e.deleted = false := hi
      exact ⟨e.close c, by simp only [Endpoint.step, handleLow, hi, Bool.false_eq_true, if_false]⟩
    | _ => exact absurd rfl hr
  · cases hq : e.queue with
    | nil =>
      rw [hq] at hv
      cases hv
    | cons w vs =>
      rw [hq] at hv
      cases hv
      simp only [Endpoint.step, Endpoint.drain, hq]
      split
      · rename_i hown
        rcases hk with hk | hk
        · rw [hk]
          show ∃ e', Endpoint.sendBufferNotFull { e with queue := vs } = .ok e'
          have hhead : e.queue.head? = some ⟨e.socket.id, .sendBufferNotFull⟩ := by
            obtain ⟨s, k⟩ := v
            simp [contains] at hown
            rw [hq, ← hown.1, ← hk]
            rfl
          cases hsend : Endpoint.sendBufferNotFull { e with queue := vs } with
          | ok e' => exact ⟨e', rfl⟩
          | error a =>
            have hroom := sendBufferNotFull_error hsend
            by_cases hnone : e.savedSendEvent = none
            · unfold Endpoint.sendBufferNotFull at hsend
              rw [show ({ e with queue := vs } : Endpoint).savedSendEvent = none from hnone] at hsend
              cases hsend
            · rw [getAvailableRoom_succeeds (e := { e with queue := vs }) (hi hnone hhead)] at hroom
              cases hroom
        · rw [hk]
          exact ⟨_, rfl⟩
      · exact ⟨_, rfl⟩

end

end Endpoint

end Wifu
