import Wifu.SendBuffer

/-!
# What the application receives

Bytes enter the receive buffer in `handle_data` only, and leave it in `create_and_dispatch_received_data` only, called for a
request that has just arrived or for the one that waits for data.  The history keeps the requests that arrived, the answers
to them and the bytes that entered the receive buffer; it begins anew when the container moves to a new socket.
-/

namespace Wifu

/-- The request that a response answers, and its payload. -/
def FrameworkEvent.receiveAnswer : FrameworkEvent → Option (ReceiveEvent × List UInt8)
  | .receiveResponse r data _ => some (r, data)
  | _ => none

/-- The responses to the application's receive requests. -/
def receiveResponses (d : List FrameworkEvent) : List (ReceiveEvent × List UInt8) :=
  d.filterMap FrameworkEvent.receiveAnswer

section Responses

variable {d d' : List FrameworkEvent}

@[simp] theorem receiveResponses_append : receiveResponses (d ++ d') = receiveResponses d ++ receiveResponses d' := by
  simp [receiveResponses]

theorem receiveResponses_append_other {f : FrameworkEvent} (hf : f.receiveAnswer = none) :
    receiveResponses (d ++ [f]) = receiveResponses d := by
  simp [receiveResponses, hf]

theorem receiveResponses_transfers (d : List FrameworkEvent) :
    receiveResponses (transfers d) = receiveResponses d := by
  unfold receiveResponses transfers
  rw [List.filterMap_filter]
  congr 1
  funext f
  cases f <;> rfl

theorem receiveResponses_congr (h : transfers d' = transfers d) : receiveResponses d' = receiveResponses d := by
  rw [← receiveResponses_transfers, h, receiveResponses_transfers]

end Responses

/-- The requests that arrived, the answers with their payloads, and the bytes that entered the receive buffer, each in their
order. -/
structure ReceiveHistory where
  arrived : List ReceiveEvent := []
  answers : List (ReceiveEvent × List UInt8) := []
  stream : List UInt8 := []
  deriving DecidableEq

/-- A socket of the listening side, until its handshake is over. -/
def ConnectionManagerState.isListening : ConnectionManagerState → Bool
  | .listen | .synReceived => true
  | _ => false

theorem ConnectionManagerState.not_isListening_of_canReceive {s : ConnectionManagerState} (h : s.canReceive = true) :
    s.isListening = false ∧ s ≠ .closed := by
  cases s <;> simp_all [ConnectionManagerState.canReceive, ConnectionManagerState.isListening]

/-! ### The notice that there is data -/

/-- The socket is told that its receive buffer is not empty, before any socket is deleted. -/
def Announced (s : SocketId) (q : List ProtocolEvent) : Prop :=
  ∃ before after, q = before ++ ⟨s, .receiveBufferNotEmpty⟩ :: after ∧ ∀ v ∈ before, v.kind ≠ .deleteSocket

section Announced

variable {s : SocketId} {v : ProtocolEvent} {q : List ProtocolEvent}

theorem not_announced_nil : ¬Announced s [] := by
  rintro ⟨before, after, h, -⟩
  simp at h

theorem Announced.append (h : Announced s q) (q' : List ProtocolEvent) : Announced s (q ++ q') := by
  obtain ⟨before, after, rfl, hkeep⟩ := h
  exact ⟨before, after ++ q', by simp, hkeep⟩

/-- The notice comes next, or another event that keeps the socket. -/
theorem Announced.cons (h : Announced s (v :: q)) :
    v = ⟨s, .receiveBufferNotEmpty⟩ ∨ v.kind ≠ .deleteSocket ∧ Announced s q := by
  obtain ⟨before, after, h, hkeep⟩ := h
  cases before with
  | nil =>
    left
    exact (List.cons.inj h).1
  | cons w before =>
    right
    obtain ⟨rfl, rfl⟩ := List.cons.inj h
    exact ⟨hkeep v List.mem_cons_self, before, after, rfl, fun w hw => hkeep w (List.mem_cons_of_mem v hw)⟩

end Announced

namespace Endpoint

/-- The bytes of the receive buffer that the application has not read. -/
def unreadBytes (e : Endpoint) : List UInt8 := e.socket.receiveBuffer.drop e.rc.receiveIndex

/-- The request that a step takes in: the socket is there and may receive. -/
def requested (e : Endpoint) : Input → Option ReceiveEvent
  | .receive r => if !e.deleted && e.cmc.state.canReceive then some r else none
  | _ => none

/-- The step moves the container to the socket made for its connection. -/
def movesOn (e : Endpoint) : Input → Bool
  | .drain => e.queue.head?.any fun v => v.isInitiation && e.contains v.socket
  | _ => false

/-- What a step adds to the history. -/
def observeReceives (e : Endpoint) (i : Input) (e' : Endpoint) (h : ReceiveHistory) : ReceiveHistory :=
  if e.movesOn i then {}
  else
    { arrived := h.arrived ++ (e.requested i).toList
      answers := h.answers ++ (receiveResponses e'.dispatched).drop (receiveResponses e.dispatched).length
      stream := h.stream ++ e'.socket.receiveBuffer.drop e.socket.receiveBuffer.length }

/-- The machine with the history of its receive requests. -/
def receiveMachine : Transition.Machine (Endpoint × ReceiveHistory) Input Abort := machine.observed observeReceives

instance (i : Input) (s : Endpoint × ReceiveHistory) : Decidable (receiveMachine.enabled i s) :=
  inferInstanceAs (Decidable (enabled i s.1))

/-! ### Handlers that hand nothing over -/

/-- `e'` has the bytes `l` behind those in the receive buffer of `e`, and tells the socket so; it has answered no request.  It
listens only if `e` did, and where it has closed the socket's deletion is in the queue. -/
structure Places (e : Endpoint) (l : List UInt8) (e' : Endpoint) : Prop where
  receiveEvent : e'.rc.receiveEvent = e.rc.receiveEvent
  receiveIndex : e'.rc.receiveIndex = e.rc.receiveIndex
  receiveBuffer : e'.socket.receiveBuffer = e.socket.receiveBuffer ++ l
  id : e'.socket.id = e.socket.id
  deleted : e'.deleted = e.deleted
  responses : receiveResponses e'.dispatched = receiveResponses e.dispatched
  grows : Grows e e'
  announced : e.queue = [] → l ≠ [] → Announced e'.socket.id e'.queue
  listening : e'.cmc.state.isListening = true → e.cmc.state.isListening = true
  closed : e'.cmc.state = .closed → e.cmc.state = .closed ∨ ⟨e'.socket.id, .deleteSocket⟩ ∈ e'.queue

section

variable {e e' e'' : Endpoint} {p : TCPPacket} {i : Input} {l : List UInt8} {v : ProtocolEvent} {vs : List ProtocolEvent}

namespace Places

/-- The receiving side and the state stay. -/
theorem of_same (hr : e'.rc.receiveEvent = e.rc.receiveEvent) (hi : e'.rc.receiveIndex = e.rc.receiveIndex)
    (hb : e'.socket.receiveBuffer = e.socket.receiveBuffer) (hid : e'.socket.id = e.socket.id)
    (hdel : e'.deleted = e.deleted) (hd : receiveResponses e'.dispatched = receiveResponses e.dispatched)
    (hstate : e'.cmc.state = e.cmc.state) (hg : Grows e e') : Places e [] e' where
  receiveEvent := hr
  receiveIndex := hi
  receiveBuffer := by rw [hb, List.append_nil]
  id := hid
  deleted := hdel
  responses := hd
  grows := hg
  announced := fun _ hne => absurd rfl hne
  listening := by rw [hstate]; exact fun h => h
  closed := by rw [hstate]; exact .inl

theorem refl (e : Endpoint) : Places e [] e := of_same rfl rfl rfl rfl rfl rfl rfl (.refl e)

/-- What follows places nothing. -/
theorem trans (h : Places e l e') (h' : Places e' [] e'') : Places e l e'' where
  receiveEvent := h'.receiveEvent.trans h.receiveEvent
  receiveIndex := h'.receiveIndex.trans h.receiveIndex
  receiveBuffer := by rw [h'.receiveBuffer, h.receiveBuffer, List.append_nil]
  id := h'.id.trans h.id
  deleted := h'.deleted.trans h.deleted
  responses := h'.responses.trans h.responses
  grows := h.grows.trans h'.grows
  announced := by
    intro hq hne
    obtain ⟨q, hq', -⟩ := h'.grows.queue
    rw [h'.id, hq']
    exact (h.announced hq hne).append q
  listening := fun hl => h.listening (h'.listening hl)
  closed := by
    intro hc
    rcases h'.closed hc with hc | hmem
    · refine (h.closed hc).imp_right fun hmem => ?_
      rw [h'.id]
      exact h'.grows.mem_queue hmem
    · exact .inr hmem

theorem congestion (h : CongestionChange e e') (hg : Grows e e') : Places e [] e' :=
  of_same (by rw [h.rc]) (by rw [h.rc]) (by rw [h.socket]) (by rw [h.socket]) h.deleted
    (receiveResponses_congr h.transfers) (by rw [h.cmc]) hg

theorem acknowledgement (h : AckChange e e') (hg : Grows e e') : Places e [] e' :=
  of_same h.receiveEvent h.receiveIndex h.receiveBuffer h.id h.deleted (receiveResponses_congr h.transfers)
    (by rw [h.cmc]) hg

theorem manager (h : ManagerChange e e') (hg : Grows e e')
    (hl : e'.cmc.state.isListening = true → e.cmc.state.isListening = true)
    (hc : e'.cmc.state = .closed → e.cmc.state = .closed ∨ ⟨e'.socket.id, .deleteSocket⟩ ∈ e'.queue) :
    Places e [] e' where
  receiveEvent := by rw [h.rc]
  receiveIndex := by rw [h.rc]
  receiveBuffer := by rw [h.socket, List.append_nil]
  id := by rw [h.socket]
  deleted := h.deleted
  responses := receiveResponses_congr h.transfers
  grows := hg
  announced := fun _ hne => absurd rfl hne
  listening := hl
  closed := hc

/-! ### The connection manager -/

/-- Only the listening states lead to the listening states. -/
theorem managerReceivePacket_listening (hl : (e.managerReceivePacket p).cmc.state.isListening = true) :
    e.cmc.state.isListening = true := by
  by_contra hnot
  cases hstate : e.cmc.state with
  | listen | synReceived => simp [hstate, ConnectionManagerState.isListening] at hnot
  | closed | closeWait => simp [Endpoint.managerReceivePacket, hstate, ConnectionManagerState.isListening] at hl
  | timeWait =>
    have hsame : (e.managerReceivePacket p).cmc.state = .timeWait := by
      simp only [Endpoint.managerReceivePacket, hstate]
      split <;> exact hstate
    simp [hsame, ConnectionManagerState.isListening] at hl
  | established =>
    have hclosing : ((e.createAndDispatchAck.setState .closeWait).dispatch (.preclose e.socket.id)).cmc.state =
        .closeWait := setState_state _ _
    simp only [Endpoint.managerReceivePacket, hstate] at hl
    split_ifs at hl <;> simp [hclosing, hstate, ConnectionManagerState.isListening] at hl
  | _ =>
    simp only [Endpoint.managerReceivePacket, hstate] at hl
    split_ifs at hl <;> simp [setState_state, hstate, ConnectionManagerState.isListening] at hl

theorem managerReceivePacket (e : Endpoint) (p : TCPPacket) : Places e [] (e.managerReceivePacket p) :=
  manager (.receivePacket e p) (.managerReceivePacket e p) managerReceivePacket_listening
    (Keeps.managerReceivePacket e p).closed

theorem managerClose (e : Endpoint) : Places e [] e.managerClose := by
  rcases Appends.managerClose e with ⟨s, hs, heq⟩ | ⟨-, hd⟩ | heq
  · refine manager (.close e) (.managerClose e) ?_ ?_
    · rw [heq]
      rcases hs with rfl | rfl <;> simp [ConnectionManagerState.isListening]
    · rw [heq]
      rcases hs with rfl | rfl <;> simp
  · refine manager (.close e) (.managerClose e) ?_ fun _ => .inr ?_
    · rw [hd.state]
      simp [ConnectionManagerState.isListening]
    · rw [hd.queue, (ManagerChange.close e).socket]
      simp
  · rw [heq]
    exact refl e

theorem runSavedClose (e : Endpoint) : Places e [] e.runSavedClose := by
  rcases runSavedClose_cases e with ⟨-, heq⟩ | ⟨-, heq⟩
  · rw [heq]
    exact (managerClose e).trans (of_same rfl rfl rfl rfl rfl rfl rfl (.of_eq rfl rfl))
  · rw [heq]
    exact refl e

theorem managerTimerFired (e : Endpoint) (t : TimeoutEvent) : Places e [] (e.managerTimerFired t) := by
  refine manager (.timerFired e t) (.managerTimerFired e t) ?_ (Keeps.managerTimerFired e t).closed
  unfold Endpoint.managerTimerFired
  split
  · split
    · rw [setState_state]
      simp [ConnectionManagerState.isListening]
    · exact fun h => h
  · exact fun h => h

/-! ### Packets -/

/-- An acknowledgement deletes no socket. -/
theorem handleAck_queue {b : Bool} (h : e.handleAck p = .ok (b, e')) :
    ∃ q, e'.queue = e.queue ++ q ∧ ∀ v ∈ q, v.kind ≠ .deleteSocket := by
  have hnew {f : Endpoint} (ha : Appends e f) : ∃ q, f.queue = e.queue ++ q ∧ ∀ v ∈ q, v.kind ≠ .deleteSocket := by
    obtain ⟨q, hq, hq'⟩ := ha
    exact ⟨q, hq, fun v hv => (hq' v hv).keepsSocket⟩
  unfold Endpoint.handleAck at h
  split at h
  · cases h
    exact hnew (.refl e)
  · split at h
    · obtain ⟨e₁, h₁, h⟩ := bind_eq_ok.1 h
      cases h
      exact hnew (.handleValidAck h₁)
    · split at h
      · cases h
        exact hnew (.createAndDispatchAck e)
      · split at h
        · cases h
          unfold handleDuplicateAck
          simp only
          split
          · exact ⟨[⟨e.socket.id, .resendPacket .threeDuplicateAcks⟩], rfl, by simp⟩
          · exact hnew (.of_eq rfl)
        · cases h
          exact hnew (.refl e)

/-- What an accepted packet appends to the receive buffer comes from data. -/
theorem receive_appends {w w' : ReceiveView} (h : w.receive p = .ok w') : w'.receiveIndex = w.receiveIndex ∧
    ∃ l, w'.receiveBuffer = w.receiveBuffer ++ l ∧ (l ≠ [] → (p.syn || p.fin) = false ∧ 0 < p.dataLengthBytes) := by
  unfold ReceiveView.receive at h
  split at h
  · cases h
    exact ⟨rfl, [], by simp [ReceiveView.controlBits]⟩
  · rename_i hc
    split at h
    · rename_i hd
      unfold ReceiveView.data at h
      obtain ⟨⟨n, b⟩, -, h⟩ := bind_eq_ok.1 h
      obtain ⟨_, -, h⟩ := bind_eq_ok.1 h
      obtain ⟨⟨l, b'⟩, -, h⟩ := bind_eq_ok.1 h
      cases h
      exact ⟨rfl, l, rfl, fun _ => ⟨by simpa using hc, hd⟩⟩
    · cases h
      exact ⟨rfl, [], by simp⟩

theorem reliabilityReceivePacket (h : e.reliabilityReceivePacket p = .ok e') : ∃ l, Places e l e' := by
  obtain ⟨e₁, hhandle, hack, h⟩ := reliabilityReceivePacket_ok h
  have hg : Grows e e₁ := (SendFrame.updateEchoReply e p).grows.trans (.handleAck hhandle)
  split at h
  · obtain ⟨w, hw, rfl⟩ := h
    obtain ⟨hindex, l, hl, hdata⟩ := receive_appends hw
    refine ⟨l, hack.receiveEvent, hindex, hl, hack.id, hack.deleted, receiveResponses_congr hack.transfers,
      hg.trans (SendFrame.withReceive e₁ w (SendFrame.acceptEvents e₁ p w)).grows, fun hq hne => ?_, ?_, ?_⟩
    · -- the notice stands behind what the acknowledgement has put in the queue
      obtain ⟨q, hq', hkeep⟩ := handleAck_queue hhandle
      have hecho : (e.updateEchoReply p).queue = [] := by
        unfold updateEchoReply
        split <;> exact hq
      rw [hecho, List.nil_append] at hq'
      obtain ⟨hcontrol, hlength⟩ := hdata hne
      have hlonger : e₁.socket.receiveBuffer.length < w.receiveBuffer.length := by
        have hpos := List.length_pos_iff.2 hne
        rw [hack.receiveBuffer, hl, List.length_append]
        exact Nat.lt_add_of_pos_right hpos
      refine ⟨e₁.queue, [⟨e₁.socket.id, .sendPacket e₁.emptyPacket⟩], ?_, fun v hv => hkeep v (hq' ▸ hv)⟩
      simp [acceptEvents, dataEvents, hcontrol, hlength, hlonger, withReceive]
    · show e₁.cmc.state.isListening = true → _
      rw [hack.cmc]
      exact fun h => h
    · show e₁.cmc.state = .closed → _
      rw [hack.cmc]
      exact .inl
  · rw [h]
    exact ⟨[], acknowledgement hack hg⟩

theorem receivePacket (h : e.receivePacket p = .ok e') : ∃ l, Places e l e' := by
  have hcase := receivePacket_cases e p
  rw [h] at hcase
  cases hcase with
  | corrupt _ h | ignored _ _ h =>
    cases h
    exact ⟨[], refl _⟩
  | skipping _ _ _ h => exact reliabilityReceivePacket h.symm
  | lingering _ _ _ h =>
    cases h
    exact ⟨[], managerReceivePacket e p⟩
  | answered _ _ h =>
    cases h
    exact ⟨[], of_same rfl rfl rfl rfl rfl rfl rfl (SendFrame.createAndDispatchAck e).grows⟩
  | parked _ _ _ _ _ h =>
    cases h
    exact ⟨[], of_same rfl rfl rfl rfl rfl rfl rfl (.of_eq rfl rfl)⟩
  | taken _ _ _ _ h =>
    obtain ⟨e₁, h₁, h⟩ := bind_eq_ok.1 h.symm
    obtain ⟨e₂, h₂, h⟩ := bind_eq_ok.1 h
    cases h
    obtain ⟨l, hl⟩ := reliabilityReceivePacket h₁
    have hcongestion := congestion (.receiveUnlessDuplicate h₂) (.receiveUnlessDuplicate h₂)
    exact ⟨l, ((hl.trans (managerReceivePacket e₁ p)).trans hcongestion).trans (runSavedClose e₂)⟩

/-! ### The other events -/

theorem timerFired {t : TimeoutEvent} (h : e.timerFired t = .ok e') : Places e [] e' := by
  unfold Endpoint.timerFired at h
  have hreliability := acknowledgement (.timerFired e t) (.reliabilityTimerFired e t)
  exact (hreliability.trans (managerTimerFired _ t)).trans (congestion (.timerFired h) (.congestionTimerFired h))

theorem saveInBuffer (e : Endpoint) (s : SendEvent) (n : Nat) : Places e [] (e.saveInBuffer s n) :=
  of_same rfl rfl rfl rfl rfl (receiveResponses_append_other rfl) rfl (.saveInBuffer e s n)

theorem send {s : SendEvent} (h : e.send s = .ok e') : Places e [] e' := by
  obtain ⟨n, -, ⟨-, rfl⟩ | ⟨-, rfl⟩⟩ := send_ok h
  · exact saveInBuffer e s n
  · exact of_same rfl rfl rfl rfl rfl rfl rfl (.of_eq rfl rfl)

theorem close (e : Endpoint) (c : CloseEvent) : Places e [] (e.close c) := by
  have hdispatch (f : Endpoint) : Places f [] (f.dispatch (.closeResponse c)) :=
    of_same rfl rfl rfl rfl rfl (receiveResponses_append_other rfl) rfl (.dispatch _ _)
  rcases close_cases e c with ⟨-, heq⟩ | ⟨-, heq⟩
  · rw [heq]
    exact (managerClose e).trans (hdispatch _)
  · have hsave : Places e [] { e with savedCloseEvent := some c } := of_same rfl rfl rfl rfl rfl rfl rfl (.of_eq rfl rfl)
    rw [heq]
    exact hsave.trans (hdispatch _)

/-- A protocol event that neither tells of data nor changes the socket. -/
theorem handleProtocolEvent {k : ProtocolEventKind} (hk : k ≠ .receiveBufferNotEmpty) (hdel : k ≠ .deleteSocket)
    (hinit : ∀ s l r li, k ≠ .connectionInitiated s l r li) (h : e.handleProtocolEvent k = .ok e') : Places e [] e' := by
  have hg := Grows.handleProtocolEvent h
  cases k with
  | sendPacket p =>
    have hstate := handleProtocolEvent_state h
    unfold Endpoint.handleProtocolEvent Endpoint.sendPacket at h
    obtain ⟨⟨q, e₁⟩, h₁, h⟩ := bind_eq_ok.1 h
    cases h
    have hack := AckChange.sendPacket h₁
    exact of_same hack.receiveEvent hack.receiveIndex hack.receiveBuffer hack.id hack.deleted
      ((receiveResponses_append_other rfl).trans (receiveResponses_congr hack.transfers)) hstate hg
  | resendPacket r => exact congestion (.resendPacket h) hg
  | sendBufferNotEmpty => exact congestion (.sendPackets h) hg
  | sendBufferNotFull =>
    rcases sendBufferNotFull_ok h with ⟨-, rfl⟩ | ⟨s, n, -, -, ⟨-, rfl⟩ | ⟨-, rfl⟩⟩
    · exact refl _
    · exact (saveInBuffer e s n).trans (of_same rfl rfl rfl rfl rfl rfl rfl (.of_eq rfl rfl))
    · exact refl _
  | receiveBufferNotFull =>
    cases h
    rcases receiveBufferNotFull_cases e with ⟨-, heq⟩ | ⟨q, -, -, heq⟩
    · rw [heq]
      exact refl e
    · rw [heq] at hg ⊢
      exact of_same rfl rfl rfl rfl rfl (receiveResponses_append_other rfl) rfl hg
  | connectionEstablished s =>
    cases h
    exact refl e
  | receiveBufferNotEmpty => exact absurd rfl hk
  | connectionInitiated s l r li => exact absurd rfl (hinit s l r li)
  | deleteSocket => exact absurd rfl hdel

end Places

/-! ### Answering a request -/

/-- `e'` has answered the request `r` with the next bytes that the application has not read. -/
structure Answers (e : Endpoint) (r : ReceiveEvent) (e' : Endpoint) : Prop where
  view : e'.receiveView = e.receiveView.read (e.readLength r)
  id : e'.socket.id = e.socket.id
  deleted : e'.deleted = e.deleted
  state : e'.cmc.state = e.cmc.state
  responses : receiveResponses e'.dispatched = receiveResponses e.dispatched ++ [(r, e.unreadBytes.take (e.readLength r))]
  grows : Grows e e'

theorem createAndDispatchReceivedData_answers (e : Endpoint) (r : ReceiveEvent) :
    Answers e r (e.createAndDispatchReceivedData r) := by
  have hf := SendFrame.createAndDispatchReceivedData e r
  refine ⟨createAndDispatchReceivedData_receiveView e r, hf.id, hf.deleted, ?_, ?_, hf.grows⟩
  · rw [createAndDispatchReceivedData_cmc]
  · unfold createAndDispatchReceivedData
    simp only
    split <;> exact receiveResponses_append

theorem createAndDispatchReceivedData_receiveEvent (e : Endpoint) (r : ReceiveEvent) :
    (e.createAndDispatchReceivedData r).rc.receiveEvent = e.rc.receiveEvent := by
  unfold createAndDispatchReceivedData
  simp only
  split <;> rfl

/-- The index stays in the buffer, which is cleared when everything has been read. -/
theorem read_index (w : ReceiveView) (n : Nat) : (w.read n).receiveIndex < (w.read n).receiveBuffer.length ∨
    (w.read n).receiveIndex = 0 ∧ (w.read n).receiveBuffer = [] := by
  by_cases hall : w.receiveIndex + n ≥ w.receiveBuffer.length
  · right
    simp [ReceiveView.read, hall]
  · left
    simp only [ReceiveView.read, hall, if_false]
    omega

/-- What is left behind the bytes read. -/
theorem read_drop (w : ReceiveView) (n : Nat) : (w.read n).receiveBuffer.drop (w.read n).receiveIndex =
    (w.receiveBuffer.drop w.receiveIndex).drop n := by
  rw [List.drop_drop]
  by_cases hall : w.receiveIndex + n ≥ w.receiveBuffer.length
  · rw [List.drop_of_length_le hall]
    simp [ReceiveView.read, hall]
  · simp only [ReceiveView.read, hall, if_false]

/-! ### The invariant -/

/-- No request to receive has come. -/
def Untouched (e : Endpoint) : Prop := e.rc.receiveEvent = none ∧ e.rc.receiveIndex = 0

/-- What holds of the receive buffer and of the request that waits for data. -/
structure Delivering (e : Endpoint) : Prop where
  index : e.rc.receiveIndex < e.socket.receiveBuffer.length ∨ e.rc.receiveIndex = 0 ∧ e.socket.receiveBuffer = []
  /-- Where a request and data wait, so does the notice that brings them together. -/
  waiting : e.rc.receiveEvent = none ∨ e.socket.receiveBuffer = [] ∨ e.deleted = false ∧ Announced e.socket.id e.queue
  listening : e.deleted = false → e.cmc.state.isListening = true → e.Untouched
  closed : e.deleted = false → e.cmc.state = .closed → e.Untouched ∨ ⟨e.socket.id, .deleteSocket⟩ ∈ e.queue

/-- What a step hands over: `a` is the request that it takes in. -/
inductive Delivery (e : Endpoint) (a : Option ReceiveEvent) (e' : Endpoint) : Prop
  | places (l : List UInt8) (ha : a = none) (hr : e'.rc.receiveEvent = e.rc.receiveEvent)
      (hi : e'.rc.receiveIndex = e.rc.receiveIndex) (hb : e'.socket.receiveBuffer = e.socket.receiveBuffer ++ l)
      (hd : receiveResponses e'.dispatched = receiveResponses e.dispatched)
  | answer (r : ReceiveEvent) (hfrom : a = some r ∧ e.rc.receiveEvent = none ∨ a = none ∧ e.rc.receiveEvent = some r)
      (hr : e'.rc.receiveEvent = none) (hb : e.socket.receiveBuffer ≠ [])
      (hv : e'.receiveView = e.receiveView.read (e.readLength r))
      (hd : receiveResponses e'.dispatched = receiveResponses e.dispatched ++
        [(r, e.unreadBytes.take (e.readLength r))])
  | save (r : ReceiveEvent) (ha : a = some r) (hnone : e.rc.receiveEvent = none) (hr : e'.rc.receiveEvent = some r)
      (hv : e'.receiveView = e.receiveView) (hd : receiveResponses e'.dispatched = receiveResponses e.dispatched)

theorem Places.delivery (h : Places e l e') : Delivery e none e' :=
  .places l rfl h.receiveEvent h.receiveIndex h.receiveBuffer h.responses

namespace Delivering

theorem create (id : SocketId) (l r : AddressPort) : (create id l r).Delivering where
  index := .inr ⟨rfl, rfl⟩
  waiting := .inl rfl
  listening := fun _ _ => ⟨rfl, rfl⟩
  closed := fun _ _ => .inl ⟨rfl, rfl⟩

/-- A handler that hands nothing over. -/
theorem places (h : e.Delivering) (hdel : e.deleted = false) (hq : e.queue = [] ∨ l = []) (hp : Places e l e') :
    e'.Delivering := by
  have huntouched (hu : e.Untouched) : e'.Untouched := ⟨hp.receiveEvent.trans hu.1, hp.receiveIndex.trans hu.2⟩
  refine ⟨?_, ?_, fun _ hl => huntouched (h.listening hdel (hp.listening hl)), fun _ hc => ?_⟩
  · rw [hp.receiveIndex, hp.receiveBuffer, List.length_append]
    rcases h.index with hlt | ⟨hzero, hnil⟩
    · left
      omega
    · cases l with
      | nil => exact .inr ⟨hzero, by rw [hnil]; rfl⟩
      | cons b l =>
        left
        rw [hzero, List.length_cons]
        omega
  · rw [hp.receiveEvent, hp.receiveBuffer, hp.deleted]
    by_cases hl : l = []
    · rw [hl, List.append_nil]
      refine h.waiting.imp_right (Or.imp_right fun hann => ⟨hdel, ?_⟩)
      obtain ⟨q, hq', -⟩ := hp.grows.queue
      rw [hp.id, hq']
      exact hann.2.append q
    · exact .inr (.inr ⟨hdel, hp.announced (hq.resolve_right hl) hl⟩)
  · rcases hp.closed hc with hc | hmem
    · refine (h.closed hdel hc).imp huntouched fun hmem => ?_
      rw [hp.id]
      exact hp.grows.mem_queue hmem
    · exact .inr hmem

/-- An event is taken off the queue that neither brings a request and data together nor deletes the socket. -/
theorem pop (h : e.Delivering) (hq : e.queue = v :: vs)
    (hnotice : (e.rc.receiveEvent = none ∨ e.socket.receiveBuffer = []) ∨ v ≠ ⟨e.socket.id, .receiveBufferNotEmpty⟩)
    (hdel : v ≠ ⟨e.socket.id, .deleteSocket⟩) : Delivering { e with queue := vs } := by
  refine ⟨h.index, ?_, h.listening, fun hd hc => (h.closed hd hc).imp_right fun hmem => ?_⟩
  · rcases hnotice with hidle | hne
    · exact hidle.imp_right .inl
    · refine h.waiting.imp_right (Or.imp_right fun hann => ⟨hann.1, ?_⟩)
      have hann := hann.2
      rw [hq] at hann
      exact (hann.cons.resolve_left hne).2
  · rw [hq] at hmem
    exact (List.mem_cons.1 hmem).resolve_left fun heq => hdel heq.symm

/-- A request has been answered, and none waits any more. -/
theorem answered {r : ReceiveEvent} (h : Answers e r e') (hr : e'.rc.receiveEvent = none)
    (hl : e.cmc.state.isListening = false) (hc : e.cmc.state = .closed → ⟨e.socket.id, .deleteSocket⟩ ∈ e.queue) :
    e'.Delivering := by
  refine ⟨?_, .inl hr, fun _ hlisten => ?_, fun _ hclosed => .inr ?_⟩
  · have hindex := read_index e.receiveView (e.readLength r)
    rw [← h.view] at hindex
    exact hindex
  · rw [h.state, hl] at hlisten
    cases hlisten
  · rw [h.id]
    exact h.grows.mem_queue (hc (h.state ▸ hclosed))

/-- A request comes while no event is pending: it is answered at once, or waits. -/
theorem receive {r : ReceiveEvent} (h : e.Delivering) (hq : e.queue = []) (hs : e.cmc.state.canReceive = true)
    (hstep : e.reliabilityReceive r = .ok e') : e'.Delivering ∧ Delivery e (some r) e' := by
  obtain ⟨hlisten, hclosed⟩ := ConnectionManagerState.not_isListening_of_canReceive hs
  rcases reliabilityReceive_ok hstep with ⟨hbuf, rfl⟩ | ⟨hbuf, hnone, rfl⟩
  · have hnone : e.rc.receiveEvent = none := by
      refine h.waiting.resolve_right ?_
      rintro (hnil | ⟨-, hann⟩)
      · exact hbuf hnil
      · rw [hq] at hann
        exact not_announced_nil hann
    have ha := createAndDispatchReceivedData_answers e r
    have hr := (createAndDispatchReceivedData_receiveEvent e r).trans hnone
    exact ⟨answered ha hr hlisten fun hc => absurd hc hclosed, .answer r (.inl ⟨rfl, hnone⟩) hr hbuf ha.view ha.responses⟩
  · refine ⟨⟨h.index, .inr (.inl hbuf), fun _ hl => ?_, fun _ hc => absurd hc hclosed⟩,
      .save r rfl hnone rfl rfl rfl⟩
    replace hl : e.cmc.state.isListening = true := hl
    rw [hlisten] at hl
    cases hl

/-- The notice that there is data: a request that waits is answered. -/
theorem receiveBufferNotEmpty (h : e.Delivering) (hdel : e.deleted = false)
    (hq : e.queue = ⟨e.socket.id, .receiveBufferNotEmpty⟩ :: vs) :
    (reliabilityReceiveBufferNotEmpty { e with queue := vs }).Delivering ∧
      Delivery e none (reliabilityReceiveBufferNotEmpty { e with queue := vs }) := by
  by_cases hidle : e.rc.receiveEvent = none ∨ e.socket.receiveBuffer = []
  · have hsame : reliabilityReceiveBufferNotEmpty { e with queue := vs } = { e with queue := vs } :=
      receiveBufferNotEmpty_idle hidle
    rw [hsame]
    exact ⟨h.pop hq (.inl hidle) (by simp), .places [] rfl rfl rfl (List.append_nil _).symm rfl⟩
  · obtain ⟨hr, hbuf⟩ := not_or.1 hidle
    obtain ⟨r, hr⟩ := Option.ne_none_iff_exists'.1 hr
    have hanswer : reliabilityReceiveBufferNotEmpty { e with queue := vs } =
        { createAndDispatchReceivedData { e with queue := vs } r with
          rc := { (createAndDispatchReceivedData { e with queue := vs } r).rc with receiveEvent := none } } :=
      receiveBufferNotEmpty_waiting hr hbuf
    have ha := createAndDispatchReceivedData_answers { e with queue := vs } r
    rw [hanswer]
    refine ⟨answered (e := { e with queue := vs }) (r := r) ⟨ha.view, ha.id, ha.deleted, ha.state, ha.responses,
      ha.grows.trans (.of_eq rfl rfl)⟩ rfl ?_ fun hc => ?_, .answer r (.inr ⟨rfl, hr⟩) rfl hbuf ha.view ha.responses⟩
    · -- no request waits at a listening socket
      by_contra hlisten
      have hnone := (h.listening hdel (by simpa using hlisten)).1
      rw [hr] at hnone
      cases hnone
    · rcases h.closed hdel hc with hu | hmem
      · have hnone := hu.1
        rw [hr] at hnone
        cases hnone
      · rw [hq] at hmem
        exact (List.mem_cons.1 hmem).resolve_left (by simp)

/-- A waiting event of the socket. -/
theorem event {k : ProtocolEventKind} (h : e.Delivering) (hdel : e.deleted = false) (hc : e.ClosingSends)
    (hq : e.queue = ⟨e.socket.id, k⟩ :: vs) (hk : Endpoint.handleProtocolEvent { e with queue := vs } k = .ok e') :
    e'.Delivering ∧ if e.movesOn .drain then e'.rc.receiveEvent = none ∧ e'.socket.receiveBuffer = []
      else Delivery e none e' := by
  have hmoves : e.movesOn .drain = (⟨e.socket.id, k⟩ : ProtocolEvent).isInitiation := by
    simp [movesOn, hq, contains, hdel]
  rw [hmoves]
  cases k with
  | receiveBufferNotEmpty =>
    cases hk
    exact h.receiveBufferNotEmpty hdel hq
  | connectionInitiated s l r li =>
    cases hk
    -- a new connection starts in SYN_RECEIVED, where no request has come
    have hstate : e.cmc.state = .synReceived := by
      refine hc.moves ?_
      simp [hq, Wifu.initiations, ProtocolEvent.isInitiation]
    have hu := h.listening hdel (by rw [hstate]; rfl)
    refine ⟨⟨.inr ⟨hu.2, rfl⟩, .inl hu.1, fun _ _ => hu, fun _ hclosed => ?_⟩, hu.1, rfl⟩
    replace hclosed : e.cmc.state = .closed := hclosed
    rw [hstate] at hclosed
    cases hclosed
  | deleteSocket =>
    cases hk
    have hopen : ¬true = false := by simp
    refine ⟨⟨h.index, ?_, fun hfalse => absurd hfalse hopen, fun hfalse => absurd hfalse hopen⟩,
      .places [] rfl rfl rfl (List.append_nil _).symm rfl⟩
    refine h.waiting.imp_right (Or.imp_right fun hann => ?_)
    -- the notice would stand behind the deletion
    have hann := hann.2
    rw [hq] at hann
    rcases hann.cons with heq | ⟨hkeep, -⟩
    · simp at heq
    · exact absurd rfl hkeep
  | _ =>
    have hp : Places { e with queue := vs } [] e' := .handleProtocolEvent (by simp) (by simp) (by simp) hk
    refine ⟨(h.pop hq (.inr (by simp)) (by simp)).places hdel (.inr rfl) hp, ?_⟩
    exact .places [] rfl hp.receiveEvent hp.receiveIndex hp.receiveBuffer hp.responses

/-- A step that takes the next event of the queue. -/
theorem drain (h : e.Delivering) (hdel : e.deleted = false) (hc : e.ClosingSends)
    (hstep : Endpoint.step .drain e = .ok e') : e'.Delivering ∧
      if e.movesOn .drain then e'.rc.receiveEvent = none ∧ e'.socket.receiveBuffer = [] else Delivery e none e' := by
  unfold Endpoint.step Endpoint.drain at hstep
  cases hq : e.queue with
  | nil =>
    simp only [hq] at hstep
    cases hstep
    have hmoves : e.movesOn .drain = false := by simp [movesOn, hq]
    rw [hmoves]
    exact ⟨h, (Places.refl e).delivery⟩
  | cons v vs =>
    simp only [hq] at hstep
    replace hstep : (if e.contains v.socket then Endpoint.handleProtocolEvent { e with queue := vs } v.kind
      else .ok { e with queue := vs }) = .ok e' := hstep
    by_cases hown : e.contains v.socket = true
    · rw [if_pos hown] at hstep
      have hs : v.socket = e.socket.id := by
        simp [contains] at hown
        exact hown.1
      obtain ⟨s, k⟩ := v
      subst hs
      exact h.event hdel hc hq hstep
    · -- the event is about another socket
      rw [if_neg hown] at hstep
      cases hstep
      have hne (k : ProtocolEventKind) : v ≠ ⟨e.socket.id, k⟩ := by
        rintro rfl
        simp [contains, hdel] at hown
      have hmoves : e.movesOn .drain = false := by simp [movesOn, hq, hown]
      rw [hmoves]
      exact ⟨h.pop hq (.inr (hne _)) (hne _), .places [] rfl rfl rfl (List.append_nil _).symm rfl⟩

/-- A closed socket starts to listen. -/
theorem managerListen (h : e.Delivering) (hdel : e.deleted = false) (hq : e.queue = []) (l : ListenEvent) :
    (e.managerListen l).Delivering ∧ Delivery e none (e.managerListen l) := by
  by_cases hs : e.cmc.state = .closed
  · rw [managerListen_closed hs]
    have hu : e.Untouched := (h.closed hdel hs).resolve_right (by simp [hq])
    exact ⟨⟨h.index, .inl hu.1, fun _ _ => hu, fun _ _ => .inl hu⟩, .places [] rfl rfl rfl (List.append_nil _).symm rfl⟩
  · rw [managerListen_of_ne hs]
    exact ⟨h, (Places.refl e).delivery⟩

theorem managerConnect (h : e.Delivering) (hdel : e.deleted = false) (hq : e.queue = []) (c : ConnectEvent) :
    (e.managerConnect c).Delivering ∧ Delivery e none (e.managerConnect c) := by
  by_cases hs : e.cmc.state = .closed
  · rw [managerConnect_closed hs]
    have hu : e.Untouched := (h.closed hdel hs).resolve_right (by simp [hq])
    exact ⟨⟨h.index, .inl hu.1, fun _ _ => hu, fun _ _ => .inl hu⟩, .places [] rfl rfl rfl (List.append_nil _).symm rfl⟩
  · rw [managerConnect_of_ne hs]
    exact ⟨h, (Places.refl e).delivery⟩

/-- An event of low priority. -/
theorem low (h : e.Delivering) (hdel : e.deleted = false) (hq : e.queue = []) (hi : i ≠ .drain)
    (hstep : Endpoint.step i e = .ok e') : e'.Delivering ∧ Delivery e (e.requested i) e' := by
  have hplaces {l : List UInt8} (hp : Places e l e') : e'.Delivering ∧ Delivery e none e' :=
    ⟨h.places hdel (.inl hq) hp, hp.delivery⟩
  by_cases hr : ∃ r, i = .receive r
  · obtain ⟨r, rfl⟩ := hr
    unfold Endpoint.step handleLow at hstep
    simp only [hdel, Bool.false_eq_true, if_false] at hstep
    by_cases hs : e.cmc.state.canReceive = true
    · rw [if_pos hs] at hstep
      simp only [requested, hdel, hs, Bool.not_false, Bool.true_and, if_true]
      exact h.receive hq hs hstep
    · rw [if_neg hs] at hstep
      cases hstep
      simp only [requested, hs, Bool.and_false, Bool.false_eq_true, if_false]
      exact hplaces (.refl e)
  · have hnone : e.requested i = none := by
      cases i with
      | receive r => exact absurd ⟨r, rfl⟩ hr
      | _ => rfl
    rw [hnone]
    cases step_ok hstep with
    | dropped _ hsame =>
      cases hsame
      exact hplaces (.refl e)
    | skipped | event => exact absurd rfl hi
    | @packet _ p ps _ _ _ hp =>
      have hpop : Places e [] { e with redelivered := ps } := .of_same rfl rfl rfl rfl rfl rfl rfl (.of_eq rfl rfl)
      obtain ⟨l, hl⟩ := Places.receivePacket hp.symm
      have hf := h.places hdel (.inr rfl) hpop
      exact ⟨hf.places hdel (.inl hq) hl, .places l rfl hl.receiveEvent hl.receiveIndex hl.receiveBuffer hl.responses⟩
    | listen l _ hsame =>
      cases hsame
      exact h.managerListen hdel hq l
    | connect c _ hsame =>
      cases hsame
      exact h.managerConnect hdel hq c
    | send _ _ _ hs => exact hplaces (.send hs.symm)
    | receive r => exact absurd ⟨r, rfl⟩ hr
    | close c _ hsame =>
      cases hsame
      exact hplaces (.close e c)
    | timerFired _ _ _ ht => exact hplaces (.timerFired ht.symm)
    | tick _ _ hsame =>
      cases hsame
      exact hplaces (.of_same rfl rfl rfl rfl rfl rfl rfl (.of_eq rfl rfl))

/-- What a step keeps, and what it hands over; a container that moves to a new socket has nothing to hand over. -/
theorem step (h : e.Delivering) (hc : e.deleted = true ∨ e.ClosingSends) (hen : enabled i e)
    (hstep : Endpoint.step i e = .ok e') : e'.Delivering ∧
      if e.movesOn i then e'.rc.receiveEvent = none ∧ e'.socket.receiveBuffer = []
      else Delivery e (e.requested i) e' := by
  by_cases hdel : e.deleted = true
  · obtain ⟨-, q, rfl⟩ := step_deleted_same hdel hstep
    have hnone : e.requested i = none := by cases i <;> simp [requested, hdel]
    have hmoves : e.movesOn i = false := by cases i <;> simp [movesOn, contains, hdel]
    rw [hnone, hmoves]
    refine ⟨⟨h.index, ?_, ?_, ?_⟩, .places [] rfl rfl rfl (List.append_nil _).symm rfl⟩
    · refine h.waiting.imp_right (Or.imp_right fun hann => ?_)
      rw [hdel] at hann
      cases hann.1
    · intro hfalse
      replace hfalse : e.deleted = false := hfalse
      rw [hdel] at hfalse
      cases hfalse
    · intro hfalse
      replace hfalse : e.deleted = false := hfalse
      rw [hdel] at hfalse
      cases hfalse
  · have hc := hc.resolve_left hdel
    have hdel : e.deleted = false := by simpa using hdel
    by_cases hi : i = .drain
    · subst hi
      exact h.drain hdel hc hstep
    · have hq : e.queue = [] := by
        cases i with
        | drain => exact absurd rfl hi
        | _ => exact hen
      have hmoves : e.movesOn i = false := by
        cases i with
        | drain => exact absurd rfl hi
        | _ => rfl
      rw [hmoves]
      exact h.low hdel hq hi hstep

end Delivering

/-! ### The history -/

/-- What the history says about an endpoint. -/
structure Delivered (s : Endpoint × ReceiveHistory) : Prop where
  delivering : s.1.Delivering
  closing : s.1.deleted = true ∨ s.1.ClosingSends
  order : s.2.answers.map Prod.fst ++ s.1.rc.receiveEvent.toList = s.2.arrived
  stream : s.2.answers.flatMap Prod.snd ++ s.1.unreadBytes = s.2.stream
  bounds : ∀ a ∈ s.2.answers, a.2.length ≤ a.1.dataLength ∧ (0 < a.1.dataLength → 1 ≤ a.2.length)

/-- The index does not exceed the receive buffer. -/
theorem Delivering.index_le (h : e.Delivering) : e.rc.receiveIndex ≤ e.socket.receiveBuffer.length := by
  rcases h.index with hlt | ⟨hzero, -⟩
  · exact Nat.le_of_lt hlt
  · rw [hzero]
    exact Nat.zero_le _

/-- Where there is data, some of it has not been read. -/
theorem Delivering.unread_pos (h : e.Delivering) (hb : e.socket.receiveBuffer ≠ []) : 0 < e.receiveView.unread := by
  rcases h.index with hlt | ⟨-, hnil⟩
  · exact Nat.sub_pos_of_lt hlt
  · exact absurd hnil hb

theorem length_unreadBytes (e : Endpoint) : e.unreadBytes.length = e.receiveView.unread := List.length_drop

/-- Reading takes nothing into the receive buffer. -/
theorem read_appends_nothing (w : ReceiveView) (n : Nat) :
    (w.read n).receiveBuffer.drop w.receiveBuffer.length = [] := by
  by_cases hall : w.receiveIndex + n ≥ w.receiveBuffer.length
  · simp [ReceiveView.read, hall]
  · simp [ReceiveView.read, hall]

theorem Delivered.step {h : ReceiveHistory} (hr : Delivered (e, h)) (hen : enabled i e)
    (hstep : Endpoint.step i e = .ok e') : Delivered (e', e.observeReceives i e' h) := by
  have horder : h.answers.map Prod.fst ++ e.rc.receiveEvent.toList = h.arrived := hr.order
  have hstream : h.answers.flatMap Prod.snd ++ e.unreadBytes = h.stream := hr.stream
  have hdelivering : e.Delivering := hr.delivering
  obtain ⟨hnew, hdelivery⟩ := hdelivering.step hr.closing hen hstep
  have hclosing : e'.deleted = true ∨ e'.ClosingSends := by
    by_cases hdel : e.deleted = true
    · exact .inl (step_deleted hdel hstep)
    · exact .inr ((hr.closing.resolve_left hdel).step (by simpa using hdel) hen hstep)
  by_cases hmoves : e.movesOn i = true
  · rw [if_pos hmoves] at hdelivery
    have hobs : e.observeReceives i e' h = {} := if_pos hmoves
    rw [hobs]
    refine ⟨hnew, hclosing, ?_, ?_, by simp⟩
    · simp [hdelivery.1]
    · simp [unreadBytes, hdelivery.2]
  · rw [if_neg hmoves] at hdelivery
    have hobs : e.observeReceives i e' h = ⟨h.arrived ++ (e.requested i).toList,
        h.answers ++ (receiveResponses e'.dispatched).drop (receiveResponses e.dispatched).length,
        h.stream ++ e'.socket.receiveBuffer.drop e.socket.receiveBuffer.length⟩ := if_neg hmoves
    rw [hobs]
    cases hdelivery with
    | places l ha hevent hindex hbuf hd =>
      rw [hd, hbuf, ha, List.drop_length, List.drop_left, List.append_nil]
      refine ⟨hnew, hclosing, ?_, ?_, hr.bounds⟩
      · show h.answers.map Prod.fst ++ e'.rc.receiveEvent.toList = h.arrived ++ []
        rw [hevent, horder, List.append_nil]
      · show h.answers.flatMap Prod.snd ++ e'.unreadBytes = h.stream ++ l
        have hunread : e'.unreadBytes = e.unreadBytes ++ l := by
          unfold unreadBytes
          rw [hindex, hbuf, List.drop_append_of_le_length hdelivering.index_le]
        rw [hunread, ← List.append_assoc, hstream]
    | answer r hfrom hevent hbuf hv hd =>
      have hbuffer : e'.socket.receiveBuffer = (e.receiveView.read (e.readLength r)).receiveBuffer :=
        congrArg ReceiveView.receiveBuffer hv
      have hunread : e'.unreadBytes = e.unreadBytes.drop (e.readLength r) := by
        have hdrop := read_drop e.receiveView (e.readLength r)
        rw [← hv] at hdrop
        exact hdrop
      have hnothing : e'.socket.receiveBuffer.drop e.socket.receiveBuffer.length = [] := by
        rw [hbuffer]
        exact read_appends_nothing e.receiveView (e.readLength r)
      rw [hd, hnothing, List.drop_left, List.append_nil]
      refine ⟨hnew, hclosing, ?_, ?_, fun a ha => ?_⟩
      · show (h.answers ++ [_]).map Prod.fst ++ e'.rc.receiveEvent.toList = h.arrived ++ _
        rw [hevent, ← horder]
        rcases hfrom with ⟨ha, hnone⟩ | ⟨ha, hwaits⟩
        · simp [ha, hnone]
        · simp [ha, hwaits]
      · show (h.answers ++ [_]).flatMap Prod.snd ++ e'.unreadBytes = h.stream
        rw [hunread, ← hstream]
        simp [List.flatMap_append]
      · rcases List.mem_append.1 ha with ha | ha
        · exact hr.bounds a ha
        · rw [List.mem_singleton.1 ha]
          show (e.unreadBytes.take (e.readLength r)).length ≤ r.dataLength ∧
            (0 < r.dataLength → 1 ≤ (e.unreadBytes.take (e.readLength r)).length)
          rw [List.length_take, length_unreadBytes]
          have hpos := hdelivering.unread_pos hbuf
          unfold readLength
          omega
    | save r ha hnone hevent hv hd =>
      have hbuffer : e'.socket.receiveBuffer = e.socket.receiveBuffer := congrArg ReceiveView.receiveBuffer hv
      have hindex : e'.rc.receiveIndex = e.rc.receiveIndex := congrArg ReceiveView.receiveIndex hv
      rw [hd, hbuffer, ha, List.drop_length, List.drop_length, List.append_nil, List.append_nil]
      refine ⟨hnew, hclosing, ?_, ?_, hr.bounds⟩
      · show h.answers.map Prod.fst ++ e'.rc.receiveEvent.toList = h.arrived ++ [r]
        rw [hevent, ← horder, hnone]
        simp
      · show h.answers.flatMap Prod.snd ++ e'.unreadBytes = h.stream
        unfold unreadBytes
        rw [hbuffer, hindex]
        exact hstream

/-- A request that comes while none waits does not stop the process. -/
theorem receive_succeeds (h : e.rc.receiveEvent = none) (r : ReceiveEvent) :
    ∃ e', Endpoint.step (.receive r) e = .ok e' := by
  have hreceive : ∃ e', e.reliabilityReceive r = .ok e' := by
    unfold reliabilityReceive
    split
    · exact ⟨_, rfl⟩
    · rw [h]
      exact ⟨_, rfl⟩
  unfold Endpoint.step handleLow
  simp only
  split
  · exact ⟨_, rfl⟩
  · split
    · exact hreceive
    · exact ⟨_, rfl⟩

end

/-- Along every run: the payloads of the answers, and behind them the bytes that have not been read, are the bytes that were
placed in the receive buffer of the socket; the requests are answered in the order in which they came, each once, and at most
one waits; an answer has at most as many bytes as its request asks for, and at least one if that is not zero; and once no
event is pending, a request and data do not wait for each other.  A request that comes while none waits never stops the
process. -/
theorem receive_delivery {id : SocketId} {l r : AddressPort} {is : List Input} {s : Endpoint × ReceiveHistory}
    (h : receiveMachine.Run Transition.anyStep (create id l r, {}) is s) :
    s.2.answers.flatMap Prod.snd ++ s.1.unreadBytes = s.2.stream ∧
      s.2.answers.map Prod.fst ++ s.1.rc.receiveEvent.toList = s.2.arrived ∧
      (∀ a ∈ s.2.answers, a.2.length ≤ a.1.dataLength ∧ (0 < a.1.dataLength → 1 ≤ a.2.length)) ∧
      (s.1.queue = [] → s.1.rc.receiveEvent = none ∨ s.1.unreadBytes = []) ∧
      (s.1.rc.receiveEvent = none → ∀ q, ∃ e, step (.receive q) s.1 = .ok e) := by
  have hinv : Delivered s := by
    refine h.invariant Delivered ⟨.create id l r, .inr (.create id l r), rfl, rfl, by simp⟩ ?_
    rintro ⟨e, h⟩ i ⟨e', h'⟩ hr hen - hs
    obtain ⟨hstep, hobs⟩ := Transition.Machine.observed_step.1 hs
    replace hobs : h' = e.observeReceives i e' h := hobs
    rw [hobs]
    exact hr.step hen hstep
  refine ⟨hinv.stream, hinv.order, hinv.bounds, fun hq => ?_, fun hnone q => receive_succeeds hnone q⟩
  refine hinv.delivering.waiting.imp_right fun hwaits => ?_
  rcases hwaits with hnil | ⟨-, hann⟩
  · unfold unreadBytes
    rw [hnil, List.drop_nil]
  · rw [hq] at hann
    exact absurd hann not_announced_nil

/-- A request for two bytes waits for the three that come, and another one takes what is left with the next two behind it. -/
def partialReadScript : List Input :=
  connectScript 100 ++ [.receive ⟨2, 2⟩, .packet (segment 101 2 [1, 2, 3]), .drain, .drain, .drain,
    .packet (segment 104 2 [4, 5]), .drain, .drain, .receive ⟨3, 9⟩, .drain, .receive ⟨4, 1⟩]

theorem receive_delivery_partialRead : ∃ s, receiveMachine.Run Transition.anyStep (client, {}) partialReadScript s ∧
    s.2.answers = [(⟨2, 2⟩, [1, 2]), (⟨3, 9⟩, [3, 4, 5])] ∧ s.1.rc.receiveEvent = some ⟨4, 1⟩ ∧
    s.2.answers.flatMap Prod.snd ++ s.1.unreadBytes = s.2.stream ∧ s.2.stream = [1, 2, 3, 4, 5] ∧
    s.2.answers.map Prod.fst ++ s.1.rc.receiveEvent.toList = s.2.arrived ∧ s.1.unreadBytes = [] := by
  have h : (receiveMachine.replay Transition.anyStep partialReadScript (client, {})).any (fun s =>
      decide (s.2.answers = [(⟨2, 2⟩, [1, 2]), (⟨3, 9⟩, [3, 4, 5])] ∧ s.1.rc.receiveEvent = some ⟨4, 1⟩ ∧
        s.2.stream = [1, 2, 3, 4, 5] ∧ s.1.queue = [])) = true := by decide +kernel
  obtain ⟨s, hrun, hq⟩ := Transition.Machine.exists_run h
  obtain ⟨hanswers, hevent, hstream, hqueue⟩ := of_decide_eq_true hq
  obtain ⟨hbytes, horder, -, hidle, -⟩ := receive_delivery hrun
  have hunread : s.1.unreadBytes = [] := (hidle hqueue).resolve_left (by simp [hevent])
  exact ⟨s, hrun, hanswers, hevent, hbytes, hstream, horder, hunread⟩

end Endpoint

end Wifu
