import Wifu.PendingRequests

/-!
# The state diagram (`states/*.cc`)

The states of the connection managers form a diagram whose edges are requests, control bits and a timer.  A step takes an
endpoint along at most two of its edges, each of which the step's input brings; packets that `icontext_receive_packet`
refuses bring none.  The diagram leads only forward, and a socket that has closed is about to be deleted.
-/

namespace Wifu

namespace ConnectionManagerState

/-- What labels an edge of the diagram. -/
inductive Cause
  | passiveOpen
  | activeOpen
  | close
  | syn
  | synAck
  | ack
  | fin
  | finAck
  | timeout
  deriving DecidableEq, Repr

/-- The label of an edge from `closed`. -/
def Cause.opens : Cause → Bool
  | .passiveOpen | .activeOpen => true
  | _ => false

/-- The state diagram; no edge leads to `closing`. -/
def next : ConnectionManagerState → Cause → Option ConnectionManagerState
  | .closed, .passiveOpen => some .listen
  | .closed, .activeOpen => some .synSent
  | .listen, .syn => some .synReceived
  | .listen, .close => some .closed
  | .synSent, .synAck => some .established
  | .synReceived, .ack => some .established
  | .established, .close => some .finWait1
  | .established, .fin => some .closeWait
  | .finWait1, .ack => some .finWait2
  | .finWait1, .finAck => some .timeWait
  | .finWait2, .fin => some .timeWait
  | .closing, .ack => some .timeWait
  | .closeWait, .close => some .lastAck
  | .lastAck, .ack => some .closed
  | .timeWait, .timeout => some .closed
  | _, _ => none

/-- The state at the end of a path. -/
def follow : ConnectionManagerState → List Cause → Option ConnectionManagerState
  | s, [] => some s
  | s, c :: cs => (s.next c).bind fun t => t.follow cs

/-- How far a state is from the start. -/
def rank : ConnectionManagerState → Nat
  | .closed => 0
  | .listen | .synSent => 1
  | .synReceived => 2
  | .established => 3
  | .finWait1 | .closeWait => 4
  | .finWait2 | .closing | .lastAck => 5
  | .timeWait => 6

section

variable {s t u : ConnectionManagerState} {c : Cause} {cs ds : List Cause}

theorem follow_append (hs : s.follow cs = some t) (ht : t.follow ds = some u) : s.follow (cs ++ ds) = some u := by
  induction cs generalizing s with
  | nil =>
    cases hs
    exact ht
  | cons c cs ih =>
    obtain ⟨v, hv, hs⟩ := Option.bind_eq_some_iff.1 hs
    exact Option.bind_eq_some_iff.2 ⟨v, hv, ih hs⟩

theorem follow_next (h : s.next c = some t) : s.follow [c] = some t := Option.bind_eq_some_iff.2 ⟨t, h, rfl⟩

/-- Only an opening leads away from `closed`. -/
theorem next_closed (h : next .closed c = some t) : c.opens = true := by
  cases c <;> first | rfl | cases h

/-- Edges lead forward, but for the last one. -/
theorem next_rank (h : s.next c = some t) : t = .closed ∨ s.rank < t.rank := by
  unfold next at h
  split at h <;> cases h <;> first | exact .inl rfl | exact .inr (by decide)

theorem follow_closed (h : follow .closed cs = some t) (hc : ∀ c ∈ cs, c.opens = false) : t = .closed := by
  cases cs with
  | nil =>
    cases h
    rfl
  | cons c cs =>
    obtain ⟨u, hu, -⟩ := Option.bind_eq_some_iff.1 h
    have hnot := hc c List.mem_cons_self
    rw [next_closed hu] at hnot
    cases hnot

/-- Paths lead forward until they close. -/
theorem follow_rank (h : s.follow cs = some t) (hc : ∀ c ∈ cs, c.opens = false) :
    t = s ∨ t = .closed ∨ s.rank < t.rank := by
  induction cs generalizing s with
  | nil =>
    cases h
    exact .inl rfl
  | cons c cs ih =>
    obtain ⟨u, hu, h⟩ := Option.bind_eq_some_iff.1 h
    have hcs : ∀ c ∈ cs, c.opens = false := fun c hmem => hc c (List.mem_cons_of_mem _ hmem)
    rcases next_rank hu with rfl | hlt
    · exact .inr (.inl (follow_closed h hcs))
    · rcases ih h hcs with rfl | hclosed | hlt'
      · exact .inr (.inr hlt)
      · exact .inr (.inl hclosed)
      · exact .inr (.inr (hlt.trans hlt'))

theorem rank_le (s : ConnectionManagerState) : s.rank ≤ 6 := by
  cases s <;> decide

end

end ConnectionManagerState

open ConnectionManagerState (Cause)

/-- The control bits of a packet that label an edge. -/
def TCPPacket.brings (p : TCPPacket) : Cause → Bool
  | .syn => p.syn
  | .synAck => p.syn && p.ack
  | .ack => p.ack
  | .fin => p.fin
  | .finAck => p.fin && p.ack
  | _ => false

theorem TCPPacket.opens_of_brings (p : TCPPacket) {c : Cause} (h : p.brings c = true) : c.opens = false := by
  cases c <;> first | rfl | cases h

namespace Endpoint

/-- The input of a step brings the label of an edge; a close may have been requested before. -/
def brings (e : Endpoint) (i : Input) : Cause → Prop
  | .passiveOpen => ∃ l, i = .listen l
  | .activeOpen => ∃ c, i = .connect c
  | .close => (∃ c, i = .close c) ∨ e.savedCloseEvent.isSome = true ∧ ∃ p ∈ e.delivered i, e.takes p = true
  | .timeout => ∃ t, i = .timerFired t ∧ e.cmc.timeWaitTimer = some t
  | c => ∃ p ∈ e.delivered i, e.takes p = true ∧ p.brings c = true

/-- `e'` is as far as the path `cs` leads from `e`.  Where it has closed, the deletion of the socket waits, and nowhere
else. -/
structure Moves (e : Endpoint) (cs : List Cause) (e' : Endpoint) : Prop where
  follow : e.cmc.state.follow cs = some e'.cmc.state
  id : e'.socket.id = e.socket.id
  deleted : e'.deleted = e.deleted
  queue : ∃ q, e'.queue = e.queue ++ q ∧ ∀ v ∈ q, v.kind = .deleteSocket → e'.cmc.state = .closed
  closed : e'.cmc.state = .closed → e.cmc.state = .closed ∨ ⟨e'.socket.id, .deleteSocket⟩ ∈ e'.queue
  opens : ∀ c ∈ cs, c.opens = false

/-- The socket is deleted, or about to be. -/
def Finishing (e : Endpoint) : Prop := e.deleted = true ∨ ⟨e.socket.id, .deleteSocket⟩ ∈ e.queue

instance (e : Endpoint) : Decidable e.Finishing := inferInstanceAs (Decidable (_ ∨ _))

/-- How far a socket has come. -/
def progress (e : Endpoint) : Nat := if e.Finishing then 7 else e.cmc.state.rank

/-- Only a closed socket is deleted. -/
structure DeletesClosed (e : Endpoint) : Prop where
  queue : ∀ v ∈ e.queue, v.kind = .deleteSocket → e.cmc.state = .closed
  deleted : e.deleted = true → e.cmc.state = .closed

section

variable {e e' e'' : Endpoint} {p : TCPPacket} {i : Input} {cs ds : List Cause} {v : ProtocolEvent}
  {vs : List ProtocolEvent}

/-! ### What a handler does -/

theorem reliabilityReceivePacket_savedCloseEvent (h : e.reliabilityReceivePacket p = .ok e') :
    e'.savedCloseEvent = e.savedCloseEvent := by
  obtain ⟨e₁, -, hack, h⟩ := reliabilityReceivePacket_ok h
  split at h
  · obtain ⟨v, -, rfl⟩ := h
    exact hack.savedCloseEvent
  · rw [h]
    exact hack.savedCloseEvent

namespace Moves

theorem stays (h : Moves e cs e') (hs : e.cmc.state = .closed) : e'.cmc.state = .closed :=
  ConnectionManagerState.follow_closed (hs ▸ h.follow) h.opens

theorem trans (h : Moves e cs e') (h' : Moves e' ds e'') : Moves e (cs ++ ds) e'' where
  follow := ConnectionManagerState.follow_append h.follow h'.follow
  id := h'.id.trans h.id
  deleted := h'.deleted.trans h.deleted
  queue := by
    obtain ⟨q, hq, hnew⟩ := h.queue
    obtain ⟨q', hq', hnew'⟩ := h'.queue
    refine ⟨q ++ q', by rw [hq', hq, List.append_assoc], fun v hv hk => ?_⟩
    rcases List.mem_append.1 hv with hv | hv
    · exact h'.stays (hnew v hv hk)
    · exact hnew' v hv hk
  closed := by
    intro hs
    rcases h'.closed hs with hs | hmem
    · refine (h.closed hs).imp_right fun hmem => ?_
      obtain ⟨q, hq, -⟩ := h'.queue
      rw [h'.id, hq]
      exact List.mem_append_left _ hmem
    · exact .inr hmem
  opens := fun c hc => (List.mem_append.1 hc).elim (h.opens c) (h'.opens c)

/-- The connection manager does not move. -/
theorem of_same (hs : e'.cmc.state = e.cmc.state) (hid : e'.socket.id = e.socket.id) (hdel : e'.deleted = e.deleted)
    (hq : ∃ q, e'.queue = e.queue ++ q ∧ ∀ v ∈ q, v.kind ≠ .deleteSocket) : Moves e [] e' := by
  obtain ⟨q, hq, hnew⟩ := hq
  exact ⟨by rw [hs]; rfl, hid, hdel, ⟨q, hq, fun v hv hk => absurd hk (hnew v hv)⟩, fun hc => .inl (hs ▸ hc),
    by simp⟩

theorem of_eq (hs : e'.cmc = e.cmc) (hid : e'.socket.id = e.socket.id) (hdel : e'.deleted = e.deleted)
    (hq : e'.queue = e.queue) : Moves e [] e' :=
  of_same (by rw [hs]) hid hdel ⟨[], by rw [hq, List.append_nil], by simp⟩

theorem refl (e : Endpoint) : Moves e [] e := of_eq rfl rfl rfl rfl

theorem undisturbed (h : Undisturbed e e') : Moves e [] e' := of_same (by rw [h.cmc]) h.id h.deleted h.queue

/-- The connection manager follows a path of the diagram. -/
theorem manager (h : ManagerChange e e') (hf : e.cmc.state.follow cs = some e'.cmc.state)
    (hq : Appends e e' ∨ Deletes e e')
    (hc : e'.cmc.state = .closed → e.cmc.state = .closed ∨ ⟨e'.socket.id, .deleteSocket⟩ ∈ e'.queue)
    (ho : ∀ c ∈ cs, c.opens = false) : Moves e cs e' :=
  ⟨hf, by rw [h.socket], h.deleted, Answerable.deletes hq, hc, ho⟩

end Moves

/-- A packet moves the connection manager along one edge at most. -/
theorem managerReceivePacket_follow (e : Endpoint) (p : TCPPacket) : ∃ cs, cs.length ≤ 1 ∧
    (∀ c ∈ cs, p.brings c = true) ∧ e.cmc.state.follow cs = some (e.managerReceivePacket p).cmc.state := by
  have hstay (h : (e.managerReceivePacket p).cmc.state = e.cmc.state) : ∃ cs, cs.length ≤ 1 ∧
      (∀ c ∈ cs, p.brings c = true) ∧ e.cmc.state.follow cs = some (e.managerReceivePacket p).cmc.state :=
    ⟨[], Nat.zero_le 1, by simp, by rw [h]; rfl⟩
  have hmove {c : Cause} {s : ConnectionManagerState} (hn : e.cmc.state.next c = some s) (hb : p.brings c = true)
      (hs : (e.managerReceivePacket p).cmc.state = s) : ∃ cs, cs.length ≤ 1 ∧ (∀ c ∈ cs, p.brings c = true) ∧
      e.cmc.state.follow cs = some (e.managerReceivePacket p).cmc.state :=
    ⟨[c], Nat.le_refl 1, by simpa using hb, by rw [hs]; exact ConnectionManagerState.follow_next hn⟩
  suffices h : ∀ s, e.cmc.state = s → ∃ cs, cs.length ≤ 1 ∧ (∀ c ∈ cs, p.brings c = true) ∧
      e.cmc.state.follow cs = some (e.managerReceivePacket p).cmc.state from h _ rfl
  intro s hstate
  cases s with
  | closed | closeWait => exact hstay (by simp only [managerReceivePacket, hstate])
  | listen =>
    by_cases hsyn : p.syn = true
    · refine hmove (c := .syn) (by rw [hstate]; rfl) hsyn ?_
      unfold managerReceivePacket processSyn
      simp only [hstate, hsyn, if_true, setState_state]
    · exact hstay (by simp [managerReceivePacket, hstate, hsyn])
  | synSent =>
    by_cases hack : (p.syn && p.ack) = true
    · refine hmove (c := .synAck) (by rw [hstate]; rfl) hack ?_
      simp [managerReceivePacket, hstate, hack, setState_state]
    · exact hstay (by simp [managerReceivePacket, hstate, hack])
  | synReceived =>
    by_cases hack : p.ack = true
    · refine hmove (c := .ack) (by rw [hstate]; rfl) hack ?_
      simp [managerReceivePacket, hstate, hack, setState_state]
    · exact hstay (by simp [managerReceivePacket, hstate, hack])
  | established =>
    by_cases hsyn : p.syn = true
    · exact hstay (by simp [managerReceivePacket, hstate, hsyn])
    · by_cases hfin : p.fin = true
      · refine hmove (c := .fin) (by rw [hstate]; rfl) hfin ?_
        simp [managerReceivePacket, hstate, hsyn, hfin, dispatch, setState_state]
      · exact hstay (by simp [managerReceivePacket, hstate, hsyn, hfin])
  | finWait1 =>
    by_cases hack : p.ack = true
    · by_cases hfin : p.fin = true
      · refine hmove (c := .finAck) (by rw [hstate]; rfl) (Bool.and_eq_true _ _ ▸ ⟨hfin, hack⟩) ?_
        simp [managerReceivePacket, hstate, hfin, hack, setState_state]
      · refine hmove (c := .ack) (by rw [hstate]; rfl) hack ?_
        simp [managerReceivePacket, hstate, hfin, hack, setState_state]
    · exact hstay (by simp [managerReceivePacket, hstate, hack])
  | finWait2 =>
    by_cases hfin : p.fin = true
    · refine hmove (c := .fin) (by rw [hstate]; rfl) hfin ?_
      simp [managerReceivePacket, hstate, hfin, setState_state]
    · exact hstay (by simp [managerReceivePacket, hstate, hfin])
  | closing =>
    by_cases hack : p.ack = true
    · refine hmove (c := .ack) (by rw [hstate]; rfl) hack ?_
      simp [managerReceivePacket, hstate, hack, setState_state]
    · exact hstay (by simp [managerReceivePacket, hstate, hack])
  | lastAck =>
    by_cases hnaked : p.isNakedAck = true
    · have hack : p.ack = true := by
        unfold TCPPacket.isNakedAck at hnaked
        simp only [Bool.and_eq_true] at hnaked
        exact hnaked.1.1.1.1.1.1
      refine hmove (c := .ack) (by rw [hstate]; rfl) hack ?_
      simp [managerReceivePacket, hstate, hnaked, setState_state]
    · exact hstay (by simp [managerReceivePacket, hstate, hnaked])
  | timeWait =>
    -- the timer starts again
    refine hstay ?_
    unfold managerReceivePacket
    simp only [hstate]
    split <;> exact hstate

theorem managerReceivePacket_moves (e : Endpoint) (p : TCPPacket) : ∃ cs, cs.length ≤ 1 ∧
    (∀ c ∈ cs, p.brings c = true) ∧ Moves e cs (e.managerReceivePacket p) := by
  obtain ⟨cs, hlen, hbrings, hf⟩ := managerReceivePacket_follow e p
  refine ⟨cs, hlen, hbrings, .manager (.receivePacket e p) hf (Appends.managerReceivePacket e p)
    (Keeps.managerReceivePacket e p).closed fun c hc => p.opens_of_brings (hbrings c hc)⟩

/-- A FIN is sent where the diagram has an edge for a request to close. -/
theorem managerClose_next {s : ConnectionManagerState} (hs : s = .finWait1 ∨ s = .lastAck)
    (h : e.managerClose = { e with
      cmc := { e.cmc with state := s }, queue := e.queue ++ [⟨e.socket.id, .sendPacket e.finPacket⟩] }) :
    e.cmc.state.next .close = some s := by
  have hstate : e.managerClose.cmc.state = s := by rw [h]
  unfold managerClose at hstate
  split at hstate
  · rename_i hlisten
    rw [setState_state] at hstate
    rcases hs with rfl | rfl <;> cases hstate
  · rename_i hopen
    split at hstate
    · replace hstate : (e.setState .finWait1).cmc.state = s := hstate
      rw [setState_state] at hstate
      rw [hopen, ← hstate]
      rfl
    · rw [hopen] at hstate
      rcases hs with rfl | rfl <;> cases hstate
  · rename_i hwait
    rw [setState_state] at hstate
    rw [hwait, ← hstate]
    rfl
  · -- the queue would have stayed
    have hq : e.managerClose.queue = e.queue := by
      unfold managerClose
      split <;> simp_all
    rw [h] at hq
    simp at hq

/-- A request to close. -/
theorem managerClose_moves (e : Endpoint) : ∃ cs, cs.length ≤ 1 ∧ (∀ c ∈ cs, c = .close) ∧ Moves e cs e.managerClose := by
  have hm := ManagerChange.close e
  have hplaces := Places.managerClose e
  rcases Appends.managerClose e with ⟨s, hs, heq⟩ | ⟨hlisten, hd⟩ | heq
  · have hnext := managerClose_next hs heq
    refine ⟨[.close], Nat.le_refl 1, by simp, ?_, hplaces.id, hplaces.deleted, ?_, hplaces.closed, by simp [Cause.opens]⟩
    · rw [ConnectionManagerState.follow_next hnext, heq]
    · rw [heq]
      exact ⟨_, rfl, by simp⟩
  · refine ⟨[.close], Nat.le_refl 1, by simp, ?_, hplaces.id, hplaces.deleted, ⟨_, hd.queue, fun _ _ _ => hd.state⟩,
      hplaces.closed, by simp [Cause.opens]⟩
    rw [hlisten, hd.state]
    rfl
  · rw [heq]
    exact ⟨[], Nat.zero_le 1, by simp, .refl e⟩

/-- A close that was requested before. -/
theorem runSavedClose_moves (e : Endpoint) : ∃ cs, cs.length ≤ 1 ∧
    (∀ c ∈ cs, c = .close ∧ e.savedCloseEvent.isSome = true) ∧ Moves e cs e.runSavedClose := by
  rcases runSavedClose_cases e with ⟨⟨hsaved, -⟩, heq⟩ | ⟨-, heq⟩ <;> rw [heq]
  · obtain ⟨cs, hlen, hcs, hm⟩ := managerClose_moves e
    have hm' := hm.trans
      (Moves.of_eq rfl rfl rfl rfl : Moves e.managerClose [] { e.managerClose with savedCloseEvent := none })
    rw [List.append_nil] at hm'
    exact ⟨cs, hlen, fun c hc => ⟨hcs c hc, hsaved⟩, hm'⟩
  · exact ⟨[], Nat.zero_le 1, by simp, .refl e⟩

theorem managerTimerFired_moves (e : Endpoint) (t : TimeoutEvent) : ∃ cs, cs.length ≤ 1 ∧
    (∀ c ∈ cs, c = .timeout ∧ e.cmc.timeWaitTimer = some t) ∧ Moves e cs (e.managerTimerFired t) := by
  have hm := ManagerChange.timerFired e t
  have hq := Appends.managerTimerFired e t
  have hclosed := (Keeps.managerTimerFired e t).closed
  unfold managerTimerFired at hm hq hclosed ⊢
  split
  · rename_i hs
    simp only [hs] at hm hq hclosed
    split
    · rename_i ht
      rw [if_pos ht] at hm hq hclosed
      refine ⟨[.timeout], Nat.le_refl 1, by simpa using ht, .manager hm ?_ hq (by rw [hs]; exact hclosed)
        (by simp [Cause.opens])⟩
      rw [hs, setState_state]
      rfl
    · exact ⟨[], Nat.zero_le 1, by simp, .refl e⟩
  · exact ⟨[], Nat.zero_le 1, by simp, .refl e⟩

/-- A packet that is refused moves nothing; one that is taken moves the connection manager, and lets a close go on. -/
theorem receivePacket_path (h : e.receivePacket p = .ok e') : ∃ cs, cs.length ≤ 2 ∧ (cs ≠ [] → e.takes p = true) ∧
    (∀ c ∈ cs, p.brings c = true ∨ c = .close ∧ e.savedCloseEvent.isSome = true) ∧ Moves e cs e' := by
  have hstay (hm : Moves e [] e') : ∃ cs, cs.length ≤ 2 ∧ (cs ≠ [] → e.takes p = true) ∧
      (∀ c ∈ cs, p.brings c = true ∨ c = .close ∧ e.savedCloseEvent.isSome = true) ∧ Moves e cs e' :=
    ⟨[], Nat.zero_le 2, by simp, by simp, hm⟩
  have hcase := receivePacket_cases e p
  rw [h] at hcase
  cases hcase with
  | corrupt _ h | ignored _ _ h =>
    cases h
    exact hstay (.refl e)
  | skipping _ _ _ h => exact hstay (.undisturbed (.reliabilityReceivePacket h.symm))
  | lingering _ _ hs h =>
    cases h
    obtain ⟨cs, -, hbrings, hm⟩ := managerReceivePacket_moves e p
    -- no packet labels an edge from TIME_WAIT
    cases cs with
    | nil => exact hstay hm
    | cons c cs =>
      have hf := hm.follow
      obtain ⟨t, ht, -⟩ := Option.bind_eq_some_iff.1 hf
      have hc := hbrings c List.mem_cons_self
      rw [hs] at ht
      cases c <;> cases ht
      cases hc
  | answered _ _ h =>
    cases h
    exact hstay (.undisturbed (.createAndDispatchAck e))
  | parked _ _ _ _ _ h =>
    cases h
    exact hstay (.of_eq rfl rfl rfl rfl)
  | taken hsum hack hseq hfin h =>
    obtain ⟨e₁, h₁, h⟩ := bind_eq_ok.1 h.symm
    obtain ⟨e₂, h₂, h⟩ := bind_eq_ok.1 h
    cases h
    have htakes : e.takes p = true := by
      unfold takes
      rw [hsum, hack, hseq]
      cases hf : p.fin with
      | false => rfl
      | true => simpa using hfin hf
    obtain ⟨cs, hlen, hbrings, hm⟩ := managerReceivePacket_moves e₁ p
    obtain ⟨ds, hlen', hclose, hm'⟩ := runSavedClose_moves e₂
    have hsaved : e₂.savedCloseEvent = e.savedCloseEvent := by
      rw [(CongestionChange.receiveUnlessDuplicate h₂).savedCloseEvent, (ManagerChange.receivePacket e₁ p).savedCloseEvent]
      exact reliabilityReceivePacket_savedCloseEvent h₁
    have hbefore : Moves e cs (e₁.managerReceivePacket p) := Moves.trans (.undisturbed (.reliabilityReceivePacket h₁)) hm
    have hafter : Moves (e₁.managerReceivePacket p) ds e₂.runSavedClose :=
      Moves.trans (.undisturbed (.receiveUnlessDuplicate h₂)) hm'
    refine ⟨cs ++ ds, ?_, fun _ => htakes, fun c hc => ?_, hbefore.trans hafter⟩
    · rw [List.length_append]
      omega
    · rcases List.mem_append.1 hc with hc | hc
      · exact .inl (hbrings c hc)
      · exact .inr (hsaved ▸ hclose c hc)

theorem timerFired_moves {t : TimeoutEvent} (h : e.timerFired t = .ok e') : ∃ cs, cs.length ≤ 1 ∧
    (∀ c ∈ cs, c = .timeout ∧ e.cmc.timeWaitTimer = some t) ∧ Moves e cs e' := by
  unfold timerFired at h
  have hu := Undisturbed.reliabilityTimerFired e t
  obtain ⟨cs, hlen, hcs, hm⟩ := managerTimerFired_moves (e.reliabilityTimerFired t) t
  have hmoves := (Moves.undisturbed hu).trans (hm.trans (.undisturbed (.congestionTimerFired h)))
  rw [List.nil_append, List.append_nil] at hmoves
  exact ⟨cs, hlen, fun c hc => hu.cmc ▸ hcs c hc, hmoves⟩

theorem close_moves (e : Endpoint) (c : CloseEvent) : ∃ cs, cs.length ≤ 1 ∧ (∀ d ∈ cs, d = .close) ∧
    Moves e cs (e.close c) := by
  have hrespond (f : Endpoint) : Moves f [] (f.dispatch (.closeResponse c)) := .of_eq rfl rfl rfl rfl
  rcases close_cases e c with ⟨-, heq⟩ | ⟨-, heq⟩ <;> rw [heq]
  · obtain ⟨cs, hlen, hcs, hm⟩ := managerClose_moves e
    have hm' := hm.trans (hrespond _)
    rw [List.append_nil] at hm'
    exact ⟨cs, hlen, hcs, hm'⟩
  · have hsave : Moves e [] { e with savedCloseEvent := some c } := .of_eq rfl rfl rfl rfl
    exact ⟨[], Nat.zero_le 1, by simp, hsave.trans (hrespond _)⟩

/-- Opening takes a closed socket along an edge. -/
theorem managerListen_follow (e : Endpoint) (l : ListenEvent) : ∃ cs, cs.length ≤ 1 ∧ (∀ c ∈ cs, c = .passiveOpen) ∧
    e.cmc.state.follow cs = some (e.managerListen l).cmc.state := by
  by_cases hs : e.cmc.state = .closed
  · refine ⟨[.passiveOpen], Nat.le_refl 1, by simp, ?_⟩
    rw [managerListen_closed hs, hs]
    rfl
  · rw [managerListen_of_ne hs]
    exact ⟨[], Nat.zero_le 1, by simp, rfl⟩

theorem managerConnect_follow (e : Endpoint) (c : ConnectEvent) : ∃ cs, cs.length ≤ 1 ∧ (∀ d ∈ cs, d = .activeOpen) ∧
    e.cmc.state.follow cs = some (e.managerConnect c).cmc.state := by
  by_cases hs : e.cmc.state = .closed
  · refine ⟨[.activeOpen], Nat.le_refl 1, by simp, ?_⟩
    rw [managerConnect_closed hs, hs]
    rfl
  · rw [managerConnect_of_ne hs]
    exact ⟨[], Nat.zero_le 1, by simp, rfl⟩

/-- A waiting event that leaves the socket where it is moves nothing. -/
theorem handleProtocolEvent_moves {k : ProtocolEventKind} (hdel : k ≠ .deleteSocket)
    (hinit : ∀ s l r li, k ≠ .connectionInitiated s l r li) (h : e.handleProtocolEvent k = .ok e') : Moves e [] e' := by
  obtain ⟨hstate, hid, -, hdeleted⟩ := handleProtocolEvent_same hinit h
  refine .of_same hstate hid (hdeleted hdel) ?_
  cases k with
  | sendPacket p => exact (Undisturbed.sendPacket h).queue
  | resendPacket r => exact (Undisturbed.congestionResendPacket h).queue
  | sendBufferNotEmpty => exact (Undisturbed.sendPackets h).queue
  | sendBufferNotFull => exact (Appends.sendBufferNotFull h).keepsSocket
  | receiveBufferNotEmpty =>
    cases h
    exact (Appends.receiveBufferNotEmpty e).keepsSocket
  | receiveBufferNotFull =>
    cases h
    exact (Appends.receiveBufferNotFull e).keepsSocket
  | connectionEstablished s =>
    cases h
    exact ⟨[], (List.append_nil _).symm, by simp⟩
  | connectionInitiated s l r li => exact absurd rfl (hinit s l r li)
  | deleteSocket => exact absurd rfl hdel

/-! ### Progress -/

theorem DeletesClosed.create (id : SocketId) (l r : AddressPort) : (create id l r).DeletesClosed :=
  ⟨fun _ hv => absurd hv List.not_mem_nil, fun hdel => absurd hdel Bool.false_ne_true⟩

theorem DeletesClosed.closed (h : e.DeletesClosed) (hf : e.Finishing) : e.cmc.state = .closed := by
  rcases hf with hdel | hmem
  · exact h.deleted hdel
  · exact h.queue _ hmem rfl

theorem DeletesClosed.moves (h : e.DeletesClosed) (hm : Moves e cs e') : e'.DeletesClosed := by
  obtain ⟨q, hq, hnew⟩ := hm.queue
  refine ⟨fun v hv hk => ?_, fun hdel => hm.stays (h.deleted (hm.deleted ▸ hdel))⟩
  rw [hq] at hv
  rcases List.mem_append.1 hv with hv | hv
  · exact hm.stays (h.queue v hv hk)
  · exact hnew v hv hk

theorem progress_finishing (h : e.Finishing) : e.progress = 7 := if_pos h

theorem progress_of_not (h : ¬e.Finishing) : e.progress = e.cmc.state.rank := if_neg h

theorem rank_le_progress (e : Endpoint) : e.cmc.state.rank ≤ e.progress := by
  have := e.cmc.state.rank_le
  unfold progress
  split <;> omega

theorem progress_le_of_same (hs : e'.cmc.state = e.cmc.state) (hf : e.Finishing → e'.Finishing) :
    e.progress ≤ e'.progress := by
  by_cases h : e.Finishing
  · rw [progress_finishing h, progress_finishing (hf h)]
  · rw [progress_of_not h, ← hs]
    exact rank_le_progress e'

/-- A step leads nowhere back: the state stays, or the socket comes further. -/
structure Forward (e e' : Endpoint) : Prop where
  deletes : e'.DeletesClosed
  progress : e'.cmc.state = e.cmc.state ∧ e.progress ≤ e'.progress ∨ e.progress < e'.progress

theorem Moves.finishing (h : Moves e cs e') (hf : e.Finishing) : e'.Finishing := by
  refine hf.imp (fun hdel => h.deleted.trans hdel) fun hmem => ?_
  obtain ⟨q, hq, -⟩ := h.queue
  rw [h.id, hq]
  exact List.mem_append_left _ hmem

theorem Moves.forward (h : Moves e cs e') (hd : e.DeletesClosed) : Forward e e' := by
  refine ⟨hd.moves h, ?_⟩
  by_cases hs : e'.cmc.state = e.cmc.state
  · exact .inl ⟨hs, progress_le_of_same hs h.finishing⟩
  · have hopen : e.cmc.state ≠ .closed := fun hc => hs ((h.stays hc).trans hc.symm)
    rw [progress_of_not fun hf => hopen (hd.closed hf)]
    rcases ConnectionManagerState.follow_rank h.follow h.opens with hsame | hclosed | hlt
    · exact absurd hsame hs
    · have hle := e.cmc.state.rank_le
      rw [progress_finishing (.inr ((h.closed hclosed).resolve_left hopen))]
      exact .inr (by omega)
    · exact .inr (hlt.trans_le (rank_le_progress e'))

/-- An open socket whose queue was empty. -/
theorem Forward.opened (hq : e.queue = []) (hdel : e.deleted = false) (hs : e.cmc.state = .closed)
    (hq' : ∀ v ∈ e'.queue, v.kind ≠ .deleteSocket) (hdel' : e'.deleted = false) (hs' : e'.cmc.state.rank = 1) :
    Forward e e' := by
  have hnot : ¬e.Finishing := by
    rintro (h | h)
    · rw [hdel] at h
      cases h
    · rw [hq] at h
      cases h
  refine ⟨⟨fun v hv hk => absurd hk (hq' v hv), fun h => ?_⟩, .inr ?_⟩
  · rw [hdel'] at h
    cases h
  · rw [progress_of_not hnot, hs]
    have := rank_le_progress e'
    rw [hs'] at this
    exact this

theorem Forward.managerListen (hq : e.queue = []) (hdel : e.deleted = false) (l : ListenEvent)
    (hd : e.DeletesClosed) : Forward e (e.managerListen l) := by
  by_cases hs : e.cmc.state = .closed
  · rw [managerListen_closed hs]
    refine .opened hq hdel hs ?_ hdel rfl
    rw [hq]
    simp
  · rw [managerListen_of_ne hs]
    exact (Moves.refl e).forward hd

theorem Forward.managerConnect (hq : e.queue = []) (hdel : e.deleted = false) (c : ConnectEvent)
    (hd : e.DeletesClosed) : Forward e (e.managerConnect c) := by
  by_cases hs : e.cmc.state = .closed
  · rw [managerConnect_closed hs]
    refine .opened hq hdel hs ?_ hdel rfl
    rw [hq]
    simp
  · rw [managerConnect_of_ne hs]
    exact (Moves.refl e).forward hd

/-- An event leaves the queue. -/
theorem DeletesClosed.pop (h : e.DeletesClosed) (hq : e.queue = v :: vs) : DeletesClosed { e with queue := vs } :=
  ⟨fun w hw => h.queue w (by rw [hq]; exact List.mem_cons_of_mem v hw), h.deleted⟩

/-- The next event of the queue moves nothing. -/
theorem Forward.drain (hd : e.DeletesClosed) (hc : e.deleted = true ∨ e.ClosingSends) (h : step .drain e = .ok e') :
    Forward e e' ∧ e'.cmc.state = e.cmc.state := by
  cases step_ok h with
  | dropped _ h =>
    cases h
    exact ⟨(Moves.refl e).forward hd, rfl⟩
  | packet hp => cases hp
  | @skipped v vs hq hother h =>
    cases h
    refine ⟨⟨hd.pop hq, .inl ⟨rfl, progress_le_of_same rfl fun hf => ?_⟩⟩, rfl⟩
    by_cases hdel : e.deleted = true
    · exact .inl hdel
    · refine .inr ?_
      have hmem := hf.resolve_left hdel
      rw [hq] at hmem
      refine (List.mem_cons.1 hmem).resolve_left ?_
      rintro rfl
      simp [contains, hdel] at hother
  | @event v vs hq hs hdel h =>
    obtain ⟨s, k⟩ := v
    subst hs
    have hstate := handleProtocolEvent_state h.symm
    replace hstate : e'.cmc.state = e.cmc.state := hstate
    refine ⟨?_, hstate⟩
    by_cases hk : k = .deleteSocket
    · subst hk
      cases h
      have hclosed := hd.queue _ (by rw [hq]; exact List.mem_cons_self) rfl
      exact ⟨⟨(hd.pop hq).queue, fun _ => hclosed⟩, .inl ⟨rfl, progress_le_of_same rfl fun _ => .inl rfl⟩⟩
    · by_cases hinit : ∃ s l r li, k = .connectionInitiated s l r li
      · -- a connection that is initiated is not deleted
        obtain ⟨s, l, r, li, rfl⟩ := hinit
        cases h
        have hsyn : e.cmc.state = .synReceived := by
          refine (hc.resolve_left (by simp [hdel])).moves ?_
          simp [hq, Wifu.initiations, ProtocolEvent.isInitiation]
        refine ⟨⟨(hd.pop hq).queue, hd.deleted⟩, .inl ⟨rfl, progress_le_of_same rfl fun hf => ?_⟩⟩
        have hclosed := hd.closed hf
        rw [hsyn] at hclosed
        cases hclosed
      · have hm := handleProtocolEvent_moves hk (fun s l r li heq => hinit ⟨s, l, r, li, heq⟩) h.symm
        have hforward := hm.forward (hd.pop hq)
        refine ⟨hforward.deletes, .inl ⟨hstate, progress_le_of_same hstate fun hf => hm.finishing ?_⟩⟩
        refine hf.imp_right fun hmem => ?_
        rw [hq] at hmem
        exact (List.mem_cons.1 hmem).resolve_left (by simpa using Ne.symm hk)

/-! ### Steps and runs -/

/-- What a step does: it takes the endpoint along a path whose labels its input brings, and leads nowhere back. -/
theorem step_path (hd : e.DeletesClosed) (hc : e.deleted = true ∨ e.ClosingSends) (hen : enabled i e)
    (hstep : step i e = .ok e') : Forward e e' ∧ ∃ cs, cs.length ≤ 2 ∧ (∀ c ∈ cs, e.brings i c) ∧
      e.cmc.state.follow cs = some e'.cmc.state := by
  by_cases hi : i = .drain
  · subst hi
    obtain ⟨hforward, hstate⟩ := Forward.drain hd hc hstep
    exact ⟨hforward, [], Nat.zero_le 2, by simp, by rw [hstate]; rfl⟩
  have hq : e.queue = [] := by
    cases i <;> first | exact hen | exact absurd rfl hi
  have hstay (hm : Moves e [] e') : Forward e e' ∧ ∃ cs, cs.length ≤ 2 ∧ (∀ c ∈ cs, e.brings i c) ∧
      e.cmc.state.follow cs = some e'.cmc.state := ⟨hm.forward hd, [], Nat.zero_le 2, by simp, hm.follow⟩
  cases step_ok hstep with
  | dropped _ h =>
    cases h
    exact hstay (.refl e)
  | skipped | event => exact absurd rfl hi
  | @packet _ p ps hp _ _ h =>
    obtain ⟨cs, hlen, htakes, hbrings, hm⟩ := receivePacket_path h.symm
    have hpop : Moves e [] { e with redelivered := ps } := .of_eq rfl rfl rfl rfl
    have hm := hpop.trans hm
    refine ⟨hm.forward hd, cs, hlen, fun c hmem => ?_, hm.follow⟩
    have htaken : e.takes p = true := htakes (List.ne_nil_of_mem hmem)
    rcases hbrings c hmem with hb | ⟨rfl, hsaved⟩
    · cases c with
      | syn | synAck | ack | fin | finAck => exact ⟨p, hp, htaken, hb⟩
      | _ => cases hb
    · exact .inr ⟨hsaved, p, hp, htaken⟩
  | listen l hdel h =>
    cases h
    obtain ⟨cs, hlen, hcs, hf⟩ := managerListen_follow e l
    exact ⟨.managerListen hq hdel l hd, cs, by omega, fun c hmem => hcs c hmem ▸ ⟨l, rfl⟩, hf⟩
  | connect c hdel h =>
    cases h
    obtain ⟨cs, hlen, hcs, hf⟩ := managerConnect_follow e c
    exact ⟨.managerConnect hq hdel c hd, cs, by omega, fun d hmem => hcs d hmem ▸ ⟨c, rfl⟩, hf⟩
  | send s _ _ h =>
    refine hstay ?_
    obtain ⟨n, -, ⟨-, rfl⟩ | ⟨-, rfl⟩⟩ := send_ok h.symm
    · exact .of_same rfl rfl rfl (Appends.saveInBuffer e s n).keepsSocket
    · exact .of_eq rfl rfl rfl rfl
  | receive r _ _ h =>
    refine hstay ?_
    obtain ⟨-, rfl⟩ | ⟨-, -, rfl⟩ := reliabilityReceive_ok h.symm
    · have hp := receivedData_undisturbed e r
      exact .of_same (by rw [createAndDispatchReceivedData_cmc]) hp.id hp.deleted hp.queue
    · exact .of_eq rfl rfl rfl rfl
  | close c _ h =>
    cases h
    obtain ⟨cs, hlen, hcs, hm⟩ := close_moves e c
    exact ⟨hm.forward hd, cs, by omega, fun d hmem => hcs d hmem ▸ .inl ⟨c, rfl⟩, hm.follow⟩
  | timerFired t _ _ h =>
    obtain ⟨cs, hlen, hcs, hm⟩ := timerFired_moves h.symm
    refine ⟨hm.forward hd, cs, by omega, fun c hmem => ?_, hm.follow⟩
    obtain ⟨rfl, ht⟩ := hcs c hmem
    exact ⟨t, rfl, ht⟩
  | tick _ _ h =>
    cases h
    exact hstay (.of_eq rfl rfl rfl rfl)

/-- What holds of the deletion of a socket in every run. -/
structure Ending (e : Endpoint) : Prop extends DeletesClosed e where
  closing : e.deleted = true ∨ e.ClosingSends

theorem Ending.create (id : SocketId) (l r : AddressPort) : (create id l r).Ending :=
  ⟨.create id l r, .inr (.create id l r)⟩

theorem Ending.step (h : e.Ending) (hen : enabled i e) (hstep : Endpoint.step i e = .ok e') : e'.Ending := by
  refine ⟨(step_path h.toDeletesClosed h.closing hen hstep).1.deletes, ?_⟩
  by_cases hdel : e.deleted = true
  · exact .inl (step_deleted hdel hstep)
  · exact .inr ((h.closing.resolve_left hdel).step (by simpa using hdel) hen hstep)

theorem Ending.run {P : Endpoint → Input → Prop} {id : SocketId} {l r : AddressPort} {is : List Input}
    (h : machine.Run P (Endpoint.create id l r) is e) : e.Ending :=
  h.invariant Ending (.create id l r) fun _ _ _ ht hen _ hstep => ht.step hen hstep

/-- In every run from a new socket, whatever arrives: each step takes the connection manager along at most two edges of
the state diagram, each of which its input brings, and a packet that is refused brings none.  No state comes again: in
everything that follows the socket comes further or its state stays, and at the end it is deleted. -/
theorem state_diagram {id : SocketId} {l r : AddressPort} {is : List Input}
    (hrun : machine.Run Transition.anyStep (create id l r) is e) :
    (∀ i e', enabled i e → step i e = .ok e' → ∃ cs, cs.length ≤ 2 ∧ (∀ c ∈ cs, e.brings i c) ∧
      e.cmc.state.follow cs = some e'.cmc.state) ∧
    ∀ js e', machine.Run Transition.anyStep e js e' →
      e'.cmc.state = e.cmc.state ∧ e.progress ≤ e'.progress ∨ e.progress < e'.progress := by
  have hinv := Ending.run hrun
  refine ⟨fun i e' hen hstep => (step_path hinv.toDeletesClosed hinv.closing hen hstep).2, fun js e' hrun' => ?_⟩
  induction hrun' with
  | nil => exact .inl ⟨rfl, Nat.le_refl _⟩
  | @snoc js t u i hrun' hen _ hstep ih =>
    have hinv' := Ending.run (hrun.trans hrun')
    rcases (step_path hinv'.toDeletesClosed hinv'.closing hen hstep).1.progress with ⟨hs, hle⟩ | hlt
    · rcases ih with ⟨hs', hle'⟩ | hlt'
      · exact .inl ⟨hs.trans hs', hle'.trans hle⟩
      · exact .inr (hlt'.trans_le hle)
    · rcases ih with ⟨-, hle'⟩ | hlt'
      · exact .inr (hle'.trans_lt hlt)
      · exact .inr (hlt'.trans hlt)

end

/-- The client closes, its FIN and the server's are acknowledged, and the timer of TIME_WAIT deletes the socket. -/
theorem state_diagram_closes : ∃ e e', machine.Run Transition.anyStep client (connectScript 100) e ∧
    machine.Run Transition.anyStep e [.close ⟨2⟩, .drain, .packet (segment 101 3 []), .drain,
      .packet { segment 101 3 [] with fin := true }, .drain, .timerFired ⟨3, 1⟩, .drain] e' ∧
    e.progress = 3 ∧ e'.deleted = true ∧
    (e'.cmc.state = e.cmc.state ∧ e.progress ≤ e'.progress ∨ e.progress < e'.progress) := by
  have h : (machine.replay Transition.anyStep (connectScript 100) client).any (fun e => decide (e.progress = 3) &&
      (machine.replay Transition.anyStep [.close ⟨2⟩, .drain, .packet (segment 101 3 []), .drain,
        .packet { segment 101 3 [] with fin := true }, .drain, .timerFired ⟨3, 1⟩, .drain] e).any
        fun e' => e'.deleted) = true := by decide +kernel
  obtain ⟨e, hrun, hq⟩ := Transition.Machine.exists_run h
  rw [Bool.and_eq_true, decide_eq_true_eq] at hq
  obtain ⟨e', hrun', hdel⟩ := Transition.Machine.exists_run hq.2
  exact ⟨e, e', hrun, hrun', hq.1, hdel, (state_diagram hrun).2 _ _ hrun'⟩

end Endpoint

end Wifu
