import Wifu.BackLog

/-!
# Accept requests (`TCPTahoe.cc`, `BackLog.cc`)

An AcceptEvent on any socket that shares the back log of a listening one: it is answered at once, or saved in the socket's
container until that container's connection is established.  A container keeps one AcceptEvent, is copied when a connection
is made and is gone when its socket is deleted.
-/

namespace Wifu

/-- How an accept request stops the process. -/
inductive AcceptFailure
  /-- The container has no back log. -/
  | noBackLog
  | emptyBackLog
  deriving DecidableEq, Repr

namespace Listener

/-- `icontext_accept` of the next request on a socket; a socket that is not among the containers here has no back log. -/
def icontextAccept (l : Listener) (s : SocketId) : Except AcceptFailure Listener :=
  match l.map s with
  | none => .error .noBackLog
  | some c =>
    let e := l.accepts
    let l := { l with accepts := l.accepts + 1 }
    if l.backLog.connections ≠ [] then (l.sendAcceptResponse e).mapError fun _ => .emptyBackLog
    else .ok (l.setContainer s { c with savedAcceptEvent := some e })

/-- On the listening socket. -/
theorem icontextAccept_listening {l : Listener} (h : l.map listening ≠ none) :
    l.icontextAccept listening = l.accept.mapError fun _ => .emptyBackLog := by
  obtain ⟨c, hc⟩ := Option.ne_none_iff_exists'.1 h
  unfold icontextAccept Listener.accept
  rw [hc]
  simp only
  split <;> rfl

/-- `icontext_delete_socket`. -/
def icontextDeleteSocket (l : Listener) (s : SocketId) : Listener := { l with map := Function.update l.map s none }

/-- What the containers of one back log read. -/
inductive AcceptInput
  /-- An `AcceptEvent` on a socket. -/
  | accept (s : SocketId)
  /-- A packet that reaches the connection manager of a socket. -/
  | packet (s : SocketId) (p : TCPPacket)
  /-- A socket has closed, and is deleted. -/
  | deleteSocket (s : SocketId)
  | drain
  deriving DecidableEq

def acceptStep (i : AcceptInput) (l : Listener) : Except AcceptFailure Listener :=
  match i with
  | .accept s => l.icontextAccept s
  | .packet s p => .ok (l.receivePacket s p)
  | .deleteSocket s => .ok (l.icontextDeleteSocket s)
  | .drain => l.drain.mapError fun _ => .emptyBackLog

/-- Events of low priority wait until no protocol event does; the deletion of a socket is the only one then. -/
def acceptEnabled : AcceptInput → Listener → Prop
  | .drain, l => l.queue ≠ []
  | .accept _, l | .packet _ _, l | .deleteSocket _, l => l.queue = []

instance : (i : AcceptInput) → (l : Listener) → Decidable (acceptEnabled i l)
  | .drain, l => inferInstanceAs (Decidable (l.queue ≠ []))
  | .accept _, l | .packet _ _, l | .deleteSocket _, l => inferInstanceAs (Decidable (l.queue = []))

/-- The machine whose runs are those of a listening socket and the connections made on it, with all their accept
requests. -/
def acceptMachine : Transition.Machine Listener AcceptInput AcceptFailure := ⟨acceptEnabled, acceptStep⟩

instance (i : AcceptInput) (l : Listener) : Decidable (acceptMachine.enabled i l) :=
  inferInstanceAs (Decidable (acceptEnabled i l))

/-! ### Where a request waits -/

/-- The container's connection is yet to be established, or the event that says so is in the queue. -/
def Opening (l : Listener) (s : SocketId) (c : AcceptContainer) : Prop :=
  c.state = .listen ∨ c.state = .synReceived ∨ s ∈ completions l.queue

instance (l : Listener) (s : SocketId) (c : AcceptContainer) : Decidable (l.Opening s c) :=
  inferInstanceAs (Decidable (_ ∨ _ ∨ _))

/-- The request is saved where the next connection finds it. -/
def SavedIn (l : Listener) (s : SocketId) (a : Nat) : Prop :=
  ∃ c ∈ l.map s, c.savedAcceptEvent = some a ∧ l.Opening s c

instance (l : Listener) (s : SocketId) (a : Nat) : Decidable (l.SavedIn s a) :=
  inferInstanceAs (Decidable (∃ c ∈ l.map s, c.savedAcceptEvent = some a ∧ l.Opening s c))

/-- No request is lost with what the container of a socket has saved. -/
def MayForget (l : Listener) (s : SocketId) : Prop :=
  ∀ c ∈ l.map s, ∀ a ∈ c.savedAcceptEvent, l.Waits a → ∃ r < l.nextSocket, r ≠ s ∧ l.SavedIn r a

instance (l : Listener) (s : SocketId) : Decidable (l.MayForget s) :=
  inferInstanceAs (Decidable (∀ c ∈ l.map s, ∀ a ∈ c.savedAcceptEvent, l.Waits a → ∃ r < l.nextSocket, r ≠ s ∧ l.SavedIn r a))

/-- A request is answered or takes a place that is free, on a connection to be established; a socket is deleted when
nothing is lost with it; and the request that a new connection answers waits, and there is a connection in the back
log. -/
def answersAccepts (l : Listener) : AcceptInput → Prop
  | .accept s => ∃ c ∈ l.map s, l.backLog.connections ≠ [] ∨
      (c.state = .listen ∨ c.state = .synReceived) ∧ l.MayForget s
  | .packet _ _ => True
  | .deleteSocket s => l.MayForget s
  | .drain => ∀ s ∈ l.queue.head?.bind ConnectionEvent.completed, ∀ c ∈ l.map s, ∀ a ∈ c.savedAcceptEvent,
      l.Waits a ∧ (l.backLog.connections ≠ [] ∨ 1 ≤ l.backLog.capacity)

instance (l : Listener) : (i : AcceptInput) → Decidable (answersAccepts l i)
  | .accept s => inferInstanceAs (Decidable (∃ c ∈ l.map s, l.backLog.connections ≠ [] ∨
      (c.state = .listen ∨ c.state = .synReceived) ∧ l.MayForget s))
  | .packet _ _ => .isTrue trivial
  | .deleteSocket s => inferInstanceAs (Decidable (l.MayForget s))
  | .drain => inferInstanceAs (Decidable (∀ s ∈ l.queue.head?.bind ConnectionEvent.completed, ∀ c ∈ l.map s,
      ∀ a ∈ c.savedAcceptEvent, l.Waits a ∧ (l.backLog.connections ≠ [] ∨ 1 ≤ l.backLog.capacity)))

/-- Each request that has come is answered once, or waits in a container that will answer it. -/
structure AcceptsKept (l : Listener) : Prop where
  asked : ∀ x ∈ l.answers, x.1 < l.accepts
  answeredOnce : (l.answers.map Prod.fst).Nodup
  saved : ∀ a, l.Waits a → ∃ s, l.SavedIn s a

/-- What holds along the runs besides. -/
structure AcceptsTracked (l : Listener) : Prop extends AcceptsKept l where
  mapped : ∀ s c, l.map s = some c → s < l.nextSocket
  short : l.queue.length ≤ 1
  fresh : ∀ s n, .initiated s n ∈ l.queue → l.map n = none ∧ n < l.nextSocket

section

variable {l l' : Listener} {a : Nat} {s r new : SocketId} {c : AcceptContainer} {p : TCPPacket}

theorem SavedIn.of_state (hc : l.map s = some c) (ha : c.savedAcceptEvent = some a)
    (hs : c.state = .listen ∨ c.state = .synReceived) : l.SavedIn s a :=
  ⟨c, hc, ha, hs.imp_right .inl⟩

/-- The container of another socket is set. -/
theorem SavedIn.setContainer (h : l.SavedIn r a) (hr : r ≠ s) (c : AcceptContainer) : (l.setContainer s c).SavedIn r a := by
  obtain ⟨d, hd, ha, ho⟩ := h
  refine ⟨d, ?_, ha, ho⟩
  show (l.setContainer s c).map r = some d
  rw [setContainer_map_of_ne l c hr]
  exact hd

/-- A request that no event in the queue is about waits for a connection that is yet to be established. -/
theorem SavedIn.state (h : l.SavedIn s a) (hq : s ∉ completions l.queue) :
    ∃ c, l.map s = some c ∧ c.savedAcceptEvent = some a ∧ (c.state = .listen ∨ c.state = .synReceived) := by
  obtain ⟨c, hc, ha, ho⟩ := h
  exact ⟨c, hc, ha, ho.imp_right fun ho => ho.resolve_right hq⟩

/-- The container of a socket takes a state in which its request goes on waiting. -/
theorem SavedIn.moves {d : AcceptContainer} (h : l.SavedIn r a) (hq : l.queue = []) (hc : l.map s = some c)
    (hmap : l'.map = (l.setContainer s d).map) (hsaved : d.savedAcceptEvent = c.savedAcceptEvent)
    (hopen : l'.Opening s d) : l'.SavedIn r a := by
  obtain ⟨e, he, ha, ho⟩ := h.state (by rw [hq]; exact List.not_mem_nil)
  by_cases hrs : r = s
  · subst hrs
    rw [hc] at he
    cases he
    exact ⟨d, by rw [hmap]; exact setContainer_map_self l r d, hsaved.trans ha, hopen⟩
  · refine .of_state ?_ ha ho
    rw [hmap, setContainer_map_of_ne l d hrs]
    exact he

/-- The containers are those of sockets made so far, as the one set is. -/
theorem setContainer_mapped {n : SocketId} (hmap : ∀ r d, l.map r = some d → r < n) (hs : s < n) (c : AcceptContainer) :
    ∀ r d, (l.setContainer s c).map r = some d → r < n := by
  intro r d hr
  by_cases hrs : r = s
  · rw [hrs]
    exact hs
  · rw [setContainer_map_of_ne l c hrs] at hr
    exact hmap r d hr

/-- The front of the back log is returned to a request that waits; the others go on waiting. -/
theorem sendAcceptResponse_waits (hb : l.backLog.connections ≠ []) : ∃ s b,
    l.sendAcceptResponse a = .ok { l with backLog := b, answers := l.answers ++ [(a, s)] } := by
  obtain ⟨s, ss, hb⟩ := List.exists_cons_of_ne_nil hb
  refine ⟨s, { l.backLog with connections := ss }, ?_⟩
  unfold sendAcceptResponse BackLog.pop
  rw [hb]

theorem waits_of_answered {b : BackLog} {x : Nat}
    (h : ({ l with backLog := b, answers := l.answers ++ [(a, s)] } : Listener).Waits x) : l.Waits x ∧ x ≠ a := by
  obtain ⟨hlt, hnot⟩ := h
  change x ∉ (l.answers ++ [(a, s)]).map Prod.fst at hnot
  rw [List.map_append, List.mem_append, not_or] at hnot
  exact ⟨⟨hlt, hnot.1⟩, fun heq => hnot.2 (List.mem_singleton.2 heq)⟩

/-- A request that waits is answered; the others are saved. -/
theorem AcceptsKept.of_answer {b : BackLog} (hasked : ∀ x ∈ l.answers, x.1 < l.accepts)
    (honce : (l.answers.map Prod.fst).Nodup) (ha : l.Waits a) (hsaved : ∀ x, l.Waits x → x ≠ a → ∃ s, l.SavedIn s x) :
    ({ l with backLog := b, answers := l.answers ++ [(a, s)] } : Listener).AcceptsKept := by
  refine ⟨fun x hx => ?_, ?_, fun x hx => ?_⟩
  · rcases List.mem_append.1 hx with hx | hx
    · exact hasked x hx
    · rw [List.mem_singleton.1 hx]
      exact ha.1
  · show ((l.answers ++ [(a, s)]).map Prod.fst).Nodup
    rw [List.map_append]
    refine List.Nodup.append honce (List.nodup_singleton a) fun x hx hxa => ?_
    rw [List.mem_singleton.1 hxa] at hx
    exact ha.2 hx
  · obtain ⟨hx, hne⟩ := waits_of_answered hx
    exact hsaved x hx hne

theorem AcceptsTracked.listen (capacity : Int) : (Listener.listen capacity).AcceptsTracked := by
  refine ⟨⟨fun x hx => ?_, List.nodup_nil, fun a ha => ?_⟩, (Balanced.listen capacity).mapped, Nat.zero_le 1,
    fun s n hv => ?_⟩
  · cases hx
  · exact absurd ha.1 (Nat.not_lt_zero a)
  · cases hv

/-- A request comes: the ones before it go on waiting where they do. -/
theorem AcceptsTracked.accept (h : l.AcceptsTracked) (hc : l.map s = some c)
    (hi : l.backLog.connections ≠ [] ∨ (c.state = .listen ∨ c.state = .synReceived) ∧ l.MayForget s) :
    ∃ l', l.icontextAccept s = .ok l' ∧ l'.AcceptsTracked := by
  have hnew : l.accepts ∉ l.answers.map Prod.fst := fun hmem => by
    obtain ⟨x, hx, heq⟩ := List.mem_map.1 hmem
    exact absurd (h.asked x hx) (by omega)
  have hold {x : Nat} (hx : ({ l with accepts := l.accepts + 1 } : Listener).Waits x) (hne : x ≠ l.accepts) :
      l.Waits x := ⟨by have := hx.1; simp only at this; omega, hx.2⟩
  unfold icontextAccept
  rw [hc]
  simp only
  by_cases hb : l.backLog.connections = []
  · rw [if_neg (not_not.2 hb)]
    obtain ⟨hs, hforget⟩ := hi.resolve_left (not_not.2 hb)
    refine ⟨_, rfl, ⟨⟨fun x hx => Nat.lt_succ_of_lt (h.asked x hx), h.answeredOnce, fun x hx => ?_⟩,
      setContainer_mapped h.mapped (h.mapped s c hc) _, h.short, fun r n hv => ?_⟩⟩
    · by_cases hxa : x = l.accepts
      · rw [hxa]
        exact ⟨s, .of_state (setContainer_map_self _ s _) rfl hs⟩
      · obtain ⟨r, hr⟩ := h.saved x (hold hx hxa)
        by_cases hrs : r = s
        · -- what the container had saved is saved elsewhere
          subst hrs
          obtain ⟨d, hd, hsaved, -⟩ := hr
          obtain ⟨t, -, htr, ht⟩ := hforget d hd x hsaved (hold hx hxa)
          exact ⟨t, ht.setContainer htr _⟩
        · exact ⟨r, hr.setContainer hrs _⟩
    · obtain ⟨hn, hlt⟩ := h.fresh r n hv
      have hns : n ≠ s := fun heq => by
        rw [heq, hc] at hn
        cases hn
      rw [setContainer_map_of_ne _ _ hns]
      exact ⟨hn, hlt⟩
  · rw [if_pos hb]
    obtain ⟨x, b, hok⟩ := sendAcceptResponse_waits (l := { l with accepts := l.accepts + 1 }) (a := l.accepts) hb
    rw [hok]
    refine ⟨_, rfl, ⟨.of_answer (fun x hx => Nat.lt_succ_of_lt (h.asked x hx)) h.answeredOnce ⟨Nat.lt_succ_self _, hnew⟩
      fun x hx hne => h.saved x (hold hx hne), h.mapped, h.short, h.fresh⟩⟩

/-- A packet keeps what a container has saved, and its connection is still to be established or waits to be. -/
theorem AcceptsTracked.receivePacket (h : l.AcceptsTracked) (hq : l.queue = []) (s : SocketId) (p : TCPPacket) :
    (l.receivePacket s p).AcceptsTracked := by
  unfold Listener.receivePacket
  cases hc : l.map s with
  | none => exact h
  | some c =>
    have hs := h.mapped s c hc
    simp only
    split
    · split
      · -- a SYN
        refine ⟨⟨h.asked, h.answeredOnce, fun x hx => ?_⟩, ?_, ?_, fun r n hv => ?_⟩
        · obtain ⟨r, hr⟩ := h.saved x hx
          exact ⟨r, hr.moves hq hc rfl rfl (.inr (.inl rfl))⟩
        · exact setContainer_mapped (fun r d hr => Nat.lt_succ_of_lt (h.mapped r d hr)) (Nat.lt_succ_of_lt hs) _
        · show (l.queue ++ [_]).length ≤ 1
          rw [hq]
          exact Nat.le_refl 1
        · replace hv : .initiated r n ∈ l.queue ++ [ConnectionEvent.initiated s l.nextSocket] := hv
          rw [hq, List.nil_append, List.mem_singleton] at hv
          cases hv
          refine ⟨?_, Nat.lt_succ_self _⟩
          show (Listener.setContainer _ s _).map l.nextSocket = none
          rw [setContainer_map_of_ne _ _ (Nat.ne_of_gt hs)]
          by_contra hsome
          obtain ⟨d, hd⟩ := Option.ne_none_iff_exists'.1 hsome
          exact absurd (h.mapped _ d hd) (Nat.lt_irrefl _)
      · exact h
    · split
      · -- the connection is established, and the event that says so is the only one
        refine ⟨⟨h.asked, h.answeredOnce, fun x hx => ?_⟩, setContainer_mapped h.mapped hs _, ?_, fun r n hv => ?_⟩
        · obtain ⟨r, hr⟩ := h.saved x hx
          refine ⟨r, hr.moves hq hc rfl rfl (.inr (.inr ?_))⟩
          show s ∈ completions (l.queue ++ [_])
          rw [hq]
          exact List.mem_singleton_self s
        · show (l.queue ++ [_]).length ≤ 1
          rw [hq]
          exact Nat.le_refl 1
        · replace hv : .initiated r n ∈ l.queue ++ [ConnectionEvent.established c.acceptSocket s] := hv
          rw [hq, List.nil_append, List.mem_singleton] at hv
          cases hv
      · exact h
    · exact h

/-- A container goes that has saved nothing, or what is saved elsewhere. -/
theorem AcceptsTracked.deleteSocket (h : l.AcceptsTracked) (hq : l.queue = []) (hi : l.MayForget s) :
    (l.icontextDeleteSocket s).AcceptsTracked := by
  have hmap {r : SocketId} (hrs : r ≠ s) : (l.icontextDeleteSocket s).map r = l.map r := Function.update_of_ne hrs _ _
  have hkeep {r : SocketId} {x : Nat} (hr : l.SavedIn r x) (hrs : r ≠ s) : (l.icontextDeleteSocket s).SavedIn r x := by
    obtain ⟨d, hd, hx, ho⟩ := hr
    exact ⟨d, (hmap hrs).trans hd, hx, ho⟩
  refine ⟨⟨h.asked, h.answeredOnce, fun x hx => ?_⟩, fun r d hr => ?_, h.short, fun r n hv => ?_⟩
  · obtain ⟨r, hr⟩ := h.saved x hx
    by_cases hrs : r = s
    · subst hrs
      obtain ⟨d, hd, hsaved, -⟩ := hr
      obtain ⟨t, -, htr, ht⟩ := hi d hd x hsaved hx
      exact ⟨t, hkeep ht htr⟩
    · exact ⟨r, hkeep hr hrs⟩
  · by_cases hrs : r = s
    · rw [hrs] at hr
      replace hr : Function.update l.map s none s = some d := hr
      rw [Function.update_self] at hr
      cases hr
    · rw [hmap hrs] at hr
      exact h.mapped r d hr
  · replace hv : .initiated r n ∈ l.queue := hv
    rw [hq] at hv
    cases hv

/-- The container moves to the new socket with what it has saved, and a copy of that stays. -/
theorem AcceptsTracked.initiated (h : l.AcceptsTracked) (hq : l.queue = [.initiated s new]) :
    (Listener.newConnectionInitiated { l with queue := [] } s new).AcceptsTracked := by
  obtain ⟨hnew, hlt⟩ := h.fresh s new (by rw [hq]; exact List.mem_cons_self)
  have hbefore {x : Nat} {r : SocketId} (hr : l.SavedIn r x) : Listener.SavedIn { l with queue := [] } r x := by
    obtain ⟨d, hd, hsaved, hopen⟩ := hr.state (by rw [hq]; exact List.not_mem_nil)
    exact .of_state hd hsaved hopen
  unfold Listener.newConnectionInitiated
  show (match l.map s with | none => _ | some c => _ : Listener).AcceptsTracked
  cases hc : l.map s with
  | none =>
    refine ⟨⟨h.asked, h.answeredOnce, fun x hx => ?_⟩, h.mapped, Nat.zero_le 1, fun r n hv => by cases hv⟩
    obtain ⟨r, hr⟩ := h.saved x hx
    exact ⟨r, hbefore hr⟩
  | some c =>
    refine ⟨⟨h.asked, h.answeredOnce, fun x hx => ?_⟩,
      setContainer_mapped (setContainer_mapped h.mapped hlt c) (h.mapped s c hc) _, Nat.zero_le 1,
      fun r n hv => by cases hv⟩
    have hne {r : SocketId} (hr : l.map r ≠ none) : r ≠ new := fun heq => hr (heq ▸ hnew)
    have hs : (Listener.setContainer { l with queue := [] } new c).map s = some c := by
      rw [setContainer_map_of_ne _ c (hne (by simp [hc]))]
      exact hc
    obtain ⟨r, hr⟩ := h.saved x hx
    have hrn : r ≠ new := hne fun hnone => by
      obtain ⟨d, hd, -⟩ := hr
      rw [hnone] at hd
      cases hd
    exact ⟨r, ((hbefore hr).setContainer hrn c).moves rfl hs rfl rfl (.inl rfl)⟩

/-- The request that the new connection's container has saved is answered. -/
theorem AcceptsTracked.established (h : l.AcceptsTracked) (hq : l.queue = [.established r s])
    (hi : ∀ c ∈ l.map s, ∀ a ∈ c.savedAcceptEvent, l.Waits a ∧ (l.backLog.connections ≠ [] ∨ 1 ≤ l.backLog.capacity)) :
    ∃ l', Listener.newConnectionEstablished { l with queue := [] } s = .ok l' ∧ l'.AcceptsTracked := by
  -- what is saved elsewhere waits for another connection
  have hother {x : Nat} {t : SocketId} (ht : l.SavedIn t x) (hts : t ≠ s) (b : BackLog) :
      Listener.SavedIn { l with queue := [], backLog := b } t x := by
    obtain ⟨d, hd, hx, ho⟩ := ht
    refine .of_state hd hx (ho.imp_right fun ho => ho.resolve_right fun hmem => hts ?_)
    rw [hq] at hmem
    exact List.mem_singleton.1 hmem
  unfold Listener.newConnectionEstablished
  show ∃ l', (match l.map s with | none => _ | some c => _ : Except AcceptAbort Listener) = .ok l' ∧ l'.AcceptsTracked
  cases hc : l.map s with
  | none =>
    refine ⟨_, rfl, ⟨h.asked, h.answeredOnce, fun x hx => ?_⟩, h.mapped, Nat.zero_le 1, fun r n hv => by cases hv⟩
    obtain ⟨t, ht⟩ := h.saved x hx
    refine ⟨t, hother ht (fun heq => ?_) l.backLog⟩
    obtain ⟨d, hd, -⟩ := ht
    rw [heq, hc] at hd
    cases hd
  | some c =>
    cases hsaved : c.savedAcceptEvent with
    | none =>
      refine ⟨{ l with queue := [], backLog := l.backLog.push s }, by simp only [hsaved],
        ⟨h.asked, h.answeredOnce, fun x hx => ?_⟩, h.mapped, Nat.zero_le 1, fun r n hv => by cases hv⟩
      obtain ⟨t, ht⟩ := h.saved x hx
      refine ⟨t, hother ht (fun heq => ?_) _⟩
      obtain ⟨d, hd, hx, -⟩ := ht
      rw [heq, hc] at hd
      cases hd
      rw [hsaved] at hx
      cases hx
    | some a =>
      obtain ⟨ha, hroom⟩ := hi c hc a hsaved
      have hne : (l.backLog.push s).connections ≠ [] := by
        unfold BackLog.push
        split
        · simp
        · rename_i hfull
          intro hb
          rw [hb] at hfull
          exact hfull (by simpa using hroom.resolve_left (not_not.2 hb))
      obtain ⟨x, b, hok⟩ := sendAcceptResponse_waits (l := { l with queue := [], backLog := l.backLog.push s })
        (a := a) hne
      simp only [hsaved, hok]
      refine ⟨_, rfl, ?_⟩
      refine ⟨AcceptsKept.of_answer
        (l := Listener.setContainer { l with queue := [], backLog := l.backLog.push s } s { c with savedAcceptEvent := none })
        h.asked h.answeredOnce ha fun y hy hya => ?_, setContainer_mapped h.mapped (h.mapped s c hc) _, Nat.zero_le 1,
        fun r n hv => by cases hv⟩
      obtain ⟨t, ht⟩ := h.saved y hy
      have hts : t ≠ s := fun heq => by
        obtain ⟨d, hd, hy, -⟩ := ht
        rw [heq, hc] at hd
        cases hd
        exact hya (Option.some_inj.1 (hy.symm.trans hsaved))
      exact ⟨t, (hother ht hts _).setContainer hts _⟩

/-- A step that answers or keeps its request, or the one that waits for its connection. -/
theorem AcceptsTracked.step {i : AcceptInput} (h : l.AcceptsTracked) (hen : acceptEnabled i l)
    (hi : l.answersAccepts i) : ∃ l', acceptStep i l = .ok l' ∧ l'.AcceptsTracked := by
  cases i with
  | accept s =>
    obtain ⟨c, hc, hi⟩ := hi
    exact h.accept hc hi
  | packet s p => exact ⟨_, rfl, h.receivePacket hen s p⟩
  | deleteSocket s => exact ⟨_, rfl, h.deleteSocket hen hi⟩
  | drain =>
    obtain ⟨v, hq⟩ : ∃ v, l.queue = [v] := by
      obtain ⟨v, vs, hq⟩ := List.exists_cons_of_ne_nil hen
      have hshort := h.short
      rw [hq, List.length_cons] at hshort
      have hvs : vs = [] := List.length_eq_zero_iff.1 (by omega)
      exact ⟨v, by rw [hq, hvs]⟩
    unfold acceptStep Listener.drain
    simp only [hq]
    cases v with
    | initiated s new => exact ⟨_, rfl, h.initiated hq⟩
    | established r s =>
      obtain ⟨l', hok, hl'⟩ := h.established hq (hi s (by rw [hq]; rfl))
      simp only [hok]
      exact ⟨l', rfl, hl'⟩

/-- Along every run whose steps answer or keep their accept requests, none is lost, and no step stops the process. -/
theorem run_acceptsKept {capacity : Int} {is : List AcceptInput}
    (h : acceptMachine.Run answersAccepts (Listener.listen capacity) is l) : l.AcceptsKept ∧
      ∀ i, acceptMachine.enabled i l → l.answersAccepts i → ∃ l', acceptMachine.step i l = .ok l' := by
  have htracked : l.AcceptsTracked := by
    refine h.invariant AcceptsTracked (.listen capacity) fun t i u ht hen hi hstep => ?_
    obtain ⟨u', hu', htracked⟩ := ht.step hen hi
    have hstep : acceptStep i t = .ok u := hstep
    rw [hu', Except.ok.injEq] at hstep
    exact hstep ▸ htracked
  refine ⟨htracked.toAcceptsKept, fun i hen hi => ?_⟩
  obtain ⟨l', hok, -⟩ := htracked.step hen hi
  exact ⟨l', hok⟩

end

end Listener

end Wifu
