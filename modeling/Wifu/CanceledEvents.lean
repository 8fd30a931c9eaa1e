import Wifu.SendView
import Wifu.TimeoutEventManager

/-!
# The cancelled events (`TimeoutEventManager.cc`, `TimeWait.cc`)

Sockets start and cancel timers through the dispatcher's queue, and the manager's `TimerFiredEvent`s come back to them.
An entry of `canceled_events_` goes away when its timer is taken out of the manager's queue.  A cancellation that comes
after the timer has timed out, as the one that `TimeWait` issues when its own timer has fired, leaves its entry behind.
-/

namespace Wifu

namespace TimeoutEventManager

/-- The timer is in the queue, or the manager's thread holds it and has not timed out on it. -/
def Pending (m : TimeoutEventManager) (e : TimedEvent) : Prop :=
  e ∈ m.queue ∨ m.thread.event = some e ∧ m.thread ≠ .timedOut e

instance (m : TimeoutEventManager) (e : TimedEvent) : Decidable (m.Pending e) := inferInstanceAs (Decidable (_ ∨ _))

/-- A cancellation finds its timer pending, and no wait times out on a timer that has been cancelled. -/
def cancelsPending (m : TimeoutEventManager) : Action → Prop
  | .cancelTimer e => m.Pending e
  | .timeOut => ∀ e ∈ m.thread.event, e ∉ m.canceledEvents
  | _ => True

instance (m : TimeoutEventManager) : (a : Action) → Decidable (m.cancelsPending a)
  | .cancelTimer e => inferInstanceAs (Decidable (m.Pending e))
  | .timeOut => inferInstanceAs (Decidable (∀ e ∈ m.thread.event, e ∉ m.canceledEvents))
  | .enqueue _ | .post | .dequeue | .checkCanceled | .wake | .fire | .requeue | .tick _ => .isTrue trivial

/-- The cancelled timers are pending, and the thread does not go on waiting for one of them. -/
structure Bounded (m : TimeoutEventManager) : Prop where
  pending : ∀ e ∈ m.canceledEvents, m.Pending e
  posted : ∀ e ∈ m.canceledEvents, m.thread = .waiting e → m.posting ≠ none ∨ 0 < m.semaphore

section

variable {m m' : TimeoutEventManager} {e : TimedEvent}

theorem mem_enqueueSorted {x : TimedEvent} : x ∈ (m.enqueueSorted e).queue ↔ x = e ∨ x ∈ m.queue :=
  Search.mem_insertUpper

/-- The step keeps the entries, and each one stays pending. -/
theorem Bounded.of_pending (hb : m.Bounded) (hc : m'.canceledEvents ⊆ m.canceledEvents)
    (hp : ∀ x ∈ m'.canceledEvents, m.Pending x → m'.Pending x)
    (hposted : ∀ x ∈ m'.canceledEvents, m'.thread = .waiting x → m'.posting ≠ none ∨ 0 < m'.semaphore) : m'.Bounded :=
  ⟨fun x hx => hp x hx (hb.pending x (hc hx)), hposted⟩

theorem Bounded.enqueue (hb : m.Bounded) (e : TimedEvent) :
    Bounded { m.enqueueSorted e with semaphore := binaryPost m.semaphore } := by
  refine hb.of_pending (Finset.Subset.refl _) (fun x _ hx => ?_) fun _ _ _ => .inr (Nat.succ_pos _)
  exact hx.imp_left fun hq => mem_enqueueSorted.2 (.inr hq)

theorem Bounded.cancelTimer (hb : m.Bounded) (he : m.Pending e) :
    Bounded { m with
      canceledEvents := insert e m.canceledEvents, semaphore := tryWait m.semaphore, posting := some e } := by
  refine ⟨fun x hx => ?_, fun _ _ _ => .inl nofun⟩
  rcases Finset.mem_insert.1 hx with rfl | hx
  · exact he
  · exact hb.pending x hx

theorem Bounded.dequeue {es : List TimedEvent} (hb : m.Bounded) (ht : m.thread = .idle) (hq : m.queue = e :: es) :
    Bounded { m with queue := es, thread := .dequeued e } := by
  refine hb.of_pending (Finset.Subset.refl _) (fun x _ hx => ?_) nofun
  rcases hx with hx | ⟨hx, -⟩
  · rw [hq] at hx
    rcases List.mem_cons.1 hx with rfl | hx
    · exact .inr ⟨rfl, nofun⟩
    · exact .inl hx
  · rw [ht] at hx
    cases hx

theorem Bounded.drop (hb : m.Bounded) (ht : m.thread = .dequeued e) :
    Bounded { m with canceledEvents := m.canceledEvents.erase e, thread := .idle } := by
  refine hb.of_pending (Finset.erase_subset _ _) (fun x hx hpending => ?_) nofun
  refine .inl (hpending.resolve_right ?_)
  rintro ⟨hheld, -⟩
  rw [ht] at hheld
  exact (Finset.mem_erase.1 hx).1 (Option.some.inj hheld).symm

/-- The thread goes on with the timer it holds. -/
theorem Bounded.advance (hb : m.Bounded) {t : TimeoutThread} {s : Nat} (ht : t.event = m.thread.event)
    (hwait : ∀ x ∈ m.canceledEvents, t ≠ .waiting x) (hout : ∀ x ∈ m.canceledEvents, t ≠ .timedOut x) :
    Bounded { m with semaphore := s, thread := t } := by
  refine hb.of_pending (Finset.Subset.refl _) (fun x hx hpending => ?_) fun x hx h => absurd h (hwait x hx)
  exact hpending.imp_right fun h => ⟨ht.trans h.1, hout x hx⟩

theorem Bounded.requeue (hb : m.Bounded) (ht : m.thread = .woken e) :
    Bounded { m.enqueueSorted e with thread := .idle } := by
  refine hb.of_pending (Finset.Subset.refl _) (fun x _ hpending => ?_) nofun
  refine .inl (mem_enqueueSorted.2 ?_)
  rcases hpending with hq | ⟨hheld, -⟩
  · exact .inr hq
  · rw [ht] at hheld
    exact .inl (Option.some.inj hheld).symm

theorem Bounded.fire (hb : m.Bounded) (ht : m.thread = .timedOut e) :
    Bounded { m with fired := m.fired ++ [e], thread := .idle } := by
  refine hb.of_pending (Finset.Subset.refl _) (fun x _ hpending => ?_) nofun
  refine .inl (hpending.resolve_right ?_)
  rintro ⟨hheld, hnot⟩
  rw [ht] at hheld
  cases hheld
  exact hnot ht

theorem Bounded.step {a : Action} (hb : m.Bounded) (he : enabled a m) (hc : m.cancelsPending a)
    (hs : step a m = .ok m') : m'.Bounded := by
  cases a with
  | enqueue e =>
    unfold TimeoutEventManager.step at hs
    obtain ⟨-, -, hs⟩ := bind_eq_ok.1 hs
    cases hs
    exact hb.enqueue e
  | cancelTimer e =>
    cases hs
    exact hb.cancelTimer hc
  | post =>
    cases hs
    exact ⟨hb.pending, fun _ _ _ => .inr (Nat.succ_pos _)⟩
  | dequeue =>
    obtain ⟨ht, hq⟩ := he
    obtain ⟨e, es, hq⟩ := List.exists_cons_of_ne_nil hq
    simp only [TimeoutEventManager.step, hq, Except.ok.injEq] at hs
    subst hs
    exact hb.dequeue ht hq
  | checkCanceled =>
    obtain ⟨e, -, ht⟩ := he
    simp only [TimeoutEventManager.step, ht] at hs
    split at hs
    · cases hs
      exact hb.drop ht
    · rename_i hnot
      cases hs
      refine hb.advance (s := m.semaphore) (by rw [ht]; rfl) (fun x hx h => ?_) fun x _ h => ?_
      · cases h
        exact hnot hx
      · cases h
  | wake =>
    obtain ⟨⟨e, -, ht⟩, -⟩ := he
    simp only [TimeoutEventManager.step, ht, Except.ok.injEq] at hs
    subst hs
    exact hb.advance (by rw [ht]; rfl) (fun _ _ h => by cases h) fun _ _ h => by cases h
  | timeOut =>
    obtain ⟨⟨e, hheld, ht, -⟩, -⟩ := he
    simp only [TimeoutEventManager.step, ht, Except.ok.injEq] at hs
    subst hs
    refine hb.advance (s := m.semaphore) (by rw [ht]; rfl) (fun _ _ h => by cases h) fun x hx h => ?_
    cases h
    exact hc e hheld hx
  | fire =>
    obtain ⟨e, -, ht⟩ := he
    simp only [TimeoutEventManager.step, ht, Except.ok.injEq] at hs
    subst hs
    exact hb.fire ht
  | requeue =>
    obtain ⟨e, -, ht⟩ := he
    simp only [TimeoutEventManager.step, ht, Except.ok.injEq] at hs
    subst hs
    exact hb.requeue ht
  | tick now =>
    cases hs
    exact ⟨hb.pending, hb.posted⟩

/-- Nothing happens to the manager until time passes or another timer is started or cancelled. -/
def Quiescent (m : TimeoutEventManager) : Prop :=
  m.posting = none ∧ (m.thread = .idle ∧ m.queue = [] ∨ (∃ e ∈ m.thread.event, m.thread = .waiting e) ∧ m.semaphore = 0)

instance (m : TimeoutEventManager) : Decidable m.Quiescent := inferInstanceAs (Decidable (_ ∧ _))

theorem Bounded.mem_queue (hb : m.Bounded) (hq : m.Quiescent) (he : e ∈ m.canceledEvents) : e ∈ m.queue := by
  obtain ⟨hp, hthread⟩ := hq
  refine (hb.pending e he).resolve_right ?_
  rintro ⟨hheld, -⟩
  rcases hthread with ⟨ht, -⟩ | ⟨⟨x, -, ht⟩, hs⟩
  · rw [ht] at hheld
    cases hheld
  · rw [ht] at hheld
    cases hheld
    rcases hb.posted e he ht with h | h
    · exact h hp
    · omega

/-! ### An entry that is left behind -/

/-- The timer has been cancelled and will not be looked at again. -/
structure Stray (m : TimeoutEventManager) (e : TimedEvent) : Prop where
  canceled : e ∈ m.canceledEvents
  not_pending : ¬m.Pending e

/-- Only starting a timer makes it pending. -/
theorem pending_of_step {a : Action} (he : enabled a m) (ha : a ≠ .enqueue e) (hs : step a m = .ok m')
    (hp : m'.Pending e) : m.Pending e := by
  cases a with
  | enqueue x =>
    unfold TimeoutEventManager.step at hs
    obtain ⟨-, -, hs⟩ := bind_eq_ok.1 hs
    cases hs
    refine hp.imp_left fun h => (mem_enqueueSorted.1 h).resolve_left ?_
    rintro rfl
    exact ha rfl
  | cancelTimer x =>
    cases hs
    exact hp
  | post =>
    cases hs
    exact hp
  | dequeue =>
    obtain ⟨-, hne⟩ := he
    obtain ⟨x, es, hqueue⟩ := List.exists_cons_of_ne_nil hne
    simp only [TimeoutEventManager.step, hqueue, Except.ok.injEq] at hs
    subst hs
    left
    rw [hqueue, List.mem_cons]
    rcases hp with h | ⟨h, -⟩
    · exact .inr h
    · exact .inl (Option.some.inj h).symm
  | checkCanceled =>
    obtain ⟨x, -, ht⟩ := he
    simp only [TimeoutEventManager.step, ht] at hs
    split at hs
    · cases hs
      exact hp.imp_right fun h => nomatch h.1
    · cases hs
      exact hp.imp_right fun h => ⟨ht ▸ h.1, ht ▸ nofun⟩
  | wake =>
    obtain ⟨⟨x, -, ht⟩, -⟩ := he
    simp only [TimeoutEventManager.step, ht, Except.ok.injEq] at hs
    subst hs
    exact hp.imp_right fun h => ⟨ht ▸ h.1, ht ▸ nofun⟩
  | timeOut =>
    obtain ⟨⟨x, -, ht, -⟩, -⟩ := he
    simp only [TimeoutEventManager.step, ht, Except.ok.injEq] at hs
    subst hs
    refine hp.imp_right fun ⟨h, hne⟩ => ?_
    cases h
    exact absurd rfl hne
  | fire =>
    obtain ⟨x, -, ht⟩ := he
    simp only [TimeoutEventManager.step, ht, Except.ok.injEq] at hs
    subst hs
    exact hp.imp_right fun h => nomatch h.1
  | requeue =>
    obtain ⟨x, -, ht⟩ := he
    simp only [TimeoutEventManager.step, ht, Except.ok.injEq] at hs
    subst hs
    rcases hp with h | ⟨h, -⟩
    · rcases mem_enqueueSorted.1 h with rfl | h
      · exact .inr ⟨ht ▸ rfl, ht ▸ nofun⟩
      · exact .inl h
    · cases h
  | tick now =>
    cases hs
    exact hp

/-- Only the check of a timer that the thread holds takes its cancellation away. -/
theorem canceled_step {a : Action} (he : enabled a m) (hs : step a m = .ok m') (hc : e ∈ m.canceledEvents)
    (hnot : ¬m.Pending e) : e ∈ m'.canceledEvents := by
  cases a with
  | enqueue x =>
    unfold TimeoutEventManager.step at hs
    obtain ⟨-, -, hs⟩ := bind_eq_ok.1 hs
    cases hs
    exact hc
  | cancelTimer x =>
    cases hs
    exact Finset.mem_insert_of_mem hc
  | post =>
    cases hs
    exact hc
  | dequeue =>
    obtain ⟨-, hne⟩ := he
    obtain ⟨x, es, hqueue⟩ := List.exists_cons_of_ne_nil hne
    simp only [TimeoutEventManager.step, hqueue, Except.ok.injEq] at hs
    subst hs
    exact hc
  | checkCanceled =>
    obtain ⟨x, -, ht⟩ := he
    simp only [TimeoutEventManager.step, ht] at hs
    split at hs
    · cases hs
      refine Finset.mem_erase.2 ⟨?_, hc⟩
      rintro rfl
      exact hnot (.inr ⟨ht ▸ rfl, ht ▸ nofun⟩)
    · cases hs
      exact hc
  | wake =>
    obtain ⟨⟨x, -, ht⟩, -⟩ := he
    simp only [TimeoutEventManager.step, ht, Except.ok.injEq] at hs
    subst hs
    exact hc
  | timeOut =>
    obtain ⟨⟨x, -, ht, -⟩, -⟩ := he
    simp only [TimeoutEventManager.step, ht, Except.ok.injEq] at hs
    subst hs
    exact hc
  | fire =>
    obtain ⟨x, -, ht⟩ := he
    simp only [TimeoutEventManager.step, ht, Except.ok.injEq] at hs
    subst hs
    exact hc
  | requeue =>
    obtain ⟨x, -, ht⟩ := he
    simp only [TimeoutEventManager.step, ht, Except.ok.injEq] at hs
    subst hs
    exact hc
  | tick now =>
    cases hs
    exact hc

/-- Unless its timer is started again, a stray entry stays. -/
theorem Stray.step {a : Action} (hl : m.Stray e) (he : enabled a m) (ha : a ≠ .enqueue e) (hs : step a m = .ok m') :
    m'.Stray e :=
  ⟨canceled_step he hs hl.canceled hl.not_pending, fun hp => hl.not_pending (pending_of_step he ha hs hp)⟩

/-- An entry is left behind for ever. -/
theorem Stray.run {P : TimeoutEventManager → Action → Prop} {is : List Action} (hr : machine.Run P m is m')
    (hl : m.Stray e) (hP : ∀ t a, P t a → a ≠ .enqueue e) : m'.Stray e :=
  hr.invariant (fun t => t.Stray e) hl fun t a _ hl he hp hs => hl.step he (hP t a hp) hs

end

end TimeoutEventManager

/-! ### Sockets and their timers -/

/-- The endpoints, the events on their way from them through the dispatcher, and the timers that have fired. -/
structure TimedEndpoints where
  endpoints : List Endpoint
  manager : TimeoutEventManager := {}
  /-- What the endpoints have handed to the dispatcher, the oldest first. -/
  dispatcher : List FrameworkEvent := []
  /-- The `TimerFiredEvent`s that no endpoint has handled yet. -/
  arriving : List TimeoutEvent := []
  deriving DecidableEq

namespace TimedEndpoints

section

-- the time of each timer
variable (time : TimeoutEvent → Timespec)

/-- A timer as the manager sees it; timer 0 is the null pointer. -/
def timed (t : Option TimeoutEvent) : TimedEvent :=
  let t := t.getD ⟨0, 0⟩
  { t with time := time t }

/-- What the manager does about an event of the dispatcher. -/
def managerAction : FrameworkEvent → Option TimeoutEventManager.Action
  | .timeout t => some (.enqueue (timed time (some t)))
  | .cancelTimer t => some (.cancelTimer (timed time t))
  | _ => none

inductive Action
  /-- An endpoint takes a step. -/
  | protocol (k : Nat) (i : Endpoint.Input)
  /-- The dispatcher's thread hands on its next event. -/
  | dispatch
  /-- The manager's thread, the rest of a post, or time. -/
  | manager (a : TimeoutEventManager.Action)
  deriving DecidableEq

/-- The manager's own actions: those that the dispatcher's thread does not begin. -/
def isOwn : TimeoutEventManager.Action → Bool
  | .enqueue _ | .cancelTimer _ => false
  | _ => true

/-- The timer whose `TimerFiredEvent` an endpoint reads. -/
def handledTimer : Endpoint.Input → Option TimeoutEvent
  | .timerFired t => some t
  | _ => none

/-- A timer fires for an endpoint after it has fired in the manager. -/
def enabled : Action → TimedEndpoints → Prop
  | .protocol k i, s =>
    (∃ e ∈ s.endpoints[k]?, Endpoint.machine.enabled i e) ∧ ∀ t ∈ handledTimer i, t ∈ s.arriving
  | .dispatch, s => s.dispatcher ≠ [] ∧ s.manager.posting = none
  | .manager a, s => isOwn a = true ∧ TimeoutEventManager.machine.enabled a s.manager

instance : (a : Action) → (s : TimedEndpoints) → Decidable (enabled a s)
  | .protocol k i, s =>
    inferInstanceAs (Decidable ((∃ e ∈ s.endpoints[k]?, Endpoint.machine.enabled i e) ∧ _))
  | .dispatch, s => inferInstanceAs (Decidable (s.dispatcher ≠ [] ∧ s.manager.posting = none))
  | .manager a, s => inferInstanceAs (Decidable (isOwn a = true ∧ TimeoutEventManager.machine.enabled a s.manager))

/-- The timers that fire in an action of the manager. -/
def firing (m : TimeoutEventManager) (a : TimeoutEventManager.Action) : List TimeoutEvent :=
  if a = .fire then (m.thread.event.map TimedEvent.toTimeoutEvent).toList else []

def step : Action → TimedEndpoints → Except Abort TimedEndpoints
  | .protocol k i, s =>
    match s.endpoints[k]? with
    | none => .ok s
    | some e => do
      let e' ← Endpoint.machine.step i e
      .ok { s with
        endpoints := s.endpoints.set k e'
        dispatcher := s.dispatcher ++ e'.dispatched.drop e.dispatched.length
        arriving := match handledTimer i with
          | some t => s.arriving.erase t
          | none => s.arriving }
  | .dispatch, s =>
    match s.dispatcher with
    | [] => .ok s
    | f :: fs =>
      match managerAction time f with
      | none => .ok { s with dispatcher := fs }
      | some a => do
        let m ← TimeoutEventManager.machine.step a s.manager
        .ok { s with dispatcher := fs, manager := m }
  | .manager a, s => do
    let m ← TimeoutEventManager.machine.step a s.manager
    .ok { s with manager := m, arriving := s.arriving ++ firing s.manager a }

/-- The machine whose runs are the runs of the endpoints with the timer manager. -/
def machine : Transition.Machine TimedEndpoints Action Abort := ⟨enabled, step time⟩

instance (a : Action) (s : TimedEndpoints) : Decidable ((machine time).enabled a s) :=
  inferInstanceAs (Decidable (enabled a s))

/-- The manager's action in a step of the system. -/
def action (s : TimedEndpoints) : Action → Option TimeoutEventManager.Action
  | .protocol _ _ => none
  | .dispatch => s.dispatcher.head?.bind (managerAction time)
  | .manager a => some a

/-- Each cancellation reaches the manager while its timer is pending. -/
def cancelsPending (s : TimedEndpoints) (a : Action) : Prop :=
  ∀ b ∈ s.action time a, s.manager.cancelsPending b

instance (s : TimedEndpoints) (a : Action) : Decidable (s.cancelsPending time a) :=
  inferInstanceAs (Decidable (∀ b ∈ s.action time a, s.manager.cancelsPending b))

/-- Nothing is on its way, and the manager waits. -/
def Quiescent (s : TimedEndpoints) : Prop :=
  (∀ e ∈ s.endpoints, e.queue = []) ∧ s.dispatcher = [] ∧ s.arriving = [] ∧ s.manager.Quiescent

instance (s : TimedEndpoints) : Decidable s.Quiescent := inferInstanceAs (Decidable (_ ∧ _))

variable {time} {s s' : TimedEndpoints}

/-- What a step of the system does to the manager. -/
theorem step_manager {a : Action} (he : enabled a s) (hs : step time a s = .ok s') :
    s'.manager = s.manager ∨ ∃ b ∈ s.action time a, TimeoutEventManager.enabled b s.manager ∧
      TimeoutEventManager.step b s.manager = .ok s'.manager := by
  cases a with
  | protocol k i =>
    simp only [step] at hs
    split at hs
    · cases hs
      exact .inl rfl
    · obtain ⟨e', -, hs⟩ := bind_eq_ok.1 hs
      cases hs
      exact .inl rfl
  | dispatch =>
    obtain ⟨-, hpost⟩ := he
    simp only [step] at hs
    split at hs
    · cases hs
      exact .inl rfl
    · rename_i f fs hq
      split at hs
      · cases hs
        exact .inl rfl
      · rename_i b hb
        obtain ⟨m, hm, hs⟩ := bind_eq_ok.1 hs
        cases hs
        refine .inr ⟨b, by simp [action, hq, hb], ?_, hm⟩
        -- the dispatcher begins no action while a post is under way
        unfold managerAction at hb
        split at hb
        · cases hb
          exact hpost
        · cases hb
          exact hpost
        · cases hb
  | manager b =>
    obtain ⟨m, hm, hs⟩ := bind_eq_ok.1 hs
    cases hs
    exact .inr ⟨b, rfl, he.2, hm⟩

theorem step_bounded {a : Action} (hb : s.manager.Bounded) (he : enabled a s) (hc : s.cancelsPending time a)
    (hs : step time a s = .ok s') : s'.manager.Bounded := by
  rcases step_manager he hs with heq | ⟨b, hmem, hen, hstep⟩
  · rw [heq]
    exact hb
  · exact hb.step hen (hc b hmem) hstep

/-- At quiescence each cancelled event is a timer that waits in the manager's queue, in every run of any endpoints
whose cancellations find their timer pending. -/
theorem canceled_bounded {es : List Endpoint} {is : List Action}
    (h : (machine time).Run (cancelsPending time) { endpoints := es } is s) (hq : s.Quiescent) :
    ∀ e ∈ s.manager.canceledEvents, e ∈ s.manager.queue := by
  have hb : s.manager.Bounded := by
    refine h.invariant (fun s => s.manager.Bounded) ⟨nofun, nofun⟩ ?_
    intro t a u hb he hc hs
    exact step_bounded hb he hc hs
  exact fun e he => hb.mem_queue hq.2.2.2 he

end

/-! ### A client and its timers -/

/-- The steps of the first endpoint. -/
def protocol (is : List Endpoint.Input) : List Action := is.map (.protocol 0)

/-- The dispatcher hands on `n` events. -/
def dispatches (n : Nat) : List Action := List.replicate n .dispatch

/-- The actions of the manager. -/
def manages (as : List TimeoutEventManager.Action) : List Action := as.map .manager

/-- The client sends a byte, and its timer is earlier than the one of its SYN, which has been cancelled. -/
def sendScript : List Action :=
  let inputs : List Endpoint.Input := Endpoint.connectScript 100 ++ [.send ⟨2, [65]⟩, .drain, .drain]
  List.flatten [protocol inputs, dispatches 3, manages [.post], dispatches 5,
    manages [.dequeue, .checkCanceled, .wake, .requeue, .dequeue, .checkCanceled]]

theorem canceled_bounded_send : ∃ s : TimedEndpoints, s.manager.canceledEvents ≠ ∅ ∧
    ∀ e ∈ s.manager.canceledEvents, e ∈ s.manager.queue := by
  obtain ⟨s, hrun, h⟩ := Transition.Machine.exists_run (M := machine fun t => ⟨10 - t.id, 0⟩)
    (P := cancelsPending fun t => ⟨10 - t.id, 0⟩) (s := { endpoints := [Endpoint.client] }) (i := sendScript)
    (q := fun s => decide (s.Quiescent ∧ s.manager.canceledEvents ≠ ∅)) (by decide +kernel)
  obtain ⟨hq, hne⟩ := of_decide_eq_true h
  exact ⟨s, hne, canceled_bounded hrun hq⟩

/-- The client closes, the server's FIN comes with the acknowledgement of the client's, and the timer of TIME-WAIT
fires. -/
def closeScript : List Action :=
  let fin : TCPPacket := { Endpoint.segment 101 3 [] with fin := true }
  let inputs : List Endpoint.Input := Endpoint.connectScript 100 ++ [.close ⟨2⟩, .drain, .packet fin, .drain, .drain]
  List.flatten [protocol inputs, dispatches 3, manages [.post], dispatches 6, manages [.post], dispatches 2,
    manages [.dequeue, .checkCanceled, .dequeue, .checkCanceled, .dequeue, .checkCanceled, .wake, .requeue, .dequeue,
      .checkCanceled, .tick ⟨3, 0⟩, .timeOut, .fire],
    protocol [.timerFired ⟨3, 1⟩, .drain], dispatches 1, manages [.post]]

/-- The closed connection leaves an entry that nothing takes away. -/
theorem canceled_stray : ∃ s, (machine fun t => ⟨t.id, 0⟩).Run Transition.anyStep { endpoints := [Endpoint.client] }
    closeScript s ∧ s.Quiescent ∧ ∃ e, s.manager.Stray e := by
  obtain ⟨s, hrun, h⟩ := Transition.Machine.exists_run (M := machine fun t => ⟨t.id, 0⟩) (P := Transition.anyStep)
    (s := { endpoints := [Endpoint.client] }) (i := closeScript)
    (q := fun s => decide (s.Quiescent ∧ ⟨⟨3, 1⟩, ⟨3, 0⟩⟩ ∈ s.manager.canceledEvents ∧
      ¬s.manager.Pending ⟨⟨3, 1⟩, ⟨3, 0⟩⟩)) (by decide +kernel)
  obtain ⟨hq, hmem, hnot⟩ := of_decide_eq_true h
  exact ⟨s, hrun, hq, ⟨⟨3, 1⟩, ⟨3, 0⟩⟩, hmem, hnot⟩

end TimedEndpoints

namespace Endpoint

/-- Leaving TIME-WAIT because its timer has fired cancels that timer. -/
theorem timeWait_cancels_fired {e e' : Endpoint} {t : TimeoutEvent} (hs : e.cmc.state = .timeWait)
    (ht : e.cmc.timeWaitTimer = some t) (h : e.timerFired t = .ok e') :
    .cancelTimer (some t) ∈ e'.dispatched.drop e.dispatched.length := by
  unfold timerFired at h
  have hgrows := (Grows.reliabilityTimerFired e t).dispatched
  have hcmc := (AckChange.timerFired e t).cmc
  generalize e.reliabilityTimerFired t = f at h hgrows hcmc
  obtain ⟨d, hd⟩ := hgrows
  have hmanager : (f.managerTimerFired t).dispatched = f.dispatched ++ [.cancelTimer (some t)] := by
    rw [← hcmc] at hs ht
    unfold managerTimerFired setState stateExit stateEnter
    simp only [hs, ht, if_true, enqueue, enqueueFor, stopTimeWaitTimer, dispatch]
  obtain ⟨d', hd'⟩ := (Grows.congestionTimerFired h).dispatched
  rw [hd', hmanager, hd, List.append_assoc, List.append_assoc, List.drop_left]
  simp

end Endpoint

end Wifu
