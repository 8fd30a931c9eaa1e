import Wifu.TimeoutEventManager

/-!
# Timers fire once, in order, and not after they have been cancelled

The invariant follows a timer from the queue to the manager's thread and to its `TimerFiredEvent`.  A timer that has
been cancelled is doomed: it is among the cancelled events, or has already been dropped.  While the thread holds a
timer, an earlier one in the queue or the cancellation of the timer itself has left a post on the semaphore.
-/

namespace Wifu

namespace TimeoutEventManager

open Search (SortedBy)

/-- The timers in the queue, with the manager's thread, and fired. -/
def events (m : TimeoutEventManager) : List TimedEvent := m.queue ++ (m.thread.event.toList ++ m.fired)

/-- A timer that will be dropped, or has been. -/
def Doomed (m : TimeoutEventManager) (h : History) (e : TimedEvent) : Prop :=
  e ∈ m.canceledEvents ∨ e ∈ h.enqueued ∧ e ∉ m.queue ∧ m.thread.event ≠ some e

/-- The next timed wait returns at once. -/
def Posted (m : TimeoutEventManager) : Prop := m.posting ≠ none ∨ m.semaphore = 1

/-- Where the timers are. -/
structure Kept (m : TimeoutEventManager) (h : History) : Prop where
  nodup : m.events.Nodup
  known : ∀ e ∈ m.events, e ∈ h.enqueued
  kept : ∀ e ∈ h.enqueued, e ∉ h.canceled → e ∈ m.events
  canceled : ∀ e ∈ m.canceledEvents, e ∈ h.canceled

/-- The invariant of the two threads while no wait reports a timeout between the halves of a post. -/
structure TimerInv (m : TimeoutEventManager) (h : History) : Prop extends Kept m h where
  sorted : SortedBy timeoutEventComparator m.queue
  semaphore : m.semaphore ≤ 1
  posting : ∀ e, m.posting = some e → m.semaphore = 0 ∧ Doomed m h e
  stopped : ∀ e ∈ h.stopped, Doomed m h e ∧ m.thread ≠ .timedOut e ∧ e ∉ m.fired
  woken : ∀ e, m.thread = .waiting e → e ∈ h.stopped → m.Posted
  order : ∀ e₂, m.thread = .dequeued e₂ ∨ m.thread = .waiting e₂ → ∀ e₁ ∈ m.queue,
    timeoutEventComparator e₁ e₂ = true → m.Posted

section

variable {m m' : TimeoutEventManager} {h h' : History} {e : TimedEvent}

theorem mem_events {x : TimedEvent} : x ∈ m.events ↔ x ∈ m.queue ∨ m.thread.event = some x ∨ x ∈ m.fired := by
  simp [events]

theorem not_posted (hp : m.posting = none) (hs : m.semaphore = 0) : ¬m.Posted := by
  unfold Posted
  simp [hp, hs]

/-! ### No timer is lost or doubled -/

theorem events_dequeue {es : List TimedEvent} (ht : m.thread = .idle) (hq : m.queue = e :: es) :
    ({ m with queue := es, thread := .dequeued e } : TimeoutEventManager).events.Perm m.events := by
  simp only [events, hq, ht, TimeoutThread.event, Option.toList_none, Option.toList_some, List.nil_append,
    List.cons_append]
  exact List.perm_middle

theorem events_requeue (ht : m.thread = .woken e) :
    ({ m.enqueueSorted e with thread := .idle } : TimeoutEventManager).events.Perm m.events := by
  simp only [events, ht, TimeoutThread.event, Option.toList_none, Option.toList_some, List.nil_append,
    List.cons_append, enqueueSorted]
  refine ((Search.insertUpper_perm timeoutEventComparator e m.queue).append_right _).trans ?_
  exact List.perm_middle.symm

theorem events_fire (ht : m.thread = .timedOut e) :
    ({ m with fired := m.fired ++ [e], thread := .idle } : TimeoutEventManager).events.Perm m.events := by
  simp only [events, ht, TimeoutThread.event, Option.toList_none, Option.toList_some, List.nil_append]
  exact List.perm_append_comm.append_left _

theorem Kept.of_perm (hk : Kept m h) (hperm : m'.events.Perm m.events) (hc : m'.canceledEvents = m.canceledEvents)
    (he : h'.enqueued = h.enqueued) (hcanceled : h'.canceled = h.canceled) : Kept m' h' where
  nodup := hperm.nodup_iff.2 hk.nodup
  known x hx := by
    rw [he]
    exact hk.known x (hperm.mem_iff.1 hx)
  kept x hx hxc := by
    rw [he] at hx
    rw [hcanceled] at hxc
    exact hperm.mem_iff.2 (hk.kept x hx hxc)
  canceled x hx := by
    rw [hc] at hx
    rw [hcanceled]
    exact hk.canceled x hx

/-- A timer that nothing has enqueued yet goes into the queue. -/
theorem Kept.enqueue (hk : Kept m h) (he : e ∉ h.enqueued) :
    Kept { m.enqueueSorted e with semaphore := binaryPost m.semaphore } { h with enqueued := e :: h.enqueued } := by
  have hnew : e ∉ m.events := fun hmem => he (hk.known e hmem)
  have hperm : ({ m.enqueueSorted e with semaphore := binaryPost m.semaphore } : TimeoutEventManager).events.Perm
      (e :: m.events) :=
    (Search.insertUpper_perm _ _ _).append_right _
  refine ⟨?_, ?_, ?_, hk.canceled⟩
  · rw [hperm.nodup_iff, List.nodup_cons]
    exact ⟨hnew, hk.nodup⟩
  · intro x hx
    rcases List.mem_cons.1 (hperm.mem_iff.1 hx) with rfl | hx
    · exact List.mem_cons_self
    · exact List.mem_cons_of_mem _ (hk.known x hx)
  · intro x hx hc
    rw [hperm.mem_iff]
    rcases List.mem_cons.1 hx with rfl | hx
    · exact List.mem_cons_self
    · exact List.mem_cons_of_mem _ (hk.kept x hx hc)

theorem Kept.cancelTimer (hk : Kept m h) (e : TimedEvent) :
    Kept { m with
        canceledEvents := insert e m.canceledEvents, semaphore := tryWait m.semaphore, posting := some e }
      { h with canceled := insert e h.canceled } := by
  refine ⟨hk.nodup, hk.known, ?_, ?_⟩
  · intro x hx hc
    rw [Finset.mem_insert, not_or] at hc
    exact hk.kept x hx hc.2
  · intro x hx
    rcases Finset.mem_insert.1 hx with rfl | hx
    · exact Finset.mem_insert_self x _
    · exact Finset.mem_insert_of_mem (hk.canceled x hx)

/-- The timer that the thread holds is nowhere else. -/
theorem Kept.held_nodup (hk : Kept m h) (ht : m.thread.event = some e) :
    (e ∉ m.queue ∧ e ∉ m.fired) ∧ (m.queue ++ m.fired).Nodup := by
  have hnodup := hk.nodup
  simp only [events, ht, Option.toList_some] at hnodup
  have hperm : (m.queue ++ ([e] ++ m.fired)).Perm (e :: (m.queue ++ m.fired)) := List.perm_middle
  rwa [hperm.nodup_iff, List.nodup_cons, List.mem_append, not_or] at hnodup

theorem Kept.drop (hk : Kept m h) (ht : m.thread = .dequeued e) (hc : e ∈ m.canceledEvents) :
    Kept { m with canceledEvents := m.canceledEvents.erase e, thread := .idle } h := by
  have hnodup := (hk.held_nodup (show m.thread.event = some e by rw [ht]; rfl)).2
  refine ⟨by simpa [events, TimeoutThread.event] using hnodup, ?_, ?_, ?_⟩
  · intro x hx
    refine hk.known x (mem_events.2 ?_)
    rcases mem_events.1 hx with hx | hx | hx
    · exact .inl hx
    · cases hx
    · exact .inr (.inr hx)
  · intro x hx hxc
    rcases mem_events.1 (hk.kept x hx hxc) with hxq | hxt | hxf
    · exact mem_events.2 (.inl hxq)
    · rw [ht] at hxt
      cases hxt
      exact absurd (hk.canceled e hc) hxc
    · exact mem_events.2 (.inr (.inr hxf))
  · intro x hx
    exact hk.canceled x (Finset.mem_erase.1 hx).2

/-- Nothing is lost or doubled by a step, whatever the threads do. -/
theorem Kept.step {s t : TimeoutEventManager × History} {a : Action} (hk : Kept s.1 s.2)
    (he : historyMachine.enabled a s) (honce : enqueuedOnce s a) (hs : historyMachine.step a s = .ok t) :
    Kept t.1 t.2 := by
  obtain ⟨m, h⟩ := s
  obtain ⟨m', h'⟩ := t
  obtain ⟨hstep, hh⟩ := Transition.Machine.observed_step.1 hs
  clear hs
  simp only at hh hk
  subst hh
  replace he : enabled a m := he
  have hs : TimeoutEventManager.step a m = .ok m' := hstep
  clear hstep
  cases a with
  | enqueue e =>
    have hnew : e ∉ h.enqueued := honce e rfl
    simp only [TimeoutEventManager.step, check, bind, Except.bind] at hs
    split at hs
    · cases hs
    · cases hs
      exact hk.enqueue hnew
  | cancelTimer e =>
    cases hs
    exact hk.cancelTimer e
  | post =>
    cases hs
    obtain ⟨e, hp⟩ := Option.ne_none_iff_exists'.1 he
    simp only [observe, hp]
    split
    · exact hk.of_perm (.refl _) rfl rfl rfl
    · exact hk.of_perm (.refl _) rfl rfl rfl
  | dequeue =>
    obtain ⟨ht, hq⟩ := he
    obtain ⟨e, es, hq⟩ := List.exists_cons_of_ne_nil hq
    simp only [TimeoutEventManager.step, hq, Except.ok.injEq] at hs
    subst hs
    exact hk.of_perm (events_dequeue ht hq) rfl rfl rfl
  | checkCanceled =>
    obtain ⟨e, -, ht⟩ := he
    simp only [TimeoutEventManager.step, ht] at hs
    split at hs
    · rename_i hmem
      cases hs
      exact hk.drop ht hmem
    · cases hs
      exact hk.of_perm (by simp [events, ht, TimeoutThread.event]) rfl rfl rfl
  | wake =>
    obtain ⟨⟨e, -, ht⟩, -⟩ := he
    simp only [TimeoutEventManager.step, ht, Except.ok.injEq] at hs
    subst hs
    exact hk.of_perm (by simp [events, ht, TimeoutThread.event]) rfl rfl rfl
  | timeOut =>
    obtain ⟨⟨e, -, ht, -⟩, -⟩ := he
    simp only [TimeoutEventManager.step, ht, Except.ok.injEq] at hs
    subst hs
    exact hk.of_perm (by simp [events, ht, TimeoutThread.event]) rfl rfl rfl
  | fire =>
    obtain ⟨e, -, ht⟩ := he
    simp only [TimeoutEventManager.step, ht, Except.ok.injEq] at hs
    subst hs
    exact hk.of_perm (events_fire ht) rfl rfl rfl
  | requeue =>
    obtain ⟨e, -, ht⟩ := he
    simp only [TimeoutEventManager.step, ht, Except.ok.injEq] at hs
    subst hs
    exact hk.of_perm (events_requeue ht) rfl rfl rfl
  | tick now =>
    cases hs
    exact hk.of_perm (.refl _) rfl rfl rfl

theorem Kept.init : Kept {} {} where
  nodup := List.nodup_nil
  known := by simp [events, TimeoutThread.event]
  kept := by simp
  canceled := by simp

theorem Kept.run {is : List Action} {s : TimeoutEventManager × History}
    (hr : historyMachine.Run enqueuedOnce ({}, {}) is s) : Kept s.1 s.2 :=
  hr.invariant (fun s => Kept s.1 s.2) .init fun _ _ _ hk he hc hs => hk.step he hc hs

/-! ### Cancelled timers and the order -/

theorem TimerInv.enqueue (hi : TimerInv m h) (he : e ∉ h.enqueued) (hp : m.posting = none) :
    TimerInv { m.enqueueSorted e with semaphore := binaryPost m.semaphore } { h with enqueued := e :: h.enqueued } := by
  have hone : binaryPost m.semaphore = 1 := by
    have := hi.semaphore
    unfold binaryPost tryWait
    omega
  have hdoomed (x : TimedEvent) (hx : Doomed m h x) :
      Doomed { m.enqueueSorted e with semaphore := binaryPost m.semaphore }
        { h with enqueued := e :: h.enqueued } x := by
    refine hx.imp id ?_
    rintro ⟨hxe, hq, ht⟩
    refine ⟨List.mem_cons_of_mem _ hxe, ?_, ht⟩
    intro hmem
    rcases Search.mem_insertUpper.1 hmem with rfl | hmem
    · exact he hxe
    · exact hq hmem
  refine ⟨hi.toKept.enqueue he, Search.sortedBy_insertUpper timeoutEventComparator_strictWeak hi.sorted, hone.le, ?_,
    ?_, fun _ _ _ => .inr hone, fun _ _ _ _ _ => .inr hone⟩
  · intro x hx
    rw [show m.posting = some x from hx] at hp
    cases hp
  · intro x hx
    obtain ⟨hd, ht, hf⟩ := hi.stopped x hx
    exact ⟨hdoomed x hd, ht, hf⟩

theorem TimerInv.cancelTimer (hi : TimerInv m h) (e : TimedEvent) :
    TimerInv { m with
        canceledEvents := insert e m.canceledEvents, semaphore := tryWait m.semaphore, posting := some e }
      { h with canceled := insert e h.canceled } := by
  have hzero : tryWait m.semaphore = 0 := by
    have := hi.semaphore
    unfold tryWait
    omega
  have hposted : ({ m with
      canceledEvents := insert e m.canceledEvents, semaphore := tryWait m.semaphore, posting := some e } :
      TimeoutEventManager).Posted := .inl (by simp)
  refine ⟨hi.toKept.cancelTimer e, hi.sorted, hzero.le.trans (Nat.zero_le 1), ?_, ?_, fun _ _ _ => hposted,
    fun _ _ _ _ _ => hposted⟩
  · rintro x hx
    cases hx
    exact ⟨hzero, .inl (Finset.mem_insert_self _ _)⟩
  · intro x hx
    obtain ⟨hd, ht, hf⟩ := hi.stopped x hx
    exact ⟨hd.imp_left fun hc => Finset.mem_insert_of_mem hc, ht, hf⟩

theorem TimerInv.post (hi : TimerInv m h) (hp : m.posting = some e) :
    TimerInv { m with semaphore := m.semaphore + 1, posting := none }
      (if m.thread = .timedOut e ∨ e ∈ m.fired then h else { h with stopped := insert e h.stopped }) := by
  obtain ⟨hzero, hdoomed⟩ := hi.posting e hp
  have hposted : ({ m with semaphore := m.semaphore + 1, posting := none } : TimeoutEventManager).Posted :=
    .inr (by simp [hzero])
  split
  · exact ⟨hi.toKept.of_perm (.refl _) rfl rfl rfl, hi.sorted, by simp [hzero], by simp, hi.stopped,
      fun _ _ _ => hposted, fun _ _ _ _ _ => hposted⟩
  · rename_i hlate
    rw [not_or] at hlate
    refine ⟨hi.toKept.of_perm (.refl _) rfl rfl rfl, hi.sorted, by simp [hzero], by simp, ?_,
      fun _ _ _ => hposted, fun _ _ _ _ _ => hposted⟩
    intro x hx
    rcases Finset.mem_insert.1 hx with rfl | hx
    · exact ⟨hdoomed, hlate.1, hlate.2⟩
    · exact hi.stopped x hx

theorem TimerInv.dequeue {es : List TimedEvent} (hi : TimerInv m h) (ht : m.thread = .idle) (hq : m.queue = e :: es) :
    TimerInv { m with queue := es, thread := .dequeued e } h := by
  have hsorted := hi.sorted
  rw [hq] at hsorted
  have hdoomed (x : TimedEvent) (hx : Doomed m h x) :
      Doomed { m with queue := es, thread := .dequeued e } h x := by
    refine hx.imp id ?_
    rintro ⟨hxe, hxq, -⟩
    rw [hq, List.mem_cons, not_or] at hxq
    refine ⟨hxe, hxq.2, ?_⟩
    simpa [TimeoutThread.event] using fun h => hxq.1 h.symm
  refine ⟨hi.toKept.of_perm (events_dequeue ht hq) rfl rfl rfl, (List.pairwise_cons.1 hsorted).2, hi.semaphore, ?_, ?_,
    ?_, ?_⟩
  · intro x hx
    obtain ⟨hs, hd⟩ := hi.posting x hx
    exact ⟨hs, hdoomed x hd⟩
  · intro x hx
    obtain ⟨hd, -, hf⟩ := hi.stopped x hx
    exact ⟨hdoomed x hd, by simp, hf⟩
  · intro x hx
    cases hx
  · -- the first timer is not later than any other
    intro e₂ he₂ e₁ he₁ hlt
    have he : e = e₂ := by simpa using he₂
    subst he
    rw [(List.pairwise_cons.1 hsorted).1 e₁ he₁] at hlt
    cases hlt

theorem TimerInv.drop (hi : TimerInv m h) (ht : m.thread = .dequeued e) (hc : e ∈ m.canceledEvents) :
    TimerInv { m with canceledEvents := m.canceledEvents.erase e, thread := .idle } h := by
  have hheld : m.thread.event = some e := by rw [ht]; rfl
  have hq : e ∉ m.queue := (hi.held_nodup hheld).1.1
  have hknown : e ∈ h.enqueued := hi.known e (mem_events.2 (.inr (.inl hheld)))
  have hdoomed (x : TimedEvent) (hx : Doomed m h x) :
      Doomed { m with canceledEvents := m.canceledEvents.erase e, thread := .idle } h x := by
    by_cases hxe : x = e
    · subst hxe
      exact .inr ⟨hknown, hq, by simp [TimeoutThread.event]⟩
    · rcases hx with hx | ⟨hx, hxq, -⟩
      · exact .inl (Finset.mem_erase.2 ⟨hxe, hx⟩)
      · exact .inr ⟨hx, hxq, by simp [TimeoutThread.event]⟩
  refine ⟨hi.toKept.drop ht hc, hi.sorted, hi.semaphore, ?_, ?_, ?_, ?_⟩
  · intro x hx
    obtain ⟨hs, hd⟩ := hi.posting x hx
    exact ⟨hs, hdoomed x hd⟩
  · intro x hx
    obtain ⟨hd, -, hxf⟩ := hi.stopped x hx
    exact ⟨hdoomed x hd, by simp, hxf⟩
  · intro x hx
    cases hx
  · rintro x (hx | hx)
    · cases hx
    · cases hx

/-- The thread goes on with the same timer. -/
theorem TimerInv.advance (hi : TimerInv m h) {t : TimeoutThread} (ht : t.event = m.thread.event) {s : Nat}
    (hs : s ≤ m.semaphore) (hout : ∀ x, t = .timedOut x → x ∉ h.stopped)
    (hwait : ∀ x, t = .waiting x → s = m.semaphore ∧ m.thread = .dequeued x ∧ x ∉ m.canceledEvents)
    (hdeq : ∀ x, t ≠ .dequeued x) : TimerInv { m with thread := t, semaphore := s } h := by
  have hevents : ({ m with thread := t, semaphore := s } : TimeoutEventManager).events = m.events := by
    simp only [events, ht]
  have hdoomed (x : TimedEvent) (hx : Doomed m h x) : Doomed { m with thread := t, semaphore := s } h x :=
    hx.imp id fun hx => ⟨hx.1, hx.2.1, by rw [ht]; exact hx.2.2⟩
  refine ⟨hi.toKept.of_perm (.of_eq hevents) rfl rfl rfl, hi.sorted, hs.trans hi.semaphore, ?_, ?_, ?_, ?_⟩
  · intro x hx
    obtain ⟨hzero, hd⟩ := hi.posting x hx
    exact ⟨by simp only; omega, hdoomed x hd⟩
  · intro x hx
    obtain ⟨hd, -, hf⟩ := hi.stopped x hx
    exact ⟨hdoomed x hd, fun h => hout x h hx, hf⟩
  · intro x hx hstop
    -- a stopped timer that the thread holds is among the cancelled ones, so it is not waited for
    obtain ⟨-, hthread, hmem⟩ := hwait x hx
    rcases (hi.stopped x hstop).1 with hd | ⟨-, -, hd⟩
    · exact absurd hd hmem
    · exact absurd (by rw [hthread]; rfl) hd
  · rintro x (hx | hx) e₁ he₁ hlt
    · exact absurd hx (hdeq x)
    · obtain ⟨heq, hthread, -⟩ := hwait x hx
      rcases hi.order x (.inl hthread) e₁ he₁ hlt with hp | hp
      · exact .inl hp
      · exact .inr (heq.trans hp)

/-- The thread puts its timer back. -/
theorem TimerInv.requeue (hi : TimerInv m h) (ht : m.thread = .woken e) :
    TimerInv { m.enqueueSorted e with thread := .idle } h := by
  have hdoomed (x : TimedEvent) (hx : Doomed m h x) : Doomed { m.enqueueSorted e with thread := .idle } h x := by
    refine hx.imp id ?_
    rintro ⟨hxe, hxq, hxt⟩
    refine ⟨hxe, ?_, by simp [TimeoutThread.event]⟩
    intro hmem
    rcases Search.mem_insertUpper.1 hmem with rfl | hmem
    · exact hxt (by rw [ht]; rfl)
    · exact hxq hmem
  refine ⟨hi.toKept.of_perm (events_requeue ht) rfl rfl rfl,
    Search.sortedBy_insertUpper timeoutEventComparator_strictWeak hi.sorted, hi.semaphore, ?_, ?_, ?_, ?_⟩
  · intro x hx
    obtain ⟨hs, hd⟩ := hi.posting x hx
    exact ⟨hs, hdoomed x hd⟩
  · intro x hx
    obtain ⟨hd, -, hf⟩ := hi.stopped x hx
    exact ⟨hdoomed x hd, by simp, hf⟩
  · intro x hx
    cases hx
  · rintro x (hx | hx)
    · cases hx
    · cases hx

/-- The `TimerFiredEvent` of a timer is dispatched. -/
theorem TimerInv.fire (hi : TimerInv m h) (ht : m.thread = .timedOut e) :
    TimerInv { m with fired := m.fired ++ [e], thread := .idle } h := by
  have hdoomed (x : TimedEvent) (hx : Doomed m h x) :
      Doomed { m with fired := m.fired ++ [e], thread := .idle } h x :=
    hx.imp id fun hx => ⟨hx.1, hx.2.1, by simp [TimeoutThread.event]⟩
  refine ⟨hi.toKept.of_perm (events_fire ht) rfl rfl rfl, hi.sorted, hi.semaphore, ?_, ?_, ?_, ?_⟩
  · intro x hx
    obtain ⟨hs, hd⟩ := hi.posting x hx
    exact ⟨hs, hdoomed x hd⟩
  · intro x hx
    obtain ⟨hd, hne, hf⟩ := hi.stopped x hx
    refine ⟨hdoomed x hd, by simp, ?_⟩
    intro hmem
    rcases List.mem_append.1 hmem with hmem | hmem
    · exact hf hmem
    · cases List.mem_singleton.1 hmem
      exact hne ht
  · intro x hx
    cases hx
  · rintro x (hx | hx)
    · cases hx
    · cases hx

end

/-- A step keeps the invariant. -/
theorem TimerInv.step {s t : TimeoutEventManager × History} {a : Action} (hi : TimerInv s.1 s.2)
    (he : historyMachine.enabled a s) (hc : timerCondition s a) (hs : historyMachine.step a s = .ok t) :
    TimerInv t.1 t.2 := by
  obtain ⟨m, h⟩ := s
  obtain ⟨m', h'⟩ := t
  obtain ⟨hstep, hh⟩ := Transition.Machine.observed_step.1 hs
  clear hs
  simp only at hh hi
  subst hh
  obtain ⟨honce, hhalf⟩ := hc
  replace he : enabled a m := he
  have hs : TimeoutEventManager.step a m = .ok m' := hstep
  clear hstep
  cases a with
  | enqueue e =>
    have hone : binaryPost m.semaphore ≤ 1 := by
      have := hi.semaphore
      unfold binaryPost tryWait
      omega
    simp only [TimeoutEventManager.step, check, hone, decide_true, if_true, bind, Except.bind] at hs
    cases hs
    exact hi.enqueue (honce e rfl) he
  | cancelTimer e =>
    cases hs
    exact hi.cancelTimer e
  | post =>
    cases hs
    obtain ⟨e, hp⟩ := Option.ne_none_iff_exists'.1 he
    have hpost := hi.post hp
    simp only [observe, hp]
    exact hpost
  | dequeue =>
    obtain ⟨ht, hq⟩ := he
    obtain ⟨e, es, hq⟩ := List.exists_cons_of_ne_nil hq
    simp only [TimeoutEventManager.step, hq, Except.ok.injEq] at hs
    subst hs
    exact hi.dequeue ht hq
  | checkCanceled =>
    obtain ⟨e, -, ht⟩ := he
    simp only [TimeoutEventManager.step, ht] at hs
    split at hs
    · rename_i hmem
      cases hs
      exact hi.drop ht hmem
    · rename_i hmem
      cases hs
      refine hi.advance (t := .waiting e) (s := m.semaphore) (by rw [ht]; rfl) le_rfl (by simp) ?_ (by simp)
      intro x hx
      cases hx
      exact ⟨rfl, ht, hmem⟩
  | wake =>
    obtain ⟨⟨e, -, ht⟩, hpos⟩ := he
    simp only [TimeoutEventManager.step, ht, Except.ok.injEq] at hs
    subst hs
    exact hi.advance (t := .woken e) (by rw [ht]; rfl) (Nat.sub_le _ _) (by simp) (by simp) (by simp)
  | timeOut =>
    obtain ⟨⟨e, -, ht, -⟩, hzero⟩ := he
    simp only [TimeoutEventManager.step, ht, Except.ok.injEq] at hs
    subst hs
    refine hi.advance (t := .timedOut e) (s := m.semaphore) (by rw [ht]; rfl) le_rfl ?_ (by simp) (by simp)
    intro x hx hstop
    cases hx
    exact not_posted (hhalf rfl) hzero (hi.woken e ht hstop)
  | fire =>
    obtain ⟨e, -, ht⟩ := he
    simp only [TimeoutEventManager.step, ht, Except.ok.injEq] at hs
    subst hs
    exact hi.fire ht
  | requeue =>
    obtain ⟨e, -, ht⟩ := he
    simp only [TimeoutEventManager.step, ht, Except.ok.injEq] at hs
    subst hs
    exact hi.requeue ht
  | tick now =>
    cases hs
    exact ⟨hi.toKept.of_perm (.refl _) rfl rfl rfl, hi.sorted, hi.semaphore, hi.posting, hi.stopped, hi.woken,
      hi.order⟩

theorem TimerInv.init : TimerInv {} {} where
  toKept := .init
  sorted := List.Pairwise.nil
  semaphore := Nat.zero_le 1
  posting := by simp
  stopped := by simp
  woken := by simp
  order := by simp

/-- The invariant holds in every run in which no wait reports a timeout between the halves of a post. -/
theorem TimerInv.run {is : List Action} {s : TimeoutEventManager × History}
    (hr : historyMachine.Run timerCondition ({}, {}) is s) : TimerInv s.1 s.2 :=
  hr.invariant (fun s => TimerInv s.1 s.2) .init fun _ _ _ hi he hc hs => hi.step he hc hs

/-- Nothing is forgotten about cancellations. -/
theorem stopped_run {P : TimeoutEventManager × History → Action → Prop} {is : List Action}
    {s t : TimeoutEventManager × History} (hr : historyMachine.Run P s is t) : s.2.stopped ⊆ t.2.stopped := by
  refine hr.invariant (fun t => s.2.stopped ⊆ t.2.stopped) (Finset.Subset.refl _) ?_
  intro t a u ih _ _ hs
  refine ih.trans ?_
  rw [(Transition.Machine.observed_step.1 hs).2]
  cases a with
  | post =>
    simp only [observe]
    split
    · split
      · exact Finset.Subset.refl _
      · exact Finset.subset_insert _ _
    · exact Finset.Subset.refl _
  | enqueue | cancelTimer | dequeue | checkCanceled | wake | timeOut | fire | requeue | tick =>
    exact Finset.Subset.refl _

/-- A wait reports its timeout only after every earlier timer has fired. -/
theorem TimerInv.fired_of_timeOut {s : TimeoutEventManager × History} {e₁ e₂ : TimedEvent} (hi : TimerInv s.1 s.2)
    (ht : s.1.thread = .waiting e₂) (he : historyMachine.enabled .timeOut s) (hc : timerCondition s .timeOut)
    (hlt : timeoutEventComparator e₁ e₂ = true) (henq : e₁ ∈ s.2.enqueued) (hcan : e₁ ∉ s.2.canceled) :
    e₁ ∈ s.1.fired := by
  have hwait : ¬s.1.Posted := not_posted (hc.2 rfl) (show _ ∧ _ from he).2
  rcases mem_events.1 (hi.kept e₁ henq hcan) with hq | hheld | hf
  · exact absurd (hi.order e₂ (.inr ht) e₁ hq hlt) hwait
  · rw [ht] at hheld
    cases hheld
    rw [timeoutEventComparator_strictWeak.irrefl] at hlt
    cases hlt
  · exact hf

/-- Each timer fires at most once and none is lost.  As long as no wait reports a timeout between the halves of a post,
a timer whose cancellation was handled before that report never fires, and a wait reports its timeout only after every
earlier timer, unless cancelled, has fired. -/
theorem timers_safe {is : List Action} {s : TimeoutEventManager × History}
    (hr : historyMachine.Run enqueuedOnce ({}, {}) is s) :
    s.1.fired.Nodup ∧
    (∀ e ∈ s.2.enqueued, e ∉ s.2.canceled → e ∈ s.1.queue ∨ s.1.thread.event = some e ∨ e ∈ s.1.fired) ∧
    (historyMachine.Run timerCondition ({}, {}) is s →
      (∀ e ∈ s.2.stopped, ∀ js t, historyMachine.Run timerCondition s js t → e ∉ t.1.fired) ∧
      (∀ e₁ e₂, s.1.thread = .waiting e₂ → historyMachine.enabled .timeOut s → timerCondition s .timeOut →
        timeoutEventComparator e₁ e₂ = true → e₁ ∈ s.2.enqueued → e₁ ∉ s.2.canceled → e₁ ∈ s.1.fired)) := by
  have hk := Kept.run hr
  refine ⟨?_, fun e he hc => mem_events.1 (hk.kept e he hc), ?_⟩
  · have hnodup := hk.nodup
    unfold events at hnodup
    exact (List.nodup_append.1 (List.nodup_append.1 hnodup).2.1).2.1
  · intro hrun
    refine ⟨?_, fun e₁ e₂ ht he hc hlt henq hcan => (TimerInv.run hrun).fired_of_timeOut ht he hc hlt henq hcan⟩
    intro e he js t hrest
    have hi := TimerInv.run (hrun.trans hrest)
    exact (hi.stopped e (stopped_run hrest he)).2.2

section

/-- Timers of two sockets, one second apart. -/
private def early : TimedEvent := ⟨⟨1, 1⟩, ⟨1, 0⟩⟩

private def late : TimedEvent := ⟨⟨2, 2⟩, ⟨2, 0⟩⟩

/-- The wait on the timer in the queue is woken once. -/
private def waitAgain : List Action := [.dequeue, .checkCanceled, .wake, .requeue, .dequeue, .checkCanceled]

/-- The wait on the late timer, to be woken by the early one, which fires first. -/
private def earlyFirst : List Action :=
  Action.enqueue late :: waitAgain ++
    [Action.enqueue early, .wake, .requeue, .dequeue, .checkCanceled, .tick ⟨2, 0⟩, .timeOut, .fire, .dequeue, .checkCanceled]

theorem timers_safe_two : ∃ s, historyMachine.Run timerCondition ({}, {}) earlyFirst s ∧
    s.1.thread = .waiting late ∧ early ∈ s.1.fired := by
  have h : (historyMachine.replay timerCondition earlyFirst ({}, {})).any (fun s =>
        decide (s.1.thread = .waiting late) && decide (historyMachine.enabled .timeOut s) &&
        decide (timerCondition s .timeOut) && decide (early ∈ s.2.enqueued) && decide (early ∉ s.2.canceled)) = true := by
    decide +kernel
  obtain ⟨s, hrun, hq⟩ := Transition.Machine.exists_run h
  simp only [Bool.and_eq_true, decide_eq_true_eq] at hq
  obtain ⟨⟨⟨⟨ht, he⟩, hc⟩, henq⟩, hcan⟩ := hq
  have honce := hrun.mono (Q := enqueuedOnce) fun _ _ h => h.1
  exact ⟨s, hrun, ht, ((timers_safe honce).2.2 hrun).2 early late ht he hc rfl henq hcan⟩

/-- The time of the late timer has come. -/
private def lateIsDue : List Action := Action.enqueue late :: waitAgain ++ [Action.tick ⟨2, 0⟩]

/-- A run, and one that goes on from its last state. -/
private theorem exists_runs {is js : List Action} {q : TimeoutEventManager × History → Bool}
    {r : TimeoutEventManager × History → TimeoutEventManager × History → Bool}
    (h : (historyMachine.replay enqueuedOnce is ({}, {})).any (fun s =>
      q s && (historyMachine.replay enqueuedOnce js s).any (r s)) = true) :
    ∃ s t, historyMachine.Run enqueuedOnce ({}, {}) is s ∧ q s = true ∧
      historyMachine.Run enqueuedOnce s js t ∧ r s t = true := by
  obtain ⟨s, hrun, hq⟩ := Transition.Machine.exists_run h
  rw [Bool.and_eq_true] at hq
  obtain ⟨t, hrest, hr⟩ := Transition.Machine.exists_run hq.2
  exact ⟨s, t, hrun, hq.1, hrest, hr⟩

/-- A cancellation that is handled between the report of a wait and the `TimerFiredEvent` is too late, and so is an
earlier timer.  When a wait reports its timeout between the halves of a post, a timer fires that has long been
cancelled. -/
theorem timers_late :
    (∃ s t, historyMachine.Run enqueuedOnce ({}, {}) (lateIsDue ++ [Action.timeOut, .cancelTimer late, .post]) s ∧
      (late ∈ s.2.canceled ∧ s.1.posting = none ∧ late ∉ s.1.fired) ∧
      historyMachine.Run enqueuedOnce s [.fire] t ∧ late ∈ t.1.fired) ∧
    (∃ s t, historyMachine.Run enqueuedOnce ({}, {}) (lateIsDue ++ [Action.timeOut, .enqueue early]) s ∧
      (early ∈ s.1.events ∧ late ∈ s.1.events ∧ timeoutEventComparator early late = true) ∧
      historyMachine.Run enqueuedOnce s [.fire] t ∧ late ∈ t.1.fired ∧ early ∉ t.1.fired ∧ t.2.canceled = ∅) ∧
    (∃ s t, historyMachine.Run enqueuedOnce ({}, {}) (lateIsDue ++ [Action.cancelTimer late, .post]) s ∧
      (late ∈ s.2.stopped ∧ s.1.thread = .waiting late) ∧
      historyMachine.Run enqueuedOnce s [.cancelTimer early, .timeOut, .post, .fire] t ∧ late ∈ t.1.fired) := by
  refine ⟨?_, ?_, ?_⟩
  · have h : (historyMachine.replay enqueuedOnce (lateIsDue ++ [Action.timeOut, .cancelTimer late, .post]) ({}, {})).any
        (fun s => decide (late ∈ s.2.canceled ∧ s.1.posting = none ∧ late ∉ s.1.fired) &&
          (historyMachine.replay enqueuedOnce [.fire] s).any fun t => decide (late ∈ t.1.fired)) = true := by
      decide +kernel
    simpa only [decide_eq_true_eq] using exists_runs h
  · have h : (historyMachine.replay enqueuedOnce (lateIsDue ++ [Action.timeOut, .enqueue early]) ({}, {})).any
        (fun s => decide (early ∈ s.1.events ∧ late ∈ s.1.events ∧ timeoutEventComparator early late = true) &&
          (historyMachine.replay enqueuedOnce [.fire] s).any
            fun t => decide (late ∈ t.1.fired ∧ early ∉ t.1.fired ∧ t.2.canceled = ∅)) = true := by
      decide +kernel
    simpa only [decide_eq_true_eq] using exists_runs h
  · have h : (historyMachine.replay enqueuedOnce (lateIsDue ++ [Action.cancelTimer late, .post]) ({}, {})).any
        (fun s => decide (late ∈ s.2.stopped ∧ s.1.thread = .waiting late) &&
          (historyMachine.replay enqueuedOnce [.cancelTimer early, .timeOut, .post, .fire] s).any
            fun t => decide (late ∈ t.1.fired)) = true := by
      decide +kernel
    simpa only [decide_eq_true_eq] using exists_runs h

end

end TimeoutEventManager

end Wifu
