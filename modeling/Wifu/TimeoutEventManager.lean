import Wifu.Event
import Wifu.Lib.Transition
import Wifu.Lib.SortedInsert

/-!
# The timer manager (`TimeoutEventManager.cc`, `PriorityQueue.h`, `BinarySemaphore.cc`)

The dispatcher's thread puts timers in a queue sorted by their time and cancels them; the manager's own thread takes
the first one out and waits for its time on a binary semaphore.  Every post wakes the wait, and the timer goes back to
the queue.  A cancelled timer is dropped when it is taken out.

Each step of the machine is one operation of one of the two threads.  Putting a timer in and raising the signal is one
step; the two halves of `BinarySemaphore::post` of a cancellation are two.
-/

namespace Wifu

/-- A `timespec`. -/
structure Timespec where
  tvSec : Int
  tvNsec : Int
  deriving DecidableEq, Repr

/-- The comparison of `TimeoutEventComparator`. -/
def Timespec.lessThan (a b : Timespec) : Bool :=
  decide (a.tvSec < b.tvSec) || (decide (a.tvSec = b.tvSec) && decide (a.tvNsec < b.tvNsec))

theorem Timespec.lessThan_iff {a b : Timespec} :
    a.lessThan b = true ↔ a.tvSec < b.tvSec ∨ a.tvSec = b.tvSec ∧ a.tvNsec < b.tvNsec := by
  simp [lessThan]

/-- A `TimeoutEvent` with its timeout time. -/
structure TimedEvent extends TimeoutEvent where
  time : Timespec
  deriving DecidableEq, Repr

/-- `TimeoutEventComparator`. -/
def timeoutEventComparator (t₁ t₂ : TimedEvent) : Bool := t₁.time.lessThan t₂.time

theorem timeoutEventComparator_strictWeak : Search.StrictWeak timeoutEventComparator where
  asymm a b h := by
    unfold timeoutEventComparator at h ⊢
    rw [← Bool.not_eq_true, Timespec.lessThan_iff]
    rw [Timespec.lessThan_iff] at h
    omega
  cotrans a b c h := by
    unfold timeoutEventComparator at h ⊢
    rw [Timespec.lessThan_iff] at h
    rw [Timespec.lessThan_iff, Timespec.lessThan_iff]
    omega

/-- What the manager's thread is doing. -/
inductive TimeoutThread
  /-- In `dequeue`. -/
  | idle
  /-- At the start of `imodule_timeout`. -/
  | dequeued (e : TimedEvent)
  /-- In `timed_wait`. -/
  | waiting (e : TimedEvent)
  /-- The wait was posted on. -/
  | woken (e : TimedEvent)
  /-- The wait has reported the timeout; the `TimerFiredEvent` has not been dispatched. -/
  | timedOut (e : TimedEvent)
  deriving DecidableEq, Repr

/-- The timer that the manager's thread has taken out of the queue. -/
def TimeoutThread.event : TimeoutThread → Option TimedEvent
  | .idle => none
  | .dequeued e | .waiting e | .woken e | .timedOut e => some e

structure TimeoutEventManager where
  queue : List TimedEvent := []
  canceledEvents : Finset TimedEvent := ∅
  /-- The value of `TimeoutManagerSemaphore`. -/
  semaphore : Nat := 0
  thread : TimeoutThread := .idle
  /-- The cancellation that the dispatcher's thread is handling, between the halves of its post. -/
  posting : Option TimedEvent := none
  now : Timespec := ⟨0, 0⟩
  /-- The timers for which a `TimerFiredEvent` has been dispatched. -/
  fired : List TimedEvent := []
  deriving DecidableEq

namespace TimeoutEventManager

/-- `Semaphore::try_wait`. -/
def tryWait (semaphore : Nat) : Nat := semaphore - 1

/-- `BinarySemaphore::post`. -/
def binaryPost (semaphore : Nat) : Nat := tryWait semaphore + 1

/-- `PriorityQueue::enqueue`. -/
def enqueueSorted (m : TimeoutEventManager) (e : TimedEvent) : TimeoutEventManager :=
  { m with queue := Search.insertUpper timeoutEventComparator e m.queue }

/-- An operation of one of the two threads, or the passing of time. -/
inductive Action
  /-- `enqueue` of a `TimeoutEvent`; the signal it raises is handled in the same step. -/
  | enqueue (e : TimedEvent)
  /-- `imodule_cancel_timer` up to `try_wait` in its post. -/
  | cancelTimer (e : TimedEvent)
  /-- The other half of that post. -/
  | post
  | dequeue
  /-- `imodule_timeout` looks for its event among the cancelled ones. -/
  | checkCanceled
  /-- `timed_wait` returns because the semaphore was posted on. -/
  | wake
  /-- `timed_wait` reports the timeout. -/
  | timeOut
  /-- The `TimerFiredEvent` is dispatched. -/
  | fire
  /-- The event goes back to the queue, without a signal. -/
  | requeue
  | tick (now : Timespec)
  deriving DecidableEq

/-- The step of an action; `signal_manager` has an assertion. -/
def step : Action → TimeoutEventManager → Except Abort TimeoutEventManager
  | .enqueue e, m => do
    let m := { m.enqueueSorted e with semaphore := binaryPost m.semaphore }
    check (m.semaphore ≤ 1) .semaphoreValue
    .ok m
  | .cancelTimer e, m => .ok { m with
      canceledEvents := insert e m.canceledEvents, semaphore := tryWait m.semaphore, posting := some e }
  | .post, m => .ok { m with semaphore := m.semaphore + 1, posting := none }
  | .dequeue, m =>
    match m.queue with
    | [] => .ok m
    | e :: es => .ok { m with queue := es, thread := .dequeued e }
  | .checkCanceled, m =>
    match m.thread with
    | .dequeued e =>
      if e ∈ m.canceledEvents then .ok { m with canceledEvents := m.canceledEvents.erase e, thread := .idle }
      else .ok { m with thread := .waiting e }
    | _ => .ok m
  | .wake, m =>
    match m.thread with
    | .waiting e => .ok { m with semaphore := m.semaphore - 1, thread := .woken e }
    | _ => .ok m
  | .timeOut, m =>
    match m.thread with
    | .waiting e => .ok { m with thread := .timedOut e }
    | _ => .ok m
  | .fire, m =>
    match m.thread with
    | .timedOut e => .ok { m with fired := m.fired ++ [e], thread := .idle }
    | _ => .ok m
  | .requeue, m =>
    match m.thread with
    | .woken e => .ok { m.enqueueSorted e with thread := .idle }
    | _ => .ok m
  | .tick now, m => .ok { m with now := now }

/-- A timed wait returns when the semaphore is positive, and reports a timeout only while it is 0 and not before the
time; the dispatcher's thread finishes a post before it does anything else. -/
def enabled : Action → TimeoutEventManager → Prop
  | .enqueue _, m | .cancelTimer _, m => m.posting = none
  | .post, m => m.posting ≠ none
  | .dequeue, m => m.thread = .idle ∧ m.queue ≠ []
  | .checkCanceled, m => ∃ e ∈ m.thread.event, m.thread = .dequeued e
  | .wake, m => (∃ e ∈ m.thread.event, m.thread = .waiting e) ∧ 0 < m.semaphore
  | .timeOut, m => (∃ e ∈ m.thread.event, m.thread = .waiting e ∧ m.now.lessThan e.time = false) ∧ m.semaphore = 0
  | .fire, m => ∃ e ∈ m.thread.event, m.thread = .timedOut e
  | .requeue, m => ∃ e ∈ m.thread.event, m.thread = .woken e
  | .tick _, _ => True

instance : (a : Action) → (m : TimeoutEventManager) → Decidable (enabled a m)
  | .enqueue _, m | .cancelTimer _, m => inferInstanceAs (Decidable (m.posting = none))
  | .post, m => inferInstanceAs (Decidable (m.posting ≠ none))
  | .dequeue, m => inferInstanceAs (Decidable (m.thread = .idle ∧ m.queue ≠ []))
  | .checkCanceled, m => inferInstanceAs (Decidable (∃ e ∈ m.thread.event, m.thread = .dequeued e))
  | .wake, m => inferInstanceAs (Decidable ((∃ e ∈ m.thread.event, m.thread = .waiting e) ∧ 0 < m.semaphore))
  | .timeOut, m =>
    inferInstanceAs (Decidable
      ((∃ e ∈ m.thread.event, m.thread = .waiting e ∧ m.now.lessThan e.time = false) ∧ m.semaphore = 0))
  | .fire, m => inferInstanceAs (Decidable (∃ e ∈ m.thread.event, m.thread = .timedOut e))
  | .requeue, m => inferInstanceAs (Decidable (∃ e ∈ m.thread.event, m.thread = .woken e))
  | .tick _, _ => .isTrue trivial

/-- The two threads at work. -/
def machine : Transition.Machine TimeoutEventManager Action Abort := ⟨enabled, step⟩

instance (a : Action) (m : TimeoutEventManager) : Decidable (machine.enabled a m) :=
  inferInstanceAs (Decidable (enabled a m))

/-! ### What has happened so far -/

/-- What a run has done with the timers. -/
structure History where
  enqueued : List TimedEvent := []
  /-- The timers whose cancellation has begun. -/
  canceled : Finset TimedEvent := ∅
  /-- The timers whose cancellation was handled before a wait on them had timed out. -/
  stopped : Finset TimedEvent := ∅
  deriving DecidableEq

/-- The history after a step. -/
def observe (m : TimeoutEventManager) (a : Action) (_ : TimeoutEventManager) (h : History) : History :=
  match a with
  | .enqueue e => { h with enqueued := e :: h.enqueued }
  | .cancelTimer e => { h with canceled := insert e h.canceled }
  | .post =>
    match m.posting with
    | some e => if m.thread = .timedOut e ∨ e ∈ m.fired then h else { h with stopped := insert e h.stopped }
    | none => h
  | _ => h

/-- The two threads, with the history of the timers. -/
def historyMachine : Transition.Machine (TimeoutEventManager × History) Action Abort := machine.observed observe

instance (a : Action) (s : TimeoutEventManager × History) : Decidable (historyMachine.enabled a s) :=
  inferInstanceAs (Decidable (enabled a s.1))

/-- A `TimeoutEvent` is enqueued once, as the protocols make a new one for each timer. -/
def enqueuedOnce (s : TimeoutEventManager × History) (a : Action) : Prop :=
  ∀ e, a = .enqueue e → e ∉ s.2.enqueued

instance (s : TimeoutEventManager × History) : (a : Action) → Decidable (enqueuedOnce s a)
  | .enqueue e => decidable_of_iff (e ∉ s.2.enqueued) (by simp [enqueuedOnce])
  | .cancelTimer _ | .post | .dequeue | .checkCanceled | .wake | .timeOut | .fire | .requeue | .tick _ =>
    .isTrue (by simp [enqueuedOnce])

/-- No wait reports a timeout between the halves of a post. -/
def timerCondition (s : TimeoutEventManager × History) (a : Action) : Prop :=
  enqueuedOnce s a ∧ (a = .timeOut → s.1.posting = none)

instance (s : TimeoutEventManager × History) (a : Action) : Decidable (timerCondition s a) :=
  inferInstanceAs (Decidable (_ ∧ _))

end TimeoutEventManager

end Wifu
