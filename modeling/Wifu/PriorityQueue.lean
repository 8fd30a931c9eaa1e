import Wifu.TimeoutEventManager

/-!
# Priority queues (`PriorityQueue.h`, `PriorityEventComparator.cc`, `TimeoutEventComparator.cc`)

A list kept sorted by a comparator, with a semaphore that counts its elements: `enqueue` puts an element behind those
that do not come after it and posts on the semaphore, `dequeue` waits on the semaphore and takes the first element.

A run carries the elements that entered and those that left.  `InOrder` relates them to the list: nothing is lost or
returned twice, and the elements of one priority leave in the order in which they entered.
-/

namespace Wifu

/-- A `PriorityQueue` between two of its operations. -/
structure PriorityQueue (α : Type) where
  q : List α := []
  /-- The value of the semaphore `counter_`. -/
  counter : Nat := 0
  deriving DecidableEq, Repr

/-- `front` of an empty list. -/
inductive QueueFailure
  | emptyFront
  deriving DecidableEq, Repr

/-- An operation on a queue. -/
inductive QueueOperation (α : Type)
  | enqueue (obj : α)
  | dequeue
  deriving DecidableEq, Repr

namespace PriorityQueue

variable {α : Type}

/-- `enqueue`. -/
def enqueue (comparator : α → α → Bool) (p : PriorityQueue α) (obj : α) : PriorityQueue α :=
  { q := Search.insertUpper comparator obj p.q, counter := p.counter + 1 }

/-- `dequeue`, once it has not to wait: the element and the queue without it. -/
def dequeue (p : PriorityQueue α) : Except QueueFailure (α × PriorityQueue α) :=
  match p.q with
  | [] => .error .emptyFront
  | value :: q => .ok (value, { q, counter := p.counter - 1 })

/-- The queue as a machine; a `dequeue` waits while the semaphore is zero. -/
def machine (comparator : α → α → Bool) : Transition.Machine (PriorityQueue α) (QueueOperation α) QueueFailure where
  enabled op p :=
    match op with
    | .enqueue _ => True
    | .dequeue => 0 < p.counter
  step op p :=
    match op with
    | .enqueue obj => .ok (p.enqueue comparator obj)
    | .dequeue => p.dequeue.map Prod.snd

instance (comparator : α → α → Bool) (op : QueueOperation α) (p : PriorityQueue α) :
    Decidable ((machine comparator).enabled op p) :=
  match op with
  | .enqueue _ => .isTrue trivial
  | .dequeue => inferInstanceAs (Decidable (0 < p.counter))

/-- The elements that were enqueued, and those that `dequeue` returned, in their order. -/
structure Traffic (α : Type) where
  entered : List α := []
  left : List α := []
  deriving DecidableEq, Repr

/-- What an operation adds. -/
def traffic (p : PriorityQueue α) (op : QueueOperation α) (_ : PriorityQueue α) (g : Traffic α) : Traffic α :=
  match op with
  | .enqueue obj => { g with entered := g.entered ++ [obj] }
  | .dequeue =>
    match p.dequeue with
    | .ok (value, _) => { g with left := g.left ++ [value] }
    | .error _ => g

/-- The queue with its traffic. -/
def observed (comparator : α → α → Bool) : Transition.Machine (PriorityQueue α × Traffic α) (QueueOperation α) QueueFailure :=
  (machine comparator).observed traffic

instance (comparator : α → α → Bool) (op : QueueOperation α) (s : PriorityQueue α × Traffic α) :
    Decidable ((observed comparator).enabled op s) :=
  inferInstanceAs (Decidable ((machine comparator).enabled op s.1))

/-! ### The invariant -/

open Search Transition

variable {comparator : α → α → Bool} {p p₁ : PriorityQueue α} {s t : PriorityQueue α × Traffic α} {value : α}

/-- The list and the semaphore. -/
structure WellFormed (comparator : α → α → Bool) (p : PriorityQueue α) : Prop where
  counter : p.counter = p.q.length
  sorted : SortedBy comparator p.q

/-- The list against the elements that were there at first, entered and left. -/
structure InOrder (comparator : α → α → Bool) (start : List α) (s : PriorityQueue α × Traffic α) : Prop where
  wellFormed : WellFormed comparator s.1
  conserved : (s.2.left ++ s.1.q).Perm (start ++ s.2.entered)
  fifo : ∀ a, s.2.left.filter (equivalent comparator a) ++ s.1.q.filter (equivalent comparator a) =
    (start ++ s.2.entered).filter (equivalent comparator a)

theorem WellFormed.empty (comparator : α → α → Bool) : WellFormed comparator ({} : PriorityQueue α) where
  counter := rfl
  sorted := .nil

theorem InOrder.start (h : WellFormed comparator p) : InOrder comparator p.q (p, {}) where
  wellFormed := h
  conserved := by simp
  fifo a := by simp

/-- A `dequeue` takes the first element and its count away. -/
theorem dequeue_eq_ok : p.dequeue = .ok (value, p₁) ↔ p.q = value :: p₁.q ∧ p₁.counter = p.counter - 1 := by
  obtain ⟨q, counter⟩ := p
  obtain ⟨q₁, counter₁⟩ := p₁
  cases q with
  | nil => simp [dequeue]
  | cons a q =>
    simp only [dequeue, Except.ok.injEq, Prod.mk.injEq, mk.injEq, List.cons.injEq]
    constructor
    · rintro ⟨rfl, rfl, rfl⟩
      exact ⟨⟨rfl, rfl⟩, rfl⟩
    · rintro ⟨⟨rfl, rfl⟩, rfl⟩
      exact ⟨rfl, rfl, rfl⟩

/-- A `dequeue` that does not wait finds an element, and no element comes before it. -/
theorem WellFormed.dequeue (hlt : StrictWeak comparator) (h : WellFormed comparator p) (hpos : 0 < p.counter) :
    ∃ value p₁, p.dequeue = .ok (value, p₁) ∧ ∀ b ∈ p.q, comparator b value = false := by
  obtain ⟨hcounter, hsorted⟩ := h
  cases hq : p.q with
  | nil =>
    rw [hcounter, hq] at hpos
    exact absurd hpos (Nat.lt_irrefl 0)
  | cons value q =>
    refine ⟨value, { q, counter := p.counter - 1 }, dequeue_eq_ok.2 ⟨hq, rfl⟩, ?_⟩
    rw [hq] at hsorted
    exact List.forall_mem_cons.2 ⟨hlt.irrefl value, (List.pairwise_cons.1 hsorted).1⟩

/-- What an operation can do. -/
theorem step_cases {op : QueueOperation α} (h : (observed comparator).step op s = .ok t) :
    (∃ obj, op = .enqueue obj ∧ t = (s.1.enqueue comparator obj, { s.2 with entered := s.2.entered ++ [obj] })) ∨
    (∃ value, op = .dequeue ∧ s.1.dequeue = .ok (value, t.1) ∧ t.2 = { s.2 with left := s.2.left ++ [value] }) := by
  obtain ⟨t, g⟩ := t
  obtain ⟨hstep, htraffic⟩ := Machine.observed_step.1 h
  cases op with
  | enqueue obj => exact .inl ⟨obj, rfl, Prod.ext (Except.ok.inj hstep).symm htraffic⟩
  | dequeue =>
    simp only [machine] at hstep
    cases hd : s.1.dequeue with
    | error e =>
      rw [hd] at hstep
      cases hstep
    | ok r =>
      rw [hd] at hstep
      cases hstep
      refine .inr ⟨r.1, rfl, rfl, ?_⟩
      rw [htraffic]
      simp only [traffic, hd]

theorem InOrder.enqueue {start : List α} (hlt : StrictWeak comparator) (h : InOrder comparator start s) (obj : α) :
    InOrder comparator start (s.1.enqueue comparator obj, { s.2 with entered := s.2.entered ++ [obj] }) where
  wellFormed :=
    { counter := by
        have := (insertUpper_perm comparator obj s.1.q).length_eq
        simp [PriorityQueue.enqueue, h.wellFormed.counter, this]
      sorted := sortedBy_insertUpper hlt h.wellFormed.sorted }
  conserved := by
    show (s.2.left ++ insertUpper comparator obj s.1.q).Perm (start ++ (s.2.entered ++ [obj]))
    rw [← List.append_assoc]
    have hbehind : (insertUpper comparator obj s.1.q).Perm (s.1.q ++ [obj]) :=
      (insertUpper_perm comparator obj s.1.q).trans (List.perm_append_singleton obj s.1.q).symm
    have hleft := hbehind.append_left s.2.left
    rw [← List.append_assoc] at hleft
    exact hleft.trans (h.conserved.append_right [obj])
  fifo a := by
    show s.2.left.filter _ ++ (insertUpper comparator obj s.1.q).filter _ = (start ++ (s.2.entered ++ [obj])).filter _
    rw [filter_insertUpper hlt obj a h.wellFormed.sorted, ← List.append_assoc, h.fifo a, ← List.append_assoc,
      ← List.filter_append]

theorem InOrder.dequeue {start : List α} (h : InOrder comparator start s) (hd : s.1.dequeue = .ok (value, p₁)) :
    InOrder comparator start (p₁, { s.2 with left := s.2.left ++ [value] }) := by
  obtain ⟨hq, hcounter⟩ := dequeue_eq_ok.1 hd
  obtain ⟨⟨hlength, hsorted⟩, hconserved, hfifo⟩ := h
  refine ⟨⟨?_, ?_⟩, ?_, fun a => ?_⟩
  · rw [hcounter, hlength, hq]
    rfl
  · rw [hq] at hsorted
    exact (List.pairwise_cons.1 hsorted).2
  · rw [hq] at hconserved
    simpa using hconserved
  · have hfifo := hfifo a
    rw [hq, ← List.singleton_append, List.filter_append, ← List.append_assoc, ← List.filter_append] at hfifo
    exact hfifo

theorem InOrder.step {start : List α} {op : QueueOperation α} (hlt : StrictWeak comparator)
    (h : InOrder comparator start s) (hs : (observed comparator).step op s = .ok t) : InOrder comparator start t := by
  obtain ⟨obj, -, rfl⟩ | ⟨value, -, hd, htraffic⟩ := step_cases hs
  · exact h.enqueue hlt obj
  · have := h.dequeue hd
    rwa [← htraffic] at this

/-- Along every sequence of operations on a well formed queue. -/
theorem inOrder_of_run (hlt : StrictWeak comparator) (hp : WellFormed comparator p) {ops : List (QueueOperation α)}
    (hrun : (observed comparator).Run anyStep (p, {}) ops s) : InOrder comparator p.q s :=
  hrun.invariant (InOrder comparator p.q) (.start hp) fun _ _ _ h _ _ => h.step hlt

end PriorityQueue

/-! ### Events of high and of low priority -/

/-- `Priority` of `defines.h`. -/
inductive Priority
  | high
  | medium
  | low
  deriving DecidableEq, Repr

def Priority.toNat : Priority → Nat
  | high => 0
  | medium => 1000
  | low => 2000

/-- An `Event`, known by its pointer, with its priority. -/
structure QueuedEvent where
  pointer : Nat
  priority : Priority
  deriving DecidableEq, Repr

/-- The constructor of a `ProtocolEvent`. -/
def QueuedEvent.protocolEvent (pointer : Nat) : QueuedEvent := { pointer, priority := .high }

/-- The constructor of a `FrameworkEvent`. -/
def QueuedEvent.frameworkEvent (pointer : Nat) : QueuedEvent := { pointer, priority := .low }

/-- `PriorityEventComparator`. -/
def priorityEventComparator (t₁ t₂ : QueuedEvent) : Bool := decide (t₁.priority.toNat < t₂.priority.toNat)

theorem priorityEventComparator_strictWeak : Search.StrictWeak priorityEventComparator where
  asymm a b h := by
    simp only [priorityEventComparator, decide_eq_true_eq, decide_eq_false_iff_not] at h ⊢
    omega
  cotrans a b c h := by
    simp only [priorityEventComparator, decide_eq_true_eq] at h ⊢
    omega

namespace PriorityQueue

open Search Transition

variable {p p₁ p₂ : PriorityQueue QueuedEvent} {a b : QueuedEvent}

def isHigh (e : QueuedEvent) : Bool := decide (e.priority = .high)

theorem equivalent_high : equivalent priorityEventComparator { pointer := 0, priority := .high } = isHigh := by
  funext e
  cases he : e.priority <;> simp [equivalent, priorityEventComparator, isHigh, he, Priority.toNat]

/-- When an event of low priority is first, none of high priority waits. -/
theorem WellFormed.no_high (h : WellFormed priorityEventComparator p) (hd : p.dequeue = .ok (a, p₁))
    (ha : a.priority = .low) : p.q.filter isHigh = [] := by
  obtain ⟨hq, -⟩ := dequeue_eq_ok.1 hd
  have hsorted := h.sorted
  rw [hq] at hsorted
  refine List.filter_eq_nil_iff.2 fun b hb hhigh => ?_
  have hhigh : b.priority = .high := by simpa [isHigh] using hhigh
  rw [hq] at hb
  rcases List.mem_cons.1 hb with rfl | hb
  · rw [hhigh] at ha
    cases ha
  · have hfirst := (List.pairwise_cons.1 hsorted).1 b hb
    simp [priorityEventComparator, hhigh, ha, Priority.toNat] at hfirst

/-- The events of high priority that enter between two events of low priority leave between them, in their order. -/
theorem high_between_lows {ops : List (QueueOperation QueuedEvent)} {t : PriorityQueue QueuedEvent × Traffic QueuedEvent}
    (h : WellFormed priorityEventComparator p) (hd : p.dequeue = .ok (a, p₁)) (ha : a.priority = .low)
    (hrun : (observed priorityEventComparator).Run anyStep (p₁, {}) ops t)
    (hd₂ : t.1.dequeue = .ok (b, p₂)) (hb : b.priority = .low) :
    t.2.left.filter isHigh = t.2.entered.filter isHigh := by
  have hafter : WellFormed priorityEventComparator p₁ := ((InOrder.start h).dequeue hd).wellFormed
  have horder := inOrder_of_run priorityEventComparator_strictWeak hafter hrun
  have hbefore : p₁.q.filter isHigh = [] := by
    have hnone := h.no_high hd ha
    rw [(dequeue_eq_ok.1 hd).1] at hnone
    exact List.filter_eq_nil_iff.2 fun e he => List.filter_eq_nil_iff.1 hnone e (List.mem_cons_of_mem _ he)
  have hfifo := horder.fifo { pointer := 0, priority := .high }
  rwa [equivalent_high, horder.wellFormed.no_high hd₂ hb, List.filter_append, hbefore, List.append_nil,
    List.nil_append] at hfifo

/-- The queue of any strict weak order over every sequence of operations, and what it means for the two priorities. -/
theorem priority_order {α : Type} :
    (∀ (comparator : α → α → Bool) (ops : List (QueueOperation α)) (s : PriorityQueue α × Traffic α),
      StrictWeak comparator → (observed comparator).Run anyStep ({}, {}) ops s →
      s.1.counter = s.1.q.length ∧ (s.2.left ++ s.1.q).Perm s.2.entered ∧
      (∀ a, s.2.left.filter (equivalent comparator a) ++ s.1.q.filter (equivalent comparator a) =
        s.2.entered.filter (equivalent comparator a)) ∧
      (0 < s.1.counter → ∃ value p, s.1.dequeue = .ok (value, p) ∧ s.1.q = value :: p.q ∧
        ∀ b ∈ s.1.q, comparator b value = false)) ∧
    StrictWeak priorityEventComparator ∧ StrictWeak timeoutEventComparator ∧
    (∀ (before during : List (QueueOperation QueuedEvent)) (s t : PriorityQueue QueuedEvent × Traffic QueuedEvent)
      (p₁ p₂ : PriorityQueue QueuedEvent) (a b : QueuedEvent),
      (observed priorityEventComparator).Run anyStep ({}, {}) before s →
      s.1.dequeue = .ok (a, p₁) → a.priority = .low →
      (observed priorityEventComparator).Run anyStep (p₁, {}) during t →
      t.1.dequeue = .ok (b, p₂) → b.priority = .low →
      t.2.left.filter isHigh = t.2.entered.filter isHigh) := by
  refine ⟨fun comparator ops s hlt hrun => ?_, priorityEventComparator_strictWeak,
    timeoutEventComparator_strictWeak, fun before during s t p₁ p₂ a b hbefore hd ha hduring hd₂ hb => ?_⟩
  · obtain ⟨hwf, hconserved, hfifo⟩ := inOrder_of_run hlt (.empty comparator) hrun
    refine ⟨hwf.counter, hconserved, hfifo, fun hpos => ?_⟩
    obtain ⟨value, p, hd, hfirst⟩ := hwf.dequeue hlt hpos
    exact ⟨value, p, hd, (dequeue_eq_ok.1 hd).1, hfirst⟩
  · have horder := inOrder_of_run priorityEventComparator_strictWeak (.empty _) hbefore
    exact high_between_lows horder.wellFormed hd ha hduring hd₂ hb

/-- Two events of low priority wait; while the first one is handled two of high priority enter, and both leave before the
second one. -/
theorem priority_order_drain : ∃ s t : PriorityQueue QueuedEvent × Traffic QueuedEvent,
    s.1.counter = s.1.q.length ∧ s.1.q = [.frameworkEvent 1, .frameworkEvent 2] ∧
      t.2.entered = [.protocolEvent 3, .protocolEvent 4] ∧ t.1.q = [.frameworkEvent 2] ∧
      t.2.left.filter isHigh = t.2.entered.filter isHigh := by
  have hs : ((observed priorityEventComparator).replay anyStep
      [.enqueue (.frameworkEvent 1), .enqueue (.frameworkEvent 2)] ({}, {})).any (fun s =>
        decide (s.1 = { q := [.frameworkEvent 1, .frameworkEvent 2], counter := 2 })) = true := by decide +kernel
  have ht : ((observed priorityEventComparator).replay anyStep
      [.enqueue (.protocolEvent 3), .enqueue (.protocolEvent 4), .dequeue, .dequeue]
      ({ q := [.frameworkEvent 2], counter := 1 }, {})).any (fun t =>
        decide (t.1 = { q := [.frameworkEvent 2], counter := 1 } ∧
          t.2.entered = [.protocolEvent 3, .protocolEvent 4])) = true := by decide +kernel
  obtain ⟨s, hrun, hs⟩ := Machine.exists_run hs
  obtain ⟨t, hduring, ht⟩ := Machine.exists_run ht
  have hs := of_decide_eq_true hs
  obtain ⟨ht, hentered⟩ := of_decide_eq_true ht
  refine ⟨s, t, ?_, by rw [hs], hentered, by rw [ht], ?_⟩
  · exact (priority_order.1 _ _ s priorityEventComparator_strictWeak hrun).1
  · exact (priority_order (α := QueuedEvent)).2.2.2 _ _ s t { q := [.frameworkEvent 2], counter := 1 }
      { q := [], counter := 0 } (.frameworkEvent 1) (.frameworkEvent 2) hrun (by rw [hs]; rfl) rfl hduring
      (by rw [ht]; rfl) rfl

end PriorityQueue

end Wifu
