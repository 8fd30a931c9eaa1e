import Mathlib.Logic.Function.Basic
import Wifu.PriorityQueue

/-!
# The dispatcher (`Dispatcher.cc`, `QueueProcessor.h`, `Queue.h`, `Module.cc`)

Every module has a queue and a thread that takes events out of it.  The dispatcher hands each event to the queues of the
modules that are registered for its type; a protocol refuses the events of other protocols' sockets.

A step is one operation of one thread on what the threads share: `enqueue` puts an element in and then posts on the
semaphore, `dequeue` waits and then takes the first element.  What a module does with an event is left open: any thread
may hand any event to the dispatcher at any time.  `TimeoutEventManager`, which has an `enqueue` of its own, is not one of
the modules here.
-/

namespace Wifu

open Search Transition

/-! ### Queues between the halves of their operations -/

/-- A `Queue` or a `PriorityQueue`, and the threads that are inside of its operations. -/
structure CountedQueue (α : Type) where
  q : List α := []
  /-- The value of the semaphore `counter_`. -/
  counter : Nat := 0
  /-- The threads that have put an element in and not posted yet. -/
  posting : Nat := 0
  /-- The threads that have waited and not taken an element yet. -/
  taking : Nat := 0
  deriving DecidableEq, Repr

namespace CountedQueue

variable {α : Type}

/-- The first half of `enqueue`. -/
def push (comparator : α → α → Bool) (c : CountedQueue α) (obj : α) : CountedQueue α :=
  { c with q := insertUpper comparator obj c.q, posting := c.posting + 1 }

/-- The second half of `enqueue`. -/
def post (c : CountedQueue α) : CountedQueue α := { c with counter := c.counter + 1, posting := c.posting - 1 }

/-- The first half of `dequeue`. -/
def wait (c : CountedQueue α) : CountedQueue α := { c with counter := c.counter - 1, taking := c.taking + 1 }

/-- The second half of `dequeue`. -/
def take (c : CountedQueue α) : Except QueueFailure (α × CountedQueue α) :=
  match c.q with
  | [] => .error .emptyFront
  | value :: q => .ok (value, { c with q, taking := c.taking - 1 })

/-- The queue as it would be if its operations were atomic. -/
def atomic (c : CountedQueue α) : PriorityQueue α := { q := c.q, counter := c.q.length }

/-- Every element is counted, about to be counted, or about to be taken. -/
def Accounted (c : CountedQueue α) : Prop := c.counter + c.posting + c.taking = c.q.length

section

variable {comparator : α → α → Bool} {c d : CountedQueue α} {obj value : α}

theorem length_push : (c.push comparator obj).q.length = c.q.length + 1 :=
  (insertUpper_perm comparator obj c.q).length_eq

theorem atomic_push : (c.push comparator obj).atomic = c.atomic.enqueue comparator obj := by
  unfold atomic PriorityQueue.enqueue
  rw [length_push]
  rfl

theorem take_eq_ok : c.take = .ok (value, d) ↔ c.q = value :: d.q ∧ d = { c with q := d.q, taking := c.taking - 1 } := by
  obtain ⟨q, counter, posting, taking⟩ := c
  obtain ⟨q', counter', posting', taking'⟩ := d
  cases q with
  | nil => simp [take]
  | cons a q =>
    simp only [take, Except.ok.injEq, Prod.mk.injEq, mk.injEq, List.cons.injEq]
    constructor
    · rintro ⟨rfl, rfl, rfl, rfl, rfl⟩
      exact ⟨⟨rfl, rfl⟩, trivial, rfl, rfl, rfl⟩
    · rintro ⟨⟨rfl, rfl⟩, -, rfl, rfl, rfl⟩
      exact ⟨rfl, rfl, rfl, rfl, rfl⟩

theorem atomic_take (h : c.take = .ok (value, d)) : c.atomic.dequeue = .ok (value, d.atomic) := by
  obtain ⟨hq, hd⟩ := take_eq_ok.1 h
  refine PriorityQueue.dequeue_eq_ok.2 ⟨hq, ?_⟩
  show d.q.length = c.q.length - 1
  rw [hq]
  rfl

theorem Accounted.push (h : c.Accounted) : (c.push comparator obj).Accounted := by
  unfold Accounted at h ⊢
  rw [length_push]
  simp only [CountedQueue.push]
  omega

theorem Accounted.post (h : c.Accounted) (hpos : 0 < c.posting) : c.post.Accounted := by
  unfold Accounted CountedQueue.post at *
  simp only
  omega

theorem Accounted.wait (h : c.Accounted) (hpos : 0 < c.counter) : c.wait.Accounted := by
  unfold Accounted CountedQueue.wait at *
  simp only
  omega

/-- Who has waited finds an element. -/
theorem Accounted.take (h : c.Accounted) (hpos : 0 < c.taking) : ∃ value d, c.take = .ok (value, d) ∧ d.Accounted := by
  obtain ⟨q, counter, posting, taking⟩ := c
  unfold Accounted at h
  simp only at h hpos
  cases q with
  | nil =>
    simp only [List.length_nil] at h
    omega
  | cons value q =>
    refine ⟨value, _, rfl, ?_⟩
    simp only [List.length_cons] at h
    simp only [Accounted]
    omega

end

end CountedQueue

/-! ### Modules -/

/-- The order of a queue without priorities. -/
theorem strictWeak_false {α : Type} : StrictWeak fun _ _ : α => false := by
  constructor
  · intro _ _ h
    cases h
  · intro _ _ _ h
    cases h

/-- An event in the dispatcher's eyes: its pointer with its priority, its type, and the protocol of its socket. -/
structure TypedEvent (N : Type) extends QueuedEvent where
  name : N
  protocol : Nat
  deriving DecidableEq, Repr

/-- What kind of `QueueProcessor` a module is. -/
inductive ModuleKind
  /-- A `Protocol` with its number `protocol_`; its queue is a `PriorityQueue`. -/
  | protocol (number : Nat)
  /-- A module with a `Queue`. -/
  | plain
  deriving DecidableEq, Repr

namespace ModuleKind

variable {N : Type}

/-- The comparator of the module's queue; one that finds no difference makes it a `Queue`. -/
def comparator : ModuleKind → TypedEvent N → TypedEvent N → Bool
  | .protocol _, t₁, t₂ => priorityEventComparator t₁.toQueuedEvent t₂.toQueuedEvent
  | .plain, _, _ => false

/-- `should_enqueue`. -/
def shouldEnqueue : ModuleKind → TypedEvent N → Bool
  | .protocol number, e => e.protocol == number
  | .plain, _ => true

theorem comparator_strictWeak (k : ModuleKind) : StrictWeak (k.comparator (N := N)) := by
  cases k with
  | plain => exact strictWeak_false
  | protocol number =>
    exact ⟨fun a b h => priorityEventComparator_strictWeak.asymm _ _ h,
      fun a b c h => priorityEventComparator_strictWeak.cotrans _ _ _ h⟩

end ModuleKind

/-- The thread of a module. -/
inductive ModuleThread (ε : Type)
  /-- In `dequeue`. -/
  | waiting
  | counted
  /-- In `process`. -/
  | processing (e : ε)
  deriving DecidableEq, Repr

/-- A module with its queue. -/
structure QueueProcessor (ε : Type) where
  queue : CountedQueue ε := {}
  thread : ModuleThread ε := .waiting
  deriving DecidableEq, Repr

/-! ### The dispatcher and the modules -/

/-- The thread of the dispatcher. -/
inductive DispatcherThread (ε : Type)
  /-- In `dequeue`. -/
  | waiting
  | counted
  /-- At the start of `process`, before the mutex is taken. -/
  | taken (e : ε)
  /-- In the loop of `process`, before the modules that are left. -/
  | processing (e : ε) (rest : List Nat)
  /-- In the loop, between the halves of `enqueue`. -/
  | posting (e : ε) (q : Nat) (rest : List Nat)
  deriving DecidableEq, Repr

structure Dispatcher (N : Type) where
  /-- The modules of a type; a type that is not in `map_` has none. -/
  map : N → List Nat := fun _ => []
  queue : CountedQueue (TypedEvent N) := {}
  thread : DispatcherThread (TypedEvent N) := .waiting
  modules : Nat → QueueProcessor (TypedEvent N) := fun _ => {}

namespace Dispatcher

/-- An operation of a thread. -/
inductive Input (N : Type)
  | mapEvent (name : N) (q : Nat)
  /-- A thread in `Module::dispatch`. -/
  | enqueue (e : TypedEvent N)
  | post
  /-- The dispatcher's thread. -/
  | own
  /-- The thread of a module. -/
  | run (q : Nat)
  deriving DecidableEq, Repr

variable {N : Type} (kind : Nat → ModuleKind)

/-- The mutex that `map_event` and the loop of `process` hold is free. -/
def mutexFree (d : Dispatcher N) : Bool :=
  match d.thread with
  | .waiting | .counted | .taken _ => true
  | .processing _ _ | .posting _ _ _ => false

/-- `map_event`. -/
def mapEvent [DecidableEq N] (d : Dispatcher N) (name : N) (q : Nat) : Dispatcher N :=
  if q ∈ d.map name then d else { d with map := Function.update d.map name (d.map name ++ [q]) }

/-- A change of one module. -/
def setModule (d : Dispatcher N) (q : Nat) (p : QueueProcessor (TypedEvent N)) : Dispatcher N :=
  { d with modules := Function.update d.modules q p }

/-- The next operation of the dispatcher's thread: `dequeue`, then `process`, which enqueues the event for each module. -/
def own (d : Dispatcher N) : Except QueueFailure (Dispatcher N) :=
  match d.thread with
  | .waiting => .ok { d with queue := d.queue.wait, thread := .counted }
  | .counted => d.queue.take.map fun r => { d with queue := r.2, thread := .taken r.1 }
  | .taken e => .ok { d with thread := .processing e (d.map e.name) }
  | .processing _ [] => .ok { d with thread := .waiting }
  | .processing e (q :: rest) =>
    if (kind q).shouldEnqueue e then
      let p := d.modules q
      .ok { d.setModule q { p with queue := p.queue.push (kind q).comparator e } with thread := .posting e q rest }
    else
      .ok { d with thread := .processing e rest }
  | .posting e q rest =>
    let p := d.modules q
    .ok { d.setModule q { p with queue := p.queue.post } with thread := .processing e rest }

/-- The next operation of the thread of a module: `dequeue`, then `process`. -/
def run (d : Dispatcher N) (q : Nat) : Except QueueFailure (Dispatcher N) :=
  let p := d.modules q
  match p.thread with
  | .waiting => .ok (d.setModule q { queue := p.queue.wait, thread := .counted })
  | .counted => p.queue.take.map fun r => d.setModule q { queue := r.2, thread := .processing r.1 }
  | .processing _ => .ok (d.setModule q { p with thread := .waiting })

def step [DecidableEq N] (i : Input N) (d : Dispatcher N) : Except QueueFailure (Dispatcher N) :=
  match i with
  | .mapEvent name q => .ok (d.mapEvent name q)
  | .enqueue e => .ok { d with queue := d.queue.push (fun _ _ => false) e }
  | .post => .ok { d with queue := d.queue.post }
  | .own => d.own kind
  | .run q => d.run q

/-- A thread in `dequeue` waits while the semaphore is zero. -/
def enabled (i : Input N) (d : Dispatcher N) : Prop :=
  match i with
  | .mapEvent _ _ => d.mutexFree = true
  | .enqueue _ => True
  | .post => 0 < d.queue.posting
  | .own => d.thread = .waiting → 0 < d.queue.counter
  | .run q => (d.modules q).thread = .waiting → 0 < (d.modules q).queue.counter

instance [DecidableEq N] (i : Input N) (d : Dispatcher N) : Decidable (enabled i d) :=
  match i with
  | .mapEvent _ _ => inferInstanceAs (Decidable (_ = true))
  | .enqueue _ => .isTrue trivial
  | .post => inferInstanceAs (Decidable (0 < _))
  | .own => inferInstanceAs (Decidable (_ → _))
  | .run _ => inferInstanceAs (Decidable (_ → _))

def machine [DecidableEq N] : Machine (Dispatcher N) (Input N) QueueFailure := ⟨enabled, step kind⟩

instance [DecidableEq N] (i : Input N) (d : Dispatcher N) : Decidable ((machine kind).enabled i d) :=
  inferInstanceAs (Decidable (enabled i d))

/-- What has happened: the events handed to the dispatcher, those whose `process` has looked up their modules, with these
modules, and those that each module has taken out of its queue. -/
structure Deliveries (N : Type) where
  dispatched : List (TypedEvent N) := []
  processed : List (TypedEvent N × List Nat) := []
  handled : Nat → List (TypedEvent N) := fun _ => []

def observe (d : Dispatcher N) (i : Input N) (t : Dispatcher N) (g : Deliveries N) : Deliveries N :=
  match i with
  | .mapEvent _ _ | .post => g
  | .enqueue e => { g with dispatched := g.dispatched ++ [e] }
  | .own =>
    match d.thread with
    | .taken e => { g with processed := g.processed ++ [(e, d.map e.name)] }
    | _ => g
  | .run q =>
    match (d.modules q).thread, (t.modules q).thread with
    | .counted, .processing e => { g with handled := Function.update g.handled q (g.handled q ++ [e]) }
    | _, _ => g

def observed [DecidableEq N] : Machine (Dispatcher N × Deliveries N) (Input N) QueueFailure := (machine kind).observed observe

instance [DecidableEq N] (i : Input N) (s : Dispatcher N × Deliveries N) : Decidable ((observed kind).enabled i s) :=
  inferInstanceAs (Decidable (enabled i s.1))

/-- The events that a module has to get. -/
def Deliveries.due (g : Deliveries N) (q : Nat) : List (TypedEvent N) :=
  (g.processed.filter fun p => decide (q ∈ p.2) && (kind q).shouldEnqueue p.1).map Prod.fst

/-- The event that the loop of `process` still has to enqueue for a module. -/
def upcoming (thread : DispatcherThread (TypedEvent N)) (q : Nat) : List (TypedEvent N) :=
  match thread with
  | .waiting | .counted | .taken _ => []
  | .processing e rest | .posting e _ rest => if q ∈ rest ∧ (kind q).shouldEnqueue e = true then [e] else []

/-- The event that the dispatcher's thread has taken out and not looked up yet. -/
def inHand (thread : DispatcherThread (TypedEvent N)) : List (TypedEvent N) :=
  match thread with
  | .taken e => [e]
  | _ => []

/-! ### The invariant -/

/-- The dispatcher's thread is between the halves of `dequeue`. -/
def takes (thread : DispatcherThread (TypedEvent N)) : Nat :=
  match thread with
  | .counted => 1
  | _ => 0

/-- The dispatcher's thread is between the halves of the `enqueue` of a module. -/
def postsTo (thread : DispatcherThread (TypedEvent N)) (q : Nat) : Nat :=
  match thread with
  | .posting _ q' _ => if q' = q then 1 else 0
  | _ => 0

/-- The thread of a module is between the halves of `dequeue`. -/
def moduleTakes (p : QueueProcessor (TypedEvent N)) : Nat :=
  match p.thread with
  | .counted => 1
  | _ => 0

/-- A module that has to get the events `due` and has taken out `handled`. -/
structure Delivered (q : Nat) (p : QueueProcessor (TypedEvent N)) (thread : DispatcherThread (TypedEvent N))
    (due handled : List (TypedEvent N)) : Prop where
  accounted : p.queue.Accounted
  taking : p.queue.taking = moduleTakes p
  posting : p.queue.posting = postsTo thread q
  order : ∃ entered, entered ++ upcoming kind thread q = due ∧
    PriorityQueue.InOrder (kind q).comparator [] (p.queue.atomic, { entered, left := handled })

/-- The modules that the loop of `process` has not finished with. -/
def remaining (thread : DispatcherThread (TypedEvent N)) : List Nat :=
  match thread with
  | .waiting | .counted | .taken _ => []
  | .processing _ rest => rest
  | .posting _ q rest => q :: rest

structure Sound (s : Dispatcher N × Deliveries N) : Prop where
  accounted : s.1.queue.Accounted
  taking : s.1.queue.taking = takes s.1.thread
  dispatched : s.2.dispatched = s.2.processed.map Prod.fst ++ (inHand s.1.thread ++ s.1.queue.q)
  map_nodup : ∀ name, (s.1.map name).Nodup
  remaining_nodup : (remaining s.1.thread).Nodup
  processed_nodup : ∀ p ∈ s.2.processed, p.2.Nodup
  delivered : ∀ q, Delivered kind q (s.1.modules q) s.1.thread (s.2.due kind q) (s.2.handled q)

section

variable {kind} {q : Nat} {p : QueueProcessor (TypedEvent N)} {thread thread' : DispatcherThread (TypedEvent N)}
  {due handled : List (TypedEvent N)} {s t : Dispatcher N × Deliveries N}

theorem Delivered.start : Delivered (N := N) kind q {} .waiting [] [] where
  accounted := rfl
  taking := rfl
  posting := rfl
  order := ⟨[], rfl, .start (.empty _)⟩

/-- A change of the dispatcher's thread that does not concern the module. -/
theorem Delivered.undisturbed (h : Delivered kind q p thread due handled)
    (hupcoming : upcoming kind thread' q = upcoming kind thread q) (hposts : postsTo thread' q = postsTo thread q) :
    Delivered kind q p thread' due handled where
  accounted := h.accounted
  taking := h.taking
  posting := by rw [h.posting, hposts]
  order := by
    rw [hupcoming]
    exact h.order

/-- The dispatcher's thread finds the modules of an event. -/
theorem Delivered.lookUp (h : Delivered kind q p thread due handled) (hupcoming : upcoming kind thread q = [])
    (hposts : postsTo thread q = 0) (e : TypedEvent N) (rest : List Nat) :
    Delivered kind q p (.processing e rest) (due ++ upcoming kind (.processing e rest) q) handled where
  accounted := h.accounted
  taking := h.taking
  posting := by rw [h.posting, hposts]; rfl
  order := by
    obtain ⟨entered, hdue, horder⟩ := h.order
    rw [hupcoming, List.append_nil] at hdue
    exact ⟨entered, by rw [hdue], horder⟩

/-- The dispatcher's thread puts the event into the queue of the module. -/
theorem Delivered.push {e : TypedEvent N} {rest : List Nat}
    (h : Delivered kind q p (.processing e (q :: rest)) due handled) (hrest : q ∉ rest)
    (henqueue : (kind q).shouldEnqueue e = true) :
    Delivered kind q { p with queue := p.queue.push (kind q).comparator e } (.posting e q rest) due handled where
  accounted := h.accounted.push
  taking := h.taking
  posting := by
    have := h.posting
    simp only [postsTo] at this ⊢
    simp [CountedQueue.push, this]
  order := by
    obtain ⟨entered, hdue, horder⟩ := h.order
    refine ⟨entered ++ [e], ?_, ?_⟩
    · simpa [upcoming, hrest, henqueue] using hdue
    · have := horder.enqueue (kind q).comparator_strictWeak e
      rwa [← CountedQueue.atomic_push] at this

/-- The dispatcher's thread posts on the semaphore of the module. -/
theorem Delivered.post {e : TypedEvent N} {rest : List Nat} (h : Delivered kind q p (.posting e q rest) due handled) :
    Delivered kind q { p with queue := p.queue.post } (.processing e rest) due handled := by
  have hposting : p.queue.posting = 1 := by simpa [postsTo] using h.posting
  exact
    { accounted := h.accounted.post (by omega)
      taking := h.taking
      posting := by simp [CountedQueue.post, hposting, postsTo]
      order := h.order }

/-- The thread of the module waits on its semaphore. -/
theorem Delivered.wait (h : Delivered kind q p thread due handled) (hwaiting : p.thread = .waiting)
    (hpos : 0 < p.queue.counter) :
    Delivered kind q { queue := p.queue.wait, thread := .counted } thread due handled where
  accounted := h.accounted.wait hpos
  taking := by
    have := h.taking
    simp only [moduleTakes, hwaiting] at this
    simp [CountedQueue.wait, this, moduleTakes]
  posting := h.posting
  order := h.order

/-- The thread of the module takes the first event. -/
theorem Delivered.take (h : Delivered kind q p thread due handled) (hcounted : p.thread = .counted) :
    ∃ e queue, p.queue.take = .ok (e, queue) ∧
      Delivered kind q { queue, thread := .processing e } thread due (handled ++ [e]) := by
  have htaking : p.queue.taking = 1 := by simpa [moduleTakes, hcounted] using h.taking
  obtain ⟨e, queue, htake, haccounted⟩ := h.accounted.take (by omega)
  obtain ⟨-, hqueue⟩ := CountedQueue.take_eq_ok.1 htake
  obtain ⟨entered, hdue, horder⟩ := h.order
  refine ⟨e, queue, htake, haccounted, ?_, ?_, entered, hdue, horder.dequeue (CountedQueue.atomic_take htake)⟩
  · rw [hqueue]
    simp [htaking, moduleTakes]
  · rw [hqueue]
    exact h.posting

/-- The thread of the module has handled its event. -/
theorem Delivered.finish {e : TypedEvent N} (h : Delivered kind q p thread due handled)
    (hprocessing : p.thread = .processing e) : Delivered kind q { p with thread := .waiting } thread due handled where
  accounted := h.accounted
  taking := by
    have := h.taking
    simpa [moduleTakes, hprocessing] using this
  posting := h.posting
  order := h.order

/-- A queue without priorities grows at its end. -/
theorem insertUpper_last {α : Type} (a : α) (l : List α) : insertUpper (fun _ _ => false) a l = l ++ [a] := by
  have hsorted : SortedBy (fun _ _ : α => false) l := List.pairwise_of_forall fun _ _ => rfl
  obtain ⟨l₁, l₂, rfl, heq, -, hafter⟩ := insertUpper_split strictWeak_false a hsorted
  cases l₂ with
  | nil => rw [heq, List.append_nil]
  | cons b l₂ => cases hafter b List.mem_cons_self

theorem Sound.start : Sound kind (({} : Dispatcher N), {}) where
  accounted := rfl
  taking := rfl
  dispatched := rfl
  map_nodup _ := List.nodup_nil
  remaining_nodup := List.nodup_nil
  processed_nodup _ hp := absurd hp List.not_mem_nil
  delivered _ := .start

theorem Sound.enqueue (h : Sound kind s) (e : TypedEvent N) :
    Sound kind ({ s.1 with queue := s.1.queue.push (fun _ _ => false) e },
      { s.2 with dispatched := s.2.dispatched ++ [e] }) :=
  { h with
    accounted := h.accounted.push
    dispatched := by
      show s.2.dispatched ++ [e] = _ ++ (_ ++ insertUpper _ e s.1.queue.q)
      rw [h.dispatched, insertUpper_last, List.append_assoc, List.append_assoc] }

theorem Sound.post (h : Sound kind s) (hpos : 0 < s.1.queue.posting) :
    Sound kind ({ s.1 with queue := s.1.queue.post }, s.2) :=
  { h with accounted := h.accounted.post hpos }

/-- One module changes. -/
theorem Sound.setModule (h : Sound kind s) {q : Nat} {p : QueueProcessor (TypedEvent N)} {handled : List (TypedEvent N)}
    (hp : Delivered kind q p s.1.thread (s.2.due kind q) handled) :
    Sound kind (s.1.setModule q p, { s.2 with handled := Function.update s.2.handled q handled }) :=
  { h with
    delivered := by
      intro q'
      show Delivered kind q' (Function.update s.1.modules q p q') _ _ (Function.update s.2.handled q handled q')
      by_cases hq : q' = q
      · subst hq
        rw [Function.update_self, Function.update_self]
        exact hp
      · rw [Function.update_of_ne hq, Function.update_of_ne hq]
        exact h.delivered q' }

/-- What the thread of a module does next. -/
theorem Sound.run (h : Sound kind s) (q : Nat) (he : enabled (.run q) s.1) :
    ∃ t, s.1.run q = .ok t ∧ Sound kind (t, observe s.1 (.run q) t s.2) := by
  have hq := h.delivered q
  have hsame : Function.update s.2.handled q (s.2.handled q) = s.2.handled := Function.update_eq_self q _
  cases hthread : (s.1.modules q).thread with
  | waiting =>
    have hsound := h.setModule (hq.wait hthread (he hthread))
    rw [hsame] at hsound
    simp only [Dispatcher.run, observe, hthread]
    exact ⟨_, rfl, hsound⟩
  | counted =>
    obtain ⟨e, queue, htake, hdelivered⟩ := hq.take hthread
    have hsound := h.setModule hdelivered
    simp only [Dispatcher.run, observe, hthread, htake, Except.map]
    refine ⟨_, rfl, ?_⟩
    simp only [Dispatcher.setModule, Function.update_self]
    exact hsound
  | processing e =>
    have hsound := h.setModule (hq.finish hthread)
    rw [hsame] at hsound
    simp only [Dispatcher.run, observe, hthread]
    exact ⟨_, rfl, hsound⟩

/-- The dispatcher's thread goes on, and no module changes. -/
theorem Sound.setThread (h : Sound kind s) {queue : CountedQueue (TypedEvent N)}
    {thread : DispatcherThread (TypedEvent N)} (haccounted : queue.Accounted) (htaking : queue.taking = takes thread)
    (hq : inHand thread ++ queue.q = inHand s.1.thread ++ s.1.queue.q) (hremaining : (remaining thread).Nodup)
    (hupcoming : ∀ q, upcoming kind thread q = upcoming kind s.1.thread q)
    (hposts : ∀ q, postsTo thread q = postsTo s.1.thread q) :
    Sound kind ({ s.1 with queue, thread }, s.2) :=
  { h with
    accounted := haccounted
    taking := htaking
    dispatched := by
      show s.2.dispatched = _ ++ (inHand thread ++ queue.q)
      rw [hq]
      exact h.dispatched
    remaining_nodup := hremaining
    delivered q := (h.delivered q).undisturbed (hupcoming q) (hposts q) }

/-- The dispatcher's thread goes on with one module, which the others do not notice. -/
theorem Sound.visit (h : Sound kind s) {q : Nat} {p : QueueProcessor (TypedEvent N)}
    {thread : DispatcherThread (TypedEvent N)} (htakes : takes thread = takes s.1.thread)
    (hinHand : inHand thread = inHand s.1.thread) (hremaining : (remaining thread).Nodup)
    (hq : Delivered kind q p thread (s.2.due kind q) (s.2.handled q))
    (hupcoming : ∀ q', q' ≠ q → upcoming kind thread q' = upcoming kind s.1.thread q')
    (hposts : ∀ q', q' ≠ q → postsTo thread q' = postsTo s.1.thread q') :
    Sound kind ({ s.1.setModule q p with thread }, s.2) :=
  { h with
    taking := by
      show s.1.queue.taking = takes thread
      rw [htakes]
      exact h.taking
    dispatched := by
      show s.2.dispatched = _ ++ (inHand thread ++ s.1.queue.q)
      rw [hinHand]
      exact h.dispatched
    remaining_nodup := hremaining
    delivered := by
      intro q'
      show Delivered kind q' (Function.update s.1.modules q p q') thread _ _
      by_cases hne : q' = q
      · subst hne
        rw [Function.update_self]
        exact hq
      · rw [Function.update_of_ne hne]
        exact (h.delivered q').undisturbed (hupcoming q' hne) (hposts q' hne) }

theorem due_snoc (g : Deliveries N) (e : TypedEvent N) (rest : List Nat) (q : Nat) :
    Deliveries.due kind { g with processed := g.processed ++ [(e, rest)] } q =
      g.due kind q ++ upcoming kind (.processing e rest) q := by
  unfold Deliveries.due upcoming
  rw [List.filter_append, List.map_append]
  by_cases hq : q ∈ rest ∧ (kind q).shouldEnqueue e = true <;> simp [hq]

/-- What the dispatcher's thread does next. -/
theorem Sound.own (h : Sound kind s) (he : enabled .own s.1) :
    ∃ t, s.1.own kind = .ok t ∧ Sound kind (t, observe s.1 .own t s.2) := by
  obtain ⟨d, g⟩ := s
  obtain ⟨map, queue, thread, modules⟩ := d
  cases thread with
  | waiting =>
    refine ⟨_, rfl, h.setThread (h.accounted.wait (he rfl)) ?_ rfl List.nodup_nil (fun _ => rfl) fun _ => rfl⟩
    show queue.taking + 1 = 1
    rw [show queue.taking = 0 from h.taking]
  | counted =>
    have htaking : queue.taking = 1 := h.taking
    obtain ⟨e, queue', htake, haccounted⟩ := h.accounted.take (by rw [htaking]; exact Nat.one_pos)
    obtain ⟨hq, hqueue⟩ := CountedQueue.take_eq_ok.1 htake
    simp only [Dispatcher.own, htake, Except.map]
    refine ⟨_, rfl, h.setThread haccounted ?_ ?_ List.nodup_nil (fun _ => rfl) fun _ => rfl⟩
    · rw [hqueue]
      show queue.taking - 1 = 0
      rw [htaking]
    · exact hq.symm
  | taken e =>
    refine ⟨_, rfl, ?_⟩
    exact
      { h with
        dispatched := by
          show g.dispatched = (g.processed ++ [(e, map e.name)]).map Prod.fst ++ ([] ++ queue.q)
          have := h.dispatched
          simpa [inHand] using this
        remaining_nodup := h.map_nodup e.name
        processed_nodup := by
          intro p hp
          rcases List.mem_append.1 hp with hp | hp
          · exact h.processed_nodup p hp
          · rw [List.mem_singleton.1 hp]
            exact h.map_nodup e.name
        delivered := by
          intro q
          show Delivered kind q _ _ (Deliveries.due kind { g with processed := _ } q) _
          rw [due_snoc]
          exact (h.delivered q).lookUp rfl rfl e (map e.name) }
  | processing e rest =>
    cases rest with
    | nil =>
      refine ⟨_, rfl, h.setThread h.accounted h.taking rfl List.nodup_nil (fun q => ?_) fun _ => rfl⟩
      simp [upcoming]
    | cons q rest =>
      obtain ⟨hrest, hnodup⟩ := List.nodup_cons.1 h.remaining_nodup
      have hmem : ∀ q', q' ≠ q → upcoming kind (.processing e rest) q' = upcoming kind (.processing e (q :: rest)) q' := by
        intro q' hne
        simp [upcoming, hne]
      by_cases henqueue : (kind q).shouldEnqueue e = true
      · simp only [Dispatcher.own, if_pos henqueue]
        refine ⟨_, rfl, h.visit rfl rfl h.remaining_nodup ((h.delivered q).push hrest henqueue) hmem fun q' hne => ?_⟩
        simp [postsTo, Ne.symm hne]
      · simp only [Dispatcher.own, if_neg henqueue]
        refine ⟨_, rfl, h.setThread h.accounted h.taking rfl hnodup (fun q' => ?_) fun _ => rfl⟩
        by_cases hne : q' = q
        · subst hne
          simp [upcoming, henqueue]
        · exact hmem q' hne
  | posting e q rest =>
    obtain ⟨-, hnodup⟩ := List.nodup_cons.1 h.remaining_nodup
    refine ⟨_, rfl, h.visit rfl rfl hnodup (h.delivered q).post (fun _ _ => rfl) fun q' hne => ?_⟩
    simp [postsTo, Ne.symm hne]

/-- A dispatcher with an event in its queue goes on, or a thread is about to wake it. -/
theorem Sound.dispatcher_goes_on (h : Sound kind s) (hq : s.1.queue.q ≠ []) : enabled .own s.1 ∨ enabled .post s.1 := by
  have haccounted : _ + _ + _ = _ := h.accounted
  have hpos := List.length_pos_iff.2 hq
  by_cases hposting : 0 < s.1.queue.posting
  · exact .inr hposting
  · refine .inl fun hwaiting => ?_
    have htaking := h.taking
    rw [hwaiting] at htaking
    simp only [takes] at htaking
    omega

/-- A module with an event in its queue goes on, or the dispatcher is about to wake it. -/
theorem Sound.module_goes_on (h : Sound kind s) {q : Nat} (hq : (s.1.modules q).queue.q ≠ []) :
    enabled (.run q) s.1 ∨ ∃ e rest, s.1.thread = .posting e q rest := by
  have haccounted : _ + _ + _ = _ := (h.delivered q).accounted
  have hpos := List.length_pos_iff.2 hq
  have hposting := (h.delivered q).posting
  by_cases hwaiting : (s.1.modules q).thread = .waiting
  · have htaking := (h.delivered q).taking
    simp only [moduleTakes, hwaiting] at htaking
    by_cases hcounter : 0 < (s.1.modules q).queue.counter
    · exact .inl fun _ => hcounter
    · right
      have hone : postsTo s.1.thread q ≠ 0 := by omega
      unfold postsTo at hone
      split at hone
      · rename_i e q' rest hthread
        split at hone
        · rename_i heq
          rw [hthread, heq]
          exact ⟨e, rest, rfl⟩
        · exact absurd rfl hone
      · exact absurd rfl hone
  · exact .inl fun h => absurd h hwaiting

/-- What a module has got, gets, and will get from the loop of `process`, against what it has to get. -/
theorem Delivered.perm (h : Delivered kind q p thread due handled) :
    (handled ++ p.queue.q ++ upcoming kind thread q).Perm due := by
  obtain ⟨entered, rfl, horder⟩ := h.order
  exact horder.conserved.append_right _

theorem Delivered.fifo (h : Delivered kind q p thread due handled) (a : TypedEvent N) :
    (handled ++ p.queue.q ++ upcoming kind thread q).filter (equivalent (kind q).comparator a) =
      due.filter (equivalent (kind q).comparator a) := by
  obtain ⟨entered, rfl, horder⟩ := h.order
  have := horder.fifo a
  rw [List.filter_append, List.filter_append, List.filter_append]
  simp only [List.nil_append] at this
  rw [← this]
  rfl

theorem equivalent_plain (a : TypedEvent N) : equivalent (ModuleKind.plain.comparator) a = fun _ => true := rfl

theorem equivalent_protocol (number : Nat) (a : TypedEvent N) :
    equivalent (ModuleKind.protocol number).comparator a = fun x => decide (x.priority = a.priority) := by
  funext x
  cases ha : a.priority <;> cases hx : x.priority <;>
    simp [equivalent, ModuleKind.comparator, priorityEventComparator, ha, hx, Priority.toNat]

variable [DecidableEq N]

theorem Sound.mapEvent (h : Sound kind s) (name : N) (q : Nat) : Sound kind (s.1.mapEvent name q, s.2) := by
  unfold Dispatcher.mapEvent
  by_cases hq : q ∈ s.1.map name
  · rw [if_pos hq]
    exact h
  · rw [if_neg hq]
    exact
      { h with
        map_nodup := by
          intro name'
          show (Function.update s.1.map name (s.1.map name ++ [q]) name').Nodup
          by_cases hname : name' = name
          · subst hname
            rw [Function.update_self]
            exact List.nodup_append.2 ⟨h.map_nodup name', List.nodup_singleton q, by
              rintro a ha b hb rfl
              rw [List.mem_singleton.1 hb] at ha
              exact hq ha⟩
          · rw [Function.update_of_ne hname]
            exact h.map_nodup name' }

/-- Every operation that does not wait succeeds, and keeps the invariant. -/
theorem Sound.step (h : Sound kind s) (i : Input N) (he : enabled i s.1) :
    ∃ t, step kind i s.1 = .ok t ∧ Sound kind (t, observe s.1 i t s.2) := by
  cases i with
  | mapEvent name q => exact ⟨_, rfl, h.mapEvent name q⟩
  | enqueue e => exact ⟨_, rfl, h.enqueue e⟩
  | post => exact ⟨_, rfl, h.post he⟩
  | own => exact h.own he
  | run q => exact h.run q he

theorem sound_of_run {is : List (Input N)} (hrun : (observed kind).Run anyStep ({}, {}) is s) : Sound kind s := by
  refine hrun.invariant (Sound kind) .start fun t i u hsound he _ hstep => ?_
  obtain ⟨v, hv, hnext⟩ := hsound.step i he
  obtain ⟨hu, hobserve⟩ := Machine.observed_step.1 hstep
  have heq : v = u.1 := by
    rw [show Dispatcher.step kind i t.1 = .ok u.1 from hu] at hv
    exact (Except.ok.inj hv).symm
  subst heq
  rw [← hobserve] at hnext
  exact hnext

end

/-- The events a module has taken out, those in its queue, and the one it gets next. -/
def got (s : Dispatcher N × Deliveries N) (q : Nat) : List (TypedEvent N) :=
  s.2.handled q ++ (s.1.modules q).queue.q ++ upcoming kind s.1.thread q

/-- Every event goes, once, to each module that is registered when its type is looked up and does not refuse it, in the
order in which the events came (for a protocol: among the events of one priority).  No `dequeue` finds an empty queue, and
no event is left without a thread that goes on with it or is about to be woken. -/
structure Delivers [DecidableEq N] (s : Dispatcher N × Deliveries N) : Prop where
  dispatched : s.2.dispatched = s.2.processed.map Prod.fst ++ (inHand s.1.thread ++ s.1.queue.q)
  once : ∀ p ∈ s.2.processed, p.2.Nodup
  delivered : ∀ q, (got kind s q).Perm (s.2.due kind q)
  fifo : ∀ q, kind q = .plain → got kind s q = s.2.due kind q
  priorities : ∀ q number a, kind q = .protocol number →
    (got kind s q).filter (fun x => decide (x.priority = a)) = (s.2.due kind q).filter fun x => decide (x.priority = a)
  succeeds : ∀ i, enabled i s.1 → ∃ t, step kind i s.1 = .ok t
  dispatcher_goes_on : s.1.queue.q ≠ [] → enabled .own s.1 ∨ enabled .post s.1
  module_goes_on : ∀ q, (s.1.modules q).queue.q ≠ [] → enabled (.run q) s.1 ∨ ∃ e rest, s.1.thread = .posting e q rest

/-- Two protocols, one of them registered twice, and a plain module; two events of the second protocol's sockets and one of
the first's. -/
def threeModules (q : Nat) : ModuleKind :=
  if q = 0 then .protocol 6 else if q = 1 then .protocol 17 else .plain

def dispatchScript : List (Input Nat) :=
  let e := fun pointer name protocol : Nat => (⟨⟨pointer, .low⟩, name, protocol⟩ : TypedEvent Nat)
  [.mapEvent 1 0, .mapEvent 1 1, .mapEvent 1 0, .mapEvent 1 2, .enqueue (e 1 1 17), .enqueue (e 2 1 6), .post, .own, .own,
    .own, .own, .enqueue (e 3 2 17), .own, .post, .own, .run 1, .run 1, .own, .own, .run 2, .run 2, .own, .own, .own, .own,
    .own]

end Dispatcher

end Wifu
