import Wifu.Event
import Wifu.Lib.Transition

/-!
# The rate limiter (`SendRateLimiter.cc`)

A packet is sent at once when the limiter may send, and is queued otherwise.  Each packet that is sent starts a timer; the
next packet is sent when that timer fires, and the limiter may send again when it fires with nothing queued.  Timers of
other components fire at the same handler.  What is sent and queued is what was submitted, and the limiter waits exactly
while one timer of its own has not fired (`rate_limited`).
-/

namespace Wifu

variable {α : Type}

/-- The state of `SendRateLimiter`, for packets of any kind. -/
structure SendRateLimiter (α : Type) where
  canSend : Bool := true
  sendSeconds : Int := 0
  sendNanos : Int := 0
  waitingTimeout : Option TimeoutEvent := none
  queue : List α := []

/-- What the limiter hands to the dispatcher. -/
inductive PacingEvent (α : Type)
  | networkSendPacket (s : SocketId) (p : α)
  | timeout (t : TimeoutEvent) (seconds nanos : Int)

namespace PacingEvent

def packet : PacingEvent α → Option α
  | networkSendPacket _ p => some p
  | timeout _ _ _ => none

def timer : PacingEvent α → Option TimeoutEvent
  | networkSendPacket _ _ => none
  | timeout t _ _ => some t

end PacingEvent

/-- A limiter and what it has dispatched; `next` numbers the timers that are made, here or elsewhere. -/
structure PacedSender (α : Type) where
  limiter : SendRateLimiter α := {}
  next : Nat := 0
  dispatched : List (PacingEvent α) := []

namespace PacedSender

/-- `setTimer`. -/
def setTimer (c : PacedSender α) (s : SocketId) : PacedSender α :=
  let t : TimeoutEvent := ⟨c.next, s⟩
  { c with
    limiter := { c.limiter with waitingTimeout := some t }
    next := c.next + 1
    dispatched := c.dispatched ++ [.timeout t c.limiter.sendSeconds c.limiter.sendNanos] }

/-- `dispatch_packet`; `protocol_specific_stuff` does nothing. -/
def dispatchPacket (c : PacedSender α) (s : SocketId) (p : α) : PacedSender α :=
  { c with dispatched := c.dispatched ++ [.networkSendPacket s p] }

/-- `setRate`. -/
def setRate (c : PacedSender α) (seconds nanos : Int) : PacedSender α :=
  { c with limiter := { c.limiter with sendSeconds := seconds, sendNanos := nanos } }

/-- `state_send_packet`. -/
def stateSendPacket (c : PacedSender α) (s : SocketId) (p : α) : PacedSender α :=
  if c.limiter.canSend then
    ({ c with limiter := { c.limiter with canSend := false } }.dispatchPacket s p).setTimer s
  else { c with limiter := { c.limiter with queue := c.limiter.queue ++ [p] } }

/-- `state_timer_fired`. -/
def stateTimerFired (c : PacedSender α) (t : TimeoutEvent) : PacedSender α :=
  if c.limiter.waitingTimeout = some t then
    match c.limiter.queue with
    | p :: ps => ({ c with limiter := { c.limiter with queue := ps } }.dispatchPacket t.socket p).setTimer t.socket
    | [] => { c with limiter := { c.limiter with canSend := true, waitingTimeout := none } }
  else c

inductive Input (α : Type)
  | sendPacket (s : SocketId) (p : α)
  | timerFired (t : TimeoutEvent)
  | setRate (seconds nanos : Int)
  /-- Another component makes a timer. -/
  | otherTimer

def step : Input α → PacedSender α → Except Empty (PacedSender α)
  | .sendPacket s p, c => .ok (c.stateSendPacket s p)
  | .timerFired t, c => .ok (c.stateTimerFired t)
  | .setRate seconds nanos, c => .ok (c.setRate seconds nanos)
  | .otherTimer, c => .ok { c with next := c.next + 1 }

/-- A timer that fires has been made. -/
def enabled : Input α → PacedSender α → Prop
  | .timerFired t, c => t.id < c.next
  | _, _ => True

instance : (i : Input α) → (c : PacedSender α) → Decidable (enabled i c)
  | .timerFired t, c => inferInstanceAs (Decidable (t.id < c.next))
  | .sendPacket _ _, _ | .setRate _ _, _ | .otherTimer, _ => .isTrue trivial

def machine : Transition.Machine (PacedSender α) (Input α) Empty := ⟨enabled, step⟩

/-! ### What has happened so far -/

structure History (α : Type) where
  submitted : List α := []
  fired : List TimeoutEvent := []

def observe (_ : PacedSender α) (i : Input α) (_ : PacedSender α) (h : History α) : History α :=
  match i with
  | .sendPacket _ p => { h with submitted := h.submitted ++ [p] }
  | .timerFired t => { h with fired := t :: h.fired }
  | _ => h

def historyMachine : Transition.Machine (PacedSender α × History α) (Input α) Empty := machine.observed observe

instance (i : Input α) (s : PacedSender α × History α) : Decidable (historyMachine.enabled i s) :=
  inferInstanceAs (Decidable (enabled i s.1))

/-- The packets sent. -/
def packets (c : PacedSender α) : List α := c.dispatched.filterMap PacingEvent.packet

/-- The limiter's own timers. -/
def timers (c : PacedSender α) : List TimeoutEvent := c.dispatched.filterMap PacingEvent.timer

/-- Its own timers that have not fired. -/
def unfired (s : PacedSender α × History α) : List TimeoutEvent := s.1.timers.filter fun t => t ∉ s.2.fired

/-- How many of its own timers have fired. -/
def firings (s : PacedSender α × History α) : Nat := (s.1.timers.filter fun t => t ∈ s.2.fired).length

/-! ### The invariant -/

section

variable {c : PacedSender α} {h : History α} {s : PacedSender α × History α} {p : α} {t : TimeoutEvent} {a : SocketId}

@[simp] theorem packets_dispatchPacket : (c.dispatchPacket a p).packets = c.packets ++ [p] := by
  simp [packets, dispatchPacket, PacingEvent.packet]

@[simp] theorem packets_setTimer : (c.setTimer a).packets = c.packets := by
  simp [packets, setTimer, PacingEvent.packet]

@[simp] theorem timers_dispatchPacket : (c.dispatchPacket a p).timers = c.timers := by
  simp [timers, dispatchPacket, PacingEvent.timer]

@[simp] theorem timers_setTimer : (c.setTimer a).timers = c.timers ++ [⟨c.next, a⟩] := by
  simp [timers, setTimer, PacingEvent.timer]

/-- What is sent and queued is what was submitted; the limiter may send exactly while none of its timers is running, and
then nothing is queued. -/
structure Paced (s : PacedSender α × History α) : Prop where
  order : s.1.packets ++ s.1.limiter.queue = s.2.submitted
  made : ∀ t ∈ s.2.fired, t.id < s.1.next
  known : ∀ t ∈ s.1.timers, t.id < s.1.next
  timed : s.1.timers.length = s.1.packets.length
  idle : s.1.limiter.canSend = true → s.1.limiter.waitingTimeout = none ∧ s.1.limiter.queue = [] ∧ unfired s = []
  busy : s.1.limiter.canSend = false → ∃ t, s.1.limiter.waitingTimeout = some t ∧ unfired s = [t]

theorem Paced.start : Paced (({}, {}) : PacedSender α × History α) :=
  ⟨rfl, by simp, by simp [timers], rfl, fun _ => ⟨rfl, rfl, rfl⟩, by simp⟩

/-- A timer that fires is no longer among the unfired ones. -/
theorem unfired_fired (c : PacedSender α) (h : History α) (t : TimeoutEvent) :
    unfired (c, { h with fired := t :: h.fired }) = (unfired (c, h)).filter fun u => u ≠ t := by
  unfold unfired
  rw [List.filter_filter]
  refine List.filter_congr fun u _ => ?_
  simp [List.mem_cons, not_or]

/-- A new timer has not fired. -/
theorem unfired_setTimer (hmade : ∀ t ∈ h.fired, t.id < c.next) :
    unfired (c.setTimer a, h) = unfired (c, h) ++ [⟨c.next, a⟩] := by
  have hnew : (⟨c.next, a⟩ : TimeoutEvent) ∉ h.fired := by
    intro hmem
    exact Nat.lt_irrefl _ (hmade _ hmem)
  simp [unfired, List.filter_append, hnew]

/-- A packet is sent and a timer started while no timer of the limiter is running. -/
theorem Paced.dispatch (horder : c.packets ++ p :: c.limiter.queue = h.submitted) (hmade : ∀ t ∈ h.fired, t.id < c.next)
    (hknown : ∀ t ∈ c.timers, t.id < c.next) (htimed : c.timers.length = c.packets.length)
    (hnone : unfired (c, h) = []) (hcan : c.limiter.canSend = false) (a : SocketId) :
    Paced ((c.dispatchPacket a p).setTimer a, h) := by
  refine ⟨?_, fun t ht => Nat.lt_succ_of_lt (hmade t ht), fun t ht => ?_, ?_, fun hc => ?_,
    fun _ => ⟨⟨c.next, a⟩, rfl, ?_⟩⟩
  · show ((c.dispatchPacket a p).setTimer a).packets ++ c.limiter.queue = h.submitted
    rw [packets_setTimer, packets_dispatchPacket, List.append_assoc]
    exact horder
  · replace ht : t ∈ ((c.dispatchPacket a p).setTimer a).timers := ht
    rw [timers_setTimer, timers_dispatchPacket] at ht
    rcases List.mem_append.1 ht with ht | ht
    · exact Nat.lt_succ_of_lt (hknown t ht)
    · rw [List.mem_singleton.1 ht]
      exact Nat.lt_succ_self c.next
  · show ((c.dispatchPacket a p).setTimer a).timers.length = ((c.dispatchPacket a p).setTimer a).packets.length
    rw [timers_setTimer, timers_dispatchPacket, packets_setTimer, packets_dispatchPacket, List.length_append,
      List.length_append, htimed]
    rfl
  · replace hc : c.limiter.canSend = true := hc
    rw [hcan] at hc
    cases hc
  · have hsame : unfired (c.dispatchPacket a p, h) = unfired (c, h) := by
      unfold unfired
      rw [timers_dispatchPacket]
    rw [unfired_setTimer (c := c.dispatchPacket a p) hmade, hsame, hnone]
    rfl

theorem Paced.sendPacket (hs : Paced (c, h)) (a : SocketId) (p : α) :
    Paced (c.stateSendPacket a p, { h with submitted := h.submitted ++ [p] }) := by
  unfold stateSendPacket
  have horder : c.packets ++ c.limiter.queue = h.submitted := hs.order
  by_cases hcan : c.limiter.canSend = true
  · obtain ⟨-, hqueue, hunfired⟩ := hs.idle hcan
    replace hqueue : c.limiter.queue = [] := hqueue
    rw [if_pos hcan]
    refine Paced.dispatch (c := { c with limiter := { c.limiter with canSend := false } })
      (h := { h with submitted := h.submitted ++ [p] }) ?_ hs.made hs.known hs.timed hunfired rfl a
    show c.packets ++ p :: c.limiter.queue = h.submitted ++ [p]
    rw [← horder, hqueue, List.append_nil]
  · rw [if_neg hcan]
    refine ⟨?_, hs.made, hs.known, hs.timed, fun hc => absurd hc hcan, hs.busy⟩
    show c.packets ++ (c.limiter.queue ++ [p]) = h.submitted ++ [p]
    rw [← horder, List.append_assoc]

theorem Paced.timerFired (hs : Paced (c, h)) (ht : t.id < c.next) :
    Paced (c.stateTimerFired t, { h with fired := t :: h.fired }) := by
  have hmade : ∀ u ∈ t :: h.fired, u.id < c.next := by
    intro u hu
    rcases List.mem_cons.1 hu with rfl | hu
    · exact ht
    · exact hs.made u hu
  have horder : c.packets ++ c.limiter.queue = h.submitted := hs.order
  unfold stateTimerFired
  by_cases hwait : c.limiter.waitingTimeout = some t
  · -- the timer is the one that the limiter waits for
    have hbusy : c.limiter.canSend = false := by
      by_contra hcan
      obtain ⟨hnone, -⟩ := hs.idle (by simpa using hcan)
      rw [hwait] at hnone
      cases hnone
    have hnone : unfired (c, { h with fired := t :: h.fired }) = [] := by
      obtain ⟨u, hu, hunfired⟩ := hs.busy hbusy
      rw [hwait] at hu
      cases hu
      rw [unfired_fired, hunfired]
      simp
    rw [if_pos hwait]
    cases hq : c.limiter.queue with
    | nil =>
      exact ⟨horder, hmade, hs.known, hs.timed, fun _ => ⟨rfl, hq, hnone⟩, fun hc => by cases hc⟩
    | cons p ps =>
      rw [hq] at horder
      exact Paced.dispatch (c := { c with limiter := { c.limiter with queue := ps } })
        (h := { h with fired := t :: h.fired }) horder hmade hs.known hs.timed hnone hbusy t.socket
  · -- a timer of another component, or one that has fired before
    rw [if_neg hwait]
    have hsame : unfired (c, { h with fired := t :: h.fired }) = unfired (c, h) := by
      rw [unfired_fired, List.filter_eq_self]
      intro u hu
      by_cases hcan : c.limiter.canSend = true
      · rw [(hs.idle hcan).2.2] at hu
        cases hu
      · obtain ⟨v, hv, hunfired⟩ := hs.busy (by simpa using hcan)
        rw [hunfired, List.mem_singleton] at hu
        rw [decide_eq_true_eq, hu]
        rintro rfl
        exact hwait hv
    refine ⟨horder, hmade, hs.known, hs.timed, fun hcan => ?_, fun hcan => ?_⟩
    · rw [hsame]
      exact hs.idle hcan
    · rw [hsame]
      exact hs.busy hcan

theorem Paced.step {s' : PacedSender α × History α} {i : Input α} (hs : Paced s) (hen : historyMachine.enabled i s)
    (hstep : historyMachine.step i s = .ok s') : Paced s' := by
  obtain ⟨c, h⟩ := s
  obtain ⟨c', h'⟩ := s'
  obtain ⟨hstep, hobs⟩ := Transition.Machine.observed_step.1 hstep
  replace hstep : PacedSender.step i c = .ok c' := hstep
  replace hobs : h' = observe c i c' h := hobs
  rw [hobs]
  cases i with
  | sendPacket a p =>
    cases hstep
    exact hs.sendPacket a p
  | timerFired t =>
    cases hstep
    exact hs.timerFired hen
  | setRate seconds nanos =>
    cases hstep
    exact ⟨hs.order, hs.made, hs.known, hs.timed, hs.idle, hs.busy⟩
  | otherTimer =>
    cases hstep
    exact ⟨hs.order, fun t ht => Nat.lt_succ_of_lt (hs.made t ht), fun t ht => Nat.lt_succ_of_lt (hs.known t ht),
      hs.timed, hs.idle, hs.busy⟩

theorem run_paced {is : List (Input α)} (hrun : historyMachine.Run Transition.anyStep ({}, {}) is s) : Paced s :=
  hrun.invariant Paced .start fun _ _ _ hs hen _ hstep => hs.step hen hstep

/-- Every timer started has fired, except for the one that is running. -/
theorem Paced.count (hs : Paced s) : s.1.packets.length = firings s + if s.1.limiter.canSend then 0 else 1 := by
  have hsplit : s.1.timers.length = firings s + (unfired s).length := by
    have h := List.length_eq_length_filter_add (l := s.1.timers) fun t => decide (t ∈ s.2.fired)
    simpa [firings, unfired] using h
  rw [← hs.timed, hsplit]
  cases hcan : s.1.limiter.canSend with
  | true => simp [(hs.idle hcan).2.2]
  | false =>
    obtain ⟨t, -, hunfired⟩ := hs.busy hcan
    simp [hunfired]

/-- The limiter waits exactly for the one timer of its own that has not fired. -/
theorem Paced.waits_iff (hs : Paced s) :
    s.1.limiter.canSend = false ↔ ∃ t, unfired s = [t] ∧ s.1.limiter.waitingTimeout = some t := by
  constructor
  · intro hcan
    obtain ⟨t, hwait, hunfired⟩ := hs.busy hcan
    exact ⟨t, hunfired, hwait⟩
  · rintro ⟨t, hunfired, -⟩
    by_contra hcan
    rw [(hs.idle (by simpa using hcan)).2.2] at hunfired
    cases hunfired

/-- Once the limiter's timers have fired as often as packets are queued, all of them are sent. -/
theorem Paced.drains (hs : Paced s) : ∃ (ts : List TimeoutEvent) (u : PacedSender α × History α),
    historyMachine.Run Transition.anyStep s (ts.map Input.timerFired) u ∧
      ts.length = s.1.limiter.queue.length ∧ u.1.packets = s.2.submitted := by
  obtain ⟨n, hn⟩ : ∃ n, s.1.limiter.queue.length = n := ⟨_, rfl⟩
  induction n generalizing s with
  | zero =>
    have horder := hs.order
    rw [List.length_eq_zero_iff.1 hn, List.append_nil] at horder
    exact ⟨[], s, .nil, hn.symm, horder⟩
  | succ n ih =>
    obtain ⟨c, h⟩ := s
    replace hn : c.limiter.queue.length = n + 1 := hn
    have hcan : c.limiter.canSend = false := by
      by_contra hcan
      obtain ⟨-, hqueue, -⟩ := hs.idle (by simpa using hcan)
      replace hqueue : c.limiter.queue = [] := hqueue
      rw [hqueue] at hn
      cases hn
    obtain ⟨t, hwait, hunfired⟩ := hs.busy hcan
    replace hwait : c.limiter.waitingTimeout = some t := hwait
    have hmem : t ∈ c.timers := by
      have hmem : t ∈ unfired (c, h) := by rw [hunfired]; exact List.mem_singleton_self t
      exact (List.mem_filter.1 hmem).1
    have hlt : t.id < c.next := hs.known t hmem
    have hrun : historyMachine.Run Transition.anyStep (c, h) [.timerFired t]
        (c.stateTimerFired t, { h with fired := t :: h.fired }) :=
      .snoc .nil hlt trivial (Transition.Machine.observed_step.2 ⟨rfl, rfl⟩)
    have hqueue : (c.stateTimerFired t).limiter.queue.length = n := by
      unfold stateTimerFired
      rw [if_pos hwait]
      cases hq : c.limiter.queue with
      | nil =>
        rw [hq] at hn
        cases hn
      | cons p ps =>
        rw [hq] at hn
        exact Nat.succ.inj hn
    obtain ⟨ts, u, hrest, hlength, hall⟩ := ih (hs.timerFired hlt) hqueue
    replace hlength : ts.length = (c.stateTimerFired t).limiter.queue.length := hlength
    refine ⟨t :: ts, u, hrun.trans hrest, ?_, hall⟩
    show ts.length + 1 = c.limiter.queue.length
    rw [hlength, hqueue, hn]

end

/-- Along every run: what is sent and queued is what was submitted, in order; each packet but the first is sent when a timer
of the limiter fires, and one at each firing; the limiter may not send exactly while it waits for the one timer of its own
that has not fired; it may not send while packets are queued; and these are all sent once its timers have fired as often as
there are packets. -/
theorem rate_limited {is : List (Input α)} {s : PacedSender α × History α}
    (h : historyMachine.Run Transition.anyStep ({}, {}) is s) :
    s.1.packets ++ s.1.limiter.queue = s.2.submitted ∧
      s.1.packets.length = firings s + (if s.1.limiter.canSend then 0 else 1) ∧
      (s.1.limiter.canSend = false ↔ ∃ t, unfired s = [t] ∧ s.1.limiter.waitingTimeout = some t) ∧
      (s.1.limiter.queue ≠ [] → s.1.limiter.canSend = false) ∧
      ∃ (ts : List TimeoutEvent) (u : PacedSender α × History α),
        historyMachine.Run Transition.anyStep s (ts.map Input.timerFired) u ∧
          ts.length = s.1.limiter.queue.length ∧ u.1.packets = s.2.submitted := by
  have hs := run_paced h
  refine ⟨hs.order, hs.count, hs.waits_iff, fun hqueue => ?_, hs.drains⟩
  by_contra hcan
  exact hqueue (hs.idle (by simpa using hcan)).2.1

/-- Three packets; another component's timer fires, and then the limiter's first one. -/
def threePackets : List (Input Nat) :=
  [.otherTimer, .sendPacket 1 7, .sendPacket 1 8, .setRate 0 5, .sendPacket 1 9, .timerFired ⟨0, 1⟩, .timerFired ⟨1, 1⟩]

theorem rate_limited_threePackets : ∃ s, historyMachine.Run Transition.anyStep ({}, {}) threePackets s ∧
    s.1.packets = [7, 8] ∧ s.1.packets ++ s.1.limiter.queue = s.2.submitted ∧ firings s = 1 ∧
    ∃ t, unfired s = [t] ∧ s.1.limiter.waitingTimeout = some t := by
  have h : (historyMachine.replay Transition.anyStep threePackets (({}, {}) : PacedSender Nat × History Nat)).any
      (fun s => decide (s.1.packets = [7, 8] ∧ s.1.limiter.canSend = false)) = true := by decide +kernel
  obtain ⟨s, hrun, hq⟩ := Transition.Machine.exists_run h
  obtain ⟨hpackets, hcan⟩ := of_decide_eq_true hq
  obtain ⟨horder, hcount, hwaits, -, -⟩ := rate_limited hrun
  rw [hpackets, hcan] at hcount
  exact ⟨s, hrun, hpackets, horder, (Nat.succ.inj hcount).symm, hwaits.1 hcan⟩

end PacedSender

end Wifu
