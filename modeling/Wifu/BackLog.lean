import Wifu.Lib.Transition
import Wifu.Context

/-!
# Accepting connections (`TCPTahoe.cc`, `BackLog.cc`, `Listen.cc`, `SynReceived.cc`)

A listening socket and the connections that are made on it.  A SYN moves the container of the listening socket to the
socket made for the connection; the listening socket goes on with a new container, which shares the back log and gets a
copy of the saved `AcceptEvent`.  When the handshake is complete it is the copy of the connection's container that is
answered, so all is well as long as that copy is of a request that waits, and there is one whenever a request waits.
-/

namespace Wifu

/-! ### The model -/

/-- `BackLog`: the connections that wait to be accepted, the one to be returned next first. -/
structure BackLog where
  /-- `num_connections_`. -/
  capacity : Int
  connections : List SocketId := []
  deriving DecidableEq, Repr

namespace BackLog

/-- `push`; a full back log drops the connection. -/
def push (b : BackLog) (s : SocketId) : BackLog :=
  if (b.connections.length : Int) + 1 ≤ b.capacity then { b with connections := b.connections ++ [s] } else b

/-- `pop`; there is nothing at the front of an empty queue. -/
def pop (b : BackLog) : Option (SocketId × BackLog) :=
  match b.connections with
  | [] => none
  | s :: ss => some (s, { b with connections := ss })

end BackLog

/-- What a `TCPTahoeIContextContainer` has to do with accepting.  The requests are numbered as they come; all containers
have the back log of the listening socket. -/
structure AcceptContainer where
  state : ConnectionManagerState := .closed
  acceptSocket : SocketId := 0
  savedAcceptEvent : Option Nat := none
  deriving DecidableEq, Repr

/-- The protocol events of connections being made: the listening socket and the new one. -/
inductive ConnectionEvent
  | initiated (listening new : SocketId)
  | established (listening new : SocketId)
  deriving DecidableEq, Repr

/-- The connection whose handshake is complete. -/
def ConnectionEvent.completed : ConnectionEvent → Option SocketId
  | .initiated _ _ => none
  | .established _ s => some s

/-- The protocol, as far as the connections of one listening socket go. -/
structure Listener where
  /-- `map_`. -/
  map : SocketId → Option AcceptContainer
  backLog : BackLog
  /-- The protocol events that wait, the next one first. -/
  queue : List ConnectionEvent := []
  nextSocket : SocketId := 2
  /-- How many `AcceptEvent`s have come. -/
  accepts : Nat := 0
  /-- The connections whose handshake is complete, the first one first. -/
  established : List SocketId := []
  /-- The responses dispatched: which request got which connection. -/
  answers : List (Nat × SocketId) := []

/-- How accepting fails. -/
inductive AcceptAbort
  /-- `front()` and `pop()` on an empty queue. -/
  | emptyBackLog
  deriving DecidableEq, Repr

namespace Listener

/-- The socket that listens. -/
def listening : SocketId := 1

/-- The socket has just been told to listen, with a back log of this size. -/
def listen (capacity : Int) : Listener :=
  { map := Function.update (fun _ => none) listening (some { state := .listen }), backLog := { capacity := capacity } }

/-- `set_saved_accept_event` and the like, on the container of a socket. -/
def setContainer (l : Listener) (s : SocketId) (c : AcceptContainer) : Listener :=
  { l with map := Function.update l.map s (some c) }

/-- `send_accept_response`. -/
def sendAcceptResponse (l : Listener) (e : Nat) : Except AcceptAbort Listener :=
  match l.backLog.pop with
  | none => .error .emptyBackLog
  | some (s, b) => .ok { l with backLog := b, answers := l.answers ++ [(e, s)] }

/-- `icontext_accept` of the next request on the listening socket. -/
def accept (l : Listener) : Except AcceptAbort Listener :=
  match l.map listening with
  | none => .ok l
  | some c =>
    let e := l.accepts
    let l := { l with accepts := l.accepts + 1 }
    if l.backLog.connections ≠ [] then l.sendAcceptResponse e
    else .ok (l.setContainer listening { c with savedAcceptEvent := some e })

/-- `Listen::process_syn`. -/
def processSyn (l : Listener) (s : SocketId) (c : AcceptContainer) : Listener :=
  let l := { l with nextSocket := l.nextSocket + 1, queue := l.queue ++ [ConnectionEvent.initiated s l.nextSocket] }
  l.setContainer s { c with acceptSocket := s, state := .synReceived }

/-- `SynReceived::state_receive_packet` of an ACK. -/
def establish (l : Listener) (s : SocketId) (c : AcceptContainer) : Listener :=
  let l := { l with
    queue := l.queue ++ [ConnectionEvent.established c.acceptSocket s]
    established := l.established ++ [s] }
  l.setContainer s { c with state := .established }

/-- `state_receive_packet` of a socket's connection manager; from then on its states have nothing to do with accepting. -/
def receivePacket (l : Listener) (s : SocketId) (p : TCPPacket) : Listener :=
  match l.map s with
  | none => l
  | some c =>
    match c.state with
    | .listen => if p.syn then l.processSyn s c else l
    | .synReceived => if p.ack then l.establish s c else l
    | _ => l

/-- `icontext_new_connection_initiated`. -/
def newConnectionInitiated (l : Listener) (listening new : SocketId) : Listener :=
  match l.map listening with
  | none => l
  | some c =>
    let l := l.setContainer new c
    -- `state_new_connection_initiated` of the new container's `Closed` state
    l.setContainer listening { state := .listen, savedAcceptEvent := c.savedAcceptEvent }

/-- `icontext_new_connection_established`. -/
def newConnectionEstablished (l : Listener) (new : SocketId) : Except AcceptAbort Listener :=
  match l.map new with
  | none => .ok l
  | some c =>
    let l := { l with backLog := l.backLog.push new }
    match c.savedAcceptEvent with
    | none => .ok l
    | some e => do
      let l ← l.sendAcceptResponse e
      return l.setContainer new { c with savedAcceptEvent := none }

/-- The next waiting protocol event. -/
def drain (l : Listener) : Except AcceptAbort Listener :=
  match l.queue with
  | [] => .ok l
  | .initiated listening new :: vs => .ok ({ l with queue := vs }.newConnectionInitiated listening new)
  | .established _ new :: vs => { l with queue := vs }.newConnectionEstablished new

inductive Input
  /-- An `AcceptEvent` on the listening socket. -/
  | accept
  /-- A packet that reaches the connection manager of a socket. -/
  | packet (s : SocketId) (p : TCPPacket)
  | drain
  deriving DecidableEq

def step (i : Input) (l : Listener) : Except AcceptAbort Listener :=
  match i with
  | .accept => l.accept
  | .packet s p => .ok (l.receivePacket s p)
  | .drain => l.drain

/-- Events of low priority wait until no protocol event does. -/
def enabled : Input → Listener → Prop
  | .drain, l => l.queue ≠ []
  | .accept, l | .packet _ _, l => l.queue = []

instance : (i : Input) → (l : Listener) → Decidable (enabled i l)
  | .drain, l => inferInstanceAs (Decidable (l.queue ≠ []))
  | .accept, l | .packet _ _, l => inferInstanceAs (Decidable (l.queue = []))

/-- The machine whose runs are the runs of a listening socket. -/
def machine : Transition.Machine Listener Input AcceptAbort := ⟨enabled, step⟩

instance (i : Input) (l : Listener) : Decidable (machine.enabled i l) := inferInstanceAs (Decidable (enabled i l))

/-! ### Requests and connections -/

/-- A request has come and has not been answered. -/
def Waits (l : Listener) (a : Nat) : Prop := a < l.accepts ∧ a ∉ l.answers.map Prod.fst

instance (l : Listener) (a : Nat) : Decidable (l.Waits a) := inferInstanceAs (Decidable (_ ∧ _))

/-- A connection is established and has not been returned. -/
def Unreturned (l : Listener) (s : SocketId) : Prop := s ∈ l.established ∧ s ∉ l.answers.map Prod.snd

/-- Requests and connections are matched one to one: no request is answered twice, no connection returned twice, the
connections are returned in order, and no request waits while there is a connection for it. -/
structure Matched (l : Listener) : Prop where
  asked : ∀ x ∈ l.answers, x.1 < l.accepts
  answeredOnce : (l.answers.map Prod.fst).Nodup
  returnedOnce : (l.answers.map Prod.snd).Nodup
  inOrder : l.answers.map Prod.snd <+: l.established
  answered : l.queue = [] → ∀ a s, l.Waits a → ¬l.Unreturned s

/-- The container has saved a request that waits; or no request, and none waits. -/
def SavedWaits (l : Listener) (c : AcceptContainer) : Prop :=
  (∀ a ∈ c.savedAcceptEvent, l.Waits a) ∧ (c.savedAcceptEvent = none → ∀ a < l.accepts, ¬l.Waits a)

instance (l : Listener) (c : AcceptContainer) : Decidable (l.SavedWaits c) := inferInstanceAs (Decidable (_ ∧ _))

/-- A connection that is established finds room in the back log, and its container has saved a request that waits; or
no request, and none waits. -/
def MatchesSaved (l : Listener) (i : Input) : Prop :=
  i = .drain → ∀ s ∈ l.queue.head?.bind ConnectionEvent.completed,
    (l.backLog.connections.length : Int) + 1 ≤ l.backLog.capacity ∧ ∀ c ∈ l.map s, l.SavedWaits c

instance (l : Listener) (i : Input) : Decidable (l.MatchesSaved i) :=
  inferInstanceAs (Decidable (i = .drain → ∀ s ∈ l.queue.head?.bind ConnectionEvent.completed,
    (l.backLog.connections.length : Int) + 1 ≤ l.backLog.capacity ∧ ∀ c ∈ l.map s, l.SavedWaits c))

/-! ### What a step keeps -/

/-- The new connection that an event puts in the back log. -/
def completions (q : List ConnectionEvent) : List SocketId := q.filterMap ConnectionEvent.completed

/-- Every connection is returned, waits in the back log or waits for it, in order; only connections on their way have
containers that may complete one. -/
structure Accounted (l : Listener) : Prop where
  asked : ∀ x ∈ l.answers, x.1 < l.accepts
  answeredOnce : (l.answers.map Prod.fst).Nodup
  account : l.answers.map Prod.snd ++ l.backLog.connections ++ completions l.queue = l.established
  nodup : l.established.Nodup
  made : ∀ s ∈ l.established, s < l.nextSocket
  mapped : ∀ s c, l.map s = some c → s < l.nextSocket
  opening : ∀ s c, l.map s = some c → c.state = .listen ∨ c.state = .synReceived → s ∉ l.established
  initiated : ∀ s n, .initiated s n ∈ l.queue → s ∉ l.established ∧ n ∉ l.established ∧ n < l.nextSocket
  present : ∀ r s, .established r s ∈ l.queue → l.map s ≠ none

/-- What holds along the runs that keep to `MatchesSaved`: no request waits beside a connection in the back log. -/
structure Balanced (l : Listener) : Prop extends Accounted l where
  idle : ∀ a, l.Waits a → l.backLog.connections = []

section

variable {l l' : Listener} {a : Nat} {s new : SocketId} {c : AcceptContainer} {p : TCPPacket}

theorem Balanced.matched (h : l.Balanced) : l.Matched := by
  have hnodup := h.nodup
  rw [← h.account, List.append_assoc] at hnodup
  refine ⟨h.asked, h.answeredOnce, hnodup.of_append_left, ?_, fun hq a s ha hs => ?_⟩
  · rw [← h.account, List.append_assoc]
    exact List.prefix_append _ _
  · -- with no event waiting, all connections are returned or in the back log, which is empty
    obtain ⟨hs, hnot⟩ := hs
    rw [← h.account, hq, h.idle a ha, List.append_nil] at hs
    exact hnot (by simpa [completions] using hs)

theorem Balanced.listen (capacity : Int) : (Listener.listen capacity).Balanced := by
  refine ⟨⟨fun x hx => ?_, List.nodup_nil, rfl, List.nodup_nil, fun s hs => ?_, fun s c hc => ?_,
    fun _ _ _ _ hs => ?_, fun s n hv => ?_, fun r s hv => ?_⟩, fun _ _ => rfl⟩
  · cases hx
  · cases hs
  · by_cases hs : s = listening
    · rw [hs]
      exact Nat.lt_succ_self 1
    · have hc : Function.update (fun _ => none) listening (some { state := .listen }) s = some c := hc
      rw [Function.update_of_ne hs] at hc
      cases hc
  · cases hs
  · cases hv
  · cases hv

theorem setContainer_map_self (l : Listener) (s : SocketId) (c : AcceptContainer) :
    (l.setContainer s c).map s = some c := Function.update_self _ _ _

theorem setContainer_map_of_ne (l : Listener) {s r : SocketId} (c : AcceptContainer) (h : r ≠ s) :
    (l.setContainer s c).map r = l.map r := Function.update_of_ne h _ _

/-- A container that may still complete a connection goes only where none is complete. -/
theorem Accounted.setContainer (h : l.Accounted) (hs : s < l.nextSocket)
    (hc : c.state = .listen ∨ c.state = .synReceived → s ∉ l.established) : (l.setContainer s c).Accounted := by
  refine ⟨h.asked, h.answeredOnce, h.account, h.nodup, h.made, fun r d hr => ?_, fun r d hr hd => ?_, h.initiated,
    fun t r hv => ?_⟩
  · by_cases hrs : r = s
    · rw [hrs]
      exact hs
    · rw [setContainer_map_of_ne l c hrs] at hr
      exact h.mapped r d hr
  · by_cases hrs : r = s
    · subst hrs
      rw [setContainer_map_self, Option.some.injEq] at hr
      subst hr
      exact hc hd
    · rw [setContainer_map_of_ne l c hrs] at hr
      exact h.opening r d hr hd
  · by_cases hrs : r = s
    · rw [hrs, setContainer_map_self]
      exact Option.some_ne_none c
    · rw [setContainer_map_of_ne l c hrs]
      exact h.present t r hv

theorem Balanced.setContainer (h : l.Balanced) (hs : s < l.nextSocket)
    (hc : c.state = .listen ∨ c.state = .synReceived → s ∉ l.established) : (l.setContainer s c).Balanced :=
  ⟨h.toAccounted.setContainer hs hc, h.idle⟩

/-- The connection at the front of the back log is returned to a request that waits. -/
theorem Accounted.sendAcceptResponse {ss : List SocketId} (h : l.Accounted) (hb : l.backLog.connections = s :: ss)
    (ha : l.Waits a) (hidle : ∀ b, l.Waits b → b ≠ a → ss = []) :
    ∃ l', l.sendAcceptResponse a = .ok l' ∧ l'.Balanced ∧ l'.map = l.map ∧ l'.established = l.established := by
  have hpop : l.sendAcceptResponse a =
      .ok { l with backLog := { l.backLog with connections := ss }, answers := l.answers ++ [(a, s)] } := by
    unfold Listener.sendAcceptResponse BackLog.pop
    rw [hb]
  refine ⟨_, hpop, ⟨⟨?_, ?_, ?_, h.nodup, h.made, h.mapped, h.opening, h.initiated, h.present⟩, ?_⟩, rfl, rfl⟩
  · intro x hx
    rcases List.mem_append.1 hx with hx | hx
    · exact h.asked x hx
    · rw [List.mem_singleton.1 hx]
      exact ha.1
  · show ((l.answers ++ [(a, s)]).map Prod.fst).Nodup
    rw [List.map_append]
    refine List.Nodup.append h.answeredOnce (List.nodup_singleton a) fun x hx hxa => ?_
    rw [List.mem_singleton.1 hxa] at hx
    exact ha.2 hx
  · show (l.answers ++ [(a, s)]).map Prod.snd ++ ss ++ completions l.queue = l.established
    rw [← h.account, hb, List.map_append]
    simp
  · rintro b ⟨hb, hnot⟩
    change b ∉ (l.answers ++ [(a, s)]).map Prod.fst at hnot
    rw [List.map_append, List.mem_append, not_or] at hnot
    exact hidle b ⟨hb, hnot.1⟩ fun hba => hnot.2 (List.mem_singleton.2 hba)

/-- An `AcceptEvent` gets the next connection, or is saved when there is none. -/
theorem Balanced.accept (h : l.Balanced) : ∃ l', l.accept = .ok l' ∧ l'.Balanced := by
  unfold Listener.accept
  cases hc : l.map listening with
  | none => exact ⟨l, rfl, h⟩
  | some c =>
    simp only
    have hasked (x : Nat × SocketId) (hx : x ∈ l.answers) : x.1 < l.accepts + 1 := Nat.lt_succ_of_lt (h.asked x hx)
    have hnew : l.accepts ∉ l.answers.map Prod.fst := fun hmem => by
      obtain ⟨x, hx, heq⟩ := List.mem_map.1 hmem
      exact absurd (h.asked x hx) (by omega)
    have hnext : ({ l with accepts := l.accepts + 1 } : Listener).Accounted :=
      ⟨hasked, h.answeredOnce, h.account, h.nodup, h.made, h.mapped, h.opening, h.initiated, h.present⟩
    have hwaits {b : Nat} (hb : ({ l with accepts := l.accepts + 1 } : Listener).Waits b) (hne : b ≠ l.accepts) :
        l.Waits b := ⟨by have := hb.1; simp only at this; omega, hb.2⟩
    by_cases hempty : l.backLog.connections = []
    · rw [if_neg (not_not.2 hempty)]
      exact ⟨_, rfl, Balanced.setContainer ⟨hnext, fun _ _ => hempty⟩ (h.mapped listening c hc) (h.opening listening c hc)⟩
    · rw [if_pos hempty]
      obtain ⟨s, ss, hb⟩ := List.exists_cons_of_ne_nil hempty
      obtain ⟨l', hok, hl', -⟩ := hnext.sendAcceptResponse hb ⟨Nat.lt_succ_self _, hnew⟩
        fun b hb hne => absurd (h.idle b (hwaits hb hne)) hempty
      exact ⟨l', hok, hl'⟩

/-- A SYN moves the handshake on, and the new connection waits for its container. -/
theorem Balanced.processSyn (h : l.Balanced) (hq : l.queue = []) (hc : l.map s = some c) (hs : s ∉ l.established) :
    (l.processSyn s c).Balanced := by
  have hlt := h.mapped s c hc
  refine Balanced.setContainer ⟨⟨h.asked, h.answeredOnce, ?_, h.nodup, fun r hr => ?_, fun r d hr => ?_, h.opening,
    fun r n hv => ?_, fun t r hv => ?_⟩, h.idle⟩ (Nat.lt_succ_of_lt hlt) fun _ => hs
  · have haccount := h.account
    rw [hq] at haccount
    show _ ++ _ ++ completions (l.queue ++ [_]) = _
    rw [hq]
    exact haccount
  · exact Nat.lt_succ_of_lt (h.made r hr)
  · exact Nat.lt_succ_of_lt (h.mapped r d hr)
  · change .initiated r n ∈ l.queue ++ [ConnectionEvent.initiated s l.nextSocket] at hv
    rw [hq, List.nil_append, List.mem_singleton] at hv
    cases hv
    exact ⟨hs, fun hmem => absurd (h.made _ hmem) (lt_irrefl _), Nat.lt_succ_self _⟩
  · change .established t r ∈ l.queue ++ [ConnectionEvent.initiated s l.nextSocket] at hv
    rw [hq, List.nil_append, List.mem_singleton] at hv
    cases hv

/-- A complete connection waits for its place in the back log. -/
theorem Balanced.establish (h : l.Balanced) (hq : l.queue = []) (hc : l.map s = some c) (hs : s ∉ l.established) :
    (l.establish s c).Balanced := by
  have hmap (r : SocketId) (d : AcceptContainer) (hr : (l.establish s c).map r = some d) :
      r = s ∧ d.state = .established ∨ r ≠ s ∧ l.map r = some d := by
    by_cases hrs : r = s
    · subst hrs
      have hr : (Listener.setContainer _ r { c with state := .established }).map r = some d := hr
      rw [setContainer_map_self, Option.some.injEq] at hr
      exact .inl ⟨rfl, by rw [← hr]⟩
    · have hr : (Listener.setContainer _ s { c with state := .established }).map r = some d := hr
      rw [setContainer_map_of_ne _ _ hrs] at hr
      exact .inr ⟨hrs, hr⟩
  refine ⟨⟨h.asked, h.answeredOnce, ?_, ?_, fun r hr => ?_, fun r d hr => ?_, fun r d hr hd hmem => ?_,
    fun r n hv => ?_, fun t r hv => ?_⟩, h.idle⟩
  · have haccount := h.account
    rw [hq] at haccount
    show l.answers.map Prod.snd ++ l.backLog.connections ++ completions (l.queue ++ [_]) = l.established ++ [s]
    rw [hq, ← haccount]
    simp [completions, ConnectionEvent.completed]
  · refine List.Nodup.append h.nodup (List.nodup_singleton s) fun r hr hrs => hs ?_
    rw [List.mem_singleton] at hrs
    exact hrs ▸ hr
  · rcases List.mem_append.1 hr with hr | hr
    · exact h.made r hr
    · rw [List.mem_singleton.1 hr]
      exact h.mapped s c hc
  · rcases hmap r d hr with ⟨rfl, -⟩ | ⟨-, hr⟩
    · exact h.mapped r c hc
    · exact h.mapped r d hr
  · rcases hmap r d hr with ⟨rfl, hstate⟩ | ⟨hne, hr⟩
    · rw [hstate] at hd
      rcases hd with hd | hd <;> cases hd
    · rcases List.mem_append.1 hmem with hmem | hmem
      · exact h.opening r d hr hd hmem
      · exact hne (List.mem_singleton.1 hmem)
  · change .initiated r n ∈ l.queue ++ [ConnectionEvent.established c.acceptSocket s] at hv
    rw [hq, List.nil_append, List.mem_singleton] at hv
    cases hv
  · change .established t r ∈ l.queue ++ [ConnectionEvent.established c.acceptSocket s] at hv
    rw [hq, List.nil_append, List.mem_singleton] at hv
    cases hv
    show (Listener.setContainer _ s { c with state := .established }).map s ≠ none
    rw [setContainer_map_self]
    exact Option.some_ne_none _

/-- A packet starts a handshake, or completes one. -/
theorem Balanced.receivePacket (h : l.Balanced) (hq : l.queue = []) (s : SocketId) (p : TCPPacket) :
    (l.receivePacket s p).Balanced := by
  unfold Listener.receivePacket
  cases hc : l.map s with
  | none => exact h
  | some c =>
    simp only
    split
    · rename_i hstate
      split
      · exact h.processSyn hq hc (h.opening s c hc (.inl hstate))
      · exact h
    · rename_i hstate
      split
      · exact h.establish hq hc (h.opening s c hc (.inr hstate))
      · exact h
    · exact h

/-- The container moves to the new connection, and the listening socket gets another one. -/
theorem Balanced.newConnectionInitiated (h : l.Balanced) (hs : s ∉ l.established) (hnew : new ∉ l.established)
    (hlt : new < l.nextSocket) : (l.newConnectionInitiated s new).Balanced := by
  unfold Listener.newConnectionInitiated
  split
  · exact h
  · rename_i c hc
    exact (h.setContainer hlt fun _ => hnew).setContainer (h.mapped s c hc) fun _ => hs

/-- The connection goes through the back log to the request that its container has saved, or waits there. -/
theorem Balanced.newConnectionEstablished {vs : List ConnectionEvent} {r : SocketId} (h : l.Balanced)
    (hq : l.queue = .established r s :: vs) (hroom : (l.backLog.connections.length : Int) + 1 ≤ l.backLog.capacity)
    (hsaved : ∀ c ∈ l.map s, l.SavedWaits c) (hc : l.map s = some c) :
    ∃ l', ({ l with queue := vs } : Listener).newConnectionEstablished s = .ok l' ∧ l'.Balanced := by
  obtain ⟨hsome, hnone⟩ := hsaved c hc
  have hpush : l.backLog.push s = { l.backLog with connections := l.backLog.connections ++ [s] } := if_pos hroom
  have hpushed : ({ l with queue := vs, backLog := l.backLog.push s } : Listener).Accounted := by
    refine ⟨h.asked, h.answeredOnce, ?_, h.nodup, h.made, h.mapped, h.opening, fun t n hv => ?_, fun t n hv => ?_⟩
    · have haccount := h.account
      rw [hq] at haccount
      rw [hpush, ← haccount]
      simp [completions, ConnectionEvent.completed]
    · exact h.initiated t n (by rw [hq]; exact List.mem_cons_of_mem _ hv)
    · exact h.present t n (by rw [hq]; exact List.mem_cons_of_mem _ hv)
  unfold Listener.newConnectionEstablished
  simp only [hc]
  cases hsave : c.savedAcceptEvent with
  | none =>
    refine ⟨_, rfl, hpushed, fun a ha => absurd ha (hnone hsave a ha.1)⟩
  | some a =>
    have ha : l.Waits a := hsome a hsave
    -- a request waits, so the connection is the only one in the back log
    have hconnections : (l.backLog.push s).connections = [s] := by
      rw [hpush, h.idle a ha, List.nil_append]
    obtain ⟨l', hok, hl', hmap, hestablished⟩ := hpushed.sendAcceptResponse hconnections ha fun _ _ _ => rfl
    simp only [hok]
    refine ⟨_, rfl, hl'.setContainer (hl'.mapped s c (by rw [hmap]; exact hc)) fun hstate => ?_⟩
    rw [hestablished]
    exact h.opening s c hc hstate

theorem Balanced.drain (h : l.Balanced) (hc : l.MatchesSaved .drain) : ∃ l', l.drain = .ok l' ∧ l'.Balanced := by
  unfold Listener.drain
  split
  · exact ⟨l, rfl, h⟩
  · rename_i s n vs hq
    obtain ⟨hs, hn, hlt⟩ := h.initiated s n (by rw [hq]; exact List.mem_cons_self)
    have hpop : ({ l with queue := vs } : Listener).Balanced := by
      refine ⟨⟨h.asked, h.answeredOnce, ?_, h.nodup, h.made, h.mapped, h.opening, fun r m hv => ?_,
        fun r m hv => ?_⟩, h.idle⟩
      · have haccount := h.account
        rw [hq] at haccount
        exact haccount
      · exact h.initiated r m (by rw [hq]; exact List.mem_cons_of_mem _ hv)
      · exact h.present r m (by rw [hq]; exact List.mem_cons_of_mem _ hv)
    exact ⟨_, rfl, hpop.newConnectionInitiated hs hn hlt⟩
  · rename_i r s vs hq
    obtain ⟨hroom, hsaved⟩ := hc rfl s (by rw [hq]; rfl)
    obtain ⟨c, hs⟩ := Option.ne_none_iff_exists'.1 (h.present r s (by rw [hq]; exact List.mem_cons_self))
    exact h.newConnectionEstablished hq hroom hsaved hs

theorem Balanced.step {i : Input} (h : l.Balanced) (hen : enabled i l) (hc : l.MatchesSaved i) :
    ∃ l', Listener.step i l = .ok l' ∧ l'.Balanced := by
  cases i with
  | accept => exact h.accept
  | packet s p => exact ⟨_, rfl, h.receivePacket hen s p⟩
  | drain => exact h.drain hc

/-- Along every run the accounts balance. -/
theorem run_balanced {capacity : Int} {is : List Input}
    (hrun : machine.Run MatchesSaved (Listener.listen capacity) is l) : l.Balanced := by
  refine hrun.invariant Balanced (.listen capacity) fun t i u ht hen hc hstep => ?_
  obtain ⟨u', hu', hb⟩ := ht.step hen hc
  have hstep : Listener.step i t = .ok u := hstep
  rw [hu', Except.ok.injEq] at hstep
  exact hstep ▸ hb

end

/-- A packet from the peer with these two bits. -/
def peerPacket (syn ack : Bool) : TCPPacket := { TCPPacket.new ⟨1, 1⟩ ⟨2, 2⟩ [] with syn := syn, ack := ack }

/-- The SYN that starts the handshake of the connection `s`, and the ACK that completes it. -/
def syn : List Input := [.packet listening (peerPacket true false), .drain]

def ack (s : SocketId) : List Input := [.packet s (peerPacket false true), .drain]

/-- A connection waits for its request; then two requests wait for connections, the second of them coming in the middle
of the first one's handshake. -/
def threeConnections : List Input := syn ++ ack 2 ++ [.accept, .accept] ++ syn ++ .accept :: ack 3 ++ syn ++ ack 4

end Listener

end Wifu
