import Wifu.ReceivePosition
import Wifu.SendPosition

/-!
# Two endpoints and the network between them

What an endpoint has sent may be delivered to the other one at any time, in any order, any number of times or never, and
damaged packets may be delivered as well.  One direction of the connection is followed: the bytes that the application of
the sender hands over and those that the application of the receiver is handed.  The other direction carries data too,
and acknowledges.
-/

namespace Wifu

structure Connection where
  sender : Endpoint
  receiver : Endpoint

/-- A packet on its way, and how many bytes the receiver had received when it was sent. -/
structure Flight where
  packet : TCPPacket
  received : Nat

/-- What the two endpoints have sent. -/
structure Flights where
  segments : List Flight := []
  acks : List Flight := []

namespace Connection

/-- A step of one of the endpoints. -/
inductive Input
  | sender (i : Endpoint.Input)
  | receiver (i : Endpoint.Input)

/-- The network delivers what the peer has sent, or a damaged packet. -/
def carries (peer : Endpoint) : Endpoint.Input → Prop
  | .packet p => p.validChecksum = true → p ∈ sentPackets peer.dispatched
  | _ => True

instance (peer : Endpoint) : (i : Endpoint.Input) → Decidable (carries peer i)
  | .packet p => inferInstanceAs (Decidable (p.validChecksum = true → p ∈ sentPackets peer.dispatched))
  | .drain | .listen _ | .connect _ | .send _ | .receive _ | .close _ | .redeliver | .timerFired _ | .tick _ =>
    .isTrue trivial

def enabled : Input → Connection → Prop
  | .sender i, c => Endpoint.enabled i c.sender ∧ carries c.receiver i
  | .receiver i, c => Endpoint.enabled i c.receiver ∧ carries c.sender i

instance : (i : Input) → (c : Connection) → Decidable (enabled i c)
  | .sender i, c => inferInstanceAs (Decidable (Endpoint.enabled i c.sender ∧ carries c.receiver i))
  | .receiver i, c => inferInstanceAs (Decidable (Endpoint.enabled i c.receiver ∧ carries c.sender i))

def step : Input → Connection → Except Abort Connection
  | .sender i, c => do
    let e ← Endpoint.step i c.sender
    .ok { c with sender := e }
  | .receiver i, c => do
    let e ← Endpoint.step i c.receiver
    .ok { c with receiver := e }

/-- The machine of a connection. -/
def machine : Transition.Machine Connection Input Abort := ⟨enabled, step⟩

instance (i : Input) (c : Connection) : Decidable (machine.enabled i c) := inferInstanceAs (Decidable (enabled i c))

/-- The packets that an endpoint sends in a step. -/
def newFlights (n : Nat) (e e' : Endpoint) : List Flight :=
  ((sentPackets e'.dispatched).drop (sentPackets e.dispatched).length).map (⟨·, n⟩)

/-- Records what a step sends. -/
def observeFlights (c : Connection) (_ : Input) (c' : Connection) (h : Flights) : Flights where
  segments := h.segments ++ newFlights c'.receiver.receivedBytes.length c.sender c'.sender
  acks := h.acks ++ newFlights c'.receiver.receivedBytes.length c.receiver c'.receiver

/-- The machine of a connection with a record of what has been sent. -/
def flightMachine : Transition.Machine (Connection × Flights) Input Abort := machine.observed observeFlights

instance (i : Input) (s : Connection × Flights) : Decidable (flightMachine.enabled i s) :=
  inferInstanceAs (Decidable (enabled i s.1))

/-! ### The handshake -/

/-- The handshake is over as far as the direction from the sender goes: the sender's SYN has been acknowledged, the
receiver has processed it and acknowledges nothing else, and no bytes have been accepted or received. -/
structure Handshake (c : Connection) : Prop where
  initialized : c.sender.rc.initialized = true
  sndUna : c.sender.rc.snd.sndUna = iss + 1
  accepted : c.sender.accepted = []
  synchronized : c.receiver.Synchronized
  rcvNxt : c.receiver.rc.rcvNxt = iss + 1
  received : c.receiver.receivedBytes = []
  acks : ∀ p ∈ sentPackets c.receiver.dispatched, p.ack = true → p.ackNumber = iss + 1

theorem handshake_iff {c : Connection} : c.Handshake ↔ c.sender.rc.initialized = true ∧
    c.sender.rc.snd.sndUna = iss + 1 ∧ c.sender.accepted = [] ∧ c.receiver.Synchronized ∧
    c.receiver.rc.rcvNxt = iss + 1 ∧ c.receiver.receivedBytes = [] ∧
    ∀ p ∈ sentPackets c.receiver.dispatched, p.ack = true → p.ackNumber = iss + 1 :=
  ⟨fun h => ⟨h.initialized, h.sndUna, h.accepted, h.synchronized, h.rcvNxt, h.received, h.acks⟩,
    fun h => ⟨h.1, h.2.1, h.2.2.1, h.2.2.2.1, h.2.2.2.2.1, h.2.2.2.2.2.1, h.2.2.2.2.2.2⟩⟩

instance (c : Connection) : Decidable c.Handshake := decidable_of_iff' _ handshake_iff

/-- What has been sent in the handshake. -/
def firstFlights (c : Connection) : Flights where
  segments := (sentPackets c.sender.dispatched).map (⟨·, 0⟩)
  acks := (sentPackets c.receiver.dispatched).map (⟨·, 0⟩)

/-- The conditions on the steps of the handshake. -/
def opening (c : Connection) : Input → Prop
  | .sender i => Endpoint.sendCondition False c.sender i
  | .receiver i => Endpoint.synBeforeData c.receiver i

instance (c : Connection) : (i : Input) → Decidable (opening c i)
  | .sender i => inferInstanceAs (Decidable (Endpoint.sendCondition False c.sender i))
  | .receiver i => inferInstanceAs (Decidable (Endpoint.synBeforeData c.receiver i))

/-! ### The conditions on the network and on retransmissions -/

/-- Since the packet was sent the receiver, which has received `n` bytes, has not moved on by half the sequence space,
less twice the size of the send buffer. -/
def Fresh (n : Nat) (fs : List Flight) (p : TCPPacket) : Prop :=
  ∃ f ∈ fs, f.packet = p ∧ n + 2 * tcpSocketMaxBufferSize < f.received + 2147483648

instance (n : Nat) (fs : List Flight) (p : TCPPacket) : Decidable (Fresh n fs p) :=
  inferInstanceAs (Decidable (∃ f ∈ fs, _))

/-- The sender takes no byte of the application for a SYN or a FIN when it sends it again, the receiver does not process
another SYN, and the packets that they process are fresh. -/
def streamCondition (s : Connection × Flights) : Input → Prop
  | .sender i => Endpoint.sendCondition False s.1.sender i ∧
      ∀ p ∈ s.1.sender.delivered i, p.validChecksum = true → p.ack = true →
        Fresh s.1.receiver.receivedBytes.length s.2.acks p
  | .receiver i => ∀ p ∈ s.1.receiver.delivered i, s.1.receiver.accepts p = true →
      p.syn = false ∧ Fresh s.1.receiver.receivedBytes.length s.2.segments p

instance (s : Connection × Flights) : (i : Input) → Decidable (streamCondition s i)
  | .sender i => inferInstanceAs (Decidable (Endpoint.sendCondition False s.1.sender i ∧
      ∀ p ∈ s.1.sender.delivered i, p.validChecksum = true → p.ack = true →
        Fresh s.1.receiver.receivedBytes.length s.2.acks p))
  | .receiver i => inferInstanceAs (Decidable (∀ p ∈ s.1.receiver.delivered i, s.1.receiver.accepts p = true →
      p.syn = false ∧ Fresh s.1.receiver.receivedBytes.length s.2.segments p))

/-! ### What a step of one endpoint does -/

section

variable {s s' : Connection × Flights} {i : Endpoint.Input} {e e' : Endpoint} {n : Nat}

theorem newFlights_self (n : Nat) (e : Endpoint) : newFlights n e e = [] := by
  simp [newFlights]

/-- A step appends to what has been sent. -/
theorem newFlights_eq (hstep : Endpoint.step i e = .ok e') : ∃ d : List TCPPacket,
    sentPackets e'.dispatched = sentPackets e.dispatched ++ d ∧ newFlights n e e' = d.map (⟨·, n⟩) := by
  have hnew (d : List TCPPacket) (h : sentPackets e'.dispatched = sentPackets e.dispatched ++ d) :
      ∃ d : List TCPPacket, sentPackets e'.dispatched = sentPackets e.dispatched ++ d ∧
        newFlights n e e' = d.map (⟨·, n⟩) := by
    refine ⟨d, h, ?_⟩
    unfold newFlights
    rw [h, List.drop_left]
  rcases Endpoint.step_advertises hstep with h | ⟨q, h, -⟩
  · exact hnew [] (by rw [h, List.append_nil])
  · exact hnew [q] h

theorem sender_step (h : flightMachine.step (.sender i) s = .ok s') : ∃ e', Endpoint.step i s.1.sender = .ok e' ∧
    s'.1 = { s.1 with sender := e' } ∧ s'.2.acks = s.2.acks ∧
    s'.2.segments = s.2.segments ++ newFlights s.1.receiver.receivedBytes.length s.1.sender e' := by
  obtain ⟨hstep, hobs⟩ := Transition.Machine.observed_step.1 h
  obtain ⟨e', hstep, hok⟩ := bind_eq_ok.1 hstep
  have hs : s'.1 = { s.1 with sender := e' } := (Except.ok.inj hok).symm
  refine ⟨e', hstep, hs, ?_, ?_⟩
  · rw [hobs, hs]
    simp [observeFlights, newFlights_self]
  · rw [hobs, hs]
    rfl

theorem receiver_step (h : flightMachine.step (.receiver i) s = .ok s') : ∃ e', Endpoint.step i s.1.receiver = .ok e' ∧
    s'.1 = { s.1 with receiver := e' } ∧ s'.2.segments = s.2.segments ∧
    s'.2.acks = s.2.acks ++ newFlights e'.receivedBytes.length s.1.receiver e' := by
  obtain ⟨hstep, hobs⟩ := Transition.Machine.observed_step.1 h
  obtain ⟨e', hstep, hok⟩ := bind_eq_ok.1 hstep
  have hs : s'.1 = { s.1 with receiver := e' } := (Except.ok.inj hok).symm
  refine ⟨e', hstep, hs, ?_, ?_⟩
  · rw [hobs, hs]
    simp [observeFlights, newFlights_self]
  · rw [hobs, hs]
    rfl

end

end Connection

end Wifu
