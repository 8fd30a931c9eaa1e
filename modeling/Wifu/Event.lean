import Wifu.Packet

/-!
# Events

The events a protocol handles.  Protocol events have the high priority and wait in the protocol's queue; requests of
the library, packets from the network and timers that fired have the low priority.  A request carries a number that
tells it from the others; a response names the request it answers.
-/

namespace Wifu

/-- Names a `Socket` object: its pointer, with 0 for the null pointer. -/
abbrev SocketId := Nat

structure ListenEvent where
  request : Nat
  backLog : Int
  deriving DecidableEq, Repr

structure ConnectEvent where
  request : Nat
  address : AddressPort
  /-- The local address `SourceGetter` returns for the destination. -/
  localAddress : BitVec 32
  deriving DecidableEq, Repr

structure AcceptEvent where
  request : Nat
  deriving DecidableEq, Repr

structure SendEvent where
  request : Nat
  data : List UInt8
  deriving DecidableEq, Repr

structure ReceiveEvent where
  request : Nat
  dataLength : Nat
  deriving DecidableEq, Repr

structure CloseEvent where
  request : Nat
  deriving DecidableEq, Repr

/-- A timer, known by its number; it fires on its socket. -/
structure TimeoutEvent where
  id : Nat
  socket : SocketId
  deriving DecidableEq, Repr

inductive ResendReason
  | timeout
  | threeDuplicateAcks
  deriving DecidableEq, Repr

/-- What a protocol event asks for. -/
inductive ProtocolEventKind
  | sendPacket (p : TCPPacket)
  | resendPacket (reason : ResendReason)
  | sendBufferNotEmpty
  | sendBufferNotFull
  | receiveBufferNotEmpty
  | receiveBufferNotFull
  | connectionInitiated (newSocket : SocketId) (localAddress remoteAddress : AddressPort) (listen : Option ListenEvent)
  | connectionEstablished (newSocket : SocketId)
  | deleteSocket
  deriving DecidableEq

/-- A protocol event and the socket it is about. -/
structure ProtocolEvent where
  socket : SocketId
  kind : ProtocolEventKind
  deriving DecidableEq

/-- The event moves a new connection to its socket. -/
def ProtocolEvent.isInitiation (v : ProtocolEvent) : Bool :=
  match v.kind with
  | .connectionInitiated _ _ _ _ => true
  | _ => false

/-- The new connections waiting in a queue for their socket. -/
def initiations (q : List ProtocolEvent) : List ProtocolEvent := q.filter ProtocolEvent.isInitiation

theorem initiations_append_other {q : List ProtocolEvent} {v : ProtocolEvent} (hv : v.isInitiation = false) :
    initiations (q ++ [v]) = initiations q := by
  simp [initiations, hv]

/-- What a protocol hands to the dispatcher. -/
inductive FrameworkEvent
  | networkSendPacket (p : TCPPacket)
  | connectResponse (e : ConnectEvent)
  | sendResponse (e : SendEvent) (returnValue : Nat)
  | receiveResponse (e : ReceiveEvent) (data : List UInt8) (address : AddressPort)
  | closeResponse (e : CloseEvent)
  | preclose (s : SocketId)
  | timeout (t : TimeoutEvent)
  | cancelTimer (t : Option TimeoutEvent)
  | networkReceivePacket (p : TCPPacket)
  deriving DecidableEq

/-! ### What has been dispatched -/

namespace FrameworkEvent

/-- The bytes that a response counts as accepted from the application. -/
def accepted : FrameworkEvent → List UInt8
  | .sendResponse s n => s.data.take n
  | _ => []

/-- The segment that an event sends. -/
def sent : FrameworkEvent → Option TCPPacket
  | .networkSendPacket p => some p
  | _ => none

/-- The bytes that a response hands to the application. -/
def handed : FrameworkEvent → List UInt8
  | .receiveResponse _ data _ => data
  | _ => []

/-- The event sends a segment, accepts bytes or hands bytes over. -/
def isTransfer : FrameworkEvent → Bool
  | .networkSendPacket _ | .sendResponse _ _ | .receiveResponse _ _ _ => true
  | _ => false

end FrameworkEvent

/-- The bytes accepted from the application: those counted in the return values of its requests. -/
def acceptedBytes (d : List FrameworkEvent) : List UInt8 := d.flatMap FrameworkEvent.accepted

/-- The segments sent. -/
def sentPackets (d : List FrameworkEvent) : List TCPPacket := d.filterMap FrameworkEvent.sent

/-- The bytes handed to the application. -/
def handedBytes (d : List FrameworkEvent) : List UInt8 := d.flatMap FrameworkEvent.handed

/-- The events that transfer something. -/
def transfers (d : List FrameworkEvent) : List FrameworkEvent := d.filter FrameworkEvent.isTransfer

/-- A FIN has been sent. -/
def finSent (d : List FrameworkEvent) : Bool := (sentPackets d).any TCPPacket.fin

section Log

variable {d d' : List FrameworkEvent}

@[simp] theorem acceptedBytes_append : acceptedBytes (d ++ d') = acceptedBytes d ++ acceptedBytes d' := by
  simp [acceptedBytes]

@[simp] theorem sentPackets_append : sentPackets (d ++ d') = sentPackets d ++ sentPackets d' := by
  simp [sentPackets]

@[simp] theorem handedBytes_append : handedBytes (d ++ d') = handedBytes d ++ handedBytes d' := by
  simp [handedBytes]

theorem transfers_append_other {f : FrameworkEvent} (hf : f.isTransfer = false) :
    transfers (d ++ [f]) = transfers d := by
  simp [transfers, hf]

theorem sentPackets_transfers (d : List FrameworkEvent) : sentPackets (transfers d) = sentPackets d := by
  unfold sentPackets transfers
  rw [List.filterMap_filter]
  congr 1
  funext f
  cases f <;> rfl

theorem handedBytes_transfers (d : List FrameworkEvent) : handedBytes (transfers d) = handedBytes d := by
  unfold handedBytes transfers
  induction d with
  | nil => rfl
  | cons f d ih => cases f <;> simp [List.filter_cons, FrameworkEvent.isTransfer, FrameworkEvent.handed, ih]

theorem sentPackets_congr (h : transfers d' = transfers d) : sentPackets d' = sentPackets d := by
  rw [← sentPackets_transfers, h, sentPackets_transfers]

theorem handedBytes_congr (h : transfers d' = transfers d) : handedBytes d' = handedBytes d := by
  rw [← handedBytes_transfers, h, handedBytes_transfers]

end Log

/-- The ways a handler stops the process: a failed assertion, or a use of memory that is not there. -/
inductive Abort
  /-- `assert(started_)` of `TCPPacketBuffer`. -/
  | notStarted
  /-- `assert(total_inserted >= 0)` of `TCPPacketBuffer::insert`. -/
  | negativeInsert
  /-- `assert(first_expected_sequence_number_ == sequence_number)` of `get_continuous_data`. -/
  | firstExpected
  /-- `assert(false)` of `handle_data`. -/
  | windowOverflow
  /-- `assert(!rc->get_receive_event())` of `state_receive`. -/
  | receivePending
  /-- The timestamp option that `update_rto` reads is missing. -/
  | nullTimestamp
  /-- `assert(option)` of `insert_timestamp`. -/
  | noTimestampOption
  /-- `assert(send_buffer.empty())` of `append_control_bytes_to_send_buffer`. -/
  | synBufferNotEmpty
  /-- `assert(data_length > 0)` of `get_send_data_length`. -/
  | sendDataLength
  /-- `assert(send_buffer.size() > 0)` of `send_one_packet`. -/
  | sendBufferEmpty
  /-- `assert(p->get_data_length_bytes() > 0)` of `send_one_packet`. -/
  | sendPayloadEmpty
  /-- A payload read outside the send buffer. -/
  | sendOutOfBounds
  /-- `assert(!send_buffer.empty())` of `resend_data`. -/
  | resendBufferEmpty
  /-- `assert(data_length > 0)` of `get_resend_data_length`. -/
  | resendDataLength
  /-- `assert(p->get_data_length_bytes() > 0)` of `resend_data`. -/
  | resendPayloadEmpty
  /-- `assert(0 <= available)` of `get_available_room_in_send_buffer`. -/
  | sendBufferOverfull
  /-- The division of `CongestionAvoidance::set_cwnd`. -/
  | divisionByZero
  /-- `BackLog::pop` on an empty queue. -/
  | backLogEmpty
  /-- `assert(TimeoutManagerSemaphore.get_value() <= 1)` of `signal_manager`. -/
  | semaphoreValue
  deriving DecidableEq, Repr

/-- The assertions of the receiving side. -/
def Abort.receiveSide : Abort → Bool
  | .notStarted | .negativeInsert | .firstExpected | .windowOverflow => true
  | _ => false

/-- The assertions about the payload of a segment. -/
def Abort.sendSide : Abort → Bool
  | .sendDataLength | .sendBufferEmpty | .sendPayloadEmpty | .resendBufferEmpty | .resendDataLength
  | .resendPayloadEmpty => true
  | _ => false

/-- An assertion. -/
def check (c : Bool) (a : Abort) : Except Abort Unit := if c then .ok () else .error a

theorem check_eq_ok {c : Bool} {a : Abort} {u : Unit} : check c a = .ok u ↔ c = true := by
  cases c <;> simp [check]

theorem check_eq_error {c : Bool} {a b : Abort} : check c a = .error b ↔ c = false ∧ a = b := by
  cases c <;> simp [check]

/-! ### Handlers in sequence -/

section Bind

variable {ε α β : Type} {x : Except ε α} {f : α → Except ε β}

/-- A sequence succeeds when both parts do. -/
theorem bind_eq_ok {b : β} : (do let a ← x; f a) = .ok b ↔ ∃ a, x = .ok a ∧ f a = .ok b := by
  rcases x with e | a
  · constructor
    · nofun
    · rintro ⟨_, h, _⟩
      cases h
  · constructor
    · exact fun h => ⟨a, rfl, h⟩
    · rintro ⟨_, h, h'⟩
      cases h
      exact h'

/-- A sequence fails in its first part or, that one passed, in the second. -/
theorem bind_eq_error {r : ε} :
    (do let a ← x; f a) = .error r ↔ x = .error r ∨ ∃ a, x = .ok a ∧ f a = .error r := by
  rcases x with e | a
  · constructor
    · intro h
      cases h
      exact .inl rfl
    · rintro (h | ⟨_, h, _⟩)
      · cases h
        rfl
      · cases h
  · constructor
    · exact fun h => .inr ⟨a, rfl, h⟩
    · rintro (h | ⟨_, h, h'⟩)
      · cases h
      · cases h
        exact h'

end Bind

end Wifu
