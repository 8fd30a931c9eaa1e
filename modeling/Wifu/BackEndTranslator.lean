import Wifu.Lib.Transition
import Wifu.Event
import Wifu.ObjectPool

/-!
# The back end translator (`WiFuTransportBackEndTranslator.cc`)

The translator turns the messages of the library into pooled events for the protocols, and hands their responses to the
library.  Of each socket it remembers one event; a response releases it.  The protocols are not modelled here: they may
dispatch any response at any time, and a response knows which request it answers, if any.
-/

namespace Wifu

/-! ### Messages and events -/

/-- The message types of the library; `other` stands for all numbers that `receive` does not know. -/
inductive MessageType
  | socket
  | bind
  | listen
  | accept
  | send
  | sendto
  | recv
  | recvfrom
  | connect
  | getsockopt
  | setsockopt
  | close
  | other (n : Nat)
  deriving DecidableEq, Repr

/-- The kinds of events that have a pool. -/
inductive EventKind
  | socketEvent
  | bindEvent
  | listenEvent
  | acceptEvent
  | sendEvent
  | receiveEvent
  | connectEvent
  | getSocketOptionEvent
  | setSocketOptionEvent
  | closeEvent
  deriving DecidableEq, Repr

/-- The cases of the two switches over the message type: the event it stands for. -/
def MessageType.kind : MessageType → Option EventKind
  | .recvfrom | .recv => some .receiveEvent
  | .sendto | .send => some .sendEvent
  | .socket => some .socketEvent
  | .bind => some .bindEvent
  | .listen => some .listenEvent
  | .accept => some .acceptEvent
  | .connect => some .connectEvent
  | .getsockopt => some .getSocketOptionEvent
  | .setsockopt => some .setSocketOptionEvent
  | .close => some .closeEvent
  | .other _ => none

inductive SocketType
  | dgram
  | stream
  | other
  deriving DecidableEq, Repr

/-- What the translator and the events read of a message. -/
structure FrontEndMessage where
  messageType : MessageType
  fd : SocketId
  /-- The unix socket of the process. -/
  source : List UInt8 := []
  /-- `addr` of an `AddressMessage`. -/
  addr : AddressPort := ⟨0, 0⟩
  /-- `type` and `protocol` of a `SocketMessage`. -/
  type : SocketType := .other
  protocol : Nat := 0
  deriving DecidableEq, Repr

/-- `UDP` and `TCP_TAHOE`. -/
def udp : Nat := 217

def tcpTahoe : Nat := 207

/-- The protocol of a new socket. -/
def FrontEndMessage.socketProtocol (m : FrontEndMessage) : Nat :=
  match m.type with
  | .dgram => udp
  | .stream => tcpTahoe
  | .other => m.protocol

/-- A pooled event: the number of an object of a pool. -/
structure EventPointer where
  kind : EventKind
  object : Nat
  deriving DecidableEq, Repr

/-- A `LibraryEvent`: the socket, the buffer with the message, and the `address_` of an `AddressEvent`. -/
structure LibraryEvent where
  socket : SocketId := 0
  message : FrontEndMessage := ⟨.other 0, 0, [], ⟨0, 0⟩, .other, 0⟩
  address : Option AddressPort := none
  deriving DecidableEq, Repr

/-- `save_buffer`: copies the message; the address that an earlier message left stays. -/
def LibraryEvent.saveBuffer (e : LibraryEvent) (m : FrontEndMessage) : LibraryEvent := { e with message := m }

/-- `set_socket`. -/
def LibraryEvent.setSocket (e : LibraryEvent) (s : SocketId) : LibraryEvent := { e with socket := s }

/-- A request handed to the protocols. -/
structure Request where
  socket : SocketId
  event : EventPointer
  message : FrontEndMessage
  deriving DecidableEq, Repr

/-- A response on its way to the library: its own pooled object, its socket, and the number of the request it answers;
the notification that the peer has closed answers none. -/
structure Response where
  object : Nat
  socket : SocketId
  answers : Option Nat
  deriving DecidableEq, Repr

/-! ### The translator -/

structure BackEndTranslator where
  pools : EventKind → ObjectPool := fun _ => .init
  responsePool : ObjectPool := .init
  eventMap : SocketId → Option EventPointer := fun _ => none
  /-- The contents of the pooled events. -/
  events : EventPointer → LibraryEvent := fun _ => {}
  /-- The sockets in `SocketCollection`. -/
  sockets : List SocketId := []
  /-- What `ProtocolManager` supports. -/
  supported : List Nat := [udp, tcpTahoe]
  /-- The responses that wait for the translator. -/
  queue : List Response := []
  /-- All requests dispatched so far, and the numbers of those answered. -/
  requests : List Request := []
  answered : List Nat := []

/-- How the translator stops the process. -/
inductive TranslatorAbort
  /-- `assert(socket)`, or the access through it. -/
  | noSocket
  /-- `throw WiFuException("Unknown message type")`. -/
  | unknownMessage
  /-- `assert(event_map_iterator_ != event_map_.end())`. -/
  | noEntry
  deriving DecidableEq, Repr

namespace BackEndTranslator

/-- The end of `receive`: an event from the pool carries the message to the protocols. -/
def dispatchEvent (b : BackEndTranslator) (kind : EventKind) (s : SocketId) (m : FrontEndMessage) : BackEndTranslator :=
  let (object, pool) := (b.pools kind).get
  let e : EventPointer := ⟨kind, object⟩
  { b with
    pools := Function.update b.pools kind pool
    eventMap := Function.update b.eventMap s (some e)
    events := Function.update b.events e (((b.events e).setSocket s).saveBuffer m)
    requests := b.requests ++ [⟨s, e, m⟩] }

/-- The answer to a request for a socket of a protocol that is not supported. -/
def refuseSocket (b : BackEndTranslator) : BackEndTranslator :=
  let (object, pool) := b.responsePool.get
  { b with responsePool := pool.release object }

/-- `receive`. -/
def receive (b : BackEndTranslator) (m : FrontEndMessage) : Except TranslatorAbort BackEndTranslator :=
  match m.messageType.kind with
  | none => .error .unknownMessage
  | some .socketEvent =>
    if m.socketProtocol ∈ b.supported then
      .ok ({ b with sockets := m.fd :: b.sockets }.dispatchEvent .socketEvent m.fd m)
    else .ok b.refuseSocket
  | some kind => if m.fd ∈ b.sockets then .ok (b.dispatchEvent kind m.fd m) else .error .noSocket

/-- A protocol takes a `ResponseEvent` from the pool and dispatches it. -/
def respond (b : BackEndTranslator) (s : SocketId) (answers : Option Nat) : BackEndTranslator :=
  let (object, pool) := b.responsePool.get
  { b with responsePool := pool, queue := b.queue ++ [⟨object, s, answers⟩] }

/-- `imodule_library_response` of the next response. -/
def libraryResponse (b : BackEndTranslator) : Except TranslatorAbort BackEndTranslator :=
  match b.queue with
  | [] => .ok b
  | r :: rs =>
    match b.eventMap r.socket with
    | none => .error .noEntry
    | some e =>
      match (b.events e).message.messageType.kind with
      | none => .error .unknownMessage
      | some kind => .ok { b with
        pools := Function.update b.pools kind ((b.pools kind).release e.object)
        responsePool := b.responsePool.release r.object
        queue := rs
        answered := r.answers.toList ++ b.answered }

/-- What the translator reads. -/
inductive Input
  /-- A message of the library. -/
  | message (m : FrontEndMessage)
  /-- A protocol dispatches a response. -/
  | respond (s : SocketId) (answers : Option Nat)
  /-- The translator takes the next response. -/
  | libraryResponse
  /-- A protocol puts a socket in the collection, or takes it out. -/
  | addSocket (s : SocketId)
  | removeSocket (s : SocketId)
  deriving DecidableEq, Repr

def step (i : Input) (b : BackEndTranslator) : Except TranslatorAbort BackEndTranslator :=
  match i with
  | .message m => b.receive m
  | .respond s answers => .ok (b.respond s answers)
  | .libraryResponse => b.libraryResponse
  | .addSocket s => .ok { b with sockets := s :: b.sockets }
  | .removeSocket s => .ok { b with sockets := b.sockets.erase s }

/-- The translator, with any messages and any responses of the protocols. -/
def machine : Transition.Machine BackEndTranslator Input TranslatorAbort :=
  ⟨fun i b => i = .libraryResponse → b.queue ≠ [], step⟩

instance (i : Input) (b : BackEndTranslator) : Decidable (machine.enabled i b) :=
  inferInstanceAs (Decidable (i = .libraryResponse → b.queue ≠ []))

end BackEndTranslator

end Wifu
