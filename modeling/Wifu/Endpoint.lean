import Wifu.Context

/-!
# An endpoint

One connection of a protocol: its context container, its socket, the protocol events that wait for it and what it has
handed to the dispatcher.  While a listening socket receives a SYN the container moves to the socket made for the
connection; the endpoint follows the container.
-/

namespace Wifu

structure Socket where
  id : SocketId
  localAddress : AddressPort
  remoteAddress : AddressPort
  sendBuffer : List UInt8 := []
  receiveBuffer : List UInt8 := []
  deriving DecidableEq, Repr

structure Endpoint extends TCPTahoeIContextContainer where
  socket : Socket
  /-- The protocol events waiting in the queue, the next one first. -/
  queue : List ProtocolEvent := []
  /-- Everything handed to the dispatcher so far. -/
  dispatched : List FrameworkEvent := []
  /-- Packets handed to the dispatcher that it gives back to the protocol. -/
  redelivered : List TCPPacket := []
  nextTimer : Nat := 1
  nextSocket : SocketId := 2
  /-- The time of day in microseconds. -/
  now : BitVec 32 := 0
  /-- The socket has been taken out of `sockets_`. -/
  deleted : Bool := false
  deriving DecidableEq

namespace Endpoint

/-- The endpoint of a socket just made and bound. -/
def create (id : SocketId) (localAddress remoteAddress : AddressPort) : Endpoint :=
  { socket := ⟨id, localAddress, remoteAddress, [], []⟩, nextSocket := id + 1 }

/-- `enqueue` of an event about a socket. -/
def enqueueFor (e : Endpoint) (s : SocketId) (k : ProtocolEventKind) : Endpoint :=
  { e with queue := e.queue ++ [⟨s, k⟩] }

/-- `enqueue` of an event about the endpoint's socket. -/
def enqueue (e : Endpoint) (k : ProtocolEventKind) : Endpoint := e.enqueueFor e.socket.id k

/-- `Dispatcher::enqueue`. -/
def dispatch (e : Endpoint) (f : FrameworkEvent) : Endpoint := { e with dispatched := e.dispatched ++ [f] }

/-- `sockets_.contains`. -/
def contains (e : Endpoint) (s : SocketId) : Bool := s == e.socket.id && !e.deleted

/-- A packet without data from the socket's local to its remote address. -/
def emptyPacket (e : Endpoint) : TCPPacket := .new e.socket.localAddress e.socket.remoteAddress []

/-- `create_and_dispatch_ack`, and the same lines elsewhere. -/
def createAndDispatchAck (e : Endpoint) : Endpoint := e.enqueue (.sendPacket e.emptyPacket)

/-- A new `TimeoutEvent` on a socket. -/
def newTimeout (e : Endpoint) (s : SocketId) : TimeoutEvent := ⟨e.nextTimer, s⟩

/-- Hands a new `TimeoutEvent` to the dispatcher. -/
def dispatchTimeout (e : Endpoint) (s : SocketId) : Endpoint :=
  { e with dispatched := e.dispatched ++ [.timeout (e.newTimeout s)], nextTimer := e.nextTimer + 1 }

end Endpoint

end Wifu
