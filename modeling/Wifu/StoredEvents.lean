import Wifu.BackEndTranslator
import Wifu.Tahoe

/-!
# Events that the connection managers keep (`ConnectionManagerContext.cc`, `AddressEvent.cc`, `Closed.cc`, `Established.cc`)

A connection manager keeps the `ConnectEvent` or the `ListenEvent` that opened it as a pointer, and reads the event again
when the connection is established and when the peer closes it.  The event belongs to a pool: once the translator has
released it, it may carry the message of another request.  An `AddressEvent` keeps the address that it has parsed, also
when it carries another message.

Here the translator runs with TCP Tahoe's connection managers, and everything that the managers read of the events is
recorded.  Other handlers do not read the kept events; their responses may come at any time.
-/

namespace Wifu

/-- `AddressEvent::get_address`: the address is parsed at the first call. -/
def LibraryEvent.getAddress (e : LibraryEvent) : AddressPort × LibraryEvent :=
  match e.address with
  | some a => (a, e)
  | none => (e.message.addr, { e with address := some e.message.addr })

/-- An event that the translator has dispatched: the object, and the number of the request that it carried then. -/
structure DispatchedEvent where
  event : EventPointer
  request : Nat
  deriving DecidableEq, Repr

/-- A `ConnectionManagerContext` with its pointers to events; `none` is a pointer that nothing has set.  (The constructor
sets `l_event_` to null and leaves `c_event_` as it is.) -/
structure ManagerPointers where
  state : ConnectionManagerState := .closed
  connectionType : ConnectionType := .passiveOpen
  connectEvent : Option DispatchedEvent := none
  listenEvent : Option DispatchedEvent := none
  deriving DecidableEq, Repr

/-- What the connection manager of a socket has read. -/
inductive EventRead
  /-- The kept `ConnectEvent`, and what was in it. -/
  | connect (s : SocketId) (kept : Option (DispatchedEvent × LibraryEvent))
  /-- The pointer to the kept `ListenEvent`. -/
  | listen (s : SocketId) (kept : Option DispatchedEvent)
  /-- A `ConnectEvent` that is being processed, what was in it, and the address that `get_address` returned. -/
  | process (s : SocketId) (e : DispatchedEvent) (contents : LibraryEvent) (address : AddressPort)
  deriving DecidableEq, Repr

/-- A `ConnectionInitiatedEvent`. -/
structure Initiation where
  listening : SocketId
  new : SocketId
  listenEvent : Option DispatchedEvent
  deriving DecidableEq, Repr

/-- The translator and TCP Tahoe's connection managers. -/
structure TransportBackEnd where
  translator : BackEndTranslator := {}
  /-- The events that are on their way to the protocol. -/
  pending : List DispatchedEvent := []
  /-- The connection managers of the sockets in `map_`. -/
  managers : SocketId → Option ManagerPointers := fun _ => none
  initiations : List Initiation := []
  /-- The requests whose `ConnectEvent` a closed connection manager has processed. -/
  connects : List Nat := []
  reads : List EventRead := []

namespace TransportBackEnd

def setManager (t : TransportBackEnd) (s : SocketId) (c : ManagerPointers) : TransportBackEnd :=
  { t with managers := Function.update t.managers s (some c) }

/-! ### The translator -/

/-- `receive`; the event of a new request goes to the protocol. -/
def receive (t : TransportBackEnd) (m : FrontEndMessage) : Except TranslatorAbort TransportBackEnd :=
  match t.translator.receive m with
  | .error a => .error a
  | .ok b =>
    let n := t.translator.requests.length
    .ok { t with
      translator := b
      pending := t.pending ++ (b.requests.drop n).map fun q => ⟨q.event, n⟩ }

/-- `imodule_library_response`. -/
def libraryResponse (t : TransportBackEnd) : Except TranslatorAbort TransportBackEnd :=
  match t.translator.libraryResponse with
  | .error a => .error a
  | .ok b => .ok { t with translator := b }

/-! ### Requests -/

/-- `imodule_library_socket` and `icontext_socket`: a socket of the protocol gets a container. -/
def librarySocket (t : TransportBackEnd) (e : LibraryEvent) : TransportBackEnd :=
  if e.message.socketProtocol = tcpTahoe then t.setManager e.socket {} else t

/-- `Closed::state_listen`. -/
def stateListen (t : TransportBackEnd) (d : DispatchedEvent) (s : SocketId) (c : ManagerPointers) : TransportBackEnd :=
  match c.state with
  | .closed => t.setManager s { c with connectionType := .passiveOpen, listenEvent := some d, state := .listen }
  | _ => t

/-- `Closed::state_connect`, as far as the event goes. -/
def stateConnect (t : TransportBackEnd) (d : DispatchedEvent) (s : SocketId) (c : ManagerPointers) : TransportBackEnd :=
  match c.state with
  | .closed =>
    let contents := t.translator.events d.event
    let (address, e) := contents.getAddress
    let t := { t with
      translator := { t.translator with events := Function.update t.translator.events d.event e }
      connects := t.connects ++ [d.request]
      reads := t.reads ++ [EventRead.process s d contents address] }
    t.setManager s { c with connectionType := .activeOpen, connectEvent := some d, state := .synSent }
  | _ => t

/-- The protocol handles an event of the library; `refused` is what `AlreadyListeningOnSamePortVisitor` finds. -/
def handle (t : TransportBackEnd) (d : DispatchedEvent) (refused : Bool) : TransportBackEnd :=
  let e := t.translator.events d.event
  match d.event.kind with
  | .socketEvent => t.librarySocket e
  | .listenEvent =>
    match t.managers e.socket with
    | none => t
    | some c => if refused then t else t.stateListen d e.socket c
  | .connectEvent =>
    match t.managers e.socket with
    | none => t
    | some c => t.stateConnect d e.socket c
  | _ => t

/-- The protocol takes the `k`th event that is on its way. -/
def take (t : TransportBackEnd) (k : Nat) (refused : Bool) : TransportBackEnd :=
  match t.pending[k]? with
  | none => t
  | some d => { t with pending := t.pending.eraseIdx k }.handle d refused

/-! ### Packets -/

/-- What the connection manager of a socket finds behind its pointer to a `ConnectEvent`. -/
def keptConnect (t : TransportBackEnd) (c : ManagerPointers) : Option (DispatchedEvent × LibraryEvent) :=
  c.connectEvent.map fun d => (d, t.translator.events d.event)

/-- `Established::state_enter`, which reads the connect event of every connection, and answers it in an active open. -/
def establish (t : TransportBackEnd) (s : SocketId) (c : ManagerPointers) : TransportBackEnd :=
  let kept := t.keptConnect c
  let t := { t with reads := t.reads ++ [EventRead.connect s kept] }
  let t := t.setManager s { c with state := .established }
  match c.connectionType, kept with
  | .activeOpen, some (d, e) => { t with translator := t.translator.respond e.socket (some d.request) }
  | _, _ => t

/-- `Listen::process_syn`. -/
def processSyn (t : TransportBackEnd) (s new : SocketId) (c : ManagerPointers) : TransportBackEnd :=
  let t := { t with
    translator := { t.translator with sockets := new :: t.translator.sockets }
    initiations := t.initiations ++ [Initiation.mk s new c.listenEvent]
    reads := t.reads ++ [EventRead.listen s c.listenEvent] }
  t.setManager s { c with state := .synReceived }

/-- `get_front_end_socket`: the connect event is looked at first, and when it is null the listen event is read. -/
def frontEndReads (t : TransportBackEnd) (s : SocketId) (c : ManagerPointers) : List EventRead :=
  match t.keptConnect c with
  | some kept => [.connect s (some kept)]
  | none => [.connect s none, .listen s c.listenEvent]

/-- The FIN of an established connection: the process is notified. -/
def preclose (t : TransportBackEnd) (s : SocketId) (c : ManagerPointers) : TransportBackEnd :=
  let t := { t with translator := t.translator.respond s none, reads := t.reads ++ t.frontEndReads s c }
  t.setManager s { c with state := .closeWait }

/-- `state_receive_packet`; `new` is the identifier that a new socket gets. -/
def receivePacket (t : TransportBackEnd) (s : SocketId) (p : TCPPacket) (new : SocketId) : TransportBackEnd :=
  match t.managers s with
  | none => t
  | some c =>
    match c.state with
    | .listen => if p.syn then t.processSyn s new c else t
    | .synSent => if p.syn && p.ack then t.establish s c else t
    | .synReceived => if p.ack then t.establish s c else t
    | .established => if p.syn then t else if p.fin then t.preclose s c else t
    | .finWait1 =>
      if p.fin && p.ack then t.setManager s { c with state := .timeWait }
      else if p.ack then t.setManager s { c with state := .finWait2 }
      else t
    | .finWait2 => if p.fin then t.setManager s { c with state := .timeWait } else t
    | .closing => if p.ack then t.setManager s { c with state := .timeWait } else t
    | .lastAck => if p.isNakedAck then t.setManager s { c with state := .closed } else t
    | .timeWait | .closed | .closeWait => t

/-- `icontext_new_connection_initiated`, and `state_new_connection_initiated` of the new container. -/
def newConnectionInitiated (t : TransportBackEnd) : TransportBackEnd :=
  match t.initiations with
  | [] => t
  | i :: is =>
    let t := { t with initiations := is }
    match t.managers i.listening with
    | none => t
    | some c =>
      let t := t.setManager i.new c
      t.setManager i.listening { state := .listen, listenEvent := i.listenEvent }

/-! ### Closing -/

/-- `state_close`, once the send buffer is empty. -/
def stateClose (t : TransportBackEnd) (s : SocketId) : TransportBackEnd :=
  match t.managers s with
  | none => t
  | some c =>
    match c.state with
    | .listen => t.setManager s { c with state := .closed }
    | .established => t.setManager s { c with state := .finWait1 }
    | .closeWait => t.setManager s { c with state := .lastAck }
    | _ => t

/-- The TIME-WAIT timer fires. -/
def stateTimerFired (t : TransportBackEnd) (s : SocketId) : TransportBackEnd :=
  match t.managers s with
  | none => t
  | some c =>
    match c.state with
    | .timeWait => t.setManager s { c with state := .closed }
    | _ => t

/-- `imodule_delete_socket`. -/
def deleteSocket (t : TransportBackEnd) (s : SocketId) : TransportBackEnd :=
  { t with
    managers := Function.update t.managers s none
    translator := { t.translator with sockets := t.translator.sockets.erase s } }

inductive Input
  /-- A message of the library. -/
  | message (m : FrontEndMessage)
  /-- The protocol takes one of the events on their way. -/
  | take (k : Nat) (refused : Bool)
  | packet (s : SocketId) (p : TCPPacket) (new : SocketId)
  | newConnectionInitiated
  | close (s : SocketId)
  | timerFired (s : SocketId)
  | deleteSocket (s : SocketId)
  /-- Another handler dispatches a response. -/
  | respond (s : SocketId) (answers : Option Nat)
  /-- The translator takes the next response. -/
  | libraryResponse
  deriving DecidableEq

def step (i : Input) (t : TransportBackEnd) : Except TranslatorAbort TransportBackEnd :=
  match i with
  | .message m => t.receive m
  | .take k refused => .ok (t.take k refused)
  | .packet s p new => .ok (t.receivePacket s p new)
  | .newConnectionInitiated => .ok t.newConnectionInitiated
  | .close s => .ok (t.stateClose s)
  | .timerFired s => .ok (t.stateTimerFired s)
  | .deleteSocket s => .ok (t.deleteSocket s)
  | .respond s answers => .ok { t with translator := t.translator.respond s answers }
  | .libraryResponse => t.libraryResponse

/-- The protocol takes no event of low priority while a new connection waits; the translator runs in its own thread. -/
def enabled : Input → TransportBackEnd → Prop
  | .newConnectionInitiated, t => t.initiations ≠ []
  | .libraryResponse, t => t.translator.queue ≠ []
  | .message _, _ | .respond _ _, _ => True
  | .take _ _, t | .packet _ _ _, t | .close _, t | .timerFired _, t | .deleteSocket _, t => t.initiations = []

instance : (i : Input) → (t : TransportBackEnd) → Decidable (enabled i t)
  | .newConnectionInitiated, t => inferInstanceAs (Decidable (t.initiations ≠ []))
  | .libraryResponse, t => inferInstanceAs (Decidable (t.translator.queue ≠ []))
  | .message _, _ | .respond _ _, _ => .isTrue trivial
  | .take _ _, t | .packet _ _ _, t | .close _, t | .timerFired _, t | .deleteSocket _, t =>
    inferInstanceAs (Decidable (t.initiations = []))

/-- The machine whose runs are the runs of the back end. -/
def machine : Transition.Machine TransportBackEnd Input TranslatorAbort := ⟨enabled, step⟩

instance (i : Input) (t : TransportBackEnd) : Decidable (machine.enabled i t) :=
  inferInstanceAs (Decidable (enabled i t))

end TransportBackEnd

end Wifu
