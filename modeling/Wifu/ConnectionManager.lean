import Wifu.Endpoint

/-!
# The connection manager states (`Closed.cc`, `Listen.cc`, `SynSent.cc`, `SynReceived.cc`, `Established.cc`, …)

The handlers of the connection manager's states on an endpoint.  The states' trace output is not modelled.
-/

namespace Wifu

namespace Endpoint

/-! ### Changing states -/

/-- `TimeWait::start_timer`. -/
def startTimeWaitTimer (e : Endpoint) : Endpoint :=
  { e with cmc := { e.cmc with timeWaitTimer := some (e.newTimeout e.cmc.socket) } }.dispatchTimeout e.cmc.socket

/-- `TimeWait::stop_timer`. -/
def stopTimeWaitTimer (e : Endpoint) : Endpoint :=
  { e with cmc := { e.cmc with timeWaitTimer := none } }.dispatch (.cancelTimer e.cmc.timeWaitTimer)

/-- `state_exit`. -/
def stateExit (e : Endpoint) : Endpoint :=
  match e.cmc.state with
  | .timeWait => e.stopTimeWaitTimer
  | _ => e

/-- `state_enter`. -/
def stateEnter (e : Endpoint) : Endpoint :=
  match e.cmc.state with
  | .timeWait => e.startTimeWaitTimer
  | .established =>
    match e.cmc.connectionType, e.cmc.connectEvent with
    | .activeOpen, some c => e.dispatch (.connectResponse c)
    | _, _ => e
  | _ => e

/-- `set_state`. -/
def setState (e : Endpoint) (s : ConnectionManagerState) : Endpoint :=
  let e := e.stateExit
  { e with cmc := { e.cmc with state := s } }.stateEnter

/-! ### Opening -/

/-- `state_connect`. -/
def managerConnect (e : Endpoint) (c : ConnectEvent) : Endpoint :=
  match e.cmc.state with
  | .closed =>
    let source : AddressPort := ⟨c.localAddress, e.socket.localAddress.port⟩
    let e := { e with
      cmc := { e.cmc with connectionType := .activeOpen, connectEvent := some c, socket := e.socket.id }
      socket := { e.socket with localAddress := source, remoteAddress := c.address } }
    (e.enqueue (.sendPacket { TCPPacket.new source c.address [] with syn := true })).setState .synSent
  | _ => e

/-- `state_listen`. -/
def managerListen (e : Endpoint) (l : ListenEvent) : Endpoint :=
  match e.cmc.state with
  | .closed =>
    { e with
      cmc := { e.cmc with socket := e.socket.id, connectionType := .passiveOpen, listenEvent := some l }
      }.setState .listen
  | _ => e

/-- `state_new_connection_initiated`, called on the listening socket's new container. -/
def managerNewConnectionInitiated (e : Endpoint) (l : Option ListenEvent) : Endpoint :=
  match e.cmc.state with
  | .closed =>
    { e with
      cmc := { e.cmc with connectionType := .passiveOpen, socket := e.socket.id, listenEvent := l } }.setState .listen
  | _ => e

/-- `Listen::process_syn`; the listening socket gets a new socket for the connection. -/
def processSyn (e : Endpoint) (p : TCPPacket) : Endpoint :=
  let newSocket := e.nextSocket
  let e := { e with nextSocket := e.nextSocket + 1, cmc := { e.cmc with acceptSocket := e.socket.id } }
  let e := e.enqueue (.connectionInitiated newSocket e.socket.localAddress p.source e.cmc.listenEvent)
  let e := e.enqueueFor newSocket
    (.sendPacket { TCPPacket.new p.destination p.source [] with syn := true, ack := true })
  e.setState .synReceived

/-! ### Receiving a packet -/

/-- `state_receive_packet`. -/
def managerReceivePacket (e : Endpoint) (p : TCPPacket) : Endpoint :=
  match e.cmc.state with
  | .listen => if p.syn then e.processSyn p else e
  | .synSent =>
    if p.syn && p.ack then
      (e.enqueue (.sendPacket { TCPPacket.new p.destination p.source [] with ack := true })).setState .established
    else e
  | .synReceived =>
    if p.ack then (e.enqueueFor e.cmc.acceptSocket (.connectionEstablished e.socket.id)).setState .established
    else e
  | .established =>
    if p.syn then e
    else if p.fin then (e.createAndDispatchAck.setState .closeWait).dispatch (.preclose e.socket.id)
    else e
  | .finWait1 =>
    if p.fin && p.ack then e.createAndDispatchAck.setState .timeWait
    else if p.ack then e.setState .finWait2
    else e
  | .finWait2 => if p.fin then e.createAndDispatchAck.setState .timeWait else e
  | .closing => if p.ack then e.setState .timeWait else e
  | .lastAck => if p.isNakedAck then (e.enqueue .deleteSocket).setState .closed else e
  | .timeWait => if p.fin then e.createAndDispatchAck.stopTimeWaitTimer.startTimeWaitTimer else e
  | .closed | .closeWait => e

/-! ### Closing -/

/-- A packet with the FIN bit from the socket's local to its remote address. -/
def finPacket (e : Endpoint) : TCPPacket := { e.emptyPacket with fin := true }

/-- `state_close`. -/
def managerClose (e : Endpoint) : Endpoint :=
  match e.cmc.state with
  | .listen => (e.enqueue .deleteSocket).setState .closed
  | .established =>
    if e.socket.sendBuffer = [] then (e.setState .finWait1).enqueue (.sendPacket e.finPacket) else e
  | .closeWait => (e.enqueue (.sendPacket e.finPacket)).setState .lastAck
  | _ => e

/-- `state_timer_fired`. -/
def managerTimerFired (e : Endpoint) (t : TimeoutEvent) : Endpoint :=
  match e.cmc.state with
  | .timeWait => if e.cmc.timeWaitTimer = some t then (e.enqueue .deleteSocket).setState .closed else e
  | _ => e

/-! ### What opening does -/

section

variable {e : Endpoint}

/-- Only a closed socket starts to listen. -/
theorem managerListen_of_ne (h : e.cmc.state ≠ .closed) (l : ListenEvent) : e.managerListen l = e := by
  unfold managerListen
  split
  · exact absurd ‹_› h
  · rfl

theorem managerListen_closed (h : e.cmc.state = .closed) (l : ListenEvent) : e.managerListen l = { e with
    cmc := { e.cmc with
      socket := e.socket.id, connectionType := .passiveOpen, listenEvent := some l, state := .listen } } := by
  simp [managerListen, h, setState, stateExit, stateEnter]

/-- Only a closed socket connects. -/
theorem managerConnect_of_ne (h : e.cmc.state ≠ .closed) (c : ConnectEvent) : e.managerConnect c = e := by
  unfold managerConnect
  split
  · exact absurd ‹_› h
  · rfl

theorem managerConnect_closed (h : e.cmc.state = .closed) (c : ConnectEvent) : e.managerConnect c = { e with
    cmc := { e.cmc with
      connectionType := .activeOpen, connectEvent := some c, socket := e.socket.id, state := .synSent }
    socket := { e.socket with
      localAddress := ⟨c.localAddress, e.socket.localAddress.port⟩, remoteAddress := c.address }
    queue := e.queue ++ [⟨e.socket.id, .sendPacket { TCPPacket.new ⟨c.localAddress, e.socket.localAddress.port⟩ c.address []
      with syn := true }⟩] } := by
  simp [managerConnect, h, setState, stateExit, stateEnter, enqueue, enqueueFor]

end

end Endpoint

end Wifu
