import Wifu.Lib.Transition
import Wifu.Reliability
import Wifu.CongestionControl
import Wifu.ConnectionManager

/-!
# The protocol's handlers and the runs of an endpoint (`TCPTahoe.cc`, `Protocol.cc`)

Each `icontext_…` function calls the three contexts of the endpoint's container; each `imodule_…` function first
filters by the socket.  The machine `Endpoint.machine` takes one event at a time: a waiting protocol event when there
is one, else an event of low priority.
-/

namespace Wifu

namespace Endpoint

/-! ### Acceptance tests -/

/-- `is_valid_sequence_number`. -/
def isValidSequenceNumber (rc : TCPTahoeReliabilityContext) (p : TCPPacket) : Bool :=
  let edge := rc.rcvNxt + rc.rcvWnd.setWidth 32
  if rc.rcvNxt = 0 then true
  else if 0 < p.dataLengthBytes ∧ 0 < rc.rcvWnd then
    betweenEqualLeft rc.rcvNxt p.sequenceNumber edge ||
      betweenEqualLeft rc.rcvNxt (p.sequenceNumber + BitVec.ofInt 32 p.dataLengthBytes - 1) edge
  else if 0 < p.dataLengthBytes ∧ rc.rcvWnd = 0 then false
  else if p.dataLengthBytes = 0 ∧ 0 < rc.rcvWnd then betweenEqualLeft rc.rcvNxt p.sequenceNumber edge
  else if p.dataLengthBytes = 0 ∧ rc.rcvWnd = 0 then p.sequenceNumber == rc.rcvNxt
  else false

/-- `is_valid_ack_number`. -/
def isValidAckNumber (rc : TCPTahoeReliabilityContext) (p : TCPPacket) : Bool :=
  betweenEqual rc.snd.sndUna p.ackNumber rc.snd.sndMax

/-- `is_duplicate_ack`. -/
def isDuplicateAck (rc : TCPTahoeReliabilityContext) (p : TCPPacket) : Bool :=
  p.ack && rc.duplicateAckNumber == p.ackNumber && betweenEqualLeft p.ackNumber rc.snd.sndUna rc.snd.sndNxt &&
    decide (rc.duplicates + 1 ≥ 3)

/-! ### Packets -/

/-- The saved CloseEvent, once nothing is left to send. -/
def runSavedClose (e : Endpoint) : Endpoint :=
  if e.savedCloseEvent.isSome ∧ e.socket.sendBuffer = [] ∧ e.savedSendEvent = none then
    { e.managerClose with savedCloseEvent := none }
  else e

/-- The congestion control does not see a duplicate ACK. -/
def receiveUnlessDuplicate (e : Endpoint) (p : TCPPacket) (dupAck : Bool) : Except Abort Endpoint :=
  if dupAck then .ok e else e.congestionReceivePacket p

/-- `icontext_receive_packet`. -/
def receivePacket (e : Endpoint) (p : TCPPacket) : Except Abort Endpoint :=
  if !p.validChecksum then .ok e
  else if p.ack && !isValidAckNumber e.rc p then e.reliabilityReceivePacket p
  else if !isValidSequenceNumber e.rc p then
    if e.cmc.state = .timeWait then .ok (e.managerReceivePacket p)
    else if e.cmc.state.canSendAck then .ok e.createAndDispatchAck
    else .ok e
  else if p.fin ∧ e.rc.rcvWnd.toNat < maxTcpReceiveWindowSize then .ok { e with savedFin := some p }
  else do
    let dupAck := isDuplicateAck e.rc p
    let e ← e.reliabilityReceivePacket p
    let e ← (e.managerReceivePacket p).receiveUnlessDuplicate p dupAck
    .ok e.runSavedClose

/-- `icontext_send_packet`. -/
def sendPacket (e : Endpoint) (p : TCPPacket) : Except Abort Endpoint := do
  let (p, e) ← e.reliabilitySendPacket p
  let e := e.congestionSendPacket p
  .ok (e.dispatch (.networkSendPacket p))

/-- `icontext_resend_packet`. -/
def resendPacketEvent (e : Endpoint) : Except Abort Endpoint := e.congestionResendPacket

/-- `icontext_timer_fired_event`. -/
def timerFired (e : Endpoint) (t : TimeoutEvent) : Except Abort Endpoint :=
  ((e.reliabilityTimerFired t).managerTimerFired t).congestionTimerFired t

/-! ### Requests -/

/-- `get_available_room_in_send_buffer`. -/
def getAvailableRoom (e : Endpoint) : Except Abort Nat := do
  check (e.socket.sendBuffer.length ≤ tcpSocketMaxBufferSize) .sendBufferOverfull
  .ok (tcpSocketMaxBufferSize - e.socket.sendBuffer.length)

/-- `save_in_buffer_and_send_events`. -/
def saveInBuffer (e : Endpoint) (s : SendEvent) (available : Nat) : Endpoint :=
  let numToInsert := min available s.data.length
  let e := { e with socket := { e.socket with sendBuffer := e.socket.sendBuffer ++ s.data.take numToInsert } }
  (e.dispatch (.sendResponse s numToInsert)).enqueue .sendBufferNotEmpty

/-- `icontext_send`. -/
def send (e : Endpoint) (s : SendEvent) : Except Abort Endpoint := do
  let available ← e.getAvailableRoom
  if 0 < available then .ok (e.saveInBuffer s available)
  else .ok { e with savedSendEvent := some s }

/-- `icontext_send_buffer_not_full`. -/
def sendBufferNotFull (e : Endpoint) : Except Abort Endpoint :=
  match e.savedSendEvent with
  | none => .ok e
  | some s => do
    let available ← e.getAvailableRoom
    if 0 < available then .ok { e.saveInBuffer s available with savedSendEvent := none }
    else .ok e

/-- `icontext_receive_buffer_not_full`: gives a saved FIN back once the receive buffer is empty. -/
def receiveBufferNotFull (e : Endpoint) : Endpoint :=
  match e.savedFin with
  | none => e
  | some p =>
    if e.rc.rcvWnd.toNat = maxTcpReceiveWindowSize then
      { e with redelivered := e.redelivered ++ [p] }.dispatch (.networkReceivePacket p)
    else e

/-- `icontext_close`. -/
def close (e : Endpoint) (c : CloseEvent) : Endpoint :=
  let e :=
    if e.socket.sendBuffer = [] ∧ e.savedSendEvent = none then e.managerClose
    else { e with savedCloseEvent := some c }
  e.dispatch (.closeResponse c)

/-- `icontext_new_connection_initiated`: the container moves to the new socket. -/
def moveToSocket (e : Endpoint) (newSocket : SocketId) (localAddress remoteAddress : AddressPort) : Endpoint :=
  { e with socket := ⟨newSocket, localAddress, remoteAddress, [], []⟩, cmc := { e.cmc with socket := newSocket } }

/-! ### One event at a time -/

/-- The handler of a protocol event. -/
def handleProtocolEvent (e : Endpoint) (k : ProtocolEventKind) : Except Abort Endpoint :=
  match k with
  | .sendPacket p => e.sendPacket p
  | .resendPacket _ => e.resendPacketEvent
  | .sendBufferNotEmpty => e.sendPackets
  | .sendBufferNotFull => e.sendBufferNotFull
  | .receiveBufferNotEmpty => .ok e.reliabilityReceiveBufferNotEmpty
  | .receiveBufferNotFull => .ok e.receiveBufferNotFull
  | .connectionInitiated s l r _ => .ok (e.moveToSocket s l r)
  -- the back log and the saved accept are the listening socket's side
  | .connectionEstablished _ => .ok e
  | .deleteSocket => .ok { e with deleted := true }

/-- The next waiting protocol event. -/
def drain (e : Endpoint) : Except Abort Endpoint :=
  match e.queue with
  | [] => .ok e
  | v :: vs =>
    let e := { e with queue := vs }
    if e.contains v.socket then e.handleProtocolEvent v.kind else .ok e

/-- What an endpoint reads. -/
inductive Input
  /-- The next protocol event in the queue. -/
  | drain
  | listen (l : ListenEvent)
  | connect (c : ConnectEvent)
  | send (s : SendEvent)
  | receive (r : ReceiveEvent)
  | close (c : CloseEvent)
  /-- A packet from the network. -/
  | packet (p : TCPPacket)
  /-- The packet that the protocol handed to the dispatcher first. -/
  | redeliver
  | timerFired (t : TimeoutEvent)
  /-- The time of day changes. -/
  | tick (now : BitVec 32)
  deriving DecidableEq

/-- The handler of an event of low priority. -/
def handleLow (e : Endpoint) (i : Input) : Except Abort Endpoint :=
  match i with
  | .drain => .ok e
  | .listen l => .ok (e.managerListen l)
  | .connect c => .ok (e.managerConnect c)
  | .send s => if e.cmc.state.canSend then e.send s else .ok e
  | .receive r => if e.cmc.state.canReceive then e.reliabilityReceive r else .ok e
  | .close c => .ok (e.close c)
  | .packet p => e.receivePacket p
  | .redeliver =>
    match e.redelivered with
    | [] => .ok e
    | p :: ps => { e with redelivered := ps }.receivePacket p
  | .timerFired t => if t.socket = e.socket.id then e.timerFired t else .ok e
  | .tick now => .ok { e with now := now }

/-- The step of an endpoint; an event about a socket that has been deleted is dropped. -/
def step (i : Input) (e : Endpoint) : Except Abort Endpoint :=
  match i with
  | .drain => e.drain
  | i => if e.deleted then .ok e else e.handleLow i

/-- Events of low priority wait until no protocol event does. -/
def enabled : Input → Endpoint → Prop
  | .drain, e => e.queue ≠ []
  | _, e => e.queue = []

instance : (i : Input) → (e : Endpoint) → Decidable (enabled i e)
  | .drain, e => inferInstanceAs (Decidable (e.queue ≠ []))
  | .listen _, e | .connect _, e | .send _, e | .receive _, e | .close _, e | .packet _, e | .redeliver, e
  | .timerFired _, e | .tick _, e => inferInstanceAs (Decidable (e.queue = []))

/-- The machine whose runs are the runs of an endpoint. -/
def machine : Transition.Machine Endpoint Input Abort := ⟨enabled, step⟩

instance (i : Input) (e : Endpoint) : Decidable (machine.enabled i e) := inferInstanceAs (Decidable (enabled i e))

/-! ### A scripted peer -/

def clientAddress : AddressPort := ⟨0x0a000001, 40000⟩

def serverAddress : AddressPort := ⟨0x0a000002, 80⟩

/-- A segment from the server to the client. -/
def segment (sequenceNumber ackNumber : Nat) (data : List UInt8) : TCPPacket :=
  { TCPPacket.new serverAddress clientAddress data with
    sequenceNumber := BitVec.ofNat 32 sequenceNumber
    ackNumber := BitVec.ofNat 32 ackNumber
    ack := true
    receiveWindowSize := 0xffff }

/-- The client's socket. -/
def client : Endpoint := create 1 clientAddress ⟨0, 0⟩

/-- The client connects, and the server's SYN has the number `irs`. -/
def connectScript (irs : Nat) : List Input :=
  [.connect ⟨1, serverAddress, clientAddress.address⟩, .drain, .packet { segment irs 2 [] with syn := true },
    .drain, .drain]

end Endpoint

end Wifu
