import Wifu.Tahoe

/-!
# Delayed acknowledgements (`TCPDelayedACKReliabilityState.cc`, `TCPDelayedACKReliabilityContext.cc`)

The endpoint of a protocol whose reliability state is `TCPDelayedACKReliabilityState`.  The state overrides
`create_and_dispatch_ack`, `handle_data` and `state_timer_fired` of `TCPTahoeReliabilityState`, whose other functions
call the overriding ones; everything else is done by the handlers of the plain endpoint.  The duration of the ACK timer
is a floating point number and is left out.
-/

namespace Wifu

/-- What `TCPDelayedACKReliabilityContext` adds to its base class. -/
structure TCPDelayedACKReliabilityContext where
  delayCount : BitVec 16 := 2
  delay1 : BitVec 16 := 1
  delay2 : BitVec 16 := 3
  delay3 : BitVec 16 := 3
  delay4 : BitVec 16 := 4
  l1Threshold : BitVec 32 := 10000
  l2Threshold : BitVec 32 := 100000
  l3Threshold : BitVec 32 := 1000000
  ackTimer : Option TimeoutEvent := none
  curAckCount : BitVec 16 := 0
  deriving DecidableEq, Repr

/-- `get_delay_based_on_seq_num`; the last test always holds when the others fail. -/
def TCPDelayedACKReliabilityContext.getDelayBasedOnSeqNum (c : TCPDelayedACKReliabilityContext) (seqnum : BitVec 32) :
    BitVec 16 :=
  if seqnum < c.l1Threshold then c.delay1
  else if c.l1Threshold ≤ seqnum ∧ seqnum < c.l2Threshold then c.delay2
  else if c.l2Threshold ≤ seqnum ∧ seqnum < c.l3Threshold then c.delay3
  else c.delay4

/-- `TCP_DELAYEDACK`, the level of the protocol's socket options. -/
def tcpDelayedAck : Int := 209

/-- `state_set_socket_option`; `value` is the integer that the option's data begins with. -/
def TCPDelayedACKReliabilityContext.setSocketOption (c : TCPDelayedACKReliabilityContext) (level optionName : Int)
    (value : BitVec 32) : TCPDelayedACKReliabilityContext :=
  if level = tcpDelayedAck then
    if optionName = 1 then { c with l1Threshold := value }
    else if optionName = 2 then { c with l2Threshold := value }
    else if optionName = 3 then { c with l3Threshold := value }
    else c
  else c

structure DelayedACKEndpoint extends Endpoint where
  delayed : TCPDelayedACKReliabilityContext := {}
  deriving DecidableEq

/-- The ways a handler stops the process. -/
inductive DelayedACKAbort
  | base (a : Abort)
  /-- `assert(rc->get_ack_timeout_event())` of `cancel_ack_timer`. -/
  | noAckTimer
  deriving DecidableEq, Repr

namespace DelayedACKEndpoint

def create (id : SocketId) (localAddress remoteAddress : AddressPort) : DelayedACKEndpoint :=
  { Endpoint.create id localAddress remoteAddress with }

/-- A handler that the reliability state has no part in, or that it inherits. -/
def lift (d : DelayedACKEndpoint) (x : Except Abort Endpoint) : Except DelayedACKAbort DelayedACKEndpoint :=
  match x with
  | .ok e => .ok { d with toEndpoint := e }
  | .error a => .error (.base a)

/-! ### The ACK timer -/

/-- `start_ack_timer`: tests whether the retransmission timer is running. -/
def startAckTimer (d : DelayedACKEndpoint) : DelayedACKEndpoint :=
  match d.rc.timeoutEvent with
  | some _ => d
  | none =>
    { d with
      toEndpoint := d.toEndpoint.dispatchTimeout d.socket.id
      delayed := { d.delayed with ackTimer := some (d.toEndpoint.newTimeout d.socket.id) } }

/-- `cancel_ack_timer`. -/
def cancelAckTimer (d : DelayedACKEndpoint) : Except DelayedACKAbort DelayedACKEndpoint :=
  match d.delayed.ackTimer with
  | none => .error .noAckTimer
  | some t =>
    .ok { d with
      toEndpoint := d.toEndpoint.dispatch (.cancelTimer (some t))
      delayed := { d.delayed with ackTimer := none } }

/-- `create_and_dispatch_ack`. -/
def createAndDispatchAck (d : DelayedACKEndpoint) : Except DelayedACKAbort DelayedACKEndpoint :=
  let d := { d with delayed := { d.delayed with curAckCount := d.delayed.curAckCount + 1 } }
  if d.delayed.delayCount ≤ d.delayed.curAckCount then do
    let d ← if 1 < d.delayed.delayCount then d.cancelAckTimer else .ok d
    .ok { d with
      toEndpoint := d.toEndpoint.createAndDispatchAck
      delayed := { d.delayed with curAckCount := 0 } }
  else if d.delayed.ackTimer = none then .ok d.startAckTimer
  else .ok d

/-! ### Receiving a packet -/

/-- `handle_ack`. -/
def handleAck (d : DelayedACKEndpoint) (p : TCPPacket) : Except DelayedACKAbort (Bool × DelayedACKEndpoint) :=
  if !p.ack then .ok (true, d)
  else if betweenEqualRight d.rc.snd.sndUna p.ackNumber d.rc.snd.sndMax then do
    let d ← d.lift (d.toEndpoint.handleValidAck p)
    .ok (true, d)
  else if lessThan d.rc.snd.sndMax p.ackNumber then do
    let d ← d.createAndDispatchAck
    .ok (false, d)
  else if betweenEqualLeft p.ackNumber d.rc.snd.sndUna d.rc.snd.sndNxt then
    .ok (true, { d with toEndpoint := d.toEndpoint.handleDuplicateAck p })
  else .ok (true, d)

/-- `TCPTahoeReliabilityState::handle_data` up to the acknowledgement. -/
def placeData (e : Endpoint) (p : TCPPacket) : Except Abort Endpoint := do
  let (numInserted, window) ← e.rc.receiveWindow.insert p
  check (numInserted ≤ e.rc.rcvWnd.toNat) .windowOverflow
  let (appended, window) ← window.getContinuousData e.rc.rcvNxt
  let e := { e with
    rc := { e.rc with
      rcvWnd := BitVec.ofInt 16 (e.rc.rcvWnd.toNat - numInserted)
      rcvNxt := e.rc.rcvNxt + BitVec.ofNat 32 appended.length
      receiveWindow := window }
    socket := { e.socket with receiveBuffer := e.socket.receiveBuffer ++ appended } }
  .ok (if 0 < appended.length then e.enqueue .receiveBufferNotEmpty else e)

/-- `handle_data`. -/
def handleData (d : DelayedACKEndpoint) (p : TCPPacket) : Except DelayedACKAbort DelayedACKEndpoint := do
  let d := { d with
    delayed := { d.delayed with delayCount := d.delayed.getDelayBasedOnSeqNum p.sequenceNumber } }
  let d ← d.lift (placeData d.toEndpoint p)
  d.createAndDispatchAck

/-- `handle_control_bits_and_data`. -/
def handleControlBitsAndData (d : DelayedACKEndpoint) (p : TCPPacket) : Except DelayedACKAbort DelayedACKEndpoint :=
  if p.syn || p.fin then .ok { d with toEndpoint := d.toEndpoint.handleControlBits p }
  else if 0 < p.dataLengthBytes then d.handleData p
  else .ok d

/-- `state_receive_packet`. -/
def reliabilityReceivePacket (d : DelayedACKEndpoint) (p : TCPPacket) : Except DelayedACKAbort DelayedACKEndpoint := do
  let (proceed, d) ← { d with toEndpoint := d.toEndpoint.updateEchoReply p }.handleAck p
  if proceed then d.handleControlBitsAndData p else .ok d

/-! ### Delivering received data -/

/-- The receive window at least doubles when `r` is answered, and the peer is told. -/
def doublesWindow (e : Endpoint) (r : ReceiveEvent) : Prop :=
  2 * e.rc.rcvWnd.toNat ≤ e.rc.rcvWnd.toNat + min (e.socket.receiveBuffer.length - e.rc.receiveIndex) r.dataLength

instance (e : Endpoint) (r : ReceiveEvent) : Decidable (doublesWindow e r) := inferInstanceAs (Decidable (_ ≤ _))

/-- `TCPTahoeReliabilityState::create_and_dispatch_received_data` after the acknowledgement. -/
def handOver (e : Endpoint) (r : ReceiveEvent) : Endpoint :=
  let length := min (e.socket.receiveBuffer.length - e.rc.receiveIndex) r.dataLength
  let data := (e.socket.receiveBuffer.drop e.rc.receiveIndex).take length
  let receiveIndex := e.rc.receiveIndex + length
  let cleared := receiveIndex ≥ e.socket.receiveBuffer.length
  let e := { e with
    rc := { e.rc with
      rcvWnd := e.rc.rcvWnd + BitVec.ofNat 16 length, receiveIndex := if cleared then 0 else receiveIndex }
    socket := { e.socket with receiveBuffer := if cleared then [] else e.socket.receiveBuffer } }
  (e.dispatch (.receiveResponse r data e.socket.remoteAddress)).enqueue .receiveBufferNotFull

/-- `create_and_dispatch_received_data`. -/
def createAndDispatchReceivedData (d : DelayedACKEndpoint) (r : ReceiveEvent) :
    Except DelayedACKAbort DelayedACKEndpoint := do
  let d ← if doublesWindow d.toEndpoint r then d.createAndDispatchAck else .ok d
  .ok { d with toEndpoint := handOver d.toEndpoint r }

/-- `state_receive_buffer_not_empty`. -/
def reliabilityReceiveBufferNotEmpty (d : DelayedACKEndpoint) : Except DelayedACKAbort DelayedACKEndpoint :=
  match d.rc.receiveEvent with
  | none => .ok d
  | some r =>
    if d.socket.receiveBuffer = [] then .ok d
    else do
      let d ← d.createAndDispatchReceivedData r
      .ok { d with rc := { d.rc with receiveEvent := none } }

/-- `state_receive`. -/
def reliabilityReceive (d : DelayedACKEndpoint) (r : ReceiveEvent) : Except DelayedACKAbort DelayedACKEndpoint :=
  if d.socket.receiveBuffer ≠ [] then d.createAndDispatchReceivedData r
  else d.lift (d.toEndpoint.reliabilityReceive r)

/-! ### A timer fires -/

/-- `state_timer_fired`. -/
def reliabilityTimerFired (d : DelayedACKEndpoint) (t : TimeoutEvent) : DelayedACKEndpoint :=
  let d := { d with toEndpoint := d.toEndpoint.reliabilityTimerFired t }
  if d.delayed.ackTimer = some t then
    { d with
      toEndpoint := d.toEndpoint.createAndDispatchAck
      delayed := { d.delayed with ackTimer := none, curAckCount := 0 } }
  else d

/-! ### The protocol's handlers -/

/-- `icontext_receive_packet`. -/
def receivePacket (d : DelayedACKEndpoint) (p : TCPPacket) : Except DelayedACKAbort DelayedACKEndpoint :=
  if !p.validChecksum then .ok d
  else if p.ack && !Endpoint.isValidAckNumber d.rc p then d.reliabilityReceivePacket p
  else if !Endpoint.isValidSequenceNumber d.rc p then
    if d.cmc.state = .timeWait then .ok { d with toEndpoint := d.toEndpoint.managerReceivePacket p }
    else if d.cmc.state.canSendAck then .ok { d with toEndpoint := d.toEndpoint.createAndDispatchAck }
    else .ok d
  else if p.fin ∧ d.rc.rcvWnd.toNat < maxTcpReceiveWindowSize then .ok { d with savedFin := some p }
  else do
    let dupAck := Endpoint.isDuplicateAck d.rc p
    let d ← d.reliabilityReceivePacket p
    let d ← d.lift ((d.toEndpoint.managerReceivePacket p).receiveUnlessDuplicate p dupAck)
    .ok { d with toEndpoint := d.toEndpoint.runSavedClose }

/-- `icontext_timer_fired_event`. -/
def timerFired (d : DelayedACKEndpoint) (t : TimeoutEvent) : Except DelayedACKAbort DelayedACKEndpoint :=
  let d := d.reliabilityTimerFired t
  d.lift ((d.toEndpoint.managerTimerFired t).congestionTimerFired t)

/-- The handler of a protocol event. -/
def handleProtocolEvent (d : DelayedACKEndpoint) (k : ProtocolEventKind) :
    Except DelayedACKAbort DelayedACKEndpoint :=
  match k with
  | .receiveBufferNotEmpty => d.reliabilityReceiveBufferNotEmpty
  | k => d.lift (d.toEndpoint.handleProtocolEvent k)

/-- The next waiting protocol event. -/
def drain (d : DelayedACKEndpoint) : Except DelayedACKAbort DelayedACKEndpoint :=
  match d.queue with
  | [] => .ok d
  | v :: vs =>
    let d := { d with queue := vs }
    if d.contains v.socket then d.handleProtocolEvent v.kind else .ok d

/-- What the endpoint reads. -/
inductive Input
  /-- An event of the plain endpoint. -/
  | event (i : Endpoint.Input)
  | setSocketOption (level optionName : Int) (value : BitVec 32)
  deriving DecidableEq

/-- The handler of an event of low priority. -/
def handleLow (d : DelayedACKEndpoint) (i : Endpoint.Input) : Except DelayedACKAbort DelayedACKEndpoint :=
  match i with
  | .receive r => if d.cmc.state.canReceive then d.reliabilityReceive r else .ok d
  | .packet p => d.receivePacket p
  | .redeliver =>
    match d.redelivered with
    | [] => .ok d
    | p :: ps => { d with redelivered := ps }.receivePacket p
  | .timerFired t => if t.socket = d.socket.id then d.timerFired t else .ok d
  | i => d.lift (d.toEndpoint.handleLow i)

/-- The step of an endpoint; an event about a socket that has been deleted is dropped. -/
def step (i : Input) (d : DelayedACKEndpoint) : Except DelayedACKAbort DelayedACKEndpoint :=
  match i with
  | .event .drain => d.drain
  | .event i => if d.deleted then .ok d else d.handleLow i
  | .setSocketOption level optionName value =>
    if d.deleted then .ok d else .ok { d with delayed := d.delayed.setSocketOption level optionName value }

/-- Events of low priority wait until no protocol event does. -/
def enabled : Input → DelayedACKEndpoint → Prop
  | .event i, d => Endpoint.enabled i d.toEndpoint
  | .setSocketOption _ _ _, d => d.queue = []

instance : (i : Input) → (d : DelayedACKEndpoint) → Decidable (enabled i d)
  | .event i, d => inferInstanceAs (Decidable (Endpoint.enabled i d.toEndpoint))
  | .setSocketOption _ _ _, d => inferInstanceAs (Decidable (d.queue = []))

/-- The machine whose runs are the runs of an endpoint with delayed acknowledgements. -/
def machine : Transition.Machine DelayedACKEndpoint Input DelayedACKAbort := ⟨enabled, step⟩

instance (i : Input) (d : DelayedACKEndpoint) : Decidable (machine.enabled i d) :=
  inferInstanceAs (Decidable (enabled i d))

end DelayedACKEndpoint

end Wifu
