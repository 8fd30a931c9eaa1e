import Wifu.Endpoint

/-!
# The reliability state (`TCPTahoeReliabilityState.cc`)

The handlers of `TCPTahoeReliabilityState` on an endpoint.
-/

namespace Wifu

namespace Endpoint

/-! ### Timers and retransmission -/

/-- `start_timer`: only when it is not already running. -/
def startTimer (e : Endpoint) : Endpoint :=
  match e.rc.timeoutEvent with
  | some _ => e
  | none => { e with rc := { e.rc with timeoutEvent := some (e.newTimeout e.socket.id) } }.dispatchTimeout e.socket.id

/-- `cancel_timer`. -/
def cancelTimer (e : Endpoint) : Endpoint :=
  match e.rc.timeoutEvent with
  | none => e
  | some t => { e with rc := { e.rc with timeoutEvent := none } }.dispatch (.cancelTimer (some t))

/-- `reset_timer`. -/
def resetTimer (e : Endpoint) : Endpoint := e.cancelTimer.startTimer

/-- `resend_data` of the reliability state. -/
def requestResend (e : Endpoint) (reason : ResendReason) : Endpoint :=
  { e with rc := { e.rc with snd := e.rc.snd.setSndNxt e.rc.snd.sndUna } }.enqueue (.resendPacket reason)

/-- `state_timer_fired`. -/
def reliabilityTimerFired (e : Endpoint) (t : TimeoutEvent) : Endpoint :=
  if e.rc.timeoutEvent = some t then { e with rc := { e.rc with timeoutEvent := none } }.requestResend .timeout
  else e

/-! ### Sending a packet -/

/-- `set_sequence_number_and_update_window_variables`: the packet with its sequence number, and the context. -/
def setSequenceNumber (rc : TCPTahoeReliabilityContext) (p : TCPPacket) : TCPPacket × TCPTahoeReliabilityContext :=
  if !rc.initialized then
    ({ p with sequenceNumber := iss },
      { rc with snd := (rc.snd.setSndUna iss).setSndNxt (iss + 1), initialized := true })
  else
    ({ p with sequenceNumber := rc.snd.sndNxt },
      { rc with snd := rc.snd.setSndNxt (rc.snd.sndNxt + p.sequenceLength) })

/-- `set_ack_number_and_bit`. -/
def setAckNumberAndBit (rc : TCPTahoeReliabilityContext) (p : TCPPacket) : TCPPacket :=
  { p with ackNumber := rc.rcvNxt, ack := p.ack || rc.rcvNxt != 0 }

/-- `check_and_start_timer`. -/
def checkAndStartTimer (e : Endpoint) (p : TCPPacket) : Endpoint :=
  if 0 < p.dataLengthBytes ∨ p.syn ∨ p.fin then e.startTimer else e

/-- The send buffer after `append_control_bytes_to_send_buffer`. -/
def appendControlBytes (sendBuffer : List UInt8) (p : TCPPacket) : Except Abort (List UInt8) :=
  if p.syn ∧ sendBuffer.head? ≠ some synByte then do
    check sendBuffer.isEmpty .synBufferNotEmpty
    .ok (sendBuffer ++ [synByte])
  else if p.fin ∧ sendBuffer.getLast? ≠ some finByte then .ok (sendBuffer ++ [finByte])
  else .ok sendBuffer

/-- `insert_timestamp`. -/
def insertTimestamp (e : Endpoint) (p : TCPPacket) : Except Abort TCPPacket :=
  match p.timestamp with
  | none => .error .noTimestampOption
  | some option =>
    .ok { p with timestamp := some ⟨e.now, if e.rc.echoReply ≠ 0 then e.rc.echoReply else option.echoReply⟩ }

/-- `set_and_save_receive_window_size`. -/
def setReceiveWindowSize (rc : TCPTahoeReliabilityContext) (p : TCPPacket) : TCPPacket :=
  { p with receiveWindowSize := rc.rcvWnd }

/-- `state_send_packet`: the packet as it leaves, and the endpoint. -/
def reliabilitySendPacket (e : Endpoint) (p : TCPPacket) : Except Abort (TCPPacket × Endpoint) := do
  let (p, rc) := setSequenceNumber e.rc p
  let e := { e with rc := rc }
  let p := setAckNumberAndBit e.rc p
  let e := e.checkAndStartTimer p
  let sendBuffer ← appendControlBytes e.socket.sendBuffer p
  let e := { e with socket := { e.socket with sendBuffer := sendBuffer } }
  let p ← e.insertTimestamp p
  .ok (setReceiveWindowSize e.rc p, e)

/-! ### Delivering received data -/

/-- `create_and_dispatch_received_data`; its assertions compare the length with the bounds it is the minimum of. -/
def createAndDispatchReceivedData (e : Endpoint) (r : ReceiveEvent) : Endpoint :=
  let length := min (e.socket.receiveBuffer.length - e.rc.receiveIndex) r.dataLength
  let data := (e.socket.receiveBuffer.drop e.rc.receiveIndex).take length
  let receiveIndex := e.rc.receiveIndex + length
  let address := e.socket.remoteAddress
  -- the receive window has at least doubled (RFC 2581 section 4.2)
  let e := if e.rc.rcvWnd.toNat + length ≥ 2 * e.rc.rcvWnd.toNat then e.createAndDispatchAck else e
  let rcvWnd := e.rc.rcvWnd + BitVec.ofNat 16 length
  let cleared := receiveIndex ≥ e.socket.receiveBuffer.length
  let e := { e with
    rc := { e.rc with rcvWnd := rcvWnd, receiveIndex := if cleared then 0 else receiveIndex }
    socket := { e.socket with receiveBuffer := if cleared then [] else e.socket.receiveBuffer } }
  (e.dispatch (.receiveResponse r data address)).enqueue .receiveBufferNotFull

/-- `state_receive_buffer_not_empty`. -/
def reliabilityReceiveBufferNotEmpty (e : Endpoint) : Endpoint :=
  match e.rc.receiveEvent with
  | none => e
  | some r =>
    if e.socket.receiveBuffer = [] then e
    else
      let e := e.createAndDispatchReceivedData r
      { e with rc := { e.rc with receiveEvent := none } }

/-- `state_receive`. -/
def reliabilityReceive (e : Endpoint) (r : ReceiveEvent) : Except Abort Endpoint :=
  if e.socket.receiveBuffer ≠ [] then .ok (e.createAndDispatchReceivedData r)
  else do
    check e.rc.receiveEvent.isNone .receivePending
    .ok { e with rc := { e.rc with receiveEvent := some r } }

/-! ### Receiving a packet -/

/-- `update_echo_reply`. -/
def updateEchoReply (e : Endpoint) (p : TCPPacket) : Endpoint :=
  match p.timestamp with
  | none => e
  | some ts => { e with rc := { e.rc with echoReply := ts.timestamp } }

/-- `handle_valid_ack`. -/
def handleValidAck (e : Endpoint) (p : TCPPacket) : Except Abort Endpoint := do
  let numAcked := p.ackNumber - e.rc.snd.sndUna
  let e := { e with
    rc := { e.rc with snd := e.rc.snd.acknowledge p.ackNumber }
    socket := { e.socket with sendBuffer := e.socket.sendBuffer.drop numAcked.toNat } }
  let e := e.enqueue .sendBufferNotFull
  check p.timestamp.isSome .nullTimestamp
  if e.rc.snd.sndNxt = e.rc.snd.sndUna then .ok e.cancelTimer
  else if 0 < numAcked then .ok e.resetTimer
  else .ok e

/-- The duplicate ACK counter of `handle_duplicate_ack`. -/
def countDuplicateAck (rc : TCPTahoeReliabilityContext) (p : TCPPacket) : TCPTahoeReliabilityContext :=
  if rc.duplicateAckNumber = p.ackNumber then { rc with duplicates := rc.duplicates + 1 }
  else { rc with duplicateAckNumber := p.ackNumber, duplicates := 0 }

/-- `handle_duplicate_ack`. -/
def handleDuplicateAck (e : Endpoint) (p : TCPPacket) : Endpoint :=
  let e := { e with rc := countDuplicateAck e.rc p }
  if e.rc.duplicates = 3 then e.requestResend .threeDuplicateAcks else e

/-- `handle_ack`; the flag tells whether the packet is processed any further. -/
def handleAck (e : Endpoint) (p : TCPPacket) : Except Abort (Bool × Endpoint) :=
  if !p.ack then .ok (true, e)
  else if betweenEqualRight e.rc.snd.sndUna p.ackNumber e.rc.snd.sndMax then do
    let e ← e.handleValidAck p
    .ok (true, e)
  else if lessThan e.rc.snd.sndMax p.ackNumber then .ok (false, e.createAndDispatchAck)
  else if betweenEqualLeft p.ackNumber e.rc.snd.sndUna e.rc.snd.sndNxt then .ok (true, e.handleDuplicateAck p)
  else .ok (true, e)

/-- `handle_control_bits`. -/
def handleControlBits (e : Endpoint) (p : TCPPacket) : Endpoint :=
  let rcvNxt := p.sequenceNumber + 1
  let receiveWindow := if p.syn then e.rc.receiveWindow.setFirstSequenceNumber rcvNxt else e.rc.receiveWindow
  { e with rc := { e.rc with rcvNxt := rcvNxt, receiveWindow := receiveWindow } }

/-- `handle_data`. -/
def handleData (e : Endpoint) (p : TCPPacket) : Except Abort Endpoint := do
  let (numInserted, window) ← e.rc.receiveWindow.insert p
  check (numInserted ≤ e.rc.rcvWnd.toNat) .windowOverflow
  let (appended, window) ← window.getContinuousData e.rc.rcvNxt
  let e := { e with
    rc := { e.rc with
      rcvWnd := BitVec.ofInt 16 (e.rc.rcvWnd.toNat - numInserted)
      rcvNxt := e.rc.rcvNxt + BitVec.ofNat 32 appended.length
      receiveWindow := window }
    socket := { e.socket with receiveBuffer := e.socket.receiveBuffer ++ appended } }
  let e := if 0 < appended.length then e.enqueue .receiveBufferNotEmpty else e
  .ok e.createAndDispatchAck

/-- `handle_control_bits_and_data`. -/
def handleControlBitsAndData (e : Endpoint) (p : TCPPacket) : Except Abort Endpoint :=
  if p.syn || p.fin then .ok (e.handleControlBits p)
  else if 0 < p.dataLengthBytes then e.handleData p
  else .ok e

/-- `state_receive_packet`. -/
def reliabilityReceivePacket (e : Endpoint) (p : TCPPacket) : Except Abort Endpoint := do
  let (proceed, e) ← (e.updateEchoReply p).handleAck p
  if proceed then e.handleControlBitsAndData p else .ok e

end Endpoint

end Wifu
