import Wifu.Endpoint

/-!
# The congestion control states (`TCPTahoeBaseCongestionControl.cc`, `SlowStart.cc`, `CongestionAvoidance.cc`)

The handlers of the congestion control states on an endpoint.  They choose the payload of the data segments and track
what the peer's window allows.
-/

namespace Wifu

namespace Endpoint

/-! ### Congestion window -/

/-- `set_cwnd` of both states. -/
def setCwnd (c : TCPTahoeCongestionControlContext) : Except Abort TCPTahoeCongestionControlContext :=
  match c.state with
  | .slowStart =>
    let cwnd := c.cwnd + BitVec.ofNat 32 mss
    .ok { c with
      cwnd := cwnd
      state := if c.ssthreshold.toNat < cwnd.toNat then .congestionAvoidance else .slowStart }
  | .congestionAvoidance => do
    check (c.cwnd != 0) .divisionByZero
    .ok { c with cwnd := c.cwnd + BitVec.ofNat 32 (mss * mss) / c.cwnd }

/-- `resend` of both states; `CongestionAvoidance` goes back to `SlowStart`. -/
def congestionResend (c : TCPTahoeCongestionControlContext) : TCPTahoeCongestionControlContext :=
  { c with
    ssthreshold := BitVec.ofNat 16 (max (c.snd.numOutstanding.toNat / 2) (mss * 2))
    state := .slowStart
    cwnd := BitVec.ofNat 32 mss }

/-! ### Data segments -/

/-- The bytes of the send buffer that are not outstanding, as a signed number. -/
def numUnsent (e : Endpoint) : Int := e.socket.sendBuffer.length - e.ccc.snd.numOutstanding.toInt

/-- `get_send_data_length`. -/
def getSendDataLength (e : Endpoint) (ignoreWindow : Bool) : Except Abort Int := do
  let dataLength := min (min e.numUnsent maxDataLength) maxTcpReceiveWindowSize
  let dataLength := if ignoreWindow then dataLength
    else min dataLength (e.ccc.maxAllowedToSend - e.ccc.snd.numOutstanding.toInt)
  check (0 < dataLength) .sendDataLength
  .ok dataLength

/-- `send_one_packet`. -/
def sendOnePacket (e : Endpoint) (ignoreWindow : Bool) : Except Abort Endpoint := do
  let index := e.ccc.snd.numOutstanding.toInt
  let dataLength ← e.getSendDataLength ignoreWindow
  check (0 < e.socket.sendBuffer.length) .sendBufferEmpty
  check (0 ≤ index) .sendOutOfBounds
  let data := (e.socket.sendBuffer.drop index.toNat).take dataLength.toNat
  let p := TCPPacket.new e.socket.localAddress e.socket.remoteAddress data
  check (0 < p.dataLengthBytes) .sendPayloadEmpty
  let ccc := { e.ccc with snd := e.ccc.snd.setSndNxt (e.ccc.snd.sndNxt + BitVec.ofInt 32 dataLength) }
  .ok ({ e with ccc := ccc }.enqueue (.sendPacket p))

/-- The condition of the loop of `send_packets`. -/
def roomToSend (e : Endpoint) : Bool :=
  0 < e.numUnsent && decide (e.ccc.snd.numOutstanding.toNat < e.ccc.maxAllowedToSend)

/-- The loop of `send_packets`; the fuel bounds the number of segments. -/
def sendPacketsLoop : Nat → Endpoint → Except Abort Endpoint
  | 0, e => .ok e
  | fuel + 1, e =>
    if e.roomToSend then do
      let e ← e.sendOnePacket false
      sendPacketsLoop fuel e
    else .ok e

/-- `send_packets`; each segment takes at least one byte of the send buffer. -/
def sendPackets (e : Endpoint) : Except Abort Endpoint := sendPacketsLoop e.socket.sendBuffer.length e

/-- `get_resend_data_length`. -/
def getResendDataLength (e : Endpoint) : Except Abort Int := do
  let dataLength :=
    min (min e.numUnsent maxDataLength) (min (e.ccc.maxAllowedToSend : Int) maxTcpReceiveWindowSize)
  check (0 < dataLength) .resendDataLength
  .ok dataLength

/-- The packet that `resend_data` makes. -/
def resendPacket (e : Endpoint) : Except Abort TCPPacket := do
  let sendBuffer := e.socket.sendBuffer
  let p := TCPPacket.new e.socket.localAddress e.socket.remoteAddress
  check (!sendBuffer.isEmpty) .resendBufferEmpty
  if sendBuffer.head? = some synByte then .ok { p [] with syn := true }
  else if sendBuffer.head? = some finByte then .ok { p [] with fin := true }
  else do
    let length ← e.getResendDataLength
    let length := if sendBuffer.getLast? = some finByte then length - 1 else length
    check (0 < length) .resendPayloadEmpty
    .ok (p (sendBuffer.take length.toNat))

/-- `resend_data`. -/
def resendData (e : Endpoint) : Except Abort Endpoint := do
  let p ← e.resendPacket
  let ccc := { e.ccc with snd := e.ccc.snd.setSndNxt (e.ccc.snd.sndUna + p.sequenceLength) }
  .ok ({ e with ccc := ccc }.enqueue (.sendPacket p))

/-! ### Handlers -/

/-- `state_timer_fired`: the probe timer. -/
def congestionTimerFired (e : Endpoint) (t : TimeoutEvent) : Except Abort Endpoint :=
  if e.ccc.probeTimer = some t then
    let e := { e with ccc := { e.ccc with probeTimer := some (e.newTimeout e.socket.id) } }.dispatchTimeout e.socket.id
    e.sendOnePacket true
  else .ok e

/-- `state_send_packet`. -/
def congestionSendPacket (e : Endpoint) (p : TCPPacket) : Endpoint :=
  let snd :=
    if p.syn then (e.ccc.snd.setSndUna iss).setSndNxt (iss + 1)
    else if p.fin then e.ccc.snd.setSndNxt (e.ccc.snd.sndNxt + 1)
    else e.ccc.snd
  { e with ccc := { e.ccc with snd := snd, dataSent := e.ccc.dataSent || decide (0 < p.dataLengthBytes) } }

/-- `state_resend_packet`. -/
def congestionResendPacket (e : Endpoint) : Except Abort Endpoint :=
  let ccc := congestionResend e.ccc
  { e with ccc := { ccc with snd := ccc.snd.setSndNxt ccc.snd.sndUna } }.resendData

/-- The send window of the context after a segment (RFC 793, page 72). -/
def updateSendWindow (c : TCPTahoeCongestionControlContext) (p : TCPPacket) : TCPTahoeCongestionControlContext :=
  if lessThan c.sndWnd1 p.sequenceNumber ∨
      (c.sndWnd1 = p.sequenceNumber ∧ lessThanOrEqual c.sndWnd2 p.ackNumber) then
    { c with sndWnd := p.receiveWindowSize, sndWnd1 := p.sequenceNumber, sndWnd2 := p.ackNumber }
  else c

/-- Starts the probe timer when it is not running. -/
def startProbeTimer (e : Endpoint) : Endpoint :=
  match e.ccc.probeTimer with
  | some _ => e
  | none =>
    { e with ccc := { e.ccc with probeTimer := some (e.newTimeout e.socket.id) } }.dispatchTimeout e.socket.id

/-- Cancels the probe timer when it is running. -/
def cancelProbeTimer (e : Endpoint) : Endpoint :=
  match e.ccc.probeTimer with
  | none => e
  | some t => { e with ccc := { e.ccc with probeTimer := none } }.dispatch (.cancelTimer (some t))

/-- The congestion control context after an acceptable ACK; only a new one changes the congestion window. -/
def acknowledgeSegment (c : TCPTahoeCongestionControlContext) (p : TCPPacket) :
    Except Abort TCPTahoeCongestionControlContext :=
  let betweenAndEqualRight := betweenEqualRight c.snd.sndUna p.ackNumber c.snd.sndMax
  let c := updateSendWindow { c with snd := c.snd.acknowledge p.ackNumber } p
  if betweenAndEqualRight && c.dataSent then setCwnd c else .ok c

/-- The end of `state_receive_packet`: sends when there is room, else has the peer's window probed. -/
def sendOrProbe (e : Endpoint) : Except Abort Endpoint :=
  if e.ccc.snd.numOutstanding.toNat ≥ e.ccc.maxAllowedToSend then .ok e.startProbeTimer
  else e.cancelProbeTimer.sendPackets

/-- `state_receive_packet`. -/
def congestionReceivePacket (e : Endpoint) (p : TCPPacket) : Except Abort Endpoint :=
  if p.ack && betweenEqual e.ccc.snd.sndUna p.ackNumber e.ccc.snd.sndMax then do
    let ccc ← acknowledgeSegment e.ccc p
    { e with ccc := ccc }.sendOrProbe
  else .ok e

end Endpoint

end Wifu
