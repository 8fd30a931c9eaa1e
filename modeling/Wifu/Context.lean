import Wifu.PacketBuffer

/-!
# Contexts (`OutstandingDataContext.cc`, `TCPTahoeReliabilityContext.cc`, `TCPTahoeCongestionControlContext.cc`,
`ConnectionManagerContext.cc`, `TCPTahoeIContextContainer.cc`)

The three contexts of a connection and the container that holds them.  The retransmission timeout and its estimators
are floating point numbers that only set the duration of timers; they are left out.
-/

namespace Wifu

/-- The `iss` that `TCPTahoeIContextContainer` gives both sending contexts. -/
def iss : BitVec 32 := 1

/-- `get_mss`: the constructor sets it to the length of a packet's data with one timestamp option. -/
def mss : Nat := maxDataLength

/-- What a context that sends keeps about the bytes on their way. -/
structure OutstandingDataContext where
  sndNxt : BitVec 32 := 0
  sndUna : BitVec 32 := 0
  sndMax : BitVec 32 := 0
  deriving DecidableEq, Repr

namespace OutstandingDataContext

/-- `set_snd_nxt`; keeps the biggest `snd_nxt` in `snd_max`. -/
def setSndNxt (c : OutstandingDataContext) (sndNxt : BitVec 32) : OutstandingDataContext :=
  { c with sndNxt := sndNxt, sndMax := if lessThan c.sndMax sndNxt then sndNxt else c.sndMax }

/-- `set_snd_una`. -/
def setSndUna (c : OutstandingDataContext) (sndUna : BitVec 32) : OutstandingDataContext := { c with sndUna := sndUna }

/-- `get_num_outstanding`. -/
def numOutstanding (c : OutstandingDataContext) : BitVec 32 := c.sndNxt - c.sndUna

/-- An acknowledged number becomes `snd_una`, and `snd_nxt` when it lies behind. -/
def acknowledge (c : OutstandingDataContext) (ackNumber : BitVec 32) : OutstandingDataContext :=
  let c := c.setSndUna ackNumber
  if lessThan c.sndNxt c.sndUna then c.setSndNxt c.sndUna else c

@[simp] theorem setSndNxt_sndNxt (c : OutstandingDataContext) (n : BitVec 32) : (c.setSndNxt n).sndNxt = n := rfl

@[simp] theorem setSndNxt_sndUna (c : OutstandingDataContext) (n : BitVec 32) :
    (c.setSndNxt n).sndUna = c.sndUna := rfl

@[simp] theorem setSndUna_sndNxt (c : OutstandingDataContext) (n : BitVec 32) :
    (c.setSndUna n).sndNxt = c.sndNxt := rfl

@[simp] theorem setSndUna_sndUna (c : OutstandingDataContext) (n : BitVec 32) : (c.setSndUna n).sndUna = n := rfl

@[simp] theorem setSndUna_sndMax (c : OutstandingDataContext) (n : BitVec 32) :
    (c.setSndUna n).sndMax = c.sndMax := rfl

end OutstandingDataContext

structure TCPTahoeReliabilityContext where
  snd : OutstandingDataContext := {}
  initialized : Bool := false
  rcvNxt : BitVec 32 := 0
  rcvWnd : BitVec 16 := BitVec.ofNat 16 maxTcpReceiveWindowSize
  timeoutEvent : Option TimeoutEvent := none
  duplicateAckNumber : BitVec 32 := 0
  duplicates : Int := 0
  receiveWindow : TCPPacketBuffer := {}
  receiveEvent : Option ReceiveEvent := none
  echoReply : BitVec 32 := 0
  receiveIndex : Nat := 0
  deriving DecidableEq

/-- The states of the congestion control. -/
inductive CongestionControlState
  | slowStart
  | congestionAvoidance
  deriving DecidableEq, Repr

/-- The congestion window that `SlowStart::state_enter` sets (RFC 3390). -/
def initialCwnd : Nat := min (4 * mss) (max (2 * mss) 4380)

structure TCPTahoeCongestionControlContext where
  snd : OutstandingDataContext := {}
  state : CongestionControlState := .slowStart
  sndWnd : BitVec 16 := 0
  sndWnd1 : BitVec 32 := 0
  sndWnd2 : BitVec 32 := 0
  probeTimer : Option TimeoutEvent := none
  cwnd : BitVec 32 := BitVec.ofNat 32 initialCwnd
  ssthreshold : BitVec 16 := 0xffff
  dataSent : Bool := false
  deriving DecidableEq, Repr

/-- `get_max_allowed_to_send`: the smaller window, rounded down to whole segments. -/
def TCPTahoeCongestionControlContext.maxAllowedToSend (c : TCPTahoeCongestionControlContext) : Nat :=
  let space := min c.sndWnd.toNat c.cwnd.toNat
  space - space % mss

/-- The states of the connection manager. -/
inductive ConnectionManagerState
  | closed
  | listen
  | synSent
  | synReceived
  | established
  | finWait1
  | finWait2
  | closeWait
  | closing
  | lastAck
  | timeWait
  deriving DecidableEq, Repr

inductive ConnectionType
  | passiveOpen
  | activeOpen
  | established
  deriving DecidableEq, Repr

structure ConnectionManagerContext where
  state : ConnectionManagerState := .closed
  /-- `timeout_event_` of the `TimeWait` state. -/
  timeWaitTimer : Option TimeoutEvent := none
  connectionType : ConnectionType := .passiveOpen
  connectEvent : Option ConnectEvent := none
  listenEvent : Option ListenEvent := none
  socket : SocketId := 0
  acceptSocket : SocketId := 0
  deriving DecidableEq, Repr

/-- The container's contexts and the events it saves for a connection. -/
structure TCPTahoeIContextContainer where
  rc : TCPTahoeReliabilityContext := {}
  ccc : TCPTahoeCongestionControlContext := {}
  cmc : ConnectionManagerContext := {}
  savedSendEvent : Option SendEvent := none
  savedCloseEvent : Option CloseEvent := none
  savedFin : Option TCPPacket := none
  deriving DecidableEq

/-- What `icontext_can_send` answers in a state. -/
def ConnectionManagerState.canSend : ConnectionManagerState → Bool
  | .established | .closeWait => true
  | _ => false

/-- What `icontext_can_receive` answers in a state. -/
def ConnectionManagerState.canReceive : ConnectionManagerState → Bool
  | .established | .finWait1 | .finWait2 => true
  | _ => false

/-- `states_we_can_send_ack_`. -/
def ConnectionManagerState.canSendAck : ConnectionManagerState → Bool
  | .established | .finWait1 | .finWait2 | .closeWait | .closing | .lastAck | .timeWait => true
  | _ => false

end Wifu
