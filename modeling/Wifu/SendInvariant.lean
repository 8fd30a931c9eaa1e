import Wifu.SendStream

/-!
# The invariant of the sending side

An endpoint that has not sent its SYN has sent nothing.  After that it is in one of four modes: open, with a
retransmission requested, with its FIN waiting in the queue, or with its FIN sent.  In each mode the two sending
contexts stand at positions of one send stream.  `strict` says that no FIN has been sent twice.
-/

namespace Wifu

/-- States in which no FIN has been sent. -/
def ConnectionManagerState.isOpen : ConnectionManagerState → Bool
  | .synSent | .synReceived | .established | .closeWait => true
  | _ => false

/-- States reached by closing. -/
def ConnectionManagerState.isClosing : ConnectionManagerState → Bool
  | .finWait1 | .finWait2 | .closing | .lastAck | .timeWait | .closed => true
  | _ => false

/-- The handshake has not been completed. -/
def ConnectionManagerState.isEarly : ConnectionManagerState → Bool
  | .synSent | .synReceived => true
  | _ => false

namespace ProtocolEvent

def isResend (v : ProtocolEvent) : Bool :=
  match v.kind with
  | .resendPacket _ => true
  | _ => false

/-- The event makes the endpoint send data. -/
def sendsData (v : ProtocolEvent) : Bool :=
  match v.kind with
  | .sendBufferNotEmpty | .sendBufferNotFull => true
  | _ => false

/-- An event about socket `s` that sends no data and no control bit. -/
def Harmless (s : SocketId) (v : ProtocolEvent) : Prop :=
  match v.kind with
  | .sendPacket p => v.socket = s ∧ p.IsEmpty
  | .receiveBufferNotEmpty | .receiveBufferNotFull | .deleteSocket => v.socket = s
  | .connectionEstablished _ => True
  | _ => False

end ProtocolEvent

/-- The retransmissions requested in a queue. -/
def resends (q : List ProtocolEvent) : Nat := q.countP ProtocolEvent.isResend

/-- Nothing in the queue makes the endpoint send data. -/
def Quiet (q : List ProtocolEvent) : Prop := ∀ v ∈ q, v.sendsData = false

/-- One segment is a FIN and all others are empty. -/
def OneFin (ps : List TCPPacket) : Prop :=
  ∃ as p bs, ps = as ++ p :: bs ∧ p.IsFin ∧ (∀ q ∈ as, q.IsEmpty) ∧ ∀ q ∈ bs, q.IsEmpty

namespace Endpoint

def accepted (e : Endpoint) : List UInt8 := acceptedBytes e.dispatched

/-- No segment with content has been sent, and nothing accepted from the application. -/
structure Unsent (e : Endpoint) : Prop where
  initialized : e.rc.initialized = false
  rcSnd : e.rc.snd = {}
  cccSnd : e.ccc.snd = {}
  timeoutEvent : e.rc.timeoutEvent = none
  sendBuffer : e.socket.sendBuffer = []
  savedSendEvent : e.savedSendEvent = none
  accepted : e.accepted = []
  sent : ∀ p ∈ sentPackets e.dispatched, p.IsEmpty

/-- Before the SYN: nothing waits but the deletion of the socket, or the SYN waits. -/
structure PreSyn (e : Endpoint) : Prop extends Unsent e where
  queue :
    ((e.cmc.state = .closed ∨ e.cmc.state = .listen) ∧ ∀ v ∈ e.queue, v = ⟨e.socket.id, .deleteSocket⟩) ∨
    (e.cmc.state.isEarly = true ∧ ∃ p : TCPPacket, p.IsSyn ∧
      (e.queue = [⟨e.socket.id, .sendPacket p⟩] ∨
        ∃ s l r li, e.queue = [⟨e.socket.id, .connectionInitiated s l r li⟩, ⟨s, .sendPacket p⟩]))

/-- Timers are told apart by their numbers. -/
structure TimersOk (e : Endpoint) : Prop where
  timeoutEvent : ∀ t, e.rc.timeoutEvent = some t → t.id < e.nextTimer
  probeTimer : ∀ t, e.ccc.probeTimer = some t → t.id < e.nextTimer
  differ : ∀ t, e.rc.timeoutEvent = some t → e.ccc.probeTimer ≠ some t

/-- What holds in every mode. -/
structure SendBase (e : Endpoint) : Prop where
  initialized : e.rc.initialized = true
  deleted : e.deleted = false
  sent : ∀ p ∈ sentPackets e.dispatched, SentOk e.accepted p
  buffer_le : e.socket.sendBuffer.length ≤ tcpSocketMaxBufferSize
  timer : e.rc.timeoutEvent.isSome = true → e.socket.sendBuffer ≠ []
  timers : e.TimersOk
  early : e.cmc.state.isEarly = true → e.accepted = []
  saved : e.savedSendEvent.isSome = true → e.cmc.state.isEarly = false
  queue : ∀ v ∈ e.queue, (v.socket = e.socket.id ∨ ∃ s, v.kind = .connectionEstablished s) ∧
    ∀ s l r li, v.kind ≠ .connectionInitiated s l r li
  closed : e.cmc.state = .closed → ⟨e.socket.id, .deleteSocket⟩ ∈ e.queue

/-- Sending: the queue takes the positions from the one context's `snd_nxt` to the other's. -/
structure OpenMode (e : Endpoint) (u n m c : Nat) : Prop where
  rc : SndAt e.rc.snd u n m
  ccc : SndAt e.ccc.snd u c (max m c)
  order : u ≤ n ∧ n ≤ m ∧ m ≤ 1 + e.accepted.length ∧ 1 ≤ c
  buffer : e.socket.sendBuffer = (synByte :: e.accepted).drop u
  pending : Pending e.accepted n (waiting e.queue) c
  resends : resends e.queue = 0
  quiet : (∃ p ∈ waiting e.queue, p.syn = true) → Quiet e.queue
  state : e.cmc.state.isOpen = true
  finSent : finSent e.dispatched = false

/-- A retransmission has been requested and not yet been made. -/
structure ResendMode (e : Endpoint) (u m c : Nat) : Prop where
  rc : SndAt e.rc.snd u u m
  ccc : SndAt e.ccc.snd u c m
  order : u ≤ c ∧ c ≤ m ∧ m ≤ 1 + e.accepted.length ∧ u < 1 + e.accepted.length
  buffer : e.socket.sendBuffer = (synByte :: e.accepted).drop u
  empty : ∀ p ∈ waiting e.queue, p.IsEmpty
  resends : resends e.queue = 1
  quiet : Quiet e.queue
  state : e.cmc.state.isOpen = true
  finSent : finSent e.dispatched = false

/-- Everything has been acknowledged and the FIN waits in the queue. -/
structure FinWaitingMode (e : Endpoint) : Prop where
  rc : SndAt e.rc.snd (1 + e.accepted.length) (1 + e.accepted.length) (1 + e.accepted.length)
  ccc : SndAt e.ccc.snd (1 + e.accepted.length) (1 + e.accepted.length) (1 + e.accepted.length)
  buffer : e.socket.sendBuffer = []
  savedSendEvent : e.savedSendEvent = none
  fin : OneFin (waiting e.queue)
  resends : resends e.queue = 0
  state : e.cmc.state.isClosing = true
  finSent : finSent e.dispatched = false

/-- The FIN has been sent: idle, about to be sent again, or waiting to be sent again. -/
structure FinSentMode (strict : Prop) (e : Endpoint) (u n c k : Nat) : Prop where
  rc : SndAt e.rc.snd u n (2 + e.accepted.length)
  ccc : SndAt e.ccc.snd u c k
  buffer : (u = 1 + e.accepted.length ∧ e.socket.sendBuffer = [finByte]) ∨
    (u = 2 + e.accepted.length ∧ e.socket.sendBuffer = [])
  order : 2 + e.accepted.length ≤ c ∧ c ≤ k ∧ k ≤ 3 + e.accepted.length
  once : strict → c = 2 + e.accepted.length ∧ k = 2 + e.accepted.length
  savedSendEvent : e.savedSendEvent = none
  queue :
    (resends e.queue = 0 ∧ (∀ p ∈ waiting e.queue, p.IsEmpty) ∧ n = 2 + e.accepted.length) ∨
    (resends e.queue = 1 ∧ (∀ p ∈ waiting e.queue, p.IsEmpty) ∧ n = u ∧ u = 1 + e.accepted.length) ∨
    (resends e.queue = 0 ∧ OneFin (waiting e.queue) ∧ n = u ∧ u = 1 + e.accepted.length ∧ c = 2 + e.accepted.length ∧
      ¬strict)
  state : e.cmc.state.isClosing = true
  finSent : finSent e.dispatched = true

/-- The mode of the sending side. -/
inductive SendMode (strict : Prop) (e : Endpoint) : Prop
  | sending (u n m c : Nat) (h : OpenMode e u n m c)
  | resending (u m c : Nat) (h : ResendMode e u m c)
  | finWaiting (h : FinWaitingMode e)
  | finSent (u n c k : Nat) (h : FinSentMode strict e u n c k)

/-- The invariant of the sending side. -/
inductive SendInv (strict : Prop) (e : Endpoint) : Prop
  | deleted (h : e.deleted = true) (hs : ∀ p ∈ sentPackets e.dispatched, SentOk e.accepted p)
  | preSyn (h : e.PreSyn) (ht : e.TimersOk) (hd : e.deleted = false)
  | sent (hb : e.SendBase) (hm : SendMode strict e)

end Endpoint

end Wifu
