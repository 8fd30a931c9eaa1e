import Wifu.WireSegment
import Wifu.QueuedPackets
import Wifu.NothingLost
import Wifu.Lib.Simulation

/-!
# Two endpoints and a wire of bytes (`TCPTahoe.cc`, `Protocol.cc`, `NetworkInterface.cc`)

An endpoint hands packets to the network interface, which sends their bytes; the peer's network interface makes a packet of
the bytes it reads.  Every packet that an endpoint sends, whatever happens to it, is one that its bytes give back, so two
endpoints joined by a wire that loses, duplicates, reorders and damages datagrams run like two endpoints that are handed
packets.
-/

namespace Wifu

open WirePacket

/-- The packet that the event sends, if any, can be sent. -/
def ProtocolEvent.Composed (v : ProtocolEvent) : Prop := ∀ p ∈ v.packet, p.Sendable

namespace TCPPacket

/-- The calls of the setters that give a packet its fields. -/
def fieldCalls (p : TCPPacket) : List FieldCall :=
  [.ipSourceAddress p.source.address, .sourcePort p.source.port, .ipDestinationAddress p.destination.address,
    .destinationPort p.destination.port, .tcpSequenceNumber p.sequenceNumber, .tcpAckNumber p.ackNumber,
    .tcpFlag .urg p.urg, .tcpFlag .ack p.ack, .tcpFlag .psh p.psh, .tcpFlag .rst p.rst, .tcpFlag .syn p.syn,
    .tcpFlag .fin p.fin, .tcpReceiveWindowSize p.receiveWindowSize] ++
  p.timestamp.toList.flatMap fun ts => [.timestamp ts.timestamp, .echoReply ts.echoReply]

/-- The bytes on the wire. -/
def datagram (p : TCPPacket) : List UInt8 :=
  ((compose (fun _ => 0) 0 [] p.data (.ipProtocol tcpTahoeProtocol :: p.fieldCalls)).map transmit).getD []

variable {p : TCPPacket}

/-- The calls give a new packet the fields of the packet. -/
theorem Sendable.fieldCalls (h : p.Sendable) :
    (FieldCall.ipProtocol tcpTahoeProtocol :: p.fieldCalls).foldl set (new ⟨0, 0⟩ ⟨0, 0⟩ p.data) = p := by
  obtain ⟨ts, hts⟩ := Option.isSome_iff_exists.1 h.timestamp
  have hcalls : (FieldCall.ipProtocol tcpTahoeProtocol :: p.fieldCalls).foldl set (new ⟨0, 0⟩ ⟨0, 0⟩ p.data) =
      { new p.source p.destination p.data with
        sequenceNumber := p.sequenceNumber, ackNumber := p.ackNumber, urg := p.urg, ack := p.ack, psh := p.psh
        rst := p.rst, syn := p.syn, fin := p.fin, receiveWindowSize := p.receiveWindowSize, timestamp := some ts } := by
    unfold TCPPacket.fieldCalls
    rw [hts]
    simp only [Option.toList_some, List.flatMap_cons, List.flatMap_nil, List.append_nil, List.cons_append, List.nil_append,
      List.foldl_cons, List.foldl_nil, set, setFlag]
    rfl
  rw [hcalls]
  have hdata := new_data (s := p.source) (d := p.destination) h.fits
  have hlength := new_dataLengthBytes (s := p.source) (d := p.destination) h.fits
  exact TCPPacket.ext rfl rfl rfl rfl rfl rfl rfl rfl rfl rfl rfl hts.symm (hlength.trans h.dataLength.symm) hdata
    h.validChecksum.symm

theorem fieldCalls_protocol (p : TCPPacket) (protocol : UInt8) :
    p.fieldCalls.foldl FieldCall.protocol protocol = protocol := by
  unfold TCPPacket.fieldCalls
  cases p.timestamp <;> rfl

/-- A packet without data, with any flags. -/
theorem empty_sendable (source destination : AddressPort) (syn ack fin : Bool) :
    ({ new source destination [] with syn, ack, fin } : TCPPacket).Sendable :=
  ⟨rfl, rfl, Nat.zero_le _, rfl⟩

/-- Whatever object has the fields of a packet, its bytes are those of the datagram. -/
theorem Sendable.datagram_eq (h : p.Sendable) {w : WirePacket} (hw : w.Carries tcpTahoeProtocol p) :
    w.transmit = p.datagram := by
  obtain ⟨w', hw', hcarries⟩ := @compose_carries (fun _ => 0) (fun _ _ _ => rfl) 0 []
    (.ipProtocol tcpTahoeProtocol :: p.fieldCalls) p.data h.fits
  rw [List.nil_append, h.fieldCalls, List.foldl_cons, fieldCalls_protocol] at hcarries
  unfold TCPPacket.datagram
  rw [hw']
  exact hcarries.transmit_eq hw h.fits

/-- The other side reads the packet from its datagram. -/
theorem Sendable.decode_datagram (h : p.Sendable) (memory : Nat → UInt8) {fuel : Nat} (hfuel : 1 < fuel) :
    decode memory fuel p.datagram = some p := by
  obtain ⟨w, hw, hcarries⟩ := @compose_carries (fun _ => 0) (fun _ _ _ => rfl) 0 []
    (.ipProtocol tcpTahoeProtocol :: p.fieldCalls) p.data h.fits
  rw [List.nil_append, h.fieldCalls, List.foldl_cons, fieldCalls_protocol] at hcarries
  obtain ⟨m, hm, hbytes⟩ := hcarries.transmit h.fits
  rw [← h.datagram_eq hcarries, hbytes]
  exact hm.decode h memory hfuel

end TCPPacket

namespace Endpoint

/-! ### Every packet can be sent -/

/-- All packets of an endpoint, those in the queue and those that have left, can be sent. -/
structure Composed (e : Endpoint) : Prop where
  queue : ∀ v ∈ e.queue, v.Composed
  sent : ∀ p ∈ sentPackets e.dispatched, p.Sendable

section

variable {e e' : Endpoint} {p q : TCPPacket} {i : Input}

/-- A step adds packets that can be sent to the queue. -/
theorem step_adds (hstep : step i e = .ok e') : Adds TCPPacket.Sendable e e' := by
  refine Adds.step (fun s d data syn fin => ?_) hstep fun _ _ _ _ s d syn => TCPPacket.empty_sendable s d syn true false
  have h := TCPPacket.new_sendable s d data
  exact ⟨h.timestamp, h.dataLength, h.fits, h.validChecksum⟩

/-! ### Sending a packet -/

/-- The setters that `Protocol::imodule_send` and `state_send_packet` call on a packet. -/
def sendCalls (e : Endpoint) (p : TCPPacket) : List FieldCall :=
  [.ipProtocol tcpTahoeProtocol, .tcpSequenceNumber (setSequenceNumber e.rc p).1.sequenceNumber, .tcpAckNumber e.rc.rcvNxt] ++
    (if e.rc.rcvNxt ≠ 0 then [.tcpFlag .ack true] else []) ++ [.timestamp e.now] ++
    (if e.rc.echoReply ≠ 0 then [.echoReply e.rc.echoReply] else []) ++ [.tcpReceiveWindowSize e.rc.rcvWnd]

/-- What the handler of the reliability state leaves alone. -/
theorem checkAndStartTimer_same (e : Endpoint) (p : TCPPacket) : (e.checkAndStartTimer p).rc.rcvNxt = e.rc.rcvNxt ∧
    (e.checkAndStartTimer p).rc.rcvWnd = e.rc.rcvWnd ∧ (e.checkAndStartTimer p).rc.echoReply = e.rc.echoReply ∧
    (e.checkAndStartTimer p).now = e.now := by
  unfold checkAndStartTimer startTimer
  split
  · split <;> exact ⟨rfl, rfl, rfl, rfl⟩
  · exact ⟨rfl, rfl, rfl, rfl⟩

/-- The reliability state only calls setters. -/
theorem reliabilitySendPacket_sets (h : e.reliabilitySendPacket p = .ok (q, e')) :
    q = (e.sendCalls p).foldl TCPPacket.set p := by
  have hsame : (setSequenceNumber e.rc p).2.rcvNxt = e.rc.rcvNxt ∧ (setSequenceNumber e.rc p).2.rcvWnd = e.rc.rcvWnd ∧
      (setSequenceNumber e.rc p).2.echoReply = e.rc.echoReply ∧ (setSequenceNumber e.rc p).1 =
        { p with sequenceNumber := (setSequenceNumber e.rc p).1.sequenceNumber } := by
    unfold setSequenceNumber
    split <;> exact ⟨rfl, rfl, rfl, rfl⟩
  unfold reliabilitySendPacket at h
  simp only at h
  obtain ⟨b, -, h⟩ := bind_eq_ok.1 h
  obtain ⟨q', hq', h⟩ := bind_eq_ok.1 h
  cases h
  obtain ⟨hnxt, hwnd, hecho, hnumber⟩ := hsame
  unfold sendCalls
  generalize setSequenceNumber e.rc p = r at hnxt hwnd hecho hnumber hq' ⊢
  obtain ⟨p', rc⟩ := r
  simp only at hnxt hwnd hecho hnumber hq' ⊢
  generalize p'.sequenceNumber = n at hnumber ⊢
  subst hnumber
  obtain ⟨-, hwnd', hecho', hnow'⟩ := checkAndStartTimer_same { e with rc }
    (setAckNumberAndBit rc { p with sequenceNumber := n })
  generalize ({ e with rc } : Endpoint).checkAndStartTimer (setAckNumberAndBit rc { p with sequenceNumber := n }) = e₁
    at hwnd' hecho' hnow' hq' ⊢
  unfold insertTimestamp at hq'
  split at hq'
  · cases hq'
  · rename_i option hts
    cases hq'
    have hp : p.timestamp = some option := hts
    have hwindow : e₁.rc.rcvWnd = e.rc.rcvWnd := hwnd'.trans hwnd
    have hreply : e₁.rc.echoReply = e.rc.echoReply := hecho'.trans hecho
    have hnow : e₁.now = e.now := hnow'
    unfold setReceiveWindowSize setAckNumberAndBit
    simp only [hnxt, hwindow, hreply, hnow]
    by_cases hack : e.rc.rcvNxt = 0#32 <;> by_cases hzero : e.rc.echoReply = 0#32 <;>
      simp [hack, hzero, hp, TCPPacket.set, TCPPacket.setFlag]

theorem sendPacket_sets (h : e.sendPacket p = .ok e') :
    sentPackets e'.dispatched = sentPackets e.dispatched ++ [(e.sendCalls p).foldl TCPPacket.set p] := by
  unfold sendPacket at h
  obtain ⟨⟨q, e₁⟩, h₁, h⟩ := bind_eq_ok.1 h
  cases h
  rw [← reliabilitySendPacket_sets h₁, ← sentPackets_congr (AckChange.sendPacket h₁).transfers]
  exact sentPackets_append

/-- When an endpoint sends a packet, the setters that its handlers call, the packing and the two checksums make of the
packet's object the bytes that the peer reads as the packet that the endpoint has dispatched. -/
theorem sendPacket_datagram {w : WirePacket} {protocol : UInt8} (memory : Nat → UInt8) (fuel : Nat)
    (hw : w.Carries protocol p) (hp : p.Sendable) (h : e.sendPacket p = .ok e') (hfuel : 1 < fuel) :
    ∃ q, sentPackets e'.dispatched = sentPackets e.dispatched ++ [q] ∧
      ((e.sendCalls p).foldl WirePacket.set w).transmit = q.datagram ∧
      decode memory fuel ((e.sendCalls p).foldl WirePacket.set w).transmit = some q := by
  have hcarries := hw.sets (p.sets_data (e.sendCalls p)).1
  have hprotocol : (e.sendCalls p).foldl FieldCall.protocol protocol = tcpTahoeProtocol := by
    unfold sendCalls
    split <;> split <;> rfl
  rw [hprotocol] at hcarries
  have hq := hp.sets (e.sendCalls p)
  refine ⟨_, sendPacket_sets h, hq.datagram_eq hcarries, ?_⟩
  rw [hq.datagram_eq hcarries]
  exact hq.decode_datagram memory hfuel

/-- The calls of `Closed::state_connect`. -/
def connectCalls (source destination : AddressPort) : List FieldCall :=
  [.ipDestinationAddress destination.address, .ipSourceAddress source.address, .destinationPort destination.port,
    .sourcePort source.port, .tcpFlag .syn true]

/-- A client's SYN. -/
theorem sendPacket_datagram_syn : ∃ w e' q,
    compose (fun _ => 0) 1 (connectCalls clientAddress serverAddress) [] [] = some w ∧
    client.sendPacket { TCPPacket.new clientAddress serverAddress [] with syn := true } = .ok e' ∧
    sentPackets e'.dispatched = sentPackets client.dispatched ++ [q] ∧
    ((client.sendCalls { TCPPacket.new clientAddress serverAddress [] with syn := true }).foldl
      WirePacket.set w).transmit = q.datagram ∧
    decode (fun _ => 0) 2 ((client.sendCalls { TCPPacket.new clientAddress serverAddress [] with syn := true }).foldl
      WirePacket.set w).transmit = some q := by
  obtain ⟨w, hw, hcarries⟩ := @compose_carries (fun _ => 0) (fun _ _ _ => rfl) 1
    (connectCalls clientAddress serverAddress) [] [] (Nat.zero_le _)
  have hok : (client.sendPacket { TCPPacket.new clientAddress serverAddress [] with syn := true }).toOption.isSome =
      true := by
    decide +kernel
  cases hsend : client.sendPacket { TCPPacket.new clientAddress serverAddress [] with syn := true } with
  | error a =>
    rw [hsend] at hok
    cases hok
  | ok e' =>
    obtain ⟨q, hq⟩ := sendPacket_datagram (fun _ => 0) 2 hcarries (TCPPacket.empty_sendable _ _ true false false) hsend
      (by decide)
    exact ⟨w, e', q, hw, rfl, hq⟩

theorem Composed.create (id : SocketId) (l r : AddressPort) : (create id l r).Composed :=
  ⟨fun _ hv => absurd hv List.not_mem_nil, fun _ hp => absurd hp List.not_mem_nil⟩

theorem Composed.step (h : e.Composed) (hstep : Endpoint.step i e = .ok e') : e'.Composed := by
  refine ⟨fun v hv => ?_, ?_⟩
  · rcases step_adds hstep v hv with hv | hv
    · exact h.queue v hv
    · exact hv
  cases step_sendStep hstep with
  | same _ hs | acked _ _ _ _ _ _ _ hs | rewound _ _ _ _ hs =>
    rw [hs]
    exact h.sent
  | @sent p q vs hi hdel hq hsends =>
    subst hi
    have hsend : ({ e with queue := vs } : Endpoint).sendPacket p = .ok e' := by
      have hcontains : ({ e with queue := vs } : Endpoint).contains e.socket.id = true := by
        simp [contains, hdel]
      unfold Endpoint.step drain at hstep
      rw [hq] at hstep
      simp only at hstep
      rw [if_pos hcontains] at hstep
      exact hstep
    have hp : p.Sendable := h.queue ⟨e.socket.id, .sendPacket p⟩ (by rw [hq]; exact List.mem_cons_self) p rfl
    rw [sendPacket_sets hsend]
    intro x hx
    rcases List.mem_append.1 hx with hx | hx
    · exact h.sent x hx
    · rw [List.mem_singleton.1 hx]
      exact hp.sets _

theorem Composed.run {P : Endpoint → Input → Prop} {is : List Input} (h : e.Composed)
    (hrun : machine.Run P e is e') : e'.Composed :=
  hrun.invariant Composed h fun _ _ _ ht _ _ hstep => ht.step hstep

end

end Endpoint

/-! ### The wire -/

/-- What an endpoint on a wire reads: a datagram, or an event of its own side. -/
inductive WireEvent
  | own (i : Endpoint.Input)
  | datagram (bytes : List UInt8)

/-- The event is a packet. -/
def Endpoint.Input.isPacket : Endpoint.Input → Bool
  | .packet _ => true
  | _ => false

/-- The network interface or the protocol drops the datagram: its length is not its total length, or one of its checksums
is not valid. -/
def rejects (memory : Nat → UInt8) (datagram : List UInt8) : Bool :=
  match listen memory datagram with
  | none => true
  | some p => !p.isValidIpChecksum.1 || !({ p with toIPPacket := p.isValidIpChecksum.2 } : WirePacket).isValidTcpChecksum.1

/-- The datagrams that an endpoint has sent. -/
def Endpoint.datagrams (e : Endpoint) : List (List UInt8) := (sentPackets e.dispatched).map TCPPacket.datagram

namespace WireEvent

/-- What the event is to the endpoint. -/
def input (memory : Nat → UInt8) (fuel : Nat) : WireEvent → Option Endpoint.Input
  | .own i => some i
  | .datagram bytes => (decode memory fuel bytes).map .packet

/-- The wire brings what the peer has sent, at any time and any number of times, or something damaged that a checksum
detects; packets come no other way. -/
def enabled (memory : Nat → UInt8) (peer e : Endpoint) : WireEvent → Prop
  | .own i => i.isPacket = false ∧ Endpoint.enabled i e
  | .datagram bytes => e.queue = [] ∧ (bytes ∈ peer.datagrams ∨ rejects memory bytes = true)

/-- A dropped datagram does nothing. -/
def step (memory : Nat → UInt8) (fuel : Nat) (e : Endpoint) (i : WireEvent) : Except Abort Endpoint :=
  match i.input memory fuel with
  | none => .ok e
  | some i => Endpoint.step i e

instance (memory : Nat → UInt8) (peer e : Endpoint) : (i : WireEvent) → Decidable (enabled memory peer e i)
  | .own i => inferInstanceAs (Decidable (i.isPacket = false ∧ Endpoint.enabled i e))
  | .datagram bytes => inferInstanceAs (Decidable (e.queue = [] ∧ (bytes ∈ peer.datagrams ∨ rejects memory bytes = true)))

end WireEvent

namespace Connection

/-- A step of one of the endpoints on a wire. -/
inductive WireInput
  | sender (i : WireEvent)
  | receiver (i : WireEvent)

section

variable (memory : Nat → UInt8) (fuel : Nat)

def wireEnabled : WireInput → Connection → Prop
  | .sender i, c => i.enabled memory c.receiver c.sender
  | .receiver i, c => i.enabled memory c.sender c.receiver

def wireStep : WireInput → Connection → Except Abort Connection
  | .sender i, c => do
    let e ← i.step memory fuel c.sender
    .ok { c with sender := e }
  | .receiver i, c => do
    let e ← i.step memory fuel c.receiver
    .ok { c with receiver := e }

/-- The machine of two endpoints on a wire; a packet is made on a memory, and its options are parsed with fuel. -/
def wireMachine : Transition.Machine Connection WireInput Abort := ⟨wireEnabled memory, wireStep memory fuel⟩

instance : (i : WireInput) → (c : Connection) → Decidable (wireEnabled memory i c)
  | .sender i, c => inferInstanceAs (Decidable (i.enabled memory c.receiver c.sender))
  | .receiver i, c => inferInstanceAs (Decidable (i.enabled memory c.sender c.receiver))

instance (i : WireInput) (c : Connection) : Decidable ((wireMachine memory fuel).enabled i c) :=
  inferInstanceAs (Decidable (wireEnabled memory i c))

/-- The step of the packet machine. -/
def WireInput.input : WireInput → Option Input
  | .sender i => (i.input memory fuel).map .sender
  | .receiver i => (i.input memory fuel).map .receiver

end

/-- All packets of both endpoints can be sent. -/
structure Composed (c : Connection) : Prop where
  sender : c.sender.Composed
  receiver : c.receiver.Composed

section

variable {memory : Nat → UInt8} {fuel : Nat} {c c' : Connection} {e e' peer : Endpoint} {bytes : List UInt8}
  {p : TCPPacket}

/-- What is read of a dropped datagram has an invalid checksum. -/
theorem decode_rejected (hr : rejects memory bytes = true) (hp : decode memory fuel bytes = some p) :
    p.validChecksum = false := by
  unfold decode at hp
  obtain ⟨w, hw, hp⟩ := Option.bind_eq_some_iff.1 hp
  unfold rejects at hr
  rw [hw] at hr
  simp only at hp hr
  split at hp
  · rename_i hip
    rw [hip, Bool.not_true, Bool.false_or, Bool.not_eq_true'] at hr
    unfold toTCPPacket at hp
    obtain ⟨o, -, rfl⟩ := Option.map_eq_some_iff.1 hp
    exact hr
  · cases hp

/-- What the endpoint reads is enabled when it is handed packets, too. -/
theorem enabled_input {i : WireEvent} {j : Endpoint.Input} (hpeer : peer.Composed) (hfuel : 1 < fuel)
    (hen : i.enabled memory peer e) (hi : i.input memory fuel = some j) :
    Endpoint.enabled j e ∧ carries peer j := by
  cases i with
  | own i =>
    cases hi
    refine ⟨hen.2, ?_⟩
    cases j with
    | packet p => exact absurd hen.1 (by simp [Endpoint.Input.isPacket])
    | _ => trivial
  | datagram bytes =>
    obtain ⟨p, hp, rfl⟩ := Option.map_eq_some_iff.1 hi
    refine ⟨hen.1, fun hvalid => ?_⟩
    rcases hen.2 with hsent | hr
    · obtain ⟨q, hq, rfl⟩ := List.mem_map.1 hsent
      rw [(hpeer.sent q hq).decode_datagram memory hfuel] at hp
      cases hp
      exact hq
    · rw [decode_rejected hr hp] at hvalid
      cases hvalid

/-- A step on the wire is a step of the packet machine, or does nothing. -/
theorem wire_follows {i : WireInput} (hc : c.Composed) (hfuel : 1 < fuel) (hen : wireEnabled memory i c)
    (hstep : wireStep memory fuel i c = .ok c') :
    machine.Follows (fun s t => s = t ∧ s.Composed) c c' (i.input memory fuel) := by
  cases i with
  | sender i =>
    obtain ⟨e, he, h⟩ := bind_eq_ok.1 hstep
    cases h
    have hinput : (WireInput.sender i).input memory fuel = (i.input memory fuel).map .sender := rfl
    unfold WireEvent.step at he
    rw [hinput]
    cases hi : i.input memory fuel with
    | none =>
      rw [hi] at he
      cases he
      exact ⟨rfl, hc⟩
    | some j =>
      rw [hi] at he
      exact ⟨_, enabled_input hc.receiver hfuel hen hi, bind_eq_ok.2 ⟨e, he, rfl⟩, rfl, hc.sender.step he, hc.receiver⟩
  | receiver i =>
    obtain ⟨e, he, h⟩ := bind_eq_ok.1 hstep
    cases h
    have hinput : (WireInput.receiver i).input memory fuel = (i.input memory fuel).map .receiver := rfl
    unfold WireEvent.step at he
    rw [hinput]
    cases hi : i.input memory fuel with
    | none =>
      rw [hi] at he
      cases he
      exact ⟨rfl, hc⟩
    | some j =>
      rw [hi] at he
      exact ⟨_, enabled_input hc.sender hfuel hen hi, bind_eq_ok.2 ⟨e, he, rfl⟩, rfl, hc.sender, hc.receiver.step he⟩

end

/-- Two endpoints on a wire that loses, duplicates, reorders and damages datagrams run like two endpoints that are handed
packets: a run from two new endpoints leads where the packet machine goes with the packets that are read, and each packet
that either of them has sent is read from its datagram, with valid checksums. -/
theorem wire_refines {P : Connection → WireInput → Prop} (memory : Nat → UInt8) (fuel : Nat) (id id' : SocketId)
    (l r l' r' : AddressPort) (is : List WireInput) (c : Connection) (hfuel : 1 < fuel)
    (h : (wireMachine memory fuel).Run P ⟨.create id l r, .create id' l' r'⟩ is c) :
    machine.Run Transition.anyStep ⟨.create id l r, .create id' l' r'⟩ (is.filterMap (WireInput.input memory fuel)) c ∧
    ∀ p ∈ sentPackets c.sender.dispatched ++ sentPackets c.receiver.dispatched,
      rejects memory p.datagram = false ∧ decode memory fuel p.datagram = some p := by
  have h0 : Composed ⟨.create id l r, .create id' l' r'⟩ := ⟨.create id l r, .create id' l' r'⟩
  obtain ⟨c', hrun, rfl, hc⟩ := h.simulate (R := fun s t => s = t ∧ s.Composed) (WireInput.input memory fuel)
    (fun s t i s' hR hen _ hstep => by
      obtain ⟨rfl, hs⟩ := hR
      exact wire_follows hs hfuel hen hstep) ⟨rfl, h0⟩
  refine ⟨hrun, fun p hp => ?_⟩
  have hsendable : p.Sendable := (List.mem_append.1 hp).elim (hc.sender.sent p) (hc.receiver.sent p)
  have hdecode := hsendable.decode_datagram memory hfuel
  refine ⟨?_, hdecode⟩
  by_contra hr
  have hinvalid := decode_rejected (by simpa using hr) hdecode
  rw [hsendable.validChecksum] at hinvalid
  cases hinvalid

/-- A client's SYN, and the answer to it. -/
def synDatagram : List UInt8 :=
  [69, 0, 0, 52, 0, 0, 0, 0, 65, 6, 101, 194, 10, 0, 0, 1, 10, 0, 0, 2, 156, 64, 0, 80, 0, 0, 0, 1, 0, 0, 0, 0, 128, 2,
    255, 255, 199, 56, 0, 0, 8, 10, 0, 0, 0, 0, 0, 0, 0, 0, 0, 0]

def synAckDatagram : List UInt8 :=
  [69, 0, 0, 52, 0, 0, 0, 0, 65, 6, 101, 194, 10, 0, 0, 2, 10, 0, 0, 1, 0, 80, 156, 64, 0, 0, 0, 1, 0, 0, 0, 2, 128, 18,
    255, 255, 199, 38, 0, 0, 8, 10, 0, 0, 0, 0, 0, 0, 0, 0, 0, 0]

/-- A handshake on a wire that first damages the SYN. -/
def wireHandshake : List WireInput :=
  [.receiver (.own (.listen ⟨1, 2⟩)), .sender (.own (.connect ⟨1, Endpoint.serverAddress, Endpoint.clientAddress.address⟩)),
    .sender (.own .drain), .receiver (.datagram (synDatagram.set 27 2)), .receiver (.datagram synDatagram),
    .receiver (.own .drain), .receiver (.own .drain), .sender (.datagram synAckDatagram)]

theorem wire_refines_handshake : ∃ c : Connection,
    (machine.Run Transition.anyStep ⟨.create 1 Endpoint.clientAddress ⟨0, 0⟩, .create 2 Endpoint.serverAddress ⟨0, 0⟩⟩
      (wireHandshake.filterMap (WireInput.input (fun _ => 0) 2)) c ∧
    ∀ p ∈ sentPackets c.sender.dispatched ++ sentPackets c.receiver.dispatched,
      rejects (fun _ => 0) p.datagram = false ∧ decode (fun _ => 0) 2 p.datagram = some p) ∧
    c.sender.cmc.state = .established ∧ c.receiver.cmc.state = .synReceived := by
  obtain ⟨c, hrun, hstates⟩ := Transition.Machine.exists_run (M := wireMachine (fun _ => 0) 2) (P := Transition.anyStep)
    (s := ⟨.create 1 Endpoint.clientAddress ⟨0, 0⟩, .create 2 Endpoint.serverAddress ⟨0, 0⟩⟩) (i := wireHandshake)
    (q := fun c => decide (c.sender.cmc.state = .established ∧ c.receiver.cmc.state = .synReceived)) (by decide +kernel)
  exact ⟨c, wire_refines (fun _ => 0) 2 1 2 Endpoint.clientAddress ⟨0, 0⟩ Endpoint.serverAddress ⟨0, 0⟩ wireHandshake c
    (by decide) hrun, of_decide_eq_true hstates⟩

end Connection

end Wifu
