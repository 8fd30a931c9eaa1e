import Wifu.Event
import Wifu.Lib.Transition

/-!
# Receiving datagrams (`SimpleUDP.cc`, `SimpleUDPContainer.cc`)

A socket keeps the datagrams that have come in and the request that waits for one.  The two meet in
`send_receive_response`.  A request replaces one that still waits, and it is answered with the whole datagram, whatever
number of bytes it asks for (`udp_delivery`).
-/

namespace Wifu

/-- A received datagram; `data` holds as many bytes as `get_data_length_bytes` says. -/
@[ext]
structure UDPDatagram where
  source : AddressPort
  dataLengthBytes : Int
  data : List UInt8
  length_data : data.length = dataLengthBytes.toNat

instance : DecidableEq UDPDatagram :=
  fun _ _ => decidable_of_iff _ UDPDatagram.ext_iff.symm

/-- A response to a `ReceiveEvent`. -/
structure RecvFromResponse where
  event : ReceiveEvent
  address : AddressPort
  data : List UInt8
  deriving DecidableEq

/-- The sender and the bytes of a datagram. -/
def UDPDatagram.content (d : UDPDatagram) : AddressPort × List UInt8 := (d.source, d.data)

/-- The sender and the bytes that a response hands over. -/
def RecvFromResponse.content (a : RecvFromResponse) : AddressPort × List UInt8 := (a.address, a.data)

inductive UDPAbort
  /-- The length of a datagram is negative, and as a `size_t` beyond the buffer. -/
  | copyTooLong
  deriving DecidableEq, Repr

/-- `SimpleUDPContainer`, and the responses dispatched. -/
structure SimpleUDPContainer where
  packetQueue : List UDPDatagram := []
  receiveEvent : Option ReceiveEvent := none
  dispatched : List RecvFromResponse := []
  deriving DecidableEq

namespace SimpleUDPContainer

/-- `send_receive_response`. -/
def sendReceiveResponse (c : SimpleUDPContainer) : Except UDPAbort SimpleUDPContainer :=
  match c.receiveEvent, c.packetQueue with
  | none, _ => .ok c
  | some _, [] => .ok c
  | some e, d :: ds =>
    if d.dataLengthBytes < 0 then .error .copyTooLong
    else .ok { packetQueue := ds, receiveEvent := none, dispatched := c.dispatched ++ [⟨e, d.source, d.data⟩] }

/-- `icontext_receive_packet`. -/
def icontextReceivePacket (c : SimpleUDPContainer) (d : UDPDatagram) : Except UDPAbort SimpleUDPContainer :=
  { c with packetQueue := c.packetQueue ++ [d] }.sendReceiveResponse

/-- `icontext_receive`. -/
def icontextReceive (c : SimpleUDPContainer) (e : ReceiveEvent) : Except UDPAbort SimpleUDPContainer :=
  { c with receiveEvent := some e }.sendReceiveResponse

inductive Input
  | receivePacket (d : UDPDatagram)
  | receive (e : ReceiveEvent)
  deriving DecidableEq

def step : Input → SimpleUDPContainer → Except UDPAbort SimpleUDPContainer
  | .receivePacket d, c => c.icontextReceivePacket d
  | .receive e, c => c.icontextReceive e

def machine : Transition.Machine SimpleUDPContainer Input UDPAbort := ⟨fun _ _ => True, step⟩

/-! ### What has happened so far -/

structure History where
  arrived : List UDPDatagram := []
  requests : List ReceiveEvent := []
  deriving DecidableEq

def observe (_ : SimpleUDPContainer) (i : Input) (_ : SimpleUDPContainer) (h : History) : History :=
  match i with
  | .receivePacket d => { h with arrived := h.arrived ++ [d] }
  | .receive e => { h with requests := h.requests ++ [e] }

def historyMachine : Transition.Machine (SimpleUDPContainer × History) Input UDPAbort := machine.observed observe

instance (i : Input) (s : SimpleUDPContainer × History) : Decidable (historyMachine.enabled i s) := .isTrue trivial

/-- The step neither replaces a waiting request nor answers one that asks for fewer bytes than the datagram has. -/
def fits (s : SimpleUDPContainer × History) : Input → Prop
  | .receivePacket d => ∀ e ∈ s.1.receiveEvent, d.data.length ≤ e.dataLength
  | .receive e => s.1.receiveEvent = none ∧ ∀ d ∈ s.1.packetQueue.head?, d.data.length ≤ e.dataLength

instance (s : SimpleUDPContainer × History) : (i : Input) → Decidable (fits s i)
  | .receivePacket d => inferInstanceAs (Decidable (∀ e ∈ s.1.receiveEvent, d.data.length ≤ e.dataLength))
  | .receive e => inferInstanceAs (Decidable
      (s.1.receiveEvent = none ∧ ∀ d ∈ s.1.packetQueue.head?, d.data.length ≤ e.dataLength))

/-! ### Handing datagrams over -/

/-- The datagrams are handed over in the order in which they come, each once, and no request waits while there is one. -/
structure Ordered (s : SimpleUDPContainer × History) : Prop where
  order : s.1.dispatched.map RecvFromResponse.content ++ s.1.packetQueue.map UDPDatagram.content =
    s.2.arrived.map UDPDatagram.content
  idle : s.1.receiveEvent = none ∨ s.1.packetQueue = []

/-- Each request is answered once or waits, and is answered with no more bytes than it asks for. -/
structure Answered (s : SimpleUDPContainer × History) : Prop where
  requests : s.1.dispatched.map RecvFromResponse.event ++ s.1.receiveEvent.toList = s.2.requests
  bounded : ∀ a ∈ s.1.dispatched, a.data.length ≤ a.event.dataLength

section

variable {c c' : SimpleUDPContainer} {h : History} {s s' : SimpleUDPContainer × History} {i : Input}

/-- What `send_receive_response` does: nothing while one side is missing, else it answers with the first datagram. -/
theorem sendReceiveResponse_ok (hok : c.sendReceiveResponse = .ok c') :
    (c.receiveEvent = none ∨ c.packetQueue = []) ∧ c' = c ∨
      ∃ e d ds, c.receiveEvent = some e ∧ c.packetQueue = d :: ds ∧
        c' = ⟨ds, none, c.dispatched ++ [⟨e, d.source, d.data⟩]⟩ := by
  unfold sendReceiveResponse at hok
  cases he : c.receiveEvent with
  | none =>
    simp only [he] at hok
    exact .inl ⟨.inl rfl, (Except.ok.inj hok).symm⟩
  | some e =>
    cases hq : c.packetQueue with
    | nil =>
      simp only [he, hq] at hok
      exact .inl ⟨.inr rfl, (Except.ok.inj hok).symm⟩
    | cons d ds =>
      simp only [he, hq] at hok
      split at hok
      · cases hok
      · exact .inr ⟨e, d, ds, rfl, rfl, (Except.ok.inj hok).symm⟩

/-- `send_receive_response` keeps the order, and afterwards the socket is idle. -/
theorem Ordered.respond (horder : c.dispatched.map RecvFromResponse.content ++ c.packetQueue.map UDPDatagram.content =
    h.arrived.map UDPDatagram.content) (hok : c.sendReceiveResponse = .ok c') : Ordered (c', h) := by
  obtain ⟨hidle, rfl⟩ | ⟨e, d, ds, -, hq, rfl⟩ := sendReceiveResponse_ok hok
  · exact ⟨horder, hidle⟩
  · refine ⟨?_, .inl rfl⟩
    rw [hq] at horder
    show (c.dispatched ++ [(⟨e, d.source, d.data⟩ : RecvFromResponse)]).map RecvFromResponse.content ++
      ds.map UDPDatagram.content = _
    rw [← horder, List.map_append, List.append_assoc]
    rfl

theorem Ordered.step (hs : Ordered (c, h)) (hstep : SimpleUDPContainer.step i c = .ok c') :
    Ordered (c', observe c i c' h) := by
  have horder : c.dispatched.map RecvFromResponse.content ++ c.packetQueue.map UDPDatagram.content =
    h.arrived.map UDPDatagram.content := hs.order
  cases i with
  | receivePacket d =>
    refine Ordered.respond (c := { c with packetQueue := c.packetQueue ++ [d] })
      (h := { h with arrived := h.arrived ++ [d] }) ?_ hstep
    simp only [List.map_append]
    rw [← List.append_assoc, horder]
  | receive e => exact Ordered.respond (c := { c with receiveEvent := some e }) horder hstep

/-- A request that waits is answered with the first datagram, which is not too long for it. -/
theorem Answered.respond (hrequests : c.dispatched.map RecvFromResponse.event ++ c.receiveEvent.toList = h.requests)
    (hbounded : ∀ a ∈ c.dispatched, a.data.length ≤ a.event.dataLength)
    (hfits : ∀ e ∈ c.receiveEvent, ∀ d ∈ c.packetQueue.head?, d.data.length ≤ e.dataLength)
    (hok : c.sendReceiveResponse = .ok c') : Answered (c', h) := by
  obtain ⟨-, rfl⟩ | ⟨e, d, ds, he, hq, rfl⟩ := sendReceiveResponse_ok hok
  · exact ⟨hrequests, hbounded⟩
  · rw [he] at hrequests
    refine ⟨?_, fun a ha => ?_⟩
    · show (c.dispatched ++ [(⟨e, d.source, d.data⟩ : RecvFromResponse)]).map RecvFromResponse.event ++ [] = h.requests
      rw [← hrequests, List.append_nil, List.map_append]
      rfl
    · rcases List.mem_append.1 ha with ha | ha
      · exact hbounded a ha
      · rw [List.mem_singleton.1 ha]
        exact hfits e he d (by rw [hq]; rfl)

theorem Answered.step (hs : Answered (c, h)) (hidle : c.receiveEvent = none ∨ c.packetQueue = [])
    (hfits : fits (c, h) i) (hstep : SimpleUDPContainer.step i c = .ok c') : Answered (c', observe c i c' h) := by
  cases i with
  | receivePacket d =>
    refine Answered.respond (c := { c with packetQueue := c.packetQueue ++ [d] })
      (h := { h with arrived := h.arrived ++ [d] }) hs.requests hs.bounded (fun e he d' hd => ?_) hstep
    -- a request waits only while there is no datagram
    have hq : c.packetQueue = [] := by
      rcases hidle with hnone | hq
      · replace he : c.receiveEvent = some e := he
        rw [hnone] at he
        cases he
      · exact hq
    rw [hq] at hd
    cases hd
    exact hfits e he
  | receive e =>
    obtain ⟨hnone, hfits⟩ := hfits
    have hrequests : c.dispatched.map RecvFromResponse.event ++ c.receiveEvent.toList = h.requests := hs.requests
    replace hnone : c.receiveEvent = none := hnone
    rw [hnone] at hrequests
    refine Answered.respond (c := { c with receiveEvent := some e })
      (h := { h with requests := h.requests ++ [e] }) ?_ hs.bounded (fun e' he d hd => ?_) hstep
    · rw [← hrequests]
      simp
    · cases he
      exact hfits d hd

/-- A step that replaces a request, or answers one with more bytes than it asks for, breaks the property. -/
theorem fits_of_answered (hs : Answered (c, h)) (hidle : c.receiveEvent = none ∨ c.packetQueue = [])
    (hstep : SimpleUDPContainer.step i c = .ok c') (hs' : Answered (c', observe c i c' h)) : fits (c, h) i := by
  cases i with
  | receivePacket d =>
    intro e he
    replace he : c.receiveEvent = some e := he
    have hok : SimpleUDPContainer.sendReceiveResponse { c with packetQueue := c.packetQueue ++ [d] } = .ok c' := hstep
    have hq : c.packetQueue = [] := by
      rw [he] at hidle
      simpa using hidle
    obtain ⟨hnone | hempty, -⟩ | ⟨e', d', ds, he', hq', rfl⟩ := sendReceiveResponse_ok hok
    · rw [he] at hnone
      cases hnone
    · simp at hempty
    · replace he' : c.receiveEvent = some e' := he'
      replace hq' : c.packetQueue ++ [d] = d' :: ds := hq'
      rw [hq] at hq'
      cases hq'
      cases he.symm.trans he'
      exact hs'.bounded _ (List.mem_append_right _ (List.mem_singleton.2 rfl))
  | receive e =>
    have hok : SimpleUDPContainer.sendReceiveResponse { c with receiveEvent := some e } = .ok c' := hstep
    have hbefore : c.dispatched.map RecvFromResponse.event ++ c.receiveEvent.toList = h.requests := hs.requests
    have hafter : c'.dispatched.map RecvFromResponse.event ++ c'.receiveEvent.toList = h.requests ++ [e] := hs'.requests
    have hnone : c.receiveEvent = none := by
      -- the two requests would have to be answered or to wait, and only one of them can
      by_contra hsome
      obtain ⟨e₀, he₀⟩ := Option.ne_none_iff_exists'.1 hsome
      have hb := congrArg List.length hbefore
      have ha := congrArg List.length hafter
      obtain ⟨-, rfl⟩ | ⟨e', d', ds, -, -, rfl⟩ := sendReceiveResponse_ok hok
      · simp [he₀] at hb ha
        omega
      · simp [he₀] at hb ha
        omega
    refine ⟨hnone, fun d hd => ?_⟩
    obtain ⟨hnone' | hempty, -⟩ | ⟨e', d', ds, he', hq', rfl⟩ := sendReceiveResponse_ok hok
    · cases hnone'
    · replace hempty : c.packetQueue = [] := hempty
      replace hd : c.packetQueue.head? = some d := hd
      rw [hempty] at hd
      cases hd
    · cases he'
      replace hq' : c.packetQueue = d' :: ds := hq'
      replace hd : c.packetQueue.head? = some d := hd
      rw [hq'] at hd
      cases hd
      exact hs'.bounded _ (List.mem_append_right _ (List.mem_singleton.2 rfl))

end

/-- Along every run none of whose steps replaces a waiting request or answers one that asks for fewer bytes than the
datagram has: the datagrams are handed over in the order in which they come, each once; each request is answered once or
waits, and with no more bytes than it asks for; and no request waits while there is a datagram. -/
theorem udp_delivery {is : List Input} {s : SimpleUDPContainer × History} (h : historyMachine.Run fits ({}, {}) is s) :
    Ordered s ∧ Answered s ∧
      ∀ i s', historyMachine.step i s = .ok s' → (Ordered s' ∧ Answered s' ↔ fits s i) := by
  have hstep {s s' : SimpleUDPContainer × History} {i : Input} (hs : Ordered s ∧ Answered s)
      (hstep : historyMachine.step i s = .ok s') : Ordered s' ∧ Answered s' ↔ fits s i := by
    obtain ⟨hok, hobs⟩ := Transition.Machine.observed_step.1 hstep
    have hs' : s' = (s'.1, observe s.1 i s'.1 s.2) := Prod.ext rfl hobs
    rw [hs']
    exact ⟨fun h => fits_of_answered hs.2 hs.1.idle hok h.2,
      fun hfits => ⟨hs.1.step hok, hs.2.step hs.1.idle hfits hok⟩⟩
  have hs : Ordered s ∧ Answered s :=
    h.invariant (fun s => Ordered s ∧ Answered s) ⟨⟨rfl, .inl rfl⟩, ⟨rfl, by simp⟩⟩
      fun t i u ht _ hfits hok => (hstep ht hok).2 hfits
  exact ⟨hs.1, hs.2, fun i s' hok => hstep hs hok⟩

/-- A datagram of ten bytes. -/
def tenBytes : UDPDatagram := ⟨⟨0x0a000001, 5000⟩, 10, List.replicate 10 1, rfl⟩

/-- A request for ten bytes, and one for twenty of which ten stay unused. -/
theorem udp_delivery_tenBytes : ∃ s, Ordered s ∧ Answered s ∧ s.1.dispatched.length = 1 := by
  have h : (historyMachine.replay fits [.receivePacket tenBytes, .receive ⟨1, 10⟩, .receive ⟨2, 20⟩] ({}, {})).any
      (fun s => decide (s.1.dispatched.length = 1)) = true := by decide +kernel
  obtain ⟨s, hrun, hq⟩ := Transition.Machine.exists_run h
  obtain ⟨horder, hanswered, -⟩ := udp_delivery hrun
  exact ⟨s, horder, hanswered, of_decide_eq_true hq⟩

/-- A request for five bytes is answered with ten, and a request that waits is forgotten when the next one comes. -/
theorem request_overrun :
    (∃ s, historyMachine.Run Transition.anyStep ({}, {}) [.receive ⟨1, 5⟩, .receivePacket tenBytes] s ∧ ¬Answered s) ∧
      ∃ s, historyMachine.Run Transition.anyStep ({}, {}) [.receive ⟨1, 10⟩, .receive ⟨2, 10⟩] s ∧ ¬Answered s := by
  constructor
  · have h : (historyMachine.replay Transition.anyStep [.receive ⟨1, 5⟩, .receivePacket tenBytes] ({}, {})).any
        (fun s => decide (∃ a ∈ s.1.dispatched, a.event.dataLength < a.data.length)) = true := by decide +kernel
    obtain ⟨s, hrun, hq⟩ := Transition.Machine.exists_run h
    obtain ⟨a, ha, hlong⟩ := of_decide_eq_true hq
    exact ⟨s, hrun, fun hanswered => absurd (hanswered.bounded a ha) (Nat.not_le.2 hlong)⟩
  · have h : (historyMachine.replay Transition.anyStep [.receive ⟨1, 10⟩, .receive ⟨2, 10⟩] ({}, {})).any
        (fun s => decide (s.1.dispatched.map RecvFromResponse.event ++ s.1.receiveEvent.toList ≠ s.2.requests)) =
        true := by
      decide +kernel
    obtain ⟨s, hrun, hq⟩ := Transition.Machine.exists_run h
    exact ⟨s, hrun, fun hanswered => of_decide_eq_true hq hanswered.requests⟩

end SimpleUDPContainer

end Wifu
