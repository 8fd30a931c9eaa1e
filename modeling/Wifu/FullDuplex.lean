import Wifu.WholeConnection

/-!
# Both directions of a connection

Each endpoint is the sender of one direction and the receiver of the other.  In both directions at once nothing need be
assumed of what an endpoint processes before it has sent its SYN: what its peer has sent until then is empty.
-/

namespace Wifu

namespace Connection

open Endpoint (SendInv)

/-- The connection seen from the other side. -/
def swap (c : Connection) : Connection := ⟨c.receiver, c.sender⟩

/-- The step of the connection seen from the other side. -/
def Input.swap : Input → Input
  | .sender i => .receiver i
  | .receiver i => .sender i

/-- Records what a step sends, for each direction. -/
def observeBoth (c : Connection) (i : Input) (c' : Connection) (h : Flights × Flights) : Flights × Flights :=
  (observeFlights c i c' h.1, observeFlights c.swap i.swap c'.swap h.2)

/-- The machine of a connection with a record for each direction. -/
def duplexMachine : Transition.Machine (Connection × Flights × Flights) Input Abort := machine.observed observeBoth

instance (i : Input) (s : Connection × Flights × Flights) : Decidable (duplexMachine.enabled i s) :=
  inferInstanceAs (Decidable (enabled i s.1))

/-- The direction from the sender to the receiver. -/
def forth (s : Connection × Flights × Flights) : Connection × Flights := (s.1, s.2.1)

/-- The direction from the receiver to the sender. -/
def back (s : Connection × Flights × Flights) : Connection × Flights := (s.1.swap, s.2.2)

/-- The endpoint that sends in the direction `out` and receives in the direction `inc` takes no byte of the application for
a SYN or a FIN when it sends it again, processes one SYN, and the packets that it processes are fresh. -/
def sideCondition (out inc : Connection × Flights) (i : Endpoint.Input) : Prop :=
  (i = .drain → Endpoint.resendCondition False out.1.sender) ∧
  (∀ p ∈ out.1.sender.delivered i, p.validChecksum = true → p.ack = true →
    Fresh out.1.receiver.receivedBytes.length out.2.acks p) ∧
  wholeCondition inc (.receiver i)

instance (out inc : Connection × Flights) (i : Endpoint.Input) : Decidable (sideCondition out inc i) :=
  inferInstanceAs (Decidable (_ ∧ (∀ p ∈ out.1.sender.delivered i, _) ∧ _))

def duplexCondition (s : Connection × Flights × Flights) : Input → Prop
  | .sender i => sideCondition (forth s) (back s) i
  | .receiver i => sideCondition (back s) (forth s) i

instance (s : Connection × Flights × Flights) : (i : Input) → Decidable (duplexCondition s i)
  | .sender i => inferInstanceAs (Decidable (sideCondition (forth s) (back s) i))
  | .receiver i => inferInstanceAs (Decidable (sideCondition (back s) (forth s) i))

section

variable {s s' : Connection × Flights × Flights} {out inc : Connection × Flights} {c c' : Connection} {i : Input}

theorem enabled_swap (h : enabled i c) : enabled i.swap c.swap := by
  cases i with
  | sender i => exact h
  | receiver i => exact h

theorem step_swap (h : step i c = .ok c') : step i.swap c.swap = .ok c'.swap := by
  cases i with
  | sender i =>
    obtain ⟨e, he, hok⟩ := bind_eq_ok.1 h
    cases hok
    exact bind_eq_ok.2 ⟨e, he, rfl⟩
  | receiver i =>
    obtain ⟨e, he, hok⟩ := bind_eq_ok.1 h
    cases hok
    exact bind_eq_ok.2 ⟨e, he, rfl⟩

/-- A step of both directions is a step of each. -/
theorem duplex_step (h : duplexMachine.step i s = .ok s') :
    flightMachine.step i (forth s) = .ok (forth s') ∧ flightMachine.step i.swap (back s) = .ok (back s') := by
  obtain ⟨hstep, hobs⟩ := Transition.Machine.observed_step.1 h
  constructor
  · exact Transition.Machine.observed_step.2 ⟨hstep, congrArg Prod.fst hobs⟩
  · exact Transition.Machine.observed_step.2 ⟨step_swap hstep, congrArg Prod.snd hobs⟩

/-- Before an endpoint has sent its SYN, its peer has sent nothing that could disturb it. -/
theorem sideCondition.preSyn {i : Endpoint.Input} (hc : sideCondition out inc i) (hout : WholeInv out)
    (hinc : WholeInv inc) (hswap : inc.1 = out.1.swap) : Endpoint.preSynCondition out.1.sender i := by
  intro p hp hinit hsum
  obtain ⟨-, hacks, hsegments⟩ := hc
  have hopening : Opening out := by
    rcases hout with h | h
    · exact h
    · rw [h.initialized] at hinit
      cases hinit
  have hreceiver : inc.1.receiver = out.1.sender := by rw [hswap]; rfl
  constructor
  · -- the peer has processed no SYN, and so sends no ACK
    intro hack
    obtain ⟨f, hf, rfl, -⟩ := hacks p hp hsum hack
    rw [hopening.flights] at hf
    obtain ⟨q, hq, rfl⟩ := List.mem_map.1 hf
    rw [hopening.opened (hopening.acknowledges hq hack).1.started] at hinit
    cases hinit
  · intro ha hlen
    rcases hinc with h | h
    · -- the peer is opening too
      rw [← hreceiver] at hp ha
      obtain ⟨f, hf, rfl, -⟩ := (hsegments p hp ha).2
      rw [h.flights] at hf
      obtain ⟨q, hq, rfl⟩ := List.mem_map.1 hf
      by_contra hsyn
      exact absurd hlen (not_lt.2 ((h.opens hq).noData (by simpa using fun h => hsyn (.inl h))))
    · refine absurd (hopening.unsent hinit) ?_
      rw [← hreceiver]
      exact h.answered

theorem sideCondition.whole {i : Endpoint.Input} (hc : sideCondition out inc i) (hout : WholeInv out)
    (hinc : WholeInv inc) (hswap : inc.1 = out.1.swap) : wholeCondition out (.sender i) :=
  ⟨⟨hc.preSyn hout hinc hswap, hc.1⟩, hc.2.1⟩

theorem duplex_inv (hforth : WholeInv (forth s)) (hback : WholeInv (back s)) (hen : duplexMachine.enabled i s)
    (hc : duplexCondition s i) (hstep : duplexMachine.step i s = .ok s') :
    WholeInv (forth s') ∧ WholeInv (back s') := by
  obtain ⟨hstep, hstep'⟩ := duplex_step hstep
  have hen' : flightMachine.enabled i.swap (back s) := enabled_swap hen
  cases i with
  | sender i =>
    exact ⟨hforth.step hen (hc.whole hforth hback rfl) hstep, hback.step (i := .receiver i) hen' hc.2.2 hstep'⟩
  | receiver i =>
    exact ⟨hforth.step hen hc.2.2 hstep, hback.step (i := .sender i) hen' (hc.whole hback hforth rfl) hstep'⟩

end

/-- From the creation of two endpoints on, in every run that meets `duplexCondition`, both directions are delivered. -/
theorem full_duplex {a b : SocketId} {la ra lb rb : AddressPort} {is : List Input}
    {s : Connection × Flights × Flights}
    (hrun : duplexMachine.Run duplexCondition (⟨.create a la ra, .create b lb rb⟩, {}, {}) is s) :
    s.1.Delivers ∧ s.1.swap.Delivers := by
  have hinv : WholeInv (forth s) ∧ WholeInv (back s) := by
    refine hrun.invariant (fun s => WholeInv (forth s) ∧ WholeInv (back s)) ⟨?_, ?_⟩
      fun _ _ _ hinv hen hc hstep => duplex_inv hinv.1 hinv.2 hen hc hstep
    · exact .inl (.create a b la ra lb rb)
    · exact .inl (.create b a lb rb la ra)
  exact ⟨hinv.1.delivers, hinv.2.delivers⟩

/-- The server answers with a byte, and closes after the client. -/
theorem full_duplex_close : ∃ s : Connection × Flights × Flights, s.1.receiver.receivedBytes = [1, 2] ∧
    s.1.sender.receivedBytes = [9] ∧ s.1.sender.cmc.state = .timeWait ∧ s.1.receiver.cmc.state = .lastAck ∧
    s.1.Delivers ∧ s.1.swap.Delivers := by
  have h : (duplexMachine.replay duplexCondition (transferScript ++
      [.receiver (.send ⟨5, [9]⟩), .receiver .drain, .receiver .drain, .sender (.packet (Endpoint.segment 2 4 [9])),
        .sender .drain, .sender .drain, .sender .drain, .sender .drain, .sender (.receive ⟨6, 5⟩), .sender .drain,
        .receiver (.packet { clientSegment 4 3 [] with fin := true, receiveWindowSize := 65534 }), .receiver .drain,
        .receiver .drain, .receiver (.close ⟨7⟩), .receiver .drain,
        .sender (.packet { Endpoint.segment 3 5 [] with fin := true }), .sender .drain, .sender .drain])
      (clientAndServer, {}, {})).any (fun s => decide (s.1.receiver.receivedBytes = [1, 2] ∧
        s.1.sender.receivedBytes = [9] ∧ s.1.sender.cmc.state = .timeWait ∧ s.1.receiver.cmc.state = .lastAck)) =
      true := by decide +kernel
  obtain ⟨s, hrun, hq⟩ := Transition.Machine.exists_run h
  obtain ⟨hforth, hback, hclient, hserver⟩ := of_decide_eq_true hq
  exact ⟨s, hforth, hback, hclient, hserver, full_duplex hrun⟩

end Connection

end Wifu
