import Wifu.FullDuplex
import Wifu.WireConnection

/-!
# From the bytes of one application to those of the other

Two endpoints on a wire of bytes deliver what their applications hand over: a step on the wire is a step of both directions,
or a datagram is dropped and nothing happens.
-/

namespace Wifu

namespace Connection

/-- Records what a step on the wire sends, for each direction. -/
def observeWire (c : Connection) (_ : WireInput) (c' : Connection) (h : Flights × Flights) : Flights × Flights :=
  observeBoth c (.sender .drain) c' h

/-- The machine of two endpoints on a wire with a record for each direction. -/
def wireDuplexMachine (memory : Nat → UInt8) (fuel : Nat) :
    Transition.Machine (Connection × Flights × Flights) WireInput Abort :=
  (wireMachine memory fuel).observed observeWire

instance (memory : Nat → UInt8) (fuel : Nat) (i : WireInput) (s : Connection × Flights × Flights) :
    Decidable ((wireDuplexMachine memory fuel).enabled i s) :=
  inferInstanceAs (Decidable (wireEnabled memory i s.1))

/-- The condition on both directions, for what is read from the wire. -/
def wireCondition (memory : Nat → UInt8) (fuel : Nat) (s : Connection × Flights × Flights) (i : WireInput) : Prop :=
  ∀ j ∈ i.input memory fuel, duplexCondition s j

instance (memory : Nat → UInt8) (fuel : Nat) (s : Connection × Flights × Flights) (i : WireInput) :
    Decidable (wireCondition memory fuel s i) :=
  inferInstanceAs (Decidable (∀ j ∈ i.input memory fuel, _))

section

variable {memory : Nat → UInt8} {fuel : Nat} {c : Connection} {s s' : Connection × Flights × Flights}

/-- Where nothing happens nothing is recorded. -/
theorem observeWire_self (c : Connection) (i : WireInput) (h : Flights × Flights) : observeWire c i c h = h := by
  simp [observeWire, observeBoth, observeFlights, newFlights_self]

/-- Both directions are opening or delivering, and every packet can be read from its datagram. -/
structure WireInv (s : Connection × Flights × Flights) : Prop where
  forth : WholeInv (forth s)
  back : WholeInv (back s)
  composed : s.1.Composed

theorem WireInv.step {i : WireInput} (h : WireInv s) (hfuel : 1 < fuel)
    (hen : (wireDuplexMachine memory fuel).enabled i s) (hc : wireCondition memory fuel s i)
    (hstep : (wireDuplexMachine memory fuel).step i s = .ok s') : WireInv s' := by
  obtain ⟨hstep, hobs⟩ := Transition.Machine.observed_step.1 hstep
  have hfollows := wire_follows h.composed hfuel hen hstep
  cases hi : i.input memory fuel with
  | none =>
    -- the datagram is dropped
    rw [hi] at hfollows
    obtain ⟨hsame, -⟩ := hfollows
    have hs : s' = s := by
      refine Prod.ext hsame ?_
      rw [hobs, hsame, observeWire_self]
    rw [hs]
    exact h
  | some j =>
    rw [hi] at hfollows
    obtain ⟨c, hen', hstep', rfl, hcomposed⟩ := hfollows
    have hduplex : duplexMachine.step j s = .ok s' := by
      refine Transition.Machine.observed_step.2 ⟨hstep', ?_⟩
      rw [hobs]
      rfl
    obtain ⟨hforth, hback⟩ := duplex_inv h.forth h.back hen' (hc j hi) hduplex
    exact ⟨hforth, hback, hcomposed⟩

end

/-- From the creation of two endpoints on a wire that loses, duplicates, reorders and damages datagrams, in every run in
which what is read meets `duplexCondition`, both directions are delivered. -/
theorem wire_delivers {a b : SocketId} {la ra lb rb : AddressPort} {is : List WireInput}
    {s : Connection × Flights × Flights} (memory : Nat → UInt8) {fuel : Nat} (hfuel : 1 < fuel)
    (hrun : (wireDuplexMachine memory fuel).Run (wireCondition memory fuel)
      (⟨.create a la ra, .create b lb rb⟩, {}, {}) is s) : s.1.Delivers ∧ s.1.swap.Delivers := by
  have hstart : WireInv (⟨.create a la ra, .create b lb rb⟩, {}, {}) :=
    ⟨.inl (.create a b la ra lb rb), .inl (.create b a lb rb la ra), .create a la ra, .create b lb rb⟩
  have hinv : WireInv s := hrun.invariant WireInv hstart fun _ _ _ h hen hc hstep => h.step hfuel hen hc hstep
  exact ⟨hinv.forth.delivers, hinv.back.delivers⟩

/-- The client's SYN is damaged and sent again; two bytes reach the server twice. -/
theorem wire_delivers_data : ∃ s : Connection × Flights × Flights, s.1.receiver.receivedBytes = [1, 2] ∧
    s.1.Delivers ∧ s.1.swap.Delivers := by
  have h : ((wireDuplexMachine (fun _ => 0) 2).replay (wireCondition (fun _ => 0) 2)
      [.receiver (.own (.listen ⟨1, 5⟩)),
        .sender (.own (.connect ⟨1, Endpoint.serverAddress, Endpoint.clientAddress.address⟩)), .sender (.own .drain),
        .receiver (.datagram (synDatagram.set 27 2)), .receiver (.datagram synDatagram), .receiver (.own .drain),
        .receiver (.own .drain), .sender (.datagram synAckDatagram), .sender (.own .drain), .sender (.own .drain),
        .sender (.own (.send ⟨2, [1, 2]⟩)), .sender (.own .drain), .sender (.own .drain),
        .receiver (.datagram (clientSegment 2 2 [1, 2]).datagram), .receiver (.own .drain), .receiver (.own .drain),
        .receiver (.own .drain), .receiver (.own .drain), .receiver (.datagram (clientSegment 2 2 [1, 2]).datagram)] (clientAndServer, {}, {})).any
      (fun s => decide (s.1.receiver.receivedBytes = [1, 2])) = true := by decide +kernel
  obtain ⟨s, hrun, hq⟩ := Transition.Machine.exists_run h
  exact ⟨s, of_decide_eq_true hq, wire_delivers (fun _ => 0) (by decide) hrun⟩

end Connection

end Wifu
