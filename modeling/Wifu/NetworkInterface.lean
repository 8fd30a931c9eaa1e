import Wifu.SocketKeys

/-!
# Demultiplexing (`NetworkInterface.cc`)

A received packet goes to the socket stored under the key of the packet's addresses, and when there is none to the
first socket bound to the packet's destination.  That socket may be connected to another peer, and a key may be the
text of other addresses than the packet's: `demultiplexed_iff` says for which collections and packets the right socket
is found.
-/

namespace Wifu

/-- What `imodule_network_receive` reads of a packet. -/
structure WiFuPacket where
  source : AddressPort
  destination : AddressPort
  validIpChecksum : Bool := true
  deriving DecidableEq, Repr

structure NetworkReceivePacketEvent where
  socket : SocketPointer
  packet : WiFuPacket
  deriving DecidableEq, Repr

namespace NetworkInterface

/-- `imodule_network_receive`: the events handed to the dispatcher. -/
def imoduleNetworkReceive (c : SocketCollection) (p : WiFuPacket) : List NetworkReceivePacketEvent :=
  if p.validIpChecksum then
    match c.getByLocalAndRemoteAp p.destination p.source with
    | some s => [⟨s, p⟩]
    | none =>
      match c.getByLocalAp p.destination with
      | some s => [⟨s, p⟩]
      | none => []
  else []

end NetworkInterface

namespace SocketCollection

/-- The socket is connected from the packet's destination to its source. -/
def Connects (c : SocketCollection) (p : WiFuPacket) (s : SocketPointer) : Prop :=
  (c.sockets s).localAddress = p.destination ∧ (c.sockets s).remoteAddress = p.source

/-- The socket is bound to the packet's destination and not connected to a peer other than its source. -/
def Receives (c : SocketCollection) (p : WiFuPacket) (s : SocketPointer) : Prop :=
  boundTo p.destination (c.sockets s) = true ∧
    ((c.sockets s).remoteAddress = p.source ∨ (c.sockets s).remoteAddress = .default)

/-- Where a packet should go: to a socket connected from its destination to its source when there is one, else to a
socket that is not connected to another peer. -/
structure Demultiplexed (c : SocketCollection) (p : WiFuPacket) (es : List NetworkReceivePacketEvent) : Prop where
  atMostOne : es.length ≤ 1
  packet : ∀ e ∈ es, e.packet = p
  connected : p.validIpChecksum = true → (∃ s, c.Stored s ∧ c.Connects p s) →
    ∃ s, c.Stored s ∧ c.Connects p s ∧ es = [⟨s, p⟩]
  otherwise : (¬∃ s, c.Stored s ∧ c.Connects p s) → ∀ e ∈ es, c.Stored e.socket ∧ c.Receives p e.socket

/-- The socket may be given the packet: it is connected to the packet's source, or no stored socket is and it is not
connected to another peer. -/
def Suits (c : SocketCollection) (p : WiFuPacket) (s : SocketPointer) : Prop :=
  c.Connects p s ∨ (¬∃ t, c.Stored t ∧ c.Connects p t) ∧ c.Receives p s

/-- The collections in which a packet finds its way: the socket under the packet's key suits, and when no socket has
that key the first one bound to the packet's destination does. -/
def Routable (c : SocketCollection) (p : WiFuPacket) : Prop :=
  (∀ s, c.Holds (makeKey p.destination p.source) s → c.Suits p s) ∧
    ((∀ s, ¬c.Holds (makeKey p.destination p.source) s) →
      ∀ s, c.First (boundTo p.destination) s → c.Suits p s)

variable {c : SocketCollection} {p : WiFuPacket} {s : SocketPointer}

theorem First.stored {visit : SocketObject → Bool} (h : c.First visit s) : c.Stored s := by
  obtain ⟨k, hk, -⟩ := h
  exact ⟨k, hk⟩

theorem Connects.boundTo (h : c.Connects p s) : boundTo p.destination (c.sockets s) = true := by
  unfold SocketCollection.boundTo
  rw [h.1]
  simp

/-- A packet given to one socket goes where it should when the socket suits. -/
theorem demultiplexed_singleton (hv : p.validIpChecksum = true) (hs : c.Stored s) :
    c.Demultiplexed p [⟨s, p⟩] ↔ c.Suits p s := by
  constructor
  · intro h
    by_cases hc : ∃ t, c.Stored t ∧ c.Connects p t
    · obtain ⟨t, -, ht, heq⟩ := h.connected hv hc
      cases heq
      exact .inl ht
    · exact .inr ⟨hc, (h.otherwise hc ⟨s, p⟩ (List.mem_singleton_self _)).2⟩
  · intro h
    refine ⟨le_refl 1, fun e he => ?_, fun _ hc => ?_, fun hc e he => ?_⟩
    · rw [List.mem_singleton.1 he]
    · rcases h with h | ⟨hn, -⟩
      · exact ⟨s, hs, h, rfl⟩
      · exact absurd hc hn
    · rw [List.mem_singleton.1 he]
      rcases h with h | ⟨-, h⟩
      · exact absurd ⟨s, hs, h⟩ hc
      · exact ⟨hs, h⟩

/-- A packet given to no socket: none is connected to its source. -/
theorem demultiplexed_nil (hv : p.validIpChecksum = true) :
    c.Demultiplexed p [] ↔ ¬∃ s, c.Stored s ∧ c.Connects p s := by
  constructor
  · intro h hc
    obtain ⟨t, -, -, heq⟩ := h.connected hv hc
    cases heq
  · intro h
    exact ⟨Nat.zero_le 1, by simp, fun _ hc => absurd hc h, by simp⟩

/-- A received packet goes to the right socket if and only if its checksum is wrong, and it is dropped, or the
collection is one in which it finds its way. -/
theorem demultiplexed_iff (c : SocketCollection) (p : WiFuPacket) :
    c.Demultiplexed p (NetworkInterface.imoduleNetworkReceive c p) ↔ (p.validIpChecksum = true → c.Routable p) := by
  unfold NetworkInterface.imoduleNetworkReceive
  by_cases hv : p.validIpChecksum = true
  · rw [if_pos hv]
    cases hk : c.getByLocalAndRemoteAp p.destination p.source with
    | some s =>
      have hs : c.Holds (makeKey p.destination p.source) s := hk
      rw [demultiplexed_singleton hv ⟨_, hs⟩]
      constructor
      · intro h _
        refine ⟨fun t ht => ?_, fun hn => absurd hs (hn s)⟩
        rw [← hs.unique ht]
        exact h
      · exact fun h => (h hv).1 s hs
    | none =>
      have hnone (s : SocketPointer) : ¬c.Holds (makeKey p.destination p.source) s := by
        intro hs
        rw [Holds] at hs
        rw [getByLocalAndRemoteAp, hs] at hk
        cases hk
      cases hl : c.getByLocalAp p.destination with
      | some s =>
        have hfirst : c.First (boundTo p.destination) s := accept_some hl
        show c.Demultiplexed p [⟨s, p⟩] ↔ _
        rw [demultiplexed_singleton hv hfirst.stored]
        constructor
        · intro h _
          refine ⟨fun t ht => absurd ht (hnone t), fun _ t ht => ?_⟩
          rw [← hfirst.unique ht]
          exact h
        · exact fun h => (h hv).2 hnone s hfirst
      | none =>
        have hunbound := accept_none.1 hl
        show c.Demultiplexed p [] ↔ _
        rw [demultiplexed_nil hv]
        constructor
        · intro _ _
          refine ⟨fun t ht => absurd ht (hnone t), fun _ t ht => ?_⟩
          obtain ⟨k, hk, hb, -⟩ := ht
          rw [hunbound t ⟨k, hk⟩] at hb
          cases hb
        · rintro - ⟨t, ht, hc⟩
          have := hunbound t ht
          rw [hc.boundTo] at this
          cases this
  · rw [if_neg hv]
    constructor
    · exact fun _ h => absurd h hv
    · exact fun _ => ⟨Nat.zero_le 1, by simp, fun h => absurd h hv, by simp⟩

/-- When every entry is under its socket's key, a packet of a connection in the collection finds its way; another one
does when the socket under its key, or else the first one bound to its destination, has no other peer. -/
theorem Keyed.routable_iff (h : c.Keyed) : c.Routable p ↔
    (∃ s, c.Stored s ∧ c.Connects p s) ∨
      (∀ s, c.Holds (makeKey p.destination p.source) s → c.Receives p s) ∧
        ((∀ s, ¬c.Holds (makeKey p.destination p.source) s) →
          ∀ s, c.First (boundTo p.destination) s → c.Receives p s) := by
  have hkey (s : SocketPointer) (hs : c.Stored s) (hc : c.Connects p s) :
      c.Holds (makeKey p.destination p.source) s := by
    obtain ⟨k, hk⟩ := hs
    have hcurrent : k = makeKey p.destination p.source := by
      rw [h.current k s hk, ← hc.1, ← hc.2]
      rfl
    exact hcurrent ▸ hk
  by_cases hc : ∃ s, c.Stored s ∧ c.Connects p s
  · obtain ⟨s, hs, hcs⟩ := hc
    have hholds := hkey s hs hcs
    constructor
    · exact fun _ => .inl ⟨s, hs, hcs⟩
    · intro _
      refine ⟨fun t ht => ?_, fun hn => absurd hholds (hn s)⟩
      rw [← hholds.unique ht]
      exact .inl hcs
  · have hsuits (s : SocketPointer) (hs : c.Stored s) : c.Suits p s ↔ c.Receives p s := by
      constructor
      · rintro (hcs | ⟨-, hr⟩)
        · exact absurd ⟨s, hs, hcs⟩ hc
        · exact hr
      · exact fun hr => .inr ⟨hc, hr⟩
    constructor
    · intro hr
      exact .inr ⟨fun s hs => (hsuits s ⟨_, hs⟩).1 (hr.1 s hs),
        fun hn s hs => (hsuits s hs.stored).1 (hr.2 hn s hs)⟩
    · rintro (hcs | ⟨h1, h2⟩)
      · exact absurd hcs hc
      · exact ⟨fun s hs => (hsuits s ⟨_, hs⟩).2 (h1 s hs), fun hn s hs => (hsuits s hs.stored).2 (h2 hn s hs)⟩

/-- A server's connection to 10.0.0.2:5000, and no other socket. -/
def oneConnection : SocketCollection :=
  let c : SocketCollection := { sockets := fun _ => { socket := 5, localAddress := ⟨0, 80⟩ } }
  ((c.push 0).setLocalAddressPort 0 ⟨0x0a000001, 80⟩).setRemoteAddressPort 0 ⟨0x0a000002, 5000⟩

/-- A packet from 10.0.0.3:6000 is given to the connection to 10.0.0.2:5000. -/
theorem connection_mixed : ∃ p : WiFuPacket,
    NetworkInterface.imoduleNetworkReceive oneConnection p = [⟨0, p⟩] ∧
      (oneConnection.sockets 0).remoteAddress = ⟨0x0a000002, 5000⟩ ∧
      ¬oneConnection.Demultiplexed p (NetworkInterface.imoduleNetworkReceive oneConnection p) := by
  have hget : NetworkInterface.imoduleNetworkReceive oneConnection ⟨⟨0x0a000003, 6000⟩, ⟨0x0a000001, 80⟩, true⟩ =
      [⟨0, ⟨⟨0x0a000003, 6000⟩, ⟨0x0a000001, 80⟩, true⟩⟩] := by decide +kernel
  have hremote : (oneConnection.sockets 0).remoteAddress = ⟨0x0a000002, 5000⟩ := by decide +kernel
  refine ⟨⟨⟨0x0a000003, 6000⟩, ⟨0x0a000001, 80⟩, true⟩, hget, hremote, fun h => ?_⟩
  have hstored : oneConnection.Stored 0 := stored_iff.2 (by decide +kernel)
  rw [hget, demultiplexed_singleton rfl hstored] at h
  rcases h with ⟨-, h⟩ | ⟨-, -, h | h⟩
  · rw [hremote] at h
    exact absurd h (by decide)
  · rw [hremote] at h
    exact absurd h (by decide)
  · rw [hremote] at h
    exact absurd h (by decide)

end SocketCollection

end Wifu
