import Wifu.SocketLayer

/-!
# The ports of the port manager

A port is taken when a socket is made, and only the destructor of a socket would give it back; sockets are collected
without running it.  As long as each deleted socket leaves another live one with its port, and each bind takes a port
that was handed out and leaves the old one to another socket, the numbers that the port manager holds are the local
ports of the live sockets (`ports_balanced`).  A step that does not meet the condition ends that
(`Balanced.step_unbalances`).
-/

namespace Wifu

namespace SocketLayer

/-- The local port of a socket. -/
def port (t : SocketLayer) (s : SocketPointer) : BitVec 16 := (t.collection.sockets s).localAddress.port

/-- Another live socket has the port of this one. -/
def Shared (t : SocketLayer) (s : SocketPointer) : Prop := ∃ r ∈ t.live, r ≠ s ∧ t.port r = t.port s

instance (t : SocketLayer) (s : SocketPointer) : Decidable (t.Shared s) :=
  inferInstanceAs (Decidable (∃ r ∈ t.live, r ≠ s ∧ t.port r = t.port s))

/-- The condition on a step: a deleted socket leaves its port to another live one, and so does a socket that is bound
to another port, which must be one that the port manager holds. -/
def KeepsPorts (t : SocketLayer) : Action → Prop
  | .bind s a => s ∈ t.protocolSockets → t.alreadyBound a = false → a.port ∈ t.ports ∧ (a.port = t.port s ∨ t.Shared s)
  | .deleteSocket s => s ∈ t.protocolSockets → t.Shared s
  | _ => True

instance (t : SocketLayer) : (i : Action) → Decidable (t.KeepsPorts i)
  | .bind _ _ => inferInstanceAs (Decidable (_ → _ → _ ∧ (_ ∨ t.Shared _)))
  | .deleteSocket s => inferInstanceAs (Decidable (_ → t.Shared s))
  | .socket _ _ | .accept _ _ | .listen _ | .connect _ _ _ | .syn _ | .receivePacket | .connectionInitiated =>
    .isTrue trivial

/-- The port manager holds the ports it has handed out that are local ports of live sockets, and hands out no port of
a live socket; it has one to hand out while there are fewer live sockets than ports. -/
structure PortsReleased (t : SocketLayer) : Prop where
  held : ∀ p, p ∈ t.ports ↔ p ∈ t.handedOut ∧ ∃ s ∈ t.live, t.port s = p
  unused : ∀ drawn p, PortManager.get t.ports drawn = some p → ∀ s ∈ t.live, t.port s ≠ p
  free : t.live.length < 65536 → ∃ drawn p, PortManager.get t.ports drawn = some p

/-- The ports held are those handed out, and those of the live sockets. -/
structure Balanced (t : SocketLayer) : Prop where
  handedOut : t.ports = t.handedOut
  live : ∀ s ∈ t.live, t.port s ∈ t.ports
  held : ∀ p ∈ t.ports, ∃ s ∈ t.live, t.port s = p

variable {t u : SocketLayer} {s : SocketPointer} {unset : BitVec 32} {i : Action}

theorem Balanced.released (h : t.Balanced) : t.PortsReleased := by
  refine ⟨fun p => ?_, fun drawn p hp s hs heq => ?_, fun hlt => ?_⟩
  · rw [← h.handedOut]
    exact ⟨fun hp => ⟨hp, h.held p hp⟩, fun hp => hp.1⟩
  · exact PortManager.get_notMem hp (heq ▸ h.live s hs)
  · have hsub : t.ports ⊆ (t.live.map t.port).toFinset := by
      intro p hp
      obtain ⟨s, hs, rfl⟩ := h.held p hp
      exact List.mem_toFinset.2 (List.mem_map_of_mem hs)
    have hcard : t.ports.card ≤ t.live.length := by
      calc t.ports.card ≤ (t.live.map t.port).toFinset.card := Finset.card_le_card hsub
        _ ≤ (t.live.map t.port).length := List.toFinset_card_le _
        _ = t.live.length := List.length_map _
    have huniv : t.ports.card < (Finset.univ : Finset (BitVec 16)).card := by
      have hspace : Fintype.card (BitVec 16) = 65536 := FinEnum.card_eq_fintypeCard.symm
      rw [Finset.card_univ, hspace]
      omega
    obtain ⟨p, -, hp⟩ := Finset.exists_mem_notMem_of_card_lt_card huniv
    exact ⟨[p], p, PortManager.get_of_notMem hp⟩

/-- A step that keeps the ports of the sockets. -/
theorem Balanced.same (h : t.Balanced) (hports : u.ports = t.ports) (hout : u.handedOut = t.handedOut)
    (hlive : u.live = t.live) (hport : ∀ s, u.port s = t.port s) : u.Balanced where
  handedOut := by rw [hports, hout]; exact h.handedOut
  live := by simp only [hlive, hports, hport]; exact h.live
  held := by simp only [hlive, hports, hport]; exact h.held

/-- The ports after a socket is made. -/
theorem create_port (t : SocketLayer) (o : SocketObject) (r : SocketPointer) :
    (t.create o).port r = if r = t.next then o.localAddress.port else t.port r := by
  unfold port create
  simp only
  rw [SocketCollection.push_socket]
  split
  · rw [SocketCollection.modify_self]
  · rename_i hr
    rw [SocketCollection.modify_of_ne o hr]

theorem readdressed_port (t : SocketLayer) (s : SocketPointer) (a : AddressPort) (r : SocketPointer) :
    ((t.collection.setLocalAddressPort s a).sockets r).localAddress.port =
      if r = s then a.port else t.port r := by
  unfold SocketCollection.setLocalAddressPort
  rw [SocketCollection.notify_socket]
  split <;> rfl

/-- `connect` gives the socket another address with the port it has. -/
theorem stateConnect_port (t : SocketLayer) (s : SocketPointer) (source : BitVec 32) (destination : AddressPort)
    (r : SocketPointer) : (t.stateConnect s source destination).port r = t.port r := by
  have hlocal := readdressed_port t s ⟨source, (t.collection.sockets s).localAddress.port⟩
  unfold stateConnect port SocketCollection.setRemoteAddressPort
  simp only
  rw [SocketCollection.notify_socket]
  by_cases hr : r = s
  · rw [if_pos hr, hlocal, if_pos rfl, hr]
  · rw [if_neg hr, hlocal, if_neg hr]
    rfl

theorem Balanced.step (h : t.Balanced) (ht : t.Tracked) (hk : t.KeepsPorts i)
    (hstep : SocketLayer.step unset i t = .ok u) : u.Balanced := by
  have hlt (r : SocketPointer) (hr : r ∈ t.live) : r ≠ t.next := (ht.made r hr).ne
  cases step_cases hstep with
  | unchanged => exact h
  | socket fd drawn p =>
    have hport (r : SocketPointer) := create_port t (newSocket unset fd p) r
    refine ⟨?_, fun r hr => ?_, fun q hq => ?_⟩
    · show insert p t.ports = insert p t.handedOut
      rw [h.handedOut]
    · show (t.create _).port r ∈ insert p t.ports
      rw [hport]
      rcases List.mem_cons.1 hr with rfl | hr
      · rw [if_pos rfl]
        exact Finset.mem_insert_self p t.ports
      · rw [if_neg (hlt r hr)]
        exact Finset.mem_insert_of_mem (h.live r hr)
    · rcases Finset.mem_insert.1 hq with rfl | hq
      · exact ⟨t.next, List.mem_cons_self, (hport _).trans (if_pos rfl)⟩
      · obtain ⟨r, hr, heq⟩ := h.held q hq
        exact ⟨r, List.mem_cons_of_mem _ hr, (hport r).trans ((if_neg (hlt r hr)).trans heq)⟩
  | accept fd secondFd s =>
    refine h.same rfl rfl rfl fun r => ?_
    unfold port
    by_cases hr : r = s
    · rw [hr, SocketCollection.modify_self]
    · rw [SocketCollection.modify_of_ne _ hr]
  | bind s a hs hb =>
    obtain ⟨hin, hold⟩ := hk hs hb
    have hport (r : SocketPointer) := readdressed_port t s a r
    refine ⟨h.handedOut, fun r hr => ?_, fun q hq => ?_⟩
    · show ((t.collection.setLocalAddressPort s a).sockets r).localAddress.port ∈ t.ports
      rw [hport]
      split
      · exact hin
      · exact h.live r hr
    · obtain ⟨r, hr, heq⟩ := h.held q hq
      by_cases hrs : r = s
      · subst hrs
        rcases hold with hsame | ⟨r', hr', hne, hrr⟩
        · exact ⟨r, hr, (hport r).trans ((if_pos rfl).trans (hsame.trans heq))⟩
        · exact ⟨r', hr', (hport r').trans ((if_neg hne).trans (hrr.trans heq))⟩
      · exact ⟨r, hr, (hport r).trans ((if_neg hrs).trans heq)⟩
  | listen s =>
    refine h.same rfl rfl rfl fun r => ?_
    unfold port libraryListen
    simp only
    by_cases hr : r = s
    · rw [hr, SocketCollection.modify_self]
    · rw [SocketCollection.modify_of_ne _ hr]
  | connect s source destination => exact h.same rfl rfl rfl (stateConnect_port t s source destination)
  | syn | drop | initiated => exact h.same rfl rfl rfl fun _ => rfl
  | receive e es hp hl =>
    -- the new socket has the port of the listening one, which is live
    have hport (r : SocketPointer) := create_port ({ t with packets := es } : SocketLayer)
      (acceptedSocket unset (t.collection.sockets e.socket) e.packet) r
    refine ⟨h.handedOut, fun r hr => ?_, fun q hq => ?_⟩
    · show (SocketLayer.create _ _).port r ∈ t.ports
      rw [hport]
      rcases List.mem_cons.1 hr with rfl | hr
      · rw [if_pos rfl]
        exact h.live _ (ht.protocolLive _ hl.1)
      · rw [if_neg (hlt r hr)]
        exact h.live r hr
    · obtain ⟨r, hr, heq⟩ := h.held q hq
      exact ⟨r, List.mem_cons_of_mem _ hr, (hport r).trans ((if_neg (hlt r hr)).trans heq)⟩
  | delete s hs =>
    have hport (r : SocketPointer) : ((t.collection.remove s).sockets r).localAddress.port = t.port r := by
      rw [SocketCollection.remove_sockets]
      rfl
    refine ⟨h.handedOut, fun r hr => ?_, fun q hq => ?_⟩
    · show ((t.collection.remove s).sockets r).localAddress.port ∈ t.ports
      rw [hport]
      exact h.live r (List.mem_filter.1 hr).1
    · obtain ⟨r, hr, heq⟩ := h.held q hq
      by_cases hrs : r = s
      · subst hrs
        obtain ⟨r', hr', hne, hrr⟩ := hk hs
        exact ⟨r', List.mem_filter.2 ⟨hr', bne_iff_ne.2 hne⟩, (hport r').trans (hrr.trans heq)⟩
      · exact ⟨r, List.mem_filter.2 ⟨hr, bne_iff_ne.2 hrs⟩, (hport r).trans heq⟩

/-- A step that does not meet the condition leaves a number in the set that no live socket has, or a live socket with
a port that is not in the set. -/
theorem Balanced.step_unbalances (h : t.Balanced) (ht : t.Tracked) (hk : ¬t.KeepsPorts i)
    (hstep : SocketLayer.step unset i t = .ok u) : ¬u.PortsReleased := by
  intro hu
  cases i with
  | bind s a =>
    unfold KeepsPorts at hk
    push Not at hk
    obtain ⟨hs, hb, hk⟩ := hk
    have hu' : u = { t with collection := t.collection.setLocalAddressPort s a } := by
      simp only [SocketLayer.step, hs, if_true, libraryBind, hb] at hstep
      cases hstep
      rfl
    have hport (r : SocketPointer) : u.port r = if r = s then a.port else t.port r := by
      rw [hu']
      exact readdressed_port t s a r
    have hports : u.ports = t.ports := by rw [hu']
    have hlive : u.live = t.live := by rw [hu']
    by_cases hin : a.port ∈ t.ports
    · obtain ⟨hne, hns⟩ := hk hin
      have hold : t.port s ∈ u.ports := by
        rw [hports]
        exact h.live s (ht.protocolLive s hs)
      obtain ⟨-, r, hr, heq⟩ := (hu.held _).1 hold
      rw [hport] at heq
      split at heq
      · exact hne heq
      · rename_i hrs
        exact hns ⟨r, hlive ▸ hr, hrs, heq⟩
    · have hfree : PortManager.get u.ports [a.port] = some a.port := by
        rw [hports]
        exact PortManager.get_of_notMem hin
      refine hu.unused _ _ hfree s ?_ ((hport s).trans (if_pos rfl))
      rw [hlive]
      exact ht.protocolLive s hs
  | deleteSocket s =>
    unfold KeepsPorts at hk
    push Not at hk
    obtain ⟨hs, hns⟩ := hk
    have hu' : u = { t with
        collection := t.collection.remove s
        protocolSockets := t.protocolSockets.filter fun r => r != s
        live := t.live.filter fun r => r != s } := by
      simp only [SocketLayer.step, hs, if_true] at hstep
      exact libraryDelete_ok hstep
    have hold : t.port s ∈ u.ports := by
      rw [hu']
      exact h.live s (ht.protocolLive s hs)
    obtain ⟨-, r, hr, heq⟩ := (hu.held _).1 hold
    rw [hu'] at hr heq
    obtain ⟨hr, hne⟩ := List.mem_filter.1 hr
    have hport : ((t.collection.remove s).sockets r).localAddress.port = t.port r := by
      rw [SocketCollection.remove_sockets]
      rfl
    exact hns ⟨r, hr, bne_iff_ne.1 hne, hport.symm.trans heq⟩
  | socket | accept | listen | connect | syn | receivePacket | connectionInitiated => exact hk trivial

variable {sockets : SocketPointer → SocketObject} {is : List Action}

theorem start_balanced : (start sockets).Balanced := ⟨rfl, nofun, nofun⟩

/-- Along every run in which no port is left without a live socket, and no socket is bound to a port that was not
handed out, the port manager holds exactly the ports of the live sockets. -/
theorem ports_balanced (hr : (machine unset).Run KeepsPorts (start sockets) is t) : t.PortsReleased := by
  obtain ⟨h, -⟩ : t.Balanced ∧ t.Tracked :=
    hr.invariant (fun t => t.Balanced ∧ t.Tracked) ⟨start_balanced, start_tracked sockets⟩
      fun _ _ _ h _ hk hstep => ⟨h.1.step h.2 hk hstep, h.2.step hstep⟩
  exact h.released

/-- A server with one connection that is closed again, and a client that is bound and connects. -/
def serverAndClient : List Action :=
  [.socket 5 [80], .listen 0, .accept 5 6, .syn ⟨⟨0x0a000002, 5000⟩, ⟨0x0a000001, 80⟩, true⟩, .receivePacket,
    .connectionInitiated, .socket 7 [80, 90], .bind 2 ⟨0x0a000001, 90⟩, .connect 2 0x0a000001 ⟨0x0a000003, 6000⟩,
    .deleteSocket 1]

theorem ports_balanced_server : ∃ t : SocketLayer, t.live = [2, 0] ∧ t.port 2 = 90 ∧ t.ports = {80, 90} ∧
    ∀ drawn, PortManager.get t.ports drawn ≠ some 90 := by
  obtain ⟨t, hr, h⟩ := Transition.Machine.exists_run (M := machine 0) (P := KeepsPorts)
    (s := start fun _ => { socket := 0, localAddress := .default }) (i := serverAndClient)
    (q := fun t => decide (t.live = [2, 0] ∧ t.port 2 = 90 ∧ t.ports = {80, 90})) (by decide +kernel)
  obtain ⟨hlive, hport, hports⟩ := of_decide_eq_true h
  refine ⟨t, hlive, hport, hports, fun drawn hget => ?_⟩
  exact (ports_balanced hr).unused drawn 90 hget 2 (by simp [hlive]) hport

/-- The port of a deleted socket stays in the set. -/
theorem port_leaked : ∃ t, (machine 0).Run Transition.anyStep
    (start fun _ => { socket := 0, localAddress := .default }) [.socket 5 [80], .deleteSocket 0] t ∧
      t.live = [] ∧ t.ports = {80} ∧ ¬t.PortsReleased := by
  obtain ⟨t, hr, h⟩ := Transition.Machine.exists_run (M := machine 0) (P := Transition.anyStep)
    (s := start fun _ => { socket := 0, localAddress := .default }) (i := [.socket 5 [80], .deleteSocket 0])
    (q := fun t => decide (t.live = [] ∧ t.ports = {80})) (by decide +kernel)
  obtain ⟨hlive, hports⟩ := of_decide_eq_true h
  refine ⟨t, hr, hlive, hports, fun hp => ?_⟩
  obtain ⟨-, s, hs, -⟩ := (hp.held 80).1 (by simp [hports])
  rw [hlive] at hs
  cases hs

end SocketLayer

end Wifu
