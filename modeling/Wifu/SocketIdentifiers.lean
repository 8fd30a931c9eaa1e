import Wifu.SocketLayer

/-!
# The ids of the sockets

The id of an accepted socket is the second id that the listening socket has at the SYN.  A SYN takes it but leaves it
there.  As long as each SYN finds a second id that no SYN before it has taken, and no key is used twice, the sockets of
the collection have different ids and the assertions of `imodule_delete_socket` hold (`ids_unique`).
-/

namespace Wifu

namespace SocketCollection

variable {c c' : SocketCollection} {k : SocketKey} {r s n : SocketPointer} {o : SocketObject}

theorem Rekeys.stored_self {present : Prop} (h : Rekeys s present c c') : c'.Stored s ↔ present := by
  constructor
  · rintro ⟨k, hk⟩
    exact ((h.self k).1 hk).1
  · intro hp
    exact ⟨_, (h.self _).2 ⟨hp, rfl⟩⟩

theorem Rekeys.stored_of_ne {present : Prop} (h : Rekeys s present c c') (hr : r ≠ s) : c'.Stored r ↔ c.Stored r :=
  exists_congr fun k => h.others k r hr

/-- A stored socket that changes and stays: the same sockets are stored. -/
theorem Rekeys.stored {present : Prop} (h : Rekeys s present c c') (hs : c.Stored s) (hp : present) :
    c'.Stored r ↔ c.Stored r := by
  by_cases hr : r = s
  · subst hr
    exact ⟨fun _ => hs, fun _ => h.stored_self.2 hp⟩
  · exact h.stored_of_ne hr

/-- A new socket under a key that nobody has. -/
theorem Keyed.create (h : c.Keyed) (hn : ¬c.Stored n) (hfree : ∀ r, ¬c.Holds o.getKey r) :
    Rekeys n True c ((c.modify n o).push n) := by
  have hne (r : SocketPointer) (hr : c.Stored r) : r ≠ n := by
    rintro rfl
    exact hn hr
  have hkeyed : (c.modify n o).Keyed := by
    refine ⟨fun k r hr => ?_, fun r hr => ?_⟩
    · unfold SocketCollection.key
      rw [modify_of_ne o (hne r ⟨k, hr⟩)]
      exact h.current k r hr
    · rw [modify_of_ne o (hne r hr)]
      exact h.observed r hr
  have hkey : (c.modify n o).key n = o.getKey := by
    unfold SocketCollection.key
    rw [modify_self]
  have hpush := hkeyed.push (s := n) fun r hr => absurd (hkey ▸ hr) (hfree r)
  refine ⟨fun r hr => ?_, hpush.others, hpush.self, hpush.observed⟩
  rw [hpush.sockets r hr, modify_of_ne o hr]

/-- A change that the key does not depend on. -/
theorem Keyed.modify (h : c.Keyed) (hkey : o.getKey = c.key s) (hobs : o.observed = (c.sockets s).observed) :
    (c.modify s o).Keyed := by
  refine ⟨fun k r hr => ?_, fun r hr => ?_⟩
  · by_cases hrs : r = s
    · subst hrs
      unfold SocketCollection.key
      rw [modify_self, hkey]
      exact h.current k r hr
    · unfold SocketCollection.key
      rw [modify_of_ne o hrs]
      exact h.current k r hr
  · by_cases hrs : r = s
    · subst hrs
      rw [modify_self, hobs]
      exact h.observed r hr
    · rw [modify_of_ne o hrs]
      exact h.observed r hr

/-- The socket with an id is found when no other stored socket has the id. -/
theorem getById_eq (hs : c.Stored s)
    (hone : ∀ r, c.Stored r → (c.sockets r).socket = (c.sockets s).socket → r = s) :
    c.getById (c.sockets s).socket = some s := by
  obtain ⟨r, hget, -, hrs⟩ := History.reachable_of_stored hs
  rw [hget, hrs hone]

theorem getById_eq_none {id : BitVec 32} (h : ∀ r, c.Stored r → (c.sockets r).socket ≠ id) : c.getById id = none :=
  accept_none.2 fun r hr => beq_eq_false_iff_ne.2 (h r hr)

end SocketCollection

namespace SocketLayer

open SocketCollection (Keyed Rekeys)

/-- The id of a socket, and its second id. -/
def id (t : SocketLayer) (s : SocketPointer) : BitVec 32 := (t.collection.sockets s).socket

def secondId (t : SocketLayer) (s : SocketPointer) : BitVec 32 := (t.collection.sockets s).secondSocket

/-- Each socket of the collection is live and has an id of its own, which is not one that a later SYN will take. -/
structure Identified (t : SocketLayer) : Prop where
  keyed : t.collection.Keyed
  stored : ∀ s, t.collection.Stored s ↔ s ∈ t.live
  ids : ∀ r ∈ t.live, ∀ s ∈ t.live, t.id r = t.id s → r = s
  used : ∀ s ∈ t.live, t.id s ∈ t.ids
  unusedMade : ∀ s ∈ t.unused, s < t.next
  secondUsed : ∀ s ∈ t.unused, t.secondId s ∈ t.ids
  secondFree : ∀ s ∈ t.unused, ∀ r ∈ t.live, t.id r ≠ t.secondId s
  seconds : ∀ r ∈ t.unused, ∀ s ∈ t.unused, t.secondId r = t.secondId s → r = s

/-- The condition on a step: a SYN that a listening socket takes finds a second id that no SYN has taken, and a socket
that is made or given another address gets a key that no other socket has. -/
def Distinct (t : SocketLayer) : Action → Prop
  | .socket _ drawn => ∀ port ∈ PortManager.get t.ports drawn,
      t.collection.collection[makeKey ⟨0, port⟩ .default]? = none
  | .bind s a => s ∈ t.protocolSockets → t.alreadyBound a = false →
      t.collection.KeyFree s (makeKey a (t.collection.sockets s).remoteAddress)
  | .connect s source destination => s ∈ t.protocolSockets ∧ t.phase s = .closed →
      t.collection.KeyFree s (makeKey ⟨source, (t.collection.sockets s).localAddress.port⟩
        (t.collection.sockets s).remoteAddress) ∧
      t.collection.KeyFree s (makeKey ⟨source, (t.collection.sockets s).localAddress.port⟩ destination)
  | .receivePacket => ∀ e ∈ t.packets.head?, e.socket ∈ t.protocolSockets ∧ t.phase e.socket = .listen →
      e.socket ∈ t.unused ∧
      t.collection.collection[makeKey (t.collection.sockets e.socket).localAddress e.packet.source]? = none
  | _ => True

instance (t : SocketLayer) : (i : Action) → Decidable (t.Distinct i)
  | .socket _ _ =>
    Option.decidableForallMem (p := fun port => t.collection.collection[makeKey ⟨0, port⟩ .default]? = none) _
  | .bind _ _ => inferInstanceAs (Decidable (_ → _ → t.collection.KeyFree _ _))
  | .connect _ _ _ => inferInstanceAs (Decidable (_ ∧ _ → t.collection.KeyFree _ _ ∧ t.collection.KeyFree _ _))
  | .receivePacket => inferInstanceAs (Decidable (∀ e ∈ t.packets.head?, _ ∧ _ → _ ∧ t.collection.collection[_]? = none))
  | .accept _ _ | .listen _ | .syn _ | .connectionInitiated | .deleteSocket _ => .isTrue trivial

variable {t u : SocketLayer} {s : SocketPointer} {unset : BitVec 32} {i : Action}

/-- A step that leaves the ids and the sockets as they are. -/
theorem Identified.same (h : t.Identified) (hkeyed : u.collection.Keyed)
    (hstored : ∀ s, u.collection.Stored s ↔ t.collection.Stored s) (hid : ∀ s, u.id s = t.id s)
    (hsecond : ∀ s, u.secondId s = t.secondId s) (hlive : u.live = t.live) (hnext : u.next = t.next)
    (hids : u.ids = t.ids) (hunused : u.unused = t.unused) : u.Identified where
  keyed := hkeyed
  stored s := by rw [hstored, hlive]; exact h.stored s
  ids := by simp only [hid, hlive]; exact h.ids
  used := by simp only [hid, hlive, hids]; exact h.used
  unusedMade := by rw [hunused, hnext]; exact h.unusedMade
  secondUsed := by simp only [hsecond, hunused, hids]; exact h.secondUsed
  secondFree := by simp only [hid, hsecond, hlive, hunused]; exact h.secondFree
  seconds := by simp only [hsecond, hunused]; exact h.seconds

/-- A new socket with an id that no live socket has and no later SYN will take. -/
theorem Identified.created {o : SocketObject} (h : t.Identified) (ht : t.Tracked)
    (hfree : ∀ r, ¬t.collection.Holds o.getKey r) (hcollection : u.collection = (t.create o).collection)
    (hlive : u.live = t.next :: t.live) (hnext : u.next = t.next + 1) (hids : ∀ x ∈ t.ids, x ∈ u.ids)
    (hused : o.socket ∈ u.ids) (hother : ∀ s ∈ t.live, t.id s ≠ o.socket)
    (hunused : ∀ s ∈ u.unused, s ∈ t.unused ∧ t.secondId s ≠ o.socket) : u.Identified := by
  have hlt (r : SocketPointer) (hr : r ∈ t.live) : r ≠ t.next := (ht.made r hr).ne
  have hunstored : ¬t.collection.Stored t.next := fun hs => hlt _ ((h.stored _).1 hs) rfl
  have hr : Rekeys t.next True t.collection u.collection := hcollection ▸ h.keyed.create hunstored hfree
  have hidNew : u.id t.next = o.socket := by
    unfold SocketLayer.id
    rw [hcollection]
    show (((t.collection.modify t.next o).push t.next).sockets t.next).socket = _
    rw [SocketCollection.push_sockets_self, SocketCollection.modify_self]
  have hid (r : SocketPointer) (hne : r ≠ t.next) : u.id r = t.id r := by
    unfold SocketLayer.id
    rw [hr.sockets r hne]
  have hsecond (r : SocketPointer) (hne : r ≠ t.next) : u.secondId r = t.secondId r := by
    unfold SocketLayer.secondId
    rw [hr.sockets r hne]
  have hwaiting (r : SocketPointer) (hr : r ∈ t.unused) : r ≠ t.next := (h.unusedMade r hr).ne
  refine ⟨hr.keyed h.keyed, fun r => ?_, fun r hr s hs heq => ?_, fun r hr => ?_, fun r hr => ?_, fun r hr => ?_,
    fun s hs r hr => ?_, fun r hr s hs heq => ?_⟩
  · rw [hlive, List.mem_cons]
    by_cases hrn : r = t.next
    · subst hrn
      exact ⟨fun _ => .inl rfl, fun _ => hr.stored_self.2 trivial⟩
    · rw [hr.stored_of_ne hrn, h.stored]
      exact ⟨.inr, fun ho => ho.resolve_left hrn⟩
  · rw [hlive] at hr hs
    rcases List.mem_cons.1 hr with rfl | hr
    · rcases List.mem_cons.1 hs with rfl | hs
      · rfl
      · rw [hidNew, hid s (hlt s hs)] at heq
        exact absurd heq.symm (hother s hs)
    · rcases List.mem_cons.1 hs with rfl | hs
      · rw [hidNew, hid r (hlt r hr)] at heq
        exact absurd heq (hother r hr)
      · rw [hid r (hlt r hr), hid s (hlt s hs)] at heq
        exact h.ids r hr s hs heq
  · rw [hlive] at hr
    rcases List.mem_cons.1 hr with rfl | hr
    · rw [hidNew]
      exact hused
    · rw [hid r (hlt r hr)]
      exact hids _ (h.used r hr)
  · rw [hnext]
    exact (h.unusedMade r (hunused r hr).1).trans (Nat.lt_succ_self _)
  · have hmem := (hunused r hr).1
    rw [hsecond r (hwaiting r hmem)]
    exact hids _ (h.secondUsed r hmem)
  · obtain ⟨hmem, hne⟩ := hunused s hs
    rw [hsecond s (hwaiting s hmem)]
    rw [hlive] at hr
    rcases List.mem_cons.1 hr with rfl | hr
    · rw [hidNew]
      exact hne.symm
    · rw [hid r (hlt r hr)]
      exact h.secondFree s hmem r hr
  · have hmr := (hunused r hr).1
    have hms := (hunused s hs).1
    rw [hsecond r (hwaiting r hmr), hsecond s (hwaiting s hms)] at heq
    exact h.seconds r hmr s hms heq

/-- A change of the address of a live socket under a key that no other socket has. -/
theorem Identified.readdressed {c : SocketCollection} {o : SocketObject} (h : t.Identified) (hs : s ∈ t.live)
    (hobs : o.observed = (t.collection.sockets s).observed) (hfree : t.collection.KeyFree s o.getKey)
    (hid : o.socket = t.id s) (hsecond : o.secondSocket = t.secondId s)
    (hc : c = (t.collection.modify s o).notify s) : ({ t with collection := c } : SocketLayer).Identified := by
  have hstored := (h.stored s).2 hs
  have ho : o.observed = true := by
    rw [hobs]
    exact h.keyed.observed s hstored
  have hr := h.keyed.change o hobs fun _ => hfree
  have hsocket (r : SocketPointer) : c.sockets r = if r = s then o else t.collection.sockets r := by
    rw [hc]
    exact SocketCollection.notify_socket _ _ _ r
  subst hc
  refine h.same (hr.keyed h.keyed) (fun r => hr.stored hstored ho) (fun r => ?_) (fun r => ?_) rfl rfl rfl rfl
  · unfold SocketLayer.id
    rw [hsocket]
    split
    · rename_i hrs
      rw [hid, hrs]
      rfl
    · rfl
  · unfold SocketLayer.secondId
    rw [hsocket]
    split
    · rename_i hrs
      rw [hsecond, hrs]
      rfl
    · rfl

/-- The assertions of `imodule_delete_socket` hold, and the socket is taken out. -/
theorem Identified.libraryDelete (h : t.Identified) (ht : t.Tracked) (hs : s ∈ t.protocolSockets) :
    ∃ u, t.libraryDelete s = .ok u ∧ u.Identified := by
  have hlive := ht.protocolLive s hs
  have hstored := (h.stored s).2 hlive
  have hget : t.collection.getById (t.collection.sockets s).socket = some s :=
    SocketCollection.getById_eq hstored fun r hr heq => h.ids r ((h.stored r).1 hr) s hlive heq
  have hfree : t.collection.KeyFree s (t.collection.key s) := by
    intro r hr
    obtain ⟨k, hk⟩ := hstored
    have := h.keyed.current k s hk
    subst this
    exact hr.unique hk
  have hr := h.keyed.remove hfree
  have hsockets : (t.collection.remove s).sockets = t.collection.sockets := SocketCollection.remove_sockets
  have hne (r : SocketPointer) (hr' : (t.collection.remove s).Stored r) : r ≠ s := by
    rintro rfl
    exact hr.stored_self.1 hr'
  have hnone : (t.collection.remove s).getById (t.collection.sockets s).socket = none := by
    refine SocketCollection.getById_eq_none fun r hr' heq => ?_
    rw [hsockets] at heq
    exact hne r hr' (h.ids r ((h.stored r).1 ((hr.stored_of_ne (hne r hr')).1 hr')) s hlive heq)
  have hid (r : SocketPointer) : ((t.collection.remove s).sockets r).socket = t.id r := by rw [hsockets]; rfl
  have hsecond (r : SocketPointer) : ((t.collection.remove s).sockets r).secondSocket = t.secondId r := by
    rw [hsockets]
    rfl
  have hmem (l : List SocketPointer) (r : SocketPointer) : r ∈ (l.filter fun q => q != s) ↔ r ∈ l ∧ r ≠ s := by
    rw [List.mem_filter, bne_iff_ne]
  refine ⟨_, by unfold SocketLayer.libraryDelete; rw [if_neg (not_not.2 hget), if_neg (not_not.2 hnone)], ?_⟩
  refine ⟨hr.keyed h.keyed, fun r => ?_, fun q hq r hr' heq => ?_, fun r hr' => ?_, h.unusedMade, fun r hr' => ?_,
    fun q hq r hr' => ?_, fun q hq r hr' heq => ?_⟩
  · show (t.collection.remove s).Stored r ↔ r ∈ t.live.filter fun q => q != s
    rw [hmem]
    by_cases hrs : r = s
    · subst hrs
      exact ⟨fun hst => (hr.stored_self.1 hst).elim, fun hm => absurd rfl hm.2⟩
    · rw [hr.stored_of_ne hrs, h.stored]
      exact ⟨fun hm => ⟨hm, hrs⟩, fun hm => hm.1⟩
  · have heq : t.id q = t.id r := by rw [← hid, ← hid]; exact heq
    exact h.ids q ((hmem _ q).1 hq).1 r ((hmem _ r).1 hr').1 heq
  · show ((t.collection.remove s).sockets r).socket ∈ t.ids
    rw [hid]
    exact h.used r ((hmem _ r).1 hr').1
  · show ((t.collection.remove s).sockets r).secondSocket ∈ t.ids
    rw [hsecond]
    exact h.secondUsed r hr'
  · show ((t.collection.remove s).sockets r).socket ≠ ((t.collection.remove s).sockets q).secondSocket
    rw [hid, hsecond]
    exact h.secondFree q hq r ((hmem _ r).1 hr').1
  · have heq : t.secondId q = t.secondId r := by rw [← hsecond, ← hsecond]; exact heq
    exact h.seconds q hq r hr' heq

/-- An accept message stores a fresh second id. -/
theorem Identified.accepted {secondFd : BitVec 32} (h : t.Identified) (ht : t.Tracked) (hs : s ∈ t.live)
    (hfresh : secondFd ∉ t.ids) :
    ({ t with
      collection := t.collection.modify s { t.collection.sockets s with secondSocket := secondFd }
      ids := secondFd :: t.ids
      unused := s :: t.unused.filter fun r => r != s } : SocketLayer).Identified := by
  generalize hu : ({ t with
    collection := t.collection.modify s { t.collection.sockets s with secondSocket := secondFd }
    ids := secondFd :: t.ids
    unused := s :: t.unused.filter fun r => r != s } : SocketLayer) = u
  have hsocket (r : SocketPointer) : u.collection.sockets r =
      if r = s then { t.collection.sockets s with secondSocket := secondFd } else t.collection.sockets r := by
    rw [← hu]
    split
    · rename_i hr
      rw [hr, SocketCollection.modify_self]
    · rename_i hr
      exact SocketCollection.modify_of_ne _ hr
  have hid (r : SocketPointer) : u.id r = t.id r := by
    unfold SocketLayer.id
    rw [hsocket]
    split
    · rename_i hr
      rw [hr]
    · rfl
  have hself : u.secondId s = secondFd := by
    unfold SocketLayer.secondId
    rw [hsocket, if_pos rfl]
  have hsecond (r : SocketPointer) (hr : r ≠ s) : u.secondId r = t.secondId r := by
    unfold SocketLayer.secondId
    rw [hsocket, if_neg hr]
  have hunused (r : SocketPointer) (hr : r ∈ u.unused) : r = s ∨ r ∈ t.unused ∧ r ≠ s := by
    rw [← hu] at hr
    rcases List.mem_cons.1 hr with hr | hr
    · exact .inl hr
    · rw [List.mem_filter, bne_iff_ne] at hr
      exact .inr hr
  have hids (x : BitVec 32) (hx : x ∈ t.ids) : x ∈ u.ids := hu ▸ List.mem_cons_of_mem _ hx
  have hlive : u.live = t.live := hu ▸ rfl
  have hkeyed : u.collection.Keyed := hu ▸ h.keyed.modify rfl rfl
  refine ⟨hkeyed, ?_, fun r hr q hq heq => ?_, fun r hr => ?_, fun r hr => ?_, fun r hr => ?_, fun r hr q hq => ?_,
    fun r hr q hq heq => ?_⟩
  · rw [← hu]
    exact h.stored
  · rw [hlive] at hr hq
    rw [hid, hid] at heq
    exact h.ids r hr q hq heq
  · rw [hlive] at hr
    rw [hid]
    exact hids _ (h.used r hr)
  · have hnext : u.next = t.next := hu ▸ rfl
    rw [hnext]
    rcases hunused r hr with rfl | ⟨hr, -⟩
    · exact ht.made r hs
    · exact h.unusedMade r hr
  · rcases hunused r hr with rfl | ⟨hr, hne⟩
    · rw [hself, ← hu]
      exact List.mem_cons_self
    · rw [hsecond r hne]
      exact hids _ (h.secondUsed r hr)
  · rw [hlive] at hq
    rw [hid]
    rcases hunused r hr with rfl | ⟨hr, hne⟩
    · rw [hself]
      exact fun heq => hfresh (heq ▸ h.used q hq)
    · rw [hsecond r hne]
      exact h.secondFree r hr q hq
  · rcases hunused r hr with rfl | ⟨hr, hrs⟩
    · rcases hunused q hq with rfl | ⟨hq, hqs⟩
      · rfl
      · rw [hself, hsecond q hqs] at heq
        exact absurd (heq ▸ h.secondUsed q hq) hfresh
    · rcases hunused q hq with rfl | ⟨hq, hqs⟩
      · rw [hself, hsecond r hrs] at heq
        exact absurd (heq ▸ h.secondUsed r hr) hfresh
      · rw [hsecond r hrs, hsecond q hqs] at heq
        exact h.seconds r hr q hq heq

theorem Identified.stateConnect {source : BitVec 32} {destination : AddressPort} (h : t.Identified) (hs : s ∈ t.live)
    (hfree : t.collection.KeyFree s (makeKey ⟨source, (t.collection.sockets s).localAddress.port⟩
      (t.collection.sockets s).remoteAddress))
    (hfree' : t.collection.KeyFree s (makeKey ⟨source, (t.collection.sockets s).localAddress.port⟩ destination)) :
    (t.stateConnect s source destination).Identified := by
  have hobs := h.keyed.observed s ((h.stored s).2 hs)
  have hbind := h.readdressed (o := { t.collection.sockets s with
    localAddress := ⟨source, (t.collection.sockets s).localAddress.port⟩ }) hs rfl hfree rfl rfl rfl
  have hchange := h.keyed.change (s := s) { t.collection.sockets s with
    localAddress := ⟨source, (t.collection.sockets s).localAddress.port⟩ } rfl fun _ => hfree
  generalize hc : t.collection.setLocalAddressPort s ⟨source, (t.collection.sockets s).localAddress.port⟩ = c
  have hsocket : c.sockets s = { t.collection.sockets s with
      localAddress := ⟨source, (t.collection.sockets s).localAddress.port⟩ } := by
    rw [← hc]
    exact (SocketCollection.notify_socket _ _ _ s).trans (if_pos rfl)
  have hfree : c.KeyFree s (makeKey ⟨source, (t.collection.sockets s).localAddress.port⟩ destination) := by
    intro r hr
    by_contra hne
    rw [← hc] at hr
    exact hne (hfree' r ((hchange.others _ r hne).1 hr))
  have hremote := Identified.readdressed (t := { t with collection := c })
    (o := { c.sockets s with remoteAddress := destination }) (by rw [← hc]; exact hbind) hs rfl
    (by rw [hsocket]; exact hfree) rfl rfl rfl
  unfold SocketLayer.stateConnect
  rw [hc]
  exact hremote.same hremote.keyed (fun _ => Iff.rfl) (fun _ => rfl) (fun _ => rfl) rfl rfl rfl rfl

theorem Identified.step (h : t.Identified) (ht : t.Tracked) (hi : Fresh i t) (hd : t.Distinct i)
    (hstep : SocketLayer.step unset i t = .ok u) : u.Identified := by
  cases step_cases hstep with
  | unchanged => exact h
  | socket fd drawn port hp =>
    have hfree := hd port hp
    refine h.created ht (o := newSocket unset fd port) (fun r hr => ?_) rfl rfl rfl
      (fun x hx => List.mem_cons_of_mem _ hx) List.mem_cons_self (fun r hr heq => ?_) fun r hr => ⟨hr, fun heq => ?_⟩
    · exact absurd (hfree.symm.trans hr) (Option.some_ne_none r).symm
    · have heq : t.id r = fd := heq
      exact hi (heq ▸ h.used r hr)
    · have heq : t.secondId r = fd := heq
      exact hi (heq ▸ h.secondUsed r hr)
  | accept fd secondFd s hs => exact h.accepted ht ((h.stored s).1 (SocketCollection.accept_some hs).stored) hi
  | bind s a hs hb =>
    exact h.readdressed (o := { t.collection.sockets s with localAddress := a }) (ht.protocolLive s hs) rfl
      (hd hs hb) rfl rfl rfl
  | listen s hs =>
    have hsocket (r : SocketPointer) : (t.libraryListen s).collection.sockets r =
        if r = s then { t.collection.sockets s with isPassive := true } else t.collection.sockets r := by
      split
      · rename_i hr
        rw [hr]
        exact SocketCollection.modify_self _
      · rename_i hr
        exact SocketCollection.modify_of_ne _ hr
    refine h.same (h.keyed.modify rfl rfl) (fun _ => Iff.rfl) (fun r => ?_) (fun r => ?_) rfl rfl rfl rfl
    · unfold SocketLayer.id
      rw [hsocket]
      split
      · rename_i hr
        rw [hr]
      · rfl
    · unfold SocketLayer.secondId
      rw [hsocket]
      split
      · rename_i hr
        rw [hr]
      · rfl
  | connect s source destination hs =>
    exact h.stateConnect (ht.protocolLive s hs.1) (hd hs).1 (hd hs).2
  | syn | drop | initiated => exact h.same h.keyed (fun _ => Iff.rfl) (fun _ => rfl) (fun _ => rfl) rfl rfl rfl rfl
  | receive e es hp hl =>
    obtain ⟨hunused, hfree⟩ := hd e (by rw [hp]; rfl) hl
    have htracked : ({ t with packets := es } : SocketLayer).Tracked := ht.same rfl rfl rfl rfl
    have hsame : ({ t with packets := es } : SocketLayer).Identified :=
      h.same h.keyed (fun _ => Iff.rfl) (fun _ => rfl) (fun _ => rfl) rfl rfl rfl rfl
    refine hsame.created htracked (o := acceptedSocket unset (t.collection.sockets e.socket) e.packet)
      (fun r hr => ?_) rfl rfl rfl (fun x hx => hx) (h.secondUsed _ hunused) (h.secondFree _ hunused) fun r hr => ?_
    · exact absurd (hfree.symm.trans hr) (Option.some_ne_none r).symm
    · obtain ⟨hr, hne⟩ := List.mem_filter.1 hr
      rw [bne_iff_ne] at hne
      exact ⟨hr, fun heq => hne (h.seconds r hr _ hunused heq)⟩
  | delete s hs =>
    obtain ⟨v, hv, hid⟩ := h.libraryDelete ht hs
    rw [libraryDelete_ok hv] at hid
    exact hid

variable {sockets : SocketPointer → SocketObject} {is : List Action}

theorem start_identified : (start sockets).Identified := by
  have hnone (k : SocketKey) (s : SocketPointer) : ¬(start sockets).collection.Holds k s := by
    intro h
    simp [start, SocketCollection.Holds] at h
  have hstored (s : SocketPointer) : ¬(start sockets).collection.Stored s := fun ⟨k, hk⟩ => hnone k s hk
  exact ⟨⟨fun k s h => absurd h (hnone k s), fun s h => absurd h (hstored s)⟩,
    fun s => ⟨fun h => absurd h (hstored s), nofun⟩, nofun, nofun, nofun, nofun, nofun, nofun⟩

/-- Along every run whose messages carry fresh ids and whose SYNs find an id stored for them, no two sockets of the
collection have one id, so that `get_by_id` finds each of them, and no assertion of `imodule_delete_socket` fails. -/
theorem ids_unique (hr : (machine unset).Run Distinct (start sockets) is t) :
    (∀ r s, t.collection.Stored r → t.collection.Stored s → t.id r = t.id s → r = s) ∧
      (∀ s, t.collection.Stored s → t.collection.getById (t.id s) = some s) ∧
      ∀ s, ∃ u, SocketLayer.step unset (.deleteSocket s) t = .ok u := by
  obtain ⟨h, ht⟩ : t.Identified ∧ t.Tracked :=
    hr.invariant (fun t => t.Identified ∧ t.Tracked) ⟨start_identified, start_tracked sockets⟩ fun _ _ _ h hi hd hstep =>
      ⟨h.1.step h.2 hi hd hstep, h.2.step hstep⟩
  have hunique (r s : SocketPointer) (hr : t.collection.Stored r) (hs : t.collection.Stored s)
      (heq : t.id r = t.id s) : r = s :=
    h.ids r ((h.stored r).1 hr) s ((h.stored s).1 hs) heq
  refine ⟨hunique, fun s hs => SocketCollection.getById_eq hs fun r hr heq => hunique r s hr hs heq, fun s => ?_⟩
  unfold SocketLayer.step
  by_cases hs : s ∈ t.protocolSockets
  · simp only [hs, if_true]
    obtain ⟨u, hu, -⟩ := h.libraryDelete ht hs
    exact ⟨u, hu⟩
  · simp only [hs, if_false]
    exact ⟨t, rfl⟩

/-- A server listens at port 80, and the second id 6 is stored for the first connection. -/
def listens : List Action := [.socket 5 [80], .listen 0, .accept 5 6]

/-- A SYN to the server, and what the protocol makes of it. -/
def synFrom (source : AddressPort) : List Action :=
  [.syn ⟨source, ⟨0x0a000001, 80⟩, true⟩, .receivePacket, .connectionInitiated]

/-- The memory before any socket is made. -/
def freshMemory : SocketPointer → SocketObject := fun _ => { socket := 0, localAddress := .default }

/-- Two connections, each after an accept message of its own, and the first one is closed. -/
theorem ids_unique_accepts : ∃ t : SocketLayer, t.live = [2, 0] ∧ t.collection.getById 7 = some 2 ∧
    ∃ u, SocketLayer.step 0 (.deleteSocket 2) t = .ok u := by
  obtain ⟨t, hr, h⟩ := Transition.Machine.exists_run (M := machine 0) (P := Distinct) (s := start freshMemory)
    (i := listens ++ synFrom ⟨0x0a000002, 5000⟩ ++ .accept 5 7 :: synFrom ⟨0x0a000003, 6000⟩ ++ [.deleteSocket 1])
    (q := fun t => decide (t.live = [2, 0] ∧ t.collection.getById 7 = some 2)) (by decide +kernel)
  obtain ⟨hlive, hget⟩ := of_decide_eq_true h
  exact ⟨t, hlive, hget, (ids_unique hr).2.2 2⟩

/-- Two SYNs after one accept message: both connections get the id 6, and closing the first one fails. -/
theorem ids_shared : ∃ t, (machine 0).Run Transition.anyStep (start freshMemory)
    (listens ++ synFrom ⟨0x0a000002, 5000⟩ ++ synFrom ⟨0x0a000003, 6000⟩) t ∧
      t.collection.Stored 1 ∧ t.collection.Stored 2 ∧ t.id 1 = t.id 2 ∧
      SocketLayer.step 0 (.deleteSocket 1) t matches .error .deleteStillFound := by
  obtain ⟨t, hr, h⟩ := Transition.Machine.exists_run (M := machine 0) (P := Transition.anyStep)
    (s := start freshMemory) (i := listens ++ synFrom ⟨0x0a000002, 5000⟩ ++ synFrom ⟨0x0a000003, 6000⟩)
    (q := fun t => decide ((∃ e ∈ t.collection.collection.toList, e.2 = 1) ∧
      (∃ e ∈ t.collection.collection.toList, e.2 = 2) ∧ t.id 1 = t.id 2) &&
      SocketLayer.step 0 (.deleteSocket 1) t matches .error .deleteStillFound) (by decide +kernel)
  rw [Bool.and_eq_true] at h
  obtain ⟨h, hdelete⟩ := h
  obtain ⟨h1, h2, hid⟩ := of_decide_eq_true h
  exact ⟨t, hr, SocketCollection.stored_iff.2 h1, SocketCollection.stored_iff.2 h2, hid, hdelete⟩

end SocketLayer

end Wifu
