import Wifu.NetworkInterface

/-!
# Sockets from creation to deletion (`WiFuTransportBackEndTranslator.cc`, `Protocol.cc`, `Listen.cc`, `Closed.cc`)

The back end makes a socket for each socket message, with a port that the port manager draws, and keeps the second id
of an accept message on the socket that accepts.  The protocol binds, connects and listens; a listening socket that
takes a SYN makes the socket of the new connection, with the second id it has and a copy of its own local address.
A deleted socket is taken out of the protocol and of the collection.

The modelled protocol is the only one.  Its `sockets_` has a socket from the socket message on.  `SourceGetter` is not
modelled: the address it finds is an argument of `connect`.  A socket ends by `deleteSocket` at any time.
-/

namespace Wifu

namespace PortManager

/-- `RandomNumberSet::get`: the first number drawn that is not in the set; none while the loop goes on. -/
def get (held : Finset (BitVec 16)) (drawn : List (BitVec 16)) : Option (BitVec 16) :=
  drawn.find? fun r => decide (r ∉ held)

theorem get_notMem {held : Finset (BitVec 16)} {drawn : List (BitVec 16)} {p : BitVec 16}
    (h : get held drawn = some p) : p ∉ held := by
  have hp := List.find?_some (p := fun r => decide (r ∉ held)) h
  exact of_decide_eq_true hp

/-- The loop ends when a number that is not held is drawn. -/
theorem get_of_notMem {held : Finset (BitVec 16)} {p : BitVec 16} (h : p ∉ held) : get held [p] = some p := by
  simp [get, h]

end PortManager

/-- The state of a socket's connection, as far as requests depend on it. -/
inductive ConnectionPhase
  | closed
  | listen
  | other
  deriving DecidableEq, Repr

/-- What a step can fail with. -/
inductive SocketAbort
  /-- `receive` uses the socket that `get_by_id` did not find. -/
  | nullSocket
  /-- `RandomNumberSet::get` has not found a number yet. -/
  | drawing
  /-- A connection is initiated on a socket without a context. -/
  | noContext
  /-- `assert(visitor1.get_socket() == socket)` of `imodule_delete_socket`. -/
  | deleteNotFound
  /-- `assert(visitor.get_socket() == NULL)` of `imodule_delete_socket`. -/
  | deleteStillFound
  deriving DecidableEq, Repr

structure SocketLayer where
  collection : SocketCollection
  /-- The next pointer that `new` returns. -/
  next : SocketPointer := 0
  /-- The set of the port manager. -/
  ports : Finset (BitVec 16) := ∅
  /-- `sockets_` of the protocol. -/
  protocolSockets : List SocketPointer := []
  phase : SocketPointer → ConnectionPhase := fun _ => .closed
  /-- The packets waiting for the protocol. -/
  packets : List NetworkReceivePacketEvent := []
  /-- The `ConnectionInitiatedEvent`s waiting for the protocol: the listening and the new socket. -/
  initiated : List (SocketPointer × SocketPointer) := []
  /-- History: the ids that socket and accept messages carried. -/
  ids : List (BitVec 32) := []
  /-- History: the sockets whose second id no SYN has taken since an accept message stored it. -/
  unused : List SocketPointer := []
  /-- History: the sockets made and not deleted. -/
  live : List SocketPointer := []
  /-- History: the ports that the port manager has handed out. -/
  handedOut : Finset (BitVec 16) := ∅

namespace SocketLayer

inductive Action
  /-- `WIFU_SOCKET`, with the numbers that `rand` returns. -/
  | socket (fd : BitVec 32) (drawn : List (BitVec 16))
  /-- `WIFU_ACCEPT`. -/
  | accept (fd secondFd : BitVec 32)
  /-- `imodule_library_bind`. -/
  | bind (s : SocketPointer) (a : AddressPort)
  /-- `imodule_library_listen`. -/
  | listen (s : SocketPointer)
  /-- `imodule_library_connect`, with the source address found for the destination. -/
  | connect (s : SocketPointer) (source : BitVec 32) (destination : AddressPort)
  /-- A SYN comes in from the network. -/
  | syn (p : WiFuPacket)
  /-- The protocol takes the next packet. -/
  | receivePacket
  /-- The protocol takes the next `ConnectionInitiatedEvent`. -/
  | connectionInitiated
  /-- `imodule_delete_socket`. -/
  | deleteSocket (s : SocketPointer)
  deriving DecidableEq, Repr

/-- A new socket, pushed into the collection. -/
def create (t : SocketLayer) (o : SocketObject) : SocketLayer :=
  { t with
    collection := (t.collection.modify t.next o).push t.next
    next := t.next + 1
    live := t.next :: t.live }

/-- The socket object that a socket message makes; `second_socket_` has the value `unset` of fresh memory. -/
def newSocket (unset fd : BitVec 32) (port : BitVec 16) : SocketObject where
  socket := fd
  secondSocket := unset
  localAddress := ⟨0, port⟩

/-- The socket object of the connection that a SYN opens. -/
def acceptedSocket (unset : BitVec 32) (listening : SocketObject) (p : WiFuPacket) : SocketObject where
  socket := listening.secondSocket
  secondSocket := unset
  localAddress := listening.localAddress
  remoteAddress := p.source

/-- `Listen::process_syn`. -/
def processSyn (unset : BitVec 32) (t : SocketLayer) (s : SocketPointer) (p : WiFuPacket) : SocketLayer :=
  { t.create (acceptedSocket unset (t.collection.sockets s) p) with
    phase := Function.update t.phase s .other
    initiated := t.initiated ++ [(s, t.next)]
    unused := t.unused.filter fun r => r != s }

/-- `AlreadyBoundToAddressPortVisitor`. -/
def alreadyBound (t : SocketLayer) (a : AddressPort) : Bool :=
  (t.collection.accept fun o => o.localAddress == a).isSome

/-- `AlreadyListeningOnSamePortVisitor`. -/
def alreadyListening (t : SocketLayer) (port : BitVec 16) : Bool :=
  (t.collection.accept fun o => o.isPassive && o.localAddress.port == port).isSome

/-- `imodule_library_bind` of a socket of the protocol. -/
def libraryBind (t : SocketLayer) (s : SocketPointer) (a : AddressPort) : SocketLayer :=
  if t.alreadyBound a then t else { t with collection := t.collection.setLocalAddressPort s a }

/-- `imodule_library_listen` of a socket of the protocol, down to `Closed::state_listen`. -/
def libraryListen (t : SocketLayer) (s : SocketPointer) : SocketLayer :=
  let o := t.collection.sockets s
  { t with
    collection := t.collection.modify s { o with isPassive := true }
    phase := if t.alreadyListening o.localAddress.port = false ∧ t.phase s = .closed then
      Function.update t.phase s .listen else t.phase }

/-- `Closed::state_connect`. -/
def stateConnect (t : SocketLayer) (s : SocketPointer) (source : BitVec 32) (destination : AddressPort) :
    SocketLayer :=
  let c := t.collection.setLocalAddressPort s ⟨source, (t.collection.sockets s).localAddress.port⟩
  { t with
    collection := c.setRemoteAddressPort s destination
    phase := Function.update t.phase s .other }

/-- `imodule_delete_socket` of a socket of the protocol. -/
def libraryDelete (t : SocketLayer) (s : SocketPointer) : Except SocketAbort SocketLayer :=
  let id := (t.collection.sockets s).socket
  if t.collection.getById id ≠ some s then .error .deleteNotFound
  else if (t.collection.remove s).getById id ≠ none then .error .deleteStillFound
  else .ok { t with
    collection := t.collection.remove s
    protocolSockets := t.protocolSockets.filter fun r => r != s
    live := t.live.filter fun r => r != s }

def step (unset : BitVec 32) : Action → SocketLayer → Except SocketAbort SocketLayer
  | .socket fd drawn, t =>
    match PortManager.get t.ports drawn with
    | none => .error .drawing
    | some port => .ok { t.create (newSocket unset fd port) with
        ports := insert port t.ports
        handedOut := insert port t.handedOut
        protocolSockets := t.next :: t.protocolSockets
        ids := fd :: t.ids }
  | .accept fd secondFd, t =>
    match t.collection.getById fd with
    | none => .error .nullSocket
    | some s => .ok { t with
        collection := t.collection.modify s { t.collection.sockets s with secondSocket := secondFd }
        ids := secondFd :: t.ids
        unused := s :: t.unused.filter fun r => r != s }
  | .bind s a, t => if s ∈ t.protocolSockets then .ok (t.libraryBind s a) else .ok t
  | .listen s, t => if s ∈ t.protocolSockets then .ok (t.libraryListen s) else .ok t
  | .connect s source destination, t =>
    if s ∈ t.protocolSockets ∧ t.phase s = .closed then .ok (t.stateConnect s source destination) else .ok t
  | .syn p, t => .ok { t with packets := t.packets ++ NetworkInterface.imoduleNetworkReceive t.collection p }
  | .receivePacket, t =>
    match t.packets with
    | [] => .ok t
    | e :: es =>
      if e.socket ∈ t.protocolSockets ∧ t.phase e.socket = .listen then
        .ok (({ t with packets := es } : SocketLayer).processSyn unset e.socket e.packet)
      else .ok { t with packets := es }
  | .connectionInitiated, t =>
    match t.initiated with
    | [] => .ok t
    | (l, n) :: rest =>
      if l ∈ t.protocolSockets then .ok { t with
        protocolSockets := n :: t.protocolSockets
        phase := Function.update (Function.update t.phase n .other) l .listen
        initiated := rest }
      else .error .noContext
  | .deleteSocket s, t => if s ∈ t.protocolSockets then t.libraryDelete s else .ok t

/-- Every socket and accept message carries a fresh id. -/
def Fresh : Action → SocketLayer → Prop
  | .socket fd _, t => fd ∉ t.ids
  | .accept _ secondFd, t => secondFd ∉ t.ids
  | _, _ => True

instance (i : Action) (t : SocketLayer) : Decidable (Fresh i t) := by
  cases i with
  | socket fd _ => exact inferInstanceAs (Decidable (fd ∉ t.ids))
  | accept _ secondFd => exact inferInstanceAs (Decidable (secondFd ∉ t.ids))
  | bind | listen | connect | syn | receivePacket | connectionInitiated | deleteSocket => exact .isTrue trivial

def machine (unset : BitVec 32) : Transition.Machine SocketLayer Action SocketAbort where
  enabled := Fresh
  step := step unset

instance (unset : BitVec 32) (i : Action) (t : SocketLayer) : Decidable ((machine unset).enabled i t) :=
  inferInstanceAs (Decidable (Fresh i t))

/-- No socket has been made; the memory of the later ones has some contents. -/
def start (sockets : SocketPointer → SocketObject) : SocketLayer where
  collection := { sockets := sockets }

/-! ### The cases of a step -/

section Cases

variable {t u : SocketLayer} {i : Action} {s : SocketPointer} {unset : BitVec 32}

/-- What a step that succeeds does. -/
inductive StepCase (unset : BitVec 32) (t : SocketLayer) : Action → SocketLayer → Prop
  | unchanged (i : Action) : StepCase unset t i t
  | socket (fd : BitVec 32) (drawn : List (BitVec 16)) (port : BitVec 16)
    (hp : PortManager.get t.ports drawn = some port) :
    StepCase unset t (.socket fd drawn) { t.create (newSocket unset fd port) with
      ports := insert port t.ports
      handedOut := insert port t.handedOut
      protocolSockets := t.next :: t.protocolSockets
      ids := fd :: t.ids }
  | accept (fd secondFd : BitVec 32) (s : SocketPointer) (hs : t.collection.getById fd = some s) :
    StepCase unset t (.accept fd secondFd) { t with
      collection := t.collection.modify s { t.collection.sockets s with secondSocket := secondFd }
      ids := secondFd :: t.ids
      unused := s :: t.unused.filter fun r => r != s }
  | bind (s : SocketPointer) (a : AddressPort) (hs : s ∈ t.protocolSockets) (hb : t.alreadyBound a = false) :
    StepCase unset t (.bind s a) { t with collection := t.collection.setLocalAddressPort s a }
  | listen (s : SocketPointer) (hs : s ∈ t.protocolSockets) : StepCase unset t (.listen s) (t.libraryListen s)
  | connect (s : SocketPointer) (source : BitVec 32) (destination : AddressPort)
    (hs : s ∈ t.protocolSockets ∧ t.phase s = .closed) :
    StepCase unset t (.connect s source destination) (t.stateConnect s source destination)
  | syn (p : WiFuPacket) : StepCase unset t (.syn p)
      { t with packets := t.packets ++ NetworkInterface.imoduleNetworkReceive t.collection p }
  | receive (e : NetworkReceivePacketEvent) (es : List NetworkReceivePacketEvent) (hp : t.packets = e :: es)
    (hl : e.socket ∈ t.protocolSockets ∧ t.phase e.socket = .listen) :
    StepCase unset t .receivePacket (({ t with packets := es } : SocketLayer).processSyn unset e.socket e.packet)
  | drop (e : NetworkReceivePacketEvent) (es : List NetworkReceivePacketEvent) (hp : t.packets = e :: es) :
    StepCase unset t .receivePacket { t with packets := es }
  | initiated (l n : SocketPointer) (rest : List (SocketPointer × SocketPointer)) (hi : t.initiated = (l, n) :: rest)
    (hl : l ∈ t.protocolSockets) :
    StepCase unset t .connectionInitiated { t with
      protocolSockets := n :: t.protocolSockets
      phase := Function.update (Function.update t.phase n .other) l .listen
      initiated := rest }
  | delete (s : SocketPointer) (hs : s ∈ t.protocolSockets) :
    StepCase unset t (.deleteSocket s) { t with
      collection := t.collection.remove s
      protocolSockets := t.protocolSockets.filter fun r => r != s
      live := t.live.filter fun r => r != s }

theorem libraryDelete_ok (h : t.libraryDelete s = .ok u) : u = { t with
    collection := t.collection.remove s
    protocolSockets := t.protocolSockets.filter fun r => r != s
    live := t.live.filter fun r => r != s } := by
  unfold libraryDelete at h
  simp only at h
  split_ifs at h
  cases h
  rfl

theorem step_cases (h : step unset i t = .ok u) : StepCase unset t i u := by
  cases i with
  | socket fd drawn =>
    cases hp : PortManager.get t.ports drawn with
    | none =>
      simp only [step, hp] at h
      cases h
    | some port =>
      simp only [step, hp] at h
      cases h
      exact .socket fd drawn port hp
  | accept fd secondFd =>
    cases hg : t.collection.getById fd with
    | none =>
      simp only [step, hg] at h
      cases h
    | some s =>
      simp only [step, hg] at h
      cases h
      exact .accept fd secondFd s hg
  | bind s a =>
    by_cases hs : s ∈ t.protocolSockets
    · simp only [step, hs, if_true] at h
      cases h
      by_cases hb : t.alreadyBound a = true
      · simp only [libraryBind, hb, if_true]
        exact .unchanged _
      · simp only [libraryBind, hb]
        exact .bind s a hs (Bool.eq_false_iff.2 hb)
    · simp only [step, hs, if_false] at h
      cases h
      exact .unchanged _
  | listen s =>
    by_cases hs : s ∈ t.protocolSockets
    · simp only [step, hs, if_true] at h
      cases h
      exact .listen s hs
    · simp only [step, hs, if_false] at h
      cases h
      exact .unchanged _
  | connect s source destination =>
    by_cases hs : s ∈ t.protocolSockets ∧ t.phase s = .closed
    · simp only [step, hs, and_self, if_true] at h
      cases h
      exact .connect s source destination hs
    · simp only [step, hs, if_false] at h
      cases h
      exact .unchanged _
  | syn p =>
    cases h
    exact .syn p
  | receivePacket =>
    cases hp : t.packets with
    | nil =>
      simp only [step, hp] at h
      cases h
      exact .unchanged _
    | cons e es =>
      simp only [step, hp] at h
      by_cases hl : e.socket ∈ t.protocolSockets ∧ t.phase e.socket = .listen
      · rw [if_pos hl] at h
        cases h
        exact .receive e es hp hl
      · rw [if_neg hl] at h
        cases h
        exact .drop e es hp
  | connectionInitiated =>
    cases hi : t.initiated with
    | nil =>
      simp only [step, hi] at h
      cases h
      exact .unchanged _
    | cons e rest =>
      obtain ⟨l, n⟩ := e
      simp only [step, hi] at h
      by_cases hl : l ∈ t.protocolSockets
      · simp only [hl, if_true] at h
        cases h
        exact .initiated l n rest hi hl
      · simp only [hl, if_false] at h
        cases h
  | deleteSocket s =>
    by_cases hs : s ∈ t.protocolSockets
    · simp only [step, hs, if_true] at h
      rw [libraryDelete_ok h]
      exact .delete s hs
    · simp only [step, hs, if_false] at h
      cases h
      exact .unchanged _

/-! ### Pointers -/

/-- The sockets of the protocol, and the ones it is told of, have been made and not deleted. -/
structure Tracked (t : SocketLayer) : Prop where
  made : ∀ s ∈ t.live, s < t.next
  protocolLive : ∀ s ∈ t.protocolSockets, s ∈ t.live
  initiatedLive : ∀ e ∈ t.initiated, e.2 ∈ t.live ∧ e.2 ∉ t.protocolSockets
  initiatedOnce : (t.initiated.map Prod.snd).Nodup

theorem Tracked.same (h : t.Tracked) (hlive : u.live = t.live) (hnext : u.next = t.next)
    (hprotocol : u.protocolSockets = t.protocolSockets) (hinitiated : u.initiated = t.initiated) : u.Tracked where
  made := by rw [hlive, hnext]; exact h.made
  protocolLive := by rw [hprotocol, hlive]; exact h.protocolLive
  initiatedLive := by rw [hinitiated, hlive, hprotocol]; exact h.initiatedLive
  initiatedOnce := by rw [hinitiated]; exact h.initiatedOnce

theorem Tracked.made_cons (h : t.Tracked) : ∀ s ∈ t.next :: t.live, s < t.next + 1 := by
  intro r hr
  rcases List.mem_cons.1 hr with rfl | hr
  · exact Nat.lt_succ_self _
  · exact (h.made r hr).trans (Nat.lt_succ_self _)

theorem Tracked.step (h : t.Tracked) (hstep : SocketLayer.step unset i t = .ok u) : u.Tracked := by
  have hlt (r : SocketPointer) (hr : r ∈ t.live) : r ≠ t.next := (h.made r hr).ne
  cases step_cases hstep with
  | unchanged => exact h
  | socket fd drawn port =>
    refine ⟨h.made_cons, fun r hr => ?_, fun e he => ?_, h.initiatedOnce⟩
    · rcases List.mem_cons.1 hr with rfl | hr
      · exact List.mem_cons_self
      · exact List.mem_cons_of_mem _ (h.protocolLive r hr)
    · obtain ⟨h1, h2⟩ := h.initiatedLive e he
      refine ⟨List.mem_cons_of_mem _ h1, fun hm => ?_⟩
      rcases List.mem_cons.1 hm with heq | hm
      · exact hlt _ h1 heq
      · exact h2 hm
  | accept | bind | listen | connect | syn | drop => exact h.same rfl rfl rfl rfl
  | receive e es =>
    refine ⟨h.made_cons, fun r hr => List.mem_cons_of_mem _ (h.protocolLive r hr), fun e he => ?_, ?_⟩
    · rcases List.mem_append.1 he with he | he
      · exact ⟨List.mem_cons_of_mem _ (h.initiatedLive e he).1, (h.initiatedLive e he).2⟩
      · rw [List.mem_singleton.1 he]
        exact ⟨List.mem_cons_self, fun hm => hlt _ (h.protocolLive _ hm) rfl⟩
    · show ((t.initiated ++ [_]).map Prod.snd).Nodup
      rw [List.map_append, List.nodup_append]
      refine ⟨h.initiatedOnce, List.nodup_singleton _, fun a ha b hb => ?_⟩
      obtain ⟨e', he, rfl⟩ := List.mem_map.1 ha
      rw [List.mem_singleton.1 hb]
      exact hlt _ (h.initiatedLive e' he).1
  | initiated l n rest hi =>
    have honce := h.initiatedOnce
    rw [hi, List.map_cons, List.nodup_cons] at honce
    refine ⟨h.made, fun r hr => ?_, fun e he => ?_, honce.2⟩
    · rcases List.mem_cons.1 hr with rfl | hr
      · exact (h.initiatedLive (l, r) (by rw [hi]; exact List.mem_cons_self)).1
      · exact h.protocolLive r hr
    · obtain ⟨h1, h2⟩ := h.initiatedLive e (by rw [hi]; exact List.mem_cons_of_mem _ he)
      refine ⟨h1, fun hm => ?_⟩
      rcases List.mem_cons.1 hm with heq | hm
      · exact honce.1 (List.mem_map.2 ⟨e, he, heq⟩)
      · exact h2 hm
  | delete s hs =>
    have hmem (l : List SocketPointer) (r : SocketPointer) : r ∈ (l.filter fun q => q != s) ↔ r ∈ l ∧ r ≠ s := by
      rw [List.mem_filter, bne_iff_ne]
    refine ⟨fun r hr => h.made r ((hmem _ r).1 hr).1, fun r hr => ?_, fun e he => ?_, h.initiatedOnce⟩
    · obtain ⟨h1, h2⟩ := (hmem _ r).1 hr
      exact (hmem _ r).2 ⟨h.protocolLive r h1, h2⟩
    · obtain ⟨h1, h2⟩ := h.initiatedLive e he
      refine ⟨(hmem _ _).2 ⟨h1, ?_⟩, fun hm => h2 ((hmem _ _).1 hm).1⟩
      rintro rfl
      exact h2 hs

theorem start_tracked (sockets : SocketPointer → SocketObject) : (start sockets).Tracked :=
  ⟨nofun, nofun, nofun, List.nodup_nil⟩

end Cases

end SocketLayer

end Wifu
