import Wifu.AcceptRequests
import Wifu.PendingRequests
import Wifu.UDPPacket

/-!
# Where requests are lost (`Protocol.cc`, `TCPTahoe.cc`, `SimpleUDP.cc`)

The sockets of `SimpleUDP` answer requests to send and to close, keep one to receive, and drop the others; `Protocol` itself
answers binds and listens.  With the connections of `TCPTahoe` and their back logs these are all the places that a request
can come to.
-/

namespace Wifu

/-! ### The sockets of `SimpleUDP` -/

/-- A socket of `SimpleUDP`: its container, and the requests to send and to close that are answered. -/
structure UDPSocket where
  container : SimpleUDPContainer := {}
  localAddressPort : AddressPort
  responses : List LibraryRequest := []
  /-- A `DeleteSocketEvent` is in the queue. -/
  deleting : Bool := false
  /-- The socket has been taken out of `sockets_`, and its container out of `map_`. -/
  deleted : Bool := false

namespace UDPSocket

inductive Input
  | connect (c : ConnectEvent)
  | accept (a : AcceptEvent)
  | send (request : Nat) (m : SendToMessage)
  | receive (r : ReceiveEvent)
  | close (c : CloseEvent)
  | receivePacket (d : UDPDatagram)
  /-- The next protocol event in the queue. -/
  | drain

/-- The request that a step brings. -/
def Input.request : Input → Option LibraryRequest
  | .connect c => some (.connect c)
  | .accept a => some (.accept a)
  | .send request m => some (.send ⟨request, m.data⟩)
  | .receive r => some (.receive r)
  | .close c => some (.close c)
  | .receivePacket _ | .drain => none

section

variable (sourceAddress : BitVec 32 → BitVec 32) (memory : Nat → UInt8)

/-- The handlers of `SimpleUDP` for a socket that it owns. -/
def handle (u : UDPSocket) : Input → Except UDPAbort UDPSocket
  -- `icontext_connect` and `icontext_accept` do nothing
  | .connect _ | .accept _ => .ok u
  | .send request m => do
    let r ← SimpleUDP.icontextSend sourceAddress memory u.localAddressPort m
    .ok { u with localAddressPort := r.localAddressPort, responses := u.responses ++ [.send ⟨request, m.data⟩] }
  | .receive r => do
    let c ← u.container.icontextReceive r
    .ok { u with container := c }
  | .close c => .ok { u with responses := u.responses ++ [.close c], deleting := true }
  | .receivePacket d => do
    let c ← u.container.icontextReceivePacket d
    .ok { u with container := c }
  | .drain => .ok { u with deleting := false, deleted := u.deleting }

/-- A socket that has been deleted loses its events. -/
def step (i : Input) (u : UDPSocket) : Except UDPAbort UDPSocket :=
  if u.deleted then .ok u else u.handle sourceAddress memory i

/-- Events of low priority wait until no protocol event does. -/
def enabled : Input → UDPSocket → Prop
  | .drain, u => u.deleting = true
  | _, u => u.deleting = false

instance : (i : Input) → (u : UDPSocket) → Decidable (enabled i u)
  | .drain, u => inferInstanceAs (Decidable (u.deleting = true))
  | .connect _, u | .accept _, u | .send _ _, u | .receive _, u | .close _, u | .receivePacket _, u =>
    inferInstanceAs (Decidable (u.deleting = false))

/-- The machine with all requests that have come. -/
def requestMachine : Transition.Machine (UDPSocket × List LibraryRequest) Input UDPAbort :=
  Transition.Machine.observed ⟨enabled, step sourceAddress memory⟩ fun _ i _ h => h ++ i.request.toList

instance (i : Input) (s : UDPSocket × List LibraryRequest) :
    Decidable ((requestMachine sourceAddress memory).enabled i s) := inferInstanceAs (Decidable (enabled i s.1))

end

/-- The requests that wait; a deleted socket has no container. -/
def waitingRequests (u : UDPSocket) : List LibraryRequest :=
  if u.deleted then [] else u.container.receiveEvent.toList.map .receive

/-- The requests answered. -/
def answeredRequests (u : UDPSocket) : List LibraryRequest :=
  u.container.dispatched.map (fun r => .receive r.event) ++ u.responses

/-- The socket is there and handles such a request; the data of one to send fits in a packet, one to receive finds no
other, and one to close finds none to receive; and no datagram has a negative length. -/
def answersRequests (s : UDPSocket × List LibraryRequest) : Input → Prop
  | .connect _ | .accept _ => False
  | .send _ m => s.1.deleted = false ∧ m.data.length ≤ 1472
  | .receive _ => s.1.deleted = false ∧ s.1.container.receiveEvent = none ∧
      ∀ d ∈ s.1.container.packetQueue.head?, 0 ≤ d.dataLengthBytes
  | .close _ => s.1.deleted = false ∧ s.1.container.receiveEvent = none
  | .receivePacket d => s.1.container.receiveEvent ≠ none → 0 ≤ d.dataLengthBytes
  | .drain => True

instance (s : UDPSocket × List LibraryRequest) : (i : Input) → Decidable (answersRequests s i)
  | .connect _ | .accept _ => .isFalse id
  | .send _ m => inferInstanceAs (Decidable (s.1.deleted = false ∧ m.data.length ≤ 1472))
  | .receive _ => inferInstanceAs (Decidable (_ ∧ _ ∧ ∀ d ∈ s.1.container.packetQueue.head?, 0 ≤ d.dataLengthBytes))
  | .close _ => inferInstanceAs (Decidable (_ ∧ _))
  | .receivePacket d => inferInstanceAs (Decidable (s.1.container.receiveEvent ≠ none → 0 ≤ d.dataLengthBytes))
  | .drain => .isTrue trivial

/-- Each request that has come is answered, or waits for a datagram: once, counted as often as it came. -/
structure RequestsKept (s : UDPSocket × List LibraryRequest) : Prop where
  accounted : (s.1.answeredRequests ++ s.1.waitingRequests).Perm s.2
  answerable : s.1.container.receiveEvent = none ∨
    s.1.container.packetQueue = [] ∧ s.1.deleting = false ∧ s.1.deleted = false

section

variable {sourceAddress : BitVec 32 → BitVec 32} {memory : Nat → UInt8} {u u' : UDPSocket} {h : List LibraryRequest}
  {i : Input}

theorem icontextSend_succeeds (sourceAddress : BitVec 32 → BitVec 32) (memory : Nat → UInt8) (localAp : AddressPort)
    {m : SendToMessage} (hm : m.data.length ≤ 1472) :
    ∃ r, SimpleUDP.icontextSend sourceAddress memory localAp m = .ok r := by
  have hset := (SimpleUDP.headers_plain memory (SimpleUDP.sendAddress sourceAddress localAp m) m.addr).setData m.data
  rw [if_neg (by omega)] at hset
  obtain ⟨p, hp, -⟩ := hset
  rw [SimpleUDP.icontextSend_eq, hp]
  exact ⟨_, rfl⟩

/-- `send_receive_response` succeeds unless a datagram with a negative length is to be copied. -/
theorem sendReceiveResponse_succeeds {c : SimpleUDPContainer}
    (hc : c.receiveEvent ≠ none → ∀ d ∈ c.packetQueue.head?, 0 ≤ d.dataLengthBytes) :
    ∃ c', c.sendReceiveResponse = .ok c' := by
  unfold SimpleUDPContainer.sendReceiveResponse
  split
  · exact ⟨_, rfl⟩
  · exact ⟨_, rfl⟩
  · rename_i e d ds he hq
    have hlength : 0 ≤ d.dataLengthBytes := hc (by simp [he]) d (by simp [hq])
    rw [if_neg (by omega)]
    exact ⟨_, rfl⟩

/-- A request to receive meets a datagram, or one of them is missing. -/
theorem respond_kept {c c' : SimpleUDPContainer} (hdel : u.deleting = false ∧ u.deleted = false)
    (hok : c.sendReceiveResponse = .ok c') :
    (({ u with container := c' } : UDPSocket).answeredRequests ++
        ({ u with container := c' } : UDPSocket).waitingRequests).Perm
      (({ u with container := c } : UDPSocket).answeredRequests ++
        ({ u with container := c } : UDPSocket).waitingRequests) ∧
    (c'.receiveEvent = none ∨ c'.packetQueue = [] ∧ u.deleting = false ∧ u.deleted = false) := by
  obtain ⟨hidle, rfl⟩ | ⟨e, d, ds, he, -, rfl⟩ := SimpleUDPContainer.sendReceiveResponse_ok hok
  · exact ⟨.refl _, hidle.imp_right fun hq => ⟨hq, hdel⟩⟩
  · refine ⟨?_, .inl rfl⟩
    unfold answeredRequests waitingRequests
    simp only [hdel.2, he, List.map_append, Bool.false_eq_true, if_false, Option.toList_none, Option.toList_some,
      List.map_nil, List.map_cons, List.append_nil]
    rw [List.append_assoc, List.append_assoc]
    exact List.perm_append_comm.append_left _

/-- A response is dispatched to a request as it comes. -/
theorem RequestsKept.respond (hk : RequestsKept (u, h)) {q : LibraryRequest}
    (hcontainer : u'.container = u.container) (hresponses : u'.responses = u.responses ++ [q])
    (hdel : u'.deleted = u.deleted) (ha : u'.container.receiveEvent = none ∨
      u'.container.packetQueue = [] ∧ u'.deleting = false ∧ u'.deleted = false) : RequestsKept (u', h ++ [q]) := by
  have hold : (u.answeredRequests ++ u.waitingRequests).Perm h := hk.accounted
  have hanswered : u'.answeredRequests = u.answeredRequests ++ [q] := by
    unfold answeredRequests
    rw [hcontainer, hresponses, List.append_assoc]
  have hwaiting : u'.waitingRequests = u.waitingRequests := by
    unfold waitingRequests
    rw [hcontainer, hdel]
  refine ⟨?_, ha⟩
  show (u'.answeredRequests ++ u'.waitingRequests).Perm (h ++ [q])
  rw [hanswered, hwaiting]
  exact (Endpoint.perm_answer q).trans (hold.append_right [q])

/-- What a step does about the requests. -/
theorem RequestsKept.step (hk : RequestsKept (u, h)) (hen : enabled i u) (hi : answersRequests (u, h) i)
    (hstep : UDPSocket.step sourceAddress memory i u = .ok u') : RequestsKept (u', h ++ i.request.toList) := by
  have hold : (u.answeredRequests ++ u.waitingRequests).Perm h := hk.accounted
  unfold UDPSocket.step at hstep
  by_cases hdel : u.deleted = true
  · -- no request comes to a socket that has been deleted
    rw [if_pos hdel] at hstep
    cases hstep
    have hnot : ¬u.deleted = false := by simp [hdel]
    cases i with
    | connect | accept => exact hi.elim
    | send | receive | close => exact absurd hi.1 hnot
    | receivePacket | drain =>
      show RequestsKept (u, h ++ [])
      rw [List.append_nil]
      exact hk
  · rw [if_neg hdel] at hstep
    have hdel : u.deleted = false := by simpa using hdel
    cases i with
    | connect | accept => exact hi.elim
    | send request m =>
      obtain ⟨r, -, hstep⟩ := bind_eq_ok.1 hstep
      cases hstep
      exact hk.respond rfl rfl rfl hk.answerable
    | receive r =>
      obtain ⟨c, hc, hstep⟩ := bind_eq_ok.1 hstep
      cases hstep
      obtain ⟨-, hnone, -⟩ := hi
      replace hnone : u.container.receiveEvent = none := hnone
      obtain ⟨hperm, hidle⟩ := respond_kept ⟨hen, hdel⟩ hc
      refine ⟨hperm.trans ?_, hidle⟩
      have hwaiting : u.waitingRequests = [] := by
        unfold waitingRequests
        rw [hnone, hdel]
        rfl
      rw [hwaiting, List.append_nil] at hold
      have hnew : waitingRequests { u with container := { u.container with receiveEvent := some r } } = [.receive r] := by
        unfold waitingRequests
        simp [hdel]
      rw [hnew]
      exact hold.append_right _
    | close c =>
      cases hstep
      exact hk.respond rfl rfl rfl (.inl hi.2)
    | receivePacket d =>
      obtain ⟨c, hc, hstep⟩ := bind_eq_ok.1 hstep
      cases hstep
      obtain ⟨hperm, hidle⟩ := respond_kept ⟨hen, hdel⟩ hc
      exact ⟨hperm.trans (hold.trans (.of_eq (List.append_nil h).symm)), hidle⟩
    | drain =>
      cases hstep
      replace hen : u.deleting = true := hen
      have hnone : u.container.receiveEvent = none := by
        refine hk.answerable.resolve_right fun hwaits => ?_
        rw [show u.deleting = false from hwaits.2.1] at hen
        cases hen
      have hwaiting : ({ u with deleting := false, deleted := u.deleting } : UDPSocket).waitingRequests =
          u.waitingRequests := by
        unfold waitingRequests
        simp [hnone]
      refine ⟨?_, .inl hnone⟩
      show (u.answeredRequests ++ _).Perm (h ++ [])
      rw [hwaiting, List.append_nil]
      exact hold

/-- No step that keeps its requests stops the process. -/
theorem answersRequests_succeeds (hk : RequestsKept (u, h)) (hi : answersRequests (u, h) i) :
    ∃ u', UDPSocket.step sourceAddress memory i u = .ok u' := by
  unfold UDPSocket.step
  split
  · exact ⟨_, rfl⟩
  · cases i with
    | connect | accept => exact hi.elim
    | send request m =>
      obtain ⟨r, hr⟩ := icontextSend_succeeds sourceAddress memory u.localAddressPort hi.2
      unfold handle
      simp only [hr]
      exact ⟨_, rfl⟩
    | receive r =>
      obtain ⟨c, hc⟩ := sendReceiveResponse_succeeds (c := { u.container with receiveEvent := some r }) fun _ => hi.2.2
      unfold handle SimpleUDPContainer.icontextReceive
      simp only [hc]
      exact ⟨_, rfl⟩
    | receivePacket d =>
      obtain ⟨c, hc⟩ := sendReceiveResponse_succeeds
        (c := { u.container with packetQueue := u.container.packetQueue ++ [d] }) fun hne e he => by
          have hempty : u.container.packetQueue = [] := (hk.answerable.resolve_left hne).1
          replace he : e ∈ (u.container.packetQueue ++ [d]).head? := he
          rw [hempty] at he
          cases he
          exact hi hne
      unfold handle SimpleUDPContainer.icontextReceivePacket
      simp only [hc]
      exact ⟨_, rfl⟩
    | close | drain => exact ⟨_, rfl⟩

theorem run_requestsKept {localAp : AddressPort} {is : List Input} {s : UDPSocket × List LibraryRequest}
    (hrun : (requestMachine sourceAddress memory).Run answersRequests ({ localAddressPort := localAp }, []) is s) :
    RequestsKept s := by
  refine hrun.invariant RequestsKept ⟨.refl [], .inl rfl⟩ ?_
  rintro ⟨u, h⟩ i ⟨u', h'⟩ hk hen hi hs
  obtain ⟨hstep, hobs⟩ := Transition.Machine.observed_step.1 hs
  replace hobs : h' = h ++ i.request.toList := hobs
  rw [hobs]
  exact hk.step hen hi hstep

end

end UDPSocket

/-! ### Binds and listens -/

namespace Protocol

/-- The socket of a request. -/
def Request.socket : Request → SocketPointer
  | .bind s _ => s
  | .listen s _ => s

/-- A bind or a listen on a socket of the protocol is answered, and on no other. -/
theorem handle_answers {κ : Type} (H : Handlers κ) (i : Request) (t : Protocol κ) :
    (handle H i t).2.isSome = true ↔ i.socket ∈ t.sockets := by
  cases i with
  | bind s a =>
    show (imoduleLibraryBind H s a t).2.isSome = true ↔ s ∈ t.sockets
    unfold imoduleLibraryBind
    split
    · rename_i hs
      split <;> simp [hs]
    · rename_i hs
      simp [hs]
  | listen s backLog =>
    show (imoduleLibraryListen H s backLog t).2.isSome = true ↔ s ∈ t.sockets
    unfold imoduleLibraryListen
    split
    · rename_i hs
      simp [hs]
    · rename_i hs
      simp [hs]

end Protocol

/-! ### All requests -/

section

variable {id : SocketId} {l r : AddressPort} {is : List Endpoint.Input} {s : Endpoint × List LibraryRequest}
  {capacity : Int} {js : List Listener.AcceptInput} {t : Listener}
  {sourceAddress : BitVec 32 → BitVec 32} {memory : Nat → UInt8} {localAp : AddressPort}
  {ks : List UDPSocket.Input} {u : UDPSocket × List LibraryRequest}
  {κ : Type} {H : Protocol.Handlers κ} {q : Protocol.Request} {p : Protocol κ}

end

/-- A client connects, asks for two bytes, sends two, gets three and closes. -/
def requestScript : List Endpoint.Input :=
  Endpoint.connectScript 100 ++ [.receive ⟨2, 2⟩, .send ⟨3, [5, 6]⟩, .drain, .drain,
    .packet (Endpoint.segment 101 2 [1, 2, 3]), .drain, .drain, .drain, .close ⟨4⟩]

/-- A request waits at the listening socket, and another one comes while the handshake of the first one's connection goes
on. -/
def acceptScript : List Listener.AcceptInput :=
  [.accept 1, .packet 1 (Listener.peerPacket true false), .drain, .accept 1, .packet 2 (Listener.peerPacket false true),
    .drain]

/-- A second accept request replaces the one that waits. -/
theorem accept_replaced :
    ∃ l, Listener.acceptMachine.Run Transition.anyStep (Listener.listen 5) [.accept 1, .accept 1] l ∧ ¬l.AcceptsKept := by
  -- the container keeps the later request only
  let l₁ : Listener := { (Listener.listen 5).setContainer 1 ⟨.listen, 0, some 0⟩ with accepts := 1 }
  let l₂ : Listener := { l₁.setContainer 1 ⟨.listen, 0, some 1⟩ with accepts := 2 }
  have h₁ : Listener.acceptStep (.accept 1) (Listener.listen 5) = .ok l₁ := rfl
  have h₂ : Listener.acceptStep (.accept 1) l₁ = .ok l₂ := rfl
  have hone : Listener.acceptMachine.Run Transition.anyStep (Listener.listen 5) [.accept 1] l₁ :=
    .snoc .nil rfl trivial h₁
  refine ⟨l₂, .snoc hone rfl trivial h₂, fun hk => ?_⟩
  obtain ⟨s, c, hc, hsaved, -⟩ := hk.saved 0 (by decide)
  replace hc : (l₁.setContainer 1 ⟨.listen, 0, some 1⟩).map s = some c := hc
  by_cases hs : s = 1
  · rw [hs, Listener.setContainer_map_self] at hc
    cases hc
    cases hsaved
  · rw [Listener.setContainer_map_of_ne _ _ hs] at hc
    replace hc : ((Listener.listen 5).setContainer 1 ⟨.listen, 0, some 0⟩).map s = some c := hc
    rw [Listener.setContainer_map_of_ne _ _ hs] at hc
    replace hc : Function.update (fun _ => none) Listener.listening _ s = some c := hc
    rw [Function.update_of_ne (show s ≠ Listener.listening from hs)] at hc
    cases hc

end Wifu
