import Wifu.SocketLayer

/-!
# Requests that fail (`Protocol.cc`, the visitors)

`Protocol` answers a bind with −1 when some socket is bound to the address, and a listen when some passive socket has the
port.  The contexts of the protocol are told only of requests that succeed; what they do is a parameter here.  A listen
makes its socket passive in either case (`failed_request`).
-/

namespace Wifu

/-- A response to a request, with `errno`. -/
structure RequestResponse where
  returnValue : Int
  error : Nat
  deriving DecidableEq, Repr

/-- `EINVAL`. -/
def einval : Nat := 22

/-- `EADDRINUSE`. -/
def eaddrinuse : Nat := 98

namespace SocketCollection

/-- `AlreadyBoundToAddressPortVisitor`. -/
def isBound (c : SocketCollection) (a : AddressPort) : Bool :=
  (c.accept fun o => o.localAddress == a).isSome

/-- `AlreadyListeningOnSamePortVisitor`. -/
def isListening (c : SocketCollection) (port : BitVec 16) : Bool :=
  (c.accept fun o => o.isPassive && o.localAddress.port == port).isSome

/-- `make_passive`; no observer is told. -/
def makePassive (c : SocketCollection) (s : SocketPointer) : SocketCollection :=
  c.modify s { c.sockets s with isPassive := true }

end SocketCollection

/-- A protocol: the sockets of the back end, its own ones, and what its contexts keep. -/
structure Protocol (κ : Type) where
  collection : SocketCollection
  /-- `sockets_`. -/
  sockets : List SocketPointer
  contexts : κ

namespace Protocol

variable {κ : Type}

/-- What the contexts of a protocol do when a request succeeds. -/
structure Handlers (κ : Type) where
  icontextBind : SocketPointer → AddressPort → Protocol κ → Protocol κ
  icontextListen : SocketPointer → Int → Protocol κ → Protocol κ

inductive Request
  | bind (s : SocketPointer) (a : AddressPort)
  | listen (s : SocketPointer) (backLog : Int)
  deriving DecidableEq, Repr

/-- `imodule_library_bind`, with the response; a request for a socket of another protocol gets none.  A pointer is never
null. -/
def imoduleLibraryBind (H : Handlers κ) (s : SocketPointer) (a : AddressPort) (t : Protocol κ) :
    Protocol κ × Option RequestResponse :=
  if s ∈ t.sockets then
    if t.collection.isBound a then (t, some ⟨-1, einval⟩)
    else (H.icontextBind s a { t with collection := t.collection.setLocalAddressPort s a }, some ⟨0, 0⟩)
  else (t, none)

/-- `imodule_library_listen`. -/
def imoduleLibraryListen (H : Handlers κ) (s : SocketPointer) (backLog : Int) (t : Protocol κ) :
    Protocol κ × Option RequestResponse :=
  if s ∈ t.sockets then
    let listening := t.collection.isListening (t.collection.sockets s).localAddress.port
    let u := if listening then t else H.icontextListen s backLog t
    ({ u with collection := u.collection.makePassive s },
      some (if listening then ⟨-1, eaddrinuse⟩ else ⟨0, 0⟩))
  else (t, none)

def handle (H : Handlers κ) : Request → Protocol κ → Protocol κ × Option RequestResponse
  | .bind s a => imoduleLibraryBind H s a
  | .listen s backLog => imoduleLibraryListen H s backLog

/-- The responses to some requests, one after the other. -/
def outcomes (H : Handlers κ) : List Request → Protocol κ → List (Option RequestResponse)
  | [], _ => []
  | i :: is, t => (handle H i t).2 :: outcomes H is (handle H i t).1

/-- The request changes nothing, and no later request is answered differently because of it. -/
def LeavesNoTrace (H : Handlers κ) (i : Request) (t : Protocol κ) : Prop :=
  (handle H i t).1 = t ∧ ∀ later, outcomes H later (handle H i t).1 = outcomes H later t

section

variable {H : Handlers κ} {i : Request} {t : Protocol κ} {r : RequestResponse}

/-- A failed bind stops at the visitor. -/
theorem handle_bind_failed {s : SocketPointer} {a : AddressPort} (h : (handle H (.bind s a) t).2 = some r)
    (hr : r.returnValue = -1) : (handle H (.bind s a) t).1 = t := by
  show (imoduleLibraryBind H s a t).1 = t
  replace h : (imoduleLibraryBind H s a t).2 = some r := h
  unfold imoduleLibraryBind at h ⊢
  by_cases hs : s ∈ t.sockets
  · by_cases hb : t.collection.isBound a = true
    · rw [if_pos hs, if_pos hb]
    · rw [if_pos hs, if_neg hb] at h
      cases h
      cases hr
  · rw [if_neg hs]

/-- A failed listen only makes the socket passive. -/
theorem handle_listen_failed {s : SocketPointer} {backLog : Int} (h : (handle H (.listen s backLog) t).2 = some r)
    (hr : r.returnValue = -1) :
    (handle H (.listen s backLog) t).1 = { t with collection := t.collection.makePassive s } := by
  show (imoduleLibraryListen H s backLog t).1 = _
  replace h : (imoduleLibraryListen H s backLog t).2 = some r := h
  unfold imoduleLibraryListen at h ⊢
  by_cases hs : s ∈ t.sockets
  · rw [if_pos hs] at h ⊢
    by_cases hl : t.collection.isListening (t.collection.sockets s).localAddress.port = true
    · simp only [hl, if_true]
    · simp only [hl] at h
      cases h
      cases hr
  · rw [if_neg hs] at h
    cases h

/-- Making a passive socket passive. -/
theorem makePassive_eq_self {c : SocketCollection} {s : SocketPointer} :
    c.makePassive s = c ↔ (c.sockets s).isPassive = true := by
  unfold SocketCollection.makePassive
  constructor
  · intro h
    have hs := congrArg (fun c => (c.sockets s).isPassive) h
    simp only [SocketCollection.modify_self] at hs
    exact hs.symm
  · intro h
    have hsame : ({ c.sockets s with isPassive := true } : SocketObject) = c.sockets s := by
      rw [← h]
    unfold SocketCollection.modify
    rw [hsame, Function.update_eq_self]

/-- A request that is answered with −1 leaves no trace if and only if it is a bind, or a listen of a socket that is passive
already. -/
theorem failed_request (H : Handlers κ) (i : Request) (t : Protocol κ) (r : RequestResponse)
    (h : (handle H i t).2 = some r) (hr : r.returnValue = -1) :
    LeavesNoTrace H i t ↔ ∀ s backLog, i = .listen s backLog → (t.collection.sockets s).isPassive = true := by
  have hsame : LeavesNoTrace H i t ↔ (handle H i t).1 = t := by
    constructor
    · exact fun hn => hn.1
    · intro heq
      refine ⟨heq, fun later => ?_⟩
      rw [heq]
  rw [hsame]
  cases i with
  | bind s a => exact iff_of_true (handle_bind_failed h hr) (by intro s backLog hi; cases hi)
  | listen s backLog =>
    rw [handle_listen_failed h hr]
    constructor
    · intro heq s' backLog' hi
      cases hi
      exact makePassive_eq_self.1 (congrArg Protocol.collection heq)
    · intro hpassive
      rw [makePassive_eq_self.2 (hpassive s backLog rfl)]

end

/-- Contexts that do nothing, as those of `SimpleUDP`. -/
def noHandlers : Handlers Unit := ⟨fun _ _ t => t, fun _ _ t => t⟩

/-- A server at 10.0.0.1:80, and sockets bound to 10.0.0.2:80 and to 10.0.0.3:90. -/
def threeSockets : Protocol Unit where
  collection :=
    let objects : List SocketObject :=
      [{ socket := 1, localAddress := ⟨0x0a000001, 80⟩, isPassive := true },
        { socket := 2, localAddress := ⟨0x0a000002, 80⟩ }, { socket := 3, localAddress := ⟨0x0a000003, 90⟩ }]
    let c : SocketCollection := { sockets := fun s => objects.getD s { socket := 0, localAddress := .default } }
    ((c.push 0).push 1).push 2
  sockets := [0, 1, 2]
  contexts := ()

theorem failed_request_bound : LeavesNoTrace noHandlers (.bind 1 ⟨0x0a000001, 80⟩) threeSockets :=
  (failed_request noHandlers (.bind 1 ⟨0x0a000001, 80⟩) threeSockets ⟨-1, einval⟩ (by decide +kernel) rfl).2
    (by intro s backLog hi; cases hi)

/-- The second socket cannot listen.  It is bound to another port then, and now the third one cannot listen there. -/
theorem failed_listen_remembered :
    (handle noHandlers (.listen 1 5) threeSockets).2 = some ⟨-1, eaddrinuse⟩ ∧
    (threeSockets.collection.sockets 1).isPassive = false ∧
    ((handle noHandlers (.listen 1 5) threeSockets).1.collection.sockets 1).isPassive = true ∧
    outcomes noHandlers [.bind 1 ⟨0x0a000004, 90⟩, .listen 2 5] threeSockets = [some ⟨0, 0⟩, some ⟨0, 0⟩] ∧
    outcomes noHandlers [.bind 1 ⟨0x0a000004, 90⟩, .listen 2 5] (handle noHandlers (.listen 1 5) threeSockets).1 =
      [some ⟨0, 0⟩, some ⟨-1, eaddrinuse⟩] := by
  decide +kernel

end Protocol

/-! ### The protocol of the socket layer -/

namespace SocketLayer

variable {t : SocketLayer} {s : SocketPointer}

/-- What `Protocol` sees of the socket layer. -/
def protocol (t : SocketLayer) : Protocol (SocketPointer → ConnectionPhase) :=
  ⟨t.collection, t.protocolSockets, t.phase⟩

/-- The connection manager listens when it is closed. -/
def phaseHandlers : Protocol.Handlers (SocketPointer → ConnectionPhase) where
  icontextBind _ _ t := t
  icontextListen s _ t :=
    { t with contexts := if t.contexts s = .closed then Function.update t.contexts s .listen else t.contexts }

/-- Binding in the socket layer is what `Protocol` does. -/
theorem protocol_libraryBind (hs : s ∈ t.protocolSockets) (a : AddressPort) :
    (t.libraryBind s a).protocol = (Protocol.imoduleLibraryBind phaseHandlers s a t.protocol).1 := by
  have hmem : s ∈ t.protocol.sockets := hs
  unfold libraryBind Protocol.imoduleLibraryBind
  rw [if_pos hmem]
  show SocketLayer.protocol (if t.collection.isBound a = true then _ else _) =
    (if t.collection.isBound a = true then _ else _ : _ × _).1
  split <;> rfl

/-- Listening in the socket layer is what `Protocol` does. -/
theorem protocol_libraryListen (hs : s ∈ t.protocolSockets) (backLog : Int) :
    (t.libraryListen s).protocol = (Protocol.imoduleLibraryListen phaseHandlers s backLog t.protocol).1 := by
  have hmem : s ∈ t.protocol.sockets := hs
  have hlistening : t.alreadyListening (t.collection.sockets s).localAddress.port =
      t.protocol.collection.isListening (t.protocol.collection.sockets s).localAddress.port := rfl
  unfold libraryListen Protocol.imoduleLibraryListen
  rw [if_pos hmem]
  simp only
  rw [hlistening]
  cases hl : t.protocol.collection.isListening (t.protocol.collection.sockets s).localAddress.port with
  | true => simp [protocol, SocketCollection.makePassive]
  | false => simp [protocol, SocketCollection.makePassive, phaseHandlers]

end SocketLayer

end Wifu
