import Wifu.Packet

/-!
# The sockets of the back end (`SocketCollection.cc`, `Socket.cc`, `AddressPort.cc`)

A map from keys to sockets, sorted by key.  The key of a socket is the text of its two addresses, one after the other.
A socket tells the collection when one of its addresses has changed, and the collection takes it out and puts it in
again.  Sockets are told apart by their pointers.  An address is stored in its dotted form, so that its text and its
32-bit number determine each other.
-/

namespace Wifu

/-! ### Keys -/

/-- `%hu`. -/
def decimal (n : Nat) : List Char := Nat.toDigits 10 n

namespace AddressPort

/-- The dotted form of an address, as `inet_ntop` writes it. -/
def dotted (address : BitVec 32) : List Char :=
  decimal (address.extractLsb' 24 8).toNat ++ '.' :: decimal (address.extractLsb' 16 8).toNat ++
    '.' :: decimal (address.extractLsb' 8 8).toNat ++ '.' :: decimal (address.extractLsb' 0 8).toNat

/-- `to_s`: the port, then the address. -/
def toS (a : AddressPort) : List Char := decimal a.port.toNat ++ ' ' :: dotted a.address

/-- `default_address_port`. -/
def default : AddressPort := ⟨0, 0⟩

end AddressPort

abbrev SocketKey := List Char

abbrev SocketPointer := Nat

/-- `Socket::make_key`. -/
def makeKey (localAddress remoteAddress : AddressPort) : SocketKey := localAddress.toS ++ remoteAddress.toS

/-- What the collection and its users read of a socket. -/
structure SocketObject where
  socket : BitVec 32
  secondSocket : BitVec 32 := 0
  localAddress : AddressPort
  remoteAddress : AddressPort := .default
  isPassive : Bool := false
  /-- The collection is among the observers. -/
  observed : Bool := false
  deriving DecidableEq, Repr

/-- `get_key`. -/
def SocketObject.getKey (s : SocketObject) : SocketKey := makeKey s.localAddress s.remoteAddress

/-- The collection, and the sockets behind the pointers. -/
structure SocketCollection where
  collection : Std.TreeMap SocketKey SocketPointer := {}
  sockets : SocketPointer → SocketObject

namespace SocketCollection

/-- The key that a socket has now. -/
def key (c : SocketCollection) (s : SocketPointer) : SocketKey := (c.sockets s).getKey

/-- A change of one socket that the collection is not told of. -/
def modify (c : SocketCollection) (s : SocketPointer) (o : SocketObject) : SocketCollection :=
  { c with sockets := Function.update c.sockets s o }

/-! ### Operations -/

def push (c : SocketCollection) (s : SocketPointer) : SocketCollection :=
  { c.modify s { c.sockets s with observed := true } with collection := c.collection.insert (c.key s) s }

/-- The entry that `remove` erases: the one with the socket's key, else the first one with the socket. -/
def removed (c : SocketCollection) (s : SocketPointer) : Option SocketKey :=
  if c.collection[c.key s]?.isSome then some (c.key s)
  else (c.collection.toList.find? fun e => e.2 == s).map Prod.fst

def remove (c : SocketCollection) (s : SocketPointer) : SocketCollection :=
  match c.removed s with
  | some k => { c with collection := c.collection.erase k }
  | none => c

/-- `update`, told by a socket that has changed. -/
def update (c : SocketCollection) (s : SocketPointer) : SocketCollection := (c.remove s).push s

/-- `Observable::notify`. -/
def notify (c : SocketCollection) (s : SocketPointer) : SocketCollection :=
  if (c.sockets s).observed then c.update s else c

def setLocalAddressPort (c : SocketCollection) (s : SocketPointer) (a : AddressPort) : SocketCollection :=
  (c.modify s { c.sockets s with localAddress := a }).notify s

def setRemoteAddressPort (c : SocketCollection) (s : SocketPointer) (a : AddressPort) : SocketCollection :=
  (c.modify s { c.sockets s with remoteAddress := a }).notify s

/-- `accept` with a visitor that stops at the first socket it takes. -/
def accept (c : SocketCollection) (visit : SocketObject → Bool) : Option SocketPointer :=
  (c.collection.toList.find? fun e => visit (c.sockets e.2)).map Prod.snd

def getById (c : SocketCollection) (id : BitVec 32) : Option SocketPointer :=
  c.accept fun s => s.socket == id

/-- The local address is the given one, or any address with its port. -/
def boundTo (a : AddressPort) (s : SocketObject) : Bool :=
  a.port == s.localAddress.port && (a.address == s.localAddress.address || s.localAddress.address == 0)

def getByLocalAp (c : SocketCollection) (a : AddressPort) : Option SocketPointer := c.accept (boundTo a)

def getByLocalAndRemoteAp (c : SocketCollection) (l r : AddressPort) : Option SocketPointer :=
  c.collection[makeKey l r]?

/-! ### Entries -/

/-- The entry of a key. -/
def Holds (c : SocketCollection) (k : SocketKey) (s : SocketPointer) : Prop := c.collection[k]? = some s

instance (c : SocketCollection) (k : SocketKey) (s : SocketPointer) : Decidable (c.Holds k s) :=
  inferInstanceAs (Decidable (_ = _))

/-- The socket is in the collection. -/
def Stored (c : SocketCollection) (s : SocketPointer) : Prop := ∃ k, c.Holds k s

/-- No other socket has the key. -/
def KeyFree (c : SocketCollection) (s : SocketPointer) (k : SocketKey) : Prop := ∀ t, c.Holds k t → t = s

instance (c : SocketCollection) (s : SocketPointer) (k : SocketKey) : Decidable (c.KeyFree s k) :=
  match h : c.collection[k]? with
  | none => .isTrue fun t ht => by rw [Holds, h] at ht; cases ht
  | some u => if hu : u = s then .isTrue fun t ht => by rw [Holds, h] at ht; cases ht; exact hu
    else .isFalse fun hf => hu (hf u h)

variable {c : SocketCollection} {k : SocketKey} {s t : SocketPointer}

theorem Holds.unique (hs : c.Holds k s) (ht : c.Holds k t) : s = t := by
  rw [Holds, hs] at ht
  exact Option.some.inj ht

theorem holds_iff_mem : c.Holds k s ↔ (k, s) ∈ c.collection.toList :=
  Std.TreeMap.mem_toList_iff_getElem?_eq_some.symm

theorem stored_iff : c.Stored s ↔ ∃ e ∈ c.collection.toList, e.2 = s := by
  constructor
  · rintro ⟨k, h⟩
    exact ⟨(k, s), holds_iff_mem.1 h, rfl⟩
  · rintro ⟨e, he, rfl⟩
    exact ⟨e.1, holds_iff_mem.2 he⟩

@[simp] theorem modify_collection (o : SocketObject) : (c.modify s o).collection = c.collection := rfl

@[simp] theorem modify_self (o : SocketObject) : (c.modify s o).sockets s = o := by
  simp [modify]

theorem modify_of_ne (o : SocketObject) (h : t ≠ s) : (c.modify s o).sockets t = c.sockets t := by
  simp [modify, h]

@[simp] theorem holds_modify (o : SocketObject) : (c.modify s o).Holds k t ↔ c.Holds k t := Iff.rfl

/-! ### What the operations do to the entries -/

theorem push_socket (t : SocketPointer) : (c.push s).sockets t =
    if t = s then { c.sockets s with observed := true } else c.sockets t := by
  show (c.modify s _).sockets t = _
  split
  · rename_i h
    rw [h, modify_self]
  · rename_i h
    exact modify_of_ne _ h

/-- `push` does not change the key of any socket. -/
theorem push_key (t : SocketPointer) : (c.push s).key t = c.key t := by
  unfold key
  rw [push_socket]
  split
  · rename_i h
    rw [h]
    rfl
  · rfl

theorem holds_push : (c.push s).Holds k t ↔ (k = c.key s ∧ t = s) ∨ (k ≠ c.key s ∧ c.Holds k t) := by
  show (c.collection.insert (c.key s) s)[k]? = some t ↔ _
  rw [Std.TreeMap.getElem?_insert]
  simp only [Std.compare_eq_iff_eq]
  by_cases h : c.key s = k
  · simp [h, eq_comm]
  · simp [h, Ne.symm h, Holds]

theorem remove_sockets : (c.remove s).sockets = c.sockets := by
  unfold remove
  split <;> rfl

@[simp] theorem remove_key : (c.remove s).key t = c.key t := by
  unfold key
  rw [remove_sockets]

theorem holds_erase {l : SocketKey} : ({ c with collection := c.collection.erase l } : SocketCollection).Holds k t ↔
    k ≠ l ∧ c.Holds k t := by
  show (c.collection.erase l)[k]? = some t ↔ _
  rw [Std.TreeMap.getElem?_erase]
  simp only [Std.compare_eq_iff_eq]
  by_cases h : l = k
  · simp [h]
  · simp [h, Ne.symm h, Holds]

/-- `remove` with the key taken by another socket erases the entry of that one. -/
theorem holds_remove_of_key {u : SocketPointer} (hu : c.Holds (c.key s) u) :
    (c.remove s).Holds k t ↔ k ≠ c.key s ∧ c.Holds k t := by
  have hr : c.removed s = some (c.key s) := by
    unfold removed
    rw [hu, if_pos Option.isSome_some]
  unfold remove
  rw [hr]
  exact holds_erase

/-- `remove` takes out the one entry of the socket when no other socket has its key. -/
theorem holds_remove (hfree : c.KeyFree s (c.key s)) (hone : ∀ k l, c.Holds k s → c.Holds l s → k = l) :
    (c.remove s).Holds k t ↔ t ≠ s ∧ c.Holds k t := by
  by_cases hk : ∃ u, c.Holds (c.key s) u
  · obtain ⟨u, hu⟩ := hk
    obtain rfl := hfree u hu
    rw [holds_remove_of_key hu]
    constructor
    · rintro ⟨hne, ht⟩
      refine ⟨?_, ht⟩
      rintro rfl
      exact hne (hone _ _ ht hu)
    · rintro ⟨hne, ht⟩
      refine ⟨?_, ht⟩
      rintro rfl
      exact hne (ht.unique hu)
  · have hkey : ¬(c.collection[c.key s]?.isSome = true) := fun h => hk (Option.isSome_iff_exists.1 h)
    cases hf : c.collection.toList.find? fun e => e.2 == s with
    | none =>
      have hr : c.removed s = none := by
        unfold removed
        rw [if_neg hkey, hf]
        rfl
      have hnot : ¬c.Holds k s := by
        intro hs
        have := List.find?_eq_none.1 hf _ (holds_iff_mem.1 hs)
        simp at this
      unfold remove
      rw [hr]
      constructor
      · intro ht
        refine ⟨?_, ht⟩
        rintro rfl
        exact hnot ht
      · exact fun h => h.2
    | some e =>
      have hr : c.removed s = some e.1 := by
        unfold removed
        rw [if_neg hkey, hf]
        rfl
      have hes : c.Holds e.1 s := by
        have hp := List.find?_some hf
        have hmem := List.mem_of_find?_eq_some hf
        rw [beq_iff_eq] at hp
        rw [holds_iff_mem, ← hp]
        exact hmem
      unfold remove
      rw [hr]
      show ({ c with collection := c.collection.erase e.1 } : SocketCollection).Holds k t ↔ _
      rw [holds_erase]
      constructor
      · rintro ⟨hne, ht⟩
        refine ⟨?_, ht⟩
        rintro rfl
        exact hne (hone _ _ ht hes)
      · rintro ⟨hne, ht⟩
        refine ⟨?_, ht⟩
        rintro rfl
        exact hne (ht.unique hes)

theorem push_sockets_self : (c.push s).sockets s = { c.sockets s with observed := true } := by
  rw [push_socket, if_pos rfl]

/-- After a change of address the socket is the changed one. -/
theorem notify_socket (c : SocketCollection) (s : SocketPointer) (o : SocketObject) (r : SocketPointer) :
    ((c.modify s o).notify s).sockets r = if r = s then o else c.sockets r := by
  have hmodify : (c.modify s o).sockets r = if r = s then o else c.sockets r := by
    split
    · rename_i h
      rw [h, modify_self]
    · rename_i h
      exact modify_of_ne o h
  unfold notify
  rw [modify_self]
  by_cases ho : o.observed = true
  · rw [if_pos ho, update, push_socket, remove_sockets, hmodify]
    split
    · rw [modify_self, ← ho]
    · rfl
  · rw [if_neg ho]
    exact hmodify

theorem accept_none {visit : SocketObject → Bool} :
    c.accept visit = none ↔ ∀ s, c.Stored s → visit (c.sockets s) = false := by
  unfold accept
  rw [Option.map_eq_none_iff, List.find?_eq_none]
  simp only [stored_iff]
  constructor
  · rintro h s ⟨e, he, rfl⟩
    simpa using h e he
  · intro h e he
    simpa using h e.2 ⟨e, he, rfl⟩

/-- The socket with the smallest key among those that a visitor takes. -/
def First (c : SocketCollection) (visit : SocketObject → Bool) (s : SocketPointer) : Prop :=
  ∃ k, c.Holds k s ∧ visit (c.sockets s) = true ∧
    ∀ l t, c.Holds l t → visit (c.sockets t) = true → (compare k l).isLE = true

/-- The lookup by a visitor finds the first socket that it takes. -/
theorem accept_some {visit : SocketObject → Bool} (h : c.accept visit = some s) : c.First visit s := by
  unfold accept at h
  obtain ⟨e, he, rfl⟩ := Option.map_eq_some_iff.1 h
  obtain ⟨hvisit, l₁, l₂, hl, hbefore⟩ := List.find?_eq_some_iff_append.1 he
  have hsorted := Std.TreeMap.ordered_keys_toList (t := c.collection)
  refine ⟨e.1, holds_iff_mem.2 (List.mem_of_find?_eq_some he), hvisit, fun l t ht hv => ?_⟩
  rw [holds_iff_mem, hl] at ht
  rcases List.mem_append.1 ht with ht | ht
  · have := hbefore _ ht
    simp [hv] at this
  · rcases List.mem_cons.1 ht with rfl | ht
    · simp
    · rw [hl] at hsorted
      have hlt := (List.pairwise_cons.1 (List.pairwise_append.1 hsorted).2.1).1 _ ht
      rw [hlt]
      rfl

theorem First.unique {visit : SocketObject → Bool} (hs : c.First visit s) (ht : c.First visit t) : s = t := by
  obtain ⟨k, hk, hvs, hks⟩ := hs
  obtain ⟨l, hl, hvt, hlt⟩ := ht
  have h1 := hks l t hl hvt
  have h2 := hlt k s hk hvs
  have heq : k = l := Std.compare_eq_iff_eq.1 (Std.OrientedCmp.isLE_antisymm h1 h2)
  subst heq
  exact hk.unique hl

end SocketCollection

end Wifu
