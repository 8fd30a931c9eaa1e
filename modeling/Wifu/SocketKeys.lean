import Wifu.SocketCollection
import Wifu.Lib.Transition

/-!
# The keys of the sockets in the collection

The collection is told of a change of address after the key has changed.  It then takes out the entry under the new
key, whichever socket that is of, and looks for the socket itself only when there is no such entry.  As long as no
other socket has the key that is looked up, every socket that was pushed and not removed is stored once, under the key
it has now (`rekeyed`); otherwise the other socket is dropped (`disturbed_drops`).
-/

namespace Wifu

namespace SocketCollection

/-- An operation on the collection or on a socket. -/
inductive Change
  | push (s : SocketPointer)
  | remove (s : SocketPointer)
  | setLocal (s : SocketPointer) (a : AddressPort)
  | setRemote (s : SocketPointer) (a : AddressPort)
  deriving DecidableEq, Repr

namespace Change

/-- The socket that is changed. -/
def socket : Change → SocketPointer
  | push s => s
  | remove s => s
  | setLocal s _ => s
  | setRemote s _ => s

def apply : Change → SocketCollection → SocketCollection
  | push s, c => c.push s
  | remove s, c => c.remove s
  | setLocal s a, c => c.setLocalAddressPort s a
  | setRemote s a, c => c.setRemoteAddressPort s a

/-- The key that the collection looks up or stores, if it is told of the change. -/
def lookup (c : SocketCollection) : Change → Option SocketKey
  | push s => some (c.key s)
  | remove s => some (c.key s)
  | setLocal s a => if (c.sockets s).observed then some (makeKey a (c.sockets s).remoteAddress) else none
  | setRemote s a => if (c.sockets s).observed then some (makeKey (c.sockets s).localAddress a) else none

end Change

/-- No other socket is stored under the key that the change looks up. -/
def Undisturbed (c : SocketCollection) (i : Change) : Prop := ∀ k ∈ i.lookup c, c.KeyFree i.socket k

instance (c : SocketCollection) (i : Change) : Decidable (c.Undisturbed i) :=
  inferInstanceAs (Decidable (∀ k ∈ i.lookup c, c.KeyFree i.socket k))

/-- Every entry is under the key that its socket has now, and every stored socket tells the collection of its
changes. -/
structure Keyed (c : SocketCollection) : Prop where
  current : ∀ k s, c.Holds k s → k = c.key s
  observed : ∀ s, c.Stored s → (c.sockets s).observed = true

variable {c c' : SocketCollection} {k l : SocketKey} {s t : SocketPointer} {i : Change}

theorem Keyed.one (h : c.Keyed) (hk : c.Holds k s) (hl : c.Holds l s) : k = l := by
  rw [h.current k s hk, h.current l s hl]

/-! ### One change -/

/-- What a change of `s` leads to: the other sockets keep their keys and entries, and `s` is stored under its key if
`present` says so, and not at all otherwise. -/
structure Rekeys (s : SocketPointer) (present : Prop) (c c' : SocketCollection) : Prop where
  sockets : ∀ r, r ≠ s → c'.sockets r = c.sockets r
  others : ∀ k r, r ≠ s → (c'.Holds k r ↔ c.Holds k r)
  self : ∀ k, c'.Holds k s ↔ present ∧ k = c'.key s
  observed : present → (c'.sockets s).observed = true

theorem Rekeys.key {present : Prop} (h : Rekeys s present c c') {r : SocketPointer} (hr : r ≠ s) :
    c'.key r = c.key r := by
  unfold SocketCollection.key
  rw [h.sockets r hr]

theorem Rekeys.keyed {present : Prop} (h : Rekeys s present c c') (hc : c.Keyed) : c'.Keyed := by
  refine ⟨fun k r hr => ?_, fun r hr => ?_⟩
  · by_cases hrs : r = s
    · subst hrs
      exact ((h.self k).1 hr).2
    · rw [h.key hrs]
      exact hc.current k r ((h.others k r hrs).1 hr)
  · obtain ⟨k, hr⟩ := hr
    by_cases hrs : r = s
    · subst hrs
      exact h.observed ((h.self k).1 hr).1
    · rw [h.sockets r hrs]
      exact hc.observed r ⟨k, (h.others k r hrs).1 hr⟩

theorem Keyed.push (h : c.Keyed) (hfree : c.KeyFree s (c.key s)) : Rekeys s True c (c.push s) := by
  refine ⟨fun r hr => ?_, fun k r hr => ?_, fun k => ?_, fun _ => ?_⟩
  · rw [push_socket, if_neg hr]
  · rw [holds_push]
    constructor
    · rintro (⟨-, hrs⟩ | ⟨-, hh⟩)
      · exact absurd hrs hr
      · exact hh
    · intro hh
      refine .inr ⟨?_, hh⟩
      rintro rfl
      exact hr (hfree r hh)
  · rw [holds_push, push_key]
    constructor
    · rintro (⟨hk, -⟩ | ⟨-, hh⟩)
      · exact ⟨trivial, hk⟩
      · exact ⟨trivial, h.current k s hh⟩
    · rintro ⟨-, hk⟩
      exact .inl ⟨hk, rfl⟩
  · rw [push_socket, if_pos rfl]

theorem Keyed.remove (h : c.Keyed) (hfree : c.KeyFree s (c.key s)) : Rekeys s False c (c.remove s) := by
  have hspec (k : SocketKey) (r : SocketPointer) := holds_remove (k := k) (t := r) hfree fun _ _ => h.one
  refine ⟨fun r _ => by rw [remove_sockets], fun k r hr => ?_, fun k => ?_, fun hf => hf.elim⟩
  · rw [hspec]
    exact ⟨fun hh => hh.2, fun hh => ⟨hr, hh⟩⟩
  · rw [hspec]
    exact ⟨fun hh => (hh.1 rfl).elim, fun hh => hh.1.elim⟩

/-- A change of address: the entries are still those of the collection before it when the collection is told. -/
theorem Keyed.change (h : c.Keyed) (o : SocketObject) (hobs : o.observed = (c.sockets s).observed)
    (hfree : o.observed = true → c.KeyFree s o.getKey) :
    Rekeys s (o.observed = true) c ((c.modify s o).notify s) := by
  have hself : (c.modify s o).sockets s = o := modify_self o
  have hkey : (c.modify s o).key s = o.getKey := by
    unfold SocketCollection.key
    rw [hself]
  unfold notify
  rw [hself]
  by_cases ho : o.observed = true
  · rw [if_pos ho]
    have hfree' : (c.modify s o).KeyFree s ((c.modify s o).key s) := by
      rw [hkey]
      exact hfree ho
    have hspec (k : SocketKey) (r : SocketPointer) :=
      holds_remove (c := c.modify s o) (k := k) (t := r) hfree' fun _ _ => h.one
    refine ⟨fun r hr => ?_, fun k r hr => ?_, fun k => ?_, fun _ => ?_⟩
    · unfold update
      rw [push_socket, if_neg hr, remove_sockets, modify_of_ne o hr]
    · unfold update
      rw [holds_push, hspec, remove_key]
      constructor
      · rintro (⟨-, hrs⟩ | ⟨-, -, hh⟩)
        · exact absurd hrs hr
        · exact hh
      · intro hh
        refine .inr ⟨?_, hr, hh⟩
        rintro rfl
        exact hr (hfree' r hh)
    · unfold update
      rw [holds_push, hspec, push_key, remove_key]
      constructor
      · rintro (⟨hk, -⟩ | ⟨-, hrs, -⟩)
        · exact ⟨ho, hk⟩
        · exact absurd rfl hrs
      · rintro ⟨-, hk⟩
        exact .inl ⟨hk, rfl⟩
    · unfold update
      rw [push_socket, if_pos rfl]
  · rw [if_neg ho]
    have hnot (k : SocketKey) : ¬c.Holds k s := fun hh => ho (hobs ▸ h.observed s ⟨k, hh⟩)
    exact ⟨fun r hr => modify_of_ne o hr, fun k r _ => Iff.rfl,
      fun k => ⟨fun hh => absurd hh (hnot k), fun hh => absurd hh.1 ho⟩, fun hh => absurd hh ho⟩

/-- The socket is stored after the change. -/
def Change.Stores (c : SocketCollection) : Change → Prop
  | push _ => True
  | remove _ => False
  | setLocal s _ => (c.sockets s).observed = true
  | setRemote s _ => (c.sockets s).observed = true

theorem Keyed.apply (h : c.Keyed) (hi : c.Undisturbed i) : Rekeys i.socket (i.Stores c) c (i.apply c) := by
  cases i with
  | push s => exact h.push (hi _ rfl)
  | remove s => exact h.remove (hi _ rfl)
  | setLocal s a =>
    refine h.change (s := s) { c.sockets s with localAddress := a } rfl fun ho => hi _ ?_
    exact Option.mem_def.2 (if_pos ho)
  | setRemote s a =>
    refine h.change (s := s) { c.sockets s with remoteAddress := a } rfl fun ho => hi _ ?_
    exact Option.mem_def.2 (if_pos ho)

/-- A change that looks up the key of another socket takes that socket out. -/
theorem Keyed.disturbed_drops (h : c.Keyed) (hi : ¬c.Undisturbed i) :
    ∃ r, r ≠ i.socket ∧ c.Stored r ∧ ¬(i.apply c).Stored r := by
  unfold Undisturbed KeyFree at hi
  push Not at hi
  obtain ⟨k, hk, r, hr, hne⟩ := hi
  refine ⟨r, hne, ⟨k, hr⟩, ?_⟩
  have hrk (l : SocketKey) (hl : c.Holds l r) : l = k := h.one hl hr
  -- the entries of a collection with the key erased, and of one with the changed socket under it
  have hchange (s : SocketPointer) (o : SocketObject) (hrs : r ≠ s) (ho : o.observed = true) (hko : o.getKey = k) :
      ¬((c.modify s o).notify s).Stored r := by
    have hkey : (c.modify s o).key s = k := by
      unfold SocketCollection.key
      rw [modify_self, hko]
    have hr' : (c.modify s o).Holds ((c.modify s o).key s) r := by
      rw [hkey]
      exact hr
    unfold notify
    rw [modify_self, if_pos ho]
    rintro ⟨l, hl⟩
    unfold update at hl
    rw [holds_push, holds_remove_of_key hr', remove_key, hkey] at hl
    rcases hl with ⟨-, hrs'⟩ | ⟨hne, -, hl⟩
    · exact hrs hrs'
    · exact hne (hrk l hl)
  cases i with
  | push s =>
    obtain rfl : c.key s = k := Option.some.inj (Option.mem_def.1 hk)
    rintro ⟨l, hl⟩
    rcases holds_push.1 hl with ⟨-, hrs⟩ | ⟨hne', hl⟩
    · exact hne hrs
    · exact hne' (hrk l hl)
  | remove s =>
    obtain rfl : c.key s = k := Option.some.inj (Option.mem_def.1 hk)
    rintro ⟨l, hl⟩
    obtain ⟨hne', hl⟩ := (holds_remove_of_key hr).1 hl
    exact hne' (hrk l hl)
  | setLocal s a =>
    have hk : (if (c.sockets s).observed = true then some _ else none) = some k := Option.mem_def.1 hk
    by_cases ho : (c.sockets s).observed = true
    · rw [if_pos ho] at hk
      exact hchange s _ hne ho (Option.some.inj hk)
    · rw [if_neg ho] at hk
      cases hk
  | setRemote s a =>
    have hk : (if (c.sockets s).observed = true then some _ else none) = some k := Option.mem_def.1 hk
    by_cases ho : (c.sockets s).observed = true
    · rw [if_pos ho] at hk
      exact hchange s _ hne ho (Option.some.inj hk)
    · rw [if_neg ho] at hk
      cases hk

/-! ### Every run -/

/-- The collection and the sockets that were pushed and not removed. -/
structure History where
  c : SocketCollection
  live : List SocketPointer := []

namespace History

def step (i : Change) (t : History) : Except Empty History :=
  .ok
    { c := i.apply t.c
      live := match i with
        | .push s => s :: t.live
        | .remove s => t.live.filter fun r => r != s
        | _ => t.live }

def machine : Transition.Machine History Change Empty where
  enabled _ _ := True
  step := step

instance (i : Change) (t : History) : Decidable (machine.enabled i t) := .isTrue trivial

/-- No other socket is stored under the key that the change looks up. -/
def Undisturbed (t : History) (i : Change) : Prop := t.c.Undisturbed i

instance (t : History) (i : Change) : Decidable (t.Undisturbed i) := inferInstanceAs (Decidable (t.c.Undisturbed i))

/-- The empty collection. -/
def start (sockets : SocketPointer → SocketObject) : History where
  c := { sockets := sockets }

structure Rekeyed (t : History) : Prop where
  keyed : t.c.Keyed
  live : ∀ s ∈ t.live, t.c.Holds (t.c.key s) s

variable {t u : History} {sockets : SocketPointer → SocketObject} {is : List Change}

theorem start_rekeyed : (start sockets).Rekeyed := by
  have hnone (k : SocketKey) (s : SocketPointer) : ¬(start sockets).c.Holds k s := by
    intro h
    simp [start, Holds] at h
  refine ⟨⟨fun k s h => absurd h (hnone k s), fun s h => ?_⟩, fun s h => ?_⟩
  · obtain ⟨k, hk⟩ := h
    exact absurd hk (hnone k s)
  · cases h

theorem Rekeyed.step (h : t.Rekeyed) (hi : t.Undisturbed i) (hstep : History.step i t = .ok u) : u.Rekeyed := by
  have hr := h.keyed.apply hi
  -- a live socket other than the changed one keeps its entry
  have hother (s : SocketPointer) (hs : s ∈ t.live) (hne : s ≠ i.socket) :
      (i.apply t.c).Holds ((i.apply t.c).key s) s := by
    rw [hr.key hne, hr.others _ s hne]
    exact h.live s hs
  -- a live socket stays stored when its address changes
  have hchange (hs : i.socket ∈ t.live) (hobs : (t.c.sockets i.socket).observed = true → i.Stores t.c) :
      (i.apply t.c).Holds ((i.apply t.c).key i.socket) i.socket :=
    (hr.self _).2 ⟨hobs (h.keyed.observed _ ⟨_, h.live _ hs⟩), rfl⟩
  cases hstep
  refine ⟨hr.keyed h.keyed, fun s hs => ?_⟩
  by_cases hne : s = i.socket
  · subst hne
    cases i with
    | push s => exact (hr.self _).2 ⟨trivial, rfl⟩
    | remove s =>
      have := (List.mem_filter.1 hs).2
      simp [Change.socket] at this
    | setLocal s a => exact hchange hs id
    | setRemote s a => exact hchange hs id
  · cases i with
    | push s =>
      rcases List.mem_cons.1 hs with rfl | hs
      · exact absurd rfl hne
      · exact hother _ hs hne
    | remove s => exact hother _ (List.mem_filter.1 hs).1 hne
    | setLocal s a => exact hother _ hs hne
    | setRemote s a => exact hother _ hs hne

theorem run_rekeyed (hr : machine.Run Undisturbed (start sockets) is t) : t.Rekeyed :=
  hr.invariant Rekeyed start_rekeyed fun _ _ _ h _ hi hstep => h.step hi hstep

/-- The id leads to a socket with that id, and to this one when no other stored socket has the id. -/
def Reachable (c : SocketCollection) (s : SocketPointer) : Prop :=
  ∃ r, c.getById (c.sockets s).socket = some r ∧ (c.sockets r).socket = (c.sockets s).socket ∧
    ((∀ q, c.Stored q → (c.sockets q).socket = (c.sockets s).socket → q = s) → r = s)

theorem reachable_of_stored {c : SocketCollection} {s : SocketPointer} (h : c.Stored s) : Reachable c s := by
  unfold Reachable getById
  cases ha : c.accept fun o => o.socket == (c.sockets s).socket with
  | none =>
    have := accept_none.1 ha s h
    simp at this
  | some r =>
    obtain ⟨k, hk, hid, -⟩ := accept_some ha
    have hid := beq_iff_eq.1 hid
    exact ⟨r, rfl, hid, fun hone => hone r ⟨k, hk⟩ hid⟩

/-- Along every run whose changes find no other socket under the key they look up, every socket that was pushed and
not removed is stored once, under its key, and reached by its id; and such a change leaves the entries of all other
sockets as they are. -/
theorem rekeyed (hr : machine.Run Undisturbed (start sockets) is t) :
    (∀ s ∈ t.live, (∀ k, t.c.Holds k s ↔ k = t.c.key s) ∧ Reachable t.c s) ∧
      ∀ i, t.Undisturbed i → ∀ k r, r ≠ i.socket → ((i.apply t.c).Holds k r ↔ t.c.Holds k r) := by
  have h := run_rekeyed hr
  refine ⟨fun s hs => ⟨fun k => ⟨h.keyed.current k s, ?_⟩, reachable_of_stored ⟨_, h.live s hs⟩⟩, fun i hi => ?_⟩
  · rintro rfl
    exact h.live s hs
  · exact (h.keyed.apply hi).others

/-- A socket bound to every address of a host, one bound to 10.0.0.1, both with port 80, and one on port 90. -/
def threeSockets : SocketPointer → SocketObject
  | 0 => { socket := 5, localAddress := ⟨0, 80⟩ }
  | 1 => { socket := 6, localAddress := ⟨0x0a000001, 80⟩ }
  | _ => { socket := 7, localAddress := ⟨0, 90⟩ }

/-- The first socket connects from 10.0.0.1 to a peer, then the third one does. -/
def connects : List Change :=
  [.push 0, .push 2, .setLocal 0 ⟨0x0a000001, 80⟩, .setRemote 0 ⟨0x0a000002, 5000⟩, .push 1,
    .setLocal 2 ⟨0x0a000001, 90⟩, .setRemote 2 ⟨0x0a000002, 5000⟩]

theorem rekeyed_connects : ∃ t : History, t.live = [1, 2, 0] ∧ t.c.Holds (t.c.key 0) 0 ∧ Reachable t.c 1 := by
  obtain ⟨t, hr, h⟩ := Transition.Machine.exists_run (M := machine) (P := Undisturbed) (s := start threeSockets)
    (i := connects) (q := fun t => decide (t.live = [1, 2, 0])) (by decide +kernel)
  have hlive := of_decide_eq_true h
  obtain ⟨hstored, -⟩ := rekeyed hr
  exact ⟨t, hlive, ((hstored 0 (by simp [hlive])).1 _).2 rfl, (hstored 1 (by simp [hlive])).2⟩

/-- With the second socket in the collection, the first one takes its key and its place. -/
theorem rekeyed_lost : ∃ t, machine.Run Transition.anyStep (start threeSockets)
    [.push 0, .push 1, .setLocal 0 ⟨0x0a000001, 80⟩] t ∧ 1 ∈ t.live ∧ ¬t.c.Stored 1 ∧ t.c.getById 6 = none := by
  obtain ⟨t, hr, h⟩ := Transition.Machine.exists_run (M := machine) (P := Transition.anyStep)
    (s := start threeSockets) (i := [.push 0, .push 1, .setLocal 0 ⟨0x0a000001, 80⟩])
    (q := fun t => decide (1 ∈ t.live ∧ (t.c.collection.toList.all fun e => e.2 != 1) = true ∧ t.c.getById 6 = none))
    (by decide +kernel)
  obtain ⟨hlive, hall, hid⟩ := of_decide_eq_true h
  refine ⟨t, hr, hlive, fun hs => ?_, hid⟩
  obtain ⟨e, he, heq⟩ := stored_iff.1 hs
  have := List.all_eq_true.1 hall e he
  simp [heq] at this

end History

end SocketCollection

end Wifu
