import Mathlib.Data.List.Nodup
import Mathlib.Data.List.Range

/-!
# Pools of objects (`ObjectPool.h`)

A pool hands out its objects from the front of a list and takes them back at the end; when the list is empty it makes
as many new objects as it has made before.  Objects are told apart by their numbers, counted from the first one made.
-/

namespace Wifu

/-- `POOL_INITIAL_SIZE`. -/
def poolInitialSize : Nat := 10

structure ObjectPool where
  objectList : List Nat
  /-- How many objects have been made. -/
  size : Nat
  size_pos : 0 < size
  deriving DecidableEq

namespace ObjectPool

/-- The constructor. -/
def init : ObjectPool := ⟨List.range poolInitialSize, poolInitialSize, by decide⟩

/-- `grow()`: makes `(size_ * 2) - size_` objects. -/
def grow (p : ObjectPool) : ObjectPool :=
  ⟨p.objectList ++ List.range' p.size (p.size * 2 - p.size), p.size * 2, by have := p.size_pos; omega⟩

/-- `get`, the list after the growth. -/
def ready (p : ObjectPool) : ObjectPool := if p.objectList = [] then p.grow else p

/-- `get`; the list is not empty any more when its front is taken. -/
def get (p : ObjectPool) : Nat × ObjectPool :=
  (p.ready.objectList.headD 0, { p.ready with objectList := p.ready.objectList.tail })

/-- `release`. -/
def release (p : ObjectPool) (item : Nat) : ObjectPool := { p with objectList := p.objectList ++ [item] }

/-- The objects in the list are all different, and none of them is held by anyone. -/
structure Owns (p : ObjectPool) (held : Nat → Prop) : Prop where
  nodup : p.objectList.Nodup
  made : ∀ x ∈ p.objectList, x < p.size
  held_made : ∀ x, held x → x < p.size
  apart : ∀ x, held x → x ∉ p.objectList

section

variable {p : ObjectPool} {held held' : Nat → Prop} {x : Nat}

theorem Owns.init : ObjectPool.init.Owns fun _ => False :=
  ⟨List.nodup_range, fun _ hx => List.mem_range.1 hx, fun _ h => h.elim, fun _ h => h.elim⟩

theorem Owns.congr (h : p.Owns held) (hh : ∀ x, held' x → held x) : p.Owns held' :=
  ⟨h.nodup, h.made, fun x hx => h.held_made x (hh x hx), fun x hx => h.apart x (hh x hx)⟩

theorem Owns.ready (h : p.Owns held) : p.ready.Owns held ∧ p.ready.objectList ≠ [] := by
  unfold ObjectPool.ready
  by_cases hnil : p.objectList = []
  · rw [if_pos hnil]
    have hlist : p.grow.objectList = List.range' p.size p.size := by
      have hcount : p.size * 2 - p.size = p.size := by omega
      unfold grow
      rw [hnil, List.nil_append, hcount]
    have hsize : p.grow.size = p.size * 2 := rfl
    refine ⟨⟨?_, ?_, ?_, ?_⟩, ?_⟩
    · rw [hlist]
      exact List.nodup_range'
    · intro x hx
      rw [hlist, List.mem_range'_1] at hx
      omega
    · intro x hx
      have := h.held_made x hx
      omega
    · intro x hx hmem
      rw [hlist, List.mem_range'_1] at hmem
      have := h.held_made x hx
      omega
    · intro hempty
      have hlen := congrArg List.length hempty
      have := p.size_pos
      rw [hlist, List.length_range', List.length_nil] at hlen
      omega
  · rw [if_neg hnil]
    exact ⟨h, hnil⟩

/-- An object that is handed out was held by nobody, and is held then. -/
theorem Owns.get (h : p.Owns held) : ¬held p.get.1 ∧ p.get.2.Owns fun x => x = p.get.1 ∨ held x := by
  obtain ⟨hready, hne⟩ := h.ready
  obtain ⟨y, ys, hys⟩ := List.exists_cons_of_ne_nil hne
  have hitem : p.get.1 = y := by
    unfold ObjectPool.get
    rw [hys]
    rfl
  have hlist : p.get.2.objectList = ys := by
    unfold ObjectPool.get
    rw [hys]
    rfl
  have hsize : p.get.2.size = p.ready.size := rfl
  have hnodup := hready.nodup
  rw [hys] at hnodup
  have hy : y ∈ p.ready.objectList := by
    rw [hys]
    exact List.mem_cons_self
  refine ⟨?_, ?_, ?_, ?_, ?_⟩
  · rw [hitem]
    exact fun hheld => hready.apart y hheld hy
  · rw [hlist]
    exact (List.nodup_cons.1 hnodup).2
  · intro x hx
    rw [hlist] at hx
    rw [hsize]
    refine hready.made x ?_
    rw [hys]
    exact List.mem_cons_of_mem y hx
  · rintro x (rfl | hx)
    · rw [hsize, hitem]
      exact hready.made y hy
    · rw [hsize]
      exact hready.held_made x hx
  · intro x hx hmem
    rw [hlist] at hmem
    rcases hx with rfl | hx
    · rw [hitem] at hmem
      exact (List.nodup_cons.1 hnodup).1 hmem
    · refine hready.apart x hx ?_
      rw [hys]
      exact List.mem_cons_of_mem y hmem

/-- An object that was held goes back to the list. -/
theorem Owns.release (h : p.Owns held) (hx : held x) : (p.release x).Owns fun y => held y ∧ y ≠ x := by
  refine ⟨?_, ?_, fun y hy => h.held_made y hy.1, ?_⟩
  · refine List.Nodup.append h.nodup (List.nodup_singleton x) ?_
    intro y hy hmem
    rw [List.mem_singleton] at hmem
    subst hmem
    exact h.apart y hx hy
  · intro y hy
    rcases List.mem_append.1 hy with hy | hy
    · exact h.made y hy
    · rw [List.mem_singleton] at hy
      subst hy
      exact h.held_made y hx
  · rintro y ⟨hy, hne⟩ hmem
    rcases List.mem_append.1 hmem with hmem | hmem
    · exact h.apart y hy hmem
    · exact hne (List.mem_singleton.1 hmem)

end

end ObjectPool

end Wifu
