import Mathlib.Data.List.Basic
import Mathlib.Data.Nat.Cast.Basic

/-!
# Slices of a sequence

`slice f a n` lists the values of `f` at the `n` positions from `a` on.  Positions are natural or whole numbers.
-/

namespace Slice

variable {ι α : Type} [AddMonoidWithOne ι] {f g : ι → α}

/-- The values at the positions from `a` on. -/
def slice (f : ι → α) (a : ι) (n : Nat) : List α := (List.range n).map fun k : Nat => f (a + (k : ι))

@[simp] theorem length_slice (f : ι → α) (a : ι) (n : Nat) : (slice f a n).length = n := by
  simp [slice]

theorem getElem_slice {f : ι → α} {a : ι} {n k : Nat} (h : k < (slice f a n).length) :
    (slice f a n)[k] = f (a + (k : ι)) := by
  simp [slice]

@[simp] theorem slice_zero (f : ι → α) (a : ι) : slice f a 0 = [] := rfl

theorem slice_add (f : ι → α) (a : ι) (m n : Nat) : slice f a (m + n) = slice f a m ++ slice f (a + (m : ι)) n := by
  unfold slice
  rw [List.range_add, List.map_append, List.map_map]
  congr 1
  refine List.map_congr_left fun k _ => ?_
  show f (a + ((m + k : Nat) : ι)) = f (a + (m : ι) + (k : ι))
  rw [Nat.cast_add, add_assoc]

theorem drop_slice (f : ι → α) (a : ι) (m n : Nat) : (slice f a (m + n)).drop m = slice f (a + (m : ι)) n := by
  rw [slice_add]
  exact List.drop_left' (length_slice f a m)

theorem slice_congr {κ : Type} [AddMonoidWithOne κ] {g : κ → α} {a : ι} {b : κ} {n : Nat}
    (h : ∀ k < n, f (a + (k : ι)) = g (b + (k : κ))) : slice f a n = slice g b n :=
  List.map_congr_left fun k hk => h k (List.mem_range.1 hk)

theorem slice_eq_iff {κ : Type} [AddMonoidWithOne κ] {g : κ → α} {a : ι} {b : κ} {n : Nat} :
    slice f a n = slice g b n ↔ ∀ k < n, f (a + (k : ι)) = g (b + (k : κ)) := by
  refine ⟨fun h k hk => ?_, slice_congr⟩
  have hget := List.getElem_of_eq h (i := k) (by simpa using hk)
  rw [getElem_slice, getElem_slice] at hget
  exact hget

end Slice
