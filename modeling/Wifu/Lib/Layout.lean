import Wifu.Lib.ByteMemory
import Mathlib.Logic.Function.Basic

/-!
# Fields of a memory

A layout gives each field a place in a memory of bytes, apart from the places of the other fields.  A memory holds the
bytes of all fields; storing the bytes of one field changes the bytes of that field only, so a sequence of stores can be
followed on the fields alone.
-/

namespace ByteMemory

/-- Where the fields are. -/
structure Layout (ι : Type) where
  position : ι → Nat
  size : ι → Nat
  apart : ∀ i j, i ≠ j → position i + size i ≤ position j ∨ position j + size j ≤ position i

/-- The four bytes of a number, the highest byte first. -/
def bigEndianBytes32 (n : BitVec 32) : List UInt8 :=
  bigEndianBytes (n.extractLsb' 16 16) ++ bigEndianBytes (n.extractLsb' 0 16)

@[simp] theorem length_bigEndianBytes32 (n : BitVec 32) : (bigEndianBytes32 n).length = 4 := rfl

section

variable {m m' : Nat → UInt8} {a b : Nat}

/-- The number in two bytes is the one that is stored as them. -/
theorem bigEndian_of_slice {n : BitVec 16} (h : Slice.slice m a 2 = bigEndianBytes n) : bigEndian m a = n := by
  have hslice : Slice.slice m a 2 = Slice.slice (write m a (bigEndianBytes n)) a 2 :=
    h.trans (slice_write_self m a (bigEndianBytes n)).symm
  have hsame := Slice.slice_eq_iff.1 hslice
  exact (bigEndian_congr (hsame 0 (by omega)) (hsame 1 (by omega))).trans (bigEndian_write m a n)

theorem bigEndian32_of_slice {n : BitVec 32} (h : Slice.slice m a 4 = bigEndianBytes32 n) : bigEndian32 m a = n := by
  have hadd : Slice.slice m a (2 + 2) = Slice.slice m a 2 ++ Slice.slice m (a + 2) 2 := Slice.slice_add m a 2 2
  obtain ⟨hhigh, hlow⟩ := List.append_inj (hadd.symm.trans h) (by simp)
  unfold bigEndian32
  rw [bigEndian_of_slice hhigh, bigEndian_of_slice hlow]
  apply BitVec.eq_of_toNat_eq
  have hlt := n.isLt
  rw [BitVec.toNat_append, BitVec.extractLsb'_toNat, BitVec.extractLsb'_toNat, Nat.shiftRight_eq_div_pow,
    Nat.shiftRight_eq_div_pow, ← Nat.shiftLeft_add_eq_or_of_lt (Nat.mod_lt _ (by omega)), Nat.shiftLeft_eq]
  omega

/-- One byte. -/
theorem byte_of_slice {x : UInt8} (h : Slice.slice m a 1 = [x]) : m a = x := (List.cons.inj h).1

end

namespace Layout

variable {ι : Type} {L : Layout ι} {m m' : Nat → UInt8} {v v' : ι → List UInt8}

/-- The bytes of the fields. -/
def Holds (L : Layout ι) (m : Nat → UInt8) (v : ι → List UInt8) : Prop :=
  ∀ i, Slice.slice m (L.position i) (L.size i) = v i

theorem Holds.congr (h : L.Holds m v)
    (hm : ∀ i k, k < L.size i → m' (L.position i + k) = m (L.position i + k)) : L.Holds m' v :=
  fun i => (Slice.slice_congr fun k hk => hm i k hk).trans (h i)

theorem Holds.of_eq (h : L.Holds m v) (hv : ∀ i, v i = v' i) : L.Holds m v' := fun i => (h i).trans (hv i)

/-- Bytes stored apart from all fields leave them. -/
theorem Holds.write (h : L.Holds m v) {a : Nat} {l : List UInt8}
    (ha : ∀ i, L.position i + L.size i ≤ a ∨ a + l.length ≤ L.position i) : L.Holds (write m a l) v :=
  fun i => (slice_write_of_disjoint (ha i)).trans (h i)

/-- Storing a field. -/
theorem Holds.store [DecidableEq ι] (h : L.Holds m v) {i : ι} {l : List UInt8} (hl : l.length = L.size i) :
    L.Holds (ByteMemory.write m (L.position i) l) (Function.update v i l) := by
  intro j
  by_cases hij : j = i
  · subst hij
    rw [Function.update_self, ← hl]
    exact slice_write_self m _ l
  · rw [Function.update_of_ne hij, ← h j]
    exact slice_write_of_disjoint (by
      rw [hl]
      exact L.apart j i hij)

end Layout

end ByteMemory
