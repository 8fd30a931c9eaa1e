import Wifu.Lib.Slice
import Mathlib.Data.List.GetD
import Mathlib.Tactic.Common

/-!
# A memory of bytes

A memory is a function from positions to bytes.  `write m a l` stores the bytes `l` from position `a` on; reading is
`Slice.slice`.  Numbers of two bytes are read with either byte first.
-/

namespace ByteMemory

/-- The memory after the bytes `l` have been stored from position `a` on. -/
def write (m : Nat → UInt8) (a : Nat) (l : List UInt8) : Nat → UInt8 :=
  fun i => if a ≤ i ∧ i < a + l.length then l.getD (i - a) 0 else m i

/-- The number whose low byte comes first. -/
def littleEndian (m : Nat → UInt8) (a : Nat) : BitVec 16 := BitVec.ofNat 16 ((m a).toNat + 256 * (m (a + 1)).toNat)

/-- The number whose high byte comes first. -/
def bigEndian (m : Nat → UInt8) (a : Nat) : BitVec 16 := BitVec.ofNat 16 (256 * (m a).toNat + (m (a + 1)).toNat)

/-- The number of four bytes whose highest byte comes first. -/
def bigEndian32 (m : Nat → UInt8) (a : Nat) : BitVec 32 := (bigEndian m a) ++ (bigEndian m (a + 2))

/-- The number of four bytes whose lowest byte comes first. -/
def littleEndian32 (m : Nat → UInt8) (a : Nat) : BitVec 32 := (littleEndian m (a + 2)) ++ (littleEndian m a)

/-- The bytes of a number, the low byte first. -/
def littleEndianBytes (n : BitVec 16) : List UInt8 := [UInt8.ofNat n.toNat, UInt8.ofNat (n.toNat / 256)]

/-- The bytes of a number, the high byte first. -/
def bigEndianBytes (n : BitVec 16) : List UInt8 := [UInt8.ofNat (n.toNat / 256), UInt8.ofNat n.toNat]

/-- The four bytes of a number, the lowest byte first. -/
def littleEndianBytes32 (n : BitVec 32) : List UInt8 :=
  littleEndianBytes (n.extractLsb' 0 16) ++ littleEndianBytes (n.extractLsb' 16 16)

section

variable {m m' : Nat → UInt8} {a b i n : Nat} {l l' : List UInt8}

theorem write_of_not_mem (h : i < a ∨ a + l.length ≤ i) : write m a l i = m i := by
  unfold write
  rw [if_neg (by omega)]

theorem write_of_mem (h₁ : a ≤ i) (h₂ : i < a + l.length) : write m a l i = l.getD (i - a) 0 := by
  unfold write
  rw [if_pos ⟨h₁, h₂⟩]

@[simp] theorem write_nil (m : Nat → UInt8) (a : Nat) : write m a [] = m := by
  funext i
  exact write_of_not_mem (by simp; omega)

/-- The bytes stored last are read. -/
theorem slice_write_self (m : Nat → UInt8) (a : Nat) (l : List UInt8) : Slice.slice (write m a l) a l.length = l := by
  refine List.ext_getElem (by simp) fun k hk hk' => ?_
  rw [Slice.getElem_slice]
  show write m a l (a + k) = l[k]
  rw [write_of_mem (by omega) (by omega), show a + k - a = k by omega, List.getD_eq_getElem _ _ hk']

/-- Bytes apart from those stored stay. -/
theorem slice_write_of_disjoint (h : b + n ≤ a ∨ a + l.length ≤ b) :
    Slice.slice (write m a l) b n = Slice.slice m b n :=
  Slice.slice_congr fun k hk => write_of_not_mem (by
    show b + k < a ∨ a + l.length ≤ b + k
    omega)

/-- Storing again the bytes that were there. -/
theorem write_slice (m : Nat → UInt8) (a n : Nat) : write m a (Slice.slice m a n) = m := by
  funext i
  by_cases h : a ≤ i ∧ i < a + n
  · rw [write_of_mem h.1 (by simpa using h.2), List.getD_eq_getElem _ _ (by simp; omega), Slice.getElem_slice]
    show m (a + (i - a)) = m i
    rw [Nat.add_sub_cancel' h.1]
  · exact write_of_not_mem (by simp; omega)

/-- Only the later bytes stored at a place count. -/
theorem write_write_same (h : l.length = l'.length) : write (write m a l) a l' = write m a l' := by
  funext i
  by_cases hi : a ≤ i ∧ i < a + l'.length
  · rw [write_of_mem hi.1 hi.2, write_of_mem hi.1 hi.2]
  · rw [write_of_not_mem (by omega), write_of_not_mem (by omega), write_of_not_mem (by omega)]

/-- Storing two pieces one behind the other. -/
theorem write_append (m : Nat → UInt8) (a : Nat) (l l' : List UInt8) :
    write m a (l ++ l') = write (write m a l) (a + l.length) l' := by
  funext i
  by_cases h : a ≤ i ∧ i < a + (l ++ l').length
  · rw [write_of_mem h.1 h.2]
    rw [List.length_append] at h
    by_cases hl : i < a + l.length
    · rw [write_of_not_mem (.inl hl), write_of_mem h.1 hl, List.getD_append _ _ _ _ (by omega)]
    · rw [write_of_mem (by omega) (by omega), List.getD_append_right _ _ _ _ (by omega), Nat.sub_add_eq]
  · rw [List.length_append] at h
    rw [write_of_not_mem (by rw [List.length_append]; omega), write_of_not_mem (by omega), write_of_not_mem (by omega)]

theorem littleEndian_toNat (m : Nat → UInt8) (a : Nat) :
    (littleEndian m a).toNat = (m a).toNat + 256 * (m (a + 1)).toNat := by
  have h₁ := (m a).toNat_lt
  have h₂ := (m (a + 1)).toNat_lt
  unfold littleEndian
  rw [BitVec.toNat_ofNat, Nat.mod_eq_of_lt (by omega)]

theorem bigEndian_toNat (m : Nat → UInt8) (a : Nat) :
    (bigEndian m a).toNat = 256 * (m a).toNat + (m (a + 1)).toNat := by
  have h₁ := (m a).toNat_lt
  have h₂ := (m (a + 1)).toNat_lt
  unfold bigEndian
  rw [BitVec.toNat_ofNat, Nat.mod_eq_of_lt (by omega)]

theorem littleEndian_congr (h₁ : m a = m' b) (h₂ : m (a + 1) = m' (b + 1)) :
    littleEndian m a = littleEndian m' b := by
  unfold littleEndian
  rw [h₁, h₂]

theorem bigEndian_congr (h₁ : m a = m' b) (h₂ : m (a + 1) = m' (b + 1)) : bigEndian m a = bigEndian m' b := by
  unfold bigEndian
  rw [h₁, h₂]

theorem littleEndian_inj : littleEndian m a = littleEndian m' b ↔ m a = m' b ∧ m (a + 1) = m' (b + 1) := by
  constructor
  · intro h
    have h := congrArg BitVec.toNat h
    rw [littleEndian_toNat, littleEndian_toNat] at h
    have h₁ := (m a).toNat_lt
    have h₂ := (m' b).toNat_lt
    exact ⟨UInt8.toNat_inj.1 (by omega), UInt8.toNat_inj.1 (by omega)⟩
  · exact fun h => littleEndian_congr h.1 h.2

theorem bigEndian_inj : bigEndian m a = bigEndian m' b ↔ m a = m' b ∧ m (a + 1) = m' (b + 1) := by
  constructor
  · intro h
    have h := congrArg BitVec.toNat h
    rw [bigEndian_toNat, bigEndian_toNat] at h
    have h₁ := (m (a + 1)).toNat_lt
    have h₂ := (m' (b + 1)).toNat_lt
    exact ⟨UInt8.toNat_inj.1 (by omega), UInt8.toNat_inj.1 (by omega)⟩
  · exact fun h => bigEndian_congr h.1 h.2

@[simp] theorem length_littleEndianBytes (n : BitVec 16) : (littleEndianBytes n).length = 2 := rfl

@[simp] theorem length_bigEndianBytes (n : BitVec 16) : (bigEndianBytes n).length = 2 := rfl

theorem write_littleEndian_twice (m : Nat → UInt8) (a : Nat) (n n' : BitVec 16) :
    write (write m a (littleEndianBytes n)) a (littleEndianBytes n') = write m a (littleEndianBytes n') :=
  write_write_same (by simp)

/-- A number stored is read. -/
theorem littleEndian_write (m : Nat → UInt8) (a : Nat) (n : BitVec 16) :
    littleEndian (write m a (littleEndianBytes n)) a = n := by
  apply BitVec.eq_of_toNat_eq
  have hlt := n.isLt
  rw [littleEndian_toNat, write_of_mem (by omega) (by simp), write_of_mem (by omega) (by simp), Nat.sub_self,
    Nat.add_sub_cancel_left]
  simp only [littleEndianBytes, List.getD_cons_zero, List.getD_cons_succ, UInt8.toNat_ofNat']
  omega

theorem bigEndian_write (m : Nat → UInt8) (a : Nat) (n : BitVec 16) :
    bigEndian (write m a (bigEndianBytes n)) a = n := by
  apply BitVec.eq_of_toNat_eq
  have hlt := n.isLt
  rw [bigEndian_toNat, write_of_mem (by omega) (by simp), write_of_mem (by omega) (by simp), Nat.sub_self,
    Nat.add_sub_cancel_left]
  simp only [bigEndianBytes, List.getD_cons_zero, List.getD_cons_succ, UInt8.toNat_ofNat']
  omega

@[simp] theorem length_littleEndianBytes32 (n : BitVec 32) : (littleEndianBytes32 n).length = 4 := rfl

theorem littleEndian32_congr (h : ∀ k < 4, m (a + k) = m' (b + k)) : littleEndian32 m a = littleEndian32 m' b := by
  have hlow : littleEndian m a = littleEndian m' b := littleEndian_congr (h 0 (by omega)) (h 1 (by omega))
  have hhigh : littleEndian m (a + 2) = littleEndian m' (b + 2) :=
    littleEndian_congr (h 2 (by omega)) (h 3 (by omega))
  unfold littleEndian32
  rw [hlow, hhigh]

theorem littleEndian32_write (m : Nat → UInt8) (a : Nat) (n : BitVec 32) :
    littleEndian32 (write m a (littleEndianBytes32 n)) a = n := by
  unfold littleEndian32 littleEndianBytes32
  rw [write_append, length_littleEndianBytes, littleEndian_write]
  have hlow : littleEndian (write (write m a (littleEndianBytes (n.extractLsb' 0 16))) (a + 2)
      (littleEndianBytes (n.extractLsb' 16 16))) a = n.extractLsb' 0 16 := by
    refine (littleEndian_congr ?_ ?_).trans (littleEndian_write m a _)
    · exact write_of_not_mem (by omega)
    · exact write_of_not_mem (by omega)
  rw [hlow]
  apply BitVec.eq_of_toNat_eq
  have hlt := n.isLt
  rw [BitVec.toNat_append, BitVec.extractLsb'_toNat, BitVec.extractLsb'_toNat, Nat.shiftRight_eq_div_pow,
    Nat.shiftRight_eq_div_pow, ← Nat.shiftLeft_add_eq_or_of_lt (Nat.mod_lt _ (by omega)), Nat.shiftLeft_eq]
  omega

/-- A number is stored as the bytes it is read from. -/
theorem littleEndianBytes_eq (m : Nat → UInt8) (a : Nat) :
    littleEndianBytes (littleEndian m a) = Slice.slice m a 2 := by
  have h₁ := (m a).toNat_lt
  have h₂ := (m (a + 1)).toNat_lt
  have hslice : Slice.slice m a 2 = [m a, m (a + 1)] := rfl
  rw [hslice]
  unfold littleEndianBytes
  rw [littleEndian_toNat]
  congr 1
  · apply UInt8.toNat_inj.1
    rw [UInt8.toNat_ofNat']
    omega
  · congr 1
    apply UInt8.toNat_inj.1
    rw [UInt8.toNat_ofNat']
    omega

end

end ByteMemory
