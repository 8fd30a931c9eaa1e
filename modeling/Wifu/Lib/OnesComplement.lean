import Mathlib.Data.Nat.ModEq
import Mathlib.Data.List.Basic
import Mathlib.Algebra.BigOperators.Group.List.Basic

/-!
# One's-complement sums

Words of `w` bits are added with an end-around carry: a carry out of the top is added at the bottom.  Up to the two
representations of zero this is addition modulo `2 ^ w - 1`; the sum is zero only when all words are.
-/

namespace OnesComplement

/-- A carry out of the low `w` bits is added at the bottom. -/
def carry (w n : Nat) : Nat := n % 2 ^ w + n / 2 ^ w

/-- The one's-complement sum of two words. -/
def add {w : Nat} (a b : BitVec w) : BitVec w := BitVec.ofNat w (carry w (a.toNat + b.toNat))

/-- The one's-complement sum of some words. -/
def sum {w : Nat} (l : List (BitVec w)) : BitVec w := l.foldl add 0

/-- The one's complement of the sum. -/
def checksum {w : Nat} (l : List (BitVec w)) : BitVec w := ~~~sum l

/-- The sum of the words as natural numbers. -/
def total {w : Nat} (l : List (BitVec w)) : Nat := (l.map BitVec.toNat).sum

@[simp] theorem total_nil {w : Nat} : total ([] : List (BitVec w)) = 0 := rfl

@[simp] theorem total_cons {w : Nat} (a : BitVec w) (l : List (BitVec w)) : total (a :: l) = a.toNat + total l := by
  simp [total]

theorem total_append {w : Nat} (l l' : List (BitVec w)) : total (l ++ l') = total l + total l' := by
  simp [total]

/-! ### Representatives -/

/-- `r` stands for `n`: it is the same number modulo `2 ^ w - 1`, and zero only when `n` is. -/
structure Represents (w r n : Nat) : Prop where
  modEq : r ≡ n [MOD 2 ^ w - 1]
  zero : r = 0 ↔ n = 0

variable {w : Nat}

theorem Represents.refl (w n : Nat) : Represents w n n := ⟨rfl, Iff.rfl⟩

theorem Represents.trans {a b c : Nat} (h₁ : Represents w a b) (h₂ : Represents w b c) : Represents w a c :=
  ⟨h₁.modEq.trans h₂.modEq, h₁.zero.trans h₂.zero⟩

theorem Represents.add_right {a b : Nat} (h : Represents w a b) (n : Nat) : Represents w (a + n) (b + n) := by
  refine ⟨h.modEq.add_right n, ?_⟩
  have := h.zero
  omega

theorem represents_carry (w n : Nat) : Represents w (carry w n) n := by
  have hpos : 0 < 2 ^ w := Nat.two_pow_pos w
  have hdiv := Nat.div_add_mod n (2 ^ w)
  constructor
  · have hn : n = carry w n + (2 ^ w - 1) * (n / 2 ^ w) := by
      have hsplit : 2 ^ w * (n / 2 ^ w) = (2 ^ w - 1) * (n / 2 ^ w) + n / 2 ^ w := by
        rw [Nat.sub_mul, Nat.one_mul]
        have : n / 2 ^ w ≤ 2 ^ w * (n / 2 ^ w) := Nat.le_mul_of_pos_left _ hpos
        omega
      unfold carry
      omega
    conv_rhs => rw [hn]
    exact (Nat.add_mul_mod_self_left _ _ _).symm
  · unfold carry
    constructor
    · intro h
      obtain ⟨hmod, hquot⟩ := Nat.add_eq_zero_iff.1 h
      rw [hmod, hquot] at hdiv
      omega
    · rintro rfl
      simp

/-- A word has at most one value that stands for a number. -/
theorem Represents.unique {a b n : Nat} (ha : Represents w a n) (hb : Represents w b n) (hla : a < 2 ^ w)
    (hlb : b < 2 ^ w) : a = b := by
  have hmod : a ≡ b [MOD 2 ^ w - 1] := ha.modEq.trans hb.modEq.symm
  have hzero : a = 0 ↔ b = 0 := ha.zero.trans hb.zero.symm
  by_cases hab : a = b
  · exact hab
  -- two different values differ by `2 ^ w - 1`, so one of them is zero
  rcases Nat.lt_or_gt_of_ne hab with hlt | hlt
  · have hdvd := (Nat.modEq_iff_dvd' hlt.le).1 hmod
    have := Nat.le_of_dvd (by omega) hdvd
    omega
  · have hdvd := (Nat.modEq_iff_dvd' hlt.le).1 hmod.symm
    have := Nat.le_of_dvd (by omega) hdvd
    omega

/-! ### Sums -/

theorem carry_lt {a b : Nat} (ha : a < 2 ^ w) (hb : b < 2 ^ w) : carry w (a + b) < 2 ^ w := by
  have hdiv := Nat.div_add_mod (a + b) (2 ^ w)
  have hle : (a + b) / 2 ^ w ≤ 1 := by
    rw [← Nat.lt_succ_iff, Nat.div_lt_iff_lt_mul (Nat.two_pow_pos w)]
    omega
  have hmod := Nat.mod_lt (a + b) (Nat.two_pow_pos w)
  unfold carry
  rcases Nat.le_one_iff_eq_zero_or_eq_one.1 hle with h | h
  · rw [h]
    omega
  · rw [h] at hdiv ⊢
    omega

theorem represents_add (a b : BitVec w) : Represents w (add a b).toNat (a.toNat + b.toNat) := by
  have hlt := carry_lt a.isLt b.isLt
  have hnat : (add a b).toNat = carry w (a.toNat + b.toNat) := by
    unfold add
    rw [BitVec.toNat_ofNat, Nat.mod_eq_of_lt hlt]
  rw [hnat]
  exact represents_carry w _

theorem represents_foldl (l : List (BitVec w)) (a : BitVec w) :
    Represents w (l.foldl add a).toNat (a.toNat + total l) := by
  induction l generalizing a with
  | nil => exact .refl w _
  | cons b l ih =>
    rw [List.foldl_cons, total_cons, ← Nat.add_assoc]
    exact (ih (add a b)).trans ((represents_add a b).add_right _)

/-- The one's-complement sum stands for the sum. -/
theorem represents_sum (l : List (BitVec w)) : Represents w (sum l).toNat (total l) := by
  have h := represents_foldl l 0
  have hzero : (0 : BitVec w).toNat = 0 := BitVec.toNat_zero
  rw [hzero, Nat.zero_add] at h
  exact h

/-- Checksums tell sums apart that differ modulo `2 ^ w - 1`. -/
theorem checksum_ne {l l' : List (BitVec w)} (h : ¬total l ≡ total l' [MOD 2 ^ w - 1]) : checksum l ≠ checksum l' := by
  intro heq
  have hsum : sum l = sum l' := by
    have := congrArg (~~~·) heq
    simpa [checksum] using this
  refine h ((represents_sum l).modEq.symm.trans ?_)
  rw [hsum]
  exact (represents_sum l').modEq

/-- A checksum is what its sum is short of all ones. -/
theorem toNat_checksum (l : List (BitVec w)) : (checksum l).toNat + (sum l).toNat = 2 ^ w - 1 := by
  have hlt := (sum l).isLt
  unfold checksum
  rw [BitVec.toNat_not]
  omega

/-- The checksum is zero for the words whose sum is a positive multiple of `2 ^ w - 1`. -/
theorem checksum_eq_zero_iff (hw : 0 < w) {l : List (BitVec w)} :
    checksum l = 0 ↔ total l ≡ 0 [MOD 2 ^ w - 1] ∧ total l ≠ 0 := by
  have hpow : 1 < 2 ^ w := Nat.one_lt_two_pow hw.ne'
  have hsum := toNat_checksum l
  have hrep := represents_sum l
  have hall : checksum l = 0 ↔ (sum l).toNat = 2 ^ w - 1 := by
    have hzero : (0 : BitVec w).toNat = 0 := BitVec.toNat_zero
    rw [← BitVec.toNat_inj, hzero]
    omega
  have hself : 2 ^ w - 1 ≡ 0 [MOD 2 ^ w - 1] := Nat.mod_self _
  rw [hall]
  constructor
  · intro h
    rw [h] at hrep
    refine ⟨hrep.modEq.symm.trans hself, fun hzero => ?_⟩
    have := hrep.zero.2 hzero
    omega
  · rintro ⟨hmod, hne⟩
    refine hrep.unique ⟨hself.trans hmod.symm, ?_⟩ (sum l).isLt (by omega)
    exact iff_of_false (by omega) hne

end OnesComplement
