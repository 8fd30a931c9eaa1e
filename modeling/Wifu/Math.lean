import Mathlib
import Wifu.Lib.Serial

/-!
# Circular comparisons (`Math.cc`)

`less_than` and the four interval tests built from it, on 32-bit sequence numbers.  On unwrapped numbers less than
half the sequence space apart they are the comparisons of natural numbers; an interval test whose ends are less than
half the space apart compares forward distances from the left end.
-/

namespace Wifu

/-- `INT_MAX`, half of the unsigned 32-bit space. -/
def intMax : BitVec 32 := 0x7fffffff#32

/-- `less_than` of `Math.cc`. -/
def lessThan (lhs rhs : BitVec 32) : Bool :=
  (decide (lhs < rhs) && decide (rhs - lhs ≤ intMax)) || (decide (rhs < lhs) && decide (intMax < lhs - rhs))

/-- `less_than_or_equal` of `Math.cc`. -/
def lessThanOrEqual (lhs rhs : BitVec 32) : Bool := lessThan lhs rhs || lhs == rhs

/-- `between_equal` of `Math.cc`: `left <= number <= right`. -/
def betweenEqual (left number right : BitVec 32) : Bool :=
  lessThanOrEqual left number && lessThanOrEqual number right

/-- `between_equal_right` of `Math.cc`: `left < number <= right`. -/
def betweenEqualRight (left number right : BitVec 32) : Bool :=
  lessThan left number && lessThanOrEqual number right

/-- `between_equal_left` of `Math.cc`: `left <= number < right`. -/
def betweenEqualLeft (left number right : BitVec 32) : Bool :=
  lessThanOrEqual left number && lessThan number right

/-- `between` of `Math.cc`: `left < number < right`. -/
def between (left number right : BitVec 32) : Bool := lessThan left number && lessThan number right

/-! ### Comparisons of unwrapped numbers -/

theorem lessThan_iff {a b : BitVec 32} : lessThan a b = true ↔
    (a.toNat < b.toNat ∧ b.toNat - a.toNat ≤ 2147483647) ∨ (b.toNat < a.toNat ∧ 2147483647 < a.toNat - b.toNat) := by
  unfold lessThan intMax
  simp only [Bool.or_eq_true, Bool.and_eq_true, decide_eq_true_eq, BitVec.lt_def, BitVec.le_def, BitVec.toNat_sub,
    BitVec.toNat_ofNat]
  have := a.isLt
  have := b.isLt
  omega

@[simp] theorem lessThan_self (a : BitVec 32) : lessThan a a = false := by
  rw [← Bool.not_eq_true, lessThan_iff]
  omega

theorem lessThanOrEqual_iff {a b : BitVec 32} : lessThanOrEqual a b = true ↔ lessThan a b = true ∨ a = b := by
  simp [lessThanOrEqual]

@[simp] theorem lessThanOrEqual_self (a : BitVec 32) : lessThanOrEqual a a = true := by
  simp [lessThanOrEqual]

theorem lessThan_asymm {a b : BitVec 32} (h : lessThan a b = true) : lessThan b a = false := by
  rw [← Bool.not_eq_true, lessThan_iff]
  rw [lessThan_iff] at h
  omega

theorem lessThan_ofNat {x y : Nat} (h1 : x < y + 2147483648) (h2 : y < x + 2147483648) :
    lessThan (BitVec.ofNat 32 x) (BitVec.ofNat 32 y) = true ↔ x < y := by
  rw [lessThan_iff, BitVec.toNat_ofNat, BitVec.toNat_ofNat]
  omega

theorem ofNat_eq_iff {x y : Nat} (h1 : x < y + 4294967296) (h2 : y < x + 4294967296) :
    BitVec.ofNat 32 x = BitVec.ofNat 32 y ↔ x = y :=
  ⟨fun h => Serial.unwrap_unique h h1 h2, fun h => h ▸ rfl⟩

/-! ### Comparisons of offsets -/

section Offsets

variable {n : BitVec 32} {x y : Int}

/-- Numbers at offsets less than half the space apart compare as the offsets do. -/
theorem lessThan_add_ofInt (h1 : x < y + 2147483648) (h2 : y < x + 2147483648) :
    lessThan (n + BitVec.ofInt 32 x) (n + BitVec.ofInt 32 y) = true ↔ x < y := by
  have := n.isLt
  rw [lessThan_iff, BitVec.toNat_add, BitVec.toNat_add, BitVec.toNat_ofInt, BitVec.toNat_ofInt]
  omega

theorem add_ofInt_inj (h1 : x < y + 4294967296) (h2 : y < x + 4294967296) :
    n + BitVec.ofInt 32 x = n + BitVec.ofInt 32 y ↔ x = y := by
  have := n.isLt
  rw [← BitVec.toNat_inj, BitVec.toNat_add, BitVec.toNat_add, BitVec.toNat_ofInt, BitVec.toNat_ofInt]
  omega

theorem lessThanOrEqual_add_ofInt (h1 : x < y + 2147483648) (h2 : y < x + 2147483648) :
    lessThanOrEqual (n + BitVec.ofInt 32 x) (n + BitVec.ofInt 32 y) = true ↔ x ≤ y := by
  rw [lessThanOrEqual_iff, lessThan_add_ofInt h1 h2, add_ofInt_inj (by omega) (by omega)]
  omega

theorem add_ofInt_add_ofInt : n + BitVec.ofInt 32 x + BitVec.ofInt 32 y = n + BitVec.ofInt 32 (x + y) := by
  rw [BitVec.add_assoc, BitVec.ofInt_add]

/-- Every number is at its signed distance. -/
theorem add_ofInt_toInt (m : BitVec 32) : n + BitVec.ofInt 32 (m - n).toInt = m := by
  rw [BitVec.ofInt_toInt, BitVec.add_comm, BitVec.sub_add_cancel]

theorem toInt_add_ofInt_sub (h1 : -2147483648 ≤ x) (h2 : x < 2147483648) :
    (n + BitVec.ofInt 32 x - n).toInt = x := by
  rw [BitVec.add_comm, BitVec.add_sub_cancel, BitVec.toInt_ofInt]
  exact Int.bmod_eq_of_le (by omega) (by omega)

end Offsets

/-! ### Interval tests by forward distance -/

section Intervals

variable {l n r : BitVec 32}

private theorem dist_cases (a b : BitVec 32) :
    (a.toNat ≤ b.toNat ∧ Serial.dist a b = b.toNat - a.toNat) ∨
      (b.toNat < a.toNat ∧ Serial.dist a b = b.toNat + 4294967296 - a.toNat) := by
  have := a.isLt
  have := b.isLt
  unfold Serial.dist
  rw [BitVec.toNat_sub]
  omega

/-- Closed interval from `l` to `r`. -/
theorem betweenEqual_iff (h : Serial.dist l r < 2147483648) :
    betweenEqual l n r = true ↔ Serial.dist l n ≤ Serial.dist l r := by
  unfold betweenEqual
  rw [Bool.and_eq_true, lessThanOrEqual_iff, lessThanOrEqual_iff, lessThan_iff, lessThan_iff, ← BitVec.toNat_inj,
    ← BitVec.toNat_inj]
  have := dist_cases l n
  have := dist_cases l r
  omega

/-- Interval from `l` to `r` without `l`. -/
theorem betweenEqualRight_iff (h : Serial.dist l r < 2147483648) :
    betweenEqualRight l n r = true ↔ 0 < Serial.dist l n ∧ Serial.dist l n ≤ Serial.dist l r := by
  unfold betweenEqualRight
  rw [Bool.and_eq_true, lessThanOrEqual_iff, lessThan_iff, lessThan_iff, ← BitVec.toNat_inj]
  have := dist_cases l n
  have := dist_cases l r
  omega

/-- Interval from `l` to `r` without `r`. -/
theorem betweenEqualLeft_iff (h : Serial.dist l r < 2147483648) :
    betweenEqualLeft l n r = true ↔ Serial.dist l n < Serial.dist l r := by
  unfold betweenEqualLeft
  rw [Bool.and_eq_true, lessThanOrEqual_iff, lessThan_iff, lessThan_iff, ← BitVec.toNat_inj]
  have := dist_cases l n
  have := dist_cases l r
  omega

/-- Interval from `l` to `r` without its ends. -/
theorem between_iff (h : Serial.dist l r < 2147483648) :
    between l n r = true ↔ 0 < Serial.dist l n ∧ Serial.dist l n < Serial.dist l r := by
  unfold between
  rw [Bool.and_eq_true, lessThan_iff, lessThan_iff]
  have := dist_cases l n
  have := dist_cases l r
  omega

end Intervals

end Wifu
