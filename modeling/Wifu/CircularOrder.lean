import Wifu.Math

/-!
# `less_than` as an order on the circle (`Math.cc`)

`less_than` compares forward distances (`lessThan_iff_dist`): `a` is less than `b` when `b` is in the half of the
circle in front of `a`.  Two numbers exactly half the circle apart are each in front of the other, and there the
greater unsigned number is the lesser one.  So

* of two different numbers exactly one is less than the other (`lessThan_trichotomy`);
* turning the circle keeps the comparison, except at half the circle (`lessThan_add_right`);
* on a window shorter than half the circle the comparison is that of the distances from the window's start
  (`lessThan_of_window`), so it is transitive there (`lessThan_trans`) though it is not on the whole circle.
-/

namespace Wifu

/-! ### The comparison by distance -/

theorem lessThan_iff_dist {a b : BitVec 32} : lessThan a b = true ↔
    (0 < Serial.dist a b ∧ Serial.dist a b < 2147483648) ∨ (Serial.dist a b = 2147483648 ∧ b < a) := by
  have := a.isLt
  have := b.isLt
  rw [lessThan_iff, BitVec.lt_def]
  unfold Serial.dist
  rw [BitVec.toNat_sub]
  omega

/-- Of two different numbers one is less than the other. -/
theorem lessThan_total {a b : BitVec 32} (h : a ≠ b) : lessThan a b = true ∨ lessThan b a = true := by
  have := BitVec.toNat_inj.not.2 h
  rw [lessThan_iff, lessThan_iff]
  omega

/-- Exactly one of the three holds. -/
theorem lessThan_trichotomy (a b : BitVec 32) :
    (lessThan a b = true ∧ a ≠ b ∧ lessThan b a = false) ∨ (lessThan a b = false ∧ a = b ∧ lessThan b a = false) ∨
      (lessThan a b = false ∧ a ≠ b ∧ lessThan b a = true) := by
  by_cases heq : a = b
  · subst heq
    exact .inr (.inl ⟨lessThan_self a, rfl, lessThan_self a⟩)
  · rcases lessThan_total heq with h | h
    · exact .inl ⟨h, heq, lessThan_asymm h⟩
    · exact .inr (.inr ⟨lessThan_asymm h, heq, h⟩)

/-- Turning the circle keeps the comparison of numbers that are not half the circle apart. -/
theorem lessThan_add_right {a b : BitVec 32} (c : BitVec 32) (h : Serial.dist a b ≠ 2147483648) :
    lessThan (a + c) (b + c) = lessThan a b := by
  rw [Bool.eq_iff_iff, lessThan_iff_dist, lessThan_iff_dist, Serial.dist_add_right]
  simp [h]

/-! ### Windows -/

section Window

variable {n a b c : BitVec 32}

/-- On a window of less than half the circle that starts at `n` the comparison is that of the distances from `n`. -/
theorem lessThan_of_window (ha : Serial.dist n a < 2147483648) (hb : Serial.dist n b < 2147483648) :
    lessThan a b = true ↔ Serial.dist n a < Serial.dist n b := by
  have hna := Serial.add_dist n a
  have hnb := Serial.add_dist n b
  have := lessThan_add_ofInt (n := n) (x := Serial.dist n a) (y := Serial.dist n b) (by omega) (by omega)
  rwa [BitVec.ofInt_natCast, BitVec.ofInt_natCast, hna, hnb, Nat.cast_lt] at this

theorem lessThan_trans (ha : Serial.dist n a < 2147483648) (hb : Serial.dist n b < 2147483648)
    (hc : Serial.dist n c < 2147483648) (hab : lessThan a b = true) (hbc : lessThan b c = true) :
    lessThan a c = true := by
  rw [lessThan_of_window ha hb] at hab
  rw [lessThan_of_window hb hc] at hbc
  exact (lessThan_of_window ha hc).2 (hab.trans hbc)

-- three numbers that no window holds are each less than the next one
example : lessThan 0#32 0x50000000#32 = true ∧ lessThan 0x50000000#32 0xa0000000#32 = true ∧
    lessThan 0xa0000000#32 0#32 = true := by decide

end Window

/-! ### Circular intervals -/

section Intervals

variable {l x r : BitVec 32}

private theorem arc_short (ks : Set Nat) (h : Serial.dist l r < 2147483648) (hks : ∀ k ∈ ks, k ≤ Serial.dist l r) :
    x ∈ Serial.arc l ks ↔ Serial.dist l x ∈ ks :=
  Serial.mem_arc fun k hk => by have := hks k hk; omega

theorem betweenEqual_arc (h : Serial.dist l r < 2147483648) :
    betweenEqual l x r = true ↔ x ∈ Serial.arc l (Set.Icc 0 (Serial.dist l r)) := by
  rw [betweenEqual_iff h, arc_short _ h fun k hk => hk.2]
  simp

theorem betweenEqualRight_arc (h : Serial.dist l r < 2147483648) :
    betweenEqualRight l x r = true ↔ x ∈ Serial.arc l (Set.Ioc 0 (Serial.dist l r)) := by
  rw [betweenEqualRight_iff h, arc_short _ h fun k hk => hk.2, Set.mem_Ioc]

theorem betweenEqualLeft_arc (h : Serial.dist l r < 2147483648) :
    betweenEqualLeft l x r = true ↔ x ∈ Serial.arc l (Set.Ico 0 (Serial.dist l r)) := by
  rw [betweenEqualLeft_iff h, arc_short _ h fun k hk => hk.2.le]
  simp

theorem between_arc (h : Serial.dist l r < 2147483648) :
    between l x r = true ↔ x ∈ Serial.arc l (Set.Ioo 0 (Serial.dist l r)) := by
  rw [between_iff h, arc_short _ h fun k hk => hk.2.le, Set.mem_Ioo]

end Intervals

/-- The comparison is an order on the circle: trichotomy, invariance under turning, transitivity on windows, and the
four interval tests are membership in the four kinds of interval. -/
theorem circular_order (a b c n l x r : BitVec 32) :
    ((lessThan a b = true ∧ a ≠ b ∧ lessThan b a = false) ∨ (lessThan a b = false ∧ a = b ∧ lessThan b a = false) ∨
      (lessThan a b = false ∧ a ≠ b ∧ lessThan b a = true)) ∧
    (Serial.dist a b ≠ 2147483648 → lessThan (a + c) (b + c) = lessThan a b) ∧
    (Serial.dist n a < 2147483648 → Serial.dist n b < 2147483648 → Serial.dist n c < 2147483648 →
      lessThan a b = true → lessThan b c = true → lessThan a c = true) ∧
    (Serial.dist l r < 2147483648 →
      (between l x r = true ↔ x ∈ Serial.arc l (Set.Ioo 0 (Serial.dist l r))) ∧
      (betweenEqual l x r = true ↔ x ∈ Serial.arc l (Set.Icc 0 (Serial.dist l r))) ∧
      (betweenEqualLeft l x r = true ↔ x ∈ Serial.arc l (Set.Ico 0 (Serial.dist l r))) ∧
      (betweenEqualRight l x r = true ↔ x ∈ Serial.arc l (Set.Ioc 0 (Serial.dist l r)))) :=
  ⟨lessThan_trichotomy a b, lessThan_add_right c, lessThan_trans,
    fun h => ⟨between_arc h, betweenEqual_arc h, betweenEqualLeft_arc h, betweenEqualRight_arc h⟩⟩

/-- Around the end of the number space: `2^32 - 2 < 1 < 5`, and `1` lies between the other two. -/
theorem circular_order_wrap :
    lessThan (4294967294#32 + 7) (1#32 + 7) = lessThan 4294967294#32 1#32 ∧ lessThan 4294967294#32 5#32 = true ∧
      1#32 ∈ Serial.arc 4294967294#32 (Set.Ioo 0 (Serial.dist 4294967294#32 5#32)) := by
  obtain ⟨-, hturn, htrans, hmem⟩ := circular_order 4294967294#32 1#32 5#32 4294967294#32 4294967294#32 1#32 5#32
  refine ⟨?_, htrans (by decide) (by decide) (by decide) (by decide) (by decide), (hmem (by decide)).1.1 (by decide)⟩
  exact (circular_order 4294967294#32 1#32 7#32 0#32 0#32 0#32 0#32).2.1 (by decide)

end Wifu
