import Mathlib.Order.Interval.Finset.Basic
import Mathlib.Data.Finset.Card
import Mathlib.Data.Finset.Lattice.Lemmas
import Mathlib.Data.Finset.SDiff

/-!
# Points covered by a sorted list of intervals

Half-open intervals over a linear order, as pairs of ends.  `cover s l` is the set of points from `s` on that lie in
an interval of `l`; `walk s l` counts in one pass, without looking back.  On a list sorted by left ends the pass
counts the covered points (`walk_eq_card`), and an interval that is put in adds its points that were not covered
(`card_cover_put`).
-/

namespace Intervals

variable {α : Type} [LinearOrder α] [LocallyFiniteOrder α]

/-- The points from `s` on in an interval of the list. -/
def cover (s : α) : List (α × α) → Finset α
  | [] => ∅
  | p :: l => Finset.Ico (max s p.1) p.2 ∪ cover s l

/-- One pass that counts the points from `s` on, each interval from where the one before it ended. -/
def walk : α → List (α × α) → Nat
  | _, [] => 0
  | s, p :: l => if p.2 ≤ s then walk s l else (Finset.Ico (max s p.1) p.2).card + walk p.2 l

theorem mem_cover {s k : α} {l : List (α × α)} : k ∈ cover s l ↔ s ≤ k ∧ ∃ p ∈ l, p.1 ≤ k ∧ k < p.2 := by
  induction l with
  | nil => simp [cover]
  | cons p l ih =>
    simp only [cover, Finset.mem_union, Finset.mem_Ico, max_le_iff, ih, List.mem_cons, exists_eq_or_imp]
    tauto

/-- What an interval that begins first does not cover begins behind it. -/
theorem cover_cons {s : α} {p : α × α} {l : List (α × α)} (hp : ∀ q ∈ l, p.1 ≤ q.1) (hs : s < p.2) :
    cover s (p :: l) = Finset.Ico (max s p.1) p.2 ∪ cover p.2 l := by
  ext k
  simp only [cover, Finset.mem_union, Finset.mem_Ico, mem_cover, max_le_iff]
  constructor
  · rintro (h | ⟨hk, q, hq, h1, h2⟩)
    · exact .inl h
    · rcases lt_or_ge k p.2 with hlt | hge
      · exact .inl ⟨⟨hk, (hp q hq).trans h1⟩, hlt⟩
      · exact .inr ⟨hge, q, hq, h1, h2⟩
  · rintro (h | ⟨hk, h⟩)
    · exact .inl h
    · exact .inr ⟨hs.le.trans hk, h⟩

/-- The pass over a sorted list counts the covered points. -/
theorem walk_eq_card {l : List (α × α)} (hl : l.Pairwise fun p q => p.1 ≤ q.1) (s : α) :
    walk s l = (cover s l).card := by
  induction l generalizing s with
  | nil => rfl
  | cons p l ih =>
    obtain ⟨hp, hl⟩ := List.pairwise_cons.1 hl
    unfold walk
    split
    · rename_i hps
      have hempty : Finset.Ico (max s p.1) p.2 = ∅ := Finset.Ico_eq_empty (not_lt.2 (hps.trans (le_max_left _ _)))
      rw [ih hl, cover, hempty, Finset.empty_union]
    · rename_i hps
      rw [ih hl, cover_cons hp (not_le.1 hps), Finset.card_union_of_disjoint]
      rw [Finset.disjoint_left]
      intro k hk hk'
      exact absurd (Finset.mem_Ico.1 hk).2 (not_lt.2 (mem_cover.1 hk').1)

/-- An interval put in a list adds its points that were not covered. -/
theorem card_cover_put {s : α} {p : α × α} {l l' : List (α × α)}
    (h : ∀ k, (∃ q ∈ l', q.1 ≤ k ∧ k < q.2) ↔ (∃ q ∈ l, q.1 ≤ k ∧ k < q.2) ∨ (p.1 ≤ k ∧ k < p.2)) :
    (cover s l').card = (cover s l).card + (Finset.Ico (max s p.1) p.2 \ cover s l).card := by
  have hunion : cover s l' = cover s l ∪ (Finset.Ico (max s p.1) p.2 \ cover s l) := by
    ext k
    rw [Finset.union_sdiff_self_eq_union, Finset.mem_union, mem_cover, mem_cover, h, Finset.mem_Ico, max_le_iff,
      and_or_left, and_assoc]
  rw [hunion, Finset.card_union_of_disjoint Finset.disjoint_sdiff]

end Intervals
