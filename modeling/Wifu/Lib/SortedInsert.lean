import Mathlib.Data.List.InsertIdx
import Mathlib.Data.List.Perm.Basic
import Wifu.Lib.LowerBound

/-!
# Insertion into a list sorted by a strict weak order

`insertUpper lt a l` puts `a` behind every entry that does not come after it, where a halving search finds the place.
The entries stay sorted when `lt` is a strict weak order.
-/

namespace Search

variable {α : Type}

/-- The entries come in the order of `lt`. -/
def SortedBy (lt : α → α → Bool) (l : List α) : Prop := l.Pairwise fun x y => lt y x = false

/-- The position behind the entries that do not come after `a`. -/
def upperBound (lt : α → α → Bool) (a : α) (l : List α) : Nat := lowerBound (fun x => !lt a x) l

/-- The list with `a` put in at its upper bound. -/
def insertUpper (lt : α → α → Bool) (a : α) (l : List α) : List α := l.insertIdx (upperBound lt a l) a

/-- A strict weak order. -/
structure StrictWeak (lt : α → α → Bool) : Prop where
  asymm : ∀ a b, lt a b = true → lt b a = false
  cotrans : ∀ a b c, lt a c = true → lt a b = true ∨ lt b c = true

theorem StrictWeak.irrefl {lt : α → α → Bool} (h : StrictWeak lt) (a : α) : lt a a = false := by
  by_contra hlt
  have hlt : lt a a = true := by simpa using hlt
  rw [h.asymm a a hlt] at hlt
  cases hlt

theorem insertUpper_perm (lt : α → α → Bool) (a : α) (l : List α) : (insertUpper lt a l).Perm (a :: l) :=
  List.perm_insertIdx a l (lowerBound_le _ l)

theorem mem_insertUpper {lt : α → α → Bool} {a x : α} {l : List α} : x ∈ insertUpper lt a l ↔ x = a ∨ x ∈ l := by
  rw [(insertUpper_perm lt a l).mem_iff, List.mem_cons]

/-- An insertion into a sorted list leaves the entries that do not come after the new one before it, the others behind. -/
theorem insertUpper_split {lt : α → α → Bool} (hlt : StrictWeak lt) (a : α) {l : List α} (h : SortedBy lt l) :
    ∃ l₁ l₂, l = l₁ ++ l₂ ∧ insertUpper lt a l = l₁ ++ a :: l₂ ∧ (∀ x ∈ l₁, lt a x = false) ∧
      ∀ y ∈ l₂, lt a y = true := by
  have hmono : l.Pairwise fun x y => (!lt a y) = true → (!lt a x) = true := by
    refine h.imp ?_
    intro x y hxy hy
    rw [Bool.not_eq_true'] at hy ⊢
    by_contra hax
    rcases hlt.cotrans a y x (by simpa using hax) with hlt' | hlt'
    · rw [hy] at hlt'
      cases hlt'
    · rw [hxy] at hlt'
      cases hlt'
  obtain ⟨hbefore, hafter⟩ := lowerBound_spec hmono
  have hlen : (l.take (upperBound lt a l)).length = upperBound lt a l := by
    rw [List.length_take]
    exact Nat.min_eq_left (lowerBound_le _ l)
  have hsplit : insertUpper lt a l = l.take (upperBound lt a l) ++ a :: l.drop (upperBound lt a l) := by
    have hinsert := insertIdx_append (l.take (upperBound lt a l)) (l.drop (upperBound lt a l)) a
    rw [List.take_append_drop, hlen] at hinsert
    exact hinsert
  refine ⟨_, _, (List.take_append_drop _ l).symm, hsplit, fun x hx => ?_, fun y hy => ?_⟩
  · have hx := hbefore x hx
    simpa using hx
  · have hy := hafter y hy
    simpa using hy

theorem sortedBy_insertUpper {lt : α → α → Bool} (hlt : StrictWeak lt) {a : α} {l : List α} (h : SortedBy lt l) :
    SortedBy lt (insertUpper lt a l) := by
  obtain ⟨l₁, l₂, rfl, hsplit, hbefore, hafter⟩ := insertUpper_split hlt a h
  obtain ⟨h₁, h₂, h₃⟩ := List.pairwise_append.1 h
  rw [hsplit]
  refine List.pairwise_append.2 ⟨h₁, List.pairwise_cons.2 ⟨fun y hy => hlt.asymm a y (hafter y hy), h₂⟩, ?_⟩
  intro x hx y hy
  rcases List.mem_cons.1 hy with rfl | hy
  · exact hbefore x hx
  · exact h₃ x hx y hy

/-- Neither comes before the other. -/
def equivalent (lt : α → α → Bool) (x y : α) : Bool := !lt x y && !lt y x

theorem equivalent_iff {lt : α → α → Bool} {x y : α} :
    equivalent lt x y = true ↔ lt x y = false ∧ lt y x = false := by
  simp [equivalent]

/-- The insertion is stable: among the entries equivalent to a given one the new entry comes last. -/
theorem filter_insertUpper {lt : α → α → Bool} (hlt : StrictWeak lt) (a x : α) {l : List α} (h : SortedBy lt l) :
    (insertUpper lt a l).filter (equivalent lt x) = l.filter (equivalent lt x) ++ [a].filter (equivalent lt x) := by
  obtain ⟨l₁, l₂, rfl, hsplit, -, hafter⟩ := insertUpper_split hlt a h
  rw [hsplit, List.filter_append, List.filter_append]
  by_cases hxa : equivalent lt x a = true
  · -- the entries behind `a` come after `x` too
    have hnone : l₂.filter (equivalent lt x) = [] := by
      refine List.filter_eq_nil_iff.2 fun y hy hxy => ?_
      rw [equivalent_iff] at hxa hxy
      rcases hlt.cotrans a x y (hafter y hy) with hax | hxy'
      · rw [hxa.2] at hax
        cases hax
      · rw [hxy.1] at hxy'
        cases hxy'
    simp [hxa, hnone]
  · simp [hxa]

end Search
