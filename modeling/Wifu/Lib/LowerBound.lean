import Mathlib.Data.List.Basic

/-!
# Binary search for a lower bound

`lowerBound p l` is the position a halving search returns for the first entry of `l` that does not satisfy `p`; it
probes the middle entry of the remaining stretch, as the library routine of the same name does.  When the entries
with `p` come first it is the length of that prefix.
-/

namespace Search

variable {α : Type}

/-- The halving loop on the stretch of length `len` from `first`; the fuel bounds the number of probes. -/
def lowerBoundLoop (p : α → Bool) (l : List α) : Nat → Nat → Nat → Nat
  | 0, first, _ => first
  | fuel + 1, first, len =>
    if len = 0 then first
    else match l[first + len / 2]? with
      | some x =>
        if p x then lowerBoundLoop p l fuel (first + len / 2 + 1) (len - len / 2 - 1)
        else lowerBoundLoop p l fuel first (len / 2)
      | none => first

/-- The lower bound of `p` in `l`. -/
def lowerBound (p : α → Bool) (l : List α) : Nat := lowerBoundLoop p l l.length 0 l.length

private theorem lowerBoundLoop_le (p : α → Bool) (l : List α) :
    ∀ fuel first len, first + len ≤ l.length → lowerBoundLoop p l fuel first len ≤ l.length := by
  intro fuel
  induction fuel with
  | zero => intro first len h; unfold lowerBoundLoop; omega
  | succ fuel ih =>
    intro first len h
    unfold lowerBoundLoop
    split
    · omega
    · split
      · split
        · exact ih _ _ (by omega)
        · exact ih _ _ (by omega)
      · omega

theorem lowerBound_le (p : α → Bool) (l : List α) : lowerBound p l ≤ l.length :=
  lowerBoundLoop_le p l _ _ _ (by omega)

private theorem lowerBoundLoop_spec {p : α → Bool} {l : List α}
    (hl : ∀ (i j : Nat) (x y : α), i ≤ j → l[i]? = some x → l[j]? = some y → p y = true → p x = true) :
    ∀ fuel first len, len ≤ fuel → first + len ≤ l.length →
    (∀ (j : Nat) (x : α), j < first → l[j]? = some x → p x = true) →
    (∀ (j : Nat) (x : α), first + len ≤ j → l[j]? = some x → p x = false) →
    (∀ (j : Nat) (x : α), j < lowerBoundLoop p l fuel first len → l[j]? = some x → p x = true) ∧
      (∀ (j : Nat) (x : α), lowerBoundLoop p l fuel first len ≤ j → l[j]? = some x → p x = false) := by
  intro fuel
  induction fuel with
  | zero =>
    intro first len hlen _ hlo hhi
    unfold lowerBoundLoop
    exact ⟨hlo, fun j x hj => hhi j x (by omega)⟩
  | succ fuel ih =>
    intro first len hlen hle hlo hhi
    unfold lowerBoundLoop
    split
    · exact ⟨hlo, fun j x hj => hhi j x (by omega)⟩
    · rw [List.getElem?_eq_getElem (show first + len / 2 < l.length by omega)]
      simp only
      have hmid := List.getElem?_eq_getElem (show first + len / 2 < l.length by omega)
      split
      · rename_i hp
        refine ih _ _ (by omega) (by omega) (fun j x hj hx => ?_) (fun j x hj hx => hhi j x (by omega) hx)
        exact hl j _ x _ (by omega) hx hmid hp
      · rename_i hp
        refine ih _ _ (by omega) (by omega) hlo (fun j x hj hx => ?_)
        rw [← Bool.not_eq_true]
        exact fun hpx => hp (hl _ j _ x (by omega) hmid hx hpx)

/-- On a list whose entries with `p` come first, `lowerBound` separates them from the others. -/
theorem lowerBound_spec {p : α → Bool} {l : List α} (hl : l.Pairwise fun x y => p y = true → p x = true) :
    (∀ x ∈ l.take (lowerBound p l), p x = true) ∧ (∀ x ∈ l.drop (lowerBound p l), p x = false) := by
  have hmono : ∀ (i j : Nat) (x y : α), i ≤ j → l[i]? = some x → l[j]? = some y → p y = true → p x = true := by
    intro i j x y hij hx hy hp
    rcases Nat.lt_or_eq_of_le hij with hlt | rfl
    · obtain ⟨hi, rfl⟩ := List.getElem?_eq_some_iff.1 hx
      obtain ⟨hj, rfl⟩ := List.getElem?_eq_some_iff.1 hy
      exact List.pairwise_iff_getElem.1 hl i j hi hj hlt hp
    · rw [hx] at hy
      cases hy
      exact hp
  have hout : ∀ (j : Nat) (x : α), 0 + l.length ≤ j → l[j]? = some x → p x = false := by
    intro j x hj hx
    rw [List.getElem?_eq_none (by omega)] at hx
    cases hx
  obtain ⟨h1, h2⟩ := lowerBoundLoop_spec hmono l.length 0 l.length (Nat.le_refl _) (by omega)
    (fun j x hj => absurd hj (Nat.not_lt_zero j)) hout
  constructor
  · intro x hx
    obtain ⟨j, hj⟩ := List.mem_iff_getElem?.1 hx
    rw [List.getElem?_take] at hj
    split at hj
    · exact h1 j x (by assumption) hj
    · cases hj
  · intro x hx
    obtain ⟨j, hj⟩ := List.mem_iff_getElem?.1 hx
    rw [List.getElem?_drop] at hj
    exact h2 _ x (Nat.le_add_right _ _) hj

/-- Insertion at the end of a prefix. -/
theorem insertIdx_append (l₁ l₂ : List α) (a : α) : (l₁ ++ l₂).insertIdx l₁.length a = l₁ ++ a :: l₂ := by
  induction l₁ with
  | nil => rfl
  | cons x l ih =>
    rw [List.cons_append, List.length_cons, List.insertIdx_succ_cons, ih]
    rfl

end Search
