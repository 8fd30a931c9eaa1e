import Mathlib.Data.List.Basic

/-!
# Text with separators

A text up to the first separator is determined by the whole text.
-/

namespace Separated

variable {α : Type}

/-- Two parts joined by a separator that the first part does not contain. -/
theorem append_cons_inj {a : α} {l₁ l₂ r₁ r₂ : List α} (h₁ : a ∉ l₁) (h₂ : a ∉ l₂) :
    l₁ ++ a :: r₁ = l₂ ++ a :: r₂ ↔ l₁ = l₂ ∧ r₁ = r₂ := by
  constructor
  · intro h
    induction l₁ generalizing l₂ with
    | nil =>
      cases l₂ with
      | nil => exact ⟨rfl, (List.cons.inj h).2⟩
      | cons b l₂ =>
        obtain ⟨rfl, -⟩ := List.cons.inj h
        exact absurd List.mem_cons_self h₂
    | cons b l₁ ih =>
      cases l₂ with
      | nil =>
        obtain ⟨rfl, -⟩ := List.cons.inj h
        exact absurd List.mem_cons_self h₁
      | cons c l₂ =>
        obtain ⟨rfl, htail⟩ := List.cons.inj h
        obtain ⟨rfl, rfl⟩ := ih (fun hb => h₁ (List.mem_cons_of_mem _ hb)) (fun hb => h₂ (List.mem_cons_of_mem _ hb)) htail
        exact ⟨rfl, rfl⟩
  · rintro ⟨rfl, rfl⟩
    rfl

/-- Two texts cut in two at different places: what lies between the cuts moves from one part to the other. -/
theorem append_eq_append {l₁ l₂ r₁ r₂ : List α} (h : l₁ ≠ l₂) : l₁ ++ r₁ = l₂ ++ r₂ ↔
    (∃ d, d ≠ [] ∧ l₂ = l₁ ++ d ∧ r₁ = d ++ r₂) ∨ ∃ d, d ≠ [] ∧ l₁ = l₂ ++ d ∧ r₂ = d ++ r₁ := by
  rw [List.append_eq_append_iff]
  have hne {l l' d : List α} (hl : l' = l ++ d) (hd : l ≠ l') : d ≠ [] := by
    rintro rfl
    exact hd (by rw [hl, List.append_nil])
  constructor
  · rintro (⟨d, hl, hr⟩ | ⟨d, hl, hr⟩)
    · exact .inl ⟨d, hne hl h, hl, hr⟩
    · exact .inr ⟨d, hne hl h.symm, hl, hr⟩
  · rintro (⟨d, -, hl, hr⟩ | ⟨d, -, hl, hr⟩)
    · exact .inl ⟨d, hl, hr⟩
    · exact .inr ⟨d, hl, hr⟩

end Separated
