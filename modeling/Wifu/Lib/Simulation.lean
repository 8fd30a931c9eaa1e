import Wifu.Lib.Transition
import Mathlib.Data.List.Basic

/-!
# Runs of one machine as runs of another

Each input of the first machine is translated to an input of the second one, or to none when the second machine does not
move.  When a relation between the states is kept by the steps, every run of the first machine is, translated, a run of the
second one.
-/

namespace Transition

namespace Machine

variable {σ τ ι κ ε δ : Type} {M : Machine σ ι ε} {N : Machine τ κ δ} {P : σ → ι → Prop}

/-- What the second machine does when the first one makes a step to `s`. -/
def Follows (N : Machine τ κ δ) (R : σ → τ → Prop) (t : τ) (s : σ) : Option κ → Prop
  | none => R s t
  | some k => ∃ u, N.enabled k t ∧ N.step k t = .ok u ∧ R s u

/-- Every run is followed by a run along the translated inputs. -/
theorem Run.simulate {R : σ → τ → Prop} (translate : ι → Option κ)
    (hstep : ∀ s t i s', R s t → M.enabled i s → P s i → M.step i s = .ok s' → N.Follows R t s' (translate i))
    {s s' : σ} {t : τ} {is : List ι} (h : M.Run P s is s') (h0 : R s t) :
    ∃ t', N.Run anyStep t (is.filterMap translate) t' ∧ R s' t' := by
  induction h with
  | nil => exact ⟨t, .nil, h0⟩
  | @snoc is u v i _ he hp hs ih =>
    obtain ⟨t', hrun, hR⟩ := ih
    have hfollows := hstep u t' i v hR he hp hs
    rw [List.filterMap_append]
    cases hi : translate i with
    | none =>
      rw [hi] at hfollows
      refine ⟨t', ?_, hfollows⟩
      rw [List.filterMap_cons_none hi, List.filterMap_nil, List.append_nil]
      exact hrun
    | some k =>
      rw [hi] at hfollows
      obtain ⟨w, hk, hw, hR⟩ := hfollows
      refine ⟨w, ?_, hR⟩
      rw [List.filterMap_cons_some hi, List.filterMap_nil]
      exact .snoc hrun hk trivial hw

end Machine

end Transition
