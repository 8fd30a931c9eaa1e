import Mathlib.Logic.Basic

/-!
# Guarded runs of a machine that can fail

A machine reads one input at a time; an input may be disabled in a state, and a step may fail instead of reaching a
new state.  `Run P s is t` is a run from `s` to `t` along the inputs `is` all of whose steps meet the condition `P`
(a condition on the state before the step and on the input).  An invariant is proved once for a step and holds along
every run (`Run.invariant`); a history variable is a machine over pairs (`observed`), whose runs are those of the
machine.
-/

namespace Transition

/-- A machine: which inputs are enabled, and the step they make. -/
structure Machine (σ ι ε : Type) where
  enabled : ι → σ → Prop
  step : ι → σ → Except ε σ

variable {σ ι ε γ : Type}

/-- A run of `M` from `s` whose steps meet the condition `P`. -/
inductive Machine.Run (M : Machine σ ι ε) (P : σ → ι → Prop) (s : σ) : List ι → σ → Prop
  | nil : Run M P s [] s
  | snoc {is : List ι} {t u : σ} {i : ι} : Run M P s is t → M.enabled i t → P t i → M.step i t = .ok u →
      Run M P s (is ++ [i]) u

/-- The condition that every step meets. -/
def anyStep : σ → ι → Prop := fun _ _ => True

instance (s : σ) (i : ι) : Decidable (anyStep s i) := .isTrue trivial

namespace Machine

variable {M : Machine σ ι ε} {P Q : σ → ι → Prop}

/-- An invariant of the steps that meet `P` holds along every run of such steps. -/
theorem Run.invariant {s t : σ} {is : List ι} (h : M.Run P s is t) (I : σ → Prop) (h0 : I s)
    (hstep : ∀ t i u, I t → M.enabled i t → P t i → M.step i t = .ok u → I u) : I t := by
  induction h with
  | nil => exact h0
  | snoc _ he hp hs ih => exact hstep _ _ _ ih he hp hs

theorem Run.mono {s t : σ} {is : List ι} (h : M.Run P s is t) (hPQ : ∀ t i, P t i → Q t i) : M.Run Q s is t := by
  induction h with
  | nil => exact .nil
  | snoc _ he hp hs ih => exact .snoc ih he (hPQ _ _ hp) hs

theorem Run.trans {s t u : σ} {is js : List ι} (h₁ : M.Run P s is t) (h₂ : M.Run P t js u) :
    M.Run P s (is ++ js) u := by
  induction h₂ with
  | nil => simpa using h₁
  | snoc _ he hp hs ih =>
    rw [← List.append_assoc]
    exact .snoc ih he hp hs

/-- The steps of a run: each is taken from a state that a run reaches, and leads to one. -/
theorem Run.forall_step {s t : σ} {is : List ι} (h : M.Run P s is t) (R : σ → ι → σ → Prop)
    (hstep : ∀ js t i u, M.Run P s js t → M.enabled i t → P t i → M.step i t = .ok u → R t i u) :
    ∀ js i ks, is = js ++ i :: ks → ∃ t u, M.Run P s js t ∧ M.step i t = .ok u ∧ R t i u := by
  induction h with
  | nil =>
    intro js i ks he
    simp at he
  | @snoc is t u i hr hen hp hs ih =>
    intro js j ks he
    rcases List.eq_nil_or_concat ks with rfl | ⟨ks', k, rfl⟩
    · obtain ⟨rfl, hi⟩ := List.append_inj' he rfl
      cases hi
      exact ⟨t, u, hr, hs, hstep _ _ _ _ hr hen hp hs⟩
    · rw [List.concat_eq_append, ← List.cons_append, ← List.append_assoc] at he
      obtain ⟨he, -⟩ := List.append_inj' he rfl
      exact ih js j ks' he

/-! ### Replaying a list of inputs -/

section Replay

variable (M : Machine σ ι ε) (P : σ → ι → Prop) [∀ i s, Decidable (M.enabled i s)] [∀ s i, Decidable (P s i)]

/-- The state that a list of inputs leads to, when each of them is enabled and meets the condition and no step
fails. -/
def replay : List ι → σ → Option σ
  | [], s => some s
  | i :: is, s =>
    if M.enabled i s ∧ P s i then
      match M.step i s with
      | .ok t => replay is t
      | .error _ => none
    else none

variable {M P}

theorem Run.of_replay {s t : σ} {is : List ι} (h : M.replay P is s = some t) : M.Run P s is t := by
  induction is generalizing s with
  | nil =>
    cases h
    exact .nil
  | cons i is ih =>
    unfold replay at h
    split at h
    · rename_i hi
      split at h
      · rename_i u hu
        have hone : M.Run P s [i] u := .snoc .nil hi.1 hi.2 hu
        exact hone.trans (ih h)
      · cases h
    · cases h

/-- A replay that ends in a state with the property `q` gives a run that does. -/
theorem exists_run {s : σ} {i : List ι} {q : σ → Bool} (h : (M.replay P i s).any q = true) :
    ∃ t, M.Run P s i t ∧ q t = true := by
  cases hr : M.replay P i s with
  | none => simp [hr] at h
  | some t => exact ⟨t, .of_replay hr, by simpa [hr] using h⟩

end Replay

/-- A step succeeds and leads to a state with the property `q`. -/
def leads (M : Machine σ ι ε) (i : ι) (s : σ) (q : σ → Bool) : Bool :=
  match M.step i s with
  | .ok t => q t
  | .error _ => false

theorem leads_iff {i : ι} {s : σ} {q : σ → Bool} :
    M.leads i s q = true ↔ ∃ t, M.step i s = .ok t ∧ q t = true := by
  unfold leads
  cases h : M.step i s with
  | error e => simp
  | ok t => simp

/-- A step stops with an error that has the property `q`. -/
def stops (M : Machine σ ι ε) (i : ι) (s : σ) (q : ε → Bool) : Bool :=
  match M.step i s with
  | .ok _ => false
  | .error a => q a

theorem stops_iff {i : ι} {s : σ} {q : ε → Bool} :
    M.stops i s q = true ↔ ∃ a, M.step i s = .error a ∧ q a = true := by
  unfold stops
  cases h : M.step i s with
  | error e => simp
  | ok t => simp

/-! ### History variables -/

/-- The machine that also carries a history variable, updated by `obs` at each step. -/
def observed (M : Machine σ ι ε) (obs : σ → ι → σ → γ → γ) : Machine (σ × γ) ι ε where
  enabled i s := M.enabled i s.1
  step i s := match M.step i s.1 with
    | .ok t => .ok (t, obs s.1 i t s.2)
    | .error e => .error e

instance {obs : σ → ι → σ → γ → γ} (i : ι) (s : σ × γ) [Decidable (M.enabled i s.1)] :
    Decidable ((M.observed obs).enabled i s) :=
  inferInstanceAs (Decidable (M.enabled i s.1))

theorem observed_step {obs : σ → ι → σ → γ → γ} {i : ι} {s t : σ × γ} :
    (M.observed obs).step i s = .ok t ↔ M.step i s.1 = .ok t.1 ∧ t.2 = obs s.1 i t.1 s.2 := by
  obtain ⟨t1, t2⟩ := t
  unfold observed
  cases h : M.step i s.1 with
  | error e => simp [h]
  | ok u =>
    simp only [h, Except.ok.injEq, Prod.mk.injEq]
    constructor
    · rintro ⟨rfl, rfl⟩; exact ⟨rfl, rfl⟩
    · rintro ⟨rfl, rfl⟩; exact ⟨rfl, rfl⟩

/-- A run of the machine is a run of the observed machine. -/
theorem Run.observed {s t : σ} {is : List ι} (h : M.Run P s is t) (obs : σ → ι → σ → γ → γ) (g : γ) :
    ∃ g', (M.observed obs).Run (fun t i => P t.1 i) (s, g) is (t, g') := by
  induction h with
  | nil => exact ⟨g, .nil⟩
  | @snoc is t u i _ he hp hs ih =>
    obtain ⟨g', hr⟩ := ih
    exact ⟨obs t i u g', .snoc (i := i) hr he hp (observed_step.2 ⟨hs, rfl⟩)⟩

end Machine

end Transition
