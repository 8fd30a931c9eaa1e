import Mathlib.Logic.Relation

/-!
# Loops that may break, throw or go on for ever

A loop is given by one run of its body: from a state it goes on with another one (`yield`), breaks (`done`), or throws.
`run body n s` runs it for at most `n` passes and is `none` when these do not suffice; more passes give the same
(`run_unique`).  What a loop throws it throws in a state that its passes lead to (`exists_throw`).  A loop with an invariant
under which every pass goes on never ends (`run_eq_none`).
-/

namespace Loop

variable {σ ε : Type} {body : σ → Except ε (ForInStep σ)} {s t u : σ}

/-- At most `n` passes: `none` if the loop has not ended by then, else the state it broke with, or what it threw. -/
def run (body : σ → Except ε (ForInStep σ)) : Nat → σ → Option (Except ε σ)
  | 0, _ => none
  | n + 1, s =>
    match body s with
    | .error e => some (.error e)
    | .ok (.done t) => some (.ok t)
    | .ok (.yield t) => run body n t

/-- Some passes lead from `s` to `t`. -/
def Reaches (body : σ → Except ε (ForInStep σ)) : σ → σ → Prop :=
  Relation.ReflTransGen fun s t => body s = .ok (.yield t)

/-- The loop breaks, with `t`. -/
def Breaks (body : σ → Except ε (ForInStep σ)) (s t : σ) : Prop := ∃ n, run body n s = some (.ok t)

theorem run_done (h : body s = .ok (.done t)) (n : Nat) : run body (n + 1) s = some (.ok t) := by
  simp [run, h]

theorem run_yield (h : body s = .ok (.yield t)) (n : Nat) : run body (n + 1) s = run body n t := by
  simp [run, h]

theorem run_throw {e : ε} (h : body s = .error e) (n : Nat) : run body (n + 1) s = some (.error e) := by
  simp [run, h]

/-- More passes do not change what the loop ends with. -/
theorem run_unique {n k : Nat} {r r' : Except ε σ} (h : run body n s = some r) (h' : run body k s = some r') :
    r = r' := by
  induction n generalizing s k with
  | zero => cases h
  | succ n ih =>
    cases k with
    | zero => cases h'
    | succ k =>
      cases hb : body s with
      | error e =>
        rw [run_throw hb] at h h'
        exact Option.some.inj (h.symm.trans h')
      | ok o =>
        cases o with
        | done t =>
          rw [run_done hb] at h h'
          exact Option.some.inj (h.symm.trans h')
        | yield t =>
          rw [run_yield hb] at h h'
          exact ih h h'

theorem Breaks.done (h : body s = .ok (.done t)) : Breaks body s t := ⟨1, run_done h 0⟩

theorem Breaks.yield (h : body s = .ok (.yield t)) (ht : Breaks body t u) : Breaks body s u := by
  obtain ⟨n, hn⟩ := ht
  exact ⟨n + 1, by rw [run_yield h, hn]⟩

theorem Breaks.unique (h : Breaks body s t) (h' : Breaks body s u) : t = u := by
  obtain ⟨n, hn⟩ := h
  obtain ⟨k, hk⟩ := h'
  exact Except.ok.inj (run_unique hn hk)

theorem Reaches.yield (h : body s = .ok (.yield t)) (ht : Reaches body t u) : Reaches body s u :=
  Relation.ReflTransGen.head h ht

/-- What passes keep holds in every state they lead to. -/
theorem Reaches.invariant (h : Reaches body s t) (I : σ → Prop) (h0 : I s)
    (hstep : ∀ s t, I s → body s = .ok (.yield t) → I t) : I t := by
  induction h with
  | refl => exact h0
  | tail _ hpass ih => exact hstep _ _ ih hpass

/-- What a loop throws is thrown in a state that its passes lead to. -/
theorem exists_throw {e : ε} {n : Nat} (h : run body n s = some (.error e)) :
    ∃ t, Reaches body s t ∧ body t = .error e := by
  induction n generalizing s with
  | zero => cases h
  | succ n ih =>
    cases hb : body s with
    | error e₁ =>
      rw [run_throw hb] at h
      cases h
      exact ⟨s, .refl, hb⟩
    | ok o =>
      cases o with
      | done t =>
        rw [run_done hb] at h
        cases h
      | yield t =>
        rw [run_yield hb] at h
        obtain ⟨u, hreach, hu⟩ := ih h
        exact ⟨u, hreach.yield hb, hu⟩

/-- A loop that cannot break or throw as long as an invariant holds runs for ever. -/
theorem run_eq_none (I : σ → Prop) (h0 : I s) (hstep : ∀ s, I s → ∃ t, body s = .ok (.yield t) ∧ I t) (n : Nat) :
    run body n s = none := by
  induction n generalizing s with
  | zero => rfl
  | succ n ih =>
    obtain ⟨t, hb, ht⟩ := hstep s h0
    rw [run_yield hb]
    exact ih ht

end Loop
