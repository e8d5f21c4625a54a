/-!
# Outcomes that are alike

Two computations of one kind are compared by how they end. They may succeed with results that agree
where it matters, or fail with errors that do.

## Main Definitions

* `EndsAlike` — related results, or related failures
-/

namespace RuntimeLauncher

variable {ε α : Type}

/-- Two computations end alike: both fail, with related errors, or both succeed, with related
results. -/
inductive EndsAlike (R : ε → ε → Prop) (S : α → α → Prop) : Except ε α → Except ε α → Prop where
  | error {e e' : ε} (h : R e e') : EndsAlike R S (.error e) (.error e')
  | ok {a a' : α} (h : S a a') : EndsAlike R S (.ok a) (.ok a')

namespace EndsAlike

variable {R : ε → ε → Prop} {S : α → α → Prop} {outcome : Except ε α}

theorem exists_error {e : ε} (h : EndsAlike R S (.error e) outcome) :
    ∃ e', outcome = .error e' ∧ R e e' := by
  cases h with
  | error h => exact ⟨_, rfl, h⟩

theorem exists_ok {a : α} (h : EndsAlike R S (.ok a) outcome) :
    ∃ a', outcome = .ok a' ∧ S a a' := by
  cases h with
  | ok h => exact ⟨_, rfl, h⟩

/-- The same result is found on both sides. -/
theorem eq_ok {a : α} (h : EndsAlike R (· = ·) (.ok a) outcome) : outcome = .ok a := by
  obtain ⟨a', houtcome, rfl⟩ := h.exists_ok
  exact houtcome

end EndsAlike

end RuntimeLauncher
