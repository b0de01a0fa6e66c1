import Mathlib.Tactic.Common

/-!
# Results

How computations that may fail end that go on with the result of others, or tell their faults in
another way.

* `pure_eq_ok_iff`, `throw_eq_error_iff`: computations that end at once;
* `bind_eq_ok_iff`, `bind_eq_error_iff`: one computation behind another;
* `mapError_eq_ok_iff`, `mapError_eq_error_iff`: a fault told in another way.
-/

namespace TablePackage.Results

variable {ε ε' α β : Type} {x : Except ε α} {a b : α} {e : ε}

theorem pure_eq_ok_iff : (pure a : Except ε α) = .ok b ↔ b = a := by
  simp [pure, Except.pure, eq_comm]

theorem throw_eq_error_iff {d : ε} : (throw d : Except ε α) = .error e ↔ d = e := by
  simp [throw, throwThe, MonadExceptOf.throw]

@[simp] theorem pure_ne_error : (pure a : Except ε α) ≠ .error e := fun h => nomatch h

@[simp] theorem throw_ne_ok : (throw e : Except ε α) ≠ .ok a := fun h => nomatch h

theorem bind_eq_ok_iff {next : α → Except ε β} {b : β} :
    x >>= next = .ok b ↔ ∃ a, x = .ok a ∧ next a = .ok b := by
  cases x <;> simp [bind, Except.bind]

/-- The first computation fails, or the one behind it. -/
theorem bind_eq_error_iff {next : α → Except ε β} :
    x >>= next = .error e ↔ x = .error e ∨ ∃ a, x = .ok a ∧ next a = .error e := by
  cases x <;> simp [bind, Except.bind]

theorem mapError_eq_ok_iff {f : ε → ε'} : x.mapError f = .ok a ↔ x = .ok a := by
  cases x <;> simp [Except.mapError]

theorem mapError_eq_error_iff {f : ε → ε'} {e' : ε'} :
    x.mapError f = .error e' ↔ ∃ e, x = .error e ∧ f e = e' := by
  cases x <;> simp [Except.mapError]

end TablePackage.Results
