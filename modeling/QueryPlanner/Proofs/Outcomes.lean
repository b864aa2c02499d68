/-!
# Outcomes of steps that may fail

A result that was mapped or passed on to a further step is a success only if the step before it
was one, and what it succeeds with depends on what that step succeeded with.
-/

namespace QueryPlanner

variable {ε ε' α β : Type}

theorem exists_of_map_ok {result : Except ε α} {f : α → β} {b : β}
    (mapped : result.map f = .ok b) : ∃ a, result = .ok a ∧ f a = b := by
  cases result with
  | error e => cases mapped
  | ok a =>
      cases mapped
      exact ⟨a, rfl, rfl⟩

theorem error_of_map_error {result : Except ε α} {f : α → β} {e : ε}
    (mapped : result.map f = .error e) : result = .error e := by
  cases result with
  | error other =>
      cases mapped
      rfl
  | ok a => cases mapped

theorem exists_of_mapError_ok {result : Except ε α} {f : ε → ε'} {a : α}
    (mapped : result.mapError f = .ok a) : result = .ok a := by
  cases result with
  | error e => cases mapped
  | ok b =>
      cases mapped
      rfl

theorem exists_of_mapError_error {result : Except ε α} {f : ε → ε'} {e : ε'}
    (mapped : result.mapError f = .error e) : ∃ cause, result = .error cause ∧ f cause = e := by
  cases result with
  | error cause =>
      cases mapped
      exact ⟨cause, rfl, rfl⟩
  | ok a => cases mapped

theorem exists_of_bind_ok {first : Except ε α} {next : α → Except ε β} {b : β}
    (bound : first >>= next = .ok b) : ∃ a, first = .ok a ∧ next a = .ok b := by
  cases first with
  | error e => cases bound
  | ok a => exact ⟨a, rfl, bound⟩

theorem toOption_eq_some {result : Except ε α} {a : α} :
    result.toOption = some a ↔ result = .ok a := by
  cases result <;> simp [Except.toOption]

theorem toOption_eq_none {result : Except ε α} :
    result.toOption = none ↔ ∃ e, result = .error e := by
  cases result <;> simp [Except.toOption]

end QueryPlanner
