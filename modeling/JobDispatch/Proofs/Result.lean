/-!
# Results of computations in steps

A computation either has a value or fails. One that goes on after its first step has a value exactly
when both parts have one, one that may fail at once has a value exactly when it goes on to one, and
it has the same value when only its faults are reworded.
-/

namespace JobDispatch

/-- A computation that succeeds has succeeded in its first part and then in the rest. -/
theorem bind_eq_ok_iff {ε α β : Type} {first : Except ε α} {next : α → Except ε β} {result : β} :
    (first >>= next) = .ok result ↔ ∃ value, first = .ok value ∧ next value = .ok result := by
  cases first with
  | error fault => simp [bind, Except.bind]
  | ok value => simp [bind, Except.bind]

/-- What has a value goes on with it. As a rewrite it leaves the rest as it is, where unfolding
would compare large bounds digit by digit. -/
theorem ok_bind {ε α β : Type} (first : α) (next : α → Except ε β) :
    (Except.ok first >>= next) = next first := rfl

/-- A computation that may fail at once has a value exactly when it does not and the rest has it. -/
theorem fail_else_eq_ok_iff {ε α : Type} {fails : Prop} [Decidable fails] {fault : ε}
    {rest : Except ε α} {value : α} :
    (if fails then .error fault else rest) = .ok value ↔ ¬ fails ∧ rest = .ok value := by
  by_cases failed : fails
  · simp [failed]
  · simp [failed]

/-- A computation that may fail at once fails so, or the rest does. -/
theorem fail_else_eq_error_iff {ε α : Type} {fails : Prop} [Decidable fails] {fault other : ε}
    {rest : Except ε α} :
    (if fails then .error fault else rest) = .error other ↔
      fails ∧ fault = other ∨ ¬ fails ∧ rest = .error other := by
  by_cases failed : fails
  · simp [failed]
  · simp [failed]

/-- What is left of a computation without its fault is its value. -/
theorem toOption_eq_some_iff {ε α : Type} {result : Except ε α} {value : α} :
    result.toOption = some value ↔ result = .ok value := by
  cases result with
  | error fault => simp [Except.toOption]
  | ok given => simp [Except.toOption]

/-- A result with another fault has the same value. -/
theorem mapError_eq_ok_iff {ε ε' α : Type} {result : Except ε α} {change : ε → ε'} {value : α} :
    result.mapError change = .ok value ↔ result = .ok value := by
  cases result with
  | error fault =>
    constructor
    · intro same
      cases same
    · intro same
      cases same
  | ok given =>
    have kept : (Except.ok given : Except ε α).mapError change = .ok given := rfl
    rw [kept, Except.ok.injEq, Except.ok.injEq]

end JobDispatch
