/-! Outcomes taken apart at their first step, and told apart by their causes. -/

namespace Phrasebook

/-- An outcome in two steps succeeds exactly if both steps do. -/
theorem except_bind_eq_ok_iff {ε α β : Type} {first : Except ε α} {next : α → Except ε β}
    {result : β} :
    first >>= next = .ok result ↔ ∃ value, first = .ok value ∧ next value = .ok result := by
  -- The second step is reached only after a success.
  cases first <;> simp [Bind.bind, Except.bind]

/-- An outcome in two steps fails exactly if the first step fails, or else the second. -/
theorem except_bind_eq_error_iff {ε α β : Type} {first : Except ε α} {next : α → Except ε β}
    {error : ε} :
    first >>= next = .error error ↔
      first = .error error ∨ ∃ value, first = .ok value ∧ next value = .error error := by
  -- A failure of the first step is that of the whole.
  cases first <;> simp [Bind.bind, Except.bind]

/-- Another account of the cause does not change which outcomes succeed. -/
theorem mapError_eq_ok_iff {ε δ α : Type} {outcome : Except ε α} {change : ε → δ} {value : α} :
    outcome.mapError change = .ok value ↔ outcome = .ok value := by
  -- Only failures are changed.
  cases outcome with
  | error cause =>
    show (.error (change cause) : Except δ α) = .ok value ↔ (.error cause : Except ε α) = .ok value
    simp
  | ok found =>
    show (.ok found : Except δ α) = .ok value ↔ (.ok found : Except ε α) = .ok value
    simp

/-- Another account of the cause is all that a failure becomes. -/
theorem mapError_eq_error_iff {ε δ α : Type} {outcome : Except ε α} {change : ε → δ} {error : δ} :
    outcome.mapError change = .error error ↔
      ∃ cause, outcome = .error cause ∧ change cause = error := by
  -- Every failure is changed, and nothing else becomes one.
  cases outcome with
  | error found =>
    show (.error (change found) : Except δ α) = .error error ↔
      ∃ cause, (.error found : Except ε α) = .error cause ∧ change cause = error
    simp
  | ok value =>
    show (.ok value : Except δ α) = .error error ↔
      ∃ cause, (.ok value : Except ε α) = .error cause ∧ change cause = error
    simp

/-- The failure that an outcome is, if it is one. -/
def failureOf {ε α : Type} : Except ε α → Option ε
  | .ok _ => none
  | .error error => some error

/-- An outcome has the failure that it is. -/
theorem failureOf_eq_some_iff {ε α : Type} {outcome : Except ε α} {error : ε} :
    failureOf outcome = some error ↔ outcome = .error error := by
  cases outcome <;> simp [failureOf]

end Phrasebook
