/-!
# Results with and without a fault

A computation that may fail, in several steps, has a result when each step has one. Where only
that matters, and not which fault there is otherwise, its result is an optional one.
-/

namespace RecordSchema

variable {ε α β : Type}

/-! ### Steps without a fault -/

/-- Two steps have a result when the first one has one from which the second one has it. -/
theorem bind_eq_ok_iff {first : Except ε α} {next : α → Except ε β} {b : β} :
  first >>= next = .ok b ↔ ∃ a, first = .ok a ∧ next a = .ok b
  := by
  cases first with
  | error fault => simp [bind, Except.bind]
  | ok a => simp [bind, Except.bind]

theorem map_eq_ok_iff {first : Except ε α} {f : α → β} {b : β} :
  first.map f = .ok b ↔ ∃ a, first = .ok a ∧ f a = b
  := by
  cases first with
  | error fault => simp [Except.map]
  | ok a => simp [Except.map]

/-! ### Optional results -/

@[simp]
theorem toOption_ok (a : α) :
  (Except.ok a : Except ε α).toOption = some a
  := rfl

@[simp]
theorem toOption_error (fault : ε) :
  (Except.error fault : Except ε α).toOption = none
  := rfl

@[simp]
theorem toOption_map (f : α → β) (result : Except ε α) :
  (result.map f).toOption = result.toOption.map f
  := by
  cases result with
  | error fault => rfl
  | ok a => rfl

theorem toOption_eq_some {result : Except ε α} {a : α} :
  result.toOption = some a ↔ result = .ok a
  := by
  cases result with
  | error fault => simp
  | ok b => simp

theorem toOption_eq_none {result : Except ε α} :
  result.toOption = none ↔ ∃ fault, result = .error fault
  := by
  cases result with
  | error fault => simp
  | ok b => simp

end RecordSchema
