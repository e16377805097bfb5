/-!
# Results that may be errors

What goes on after a step succeeds only if the step does, and telling its error in other words
makes no success of it. An error is that of the first step that fails.
-/

namespace CounterSampling

variable {ε ε' α β : Type} {x : Except ε α}

theorem bind_eq_ok {f : α → Except ε β} {b : β} :
    x >>= f = .ok b ↔ ∃ a, x = .ok a ∧ f a = .ok b := by
  cases x with
  | error e =>
    constructor
    · intro same
      cases same
    · rintro ⟨_, same, _⟩
      cases same
  | ok a =>
    constructor
    · intro same
      exact ⟨a, rfl, same⟩
    · rintro ⟨_, same, rest⟩
      cases same
      exact rest

theorem mapError_eq_ok {f : ε → ε'} {a : α} : x.mapError f = .ok a ↔ x = .ok a := by
  cases x with
  | error e =>
    constructor
    · intro same
      cases same
    · intro same
      cases same
  | ok a' =>
    constructor
    · intro same
      exact congrArg Except.ok (Except.ok.inj same)
    · intro same
      exact congrArg Except.ok (Except.ok.inj same)

/-- What is wrong with two steps is wrong with the first, or with the second where the first
succeeds. -/
theorem bind_eq_error {f : α → Except ε β} {e : ε} :
    x >>= f = .error e ↔ x = .error e ∨ ∃ a, x = .ok a ∧ f a = .error e := by
  cases x with
  | error e' =>
    constructor
    · intro same
      exact .inl (congrArg Except.error (Except.error.inj same))
    · rintro (same | ⟨_, same, _⟩)
      · exact congrArg Except.error (Except.error.inj same)
      · cases same
  | ok a =>
    constructor
    · intro same
      exact .inr ⟨a, rfl, same⟩
    · rintro (same | ⟨_, same, rest⟩)
      · cases same
      · cases same
        exact rest

theorem mapError_eq_error {f : ε → ε'} {e' : ε'} :
    x.mapError f = .error e' ↔ ∃ e, x = .error e ∧ f e = e' := by
  cases x with
  | error e =>
    constructor
    · intro same
      exact ⟨e, rfl, Except.error.inj same⟩
    · rintro ⟨_, same, rfl⟩
      cases same
      rfl
  | ok a =>
    constructor
    · intro same
      cases same
    · rintro ⟨_, same, _⟩
      cases same

end CounterSampling
