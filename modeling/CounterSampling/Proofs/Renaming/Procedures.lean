import CounterSampling.Proofs.SamplerCalls

/-!
# Other numbers for configurations

A device numbers its configurations as it likes. `Procedure.Renames f` says that a procedure does
the same as another one up to a renaming `f` of these numbers: its calls, their answers and its
result correspond. Inquiries do not mention configurations, so what only inquires does not change
under a renaming.
-/

namespace CounterSampling

def ConfigureOutcome.rename (f : ConfigId → ConfigId) : ConfigureOutcome → ConfigureOutcome
  | .configured config => .configured (f config)
  | outcome => outcome

def Call.rename (f : ConfigId → ConfigId) : Call → Call
  | .destroyConfig config => .destroyConfig (f config)
  | .bindConfig context config => .bindConfig context (f config)
  | c => c

/-- The answer to a call as an answer to the renamed call. -/
def Call.renameAnswer (f : ConfigId → ConfigId) : (c : Call) → c.Answer → (c.rename f).Answer
  | .tryConfigure _ _, outcome => outcome.rename f
  | .agents, r => r
  | .supportedCounters _, r => r
  | .counterName _, r => r
  | .counterDimensions _, r => r
  | .dimensionPosition _ _, r => r
  | .destroyConfig _, r => r
  | .createContext _, r => r
  | .destroyContext _, r => r
  | .bindConfig _ _, r => r
  | .startContext _, r => r
  | .stopContext _, r => r
  | .readRecords _ _, r => r
  | .simulated, r => r

variable {α β γ δ : Type} {f : ConfigId → ConfigId}

namespace Procedure

/-- Up to a renaming of configurations, the second procedure makes the calls of the first, and ends
with `g` of its result. -/
def Renames (f : ConfigId → ConfigId) (g : α → β) : Procedure α → Procedure β → Prop
  | .done a, q => q = .done (g a)
  | .ask c next, q => ∃ next' : (c.rename f).Answer → Procedure β,
    q = .ask (c.rename f) next' ∧ ∀ r, (next r).Renames f g (next' (c.renameAnswer f r))

theorem renames_call (c : Call) :
    (call c).Renames f (c.renameAnswer f) (call (c.rename f)) :=
  ⟨_, rfl, fun _ => rfl⟩

theorem Renames.bind {p : Procedure α} {q : Procedure β} {g : α → β} {k : α → Procedure γ}
    {k' : β → Procedure δ} {g' : γ → δ} (h : p.Renames f g q)
    (later : ∀ a, (k a).Renames f g' (k' (g a))) : (p >>= k).Renames f g' (q >>= k') := by
  induction p generalizing q with
  | done a =>
    rw [show q = .done (g a) from h]
    exact later a
  | ask c next ih =>
    obtain ⟨next', rfl, answers⟩ := h
    exact ⟨fun r => next' r >>= k', rfl, fun r => ih r (answers r)⟩

/-- What only inquires is the same under every renaming. -/
theorem Ensures.renames {Q : α → Prop} {p : Procedure α} (h : p.Ensures Call.IsInquiry Q) :
    p.Renames f id p := by
  induction p with
  | done a => rfl
  | ask c next ih =>
    obtain ⟨inquiry, answers⟩ := h
    cases c with
    | supportedCounters agent => exact ⟨next, rfl, fun r => ih r (answers r)⟩
    | counterName id => exact ⟨next, rfl, fun r => ih r (answers r)⟩
    | counterDimensions id => exact ⟨next, rfl, fun r => ih r (answers r)⟩
    | dimensionPosition r id => exact ⟨next, rfl, fun r => ih r (answers r)⟩
    | _ => exact inquiry.elim

end Procedure

open Procedure

variable {τ ε : Type} {h : τ → τ}

/-- Steps with a state of their own do the same on states that `h` renames, with results that `g`
renames. -/
def StepsRename (f : ConfigId → ConfigId) (h : τ → τ) (g : α → β) (m : StateT τ Procedure α)
    (m' : StateT τ Procedure β) : Prop :=
  ∀ t, (m.run t).Renames f (fun y => (g y.1, h y.2)) (m'.run (h t))

theorem stepsRename_pure (g : α → β) (a : α) :
    StepsRename f h g (pure a : StateT τ Procedure α) (pure (g a)) :=
  fun _ => rfl

theorem stepsRename_lift {p : Procedure α} {q : Procedure β} {g : α → β} (same : p.Renames f g q) :
    StepsRename f h g (liftM p : StateT τ Procedure α) (liftM q) :=
  fun _ => same.bind fun _ => rfl

theorem StepsRename.bind {m : StateT τ Procedure α} {m' : StateT τ Procedure β} {g : α → β}
    {k : α → StateT τ Procedure γ} {k' : β → StateT τ Procedure δ} {g' : γ → δ}
    (first : StepsRename f h g m m') (later : ∀ a, StepsRename f h g' (k a) (k' (g a))) :
    StepsRename f h g' (m >>= k) (m' >>= k') :=
  fun t => (first t).bind fun y => later y.1 y.2

/-- What only inquires does the same on the same state. -/
theorem StepsOnly.renames {κ : Type} {part : τ → κ} {m : StateT τ Procedure α}
    (only : StepsOnly Call.IsInquiry part m) : StepsRename f id id m m :=
  fun t => (only t).renames

/-! The same for steps that may fail, with the errors kept. -/

theorem stepsRename_ok (g : α → β) (a : α) :
    StepsRename f h (Except.map g) (pure a : ExceptT ε (StateT τ Procedure) α).run
      (pure (g a) : ExceptT ε (StateT τ Procedure) β).run :=
  fun _ => rfl

theorem stepsRename_liftOk {m : StateT τ Procedure α} {m' : StateT τ Procedure β} {g : α → β}
    (same : StepsRename f h g m m') :
    StepsRename f h (Except.map g) (liftM m : ExceptT ε (StateT τ Procedure) α).run
      (liftM m' : ExceptT ε (StateT τ Procedure) β).run :=
  fun t => (same t).bind fun _ => rfl

theorem StepsRename.bindOk {m : ExceptT ε (StateT τ Procedure) α}
    {m' : ExceptT ε (StateT τ Procedure) β} {g : α → β}
    {k : α → ExceptT ε (StateT τ Procedure) γ} {k' : β → ExceptT ε (StateT τ Procedure) δ}
    {g' : γ → δ} (first : StepsRename f h (Except.map g) m.run m'.run)
    (later : ∀ a, StepsRename f h (Except.map g') (k a).run (k' (g a)).run) :
    StepsRename f h (Except.map g') (m >>= k).run (m' >>= k').run := by
  rw [ExceptT.run_bind, ExceptT.run_bind]
  refine first.bind fun r => ?_
  cases r with
  | ok a => exact later a
  | error e => exact stepsRename_pure _ (Except.error e)

end CounterSampling
