import CounterSampling.Device.Answer
import CounterSampling.SamplerError

/-!
# What a call can do to a simulated device

For each kind of call, everything it can do to the state of the device: a call that fails uses up at
most an injected failure, and one that succeeds does what it is named for. Invariants of the state
follow from these cases without opening the answers again. Which failure a call may use up is said
once for all calls: `answer_spends`.
-/

namespace CounterSampling

/-- The stage of sampling at which a call is made, and the context that it is about. -/
def Call.stage? : Call → Option (SamplingStage × ContextId)
  | .bindConfig context _ => some (.bind, context)
  | .startContext context => some (.start, context)
  | .readRecords context _ => some (.read, context)
  | .stopContext context => some (.stop, context)
  | _ => none

namespace Device

def cannotRebind : BackendError := contextError "cannot rebind an active context"

/-- A bind fails, and for being a rebind only if the context is active, or it binds an idle
context. -/
theorem bindConfig_cases (context : ContextId) (config : ConfigId) (s : State) :
    (∃ e budgets, bindConfig context config s = (.error e, { s with budgets }) ∧
      (e = cannotRebind → ∃ ctx, s.contexts.find? context = some ctx ∧ ctx.active = true)) ∨
    ∃ ctx, s.contexts.find? context = some ctx ∧ ctx.active = false ∧
      bindConfig context config s =
        (.ok (), { s with
          contexts := s.contexts.insert context { ctx with bound := some config } }) := by
  unfold bindConfig
  split
  · exact .inl ⟨_, s.budgets, rfl, by simp [cannotRebind, contextError, invalidArgument]⟩
  split
  · exact .inl ⟨_, s.budgets, rfl, by simp [cannotRebind, contextError]⟩
  next ctx found =>
    split
    next active => exact .inl ⟨_, s.budgets, rfl, fun _ => ⟨ctx, found, active⟩⟩
    next idle =>
      split
      · exact .inl ⟨_, _, rfl, by simp [cannotRebind, contextError]⟩
      · exact .inr ⟨ctx, found, eq_false_of_ne_true idle, rfl⟩

/-- A start fails or makes an idle context active. -/
theorem startContext_cases (context : ContextId) (s : State) :
    (∃ e budgets, startContext context s = (.error e, { s with budgets })) ∨
    ∃ ctx, s.contexts.find? context = some ctx ∧ ctx.active = false ∧
      startContext context s =
        (.ok (), { s with
          contexts := s.contexts.insert context { ctx with active := true }
          starts := s.starts + 1 }) := by
  unfold startContext
  split
  · exact .inl ⟨_, s.budgets, rfl⟩
  next ctx found =>
    split
    · exact .inl ⟨_, s.budgets, rfl⟩
    next idle =>
      split
      · exact .inl ⟨_, _, rfl⟩
      · exact .inr ⟨ctx, found, eq_false_of_ne_true idle, rfl⟩

/-- A stop makes a context idle, also if it fails, or there is no such context. -/
theorem stopContext_cases (context : ContextId) (s : State) :
    (s.contexts.find? context = none ∧ ∃ e, stopContext context s = (.error e, s)) ∨
    ∃ ctx r budgets, s.contexts.find? context = some ctx ∧
      stopContext context s =
        (r, { s with
          contexts := s.contexts.insert context { ctx with active := false }
          budgets }) := by
  unfold stopContext
  split
  next absent => exact .inl ⟨absent, _, rfl⟩
  next ctx found =>
    dsimp only
    split
    · exact .inr ⟨ctx, _, _, found, rfl⟩
    · exact .inr ⟨ctx, _, s.budgets, found, rfl⟩

/-- A read changes nothing but the failures left. -/
theorem readRecords_budgets (d : Device) (context : ContextId) (buffer : List Record) (s : State) :
    ∃ budgets, (d.readRecords context buffer s).2 = { s with budgets } := by
  unfold readRecords
  split
  · exact ⟨s.budgets, rfl⟩
  split
  · exact ⟨s.budgets, rfl⟩
  split
  · exact ⟨_, rfl⟩
  split
  · exact ⟨s.budgets, rfl⟩
  split <;> exact ⟨s.budgets, rfl⟩

/-- A read fails and leaves the buffer alone, or it succeeds. -/
theorem readRecords_cases (d : Device) (context : ContextId) (buffer : List Record) (s : State) :
    (∃ e, (d.readRecords context buffer s).1 = .untouched buffer (.error e)) ∨
    ∃ n, (d.readRecords context buffer s).1.count = .ok n := by
  unfold readRecords
  split
  · exact .inl ⟨_, rfl⟩
  split
  · exact .inl ⟨_, rfl⟩
  split
  · exact .inl ⟨_, rfl⟩
  split
  · exact .inl ⟨_, rfl⟩
  split
  · exact .inl ⟨_, rfl⟩
  · exact .inr ⟨_, rfl⟩

/-- Trying to configure creates the next configuration or changes nothing. -/
theorem configure_cases (d : Device) (agent : AgentId) (counters : List CounterId) (s : State) :
    (∃ outcome, d.configure agent counters s = (outcome, s) ∧
      ∀ config, outcome ≠ .configured config) ∨
    d.configure agent counters s =
      (.configured ⟨s.nextConfig⟩,
        { s with
          nextConfig := s.nextConfig + 1
          configsCreated := s.configsCreated + 1
          configs := s.configs.insert ⟨s.nextConfig⟩ counters }) := by
  unfold configure
  split
  · exact .inl ⟨_, rfl, by simp⟩
  split
  · exact .inl ⟨_, rfl, by simp⟩
  split
  · exact .inl ⟨_, rfl, by simp⟩
  · exact .inr rfl

/-- Creating a context opens the next one or changes nothing. -/
theorem createContext_cases (d : Device) (agent : AgentId) (s : State) :
    (∃ e, d.createContext agent s = (.error e, s)) ∨
    d.createContext agent s =
      (.ok ⟨s.nextContext⟩,
        { s with
          nextContext := s.nextContext + 1
          contexts := s.contexts.insert ⟨s.nextContext⟩ ⟨agent, none, false⟩ }) := by
  unfold createContext
  split
  · exact .inl ⟨_, rfl⟩
  · exact .inr rfl

/-! ## Failures that are used up -/

/-- The failures that are still to be injected at a stage. -/
def Budgets.ofStage (b : Budgets) : SamplingStage → Table AgentId Nat
  | .bind => b.bind
  | .start => b.start
  | .read => b.read
  | .stop => b.stop

/-- The budgets with other failures to be injected at a stage. -/
def Budgets.withStage (b : Budgets) (budget : Table AgentId Nat) : SamplingStage → Budgets
  | .bind => { b with bind := budget }
  | .start => { b with start := budget }
  | .read => { b with read := budget }
  | .stop => { b with stop := budget }

@[simp] theorem Budgets.ofStage_withStage (b : Budgets) (budget : Table AgentId Nat)
    (stage stage' : SamplingStage) :
    (b.withStage budget stage).ofStage stage' =
      if stage' = stage then budget else b.ofStage stage' := by
  cases stage <;> cases stage' <;> rfl

/-- One failure of an agent at a stage was used up, and no other. -/
structure Budgets.Spent (stage : SamplingStage) (agent : AgentId) (b b' : Budgets) : Prop where
  used : ∃ n, (b.ofStage stage).find? agent = some (n + 1) ∧
    (b'.ofStage stage).find? agent = some n
  rest : ∀ stage' agent', ¬(stage' = stage ∧ agent' = agent) →
    (b'.ofStage stage').find? agent' = (b.ofStage stage').find? agent'

theorem takeFailure_eq_some {budget budget' : Table AgentId Nat} {agent : AgentId}
    (taken : takeFailure budget agent = some budget') :
    ∃ n, budget.find? agent = some (n + 1) ∧ budget' = budget.insert agent n := by
  unfold takeFailure at taken
  split at taken
  next n found => exact ⟨n, found, (Option.some.inj taken).symm⟩
  · cases taken

/-- To take a failure at a stage is to use up one. -/
theorem Budgets.spent_of_takeFailure {b : Budgets} (stage : SamplingStage) {agent : AgentId}
    {budget : Table AgentId Nat} (taken : takeFailure (b.ofStage stage) agent = some budget) :
    b.Spent stage agent (b.withStage budget stage) := by
  obtain ⟨n, found, rfl⟩ := takeFailure_eq_some taken
  constructor
  · refine ⟨n, found, ?_⟩
    simp
  · intro stage' agent' different
    by_cases own : stage' = stage
    · subst own
      have other : agent ≠ agent' := fun same => different ⟨rfl, same.symm⟩
      simp [other]
    · simp [own]

/-- What a call may use up: nothing, or one failure at its own stage, of the agent that its context
belongs to. -/
inductive State.Spends (s : State) (c : Call) : Budgets → Prop
  | nothing : s.Spends c s.budgets
  | one {b : Budgets} (stage : SamplingStage) (context : ContextId) (ctx : Context)
    (about : c.stage? = some (stage, context)) (found : s.contexts.find? context = some ctx)
    (spent : s.budgets.Spent stage ctx.agent b) : s.Spends c b

theorem bindConfig_spends (context : ContextId) (config : ConfigId) (s : State) :
    s.Spends (.bindConfig context config) (bindConfig context config s).2.budgets := by
  unfold bindConfig
  split
  · exact .nothing
  split
  · exact .nothing
  next ctx found =>
    split
    · exact .nothing
    split
    next budget taken =>
      exact .one .bind context ctx rfl found (Budgets.spent_of_takeFailure .bind taken)
    · exact .nothing

theorem startContext_spends (context : ContextId) (s : State) :
    s.Spends (.startContext context) (startContext context s).2.budgets := by
  unfold startContext
  split
  · exact .nothing
  next ctx found =>
    split
    · exact .nothing
    split
    next budget taken =>
      exact .one .start context ctx rfl found (Budgets.spent_of_takeFailure .start taken)
    · exact .nothing

theorem stopContext_spends (context : ContextId) (s : State) :
    s.Spends (.stopContext context) (stopContext context s).2.budgets := by
  unfold stopContext
  split
  · exact .nothing
  next ctx found =>
    dsimp only
    split
    next budget taken =>
      exact .one .stop context ctx rfl found (Budgets.spent_of_takeFailure .stop taken)
    · exact .nothing

theorem readRecords_spends (d : Device) (context : ContextId) (buffer : List Record) (s : State) :
    s.Spends (.readRecords context buffer) (d.readRecords context buffer s).2.budgets := by
  unfold readRecords
  split
  · exact .nothing
  next ctx found =>
    split
    · exact .nothing
    split
    next budget taken =>
      exact .one .read context ctx rfl found (Budgets.spent_of_takeFailure .read taken)
    split
    · exact .nothing
    split <;> exact .nothing

/-- A call uses up at most one failure, whatever it comes to. -/
theorem answer_spends (d : Device) (c : Call) (s : State) :
    s.Spends c (d.answer c s).2.budgets := by
  cases c with
  | bindConfig context config => exact bindConfig_spends context config s
  | startContext context => exact startContext_spends context s
  | stopContext context => exact stopContext_spends context s
  | readRecords context buffer => exact d.readRecords_spends context buffer s
  | tryConfigure agent counters =>
    change s.Spends _ (d.configure agent counters s).2.budgets
    rcases d.configure_cases agent counters s with ⟨outcome, same, -⟩ | created
    · rw [same]
      exact .nothing
    · rw [created]
      exact .nothing
  | createContext agent =>
    change s.Spends _ (d.createContext agent s).2.budgets
    rcases d.createContext_cases agent s with ⟨e, same⟩ | opened
    · rw [same]
      exact .nothing
    · rw [opened]
      exact .nothing
  | destroyConfig config =>
    change s.Spends _ (destroyConfig config s).budgets
    unfold destroyConfig
    split <;> exact .nothing
  | _ => exact .nothing

end Device

end CounterSampling
