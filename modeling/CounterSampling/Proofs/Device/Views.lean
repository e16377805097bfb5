import CounterSampling.Proofs.Possession.Stock
import CounterSampling.Proofs.Renaming.Procedures

/-!
# How an agent sees a device

Of a device an agent sees the context of its sampler, the configurations its sampler knows and the
failures injected for it. `SeesAlike` compares two states of a device in these respects, where
configurations may have other numbers. Calls of the agent itself are answered alike in such states
and lead to such states; proper calls about the contexts of other agents do not show.
-/

namespace CounterSampling

/-- The configuration that a call has created. -/
def Call.made? : (c : Call) → c.Answer → Option ConfigId
  | .tryConfigure _ _, .configured config => some config
  | _, _ => none

/-- A proper call that belongs to a stage is about the context that it is proper for. -/
theorem Call.Proper.about {c : Call} {context context' : ContextId} {stock : Stock}
    {stage : SamplingStage} (proper : c.Proper context stock)
    (about : c.stage? = some (stage, context')) : context' = context := by
  cases c with
  | bindConfig context'' config =>
    cases about
    exact proper
  | startContext context'' =>
    cases about
    exact proper
  | stopContext context'' =>
    cases about
    exact proper
  | readRecords context'' buffer =>
    cases about
    exact proper
  | _ => cases about

namespace Device

/-- How many failures an agent has left. -/
def left (budget : Table AgentId Nat) (agent : AgentId) : Nat :=
  (budget.find? agent).getD 0

theorem left_insert (budget : Table AgentId Nat) (agent other : AgentId) (n : Nat) :
    left (budget.insert agent n) other = if agent = other then n else left budget other := by
  unfold left
  rw [Table.find?_insert]
  split <;> rfl

/-- A failure is used up as long as one is left. -/
theorem takeFailure_eq (budget : Table AgentId Nat) (agent : AgentId) :
    takeFailure budget agent =
      if left budget agent = 0 then none
      else some (budget.insert agent (left budget agent - 1)) := by
  unfold takeFailure left
  cases found : budget.find? agent with
  | none => rfl
  | some n => cases n <;> rfl

/-- The same failures are left for an agent. -/
structure Budgets.Same (agent : AgentId) (b b' : Budgets) : Prop where
  bind : left b'.bind agent = left b.bind agent
  start : left b'.start agent = left b.start agent
  read : left b'.read agent = left b.read agent
  stop : left b'.stop agent = left b.stop agent

theorem Budgets.Same.refl (agent : AgentId) (b : Budgets) : b.Same agent b :=
  ⟨rfl, rfl, rfl, rfl⟩

/-- A context bound to a configuration with another number. -/
def Context.rename (f : ConfigId → ConfigId) (ctx : Context) : Context :=
  { ctx with bound := ctx.bound.map f }

/-- Two states look the same to an agent with this context, up to a renaming of configurations. -/
structure SeesAlike (f : ConfigId → ConfigId) (agent : AgentId) (context : ContextId)
    (t s : State) : Prop where
  configs : ∀ config, s.configs.find? (f config) = t.configs.find? config
  same : s.contexts.find? context = (t.contexts.find? context).map (Context.rename f)
  own : ∀ ctx, t.contexts.find? context = some ctx → ctx.agent = agent
  budgets : t.budgets.Same agent s.budgets

variable {d : Device} {f : ConfigId → ConfigId} {agent : AgentId} {context : ContextId}
  {t s : State}

/-! ## Calls of the agent -/

/-- What comes of calls that look the same. -/
def AnsweredAlike (d : Device) (f : ConfigId → ConfigId) (agent : AgentId) (context : ContextId)
    (t s : State) (c : Call) : Prop :=
  (d.answer (c.rename f) s).1 = c.renameAnswer f (d.answer c t).1 ∧
    SeesAlike f agent context (d.answer c t).2 (d.answer (c.rename f) s).2

theorem SeesAlike.contains (h : SeesAlike f agent context t s) (config : ConfigId) :
    s.configs.contains (f config) = t.configs.contains config := by
  unfold Table.contains
  rw [h.configs]

/-- The context may be written in both states. -/
theorem SeesAlike.write (h : SeesAlike f agent context t s) {ctx : Context}
    (own : ctx.agent = agent) {t' s' : State} (sameConfigs : t'.configs = t.configs)
    (sameConfigs' : s'.configs = s.configs)
    (written : t'.contexts = t.contexts.insert context ctx)
    (written' : s'.contexts = s.contexts.insert context (ctx.rename f))
    (budgets : t'.budgets.Same agent s'.budgets) : SeesAlike f agent context t' s' := by
  refine ⟨fun config => ?_, ?_, ?_, budgets⟩
  · rw [sameConfigs, sameConfigs', h.configs]
  · rw [written, written', Table.find?_insert, Table.find?_insert, if_pos rfl, if_pos rfl]
    rfl
  · intro ctx' found
    rw [written, Table.find?_insert, if_pos rfl] at found
    rw [← Option.some.inj found, own]

/-- The configurations may change in both states, as long as they go on looking the same. -/
theorem SeesAlike.reconfigure (h : SeesAlike f agent context t s) {t' s' : State}
    (configs : ∀ config, s'.configs.find? (f config) = t'.configs.find? config)
    (contexts : t'.contexts = t.contexts) (contexts' : s'.contexts = s.contexts)
    (budgets : t'.budgets = t.budgets) (budgets' : s'.budgets = s.budgets) :
    SeesAlike f agent context t' s' := by
  refine ⟨configs, ?_, ?_, ?_⟩
  · rw [contexts, contexts', h.same]
  · rw [contexts]
    exact h.own
  · rw [budgets, budgets']
    exact h.budgets

/-- The same failures are left after one of them was used up, if there was one. -/
theorem Budgets.Same.spent {b b' : Table AgentId Nat} (same : left b' agent = left b agent) :
    (takeFailure b agent = none ∧ takeFailure b' agent = none) ∨
      ∃ n, takeFailure b agent = some (b.insert agent n) ∧
        takeFailure b' agent = some (b'.insert agent n) := by
  rw [takeFailure_eq, takeFailure_eq, same]
  by_cases none : left b agent = 0
  · rw [if_pos none, if_pos none]
    exact .inl ⟨rfl, rfl⟩
  · rw [if_neg none, if_neg none]
    exact .inr ⟨_, rfl, rfl⟩

theorem SeesAlike.bindConfig (h : SeesAlike f agent context t s) (config : ConfigId) :
    AnsweredAlike d f agent context t s (.bindConfig context config) := by
  change (Device.bindConfig context (f config) s).1 = (Device.bindConfig context config t).1 ∧
    SeesAlike f agent context (Device.bindConfig context config t).2
      (Device.bindConfig context (f config) s).2
  unfold Device.bindConfig
  rw [h.contains]
  by_cases live : t.configs.contains config = true
  case neg =>
    simp only [live, Bool.not_false, if_true]
    exact ⟨trivial, h⟩
  simp only [live, Bool.not_true, Bool.false_eq_true, if_false]
  rw [h.same]
  cases found : t.contexts.find? context with
  | none => exact ⟨rfl, h⟩
  | some ctx =>
    obtain ⟨owner, bound, active⟩ := ctx
    obtain rfl : owner = agent := h.own _ found
    cases active with
    | true => exact ⟨rfl, h⟩
    | false =>
      simp only [Option.map_some, Context.rename, Bool.false_eq_true, if_false]
      rcases Budgets.Same.spent h.budgets.bind with ⟨none, none'⟩ | ⟨n, taken, taken'⟩
      · rw [none, none']
        exact ⟨rfl, h.write rfl rfl rfl rfl rfl h.budgets⟩
      · rw [taken, taken']
        refine ⟨rfl, h.configs, h.same, h.own, ?_, h.budgets.start, h.budgets.read, h.budgets.stop⟩
        simp only [left_insert, if_true]

theorem SeesAlike.startContext (h : SeesAlike f agent context t s) :
    AnsweredAlike d f agent context t s (.startContext context) := by
  change (Device.startContext context s).1 = (Device.startContext context t).1 ∧
    SeesAlike f agent context (Device.startContext context t).2 (Device.startContext context s).2
  unfold Device.startContext
  rw [h.same]
  cases found : t.contexts.find? context with
  | none => exact ⟨rfl, h⟩
  | some ctx =>
    obtain ⟨owner, bound, active⟩ := ctx
    obtain rfl : owner = agent := h.own _ found
    cases active with
    | true => exact ⟨rfl, h⟩
    | false =>
      simp only [Option.map_some, Context.rename, Bool.false_eq_true, if_false]
      rcases Budgets.Same.spent h.budgets.start with ⟨none, none'⟩ | ⟨n, taken, taken'⟩
      · rw [none, none']
        exact ⟨rfl, h.write rfl rfl rfl rfl rfl h.budgets⟩
      · rw [taken, taken']
        refine ⟨rfl, h.configs, h.same, h.own, h.budgets.bind, ?_, h.budgets.read, h.budgets.stop⟩
        simp only [left_insert, if_true]

theorem SeesAlike.stopContext (h : SeesAlike f agent context t s) :
    AnsweredAlike d f agent context t s (.stopContext context) := by
  change (Device.stopContext context s).1 = (Device.stopContext context t).1 ∧
    SeesAlike f agent context (Device.stopContext context t).2 (Device.stopContext context s).2
  unfold Device.stopContext
  rw [h.same]
  cases found : t.contexts.find? context with
  | none => exact ⟨rfl, h⟩
  | some ctx =>
    obtain ⟨owner, bound, active⟩ := ctx
    obtain rfl : owner = agent := h.own _ found
    simp only [Option.map_some, Context.rename]
    rcases Budgets.Same.spent h.budgets.stop with ⟨none, none'⟩ | ⟨n, taken, taken'⟩
    · rw [none, none']
      exact ⟨rfl, h.write rfl rfl rfl rfl rfl h.budgets⟩
    · rw [taken, taken']
      refine ⟨rfl, h.write rfl rfl rfl rfl rfl ?_⟩
      refine ⟨h.budgets.bind, h.budgets.start, h.budgets.read, ?_⟩
      simp only [left_insert, if_true]

theorem SeesAlike.readRecords (h : SeesAlike f agent context t s) (buffer : List Record) :
    AnsweredAlike d f agent context t s (.readRecords context buffer) := by
  change (d.readRecords context buffer s).1 = (d.readRecords context buffer t).1 ∧
    SeesAlike f agent context (d.readRecords context buffer t).2
      (d.readRecords context buffer s).2
  unfold Device.readRecords
  rw [h.same]
  cases found : t.contexts.find? context with
  | none => exact ⟨rfl, h⟩
  | some ctx =>
    obtain ⟨owner, bound, active⟩ := ctx
    obtain rfl : owner = agent := h.own _ found
    cases active with
    | false => exact ⟨rfl, h⟩
    | true =>
      simp only [Option.map_some, Context.rename, Bool.not_true, Bool.false_eq_true, if_false]
      rcases Budgets.Same.spent h.budgets.read with ⟨none, none'⟩ | ⟨n, taken, taken'⟩
      · rw [none, none']
        cases bound with
        | none => exact ⟨rfl, h⟩
        | some config =>
          simp only [Option.map_some, h.configs]
          cases t.configs.find? config <;> exact ⟨rfl, h⟩
      · rw [taken, taken']
        refine ⟨rfl, h.configs, h.same, h.own, h.budgets.bind, h.budgets.start, ?_, h.budgets.stop⟩
        simp only [left_insert, if_true]

/-- A configuration is created in both states or in neither. -/
theorem configure_alike (d : Device) (agent : AgentId) (ids : List CounterId) (t s : State) :
    (∃ outcome, d.configure agent ids t = (outcome, t) ∧ d.configure agent ids s = (outcome, s) ∧
      ∀ config, outcome ≠ .configured config) ∨
    (∃ t' : State, d.configure agent ids t = (.configured ⟨t.nextConfig⟩, t') ∧
      t'.configs = t.configs.insert ⟨t.nextConfig⟩ ids ∧ t'.contexts = t.contexts ∧
      t'.budgets = t.budgets) ∧
    ∃ s' : State, d.configure agent ids s = (.configured ⟨s.nextConfig⟩, s') ∧
      s'.configs = s.configs.insert ⟨s.nextConfig⟩ ids ∧ s'.contexts = s.contexts ∧
      s'.budgets = s.budgets := by
  unfold configure
  split
  · exact .inl ⟨_, rfl, rfl, nofun⟩
  split
  · exact .inl ⟨_, rfl, rfl, nofun⟩
  split
  · exact .inl ⟨_, rfl, rfl, nofun⟩
  · exact .inr ⟨⟨_, rfl, rfl, rfl, rfl⟩, _, rfl, rfl, rfl, rfl⟩

/-- What an agent creates gets its next number, which `f` has to rename to the number it gets in
the other state. -/
theorem SeesAlike.tryConfigure (h : SeesAlike f agent context t s) (inj : Function.Injective f)
    (owner : AgentId) (ids : List CounterId)
    (next : ∀ config, Call.made? (.tryConfigure owner ids)
      (d.answer (.tryConfigure owner ids) s).1 = some config → f ⟨t.nextConfig⟩ = config) :
    AnsweredAlike d f agent context t s (.tryConfigure owner ids) := by
  change (d.configure owner ids s).1 = (d.configure owner ids t).1.rename f ∧
    SeesAlike f agent context (d.configure owner ids t).2 (d.configure owner ids s).2
  change ∀ config, Call.made? (.tryConfigure owner ids) (d.configure owner ids s).1 = some config →
    _ at next
  rcases d.configure_alike owner ids t s with ⟨outcome, same, same', refused⟩ |
    ⟨⟨t', created, configs, contexts, budgets⟩, s', created', configs', contexts', budgets'⟩
  · rw [same, same']
    refine ⟨?_, h⟩
    cases outcome with
    | configured config => exact absurd rfl (refused config)
    | capacityExceeded => rfl
    | failed e => rfl
  · rw [created'] at next
    have number : f ⟨t.nextConfig⟩ = ⟨s.nextConfig⟩ := next _ rfl
    rw [created, created']
    refine ⟨congrArg ConfigureOutcome.configured number.symm,
      h.reconfigure (fun config => ?_) contexts contexts' budgets budgets'⟩
    rw [configs, configs', Table.find?_insert, Table.find?_insert, ← number, h.configs]
    simp only [inj.eq_iff]

/-- Releasing a configuration changes neither contexts nor failures. -/
theorem destroyConfig_frame (config : ConfigId) (s : State) :
    (Device.destroyConfig config s).contexts = s.contexts ∧
      (Device.destroyConfig config s).budgets = s.budgets := by
  unfold Device.destroyConfig
  split <;> exact ⟨rfl, rfl⟩

theorem SeesAlike.destroyConfig (h : SeesAlike f agent context t s) (inj : Function.Injective f)
    (config : ConfigId) : AnsweredAlike d f agent context t s (.destroyConfig config) := by
  change () = () ∧ SeesAlike f agent context (Device.destroyConfig config t)
    (Device.destroyConfig (f config) s)
  obtain ⟨contexts, budgets⟩ := destroyConfig_frame config t
  obtain ⟨contexts', budgets'⟩ := destroyConfig_frame (f config) s
  refine ⟨rfl, h.reconfigure (fun config' => ?_) contexts contexts' budgets budgets'⟩
  rw [destroyConfig_find?, destroyConfig_find?, h.configs]
  simp only [inj.eq_iff]

/-- Proper calls of the agent are answered alike. -/
theorem SeesAlike.answer (h : SeesAlike f agent context t s) (inj : Function.Injective f)
    {c : Call} {stock : Stock} (proper : c.Proper context stock)
    (next : ∀ config, (c.rename f).made? (d.answer (c.rename f) s).1 = some config →
      f ⟨t.nextConfig⟩ = config) : AnsweredAlike d f agent context t s c := by
  cases c with
  | supportedCounters agent => exact ⟨rfl, h.reconfigure h.configs rfl rfl rfl rfl⟩
  | counterName id => exact ⟨rfl, h.reconfigure h.configs rfl rfl rfl rfl⟩
  | counterDimensions id => exact ⟨rfl, h.reconfigure h.configs rfl rfl rfl rfl⟩
  | dimensionPosition r id => exact ⟨rfl, h⟩
  | tryConfigure owner ids => exact h.tryConfigure inj owner ids next
  | destroyConfig config => exact h.destroyConfig inj config
  | bindConfig context' config =>
    obtain rfl : context' = context := proper
    exact h.bindConfig config
  | startContext context' =>
    obtain rfl : context' = context := proper
    exact h.startContext
  | stopContext context' =>
    obtain rfl : context' = context := proper
    exact h.stopContext
  | readRecords context' buffer =>
    obtain rfl : context' = context := proper
    exact h.readRecords buffer
  | agents => exact proper.elim
  | createContext agent => exact proper.elim
  | destroyContext context => exact proper.elim
  | simulated => exact proper.elim

/-! ## Calls of others -/

/-- Using up a failure of another agent does not show. -/
theorem Budgets.Spent.same {b b' : Budgets} {stage : SamplingStage} {owner : AgentId}
    (spent : b.Spent stage owner b') (other : owner ≠ agent) : b.Same agent b' := by
  have kept (stage' : SamplingStage) :
      left (b'.ofStage stage') agent = left (b.ofStage stage') agent := by
    have rest := spent.rest stage' agent fun both => other both.2.symm
    unfold left
    rw [rest]
  exact ⟨kept .bind, kept .start, kept .read, kept .stop⟩

/-- Calls about the contexts of other agents use up no failure of this one. -/
theorem budgets_of_others {context' : ContextId} {stock : Stock} {c : Call}
    (foreign : ∀ ctx, s.contexts.find? context' = some ctx → ctx.agent ≠ agent)
    (proper : c.Proper context' stock) : s.budgets.Same agent (d.answer c s).2.budgets := by
  have spends := d.answer_spends c s
  generalize (d.answer c s).2.budgets = b at spends ⊢
  cases spends with
  | nothing => exact Budgets.Same.refl agent s.budgets
  | one stage context ctx about found spent =>
    obtain rfl := proper.about about
    exact spent.same (foreign ctx found)

/-- Calls about one context leave the others as they are. -/
theorem contexts_of_others {context' : ContextId} {stock : Stock} {c : Call}
    (proper : c.Proper context' stock) (apart : context' ≠ context) :
    (d.answer c s).2.contexts.find? context = s.contexts.find? context := by
  have written {s' : State} {ctx : Context}
      (contexts : s'.contexts = s.contexts.insert context' ctx) :
      s'.contexts.find? context = s.contexts.find? context := by
    rw [contexts, Table.find?_insert, if_neg apart]
  cases c with
  | bindConfig context'' config =>
    obtain rfl : context'' = context' := proper
    change (Device.bindConfig context'' config s).2.contexts.find? context = _
    rcases bindConfig_cases context'' config s with ⟨e, budgets, same, -⟩ | ⟨ctx, -, -, bound⟩
    · rw [same]
    · rw [bound]
      exact written rfl
  | startContext context'' =>
    obtain rfl : context'' = context' := proper
    change (Device.startContext context'' s).2.contexts.find? context = _
    rcases startContext_cases context'' s with ⟨e, budgets, same⟩ | ⟨ctx, -, -, started⟩
    · rw [same]
    · rw [started]
      exact written rfl
  | stopContext context'' =>
    obtain rfl : context'' = context' := proper
    change (Device.stopContext context'' s).2.contexts.find? context = _
    rcases stopContext_cases context'' s with ⟨-, e, same⟩ | ⟨ctx, r, budgets, -, stopped⟩
    · rw [same]
    · rw [stopped]
      exact written rfl
  | readRecords context'' buffer =>
    obtain ⟨budgets, same⟩ := d.readRecords_budgets context'' buffer s
    change (d.readRecords context'' buffer s).2.contexts.find? context = _
    rw [same]
  | tryConfigure owner ids =>
    change (d.configure owner ids s).2.contexts.find? context = _
    rcases d.configure_cases owner ids s with ⟨outcome, unchanged, -⟩ | created
    · rw [unchanged]
    · rw [created]
  | destroyConfig config =>
    change (Device.destroyConfig config s).contexts.find? context = _
    rw [(destroyConfig_frame config s).1]
  | supportedCounters owner => rfl
  | counterName id => rfl
  | counterDimensions id => rfl
  | dimensionPosition r id => rfl
  | agents => exact proper.elim
  | createContext owner => exact proper.elim
  | destroyContext context => exact proper.elim
  | simulated => exact proper.elim

/-- A configuration that a call neither creates nor releases stays as it is. -/
theorem config_of_others {c : Call} {config : ConfigId}
    (notMade : c.made? (d.answer c s).1 ≠ some config) (notReleased : c.released? ≠ some config) :
    (d.answer c s).2.configs.find? config = s.configs.find? config := by
  cases spares : c.isConfigCall with
  | false => rw [(d.answer_sameConfigs spares s).1.configs]
  | true =>
    cases c with
    | tryConfigure owner ids =>
      change Call.made? (.tryConfigure owner ids) (d.configure owner ids s).1 ≠ _ at notMade
      change (d.configure owner ids s).2.configs.find? config = _
      rcases d.configure_cases owner ids s with ⟨outcome, unchanged, -⟩ | created
      · rw [unchanged]
      · rw [created] at notMade ⊢
        have other : (⟨s.nextConfig⟩ : ConfigId) ≠ config := fun same => notMade (by rw [← same]; rfl)
        change (s.configs.insert ⟨s.nextConfig⟩ ids).find? config = _
        rw [Table.find?_insert, if_neg other]
    | destroyConfig config' =>
      change (Device.destroyConfig config' s).configs.find? config = _
      have other : config' ≠ config := fun same => notReleased (congrArg some same)
      rw [destroyConfig_find?, if_neg other]
    | _ => cases spares

/-- Proper calls about the context of another agent do not show, as long as they neither create nor
release a configuration that the agent knows. -/
theorem SeesAlike.others (h : SeesAlike f agent context t s) {c : Call} {context' : ContextId}
    {stock : Stock} (proper : c.Proper context' stock) (apart : context' ≠ context)
    (foreign : ∀ ctx, s.contexts.find? context' = some ctx → ctx.agent ≠ agent)
    (notMade : ∀ config, c.made? (d.answer c s).1 ≠ some (f config))
    (notReleased : ∀ config, c.released? ≠ some (f config)) :
    SeesAlike f agent context t (d.answer c s).2 := by
  have budgets := budgets_of_others (d := d) foreign proper
  refine ⟨fun config => ?_, ?_, h.own, ?_⟩
  · rw [config_of_others (notMade config) (notReleased config), h.configs]
  · rw [contexts_of_others proper apart, h.same]
  · exact ⟨budgets.bind.trans h.budgets.bind, budgets.start.trans h.budgets.start,
      budgets.read.trans h.budgets.read, budgets.stop.trans h.budgets.stop⟩

end Device

end CounterSampling
