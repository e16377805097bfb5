import CounterSampling.Proofs.Device.Effects

/-!
# Numbers are not used twice

What any call at all can do to the configurations and to the contexts of a simulated device. Numbers
are given out in ascending order and never again, so whatever has a number keeps its meaning: a
number that is in use was given out before, and an open context stays with its agent.
-/

namespace CounterSampling

/-- Whether a call tries or releases a configuration. -/
def Call.isConfigCall : Call → Bool
  | .tryConfigure _ _ => true
  | .destroyConfig _ => true
  | _ => false

namespace Device

/-- What a call can do to the configurations of a device. -/
inductive ConfigsChange (s s' : State) : Prop
  | same (configs : s'.configs = s.configs) (next : s'.nextConfig = s.nextConfig)
  | created (ids : List CounterId) (configs : s'.configs = s.configs.insert ⟨s.nextConfig⟩ ids)
    (next : s'.nextConfig = s.nextConfig + 1)
  | released (config : ConfigId) (configs : s'.configs = s.configs.erase config)
    (next : s'.nextConfig = s.nextConfig)

/-- What a call can do to the contexts of a device. A context that is bound is bound to a live
configuration. -/
inductive ContextsChange (s s' : State) : Prop
  | same (contexts : s'.contexts = s.contexts) (next : s'.nextContext = s.nextContext)
  | opened (agent : AgentId)
    (contexts : s'.contexts = s.contexts.insert ⟨s.nextContext⟩ ⟨agent, none, false⟩)
    (next : s'.nextContext = s.nextContext + 1)
  | closed (context : ContextId) (contexts : s'.contexts = s.contexts.erase context)
    (next : s'.nextContext = s.nextContext)
  | written (context : ContextId) (ctx ctx' : Context)
    (found : s.contexts.find? context = some ctx) (agent : ctx'.agent = ctx.agent)
    (bound : ctx'.bound = ctx.bound ∨
      ∃ config, ctx'.bound = some config ∧ s.configs.contains config = true)
    (contexts : s'.contexts = s.contexts.insert context ctx')
    (next : s'.nextContext = s.nextContext)

/-- Two states agree about configurations. -/
structure SameConfigs (s s' : State) : Prop where
  configs : s'.configs = s.configs
  next : s'.nextConfig = s.nextConfig

theorem bindConfig_changes (context : ContextId) (config : ConfigId) (s : State) :
    SameConfigs s (bindConfig context config s).2 ∧
      ContextsChange s (bindConfig context config s).2 := by
  unfold bindConfig
  split
  · exact ⟨⟨rfl, rfl⟩, .same rfl rfl⟩
  next live =>
    split
    · exact ⟨⟨rfl, rfl⟩, .same rfl rfl⟩
    next ctx found =>
      split
      · exact ⟨⟨rfl, rfl⟩, .same rfl rfl⟩
      split
      · exact ⟨⟨rfl, rfl⟩, .same rfl rfl⟩
      · have there : s.configs.contains config = true := by simpa using live
        exact ⟨⟨rfl, rfl⟩, .written context ctx { ctx with bound := some config } found rfl
          (.inr ⟨config, rfl, there⟩) rfl rfl⟩

theorem startContext_changes (context : ContextId) (s : State) :
    SameConfigs s (startContext context s).2 ∧ ContextsChange s (startContext context s).2 := by
  rcases startContext_cases context s with ⟨e, budgets, same⟩ | ⟨ctx, found, -, started⟩
  · rw [same]
    exact ⟨⟨rfl, rfl⟩, .same rfl rfl⟩
  · rw [started]
    exact ⟨⟨rfl, rfl⟩, .written context ctx { ctx with active := true } found rfl (.inl rfl) rfl rfl⟩

theorem stopContext_changes (context : ContextId) (s : State) :
    SameConfigs s (stopContext context s).2 ∧ ContextsChange s (stopContext context s).2 := by
  rcases stopContext_cases context s with ⟨-, e, same⟩ | ⟨ctx, r, budgets, found, stopped⟩
  · rw [same]
    exact ⟨⟨rfl, rfl⟩, .same rfl rfl⟩
  · rw [stopped]
    exact ⟨⟨rfl, rfl⟩,
      .written context ctx { ctx with active := false } found rfl (.inl rfl) rfl rfl⟩

/-- What any call but trying and releasing configurations can do. -/
theorem answer_sameConfigs (d : Device) {c : Call} (spares : c.isConfigCall = false) (s : State) :
    SameConfigs s (d.answer c s).2 ∧ ContextsChange s (d.answer c s).2 := by
  cases c with
  | tryConfigure agent ids => cases spares
  | destroyConfig config => cases spares
  | createContext agent =>
    change SameConfigs s (d.createContext agent s).2 ∧
      ContextsChange s (d.createContext agent s).2
    rcases d.createContext_cases agent s with ⟨e, same⟩ | created
    · rw [same]
      exact ⟨⟨rfl, rfl⟩, .same rfl rfl⟩
    · rw [created]
      exact ⟨⟨rfl, rfl⟩, .opened agent rfl rfl⟩
  | destroyContext context => exact ⟨⟨rfl, rfl⟩, .closed context rfl rfl⟩
  | bindConfig context config => exact bindConfig_changes context config s
  | startContext context => exact startContext_changes context s
  | stopContext context => exact stopContext_changes context s
  | readRecords context buffer =>
    obtain ⟨budgets, same⟩ := d.readRecords_budgets context buffer s
    change SameConfigs s (d.readRecords context buffer s).2 ∧
      ContextsChange s (d.readRecords context buffer s).2
    rw [same]
    exact ⟨⟨rfl, rfl⟩, .same rfl rfl⟩
  | _ => exact ⟨⟨rfl, rfl⟩, .same rfl rfl⟩

/-- What any call at all can do to the configurations and to the contexts. -/
theorem answer_changes (d : Device) (c : Call) (s : State) :
    ConfigsChange s (d.answer c s).2 ∧ ContextsChange s (d.answer c s).2 := by
  cases spares : c.isConfigCall with
  | false =>
    obtain ⟨⟨configs, next⟩, contexts⟩ := d.answer_sameConfigs spares s
    exact ⟨.same configs next, contexts⟩
  | true =>
    cases c with
    | tryConfigure agent ids =>
      change ConfigsChange s (d.configure agent ids s).2 ∧
        ContextsChange s (d.configure agent ids s).2
      rcases d.configure_cases agent ids s with ⟨outcome, same, -⟩ | created
      · rw [same]
        exact ⟨.same rfl rfl, .same rfl rfl⟩
      · rw [created]
        exact ⟨.created ids rfl rfl, .same rfl rfl⟩
    | destroyConfig config =>
      change ConfigsChange s (destroyConfig config s) ∧ ContextsChange s (destroyConfig config s)
      unfold destroyConfig
      split
      · exact ⟨.released config rfl rfl, .same rfl rfl⟩
      · exact ⟨.same rfl rfl, .same rfl rfl⟩
    | _ => cases spares

theorem ConfigsChange.next_le {s s' : State} (h : ConfigsChange s s') :
    s.nextConfig ≤ s'.nextConfig := by
  cases h with
  | same configs next => omega
  | created ids configs next => omega
  | released config configs next => omega

theorem ContextsChange.next_le {s s' : State} (h : ContextsChange s s') :
    s.nextContext ≤ s'.nextContext := by
  cases h with
  | same contexts next => omega
  | opened agent contexts next => omega
  | closed context contexts next => omega
  | written context ctx ctx' found agent bound contexts next => omega

/-- Every number in use was given out before. -/
structure State.Numbered (s : State) : Prop where
  config_lt : ∀ config ids, s.configs.find? config = some ids → config.val < s.nextConfig
  context_lt : ∀ context ctx, s.contexts.find? context = some ctx → context.val < s.nextContext
  bound_lt : ∀ context ctx config, s.contexts.find? context = some ctx →
    ctx.bound = some config → config.val < s.nextConfig

theorem numbered_initial (budgets : Budgets) : ({ budgets } : State).Numbered :=
  ⟨nofun, nofun, nofun⟩

section Numbered

variable {s s' : State}

/-- A configuration that is there was there before or is new. -/
theorem ConfigsChange.origin (h : ConfigsChange s s') {config : ConfigId} {ids : List CounterId}
    (found : s'.configs.find? config = some ids) :
    s.configs.find? config = some ids ∨
      config = ⟨s.nextConfig⟩ ∧ s'.nextConfig = s.nextConfig + 1 := by
  cases h with
  | same configs next => exact .inl (configs ▸ found)
  | created ids' configs next =>
    rw [configs] at found
    rcases Table.of_find?_insert found with ⟨new, -⟩ | old
    · exact .inr ⟨new.symm, next⟩
    · exact .inl old
  | released config' configs next =>
    rw [configs] at found
    exact .inl (Table.of_find?_erase found)

/-- A context that is there was there before, for the same agent, or is new. What it is bound to it
was bound to before, or it is live. -/
theorem ContextsChange.origin (h : ContextsChange s s') {context : ContextId} {ctx : Context}
    (found : s'.contexts.find? context = some ctx) :
    (∃ old, s.contexts.find? context = some old ∧ ctx.agent = old.agent ∧
      (ctx.bound = old.bound ∨
        ∃ config, ctx.bound = some config ∧ s.configs.contains config = true)) ∨
    (context = ⟨s.nextContext⟩ ∧ ctx.bound = none ∧ s'.nextContext = s.nextContext + 1) := by
  cases h with
  | same contexts next => exact .inl ⟨ctx, contexts ▸ found, rfl, .inl rfl⟩
  | opened agent contexts next =>
    rw [contexts] at found
    rcases Table.of_find?_insert found with ⟨new, rfl⟩ | old
    · exact .inr ⟨new.symm, rfl, next⟩
    · exact .inl ⟨ctx, old, rfl, .inl rfl⟩
  | closed context' contexts next =>
    rw [contexts] at found
    exact .inl ⟨ctx, Table.of_find?_erase found, rfl, .inl rfl⟩
  | written context' old new there agent bound contexts next =>
    rw [contexts] at found
    rcases Table.of_find?_insert found with ⟨rfl, rfl⟩ | other
    · exact .inl ⟨old, there, agent, bound⟩
    · exact .inl ⟨ctx, other, rfl, .inl rfl⟩

theorem ConfigsChange.lt (h : ConfigsChange s s') (numbered : s.Numbered) {config : ConfigId}
    {ids : List CounterId} (found : s'.configs.find? config = some ids) :
    config.val < s'.nextConfig := by
  rcases h.origin found with old | ⟨rfl, next⟩
  · exact Nat.lt_of_lt_of_le (numbered.config_lt config ids old) h.next_le
  · rw [next]
    exact Nat.lt_succ_self _

theorem ContextsChange.lt (h : ContextsChange s s') (numbered : s.Numbered) {context : ContextId}
    {ctx : Context} (found : s'.contexts.find? context = some ctx) :
    context.val < s'.nextContext := by
  rcases h.origin found with ⟨old, there, -⟩ | ⟨rfl, -, next⟩
  · exact Nat.lt_of_lt_of_le (numbered.context_lt context old there) h.next_le
  · rw [next]
    exact Nat.lt_succ_self _

theorem ContextsChange.bound_lt (h : ContextsChange s s') (numbered : s.Numbered)
    {context : ContextId} {ctx : Context} (found : s'.contexts.find? context = some ctx)
    {config : ConfigId} (holds : ctx.bound = some config) : config.val < s.nextConfig := by
  rcases h.origin found with ⟨old, there, -, same | ⟨config', new, live⟩⟩ | ⟨-, none, -⟩
  · exact numbered.bound_lt context old config there (same ▸ holds)
  · obtain rfl := Option.some.inj (new.symm.trans holds)
    obtain ⟨ids, there⟩ := Option.isSome_iff_exists.1 live
    exact numbered.config_lt config' ids there
  · rw [none] at holds
    cases holds

/-- Every call leaves only numbers in use that were given out before. -/
theorem State.Numbered.answer {d : Device} (h : s.Numbered) (c : Call) :
    (d.answer c s).2.Numbered := by
  obtain ⟨configs, contexts⟩ := d.answer_changes c s
  refine ⟨fun _ _ found => configs.lt h found, fun _ _ found => contexts.lt h found, ?_⟩
  intro context ctx config found holds
  have before := contexts.bound_lt h found holds
  have := configs.next_le
  omega

end Numbered

/-- As long as a context is open it belongs to the same agent. -/
theorem answer_context_agent (d : Device) (c : Call) {s : State} {context : ContextId}
    {agent : AgentId} (given : context.val < s.nextContext)
    (own : ∀ ctx, s.contexts.find? context = some ctx → ctx.agent = agent) :
    ∀ ctx, (d.answer c s).2.contexts.find? context = some ctx → ctx.agent = agent := by
  obtain ⟨-, contexts⟩ := d.answer_changes c s
  intro ctx found
  rcases contexts.origin found with ⟨old, there, same, -⟩ | ⟨rfl, -, -⟩
  · exact same.trans (own old there)
  · exact absurd given (Nat.lt_irrefl _)

end Device

end CounterSampling
