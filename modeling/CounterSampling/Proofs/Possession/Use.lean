import CounterSampling.Device.Builder
import CounterSampling.Proofs.Possession.Samplers

/-!
# Samplers in use

`Device.Reached` and `Sampler.InUse` say how a device and a sampler can come about: the device was
used by anybody before, then the sampler was created and used for anything it can be used for, and
all the time others made calls in between, as long as they did not release what the sampler holds.
However it was used, a sampler knows only what is true, and its profiles are there.
-/

namespace CounterSampling

/-- What holds of a state and of every answer to a call holds when a procedure ends. -/
theorem Procedure.run_preserves {σ α : Type} {b : Backend σ} {P : σ → Prop}
    (answer : ∀ c s, P s → P (b.answer c s).2) (p : Procedure α) {s : σ} (h : P s) :
    P (p.run b s).2 := by
  induction p generalizing s with
  | done a => exact h
  | ask c next ih => exact ih _ (answer c s h)

/-- The states that a device can come to, with failures injected for any agents. -/
inductive Device.Reached (d : Device) : Device.State → Prop
  | initial (budgets : Device.Budgets) : Reached d { budgets }
  | called {s : Device.State} (c : Call) (reached : Reached d s) : Reached d (d.answer c s).2
  | readFailures {s : Device.State} (agent : AgentId) (times : Nat) (reached : Reached d s) :
    Reached d (s.injectReadFailures agent times)

theorem Device.reached_initial (b : Device.Builder) : b.device.Reached b.initial :=
  .initial b.budgets

theorem Device.State.Numbered.withBudgets {s : Device.State} (h : s.Numbered)
    (budgets : Device.Budgets) : ({ s with budgets } : Device.State).Numbered :=
  ⟨h.config_lt, h.context_lt, h.bound_lt⟩

theorem Device.Reached.numbered {d : Device} {s : Device.State} (h : d.Reached s) :
    s.Numbered := by
  induction h with
  | initial budgets => exact Device.numbered_initial budgets
  | called c reached ih => exact ih.answer c
  | readFailures agent times reached ih => exact ih.withBudgets _

namespace Sampler

variable {d : Device} {e e' : Sampler} {stock stock' : Stock} {s s' : Device.State}

/-- What a sampler can be used for, and putting another limit on its profiles. -/
inductive Operation where
  | supportedCounters
  | positionsOf (r : Record)
  | profileSet (counters : List String)
  | sample (counters : List String)
  | sampleProfileSet (set : ProfileSet)
  | sampleRecords (counters : List String)
  | withMaxPerProfile (n : Nat)

/-- An operation, whatever comes of it. -/
def Operation.steps : Operation → StateT Sampler Procedure Unit
  | .supportedCounters => discard Sampler.supportedCounters.run
  | .positionsOf r => discard (Sampler.positionsOf r).run
  | .profileSet counters => discard (Sampler.profileSet counters).run
  | .sample counters => discard (Sampler.sample counters).run
  | .sampleProfileSet set => discard (Sampler.sampleProfileSet set).run
  | .sampleRecords counters => discard (Sampler.sampleRecords counters).run
  | .withMaxPerProfile n => modify fun e => e.withMaxPerProfile n

theorem Operation.steps_managed (d : Device) (op : Operation) : Managed d op.steps := by
  have discarded {α : Type} {m : StateT Sampler Procedure α} (h : Managed d m) :
      Managed d (discard m) :=
    h.bind fun _ => managed_pure ()
  cases op with
  | supportedCounters => exact discarded supportedCounters_managed
  | positionsOf r => exact discarded (positionsOf_managed r)
  | profileSet counters => exact discarded (profileSet_managed counters)
  | sample counters => exact discarded (sample_managed counters)
  | sampleProfileSet set => exact discarded (sampleProfileSet_managed set)
  | sampleRecords counters => exact discarded (sampleRecords_managed counters)
  | withMaxPerProfile n =>
    exact fun e stock truthful nodup => ⟨rfl, rfl, truthful, .refl _ _ nodup⟩

/-- What creating a sampler gives, if it succeeds. -/
theorem new_ok {agent : AgentId} {owner maxPerProfile : Nat}
    (created : (Sampler.new agent owner maxPerProfile).run d.backend s = (.ok e, s')) :
    e = ⟨agent, ⟨s.nextContext⟩, .new agent, .new owner, maxPerProfile⟩ ∧
      s'.contexts = s.contexts.insert ⟨s.nextContext⟩ ⟨agent, none, false⟩ ∧
      (d.answer (.createContext agent) s).2 = s' := by
  simp only [Sampler.new, Procedure.call, Procedure.bind_ask, Procedure.bind_done,
    Procedure.run_ask] at created
  generalize answered : d.backend.answer (.createContext agent) s = y at created
  change d.createContext agent s = y at answered
  rcases d.createContext_cases agent s with ⟨cause, refused⟩ | opened
  · rw [← answered, refused] at created
    cases created
  · rw [← answered, opened] at created
    cases created
    exact ⟨rfl, rfl, congrArg Prod.snd opened⟩

/-- A sampler that was created on a device and then used, with what it holds and the state it is
used in. -/
inductive InUse (d : Device) : Sampler → Stock → Device.State → Prop
  | created {e : Sampler} {s s' : Device.State} (agent : AgentId) (owner maxPerProfile : Nat)
    (reached : d.Reached s)
    (created : (Sampler.new agent owner maxPerProfile).run d.backend s = (.ok e, s')) :
    InUse d e [] s'
  | used {e e' : Sampler} {stock stock' : Stock} {s s' : Device.State} (op : Operation)
    (use : InUse d e stock s) (amid : (op.steps.run e).Amid d stock s ((), e') stock' s') :
    InUse d e' stock' s'
  /-- Somebody else makes a call. -/
  | called {e : Sampler} {stock : Stock} {s : Device.State} (c : Call)
    (spares : ∀ config, c.released? = some config → config ∉ stock.configs)
    (use : InUse d e stock s) : InUse d e stock (d.answer c s).2
  | readFailures {e : Sampler} {stock : Stock} {s : Device.State} (agent : AgentId) (times : Nat)
    (use : InUse d e stock s) : InUse d e stock (s.injectReadFailures agent times)

/-- The context of a sampler is its own. -/
structure OwnsContext (e : Sampler) (s : Device.State) : Prop where
  given : e.context.val < s.nextContext
  own : ∀ ctx, s.contexts.find? e.context = some ctx → ctx.agent = e.agent

/-- The context of a sampler that was just created is there, and idle. -/
theorem new_opened {agent : AgentId} {owner maxPerProfile : Nat}
    (created : (Sampler.new agent owner maxPerProfile).run d.backend s = (.ok e, s')) :
    s'.contexts.find? e.context = some ⟨agent, none, false⟩ := by
  obtain ⟨rfl, contexts, -⟩ := new_ok created
  rw [contexts, Table.find?_insert, if_pos rfl]

theorem new_ownsContext {agent : AgentId} {owner maxPerProfile : Nat} (numbered : s'.Numbered)
    (created : (Sampler.new agent owner maxPerProfile).run d.backend s = (.ok e, s')) :
    e.OwnsContext s' := by
  have opened := new_opened created
  obtain ⟨rfl, -, -⟩ := new_ok created
  refine ⟨numbered.context_lt _ _ opened, fun ctx found => ?_⟩
  rw [← Option.some.inj (opened.symm.trans found)]

theorem OwnsContext.answer (h : e.OwnsContext s) (c : Call) :
    e.OwnsContext (d.answer c s).2 :=
  ⟨Nat.lt_of_lt_of_le h.given (d.answer_changes c s).2.next_le,
    d.answer_context_agent c h.given h.own⟩

theorem Extends.ownsContext {before : Stock} (h : e.Extends d e' before stock)
    (owns : e.OwnsContext s) : e'.OwnsContext s := by
  refine ⟨?_, ?_⟩
  · rw [h.context]
    exact owns.given
  · rw [h.context, h.agent]
    exact owns.own

/-- What holds of a sampler in use. -/
structure Sound (d : Device) (e : Sampler) (stock : Stock) (s : Device.State) : Prop where
  truthful : e.Truthful d
  numbered : s.Numbered
  stores : s.Stores stock
  nodup : stock.configs.Nodup
  sets : ∀ key x, e.cache.sets.find? key = some x → x.value.Stocked d e.agent stock key
  singles : ∀ names x, e.cache.singles.find? names = some x →
    x.value.Stocked d e.agent stock names
  context : e.OwnsContext s

/-- A sampler stays sound when it is used properly, whatever others do in between. -/
theorem Sound.manages {α : Type} {p : Procedure α} {a : α} {Q : Stock → α → Prop}
    (h : e.Sound d stock s) (manages : p.Manages d e.context Q stock)
    (uses : ∀ stock', Q stock' a → e.Extends d e' stock stock')
    (amid : p.Amid d stock s a stock' s') : Q stock' a ∧ e'.Sound d stock' s' := by
  obtain ⟨result, stores⟩ := manages.amid h.stores h.numbered amid
  have used := uses stock' result
  have numbered : s'.Numbered := amid.preserves (fun c _ numbered => numbered.answer c) h.numbered
  have context : e.OwnsContext s' := amid.preserves (fun c _ owns => owns.answer c) h.context
  have within := used.cache.suffix.subset
  refine ⟨result, used.truthful, numbered, stores, used.cache.nodup, fun key x found => ?_,
    fun names x found => ?_, used.ownsContext context⟩
  · rw [used.agent]
    rcases used.cache.sets key x found with old | new
    · exact (h.sets key x old).subset within
    · exact new
  · rw [used.agent]
    rcases used.cache.singles names x found with old | new
    · exact (h.singles names x old).subset within
    · exact new

theorem Sound.called (h : e.Sound d stock s) {c : Call}
    (spares : ∀ config, c.released? = some config → config ∉ stock.configs) :
    e.Sound d stock (d.answer c s).2 :=
  ⟨h.truthful, h.numbered.answer c, h.stores.others h.numbered spares, h.nodup, h.sets,
    h.singles, h.context.answer c⟩

/-- Which failures are left makes no difference. -/
theorem Sound.withBudgets (h : e.Sound d stock s) (budgets : Device.Budgets) :
    e.Sound d stock { s with budgets } :=
  ⟨h.truthful, h.numbered.withBudgets budgets, h.stores, h.nodup, h.sets, h.singles,
    h.context.given, h.context.own⟩

theorem InUse.sound (h : e.InUse d stock s) : e.Sound d stock s := by
  induction h with
  | @created e s s' agent owner maxPerProfile reached created =>
    obtain ⟨rfl, -, answered⟩ := new_ok created
    have numbered : s'.Numbered := answered ▸ reached.numbered.answer (.createContext agent)
    exact ⟨Catalog.truthful_new d.facts agent, numbered, nofun, List.nodup_nil, nofun, nofun,
      new_ownsContext numbered created⟩
  | used op use amid ih =>
    have managed := op.steps_managed d _ _ ih.truthful ih.nodup
    exact (ih.manages managed (fun _ used => used) amid).2
  | called c spares use ih => exact ih.called spares
  | readFailures agent times use ih => exact ih.withBudgets _

end Sampler

end CounterSampling
