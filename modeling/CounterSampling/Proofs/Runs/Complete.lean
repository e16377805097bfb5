import CounterSampling.Proofs.Runs.Discovery
import CounterSampling.Proofs.Runs.Failures
import CounterSampling.Proofs.Runs.Starts
import CounterSampling.Proofs.Sampling.Complete

/-!
# Runs on plain devices

On a plain device without failures every agent of a run that follows a discovery is sampled at the
first attempt. Its section is complete, it starts its context once for each profile, and in the end
no context is active. Main statement: `run_complete`.
-/

namespace CounterSampling

open Device (Failures State)

/-- No context is active if all that are open are idle. -/
theorem Device.State.activeContexts_eq_zero {s : Device.State}
    (idle : ∀ context ctx, s.contexts.find? context = some ctx → ctx.active = false) :
    s.activeContexts = 0 := by
  refine List.countP_eq_zero.2 fun ctx mem => ?_
  obtain ⟨context, found⟩ := Table.find?_of_mem_values mem
  rw [idle context ctx found]
  exact nofun

namespace Run

section First

variable {σ : Type} {b : Backend σ} {counters : List String} {output : SampleOutput}
  {e' : Sampler} {s s' : σ}

/-- If the first attempt succeeds, no other is made. -/
theorem tries_first {e : Sampler}
    (sampled : ((Sampler.sample counters).run.run e).run b s = ((.ok output, e'), s'))
    (more delay : Nat) :
    ((tries counters more delay).run e).run b s = ((.ok (output, e'.stats), e'), s') ∧
      ((tries counters more delay).run e).trace b s =
        ((Sampler.sample counters).run.run e).trace b s := by
  have ran : ((attempt counters).run e).run b s = ((.ok (output, e'.stats), e'), s') := by
    rw [run_attempt, Procedure.run_bind, sampled]
    rfl
  have trace : ((attempt counters).run e).trace b s =
      ((Sampler.sample counters).run.run e).trace b s := by
    rw [run_attempt, Procedure.trace_bind]
    exact List.append_nil _
  cases more with
  | zero => exact ⟨ran, trace⟩
  | succ more =>
    rw [run_tries_succ, Procedure.run_bind, Procedure.trace_bind, ran, trace]
    exact ⟨rfl, List.append_nil _⟩

theorem task_first (config : RunConfig) (a : AgentSampler)
    (sampled : ((Sampler.sample config.counterList).run.run a.sampler).run b s =
      ((.ok output, e'), s')) :
    (task config a).run b s = ((.ok (output, e'.stats), { a with sampler := e' }), s') ∧
      (task config a).trace b s =
        ((Sampler.sample config.counterList).run.run a.sampler).trace b s := by
  obtain ⟨ran, trace⟩ := tries_first sampled (max config.retries.toNat 1 - 1)
    config.retryDelayMs.toNat
  rw [run_task, Procedure.run_bind, Procedure.trace_bind, ran, trace]
  exact ⟨rfl, List.append_nil _⟩

end First

variable {d : Device} {most : Nat} {s : Device.State} {a : AgentSampler}

/-- What an agent comes to alone on a plain device, if its sampler is fresh and no failure is left
for it. -/
theorem task_complete (plain : d.Plain most) (there : a.info ∈ d.agents)
    (isGpu : a.info.isGpu = true) (attached : a.Attached d s) (fresh : Fresh d s a)
    (empty : a.sampler.cache.sets = .empty) (positive : 0 < a.sampler.maxPerProfile)
    (unhurt : s.budgets.failures a.info.id = ⟨0, 0, 0, 0⟩) (config : RunConfig) :
    let alone := (task config a).run d.backend s
    (sectionOf a.info alone.1.1).Complete d.counters config.counterList ∧
      alone.2.activity a.sampler.context = some false ∧
      ((task config a).trace d.backend s).countP Event.isStart =
        profilesNeeded (min d.hwLimit a.sampler.maxPerProfile)
          (supportedCount d.counters config.counterList) := by
  have agent := attached.agent
  rw [← agent] at unhurt
  have sound := fresh.use.sound
  have ready : Sampler.Ready d a.sampler [] s ⟨0, 0, 0, 0⟩ := ⟨sound, fresh.idle, unhurt⟩
  obtain ⟨set, made, all, many⟩ := Sampler.profileSet_greedy plain there isGpu agent sound.truthful
    empty positive config.counterList s
  rcases packed : ((Sampler.profileSet config.counterList).run.run a.sampler).run d.backend s with
    ⟨⟨r, e₁⟩, s₁⟩
  rw [packed] at made
  obtain rfl : r = .ok set := made
  obtain ⟨known, listing, names⟩ := plain.listing there isGpu
  have fits : ∀ p ∈ set.value.profiles, ¬Sampler.TooLarge p := by
    obtain ⟨stock₁, ready₁, agent₁, -, found⟩ := ready.packs packed
    obtain ⟨known', listing', inStock⟩ := ready₁.sound.sets _ set found
    intro p mem
    obtain ⟨members, made, -⟩ := inStock.profiles p mem
    rw [agent₁, agent] at listing' made
    exact plain.fits there isGpu listing' made
  obtain ⟨known', e', stock₁, stock', s', listing', inStock, sampled, ready', -⟩ :=
    Sampler.sample_outcome ready packed fits (.inr rfl)
  rw [agent] at listing' inStock
  obtain rfl : known = known' := Except.ok.inj (listing.symm.trans listing')
  obtain ⟨ran, trace⟩ := task_first config a sampled
  rw [ran, trace, Sampler.sample_starts packed (by rw [sampled]; rfl), many]
  refine ⟨Sampler.complete_of_set plain.unlimited listing names inStock all a.info, ?_, rfl⟩
  have managed := Sampler.sample_managed config.counterList a.sampler [] sound.truthful sound.nodup
  obtain ⟨stock₂, amid⟩ := Procedure.amid_run d
    ((Sampler.sample config.counterList).run.run a.sampler) [] s
  rw [sampled] at amid
  have context := (managed.amid sound.stores sound.numbered amid).1.context
  rw [← context]
  exact ready'.idle

variable {infos : List AgentInfo} {registry : Registry}

/-- If every agent starts contexts equally often, the starts of a run are so many times the number
of agents. -/
theorem run_starts (attached : Registry.Attached d infos s registry.samplers)
    (distinct : (infos.map AgentInfo.id).Nodup) (config : RunConfig) (schedule : List Nat)
    {count : Nat} (each : ∀ a ∈ registry.samplers,
      ((task config a).trace d.backend s).countP Event.isStart = count) :
    ((run registry config schedule).run d.backend s).2.starts =
      s.starts + infos.length * count := by
  obtain ⟨turns, -, taken⟩ := run_turns d.backend registry config schedule s
  have length : (registry.samplers.map (task config)).length = infos.length := by
    rw [← attached.infos_eq, List.length_map, List.length_map]
  have total := Procedure.countP_turns Event.isStart taken.index_lt
  rw [taken.starts, total, length, Finset.sum_const_nat (m := count), Finset.card_range]
  · rfl
  · intro i mem
    have inside : i < registry.samplers.length := by
      rw [← List.length_map (f := task config), length]
      exact Finset.mem_range.1 mem
    have there := List.getElem?_eq_getElem inside
    obtain ⟨f, -, events, -⟩ :=
      task_undisturbed attached distinct config taken there (.refl _ s.budgets)
    rw [events, List.countP_map]
    exact (List.countP_congr fun e _ => by rw [Function.comp, Event.isStart_rename]).trans
      (each _ (List.getElem_mem inside))

/-- If every agent leaves its context idle when it is alone, and there are no other contexts, then
no context is active after a run. -/
theorem run_idle (attached : Registry.Attached d infos s registry.samplers)
    (distinct : (infos.map AgentInfo.id).Nodup) (config : RunConfig) (schedule : List Nat)
    (only : ∀ context ctx, s.contexts.find? context = some ctx →
      ∃ a ∈ registry.samplers, a.sampler.context = context)
    (each : ∀ a ∈ registry.samplers,
      ((task config a).run d.backend s).2.activity a.sampler.context = some false) :
    ((run registry config schedule).run d.backend s).2.activeContexts = 0 := by
  obtain ⟨turns, -, taken⟩ := run_turns d.backend registry config schedule s
  generalize ((run registry config schedule).run d.backend s).2 = s' at taken
  refine s'.activeContexts_eq_zero fun context ctx there => ?_
  by_cases own : ∃ a ∈ registry.samplers, a.sampler.context = context
  · obtain ⟨a, mem, rfl⟩ := own
    obtain ⟨i, found⟩ := List.mem_iff_getElem?.1 mem
    obtain ⟨f, -, -, sees⟩ :=
      task_undisturbed attached distinct config taken found (.refl _ s.budgets)
    have idle := each a mem
    have same := sees.same
    rw [there] at same
    obtain ⟨ctx', alone, rfl⟩ := Option.map_eq_some_iff.1 same.symm
    rw [Device.State.activity, alone] at idle
    exact Option.some.inj idle
  · have before : s'.contexts.find? context = s.contexts.find? context := by
      refine taken.unused fun p mem => ?_
      obtain ⟨a, inside, rfl⟩ := List.mem_map.1 mem
      refine ⟨a.sampler.context, [], fun same => own ⟨a, inside, same⟩, State.issued_nil _, ?_⟩
      exact task_manages config (attached.each a inside)
    rw [there] at before
    exact absurd (only context ctx before.symm) own

/-- A run that follows a discovery on a plain device without failures: one complete section for each
GPU, in the order in which GPUs are listed, as many starts for each of them as it needs profiles,
and no active context in the end. -/
theorem run_complete (plain : d.Plain most) {before : Device.State} (reached : d.Reached before)
    (none : before.contexts = .empty)
    (unhurt : ∀ agent, before.budgets.failures agent = ⟨0, 0, 0, 0⟩) {maxPerProfile owner : Nat}
    (positive : 0 < maxPerProfile)
    (found : (Registry.discover maxPerProfile owner).run d.backend before = (.ok registry, s))
    (config : RunConfig) (schedule : List Nat) :
    let gpus := d.agents.filter AgentInfo.isGpu
    let ran := (run registry config schedule).run d.backend s
    List.Forall₂ (fun info g => (∃ outcome, g = sectionOf info outcome) ∧
        g.Complete d.counters config.counterList) gpus ran.1.sections ∧
      ran.2.starts = s.starts + gpus.length * profilesNeeded (min d.hwLimit maxPerProfile)
        (supportedCount d.counters config.counterList) ∧
      ran.2.activeContexts = 0 := by
  intro gpus ran
  have attached := Registry.discover_attached reached.numbered found
  have opened := Registry.discover_opened none found
  have fresh := discover_fresh reached found
  have distinct : (gpus.map AgentInfo.id).Nodup :=
    plain.agents.sublist (List.filter_sublist.map _)
  have alone (a : AgentSampler) (mem : a ∈ registry.samplers) := by
    have listed : a.info ∈ d.agents.filter AgentInfo.isGpu :=
      attached.infos_eq ▸ List.mem_map_of_mem mem
    obtain ⟨there, isGpu⟩ := List.mem_filter.1 listed
    have limit := opened.limit a mem
    have complete := task_complete plain there isGpu (attached.each a mem) (fresh a mem)
      (opened.empty a mem) (limit ▸ positive) (opened.budgets ▸ unhurt a.info.id) config
    rw [limit] at complete
    exact complete
  refine ⟨?_, ?_, ?_⟩
  · rw [show ran.1.sections = _ from run_sections attached distinct config schedule,
      show gpus = registry.samplers.map _ from attached.infos_eq.symm,
      List.forall₂_map_left_iff, List.forall₂_map_right_iff, List.forall₂_same]
    exact fun a mem => ⟨⟨_, rfl⟩, (alone a mem).1⟩
  · exact run_starts attached distinct config schedule fun a mem => (alone a mem).2.2
  · exact run_idle attached distinct config schedule opened.only fun a mem => (alone a mem).2.1

end Run

end CounterSampling
