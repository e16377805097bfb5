import CounterSampling.Proofs.Renaming.Samplers
import CounterSampling.Proofs.Runs.Isolation
import CounterSampling.Proofs.Runs.Registries

/-!
# Sections do not depend on other agents

In a run each agent comes to what it would come to if it were sampled alone, and failures injected
for other agents make no difference to it. So the order in which agents take turns does not show in
the sections. Main statements: `run_section` and `parallel_sections`.
-/

namespace CounterSampling

open Device (SeesAlike State)

variable {f : ConfigId → ConfigId}

/-! ## Renamings that leave a cache alone -/

theorem ProfileSet.rename_eq (set : ProfileSet)
    (fixed : ∀ p ∈ set.profiles, f p.config = p.config) : set.rename f = set := by
  have profiles : set.profiles.map (Profile.rename f) = set.profiles.map id := by
    refine List.map_congr_left fun p mem => ?_
    rw [Profile.rename, fixed p mem]
    rfl
  rw [List.map_id] at profiles
  rw [ProfileSet.rename, profiles]

theorem ProfileCache.rename_eq (c : ProfileCache)
    (fixed : ∀ p ∈ c.profiles, f p.config = p.config) : c.rename f = c := by
  have sets : c.sets.map (Shared.map (ProfileSet.rename f)) = c.sets := by
    refine c.sets.map_eq_self fun x there => ?_
    have same : x.value.rename f = x.value := x.value.rename_eq fun p mem =>
      fixed p (List.mem_append_left _ (List.mem_flatMap.2 ⟨x, there, mem⟩))
    rw [Shared.map, same]
  have singles : c.singles.map (Shared.map (Profile.rename f)) = c.singles := by
    refine c.singles.map_eq_self fun x there => ?_
    have same := fixed x.value (List.mem_append_right _ (List.mem_map_of_mem there))
    rw [Shared.map, Profile.rename, same]
  rw [ProfileCache.rename, sets, singles]

theorem AgentSampler.rename_eq (a : AgentSampler)
    (fixed : ∀ p ∈ a.sampler.cache.profiles, f p.config = p.config) : a.rename f = a := by
  rw [AgentSampler.rename, Sampler.rename, a.sampler.cache.rename_eq fixed]

/-! ## One agent among others -/

/-- A state looks to an agent like the same state with other failures for the other agents, also if
numbers that were not given out yet are renamed. -/
theorem Device.State.Numbered.seesAlike {s : State} (numbered : s.Numbered) {agent : AgentId}
    {context : ContextId} (own : ∀ ctx, s.contexts.find? context = some ctx → ctx.agent = agent)
    (old : ∀ config, config.val < s.nextConfig → f config = config)
    (new : ∀ config, s.nextConfig ≤ config.val → s.nextConfig ≤ (f config).val)
    {budgets : Device.Budgets} (same : budgets.Same agent s.budgets) :
    SeesAlike f agent context { s with budgets } s := by
  refine ⟨fun config => ?_, ?_, own, same⟩
  · change s.configs.find? (f config) = s.configs.find? config
    by_cases given : config.val < s.nextConfig
    · rw [old config given]
    · have absent (config : ConfigId) (beyond : s.nextConfig ≤ config.val) :
          s.configs.find? config = none := by
        cases found : s.configs.find? config with
        | none => rfl
        | some ids =>
          have := numbered.config_lt config ids found
          omega
      have beyond : s.nextConfig ≤ config.val := Nat.not_lt.1 given
      rw [absent config beyond, absent (f config) (new config beyond)]
  · change s.contexts.find? context = (s.contexts.find? context).map _
    cases found : s.contexts.find? context with
    | none => rfl
    | some ctx =>
      have bound : ctx.bound.map f = ctx.bound := by
        cases holds : ctx.bound with
        | none => rfl
        | some config =>
          rw [Option.map_some, old config (numbered.bound_lt context ctx config found holds)]
      rw [Option.map_some, Context.rename, bound]

namespace Run

variable {d : Device} {infos : List AgentInfo} {s : State} {registry : Registry}

/-- Two places in a list whose entries differ in some respect. -/
theorem apart {β : Type} {samplers : List AgentSampler} (g : AgentSampler → β)
    (nodup : (samplers.map g).Nodup) {i j : Nat} {a a' : AgentSampler} (other : j ≠ i)
    (there : samplers[i]? = some a) (there' : samplers[j]? = some a') : g a' ≠ g a := by
  intro same
  obtain ⟨inside, rfl⟩ := List.getElem?_eq_some_iff.1 there
  obtain ⟨inside', rfl⟩ := List.getElem?_eq_some_iff.1 there'
  have inMap : i < (samplers.map g).length := by rwa [List.length_map]
  have inMap' : j < (samplers.map g).length := by rwa [List.length_map]
  have mapped : (samplers.map g)[j] = (samplers.map g)[i] := by
    rw [List.getElem_map, List.getElem_map, same]
  exact other (nodup.getElem_inj_iff.1 mapped)

theorem task_info {σ : Type} (b : Backend σ) (config : RunConfig) (a : AgentSampler) (s : σ) :
    ((task config a).run b s).1.2.info = a.info := by
  rw [run_task, Procedure.run_bind]
  rfl

theorem sectionOf_gpuId (info : AgentInfo) (outcome : AgentOutcome) :
    (sectionOf info outcome).gpuId = toString info.gpuId.toNat := by
  cases outcome <;> rfl

theorem task_manages (config : RunConfig) {a : AgentSampler} (attached : a.Attached d s) :
    (task config a).Manages d a.sampler.context (fun _ _ => True) [] := by
  have managed : (task config a).Manages d a.sampler.context _ [] :=
    task_managed config a attached.truthful List.nodup_nil
  exact managed.mono fun _ _ _ => trivial

/-- The part of another agent uses a context that is not of this one. -/
theorem task_elsewhere (config : RunConfig) {a : AgentSampler} (attached : a.Attached d s)
    {agent : AgentId} {context : ContextId} (apart : a.sampler.context ≠ context)
    (foreign : a.info.id ≠ agent) : (task config a).Elsewhere d f agent context s :=
  ⟨a.sampler.context, a.info.id, [], apart, foreign, attached.context.given,
    fun _ found => attached.own found, s.issued_nil, fun _ => List.not_mem_nil,
    task_manages config attached⟩

/-- When the agents of a run take turns, each comes to what it would come to alone, even if other
agents had other failures left. Up to the numbers of configurations it is asked and answered the
same, and its context is left the same. -/
theorem task_undisturbed (attached : Registry.Attached d infos s registry.samplers)
    (distinct : (infos.map AgentInfo.id).Nodup) (config : RunConfig) {turns : List (Nat × Event)}
    {outcomes : List (AgentOutcome × AgentSampler)} {s' : State}
    (taken : Procedure.Turns d.backend (registry.samplers.map (task config)) s turns outcomes s')
    {i : Nat} {a : AgentSampler} (there : registry.samplers[i]? = some a) {budgets : Device.Budgets}
    (same : budgets.Same a.info.id s.budgets) :
    let alone := (task config a).run d.backend { s with budgets }
    ∃ f, outcomes[i]? = some (alone.1.1, alone.1.2.rename f) ∧
      Procedure.eventsOf i turns =
        ((task config a).trace d.backend { s with budgets }).map (Event.rename f) ∧
      SeesAlike f a.info.id a.sampler.context alone.2 s' := by
  have each : ∀ (j : Nat) (a' : AgentSampler), registry.samplers[j]? = some a' → a'.Attached d s :=
    fun _ a' found => attached.each a' (List.mem_of_getElem? found)
  have mine := each i a there
  have ids : (registry.samplers.map fun a => a.info.id).Nodup := by
    rw [← attached.infos_eq, List.map_map] at distinct
    exact distinct
  have fits := taken.fits i
  have numbers := taken.made_numbers.1
  generalize renamed : Procedure.renumber s.nextConfig s'.nextConfig (Procedure.madeBy i turns) = f
    at fits
  have old : ∀ config, config.val < s.nextConfig → f config = config :=
    fun config lt => renamed ▸ Procedure.renumber_of_lt lt
  have new : ∀ config, s.nextConfig ≤ config.val → s.nextConfig ≤ (f config).val :=
    fun config ge => renamed ▸ Procedure.le_renumber
      (fun config' mem => (numbers (i, config') (Procedure.mem_madeBy.1 mem)).1) ge
  have task_there : (registry.samplers.map (task config))[i]? = some (task config a) := by
    rw [List.getElem?_map, there, Option.map_some]
  have renames := task_renames (f := f) config a
  rw [a.rename_eq fun p mem => old p.config (mine.issued p mem)] at renames
  have sees := attached.numbered.seesAlike (fun _ found => mine.own found) old new same
  have elsewhere : ∀ (j : Nat) p', j ≠ i → (registry.samplers.map (task config))[j]? = some p' →
      p'.Elsewhere d f a.info.id a.sampler.context s := by
    intro j p' other found
    rw [List.getElem?_map] at found
    obtain ⟨a', there', rfl⟩ := Option.map_eq_some_iff.1 found
    refine task_elsewhere config (each j a' there') ?_ ?_
    · exact apart _ attached.contexts other there there'
    · exact apart _ ids other there there'
  exact ⟨f, taken.undisturbed task_there
    ⟨renames, State.issued_nil _, task_manages config mine, sees, fits⟩ elsewhere⟩

theorem run_section (attached : Registry.Attached d infos s registry.samplers)
    (distinct : (infos.map AgentInfo.id).Nodup) (config : RunConfig) (schedule : List Nat) {i : Nat}
    {a : AgentSampler} (there : registry.samplers[i]? = some a) {budgets : Device.Budgets}
    (same : budgets.Same a.info.id s.budgets) :
    ((run registry config schedule).run d.backend s).1.sections[i]? =
      some (sectionOf a.info ((task config a).run d.backend { s with budgets }).1.1) := by
  obtain ⟨turns, -, taken⟩ := run_turns d.backend registry config schedule s
  obtain ⟨f, alone, -⟩ := task_undisturbed attached distinct config taken there same
  rw [Result.sections, List.getElem?_map, alone, Option.map_some]
  dsimp only [AgentSampler.rename]
  rw [task_info]

/-- However the agents of a run take turns, each section is what its agent comes to alone. -/
theorem run_sections (attached : Registry.Attached d infos s registry.samplers)
    (distinct : (infos.map AgentInfo.id).Nodup) (config : RunConfig) (schedule : List Nat) :
    ((run registry config schedule).run d.backend s).1.sections =
      registry.samplers.map fun a =>
        sectionOf a.info ((task config a).run d.backend s).1.1 := by
  apply List.ext_getElem?
  intro i
  rw [List.getElem?_map]
  cases there : registry.samplers[i]? with
  | none =>
    obtain ⟨turns, -, taken⟩ := run_turns d.backend registry config schedule s
    have length := taken.length_eq
    rw [List.length_map, ← length_sections] at length
    have outside : registry.samplers.length ≤ i := List.getElem?_eq_none_iff.1 there
    rw [← length] at outside
    exact List.getElem?_eq_none outside
  | some a => exact run_section attached distinct config schedule there (.refl _ _)

/-- Whether agents are sampled at the same time or one after another, whatever turns they take: the
sections are the same, one for each GPU in the order in which the GPUs were found. -/
theorem parallel_sections (on : registry.On d s)
    (distinct : ((d.agents.filter AgentInfo.isGpu).map AgentInfo.id).Nodup) (config : RunConfig)
    (schedule : List Nat) :
    let sections (parallel : Bool) : List GpuReport :=
      ((run registry { config with parallel } schedule).run d.backend s).1.sections
    sections true = sections false ∧
      (sections true).map GpuReport.gpuId =
        (d.agents.filter AgentInfo.isGpu).map fun info => toString info.gpuId.toNat := by
  have alone (parallel : Bool) :=
    run_sections on.attached distinct { config with parallel } schedule
  intro sections
  constructor
  · exact (alone true).trans (alone false).symm
  · rw [show sections true = _ from alone true, ← on.attached.infos_eq, List.map_map, List.map_map]
    exact List.map_congr_left fun a _ => sectionOf_gpuId a.info _

/-- A CPU and two GPUs; the first GPU refuses to be bound twice. -/
def twoGpus : Device.Builder :=
  let cpu : AgentInfo := ⟨⟨0⟩, .cpu, "cpu", 0, 0, 0⟩
  let gpu (n : UInt64) : AgentInfo := ⟨⟨n⟩, .gpu, "gfx942", 10000 + n, 128, 1⟩
  ((((((Device.Builder.agent {} cpu).agent (gpu 4)).agent (gpu 2)).counter "CYCLES" [] 1.0).counter
    "WAVES" [("XCC", 2)] 1.0).hwLimit 1).failBinds ⟨4⟩ 2

/-- Agents that take turns make the sections that they make one after another, also when one of them
has to be tried again. -/
theorem parallel_sections_two_gpus :
    match (Registry.discover 8 0).run twoGpus.device.backend twoGpus.initial with
    | (.error _, _) => False
    | (.ok registry, s) =>
      registry.On twoGpus.device s ∧
      ((twoGpus.device.agents.filter AgentInfo.isGpu).map AgentInfo.id).Nodup ∧
      let sections (parallel : Bool) : List GpuReport :=
        ((run registry { counters := ["WAVES", "CYCLES"], parallel } [0, 1, 1, 0]).run
          twoGpus.device.backend s).1.sections
      sections true = sections false ∧
        (sections true).map GpuReport.gpuId = ["10004", "10002"] := by
  have on : Registry.On twoGpus.device _ _ := .discovered 8 0 (Device.reached_initial twoGpus) rfl
  have distinct : ((twoGpus.device.agents.filter AgentInfo.isGpu).map AgentInfo.id).Nodup := by
    decide
  exact ⟨on, distinct,
    parallel_sections on distinct { counters := ["WAVES", "CYCLES"] } [0, 1, 1, 0]⟩

end Run

end CounterSampling
