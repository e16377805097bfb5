import CounterSampling.Proofs.Runs.Registries

/-!
# Discovery

On a device whose agents can be listed and among which there is a GPU, discovery succeeds: a context
can be created for every agent that is listed. `Opened` says what the samplers are like that it has
created, and what they leave on a device that had no contexts before.
-/

namespace CounterSampling

variable {d : Device} {s : Device.State}

/-- A sampler can be created for every agent of the device. -/
theorem Sampler.new_succeeds {info : AgentInfo} (there : info ∈ d.agents)
    (owner maxPerProfile : Nat) (s : Device.State) :
    ∃ e s', (Sampler.new info.id owner maxPerProfile).run d.backend s = (.ok e, s') := by
  have listed : (d.agents.any fun a => decide (a.id = info.id)) = true :=
    List.any_eq_true.2 ⟨info, there, decide_eq_true rfl⟩
  simp only [Sampler.new, Procedure.call, Procedure.bind_ask, Procedure.bind_done,
    Procedure.run_ask]
  rw [show d.backend.answer (.createContext info.id) s = d.createContext info.id s from rfl,
    Device.createContext, listed]
  exact ⟨_, _, rfl⟩

namespace Registry

theorem openAll_succeeds {infos : List AgentInfo} (there : ∀ info ∈ infos, info ∈ d.agents)
    (maxPerProfile owner : Nat) (opened : List AgentSampler) (s : Device.State) :
    ∃ r s', (openAll maxPerProfile owner opened infos).run d.backend s = (.ok r, s') := by
  induction infos generalizing owner opened s with
  | nil => exact ⟨⟨opened⟩, s, rfl⟩
  | cons info infos ih =>
    obtain ⟨first, later⟩ := List.forall_mem_cons.1 there
    obtain ⟨e, s₁, created⟩ := Sampler.new_succeeds first owner maxPerProfile s
    rw [openAll, Procedure.run_bind, created]
    exact ih later _ _ _

/-- Discovery succeeds if the agents can be listed and one of them is a GPU. -/
theorem discover_succeeds (listed : d.failEnumeration = false) {gpu : AgentInfo}
    (there : gpu ∈ d.agents) (isGpu : gpu.isGpu = true) (maxPerProfile owner : Nat)
    (s : Device.State) :
    ∃ r s', (discover maxPerProfile owner).run d.backend s = (.ok r, s') := by
  have agents : d.backend.answer .agents s = (.ok d.agents, s) := by
    change (d.listAgents, s) = _
    rw [Device.listAgents, listed]
    rfl
  have mem := List.mem_filter.2 ⟨there, isGpu⟩
  simp only [discover, Procedure.call, Procedure.bind_ask, Procedure.bind_done,
    Procedure.run_ask, agents]
  cases gpus : d.agents.filter AgentInfo.isGpu with
  | nil =>
    rw [gpus] at mem
    cases mem
  | cons info infos =>
    refine openAll_succeeds (fun a inside => ?_) maxPerProfile owner [] s
    rw [← gpus] at inside
    exact (List.mem_filter.1 inside).1

/-- Samplers that were just created on a device that had been in a state without contexts. -/
structure Opened (maxPerProfile : Nat) (before s : Device.State) (samplers : List AgentSampler) :
    Prop where
  budgets : s.budgets = before.budgets
  starts : s.starts = before.starts
  empty : ∀ a ∈ samplers, a.sampler.cache.sets = .empty
  limit : ∀ a ∈ samplers, a.sampler.maxPerProfile = maxPerProfile
  /-- There are no other contexts. -/
  only : ∀ context ctx, s.contexts.find? context = some ctx →
    ∃ a ∈ samplers, a.sampler.context = context

theorem Opened.new {maxPerProfile : Nat} {before s' : Device.State} {samplers : List AgentSampler}
    (h : Opened maxPerProfile before s samplers) (info : AgentInfo) (owner : Nat) {e : Sampler}
    (created : (Sampler.new info.id owner maxPerProfile).run d.backend s = (.ok e, s')) :
    Opened maxPerProfile before s' (samplers ++ [⟨info, e⟩]) := by
  obtain ⟨rfl, contexts, answered⟩ := Sampler.new_ok created
  have unchanged : s'.budgets = s.budgets ∧ s'.starts = s.starts := by
    rw [← answered]
    change (d.createContext info.id s).2.budgets = _ ∧ (d.createContext info.id s).2.starts = _
    rcases d.createContext_cases info.id s with ⟨cause, refused⟩ | opened
    · rw [refused]
      exact ⟨rfl, rfl⟩
    · rw [opened]
      exact ⟨rfl, rfl⟩
  refine ⟨unchanged.1.trans h.budgets, unchanged.2.trans h.starts, ?_, ?_, ?_⟩
  · exact List.forall_mem_append.2 ⟨h.empty, List.forall_mem_singleton.2 rfl⟩
  · exact List.forall_mem_append.2 ⟨h.limit, List.forall_mem_singleton.2 rfl⟩
  · intro context ctx found
    rw [contexts] at found
    rcases Table.of_find?_insert found with ⟨same, -⟩ | old
    · exact ⟨_, List.mem_append_right _ List.mem_cons_self, same⟩
    · obtain ⟨a, mem, same⟩ := h.only context ctx old
      exact ⟨a, List.mem_append_left _ mem, same⟩

theorem discover_opened {before : Device.State} (none : before.contexts = .empty)
    {maxPerProfile owner : Nat} {r : Registry}
    (found : (discover maxPerProfile owner).run d.backend before = (.ok r, s)) :
    Opened maxPerProfile before s r.samplers := by
  refine discover_keeps (P := fun _ s samplers => Opened maxPerProfile before s samplers)
    (fun info owner h created => h.new info owner created) ⟨rfl, rfl, nofun, nofun, ?_⟩ found
  intro context ctx there
  rw [none] at there
  cases there

end Registry

end CounterSampling
