import CounterSampling.Proofs.Runs.Independence
import CounterSampling.Proofs.Sampling.Outcomes

/-!
# Runs with injected failures

While failures are left for an agent, each attempt to sample it uses some of them up and fails. So
its section is that of a run without failures if there are more attempts than failing ones, and
tells where the last attempt failed otherwise. Main statement: `run_failures`.
-/

namespace CounterSampling

open Device (Failures injected)

namespace Run

open Sampler (TooLarge Ready outcome outputOf recordsIn addAll)

variable {d : Device} {e : Sampler} {stock : Stock} {s : Device.State} {n : Failures}

/-- The section of an agent whose set is this one. -/
def sectionOfSet (d : Device) (info : AgentInfo) (known : NameMap CounterId) (set : ProfileSet) :
    GpuReport :=
  .success info (addAll .empty (recordsIn d known set.profiles)).entries set.unpackable
    set.unsupported

/-- The section of an agent whose last attempt failed at a stage. -/
def sectionOfFailure (info : AgentInfo) (agent : AgentId) (stage : SamplingStage) : GpuReport :=
  .failure info (SamplerError.sampling agent stage (injected stage)).message

/-- What comes of an attempt. -/
theorem attempt_outcome {counters : List String} {set : Shared ProfileSet} {e₁ : Sampler}
    {s₁ : Device.State} (ready : Ready d e stock s n)
    (packed : ((Sampler.profileSet counters).run.run e).run d.backend s = ((.ok set, e₁), s₁))
    (fits : ∀ p ∈ set.value.profiles, ¬TooLarge p) (met : set.value.profiles ≠ []) :
    ∃ known e' stock' s', d.facts.listing e.agent = .ok known ∧
      ((attempt counters).run e).run d.backend s =
        ((attemptOutcome (outcome e.agent n (outputOf set.value
          (addAll .empty (recordsIn d known set.value.profiles)))) e'.stats, e'), s') ∧
      Ready d e' stock' s' n.next ∧ e'.agent = e.agent ∧
      ∃ e₂, ((Sampler.profileSet counters).run.run e').run d.backend s' = ((.ok set, e₂), s') := by
  obtain ⟨known, e', -, stock', s', listing, -, run, ready', agent, cached⟩ :=
    Sampler.sample_outcome ready packed fits (.inl met)
  refine ⟨known, e', stock', s', listing, ?_, ready', agent,
    { e' with cache := e'.cache.hit }, ?_⟩
  · rw [run_attempt, Procedure.run_bind, run]
    rfl
  · rw [Sampler.profileSet_cached cached]
    rfl

/-- What comes of an agent that is tried again until its failures are used up. -/
theorem tries_section {counters : List String} {set : Shared ProfileSet} {e₁ : Sampler}
    {s₁ : Device.State} (ready : Ready d e stock s n)
    (packed : ((Sampler.profileSet counters).run.run e).run d.backend s = ((.ok set, e₁), s₁))
    (fits : ∀ p ∈ set.value.profiles, ¬TooLarge p) (met : set.value.profiles ≠ [])
    {known : NameMap CounterId} (listing : d.facts.listing e.agent = .ok known) (info : AgentInfo)
    (more delay : Nat) :
    sectionOf info (((tries counters more delay).run e).run d.backend s).1.1 =
      if n.attempts ≤ more then sectionOfSet d info known set.value
      else sectionOfFailure info e.agent (n.stageAt more) := by
  induction more generalizing e stock s n e₁ s₁ delay with
  | zero =>
    obtain ⟨known', e', stock', s', listing', attempted, -⟩ :=
      attempt_outcome ready packed fits met
    obtain rfl : known = known' := Except.ok.inj (listing.symm.trans listing')
    rw [run_tries_zero, attempted]
    cases fails : n.stage? with
    | none =>
      rw [Sampler.outcome_of_none fails, if_pos (Nat.le_of_eq (n.stage?_eq_none_iff.1 fails))]
      rfl
    | some stage =>
      have left : ¬n.attempts ≤ 0 := fun none => by
        rw [n.stage?_eq_none_iff.2 (Nat.le_zero.1 none)] at fails
        cases fails
      rw [Sampler.outcome_of_stage fails, if_neg left, Failures.stage?_eq_stageAt fails]
      rfl
  | succ more ih =>
    obtain ⟨known', e', stock', s', listing', attempted, ready', agent, e₂, packed'⟩ :=
      attempt_outcome ready packed fits met
    obtain rfl : known = known' := Except.ok.inj (listing.symm.trans listing')
    rw [run_tries_succ, Procedure.run_bind, attempted]
    cases fails : n.stage? with
    | none =>
      have none := n.stage?_eq_none_iff.1 fails
      rw [Sampler.outcome_of_none fails, if_pos (by omega)]
      rfl
    | some stage =>
      rw [Sampler.outcome_of_stage fails]
      change sectionOf info
        (((tries counters more (nextPause delay)).run e').run d.backend s').1.1 = _
      rw [ih ready' packed' (agent ▸ listing) (nextPause delay), n.attempts_next, n.stageAt_next,
        agent]
      simp only [Nat.sub_le_iff_le_add]

/-! ## Registries that were just discovered -/

/-- A sampler of a registry that was just discovered is idle and holds nothing. -/
structure Fresh (d : Device) (s : Device.State) (a : AgentSampler) : Prop where
  use : a.sampler.InUse d [] s
  idle : s.activity a.sampler.context = some false

theorem Fresh.createContext {a : AgentSampler} (h : Fresh d s a) (agent : AgentId) :
    Fresh d (d.answer (.createContext agent) s).2 a := by
  refine ⟨h.use.called (.createContext agent) nofun, ?_⟩
  have given := h.use.sound.context.given
  change (d.createContext agent s).2.activity a.sampler.context = some false
  rcases d.createContext_cases agent s with ⟨cause, refused⟩ | opened
  · rw [refused]
    exact h.idle
  · have other : (⟨s.nextContext⟩ : ContextId) ≠ a.sampler.context := by
      intro same
      rw [← same] at given
      exact Nat.lt_irrefl _ given
    rw [opened, Device.State.activity, Table.find?_insert, if_neg other]
    exact h.idle

theorem discover_fresh {s₀ : Device.State} (reached : d.Reached s₀) {maxPerProfile owner : Nat}
    {registry : Registry}
    (found : (Registry.discover maxPerProfile owner).run d.backend s₀ = (.ok registry, s)) :
    ∀ a ∈ registry.samplers, Fresh d s a := by
  have all := Registry.discover_keeps (d := d)
    (P := fun _ s samplers => d.Reached s ∧ ∀ a ∈ samplers, Fresh d s a) ?_ ⟨reached, nofun⟩ found
  · exact all.2
  intro _ s samplers e s' info owner ⟨reached, fresh⟩ created
  have use := Sampler.InUse.created info.id owner maxPerProfile reached created
  have opened := Sampler.new_opened created
  obtain ⟨rfl, -, answered⟩ := Sampler.new_ok created
  refine ⟨answered ▸ reached.called (.createContext info.id), fun a mem => ?_⟩
  rcases List.mem_append.1 mem with old | new
  · exact answered ▸ (fresh a old).createContext info.id
  · obtain rfl := List.mem_singleton.1 new
    refine ⟨use, ?_⟩
    rw [Device.State.activity, opened]
    rfl

/-- The section of an agent that is fresh, with any failures left: it depends on those of its own
GPU only, and on how many attempts there may be. -/
theorem section_of_failures {infos : List AgentInfo} {registry : Registry}
    (attached : Registry.Attached d infos s registry.samplers)
    (distinct : (infos.map AgentInfo.id).Nodup) (config : RunConfig) {i : Nat} {a : AgentSampler}
    (there : registry.samplers[i]? = some a) (fresh : Fresh d s a) {set : Shared ProfileSet}
    (packed : (((Sampler.profileSet config.counterList).run.run a.sampler).run d.backend s).1.1 =
      .ok set)
    (met : set.value.profiles ≠ []) (fits : ∀ p ∈ set.value.profiles, ¬TooLarge p) :
    ∃ known, ∀ (budgets : Device.Budgets) (schedule : List Nat),
      ((run registry config schedule).run d.backend { s with budgets }).1.sections[i]? =
        some (if (budgets.failures a.info.id).attempts ≤ max config.retries.toNat 1 - 1 then
            sectionOfSet d a.info known set.value
          else sectionOfFailure a.info a.info.id
            ((budgets.failures a.info.id).stageAt (max config.retries.toNat 1 - 1))) := by
  have agent := (attached.each a (List.mem_of_getElem? there)).agent
  rcases run_packed : ((Sampler.profileSet config.counterList).run.run a.sampler).run d.backend s
    with ⟨⟨r, e₁⟩, s₁⟩
  rw [run_packed] at packed
  obtain rfl : r = .ok set := packed
  have ready (budgets : Device.Budgets) :
      Ready d a.sampler [] { s with budgets } (budgets.failures a.info.id) :=
    ⟨fresh.use.sound.withBudgets budgets, fresh.idle, by rw [agent]⟩
  obtain ⟨known, -, -, -, -, listing, -⟩ :=
    Sampler.sample_outcome (ready s.budgets) run_packed fits (.inl met)
  refine ⟨known, fun budgets schedule => ?_⟩
  have section_eq := run_section (attached.withBudgets budgets) distinct config schedule there
    (.refl _ budgets)
  -- Packing meets no failures, so the set is the same whatever failures are left.
  have builds := Sampler.profileSet_builds config.counterList a.sampler
  have packed' := Sampler.run_withBudgets (d := d) builds s budgets
  rw [run_packed] at packed'
  have tried := tries_section (ready budgets) packed' fits met listing a.info
    (max config.retries.toNat 1 - 1) config.retryDelayMs.toNat
  rw [agent] at tried
  rw [← tried]
  refine section_eq.trans ?_
  rw [run_task, Procedure.run_bind]
  rfl

/-- What comes of an agent of a registry that was just discovered, with any failures injected for
its GPUs. It is ok if there are more attempts than its failures make fail, and then it is as without
failures; otherwise all attempts are made, and the section tells at which stage the last one failed.
Failures of other agents do not show. -/
theorem run_failures {s₀ : Device.State} (reached : d.Reached s₀) {maxPerProfile owner : Nat}
    {registry : Registry}
    (found : (Registry.discover maxPerProfile owner).run d.backend s₀ = (.ok registry, s))
    (distinct : ((d.agents.filter AgentInfo.isGpu).map AgentInfo.id).Nodup) (config : RunConfig)
    {i : Nat} {a : AgentSampler} (there : registry.samplers[i]? = some a) {set : Shared ProfileSet}
    (packed : (((Sampler.profileSet config.counterList).run.run a.sampler).run d.backend s).1.1 =
      .ok set)
    (met : set.value.profiles ≠ []) (fits : ∀ p ∈ set.value.profiles, ¬TooLarge p)
    (budgets : Device.Budgets) (schedule : List Nat) :
    let n := budgets.failures a.info.id
    let limit := max 1 config.retries.toNat
    let sections (budgets : Device.Budgets) (schedule : List Nat) : List GpuReport :=
      ((run registry config schedule).run d.backend { s with budgets }).1.sections
    ∃ g, (sections budgets schedule)[i]? = some g ∧
      (g.isOk = true ↔ n.bind + n.start + max n.read n.stop < limit) ∧
      (g.isOk = true → ∀ schedule', (sections {} schedule')[i]? = some g) ∧
      (g.isOk = false →
        let stage : SamplingStage :=
          if limit ≤ n.bind then .bind
          else if limit ≤ n.bind + n.start then .start
          else if limit ≤ n.bind + n.start + n.read then .read
          else .stop
        g.error = some (SamplerError.sampling a.info.id stage (injected stage)).message ∧
        ∃ turns attempts last,
          Made d.backend registry config schedule { s with budgets } i a.sampler turns attempts ∧
          attempts.length = limit ∧ attempts.getLast? = some last ∧
          last.result = .error (.error (.sampling a.info.id stage (injected stage)))) ∧
      ∀ (j : Nat) (a' : AgentSampler) budgets' schedule', registry.samplers[j]? = some a' →
        budgets.Same a'.info.id budgets' →
          (sections budgets' schedule')[j]? = (sections budgets schedule)[j]? := by
  intro n limit sections
  have attached := Registry.discover_attached reached.numbered found
  have fresh := discover_fresh reached found a (List.mem_of_getElem? there)
  obtain ⟨known, alone⟩ :=
    section_of_failures attached distinct config there fresh packed met fits
  have others (j : Nat) (a' : AgentSampler) (budgets' : Device.Budgets) (schedule' : List Nat)
      (there' : registry.samplers[j]? = some a') (same : budgets.Same a'.info.id budgets') :
      (sections budgets' schedule')[j]? = (sections budgets schedule)[j]? := by
    have after := run_section (attached.withBudgets budgets') distinct config schedule' there' same
    have before := run_section (attached.withBudgets budgets) distinct config schedule there'
      (.refl _ budgets)
    exact after.trans before.symm
  refine ⟨_, alone budgets schedule, ?_⟩
  rw [show max config.retries.toNat 1 = limit from Nat.max_comm _ _]
  have positive : 0 < limit := Nat.lt_of_lt_of_le Nat.zero_lt_one (Nat.le_max_left _ _)
  by_cases enough : n.attempts ≤ limit - 1
  · rw [if_pos enough]
    refine ⟨⟨fun _ => ?_, fun _ => rfl⟩, fun _ schedule' => ?_, nofun, others⟩
    · unfold Failures.attempts at enough
      omega
    · have none : (({} : Device.Budgets).failures a.info.id).attempts = 0 := rfl
      have clean := alone {} schedule'
      rwa [none, if_pos (Nat.zero_le _)] at clean
  · rw [if_neg enough]
    refine ⟨⟨nofun, fun less => ?_⟩, nofun, fun _ => ?_, others⟩
    · unfold Failures.attempts at enough
      omega
    · have last (m : Nat) : limit - 1 < m ↔ limit ≤ m := by omega
      have stage_eq : (if limit ≤ n.bind then .bind
          else if limit ≤ n.bind + n.start then .start
          else if limit ≤ n.bind + n.start + n.read then .read
          else .stop : SamplingStage) = n.stageAt (limit - 1) := by
        simp only [Failures.stageAt, last]
      dsimp only
      rw [stage_eq]
      have agent := (attached.each a (List.mem_of_getElem? there)).agent
      have stands := alone budgets schedule
      rw [show max config.retries.toNat 1 = limit from Nat.max_comm _ _, if_neg enough] at stands
      refine ⟨rfl, ?_⟩
      have ended := last_attempt d.backend registry config schedule { s with budgets } there stands
        rfl (by rw [agent]; rfl)
      rw [agent] at ended
      exact ended

/-- A failing bind, a failing read whose stop fails too, and another failing read make three
attempts fail: with three attempts the section tells of the last read, and with four it is ok. -/
theorem run_failures_two_gpus :
    match (Registry.discover 8 0).run twoGpus.device.backend twoGpus.initial with
    | (.error _, _) => False
    | (.ok registry, s) =>
      let budgets : Device.Budgets := {
        bind := Table.empty.insert ⟨4⟩ 1
        read := Table.empty.insert ⟨4⟩ 2
        stop := Table.empty.insert ⟨4⟩ 1 }
      let sections (retries : UInt32) : List GpuReport :=
        ((run registry { counters := ["CYCLES", "WAVES"], retries } [1, 0, 0]).run
          twoGpus.device.backend { s with budgets }).1.sections
      (∃ g, (sections 4)[0]? = some g ∧ g.isOk = true) ∧
      ∃ g, (sections 3)[0]? = some g ∧ g.isOk = false ∧
        g.error = some (SamplerError.sampling ⟨4⟩ .read (injected .read)).message ∧
        ∃ turns attempts last,
          Made twoGpus.device.backend registry { counters := ["CYCLES", "WAVES"], retries := 3 }
            [1, 0, 0] { s with budgets } 0 ⟨⟨4⟩, ⟨1⟩, .new ⟨4⟩, .new 0, 8⟩ turns attempts ∧
          attempts.length = 3 ∧ attempts.getLast? = some last ∧
          last.result = .error (.error (.sampling ⟨4⟩ .read (injected .read))) := by
  have reached := Device.reached_initial twoGpus
  have distinct : ((twoGpus.device.agents.filter AgentInfo.isGpu).map AgentInfo.id).Nodup := by
    decide
  have key : ProfileCache.setKey ["CYCLES", "WAVES"] = ["CYCLES", "WAVES"] := by
    unfold ProfileCache.setKey
    rw [List.mergeSort_of_pairwise (by decide)]
    decide
  have packed : (((Sampler.profileSet ["CYCLES", "WAVES"]).run.run
      ⟨⟨4⟩, ⟨1⟩, .new ⟨4⟩, .new 0, 8⟩).run twoGpus.device.backend
        ((Registry.discover 8 0).run twoGpus.device.backend twoGpus.initial).2).1.1 =
      .ok ⟨0, 1, [⟨⟨1⟩, ["CYCLES"], 1⟩, ⟨⟨2⟩, ["WAVES"], 2⟩], [], []⟩ := by
    rw [Sampler.run_profileSet, Sampler.run_withCache]
    simp only [ProfileCache.getOrCreateSet, key]
    rfl
  have fits : ∀ p ∈ [⟨⟨1⟩, ["CYCLES"], 1⟩, (⟨⟨2⟩, ["WAVES"], 2⟩ : Profile)], ¬TooLarge p := by
    intro p mem
    simp only [List.mem_cons, List.not_mem_nil, or_false] at mem
    rcases mem with rfl | rfl <;> exact Nat.not_lt.2 (by decide)
  have tried (retries : UInt32) := run_failures reached rfl distinct
    { counters := ["CYCLES", "WAVES"], retries } (i := 0) rfl packed (List.cons_ne_nil _ _) fits
    { bind := Table.empty.insert ⟨4⟩ 1
      read := Table.empty.insert ⟨4⟩ 2
      stop := Table.empty.insert ⟨4⟩ 1 } [1, 0, 0]
  constructor
  · obtain ⟨g, there, ok, -⟩ := tried 4
    exact ⟨g, there, ok.2 (by decide)⟩
  · obtain ⟨g, there, ok, -, failed, -⟩ := tried 3
    have not_ok : g.isOk = false := by
      refine Bool.eq_false_iff.2 fun isOk => ?_
      exact absurd (ok.1 isOk) (by decide)
    exact ⟨g, there, not_ok, failed not_ok⟩

end Run

end CounterSampling
