import CounterSampling.Proofs.Caching.ProfileLimits
import CounterSampling.Proofs.Runs.Attempts

/-!
# Runs one after another

Runs can be made one after another on one registry; each goes on with the samplers that the one
before left. Every attempt to sample an agent asks the cache of its sampler once, so from a registry
that was just discovered on, a cache was asked as often as attempts were made with it. Main
statement: `last_agent`.
-/

namespace CounterSampling

open ProfileCache (setKey)

/-- How often a cache was asked. -/
def CacheStats.lookups (c : CacheStats) : Nat := c.hits + c.misses

/-! ## Attempts ask the cache once -/

namespace Sampler

/-- Asking for a set asks the cache once. -/
theorem Asked.lookups {request : List String} {e e' : Sampler}
    {r : Except Failure (Shared ProfileSet)} (h : Asked request e r e') :
    e'.stats.lookups = e.stats.lookups + 1 := by
  cases h with
  | found kept => exact Nat.add_right_comm _ _ _
  | failed f catalog absent => rfl
  | packed set catalog absent => rfl

/-- Sampling a request asks the cache once. What is sampled is the set that is kept then. -/
theorem sample_asks (request : List String) (e : Sampler) :
    ((sample request).run.run e).Ensures (fun _ => True) fun y =>
      y.2.stats.lookups = e.stats.lookups + 1 ∧
        ∀ output, y.1 = .ok output →
          ∃ set, y.2.cache.sets.find? (setKey request) = some set ∧
            output.profiles = set.value.size := by
  refine ensures_bindOk ((profileSet_asked request e).mono (fun _ => id) fun y asked => ?_)
  obtain ⟨made, e₁⟩ := y
  have once := asked.lookups
  cases made with
  | error f => exact ⟨once, nofun⟩
  | ok set =>
    refine ensures_bindOk (((sampleProfiles_calls .empty set.value.profiles) e₁).mono
      (fun _ _ => trivial) fun y same => ?_)
    obtain ⟨summed, e₂⟩ := y
    have cache : e₂.cache = e₁.cache := congrArg (fun x => x.2.2.1) same
    have once : e₂.stats.lookups = e.stats.lookups + 1 :=
      (congrArg (fun c => c.stats.lookups) cache).trans once
    cases summed with
    | error f => exact ⟨once, nofun⟩
    | ok values =>
      refine ⟨once, fun output same => ⟨set, ?_, ?_⟩⟩
      · rw [show e₂.cache = e₁.cache from cache]
        exact asked.kept
      · rw [← Except.ok.inj same]

end Sampler

namespace Run

/-- The cache is asked once for each attempt. -/
theorem Attempts.lookups {counters : List String} {e e' : Sampler} {attempts : List Attempt}
    (h : Attempts counters e attempts e') :
    e'.stats.lookups = e.stats.lookups + attempts.length := by
  induction h with
  | none e => rfl
  | next first later ih =>
    rw [ih, ((Sampler.sample_asks _ _).goes first).1, List.length_cons, Nat.add_right_comm,
      Nat.add_assoc]

/-- What is told about an agent that was sampled agrees with its sampler: the statistics are those
of its cache, and the profiles are those of the set that is kept for the counters. -/
def Backed (counters : List String) (outcome : AgentOutcome) (e : Sampler) : Prop :=
  ∀ output stats, outcome = .ok (output, stats) → stats = e.stats ∧
    ∃ set, e.cache.sets.find? (setKey counters) = some set ∧ output.profiles = set.value.size

theorem attempt_backed (counters : List String) (e : Sampler) :
    ((attempt counters).run e).Ensures (fun _ => True) fun y => Backed counters y.1 y.2 := by
  rw [run_attempt]
  refine (Sampler.sample_asks counters e).bind fun y asked => ?_
  obtain ⟨made, e'⟩ := y
  cases made with
  | error f => exact nofun
  | ok output =>
    intro output' stats same
    obtain ⟨rfl, rfl⟩ := Prod.mk.inj (Except.ok.inj same)
    exact ⟨rfl, asked.2 output rfl⟩

theorem tries_backed (counters : List String) (more delay : Nat) (e : Sampler) :
    ((tries counters more delay).run e).Ensures (fun _ => True) fun y =>
      Backed counters y.1 y.2 := by
  induction more generalizing delay e with
  | zero => exact attempt_backed counters e
  | succ more ih =>
    rw [run_tries_succ]
    refine (attempt_backed counters e).bind fun y backed => ?_
    obtain ⟨outcome, e'⟩ := y
    cases outcome with
    | ok a => exact backed
    | error text => exact ih _ e'

/-! ## Runs one after another -/

/-- The attempts by which an agent came to its outcome and its sampler, with what it was asked and
answered when it took its turns. -/
structure CameBy (config : RunConfig) (a : AgentSampler) (events : List Event)
    (attempts : List Attempt) (o : AgentOutcome × AgentSampler) : Prop where
  chain : Attempts config.counterList a.sampler attempts o.2.sampler
  events : attempts.flatMap Attempt.events = events
  settled : Settled (max 1 config.retries.toNat) attempts o.1

theorem task_cameBy {config : RunConfig} {a : AgentSampler} {es : List Event}
    {o : AgentOutcome × AgentSampler} (goes : (task config a).Goes es o) :
    o.2.info = a.info ∧ Backed config.counterList o.1 o.2.sampler ∧
      ∃ attempts, CameBy config a es attempts o := by
  rw [run_task, Procedure.goes_bind] at goes
  obtain ⟨first, _, ⟨outcome, e'⟩, rfl, tried, rfl, rfl⟩ := goes
  obtain ⟨attempts, chain, events, settled⟩ := tries_settled tried
  have limit : max config.retries.toNat 1 - 1 + 1 = max 1 config.retries.toNat := by omega
  rw [limit] at settled
  refine ⟨rfl, (tries_backed _ _ _ _).goes tried, attempts, chain, ?_, settled⟩
  rw [List.append_nil, events]

variable {σ : Type}

/-- The attempts that the agent at a place makes in a run. -/
def AttemptsIn (b : Backend σ) (registry : Registry) (config : RunConfig) (schedule : List Nat)
    (s : σ) (i : Nat) (attempts : List Attempt) : Prop :=
  let ran := (run registry config schedule).run b s
  let asked := b.answer .simulated s
  ∃ turns a o,
    (run registry config schedule).trace b s = ⟨.simulated, asked.1⟩ :: turns.map Prod.snd ∧
    Procedure.Turns b (registry.samplers.map (task config)) asked.2 turns ran.1.outcomes ran.2 ∧
    registry.samplers[i]? = some a ∧ ran.1.outcomes[i]? = some o ∧
    CameBy config a (Procedure.eventsOf i turns) attempts o

/-- What comes of an agent in a run. -/
theorem run_agent (b : Backend σ) (registry : Registry) (config : RunConfig) (schedule : List Nat)
    (s : σ) {i : Nat} {a : AgentSampler} (there : registry.samplers[i]? = some a) :
    ∃ o attempts, ((run registry config schedule).run b s).1.outcomes[i]? = some o ∧
      o.2.info = a.info ∧ Backed config.counterList o.1 o.2.sampler ∧
      AttemptsIn b registry config schedule s i attempts ∧
      o.2.sampler.stats.lookups = a.sampler.stats.lookups + attempts.length := by
  obtain ⟨turns, trace, taken⟩ := run_turns b registry config schedule s
  have task_there : (registry.samplers.map (task config))[i]? = some (task config a) := by
    rw [List.getElem?_map, there, Option.map_some]
  obtain ⟨o, found, goes⟩ := taken.goes task_there
  obtain ⟨info, backed, attempts, came⟩ := task_cameBy goes
  exact ⟨o, attempts, found, info, backed, ⟨turns, a, o, trace, taken, there, found, came⟩,
    came.chain.lookups⟩

theorem length_outcomes (b : Backend σ) (registry : Registry) (config : RunConfig)
    (schedule : List Nat) (s : σ) :
    ((run registry config schedule).run b s).1.outcomes.length = registry.samplers.length := by
  obtain ⟨turns, -, taken⟩ := run_turns b registry config schedule s
  rw [taken.length_eq, List.length_map]

/-- The agents of a registry stay the same in a run. -/
theorem run_infos (b : Backend σ) (registry : Registry) (config : RunConfig) (schedule : List Nat)
    (s : σ) :
    (((run registry config schedule).run b s).1.outcomes.map fun o => o.2.info) =
      registry.samplers.map fun a => a.info := by
  have length := length_outcomes b registry config schedule s
  refine List.ext_getElem? fun i => ?_
  rw [List.getElem?_map, List.getElem?_map]
  cases there : registry.samplers[i]? with
  | none =>
    have outside := List.getElem?_eq_none_iff.1 there
    rw [List.getElem?_eq_none (length ▸ outside)]
    rfl
  | some a =>
    obtain ⟨o, -, found, info, -⟩ := run_agent b registry config schedule s there
    rw [found, Option.map_some, Option.map_some, info]

/-- What is told about the agents of a run agrees with their samplers. -/
theorem run_backed (b : Backend σ) (registry : Registry) (config : RunConfig)
    (schedule : List Nat) (s : σ) :
    ∀ o ∈ ((run registry config schedule).run b s).1.outcomes,
      Backed config.counterList o.1 o.2.sampler := by
  intro o mem
  obtain ⟨i, found⟩ := List.mem_iff_getElem?.1 mem
  have inside := (List.getElem?_eq_some_iff.1 found).1
  rw [length_outcomes] at inside
  obtain ⟨o', -, found', -, backed, -⟩ :=
    run_agent b registry config schedule s (List.getElem?_eq_getElem inside)
  obtain rfl := Option.some.inj (found'.symm.trans found)
  exact backed

/-- Runs one after another, each with the samplers that the one before left. Of each it is said how
it is configured and how its agents take turns. -/
def runAll (registry : Registry) : List (RunConfig × List Nat) → Procedure (List Result)
  | [] => pure []
  | (config, schedule) :: runs => do
    let result ← run registry config schedule
    let results ← runAll result.registry runs
    return result :: results

theorem run_runAll (b : Backend σ) (registry : Registry) (config : RunConfig)
    (schedule : List Nat) (runs : List (RunConfig × List Nat)) (s : σ) :
    let ran := (run registry config schedule).run b s
    ((runAll registry ((config, schedule) :: runs)).run b s).1 =
      ran.1 :: ((runAll ran.1.registry runs).run b ran.2).1 := by
  simp only [runAll, Procedure.run_bind]
  rfl

/-- The attempts that the agent at a place makes in runs one after another. -/
def AllAttempts (b : Backend σ) (i : Nat) :
    Registry → List (RunConfig × List Nat) → σ → List Attempt → Prop
  | _, [], _, attempts => attempts = []
  | registry, (config, schedule) :: runs, s, attempts =>
    let ran := (run registry config schedule).run b s
    ∃ first later, attempts = first ++ later ∧
      AttemptsIn b registry config schedule s i first ∧
      AllAttempts b i ran.1.registry runs ran.2 later

/-- What comes of an agent in the last of some runs: its cache was asked once for each attempt in
any of them. -/
theorem last_agent (b : Backend σ) {i : Nat} (runs : List (RunConfig × List Nat))
    {registry : Registry} {s : σ} {a : AgentSampler} (there : registry.samplers[i]? = some a)
    {last : Result} (ended : ((runAll registry runs).run b s).1.getLast? = some last) :
    ∃ o attempts counters, last.outcomes[i]? = some o ∧ Backed counters o.1 o.2.sampler ∧
      AllAttempts b i registry runs s attempts ∧
      o.2.sampler.stats.lookups = a.sampler.stats.lookups + attempts.length := by
  induction runs generalizing registry s a with
  | nil => cases ended
  | cons r runs ih =>
    obtain ⟨config, schedule⟩ := r
    rw [run_runAll] at ended
    obtain ⟨o, first, found, -, backed, own, lookups⟩ :=
      run_agent b registry config schedule s there
    cases runs with
    | nil =>
      obtain rfl := Option.some.inj ended
      refine ⟨o, first ++ [], _, found, backed, ⟨first, [], rfl, own, rfl⟩, ?_⟩
      rw [List.append_nil]
      exact lookups
    | cons r' runs =>
      have next : ((run registry config schedule).run b s).1.registry.samplers[i]? = some o.2 := by
        rw [Result.registry, List.getElem?_map, found, Option.map_some]
      obtain ⟨config', schedule'⟩ := r'
      rw [run_runAll, List.getLast?_cons_cons, ← run_runAll] at ended
      obtain ⟨o', later, counters, found', backed', rest, lookups'⟩ := ih next ended
      refine ⟨o', first ++ later, counters, found', backed', ⟨first, later, rfl, own, rest⟩, ?_⟩
      rw [lookups', lookups, List.length_append, Nat.add_assoc]

/-- The agents of a registry stay the same in all runs. -/
theorem runAll_infos (b : Backend σ) (runs : List (RunConfig × List Nat)) (registry : Registry)
    (s : σ) :
    ∀ r ∈ ((runAll registry runs).run b s).1,
      (r.outcomes.map fun o => o.2.info) = registry.samplers.map fun a => a.info := by
  induction runs generalizing registry s with
  | nil => exact nofun
  | cons r runs ih =>
    obtain ⟨config, schedule⟩ := r
    have first := run_infos b registry config schedule s
    rw [run_runAll]
    refine List.forall_mem_cons.2 ⟨first, fun r' mem => ?_⟩
    rw [ih _ _ r' mem, ← first, Result.registry, List.map_map]
    rfl

end Run

/-! ## Registries not used yet -/

namespace Registry

/-- No cache was asked yet. -/
def Unasked (samplers : List AgentSampler) : Prop :=
  ∀ a ∈ samplers, a.sampler.stats.lookups = 0

theorem openAll_unasked (maxPerProfile owner : Nat) {opened : List AgentSampler}
    (unasked : Unasked opened) (infos : List AgentInfo) :
    (openAll maxPerProfile owner opened infos).Ensures (fun _ => True) fun found =>
      ∀ registry, found = .ok registry → Unasked registry.samplers := by
  induction infos generalizing owner opened with
  | nil =>
    intro registry same
    obtain rfl := Except.ok.inj same
    exact unasked
  | cons info infos ih =>
    refine Procedure.Ensures.bind (Q := fun created =>
      ∀ e, created = .ok e → e.stats.lookups = 0) ?_ fun created new => ?_
    · refine Procedure.ensures_call trivial |>.bind fun answer _ => ?_
      cases answer with
      | error e => exact nofun
      | ok context =>
        intro e same
        obtain rfl := Except.ok.inj same
        rfl
    · cases created with
      | error e => exact (Procedure.ensures_any _).bind fun _ _ => nofun
      | ok e =>
        refine ih (owner + 1) fun a mem => ?_
        rcases List.mem_append.1 mem with old | last
        · exact unasked a old
        · obtain rfl := List.mem_singleton.1 last
          exact new e rfl

theorem discover_unasked {σ : Type} (b : Backend σ) {maxPerProfile owner : Nat} {before s : σ}
    {registry : Registry}
    (found : (discover maxPerProfile owner).run b before = (.ok registry, s)) :
    Unasked registry.samplers := by
  have ensures : (discover maxPerProfile owner).Ensures (fun _ => True) fun found =>
      ∀ registry, found = .ok registry → Unasked registry.samplers := by
    refine Procedure.ensures_call trivial |>.bind fun listed _ => ?_
    cases listed with
    | error e => exact nofun
    | ok agents =>
      dsimp only
      split
      · exact nofun
      · exact openAll_unasked maxPerProfile owner (List.forall_mem_nil _) _
  have result := ensures.result b before
  rw [found] at result
  exact result registry rfl

end Registry

end CounterSampling
