import CounterSampling.Proofs.Runs.Independence
import CounterSampling.Proofs.Runs.Sequences
import Mathlib.Algebra.BigOperators.Group.List.Basic
import Mathlib.Algebra.GroupWithZero.Nat

/-!
# What the metrics of runs count

The metrics grow by what came of each agent of each run. Over any number of runs on one registry the
counters grow by what the sections of all reports say, whatever the order in which the agents of a
run are recorded. The gauges of an agent tell the look-ups in its cache, which are the attempts made
with its sampler so far. Main statement: `runs_counted`.
-/

namespace CounterSampling

open ProfileCache (setKey)

namespace Run

/-! ## Recording -/

/-- Record what came of agents one after another. -/
def recordAll (m : Metrics) (log : List (AgentOutcome × AgentSampler)) : Metrics :=
  log.foldl (fun m o => recordOutcome m o.2.info o.1) m

theorem recordAll_append (m : Metrics) (log log' : List (AgentOutcome × AgentSampler)) :
    recordAll m (log ++ log') = recordAll (recordAll m log) log' :=
  List.foldl_append

/-- The sections of agents. -/
def sectionsOf (log : List (AgentOutcome × AgentSampler)) : List GpuReport :=
  log.map fun o => sectionOf o.2.info o.1

theorem sectionsOf_append (log log' : List (AgentOutcome × AgentSampler)) :
    sectionsOf (log ++ log') = sectionsOf log ++ sectionsOf log' :=
  List.map_append

/-- How many profiles were sampled. -/
def profilesIn : AgentOutcome → Nat
  | .ok (output, _) => output.profiles
  | .error _ => 0

end Run

/-- Metrics have grown by what some sections say and by a number of profiles. -/
structure Metrics.Grown (before after : Metrics) (sections : List GpuReport) (profiles : Nat) :
    Prop where
  ok : after.samplesOk.getD 0 = before.samplesOk.getD 0 + sections.countP GpuReport.isOk
  failed : after.samplesError.getD 0 =
    before.samplesError.getD 0 + sections.countP fun g => !g.isOk
  dropped : after.droppedCounters.getD 0 =
    before.droppedCounters.getD 0 + (sections.map fun g => g.dropped.length).sum
  executed : after.profilesExecuted.getD 0 = before.profilesExecuted.getD 0 + profiles

theorem Metrics.Grown.trans {m m' m'' : Metrics} {first second : List GpuReport} {n n' : Nat}
    (h : Grown m m' first n) (h' : Grown m' m'' second n') :
    Grown m m'' (first ++ second) (n + n') where
  ok := by rw [h'.ok, h.ok, List.countP_append, Nat.add_assoc]
  failed := by rw [h'.failed, h.failed, List.countP_append, Nat.add_assoc]
  dropped := by rw [h'.dropped, h.dropped, List.map_append, List.sum_append, Nat.add_assoc]
  executed := by rw [h'.executed, h.executed, Nat.add_assoc]

/-- Agents with different numbers are shown differently. -/
theorem AgentId.text_inj {a a' : AgentId} (same : a.text = a'.text) : a = a' := by
  have digits : (toString a.val.toNat).toList = (toString a'.val.toNat).toList := by
    have chars := congrArg String.toList same
    rw [AgentId.text, AgentId.text, String.toList_append, String.toList_append] at chars
    exact List.append_cancel_left chars
  rw [Nat.toString_eq_repr, Nat.toString_eq_repr, Nat.toList_repr, Nat.toList_repr] at digits
  have value := congrArg (Nat.ofDigitChars 10 · 0) digits
  rw [Nat.ofDigitChars_ten_toDigits, Nat.ofDigitChars_ten_toDigits] at value
  exact congrArg AgentId.mk (UInt64.toNat_inj.1 value)

namespace Run

variable {σ : Type}

theorem recordOutcome_grown (m : Metrics) (info : AgentInfo) (outcome : AgentOutcome) :
    m.Grown (recordOutcome m info outcome) [sectionOf info outcome] (profilesIn outcome) := by
  cases outcome with
  | ok told => exact ⟨rfl, rfl, rfl, rfl⟩
  | error text => exact ⟨rfl, rfl, rfl, rfl⟩

theorem recordAll_grown (m : Metrics) (log : List (AgentOutcome × AgentSampler)) :
    m.Grown (recordAll m log) (sectionsOf log) (log.map fun o => profilesIn o.1).sum := by
  induction log generalizing m with
  | nil => exact ⟨rfl, rfl, rfl, rfl⟩
  | cons o log ih => exact (recordOutcome_grown m o.2.info o.1).trans (ih _)

/-- What is recorded about other agents leaves the gauges of an agent alone. -/
theorem gauges_other (m : Metrics) {agent : AgentId} {log : List (AgentOutcome × AgentSampler)}
    (others : ∀ o ∈ log, o.2.info.id ≠ agent) :
    (recordAll m log).cacheLookups.find? agent.text = m.cacheLookups.find? agent.text := by
  induction log generalizing m with
  | nil => rfl
  | cons o log ih =>
    obtain ⟨first, later⟩ := List.forall_mem_cons.1 others
    refine (ih _ later).trans ?_
    obtain ⟨outcome, a⟩ := o
    cases outcome with
    | ok told =>
      refine (NameMap.find?_insert _ _ _ _).trans (if_neg fun same => first ?_)
      exact AgentId.text_inj same
    | error text => rfl

/-- Once an agent that was sampled is recorded, its gauges have the statistics of its cache. -/
theorem gauges_told (m : Metrics) {log : List (AgentOutcome × AgentSampler)}
    (distinct : (log.map fun o => o.2.info.id).Nodup) {output : SampleOutput} {stats : CacheStats}
    {a : AgentSampler} (told : (.ok (output, stats), a) ∈ log) :
    (recordAll m log).cacheLookups.find? a.info.id.text =
      some ⟨Metrics.signed stats.hits, Metrics.signed stats.misses⟩ := by
  induction log generalizing m with
  | nil => cases told
  | cons o log ih =>
    obtain ⟨fresh, distinct⟩ := List.nodup_cons.1 distinct
    rcases List.mem_cons.1 told with rfl | later
    · have others : ∀ o ∈ log, o.2.info.id ≠ a.info.id :=
        fun o mem same => fresh (List.mem_map.2 ⟨o, mem, same⟩)
      refine (gauges_other (recordOutcome m a.info (.ok (output, stats))) others).trans ?_
      exact (NameMap.find?_insert _ _ _ _).trans (if_pos rfl)
    · exact ih _ distinct later

/-- The set that an agent was sampled with, if it was sampled: its cache keeps it. -/
def setOf? (counters : List String) (o : AgentOutcome × AgentSampler) :
    Option (Shared ProfileSet) :=
  match o.1 with
  | .ok _ => o.2.sampler.cache.sets.find? (setKey counters)
  | .error _ => none

/-- The sets that the agents of runs were sampled with. -/
def setsOf (runs : List (RunConfig × List Nat)) (results : List Result) :
    List (Shared ProfileSet) :=
  (runs.zip results).flatMap fun x => x.2.outcomes.filterMap (setOf? x.1.1.counterList)

theorem setsOf_cons (config : RunConfig) (schedule : List Nat) (runs : List (RunConfig × List Nat))
    (r : Result) (results : List Result) :
    setsOf ((config, schedule) :: runs) (r :: results) =
      r.outcomes.filterMap (setOf? config.counterList) ++ setsOf runs results :=
  List.flatMap_cons

/-- There is one set for each section that is ok, and it has the profiles that were sampled. -/
theorem sets_backed {counters : List String} {log : List (AgentOutcome × AgentSampler)}
    (backed : ∀ o ∈ log, Backed counters o.1 o.2.sampler) :
    (log.filterMap (setOf? counters)).length = (sectionsOf log).countP GpuReport.isOk ∧
      ((log.filterMap (setOf? counters)).map fun set => set.value.size).sum =
        (log.map fun o => profilesIn o.1).sum := by
  induction log with
  | nil => exact ⟨rfl, rfl⟩
  | cons o log ih =>
    obtain ⟨first, later⟩ := List.forall_mem_cons.1 backed
    obtain ⟨length, sum⟩ := ih later
    obtain ⟨outcome, a⟩ := o
    cases outcome with
    | ok told =>
      obtain ⟨-, set, kept, profiles⟩ := first told.1 told.2 rfl
      rw [List.filterMap_cons_some (show setOf? counters (.ok told, a) = some set from kept)]
      constructor
      · exact (congrArg Nat.succ length).trans (List.countP_cons_of_pos rfl).symm
      · rw [List.map_cons, List.sum_cons, sum, List.map_cons, List.sum_cons]
        exact congrArg (· + _) profiles.symm
    | error text =>
      rw [List.filterMap_cons_none rfl]
      refine ⟨length, sum.trans ?_⟩
      rw [List.map_cons, List.sum_cons]
      exact (Nat.zero_add _).symm

theorem setsOf_runAll (b : Backend σ) (runs : List (RunConfig × List Nat)) (registry : Registry)
    (s : σ) :
    let results := ((runAll registry runs).run b s).1
    let all := results.flatMap Result.outcomes
    (setsOf runs results).length = (sectionsOf all).countP GpuReport.isOk ∧
      ((setsOf runs results).map fun set => set.value.size).sum =
        (all.map fun o => profilesIn o.1).sum := by
  induction runs generalizing registry s with
  | nil => exact ⟨rfl, rfl⟩
  | cons r runs ih =>
    obtain ⟨config, schedule⟩ := r
    obtain ⟨length, sum⟩ := sets_backed (run_backed b registry config schedule s)
    obtain ⟨length', sum'⟩ := ih ((run registry config schedule).run b s).1.registry
      ((run registry config schedule).run b s).2
    dsimp only
    rw [run_runAll, setsOf_cons, List.flatMap_cons]
    constructor
    · rw [List.length_append, length, length', sectionsOf_append, List.countP_append]
    · rw [List.map_append, List.sum_append, sum, sum', List.map_append, List.sum_append]

end Run

/-! ## What is counted -/

/-- The gauges of an agent tell how often its cache was asked. They are signed words, and they add
up to that number as long as it is one. -/
def Metrics.Tell (m : Metrics) (agent : AgentId) (lookups : Nat) : Prop :=
  ∃ hits misses, m.cacheLookups.find? agent.text = some ⟨signed hits, signed misses⟩ ∧
    hits + misses = lookups ∧ (lookups ≤ Word.maxSigned → signed hits + signed misses = lookups)

theorem Metrics.signed_eq {n : Nat} (fits : n ≤ Word.maxSigned) : signed n = n :=
  Int64.toInt_ofNat_of_lt (Nat.lt_succ_of_le fits)

theorem Metrics.tell_of_find? {m : Metrics} {agent : AgentId} {stats : CacheStats}
    (found : m.cacheLookups.find? agent.text = some ⟨signed stats.hits, signed stats.misses⟩) :
    m.Tell agent stats.lookups := by
  refine ⟨stats.hits, stats.misses, found, rfl, fun fits => ?_⟩
  rw [signed_eq (Nat.le_trans (Nat.le_add_right _ _) fits),
    signed_eq (Nat.le_trans (Nat.le_add_left _ _) fits)]
  rfl

theorem Metrics.Grown.perm {m m' : Metrics} {sections sections' : List GpuReport} {n : Nat}
    (h : Grown m m' sections n) (same : sections.Perm sections') : Grown m m' sections' n where
  ok := h.ok.trans (by rw [same.countP_eq])
  failed := h.failed.trans (by rw [same.countP_eq])
  dropped := h.dropped.trans (by rw [(same.map _).sum_eq])
  executed := h.executed

namespace Run

variable {σ : Type}

/-- In some order everything that came of runs was recorded. -/
theorem perm_of_orders {orders : List (List (AgentOutcome × AgentSampler))} {results : List Result}
    (recorded : List.Forall₂ (fun order r => order.Perm r.outcomes) orders results) :
    orders.flatten.Perm (results.flatMap Result.outcomes) := by
  induction recorded with
  | nil => exact .nil
  | cons first rest ih => exact first.append ih

theorem last_order {order : List (AgentOutcome × AgentSampler)}
    {before : List (List (AgentOutcome × AgentSampler))} {results : List Result} {last : Result}
    (recorded : List.Forall₂ (fun order r => order.Perm r.outcomes) (before ++ [order]) results)
    (ended : results.getLast? = some last) : order.Perm last.outcomes := by
  rw [← List.forall₂_reverse_iff, List.reverse_append] at recorded
  rw [← List.head?_reverse] at ended
  generalize results.reverse = results at recorded ended
  cases recorded with
  | cons first rest =>
    obtain rfl := Option.some.inj ended
    exact first

/-- What metrics say about runs one after another, whose agents were recorded in some orders. -/
structure Counted (b : Backend σ) (registry : Registry)
    (runs : List (RunConfig × List Nat)) (s : σ) (results : List Result)
    (orders : List (List (AgentOutcome × AgentSampler))) (m : Metrics) : Prop where
  /-- The counters grow by what the sections say and by the profiles of their sets. -/
  counters : m.Grown (recordAll m orders.flatten) (results.flatMap Result.sections)
    ((setsOf runs results).map fun set => set.value.size).sum
  /-- Every section that is ok has a set. -/
  sets : (setsOf runs results).length = (results.flatMap Result.sections).countP GpuReport.isOk
  /-- Once an agent that was sampled in the last run is recorded, its gauges tell the attempts made
  so far, also while others are still to be recorded. -/
  gauges : ∀ last before told untold, results.getLast? = some last →
    orders = before ++ [told ++ untold] → ∀ i told' a, last.outcomes[i]? = some (.ok told', a) →
      (.ok told', a) ∈ told → ∃ attempts, AllAttempts b i registry runs s attempts ∧
        (recordAll m (before.flatten ++ told)).Tell a.info.id attempts.length

/-- Once an agent that was sampled in the last run is recorded, its gauges tell its attempts. -/
theorem gauges_counted (b : Backend σ) {registry : Registry} {s : σ}
    (unasked : Registry.Unasked registry.samplers)
    (distinct : (registry.samplers.map fun a => a.info.id).Nodup)
    {runs : List (RunConfig × List Nat)} {last : Result}
    (ended : ((runAll registry runs).run b s).1.getLast? = some last)
    {told untold : List (AgentOutcome × AgentSampler)}
    (order : (told ++ untold).Perm last.outcomes) {i : Nat} {told' : SampleOutput × CacheStats}
    {a : AgentSampler} (there : last.outcomes[i]? = some (.ok told', a))
    (mem : (.ok told', a) ∈ told) (m : Metrics) :
    ∃ attempts, AllAttempts b i registry runs s attempts ∧
      (recordAll m told).Tell a.info.id attempts.length := by
  have ids : (last.outcomes.map fun o => o.2.info.id) =
      registry.samplers.map fun a => a.info.id := by
    have infos := runAll_infos b runs registry s last (List.mem_of_getLast? ended)
    have mapped := congrArg (List.map AgentInfo.id) infos
    rwa [List.map_map, List.map_map] at mapped
  have nodup : (told.map fun o => o.2.info.id).Nodup := by
    have all := (order.map fun o => o.2.info.id).nodup_iff.2 (ids ▸ distinct)
    rw [List.map_append] at all
    exact (List.nodup_append.1 all).1
  have inside : i < registry.samplers.length := by
    have bound := (List.getElem?_eq_some_iff.1 there).1
    have length := congrArg List.length ids
    rw [List.length_map, List.length_map] at length
    rwa [← length]
  obtain ⟨o, attempts, counters, found, backed, made, lookups⟩ :=
    last_agent b runs (List.getElem?_eq_getElem inside) ended
  obtain rfl := Option.some.inj (found.symm.trans there)
  obtain ⟨output, stats⟩ := told'
  have same : stats = a.sampler.stats := (backed output stats rfl).1
  have total : a.sampler.stats.lookups = attempts.length := by
    rw [unasked _ (List.getElem_mem inside), Nat.zero_add] at lookups
    exact lookups
  refine ⟨attempts, made, ?_⟩
  rw [← total, ← same]
  exact Metrics.tell_of_find? (gauges_told m nodup mem)

/-- Over any number of runs on a registry that was discovered, the metrics count what the reports
say and the attempts that were made. -/
theorem runs_counted (b : Backend σ) {maxPerProfile owner : Nat} {before s : σ}
    {registry : Registry}
    (found : (Registry.discover maxPerProfile owner).run b before = (.ok registry, s))
    (distinct : (registry.samplers.map fun a => a.info.id).Nodup)
    (runs : List (RunConfig × List Nat)) {orders : List (List (AgentOutcome × AgentSampler))}
    (recorded : List.Forall₂ (fun order r => order.Perm r.outcomes) orders
      ((runAll registry runs).run b s).1) (m : Metrics) :
    Counted b registry runs s ((runAll registry runs).run b s).1 orders m := by
  obtain ⟨length, sum⟩ := setsOf_runAll b runs registry s
  have perm := perm_of_orders recorded
  have sections (results : List Result) : results.flatMap Result.sections =
      sectionsOf (results.flatMap Result.outcomes) := by
    rw [sectionsOf, List.map_flatMap]
    rfl
  refine ⟨?_, ?_, ?_⟩
  · rw [sections, sum, ← (perm.map _).sum_eq]
    exact (recordAll_grown m orders.flatten).perm (perm.map _)
  · rw [sections]
    exact length
  · rintro last before told untold ended rfl i told' a there mem
    have unasked := Registry.discover_unasked b found
    rw [recordAll_append]
    exact gauges_counted b unasked distinct ended (last_order recorded ended) there mem _

/-- The metrics of two runs, in the first of which an agent is given up and in the second of which
it is tried again. -/
theorem runs_counted_two_gpus :
    match (Registry.discover 8 0).run twoGpus.device.backend twoGpus.initial with
    | (.error _, _) => False
    | (.ok registry, s) =>
      (registry.samplers.map fun a => a.info.id).Nodup ∧
      let counters := ["WAVES", "CYCLES"]
      let runs : List (RunConfig × List Nat) :=
        [({ counters, retries := 1 }, [0, 1, 1, 0]), ({ counters, parallel := false }, [])]
      let results := ((runAll registry runs).run twoGpus.device.backend s).1
      Counted twoGpus.device.backend registry runs s results (results.map Result.outcomes) {} := by
  have inOrder (results : List Result) : List.Forall₂ (fun order r => order.Perm r.outcomes)
      (results.map Result.outcomes) results := by
    rw [List.forall₂_map_left_iff, List.forall₂_same]
    exact fun r _ => .refl _
  refine ⟨?_, @runs_counted _ _ 8 0 twoGpus.initial _ _ rfl ?_ _ _ (inOrder _) {}⟩ <;> decide

end Run

end CounterSampling
