import CounterSampling.Proofs.Device.Mi300
import CounterSampling.Proofs.Runs.Complete

/-!
# Runs on the simulated MI300-class host

Whatever is asked for and however many GPUs there are, a run on the simulated host succeeds: each
GPU has a section that tells of every requested name, with the values of the table as integers, and
contexts are started no more often than the limits make necessary. Main statement: `mi300_run`.
-/

namespace CounterSampling.Run

open Device (mi300 mi300Host mi300Gpus mi300Table mi300Counters mi300Counter)

/-- A valid configuration lets profiles hold something. -/
theorem maxPerProfile_pos {config : RunConfig} (valid : config.validate = .ok ()) :
    0 < config.maxCountersPerProfile.toNat := by
  refine Nat.pos_of_ne_zero fun zero => ?_
  have none : config.maxCountersPerProfile = 0 := UInt64.toNat_inj.1 zero
  unfold RunConfig.validate at valid
  rw [if_pos none] at valid
  split_ifs at valid

theorem sectionOf_nodes (info : AgentInfo) (outcome : AgentOutcome) :
    (sectionOf info outcome).renderId = toString info.renderMinor.toNat ∧
      (sectionOf info outcome).logicalNode = toString info.logicalNode.toNat := by
  cases outcome <;> exact ⟨rfl, rfl⟩

theorem mi300Counters_names : (mi300Counters.map Prod.fst).Nodup := by
  decide +kernel

/-- Each record of a counter has ten times its place in the table, and their sum is written as an
integer. -/
theorem mi300_values : ∀ x ∈ mi300Counters.zipIdx,
    formatValue (Nat.repeat (fun v => v + (mi300Counter x.2 x.1).value)
      (mi300Counter x.2 x.1).recordCount 0.0) =
        toString ((x.2 + 1) * 10 * (x.1.2.map fun dim => dim.2.toNat).prod) := by
  decide +kernel

/-- In a complete section a value is that of the table, as often as the counter has records. -/
theorem value_of_complete {counters : List String} {g : GpuReport}
    (complete : g.Complete mi300Table counters) {m : Metric} (mem : m ∈ g.metrics) {k : Nat}
    {entry : String × List (String × UInt64)} (there : mi300Counters[k]? = some entry)
    (named : entry.1 = m.field) :
    m.value = toString ((k + 1) * 10 * (entry.2.map fun dim => dim.2.toNat).prod) := by
  obtain ⟨c, listed, named', value⟩ := complete.values m mem
  obtain ⟨k', inside', rfl⟩ := List.mem_mapIdx.1 listed
  obtain ⟨inside, rfl⟩ := List.getElem?_eq_some_iff.1 there
  have same_name : mi300Counters[k'].1 = mi300Counters[k].1 := named'.trans named.symm
  have same : k' = k := by
    refine (List.getElem?_inj (by rwa [List.length_map]) mi300Counters_names).1 ?_
    rw [List.getElem?_map, List.getElem?_map, List.getElem?_eq_getElem inside',
      List.getElem?_eq_getElem inside, Option.map_some, Option.map_some, same_name]
  subst same
  exact value.trans (mi300_values ⟨mi300Counters[k'], k'⟩ (List.mem_zipIdx_iff_getElem?.2 there))

/-- Discovery on a new host with any number of GPUs that can be numbered, and then a run with any
valid configuration: the GPUs are sampled in order, each section is complete, a value is the integer
that comes of the table, contexts are started as often as the limits of seven counters and of the
configuration make necessary, and none is active in the end. -/
theorem mi300_run {n : Nat} (some : 1 ≤ n) (few : n ≤ 2 ^ 32 - 128) {config : RunConfig}
    (valid : config.validate = .ok ()) (owner : Nat) (schedule : List Nat) :
    ∃ b registry s, mi300 n = .ok b ∧
      (Registry.discover config.maxCountersPerProfile.toNat owner).run b.device.backend b.initial =
        (.ok registry, s) ∧
      let ran := (run registry config schedule).run b.device.backend s
      registry.samplers.map (fun a => a.info.id.val.toNat) = (List.range n).map (fun i => i + 1) ∧
      List.Forall₂ (fun i g => g.gpuId = toString (10000 + (i + 1)) ∧
          g.renderId = toString (128 + i) ∧ g.logicalNode = toString (i + 1) ∧
          g.Complete mi300Table config.counterList ∧
          ∀ m ∈ g.metrics, ∀ k entry, mi300Counters[k]? = .some entry → entry.1 = m.field →
            m.value = toString ((k + 1) * 10 * (entry.2.map fun dim => dim.2.toNat).prod))
        (List.range n) ran.1.sections ∧
      ran.2.starts = s.starts + n * profilesNeeded (min 7 config.maxCountersPerProfile.toNat)
        (supportedCount mi300Table config.counterList) ∧
      ran.2.activeContexts = 0 := by
  have plain := Device.mi300Host_plain few
  have gpu : Device.mi300Gpu 0 ∈ (mi300Host n).agents :=
    List.mem_cons_of_mem _ (List.mem_map_of_mem (List.mem_range.2 some))
  have reached : (mi300Host n).Reached {} := .initial {}
  obtain ⟨registry, s, found⟩ := Registry.discover_succeeds rfl gpu rfl
    config.maxCountersPerProfile.toNat owner {}
  obtain ⟨sections, starts, idle⟩ := run_complete plain reached rfl (fun _ => rfl)
    (maxPerProfile_pos valid) found config schedule
  have infos := (Registry.discover_attached reached.numbered found).infos_eq
  rw [Device.mi300Host_gpus] at sections starts infos
  rw [Device.length_mi300Gpus] at starts
  refine ⟨⟨mi300Host n, {}⟩, registry, s, Device.mi300_eq few, found, ?_, ?_, starts, idle⟩
  · rw [← Device.mi300Gpus_numbers few, ← infos, List.map_map]
    rfl
  · rw [mi300Gpus, List.forall₂_map_left_iff, List.forall₂_iff_zip] at sections
    refine List.forall₂_iff_zip.2 ⟨sections.1, fun {i g} mem => ?_⟩
    obtain ⟨⟨outcome, rfl⟩, complete⟩ := sections.2 mem
    have within := List.mem_range.1 (List.of_mem_zip mem).1
    obtain ⟨-, gpuId, renderMinor, node⟩ := Device.mi300Gpu_numbers few within
    obtain ⟨renderId, logicalNode⟩ := sectionOf_nodes (Device.mi300Gpu i) outcome
    rw [sectionOf_gpuId, renderId, logicalNode, gpuId, renderMinor, node]
    exact ⟨rfl, rfl, rfl, complete, fun m mem k entry there => value_of_complete complete mem there⟩

/-- Two GPUs, and three counters of the table for profiles of two. -/
theorem mi300_run_two_gpus :
    let config : RunConfig := {
      counters := ["SQ_WAVES", "NO_SUCH_COUNTER", "GPU_UTIL", "TCC_HIT", "SQ_WAVES"]
      maxCountersPerProfile := 2 }
    1 ≤ 2 ∧ 2 ≤ 2 ^ 32 - 128 ∧ config.validate = .ok () ∧
      ∃ b registry s, mi300 2 = .ok b ∧
        (Registry.discover 2 0).run b.device.backend b.initial = (.ok registry, s) ∧
        let ran := (run registry config [0, 1, 1, 0]).run b.device.backend s
        ran.1.sections.map GpuReport.gpuId = ["10001", "10002"] ∧
        (∀ g ∈ ran.1.sections,
          [⟨"GPU_UTIL", "30"⟩, ⟨"SQ_WAVES", "1280"⟩, ⟨"TCC_HIT", "11520"⟩] ⊆ g.metrics) ∧
        ran.2.starts = s.starts + 4 ∧ ran.2.activeContexts = 0 := by
  intro config
  have valid : config.validate = .ok () := by decide
  obtain ⟨b, registry, s, built, found, -, sections, starts, idle⟩ :=
    mi300_run (n := 2) (by decide) (by decide) valid 0 [0, 1, 1, 0]
  refine ⟨by decide, by decide, valid, b, registry, s, built, found, ?_, ?_, ?_, idle⟩
  · generalize ((run registry config [0, 1, 1, 0]).run b.device.backend s).1.sections = gs
      at sections ⊢
    rcases sections with _ | ⟨first, _ | ⟨second, _ | _⟩⟩
    rw [List.map_cons, first.1, List.map_cons, second.1]
    rfl
  · generalize ((run registry config [0, 1, 1, 0]).run b.device.backend s).1.sections = gs
      at sections ⊢
    intro g mem
    obtain ⟨i, inside, rfl⟩ := List.getElem_of_mem mem
    obtain ⟨-, -, -, complete, values⟩ := sections.get (sections.length_eq ▸ inside) inside
    intro m metric
    simp only [List.mem_cons, List.not_mem_nil, or_false] at metric
    rcases metric with rfl | rfl | rfl
    · exact complete.mem_metrics (by decide) (by decide +kernel)
        fun m met named => values m met 2 _ rfl named.symm
    · exact complete.mem_metrics (by decide) (by decide +kernel)
        fun m met named => values m met 3 _ rfl named.symm
    · exact complete.mem_metrics (by decide) (by decide +kernel)
        fun m met named => values m met 8 _ rfl named.symm
  · rw [starts]
    have needed : profilesNeeded (min 7 config.maxCountersPerProfile.toNat)
        (supportedCount mi300Table config.counterList) = 2 := by
      decide +kernel
    rw [needed]

end CounterSampling.Run
