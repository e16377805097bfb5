import CounterSampling.Proofs.ByteOrder
import CounterSampling.Proofs.Device.Plain
import CounterSampling.Proofs.Packing.OneProfile
import CounterSampling.Report

/-!
# Complete sections

`Complete` says that a section tells of every requested name: of those that some counters have,
their values, and of the others that they are not supported. A set in which no name is unpackable
makes a complete section on a device that reads without a limit, and on a plain device every request
is packed into such a set. Main statements: `complete_of_set` and `profileSet_greedy`.
-/

namespace CounterSampling

open Text.Utf8 (BytesAscend bytesAscend)

/-- A section that tells of every requested name, given the counters that there are. -/
structure GpuReport.Complete (counters : List DeviceCounter) (request : List String)
    (g : GpuReport) : Prop where
  status : g.status = .ok
  error : g.error = none
  dropped : g.dropped = []
  fields_ascend : BytesAscend (g.metrics.map fun m => m.field)
  /-- The fields are the names that are requested and that a counter has. -/
  mem_fields : ∀ name, name ∈ g.metrics.map (fun m => m.field) ↔
    name ∈ request ∧ ∃ c ∈ counters, c.name = name
  unsupported_ascend : BytesAscend g.unsupported
  mem_unsupported : ∀ name, name ∈ g.unsupported ↔
    name ∈ request ∧ ¬∃ c ∈ counters, c.name = name
  /-- A value is the sum of as many records as its counter has, each with the counter's value. -/
  values : ∀ m ∈ g.metrics, ∃ c ∈ counters, c.name = m.field ∧
    m.value = formatValue (Nat.repeat (fun x => x + c.value) c.recordCount 0.0)

/-- A name that is requested and that a counter has is told with its value. -/
theorem GpuReport.Complete.mem_metrics {counters : List DeviceCounter} {request : List String}
    {g : GpuReport} (complete : g.Complete counters request) {name text : String}
    (requested : name ∈ request) (there : ∃ c ∈ counters, c.name = name)
    (value : ∀ m ∈ g.metrics, m.field = name → m.value = text) : ⟨name, text⟩ ∈ g.metrics := by
  obtain ⟨m, met, named⟩ := List.mem_map.1 ((complete.mem_fields name).2 ⟨requested, there⟩)
  have m_eq : m = ⟨name, text⟩ := by rw [← named, ← value m met named]
  exact m_eq ▸ met

/-- How many names in a request are names of counters. -/
def supportedCount (counters : List DeviceCounter) (request : List String) : Nat :=
  (distinct request).countP fun name => decide (∃ c ∈ counters, c.name = name)

/-- How many profiles of at most `most` counters so many counters take. -/
def profilesNeeded (most count : Nat) : Nat :=
  (count + most - 1) / most

namespace Sampler

variable {d : Device} {most : Nat} {agent : AgentId} {known : NameMap CounterId} {stock : Stock}
  {set : ProfileSet} {request : List String}

/-- If nothing is unpackable, the names in a set are those requested that are known. -/
theorem mem_counterNames_iff (inStock : set.InStock d agent known stock request)
    (all : set.unpackable = []) (name : String) :
    name ∈ set.counterNames ↔ name ∈ request ∧ (known.find? name).isSome = true := by
  obtain ⟨cap, covers⟩ := inStock.covers
  have partition := covers.partition.mem_iff (a := name)
  rw [all, List.append_nil, List.mem_append, covers.unsupported_eq, List.mem_filter,
    mem_distinct] at partition
  constructor
  · intro mem
    obtain ⟨id, c, n, found, -⟩ := counter_of_mem inStock mem
    exact ⟨partition.1 (.inl mem), by rw [found]; rfl⟩
  · rintro ⟨mem, found⟩
    rcases partition.2 mem with inSet | ⟨-, missing⟩
    · exact inSet
    · cases there : known.find? name <;> simp [there] at found missing

/-- Without a limit on reads the names with a value are those in the set. -/
theorem mem_names_totals_iff (inStock : set.InStock d agent known stock request) (name : String) :
    name ∈ (addAll .empty (set.counterNames.flatMap (recordsNamed d known))).names ↔
      name ∈ set.counterNames := by
  rw [NameMap.mem_names_iff]
  by_cases mem : name ∈ set.counterNames
  · obtain ⟨id, c, n, found, there, counted⟩ := counter_of_mem inStock mem
    simp [find?_totals inStock.distinct mem found there counted, mem]
  · simp [find?_totals_absent inStock.distinct mem, mem]

/-- A set in which nothing is unpackable makes a complete section. -/
theorem complete_of_set (unlimited : d.maxRecords = none)
    (listing : d.facts.listing agent = .ok known)
    (names : ∀ name, (known.find? name).isSome = true ↔ ∃ c ∈ d.counters, c.name = name)
    {counters : List String}
    (inStock : set.InStock d agent known stock (ProfileCache.setKey counters))
    (all : set.unpackable = []) (info : AgentInfo) :
    (GpuReport.success info (addAll .empty (recordsIn d known set.profiles)).entries set.unpackable
      set.unsupported).Complete d.counters counters := by
  rw [recordsIn_eq unlimited listing inStock]
  obtain ⟨cap, covers⟩ := inStock.covers
  have unsupported_eq := covers.unsupported_eq
  rw [ProfileCache.distinct_setKey] at unsupported_eq
  have fields (values : NameMap Float) :
      (GpuReport.success info values.entries set.unpackable set.unsupported).metrics.map
        (fun m => m.field) = values.names := by
    change (values.entries.map _).map _ = values.entries.map Prod.fst
    rw [List.map_map]
    rfl
  refine ⟨rfl, rfl, all, ?_, fun name => ?_, ?_, fun name => ?_, fun m mem => ?_⟩
  · rw [fields]
    exact bytesAscend (NameMap.names_ascend _)
  · rw [fields, mem_names_totals_iff inStock, mem_counterNames_iff inStock all, names,
      ProfileCache.mem_setKey]
  · change BytesAscend set.unsupported
    rw [unsupported_eq]
    exact bytesAscend ((ProfileCache.setKey_ascends counters).filter _)
  · change name ∈ set.unsupported ↔ _
    rw [unsupported_eq, List.mem_filter, ProfileCache.mem_setKey, ← names]
    simp
  · obtain ⟨⟨name, x⟩, entry, rfl⟩ := List.mem_map.1 mem
    have value := Table.lookup_of_mem (NameMap.nodup_names _) entry
    have inSet := (mem_names_totals_iff inStock name).1 (List.mem_map_of_mem entry)
    obtain ⟨id, c, n, found, there, counted⟩ := counter_of_mem inStock inSet
    obtain ⟨c', there', named⟩ := Device.listing_named listing found
    obtain rfl := Option.some.inj (there.symm.trans there')
    have total := find?_totals inStock.distinct inSet found there counted
    obtain rfl := Option.some.inj (value.symm.trans total)
    exact ⟨c, List.mem_of_find?_eq_some there, named, rfl⟩

/-- Packing a request for the first time on a plain device leaves nothing over and makes no more
profiles than the limits make necessary. -/
theorem profileSet_greedy (plain : d.Plain most) {a : AgentInfo} (there : a ∈ d.agents)
    (isGpu : a.isGpu = true) {e : Sampler} (agent : e.agent = a.id) (truthful : e.Truthful d)
    (empty : e.cache.sets = .empty) (positive : 0 < e.maxPerProfile) (counters : List String)
    (s : Device.State) :
    ∃ set, (((profileSet counters).run.run e).run d.backend s).1.1 = .ok set ∧
      set.value.unpackable = [] ∧
      set.value.profiles.length = profilesNeeded (min d.hwLimit e.maxPerProfile)
        (supportedCount d.counters counters) := by
  obtain ⟨known, listing, names⟩ := plain.listing there isGpu
  have roomy := plain.roomy there isGpu listing (distinct (ProfileCache.setKey counters))
  rw [← agent] at listing roomy
  have count : (distinct (ProfileCache.setKey counters)).countP
      (fun name => (known.find? name).isSome) = supportedCount d.counters counters := by
    have perm : (distinct (ProfileCache.setKey counters)).Perm (distinct counters) :=
      distinct_perm fun name => ProfileCache.mem_setKey
    rw [perm.countP_eq]
    refine List.countP_congr fun name _ => ?_
    rw [names, decide_eq_true_iff]
  have both : 0 < min d.hwLimit e.maxPerProfile := Nat.lt_min.2 ⟨plain.limit, positive⟩
  obtain ⟨set, packed, all, many⟩ := Packer.pack_greedy (p := ⟨e.agent, e.maxPerProfile⟩) d.steady
    both listing roomy truthful s
  rw [count] at many
  rw [run_profileSet, run_withCache]
  simp only [ProfileCache.getOrCreateSet, ProfileCache.getOrMake, empty, Table.find?_empty]
  rw [Procedure.run_bind, StateT.run_bind, Procedure.run_bind]
  generalize ((Packer.pack ⟨e.agent, e.maxPerProfile⟩ (ProfileCache.setKey counters)).run.run
    e.catalog).run d.backend s = y at packed ⊢
  obtain ⟨⟨r, c⟩, s'⟩ := y
  obtain rfl : r = .ok set := packed
  exact ⟨_, rfl, all, many⟩

end Sampler

end CounterSampling
