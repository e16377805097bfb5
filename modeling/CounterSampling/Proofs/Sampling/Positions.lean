import CounterSampling.Proofs.Device.Grid
import CounterSampling.Proofs.Sampling.Totals

/-!
# Where records lie

A read gives one record for each instance of a counter, in ascending order. What the catalog tells
about the places of these records are the tuples of the counter's grid, in their order, each of them
once. Main statement: `records_fill_grid`.
-/

namespace CounterSampling

variable {d : Device} {c : DeviceCounter}

/-- The catalog of any agent, whatever it remembers, places a record of a counter at a tuple: it
tells a position for each dimension and for nothing else. -/
def Device.Places (d : Device) (dims : List Dimension) (r : Record) (tuple : List Nat) : Prop :=
  ∃ places : NameMap Nat,
    (∀ (agent : AgentId) (catalog : Catalog) (s : Device.State), catalog.Truthful d.facts agent →
      (((Catalog.positionsOf r).run.run catalog).run d.backend s).1.1 = .ok places) ∧
    (∀ name, name ∈ places.names ↔ name ∈ dims.map fun dim => dim.name) ∧
    (dims.map fun dim => places.find? dim.name) = tuple.map some

/-- The positions along the last dimensions of a counter. -/
theorem Device.positionsAlong_eq {r : Record} (there : d.counter? r.counter = some c)
    (numbers : (c.dimensions.map fun dim => dim.id).Nodup) {before later : List Dimension}
    (split : c.dimensions = before ++ later) (names : (later.map fun dim => dim.name).Nodup)
    (fits : gridSize later ≤ Word.max) (known : NameMap Nat) :
    ∃ places, d.facts.positionsAlong r known later = .ok places ∧
      (later.map fun dim => places.find? dim.name) =
        (tupleOf later r.instanceIndex.toNat).map some ∧
      ∀ name, name ∉ (later.map fun dim => dim.name) → places.find? name = known.find? name := by
  induction later generalizing before known with
  | nil => exact ⟨known, rfl, rfl, fun _ _ => rfl⟩
  | cons dim later ih =>
    have fits' : gridSize later ≤ Word.max :=
      Nat.le_trans (Nat.le_mul_of_pos_left _ dim.extent_pos) fits
    have fresh : dim.id ∉ before.map fun dim => dim.id := by
      rw [split, List.map_append, List.nodup_append] at numbers
      exact fun mem => numbers.2.2 _ mem _ List.mem_cons_self rfl
    have place : d.facts.position r dim.id = _ := Device.position_eq there split fresh fits'
    obtain ⟨absent, names⟩ := List.nodup_cons.1 names
    have split' : c.dimensions = (before ++ [dim]) ++ later := by
      rw [split, List.append_assoc, List.singleton_append]
    obtain ⟨places, told, tuple, others⟩ := ih split' names fits' (known.insert dim.name
      (r.instanceIndex.toNat / gridSize later % dim.extent))
    refine ⟨places, ?_, ?_, fun name outside => ?_⟩
    · rw [Facts.positionsAlong, place]
      exact told
    · have first := others dim.name absent
      rw [NameMap.find?_insert, if_pos rfl] at first
      rw [List.map_cons, tupleOf, List.map_cons, first, tuple]
    · obtain ⟨differs, outside⟩ := not_or.1 (mt List.mem_cons.2 outside)
      rw [others name outside, NameMap.find?_insert, if_neg (Ne.symm differs)]

/-- A record is placed at the tuple of its instance. -/
theorem Device.places_tupleOf {r : Record} (there : d.counter? r.counter = some c)
    (numbers : (c.dimensions.map fun dim => dim.id).Nodup)
    (names : (c.dimensions.map fun dim => dim.name).Nodup)
    (fits : gridSize c.dimensions ≤ Word.max) :
    d.Places c.dimensions r (tupleOf c.dimensions r.instanceIndex.toNat) := by
  obtain ⟨places, told, tuple, others⟩ :=
    Device.positionsAlong_eq there numbers (List.nil_append _).symm names fits .empty
  have described : d.facts.dimensions r.counter = .ok c.dimensions := by
    simp only [Device.facts, Device.describe, there, Except.map]
  have positions : d.facts.positions r = .ok places := by
    rw [Facts.positions, described]
    exact told
  refine ⟨places, fun agent catalog s truthful => ?_, fun name => ?_, tuple⟩
  · have learned := (Catalog.positionsOf_learns r catalog truthful).result d.steady s
    rw [positions] at learned
    exact learned.1
  · rw [NameMap.mem_names_iff]
    by_cases mem : name ∈ c.dimensions.map fun dim => dim.name
    · obtain ⟨dim, there, rfl⟩ := List.mem_map.1 mem
      have found : places.find? dim.name ∈ (tupleOf c.dimensions r.instanceIndex.toNat).map some :=
        tuple ▸ List.mem_map_of_mem there
      obtain ⟨p, -, same⟩ := List.mem_map.1 found
      rw [← same]
      exact iff_of_true rfl mem
    · rw [others name mem]
      exact iff_of_false Bool.false_ne_true mem

/-- A read gives the first records of the counters that are bound, as many as the buffer holds. -/
theorem Device.readRecords_eq (unlimited : d.maxRecords = none) {s : Device.State}
    {context : ContextId} {agent : AgentId} {config : ConfigId} {ids : List CounterId}
    (started : s.contexts.find? context = some ⟨agent, some config, true⟩)
    (held : s.configs.find? config = some ids) (unhurt : (s.budgets.failures agent).read = 0)
    (buffer : List Record) :
    let read := (d.readRecords context buffer s).1
    ∃ count, read.count = .ok count ∧
      read.records.take count = (ids.flatMap d.recordsFor).take buffer.length := by
  have limit : d.readLimit buffer = buffer.length := by
    unfold Device.readLimit
    rw [unlimited]
  have first : d.recordsUpTo (d.readLimit buffer) ids =
      (ids.flatMap d.recordsFor).take buffer.length := by
    rw [Device.recordsUpTo_eq, limit]
  rw [Device.readRecords_live started held unhurt buffer]
  exact ⟨_, rfl, List.take_left.trans first⟩

/-- The records of a counter, in ascending order of instances. -/
theorem Device.recordsFor_eq {n : Nat} (there : d.counter? c.id = some c)
    (counted : recordCount? c.dimensions = some n) :
    d.recordsFor c.id = (List.range n).map fun i => ⟨.ofNat i, c.id, c.value⟩ := by
  have size : c.recordCount = n := by
    rw [Counter.recordCount, recordCount, counted]
    rfl
  rw [← size, ← Device.records_eq]
  simp only [Device.recordsFor, there]

/-- What a counter with distinct dimension names gives whose record count fits a word. A read
without a limit, into a buffer that has room for the records before and for its own, gives one
record for each of its instances, in ascending order. The catalog places them at tuples that ascend,
that are all tuples within the extents of the dimensions, and from which the instances are found
again. -/
theorem records_fill_grid (there : d.counter? c.id = some c) {dims : List (String × UInt64)}
    (numbered : c.dimensions = Device.Builder.numberDimensions 0 dims)
    (words : dims.length ≤ Word.max) (names : (dims.map Prod.fst).Nodup) {n : Nat}
    (counted : recordCount? c.dimensions = some n) :
    ∃ (rs : List Record) (tuples : List (List Nat)),
      (d.maxRecords = none →
        ∀ (s : Device.State) (context : ContextId) (agent : AgentId) (config : ConfigId)
          (before after : List CounterId) (buffer : List Record),
          s.contexts.find? context = some ⟨agent, some config, true⟩ →
          s.configs.find? config = some (before ++ c.id :: after) →
          (s.budgets.failures agent).read = 0 →
          (before.flatMap d.recordsFor).length + n ≤ buffer.length →
          let read := (d.readRecords context buffer s).1
          ∃ count rest, read.count = .ok count ∧
            read.records.take count = before.flatMap d.recordsFor ++ rs ++ rest ∧
            rest <+: after.flatMap d.recordsFor) ∧
      (rs.map fun r => r.instanceIndex.toNat) = List.range n ∧
      (∀ r ∈ rs, r.counter = c.id ∧ r.value = c.value) ∧
      List.Forall₂ (d.Places c.dimensions) rs tuples ∧
      tuples.Pairwise (List.Lex (· < ·)) ∧
      (∀ tuple, tuple ∈ tuples ↔ Within c.dimensions tuple) ∧
      tuples.map (instanceAt c.dimensions) = List.range n := by
  obtain ⟨rfl, fits⟩ := recordCount?_eq_some_iff.1 counted
  have records := Device.recordsFor_eq there counted
  have word (i : Nat) (mem : i ∈ List.range (gridSize c.dimensions)) :
      (UInt64.ofNat i).toNat = i := by
    have below : i < gridSize c.dimensions := List.mem_range.1 mem
    exact UInt64.toNat_ofNat_of_lt' (Nat.lt_of_lt_of_le below
      (Nat.le_trans fits (Nat.sub_le _ _)))
  refine ⟨d.recordsFor c.id, tuples c.dimensions, ?_, ?_, ?_, ?_, tuples_ascend _,
    fun _ => mem_tuples_iff, map_instanceAt_tuples _⟩
  · intro unlimited s context agent config before after buffer started held unhurt room
    obtain ⟨count, read, taken⟩ :=
      Device.readRecords_eq (d := d) unlimited started held unhurt buffer
    have length : (d.recordsFor c.id).length = gridSize c.dimensions := by
      rw [records, List.length_map, List.length_range]
    rw [← length, ← List.length_append] at room
    rw [List.flatMap_append, List.flatMap_cons, ← List.append_assoc, List.take_append,
      List.take_of_length_le room] at taken
    exact ⟨count, _, read, taken, List.take_prefix _ _⟩
  · rw [records, List.map_map]
    exact (List.map_congr_left word).trans (List.map_id' _)
  · intro r mem
    rw [records] at mem
    obtain ⟨i, -, rfl⟩ := List.mem_map.1 mem
    exact ⟨rfl, rfl⟩
  · have numbers : (c.dimensions.map fun dim => dim.id).Nodup := by
      rw [numbered]
      exact Device.Builder.nodup_numbers words
    have names' : (c.dimensions.map fun dim => dim.name).Nodup := by
      rw [numbered, Device.Builder.names_numberDimensions]
      exact names
    rw [records, tuples, List.forall₂_map_left_iff, List.forall₂_map_right_iff, List.forall₂_same]
    intro i mem
    have placed := Device.places_tupleOf (r := ⟨.ofNat i, c.id, c.value⟩) there numbers names' fits
    rw [word i mem] at placed
    exact placed

/-- A GPU with a counter one of whose dimensions has size zero. -/
def unpopulated : Device.Builder :=
  let gpu : AgentInfo := ⟨⟨1⟩, .gpu, "gfx942", 10001, 128, 1⟩
  ((Device.Builder.agent {} gpu).counter "CYCLES" [] 1.0).counter "WAVES"
    [("XCC", 2), ("SE", 0), ("CU", 3)] 3.0

/-- Open a context and start it with both counters. -/
def startBoth : Procedure Unit := do
  let _ ← Procedure.call (.createContext ⟨1⟩)
  let _ ← Procedure.call (.tryConfigure ⟨1⟩ [⟨0x100⟩, ⟨0x101⟩])
  let _ ← Procedure.call (.bindConfig ⟨1⟩ ⟨1⟩)
  let _ ← Procedure.call (.startContext ⟨1⟩)

/-- Along the dimension of size zero there is one position. -/
theorem records_fill_grid_unpopulated :
    let d := unpopulated.device
    let s := (startBoth.run d.backend unpopulated.initial).2
    let dims : List (String × UInt64) := [("XCC", 2), ("SE", 0), ("CU", 3)]
    let c : DeviceCounter :=
      ⟨⟨⟨0x101⟩, "WAVES", Device.Builder.numberDimensions 0 dims⟩, 3.0⟩
    d.counter? c.id = some c ∧ dims.length ≤ Word.max ∧ (dims.map Prod.fst).Nodup ∧
      recordCount? c.dimensions = some 6 ∧ d.maxRecords = none ∧
      s.contexts.find? ⟨1⟩ = some ⟨⟨1⟩, some ⟨1⟩, true⟩ ∧
      s.configs.find? ⟨1⟩ = some ([⟨0x100⟩] ++ c.id :: []) ∧
      (s.budgets.failures ⟨1⟩).read = 0 ∧
      ∃ rs count, (d.readRecords ⟨1⟩ (List.replicate 7 .blank) s).1.count = .ok count ∧
        (d.readRecords ⟨1⟩ (List.replicate 7 .blank) s).1.records.take count =
          [⟨0, ⟨0x100⟩, 1.0⟩] ++ rs ∧
        List.Forall₂ (d.Places c.dimensions) rs
          [[0, 0, 0], [0, 0, 1], [0, 0, 2], [1, 0, 0], [1, 0, 1], [1, 0, 2]] := by
  intro d s dims c
  have numbered : c.dimensions = Device.Builder.numberDimensions 0 dims := rfl
  have counted : recordCount? c.dimensions = some 6 := rfl
  obtain ⟨rs, tuples, read, -, -, placed, -, within, instances⟩ :=
    records_fill_grid (d := d) rfl numbered (by decide) (by decide) counted
  obtain ⟨count, rest, answered, taken, last⟩ :=
    read rfl s ⟨1⟩ ⟨1⟩ ⟨1⟩ [⟨0x100⟩] [] (List.replicate 7 .blank) rfl rfl rfl (by decide)
  rw [List.flatMap_nil, List.prefix_nil] at last
  rw [last, List.append_nil] at taken
  have tuples_eq : tuples = (List.range 6).map (tupleOf c.dimensions) := by
    rw [← instances, List.map_map]
    refine ((List.map_congr_left fun tuple mem => ?_).trans (List.map_id' _)).symm
    exact tupleOf_instanceAt ((within tuple).1 mem)
  rw [tuples_eq] at placed
  exact ⟨rfl, by decide, by decide, counted, rfl, rfl, rfl, rfl, rs, count, answered, taken, placed⟩

end CounterSampling
