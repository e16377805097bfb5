import CounterSampling.Proofs.Device.Grid
import CounterSampling.Proofs.Device.Views
import Mathlib.Data.List.Basic

/-!
# What a read gives

The records of a configuration are one stream: counter after counter, as they are configured, and of
a counter instance 0, 1, 2, … A read writes the front of the stream into the front of its buffer and
leaves the rest of the buffer alone. How far it gets is the least of what there is, what the device
gives at once, and what the buffer holds. Main statement: `readRecords_front`.
-/

namespace CounterSampling

/-- What a record says: of which counter it is, of which instance of it, and the value. -/
def Record.entry (r : Record) : CounterId × Nat × Float :=
  (r.counter, r.instanceIndex.toNat, r.value)

namespace Device

variable {d : Device}

theorem counter?_id {id : CounterId} {c : DeviceCounter} (found : d.counter? id = some c) :
    c.id = id := by
  unfold counter? at found
  simpa using List.find?_some found

/-! ## The records of one counter -/

/-- All records that a counter gives. -/
def recordsFor (d : Device) (id : CounterId) : List Record :=
  match d.counter? id with
  | some c => DeviceCounter.records c c.recordCount
  | none => []

theorem records_eq (c : DeviceCounter) :
    DeviceCounter.records c c.recordCount =
      (List.range c.recordCount).map fun i => ⟨.ofNat i, c.id, c.value⟩ := by
  unfold DeviceCounter.records
  change List.map _ (List.range (min c.recordCount c.recordCount)) = _
  rw [Nat.min_self]

theorem length_records (c : DeviceCounter) :
    (DeviceCounter.records c c.recordCount).length = c.recordCount := by
  rw [records_eq, List.length_map, List.length_range]

/-- With a limit a counter gives the first of its records. -/
theorem records_take (c : DeviceCounter) (limit : Nat) :
    DeviceCounter.records c limit = (DeviceCounter.records c c.recordCount).take limit := by
  rw [records_eq, ← List.map_take, List.take_range, Nat.min_comm]
  rfl

/-- Where the count of a counter is cut off, every instance still has a number. -/
theorem map_entry_records (c : DeviceCounter) :
    (DeviceCounter.records c c.recordCount).map Record.entry =
      (List.range (min (gridSize c.dimensions) Word.max)).map fun i => (c.id, i, c.value) := by
  have count : c.recordCount = min (gridSize c.dimensions) Word.max :=
    recordCount_eq_min c.dimensions
  rw [records_eq, count, List.map_map]
  apply List.map_congr_left
  intro i mem
  have word : i < Word.max := Nat.lt_of_lt_of_le (List.mem_range.1 mem) (Nat.min_le_right _ _)
  have same : (UInt64.ofNat i).toNat = i :=
    UInt64.toNat_ofNat_of_lt' (Nat.lt_of_lt_of_le word (Nat.sub_le _ _))
  simp only [Function.comp, Record.entry, same]

/-- How many records there are of a counter: as many as its grid has instances, cut off at the
largest word, and none of a counter that the device does not have. -/
def countOf (d : Device) (id : CounterId) : Nat :=
  match d.counter? id with
  | some c => min (gridSize c.dimensions) Word.max
  | none => 0

/-- What the records of a counter tell: instances 0, 1, 2, … with its value. -/
def entriesOf (d : Device) (id : CounterId) : List (CounterId × Nat × Float) :=
  match d.counter? id with
  | some c => (List.range (min (gridSize c.dimensions) Word.max)).map fun i => (id, i, c.value)
  | none => []

theorem map_entry_recordsFor (d : Device) (id : CounterId) :
    (d.recordsFor id).map Record.entry = d.entriesOf id := by
  unfold recordsFor entriesOf
  cases found : d.counter? id with
  | none => rfl
  | some c => simp only [map_entry_records, counter?_id found]

theorem length_entriesOf (d : Device) (id : CounterId) :
    (d.entriesOf id).length = d.countOf id := by
  unfold entriesOf countOf
  cases d.counter? id with
  | none => rfl
  | some c => rw [List.length_map, List.length_range]

/-! ## The records of a configuration -/

/-- A read gives the first of all records of its counters. -/
theorem recordsUpTo_eq (d : Device) (limit : Nat) (ids : List CounterId) :
    d.recordsUpTo limit ids = (ids.flatMap d.recordsFor).take limit := by
  induction ids generalizing limit with
  | nil => exact List.take_nil.symm
  | cons id ids ih =>
    rw [List.flatMap_cons, recordsFor, recordsUpTo]
    cases d.counter? id with
    | none => exact ih limit
    | some c =>
      have length := length_records c
      have left : limit - (DeviceCounter.records c limit).length = limit - c.recordCount := by
        rw [records_take, List.length_take, length]
        omega
      dsimp only
      rw [ih, left, List.take_append, ← records_take, length]

/-- How many records there are of a configuration, in which a counter may be repeated. -/
def total (d : Device) : List CounterId → Nat
  | [] => 0
  | id :: ids => d.countOf id + d.total ids

/-- What the records of a configuration tell, counter after counter. -/
def stream (d : Device) (ids : List CounterId) : List (CounterId × Nat × Float) :=
  ids.flatMap d.entriesOf

theorem length_stream (d : Device) (ids : List CounterId) : (d.stream ids).length = d.total ids := by
  induction ids with
  | nil => rfl
  | cons id ids ih =>
    rw [stream, List.flatMap_cons, List.length_append, length_entriesOf, total, ← ih]
    rfl

/-- What a read tells is the front of the stream. -/
theorem map_entry_recordsUpTo (d : Device) (limit : Nat) (ids : List CounterId) :
    (d.recordsUpTo limit ids).map Record.entry = (d.stream ids).take limit := by
  rw [recordsUpTo_eq, List.map_take, List.map_flatMap, stream]
  simp only [map_entry_recordsFor]

theorem length_recordsUpTo (d : Device) (limit : Nat) (ids : List CounterId) :
    (d.recordsUpTo limit ids).length = min limit (d.total ids) := by
  rw [← List.length_map Record.entry, map_entry_recordsUpTo, List.length_take, length_stream]

/-! ## Reads -/

/-- What there is, the limit of the device and the room in the buffer bound a read alike. -/
theorem min_readLimit (d : Device) (buffer : List Record) (n : Nat) :
    min (d.readLimit buffer) n = min (min n (d.maxRecords.getD n)) buffer.length := by
  rw [Nat.min_comm]
  unfold readLimit
  cases d.maxRecords with
  | none => simp only [Option.getD_none, Nat.min_self]
  | some limit => simp only [Option.getD_some, Nat.min_assoc]

variable {s : State} {context : ContextId} {agent : AgentId} {config : ConfigId}
  {ids : List CounterId}

/-- A read in an active context that is bound to a live configuration, with no failure left. -/
theorem readRecords_live (there : s.contexts.find? context = some ⟨agent, some config, true⟩)
    (live : s.configs.find? config = some ids) (unhurt : left s.budgets.read agent = 0)
    (buffer : List Record) :
    d.readRecords context buffer s =
      (fill buffer (d.recordsUpTo (d.readLimit buffer) ids)
        (Nat.le_trans (length_recordsUpTo_le d _ ids) (readLimit_le d buffer)), s) := by
  unfold readRecords
  simp only [there, takeFailure_eq, unhurt, live, Bool.not_true, Bool.false_eq_true, if_false,
    if_true]

/-- A read in an active context that is bound to a live configuration, with no failure left,
whatever the limit of the device and the buffer: it counts the least of what there is, that limit
and the length of the buffer, leaves so many entries of the stream at the front of the buffer, and
changes nothing else. -/
theorem readRecords_front (there : s.contexts.find? context = some ⟨agent, some config, true⟩)
    (live : s.configs.find? config = some ids) (unhurt : left s.budgets.read agent = 0)
    (buffer : List Record) :
    let n := min (min (d.total ids) (d.maxRecords.getD (d.total ids))) buffer.length
    let read := (d.readRecords context buffer s).1
    read.count = .ok n ∧
      (read.records.take n).map Record.entry = (d.stream ids).take n ∧
      read.records.drop n = buffer.drop n ∧
      (d.readRecords context buffer s).2 = s := by
  intro n read
  have length : (d.recordsUpTo (d.readLimit buffer) ids).length = n := by
    rw [length_recordsUpTo, min_readLimit]
  have front : (d.recordsUpTo (d.readLimit buffer) ids).map Record.entry = (d.stream ids).take n := by
    rw [map_entry_recordsUpTo, ← length, length_recordsUpTo, ← length_stream]
    exact List.take_eq_take_min
  have answered := readRecords_live (d := d) there live unhurt buffer
  refine ⟨?_, ?_, ?_, ?_⟩
  · simp only [read, answered, fill, length]
  · rw [← front, ← length]
    simp only [read, answered, fill, List.take_left]
  · simp only [read, answered, fill, ← length, List.drop_left]
  · rw [answered]

/-- A device that gives four records at once, with a counter of two instances and one of one. -/
def fourAtOnce : Builder :=
  let gpu : AgentInfo := ⟨⟨1⟩, .gpu, "gfx942", 10001, 128, 1⟩
  (((Builder.agent {} gpu).counter "WAVES" [("XCC", 2), ("SE", 0)] 3.0).counter "CYCLES" []
    1.0).maxRecords 4

/-- The read ends within a counter that is configured for the second time. -/
theorem readRecords_front_repeated :
    let d := fourAtOnce.device
    let ids : List CounterId := [⟨0x100⟩, ⟨0x101⟩, ⟨0x100⟩]
    let s : State := {
      contexts := Table.empty.insert ⟨1⟩ ⟨⟨1⟩, some ⟨1⟩, true⟩
      configs := Table.empty.insert ⟨1⟩ ids }
    let read := (d.readRecords ⟨1⟩ (List.replicate 6 .blank) s).1
    s.contexts.find? ⟨1⟩ = some ⟨⟨1⟩, some ⟨1⟩, true⟩ ∧ s.configs.find? ⟨1⟩ = some ids ∧
      left s.budgets.read ⟨1⟩ = 0 ∧ d.total ids = 5 ∧ read.count = .ok 4 ∧
      (read.records.take 4).map Record.entry =
        [(⟨0x100⟩, 0, 3.0), (⟨0x100⟩, 1, 3.0), (⟨0x101⟩, 0, 1.0), (⟨0x100⟩, 0, 3.0)] ∧
      read.records.drop 4 = [.blank, .blank] := by
  intro d ids s read
  have there : s.contexts.find? ⟨1⟩ = some ⟨⟨1⟩, some ⟨1⟩, true⟩ := rfl
  have live : s.configs.find? ⟨1⟩ = some ids := rfl
  have unhurt : left s.budgets.read ⟨1⟩ = 0 := rfl
  obtain ⟨count, front, rest, -⟩ :=
    readRecords_front (d := d) there live unhurt (List.replicate 6 .blank)
  exact ⟨there, live, unhurt, rfl, count, front, rest⟩

end Device

end CounterSampling
