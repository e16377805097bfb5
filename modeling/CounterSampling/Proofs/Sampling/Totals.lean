import CounterSampling.Proofs.Device.Reads
import CounterSampling.Proofs.Sampling.Outcomes
import Mathlib.Data.List.Basic
import Mathlib.Data.List.Induction

/-!
# The values of counters

Three parts of a request have to agree: the catalog, which says how many records a counter gives and
by which number it is known; the device, which produces the records of a configuration; and the
names under which records are summed. On a device that reads without a limit they do agree: the
value of each name is the sum of exactly the records of its counter. Main statement:
`sample_totals`.
-/

namespace CounterSampling

variable {d : Device} {agent : AgentId} {known : NameMap CounterId}

/-! ## The catalog and the device -/

namespace Device

/-- Names stand for counters of that name. -/
theorem nameAll_named {ids : List CounterId} {known' : NameMap CounterId}
    (old : ∀ name id, known.find? name = some id → ∃ c, d.counter? id = some c ∧ c.name = name)
    (listed : d.facts.nameAll known ids = .ok known') :
    ∀ name id, known'.find? name = some id → ∃ c, d.counter? id = some c ∧ c.name = name := by
  intro name id found
  rw [Facts.find?_of_nameAll listed, Option.or_eq_some_iff] at found
  rcases found with last | ⟨-, found⟩
  · have bears : (d.facts.named id).toOption = some name := by simpa using List.find?_some last
    cases told : d.facts.named id with
    | error e =>
      rw [told] at bears
      cases bears
    | ok name' =>
      rw [told] at bears
      obtain rfl := Option.some.inj bears
      exact facts_named_iff.1 told
  · exact old name id found

theorem listing_named (listing : d.facts.listing agent = .ok known) {name : String} {id : CounterId}
    (found : known.find? name = some id) : ∃ c, d.counter? id = some c ∧ c.name = name := by
  unfold Facts.listing at listing
  cases told : d.facts.listed agent with
  | error e =>
    rw [told] at listing
    cases listing
  | ok ids =>
    rw [told] at listing
    have none_named : ∀ name id, (NameMap.empty : NameMap CounterId).find? name = some id →
        ∃ c, d.counter? id = some c ∧ c.name = name := by
      intro name id impossible
      cases impossible
    exact nameAll_named none_named listing name id found

/-- The counters of an agent can all be named. -/
theorem nameAll_ok {ids : List CounterId} (there : ∀ id ∈ ids, ∃ c ∈ d.counters, c.id = id) :
    ∃ known', d.facts.nameAll known ids = .ok known' := by
  induction ids generalizing known with
  | nil => exact ⟨known, rfl⟩
  | cons id ids ih =>
    obtain ⟨⟨c, mem, same⟩, later⟩ := List.forall_mem_cons.1 there
    have found : (d.counter? id).isSome = true := by
      rw [counter?, List.find?_isSome]
      exact ⟨c, mem, decide_eq_true same⟩
    obtain ⟨c', found⟩ := Option.isSome_iff_exists.1 found
    unfold Facts.nameAll
    rw [facts_named_iff.2 ⟨c', found, rfl⟩]
    exact ih later

theorem listing_ok {ids : List CounterId} (listed : d.listCounters agent = .ok ids) :
    ∃ known, d.facts.listing agent = .ok known := by
  unfold Facts.listing
  rw [show d.facts.listed agent = .ok ids from listed]
  apply nameAll_ok
  intro id mem
  unfold listCounters at listed
  split at listed
  · cases listed
  split at listed
  · next a found =>
    rw [← Except.ok.inj listed] at mem
    split at mem
    · exact List.mem_map.1 mem
    · cases mem
  · cases listed

theorem length_recordsFor {id : CounterId} {n : Nat} (sized : d.facts.sizeOf? id = some n) :
    (d.recordsFor id).length = n := by
  obtain ⟨c, there, counted⟩ := facts_sizeOf?_iff.1 sized
  have size : c.recordCount = n := by simp [Counter.recordCount, recordCount, counted]
  rw [recordsFor, there, ← size]
  exact length_records c

end Device

/-! ## Records by name -/

namespace Sampler

/-- All records of the counter of a name, with the name. -/
def recordsNamed (d : Device) (known : NameMap CounterId) (name : String) :
    List (String × Record) :=
  match known.find? name with
  | some id => (d.recordsFor id).map fun r => (name, r)
  | none => []

theorem recordsNamed_name {name : String} : ∀ x ∈ recordsNamed d known name, x.1 = name := by
  intro x mem
  unfold recordsNamed at mem
  split at mem
  · obtain ⟨r, -, rfl⟩ := List.mem_map.1 mem
    rfl
  · cases mem

/-- The records of a counter are named after it. -/
theorem named_recordsFor (listing : d.facts.listing agent = .ok known) {name : String} {id : CounterId}
    (found : known.find? name = some id) :
    named d (d.recordsFor id) = recordsNamed d known name := by
  obtain ⟨c, there, named⟩ := Device.listing_named listing found
  have name_eq : d.facts.nameOf id = name :=
    Catalog.nameOf_of_told (Device.facts_named_iff.2 ⟨c, there, named⟩)
  unfold recordsNamed Sampler.named
  rw [found]
  refine List.map_congr_left fun r mem => ?_
  have counter : r.counter = id := by
    unfold Device.recordsFor at mem
    rw [there] at mem
    obtain ⟨i, -, rfl⟩ := List.mem_map.1 mem
    exact Device.counter?_id there
  rw [counter, name_eq]

/-- Names whose counters give as many records as they are said to. -/
theorem length_flatMap_recordsNamed {names : List String}
    (sized : ∀ name ∈ names, ∃ id n, known.find? name = some id ∧ d.facts.sizeOf? id = some n) :
    (names.flatMap (recordsNamed d known)).length =
      d.facts.totalSize (names.filterMap known.find?) := by
  induction names with
  | nil => rfl
  | cons name names ih =>
    obtain ⟨⟨id, n, found, counted⟩, later⟩ := List.forall_mem_cons.1 sized
    rw [List.flatMap_cons, List.length_append, ih later, List.filterMap_cons_some found,
      Facts.totalSize, counted, Option.getD_some, recordsNamed, found, List.length_map,
      Device.length_recordsFor counted]

section Made

variable {p : Profile} {members : List Packer.Item}

theorem sized_of_made (made : p.Made d.facts agent known members) :
    ∀ name ∈ p.counters, ∃ id n, known.find? name = some id ∧ d.facts.sizeOf? id = some n := by
  intro name mem
  rw [made.counters] at mem
  obtain ⟨m, member, rfl⟩ := List.mem_map.1 mem
  obtain ⟨n, counted⟩ := Option.isSome_iff_exists.1 (made.sized.each m member)
  exact ⟨m.id, n, made.resolved m member, counted⟩

/-- All records of the counters of a profile fill its buffer. -/
theorem length_records_of_made (made : p.Made d.facts agent known members) :
    (p.counters.flatMap (recordsNamed d known)).length = p.expectedSize := by
  rw [length_flatMap_recordsNamed (sized_of_made made), made.sized.size_eq, ← made.ids_eq]
  rfl

/-- The read of a profile gives the first records of its counters, one counter after another. -/
theorem named_recordsOf (listing : d.facts.listing agent = .ok known)
    (made : p.Made d.facts agent known members) :
    named d (recordsOf d p (p.ids known)) =
      (p.counters.flatMap (recordsNamed d known)).take (d.readLimit (bufferOf p)) := by
  rw [made.ids_eq, made.counters, recordsOf, Device.recordsUpTo_eq, named, List.map_take,
    List.map_flatMap, List.flatMap_map, List.flatMap_map]
  congr 1
  exact List.flatMap_congr fun m mem => named_recordsFor listing (made.resolved m mem)

end Made

/-- Without a limit it gives all of them. -/
theorem recordsIn_eq (unlimited : d.maxRecords = none) (listing : d.facts.listing agent = .ok known)
    {stock : Stock} {set : ProfileSet} {request : List String}
    (inStock : set.InStock d agent known stock request) :
    recordsIn d known set.profiles = set.counterNames.flatMap (recordsNamed d known) := by
  rw [recordsIn, ProfileSet.counterNames, List.flatMap_assoc]
  refine List.flatMap_congr fun p mem => ?_
  obtain ⟨members, made, -⟩ := inStock.profiles p mem
  have limit : d.readLimit (bufferOf p) = p.expectedSize := by
    unfold Device.readLimit
    rw [unlimited]
    exact List.length_replicate
  rw [named_recordsOf listing made, limit, List.take_of_length_le]
  exact Nat.le_of_eq (length_records_of_made made)

/-- Of records listed by name, each name once, those of one name. -/
theorem filter_flatMap_own {names : List String} (nodup : names.Nodup)
    {records : String → List (String × Record)} (own : ∀ name, ∀ x ∈ records name, x.1 = name)
    (name : String) :
    (names.flatMap records).filter (fun x => decide (x.1 = name)) =
      if name ∈ names then records name else [] := by
  induction names with
  | nil => rfl
  | cons n names ih =>
    obtain ⟨absent, nodup⟩ := List.nodup_cons.1 nodup
    rw [List.flatMap_cons, List.filter_append, ih nodup]
    by_cases same : n = name
    · subst same
      have all : (records n).filter (fun x => decide (x.1 = n)) = records n := by
        refine List.filter_eq_self.2 fun x mem => ?_
        exact decide_eq_true (own n x mem)
      rw [all, if_neg absent, if_pos List.mem_cons_self, List.append_nil]
    · have none : (records n).filter (fun x => decide (x.1 = name)) = [] := by
        refine List.filter_eq_nil_iff.2 fun x mem => ?_
        rw [own n x mem]
        simpa using same
      rw [none, List.nil_append]
      simp [Ne.symm same]

/-! ## Sums -/

/-- The sum of records that all have the same value. -/
theorem foldl_records {rs : List (String × Record)} {x : Float} (same : ∀ r ∈ rs, r.2.value = x) :
    rs.foldl (fun v r => some (v.getD 0.0 + r.2.value)) (some 0.0) =
      some (Nat.repeat (fun y => y + x) rs.length 0.0) := by
  induction rs using List.reverseRecOn with
  | nil => rfl
  | append_singleton rs r ih =>
    obtain ⟨before, last⟩ := List.forall_mem_append.1 same
    rw [List.foldl_append, ih before, List.foldl_cons, List.foldl_nil,
      last r List.mem_cons_self, List.length_append]
    rfl

/-- The sum for a name that a counter has. -/
theorem find?_totals {names : List String} (nodup : names.Nodup) {name : String}
    (mem : name ∈ names) {id : CounterId} (found : known.find? name = some id) {c : DeviceCounter}
    (there : d.counter? id = some c) {n : Nat} (counted : recordCount? c.dimensions = some n) :
    (addAll .empty (names.flatMap (recordsNamed d known))).find? name =
      some (Nat.repeat (fun y => y + c.value) c.recordCount 0.0) := by
  have count_eq : c.recordCount = n := by
    simp [Counter.recordCount, recordCount, counted]
  have records : recordsNamed d known name =
      (Device.DeviceCounter.records c c.recordCount).map fun r => (name, r) := by
    simp only [recordsNamed, found, Device.recordsFor, there]
  have length : (recordsNamed d known name).length = c.recordCount := by
    rw [records, List.length_map]
    exact Device.length_records c
  have values : ∀ x ∈ recordsNamed d known name, x.2.value = c.value := by
    intro x mem
    rw [records] at mem
    obtain ⟨r, there, rfl⟩ := List.mem_map.1 mem
    obtain ⟨i, -, rfl⟩ := List.mem_map.1 there
    rfl
  rw [find?_addAll, filter_flatMap_own nodup (fun _ => recordsNamed_name), if_pos mem, ← length,
    ← foldl_records values]
  -- There is a first record, and what is added to nothing is added to zero.
  have positive := (recordCount?_bounds counted).1
  cases here : recordsNamed d known name with
  | nil =>
    rw [here] at length
    simp at length
    omega
  | cons x xs => rfl

theorem find?_totals_absent {names : List String} (nodup : names.Nodup) {name : String}
    (absent : name ∉ names) :
    (addAll .empty (names.flatMap (recordsNamed d known))).find? name = none := by
  rw [find?_addAll, filter_flatMap_own nodup (fun _ => recordsNamed_name), if_neg absent]
  rfl

/-- A name in a set stands for a counter whose records can be counted. -/
theorem counter_of_mem {stock : Stock} {set : ProfileSet} {request : List String}
    (inStock : set.InStock d agent known stock request) {name : String}
    (mem : name ∈ set.counterNames) :
    ∃ id c n, known.find? name = some id ∧ d.counter? id = some c ∧
      recordCount? c.dimensions = some n := by
  obtain ⟨p, there, inside⟩ := List.mem_flatMap.1 mem
  obtain ⟨members, made, -⟩ := inStock.profiles p there
  obtain ⟨id, n, found, sized⟩ := sized_of_made made name inside
  obtain ⟨c, there, counted⟩ := Device.facts_sizeOf?_iff.1 sized
  exact ⟨id, c, n, found, there, counted⟩

section Requests

variable {e : Sampler} {stock : Stock} {s : Device.State}

/-- A set can be had if the counters can be listed. -/
theorem profileSet_ok (sound : e.Sound d stock s) (listing : d.facts.listing e.agent = .ok known)
    (counters : List String) :
    ∃ set, (((profileSet counters).run.run e).run d.backend s).1.1 = .ok set := by
  obtain ⟨stock', amid⟩ := Procedure.amid_run d ((profileSet counters).run.run e) stock s
  have managed := profileSet_manages counters sound.truthful sound.nodup
  obtain ⟨⟨-, fails⟩, -⟩ := managed.amid sound.stores sound.numbered amid
  cases made : (((profileSet counters).run.run e).run d.backend s).1.1 with
  | ok set => exact ⟨set, rfl⟩
  | error f =>
    obtain ⟨cause, failed⟩ := fails f made
    rw [listing] at failed
    cases failed

variable {context : ContextId} {bound : Option ConfigId} {active : Bool} {n : Device.Failures}

/-- The catalog of a sampler resolves names as the listing of its agent does. -/
theorem run_lookup (situated : s.Situated agent context stock bound active n) {c : Catalog}
    (truthful : c.Truthful d.facts agent) (listing : d.facts.listing agent = .ok known) (name : String) :
    (((Catalog.lookup name).run.run c).run d.backend s).1.1 = .ok (known.find? name) := by
  have looked := Catalog.lookup_learns name c truthful
  obtain ⟨y, _, run_lookup, ⟨told, -⟩, -⟩ := looked.situated situated
  rw [run_lookup, told, listing]
  rfl

/-- The catalog of a sampler counts the records of a counter as the device does. -/
theorem run_recordCountOf (situated : s.Situated agent context stock bound active n) {c : Catalog}
    (truthful : c.Truthful d.facts agent) {id : CounterId} {counter : DeviceCounter}
    (there : d.counter? id = some counter) {size : Nat}
    (counted : recordCount? counter.dimensions = some size) :
    (((Catalog.recordCountOf id).run.run c).run d.backend s).1.1 = .ok counter.recordCount := by
  have sized := Catalog.recordCountOf_learns id c truthful
  obtain ⟨⟨z, _⟩, _, run_count, ⟨count, -⟩, -⟩ := sized.situated situated
  have size : d.facts.sizeOf? id = some counter.recordCount := by
    refine Device.facts_sizeOf?_iff.2 ⟨counter, there, ?_⟩
    simp [Counter.recordCount, recordCount, counted]
  rw [size] at count
  rw [run_count]
  cases z with
  | ok n => exact congrArg Except.ok (Option.some.inj count)
  | error e => cases count

end Requests

/-- What a request gives on a device that reads without a limit and has no failure left for the
agent: a value for each name in the set, and for no other. It is the sum, from zero on, of as many
records as the catalog counts for the counter that it finds under the name, each with the value that
the device has for this counter. -/
theorem sample_totals {e : Sampler} {stock : Stock} {s : Device.State} (use : e.InUse d stock s)
    (unlimited : d.maxRecords = none) (unhurt : s.budgets.failures e.agent = ⟨0, 0, 0, 0⟩)
    (listed : ∃ ids, d.listCounters e.agent = .ok ids) (idle : s.activity e.context = some false)
    (counters : List String)
    (fits : ∀ set, (((profileSet counters).run.run e).run d.backend s).1.1 = .ok set →
      ∀ p ∈ set.value.profiles, ¬TooLarge p) :
    ∃ set output, (((profileSet counters).run.run e).run d.backend s).1.1 = .ok set ∧
      (((sample counters).run.run e).run d.backend s).1.1 = .ok output ∧
      (∀ name, name ∈ output.values.names ↔ name ∈ set.value.counterNames) ∧
      ∀ name ∈ set.value.counterNames, ∃ id c,
        (((Catalog.lookup name).run.run e.catalog).run d.backend s).1.1 = .ok (some id) ∧
        (((Catalog.recordCountOf id).run.run e.catalog).run d.backend s).1.1 = .ok c.recordCount ∧
        d.counter? id = some c ∧
        output.values.find? name = some (Nat.repeat (fun x => x + c.value) c.recordCount 0.0) := by
  obtain ⟨ids, listed⟩ := listed
  obtain ⟨known, listing⟩ := Device.listing_ok listed
  have sound := use.sound
  have ready : e.Ready d stock s ⟨0, 0, 0, 0⟩ := ⟨sound, idle, unhurt⟩
  obtain ⟨bound, situated⟩ := ready.situated
  obtain ⟨set, made⟩ := profileSet_ok sound listing counters
  have fits' := fits set made
  rcases packed : ((profileSet counters).run.run e).run d.backend s with ⟨⟨r, e₁⟩, s₁⟩
  rw [packed] at made
  obtain rfl : r = .ok set := made
  obtain ⟨known', e', stock₁, stock', s', listing', inStock, run, -⟩ :=
    sample_outcome ready packed fits' (.inr rfl)
  obtain rfl : known = known' := Except.ok.inj (listing.symm.trans listing')
  rw [recordsIn_eq unlimited listing inStock] at run
  refine ⟨set, _, rfl, by rw [run]; rfl, fun name => ?_, fun name mem => ?_⟩
  · rw [NameMap.mem_names_iff]
    by_cases mem : name ∈ set.value.counterNames
    · obtain ⟨id, c, n, found, there, counted⟩ := counter_of_mem inStock mem
      simp only [outputOf, find?_totals inStock.distinct mem found there counted, mem,
        Option.isSome_some]
    · simp only [outputOf, find?_totals_absent inStock.distinct mem, mem, Option.isSome_none,
        Bool.false_eq_true]
  · obtain ⟨id, c, n, found, there, counted⟩ := counter_of_mem inStock mem
    have looked := run_lookup situated sound.truthful listing name
    rw [found] at looked
    exact ⟨id, c, looked, run_recordCountOf situated sound.truthful there counted, there,
      find?_totals inStock.distinct mem found there counted⟩

/-- A GPU with two counters of one name, the second of which has a dimension of size zero, and with
one that is rejected. -/
def repeatedName : Device.Builder :=
  let gpu : AgentInfo := ⟨⟨1⟩, .gpu, "gfx942", 10001, 128, 1⟩
  (((((Device.Builder.agent {} gpu).counter "CYCLES" [] 1.0).counter "CYCLES"
    [("XCC", 2), ("SE", 0)] 3.0).counter "OPS" [] 1.0).counter "WAVES" [] 1.0).reject "OPS"

/-- Of two counters of one name the later one is sampled, with all its records. -/
theorem sample_totals_repeated_name :
    match (Sampler.new ⟨1⟩ 0 8).run repeatedName.device.backend repeatedName.initial with
    | (.error _, _) => False
    | (.ok e, s) =>
      let d := repeatedName.device
      let counters := ["CYCLES", "OPS", "WAVES"]
      e.InUse d [] s ∧ d.maxRecords = none ∧ s.budgets.failures e.agent = ⟨0, 0, 0, 0⟩ ∧
      (∃ ids, d.listCounters e.agent = .ok ids) ∧ s.activity e.context = some false ∧
      (∀ set, (((profileSet counters).run.run e).run d.backend s).1.1 = .ok set →
        ∀ p ∈ set.value.profiles, ¬TooLarge p) ∧
      ∃ output, (((sample counters).run.run e).run d.backend s).1.1 = .ok output ∧
        output.values.find? "CYCLES" = some (0.0 + 3.0 + 3.0) := by
  have use : Sampler.InUse repeatedName.device _ [] _ :=
    .created ⟨1⟩ 0 8 (Device.reached_initial repeatedName) rfl
  have key : ProfileCache.setKey ["CYCLES", "OPS", "WAVES"] = ["CYCLES", "OPS", "WAVES"] := by
    unfold ProfileCache.setKey
    rw [List.mergeSort_of_pairwise (by decide)]
    decide
  have packed : (((profileSet ["CYCLES", "OPS", "WAVES"]).run.run
      ⟨⟨1⟩, ⟨1⟩, .new ⟨1⟩, .new 0, 8⟩).run repeatedName.device.backend
        (repeatedName.device.answer (.createContext ⟨1⟩) repeatedName.initial).2).1.1 =
      .ok ⟨0, 1, [⟨⟨2⟩, ["CYCLES", "WAVES"], 3⟩], [], ["OPS"]⟩ := by
    rw [run_profileSet, run_withCache]
    simp only [ProfileCache.getOrCreateSet, key]
    rfl
  have fits : ∀ set : Shared ProfileSet,
      (Except.ok ⟨0, 1, [⟨⟨2⟩, ["CYCLES", "WAVES"], 3⟩], [], ["OPS"]⟩ : Except Failure _) = .ok set →
        ∀ p ∈ set.value.profiles, ¬TooLarge p := by
    intro set same p mem
    obtain rfl := Except.ok.inj same
    obtain rfl := List.mem_singleton.1 mem
    exact Nat.not_lt.2 (by decide)
  rw [← packed] at fits
  refine ⟨use, rfl, rfl, ⟨_, rfl⟩, rfl, fits, ?_⟩
  obtain ⟨set, output, found, sampled, -, values⟩ :=
    sample_totals use rfl rfl ⟨_, rfl⟩ rfl ["CYCLES", "OPS", "WAVES"] fits
  obtain rfl := Except.ok.inj (packed.symm.trans found)
  obtain ⟨id, c, looked, -, there, value⟩ := values "CYCLES" (by decide)
  cases looked
  cases there
  exact ⟨output, sampled, value⟩

end Sampler

end CounterSampling
