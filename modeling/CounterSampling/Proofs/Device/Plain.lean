import CounterSampling.Proofs.Device.Verdicts
import CounterSampling.Proofs.Packing.Greedy
import CounterSampling.Proofs.Sampling.Totals

/-!
# Plain devices

A plain device tells all it has, refuses a set of counters only if there are too many of them, and
cuts no read off. On such a device every counter that an agent is asked for can be sampled, in as
few profiles as the limit allows. Main statements: `Plain.listing` and `Plain.roomy`.
-/

namespace CounterSampling

/-- An entry of a list is found by its key if no other has the same key. -/
theorem find?_of_mem {α κ : Type} [DecidableEq κ] {key : α → κ} {xs : List α}
    (distinct : (xs.map key).Nodup) {x : α} (mem : x ∈ xs) :
    xs.find? (fun y => decide (key y = key x)) = some x := by
  induction xs with
  | nil => cases mem
  | cons y ys ih =>
    obtain ⟨fresh, distinct⟩ := List.nodup_cons.1 distinct
    rcases List.mem_cons.1 mem with rfl | later
    · exact List.find?_cons_of_pos (decide_eq_true rfl)
    · have other : key y ≠ key x := fun same => fresh (same ▸ List.mem_map_of_mem later)
      rw [List.find?_cons_of_neg (by simpa using other)]
      exact ih distinct later

/-- All names that are told are known in the end. -/
theorem Facts.nameAll_complete {F : Facts} {ids : List CounterId} {known known' : NameMap CounterId}
    (listed : F.nameAll known ids = .ok known') {name : String}
    (told : (known.find? name).isSome = true ∨ ∃ id ∈ ids, F.named id = .ok name) :
    (known'.find? name).isSome = true := by
  rw [find?_of_nameAll listed, Option.isSome_or, Bool.or_eq_true]
  refine told.symm.imp_left fun ⟨id, mem, named⟩ => ?_
  refine List.find?_isSome.2 ⟨id, List.mem_reverse.2 mem, ?_⟩
  rw [named]
  exact decide_eq_true rfl

namespace Device

/-- A device that takes up to a number of any counters, each of which gives at most `most`
records. -/
structure Plain (d : Device) (most : Nat) : Prop where
  enumerates : d.failEnumeration = false
  lists : d.catalogFailures = []
  takes : d.rejected = []
  unlimited : d.maxRecords = none
  agents : (d.agents.map fun a => a.id).Nodup
  counters : (d.counters.map fun c => c.id).Nodup
  sized : ∀ c ∈ d.counters, ∃ n, recordCount? c.dimensions = some n ∧ n ≤ most
  limit : 0 < d.hwLimit
  /-- There is a buffer for the records of a full profile, and of one counter more. -/
  buffers : Record.bytes * ((d.hwLimit + 1) * most) ≤ Sampler.maxBufferBytes

variable {d : Device} {most : Nat} {agent : AgentId} {a : AgentInfo} {known : NameMap CounterId}

theorem Plain.counter? (h : d.Plain most) {c : DeviceCounter} (mem : c ∈ d.counters) :
    d.counter? c.id = some c :=
  find?_of_mem h.counters mem

theorem Plain.listCounters (h : d.Plain most) (there : a ∈ d.agents) (isGpu : a.isGpu = true) :
    d.listCounters a.id = .ok (d.counters.map fun c => c.id) := by
  rw [Device.listCounters, h.lists, find?_of_mem h.agents there]
  simp [isGpu]

/-- A name is known just if there is a counter of that name. -/
theorem Plain.listing (h : d.Plain most) (there : a ∈ d.agents) (isGpu : a.isGpu = true) :
    ∃ known, d.facts.listing a.id = .ok known ∧
      ∀ name, (known.find? name).isSome = true ↔ ∃ c ∈ d.counters, c.name = name := by
  have listed := h.listCounters there isGpu
  obtain ⟨known, listing⟩ := listing_ok listed
  refine ⟨known, listing, fun name => ⟨fun found => ?_, ?_⟩⟩
  · obtain ⟨id, found⟩ := Option.isSome_iff_exists.1 found
    obtain ⟨c, there, named⟩ := listing_named listing found
    exact ⟨c, List.mem_of_find?_eq_some there, named⟩
  · rintro ⟨c, mem, rfl⟩
    rw [Facts.listing, show d.facts.listed a.id = _ from listed] at listing
    refine Facts.nameAll_complete listing (.inr ⟨c.id, List.mem_map_of_mem mem, ?_⟩)
    exact facts_named_iff.2 ⟨c, h.counter? mem, rfl⟩

/-- Resolved names are counters of the device. -/
theorem counters_of_resolved (listing : d.facts.listing agent = .ok known)
    {items : List Packer.Item} (resolved : ∀ i ∈ items, known.find? i.name = some i.id) :
    ∀ id ∈ items.map (fun i => i.id), ∃ c ∈ d.counters, d.counter? id = some c := by
  intro id mem
  obtain ⟨i, there, rfl⟩ := List.mem_map.1 mem
  obtain ⟨c, found, -⟩ := listing_named listing (resolved i there)
  exact ⟨c, List.mem_of_find?_eq_some found, found⟩

/-- The device takes counters that it has just if they are not too many. -/
theorem Plain.verdict_taken_iff (h : d.Plain most) (there : a ∈ d.agents) (isGpu : a.isGpu = true)
    {ids : List CounterId} (known : ∀ id ∈ ids, ∃ c ∈ d.counters, d.counter? id = some c) :
    d.verdict a.id ids = .taken ↔ ids.length ≤ d.hwLimit := by
  have collected : ∀ id ∈ ids, d.Collects id := by
    intro id mem
    obtain ⟨c, -, there⟩ := known id mem
    refine ⟨c, there, ?_⟩
    rw [h.takes]
    exact List.not_mem_nil
  rw [Device.verdict_taken_iff]
  exact ⟨fun taken => taken.2.2, fun few => ⟨⟨a, there, rfl, isGpu⟩, collected, few⟩⟩

/-- Whatever is asked for can be packed without need for more profiles than the limit makes
necessary. -/
theorem Plain.roomy (h : d.Plain most) (there : a ∈ d.agents) (isGpu : a.isGpu = true)
    (listing : d.facts.listing a.id = .ok known) (names : List String) :
    Packer.Roomy d.facts a.id d.hwLimit most (Packer.resolve known names).1 := by
  have resolved := Packer.resolve_known known names
  refine ⟨fun i mem => ?_, ?_, fun members within => ?_⟩
  · have counters := counters_of_resolved listing resolved
    obtain ⟨c, mem, there⟩ := counters i.id (List.mem_map_of_mem mem)
    obtain ⟨n, size, few⟩ := h.sized c mem
    exact ⟨n, facts_sizeOf?_iff.2 ⟨c, there, size⟩, few⟩
  · have buffers := h.buffers
    unfold Record.bytes Sampler.maxBufferBytes Word.maxSigned at buffers
    unfold Word.max
    omega
  · have counters := counters_of_resolved listing fun m mem => resolved m (within mem)
    have taken := h.verdict_taken_iff there isGpu counters
    rw [List.length_map] at taken
    exact taken

/-- There is a buffer for every profile. -/
theorem Plain.fits (h : d.Plain most) (there : a ∈ d.agents) (isGpu : a.isGpu = true)
    (listing : d.facts.listing a.id = .ok known) {p : Profile} {members : List Packer.Item}
    (made : p.Made d.facts a.id known members) : ¬Sampler.TooLarge p := by
  have counters := counters_of_resolved listing made.resolved
  have few := (h.verdict_taken_iff there isGpu counters).1 made.taken
  have size : p.expectedSize ≤ (members.map fun m => m.id).length * most := by
    rw [made.sized.size_eq]
    refine Facts.totalSize_le fun id mem n counted => ?_
    obtain ⟨c, inside, there⟩ := counters id mem
    obtain ⟨c', there', size⟩ := facts_sizeOf?_iff.1 counted
    obtain rfl := Option.some.inj (there.symm.trans there')
    obtain ⟨n', size', least⟩ := h.sized c inside
    rw [size] at size'
    rw [Option.some.inj size']
    exact least
  have within : p.expectedSize ≤ (d.hwLimit + 1) * most :=
    Nat.le_trans size (Nat.mul_le_mul_right most (Nat.le_succ_of_le few))
  exact Nat.not_lt.2 (Nat.le_trans (Nat.mul_le_mul_left Record.bytes within) h.buffers)

end Device

end CounterSampling
