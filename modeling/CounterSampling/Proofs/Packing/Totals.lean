import CounterSampling.Proofs.Packing.Configurations

/-!
# How many records a set gives

The packer adds sizes only where the total stays within a word, so the size of each profile is the
exact number of records of its counters. The total of the set is then added up without such a guard:
it is exact as long as it fits a word, and the sum cannot be done as soon as it does not.
-/

namespace CounterSampling

namespace ProfileSet

/-- Adding up sizes gives the exact total if this fits a word, and otherwise ends at some
profile. -/
theorem addSizes_eq {total : Nat} (within : total ≤ Word.max) (profiles : List Profile) :
    addSizes total profiles =
      let all := total + (profiles.map fun q => q.expectedSize).sum
      if all ≤ Word.max then .ok all else .error .sum := by
  induction profiles generalizing total with
  | nil => exact (if_pos within).symm
  | cons q profiles ih =>
    rw [addSizes, List.map_cons, List.sum_cons, ← Nat.add_assoc]
    cases sum : Word.add? total q.expectedSize with
    | some n =>
      obtain ⟨rfl, within'⟩ := Word.add?_eq_some_iff.1 sum
      exact ih within'
    | none =>
      have beyond : ¬ total + q.expectedSize ≤ Word.max := fun fits =>
        absurd (Word.add?_eq_some_iff.2 ⟨rfl, fits⟩) (sum ▸ nofun)
      -- What comes later only adds to the total.
      exact (if_neg fun all => beyond (Nat.le_trans (Nat.le_add_right _ _) all)).symm

/-- What a set says about its records: `known` are the counters of the agent, `c` is a catalog and
`total` is how many records the counters of the set give together. -/
structure Totalled (known : NameMap CounterId) (c : Catalog) (set : ProfileSet) (total : Nat) :
    Prop where
  /-- The total is the sum of the record counts of all counters of the set, which the catalog tells
  without asking again. -/
  counted : ∃ ids counts, set.counterNames.map known.find? = ids.map some ∧
    List.Forall₂ (fun id n => (Catalog.recordCountOf id).run.run c = .done (.ok n, c)) ids counts ∧
    counts.sum = total
  /-- The sizes of the profiles, each of which fits a word, make up the total. -/
  sizes : (set.profiles.map fun q => q.expectedSize).sum = total
  each : ∀ q ∈ set.profiles, q.expectedSize ≤ Word.max
  /-- The set tells the total just if that fits a word. -/
  added : set.expectedRecords = if total ≤ Word.max then .ok total else .error .sum

end ProfileSet

namespace Packer

variable {σ : Type} {b : Backend σ} {p : Packer} {known : NameMap CounterId} {c : Catalog}
  {events : List Event}

/-- The record counts behind the sizes of packed profiles, one after another. -/
theorem Booked.counts {profiles : List Profile} (h : Booked p known c events profiles) :
    ∃ counts, (profiles.flatMap fun q => q.counters).map known.find? =
        (profiles.flatMap fun q => q.ids known).map some ∧
      List.Forall₂ (fun id n => c.countOf? id = some n)
        (profiles.flatMap fun q => q.ids known) counts ∧
      (profiles.map fun q => q.expectedSize).sum = counts.sum := by
  have resolved := h.resolved
  have counted := h.counted
  clear h
  induction profiles with
  | nil => exact ⟨[], rfl, .nil, rfl⟩
  | cons q profiles ih =>
    obtain ⟨names, resolved⟩ := List.forall_mem_cons.1 resolved
    obtain ⟨⟨first, each, size, -⟩, counted⟩ := List.forall_mem_cons.1 counted
    obtain ⟨counts, names', each', sizes⟩ := ih resolved counted
    refine ⟨first ++ counts, ?_, List.rel_append each each', ?_⟩
    · simp only [List.flatMap_cons, List.map_append, names, names']
    · rw [List.map_cons, List.sum_cons, size, sizes, List.sum_append_nat]

theorem Booked.totalled {set : ProfileSet} (h : Booked p known c events set.profiles) :
    set.Totalled known c (set.profiles.map fun q => q.expectedSize).sum := by
  obtain ⟨counts, names, each, sizes⟩ := h.counts
  refine ⟨⟨_, counts, names, each.imp fun _ _ => Catalog.run_recordCountOf_remembered, sizes.symm⟩,
    rfl, ?_, ?_⟩
  · intro q mem
    obtain ⟨-, -, -, within⟩ := h.counted q mem
    exact within
  · rw [ProfileSet.expectedRecords, ProfileSet.addSizes_eq (Nat.zero_le _), Nat.zero_add]

/-- On every backend, and for counters of any size, a packed set gives as many records as its
counters together, and tells this number just if it fits a word. -/
theorem pack_totalled {request : List String} {s : σ} {set : ProfileSet}
    (packed : (((p.pack request).run.run c).run b s).1.1 = .ok set) :
    ∃ known total, ((Catalog.list.run.run c).run b s).1.1 = .ok known ∧
      set.Totalled known (((p.pack request).run.run c).run b s).1.2 total := by
  rcases listed : (Catalog.list.run.run c).run b s with ⟨⟨_ | known, c'⟩, s'⟩
  · rw [run_pack_unlisted listed] at packed
    cases packed
  · have booked := (rounds_booked (b := b) (p := p) (resolve known (distinct request)).1.length
      (Nat.le_refl _) (resolve_known known _) c' s').1
    rw [run_pack_listed listed] at packed ⊢
    obtain rfl := Except.ok.inj packed
    exact ⟨known, _, rfl, booked.totalled⟩

/-- Two profiles of three records and of one. -/
theorem pack_totalled_two_at_most :
    let b := (Device.mixedGpu.hwLimit 2).device.backend
    let s := Device.mixedGpu.initial
    let pack := (pack ⟨⟨1⟩, 10⟩ ["CYCLES", "BUSY", "HUGE", "WAVES", "LEVEL"]).run.run (.new ⟨1⟩)
    let set : ProfileSet := ⟨[⟨⟨2⟩, ["CYCLES", "WAVES"], 3⟩, ⟨⟨3⟩, ["LEVEL"], 1⟩], [],
      ["BUSY", "HUGE"]⟩
    (pack.run b s).1.1 = .ok set ∧ set.expectedRecords = .ok 4 ∧
      ∃ known, set.Totalled known (pack.run b s).1.2 4 := by
  intro b s pack set
  have packed : (pack.run b s).1.1 = .ok set := by decide +kernel
  -- From here on the device and its state are as good as any: nothing is to be evaluated again.
  clear_value b s
  obtain ⟨known, total, -, totalled⟩ := pack_totalled packed
  obtain rfl : 4 = total := totalled.sizes
  exact ⟨packed, totalled.added, known, totalled⟩

/-- A GPU with two counters each of which gives half as many records as there are words. -/
def halves : Device.Builder :=
  let gpu : AgentInfo := ⟨⟨1⟩, .gpu, "gfx942", 10001, 128, 1⟩
  ((Device.Builder.agent {} gpu).counter "SQ_WAVES" [("XCC", 0x8000000000000000)] 1.0).counter
    "SQ_BUSY" [("XCC", 0x8000000000000000)] 1.0

/-- The second counter would make the first profile too large and gets one of its own. So the two
profiles always give more records than a word can count. -/
theorem pack_halves :
    let pack := (pack ⟨⟨1⟩, 10⟩ ["SQ_WAVES", "SQ_BUSY"]).run.run (.new ⟨1⟩)
    let set : ProfileSet := ⟨[⟨⟨1⟩, ["SQ_WAVES"], 2 ^ 63⟩, ⟨⟨2⟩, ["SQ_BUSY"], 2 ^ 63⟩], [], []⟩
    (pack.run halves.device.backend halves.initial).1.1 = .ok set ∧
      set.expectedRecords = .error .sum := by
  decide +kernel

end Packer

end CounterSampling
