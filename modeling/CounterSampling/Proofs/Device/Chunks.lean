import CounterSampling.Proofs.Device.Verdicts
import CounterSampling.Proofs.Packing.Greedy
import CounterSampling.Proofs.Possession.Stock
import CounterSampling.Proofs.Sampling.Totals

/-!
# What a simulated device packs, and at what cost

A simulated device refuses a counter for itself or refuses too many of them, and for no other
reason. So the counters that it can collect are packed one after the other into full profiles, and
all others are left over. Each counter that is packed costs one configuration, of which all but
those of the profiles are destroyed again. Main statement: `pack_chunks`.
-/

namespace CounterSampling

variable {d : Device} {p : Packer} {known : NameMap CounterId}

namespace Device

/-- What a state says about configurations: which are live, which number is next, and how many were
created and destroyed. -/
def State.configBooks (s : State) : Table ConfigId (List CounterId) × Nat × Nat × Nat :=
  (s.configs, s.nextConfig, s.configsCreated, s.configsDestroyed)

/-- Inquiries do not touch the configurations. -/
theorem configBooks_inquiry (d : Device) (c : Call) (s : State) (inquiry : c.IsInquiry) :
    (d.answer c s).2.configBooks = s.configBooks := by
  cases c with
  | supportedCounters agent => rfl
  | counterName id => rfl
  | counterDimensions id => rfl
  | dimensionPosition r id => rfl
  | _ => exact inquiry.elim

theorem configBooks_run {α : Type} {Q : α → Prop} {q : Procedure α}
    (h : q.Ensures Call.IsInquiry Q) (d : Device) (s : State) :
    (q.run d.backend s).2.configBooks = s.configBooks :=
  h.run_eq d.backend (f := State.configBooks) d.configBooks_inquiry s

/-- From one state to another, so many configurations were created for a profile, and all but the
one it has were destroyed again. -/
structure Costs (s : State) (n : Nat) (config : Option ConfigId) (s' : State) : Prop where
  created : s'.configsCreated = s.configsCreated + n
  destroyed : s'.configsDestroyed + config.toList.length = s.configsDestroyed + n
  /-- The configuration is live and was given out. -/
  live : ∀ held, config = some held →
    s'.configs.contains held = true ∧ held.val < s'.nextConfig

variable {s₀ s s' : State} {config : Option ConfigId} {n : Nat}

theorem Costs.refl (s : State) : Costs s 0 none s :=
  ⟨rfl, rfl, nofun⟩

/-- A state with the same books cost the same. -/
theorem Costs.same (h : Costs s₀ n config s) (books : s'.configBooks = s.configBooks) :
    Costs s₀ n config s' := by
  simp only [State.configBooks, Prod.mk.injEq] at books
  obtain ⟨configs, next, made, destroyed⟩ := books
  refine ⟨made.trans h.created, ?_, fun held same => ?_⟩
  · rw [destroyed]
    exact h.destroyed
  · rw [configs, next]
    exact h.live held same

/-- The state after the configuration of a profile was destroyed, if it has one. -/
def destroyHeld : Option ConfigId → State → State
  | some config, s => destroyConfig config s
  | none, s => s

/-- The state after a configuration of these counters was created. -/
def State.configured (s : State) (ids : List CounterId) : State :=
  { s with
    nextConfig := s.nextConfig + 1
    configsCreated := s.configsCreated + 1
    configs := s.configs.insert ⟨s.nextConfig⟩ ids }

theorem State.contains_configured (s : State) (ids : List CounterId) (config : ConfigId) :
    (s.configured ids).configs.contains config = true ↔
      ⟨s.nextConfig⟩ = config ∨ s.configs.contains config = true := by
  change (Table.find? (s.configs.insert ⟨s.nextConfig⟩ ids) config).isSome = true ↔ _
  rw [Table.find?_insert]
  split
  next same => exact ⟨fun _ => .inl same, fun _ => rfl⟩
  next other => exact ⟨.inr, fun either => either.resolve_left other⟩

/-- Replacing the configuration of a profile costs one more. -/
theorem Costs.replace (h : Costs s₀ n config s) (ids : List CounterId) :
    Costs s₀ (n + 1) (some ⟨s.nextConfig⟩) (destroyHeld config (s.configured ids)) := by
  have new : (s.configured ids).configs.contains ⟨s.nextConfig⟩ = true :=
    (s.contains_configured ids _).2 (.inl rfl)
  have created : (s.configured ids).configsCreated = s₀.configsCreated + (n + 1) :=
    congrArg (· + 1) h.created
  have destroyed := h.destroyed
  cases config with
  | none =>
    refine ⟨created, congrArg (· + 1) destroyed, fun held same => ?_⟩
    obtain rfl := Option.some.inj same
    exact ⟨new, Nat.lt_succ_self _⟩
  | some old =>
    obtain ⟨there, given⟩ := h.live old rfl
    have other : old ≠ ⟨s.nextConfig⟩ := by
      rintro rfl
      exact Nat.lt_irrefl _ given
    rw [destroyHeld, destroyConfig, if_pos ((s.contains_configured ids _).2 (.inr there))]
    refine ⟨created, congrArg (· + 1) destroyed, fun held same => ?_⟩
    obtain rfl := Option.some.inj same
    refine ⟨?_, Nat.lt_succ_self _⟩
    rw [Table.contains, Table.find?_erase, if_neg other]
    exact new

/-- A set of counters that is refused does not touch the configurations. -/
theorem configBooks_refused {agent : AgentId} {ids : List CounterId}
    (refusal : ∀ config, (d.configure agent ids s).1 ≠ .configured config) :
    (d.configure agent ids s).2.configBooks = s.configBooks := by
  rcases d.configure_cases agent ids s with ⟨outcome, same, -⟩ | created
  · rw [same]
  · exact absurd (congrArg Prod.fst created) (refusal _)

/-- A set of counters that is taken replaces the configuration of a profile. -/
theorem Costs.taken (h : Costs s₀ n config s) {agent : AgentId} {ids : List CounterId}
    {new : ConfigId} (taken : (d.configure agent ids s).1 = .configured new) :
    Costs s₀ (n + 1) (some new) (destroyHeld config (d.configure agent ids s).2) := by
  rcases d.configure_cases agent ids s with ⟨outcome, same, refused⟩ | created
  · rw [same] at taken
    exact absurd taken (refused new)
  · rw [created] at taken ⊢
    obtain rfl := ConfigureOutcome.configured.inj taken
    exact h.replace ids

end Device

namespace Packer

open Device (Costs)

/-! ## What packing costs -/

theorem run_releasePrevious (d : Device) (k : Candidate) (s : Device.State) :
    ((releasePrevious k).run d.backend s).2 = Device.destroyHeld k.config s := by
  unfold releasePrevious
  cases k.config <;> rfl

/-- Considering an item costs a configuration if it joins the profile, and nothing otherwise. -/
theorem Considered.costs {r r' : Round} {i : Item} {c c' : Catalog} {s₀ s s' : Device.State}
    {events : List Event} (h : Costs s₀ r.candidate.members.length r.candidate.config s)
    (step : Considered d.backend p r i c s r' c' s' events) :
    Costs s₀ r'.candidate.members.length r'.candidate.config s' := by
  have asked := Device.configBooks_run (sizeOf?_inquires i.id c) d s
  cases step with
  | full cap => exact h
  | unsized room size =>
    rw [size] at asked
    exact h.same asked
  | overflow room size sum =>
    rw [size] at asked
    exact h.same asked
  | refused room size sum refusal =>
    rw [size] at asked
    exact (h.same asked).same (Device.configBooks_refused refusal)
  | joined room size sum taken =>
    rw [size] at asked
    have length : (r.candidate.members ++ [i]).length = r.candidate.members.length + 1 :=
      List.length_append
    rw [run_releasePrevious]
    change Costs s₀ (r.candidate.members ++ [i]).length _ _
    rw [length]
    exact (h.same asked).taken taken

theorem RoundRun.costs {items : List Item} {r : Round} {c c' : Catalog} {s s' : Device.State}
    {events : List Event} (run : RoundRun d.backend p items c s r c' s' events) :
    Costs s r.candidate.members.length r.candidate.config s' :=
  run.induct (I := fun _ r _ s' _ => Costs s r.candidate.members.length r.candidate.config s')
    (.refl s) fun _ h step => step.costs h

/-- The rounds cost a configuration for each counter that is packed. -/
theorem rounds_cost (d : Device) (p : Packer) (fuel : Nat) {items : List Item}
    (enough : items.length ≤ fuel) (c : Catalog) (s : Device.State) :
    let y := ((p.rounds fuel items).run c).run d.backend s
    let packed := (y.1.1.1.flatMap fun q => q.counters).length
    y.2.configsCreated = s.configsCreated + packed ∧
      y.2.configsDestroyed + y.1.1.1.length = s.configsDestroyed + packed := by
  refine rounds_induction (b := d.backend) (p := p)
    (I := fun _ _ s _ profiles _ _ s' =>
      s'.configsCreated = s.configsCreated + (profiles.flatMap fun q => q.counters).length ∧
        s'.configsDestroyed + profiles.length =
          s.configsDestroyed + (profiles.flatMap fun q => q.counters).length)
    ?_ ?_ fuel items enough c s
  · intro items c s r c' s' events run none
    have costs := run.costs
    rw [none, run.dealt.configured.2 none] at costs
    exact ⟨costs.created, costs.destroyed⟩
  · intro items c s r c' s' events config later profiles unpackable c'' s'' run placed ih
    have costs := run.costs
    have created := costs.created
    have destroyed := costs.destroyed
    have length : (r.candidate.profile config).counters.length = r.candidate.members.length :=
      List.length_map _
    rw [placed] at destroyed
    simp only [Option.toList_some, List.length_singleton] at destroyed
    rw [List.flatMap_cons, List.length_append, length, List.length_cons]
    omega

/-- Packing costs a configuration for each counter that is packed, and all but those of the profiles
are destroyed again. -/
theorem pack_cost (d : Device) (p : Packer) (request : List String) (c : Catalog)
    (s : Device.State) {set : ProfileSet} {c' : Catalog} {s' : Device.State}
    (packed : ((p.pack request).run.run c).run d.backend s = ((.ok set, c'), s')) :
    s'.configsCreated = s.configsCreated + set.counterNames.length ∧
      s'.configsDestroyed + set.profiles.length =
        s.configsDestroyed + set.counterNames.length := by
  have asked := Device.configBooks_run (Catalog.list_inquires c) d s
  rcases listed : (Catalog.list.run.run c).run d.backend s with ⟨⟨r, c₁⟩, s₁⟩
  rw [listed] at asked
  simp only [Device.State.configBooks, Prod.mk.injEq] at asked
  obtain ⟨-, -, created, destroyed⟩ := asked
  cases r with
  | error e =>
    rw [run_pack_unlisted listed] at packed
    cases packed
  | ok known =>
    rw [run_pack_listed listed] at packed
    have cost := rounds_cost d p (resolve known (distinct request)).1.length (Nat.le_refl _) c₁ s₁
    rw [created, destroyed] at cost
    cases packed
    exact cost

end Packer

/-! ## What is packed -/

namespace Device

/-- The counter of this name can be packed: it can be collected and its records can be counted.
`known` are the counters of the agent. -/
def packs (d : Device) (known : NameMap CounterId) (name : String) : Bool :=
  !d.rejected.contains name && ((known.find? name).bind d.facts.sizeOf?).isSome

theorem packs_iff {agent : AgentId} (listing : d.facts.listing agent = .ok known) {name : String}
    {id : CounterId} (found : known.find? name = some id) :
    d.packs known name = true ↔ d.Collects id ∧ (d.facts.sizeOf? id).isSome = true := by
  obtain ⟨c, there, rfl⟩ := listing_named listing found
  unfold packs Collects
  rw [found, there]
  simp

/-- Counters fit a profile on a simulated device just if they are few enough, each can be packed,
and their records together can be counted. -/
theorem fits_iff {agent : AgentId} {cap : Nat} {ids : List CounterId}
    (gpu : ∃ a ∈ d.agents, a.id = agent ∧ a.isGpu = true) :
    d.facts.Fits agent cap ids ↔
      ids.length ≤ min d.hwLimit cap ∧
      (∀ id ∈ ids, d.Collects id ∧ (d.facts.sizeOf? id).isSome = true) ∧
      d.facts.totalSize ids ≤ Word.max := by
  constructor
  · intro h
    obtain ⟨-, collected, few⟩ := verdict_taken_iff.1 h.taken
    exact ⟨Nat.le_min.2 ⟨few, h.capped⟩, fun id mem => ⟨collected id mem, h.sized id mem⟩,
      h.withinWord⟩
  · rintro ⟨few, each, word⟩
    obtain ⟨few, capped⟩ := Nat.le_min.1 few
    exact ⟨capped, fun id mem => (each id mem).2, word,
      verdict_taken_iff.2 ⟨gpu, fun id mem => (each id mem).1, few⟩⟩

theorem known_of_packs {name : String} (packs : d.packs known name = true) :
    (known.find? name).isSome = true := by
  unfold Device.packs at packs
  cases found : known.find? name with
  | none => simp [found] at packs
  | some id => rfl

end Device

namespace Packer

variable {request : List String}

/-- A simulated device takes those that can be packed together up to its limit, as long as their
records fit a word. -/
theorem device_selects (gpu : ∃ a ∈ d.agents, a.id = p.agent ∧ a.isGpu = true)
    (listing : d.facts.listing p.agent = .ok known)
    (fits : d.facts.totalSize ((request.filter (d.packs known)).filterMap known.find?) ≤ Word.max) :
    Selects d.facts p (fun i => d.packs known i.name) (min d.hwLimit p.maxPerProfile)
      (resolve known request).1 := by
  intro members i there allGood
  have packs_iff : ∀ m ∈ members ++ [i], d.packs known m.name = true ↔
      d.Collects m.id ∧ (d.facts.sizeOf? m.id).isSome = true := fun m mem =>
    Device.packs_iff listing (resolve_known known request m (there.subset mem))
  have good : d.packs known i.name = true → ∀ m ∈ members ++ [i], d.packs known m.name = true := by
    intro isGood m mem
    rcases List.mem_append.1 mem with old | new
    · exact allGood m old
    · rw [List.mem_singleton.1 new]
      exact isGood
  have length : ((members ++ [i]).map fun m => m.id).length = members.length + 1 := by
    rw [List.length_map, List.length_append, List.length_singleton]
  rw [Device.fits_iff gpu, length, Nat.succ_le_iff, List.forall_mem_map]
  constructor
  · rintro ⟨few, each, -⟩
    have last : i ∈ members ++ [i] := List.mem_append_right _ List.mem_cons_self
    exact ⟨(packs_iff i last).2 (each i last), few⟩
  · rintro ⟨isGood, few⟩
    refine ⟨few, fun m mem => (packs_iff m mem).1 (good isGood m mem), ?_⟩
    exact Nat.le_trans (Facts.totalSize_sublist (ids_sublist_of_resolve there (good isGood))) fits

/-- The names of the resolved counters that can be packed are those of the requested ones. -/
theorem map_name_filter_packs (d : Device) (known : NameMap CounterId) (names : List String) :
    ((resolve known names).1.filter fun i => d.packs known i.name).map (fun i => i.name) =
      names.filter (d.packs known) := by
  refine (map_name_filter_resolve known (d.packs known) names).trans ?_
  refine List.filter_congr fun name _ => ?_
  cases packs : d.packs known name with
  | false => exact Bool.and_false _
  | true => rw [Device.known_of_packs packs, Bool.true_and]

/-- A simulated device packs what it can collect and count into consecutive full profiles, and
leaves the rest over. Each packed counter costs a configuration, of which all but those of the
profiles are destroyed again. If a profile may hold nothing, nothing is packed and nothing is
created. -/
theorem pack_chunks (gpu : ∃ a ∈ d.agents, a.id = p.agent ∧ a.isGpu = true)
    (listing : d.facts.listing p.agent = .ok known) {c : Catalog}
    (truthful : c.Truthful d.facts p.agent)
    (fits : d.facts.totalSize
      (((distinct request).filter (d.packs known)).filterMap known.find?) ≤ Word.max)
    (s : Device.State) :
    let result := ((p.pack request).run.run c).run d.backend s
    let most := min d.hwLimit p.maxPerProfile
    let good := (distinct request).filter (d.packs known)
    ∃ set, result.1.1 = .ok set ∧
      (most ≠ 0 →
        (set.profiles.map fun q => q.counters) = chunks most good ∧
        set.profiles.length = (good.length + most - 1) / most ∧
        (∀ q ∈ set.profiles.dropLast, q.counters.length = most) ∧
        set.unpackable = ((distinct request).filter fun name =>
          (known.find? name).isSome && !d.packs known name) ∧
        result.2.configsCreated = s.configsCreated + good.length ∧
        result.2.configsDestroyed + set.profiles.length = s.configsDestroyed + good.length) ∧
      (most = 0 →
        set.profiles = [] ∧
        set.unpackable = ((distinct request).filter fun name => (known.find? name).isSome) ∧
        result.2.configsCreated = s.configsCreated ∧
        result.2.configsDestroyed = s.configsDestroyed) := by
  intro result most good
  obtain ⟨c', s', listed, truthful'⟩ :=
    Catalog.run_list d.steady.consistent.informs truthful s
  rw [listing] at listed
  obtain ⟨set, c₁, s₁, packed, chunked⟩ : ∃ set c₁ s₁, result = ((.ok set, c₁), s₁) ∧
      Chunked (fun i => d.packs known i.name) most (resolve known (distinct request)).1 set.profiles
        set.unpackable :=
    ⟨_, _, _, run_pack_listed listed, rounds_chunks d.steady.consistent _
      (device_selects gpu listing fits) (Nat.le_refl _) truthful' s'⟩
  have names : ((resolve known (distinct request)).1.filter fun i => d.packs known i.name).map
      (fun i => i.name) = good := map_name_filter_packs d known (distinct request)
  have length : ((resolve known (distinct request)).1.filter fun i => d.packs known i.name).length =
      good.length := by
    rw [← names, List.length_map]
  have unpackable := chunked.unpackable_eq
  have cost := pack_cost d p request c s packed
  rw [packed]
  refine ⟨set, rfl, fun positive => ?_, fun zero => ?_⟩
  · rw [if_neg positive] at unpackable
    have others := map_name_filter_resolve known (fun name => !d.packs known name) (distinct request)
    have counters := chunked.counters_eq (Nat.pos_of_ne_zero positive)
    rw [ProfileSet.counterNames, counters, names] at cost
    refine ⟨?_, ?_, chunked.full, unpackable.trans others, cost.1, cost.2⟩
    · rw [chunked.profiles_eq, names]
    · rw [chunked.length_profiles, length]
  · rw [if_pos zero, (resolve_eq known _).1] at unpackable
    rw [zero] at chunked
    have none := chunked.profiles_eq_nil
    rw [ProfileSet.counterNames, none] at cost
    exact ⟨none, unpackable, cost.1, cost.2⟩

/-- Up to two counters fit a profile. Three of five are packed, and the configuration of the first
one alone is destroyed again. -/
theorem pack_chunks_two_at_most :
    let d := (Device.mixedGpu.hwLimit 2).device
    let p : Packer := ⟨⟨1⟩, 10⟩
    let request := ["CYCLES", "BUSY", "HUGE", "WAVES", "LEVEL"]
    let s := Device.mixedGpu.initial
    let result := ((p.pack request).run.run (.new ⟨1⟩)).run d.backend s
    (∃ a ∈ d.agents, a.id = p.agent ∧ a.isGpu = true) ∧
    (Catalog.new ⟨1⟩).Truthful d.facts p.agent ∧
    ∃ known, d.facts.listing p.agent = .ok known ∧
      d.facts.totalSize (((distinct request).filter (d.packs known)).filterMap known.find?) ≤
        Word.max ∧
      ∃ set, result.1.1 = .ok set ∧
        (set.profiles.map fun q => q.counters) = [["CYCLES", "WAVES"], ["LEVEL"]] ∧
        set.unpackable = ["BUSY", "HUGE"] ∧
        result.2.configsCreated = 3 ∧ result.2.configsDestroyed + set.profiles.length = 3 := by
  intro d p request s result
  have gpu : ∃ a ∈ d.agents, a.id = p.agent ∧ a.isGpu = true := ⟨_, List.mem_cons_self, rfl, rfl⟩
  have truthful := Catalog.truthful_new d.facts p.agent
  obtain ⟨known, listing, fits, good, pieces, left⟩ : ∃ known, d.facts.listing p.agent = .ok known ∧
      d.facts.totalSize (((distinct request).filter (d.packs known)).filterMap known.find?) ≤
        Word.max ∧
      ((distinct request).filter (d.packs known)).length = 3 ∧
      chunks 2 ((distinct request).filter (d.packs known)) = [["CYCLES", "WAVES"], ["LEVEL"]] ∧
      ((distinct request).filter fun name => (known.find? name).isSome && !d.packs known name) =
        ["BUSY", "HUGE"] :=
    ⟨_, rfl, by decide +kernel, by decide +kernel, by decide +kernel, by decide +kernel⟩
  have two : min d.hwLimit p.maxPerProfile = 2 := rfl
  have unused : s.configsCreated = 0 ∧ s.configsDestroyed = 0 := ⟨rfl, rfl⟩
  -- The device and its state are as good as any from here on: nothing is to be evaluated again.
  clear_value d s
  obtain ⟨set, packed, full, -⟩ := pack_chunks gpu listing truthful fits s
  rw [two] at full
  obtain ⟨profiles, -, -, unpackable, created, destroyed⟩ := full (by decide)
  rw [good, unused.1] at created
  rw [good, unused.2] at destroyed
  exact ⟨gpu, truthful, known, listing, fits, set, packed, profiles.trans pieces,
    unpackable.trans left, created, destroyed⟩

end Packer

end CounterSampling
