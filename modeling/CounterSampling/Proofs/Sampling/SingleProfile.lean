import CounterSampling.Proofs.Packing.OneProfile
import CounterSampling.Proofs.Sampling.Outcomes

/-!
# A request as a set and as a single profile

A request that packs into one profile can be sampled in two ways: as a set, or as the single profile
of its names. Both ways bind the same counters and read into a buffer of the same size, so whatever
the device cuts off at its limit it cuts off in both, and the sums are the same. Main statement:
`single_profile_agrees`.
-/

namespace CounterSampling

variable {d : Device} {agent : AgentId} {known : NameMap CounterId} {stock : Stock}

/-- Resolved items are told by their names. -/
theorem Packer.items_eq_of_names {items items' : List Packer.Item}
    (resolved : ∀ i ∈ items, known.find? i.name = some i.id)
    (resolved' : ∀ i ∈ items', known.find? i.name = some i.id)
    (names : (items.map fun i => i.name) = items'.map fun i => i.name) : items = items' := by
  induction items generalizing items' with
  | nil => exact (List.map_eq_nil_iff.1 names.symm).symm
  | cons i is ih =>
    cases items' with
    | nil => cases names
    | cons i' is' =>
      obtain ⟨first, later⟩ := List.forall_mem_cons.1 resolved
      obtain ⟨first', later'⟩ := List.forall_mem_cons.1 resolved'
      obtain ⟨name, names⟩ := List.cons.inj names
      have same : i = i' := by
        obtain ⟨n, id⟩ := i
        obtain ⟨n', id'⟩ := i'
        obtain rfl : n = n' := name
        exact congrArg _ (Option.some.inj (first.symm.trans first'))
      rw [same, ih later later' names]

/-- If one profile covers a request and nothing is left over, it holds the counters that the agent
has of the requested ones, in the order of the request. -/
theorem ProfileSet.Covers.one {set : ProfileSet} {cap : Nat} {request : List String} {q : Profile}
    (covers : set.Covers known cap request) (one : set.profiles = [q]) (all : set.unpackable = [])
    (found : ∀ name ∈ q.counters, (known.find? name).isSome = true) :
    q.counters = (distinct request).filter fun name => (known.find? name).isSome := by
  have sublist : q.counters.Sublist (distinct request) :=
    covers.profile_sublist q (by rw [one]; exact List.mem_cons_self)
  have perm := covers.partition
  rw [covers.unsupported_eq, all, List.append_nil, ProfileSet.counterNames, one, List.flatMap_cons,
    List.flatMap_nil, List.append_nil] at perm
  have supported := perm.filter fun name => (known.find? name).isSome
  have none : ((distinct request).filter fun name => (known.find? name).isNone).filter
      (fun name => (known.find? name).isSome) = [] := by
    refine List.filter_eq_nil_iff.2 fun name mem => ?_
    have missing := (List.mem_filter.1 mem).2
    cases there : known.find? name <;> simp [there] at missing ⊢
  rw [List.filter_append, none, List.append_nil, List.filter_eq_self.2 found] at supported
  have kept := sublist.filter fun name => (known.find? name).isSome
  rw [List.filter_eq_self.2 found] at kept
  exact kept.eq_of_length supported.length_eq

/-- If one profile in stock covers a request and nothing is left over, it is made of all counters
that are requested. -/
theorem ProfileSet.InStock.one {set : ProfileSet} {request : List String} {q : Profile}
    (inStock : set.InStock d agent known stock request) (one : set.profiles = [q])
    (all : set.unpackable = []) :
    let items := (Packer.resolve known (CounterSampling.distinct request)).1
    q.Made d.facts agent known items ∧ (q.config, items.map fun m => m.id) ∈ stock := by
  obtain ⟨cap, covers⟩ := inStock.covers
  obtain ⟨members, made, held⟩ := inStock.profiles q (by rw [one]; exact List.mem_cons_self)
  have found : ∀ name ∈ q.counters, (known.find? name).isSome = true := by
    intro name mem
    rw [made.counters] at mem
    obtain ⟨m, member, rfl⟩ := List.mem_map.1 mem
    rw [made.resolved m member]
    rfl
  have names := covers.one one all found
  rw [← (Packer.resolve_eq known _).1, made.counters] at names
  have same := Packer.items_eq_of_names made.resolved (Packer.resolve_known known _) names
  dsimp only
  rw [← same]
  exact ⟨made, held⟩

namespace Sampler

open Device (Failures)

variable {e : Sampler} {s : Device.State} {n : Failures}

/-- A single profile that a sampler gives is found the next time. -/
theorem single_found (agent : AgentId) (counters : List String) (e : Sampler) :
    ((withCache fun cache => cache.getOrCreateSingle counters fun names =>
      (buildSingle agent names).run).run.run e).Ensures (fun _ => True) fun y =>
        ∀ x, y.1 = .ok x → y.2.cache.singles.find? counters = some x := by
  rw [run_withCache]
  have kept := e.cache.getOrMake_kept (e.cache.singles.find? counters)
    (buildSingle agent counters).run (ProfileCache.keepSingle counters)
    (fun c => (c.singles.find? counters).toList) (fun x found => Option.mem_toList.2 found)
    (fun _ x => Option.mem_toList.2 ((Table.find?_insert _ _ _ _).trans (if_pos rfl))) e.catalog
  refine kept.bind fun y found => ?_
  intro x same
  exact Option.mem_toList.1 (found x (mapError_eq_ok.1 same))

/-- A list can be had as a single profile if it was built before or can be built now. -/
theorem single_ok (sound : e.Sound d stock s) (listing : d.facts.listing e.agent = .ok known)
    {names : List String} {q : Profile}
    (made : q.Made d.facts e.agent known (Packer.resolve known names).1) :
    ∃ x, (((withCache fun cache => cache.getOrCreateSingle names fun names =>
      (buildSingle e.agent names).run).run.run e).run d.backend s).1.1 = .ok x := by
  rw [run_withCache]
  cases found : e.cache.singles.find? names with
  | some x =>
    simp only [ProfileCache.getOrCreateSingle, ProfileCache.getOrMake, found]
    exact ⟨x, rfl⟩
  | none =>
    simp only [ProfileCache.getOrCreateSingle, ProfileCache.getOrMake, found]
    obtain ⟨config, built, -⟩ := buildSingle_made d.steady listing made sound.truthful s
    rw [Procedure.run_bind, StateT.run_bind, Procedure.run_bind]
    generalize ((buildSingle e.agent names).run.run e.catalog).run d.backend s = y at built ⊢
    obtain ⟨⟨r, c'⟩, s'⟩ := y
    obtain rfl : r = _ := built
    exact ⟨_, rfl⟩

/-- What comes of sampling a profile when no failure is left. -/
def settledRecords (d : Device) (p : Profile) (ids : List CounterId) :
    Except Failure (List Record) :=
  if Record.bytes * p.expectedSize ≤ maxBufferBytes then .ok (recordsOf d p ids)
  else .error (.abort .capacity)

/-- Without a failure a profile gives what its configuration holds, if there is a buffer for it. -/
theorem runProfile_settled {context : ContextId} {bound : Option ConfigId}
    (h : s.Situated agent context stock bound false n) (unhurt : n.stage? = none) {p : Profile}
    {ids : List CounterId} (held : (p.config, ids) ∈ stock) :
    ∃ s' bound' active, (runProfile agent context p).run d.backend s =
        (settledRecords d p ids, s') ∧ s'.Situated agent context stock bound' active n := by
  by_cases fits : Record.bytes * p.expectedSize ≤ maxBufferBytes
  · obtain ⟨s', bound', ran, h'⟩ := runProfile_outcome (d := d) h held (Nat.not_lt.2 fits)
    rw [outcome_of_none unhurt] at ran
    rw [Failures.next_of_none unhurt] at h'
    rw [settledRecords, if_pos fits]
    exact ⟨s', bound', false, ran, h'⟩
  · simp only [runProfile, Procedure.call, Procedure.bind_ask, Procedure.bind_done,
      Procedure.run_ask]
    rcases h.bindConfig held with ⟨bind, s₁, bound₁, h₁⟩ | ⟨bind, -⟩
    case inr =>
      rw [Failures.stage?_bind bind] at unhurt
      cases unhurt
    rw [show d.backend.answer (.bindConfig context p.config) s = _ from bound₁]
    rcases h₁.startContext with ⟨start, s₂, started, h₂⟩ | ⟨start, -⟩
    case inr =>
      rw [Failures.stage?_start bind start] at unhurt
      cases unhurt
    refine ⟨s₂, some p.config, true, ?_, h₂⟩
    simp only [atStage, Procedure.run_ask]
    rw [show d.backend.answer (.startContext context) s₁ = _ from started]
    simp only [allocate, settledRecords, if_neg fits]
    rfl

/-- A profile is sampled and its records are summed. -/
theorem sampleProfiles_one (values : NameMap Float) (p : Profile) :
    sampleProfiles values [p] = sampleProfile p >>= addRecords values := by
  simp only [sampleProfiles, bind_pure]

/-- What comes of sampling one profile and summing its records when no failure is left. -/
theorem sampleAndSum_settled (ready : e.Ready d stock s n) (unhurt : n.stage? = none) {p : Profile}
    {ids : List CounterId} (held : (p.config, ids) ∈ stock) (values : NameMap Float) :
    (((sampleProfile p >>= addRecords values).run.run e).run d.backend s).1.1 =
      (settledRecords d p ids).map fun rs => addAll values (named d rs) := by
  obtain ⟨bound, situated⟩ := ready.situated
  obtain ⟨s', bound', active, ran, situated'⟩ := runProfile_settled situated unhurt held
  rw [Procedure.run_bindOk, run_sampleProfile, Procedure.run_bind, ran]
  dsimp only [Procedure.run_done]
  cases settledRecords d p ids with
  | error f => rfl
  | ok rs =>
    have learned := addRecords_learns values rs ready.sound.truthful
    exact (learned.result d.steady s').1

/-- A sampler whose single profile of a list is made of these counters. -/
theorem Ready.single (ready : e.Ready d stock s n)
    (listing : d.facts.listing e.agent = .ok known) {names : List String} {q : Profile}
    (made : q.Made d.facts e.agent known (Packer.resolve known names).1) :
    ∃ x e₁ stock₁ s₁, ((withCache fun cache => cache.getOrCreateSingle names fun names =>
        (buildSingle e.agent names).run).run.run e).run d.backend s = ((.ok x, e₁), s₁) ∧
      e₁.Ready d stock₁ s₁ n ∧ x.value.counters = q.counters ∧
      x.value.expectedSize = q.expectedSize ∧
      (x.value.config, (Packer.resolve known names).1.map fun m => m.id) ∈ stock₁ := by
  have sound := ready.sound
  obtain ⟨x, ok⟩ := single_ok sound listing made
  rcases looked : ((withCache fun cache => cache.getOrCreateSingle names fun names =>
    (buildSingle e.agent names).run).run.run e).run d.backend s with ⟨⟨r, e₁⟩, s₁⟩
  rw [looked] at ok
  obtain rfl : r = .ok x := ok
  have managed := single_managed e.agent names e stock rfl sound.truthful sound.nodup
  obtain ⟨stock₁, ready₁, agent, -⟩ := ready.looksUp (single_builds e.agent names) managed looked
  have found := (single_found e.agent names e).result d.backend s
  rw [looked] at found
  obtain ⟨known', listed, made', held⟩ := ready₁.sound.singles names x (found x rfl)
  have items : (Packer.resolve known' names).1 = (Packer.resolve known names).1 := by
    rcases listed with listing' | rfl
    · rw [agent, listing] at listing'
      rw [Except.ok.inj listing']
    · rfl
  rw [items] at made' held
  exact ⟨x, e₁, stock₁, s₁, rfl, ready₁, made'.counters.trans made.counters.symm,
    made'.sized.unique made.sized, held⟩

/-- A request that makes up one profile gives the sums of the records of its single profile, if no
failure is left. -/
theorem sample_eq_single {e' : Sampler} {stock' : Stock} {s' : Device.State}
    (ready : e.Ready d stock s n) (ready' : e'.Ready d stock' s' n) (same : e'.agent = e.agent)
    (unhurt : n.stage? = none) {request : List String} {set : Shared ProfileSet} {q : Profile}
    (packed : (((profileSet request).run.run e).run d.backend s).1.1 = .ok set)
    (one : set.value.profiles = [q]) (all : set.value.unpackable = []) :
    (((sample request).run.run e).run d.backend s).1.1.map (fun output => output.values) =
      (((sampleRecords (ProfileCache.setKey request) >>= addRecords .empty).run.run e').run
        d.backend s').1.1 := by
  rcases looked : ((profileSet request).run.run e).run d.backend s with ⟨⟨r, e₁⟩, s₁⟩
  rw [looked] at packed
  obtain rfl : r = .ok set := packed
  obtain ⟨stock₁, ready₁, agent, -, found⟩ := ready.packs looked
  obtain ⟨known, listing, inStock⟩ := ready₁.sound.sets _ set found
  obtain ⟨made, held⟩ := inStock.one one all
  rw [ProfileCache.distinct_setKey] at made held
  rw [agent, ← same] at listing made
  obtain ⟨x, e₁', stock₁', s₁', looked', ready₁', -, size, held'⟩ := ready'.single listing made
  have summed := sampleAndSum_settled ready₁ unhurt held .empty
  have summed' := sampleAndSum_settled ready₁' unhurt held' .empty
  have settled : settledRecords d x.value ((Packer.resolve known
      (ProfileCache.setKey request)).1.map fun m => m.id) =
      settledRecords d q ((Packer.resolve known (ProfileCache.setKey request)).1.map
        fun m => m.id) := by
    simp only [settledRecords, recordsOf, bufferOf, size]
  rw [settled, ← summed] at summed'
  have set_run : (((sample request).run.run e).run d.backend s).1.1.map
      (fun output => output.values) =
      (((sampleProfile q >>= addRecords .empty).run.run e₁).run d.backend s₁).1.1 := by
    rw [sample, Procedure.run_bindOk, looked]
    dsimp only
    rw [Procedure.run_bindOk, sampleProfileSet, one, sampleProfiles_one]
    generalize ((sampleProfile q >>= addRecords .empty).run.run e₁).run d.backend s₁ = y
    obtain ⟨⟨r, e₂⟩, s₂⟩ := y
    cases r <;> rfl
  have single_run : (((sampleRecords (ProfileCache.setKey request) >>= addRecords .empty).run.run
      e').run d.backend s').1.1 =
      (((sampleProfile x.value >>= addRecords .empty).run.run e₁').run d.backend s₁').1.1 := by
    rw [sampleRecords, bind_assoc, Procedure.run_bind_getOk, bind_assoc, Procedure.run_bindOk,
      looked']
  rw [set_run, single_run, summed']

/-- Two ways to sample a request that packs into one profile with nothing left over. On a steady
device the single profile of the key can be built, with the same counters in the same order, the
same size and the same question to the device. On a simulated device without a failure left, the
sums of the records of the single profile are the values of the request, whatever the limit of a
read. -/
theorem single_profile_agrees :
    (∀ {σ : Type} (b : Backend σ) (F : Facts) (p : Packer) (request : List String)
      (c c' : Catalog) (s s' : σ) (set : ProfileSet) (q : Profile),
      b.Steady F → c.Truthful F p.agent → c'.Truthful F p.agent →
      (((p.pack (ProfileCache.setKey request)).run.run c).run b s).1.1 = .ok set →
      set.profiles = [q] → set.unpackable = [] →
      let pack := (p.pack (ProfileCache.setKey request)).run.run c
      let build := (buildSingle p.agent (ProfileCache.setKey request)).run.run c'
      ∃ q' ids, (build.run b s').1.1 = .ok q' ∧
        q'.counters = q.counters ∧ q'.expectedSize = q.expectedSize ∧
        (pack.attempts b s).getLast? = some (p.agent, ids, .configured q.config) ∧
        build.attempts b s' = [(p.agent, ids, .configured q'.config)]) ∧
    (∀ (d : Device) (e e' : Sampler) (stock stock' : Stock) (s s' : Device.State)
      (request : List String) (set : Shared ProfileSet) (q : Profile),
      e.InUse d stock s → e'.InUse d stock' s' → e'.agent = e.agent →
      s.budgets.failures e.agent = ⟨0, 0, 0, 0⟩ → s'.budgets.failures e'.agent = ⟨0, 0, 0, 0⟩ →
      s.activity e.context = some false → s'.activity e'.context = some false →
      (((profileSet request).run.run e).run d.backend s).1.1 = .ok set →
      set.value.profiles = [q] → set.value.unpackable = [] →
      (((sample request).run.run e).run d.backend s).1.1.map (fun output => output.values) =
        (((sampleRecords (ProfileCache.setKey request) >>= addRecords .empty).run.run e').run
          d.backend s').1.1 ∧
      (¬TooLarge q → ∃ output, (((sample request).run.run e).run d.backend s).1.1 = .ok output)) := by
  constructor
  · intro σ b F p request c c' s s' set q steady truthful truthful' packed one all
    exact p.buildSingle_of_pack steady request truthful truthful' s s' packed one all
  · intro d e e' stock stock' s s' request set q use use' same unhurt unhurt' idle idle' packed one
      all
    have ready : e.Ready d stock s ⟨0, 0, 0, 0⟩ := ⟨use.sound, idle, unhurt⟩
    have ready' : e'.Ready d stock' s' ⟨0, 0, 0, 0⟩ := ⟨use'.sound, idle', unhurt'⟩
    refine ⟨sample_eq_single ready ready' same rfl packed one all, fun fits => ?_⟩
    rcases looked : ((profileSet request).run.run e).run d.backend s with ⟨⟨r, e₁⟩, s₁⟩
    rw [looked] at packed
    obtain rfl : r = .ok set := packed
    have fit : ∀ p ∈ set.value.profiles, ¬TooLarge p := by
      rw [one]
      exact List.forall_mem_singleton.2 fits
    obtain ⟨_, _, _, _, _, _, _, run, -⟩ := sample_outcome ready looked fit (.inr rfl)
    exact ⟨_, congrArg (fun y => y.1.1) run⟩

/-- A GPU that returns at most two records per read. -/
def twoAtMost : Device.Builder :=
  let gpu : AgentInfo := ⟨⟨1⟩, .gpu, "gfx942", 10001, 128, 1⟩
  (((Device.Builder.agent {} gpu).counter "WAVES" [("XCC", 2)] 3.0).counter "CYCLES" []
    1.0).maxRecords 2

/-- The read is cut off after the first record of the second counter, in both ways alike. -/
theorem single_profile_agrees_cut_off :
    match (Sampler.new ⟨1⟩ 0 8).run twoAtMost.device.backend twoAtMost.initial with
    | (.error _, _) => False
    | (.ok e, s) =>
      let d := twoAtMost.device
      let request := ["CYCLES", "WAVES", "WAVES"]
      d.backend.Steady d.facts ∧ e.catalog.Truthful d.facts e.agent ∧ e.InUse d [] s ∧
      s.budgets.failures e.agent = ⟨0, 0, 0, 0⟩ ∧ s.activity e.context = some false ∧
      ∃ q q', (((Packer.pack ⟨e.agent, e.maxPerProfile⟩ (ProfileCache.setKey request)).run.run
          e.catalog).run d.backend s).1.1 = .ok ⟨[q], [], []⟩ ∧
        (((profileSet request).run.run e).run d.backend s).1.1 = .ok ⟨0, 1, ⟨[q], [], []⟩⟩ ∧
        (((buildSingle e.agent (ProfileCache.setKey request)).run.run e.catalog).run d.backend
          s).1.1 = .ok q' ∧ q'.counters = q.counters ∧ q'.expectedSize = q.expectedSize ∧
        ∃ values, (((sampleRecords (ProfileCache.setKey request) >>= addRecords .empty).run.run
            e).run d.backend s).1.1 = .ok values ∧
          values.find? "CYCLES" = some (0.0 + 1.0) ∧ values.find? "WAVES" = some (0.0 + 3.0) := by
  have use : Sampler.InUse twoAtMost.device ⟨⟨1⟩, ⟨1⟩, .new ⟨1⟩, .new 0, 8⟩ []
      (twoAtMost.device.answer (.createContext ⟨1⟩) twoAtMost.initial).2 :=
    .created ⟨1⟩ 0 8 (Device.reached_initial twoAtMost) rfl
  have key : ProfileCache.setKey ["CYCLES", "WAVES", "WAVES"] = ["CYCLES", "WAVES"] := by
    unfold ProfileCache.setKey
    rw [List.mergeSort_of_pairwise (by decide)]
    decide
  have truthful := Catalog.truthful_new twoAtMost.device.facts ⟨1⟩
  have packed : (((Packer.pack ⟨⟨1⟩, 8⟩ (ProfileCache.setKey ["CYCLES", "WAVES", "WAVES"])).run.run
      (.new ⟨1⟩)).run twoAtMost.device.backend
        (twoAtMost.device.answer (.createContext ⟨1⟩) twoAtMost.initial).2).1.1 =
      .ok ⟨[⟨⟨2⟩, ["CYCLES", "WAVES"], 3⟩], [], []⟩ := by
    rw [key]
    rfl
  have looked : (((profileSet ["CYCLES", "WAVES", "WAVES"]).run.run
      ⟨⟨1⟩, ⟨1⟩, .new ⟨1⟩, .new 0, 8⟩).run twoAtMost.device.backend
        (twoAtMost.device.answer (.createContext ⟨1⟩) twoAtMost.initial).2).1.1 =
      .ok ⟨0, 1, ⟨[⟨⟨2⟩, ["CYCLES", "WAVES"], 3⟩], [], []⟩⟩ := by
    rw [run_profileSet, run_withCache]
    simp only [ProfileCache.getOrCreateSet, key]
    rfl
  have values : (((sampleRecords (ProfileCache.setKey ["CYCLES", "WAVES", "WAVES"]) >>=
      addRecords .empty).run.run ⟨⟨1⟩, ⟨1⟩, .new ⟨1⟩, .new 0, 8⟩).run twoAtMost.device.backend
        (twoAtMost.device.answer (.createContext ⟨1⟩) twoAtMost.initial).2).1.1.map
          (fun values => (values.find? "CYCLES", values.find? "WAVES")) =
      .ok (some (0.0 + 1.0), some (0.0 + 3.0)) := by
    rw [key]
    rfl
  obtain ⟨q', -, built, counters, size, -⟩ :=
    single_profile_agrees.1 _ _ ⟨⟨1⟩, 8⟩ _ _ _ _ (twoAtMost.device.answer (.createContext ⟨1⟩)
      twoAtMost.initial).2 _ _ twoAtMost.device.steady truthful truthful packed rfl rfl
  obtain ⟨same, ok⟩ := single_profile_agrees.2 _ _ _ _ _ _ _ _ _ _ use use rfl rfl rfl rfl rfl
    looked rfl rfl
  obtain ⟨output, sampled⟩ := ok (Nat.not_lt.2 (by decide))
  rw [sampled] at same
  rw [← same] at values
  have found := Except.ok.inj values
  exact ⟨twoAtMost.device.steady, truthful, use, rfl, rfl, _, q', packed, looked, built, counters,
    size, output.values, same.symm, congrArg Prod.fst found, congrArg Prod.snd found⟩

end Sampler

end CounterSampling
