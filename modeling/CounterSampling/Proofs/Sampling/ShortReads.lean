import CounterSampling.Proofs.Sampling.Totals
import Mathlib.Data.List.Nodup
import Mathlib.Data.List.Pairwise

/-!
# Where the requested names are after a short read

A request that succeeds puts every name in one place: among the values, the unsupported or the
unpackable names. There is one exception. A device may return fewer records than a profile has, and
the counters of the profile whose records lie wholly beyond that limit have no value and are not
reported. Main statement: `sample_mentions`.
-/

namespace CounterSampling

/-- How many places of an output mention a name. -/
def SampleOutput.mentions (o : SampleOutput) (name : String) : Nat :=
  o.values.names.count name + o.unsupported.count name + o.unpackable.count name

variable {d : Device} {agent : AgentId} {known : NameMap CounterId}

/-- A read of the profile ends before the records of this name begin: `known` are the counters of
the agent. -/
def Profile.CutsOff (d : Device) (known : NameMap CounterId) (p : Profile) (name : String) : Prop :=
  ∃ before after limit, p.counters = before ++ name :: after ∧ d.maxRecords = some limit ∧
    limit ≤ d.facts.totalSize (before.filterMap known.find?)

/-- The name is cut off in one of the profiles. -/
def ProfileSet.CutsOff (d : Device) (known : NameMap CounterId) (set : ProfileSet)
    (name : String) : Prop :=
  ∃ p ∈ set.profiles, p.CutsOff d known name

namespace Sampler

/-! ## Which names have a record -/

/-- Of records listed by name, some of a name are among the first if the list of those before is
shorter. -/
theorem exists_mem_take_iff {records : String → List (String × Record)}
    (own : ∀ name, ∀ x ∈ records name, x.1 = name) {before after : List String} {name : String}
    (fresh : name ∉ before) (some : records name ≠ []) (limit : Nat) :
    (∃ x ∈ ((before ++ name :: after).flatMap records).take limit, x.1 = name) ↔
      (before.flatMap records).length < limit := by
  rw [List.flatMap_append, List.flatMap_cons, List.take_append]
  constructor
  · rintro ⟨x, mem, rfl⟩
    by_contra short
    have none : limit - (before.flatMap records).length = 0 := by omega
    rw [none, List.take_zero, List.append_nil] at mem
    obtain ⟨name, earlier, there⟩ := List.mem_flatMap.1 (List.mem_of_mem_take mem)
    rw [own name x there] at fresh
    exact fresh earlier
  · intro room
    obtain ⟨n, left⟩ := Nat.exists_eq_add_of_lt room
    obtain ⟨x, rest, here⟩ := List.exists_cons_of_ne_nil some
    refine ⟨x, List.mem_append_right _ ?_, own name x (by rw [here]; exact List.mem_cons_self)⟩
    rw [show limit - (before.flatMap records).length = n + 1 by omega, here]
    exact List.mem_cons_self

/-- A name has a value just if it has a record. -/
theorem mem_names_addAll (named : List (String × Record)) (name : String) :
    name ∈ (addAll .empty named).names ↔ ∃ x ∈ named, x.1 = name := by
  have some_iff : (∃ x ∈ named, x.1 = name) ↔
      named.filter (fun x => decide (x.1 = name)) ≠ [] := by
    simp [List.filter_eq_nil_iff]
  rw [some_iff, NameMap.mem_names_iff, find?_addAll]
  rcases List.eq_nil_or_concat (named.filter fun x => decide (x.1 = name)) with none | ⟨xs, x, some⟩
  · rw [none]
    exact iff_of_false Bool.false_ne_true (not_not_intro rfl)
  · rw [some, List.concat_eq_append, List.foldl_append]
    exact ⟨fun _ => List.append_ne_nil_of_right_ne_nil _ (List.cons_ne_nil _ _), fun _ => rfl⟩

/-- A name that stands for a counter has records. -/
theorem recordsNamed_ne_nil {name : String} {id : CounterId} {n : Nat}
    (found : known.find? name = some id) (counted : d.facts.sizeOf? id = some n) :
    recordsNamed d known name ≠ [] := by
  obtain ⟨c, there, count⟩ := Device.facts_sizeOf?_iff.1 counted
  have positive := (recordCount?_bounds count).1
  have length := Device.length_recordsFor counted
  intro none
  rw [recordsNamed, found, List.map_eq_nil_iff] at none
  rw [none] at length
  exact Nat.lt_irrefl _ (length ▸ positive)

theorem mem_of_cutsOff {p : Profile} {name : String} (cut : p.CutsOff d known name) :
    name ∈ p.counters := by
  obtain ⟨before, after, _, split, -⟩ := cut
  rw [split]
  exact List.mem_append_right _ List.mem_cons_self

/-- With no name twice it is settled by the names before whether a name is cut off. -/
theorem cutsOff_iff {p : Profile} {before after : List String} {name : String}
    (split : p.counters = before ++ name :: after) (once : p.counters.Nodup) :
    p.CutsOff d known name ↔
      ∃ limit, d.maxRecords = some limit ∧
        limit ≤ d.facts.totalSize (before.filterMap known.find?) := by
  constructor
  · rintro ⟨before', after', limit, split', limited, short⟩
    rw [split, List.nodup_append, List.nodup_cons] at once
    have absent : name ∉ before := fun mem => once.2.2 name mem name List.mem_cons_self rfl
    obtain ⟨rfl, -, rfl⟩ :=
      (List.append_cons_inj_of_notMem absent once.2.1.1).1 (split.symm.trans split')
    exact ⟨limit, limited, short⟩
  · rintro ⟨limit, limited, short⟩
    exact ⟨before, after, limit, split, limited, short⟩

/-- The read of a profile has a record of each of its names that is not cut off. -/
theorem exists_named_iff (listing : d.facts.listing agent = .ok known) {p : Profile}
    {members : List Packer.Item} (made : p.Made d.facts agent known members)
    (once : p.counters.Nodup) (name : String) :
    (∃ x ∈ named d (recordsOf d p (p.ids known)), x.1 = name) ↔
      name ∈ p.counters ∧ ¬p.CutsOff d known name := by
  rw [named_recordsOf listing made]
  by_cases mem : name ∈ p.counters
  case neg =>
    refine ⟨?_, fun inside => absurd inside.1 mem⟩
    rintro ⟨x, there, same⟩
    obtain ⟨name', inside, here⟩ := List.mem_flatMap.1 (List.mem_of_mem_take there)
    rw [recordsNamed_name x here] at same
    exact absurd (same ▸ inside) mem
  obtain ⟨id, n, found, counted⟩ := sized_of_made made name mem
  have nonempty := recordsNamed_ne_nil found counted
  have positive := List.length_pos_iff.2 nonempty
  have length := length_records_of_made made
  have sized := sized_of_made made
  obtain ⟨before, after, split⟩ := List.append_of_mem mem
  rw [cutsOff_iff split once]
  rw [split] at once length sized
  have fresh : name ∉ before :=
    fun earlier => (List.nodup_append.1 once).2.2 name earlier name List.mem_cons_self rfl
  have counted' : ∀ name ∈ before, ∃ id n, known.find? name = some id ∧
      d.facts.sizeOf? id = some n :=
    fun name there => sized name (List.mem_append_left _ there)
  have size := length_flatMap_recordsNamed counted'
  rw [List.flatMap_append, List.flatMap_cons, List.length_append, List.length_append] at length
  rw [split] at mem ⊢
  rw [exists_mem_take_iff (fun _ => recordsNamed_name) fresh nonempty, size]
  have buffer : (bufferOf p).length = p.expectedSize := List.length_replicate
  refine Iff.trans ?_ (and_iff_right mem).symm
  unfold Device.readLimit
  cases limited : d.maxRecords with
  | none =>
    refine ⟨fun _ => ?_, fun _ => ?_⟩
    · rintro ⟨limit, absurd, -⟩
      cases absurd
    · dsimp only
      omega
  | some most =>
    dsimp only
    constructor
    · rintro room ⟨limit, same, short⟩
      obtain rfl := Option.some.inj same
      omega
    · intro long
      have room : d.facts.totalSize (before.filterMap known.find?) < most :=
        Nat.lt_of_not_le fun short => long ⟨most, rfl, short⟩
      omega

/-! ## Requests that succeed -/

/-- A profile gives records only if there is a buffer for them. -/
theorem runProfile_fits (agent : AgentId) (context : ContextId) (p : Profile) :
    (runProfile agent context p).Ensures (fun _ => True) fun r =>
      ∀ rs, r = .ok rs → ¬TooLarge p := by
  have call (c : Call) : (Procedure.call c).Ensures (fun _ => True) fun _ => True :=
    Procedure.ensures_any _
  refine (call (.bindConfig context p.config)).bind fun bound _ => ?_
  cases bound with
  | error e =>
    intro rs absurd
    cases absurd
  | ok _ =>
    refine (call (.startContext context)).bind fun started _ => ?_
    cases started with
    | error e =>
      intro rs absurd
      cases absurd
    | ok _ =>
      by_cases fits : Record.bytes * p.expectedSize ≤ maxBufferBytes
      · exact (Procedure.ensures_any _).mono (fun _ => id) fun _ _ _ _ => Nat.not_lt.2 fits
      · rw [allocate, if_neg fits]
        intro rs absurd
        cases absurd

theorem sampleProfiles_fit (values : NameMap Float) (ps : List Profile) (e : Sampler) :
    ((sampleProfiles values ps).run.run e).Ensures (fun _ => True) fun y =>
      ∀ values', y.1 = .ok values' → ∀ p ∈ ps, ¬TooLarge p := by
  induction ps generalizing values e with
  | nil =>
    intro values' _ p absurd
    cases absurd
  | cons p ps ih =>
    unfold sampleProfiles
    apply ensures_bindOk
    rw [run_sampleProfile]
    refine (runProfile_fits e.agent e.context p).bind fun r fits => ?_
    cases r with
    | error f =>
      intro values' absurd
      cases absurd
    | ok records =>
      apply ensures_bindOk
      refine (addRecords_ensures values records e).mono (fun _ _ => trivial) fun y => ?_
      rintro ⟨-, names, -, added⟩
      rw [added]
      refine (ih _ _).mono (fun _ => id) fun z later values' ok => ?_
      exact List.forall_mem_cons.2 ⟨fits records rfl, later values' ok⟩

variable {e : Sampler} {stock : Stock} {s : Device.State}

/-- A profile gives records only on an idle context. -/
theorem runProfile_idle {context : ContextId} {p : Profile} {rs : List Record}
    (ran : ((runProfile agent context p).run d.backend s).1 = .ok rs) :
    s.activity context = some false := by
  rcases Device.bindConfig_cases context p.config s with ⟨cause, budgets, refused, -⟩ |
    ⟨ctx, found, idle, -⟩
  · have answered : d.backend.answer (.bindConfig context p.config) s = _ := refused
    simp only [runProfile, Procedure.call, Procedure.bind_ask, Procedure.bind_done,
      Procedure.run_ask] at ran
    rw [answered] at ran
    cases ran
  · rw [Device.State.activity, found, Option.map_some, idle]

/-- Sampling profiles succeeds only on an idle context, if there are any. -/
theorem sampleProfiles_idle {ps : List Profile} (nonempty : ps ≠ [])
    {values values' : NameMap Float}
    (sampled : (((sampleProfiles values ps).run.run e).run d.backend s).1.1 = .ok values') :
    s.activity e.context = some false := by
  obtain ⟨p, ps, rfl⟩ := List.exists_cons_of_ne_nil nonempty
  unfold sampleProfiles at sampled
  rw [Procedure.run_bindOk, run_sampleProfile, Procedure.run_bind] at sampled
  cases ran : ((runProfile e.agent e.context p).run d.backend s).1 with
  | error f =>
    rw [ran] at sampled
    cases sampled
  | ok rs => exact runProfile_idle ran

/-- Sampling that succeeds sums the records of all profiles. -/
theorem sampleProfiles_ok (sound : e.Sound d stock s) {ps : List Profile}
    (inStock : ∀ p ∈ ps, p.InStock d e.agent known stock) {values values' : NameMap Float}
    (sampled : (((sampleProfiles values ps).run.run e).run d.backend s).1.1 = .ok values') :
    values' = addAll values (recordsIn d known ps) := by
  have fits := (sampleProfiles_fit values ps e).result d.backend s values' sampled
  cases ps with
  | nil => exact (Except.ok.inj sampled).symm
  | cons p ps =>
    have idle := sampleProfiles_idle (List.cons_ne_nil p ps) sampled
    have ready : e.Ready d stock s (s.budgets.failures e.agent) := ⟨sound, idle, rfl⟩
    obtain ⟨bound, situated⟩ := ready.situated
    obtain ⟨e', s', _, run, -⟩ := sampleProfiles_outcome sound.truthful situated inStock fits
      (.inl (List.cons_ne_nil p ps)) values
    rw [run] at sampled
    unfold outcome at sampled
    cases failed : (s.budgets.failures e.agent).stage? with
    | none =>
      rw [failed] at sampled
      exact (Except.ok.inj sampled).symm
    | some stage =>
      rw [failed] at sampled
      cases sampled

/-- A set that a sampler gives was packed for the key of the request, and is in stock. -/
theorem Sound.packs (sound : e.Sound d stock s) {counters : List String} {set : Shared ProfileSet}
    {e₁ : Sampler} {s₁ : Device.State}
    (packed : ((profileSet counters).run.run e).run d.backend s = ((.ok set, e₁), s₁)) :
    ∃ known stock₁, e₁.Sound d stock₁ s₁ ∧ e₁.agent = e.agent ∧
      d.facts.listing e.agent = .ok known ∧
      set.value.InStock d e.agent known stock₁ (ProfileCache.setKey counters) := by
  obtain ⟨stock₁, amid⟩ := Procedure.amid_run d ((profileSet counters).run.run e) stock s
  rw [packed] at amid
  have managed := profileSet_managed counters e stock sound.truthful sound.nodup
  obtain ⟨used, sound₁⟩ := sound.manages managed (fun _ used => used) amid
  have found := (profileSet_found counters e).result d.backend s
  rw [packed] at found
  obtain ⟨known, listing, inStock⟩ := sound₁.sets _ set (found set rfl)
  rw [used.agent] at listing inStock
  exact ⟨known, stock₁, sound₁, used.agent, listing, inStock⟩

/-- A request that succeeds has found or packed its set and sampled the profiles of it. -/
theorem sample_split {counters : List String} {output : SampleOutput} {e' : Sampler}
    {s' : Device.State}
    (sampled : ((sample counters).run.run e).run d.backend s = ((.ok output, e'), s')) :
    ∃ set e₁ s₁ values, ((profileSet counters).run.run e).run d.backend s = ((.ok set, e₁), s₁) ∧
      ((sampleProfiles .empty set.value.profiles).run.run e₁).run d.backend s₁ =
        ((.ok values, e'), s') ∧
      output = outputOf set.value values := by
  rw [sample, Procedure.run_bindOk] at sampled
  rcases looked : ((profileSet counters).run.run e).run d.backend s with ⟨⟨_ | set, e₁⟩, s₁⟩
  · rw [looked] at sampled
    cases sampled
  rw [looked] at sampled
  dsimp only at sampled
  rw [Procedure.run_bindOk, sampleProfileSet] at sampled
  rcases summed : ((sampleProfiles .empty set.value.profiles).run.run e₁).run d.backend s₁ with
    ⟨⟨_ | values, e₂⟩, s₂⟩
  · rw [summed] at sampled
    cases sampled
  rw [summed] at sampled
  cases sampled
  exact ⟨set, e₁, s₁, values, rfl, summed, rfl⟩

/-- What a request gives that succeeds. -/
theorem sample_ok (sound : e.Sound d stock s) {counters : List String} {output : SampleOutput}
    (sampled : (((sample counters).run.run e).run d.backend s).1.1 = .ok output) :
    ∃ set known stock₁, (((profileSet counters).run.run e).run d.backend s).1.1 = .ok set ∧
      d.facts.listing e.agent = .ok known ∧
      set.value.InStock d e.agent known stock₁ (ProfileCache.setKey counters) ∧
      output = outputOf set.value (addAll .empty (recordsIn d known set.value.profiles)) := by
  rcases ran : ((sample counters).run.run e).run d.backend s with ⟨⟨r, e'⟩, s'⟩
  obtain rfl : r = .ok output := by rw [← sampled, ran]
  obtain ⟨set, e₁, s₁, values, looked, summed, rfl⟩ := sample_split ran
  obtain ⟨known, stock₁, sound₁, agent, listing, inStock⟩ := sound.packs looked
  have profiles := inStock.profiles
  rw [← agent] at profiles
  have values_eq := sampleProfiles_ok sound₁ profiles (congrArg (fun y => y.1.1) summed)
  exact ⟨set, known, stock₁, by rw [looked], listing, inStock, by rw [values_eq]⟩

/-- The names with a value are those of the profiles that are not cut off. -/
theorem mem_names_iff (listing : d.facts.listing agent = .ok known) {request : List String}
    {set : ProfileSet} (inStock : set.InStock d agent known stock request) (name : String) :
    name ∈ (addAll .empty (recordsIn d known set.profiles)).names ↔
      name ∈ set.counterNames ∧ ¬set.CutsOff d known name := by
  have once := List.nodup_flatMap.1 inStock.distinct
  have read (p : Profile) (mem : p ∈ set.profiles) :
      (∃ x ∈ named d (recordsOf d p (p.ids known)), x.1 = name) ↔
        name ∈ p.counters ∧ ¬p.CutsOff d known name := by
    obtain ⟨members, made, -⟩ := inStock.profiles p mem
    exact exists_named_iff listing made (once.1 p mem) name
  rw [mem_names_addAll]
  constructor
  · rintro ⟨x, mem, same⟩
    obtain ⟨p, there, inside⟩ := List.mem_flatMap.1 mem
    obtain ⟨member, whole⟩ := (read p there).1 ⟨x, inside, same⟩
    refine ⟨List.mem_flatMap.2 ⟨p, there, member⟩, ?_⟩
    rintro ⟨p', there', cut⟩
    -- A name is in one profile only, so it is this one that cuts it off.
    have member' := mem_of_cutsOff cut
    by_cases equal : p = p'
    · exact whole (equal ▸ cut)
    · have : Std.Symm (Function.onFun List.Disjoint fun p : Profile => p.counters) :=
        ⟨fun _ _ apart => List.disjoint_symm apart⟩
      exact once.2.forall there there' equal member member'
  · rintro ⟨member, whole⟩
    obtain ⟨p, there, inside⟩ := List.mem_flatMap.1 member
    obtain ⟨x, mem, same⟩ := (read p there).2 ⟨inside, fun cut => whole ⟨p, there, cut⟩⟩
    exact ⟨x, List.mem_flatMap.2 ⟨p, there, mem⟩, same⟩

/-- The output for a set mentions each name of its request once, but for those cut off. -/
theorem mentions_outputOf (listing : d.facts.listing agent = .ok known) {request : List String}
    {set : ProfileSet} (inStock : set.InStock d agent known stock request) (name : String) :
    let output := outputOf set (addAll .empty (recordsIn d known set.profiles))
    (name ∈ request ∧ ¬set.CutsOff d known name → output.mentions name = 1) ∧
      (name ∉ request ∨ set.CutsOff d known name → output.mentions name = 0) := by
  obtain ⟨cap, covers⟩ := inStock.covers
  have total := covers.partition.count_eq name
  rw [List.count_append, List.count_append, (nodup_distinct request).count] at total
  simp only [mem_distinct] at total
  have valued := mem_names_iff listing inStock name
  dsimp only [SampleOutput.mentions, outputOf]
  by_cases cut : set.CutsOff d known name
  · have inside : name ∈ set.counterNames := by
      obtain ⟨p, there, short⟩ := cut
      exact List.mem_flatMap.2 ⟨p, there, mem_of_cutsOff short⟩
    have absent := List.count_eq_zero.2 fun value => (valued.1 value).2 cut
    rw [inStock.distinct.count, if_pos inside] at total
    refine ⟨fun absurd => (absurd.2 cut).elim, fun _ => ?_⟩
    split at total <;> omega
  · have same : (addAll .empty (recordsIn d known set.profiles)).names.count name =
        set.counterNames.count name := by
      rw [(NameMap.nodup_names _).count, inStock.distinct.count]
      exact if_congr (valued.trans (and_iff_left cut)) rfl rfl
    rw [same, total, ite_eq_left_iff, ite_eq_right_iff]
    simp [cut]

/-- Whatever the device and the limit of its reads, a request that succeeds mentions each name once,
if it was requested: among the values, the unsupported or the unpackable names. The exceptions are
the packed names whose counters are cut off, which are mentioned nowhere. -/
theorem sample_mentions (use : e.InUse d stock s) {counters : List String} {output : SampleOutput}
    (sampled : (((sample counters).run.run e).run d.backend s).1.1 = .ok output) :
    ∃ set known, (((profileSet counters).run.run e).run d.backend s).1.1 = .ok set ∧
      ((Catalog.list.run.run e.catalog).run d.backend s).1.1 = .ok known ∧
      ∀ name,
        (name ∈ counters ∧ ¬set.value.CutsOff d known name → output.mentions name = 1) ∧
        (name ∉ counters ∨ set.value.CutsOff d known name → output.mentions name = 0) := by
  have sound := use.sound
  obtain ⟨set, known, stock₁, packed, listing, inStock, rfl⟩ := sample_ok sound sampled
  have listed := (Catalog.list_learns e.catalog sound.truthful).result d.steady s
  rw [listing] at listed
  refine ⟨set, known, packed, listed.1, fun name => ?_⟩
  have key : name ∈ ProfileCache.setKey counters ↔ name ∈ counters := by
    rw [ProfileCache.setKey, mem_distinct, List.mem_mergeSort]
  rw [← key]
  exact mentions_outputOf listing inStock name

/-- A GPU that returns at most one record per read. -/
def oneAtMost : Device.Builder :=
  let gpu : AgentInfo := ⟨⟨1⟩, .gpu, "gfx942", 10001, 128, 1⟩
  (((Device.Builder.agent {} gpu).counter "CYCLES" [] 1.0).counter "WAVES" [] 1.0).maxRecords 1

theorem sample_oneAtMost :
    ∃ output, (((sample ["CYCLES", "WAVES"]).run.run ⟨⟨1⟩, ⟨1⟩, .new ⟨1⟩, .new 0, 8⟩).run
        oneAtMost.device.backend
          (oneAtMost.device.answer (.createContext ⟨1⟩) oneAtMost.initial).2).1.1 = .ok output ∧
      output.values.names = ["CYCLES"] ∧ output.unsupported = [] ∧ output.unpackable = [] := by
  have key : ProfileCache.setKey ["CYCLES", "WAVES"] = ["CYCLES", "WAVES"] := by
    unfold ProfileCache.setKey
    rw [List.mergeSort_of_pairwise (by decide)]
    decide
  rw [sample, Procedure.run_bindOk, run_profileSet, run_withCache]
  simp only [ProfileCache.getOrCreateSet, key]
  exact ⟨_, rfl, rfl, rfl, rfl⟩

/-- A request that succeeds may mention a requested name nowhere. -/
theorem sample_unreported :
    match (Sampler.new ⟨1⟩ 0 8).run oneAtMost.device.backend oneAtMost.initial with
    | (.error _, _) => False
    | (.ok e, s) =>
      e.InUse oneAtMost.device [] s ∧
      ∃ output, (((sample ["CYCLES", "WAVES"]).run.run e).run oneAtMost.device.backend s).1.1 =
          .ok output ∧
        "WAVES" ∉ output.values.names ∧ "WAVES" ∉ output.unsupported ∧
        "WAVES" ∉ output.unpackable := by
  have use : Sampler.InUse oneAtMost.device _ [] _ :=
    .created ⟨1⟩ 0 8 (Device.reached_initial oneAtMost) rfl
  obtain ⟨output, sampled, values, unsupported, unpackable⟩ := sample_oneAtMost
  refine ⟨use, output, sampled, ?_, ?_, ?_⟩
  · rw [values]
    decide
  · rw [unsupported]
    exact List.not_mem_nil
  · rw [unpackable]
    exact List.not_mem_nil

/-- Of two counters the second is cut off, and the first is not. -/
theorem sample_mentions_one_record :
    match (Sampler.new ⟨1⟩ 0 8).run oneAtMost.device.backend oneAtMost.initial with
    | (.error _, _) => False
    | (.ok e, s) =>
      let d := oneAtMost.device
      let counters := ["CYCLES", "WAVES"]
      e.InUse d [] s ∧
      ∃ output, (((sample counters).run.run e).run d.backend s).1.1 = .ok output ∧
        output.mentions "CYCLES" = 1 ∧ output.mentions "WAVES" = 0 ∧
        ∃ set known, (((profileSet counters).run.run e).run d.backend s).1.1 = .ok set ∧
          ((Catalog.list.run.run e.catalog).run d.backend s).1.1 = .ok known ∧
          ¬set.value.CutsOff d known "CYCLES" ∧ set.value.CutsOff d known "WAVES" := by
  have use : Sampler.InUse oneAtMost.device _ [] _ :=
    .created ⟨1⟩ 0 8 (Device.reached_initial oneAtMost) rfl
  obtain ⟨output, sampled, values, unsupported, unpackable⟩ := sample_oneAtMost
  obtain ⟨set, known, packed, listed, mentioned⟩ := sample_mentions use sampled
  have first : output.mentions "CYCLES" = 1 := by
    rw [SampleOutput.mentions, values, unsupported, unpackable]
    decide
  have second : output.mentions "WAVES" = 0 := by
    rw [SampleOutput.mentions, values, unsupported, unpackable]
    decide
  refine ⟨use, output, sampled, first, second, set, known, packed, listed, fun cut => ?_, ?_⟩
  · have none := (mentioned "CYCLES").2 (.inr cut)
    rw [first] at none
    cases none
  · by_contra whole
    have one := (mentioned "WAVES").1 ⟨by decide, whole⟩
    rw [second] at one
    cases one

end Sampler

end CounterSampling
