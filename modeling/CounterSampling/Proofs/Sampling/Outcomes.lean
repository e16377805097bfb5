import CounterSampling.Proofs.Device.Failures
import CounterSampling.Proofs.Possession.Use
import CounterSampling.Proofs.Sampling.Activity
import CounterSampling.Proofs.Sampling.ContextCalls

/-!
# What comes of sampling on a simulated device

On a device whose context is idle and whose profiles are there, what comes of sampling is settled by
the failures that are left: without one it is the sum of what the profiles hold, and otherwise the
failure that is met first. Either way the context is idle again. Main statement:
`sample_outcome`.
-/

namespace CounterSampling

open Device (Failures injected)

variable {d : Device} {agent : AgentId} {context : ContextId} {stock : Stock}
  {s : Device.State} {n : Failures}

/-- What only inquires is told the truth and makes no difference to the situation. -/
theorem Procedure.Learns.situated {α : Type} {Q : α → Prop} {p : Procedure α} (h : p.Learns d.facts Q)
    {bound : Option ConfigId} {active : Bool}
    (situated : s.Situated agent context stock bound active n) :
    ∃ a s', p.run d.backend s = (a, s') ∧ Q a ∧
      s'.Situated agent context stock bound active n := by
  induction p generalizing s with
  | done a => exact ⟨a, s, rfl, h, situated⟩
  | ask c next ih => exact ih _ (h.2 _ (d.steady c s)) (situated.inquiry h.1)

/-- The configuration of a profile in stock holds its counters. -/
theorem Profile.InStock.held {known : NameMap CounterId} {p : Profile}
    (h : p.InStock d agent known stock) : (p.config, p.ids known) ∈ stock := by
  obtain ⟨members, made, held⟩ := h
  rw [made.ids_eq]
  exact held

namespace Sampler

/-- What an attempt comes to with these failures left: `a`, unless it fails. -/
def outcome {α : Type} (agent : AgentId) (n : Failures) (a : α) : Except Failure α :=
  match n.stage? with
  | some stage => .error (.error (.sampling agent stage (injected stage)))
  | none => .ok a

theorem outcome_of_stage {α : Type} {stage : SamplingStage} (fails : n.stage? = some stage) (a : α) :
    outcome agent n a = .error (.error (.sampling agent stage (injected stage))) := by
  rw [outcome, fails]

theorem outcome_of_none {α : Type} (unhurt : n.stage? = none) (a : α) :
    outcome agent n a = .ok a := by
  rw [outcome, unhurt]

/-- The records of a profile that holds these counters. -/
def recordsOf (d : Device) (p : Profile) (ids : List CounterId) : List Record :=
  d.recordsUpTo (d.readLimit (bufferOf p)) ids

/-- What comes of a read and the stop after it. -/
theorem readAndStop_outcome {p : Profile} {ids : List CounterId} (held : (p.config, ids) ∈ stock)
    (h : s.Situated agent context stock (some p.config) true n) (bind : n.bind = 0)
    (start : n.start = 0) :
    ∃ s', (readAndStop agent context (bufferOf p)).run d.backend s =
        (outcome agent n (recordsOf d p ids), s') ∧
      s'.Situated agent context stock (some p.config) false n.next := by
  simp only [readAndStop, Procedure.call, Procedure.bind_ask, Procedure.bind_done,
    Procedure.run_ask, Failures.next_read bind start]
  rcases h.readRecords (d := d) held (bufferOf p) with ⟨read, answered⟩ | ⟨read, s₁, answered, h₁⟩
  · rw [show d.backend.answer (.readRecords context (bufferOf p)) s = _ from answered]
    obtain ⟨s₂, stopped, h₂⟩ := h.stopContext
    dsimp only
    rw [show d.backend.answer (.stopContext context) s = _ from stopped]
    rw [show n.read = n.read - 1 by omega] at h₂
    refine ⟨s₂, Prod.ext ?_ rfl, h₂⟩
    by_cases stop : n.stop = 0
    · rw [if_pos stop, outcome_of_none (Failures.stage?_none bind start read stop)]
      exact congrArg Except.ok (List.take_left)
    · rw [if_neg stop, outcome_of_stage (Failures.stage?_stop bind start read stop)]
      rfl
  · rw [show d.backend.answer (.readRecords context (bufferOf p)) s = _ from answered]
    obtain ⟨s₂, stopped, h₂⟩ := h₁.stopContext
    dsimp only
    rw [show d.backend.answer (.stopContext context) s₁ = _ from stopped]
    refine ⟨s₂, Prod.ext ?_ rfl, h₂⟩
    rw [outcome_of_stage (Failures.stage?_read bind start read)]
    rfl

/-- What comes of sampling a profile. -/
theorem runProfile_outcome {bound : Option ConfigId}
    (h : s.Situated agent context stock bound false n) {p : Profile} {ids : List CounterId}
    (held : (p.config, ids) ∈ stock) (fits : ¬TooLarge p) :
    ∃ s' bound', (runProfile agent context p).run d.backend s =
        (outcome agent n (recordsOf d p ids), s') ∧
      s'.Situated agent context stock bound' false n.next := by
  simp only [runProfile, Procedure.call, Procedure.bind_ask, Procedure.bind_done,
    Procedure.run_ask]
  rcases h.bindConfig held with ⟨bind, s₁, answered, h₁⟩ | ⟨bind, s₁, answered, h₁⟩
  case inr =>
    rw [show d.backend.answer (.bindConfig context p.config) s = _ from answered,
      Failures.next_bind bind, outcome_of_stage (Failures.stage?_bind bind)]
    exact ⟨s₁, bound, rfl, h₁⟩
  rw [show d.backend.answer (.bindConfig context p.config) s = _ from answered]
  rcases h₁.startContext with ⟨start, s₂, answered, h₂⟩ | ⟨start, s₂, answered, h₂⟩
  case inr =>
    rw [Failures.next_start bind start, outcome_of_stage (Failures.stage?_start bind start)]
    refine ⟨s₂, some p.config, ?_, h₂⟩
    simp only [atStage, Procedure.run_ask]
    rw [show d.backend.answer (.startContext context) s₁ = _ from answered]
    rfl
  obtain ⟨s₃, read, h₃⟩ := readAndStop_outcome (d := d) held h₂ bind start
  refine ⟨s₃, some p.config, ?_, h₃⟩
  simp only [atStage, Procedure.run_ask]
  rw [show d.backend.answer (.startContext context) s₁ = _ from answered]
  simp only [allocate_of_fits (Nat.le_of_not_lt fits)]
  exact read

/-! ## Sets -/

/-- Records with the names of their counters. -/
def named (d : Device) (rs : List Record) : List (String × Record) :=
  rs.map fun r => (d.facts.nameOf r.counter, r)

/-- Records are added under the names of their counters. -/
theorem addRecords_learns (values : NameMap Float) (rs : List Record) {e : Sampler}
    (truthful : e.Truthful d) :
    ((addRecords values rs).run.run e).Learns d.facts fun y =>
      y.1 = .ok (addAll values (named d rs)) ∧ y.2.Truthful d ∧
        besidesCatalog y.2 = besidesCatalog e := by
  induction rs generalizing values e with
  | nil => exact ⟨rfl, truthful, rfl⟩
  | cons r rs ih =>
    have first : (addRecords values (r :: rs)).run.run e =
        (Catalog.nameOf r).run e.catalog >>= fun x =>
          (addRecords (addValue values x.1 r.value) rs).run.run { e with catalog := x.2 } := by
      simp only [addRecords, ExceptT.run_bind, StateT.run_bind, run_nameOf]
      rw [Procedure.bind_assoc]
      rfl
    rw [first]
    refine (Catalog.nameOf_learns r e.catalog truthful).bind ?_
    rintro ⟨name, catalog⟩ ⟨rfl, truthful'⟩
    have later : Sampler.Truthful d { e with catalog } := truthful'
    exact ih _ later

/-- The records of profiles, with the names of their counters. -/
def recordsIn (d : Device) (known : NameMap CounterId) (ps : List Profile) :
    List (String × Record) :=
  ps.flatMap fun p => named d (recordsOf d p (p.ids known))

theorem recordsIn_cons (known : NameMap CounterId) (p : Profile) (ps : List Profile) :
    recordsIn d known (p :: ps) =
      named d (recordsOf d p (p.ids known)) ++ recordsIn d known ps :=
  List.flatMap_cons

theorem addAll_append (values : NameMap Float) (xs ys : List (String × Record)) :
    addAll values (xs ++ ys) = addAll (addAll values xs) ys :=
  List.foldl_append

variable {known : NameMap CounterId} {e : Sampler} {bound : Option ConfigId} {ps : List Profile}

/-- Without a failure the records of all profiles are summed. -/
theorem sampleProfiles_unhurt (unhurt : n.stage? = none) (truthful : e.Truthful d)
    (h : s.Situated e.agent e.context stock bound false n)
    (inStock : ∀ p ∈ ps, p.InStock d agent known stock) (fits : ∀ p ∈ ps, ¬TooLarge p)
    (values : NameMap Float) :
    ∃ e' s' bound', ((sampleProfiles values ps).run.run e).run d.backend s =
        ((.ok (addAll values (recordsIn d known ps)), e'), s') ∧
      s'.Situated e.agent e.context stock bound' false n ∧ e'.Truthful d ∧
      besidesCatalog e' = besidesCatalog e := by
  induction ps generalizing values e s bound with
  | nil => exact ⟨e, s, bound, rfl, h, truthful, rfl⟩
  | cons p ps ih =>
    have held := (inStock p List.mem_cons_self).held
    obtain ⟨s₁, bound₁, sampled, h₁⟩ :=
      runProfile_outcome (d := d) h held (fits p List.mem_cons_self)
    rw [outcome_of_none unhurt] at sampled
    rw [Failures.next_of_none unhurt] at h₁
    have learns := addRecords_learns values (recordsOf d p (p.ids known)) truthful
    obtain ⟨⟨_, e₂⟩, s₂, added, ⟨rfl, truthful₂, same⟩, h₂⟩ := learns.situated h₁
    have agent : e₂.agent = e.agent := congrArg (fun x => x.1) same
    have context : e₂.context = e.context := congrArg (fun x => x.2.1) same
    rw [← agent, ← context] at h₂
    obtain ⟨later, fitsLater⟩ := And.intro (List.forall_mem_cons.1 inStock).2
      (List.forall_mem_cons.1 fits).2
    obtain ⟨e', s', bound', rest, h', truthful', same'⟩ := ih truthful₂ h₂ later fitsLater _
    rw [agent, context] at h'
    refine ⟨e', s', bound', ?_, h', truthful', same'.trans same⟩
    unfold sampleProfiles
    rw [Procedure.run_bindOk, run_sampleProfile, Procedure.run_bind, sampled]
    simp only [Procedure.run_done, Procedure.run_bindOk, added]
    rw [rest, recordsIn_cons, addAll_append]

/-- What comes of sampling profiles, of which there is at least one if there are failures. -/
theorem sampleProfiles_outcome (truthful : e.Truthful d)
    (h : s.Situated e.agent e.context stock bound false n)
    (inStock : ∀ p ∈ ps, p.InStock d agent known stock) (fits : ∀ p ∈ ps, ¬TooLarge p)
    (met : ps ≠ [] ∨ n.stage? = none) (values : NameMap Float) :
    ∃ e' s' bound', ((sampleProfiles values ps).run.run e).run d.backend s =
        ((outcome e.agent n (addAll values (recordsIn d known ps)), e'), s') ∧
      s'.Situated e.agent e.context stock bound' false n.next ∧ e'.Truthful d ∧
      besidesCatalog e' = besidesCatalog e := by
  cases fails : n.stage? with
  | none =>
    rw [outcome_of_none fails, Failures.next_of_none fails]
    exact sampleProfiles_unhurt fails truthful h inStock fits values
  | some stage =>
    cases ps with
    | nil => simp [fails] at met
    | cons p ps =>
      have held := (inStock p List.mem_cons_self).held
      obtain ⟨s₁, bound₁, sampled, h₁⟩ :=
        runProfile_outcome (d := d) h held (fits p List.mem_cons_self)
      rw [outcome_of_stage fails] at sampled
      refine ⟨e, s₁, bound₁, ?_, h₁, truthful, rfl⟩
      unfold sampleProfiles
      rw [Procedure.run_bindOk, run_sampleProfile, Procedure.run_bind, sampled,
        outcome_of_stage fails]
      rfl

/-! ## Requests -/

/-- Looking a set up, or packing it, is the same whatever failures are left. -/
theorem answer_withBudgets (d : Device) {c : Call} (builds : c.Builds) (s : Device.State)
    (budgets : Device.Budgets) :
    d.answer c { s with budgets } = ((d.answer c s).1, { (d.answer c s).2 with budgets }) := by
  cases c with
  | tryConfigure agent ids =>
    change d.configure agent ids { s with budgets } =
      ((d.configure agent ids s).1, { (d.configure agent ids s).2 with budgets })
    unfold Device.configure
    split
    · rfl
    split
    · rfl
    split <;> rfl
  | destroyConfig config =>
    change ((), Device.destroyConfig config { s with budgets }) =
      ((), { Device.destroyConfig config s with budgets })
    unfold Device.destroyConfig
    dsimp only
    split <;> rfl
  | supportedCounters agent => rfl
  | counterName id => rfl
  | counterDimensions id => rfl
  | dimensionPosition r id => rfl
  | _ => exact builds.elim

theorem run_withBudgets {α : Type} {Q : α → Prop} {p : Procedure α}
    (builds : p.Ensures Call.Builds Q) (s : Device.State) (budgets : Device.Budgets) :
    p.run d.backend { s with budgets } =
      ((p.run d.backend s).1, { (p.run d.backend s).2 with budgets }) := by
  induction p generalizing s with
  | done a => rfl
  | ask c next ih =>
    rw [Procedure.run_ask, Procedure.run_ask]
    rw [show d.backend.answer c { s with budgets } = _ from answer_withBudgets d builds.1 s budgets]
    exact ih _ (builds.2 _) _

theorem profileSet_cached {counters : List String} {e : Sampler} {set : Shared ProfileSet}
    (cached : e.cache.sets.find? (ProfileCache.setKey counters) = some set) :
    (profileSet counters).run.run e = .done (.ok set, { e with cache := e.cache.hit }) := by
  rw [run_profileSet, run_withCache]
  simp only [ProfileCache.getOrCreateSet, ProfileCache.getOrMake, cached]
  rfl

/-- What a sampler that is asked for a set can come to. -/
inductive Asked (counters : List String) (e : Sampler) :
    Except Failure (Shared ProfileSet) → Sampler → Prop
  /-- The set is kept. -/
  | found {set : Shared ProfileSet}
    (kept : e.cache.sets.find? (ProfileCache.setKey counters) = some set) :
    Asked counters e (.ok set) { e with cache := e.cache.hit }
  /-- It is not, and it cannot be packed. -/
  | failed (f : Failure) (catalog : Catalog)
    (absent : e.cache.sets.find? (ProfileCache.setKey counters) = none) :
    Asked counters e (.error f) { e with cache := e.cache.miss, catalog }
  /-- It is packed, and kept from now on. -/
  | packed (set : ProfileSet) (catalog : Catalog)
    (absent : e.cache.sets.find? (ProfileCache.setKey counters) = none) :
    Asked counters e (.ok (e.cache.miss.share set))
      { e with
        cache := ProfileCache.keepSet (ProfileCache.setKey counters) e.cache.miss
          (e.cache.miss.share set)
        catalog }

theorem profileSet_asked (counters : List String) (e : Sampler) :
    ((profileSet counters).run.run e).Ensures (fun _ => True) fun y => Asked counters e y.1 y.2 := by
  cases kept : e.cache.sets.find? (ProfileCache.setKey counters) with
  | some set =>
    rw [profileSet_cached kept]
    exact .found kept
  | none =>
    rw [run_profileSet, run_withCache]
    simp only [ProfileCache.getOrCreateSet, ProfileCache.getOrMake, kept, StateT.run_bind]
    rw [Procedure.bind_assoc]
    refine (Procedure.ensures_any _).bind fun y _ => ?_
    obtain ⟨packed, catalog⟩ := y
    cases packed with
    | error f => exact .failed (.error f) catalog kept
    | ok set => exact .packed set catalog kept

/-- A set that a sampler gives is found the next time. -/
theorem Asked.kept {counters : List String} {e e' : Sampler} {set : Shared ProfileSet}
    (h : Asked counters e (.ok set) e') :
    e'.cache.sets.find? (ProfileCache.setKey counters) = some set := by
  cases h with
  | found kept => exact kept
  | packed set catalog absent => exact (Table.find?_insert _ _ _ _).trans (if_pos rfl)

theorem profileSet_found (counters : List String) (e : Sampler) :
    ((profileSet counters).run.run e).Ensures (fun _ => True) fun y =>
      ∀ x, y.1 = .ok x → y.2.cache.sets.find? (ProfileCache.setKey counters) = some x :=
  (profileSet_asked counters e).mono (fun _ => id) fun _ asked _ given => (given ▸ asked).kept

/-- A sampler that is sound and idle, with these failures left for its agent. -/
structure Ready (d : Device) (e : Sampler) (stock : Stock) (s : Device.State) (n : Failures) :
    Prop where
  sound : e.Sound d stock s
  idle : s.activity e.context = some false
  failures : s.budgets.failures e.agent = n

theorem Ready.situated (h : e.Ready d stock s n) :
    ∃ bound, s.Situated e.agent e.context stock bound false n := by
  obtain ⟨⟨agent, bound, active⟩, found, rfl⟩ := Option.map_eq_some_iff.1 h.idle
  obtain rfl : agent = e.agent := h.sound.context.own _ found
  exact ⟨bound, h.sound.stores, found, h.failures⟩

/-- The output for a set with these values. -/
def outputOf (set : ProfileSet) (values : NameMap Float) : SampleOutput :=
  ⟨values, set.unsupported, set.unpackable, set.size⟩

/-- Looking a profile or a set up leaves the context and the failures alone. -/
theorem Ready.looksUp {α : Type} {m : SamplerM α} {r : Except Failure α} {e₁ : Sampler}
    {s₁ : Device.State} (ready : e.Ready d stock s n)
    (builds : StepsOnly Call.Builds Sampler.context m.run)
    (managed : (m.run.run e).Manages d e.context
      (fun stock' y => e.Extends d y.2 stock stock') stock)
    (ran : (m.run.run e).run d.backend s = ((r, e₁), s₁)) :
    ∃ stock₁, e₁.Ready d stock₁ s₁ n ∧ e₁.agent = e.agent ∧ e₁.context = e.context := by
  obtain ⟨stock₁, amid⟩ := Procedure.amid_run d (m.run.run e) stock s
  have idle := (builds e).run_eq (f := fun s : Device.State => s.activity e.context) d.backend
    (fun _ _ builds => Device.answer_activity d builds) s
  have budgets : ((m.run.run e).run d.backend s).2.budgets = s.budgets :=
    congrArg (fun y => y.2.budgets) (run_withBudgets (d := d) (builds e) s s.budgets)
  rw [ran] at amid idle budgets
  obtain ⟨used, sound₁⟩ := ready.sound.manages managed (fun _ used => used) amid
  have agent : e₁.agent = e.agent := used.agent
  have context : e₁.context = e.context := used.context
  refine ⟨stock₁, ⟨sound₁, ?_, ?_⟩, agent, context⟩
  · rw [context]
    exact idle.trans ready.idle
  · rw [agent, show s₁.budgets = s.budgets from budgets]
    exact ready.failures

/-- Packing leaves the context and the failures alone, and the set is kept. -/
theorem Ready.packs (ready : e.Ready d stock s n) {counters : List String}
    {set : Shared ProfileSet} {e₁ : Sampler} {s₁ : Device.State}
    (packed : ((profileSet counters).run.run e).run d.backend s = ((.ok set, e₁), s₁)) :
    ∃ stock₁, e₁.Ready d stock₁ s₁ n ∧ e₁.agent = e.agent ∧ e₁.context = e.context ∧
      e₁.cache.sets.find? (ProfileCache.setKey counters) = some set := by
  have managed := profileSet_managed counters e stock ready.sound.truthful ready.sound.nodup
  obtain ⟨stock₁, ready₁, agent, context⟩ :=
    ready.looksUp (profileSet_builds counters) managed packed
  have found := (profileSet_found counters e).result d.backend s
  rw [packed] at found
  exact ⟨stock₁, ready₁, agent, context, found set rfl⟩

/-- What comes of a request whose set was found or packed. -/
theorem sample_outcome {counters : List String} {set : Shared ProfileSet} {e₁ : Sampler}
    {s₁ : Device.State} (ready : e.Ready d stock s n)
    (packed : ((profileSet counters).run.run e).run d.backend s = ((.ok set, e₁), s₁))
    (fits : ∀ p ∈ set.value.profiles, ¬TooLarge p)
    (met : set.value.profiles ≠ [] ∨ n.stage? = none) :
    ∃ known e' stock₁ stock' s', d.facts.listing e.agent = .ok known ∧
      set.value.InStock d e.agent known stock₁ (ProfileCache.setKey counters) ∧
      ((sample counters).run.run e).run d.backend s =
        ((outcome e.agent n (outputOf set.value
          (addAll .empty (recordsIn d known set.value.profiles))), e'), s') ∧
      e'.Ready d stock' s' n.next ∧ e'.agent = e.agent ∧
      e'.cache.sets.find? (ProfileCache.setKey counters) = some set := by
  have sound := ready.sound
  obtain ⟨stock₁, ready₁, agent, context, found⟩ := ready.packs packed
  obtain ⟨bound, situated⟩ := ready₁.situated
  obtain ⟨known, listing, inStock⟩ := ready₁.sound.sets _ set found
  rw [agent] at listing inStock
  obtain ⟨e', s', bound', sampled, situated', -, same⟩ :=
    sampleProfiles_outcome ready₁.sound.truthful situated inStock.profiles fits met .empty
  have run : ((sample counters).run.run e).run d.backend s =
      ((outcome e.agent n (outputOf set.value
        (addAll .empty (recordsIn d known set.value.profiles))), e'), s') := by
    unfold sample
    rw [Procedure.run_bindOk, packed]
    dsimp only
    rw [Procedure.run_bindOk, sampleProfileSet, sampled, agent]
    unfold outcome
    cases n.stage? <;> rfl
  obtain ⟨stock', amid'⟩ := Procedure.amid_run d ((sample counters).run.run e) stock s
  rw [run] at amid'
  have managed' := sample_managed counters e stock sound.truthful sound.nodup
  obtain ⟨used', sound'⟩ := sound.manages managed' (fun _ used => used) amid'
  have agent' : e'.agent = e₁.agent := congrArg (fun x => x.1) same
  have context' : e'.context = e₁.context := congrArg (fun x => x.2.1) same
  have cache' : e'.cache = e₁.cache := congrArg (fun x => x.2.2.1) same
  refine ⟨known, e', stock₁, stock', s', listing, inStock, run, ⟨sound', ?_, ?_⟩,
    agent'.trans agent, ?_⟩
  · rw [context', Device.State.activity, situated'.there]
    rfl
  · rw [agent']
    exact situated'.failures
  · rw [cache', found]

end Sampler

end CounterSampling
