import CounterSampling.Proofs.Possession.Packing
import CounterSampling.Proofs.Runs.Attempts

/-!
# What using a sampler adds to its stock

Whatever a sampler is used for, it makes calls about its own context only, it releases nothing but
what it has just made, and what it adds to its cache is in its stock. Its catalog stays truthful.
Main statements: `sample_managed` for one use and `task_managed` for an agent's part of a run.
-/

namespace CounterSampling

variable {d : Device} {α β : Type}

/-- A set that was packed for a request to an agent and whose profiles are in stock. -/
def ProfileSet.Stocked (d : Device) (agent : AgentId) (stock : Stock) (request : List String)
    (set : ProfileSet) : Prop :=
  ∃ known, d.facts.listing agent = .ok known ∧ set.InStock d agent known stock request

/-- A profile that was built of a list of names and is in stock. -/
def Profile.Stocked (d : Device) (agent : AgentId) (stock : Stock) (names : List String)
    (p : Profile) : Prop :=
  ∃ known, (d.facts.listing agent = .ok known ∨ names = []) ∧
    p.Made d.facts agent known (Packer.resolve known names).1 ∧
    (p.config, (Packer.resolve known names).1.map fun m => m.id) ∈ stock

section Stocked

variable {agent : AgentId} {stock stock' : Stock} {names : List String}

theorem ProfileSet.Stocked.subset {set : ProfileSet} (h : set.Stocked d agent stock names)
    (within : stock ⊆ stock') : set.Stocked d agent stock' names := by
  obtain ⟨known, listing, inStock⟩ := h
  exact ⟨known, listing, inStock.subset within⟩

theorem Profile.Stocked.subset {p : Profile} (h : p.Stocked d agent stock names)
    (within : stock ⊆ stock') : p.Stocked d agent stock' names := by
  obtain ⟨known, listing, made, held⟩ := h
  exact ⟨known, listing, made, within held⟩

end Stocked

/-- The calls that bind, start, read or stop one context. -/
def Call.IsAbout (context : ContextId) : Call → Prop
  | .bindConfig context' _ => context' = context
  | .startContext context' => context' = context
  | .stopContext context' => context' = context
  | .readRecords context' _ => context' = context
  | _ => False

/-- What only makes calls about the context leaves the stock as it is. -/
theorem Procedure.Ensures.manages {context : ContextId} {Q : α → Prop} {p : Procedure α}
    (h : p.Ensures (Call.IsAbout context) Q) (stock : Stock) :
    p.Manages d context (fun stock' a => stock' = stock ∧ Q a) stock := by
  induction p with
  | done a => exact ⟨rfl, h⟩
  | ask c next ih =>
    obtain ⟨about, answers⟩ := h
    have proper : c.Proper context stock := by
      cases c <;> first | exact about | exact about.elim
    have spares : c.isConfigCall = false := by
      cases c <;> first | rfl | exact about.elim
    refine ⟨proper, fun r _ => ?_⟩
    rw [stock.after_of_spares spares]
    exact ih r (answers r)

namespace ProfileCache

/-- What is new in a cache is in stock. -/
structure Extends (d : Device) (agent : AgentId) (c c' : ProfileCache) (before stock : Stock) :
    Prop where
  suffix : before <:+ stock
  nodup : stock.configs.Nodup
  sets : ∀ key x, c'.sets.find? key = some x →
    c.sets.find? key = some x ∨ x.value.Stocked d agent stock key
  singles : ∀ names x, c'.singles.find? names = some x →
    c.singles.find? names = some x ∨ x.value.Stocked d agent stock names

section Extends

variable {agent : AgentId} {c c' c'' : ProfileCache} {before stock stock' : Stock}

theorem Extends.refl (agent : AgentId) (c : ProfileCache) (nodup : stock.configs.Nodup) :
    c.Extends d agent c stock stock :=
  ⟨List.suffix_refl _, nodup, fun _ _ => .inl, fun _ _ => .inl⟩

theorem Extends.trans (h : c.Extends d agent c' before stock)
    (later : c'.Extends d agent c'' stock stock') : c.Extends d agent c'' before stock' := by
  have within := later.suffix.subset
  refine ⟨h.suffix.trans later.suffix, later.nodup, ?_, ?_⟩
  · intro key x found
    rcases later.sets key x found with old | new
    · exact (h.sets key x old).imp_right fun stocked => stocked.subset within
    · exact .inr new
  · intro names x found
    rcases later.singles names x found with old | new
    · exact (h.singles names x old).imp_right fun stocked => stocked.subset within
    · exact .inr new

end Extends

variable {agent : AgentId} {context : ContextId} {stock : Stock} {catalog : Catalog}

/-- What comes of looking a set up. -/
theorem getOrCreateSet_manages (c : ProfileCache) (counters : List String)
    {factory : List String → StateT Catalog Procedure (Except SamplerError ProfileSet)}
    (nodup : stock.configs.Nodup) (truthful : catalog.Truthful d.facts agent)
    (made : ∀ key, ((factory key).run catalog).Manages d context
      (fun stock' y => Packer.Packed d agent key stock stock' y.1 ∧
        y.2.Truthful d.facts agent) stock) :
    ((c.getOrCreateSet counters factory).run catalog).Manages d context
      (fun stock' y => c.Extends d agent y.1.2 stock stock' ∧ y.2.Truthful d.facts agent ∧
        ∀ e, y.1.1 = .error e → ∃ cause, d.facts.listing agent = .error cause) stock := by
  cases found : c.sets.find? (setKey counters) with
  | some x =>
    simp only [getOrCreateSet, getOrMake, found]
    refine ⟨⟨List.suffix_refl _, nodup, fun _ _ => .inl, fun _ _ => .inl⟩, truthful, ?_⟩
    intro e failed
    cases failed
  | none =>
    simp only [getOrCreateSet, getOrMake, found]
    refine (made _).bind ?_
    rintro stock' ⟨r, catalog'⟩ ⟨packed, truthful'⟩
    cases r with
    | error e =>
      refine ⟨⟨packed.suffix, packed.nodup, fun _ _ => .inl, fun _ _ => .inl⟩, truthful', ?_⟩
      intro _ _
      obtain ⟨cause, listing, -⟩ := packed.error e rfl
      exact ⟨cause, listing⟩
    | ok set =>
      refine ⟨⟨packed.suffix, packed.nodup, fun key x there => ?_, fun _ _ => .inl⟩, truthful', ?_⟩
      · rcases Table.of_find?_insert there with ⟨rfl, rfl⟩ | old
        · exact .inr (packed.ok set rfl)
        · exact .inl old
      · intro e failed
        cases failed

/-- What comes of looking a single profile up. -/
theorem getOrCreateSingle_manages (c : ProfileCache) (counters : List String)
    {factory : List String → StateT Catalog Procedure (Except SamplerError Profile)}
    (nodup : stock.configs.Nodup) (truthful : catalog.Truthful d.facts agent)
    (made : ((factory counters).run catalog).Manages d context
      (fun stock' y => stock <:+ stock' ∧ stock'.configs.Nodup ∧ y.2.Truthful d.facts agent ∧
        ∀ p, y.1 = .ok p → p.Stocked d agent stock' counters) stock) :
    ((c.getOrCreateSingle counters factory).run catalog).Manages d context
      (fun stock' y => c.Extends d agent y.1.2 stock stock' ∧ y.2.Truthful d.facts agent) stock := by
  cases found : c.singles.find? counters with
  | some x =>
    simp only [getOrCreateSingle, getOrMake, found]
    exact ⟨⟨List.suffix_refl _, nodup, fun _ _ => .inl, fun _ _ => .inl⟩, truthful⟩
  | none =>
    simp only [getOrCreateSingle, getOrMake, found]
    refine made.bind ?_
    rintro stock' ⟨r, catalog'⟩ ⟨suffix, nodup', truthful', stocked⟩
    cases r with
    | error e => exact ⟨⟨suffix, nodup', fun _ _ => .inl, fun _ _ => .inl⟩, truthful'⟩
    | ok p =>
      refine ⟨⟨suffix, nodup', fun _ _ => .inl, fun names x there => ?_⟩, truthful'⟩
      rcases Table.of_find?_insert there with ⟨rfl, rfl⟩ | old
      · exact .inr (stocked p rfl)
      · exact .inl old

end ProfileCache

namespace Sampler

/-- What a sampler knows is true. -/
def Truthful (d : Device) (e : Sampler) : Prop := e.catalog.Truthful d.facts e.agent

/-- What a use of a sampler does to it and to its stock. -/
structure Extends (d : Device) (e e' : Sampler) (before stock : Stock) : Prop where
  agent : e'.agent = e.agent
  context : e'.context = e.context
  truthful : e'.Truthful d
  cache : e.cache.Extends d e.agent e'.cache before stock

theorem Extends.refl {e : Sampler} (truthful : e.Truthful d) {stock : Stock}
    (nodup : stock.configs.Nodup) : e.Extends d e stock stock :=
  ⟨rfl, rfl, truthful, .refl _ _ nodup⟩

theorem Extends.trans {e e' e'' : Sampler} {before stock stock' : Stock}
    (h : e.Extends d e' before stock) (later : e'.Extends d e'' stock stock') :
    e.Extends d e'' before stock' := by
  refine ⟨later.agent.trans h.agent, later.context.trans h.context, later.truthful, ?_⟩
  exact h.cache.trans (h.agent ▸ later.cache)

/-- Steps that use a sampler with proper calls only. -/
def Managed (d : Device) (m : StateT Sampler Procedure α) : Prop :=
  ∀ (e : Sampler) (stock : Stock), e.Truthful d → stock.configs.Nodup →
    (m.run e).Manages d e.context (fun stock' y => e.Extends d y.2 stock stock') stock

theorem managed_pure (a : α) : Managed d (pure a : StateT Sampler Procedure α) :=
  fun _ _ truthful nodup => .refl truthful nodup

/-- Proper use can go on with proper use. -/
theorem manages_bind {m : StateT Sampler Procedure α} {k : α → StateT Sampler Procedure β}
    {e : Sampler} {stock : Stock}
    (h : (m.run e).Manages d e.context (fun stock' y => e.Extends d y.2 stock stock') stock)
    (later : ∀ a, Managed d (k a)) :
    ((m >>= k).run e).Manages d e.context (fun stock' y => e.Extends d y.2 stock stock') stock := by
  refine Procedure.Manages.bind h ?_
  rintro stock' ⟨a, e'⟩ first
  have rest := later a e' stock' first.truthful first.cache.nodup
  rw [first.context] at rest
  exact rest.mono fun stock'' y second => first.trans second

theorem Managed.bind {m : StateT Sampler Procedure α} {k : α → StateT Sampler Procedure β}
    (h : Managed d m) (later : ∀ a, Managed d (k a)) : Managed d (m >>= k) :=
  fun e stock truthful nodup => manages_bind (h e stock truthful nodup) later

/-- What goes on only if there was no failure. -/
theorem managed_continue {k : α → SamplerM β} (later : ∀ a, Managed d (k a).run)
    (r : Except Failure α) : Managed d (ExceptT.bindCont k r) := by
  cases r with
  | ok a => exact later a
  | error f => exact managed_pure (Except.error f)

theorem Managed.bindOk {m : SamplerM α} {k : α → SamplerM β} (h : Managed d m.run)
    (later : ∀ a, Managed d (k a).run) : Managed d (m >>= k).run :=
  h.bind (managed_continue later)

/-! ## Looking up -/

theorem run_withCatalog (p : CatalogM α) (e : Sampler) :
    (withCatalog p).run.run e =
      p.run.run e.catalog >>= fun x => .done (x.1.mapError .error, { e with catalog := x.2 }) := by
  unfold withCatalog
  rw [Procedure.run_bind_getOk]
  simp only [ExceptT.run_bind, StateT.run_bind, Procedure.run_liftOk, StateT.run_monadLift,
    monadLift_self, Procedure.bind_assoc, Procedure.pure_eq, Procedure.bind_done]
  refine congrArg _ (funext fun x => ?_)
  obtain ⟨r, catalog⟩ := x
  cases r <;> rfl

/-- What a sampler asks its catalog leaves the rest alone. -/
theorem withCatalog_managed {p : CatalogM α}
    (learns : ∀ agent, StepsLearn d.facts agent (fun _ => True) p.run) :
    Managed d (withCatalog p).run := by
  intro e stock truthful nodup
  rw [show (withCatalog p).run.run e = _ from run_withCatalog p e]
  refine ((learns e.agent e.catalog truthful).manages e.context stock).bind ?_
  rintro _ ⟨r, catalog⟩ ⟨rfl, -, truthful'⟩
  exact ⟨rfl, rfl, truthful', .refl _ _ nodup⟩

theorem supportedCounters_managed : Managed d supportedCounters.run :=
  withCatalog_managed fun _ => Catalog.describe_told.mono fun _ _ => trivial

theorem positionsOf_managed (r : Record) : Managed d (positionsOf r).run :=
  withCatalog_managed fun _ => (Catalog.positionsOf_learns r).mono fun _ _ => trivial

/-- What comes of a look-up in the cache. -/
theorem withCache_manages
    {lookup : ProfileCache → StateT Catalog Procedure (Except SamplerError α × ProfileCache)}
    {e : Sampler} {stock : Stock} {R : Except SamplerError α → Prop}
    (h : ((lookup e.cache).run e.catalog).Manages d e.context
      (fun stock' y => e.cache.Extends d e.agent y.1.2 stock stock' ∧
        y.2.Truthful d.facts e.agent ∧ R y.1.1) stock) :
    ((withCache lookup).run.run e).Manages d e.context
      (fun stock' y => e.Extends d y.2 stock stock' ∧
        ∃ r, R r ∧ y.1 = r.mapError .error) stock := by
  rw [run_withCache]
  refine h.bind ?_
  rintro stock' ⟨⟨r, cache⟩, catalog⟩ ⟨extends', truthful, holds⟩
  exact ⟨⟨rfl, rfl, truthful, extends'⟩, r, holds, rfl⟩

/-- Looking a set up fails just if the counters of the agent cannot be listed. -/
theorem profileSet_manages (counters : List String) {e : Sampler} {stock : Stock}
    (truthful : e.Truthful d) (nodup : stock.configs.Nodup) :
    ((profileSet counters).run.run e).Manages d e.context
      (fun stock' y => e.Extends d y.2 stock stock' ∧
        ∀ f, y.1 = .error f → ∃ cause, d.facts.listing e.agent = .error cause) stock := by
  rw [run_profileSet]
  have packed (key : List String) :
      ((Packer.pack ⟨e.agent, e.maxPerProfile⟩ key).run.run e.catalog).Manages d e.context _ stock :=
    Packer.pack_manages _ key nodup truthful
  have looked := e.cache.getOrCreateSet_manages counters nodup truthful packed
  refine (withCache_manages (R := fun r => ∀ e', r = .error e' →
    ∃ cause, d.facts.listing e.agent = .error cause) looked).mono ?_
  rintro stock' ⟨_, e'⟩ ⟨extends', r, fails, rfl⟩
  refine ⟨extends', fun f failed => ?_⟩
  cases r with
  | ok x => cases failed
  | error e => exact fails e rfl

theorem profileSet_managed (counters : List String) : Managed d (profileSet counters).run :=
  fun _ _ truthful nodup =>
    (profileSet_manages counters truthful nodup).mono fun _ _ managed => managed.1

/-- Building a single profile adds its configuration to the stock, and none if it fails. -/
theorem buildSingle_manages (agent : AgentId) (context : ContextId) (counters : List String)
    {c : Catalog} {stock : Stock} (truthful : c.Truthful d.facts agent)
    (nodup : stock.configs.Nodup) :
    ((buildSingle agent counters).run.run c).Manages d context
      (fun stock' y => stock <:+ stock' ∧ stock'.configs.Nodup ∧ y.2.Truthful d.facts agent ∧
        ∀ p, y.1 = .ok p → p.Stocked d agent stock' counters) stock := by
  have gathered := (gatherSingle_resolves agent counters c truthful).manages context stock
  rw [run_buildSingle]
  refine gathered.bind ?_
  rintro _ ⟨r, c'⟩ ⟨rfl, resolved, truthful'⟩
  cases r with
  | error e => exact ⟨List.suffix_refl _, nodup, truthful', nofun⟩
  | ok single =>
    obtain ⟨known, listing, items, sized⟩ := resolved single rfl
    rw [items] at sized
    refine ⟨trivial, fun outcome allowed => ?_⟩
    cases outcome with
    | capacityExceeded => exact ⟨List.suffix_refl _, nodup, truthful', nofun⟩
    | failed e => exact ⟨List.suffix_refl _, nodup, truthful', nofun⟩
    | configured config =>
      refine ⟨List.suffix_cons _ _, List.nodup_cons.2 ⟨allowed.fresh config rfl, nodup⟩,
        truthful', ?_⟩
      rintro p same
      obtain rfl := Except.ok.inj same
      have taken := allowed.tells.symm
      rw [items] at taken ⊢
      exact ⟨known, listing, ⟨rfl, Packer.resolve_known known counters, sized, taken⟩,
        List.mem_cons_self⟩

theorem single_managed (agent : AgentId) (counters : List String) :
    ∀ (e : Sampler) (stock : Stock), e.agent = agent → e.Truthful d → stock.configs.Nodup →
      ((withCache fun cache => cache.getOrCreateSingle counters fun names =>
        (buildSingle agent names).run).run.run e).Manages d e.context
          (fun stock' y => e.Extends d y.2 stock stock') stock := by
  rintro e stock rfl truthful nodup
  have built := buildSingle_manages e.agent e.context counters truthful nodup
  have looked : ((e.cache.getOrCreateSingle counters fun names =>
      (buildSingle e.agent names).run).run e.catalog).Manages d e.context _ stock :=
    e.cache.getOrCreateSingle_manages counters nodup truthful built
  refine (withCache_manages (R := fun _ => True) (looked.mono fun _ _ found =>
    ⟨found.1, found.2, trivial⟩)).mono ?_
  exact fun _ _ managed => managed.1

/-! ## Sampling -/

theorem runProfile_about (agent : AgentId) (context : ContextId) (p : Profile) :
    (runProfile agent context p).Ensures (Call.IsAbout context) fun _ => True := by
  have call (c : Call) (about : c.IsAbout context) :
      (Procedure.call c).Ensures (Call.IsAbout context) fun _ => True :=
    Procedure.ensures_call about
  refine (call (.bindConfig context p.config) rfl).bind fun bound _ => ?_
  cases bound with
  | error e => trivial
  | ok _ =>
    refine (call (.startContext context) rfl).bind fun started _ => ?_
    cases started with
    | error e => trivial
    | ok _ =>
      simp only [atStage]
      cases allocate p.expectedSize with
      | error e => trivial
      | ok buffer =>
        refine (call (.readRecords context buffer) rfl).bind fun read _ => ?_
        exact (call (.stopContext context) rfl).bind fun stopped _ => trivial

theorem sampleProfile_managed (p : Profile) : Managed d (sampleProfile p).run := by
  intro e stock truthful nodup
  rw [show (sampleProfile p).run.run e = _ from run_sampleProfile p e]
  refine ((runProfile_about e.agent e.context p).manages stock).bind ?_
  rintro _ r ⟨rfl, -⟩
  exact .refl truthful nodup

theorem nameOf_managed (r : Record) : Managed d (nameOf r).run := by
  intro e stock truthful nodup
  rw [show (nameOf r).run.run e = _ from run_nameOf r e]
  refine ((Catalog.nameOf_learns r e.catalog truthful).manages e.context stock).bind ?_
  rintro _ ⟨name, catalog⟩ ⟨rfl, -, truthful'⟩
  exact ⟨rfl, rfl, truthful', .refl _ _ nodup⟩

theorem addRecords_managed (values : NameMap Float) (rs : List Record) :
    Managed d (addRecords values rs).run := by
  induction rs generalizing values with
  | nil => exact managed_pure (Except.ok values)
  | cons r rs ih => exact (nameOf_managed r).bindOk fun name => ih _

theorem sampleProfiles_managed (values : NameMap Float) (ps : List Profile) :
    Managed d (sampleProfiles values ps).run := by
  induction ps generalizing values with
  | nil => exact managed_pure (Except.ok values)
  | cons p ps ih =>
    refine (sampleProfile_managed p).bindOk fun records => ?_
    exact (addRecords_managed values records).bindOk fun values => ih values

theorem sampleProfileSet_managed (set : ProfileSet) : Managed d (sampleProfileSet set).run :=
  sampleProfiles_managed .empty set.profiles

theorem sample_managed (counters : List String) : Managed d (sample counters).run := by
  refine (profileSet_managed counters).bindOk fun set => ?_
  refine (sampleProfileSet_managed set.value).bindOk fun values => ?_
  exact managed_pure (Except.ok _)

theorem sampleRecords_managed (counters : List String) :
    Managed d (sampleRecords counters).run := by
  intro e stock truthful nodup
  have looked := single_managed e.agent counters e stock rfl truthful nodup
  rw [show (sampleRecords counters).run.run e = _ from Procedure.run_bind_getOk _ e]
  exact manages_bind looked (managed_continue fun p => sampleProfile_managed p.value)

end Sampler

namespace Run

open Sampler (Managed managed_pure)

theorem attempt_managed (counters : List String) : Managed d (attempt counters) := by
  intro e stock truthful nodup
  rw [run_attempt]
  exact (Sampler.sample_managed counters e stock truthful nodup).bind fun _ _ managed => managed

theorem tries_managed (counters : List String) (more delay : Nat) :
    Managed d (tries counters more delay) := by
  induction more generalizing delay with
  | zero => exact attempt_managed counters
  | succ more ih =>
    refine Managed.bind (attempt_managed counters) fun outcome => ?_
    cases outcome with
    | ok a => exact managed_pure (Except.ok a)
    | error message => exact ih (nextPause delay)

/-- An agent's part of a run uses its sampler with proper calls only. -/
theorem task_managed (config : RunConfig) (a : AgentSampler) {stock : Stock}
    (truthful : a.sampler.Truthful d) (nodup : stock.configs.Nodup) :
    (task config a).Manages d a.sampler.context
      (fun stock' y => y.2.info = a.info ∧ a.sampler.Extends d y.2.sampler stock stock') stock := by
  rw [run_task]
  refine (tries_managed _ _ _ a.sampler stock truthful nodup).bind ?_
  exact fun _ _ managed => ⟨rfl, managed⟩

end Run

end CounterSampling
