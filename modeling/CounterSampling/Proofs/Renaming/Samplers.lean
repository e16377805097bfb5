import CounterSampling.Proofs.Renaming.Procedures
import CounterSampling.Proofs.Runs.Attempts

/-!
# Samplers never look at the numbers of configurations

A sampler hands the numbers of configurations on and does nothing else with them. So if the
configurations it keeps, and those that it is given, are numbered otherwise, it makes the
corresponding calls and all its results stay the same. Main statement: `task_renames`.
-/

namespace CounterSampling

variable {f : ConfigId → ConfigId} {α : Type}

def Profile.rename (f : ConfigId → ConfigId) (p : Profile) : Profile :=
  { p with config := f p.config }

def ProfileSet.rename (f : ConfigId → ConfigId) (s : ProfileSet) : ProfileSet :=
  { s with profiles := s.profiles.map (Profile.rename f) }

/-- A cache in which configurations have other numbers. -/
def ProfileCache.rename (f : ConfigId → ConfigId) (c : ProfileCache) : ProfileCache :=
  { c with
    sets := c.sets.map (Shared.map (ProfileSet.rename f))
    singles := c.singles.map (Shared.map (Profile.rename f)) }

def Sampler.rename (f : ConfigId → ConfigId) (e : Sampler) : Sampler :=
  { e with cache := e.cache.rename f }

def AgentSampler.rename (f : ConfigId → ConfigId) (a : AgentSampler) : AgentSampler :=
  { a with sampler := a.sampler.rename f }

/-! ## Packing -/

namespace Packer

def Candidate.rename (f : ConfigId → ConfigId) (c : Candidate) : Candidate :=
  { c with config := c.config.map f }

def Round.rename (f : ConfigId → ConfigId) (r : Round) : Round :=
  { r with candidate := r.candidate.rename f }

theorem releasePrevious_renames (c : Candidate) :
    (releasePrevious c).Renames f id (releasePrevious (c.rename f)) := by
  unfold releasePrevious Candidate.rename
  cases c.config with
  | none => rfl
  | some config => exact Procedure.renames_call (.destroyConfig config)

theorem tryAdd_renames (p : Packer) (r : Round) (i : Item) (total : Nat) :
    (p.tryAdd r i total).Renames f (Round.rename f) (p.tryAdd (r.rename f) i total) := by
  unfold tryAdd
  refine (Procedure.renames_call (.tryConfigure p.agent _)).bind fun outcome => ?_
  cases outcome with
  | configured config => exact (releasePrevious_renames r.candidate).bind fun _ => rfl
  | capacityExceeded => rfl
  | failed e => rfl

theorem consider_renames (p : Packer) (r : Round) (i : Item) :
    StepsRename f id (Round.rename f) (p.consider r i) (p.consider (r.rename f) i) := by
  unfold consider
  by_cases full : p.maxPerProfile ≤ r.candidate.members.length
  · rw [if_pos full, if_pos (show _ ≤ (r.rename f).candidate.members.length from full)]
    exact stepsRename_pure (Round.rename f) (r.defer i)
  rw [if_neg full, if_neg (show ¬_ ≤ (r.rename f).candidate.members.length from full)]
  refine (sizeOf?_inquires i.id).renames.bind fun size => ?_
  cases size with
  | none => exact stepsRename_pure (Round.rename f) (r.defer i)
  | some size =>
    have same : (r.rename f).candidate.size = r.candidate.size := rfl
    simp only [id_eq, same]
    cases Word.add? r.candidate.size size with
    | none => exact stepsRename_pure (Round.rename f) (r.defer i)
    | some total => exact stepsRename_lift (p.tryAdd_renames r i total)

theorem round_renames (p : Packer) (r : Round) (items : List Item) :
    StepsRename f id (Round.rename f) (p.round r items) (p.round (r.rename f) items) := by
  induction items generalizing r with
  | nil => exact stepsRename_pure (Round.rename f) r
  | cons i is ih => exact (p.consider_renames r i).bind fun r => ih r

theorem rounds_renames (p : Packer) (fuel : Nat) (items : List Item) :
    StepsRename f id (Prod.map (List.map (Profile.rename f)) id) (p.rounds fuel items)
      (p.rounds fuel items) := by
  induction fuel generalizing items with
  | zero => cases items <;> exact stepsRename_pure (Prod.map (List.map (Profile.rename f)) id) _
  | succ fuel ih =>
    cases items with
    | nil => exact stepsRename_pure (Prod.map (List.map (Profile.rename f)) id) ([], [])
    | cons i is =>
      refine (p.round_renames {} (i :: is)).bind fun r => ?_
      have same : (r.rename f).candidate.config = r.candidate.config.map f := rfl
      have left : (r.rename f).deferred = r.deferred := rfl
      simp only [same, left]
      cases r.candidate.config with
      | none => exact stepsRename_pure (Prod.map (List.map (Profile.rename f)) id) ([], _)
      | some config =>
        refine (ih r.deferred).bind fun packed => ?_
        exact stepsRename_pure (Prod.map (List.map (Profile.rename f)) id)
          (r.candidate.profile config :: packed.1, packed.2)

theorem pack_renames (p : Packer) (request : List String) :
    StepsRename f id (Except.map (ProfileSet.rename f)) (p.pack request).run
      (p.pack request).run := by
  have listed : StepsRename f id (Except.map id) Catalog.list.run Catalog.list.run := by
    rw [show (Except.map id : Except SamplerError (NameMap CounterId) → _) = id from
      funext fun r => by cases r <;> rfl]
    exact Catalog.list_inquires.renames
  rw [pack_eq]
  refine listed.bindOk fun known => ?_
  refine (stepsRename_liftOk (p.rounds_renames _ _)).bindOk fun packed => ?_
  exact stepsRename_ok (ProfileSet.rename f) ⟨packed.1, _, packed.2⟩

end Packer

/-! ## Looking up -/

namespace ProfileCache

/-- A look-up that finds or makes things that differ by a renaming leaves caches that do. -/
theorem getOrMake_renames {g : α → α} (c : ProfileCache) (found : Option (Shared α))
    {make : StateT Catalog Procedure (Except SamplerError α)}
    (made : StepsRename f id (Except.map g) make make)
    (keep : ProfileCache → Shared α → ProfileCache)
    (kept : ∀ x, (keep c.miss x).rename f = keep (c.rename f).miss (x.map g)) :
    StepsRename f id (Prod.map (Except.map (Shared.map g)) (rename f))
      (c.getOrMake found make keep) ((c.rename f).getOrMake (found.map (Shared.map g)) make keep) := by
  unfold getOrMake
  cases found with
  | some x => exact stepsRename_pure _ (Except.ok x, c.hit)
  | none =>
    refine made.bind fun made => ?_
    cases made with
    | error e => exact stepsRename_pure _ (Except.error e, c.miss)
    | ok a =>
      intro t
      exact congrArg (fun cache => Procedure.done ((_, cache), t)) (kept (c.miss.share a)).symm

theorem keepSet_rename (c : ProfileCache) (key : List String) (x : Shared ProfileSet) :
    (keepSet key c x).rename f = keepSet key (c.rename f) (x.map (ProfileSet.rename f)) := by
  simp [keepSet, rename]

theorem getOrCreateSet_renames (c : ProfileCache) (counters : List String)
    {factory : List String → StateT Catalog Procedure (Except SamplerError ProfileSet)}
    (made : ∀ key, StepsRename f id (Except.map (ProfileSet.rename f)) (factory key) (factory key)) :
    StepsRename f id (Prod.map (Except.map (Shared.map (ProfileSet.rename f))) (rename f))
      (c.getOrCreateSet counters factory) ((c.rename f).getOrCreateSet counters factory) := by
  have found : (c.rename f).sets.find? (setKey counters) =
      (c.sets.find? (setKey counters)).map (Shared.map (ProfileSet.rename f)) :=
    Table.find?_map _ _ _
  simp only [getOrCreateSet, found]
  exact c.getOrMake_renames _ (made _) _ fun x => c.miss.keepSet_rename _ x

end ProfileCache

namespace Sampler

/-- What a look-up gives when the sampler's configurations have other numbers. -/
theorem withCache_renames {g : α → α}
    {lookup : ProfileCache → StateT Catalog Procedure (Except SamplerError α × ProfileCache)}
    (same : ∀ c, StepsRename f id (Prod.map (Except.map g) (ProfileCache.rename f)) (lookup c)
      (lookup (c.rename f))) :
    StepsRename f (rename f) (Except.map g) (withCache lookup).run (withCache lookup).run := by
  intro e
  rw [run_withCache, run_withCache]
  refine (same e.cache e.catalog).bind fun y => ?_
  obtain ⟨⟨r, cache⟩, catalog⟩ := y
  cases r <;> rfl

theorem profileSet_renames (counters : List String) :
    StepsRename f (rename f) (Except.map (Shared.map (ProfileSet.rename f)))
      (profileSet counters).run (profileSet counters).run := by
  intro e
  rw [run_profileSet, run_profileSet]
  have packed (key : List String) :=
    (Packer.mk e.agent e.maxPerProfile).pack_renames (f := f) key
  exact withCache_renames (fun c => c.getOrCreateSet_renames counters packed) e

/-! ## Sampling -/

/-- The records of a profile do not depend on the number of its configuration. -/
theorem runProfile_renames (agent : AgentId) (context : ContextId) (p : Profile) :
    (runProfile agent context p).Renames f id (runProfile agent context (p.rename f)) := by
  refine (Procedure.renames_call (.bindConfig context p.config)).bind fun bound => ?_
  cases bound with
  | error e => rfl
  | ok _ =>
    refine (Procedure.renames_call (.startContext context)).bind fun started => ?_
    cases started with
    | error e => rfl
    | ok _ =>
      have size : (p.rename f).expectedSize = p.expectedSize := rfl
      simp only [atStage, Call.renameAnswer, size]
      cases allocate p.expectedSize with
      | error e => rfl
      | ok buffer =>
        refine (Procedure.renames_call (.readRecords context buffer)).bind fun read => ?_
        exact (Procedure.renames_call (.stopContext context)).bind fun stopped => rfl

theorem sampleProfile_renames (p : Profile) :
    StepsRename f (rename f) (Except.map id) (sampleProfile p).run
      (sampleProfile (p.rename f)).run := by
  intro e
  rw [show (sampleProfile p).run.run e = _ from run_sampleProfile p e]
  rw [show (sampleProfile (p.rename f)).run.run (e.rename f) = _ from
    run_sampleProfile (p.rename f) (e.rename f)]
  refine (runProfile_renames e.agent e.context p).bind fun r => ?_
  cases r <;> rfl

/-- What only inquires does the same on a sampler that is renamed. -/
theorem addRecords_renames (values : NameMap Float) (rs : List Record) :
    StepsRename f (rename f) (Except.map id) (addRecords values rs).run
      (addRecords values rs).run := by
  induction rs generalizing values with
  | nil => exact stepsRename_ok id values
  | cons r rs ih =>
    have named : StepsRename f (rename f) (Except.map id) (nameOf r).run (nameOf r).run := by
      intro e
      rw [show (nameOf r).run.run e = _ from run_nameOf r e]
      rw [show (nameOf r).run.run (e.rename f) = _ from run_nameOf r (e.rename f)]
      exact (Catalog.nameOf_inquires r e.catalog).renames.bind fun x => rfl
    exact named.bindOk fun name => ih _

theorem sampleProfiles_renames (values : NameMap Float) (ps : List Profile) :
    StepsRename f (rename f) (Except.map id) (sampleProfiles values ps).run
      (sampleProfiles values (ps.map (Profile.rename f))).run := by
  induction ps generalizing values with
  | nil => exact stepsRename_ok id values
  | cons p ps ih =>
    refine (sampleProfile_renames p).bindOk fun records => ?_
    exact (addRecords_renames values records).bindOk fun values => ih values

theorem sample_renames (counters : List String) :
    StepsRename f (rename f) (Except.map id) (sample counters).run (sample counters).run := by
  refine (profileSet_renames counters).bindOk fun set => ?_
  refine (sampleProfiles_renames .empty set.value.profiles).bindOk fun values => ?_
  have size : (set.map (ProfileSet.rename f)).value.size = set.value.size := List.length_map _
  intro e
  change Procedure.done _ = Procedure.done _
  simp only [size]
  rfl

end Sampler

/-! ## Tasks -/

namespace Run

theorem attempt_renames (counters : List String) :
    StepsRename f (Sampler.rename f) id (attempt counters) (attempt counters) := by
  intro e
  rw [run_attempt, run_attempt]
  refine (Sampler.sample_renames counters e).bind fun y => ?_
  obtain ⟨r, e'⟩ := y
  cases r <;> rfl

theorem tries_renames (counters : List String) (more delay : Nat) :
    StepsRename f (Sampler.rename f) id (tries counters more delay) (tries counters more delay) := by
  induction more generalizing delay with
  | zero => exact attempt_renames counters
  | succ more ih =>
    intro e
    rw [run_tries_succ, run_tries_succ]
    refine (attempt_renames counters e).bind fun y => ?_
    obtain ⟨outcome, e'⟩ := y
    cases outcome with
    | ok a => rfl
    | error message => exact ih (nextPause delay) e'

/-- An agent's part of a run comes to the same whatever numbers configurations have. -/
theorem task_renames (config : RunConfig) (a : AgentSampler) :
    (task config a).Renames f (fun y => (y.1, y.2.rename f)) (task config (a.rename f)) := by
  rw [run_task, run_task]
  exact (tries_renames _ _ _ a.sampler).bind fun y => rfl

end Run

end CounterSampling
