import CounterSampling.Proofs.Inquiries
import CounterSampling.Proofs.Packing.Resolved
import CounterSampling.Proofs.Results
import CounterSampling.Sampler

/-!
# Which calls a sampler makes

A sampler makes three kinds of calls. It inquires through its catalog, it builds profiles by trying
and releasing configurations, and it samples them by calls about its context. Looking profiles up
makes no calls about the context, and sampling them builds none.
-/

namespace CounterSampling

/-- The calls that bind, start, read or stop a context. -/
def Call.isContextCall : Call → Bool
  | .bindConfig _ _ => true
  | .startContext _ => true
  | .readRecords _ _ => true
  | .stopContext _ => true
  | _ => false

/-- The calls that building profiles takes. -/
def Call.Builds : Call → Prop
  | .tryConfigure _ _ => True
  | .destroyConfig _ => True
  | c => c.IsInquiry

theorem Call.IsInquiry.builds {c : Call} (h : c.IsInquiry) : c.Builds := by
  cases c with
  | tryConfigure agent ids => exact h.elim
  | destroyConfig config => exact h.elim
  | _ => exact h

theorem Call.Builds.not_isContextCall {c : Call} (h : c.Builds) : ¬c.isContextCall = true := by
  cases c with
  | bindConfig context config => exact h.elim
  | startContext context => exact h.elim
  | readRecords context buffer => exact h.elim
  | stopContext context => exact h.elim
  | _ => exact nofun

namespace Packer

theorem sizeOf?_inquires (id : CounterId) :
    StepsOnly Call.IsInquiry Catalog.agent (sizeOf? id) := by
  refine (Catalog.recordCountOf_inquires id).bind fun r => ?_
  cases r with
  | ok n => exact stepsOnly_pure _
  | error e => exact stepsOnly_pure _

theorem releasePrevious_builds (c : Candidate) :
    (releasePrevious c).Ensures Call.Builds fun _ => True := by
  unfold releasePrevious
  cases c.config with
  | none => exact trivial
  | some config => exact Procedure.ensures_call trivial

theorem tryAdd_builds (p : Packer) (r : Round) (i : Item) (total : Nat) :
    (p.tryAdd r i total).Ensures Call.Builds fun _ => True := by
  refine (Procedure.ensures_call trivial).bind fun outcome _ => ?_
  cases outcome with
  | configured config => exact (releasePrevious_builds r.candidate).bind fun _ _ => trivial
  | capacityExceeded => exact trivial
  | failed e => exact trivial

theorem consider_builds (p : Packer) (r : Round) (i : Item) :
    StepsOnly Call.Builds Catalog.agent (p.consider r i) := by
  unfold consider
  split
  · exact stepsOnly_pure _
  refine ((sizeOf?_inquires i.id).mono fun _ => Call.IsInquiry.builds).bind fun size => ?_
  cases size with
  | none => exact stepsOnly_pure _
  | some size =>
    cases sum : Word.add? r.candidate.size size with
    | none =>
      simp only [sum]
      exact stepsOnly_pure _
    | some total =>
      simp only [sum]
      exact stepsOnly_lift (p.tryAdd_builds r i total)

theorem round_builds (p : Packer) (r : Round) (items : List Item) :
    StepsOnly Call.Builds Catalog.agent (p.round r items) := by
  induction items generalizing r with
  | nil => exact stepsOnly_pure r
  | cons i is ih => exact (p.consider_builds r i).bind fun r => ih r

theorem rounds_builds (p : Packer) (fuel : Nat) (items : List Item) :
    StepsOnly Call.Builds Catalog.agent (p.rounds fuel items) := by
  induction fuel generalizing items with
  | zero => cases items <;> exact stepsOnly_pure _
  | succ fuel ih =>
    cases items with
    | nil => exact stepsOnly_pure _
    | cons i is =>
      refine (p.round_builds {} (i :: is)).bind fun r => ?_
      cases r.candidate.config with
      | none => exact stepsOnly_pure _
      | some config => exact (ih r.deferred).bind fun _ => stepsOnly_pure _

theorem pack_builds (p : Packer) (request : List String) :
    StepsOnly Call.Builds Catalog.agent (p.pack request).run := by
  rw [pack_eq]
  refine (Catalog.list_inquires.mono fun _ => Call.IsInquiry.builds).bindOk fun known => ?_
  exact (stepsOnly_liftOk (p.rounds_builds _ _)).bindOk fun _ => stepsOnly_ok _

end Packer

namespace ProfileCache

variable {α : Type}

/-- Finding something makes no calls, and making it those that the factory makes. -/
theorem getOrMake_builds (c : ProfileCache) (found : Option (Shared α))
    {make : StateT Catalog Procedure (Except SamplerError α)}
    (h : StepsOnly Call.Builds Catalog.agent make) (keep : ProfileCache → Shared α → ProfileCache) :
    StepsOnly Call.Builds Catalog.agent (c.getOrMake found make keep) := by
  unfold getOrMake
  cases found with
  | some x => exact stepsOnly_pure _
  | none =>
    refine h.bind fun made => ?_
    cases made with
    | ok a => exact stepsOnly_pure _
    | error e => exact stepsOnly_pure _

/-- The profiles in a cache. -/
def profiles (c : ProfileCache) : List Profile :=
  (c.sets.values.flatMap fun x => x.value.profiles) ++ c.singles.values.map fun x => x.value

/-- What a look-up gives stands among some entries of the cache afterwards, if what is found stands
there and what is made is kept there. -/
theorem getOrMake_kept (c : ProfileCache) (found : Option (Shared α))
    (make : StateT Catalog Procedure (Except SamplerError α))
    (keep : ProfileCache → Shared α → ProfileCache) (entries : ProfileCache → List (Shared α))
    (there : ∀ x, found = some x → x ∈ entries c.hit)
    (kept : found = none → ∀ x, x ∈ entries (keep c.miss x)) (catalog : Catalog) :
    ((c.getOrMake found make keep).run catalog).Ensures (fun _ => True) fun y =>
      ∀ x, y.1.1 = .ok x → x ∈ entries y.1.2 := by
  unfold getOrMake
  cases found with
  | some x =>
    intro x' same
    rw [← Except.ok.inj same]
    exact there x rfl
  | none =>
    refine (Procedure.ensures_any _).bind fun made _ => ?_
    obtain ⟨made, catalog'⟩ := made
    cases made with
    | ok a =>
      intro x same
      rw [← Except.ok.inj same]
      exact kept rfl _
    | error e => exact nofun

theorem getOrCreateSet_kept (c : ProfileCache) (counters : List String)
    (factory : List String → StateT Catalog Procedure (Except SamplerError ProfileSet))
    (catalog : Catalog) :
    ((c.getOrCreateSet counters factory).run catalog).Ensures (fun _ => True) fun y =>
      ∀ x, y.1.1 = .ok x → x ∈ y.1.2.sets.values := by
  apply c.getOrMake_kept _ _ _ fun c => c.sets.values
  · intro x found
    exact Table.mem_values_of_find? found
  · intro absent x
    exact (Table.perm_values_insert_absent absent x).mem_iff.2 List.mem_cons_self

theorem getOrCreateSingle_kept (c : ProfileCache) (counters : List String)
    (factory : List String → StateT Catalog Procedure (Except SamplerError Profile))
    (catalog : Catalog) :
    ((c.getOrCreateSingle counters factory).run catalog).Ensures (fun _ => True) fun y =>
      ∀ x, y.1.1 = .ok x → x ∈ y.1.2.singles.values := by
  apply c.getOrMake_kept _ _ _ fun c => c.singles.values
  · intro x found
    exact Table.mem_values_of_find? found
  · intro absent x
    exact (Table.perm_values_insert_absent absent x).mem_iff.2 List.mem_cons_self

end ProfileCache

namespace Sampler

/-- Whether something ended abnormally. -/
def aborted {α : Type} : Except Failure α → Bool
  | .error (.abort _) => true
  | _ => false

theorem aborted_error {α β : Type} (f : Failure) :
    aborted (.error f : Except Failure α) = aborted (.error f : Except Failure β) := by
  cases f <;> rfl

/-! ## Building -/

theorem gatherSingle_inquires (single : Single) (names : List String) :
    StepsOnly Call.IsInquiry Catalog.agent (gatherSingle single names).run := by
  induction names generalizing single with
  | nil => exact stepsOnly_ok single
  | cons name names ih =>
    refine (Catalog.lookup_inquires name).bindOk fun found => ?_
    cases found with
    | none => exact ih single
    | some id =>
      refine (Catalog.recordCountOf_inquires id).bindOk fun n => ?_
      cases Word.add? n single.size with
      | some size => exact ih _
      | none => exact stepsOnly_getOk.bindOk fun c => stepsOnly_throw _

theorem buildSingle_builds (agent : AgentId) (counters : List String) :
    StepsOnly Call.Builds Catalog.agent (buildSingle agent counters).run := by
  have gathers := gatherSingle_inquires {} counters
  refine (gathers.mono fun _ => Call.IsInquiry.builds).bindOk fun s => ?_
  refine (stepsOnly_liftOk (stepsOnly_lift (Procedure.ensures_call trivial))).bindOk fun r => ?_
  cases r with
  | configured config => exact stepsOnly_ok _
  | capacityExceeded => exact stepsOnly_throw _
  | failed e => exact stepsOnly_throw _

variable {α : Type}

theorem run_withCache
    (lookup : ProfileCache → StateT Catalog Procedure (Except SamplerError α × ProfileCache))
    (e : Sampler) :
    (withCache lookup).run.run e =
      (lookup e.cache).run e.catalog >>= fun x =>
        .done (x.1.1.mapError .error, { e with cache := x.1.2, catalog := x.2 }) := by
  unfold withCache
  rw [Procedure.run_bind_getOk]
  simp only [ExceptT.run_bind, StateT.run_bind, Procedure.run_liftOk, StateT.run_monadLift,
    monadLift_self, Procedure.bind_assoc, Procedure.pure_eq, Procedure.bind_done]
  refine congrArg _ (funext fun y => ?_)
  obtain ⟨⟨r, cache⟩, catalog⟩ := y
  cases r <;> rfl

theorem run_profileSet (counters : List String) (e : Sampler) :
    (profileSet counters).run.run e =
      (withCache fun cache => cache.getOrCreateSet counters fun key =>
        (Packer.pack ⟨e.agent, e.maxPerProfile⟩ key).run).run.run e := by
  unfold profileSet
  rw [Procedure.run_bind_getOk]

/-- A look-up changes nothing of a sampler but its catalog and its cache. -/
theorem withCache_builds
    {lookup : ProfileCache → StateT Catalog Procedure (Except SamplerError α × ProfileCache)}
    (h : ∀ cache, StepsOnly Call.Builds Catalog.agent (lookup cache)) :
    StepsOnly Call.Builds Sampler.context (withCache lookup).run := by
  intro e
  rw [run_withCache]
  exact (h e.cache e.catalog).bind fun x _ => rfl

theorem profileSet_builds (counters : List String) :
    StepsOnly Call.Builds Sampler.context (profileSet counters).run := by
  intro e
  rw [run_profileSet]
  exact withCache_builds (fun cache => cache.getOrMake_builds _ (Packer.pack_builds _ _) _) e

theorem single_builds (agent : AgentId) (counters : List String) :
    StepsOnly Call.Builds Sampler.context
      (withCache fun cache => cache.getOrCreateSingle counters fun names =>
        (buildSingle agent names).run).run :=
  withCache_builds fun cache => cache.getOrMake_builds _ (buildSingle_builds agent counters) _

/-- A look-up may fail, but it does not end abnormally. -/
theorem withCache_ends
    (lookup : ProfileCache → StateT Catalog Procedure (Except SamplerError α × ProfileCache))
    (e : Sampler) :
    ((withCache lookup).run.run e).Ensures (fun _ => True) fun y => aborted y.1 = false := by
  rw [run_withCache]
  refine (Procedure.ensures_any _).bind fun y _ => ?_
  obtain ⟨⟨r, cache⟩, catalog⟩ := y
  cases r <;> rfl

theorem profileSet_ends (counters : List String) (e : Sampler) :
    ((profileSet counters).run.run e).Ensures (fun _ => True) fun y => aborted y.1 = false := by
  rw [run_profileSet]
  exact withCache_ends _ e

/-- A set that a sampler gives stands in its cache. -/
theorem profileSet_kept (counters : List String) (e : Sampler) :
    ((profileSet counters).run.run e).Ensures (fun _ => True) fun y =>
      ∀ x, y.1 = .ok x → x ∈ y.2.cache.sets.values := by
  rw [run_profileSet, run_withCache]
  refine (e.cache.getOrCreateSet_kept counters _ e.catalog).bind fun y kept => ?_
  intro x same
  exact kept x (mapError_eq_ok.1 same)

theorem single_kept (agent : AgentId) (counters : List String) (e : Sampler) :
    ((withCache fun cache => cache.getOrCreateSingle counters fun names =>
      (buildSingle agent names).run).run.run e).Ensures (fun _ => True) fun y =>
        ∀ x, y.1 = .ok x → x ∈ y.2.cache.singles.values := by
  rw [run_withCache]
  refine (e.cache.getOrCreateSingle_kept counters _ e.catalog).bind fun y kept => ?_
  intro x same
  exact kept x (mapError_eq_ok.1 same)

/-! ## Sampling -/

/-- A sampler apart from what its catalog has learned. -/
def besidesCatalog (e : Sampler) : AgentId × ContextId × ProfileCache × Nat :=
  (e.agent, e.context, e.cache, e.maxPerProfile)

theorem run_nameOf (r : Record) (e : Sampler) :
    (nameOf r).run.run e =
      (Catalog.nameOf r).run e.catalog >>= fun x => .done (.ok x.1, { e with catalog := x.2 }) := by
  simp only [nameOf, ExceptT.run_bind, StateT.run_bind]
  simp

/-- Add records to the values of their counters, each under a given name. -/
def addAll (values : NameMap Float) (named : List (String × Record)) : NameMap Float :=
  named.foldl (fun values x => addValue values x.1 x.2.value) values

/-- The value of a name comes of the records of that name only. -/
theorem find?_addAll (values : NameMap Float) (named : List (String × Record)) (name : String) :
    (addAll values named).find? name =
      (named.filter fun x => decide (x.1 = name)).foldl
        (fun v x => some (v.getD 0.0 + x.2.value)) (values.find? name) := by
  induction named generalizing values with
  | nil => rfl
  | cons x named ih =>
    change (addAll (addValue values x.1 x.2.value) named).find? name = _
    rw [ih, addValue, NameMap.find?_alter]
    by_cases same : x.1 = name
    · rw [List.filter_cons_of_pos (by simpa using same), if_pos same, List.foldl_cons, same]
    · rw [List.filter_cons_of_neg (by simpa using same), if_neg same]

/-- Adding records only asks for names, and it always succeeds. -/
theorem addRecords_ensures (values : NameMap Float) (rs : List Record) (e : Sampler) :
    ((addRecords values rs).run.run e).Ensures Call.IsNaming fun x =>
      besidesCatalog x.2 = besidesCatalog e ∧
        ∃ names : List String, names.length = rs.length ∧
          x.1 = .ok (addAll values (names.zip rs)) := by
  induction rs generalizing values e with
  | nil => exact ⟨rfl, [], rfl, rfl⟩
  | cons r rs ih =>
    have named : (addRecords values (r :: rs)).run.run e =
        (Catalog.nameOf r).run e.catalog >>= fun x =>
          (addRecords (addValue values x.1 r.value) rs).run.run { e with catalog := x.2 } := by
      simp only [addRecords, ExceptT.run_bind, StateT.run_bind, run_nameOf]
      rw [Procedure.bind_assoc]
      rfl
    rw [named]
    refine (Catalog.nameOf_names r e.catalog).bind fun x _ => ?_
    refine (ih _ _).mono (fun _ => id) fun y => ?_
    rintro ⟨same, names, length, result⟩
    exact ⟨same, x.1 :: names, congrArg Nat.succ length, result⟩

theorem addRecords_names (values : NameMap Float) (rs : List Record) :
    StepsOnly Call.IsNaming besidesCatalog (addRecords values rs).run := by
  intro e
  exact (addRecords_ensures values rs e).mono (fun _ => id) fun y added => added.1

theorem addRecords_inquires (values : NameMap Float) (rs : List Record) :
    StepsOnly Call.IsInquiry besidesCatalog (addRecords values rs).run :=
  (addRecords_names values rs).mono fun _ => Call.IsNaming.isInquiry

/-- Whether no buffer is large enough for the records of a profile. -/
def TooLarge (p : Profile) : Prop :=
  maxBufferBytes < Record.bytes * p.expectedSize

theorem recordsRead_ends (agent : AgentId) {buffer : List Record} (read : ReadAnswer buffer)
    (stopped : Except BackendError Unit) : aborted (recordsRead agent read stopped) = false := by
  unfold recordsRead
  cases read.count with
  | error e => rfl
  | ok n => cases stopped <;> rfl

/-- Sampling a profile makes calls about the context only, and it ends abnormally only for want of a
buffer. -/
theorem runProfile_calls (agent : AgentId) (context : ContextId) (p : Profile) :
    (runProfile agent context p).Ensures (fun c => c.isContextCall = true) fun r =>
      aborted r = true → TooLarge p := by
  have call (c : Call) (h : c.isContextCall = true) :
      (Procedure.call c).Ensures (fun c => c.isContextCall = true) fun _ => True :=
    Procedure.ensures_call h
  refine (call (.bindConfig context p.config) rfl).bind fun bound _ => ?_
  cases bound with
  | error e => exact nofun
  | ok _ =>
    refine (call (.startContext context) rfl).bind fun started _ => ?_
    cases started with
    | error e => exact nofun
    | ok _ =>
      by_cases fits : Record.bytes * p.expectedSize ≤ maxBufferBytes
      · rw [allocate, if_pos fits]
        refine (call (.readRecords context _) rfl).bind fun read _ => ?_
        refine (call (.stopContext context) rfl).bind fun stopped _ => ?_
        intro ended
        rw [recordsRead_ends] at ended
        cases ended
      · rw [allocate, if_neg fits]
        intro _
        exact Nat.lt_of_not_le fits

theorem run_sampleProfile (p : Profile) (e : Sampler) :
    (sampleProfile p).run.run e = runProfile e.agent e.context p >>= fun r => .done (r, e) := by
  unfold sampleProfile
  rw [Procedure.run_bind_getOk]
  rfl

theorem sampleProfile_calls (p : Profile) :
    StepsOnly (fun c => c.isContextCall = true) besidesCatalog (sampleProfile p).run :=
  stepsOnly_getOk.bindOk fun e => stepsOnly_lift (runProfile_calls e.agent e.context p)

/-- Sampling profiles makes calls about the context and asks for names. -/
theorem sampleProfiles_reads (values : NameMap Float) (ps : List Profile) :
    StepsOnly (fun c => c.isContextCall = true ∨ c.IsNaming) besidesCatalog
      (sampleProfiles values ps).run := by
  induction ps generalizing values with
  | nil => exact stepsOnly_ok values
  | cons p ps ih =>
    refine ((sampleProfile_calls p).mono fun _ => .inl).bindOk fun records => ?_
    exact ((addRecords_names values records).mono fun _ => .inr).bindOk fun values => ih values

theorem sampleProfiles_calls (values : NameMap Float) (ps : List Profile) :
    StepsOnly (fun c => c.isContextCall = true ∨ c.IsInquiry) besidesCatalog
      (sampleProfiles values ps).run :=
  (sampleProfiles_reads values ps).mono fun _ => Or.imp_right Call.IsNaming.isInquiry

/-- Sampling profiles ends abnormally only if one of them is too large. -/
theorem sampleProfiles_ends (values : NameMap Float) (ps : List Profile) (e : Sampler) :
    ((sampleProfiles values ps).run.run e).Ensures (fun _ => True) fun y =>
      aborted y.1 = true → ∃ p ∈ ps, TooLarge p := by
  induction ps generalizing values e with
  | nil => exact nofun
  | cons p ps ih =>
    unfold sampleProfiles
    apply ensures_bindOk
    rw [run_sampleProfile]
    refine ((runProfile_calls e.agent e.context p).mono (fun _ _ => trivial) fun _ => id).bind ?_
    intro r large
    cases r with
    | error f => exact fun ended => ⟨p, List.mem_cons_self, large (aborted_error f ▸ ended)⟩
    | ok records =>
      apply ensures_bindOk
      refine (addRecords_ensures values records e).mono (fun _ _ => trivial) fun y => ?_
      rintro ⟨-, names, -, added⟩
      rw [added]
      refine (ih _ _).mono (fun _ => id) fun z later ended => ?_
      obtain ⟨p', mem, large⟩ := later ended
      exact ⟨p', List.mem_cons_of_mem p mem, large⟩

end Sampler

end CounterSampling
