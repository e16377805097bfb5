import CounterSampling.Proofs.Ownership.CacheGrowth
import CounterSampling.Proofs.Ownership.Gains

/-!
# What using a sampler does

Looking a set or a profile up may add an entry to the cache of a sampler, with its configurations.
Sampling what was looked up only binds, starts, reads, stops and asks for names, so however it ends,
it leaves the cache and the account alone.
-/

namespace CounterSampling.Sampler

/-- What using a sampler can do to it and to the account of the device. -/
structure Uses (e e' : Sampler) (a a' : Account) : Prop where
  context : e'.context = e.context
  grows : e.cache.Grows e'.cache a a'

variable {α β : Type} {d : Device} {o : Overlay} {x : List ConfigId × Device.State}

theorem contextCall_spares {c : Call} (h : c.isContextCall = true) : c.SparesAccount := by
  cases c <;> first | exact trivial | cases h

theorem sampleProfile_spares (p : Profile) :
    StepsOnly Call.SparesAccount besidesCatalog (sampleProfile p).run :=
  (sampleProfile_calls p).mono fun _ => contextCall_spares

theorem sampleProfiles_spares (values : NameMap Float) (ps : List Profile) :
    StepsOnly Call.SparesAccount besidesCatalog (sampleProfiles values ps).run := by
  apply (sampleProfiles_calls values ps).mono
  intro c made
  rcases made with contextCall | inquiry
  · exact contextCall_spares contextCall
  · exact inquiry.sparesAccount

/-! ## Looking up -/

/-- Building a single profile gains its configuration, and none if it fails. -/
theorem buildSingle_gains (agent : AgentId) (counters : List String) (c : Catalog)
    (sound : (accountOf x).Sound) :
    (accountOf x).Gains
      (accountOf (((buildSingle agent counters).run.run c).run (d.seenThrough o) x).2)
      (configsMade (fun p => [p.config])
        (((buildSingle agent counters).run.run c).run (d.seenThrough o) x).1.1) := by
  have gathered := ((gatherSingle_inquires {} counters).mono
    fun _ => Call.IsInquiry.sparesAccount).account_eq d o c x
  simp only [buildSingle, ExceptT.run_bind, StateT.run_bind, Procedure.run_bind]
  generalize ((gatherSingle {} counters).run.run c).run (d.seenThrough o) x = y at gathered ⊢
  obtain ⟨⟨gather, c'⟩, x'⟩ := y
  rw [← gathered] at sound ⊢
  cases gather with
  | error e => exact .refl sound
  | ok s =>
    have tried := d.seenThrough_tryConfigure o agent (s.items.map fun i => i.id) sound
    simp only [StateT.run_bind, Procedure.run_procedureOk, Procedure.run_bind, Procedure.run_done]
    generalize answered : (Procedure.call _).run (d.seenThrough o) x' = z
    rw [show (d.seenThrough o).answer _ x' = z from answered] at tried
    obtain ⟨outcome, x''⟩ := z
    rcases tried with ⟨taken, created⟩ | ⟨refused, same⟩
    · simp only at taken created
      subst taken
      change Account.Gains _ (accountOf x'') _
      rw [created]
      exact (Account.Gains.refl sound).create
    · cases outcome with
      | configured config => exact absurd rfl (refused config)
      | capacityExceeded =>
        change Account.Gains _ (accountOf x'') _
        rw [same]
        exact .refl sound
      | failed e =>
        change Account.Gains _ (accountOf x'') _
        rw [same]
        exact .refl sound

/-! ## Uses -/

/-- Whatever comes of some steps of a sampler, they are a use of it. -/
def IsUse (m : SamplerM α) : Prop :=
  ∀ (d : Device) (o : Overlay) (x : List ConfigId × Device.State) (e : Sampler),
    (accountOf x).Sound →
      e.Uses ((m.run.run e).run (d.seenThrough o) x).1.2 (accountOf x)
        (accountOf ((m.run.run e).run (d.seenThrough o) x).2)

theorem Uses.refl (e : Sampler) {a : Account} (sound : a.Sound) : e.Uses e a a :=
  ⟨rfl, .kept rfl (Nat.le_refl _) rfl (.refl sound)⟩

/-- Steps that spare the account can follow a use. -/
theorem Uses.followed {e e' : Sampler} {a : Account} {m : StateT Sampler Procedure α}
    (used : e.Uses e' a (accountOf x)) (spares : StepsOnly Call.SparesAccount besidesCatalog m) :
    e.Uses ((m.run e').run (d.seenThrough o) x).1.2 a
      (accountOf ((m.run e').run (d.seenThrough o) x).2) := by
  have same := (spares e').result (d.seenThrough o) x
  have account := spares.account_eq d o e' x
  generalize (m.run e').run (d.seenThrough o) x = y at same account ⊢
  have context : y.1.2.context = e'.context := congrArg (fun b => b.2.1) same
  have cache : y.1.2.cache = e'.cache := congrArg (fun b => b.2.2.1) same
  refine ⟨context.trans used.context, ?_⟩
  rw [cache, account]
  exact used.grows

theorem isUse_of_spares {m : SamplerM α}
    (spares : StepsOnly Call.SparesAccount besidesCatalog m.run) : IsUse m := by
  intro d o x e sound
  exact (Uses.refl e sound).followed spares

theorem IsUse.andThen {m : SamplerM α} {f : α → SamplerM β} (h : IsUse m)
    (spares : ∀ a, StepsOnly Call.SparesAccount besidesCatalog (f a).run) : IsUse (m >>= f) := by
  intro d o x e sound
  have used := h d o x e sound
  simp only [ExceptT.run_bind, StateT.run_bind, Procedure.run_bind]
  generalize (m.run.run e).run (d.seenThrough o) x = y at used ⊢
  obtain ⟨⟨r, e'⟩, x'⟩ := y
  cases r with
  | error e => exact used
  | ok a => exact used.followed (spares a)

theorem profileSet_isUse (counters : List String) : IsUse (profileSet counters) := by
  intro d o x e sound
  have grows := e.cache.getOrCreateSet_grows counters _ e.catalog sound
    fun key => Packer.pack_gains (d := d) (o := o) ⟨e.agent, e.maxPerProfile⟩ key e.catalog x sound
  rw [run_profileSet, run_withCache, Procedure.run_bind]
  exact ⟨rfl, grows⟩

theorem sample_isUse (counters : List String) : IsUse (sample counters) := by
  apply (profileSet_isUse counters).andThen
  intro set
  apply (sampleProfiles_spares .empty set.value.profiles).bindOk
  intro values
  exact stepsOnly_ok _

theorem single_isUse (agent : AgentId) (counters : List String) :
    IsUse (withCache fun cache => cache.getOrCreateSingle counters fun names =>
      (buildSingle agent names).run) := by
  intro d o x e sound
  have built := buildSingle_gains (d := d) (o := o) agent counters e.catalog sound
  have grows := e.cache.getOrCreateSingle_grows counters _ e.catalog sound built
  rw [run_withCache, Procedure.run_bind]
  exact ⟨rfl, grows⟩

theorem sampleRecords_isUse (counters : List String) : IsUse (sampleRecords counters) := by
  intro d o x e sound
  unfold sampleRecords
  rw [Procedure.run_bind_getOk]
  have spares := fun p : Shared Profile => sampleProfile_spares p.value
  exact (single_isUse e.agent counters).andThen spares d o x e sound

theorem sampleProfileSet_isUse (set : ProfileSet) : IsUse (sampleProfileSet set) :=
  isUse_of_spares (sampleProfiles_spares .empty set.profiles)

end CounterSampling.Sampler
