import CounterSampling.Proofs.Ownership.Samplers
import CounterSampling.Session.Steps

/-!
# Samplers and kept sets of a session

A caller creates samplers, uses them, keeps some of the sets they give and lets go of samplers and
sets in any order. After each of these steps the live configurations are those that the samplers and
the kept sets still hold, and no configuration is ever released twice.
-/

namespace CounterSampling

variable {α : Type}

theorem ProfileCache.holds_iff (c : ProfileCache) (owner serial : Nat) :
    c.holds owner serial = true ↔ ∃ x ∈ c.holdings, x.owner = owner ∧ x.serial = serial := by
  simp only [holds, holdings, Bool.or_eq_true, List.any_eq_true, Bool.and_eq_true, beq_iff_eq,
    List.mem_append, List.mem_map]
  constructor
  · rintro (⟨x, mem, same⟩ | ⟨x, mem, same⟩)
    · exact ⟨x.setHolding, .inl ⟨x, mem, rfl⟩, same⟩
    · exact ⟨x.profileHolding, .inr ⟨x, mem, rfl⟩, same⟩
  · rintro ⟨_, ⟨x, mem, rfl⟩ | ⟨x, mem, rfl⟩, same⟩
    · exact .inl ⟨x, mem, same⟩
    · exact .inr ⟨x, mem, same⟩

/-- Creating a sampler opens the next context for it or changes nothing. -/
theorem Sampler.new_opens (agent : AgentId) (owner maxPerProfile : Nat) (d : Device) (o : Overlay)
    (x : List ConfigId × Device.State) (sound : (accountOf x).Sound) :
    let y := (Sampler.new agent owner maxPerProfile).run (d.seenThrough o) x
    (∃ e, y.1 = .ok e ∧ e.cache = .new owner ∧ e.context = ⟨x.2.nextContext⟩ ∧
      accountOf y.2 = (accountOf x).openContext) ∨
    ((∃ err, y.1 = .error err) ∧ accountOf y.2 = accountOf x) := by
  have created := d.seenThrough_createContext o agent sound
  unfold Sampler.new
  rw [Procedure.run_bind]
  generalize answered : (Procedure.call _).run (d.seenThrough o) x = y
  rw [show (d.seenThrough o).answer _ x = y from answered] at created
  obtain ⟨answer, x'⟩ := y
  rcases created with ⟨taken, opened⟩ | ⟨⟨err, refused⟩, same⟩
  · simp only at taken
    subst taken
    exact .inl ⟨_, rfl, rfl, rfl, opened⟩
  · simp only at refused
    subst refused
    exact .inr ⟨⟨_, rfl⟩, same⟩

namespace Session

def account (s : Session) : Account := accountOf (s.released, s.state)

/-- The kept sets as far as their configurations go. -/
def keptHoldings (s : Session) : List Holding := s.sets.values.map Shared.setHolding

/-- The configurations of the profiles that samplers and kept sets hold. Something held in several
places counts once. -/
def heldConfigs (s : Session) : List ConfigId :=
  (distinct (heldBy s.samplers.values s.keptHoldings)).flatMap Shared.value

/-- Only samplers and kept sets hold configurations. -/
structure SamplersOnly (s : Session) : Prop where
  caches : s.caches.values = []
  registries : s.registries.values = []
  profiles : s.profiles.values = []

theorem holds_iff {s : Session} (only : s.SamplersOnly) (owner serial : Nat) :
    s.holds owner serial = true ↔
      ∃ x ∈ heldBy s.samplers.values s.keptHoldings, x.owner = owner ∧ x.serial = serial := by
  simp only [holds, samplerCaches, only.caches, only.registries, only.profiles, List.flatMap_nil,
    List.append_nil, List.nil_append, List.any_nil, Bool.or_false, Bool.or_eq_true,
    List.any_eq_true, Bool.and_eq_true, beq_iff_eq, List.mem_map, heldBy, List.mem_append,
    List.mem_flatMap, keptHoldings]
  constructor
  · rintro (⟨_, ⟨e, mem, rfl⟩, held⟩ | ⟨x, mem, same⟩)
    · obtain ⟨x, mem', same⟩ := (e.cache.holds_iff owner serial).1 held
      exact ⟨x, .inl ⟨e, mem, mem'⟩, same⟩
    · exact ⟨x.setHolding, .inr ⟨x, mem, rfl⟩, same⟩
  · rintro ⟨_, ⟨e, mem, mem'⟩ | ⟨x, mem, rfl⟩, same⟩
    · exact .inl ⟨e.cache, ⟨e, mem, rfl⟩, (e.cache.holds_iff owner serial).2 ⟨_, mem', same⟩⟩
    · exact .inr ⟨x, mem, same⟩

/-- Within a step: the samplers and holdings account for what is live, whether they stand in the
tables of the session or in the hands of the caller. -/
structure Keeps (others : List ContextId) (s : Session) (samplers : List Sampler)
    (kept : List Holding) : Prop where
  accounted : Accounted others samplers kept s.nextOwner s.account
  only : s.SamplersOnly

/-- Between steps everything stands in the tables. -/
def Balanced (others : List ContextId) (s : Session) : Prop :=
  s.Keeps others s.samplers.values s.keptHoldings

variable {others : List ContextId} {s : Session}

/-- A sampler that no table has any more is closed. -/
theorem letGoSampler_balanced {e : Sampler}
    (h : s.Keeps others (e :: s.samplers.values) s.keptHoldings) :
    ((letGoSampler e).run s).2.Balanced others :=
  ⟨h.accounted.closed (holds_iff h.only), h.only.caches, h.only.registries, h.only.profiles⟩

/-- A set that no table has any more is let go of. -/
theorem letGoSet_balanced {x : Shared ProfileSet}
    (h : s.Keeps others s.samplers.values (x.setHolding :: s.keptHoldings)) :
    ((letGoSet x).run s).2.Balanced others := by
  have dropped := h.accounted.letGo (d := s.device) (o := s.overlay) (holds_iff h.only)
  simp only [letGoSet, letGo, StateT.run_bind, StateT.run_get, pure_bind]
  cases held : s.holds x.owner x.serial with
  | true =>
    rw [show s.holds x.setHolding.owner x.setHolding.serial = true from held] at dropped
    exact ⟨dropped, h.only⟩
  | false =>
    rw [show s.holds x.setHolding.owner x.setHolding.serial = false from held] at dropped
    exact ⟨dropped, h.only.caches, h.only.registries, h.only.profiles⟩

/-- A sampler in the hands of the caller is put under a name. -/
theorem keepSampler_balanced {e : Sampler} (name : String)
    (h : s.Keeps others (e :: s.samplers.values) s.keptHoldings) :
    ((samplerShelf.keep name e).run s).2.Balanced others := by
  rw [run_keep]
  cases found : s.samplers.find? name with
  | none =>
    rw [show (samplerShelf.read s).find? name = none from found]
    have written := Table.perm_values_insert_absent found e
    exact ⟨h.accounted.perm written, h.only.caches, h.only.registries, h.only.profiles⟩
  | some old =>
    rw [show (samplerShelf.read s).find? name = some old from found]
    apply letGoSampler_balanced
    have written := Table.perm_values_insert_found found e
    exact ⟨h.accounted.perm written, h.only.caches, h.only.registries, h.only.profiles⟩

/-- A set in the hands of the caller is put under a name or let go of. -/
theorem keepSet_balanced {x : Shared ProfileSet} (keep : Option String)
    (h : s.Keeps others s.samplers.values (x.setHolding :: s.keptHoldings)) :
    ((keepOrLetGo setShelf keep x).run s).2.Balanced others := by
  cases keep with
  | none => exact letGoSet_balanced h
  | some name =>
    change ((setShelf.keep name x).run s).2.Balanced others
    rw [run_keep]
    cases found : s.sets.find? name with
    | none =>
      rw [show (setShelf.read s).find? name = none from found]
      have written := Table.perm_values_insert_absent found x
      have kept := h.accounted.permKept (written.map Shared.setHolding)
      exact ⟨kept, h.only.caches, h.only.registries, h.only.profiles⟩
    | some old =>
      rw [show (setShelf.read s).find? name = some old from found]
      apply letGoSet_balanced
      have written := Table.perm_values_insert_found found x
      have kept := h.accounted.permKept (written.map Shared.setHolding)
      exact ⟨kept, h.only.caches, h.only.registries, h.only.profiles⟩

theorem dropSampler_balanced (name : String) (h : s.Balanced others) :
    ((samplerShelf.drop name).run s).2.Balanced others := by
  rw [run_drop]
  cases found : s.samplers.find? name with
  | none =>
    rw [show (samplerShelf.read s).find? name = none from found]
    exact h
  | some old =>
    rw [show (samplerShelf.read s).find? name = some old from found]
    apply letGoSampler_balanced
    have there := h.accounted.perm (Table.perm_values found).symm
    exact ⟨there, h.only.caches, h.only.registries, h.only.profiles⟩

theorem dropSet_balanced (name : String) (h : s.Balanced others) :
    ((setShelf.drop name).run s).2.Balanced others := by
  rw [run_drop]
  cases found : s.sets.find? name with
  | none =>
    rw [show (setShelf.read s).find? name = none from found]
    exact h
  | some old =>
    rw [show (setShelf.read s).find? name = some old from found]
    apply letGoSet_balanced
    have there := h.accounted.permKept ((Table.perm_values found).symm.map Shared.setHolding)
    exact ⟨there, h.only.caches, h.only.registries, h.only.profiles⟩

theorem newSampler_balanced (name : String) (agent : AgentId) (maxPerProfile : Nat)
    (h : s.Balanced others) :
    ((newSampler name agent maxPerProfile).run.run s).2.Balanced others := by
  have sound := h.accounted.custody.sound
  have made := Sampler.new_opens agent s.nextOwner maxPerProfile s.device s.overlay _ sound
  rw [run_newSampler, run_perform]
  generalize ran : (Sampler.new agent s.nextOwner maxPerProfile).run
    (backend { s with nextOwner := s.nextOwner + 1 }).notingReleases (s.released, s.state) = y
  rw [show (Sampler.new agent s.nextOwner maxPerProfile).run (s.device.seenThrough s.overlay)
    (s.released, s.state) = y from ran] at made
  obtain ⟨r, x⟩ := y
  have account' : s.account = accountOf (s.released, s.state) := rfl
  rcases made with ⟨e, ok, cache, context, account⟩ | ⟨⟨err, error⟩, account⟩
  · simp only at ok account
    subst ok
    apply keepSampler_balanced name
    have opened := h.accounted.opened cache context
    rw [account', ← account] at opened
    exact ⟨opened, h.only.caches, h.only.registries, h.only.profiles⟩
  · simp only at error account
    subst error
    have later := h.accounted.later (Nat.le_succ _)
    rw [account', ← account] at later
    exact ⟨later, h.only.caches, h.only.registries, h.only.profiles⟩

theorem withSampler_balanced (name : String) {p : SamplerM α} (use : Sampler.IsUse p)
    (h : s.Balanced others) : ((withSampler name p).run.run s).2.Balanced others := by
  rw [run_withSampler]
  cases found : s.samplers.find? name with
  | none => exact h
  | some e =>
    have there := h.accounted.perm (Table.perm_values found).symm
    have used := there.used (use s.device s.overlay _ e h.accounted.custody.sound)
    have written := used.perm (s.samplers.perm_values_insert name _)
    exact ⟨written, h.only.caches, h.only.registries, h.only.profiles⟩

/-- A set that a sampler gives is held by its cache. -/
theorem profileSet_held (name : String) (counters : List String) (set : Shared ProfileSet)
    (given : ((withSampler name (Sampler.profileSet counters)).run.run s).1 = .ok set) :
    let s' := ((withSampler name (Sampler.profileSet counters)).run.run s).2
    set.setHolding ∈ heldBy s'.samplers.values s'.keptHoldings := by
  rw [run_withSampler] at given ⊢
  cases found : s.samplers.find? name with
  | none =>
    rw [found] at given
    cases given
  | some e =>
    rw [found] at given
    have kept := (Sampler.profileSet_kept counters e).result
      (s.device.seenThrough s.overlay) (s.released, s.state) set (mapError_eq_ok.1 given)
    have written := s.samplers.perm_values_insert name
      (((Sampler.profileSet counters).run.run e).run (s.device.seenThrough s.overlay)
        (s.released, s.state)).1.2
    apply (mem_heldBy_of_perm written _).2
    rw [heldBy_cons]
    exact List.mem_append_left _ (List.mem_append_left _ (List.mem_map_of_mem kept))

theorem profileSet_balanced (name : String) (counters : List String) (keep : Option String)
    (h : s.Balanced others) :
    ((profileSet name counters keep).run.run s).2.Balanced others := by
  have used := withSampler_balanced name (Sampler.profileSet_isUse counters) h
  have held := profileSet_held (s := s) name counters
  rw [run_profileSet]
  dsimp only
  generalize (withSampler name (Sampler.profileSet counters)).run.run s = y at used held ⊢
  obtain ⟨r, s'⟩ := y
  cases r with
  | error e => exact used
  | ok set =>
    apply keepSet_balanced keep
    exact ⟨used.accounted.copied (held set rfl), used.only⟩

/-! ## Steps of a caller -/

/-- What a caller does with samplers and with the sets they give. -/
inductive CallerStep where
  | newSampler (name : String) (agent : AgentId) (maxPerProfile : Nat)
  /-- Look a set up, and keep it if a name is given. -/
  | profileSet (name : String) (counters : List String) (keep : Option String)
  | sample (name : String) (counters : List String)
  | sampleRecords (name : String) (counters : List String)
  /-- Sample a set that was kept. -/
  | sampleKept (name : String) (set : String)
  | dropSampler (name : String)
  | dropSet (name : String)
  /-- Make the next reads on an agent fail. -/
  | failReads (agent : AgentId) (times : Nat)

/-- The session after a step, whether the step succeeds or fails. -/
def afterStep (s : Session) : CallerStep → Session
  | .newSampler name agent maxPerProfile => ((newSampler name agent maxPerProfile).run.run s).2
  | .profileSet name counters keep => ((profileSet name counters keep).run.run s).2
  | .sample name counters => ((withSampler name (Sampler.sample counters)).run.run s).2
  | .sampleRecords name counters =>
    ((withSampler name (Sampler.sampleRecords counters)).run.run s).2
  | .sampleKept name set => ((sampleKept name set).run.run s).2
  | .dropSampler name => ((samplerShelf.drop name).run s).2
  | .dropSet name => ((setShelf.drop name).run s).2
  | .failReads agent times => ((injectReadFailures agent times).run s).2

/-- The session after a sequence of steps. -/
def after (s : Session) (steps : List CallerStep) : Session :=
  steps.foldl afterStep s

theorem sampleKept_balanced (name set : String) (h : s.Balanced others) :
    ((sampleKept name set).run.run s).2.Balanced others := by
  simp only [sampleKept, run_bind, run_fetch]
  cases (samplerShelf.read s).find? name with
  | none => exact h
  | some e =>
    cases (setShelf.read s).find? set with
    | none => exact h
    | some x => exact withSampler_balanced name (Sampler.sampleProfileSet_isUse x.value) h

theorem afterStep_balanced (h : s.Balanced others) (step : CallerStep) :
    (s.afterStep step).Balanced others := by
  cases step with
  | newSampler name agent maxPerProfile => exact newSampler_balanced name agent maxPerProfile h
  | profileSet name counters keep => exact profileSet_balanced name counters keep h
  | sample name counters => exact withSampler_balanced name (Sampler.sample_isUse counters) h
  | sampleRecords name counters =>
    exact withSampler_balanced name (Sampler.sampleRecords_isUse counters) h
  | sampleKept name set => exact sampleKept_balanced name set h
  | dropSampler name => exact dropSampler_balanced name h
  | dropSet name => exact dropSet_balanced name h
  | failReads agent times =>
    exact ⟨h.accounted, h.only.caches, h.only.registries, h.only.profiles⟩

theorem after_balanced (h : s.Balanced others) (steps : List CallerStep) :
    (s.after steps).Balanced others := by
  induction steps generalizing s with
  | nil => exact h
  | cons step steps ih => exact ih (afterStep_balanced h step)

/-! ## Runs of a caller -/

/-- Nothing was made on the device yet except contexts. -/
structure Vacant (s : Session) : Prop where
  samplers : s.samplers.values = []
  sets : s.sets.values = []
  only : s.SamplersOnly
  live : s.state.configs.keys = []
  released : s.released = []
  counts : s.state.configsCreated = s.state.configsDestroyed
  contexts : ∀ c ∈ s.state.contexts.keys, c.val < s.state.nextContext

theorem vacant_new (b : Device.Builder) (o : Overlay) : (Session.new b o).Vacant where
  samplers := rfl
  sets := rfl
  only := ⟨rfl, rfl, rfl⟩
  live := rfl
  released := rfl
  counts := rfl
  contexts := nofun

theorem Vacant.sound (h : s.Vacant) : s.account.Sound := by
  have none : s.account.live ++ s.account.released = [] := by
    change s.state.configs.keys ++ s.released = []
    rw [h.live, h.released, List.append_nil]
  have live : s.account.live = [] := h.live
  refine ⟨?_, ?_, ?_, s.state.contexts.nodup, h.contexts⟩
  · rw [none]
    exact List.nodup_nil
  · rw [none]
    exact nofun
  · rw [live]
    exact h.counts

theorem Vacant.balanced (h : s.Vacant) : s.Balanced s.state.contexts.keys := by
  have kept : s.keptHoldings = [] := congrArg (List.map Shared.setHolding) h.sets
  have live : s.account.live = [] := h.live
  have custody : Custody [] s.account := by
    refine ⟨h.sound, ?_, nofun⟩
    rw [live]
    exact .nil
  refine ⟨?_, h.only⟩
  rw [h.samplers, kept]
  exact ⟨custody, .refl _, List.nodup_nil, nofun, nofun, nofun, nofun⟩

/-- Whether a configuration is that of a profile in the cache of a sampler or in a kept set. -/
def Reaches (s : Session) (c : ConfigId) : Prop :=
  (∃ e ∈ s.samplers.values,
    (∃ x ∈ e.cache.sets.values, ∃ p ∈ x.value.profiles, p.config = c) ∨
      ∃ x ∈ e.cache.singles.values, x.value.config = c) ∨
    ∃ x ∈ s.sets.values, ∃ p ∈ x.value.profiles, p.config = c

theorem mem_heldConfigs_iff {c : ConfigId} : c ∈ s.heldConfigs ↔ s.Reaches c := by
  have set (x : Shared ProfileSet) :
      c ∈ x.setHolding.value ↔ ∃ p ∈ x.value.profiles, p.config = c :=
    List.mem_map
  have single (x : Shared Profile) : c ∈ x.profileHolding.value ↔ x.value.config = c := by
    change c ∈ [x.value.config] ↔ _
    rw [List.mem_singleton, eq_comm]
  simp only [heldConfigs, List.mem_flatMap, mem_distinct, heldBy, List.mem_append,
    ProfileCache.holdings, List.mem_map, keptHoldings, Reaches]
  constructor
  · rintro ⟨_, ⟨e, mem, ⟨x, mem', rfl⟩ | ⟨x, mem', rfl⟩⟩ | ⟨x, mem, rfl⟩, here⟩
    · exact .inl ⟨e, mem, .inl ⟨x, mem', (set x).1 here⟩⟩
    · exact .inl ⟨e, mem, .inr ⟨x, mem', (single x).1 here⟩⟩
    · exact .inr ⟨x, mem, (set x).1 here⟩
  · rintro (⟨e, mem, ⟨x, mem', here⟩ | ⟨x, mem', here⟩⟩ | ⟨x, mem, here⟩)
    · exact ⟨_, .inl ⟨e, mem, .inl ⟨x, mem', rfl⟩⟩, (set x).2 here⟩
    · exact ⟨_, .inl ⟨e, mem, .inr ⟨x, mem', rfl⟩⟩, (single x).2 here⟩
    · exact ⟨_, .inr ⟨x, mem, rfl⟩, (set x).2 here⟩

/-- The books of a session that began as `start` are in order. -/
structure Reconciled (start s : Session) : Prop where
  /-- Live are exactly the configurations that something still holds. -/
  live_iff : ∀ c, c ∈ s.state.configs.keys ↔ s.Reaches c
  /-- Different things hold different configurations. -/
  live_perm : s.state.configs.keys.Perm s.heldConfigs
  held_nodup : s.heldConfigs.Nodup
  /-- Nothing was released twice. -/
  released_nodup : s.released.Nodup
  released_dead : ∀ c ∈ s.released, c ∉ s.state.configs.keys
  /-- Once nothing is held any more, nothing is left behind. -/
  emptied : s.samplers.values = [] → s.sets.values = [] →
    s.state.liveConfigs = 0 ∧ s.state.configsCreated = s.state.configsDestroyed ∧
      s.state.liveContexts = start.state.liveContexts

/-- Whatever a caller does and however the steps end, the books are in order after each of them. -/
theorem after_reconciled (vacant : s.Vacant) (steps : List CallerStep) :
    Reconciled s (s.after steps) := by
  have balanced := after_balanced vacant.balanced steps
  generalize s.after steps = s' at balanced
  have accounted := balanced.accounted
  have sound := accounted.custody.sound
  have live : s'.state.configs.keys.Perm s'.heldConfigs := accounted.custody.live
  obtain ⟨nodup, released, apart⟩ := List.nodup_append.1 sound.nodup
  refine ⟨?_, live, live.nodup_iff.1 nodup, released, ?_, ?_⟩
  · intro c
    rw [live.mem_iff, mem_heldConfigs_iff]
  · intro c gone there
    exact apart c there c gone rfl
  · intro samplers sets
    have none : s'.state.configs.keys = [] := by
      have nothing : s'.heldConfigs = [] := by
        rw [heldConfigs, keptHoldings, samplers, sets]
        rfl
      exact (nothing ▸ live).eq_nil
    have contexts : s'.state.contexts.keys.Perm s.state.contexts.keys := by
      have contexts := accounted.contexts
      rw [samplers] at contexts
      exact contexts
    refine ⟨?_, ?_, ?_⟩
    · rw [Device.State.liveConfigs, ← Table.length_keys, none]
      rfl
    · have balance : s'.state.configsCreated =
        s'.state.configsDestroyed + s'.state.configs.keys.length := sound.balance
      rwa [none] at balance
    · rw [Device.State.liveContexts, Device.State.liveContexts, ← Table.length_keys,
        ← Table.length_keys]
      exact contexts.length_eq

/-- A GPU with two counters that do not fit one profile. -/
def twoCounters : Device.Builder :=
  let gpu : AgentInfo := ⟨⟨1⟩, .gpu, "gfx942", 10001, 128, 1⟩
  (((Device.Builder.agent {} gpu).counter "CYCLES" [] 1.0).counter "WAVES" [] 1.0).hwLimit 1

/-- A set outlives the sampler that made it. -/
theorem after_reconciled_kept_set :
    let s := Session.new twoCounters {}
    let steps : List CallerStep := [.newSampler "sampler" ⟨1⟩ 8,
      .profileSet "sampler" ["WAVES", "CYCLES"] (some "set"), .sample "sampler" ["CYCLES"],
      .dropSampler "sampler", .dropSet "set"]
    s.Vacant ∧ Reconciled s (s.after steps) :=
  ⟨vacant_new _ _, after_reconciled (vacant_new _ _) _⟩

end Session

end CounterSampling
