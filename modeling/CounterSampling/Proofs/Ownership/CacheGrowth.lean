import CounterSampling.Proofs.Ownership.Gains

/-!
# What a sampler keeps

A holding is a shared thing as far as its configurations go. Every use of a sampler leaves the
holdings of its cache alone or adds one, under a serial number that no entry has had before, and
then gains exactly its configurations. A use that fails or ends abnormally is no exception.
-/

namespace CounterSampling

/-- A shared thing as far as its configurations go. -/
abbrev Holding : Type := Shared (List ConfigId)

def Shared.setHolding (x : Shared ProfileSet) : Holding := x.map ProfileSet.configs

def Shared.profileHolding (x : Shared Profile) : Holding := x.map fun p => [p.config]

namespace ProfileCache

/-- The holdings of a cache. -/
def holdings (c : ProfileCache) : List Holding :=
  c.sets.values.map Shared.setHolding ++ c.singles.values.map Shared.profileHolding

/-- One entry was added to a cache, with this holding. -/
structure Adds (c c' : ProfileCache) (h : Holding) : Prop where
  owner : c'.owner = c.owner
  stats : c'.stats = c.stats
  holdings : c'.holdings.Perm (h :: c.holdings)

/-- What a look-up can do to a cache and to the account of the device. -/
inductive Grows (c c' : ProfileCache) (a a' : Account) : Prop
  /-- The entries stay as they are. -/
  | kept (owner : c'.owner = c.owner) (misses : c.stats.misses ≤ c'.stats.misses)
    (holdings : c'.holdings = c.holdings) (gains : a.Gains a' [])
  /-- One entry is added, made at this miss. -/
  | added (h : Holding) (owner : c'.owner = c.owner)
    (misses : c'.stats.misses = c.stats.misses + 1) (of : h.owner = c.owner)
    (serial : h.serial = c.stats.misses + 1) (holdings : c'.holdings.Perm (h :: c.holdings))
    (gains : a.Gains a' h.value)

section Grows

variable {c c' : ProfileCache} {a a' : Account}

theorem Grows.owner_eq (h : c.Grows c' a a') : c'.owner = c.owner := by
  cases h with
  | kept owner misses holdings gains => exact owner
  | added x owner misses of serial holdings gains => exact owner

theorem Grows.misses_le (h : c.Grows c' a a') : c.stats.misses ≤ c'.stats.misses := by
  cases h with
  | kept owner misses holdings gains => exact misses
  | added x owner misses of serial holdings gains => omega

theorem Grows.contexts_eq (h : c.Grows c' a a') : a'.contexts = a.contexts := by
  cases h with
  | kept owner misses holdings gains => exact gains.contexts
  | added x owner misses of serial holdings gains => exact gains.contexts

/-- What a cache did not hold before is numbered by it. -/
theorem Grows.mem_or_numbered (h : c.Grows c' a a') {x : Holding} (mem : x ∈ c'.holdings) :
    x ∈ c.holdings ∨ x.owner = c.owner ∧ x.serial ≤ c'.stats.misses := by
  cases h with
  | kept owner misses holdings gains => exact .inl (holdings ▸ mem)
  | added y owner misses of serial holdings gains =>
    rcases List.mem_cons.1 (holdings.mem_iff.1 mem) with rfl | old
    · exact .inr ⟨of, by omega⟩
    · exact .inl old

theorem Grows.nodup (h : c.Grows c' a a') (nodup : c.holdings.Nodup)
    (numbered : ∀ x ∈ c.holdings, x.owner = c.owner → x.serial ≤ c.stats.misses) :
    c'.holdings.Nodup := by
  cases h with
  | kept owner misses holdings gains => exact holdings ▸ nodup
  | added x owner misses of serial holdings gains =>
    rw [holdings.nodup_iff, List.nodup_cons]
    refine ⟨?_, nodup⟩
    intro mem
    have := numbered x mem of
    omega

end Grows

variable {d : Device} {o : Overlay} {x : List ConfigId × Device.State}

/-- A look-up adds an entry only if there was none and the factory delivers one. -/
theorem getOrMake_grows {α : Type} (c : ProfileCache) (found : Option (Shared α))
    (make : StateT Catalog Procedure (Except SamplerError α))
    (keep : ProfileCache → Shared α → ProfileCache) (configs : α → List ConfigId)
    (kept : found = none → ∀ a, c.miss.Adds (keep c.miss (c.miss.share a))
      ((c.miss.share a).map configs))
    (catalog : Catalog) (sound : (accountOf x).Sound)
    (gains : (accountOf x).Gains (accountOf ((make.run catalog).run (d.seenThrough o) x).2)
      (configsMade configs ((make.run catalog).run (d.seenThrough o) x).1.1)) :
    let y := ((c.getOrMake found make keep).run catalog).run (d.seenThrough o) x
    c.Grows y.1.1.2 (accountOf x) (accountOf y.2) := by
  unfold getOrMake
  cases found with
  | some x => exact .kept rfl (Nat.le_refl _) rfl (.refl sound)
  | none =>
    simp only [StateT.run_bind, Procedure.run_bind]
    generalize (make.run catalog).run (d.seenThrough o) x = y at gains ⊢
    obtain ⟨⟨made, catalog'⟩, x'⟩ := y
    cases made with
    | error e => exact .kept rfl (Nat.le_succ _) rfl gains
    | ok a =>
      obtain ⟨owner, stats, holdings⟩ := kept rfl a
      exact .added _ owner (congrArg CacheStats.misses stats) rfl rfl holdings gains

theorem getOrCreateSet_grows (c : ProfileCache) (counters : List String)
    (factory : List String → StateT Catalog Procedure (Except SamplerError ProfileSet))
    (catalog : Catalog) (sound : (accountOf x).Sound)
    (gains : ∀ key, (accountOf x).Gains
      (accountOf (((factory key).run catalog).run (d.seenThrough o) x).2)
      (configsMade ProfileSet.configs
        (((factory key).run catalog).run (d.seenThrough o) x).1.1)) :
    let y := ((c.getOrCreateSet counters factory).run catalog).run (d.seenThrough o) x
    c.Grows y.1.1.2 (accountOf x) (accountOf y.2) := by
  refine c.getOrMake_grows _ _ _ ProfileSet.configs ?_ catalog sound (gains _)
  intro absent set
  have values := Table.perm_values_insert_absent absent (c.miss.share set)
  exact ⟨rfl, rfl, (values.map Shared.setHolding).append_right _⟩

theorem getOrCreateSingle_grows (c : ProfileCache) (counters : List String)
    (factory : List String → StateT Catalog Procedure (Except SamplerError Profile))
    (catalog : Catalog) (sound : (accountOf x).Sound)
    (gains : (accountOf x).Gains
      (accountOf (((factory counters).run catalog).run (d.seenThrough o) x).2)
      (configsMade (fun p => [p.config])
        (((factory counters).run catalog).run (d.seenThrough o) x).1.1)) :
    let y := ((c.getOrCreateSingle counters factory).run catalog).run (d.seenThrough o) x
    c.Grows y.1.1.2 (accountOf x) (accountOf y.2) := by
  refine c.getOrMake_grows _ _ _ (fun p => [p.config]) ?_ catalog sound gains
  intro absent p
  have values := Table.perm_values_insert_absent absent (c.miss.share p)
  have holdings := (values.map Shared.profileHolding).append_left
    (c.sets.values.map Shared.setHolding)
  exact ⟨rfl, rfl, holdings.trans List.perm_middle⟩

end ProfileCache

end CounterSampling
