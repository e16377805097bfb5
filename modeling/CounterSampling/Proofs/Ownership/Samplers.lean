import CounterSampling.Proofs.Ownership.Custody
import CounterSampling.Proofs.Ownership.Uses

/-!
# Samplers and kept sets

What samplers hold in their caches and what is kept outside of them accounts for every live
configuration, and the samplers for every context that was opened for them. Creating, using and
closing a sampler and letting go of something kept all preserve this.
-/

namespace CounterSampling

/-- The holdings in the caches of samplers, and those kept outside. -/
def heldBy (samplers : List Sampler) (kept : List Holding) : List Holding :=
  (samplers.flatMap fun e => e.cache.holdings) ++ kept

/-- Owners and serial numbers are not used up to those that the samplers will give out next. -/
structure Numbered (samplers : List Sampler) (kept : List Holding) (nextOwner : Nat) : Prop where
  owners_nodup : (samplers.map fun e => e.cache.owner).Nodup
  owner_lt : ∀ e ∈ samplers, e.cache.owner < nextOwner
  holding_lt : ∀ x ∈ heldBy samplers kept, x.owner < nextOwner
  serial_le : ∀ e ∈ samplers, ∀ x ∈ heldBy samplers kept,
    x.owner = e.cache.owner → x.serial ≤ e.cache.stats.misses
  caches_nodup : ∀ e ∈ samplers, e.cache.holdings.Nodup

/-- Samplers and kept holdings account for what is live; `others` are the contexts that belong to
no sampler. -/
structure Accounted (others : List ContextId) (samplers : List Sampler) (kept : List Holding)
    (nextOwner : Nat) (a : Account) : Prop where
  custody : Custody (heldBy samplers kept) a
  contexts : a.contexts.Perm ((samplers.map fun e => e.context) ++ others)
  numbered : Numbered samplers kept nextOwner

variable {others : List ContextId} {samplers samplers' : List Sampler} {kept kept' : List Holding}
  {e e' : Sampler} {n : Nat} {a a' : Account}

theorem heldBy_cons (e : Sampler) (samplers : List Sampler) (kept : List Holding) :
    heldBy (e :: samplers) kept = e.cache.holdings ++ heldBy samplers kept := by
  rw [heldBy, heldBy, List.flatMap_cons, List.append_assoc]

/-- What a cache has to release is what it holds and nobody else does. -/
theorem ProfileCache.soleConfigs_eq (c : ProfileCache) (elsewhere : Nat → Nat → Bool) :
    c.soleConfigs elsewhere =
      (c.holdings.filter fun x => !elsewhere x.owner x.serial).flatMap Shared.value := by
  rw [soleConfigs, holdings, List.filter_append, List.flatMap_append, List.filter_map,
    List.filter_map, List.flatMap_map, List.flatMap_map, List.map_eq_flatMap]
  rfl

theorem mem_heldBy_of_perm (perm : samplers'.Perm samplers) (x : Holding) :
    x ∈ heldBy samplers' kept ↔ x ∈ heldBy samplers kept :=
  ((perm.flatMap_right _).append_right kept).mem_iff

namespace Numbered

theorem congr (h : Numbered samplers kept n) (perm : samplers'.Perm samplers)
    (fewer : ∀ x ∈ heldBy samplers' kept', x ∈ heldBy samplers kept) :
    Numbered samplers' kept' n := by
  refine ⟨(perm.map _).nodup_iff.2 h.owners_nodup, ?_, ?_, ?_, ?_⟩
  · intro e mem
    exact h.owner_lt e (perm.mem_iff.1 mem)
  · intro x mem
    exact h.holding_lt x (fewer x mem)
  · intro e mem x held
    exact h.serial_le e (perm.mem_iff.1 mem) x (fewer x held)
  · intro e mem
    exact h.caches_nodup e (perm.mem_iff.1 mem)

theorem tail (h : Numbered (e :: samplers) kept n) : Numbered samplers kept n := by
  have fewer : ∀ x ∈ heldBy samplers kept, x ∈ heldBy (e :: samplers) kept := by
    intro x mem
    rw [heldBy_cons]
    exact List.mem_append_right _ mem
  refine ⟨(List.nodup_cons.1 h.owners_nodup).2, ?_, ?_, ?_, ?_⟩
  · intro e' mem
    exact h.owner_lt e' (List.mem_cons_of_mem e mem)
  · intro x mem
    exact h.holding_lt x (fewer x mem)
  · intro e' mem x held
    exact h.serial_le e' (List.mem_cons_of_mem e mem) x (fewer x held)
  · intro e' mem
    exact h.caches_nodup e' (List.mem_cons_of_mem e mem)

theorem later {m : Nat} (h : Numbered samplers kept n) (le : n ≤ m) : Numbered samplers kept m :=
  ⟨h.owners_nodup, fun e mem => Nat.lt_of_lt_of_le (h.owner_lt e mem) le,
    fun x mem => Nat.lt_of_lt_of_le (h.holding_lt x mem) le, h.serial_le, h.caches_nodup⟩

/-- A new sampler takes the next owner number. -/
theorem opened (h : Numbered samplers kept n) (new : e.cache = .new n) :
    Numbered (e :: samplers) kept (n + 1) := by
  have none : e.cache.holdings = [] := by
    rw [new]
    rfl
  have held : heldBy (e :: samplers) kept = heldBy samplers kept := by
    rw [heldBy_cons, none, List.nil_append]
  have owner : e.cache.owner = n := by rw [new]; rfl
  refine ⟨List.nodup_cons.2 ⟨?_, h.owners_nodup⟩, ?_, ?_, ?_, ?_⟩
  · intro mem
    obtain ⟨e', mem', same⟩ := List.mem_map.1 mem
    have := h.owner_lt e' mem'
    simp only at same
    omega
  · intro e' mem
    rcases List.mem_cons.1 mem with rfl | old
    · omega
    · have := h.owner_lt e' old
      omega
  · intro x mem
    rw [held] at mem
    have := h.holding_lt x mem
    omega
  · intro e' mem x mem' same
    rw [held] at mem'
    rcases List.mem_cons.1 mem with rfl | old
    · have := h.holding_lt x mem'
      omega
    · exact h.serial_le e' old x mem' same
  · intro e' mem
    rcases List.mem_cons.1 mem with rfl | old
    · rw [none]
      exact List.nodup_nil
    · exact h.caches_nodup e' old

/-- What a cache gains has the next serial number. -/
theorem grown (h : Numbered (e :: samplers) kept n) (grows : e.cache.Grows e'.cache a a') :
    Numbered (e' :: samplers) kept n := by
  have owner := grows.owner_eq
  have inside : ∀ x ∈ e.cache.holdings, x ∈ heldBy (e :: samplers) kept := by
    intro x mem
    rw [heldBy_cons]
    exact List.mem_append_left _ mem
  have either : ∀ x ∈ heldBy (e' :: samplers) kept, x ∈ heldBy (e :: samplers) kept ∨
      x.owner = e.cache.owner ∧ x.serial ≤ e'.cache.stats.misses := by
    intro x mem
    rw [heldBy_cons] at mem ⊢
    rcases List.mem_append.1 mem with own | other
    · exact (grows.mem_or_numbered own).imp_left (List.mem_append_left _)
    · exact .inl (List.mem_append_right _ other)
  refine ⟨?_, ?_, ?_, ?_, ?_⟩
  · have owners := h.owners_nodup
    rwa [List.map_cons, ← owner] at owners
  · intro e₁ mem
    rcases List.mem_cons.1 mem with rfl | other
    · rw [owner]
      exact h.owner_lt e List.mem_cons_self
    · exact h.owner_lt e₁ (List.mem_cons_of_mem e other)
  · intro x mem
    rcases either x mem with old | new
    · exact h.holding_lt x old
    · rw [new.1]
      exact h.owner_lt e List.mem_cons_self
  · intro e₁ mem x held same
    rcases List.mem_cons.1 mem with rfl | other
    · rcases either x held with old | new
      · rw [owner] at same
        exact Nat.le_trans (h.serial_le e List.mem_cons_self x old same) grows.misses_le
      · exact new.2
    · rcases either x held with old | new
      · exact h.serial_le e₁ (List.mem_cons_of_mem e other) x old same
      · -- Another sampler cannot have the same owner number.
        have apart := (List.nodup_cons.1 h.owners_nodup).1
        exact absurd (List.mem_map.2 ⟨e₁, other, same.symm.trans new.1⟩) apart
  · intro e₁ mem
    rcases List.mem_cons.1 mem with rfl | other
    · apply grows.nodup (h.caches_nodup e List.mem_cons_self)
      intro x held
      exact h.serial_le e List.mem_cons_self x (inside x held)
    · exact h.caches_nodup e₁ (List.mem_cons_of_mem e other)

end Numbered

namespace Accounted

theorem congr (h : Accounted others samplers kept n a) (perm : samplers'.Perm samplers)
    (same : ∀ x, x ∈ heldBy samplers' kept' ↔ x ∈ heldBy samplers kept) :
    Accounted others samplers' kept' n a :=
  ⟨h.custody.congr same, h.contexts.trans ((perm.map _).append_right others).symm,
    h.numbered.congr perm fun x => (same x).1⟩

theorem perm (h : Accounted others samplers kept n a) (perm : samplers'.Perm samplers) :
    Accounted others samplers' kept n a :=
  h.congr perm (mem_heldBy_of_perm perm)

theorem permKept (h : Accounted others samplers kept n a) (perm : kept'.Perm kept) :
    Accounted others samplers kept' n a :=
  h.congr (.refl _) fun _ => (perm.append_left _).mem_iff

/-- Something that is held may be kept in one more place. -/
theorem copied {y : Holding} (h : Accounted others samplers kept n a)
    (there : y ∈ heldBy samplers kept) : Accounted others samplers (y :: kept) n a := by
  refine h.congr (.refl _) fun x => ?_
  have middle : x ∈ heldBy samplers (y :: kept) ↔ x ∈ y :: heldBy samplers kept :=
    List.perm_middle.mem_iff
  rw [middle, List.mem_cons]
  constructor
  · rintro (rfl | old)
    · exact there
    · exact old
  · exact .inr

theorem later {m : Nat} (h : Accounted others samplers kept n a) (le : n ≤ m) :
    Accounted others samplers kept m a :=
  ⟨h.custody, h.contexts, h.numbered.later le⟩

/-- A use that adds a holding gives it a number that tells it from all that are held. -/
theorem used (h : Accounted others (e :: samplers) kept n a) (use : e.Uses e' a a') :
    Accounted others (e' :: samplers) kept n a' := by
  have contexts : a'.contexts.Perm (((e' :: samplers).map fun e => e.context) ++ others) := by
    rw [use.grows.contexts_eq, List.map_cons, use.context]
    exact h.contexts
  refine ⟨?_, contexts, h.numbered.grown use.grows⟩
  cases use.grows with
  | kept owner misses holdings gains =>
    refine (h.custody.kept gains).congr fun x => ?_
    rw [heldBy_cons, heldBy_cons, holdings]
  | added x owner misses of serial holdings gains =>
    have fresh : ∀ y ∈ heldBy (e :: samplers) kept, y.owner = x.owner → y.serial ≠ x.serial := by
      intro y mem same
      have := h.numbered.serial_le e List.mem_cons_self y mem (same.trans of)
      omega
    refine (h.custody.added gains fresh).congr fun y => ?_
    rw [heldBy_cons, heldBy_cons]
    exact (holdings.append_right _).mem_iff

/-- A new sampler has the context opened last and holds nothing. -/
theorem opened (h : Accounted others samplers kept n a) (owner : e.cache = .new n)
    (context : e.context = ⟨a.nextContext⟩) :
    Accounted others (e :: samplers) kept (n + 1) a.openContext := by
  have held : heldBy (e :: samplers) kept = heldBy samplers kept := by
    rw [heldBy_cons, owner]
    rfl
  refine ⟨?_, ?_, h.numbered.opened owner⟩
  · rw [held]
    exact ⟨h.custody.sound.openContext, h.custody.live, h.custody.coherent⟩
  · rw [List.map_cons, context]
    exact List.perm_append_comm.trans (h.contexts.cons _)

variable {d : Device} {o : Overlay} {x : List ConfigId × Device.State}
  {elsewhere : Nat → Nat → Bool}

/-- Letting go of something kept. -/
theorem letGo {y : Holding} (h : Accounted others samplers (y :: kept) n (accountOf x))
    (truth : ∀ owner serial, elsewhere owner serial = true ↔
      ∃ z ∈ heldBy samplers kept, z.owner = owner ∧ z.serial = serial) :
    let sole := if elsewhere y.owner y.serial then [] else y.value
    Accounted others samplers kept n
      (accountOf ((releaseAll sole).run (d.seenThrough o) x).2) := by
  have custody : Custody ([y] ++ heldBy samplers kept) (accountOf x) := by
    refine h.custody.congr fun z => ?_
    rw [List.singleton_append, heldBy, heldBy]
    exact (List.perm_middle (a := y)).mem_iff.symm
  have single : ([y].filter fun y => !elsewhere y.owner y.serial).flatMap Shared.value =
      if elsewhere y.owner y.serial then [] else y.value := by
    cases there : elsewhere y.owner y.serial <;> simp [there]
  have dropped := custody.letGo (d := d) (o := o) (List.nodup_cons.2 ⟨nofun, .nil⟩) truth
  rw [single] at dropped
  refine ⟨dropped.1, ?_, ?_⟩
  · rw [dropped.2]
    exact h.contexts
  · refine h.numbered.congr (.refl _) fun z mem => ?_
    rw [heldBy] at mem ⊢
    rcases List.mem_append.1 mem with inside | outside
    · exact List.mem_append_left _ inside
    · exact List.mem_append_right _ (List.mem_cons_of_mem y outside)

/-- Closing a sampler releases what only its cache holds and closes its context. -/
theorem closed (h : Accounted others (e :: samplers) kept n (accountOf x))
    (truth : ∀ owner serial, elsewhere owner serial = true ↔
      ∃ z ∈ heldBy samplers kept, z.owner = owner ∧ z.serial = serial) :
    Accounted others samplers kept n
      (accountOf ((e.close elsewhere).run (d.seenThrough o) x).2) := by
  have custody := h.custody
  rw [heldBy_cons] at custody
  have dropped := custody.letGo (d := d) (o := o)
    (h.numbered.caches_nodup e List.mem_cons_self) truth
  dsimp only at dropped
  rw [← ProfileCache.soleConfigs_eq] at dropped
  unfold Sampler.close
  rw [Procedure.run_bind]
  generalize (releaseAll (e.cache.soleConfigs elsewhere)).run (d.seenThrough o) x = y at dropped ⊢
  change Accounted others samplers kept n
    (accountOf ((d.seenThrough o).answer (.destroyContext e.context) y.2).2)
  rw [d.seenThrough_destroyContext]
  refine ⟨?_, ?_, h.numbered.tail⟩
  · exact ⟨dropped.1.sound.closeContext e.context, dropped.1.live, dropped.1.coherent⟩
  · have contexts := h.contexts.erase e.context
    rw [List.map_cons, List.cons_append, List.erase_cons_head, ← dropped.2] at contexts
    exact contexts

end Accounted

end CounterSampling
