import CounterSampling.ProfileCache
import Mathlib.Data.Finset.Card
import Mathlib.Data.Finset.Image

/-!
# The profile cache as a memo table

A cache is used by look-ups of two kinds and by clearing. The events of its uses, the latest first,
settle what it does next: a look-up is answered with what an earlier look-up of the same kind and
key got since the last clearing, and otherwise with what its factory makes. `Follows` ties a cache
to its past, every use keeps it, and `ProfileCache.memoizes` reads the answers off it. Factories are
arbitrary: they act on a state of their own and may fail.
-/

namespace CounterSampling

/-- What a cache keeps: profile sets by the names asked for, single profiles by the exact list. -/
inductive CacheKind where
  | set
  | single
  deriving DecidableEq

namespace CacheKind

open ProfileCache

@[reducible] def Content : CacheKind → Type
  | .set => ProfileSet
  | .single => Profile

/-- The key that the factory gets and that the entry is kept under. -/
def key : CacheKind → List String → List String
  | .set, request => setKey request
  | .single, request => request

/-- Whether two requests ask for the same thing. -/
def SameKey : CacheKind → List String → List String → Prop
  | .set, request, other => ∀ name, name ∈ request ↔ name ∈ other
  | .single, request, other => request = other

theorem sameKey_iff (k : CacheKind) {request other : List String} :
    k.SameKey request other ↔ k.key request = k.key other := by
  cases k with
  | set => exact setKey_eq_iff.symm
  | single => rfl

def entries : (k : CacheKind) → ProfileCache → Table (List String) (Shared k.Content)
  | .set, c => c.sets
  | .single, c => c.singles

def keep : (k : CacheKind) → List String → ProfileCache → Shared k.Content → ProfileCache
  | .set => keepSet
  | .single => keepSingle

section Lookup

variable {m : Type → Type} [Monad m] {ε : Type}

/-- Look a request up. -/
def getOrCreate : (k : CacheKind) → ProfileCache → List String →
    (List String → m (Except ε k.Content)) → m (Except ε (Shared k.Content) × ProfileCache)
  | .set, c, request, factory => c.getOrCreateSet request factory
  | .single, c, request, factory => c.getOrCreateSingle request factory

theorem getOrCreate_eq (k : CacheKind) (c : ProfileCache) (request : List String)
    (factory : List String → m (Except ε k.Content)) :
    k.getOrCreate c request factory =
      c.getOrMake ((k.entries c).find? (k.key request)) (factory (k.key request))
        (k.keep (k.key request)) := by
  cases k <;> rfl

end Lookup

/-! Only keeping something changes the entries, and only those of its kind. -/

section Entries

variable (k : CacheKind) (c : ProfileCache)

@[simp] theorem entries_hit : k.entries c.hit = k.entries c := by
  cases k <;> rfl

@[simp] theorem entries_miss : k.entries c.miss = k.entries c := by
  cases k <;> rfl

@[simp] theorem entries_cleared : k.entries c.cleared = .empty := by
  cases k <;> rfl

@[simp] theorem entries_keep (key : List String) (x : Shared k.Content) :
    k.entries (k.keep key c x) = (k.entries c).insert key x := by
  cases k <;> rfl

theorem entries_keep_other {k k' : CacheKind} (other : k' ≠ k) (key : List String)
    (x : Shared k.Content) : k'.entries (k.keep key c x) = k'.entries c := by
  cases k <;> cases k' <;> first | rfl | exact absurd rfl other

@[simp] theorem stats_keep (key : List String) (x : Shared k.Content) :
    (k.keep key c x).stats = c.stats := by
  cases k <;> rfl

@[simp] theorem owner_keep (key : List String) (x : Shared k.Content) :
    (k.keep key c x).owner = c.owner := by
  cases k <;> rfl

end Entries

end CacheKind

variable {σ ε : Type}

/-- Something done with a cache. -/
inductive CacheUse (σ ε : Type) where
  | lookup (k : CacheKind) (request : List String)
    (factory : List String → StateM σ (Except ε k.Content))
  | clear

/-- What came of something done with a cache. -/
inductive CacheEvent (ε : Type) where
  /-- A look-up with the keys its factory was called with and its answer. -/
  | lookup (k : CacheKind) (request : List String) (calls : List (List String))
    (answer : Except ε (Shared k.Content))
  | clear

namespace CacheUse

/-- A factory that notes the keys it is called with. -/
def noting {α : Type} (factory : List String → StateM σ (Except ε α)) (key : List String) :
    StateT (List (List String)) (StateM σ) (Except ε α) := do
  modify fun calls => calls ++ [key]
  liftM (factory key)

def carryOut (c : ProfileCache) : CacheUse σ ε → StateM σ (CacheEvent ε × ProfileCache)
  | .lookup k request factory => do
    let ((answer, c), calls) ← (k.getOrCreate c request (noting factory)).run []
    return (.lookup k request calls answer, c)
  | .clear => return (.clear, c.cleared)

/-- What comes of several uses. Uses and events are listed the latest first. -/
def carryOutAll (c : ProfileCache) :
    List (CacheUse σ ε) → StateM σ (List (CacheEvent ε) × ProfileCache)
  | [] => return ([], c)
  | u :: before => do
    let (past, c) ← carryOutAll c before
    let (event, c) ← u.carryOut c
    return (event :: past, c)

def isLookup : CacheUse σ ε → Bool
  | .lookup _ _ _ => true
  | .clear => false

section Lookup

variable {c : ProfileCache} {k : CacheKind} {request : List String}
  {factory : List String → StateM σ (Except ε k.Content)} {s : σ}

/-- A look-up that finds something does not call the factory. -/
theorem run_found {x : Shared k.Content} (found : (k.entries c).find? (k.key request) = some x) :
    ((lookup k request factory).carryOut c).run s = ((.lookup k request [] (.ok x), c.hit), s) := by
  simp only [carryOut, CacheKind.getOrCreate_eq, found, ProfileCache.getOrMake]
  rfl

/-- A look-up that finds nothing calls the factory once, with its key, and keeps what it makes. -/
theorem run_absent (absent : (k.entries c).find? (k.key request) = none) :
    ((lookup k request factory).carryOut c).run s =
      match (factory (k.key request)).run s with
      | (.ok a, s') =>
        ((.lookup k request [k.key request] (.ok (c.miss.share a)),
          k.keep (k.key request) c.miss (c.miss.share a)), s')
      | (.error e, s') => ((.lookup k request [k.key request] (.error e), c.miss), s') := by
  simp only [carryOut, CacheKind.getOrCreate_eq, absent, ProfileCache.getOrMake, noting, bind_assoc,
    StateT.run_bind, StateT.run_modify, StateT.run_monadLift, monadLift_self, bind_pure_comp,
    bind_map_left, pure_bind, map_bind, StateT.run_map, List.nil_append]
  generalize (factory (k.key request)).run s = y
  obtain ⟨made, s'⟩ := y
  cases made <;> rfl

end Lookup

end CacheUse

namespace CacheEvent

def isLookup : CacheEvent ε → Bool
  | .lookup _ _ _ _ => true
  | .clear => false

/-- The keys that the factory of a look-up was called with. -/
def calls : CacheEvent ε → List (List String)
  | .lookup _ _ calls _ => calls
  | .clear => []

/-- The request of a look-up of a kind and what it got. -/
def granted? : (k : CacheKind) → CacheEvent ε → Option (List String × Shared k.Content)
  | .set, .lookup .set request _ (.ok x) => some (request, x)
  | .single, .lookup .single request _ (.ok x) => some (request, x)
  | _, _ => none

section Granted

variable (k : CacheKind) (request : List String) (calls : List (List String))

@[simp] theorem granted?_ok (x : Shared k.Content) :
    granted? k (.lookup k request calls (.ok x) : CacheEvent ε) = some (request, x) := by
  cases k <;> rfl

@[simp] theorem granted?_error (k' : CacheKind) (e : ε) :
    granted? k (.lookup k' request calls (.error e)) = none := by
  cases k <;> cases k' <;> rfl

theorem granted?_other {k k' : CacheKind} (other : k' ≠ k) (answer : Except ε (Shared k.Content)) :
    granted? k' (.lookup k request calls answer) = none := by
  cases answer <;> cases k <;> cases k' <;> first | rfl | exact absurd rfl other

end Granted

/-- The events since the cache was last cleared. -/
def sinceClear : List (CacheEvent ε) → List (CacheEvent ε)
  | [] => []
  | .clear :: _ => []
  | .lookup k request calls answer :: past => .lookup k request calls answer :: sinceClear past

/-- The requests of a kind that were granted since the last clearing, with what they got. -/
def granted (k : CacheKind) (past : List (CacheEvent ε)) : List (List String × Shared k.Content) :=
  (sinceClear past).filterMap (granted? k)

/-- Since the last clearing, a look-up for the same thing got this. -/
def Recalls (past : List (CacheEvent ε)) (k : CacheKind) (request : List String)
    (x : Shared k.Content) : Prop :=
  ∃ other, (other, x) ∈ granted k past ∧ k.SameKey other request

/-- No look-up of either kind ever got this object. -/
def Unseen {α : Type} (past : List (CacheEvent ε)) (x : Shared α) : Prop :=
  ∀ k, ∀ g ∈ past.filterMap (granted? k), g.2.same x = false

theorem sinceClear_sublist (past : List (CacheEvent ε)) : (sinceClear past).Sublist past := by
  induction past with
  | nil => exact .slnil
  | cons event past ih =>
    cases event with
    | lookup k request calls answer => exact ih.cons_cons _
    | clear => exact List.nil_sublist _

theorem mem_of_granted {k : CacheKind} {past : List (CacheEvent ε)}
    {g : List String × Shared k.Content} (mem : g ∈ granted k past) :
    g ∈ past.filterMap (granted? k) :=
  ((sinceClear_sublist past).filterMap _).subset mem

section Cons

variable {k : CacheKind} {request : List String} {calls : List (List String)}
  {past : List (CacheEvent ε)}

@[simp] theorem granted_ok (x : Shared k.Content) :
    granted k (.lookup k request calls (.ok x) :: past) = (request, x) :: granted k past := by
  simp [granted, sinceClear]

@[simp] theorem granted_error (k' : CacheKind) (e : ε) :
    granted k (.lookup k' request calls (.error e) :: past) = granted k past := by
  simp [granted, sinceClear]

theorem granted_other {k' : CacheKind} (other : k' ≠ k) (answer : Except ε (Shared k.Content)) :
    granted k' (.lookup k request calls answer :: past) = granted k' past := by
  simp [granted, sinceClear, granted?_other request calls other answer]

@[simp] theorem granted_clear : granted k ((.clear : CacheEvent ε) :: past) = [] := rfl

end Cons

end CacheEvent

open CacheEvent

/-- What was ever handed out has this owner and a serial number up to this one. -/
def SerialsUpTo (owner misses : Nat) (past : List (CacheEvent ε)) : Prop :=
  ∀ k, ∀ g ∈ past.filterMap (granted? k), g.2.owner = owner ∧ g.2.serial ≤ misses

section SerialsUpTo

variable {owner misses misses' : Nat} {past : List (CacheEvent ε)} {k : CacheKind}
  {request : List String} {calls : List (List String)}

theorem SerialsUpTo.mono (h : SerialsUpTo owner misses past) (le : misses ≤ misses') :
    SerialsUpTo owner misses' past := by
  intro k g mem
  obtain ⟨own, serial⟩ := h k g mem
  exact ⟨own, Nat.le_trans serial le⟩

theorem SerialsUpTo.error (h : SerialsUpTo owner misses past) (e : ε) :
    SerialsUpTo owner misses (.lookup k request calls (.error e) :: past) := by
  intro k' g mem
  rw [List.filterMap_cons_none (granted?_error k' request calls k e)] at mem
  exact h k' g mem

theorem SerialsUpTo.ok (h : SerialsUpTo owner misses past) {x : Shared k.Content}
    (own : x.owner = owner) (serial : x.serial ≤ misses) :
    SerialsUpTo owner misses (.lookup k request calls (.ok x) :: past) := by
  intro k' g mem
  by_cases same : k' = k
  · subst same
    rw [List.filterMap_cons_some (granted?_ok k' request calls x)] at mem
    rcases List.mem_cons.1 mem with rfl | mem
    · exact ⟨own, serial⟩
    · exact h k' g mem
  · rw [List.filterMap_cons_none (granted?_other request calls same _)] at mem
    exact h k' g mem

theorem SerialsUpTo.unseen (h : SerialsUpTo owner misses past) {α : Type} {x : Shared α}
    (later : misses < x.serial) : Unseen past x := by
  intro k g mem
  have serial := (h k g mem).2
  have other : g.2.serial ≠ x.serial := by omega
  simp [Shared.same, other]

end SerialsUpTo

namespace ProfileCache

/-- What a cache is after its past: it holds what was granted since the last clearing, and it has
counted all look-ups and those of them that called a factory. -/
structure Follows (c : ProfileCache) (past : List (CacheEvent ε)) : Prop where
  found_iff : ∀ k key x,
    (k.entries c).find? key = some x ↔
      ∃ request, (request, x) ∈ granted k past ∧ k.key request = key
  lookups : c.stats.hits + c.stats.misses = past.countP CacheEvent.isLookup
  misses : c.stats.misses = (past.flatMap CacheEvent.calls).length
  serials : SerialsUpTo c.owner c.stats.misses past

theorem follows_new (owner : Nat) : (new owner).Follows ([] : List (CacheEvent ε)) := by
  refine ⟨fun k key x => ?_, rfl, rfl, nofun⟩
  cases k <;> exact ⟨nofun, fun h => nomatch h⟩

section Follows

variable {c : ProfileCache} {past : List (CacheEvent ε)} {k : CacheKind} {request : List String}

theorem Follows.recalls_iff (h : c.Follows past) {x : Shared k.Content} :
    (k.entries c).find? (k.key request) = some x ↔ Recalls past k request x := by
  rw [h.found_iff]
  constructor
  · rintro ⟨other, mem, same⟩
    exact ⟨other, mem, k.sameKey_iff.2 same⟩
  · rintro ⟨other, mem, same⟩
    exact ⟨other, mem, k.sameKey_iff.1 same⟩

/-- Something that is found is handed out again. -/
theorem Follows.hit (h : c.Follows past) {x : Shared k.Content}
    (found : (k.entries c).find? (k.key request) = some x) :
    c.hit.Follows (.lookup k request [] (.ok x) :: past) := by
  obtain ⟨first, there, -⟩ := (h.found_iff k _ x).1 found
  obtain ⟨own, serial⟩ := h.serials k (first, x) (mem_of_granted there)
  refine ⟨fun k' key y => ?_, ?_, h.misses, h.serials.ok own serial⟩
  · rw [CacheKind.entries_hit, h.found_iff]
    by_cases same : k' = k
    · subst same
      rw [granted_ok]
      constructor
      · rintro ⟨other, mem, rfl⟩
        exact ⟨other, List.mem_cons_of_mem _ mem, rfl⟩
      · rintro ⟨other, mem, rfl⟩
        rcases List.mem_cons.1 mem with latest | mem
        · obtain ⟨rfl, rfl⟩ := Prod.mk.inj latest
          exact (h.found_iff _ _ _).1 found
        · exact ⟨other, mem, rfl⟩
    · rw [granted_other same]
  · have counted := h.lookups
    simp only [ProfileCache.hit, List.countP_cons, CacheEvent.isLookup, if_true]
    omega

/-- A look-up whose factory fails only counts. -/
theorem Follows.failed (h : c.Follows past) (e : ε) :
    c.miss.Follows (.lookup k request [k.key request] (.error e) :: past) := by
  refine ⟨fun k' key y => ?_, ?_, ?_, (h.serials.mono (Nat.le_succ _)).error e⟩
  · rw [CacheKind.entries_miss, granted_error]
    exact h.found_iff k' key y
  · have counted := h.lookups
    simp only [miss, List.countP_cons, CacheEvent.isLookup, if_true]
    omega
  · have counted := h.misses
    simp only [miss, List.flatMap_cons, calls, List.length_append, List.length_singleton]
    omega

/-- What a factory makes is found from then on, under its key only. -/
theorem Follows.made (h : c.Follows past) (absent : (k.entries c).find? (k.key request) = none)
    (a : k.Content) :
    (k.keep (k.key request) c.miss (c.miss.share a)).Follows
      (.lookup k request [k.key request] (.ok (c.miss.share a)) :: past) := by
  refine ⟨fun k' key y => ?_, ?_, ?_, ?_⟩
  · by_cases same : k' = k
    · subst same
      rw [CacheKind.entries_keep, CacheKind.entries_miss, Table.find?_insert, granted_ok]
      by_cases here : k'.key request = key
      · subst here
        rw [if_pos rfl]
        constructor
        · intro found
          exact ⟨request, Option.some.inj found ▸ List.mem_cons_self, rfl⟩
        · rintro ⟨other, mem, same⟩
          rcases List.mem_cons.1 mem with latest | mem
          · rw [(Prod.mk.inj latest).2]
          · have found := (h.found_iff k' _ y).2 ⟨other, mem, same⟩
            rw [absent] at found
            cases found
      · rw [if_neg here, h.found_iff]
        constructor
        · rintro ⟨other, mem, same⟩
          exact ⟨other, List.mem_cons_of_mem _ mem, same⟩
        · rintro ⟨other, mem, same⟩
          rcases List.mem_cons.1 mem with latest | mem
          · rw [(Prod.mk.inj latest).1] at same
            exact absurd same here
          · exact ⟨other, mem, same⟩
    · rw [k.entries_keep_other _ same, CacheKind.entries_miss, granted_other same]
      exact h.found_iff k' key y
  · have counted := h.lookups
    rw [CacheKind.stats_keep]
    simp only [miss, List.countP_cons, CacheEvent.isLookup, if_true]
    omega
  · have counted := h.misses
    rw [CacheKind.stats_keep]
    simp only [miss, List.flatMap_cons, calls, List.length_append, List.length_singleton]
    omega
  · rw [CacheKind.stats_keep, CacheKind.owner_keep]
    exact (h.serials.mono (Nat.le_succ _)).ok rfl (Nat.le_refl _)

theorem Follows.clear (h : c.Follows past) : c.cleared.Follows (.clear :: past) := by
  refine ⟨fun k key x => ?_, h.lookups, h.misses, ?_⟩
  · rw [CacheKind.entries_cleared, granted_clear]
    exact ⟨nofun, fun found => nomatch found⟩
  · intro k g mem
    have unchanged : granted? k (.clear : CacheEvent ε) = none := by cases k <;> rfl
    rw [List.filterMap_cons_none unchanged] at mem
    exact h.serials k g mem

theorem Follows.carryOut (h : c.Follows past) (u : CacheUse σ ε) (s : σ) :
    let y := (u.carryOut c).run s
    y.1.2.Follows (y.1.1 :: past) := by
  cases u with
  | lookup k request factory =>
    cases found : (k.entries c).find? (k.key request) with
    | some x =>
      rw [CacheUse.run_found found]
      exact h.hit found
    | none =>
      rw [CacheUse.run_absent found]
      obtain ⟨made, s'⟩ := (factory (k.key request)).run s
      cases made with
      | ok a => exact h.made found a
      | error e => exact h.failed e
  | clear => exact h.clear

/-- However it was used, a cache follows its past. -/
theorem carryOutAll_follows (owner : Nat) (before : List (CacheUse σ ε)) (s : σ) :
    let y := (CacheUse.carryOutAll (new owner) before).run s
    y.1.2.Follows y.1.1 := by
  induction before with
  | nil => exact follows_new owner
  | cons u before ih => exact ih.carryOut u _

theorem isLookup_carryOut (c : ProfileCache) (u : CacheUse σ ε) (s : σ) :
    ((u.carryOut c).run s).1.1.isLookup = u.isLookup := by
  cases u <;> rfl

theorem countP_carryOutAll (c : ProfileCache) (before : List (CacheUse σ ε)) (s : σ) :
    ((CacheUse.carryOutAll c before).run s).1.1.countP CacheEvent.isLookup =
      before.countP CacheUse.isLookup := by
  induction before with
  | nil => rfl
  | cons u before ih =>
    let y := (CacheUse.carryOutAll c before).run s
    change (((u.carryOut y.1.2).run y.2).1.1 :: y.1.1).countP CacheEvent.isLookup = _
    rw [List.countP_cons, List.countP_cons, isLookup_carryOut, ih]

/-! How many entries there are. -/

theorem Follows.mem_keys_iff (h : c.Follows past) {key : List String} :
    key ∈ (k.entries c).keys ↔ ∃ g ∈ granted k past, k.key g.1 = key := by
  rw [← Table.contains_iff, Table.contains, Option.isSome_iff_exists]
  constructor
  · rintro ⟨x, found⟩
    obtain ⟨request, mem, same⟩ := (h.found_iff k key x).1 found
    exact ⟨(request, x), mem, same⟩
  · rintro ⟨g, mem, same⟩
    exact ⟨g.2, (h.found_iff k key g.2).2 ⟨g.1, mem, same⟩⟩

theorem Follows.card_keys (h : c.Follows past) :
    (k.entries c).size = ((granted k past).map fun g => k.key g.1).toFinset.card := by
  have same : (k.entries c).keys.toFinset = ((granted k past).map fun g => k.key g.1).toFinset := by
    ext key
    rw [List.mem_toFinset, List.mem_toFinset, h.mem_keys_iff, List.mem_map]
  have nodup : (k.entries c).keys.Nodup := (k.entries c).nodup
  rw [← same, List.toFinset_card_of_nodup nodup, Table.length_keys]

/-- There are as many keys of sets as there are sets of names. -/
theorem card_setKeys (requests : List (List String)) :
    (requests.map setKey).toFinset.card = (requests.map List.toFinset).toFinset.card := by
  have names (request : List String) : (setKey request).toFinset = request.toFinset := by
    ext name
    rw [List.mem_toFinset, List.mem_toFinset, mem_setKey]
  have image : (requests.map List.toFinset).toFinset =
      (requests.map setKey).toFinset.image List.toFinset := by
    ext set
    simp [names]
  rw [image, Finset.card_image_of_injOn]
  intro key mem other mem' same
  obtain ⟨request, -, rfl⟩ := List.mem_map.1 (List.mem_toFinset.1 mem)
  obtain ⟨request', -, rfl⟩ := List.mem_map.1 (List.mem_toFinset.1 mem')
  refine setKey_eq_iff.2 fun name => ?_
  have there : name ∈ (setKey request).toFinset ↔ name ∈ (setKey request').toFinset := by rw [same]
  rwa [names, names, List.mem_toFinset, List.mem_toFinset] at there

end Follows

/-- A cache is a memo table. After any uses, a look-up runs its factory just if no look-up of the
same kind for the same thing was granted since the last clearing, and otherwise it hands out the
very object that one got. A factory that fails leaves the entries alone, what a factory makes was
never handed out before, and the entries of the other kind stay. All look-ups and all runs of
factories are counted, and there are as many entries as different things were granted since the last
clearing. -/
theorem memoizes (owner : Nat) (before : List (CacheUse σ ε)) (s : σ) :
    let y := (CacheUse.carryOutAll (new owner) before).run s
    let past := y.1.1
    let c := y.1.2
    c.stats.hits + c.stats.misses = before.countP CacheUse.isLookup ∧
    c.stats.misses = (past.flatMap CacheEvent.calls).length ∧
    c.size = ((granted .set past).map fun g => g.1.toFinset).toFinset.card +
      ((granted .single past).map fun g => g.1).toFinset.card ∧
    ∀ k request (factory : List String → StateM σ (Except ε k.Content)),
      let z := ((CacheUse.lookup k request factory).carryOut c).run y.2
      let made := (factory (k.key request)).run y.2
      (∀ k', k' ≠ k → k'.entries z.1.2 = k'.entries c) ∧
      (∀ x, Recalls past k request x →
        z.1.1 = .lookup k request [] (.ok x) ∧ z.2 = y.2 ∧ k.entries z.1.2 = k.entries c) ∧
      ((¬∃ x, Recalls past k request x) → z.2 = made.2 ∧
        match made.1 with
        | .error e =>
          z.1.1 = .lookup k request [k.key request] (.error e) ∧ k.entries z.1.2 = k.entries c
        | .ok a =>
          ∃ x, z.1.1 = .lookup k request [k.key request] (.ok x) ∧ x.value = a ∧ Unseen past x) := by
  intro y past c
  have follows : c.Follows past := carryOutAll_follows owner before s
  have size : c.size = ((granted .set past).map fun g => g.1.toFinset).toFinset.card +
      ((granted .single past).map fun g => g.1).toFinset.card := by
    have sets := follows.card_keys (k := .set)
    have singles := follows.card_keys (k := .single)
    have names := card_setKeys ((granted .set past).map fun g => g.1)
    rw [List.map_map, List.map_map] at names
    exact congrArg₂ (· + ·) (sets.trans names) singles
  refine ⟨follows.lookups.trans (countP_carryOutAll _ before s), follows.misses, size, ?_⟩
  intro k request factory z made
  cases found : (k.entries c).find? (k.key request) with
  | some x =>
    have recalled := follows.recalls_iff.1 found
    have answered : z = ((.lookup k request [] (.ok x), c.hit), y.2) := CacheUse.run_found found
    rw [answered]
    refine ⟨fun k' _ => k'.entries_hit c, fun x' recalls => ?_, fun unknown => ?_⟩
    · have same := follows.recalls_iff.2 recalls
      rw [found] at same
      rw [Option.some.inj same]
      exact ⟨rfl, rfl, k.entries_hit c⟩
    · exact absurd ⟨x, recalled⟩ unknown
  | none =>
    have unknown (x : Shared k.Content) : ¬Recalls past k request x := by
      intro recalls
      have same := follows.recalls_iff.2 recalls
      rw [found] at same
      cases same
    have answered : z =
        match made with
        | (.ok a, s') =>
          ((.lookup k request [k.key request] (.ok (c.miss.share a)),
            k.keep (k.key request) c.miss (c.miss.share a)), s')
        | (.error e, s') => ((.lookup k request [k.key request] (.error e), c.miss), s') :=
      CacheUse.run_absent found
    rw [answered]
    obtain ⟨outcome, s'⟩ := made
    cases outcome with
    | ok a =>
      refine ⟨fun k' other => ?_, fun x recalls => absurd recalls (unknown x), fun _ => ⟨rfl, ?_⟩⟩
      · exact (k.entries_keep_other _ other _ _).trans (k'.entries_miss c)
      · exact ⟨_, rfl, rfl, follows.serials.unseen (Nat.lt_succ_self _)⟩
    | error e =>
      refine ⟨fun k' _ => k'.entries_miss c, fun x recalls => absurd recalls (unknown x), ?_⟩
      exact fun _ => ⟨rfl, rfl, k.entries_miss c⟩

end ProfileCache

end CounterSampling
