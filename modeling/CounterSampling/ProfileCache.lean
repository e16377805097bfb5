import CounterSampling.Packer

/-!
# The profile cache

Profiles are costly to build, so they are kept. Profile sets are kept by the names they were asked
for, whatever their order and repeats; single profiles by the exact list. A look-up that finds
nothing calls a factory, and only what the factory delivers is kept.
-/

namespace CounterSampling

/-- How many look-ups found something, and how many did not. -/
structure CacheStats where
  hits : Nat := 0
  misses : Nat := 0
  deriving DecidableEq, Repr

structure ProfileCache where
  /-- What tells the entries of this cache from those of others. -/
  owner : Nat
  sets : Table (List String) (Shared ProfileSet) := .empty
  singles : Table (List String) (Shared Profile) := .empty
  stats : CacheStats := {}

namespace ProfileCache

def new (owner : Nat) : ProfileCache := { owner }

/-- The key of a profile set: the names in ascending order, without repeats. -/
def setKey (counters : List String) : List String :=
  distinct (counters.mergeSort fun a b => decide (a ≤ b))

theorem mem_setKey {request : List String} {name : String} :
    name ∈ setKey request ↔ name ∈ request := by
  rw [setKey, mem_distinct, List.mem_mergeSort]

/-- A key is in strictly ascending order. -/
theorem setKey_ascends (request : List String) :
    (setKey request).Pairwise (· < ·) := by
  have transitive : ∀ a b c : String, decide (a ≤ b) = true → decide (b ≤ c) = true →
      decide (a ≤ c) = true := by
    intro a b c first second
    exact decide_eq_true (String.le_trans (of_decide_eq_true first) (of_decide_eq_true second))
  have total : ∀ a b : String, (decide (a ≤ b) || decide (b ≤ a)) = true := by
    intro a b
    simpa using String.le_total a b
  have sorted := (List.pairwise_mergeSort transitive total request).imp of_decide_eq_true
  refine ((sorted.sublist (distinct_sublist _)).and (nodup_distinct _)).imp ?_
  rintro a b ⟨least, other⟩
  exact Std.lt_of_le_of_ne least other

/-- A key has no repeats to take out. -/
theorem distinct_setKey (request : List String) :
    distinct (setKey request) = setKey request :=
  distinct_of_nodup (nodup_distinct _)

/-- Requests for the same names have the same key, and only these. -/
theorem setKey_eq_iff {request other : List String} :
    setKey request = setKey other ↔ ∀ name, name ∈ request ↔ name ∈ other := by
  constructor
  · intro same name
    rw [← mem_setKey, same, mem_setKey]
  · intro same
    have perm : (setKey request).Perm (setKey other) := by
      refine distinct_perm fun name => ?_
      rw [List.mem_mergeSort, List.mem_mergeSort]
      exact same name
    refine perm.eq_of_pairwise ?_ (setKey_ascends request) (setKey_ascends other)
    exact fun a b _ _ less greater => absurd greater (String.lt_asymm less)

def hit (c : ProfileCache) : ProfileCache :=
  { c with stats := { c.stats with hits := c.stats.hits + 1 } }

def miss (c : ProfileCache) : ProfileCache :=
  { c with stats := { c.stats with misses := c.stats.misses + 1 } }

/-- Something this cache made at its latest miss. -/
def share {α : Type} (c : ProfileCache) (a : α) : Shared α :=
  ⟨c.owner, c.stats.misses, a⟩

variable {m : Type → Type} [Monad m] {ε : Type}

/-- What was found in the cache, or else what is made instead and then kept. -/
def getOrMake {α : Type} (c : ProfileCache) (found : Option (Shared α)) (make : m (Except ε α))
    (keep : ProfileCache → Shared α → ProfileCache) : m (Except ε (Shared α) × ProfileCache) :=
  match found with
  | some x => pure (.ok x, c.hit)
  | none => do
    match ← make with
    | .ok a =>
      let x := c.miss.share a
      return (.ok x, keep c.miss x)
    | .error e => return (.error e, c.miss)

def keepSet (key : List String) (c : ProfileCache) (x : Shared ProfileSet) : ProfileCache :=
  { c with sets := c.sets.insert key x }

def keepSingle (key : List String) (c : ProfileCache) (x : Shared Profile) : ProfileCache :=
  { c with singles := c.singles.insert key x }

/-- The set kept for the names of a request, or else the one that the factory makes of the key. -/
def getOrCreateSet (c : ProfileCache) (counters : List String)
    (factory : List String → m (Except ε ProfileSet)) :
    m (Except ε (Shared ProfileSet) × ProfileCache) :=
  let key := setKey counters
  c.getOrMake (c.sets.find? key) (factory key) (keepSet key)

/-- The profile kept for exactly this list, or else the one that the factory makes of it. -/
def getOrCreateSingle (c : ProfileCache) (counters : List String)
    (factory : List String → m (Except ε Profile)) :
    m (Except ε (Shared Profile) × ProfileCache) :=
  c.getOrMake (c.singles.find? counters) (factory counters) (keepSingle counters)

/-- How many entries are kept. -/
def size (c : ProfileCache) : Nat :=
  c.sets.size + c.singles.size

def isEmpty (c : ProfileCache) : Bool :=
  c.size == 0

/-- The cache without entries; its counts stay. -/
def cleared (c : ProfileCache) : ProfileCache :=
  { c with sets := .empty, singles := .empty }

/-- Whether an entry of the cache is the one with this owner and serial number. -/
def holds (c : ProfileCache) (owner serial : Nat) : Bool :=
  (c.sets.values.any fun s => s.owner == owner && s.serial == serial) ||
    c.singles.values.any fun s => s.owner == owner && s.serial == serial

/-- The configurations of the entries that nobody else holds. -/
def soleConfigs (c : ProfileCache) (elsewhere : Nat → Nat → Bool) : List ConfigId :=
  ((c.sets.values.filter fun s => !elsewhere s.owner s.serial).flatMap fun s => s.value.configs) ++
    (c.singles.values.filter fun s => !elsewhere s.owner s.serial).map fun s => s.value.config

end ProfileCache

end CounterSampling
