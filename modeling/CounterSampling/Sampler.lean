import CounterSampling.ProfileCache

/-!
# Sampling one agent

A sampler owns the one context of its agent. A request is turned into a profile set, which is kept,
and its profiles are sampled one after another: bind, start, read, stop. The records are then summed
by the name of their counter.
-/

namespace CounterSampling

structure Sampler where
  agent : AgentId
  context : ContextId
  catalog : Catalog
  cache : ProfileCache
  /-- The most counters a profile may hold when a request is packed. -/
  maxPerProfile : Nat

/-- Steps that may change a sampler and may fail; a failure keeps the changes made before it. -/
abbrev SamplerM : Type → Type :=
  ExceptT Failure (StateT Sampler Procedure)

structure SampleOutput where
  /-- The value of each counter, summed over its instances. -/
  values : NameMap Float
  unsupported : List String
  unpackable : List String
  profiles : Nat

namespace Sampler

/-- Create a sampler with a context of its own. -/
def new (agent : AgentId) (owner maxPerProfile : Nat) :
    Procedure (Except SamplerError Sampler) := do
  match ← Procedure.call (.createContext agent) with
  | .ok context =>
    return .ok { agent, context, catalog := .new agent, cache := .new owner, maxPerProfile }
  | .error e => return .error (.backend e)

/-- The sampler with another limit for what is packed from now on. -/
def withMaxPerProfile (s : Sampler) (n : Nat) : Sampler :=
  { s with maxPerProfile := n }

def stats (s : Sampler) : CacheStats := s.cache.stats

def withCatalog {α : Type} (p : CatalogM α) : SamplerM α := do
  let s ← get
  let (r, catalog) ← (liftM (p.run.run s.catalog) : StateT Sampler Procedure _)
  set { s with catalog }
  match r with
  | .ok a => pure a
  | .error e => throw (.error e)

/-- Every counter of the agent, in ascending order of names. -/
def supportedCounters : SamplerM (List Counter) :=
  withCatalog Catalog.describe

def positionsOf (r : Record) : SamplerM (NameMap Nat) :=
  withCatalog (Catalog.positionsOf r)

/-- Look something up in the cache, with a factory that uses the catalog. -/
def withCache {α : Type}
    (lookup : ProfileCache → StateT Catalog Procedure (Except SamplerError α × ProfileCache)) :
    SamplerM α := do
  let s ← get
  let ((r, cache), catalog) ← (liftM ((lookup s.cache).run s.catalog) : StateT Sampler Procedure _)
  set { s with cache, catalog }
  match r with
  | .ok a => pure a
  | .error e => throw (.error e)

def profileSet (counters : List String) : SamplerM (Shared ProfileSet) := do
  let s ← get
  let packer : Packer := ⟨s.agent, s.maxPerProfile⟩
  withCache fun cache => cache.getOrCreateSet counters fun key => (packer.pack key).run

/-- A step of sampling a profile, as a failure that names the stage. -/
def atStage {α : Type} (agent : AgentId) (stage : SamplingStage) (r : Except BackendError α) :
    Except Failure α :=
  match r with
  | .ok a => .ok a
  | .error e => .error (.error (.sampling agent stage e))

/-- The most memory one buffer may take, in bytes. -/
def maxBufferBytes : Nat := Word.maxSigned

/-- A buffer for records, if it is not too large. -/
def allocate (size : Nat) : Except Failure (List Record) :=
  if Record.bytes * size ≤ maxBufferBytes then .ok (List.replicate size .blank)
  else .error (.abort .capacity)

/-- The records of a read that was followed by a stop. A failed read counts before a failed stop,
and a claim to have read more than the buffer holds means all of it. -/
def recordsRead (agent : AgentId) {buffer : List Record} (read : ReadAnswer buffer)
    (stopped : Except BackendError Unit) : Except Failure (List Record) := do
  let count ← atStage agent .read read.count
  atStage agent .stop stopped
  return read.records.take count

/-- Read into a buffer and stop, whatever the read answers. -/
def readAndStop (agent : AgentId) (context : ContextId) (buffer : List Record) :
    Procedure (Except Failure (List Record)) := do
  let read ← Procedure.call (.readRecords context buffer)
  let stopped ← Procedure.call (.stopContext context)
  return recordsRead agent read stopped

def runProfile (agent : AgentId) (context : ContextId) (p : Profile) :
    Procedure (Except Failure (List Record)) := do
  match atStage agent .bind (← Procedure.call (.bindConfig context p.config)) with
  | .error e => return .error e
  | .ok _ =>
    match atStage agent .start (← Procedure.call (.startContext context)) with
    | .error e => return .error e
    | .ok _ =>
      match allocate p.expectedSize with
      | .error e => return .error e
      | .ok buffer => readAndStop agent context buffer

def sampleProfile (p : Profile) : SamplerM (List Record) := do
  let s ← get
  ExceptT.mk (liftM (runProfile s.agent s.context p))

def nameOf (r : Record) : SamplerM String := do
  let s ← get
  let (name, catalog) ← (liftM ((Catalog.nameOf r).run s.catalog) : StateT Sampler Procedure _)
  set { s with catalog }
  pure name

/-- Add a record to the value of a counter, which starts from zero. -/
def addValue (values : NameMap Float) (name : String) (x : Float) : NameMap Float :=
  values.alter name fun v => v.getD 0.0 + x

def addRecords (values : NameMap Float) : List Record → SamplerM (NameMap Float)
  | [] => pure values
  | r :: rs => do
    let name ← nameOf r
    addRecords (addValue values name r.value) rs

/-- Sample profiles one after another and sum their records; the first failure ends it. -/
def sampleProfiles (values : NameMap Float) : List Profile → SamplerM (NameMap Float)
  | [] => pure values
  | p :: ps => do
    let records ← sampleProfile p
    let values ← addRecords values records
    sampleProfiles values ps

def sampleProfileSet (set : ProfileSet) : SamplerM (NameMap Float) :=
  sampleProfiles .empty set.profiles

def sample (counters : List String) : SamplerM SampleOutput := do
  let set ← profileSet counters
  let values ← sampleProfileSet set.value
  return {
    values
    unsupported := set.value.unsupported
    unpackable := set.value.unpackable
    profiles := set.value.size }

/-- The counters of a single profile that were found, and their records so far. -/
structure Single where
  items : List Packer.Item := []
  size : Nat := 0

/-- Gather the counters of a single profile; names the agent does not have are skipped. -/
def gatherSingle (s : Single) : List String → CatalogM Single
  | [] => pure s
  | name :: names => do
    match ← Catalog.lookup name with
    | none => gatherSingle s names
    | some id =>
      match Word.add? (← Catalog.recordCountOf id) s.size with
      | some size => gatherSingle ⟨s.items ++ [⟨name, id⟩], size⟩ names
      | none => throw (.recordCount (← get).agent id)

/-- Build one profile that holds all counters of a list. -/
def buildSingle (agent : AgentId) (counters : List String) : CatalogM Profile := do
  let s ← gatherSingle {} counters
  match ← Procedure.call (.tryConfigure agent (s.items.map fun i => i.id)) with
  | .configured config => return ⟨config, s.items.map fun i => i.name, s.size⟩
  | .capacityExceeded => throw .capacityExceeded
  | .failed e => throw (.configuration agent e)

/-- Sample a list as one profile and give its records. -/
def sampleRecords (counters : List String) : SamplerM (List Record) := do
  let s ← get
  let profile ← withCache fun cache =>
    cache.getOrCreateSingle counters fun names => (buildSingle s.agent names).run
  sampleProfile profile.value

/-- Release what only this sampler holds, and its context. -/
def close (s : Sampler) (elsewhere : Nat → Nat → Bool) : Procedure Unit := do
  releaseAll (s.cache.soleConfigs elsewhere)
  Procedure.call (.destroyContext s.context)

end Sampler

end CounterSampling
