import CounterSampling.Session.Basic

/-!
# Steps of a session

What can be done with the named objects of a session. A step on an object leaves the object as the
step left it, also where the step fails.
-/

namespace CounterSampling.Session

variable {α : Type}

/-- A result or the cause of a failure, as a step. -/
def orFail (r : Except Failure α) : SessionM α :=
  match r with
  | .ok a => pure a
  | .error e => throw (.failed e)

/-- A result or a sampling error, as a step. -/
def orError (r : Except SamplerError α) : SessionM α :=
  orFail (r.mapError .error)

theorem run_orError (r : Except SamplerError α) (s : Session) :
    (orError r).run.run s = (r.mapError fun e => .failed (.error e), s) := by
  cases r <;> rfl

/-- Carry out a procedure, as a step. -/
def carryOut (p : Procedure α) : SessionM α :=
  ExceptT.lift (perform p)

theorem run_carryOut (p : Procedure α) (s : Session) :
    (carryOut p).run.run s = (.ok ((perform p).run s).1, ((perform p).run s).2) := rfl

/-! ## The device -/

/-- Read into a fresh buffer. -/
def read (context : ContextId) (size : Nat) : SessionM (Except BackendError Nat × List Record) := do
  let buffer ← orFail (Sampler.allocate size)
  let answer ← ask (.readRecords context buffer)
  return (answer.count, answer.records)

def injectReadFailures (agent : AgentId) (times : Nat) : StateM Session Unit :=
  modify fun s => { s with state := s.state.injectReadFailures agent times }

/-! ## Catalogs -/

def newCatalog (name : String) (agent : AgentId) : StateM Session Unit :=
  catalogShelf.keep name (.new agent)

def useCatalog (name : String) (c : Catalog) (p : CatalogM α) :
    StateM Session (Except SamplerError α) := do
  let (r, c) ← perform (p.run.run c)
  catalogShelf.write name c
  return r

def withCatalog (name : String) (p : CatalogM α) : SessionM α := do
  let c ← catalogShelf.fetch name
  orError (← useCatalog name c p)

def nameOf (name : String) (r : Record) : SessionM String :=
  withCatalog name (ExceptT.lift (Catalog.nameOf r))

/-! ## Packing -/

/-- Keep a shared thing if a name is given; else let go of it. -/
def keepOrLetGo (sh : Shelf (Shared α)) (keep : Option String) (x : Shared α) :
    StateM Session Unit :=
  match keep with
  | some name => sh.keep name x
  | none => sh.letGo x

/-- Pack a request with what a catalog knows. -/
def pack (catalog : String) (packer : Packer) (request : List String) (keep : Option String) :
    SessionM ProfileSet := do
  let set ← withCatalog catalog (packer.pack request)
  let owner ← takeOwners 1
  keepOrLetGo setShelf keep ⟨owner, 0, set⟩
  return set

/-- Whether two kept sets are the same shared thing. -/
def sameSet (a b : String) : SessionM Bool := do
  return (← setShelf.fetch a).same (← setShelf.fetch b)

def expectedRecords (name : String) : SessionM Nat := do
  let set ← setShelf.fetch name
  orFail (set.value.expectedRecords.mapError .abort)

/-! ## Caches -/

def newCache (name : String) : StateM Session Unit := do
  cacheShelf.keep name (.new (← takeOwners 1))

def clearCache (name : String) : SessionM Unit := do
  let c ← cacheShelf.fetch name
  cacheShelf.write name c.cleared
  letGoCache c

/-- What makes a set that a cache does not have. -/
inductive SetFactory where
  /-- Pack the key with what a catalog knows. -/
  | pack (packer : Packer) (catalog : String)
  | empty
  | fail

/-- A look-up in a cache: whether the factory was called, and what came of it. -/
structure LookUp (α : Type) where
  made : Bool
  result : Except SamplerError α

def lookUp (sh : Shelf (Shared α)) (cache : String) (keep : Option String)
    (p : ProfileCache → StateM Session (Except SamplerError (Shared α) × ProfileCache)) :
    SessionM (LookUp α) := do
  let c ← cacheShelf.fetch cache
  let (result, c') ← p c
  cacheShelf.write cache c'
  match result with
  | .ok x => keepOrLetGo sh keep x
  | .error _ => pure ()
  return ⟨c'.stats.misses != c.stats.misses, result.map fun x => x.value⟩

def lookUpSet (cache : String) (counters : List String) (factory : SetFactory)
    (keep : Option String) : SessionM (LookUp ProfileSet) := do
  match factory with
  | .empty => lookUp setShelf cache keep fun c =>
      c.getOrCreateSet counters fun _ => pure (.ok {})
  | .fail => lookUp setShelf cache keep fun c =>
      c.getOrCreateSet counters fun _ => pure (.error .noAgents)
  | .pack packer catalog => do
    let known ← catalogShelf.fetch catalog
    lookUp setShelf cache keep fun c =>
      c.getOrCreateSet counters fun key => useCatalog catalog known (packer.pack key)

/-- Configure exactly the listed counters that the device has. -/
def configureListed (device : Device) (agent : AgentId) (counters : List String) :
    Procedure (Except SamplerError Profile) := do
  match ← Procedure.call (.tryConfigure agent (device.counterIds counters)) with
  | .configured config => return .ok ⟨config, counters, counters.length⟩
  | .capacityExceeded => return .error .capacityExceeded
  | .failed e => return .error (.backend e)

def lookUpProfile (cache : String) (counters : List String) (agent : AgentId)
    (keep : Option String) : SessionM (LookUp Profile) := do
  let device := (← get).device
  lookUp profileShelf cache keep fun c =>
    c.getOrCreateSingle counters fun names => perform (configureListed device agent names)

/-! ## Samplers -/

def newSampler (name : String) (agent : AgentId) (maxPerProfile : Nat) : SessionM Unit := do
  let owner ← takeOwners 1
  let e ← orError (← carryOut (Sampler.new agent owner maxPerProfile))
  samplerShelf.keep name e

theorem run_newSampler (name : String) (agent : AgentId) (maxPerProfile : Nat) (s : Session) :
    ((newSampler name agent maxPerProfile).run.run s).2 =
      let y := (perform (Sampler.new agent s.nextOwner maxPerProfile)).run
        { s with nextOwner := s.nextOwner + 1 }
      match y.1 with
      | .ok e => ((samplerShelf.keep name e).run y.2).2
      | .error _ => y.2 := by
  simp only [newSampler, run_bind, run_lift, run_carryOut, run_orError, run_takeOwners]
  generalize (perform (Sampler.new agent s.nextOwner maxPerProfile)).run _ = y
  obtain ⟨r, s'⟩ := y
  cases r <;> rfl

def withSampler (name : String) (p : SamplerM α) : SessionM α := do
  let e ← samplerShelf.fetch name
  let (r, e) ← carryOut (p.run.run e)
  samplerShelf.write name e
  orFail r

theorem run_withSampler (name : String) (p : SamplerM α) (s : Session) :
    (withSampler name p).run.run s =
      match s.samplers.find? name with
      | none => (.error .missing, s)
      | some e =>
        let y := (perform (p.run.run e)).run s
        (y.1.1.mapError .failed, { y.2 with samplers := y.2.samplers.insert name y.1.2 }) := by
  rw [withSampler, run_bind, run_fetch]
  cases found : s.samplers.find? name with
  | none => rw [show (samplerShelf.read s).find? name = none from found]
  | some e =>
    rw [show (samplerShelf.read s).find? name = some e from found]
    simp only [run_bind, run_carryOut, run_lift]
    generalize (perform (p.run.run e)).run s = y
    obtain ⟨⟨r, e'⟩, s'⟩ := y
    cases r <;> rfl

/-- The set a sampler samples for a request. -/
def profileSet (name : String) (counters : List String) (keep : Option String) :
    SessionM ProfileSet := do
  let set ← withSampler name (Sampler.profileSet counters)
  keepOrLetGo setShelf keep set
  return set.value

theorem run_profileSet (name : String) (counters : List String) (keep : Option String)
    (s : Session) :
    ((profileSet name counters keep).run.run s).2 =
      let y := (withSampler name (Sampler.profileSet counters)).run.run s
      match y.1 with
      | .ok set => ((keepOrLetGo setShelf keep set).run y.2).2
      | .error _ => y.2 := by
  simp only [profileSet, run_bind, run_lift]
  generalize (withSampler name (Sampler.profileSet counters)).run.run s = y
  obtain ⟨r, s'⟩ := y
  cases r <;> rfl

def sampleKept (name : String) (set : String) : SessionM (NameMap Float) := do
  let _ ← samplerShelf.fetch name
  let x ← setShelf.fetch set
  withSampler name (Sampler.sampleProfileSet x.value)

/-! ## Registries and runs -/

def newRegistry (name : String) (maxPerProfile : Nat) : SessionM Registry := do
  let r ← orError (← carryOut (Registry.discover maxPerProfile (← get).nextOwner))
  let _ ← takeOwners r.samplers.length
  registryShelf.keep name r
  return r

/-- Sample every agent of a registry and count what came of it. -/
def runRegistry (name : String) (config : RunConfig) : SessionM Run.Result := do
  let r ← registryShelf.fetch name
  let result ← carryOut (Run.run r config)
  registryShelf.write name result.registry
  modify fun s => { s with metrics := result.record s.metrics }
  return result

/-- Publish statistics of a cache in the metrics. -/
def recordCacheStats (agent : AgentId) (stats : CacheStats) : StateM Session Unit :=
  modify fun s => { s with metrics := s.metrics.recordCacheStats agent stats }

end CounterSampling.Session
