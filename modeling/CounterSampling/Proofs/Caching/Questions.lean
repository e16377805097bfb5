import CounterSampling.Proofs.Possession.Learning

/-!
# What a catalog answers

A catalog can be asked seven questions. Beside it stands a catalog that remembers nothing and puts
every question to the backend anew. Where the backend always answers an inquiry in the same way,
both come to the same answers, which the facts it tells determine: `CatalogQuestion.ask_learns` and
`CatalogQuestion.askAnew_learns`.
-/

namespace CounterSampling

open Procedure

/-- What a catalog can be asked. -/
inductive CatalogQuestion where
  | list
  | lookup (name : String)
  | dimensionsOf (id : CounterId)
  | recordCountOf (id : CounterId)
  | nameOf (r : Record)
  | positionsOf (r : Record)
  | describe

@[reducible] def CatalogQuestion.Answer : CatalogQuestion → Type
  | .list => Except SamplerError (NameMap CounterId)
  | .lookup _ => Except SamplerError (Option CounterId)
  | .dimensionsOf _ => Except SamplerError (List Dimension)
  | .recordCountOf _ => Except SamplerError Nat
  | .nameOf _ => String
  | .positionsOf _ => Except SamplerError (NameMap Nat)
  | .describe => Except SamplerError (List Counter)

/-- Ask a catalog. -/
def CatalogQuestion.ask : (q : CatalogQuestion) → StateT Catalog Procedure q.Answer
  | .list => Catalog.list.run
  | .lookup name => (Catalog.lookup name).run
  | .dimensionsOf id => (Catalog.dimensionsOf id).run
  | .recordCountOf id => (Catalog.recordCountOf id).run
  | .nameOf r => Catalog.nameOf r
  | .positionsOf r => (Catalog.positionsOf r).run
  | .describe => Catalog.describe.run

/-! The catalog that remembers nothing. -/

namespace Uncached

abbrev UncachedM : Type → Type := ExceptT SamplerError Procedure

variable (agent : AgentId)

/-- Make a call whose failure is a failure of the catalog. -/
def query {α : Type} (p : Procedure (Except BackendError α)) : UncachedM α :=
  .mk do return (← p).mapError (.catalog agent)

/-- Of two counters of one name the later counts. -/
def nameAll (known : NameMap CounterId) : List CounterId → UncachedM (NameMap CounterId)
  | [] => pure known
  | id :: ids => do
    let name ← query agent (.call (.counterName id))
    nameAll (known.insert name id) ids

def list : UncachedM (NameMap CounterId) := do
  nameAll agent .empty (← query agent (.call (.supportedCounters agent)))

def lookup (name : String) : UncachedM (Option CounterId) := do
  return (← list agent).find? name

def dimensionsOf (id : CounterId) : UncachedM (List Dimension) :=
  query agent (.call (.counterDimensions id))

def recordCountOf (id : CounterId) : UncachedM Nat := do
  match recordCount? (← dimensionsOf agent id) with
  | some n => pure n
  | none => throw (.recordCount agent id)

def nameOf (r : Record) : Procedure String := do
  match ← (Procedure.call (.counterName r.counter) : Procedure (Except BackendError String)) with
  | .ok name => pure name
  | .error _ => pure Catalog.unknownCounter

/-- Of two dimensions of one name the later counts. -/
def positionsAlong (r : Record) (known : NameMap Nat) : List Dimension → UncachedM (NameMap Nat)
  | [] => pure known
  | d :: ds => do
    let n ← query agent (.call (.dimensionPosition r d.id))
    positionsAlong r (known.insert d.name n) ds

def positionsOf (r : Record) : UncachedM (NameMap Nat) := do
  positionsAlong agent r .empty (← dimensionsOf agent r.counter)

def describeAll : List (String × CounterId) → UncachedM (List Counter)
  | [] => pure []
  | (name, id) :: rest => do
    let dims ← dimensionsOf agent id
    let cs ← describeAll rest
    return ⟨id, name, dims⟩ :: cs

def describe : UncachedM (List Counter) := do
  describeAll agent (← list agent).entries

end Uncached

/-- Put a question about the counters of an agent to the backend. -/
def CatalogQuestion.askAnew (agent : AgentId) : (q : CatalogQuestion) → Procedure q.Answer
  | .list => (Uncached.list agent).run
  | .lookup name => (Uncached.lookup agent name).run
  | .dimensionsOf id => (Uncached.dimensionsOf agent id).run
  | .recordCountOf id => (Uncached.recordCountOf agent id).run
  | .nameOf r => Uncached.nameOf r
  | .positionsOf r => (Uncached.positionsOf agent r).run
  | .describe => (Uncached.describe agent).run

/-! What the facts answer. -/

namespace Facts

variable (F : Facts) (agent : AgentId)

def lookup (name : String) : Except SamplerError (Option CounterId) := do
  return (← (F.listing agent).mapError (.catalog agent)).find? name

def recordCountOf (id : CounterId) : Except SamplerError Nat := do
  match recordCount? (← (F.dimensions id).mapError (.catalog agent)) with
  | some n => .ok n
  | none => .error (.recordCount agent id)

/-- The answer to a question about the counters of an agent. -/
def answer : (q : CatalogQuestion) → q.Answer
  | .list => (F.listing agent).mapError (.catalog agent)
  | .lookup name => F.lookup agent name
  | .dimensionsOf id => (F.dimensions id).mapError (.catalog agent)
  | .recordCountOf id => F.recordCountOf agent id
  | .nameOf r => F.nameOf r.counter
  | .positionsOf r => (F.positions r).mapError (.catalog agent)
  | .describe => F.describe agent

end Facts

variable {F : Facts} {agent : AgentId}

namespace Catalog

theorem recordCountOf_told (id : CounterId) :
    StepsLearn F agent (fun r => r = F.recordCountOf agent id) (recordCountOf id).run := by
  refine (dimensionsOf_learns id).told fun dims => ?_
  cases recordCount? dims with
  | some n => exact stepsLearn_ok rfl
  | none =>
    intro c truthful
    refine ⟨?_, truthful⟩
    exact congrArg (fun agent => Except.error (SamplerError.recordCount agent id)) truthful.agent_eq

end Catalog

/-- A truthful catalog answers with the facts and stays truthful. -/
theorem CatalogQuestion.ask_learns (q : CatalogQuestion) :
    StepsLearn F agent (fun a => a = F.answer agent q) q.ask := by
  cases q with
  | list => exact Catalog.list_learns
  | lookup name => exact Catalog.list_learns.told fun known => stepsLearn_ok rfl
  | dimensionsOf id => exact Catalog.dimensionsOf_learns id
  | recordCountOf id => exact Catalog.recordCountOf_told id
  | nameOf r => exact Catalog.nameOf_learns r
  | positionsOf r => exact Catalog.positionsOf_learns r
  | describe => exact Catalog.describe_told

/-! The same for the catalog that remembers nothing. -/

theorem Procedure.Learns.told {α β ε : Type} {x : Except ε α} {f : α → Except ε β}
    {m : ExceptT ε Procedure α} {k : α → ExceptT ε Procedure β}
    (h : m.run.Learns F fun r => r = x) (later : ∀ a, (k a).run.Learns F fun r => r = f a) :
    (m >>= k).run.Learns F fun r => r = x >>= f := by
  rw [ExceptT.run_bind]
  refine h.bind fun r same => ?_
  rw [← same]
  cases r with
  | ok a => exact later a
  | error e => exact rfl

namespace Uncached

theorem query_told {α : Type} {x : Except BackendError α}
    {p : Procedure (Except BackendError α)} (asks : p.Learns F fun r => r = x) :
    (query agent p).run.Learns F fun r => r = x.mapError (.catalog agent) := by
  refine asks.bind fun r same => ?_
  rw [same]
  exact rfl

theorem nameAll_told (known : NameMap CounterId) (ids : List CounterId) :
    (nameAll agent known ids).run.Learns F
      fun r => r = (F.nameAll known ids).mapError (.catalog agent) := by
  induction ids generalizing known with
  | nil => exact rfl
  | cons id ids ih =>
    have one : (F.nameAll known (id :: ids)).mapError (SamplerError.catalog agent) =
        (F.named id).mapError (.catalog agent) >>= fun name =>
          (F.nameAll (known.insert name id) ids).mapError (.catalog agent) := by
      rw [Facts.nameAll]
      cases F.named id <;> rfl
    rw [one]
    have asked : (query agent (call (.counterName id))).run.Learns F _ :=
      query_told (learns_call (F := F) (c := .counterName id) trivial)
    exact asked.told fun name => ih _

theorem list_told :
    (list agent).run.Learns F fun r => r = (F.listing agent).mapError (.catalog agent) := by
  have one : (F.listing agent).mapError (SamplerError.catalog agent) =
      (F.listed agent).mapError (.catalog agent) >>= fun ids =>
        (F.nameAll .empty ids).mapError (.catalog agent) := by
    rw [Facts.listing]
    cases F.listed agent <;> rfl
  rw [one]
  have asked : (query agent (call (.supportedCounters agent))).run.Learns F _ :=
    query_told (learns_call (F := F) (c := .supportedCounters agent) trivial)
  exact asked.told fun ids => nameAll_told .empty ids

theorem lookup_told (name : String) :
    (lookup agent name).run.Learns F fun r => r = F.lookup agent name :=
  list_told.told fun _ => rfl

theorem dimensionsOf_told (id : CounterId) :
    (dimensionsOf agent id).run.Learns F
      fun r => r = (F.dimensions id).mapError (.catalog agent) :=
  query_told (learns_call (F := F) (c := .counterDimensions id) trivial)

theorem recordCountOf_told (id : CounterId) :
    (recordCountOf agent id).run.Learns F fun r => r = F.recordCountOf agent id := by
  refine (dimensionsOf_told id).told fun dims => ?_
  cases recordCount? dims <;> exact rfl

theorem nameOf_told (r : Record) : (nameOf r).Learns F fun name => name = F.nameOf r.counter := by
  refine (learns_call (F := F) (c := .counterName r.counter) trivial).bind fun answer told => ?_
  cases answer with
  | ok name => exact (Catalog.nameOf_of_told told.symm).symm
  | error e => exact (Catalog.nameOf_of_untold told.symm).symm

theorem positionsAlong_told (r : Record) (known : NameMap Nat) (dims : List Dimension) :
    (positionsAlong agent r known dims).run.Learns F
      fun x => x = (F.positionsAlong r known dims).mapError (.catalog agent) := by
  induction dims generalizing known with
  | nil => exact rfl
  | cons dim dims ih =>
    have one : (F.positionsAlong r known (dim :: dims)).mapError (SamplerError.catalog agent) =
        (F.position r dim.id).mapError (.catalog agent) >>= fun n =>
          (F.positionsAlong r (known.insert dim.name n) dims).mapError (.catalog agent) := by
      rw [Facts.positionsAlong]
      cases F.position r dim.id <;> rfl
    rw [one]
    have asked : (query agent (call (.dimensionPosition r dim.id))).run.Learns F _ :=
      query_told (learns_call (F := F) (c := .dimensionPosition r dim.id) trivial)
    exact asked.told fun n => ih _

theorem positionsOf_told (r : Record) :
    (positionsOf agent r).run.Learns F fun x => x = (F.positions r).mapError (.catalog agent) := by
  have one : (F.positions r).mapError (SamplerError.catalog agent) =
      (F.dimensions r.counter).mapError (.catalog agent) >>= fun dims =>
        (F.positionsAlong r .empty dims).mapError (.catalog agent) := by
    rw [Facts.positions]
    cases F.dimensions r.counter <;> rfl
  rw [one]
  exact (dimensionsOf_told r.counter).told fun dims => positionsAlong_told r .empty dims

theorem describeAll_told (listed : List (String × CounterId)) :
    (describeAll agent listed).run.Learns F fun r => r = F.describeAll agent listed := by
  induction listed with
  | nil => exact rfl
  | cons entry listed ih =>
    exact (dimensionsOf_told entry.2).told fun dims => Learns.told ih fun cs => rfl

theorem describe_told : (describe agent).run.Learns F fun r => r = F.describe agent :=
  list_told.told fun known => describeAll_told known.entries

end Uncached

theorem CatalogQuestion.askAnew_learns (q : CatalogQuestion) :
    (q.askAnew agent).Learns F fun a => a = F.answer agent q := by
  cases q with
  | list => exact Uncached.list_told
  | lookup name => exact Uncached.lookup_told name
  | dimensionsOf id => exact Uncached.dimensionsOf_told id
  | recordCountOf id => exact Uncached.recordCountOf_told id
  | nameOf r => exact Uncached.nameOf_told r
  | positionsOf r => exact Uncached.positionsOf_told r
  | describe => exact Uncached.describe_told

end CounterSampling
