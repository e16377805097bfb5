import CounterSampling.SamplerError
import CounterSampling.Table

/-!
# The counter catalog

A catalog answers questions about the counters of one agent and remembers what it has learned: which
counters there are, the dimensions of a counter and the name of a number. Only what succeeded is
remembered. Names learned while the counters are listed stay known even if the listing fails later.
-/

namespace CounterSampling

structure Catalog where
  agent : AgentId
  /-- The numbers by name, once all counters were listed. -/
  supported : Option (NameMap CounterId) := none
  dimensions : Table CounterId (List Dimension) := .empty
  names : Table CounterId String := .empty

/-- Steps that may change a catalog and may fail; a failure keeps the changes made before it. -/
abbrev CatalogM : Type → Type :=
  ExceptT SamplerError (StateT Catalog Procedure)

namespace Catalog

/-- The name given to records whose counter has none. -/
def unknownCounter : String := "UNKNOWN_COUNTER"

/-- A catalog that knows nothing yet. -/
def new (agent : AgentId) : Catalog := { agent }

/-- Make a call whose failure is a failure of the catalog. -/
def query {α : Type} (p : Procedure (Except BackendError α)) : CatalogM α := do
  match ← (liftM p : StateT Catalog Procedure _) with
  | .ok a => pure a
  | .error e => throw (.catalog (← get).agent e)

/-- Ask for the names of listed counters; of two counters of one name the later counts. -/
def nameAll (known : NameMap CounterId) : List CounterId → CatalogM (NameMap CounterId)
  | [] => pure known
  | id :: ids => do
    let name ← query (.call (.counterName id))
    modify fun c => { c with names := c.names.insert id name }
    nameAll (known.insert name id) ids

def list : CatalogM (NameMap CounterId) := do
  match (← get).supported with
  | some known => pure known
  | none =>
    let ids ← query (.call (.supportedCounters (← get).agent))
    let known ← nameAll .empty ids
    modify fun c => { c with supported := some known }
    pure known

/-- The number of a name, if the agent has such a counter. -/
def lookup (name : String) : CatalogM (Option CounterId) := do
  return (← list).find? name

def dimensionsOf (id : CounterId) : CatalogM (List Dimension) := do
  match (← get).dimensions.find? id with
  | some dims => pure dims
  | none =>
    let dims ← query (.call (.counterDimensions id))
    modify fun c => { c with dimensions := c.dimensions.insert id dims }
    pure dims

/-- How many records one read of a counter gives. -/
def recordCountOf (id : CounterId) : CatalogM Nat := do
  match recordCount? (← dimensionsOf id) with
  | some n => pure n
  | none => throw (.recordCount (← get).agent id)

def nameOf (r : Record) : StateT Catalog Procedure String := do
  match (← get).names.find? r.counter with
  | some name => pure name
  | none =>
    match ← (Procedure.call (.counterName r.counter) : Procedure (Except BackendError String)) with
    | .ok name =>
      modify fun c => { c with names := c.names.insert r.counter name }
      pure name
    | .error _ => pure unknownCounter

/-- Ask for the places of a record along dimensions; of two dimensions of one name the later
counts. -/
def positionsAlong (r : Record) (known : NameMap Nat) : List Dimension → CatalogM (NameMap Nat)
  | [] => pure known
  | d :: ds => do
    let n ← query (.call (.dimensionPosition r d.id))
    positionsAlong r (known.insert d.name n) ds

/-- The places of a record along the dimensions of its counter, by name. -/
def positionsOf (r : Record) : CatalogM (NameMap Nat) := do
  positionsAlong r .empty (← dimensionsOf r.counter)

/-- The counters of a list of names and numbers, each with its dimensions. -/
def describeAll : List (String × CounterId) → CatalogM (List Counter)
  | [] => pure []
  | (name, id) :: rest => do
    let dims ← dimensionsOf id
    let cs ← describeAll rest
    return ⟨id, name, dims⟩ :: cs

/-- Every counter of the agent with its dimensions, in ascending order of names. -/
def describe : CatalogM (List Counter) := do
  describeAll (← list).entries

end Catalog

end CounterSampling
