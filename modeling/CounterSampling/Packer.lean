import CounterSampling.Catalog
import CounterSampling.Distinct
import CounterSampling.Profile

/-!
# Packing counters into profiles

Whether counters fit one configuration is not a matter of counting them, so the packer asks the
device to build every candidate. It works in rounds. A round goes once over the names that are left
and grows one profile: a name that the agent has no counter for is set aside, a name whose counter
is accepted together with those already in the profile joins it, and every other name is deferred to
the next round. Each configuration that a larger one replaces is released at once. Packing ends when
nothing is left, or with a round that places nothing: the names left then are unpackable.
-/

namespace CounterSampling

structure Packer where
  agent : AgentId
  /-- The most counters a profile may hold, whatever the device accepts. -/
  maxPerProfile : Nat

/-- The most counters per profile unless another limit is set. -/
def defaultMaxPerProfile : Nat := 10

namespace Packer

structure Item where
  name : String
  id : CounterId
  deriving DecidableEq, Repr

/-- A profile that is being grown. -/
structure Candidate where
  members : List Item := []
  size : Nat := 0
  /-- The configuration of exactly the members, if there are any. -/
  config : Option ConfigId := none
  deriving DecidableEq, Repr

/-- A round under way: the profile being grown and the items put off, the latest first. -/
structure Round where
  candidate : Candidate := {}
  putOff : List Item := []
  deriving DecidableEq, Repr

/-- Leave an item to the next round. -/
def Round.defer (r : Round) (i : Item) : Round :=
  { r with putOff := i :: r.putOff }

/-- The items left to the next round, in order. -/
def Round.deferred (r : Round) : List Item :=
  r.putOff.reverse

/-- Split names into counters of the agent and names it does not have. -/
def resolve (known : NameMap CounterId) : List String → List Item × List String
  | [] => ([], [])
  | name :: names =>
    let (items, missing) := resolve known names
    match known.find? name with
    | some id => (⟨name, id⟩ :: items, missing)
    | none => (items, name :: missing)

/-- The record count of a counter, or nothing if it cannot be had. What the catalog learns is kept
in either case. -/
def sizeOf? (id : CounterId) : StateT Catalog Procedure (Option Nat) := do
  match ← (Catalog.recordCountOf id).run with
  | .ok n => pure (some n)
  | .error _ => pure none

/-- Release the configuration that a larger one replaces. -/
def releasePrevious (c : Candidate) : Procedure Unit :=
  match c.config with
  | some config => Procedure.call (.destroyConfig config)
  | none => pure ()

/-- Try to add an item whose records bring the profile to `total`. -/
def tryAdd (p : Packer) (r : Round) (i : Item) (total : Nat) : Procedure Round := do
  let members := r.candidate.members ++ [i]
  match ← Procedure.call (.tryConfigure p.agent (members.map fun m => m.id)) with
  | .configured config =>
    releasePrevious r.candidate
    return { r with candidate := ⟨members, total, some config⟩ }
  | .capacityExceeded => return r.defer i
  | .failed _ => return r.defer i

/-- Consider one item: it joins the profile or is deferred. -/
def consider (p : Packer) (r : Round) (i : Item) : StateT Catalog Procedure Round := do
  if p.maxPerProfile ≤ r.candidate.members.length then return r.defer i
  match ← sizeOf? i.id with
  | none => return r.defer i
  | some size =>
    match Word.add? r.candidate.size size with
    | none => return r.defer i
    | some total => p.tryAdd r i total

def round (p : Packer) (r : Round) : List Item → StateT Catalog Procedure Round
  | [] => pure r
  | i :: is => do
    let r ← p.consider r i
    p.round r is

def Candidate.profile (c : Candidate) (config : ConfigId) : Profile :=
  ⟨config, c.members.map fun m => m.name, c.size⟩

/-- Pack names in rounds. A round sets the names aside that the agent has no counter for, which only
the first one meets, and considers the counters of the others. Every round but the last places one,
so as many rounds as there are names are enough. -/
def packNames (p : Packer) (known : NameMap CounterId) :
    Nat → List String → StateT Catalog Procedure ProfileSet
  | _, [] => pure {}
  | 0, names => pure { unpackable := names }
  | fuel + 1, names => do
    let (items, unsupported) := resolve known names
    let r ← p.round {} items
    let left := r.deferred.map fun i => i.name
    match r.candidate.config with
    | none => return { unsupported, unpackable := left }
    | some config =>
      let rest ← p.packNames known fuel left
      return {
        profiles := r.candidate.profile config :: rest.profiles
        unsupported := unsupported ++ rest.unsupported
        unpackable := rest.unpackable }

/-- Pack a request. It fails only if the counters of the agent cannot be listed. -/
def pack (p : Packer) (request : List String) : CatalogM ProfileSet := do
  let known ← Catalog.list
  let names := distinct request
  p.packNames known names.length names

end Packer

end CounterSampling
