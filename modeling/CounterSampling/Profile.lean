import CounterSampling.Backend

/-!
# Profiles and profile sets

A profile is a configuration together with the counters it holds, which are sampled at the same
time. A profile set covers a requested list of counters and says which names it could not cover.
-/

namespace CounterSampling

structure Profile where
  config : ConfigId
  /-- The counters of the profile, in the order in which they were packed. -/
  counters : List String
  /-- How many records one read gives, which is the size of its buffer. -/
  expectedSize : Nat
  deriving DecidableEq, Repr

structure ProfileSet where
  /-- The profiles, in the order in which they are sampled. -/
  profiles : List Profile := []
  /-- Requested names the agent has no counter for. -/
  unsupported : List String := []
  /-- Names of counters that no configuration could be built for. -/
  unpackable : List String := []
  deriving DecidableEq, Repr

namespace ProfileSet

def size (s : ProfileSet) : Nat := s.profiles.length

def isEmpty (s : ProfileSet) : Bool := s.profiles.isEmpty

/-- The names that will be sampled, in order. -/
def counterNames (s : ProfileSet) : List String :=
  s.profiles.flatMap fun p => p.counters

/-- Add sizes to a total that has to stay within a word. -/
def addSizes (total : Nat) : List Profile → Except Abort Nat
  | [] => .ok total
  | p :: ps =>
    match Word.add? total p.expectedSize with
    | some n => addSizes n ps
    | none => .error .sum

/-- How many records one pass over all profiles gives. -/
def expectedRecords (s : ProfileSet) : Except Abort Nat :=
  addSizes 0 s.profiles

/-- The configurations of the set. -/
def configs (s : ProfileSet) : List ConfigId :=
  s.profiles.map fun p => p.config

end ProfileSet

/-- Something that several holders share. Its owner and the number of the look-up that made it tell
it from every other shared thing, also from one with the same content. -/
structure Shared (α : Type) where
  owner : Nat
  serial : Nat
  value : α
  deriving DecidableEq

/-- The shared thing with its value replaced; who shares it stays the same. -/
def Shared.map {α β : Type} (f : α → β) (x : Shared α) : Shared β :=
  ⟨x.owner, x.serial, f x.value⟩

/-- Whether two holders share the same thing. -/
def Shared.same {α β : Type} (a : Shared α) (b : Shared β) : Bool :=
  a.owner == b.owner && a.serial == b.serial

/-- Release configurations. -/
def releaseAll : List ConfigId → Procedure Unit
  | [] => pure ()
  | c :: cs => do
    Procedure.call (.destroyConfig c)
    releaseAll cs

end CounterSampling
