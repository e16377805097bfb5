import CounterSampling.Backend
import CounterSampling.Table

/-!
# Simulated devices: what they are and what they remember

A `Device` is fixed: its agents, its counters with the value each of their records has, and its
limits. What changes is its `State`: the live configurations and contexts, the numbers to be given
out next, the failures still to be injected, and counts of what was done.
-/

namespace CounterSampling

/-- A counter of a simulated device and the value of each of its records. -/
structure DeviceCounter extends Counter where
  value : Float

structure Device where
  agents : List AgentInfo
  counters : List DeviceCounter
  /-- The most counters one configuration may hold. -/
  hwLimit : Nat
  rejected : List String
  /-- The most records one read returns. -/
  maxRecords : Option Nat
  catalogFailures : List AgentId
  failEnumeration : Bool

namespace Device

/-- How many of the next operations on an agent fail, by kind of operation. -/
structure Budgets where
  bind : Table AgentId Nat := .empty
  start : Table AgentId Nat := .empty
  read : Table AgentId Nat := .empty
  stop : Table AgentId Nat := .empty

structure Context where
  agent : AgentId
  bound : Option ConfigId
  active : Bool
  deriving DecidableEq, Repr

/-- What changes when a device is used. The natural numbers stand for words: numbers and counts
start at zero or one and grow by one with a call, and budgets only shrink, so no history is long
enough to overflow them. -/
structure State where
  nextConfig : Nat := 1
  nextContext : Nat := 1
  configs : Table ConfigId (List CounterId) := .empty
  configsCreated : Nat := 0
  configsDestroyed : Nat := 0
  contexts : Table ContextId Context := .empty
  starts : Nat := 0
  supportedQueries : Nat := 0
  dimensionQueries : Nat := 0
  nameQueries : Nat := 0
  budgets : Budgets := {}

def State.liveConfigs (s : State) : Nat := s.configs.size

def State.liveContexts (s : State) : Nat := s.contexts.size

def State.activeContexts (s : State) : Nat :=
  s.contexts.values.countP fun c => c.active

/-- Make the next reads on an agent fail, this many times. -/
def State.injectReadFailures (s : State) (agent : AgentId) (times : Nat) : State :=
  { s with budgets := { s.budgets with read := s.budgets.read.insert agent times } }

/-- Use up one failure of an agent, if one is left. -/
def takeFailure (budget : Table AgentId Nat) (agent : AgentId) : Option (Table AgentId Nat) :=
  match budget.find? agent with
  | some (n + 1) => some (budget.insert agent n)
  | _ => none

/-- The counter of a number. -/
def counter? (d : Device) (id : CounterId) : Option DeviceCounter :=
  d.counters.find? fun c => decide (c.id = id)

/-- The numbers of counters by name, unknown names left out. -/
def counterIds (d : Device) (names : List String) : List CounterId :=
  names.filterMap fun name => (d.counters.find? fun c => decide (c.name = name)).map fun c => c.id

end Device

end CounterSampling
