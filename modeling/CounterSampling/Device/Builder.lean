import CounterSampling.Device.State

/-!
# Building simulated devices

A builder gathers the agents, counters, limits and failure budgets of a device. Counters are
numbered from `0x100` in the order in which they are added.
-/

namespace CounterSampling.Device

/-- A device under construction and the failures it starts with. -/
structure Builder where
  device : Device := ⟨[], [], Word.max, [], none, [], false⟩
  budgets : Budgets := {}

namespace Builder

/-- The state a built device starts in. -/
def initial (b : Builder) : State := { budgets := b.budgets }

def agent (b : Builder) (a : AgentInfo) : Builder :=
  { b with device := { b.device with agents := b.device.agents ++ [a] } }

/-- What is added to an agent's number to give its GPU number. -/
def gpuNumberBase : Nat := 10000

/-- The minor number of the first render node. -/
def renderBase : Nat := 128

/-- Add a GPU whose other numbers follow from its own and from how many GPUs there are. -/
def gpu (b : Builder) (id : AgentId) : Except Abort Builder :=
  let index := b.device.agents.countP AgentInfo.isGpu % UInt32.size
  if gpuNumberBase + id.val.toNat ≥ UInt64.size then .error .sum
  else if renderBase + index ≥ UInt32.size then .error .sum
  else .ok <| b.agent {
    id
    kind := .gpu
    name := "gfx942"
    gpuId := .ofNat (gpuNumberBase + id.val.toNat)
    renderMinor := .ofNat (renderBase + index)
    logicalNode := .ofNat (index + 1) }

def cpu (b : Builder) (id : AgentId) : Builder :=
  b.agent { id, kind := .cpu, name := "cpu", gpuId := 0, renderMinor := 0, logicalNode := 0 }

/-- Number dimensions from `n` on. -/
def numberDimensions (n : Nat) : List (String × UInt64) → List Dimension
  | [] => []
  | (name, size) :: dims => ⟨⟨.ofNat n⟩, name, size⟩ :: numberDimensions (n + 1) dims

/-- The number of the first counter. -/
def counterBase : Nat := 0x100

/-- Add a counter each of whose records has this value. -/
def counter (b : Builder) (name : String) (dims : List (String × UInt64)) (value : Float) :
    Builder :=
  let c : DeviceCounter := {
    id := ⟨.ofNat (counterBase + b.device.counters.length)⟩
    name
    dimensions := numberDimensions 0 dims
    value }
  { b with device := { b.device with counters := b.device.counters ++ [c] } }

/-- Add `n` counters without dimensions, named by a stem and an index. -/
def counters (b : Builder) (stem : String) (n : Nat) : Builder :=
  (List.range n).foldl (fun b i => b.counter (stem ++ "_" ++ toString i) [] 1.0) b

def hwLimit (b : Builder) (limit : Nat) : Builder :=
  { b with device := { b.device with hwLimit := limit } }

/-- Make a counter one that can never be configured. -/
def reject (b : Builder) (name : String) : Builder :=
  { b with device := { b.device with rejected := name :: b.device.rejected } }

def maxRecords (b : Builder) (n : Nat) : Builder :=
  { b with device := { b.device with maxRecords := some n } }

/-- Make the counters of an agent impossible to list. -/
def failCatalog (b : Builder) (agent : AgentId) : Builder :=
  { b with device := { b.device with catalogFailures := agent :: b.device.catalogFailures } }

def failEnumeration (b : Builder) : Builder :=
  { b with device := { b.device with failEnumeration := true } }

def failBinds (b : Builder) (agent : AgentId) (times : Nat) : Builder :=
  { b with budgets := { b.budgets with bind := b.budgets.bind.insert agent times } }

def failStarts (b : Builder) (agent : AgentId) (times : Nat) : Builder :=
  { b with budgets := { b.budgets with start := b.budgets.start.insert agent times } }

def failReads (b : Builder) (agent : AgentId) (times : Nat) : Builder :=
  { b with budgets := { b.budgets with read := b.budgets.read.insert agent times } }

def failStops (b : Builder) (agent : AgentId) (times : Nat) : Builder :=
  { b with budgets := { b.budgets with stop := b.budgets.stop.insert agent times } }

end Builder

end CounterSampling.Device
