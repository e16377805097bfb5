import CounterSampling.Agent
import CounterSampling.Decimal.Numeral

/-!
# Reports

A run gives one section per sampled GPU. A section either carries the metrics of a successful
sampling and the counters that had to be left out, or the text of the error that ended it.
-/

namespace CounterSampling

inductive SectionStatus where
  | ok
  | error
  deriving DecidableEq, Repr

/-- One sampled counter and its value as text. -/
structure Metric where
  field : String
  value : String
  deriving DecidableEq, Repr

structure GpuReport where
  gpuId : String
  renderId : String
  logicalNode : String
  metrics : List Metric
  status : SectionStatus
  error : Option String
  /-- Counters the device has but no profile could hold. -/
  dropped : List String
  /-- Counters the device does not have. -/
  unsupported : List String
  deriving DecidableEq, Repr

structure RunReport where
  sections : List GpuReport
  host : Option String
  timestamp : String
  /-- The sampling window in microseconds. -/
  durationUs : UInt64
  /-- Whether the values come from a simulated device. -/
  simulated : Bool
  deriving DecidableEq, Repr

/-- The magnitude from which on whole values are no longer written as integers, `10 ^ 15`. -/
def wholeValueLimit : Nat := 1000000000000000

/-- The text of a value: an integer where the value is whole and below the limit in magnitude,
otherwise the double in running text. -/
def formatValue (x : Float) : String :=
  match Decimal.Binary64.ofFloat x with
  | .finite negative b =>
    match b.whole? with
    | some n =>
      if n < wholeValueLimit then (if negative && n != 0 then "-" else "") ++ toString n
      else Decimal.plainText x
    | none => Decimal.plainText x
  | _ => Decimal.plainText x

def GpuReport.success (agent : AgentInfo) (values : List (String × Float))
    (dropped unsupported : List String) : GpuReport where
  gpuId := toString agent.gpuId.toNat
  renderId := toString agent.renderMinor.toNat
  logicalNode := toString agent.logicalNode.toNat
  metrics := values.map fun v => ⟨v.1, formatValue v.2⟩
  status := .ok
  error := none
  dropped := dropped
  unsupported := unsupported

/-- The section of a GPU that could not be sampled. -/
def GpuReport.failure (agent : AgentInfo) (error : String) : GpuReport where
  gpuId := toString agent.gpuId.toNat
  renderId := toString agent.renderMinor.toNat
  logicalNode := toString agent.logicalNode.toNat
  metrics := []
  status := .error
  error := some error
  dropped := []
  unsupported := []

def GpuReport.isOk (g : GpuReport) : Bool :=
  g.status == .ok

def RunReport.failedCount (r : RunReport) : Nat :=
  r.sections.countP fun g => !g.isOk

/-- Whether there were GPUs and none could be sampled. -/
def RunReport.allFailed (r : RunReport) : Bool :=
  !r.sections.isEmpty && r.failedCount == r.sections.length

def RunReport.droppedCount (r : RunReport) : Nat :=
  r.sections.foldl (fun n g => n + g.dropped.length) 0

end CounterSampling
