import CounterSampling.Metrics
import CounterSampling.Registry
import CounterSampling.Report
import CounterSampling.Retry
import CounterSampling.RunConfig

/-!
# Runs

A run samples every agent of a registry, each with retries, and makes one section per agent in the
order of the registry. Agents are independent tasks. They are carried out one after another, or
interleaved call by call as a schedule says; a schedule covers every way in which tasks that run at
the same time can take turns.
-/

namespace CounterSampling

namespace Procedure

variable {α : Type}

/-- Make the next call only. -/
def step : Procedure α → Procedure (Procedure α)
  | .done a => .done (.done a)
  | .ask c next => .ask c fun r => .done (next r)

/-- Carry out procedures one after another. -/
def inOrder : List (Procedure α) → Procedure (List α)
  | [] => pure []
  | p :: ps => do
    let a ← p
    let as ← inOrder ps
    return a :: as

/-- Carry out procedures call by call: the next call is made by the one with the next number of the
schedule. What is left when the schedule ends is carried out in order. -/
def interleave : List Nat → List (Procedure α) → Procedure (List α)
  | [], ps => inOrder ps
  | i :: schedule, ps =>
    match ps[i]? with
    | some p => do
      let p ← p.step
      interleave schedule (ps.set i p)
    | none => interleave schedule ps

end Procedure

/-- What comes of sampling an agent: its output and the statistics of its cache, or the text of the
last attempt's error. -/
abbrev AgentOutcome : Type := Except String (SampleOutput × CacheStats)

/-- The error text of an attempt that ended abnormally. -/
def abortedAttempt : String := "sampling task panicked"

def Failure.attemptText : Failure → String
  | .error e => e.message
  | .abort _ => abortedAttempt

namespace Run

def attempt (counters : List String) : StateT Sampler Procedure AgentOutcome := do
  match ← (Sampler.sample counters).run with
  | .ok output => return .ok (output, (← get).stats)
  | .error e => return .error e.attemptText

/-- Sample an agent with retries. The device does not see the pauses. -/
def sampleAgent (config : RunConfig) : StateT Sampler Procedure AgentOutcome :=
  retry config.retries.toNat config.retryDelayMs.toNat (attempt config.counterList) fun _ => pure ()

/-- An agent's part of a run. -/
def task (config : RunConfig) (a : AgentSampler) : Procedure (AgentOutcome × AgentSampler) := do
  let (outcome, sampler) ← (sampleAgent config).run a.sampler
  return (outcome, { a with sampler })

/-- The section of an agent. -/
def sectionOf (info : AgentInfo) (outcome : AgentOutcome) : GpuReport :=
  match outcome with
  | .ok (output, _) => .success info output.values.entries output.unpackable output.unsupported
  | .error e => .failure info e

def recordOutcome (m : Metrics) (info : AgentInfo) (outcome : AgentOutcome) : Metrics :=
  match outcome with
  | .ok (output, stats) => m.recordOk info.id output.profiles output.unpackable.length stats
  | .error _ => m.recordError

/-- What is left after a run. -/
structure Result where
  outcomes : List (AgentOutcome × AgentSampler)
  simulated : Bool

def Result.registry (r : Result) : Registry :=
  ⟨r.outcomes.map Prod.snd⟩

def Result.sections (r : Result) : List GpuReport :=
  r.outcomes.map fun o => sectionOf o.2.info o.1

/-- The report of a run made on a host at a time. -/
def Result.report (r : Result) (config : RunConfig) (host : Option String) (timestamp : String) :
    RunReport where
  sections := r.sections
  host := host
  timestamp := timestamp
  durationUs := config.durationUs
  simulated := r.simulated

/-- Count what came of a run. -/
def Result.record (r : Result) (m : Metrics) : Metrics :=
  r.outcomes.foldl (fun m o => recordOutcome m o.2.info o.1) m

/-- Sample every agent of a registry; `schedule` says how agents take turns when they are sampled at
the same time. -/
def run (registry : Registry) (config : RunConfig) (schedule : List Nat := []) :
    Procedure Result := do
  let simulated ← Procedure.call .simulated
  let tasks := registry.samplers.map (task config)
  let outcomes ← if config.parallel then Procedure.interleave schedule tasks
    else Procedure.inOrder tasks
  return { outcomes, simulated }

end Run

end CounterSampling
