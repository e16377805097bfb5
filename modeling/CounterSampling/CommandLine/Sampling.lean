import CounterSampling.CommandLine.Listing
import CounterSampling.Config.Load
import CounterSampling.Run

/-!
# Sampling from the command line

What is given on the command line hides the configuration that was loaded. The report is printed or
written to a file, then the metrics are written, and notices sum up the run.
-/

namespace CounterSampling.CommandLine

variable {m : Type → Type} [Monad m]

open CommandM

/-! ## The configuration -/

/-- The microseconds of a sampling window. -/
def readWindow (text : String) : Except CommandError UInt64 := do
  let window ← (Duration.ofString? text).mapError .ofWindow
  if window.micros ≤ Word.max then .ok (.ofNat window.micros) else .error .windowRange

namespace SampleOptions

/-- A configuration where what was given, and the window if one was, takes the place of what was
loaded. -/
def override (o : SampleOptions) (window : Option UInt64) (c : RunConfig) : RunConfig :=
  { c with
    durationUs := window.getD c.durationUs
    counters := if o.counters.isEmpty then c.counters else o.counters
    parallel := if o.sequential then false else c.parallel
    retries := o.retries.getD c.retries
    ptlGuard := if o.noPowerGuard then false else c.ptlGuard }

/-- The microseconds of the window that was given, if one was. -/
def window? (o : SampleOptions) : Except CommandError (Option UInt64) :=
  match o.duration with
  | some text => (readWindow text).map some
  | none => .ok none

/-- The configuration of a run: defaults, file, environment and command line, each over those
before. -/
def runConfig (o : SampleOptions) (file : Option (String × FileState))
    (environment : List (String × String)) : Except CommandError RunConfig := do
  let loaded ← (RunConfig.load file environment).mapError .ofLoad
  let config := o.override (← o.window?) loaded
  config.validate.mapError .invalid
  return config

end SampleOptions

/-- The configuration file that was given, if one was. -/
def configFile (h : Host m) : Option String → m (Option (String × FileState))
  | some path => do return some (path, ← ConfigFile.find h.look (← h.directory) path)
  | none => return none

/-! ## The run -/

/-- Discover the GPUs and sample them. -/
def sampleAll (config : RunConfig) : Procedure (Except CommandError Run.Result) := do
  match ← Registry.discover config.maxCountersPerProfile.toNat 0 with
  | .error e => return .error (.discovery e)
  | .ok registry => return .ok (← Run.run registry config)

/-- Print a report or write it to a file. -/
def writeReport (h : Host m) (report : RunReport) : Option String → CommandM m Unit
  | none => onHost (h.print report.fileText)
  | some path => do
    orFail ((← onHost (h.write path report.fileText)).mapError fun e =>
      .report (.ofWrite path report e))
    onHost (h.notify ⟨.success, "Report written to " ++ path⟩)

/-- Write the metrics of a run to a file. -/
def writeMetrics (h : Host m) (metrics : Metrics) : Option String → CommandM m Unit
  | none => pure ()
  | some path => do
    orFail ((← onHost (h.write path metrics.text)).mapError fun e => .metrics path e.cause)

/-- The notice about a GPU that could not be sampled. -/
def failureNotice? (g : GpuReport) : Option Notice :=
  match g.error with
  | some e => some ⟨.failure, "GPU " ++ g.gpuId ++ " (renderD" ++ g.renderId ++ "): " ++ e⟩
  | none => none

/-- The notices that sum up a run. -/
def summary (r : RunReport) : List Notice :=
  let failed := r.failedCount
  let total := toString r.sections.length
  r.sections.filterMap failureNotice? ++
    [if failed = 0 then ⟨.success, "Sampled " ++ total ++ " GPU(s)"⟩
      else ⟨.warning, toString failed ++ " of " ++ total ++ " GPU(s) failed"⟩] ++
    if r.droppedCount = 0 then []
    else [⟨.warning, toString r.droppedCount ++ " counter(s) could not be scheduled"⟩]

/-- Show notices. -/
def notifyAll (h : Host m) : List Notice → CommandM m Unit
  | [] => pure ()
  | n :: ns => do
    onHost (h.notify n)
    notifyAll h ns

/-- Sample every GPU and report. -/
def sample (h : Host m) (o : SampleOptions) : CommandM m Unit := do
  let file ← onHost (configFile h o.config)
  let config ← orFail (o.runConfig file (← onHost h.environment))
  let device ← orFail (connect o.gpus)
  let result ← orFail (onDevice device (sampleAll config))
  let report := result.report config (← onHost h.name) (← onHost h.time)
  writeReport h report o.output
  writeMetrics h (result.record {}) o.metrics
  notifyAll h (summary report)
  if report.allFailed then throw (.allFailed report.sections.length)

end CounterSampling.CommandLine
