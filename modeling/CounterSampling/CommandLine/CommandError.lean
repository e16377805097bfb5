import CounterSampling.Config.Load
import CounterSampling.ReportFile
import CounterSampling.SamplerError

/-!
# Errors of commands

Why a command ends without doing what it was asked for. The text of an error says what could not be
done, followed by the cause.
-/

namespace CounterSampling.CommandLine

inductive CommandError where
  | agents (cause : BackendError)
  /-- No sampler could be set up. -/
  | discovery (cause : SamplerError)
  | noSuchGpu (agent : AgentId)
  | noGpus
  /-- The counters of an agent could not be listed. -/
  | counters (agent : AgentId) (cause : SamplerError)
  | load (cause : LoadError)
  /-- The text of the sampling window is no duration. -/
  | window (cause : Duration.ReadError)
  /-- The sampling window has too many microseconds. -/
  | windowRange
  | invalid (cause : RunConfig.Invalid)
  | report (cause : ReportFileError)
  | metrics (path : String) (cause : FileError)
  /-- There were GPUs, and none could be sampled. -/
  | allFailed (gpus : Nat)
  /-- A computation ended abnormally. -/
  | abort (cause : Abort)
  deriving DecidableEq, Repr

namespace CommandError

/-- What a sampling that fails makes of a command. -/
def ofFailure (f : SamplerError → CommandError) : Failure → CommandError
  | .error e => f e
  | .abort a => .abort a

def ofLoad : LoadError → CommandError
  | .abort a => .abort a
  | e => .load e

def ofWindow : Duration.ReadError → CommandError
  | .abort a => .abort a
  | e => .window e

/-- What could not be done. -/
def message : CommandError → String
  | .agents _ => "Failed to enumerate agents"
  | .discovery _ => "Failed to discover GPU agents"
  | .noSuchGpu agent => "No GPU agent with id " ++ toString agent.val.toNat
  | .noGpus => "No GPU agents found"
  | .counters agent _ => "Failed to list counters of " ++ agent.text
  | .load cause => cause.message
  | .window _ => "Failed to parse duration"
  | .windowRange => "Duration out of range"
  | .invalid cause => cause.message
  | .report cause => cause.message
  | .metrics path _ => "Failed to write metrics to " ++ path
  | .allFailed gpus => "Sampling failed on all " ++ toString gpus ++ " GPU(s)"
  | .abort cause => cause.message

/-- The cause, where it is worth telling. -/
def cause? : CommandError → Option String
  | .agents cause => some cause.text
  | .discovery cause => some cause.message
  | .counters _ cause => some cause.message
  | .load cause => cause.cause?
  | .window cause => some cause.message
  | .windowRange => some Text.IntegerError.tooLarge.message
  | .report cause => cause.cause?
  | .metrics _ cause => some cause.message
  | _ => none

def text (e : CommandError) : String :=
  e.message ++ (match e.cause? with
    | some cause => ": " ++ cause
    | none => "")

end CommandError

end CounterSampling.CommandLine
