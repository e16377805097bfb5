import CounterSampling.Backend

/-!
# Sampling errors

What can go wrong while counters are listed, packed and sampled, and how each cause is worded.
-/

namespace CounterSampling

/-- The steps of sampling one profile. -/
inductive SamplingStage where
  | bind
  | start
  | read
  | stop
  deriving DecidableEq, Repr

def SamplingStage.text : SamplingStage → String
  | .bind => "bind profile"
  | .start => "start context"
  | .read => "read records"
  | .stop => "stop context"

inductive SamplerError where
  /-- Counters or dimensions could not be listed. -/
  | catalog (agent : AgentId) (cause : BackendError)
  /-- The records of a counter, or of a profile up to it, do not fit a word. -/
  | recordCount (agent : AgentId) (counter : CounterId)
  /-- A set that has to be one profile does not fit the hardware. -/
  | capacityExceeded
  /-- A profile could not be built for another reason than capacity. -/
  | configuration (agent : AgentId) (cause : BackendError)
  /-- A step of sampling failed. -/
  | sampling (agent : AgentId) (stage : SamplingStage) (cause : BackendError)
  /-- There is no GPU. -/
  | noAgents
  /-- A call failed outside of sampling. -/
  | backend (cause : BackendError)
  deriving DecidableEq, Repr

def SamplerError.message : SamplerError → String
  | .catalog agent cause =>
    "counter catalog query failed on " ++ agent.text ++ ": " ++ cause.text
  | .recordCount agent counter =>
    "record count of counter " ++ counter.text ++ " on " ++ agent.text ++ " overflows"
  | .capacityExceeded => "counter set exceeds hardware capacity"
  | .configuration agent cause =>
    "could not create profile on " ++ agent.text ++ ": " ++ cause.text
  | .sampling agent stage cause =>
    "sampling failed on " ++ agent.text ++ " (" ++ stage.text ++ "): " ++ cause.text
  | .noAgents => "no GPU agents found"
  | .backend cause => cause.text

/-- How a sampling call can end without a result. -/
inductive Failure where
  | error (e : SamplerError)
  | abort (a : Abort)
  deriving DecidableEq, Repr

end CounterSampling
