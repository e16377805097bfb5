import CounterSampling.CommandLine.Command
import CounterSampling.CommandLine.CommandError
import CounterSampling.CommandLine.Host
import CounterSampling.DataFormat
import CounterSampling.Device.Answer
import CounterSampling.Device.Mi300
import CounterSampling.Registry

/-!
# Listing agents and counters

Both lists are printed either as data or as one line per entry, with a notice that counts them.
-/

namespace CounterSampling.CommandLine

variable {m : Type → Type} [Monad m] {α : Type}

/-- Commands on a host; an error ends a command. -/
abbrev CommandM (m : Type → Type) : Type → Type := ExceptT CommandError m

namespace CommandM

/-- A result or an error, as a step of a command. -/
def orFail (r : Except CommandError α) : CommandM m α := ExceptT.mk (pure r)

/-- Something that only the host does. -/
def onHost (p : m α) : CommandM m α := ExceptT.lift p

end CommandM

open CommandM

/-- The device that commands work on. -/
def connect (gpus : Nat) : Except CommandError Device.Builder :=
  (Device.mi300 gpus).mapError .abort

/-- Carry out a procedure on a device that nothing was done with yet. -/
def onDevice (b : Device.Builder) (p : Procedure α) : α :=
  (p.run b.device.backend b.initial).1

def printLine (h : Host m) (line : String) : CommandM m Unit :=
  onHost (h.print (line ++ "\n"))

def printLines (h : Host m) : List String → CommandM m Unit
  | [] => pure ()
  | line :: lines => do
    printLine h line
    printLines h lines

/-! ## Agents -/

def listAgents (h : Host m) (o : AgentsOptions) : CommandM m Unit := do
  let device ← orFail (connect o.gpus)
  let agents ← orFail ((onDevice device (.call .agents)).mapError .agents)
  if o.asData then
    printLine h (AgentInfo.codec.list.pretty agents)
  else
    let gpus := agents.countP AgentInfo.isGpu
    onHost (h.notify ⟨.info, toString agents.length ++ " agents (" ++ toString gpus ++ " GPU)"⟩)
    printLines h (agents.map AgentInfo.description)
    if gpus = 0 then onHost (h.notify ⟨.warning, "No GPU agents found"⟩)

/-! ## Counters -/

/-- A text with blanks after it, up to a width. -/
def padEnd (width : Nat) (s : String) : String :=
  s ++ String.ofList (List.replicate (width - s.length) ' ')

/-- A text with blanks before it, up to a width. -/
def padStart (width : Nat) (s : String) : String :=
  String.ofList (List.replicate (width - s.length) ' ') ++ s

/-- The dimensions of a counter with their sizes. -/
def dimensionsText : List Dimension → String
  | [] => "-"
  | dims => " x ".intercalate (dims.map fun d => d.name ++ "[" ++ toString d.size.toNat ++ "]")

def counterLine (c : Counter) : String :=
  padEnd 40 c.name ++ " " ++ padStart 6 (toString c.recordCount) ++ " records  " ++
    dimensionsText c.dimensions

/-- The sampler that a command asks for. -/
def chooseSampler (r : Registry) : Option AgentId → Except CommandError AgentSampler
  | some agent =>
    match r.samplers.find? fun a => decide (a.info.id = agent) with
    | some a => .ok a
    | none => .error (.noSuchGpu agent)
  | none =>
    match r.samplers with
    | a :: _ => .ok a
    | [] => .error .noGpus

/-- Discover the GPUs and list the counters of one of them. -/
def countersOf (agent : Option AgentId) :
    Procedure (Except CommandError (AgentInfo × List Counter)) := do
  match ← Registry.discover defaultMaxPerProfile 0 with
  | .error e => return .error (.discovery e)
  | .ok registry =>
    match chooseSampler registry agent with
    | .error e => return .error e
    | .ok a => do
      let (r, _) ← Sampler.supportedCounters.run.run a.sampler
      return match r with
        | .ok counters => .ok (a.info, counters)
        | .error e => .error (.ofFailure (.counters a.info.id) e)

def listCounters (h : Host m) (o : CountersOptions) : CommandM m Unit := do
  let device ← orFail (connect o.gpus)
  let (info, counters) ← orFail (onDevice device (countersOf o.agent))
  if o.asData then
    printLine h (Counter.codec.list.pretty counters)
  else
    onHost (h.notify
      ⟨.info, toString counters.length ++ " counters on " ++ info.description⟩)
    printLines h (counters.map counterLine)

end CounterSampling.CommandLine
