import CounterSampling.CommandLine.Arguments
import CounterSampling.Agent
import CounterSampling.Word

/-!
# Commands

A command line names one of three commands, after options that hold for all of them. The options
about log lines are read wherever they are given and change nothing else. They may be given before
the command and once more after it.
-/

namespace CounterSampling.CommandLine

/-- Sample every GPU and report the values. -/
structure SampleOptions where
  /-- The counters to sample; none given leaves the choice to the configuration. -/
  counters : List String := []
  /-- The text of the sampling window. -/
  duration : Option String := none
  output : Option String := none
  config : Option String := none
  /-- Whether agents are sampled one after another. -/
  sequential : Bool := false
  retries : Option UInt32 := none
  /-- Whether power states are left as the run leaves them. -/
  noPowerGuard : Bool := false
  metrics : Option String := none
  gpus : Nat := 1
  deriving DecidableEq, Repr

structure CountersOptions where
  /-- The GPU; the first one if none is given. -/
  agent : Option AgentId := none
  /-- Whether the list is written as data. -/
  asData : Bool := false
  gpus : Nat := 1
  deriving DecidableEq, Repr

structure AgentsOptions where
  asData : Bool := false
  gpus : Nat := 1
  deriving DecidableEq, Repr

inductive Command where
  | sample (o : SampleOptions)
  | counters (o : CountersOptions)
  | agents (o : AgentsOptions)
  deriving DecidableEq, Repr

namespace Command

/-! ## Options -/

/-- The options that hold for every command. -/
def commonForms : List OptionForm :=
  [{ name := "verbose", letter := some 'v' },
   { name := "log-json", fallback := some "ROCPCTL_LOG_JSON" },
   Given.helpForm]

/-- The options before a command. -/
def leadingForms : List OptionForm :=
  commonForms ++ [Given.versionForm]

def gpusForm : OptionForm :=
  { name := "sim-gpus", kind := .number Word.max, fallback := some "ROCPCTL_SIM_GPUS" }

def deviceForms : List OptionForm :=
  [{ name := "backend", kind := .word ["sim"], fallback := some "ROCPCTL_BACKEND" }, gpusForm]

def agentForm : OptionForm :=
  { name := "agent", letter := some 'a', kind := .number Word.max }

def retriesForm : OptionForm :=
  { name := "retries", kind := .count Word.maxHalf }

def sampleForms : List OptionForm :=
  [{ name := "duration", letter := some 'd', kind := .text },
   { name := "output", letter := some 'o', kind := .path },
   { name := "config", letter := some 'c', kind := .path, fallback := some "ROCPCTL_CONFIG" },
   { name := "sequential" },
   retriesForm,
   { name := "no-ptl-guard" },
   { name := "metrics", kind := .path }] ++ deviceForms ++ commonForms

def countersForms : List OptionForm :=
  [agentForm, { name := "json" }] ++ deviceForms ++ commonForms

def agentsForms : List OptionForm :=
  [{ name := "json" }] ++ deviceForms ++ commonForms

/-! ## What was given -/

def gpus (g : Given) : Nat := (g.number? gpusForm).getD 1

def ofSample (g : Given) : SampleOptions where
  counters := g.operands
  duration := g.value? "duration"
  output := g.value? "output"
  config := g.value? "config"
  sequential := g.flag "sequential"
  retries := (g.number? retriesForm).map .ofNat
  noPowerGuard := g.flag "no-ptl-guard"
  metrics := g.value? "metrics"
  gpus := gpus g

def ofCounters (g : Given) : CountersOptions where
  agent := (g.number? agentForm).map fun n => ⟨.ofNat n⟩
  asData := g.flag "json"
  gpus := gpus g

def ofAgents (g : Given) : AgentsOptions where
  asData := g.flag "json"
  gpus := gpus g

/-! ## Command lines -/

/-- A command by its word: its options, whether it takes operands, and what it is for what was
given. -/
structure Reader where
  word : String
  forms : List OptionForm
  operands : Bool
  make : Given → Command

def readers : List Reader :=
  [⟨"sample", sampleForms, true, fun g => .sample (ofSample g)⟩,
   ⟨"counters", countersForms, false, fun g => .counters (ofCounters g)⟩,
   ⟨"agents", agentsForms, false, fun g => .agents (ofAgents g)⟩]

/-- The word that asks what can be given to a command. -/
def helpWord : String := "help"

/-- Whether the words after the help word ask for something there is. -/
def asksForHelp : List String → Bool
  | [] => true
  | [word] => word == helpWord || readers.any fun r => r.word == word
  | _ => false

/-- Read what follows the options before the command. -/
def readCommand (environment : List (String × String)) : List String → Except Given.Stop Command
  | [] => .error .usage
  | word :: args =>
    if word == helpWord then .error (if asksForHelp args then .help else .usage)
    else
      match readers.find? fun r => r.word == word with
      | none => .error .usage
      | some r => do
        let given ← Given.read r.forms r.operands args
        return r.make (← given.setFromEnvironment environment r.forms)

/-- Read a command line, with environment variables. -/
def read (environment : List (String × String)) (args : List String) :
    Except Given.Stop Command := do
  let leading := args.takeWhile Argument.looksLikeOption
  let given ← Given.read leadingForms false leading
  if leading.contains "--" then throw .usage
  let command ← readCommand environment (args.drop leading.length)
  let _ ← given.setFromEnvironment environment leadingForms
  return command

end Command

end CounterSampling.CommandLine
