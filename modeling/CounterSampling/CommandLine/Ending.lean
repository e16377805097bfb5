import CounterSampling.CommandLine.Sampling

/-!
# Whole command lines

Reading a command line and carrying out its command on a host. The ending says what the exit code is
and what is left to tell.
-/

namespace CounterSampling.CommandLine

/-- The name and the version of the program. -/
def versionLine : String := "rocpctl 0.1.0"

/-- What can be given. -/
def usageText : String :=
  "\n".intercalate [
    "rocpctl - GPU hardware counter sampler",
    "",
    "Usage: rocpctl [-v] [--log-json] <command> [options]",
    "",
    "Commands:",
    "  sample    Sample counters on every GPU agent",
    "  counters  List the counters an agent supports",
    "  agents    List the agents reported by the profiling layer",
    "",
    "Options of all commands:",
    "      --backend <BACKEND>    Profiling backend (sim)",
    "      --sim-gpus <COUNT>     Number of GPUs of the simulated backend",
    "  -h, --help                 Print this text",
    "",
    "Options of sample, before or after the counters:",
    "  -d, --duration <DURATION>  Sampling window per profile, such as 500us or 10ms",
    "  -o, --output <FILE>        Write the report to a file",
    "  -c, --config <FILE>        TOML configuration file",
    "      --sequential           Sample agents one after another",
    "      --retries <COUNT>      Attempts per agent",
    "      --no-ptl-guard         Leave power states as they are",
    "      --metrics <FILE>       Write metrics after the run",
    "",
    "Options of counters and agents:",
    "  -a, --agent <ID>           Agent to query (counters only)",
    "      --json                 Print the list as data"]

/-- How a command line ends. -/
inductive Ending where
  | done
  | failed (e : CommandError)
  /-- The user asked what can be given. -/
  | help
  /-- The command line is wrong. -/
  | usage
  deriving DecidableEq, Repr

namespace Ending

def exitCode : Ending → UInt32
  | .done => 0
  | .failed (.abort _) => 101
  | .failed _ => 1
  | .help => 0
  | .usage => 2

/-- The text of the error that a command ended with. An abnormal end has none. -/
def errorText? : Ending → Option String
  | .failed (.abort _) => none
  | .failed e => some e.text
  | _ => none

end Ending

variable {m : Type → Type} [Monad m]

/-- Carry out a command. -/
def Command.carryOut (h : Host m) : Command → CommandM m Unit
  | .sample o => CommandLine.sample h o
  | .counters o => listCounters h o
  | .agents o => listAgents h o

/-- Carry out a command line. -/
def run (h : Host m) (args : List String) : m Ending := do
  match Command.read (← h.environment) args with
  | .error .help => return .help
  | .error .usage => return .usage
  | .error .version =>
    h.print (versionLine ++ "\n")
    return .done
  | .ok command =>
    match ← (command.carryOut h).run with
    | .ok _ => return .done
    | .error e => return .failed e

end CounterSampling.CommandLine
