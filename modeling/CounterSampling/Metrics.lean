import CounterSampling.ProfileCache
import CounterSampling.Decimal.Numeral

/-!
# Run metrics

Counters and gauges about the runs made so far, and their text: families in ascending order of their
names, each with a help line and a type line, followed by one line per child. A metric is absent
until it is first touched, and a family without children is not written.
-/

namespace CounterSampling

/-- The look-ups of an agent's profile cache, as signed words. -/
structure CacheLookups where
  hits : Int
  misses : Int
  deriving DecidableEq, Repr

/-- What was counted so far. The natural numbers stand for doubles, which count by one exactly up to
`2 ^ 53`, more than any process comes to. -/
structure Metrics where
  samplesOk : Option Nat := none
  samplesError : Option Nat := none
  profilesExecuted : Option Nat := none
  droppedCounters : Option Nat := none
  cacheLookups : NameMap CacheLookups := .empty

namespace Metrics

/-- Metrics whose counters exist and are zero. -/
def zero : Metrics := { profilesExecuted := some 0, droppedCounters := some 0 }

/-- A counter, which starts at zero, increased. -/
def increase (c : Option Nat) (n : Nat) : Option Nat :=
  some (c.getD 0 + n)

/-- An unsigned word read as a signed one. -/
def signed (n : Nat) : Int :=
  (Int64.ofNat n).toInt

def recordCacheStats (m : Metrics) (agent : AgentId) (stats : CacheStats) : Metrics :=
  { m with
    cacheLookups := m.cacheLookups.insert agent.text ⟨signed stats.hits, signed stats.misses⟩ }

def recordOk (m : Metrics) (agent : AgentId) (profiles dropped : Nat) (stats : CacheStats) :
    Metrics :=
  { m with
    samplesOk := increase m.samplesOk 1
    profilesExecuted := increase m.profilesExecuted profiles
    droppedCounters := increase m.droppedCounters dropped }.recordCacheStats agent stats

def recordError (m : Metrics) : Metrics :=
  { m with samplesError := increase m.samplesError 1 }

/-- A family of metrics with its children, each a label text and a value text. -/
structure Family where
  name : String
  help : String
  kind : String
  children : List (String × String)

/-- The text of a count. Values are doubles. -/
def countText (n : Nat) : String :=
  Decimal.plainText (UInt64.ofNat n).toFloat

/-- The text of a gauge. Values are doubles. -/
def gaugeText (n : Int) : String :=
  Decimal.plainText (Int64.ofInt n).toFloat

def label (name value : String) : String :=
  name ++ "=\"" ++ value ++ "\""

def labels (ls : List String) : String :=
  "\x7b" ++ ",".intercalate ls ++ "\x7d"

/-- The child of a metric that has at most one. -/
def onlyChild (n : Option Nat) : List (String × String) :=
  match n with
  | some n => [("", countText n)]
  | none => []

/-- The child of a sampling status. -/
def statusChild (status : String) (n : Option Nat) : List (String × String) :=
  match n with
  | some n => [(labels [label "status" status], countText n)]
  | none => []

/-- All families, in ascending order of their names. -/
def families (m : Metrics) : List Family :=
  [{ name := "rocpctl_dropped_counters_total"
     help := "Supported counters no profile could be built for"
     kind := "counter"
     children := onlyChild m.droppedCounters },
   { name := "rocpctl_profile_cache_lookups"
     help := "Profile cache lookups per agent"
     kind := "gauge"
     children := m.cacheLookups.entries.flatMap fun e =>
       [(labels [label "agent" e.1, label "result" "hit"], gaugeText e.2.hits),
        (labels [label "agent" e.1, label "result" "miss"], gaugeText e.2.misses)] },
   { name := "rocpctl_profiles_executed_total"
     help := "Profiles armed and read back"
     kind := "counter"
     children := onlyChild m.profilesExecuted },
   { name := "rocpctl_samples_total"
     help := "Per-agent sampling runs"
     kind := "counter"
     children := statusChild "error" m.samplesError ++ statusChild "ok" m.samplesOk }]

/-- The lines of a family; none if it has no child. -/
def Family.lines (f : Family) : List String :=
  if f.children.isEmpty then []
  else
    ["# HELP " ++ f.name ++ " " ++ f.help, "# TYPE " ++ f.name ++ " " ++ f.kind] ++
      f.children.map fun c => f.name ++ c.1 ++ " " ++ c.2

def lines (m : Metrics) : List String :=
  m.families.flatMap Family.lines

def text (m : Metrics) : String :=
  String.join (m.lines.map fun l => l ++ "\n")

end Metrics

end CounterSampling
