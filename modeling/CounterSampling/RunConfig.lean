import CounterSampling.Config.DefaultCounters
import CounterSampling.DataFormat
import CounterSampling.Duration
import CounterSampling.Packer

/-!
# Run configurations

What a run is to do: which counters are sampled for how long, how often and how agents are retried,
and whether power states are guarded. A configuration can be read as data, every member of which may
be left out.
-/

namespace CounterSampling

structure RunConfig where
  /-- The sampling window per profile, in microseconds. -/
  durationUs : UInt64 := 1000
  /-- The counters to sample; an empty list stands for the baseline list. -/
  counters : List String := []
  parallel : Bool := true
  /-- How often an agent is tried. -/
  retries : UInt32 := 3
  /-- The pause before the second attempt, in milliseconds. -/
  retryDelayMs : UInt64 := 10
  /-- The most counters a profile may hold. -/
  maxCountersPerProfile : UInt64 := .ofNat defaultMaxPerProfile
  /-- Whether power states are put back after the run. -/
  ptlGuard : Bool := true
  /-- The directory of the display devices. -/
  drmRoot : String := "/sys/class/drm"
  deriving DecidableEq, Repr

namespace RunConfig

def duration (c : RunConfig) : Duration := .ofMicros c.durationUs.toNat

def retryDelay (c : RunConfig) : Duration := .ofMillis c.retryDelayMs.toNat

/-- The counters to ask for. -/
def counterList (c : RunConfig) : List String :=
  if c.counters.isEmpty then defaultCounters else c.counters

def maxWindow : Duration := .ofSecs 60

/-- Why a configuration cannot be run. -/
inductive Invalid where
  | noWindow
  | windowTooLong
  | noAttempts
  | noCountersPerProfile
  deriving DecidableEq, Repr

def Invalid.message : Invalid → String
  | .noWindow => "Duration must be greater than 0"
  | .windowTooLong => "Duration too long (max " ++ toString maxWindow.secs ++ "s)"
  | .noAttempts => "Retries must be at least 1"
  | .noCountersPerProfile => "Counters per profile must be greater than 0"

/-- Check a configuration; the first thing wrong with it is the error. -/
def validate (c : RunConfig) : Except Invalid Unit :=
  if c.durationUs = 0 then .error .noWindow
  else if maxWindow.nanos < c.duration.nanos then .error .windowTooLong
  else if c.retries = 0 then .error .noAttempts
  else if c.maxCountersPerProfile = 0 then .error .noCountersPerProfile
  else .ok ()

open Json in
/-- Configurations as data. A member that is left out has its default. -/
def codec : Codec RunConfig where
  shape := .record
    (.optional "duration_us" wordShape <|
      .optional "counters" (.sequence .text) <|
      .optional "parallel" .flag <|
      .optional "retries" halfWordShape <|
      .optional "retry_delay_ms" wordShape <|
      .optional "max_counters_per_profile" wordShape <|
      .optional "ptl_guard" .flag <|
      .optional "drm_root" .text .nil)
  encode c :=
    (some c.durationUs.toFin, some c.counters, some c.parallel, some c.retries.toFin,
      some c.retryDelayMs.toFin, some c.maxCountersPerProfile.toFin, some c.ptlGuard,
      some c.drmRoot, ())
  decode := fun (durationUs, counters, parallel, retries, retryDelayMs, maxCountersPerProfile,
      ptlGuard, drmRoot, _) =>
    let d : RunConfig := {}
    { durationUs := (durationUs.map .ofFin).getD d.durationUs
      counters := counters.getD d.counters
      parallel := parallel.getD d.parallel
      retries := (retries.map .ofFin).getD d.retries
      retryDelayMs := (retryDelayMs.map .ofFin).getD d.retryDelayMs
      maxCountersPerProfile := (maxCountersPerProfile.map .ofFin).getD d.maxCountersPerProfile
      ptlGuard := ptlGuard.getD d.ptlGuard
      drmRoot := drmRoot.getD d.drmRoot }

end RunConfig

end CounterSampling
