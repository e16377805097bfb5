import CounterSampling.Config.Conversion
import CounterSampling.Config.Environment
import CounterSampling.Config.File
import CounterSampling.Config.Path
import CounterSampling.RunConfig
import CounterSampling.Toml.Document

/-!
# Loading a configuration

A configuration is put together from layers: the defaults, the settings of a file, and those of the
environment. What a higher layer sets hides the layers below it, also where they hold something of
another type.
-/

namespace CounterSampling

/-- Why a configuration cannot be loaded. -/
inductive LoadError where
  | notFound (path : String)
  /-- The file cannot be read as settings. -/
  | unreadable (reason : String)
  /-- A setting is of the wrong type. -/
  | invalid (m : Mismatch)
  | abort (a : Abort)
  deriving DecidableEq, Repr

/-- What went wrong, without the cause. -/
def LoadError.message : LoadError → String
  | .notFound path => "Configuration file not found: " ++ path
  | .unreadable _ => "Failed to load configuration"
  | .invalid _ => "Invalid configuration"
  | .abort a => a.message

/-- The cause of an error, if it has one. -/
def LoadError.cause? : LoadError → Option String
  | .notFound _ => none
  | .unreadable reason => some reason
  | .invalid m => some m.message
  | .abort _ => none

namespace RunConfig

/-- The value of a setting, or a default where there is none. -/
def settingOr {α : Type} (es : List (String × Setting)) (name : String)
    (convert : Setting → Except Mismatch α) (default : α) : Except Mismatch α :=
  match Table.lookup name es with
  | some s => (convert s).mapError (Mismatch.under name)
  | none => .ok default

/-- The configuration of settings. Settings of other names are left out of account. -/
def ofSettings (es : List (String × Setting)) : Except Mismatch RunConfig := do
  let d : RunConfig := {}
  let durationUs ← settingOr es "duration_us" Setting.asWord d.durationUs
  let counters ← settingOr es "counters" Setting.asTexts d.counters
  let parallel ← settingOr es "parallel" Setting.asFlag d.parallel
  let retries ← settingOr es "retries" Setting.asHalfWord d.retries
  let retryDelayMs ← settingOr es "retry_delay_ms" Setting.asWord d.retryDelayMs
  let maxCountersPerProfile ←
    settingOr es "max_counters_per_profile" Setting.asWord d.maxCountersPerProfile
  let ptlGuard ← settingOr es "ptl_guard" Setting.asFlag d.ptlGuard
  let drmRoot ← settingOr es "drm_root" Setting.asText d.drmRoot
  return { durationUs, counters, parallel, retries, retryDelayMs, maxCountersPerProfile, ptlGuard,
           drmRoot }

/-- The settings of a file; none without a file. -/
def fileSettings : Option (String × FileState) → Except LoadError (List (String × Setting))
  | none => .ok []
  | some (path, .missing) => .error (.notFound path)
  | some (_, .unreadable reason) => .error (.unreadable reason)
  | some (_, .text origin content) =>
    (Toml.readDocument (some origin) content).mapError fun e =>
      .unreadable (e.message content ++ " in " ++ origin)

/-- Load the configuration of a file, if there is one, and of environment variables. -/
def load (file : Option (String × FileState)) (environment : List (String × String)) :
    Except LoadError RunConfig := do
  let below ← fileSettings file
  let merged ← (do
    let s ← Setting.emptyTable.assignAll below
    s.assignAll (Environment.settings environment)).mapError LoadError.abort
  (ofSettings merged.entries).mapError .invalid

end RunConfig

end CounterSampling
