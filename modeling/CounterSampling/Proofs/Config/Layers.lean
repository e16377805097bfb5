import CounterSampling.CommandLine.Sampling
import CounterSampling.Proofs.Config.Merging
import Mathlib

/-!
# Layers of a configuration

A configuration has eight fields. Each comes from the highest of four layers that gives it: the
command line, the environment, the file, and the defaults. `Layered` says so for all fields at once;
a layer below that one can make loading fail, but it cannot change the field. Keys of a file may be
paths that lead into a field, such as `counters[0]`; of a field that is left to the file it is
required that no key does. Main statement: `runConfig_layered`.
-/

namespace CounterSampling

open Toml (keysOf)

namespace RunConfig

/-! ## Fields -/

inductive Field where
  | durationUs
  | counters
  | parallel
  | retries
  | retryDelayMs
  | maxCountersPerProfile
  | ptlGuard
  | drmRoot
  deriving DecidableEq

namespace Field

def key : Field → String
  | .durationUs => "duration_us"
  | .counters => "counters"
  | .parallel => "parallel"
  | .retries => "retries"
  | .retryDelayMs => "retry_delay_ms"
  | .maxCountersPerProfile => "max_counters_per_profile"
  | .ptlGuard => "ptl_guard"
  | .drmRoot => "drm_root"

@[reducible] def Value : Field → Type
  | .durationUs => UInt64
  | .counters => List String
  | .parallel => Bool
  | .retries => UInt32
  | .retryDelayMs => UInt64
  | .maxCountersPerProfile => UInt64
  | .ptlGuard => Bool
  | .drmRoot => String

def convert : (f : Field) → Setting → Except Mismatch f.Value
  | .durationUs => Setting.asWord
  | .counters => Setting.asTexts
  | .parallel => Setting.asFlag
  | .retries => Setting.asHalfWord
  | .retryDelayMs => Setting.asWord
  | .maxCountersPerProfile => Setting.asWord
  | .ptlGuard => Setting.asFlag
  | .drmRoot => Setting.asText

def get : (f : Field) → RunConfig → f.Value
  | .durationUs, c => c.durationUs
  | .counters, c => c.counters
  | .parallel, c => c.parallel
  | .retries, c => c.retries
  | .retryDelayMs, c => c.retryDelayMs
  | .maxCountersPerProfile, c => c.maxCountersPerProfile
  | .ptlGuard, c => c.ptlGuard
  | .drmRoot, c => c.drmRoot

theorem isName_key (f : Field) : PathStep.IsName f.key := by
  cases f <;> (unfold PathStep.IsName; cbv)

/-- No field is a table. -/
theorem convert_table (f : Field) (origin : Option String) (es : List (String × Setting)) :
    ∃ e, f.convert (.table origin es) = .error e := by
  cases f <;> exact ⟨_, rfl⟩

/-- What was placed where nothing stood converts as what was written. -/
theorem of_convert_placed {f : Field} {v : Setting} {x : f.Value}
    (converted : f.convert (v.placed none) = .ok x) : f.convert v = .ok x := by
  cases v with
  | scalar origin v => exact converted
  | list origin items => exact converted
  | table origin es =>
    obtain ⟨e, failed⟩ := f.convert_table none es
    exact absurd (failed.symm.trans converted) nofun

end Field

/-- The variables of fields set nothing by a path. -/
theorem named_of_fields {environment : List (String × String)}
    (fields : ∀ v ∈ environment, ∀ key, Environment.keyOf? v.1 = some key →
      ∃ f : Field, f.key = key) : Environment.Named environment := by
  intro v mem key set
  obtain ⟨f, rfl⟩ := fields v mem key set
  exact f.isName_key

theorem settingOr_ok {α : Type} {es : List (String × Setting)} {name : String}
    {convert : Setting → Except Mismatch α} {default a : α} :
    settingOr es name convert default = .ok a ↔
      match Table.lookup name es with
      | some s => convert s = .ok a
      | none => default = a := by
  unfold settingOr
  cases Table.lookup name es with
  | some s => exact mapError_eq_ok
  | none => exact ⟨Except.ok.inj, congrArg _⟩

/-- Every field of a configuration is that of its setting. -/
theorem ofSettings_ok {es : List (String × Setting)} {c : RunConfig}
    (made : ofSettings es = .ok c) (f : Field) :
    settingOr es f.key f.convert (f.get {}) = .ok (f.get c) := by
  obtain ⟨durationUs, h₁, made⟩ := bind_eq_ok.1 made
  obtain ⟨counters, h₂, made⟩ := bind_eq_ok.1 made
  obtain ⟨parallel, h₃, made⟩ := bind_eq_ok.1 made
  obtain ⟨retries, h₄, made⟩ := bind_eq_ok.1 made
  obtain ⟨retryDelayMs, h₅, made⟩ := bind_eq_ok.1 made
  obtain ⟨maxCountersPerProfile, h₆, made⟩ := bind_eq_ok.1 made
  obtain ⟨ptlGuard, h₇, made⟩ := bind_eq_ok.1 made
  obtain ⟨drmRoot, h₈, made⟩ := bind_eq_ok.1 made
  obtain rfl := Except.ok.inj made
  cases f with
  | durationUs => exact h₁
  | counters => exact h₂
  | parallel => exact h₃
  | retries => exact h₄
  | retryDelayMs => exact h₅
  | maxCountersPerProfile => exact h₆
  | ptlGuard => exact h₇
  | drmRoot => exact h₈

/-- Settings of other names make no difference. -/
theorem ofSettings_congr {es es' : List (String × Setting)}
    (same : ∀ f : Field, Table.lookup f.key es = Table.lookup f.key es') :
    ofSettings es = ofSettings es' := by
  have durationUs : Table.lookup "duration_us" es = _ := same .durationUs
  have counters : Table.lookup "counters" es = _ := same .counters
  have parallel : Table.lookup "parallel" es = _ := same .parallel
  have retries : Table.lookup "retries" es = _ := same .retries
  have retryDelayMs : Table.lookup "retry_delay_ms" es = _ := same .retryDelayMs
  have maxCounters : Table.lookup "max_counters_per_profile" es = _ := same .maxCountersPerProfile
  have ptlGuard : Table.lookup "ptl_guard" es = _ := same .ptlGuard
  have drmRoot : Table.lookup "drm_root" es = _ := same .drmRoot
  simp only [ofSettings, settingOr, durationUs, counters, parallel, retries, retryDelayMs,
    maxCounters, ptlGuard, drmRoot, Field.key]

/-! ## Loading -/

theorem load_ok {file : Option (String × FileState)} {environment : List (String × String)}
    {c : RunConfig} :
    load file environment = .ok c ↔
      ∃ es below merged, fileSettings file = .ok es ∧ Setting.emptyTable.assignAll es = .ok below ∧
        below.assignAll (Environment.settings environment) = .ok merged ∧
        ofSettings merged.entries = .ok c := by
  constructor
  · intro loaded
    obtain ⟨es, settings, loaded⟩ := bind_eq_ok.1 loaded
    obtain ⟨merged, assigned, loaded⟩ := bind_eq_ok.1 loaded
    obtain ⟨below, first, second⟩ := bind_eq_ok.1 (mapError_eq_ok.1 assigned)
    exact ⟨es, below, merged, settings, first, second, mapError_eq_ok.1 loaded⟩
  · rintro ⟨es, below, merged, settings, first, second, made⟩
    refine bind_eq_ok.2 ⟨es, settings, bind_eq_ok.2 ⟨merged, ?_, mapError_eq_ok.2 made⟩⟩
    exact mapError_eq_ok.2 (bind_eq_ok.2 ⟨below, first, second⟩)

/-- No key occurs twice in the settings of a file. -/
theorem fileSettings_nodup {file : Option (String × FileState)} {es : List (String × Setting)}
    (settings : fileSettings file = .ok es) : (keysOf es).Nodup := by
  match file, settings with
  | none, settings =>
    obtain rfl := Except.ok.inj settings
    exact List.nodup_nil
  | some (path, .text origin content), settings =>
    exact Toml.readDocument_nodup (mapError_eq_ok.1 settings)

/-- What a field is made from: a variable comes before the table of the file. -/
theorem lookup_merged {environment : List (String × String)}
    (named : Environment.Named environment) {below merged : Setting}
    (assigned : below.assignAll (Environment.settings environment) = .ok merged) (f : Field) :
    Table.lookup f.key merged.entries =
      match Environment.value? f.key environment with
      | some text => some (Environment.settingOf f.key text)
      | none => Table.lookup f.key below.entries := by
  have apart := Setting.apart_of_names (Environment.settings_names named) f.key
  rw [Setting.lookup_assignAll f.isName_key apart (Environment.settings_nodup _) assigned,
    Environment.lookup_settings]
  cases Environment.value? f.key environment with
  | none => rfl
  | some text => exact congrArg some (Environment.placed_settingOf _ _ _)

/-- What stands in the table of a file. -/
theorem lookup_below {es : List (String × Setting)} (nodup : (keysOf es).Nodup)
    {below : Setting} (assigned : Setting.emptyTable.assignAll es = .ok below) {f : Field}
    (apart : Setting.Apart f.key es) :
    Table.lookup f.key below.entries =
      (Table.lookup f.key es).map fun v => v.placed none := by
  rw [Setting.lookup_assignAll f.isName_key apart nodup assigned]
  cases Table.lookup f.key es <;> rfl

/-- A field as it is loaded: from its variable, or else from the file, or else the default. -/
def Field.Loaded (f : Field) (es : List (String × Setting)) (environment : List (String × String))
    (c : RunConfig) : Prop :=
  match Environment.value? f.key environment with
  | some text => f.convert (Environment.settingOf f.key text) = .ok (f.get c)
  | none =>
    Setting.Apart f.key es →
      match Table.lookup f.key es with
      | some s => f.convert s = .ok (f.get c)
      | none => f.get c = f.get {}

theorem load_field {file : Option (String × FileState)} {environment : List (String × String)}
    {c : RunConfig} (named : Environment.Named environment)
    (loaded : load file environment = .ok c) :
    ∃ es, fileSettings file = .ok es ∧ ∀ f : Field, f.Loaded es environment c := by
  obtain ⟨es, below, merged, settings, first, second, made⟩ := load_ok.1 loaded
  refine ⟨es, settings, fun f => ?_⟩
  have made := settingOr_ok.1 (ofSettings_ok made f)
  rw [lookup_merged named second] at made
  unfold Field.Loaded
  cases set : Environment.value? f.key environment with
  | some text =>
    rw [set] at made
    exact made
  | none =>
    intro apart
    rw [set] at made
    dsimp only at made
    rw [lookup_below (fileSettings_nodup settings) first apart] at made
    cases found : Table.lookup f.key es with
    | none =>
      rw [found] at made
      exact made.symm
    | some s =>
      rw [found] at made
      exact Field.of_convert_placed made

/-- What a file has under the keys that variables set makes no difference, whatever its type. -/
theorem load_hidden {file file' : Option (String × FileState)}
    {environment : List (String × String)} (named : Environment.Named environment)
    {es es' : List (String × Setting)} (settings : fileSettings file = .ok es)
    (settings' : fileSettings file' = .ok es')
    (names : ∀ key ∈ keysOf es, PathStep.IsName key)
    (names' : ∀ key ∈ keysOf es', PathStep.IsName key)
    (same : ∀ f : Field, Environment.value? f.key environment = none →
      Table.lookup f.key es' = Table.lookup f.key es)
    {c : RunConfig} (loaded : load file environment = .ok c) : load file' environment = .ok c := by
  obtain ⟨es₀, below, merged, settings₀, first, second, made⟩ := load_ok.1 loaded
  obtain rfl := Except.ok.inj (settings₀.symm.trans settings)
  obtain ⟨below', first'⟩ := Setting.assignAll_names names' Setting.emptyTable
  obtain ⟨merged', second'⟩ :=
    Setting.assignAll_names (Environment.settings_names named) below'
  refine load_ok.2 ⟨es', below', merged', settings', first', second', ?_⟩
  rw [← made]
  refine ofSettings_congr fun f => ?_
  rw [lookup_merged named second', lookup_merged named second]
  cases set : Environment.value? f.key environment with
  | some text => rfl
  | none =>
    dsimp only
    rw [lookup_below (fileSettings_nodup settings') first' (Setting.apart_of_names names' f.key),
      lookup_below (fileSettings_nodup settings) first (Setting.apart_of_names names f.key),
      same f set]

/-! ## What may be run -/

/-- What can be run has a window of a minute at most, and nothing it counts by is zero. -/
structure Runnable (c : RunConfig) : Prop where
  window : 1 ≤ c.durationUs.toNat ∧ c.durationUs.toNat ≤ 60000000
  retries : 1 ≤ c.retries.toNat
  maxCountersPerProfile : 1 ≤ c.maxCountersPerProfile.toNat

theorem runnable_of_validate {c : RunConfig} (valid : c.validate = .ok ()) : c.Runnable := by
  unfold validate at valid
  split at valid
  · cases valid
  next window =>
    split at valid
    · cases valid
    next short =>
      split at valid
      · cases valid
      next retries =>
        split at valid
        · cases valid
        next maxCounters =>
          have short : c.durationUs.toNat * 1000 ≤ 60 * 1000000000 := Nat.le_of_not_lt short
          have positive : c.durationUs.toNat ≠ 0 := fun h => window (UInt64.toNat_inj.1 h)
          refine ⟨⟨by omega, by omega⟩, Nat.pos_of_ne_zero fun h => ?_,
            Nat.pos_of_ne_zero fun h => ?_⟩
          · exact retries (UInt32.toNat_inj.1 h)
          · exact maxCounters (UInt64.toNat_inj.1 h)

end RunConfig

/-! ## The window -/

namespace Duration

/-- Every unit is a whole number of microseconds. -/
theorem ofMicros_micros_of_times {unit : TimeUnit} {n : Nat} {d : Duration}
    (counted : unit.times n = .ok d) : ofMicros d.micros = d := by
  have whole : d.nanos % 1000 = 0 := by
    cases unit with
    | micro =>
      obtain rfl := Except.ok.inj counted
      exact Nat.mul_mod_left _ _
    | milli =>
      obtain rfl := Except.ok.inj counted
      change n * 1000000 % 1000 = 0
      omega
    | second =>
      obtain rfl := Except.ok.inj counted
      change n * 1000000000 % 1000 = 0
      omega
    | minute =>
      unfold TimeUnit.times at counted
      cases product : Word.mul? n 60 with
      | none =>
        rw [product] at counted
        cases counted
      | some secs =>
        rw [product] at counted
        obtain rfl := Except.ok.inj counted
        change secs * 1000000000 % 1000 = 0
        omega
  exact congrArg mk (Nat.div_mul_cancel (Nat.dvd_of_mod_eq_zero whole))

theorem ofMicros_micros {text : String} {d : Duration} (read : ofString? text = .ok d) :
    ofMicros d.micros = d := by
  unfold ofString? ofChars? at read
  split at read
  · cases read
  · dsimp only at read
    split at read
    · cases read
    · split at read
      next counted =>
        obtain rfl := Except.ok.inj read
        exact ofMicros_micros_of_times counted
      · cases read

end Duration

/-! ## The command line -/

namespace CommandLine

/-- A window that can be read is exact. -/
theorem readWindow_ok {text : String} {us : UInt64} (read : readWindow text = .ok us) :
    Duration.ofString? text = .ok (.ofMicros us.toNat) := by
  obtain ⟨d, parsed, read⟩ := bind_eq_ok.1 read
  have parsed := mapError_eq_ok.1 parsed
  split at read
  next fits =>
    obtain rfl := Except.ok.inj read
    have exact : (UInt64.ofNat d.micros).toNat = d.micros :=
      UInt64.toNat_ofNat_of_lt' (Nat.lt_of_le_of_lt fits (by decide))
    rw [exact, Duration.ofMicros_micros parsed]
    exact parsed
  · cases read

namespace SampleOptions

variable {o : SampleOptions}

/-- Whether a field is given on the command line. -/
def given (o : SampleOptions) : RunConfig.Field → Bool
  | .durationUs => o.duration.isSome
  | .counters => !o.counters.isEmpty
  | .parallel => o.sequential
  | .retries => o.retries.isSome
  | .ptlGuard => o.noPowerGuard
  | .retryDelayMs | .maxCountersPerProfile | .drmRoot => false

/-- A configuration has what is given on the command line. -/
structure Heeded (o : SampleOptions) (c : RunConfig) : Prop where
  window : ∀ text, o.duration = some text →
    Duration.ofString? text = .ok (.ofMicros c.durationUs.toNat)
  counters : o.counters ≠ [] → c.counters = o.counters
  parallel : o.sequential = true → c.parallel = false
  retries : ∀ n, o.retries = some n → c.retries = n
  ptlGuard : o.noPowerGuard = true → c.ptlGuard = false

/-- A configuration where every field is that of the highest layer that gives it. -/
structure Layered (o : SampleOptions) (es : List (String × Setting))
    (environment : List (String × String)) (c : RunConfig) : Prop where
  commandLine : o.Heeded c
  below : ∀ f : RunConfig.Field, o.given f = false → f.Loaded es environment c

theorem runConfig_ok {file : Option (String × FileState)} {environment : List (String × String)}
    {c : RunConfig} :
    o.runConfig file environment = .ok c ↔
      ∃ loaded window, RunConfig.load file environment = .ok loaded ∧ o.window? = .ok window ∧
        o.override window loaded = c ∧ c.validate = .ok () := by
  constructor
  · intro configured
    obtain ⟨loaded, load, configured⟩ := bind_eq_ok.1 configured
    obtain ⟨window, read, configured⟩ := bind_eq_ok.1 configured
    obtain ⟨_, valid, configured⟩ := bind_eq_ok.1 configured
    obtain rfl := Except.ok.inj configured
    exact ⟨loaded, window, mapError_eq_ok.1 load, read, rfl, mapError_eq_ok.1 valid⟩
  · rintro ⟨loaded, window, load, read, rfl, valid⟩
    refine bind_eq_ok.2 ⟨loaded, mapError_eq_ok.2 load, bind_eq_ok.2 ⟨window, read, ?_⟩⟩
    exact bind_eq_ok.2 ⟨(), mapError_eq_ok.2 valid, rfl⟩

theorem window?_some {window : Option UInt64} (read : o.window? = .ok window) {text : String}
    (given : o.duration = some text) : ∃ us, readWindow text = .ok us ∧ window = some us := by
  unfold window? at read
  rw [given] at read
  dsimp only at read
  cases counted : readWindow text with
  | error e =>
    rw [counted] at read
    cases read
  | ok us =>
    rw [counted] at read
    obtain rfl := Except.ok.inj read
    exact ⟨us, rfl, rfl⟩

theorem window?_none {window : Option UInt64} (read : o.window? = .ok window)
    (left : o.duration = none) : window = none := by
  unfold window? at read
  rw [left] at read
  exact (Except.ok.inj read).symm

theorem override_heeded {window : Option UInt64} (read : o.window? = .ok window)
    (loaded : RunConfig) : o.Heeded (o.override window loaded) where
  window text given := by
    obtain ⟨us, exact, rfl⟩ := window?_some read given
    exact readWindow_ok exact
  counters given := if_neg (by simpa using given)
  parallel given := if_pos given
  retries n given := by
    unfold override
    rw [given]
    rfl
  ptlGuard given := if_pos given

/-- What is not given on the command line stays as it was loaded. -/
theorem get_override_left {window : Option UInt64} (read : o.window? = .ok window)
    (loaded : RunConfig) {f : RunConfig.Field} (left : o.given f = false) :
    f.get (o.override window loaded) = f.get loaded := by
  cases f with
  | durationUs =>
    obtain rfl := window?_none read (by simpa [given] using left)
    rfl
  | counters => exact if_pos (by simpa [given] using left)
  | parallel => exact if_neg (by simpa [given] using left)
  | retries =>
    have left : o.retries = none := by simpa [given] using left
    unfold override
    rw [left]
    rfl
  | ptlGuard => exact if_neg (by simpa [given] using left)
  | retryDelayMs => rfl
  | maxCountersPerProfile => rfl
  | drmRoot => rfl

/-- What is given on the command line does not depend on what was loaded. -/
theorem get_override_given {window : Option UInt64} (read : o.window? = .ok window)
    (loaded loaded' : RunConfig) {f : RunConfig.Field} (set : o.given f = true) :
    f.get (o.override window loaded) = f.get (o.override window loaded') := by
  cases f with
  | durationUs =>
    obtain ⟨text, duration⟩ := Option.isSome_iff_exists.1 set
    obtain ⟨us, -, rfl⟩ := window?_some read duration
    rfl
  | counters =>
    have set : ¬o.counters.isEmpty = true := by simpa [given] using set
    exact (if_neg set).trans (if_neg set).symm
  | parallel => exact (if_pos set).trans (if_pos set).symm
  | retries =>
    obtain ⟨n, retries⟩ := Option.isSome_iff_exists.1 set
    unfold override
    rw [retries]
    rfl
  | ptlGuard => exact (if_pos set).trans (if_pos set).symm
  | retryDelayMs => cases set
  | maxCountersPerProfile => cases set
  | drmRoot => cases set

/-- No lower layer decides a field that a higher layer gives: what is given on the command line is
the same over all files and environments, and of two files without paths that agree where the
environment gives nothing, either may stand below it. -/
structure Independent (o : SampleOptions) (es : List (String × Setting))
    (environment : List (String × String)) (c : RunConfig) : Prop where
  ofLoaded : ∀ file' environment' c', o.runConfig file' environment' = .ok c' →
    ∀ f : RunConfig.Field, o.given f = true → f.get c' = f.get c
  ofFile : ∀ file' es', RunConfig.fileSettings file' = .ok es' →
    (∀ key ∈ keysOf es, PathStep.IsName key) → (∀ key ∈ keysOf es', PathStep.IsName key) →
    (∀ f : RunConfig.Field, Environment.value? f.key environment = none →
      Table.lookup f.key es' = Table.lookup f.key es) →
    o.runConfig file' environment = .ok c

/-- A configuration to run is layered and can be run, and lower layers decide nothing that a higher
layer gives. -/
theorem runConfig_layered {file : Option (String × FileState)}
    {environment : List (String × String)} (named : Environment.Named environment) {c : RunConfig}
    (configured : o.runConfig file environment = .ok c) :
    ∃ es, RunConfig.fileSettings file = .ok es ∧ o.Layered es environment c ∧ c.Runnable ∧
      o.Independent es environment c := by
  obtain ⟨loaded, window, load, read, rfl, valid⟩ := runConfig_ok.1 configured
  obtain ⟨es, settings, fields⟩ := RunConfig.load_field named load
  refine ⟨es, settings, ⟨override_heeded read loaded, ?_⟩, RunConfig.runnable_of_validate valid,
    ?_, ?_⟩
  · intro f left
    unfold RunConfig.Field.Loaded
    rw [get_override_left read loaded left]
    exact fields f
  · intro file' environment' c' configured' f set
    obtain ⟨loaded', window', -, read', rfl, -⟩ := runConfig_ok.1 configured'
    obtain rfl := Except.ok.inj (read'.symm.trans read)
    exact get_override_given read loaded' loaded set
  · intro file' es' settings' names names' same
    have load' := RunConfig.load_hidden named settings settings' names names' same load
    exact runConfig_ok.2 ⟨loaded, window, load', read, rfl, valid⟩

/-- A file where the number of retries is no number. -/
def unreadRetries : Option (String × FileState) :=
  some ("c.toml", .text "c.toml" "retries = \"many\"\nparallel = false")

theorem settings_unreadRetries :
    RunConfig.fileSettings unreadRetries =
      .ok [("retries", .scalar (some "c.toml") (.text "many")),
        ("parallel", .scalar (some "c.toml") (.flag false))] := by
  have tables : Toml.readTables "retries = \"many\"\nparallel = false" =
      .ok [⟨0, [], false, .cons "retries" (.scalar 10 (.text "many"))
        (.cons "parallel" (.scalar 28 (.flag false)) .nil)⟩] := by cbv
  rw [unreadRetries, RunConfig.fileSettings, Toml.readDocument, tables]
  rfl

/-- The variable hides the number that cannot be read, and the window is that of the command
line. -/
theorem runConfig_layered_retries :
    ∃ es, RunConfig.fileSettings unreadRetries = .ok es ∧
      Layered { duration := some "2ms" } es [("ROCPCTL_RETRIES", "5")]
        { durationUs := 2000, parallel := false, retries := 5 } ∧
      RunConfig.Runnable { durationUs := 2000, parallel := false, retries := 5 } ∧
      Independent { duration := some "2ms" } es [("ROCPCTL_RETRIES", "5")]
        { durationUs := 2000, parallel := false, retries := 5 } := by
  refine runConfig_layered (RunConfig.named_of_fields fun v mem key set => ⟨.retries, ?_⟩) ?_
  · have retries : Environment.keyOf? "ROCPCTL_RETRIES" = some "retries" := by cbv
    rw [List.mem_singleton.1 mem, retries] at set
    exact Option.some.inj set
  · rw [runConfig, RunConfig.load, settings_unreadRetries]
    cbv

/-- A file with a path that leads to an item of the counters. -/
def itemPath : Option (String × FileState) :=
  some ("c.toml", .text "c.toml" "\"counters[0]\" = \"SQ_WAVES\"")

theorem settings_itemPath :
    RunConfig.fileSettings itemPath =
      .ok [("counters[0]", .scalar (some "c.toml") (.text "SQ_WAVES"))] := by
  have tables : Toml.readTables "\"counters[0]\" = \"SQ_WAVES\"" =
      .ok [⟨0, [], false, .cons "counters[0]" (.scalar 16 (.text "SQ_WAVES")) .nil⟩] := by cbv
  rw [itemPath, RunConfig.fileSettings, Toml.readDocument, tables]
  rfl

/-- A field that no layer has under its key need not have its default: the path writes to it. -/
theorem runConfig_itemPath :
    ¬∀ (o : SampleOptions) (file : Option (String × FileState))
      (environment : List (String × String)) (es : List (String × Setting)) (c : RunConfig),
      o.runConfig file environment = .ok c → RunConfig.fileSettings file = .ok es →
      ∀ f : RunConfig.Field, o.given f = false → Environment.value? f.key environment = none →
        Table.lookup f.key es = none → f.get c = f.get {} := by
  intro claim
  have configured : runConfig {} itemPath [] = .ok { counters := ["SQ_WAVES"] } := by
    rw [runConfig, RunConfig.load, settings_itemPath]
    cbv
  have default := claim {} itemPath [] _ _ configured settings_itemPath .counters rfl rfl rfl
  exact absurd default (by decide)

end SampleOptions

end CommandLine

end CounterSampling
