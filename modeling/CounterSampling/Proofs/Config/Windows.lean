import CounterSampling.CommandLine.Sampling
import CounterSampling.Proofs.Durations
import CounterSampling.Proofs.Results

/-!
# Windows that end a run

The window of a run is given as a text. Reading it gives a duration or tells what is wrong with the
text, with one exception: minutes are counted in seconds, and where there is no word for these the
run ends abnormally before it starts. Main statement: `window_ends`.
-/

namespace CounterSampling

namespace CommandLine

open Duration

/-- A window ends abnormally where its text does; one that is out of range is refused. -/
theorem readWindow_abort_iff (text : String) (a : Abort) :
    readWindow text = .error (.abort a) ↔ ofString? text = .error (.abort a) := by
  constructor
  · intro aborted
    rcases bind_eq_error.1 aborted with failed | ⟨d, -, ranged⟩
    · obtain ⟨e, read, same⟩ := mapError_eq_error.1 failed
      cases e with
      | abort => cases same; exact read
      | blank | number => cases same
    · split at ranged <;> cases ranged
  · intro aborted
    exact bind_eq_error.2 (.inl (mapError_eq_error.2 ⟨_, aborted, rfl⟩))

namespace SampleOptions

variable {o : SampleOptions} {text : String} {a : Abort}

theorem window?_abort_iff (given : o.duration = some text) :
    o.window? = .error (.abort a) ↔ readWindow text = .error (.abort a) := by
  unfold window?
  rw [given]
  dsimp only
  cases readWindow text with
  | ok us => exact ⟨nofun, nofun⟩
  | error e => simp only [Except.map, Except.error.injEq]

/-- What was loaded is not run if the window ends abnormally; checking it does not. -/
theorem runConfig_abort_iff {file : Option (String × FileState)}
    {environment : List (String × String)} {loaded : RunConfig}
    (load : RunConfig.load file environment = .ok loaded) (given : o.duration = some text) :
    o.runConfig file environment = .error (.abort a) ↔ readWindow text = .error (.abort a) := by
  rw [← window?_abort_iff given]
  constructor
  · intro aborted
    rcases bind_eq_error.1 aborted with failed | ⟨loaded', -, aborted⟩
    · rw [load] at failed
      cases failed
    rcases bind_eq_error.1 aborted with failed | ⟨window, -, aborted⟩
    · exact failed
    rcases bind_eq_error.1 aborted with failed | ⟨_, -, failed⟩
    · obtain ⟨invalid, -, same⟩ := mapError_eq_error.1 failed
      cases same
    · cases failed
  · intro aborted
    exact bind_eq_error.2 (.inr ⟨loaded, mapError_eq_ok.2 load, bind_eq_error.2 (.inl aborted)⟩)

end SampleOptions

/-- Every text is read as a duration, or refused because it is blank or for its number, unless it
names too many minutes; then reading it ends abnormally. Given as the window of a run that can be
loaded, it ends the run abnormally in this case only. -/
theorem window_ends (s : String) :
    (¬ TooManyMinutes s.toList →
      (∃ d, ofString? s = .ok d) ∨ ofString? s = .error .blank ∨
        ∃ e, ofString? s = .error (.number e)) ∧
    (TooManyMinutes s.toList → ofString? s = .error (.abort .product)) ∧
    ∀ (o : SampleOptions) (file : Option (String × FileState))
      (environment : List (String × String)) (loaded : RunConfig),
      RunConfig.load file environment = .ok loaded → o.duration = some s →
        ((∃ a, o.runConfig file environment = .error (.abort a)) ↔ TooManyMinutes s.toList) := by
  refine ⟨fun counted => ?_, fun beyond => (ofString?_abort_iff s _).2 ⟨rfl, beyond⟩, ?_⟩
  · cases read : ofString? s with
    | ok d => exact .inl ⟨d, rfl⟩
    | error e =>
      right
      cases e with
      | blank => exact .inl rfl
      | number e => exact .inr ⟨e, rfl⟩
      | abort a => exact absurd ((ofString?_abort_iff s a).1 read).2 counted
  · intro o file environment loaded load given
    simp only [SampleOptions.runConfig_abort_iff load given, readWindow_abort_iff,
      ofString?_abort_iff, exists_eq_left]

/-- Not even the least number of minutes beyond is refused. -/
theorem window_aborts :
    ofString? "307445734561825861m" = .error (.abort .product) ∧
      SampleOptions.runConfig { duration := some "307445734561825861m" } none [] =
        .error (.abort .product) := by
  have read : ofString? "307445734561825861m" = .error (.abort .product) := rfl
  have load : RunConfig.load none [] = .ok {} := rfl
  exact ⟨read, (SampleOptions.runConfig_abort_iff load rfl).2 ((readWindow_abort_iff _ _).2 read)⟩

end CommandLine

end CounterSampling
