import CounterSampling.Proofs.Device.Reads

/-!
# Injected failures

Failures are injected by stage, and each time one of them is met it is used up. `Failures.stage?`
says at which stage an attempt to sample an agent fails, and `Failures.next` what is left after it:
attempts fail until as many were made as `Failures.attempts` says. For each of the four calls about
a context there is a lemma that says what it comes to.
-/

namespace CounterSampling.Device

/-- The failures that are left for an agent. -/
structure Failures where
  bind : Nat
  start : Nat
  read : Nat
  stop : Nat

namespace Failures

/-- How many attempts fail. A failing read is followed by a stop, which may fail as well. -/
def attempts (n : Failures) : Nat :=
  n.bind + n.start + max n.read n.stop

/-- The stage at which the next attempt fails. -/
def stage? (n : Failures) : Option SamplingStage :=
  if n.bind ≠ 0 then some .bind
  else if n.start ≠ 0 then some .start
  else if n.read ≠ 0 then some .read
  else if n.stop ≠ 0 then some .stop
  else none

/-- What is left after the next attempt. -/
def next (n : Failures) : Failures :=
  if n.bind ≠ 0 then { n with bind := n.bind - 1 }
  else if n.start ≠ 0 then { n with start := n.start - 1 }
  else { n with read := n.read - 1, stop := n.stop - 1 }

section Stages

variable {n : Failures}

theorem stage?_bind (bind : n.bind ≠ 0) : n.stage? = some .bind := if_pos bind

theorem stage?_start (bind : n.bind = 0) (start : n.start ≠ 0) : n.stage? = some .start := by
  simp [stage?, bind, start]

theorem stage?_read (bind : n.bind = 0) (start : n.start = 0) (read : n.read ≠ 0) :
    n.stage? = some .read := by
  simp [stage?, bind, start, read]

theorem stage?_stop (bind : n.bind = 0) (start : n.start = 0) (read : n.read = 0)
    (stop : n.stop ≠ 0) : n.stage? = some .stop := by
  simp [stage?, bind, start, read, stop]

theorem stage?_none (bind : n.bind = 0) (start : n.start = 0) (read : n.read = 0)
    (stop : n.stop = 0) : n.stage? = none := by
  simp [stage?, bind, start, read, stop]

theorem next_bind (bind : n.bind ≠ 0) : n.next = { n with bind := n.bind - 1 } := if_pos bind

theorem next_start (bind : n.bind = 0) (start : n.start ≠ 0) :
    n.next = { n with start := n.start - 1 } := by
  simp [next, bind, start]

theorem next_read (bind : n.bind = 0) (start : n.start = 0) :
    n.next = { n with read := n.read - 1, stop := n.stop - 1 } := by
  simp [next, bind, start]

end Stages

theorem stage?_eq_none_iff (n : Failures) : n.stage? = none ↔ n.attempts = 0 := by
  unfold stage? attempts
  by_cases bind : n.bind = 0
  · by_cases start : n.start = 0
    · by_cases read : n.read = 0
      · by_cases stop : n.stop = 0 <;> simp [bind, start, read, stop]
      · simp [bind, start, read]
    · simp [bind, start]
  · simp [bind]

theorem attempts_next (n : Failures) : n.next.attempts = n.attempts - 1 := by
  by_cases bind : n.bind = 0
  · by_cases start : n.start = 0
    · simp only [next_read bind start, attempts]
      omega
    · simp only [next_start bind start, attempts]
      omega
  · simp only [next_bind bind, attempts]
    omega

/-- An attempt that does not fail uses up nothing. -/
theorem next_of_none {n : Failures} (none : n.stage? = none) : n.next = n := by
  rw [stage?_eq_none_iff] at none
  obtain ⟨bind, start, read, stop⟩ := n
  simp only [attempts] at none
  obtain ⟨rfl, rfl, rfl, rfl⟩ : bind = 0 ∧ start = 0 ∧ read = 0 ∧ stop = 0 := by omega
  rfl

/-- The stage at which attempt `k` fails, counted from zero, as long as attempts fail. -/
def stageAt (n : Failures) (k : Nat) : SamplingStage :=
  if k < n.bind then .bind
  else if k < n.bind + n.start then .start
  else if k < n.bind + n.start + n.read then .read
  else .stop

theorem stage?_eq_stageAt {n : Failures} {stage : SamplingStage} (fails : n.stage? = some stage) :
    n.stageAt 0 = stage := by
  unfold stageAt
  by_cases bind : n.bind = 0
  · by_cases start : n.start = 0
    · by_cases read : n.read = 0
      · by_cases stop : n.stop = 0
        · rw [stage?_none bind start read stop] at fails
          cases fails
        · rw [stage?_stop bind start read stop] at fails
          simpa [bind, start, read] using fails
      · rw [stage?_read bind start read] at fails
        simpa [bind, start, Nat.pos_iff_ne_zero, read] using fails
    · rw [stage?_start bind start] at fails
      simpa [bind, Nat.pos_iff_ne_zero, start] using fails
  · rw [stage?_bind bind] at fails
    simpa [Nat.pos_iff_ne_zero, bind] using fails

/-- After an attempt the stages of the later attempts are what they were. -/
theorem stageAt_next (n : Failures) (k : Nat) : n.next.stageAt k = n.stageAt (k + 1) := by
  have shifted : (k < n.next.bind ↔ k + 1 < n.bind) ∧
      (k < n.next.bind + n.next.start ↔ k + 1 < n.bind + n.start) ∧
      (k < n.next.bind + n.next.start + n.next.read ↔ k + 1 < n.bind + n.start + n.read) := by
    by_cases bind : n.bind = 0
    · by_cases start : n.start = 0
      · simp only [next_read bind start]
        omega
      · simp only [next_start bind start]
        omega
    · simp only [next_bind bind]
      omega
  simp only [stageAt, shifted]

end Failures

/-- The failure that is injected at a stage. -/
def injected : SamplingStage → BackendError
  | .bind => contextError "injected bind failure"
  | .start => contextError "injected start failure"
  | .read => ⟨statusError, "injected read failure"⟩
  | .stop => contextError "injected stop failure"

/-- The failures of a budget that are left for an agent. -/
def Budgets.failures (b : Budgets) (agent : AgentId) : Failures :=
  ⟨left b.bind agent, left b.start agent, left b.read agent, left b.stop agent⟩

/-- What matters to an agent about a state: what it holds is there, its context is bound and active
like this, and these failures are left for it. -/
structure State.Situated (s : State) (agent : AgentId) (context : ContextId) (stock : Stock)
    (bound : Option ConfigId) (active : Bool) (n : Failures) : Prop where
  stores : s.Stores stock
  there : s.contexts.find? context = some ⟨agent, bound, active⟩
  failures : s.budgets.failures agent = n

variable {d : Device} {s : State} {agent : AgentId} {context : ContextId} {stock : Stock}
  {bound : Option ConfigId} {active : Bool} {n : Failures}

/-- Writing the context leaves the rest of the situation. -/
theorem State.Situated.write (h : s.Situated agent context stock bound active n) {s' : State}
    {bound' : Option ConfigId} {active' : Bool} {n' : Failures} (configs : s'.configs = s.configs)
    (contexts : s'.contexts = s.contexts.insert context ⟨agent, bound', active'⟩)
    (failures : s'.budgets.failures agent = n') :
    s'.Situated agent context stock bound' active' n' := by
  refine ⟨fun held mem => ?_, ?_, failures⟩
  · rw [configs]
    exact h.stores held mem
  · rw [contexts, Table.find?_insert, if_pos rfl]

theorem State.Situated.bindConfig (h : s.Situated agent context stock bound false n)
    {config : ConfigId} {ids : List CounterId} (held : (config, ids) ∈ stock) :
    (n.bind = 0 ∧ ∃ s', Device.bindConfig context config s = (.ok (), s') ∧
      s'.Situated agent context stock (some config) false n) ∨
    (n.bind ≠ 0 ∧ ∃ s', Device.bindConfig context config s = (.error (injected .bind), s') ∧
      s'.Situated agent context stock bound false { n with bind := n.bind - 1 }) := by
  obtain rfl := h.failures
  have live : s.configs.contains config = true := by
    rw [Table.contains, h.stores _ held]
    rfl
  unfold Device.bindConfig
  simp only [live, h.there, takeFailure_eq, Bool.not_true, Bool.false_eq_true, if_false]
  by_cases unhurt : left s.budgets.bind agent = 0
  · rw [if_pos unhurt]
    exact .inl ⟨unhurt, _, rfl, h.write rfl rfl rfl⟩
  · rw [if_neg unhurt]
    refine .inr ⟨unhurt, _, rfl, h.stores, h.there, ?_⟩
    simp only [Budgets.failures, left_insert, if_true]

theorem State.Situated.startContext (h : s.Situated agent context stock bound false n) :
    (n.start = 0 ∧ ∃ s', Device.startContext context s = (.ok (), s') ∧
      s'.Situated agent context stock bound true n) ∨
    (n.start ≠ 0 ∧ ∃ s', Device.startContext context s = (.error (injected .start), s') ∧
      s'.Situated agent context stock bound false { n with start := n.start - 1 }) := by
  obtain rfl := h.failures
  unfold Device.startContext
  simp only [h.there, takeFailure_eq, Bool.false_eq_true, if_false]
  by_cases unhurt : left s.budgets.start agent = 0
  · rw [if_pos unhurt]
    exact .inl ⟨unhurt, _, rfl, h.write rfl rfl rfl⟩
  · rw [if_neg unhurt]
    refine .inr ⟨unhurt, _, rfl, h.stores, h.there, ?_⟩
    simp only [Budgets.failures, left_insert, if_true]

/-- A read gives the first records of the counters that are bound, as many as it may. -/
theorem State.Situated.readRecords {config : ConfigId}
    (h : s.Situated agent context stock (some config) true n) {ids : List CounterId}
    (held : (config, ids) ∈ stock) (buffer : List Record) :
    (n.read = 0 ∧ d.readRecords context buffer s =
      (fill buffer (d.recordsUpTo (d.readLimit buffer) ids)
        (Nat.le_trans (length_recordsUpTo_le d _ ids) (readLimit_le d buffer)), s)) ∨
    (n.read ≠ 0 ∧ ∃ s', d.readRecords context buffer s =
        (.untouched buffer (.error (injected .read)), s') ∧
      s'.Situated agent context stock (some config) true { n with read := n.read - 1 }) := by
  obtain rfl := h.failures
  have live : s.configs.find? config = some ids := h.stores _ held
  by_cases unhurt : left s.budgets.read agent = 0
  · exact .inl ⟨unhurt, readRecords_live h.there live unhurt buffer⟩
  · unfold Device.readRecords
    simp only [h.there, takeFailure_eq, Bool.not_true, Bool.false_eq_true, if_false, if_neg unhurt]
    refine .inr ⟨unhurt, _, rfl, h.stores, h.there, ?_⟩
    simp only [Budgets.failures, left_insert, if_true]

/-- A stop leaves the context idle, whether it fails or not. -/
theorem State.Situated.stopContext (h : s.Situated agent context stock bound active n) :
    ∃ s', Device.stopContext context s =
        (if n.stop = 0 then .ok () else .error (injected .stop), s') ∧
      s'.Situated agent context stock bound false { n with stop := n.stop - 1 } := by
  obtain rfl := h.failures
  unfold Device.stopContext
  simp only [h.there, takeFailure_eq]
  by_cases unhurt : left s.budgets.stop agent = 0
  · simp only [Budgets.failures, unhurt, if_true]
    refine ⟨_, rfl, h.write rfl rfl ?_⟩
    simp only [Budgets.failures, unhurt]
  · simp only [Budgets.failures, unhurt, if_false]
    refine ⟨_, rfl, h.write rfl rfl ?_⟩
    simp only [Budgets.failures, left_insert, if_true]

/-- An inquiry makes no difference to the situation. -/
theorem State.Situated.inquiry (h : s.Situated agent context stock bound active n) {c : Call}
    (inquiry : c.IsInquiry) : (d.answer c s).2.Situated agent context stock bound active n := by
  cases c with
  | supportedCounters agent' => exact ⟨h.stores, h.there, h.failures⟩
  | counterName id => exact ⟨h.stores, h.there, h.failures⟩
  | counterDimensions id => exact ⟨h.stores, h.there, h.failures⟩
  | dimensionPosition r id => exact h
  | _ => exact inquiry.elim

end CounterSampling.Device
