import CounterSampling.Device.Builder
import CounterSampling.Proofs.Device.Effects

/-!
# Calls that are refused

A simulated device refuses a call by answering it with an error, or by answering that a set of
counters does not fit. `Harmless` says what it may have done then: it has used up at most a failure
that was to be injected into this very call, and stopped the context that it was told to stop. All
else is as it was, so that whoever is refused can try again. Main statement: `refused_harmless`.
-/

namespace CounterSampling

/-- The answer says that the call was not carried out. -/
def Call.Refused : (c : Call) → c.Answer → Prop
  | .agents, r => ∃ e, r = .error e
  | .supportedCounters _, r => ∃ e, r = .error e
  | .counterName _, r => ∃ e, r = .error e
  | .counterDimensions _, r => ∃ e, r = .error e
  | .dimensionPosition _ _, r => ∃ e, r = .error e
  | .tryConfigure _ _, r => r = .capacityExceeded ∨ ∃ e, r = .failed e
  | .createContext _, r => ∃ e, r = .error e
  | .bindConfig _ _, r => ∃ e, r = .error e
  | .startContext _, r => ∃ e, r = .error e
  | .stopContext _, r => ∃ e, r = .error e
  | .readRecords _ _, r => ∃ e, r.count = .error e
  | .destroyConfig _, _ => False
  | .destroyContext _, _ => False
  | .simulated, _ => False

/-- The context that a call stops. -/
def Call.stopped? : Call → Option ContextId
  | .stopContext context => some context
  | _ => none

namespace Device

/-- What a refused call leaves of a state. -/
structure Harmless (c : Call) (s s' : State) : Prop where
  configs : s'.configs = s.configs
  configsCreated : s'.configsCreated = s.configsCreated
  configsDestroyed : s'.configsDestroyed = s.configsDestroyed
  starts : s'.starts = s.starts
  nextConfig : s'.nextConfig = s.nextConfig
  nextContext : s'.nextContext = s.nextContext
  /-- A stop that is refused stops the context all the same. -/
  contexts : ∀ context, s'.contexts.find? context =
    (s.contexts.find? context).map fun ctx =>
      if c.stopped? = some context then { ctx with active := false } else ctx
  budgets : s.Spends c s'.budgets

variable {d : Device} {s : State}

/-- Using up what a call may use up is harmless, and so is counting a query. -/
theorem harmless_of_spends {c : Call} {budgets : Budgets} (spends : s.Spends c budgets)
    (running : c.stopped? = none) (supported dimensions names : Nat) :
    Harmless c s { s with
      budgets
      supportedQueries := supported
      dimensionQueries := dimensions
      nameQueries := names } where
  configs := rfl
  configsCreated := rfl
  configsDestroyed := rfl
  starts := rfl
  nextConfig := rfl
  nextContext := rfl
  contexts := by
    intro context
    simp [running]
  budgets := spends

theorem configure_harmless {agent : AgentId} {ids : List CounterId}
    (refused : ∀ config, (d.configure agent ids s).1 ≠ .configured config) :
    Harmless (.tryConfigure agent ids) s (d.configure agent ids s).2 := by
  rcases d.configure_cases agent ids s with ⟨outcome, same, -⟩ | created
  · rw [same]
    exact harmless_of_spends .nothing rfl _ _ _
  · rw [created] at refused
    exact absurd rfl (refused _)

theorem createContext_harmless {agent : AgentId} {e : BackendError}
    (refused : (d.createContext agent s).1 = .error e) :
    Harmless (.createContext agent) s (d.createContext agent s).2 := by
  rcases d.createContext_cases agent s with ⟨cause, same⟩ | opened
  · rw [same]
    exact harmless_of_spends .nothing rfl _ _ _
  · rw [opened] at refused
    cases refused

theorem bindConfig_harmless {context : ContextId} {config : ConfigId} {e : BackendError}
    (refused : (bindConfig context config s).1 = .error e) :
    Harmless (.bindConfig context config) s (bindConfig context config s).2 := by
  have spends := bindConfig_spends context config s
  rcases bindConfig_cases context config s with ⟨cause, budgets, same, -⟩ | ⟨ctx, -, -, bound⟩
  · rw [same] at spends ⊢
    exact harmless_of_spends spends rfl _ _ _
  · rw [bound] at refused
    cases refused

theorem startContext_harmless {context : ContextId} {e : BackendError}
    (refused : (startContext context s).1 = .error e) :
    Harmless (.startContext context) s (startContext context s).2 := by
  have spends := startContext_spends context s
  rcases startContext_cases context s with ⟨cause, budgets, same⟩ | ⟨ctx, -, -, started⟩
  · rw [same] at spends ⊢
    exact harmless_of_spends spends rfl _ _ _
  · rw [started] at refused
    cases refused

/-- A stop does no more if it succeeds than if it is refused. -/
theorem stopContext_harmless (context : ContextId) (s : State) :
    Harmless (.stopContext context) s (stopContext context s).2 := by
  have spends := stopContext_spends context s
  rcases stopContext_cases context s with ⟨absent, e, same⟩ | ⟨ctx, r, budgets, found, stopped⟩
  · rw [same] at spends ⊢
    refine ⟨rfl, rfl, rfl, rfl, rfl, rfl, ?_, spends⟩
    intro context'
    by_cases own : context = context'
    · subst own
      rw [absent]
      rfl
    · simp [Call.stopped?, own]
  · rw [stopped] at spends ⊢
    refine ⟨rfl, rfl, rfl, rfl, rfl, rfl, ?_, spends⟩
    intro context'
    by_cases own : context = context'
    · subst own
      simp [Call.stopped?, found]
    · simp [Call.stopped?, own]

theorem readRecords_harmless (d : Device) (context : ContextId) (buffer : List Record) (s : State) :
    Harmless (.readRecords context buffer) s (d.readRecords context buffer s).2 := by
  have spends := d.readRecords_spends context buffer s
  obtain ⟨budgets, same⟩ := d.readRecords_budgets context buffer s
  rw [same] at spends ⊢
  exact harmless_of_spends spends rfl _ _ _

/-- A read that is refused writes nothing. -/
theorem readRecords_untouched {context : ContextId} {buffer : List Record} {e : BackendError}
    (refused : (d.readRecords context buffer s).1.count = .error e) :
    (d.readRecords context buffer s).1.records = buffer := by
  rcases d.readRecords_cases context buffer s with ⟨cause, untouched⟩ | ⟨n, read⟩
  · rw [untouched]
    rfl
  · rw [read] at refused
    cases refused

/-- A refused call is harmless, in whatever state the device is: the configurations, the contexts
with what they are bound to and whether they are active, the counts of what was created, destroyed
and started, and the numbers to be given out next are as they were, except that a context is idle
once it was to be stopped. At most one failure is used up, of the kind of the call and of the agent
of its context. The buffer of a refused read is as it was. -/
theorem refused_harmless (d : Device) (c : Call) (s : State) (refused : c.Refused (d.answer c s).1) :
    Harmless c s (d.answer c s).2 ∧
      ∀ context buffer, c = .readRecords context buffer →
        (d.answer (.readRecords context buffer) s).1.records = buffer := by
  constructor
  · cases c with
    | agents => exact harmless_of_spends .nothing rfl _ _ _
    | supportedCounters agent => exact harmless_of_spends .nothing rfl _ _ _
    | counterName id => exact harmless_of_spends .nothing rfl _ _ _
    | counterDimensions id => exact harmless_of_spends .nothing rfl _ _ _
    | dimensionPosition r id => exact harmless_of_spends .nothing rfl _ _ _
    | tryConfigure agent ids =>
      apply configure_harmless
      intro config created
      rcases refused with full | ⟨e, failed⟩
      · cases created.symm.trans full
      · cases created.symm.trans failed
    | createContext agent =>
      obtain ⟨e, failed⟩ := refused
      exact createContext_harmless failed
    | bindConfig context config =>
      obtain ⟨e, failed⟩ := refused
      exact bindConfig_harmless failed
    | startContext context =>
      obtain ⟨e, failed⟩ := refused
      exact startContext_harmless failed
    | stopContext context => exact stopContext_harmless context s
    | readRecords context buffer => exact d.readRecords_harmless context buffer s
    | destroyConfig config => exact refused.elim
    | destroyContext context => exact refused.elim
    | simulated => exact refused.elim
  · rintro context buffer rfl
    obtain ⟨e, failed⟩ := refused
    exact readRecords_untouched failed

/-- A GPU that fails the next read and the next two stops. -/
def failing : Builder :=
  let gpu : AgentInfo := ⟨⟨1⟩, .gpu, "gfx942", 10001, 128, 1⟩
  (((Builder.agent {} gpu).counter "WAVES" [] 1.0).failReads ⟨1⟩ 1).failStops ⟨1⟩ 2

/-- A read and then a stop of an active context are refused, and each uses up its own failure. The
context is active after the read and idle after the stop, and it stays bound. -/
theorem refused_harmless_twice :
    let d := failing.device
    let armed : State := { failing.initial with
      configs := Table.empty.insert ⟨1⟩ [⟨0x100⟩]
      contexts := Table.empty.insert ⟨1⟩ ⟨⟨1⟩, some ⟨1⟩, true⟩ }
    let read : Call := .readRecords ⟨1⟩ [.blank]
    let stop : Call := .stopContext ⟨1⟩
    let unread := (d.answer read armed).2
    let stopped := (d.answer stop unread).2
    read.Refused (d.answer read armed).1 ∧
      (d.answer (.readRecords ⟨1⟩ [.blank]) armed).1.records = [.blank] ∧
      armed.Spends read unread.budgets ∧ unread.budgets.read.find? ⟨1⟩ = some 0 ∧
      unread.contexts.find? ⟨1⟩ = some ⟨⟨1⟩, some ⟨1⟩, true⟩ ∧
      stop.Refused (d.answer stop unread).1 ∧
      unread.Spends stop stopped.budgets ∧ stopped.budgets.stop.find? ⟨1⟩ = some 1 ∧
      stopped.contexts.find? ⟨1⟩ = some ⟨⟨1⟩, some ⟨1⟩, false⟩ := by
  intro d armed read stop unread stopped
  have unreadable : read.Refused (d.answer read armed).1 := ⟨_, rfl⟩
  have unstoppable : stop.Refused (d.answer stop unread).1 := ⟨_, rfl⟩
  obtain ⟨atRead, untouched⟩ := refused_harmless d read armed unreadable
  obtain ⟨atStop, -⟩ := refused_harmless d stop unread unstoppable
  have readSpent : unread.budgets.read.find? ⟨1⟩ = some 0 := by decide +kernel
  have stopSpent : stopped.budgets.stop.find? ⟨1⟩ = some 1 := by decide +kernel
  have active : armed.contexts.find? ⟨1⟩ = some ⟨⟨1⟩, some ⟨1⟩, true⟩ := rfl
  have still : unread.contexts.find? ⟨1⟩ = some ⟨⟨1⟩, some ⟨1⟩, true⟩ := by
    rw [atRead.contexts, active]
    rfl
  have idle : stopped.contexts.find? ⟨1⟩ = some ⟨⟨1⟩, some ⟨1⟩, false⟩ := by
    rw [atStop.contexts, still]
    rfl
  exact ⟨unreadable, untouched ⟨1⟩ [.blank] rfl, atRead.budgets, readSpent, still, unstoppable,
    atStop.budgets, stopSpent, idle⟩

end Device

end CounterSampling
