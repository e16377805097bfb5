import CounterSampling.Proofs.Device.Effects
import CounterSampling.Proofs.SamplerCalls

/-!
# Active and idle contexts of a simulated device

A context becomes active when it is started and idle when it is stopped. What a simulated device
answers to a bind depends on which of the two it is, and no other call changes it.
-/

namespace CounterSampling

namespace Device

/-- Whether a context is started, if it is open. -/
def State.activity (s : State) (context : ContextId) : Option Bool :=
  (s.contexts.find? context).map fun ctx => ctx.active

variable {s : State} {context : ContextId}

/-- Writing an open context changes no activity if it stays as active as it was. -/
theorem activity_write {ctx : Context} {context' : ContextId}
    (found : s.contexts.find? context' = some ctx) (ctx' : Context)
    (same : ctx'.active = ctx.active) (s' : State)
    (written : s'.contexts = s.contexts.insert context' ctx') :
    s'.activity context = s.activity context := by
  rw [State.activity, State.activity, written, Table.find?_insert]
  split
  next equal =>
    subst equal
    rw [found, Option.map_some, Option.map_some, same]
  next => rfl

theorem bindConfig_activity (context' : ContextId) (config : ConfigId) :
    (bindConfig context' config s).2.activity context = s.activity context := by
  rcases bindConfig_cases context' config s with ⟨e, budgets, same, -⟩ | ⟨ctx, found, -, bound⟩
  · rw [same]
    rfl
  · rw [bound]
    exact activity_write found { ctx with bound := some config } rfl _ rfl

/-- No bind is refused for being a rebind while the context is idle. -/
theorem bindConfig_idle (idle : s.activity context = some false) (config : ConfigId) :
    (bindConfig context config s).1 ≠ .error cannotRebind := by
  rcases bindConfig_cases context config s with ⟨e, budgets, same, rebind⟩ | ⟨ctx, found, -, bound⟩
  · rw [same]
    intro refused
    obtain ⟨ctx, found, active⟩ := rebind (Except.error.inj refused)
    rw [State.activity, found, Option.map_some, active] at idle
    cases idle
  · rw [bound]
    intro refused
    cases refused

/-- Every bind is refused while the context is active. -/
theorem bindConfig_active (active : s.activity context = some true) (config : ConfigId) :
    ∃ e, (bindConfig context config s).1 = .error e := by
  rcases bindConfig_cases context config s with ⟨e, budgets, same, -⟩ | ⟨ctx, found, idle, -⟩
  · exact ⟨e, congrArg Prod.fst same⟩
  · rw [State.activity, found, Option.map_some, idle] at active
    cases active

/-- A start that succeeds makes the context active, and any other changes nothing. -/
theorem startContext_activity :
    ((startContext context s).1 = .ok () →
      (startContext context s).2.activity context = some true) ∧
    ∀ e, (startContext context s).1 = .error e →
      (startContext context s).2.activity context = s.activity context := by
  rcases startContext_cases context s with ⟨e, budgets, same⟩ | ⟨ctx, found, -, started⟩
  · rw [same]
    exact ⟨nofun, fun _ _ => rfl⟩
  · rw [started]
    refine ⟨fun _ => ?_, nofun⟩
    rw [State.activity, Table.find?_insert, if_pos rfl, Option.map_some]

/-- A stop leaves the context idle, whatever it is answered. -/
theorem stopContext_activity {active : Bool} (there : s.activity context = some active) :
    (stopContext context s).2.activity context = some false := by
  rcases stopContext_cases context s with ⟨absent, -⟩ | ⟨ctx, r, budgets, found, stopped⟩
  · rw [State.activity, absent] at there
    cases there
  · rw [stopped, State.activity, Table.find?_insert, if_pos rfl, Option.map_some]

theorem readRecords_activity (d : Device) (context' : ContextId) (buffer : List Record) :
    (d.readRecords context' buffer s).2.activity context = s.activity context := by
  obtain ⟨budgets, same⟩ := d.readRecords_budgets context' buffer s
  rw [same]
  rfl

theorem injectReadFailures_activity (agent : AgentId) (times : Nat) :
    (s.injectReadFailures agent times).activity context = s.activity context := rfl

/-- Building and inquiring leave all contexts as they are. -/
theorem answer_activity (d : Device) {c : Call} (builds : c.Builds) :
    (d.answer c s).2.activity context = s.activity context := by
  cases c with
  | tryConfigure agent ids =>
    change (d.configure agent ids s).2.activity context = _
    rcases d.configure_cases agent ids s with ⟨outcome, same, -⟩ | created
    · rw [same]
    · rw [created]
      rfl
  | destroyConfig config =>
    change (destroyConfig config s).activity context = _
    unfold destroyConfig
    split <;> rfl
  | supportedCounters agent => rfl
  | counterName id => rfl
  | counterDimensions id => rfl
  | dimensionPosition r id => rfl
  | agents => exact builds.elim
  | createContext agent => exact builds.elim
  | destroyContext context => exact builds.elim
  | bindConfig context config => exact builds.elim
  | startContext context => exact builds.elim
  | stopContext context => exact builds.elim
  | readRecords context buffer => exact builds.elim
  | simulated => exact builds.elim

end Device

end CounterSampling
