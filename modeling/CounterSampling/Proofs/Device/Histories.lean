import CounterSampling.Proofs.Ownership.Account
import CounterSampling.Proofs.Possession.Use
import CounterSampling.Proofs.Runs.Starts
import CounterSampling.Proofs.Sampling.Activity

/-!
# Whatever happens to a simulated device

A simulated device is built and then used by anybody for anything: calls about any agents, contexts
and configurations, wanted or not, and failures injected between them. `Device.Lawful` says what
holds then of its books and of what it answered. Each part comes from what one call does, most of
them from what one call does to one context, `ContextStep`. Main statement: `history_lawful`.
-/

namespace CounterSampling

/-- The context that was opened. -/
def Event.opened? : Event → Option ContextId
  | ⟨.createContext _, .ok context⟩ => some context
  | _ => none

/-- The context that was started. -/
def Event.started? : Event → Option ContextId
  | ⟨.startContext context, .ok ()⟩ => some context
  | _ => none

namespace Device

/-- What can happen to a device. -/
inductive Operation where
  | call (c : Call)
  | failReads (agent : AgentId) (times : Nat)

variable (d : Device)

def Operation.apply : Operation → State → State
  | .call c, s => (d.answer c s).2
  | .failReads agent times, s => s.injectReadFailures agent times

/-- The call that was made and its answer. -/
def Operation.event? : Operation → State → Option Event
  | .call c, s => some ⟨c, (d.answer c s).1⟩
  | .failReads _ _, _ => none

/-- The state after some operations. -/
def after : List Operation → State → State
  | [], s => s
  | op :: ops, s => after ops (op.apply d s)

/-- What was asked and answered in some operations. -/
def history : List Operation → State → List Event
  | [], _ => []
  | op :: ops, s => (op.event? d s).toList ++ history ops (op.apply d s)

@[simp] theorem after_nil (s : State) : d.after [] s = s := rfl

@[simp] theorem after_cons (op : Operation) (ops : List Operation) (s : State) :
    d.after (op :: ops) s = d.after ops (op.apply d s) := rfl

theorem after_append (ops ops' : List Operation) (s : State) :
    d.after (ops ++ ops') s = d.after ops' (d.after ops s) := by
  induction ops generalizing s with
  | nil => rfl
  | cons op ops ih => exact ih _

/-- What holds of a device that was used for some operations, from a state on. -/
structure Lawful (s : State) (ops : List Operation) : Prop where
  /-- What was created and not destroyed is live. -/
  balance : (d.after ops s).configsCreated =
    (d.after ops s).configsDestroyed + (d.after ops s).liveConfigs
  config_lt : ∀ config ∈ (d.after ops s).configs.keys, config.val < (d.after ops s).nextConfig
  context_lt : ∀ context ∈ (d.after ops s).contexts.keys,
    context.val < (d.after ops s).nextContext
  /-- No configuration is given a number that was given out before. -/
  configs_ascend : ((d.history ops s).filterMap Event.made?).Pairwise fun a b => a.val < b.val
  contexts_ascend : ((d.history ops s).filterMap Event.opened?).Pairwise fun a b => a.val < b.val
  starts : (d.after ops s).starts = (d.history ops s).countP Event.isStart
  /-- A context that was started is stopped before it is started again. -/
  stopped : ∀ context first second earlier between later,
    d.history ops s = earlier ++ first :: between ++ second :: later →
    first.started? = some context → second.started? = some context →
    ∃ e ∈ between, e.call = .stopContext context
  /-- An active context stays with its configuration. -/
  bound : ∀ context earlier during later, ops = earlier ++ during ++ later →
    (∀ past, past <+: during → (d.after (earlier ++ past) s).activity context = some true) →
    ((d.after (earlier ++ during) s).contexts.find? context).map Context.bound =
      ((d.after earlier s).contexts.find? context).map Context.bound
  /-- Only an active context that is bound to a live configuration can be read. -/
  reads : ∀ context buffer count,
    (d.answer (.readRecords context buffer) (d.after ops s)).1.count = .ok count →
    ∃ ctx config ids, (d.after ops s).contexts.find? context = some ctx ∧ ctx.active = true ∧
      ctx.bound = some config ∧ (d.after ops s).configs.find? config = some ids

/-! ## What one operation does -/

/-- What a call can do to one context. -/
inductive ContextStep (context : ContextId) : Call → Option Context → Option Context → Prop
  | same (c : Call) (ctx : Option Context) : ContextStep context c ctx ctx
  | closed (c : Call) (ctx : Option Context) : ContextStep context c ctx none
  | bound (config : ConfigId) (ctx : Context) (idle : ctx.active = false) :
    ContextStep context (.bindConfig context config) (some ctx)
      (some { ctx with bound := some config })
  | started (ctx : Context) (idle : ctx.active = false) :
    ContextStep context (.startContext context) (some ctx) (some { ctx with active := true })
  | stopped (ctx : Context) :
    ContextStep context (.stopContext context) (some ctx) (some { ctx with active := false })

variable {d} {s : State} {context : ContextId}

/-- Writing one context takes a step of that one and none of any other. -/
theorem ContextStep.insert {c : Call} {context' : ContextId} {ctx ctx' : Context}
    (found : s.contexts.find? context' = some ctx)
    (step : context' = context → ContextStep context c (some ctx) (some ctx')) :
    ContextStep context c (s.contexts.find? context)
      ((s.contexts.insert context' ctx').find? context) := by
  rw [Table.find?_insert]
  split
  next this =>
    have := step this
    subst context'
    rwa [found]
  next other => exact .same c _

theorem answer_contextStep (d : Device) (c : Call) (given : context.val < s.nextContext) :
    ContextStep context c (s.contexts.find? context)
      ((d.answer c s).2.contexts.find? context) := by
  cases c with
  | createContext agent =>
    change ContextStep context _ _ ((d.createContext agent s).2.contexts.find? context)
    rcases d.createContext_cases agent s with ⟨e, same⟩ | opened
    · rw [same]
      exact .same _ _
    · have other : (⟨s.nextContext⟩ : ContextId) ≠ context := by
        rintro rfl
        exact Nat.lt_irrefl _ given
      rw [opened, Table.find?_insert, if_neg other]
      exact .same _ _
  | destroyContext context' =>
    change ContextStep context _ _ ((s.contexts.erase context').find? context)
    rw [Table.find?_erase]
    split
    · exact .closed _ _
    · exact .same _ _
  | bindConfig context' config =>
    change ContextStep context _ _ ((bindConfig context' config s).2.contexts.find? context)
    rcases bindConfig_cases context' config s with ⟨e, budgets, same, -⟩ | ⟨ctx, found, idle, bound⟩
    · rw [same]
      exact .same _ _
    · rw [bound]
      exact ContextStep.insert found fun this => this ▸ .bound config ctx idle
  | startContext context' =>
    change ContextStep context _ _ ((startContext context' s).2.contexts.find? context)
    rcases startContext_cases context' s with ⟨e, budgets, same⟩ | ⟨ctx, found, idle, started⟩
    · rw [same]
      exact .same _ _
    · rw [started]
      exact ContextStep.insert found fun this => this ▸ .started ctx idle
  | stopContext context' =>
    change ContextStep context _ _ ((stopContext context' s).2.contexts.find? context)
    rcases stopContext_cases context' s with ⟨-, e, same⟩ | ⟨ctx, r, budgets, found, stopped⟩
    · rw [same]
      exact .same _ _
    · rw [stopped]
      exact ContextStep.insert found fun this => this ▸ .stopped ctx
  | readRecords context' buffer =>
    obtain ⟨budgets, same⟩ := d.readRecords_budgets context' buffer s
    change ContextStep context _ _ ((d.readRecords context' buffer s).2.contexts.find? context)
    rw [same]
    exact .same _ _
  | tryConfigure agent ids =>
    change ContextStep context _ _ ((d.configure agent ids s).2.contexts.find? context)
    rcases d.configure_cases agent ids s with ⟨outcome, same, -⟩ | created
    · rw [same]
      exact .same _ _
    · rw [created]
      exact .same _ _
  | destroyConfig config =>
    change ContextStep context _ _ ((destroyConfig config s).contexts.find? context)
    unfold destroyConfig
    split <;> exact .same _ _
  | _ => exact .same _ _

theorem Operation.apply_numbered (op : Operation) (numbered : s.Numbered) :
    (op.apply d s).Numbered := by
  cases op with
  | call c => exact numbered.answer c
  | failReads agent times => exact numbered.withBudgets _

theorem after_numbered (ops : List Operation) (numbered : s.Numbered) :
    (d.after ops s).Numbered := by
  induction ops generalizing s with
  | nil => exact numbered
  | cons op ops ih => exact ih (op.apply_numbered numbered)

theorem State.Numbered.given (numbered : s.Numbered) {active : Bool}
    (there : s.activity context = some active) : context.val < s.nextContext := by
  obtain ⟨ctx, found, -⟩ := Option.map_eq_some_iff.1 there
  exact numbered.context_lt context ctx found

/-! ## The books -/

/-- What was created and not destroyed is live. -/
def State.Balanced (s : State) : Prop :=
  s.configsCreated = s.configsDestroyed + s.liveConfigs

theorem State.Balanced.answer (balanced : s.Balanced) (numbered : s.Numbered) (c : Call) :
    (d.answer c s).2.Balanced := by
  -- every other call leaves the whole account of the device alone
  have spared (spares : c.SparesAccount) : (d.answer c s).2.Balanced := by
    have same := d.answer_spares c spares [] s
    have created := congrArg Account.created same
    have destroyed := congrArg Account.destroyed same
    have live := congrArg (fun a => a.live.length) same
    simp only [accountOf, Table.length_keys] at created destroyed live
    unfold State.Balanced State.liveConfigs
    rw [created, destroyed, live]
    exact balanced
  cases c with
  | tryConfigure agent ids =>
    change (d.configure agent ids s).2.Balanced
    rcases d.configure_cases agent ids s with ⟨outcome, same, -⟩ | created
    · rw [same]
      exact balanced
    · have fresh : (⟨s.nextConfig⟩ : ConfigId) ∉ s.configs.keys := by
        intro mem
        obtain ⟨ids', found⟩ := Option.isSome_iff_exists.1 (Table.contains_iff.2 mem)
        exact Nat.lt_irrefl _ (numbered.config_lt _ _ found)
      have size : (s.configs.insert ⟨s.nextConfig⟩ ids).size = s.configs.size + 1 := by
        rw [← Table.length_keys, Table.keys_insert_fresh fresh, List.length_append,
          Table.length_keys, List.length_singleton]
      unfold State.Balanced State.liveConfigs at *
      rw [created]
      dsimp only
      omega
  | destroyConfig config =>
    change (destroyConfig config s).Balanced
    unfold destroyConfig
    split
    next live =>
      have mem : config ∈ s.configs.keys := Table.contains_iff.1 live
      have size : (s.configs.erase config).size = s.configs.size - 1 := by
        rw [← Table.length_keys, Table.keys_erase, List.length_erase_of_mem mem, Table.length_keys]
      have pos : 0 < s.configs.size := by
        rw [← Table.length_keys]
        exact List.length_pos_of_mem mem
      unfold State.Balanced State.liveConfigs at *
      dsimp only
      omega
    next absent => exact balanced
  | createContext agent =>
    change (d.createContext agent s).2.Balanced
    rcases d.createContext_cases agent s with ⟨e, same⟩ | opened
    · rw [same]
      exact balanced
    · rw [opened]
      exact balanced
  | destroyContext context => exact balanced
  | _ => exact spared trivial

theorem after_balanced (ops : List Operation) (balanced : s.Balanced) (numbered : s.Numbered) :
    (d.after ops s).Balanced := by
  induction ops generalizing s with
  | nil => exact balanced
  | cons op ops ih =>
    refine ih ?_ (op.apply_numbered numbered)
    cases op with
    | call c => exact balanced.answer numbered c
    | failReads agent times => exact balanced

/-- The starts that the device counts are those that were answered as such. -/
theorem after_starts (ops : List Operation) (s : State) :
    (d.after ops s).starts = s.starts + (d.history ops s).countP Event.isStart := by
  induction ops generalizing s with
  | nil => rfl
  | cons op ops ih =>
    rw [after_cons, ih, history, List.countP_append]
    cases op with
    | call c =>
      change (d.answer c s).2.starts + _ =
        s.starts + ([(⟨c, (d.answer c s).1⟩ : Event)].countP Event.isStart + _)
      rw [d.answer_starts, List.countP_singleton, Nat.add_assoc]
    | failReads agent times =>
      change s.starts + _ = s.starts + (List.countP Event.isStart [] + _)
      rw [List.countP_nil, Nat.zero_add]

/-! ## Numbers given out -/

/-- If an event gives out the next number or none, then numbers are given out in ascending order,
from the next one on. -/
theorem numbers_ascend (number? : Event → Option Nat) (next : State → Nat)
    (answer : ∀ c s, (number? ⟨c, (d.answer c s).1⟩ = none ∧ next (d.answer c s).2 = next s) ∨
      (number? ⟨c, (d.answer c s).1⟩ = some (next s) ∧ next (d.answer c s).2 = next s + 1))
    (failReads : ∀ agent times s, next (s.injectReadFailures agent times) = next s)
    (ops : List Operation) (s : State) :
    (∀ n ∈ (d.history ops s).filterMap number?, next s ≤ n) ∧
      ((d.history ops s).filterMap number?).Pairwise (· < ·) := by
  induction ops generalizing s with
  | nil => exact ⟨nofun, .nil⟩
  | cons op ops ih =>
    obtain ⟨new, ascend⟩ := ih (op.apply d s)
    rw [history, List.filterMap_append]
    cases op with
    | failReads agent times =>
      refine ⟨fun n mem => ?_, ascend⟩
      rw [← failReads agent times s]
      exact new n mem
    | call c =>
      change (∀ n ∈ List.filterMap number? [⟨c, (d.answer c s).1⟩] ++ _, next s ≤ n) ∧
        (List.filterMap number? [⟨c, (d.answer c s).1⟩] ++ _).Pairwise (· < ·)
      change ∀ n ∈ _, next (d.answer c s).2 ≤ n at new
      rcases answer c s with ⟨none, same⟩ | ⟨given, succ⟩
      · rw [List.filterMap_cons_none none, List.filterMap_nil, List.nil_append]
        exact ⟨same ▸ new, ascend⟩
      · rw [List.filterMap_cons_some given, List.filterMap_nil, List.singleton_append]
        rw [succ] at new
        exact ⟨List.forall_mem_cons.2 ⟨Nat.le_refl _, fun n mem => Nat.le_of_succ_le (new n mem)⟩,
          List.pairwise_cons.2 ⟨new, ascend⟩⟩

theorem configs_ascend (ops : List Operation) (s : State) :
    ((d.history ops s).filterMap Event.made?).Pairwise fun a b => a.val < b.val := by
  rw [← List.pairwise_map, List.map_filterMap]
  refine (numbers_ascend (fun e => e.made?.map ConfigId.val) State.nextConfig (fun c s => ?_)
    (fun _ _ _ => rfl) ops s).2
  rcases d.made?_answer c s with ⟨none, same⟩ | ⟨made, succ⟩
  · exact .inl ⟨congrArg _ none, same⟩
  · exact .inr ⟨congrArg _ made, succ⟩

/-- What a call opens gets the next number, and no other call gives one out. -/
theorem opened?_answer (d : Device) (c : Call) (s : State) :
    (Event.opened? ⟨c, (d.answer c s).1⟩ = none ∧
        (d.answer c s).2.nextContext = s.nextContext) ∨
      Event.opened? ⟨c, (d.answer c s).1⟩ = some ⟨s.nextContext⟩ ∧
        (d.answer c s).2.nextContext = s.nextContext + 1 := by
  have spared (c : Call) (spares : c.SparesAccount) :
      (d.answer c s).2.nextContext = s.nextContext :=
    congrArg Account.nextContext (d.answer_spares c spares [] s)
  cases c with
  | createContext agent =>
    change (Event.opened? ⟨.createContext agent, (d.createContext agent s).1⟩ = none ∧
        (d.createContext agent s).2.nextContext = s.nextContext) ∨
      Event.opened? ⟨.createContext agent, (d.createContext agent s).1⟩ = some ⟨s.nextContext⟩ ∧
        (d.createContext agent s).2.nextContext = s.nextContext + 1
    rcases d.createContext_cases agent s with ⟨e, same⟩ | opened
    · rw [same]
      exact .inl ⟨rfl, rfl⟩
    · rw [opened]
      exact .inr ⟨rfl, rfl⟩
  | destroyContext context => exact .inl ⟨rfl, rfl⟩
  | tryConfigure agent ids =>
    refine .inl ⟨rfl, ?_⟩
    change (d.configure agent ids s).2.nextContext = _
    rcases d.configure_cases agent ids s with ⟨outcome, same, -⟩ | created
    · rw [same]
    · rw [created]
  | destroyConfig config =>
    refine .inl ⟨rfl, ?_⟩
    change (destroyConfig config s).nextContext = _
    unfold destroyConfig
    split <;> rfl
  | bindConfig context config => exact .inl ⟨rfl, spared _ trivial⟩
  | startContext context => exact .inl ⟨rfl, spared _ trivial⟩
  | stopContext context => exact .inl ⟨rfl, spared _ trivial⟩
  | readRecords context buffer => exact .inl ⟨rfl, spared _ trivial⟩
  | _ => exact .inl ⟨rfl, rfl⟩

theorem contexts_ascend (ops : List Operation) (s : State) :
    ((d.history ops s).filterMap Event.opened?).Pairwise fun a b => a.val < b.val := by
  rw [← List.pairwise_map, List.map_filterMap]
  refine (numbers_ascend (fun e => e.opened?.map ContextId.val) State.nextContext (fun c s => ?_)
    (fun _ _ _ => rfl) ops s).2
  rcases d.opened?_answer c s with ⟨none, same⟩ | ⟨opened, succ⟩
  · exact .inl ⟨congrArg _ none, same⟩
  · exact .inr ⟨congrArg _ opened, succ⟩

/-! ## Starts and stops -/

/-- A context that cannot be started: it is active, or it is closed for good. -/
structure State.Busy (s : State) (context : ContextId) : Prop where
  given : context.val < s.nextContext
  activity : s.activity context ≠ some false

/-- A busy context stays busy until it is stopped. -/
theorem State.Busy.answer (busy : s.Busy context) {c : Call} (other : c ≠ .stopContext context) :
    (d.answer c s).2.Busy context := by
  refine ⟨Nat.lt_of_lt_of_le busy.given (d.answer_changes c s).2.next_le, ?_⟩
  have activity := busy.activity
  have step := d.answer_contextStep c busy.given
  unfold State.activity at activity ⊢
  generalize s.contexts.find? context = before at activity step
  generalize (d.answer c s).2.contexts.find? context = now at step
  cases step with
  | same => exact activity
  | closed => exact nofun
  | bound config ctx idle => exact absurd (congrArg some idle) activity
  | started ctx idle => exact nofun
  | stopped ctx => exact absurd rfl other

/-- A context that was just started is busy. -/
theorem busy_of_started {c : Call} (numbered : s.Numbered)
    (started : Event.started? ⟨c, (d.answer c s).1⟩ = some context) :
    (d.answer c s).2.Busy context := by
  cases c with
  | startContext context' =>
    change Event.started? ⟨.startContext context', (startContext context' s).1⟩ = _ at started
    have active := (@startContext_activity s context').1
    cases result : (startContext context' s).1 with
    | error e =>
      rw [result] at started
      cases started
    | ok =>
      rw [result] at started
      obtain rfl := Option.some.inj started
      have there := active result
      have numbered' : (d.answer (.startContext context') s).2.Numbered := numbered.answer _
      refine ⟨numbered'.given there, ?_⟩
      change (startContext context' s).2.activity context' ≠ some false
      rw [there]
      exact nofun
  | _ => cases started

theorem not_started_of_busy {c : Call} (busy : s.Busy context) :
    Event.started? ⟨c, (d.answer c s).1⟩ ≠ some context := by
  cases c with
  | startContext context' =>
    change Event.started? ⟨.startContext context', (startContext context' s).1⟩ ≠ _
    rcases startContext_cases context' s with ⟨e, budgets, failed⟩ | ⟨ctx, found, idle, started⟩
    · rw [failed]
      exact (Option.some_ne_none context).symm
    · rw [started]
      intro same
      obtain rfl := Option.some.inj same
      refine busy.activity ?_
      rw [State.activity, found, Option.map_some, idle]
  | _ => exact (Option.some_ne_none context).symm

/-- Where an event of the history comes from. -/
theorem history_split {ops : List Operation} {s : State} {earlier later : List Event} {e : Event}
    (split : d.history ops s = earlier ++ e :: later) :
    ∃ before c behind, d.history before s = earlier ∧ e = ⟨c, (d.answer c (d.after before s)).1⟩ ∧
      d.history behind (d.answer c (d.after before s)).2 = later := by
  induction ops generalizing s earlier with
  | nil => cases earlier <;> cases split
  | cons op ops ih =>
    cases op with
    | failReads agent times =>
      obtain ⟨before, c, behind, rfl, event, later⟩ :=
        @ih (s.injectReadFailures agent times) _ split
      exact ⟨.failReads agent times :: before, c, behind, rfl, event, later⟩
    | call c =>
      change ⟨c, (d.answer c s).1⟩ :: d.history ops (d.answer c s).2 = _ at split
      cases earlier with
      | nil =>
        obtain ⟨rfl, later⟩ := List.cons.inj split
        exact ⟨[], c, ops, rfl, rfl, later⟩
      | cons first earlier =>
        obtain ⟨rfl, rest⟩ := List.cons.inj split
        obtain ⟨before, c', behind, rfl, event, later⟩ := ih rest
        exact ⟨.call c :: before, c', behind, rfl, event, later⟩

/-- A busy context is busy until it is stopped, in any history. -/
theorem State.Busy.after {ops : List Operation} (busy : s.Busy context)
    (unstopped : ∀ e ∈ d.history ops s, e.call ≠ .stopContext context) :
    (d.after ops s).Busy context := by
  induction ops generalizing s with
  | nil => exact busy
  | cons op ops ih =>
    cases op with
    | failReads agent times => exact ih ⟨busy.given, busy.activity⟩ unstopped
    | call c =>
      obtain ⟨first, later⟩ := List.forall_mem_cons.1 unstopped
      exact ih (busy.answer first) later

theorem stopped_between {ops : List Operation} (numbered : s.Numbered) {first second : Event}
    {earlier between later : List Event}
    (split : d.history ops s = earlier ++ first :: between ++ second :: later)
    (started : first.started? = some context) (again : second.started? = some context) :
    ∃ e ∈ between, e.call = .stopContext context := by
  rw [List.append_assoc, List.cons_append] at split
  obtain ⟨before, c, behind, -, rfl, rest⟩ := history_split split
  obtain ⟨before', c', behind', rfl, rfl, -⟩ := history_split rest
  have busy := busy_of_started (after_numbered before numbered) started
  by_contra unstopped
  refine not_started_of_busy (busy.after fun e mem stop => ?_) again
  exact unstopped ⟨e, mem, stop⟩

/-! ## Bound configurations -/

/-- A context that is active before and after an operation is the same before and after. -/
theorem Operation.apply_active (op : Operation) (numbered : s.Numbered)
    (active : s.activity context = some true)
    (still : (op.apply d s).activity context = some true) :
    (op.apply d s).contexts.find? context = s.contexts.find? context := by
  cases op with
  | failReads agent times => rfl
  | call c =>
    have step := d.answer_contextStep c (numbered.given active)
    change (d.answer c s).2.activity context = some true at still
    change (d.answer c s).2.contexts.find? context = _
    unfold State.activity at active still
    generalize s.contexts.find? context = before at active step
    generalize (d.answer c s).2.contexts.find? context = now at still step
    cases step with
    | same => rfl
    | closed => cases still
    | bound config ctx idle =>
      exact absurd (idle.symm.trans (Option.some.inj active)) Bool.false_ne_true
    | started ctx idle =>
      exact absurd (idle.symm.trans (Option.some.inj active)) Bool.false_ne_true
    | stopped ctx => cases still

/-- A context that is active all the time stays the same. -/
theorem after_active {ops : List Operation} (numbered : s.Numbered)
    (active : ∀ past, past <+: ops → (d.after past s).activity context = some true) :
    (d.after ops s).contexts.find? context = s.contexts.find? context := by
  induction ops generalizing s with
  | nil => rfl
  | cons op ops ih =>
    have first := active [] (List.nil_prefix)
    have second := active [op] ⟨ops, rfl⟩
    refine (ih (op.apply_numbered numbered) fun past part => ?_).trans
      (op.apply_active numbered first second)
    exact active (op :: past) (List.prefix_cons_inj op |>.2 part)

/-! ## Reads -/

/-- Only an active context that is bound to a live configuration can be read. -/
theorem readRecords_ok {buffer : List Record} {count : Nat}
    (read : (d.readRecords context buffer s).1.count = .ok count) :
    ∃ ctx config ids, s.contexts.find? context = some ctx ∧ ctx.active = true ∧
      ctx.bound = some config ∧ s.configs.find? config = some ids := by
  unfold readRecords at read
  split at read
  · cases read
  next ctx found =>
    split at read
    · cases read
    next active =>
      split at read
      · cases read
      split at read
      · cases read
      next config bound =>
        split at read
        · cases read
        next ids live =>
          exact ⟨ctx, config, ids, found, by simpa using active, bound, live⟩

/-! ## Devices that were built -/

theorem Builder.initial_numbered (b : Builder) : b.initial.Numbered :=
  numbered_initial b.budgets

/-- However a device is built and used, its books are right, numbers are given out once, contexts
are started and stopped by turns and stay bound while they are active, and only what is active and
bound to a live configuration is read. -/
theorem history_lawful (b : Builder) (ops : List Operation) : b.device.Lawful b.initial ops where
  balance := after_balanced ops rfl b.initial_numbered
  config_lt := by
    intro config mem
    obtain ⟨ids, found⟩ := Option.isSome_iff_exists.1 (Table.contains_iff.2 mem)
    exact (after_numbered ops b.initial_numbered).config_lt config ids found
  context_lt := by
    intro context mem
    obtain ⟨ctx, found⟩ := Option.isSome_iff_exists.1 (Table.contains_iff.2 mem)
    exact (after_numbered ops b.initial_numbered).context_lt context ctx found
  configs_ascend := configs_ascend ops b.initial
  contexts_ascend := contexts_ascend ops b.initial
  starts := (after_starts ops b.initial).trans (Nat.zero_add _)
  stopped := by
    intro context first second earlier between later split started again
    exact stopped_between b.initial_numbered split started again
  bound := by
    intro context earlier during later _ active
    have numbered : (b.device.after earlier b.initial).Numbered :=
      after_numbered earlier b.initial_numbered
    simp only [after_append] at active ⊢
    rw [after_active numbered active]
  reads := fun _ _ _ => readRecords_ok

end Device

end CounterSampling
