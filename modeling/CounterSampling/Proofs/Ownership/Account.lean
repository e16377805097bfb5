import CounterSampling.Overlay
import CounterSampling.Proofs.Calls
import CounterSampling.Proofs.Device.Effects

/-!
# The account of a device

An account lists the configurations that are live, those that were released, and the contexts of a
device. It is sound if no configuration stands in it twice, if all numbers in it were given out, and
if the counts of the device agree with it. Creating a configuration, releasing a live one and
opening or closing a context keep it sound; every other call leaves it as it is.
-/

namespace CounterSampling

/-- What a device holds, and what it was told to release. -/
structure Account where
  live : List ConfigId
  released : List ConfigId
  contexts : List ContextId
  nextConfig : Nat
  nextContext : Nat
  created : Nat
  destroyed : Nat

/-- The account of a device whose released configurations are noted. -/
def accountOf (x : List ConfigId × Device.State) : Account where
  live := x.2.configs.keys
  released := x.1
  contexts := x.2.contexts.keys
  nextConfig := x.2.nextConfig
  nextContext := x.2.nextContext
  created := x.2.configsCreated
  destroyed := x.2.configsDestroyed

namespace Account

/-- No configuration is live or released twice, numbers are not given out twice, and what was
created and not destroyed is live. -/
structure Sound (a : Account) : Prop where
  nodup : (a.live ++ a.released).Nodup
  config_lt : ∀ c ∈ a.live ++ a.released, c.val < a.nextConfig
  balance : a.created = a.destroyed + a.live.length
  contexts_nodup : a.contexts.Nodup
  context_lt : ∀ c ∈ a.contexts, c.val < a.nextContext

/-- The account after a configuration was created. -/
def create (a : Account) : Account :=
  { a with
    live := a.live ++ [⟨a.nextConfig⟩]
    nextConfig := a.nextConfig + 1
    created := a.created + 1 }

/-- The account after a live configuration was released. -/
def release (a : Account) (c : ConfigId) : Account :=
  { a with
    live := a.live.erase c
    released := c :: a.released
    destroyed := a.destroyed + 1 }

/-- The account after a context was opened. -/
def openContext (a : Account) : Account :=
  { a with contexts := a.contexts ++ [⟨a.nextContext⟩], nextContext := a.nextContext + 1 }

/-- The account after a context was closed. -/
def closeContext (a : Account) (c : ContextId) : Account :=
  { a with contexts := a.contexts.erase c }

variable {a : Account}

theorem Sound.create (h : a.Sound) : a.create.Sound where
  nodup := by
    have fresh : (⟨a.nextConfig⟩ : ConfigId) ∉ a.live ++ a.released :=
      fun mem => Nat.lt_irrefl _ (h.config_lt _ mem)
    refine (List.perm_append_comm.append_right a.released).nodup_iff.2 ?_
    exact List.nodup_cons.2 ⟨fresh, h.nodup⟩
  config_lt := by
    intro c mem
    change c ∈ a.live ++ [⟨a.nextConfig⟩] ++ a.released at mem
    have old := h.config_lt c
    simp only [List.mem_append, List.mem_singleton] at mem old
    change c.val < a.nextConfig + 1
    rcases mem with (live | rfl) | released
    · have := old (.inl live)
      omega
    · exact Nat.lt_succ_self _
    · have := old (.inr released)
      omega
  balance := by
    have := h.balance
    simp only [Account.create, List.length_append, List.length_singleton]
    omega
  contexts_nodup := h.contexts_nodup
  context_lt := h.context_lt

theorem Sound.release (h : a.Sound) {c : ConfigId} (mem : c ∈ a.live) : (a.release c).Sound := by
  have moved : ((a.release c).live ++ (a.release c).released).Perm (a.live ++ a.released) :=
    List.perm_middle.trans ((List.perm_cons_erase mem).symm.append_right a.released)
  refine ⟨moved.nodup_iff.2 h.nodup, fun c' mem' => h.config_lt c' (moved.mem_iff.1 mem'), ?_,
    h.contexts_nodup, h.context_lt⟩
  have := h.balance
  have := List.length_pos_of_mem mem
  have := List.length_erase_of_mem mem
  simp only [Account.release]
  omega

theorem Sound.openContext (h : a.Sound) : a.openContext.Sound where
  nodup := h.nodup
  config_lt := h.config_lt
  balance := h.balance
  contexts_nodup := by
    have fresh : (⟨a.nextContext⟩ : ContextId) ∉ a.contexts :=
      fun mem => Nat.lt_irrefl _ (h.context_lt _ mem)
    exact List.perm_append_comm.nodup_iff.2 (List.nodup_cons.2 ⟨fresh, h.contexts_nodup⟩)
  context_lt := by
    intro c mem
    change c.val < a.nextContext + 1
    rcases List.mem_append.1 mem with old | new
    · exact Nat.lt_succ_of_lt (h.context_lt c old)
    · rw [List.mem_singleton.1 new]
      exact Nat.lt_succ_self _

theorem Sound.closeContext (h : a.Sound) (c : ContextId) : (a.closeContext c).Sound :=
  ⟨h.nodup, h.config_lt, h.balance, h.contexts_nodup.erase c,
    fun c' mem => h.context_lt c' (List.mem_of_mem_erase mem)⟩

end Account

/-- The calls that neither create or release configurations nor open or close contexts. -/
def Call.SparesAccount : Call → Prop
  | .tryConfigure _ _ => False
  | .destroyConfig _ => False
  | .createContext _ => False
  | .destroyContext _ => False
  | _ => True

/-- A device behind an overlay, with the configurations it was told to release. -/
def Device.seenThrough (d : Device) (o : Overlay) : Backend (List ConfigId × Device.State) :=
  (o.backend d.backend).notingReleases

namespace Device

/-- Writing a context that is there leaves the list of contexts as it is. -/
theorem keys_rewrite {s : State} {context : ContextId} {ctx : Context}
    (found : s.contexts.find? context = some ctx) (ctx' : Context) :
    (s.contexts.insert context ctx').keys = s.contexts.keys := by
  rw [Table.keys_insert, if_pos]
  rw [← Table.contains_iff, Table.contains, found]
  rfl

theorem bindConfig_spares (context : ContextId) (config : ConfigId) (released : List ConfigId)
    (s : State) :
    accountOf (released, (bindConfig context config s).2) = accountOf (released, s) := by
  rcases bindConfig_cases context config s with ⟨e, budgets, same, -⟩ | ⟨ctx, found, -, bound⟩
  · rw [same]
    rfl
  · simp only [bound, accountOf, keys_rewrite found]

theorem startContext_spares (context : ContextId) (released : List ConfigId) (s : State) :
    accountOf (released, (startContext context s).2) = accountOf (released, s) := by
  rcases startContext_cases context s with ⟨e, budgets, same⟩ | ⟨ctx, found, -, started⟩
  · rw [same]
    rfl
  · simp only [started, accountOf, keys_rewrite found]

theorem stopContext_spares (context : ContextId) (released : List ConfigId) (s : State) :
    accountOf (released, (stopContext context s).2) = accountOf (released, s) := by
  rcases stopContext_cases context s with ⟨-, e, same⟩ | ⟨ctx, r, budgets, found, stopped⟩
  · rw [same]
  · simp only [stopped, accountOf, keys_rewrite found]

theorem readRecords_spares (d : Device) (context : ContextId) (buffer : List Record)
    (released : List ConfigId) (s : State) :
    accountOf (released, (d.readRecords context buffer s).2) = accountOf (released, s) := by
  obtain ⟨budgets, same⟩ := d.readRecords_budgets context buffer s
  rw [same]
  rfl

theorem answer_spares (d : Device) (c : Call) (spares : c.SparesAccount) (released : List ConfigId)
    (s : State) : accountOf (released, (d.answer c s).2) = accountOf (released, s) := by
  cases c with
  | agents => rfl
  | supportedCounters agent => rfl
  | counterName id => rfl
  | counterDimensions id => rfl
  | dimensionPosition r id => rfl
  | tryConfigure agent ids => exact spares.elim
  | destroyConfig config => exact spares.elim
  | createContext agent => exact spares.elim
  | destroyContext context => exact spares.elim
  | bindConfig context config => exact bindConfig_spares context config released s
  | startContext context => exact startContext_spares context released s
  | stopContext context => exact stopContext_spares context released s
  | readRecords context buffer => exact readRecords_spares d context buffer released s
  | simulated => rfl

end Device

namespace Overlay

variable {σ : Type} (o : Overlay) (b : Backend σ) (s : σ)

/-- An overlay passes a call on, or it answers the call itself and leaves the state alone. -/
theorem answer_state (c : Call) :
    (o.answer b c s).2 = s ∨ (o.answer b c s).2 = (b.answer c s).2 := by
  cases c with
  | counterName id => simp only [Overlay.answer]; split <;> simp
  | counterDimensions id => simp only [Overlay.answer]; split <;> simp
  | dimensionPosition r id => simp only [Overlay.answer]; split <;> simp
  | createContext agent => simp only [Overlay.answer]; split <;> simp
  | tryConfigure agent ids =>
    simp only [Overlay.answer]
    split
    · exact .inl rfl
    split
    · exact .inl rfl
    split
    · exact .inl rfl
    · exact .inr rfl
  | _ => exact .inr rfl

/-- What an overlay answers itself, it refuses. -/
theorem answer_tryConfigure (agent : AgentId) (ids : List CounterId) :
    o.answer b (.tryConfigure agent ids) s = b.answer (.tryConfigure agent ids) s ∨
      (∀ config, (o.answer b (.tryConfigure agent ids) s).1 ≠ .configured config) ∧
        (o.answer b (.tryConfigure agent ids) s).2 = s := by
  simp only [Overlay.answer]
  split
  · exact .inr ⟨nofun, rfl⟩
  split
  · exact .inr ⟨nofun, rfl⟩
  split
  · exact .inr ⟨nofun, rfl⟩
  · exact .inl rfl

theorem answer_createContext (agent : AgentId) :
    o.answer b (.createContext agent) s = b.answer (.createContext agent) s ∨
      o.answer b (.createContext agent) s = (.error contextUnavailable, s) := by
  simp only [Overlay.answer]
  split
  · exact .inr rfl
  · exact .inl rfl

end Overlay

namespace Device

variable (d : Device) (o : Overlay) {x : List ConfigId × State}

/-- A call that spares the account of the device does so also behind an overlay. -/
theorem seenThrough_spares (c : Call) (spares : c.SparesAccount) (x : List ConfigId × State) :
    accountOf ((d.seenThrough o).answer c x).2 = accountOf x := by
  have unreleased : c.released? = none := by
    cases c with
    | destroyConfig config => exact spares.elim
    | _ => rfl
  change accountOf (c.released?.toList ++ x.1, (o.answer d.backend c x.2).2) = accountOf x
  rw [unreleased]
  rcases o.answer_state d.backend x.2 c with same | passed
  · rw [same]
    rfl
  · rw [passed]
    exact d.answer_spares c spares x.1 x.2

/-- Trying to configure creates the next configuration or changes nothing. -/
theorem seenThrough_tryConfigure (agent : AgentId) (ids : List CounterId)
    (sound : (accountOf x).Sound) :
    (((d.seenThrough o).answer (.tryConfigure agent ids) x).1 = .configured ⟨x.2.nextConfig⟩ ∧
        accountOf ((d.seenThrough o).answer (.tryConfigure agent ids) x).2 =
          (accountOf x).create) ∨
      ((∀ config, ((d.seenThrough o).answer (.tryConfigure agent ids) x).1 ≠ .configured config) ∧
        accountOf ((d.seenThrough o).answer (.tryConfigure agent ids) x).2 = accountOf x) := by
  have fresh : (⟨x.2.nextConfig⟩ : ConfigId) ∉ x.2.configs.keys := fun mem =>
    Nat.lt_irrefl _ (sound.config_lt _ (List.mem_append_left _ mem))
  change ((o.answer d.backend (.tryConfigure agent ids) x.2).1 = _ ∧
      accountOf (x.1, (o.answer d.backend (.tryConfigure agent ids) x.2).2) = _) ∨
    ((∀ config, (o.answer d.backend (.tryConfigure agent ids) x.2).1 ≠ _) ∧
      accountOf (x.1, (o.answer d.backend (.tryConfigure agent ids) x.2).2) = _)
  rcases o.answer_tryConfigure d.backend x.2 agent ids with passed | ⟨refused, same⟩
  · rw [passed]
    change ((d.configure agent ids x.2).1 = _ ∧
        accountOf (x.1, (d.configure agent ids x.2).2) = _) ∨
      ((∀ config, (d.configure agent ids x.2).1 ≠ _) ∧
        accountOf (x.1, (d.configure agent ids x.2).2) = _)
    rcases d.configure_cases agent ids x.2 with ⟨outcome, same, refused⟩ | created
    · rw [same]
      exact .inr ⟨refused, rfl⟩
    · refine .inl ⟨congrArg Prod.fst created, ?_⟩
      simp only [created, accountOf, Account.create, Table.keys_insert_fresh fresh]
  · rw [same]
    exact .inr ⟨refused, rfl⟩

/-- Releasing a live configuration moves it to the released ones. -/
theorem seenThrough_destroyConfig {config : ConfigId} (live : config ∈ (accountOf x).live) :
    accountOf ((d.seenThrough o).answer (.destroyConfig config) x).2 =
      (accountOf x).release config := by
  change accountOf (config :: x.1, Device.destroyConfig config x.2) = _
  have there : x.2.configs.contains config = true := Table.contains_iff.2 live
  simp only [Device.destroyConfig, there, if_true, accountOf, Account.release, Table.keys_erase]

/-- Creating a context opens the next one or changes nothing. -/
theorem seenThrough_createContext (agent : AgentId) (sound : (accountOf x).Sound) :
    (((d.seenThrough o).answer (.createContext agent) x).1 = .ok ⟨x.2.nextContext⟩ ∧
        accountOf ((d.seenThrough o).answer (.createContext agent) x).2 =
          (accountOf x).openContext) ∨
      (∃ e, ((d.seenThrough o).answer (.createContext agent) x).1 = .error e) ∧
        accountOf ((d.seenThrough o).answer (.createContext agent) x).2 = accountOf x := by
  have fresh : (⟨x.2.nextContext⟩ : ContextId) ∉ x.2.contexts.keys := fun mem =>
    Nat.lt_irrefl _ (sound.context_lt _ mem)
  change ((o.answer d.backend (.createContext agent) x.2).1 = _ ∧
      accountOf (x.1, (o.answer d.backend (.createContext agent) x.2).2) = _) ∨
    (∃ e, (o.answer d.backend (.createContext agent) x.2).1 = .error e) ∧
      accountOf (x.1, (o.answer d.backend (.createContext agent) x.2).2) = _
  rcases o.answer_createContext d.backend x.2 agent with passed | refused
  · rw [passed]
    change ((d.createContext agent x.2).1 = _ ∧
        accountOf (x.1, (d.createContext agent x.2).2) = _) ∨
      (∃ e, (d.createContext agent x.2).1 = .error e) ∧
        accountOf (x.1, (d.createContext agent x.2).2) = _
    rcases d.createContext_cases agent x.2 with ⟨e, same⟩ | created
    · rw [same]
      exact .inr ⟨⟨e, rfl⟩, rfl⟩
    · refine .inl ⟨congrArg Prod.fst created, ?_⟩
      simp only [created, accountOf, Account.openContext, Table.keys_insert_fresh fresh]
  · rw [refused]
    exact .inr ⟨⟨_, rfl⟩, rfl⟩

theorem seenThrough_destroyContext (context : ContextId) :
    accountOf ((d.seenThrough o).answer (.destroyContext context) x).2 =
      (accountOf x).closeContext context := by
  change accountOf (x.1, Device.destroyContext context x.2) = _
  simp only [Device.destroyContext, accountOf, Account.closeContext, Table.keys_erase]

end Device

end CounterSampling
