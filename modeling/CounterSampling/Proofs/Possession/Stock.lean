import CounterSampling.Proofs.Device.Numbers
import CounterSampling.Proofs.Possession.Learning

/-!
# What a procedure holds

The stock of a procedure are the configurations that it made and did not release, each with its
counters. `Procedure.Manages` says that a procedure uses only the context and the configurations
that are its own, and what its stock is when it ends. On a device the stock of a procedure is
there whatever others do in between, as long as nobody else releases any of it.
-/

namespace CounterSampling

/-- Configurations with the counters they hold. -/
abbrev Stock : Type := List (ConfigId × List CounterId)

namespace Stock

def configs (stock : Stock) : List ConfigId := stock.map Prod.fst

/-- What is held after a call was answered. -/
def after (stock : Stock) : (c : Call) → c.Answer → Stock
  | .tryConfigure _ ids, outcome =>
    match outcome with
    | .configured config => (config, ids) :: stock
    | _ => stock
  | .destroyConfig config, _ => stock.filter fun held => !decide (held.1 = config)
  | _, _ => stock

/-- A call that does not release any of the stock takes nothing away from it. -/
theorem subset_after {stock : Stock} {c : Call}
    (spares : ∀ config, c.released? = some config → config ∉ stock.configs) (r : c.Answer) :
    stock ⊆ stock.after c r := by
  cases c with
  | tryConfigure agent ids =>
    cases r with
    | configured config => exact List.subset_cons_self _ _
    | capacityExceeded => exact List.Subset.refl _
    | failed e => exact List.Subset.refl _
  | destroyConfig config =>
    intro held mem
    refine List.mem_filter.2 ⟨mem, ?_⟩
    have other : held.1 ≠ config := by
      rintro rfl
      exact spares held.1 rfl (List.mem_map_of_mem mem)
    simpa using other
  | _ => exact List.Subset.refl _

theorem after_of_spares (stock : Stock) {c : Call} (spares : c.isConfigCall = false)
    (r : c.Answer) : stock.after c r = stock := by
  cases c with
  | tryConfigure agent ids => cases spares
  | destroyConfig config => cases spares
  | _ => rfl

end Stock

/-- The calls of a sampler that has this context and this stock. -/
def Call.Proper (context : ContextId) (stock : Stock) : Call → Prop
  | .tryConfigure _ _ => True
  | .destroyConfig config => config ∈ stock.configs
  | .bindConfig context' _ => context' = context
  | .startContext context' => context' = context
  | .stopContext context' => context' = context
  | .readRecords context' _ => context' = context
  | c => c.IsInquiry

theorem Call.IsInquiry.not_isConfigCall {c : Call} (h : c.IsInquiry) :
    c.isConfigCall = false := by
  cases c with
  | tryConfigure agent ids => exact h.elim
  | destroyConfig config => exact h.elim
  | _ => rfl

theorem Call.IsInquiry.proper {c : Call} (h : c.IsInquiry) (context : ContextId) (stock : Stock) :
    c.Proper context stock := by
  cases c with
  | supportedCounters agent => trivial
  | counterName id => trivial
  | counterDimensions id => trivial
  | dimensionPosition r id => trivial
  | _ => exact h.elim

/-- A configuration that is new has a number that nothing in stock has. -/
def Stock.Fresh (stock : Stock) : (c : Call) → c.Answer → Prop
  | .tryConfigure _ _, outcome => ∀ config, outcome = .configured config → config ∉ stock.configs
  | _, _ => True

/-- What a device can answer to a call of someone with this stock. -/
structure Device.Allows (d : Device) (stock : Stock) (c : Call) (r : c.Answer) : Prop where
  tells : d.facts.Tells c r
  fresh : stock.Fresh c r

namespace Procedure

variable {α β : Type} {d : Device} {context : ContextId}

/-- The procedure makes only proper calls, and it ends with a stock and a result that have the
property `Q`. -/
def Manages (d : Device) (context : ContextId) (Q : Stock → α → Prop) : Procedure α → Stock → Prop
  | .done a, stock => Q stock a
  | .ask c next, stock => c.Proper context stock ∧
    ∀ r, d.Allows stock c r → (next r).Manages d context Q (stock.after c r)

theorem Manages.mono {Q Q' : Stock → α → Prop} {p : Procedure α} {stock : Stock}
    (h : p.Manages d context Q stock) (weaker : ∀ stock a, Q stock a → Q' stock a) :
    p.Manages d context Q' stock := by
  induction p generalizing stock with
  | done a => exact weaker stock a h
  | ask c next ih => exact ⟨h.1, fun r allowed => ih r (h.2 r allowed)⟩

theorem Manages.bind {Q : Stock → α → Prop} {Q' : Stock → β → Prop} {p : Procedure α}
    {k : α → Procedure β} {stock : Stock} (h : p.Manages d context Q stock)
    (later : ∀ stock a, Q stock a → (k a).Manages d context Q' stock) :
    (p >>= k).Manages d context Q' stock := by
  induction p generalizing stock with
  | done a => exact later stock a h
  | ask c next ih => exact ⟨h.1, fun r allowed => ih r (h.2 r allowed)⟩

/-- What only inquires leaves the stock as it is. -/
theorem Learns.manages {Q : α → Prop} {p : Procedure α} (h : p.Learns d.facts Q) (context : ContextId)
    (stock : Stock) : p.Manages d context (fun stock' a => stock' = stock ∧ Q a) stock := by
  induction p with
  | done a => exact ⟨rfl, h⟩
  | ask c next ih =>
    refine ⟨h.1.proper context stock, fun r allowed => ?_⟩
    rw [stock.after_of_spares h.1.not_isConfigCall]
    exact ih r (h.2 r allowed.tells)

end Procedure

namespace Device

variable {d : Device}

/-- The numbers of the stock were given out. -/
def State.Issued (s : State) (stock : Stock) : Prop :=
  ∀ config ∈ stock.configs, config.val < s.nextConfig

/-- All the stock is there. -/
def State.Stores (s : State) (stock : Stock) : Prop :=
  ∀ held ∈ stock, s.configs.find? held.1 = some held.2

theorem State.issued_nil (s : State) : s.Issued [] := nofun

theorem State.Issued.allows {s : State} {stock : Stock} (h : s.Issued stock) (c : Call) :
    d.Allows stock c (d.answer c s).1 := by
  refine ⟨d.steady c s, ?_⟩
  cases c with
  | tryConfigure agent ids =>
    change stock.Fresh (.tryConfigure agent ids) (d.configure agent ids s).1
    rcases d.configure_cases agent ids s with ⟨outcome, same, refused⟩ | created
    · rw [same]
      exact fun config taken => absurd taken (refused config)
    · rw [created]
      intro config taken held
      have := h config held
      rw [← ConfigureOutcome.configured.inj taken] at this
      exact Nat.lt_irrefl _ this
  | _ => trivial

theorem State.Issued.others {s : State} {stock : Stock} (h : s.Issued stock) (c : Call) :
    (d.answer c s).2.Issued stock :=
  fun config held => Nat.lt_of_lt_of_le (h config held) (d.answer_changes c s).1.next_le

theorem State.Issued.answer {s : State} {stock : Stock} (h : s.Issued stock) (c : Call) :
    (d.answer c s).2.Issued (stock.after c (d.answer c s).1) := by
  cases spares : c.isConfigCall with
  | false =>
    rw [stock.after_of_spares spares]
    exact h.others c
  | true =>
    cases c with
    | tryConfigure agent ids =>
      change (d.configure agent ids s).2.Issued
        (stock.after (.tryConfigure agent ids) (d.configure agent ids s).1)
      rcases d.configure_cases agent ids s with ⟨outcome, same, refused⟩ | created
      · rw [same]
        cases outcome with
        | configured config => exact absurd rfl (refused config)
        | capacityExceeded => exact h
        | failed e => exact h
      · rw [created]
        intro config held
        change config.val < s.nextConfig + 1
        rcases List.mem_cons.1 held with rfl | old
        · exact Nat.lt_succ_self _
        · exact Nat.lt_succ_of_lt (h config old)
    | destroyConfig config =>
      intro config' held
      refine (h.others (.destroyConfig config)) config' ?_
      exact List.map_subset Prod.fst List.filter_sublist.subset held
    | _ => cases spares

theorem State.Stores.subset {s : State} {stock stock' : Stock} (h : s.Stores stock')
    (within : stock ⊆ stock') : s.Stores stock :=
  fun held mem => h held (within mem)

theorem State.Stores.issued {s : State} {stock : Stock} (h : s.Stores stock)
    (numbered : s.Numbered) : s.Issued stock := by
  intro config held
  obtain ⟨entry, mem, rfl⟩ := List.mem_map.1 held
  exact numbered.config_lt entry.1 entry.2 (h entry mem)

theorem destroyConfig_find? (config other : ConfigId) (s : State) :
    (destroyConfig config s).configs.find? other =
      if config = other then none else s.configs.find? other := by
  unfold destroyConfig
  split
  · exact Table.find?_erase _ _ _
  next absent =>
    split
    next same =>
      subst same
      simpa [Table.contains] using absent
    next => rfl

/-- What is in stock after a call is there after it. -/
theorem State.Stores.answer {s : State} {stock : Stock} (h : s.Stores stock)
    (numbered : s.Numbered) (c : Call) :
    (d.answer c s).2.Stores (stock.after c (d.answer c s).1) := by
  cases spares : c.isConfigCall with
  | false =>
    obtain ⟨⟨configs, -⟩, -⟩ := d.answer_sameConfigs spares s
    rw [stock.after_of_spares spares, State.Stores, configs]
    exact h
  | true =>
    cases c with
    | tryConfigure agent ids =>
      change (d.configure agent ids s).2.Stores
        (stock.after (.tryConfigure agent ids) (d.configure agent ids s).1)
      rcases d.configure_cases agent ids s with ⟨outcome, same, refused⟩ | created
      · rw [same]
        cases outcome with
        | configured config => exact absurd rfl (refused config)
        | capacityExceeded => exact h
        | failed e => exact h
      · rw [created]
        intro held mem
        change (s.configs.insert ⟨s.nextConfig⟩ ids).find? held.1 = some held.2
        rw [Table.find?_insert]
        rcases List.mem_cons.1 mem with rfl | old
        · rw [if_pos rfl]
        · rw [if_neg, h held old]
          intro same
          have := h.issued numbered held.1 (List.mem_map_of_mem old)
          rw [← same] at this
          exact Nat.lt_irrefl _ this
    | destroyConfig config =>
      intro held mem
      obtain ⟨old, other⟩ := List.mem_filter.1 mem
      change (Device.destroyConfig config s).configs.find? held.1 = some held.2
      rw [destroyConfig_find?, if_neg, h held old]
      rintro rfl
      simp at other
    | _ => cases spares

/-- What is in stock stays there while others leave it alone. -/
theorem State.Stores.others {s : State} {stock : Stock} (h : s.Stores stock)
    (numbered : s.Numbered) {c : Call}
    (spares : ∀ config, c.released? = some config → config ∉ stock.configs) :
    (d.answer c s).2.Stores stock :=
  (h.answer numbered c).subset (Stock.subset_after spares _)

end Device

/-- A procedure is carried out while others make calls in between, none of which releases anything
of its stock: what it holds and what state the device is in at the beginning, and its result, what
it holds and the state at the end. -/
inductive Procedure.Amid {α : Type} (d : Device) :
    Procedure α → Stock → Device.State → α → Stock → Device.State → Prop
  | done (a : α) (stock : Stock) (s : Device.State) : Amid d (.done a) stock s a stock s
  | own {c : Call} {next : c.Answer → Procedure α} {stock stock' : Stock} {s s' : Device.State}
    {a : α} (rest : Amid d (next (d.answer c s).1) (stock.after c (d.answer c s).1)
      (d.answer c s).2 a stock' s') : Amid d (.ask c next) stock s a stock' s'
  | other {p : Procedure α} {stock stock' : Stock} {s s' : Device.State} {a : α} (c : Call)
    (spares : ∀ config, c.released? = some config → config ∉ stock.configs)
    (rest : Amid d p stock (d.answer c s).2 a stock' s') : Amid d p stock s a stock' s'

namespace Procedure

variable {α : Type} {d : Device} {context : ContextId} {Q : Stock → α → Prop}

/-- A procedure may be carried out with nobody in between. -/
theorem amid_run (d : Device) (p : Procedure α) (stock : Stock) (s : Device.State) :
    ∃ stock', p.Amid d stock s (p.run d.backend s).1 stock' (p.run d.backend s).2 := by
  induction p generalizing stock s with
  | done a => exact ⟨stock, .done a stock s⟩
  | ask c next ih =>
    obtain ⟨stock', rest⟩ := ih (d.answer c s).1 (stock.after c (d.answer c s).1) (d.answer c s).2
    exact ⟨stock', .own rest⟩

/-- What holds of a state and of every answer to a call holds at the end. -/
theorem Amid.preserves {P : Device.State → Prop} {p : Procedure α} {stock stock' : Stock}
    {s s' : Device.State} {a : α} (amid : p.Amid d stock s a stock' s')
    (answer : ∀ c s, P s → P (d.answer c s).2) (h : P s) : P s' := by
  induction amid with
  | done a stock s => exact h
  | own rest ih => exact ih (answer _ _ h)
  | other c spares rest ih => exact ih (answer c _ h)

/-- What a procedure holds in the end is there, whatever others did in between. -/
theorem Manages.amid {p : Procedure α} {stock stock' : Stock} {s s' : Device.State} {a : α}
    (h : p.Manages d context Q stock) (stores : s.Stores stock) (numbered : s.Numbered)
    (amid : p.Amid d stock s a stock' s') : Q stock' a ∧ s'.Stores stock' := by
  induction amid with
  | done a stock s => exact ⟨h, stores⟩
  | @own c next stock stock' s s' a rest ih =>
    have allowed := (stores.issued numbered).allows (d := d) c
    exact ih (h.2 _ allowed) (stores.answer numbered c) (numbered.answer c)
  | other c spares rest ih => exact ih h (stores.others numbered spares) (numbered.answer c)

end Procedure

end CounterSampling
