import CounterSampling.Proofs.Runs.Numbering

/-!
# What events do to configurations

A trace tells which configurations were made and released, and so what is held after it. A backend
that gives no number to two configurations never makes one of them again: `Backend.NeverRepeats`.
-/

namespace CounterSampling

variable {σ : Type} {b : Backend σ}

/-- The configuration that was released. -/
def Event.released? (e : Event) : Option ConfigId :=
  e.call.released?

/-- The configurations that were made. -/
def allMade (events : List Event) : List ConfigId :=
  events.filterMap Event.made?

/-- The configurations that were released. -/
def allReleased (events : List Event) : List ConfigId :=
  events.filterMap Event.released?

/-- What is held after some events. -/
def Stock.afterAll (stock : Stock) (events : List Event) : Stock :=
  events.foldl (fun stock e => stock.after e.call e.answer) stock

@[simp] theorem allMade_append (events more : List Event) :
    allMade (events ++ more) = allMade events ++ allMade more :=
  List.filterMap_append

@[simp] theorem allReleased_append (events more : List Event) :
    allReleased (events ++ more) = allReleased events ++ allReleased more :=
  List.filterMap_append

@[simp] theorem Stock.afterAll_append (stock : Stock) (events more : List Event) :
    stock.afterAll (events ++ more) = (stock.afterAll events).afterAll more :=
  List.foldl_append

/-- Events by which no configuration is made or released. -/
structure Uneventful (events : List Event) : Prop where
  made : allMade events = []
  released : allReleased events = []
  held : ∀ stock : Stock, stock.afterAll events = stock

theorem Uneventful.nil : Uneventful [] :=
  ⟨rfl, rfl, fun _ => rfl⟩

theorem Uneventful.append {events more : List Event} (h : Uneventful events)
    (h' : Uneventful more) : Uneventful (events ++ more) where
  made := by rw [allMade_append, h.made, h'.made, List.append_nil]
  released := by rw [allReleased_append, h.released, h'.released, List.append_nil]
  held := fun stock => by rw [Stock.afterAll_append, h.held, h'.held]

/-- Calls that neither try nor release a configuration make and release none. -/
theorem uneventful_of_spares {events : List Event}
    (spares : ∀ e ∈ events, e.call.isConfigCall = false) : Uneventful events := by
  have one (e : Event) (h : e.call.isConfigCall = false) : Uneventful [e] := by
    obtain ⟨c, r⟩ := e
    refine ⟨?_, ?_, fun stock => stock.after_of_spares h r⟩
    · cases c with
      | tryConfigure agent ids => cases h
      | _ => rfl
    · cases c with
      | destroyConfig config => cases h
      | _ => rfl
  induction events with
  | nil => exact .nil
  | cons e events ih =>
    obtain ⟨first, later⟩ := List.forall_mem_cons.1 spares
    exact (one e first).append (ih later)

/-- An inquiry makes and releases no configuration. -/
theorem Call.IsInquiry.uneventful {c : Call} (inquiry : c.IsInquiry) (r : c.Answer) :
    Uneventful [⟨c, r⟩] :=
  uneventful_of_spares (List.forall_mem_singleton.2 inquiry.not_isConfigCall)

/-- What only inquires makes and releases no configuration. -/
theorem Procedure.Ensures.uneventful {α : Type} {Q : α → Prop} {q : Procedure α}
    (h : q.Ensures Call.IsInquiry Q) (b : Backend σ) (s : σ) : Uneventful (q.trace b s) :=
  uneventful_of_spares fun _ mem => (h.of_mem_trace b s mem).not_isConfigCall

/-- A set of counters that is refused makes no configuration. -/
theorem uneventful_refused {agent : AgentId} {ids : List CounterId} {outcome : ConfigureOutcome}
    (refusal : ∀ config, outcome ≠ .configured config) :
    Uneventful [⟨.tryConfigure agent ids, outcome⟩] := by
  cases outcome with
  | configured config => exact absurd rfl (refusal config)
  | capacityExceeded => exact ⟨rfl, rfl, fun _ => rfl⟩
  | failed e => exact ⟨rfl, rfl, fun _ => rfl⟩

/-- What is held by somebody else is held on after a call that does not release it. -/
theorem Stock.after_held (stock held : Stock) (c : Call) (r : c.Answer)
    (spared : ∀ config, c.released? = some config → config ∉ held.configs) :
    Stock.after (stock ++ held) c r = stock.after c r ++ held := by
  cases c with
  | tryConfigure agent ids => cases r <;> rfl
  | destroyConfig config =>
    have other : held.filter (fun entry => !decide (entry.1 = config)) = held := by
      refine List.filter_eq_self.2 fun entry mem => ?_
      have apart : entry.1 ≠ config := by
        rintro rfl
        exact spared entry.1 rfl (List.mem_map_of_mem mem)
      simpa using apart
    exact (List.filter_append _ _).trans (congrArg _ other)
  | _ => rfl

/-- What is held by somebody else is held on, if it is not released. -/
theorem Stock.afterAll_held (stock held : Stock) (events : List Event)
    (spared : ∀ config ∈ allReleased events, config ∉ held.configs) :
    Stock.afterAll (stock ++ held) events = stock.afterAll events ++ held := by
  induction events generalizing stock with
  | nil => rfl
  | cons e events ih =>
    have first := stock.after_held held e.call e.answer fun config released =>
      spared config (List.mem_filterMap.2 ⟨e, List.mem_cons_self, released⟩)
    have later : ∀ config ∈ allReleased events, config ∉ held.configs := by
      intro config mem
      obtain ⟨e', there, released⟩ := List.mem_filterMap.1 mem
      exact spared config (List.mem_filterMap.2 ⟨e', List.mem_cons_of_mem e there, released⟩)
    change Stock.afterAll (Stock.after (stock ++ held) e.call e.answer) events =
      (stock.after e.call e.answer).afterAll events ++ held
    rw [first]
    exact ih (stock.after e.call e.answer) later

/-! ## Numbers given out once -/

/-- No two configurations are given the same number, whatever is asked from this state on. -/
def Backend.NeverRepeats (b : Backend σ) (s : σ) : Prop :=
  ∀ events s', b.Answers s events s' → (events.filterMap Event.made?).Nodup

/-- Configurations are numbered in ascending order: `next` is the least number that was not given
out yet. -/
def Backend.Ascends (b : Backend σ) (next : σ → Nat) : Prop :=
  ∀ c s, (c.made? (b.answer c s).1 = none ∧ next s ≤ next (b.answer c s).2) ∨
    ∃ config, c.made? (b.answer c s).1 = some config ∧ next s ≤ config.val ∧
      config.val < next (b.answer c s).2

/-- A backend that numbers configurations in ascending order gives no number twice. -/
theorem Backend.Ascends.neverRepeats {next : σ → Nat} (h : b.Ascends next) (s : σ) :
    b.NeverRepeats s := by
  intro events s' answered
  suffices above : (∀ config ∈ events.filterMap Event.made?, next s ≤ config.val) ∧
      (events.filterMap Event.made?).Nodup from above.2
  induction events generalizing s with
  | nil => exact ⟨nofun, .nil⟩
  | cons e events ih =>
    obtain ⟨same, later⟩ := answered
    obtain ⟨above, distinct⟩ := ih _ later
    have step := h e.call s
    rw [same] at step
    change e.made? = none ∧ _ ∨ ∃ config, e.made? = some config ∧ _ at step
    rcases step with ⟨none, le⟩ | ⟨config, made, le, lt⟩
    · rw [List.filterMap_cons_none none]
      exact ⟨fun config mem => Nat.le_trans le (above config mem), distinct⟩
    · rw [List.filterMap_cons_some made]
      refine ⟨List.forall_mem_cons.2 ⟨le, fun other mem => ?_⟩,
        List.nodup_cons.2 ⟨fun mem => ?_, distinct⟩⟩
      · exact Nat.le_trans le (Nat.le_trans (Nat.le_of_lt lt) (above other mem))
      · exact Nat.not_le.2 lt (above config mem)

theorem Device.ascends (d : Device) : d.backend.Ascends State.nextConfig := by
  intro c s
  rcases d.made?_answer c s with ⟨none, same⟩ | ⟨made, succ⟩
  · exact .inl ⟨none, Nat.le_of_eq same.symm⟩
  · exact .inr ⟨_, made, Nat.le_refl _, Nat.lt_of_lt_of_eq (Nat.lt_succ_self _) succ.symm⟩

/-- A simulated device gives no number to two configurations. -/
theorem Device.neverRepeats (d : Device) (s : State) : d.backend.NeverRepeats s :=
  d.ascends.neverRepeats s

end CounterSampling
