import CounterSampling.Device.Answer
import CounterSampling.Proofs.SamplerCalls

/-!
# What catalogs learn from a device

A steady device answers an inquiry in the same way whatever its state is, and what it makes of a set
of counters is always the same. `Facts` are what such a device tells. What the catalog of an agent
remembers of them stays true, and what it answers is settled by the facts alone, remembered or not:
which counters there are, how many records a counter gives and what a record's counter is called.
Simulated devices are steady.
-/

namespace CounterSampling

/-- What comes of trying to build a configuration, whatever number it is given. -/
inductive Verdict where
  | taken
  | capacityExceeded
  | failed (e : BackendError)
  deriving DecidableEq, Repr

def ConfigureOutcome.verdict : ConfigureOutcome → Verdict
  | .configured _ => .taken
  | .capacityExceeded => .capacityExceeded
  | .failed e => .failed e

/-- What a steady device tells about counters, and which sets of them it takes. -/
structure Facts where
  listed : AgentId → Except BackendError (List CounterId)
  named : CounterId → Except BackendError String
  dimensions : CounterId → Except BackendError (List Dimension)
  position : Record → DimensionId → Except BackendError Nat
  verdict : AgentId → List CounterId → Verdict

namespace Facts

/-- Whether an answer is what the facts say. Calls about anything else may be answered at will. -/
def Tells (F : Facts) : (c : Call) → c.Answer → Prop
  | .supportedCounters agent, listed => listed = F.listed agent
  | .counterName id, name => name = F.named id
  | .counterDimensions id, dims => dims = F.dimensions id
  | .dimensionPosition r id, place => place = F.position r id
  | .tryConfigure agent ids, outcome => outcome.verdict = F.verdict agent ids
  | _, _ => True

/-- The numbers of counters by their names; of two counters of one name the later counts. -/
def nameAll (F : Facts) (known : NameMap CounterId) :
    List CounterId → Except BackendError (NameMap CounterId)
  | [] => .ok known
  | id :: ids =>
    match F.named id with
    | .ok name => F.nameAll (known.insert name id) ids
    | .error e => .error e

/-- The counters that an agent has, or why they cannot be listed. -/
def listing (F : Facts) (agent : AgentId) : Except BackendError (NameMap CounterId) :=
  match F.listed agent with
  | .ok ids => F.nameAll .empty ids
  | .error e => .error e

/-- How many records a counter gives, where that fits a word. -/
def sizeOf? (F : Facts) (id : CounterId) : Option Nat :=
  match F.dimensions id with
  | .ok dims => recordCount? dims
  | .error _ => none

/-- How many records counters give together; one whose number does not fit counts as none. -/
def totalSize (F : Facts) : List CounterId → Nat
  | [] => 0
  | id :: ids => (F.sizeOf? id).getD 0 + F.totalSize ids

theorem totalSize_append (F : Facts) (ids more : List CounterId) :
    F.totalSize (ids ++ more) = F.totalSize ids + F.totalSize more := by
  induction ids with
  | nil => simp [totalSize]
  | cons id ids ih => simp [totalSize, ih, Nat.add_assoc]

/-- The places of a record along dimensions, by name; of two dimensions of one name the later
counts. -/
def positionsAlong (F : Facts) (r : Record) (known : NameMap Nat) :
    List Dimension → Except BackendError (NameMap Nat)
  | [] => .ok known
  | dim :: dims =>
    match F.position r dim.id with
    | .ok n => F.positionsAlong r (known.insert dim.name n) dims
    | .error e => .error e

/-- The places of a record along the dimensions of its counter. -/
def positions (F : Facts) (r : Record) : Except BackendError (NameMap Nat) :=
  match F.dimensions r.counter with
  | .ok dims => F.positionsAlong r .empty dims
  | .error e => .error e

/-- The name under which the records of a counter are summed. -/
def nameOf (F : Facts) (id : CounterId) : String :=
  match F.named id with
  | .ok name => name
  | .error _ => Catalog.unknownCounter

/-- The rows that describe counters of an agent. -/
def describeAll (F : Facts) (agent : AgentId) :
    List (String × CounterId) → Except SamplerError (List Counter)
  | [] => .ok []
  | (name, id) :: rest => do
    let dims ← (F.dimensions id).mapError (.catalog agent)
    return ⟨id, name, dims⟩ :: (← F.describeAll agent rest)

/-- The description of all counters of an agent. -/
def describe (F : Facts) (agent : AgentId) : Except SamplerError (List Counter) := do
  F.describeAll agent (← (F.listing agent).mapError (.catalog agent)).entries

/-- A name stands for the last of the counters that bears it, or else for what it stood for. -/
theorem find?_of_nameAll {F : Facts} {ids : List CounterId} {known known' : NameMap CounterId}
    (listed : F.nameAll known ids = .ok known') (name : String) :
    known'.find? name =
      (ids.reverse.find? fun id => decide ((F.named id).toOption = some name)).or
        (known.find? name) := by
  induction ids generalizing known with
  | nil =>
    rw [← Except.ok.inj listed]
    rfl
  | cons id ids ih =>
    rw [nameAll] at listed
    cases told : F.named id with
    | error e =>
      rw [told] at listed
      cases listed
    | ok name' =>
      rw [told] at listed
      rw [ih listed, NameMap.find?_insert, List.reverse_cons, List.find?_append, Option.or_assoc]
      refine congrArg _ ?_
      rw [List.find?_singleton, told]
      by_cases same : name' = name
      · subst same
        simp [Except.toOption]
      · simp [Except.toOption, same]

end Facts

/-- The backend answers inquiries as the facts say, in every state. -/
def Backend.Informs {σ : Type} (b : Backend σ) (F : Facts) : Prop :=
  ∀ c s, c.IsInquiry → F.Tells c (b.answer c s).1

/-- The backend answers as the facts say, in every state. -/
def Backend.Steady {σ : Type} (b : Backend σ) (F : Facts) : Prop :=
  ∀ c s, F.Tells c (b.answer c s).1

/-- The backend answers inquiries as the facts say, and it takes the sets of counters that the facts
say are taken. How it refuses the other sets may change from call to call. -/
structure Backend.Consistent {σ : Type} (b : Backend σ) (F : Facts) : Prop where
  informs : b.Informs F
  taken_iff : ∀ agent ids s, F.verdict agent ids = .taken ↔
    ∃ config, (b.answer (.tryConfigure agent ids) s).1 = .configured config

/-- The counters are taken just if a configuration of them is built. -/
theorem Backend.Steady.taken_iff {σ : Type} {b : Backend σ} {F : Facts} (steady : b.Steady F)
    {agent : AgentId} {ids : List CounterId} {s : σ} :
    F.verdict agent ids = .taken ↔
      ∃ config, (b.answer (.tryConfigure agent ids) s).1 = .configured config := by
  rw [← show ConfigureOutcome.verdict _ = _ from steady (.tryConfigure agent ids) s]
  cases (b.answer (.tryConfigure agent ids) s).1 <;> simp [ConfigureOutcome.verdict]

theorem Backend.Steady.consistent {σ : Type} {b : Backend σ} {F : Facts} (steady : b.Steady F) :
    b.Consistent F :=
  ⟨fun c s _ => steady c s, fun _ _ _ => steady.taken_iff⟩

namespace Device

/-- What a device makes of a set of counters. -/
def verdict (d : Device) (agent : AgentId) (ids : List CounterId) : Verdict :=
  (d.configure agent ids {}).1.verdict

/-- The facts that a simulated device tells. -/
def facts (d : Device) : Facts where
  listed := d.listCounters
  named id := (d.describe id).map fun c => c.name
  dimensions id := (d.describe id).map fun c => c.dimensions
  position := d.position
  verdict := d.verdict

/-- What a device makes of a set of counters does not depend on its state. -/
theorem configure_verdict (d : Device) (agent : AgentId) (ids : List CounterId) (s : State) :
    (d.configure agent ids s).1.verdict = d.verdict agent ids := by
  unfold verdict configure
  split
  · rfl
  split
  · rfl
  split <;> rfl

theorem steady (d : Device) : d.backend.Steady d.facts := by
  intro c s
  cases c with
  | tryConfigure agent ids => exact d.configure_verdict agent ids s
  | supportedCounters agent => rfl
  | counterName id => rfl
  | counterDimensions id => rfl
  | dimensionPosition r id => rfl
  | _ => trivial

theorem facts_named_iff {d : Device} {id : CounterId} {name : String} :
    d.facts.named id = .ok name ↔ ∃ c, d.counter? id = some c ∧ c.name = name := by
  cases found : d.counter? id <;> simp [facts, describe, found, Except.map]

theorem facts_sizeOf?_iff {d : Device} {id : CounterId} {n : Nat} :
    d.facts.sizeOf? id = some n ↔
      ∃ c, d.counter? id = some c ∧ recordCount? c.dimensions = some n := by
  cases found : d.counter? id <;> simp [Facts.sizeOf?, facts, describe, found, Except.map]

end Device

namespace Procedure

variable {α β : Type} {F : Facts}

/-- The procedure only inquires, and if it is told the facts, its result has the property `Q`. -/
def Learns (F : Facts) (Q : α → Prop) : Procedure α → Prop
  | .done a => Q a
  | .ask c next => c.IsInquiry ∧ ∀ r, F.Tells c r → (next r).Learns F Q

theorem Learns.bind {Q : α → Prop} {Q' : β → Prop} {p : Procedure α} {k : α → Procedure β}
    (h : p.Learns F Q) (later : ∀ a, Q a → (k a).Learns F Q') : (p >>= k).Learns F Q' := by
  induction p with
  | done a => exact later a h
  | ask c next ih => exact ⟨h.1, fun r told => ih r (h.2 r told)⟩

theorem Learns.mono {Q Q' : α → Prop} {p : Procedure α} (h : p.Learns F Q)
    (weaker : ∀ a, Q a → Q' a) : p.Learns F Q' := by
  induction p with
  | done a => exact weaker a h
  | ask c next ih => exact ⟨h.1, fun r told => ih r (h.2 r told)⟩

theorem learns_call {c : Call} (inquiry : c.IsInquiry) : (call c).Learns F (F.Tells c) :=
  ⟨inquiry, fun _ => id⟩

/-- The result on a backend that answers inquiries as the facts say. -/
theorem Learns.informed {σ : Type} {b : Backend σ} {Q : α → Prop} {p : Procedure α}
    (h : p.Learns F Q) (informs : b.Informs F) (s : σ) : Q (p.run b s).1 := by
  induction p generalizing s with
  | done a => exact h
  | ask c next ih => exact ih _ (h.2 _ (informs c s h.1)) _

/-- The result on a steady backend. -/
theorem Learns.result {σ : Type} {b : Backend σ} {Q : α → Prop} {p : Procedure α}
    (h : p.Learns F Q) (steady : b.Steady F) (s : σ) : Q (p.run b s).1 :=
  h.informed steady.consistent.informs s

end Procedure

open Procedure

namespace Catalog

/-- The catalog is that of an agent, and all it remembers are facts. -/
structure Truthful (F : Facts) (agent : AgentId) (c : Catalog) : Prop where
  agent_eq : c.agent = agent
  supported : ∀ known, c.supported = some known → F.listing agent = .ok known
  dimensions : ∀ id dims, c.dimensions.find? id = some dims →
    F.dimensions id = .ok dims
  names : ∀ id name, c.names.find? id = some name →
    F.named id = .ok name

theorem truthful_new (F : Facts) (agent : AgentId) : (Catalog.new agent).Truthful F agent :=
  ⟨rfl, nofun, nofun, nofun⟩

section Truthful

variable {F : Facts} {agent : AgentId} {c : Catalog}

theorem Truthful.learnNames (h : c.Truthful F agent) {known : NameMap CounterId}
    (listed : F.listing agent = .ok known) :
    ({ c with supported := some known } : Catalog).Truthful F agent :=
  ⟨h.agent_eq, fun _ same => Option.some.inj same ▸ listed, h.dimensions, h.names⟩

theorem Truthful.learnDimensions (h : c.Truthful F agent) {id : CounterId} {dims : List Dimension}
    (told : F.dimensions id = .ok dims) :
    ({ c with dimensions := c.dimensions.insert id dims } : Catalog).Truthful F agent := by
  refine ⟨h.agent_eq, h.supported, ?_, h.names⟩
  intro id' dims' found
  rcases Table.of_find?_insert found with ⟨rfl, rfl⟩ | old
  · exact told
  · exact h.dimensions id' dims' old

theorem Truthful.learnName (h : c.Truthful F agent) {id : CounterId} {name : String}
    (told : F.named id = .ok name) :
    ({ c with names := c.names.insert id name } : Catalog).Truthful F agent := by
  refine ⟨h.agent_eq, h.supported, h.dimensions, ?_⟩
  intro id' name' found
  rcases Table.of_find?_insert found with ⟨rfl, rfl⟩ | old
  · exact told
  · exact h.names id' name' old

end Truthful

end Catalog

variable {α β ε : Type} {F : Facts} {agent : AgentId}

/-- Steps of the catalog of an agent that only inquire, keep it truthful and come to a result with
the property `Q`. -/
def StepsLearn (F : Facts) (agent : AgentId) (Q : α → Prop) (m : StateT Catalog Procedure α) :
    Prop :=
  ∀ c, c.Truthful F agent → (m.run c).Learns F fun y => Q y.1 ∧ y.2.Truthful F agent

theorem stepsLearn_pure {Q : α → Prop} {a : α} (h : Q a) :
    StepsLearn F agent Q (pure a : StateT Catalog Procedure α) :=
  fun _ truthful => ⟨h, truthful⟩

theorem StepsLearn.bind {Q : α → Prop} {Q' : β → Prop} {m : StateT Catalog Procedure α}
    {k : α → StateT Catalog Procedure β} (h : StepsLearn F agent Q m)
    (later : ∀ a, Q a → StepsLearn F agent Q' (k a)) : StepsLearn F agent Q' (m >>= k) :=
  fun c truthful => (h c truthful).bind fun y learned => later y.1 learned.1 y.2 learned.2

theorem stepsLearn_get : StepsLearn F agent (fun c => c.Truthful F agent)
    (get : StateT Catalog Procedure Catalog) :=
  fun _ truthful => ⟨truthful, truthful⟩

theorem stepsLearn_lift {Q : α → Prop} {p : Procedure α} (h : p.Learns F Q) :
    StepsLearn F agent Q (liftM p : StateT Catalog Procedure α) :=
  fun _ truthful => h.bind fun _ learned => ⟨learned, truthful⟩

theorem StepsLearn.mono {Q Q' : α → Prop} {m : StateT Catalog Procedure α}
    (h : StepsLearn F agent Q m) (weaker : ∀ a, Q a → Q' a) : StepsLearn F agent Q' m :=
  fun c truthful => (h c truthful).mono fun _ learned => ⟨weaker _ learned.1, learned.2⟩

/-! The same for steps that may fail. -/

theorem StepsLearn.bindOk {Q : Except ε α → Prop} {Q' : Except ε β → Prop}
    {m : ExceptT ε (StateT Catalog Procedure) α} {k : α → ExceptT ε (StateT Catalog Procedure) β}
    (h : StepsLearn F agent Q m.run)
    (goesOn : ∀ a, Q (.ok a) → StepsLearn F agent Q' (k a).run)
    (fails : ∀ e, Q (.error e) → Q' (.error e)) : StepsLearn F agent Q' (m >>= k).run := by
  refine h.bind fun x learned => ?_
  cases x with
  | ok a => exact goesOn a learned
  | error e => exact stepsLearn_pure (fails e learned)

theorem stepsLearn_ok {Q : Except ε α → Prop} {a : α} (h : Q (.ok a)) :
    StepsLearn F agent Q (pure a : ExceptT ε (StateT Catalog Procedure) α).run :=
  fun _ truthful => ⟨h, truthful⟩

/-- Steps in a row come to what their results say in a row. -/
theorem StepsLearn.told {ε α β : Type} {x : Except ε α} {f : α → Except ε β}
    {m : ExceptT ε (StateT Catalog Procedure) α} {k : α → ExceptT ε (StateT Catalog Procedure) β}
    (h : StepsLearn F agent (fun r => r = x) m.run)
    (later : ∀ a, StepsLearn F agent (fun r => r = f a) (k a).run) :
    StepsLearn F agent (fun r => r = x >>= f) (m >>= k).run := by
  refine h.bindOk (fun a told => ?_) fun e failed => ?_
  · rw [← told]
    exact later a
  · rw [← failed]
    rfl

theorem stepsLearn_modifyOk {g : Catalog → Catalog}
    (kept : ∀ c, c.Truthful F agent → (g c).Truthful F agent) :
    StepsLearn F agent (fun r => r = .ok ⟨⟩)
      (modify g : ExceptT ε (StateT Catalog Procedure) PUnit).run :=
  fun c truthful => ⟨rfl, kept c truthful⟩

/-- Steps that look at the catalog first. -/
theorem StepsLearn.getOk {Q : Except ε α → Prop}
    {k : Catalog → ExceptT ε (StateT Catalog Procedure) α}
    (h : ∀ c, c.Truthful F agent → ((k c).run.run c).Learns F fun y =>
      Q y.1 ∧ y.2.Truthful F agent) : StepsLearn F agent Q (get >>= k).run := by
  intro c truthful
  rw [show (get >>= k).run.run c = _ from run_bind_getOk k c]
  exact h c truthful

namespace Catalog

theorem run_query (p : Procedure (Except BackendError α)) (c : Catalog) :
    (query p).run.run c = p >>= fun x => .done (x.mapError (.catalog c.agent), c) := by
  simp only [query, ExceptT.run_bind, StateT.run_bind, run_liftOk, StateT.run_monadLift,
    monadLift_self, bind_assoc, pure_eq, bind_done]
  refine congrArg _ (funext fun x => ?_)
  cases x <;> rfl

/-- A query comes to what is told, as a result of the catalog. -/
theorem query_learns {told : Except BackendError α} {p : Procedure (Except BackendError α)}
    (asks : p.Learns F fun x => x = told) :
    StepsLearn F agent (fun x => x = told.mapError (.catalog agent)) (query p).run := by
  intro c truthful
  rw [show (query p).run.run c = _ from run_query p c]
  refine asks.bind fun x same => ?_
  rw [same, truthful.agent_eq]
  exact ⟨rfl, truthful⟩

theorem nameAll_learns (known : NameMap CounterId) (ids : List CounterId) :
    StepsLearn F agent (fun r => r = (F.nameAll known ids).mapError (.catalog agent))
      (nameAll known ids).run := by
  induction ids generalizing known with
  | nil => exact stepsLearn_ok rfl
  | cons id ids ih =>
    have asked : StepsLearn F agent _ (query (.call (.counterName id))).run :=
      query_learns (learns_call (F := F) (c := .counterName id) trivial)
    simp only [Facts.nameAll]
    cases named : F.named id with
    | error e =>
      simp only [named] at asked
      refine asked.bindOk nofun fun e' failed => ?_
      rw [Except.error.inj failed]
      rfl
    | ok name =>
      simp only [named] at asked
      refine asked.bindOk (fun name' told => ?_) nofun
      obtain rfl := Except.ok.inj told
      have learned (c' : Catalog) (truthful : c'.Truthful F agent) :
          ({ c' with names := c'.names.insert id name' } : Catalog).Truthful F agent :=
        truthful.learnName named
      exact (stepsLearn_modifyOk learned).bindOk (fun _ _ => ih _) nofun

/-- Listing the counters of the agent comes to what the facts say. -/
theorem list_learns :
    StepsLearn F agent (fun r => r = (F.listing agent).mapError (.catalog agent)) list.run := by
  have asks : StepsLearn F agent (fun r => r = (F.listing agent).mapError (.catalog agent))
      (do
        let ids ← query (.call (.supportedCounters agent))
        let known ← nameAll .empty ids
        modify fun c => { c with supported := some known }
        pure known : CatalogM (NameMap CounterId)).run := by
    have asked : StepsLearn F agent _ (query (.call (.supportedCounters agent))).run :=
      query_learns (learns_call (F := F) (c := .supportedCounters agent) trivial)
    cases listed : F.listed agent with
    | error e =>
      have none : F.listing agent = .error e := by simp only [Facts.listing, listed]
      rw [listed] at asked
      refine asked.bindOk nofun fun e' failed => ?_
      rw [Except.error.inj failed, none]
      rfl
    | ok ids =>
      have all : F.listing agent = F.nameAll .empty ids := by simp only [Facts.listing, listed]
      rw [listed] at asked
      refine asked.bindOk (fun ids' told => ?_) nofun
      obtain rfl := Except.ok.inj told
      rw [all]
      refine (nameAll_learns .empty ids').bindOk (fun known named => ?_) fun e failed => failed
      have known_eq : F.listing agent = .ok known :=
        all.trans (mapError_eq_ok.1 named.symm)
      have learned (c : Catalog) (truthful : c.Truthful F agent) :
          ({ c with supported := some known } : Catalog).Truthful F agent :=
        truthful.learnNames known_eq
      exact (stepsLearn_modifyOk learned).bindOk (fun _ _ => stepsLearn_ok named) nofun
  apply StepsLearn.getOk
  intro c truthful
  cases remembered : c.supported with
  | some known =>
    rw [truthful.supported known remembered]
    exact ⟨rfl, truthful⟩
  | none =>
    change ((get >>= _ : CatalogM _).run.run c).Learns F _
    rw [run_bind_getOk, truthful.agent_eq]
    exact asks c truthful

/-- Where inquiries are answered as the facts say, the counters are listed as the facts say. -/
theorem run_list {σ : Type} {b : Backend σ} (informs : b.Informs F) {c : Catalog}
    (truthful : c.Truthful F agent) (s : σ) :
    ∃ c' s', (list.run.run c).run b s =
      (((F.listing agent).mapError (.catalog agent), c'), s') ∧ c'.Truthful F agent := by
  have learned := (list_learns c truthful).informed informs s
  rcases listed : (list.run.run c).run b s with ⟨⟨r, c'⟩, s'⟩
  rw [listed] at learned
  obtain ⟨rfl, truthful'⟩ := learned
  exact ⟨c', s', rfl, truthful'⟩

/-- The dimensions of a counter are what the facts say. -/
theorem dimensionsOf_learns (id : CounterId) :
    StepsLearn F agent
      (fun r => r = (F.dimensions id).mapError (.catalog agent))
      (dimensionsOf id).run := by
  apply StepsLearn.getOk
  intro c truthful
  cases remembered : c.dimensions.find? id with
  | some dims =>
    rw [truthful.dimensions id dims remembered]
    exact ⟨rfl, truthful⟩
  | none =>
    have asked : StepsLearn F agent _ (query (.call (.counterDimensions id))).run :=
      query_learns (learns_call (F := F) (c := .counterDimensions id) trivial)
    have asks : StepsLearn F agent
        (fun r => r = (F.dimensions id).mapError (.catalog agent))
        (do
          let dims ← query (.call (.counterDimensions id))
          modify fun c => { c with dimensions := c.dimensions.insert id dims }
          pure dims : CatalogM (List Dimension)).run := by
      refine asked.bindOk (fun dims told => ?_) fun e failed => failed
      have learned (c : Catalog) (truthful : c.Truthful F agent) :
          ({ c with dimensions := c.dimensions.insert id dims } : Catalog).Truthful F agent :=
        truthful.learnDimensions (mapError_eq_ok.1 told.symm)
      exact (stepsLearn_modifyOk learned).bindOk (fun _ _ => stepsLearn_ok told) nofun
    exact asks c truthful

/-- A record count is had just if the counter exists and its count fits a word. -/
theorem recordCountOf_learns (id : CounterId) :
    StepsLearn F agent (fun r => r.toOption = F.sizeOf? id) (recordCountOf id).run := by
  refine (dimensionsOf_learns id).bindOk (fun dims told => ?_) fun e failed => ?_
  · have described := mapError_eq_ok.1 told.symm
    have size : F.sizeOf? id = recordCount? dims := by rw [Facts.sizeOf?, described]
    rw [size]
    cases recordCount? dims with
    | some n => exact stepsLearn_ok rfl
    | none =>
      intro c truthful
      exact ⟨rfl, truthful⟩
  · unfold Facts.sizeOf?
    cases told : F.dimensions id with
    | ok dims =>
      rw [told] at failed
      cases failed
    | error e => rfl

theorem nameOf_of_told {id : CounterId} {name : String} (told : F.named id = .ok name) :
    F.nameOf id = name := by
  rw [Facts.nameOf, told]

theorem nameOf_of_untold {id : CounterId} {e : BackendError} (told : F.named id = .error e) :
    F.nameOf id = unknownCounter := by
  rw [Facts.nameOf, told]

/-- The name of a record is that of its counter, remembered or not. -/
theorem nameOf_learns (r : Record) :
    StepsLearn F agent (fun name => name = F.nameOf r.counter) (nameOf r) := by
  refine stepsLearn_get.bind fun c truthful => ?_
  cases remembered : c.names.find? r.counter with
  | some name =>
    have told := truthful.names r.counter name remembered
    exact stepsLearn_pure (nameOf_of_told told).symm
  | none =>
    have asked : StepsLearn F agent _ (liftM (call (.counterName r.counter))) :=
      stepsLearn_lift (learns_call (F := F) (c := .counterName r.counter) trivial)
    refine asked.bind fun answer told => ?_
    cases answer with
    | ok name =>
      intro c truthful
      exact ⟨(nameOf_of_told told.symm).symm, truthful.learnName told.symm⟩
    | error e => exact stepsLearn_pure (nameOf_of_untold told.symm).symm

/-- A name is looked up among the counters that the agent has. -/
theorem lookup_learns (name : String) :
    StepsLearn F agent
      (fun r => r = ((F.listing agent).mapError (.catalog agent)).map fun known => known.find? name)
      (lookup name).run := by
  refine list_learns.bindOk (fun known listed => ?_) fun e failed => ?_
  · rw [← listed]
    exact stepsLearn_ok rfl
  · rw [← failed]
    rfl

theorem positionsAlong_learns (r : Record) (known : NameMap Nat) (dims : List Dimension) :
    StepsLearn F agent (fun x => x = (F.positionsAlong r known dims).mapError (.catalog agent))
      (positionsAlong r known dims).run := by
  induction dims generalizing known with
  | nil => exact stepsLearn_ok rfl
  | cons dim dims ih =>
    have asked : StepsLearn F agent _ (query (.call (.dimensionPosition r dim.id))).run :=
      query_learns (learns_call (F := F) (c := .dimensionPosition r dim.id) trivial)
    simp only [Facts.positionsAlong]
    cases place : F.position r dim.id with
    | error e =>
      simp only [place] at asked
      refine asked.bindOk nofun fun e' failed => ?_
      rw [Except.error.inj failed]
      rfl
    | ok n =>
      simp only [place] at asked
      refine asked.bindOk (fun n' told => ?_) nofun
      obtain rfl := Except.ok.inj told
      exact ih _

/-- The places of a record are what the facts say. -/
theorem positionsOf_learns (r : Record) :
    StepsLearn F agent (fun x => x = (F.positions r).mapError (.catalog agent))
      (positionsOf r).run := by
  have described : StepsLearn F agent _ (dimensionsOf r.counter).run :=
    dimensionsOf_learns r.counter
  cases told : F.dimensions r.counter with
  | error e =>
    have none : F.positions r = .error e := by simp only [Facts.positions, told]
    rw [told] at described
    refine described.bindOk nofun fun e' failed => ?_
    rw [Except.error.inj failed, none]
    rfl
  | ok dims =>
    have all : F.positions r = F.positionsAlong r .empty dims := by simp only [Facts.positions, told]
    rw [told] at described
    refine described.bindOk (fun dims' same => ?_) nofun
    obtain rfl := Except.ok.inj same
    rw [all]
    exact positionsAlong_learns r .empty dims'

/-! A description of all counters. -/

theorem describeAll_told (listed : List (String × CounterId)) :
    StepsLearn F agent (fun r => r = F.describeAll agent listed) (describeAll listed).run := by
  induction listed with
  | nil => exact stepsLearn_ok rfl
  | cons entry listed ih =>
    exact (dimensionsOf_learns entry.2).told fun dims => ih.told fun cs => stepsLearn_ok rfl

theorem describe_told : StepsLearn F agent (fun r => r = F.describe agent) describe.run :=
  list_learns.told fun known => describeAll_told known.entries

end Catalog

/-- The size of a counter as the packer asks for it. -/
theorem Packer.sizeOf?_learns (id : CounterId) :
    StepsLearn F agent (fun size => size = F.sizeOf? id) (Packer.sizeOf? id) := by
  refine (Catalog.recordCountOf_learns id).bind fun r counted => ?_
  cases r with
  | ok n => exact stepsLearn_pure counted
  | error e => exact stepsLearn_pure counted

end CounterSampling
