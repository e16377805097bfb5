import CounterSampling.Proofs.Caching.Questions
import CounterSampling.Proofs.Sampling.Trace

/-!
# What a catalog asks the backend

A catalog lists the counters of its agent until a listing succeeds as a whole, and never after that.
It asks for the dimensions of a counter until they are told, and never after that. The first is an
exact count for every question, the second a budget of one success per counter that every step draws
on. Together with the answers this makes the catalog as good as one that remembers nothing:
`Catalog.answers_uncached`.
-/

namespace CounterSampling

open Procedure

variable {σ α : Type} {b : Backend σ} {F : Facts} {agent : AgentId}

/-! Backends that always answer an inquiry in the same way. -/

/-- Every inquiry is always answered in the same way. -/
def Backend.Stable (b : Backend σ) : Prop :=
  ∀ c, c.IsInquiry → ∀ s s', (b.answer c s).1 = (b.answer c s').1

/-- What a backend tells in a state. What it makes of sets of counters is left out. -/
def Backend.facts (b : Backend σ) (s : σ) : Facts where
  listed agent := (b.answer (.supportedCounters agent) s).1
  named id := (b.answer (.counterName id) s).1
  dimensions id := (b.answer (.counterDimensions id) s).1
  position r id := (b.answer (.dimensionPosition r id) s).1
  verdict _ _ := .taken

theorem Backend.Stable.tells (stable : b.Stable) {c : Call} (inquiry : c.IsInquiry) (s s' : σ) :
    (b.facts s').Tells c (b.answer c s).1 := by
  have same := stable c inquiry s s'
  cases c with
  | supportedCounters agent => exact same
  | counterName id => exact same
  | counterDimensions id => exact same
  | dimensionPosition r id => exact same
  | _ => exact inquiry.elim

/-- The result on a stable backend. -/
theorem Backend.Stable.learned {Q : α → Prop} {p : Procedure α} (stable : b.Stable)
    (s s' : σ) (h : p.Learns (b.facts s') Q) : Q (p.run b s).1 :=
  h.informed (fun _ s inquiry => stable.tells inquiry s s') s

/-! Listings. -/

/-- A call that lists the counters of an agent. -/
def Call.isListing : Call → Bool
  | .supportedCounters _ => true
  | _ => false

/-- The counters of an agent were listed. -/
def Event.isListing (e : Event) : Bool := e.call.isListing

/-- Steps that list nothing and leave what is known of the counters alone. -/
abbrev Quiet (m : StateT Catalog Procedure α) : Prop :=
  StepsOnly (fun c => c.isListing = false) Catalog.supported m

/-- Events that none of the calls of some steps can give rise to do not occur. -/
theorem StepsOnly.countP_eq_zero {κ : Type} {P : Call → Prop} {part : Catalog → κ}
    {m : StateT Catalog Procedure α} (h : StepsOnly P part m) {f : Event → Bool}
    (never : ∀ e : Event, P e.call → f e = false) (b : Backend σ) (c : Catalog) (s : σ) :
    ((m.run c).trace b s).countP f = 0 := by
  rw [List.countP_eq_zero]
  intro e made
  rw [never e ((h c).of_mem_trace b s made)]
  exact Bool.false_ne_true

namespace Catalog

theorem run_list_known {c : Catalog} {known : NameMap CounterId} (h : c.supported = some known) :
    list.run.run c = .done (.ok known, c) := by
  rw [list, run_bind_getOk, h]
  rfl

/-- What is done to list the counters of an agent. -/
def learnAll (agent : AgentId) : CatalogM (NameMap CounterId) := do
  let ids ← query (.call (.supportedCounters agent))
  let known ← nameAll .empty ids
  modify fun c => { c with supported := some known }
  pure known

theorem run_list_unknown {c : Catalog} (h : c.supported = none) :
    list.run.run c = (learnAll c.agent).run.run c := by
  rw [list, run_bind_getOk, h]
  change (get >>= _ : CatalogM _).run.run c = _
  rw [run_bind_getOk]
  rfl

/-- A listing is remembered just if it succeeds. -/
theorem list_remembers (c : Catalog) :
    (list.run.run c).Ensures (fun _ => True) fun y => y.2.supported = y.1.toOption := by
  cases known : c.supported with
  | some known' =>
    rw [run_list_known known]
    exact known
  | none =>
    rw [run_list_unknown known]
    have asked : StepsOnly (fun _ => True) Catalog.supported
        (query (.call (.supportedCounters c.agent))).run := query_only (ensures_any _)
    refine ensures_bindOk ((asked c).mono (fun _ => id) fun x same => ?_)
    obtain ⟨ids, c'⟩ := x
    cases ids with
    | error e => exact same.trans known
    | ok ids =>
      have named : StepsOnly (fun _ => True) Catalog.supported (nameAll .empty ids).run :=
        nameAll_only (fun _ => trivial) (fun _ _ => rfl) .empty ids
      refine ensures_bindOk ((named c').mono (fun _ => id) fun x same' => ?_)
      obtain ⟨known', c''⟩ := x
      cases known' with
      | error e => exact same'.trans (same.trans known)
      | ok known' => exact rfl

/-- One listing is made, unless the counters are known. -/
theorem countP_list (c : Catalog) (s : σ) :
    ((list.run.run c).trace b s).countP Event.isListing = if c.supported.isSome then 0 else 1 := by
  cases known : c.supported with
  | some known' =>
    rw [run_list_known known]
    rfl
  | none =>
    rw [run_list_unknown known, learnAll, trace_bindOk, List.countP_append, run_query, trace_bind,
      run_bind]
    have named (ids : List CounterId) :
        StepsOnly (fun c => c.isListing = false) Catalog.dimensions
          (do
            let known ← nameAll .empty ids
            modify fun c => { c with supported := some known }
            pure known : CatalogM (NameMap CounterId)).run := by
      refine (nameAll_only (fun _ => rfl) (fun _ _ => rfl) .empty ids).bindOk fun known => ?_
      exact (stepsOnly_modifyOk (by exact fun _ => rfl)).bindOk fun _ => stepsOnly_ok known
    cases answered : ((call (.supportedCounters c.agent)).run b s).1 with
    | error e => rfl
    | ok ids =>
      have rest := (named ids).countP_eq_zero (f := Event.isListing) (fun _ => id) b c
      dsimp only [bind_done, run_done, answered, Except.mapError]
      rw [rest]
      rfl

/-- Listing the counters and then going on without listing them again. -/
theorem list_then {β : Type} {k : NameMap CounterId → CatalogM β}
    (quiet : ∀ known, Quiet (k known).run) (c : Catalog) (s : σ) :
    (((list >>= k).run.run c).trace b s).countP Event.isListing =
        (if c.supported.isSome then 0 else 1) ∧
      (((list >>= k).run.run c).run b s).1.2.supported =
        ((list.run.run c).run b s).1.1.toOption := by
  have remembered := (list_remembers c).result b s
  rw [trace_bindOk, run_bindOk, List.countP_append, countP_list]
  generalize (list.run.run c).run b s = y at remembered ⊢
  obtain ⟨⟨r, c'⟩, s'⟩ := y
  cases r with
  | error e => exact ⟨rfl, remembered⟩
  | ok known =>
    refine ⟨?_, ?_⟩
    · have none : (((k known).run.run c').trace b s').countP Event.isListing = 0 :=
        (quiet known).countP_eq_zero (fun _ => id) b c' s'
      exact congrArg _ none
    · exact ((quiet known c').result b s').trans remembered

end Catalog

namespace CatalogQuestion

/-- The counters of the agent have to be known to answer. -/
def enumerates : CatalogQuestion → Bool
  | .list | .lookup _ | .describe => true
  | .dimensionsOf _ | .recordCountOf _ | .nameOf _ | .positionsOf _ => false

theorem ask_quiet {q : CatalogQuestion} (h : q.enumerates = false) : Quiet q.ask := by
  cases q with
  | list => cases h
  | lookup name => cases h
  | dimensionsOf id => exact Catalog.dimensionsOf_only (fun _ => rfl) (fun _ _ => rfl) id
  | recordCountOf id => exact Catalog.recordCountOf_only (fun _ => rfl) (fun _ _ => rfl) id
  | nameOf r => exact Catalog.nameOf_only (fun _ => rfl) (fun _ _ => rfl) r
  | positionsOf r =>
    have described : Quiet (Catalog.dimensionsOf r.counter).run :=
      Catalog.dimensionsOf_only (fun _ => rfl) (fun _ _ => rfl) r.counter
    exact described.bindOk (Catalog.positionsAlong_only (fun _ _ => rfl) r .empty)
  | describe => cases h

theorem ask_enumerating {q : CatalogQuestion} (h : q.enumerates = true) (c : Catalog) (s : σ) :
    ((q.ask.run c).trace b s).countP Event.isListing = (if c.supported.isSome then 0 else 1) ∧
      ((q.ask.run c).run b s).1.2.supported =
        ((Catalog.list.run.run c).run b s).1.1.toOption := by
  cases q with
  | list => exact ⟨Catalog.countP_list c s, (Catalog.list_remembers c).result b s⟩
  | lookup name => exact Catalog.list_then (fun _ => stepsOnly_ok _) c s
  | describe =>
    exact Catalog.list_then
      (fun known => Catalog.describeAll_only (fun _ => rfl) (fun _ _ => rfl) known.entries) c s
  | dimensionsOf id => cases h
  | recordCountOf id => cases h
  | nameOf r => cases h
  | positionsOf r => cases h

/-- Put questions to a catalog, one after another. -/
def askAll : List CatalogQuestion → StateT Catalog Procedure PUnit
  | [] => pure ⟨⟩
  | q :: qs => do
    let _ ← q.ask
    askAll qs

end CatalogQuestion

open CatalogQuestion

/-- Whether the counters of an agent can be listed. -/
def Facts.canList (F : Facts) (agent : AgentId) : Bool :=
  (F.listing agent).isOk

section Asked

variable (stable : b.Stable) {s₀ : σ} {c : Catalog} (truthful : c.Truthful (b.facts s₀) agent)

include stable truthful

/-- A question is answered with what the backend tells, and the catalog stays truthful. -/
theorem Backend.Stable.asked (q : CatalogQuestion) (s : σ) :
    let y := (q.ask.run c).run b s
    y.1.1 = (b.facts s₀).answer agent q ∧ y.1.2.Truthful (b.facts s₀) agent :=
  stable.learned s s₀ (q.ask_learns c truthful)

/-- The counters of the agent are listed for a question that needs them, unless they are known, and
are known afterwards if that succeeds. -/
theorem Backend.Stable.lists (q : CatalogQuestion) (s : σ) :
    ((q.ask.run c).trace b s).countP Event.isListing =
        (if q.enumerates && !c.supported.isSome then 1 else 0) ∧
      ((q.ask.run c).run b s).1.2.supported.isSome =
        (c.supported.isSome || q.enumerates && (b.facts s₀).canList agent) := by
  cases needs : q.enumerates with
  | false =>
    have quiet : Quiet q.ask := ask_quiet needs
    refine ⟨quiet.countP_eq_zero (f := Event.isListing) (fun _ => id) b c s, ?_⟩
    have same : _ = c.supported := (quiet c).result b s
    rw [same, Bool.false_and, Bool.or_false]
  | true =>
    obtain ⟨count, supported⟩ := ask_enumerating needs (b := b) c s
    have listed := (stable.asked truthful .list s).1
    change ((Catalog.list.run.run c).run b s).1.1 = _ at listed
    rw [listed] at supported
    rw [count, supported]
    have known : c.supported.isSome = true → (b.facts s₀).canList agent = true := by
      intro known
      obtain ⟨names, same⟩ := Option.isSome_iff_exists.1 known
      rw [Facts.canList, truthful.supported names same]
      rfl
    have answer : ((b.facts s₀).answer agent .list).toOption.isSome =
        (b.facts s₀).canList agent := by
      simp only [Facts.answer, Facts.canList]
      cases (b.facts s₀).listing agent <;> rfl
    rw [answer]
    cases here : c.supported.isSome with
    | true => exact ⟨rfl, known here⟩
    | false => exact ⟨rfl, rfl⟩

theorem Backend.Stable.askedAll (qs : List CatalogQuestion) (s : σ) :
    let y := ((askAll qs).run c).run b s
    y.1.2.Truthful (b.facts s₀) agent ∧
      y.1.2.supported.isSome =
        (c.supported.isSome || qs.any enumerates && (b.facts s₀).canList agent) := by
  induction qs generalizing c s with
  | nil => exact ⟨truthful, (Bool.or_false _).symm⟩
  | cons q qs ih =>
    have asked := stable.asked truthful q s
    have lists := (stable.lists truthful q s).2
    simp only [askAll, StateT.run_bind, run_bind]
    generalize (q.ask.run c).run b s = y at asked lists ⊢
    obtain ⟨kept, supported⟩ := ih asked.2 y.2
    refine ⟨kept, supported.trans ?_⟩
    rw [lists, List.any_cons]
    cases c.supported.isSome <;> cases q.enumerates <;> cases (b.facts s₀).canList agent <;> simp

end Asked

/-! Dimensions. -/

/-- A call that asks for the dimensions of a counter. -/
def Call.asksDimensions : Call → Bool
  | .counterDimensions _ => true
  | _ => false

/-- The dimensions of a counter were told. -/
def Event.tellsDimensions (id : CounterId) : Event → Bool
  | ⟨.counterDimensions id', .ok _⟩ => decide (id' = id)
  | _ => false

/-- How often the catalog may still be told the dimensions of a counter. -/
def Catalog.wanting (c : Catalog) (id : CounterId) : Nat :=
  if (c.dimensions.find? id).isSome then 0 else 1

/-- Whatever the backend answers, being told the dimensions of a counter uses up that they are
wanting. -/
def Frugal (id : CounterId) (m : StateT Catalog Procedure α) : Prop :=
  ∀ (σ : Type) (b : Backend σ) (c : Catalog) (s : σ),
    ((m.run c).trace b s).countP (Event.tellsDimensions id) +
      ((m.run c).run b s).1.2.wanting id ≤ c.wanting id

section Frugal

variable {β ε : Type} {id : CounterId}

theorem Frugal.bind {m : StateT Catalog Procedure α} {k : α → StateT Catalog Procedure β}
    (h : Frugal id m) (later : ∀ a, Frugal id (k a)) : Frugal id (m >>= k) := by
  intro σ b c s
  have first := h σ b c s
  rw [StateT.run_bind, trace_bind, run_bind, List.countP_append]
  generalize (m.run c).run b s = y at first ⊢
  have second := later y.1.1 σ b y.1.2 y.2
  omega

theorem StepsOnly.frugal {m : StateT Catalog Procedure α}
    (h : StepsOnly (fun c => c.asksDimensions = false) Catalog.dimensions m) : Frugal id m := by
  intro σ b c s
  have untold (e : Event) (made : e.call.asksDimensions = false) :
      e.tellsDimensions id = false := by
    obtain ⟨call, answer⟩ := e
    cases call with
    | counterDimensions id' => cases made
    | _ => rfl
  have same : _ = c.dimensions := (h c).result b s
  rw [h.countP_eq_zero untold, Catalog.wanting, same, Nat.zero_add]
  exact Nat.le_refl _

theorem frugal_pure (a : α) : Frugal id (pure a : StateT Catalog Procedure α) :=
  (stepsOnly_pure a).frugal

theorem Frugal.bindOk {m : ExceptT ε (StateT Catalog Procedure) α}
    {k : α → ExceptT ε (StateT Catalog Procedure) β} (h : Frugal id m.run)
    (later : ∀ a, Frugal id (k a).run) : Frugal id (m >>= k).run := by
  refine h.bind fun r => ?_
  cases r with
  | ok a => exact later a
  | error e => exact frugal_pure (Except.error e)

namespace Catalog

theorem list_frugal : Frugal id list.run :=
  (list_only (fun _ => rfl) (fun _ _ => rfl) (fun _ => rfl) fun _ _ => rfl).frugal

theorem run_dimensionsOf_unknown {c : Catalog} (unknown : c.dimensions.find? id = none) :
    (dimensionsOf id).run.run c = .ask (.counterDimensions id) fun r =>
      .done <| match r with
        | .ok dims => (.ok dims, { c with dimensions := c.dimensions.insert id dims })
        | .error e => (.error (.catalog c.agent e), c) := by
  rw [dimensionsOf, run_bind_getOk, unknown]
  change (query _ >>= _ : CatalogM _).run.run c = _
  rw [ExceptT.run_bind, StateT.run_bind, run_query, bind_assoc]
  refine congrArg (Procedure.ask _) (funext fun r => ?_)
  cases r <;> rfl

theorem dimensionsOf_frugal (other : CounterId) : Frugal id (dimensionsOf other).run := by
  intro σ b c s
  cases known : c.dimensions.find? other with
  | some dims =>
    rw [dimensionsOf, run_bind_getOk, known]
    exact Nat.le_of_eq (Nat.zero_add _)
  | none =>
    rw [run_dimensionsOf_unknown known, trace_ask, run_ask, List.countP_cons]
    cases (b.answer (.counterDimensions other) s).1 with
    | error e => simp [Event.tellsDimensions]
    | ok dims =>
      by_cases same : other = id
      · subst same
        simp [Event.tellsDimensions, wanting, known]
      · simp [Event.tellsDimensions, wanting, same]

theorem describeAll_frugal (listed : List (String × CounterId)) :
    Frugal id (describeAll listed).run := by
  induction listed with
  | nil => exact frugal_pure _
  | cons entry listed ih =>
    exact (dimensionsOf_frugal entry.2).bindOk fun _ => ih.bindOk fun _ => frugal_pure _

end Catalog

theorem CatalogQuestion.ask_frugal (q : CatalogQuestion) : Frugal id q.ask := by
  cases q with
  | list => exact Catalog.list_frugal
  | lookup name => exact Catalog.list_frugal.bindOk fun _ => frugal_pure _
  | dimensionsOf id' => exact Catalog.dimensionsOf_frugal id'
  | recordCountOf id' =>
    refine (Catalog.dimensionsOf_frugal id').bindOk fun dims => ?_
    cases recordCount? dims with
    | some n => exact frugal_pure _
    | none => exact (stepsOnly_getOk.bindOk fun c => stepsOnly_throw _).frugal
  | nameOf r => exact (Catalog.nameOf_only (fun _ => rfl) (fun _ _ => rfl) r).frugal
  | positionsOf r =>
    refine (Catalog.dimensionsOf_frugal r.counter).bindOk fun dims => ?_
    exact (Catalog.positionsAlong_only (fun _ _ => rfl) r .empty dims).frugal
  | describe =>
    exact Catalog.list_frugal.bindOk fun known => Catalog.describeAll_frugal known.entries

theorem CatalogQuestion.askAll_frugal (qs : List CatalogQuestion) : Frugal id (askAll qs) := by
  induction qs with
  | nil => exact frugal_pure _
  | cons q qs ih => exact q.ask_frugal.bind fun _ => ih

end Frugal

end CounterSampling
