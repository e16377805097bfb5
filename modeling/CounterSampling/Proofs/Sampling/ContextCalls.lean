import CounterSampling.Proofs.Sampling.NamedRecords

/-!
# The context calls of sampling a set

Each profile is sampled by four calls: bind, start, read and stop. `ProfileRun` lists the ways in
which this can go, with the calls, their answers and the result of each, and `SetRun` puts the runs
of profiles one after another up to the first that fails. If none fails, the values are the sums of
all records by name, where the names follow from what is asked and answered between the profiles.
All this speaks of answers only, so it holds for every device. Main statement:
`sampleProfileSet_run`.
-/

namespace CounterSampling

/-- Inquiries are not calls about a context. -/
theorem Procedure.Ensures.noContextCalls {σ α : Type} {Q : α → Prop} {q : Procedure α}
    (h : q.Ensures Call.IsInquiry Q) (b : Backend σ) (s : σ) :
    (q.trace b s).filter (fun ev => ev.call.isContextCall) = [] := by
  rw [List.filter_eq_nil_iff]
  intro ev made
  have inquiry := h.of_mem_trace b s made
  cases call : ev.call <;> simp_all [Call.isContextCall, Call.IsInquiry]

/-- What was asked apart from the calls about a context. -/
def besidesContext (events : List Event) : List Event :=
  events.filter fun ev => !ev.call.isContextCall

theorem besidesContext_append (es es' : List Event) :
    besidesContext (es ++ es') = besidesContext es ++ besidesContext es' :=
  List.filter_append es es'

theorem besidesContext_eq_nil {es : List Event} (all : ∀ e ∈ es, e.call.isContextCall = true) :
    besidesContext es = [] := by
  refine List.filter_eq_nil_iff.2 fun ev mem => ?_
  simp [all ev mem]

theorem besidesContext_eq_self {es : List Event}
    (none : es.filter (fun ev => ev.call.isContextCall) = []) : besidesContext es = es := by
  refine List.filter_eq_self.2 fun ev mem => ?_
  simpa using List.filter_eq_nil_iff.1 none ev mem

namespace Event

/-- Whether a context call was answered with success. -/
def succeeded : Event → Bool
  | ⟨.bindConfig _ _, bound⟩ => bound.isOk
  | ⟨.startContext _, started⟩ => started.isOk
  | ⟨.readRecords _ _, read⟩ => read.count.isOk
  | ⟨.stopContext _, stopped⟩ => stopped.isOk
  | _ => true

/-- How many records a read claims to have read. -/
def readCount? : Event → Option Nat
  | ⟨.readRecords _ _, read⟩ => read.count.toOption
  | _ => none

end Event

namespace Sampler

/-- The buffer that the records of a profile are read into. -/
def bufferOf (p : Profile) : List Record :=
  List.replicate p.expectedSize .blank

theorem allocate_of_fits {p : Profile} (fits : Record.bytes * p.expectedSize ≤ maxBufferBytes) :
    allocate p.expectedSize = .ok (bufferOf p) :=
  if_pos fits

/-- How the context calls of one profile can go, and what comes of them. -/
inductive ProfileRun (agent : AgentId) (context : ContextId) (p : Profile) :
    List Event → Except Failure (List Record) → Prop
  | bindFails (e : BackendError) :
    ProfileRun agent context p [⟨.bindConfig context p.config, .error e⟩]
      (.error (.error (.sampling agent .bind e)))
  | startFails (e : BackendError) :
    ProfileRun agent context p
      [⟨.bindConfig context p.config, .ok ()⟩, ⟨.startContext context, .error e⟩]
      (.error (.error (.sampling agent .start e)))
  /-- There is no buffer that large, and nothing is read or stopped. -/
  | tooLarge (large : TooLarge p) :
    ProfileRun agent context p
      [⟨.bindConfig context p.config, .ok ()⟩, ⟨.startContext context, .ok ()⟩]
      (.error (.abort .capacity))
  /-- The context is stopped after a failed read too, and how the stop went makes no difference. -/
  | readFails (read : ReadAnswer (bufferOf p)) (e : BackendError) (failed : read.count = .error e)
    (stopped : Except BackendError Unit) :
    ProfileRun agent context p
      [⟨.bindConfig context p.config, .ok ()⟩, ⟨.startContext context, .ok ()⟩,
        ⟨.readRecords context (bufferOf p), read⟩, ⟨.stopContext context, stopped⟩]
      (.error (.error (.sampling agent .read e)))
  | stopFails (read : ReadAnswer (bufferOf p)) (n : Nat) (counted : read.count = .ok n)
    (e : BackendError) :
    ProfileRun agent context p
      [⟨.bindConfig context p.config, .ok ()⟩, ⟨.startContext context, .ok ()⟩,
        ⟨.readRecords context (bufferOf p), read⟩, ⟨.stopContext context, .error e⟩]
      (.error (.error (.sampling agent .stop e)))
  | completes (read : ReadAnswer (bufferOf p)) (n : Nat) (counted : read.count = .ok n) :
    ProfileRun agent context p
      [⟨.bindConfig context p.config, .ok ()⟩, ⟨.startContext context, .ok ()⟩,
        ⟨.readRecords context (bufferOf p), read⟩, ⟨.stopContext context, .ok ()⟩]
      (.ok (read.records.take n))

variable {σ : Type} (b : Backend σ)

theorem runProfile_run (agent : AgentId) (context : ContextId) (p : Profile) (s : σ) :
    ProfileRun agent context p ((runProfile agent context p).trace b s)
      ((runProfile agent context p).run b s).1 := by
  simp only [runProfile, Procedure.call, Procedure.bind_ask, Procedure.bind_done,
    Procedure.trace_ask, Procedure.run_ask]
  generalize b.answer (.bindConfig context p.config) s = y
  obtain ⟨bound, s₁⟩ := y
  cases bound with
  | error e => exact .bindFails e
  | ok u =>
    simp only [atStage, Procedure.trace_ask, Procedure.run_ask]
    generalize b.answer (.startContext context) s₁ = y
    obtain ⟨started, s₂⟩ := y
    cases started with
    | error e => exact .startFails e
    | ok u =>
      by_cases fits : Record.bytes * p.expectedSize ≤ maxBufferBytes
      · rw [allocate_of_fits fits]
        simp only [readAndStop, Procedure.call, Procedure.bind_ask, Procedure.bind_done,
          Procedure.trace_ask, Procedure.run_ask]
        generalize b.answer (.readRecords context (bufferOf p)) s₂ = y
        obtain ⟨read, s₃⟩ := y
        simp only
        generalize b.answer (.stopContext context) s₃ = y
        obtain ⟨stopped, s₄⟩ := y
        cases counted : read.count with
        | error e =>
          simp only [Procedure.pure_eq, Procedure.run_done, recordsRead, counted]
          exact .readFails read e counted stopped
        | ok n =>
          cases stopped with
          | error e =>
            simp only [Procedure.pure_eq, Procedure.run_done, recordsRead, counted]
            exact .stopFails read n counted e
          | ok u =>
            simp only [Procedure.pure_eq, Procedure.run_done, recordsRead, counted]
            exact .completes read n counted
      · rw [allocate, if_neg fits]
        exact .tooLarge (Nat.lt_of_not_le fits)

variable {agent : AgentId} {context : ContextId} {p : Profile} {es : List Event}
  {r : Except Failure (List Record)}

theorem ProfileRun.length_le (h : ProfileRun agent context p es r) : es.length ≤ 4 := by
  cases h <;> simp

/-- A profile gives records if all four calls succeed, and only then. -/
theorem ProfileRun.isOk_iff (h : ProfileRun agent context p es r) :
    r.isOk = true ↔ es.length = 4 ∧ ∀ e ∈ es, e.succeeded = true := by
  cases h with
  | bindFails e => simp [Except.isOk, Except.toBool]
  | startFails e => simp [Except.isOk, Except.toBool]
  | tooLarge large => simp [Except.isOk, Except.toBool]
  | readFails read e failed stopped => simp [Except.isOk, Except.toBool, Event.succeeded, failed]
  | stopFails read n counted e => simp [Except.isOk, Except.toBool, Event.succeeded]
  | completes read n counted => simp [Except.isOk, Except.toBool, Event.succeeded, counted]

/-- A profile gives as many records as its read claims, but at most what its buffer holds. -/
theorem ProfileRun.length_records {rs : List Record} (h : ProfileRun agent context p es (.ok rs)) :
    ∃ n, es.filterMap Event.readCount? = [n] ∧ rs.length = min n p.expectedSize := by
  cases h with
  | completes read n counted =>
    have counts : Event.readCount? ⟨.readRecords context (bufferOf p), read⟩ = some n := by
      change read.count.toOption = some n
      rw [counted]
      rfl
    refine ⟨n, ?_, ?_⟩
    · rw [List.filterMap_cons_none rfl, List.filterMap_cons_none rfl,
        List.filterMap_cons_some counts]
      rfl
    · rw [List.length_take, read.sameLength, bufferOf, List.length_replicate]

/-- Profiles are sampled one after another up to the first that fails. -/
inductive SetRun (agent : AgentId) (context : ContextId) :
    List Profile → List Event → Except Failure (List (List Record)) → Prop
  | done : SetRun agent context [] [] (.ok [])
  | fails {p : Profile} {ps : List Profile} {es : List Event} {f : Failure}
    (first : ProfileRun agent context p es (.error f)) :
    SetRun agent context (p :: ps) es (.error f)
  | next {p : Profile} {ps : List Profile} {es es' : List Event} {rs : List Record}
    {r : Except Failure (List (List Record))} (first : ProfileRun agent context p es (.ok rs))
    (rest : SetRun agent context ps es' r) :
    SetRun agent context (p :: ps) (es ++ es') (r.map (rs :: ·))

variable {ps : List Profile} {contributions : Except Failure (List (List Record))}

theorem SetRun.isOk_iff (h : SetRun agent context ps es contributions) :
    contributions.isOk = true ↔ es.length = 4 * ps.length ∧ ∀ e ∈ es, e.succeeded = true := by
  induction h with
  | done => simp [Except.isOk, Except.toBool]
  | fails first =>
    have none := first.isOk_iff
    have short := first.length_le
    simp only [Except.isOk, Except.toBool, Bool.false_eq_true, false_iff,
      List.length_cons] at none ⊢
    rintro ⟨length, succeeded⟩
    exact none ⟨by omega, succeeded⟩
  | @next p ps es es' rs r first rest ih =>
    obtain ⟨length, succeeded⟩ := first.isOk_iff.1 rfl
    have same : (r.map (rs :: ·)).isOk = r.isOk := by cases r <;> rfl
    rw [same, ih, List.length_append, List.length_cons, List.forall_mem_append, length]
    constructor
    · rintro ⟨length', succeeded'⟩
      exact ⟨by omega, succeeded, succeeded'⟩
    · rintro ⟨length', -, succeeded'⟩
      exact ⟨by omega, succeeded'⟩

/-- A set that gives records gives those of every profile, as many as `ProfileRun.length_records`
says. -/
theorem SetRun.lengths {rss : List (List Record)} (h : SetRun agent context ps es (.ok rss)) :
    rss.length = ps.length ∧ rss.map List.length =
      List.zipWith min (es.filterMap Event.readCount?) (ps.map Profile.expectedSize) := by
  generalize contributed : Except.ok rss = contributions at h
  induction h generalizing rss with
  | done =>
    rw [Except.ok.inj contributed]
    exact ⟨rfl, rfl⟩
  | fails first => cases contributed
  | @next p ps es es' rs r first rest ih =>
    cases r with
    | error f => cases contributed
    | ok rss' =>
      obtain ⟨n, read, length⟩ := first.length_records
      obtain ⟨many, later⟩ := ih rfl
      rw [Except.ok.inj contributed, List.filterMap_append, read]
      simp [length, many, later]

/-! ## Summing -/

/-- What comes of a set: the failure that ended it, or for each name the sum of all records of that
name, and nothing for the names of no record. The records have their names from what was known
before and from what was asked, in the one way that `Named` allows. -/
def Sums (names : Table CounterId String) (asked : List Event)
    (contributions : Except Failure (List (List Record)))
    (result : Except Failure (NameMap Float)) : Prop :=
  match contributions with
  | .error f => result = .error f
  | .ok rss => ∃ named values, (∀ named', Named names rss.flatten asked named' ↔ named' = named) ∧
      result = .ok values ∧ ∀ name, values.find? name = valueOf named name

/-- What comes of a set if some values are there before: the failure that ended it, or these values
with all records added to them. -/
def Adds (values : NameMap Float) (names : Table CounterId String) (asked : List Event)
    (contributions : Except Failure (List (List Record)))
    (result : Except Failure (NameMap Float)) : Prop :=
  match contributions with
  | .error f => result = .error f
  | .ok rss => ∃ named, Named names rss.flatten asked named ∧ result = .ok (addAll values named)

section Adds

variable {values : NameMap Float} {names names' : Table CounterId String} {asked asked' : List Event}
  {contributions : Except Failure (List (List Record))} {result : Except Failure (NameMap Float)}

/-- Records that were added before those of the later profiles. -/
theorem Adds.next {rs : List Record} {named : List (String × Record)}
    (h : Adds (addAll values named) names' asked' contributions result)
    (before : ∀ rs' es' named', Named names' rs' es' named' →
      Named names (rs ++ rs') (asked ++ es') (named ++ named')) :
    Adds values names (asked ++ asked') (contributions.map (rs :: ·)) result := by
  cases contributions with
  | error f => exact h
  | ok rss =>
    obtain ⟨named', later, rfl⟩ := h
    refine ⟨named ++ named', before _ _ _ later, ?_⟩
    rw [addAll, addAll, addAll, List.foldl_append]

/-- What is added up from nothing are the sums. -/
theorem Adds.sums (h : Adds .empty names asked contributions result) :
    Sums names asked contributions result := by
  cases contributions with
  | error f => exact h
  | ok rss =>
    obtain ⟨named, all, rfl⟩ := h
    exact ⟨named, _, fun named' => ⟨fun all' => all'.unique all, fun same => same ▸ all⟩, rfl,
      find?_addAll_empty named⟩

theorem Sums.isOk_eq (h : Sums names asked contributions result) :
    contributions.isOk = result.isOk := by
  cases contributions with
  | error f => exact congrArg Except.isOk h.symm
  | ok rss =>
    obtain ⟨named, values, all, rfl, sum⟩ := h
    rfl

end Adds

theorem ProfileRun.contextCalls (h : ProfileRun agent context p es r) :
    ∀ e ∈ es, e.call.isContextCall = true := by
  cases h <;> simp [Call.isContextCall]

/-- The context calls of sampling profiles and what comes of them. -/
theorem sampleProfiles_run (values : NameMap Float) (ps : List Profile) (e : Sampler) (s : σ) :
    let events := ((sampleProfiles values ps).run.run e).trace b s
    ∃ contributions,
      SetRun e.agent e.context ps (events.filter fun ev => ev.call.isContextCall) contributions ∧
      Adds values e.catalog.names (besidesContext events) contributions
        (((sampleProfiles values ps).run.run e).run b s).1.1 := by
  induction ps generalizing values e s with
  | nil => exact ⟨_, .done, [], .none, rfl⟩
  | cons p ps ih =>
    have first := runProfile_run b e.agent e.context p s
    unfold sampleProfiles
    rw [Procedure.trace_bindOk, Procedure.run_bindOk, run_sampleProfile, Procedure.trace_bind,
      Procedure.run_bind]
    generalize (runProfile e.agent e.context p).trace b s = es at first ⊢
    generalize (runProfile e.agent e.context p).run b s = y at first ⊢
    obtain ⟨r, s'⟩ := y
    have kept : es.filter (fun ev => ev.call.isContextCall) = es :=
      List.filter_eq_self.2 first.contextCalls
    have none_asked := besidesContext_eq_nil first.contextCalls
    cases r with
    | error f =>
      simp only [Procedure.trace_done, Procedure.run_done, List.append_nil, kept]
      exact ⟨_, .fails first, rfl⟩
    | ok rs =>
      have dropped := (addRecords_inquires values rs e).noContextCalls b s'
      have asked := besidesContext_eq_self dropped
      obtain ⟨named, result, same, before⟩ := addRecords_sums b values rs e s'
      simp only [Procedure.trace_done, Procedure.run_done, List.append_nil, List.filter_append,
        besidesContext_append, Procedure.trace_bindOk, Procedure.run_bindOk, kept, none_asked,
        List.nil_append]
      generalize ((addRecords values rs).run.run e).trace b s' = es' at dropped asked before ⊢
      generalize ((addRecords values rs).run.run e).run b s' = y at result same before ⊢
      obtain ⟨⟨values', e'⟩, s''⟩ := y
      obtain rfl : values' = .ok (addAll values named) := result
      have agent : e'.agent = e.agent := congrArg (fun x => x.1) same
      have context : e'.context = e.context := congrArg (fun x => x.2.1) same
      obtain ⟨contributions, run, adds⟩ := ih (addAll values named) e' s''
      rw [agent, context] at run
      simp only [dropped, asked, List.nil_append]
      exact ⟨_, .next first run, adds.next before⟩

/-- What sampling a set does on any device: which calls it makes, how they end, and what comes of
them. -/
theorem sampleProfileSet_run (set : ProfileSet) (e : Sampler) (s : σ) :
    let result := (((sampleProfileSet set).run.run e).run b s).1.1
    let events := ((sampleProfileSet set).run.run e).trace b s
    let contextEvents := events.filter fun ev => ev.call.isContextCall
    (∀ ev ∈ events, ev.call.isContextCall = true ∨ ev.call.IsInquiry) ∧
    (∃ contributions, SetRun e.agent e.context set.profiles contextEvents contributions ∧
      Sums e.catalog.names (besidesContext events) contributions result ∧
      ∀ rss, contributions = .ok rss →
        rss.length = set.profiles.length ∧ rss.map List.length =
          List.zipWith min (contextEvents.filterMap Event.readCount?)
            (set.profiles.map Profile.expectedSize)) ∧
    (result.isOk = true ↔ contextEvents.length = 4 * set.profiles.length ∧
      ∀ ev ∈ contextEvents, ev.succeeded = true) := by
  obtain ⟨contributions, run, adds⟩ := sampleProfiles_run b .empty set.profiles e s
  refine ⟨?_, ⟨contributions, run, adds.sums, ?_⟩, ?_⟩
  · intro ev made
    exact (sampleProfiles_calls .empty set.profiles e).of_mem_trace b s made
  · rintro rss rfl
    exact run.lengths
  · have iff := run.isOk_iff
    rw [adds.sums.isOk_eq] at iff
    exact iff

end Sampler

end CounterSampling
