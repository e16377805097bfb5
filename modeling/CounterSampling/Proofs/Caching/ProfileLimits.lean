import CounterSampling.Proofs.Packing.Partition
import CounterSampling.Proofs.Possession.Use
import CounterSampling.Proofs.Sampling.Outcomes

/-!
# Limits on profiles and kept sets

A sampler packs a request with the limit that is in force and keeps the set by its names alone. A
set that is found again is therefore not packed again, whatever the limit is by then. `grants` lists
the sets that a sampler gives in the course of its use. Each of them keeps to the limit that was in
force when a set for the same names was given first, and it is the set that is sampled. Main
statement: `grants_capped`.
-/

namespace CounterSampling

namespace Packer

/-- No profile of a set holds more counters than the packer allows. -/
theorem pack_capped {σ : Type} (b : Backend σ) (p : Packer) (request : List String) (c : Catalog)
    (s : σ) {set : ProfileSet}
    (packed : (((p.pack request).run.run c).run b s).1.1 = .ok set) :
    ∀ q ∈ set.profiles, q.counters.length ≤ p.maxPerProfile := by
  rw [run_pack] at packed
  generalize (Catalog.list.run.run c).run b s = l at packed
  obtain ⟨⟨listed, c'⟩, s'⟩ := l
  cases listed with
  | error e => cases packed
  | ok known =>
    obtain rfl := Except.ok.inj packed
    exact (rounds_packs b p _ _ c' s').capped

end Packer

namespace Sampler

open ProfileCache (setKey)

variable {σ : Type}

/-- The names that an operation needs a set for. -/
def Operation.request? : Operation → Option (List String)
  | .profileSet counters => some counters
  | .sample counters => some counters
  | _ => none

/-- A set that a sampler gave: in which operation and for which names, with which limit in force,
and what was asked and answered then. -/
structure Grant where
  op : Operation
  request : List String
  limit : Nat
  set : Shared ProfileSet
  events : List Event

/-- What an operation gives, if it needs a set and the set can be had. -/
def Operation.grant? (b : Backend σ) (op : Operation) (e : Sampler) (s : σ) : Option Grant :=
  op.request?.bind fun request =>
    (((Sampler.profileSet request).run.run e).run b s).1.1.toOption.map fun set =>
      ⟨op, request, e.maxPerProfile, set, (op.steps.run e).trace b s⟩

/-- What a sampler gives in a row of operations. -/
def grants (b : Backend σ) : List Operation → Sampler → σ → List Grant
  | [], _, _ => []
  | op :: ops, e, s =>
    let y := (op.steps.run e).run b s
    (op.grant? b e s).toList ++ grants b ops y.1.2 y.2

/-- The first that was given for some names. -/
def firstGrant (key : List String) (given : List Grant) : Option Grant :=
  given.find? fun g => decide (setKey g.request = key)

/-! ## What an operation does to the kept sets -/

/-- What a sampler is, and the sets it keeps. -/
def keptSets (e : Sampler) : AgentId × ContextId × Table (List String) (Shared ProfileSet) :=
  (e.agent, e.context, e.cache.sets)

theorem withCatalog_keeps {α : Type} (p : CatalogM α) :
    StepsOnly (fun _ => True) keptSets (withCatalog p).run := by
  intro e
  rw [show (withCatalog p).run.run e = _ from run_withCatalog p e]
  exact (Procedure.ensures_any _).bind fun _ _ => rfl

theorem sampleProfiles_keeps (values : NameMap Float) (ps : List Profile) :
    StepsOnly (fun _ => True) keptSets (sampleProfiles values ps).run :=
  ((sampleProfiles_calls values ps).mono fun _ _ => trivial).narrow
    (fun x => (x.1, x.2.1, x.2.2.1.sets)) fun _ => rfl

/-- Single profiles are kept apart from sets. -/
theorem single_keeps (agent : AgentId) (counters : List String) :
    StepsOnly (fun _ => True) keptSets (withCache fun cache =>
      cache.getOrCreateSingle counters fun names => (buildSingle agent names).run).run := by
  intro e
  rw [show (withCache _).run.run e = _ from run_withCache _ e]
  have sets : ((e.cache.getOrCreateSingle counters fun names =>
      (buildSingle agent names).run).run e.catalog).Ensures (fun _ => True) fun x =>
        x.1.2.sets = e.cache.sets := by
    unfold ProfileCache.getOrCreateSingle ProfileCache.getOrMake
    cases e.cache.singles.find? counters with
    | some x => exact rfl
    | none =>
      refine (Procedure.ensures_any _).bind fun made _ => ?_
      obtain ⟨made, catalog⟩ := made
      cases made <;> exact rfl
  refine sets.bind fun x same => ?_
  change (e.agent, e.context, x.1.2.sets) = _
  rw [same]
  rfl

theorem stepsOnly_discard {τ κ α : Type} {P : Call → Prop} {part : τ → κ}
    {m : StateT τ Procedure α} (h : StepsOnly P part m) : StepsOnly P part (discard m) :=
  h.bind fun _ => stepsOnly_pure ()

/-- Without need of a set, the sets stay. -/
theorem Operation.steps_keep {op : Operation} (none : op.request? = none) :
    StepsOnly (fun _ => True) keptSets op.steps := by
  cases op with
  | supportedCounters => exact stepsOnly_discard (withCatalog_keeps _)
  | positionsOf r => exact stepsOnly_discard (withCatalog_keeps _)
  | profileSet counters => cases none
  | sample counters => cases none
  | sampleProfileSet set => exact stepsOnly_discard (sampleProfiles_keeps _ _)
  | sampleRecords counters =>
    refine stepsOnly_discard (stepsOnly_getOk.bindOk fun e => ?_)
    refine (single_keeps e.agent counters).bindOk fun p => ?_
    exact ((sampleProfile_calls p.value).mono fun _ _ => trivial).narrow
      (fun x => (x.1, x.2.1, x.2.2.1.sets)) fun _ => rfl
  | withMaxPerProfile n => exact stepsOnly_modify fun _ => rfl

/-- What comes of asking for a set: it is found, or packing fails, or it is packed with the limit in
force and kept. -/
theorem profileSet_cases (b : Backend σ) (request : List String) (e : Sampler) (s : σ) :
    let y := ((profileSet request).run.run e).run b s
    (∃ x, e.cache.sets.find? (setKey request) = some x ∧ y.1.1 = .ok x ∧
      keptSets y.1.2 = keptSets e) ∨
    e.cache.sets.find? (setKey request) = none ∧
      ((∃ f, y.1.1 = .error f ∧ keptSets y.1.2 = keptSets e) ∨
        ∃ x, y.1.1 = .ok x ∧
          keptSets y.1.2 = (e.agent, e.context, e.cache.sets.insert (setKey request) x) ∧
          ∀ p ∈ x.value.profiles, p.counters.length ≤ e.maxPerProfile) := by
  cases found : e.cache.sets.find? (setKey request) with
  | some x =>
    rw [profileSet_cached found]
    exact .inl ⟨x, rfl, rfl, rfl⟩
  | none =>
    refine .inr ⟨rfl, ?_⟩
    have capped (set : ProfileSet) :=
      @Packer.pack_capped σ b ⟨e.agent, e.maxPerProfile⟩ (setKey request) e.catalog s set
    rw [run_profileSet, run_withCache]
    simp only [ProfileCache.getOrCreateSet, ProfileCache.getOrMake, found, StateT.run_bind,
      Procedure.run_bind]
    generalize ((Packer.pack ⟨e.agent, e.maxPerProfile⟩ (setKey request)).run.run e.catalog).run
      b s = y at capped
    obtain ⟨⟨packed, catalog⟩, s'⟩ := y
    cases packed with
    | error f => exact .inl ⟨_, rfl, rfl⟩
    | ok set => exact .inr ⟨_, rfl, rfl, capped set rfl⟩

/-- Asking for a set changes neither the agent nor the context. -/
theorem profileSet_agent (b : Backend σ) (request : List String) (e : Sampler) (s : σ) :
    let y := ((profileSet request).run.run e).run b s
    y.1.2.agent = e.agent ∧ y.1.2.context = e.context := by
  have parts {e' : Sampler} {sets : Table (List String) (Shared ProfileSet)}
      (kept : keptSets e' = (e.agent, e.context, sets)) :
      e'.agent = e.agent ∧ e'.context = e.context :=
    ⟨congrArg (fun x => x.1) kept, congrArg (fun x => x.2.1) kept⟩
  rcases profileSet_cases b request e s with
    ⟨x, -, -, kept⟩ | ⟨-, ⟨f, -, kept⟩ | ⟨x, -, kept, -⟩⟩ <;> exact parts kept

/-- Steps whose result is not needed. -/
theorem run_discard {α : Type} (m : StateT Sampler Procedure α) (e : Sampler) :
    (discard m).run e = m.run e >>= fun x => .done ((), x.2) := rfl

/-- Sampling a request is asking for its set and sampling that. -/
theorem run_sample (b : Backend σ) (request : List String) (e : Sampler) (s : σ) :
    let y := ((profileSet request).run.run e).run b s
    keptSets (((sample request).run.run e).run b s).1.2 = keptSets y.1.2 ∧
      ∀ set, y.1.1 = .ok set →
        ∃ contributions, SetRun e.agent e.context set.value.profiles
          ((((sample request).run.run e).trace b s).filter fun ev => ev.call.isContextCall)
          contributions := by
  have silent : (((profileSet request).run.run e).trace b s).filter
      (fun ev => ev.call.isContextCall) = [] := by
    refine List.filter_eq_nil_iff.2 fun ev made => ?_
    exact ((profileSet_builds request e).of_mem_trace b s made).not_isContextCall
  have same := profileSet_agent b request e s
  unfold sample
  rw [Procedure.run_bindOk, Procedure.trace_bindOk, List.filter_append, silent, List.nil_append]
  dsimp only at same ⊢
  generalize ((profileSet request).run.run e).run b s = y at same
  obtain ⟨⟨given, e'⟩, s'⟩ := y
  obtain ⟨agent, context⟩ := same
  dsimp only at agent context
  cases given with
  | error f => exact ⟨rfl, nofun⟩
  | ok set =>
    have kept := (sampleProfiles_keeps .empty set.value.profiles e').result b s'
    obtain ⟨contributions, run, -⟩ := sampleProfiles_run b .empty set.value.profiles e' s'
    rw [agent, context] at run
    dsimp only
    rw [Procedure.run_bindOk, Procedure.trace_bindOk]
    unfold sampleProfileSet
    generalize ((sampleProfiles .empty set.value.profiles).run.run e').run b s' = z at kept
    obtain ⟨⟨sampled, e''⟩, s''⟩ := z
    cases sampled with
    | error f =>
      refine ⟨kept, ?_⟩
      rintro _ ⟨⟩
      exact ⟨contributions, (List.append_nil _).symm ▸ run⟩
    | ok values =>
      refine ⟨kept, ?_⟩
      rintro _ ⟨⟩
      exact ⟨contributions, (List.append_nil _).symm ▸ run⟩

/-- An operation that needs a set keeps what looking it up kept. -/
theorem Operation.steps_request (b : Backend σ) {op : Operation} {request : List String}
    (needs : op.request? = some request) (e : Sampler) (s : σ) :
    keptSets ((op.steps.run e).run b s).1.2 =
      keptSets (((Sampler.profileSet request).run.run e).run b s).1.2 := by
  cases op with
  | profileSet counters =>
    obtain rfl := Option.some.inj needs
    rw [Operation.steps, run_discard, Procedure.run_bind]
    rfl
  | sample counters =>
    obtain rfl := Option.some.inj needs
    rw [Operation.steps, run_discard, Procedure.run_bind]
    exact (run_sample b counters e s).1
  | _ => cases needs

/-- No operation changes the agent or the context. -/
theorem Operation.steps_own (b : Backend σ) (op : Operation) (e : Sampler) (s : σ) :
    let e' := ((op.steps.run e).run b s).1.2
    e'.agent = e.agent ∧ e'.context = e.context := by
  intro e'
  cases needs : op.request? with
  | none =>
    have kept : keptSets e' = keptSets e := (Operation.steps_keep needs e).result b s
    exact ⟨congrArg (fun x => x.1) kept, congrArg (fun x => x.2.1) kept⟩
  | some request =>
    have same : keptSets e' = _ := Operation.steps_request b needs e s
    obtain ⟨agent, context⟩ := profileSet_agent b request e s
    exact ⟨(congrArg (fun x => x.1) same).trans agent,
      (congrArg (fun x => x.2.1) same).trans context⟩

/-! ## What a sampler remembers -/

theorem firstGrant_append (key : List String) (given later : List Grant) :
    firstGrant key (given ++ later) = (firstGrant key given).or (firstGrant key later) :=
  List.find?_append

theorem firstGrant_singleton (key : List String) (g : Grant) :
    firstGrant key [g] = if setKey g.request = key then some g else none := by
  unfold firstGrant
  by_cases same : setKey g.request = key
  · rw [if_pos same, List.find?_cons_of_pos (by simpa using same)]
  · rw [if_neg same, List.find?_cons_of_neg (by simpa using same), List.find?_nil]

/-- A sampler keeps the sets that were given first, and these keep to the limits of then. -/
structure Remembers (e : Sampler) (given : List Grant) : Prop where
  sets : ∀ key, e.cache.sets.find? key = (firstGrant key given).map Grant.set
  capped : ∀ key first, firstGrant key given = some first →
    ∀ p ∈ first.set.value.profiles, p.counters.length ≤ first.limit

/-- A set that was given is the one that was given first for its names. It keeps to the limit of
then, and an operation that samples samples it. -/
structure Grant.Recalls (e : Sampler) (given : List Grant) (g : Grant) : Prop where
  packed : ∃ first, firstGrant (setKey g.request) (given ++ [g]) = some first ∧
    first.set = g.set ∧ ∀ p ∈ g.set.value.profiles, p.counters.length ≤ first.limit
  sampled : ∀ counters, g.op = .sample counters →
    ∃ contributions, SetRun e.agent e.context g.set.value.profiles
      (g.events.filter fun ev => ev.call.isContextCall) contributions

theorem remembers_new (agent : AgentId) (context : ContextId) (owner limit : Nat) :
    Remembers ⟨agent, context, .new agent, .new owner, limit⟩ [] :=
  ⟨fun _ => rfl, nofun⟩

section Remembers

variable {e e' : Sampler} {given : List Grant}

/-- What keeps the sets keeps what is remembered. -/
theorem Remembers.keep (h : e.Remembers given) (same : keptSets e' = keptSets e) :
    e'.Remembers given := by
  have sets : e'.cache.sets = e.cache.sets := congrArg (fun x => x.2.2) same
  exact ⟨fun key => sets ▸ h.sets key, h.capped⟩

/-- Giving a set again changes nothing. -/
theorem Remembers.again (h : e.Remembers given) {g : Grant}
    (found : e.cache.sets.find? (setKey g.request) = some g.set) : e.Remembers (given ++ [g]) := by
  have old (key : List String) : firstGrant key (given ++ [g]) = firstGrant key given := by
    rw [firstGrant_append]
    cases first : firstGrant key given with
    | some first => rfl
    | none =>
      have other : setKey g.request ≠ key := by
        rintro rfl
        rw [h.sets, first] at found
        cases found
      rw [Option.none_or, firstGrant_singleton, if_neg other]
  refine ⟨fun key => ?_, fun key => ?_⟩
  · rw [old, h.sets]
  · rw [old]
    exact h.capped key

/-- A set that is given for the first time is remembered. -/
theorem Remembers.new (h : e.Remembers given) {g : Grant}
    (absent : e.cache.sets.find? (setKey g.request) = none)
    (sets : e'.cache.sets = e.cache.sets.insert (setKey g.request) g.set)
    (capped : ∀ p ∈ g.set.value.profiles, p.counters.length ≤ g.limit) :
    e'.Remembers (given ++ [g]) := by
  have unknown : firstGrant (setKey g.request) given = none := by
    have none := h.sets (setKey g.request)
    rw [absent] at none
    exact Option.map_eq_none_iff.1 none.symm
  have first : firstGrant (setKey g.request) (given ++ [g]) = some g := by
    rw [firstGrant_append, unknown, Option.none_or, firstGrant_singleton, if_pos rfl]
  have others (key : List String) (other : setKey g.request ≠ key) :
      firstGrant key (given ++ [g]) = firstGrant key given := by
    rw [firstGrant_append, firstGrant_singleton, if_neg other, Option.or_none]
  refine ⟨fun key => ?_, fun key first' found => ?_⟩
  · rw [sets, Table.find?_insert]
    split
    next same =>
      subst same
      rw [first]
      rfl
    next other => rw [others key other, h.sets]
  · by_cases same : setKey g.request = key
    · subst same
      rw [first] at found
      obtain rfl := Option.some.inj found
      exact capped
    · rw [others key same] at found
      exact h.capped key first' found

/-- What is remembered for the names of a set says where it comes from. -/
theorem Remembers.packed {g : Grant} (h : e.Remembers (given ++ [g]))
    (found : e.cache.sets.find? (setKey g.request) = some g.set) :
    ∃ first, firstGrant (setKey g.request) (given ++ [g]) = some first ∧ first.set = g.set ∧
      ∀ p ∈ g.set.value.profiles, p.counters.length ≤ first.limit := by
  rw [h.sets] at found
  obtain ⟨first, there, same⟩ := Option.map_eq_some_iff.1 found
  exact ⟨first, there, same, same ▸ h.capped _ first there⟩

theorem Operation.grant?_none (b : Backend σ) {op : Operation} (s : σ)
    (unneeded : op.request? = none) : op.grant? b e s = none := by
  rw [Operation.grant?, unneeded]
  rfl

theorem Operation.grant?_some (b : Backend σ) {op : Operation} {request : List String} (s : σ)
    (needs : op.request? = some request) :
    op.grant? b e s = (((Sampler.profileSet request).run.run e).run b s).1.1.toOption.map
      fun set => ⟨op, request, e.maxPerProfile, set, (op.steps.run e).trace b s⟩ := by
  rw [Operation.grant?, needs]
  rfl

/-- An operation that samples samples the set that it was given. -/
theorem Operation.grant?_sampled (b : Backend σ) {op : Operation} {s : σ} {g : Grant}
    (gives : op.grant? b e s = some g) :
    ∀ counters, g.op = .sample counters →
      ∃ contributions, SetRun e.agent e.context g.set.value.profiles
        (g.events.filter fun ev => ev.call.isContextCall) contributions := by
  intro counters samples
  cases needs : op.request? with
  | none =>
    rw [Operation.grant?_none b s needs] at gives
    cases gives
  | some request =>
    rw [Operation.grant?_some b s needs] at gives
    obtain ⟨set, given, rfl⟩ := Option.map_eq_some_iff.1 gives
    obtain rfl : op = .sample counters := samples
    obtain rfl := Option.some.inj needs
    have looked : (((Sampler.profileSet counters).run.run e).run b s).1.1 = .ok set := by
      revert given
      cases (((Sampler.profileSet counters).run.run e).run b s).1.1 with
      | ok set' => exact fun same => congrArg Except.ok (Option.some.inj same)
      | error f => exact nofun
    change ∃ contributions, SetRun _ _ _ ((((Operation.sample counters).steps.run e).trace b
      s).filter _) contributions
    rw [Operation.steps, run_discard, Procedure.trace_bind, Procedure.trace_done, List.append_nil]
    exact (run_sample b counters e s).2 set looked

/-- One operation: whether or not it gives a set, what was given is remembered. -/
theorem Remembers.step (b : Backend σ) (h : e.Remembers given) (op : Operation) (s : σ) :
    let e' := ((op.steps.run e).run b s).1.2
    e'.agent = e.agent ∧ e'.context = e.context ∧
      e'.Remembers (given ++ (op.grant? b e s).toList) ∧
      ∀ g, op.grant? b e s = some g → g.Recalls e given := by
  intro e'
  obtain ⟨agent, context⟩ := Operation.steps_own b op e s
  refine ⟨agent, context, ?_⟩
  cases needs : op.request? with
  | none =>
    have kept : keptSets e' = keptSets e := (Operation.steps_keep needs e).result b s
    rw [Operation.grant?_none b s needs, Option.toList_none, List.append_nil]
    exact ⟨h.keep kept, nofun⟩
  | some request =>
    have same := Operation.steps_request b needs e s
    have sampled (g : Grant) := @Operation.grant?_sampled σ e b op s g
    have cases := profileSet_cases b request e s
    rw [Operation.grant?_some b s needs] at sampled ⊢
    change keptSets e' = _ at same
    dsimp only at cases
    generalize ((Sampler.profileSet request).run.run e).run b s = y at same sampled cases ⊢
    obtain ⟨⟨given', e₁⟩, s₁⟩ := y
    dsimp only at same cases
    rcases cases with ⟨x, found, rfl, kept⟩ | ⟨absent, ⟨f, rfl, kept⟩ | ⟨x, rfl, kept, capped⟩⟩
    · let g : Grant := ⟨op, request, e.maxPerProfile, x, (op.steps.run e).trace b s⟩
      have again : e.Remembers (given ++ [g]) := h.again found
      refine ⟨again.keep (same.trans kept), ?_⟩
      rintro _ ⟨⟩
      exact ⟨again.packed found, sampled g rfl⟩
    · refine ⟨?_, nofun⟩
      change e'.Remembers (given ++ [])
      rw [List.append_nil]
      exact h.keep (same.trans kept)
    · let g : Grant := ⟨op, request, e.maxPerProfile, x, (op.steps.run e).trace b s⟩
      have stored : e'.cache.sets = e.cache.sets.insert (setKey request) x :=
        congrArg (fun x => x.2.2) (same.trans kept)
      have new : e'.Remembers (given ++ [g]) := h.new absent stored capped
      refine ⟨new, ?_⟩
      rintro _ ⟨⟩
      refine ⟨new.packed ?_, sampled g rfl⟩
      rw [stored, Table.find?_insert, if_pos rfl]

/-- Whatever a sampler was given before, each set that it gives from then on recalls that. -/
theorem Remembers.grants (b : Backend σ) (h : e.Remembers given) {ops : List Operation} {s : σ}
    {earlier later : List Grant} {g : Grant} (gives : grants b ops e s = earlier ++ g :: later) :
    g.Recalls e (given ++ earlier) := by
  induction ops generalizing e s given earlier with
  | nil => cases earlier <;> cases gives
  | cons op ops ih =>
    obtain ⟨agent, context, remembers, recalls⟩ := h.step b op s
    rw [Sampler.grants] at gives
    cases gave : op.grant? b e s with
    | none =>
      rw [gave, Option.toList_none, List.append_nil] at remembers
      rw [gave, Option.toList_none, List.nil_append] at gives
      have later := ih remembers gives
      exact ⟨later.packed, agent ▸ context ▸ later.sampled⟩
    | some first =>
      rw [gave, Option.toList_some] at remembers
      rw [gave, Option.toList_some, List.singleton_append] at gives
      cases earlier with
      | nil =>
        obtain ⟨rfl, -⟩ := List.cons.inj gives
        rw [List.append_nil]
        exact recalls first gave
      | cons first' earlier =>
        obtain ⟨rfl, rest⟩ := List.cons.inj gives
        have later := ih remembers rest
        rw [List.append_assoc, List.singleton_append] at later
        exact ⟨later.packed, agent ▸ context ▸ later.sampled⟩

end Remembers

/-- On every device and whatever it answers, a sampler that is used for anything, with its limit
changed at any time, gives sets whose profiles keep to the limit that was in force when a set for
the same names was given first. It gives the very set of then, and what it samples for a request is
that set. -/
theorem grants_capped (b : Backend σ) {agent : AgentId} {owner limit : Nat} {e : Sampler}
    {s s' : σ} (created : (Sampler.new agent owner limit).run b s = (.ok e, s'))
    (ops : List Operation) {earlier later : List Grant} {g : Grant}
    (gives : grants b ops e s' = earlier ++ g :: later) : g.Recalls e earlier := by
  have new : ∃ context, e = ⟨agent, context, .new agent, .new owner, limit⟩ := by
    simp only [Sampler.new, Procedure.call, Procedure.bind_ask, Procedure.bind_done,
      Procedure.run_ask] at created
    generalize b.answer (.createContext agent) s = y at created
    obtain ⟨opened, s₁⟩ := y
    cases opened with
    | ok context =>
      cases created
      exact ⟨context, rfl⟩
    | error cause => cases created
  obtain ⟨context, rfl⟩ := new
  exact (remembers_new agent context owner limit).grants b gives

/-! ## A limit that is lowered -/

/-- A GPU with two counters that fit one profile. -/
def twoTogether : Device.Builder :=
  let gpu : AgentInfo := ⟨⟨1⟩, .gpu, "gfx942", 10001, 128, 1⟩
  ((Device.Builder.agent {} gpu).counter "CYCLES" [] 1.0).counter "WAVES" [] 1.0

/-- The limit is lowered between two requests for the same names. -/
def lowering : List Operation :=
  [.profileSet ["CYCLES", "WAVES"], .withMaxPerProfile 1, .sample ["CYCLES", "WAVES"]]

/-- Both requests are given the set that was packed for the first. -/
theorem grants_lowering :
    ∃ e s, (Sampler.new ⟨1⟩ 0 2).run twoTogether.device.backend twoTogether.initial = (.ok e, s) ∧
      (grants twoTogether.device.backend lowering e s).map (fun g => (g.limit, g.set.value)) =
        [(2, ⟨[⟨⟨2⟩, ["CYCLES", "WAVES"], 2⟩], [], []⟩),
          (1, ⟨[⟨⟨2⟩, ["CYCLES", "WAVES"], 2⟩], [], []⟩)] := by
  have key : setKey ["CYCLES", "WAVES"] = ["CYCLES", "WAVES"] := by
    rw [setKey, List.mergeSort_of_pairwise (by decide), distinct_of_nodup (by decide)]
  refine ⟨_, _, rfl, ?_⟩
  simp only [lowering, grants, Operation.grant?, Operation.request?, Operation.steps,
    Option.bind_some, run_discard, run_profileSet, ProfileCache.getOrCreateSet, key]
  rfl

/-- The second set recalls the first. -/
theorem grants_capped_lowering :
    ∃ e s first second,
      (Sampler.new ⟨1⟩ 0 2).run twoTogether.device.backend twoTogether.initial = (.ok e, s) ∧
      grants twoTogether.device.backend lowering e s = [first] ++ second :: [] ∧
      first.limit = 2 ∧ second.limit = 1 ∧ second.Recalls e [first] := by
  obtain ⟨e, s, created, given⟩ := grants_lowering
  obtain ⟨first, rest, gives, kept, given⟩ := List.map_eq_cons_iff.1 given
  obtain ⟨second, none, rfl, kept', given⟩ := List.map_eq_cons_iff.1 given
  obtain rfl := List.map_eq_nil_iff.1 given
  exact ⟨e, s, first, second, created, gives, congrArg Prod.fst kept, congrArg Prod.fst kept',
    grants_capped twoTogether.device.backend created lowering gives⟩

/-- A set that is sampled may have profiles beyond the limit in force. -/
theorem grants_beyond_limit :
    ∃ e s, (Sampler.new ⟨1⟩ 0 2).run twoTogether.device.backend twoTogether.initial = (.ok e, s) ∧
      ∃ g ∈ grants twoTogether.device.backend lowering e s,
        ∃ p ∈ g.set.value.profiles, g.limit < p.counters.length := by
  obtain ⟨e, s, created, given⟩ := grants_lowering
  refine ⟨e, s, created, ?_⟩
  have mem : (1, ⟨[⟨⟨2⟩, ["CYCLES", "WAVES"], 2⟩], [], []⟩) ∈
      (grants twoTogether.device.backend lowering e s).map fun g => (g.limit, g.set.value) := by
    rw [given]
    exact List.mem_cons_of_mem _ List.mem_cons_self
  obtain ⟨g, there, same⟩ := List.mem_map.1 mem
  obtain ⟨limit, set⟩ := Prod.mk.inj same
  refine ⟨g, there, ⟨⟨2⟩, ["CYCLES", "WAVES"], 2⟩, ?_, ?_⟩
  · rw [set]
    exact List.mem_singleton_self _
  · rw [limit]
    decide

end Sampler

end CounterSampling
