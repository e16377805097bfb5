import CounterSampling.Proofs.Caching.ProfileLimits
import CounterSampling.Proofs.Possession.Events
import CounterSampling.Proofs.Sampling.ActiveContext
import CounterSampling.Proofs.Sampling.ShortReads

/-!
# Requests for the same names

A request is known by the set of its names: their order and repeats are lost in the key, and nothing
but the key is used after it. So two requests for the same names are one and the same procedure.
Once one of them was sampled, its set is kept as long as the sampler is used, and sampling the other
only reads it out again: nothing is built and the values are the same. Main statement:
`same_names_sampled`.
-/

namespace CounterSampling

open ProfileCache (setKey)

namespace Procedure

variable {α : Type} {d : Device} {P : Call → Prop} {Q : α → Prop}

/-- The result is among those that can be, whatever others do in between. -/
theorem Ensures.amid {p : Procedure α} (h : p.Ensures P Q) {stock stock' : Stock}
    {s s' : Device.State} {a : α} (amid : p.Amid d stock s a stock' s') : Q a := by
  induction amid with
  | done a stock s => exact h
  | own rest ih => exact ih (h.2 _)
  | other c spares rest ih => exact ih h

/-- With nobody in between, the trace says what is held in the end. -/
theorem amid_trace (d : Device) (p : Procedure α) (stock : Stock) (s : Device.State) :
    p.Amid d stock s (p.run d.backend s).1 (stock.afterAll (p.trace d.backend s))
      (p.run d.backend s).2 := by
  induction p generalizing stock s with
  | done a => exact .done a stock s
  | ask c next ih => exact .own (ih _ _ _)

end Procedure

namespace Sampler

variable {d : Device} {e e' e'' : Sampler} {stock stock' : Stock} {s s' : Device.State}

/-! ## What stays in the course of use -/

/-- The later sampler has the agent, the context and all the sets of the earlier one. -/
structure Retains (e e' : Sampler) : Prop where
  agent : e'.agent = e.agent
  context : e'.context = e.context
  sets : ∀ key x, e.cache.sets.find? key = some x → e'.cache.sets.find? key = some x

theorem Retains.refl (e : Sampler) : e.Retains e :=
  ⟨rfl, rfl, fun _ _ => id⟩

theorem Retains.trans (h : e.Retains e') (h' : e'.Retains e'') : e.Retains e'' :=
  ⟨h'.agent.trans h.agent, h'.context.trans h.context,
    fun key x found => h'.sets key x (h.sets key x found)⟩

theorem Retains.of_keptSets (same : keptSets e' = keptSets e) : e.Retains e' := by
  obtain ⟨agent, context, sets⟩ := Prod.mk.inj same |>.imp_right Prod.mk.inj
  exact ⟨agent, context, fun key x found => sets ▸ found⟩

theorem Asked.retains {request : List String} {r : Except Failure (Shared ProfileSet)}
    (h : Asked request e r e') : e.Retains e' := by
  cases h with
  | found kept => exact .of_keptSets rfl
  | failed f catalog absent => exact .of_keptSets rfl
  | packed set catalog absent =>
    refine ⟨rfl, rfl, fun key x there => ?_⟩
    have other : setKey request ≠ key := by
      rintro rfl
      rw [absent] at there
      cases there
    exact (Table.find?_insert _ _ _ _).trans ((if_neg other).trans there)

theorem sample_retains (request : List String) (e : Sampler) :
    ((sample request).run.run e).Ensures (fun _ => True) fun y => e.Retains y.2 := by
  refine ensures_bindOk ((profileSet_asked request e).mono (fun _ => id) fun y asked => ?_)
  obtain ⟨made, e₁⟩ := y
  have retained := asked.retains
  cases made with
  | error f => exact retained
  | ok set =>
    refine ensures_bindOk ((sampleProfiles_keeps .empty set.value.profiles e₁).mono
      (fun _ => id) fun y kept => ?_)
    obtain ⟨summed, e₂⟩ := y
    have retained' : e.Retains e₂ := retained.trans (.of_keptSets kept)
    cases summed <;> exact retained'

/-- Whatever a sampler is used for, its sets stay. -/
theorem Operation.steps_retain (op : Operation) (e : Sampler) :
    (op.steps.run e).Ensures (fun _ => True) fun y => e.Retains y.2 := by
  cases op with
  | profileSet request => exact (profileSet_asked request e).bind fun _ => Asked.retains
  | sample request => exact (sample_retains request e).bind fun _ => id
  | _ => exact (Operation.steps_keep rfl e).mono (fun _ => id) fun _ => .of_keptSets

/-- How a sampler and its device can go on from a point of its use: it is used for something, or
others make calls that release nothing of what it holds, any number of times. -/
inductive Later (d : Device) (e : Sampler) (stock : Stock) (s : Device.State) :
    Sampler → Stock → Device.State → Prop
  | here : Later d e stock s e stock s
  | used {e' e'' : Sampler} {stock' stock'' : Stock} {s' s'' : Device.State} (op : Operation)
    (later : Later d e stock s e' stock' s')
    (amid : (op.steps.run e').Amid d stock' s' ((), e'') stock'' s'') :
    Later d e stock s e'' stock'' s''
  | called {e' : Sampler} {stock' : Stock} {s' : Device.State} (c : Call)
    (spares : ∀ config, c.released? = some config → config ∉ stock'.configs)
    (later : Later d e stock s e' stock' s') : Later d e stock s e' stock' (d.answer c s').2
  | readFailures {e' : Sampler} {stock' : Stock} {s' : Device.State} (agent : AgentId)
    (times : Nat) (later : Later d e stock s e' stock' s') :
    Later d e stock s e' stock' (s'.injectReadFailures agent times)

theorem Later.inUse (h : Later d e stock s e' stock' s') (use : e.InUse d stock s) :
    e'.InUse d stock' s' := by
  induction h with
  | here => exact use
  | used op later amid ih => exact .used op ih amid
  | called c spares later ih => exact .called c spares ih
  | readFailures agent times later ih => exact .readFailures agent times ih

theorem Later.retains (h : Later d e stock s e' stock' s') : e.Retains e' := by
  induction h with
  | here => exact .refl e
  | used op later amid ih => exact ih.trans ((op.steps_retain _).amid amid)
  | called c spares later ih => exact ih
  | readFailures agent times later ih => exact ih

/-- A request that is sampled with nobody in between is part of the use of a sampler. -/
theorem InUse.sampled (use : e.InUse d stock s) {request : List String}
    {r : Except Failure SampleOutput}
    (ran : ((sample request).run.run e).run d.backend s = ((r, e'), s')) :
    e'.InUse d (stock.afterAll (((sample request).run.run e).trace d.backend s)) s' := by
  have amid := Procedure.amid_trace d ((Operation.sample request).steps.run e) stock s
  rw [Operation.steps, run_discard, Procedure.run_bind, Procedure.trace_bind, Procedure.trace_done,
    List.append_nil] at amid
  change Procedure.Amid d _ stock s ((), (((sample request).run.run e).run d.backend s).1.2) _
    (((sample request).run.run e).run d.backend s).2 at amid
  rw [ran] at amid
  exact .used (.sample request) use amid

/-! ## What a sampled request leaves behind -/

/-- The set of some names is kept and can be read, and without failures it gives this output. -/
structure Settled (d : Device) (key : List String) (set : Shared ProfileSet) (output : SampleOutput)
    (e : Sampler) : Prop where
  kept : e.cache.sets.find? key = some set
  fits : ∀ p ∈ set.value.profiles, ¬TooLarge p
  output : ∃ known, d.facts.listing e.agent = .ok known ∧
    output = outputOf set.value (addAll .empty (recordsIn d known set.value.profiles))

variable {request : List String} {set : Shared ProfileSet} {output : SampleOutput}

theorem Settled.retains {key : List String} (h : e.Settled d key set output)
    (later : e.Retains e') : e'.Settled d key set output :=
  ⟨later.sets key set h.kept, h.fits, later.agent ▸ h.output⟩

/-- A request that succeeds is settled, and the context is idle unless there is nothing to read. -/
theorem sample_settles (sound : e.Sound d stock s)
    (sampled : ((sample request).run.run e).run d.backend s = ((.ok output, e'), s')) :
    ∃ set, (((profileSet request).run.run e).run d.backend s).1.1 = .ok set ∧
      e'.Settled d (setKey request) set output ∧
      (set.value.profiles = [] ∨ s'.activity e'.context = some false) := by
  obtain ⟨set, known, -, looked, listing, -, values⟩ :=
    sample_ok sound (congrArg (fun y => y.1.1) sampled)
  obtain ⟨set', e₁, s₁, sums, looked', summed, -⟩ := sample_split sampled
  obtain rfl : set' = set := by
    rw [looked'] at looked
    exact Except.ok.inj looked
  have found := (profileSet_found request e).result d.backend s
  have kept := (sampleProfiles_keeps .empty set'.value.profiles e₁).result d.backend s₁
  have fits := (sampleProfiles_fit .empty set'.value.profiles e₁).result d.backend s₁
  have retained := (sample_retains request e).result d.backend s
  rw [looked'] at found
  rw [summed] at kept fits
  rw [sampled] at retained
  have later : e₁.Retains e' := .of_keptSets kept
  refine ⟨set', looked, ⟨later.sets _ _ (found set' rfl), fits sums rfl, ?_⟩, ?_⟩
  · rw [retained.agent]
    exact ⟨known, listing, values⟩
  · by_cases none : set'.value.profiles = []
    · exact .inl none
    · have idle := sampleProfiles_idle none (congrArg (fun y => y.1.1) summed)
      have tracks := (sampleProfiles_tracked .empty set'.value.profiles d e₁ s₁).2.idle idle
      rw [summed] at tracks
      rw [later.context]
      exact .inr tracks.1

/-- What sampling comes to when the set of the names is settled: it is found, only the context is
used and names are asked for, no configuration is made or released, and if no failure is left and
the context is idle, or there is nothing to read, the output is the one it was. -/
structure SampledAgain (d : Device) (request : List String) (set : Shared ProfileSet)
    (output : SampleOutput) (e : Sampler) (s : Device.State) : Prop where
  found : (profileSet request).run.run e = .done (.ok set, { e with cache := e.cache.hit })
  calls : ∀ c ∈ ((sample request).run.run e).calls d.backend s,
    c.isContextCall = true ∨ ∃ id, c = .counterName id
  configs : (((sample request).run.run e).run d.backend s).2.configs = s.configs
  equal : s.budgets.failures e.agent = ⟨0, 0, 0, 0⟩ →
    output.profiles = 0 ∨ s.activity e.context = some false →
    (((sample request).run.run e).run d.backend s).1.1 = .ok output

/-- A set that is kept is only read out. -/
theorem sample_reads (kept : e.cache.sets.find? (setKey request) = some set) :
    ((sample request).run.run e).Ensures (fun c => c.isContextCall = true ∨ c.IsNaming)
      fun _ => True := by
  apply ensures_bindOk
  rw [profileSet_cached kept]
  refine ensures_bindOk ((sampleProfiles_reads .empty set.value.profiles _).mono
    (fun _ => id) fun y _ => ?_)
  obtain ⟨summed, e₁⟩ := y
  cases summed <;> exact trivial

theorem Settled.equal (h : e.Settled d (setKey request) set output) (sound : e.Sound d stock s)
    (unhurt : s.budgets.failures e.agent = ⟨0, 0, 0, 0⟩)
    (idle : output.profiles = 0 ∨ s.activity e.context = some false) :
    (((sample request).run.run e).run d.backend s).1.1 = .ok output := by
  obtain ⟨known, listing, rfl⟩ := h.output
  have packed : ((profileSet request).run.run e).run d.backend s =
      ((.ok set, { e with cache := e.cache.hit }), s) := by
    rw [profileSet_cached h.kept]
    rfl
  rcases idle with none | idle
  · have none : set.value.profiles = [] := List.eq_nil_of_length_eq_zero none
    rw [sample, Procedure.run_bindOk, packed]
    dsimp only
    rw [Procedure.run_bindOk, sampleProfileSet, none]
    rfl
  · obtain ⟨known', _, _, _, _, listing', -, sampled, -⟩ :=
      sample_outcome ⟨sound, idle, unhurt⟩ packed h.fits (.inr rfl)
    obtain rfl := Except.ok.inj (listing.symm.trans listing')
    have none : (⟨0, 0, 0, 0⟩ : Device.Failures).stage? = none := rfl
    rw [sampled, outcome_of_none none]

theorem Settled.again (h : e.Settled d (setKey request) set output) (sound : e.Sound d stock s) :
    SampledAgain d request set output e s where
  found := profileSet_cached h.kept
  calls := fun c made => by
    refine ((sample_reads h.kept).of_mem_calls d.backend s made).imp_right fun naming => ?_
    cases c with
    | counterName id => exact ⟨id, rfl⟩
    | _ => exact naming.elim
  configs := by
    refine (sample_reads h.kept).run_eq d.backend (f := fun s => s.configs) (fun c s made => ?_) s
    have spares : c.isConfigCall = false := by
      rcases made with context | naming
      · cases c <;> first | rfl | cases context
      · exact naming.isInquiry.not_isConfigCall
    exact (d.answer_sameConfigs spares s).1.configs
  equal := h.equal sound

/-! ## Requests for the same names -/

/-- Requests with the same key make the same calls and come to the same set and the same sampler. -/
theorem profileSet_congr {other : List String} (same : setKey request = setKey other)
    (e : Sampler) : (profileSet request).run.run e = (profileSet other).run.run e := by
  rw [run_profileSet, run_profileSet, run_withCache, run_withCache]
  unfold ProfileCache.getOrCreateSet
  rw [same]

/-- Two requests have the same key just if they are for the same names. For the same names, asking
for the set is the same procedure in every state of a sampler. Once one of them was sampled, however
the sampler was used before, and however it and the device are used afterwards, sampling the other
finds the same set, builds nothing, and gives the same output if no failure is left and the context
is idle, as it is right after the first. -/
theorem same_names_sampled (d : Device) (request other : List String) :
    (setKey request = setKey other ↔ ∀ name, name ∈ request ↔ name ∈ other) ∧
    ((∀ name, name ∈ request ↔ name ∈ other) →
      (∀ e : Sampler, (profileSet request).run.run e = (profileSet other).run.run e) ∧
      ∀ {e e₁ : Sampler} {stock : Stock} {s s₁ : Device.State} {output : SampleOutput},
        e.InUse d stock s →
        ((sample request).run.run e).run d.backend s = ((.ok output, e₁), s₁) →
        ∃ set, (((profileSet request).run.run e).run d.backend s).1.1 = .ok set ∧
          (output.profiles = 0 ∨ s₁.activity e₁.context = some false) ∧
          ∀ {e₂ : Sampler} {stock₂ : Stock} {s₂ : Device.State},
            Later d e₁ (stock.afterAll (((sample request).run.run e).trace d.backend s)) s₁
              e₂ stock₂ s₂ →
            SampledAgain d other set output e₂ s₂) := by
  refine ⟨ProfileCache.setKey_eq_iff, fun same => ?_⟩
  have key := ProfileCache.setKey_eq_iff.2 same
  refine ⟨profileSet_congr key, fun use sampled => ?_⟩
  obtain ⟨set, looked, settled, idle⟩ := sample_settles use.sound sampled
  refine ⟨set, looked, ?_, fun later => ?_⟩
  · refine idle.imp_left fun none => ?_
    obtain ⟨known, -, values⟩ := settled.output
    rw [values]
    exact congrArg List.length none
  · rw [key] at settled
    exact (settled.retains later.retains).again (later.inUse (use.sampled sampled)).sound

/-- Sampling two counters that fit one profile. -/
theorem sample_twoTogether :
    ∃ e s, (Sampler.new ⟨1⟩ 0 2).run twoTogether.device.backend twoTogether.initial = (.ok e, s) ∧
      ∃ output e₁ s₁, ((sample ["CYCLES", "WAVES"]).run.run e).run twoTogether.device.backend s =
          ((.ok output, e₁), s₁) ∧
        output.values.names = ["CYCLES", "WAVES"] ∧ output.profiles = 1 ∧
        s₁.budgets.failures e₁.agent = ⟨0, 0, 0, 0⟩ := by
  have key : setKey ["CYCLES", "WAVES"] = ["CYCLES", "WAVES"] := by
    rw [setKey, List.mergeSort_of_pairwise (by decide), distinct_of_nodup (by decide)]
  refine ⟨_, _, rfl, ?_⟩
  rw [sample, Procedure.run_bindOk, run_profileSet, run_withCache]
  simp only [ProfileCache.getOrCreateSet, key]
  exact ⟨_, _, _, rfl, rfl, rfl, rfl⟩

/-- After the first request somebody else makes a configuration. Then the names are asked for in
another order and one of them twice. -/
theorem same_names_sampled_repeats :
    let d := twoTogether.device
    let request := ["CYCLES", "WAVES"]
    let other := ["WAVES", "CYCLES", "WAVES"]
    ∃ e s output e₁ s₁, e.InUse d [] s ∧ (∀ name, name ∈ request ↔ name ∈ other) ∧
      ((sample request).run.run e).run d.backend s = ((.ok output, e₁), s₁) ∧
      output.values.names = ["CYCLES", "WAVES"] ∧
      let s₂ := (d.answer (.tryConfigure ⟨1⟩ [⟨0x100⟩]) s₁).2
      let again := ((sample other).run.run e₁).run d.backend s₂
      s₂.budgets.failures e₁.agent = ⟨0, 0, 0, 0⟩ ∧ s₂.activity e₁.context = some false ∧
      again.1.1 = .ok output ∧ again.2.configs = s₂.configs := by
  intro d request other
  obtain ⟨e, s, created, output, e₁, s₁, sampled, values, one, unhurt⟩ := sample_twoTogether
  have use : e.InUse d [] s := .created ⟨1⟩ 0 2 (Device.reached_initial twoTogether) created
  have same : ∀ name, name ∈ request ↔ name ∈ other := by
    intro name
    simp only [request, other, List.mem_cons, List.not_mem_nil, or_false]
    constructor
    · rintro (first | second)
      · exact .inr (.inl first)
      · exact .inl second
    · rintro (first | second | first)
      · exact .inr first
      · exact .inl second
      · exact .inr first
  obtain ⟨-, congr⟩ := same_names_sampled d request other
  obtain ⟨set, -, idle, again⟩ := (congr same).2 use sampled
  -- Making a configuration leaves the contexts and the failures alone.
  have resting : s₁.activity e₁.context = some false := by
    rcases idle with none | resting
    · rw [one] at none
      cases none
    · exact resting
  have idle₂ := (d.answer_activity (c := .tryConfigure ⟨1⟩ [⟨0x100⟩]) trivial).trans resting
  have budgets : (d.answer (.tryConfigure ⟨1⟩ [⟨0x100⟩]) s₁).2.budgets = s₁.budgets :=
    congrArg (fun y => y.2.budgets) (answer_withBudgets d (c := .tryConfigure ⟨1⟩ [⟨0x100⟩])
      trivial s₁ s₁.budgets)
  have unhurt₂ := (congrArg (fun b => Device.Budgets.failures b e₁.agent) budgets).trans unhurt
  have later := again (.called (.tryConfigure ⟨1⟩ [⟨0x100⟩]) nofun .here)
  exact ⟨e, s, output, e₁, s₁, use, same, sampled, values, unhurt₂, idle₂,
    later.equal unhurt₂ (.inr idle₂), later.configs⟩

end Sampler

end CounterSampling
