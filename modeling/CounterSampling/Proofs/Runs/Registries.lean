import CounterSampling.Proofs.Possession.Use
import CounterSampling.Proofs.Runs.Turns

/-!
# Registries in use

`Registry.On` says how a registry and its device can come about: the registry was discovered on a
device that was used before, and then its samplers were used, runs were made and anybody made any
calls at all. Whatever happened, each sampler has a context of its own that belongs to its agent,
what its catalog knows is true, and what it keeps was given out by the device.
-/

namespace CounterSampling

namespace Registry

/-- A registry that was discovered on a device and then used. -/
inductive On (d : Device) : Registry → Device.State → Prop
  | discovered {s s' : Device.State} {r : Registry} (maxPerProfile owner : Nat)
    (reached : d.Reached s)
    (found : (discover maxPerProfile owner).run d.backend s = (.ok r, s')) : On d r s'
  /-- Anybody makes a call. -/
  | called {s : Device.State} {r : Registry} (c : Call) (on : On d r s) : On d r (d.answer c s).2
  | readFailures {s : Device.State} {r : Registry} (agent : AgentId) (times : Nat) (on : On d r s) :
    On d r (s.injectReadFailures agent times)
  /-- One of the samplers is used. -/
  | used {s : Device.State} {r : Registry} {i : Nat} {a : AgentSampler}
    (there : r.samplers[i]? = some a) (op : Sampler.Operation) (on : On d r s) :
    On d ⟨r.samplers.set i { a with sampler := ((op.steps.run a.sampler).run d.backend s).1.2 }⟩
      ((op.steps.run a.sampler).run d.backend s).2
  | ran {s : Device.State} {r : Registry} (config : RunConfig) (schedule : List Nat)
    (on : On d r s) :
    On d ((Run.run r config schedule).run d.backend s).1.registry
      ((Run.run r config schedule).run d.backend s).2

end Registry

/-- A sampler whose agent and context are its own and that keeps nothing but what was given out. -/
structure AgentSampler.Attached (d : Device) (s : Device.State) (a : AgentSampler) : Prop where
  agent : a.sampler.agent = a.info.id
  truthful : a.sampler.Truthful d
  context : a.sampler.OwnsContext s
  issued : ∀ p ∈ a.sampler.cache.profiles, p.config.val < s.nextConfig

section Attached

variable {d : Device} {s : Device.State} {a : AgentSampler}

theorem AgentSampler.Attached.own (h : a.Attached d s) {ctx : Device.Context}
    (found : s.contexts.find? a.sampler.context = some ctx) : ctx.agent = a.info.id :=
  (h.context.own ctx found).trans h.agent

theorem AgentSampler.Attached.answer (h : a.Attached d s) (c : Call) :
    a.Attached d (d.answer c s).2 := by
  refine ⟨h.agent, h.truthful, h.context.answer c, fun p mem => ?_⟩
  exact Nat.lt_of_lt_of_le (h.issued p mem) (d.answer_changes c s).1.next_le

/-- What is new in a cache was given out if the stock was. -/
theorem ProfileCache.Extends.issued {agent : AgentId} {c c' : ProfileCache} {before stock : Stock}
    (h : c.Extends d agent c' before stock) (old : ∀ p ∈ c.profiles, p.config.val < s.nextConfig)
    (stocked : s.Issued stock) : ∀ p ∈ c'.profiles, p.config.val < s.nextConfig := by
  intro p mem
  rcases List.mem_append.1 mem with inSet | single
  · obtain ⟨x, there, inside⟩ := List.mem_flatMap.1 inSet
    obtain ⟨key, found⟩ := Table.find?_of_mem_values there
    rcases h.sets key x found with before | ⟨known, -, new⟩
    · have kept := Table.mem_values_of_find? before
      exact old p (List.mem_append_left _ (List.mem_flatMap.2 ⟨x, kept, inside⟩))
    · obtain ⟨members, -, held⟩ := new.profiles p inside
      exact stocked p.config (List.mem_map_of_mem held)
  · obtain ⟨x, there, rfl⟩ := List.mem_map.1 single
    obtain ⟨names, found⟩ := Table.find?_of_mem_values there
    rcases h.singles names x found with before | ⟨known, -, -, held⟩
    · have kept := Table.mem_values_of_find? before
      exact old x.value (List.mem_append_right _ (List.mem_map_of_mem kept))
    · exact stocked x.value.config (List.mem_map_of_mem held)

/-- A sampler stays attached when it is used properly. -/
theorem AgentSampler.Attached.use (h : a.Attached d s) {e : Sampler} {stock : Stock}
    (used : a.sampler.Extends d e [] stock) (stocked : s.Issued stock) :
    ({ a with sampler := e } : AgentSampler).Attached d s := by
  have context : e.OwnsContext s := used.ownsContext h.context
  exact ⟨used.agent.trans h.agent, used.truthful, context, used.cache.issued h.issued stocked⟩

end Attached

/-- Samplers each with a context of its own, for these agents. -/
structure Registry.Attached (d : Device) (infos : List AgentInfo) (s : Device.State)
    (samplers : List AgentSampler) : Prop where
  numbered : s.Numbered
  infos_eq : samplers.map (fun a => a.info) = infos
  each : ∀ a ∈ samplers, a.Attached d s
  contexts : (samplers.map fun a => a.sampler.context).Nodup

namespace Registry

variable {d : Device} {infos : List AgentInfo} {s : Device.State} {samplers : List AgentSampler}

theorem Attached.answer (h : Attached d infos s samplers) (c : Call) :
    Attached d infos (d.answer c s).2 samplers :=
  ⟨h.numbered.answer c, h.infos_eq, fun a mem => (h.each a mem).answer c, h.contexts⟩

theorem Attached.run {α : Type} (h : Attached d infos s samplers) (p : Procedure α) :
    Attached d infos (p.run d.backend s).2 samplers :=
  Procedure.run_preserves (P := fun s => Attached d infos s samplers)
    (fun c _ attached => attached.answer c) p h

/-- Which failures are left makes no difference. -/
theorem Attached.withBudgets (h : Attached d infos s samplers) (budgets : Device.Budgets) :
    Attached d infos { s with budgets } samplers := by
  refine ⟨h.numbered.withBudgets budgets, h.infos_eq, fun a mem => ?_, h.contexts⟩
  have attached := h.each a mem
  have context := attached.context
  exact ⟨attached.agent, attached.truthful, ⟨context.given, context.own⟩, attached.issued⟩

/-- A sampler that was just created is attached, with a context that no other one has. -/
theorem Attached.new (h : Attached d infos s samplers) (info : AgentInfo)
    (owner maxPerProfile : Nat) {e : Sampler} {s' : Device.State}
    (created : (Sampler.new info.id owner maxPerProfile).run d.backend s = (.ok e, s')) :
    Attached d (infos ++ [info]) s' (samplers ++ [⟨info, e⟩]) := by
  obtain ⟨rfl, -, answered⟩ := Sampler.new_ok created
  have old : Attached d infos s' samplers := answered ▸ h.answer (.createContext info.id)
  have fresh : ∀ a ∈ samplers, a.sampler.context ≠ ⟨s.nextContext⟩ := by
    intro a mem same
    have := (h.each a mem).context.given
    rw [same] at this
    exact Nat.lt_irrefl _ this
  refine ⟨old.numbered, ?_, ?_, ?_⟩
  · rw [List.map_append, h.infos_eq]
    rfl
  · intro a mem
    rcases List.mem_append.1 mem with before | new
    · exact old.each a before
    · rw [List.mem_singleton.1 new]
      have context := Sampler.new_ownsContext old.numbered created
      exact ⟨rfl, Catalog.truthful_new d.facts info.id, context, nofun⟩
  · rw [List.map_append]
    refine List.nodup_append.2 ⟨h.contexts, List.pairwise_singleton _ _, ?_⟩
    intro context mem context' new same
    obtain ⟨a, there, rfl⟩ := List.mem_map.1 mem
    exact fresh a there (same.trans (List.mem_singleton.1 new))

/-- What creating a sampler keeps up holds of all samplers when they are open. -/
theorem openAll_keeps {P : List AgentInfo → Device.State → List AgentSampler → Prop}
    {maxPerProfile : Nat}
    (new : ∀ {infos s samplers e s'} (info owner), P infos s samplers →
      (Sampler.new info.id owner maxPerProfile).run d.backend s = (.ok e, s') →
        P (infos ++ [info]) s' (samplers ++ [⟨info, e⟩]))
    (gpus : List AgentInfo) (h : P infos s samplers) {owner : Nat} {r : Registry}
    {s' : Device.State}
    (opened : (openAll maxPerProfile owner samplers gpus).run d.backend s = (.ok r, s')) :
    P (infos ++ gpus) s' r.samplers := by
  induction gpus generalizing infos samplers owner s with
  | nil =>
    cases opened
    rw [List.append_nil]
    exact h
  | cons info gpus ih =>
    rw [Registry.openAll, Procedure.run_bind] at opened
    rcases created : (Sampler.new info.id owner maxPerProfile).run d.backend s with ⟨made, s''⟩
    rw [created] at opened
    cases made with
    | error e =>
      simp only [Procedure.run_bind] at opened
      cases opened
    | ok e =>
      rw [List.append_cons]
      exact ih (new info owner h created) opened

/-- A registry that was just discovered has a sampler for each GPU, and what creating a sampler
keeps up holds of them. -/
theorem discover_keeps {P : List AgentInfo → Device.State → List AgentSampler → Prop}
    {maxPerProfile : Nat}
    (new : ∀ {infos s samplers e s'} (info owner), P infos s samplers →
      (Sampler.new info.id owner maxPerProfile).run d.backend s = (.ok e, s') →
        P (infos ++ [info]) s' (samplers ++ [⟨info, e⟩]))
    (h : P [] s []) {owner : Nat} {r : Registry} {s' : Device.State}
    (found : (discover maxPerProfile owner).run d.backend s = (.ok r, s')) :
    P (d.agents.filter AgentInfo.isGpu) s' r.samplers := by
  simp only [discover, Procedure.call, Procedure.bind_ask, Procedure.bind_done,
    Procedure.run_ask] at found
  generalize answered : d.backend.answer .agents s = y at found
  change (d.listAgents, s) = y at answered
  rw [← answered] at found
  unfold Device.listAgents at found
  by_cases fails : d.failEnumeration = true
  · simp only [fails, if_true] at found
    cases found
  · simp only [fails, Bool.false_eq_true, if_false] at found
    cases gpus : d.agents.filter AgentInfo.isGpu with
    | nil =>
      rw [gpus] at found
      cases found
    | cons info infos =>
      rw [gpus] at found
      exact openAll_keeps new (info :: infos) h found

theorem attached_nil (numbered : s.Numbered) : Attached d [] s [] :=
  ⟨numbered, rfl, nofun, List.nodup_nil⟩

theorem discover_attached {maxPerProfile owner : Nat} {r : Registry} {s' : Device.State}
    (numbered : s.Numbered)
    (found : (discover maxPerProfile owner).run d.backend s = (.ok r, s')) :
    Attached d (d.agents.filter AgentInfo.isGpu) s' r.samplers :=
  discover_keeps (fun info owner h created => h.new info owner maxPerProfile created)
    (attached_nil numbered) found

/-- Samplers that were used properly can take the places of what they were. -/
theorem Attached.replace (h : Attached d infos s samplers) {samplers' : List AgentSampler}
    (used : ∀ i : Nat, Option.Rel (fun a a' : AgentSampler => a'.info = a.info ∧
      ∃ stock, a.sampler.Extends d a'.sampler [] stock ∧ s.Issued stock)
        samplers[i]? samplers'[i]?) : Attached d infos s samplers' := by
  have same (i : Nat) : (samplers'.map fun a => (a.info, a.sampler.context))[i]? =
      (samplers.map fun a => (a.info, a.sampler.context))[i]? := by
    rw [List.getElem?_map, List.getElem?_map]
    have rel := used i
    generalize samplers[i]? = before, samplers'[i]? = after at rel
    cases rel with
    | none => rfl
    | some rel =>
      obtain ⟨info, stock, used, -⟩ := rel
      rw [Option.map_some, Option.map_some, info, used.context]
  have columns := List.ext_getElem? same
  refine ⟨h.numbered, ?_, fun a' mem => ?_, ?_⟩
  · have infos' := congrArg (List.map Prod.fst) columns
    simp only [List.map_map, Function.comp_def] at infos'
    rw [infos', h.infos_eq]
  · obtain ⟨i, there'⟩ := List.mem_iff_getElem?.1 mem
    have rel := used i
    rw [there'] at rel
    cases there : samplers[i]? with
    | none =>
      rw [there] at rel
      cases rel
    | some a =>
      rw [there] at rel
      cases rel with
      | some rel =>
        obtain ⟨info, stock, used, issued⟩ := rel
        have attached := (h.each a (List.mem_of_getElem? there)).use used issued
        cases a'
        obtain rfl := info
        exact attached
  · have contexts' := congrArg (List.map Prod.snd) columns
    simp only [List.map_map, Function.comp_def] at contexts'
    rw [contexts']
    exact h.contexts

/-- A sampler that is not used stands for itself. -/
theorem Attached.unused (h : Attached d infos s samplers) {a : AgentSampler} (mem : a ∈ samplers) :
    a.info = a.info ∧ ∃ stock, a.sampler.Extends d a.sampler [] stock ∧ s.Issued stock :=
  ⟨rfl, [], .refl (h.each a mem).truthful List.nodup_nil, s.issued_nil⟩

/-- Using one of the samplers keeps all of them attached. -/
theorem Attached.operate (h : Attached d infos s samplers) {i : Nat} {a : AgentSampler}
    (there : samplers[i]? = some a) (op : Sampler.Operation) :
    Attached d infos ((op.steps.run a.sampler).run d.backend s).2
      (samplers.set i { a with sampler := ((op.steps.run a.sampler).run d.backend s).1.2 }) := by
  have attached := h.each a (List.mem_of_getElem? there)
  have managed := op.steps_managed d a.sampler [] attached.truthful List.nodup_nil
  obtain ⟨stock, amid⟩ := Procedure.amid_run d (op.steps.run a.sampler) [] s
  obtain ⟨used, stores⟩ := managed.amid nofun h.numbered amid
  have later := h.run (op.steps.run a.sampler)
  refine later.replace fun j => ?_
  by_cases own : i = j
  · subst own
    have inside := (List.getElem?_eq_some_iff.1 there).1
    rw [there, List.getElem?_set_self inside]
    exact .some ⟨rfl, stock, used, stores.issued later.numbered⟩
  · rw [List.getElem?_set_ne own]
    cases other : samplers[j]? with
    | none => exact .none
    | some a' => exact .some (later.unused (List.mem_of_getElem? other))

end Registry

/-- What a procedure that takes turns holds in the end was given out. -/
theorem Procedure.Turns.manages {α : Type} {d : Device} {ps : List (Procedure α)}
    {s s' : Device.State} {turns : List (Nat × Event)} {results : List α}
    (h : Turns d.backend ps s turns results s') {i : Nat} {p : Procedure α}
    (there : ps[i]? = some p) {context : ContextId} {Q : Stock → α → Prop} {stock : Stock}
    (manages : p.Manages d context Q stock) (issued : s.Issued stock) :
    ∃ a stock', results[i]? = some a ∧ Q stock' a ∧ s'.Issued stock' := by
  induction h generalizing p stock with
  | ended results s =>
    rw [List.getElem?_map] at there
    obtain ⟨a, found, rfl⟩ := Option.map_eq_some_iff.1 there
    exact ⟨a, stock, found, manages, issued⟩
  | @turn ps s s' turns results j c next there' rest ih =>
    by_cases own : j = i
    · subst own
      obtain rfl := Option.some.inj (there.symm.trans there')
      have inside := (List.getElem?_eq_some_iff.1 there).1
      exact ih (List.getElem?_set_self inside) (manages.2 _ (issued.allows c)) (issued.answer c)
    · exact ih (by rw [List.getElem?_set_ne own, there]) manages (issued.others c)

namespace Registry

variable {d : Device} {infos : List AgentInfo} {s : Device.State}

/-- A run keeps all samplers attached. -/
theorem Attached.runSamplers {r : Registry} (h : Attached d infos s r.samplers)
    (config : RunConfig) (schedule : List Nat) :
    Attached d infos ((Run.run r config schedule).run d.backend s).2
      ((Run.run r config schedule).run d.backend s).1.registry.samplers := by
  have later := h.run (Run.run r config schedule)
  obtain ⟨turns, -, taken⟩ := Run.run_turns d.backend r config schedule s
  generalize (Run.run r config schedule).run d.backend s = y at later taken ⊢
  obtain ⟨result, s'⟩ := y
  refine later.replace fun i => ?_
  change Option.Rel _ _ (result.outcomes.map Prod.snd)[i]?
  rw [List.getElem?_map]
  cases there : r.samplers[i]? with
  | none =>
    have outside : r.samplers.length ≤ i := List.getElem?_eq_none_iff.1 there
    have length : result.outcomes.length = r.samplers.length := by
      rw [taken.length_eq, List.length_map]
    have outside' : result.outcomes.length ≤ i := by omega
    rw [List.getElem?_eq_none outside']
    exact .none
  | some a =>
    have attached := h.each a (List.mem_of_getElem? there)
    have task_there : (r.samplers.map (Run.task config))[i]? = some (Run.task config a) := by
      rw [List.getElem?_map, there, Option.map_some]
    have managed : (Run.task config a).Manages d a.sampler.context _ [] :=
      Run.task_managed config a attached.truthful List.nodup_nil
    have none_held := (d.answer .simulated s).2.issued_nil
    obtain ⟨outcome, stock, found, ⟨info, used⟩, issued⟩ :=
      taken.manages task_there managed none_held
    rw [found]
    exact .some ⟨info, stock, used, issued⟩

/-- However a registry is used, its samplers are attached. -/
theorem On.attached {r : Registry} (h : r.On d s) :
    Attached d (d.agents.filter AgentInfo.isGpu) s r.samplers := by
  induction h with
  | discovered maxPerProfile owner reached found => exact discover_attached reached.numbered found
  | called c on ih => exact ih.answer c
  | readFailures agent times on ih => exact ih.withBudgets _
  | used there op on ih => exact ih.operate there op
  | ran config schedule on ih => exact ih.runSamplers config schedule

end Registry

end CounterSampling
