import CounterSampling.Proofs.Caching.ProfileLimits
import CounterSampling.Proofs.Ownership.Contexts
import CounterSampling.Proofs.Possession.Events

/-!
# Opening and closing registries

Discovery lists the agents and creates one context for each GPU, in order. When a context is
refused, those that were created before are destroyed again, the last first, and the refusal is the
result: `Discovery` lists all ways in which this can go, on any backend. So a discovery either opens
a registry with a sampler for each GPU or leaves everything as it was, and closing a registry
destroys the contexts of its samplers and no others. Main statement: `discover_all_or_none`.
-/

namespace CounterSampling

variable {σ : Type} {b : Backend σ} {s : σ} {maxPerProfile : Nat}

/-- The creation of the context of a sampler. -/
def AgentSampler.opens (a : AgentSampler) : Event :=
  ⟨.createContext a.info.id, .ok a.sampler.context⟩

/-- The destruction of the context of a sampler. -/
def AgentSampler.closes (a : AgentSampler) : Event :=
  ⟨.destroyContext a.sampler.context, ()⟩

/-- The release of a configuration. -/
def ConfigId.releases (config : ConfigId) : Event :=
  ⟨.destroyConfig config, ()⟩

/-- A sampler that was just created for its agent. -/
structure AgentSampler.New (maxPerProfile : Nat) (a : AgentSampler) : Prop where
  agent : a.sampler.agent = a.info.id
  catalog : a.sampler.catalog = .new a.info.id
  cache : a.sampler.cache = .new a.sampler.cache.owner
  limit : a.sampler.maxPerProfile = maxPerProfile

/-- The contexts of some samplers. -/
def contextsOf (samplers : List AgentSampler) : List ContextId :=
  samplers.map fun a => a.sampler.context

/-- The contexts of a registry. -/
def Registry.contexts (r : Registry) : List ContextId :=
  contextsOf r.samplers

/-- How a discovery can go: what is asked and answered, and what comes of it. -/
inductive Discovery (maxPerProfile : Nat) :
    List Event → Except SamplerError Registry → Prop
  /-- The agents cannot be listed. -/
  | unlisted (cause : BackendError) :
    Discovery maxPerProfile [⟨.agents, .error cause⟩] (.error (.backend cause))
  /-- No agent is a GPU. -/
  | noGpus (agents : List AgentInfo) (gpus : agents.filter AgentInfo.isGpu = []) :
    Discovery maxPerProfile [⟨.agents, .ok agents⟩] (.error .noAgents)
  /-- Contexts are created for some of the GPUs, and the one for the next GPU is refused. -/
  | refused (agents : List AgentInfo) (opened : List AgentSampler) (gpu : AgentInfo)
    (others : List AgentInfo) (cause : BackendError)
    (gpus : agents.filter AgentInfo.isGpu = opened.map AgentSampler.info ++ gpu :: others) :
    Discovery maxPerProfile
      (⟨.agents, .ok agents⟩ :: (opened.map AgentSampler.opens ++
        ⟨.createContext gpu.id, .error cause⟩ :: opened.reverse.map AgentSampler.closes))
      (.error (.backend cause))
  /-- A context is created for every GPU. -/
  | found (agents : List AgentInfo) (r : Registry)
    (gpus : agents.filter AgentInfo.isGpu = r.samplers.map AgentSampler.info)
    (some : r.samplers ≠ []) (new : ∀ a ∈ r.samplers, a.New maxPerProfile) :
    Discovery maxPerProfile (⟨.agents, .ok agents⟩ :: r.samplers.map AgentSampler.opens) (.ok r)

theorem opens_contexts (samplers : List AgentSampler) :
    allOpened (samplers.map AgentSampler.opens) = contextsOf samplers ∧
      allClosed (samplers.map AgentSampler.opens) = [] := by
  induction samplers with
  | nil => exact ⟨rfl, rfl⟩
  | cons a samplers ih => exact ⟨congrArg (a.sampler.context :: ·) ih.1, ih.2⟩

theorem closes_contexts (samplers : List AgentSampler) :
    allOpened (samplers.map AgentSampler.closes) = [] ∧
      allClosed (samplers.map AgentSampler.closes) = contextsOf samplers := by
  induction samplers with
  | nil => exact ⟨rfl, rfl⟩
  | cons a samplers ih => exact ⟨ih.1, congrArg (a.sampler.context :: ·) ih.2⟩

theorem releases_contexts (configs : List ConfigId) :
    allOpened (configs.map ConfigId.releases) = [] ∧
      allClosed (configs.map ConfigId.releases) = [] := by
  induction configs with
  | nil => exact ⟨rfl, rfl⟩
  | cons config configs ih => exact ih

/-! ## Closing -/

theorem trace_releaseAll (b : Backend σ) (configs : List ConfigId) (s : σ) :
    (releaseAll configs).trace b s = configs.map ConfigId.releases := by
  induction configs generalizing s with
  | nil => rfl
  | cons config configs ih => exact congrArg (_ :: ·) (ih _)

theorem Sampler.trace_close (e : Sampler) (elsewhere : Nat → Nat → Bool) (b : Backend σ) (s : σ) :
    (e.close elsewhere).trace b s =
      (e.cache.soleConfigs elsewhere).map ConfigId.releases ++
        [⟨.destroyContext e.context, ()⟩] := by
  rw [Sampler.close, Procedure.trace_bind, trace_releaseAll]
  rfl

namespace Registry

/-- Closing samplers opens nothing, and closes their contexts, the last first. -/
theorem closeAll_contexts (b : Backend σ) (elsewhere : Nat → Nat → Bool)
    (samplers : List AgentSampler) (s : σ) :
    allOpened ((closeAll elsewhere samplers).trace b s) = [] ∧
      allClosed ((closeAll elsewhere samplers).trace b s) = (contextsOf samplers).reverse := by
  induction samplers generalizing s with
  | nil => exact ⟨rfl, rfl⟩
  | cons a samplers ih =>
    obtain ⟨opened, closed⟩ := ih s
    obtain ⟨opens, closes⟩ := releases_contexts (a.sampler.cache.soleConfigs elsewhere)
    rw [closeAll, Procedure.trace_bind, Sampler.trace_close]
    constructor
    · rw [allOpened_append, allOpened_append, opened, opens]
      rfl
    · rw [allClosed_append, allClosed_append, closed, closes, contextsOf, contextsOf,
        List.map_cons, List.reverse_cons]
      rfl

/-- Closing samplers that were just created does nothing but destroy their contexts. -/
theorem closeAll_new (b : Backend σ) (elsewhere : Nat → Nat → Bool) {samplers : List AgentSampler}
    (new : ∀ a ∈ samplers, a.New maxPerProfile) (s : σ) :
    (closeAll elsewhere samplers).trace b s = samplers.reverse.map AgentSampler.closes := by
  induction samplers generalizing s with
  | nil => rfl
  | cons a samplers ih =>
    obtain ⟨first, later⟩ := List.forall_mem_cons.1 new
    have empty : a.sampler.cache.soleConfigs elsewhere = [] := by
      rw [first.cache]
      rfl
    rw [closeAll, Procedure.trace_bind, ih later, Sampler.trace_close, empty, List.reverse_cons,
      List.map_append]
    rfl

/-! ## Opening -/

/-- Creating a sampler asks for a context, and the answer decides. -/
theorem new_cases (b : Backend σ) (info : AgentInfo) (owner maxPerProfile : Nat) (s : σ) :
    (∃ a : AgentSampler, a.info = info ∧ a.New maxPerProfile ∧
      ((Sampler.new info.id owner maxPerProfile).run b s).1 = .ok a.sampler ∧
      (Sampler.new info.id owner maxPerProfile).trace b s = [a.opens]) ∨
    ∃ cause, ((Sampler.new info.id owner maxPerProfile).run b s).1 = .error (.backend cause) ∧
      (Sampler.new info.id owner maxPerProfile).trace b s =
        [⟨.createContext info.id, .error cause⟩] := by
  simp only [Sampler.new, Procedure.call, Procedure.bind_ask, Procedure.bind_done,
    Procedure.run_ask, Procedure.trace_ask]
  cases (b.answer (.createContext info.id) s).1 with
  | ok context =>
    left
    exact ⟨⟨info, info.id, context, .new info.id, .new owner, maxPerProfile⟩, rfl,
      ⟨rfl, rfl, rfl, rfl⟩, rfl, rfl⟩
  | error cause =>
    right
    exact ⟨cause, rfl, rfl⟩

/-- A sampler is created for each agent, until a context is refused; then all are closed. -/
theorem openAll_cases (b : Backend σ) (maxPerProfile owner : Nat) (infos : List AgentInfo)
    {opened : List AgentSampler} (new : ∀ a ∈ opened, a.New maxPerProfile) (s : σ) :
    (∃ added, added.map AgentSampler.info = infos ∧
      (∀ a ∈ opened ++ added, a.New maxPerProfile) ∧
      ((openAll maxPerProfile owner opened infos).run b s).1 = .ok ⟨opened ++ added⟩ ∧
      (openAll maxPerProfile owner opened infos).trace b s = added.map AgentSampler.opens) ∨
    ∃ added gpu others cause, infos = added.map AgentSampler.info ++ gpu :: others ∧
      ((openAll maxPerProfile owner opened infos).run b s).1 = .error (.backend cause) ∧
      (openAll maxPerProfile owner opened infos).trace b s =
        added.map AgentSampler.opens ++ ⟨.createContext gpu.id, .error cause⟩ ::
          (opened ++ added).reverse.map AgentSampler.closes := by
  induction infos generalizing owner opened s with
  | nil =>
    left
    refine ⟨[], rfl, ?_, ?_, rfl⟩
    · rwa [List.append_nil]
    · rw [List.append_nil]
      rfl
  | cons info infos ih =>
    rw [openAll, Procedure.run_bind, Procedure.trace_bind]
    rcases new_cases b info owner maxPerProfile s with
      ⟨a, rfl, fresh, made, asked⟩ | ⟨cause, made, asked⟩
    · rw [made, asked]
      have all : ∀ a' ∈ opened ++ [a], a'.New maxPerProfile :=
        List.forall_mem_append.2 ⟨new, List.forall_mem_singleton.2 fresh⟩
      rcases ih (owner + 1) all _ with ⟨added, agents, each, ended, events⟩ |
        ⟨added, gpu, others, cause, agents, ended, events⟩
      · left
        refine ⟨a :: added, congrArg _ agents, ?_, ?_, ?_⟩
        · rwa [List.append_cons opened]
        · rw [List.append_cons opened]
          exact ended
        · exact congrArg _ events
      · right
        refine ⟨a :: added, gpu, others, cause, congrArg _ agents, ended, ?_⟩
        rw [List.append_cons opened]
        exact congrArg _ events
    · right
      rw [made, asked]
      refine ⟨[], info, infos, cause, rfl, ?_, ?_⟩
      · simp only [Procedure.run_bind]
        rfl
      · simp only [Procedure.trace_bind]
        rw [closeAll_new b _ new, List.append_nil]
        simp

/-- However a discovery goes, it is one of the ways listed. -/
theorem discover_cases (b : Backend σ) (maxPerProfile owner : Nat) (s : σ) :
    Discovery maxPerProfile ((discover maxPerProfile owner).trace b s)
      ((discover maxPerProfile owner).run b s).1 := by
  simp only [discover, Procedure.call, Procedure.bind_ask, Procedure.bind_done,
    Procedure.run_ask, Procedure.trace_ask]
  cases (b.answer .agents s).1 with
  | error cause => exact .unlisted cause
  | ok agents =>
    dsimp only
    cases gpus : agents.filter AgentInfo.isGpu with
    | nil => exact .noGpus agents gpus
    | cons gpu others =>
      have none : ∀ a ∈ ([] : List AgentSampler), a.New maxPerProfile := List.forall_mem_nil _
      rcases openAll_cases b maxPerProfile owner (gpu :: others) none (b.answer .agents s).2 with
        ⟨added, infos, new, ended, events⟩ | ⟨added, gpu', others', cause, infos, ended, events⟩
      · dsimp only
        rw [ended, events]
        refine .found agents ⟨added⟩ (gpus.trans infos.symm) ?_ new
        rintro rfl
        cases infos
      · dsimp only
        rw [ended, events]
        exact .refused agents added gpu' others' cause (gpus.trans infos)

end Registry

/-! ## What a discovery does to contexts and configurations -/

/-- Events that first only open contexts and then close these again, the last first. -/
def Undone (events : List Event) : Prop :=
  ∃ opening closing, events = opening ++ closing ∧ allClosed opening = [] ∧
    allOpened closing = [] ∧ allClosed closing = (allOpened opening).reverse

theorem Undone.closed {events : List Event} (h : Undone events) :
    allClosed events = (allOpened events).reverse := by
  obtain ⟨opening, closing, rfl, noneClosed, noneOpened, closes⟩ := h
  rw [allClosed_append, allOpened_append, noneClosed, noneOpened, List.nil_append,
    List.append_nil, closes]

/-- What was added to a list without repeats is taken out again. -/
theorem diff_added {live added : List ContextId} (distinct : (live ++ added).Nodup) :
    (live ++ added).diff added.reverse = live := by
  obtain ⟨-, -, apart⟩ := List.nodup_append.1 distinct
  rw [distinct.sdiff_eq_filter, List.filter_append]
  have kept : live.filter (· ∉ added.reverse) = live := by
    apply List.filter_eq_self.2
    intro context mem
    have other : context ∉ added := fun new => apart context mem context new rfl
    simpa using other
  have gone : added.filter (· ∉ added.reverse) = [] := by
    apply List.filter_eq_nil_iff.2
    intro context mem
    simpa using mem
  rw [kept, gone, List.append_nil]

/-- After events that were undone the same contexts are live as before. -/
theorem Undone.live {live : σ → List ContextId} {events : List Event} {s' : σ} (h : Undone events)
    (books : b.Lists live s) (answered : b.Answers s events s') : live s' = live s := by
  obtain ⟨opening, closing, rfl, noneClosed, noneOpened, closes⟩ := h
  obtain ⟨t, before, after⟩ := answered.split
  obtain ⟨opened, distinct⟩ := books opening t before
  rw [liveAfter_opened noneClosed] at opened
  rw [opened] at distinct
  rw [((books.later before) closing s' after).1, liveAfter_closed noneOpened, opened, closes]
  exact diff_added distinct

namespace Discovery

variable {events : List Event} {result : Except SamplerError Registry}

/-- A discovery asks for no configuration. -/
theorem uneventful (h : Discovery maxPerProfile events result) : Uneventful events := by
  apply uneventful_of_spares
  have opens (samplers : List AgentSampler) :
      ∀ e ∈ samplers.map AgentSampler.opens, e.call.isConfigCall = false :=
    List.forall_mem_map.2 fun _ _ => rfl
  have closes (samplers : List AgentSampler) :
      ∀ e ∈ samplers.map AgentSampler.closes, e.call.isConfigCall = false :=
    List.forall_mem_map.2 fun _ _ => rfl
  cases h with
  | unlisted cause => exact List.forall_mem_singleton.2 rfl
  | noGpus agents gpus => exact List.forall_mem_singleton.2 rfl
  | refused agents opened gpu others cause gpus =>
    refine List.forall_mem_cons.2 ⟨rfl, List.forall_mem_append.2 ⟨opens opened, ?_⟩⟩
    exact List.forall_mem_cons.2 ⟨rfl, closes opened.reverse⟩
  | found agents r gpus some new => exact List.forall_mem_cons.2 ⟨rfl, opens r.samplers⟩

/-- A discovery that fails undoes what it did. -/
theorem undone {e : SamplerError} (h : Discovery maxPerProfile events (.error e)) :
    Undone events := by
  cases h with
  | unlisted cause => exact ⟨_, [], (List.append_nil _).symm, rfl, rfl, rfl⟩
  | noGpus agents gpus => exact ⟨_, [], (List.append_nil _).symm, rfl, rfl, rfl⟩
  | refused agents opened gpu others cause gpus =>
    obtain ⟨opens, none⟩ := opens_contexts opened
    obtain ⟨noMore, closes⟩ := closes_contexts opened.reverse
    refine ⟨⟨.agents, .ok agents⟩ :: opened.map AgentSampler.opens, _, rfl, none, noMore, ?_⟩
    change allClosed (opened.reverse.map AgentSampler.closes) =
      (allOpened (opened.map AgentSampler.opens)).reverse
    rw [closes, opens, contextsOf, contextsOf, List.map_reverse]

/-- A discovery that succeeds opens the contexts of its registry and closes none. -/
theorem opened {r : Registry} (h : Discovery maxPerProfile events (.ok r)) :
    allOpened events = r.contexts ∧ allClosed events = [] := by
  cases h with
  | found agents r gpus some new => exact opens_contexts r.samplers

/-- A discovery finds no agents exactly if agents are listed and none of them is a GPU. -/
theorem noAgents_iff {listed : Except BackendError (List AgentInfo)}
    (h : Discovery maxPerProfile (⟨.agents, listed⟩ :: events) result) :
    result = .error .noAgents ↔
      ∃ agents, listed = .ok agents ∧ agents.filter AgentInfo.isGpu = [] := by
  cases h with
  | unlisted cause => exact ⟨nofun, nofun⟩
  | noGpus agents gpus => exact ⟨fun _ => ⟨agents, rfl, gpus⟩, fun _ => rfl⟩
  | refused agents opened gpu others cause gpus =>
    refine ⟨nofun, ?_⟩
    rintro ⟨agents', same, none⟩
    cases same
    rw [gpus] at none
    cases (List.append_eq_nil_iff.1 none).2
  | found agents r gpus some new =>
    refine ⟨nofun, ?_⟩
    rintro ⟨agents', same, none⟩
    cases same
    rw [gpus] at none
    exact absurd (List.map_eq_nil_iff.1 none) some

end Discovery

namespace Registry

/-- Closing a registry destroys the contexts of its samplers, the last first, and no others. -/
theorem close_contexts {live : σ → List ContextId} (books : b.Lists live s) (r : Registry)
    (elsewhere : Nat → Nat → Bool) :
    allClosed ((r.close elsewhere).trace b s) = r.contexts.reverse ∧
      live ((r.close elsewhere).run b s).2 = (live s).filter (· ∉ r.contexts) := by
  obtain ⟨opened, closed⟩ := closeAll_contexts b elsewhere r.samplers s
  refine ⟨closed, ?_⟩
  rw [books.run, Registry.close, liveAfter_closed opened, closed, books.nodup.sdiff_eq_filter]
  exact List.filter_congr fun _ _ => decide_eq_decide.2 (not_congr List.mem_reverse)

/-- On any backend that keeps its books, discovery goes in one of the ways of `Discovery` and asks
for no configuration. If it fails, what it opened it has closed again, and the same contexts are
live as before. If it succeeds, the contexts of the registry are live besides those from before, all
of them different; and whatever is asked then, closing the registry destroys exactly them. -/
theorem discover_all_or_none (b : Backend σ) {live : σ → List ContextId} (books : b.Lists live s)
    (maxPerProfile owner : Nat) :
    let events := (discover maxPerProfile owner).trace b s
    let result := ((discover maxPerProfile owner).run b s).1
    let s' := ((discover maxPerProfile owner).run b s).2
    Discovery maxPerProfile events result ∧ Uneventful events ∧
    (result = .error .noAgents ↔
      ∃ agents, (b.answer .agents s).1 = .ok agents ∧ agents.filter AgentInfo.isGpu = []) ∧
    (∀ e, result = .error e → allClosed events = (allOpened events).reverse ∧ live s' = live s) ∧
    ∀ r, result = .ok r →
      allOpened events = r.contexts ∧ allClosed events = [] ∧
      live s' = live s ++ r.contexts ∧ (live s').Nodup ∧
      ∀ (used : Registry) (asked : List Event) (t : σ) (elsewhere : Nat → Nat → Bool),
        used.contexts = r.contexts → b.Answers s' asked t →
        allClosed ((used.close elsewhere).trace b t) = r.contexts.reverse ∧
        live ((used.close elsewhere).run b t).2 = (live t).filter (· ∉ r.contexts) := by
  intro events result s'
  have ways : Discovery maxPerProfile events result := discover_cases b maxPerProfile owner s
  have answered : b.Answers s events s' := Procedure.answers_trace b _ s
  refine ⟨ways, ways.uneventful, ways.noAgents_iff, ?_, ?_⟩
  · intro e failed
    rw [failed] at ways
    exact ⟨ways.undone.closed, ways.undone.live books answered⟩
  · intro r found
    rw [found] at ways
    obtain ⟨opened, closed⟩ := ways.opened
    obtain ⟨all, distinct⟩ := books events s' answered
    rw [liveAfter_opened closed, opened] at all
    refine ⟨opened, closed, all, distinct, ?_⟩
    intro used asked t elsewhere same later
    rw [← same]
    exact close_contexts ((books.later answered).later later) used elsewhere

/-- A device with a CPU and three GPUs, two of which have the same number. -/
def twins : Device.Builder :=
  let gpu (id : AgentId) : AgentInfo := ⟨id, .gpu, "gfx942", 0, 128, 1⟩
  (((Device.Builder.cpu {} ⟨0⟩).agent (gpu ⟨4⟩)).agent (gpu ⟨4⟩)).agent (gpu ⟨2⟩)

/-- Where the context of the last GPU is refused, those of the others are closed again. Where none
is refused, there are three, and they are closed with the registry. -/
theorem discover_all_or_none_twins :
    let refusing := ({ badContexts := [⟨2⟩] } : Overlay).backend twins.device.backend
    let willing := ({} : Overlay).backend twins.device.backend
    let live := fun x : Device.State => x.contexts.keys
    let p := discover 8 0
    refusing.Lists live twins.initial ∧ willing.Lists live twins.initial ∧
    (p.run refusing twins.initial).1 = .error (.backend Overlay.contextUnavailable) ∧
    allClosed (p.trace refusing twins.initial) = [⟨2⟩, ⟨1⟩] ∧
    live (p.run refusing twins.initial).2 = [] ∧
    ∃ r, (p.run willing twins.initial).1 = .ok r ∧ r.contexts = [⟨1⟩, ⟨2⟩, ⟨3⟩] ∧
      live (p.run willing twins.initial).2 = [⟨1⟩, ⟨2⟩, ⟨3⟩] ∧
      live ((r.close fun _ _ => false).run willing (p.run willing twins.initial).2).2 = [] := by
  intro refusing willing live p
  have numbered : twins.initial.Numbered := (Device.reached_initial twins).numbered
  have refusingBooks : refusing.Lists live twins.initial := Overlay.lists twins.device _ numbered
  have willingBooks : willing.Lists live twins.initial := Overlay.lists twins.device _ numbered
  obtain ⟨-, -, -, failed, -⟩ := discover_all_or_none refusing refusingBooks 8 0
  obtain ⟨-, -, -, -, found⟩ := discover_all_or_none willing willingBooks 8 0
  obtain ⟨closed, asBefore⟩ := failed (.backend Overlay.contextUnavailable) rfl
  obtain ⟨opened, -, all, -, closing⟩ := found _ rfl
  refine ⟨refusingBooks, willingBooks, rfl, closed, asBefore, _, rfl, opened.symm, all, ?_⟩
  exact (closing _ [] _ (fun _ _ => false) rfl rfl).2

end Registry

end CounterSampling
