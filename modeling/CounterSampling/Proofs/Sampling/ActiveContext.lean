import CounterSampling.Device.Builder
import CounterSampling.Proofs.Sampling.Activity
import CounterSampling.Proofs.Sampling.ContextCalls

/-!
# When a context stays active

A profile is started and stopped within one call of a sampler, so between calls the context should
be idle. It is, unless a call ends abnormally because there is no buffer for the records of a
profile: the buffer is allocated after the start, and then nothing stops the context.
-/

namespace CounterSampling

/-- Whether a bind was refused for being a rebind of an active context. -/
def Event.refusesRebind : Event → Bool
  | ⟨.bindConfig _ _, .error e⟩ => decide (e = Device.cannotRebind)
  | _ => false

theorem Event.not_refusesRebind {ev : Event} (builds : ev.call.Builds) :
    ev.refusesRebind = false := by
  obtain ⟨c, answer⟩ := ev
  cases c with
  | bindConfig context config => exact builds.elim
  | _ => rfl

namespace Sampler

variable {α β : Type}

/-- What some events and their result mean for a context. An active one stays active, and no call
about it succeeds. An idle one is active afterwards just if the result is an abnormal end, and none
of its binds is refused as a rebind. -/
structure Tracks (context : ContextId) (s s' : Device.State) (evs : List Event)
    (r : Except Failure α) : Prop where
  active : s.activity context = some true → s'.activity context = some true ∧
    ∀ ev ∈ evs, ev.call.isContextCall = true → ev.succeeded = false
  idle : s.activity context = some false →
    s'.activity context = some (aborted r) ∧ ∀ ev ∈ evs, ev.refusesRebind = false

section ProfileRun

variable {d : Device} {agent : AgentId} {context : ContextId} {p : Profile} {evs : List Event}
  {r : Except Failure (List Record)} {s s' : Device.State}

/-- Whatever is read and whatever the stop is answered, a context that was started is idle. -/
theorem idle_of_started (buffer : List Record)
    (started : (Device.startContext context s).1 = .ok ()) :
    (Device.stopContext context
      (d.readRecords context buffer (Device.startContext context s).2).2).2.activity context =
        some false := by
  have active := Device.startContext_activity.1 started
  have read := (d.readRecords_activity context buffer).trans active
  exact Device.stopContext_activity read

/-- A context that can be bound is not active. -/
theorem Tracks.of_bound {config : ConfigId}
    (bound : (Device.bindConfig context config s).1 = .ok ())
    (idle : s.activity context = some false → s'.activity context = some (aborted r))
    (allowed : ∀ ev ∈ evs, ev.refusesRebind = false) : Tracks context s s' evs r := by
  refine ⟨fun active => ?_, fun h => ⟨idle h, allowed⟩⟩
  obtain ⟨e, refused⟩ := Device.bindConfig_active active config
  rw [refused] at bound
  cases bound

theorem ProfileRun.tracks (h : ProfileRun agent context p evs r)
    (answers : d.backend.Answers s evs s') : Tracks context s s' evs r := by
  cases h with
  | bindFails e =>
    obtain ⟨bound, rfl⟩ := answers
    have same : (Device.bindConfig context p.config s).2.activity context = s.activity context :=
      Device.bindConfig_activity context p.config
    refine ⟨fun active => ⟨same.trans active, ?_⟩, fun idle => ⟨same.trans idle, ?_⟩⟩
    · intro ev mem _
      rw [List.mem_singleton.1 mem]
      rfl
    · intro ev mem
      rw [List.mem_singleton.1 mem]
      have allowed := Device.bindConfig_idle idle p.config
      rw [show (Device.bindConfig context p.config s).1 = .error e from bound] at allowed
      exact decide_eq_false fun refused => allowed (congrArg Except.error refused)
  | startFails e =>
    obtain ⟨bound, started, rfl⟩ := answers
    refine .of_bound bound (fun idle => ?_) (by simp [Event.refusesRebind])
    have same := Device.startContext_activity.2 e started
    exact same.trans ((Device.bindConfig_activity context p.config).trans idle)
  | tooLarge large =>
    obtain ⟨bound, started, rfl⟩ := answers
    refine .of_bound bound (fun idle => ?_) (by simp [Event.refusesRebind])
    exact Device.startContext_activity.1 started
  | readFails read e failed stopped =>
    obtain ⟨bound, started, -, -, rfl⟩ := answers
    refine .of_bound bound (fun idle => ?_) (by simp [Event.refusesRebind])
    exact idle_of_started _ started
  | stopFails read n counted e =>
    obtain ⟨bound, started, -, -, rfl⟩ := answers
    refine .of_bound bound (fun idle => ?_) (by simp [Event.refusesRebind])
    exact idle_of_started _ started
  | completes read n counted =>
    obtain ⟨bound, started, -, -, rfl⟩ := answers
    refine .of_bound bound (fun idle => ?_) (by simp [Event.refusesRebind])
    exact idle_of_started _ started

end ProfileRun

/-- Some steps of a sampler track its context on every simulated device. -/
def Tracked (m : SamplerM α) : Prop :=
  ∀ (d : Device) (e : Sampler) (s : Device.State),
    ((m.run.run e).run d.backend s).1.2.context = e.context ∧
    Tracks e.context s ((m.run.run e).run d.backend s).2 ((m.run.run e).trace d.backend s)
      ((m.run.run e).run d.backend s).1.1

theorem tracked_pure (a : α) : Tracked (pure a : SamplerM α) := by
  intro d e s
  exact ⟨rfl, fun active => ⟨active, nofun⟩, fun idle => ⟨idle, nofun⟩⟩

theorem Tracked.bind {m : SamplerM α} {f : α → SamplerM β} (h : Tracked m)
    (hf : ∀ a, Tracked (f a)) : Tracked (m >>= f) := by
  intro d e s
  have first := h d e s
  rw [Procedure.run_bindOk, Procedure.trace_bindOk]
  dsimp only
  generalize (m.run.run e).trace d.backend s = evs at first ⊢
  generalize (m.run.run e).run d.backend s = y at first ⊢
  obtain ⟨⟨r, e'⟩, s'⟩ := y
  obtain ⟨context, tracks⟩ := first
  cases r with
  | error f =>
    rw [List.append_nil]
    refine ⟨context, tracks.active, fun idle => ?_⟩
    have same : aborted (.error f : Except Failure α) = aborted (.error f : Except Failure β) :=
      aborted_error f
    exact same ▸ tracks.idle idle
  | ok a =>
    obtain ⟨context', tracks'⟩ := hf a d e' s'
    dsimp only at context tracks
    rw [context] at tracks'
    refine ⟨context'.trans context, fun active => ?_, fun idle => ?_⟩
    · obtain ⟨active', fails⟩ := tracks.active active
      obtain ⟨stays, fails'⟩ := tracks'.active active'
      exact ⟨stays, List.forall_mem_append.2 ⟨fails, fails'⟩⟩
    · obtain ⟨idle', allowed⟩ := tracks.idle idle
      obtain ⟨ends, allowed'⟩ := tracks'.idle idle'
      exact ⟨ends, List.forall_mem_append.2 ⟨allowed, allowed'⟩⟩

theorem tracked_of_builds {m : SamplerM α} (builds : StepsOnly Call.Builds Sampler.context m.run)
    (ends : ∀ e, (m.run.run e).Ensures (fun _ => True) fun y => aborted y.1 = false) :
    Tracked m := by
  intro d e s
  have same := (builds e).run_eq d.backend (f := fun s => s.activity e.context)
    (fun c s made => d.answer_activity made) s
  have made := fun ev => (builds e).of_mem_trace d.backend s (e := ev)
  refine ⟨(builds e).result d.backend s, fun active => ⟨same.trans active, ?_⟩,
    fun idle => ⟨?_, ?_⟩⟩
  · intro ev mem contextCall
    exact absurd contextCall (made ev mem).not_isContextCall
  · rw [(ends e).result d.backend s]
    exact same.trans idle
  · intro ev mem
    exact Event.not_refusesRebind (made ev mem)

theorem sampleProfile_tracked (p : Profile) : Tracked (sampleProfile p) := by
  intro d e s
  have run := runProfile_run d.backend e.agent e.context p s
  have answers := (runProfile e.agent e.context p).answers_trace d.backend s
  rw [run_sampleProfile, Procedure.run_bind, Procedure.trace_bind]
  rw [Procedure.trace_done, Procedure.run_done, List.append_nil]
  exact ⟨rfl, run.tracks answers⟩

theorem addRecords_tracked (values : NameMap Float) (rs : List Record) :
    Tracked (addRecords values rs) := by
  have builds : StepsOnly Call.Builds Sampler.context (addRecords values rs).run :=
    ((addRecords_inquires values rs).mono fun _ => Call.IsInquiry.builds).narrow
      (fun b => b.2.1) fun _ => rfl
  apply tracked_of_builds builds
  intro e
  refine (addRecords_ensures values rs e).mono (fun _ _ => trivial) fun y => ?_
  rintro ⟨-, names, -, result⟩
  rw [result]
  rfl

theorem sampleProfiles_tracked (values : NameMap Float) (ps : List Profile) :
    Tracked (sampleProfiles values ps) := by
  induction ps generalizing values with
  | nil => exact tracked_pure values
  | cons p ps ih =>
    exact (sampleProfile_tracked p).bind fun records =>
      (addRecords_tracked values records).bind fun values => ih values

theorem profileSet_tracked (counters : List String) : Tracked (profileSet counters) :=
  tracked_of_builds (profileSet_builds counters) (profileSet_ends counters)

theorem single_tracked (agent : AgentId) (counters : List String) :
    Tracked (withCache fun cache => cache.getOrCreateSingle counters fun names =>
      (buildSingle agent names).run) :=
  tracked_of_builds (single_builds agent counters) (withCache_ends _)

theorem sample_tracked (counters : List String) : Tracked (sample counters) :=
  (profileSet_tracked counters).bind fun set =>
    (sampleProfiles_tracked .empty set.value.profiles).bind fun _ => tracked_pure _

theorem sampleRecords_tracked (counters : List String) : Tracked (sampleRecords counters) := by
  intro d e s
  unfold sampleRecords
  rw [Procedure.run_bind_getOk]
  exact ((single_tracked e.agent counters).bind fun p => sampleProfile_tracked p.value) d e s

/-! ## Abnormal ends -/

/-- An abnormal end is due to a profile that the cache holds and that is too large. -/
theorem sample_ends (counters : List String) (e : Sampler) :
    ((sample counters).run.run e).Ensures (fun _ => True) fun y =>
      aborted y.1 = true → ∃ p ∈ y.2.cache.profiles, TooLarge p := by
  apply ensures_bindOk
  refine ((profileSet_kept counters e).and (profileSet_ends counters e)).mono (fun _ => id) ?_
  rintro ⟨r, e'⟩ ⟨kept, ends⟩
  cases r with
  | error f =>
    intro ended
    rw [aborted_error, ends] at ended
    cases ended
  | ok x =>
    have there := kept x rfl
    apply ensures_bindOk
    have sampled := (sampleProfiles_ends .empty x.value.profiles e').and
      (sampleProfiles_calls .empty x.value.profiles e')
    refine sampled.mono (fun _ => id) ?_
    rintro ⟨r, e''⟩ ⟨ends, same⟩
    cases r with
    | ok values => exact nofun
    | error f =>
      intro ended
      obtain ⟨p, mem, large⟩ := ends (aborted_error f ▸ ended)
      have cache : e''.cache = e'.cache := congrArg (fun b => b.2.2.1) same
      rw [cache]
      exact ⟨p, List.mem_append_left _ (List.mem_flatMap.2 ⟨x, there, mem⟩), large⟩

theorem sampleRecords_ends (counters : List String) (e : Sampler) :
    ((sampleRecords counters).run.run e).Ensures (fun _ => True) fun y =>
      aborted y.1 = true → ∃ p ∈ y.2.cache.profiles, TooLarge p := by
  unfold sampleRecords
  rw [Procedure.run_bind_getOk]
  apply ensures_bindOk
  refine ((single_kept e.agent counters e).and (withCache_ends _ e)).mono (fun _ => id) ?_
  rintro ⟨r, e'⟩ ⟨kept, ends⟩
  cases r with
  | error f =>
    intro ended
    rw [aborted_error, ends] at ended
    cases ended
  | ok x =>
    have there := kept x rfl
    dsimp only
    rw [run_sampleProfile]
    refine ((runProfile_calls e'.agent e'.context x.value).mono (fun _ _ => trivial)
      fun _ => id).bind ?_
    intro r large ended
    exact ⟨x.value, List.mem_append_right _ (List.mem_map_of_mem there), large ended⟩

/-! ## Requests -/

/-- What a sampler is asked for. -/
inductive Request where
  /-- The values of counters. -/
  | values (counters : List String)
  /-- The records of counters in one profile. -/
  | records (counters : List String)

def Request.steps : Request → SamplerM Unit
  | .values counters => do
    let _ ← sample counters
    return ()
  | .records counters => do
    let _ ← sampleRecords counters
    return ()

theorem Request.steps_tracked (q : Request) : Tracked q.steps := by
  cases q with
  | values counters => exact (sample_tracked counters).bind fun _ => tracked_pure ()
  | records counters => exact (sampleRecords_tracked counters).bind fun _ => tracked_pure ()

theorem Request.steps_ends (q : Request) (e : Sampler) :
    (q.steps.run.run e).Ensures (fun _ => True) fun y =>
      aborted y.1 = true → ∃ p ∈ y.2.cache.profiles, TooLarge p := by
  cases q with
  | values counters =>
    apply ensures_bindOk
    refine (sample_ends counters e).mono (fun _ => id) ?_
    rintro ⟨r, e'⟩ ends
    cases r with
    | ok output => exact nofun
    | error f => exact fun ended => ends (aborted_error f ▸ ended)
  | records counters =>
    apply ensures_bindOk
    refine (sampleRecords_ends counters e).mono (fun _ => id) ?_
    rintro ⟨r, e'⟩ ends
    cases r with
    | ok records => exact nofun
    | error f => exact fun ended => ends (aborted_error f ▸ ended)

/-- What happens to a sampler and to its device. -/
inductive Occasion where
  | request (q : Request)
  /-- The next reads on an agent are made to fail. -/
  | readFailures (agent : AgentId) (times : Nat)

/-- Serve requests one after another: how each ended, with the sampler as it left it, and the
sampler and the state at the end. -/
def serve (d : Device) : List Occasion → Sampler → Device.State →
    List (Except Failure Unit × Sampler) × Sampler × Device.State
  | [], e, s => ([], e, s)
  | .request q :: os, e, s =>
    let y := (q.steps.run.run e).run d.backend s
    let rest := serve d os y.1.2 y.2
    ((y.1.1, y.1.2) :: rest.1, rest.2)
  | .readFailures agent times :: os, e, s => serve d os e (s.injectReadFailures agent times)

theorem serve_ends (d : Device) (os : List Occasion) (e : Sampler) (s : Device.State) :
    ∀ x ∈ (serve d os e s).1, aborted x.1 = true → ∃ p ∈ x.2.cache.profiles, TooLarge p := by
  induction os generalizing e s with
  | nil => exact nofun
  | cons occasion os ih =>
    cases occasion with
    | request q =>
      intro x mem
      rcases List.mem_cons.1 mem with rfl | later
      · exact (q.steps_ends e).result d.backend s
      · exact ih _ _ x later
    | readFailures agent times => exact ih e _

/-- Over many requests, an active context stays active, and an idle one becomes active if one of
them ends abnormally. -/
theorem serve_tracks (d : Device) (os : List Occasion) (e : Sampler) (s : Device.State) :
    (serve d os e s).2.1.context = e.context ∧
    (s.activity e.context = some true →
      (serve d os e s).2.2.activity e.context = some true) ∧
    (s.activity e.context = some false → (serve d os e s).2.2.activity e.context =
      some ((serve d os e s).1.any fun x => aborted x.1)) := by
  induction os generalizing e s with
  | nil => exact ⟨rfl, id, id⟩
  | cons occasion os ih =>
    cases occasion with
    | request q =>
      obtain ⟨context, tracks⟩ := q.steps_tracked d e s
      simp only [serve, List.any_cons]
      generalize (q.steps.run.run e).run d.backend s = y at context tracks ⊢
      obtain ⟨⟨r, e'⟩, s'⟩ := y
      obtain ⟨context', active, idle⟩ := ih e' s'
      dsimp only at context tracks ⊢
      rw [context] at context' active idle
      refine ⟨context', fun h => active (tracks.active h).1, fun h => ?_⟩
      have after := (tracks.idle h).1
      cases ended : aborted r with
      | true =>
        rw [ended] at after
        exact active after
      | false =>
        rw [ended] at after
        exact idle after
    | readFailures agent times =>
      have later := ih e (s.injectReadFailures agent times)
      rw [Device.injectReadFailures_activity] at later
      exact later

/-- A new sampler has an idle context. -/
theorem new_idle (d : Device) (agent : AgentId) (owner maxPerProfile : Nat) (s : Device.State) :
    match (Sampler.new agent owner maxPerProfile).run d.backend s with
    | (.error _, _) => True
    | (.ok e, s₀) => s₀.activity e.context = some false := by
  simp only [Sampler.new, Procedure.call, Procedure.bind_ask, Procedure.bind_done,
    Procedure.run_ask]
  generalize answered : d.backend.answer (.createContext agent) s = y
  change d.createContext agent s = y at answered
  rcases d.createContext_cases agent s with ⟨e, refused⟩ | created
  · rw [← answered, refused]
    trivial
  · rw [← answered, created]
    change Device.State.activity _ _ = some false
    rw [Device.State.activity, Table.find?_insert, if_pos rfl, Option.map_some]

/-- After requests to a new sampler its context is active if and only if one of them ended
abnormally, which takes a profile that is too large. Until then no bind is refused because the
context is active, and from then on no call about the context succeeds. -/
theorem serve_activity (d : Device) (agent : AgentId) (owner maxPerProfile : Nat)
    (s : Device.State) (os : List Occasion) (q : Request) :
    match (Sampler.new agent owner maxPerProfile).run d.backend s with
    | (.error _, _) => True
    | (.ok e, s₀) =>
      let served := serve d os e s₀
      served.2.2.activity e.context = some (served.1.any fun x => aborted x.1) ∧
      (∀ x ∈ served.1, aborted x.1 = true → ∃ p ∈ x.2.cache.profiles, TooLarge p) ∧
      ((∀ x ∈ served.1, aborted x.1 = false) →
        ∀ ev ∈ (q.steps.run.run served.2.1).trace d.backend served.2.2,
          ev.refusesRebind = false) ∧
      ((∃ x ∈ served.1, aborted x.1 = true) →
        ∀ ev ∈ (q.steps.run.run served.2.1).trace d.backend served.2.2,
          ev.call.isContextCall = true → ev.succeeded = false) := by
  have new := new_idle d agent owner maxPerProfile s
  generalize (Sampler.new agent owner maxPerProfile).run d.backend s = y at new ⊢
  obtain ⟨r, s₀⟩ := y
  cases r with
  | error e => trivial
  | ok e =>
    obtain ⟨context, -, idle⟩ := serve_tracks d os e s₀
    have after := idle new
    have tracks := (q.steps_tracked d (serve d os e s₀).2.1 (serve d os e s₀).2.2).2
    rw [context] at tracks
    refine ⟨after, serve_ends d os e s₀, fun none => ?_, fun some => ?_⟩
    · have ended : ((serve d os e s₀).1.any fun x => aborted x.1) = false := by
        simpa using none
      rw [ended] at after
      exact (tracks.idle after).2
    · rw [List.any_eq_true.2 some] at after
      exact (tracks.active after).2

/-- A GPU with a counter that has too many records for any buffer. -/
def hugeCounter : Device.Builder :=
  let gpu : AgentInfo := ⟨⟨1⟩, .gpu, "gfx942", 10001, 128, 1⟩
  (Device.Builder.agent {} gpu).counter "HUGE" [("XCC", 576460752303423488)] 1.0

/-- An abnormal end leaves the context active, and the next request fails for that reason. -/
theorem serve_huge :
    match (Sampler.new ⟨1⟩ 0 8).run hugeCounter.device.backend hugeCounter.initial with
    | (.error _, _) => False
    | (.ok e, s₀) =>
      let first := serve hugeCounter.device [.request (.records ["HUGE"])] e s₀
      let second := serve hugeCounter.device [.request (.records ["HUGE"])] first.2.1 first.2.2
      first.1.map Prod.fst = [.error (.abort .capacity)] ∧
      first.2.2.activity e.context = some true ∧
      second.1.map Prod.fst = [.error (.error (.sampling ⟨1⟩ .bind Device.cannotRebind))] := by
  exact ⟨rfl, rfl, rfl⟩

end Sampler

end CounterSampling
