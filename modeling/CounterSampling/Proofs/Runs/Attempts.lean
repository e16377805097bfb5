import CounterSampling.Proofs.Runs.FailureTexts
import CounterSampling.Proofs.Runs.Turns
import Mathlib.Data.List.Forall2

/-!
# Attempts and sections

In a run every agent is sampled again and again until an attempt succeeds or none is left. However
the agents take turns and whatever the device answers, the sections of the report stand in the order
of the registry, and each tells what came of the attempts of its own agent: the values of the one
that succeeded, or why the last one failed. Main statement: `run_report`.
-/

namespace CounterSampling

namespace Run

/-- One attempt to sample an agent: what it asked and was answered, and how it ended. -/
structure Attempt where
  events : List Event
  result : Except Failure SampleOutput

/-- Attempts one after another, from a sampler to the sampler that they leave. -/
inductive Attempts (counters : List String) : Sampler → List Attempt → Sampler → Prop
  | none (e : Sampler) : Attempts counters e [] e
  | next {e e' e'' : Sampler} {x : Attempt} {rest : List Attempt}
    (first : ((Sampler.sample counters).run.run e).Goes x.events (x.result, e'))
    (later : Attempts counters e' rest e'') : Attempts counters e (x :: rest) e''

/-- However often a sampler is used, its failures are worded for the same agents. -/
theorem Attempts.worded {counters : List String} {e e' : Sampler} {attempts : List Attempt}
    (h : Attempts counters e attempts e') : ∀ x ∈ attempts, ∀ f, x.result = .error f →
      f.Worded e.agent e.catalog.agent f.attemptText := by
  induction h with
  | none e => nofun
  | @next e e' e'' x rest first later ih =>
    obtain ⟨same, fails⟩ := (Sampler.sample_fails counters e).goes first
    refine List.forall_mem_cons.2 ⟨fails, fun y mem f failed => ?_⟩
    have ⟨agent, lister⟩ := Prod.mk.inj same
    exact agent ▸ lister ▸ ih y mem f failed

/-- What an attempt that ended like this counts as. -/
def attemptOutcome (r : Except Failure SampleOutput) (stats : CacheStats) : AgentOutcome :=
  match r with
  | .ok output => .ok (output, stats)
  | .error f => .error f.attemptText

theorem run_attempt (counters : List String) (e : Sampler) :
    (attempt counters).run e = (Sampler.sample counters).run.run e >>= fun y =>
      .done (attemptOutcome y.1 y.2.stats, y.2) := by
  simp only [attempt, StateT.run_bind]
  refine congrArg _ (funext fun y => ?_)
  obtain ⟨r, e'⟩ := y
  cases r <;> rfl

/-- Sample an agent, and up to `more` times again. -/
abbrev tries (counters : List String) (more delay : Nat) : StateT Sampler Procedure AgentOutcome :=
  retryFrom (attempt counters) (fun _ => pure ()) more delay

theorem run_tries_zero (counters : List String) (delay : Nat) (e : Sampler) :
    (tries counters 0 delay).run e = (attempt counters).run e := rfl

theorem run_tries_succ (counters : List String) (more delay : Nat) (e : Sampler) :
    (tries counters (more + 1) delay).run e = (attempt counters).run e >>= fun y =>
      match y.1 with
      | .ok a => .done (.ok a, y.2)
      | .error _ => (tries counters more (nextPause delay)).run y.2 := by
  simp only [tries, retryFrom, StateT.run_bind]
  refine congrArg _ (funext fun y => ?_)
  obtain ⟨r, e'⟩ := y
  cases r <;> rfl

/-- An agent's part of a run leaves its sampler and what came of the attempts. -/
theorem run_task (config : RunConfig) (a : AgentSampler) :
    task config a =
      (tries config.counterList (max config.retries.toNat 1 - 1) config.retryDelayMs.toNat).run
        a.sampler >>= fun y => .done (y.1, { a with sampler := y.2 }) := rfl

/-- What came of attempts of which there may be `limit`: all but the last failed, and the last one
is a success or uses up the limit. -/
inductive Settled : Nat → List Attempt → AgentOutcome → Prop
  | succeeds {more : Nat} (es : List Event) (output : SampleOutput) (stats : CacheStats) :
    Settled (more + 1) [⟨es, .ok output⟩] (.ok (output, stats))
  | fails (es : List Event) (f : Failure) : Settled 1 [⟨es, .error f⟩] (.error f.attemptText)
  | again {limit : Nat} {rest : List Attempt} {outcome : AgentOutcome} (es : List Event)
    (f : Failure) (later : Settled limit rest outcome) :
    Settled (limit + 1) (⟨es, .error f⟩ :: rest) outcome

/-- What is tried are attempts, and they settle what comes of the agent. -/
theorem tries_settled {counters : List String} {more delay : Nat} {e e' : Sampler}
    {es : List Event} {outcome : AgentOutcome}
    (goes : ((tries counters more delay).run e).Goes es (outcome, e')) :
    ∃ attempts, Attempts counters e attempts e' ∧ attempts.flatMap Attempt.events = es ∧
      Settled (more + 1) attempts outcome := by
  induction more generalizing delay e es with
  | zero =>
    rw [run_tries_zero, run_attempt, Procedure.goes_bind] at goes
    obtain ⟨first, _, ⟨r, e₁⟩, rfl, sampled, rfl, same⟩ := goes
    obtain ⟨rfl, rfl⟩ := Prod.mk.inj same
    refine ⟨[⟨first, r⟩], .next sampled (.none _), ?_, ?_⟩
    · simp
    · cases r with
      | ok output => exact .succeeds first output _
      | error f => exact .fails first f
  | succ more ih =>
    rw [run_tries_succ, run_attempt, Procedure.bind_assoc, Procedure.goes_bind] at goes
    obtain ⟨first, rest, ⟨r, e₁⟩, rfl, sampled, later⟩ := goes
    cases r with
    | ok output =>
      obtain ⟨rfl, same⟩ := later
      obtain ⟨rfl, rfl⟩ := Prod.mk.inj same
      exact ⟨[⟨first, .ok output⟩], .next sampled (.none _), by simp, .succeeds first output _⟩
    | error f =>
      obtain ⟨attempts, chain, rfl, settled⟩ := ih later
      exact ⟨⟨first, .error f⟩ :: attempts, .next sampled chain, by simp, .again first f settled⟩

/-- What a section says about an agent with this sampler whose attempts, of which there may be
`limit`, went like this. -/
structure Describes (g : GpuReport) (info : AgentInfo) (e : Sampler) (limit : Nat)
    (attempts : List Attempt) : Prop where
  gpuId : g.gpuId = toString info.gpuId.toNat
  renderId : g.renderId = toString info.renderMinor.toNat
  logicalNode : g.logicalNode = toString info.logicalNode.toNat
  within : attempts.length ≤ limit
  ok_iff : g.isOk = true ↔ ∃ x ∈ attempts, x.result.isOk = true
  /-- The first success is the last attempt, and the section carries its output: for each counter a
  text that shows its value, and the names that were left out. -/
  ok : ∀ x ∈ attempts, ∀ output, x.result = .ok output → attempts.getLast? = some x ∧
    g.metrics = (output.values.entries.map fun v => ⟨v.1, formatValue v.2⟩) ∧
    List.Forall₂ (fun v m => m.field = v.1 ∧ Shows (.ofFloat v.2) m.value) output.values.entries
      g.metrics ∧
    g.dropped = output.unpackable ∧ g.unsupported = output.unsupported ∧ g.error = none
  /-- Without a success no attempt is left, and the section carries the error of the last one, in
  words. -/
  failed : g.isOk = false → attempts.length = limit ∧
    (∃ x f text, attempts.getLast? = some x ∧ x.result = .error f ∧
      f.Worded e.agent e.catalog.agent text ∧ g.error = some text) ∧
    g.metrics = [] ∧ g.dropped = [] ∧ g.unsupported = []

/-- Texts that are made of values show them. -/
theorem forall₂_shows (values : List (String × Float)) :
    List.Forall₂ (fun v m => m.field = v.1 ∧ Shows (.ofFloat v.2) m.value) values
      (values.map fun v => (⟨v.1, formatValue v.2⟩ : Metric)) := by
  induction values with
  | nil => exact .nil
  | cons v values ih => exact .cons ⟨rfl, shows_formatValue v.2⟩ ih

/-- The section made of an outcome describes the attempts that settled it. -/
theorem Settled.describes {limit : Nat} {attempts : List Attempt} {outcome : AgentOutcome}
    (h : Settled limit attempts outcome) (info : AgentInfo) {e : Sampler}
    (worded : ∀ x ∈ attempts, ∀ f, x.result = .error f →
      f.Worded e.agent e.catalog.agent f.attemptText) :
    Describes (sectionOf info outcome) info e limit attempts := by
  induction h with
  | succeeds es output stats =>
    refine ⟨rfl, rfl, rfl, Nat.le_add_left 1 _, ?_, ?_, nofun⟩
    · exact ⟨fun _ => ⟨_, List.mem_singleton_self _, rfl⟩, fun _ => rfl⟩
    · intro x mem output' ended
      cases List.mem_singleton.1 mem
      cases ended
      exact ⟨rfl, rfl, forall₂_shows _, rfl, rfl, rfl⟩
  | fails es f =>
    refine ⟨rfl, rfl, rfl, Nat.le_refl 1, ⟨nofun, ?_⟩, ?_, fun _ => ?_⟩
    · rintro ⟨x, mem, ok⟩
      cases List.mem_singleton.1 mem
      cases ok
    · intro x mem output ended
      cases List.mem_singleton.1 mem
      cases ended
    · exact ⟨rfl, ⟨_, f, _, rfl, rfl, worded _ List.mem_cons_self f rfl, rfl⟩, rfl, rfl, rfl⟩
  | @again limit rest outcome es f later ih =>
    have ih := ih fun x mem => worded x (List.mem_cons_of_mem _ mem)
    have nonempty : rest ≠ [] := by cases later <;> exact List.cons_ne_nil _ _
    have last : (⟨es, .error f⟩ :: rest : List Attempt).getLast? = rest.getLast? := by
      rw [List.getLast?_cons, List.getLast?_eq_some_getLast nonempty]
      rfl
    refine ⟨ih.gpuId, ih.renderId, ih.logicalNode, Nat.succ_le_succ ih.within, ?_, ?_, ?_⟩
    · rw [ih.ok_iff]
      constructor
      · rintro ⟨x, mem, ok⟩
        exact ⟨x, List.mem_cons_of_mem _ mem, ok⟩
      · rintro ⟨x, mem, ok⟩
        rcases List.mem_cons.1 mem with rfl | mem
        · cases ok
        · exact ⟨x, mem, ok⟩
    · intro x mem output ended
      rcases List.mem_cons.1 mem with rfl | mem
      · cases ended
      · rw [last]
        exact ih.ok x mem output ended
    · intro ended
      rw [last, List.length_cons]
      obtain ⟨length, rest'⟩ := ih.failed ended
      exact ⟨congrArg Nat.succ length, rest'⟩

theorem length_sections (r : Result) : r.sections.length = r.outcomes.length :=
  List.length_map _

theorem allFailed_iff (r : RunReport) :
    r.allFailed = true ↔ r.sections ≠ [] ∧ ∀ g ∈ r.sections, g.isOk = false := by
  rw [RunReport.allFailed, RunReport.failedCount, Bool.and_eq_true, beq_iff_eq,
    List.countP_eq_length]
  simp

section Sections

variable {σ : Type} (b : Backend σ) (registry : Registry) (config : RunConfig) (schedule : List Nat)
  (s : σ)

/-- The attempts that the agent with this number and this sampler makes in a run: its part of what
is asked and answered there. -/
def Made (i : Nat) (e : Sampler) (turns : List (Nat × Event)) (attempts : List Attempt) : Prop :=
  (run registry config schedule).trace b s =
    ⟨.simulated, (b.answer .simulated s).1⟩ :: turns.map Prod.snd ∧
  (∃ e', Attempts config.counterList e attempts e') ∧
  attempts.flatMap Attempt.events = Procedure.eventsOf i turns

/-- There is one section for each sampler, and it describes the attempts that its agent makes. -/
theorem sections_describe :
    ∃ turns : List (Nat × Event),
      (run registry config schedule).trace b s =
        ⟨.simulated, (b.answer .simulated s).1⟩ :: turns.map Prod.snd ∧
      ((run registry config schedule).run b s).1.sections.length = registry.samplers.length ∧
      ∀ i a, registry.samplers[i]? = some a → ∃ g attempts,
        ((run registry config schedule).run b s).1.sections[i]? = some g ∧
        Made b registry config schedule s i a.sampler turns attempts ∧
        Describes g a.info a.sampler (max 1 config.retries.toNat) attempts := by
  obtain ⟨turns, trace, taken⟩ := run_turns b registry config schedule s
  unfold Made
  generalize ((run registry config schedule).run b s).1 = result at taken
  have length : result.sections.length = registry.samplers.length := by
    rw [length_sections, taken.length_eq, List.length_map]
  refine ⟨turns, trace, length, fun i a there => ?_⟩
  have task_there : (registry.samplers.map (task config))[i]? = some (task config a) := by
    rw [List.getElem?_map, there, Option.map_some]
  obtain ⟨⟨outcome, a'⟩, found, goes⟩ := taken.goes task_there
  rw [run_task, Procedure.goes_bind] at goes
  obtain ⟨es, _, ⟨outcome', e'⟩, events, tried, rfl, same⟩ := goes
  obtain ⟨rfl, rfl⟩ := Prod.mk.inj same
  obtain ⟨attempts, chain, made, settled⟩ := tries_settled tried
  rw [List.append_nil] at events
  refine ⟨sectionOf a.info outcome, attempts, ?_, ⟨trace, ⟨e', chain⟩, made.trans events.symm⟩, ?_⟩
  · rw [Result.sections, List.getElem?_map, found, Option.map_some]
  · have limit : max config.retries.toNat 1 - 1 + 1 = max 1 config.retries.toNat := by omega
    rw [limit] at settled
    exact settled.describes a.info chain.worded

/-- Where a section tells of a failed stage, the agent made all attempts, and the last of them
failed at that stage. -/
theorem last_attempt {i : Nat} {a : AgentSampler} (there : registry.samplers[i]? = some a)
    {g : GpuReport}
    (stands : ((run registry config schedule).run b s).1.sections[i]? = some g)
    (failed : g.isOk = false) {stage : SamplingStage} {cause : BackendError}
    (tells : g.error = some (SamplerError.sampling a.sampler.agent stage cause).message) :
    ∃ turns attempts last, Made b registry config schedule s i a.sampler turns attempts ∧
      attempts.length = max 1 config.retries.toNat ∧ attempts.getLast? = some last ∧
      last.result = .error (.error (.sampling a.sampler.agent stage cause)) := by
  obtain ⟨turns, -, -, all⟩ := sections_describe b registry config schedule s
  obtain ⟨g', attempts, stands', made, described⟩ := all i a there
  obtain rfl := Option.some.inj (stands.symm.trans stands')
  obtain ⟨length, ⟨last, f, text, is_last, ended, worded, error⟩, -⟩ := described.failed failed
  rw [tells] at error
  have same := worded.text_eq.trans (Option.some.inj error).symm
  exact ⟨turns, attempts, last, made, length, is_last, worded.eq_sampling same ▸ ended⟩

end Sections

/-- The report of a run, whatever the device answers and however the agents take turns: there is one
section for each sampler, in the order of the registry, and it describes the attempts that the agent
made with what it was answered in the run. -/
theorem run_report {σ : Type} (b : Backend σ) (registry : Registry) (config : RunConfig)
    (schedule : List Nat) (s : σ) (host : Option String) (timestamp : String) :
    let report := ((run registry config schedule).run b s).1.report config host timestamp
    ∃ turns : List (Nat × Event),
      (run registry config schedule).trace b s =
        ⟨.simulated, (b.answer .simulated s).1⟩ :: turns.map Prod.snd ∧
      report.sections.length = registry.samplers.length ∧
      (∀ i a, registry.samplers[i]? = some a → ∃ g attempts e',
        report.sections[i]? = some g ∧
        Attempts config.counterList a.sampler attempts e' ∧
        attempts.flatMap Attempt.events = Procedure.eventsOf i turns ∧
        Describes g a.info a.sampler (max 1 config.retries.toNat) attempts) ∧
      (report.allFailed = true ↔
        (∀ g ∈ report.sections, g.isOk = false) ∧ registry.samplers ≠ []) := by
  obtain ⟨turns, trace, length, all⟩ := sections_describe b registry config schedule s
  refine ⟨turns, trace, length, fun i a there => ?_, ?_⟩
  · obtain ⟨g, attempts, stands, ⟨-, ⟨e', chain⟩, made⟩, described⟩ := all i a there
    exact ⟨g, attempts, e', stands, chain, made, described⟩
  · rw [allFailed_iff, and_comm]
    refine and_congr Iff.rfl (not_congr ?_)
    change ((run registry config schedule).run b s).1.sections = [] ↔ _
    rw [← List.length_eq_zero_iff, length, List.length_eq_zero_iff]

end Run

end CounterSampling
