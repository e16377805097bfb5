import CounterSampling.Proofs.Decimal.Texts
import CounterSampling.Proofs.SamplerCalls
import CounterSampling.Run

/-!
# What a failed attempt says

An attempt to sample an agent fails because the counters cannot be listed, because a stage of
sampling a profile fails, or because it ends abnormally, and its text says which: `Failure.Worded`
and `Sampler.sample_fails`. The text of a failed stage tells the agent, the stage and the cause:
`SamplerError.sampling_message_inj`.
-/

namespace CounterSampling

open Decimal (digits_toDigits digits_natAbs toDigits_inj toString_int_inj toString_eq_spelling
  mem_spelling)

/-! ## Telling texts apart -/

section Separators

variable {α : Type} {c : α} {xs xs' ys ys' : List α}

/-- What stands before and behind the first of some separators. -/
theorem append_cons_inj_first (none : c ∉ xs) (none' : c ∉ xs')
    (same : xs ++ c :: ys = xs' ++ c :: ys') : xs = xs' ∧ ys = ys' := by
  rcases List.append_eq_append_iff.1 same with ⟨as, first, second⟩ | ⟨as, first, second⟩
  · cases as with
    | nil => exact ⟨(first.trans (List.append_nil xs)).symm, (List.cons.inj second).2⟩
    | cons a as =>
      obtain rfl := (List.cons.inj second).1
      exact absurd (first ▸ List.mem_append_right xs List.mem_cons_self) none'
  · cases as with
    | nil => exact ⟨first.trans (List.append_nil xs'), (List.cons.inj second).2.symm⟩
    | cons a as =>
      obtain rfl := (List.cons.inj second).1
      exact absurd (first ▸ List.mem_append_right xs' List.mem_cons_self) none

/-- What stands before and behind the last of some separators. -/
theorem append_cons_inj_last (none : c ∉ ys) (none' : c ∉ ys')
    (same : xs ++ c :: ys = xs' ++ c :: ys') : xs = xs' ∧ ys = ys' := by
  have reversed := congrArg List.reverse same
  simp only [List.reverse_append, List.reverse_cons, List.append_assoc, List.singleton_append]
    at reversed
  have ⟨behind, before⟩ := append_cons_inj_first (by simpa using none) (by simpa using none')
    reversed
  exact ⟨List.reverse_injective before, List.reverse_injective behind⟩

end Separators

/-- The text of a cause tells its message and its status. -/
theorem BackendError.text_inj {e e' : BackendError} (same : e.text = e'.text) : e = e' := by
  have unspaced (n : Int) : ' ' ∉ (toString n).toList ++ [')'] := by
    rw [List.mem_append, not_or]
    refine ⟨fun mem => ?_, by decide⟩
    rw [toString_eq_spelling, String.toList_ofList] at mem
    exact absurd (mem_spelling (digits_natAbs n) ' ' mem) (by decide)
  have chars (e : BackendError) : e.text.toList =
      (e.message.toList ++ " (status".toList) ++ ' ' :: ((toString e.code).toList ++ [')']) := by
    have opened : " (status ".toList = " (status".toList ++ [' '] := rfl
    have closed : ")".toList = [')'] := rfl
    rw [BackendError.text, String.toList_append, String.toList_append, String.toList_append, opened,
      closed]
    simp only [List.append_assoc, List.cons_append, List.nil_append]
  have same := congrArg String.toList same
  rw [chars, chars] at same
  have ⟨messages, codes⟩ := append_cons_inj_last (unspaced e.code) (unspaced e'.code) same
  have messages := String.toList_injective (List.append_cancel_right messages)
  have codes := toString_int_inj (String.toList_injective (List.append_cancel_right codes))
  cases e
  cases e'
  cases messages
  cases codes
  rfl

/-- What a stage is called. -/
inductive SamplingStage.Named : SamplingStage → String → Prop
  | bind : Named .bind "bind profile"
  | start : Named .start "start context"
  | read : Named .read "read records"
  | stop : Named .stop "stop context"

theorem SamplingStage.named_text (stage : SamplingStage) : stage.Named stage.text := by
  cases stage with
  | bind => exact .bind
  | start => exact .start
  | read => exact .read
  | stop => exact .stop

theorem SamplingStage.Named.text_eq {stage : SamplingStage} {words : String}
    (named : stage.Named words) : stage.text = words := by
  cases named <;> rfl

theorem SamplingStage.text_inj {stage stage' : SamplingStage} (same : stage.text = stage'.text) :
    stage = stage' := by
  cases stage <;> cases stage' <;> first | rfl | exact absurd same (by decide)

namespace SamplerError

theorem message_catalog (agent : AgentId) (cause : BackendError) :
    (catalog agent cause).message =
      "counter catalog query failed on " ++ agent.text ++ ": " ++ cause.text := rfl

theorem message_sampling (agent : AgentId) (stage : SamplingStage) (cause : BackendError) :
    (sampling agent stage cause).message =
      "sampling failed on " ++ agent.text ++ " (" ++ stage.text ++ "): " ++ cause.text := rfl

/-- The text of a failed stage tells the agent, the stage and the cause. -/
theorem sampling_message_inj {agent agent' : AgentId} {stage stage' : SamplingStage}
    {cause cause' : BackendError}
    (same : (sampling agent stage cause).message = (sampling agent' stage' cause').message) :
    agent = agent' ∧ stage = stage' ∧ cause = cause' := by
  have unspaced (agent : AgentId) : ' ' ∉ Nat.toDigits 10 agent.val.toNat := by
    intro mem
    cases digits_toDigits _ ' ' mem
  have unclosed (stage : SamplingStage) : ')' ∉ stage.text.toList := by
    cases stage <;> decide
  have chars (agent : AgentId) (stage : SamplingStage) (cause : BackendError) :
      (sampling agent stage cause).message.toList =
        ("sampling failed on " ++ "agent-").toList ++ (Nat.toDigits 10 agent.val.toNat ++ ' ' ::
          '(' :: (stage.text.toList ++ ')' :: ':' :: ' ' :: cause.text.toList)) := by
    have opened : " (".toList = [' ', '('] := rfl
    have closed : "): ".toList = [')', ':', ' '] := rfl
    rw [message_sampling, AgentId.text, Nat.toString_eq_ofList_toDigits]
    simp only [String.toList_append, String.toList_ofList, List.append_assoc, opened, closed]
    rfl
  have same := congrArg String.toList same
  rw [chars, chars, List.append_cancel_left_eq] at same
  have ⟨numbers, rest⟩ := append_cons_inj_first (unspaced agent) (unspaced agent') same
  have ⟨stages, causes⟩ := append_cons_inj_first (unclosed stage) (unclosed stage')
    (List.cons.inj rest).2
  refine ⟨?_, SamplingStage.text_inj (String.toList_injective stages), BackendError.text_inj ?_⟩
  · have value := UInt64.toNat_inj.1 (toDigits_inj numbers)
    cases agent
    cases agent'
    cases value
    rfl
  · exact String.toList_injective (List.cons.inj (List.cons.inj causes).2).2

end SamplerError

/-! ## What can go wrong in an attempt -/

/-- How the failure of an attempt is worded: `agent` is the one to be sampled, and `lister` the one
whose counters are listed. -/
inductive Failure.Worded (agent lister : AgentId) : Failure → String → Prop
  | unlisted (cause : BackendError) :
    Worded agent lister (.error (.catalog lister cause))
      ("counter catalog query failed on agent-" ++ toString lister.val.toNat ++ ": " ++
        cause.message ++ " (status " ++ toString cause.code ++ ")")
  | stage {stage : SamplingStage} {words : String} (named : stage.Named words)
    (cause : BackendError) :
    Worded agent lister (.error (.sampling agent stage cause))
      ("sampling failed on agent-" ++ toString agent.val.toNat ++ " (" ++ words ++ "): " ++
        cause.message ++ " (status " ++ toString cause.code ++ ")")
  | aborted (a : Abort) : Worded agent lister (.abort a) "sampling task panicked"

namespace Failure

variable {agent lister : AgentId}

theorem attemptText_catalog (cause : BackendError) :
    attemptText (.error (.catalog lister cause)) =
      "counter catalog query failed on agent-" ++ toString lister.val.toNat ++ ": " ++
        cause.message ++ " (status " ++ toString cause.code ++ ")" := by
  have text : attemptText (.error (.catalog lister cause)) = _ := SamplerError.message_catalog _ _
  have start : "counter catalog query failed on " ++ "agent-" =
    "counter catalog query failed on agent-" := rfl
  rw [text, AgentId.text, BackendError.text]
  simp only [← String.append_assoc]
  rw [start]

theorem attemptText_sampling {stage : SamplingStage} {words : String} (named : stage.Named words)
    (cause : BackendError) :
    attemptText (.error (.sampling agent stage cause)) =
      "sampling failed on agent-" ++ toString agent.val.toNat ++ " (" ++ words ++ "): " ++
        cause.message ++ " (status " ++ toString cause.code ++ ")" := by
  have text : attemptText (.error (.sampling agent stage cause)) = _ :=
    SamplerError.message_sampling _ _ _
  have start : "sampling failed on " ++ "agent-" = "sampling failed on agent-" := rfl
  rw [text, named.text_eq, AgentId.text, BackendError.text]
  simp only [← String.append_assoc]
  rw [start]

theorem worded_catalog (cause : BackendError) :
    Worded agent lister (.error (.catalog lister cause))
      (attemptText (.error (.catalog lister cause))) := by
  rw [attemptText_catalog]
  exact .unlisted cause

theorem worded_sampling (stage : SamplingStage) (cause : BackendError) :
    Worded agent lister (.error (.sampling agent stage cause))
      (attemptText (.error (.sampling agent stage cause))) := by
  rw [attemptText_sampling stage.named_text]
  exact .stage stage.named_text cause

/-- A failure that is worded has no other text. -/
theorem Worded.text_eq {f : Failure} {text : String} (worded : Worded agent lister f text) :
    f.attemptText = text := by
  cases worded with
  | unlisted cause => exact attemptText_catalog cause
  | stage named cause => exact attemptText_sampling named cause
  | aborted a => rfl

/-- A failure that reads like that of a stage is the failure of that stage. -/
theorem Worded.eq_sampling {f : Failure} {text : String} {stage : SamplingStage}
    {cause : BackendError} (worded : Worded agent lister f text)
    (same : f.attemptText = (SamplerError.sampling agent stage cause).message) :
    f = .error (.sampling agent stage cause) := by
  have begins : (SamplerError.sampling agent stage cause).message.toList.take 10 =
      "sampling f".toList := by
    rw [SamplerError.message_sampling]
    simp only [String.toList_append, List.append_assoc]
    rfl
  rw [← same] at begins
  cases worded with
  | unlisted cause' =>
    rw [attemptText_catalog] at begins
    simp only [String.toList_append, List.append_assoc] at begins
    cases (List.cons.inj begins).1
  | stage named cause' =>
    obtain ⟨-, rfl, rfl⟩ := SamplerError.sampling_message_inj same
    rfl
  | aborted a =>
    change abortedAttempt.toList.take 10 = _ at begins
    exact absurd begins (by decide)

end Failure

/-! ## The failures of the steps of an attempt -/

section Steps

variable {τ ε κ α β : Type} {part : τ → κ} {E : κ → ε → Prop}

/-- Steps with a state of their own that leave the part `part` of it alone and can only fail in ways
that `E` allows. -/
def StepsFail (part : τ → κ) (E : κ → ε → Prop) (m : ExceptT ε (StateT τ Procedure) α) : Prop :=
  ∀ t, (m.run.run t).Ensures (fun _ => True) fun x =>
    part x.2 = part t ∧ ∀ e, x.1 = .error e → E (part t) e

theorem StepsFail.bind {m : ExceptT ε (StateT τ Procedure) α}
    {f : α → ExceptT ε (StateT τ Procedure) β} (h : StepsFail part E m)
    (hf : ∀ a, StepsFail part E (f a)) : StepsFail part E (m >>= f) := by
  intro t
  refine ensures_bindOk ((h t).mono (fun _ => id) fun x hx => ?_)
  obtain ⟨r, t'⟩ := x
  obtain ⟨same, fails⟩ := hx
  cases r with
  | error e =>
    refine ⟨same, fun e' failed => ?_⟩
    exact fails e' (congrArg Except.error (Except.error.inj failed))
  | ok a =>
    refine (hf a t').mono (fun _ => id) fun y hy => ?_
    exact ⟨hy.1.trans same, fun e failed => same ▸ hy.2 e failed⟩

theorem stepsFail_pure (a : α) :
    StepsFail part E (pure a : ExceptT ε (StateT τ Procedure) α) :=
  fun _ => ⟨rfl, nofun⟩

/-- Steps that leave the part alone and always give a result. -/
theorem stepsFail_lift {P : Call → Prop} {m : StateT τ Procedure α} (h : StepsOnly P part m) :
    StepsFail part E (liftM m : ExceptT ε (StateT τ Procedure) α) := by
  intro t
  rw [Procedure.run_liftOk]
  exact ((h t).mono (fun _ _ => trivial) fun _ => id).bind fun x same => ⟨same, nofun⟩

theorem stepsFail_get : StepsFail part E (get : ExceptT ε (StateT τ Procedure) τ) :=
  fun _ => ⟨rfl, nofun⟩

theorem stepsFail_modify {f : τ → τ} (same : ∀ t, part (f t) = part t) :
    StepsFail part E (modify f : ExceptT ε (StateT τ Procedure) PUnit) :=
  fun t => ⟨same t, nofun⟩

end Steps

namespace Catalog

/-- The failures of a catalog that cannot list its counters. -/
def Unlisted (agent : AgentId) (e : SamplerError) : Prop :=
  ∃ cause, e = .catalog agent cause

variable {α : Type}

theorem query_fails (p : Procedure (Except BackendError α)) :
    StepsFail Catalog.agent Unlisted (query p) := by
  refine (stepsFail_lift (stepsOnly_lift p.ensures_any)).bind fun r => ?_
  cases r with
  | ok a => exact stepsFail_pure a
  | error cause =>
    intro c
    rw [Procedure.run_bind_getOk, Procedure.run_throwOk]
    exact ⟨rfl, fun e failed => ⟨cause, (Except.error.inj failed).symm⟩⟩

theorem nameAll_fails (known : NameMap CounterId) (ids : List CounterId) :
    StepsFail Catalog.agent Unlisted (nameAll known ids) := by
  induction ids generalizing known with
  | nil => exact stepsFail_pure known
  | cons id ids ih =>
    refine (query_fails _).bind fun name => ?_
    refine StepsFail.bind (stepsFail_modify ?_) fun _ => ih _
    exact fun _ => rfl

theorem list_fails : StepsFail Catalog.agent Unlisted list := by
  refine stepsFail_get.bind fun c => ?_
  cases c.supported with
  | some known => exact stepsFail_pure known
  | none =>
    refine stepsFail_get.bind fun c => (query_fails _).bind fun ids => ?_
    refine (nameAll_fails _ ids).bind fun known => ?_
    refine StepsFail.bind (stepsFail_modify ?_) fun _ => stepsFail_pure known
    exact fun _ => rfl

end Catalog

theorem Packer.pack_fails (p : Packer) (request : List String) :
    StepsFail Catalog.agent Catalog.Unlisted (p.pack request) := by
  rw [pack_eq]
  refine Catalog.list_fails.bind fun known => ?_
  exact (stepsFail_lift (p.rounds_builds _ _)).bind fun _ => stepsFail_pure _

/-- A look-up fails like the factory, if it has to ask it. -/
theorem ProfileCache.getOrMake_fails {α : Type} (c : ProfileCache) (found : Option (Shared α))
    {make : CatalogM α} (h : StepsFail Catalog.agent Catalog.Unlisted make)
    (keep : ProfileCache → Shared α → ProfileCache) (t : Catalog) :
    ((c.getOrMake found make.run keep).run t).Ensures (fun _ => True) fun y =>
      y.2.agent = t.agent ∧ ∀ e, y.1.1 = .error e → Catalog.Unlisted t.agent e := by
  unfold getOrMake
  cases found with
  | some x => exact ⟨rfl, nofun⟩
  | none =>
    refine (h t).bind fun made fails => ?_
    obtain ⟨r, t'⟩ := made
    cases r with
    | ok a => exact ⟨fails.1, nofun⟩
    | error e =>
      refine ⟨fails.1, fun e' failed => fails.2 e' ?_⟩
      exact congrArg Except.error (Except.error.inj failed)

namespace Sampler

/-- The agents that the failures of a sampler name. -/
def agentPair (e : Sampler) : AgentId × AgentId :=
  (e.agent, e.catalog.agent)

/-- The failures of an attempt. -/
def Fails (pair : AgentId × AgentId) (f : Failure) : Prop :=
  f.Worded pair.1 pair.2 f.attemptText

theorem profileSet_fails (counters : List String) :
    StepsFail agentPair Fails (profileSet counters) := by
  intro e
  rw [run_profileSet, run_withCache]
  refine (e.cache.getOrMake_fails _ (Packer.pack_fails _ _) _ e.catalog).bind fun y fails => ?_
  refine ⟨congrArg (Prod.mk e.agent) fails.1, fun f failed => ?_⟩
  obtain ⟨cause', failed', rfl⟩ := mapError_eq_error.1 failed
  obtain ⟨cause, rfl⟩ := fails.2 cause' failed'
  exact Failure.worded_catalog cause

/-- A stage that fails is worded. -/
theorem atStage_fails {α : Type} {agent lister : AgentId} {stage : SamplingStage}
    {r : Except BackendError α} {f : Failure} (failed : atStage agent stage r = .error f) :
    Fails (agent, lister) f := by
  cases r with
  | ok a => cases failed
  | error cause =>
    cases failed
    exact Failure.worded_sampling stage cause

theorem recordsRead_fails {agent lister : AgentId} {buffer : List Record} {read : ReadAnswer buffer}
    {stopped : Except BackendError Unit} {f : Failure}
    (failed : recordsRead agent read stopped = .error f) : Fails (agent, lister) f := by
  unfold recordsRead at failed
  rcases bind_eq_error.1 failed with readFailed | ⟨count, -, rest⟩
  · exact atStage_fails readFailed
  rcases bind_eq_error.1 rest with stopFailed | ⟨_, -, none⟩
  · exact atStage_fails stopFailed
  · cases none

theorem runProfile_fails (agent lister : AgentId) (context : ContextId) (p : Profile) :
    (runProfile agent context p).Ensures (fun _ => True) fun r =>
      ∀ f, r = .error f → Fails (agent, lister) f := by
  refine (Procedure.ensures_any _).bind fun bound _ => ?_
  cases binding : atStage agent .bind bound with
  | error f =>
    intro f' failed
    exact Except.error.inj failed ▸ atStage_fails binding
  | ok _ =>
    refine (Procedure.ensures_any _).bind fun started _ => ?_
    cases starting : atStage agent .start started with
    | error f =>
      intro f' failed
      exact Except.error.inj failed ▸ atStage_fails starting
    | ok _ =>
      by_cases fits : Record.bytes * p.expectedSize ≤ maxBufferBytes
      · rw [allocate, if_pos fits]
        refine (Procedure.ensures_any _).bind fun read _ => ?_
        refine (Procedure.ensures_any _).bind fun stopped _ => ?_
        exact fun f failed => recordsRead_fails failed
      · rw [allocate, if_neg fits]
        intro f failed
        cases failed
        exact .aborted _

theorem sampleProfile_fails (p : Profile) : StepsFail agentPair Fails (sampleProfile p) := by
  intro e
  rw [run_sampleProfile]
  exact (runProfile_fails e.agent e.catalog.agent e.context p).bind fun r fails => ⟨rfl, fails⟩

theorem addRecords_fails (values : NameMap Float) (rs : List Record) :
    StepsFail agentPair Fails (addRecords values rs) := by
  induction rs generalizing values with
  | nil => exact stepsFail_pure values
  | cons r rs ih =>
    refine StepsFail.bind (fun e => ?_) fun name => ih _
    rw [run_nameOf]
    exact (Catalog.nameOf_names r e.catalog).mono (fun _ _ => trivial) (fun _ => id) |>.bind
      fun x same => ⟨congrArg (Prod.mk e.agent) same, nofun⟩

theorem sampleProfiles_fails (values : NameMap Float) (ps : List Profile) :
    StepsFail agentPair Fails (sampleProfiles values ps) := by
  induction ps generalizing values with
  | nil => exact stepsFail_pure values
  | cons p ps ih =>
    refine (sampleProfile_fails p).bind fun records => ?_
    exact (addRecords_fails values records).bind fun values => ih values

/-- Whatever an attempt fails with is worded. -/
theorem sample_fails (counters : List String) : StepsFail agentPair Fails (sample counters) := by
  refine (profileSet_fails counters).bind fun set => ?_
  exact (sampleProfiles_fails _ _).bind fun values => stepsFail_pure _

end Sampler

end CounterSampling
