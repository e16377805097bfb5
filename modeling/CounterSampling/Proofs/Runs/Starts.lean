import CounterSampling.Proofs.Runs.Independence
import CounterSampling.Proofs.Sampling.ContextCalls
import Mathlib.Algebra.BigOperators.Group.Finset.Piecewise

/-!
# How often contexts are started

A simulated device counts the starts that succeed. They can be read off what was asked and answered,
so the starts of a run are those of its tasks together, however these take turns, and sampling a set
starts a context once for each profile. Main statements: `Turns.starts` and `sample_starts`.
-/

namespace CounterSampling

/-- A context was started. -/
def Event.isStart : Event → Bool
  | ⟨.startContext _, started⟩ => started.isOk
  | _ => false

theorem Event.isStart_rename (f : ConfigId → ConfigId) (e : Event) :
    (e.rename f).isStart = e.isStart := by
  obtain ⟨c, r⟩ := e
  cases c <;> rfl

theorem Event.isContextCall_of_isStart {e : Event} (start : e.isStart = true) :
    e.call.isContextCall = true := by
  obtain ⟨c, r⟩ := e
  cases c <;> first | rfl | cases start

/-- A call counts as a start just if it is answered as one. -/
theorem Device.answer_starts (d : Device) (c : Call) (s : Device.State) :
    (d.answer c s).2.starts =
      s.starts + if (⟨c, (d.answer c s).1⟩ : Event).isStart = true then 1 else 0 := by
  cases c with
  | startContext context =>
    change (startContext context s).2.starts =
      s.starts + if (startContext context s).1.isOk = true then 1 else 0
    rcases startContext_cases context s with ⟨e, budgets, failed⟩ | ⟨ctx, -, -, started⟩
    · rw [failed]
      rfl
    · rw [started]
      rfl
  | bindConfig context config =>
    change (bindConfig context config s).2.starts = _
    rcases bindConfig_cases context config s with ⟨e, budgets, same, -⟩ | ⟨ctx, -, -, bound⟩
    · rw [same]
      rfl
    · rw [bound]
      rfl
  | stopContext context =>
    change (stopContext context s).2.starts = _
    rcases stopContext_cases context s with ⟨-, e, same⟩ | ⟨ctx, r, budgets, -, stopped⟩
    · rw [same]
      rfl
    · rw [stopped]
      rfl
  | readRecords context buffer =>
    obtain ⟨budgets, same⟩ := d.readRecords_budgets context buffer s
    change (d.readRecords context buffer s).2.starts = _
    rw [same]
    rfl
  | tryConfigure agent ids =>
    change (d.configure agent ids s).2.starts = _
    rcases d.configure_cases agent ids s with ⟨outcome, same, -⟩ | created
    · rw [same]
      rfl
    · rw [created]
      rfl
  | destroyConfig config =>
    change (destroyConfig config s).starts = _
    unfold destroyConfig
    split <;> rfl
  | createContext agent =>
    change (d.createContext agent s).2.starts = _
    rcases d.createContext_cases agent s with ⟨cause, refused⟩ | opened
    · rw [refused]
      rfl
    · rw [opened]
      rfl
  | _ => rfl

namespace Procedure

variable {α : Type} {σ : Type} {b : Backend σ} {ps : List (Procedure α)} {s s' : σ}
  {turns : List (Nat × Event)} {results : List α}

/-- Only those who are there take turns. -/
theorem Turns.index_lt (h : Turns b ps s turns results s') : ∀ t ∈ turns, t.1 < ps.length := by
  induction h with
  | ended results s => exact nofun
  | turn there rest ih =>
    rw [List.length_set] at ih
    exact List.forall_mem_cons.2 ⟨(List.getElem?_eq_some_iff.1 there).1, ih⟩

/-- What happened in all turns happened in the turns of one or another. -/
theorem countP_turns (q : Event → Bool) {turns : List (Nat × Event)} {n : Nat}
    (within : ∀ t ∈ turns, t.1 < n) :
    (turns.map Prod.snd).countP q = ∑ i ∈ Finset.range n, (eventsOf i turns).countP q := by
  induction turns with
  | nil => exact (Finset.sum_const_zero).symm
  | cons t turns ih =>
    obtain ⟨first, later⟩ := List.forall_mem_cons.1 within
    obtain ⟨j, e⟩ := t
    have split (i : Nat) : (eventsOf i ((j, e) :: turns)).countP q =
        (eventsOf i turns).countP q + if j = i then (if q e = true then 1 else 0) else 0 := by
      by_cases own : j = i
      · rw [if_pos own, own, eventsOf_own, List.countP_cons]
      · rw [if_neg own, eventsOf_other own, Nat.add_zero]
    rw [Finset.sum_congr rfl fun i _ => split i, Finset.sum_add_distrib, ← ih later,
      Finset.sum_ite_eq, if_pos (Finset.mem_range.2 first), List.map_cons, List.countP_cons]

/-- The starts of all turns together. -/
theorem Turns.starts {d : Device} {s s' : Device.State}
    (h : Turns d.backend ps s turns results s') :
    s'.starts = s.starts + (turns.map Prod.snd).countP Event.isStart := by
  induction h with
  | ended results s => rfl
  | @turn ps s s' turns results i c next there rest ih =>
    rw [ih, show (d.backend.answer c s).2.starts = _ from d.answer_starts c s, List.map_cons,
      List.countP_cons, Nat.add_right_comm, Nat.add_assoc]
    rfl

/-- A context that no procedure uses stays as it is. -/
theorem Turns.unused {d : Device} {s s' : Device.State}
    (h : Turns d.backend ps s turns results s') {context : ContextId}
    (others : ∀ p ∈ ps, ∃ context' stock, context' ≠ context ∧ s.Issued stock ∧
      p.Manages d context' (fun _ _ => True) stock) :
    s'.contexts.find? context = s.contexts.find? context := by
  induction h with
  | ended results s => rfl
  | @turn ps s s' turns results i c next there rest ih =>
    obtain ⟨context', stock, apart, issued, proper, manages⟩ :=
      others _ (List.mem_of_getElem? there)
    refine (ih fun p mem => ?_).trans (Device.contexts_of_others proper apart)
    rcases List.mem_or_eq_of_mem_set mem with old | rfl
    · obtain ⟨context'', stock', apart', issued', manages'⟩ := others p old
      exact ⟨context'', stock', apart', issued'.others c, manages'⟩
    · exact ⟨context', _, apart, issued.answer c, manages _ (issued.allows c)⟩

end Procedure

namespace Sampler

variable {agent : AgentId} {context : ContextId} {p : Profile} {ps : List Profile}
  {es : List Event}

theorem ProfileRun.starts {rs : List Record} (h : ProfileRun agent context p es (.ok rs)) :
    es.countP Event.isStart = 1 := by
  cases h with
  | completes read n counted => rfl

/-- Sampling profiles starts a context once for each. -/
theorem SetRun.starts {rss : List (List Record)} (h : SetRun agent context ps es (.ok rss)) :
    es.countP Event.isStart = ps.length := by
  generalize contributed : Except.ok rss = contributions at h
  induction h generalizing rss with
  | done => rfl
  | fails first => cases contributed
  | @next p ps es es' rs r first rest ih =>
    cases r with
    | error f => cases contributed
    | ok rss' =>
      rw [List.countP_append, first.starts, ih rfl, List.length_cons, Nat.add_comm]

theorem countP_isStart_filter (es : List Event) :
    (es.filter fun ev => ev.call.isContextCall).countP Event.isStart =
      es.countP Event.isStart := by
  rw [List.countP_filter]
  refine List.countP_congr fun e _ => ?_
  rw [Bool.and_eq_true]
  exact ⟨And.left, fun start => ⟨start, e.isContextCall_of_isStart start⟩⟩

variable {σ : Type} {b : Backend σ} {e e₁ e' : Sampler} {s s₁ s' : σ}

/-- A request that succeeds starts a context once for each profile of its set. -/
theorem sample_starts {counters : List String} {set : Shared ProfileSet} {output : SampleOutput}
    (packed : ((profileSet counters).run.run e).run b s = ((.ok set, e₁), s₁))
    (sampled : (((sample counters).run.run e).run b s).1.1 = .ok output) :
    (((sample counters).run.run e).trace b s).countP Event.isStart =
      set.value.profiles.length := by
  have builds := profileSet_builds counters e
  have none : (((profileSet counters).run.run e).trace b s).countP Event.isStart = 0 := by
    refine List.countP_eq_zero.2 fun ev made start => ?_
    exact (builds.of_mem_trace b s made).not_isContextCall (ev.isContextCall_of_isStart start)
  obtain ⟨contributions, run, sums⟩ := sampleProfiles_run b .empty set.value.profiles e₁ s₁
  unfold sample at sampled ⊢
  rw [Procedure.run_bindOk, packed] at sampled
  rw [Procedure.trace_bindOk, packed, List.countP_append, none, Nat.zero_add]
  dsimp only at sampled ⊢
  rw [Procedure.run_bindOk] at sampled
  rw [Procedure.trace_bindOk, List.countP_append]
  unfold sampleProfileSet at sampled ⊢
  generalize ((sampleProfiles .empty set.value.profiles).run.run e₁).trace b s₁ = es at run ⊢
  generalize ((sampleProfiles .empty set.value.profiles).run.run e₁).run b s₁ = y
    at sums sampled ⊢
  obtain ⟨⟨r, e₂⟩, s₂⟩ := y
  cases r with
  | error f => cases sampled
  | ok values =>
    cases contributions with
    | error f => cases sums
    | ok rss =>
      rw [← countP_isStart_filter, run.starts]
      rfl

end Sampler

end CounterSampling
