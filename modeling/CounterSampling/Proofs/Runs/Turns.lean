import CounterSampling.Proofs.Sampling.Trace
import CounterSampling.Run

/-!
# Taking turns

`Turns` is every way in which procedures can take turns on one backend, call by call, until all of
them have ended. Carrying procedures out in order and interleaving them by a schedule are two such
ways, so what holds of all turns holds of both, and every way comes of a schedule. Seen from one of
the procedures, the others are part of how its calls are answered: it makes its calls and ends as
the answers lead it to, which is what `Goes` says.
-/

namespace CounterSampling

namespace Procedure

variable {σ α β : Type}

/-- Answered as in the events, the procedure makes just their calls and ends with the result. -/
def Goes : Procedure α → List Event → α → Prop
  | .done a, es, r => es = [] ∧ r = a
  | .ask c next, es, r => ∃ answer rest, es = ⟨c, answer⟩ :: rest ∧ (next answer).Goes rest r

/-- Two procedures in a row go as the first and then as the second. -/
theorem goes_bind {p : Procedure α} {f : α → Procedure β} {es : List Event} {r : β} :
    (p >>= f).Goes es r ↔
      ∃ first rest a, es = first ++ rest ∧ p.Goes first a ∧ (f a).Goes rest r := by
  induction p generalizing es with
  | done a =>
    constructor
    · intro goes
      exact ⟨[], es, a, rfl, ⟨rfl, rfl⟩, goes⟩
    · rintro ⟨_, rest, _, rfl, ⟨rfl, rfl⟩, goes⟩
      exact goes
  | ask c next ih =>
    constructor
    · rintro ⟨answer, later, rfl, goes⟩
      obtain ⟨first, rest, a, rfl, goes, then'⟩ := (ih answer).1 goes
      exact ⟨⟨c, answer⟩ :: first, rest, a, rfl, ⟨answer, first, rfl, goes⟩, then'⟩
    · rintro ⟨_, rest, a, rfl, ⟨answer, first, rfl, goes⟩, then'⟩
      exact ⟨answer, first ++ rest, rfl, (ih answer).2 ⟨first, rest, a, rfl, goes, then'⟩⟩

/-- What every result has, the result has that the answers lead to. -/
theorem Ensures.goes {P : Call → Prop} {Q : α → Prop} {p : Procedure α}
    (h : p.Ensures P Q) {es : List Event} {r : α} (goes : p.Goes es r) : Q r := by
  induction p generalizing es with
  | done a => exact goes.2 ▸ h
  | ask c next ih =>
    obtain ⟨answer, rest, -, goes⟩ := goes
    exact ih answer (h.2 answer) goes

/-- Procedures take turns on a backend: whose turn it was and what was asked and answered, then the
results and the state in which all have ended. -/
inductive Turns (b : Backend σ) :
    List (Procedure α) → σ → List (Nat × Event) → List α → σ → Prop
  | ended (results : List α) (s : σ) : Turns b (results.map .done) s [] results s
  | turn {ps : List (Procedure α)} {s s' : σ} {turns : List (Nat × Event)} {results : List α}
    {i : Nat} {c : Call} {next : c.Answer → Procedure α} (there : ps[i]? = some (.ask c next))
    (rest : Turns b (ps.set i (next (b.answer c s).1)) (b.answer c s).2 turns results s') :
    Turns b ps s ((i, ⟨c, (b.answer c s).1⟩) :: turns) results s'

/-- What one of the procedures asked and was answered. -/
def eventsOf (i : Nat) (turns : List (Nat × Event)) : List Event :=
  turns.filterMap fun t => if t.1 = i then some t.2 else none

variable {b : Backend σ} {ps : List (Procedure α)} {s s' : σ} {turns : List (Nat × Event)}
  {results : List α}

theorem eventsOf_own (i : Nat) (e : Event) (turns : List (Nat × Event)) :
    eventsOf i ((i, e) :: turns) = e :: eventsOf i turns :=
  List.filterMap_cons_some (if_pos rfl)

theorem eventsOf_other {i j : Nat} (other : j ≠ i) (e : Event) (turns : List (Nat × Event)) :
    eventsOf i ((j, e) :: turns) = eventsOf i turns :=
  List.filterMap_cons_none (if_neg other)

/-- Each procedure goes as its turns say. -/
theorem Turns.goes (h : Turns b ps s turns results s') {i : Nat} {p : Procedure α}
    (there : ps[i]? = some p) : ∃ a, results[i]? = some a ∧ p.Goes (eventsOf i turns) a := by
  induction h generalizing p with
  | ended results s =>
    rw [List.getElem?_map] at there
    obtain ⟨a, found, rfl⟩ := Option.map_eq_some_iff.1 there
    exact ⟨a, found, rfl, rfl⟩
  | @turn ps s s' turns results j c next there' rest ih =>
    by_cases own : j = i
    · subst own
      have inside : j < ps.length := (List.getElem?_eq_some_iff.1 there').1
      have p_eq := Option.some.inj (there.symm.trans there')
      obtain ⟨a, found, goes⟩ := ih (List.getElem?_set_self inside)
      refine ⟨a, found, ?_⟩
      rw [p_eq, eventsOf_own]
      exact ⟨_, _, rfl, goes⟩
    · obtain ⟨a, found, goes⟩ := ih (p := p) (by rw [List.getElem?_set_ne own, there])
      refine ⟨a, found, ?_⟩
      rw [eventsOf_other own]
      exact goes

theorem Turns.length_eq (h : Turns b ps s turns results s') : results.length = ps.length := by
  induction h with
  | ended results s => rw [List.length_map]
  | turn there rest ih => rw [ih, List.length_set]

/-- A procedure that has ended takes no turn. -/
theorem Turns.cons_done (h : Turns b ps s turns results s') (a : α) :
    Turns b (.done a :: ps) s (turns.map fun t => (t.1 + 1, t.2)) (a :: results) s' := by
  induction h with
  | ended results s => exact .ended (a :: results) s
  | @turn ps s s' turns results i c next there rest ih =>
    exact .turn (i := i + 1) (by rw [List.getElem?_cons_succ, there]) ih

/-- The first procedure may take all its turns before the others. -/
theorem Turns.cons_run {p : Procedure α}
    (h : Turns b (.done (p.run b s).1 :: ps) (p.run b s).2 turns results s') :
    Turns b (p :: ps) s ((p.trace b s).map (fun e => (0, e)) ++ turns) results s' := by
  induction p generalizing s with
  | done a => exact h
  | ask c next ih => exact .turn (i := 0) rfl (ih _ h)

/-- Procedures carried out in order take turns. -/
theorem inOrder_turns (b : Backend σ) (ps : List (Procedure α)) (s : σ) :
    ∃ turns, (inOrder ps).trace b s = turns.map Prod.snd ∧
      Turns b ps s turns ((inOrder ps).run b s).1 ((inOrder ps).run b s).2 := by
  induction ps generalizing s with
  | nil => exact ⟨[], rfl, .ended [] s⟩
  | cons p ps ih =>
    obtain ⟨turns, trace, rest⟩ := ih (p.run b s).2
    have all := (rest.cons_done (p.run b s).1).cons_run
    simp only [inOrder, run_bind, trace_bind]
    refine ⟨_, ?_, all⟩
    simp only [trace, pure_eq, trace_done, List.append_nil, List.map_append, List.map_map,
      Function.comp_def, List.map_id']

/-- Procedures interleaved by a schedule take turns. -/
theorem interleave_turns (b : Backend σ) (schedule : List Nat) (ps : List (Procedure α)) (s : σ) :
    ∃ turns, (interleave schedule ps).trace b s = turns.map Prod.snd ∧
      Turns b ps s turns ((interleave schedule ps).run b s).1
        ((interleave schedule ps).run b s).2 := by
  induction schedule generalizing ps s with
  | nil => exact inOrder_turns b ps s
  | cons i schedule ih =>
    simp only [interleave]
    cases there : ps[i]? with
    | none => exact ih ps s
    | some p =>
      cases p with
      | done a =>
        -- The one whose turn it is has ended, and the turn is lost.
        have same : ps.set i (.done a) = ps := by
          obtain ⟨inside, found⟩ := List.getElem?_eq_some_iff.1 there
          rw [← found, List.set_getElem_self inside]
        simp only [step, bind_done, same]
        exact ih ps s
      | ask c next =>
        obtain ⟨turns, trace, rest⟩ := ih (ps.set i (next (b.answer c s).1)) (b.answer c s).2
        simp only [step, bind_ask, bind_done, trace_ask, run_ask]
        exact ⟨_, congrArg _ trace, .turn there rest⟩

theorem run_inOrder_done (b : Backend σ) (results : List α) (s : σ) :
    (inOrder (results.map .done)).run b s = (results, s) := by
  induction results with
  | nil => rfl
  | cons a results ih =>
    simp only [List.map_cons, inOrder, bind_done, run_bind, ih]
    rfl

/-- Every way of taking turns comes of a schedule: the one that says whose turn it is each time. -/
theorem Turns.scheduled (h : Turns b ps s turns results s') :
    (interleave (turns.map Prod.fst) ps).run b s = (results, s') := by
  induction h with
  | ended results s => exact run_inOrder_done b results s
  | turn there rest ih =>
    simp only [List.map_cons, interleave, there, step, bind_ask, bind_done, run_ask]
    exact ih

end Procedure

namespace Run

/-- The tasks of a run as one procedure. -/
def tasks (registry : Registry) (config : RunConfig) (schedule : List Nat) :
    Procedure (List (AgentOutcome × AgentSampler)) :=
  if config.parallel then Procedure.interleave schedule (registry.samplers.map (task config))
  else Procedure.inOrder (registry.samplers.map (task config))

theorem run_eq (registry : Registry) (config : RunConfig) (schedule : List Nat) :
    run registry config schedule = .ask .simulated fun simulated =>
      tasks registry config schedule >>= fun outcomes => .done ⟨outcomes, simulated⟩ := by
  unfold run tasks
  cases config.parallel <;> rfl

/-- A run asks whether the device is simulated, and then its tasks take turns. -/
theorem run_turns {σ : Type} (b : Backend σ) (registry : Registry) (config : RunConfig)
    (schedule : List Nat) (s : σ) :
    let asked := b.answer .simulated s
    ∃ turns, (run registry config schedule).trace b s =
        ⟨.simulated, asked.1⟩ :: turns.map Prod.snd ∧
      Procedure.Turns b (registry.samplers.map (task config)) asked.2 turns
        ((run registry config schedule).run b s).1.outcomes
        ((run registry config schedule).run b s).2 := by
  simp only [run_eq, Procedure.trace_ask, Procedure.run_ask, Procedure.trace_bind,
    Procedure.run_bind, Procedure.trace_done, Procedure.run_done, List.append_nil, List.cons.injEq,
    true_and]
  unfold tasks
  split
  · exact Procedure.interleave_turns b schedule _ _
  · exact Procedure.inOrder_turns b _ _

end Run

end CounterSampling
