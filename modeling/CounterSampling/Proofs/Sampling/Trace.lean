import CounterSampling.Proofs.Calls

/-!
# What is asked and answered

A trace lists the calls a procedure makes on a backend together with their answers. Replaying its
calls one after another leads to the state in which the procedure ends.
-/

namespace CounterSampling

/-- A call and what it was answered. -/
structure Event where
  call : Call
  answer : call.Answer

variable {σ α β : Type}

namespace Procedure

/-- The calls a procedure makes on a backend and their answers, in order. -/
def trace (b : Backend σ) : Procedure α → σ → List Event
  | .done _, _ => []
  | .ask c next, s =>
    let r := b.answer c s
    ⟨c, r.1⟩ :: (next r.1).trace b r.2

@[simp] theorem trace_done (b : Backend σ) (a : α) (s : σ) : (Procedure.done a).trace b s = [] :=
  rfl

@[simp] theorem trace_ask (b : Backend σ) (c : Call) (next : c.Answer → Procedure α) (s : σ) :
    (Procedure.ask c next).trace b s =
      ⟨c, (b.answer c s).1⟩ :: (next (b.answer c s).1).trace b (b.answer c s).2 := rfl

/-- The trace of two procedures in a row is that of the first and then that of the second. -/
theorem trace_bind (b : Backend σ) (p : Procedure α) (f : α → Procedure β) (s : σ) :
    (p >>= f).trace b s = p.trace b s ++ (f (p.run b s).1).trace b (p.run b s).2 := by
  induction p generalizing s with
  | done a => rfl
  | ask c next ih => exact congrArg (_ :: ·) (ih _ _)

theorem trace_bindOk {τ ε : Type} (b : Backend σ) (m : ExceptT ε (StateT τ Procedure) α)
    (f : α → ExceptT ε (StateT τ Procedure) β) (t : τ) (s : σ) :
    ((m >>= f).run.run t).trace b s =
      (m.run.run t).trace b s ++
        let y := (m.run.run t).run b s
        match y.1.1 with
        | .ok a => ((f a).run.run y.1.2).trace b y.2
        | .error _ => [] := by
  simp only [ExceptT.run_bind, StateT.run_bind, trace_bind]
  generalize (m.run.run t).run b s = y
  obtain ⟨⟨r, t'⟩, s'⟩ := y
  cases r <;> rfl

/-- A procedure among steps with a state of their own is asked and answered the same. -/
theorem trace_lift {τ : Type} (b : Backend σ) (p : Procedure α) (t : τ) (s : σ) :
    ((liftM p : StateT τ Procedure α).run t).trace b s = p.trace b s := by
  rw [StateT.run_monadLift, monadLift_self, trace_bind]
  exact List.append_nil _

theorem map_call_trace (b : Backend σ) (p : Procedure α) (s : σ) :
    (p.trace b s).map Event.call = p.calls b s := by
  induction p generalizing s with
  | done a => rfl
  | ask c next ih => exact congrArg (c :: ·) (ih _ _)

theorem Ensures.of_mem_trace {P : Call → Prop} {Q : α → Prop} {p : Procedure α}
    (h : p.Ensures P Q) (b : Backend σ) (s : σ) {e : Event} (made : e ∈ p.trace b s) :
    P e.call := by
  apply h.of_mem_calls b s
  rw [← map_call_trace]
  exact List.mem_map_of_mem made

end Procedure

/-- From one state to another, a backend answers the calls of some events as the events say. -/
def Backend.Answers (b : Backend σ) : σ → List Event → σ → Prop
  | s, [], s' => s = s'
  | s, ev :: evs, s' =>
    (b.answer ev.call s).1 = ev.answer ∧ b.Answers (b.answer ev.call s).2 evs s'

theorem Procedure.answers_trace (b : Backend σ) (p : Procedure α) (s : σ) :
    b.Answers s (p.trace b s) (p.run b s).2 := by
  induction p generalizing s with
  | done a => rfl
  | ask c next ih => exact ⟨rfl, ih _ _⟩

section Answers

variable {b : Backend σ} {s t s' : σ} {events more : List Event}

/-- Events that follow others are answered from the state that these lead to. -/
theorem Backend.Answers.split (h : b.Answers s (events ++ more) s') :
    ∃ t, b.Answers s events t ∧ b.Answers t more s' := by
  induction events generalizing s with
  | nil => exact ⟨s, rfl, h⟩
  | cons e events ih =>
    obtain ⟨same, later⟩ := h
    obtain ⟨t, before, after⟩ := ih later
    exact ⟨t, ⟨same, before⟩, after⟩

theorem Backend.Answers.append (h : b.Answers s events t) (h' : b.Answers t more s') :
    b.Answers s (events ++ more) s' := by
  induction events generalizing s with
  | nil =>
    obtain rfl : s = t := h
    exact h'
  | cons e events ih => exact ⟨h.1, ih h.2⟩

end Answers

end CounterSampling
