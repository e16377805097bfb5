import CounterSampling.Backend

/-!
# Which calls a procedure can make

`Procedure.Ensures P Q` says that every call a procedure can make has the property `P`, and every
result the property `Q`, whatever the calls are answered. It is read off the tree of calls and
speaks of no device. On a device it says that only calls with `P` are made, and that what these
calls leave alone is left alone.
-/

namespace CounterSampling

namespace Procedure

variable {σ α β γ : Type}

/-- Every call that the procedure can make has the property `P`, and every result the property
`Q`. -/
def Ensures (P : Call → Prop) (Q : α → Prop) : Procedure α → Prop
  | .done a => Q a
  | .ask c next => P c ∧ ∀ r, (next r).Ensures P Q

variable {P P' : Call → Prop} {Q : α → Prop}

theorem Ensures.mono {Q' : α → Prop} {p : Procedure α} (h : p.Ensures P Q)
    (calls : ∀ c, P c → P' c) (results : ∀ a, Q a → Q' a) : p.Ensures P' Q' := by
  induction p with
  | done a => exact results a h
  | ask c next ih => exact ⟨calls c h.1, fun r => ih r (h.2 r)⟩

theorem ensures_any (p : Procedure α) : p.Ensures (fun _ => True) fun _ => True := by
  induction p with
  | done a => trivial
  | ask c next ih => exact ⟨trivial, ih⟩

theorem ensures_call {c : Call} (h : P c) : (call c).Ensures P fun _ => True :=
  ⟨h, fun _ => trivial⟩

theorem Ensures.bind {Q' : β → Prop} {p : Procedure α} {f : α → Procedure β} (h : p.Ensures P Q)
    (hf : ∀ a, Q a → (f a).Ensures P Q') : (p >>= f).Ensures P Q' := by
  induction p with
  | done a => exact hf a h
  | ask c next ih => exact ⟨h.1, fun r => ih r (h.2 r)⟩

/-- Only the results that there can be count for what follows. -/
theorem Ensures.bind_congr {p : Procedure α} {f g : α → Procedure β} (h : p.Ensures P Q)
    (same : ∀ a, Q a → f a = g a) : p >>= f = p >>= g := by
  induction p with
  | done a => exact same a h
  | ask c next ih => exact congrArg (Procedure.ask c) (funext fun r => ih r (h.2 r))

theorem Ensures.and {Q' : α → Prop} {p : Procedure α} (h : p.Ensures P Q) (h' : p.Ensures P' Q') :
    p.Ensures P fun a => Q a ∧ Q' a := by
  induction p with
  | done a => exact ⟨h, h'⟩
  | ask c next ih => exact ⟨h.1, fun r => ih r (h.2 r) (h'.2 r)⟩

/-- The result on a backend is among those that can be. -/
theorem Ensures.result {p : Procedure α} (h : p.Ensures P Q) (b : Backend σ) (s : σ) :
    Q (p.run b s).1 := by
  induction p generalizing s with
  | done a => exact h
  | ask c next ih => exact ih _ (h.2 _) _

/-- The calls made on a backend are among those that can be made. -/
theorem Ensures.of_mem_calls {p : Procedure α} (h : p.Ensures P Q) (b : Backend σ) (s : σ)
    {c : Call} (made : c ∈ p.calls b s) : P c := by
  induction p generalizing s with
  | done a => cases made
  | ask c' next ih =>
    rcases List.mem_cons.1 made with rfl | later
    · exact h.1
    · exact ih _ (h.2 _) _ later

/-- A part of the state that each of the calls leaves alone, the procedure leaves alone. -/
theorem Ensures.run_eq {p : Procedure α} (h : p.Ensures P Q) (b : Backend σ) {f : σ → γ}
    (same : ∀ c s, P c → f (b.answer c s).2 = f s) (s : σ) : f (p.run b s).2 = f s := by
  induction p generalizing s with
  | done a => rfl
  | ask c next ih => exact (ih _ (h.2 _) _).trans (same c s h.1)

end Procedure

open Procedure

variable {τ ε α β γ κ : Type}

/-- Steps with a state of their own whose calls all have the property `P` and which leave the part
`part` of that state alone. -/
def StepsOnly (P : Call → Prop) (part : τ → κ) (m : StateT τ Procedure α) : Prop :=
  ∀ t, (m.run t).Ensures P fun x => part x.2 = part t

variable {P P' : Call → Prop} {part : τ → κ}

theorem StepsOnly.mono {m : StateT τ Procedure α} (h : StepsOnly P part m)
    (calls : ∀ c, P c → P' c) : StepsOnly P' part m :=
  fun t => (h t).mono calls fun _ => id

/-- Steps that leave a part alone leave a part of that part alone. -/
theorem StepsOnly.narrow {lesser : τ → γ} {m : StateT τ Procedure α} (h : StepsOnly P part m)
    (g : κ → γ) (within : ∀ t, lesser t = g (part t)) : StepsOnly P lesser m := by
  intro t
  refine (h t).mono (fun _ => id) fun x same => ?_
  rw [within, within, same]

theorem StepsOnly.bind {m : StateT τ Procedure α} {f : α → StateT τ Procedure β}
    (h : StepsOnly P part m) (hf : ∀ a, StepsOnly P part (f a)) : StepsOnly P part (m >>= f) := by
  intro t
  refine (h t).bind fun x hx => ?_
  exact (hf x.1 x.2).mono (fun _ => id) fun y hy => hy.trans hx

theorem stepsOnly_pure (a : α) : StepsOnly P part (pure a : StateT τ Procedure α) :=
  fun _ => rfl

theorem stepsOnly_get : StepsOnly P part (get : StateT τ Procedure τ) :=
  fun _ => rfl

theorem stepsOnly_modify {f : τ → τ} (same : ∀ t, part (f t) = part t) :
    StepsOnly P part (modify f : StateT τ Procedure PUnit) :=
  same

theorem stepsOnly_lift {Q : α → Prop} {p : Procedure α} (h : p.Ensures P Q) :
    StepsOnly P part (liftM p : StateT τ Procedure α) :=
  fun _ => h.bind fun _ _ => rfl

/-! The same for steps that may fail. -/

theorem StepsOnly.bindOk {m : ExceptT ε (StateT τ Procedure) α}
    {f : α → ExceptT ε (StateT τ Procedure) β} (h : StepsOnly P part m.run)
    (hf : ∀ a, StepsOnly P part (f a).run) : StepsOnly P part (m >>= f).run := by
  refine h.bind fun r => ?_
  cases r with
  | ok a => exact hf a
  | error e => exact stepsOnly_pure (Except.error e)

/-- What comes of steps in a row, given what comes of the first of them. -/
theorem ensures_bindOk {m : ExceptT ε (StateT τ Procedure) α}
    {f : α → ExceptT ε (StateT τ Procedure) β} {t : τ} {R : Except ε β × τ → Prop}
    (h : (m.run.run t).Ensures P fun x =>
      match x.1 with
      | .ok a => ((f a).run.run x.2).Ensures P R
      | .error e => R (.error e, x.2)) : ((m >>= f).run.run t).Ensures P R := by
  rw [ExceptT.run_bind, StateT.run_bind]
  refine h.bind fun x hx => ?_
  obtain ⟨r, t'⟩ := x
  cases r with
  | ok a => exact hx
  | error e => exact hx

theorem stepsOnly_ok (a : α) : StepsOnly P part (pure a : ExceptT ε (StateT τ Procedure) α).run :=
  fun _ => rfl

theorem stepsOnly_throw (e : ε) :
    StepsOnly P part (throw e : ExceptT ε (StateT τ Procedure) α).run :=
  fun _ => rfl

theorem stepsOnly_getOk : StepsOnly P part (get : ExceptT ε (StateT τ Procedure) τ).run :=
  fun _ => rfl

theorem stepsOnly_modifyOk {f : τ → τ} (same : ∀ t, part (f t) = part t) :
    StepsOnly P part (modify f : ExceptT ε (StateT τ Procedure) PUnit).run :=
  same

theorem stepsOnly_liftOk {m : StateT τ Procedure α} (h : StepsOnly P part m) :
    StepsOnly P part (liftM m : ExceptT ε (StateT τ Procedure) α).run :=
  h.bind fun _ => stepsOnly_pure _

end CounterSampling
