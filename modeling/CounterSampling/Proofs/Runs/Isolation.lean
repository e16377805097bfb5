import CounterSampling.Proofs.Runs.Numbering

/-!
# Taking turns without disturbing each other

Procedures take turns on a device, each with proper calls about a context and an agent of its own.
Then each goes as it would go alone, up to the numbers of the configurations it creates: what it
asks and is answered, what it comes to, and how its context is left. Main statement:
`Turns.undisturbed`.
-/

namespace CounterSampling

open Device (SeesAlike State)

theorem Stock.after_cases (stock : Stock) (c : Call) (r : c.Answer) :
    ∀ config ∈ (stock.after c r).configs, config ∈ stock.configs ∨ c.made? r = some config := by
  intro config held
  cases c with
  | tryConfigure agent ids =>
    cases r with
    | configured config' =>
      rcases List.mem_cons.1 held with rfl | old
      · exact .inr rfl
      · exact .inl old
    | capacityExceeded => exact .inl held
    | failed e => exact .inl held
  | destroyConfig config' => exact .inl (List.map_subset Prod.fst List.filter_sublist.subset held)
  | _ => exact .inl held

/-- An event with other numbers for configurations. -/
def Event.rename (f : ConfigId → ConfigId) (e : Event) : Event :=
  ⟨e.call.rename f, e.call.renameAnswer f e.answer⟩

theorem Call.made?_rename (f : ConfigId → ConfigId) (c : Call) (r : c.Answer) :
    (c.rename f).made? (c.renameAnswer f r) = (c.made? r).map f := by
  cases c with
  | tryConfigure agent ids => cases r <;> rfl
  | _ => rfl

namespace Procedure

variable {α β : Type} {d : Device} {f : ConfigId → ConfigId} {agent : AgentId}
  {context : ContextId}

/-- A procedure that has this stock and uses the context of another agent, and that knows nothing
`f` renames something to. -/
structure UsesOther (d : Device) (f : ConfigId → ConfigId) (agent : AgentId) (context : ContextId)
    (s : State) (context' : ContextId) (owner : AgentId) (stock : Stock) (p : Procedure α) :
    Prop where
  apart : context' ≠ context
  foreign : owner ≠ agent
  given : context'.val < s.nextContext
  own : ∀ ctx, s.contexts.find? context' = some ctx → ctx.agent = owner
  issued : s.Issued stock
  unknown : ∀ config, f config ∉ stock.configs
  manages : p.Manages d context' (fun _ _ => True) stock

/-- A procedure that uses the context of another agent. -/
def Elsewhere (d : Device) (f : ConfigId → ConfigId) (agent : AgentId) (context : ContextId)
    (s : State) (p : Procedure α) : Prop :=
  ∃ context' owner stock, p.UsesOther d f agent context s context' owner stock

/-- A procedure stays elsewhere whatever others call. -/
theorem Elsewhere.others {s : State} {p : Procedure α} (h : p.Elsewhere d f agent context s)
    (c : Call) : p.Elsewhere d f agent context (d.answer c s).2 := by
  obtain ⟨context', owner, stock, uses⟩ := h
  refine ⟨context', owner, stock, uses.apart, uses.foreign, ?_, ?_, uses.issued.others c,
    uses.unknown, uses.manages⟩
  · exact Nat.lt_of_lt_of_le uses.given (d.answer_changes c s).2.next_le
  · exact d.answer_context_agent c uses.given uses.own

/-- A procedure elsewhere makes a call that does not show, and stays elsewhere. -/
theorem Elsewhere.turn {t s : State} {c : Call} {next : c.Answer → Procedure α}
    (h : (ask c next).Elsewhere d f agent context s) (sees : SeesAlike f agent context t s)
    (notMade : ∀ config, c.made? (d.answer c s).1 ≠ some (f config)) :
    SeesAlike f agent context t (d.answer c s).2 ∧
      (next (d.answer c s).1).Elsewhere d f agent context (d.answer c s).2 := by
  have later := h.others c
  obtain ⟨context', owner, stock, uses⟩ := h
  obtain ⟨proper, manages⟩ := uses.manages
  have foreign : ∀ ctx, s.contexts.find? context' = some ctx → ctx.agent ≠ agent :=
    fun ctx found => (uses.own ctx found).symm ▸ uses.foreign
  have notReleased : ∀ config, c.released? ≠ some (f config) := by
    intro config released
    cases c with
    | destroyConfig config' =>
      obtain rfl := Option.some.inj released
      exact uses.unknown config proper
    | _ => cases released
  refine ⟨sees.others proper uses.apart foreign notMade notReleased, ?_⟩
  refine ⟨context', owner, _, uses.apart, uses.foreign, ?_, ?_, uses.issued.answer c, ?_,
    manages _ (uses.issued.allows c)⟩
  · exact Nat.lt_of_lt_of_le uses.given (d.answer_changes c s).2.next_le
  · exact d.answer_context_agent c uses.given uses.own
  · intro config held
    rcases stock.after_cases c _ _ held with old | made
    · exact uses.unknown config old
    · exact notMade config made

/-- A procedure `p` among others stands where `q` stands alone: `q` is what `p` does under the
numbers it would see alone, the states look the same to it, and the renaming fits the turns that
follow. -/
structure Alongside (d : Device) (f : ConfigId → ConfigId) (agent : AgentId) (context : ContextId)
    (i : Nat) (turns : List (Nat × Event)) (g : β → α) (q : Procedure β) (t : State) (stock : Stock)
    (p : Procedure α) (s : State) : Prop where
  same : q.Renames f g p
  issued : t.Issued stock
  manages : q.Manages d context (fun _ _ => True) stock
  sees : SeesAlike f agent context t s
  fits : Fits f t.nextConfig i turns

section Alongside

variable {i : Nat} {turns : List (Nat × Event)} {g : β → α} {q : Procedure β} {t s : State}
  {stock : Stock}

/-- Both make the next call, and stand alongside each other after it. -/
theorem Alongside.turn {c : Call} {next : c.Answer → Procedure α}
    (h : Alongside d f agent context i ((i, ⟨c, (d.answer c s).1⟩) :: turns) g q t stock
      (ask c next) s) :
    ∃ c₀ next₀, q = ask c₀ next₀ ∧
      (⟨c, (d.answer c s).1⟩ : Event) = Event.rename f ⟨c₀, (d.answer c₀ t).1⟩ ∧
      Alongside d f agent context i turns g (next₀ (d.answer c₀ t).1) (d.answer c₀ t).2
        (stock.after c₀ (d.answer c₀ t).1) (next (d.answer c s).1) (d.answer c s).2 := by
  obtain ⟨same, issued, manages, sees, fits⟩ := h
  cases q with
  | done b => cases same
  | ask c₀ next₀ =>
    obtain ⟨next', equal, goesOn⟩ := same
    cases equal
    obtain ⟨proper, manages⟩ := manages
    have made_next : ∀ config, (c₀.rename f).made? (d.answer (c₀.rename f) s).1 = some config →
        f ⟨t.nextConfig⟩ = config :=
      fun config made => (fits.made made).1
    obtain ⟨answered, sees'⟩ := sees.answer (d := d) fits.injective proper made_next
    have event_made : Event.made? ⟨c₀.rename f, (d.answer (c₀.rename f) s).1⟩ =
        (c₀.made? (d.answer c₀ t).1).map f := by
      rw [← c₀.made?_rename f, ← answered]
      rfl
    have fits' : Fits f (d.answer c₀ t).2.nextConfig i turns := by
      rcases d.made?_answer c₀ t with ⟨none, number⟩ | ⟨made, number⟩
      · rw [none] at event_made
        rw [number]
        exact fits.unmade event_made
      · rw [made] at event_made
        rw [number]
        exact (fits.made event_made).2
    have renames := goesOn (d.answer c₀ t).1
    rw [← answered] at renames
    exact ⟨c₀, next₀, rfl, congrArg (Event.mk (c₀.rename f)) answered, renames, issued.answer c₀,
      manages _ (issued.allows c₀), sees', fits'⟩

end Alongside

/-- Among procedures that take turns, one comes to what it would come to alone. It is asked and
answered the same, and to it the state looks the same in the end. -/
theorem Turns.undisturbed {ps : List (Procedure α)} {s s' : State} {turns : List (Nat × Event)}
    {results : List α} (h : Turns d.backend ps s turns results s') {i : Nat} {p : Procedure α}
    (there : ps[i]? = some p) {q : Procedure β} {g : β → α} {t : State} {stock : Stock}
    (alongside : Alongside d f agent context i turns g q t stock p s)
    (others : ∀ j p', j ≠ i → ps[j]? = some p' → p'.Elsewhere d f agent context s) :
    results[i]? = some (g (q.run d.backend t).1) ∧
      eventsOf i turns = (q.trace d.backend t).map (Event.rename f) ∧
      SeesAlike f agent context (q.run d.backend t).2 s' := by
  induction h generalizing p q t stock with
  | ended results s =>
    rw [List.getElem?_map] at there
    obtain ⟨a, found, rfl⟩ := Option.map_eq_some_iff.1 there
    have same := alongside.same
    cases q with
    | done b =>
      obtain rfl := Procedure.done.inj same
      exact ⟨found, rfl, alongside.sees⟩
    | ask c next =>
      obtain ⟨next', impossible, -⟩ := same
      cases impossible
  | @turn ps s s' turns results j c next there' rest ih =>
    have inside : j < ps.length := (List.getElem?_eq_some_iff.1 there').1
    by_cases own : j = i
    · subst own
      obtain rfl := Option.some.inj (there.symm.trans there')
      obtain ⟨c₀, next₀, rfl, event, later⟩ := alongside.turn
      have others' : ∀ k p', k ≠ j → (ps.set j (next (d.answer c s).1))[k]? = some p' →
          p'.Elsewhere d f agent context (d.answer c s).2 := by
        intro k p' other found
        rw [List.getElem?_set_ne (Ne.symm other)] at found
        exact (others k p' other found).others c
      obtain ⟨found, events, sees⟩ := ih (List.getElem?_set_self inside) later others'
      refine ⟨found, ?_, sees⟩
      rw [eventsOf_own, events]
      exact congrArg (· :: _) event
    · obtain ⟨same, issued, manages, sees, fits⟩ := alongside
      obtain ⟨notMade, fits'⟩ := fits.other own
      have elsewhere := others j _ own there'
      obtain ⟨sees', elsewhere'⟩ := elsewhere.turn sees notMade
      rw [eventsOf_other own]
      refine ih (by rw [List.getElem?_set_ne own, there]) ⟨same, issued, manages, sees', fits'⟩ ?_
      intro k p' other found
      by_cases turn : j = k
      · subst turn
        rw [List.getElem?_set_self inside] at found
        exact Option.some.inj found ▸ elsewhere'
      · rw [List.getElem?_set_ne turn] at found
        exact (others k p' other found).others c

end Procedure

end CounterSampling
