import CounterSampling.Proofs.Device.Histories

/-!
# Which contexts are live

A trace tells which contexts were opened and closed, and so which ones are live after it. A backend
keeps its books if the contexts it lists are always those, no two of them with the same number:
`Backend.Lists`. A simulated device keeps its books, also behind an overlay.
-/

namespace CounterSampling

variable {σ : Type} {b : Backend σ} {s s' : σ}

/-- The context that was closed. -/
def Event.closed? : Event → Option ContextId
  | ⟨.destroyContext context, _⟩ => some context
  | _ => none

/-- The contexts that were opened. -/
def allOpened (events : List Event) : List ContextId :=
  events.filterMap Event.opened?

/-- The contexts that were closed. -/
def allClosed (events : List Event) : List ContextId :=
  events.filterMap Event.closed?

/-- What is live after an event: also what it opened, and not what it closed. -/
def Event.live (live : List ContextId) (e : Event) : List ContextId :=
  (live ++ e.opened?.toList).diff e.closed?.toList

/-- The contexts that are live after some events. -/
def liveAfter (live : List ContextId) (events : List Event) : List ContextId :=
  events.foldl Event.live live

@[simp] theorem allOpened_append (events more : List Event) :
    allOpened (events ++ more) = allOpened events ++ allOpened more :=
  List.filterMap_append

@[simp] theorem allClosed_append (events more : List Event) :
    allClosed (events ++ more) = allClosed events ++ allClosed more :=
  List.filterMap_append

@[simp] theorem liveAfter_append (live : List ContextId) (events more : List Event) :
    liveAfter live (events ++ more) = liveAfter (liveAfter live events) more :=
  List.foldl_append

theorem allOpened_cons (e : Event) (events : List Event) :
    allOpened (e :: events) = e.opened?.toList ++ allOpened events := by
  unfold allOpened
  rw [List.filterMap_cons]
  cases e.opened? <;> rfl

theorem allClosed_cons (e : Event) (events : List Event) :
    allClosed (e :: events) = e.closed?.toList ++ allClosed events := by
  unfold allClosed
  rw [List.filterMap_cons]
  cases e.closed? <;> rfl

/-- An event that neither opens nor closes a context leaves the others as they are. -/
theorem Event.live_same {e : Event} (opens : e.opened? = none) (closes : e.closed? = none)
    (live : List ContextId) : e.live live = live := by
  rw [Event.live, opens, closes, Option.toList_none, List.append_nil, List.diff_nil]

/-- As long as nothing is closed, what is opened is added. -/
theorem liveAfter_opened {events : List Event} (none : allClosed events = [])
    (live : List ContextId) : liveAfter live events = live ++ allOpened events := by
  induction events generalizing live with
  | nil => exact (List.append_nil live).symm
  | cons e events ih =>
    rw [allClosed_cons] at none
    obtain ⟨first, later⟩ := List.append_eq_nil_iff.1 none
    have step : e.live live = live ++ e.opened?.toList := by
      rw [Event.live, first, List.diff_nil]
    change liveAfter (e.live live) events = _
    rw [step, ih later, allOpened_cons, List.append_assoc]

/-- As long as nothing is opened, what is closed is taken out. -/
theorem liveAfter_closed {events : List Event} (none : allOpened events = [])
    (live : List ContextId) : liveAfter live events = live.diff (allClosed events) := by
  induction events generalizing live with
  | nil => exact (List.diff_nil live).symm
  | cons e events ih =>
    rw [allOpened_cons] at none
    obtain ⟨first, later⟩ := List.append_eq_nil_iff.1 none
    have step : e.live live = live.diff e.closed?.toList := by
      rw [Event.live, first, List.append_nil]
    change liveAfter (e.live live) events = _
    rw [step, ih later, allClosed_cons, List.diff_append]

/-! ## Backends that keep their books -/

/-- The contexts a backend lists are those that were opened and not closed, and no two of them are
the same, whatever is asked from this state on. -/
def Backend.Lists (b : Backend σ) (live : σ → List ContextId) (s : σ) : Prop :=
  ∀ events s', b.Answers s events s' → live s' = liveAfter (live s) events ∧ (live s').Nodup

variable {live : σ → List ContextId}

/-- Books are kept on. -/
theorem Backend.Lists.later {events : List Event} (h : b.Lists live s)
    (answered : b.Answers s events s') : b.Lists live s' := by
  intro more t after
  obtain ⟨all, distinct⟩ := h (events ++ more) t (answered.append after)
  refine ⟨?_, distinct⟩
  rw [all, liveAfter_append, (h events s' answered).1]

theorem Backend.Lists.nodup (h : b.Lists live s) : (live s).Nodup :=
  (h [] s rfl).2

/-- What a procedure opens and closes is what becomes of the list. -/
theorem Backend.Lists.run {α : Type} (h : b.Lists live s) (p : Procedure α) :
    live (p.run b s).2 = liveAfter (live s) (p.trace b s) :=
  (h _ _ (p.answers_trace b s)).1

/-! ## A simulated device keeps its books -/

section Devices

variable (d : Device) (o : Overlay) {x x' : Device.State}

/-- A call that never opens or closes a context leaves the list of contexts as it is. -/
theorem Device.answer_contexts_same {c : Call} (opens : ∀ r, Event.opened? ⟨c, r⟩ = none)
    (closes : ∀ r, Event.closed? ⟨c, r⟩ = none) (x : Device.State) :
    (d.answer c x).2.contexts.keys = x.contexts.keys := by
  have spared (spares : c.SparesAccount) : (d.answer c x).2.contexts.keys = x.contexts.keys :=
    congrArg Account.contexts (d.answer_spares c spares [] x)
  cases c with
  | createContext agent => cases opens (.ok (ContextId.mk 0))
  | destroyContext context => cases closes ()
  | tryConfigure agent ids =>
    change (d.configure agent ids x).2.contexts.keys = x.contexts.keys
    rcases d.configure_cases agent ids x with ⟨outcome, same, -⟩ | created
    · rw [same]
    · rw [created]
  | destroyConfig config =>
    change (Device.destroyConfig config x).contexts.keys = x.contexts.keys
    unfold Device.destroyConfig
    split <;> rfl
  | _ => exact spared trivial

/-- A context that is created is added to the list, under a number that is not there. -/
theorem Device.createContext_live (numbered : x.Numbered) (agent : AgentId) :
    (d.createContext agent x).2.contexts.keys =
      Event.live x.contexts.keys ⟨.createContext agent, (d.createContext agent x).1⟩ := by
  rcases d.createContext_cases agent x with ⟨e, refused⟩ | opened
  · rw [refused]
    exact (Event.live_same rfl rfl x.contexts.keys).symm
  · have fresh : (⟨x.nextContext⟩ : ContextId) ∉ x.contexts.keys := by
      intro mem
      obtain ⟨ctx, found⟩ := Option.isSome_iff_exists.1 (Table.contains_iff.2 mem)
      exact Nat.lt_irrefl _ (numbered.context_lt _ ctx found)
    rw [opened]
    change (x.contexts.insert _ _).keys = (x.contexts.keys ++ [(⟨x.nextContext⟩ : ContextId)]).diff []
    rw [Table.keys_insert_fresh fresh, List.diff_nil]

/-- What one call does to the list of contexts is what its answer says. -/
theorem Overlay.answer_live (numbered : x.Numbered) (c : Call) :
    (o.answer d.backend c x).2.contexts.keys =
      Event.live x.contexts.keys ⟨c, (o.answer d.backend c x).1⟩ := by
  cases c with
  | createContext agent =>
    rcases o.answer_createContext d.backend x agent with passed | refused
    · rw [passed]
      exact d.createContext_live numbered agent
    · rw [refused]
      exact (Event.live_same rfl rfl x.contexts.keys).symm
  | destroyContext context =>
    change (x.contexts.erase context).keys = (x.contexts.keys ++ []).diff [context]
    rw [Table.keys_erase, List.append_nil, List.diff_cons, List.diff_nil]
  | _ =>
    rw [Event.live_same rfl rfl]
    rcases o.answer_state d.backend x _ with same | passed
    · rw [same]
    · rw [passed]
      exact d.answer_contexts_same (fun _ => rfl) (fun _ => rfl) x

theorem Overlay.answer_numbered (numbered : x.Numbered) (c : Call) :
    (o.answer d.backend c x).2.Numbered := by
  rcases o.answer_state d.backend x c with same | passed
  · rw [same]
    exact numbered
  · rw [passed]
    exact numbered.answer c

/-- A simulated device behind an overlay keeps its books. -/
theorem Overlay.lists (numbered : x.Numbered) :
    (o.backend d.backend).Lists (fun x => x.contexts.keys) x := by
  intro events x' answered
  refine ⟨?_, x'.contexts.nodup⟩
  induction events generalizing x with
  | nil =>
    obtain rfl : x = x' := answered
    rfl
  | cons e events ih =>
    obtain ⟨same, later⟩ := answered
    have step := o.answer_live d numbered e.call
    change (o.answer d.backend e.call x).1 = e.answer at same
    rw [same] at step
    exact (ih (o.answer_numbered d numbered e.call) later).trans
      (congrArg (liveAfter · events) step)

end Devices

end CounterSampling
