import CounterSampling.Proofs.Packing.Resolved
import CounterSampling.Proofs.Sampling.Trace

/-!
# One round of packing

`Considered` lists everything that considering an item can do: the guards that defer it, the one
path on which it joins the profile, and on each what is asked and answered and the states left
behind. What a round does follows by induction over its items, and laws about packing are read off
these cases without opening the packer again.
-/

namespace CounterSampling.Packer

variable {σ : Type}

/-- The question whether an item fits together with the members of the profile. -/
def probe (p : Packer) (r : Round) (i : Item) : Call :=
  .tryConfigure p.agent ((r.candidate.members ++ [i]).map fun m => m.id)

/-- What releases the configuration of a candidate, if it has one. -/
def Candidate.releaseEvents (c : Candidate) : List Event :=
  c.config.toList.map fun config => ⟨.destroyConfig config, ()⟩

/-- The round after an item joined its profile. -/
def Round.join (r : Round) (i : Item) (total : Nat) (config : ConfigId) : Round :=
  { r with candidate := ⟨r.candidate.members ++ [i], total, some config⟩ }

/-- What considering an item in a round comes to: the round, the catalog and the state of the
backend afterwards, and what was asked and answered. -/
inductive Considered (b : Backend σ) (p : Packer) (r : Round) (i : Item) (c : Catalog) (s : σ) :
    Round → Catalog → σ → List Event → Prop
  /-- The profile holds as many counters as it may. -/
  | full (cap : p.maxPerProfile ≤ r.candidate.members.length) :
    Considered b p r i c s (r.defer i) c s []
  /-- The record count cannot be had. -/
  | unsized {c' : Catalog} {s' : σ} (room : r.candidate.members.length < p.maxPerProfile)
    (size : ((sizeOf? i.id).run c).run b s = ((none, c'), s')) :
    Considered b p r i c s (r.defer i) c' s' (((sizeOf? i.id).run c).trace b s)
  /-- The records of the profile would leave the word. -/
  | overflow {n : Nat} {c' : Catalog} {s' : σ}
    (room : r.candidate.members.length < p.maxPerProfile)
    (size : ((sizeOf? i.id).run c).run b s = ((some n, c'), s'))
    (sum : Word.add? r.candidate.size n = none) :
    Considered b p r i c s (r.defer i) c' s' (((sizeOf? i.id).run c).trace b s)
  /-- The device does not take the members together with the item. -/
  | refused {n total : Nat} {c' : Catalog} {s' : σ}
    (room : r.candidate.members.length < p.maxPerProfile)
    (size : ((sizeOf? i.id).run c).run b s = ((some n, c'), s'))
    (sum : Word.add? r.candidate.size n = some total)
    (refusal : ∀ config, (b.answer (p.probe r i) s').1 ≠ ConfigureOutcome.configured config) :
    Considered b p r i c s (r.defer i) c' (b.answer (p.probe r i) s').2
      (((sizeOf? i.id).run c).trace b s ++ [⟨p.probe r i, (b.answer (p.probe r i) s').1⟩])
  /-- The device takes them; the configuration so far is released. -/
  | joined {n total : Nat} {config : ConfigId} {c' : Catalog} {s' : σ}
    (room : r.candidate.members.length < p.maxPerProfile)
    (size : ((sizeOf? i.id).run c).run b s = ((some n, c'), s'))
    (sum : Word.add? r.candidate.size n = some total)
    (taken : (b.answer (p.probe r i) s').1 = ConfigureOutcome.configured config) :
    Considered b p r i c s (r.join i total config) c'
      ((releasePrevious r.candidate).run b (b.answer (p.probe r i) s').2).2
      (((sizeOf? i.id).run c).trace b s ++
        ⟨p.probe r i, (b.answer (p.probe r i) s').1⟩ :: r.candidate.releaseEvents)

theorem trace_releasePrevious (b : Backend σ) (c : Candidate) (s : σ) :
    (releasePrevious c).trace b s = c.releaseEvents := by
  unfold releasePrevious Candidate.releaseEvents
  cases c.config <;> rfl

/-- Trying to add an item asks the device once. -/
theorem run_tryAdd (b : Backend σ) (p : Packer) (r : Round) (i : Item) (total : Nat) (s : σ) :
    (p.tryAdd r i total).run b s =
      match (b.answer (p.probe r i) s).1 with
      | .configured config =>
        (r.join i total config,
          ((releasePrevious r.candidate).run b (b.answer (p.probe r i) s).2).2)
      | .capacityExceeded => (r.defer i, (b.answer (p.probe r i) s).2)
      | .failed _ => (r.defer i, (b.answer (p.probe r i) s).2) := by
  simp only [tryAdd, probe, Procedure.call, Procedure.bind_ask, Procedure.bind_done,
    Procedure.run_ask, Procedure.pure_eq]
  generalize b.answer (.tryConfigure p.agent ((r.candidate.members ++ [i]).map fun m => m.id)) s = a
  obtain ⟨outcome, s'⟩ := a
  cases outcome with
  | configured config => rw [Procedure.run_bind]; rfl
  | capacityExceeded => rfl
  | failed e => rfl

theorem trace_tryAdd (b : Backend σ) (p : Packer) (r : Round) (i : Item) (total : Nat) (s : σ) :
    (p.tryAdd r i total).trace b s =
      ⟨p.probe r i, (b.answer (p.probe r i) s).1⟩ :: match (b.answer (p.probe r i) s).1 with
      | .configured _ => r.candidate.releaseEvents
      | _ => [] := by
  simp only [tryAdd, probe, Procedure.call, Procedure.bind_ask, Procedure.bind_done,
    Procedure.trace_ask, Procedure.pure_eq]
  generalize b.answer (.tryConfigure p.agent ((r.candidate.members ++ [i]).map fun m => m.id)) s = a
  obtain ⟨outcome, s'⟩ := a
  cases outcome with
  | configured config =>
    rw [Procedure.trace_bind, trace_releasePrevious]
    exact congrArg _ (List.append_nil _)
  | capacityExceeded => rfl
  | failed e => rfl

/-- Considering an item does one of the things that `Considered` lists. -/
theorem considered (b : Backend σ) (p : Packer) (r : Round) (i : Item) (c : Catalog) (s : σ) :
    Considered b p r i c s (((p.consider r i).run c).run b s).1.1
      (((p.consider r i).run c).run b s).1.2 (((p.consider r i).run c).run b s).2
      (((p.consider r i).run c).trace b s) := by
  unfold consider
  by_cases cap : p.maxPerProfile ≤ r.candidate.members.length
  · rw [if_pos cap]
    exact .full cap
  have room := Nat.lt_of_not_le cap
  rw [if_neg cap, StateT.run_bind, Procedure.run_bind, Procedure.trace_bind]
  rcases size : ((sizeOf? i.id).run c).run b s with ⟨⟨n, c'⟩, s'⟩
  cases n with
  | none => simpa using Considered.unsized room size
  | some n =>
    cases sum : Word.add? r.candidate.size n with
    | none => simpa [sum] using Considered.overflow room size sum
    | some total =>
      simp only [sum, Procedure.run_lift, Procedure.trace_lift, run_tryAdd, trace_tryAdd]
      cases answer : (b.answer (p.probe r i) s').1 with
      | configured config =>
        have step := Considered.joined room size sum answer
        rw [answer] at step
        exact step
      | capacityExceeded =>
        have step := Considered.refused (b := b) room size sum (by rw [answer]; nofun)
        rw [answer] at step
        exact step
      | failed e =>
        have step := Considered.refused (b := b) room size sum (by rw [answer]; nofun)
        rw [answer] at step
        exact step

theorem run_round_cons (b : Backend σ) (p : Packer) (r : Round) (i : Item) (is : List Item)
    (c : Catalog) (s : σ) :
    ((p.round r (i :: is)).run c).run b s =
      let x := ((p.consider r i).run c).run b s
      ((p.round x.1.1 is).run x.1.2).run b x.2 := by
  rw [round, StateT.run_bind, Procedure.run_bind]

theorem trace_round_cons (b : Backend σ) (p : Packer) (r : Round) (i : Item) (is : List Item)
    (c : Catalog) (s : σ) :
    ((p.round r (i :: is)).run c).trace b s =
      let x := ((p.consider r i).run c).run b s
      ((p.consider r i).run c).trace b s ++ ((p.round x.1.1 is).run x.1.2).trace b x.2 := by
  rw [round, StateT.run_bind, Procedure.trace_bind]

/-- What considering one item keeps, a whole round keeps. The invariant may speak of the items
considered so far and of what was asked and answered for them. -/
theorem round_induction {b : Backend σ} {p : Packer}
    {I : List Item → Round → Catalog → σ → List Event → Prop}
    (step : ∀ {before r i c s events r' c' s' more}, I before r c s events →
      Considered b p r i c s r' c' s' more → I (before ++ [i]) r' c' s' (events ++ more))
    (items before : List Item) (r : Round) (c : Catalog) (s : σ) (events : List Event)
    (start : I before r c s events) :
    I (before ++ items) (((p.round r items).run c).run b s).1.1
      (((p.round r items).run c).run b s).1.2 (((p.round r items).run c).run b s).2
      (events ++ ((p.round r items).run c).trace b s) := by
  induction items generalizing before r c s events with
  | nil => simpa [round] using start
  | cons i is ih =>
    have next := step start (considered b p r i c s)
    rw [run_round_cons, trace_round_cons, ← List.append_assoc, List.append_cons]
    exact ih (before ++ [i]) _ _ _ _ next

/-- A round under way in which something can still be packed is followed by the others if it placed
an item, and is the last one if it did not. -/
theorem run_rounds_succ (b : Backend σ) (p : Packer) (fuel : Nat) (i : Item) (is : List Item)
    (c : Catalog) (s : σ) :
    ((p.rounds (fuel + 1) (i :: is)).run c).run b s =
      let x := ((p.round {} (i :: is)).run c).run b s
      match x.1.1.candidate.config with
      | none => ((([], x.1.1.deferred.map fun i => i.name), x.1.2), x.2)
      | some config =>
        let y := ((p.rounds fuel x.1.1.deferred).run x.1.2).run b x.2
        (((x.1.1.candidate.profile config :: y.1.1.1, y.1.1.2), y.1.2), y.2) := by
  rw [rounds, StateT.run_bind, Procedure.run_bind]
  · rcases ((p.round {} (i :: is)).run c).run b s with ⟨⟨r, c'⟩, s'⟩
    dsimp only
    cases r.candidate.config with
    | none => rfl
    | some config =>
      rw [StateT.run_bind, Procedure.run_bind]
      rfl
  · exact List.cons_ne_nil _ _

theorem trace_rounds_succ (b : Backend σ) (p : Packer) (fuel : Nat) (i : Item) (is : List Item)
    (c : Catalog) (s : σ) :
    ((p.rounds (fuel + 1) (i :: is)).run c).trace b s =
      let x := ((p.round {} (i :: is)).run c).run b s
      ((p.round {} (i :: is)).run c).trace b s ++
        x.1.1.candidate.config.elim [] fun _ =>
          ((p.rounds fuel x.1.1.deferred).run x.1.2).trace b x.2 := by
  rw [rounds, StateT.run_bind, Procedure.trace_bind]
  · rcases ((p.round {} (i :: is)).run c).run b s with ⟨⟨r, c'⟩, s'⟩
    dsimp only
    cases r.candidate.config with
    | none => rfl
    | some config =>
      rw [StateT.run_bind, Procedure.trace_bind]
      exact congrArg _ (List.append_nil _)
  · exact List.cons_ne_nil _ _

/-- Packing lists the counters of the agent and packs those that are requested in rounds. -/
theorem run_pack_eq (p : Packer) (request : List String) (c : Catalog) :
    (p.pack request).run.run c = Catalog.list.run.run c >>= fun l =>
      match l.1 with
      | .error e => .done (.error e, l.2)
      | .ok known =>
        let found := resolve known (distinct request)
        (p.rounds found.1.length found.1).run l.2 >>= fun y =>
          .done (.ok ⟨y.1.1, found.2, y.1.2⟩, y.2) := by
  rw [pack_eq]
  simp only [ExceptT.run_bind, StateT.run_bind]
  refine congrArg _ (funext fun l => ?_)
  obtain ⟨known, c'⟩ := l
  cases known with
  | error e => rfl
  | ok known =>
    simp only [StateT.run_bind, Procedure.run_liftOk, Procedure.bind_assoc]
    rfl

theorem run_pack (b : Backend σ) (p : Packer) (request : List String) (c : Catalog) (s : σ) :
    ((p.pack request).run.run c).run b s =
      let l := (Catalog.list.run.run c).run b s
      match l.1.1 with
      | .error e => ((.error e, l.1.2), l.2)
      | .ok known =>
        let found := resolve known (distinct request)
        let y := ((p.rounds found.1.length found.1).run l.1.2).run b l.2
        ((.ok ⟨y.1.1.1, found.2, y.1.1.2⟩, y.1.2), y.2) := by
  rw [run_pack_eq, Procedure.run_bind]
  rcases (Catalog.list.run.run c).run b s with ⟨⟨known, c'⟩, s'⟩
  cases known with
  | error e => rfl
  | ok known =>
    dsimp only
    rw [Procedure.run_bind]
    rfl

end CounterSampling.Packer
