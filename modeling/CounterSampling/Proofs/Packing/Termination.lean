import CounterSampling.Device.Answer
import CounterSampling.Device.Builder
import CounterSampling.Proofs.Packing.OneProfile
import CounterSampling.Proofs.Packing.Rounds
import Mathlib.Data.List.Chain
import Mathlib.Tactic.Ring

/-!
# Packing comes to an end

`Ends` is packing without a limit on the rounds: round after round, until nothing is left or a round
places nothing. Whatever a backend answers, and however its answers change, there is exactly one way
in which packing ends, and it is what `packNames` computes. The measure is the number of names left
that the agent has counters for: each round but the last leaves fewer than it was given. So there
are at most as many rounds as such names, but one round is needed to find that there are none. A
round puts at most one set to the device for each of its counters, which bounds the sets of all
rounds by a triangular number. Main statement: `pack_terminates`.
-/

namespace CounterSampling.Packer

variable {σ : Type} {b : Backend σ} {p : Packer} {known : NameMap CounterId}

/-! ## Rounds over names -/

/-- A round over names is followed by the others if it placed one, and is the last one if it did
not. -/
theorem run_packNames_succ (b : Backend σ) (p : Packer) (known : NameMap CounterId) (fuel : Nat)
    (name : String) (names : List String) (c : Catalog) (s : σ) :
    ((p.packNames known (fuel + 1) (name :: names)).run c).run b s =
      let found := resolve known (name :: names)
      let x := ((p.round {} found.1).run c).run b s
      let left := x.1.1.deferred.map fun i => i.name
      match x.1.1.candidate.config with
      | none => ((⟨[], found.2, left⟩, x.1.2), x.2)
      | some config =>
        let y := ((p.packNames known fuel left).run x.1.2).run b x.2
        ((⟨x.1.1.candidate.profile config :: y.1.1.profiles, found.2 ++ y.1.1.unsupported,
          y.1.1.unpackable⟩, y.1.2), y.2) := by
  rw [packNames]
  · dsimp only
    rw [StateT.run_bind, Procedure.run_bind]
    rcases ((p.round {} (resolve known (name :: names)).1).run c).run b s with ⟨⟨r, c'⟩, s'⟩
    dsimp only
    cases r.candidate.config with
    | none => rfl
    | some config =>
      rw [StateT.run_bind, Procedure.run_bind]
      rfl
  · exact List.cons_ne_nil _ _

theorem trace_packNames_succ (b : Backend σ) (p : Packer) (known : NameMap CounterId) (fuel : Nat)
    (name : String) (names : List String) (c : Catalog) (s : σ) :
    ((p.packNames known (fuel + 1) (name :: names)).run c).trace b s =
      let found := resolve known (name :: names)
      let x := ((p.round {} found.1).run c).run b s
      ((p.round {} found.1).run c).trace b s ++
        x.1.1.candidate.config.elim [] fun _ =>
          let left := x.1.1.deferred.map fun i => i.name
          ((p.packNames known fuel left).run x.1.2).trace b x.2 := by
  rw [packNames]
  · dsimp only
    rw [StateT.run_bind, Procedure.trace_bind]
    rcases ((p.round {} (resolve known (name :: names)).1).run c).run b s with ⟨⟨r, c'⟩, s'⟩
    dsimp only
    cases r.candidate.config with
    | none => rfl
    | some config =>
      rw [StateT.run_bind, Procedure.trace_bind]
      exact congrArg _ (List.append_nil _)
  · exact List.cons_ne_nil _ _

section Round

variable {names : List String} {c c' : Catalog} {s s' : σ} {r : Round} {events : List Event}
  {config : ConfigId}

/-- What a round defers stands for the same counters in the next round, and nothing else is left. -/
theorem RoundRun.resolve_left (h : RoundRun b p (resolve known names).1 c s r c' s' events) :
    resolve known (r.deferred.map fun i => i.name) = (r.deferred, []) :=
  resolve_names fun i mem =>
    resolve_known known names i (h.dealt.splits.second_sublist.subset mem)

/-- The names that a round leaves are some of those that it was given. -/
theorem RoundRun.left_sublist (h : RoundRun b p (resolve known names).1 c s r c' s' events) :
    (r.deferred.map fun i => i.name).Sublist names := by
  have items := h.dealt.splits.second_sublist.map fun i => i.name
  rw [(resolve_eq known names).1] at items
  exact items.trans List.filter_sublist

/-- A round that places a name leaves fewer than it was given. -/
theorem RoundRun.fewer_left (h : RoundRun b p (resolve known names).1 c s r c' s' events)
    (placed : r.candidate.config = some config) :
    (r.deferred.map fun i => i.name).length < names.length := by
  rw [List.length_map]
  exact Nat.lt_of_lt_of_le (h.dealt.fewer_deferred placed) (length_resolve_le known names)

end Round

/-! ## How packing ends -/

/-- A round that was run: the names that it was given, those that it left, and what was asked and
answered. -/
structure Pass where
  names : List String
  left : List String
  events : List Event

/-- How packing ends: the rounds that were run, in order, what they came to, and what is known and
where the backend is afterwards. -/
structure Ending (σ : Type) where
  passes : List Pass
  set : ProfileSet
  catalog : Catalog
  state : σ

/-- Packing goes on until nothing is left or a round places nothing. -/
inductive Ends (b : Backend σ) (p : Packer) (known : NameMap CounterId) :
    List String → Catalog → σ → Ending σ → Prop
  | nothing {c : Catalog} {s : σ} : Ends b p known [] c s ⟨[], {}, c, s⟩
  | stuck {names : List String} {c c' : Catalog} {s s' : σ} {r : Round} {events : List Event}
    (given : names ≠ []) (round : RoundRun b p (resolve known names).1 c s r c' s' events)
    (unplaced : r.candidate.config = none) :
    Ends b p known names c s
      ⟨[⟨names, r.deferred.map fun i => i.name, events⟩],
        ⟨[], (resolve known names).2, r.deferred.map fun i => i.name⟩, c', s'⟩
  | placed {names : List String} {c c' : Catalog} {s s' : σ} {r : Round} {events : List Event}
    {config : ConfigId} {e : Ending σ} (given : names ≠ [])
    (round : RoundRun b p (resolve known names).1 c s r c' s' events)
    (made : r.candidate.config = some config)
    (later : Ends b p known (r.deferred.map fun i => i.name) c' s' e) :
    Ends b p known names c s
      ⟨⟨names, r.deferred.map fun i => i.name, events⟩ :: e.passes,
        ⟨r.candidate.profile config :: e.set.profiles,
          (resolve known names).2 ++ e.set.unsupported, e.set.unpackable⟩, e.catalog, e.state⟩

/-- A round is determined by where it starts. -/
theorem RoundRun.unique {items : List Item} {c c' c'' : Catalog} {s s' s'' : σ} {r r' : Round}
    {events events' : List Event} (h : RoundRun b p items c s r c' s' events)
    (h' : RoundRun b p items c s r' c'' s'' events') :
    r = r' ∧ c' = c'' ∧ s' = s'' ∧ events = events' := by
  have same := h.run.symm.trans h'.run
  simp only [Prod.mk.injEq] at same
  exact ⟨same.1.1, same.1.2, same.2, h.trace.symm.trans h'.trace⟩

section Ends

variable {names : List String} {c : Catalog} {s : σ} {e e' : Ending σ}

/-- There is only one way in which packing ends. -/
theorem Ends.unique (h : Ends b p known names c s e) (h' : Ends b p known names c s e') :
    e = e' := by
  induction h generalizing e' with
  | nothing =>
    cases h' with
    | nothing => rfl
    | stuck given => exact absurd rfl given
    | placed given => exact absurd rfl given
  | stuck given round unplaced =>
    cases h' with
    | nothing => exact absurd rfl given
    | stuck _ round' _ =>
      obtain ⟨rfl, rfl, rfl, rfl⟩ := round.unique round'
      rfl
    | placed _ round' made =>
      obtain ⟨rfl, -⟩ := round.unique round'
      exact absurd (unplaced.symm.trans made) nofun
  | placed given round made later ih =>
    cases h' with
    | nothing => exact absurd rfl given
    | stuck _ round' unplaced =>
      obtain ⟨rfl, -⟩ := round.unique round'
      exact absurd (unplaced.symm.trans made) nofun
    | placed _ round' made' later' =>
      obtain ⟨rfl, rfl, rfl, rfl⟩ := round.unique round'
      obtain rfl := Option.some.inj (made.symm.trans made')
      rw [ih later']

/-- Packing ends, with what `packNames` computes, if that may run as many rounds as there are
names. -/
theorem packNames_ends (b : Backend σ) (p : Packer) (known : NameMap CounterId) (fuel : Nat)
    (names : List String) (enough : names.length ≤ fuel) (c : Catalog) (s : σ) :
    let y := ((p.packNames known fuel names).run c).run b s
    ∃ passes, Ends b p known names c s ⟨passes, y.1.1, y.1.2, y.2⟩ ∧
      ((p.packNames known fuel names).run c).trace b s =
        passes.flatMap fun pass => pass.events := by
  induction fuel generalizing names c s with
  | zero =>
    obtain rfl := List.eq_nil_of_length_eq_zero (Nat.le_zero.1 enough)
    exact ⟨[], .nothing, rfl⟩
  | succ fuel ih =>
    cases names with
    | nil => exact ⟨[], .nothing, rfl⟩
    | cons name names =>
      have given : name :: names ≠ [] := List.cons_ne_nil name names
      rcases run : ((p.round {} (resolve known (name :: names)).1).run c).run b s
        with ⟨⟨r, c'⟩, s'⟩
      have round : RoundRun b p (resolve known (name :: names)).1 c s r c' s' _ := ⟨run, rfl⟩
      rw [run_packNames_succ, trace_packNames_succ]
      dsimp only
      rw [run]
      cases config : r.candidate.config with
      | none =>
        simp only [Option.elim_none, List.append_nil]
        exact ⟨_, .stuck given round config, (List.append_nil _).symm⟩
      | some new =>
        simp only [Option.elim_some]
        have rest := Nat.le_of_lt_succ (Nat.lt_of_lt_of_le (round.fewer_left config) enough)
        obtain ⟨passes, ends, all⟩ := ih _ rest c' s'
        rw [all]
        exact ⟨_, .placed given round config ends, rfl⟩

/-! ## How many rounds -/

/-- A round is given what the one before it left, and that is less than the one before was given. -/
def Pass.Before (pass next : Pass) : Prop :=
  next.names = pass.left ∧ next.names.Sublist pass.names ∧
    next.names.length < pass.names.length

/-- The rounds start with all names, and each but the last places at least one. -/
theorem Ends.shrinking (h : Ends b p known names c s e) :
    (∀ pass ∈ e.passes.head?, pass.names = names) ∧ e.passes.IsChain Pass.Before := by
  induction h with
  | nothing => exact ⟨nofun, .nil⟩
  | stuck => exact ⟨fun _ first => Option.some.inj first ▸ rfl, .singleton _⟩
  | placed given round made later ih =>
    refine ⟨fun _ first => Option.some.inj first ▸ rfl, List.isChain_cons.2 ⟨?_, ih.2⟩⟩
    intro next first
    have passed_on := ih.1 next first
    refine ⟨passed_on, ?_, ?_⟩ <;> rw [passed_on]
    · exact round.left_sublist
    · exact round.fewer_left made

/-- There is a round if there is a name. -/
theorem Ends.passes_eq_nil_iff (h : Ends b p known names c s e) : e.passes = [] ↔ names = [] := by
  cases h with
  | nothing => simp
  | stuck given => simp [given]
  | placed given => simp [given]

/-- There are at most as many rounds as counters, but one if there are only names without a
counter. -/
theorem Ends.length_passes_le (h : Ends b p known names c s e) :
    e.passes.length ≤ max 1 (resolve known names).1.length := by
  induction h with
  | nothing => exact Nat.zero_le _
  | stuck given round unplaced => exact Nat.le_max_left _ _
  | @placed names c c' s s' r events config e given round made later ih =>
    have fewer := round.dealt.fewer_deferred made
    rw [round.resolve_left] at ih
    dsimp only at ih
    rw [List.length_cons]
    by_cases last : r.deferred = []
    · have none : e.passes = [] := by
        rw [later.passes_eq_nil_iff, last]
        rfl
      rw [none]
      exact Nat.le_max_left _ _
    · have left := List.length_pos_iff.2 last
      omega

/-! ## How many sets are put to the device -/

theorem Considered.attempts_le {r r' : Round} {i : Item} {c' : Catalog} {s' : σ}
    {events : List Event} (step : Considered b p r i c s r' c' s' events) :
    (events.filterMap Event.attempt?).length ≤ 1 := by
  have sizing : (((sizeOf? i.id).run c).trace b s).filterMap Event.attempt? = [] :=
    (sizeOf?_inquires i.id c).attempts_nil b s
  have one (answer : Event) : ([answer].filterMap Event.attempt?).length ≤ 1 :=
    List.length_filterMap_le _ _
  cases step with
  | full cap => exact Nat.zero_le 1
  | unsized room size => exact sizing ▸ Nat.zero_le 1
  | overflow room size sum => exact sizing ▸ Nat.zero_le 1
  | refused room size sum refusal =>
    rw [List.filterMap_append, sizing, List.nil_append]
    exact one _
  | joined room size sum taken =>
    rw [List.append_cons, List.filterMap_append, List.filterMap_append, sizing,
      r.candidate.attempts_releaseEvents, List.append_nil, List.nil_append]
    exact one _

/-- A round puts at most one set to the device for each of its counters. -/
theorem RoundRun.attempts_le {items : List Item} {r : Round} {c' : Catalog} {s' : σ}
    {events : List Event}
    (h : RoundRun b p items c s r c' s' events) :
    (events.filterMap Event.attempt?).length ≤ items.length := by
  refine h.induct (I := fun done _ _ _ events =>
    (events.filterMap Event.attempt?).length ≤ done.length) (Nat.le_refl 0) ?_
  intro done i r c s events r' c' s' more _ before step
  rw [List.filterMap_append, List.length_append, List.length_append]
  exact Nat.add_le_add before step.attempts_le

/-- No more than `n` is no more than the triangular number of `n`. -/
theorem triangle_start {here n : Nat} (once : here ≤ n) : here * 2 ≤ n * (n + 1) := by
  cases n with
  | zero => omega
  | succ n => exact Nat.mul_le_mul once (Nat.le_add_left 2 n)

/-- A step from one triangular number to a larger one. -/
theorem triangle_step {here later fewer n : Nat} (once : here ≤ n) (less : fewer < n)
    (rest : later * 2 ≤ fewer * (fewer + 1)) : (here + later) * 2 ≤ n * (n + 1) := by
  obtain ⟨k, rfl⟩ := Nat.exists_eq_succ_of_ne_zero (Nat.ne_zero_of_lt less)
  have most : fewer ≤ k := Nat.le_of_lt_succ less
  calc (here + later) * 2 = here * 2 + later * 2 := Nat.add_mul _ _ _
    _ ≤ (k + 1) * 2 + k * (k + 1) := Nat.add_le_add (Nat.mul_le_mul_right 2 once)
        (rest.trans (Nat.mul_le_mul most (Nat.succ_le_succ most)))
    _ = (k + 1) * (k + 1 + 1) := by ring

theorem Ends.attempts_le (h : Ends b p known names c s e) :
    ((e.passes.flatMap fun pass => pass.events).filterMap Event.attempt?).length ≤
      (resolve known names).1.length * ((resolve known names).1.length + 1) / 2 := by
  rw [Nat.le_div_iff_mul_le Nat.two_pos]
  induction h with
  | nothing => exact Nat.le_refl 0
  | stuck given round unplaced =>
    rw [List.flatMap_singleton]
    exact triangle_start round.attempts_le
  | placed given round made later ih =>
    rw [round.resolve_left] at ih
    rw [List.flatMap_cons, List.filterMap_append, List.length_append]
    exact triangle_step round.attempts_le (round.dealt.fewer_deferred made) ih

end Ends

/-! ## Packing a request -/

/-- The counters that a request resolves to are those of its distinct names that the agent has. -/
theorem length_resolve (known : NameMap CounterId) (names : List String) :
    (resolve known names).1.length = names.countP fun name => (known.find? name).isSome := by
  rw [List.countP_eq_length_filter, ← (resolve_eq known names).1, List.length_map]

theorem distinct_eq_nil_iff {request : List String} : distinct request = [] ↔ request = [] := by
  simp only [List.eq_nil_iff_forall_not_mem, mem_distinct]

/-- If the counters are listed, the distinct names of a request are packed. -/
theorem run_pack_names {request : List String} {c c' : Catalog} {s s' : σ}
    (listed : (Catalog.list.run.run c).run b s = ((.ok known, c'), s')) :
    let names := distinct request
    let y := ((p.packNames known names.length names).run c').run b s'
    ((p.pack request).run.run c).run b s = ((.ok y.1.1, y.1.2), y.2) := by
  rw [pack, Procedure.run_bindOk, listed]
  dsimp only
  rw [Procedure.run_liftOk, Procedure.run_bind]
  rfl

theorem trace_pack_names {request : List String} {c c' : Catalog} {s s' : σ}
    (listed : (Catalog.list.run.run c).run b s = ((.ok known, c'), s')) :
    let names := distinct request
    ((p.pack request).run.run c).trace b s =
      (Catalog.list.run.run c).trace b s ++
        ((p.packNames known names.length names).run c').trace b s' := by
  rw [pack, Procedure.trace_bindOk, listed]
  dsimp only
  rw [Procedure.run_liftOk, Procedure.trace_bind]
  exact congrArg _ (List.append_nil _)

/-- Packing a request ends on every backend, whatever it answers. If the counters cannot be listed
it ends with that error and puts nothing to the device. Otherwise, with `n` distinct names that the
agent has, the rounds end in exactly one way, which is what is returned: after at most `n` rounds,
or after one if the request has only names that the agent does not have; each round but the last
places a name, and at most `n * (n + 1) / 2` sets are put to the device. -/
theorem pack_terminates (b : Backend σ) (p : Packer) (request : List String) (c : Catalog) (s : σ) :
    match (Catalog.list.run.run c).run b s with
    | ((.error e, c'), s') =>
      ((p.pack request).run.run c).run b s = ((.error e, c'), s') ∧
        ((p.pack request).run.run c).attempts b s = []
    | ((.ok known, c'), s') =>
      let n := (distinct request).countP fun name => (known.find? name).isSome
      ∃ e : Ending σ,
        (∀ e', Ends b p known (distinct request) c' s' e' ↔ e' = e) ∧
        ((p.pack request).run.run c).run b s = ((.ok e.set, e.catalog), e.state) ∧
        e.passes.length ≤ max 1 n ∧ (e.passes = [] ↔ request = []) ∧
        (∀ pass ∈ e.passes.head?, pass.names = distinct request) ∧
        e.passes.IsChain Pass.Before ∧
        (((p.pack request).run.run c).attempts b s).length ≤ n * (n + 1) / 2 := by
  have listing := (Catalog.list_inquires c).attempts_nil b s
  rcases listed : (Catalog.list.run.run c).run b s with ⟨⟨_ | known, c'⟩, s'⟩
  · refine ⟨run_pack_unlisted listed, ?_⟩
    rw [run_pack_eq, Procedure.attempts_bind, listing, listed]
    rfl
  · dsimp only
    obtain ⟨passes, ends, all⟩ :=
      packNames_ends b p known _ (distinct request) (Nat.le_refl _) c' s'
    have attempts : ((p.pack request).run.run c).attempts b s =
        (passes.flatMap fun pass => pass.events).filterMap Event.attempt? := by
      rw [Procedure.attempts, trace_pack_names listed, List.filterMap_append, ← all]
      exact congrArg (· ++ _) listing
    rw [← length_resolve, attempts]
    refine ⟨_, fun e' => ⟨fun ends' => ends'.unique ends, fun same => same ▸ ends⟩,
      run_pack_names listed, ends.length_passes_le, ?_, ends.shrinking.1, ends.shrinking.2,
      ends.attempts_le⟩
    rw [ends.passes_eq_nil_iff, distinct_eq_nil_iff]

/-- A request of one name that the agent does not have: none of its names has a counter, but it
takes a round to set the name aside. -/
theorem pack_round_without_counters :
    let gpu : AgentInfo := ⟨⟨1⟩, .gpu, "gfx942", 10001, 128, 1⟩
    let one := (Device.Builder.agent {} gpu).counter "WAVES" [] 1.0
    let b := one.device.backend
    ∃ known c s e, (Catalog.list.run.run (.new ⟨1⟩)).run b one.initial = ((.ok known, c), s) ∧
      (∀ e', Ends b ⟨⟨1⟩, 10⟩ known ["BOGUS"] c s e' ↔ e' = e) ∧
      ((pack ⟨⟨1⟩, 10⟩ ["BOGUS"]).run.run (.new ⟨1⟩)).run b one.initial =
        ((.ok e.set, e.catalog), e.state) ∧
      e.set = ⟨[], ["BOGUS"], []⟩ ∧
      ¬e.passes.length ≤ (distinct ["BOGUS"]).countP fun name => (known.find? name).isSome := by
  intro gpu one b
  rcases listed : (Catalog.list.run.run (.new ⟨1⟩)).run b one.initial with ⟨⟨r, c⟩, s⟩
  cases listed
  obtain ⟨passes, ends, -⟩ := packNames_ends b ⟨⟨1⟩, 10⟩ _ _ ["BOGUS"] (Nat.le_refl _) _ _
  refine ⟨_, _, _, _, rfl, fun e' => ⟨fun ends' => ends'.unique ends, fun same => same ▸ ends⟩,
    rfl, rfl, ?_⟩
  have some : passes ≠ [] := fun none => nomatch ends.passes_eq_nil_iff.1 none
  exact Nat.not_le.2 (List.length_pos_iff.2 some)

/-- Three counters of which the device takes one at a time: as many sets as there may be. -/
example :
    let gpu : AgentInfo := ⟨⟨1⟩, .gpu, "gfx942", 10001, 128, 1⟩
    let one := ((Device.Builder.agent {} gpu).counters "SQ" 3).hwLimit 1
    (((pack ⟨⟨1⟩, 10⟩ ["SQ_0", "SQ_1", "SQ_2"]).run.run (.new ⟨1⟩)).attempts one.device.backend
      one.initial).length = 3 * (3 + 1) / 2 := by
  decide +kernel

end CounterSampling.Packer
