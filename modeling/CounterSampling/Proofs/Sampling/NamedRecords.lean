import CounterSampling.Proofs.SamplerCalls
import CounterSampling.Proofs.Sampling.Trace

/-!
# Records and their names

Records are summed under names. `Named` says which names these are, given what is known and what is
asked and answered: a name that is known for the number of a counter, the name that the device tells
when it is asked, which is known from then on, or the name for counters that have none. There is
only one way to name records, and the value of a name is the sum of the records that it names. Main
statement: `addRecords_sums`.
-/

namespace CounterSampling

namespace Sampler

/-- Records in turn with their names, given the names that are known and what is asked and
answered. -/
inductive Named : Table CounterId String → List Record → List Event →
    List (String × Record) → Prop
  | none {names : Table CounterId String} : Named names [] [] []
  | known {names : Table CounterId String} {r : Record} {rs : List Record} {es : List Event}
    {name : String} {named : List (String × Record)} (found : names.find? r.counter = some name)
    (later : Named names rs es named) : Named names (r :: rs) es ((name, r) :: named)
  | told {names : Table CounterId String} {r : Record} {rs : List Record} {es : List Event}
    {name : String} {named : List (String × Record)} (missing : names.find? r.counter = .none)
    (later : Named (names.insert r.counter name) rs es named) :
    Named names (r :: rs) (⟨.counterName r.counter, .ok name⟩ :: es) ((name, r) :: named)
  | untold {names : Table CounterId String} {r : Record} {rs : List Record} {es : List Event}
    {e : BackendError} {named : List (String × Record)} (missing : names.find? r.counter = .none)
    (later : Named names rs es named) :
    Named names (r :: rs) (⟨.counterName r.counter, .error e⟩ :: es)
      ((Catalog.unknownCounter, r) :: named)

/-- The sum of values in order, from zero on; nothing if there are none. -/
def total : List Float → Option Float
  | [] => none
  | x :: xs => some ((x :: xs).foldl (fun sum y => sum + y) 0.0)

/-- The value of a name: the sum of the records of that name. -/
def valueOf (named : List (String × Record)) (name : String) : Option Float :=
  total ((named.filter fun x => decide (x.1 = name)).map fun x => x.2.value)

section Named

variable {names : Table CounterId String} {rs : List Record} {es : List Event}
  {named named' : List (String × Record)}

/-- There is only one way to name records. -/
theorem Named.unique (h : Named names rs es named) (h' : Named names rs es named') :
    named = named' := by
  induction h generalizing named' with
  | none =>
    cases h'
    rfl
  | known found later ih =>
    cases h' with
    | known found' later' =>
      obtain rfl := Option.some.inj (found.symm.trans found')
      rw [ih later']
    | told missing later' => exact absurd (found.symm.trans missing) nofun
    | untold missing later' => exact absurd (found.symm.trans missing) nofun
  | told missing later ih =>
    cases h' with
    | known found' later' => exact absurd (missing.symm.trans found') nofun
    | told _ later' => rw [ih later']
  | untold missing later ih =>
    cases h' with
    | known found' later' => exact absurd (missing.symm.trans found') nofun
    | untold _ later' => rw [ih later']

end Named

/-- Adding to a sum goes on with it. -/
theorem foldl_add_some (xs : List Float) (sum : Float) :
    xs.foldl (fun (v : Option Float) x => some (v.getD 0.0 + x)) (some sum) =
      some (xs.foldl (fun sum y => sum + y) sum) := by
  induction xs generalizing sum with
  | nil => rfl
  | cons x xs ih => exact ih (sum + x)

theorem total_eq (xs : List Float) :
    total xs = xs.foldl (fun (v : Option Float) x => some (v.getD 0.0 + x)) none := by
  cases xs with
  | nil => rfl
  | cons x xs => exact (foldl_add_some xs (0.0 + x)).symm

/-- Records that are added up from nothing give each name its value. -/
theorem find?_addAll_empty (named : List (String × Record)) (name : String) :
    (addAll .empty named).find? name = valueOf named name := by
  rw [find?_addAll, valueOf, total_eq, List.foldl_map]
  rfl

/-! ## Naming the records of a run -/

variable {σ : Type} (b : Backend σ)

/-- The name that the catalog gives to a record, with what it asks for it, names the record before
all others that are named with what the catalog knows then. -/
theorem nameOf_named (r : Record) (c : Catalog) (s : σ) (rs : List Record) (es : List Event)
    (named : List (String × Record))
    (later : Named (((Catalog.nameOf r).run c).run b s).1.2.names rs es named) :
    Named c.names (r :: rs) (((Catalog.nameOf r).run c).trace b s ++ es)
      (((((Catalog.nameOf r).run c).run b s).1.1, r) :: named) := by
  unfold Catalog.nameOf at later ⊢
  rw [StateT.run_bind, StateT.run_get] at later ⊢
  cases found : c.names.find? r.counter with
  | some name =>
    simp only [Procedure.pure_eq, Procedure.bind_done, found] at later ⊢
    exact .known found later
  | none =>
    simp only [Procedure.pure_eq, Procedure.bind_done, found] at later ⊢
    rw [StateT.run_bind, Procedure.run_bind, Procedure.run_lift] at later
    rw [StateT.run_bind, Procedure.run_bind, Procedure.trace_bind, Procedure.run_lift,
      Procedure.trace_lift]
    simp only [Procedure.call, Procedure.run_ask, Procedure.run_done, Procedure.trace_ask,
      Procedure.trace_done] at later ⊢
    generalize b.answer (.counterName r.counter) s = y at later ⊢
    obtain ⟨answer, s'⟩ := y
    cases answer with
    | ok name => exact .told found later
    | error e => exact .untold found later

/-- Adding records adds up all of them, each under its name. -/
theorem addRecords_sums (values : NameMap Float) (rs : List Record) (e : Sampler) (s : σ) :
    let y := ((addRecords values rs).run.run e).run b s
    let asked := ((addRecords values rs).run.run e).trace b s
    ∃ named, y.1.1 = .ok (addAll values named) ∧ besidesCatalog y.1.2 = besidesCatalog e ∧
      ∀ rs' es' named', Named y.1.2.catalog.names rs' es' named' →
        Named e.catalog.names (rs ++ rs') (asked ++ es') (named ++ named') := by
  induction rs generalizing values e s with
  | nil => exact ⟨[], rfl, rfl, fun _ _ _ later => later⟩
  | cons r rs ih =>
    rw [addRecords, Procedure.run_bindOk, Procedure.trace_bindOk, run_nameOf, Procedure.run_bind,
      Procedure.trace_bind]
    have first := nameOf_named b r e.catalog s
    generalize ((Catalog.nameOf r).run e.catalog).trace b s = asked at first ⊢
    generalize ((Catalog.nameOf r).run e.catalog).run b s = y at first ⊢
    obtain ⟨⟨name, c⟩, s'⟩ := y
    obtain ⟨named, sum, same, others⟩ :=
      ih (addValue values name r.value) { e with catalog := c } s'
    refine ⟨(name, r) :: named, sum, same, fun rs' es' named' later => ?_⟩
    simp only [Procedure.trace_done, List.append_nil, Procedure.run_done, List.append_assoc]
    exact first _ _ _ (others rs' es' named' later)

end Sampler

end CounterSampling
