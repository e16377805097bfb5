import CounterSampling.Catalog
import CounterSampling.Proofs.Calls

/-!
# The catalog only inquires

Everything a catalog does comes down to asking which counters there are, what they are called, how
they are laid out and where a record lies. So whatever a backend keeps beside its answers to these
questions, using a catalog does not change it. Which of the questions a step asks, and which of the
things a catalog remembers it may change, is said once for each step; what a step never asks or
changes follows.
-/

namespace CounterSampling

/-- The calls that ask about counters and their records. -/
def Call.IsInquiry : Call → Prop
  | .supportedCounters _ => True
  | .counterName _ => True
  | .counterDimensions _ => True
  | .dimensionPosition _ _ => True
  | _ => False

/-- The calls that ask what a counter is called. -/
def Call.IsNaming : Call → Prop
  | .counterName _ => True
  | _ => False

theorem Call.IsNaming.isInquiry {c : Call} (h : c.IsNaming) : c.IsInquiry := by
  cases c with
  | counterName id => exact trivial
  | _ => exact h.elim

namespace Catalog

section Only

variable {α κ : Type} {P : Call → Prop} {part : Catalog → κ}

/-- A query only makes the call that it is about. -/
theorem query_only {p : Procedure (Except BackendError α)} (h : p.Ensures P fun _ => True) :
    StepsOnly P part (query p).run := by
  refine (stepsOnly_liftOk (stepsOnly_lift h)).bindOk fun r => ?_
  cases r with
  | ok a => exact stepsOnly_ok a
  | error e => exact stepsOnly_getOk.bindOk fun c => stepsOnly_throw _

section Names

variable (asks : ∀ id, P (.counterName id))
  (keeps : ∀ (c : Catalog) names, part { c with names := names } = part c)

include asks keeps

theorem nameAll_only (known : NameMap CounterId) (ids : List CounterId) :
    StepsOnly P part (nameAll known ids).run := by
  induction ids generalizing known with
  | nil => exact stepsOnly_ok known
  | cons id ids ih =>
    refine (query_only (Procedure.ensures_call (asks id))).bindOk fun name => ?_
    exact (stepsOnly_modifyOk fun c => keeps c _).bindOk fun _ => ih _

theorem nameOf_only (r : Record) : StepsOnly P part (nameOf r) := by
  refine stepsOnly_get.bind fun c => ?_
  cases c.names.find? r.counter with
  | some name => exact stepsOnly_pure name
  | none =>
    refine (stepsOnly_lift (Procedure.ensures_call (asks _))).bind fun answer => ?_
    cases answer with
    | ok name => exact (stepsOnly_modify fun c => keeps c _).bind fun _ => stepsOnly_pure name
    | error e => exact stepsOnly_pure _

theorem list_only (lists : ∀ agent, P (.supportedCounters agent))
    (keepsList : ∀ (c : Catalog) known, part { c with supported := known } = part c) :
    StepsOnly P part list.run := by
  refine stepsOnly_getOk.bindOk fun c => ?_
  cases c.supported with
  | some known => exact stepsOnly_ok known
  | none =>
    refine stepsOnly_getOk.bindOk fun c => ?_
    refine (query_only (Procedure.ensures_call (lists _))).bindOk fun ids => ?_
    refine (nameAll_only asks keeps _ ids).bindOk fun known => ?_
    exact (stepsOnly_modifyOk fun c => keepsList c _).bindOk fun _ => stepsOnly_ok known

end Names

section Dimensions

variable (asks : ∀ id, P (.counterDimensions id))
  (keeps : ∀ (c : Catalog) dims, part { c with dimensions := dims } = part c)

include asks keeps

theorem dimensionsOf_only (id : CounterId) : StepsOnly P part (dimensionsOf id).run := by
  refine stepsOnly_getOk.bindOk fun c => ?_
  cases c.dimensions.find? id with
  | some dims => exact stepsOnly_ok dims
  | none =>
    refine (query_only (Procedure.ensures_call (asks id))).bindOk fun dims => ?_
    exact (stepsOnly_modifyOk fun c => keeps c _).bindOk fun _ => stepsOnly_ok dims

theorem recordCountOf_only (id : CounterId) : StepsOnly P part (recordCountOf id).run := by
  refine (dimensionsOf_only asks keeps id).bindOk fun dims => ?_
  cases recordCount? dims with
  | some n => exact stepsOnly_ok n
  | none => exact stepsOnly_getOk.bindOk fun c => stepsOnly_throw _

theorem describeAll_only (listed : List (String × CounterId)) :
    StepsOnly P part (describeAll listed).run := by
  induction listed with
  | nil => exact stepsOnly_ok []
  | cons entry listed ih =>
    exact (dimensionsOf_only asks keeps entry.2).bindOk fun _ => ih.bindOk fun _ => stepsOnly_ok _

end Dimensions

theorem positionsAlong_only (asks : ∀ r id, P (.dimensionPosition r id)) (r : Record)
    (known : NameMap Nat) (dims : List Dimension) :
    StepsOnly P part (positionsAlong r known dims).run := by
  induction dims generalizing known with
  | nil => exact stepsOnly_ok known
  | cons dim dims ih =>
    exact (query_only (Procedure.ensures_call (asks r dim.id))).bindOk fun n => ih _

end Only

/-! The agent of a catalog stays, whatever is asked. -/

theorem list_inquires : StepsOnly Call.IsInquiry Catalog.agent list.run :=
  list_only (fun _ => trivial) (fun _ _ => rfl) (fun _ => trivial) fun _ _ => rfl

theorem lookup_inquires (name : String) :
    StepsOnly Call.IsInquiry Catalog.agent (lookup name).run :=
  list_inquires.bindOk fun _ => stepsOnly_ok _

theorem recordCountOf_inquires (id : CounterId) :
    StepsOnly Call.IsInquiry Catalog.agent (recordCountOf id).run :=
  recordCountOf_only (fun _ => trivial) (fun _ _ => rfl) id

theorem nameOf_names (r : Record) : StepsOnly Call.IsNaming Catalog.agent (nameOf r) :=
  nameOf_only (fun _ => trivial) (fun _ _ => rfl) r

theorem nameOf_inquires (r : Record) : StepsOnly Call.IsInquiry Catalog.agent (nameOf r) :=
  (nameOf_names r).mono fun _ => Call.IsNaming.isInquiry

end Catalog

end CounterSampling
