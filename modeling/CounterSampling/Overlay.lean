import CounterSampling.Backend

/-!
# Overlays

An overlay narrows and distorts what a backend answers: sets that count as too large or as
incompatible, counters that are hidden or made up, queries that fail, records under another
counter's number and reads that claim more than they wrote. It serves to see how the sampler fares
on devices less regular than the simulated one.
-/

namespace CounterSampling

structure Overlay where
  /-- Pairs of counters that cannot be configured together. -/
  incompatible : List (CounterId × CounterId) := []
  /-- The weights of counters; a counter without one weighs nothing. -/
  weights : List (CounterId × Nat) := []
  /-- The most a set may weigh. -/
  budget : Option Nat := none
  /-- Pairs of counters that count as exceeding the capacity together. -/
  conflicts : List (CounterId × CounterId) := []
  /-- Counters left out when counters are listed. -/
  hidden : List CounterId := []
  /-- Counters added when counters are listed. -/
  extra : List CounterId := []
  badNames : List CounterId := []
  badDimensions : List CounterId := []
  badPositions : List DimensionId := []
  badContexts : List AgentId := []
  /-- Counters whose records are given out under another number. -/
  relabel : List (CounterId × CounterId) := []
  /-- How many records more a read claims than it wrote. -/
  overRead : Nat := 0
  simulated : Option Bool := none

namespace Overlay

def incompatibleCounters : BackendError := ⟨33, "incompatible counters"⟩

def nameUnavailable : BackendError := ⟨-5, "name unavailable"⟩

def dimensionsUnavailable : BackendError := ⟨-6, "dimensions unavailable"⟩

def positionUnavailable : BackendError := ⟨-7, "position unavailable"⟩

def contextUnavailable : BackendError := ⟨-8, "context unavailable"⟩

/-- Whether a set holds both counters of some pair. -/
def holdsPair (pairs : List (CounterId × CounterId)) (ids : List CounterId) : Bool :=
  pairs.any fun p => ids.contains p.1 && ids.contains p.2

def weight (o : Overlay) : List CounterId → Nat
  | [] => 0
  | id :: ids => (o.weights.lookup id).getD 0 + o.weight ids

/-- Whether a set is over the budget, if there is one. -/
def overBudget (o : Overlay) (ids : List CounterId) : Bool :=
  match o.budget with
  | some budget => decide (budget < o.weight ids)
  | none => false

/-- A record under the number it is given out with. -/
def relabelRecord (o : Overlay) (r : Record) : Record :=
  match o.relabel.lookup r.counter with
  | some id => { r with counter := id }
  | none => r

/-- The records of a read with the front, which was written, relabelled. -/
def relabelRead (o : Overlay) {buffer : List Record} (r : ReadAnswer buffer) : ReadAnswer buffer :=
  match r.count with
  | .error _ => r
  | .ok n =>
    ⟨.ok (n + o.overRead), (r.records.take n).map o.relabelRecord ++ r.records.drop n, by
      have := r.sameLength
      simp only [List.length_append, List.length_map, List.length_take, List.length_drop]
      omega⟩

variable {σ : Type}

/-- Answer a call through the overlay. What the overlay fails does not reach the backend. -/
def answer (o : Overlay) (b : Backend σ) : (c : Call) → σ → c.Answer × σ
  | .supportedCounters agent, s =>
    let (r, s) := b.answer (.supportedCounters agent) s
    (r.map fun ids => ids.filter (fun id => !o.hidden.contains id) ++ o.extra, s)
  | .counterName id, s =>
    if o.badNames.contains id then (.error nameUnavailable, s) else b.answer (.counterName id) s
  | .counterDimensions id, s =>
    if o.badDimensions.contains id then (.error dimensionsUnavailable, s)
    else b.answer (.counterDimensions id) s
  | .dimensionPosition r id, s =>
    if o.badPositions.contains id then (.error positionUnavailable, s)
    else b.answer (.dimensionPosition r id) s
  | .tryConfigure agent ids, s =>
    if holdsPair o.incompatible ids then (.failed incompatibleCounters, s)
    else if o.overBudget ids then (.capacityExceeded, s)
    else if holdsPair o.conflicts ids then (.capacityExceeded, s)
    else b.answer (.tryConfigure agent ids) s
  | .createContext agent, s =>
    if o.badContexts.contains agent then (.error contextUnavailable, s)
    else b.answer (.createContext agent) s
  | .readRecords context buffer, s =>
    let (r, s) := b.answer (.readRecords context buffer) s
    (o.relabelRead r, s)
  | .simulated, s =>
    let (r, s) := b.answer .simulated s
    (o.simulated.getD r, s)
  | c, s => b.answer c s

def backend (o : Overlay) (b : Backend σ) : Backend σ where
  answer := o.answer b

end Overlay

end CounterSampling
