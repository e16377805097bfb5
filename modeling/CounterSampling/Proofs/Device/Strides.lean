import CounterSampling.Proofs.Device.Grid
import Mathlib.Algebra.BigOperators.Group.List.Basic

/-!
# Places along a dimension

The place of an instance along a dimension is its number divided by the stride, which is the number
of places of all later dimensions together, up to the extent of the dimension. A stride that does
not fit a word is cut off at the largest word. This makes a difference for one instance only, the
one whose number is the largest word: main statement `position_by_stride`.
-/

namespace CounterSampling

/-- Cutting off the divisor at the largest word changes the quotient of this word only. -/
theorem div_min_word {i stride : Nat} (word : i ≤ Word.max) :
    i / min stride Word.max =
      if Word.max < stride ∧ i = Word.max then 1 else i / stride := by
  rcases Nat.lt_or_ge Word.max stride with beyond | fits
  · rw [Nat.min_eq_right (Nat.le_of_lt beyond)]
    by_cases last : i = Word.max
    · rw [if_pos ⟨beyond, last⟩, last]
      decide
    · rw [if_neg fun both => last both.2, Nat.div_eq_of_lt (Nat.lt_of_le_of_ne word last),
        Nat.div_eq_of_lt (Nat.lt_of_le_of_lt word beyond)]
  · rw [Nat.min_eq_left fits, if_neg fun both => Nat.not_lt_of_le fits both.1]

namespace Device

/-- How many places there are along a dimension of this size: a size of zero counts as one. -/
def places (dim : String × UInt64) : Nat :=
  max dim.2.toNat 1

namespace Builder

/-- The grid of numbered dimensions has as many instances as the product of their places says. -/
theorem gridSize_numberDimensions (n : Nat) (dims : List (String × UInt64)) :
    gridSize (numberDimensions n dims) = (dims.map places).prod := by
  induction dims generalizing n with
  | nil => rfl
  | cons dim dims ih =>
    rw [List.map_cons, List.prod_cons, ← ih (n + 1)]
    rfl

/-- The dimension at an index, between those before it and those after it. -/
theorem numberDimensions_split (n : Nat) {dims : List (String × UInt64)} {i : Nat}
    (inside : i < dims.length) :
    ∃ before : List Dimension, before.length = i ∧
      numberDimensions n dims = before ++ ⟨⟨.ofNat (n + i)⟩, dims[i].1, dims[i].2⟩ ::
        numberDimensions (n + i + 1) (dims.drop (i + 1)) := by
  induction dims generalizing n i with
  | nil => exact absurd inside (Nat.not_lt_zero i)
  | cons dim dims ih =>
    cases i with
    | zero => exact ⟨[], rfl, rfl⟩
    | succ i =>
      obtain ⟨before, length, split⟩ := ih (n + 1) (Nat.lt_of_succ_lt_succ inside)
      have next : n + (i + 1) = n + 1 + i := by omega
      refine ⟨⟨⟨.ofNat n⟩, dim.1, dim.2⟩ :: before, congrArg (· + 1) length, ?_⟩
      rw [next]
      exact congrArg (_ :: ·) split

end Builder

variable {d : Device} {c : DeviceCounter}

/-- The records of a counter have numbers below the largest word. -/
theorem instance_of_mem_records {limit : Nat} {r : Record} (mem : r ∈ DeviceCounter.records c limit) :
    r.counter = c.id ∧ r.instanceIndex.toNat < Word.max := by
  obtain ⟨i, below, rfl⟩ := List.mem_map.1 mem
  have few : i < Word.max := by
    have within := Nat.lt_of_lt_of_le (List.mem_range.1 below) (Nat.min_le_left _ _)
    rw [recordCount_eq_min] at within
    exact Nat.lt_of_lt_of_le within (Nat.min_le_right _ _)
  refine ⟨rfl, ?_⟩
  rw [UInt64.toNat_ofNat_of_lt' (Nat.lt_of_lt_of_le few (Nat.sub_le _ _))]
  exact few

/-- Where a record lies along the dimension at an index. -/
theorem position_at {r : Record} (there : d.counter? r.counter = some c)
    {dims : List (String × UInt64)} (numbered : c.dimensions = Builder.numberDimensions 0 dims)
    (words : dims.length ≤ Word.max) {i : Nat} (inside : i < dims.length) :
    let stride := ((dims.drop (i + 1)).map places).prod
    d.position r ⟨.ofNat i⟩ = .ok (if Word.max < stride ∧ r.instanceIndex.toNat = Word.max then
      1 % places dims[i] else r.instanceIndex.toNat / stride % places dims[i]) := by
  intro stride
  obtain ⟨before, length, split⟩ := Builder.numberDimensions_split 0 inside
  rw [Nat.zero_add, ← numbered] at split
  have fresh : (⟨.ofNat i⟩ : DimensionId) ∉ before.map fun dim => dim.id := by
    have numbers := Builder.nodup_numbers words
    rw [← numbered, split, List.map_append, List.map_cons] at numbers
    exact fun old => (List.nodup_append.1 numbers).2.2 _ old _ List.mem_cons_self rfl
  have word : r.instanceIndex.toNat ≤ Word.max := Nat.le_pred_of_lt r.instanceIndex.toNat_lt
  have placed := position_split there split fresh
  rw [recordCount_eq_min, Builder.gridSize_numberDimensions, div_min_word word, apply_ite (· % _)]
    at placed
  exact placed

/-- Where a record of a counter lies along the dimension at an index, for dimensions of any
sizes: neither divisor is zero, and the place is the exact one, except for the record whose
number is the largest word, where a stride beyond the word counts as this word. The device gives
no such record. -/
theorem position_by_stride (there : d.counter? c.id = some c) {dims : List (String × UInt64)}
    (numbered : c.dimensions = Builder.numberDimensions 0 dims) (words : dims.length ≤ Word.max)
    {i : Nat} (inside : i < dims.length) (s : State) :
    let stride := ((dims.drop (i + 1)).map places).prod
    0 < recordCount (c.dimensions.drop (i + 1)) ∧ 0 < places dims[i] ∧
    (∀ r : Record, r.counter = c.id → d.answer (.dimensionPosition r ⟨.ofNat i⟩) s =
      (.ok (if Word.max < stride ∧ r.instanceIndex.toNat = Word.max then 1 % places dims[i]
        else r.instanceIndex.toNat / stride % places dims[i]), s)) ∧
    ∀ limit, ∀ r ∈ DeviceCounter.records c limit,
      d.answer (.dimensionPosition r ⟨.ofNat i⟩) s =
        (.ok (r.instanceIndex.toNat / stride % places dims[i]), s) := by
  intro stride
  refine ⟨recordCount_pos _, Nat.lt_of_lt_of_le Nat.one_pos (Nat.le_max_right _ _), ?_, ?_⟩
  · intro r own
    exact congrArg (·, s) (position_at (own ▸ there) numbered words inside)
  · intro limit r mem
    obtain ⟨own, below⟩ := instance_of_mem_records mem
    have placed := position_at (own ▸ there) numbered words inside
    dsimp only at placed
    rw [if_neg fun both => Nat.ne_of_lt below both.2] at placed
    exact congrArg (·, s) placed

/-- A GPU with a counter that has more instances along its last two dimensions than there are
words. -/
def wide : Builder :=
  let gpu : AgentInfo := ⟨⟨1⟩, .gpu, "gfx942", 10001, 128, 1⟩
  (Builder.agent {} gpu).counter "WAVES" [("XCC", 2), ("SE", 0x100000000), ("CU", 0x100000000)] 1.0

/-- The last number but one lies where it should. -/
theorem position_by_stride_wide :
    let dims : List (String × UInt64) := [("XCC", 2), ("SE", 0x100000000), ("CU", 0x100000000)]
    let c : DeviceCounter := ⟨⟨⟨0x100⟩, "WAVES", Builder.numberDimensions 0 dims⟩, 1.0⟩
    let r : Record := ⟨0xfffffffffffffffe, c.id, 1.0⟩
    wide.device.counter? c.id = some c ∧ dims.length ≤ Word.max ∧ 0 < dims.length ∧
      Word.max < ((dims.drop 1).map places).prod ∧
      wide.device.answer (.dimensionPosition r ⟨0⟩) wide.initial = (.ok 0, wide.initial) := by
  intro dims c r
  have there : wide.device.counter? c.id = some c := rfl
  have words : dims.length ≤ Word.max := by decide
  have inside : 0 < dims.length := by decide
  have beyond : Word.max < ((dims.drop 1).map places).prod := by decide +kernel
  obtain ⟨-, -, general, -⟩ := position_by_stride there rfl words inside wide.initial
  have small : r.instanceIndex.toNat < Word.max := by decide +kernel
  have none : r.instanceIndex.toNat / ((dims.drop 1).map places).prod = 0 :=
    Nat.div_eq_of_lt (Nat.lt_trans small beyond)
  have placed := general r rfl
  rw [if_neg fun both => Nat.ne_of_lt small both.2, none] at placed
  exact ⟨there, words, inside, beyond, placed⟩

/-- The last number does not: it is less than the exact stride, but it lies at the second place. -/
theorem position_last_word :
    let last : Record := ⟨0xffffffffffffffff, ⟨0x100⟩, 1.0⟩
    let dims : List (String × UInt64) := [("XCC", 2), ("SE", 0x100000000), ("CU", 0x100000000)]
    (wide.device.counter? last.counter).map (fun c => c.dimensions) =
        some (Builder.numberDimensions 0 dims) ∧
      wide.device.position last ⟨0⟩ = .ok 1 ∧
      last.instanceIndex.toNat / ((dims.drop 1).map places).prod % 2 = 0 := by
  decide +kernel

end Device

end CounterSampling
