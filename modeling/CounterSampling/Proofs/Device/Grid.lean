import CounterSampling.Device.Builder
import CounterSampling.Device.Answer
import Mathlib.Data.List.Forall2

/-!
# The grid of a counter

The instances of a counter lie in a grid with one axis per dimension, the last one varying fastest.
The tuple of an instance is found by division, and the instance of a tuple is the sum of its
positions, each times the size of the grid of the later dimensions. The two are inverse to each
other, and greater instances have greater tuples. What a simulated device answers about a record is
its place in this tuple.
-/

namespace CounterSampling

/-- How many instances there are along dimensions together. -/
def gridSize : List Dimension → Nat
  | [] => 1
  | dim :: dims => dim.extent * gridSize dims

/-- One position along each of the dimensions. -/
def Within (dims : List Dimension) (tuple : List Nat) : Prop :=
  List.Forall₂ (fun p dim => p < dim.extent) tuple dims

/-- The instance at a tuple of positions. -/
def instanceAt : List Dimension → List Nat → Nat
  | _ :: dims, p :: ps => p * gridSize dims + instanceAt dims ps
  | _, _ => 0

/-- The tuple of positions of an instance. -/
def tupleOf : List Dimension → Nat → List Nat
  | [], _ => []
  | dim :: dims, i => i / gridSize dims % dim.extent :: tupleOf dims i

theorem gridSize_pos (dims : List Dimension) : 0 < gridSize dims := by
  induction dims with
  | nil => exact Nat.zero_lt_one
  | cons dim dims ih => exact Nat.mul_pos dim.extent_pos ih

/-- An instance, of which only the place within the grid counts, is that of its first position and
that of its place within the later dimensions. -/
theorem mod_gridSize_cons (dim : Dimension) (dims : List Dimension) (i : Nat) :
    i % gridSize (dim :: dims) =
      i / gridSize dims % dim.extent * gridSize dims + i % gridSize dims := by
  rw [gridSize, Nat.mul_comm dim.extent, Nat.mod_mul, Nat.mul_comm, Nat.add_comm]

theorem within_tupleOf (dims : List Dimension) (i : Nat) : Within dims (tupleOf dims i) := by
  induction dims with
  | nil => exact .nil
  | cons dim dims ih => exact .cons (Nat.mod_lt _ dim.extent_pos) ih

theorem instanceAt_tupleOf (dims : List Dimension) (i : Nat) :
    instanceAt dims (tupleOf dims i) = i % gridSize dims := by
  induction dims with
  | nil => exact (Nat.mod_one i).symm
  | cons dim dims ih => rw [tupleOf, instanceAt, ih, mod_gridSize_cons]

theorem instanceAt_lt {dims : List Dimension} {tuple : List Nat} (within : Within dims tuple) :
    instanceAt dims tuple < gridSize dims := by
  induction within with
  | nil => exact Nat.zero_lt_one
  | @cons p dim ps dims inside _ ih =>
    have next : (p + 1) * gridSize dims ≤ dim.extent * gridSize dims :=
      Nat.mul_le_mul_right _ inside
    rw [Nat.succ_mul] at next
    rw [instanceAt, gridSize]
    omega

/-- Lesser instances have lesser tuples: the first position that differs decides. -/
theorem tupleOf_lt {dims : List Dimension} {i j : Nat}
    (less : i % gridSize dims < j % gridSize dims) :
    List.Lex (· < ·) (tupleOf dims i) (tupleOf dims j) := by
  induction dims with
  | nil =>
    rw [gridSize, Nat.mod_one, Nat.mod_one] at less
    exact (Nat.lt_irrefl 0 less).elim
  | cons dim dims ih =>
    rw [mod_gridSize_cons, mod_gridSize_cons] at less
    rw [tupleOf, tupleOf]
    have later := Nat.mod_lt j (gridSize_pos dims)
    rcases Nat.lt_trichotomy (i / gridSize dims % dim.extent) (j / gridSize dims % dim.extent) with
      first | first | first
    · exact .rel first
    · rw [first] at less ⊢
      exact .cons (ih (Nat.lt_of_add_lt_add_left less))
    · have beyond := Nat.mul_le_mul_right (gridSize dims) (Nat.succ_le_of_lt first)
      rw [Nat.succ_mul] at beyond
      omega

/-- What goes beyond the grid makes no difference to a tuple. -/
theorem tupleOf_add_mul (dims : List Dimension) (k i : Nat) :
    tupleOf dims (k * gridSize dims + i) = tupleOf dims i := by
  induction dims generalizing k with
  | nil => rfl
  | cons dim dims ih =>
    have beyond : k * gridSize (dim :: dims) + i = k * dim.extent * gridSize dims + i := by
      rw [gridSize, Nat.mul_assoc]
    have first : (k * dim.extent * gridSize dims + i) / gridSize dims % dim.extent =
        i / gridSize dims % dim.extent := by
      rw [Nat.mul_comm _ (gridSize dims), Nat.mul_add_div (gridSize_pos dims), Nat.mul_comm k,
        Nat.mul_add_mod]
    rw [beyond, tupleOf, tupleOf, first, ih]

/-- A tuple is found again from its instance. -/
theorem tupleOf_instanceAt {dims : List Dimension} {tuple : List Nat} (within : Within dims tuple) :
    tupleOf dims (instanceAt dims tuple) = tuple := by
  induction within with
  | nil => rfl
  | @cons p dim ps dims inside later ih =>
    have first : (p * gridSize dims + instanceAt dims ps) / gridSize dims % dim.extent = p := by
      rw [Nat.mul_comm, Nat.mul_add_div (gridSize_pos dims), Nat.div_eq_of_lt (instanceAt_lt later),
        Nat.add_zero, Nat.mod_eq_of_lt inside]
    rw [instanceAt, tupleOf, first, tupleOf_add_mul, ih]

/-! ## The whole grid -/

/-- The tuples of all instances. -/
def tuples (dims : List Dimension) : List (List Nat) :=
  (List.range (gridSize dims)).map (tupleOf dims)

theorem mem_tuples_iff {dims : List Dimension} {tuple : List Nat} :
    tuple ∈ tuples dims ↔ Within dims tuple := by
  constructor
  · intro mem
    obtain ⟨i, -, rfl⟩ := List.mem_map.1 mem
    exact within_tupleOf dims i
  · intro within
    refine List.mem_map.2 ⟨instanceAt dims tuple, ?_, tupleOf_instanceAt within⟩
    exact List.mem_range.2 (instanceAt_lt within)

theorem tuples_ascend (dims : List Dimension) :
    (tuples dims).Pairwise (List.Lex (· < ·)) := by
  refine List.pairwise_map.2 (List.Pairwise.imp_of_mem ?_ List.pairwise_lt_range)
  intro i j first second less
  refine tupleOf_lt ?_
  rw [Nat.mod_eq_of_lt (List.mem_range.1 first), Nat.mod_eq_of_lt (List.mem_range.1 second)]
  exact less

theorem map_instanceAt_tuples (dims : List Dimension) :
    (tuples dims).map (instanceAt dims) = List.range (gridSize dims) := by
  rw [tuples, List.map_map]
  refine (List.map_congr_left fun i mem => ?_).trans (List.map_id' _)
  exact (instanceAt_tupleOf dims i).trans (Nat.mod_eq_of_lt (List.mem_range.1 mem))

/-! ## Record counts -/

theorem recordCountFrom?_eq_some_iff {count n : Nat} {dims : List Dimension}
    (word : count ≤ Word.max) :
    recordCountFrom? count dims = some n ↔ count * gridSize dims = n ∧ n ≤ Word.max := by
  induction dims generalizing count with
  | nil =>
    rw [recordCountFrom?, gridSize, Nat.mul_one, Option.some_inj]
    exact ⟨fun same => ⟨same, same ▸ word⟩, And.left⟩
  | cons dim dims ih =>
    rw [recordCountFrom?, gridSize, ← Nat.mul_assoc]
    cases product : Word.mul? count dim.extent with
    | some count' =>
      obtain ⟨rfl, word'⟩ := Word.mul?_eq_some_iff.1 product
      exact ih word'
    | none =>
      refine ⟨nofun, ?_⟩
      rintro ⟨rfl, fits⟩
      -- Later products are no smaller, so none of them fits either.
      have grows := Nat.le_mul_of_pos_right (count * dim.extent) (gridSize_pos dims)
      rw [Word.mul?_eq_some_iff.2 ⟨rfl, Nat.le_trans grows fits⟩] at product
      cases product

/-- The record count is the size of the grid, where that fits a word. -/
theorem recordCount?_eq_some_iff {n : Nat} {dims : List Dimension} :
    recordCount? dims = some n ↔ gridSize dims = n ∧ n ≤ Word.max := by
  rw [recordCount?, recordCountFrom?_eq_some_iff (by decide), Nat.one_mul]

theorem recordCount?_bounds {n : Nat} {dims : List Dimension} (counted : recordCount? dims = some n) :
    1 ≤ n ∧ n ≤ Word.max := by
  obtain ⟨rfl, within⟩ := recordCount?_eq_some_iff.1 counted
  exact ⟨gridSize_pos dims, within⟩

theorem recordCount_of_fits {dims : List Dimension} (fits : gridSize dims ≤ Word.max) :
    recordCount dims = gridSize dims := by
  rw [recordCount, recordCount?_eq_some_iff.2 ⟨rfl, fits⟩]
  rfl

/-- There is no record count just where the grid does not fit a word. -/
theorem recordCount?_eq_none_iff {dims : List Dimension} :
    recordCount? dims = none ↔ Word.max < gridSize dims := by
  constructor
  · intro uncounted
    apply Nat.lt_of_not_le
    intro fits
    rw [recordCount?_eq_some_iff.2 ⟨rfl, fits⟩] at uncounted
    cases uncounted
  · intro beyond
    cases counted : recordCount? dims with
    | none => rfl
    | some n =>
      obtain ⟨rfl, within⟩ := recordCount?_eq_some_iff.1 counted
      exact absurd within (Nat.not_le_of_lt beyond)

/-- A record count is the size of the grid, cut off at the largest word. -/
theorem recordCount_eq_min (dims : List Dimension) :
    recordCount dims = min (gridSize dims) Word.max := by
  by_cases fits : gridSize dims ≤ Word.max
  · rw [recordCount_of_fits fits, Nat.min_eq_left fits]
  · have beyond := Nat.lt_of_not_le fits
    rw [Nat.min_eq_right (Nat.le_of_lt beyond), recordCount, recordCount?_eq_none_iff.2 beyond]
    rfl

theorem recordCount_pos (dims : List Dimension) : 0 < recordCount dims := by
  rw [recordCount_eq_min]
  exact Nat.lt_min.2 ⟨gridSize_pos dims, by decide⟩

/-! ## Positions -/

namespace Device

theorem splitDimensions_append {before later : List Dimension} {dim : Dimension}
    (fresh : dim.id ∉ before.map fun dim => dim.id) :
    splitDimensions dim.id (before ++ dim :: later) = some (dim, later) := by
  induction before with
  | nil => exact if_pos rfl
  | cons other before ih =>
    obtain ⟨differs, fresh⟩ := not_or.1 (mt List.mem_cons.2 fresh)
    rw [List.cons_append, splitDimensions, if_neg (Ne.symm differs), ih fresh]

/-- The position along a dimension is found by dividing by the record count of the later ones. -/
theorem position_split {d : Device} {r : Record} {c : DeviceCounter}
    (there : d.counter? r.counter = some c) {before later : List Dimension} {dim : Dimension}
    (split : c.dimensions = before ++ dim :: later)
    (fresh : dim.id ∉ before.map fun dim => dim.id) :
    d.position r dim.id = .ok (r.instanceIndex.toNat / recordCount later % dim.extent) := by
  have found := congrArg (splitDimensions dim.id) split
  rw [splitDimensions_append fresh] at found
  unfold position describe
  rw [there]
  dsimp only [bind, Except.bind]
  rw [found]
  rfl

/-- The position along a dimension is the one in the tuple of the instance. -/
theorem position_eq {d : Device} {r : Record} {c : DeviceCounter}
    (there : d.counter? r.counter = some c) {before later : List Dimension} {dim : Dimension}
    (split : c.dimensions = before ++ dim :: later)
    (fresh : dim.id ∉ before.map fun dim => dim.id) (fits : gridSize later ≤ Word.max) :
    d.position r dim.id = .ok (r.instanceIndex.toNat / gridSize later % dim.extent) := by
  rw [position_split there split fresh, recordCount_of_fits fits]

namespace Builder

theorem number_of_mem {n : Nat} {dims : List (String × UInt64)} {dim : Dimension}
    (mem : dim ∈ numberDimensions n dims) :
    ∃ i, n ≤ i ∧ i < n + dims.length ∧ dim.id = ⟨.ofNat i⟩ := by
  induction dims generalizing n with
  | nil => cases mem
  | cons d dims ih =>
    rw [List.length_cons]
    rcases List.mem_cons.1 mem with rfl | later
    · exact ⟨n, Nat.le_refl n, by omega, rfl⟩
    · obtain ⟨i, from', before, number⟩ := ih later
      exact ⟨i, by omega, by omega, number⟩

/-- The dimensions of a counter have different numbers, as long as there are words for them. -/
theorem nodup_numberDimensions {n : Nat} {dims : List (String × UInt64)}
    (words : n + dims.length ≤ UInt64.size) :
    ((numberDimensions n dims).map fun dim => dim.id).Nodup := by
  induction dims generalizing n with
  | nil => exact List.nodup_nil
  | cons d dims ih =>
    rw [List.length_cons] at words
    refine List.nodup_cons.2 ⟨fun mem => ?_, ih (by omega)⟩
    obtain ⟨dim, later, same⟩ := List.mem_map.1 mem
    obtain ⟨i, from', before, number⟩ := number_of_mem later
    rw [number] at same
    have equal : (UInt64.ofNat i).toNat = (UInt64.ofNat n).toNat :=
      congrArg (fun id : DimensionId => id.val.toNat) same
    rw [UInt64.toNat_ofNat_of_lt' (by omega), UInt64.toNat_ofNat_of_lt' (by omega)] at equal
    omega

/-- All dimensions of a counter have different numbers, if there are words for them. -/
theorem nodup_numbers {dims : List (String × UInt64)} (words : dims.length ≤ Word.max) :
    ((numberDimensions 0 dims).map fun dim => dim.id).Nodup := by
  refine nodup_numberDimensions ?_
  rw [Nat.zero_add]
  exact Nat.le_trans words (Nat.sub_le _ _)

theorem names_numberDimensions (n : Nat) (dims : List (String × UInt64)) :
    ((numberDimensions n dims).map fun dim => dim.name) = dims.map Prod.fst := by
  induction dims generalizing n with
  | nil => rfl
  | cons d dims ih => exact congrArg (d.1 :: ·) (ih (n + 1))

end Builder

end Device

end CounterSampling
