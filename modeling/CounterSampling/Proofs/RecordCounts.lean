import CounterSampling.Proofs.Device.Grid
import Mathlib.Algebra.BigOperators.Group.List.Lemmas

/-!
# Record counts are exact

The records of a counter are counted by multiplying the extents of its dimensions up, one after
another, and the count is given up as soon as a product does not fit a word. No extent is zero, so
products never decrease on the way: the count is given up only where the product of all extents does
not fit either, whatever the order of the dimensions. Main statement: `recordCount_exact`.
-/

namespace CounterSampling

variable {dims dims' : List Dimension}

/-- The grid has as many instances as the product of the sizes says, where zero counts as one. -/
theorem gridSize_eq_prod (dims : List Dimension) :
    gridSize dims = (dims.map fun dim => max dim.size.toNat 1).prod := by
  induction dims with
  | nil => rfl
  | cons dim dims ih =>
    rw [gridSize, ih, List.map_cons, List.prod_cons]
    rfl

theorem gridSize_perm (same : dims'.Perm dims) : gridSize dims' = gridSize dims := by
  rw [gridSize_eq_prod, gridSize_eq_prod]
  apply List.Perm.prod_eq
  exact same.map _

/-- A grid that lacks some of the dimensions divides the whole grid into equal parts. -/
theorem gridSize_dvd (part : dims'.Sublist dims) : gridSize dims' ∣ gridSize dims := by
  rw [gridSize_eq_prod, gridSize_eq_prod]
  apply List.Sublist.prod_dvd_prod
  exact part.map _

theorem gridSize_le (part : dims'.Sublist dims) : gridSize dims' ≤ gridSize dims := by
  apply Nat.le_of_dvd
  · exact gridSize_pos dims
  · exact gridSize_dvd part

/-- Record counts do not depend on the order of the dimensions. -/
theorem recordCount?_perm (same : dims'.Perm dims) : recordCount? dims' = recordCount? dims := by
  apply Option.ext
  intro n
  rw [recordCount?_eq_some_iff, recordCount?_eq_some_iff, gridSize_perm same]

/-- Where the records of a counter can be counted, so can those along some of its dimensions, and
these are no more. -/
theorem recordCount?_sublist (part : dims'.Sublist dims) {n : Nat}
    (counted : recordCount? dims = some n) : ∃ n', recordCount? dims' = some n' ∧ n' ≤ n := by
  obtain ⟨rfl, within⟩ := recordCount?_eq_some_iff.1 counted
  have fewer := gridSize_le part
  refine ⟨gridSize dims', ?_, fewer⟩
  rw [recordCount?_eq_some_iff]
  exact ⟨rfl, Nat.le_trans fewer within⟩

/-- The record count is the product of the sizes, where zero counts as one, if this product fits a
word, and there is none otherwise. So it is at least one, it does not depend on the order of the
dimensions, and leaving some of them out neither loses it nor makes it larger. Where it has to be a
number in any case, also for a counter, it is the product cut off at the largest word. -/
theorem recordCount_exact (dims : List Dimension) :
    let size := (dims.map fun dim => max dim.size.toNat 1).prod
    (∀ n, recordCount? dims = some n ↔ size = n ∧ n ≤ Word.max) ∧
    (recordCount? dims = none ↔ Word.max < size) ∧
    (∀ n, recordCount? dims = some n → 1 ≤ n) ∧
    (∀ dims', dims'.Perm dims → recordCount? dims' = recordCount? dims) ∧
    (∀ dims' n, dims'.Sublist dims → recordCount? dims = some n →
      ∃ n', recordCount? dims' = some n' ∧ n' ≤ n) ∧
    recordCount dims = min size Word.max ∧
    ∀ c : Counter, c.dimensions = dims → c.recordCount = min size Word.max := by
  intro size
  have whole : gridSize dims = size := gridSize_eq_prod dims
  refine ⟨?_, ?_, ?_, ?_, ?_, ?_, ?_⟩
  · intro n
    rw [← whole]
    exact recordCount?_eq_some_iff
  · rw [← whole]
    exact recordCount?_eq_none_iff
  · intro n counted
    exact (recordCount?_bounds counted).1
  · intro dims' same
    exact recordCount?_perm same
  · intro dims' n part counted
    exact recordCount?_sublist part counted
  · rw [← whole]
    exact recordCount_eq_min dims
  · intro c own
    rw [Counter.recordCount, own, ← whole]
    exact recordCount_eq_min dims

/-- The largest word is a record count still, with an unpopulated dimension at either end. One more
place along another dimension is one too many, wherever that dimension stands. -/
theorem recordCount_exact_largest :
    let long : Dimension := ⟨⟨0⟩, "XCC", 0xffffffffffffffff⟩
    let empty : Dimension := ⟨⟨1⟩, "SE", 0⟩
    let pair : Dimension := ⟨⟨2⟩, "CU", 2⟩
    recordCount? [long, empty] = some Word.max ∧
      recordCount? [empty, long] = some Word.max ∧
      (∃ n, recordCount? [empty] = some n ∧ n ≤ Word.max) ∧
      recordCount? [pair, empty, long] = none ∧
      (Counter.mk ⟨0x100⟩ "WAVES" [pair, empty, long]).recordCount = Word.max := by
  intro long empty pair
  obtain ⟨some_iff, -, -, order, part, -, -⟩ := recordCount_exact [long, empty]
  obtain ⟨-, none_iff, -, -, -, -, counter⟩ := recordCount_exact [pair, empty, long]
  have counted : recordCount? [long, empty] = some Word.max := by
    apply (some_iff Word.max).2
    decide +kernel
  refine ⟨counted, ?_, ?_, ?_, ?_⟩
  · rw [order [empty, long] (.swap long empty [])]
    exact counted
  · apply part [empty] Word.max _ counted
    exact List.sublist_cons_self long [empty]
  · apply none_iff.2
    decide +kernel
  · rw [counter _ rfl]
    decide +kernel

end CounterSampling
