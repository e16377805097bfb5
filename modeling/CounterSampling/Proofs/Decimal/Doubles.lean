import CounterSampling.Decimal.Binary64
import Mathlib.Algebra.Order.Field.Power
import Mathlib.Tactic.Linarith
import Mathlib.Tactic.Ring

/-!
# What is nearest to a double

The magnitudes of doubles are those that are decoded from bits, `Binary.Canonical`, and between a
magnitude and the next ones there is nothing. So the numbers up to halfway to the next ones,
`Binary.Catches`, are nearer to the magnitude than to any other: `Binary.Catches.nearest`. No number
is nearest to two magnitudes: `Binary.Nearest.unique`.
-/

namespace CounterSampling.Decimal

namespace Binary

/-- The distance to the next magnitude above. -/
def unit (b : Binary) : ℚ :=
  2 ^ b.exponent

/-- The distance to the next magnitude below. -/
def unitBelow (b : Binary) : ℚ :=
  if b.narrowBelow then b.unit / 2 else b.unit

/-- The number that a magnitude is. -/
def value (b : Binary) : ℚ :=
  b.mantissa * b.unit

/-- The magnitude is in the form that decoding gives it. The mantissa has a leading bit, unless the
exponent is the lowest. -/
structure Canonical (b : Binary) : Prop where
  fits : b.mantissa < 2 ^ 53
  lowest : -1074 ≤ b.exponent
  leading : b.exponent = -1074 ∨ 2 ^ 52 ≤ b.mantissa
  narrow_iff : b.narrowBelow = true ↔ b.mantissa = 2 ^ 52 ∧ b.exponent ≠ -1074

/-- A number is nearer to this magnitude than to any other. Of two that are equally near it is the
one with an even mantissa. -/
def Nearest (b : Binary) (q : ℚ) : Prop :=
  ∀ b' : Binary, b'.Canonical → b' ≠ b → |q - b.value| < |q - b'.value| ∨
    |q - b.value| = |q - b'.value| ∧ b.mantissa % 2 = 0 ∧ b'.mantissa % 2 = 1

/-- A number is at most halfway to the next magnitudes, and less if the mantissa is odd. -/
def Catches (b : Binary) (q : ℚ) : Prop :=
  if b.mantissa % 2 = 0 then b.value - b.unitBelow / 2 ≤ q ∧ q ≤ b.value + b.unit / 2
  else b.value - b.unitBelow / 2 < q ∧ q < b.value + b.unit / 2

variable {b b' : Binary} {q : ℚ}

theorem unit_pos (b : Binary) : 0 < b.unit :=
  zpow_pos (by norm_num) _

theorem value_nonneg (b : Binary) : 0 ≤ b.value :=
  mul_nonneg (Nat.cast_nonneg _) b.unit_pos.le

/-- What is decoded is canonical. -/
theorem canonical_of_bits {bits : Nat} {negative : Bool}
    (decoded : Binary64.ofBits bits = .finite negative b) : b.Canonical := by
  unfold Binary64.ofBits at decoded
  have fraction_lt : bits % Nat.pow 2 52 < 2 ^ 52 := Nat.mod_lt _ (by decide)
  generalize bits % Nat.pow 2 52 = fraction at decoded fraction_lt
  generalize bits / Nat.pow 2 52 % Nat.pow 2 11 = biased at decoded
  dsimp only at decoded
  split at decoded
  · split at decoded <;> cases decoded
  split at decoded
  · cases decoded
    refine ⟨?_, Int.le_refl _, .inl rfl, ⟨nofun, fun ⟨_, other⟩ => absurd rfl other⟩⟩
    exact lt_trans fraction_lt (by decide)
  · cases decoded
    refine ⟨?_, ?_, .inr (Nat.le_add_right _ _), ?_⟩
    · change 2 ^ 52 + fraction < 2 ^ 53
      omega
    · change (-1074 : Int) ≤ biased - 1075
      omega
    · change (fraction == 0 && biased != 1) = true ↔
        2 ^ 52 + fraction = 2 ^ 52 ∧ (biased : Int) - 1075 ≠ -1074
      rw [Bool.and_eq_true, beq_iff_eq, bne_iff_ne]
      omega

/-- Magnitudes of a canonical form that are further up have no smaller exponent. -/
theorem Canonical.exponent_le (h : b.Canonical) (h' : b'.Canonical) (le : b.value ≤ b'.value) :
    b.exponent ≤ b'.exponent := by
  by_contra above
  obtain ⟨k, up⟩ : ∃ k : Nat, b.exponent = b'.exponent + (k + 1 : Nat) :=
    ⟨(b.exponent - b'.exponent - 1).toNat, by omega⟩
  have unit_eq : b.unit = 2 ^ (k + 1) * b'.unit := by
    rw [unit, unit, up, zpow_add₀ (by norm_num), zpow_natCast, mul_comm]
  have leading : 2 ^ 52 ≤ b.mantissa := h.leading.resolve_left (by have := h'.lowest; omega)
  have many : b'.mantissa < b.mantissa * 2 ^ (k + 1) := by
    have := h'.fits
    have : 2 ^ 52 * 2 ^ 1 ≤ b.mantissa * 2 ^ (k + 1) :=
      Nat.mul_le_mul leading (Nat.pow_le_pow_right (by decide) (by omega))
    omega
  refine absurd le (not_le.2 ?_)
  have many : (b'.mantissa : ℚ) < b.mantissa * 2 ^ (k + 1) := by exact_mod_cast many
  rw [value, value, unit_eq, ← mul_assoc]
  exact mul_lt_mul_of_pos_right many b'.unit_pos

/-- A mantissa with the places of one further down. -/
theorem Canonical.shift (h : b.Canonical) (h' : b'.Canonical) (le : b.value ≤ b'.value) :
    ∃ k : Nat, b'.exponent = b.exponent + k ∧ b'.unit = 2 ^ k * b.unit := by
  have := h.exponent_le h' le
  refine ⟨(b'.exponent - b.exponent).toNat, by omega, ?_⟩
  have up : b'.exponent = b.exponent + ((b'.exponent - b.exponent).toNat : Nat) := by omega
  rw [unit, unit]
  nth_rewrite 1 [up]
  rw [zpow_add₀ (by norm_num), zpow_natCast, mul_comm]

/-- Different magnitudes are different numbers. -/
theorem Canonical.ext_value (h : b.Canonical) (h' : b'.Canonical) (same : b.value = b'.value) :
    b = b' := by
  have exponents : b.exponent = b'.exponent :=
    le_antisymm (h.exponent_le h' same.le) (h'.exponent_le h same.ge)
  have mantissas : b.mantissa = b'.mantissa := by
    rw [value, value, unit, unit, exponents] at same
    exact_mod_cast mul_right_cancel₀ (zpow_ne_zero _ (by norm_num)) same
  have narrow : b.narrowBelow = b'.narrowBelow := by
    rw [Bool.eq_iff_iff, h.narrow_iff, h'.narrow_iff, exponents, mantissas]
  cases b
  cases b'
  cases exponents
  cases mantissas
  cases narrow
  rfl

/-- Between the mantissas of two magnitudes, the second of them with `k` more places, there is a
whole unit of either. If it is no more, one of the mantissas is odd. -/
theorem mantissa_gap {m m' k : Nat} (fits : m < 2 ^ 53) (leading : k = 0 ∨ 2 ^ 52 ≤ m')
    (less : m < m' * 2 ^ k) :
    m + 1 ≤ m' * 2 ^ k ∧ (m + 1 = m' * 2 ^ k → m % 2 ≠ m' % 2) := by
  refine ⟨less, fun next => ?_⟩
  cases k with
  | zero => omega
  | succ j =>
    have leading : 2 ^ 52 ≤ m' := leading.resolve_left (Nat.succ_ne_zero j)
    have grows : m' ≤ m' * 2 ^ j := Nat.le_mul_of_pos_right m' (Nat.two_pow_pos j)
    rw [Nat.pow_succ, ← Nat.mul_assoc] at next
    omega

/-- Likewise for the unit of the second, which is half as large if the mantissa is the lowest that
has a leading bit. -/
theorem mantissa_gap_below {m m' k : Nat} (fits : m < 2 ^ 53) (leading : k = 0 ∨ 2 ^ 52 ≤ m')
    (less : m < m' * 2 ^ k) (wide : k = 0 ∨ m' ≠ 2 ^ 52) :
    m + 2 ^ k ≤ m' * 2 ^ k ∧ (m + 2 ^ k = m' * 2 ^ k → m % 2 ≠ m' % 2) := by
  cases k with
  | zero => omega
  | succ j =>
    have leading : 2 ^ 52 ≤ m' := leading.resolve_left (Nat.succ_ne_zero j)
    have wide : m' ≠ 2 ^ 52 := wide.resolve_left (Nat.succ_ne_zero j)
    obtain ⟨n, rfl⟩ : ∃ n, m' = 2 ^ 52 + 1 + n := ⟨m' - 2 ^ 52 - 1, by omega⟩
    have grows : 2 ^ 52 + n ≤ (2 ^ 52 + n) * 2 ^ j :=
      Nat.le_mul_of_pos_right _ (Nat.two_pow_pos j)
    have split : (2 ^ 52 + 1 + n) * 2 ^ (j + 1) = 2 ^ (j + 1) + 2 * ((2 ^ 52 + n) * 2 ^ j) := by
      ring
    omega

theorem mantissa_gap_narrow {m k : Nat} (fits : m < 2 ^ 53) (less : m < 2 ^ 52 * 2 ^ k) :
    2 * m + 2 ^ k ≤ 2 * (2 ^ 52 * 2 ^ k) ∧ (2 * m + 2 ^ k = 2 * (2 ^ 52 * 2 ^ k) → m % 2 = 1) := by
  cases k with
  | zero => omega
  | succ j =>
    have positive := Nat.two_pow_pos j
    rw [Nat.pow_succ]
    omega

theorem units_le_iff {m n : Nat} : m * b.unit ≤ n * b.unit ↔ m ≤ n := by
  rw [mul_le_mul_iff_left₀ b.unit_pos, Nat.cast_le]

theorem units_lt_iff {m n : Nat} : m * b.unit < n * b.unit ↔ m < n := by
  rw [mul_lt_mul_iff_left₀ b.unit_pos, Nat.cast_lt]

theorem units_inj {m n : Nat} : m * b.unit = n * b.unit ↔ m = n := by
  rw [mul_left_inj' b.unit_pos.ne', Nat.cast_inj]

/-- A magnitude further up is a larger number of units. -/
theorem Canonical.mantissas (h : b.Canonical) (h' : b'.Canonical) (less : b.value < b'.value) :
    ∃ k : Nat, b'.unit = 2 ^ k * b.unit ∧ b'.value = (b'.mantissa * 2 ^ k : Nat) * b.unit ∧
      b.mantissa < b'.mantissa * 2 ^ k ∧ (k = 0 ∨ b'.exponent ≠ -1074) := by
  obtain ⟨k, up, unit_eq⟩ := h.shift h' less.le
  have value_eq : b'.value = (b'.mantissa * 2 ^ k : Nat) * b.unit := by
    rw [value, unit_eq]
    push_cast
    ring
  refine ⟨k, unit_eq, value_eq, ?_, ?_⟩
  · rw [value_eq] at less
    exact units_lt_iff.1 less
  · have := h.lowest
    omega

/-- From a magnitude to one further up it is at least a unit of the former, and if it is no more,
one mantissa is odd and the other even. -/
theorem Canonical.gap (h : b.Canonical) (h' : b'.Canonical) (less : b.value < b'.value) :
    b.value + b.unit ≤ b'.value ∧
      (b.value + b.unit = b'.value → b.mantissa % 2 ≠ b'.mantissa % 2) := by
  obtain ⟨k, -, above, mantissa_lt, up⟩ := h.mantissas h' less
  have next : b.value + b.unit = (b.mantissa + 1 : Nat) * b.unit := by
    rw [value]
    push_cast
    ring
  rw [next, above, units_le_iff, units_inj]
  exact mantissa_gap h.fits (up.imp_right h'.leading.resolve_left) mantissa_lt

/-- Likewise for the unit below the latter. -/
theorem Canonical.gap_below (h : b.Canonical) (h' : b'.Canonical) (less : b.value < b'.value) :
    b.value + b'.unitBelow ≤ b'.value ∧
      (b.value + b'.unitBelow = b'.value → b.mantissa % 2 ≠ b'.mantissa % 2) := by
  obtain ⟨k, unit_eq, above, mantissa_lt, up⟩ := h.mantissas h' less
  rw [unitBelow, unit_eq, above]
  by_cases narrow : b'.narrowBelow = true
  · have lowest := (h'.narrow_iff.1 narrow).1
    rw [if_pos narrow]
    rw [lowest] at mantissa_lt ⊢
    have ⟨le, odd⟩ := mantissa_gap_narrow h.fits mantissa_lt
    -- Half a unit is no whole number of units, so both sides are doubled.
    have next : 2 * (b.value + 2 ^ k * b.unit / 2) = (2 * b.mantissa + 2 ^ k : Nat) * b.unit := by
      rw [value]
      push_cast
      ring
    have double : 2 * ((2 ^ 52 * 2 ^ k : Nat) * b.unit) =
        (2 * (2 ^ 52 * 2 ^ k) : Nat) * b.unit := by
      push_cast
      ring
    rw [← units_le_iff (b := b), ← next, ← double] at le
    refine ⟨by linarith only [le], fun same => ?_⟩
    have := odd (units_inj.1 (by rw [← next, ← double, same]))
    omega
  · have wide : k = 0 ∨ b'.mantissa ≠ 2 ^ 52 :=
      up.imp_right fun up lowest => narrow (h'.narrow_iff.2 ⟨lowest, up⟩)
    have next : b.value + 2 ^ k * b.unit = (b.mantissa + 2 ^ k : Nat) * b.unit := by
      rw [value]
      push_cast
      ring
    rw [if_neg narrow, next, units_le_iff, units_inj]
    exact mantissa_gap_below h.fits (up.imp_right h'.leading.resolve_left) mantissa_lt wide

/-- What a magnitude catches is within these bounds, and meets them only with an even mantissa. -/
theorem Catches.bounds (h : b.Catches q) :
    b.value - b.unitBelow / 2 ≤ q ∧ q ≤ b.value + b.unit / 2 ∧
      (b.value - b.unitBelow / 2 = q ∨ q = b.value + b.unit / 2 → b.mantissa % 2 = 0) := by
  unfold Catches at h
  split at h
  next even => exact ⟨h.1, h.2, fun _ => even⟩
  · refine ⟨h.1.le, h.2.le, ?_⟩
    rintro (same | same)
    · exact absurd same h.1.ne
    · exact absurd same h.2.ne

/-- What a magnitude catches is nearest to it. -/
theorem Catches.nearest (h : b.Canonical) (caught : b.Catches q) : b.Nearest q := by
  intro b' h' other
  obtain ⟨low, high, ends⟩ := caught.bounds
  have positive := b.unit_pos
  have different : b'.value ≠ b.value := fun same => other (h'.ext_value h same)
  rcases lt_or_gt_of_ne different with below | above
  · have ⟨gap, odd⟩ := h'.gap_below h below
    have far : |q - b'.value| = q - b'.value := abs_of_nonneg (by linarith)
    rw [far]
    rcases le_total q b.value with left | right
    · rw [abs_of_nonpos (by linarith)]
      rcases lt_or_eq_of_le (show -(q - b.value) ≤ q - b'.value by linarith) with less | same
      · exact .inl less
      · have even := ends (.inl (by linarith))
        have := odd (by linarith)
        exact .inr ⟨same, even, by omega⟩
    · rw [abs_of_nonneg (by linarith)]
      exact .inl (by linarith)
  · have ⟨gap, odd⟩ := h.gap h' above
    have far : |q - b'.value| = -(q - b'.value) := abs_of_nonpos (by linarith)
    rw [far]
    rcases le_total q b.value with left | right
    · rw [abs_of_nonpos (by linarith)]
      exact .inl (by linarith)
    · rw [abs_of_nonneg (by linarith)]
      rcases lt_or_eq_of_le (show q - b.value ≤ -(q - b'.value) by linarith) with less | same
      · exact .inl less
      · have even := ends (.inr (by linarith))
        have := odd (by linarith)
        exact .inr ⟨same, even, by omega⟩

/-- No number is nearest to two magnitudes. -/
theorem Nearest.unique (h : b.Canonical) (h' : b'.Canonical) (near : b.Nearest q)
    (near' : b'.Nearest q) : b = b' := by
  by_contra other
  rcases near b' h' (Ne.symm other) with less | ⟨same, even, -⟩
  · rcases near' b h other with less' | ⟨same', -, -⟩
    · exact lt_asymm less less'
    · exact less.ne' same'
  · rcases near' b h other with less' | ⟨-, -, odd⟩
    · exact less'.ne' same
    · omega

/-- A magnitude is nearest to itself. -/
theorem nearest_value (h : b.Canonical) : b.Nearest b.value := by
  apply Catches.nearest h
  have positive := b.unit_pos
  have positiveBelow : 0 < b.unitBelow := by
    unfold unitBelow
    split <;> linarith
  unfold Catches
  split <;> constructor <;> linarith

end Binary

end CounterSampling.Decimal
