import CounterSampling.Decimal.Shortest
import CounterSampling.Proofs.Decimal.Doubles
import Mathlib.Data.Nat.Cast.Order.Field
import Mathlib.Data.Nat.Digits.Defs
import Mathlib.Tactic.FieldSimp

/-!
# The shortest decimal reads back

A decimal of few digits is only taken if the double is nearest to it, and with seventeen digits
there is one: so the shortest decimal of a magnitude is caught by it, `Binary.shortest_caught`.
-/

namespace CounterSampling.Decimal

/-- The number that a decimal is. -/
def Scaled.value (s : Scaled) : ℚ :=
  s.digits * 10 ^ s.exponent

theorem Scaled.value_stripZeros (fuel : Nat) (s : Scaled) :
    (s.stripZeros fuel).value = s.value := by
  induction fuel generalizing s with
  | zero => rfl
  | succ fuel ih =>
    unfold stripZeros
    split
    next strip =>
      rw [ih]
      have digits : (s.digits : ℚ) = (s.digits / 10 : Nat) * 10 := by
        exact_mod_cast (Nat.div_mul_cancel (Nat.dvd_of_mod_eq_zero strip.2)).symm
      rw [value, value, digits, zpow_add_one₀ (by norm_num)]
      ring
    · rfl

/-! ## Digits -/

theorem lt_pow_length_toDigits (n : Nat) : n < 10 ^ (Nat.toDigits 10 n).length := by
  induction n using Nat.strongRecOn with
  | ind n ih =>
    by_cases small : n < 10
    · exact lt_of_lt_of_le small (Nat.le_self_pow Nat.length_toDigits_pos.ne' 10)
    · rw [Nat.toDigits_of_base_le (by decide) (by omega), List.length_append, List.length_singleton,
        Nat.pow_succ]
      have := ih (n / 10) (by omega)
      omega

theorem lt_pow_digitCount (n : Nat) : n < 10 ^ digitCount n := by
  unfold digitCount
  split
  next zero => rw [zero]; decide
  · exact lt_pow_length_toDigits n

theorem pow_digitCount_le {n : Nat} (met : n ≠ 0) : 10 ^ (digitCount n - 1) ≤ n := by
  by_contra less
  rw [digitCount, if_neg met] at less
  have positive : 0 < (Nat.toDigits 10 n).length := Nat.length_toDigits_pos
  cases length : (Nat.toDigits 10 n).length - 1 with
  | zero =>
    rw [length] at less
    omega
  | succ d =>
    have := Nat.toDigits_length 10 n ((Nat.toDigits 10 n).length - 1) (by omega) (by omega)
    omega

theorem digitCount_pos {n : Nat} (met : n ≠ 0) : 0 < digitCount n := by
  rw [digitCount, if_neg met]
  exact Nat.length_toDigits_pos

/-! ## Grids -/

/-- A power with any exponent is a quotient of two whole powers. -/
theorem zpow_eq_quotient {a : ℚ} (positive : 0 < a) (e : Int) :
    a ^ e = a ^ e.toNat / a ^ (-e).toNat := by
  rw [← zpow_natCast, ← zpow_natCast, ← zpow_sub₀ positive.ne']
  congr 1
  omega

namespace Binary

variable {b : Binary}

theorem value_eq_quotient (b : Binary) :
    b.value =
      ((b.mantissa * 2 ^ b.exponent.toNat : Nat) : ℚ) / (2 ^ (-b.exponent).toNat : Nat) := by
  rw [value, unit, zpow_eq_quotient (by norm_num)]
  push_cast
  rw [mul_div_assoc]

/-- The decimal exponent does not exceed that of the magnitude. -/
theorem pow_decimalExponent_le (met : b.mantissa ≠ 0) :
    (10 : ℚ) ^ (b.decimalExponent - 1) ≤ b.value := by
  rw [value_eq_quotient]
  have num_pos : 0 < b.mantissa * 2 ^ b.exponent.toNat :=
    Nat.mul_pos (Nat.pos_of_ne_zero met) (Nat.two_pow_pos _)
  have den_pos := Nat.two_pow_pos (-b.exponent).toNat
  change (10 : ℚ) ^ ((if 2 ^ (-b.exponent).toNat ≤ b.mantissa * 2 ^ b.exponent.toNat then
    (digitCount (b.mantissa * 2 ^ b.exponent.toNat / 2 ^ (-b.exponent).toNat) : Int)
    else 1 - (digitCount ((2 ^ (-b.exponent).toNat + b.mantissa * 2 ^ b.exponent.toNat - 1) /
      (b.mantissa * 2 ^ b.exponent.toNat) - 1) : Int)) - 1) ≤ _
  generalize b.mantissa * 2 ^ b.exponent.toNat = num at num_pos ⊢
  generalize 2 ^ (-b.exponent).toNat = den at den_pos ⊢
  have den_pos' : (0 : ℚ) < den := Nat.cast_pos.2 den_pos
  split
  next large =>
    have whole : num / den ≠ 0 := (Nat.div_pos large den_pos).ne'
    have counted := digitCount_pos whole
    have exponent : (digitCount (num / den) : Int) - 1 = (digitCount (num / den) - 1 : Nat) := by
      omega
    rw [exponent, zpow_natCast]
    calc (10 : ℚ) ^ (digitCount (num / den) - 1) ≤ (num / den : Nat) := by
          exact_mod_cast pow_digitCount_le whole
      _ ≤ num / den := Nat.cast_div_le
  next small =>
    -- The denominator is at most `t + 1` numerators, and `t + 1` at most the power of its digits.
    have counted := lt_pow_digitCount ((den + num - 1) / num - 1)
    generalize digitCount ((den + num - 1) / num - 1) = d at counted ⊢
    have exponent : (1 - (d : Int)) - 1 = -(d : Int) := by omega
    have quotient : (den + num - 1) / num < 10 ^ d + 1 := by omega
    rw [Nat.div_lt_iff_lt_mul num_pos, Nat.add_mul] at quotient
    have covered : den ≤ 10 ^ d * num := by omega
    rw [exponent, zpow_neg, zpow_natCast, inv_eq_one_div, div_le_div_iff₀ (by positivity) den_pos',
      one_mul, mul_comm]
    exact_mod_cast covered

/-- Either a point of the grid is taken, which reads back, or neither the point below nor the one
above reads back. -/
theorem gridPoint?_cases (b : Binary) (tie : Tie) (g : Int) :
    (∃ c, b.gridPoint? tie g = some c ∧ b.readsBack g c = true) ∨
      b.gridPoint? tie g = none ∧
        b.readsBack g (b.mantissa * b.gridUnit g / b.gridStep g) = false ∧
        b.readsBack g (b.mantissa * b.gridUnit g / b.gridStep g + 1) = false := by
  unfold gridPoint?
  dsimp only
  cases low : b.readsBack g (b.mantissa * b.gridUnit g / b.gridStep g) <;>
    cases high : b.readsBack g (b.mantissa * b.gridUnit g / b.gridStep g + 1) <;> dsimp only
  · exact .inr ⟨rfl, rfl, rfl⟩
  · exact .inl ⟨_, rfl, high⟩
  · exact .inl ⟨_, rfl, low⟩
  · left
    split
    · exact ⟨_, rfl, low⟩
    split
    · exact ⟨_, rfl, high⟩
    cases tie with
    | away => exact ⟨_, rfl, high⟩
    | even =>
      dsimp only
      split
      · exact ⟨_, rfl, low⟩
      · exact ⟨_, rfl, high⟩

section Grid

variable (b : Binary) (g : Int)

theorem gridUnit_pos : 0 < b.gridUnit g :=
  Nat.mul_pos (Nat.two_pow_pos _) (Nat.pow_pos (by decide))

theorem gridStep_pos : 0 < b.gridStep g :=
  Nat.mul_pos (Nat.two_pow_pos _) (Nat.pow_pos (by decide))

/-- In the scale of a grid the unit and the step are whole: a point of the grid is this many
units. -/
theorem grid_eq_units (c : ℚ) :
    c * 10 ^ g = c * (b.gridStep g : ℚ) / (b.gridUnit g : ℚ) * b.unit := by
  have step : (b.gridStep g : ℚ) = 2 ^ (-b.exponent).toNat * 10 ^ g.toNat := by
    change ((2 ^ (-b.exponent).toNat * 10 ^ g.toNat : Nat) : ℚ) = _
    push_cast
    rfl
  have whole : (b.gridUnit g : ℚ) = 2 ^ b.exponent.toNat * 10 ^ (-g).toNat := by
    change ((2 ^ b.exponent.toNat * 10 ^ (-g).toNat : Nat) : ℚ) = _
    push_cast
    rfl
  rw [unit, zpow_eq_quotient (by norm_num) b.exponent, zpow_eq_quotient (by norm_num) g, step,
    whole]
  field_simp

variable {b g}

/-- Whole numbers compare like what they are four times. -/
theorem compare_fourfold {m n : Nat} {x y : ℚ} (first : (m : ℚ) = 4 * x)
    (second : (n : ℚ) = 4 * y) : (m ≤ n ↔ x ≤ y) ∧ (m < n ↔ x < y) := by
  constructor
  · rw [← @Nat.cast_le ℚ]
    constructor <;> intro h <;> linarith
  · rw [← @Nat.cast_lt ℚ]
    constructor <;> intro h <;> linarith

/-- A grid point reads back if the magnitude catches it. -/
theorem readsBack_iff (met : b.mantissa ≠ 0) (c : Nat) :
    b.readsBack g c = true ↔ b.Catches (c * 10 ^ g) := by
  have unit_pos := b.unit_pos
  have whole_pos : (0 : ℚ) < b.gridUnit g := Nat.cast_pos.2 (b.gridUnit_pos g)
  have below : b.value - b.unitBelow / 2 =
      (b.mantissa - if b.narrowBelow then 1 / 4 else 1 / 2) * b.unit := by
    rw [value, unitBelow]
    split <;> ring
  have above : b.value + b.unit / 2 = (b.mantissa + 1 / 2) * b.unit := by
    rw [value]
    ring
  unfold readsBack Catches
  rw [below, above, grid_eq_units b g]
  dsimp only
  generalize b.gridUnit g = ulp at whole_pos ⊢
  generalize b.gridStep g = step
  have point : ((4 * c * step : Nat) : ℚ) = 4 * (c * step) := by
    push_cast
    ring
  have high : ((4 * (b.mantissa * ulp) + 2 * ulp : Nat) : ℚ) =
      4 * ((b.mantissa + 1 / 2) * ulp) := by
    push_cast
    ring
  have low : ((4 * (b.mantissa * ulp) - (if b.narrowBelow then ulp else 2 * ulp) : Nat) : ℚ) =
      4 * ((b.mantissa - if b.narrowBelow then 1 / 4 else 1 / 2) * ulp) := by
    have some : ulp ≤ b.mantissa * ulp := Nat.le_mul_of_pos_left _ (Nat.pos_of_ne_zero met)
    have room : (if b.narrowBelow then ulp else 2 * ulp) ≤ 4 * (b.mantissa * ulp) := by
      split <;> omega
    rw [Nat.cast_sub room]
    split <;> push_cast <;> ring
  split
  · rw [Bool.and_eq_true, decide_eq_true_eq, decide_eq_true_eq, (compare_fourfold low point).1,
      (compare_fourfold point high).1, mul_le_mul_iff_left₀ unit_pos, mul_le_mul_iff_left₀ unit_pos,
      le_div_iff₀ whole_pos, div_le_iff₀ whole_pos]
  · rw [Bool.and_eq_true, decide_eq_true_eq, decide_eq_true_eq, (compare_fourfold low point).2,
      (compare_fourfold point high).2, mul_lt_mul_iff_left₀ unit_pos, mul_lt_mul_iff_left₀ unit_pos,
      lt_div_iff₀ whole_pos, div_lt_iff₀ whole_pos]

/-- Between two steps one of them is at most half a step away. -/
theorem step_near {n : Nat} {part step : ℚ} (positive : 0 < step) (low : 0 ≤ part)
    (high : part ≤ 1) :
    |(n : ℚ) * step - (n + part) * step| ≤ step / 2 ∨
      |((n + 1 : Nat) : ℚ) * step - (n + part) * step| ≤ step / 2 := by
  rcases le_total part (1 / 2) with less | more
  · left
    have away : (n : ℚ) * step - (n + part) * step = -(part * step) := by ring
    rw [away, abs_neg, abs_of_nonneg (mul_nonneg low positive.le)]
    have := mul_le_mul_of_nonneg_right less positive.le
    linarith
  · right
    have away : ((n + 1 : Nat) : ℚ) * step - (n + part) * step = (1 - part) * step := by
      push_cast
      ring
    rw [away, abs_of_nonneg (mul_nonneg (by linarith) positive.le)]
    have := mul_le_mul_of_nonneg_right more positive.le
    linarith

/-- In steps of the grid the magnitude is the point below and a part of one more. -/
theorem value_eq_steps (b : Binary) (g : Int) :
    b.value = ((b.mantissa * b.gridUnit g / b.gridStep g : Nat) +
      (b.mantissa * b.gridUnit g % b.gridStep g : Nat) / (b.gridStep g : ℚ)) * 10 ^ g := by
  have whole_pos : (0 : ℚ) < b.gridUnit g := Nat.cast_pos.2 (b.gridUnit_pos g)
  have step_pos : (0 : ℚ) < b.gridStep g := Nat.cast_pos.2 (b.gridStep_pos g)
  have unit_eq : b.unit = b.gridUnit g / b.gridStep g * 10 ^ g := by
    have one := b.grid_eq_units g 1
    rw [one_mul, one_mul] at one
    rw [one]
    field_simp
  have split : (b.mantissa * b.gridUnit g : ℚ) =
      b.gridStep g * (b.mantissa * b.gridUnit g / b.gridStep g : Nat) +
        (b.mantissa * b.gridUnit g % b.gridStep g : Nat) := by
    exact_mod_cast (Nat.div_add_mod (b.mantissa * b.gridUnit g) (b.gridStep g)).symm
  rw [value, unit_eq, ← mul_assoc, ← mul_div_assoc, split, add_div,
    mul_div_cancel_left₀ _ step_pos.ne']

/-- Of the two points around the magnitude one is at most half a step away. -/
theorem grid_near (b : Binary) (g : Int) :
    ∃ c, (c = b.mantissa * b.gridUnit g / b.gridStep g ∨
        c = b.mantissa * b.gridUnit g / b.gridStep g + 1) ∧
      |(c : ℚ) * 10 ^ g - b.value| ≤ 10 ^ g / 2 := by
  have step_pos : (0 : ℚ) < b.gridStep g := Nat.cast_pos.2 (b.gridStep_pos g)
  have rest_lt := Nat.mod_lt (b.mantissa * b.gridUnit g) (b.gridStep_pos g)
  have part_le : (b.mantissa * b.gridUnit g % b.gridStep g : Nat) / (b.gridStep g : ℚ) ≤ 1 :=
    (div_le_one step_pos).2 (Nat.cast_le.2 rest_lt.le)
  have power_pos : (0 : ℚ) < 10 ^ g := zpow_pos (by norm_num) g
  have part_nonneg : 0 ≤ (b.mantissa * b.gridUnit g % b.gridStep g : Nat) / (b.gridStep g : ℚ) :=
    div_nonneg (Nat.cast_nonneg _) step_pos.le
  rw [b.value_eq_steps g]
  rcases step_near power_pos part_nonneg part_le with below | above
  · exact ⟨_, .inl rfl, below⟩
  · exact ⟨_, .inr rfl, above⟩

/-- With seventeen digits the steps of the grid are smaller than the unit below. -/
theorem grid_fine (h : b.Canonical) (met : b.mantissa ≠ 0) :
    (10 : ℚ) ^ (b.decimalExponent - 17) < b.unitBelow := by
  have unit_pos := b.unit_pos
  have exponent : b.decimalExponent - 17 = (b.decimalExponent - 1) + (-16) := by omega
  rw [exponent, zpow_add₀ (by norm_num)]
  refine lt_of_le_of_lt (mul_le_mul_of_nonneg_right (pow_decimalExponent_le met)
    (by positivity)) ?_
  rw [value, unitBelow]
  split
  next narrow =>
    rw [(h.narrow_iff.1 narrow).1]
    norm_num
    linarith
  · have fits : (b.mantissa : ℚ) < 2 ^ 53 := by exact_mod_cast h.fits
    have := mul_lt_mul_of_pos_right fits unit_pos
    norm_num at this ⊢
    linarith

/-- What is less than half the unit below away is caught. -/
theorem catches_of_near {q : ℚ} (near : |q - b.value| < b.unitBelow / 2) : b.Catches q := by
  have unit_pos := b.unit_pos
  have below_le : b.unitBelow ≤ b.unit := by
    unfold unitBelow
    split <;> linarith
  have ⟨low, high⟩ := abs_lt.1 near
  unfold Catches
  split <;> constructor <;> linarith

/-- With seventeen digits there is a point that is taken. -/
theorem gridPoint?_seventeen (h : b.Canonical) (met : b.mantissa ≠ 0) (tie : Tie) :
    ∃ c, b.gridPoint? tie (b.decimalExponent - 17) = some c := by
  rcases b.gridPoint?_cases tie (b.decimalExponent - 17) with ⟨c, taken, -⟩ | ⟨-, low, high⟩
  · exact ⟨c, taken⟩
  exfalso
  obtain ⟨c, neighbour, near⟩ := b.grid_near (b.decimalExponent - 17)
  have fine := grid_fine h met
  have caught : b.readsBack (b.decimalExponent - 17) c = true :=
    (readsBack_iff met c).2 (catches_of_near (by linarith))
  rcases neighbour with rfl | rfl
  · rw [low] at caught
    cases caught
  · rw [high] at caught
    cases caught

end Grid

/-- The magnitude catches its shortest decimal. -/
theorem shortest_caught (h : b.Canonical) (met : b.mantissa ≠ 0) (tie : Tie) :
    b.Catches (b.shortest tie).value := by
  unfold shortest
  rw [if_neg met]
  dsimp only
  rw [Scaled.value_stripZeros]
  have enough : ((List.range 17).findSome? fun n =>
      (b.gridPoint? tie (b.decimalExponent - (n + 1 : Nat))).map fun c =>
        (⟨c, b.decimalExponent - (n + 1 : Nat)⟩ : Scaled)).isSome = true := by
    rw [List.findSome?_isSome_iff]
    obtain ⟨c, taken⟩ := gridPoint?_seventeen h met tie
    refine ⟨16, List.mem_range.2 (by decide), ?_⟩
    change ((b.gridPoint? tie (b.decimalExponent - 17)).map _).isSome = true
    rw [taken]
    rfl
  obtain ⟨s, found⟩ := Option.isSome_iff_exists.1 enough
  obtain ⟨n, -, found_at⟩ := List.exists_of_findSome?_eq_some found
  obtain ⟨c, taken, rfl⟩ := Option.map_eq_some_iff.1 found_at
  rw [found]
  have back : b.readsBack (b.decimalExponent - (n + 1 : Nat)) c = true := by
    rcases b.gridPoint?_cases tie (b.decimalExponent - (n + 1 : Nat)) with
      ⟨c', taken', back⟩ | ⟨none, -⟩
    · obtain rfl := Option.some.inj (taken.symm.trans taken')
      exact back
    · rw [taken] at none
      cases none
  exact (readsBack_iff met c).1 back

end Binary

end CounterSampling.Decimal
