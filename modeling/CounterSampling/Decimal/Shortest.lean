import CounterSampling.Decimal.Binary64

/-!
# The fewest decimal digits that read back

Every double is the nearest one to all reals of an interval around it. The shortest decimal of a
double is a point of that interval with as few digits as possible, and of those the one nearest to
the double. It is found by trying grids of 1, 2, … 17 digits: on each grid only the two neighbours
of the exact value can be nearest.
-/

namespace CounterSampling.Decimal

/-- Which neighbour is taken when both are equally near. -/
inductive Tie where
  /-- The neighbour farther from zero. -/
  | away
  /-- The neighbour with an even last digit. -/
  | even
  deriving DecidableEq, Repr

/-- A decimal magnitude `digits * 10 ^ exponent`. -/
structure Scaled where
  digits : Nat
  exponent : Int
  deriving DecidableEq, Repr

/-- The number of decimal digits of `n`; none for zero. -/
def digitCount (n : Nat) : Nat :=
  if n = 0 then 0 else (Nat.toDigits 10 n).length

/-- The exponent `k` with `10 ^ (k - 1) ≤ b < 10 ^ k`, for a magnitude above zero. -/
def Binary.decimalExponent (b : Binary) : Int :=
  let num := b.mantissa * Nat.pow 2 b.exponent.toNat
  let den := Nat.pow 2 (-b.exponent).toNat
  if den ≤ num then digitCount (num / den)
  else 1 - (digitCount ((den + num - 1) / num - 1) : Int)

/-- The unit of the last place of a magnitude, in a scale in which `10 ^ g` is `gridStep`. -/
def Binary.gridUnit (b : Binary) (g : Int) : Nat :=
  Nat.pow 2 b.exponent.toNat * Nat.pow 10 (-g).toNat

/-- The distance between two points of the grid of multiples of `10 ^ g`. -/
def Binary.gridStep (b : Binary) (g : Int) : Nat :=
  Nat.pow 2 (-b.exponent).toNat * Nat.pow 10 g.toNat

/-- Whether `c * 10 ^ g` is read as `b`: it is at most halfway to the next doubles, and less if the
mantissa is odd. -/
def Binary.readsBack (b : Binary) (g : Int) (c : Nat) : Bool :=
  let ulp := b.gridUnit g
  let point := 4 * c * b.gridStep g
  let low := 4 * (b.mantissa * ulp) - (if b.narrowBelow then ulp else 2 * ulp)
  let high := 4 * (b.mantissa * ulp) + 2 * ulp
  if b.mantissa % 2 = 0 then decide (low ≤ point) && decide (point ≤ high)
  else decide (low < point) && decide (point < high)

/-- The point of the grid of multiples of `10 ^ g` that reads back as `b` and is nearest to it. -/
def Binary.gridPoint? (b : Binary) (tie : Tie) (g : Int) : Option Nat :=
  let den := b.gridStep g
  let num := b.mantissa * b.gridUnit g
  let below := num / den
  let rest := num % den
  match b.readsBack g below, b.readsBack g (below + 1) with
  | false, false => none
  | true, false => some below
  | false, true => some (below + 1)
  | true, true =>
    if 2 * rest < den then some below
    else if den < 2 * rest then some (below + 1)
    else match tie with
      | .away => some (below + 1)
      | .even => if below % 2 = 0 then some below else some (below + 1)

/-- Move trailing zeros of the digits into the exponent; `fuel` bounds their number. -/
def Scaled.stripZeros : Nat → Scaled → Scaled
  | 0, s => s
  | fuel + 1, s =>
    if s.digits ≠ 0 ∧ s.digits % 10 = 0 then stripZeros fuel ⟨s.digits / 10, s.exponent + 1⟩ else s

/-- The shortest decimal of a magnitude. -/
def Binary.shortest (b : Binary) (tie : Tie) : Scaled :=
  if b.mantissa = 0 then ⟨0, 0⟩
  else
    let k := b.decimalExponent
    let found := (List.range 17).findSome? fun (n : Nat) =>
      let g : Int := k - (n + 1 : Nat)
      (b.gridPoint? tie g).map fun c => (⟨c, g⟩ : Scaled)
    ((found.getD ⟨b.mantissa, b.exponent⟩)).stripZeros 20

end CounterSampling.Decimal
