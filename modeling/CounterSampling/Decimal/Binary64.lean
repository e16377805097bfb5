/-!
# Double-precision numbers as exact binary fractions

A finite double is a sign, a whole mantissa and a power of two. The decoding works on the bits, so
what follows from it is a matter of natural numbers.
-/

namespace CounterSampling.Decimal

/-- The magnitude `mantissa * 2 ^ exponent` of a finite double. -/
structure Binary where
  mantissa : Nat
  exponent : Int
  /-- Whether the next double below is only half as far away as the next above. -/
  narrowBelow : Bool
  deriving DecidableEq, Repr

/-- What a double stands for. -/
inductive Binary64 where
  | nan
  | infinite (negative : Bool)
  | finite (negative : Bool) (magnitude : Binary)
  deriving DecidableEq, Repr

/-- Decode the bits of a double: a sign bit, eleven exponent bits and 52 fraction bits. -/
def Binary64.ofBits (bits : Nat) : Binary64 :=
  let negative := bits / Nat.pow 2 63 % 2 == 1
  let biased : Nat := bits / Nat.pow 2 52 % Nat.pow 2 11
  let fraction : Nat := bits % Nat.pow 2 52
  if biased = 2047 then
    if fraction = 0 then .infinite negative else .nan
  else if biased = 0 then
    .finite negative ⟨fraction, -1074, false⟩
  else
    .finite negative ⟨Nat.pow 2 52 + fraction, (biased : Int) - 1075, fraction == 0 && biased != 1⟩

/-- Decode a double. -/
def Binary64.ofFloat (x : Float) : Binary64 :=
  .ofBits x.toBits.toNat

/-- The magnitude as a whole number, where it is one. -/
def Binary.whole? (b : Binary) : Option Nat :=
  if 0 ≤ b.exponent then some (b.mantissa * Nat.pow 2 b.exponent.toNat)
  else
    let d := Nat.pow 2 (-b.exponent).toNat
    if b.mantissa % d = 0 then some (b.mantissa / d) else none

/-- The nearest whole number, the larger one of two that are equally near. -/
def Binary.rounded (b : Binary) : Nat :=
  if 0 ≤ b.exponent then b.mantissa * Nat.pow 2 b.exponent.toNat
  else
    let d := Nat.pow 2 (-b.exponent).toNat
    (2 * b.mantissa + d) / (2 * d)

/-- The whole number nearest to a double, halves being rounded up, and cut off at zero and at
`limit`. What is no number counts as zero. -/
def Binary64.clamped (limit : Nat) : Binary64 → Nat
  | .nan => 0
  | .infinite negative => if negative then 0 else limit
  | .finite negative b => if negative then 0 else min b.rounded limit

/-- Whether a double is other than zero. -/
def Binary64.isNonzero : Binary64 → Bool
  | .finite _ b => b.mantissa != 0
  | _ => true

end CounterSampling.Decimal
