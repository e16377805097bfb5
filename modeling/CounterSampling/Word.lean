/-!
# Sizes within one machine word

Counts of records and profile sizes are natural numbers that have to fit an unsigned 64-bit word.
The checked operations answer `none` where the exact result does not fit, so every law about them is
a law about exact arithmetic. An arithmetic step that is not allowed to fail ends the computation it
belongs to with an `Abort`.
-/

namespace CounterSampling

namespace Word

/-- The largest unsigned 64-bit word. -/
def max : Nat := UInt64.size - 1

/-- The largest signed 64-bit word. -/
def maxSigned : Nat := UInt64.size / 2 - 1

/-- The largest unsigned 32-bit word. -/
def maxHalf : Nat := UInt32.size - 1

/-- The exact sum, where it fits a word. -/
def add? (a b : Nat) : Option Nat :=
  if a + b ≤ max then some (a + b) else none

/-- The exact product, where it fits a word. -/
def mul? (a b : Nat) : Option Nat :=
  if a * b ≤ max then some (a * b) else none

theorem add?_eq_some_iff {a b n : Nat} : add? a b = some n ↔ a + b = n ∧ n ≤ max := by
  unfold add?
  split <;> simp <;> omega

theorem mul?_eq_some_iff {a b n : Nat} : mul? a b = some n ↔ a * b = n ∧ n ≤ max := by
  unfold mul?
  split <;> simp <;> omega

end Word

/-- How a computation ends when an unchecked arithmetic step or an allocation cannot be done. -/
inductive Abort where
  /-- A sum left the word. -/
  | sum
  /-- A difference left the word. -/
  | difference
  /-- A product left the word. -/
  | product
  /-- The negative of a number left the word. -/
  | negation
  /-- More memory was asked for than can be addressed. -/
  | capacity
  deriving DecidableEq, Repr

/-- The text an abnormal end is reported with. -/
def Abort.message : Abort → String
  | .sum => "attempt to add with overflow"
  | .difference => "attempt to subtract with overflow"
  | .product => "attempt to multiply with overflow"
  | .negation => "attempt to negate with overflow"
  | .capacity => "capacity overflow"

end CounterSampling
