/-!
# Decimal integers in text

An unsigned integer is an optional plus sign and at least one ASCII digit; a signed one may have a
minus sign instead. Reading goes from left to right, so the first thing wrong decides the error: a
character that is no digit, or the digit at which the value leaves its range.
-/

namespace CounterSampling.Text

/-- Why a text is not an integer of the wanted range. -/
inductive IntegerError where
  /-- There is no character at all. -/
  | empty
  /-- A character is not a digit, or there is only a sign. -/
  | invalidDigit
  /-- The value is above the range. -/
  | tooLarge
  /-- The value is below the range. -/
  | tooSmall
  deriving DecidableEq, Repr

/-- The text of an integer error. -/
def IntegerError.message : IntegerError → String
  | .empty => "cannot parse integer from empty string"
  | .invalidDigit => "invalid digit found in string"
  | .tooLarge => "number too large to fit in target type"
  | .tooSmall => "number too small to fit in target type"

/-- The value of an ASCII digit. -/
def digit? (c : Char) : Option Nat :=
  if '0' ≤ c ∧ c ≤ '9' then some (c.toNat - '0'.toNat) else none

/-- Read digits after `value`, which is at most `limit`; `excess` is the error of a value above
it. -/
def readDigits (limit : Nat) (excess : IntegerError) (value : Nat) :
    List Char → Except IntegerError Nat
  | [] => .ok value
  | c :: cs =>
    match digit? c with
    | none => .error .invalidDigit
    | some d =>
      if value * 10 + d ≤ limit then readDigits limit excess (value * 10 + d) cs
      else .error excess

/-- Read digits from the start: at least one is needed. -/
def readMagnitude (limit : Nat) (excess : IntegerError) : List Char → Except IntegerError Nat
  | [] => .error .invalidDigit
  | cs => readDigits limit excess 0 cs

/-- Read an unsigned integer of at most `limit`. -/
def readUnsigned (limit : Nat) : List Char → Except IntegerError Nat
  | [] => .error .empty
  | '+' :: cs => readMagnitude limit .tooLarge cs
  | cs => readMagnitude limit .tooLarge cs

/-- Read a signed integer between `-limit - 1` and `limit`. -/
def readSigned (limit : Nat) : List Char → Except IntegerError Int
  | [] => .error .empty
  | '+' :: cs => (readMagnitude limit .tooLarge cs).map Int.ofNat
  | '-' :: cs => (readMagnitude (limit + 1) .tooSmall cs).map fun n => -Int.ofNat n
  | cs => (readMagnitude limit .tooLarge cs).map Int.ofNat

end CounterSampling.Text
