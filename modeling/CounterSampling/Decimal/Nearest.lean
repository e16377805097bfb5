import CounterSampling.Text.Integer

/-!
# The double nearest to a decimal

A decimal number in text is read as the double nearest to its exact value, infinity where the value
is too large.
-/

namespace CounterSampling.Decimal

/-- The number that digits spell, after `value`. -/
def digitsValue (value : Nat) : List Char → Nat
  | [] => value
  | c :: cs => digitsValue (value * 10 + (c.toNat - '0'.toNat)) cs

/-- The double nearest to `digits * 10 ^ exponent`. Beyond the range of doubles the powers are not
computed. -/
def nearest (digits : Nat) (exponent : Int) : Float :=
  let magnitude : Int := (Nat.toDigits 10 digits).length + exponent
  if digits = 0 ∨ magnitude < -330 then 0.0
  else if 310 < magnitude then 1.0 / 0.0
  else Float.ofScientific digits (decide (exponent < 0)) exponent.natAbs

/-- The double nearest to the number with these digits before and after the point. -/
def nearestOfDigits (whole fraction : List Char) (exponent : Int) : Float :=
  nearest (digitsValue 0 (whole ++ fraction)) (exponent - fraction.length)

/-- Split a text after its leading digits. -/
def splitDigits (cs : List Char) : List Char × List Char :=
  (cs.takeWhile Char.isDigit, cs.dropWhile Char.isDigit)

/-- The number that at least one digit and nothing else spells. -/
def digits? (cs : List Char) : Option Nat :=
  if cs.isEmpty || !cs.all Char.isDigit then none else some (digitsValue 0 cs)

/-- The number of an exponent: an optional sign and at least one digit. -/
def exponent? : List Char → Option Int
  | '-' :: cs => (digits? cs).map fun n => -(n : Int)
  | '+' :: cs => (digits? cs).map Int.ofNat
  | cs => (digits? cs).map Int.ofNat

/-- A magnitude: digits with an optional point, at least one digit in all, and an optional
exponent. -/
def magnitude? (cs : List Char) : Option Float :=
  let (whole, rest) := splitDigits cs
  let (fraction, rest) :=
    match rest with
    | '.' :: rest => splitDigits rest
    | rest => ([], rest)
  if whole.isEmpty && fraction.isEmpty then none
  else
    match rest with
    | [] => some (nearestOfDigits whole fraction 0)
    | c :: rest =>
      if c = 'e' ∨ c = 'E' then (exponent? rest).map (nearestOfDigits whole fraction) else none

/-- A magnitude or one of the words for infinity and for no number, in any case. -/
def word? (cs : List Char) : Option Float :=
  match String.ofList (cs.map Char.toLower) with
  | "inf" => some (1.0 / 0.0)
  | "infinity" => some (1.0 / 0.0)
  | "nan" => some (0.0 / 0.0)
  | _ => magnitude? cs

/-- Read a double: an optional sign, then a number or a word. -/
def ofChars? : List Char → Option Float
  | '-' :: cs => (word? cs).map fun x => -x
  | '+' :: cs => word? cs
  | cs => word? cs

end CounterSampling.Decimal
