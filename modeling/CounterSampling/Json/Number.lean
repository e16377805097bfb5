import CounterSampling.Json.Token
import CounterSampling.Word

/-!
# Values of numerals

A numeral without fraction and exponent is a whole number where it fits 64 bits. Every other one is
a double: the digits are gathered in one word for as long as they fit, and the result is scaled by a
power of ten in steps of at most 308. The value is therefore not always the nearest double; a value
too large for a double is refused.
-/

namespace CounterSampling.Json

open CounterSampling.Decimal

/-- The value of a numeral. -/
inductive Number where
  /-- A whole number from zero to the largest word. -/
  | unsigned (n : Nat)
  /-- A whole number below zero, down to `-2 ^ 63`. -/
  | negative (n : Int)
  | double (x : Float)

/-- The value of a digit character. -/
def digitValue (c : Char) : Nat := c.toNat - '0'.toNat

/-- Gather digits into a word after `value`; the digits from the first that does not fit on are left
over. -/
def gather (value : Nat) : List Char → Nat × List Char
  | [] => (value, [])
  | c :: cs =>
    if value * 10 + digitValue c ≤ Word.max then gather (value * 10 + digitValue c) cs
    else (value, c :: cs)

/-- The largest exponent that is read exactly. -/
def exponentLimit : Nat := UInt32.size / 2 - 1

/-- The value of exponent digits, unless it is above the limit. -/
def exponentValue? (value : Nat) : List Char → Option Nat
  | [] => some value
  | c :: cs =>
    if value * 10 + digitValue c ≤ exponentLimit then exponentValue? (value * 10 + digitValue c) cs
    else none

/-- Divide by `10 ^ shift`, 308 powers at a time. -/
def shrink (x : Float) (shift : Nat) : Float :=
  if shift ≤ 308 then x / Float.ofScientific 1 false shift
  else if x == 0 then x
  else shrink (x / Float.ofScientific 1 false 308) (shift - 308)
termination_by shift
decreasing_by omega

/-- Scale a word by a power of ten; nothing if the result is infinite. -/
def scale? (significand : Nat) (exponent : Int) : Option Float :=
  let x := (UInt64.ofNat significand).toFloat
  if 0 ≤ exponent then
    if exponent ≤ 308 then
      let y := x * Float.ofScientific 1 false exponent.toNat
      if y.isInf then none else some y
    else if x == 0 then some x else none
  else some (shrink x (-exponent).toNat)

/-- Give a magnitude its sign. -/
def withSign (negative : Bool) (x : Float) : Float :=
  if negative then -x else x

/-- The double of a significand, an exponent that comes from its places, and a written exponent. -/
def double? (negative : Bool) (significand : Nat) (places : Int) :
    Option (Bool × List Char) → Option Float
  | none => (scale? significand places).map (withSign negative)
  | some (below, digits) =>
    match exponentValue? 0 digits with
    | some e =>
      let exponent := if below then places - e else places + e
      (scale? significand exponent).map (withSign negative)
    | none =>
      if significand ≠ 0 ∧ !below then none else some (withSign negative 0)

/-- The value of a numeral; nothing if it is too large for a double. -/
def number? (n : Numeral) : Option Number :=
  match gather 0 n.integer, n.fraction, n.exponent with
  | (whole, []), none, none =>
    if n.negative then
      if 0 < whole ∧ whole ≤ Word.maxSigned + 1 then some (.negative (-(whole : Int)))
      else some (.double (-(UInt64.ofNat whole).toFloat))
    else some (.unsigned whole)
  | (whole, []), some fraction, exponent =>
    let (significand, dropped) := gather whole fraction
    let places : Int := -((fraction.length - dropped.length : Nat) : Int)
    (double? n.negative significand places exponent).map .double
  | (whole, []), none, exponent => (double? n.negative whole 0 exponent).map .double
  | (whole, dropped), fraction, exponent =>
    let (significand, left) := gather whole (fraction.getD [])
    let read : Nat := (fraction.getD []).length - left.length
    let places : Int := (dropped.length : Int) - (read : Int)
    (double? n.negative significand places exponent).map .double

end CounterSampling.Json
