import CounterSampling.Config.Setting
import CounterSampling.Decimal.Nearest
import CounterSampling.Toml.Error
import CounterSampling.Word

/-!
# Numbers of a TOML text

Digits may be parted by single underscores. A decimal integer has no leading zeros. Integers are
signed 64-bit words; numbers with a fraction or an exponent are finite doubles.
-/

namespace CounterSampling.Toml

/-- Which digits are read. -/
structure DigitRule where
  radix : Nat
  /-- Whether a sign may stand in front. -/
  signed : Bool
  /-- Whether further digits may follow a leading zero. -/
  leadingZeros : Bool

def DigitRule.decimal : DigitRule := ⟨10, true, false⟩

/-- Digits behind a point or of an exponent. -/
def DigitRule.part (signed : Bool) : DigitRule := ⟨10, signed, true⟩

def isDigitIn (radix : Nat) (c : Char) : Bool :=
  if c.isDigit then decide (c.toNat - '0'.toNat < radix)
  else
    let u := c.toUpper
    decide ('A' ≤ u) && decide (u ≤ 'Z') && decide (u.toNat - 'A'.toNat + 10 < radix)

/-- How far digits have been read. -/
structure DigitState where
  started : Bool := false
  /-- Whether the first digit is zero. -/
  zero : Bool := false
  /-- Whether an underscore was read last. -/
  underscore : Bool := false
  /-- What was read, last first. -/
  read : List Char := []

def numberError (place : Nat) : Error := ⟨.number, place, []⟩

/-- Split a text after its leading digits and underscores. `start` is the place of the text and
`place` that of what is left of it. -/
def takeDigits (rule : DigitRule) (start place : Nat) (s : DigitState) :
    List Char → Except Error (List Char × List Char)
  | [] =>
    if !s.started || s.underscore then .error (numberError start) else .ok (s.read.reverse, [])
  | c :: cs =>
    let read := c :: s.read
    if c = '0' ∧ !s.started then
      takeDigits rule start (place + 1) { s with started := true, zero := true, read } cs
    else if isDigitIn rule.radix c then
      if s.started && s.zero && !rule.leadingZeros then .error (numberError place)
      else
        takeDigits rule start (place + 1) { s with started := true, underscore := false, read } cs
    else if c = '_' ∧ !s.started then .error (numberError place)
    else if c = '_' ∧ !s.underscore then
      takeDigits rule start (place + 1) { s with underscore := true, read } cs
    else if !s.started || s.underscore then .error (numberError start)
    else .ok (s.read.reverse, c :: cs)

/-- Split a text after an integer. -/
def splitInteger (rule : DigitRule) (place : Nat) (cs : List Char) :
    Except Error (List Char × List Char) :=
  match cs with
  | c :: cs' =>
    if rule.signed && (c == '+' || c == '-') then
      takeDigits rule place (place + 1) { read := [c] } cs'
    else takeDigits rule place place {} cs
  | [] => takeDigits rule place place {} cs

def withoutUnderscores (cs : List Char) : List Char :=
  cs.filter fun c => c != '_'

def radixValue (radix : Nat) (value : Nat) : List Char → Nat
  | [] => value
  | c :: cs =>
    let d := if c.isDigit then c.toNat - '0'.toNat else c.toUpper.toNat - 'A'.toNat + 10
    radixValue radix (value * radix + d) cs

/-- Read a whole text as an integer. -/
def readInteger (rule : DigitRule) (place : Nat) (cs : List Char) : Except Error Scalar := do
  let (digits, rest) ← splitInteger rule place cs
  if !rest.isEmpty then throw (numberError place)
  match withoutUnderscores digits with
  | '-' :: digits =>
    let n := radixValue rule.radix 0 digits
    if n ≤ Word.maxSigned + 1 then return .integer (-(n : Int)) else throw (numberError place)
  | digits =>
    let n := radixValue rule.radix 0 (digits.dropWhile fun c => c == '+')
    if n ≤ Word.maxSigned then return .integer n else throw (numberError place)

/-- A finite double from the parts of its text, each with its underscores. -/
def readDouble (place : Nat) (whole fraction : List Char) (exponent : Option (List Char)) :
    Except Error Scalar :=
  let point := if fraction.isEmpty then [] else '.' :: withoutUnderscores fraction
  let power :=
    match exponent with
    | some e => 'E' :: withoutUnderscores e
    | none => []
  match Decimal.ofChars? (withoutUnderscores whole ++ point ++ power) with
  | some x => if x.isFinite then .ok (.number x) else .error (numberError place)
  | none => .error (numberError place)

end CounterSampling.Toml
