import CounterSampling.Decimal.Shortest

/-!
# Numerals

A numeral is a decimal number as it is spelled: a sign, digits, an optional fraction and an optional
exponent. A `Layout` lists the choices a format leaves open, and decides how a double is spelled.
-/

namespace CounterSampling.Decimal

/-- A spelled number. The digit lists hold ASCII digits. -/
structure Numeral where
  negative : Bool
  integer : List Char
  fraction : Option (List Char)
  /-- The sign and the digits of the exponent. -/
  exponent : Option (Bool × List Char)
  deriving DecidableEq, Repr

/-- The characters of a numeral. The exponent always carries a sign. -/
def Numeral.chars (n : Numeral) : List Char :=
  (if n.negative then ['-'] else []) ++ n.integer ++
    (match n.fraction with
      | some ds => '.' :: ds
      | none => []) ++
    (match n.exponent with
      | some (negative, ds) => 'e' :: (if negative then '-' else '+') :: ds
      | none => [])

/-- The numeral of a natural number. -/
def Numeral.ofNat (n : Nat) : Numeral :=
  ⟨false, Nat.toDigits 10 n, none, none⟩

/-- The choices of a format for doubles. -/
structure Layout where
  tie : Tie
  /-- Whether a number whose first digit counts powers `10 ^ e` is written without an exponent. -/
  positional : Int → Bool
  /-- Whether a whole number written without an exponent ends in `.0`. -/
  pointZero : Bool

/-- Doubles in running text: never an exponent, no fraction for whole numbers. -/
def Layout.plain : Layout :=
  ⟨.away, fun _ => true, false⟩

/-- Doubles in a data file: an exponent outside `10 ^ -5` to `10 ^ 15`, and always a fraction or an
exponent. -/
def Layout.data : Layout :=
  ⟨.even, fun e => decide (-5 ≤ e) && decide (e ≤ 15), true⟩

/-- Spell a decimal magnitude. -/
def Layout.numeral (l : Layout) (negative : Bool) (s : Scaled) : Numeral :=
  let ds := Nat.toDigits 10 s.digits
  let lead : Int := (ds.length : Int) - 1 + s.exponent
  if l.positional lead then
    if 0 ≤ s.exponent then
      ⟨negative, ds ++ List.replicate s.exponent.toNat '0',
        if l.pointZero then some ['0'] else none, none⟩
    else if 0 ≤ lead then
      let n := lead.toNat + 1
      ⟨negative, ds.take n, some (ds.drop n), none⟩
    else
      ⟨negative, ['0'], some (List.replicate ((-lead).toNat - 1) '0' ++ ds), none⟩
  else
    ⟨negative, ds.take 1, if ds.length = 1 then none else some (ds.drop 1),
      some (decide (lead < 0), Nat.toDigits 10 lead.natAbs)⟩

/-- The text of a double in running text. -/
def plainText (x : Float) : String :=
  match Binary64.ofFloat x with
  | .nan => "NaN"
  | .infinite negative => if negative then "-inf" else "inf"
  | .finite negative b =>
    String.ofList (Layout.plain.numeral negative (b.shortest Layout.plain.tie)).chars

/-- The numeral of a finite double in a data file; nothing for the others. -/
def dataNumeral? (x : Float) : Option Numeral :=
  match Binary64.ofFloat x with
  | .finite negative b => some (Layout.data.numeral negative (b.shortest Layout.data.tie))
  | _ => none

end CounterSampling.Decimal
