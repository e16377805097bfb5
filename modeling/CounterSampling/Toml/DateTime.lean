/-!
# Dates and times

A date, a time or both; only a time with a date can have an offset. Read values are written in one
form: the letters in upper case, the fraction of a second without trailing zeros.
-/

namespace CounterSampling.Toml

structure Date where
  year : Nat
  month : Nat
  day : Nat
  deriving DecidableEq, Repr

structure Time where
  hour : Nat
  minute : Nat
  second : Nat
  nanosecond : Nat
  deriving DecidableEq, Repr

/-- How far a clock is from the universal one. -/
inductive Offset where
  | universal
  | custom (hours : Int) (minutes : Nat)
  deriving DecidableEq, Repr

structure DateTime where
  date : Option Date
  time : Option Time
  offset : Option Offset
  deriving DecidableEq, Repr

/-- Read a number of two digits. -/
def twoDigits? : List Char → Option (Nat × List Char)
  | a :: b :: cs =>
    if a.isDigit && b.isDigit then some ((a.toNat - 48) * 10 + (b.toNat - 48), cs) else none
  | _ => none

/-- Read a certain character. -/
def char? (c : Char) : List Char → Option (List Char)
  | d :: cs => if d = c then some cs else none
  | [] => none

/-- Read a date. -/
def Date.read? (cs : List Char) : Option (Date × List Char) := do
  let (century, cs) ← twoDigits? cs
  let (year, cs) ← twoDigits? cs
  let (month, cs) ← twoDigits? (← char? '-' cs)
  let (day, cs) ← twoDigits? (← char? '-' cs)
  guard (1 ≤ month ∧ month ≤ 12 ∧ 1 ≤ day ∧ day ≤ 31)
  return (⟨century * 100 + year, month, day⟩, cs)

/-- The nanoseconds of the digits of a fraction; digits beyond the ninth do not count. -/
def nanoseconds (ds : List Char) : Nat :=
  (ds.take 9 ++ List.replicate (9 - ds.length) '0').foldl (fun n d => n * 10 + (d.toNat - 48)) 0

/-- Read the fraction of a second, if there is one. -/
def readFraction? : List Char → Option (Nat × List Char)
  | '.' :: cs =>
    match cs.takeWhile Char.isDigit with
    | [] => none
    | ds => some (nanoseconds ds, cs.dropWhile Char.isDigit)
  | cs => some (0, cs)

/-- Read a time. -/
def Time.read? (cs : List Char) : Option (Time × List Char) := do
  let (hour, cs) ← twoDigits? cs
  let (minute, cs) ← twoDigits? (← char? ':' cs)
  let (second, cs) ← twoDigits? (← char? ':' cs)
  let (nanosecond, cs) ← readFraction? cs
  guard (hour ≤ 24 ∧ minute ≤ 59 ∧ second ≤ 59)
  return (⟨hour, minute, second, nanosecond⟩, cs)

/-- Read an offset up to the end of the text. -/
def Offset.read? : List Char → Option (Option Offset)
  | [] => some none
  | ['Z'] | ['z'] => some (some .universal)
  | sign :: cs => do
    let (hours, cs) ← twoDigits? cs
    let (minutes, cs) ← twoDigits? (← char? ':' cs)
    guard cs.isEmpty
    match sign with
    | '+' => return some (.custom hours minutes)
    | '-' => return some (.custom (-hours) minutes)
    | _ => none

/-- Whether a character may part a date from a time. -/
def isDateTimeMark (c : Char) : Bool := c == 'T' || c == 't' || c == ' '

/-- Read a whole text as a date, a time or both. -/
def DateTime.ofChars? (cs : List Char) : Option DateTime := do
  if cs[2]? = some ':' then
    let (time, rest) ← Time.read? cs
    guard rest.isEmpty
    return ⟨none, some time, none⟩
  else
    let (date, rest) ← Date.read? cs
    match rest with
    | c :: rest' =>
      if isDateTimeMark c then
        let (time, rest) ← Time.read? rest'
        return ⟨some date, some time, ← Offset.read? rest⟩
      else none
    | [] => return ⟨some date, none, none⟩

/-- A number with at least `width` digits. -/
def padded (width n : Nat) : String :=
  let ds := Nat.toDigits 10 n
  String.ofList (List.replicate (width - ds.length) '0' ++ ds)

def Date.text (d : Date) : String :=
  padded 4 d.year ++ "-" ++ padded 2 d.month ++ "-" ++ padded 2 d.day

/-- The fraction of a second; nothing if it is zero. -/
def fractionText (nanosecond : Nat) : String :=
  if nanosecond = 0 then ""
  else
    "." ++ String.ofList
      ((padded 9 nanosecond).toList.reverse.dropWhile fun c => c == '0').reverse

def Time.text (t : Time) : String :=
  padded 2 t.hour ++ ":" ++ padded 2 t.minute ++ ":" ++ padded 2 t.second ++
    fractionText t.nanosecond

def Offset.text : Offset → String
  | .universal => "Z"
  | .custom hours minutes =>
    (if hours < 0 then "-" else "+") ++ padded 2 hours.natAbs ++ ":" ++ padded 2 minutes

def DateTime.text (d : DateTime) : String :=
  (match d.date with
    | some date => date.text
    | none => "") ++
  (match d.time with
    | some time => (if d.date.isSome then "T" else "") ++ time.text
    | none => "") ++
  (match d.offset with
    | some offset => offset.text
    | none => "")

end CounterSampling.Toml
