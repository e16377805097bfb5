/-!
# Dates

The time of a report is given to the second in Coordinated Universal Time. Dates are those of the
Gregorian calendar. Years are counted from March, so that a leap day is the last day of its year.
-/

namespace CounterSampling

structure Date where
  year : Nat
  month : Nat
  day : Nat
  deriving DecidableEq, Repr

namespace Date

/-- The days from the first of March of the year 0 to the first of January 1970. -/
def epoch : Nat := 719468

/-- The days of 400 years. -/
def daysOf400Years : Nat := 146097

/-- The year of 400 that a day of 400 years is in. -/
def yearOf (day : Nat) : Nat :=
  (day - day / 1460 + day / 36524 - day / (daysOf400Years - 1)) / 365

/-- The days of 400 years before a year of them. -/
def daysBefore (year : Nat) : Nat :=
  365 * year + year / 4 - year / 100

/-- The date of a day, counted from the first of January 1970. -/
def ofDays (n : Nat) : Date :=
  let since := n + epoch
  let day := since % daysOf400Years
  let year := yearOf day
  let dayOfYear := day - daysBefore year
  let month := (5 * dayOfYear + 2) / 153
  { year := since / daysOf400Years * 400 + year + (if month < 10 then 0 else 1)
    month := if month < 10 then month + 3 else month - 9
    day := dayOfYear - (153 * month + 2) / 5 + 1 }

example : ofDays 0 = ⟨1970, 1, 1⟩ := by decide
example : ofDays 11016 = ⟨2000, 2, 29⟩ := by decide
example : ofDays 20453 = ⟨2025, 12, 31⟩ := by decide

end Date

/-- A number with zeros before it, up to a width. -/
def zeroPadded (width n : Nat) : String :=
  let digits := toString n
  String.ofList (List.replicate (width - digits.length) '0') ++ digits

/-- The text of a time, counted in seconds from the start of 1970. -/
def timeText (secs : Nat) : String :=
  let date := Date.ofDays (secs / 86400)
  let ofDay := secs % 86400
  zeroPadded 4 date.year ++ "-" ++ zeroPadded 2 date.month ++ "-" ++ zeroPadded 2 date.day ++ "T" ++
    zeroPadded 2 (ofDay / 3600) ++ ":" ++ zeroPadded 2 (ofDay / 60 % 60) ++ ":" ++
    zeroPadded 2 (ofDay % 60) ++ "Z"

end CounterSampling
