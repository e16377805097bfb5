import CounterSampling.Word
import CounterSampling.Text.Blank
import CounterSampling.Text.Integer

/-!
# Durations

A duration is an exact number of nanoseconds. Its text is a whole number and an optional unit, `us`,
`ms`, `s` or `m`; a bare number counts microseconds. Blanks may stand around the number and around
the whole.
-/

namespace CounterSampling

/-- A span of time in nanoseconds. -/
structure Duration where
  nanos : Nat
  deriving DecidableEq, Repr

namespace Duration

def ofMicros (n : Nat) : Duration := ⟨n * 1000⟩

def ofMillis (n : Nat) : Duration := ⟨n * 1000000⟩

def ofSecs (n : Nat) : Duration := ⟨n * 1000000000⟩

def secs (d : Duration) : Nat := d.nanos / 1000000000

def subsecNanos (d : Duration) : Nat := d.nanos % 1000000000

def micros (d : Duration) : Nat := d.nanos / 1000

/-- The units a text can name. -/
inductive TimeUnit where
  | micro
  | milli
  | second
  | minute
  deriving DecidableEq, Repr

/-- The duration of `n` units. Minutes are counted in seconds, a word of them at most. -/
def TimeUnit.times (n : Nat) : TimeUnit → Except Abort Duration
  | .micro => .ok (ofMicros n)
  | .milli => .ok (ofMillis n)
  | .second => .ok (ofSecs n)
  | .minute =>
    match Word.mul? n 60 with
    | some secs => .ok (ofSecs secs)
    | none => .error .product

/-- Take the unit off the end of a text: the longest unit that ends it, microseconds if none
does. -/
def splitUnit (cs : List Char) : List Char × TimeUnit :=
  match cs.reverse with
  | 's' :: 'u' :: r => (r.reverse, .micro)
  | 's' :: 'm' :: r => (r.reverse, .milli)
  | 's' :: r => (r.reverse, .second)
  | 'm' :: r => (r.reverse, .minute)
  | _ => (cs, .micro)

/-- Why a text gives no duration. -/
inductive ReadError where
  | blank
  /-- What stands before the unit is not a 64-bit number. -/
  | number (e : Text.IntegerError)
  /-- The conversion ended abnormally. -/
  | abort (a : Abort)
  deriving DecidableEq, Repr

def ReadError.message : ReadError → String
  | .blank => "empty duration"
  | .number e => e.message
  | .abort a => a.message

def ofChars? (cs : List Char) : Except ReadError Duration :=
  match Text.trim cs with
  | [] => .error .blank
  | trimmed =>
    let (number, unit) := splitUnit trimmed
    match Text.readUnsigned Word.max (Text.trim number) with
    | .error e => .error (.number e)
    | .ok n =>
      match unit.times n with
      | .ok d => .ok d
      | .error a => .error (.abort a)

def ofString? (s : String) : Except ReadError Duration :=
  ofChars? s.toList

example : ofString? " 500 us" = .ok (ofMicros 500) := by cbv
example : ofString? "1m" = .ok (ofSecs 60) := by cbv
example : ofString? "-5ms" = .error (.number .invalidDigit) := by cbv

end Duration

end CounterSampling
