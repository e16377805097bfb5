import CounterSampling.Decimal.Numeral

/-!
# Tokens of a data text

A text is split into tokens up to the first place where no token can be read. That place is kept as
the `Ending`, because a reader meets it only after everything before it: which error the text has is
then a matter of what the reader was looking for.
-/

namespace CounterSampling.Json

open CounterSampling.Decimal

inductive ReadError where
  /-- The text breaks the syntax. -/
  | malformed
  /-- The text ends too early. -/
  | unfinished
  /-- The syntax is right, but the data does not fit the wanted type. -/
  | mismatch
  deriving DecidableEq, Repr

/-- A piece of a quoted string: a character, or a 16-bit unit written as `\u` and four digits. -/
inductive Piece where
  | char (c : Char)
  | unit (u : Nat)
  deriving DecidableEq, Repr

inductive Token where
  | openBrace
  | closeBrace
  | openBracket
  | closeBracket
  | comma
  | colon
  | null
  | bool (b : Bool)
  | number (n : Numeral)
  | quoted (ps : List Piece)
  deriving DecidableEq, Repr

/-- What stands after the last token. -/
inductive Ending where
  | done
  /-- A character that starts no token. -/
  | stray
  /-- A broken `null`, `true` or `false`. -/
  | word (e : ReadError)
  /-- A broken number; `truncated` if the text ends within it. -/
  | number (truncated : Bool)
  /-- A broken string and the pieces before the break. -/
  | quoted (ps : List Piece) (e : ReadError)
  deriving DecidableEq, Repr

/-- The four blanks that may stand between tokens. -/
def isSpace (c : Char) : Bool :=
  c == ' ' || c == '\n' || c == '\t' || c == '\r'

def hexDigit? (c : Char) : Option Nat :=
  if '0' ≤ c ∧ c ≤ '9' then some (c.toNat - '0'.toNat)
  else if 'a' ≤ c ∧ c ≤ 'f' then some (c.toNat - 'a'.toNat + 10)
  else if 'A' ≤ c ∧ c ≤ 'F' then some (c.toNat - 'A'.toNat + 10)
  else none

def unit? (a b c d : Char) : Option Nat := do
  let a ← hexDigit? a
  let b ← hexDigit? b
  let c ← hexDigit? c
  let d ← hexDigit? d
  return ((a * 16 + b) * 16 + c) * 16 + d

def escape? : Char → Option Char
  | '"' => some '"'
  | '\\' => some '\\'
  | '/' => some '/'
  | 'b' => some '\x08'
  | 'f' => some '\x0c'
  | 'n' => some '\n'
  | 'r' => some '\r'
  | 't' => some '\t'
  | _ => none

/-- The number of bytes that characters take in UTF-8. -/
def byteCount : List Char → Nat
  | [] => 0
  | c :: cs => c.utf8Size + byteCount cs

/-- A string that could not be read to its closing quote: the pieces before the break. -/
structure BrokenQuote where
  pieces : List Piece
  error : ReadError

/-- Read a string after its opening quote; `acc` holds the pieces so far, last first. Where fewer
than four bytes follow a `\u`, the text counts as ended. -/
def readQuoted (acc : List Piece) : List Char → Except BrokenQuote (List Piece × List Char)
  | [] => .error ⟨acc.reverse, .unfinished⟩
  | '"' :: cs => .ok (acc.reverse, cs)
  | ['\\'] => .error ⟨acc.reverse, .unfinished⟩
  | '\\' :: 'u' :: a :: b :: c :: d :: cs =>
    match unit? a b c d with
    | some u => readQuoted (.unit u :: acc) cs
    | none =>
      if byteCount (a :: b :: c :: d :: cs) < 4 then .error ⟨acc.reverse, .unfinished⟩
      else .error ⟨acc.reverse, .malformed⟩
  | '\\' :: 'u' :: cs =>
    if byteCount cs < 4 then .error ⟨acc.reverse, .unfinished⟩
    else .error ⟨acc.reverse, .malformed⟩
  | '\\' :: c :: cs =>
    match escape? c with
    | some c => readQuoted (.char c :: acc) cs
    | none => .error ⟨acc.reverse, .malformed⟩
  | c :: cs =>
    if c.toNat < 0x20 then .error ⟨acc.reverse, .malformed⟩ else readQuoted (.char c :: acc) cs

def readWord : List Char → List Char → Except ReadError (List Char)
  | [], cs => .ok cs
  | _ :: _, [] => .error .unfinished
  | w :: ws, c :: cs => if c = w then readWord ws cs else .error .malformed

def takeDigits (cs : List Char) : List Char × List Char :=
  (cs.takeWhile Char.isDigit, cs.dropWhile Char.isDigit)

/-- Read at least one digit; otherwise say whether the text has ended. -/
def readDigits (cs : List Char) : Except Bool (List Char × List Char) :=
  match takeDigits cs with
  | ([], []) => .error true
  | ([], _ :: _) => .error false
  | (ds, rest) => .ok (ds, rest)

def readExponent (cs : List Char) : Except Bool (Option (Bool × List Char) × List Char) :=
  match cs with
  | c :: r =>
    if c = 'e' ∨ c = 'E' then
      match r with
      | '+' :: r => (readDigits r).map fun p => (some (false, p.1), p.2)
      | '-' :: r => (readDigits r).map fun p => (some (true, p.1), p.2)
      | r => (readDigits r).map fun p => (some (false, p.1), p.2)
    else .ok (none, cs)
  | [] => .ok (none, [])

def readFraction (cs : List Char) : Except Bool (Option (List Char) × List Char) :=
  match cs with
  | '.' :: r => (readDigits r).map fun p => (some p.1, p.2)
  | _ => .ok (none, cs)

/-- Read the whole part of a number: `0`, or digits that do not start with `0`. -/
def readWhole (cs : List Char) : Except Bool (List Char × List Char) :=
  match cs with
  | '0' :: r =>
    match r with
    | c :: _ => if c.isDigit then .error false else .ok (['0'], r)
    | [] => .ok (['0'], [])
  | _ => readDigits cs

/-- Read a number after its sign. The error says whether the text ended within the number. -/
def readNumber (negative : Bool) (cs : List Char) : Except Bool (Numeral × List Char) := do
  let (whole, cs) ← readWhole cs
  let (fraction, cs) ← readFraction cs
  let (exponent, cs) ← readExponent cs
  return (⟨negative, whole, fraction, exponent⟩, cs)

inductive Scan where
  | stop (e : Ending)
  | token (t : Token) (rest : List Char)

def scanWord (t : Token) (rest : Except ReadError (List Char)) : Scan :=
  match rest with
  | .ok cs => .token t cs
  | .error e => .stop (.word e)

def scanNumber (negative : Bool) (cs : List Char) : Scan :=
  match readNumber negative cs with
  | .ok (n, cs) => .token (.number n) cs
  | .error truncated => .stop (.number truncated)

/-- Read the first token of a text that does not start with a space. -/
def scanFirst : List Char → Scan
  | [] => .stop .done
  | '\x7b' :: cs => .token .openBrace cs
  | '\x7d' :: cs => .token .closeBrace cs
  | '[' :: cs => .token .openBracket cs
  | ']' :: cs => .token .closeBracket cs
  | ',' :: cs => .token .comma cs
  | ':' :: cs => .token .colon cs
  | 'n' :: cs => scanWord .null (readWord ['u', 'l', 'l'] cs)
  | 't' :: cs => scanWord (.bool true) (readWord ['r', 'u', 'e'] cs)
  | 'f' :: cs => scanWord (.bool false) (readWord ['a', 'l', 's', 'e'] cs)
  | '"' :: cs =>
    match readQuoted [] cs with
    | .ok (ps, cs) => .token (.quoted ps) cs
    | .error b => .stop (.quoted b.pieces b.error)
  | '-' :: cs => scanNumber true cs
  | c :: cs => if c.isDigit then scanNumber false (c :: cs) else .stop .stray

/-- Split a text into at most `fuel` tokens. -/
def scanWithin : Nat → List Char → List Token × Ending
  | 0, _ => ([], .done)
  | fuel + 1, cs =>
    match scanFirst (cs.dropWhile isSpace) with
    | .stop e => ([], e)
    | .token t rest =>
      let (ts, e) := scanWithin fuel rest
      (t :: ts, e)

/-- Split a text into tokens. A token takes at least one character, so the length of the text is
fuel enough. -/
def scan (cs : List Char) : List Token × Ending :=
  scanWithin (cs.length + 1) cs

end CounterSampling.Json
