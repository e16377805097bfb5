import CounterSampling.Text.Escape

/-!
# What can be wrong with a TOML text

An error is a cause at a place, which is a number of bytes from the start of the text. Its message
names the line and the column of the place, both counted from one.
-/

namespace CounterSampling.Toml

inductive Cause where
  /-- The text ends where a value is wanted. -/
  | ended
  | charInString (c : Char)
  | escape (c : Char)
  | hexEscape (c : Char)
  /-- An escaped number that is no character. -/
  | escapeValue (n : Nat)
  | newlineInString
  /-- A character that starts no token. -/
  | unexpected (c : Char)
  | unterminatedString
  | multilineKey
  | wanted (expected found : String)
  | number
  | date
  /-- A bare word where a value is wanted. -/
  | unquoted
  /-- A dotted key that leads into something that is no table. -/
  | dottedKey
  | duplicateKey (name : String)
  | duplicateTable (name : String)
  /-- A table that is declared as an array of tables later on. -/
  | redefinedAsArray
  /-- The right form of a date, but not a date. -/
  | unreadableDate
  /-- Something else where the text of a date is wanted. -/
  | noDate (found : String)
  deriving DecidableEq, Repr

def Cause.message : Cause → String
  | .ended => "unexpected eof encountered"
  | .charInString c => "invalid character in string: `" ++ Text.escapeChar c ++ "`"
  | .escape c => "invalid escape character in string: `" ++ Text.escapeChar c ++ "`"
  | .hexEscape c => "invalid hex escape character in string: `" ++ Text.escapeChar c ++ "`"
  | .escapeValue n => "invalid escape value: `" ++ toString n ++ "`"
  | .newlineInString => "newline in string found"
  | .unexpected c => "unexpected character found: `" ++ Text.escapeChar c ++ "`"
  | .unterminatedString => "unterminated string"
  | .multilineKey => "multiline strings are not allowed for key"
  | .wanted expected found => "expected " ++ expected ++ ", found " ++ found
  | .number => "invalid number"
  | .date => "invalid date"
  | .unquoted => "invalid TOML value, did you mean to use a quoted string?"
  | .dottedKey => "dotted key attempted to extend non-table type"
  | .duplicateKey name => "duplicate key: `" ++ name ++ "`"
  | .duplicateTable name => "redefinition of table `" ++ name ++ "`"
  | .redefinedAsArray => "table redefined as array"
  | .unreadableDate => "failed to parse datetime"
  | .noDate found => "invalid type: " ++ found ++ ", expected string containing a datetime"

structure Error where
  cause : Cause
  place : Nat
  /-- The keys that lead to the table the error is in. -/
  keys : List String := []
  deriving DecidableEq, Repr

/-- The line and the column of a place, from `line` and `column` on. -/
def position (place : Nat) (line column : Nat) : List Char → Nat × Nat
  | [] => (line, column)
  | c :: cs =>
    if place = 0 then (line, column)
    else if c = '\n' then position (place - 1) (line + 1) 0 cs
    else position (place - c.utf8Size) line (column + c.utf8Size) cs

/-- The message of an error in a text. -/
def Error.message (text : String) (e : Error) : String :=
  let (line, column) := position e.place 0 0 text.toList
  e.cause.message ++
    (if e.keys.isEmpty then "" else " for key `" ++ ".".intercalate e.keys ++ "`") ++
    " at line " ++ toString (line + 1) ++ " column " ++ toString (column + 1)

end CounterSampling.Toml
