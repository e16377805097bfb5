import CounterSampling.Text.Hidden

/-!
# Characters in messages

How a character of a bad text is shown in a message, so that the message stays on one line.
-/

namespace CounterSampling.Text

/-- The number of a character in hexadecimal, in braces. -/
def codePoint (c : Char) : String :=
  "\\u\x7b" ++ String.ofList (Nat.toDigits 16 c.toNat) ++ "\x7d"

/-- A single character: printable ASCII stands for itself, a quote or backslash is escaped. -/
def escapeChar (c : Char) : String :=
  match c with
  | '\t' => "\\t"
  | '\r' => "\\r"
  | '\n' => "\\n"
  | '\'' => "\\'"
  | '"' => "\\\""
  | '\\' => "\\\\"
  | c => if ' ' ≤ c ∧ c ≤ '~' then String.singleton c else codePoint c

/-- A character within a quoted text. -/
def quoteChar (c : Char) : String :=
  match c with
  | '\x00' => "\\0"
  | '\t' => "\\t"
  | '\r' => "\\r"
  | '\n' => "\\n"
  | '"' => "\\\""
  | '\\' => "\\\\"
  | c => if isHidden c then codePoint c else String.singleton c

/-- A text in quotes. -/
def quoted (s : String) : String :=
  "\"" ++ String.join (s.toList.map quoteChar) ++ "\""

end CounterSampling.Text
