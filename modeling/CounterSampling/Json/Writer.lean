import CounterSampling.Json.Token
import CounterSampling.Json.Shape

/-!
# Writing data by shape

A value is written as tokens, and the tokens as text in one of two layouts: on one line without any
blank, or with one element per line and two blanks per level. A field that may be left out is left
out when it has no value.
-/

namespace CounterSampling.Json

open CounterSampling.Decimal

/-- A hexadecimal digit, in lower case. -/
def hexDigit (n : Nat) : Char := Nat.digitChar (n % 16)

/-- The `\u` escape of a 16-bit unit. -/
def unitEscape (u : Nat) : List Char :=
  ['\\', 'u', hexDigit (u / 4096), hexDigit (u / 256), hexDigit (u / 16), hexDigit u]

/-- A character within quotes. Only the quote, the backslash and control characters are escaped. -/
def escape (c : Char) : List Char :=
  match c with
  | '"' => ['\\', '"']
  | '\\' => ['\\', '\\']
  | '\x08' => ['\\', 'b']
  | '\x0c' => ['\\', 'f']
  | '\n' => ['\\', 'n']
  | '\r' => ['\\', 'r']
  | '\t' => ['\\', 't']
  | c => if c.toNat < 0x20 then unitEscape c.toNat else [c]

def Piece.chars : Piece → List Char
  | .char c => escape c
  | .unit u => unitEscape u

def Token.chars : Token → List Char
  | .openBrace => ['\x7b']
  | .closeBrace => ['\x7d']
  | .openBracket => ['[']
  | .closeBracket => [']']
  | .comma => [',']
  | .colon => [':']
  | .null => ['n', 'u', 'l', 'l']
  | .bool true => ['t', 'r', 'u', 'e']
  | .bool false => ['f', 'a', 'l', 's', 'e']
  | .number n => n.chars
  | .quoted ps => '"' :: (ps.flatMap Piece.chars ++ ['"'])

def Token.ofString (s : String) : Token :=
  .quoted (s.toList.map Piece.char)

/-- Put commas between groups of tokens. -/
def commaSeparated : List (List Token) → List Token
  | [] => []
  | [ts] => ts
  | ts :: rest => ts ++ .comma :: commaSeparated rest

mutual

/-- The tokens of a value. A double that is not finite is written as `null`. -/
def Shape.tokens : (s : Shape) → s.Val → List Token
  | .number _, v => [.number (Numeral.ofNat v.val)]
  | .float, x => [match dataNumeral? x with
      | some n => .number n
      | none => .null]
  | .flag, b => [.bool b]
  | .text, t => [.ofString t]
  | .choice names, i => [.ofString (names.get i)]
  | .nullable s, v =>
    match v with
    | none => [.null]
    | some v => s.tokens v
  | .sequence s, vs => .openBracket :: (commaSeparated (vs.map s.tokens) ++ [.closeBracket])
  | .record fs, vs => .openBrace :: (commaSeparated (fs.members vs) ++ [.closeBrace])

/-- The members of a record that are written, each as tokens. -/
def Fields.members : (fs : Fields) → fs.Val → List (List Token)
  | .nil, _ => []
  | .required name s rest, (v, vs) =>
    (.ofString name :: .colon :: s.tokens v) :: rest.members vs
  | .optional name s rest, (v, vs) =>
    match v with
    | none => rest.members vs
    | some v => (.ofString name :: .colon :: s.tokens v) :: rest.members vs

end

def compact (ts : List Token) : List Char :=
  ts.flatMap Token.chars

/-- A new line, indented by `depth` levels. -/
def newLine (depth : Nat) : List Char :=
  '\n' :: List.replicate (2 * depth) ' '

/-- What stands between the opening bracket at level `depth` and the token after it. -/
def afterOpening (depth : Nat) : List Token → List Char
  | .closeBrace :: _ | .closeBracket :: _ => []
  | _ => newLine depth

/-- Tokens in lines: each element of an array and each member of an object starts one. An empty
array or object stays on its line; `opened` says whether the token before opened one. -/
def pretty (depth : Nat) (opened : Bool) : List Token → List Char
  | [] => []
  | t :: ts =>
    match t with
    | .openBrace | .openBracket =>
      t.chars ++ afterOpening (depth + 1) ts ++ pretty (depth + 1) true ts
    | .closeBrace | .closeBracket =>
      (if opened then [] else newLine (depth - 1)) ++ t.chars ++ pretty (depth - 1) false ts
    | .comma => t.chars ++ newLine depth ++ pretty depth false ts
    | .colon => t.chars ++ [' '] ++ pretty depth false ts
    | _ => t.chars ++ pretty depth false ts

/-- The one-line text of a value. -/
def Codec.compact {α : Type} (c : Codec α) (a : α) : String :=
  String.ofList (Json.compact (c.shape.tokens (c.encode a)))

def Codec.pretty {α : Type} (c : Codec α) (a : α) : String :=
  String.ofList (Json.pretty 0 false (c.shape.tokens (c.encode a)))

end CounterSampling.Json
