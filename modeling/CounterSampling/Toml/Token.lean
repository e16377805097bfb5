import CounterSampling.Toml.Error

/-!
# Tokens of a TOML text

A text is split into tokens up to the first place where no token can be read. A carriage return
before a newline belongs to the newline, and a mark of the byte order at the start is left out.
-/

namespace CounterSampling.Toml

inductive Token where
  /-- Spaces and tabs. -/
  | blank (text : List Char)
  | newline
  | comment
  | equals
  | period
  | comma
  | colon
  | plus
  | openBrace
  | closeBrace
  | openBracket
  | closeBracket
  /-- A run of ASCII letters, digits, dashes and underscores. -/
  | bare (text : List Char)
  | quoted (text : List Char) (multiline : Bool)
  deriving DecidableEq, Repr

/-- What a token is called in messages. -/
def Token.description : Token → String
  | .blank _ => "whitespace"
  | .newline => "a newline"
  | .comment => "a comment"
  | .equals => "an equals"
  | .period => "a period"
  | .comma => "a comma"
  | .colon => "a colon"
  | .plus => "a plus"
  | .openBrace => "a left brace"
  | .closeBrace => "a right brace"
  | .openBracket => "a left bracket"
  | .closeBracket => "a right bracket"
  | .bare _ => "an identifier"
  | .quoted _ multiline => if multiline then "a multiline string" else "a string"

structure Glyph where
  place : Nat
  char : Char
  deriving DecidableEq, Repr

/-- The characters of a text with their places, from `place` on. -/
def glyphs (place : Nat) : List Char → List Glyph
  | [] => []
  | '\r' :: '\n' :: cs => ⟨place, '\n'⟩ :: glyphs (place + 2) cs
  | c :: cs => ⟨place, c⟩ :: glyphs (place + c.utf8Size) cs

def isBlank (c : Char) : Bool := c == ' ' || c == '\t'

def isBare (c : Char) : Bool :=
  c.isAlphanum || c == '-' || c == '_'

/-- Whether a character can stand in a string as it is. -/
def isPlain (c : Char) : Bool :=
  c == '\t' || (decide (' ' ≤ c) && c != '\x7f')

/-- Whether a character can stand in a comment. -/
def isComment (c : Char) : Bool :=
  c == '\t' || decide (' ' ≤ c)

/-- A kind of string and where it starts. -/
structure Quote where
  /-- The quotation mark; backslashes escape only between double ones. -/
  mark : Char
  multiline : Bool
  place : Nat

def Quote.escapes (q : Quote) : Bool := q.mark == '"'

def Quote.unterminated (q : Quote) : Error := ⟨.unterminatedString, q.place, []⟩

def hexDigit? (c : Char) : Option Nat :=
  if '0' ≤ c ∧ c ≤ '9' then some (c.toNat - '0'.toNat)
  else if 'a' ≤ c ∧ c ≤ 'f' then some (c.toNat - 'a'.toNat + 10)
  else if 'A' ≤ c ∧ c ≤ 'F' then some (c.toNat - 'A'.toNat + 10)
  else none

/-- Read `n` hexadecimal digits. -/
def readHex (q : Quote) (value : Nat) : Nat → List Glyph → Except Error (Nat × List Glyph)
  | 0, gs => .ok (value, gs)
  | _ + 1, [] => .error q.unterminated
  | n + 1, g :: gs =>
    match hexDigit? g.char with
    | some d => readHex q (value * 16 + d) n gs
    | none => .error ⟨.hexEscape g.char, g.place, []⟩

/-- Read a character written as a number of `n` digits; `place` is where the number is announced. -/
def readCodePoint (q : Quote) (place n : Nat) (gs : List Glyph) :
    Except Error (List Char × List Glyph) := do
  let (value, gs) ← readHex q 0 n gs
  if value.isValidChar then return ([Char.ofNat value], gs)
  else throw ⟨.escapeValue value, place, []⟩

/-- Skip an escaped end of line, of which the glyph `g` was read, and the blanks that start the next
lines. -/
def skipLineEnd (g : Glyph) (gs : List Glyph) : Except Error (List Char × List Glyph) :=
  let rest := if g.char = '\n' then gs else gs.dropWhile fun g => isBlank g.char
  match rest with
  | h :: _ =>
    if g.char ≠ '\n' ∧ h.char ≠ '\n' then .error ⟨.escape g.char, g.place, []⟩
    else .ok ([], rest.dropWhile fun g => isBlank g.char || g.char == '\n')
  | [] => .ok ([], [])

/-- Read what follows a backslash: the characters it stands for and what is left. -/
def readEscape (q : Quote) : List Glyph → Except Error (List Char × List Glyph)
  | [] => .error q.unterminated
  | g :: gs =>
    match g.char with
    | '"' => .ok (['"'], gs)
    | '\\' => .ok (['\\'], gs)
    | 'b' => .ok (['\x08'], gs)
    | 'f' => .ok (['\x0c'], gs)
    | 'n' => .ok (['\n'], gs)
    | 'r' => .ok (['\r'], gs)
    | 't' => .ok (['\t'], gs)
    | 'u' => readCodePoint q g.place 4 gs
    | 'U' => readCodePoint q g.place 8 gs
    | c =>
      if q.multiline && (isBlank c || c == '\n') then skipLineEnd g gs
      else .error ⟨.escape c, g.place, []⟩

/-- Read a string after its opening marks; `acc` holds the characters so far, last first. Each step
takes at least one character, which bounds their number by `fuel`. -/
def readString (q : Quote) : Nat → List Char → List Glyph → Except Error (List Char × List Glyph)
  | 0, _, _ => .error q.unterminated
  | _ + 1, _, [] => .error q.unterminated
  | fuel + 1, acc, g :: gs =>
    if g.char = q.mark then
      if q.multiline then
        let marks := 1 + (gs.takeWhile fun g => g.char == q.mark).length
        if marks < 3 then
          readString q fuel (List.replicate marks q.mark ++ acc) (gs.drop (marks - 1))
        else
          .ok ((List.replicate (min marks 5 - 3) q.mark ++ acc).reverse, gs.drop (min marks 5 - 1))
      else .ok (acc.reverse, gs)
    else if g.char = '\n' then
      if q.multiline then readString q fuel ('\n' :: acc) gs
      else .error ⟨.newlineInString, g.place, []⟩
    else if q.escapes ∧ g.char = '\\' then
      match readEscape q gs with
      | .ok (cs, gs) => readString q fuel (cs.reverse ++ acc) gs
      | .error e => .error e
    else if isPlain g.char then readString q fuel (g.char :: acc) gs
    else .error ⟨.charInString g.char, g.place, []⟩

inductive Scan where
  | done
  | broken (e : Error)
  | token (t : Token) (rest : List Glyph)

def scanString (mark : Char) (place : Nat) (gs : List Glyph) : Scan :=
  let finish (multiline : Bool) (gs : List Glyph) : Scan :=
    match readString ⟨mark, multiline, place⟩ (gs.length + 1) [] gs with
    | .ok (cs, gs) => .token (.quoted cs multiline) gs
    | .error e => .broken e
  match gs with
  | a :: b :: rest =>
    if a.char = mark then
      if b.char = mark then
        match rest with
        | c :: rest' => finish true (if c.char = '\n' then rest' else rest)
        | [] => finish true []
      else .token (.quoted [] false) (b :: rest)
    else finish false gs
  | [a] => if a.char = mark then .token (.quoted [] false) [] else finish false gs
  | [] => finish false []

def scanFirst : List Glyph → Scan
  | [] => .done
  | g :: gs =>
    match g.char with
    | '\n' => .token .newline gs
    | '#' => .token .comment (gs.dropWhile fun g => isComment g.char)
    | '=' => .token .equals gs
    | '.' => .token .period gs
    | ',' => .token .comma gs
    | ':' => .token .colon gs
    | '+' => .token .plus gs
    | '\x7b' => .token .openBrace gs
    | '\x7d' => .token .closeBrace gs
    | '[' => .token .openBracket gs
    | ']' => .token .closeBracket gs
    | '\'' => scanString '\'' g.place gs
    | '"' => scanString '"' g.place gs
    | c =>
      if isBlank c then
        .token (.blank (c :: (gs.takeWhile fun g => isBlank g.char).map fun g => g.char))
          (gs.dropWhile fun g => isBlank g.char)
      else if isBare c then
        .token (.bare (c :: (gs.takeWhile fun g => isBare g.char).map fun g => g.char))
          (gs.dropWhile fun g => isBare g.char)
      else .broken ⟨.unexpected c, g.place, []⟩

structure Lexeme where
  place : Nat
  token : Token
  deriving DecidableEq, Repr

/-- A text split into tokens. -/
structure Lexed where
  lexemes : List Lexeme
  /-- Why the text could not be split to its end. -/
  broken : Option Error
  size : Nat

/-- Split a text into at most `fuel` tokens. -/
def scanWithin : Nat → List Glyph → List Lexeme × Option Error
  | 0, _ => ([], none)
  | _ + 1, [] => ([], none)
  | fuel + 1, g :: gs =>
    match scanFirst (g :: gs) with
    | .done => ([], none)
    | .broken e => ([], some e)
    | .token t rest =>
      let (ts, e) := scanWithin fuel rest
      (⟨g.place, t⟩ :: ts, e)

/-- Split a text into tokens. A token takes at least one character, so the length of the text is
fuel enough. -/
def scan (text : String) : Lexed :=
  let gs :=
    match glyphs 0 text.toList with
    | g :: gs => if g.char = '\ufeff' then gs else g :: gs
    | [] => []
  let (lexemes, broken) := scanWithin (gs.length + 1) gs
  ⟨lexemes, broken, text.utf8ByteSize⟩

end CounterSampling.Toml
