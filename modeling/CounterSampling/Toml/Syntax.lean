import CounterSampling.Toml.Number
import CounterSampling.Toml.Token

/-!
# The syntax of a TOML text

A text is a list of tables, each with a header, except that pairs may stand before the first header,
and with its keys and values in order. Whether keys repeat and how headers fit together is not
looked at here.
-/

namespace CounterSampling.Toml

mutual

/-- A value as it is written, and its place. -/
inductive Raw where
  | scalar (place : Nat) (v : Scalar)
  /-- The text of a date or a time. -/
  | dateTime (place : Nat) (text : List Char)
  | list (place : Nat) (items : List Raw)
  | table (place : Nat) (pairs : RawPairs)
  /-- A table that dotted keys lead into; its place is that of its first value. -/
  | dotted (place : Nat) (pairs : RawPairs)

inductive RawPairs where
  | nil
  | cons (key : String) (value : Raw) (rest : RawPairs)

end

/-- The place of a value. A number with a fraction is at its fraction. -/
def Raw.place : Raw → Nat
  | .scalar place _ => place
  | .dateTime place _ => place
  | .list place _ => place
  | .table place _ => place
  | .dotted place _ => place

def RawPairs.isEmpty : RawPairs → Bool
  | .nil => true
  | .cons .. => false

/-- A table under a header; the pairs before the first header have none. -/
structure RawTable where
  place : Nat
  header : List String
  isArray : Bool
  pairs : RawPairs

abbrev Reader (α : Type) : Type :=
  List Lexeme → Except Error (α × List Lexeme)

namespace Lexed

/-- The next token, if there is one; an error where the text could not be split. -/
def peek? (l : Lexed) : List Lexeme → Except Error (Option Lexeme)
  | t :: _ => .ok (some t)
  | [] =>
    match l.broken with
    | some e => .error e
    | none => .ok none

def placeOf (l : Lexed) : List Lexeme → Nat
  | t :: _ => t.place
  | [] => l.size

def eat (l : Lexed) (t : Token) : Reader Bool := fun ts => do
  match ← l.peek? ts with
  | some x => return if x.token = t then (true, ts.drop 1) else (false, ts)
  | none => return (false, ts)

def expect (l : Lexed) (t : Token) (ts : List Lexeme) : Except Error (List Lexeme) := do
  match ← l.peek? ts with
  | some x =>
    if x.token = t then return ts.drop 1
    else throw ⟨.wanted t.description x.token.description, x.place, []⟩
  | none => throw ⟨.wanted t.description "eof", l.size, []⟩

def skipBlanks (l : Lexed) (ts : List Lexeme) : Except Error (List Lexeme) := do
  match ← l.peek? ts with
  | some ⟨_, .blank _⟩ => return ts.drop 1
  | _ => return ts

def endLine (l : Lexed) (ts : List Lexeme) : Except Error (List Lexeme) := do
  match ← l.peek? ts with
  | none => return ts
  | some ⟨_, .newline⟩ => return ts.drop 1
  | some x => throw ⟨.wanted "newline" x.token.description, x.place, []⟩

def eatComment (l : Lexed) : Reader Bool := fun ts => do
  match ← l.peek? ts with
  | some ⟨_, .comment⟩ => return (true, ← l.endLine (ts.drop 1))
  | _ => return (false, ts)

def finishLine (l : Lexed) (ts : List Lexeme) : Except Error (List Lexeme) := do
  let ts ← l.skipBlanks ts
  match ← l.eatComment ts with
  | (true, ts) => return ts
  | (false, ts) => l.endLine ts

def readKey (l : Lexed) : Reader String := fun ts => do
  match ← l.peek? ts with
  | some ⟨_, .bare text⟩ => return (String.ofList text, ts.drop 1)
  | some ⟨_, .quoted text false⟩ => return (String.ofList text, ts.drop 1)
  | some ⟨place, .quoted _ true⟩ => throw ⟨.multilineKey, place, []⟩
  | some x => throw ⟨.wanted "a table key" x.token.description, x.place, []⟩
  | none => throw ⟨.wanted "a table key" "eof", l.size, []⟩

def readMoreKeys (l : Lexed) : Nat → Reader (List String)
  | 0, ts => .ok ([], ts)
  | fuel + 1, ts => do
    match ← l.eat .period ts with
    | (false, ts) => return ([], ts)
    | (true, ts) =>
      let (key, ts) ← l.readKey (← l.skipBlanks ts)
      let (keys, ts) ← l.readMoreKeys fuel (← l.skipBlanks ts)
      return (key :: keys, ts)

def readKeys (l : Lexed) : Reader (String × List String) := fun ts => do
  let (key, ts) ← l.readKey ts
  let ts ← l.skipBlanks ts
  let (keys, ts) ← l.readMoreKeys ts.length ts
  return ((key, keys), ts)

/-! ## Scalars -/

/-- Take a bare word, which has to be the next token; `place` is that of the error if it is not. -/
def readBare (l : Lexed) (cause : Cause) (place : Nat) : Reader (List Char) := fun ts => do
  match ← l.peek? ts with
  | some ⟨_, .bare text⟩ => return (text, ts.drop 1)
  | _ => throw ⟨cause, place, []⟩

/-- Take a bare word after a certain token; nothing if another token is next. -/
def readBareAfter (l : Lexed) (t : Token) (mark : Char) (place : Nat) : Reader (List Char) :=
  fun ts => do
    match ← l.eat t ts with
    | (false, ts) => return ([], ts)
    | (true, ts) =>
      let (text, ts) ← l.readBare .date place ts
      return (mark :: text, ts)

/-- Take the part of a time behind the colon that follows the hour. -/
def readClock (l : Lexed) (place : Nat) : Reader (List Char) := fun ts => do
  let (minutes, ts) ← l.readBare .date place ts
  let ts ← l.expect .colon ts
  let (seconds, ts) ← l.readBare .date place ts
  let (fraction, ts) ← l.readBareAfter .period '.' place ts
  let (east, ts) ← l.readBareAfter .plus '+' place ts
  let (minutes', ts) ← l.readBareAfter .colon ':' place ts
  return (':' :: minutes ++ ':' :: seconds ++ fraction ++ east ++ minutes', ts)

/-- Take the hour of a time that is parted from its date by one space. -/
def readSpacedHour (ts : List Lexeme) : List Char × List Lexeme :=
  match ts with
  | ⟨_, .blank [' ']⟩ :: ⟨_, .bare hour⟩ :: rest => (' ' :: hour, rest)
  | _ => ([], ts)

/-- Take the rest of a date or time that starts with the word `start`. -/
def readDateTime (l : Lexed) (place : Nat) (start : List Char) (inClock : Bool) : Reader Raw :=
  fun ts => do
    let (hour, ts) := readSpacedHour ts
    let (colon, ts) ← if inClock then pure (true, ts) else l.eat .colon ts
    if colon then
      let (clock, ts) ← l.readClock place ts
      return (.dateTime place (start ++ hour ++ clock), ts)
    else return (.dateTime place (start ++ hour), ts)

/-- Take the exponent of a number that the text `suffix` follows. `place` is that of the suffix and
`start` that of the number. -/
def readPower (l : Lexed) (start place : Nat) (suffix : List Char) :
    Reader (Option (List Char)) := fun ts => do
  match suffix with
  | [] => return (none, ts)
  | c :: digits =>
    if c ≠ 'e' ∧ c ≠ 'E' then throw (numberError start)
    if digits.isEmpty then
      let (_, ts) ← l.eat .plus ts
      let (text, ts') ← l.readBare .number start ts
      let (power, rest) ← splitInteger (.part false) (l.placeOf ts) text
      if !rest.isEmpty then throw (numberError start)
      return (some power, ts')
    else
      let (power, rest) ← splitInteger (.part true) (place + 1) digits
      if !rest.isEmpty then throw (numberError start)
      return (some power, ts)

/-- Take a number with a fraction or an exponent, written at `outset`; `after` is the word behind
the point and its place. -/
def readFloat (l : Lexed) (outset place : Nat) (text : List Char)
    (after : Option (Nat × List Char)) : Reader Raw := fun ts => do
  let (whole, suffix) ← splitInteger .decimal place text
  match after with
  | none =>
    let (power, ts) ← l.readPower place (place + whole.length) suffix ts
    return (.scalar outset (← readDouble place whole [] power), ts)
  | some (place', text) =>
    if !suffix.isEmpty then throw (numberError place)
    let (fraction, suffix) ← splitInteger (.part false) place' text
    let (power, ts) ← l.readPower place (place' + fraction.length) suffix ts
    return (.scalar place' (← readDouble place whole fraction power), ts)

/-- Take a number, written at `outset`, that starts with a word. -/
def readNumber (l : Lexed) (outset place : Nat) (text : List Char) : Reader Raw := fun ts => do
  let inRadix (radix : Nat) (digits : List Char) : Except Error (Raw × List Lexeme) := do
    return (.scalar outset (← readInteger ⟨radix, false, true⟩ (place + 2) digits), ts)
  match text with
  | '0' :: 'x' :: digits => inRadix 16 digits
  | '0' :: 'o' :: digits => inRadix 8 digits
  | '0' :: 'b' :: digits => inRadix 2 digits
  | _ =>
    if text.any fun c => c == 'e' || c == 'E' then l.readFloat outset place text none ts
    else
      match ← l.eat .period ts with
      | (true, ts) =>
        let (fraction, ts') ← l.readBare .number (l.placeOf ts) ts
        l.readFloat outset place text (some (l.placeOf ts, fraction)) ts'
      | (false, ts) =>
        if text = ['i', 'n', 'f'] then return (.scalar outset (.number (1.0 / 0.0)), ts)
        else if text = ['-', 'i', 'n', 'f'] then return (.scalar outset (.number (-1.0 / 0.0)), ts)
        else if text = ['n', 'a', 'n'] ∨ text = ['-', 'n', 'a', 'n'] then
          return (.scalar outset (.number (0.0 / 0.0)), ts)
        else return (.scalar outset (← readInteger .decimal place text), ts)

def hasNegativePower : List Char → Bool
  | [] => false
  | c :: cs => ((c == 'e' || c == 'E') && cs.head? == some '-') || hasNegativePower cs

def startsDate (text : List Char) : Bool :=
  text.any (fun c => c == 'T' || c == 't') ||
    ((text.drop 1).contains '-' && !hasNegativePower text)

def readNumberOrDate (l : Lexed) (place : Nat) (text : List Char) : Reader Raw := fun ts => do
  if startsDate text then l.readDateTime place text false ts
  else
    match ← l.eat .colon ts with
    | (true, ts) => l.readDateTime place text true ts
    | (false, ts) => l.readNumber place place text ts

def readWord (l : Lexed) (place : Nat) (text : List Char) : Reader Raw := fun ts => do
  match String.ofList text with
  | "true" => return (.scalar place (.flag true), ts)
  | "false" => return (.scalar place (.flag false), ts)
  | "inf" => l.readNumberOrDate place text ts
  | "nan" => l.readNumberOrDate place text ts
  | _ =>
    match text with
    | c :: _ =>
      if c = '-' ∨ c.isDigit then l.readNumberOrDate place text ts
      else throw ⟨.unquoted, place, []⟩
    | [] => throw ⟨.unquoted, place, []⟩

/-! ## Values -/

/-- Write a value under keys. A key met before has to lead into a table of dotted keys. -/
def addDotted (value : Raw) : String → List String → RawPairs → Except Error RawPairs
  | key, [], .nil => .ok (.cons key value .nil)
  | key, next :: keys, .nil => do
    return .cons key (.dotted value.place (← addDotted value next keys .nil)) .nil
  | key, [], .cons k v rest => do
    return .cons k v (← addDotted value key [] rest)
  | key, next :: keys, .cons k v rest => do
    if k = key then
      match v with
      | .dotted place pairs =>
        return .cons k (.dotted place (← addDotted value next keys pairs)) rest
      | _ => throw ⟨.dottedKey, v.place, []⟩
    else return .cons k v (← addDotted value key (next :: keys) rest)

/-- Skip blanks, newlines and comments within an array. -/
def skipLines (l : Lexed) : Nat → List Lexeme → Except Error (List Lexeme)
  | 0, ts => .ok ts
  | fuel + 1, ts => do
    let ts ← l.skipBlanks ts
    match ← l.eat .newline ts with
    | (true, ts) => l.skipLines fuel ts
    | (false, ts) =>
      match ← l.eatComment ts with
      | (true, ts) => l.skipLines fuel ts
      | (false, ts) => return ts

def skipAll (l : Lexed) (ts : List Lexeme) : Except Error (List Lexeme) :=
  l.skipLines ts.length ts

mutual

/-- Take a value. Every second step into a value takes a token, which bounds the depth by `fuel`. -/
def readValue (l : Lexed) : Nat → Reader Raw
  | 0, ts => .error ⟨.ended, l.placeOf ts, []⟩
  | fuel + 1, ts => do
    match ← l.peek? ts with
    | none => throw ⟨.ended, l.size, []⟩
    | some ⟨place, t⟩ =>
      let ts := ts.drop 1
      match t with
      | .quoted text _ => return (.scalar place (.text (String.ofList text)), ts)
      | .bare text => l.readWord place text ts
      | .plus =>
        let (text, ts') ← l.readBare .number (l.placeOf ts) ts
        l.readNumber place (l.placeOf ts) text ts'
      | .openBrace =>
        let ts ← l.skipBlanks ts
        match ← l.eat .closeBrace ts with
        | (true, ts) => return (.table place .nil, ts)
        | (false, ts) =>
          let (pairs, ts) ← l.readPairs fuel .nil ts
          return (.table place pairs, ts)
      | .openBracket =>
        let (items, ts) ← l.readItems fuel ts
        return (.list place items, ts)
      | t => throw ⟨.wanted "a value" t.description, place, []⟩

def readItems (l : Lexed) : Nat → Reader (List Raw)
  | 0, ts => .error ⟨.ended, l.placeOf ts, []⟩
  | fuel + 1, ts => do
    let ts ← l.skipAll ts
    match ← l.eat .closeBracket ts with
    | (true, ts) => return ([], ts)
    | (false, ts) =>
      let (v, ts) ← l.readValue fuel ts
      let ts ← l.skipAll ts
      match ← l.eat .comma ts with
      | (true, ts) =>
        let (vs, ts) ← l.readItems fuel ts
        return (v :: vs, ts)
      | (false, ts) => return ([v], ← l.expect .closeBracket (← l.skipAll ts))

/-- Take the pairs of an inline table and its closing brace, after those in `pairs`. -/
def readPairs (l : Lexed) : Nat → RawPairs → Reader RawPairs
  | 0, _, ts => .error ⟨.ended, l.placeOf ts, []⟩
  | fuel + 1, pairs, ts => do
    let ((key, keys), ts) ← l.readKeys ts
    let ts ← l.skipBlanks (← l.expect .equals (← l.skipBlanks ts))
    let (v, ts) ← l.readValue fuel ts
    let pairs ← addDotted v key keys pairs
    let ts ← l.skipBlanks ts
    match ← l.eat .closeBrace ts with
    | (true, ts) => return (pairs, ts)
    | (false, ts) =>
      let ts ← l.expect .comma ts
      l.readPairs fuel pairs (← l.skipBlanks ts)

end

/-! ## Lines -/

def readHeader (l : Lexed) : Reader (Bool × List String) := fun ts => do
  let ts ← l.expect .openBracket ts
  let (isArray, ts) ← l.eat .openBracket ts
  let ((key, keys), ts) ← l.readKeys (← l.skipBlanks ts)
  let ts ← l.expect .closeBracket ts
  let ts ← if isArray then l.expect .closeBracket ts else pure ts
  return ((isArray, key :: keys), ← l.finishLine ts)

/-- Take the tables of a text; `current` is the one under way. Each line takes at least one token,
which bounds their number by `fuel`. -/
def readTables (l : Lexed) : Nat → RawTable → List Lexeme → Except Error (List RawTable)
  | 0, current, _ => .ok [current]
  | fuel + 1, current, ts => do
    let ts ← l.skipAll ts
    match ← l.peek? ts with
    | none => return [current]
    | some ⟨place, .openBracket⟩ =>
      let ((isArray, header), ts) ← l.readHeader ts
      return current :: (← l.readTables fuel ⟨place, header, isArray, .nil⟩ ts)
    | some _ =>
      let ((key, keys), ts) ← l.readKeys ts
      let ts ← l.skipBlanks (← l.expect .equals (← l.skipBlanks ts))
      let (v, ts) ← l.readValue (2 * ts.length + 2) ts
      let ts ← l.finishLine ts
      let pairs ← addDotted v key keys current.pairs
      l.readTables fuel { current with pairs } ts

end Lexed

/-- The tables of a text in order. If there are pairs before the first header, the first table holds
them and has no header. -/
def readTables (text : String) : Except Error (List RawTable) := do
  let l := scan text
  match ← l.readTables (l.lexemes.length + 1) ⟨0, [], false, .nil⟩ l.lexemes with
  | t :: ts => return if t.pairs.isEmpty then ts else t :: ts
  | [] => return []

end CounterSampling.Toml
