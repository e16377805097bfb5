import CounterSampling.Json.Number
import CounterSampling.Json.Shape

/-!
# Reading data by shape

A reader takes tokens off the front and gives a value or the first thing that is wrong. A record may
be written as an object, whose unknown members are skipped, or as an array of its fields in order. A
member met twice, a required one that is missing and a value of another type are mismatches; what
breaks the syntax before that is met first.
-/

namespace CounterSampling.Json

abbrev Reader (α : Type) : Type :=
  List Token → Except ReadError (α × List Token)

def isLead (u : Nat) : Bool := decide (0xD800 ≤ u) && decide (u ≤ 0xDBFF)

def isTrail (u : Nat) : Bool := decide (0xDC00 ≤ u) && decide (u ≤ 0xDFFF)

/-- The characters of a string, with paired units joined. A half of a pair on its own breaks the
syntax. `broken` is the error of a string that is cut off after these pieces. -/
def join (broken : Option ReadError) : List Piece → Except ReadError (List Char)
  | [] =>
    match broken with
    | none => .ok []
    | some e => .error e
  | .char c :: ps => (join broken ps).map (c :: ·)
  | .unit u :: ps =>
    if isLead u then
      match ps with
      | .unit v :: ps =>
        if isTrail v then
          (join broken ps).map (Char.ofNat (0x10000 + (u - 0xD800) * 0x400 + (v - 0xDC00)) :: ·)
        else .error .malformed
      | .char _ :: _ => .error .malformed
      | [] => .error (broken.getD .malformed)
    else if isTrail u then .error .malformed
    else (join broken ps).map (Char.ofNat u :: ·)

/-- The error of a string that is cut off. -/
def brokenQuote (ps : List Piece) (e : ReadError) : ReadError :=
  match join (some e) ps with
  | .error e => e
  | .ok _ => e

/-- The error at the ending where a value is wanted. -/
def Ending.atValue : Ending → ReadError
  | .done => .unfinished
  | .stray => .malformed
  | .word e => e
  | .number truncated => if truncated then .unfinished else .malformed
  | .quoted ps e => brokenQuote ps e

/-- The error at the ending where a name is wanted. -/
def Ending.atName : Ending → ReadError
  | .done => .unfinished
  | .quoted ps e => brokenQuote ps e
  | _ => .malformed

/-- The error at the ending where a comma, colon or bracket is wanted. -/
def Ending.atDelimiter : Ending → ReadError
  | .done => .unfinished
  | _ => .malformed

/-- The error at the ending within a value that is skipped. A cut-off number breaks the syntax
there, and the halves of pairs are not looked at. -/
def Ending.atSkippedValue : Ending → ReadError
  | .done => .unfinished
  | .word e => e
  | .quoted _ e => e
  | _ => .malformed

/-- The error at the ending where a name within a skipped value is wanted. -/
def Ending.atSkippedName : Ending → ReadError
  | .done => .unfinished
  | .quoted _ e => e
  | _ => .malformed

/-- The error of a token that starts no value of the wanted type. -/
def wrongType : Token → ReadError
  | .number n => if (number? n).isSome then .mismatch else .malformed
  | .quoted ps =>
    match join none ps with
    | .ok _ => .mismatch
    | .error e => e
  | .null | .bool _ | .openBrace | .openBracket => .mismatch
  | _ => .malformed

def readColon (e : Ending) (ts : List Token) : Except ReadError (List Token) :=
  match ts with
  | .colon :: ts => .ok ts
  | [] => .error e.atDelimiter
  | _ => .error .malformed

def readText (e : Ending) : Reader (List Char)
  | .quoted ps :: ts => (join none ps).map (·, ts)
  | t :: _ => .error (wrongType t)
  | [] => .error e.atValue

/-- What a skipped value is nested in, innermost first. -/
inductive Nest where
  | array
  | object
  deriving DecidableEq, Repr

/-- Where skipping stands. -/
inductive SkipPoint where
  | value
  /-- A bracket was just opened. -/
  | opened
  | after
  | name
  | colon
  deriving DecidableEq, Repr

/-- Skip the rest of a value. -/
def skip (e : Ending) : SkipPoint → List Nest → List Token → Except ReadError (List Token)
  | .after, [], ts => .ok ts
  | p, nest, [] =>
    .error <| match p, nest with
      | .value, _ => e.atSkippedValue
      | .opened, .object :: _ => e.atSkippedName
      | .opened, _ => e.atSkippedValue
      | .name, _ => e.atSkippedName
      | _, _ => e.atDelimiter
  | .value, nest, t :: ts =>
    match t with
    | .null | .bool _ | .number _ | .quoted _ => skip e .after nest ts
    | .openBracket => skip e .opened (.array :: nest) ts
    | .openBrace => skip e .opened (.object :: nest) ts
    | _ => .error .malformed
  | .opened, nest, t :: ts =>
    match nest, t with
    | .array :: nest, .closeBracket => skip e .after nest ts
    | .object :: nest, .closeBrace => skip e .after nest ts
    | .object :: nest, .quoted _ => skip e .colon (.object :: nest) ts
    | .array :: nest, .null | .array :: nest, .bool _ | .array :: nest, .number _
    | .array :: nest, .quoted _ => skip e .after (.array :: nest) ts
    | .array :: nest, .openBracket => skip e .opened (.array :: .array :: nest) ts
    | .array :: nest, .openBrace => skip e .opened (.object :: .array :: nest) ts
    | _, _ => .error .malformed
  | .after, n :: nest, t :: ts =>
    match n, t with
    | .array, .comma => skip e .value (n :: nest) ts
    | .object, .comma => skip e .name (n :: nest) ts
    | .array, .closeBracket => skip e .after nest ts
    | .object, .closeBrace => skip e .after nest ts
    | _, _ => .error .malformed
  | .name, nest, t :: ts =>
    match t with
    | .quoted _ => skip e .colon nest ts
    | _ => .error .malformed
  | .colon, nest, t :: ts =>
    match t with
    | .colon => skip e .value nest ts
    | _ => .error .malformed

def skipValue (e : Ending) (ts : List Token) : Except ReadError (List Token) :=
  skip e .value [] ts

/-- Go to the next element of an array: nothing at the closing bracket, which stays. -/
def nextElement (e : Ending) (first : Bool) : List Token → Except ReadError (Option (List Token))
  | .closeBracket :: _ => .ok none
  | .comma :: ts =>
    if first then .ok (some (.comma :: ts))
    else match ts with
      | .closeBracket :: _ => .error .malformed
      | _ => .ok (some ts)
  | [] => if first then .ok (some []) else .error e.atDelimiter
  | ts => if first then .ok (some ts) else .error .malformed

/-- Go to the next member of an object: its name and what follows, or nothing at the closing
brace, which stays. -/
def nextMember (e : Ending) (first : Bool) :
    List Token → Except ReadError (Option (List Piece × List Token))
  | .closeBrace :: _ => .ok none
  | .comma :: ts =>
    if first then .error .malformed
    else match ts with
      | .quoted ps :: ts => .ok (some (ps, ts))
      | [] => .error e.atName
      | _ => .error .malformed
  | .quoted ps :: ts => if first then .ok (some (ps, ts)) else .error .malformed
  | [] => .error (if first then e.atName else e.atDelimiter)
  | _ => .error .malformed

/-- Read the elements of an array up to the closing bracket. Each takes at least one token, which
bounds their number by `fuel`. -/
def readElements {α : Type} (e : Ending) (element : Reader α) :
    Nat → Bool → Reader (List α)
  | 0, _, _ => .error .malformed
  | fuel + 1, first, ts => do
    match ← nextElement e first ts with
    | none => return ([], ts.drop 1)
    | some ts =>
      let (v, ts) ← element ts
      let (vs, ts) ← readElements e element fuel false ts
      return (v :: vs, ts)

/-- Read the members of an object up to the closing brace into `slots`. For a name it knows, `slot?`
gives what reads the member, or nothing if the member was met before. -/
def readMembers {σ : Type} (e : Ending) (slot? : List Char → Option (σ → Option (Reader σ))) :
    Nat → Bool → σ → Reader σ
  | 0, _, _, _ => .error .malformed
  | fuel + 1, first, slots, ts => do
    match ← nextMember e first ts with
    | none => return (slots, ts.drop 1)
    | some (ps, ts) =>
      match slot? (← join none ps) with
      | none =>
        let ts ← skipValue e (← readColon e ts)
        readMembers e slot? fuel false slots ts
      | some known =>
        match known slots with
        | none => throw .mismatch
        | some member =>
          let (slots, ts) ← member (← readColon e ts)
          readMembers e slot? fuel false slots ts

/-- Read one of several names: as a string, or as an object with one member of that name and the
value `null`. -/
def readChoice (e : Ending) (names : List String) : Reader (Fin names.length)
  | .quoted ps :: ts => do
    match names.finIdxOf? (String.ofList (← join none ps)) with
    | some i => return (i, ts)
    | none => throw .mismatch
  | .openBrace :: .quoted ps :: ts => do
    match names.finIdxOf? (String.ofList (← join none ps)) with
    | none => throw .mismatch
    | some i =>
      match ← readColon e ts with
      | .null :: .closeBrace :: ts => return (i, ts)
      | [.null] => throw e.atDelimiter
      | .null :: _ => throw .malformed
      | t :: _ => throw (wrongType t)
      | [] => throw e.atValue
  | [.openBrace] | [] => .error e.atName
  | _ :: _ => .error .malformed

mutual

def Shape.read (e : Ending) : (s : Shape) → Reader s.Val
  | .number size, ts =>
    match ts with
    | .number n :: ts =>
      match number? n with
      | some (.unsigned k) => if h : k < size then .ok (⟨k, h⟩, ts) else .error .mismatch
      | some _ => .error .mismatch
      | none => .error .malformed
    | t :: _ => .error (wrongType t)
    | [] => .error e.atValue
  | .float, ts =>
    match ts with
    | .number n :: ts =>
      match number? n with
      | some (.unsigned k) => .ok ((UInt64.ofNat k).toFloat, ts)
      | some (.negative k) => .ok ((Int64.ofInt k).toFloat, ts)
      | some (.double x) => .ok (x, ts)
      | none => .error .malformed
    | t :: _ => .error (wrongType t)
    | [] => .error e.atValue
  | .flag, ts =>
    match ts with
    | .bool b :: ts => .ok (b, ts)
    | t :: _ => .error (wrongType t)
    | [] => .error e.atValue
  | .text, ts => (readText e ts).map fun p => (String.ofList p.1, p.2)
  | .choice names, ts => readChoice e names ts
  | .nullable s, ts =>
    match ts with
    | .null :: ts => .ok (none, ts)
    | ts => (s.read e ts).map fun p => (some p.1, p.2)
  | .sequence s, ts =>
    match ts with
    | .openBracket :: ts => readElements e (s.read e) (ts.length + 1) true ts
    | t :: _ => .error (wrongType t)
    | [] => .error e.atValue
  | .record fs, ts =>
    match ts with
    | .openBrace :: ts => do
      let (slots, ts) ←
        readMembers e (fs.slot? e) (ts.length + 1) true fs.noSlots ts
      match fs.complete? slots with
      | some vs => return (vs, ts)
      | none => throw .mismatch
    | .openBracket :: ts => do
      let (slots, ts) ← fs.readInOrder e true ts
      match fs.complete? slots with
      | none => throw .mismatch
      | some vs =>
        match ts with
        | .closeBracket :: ts => return (vs, ts)
        | [] => throw e.atDelimiter
        | _ => throw .malformed
    | t :: _ => .error (wrongType t)
    | [] => .error e.atValue

/-- What reads the member of a name into its slot. -/
def Fields.slot? (e : Ending) :
    (fs : Fields) → List Char → Option (fs.Slots → Option (Reader fs.Slots))
  | .nil, _ => none
  | .required known s rest, name =>
    if known.toList = name then
      some fun slots =>
        match slots.1 with
        | some _ => none
        | none => some fun ts => (s.read e ts).map fun p => ((some p.1, slots.2), p.2)
    else
      (rest.slot? e name).map fun f slots =>
        (f slots.2).map fun r ts => (r ts).map fun p => ((slots.1, p.1), p.2)
  | .optional known s rest, name =>
    if known.toList = name then
      some fun slots =>
        match slots.1 with
        | some _ => none
        | none => some fun ts => (s.read e ts).map fun p => ((some p.1, slots.2), p.2)
    else
      (rest.slot? e name).map fun f slots =>
        (f slots.2).map fun r ts => (r ts).map fun p => ((slots.1, p.1), p.2)

/-- Read fields in order from an array, up to its closing bracket, which stays. A required field
that is not there is a mismatch at once. -/
def Fields.readInOrder (e : Ending) : (fs : Fields) → Bool → Reader fs.Slots
  | .nil, _, ts => .ok ((), ts)
  | .required _ s rest, first, ts => do
    match ← nextElement e first ts with
    | none => throw .mismatch
    | some ts =>
      let (v, ts) ← s.read e ts
      let (slots, ts) ← rest.readInOrder e false ts
      return ((some v, slots), ts)
  | .optional _ s rest, first, ts => do
    match ← nextElement e first ts with
    | none =>
      let (slots, ts) ← rest.readInOrder e first ts
      return ((none, slots), ts)
    | some ts =>
      let (v, ts) ← s.read e ts
      let (slots, ts) ← rest.readInOrder e false ts
      return ((some v, slots), ts)

end

/-- Read a whole text as one value. -/
def Codec.ofString? {α : Type} (c : Codec α) (text : String) : Except ReadError α :=
  match scan text.toList with
  | (ts, e) =>
    match c.shape.read e ts with
    | .error x => .error x
    | .ok (v, []) => if e = .done then .ok (c.decode v) else .error .malformed
    | .ok (_, _ :: _) => .error .malformed

end CounterSampling.Json
