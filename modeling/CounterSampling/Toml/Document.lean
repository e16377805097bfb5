import CounterSampling.Toml.Value

/-!
# TOML documents

The tables of a text are put together into one. Each table is read at the first header that leads to
it: first come the pairs under that header if it is the table's own, or else the table that the next
key of the header leads to, and then, in order, what the later headers that lead through the table
add to it. A header in double brackets adds a table to an array, and the headers after it that lead
through the array belong to that table.

A table must not be declared twice, and one that was led to before must not turn out to be an array.
Of several conflicts the first that is met on this way is the one that counts.
-/

namespace CounterSampling.Toml

/-- What is done with the tables of a text that have not been read yet. -/
abbrev Reading (α : Type) : Type :=
  List RawTable → Except Conflict (α × List RawTable)

/-- Whether a table is written in front of a place. -/
def RawTable.isBefore (limit : Option Nat) (t : RawTable) : Bool :=
  match limit with
  | some place => decide (t.place < place)
  | none => true

/-- Take out the first table that meets a condition. -/
def takeFirst (condition : RawTable → Bool) :
    List RawTable → Option (RawTable × List RawTable)
  | [] => none
  | t :: ts =>
    if condition t then some (t, ts)
    else (takeFirst condition ts).map fun p => (p.1, t :: p.2)

/-- Take out the first table in front of the limit whose header leads through a path. -/
def takeThrough (limit : Option Nat) (path : List String) :
    List RawTable → Option (RawTable × List RawTable) :=
  takeFirst fun t => t.isBefore limit && path.isPrefixOf t.header

/-- Take out the table that is added to an array next. -/
def takeItem (limit : Option Nat) (header : List String) :
    List RawTable → Option (RawTable × List RawTable) :=
  takeFirst fun t => t.isBefore limit && t.isArray && t.header == header

/-- The conflict of a header with that of the table read before, if there is one. -/
def checkHeader (former t : RawTable) : Except Conflict Unit :=
  if t.header = former.header then
    .error { cause := .duplicateTable (".".intercalate t.header), place := some t.place }
  else .ok ()

/-- A header of its own must not turn a table that was led to before into an array. -/
def checkOwn (t : RawTable) : Except Conflict Unit :=
  if t.isArray then .error { cause := .redefinedAsArray, place := some t.place } else .ok ()

/-- The table of the shorter header, which is what later headers are compared with. -/
def shorter (former t : RawTable) : RawTable :=
  if t.header.length < former.header.length then t else former

/-- A key of a header that leads to a table must not mark a date. -/
def checkLeads (es : List (String × Setting)) (key : String) (isArray : Bool) :
    Except Conflict Unit :=
  if marksDate es key then
    .error { cause := .noDate (if isArray then "sequence" else "map"), keys := [key] }
  else .ok ()

mutual

/-- Read the table at `path`, of which `t` is the first header; `keys` are the keys of that header
that lead on. Every step uses up a key of a header or a table, which bounds their number by the
fuel. -/
def readTable (origin : Option String) :
    Nat → Option Nat → RawTable → List String → List String → Reading Content
  | 0, _, _, _, _, pending => .ok (.entries [], pending)
  | fuel + 1, limit, t, path, [], pending => do
    match ← t.pairs.content origin [] with
    | .date d => return (.date d, pending)
    | .entries es => readRest origin fuel limit t path es pending
  | fuel + 1, limit, t, path, key :: keys, pending => do
    let (s, pending) ← readUnder origin fuel limit t path [] key keys pending
    readRest origin fuel limit t path [(key, s)] pending

/-- Read what the key `key` of the header of `t` leads to from the table at `path`, which has the
entries `es` so far. -/
def readUnder (origin : Option String) :
    Nat → Option Nat → RawTable → List String → List (String × Setting) → String → List String →
      Reading Setting
  | 0, _, _, _, es, key, _, pending => do
    checkNew es key
    return (.absent, pending)
  | fuel + 1, limit, t, path, es, key, keys, pending => do
    let isArray := t.isArray && keys.isEmpty
    checkLeads es key isArray
    checkNew es key
    under key <|
      if isArray then do
        let (items, pending) ← readItems origin fuel limit t (path ++ [key]) pending
        return (.list origin items, pending)
      else do
        let (content, pending) ← readTable origin fuel limit t (path ++ [key]) keys pending
        return (content.setting origin, pending)

/-- Read the tables of the array at `path`, of which `t` is the first. -/
def readItems (origin : Option String) :
    Nat → Option Nat → RawTable → List String → Reading (List Setting)
  | 0, _, _, _, pending => .ok ([], pending)
  | fuel + 1, limit, t, path, pending => do
    let bound := (takeItem limit path pending).elim limit fun p => some p.1.place
    let (content, pending) ← readTable origin fuel bound t path [] pending
    match takeItem limit path pending with
    | none => return ([content.setting origin], pending)
    | some (next, pending) =>
      let (items, pending) ← readItems origin fuel limit next path pending
      return (content.setting origin :: items, pending)

/-- Read what the headers to come add to the table at `path`, which has the entries `es` so far. -/
def readRest (origin : Option String) :
    Nat → Option Nat → RawTable → List String → List (String × Setting) → Reading Content
  | 0, _, _, _, es, pending => .ok (.entries es, pending)
  | fuel + 1, limit, former, path, es, pending => do
    match takeThrough limit path pending with
    | none => return (.entries es, pending)
    | some (t, pending) =>
      checkHeader former t
      let former := shorter former t
      match t.header.drop path.length with
      | [] =>
        checkOwn t
        match ← t.pairs.content origin es with
        | .date d => return (.date d, pending)
        | .entries es => readRest origin fuel limit former path es pending
      | key :: keys =>
        let (s, pending) ← readUnder origin fuel limit t path es key keys pending
        readRest origin fuel limit former path (es ++ [(key, s)]) pending

end

/-- Enough fuel for tables: each is taken out once, and each of its keys is followed once. -/
def fuelFor (ts : List RawTable) : Nat :=
  ts.foldl (fun n t => n + 3 * t.header.length + 3) 1

def putTogether (origin : Option String) : List RawTable → Except Conflict Content
  | [] => .ok (.entries [])
  | t :: ts => do
    let (content, _) ← readTable origin (fuelFor (t :: ts)) none t [] t.header ts
    return content

/-- Read a text as the entries of a table; `origin` says where the text came from. A conflict
without a place of its own is placed at the last header. -/
def readDocument (origin : Option String) (text : String) :
    Except Error (List (String × Setting)) := do
  let tables ← readTables text
  let last := (tables.getLast?.map RawTable.place).getD 0
  let content ← (putTogether origin tables).mapError fun c => ⟨c.cause, c.place.getD last, c.keys⟩
  return (content.setting origin).entries

end CounterSampling.Toml
