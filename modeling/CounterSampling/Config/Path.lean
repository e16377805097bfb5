import CounterSampling.Config.Setting
import CounterSampling.Table
import CounterSampling.Text.Integer
import CounterSampling.Word

/-!
# Paths to settings

The key of a setting is a path: a name, followed by names after periods and numbers in brackets. A
key that is no path is taken as one name. Writing to a path makes the tables and lists it leads
through; whatever else stands there is replaced.
-/

namespace CounterSampling

inductive PathStep where
  /-- To an entry of a table. -/
  | entry (name : String)
  /-- To an item of a list; below zero it is counted from the end. -/
  | item (index : Int)
  deriving DecidableEq, Repr

namespace PathStep

/-- Whether a character can stand in a name of a path. -/
def isNameChar (c : Char) : Bool :=
  c.isAlphanum || c == ' ' || c == '_' || c == '-'

def readName? (cs : List Char) : Option (String × List Char) :=
  match cs.takeWhile isNameChar with
  | [] => none
  | name => some (String.ofList name, cs.dropWhile isNameChar)

def isGap (c : Char) : Bool := c == ' ' || c == '\t'

/-- Read a number and the bracket that closes it. -/
def readIndex? (cs : List Char) : Option (Int × List Char) :=
  let cs := cs.dropWhile isGap
  let isNumeral (c : Char) : Bool := c.isDigit || c == '-'
  match Text.readSigned Word.maxSigned (cs.takeWhile isNumeral),
      (cs.dropWhile isNumeral).dropWhile isGap with
  | .ok i, ']' :: rest => some (i, rest)
  | _, _ => none

/-- Read the steps after the first; each takes at least one character, which bounds their number by
`fuel`. -/
def readMore? : Nat → List Char → Option (List PathStep)
  | _, [] => some []
  | 0, _ :: _ => none
  | fuel + 1, '.' :: cs => do
    let (name, cs) ← readName? cs
    return .entry name :: (← readMore? fuel cs)
  | fuel + 1, '[' :: cs => do
    let (i, cs) ← readIndex? cs
    return .item i :: (← readMore? fuel cs)
  | _ + 1, _ => none

def ofKey (key : String) : String × List PathStep :=
  match readName? key.toList with
  | some (name, cs) =>
    match readMore? cs.length cs with
    | some steps => (name, steps)
    | none => (key, [])
  | none => (key, [])

end PathStep

namespace Setting

/-- Where a table came from; anything else is replaced by one that came from nowhere. -/
def tableOrigin : Setting → Option String
  | .table o _ => o
  | _ => none

/-- Where a list came from; anything else is replaced by one that came from nowhere. -/
def listOrigin : Setting → Option String
  | .list o _ => o
  | _ => none

def addEntries (incoming : List (String × Setting)) : Option Setting → Setting
  | none => .table none incoming
  | some s =>
    if incoming.isEmpty then s
    else .table s.tableOrigin (incoming.foldl (fun es e => Table.write e.1 e.2 es) s.entries)

/-- Write an entry of a table. A table is added to the one that stands there. -/
def putEntry (name : String) (v : Setting) (s : Setting) : Setting :=
  let written :=
    match v with
    | .table _ incoming => addEntries incoming (Table.lookup name s.entries)
    | v => v
  .table s.tableOrigin (Table.write name written s.entries)

/-- The memory one setting takes, in bytes. -/
def bytes : Nat := 96

/-- The place of an item in a list of some length. -/
def itemPlace (length : Nat) (index : Int) : Except Abort Nat :=
  if 0 ≤ index then
    if bytes * (index.toNat + 1) ≤ Word.maxSigned then .ok index.toNat else .error .capacity
  else if Word.maxSigned < index.natAbs then .error .negation
  else if index.natAbs ≤ length then .ok (length - index.natAbs)
  else .error .difference

/-- A list that is long enough to have an item at a place. -/
def extended (place : Nat) (items : List Setting) : List Setting :=
  items ++ List.replicate (place + 1 - items.length) absent

/-- Write to the place that steps lead to. -/
def write (v : Setting) : List PathStep → Setting → Except Abort Setting
  | [], _ => .ok v
  | [.entry name], s => .ok (putEntry name v s)
  | .entry name :: steps, s => do
    let child ← write v steps ((Table.lookup name s.entries).getD absent)
    return .table s.tableOrigin (Table.write name child s.entries)
  | .item index :: steps, s => do
    let place ← itemPlace s.items.length index
    let items := extended place s.items
    let item ← write v steps (items[place]?.getD absent)
    return .list s.listOrigin (items.set place item)

def assign (s : Setting) (key : String) (v : Setting) : Except Abort Setting :=
  let (name, steps) := PathStep.ofKey key
  write v (.entry name :: steps) s

def assignAll (s : Setting) : List (String × Setting) → Except Abort Setting
  | [] => .ok s
  | (key, v) :: rest => do assignAll (← s.assign key v) rest

end Setting

end CounterSampling
