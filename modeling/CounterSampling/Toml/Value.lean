import CounterSampling.Config.Description
import CounterSampling.Table
import CounterSampling.Toml.DateTime
import CounterSampling.Toml.Syntax

/-!
# Values of a TOML text

What a value as it is written stands for. In a table every key is written at most once. A table
whose first key is a certain mark is not a table but the date that is written under the mark.
-/

namespace CounterSampling.Toml

/-- Why values do not make a document, where, and the keys that lead there. -/
structure Conflict where
  cause : Cause
  place : Option Nat := none
  keys : List String := []
  deriving DecidableEq, Repr

namespace Conflict

/-- The conflict seen from a table that a key leads from. -/
def under (key : String) (c : Conflict) : Conflict :=
  { c with keys := key :: c.keys }

/-- The conflict seen from a table that is written as one value: the keys in it are not told, and
the place is that of the table if no other is known. -/
def within (place : Nat) (c : Conflict) : Conflict :=
  { c with place := some (c.place.getD place), keys := [] }

end Conflict

/-- Something done in the table that a key leads to. -/
def under {α : Type} (key : String) (r : Except Conflict α) : Except Conflict α :=
  r.mapError (Conflict.under key)

/-- What the pairs of a table come to. -/
inductive Content where
  | date (d : DateTime)
  | entries (es : List (String × Setting))

def Content.setting (origin : Option String) : Content → Setting
  | .date d => .scalar origin (.text d.text)
  | .entries es => .table origin es

/-- The key that marks a date. -/
def dateMark : String := "$__toml_private_datetime"

/-- Whether a key, after the entries `es`, marks a date. -/
def marksDate (es : List (String × Setting)) (key : String) : Bool :=
  es.isEmpty && key == dateMark

/-- A key has to be new to a table. -/
def checkNew (es : List (String × Setting)) (key : String) : Except Conflict Unit :=
  if (Table.lookup key es).isSome then .error { cause := .duplicateKey key } else .ok ()

/-- Read the text of a date that is written at a place. -/
def readDate (place : Nat) (text : List Char) : Except Conflict DateTime :=
  match DateTime.ofChars? text with
  | some d => .ok d
  | none => .error { cause := .unreadableDate, place := some place }

def Raw.date : Raw → Except Conflict DateTime
  | .scalar place (.text s) => readDate place s.toList
  | .scalar place v => .error { cause := .noDate v.plainDescription, place := some place }
  | .list _ _ => .error { cause := .noDate "sequence" }
  | v => .error { cause := .noDate "map", place := some v.place }

mutual

def Raw.setting (origin : Option String) : Raw → Except Conflict Setting
  | .scalar _ v => .ok (.scalar origin v)
  | .dateTime place text => (readDate place text).map fun d => (Content.date d).setting origin
  | .list _ items => (rawSettings origin items).map (.list origin)
  | .table place pairs =>
    ((pairs.content origin []).mapError (Conflict.within place)).map (Content.setting origin)
  | .dotted place pairs =>
    ((pairs.content origin []).mapError (Conflict.within place)).map (Content.setting origin)

def rawSettings (origin : Option String) : List Raw → Except Conflict (List Setting)
  | [] => .ok []
  | r :: rs => do
    let s ← r.setting origin
    return s :: (← rawSettings origin rs)

/-- What pairs come to, after the entries `es`. -/
def RawPairs.content (origin : Option String) (es : List (String × Setting)) :
    RawPairs → Except Conflict Content
  | .nil => .ok (.entries es)
  | .cons key value rest =>
    if marksDate es key then (under key value.date).map Content.date
    else do
      checkNew es key
      let s ← under key (value.setting origin)
      rest.content origin (es ++ [(key, s)])

end

end CounterSampling.Toml
