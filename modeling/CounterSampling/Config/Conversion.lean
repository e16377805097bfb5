import CounterSampling.Config.Description
import CounterSampling.Decimal.Numeral
import CounterSampling.Text.Integer
import CounterSampling.Text.LetterCase
import CounterSampling.Word

/-!
# Settings as typed values

A setting is converted to the type that is wanted: numbers are rounded, texts are read, and what is
wanted as a text is written as one. Lists and tables are never scalars.
-/

namespace CounterSampling

/-- Why a setting cannot be had as the wanted type. -/
inductive Mismatch where
  /-- Some scalar is wanted of the setting under a key, as far as the key is known. -/
  | scalar (found expected : String) (origin : Option String) (key : String)
  /-- A list is wanted; which setting it is about is not told. -/
  | list (found : String)
  deriving DecidableEq, Repr

namespace Mismatch

/-- The mismatch seen from the table that the setting is in. -/
def under (name : String) : Mismatch → Mismatch
  | .scalar found expected origin key =>
    .scalar found expected origin
      (if key.isEmpty || key.toList.head? == some '[' then name ++ key else name ++ "." ++ key)
  | m => m

/-- The mismatch seen from the list that the setting is in. -/
def atItem (index : Nat) : Mismatch → Mismatch
  | .scalar found expected origin key =>
    .scalar found expected origin ("[" ++ toString index ++ "]" ++ key)
  | m => m

def message : Mismatch → String
  | .scalar found expected origin key =>
    "invalid type: " ++ found ++ ", expected " ++ expected ++
      (if key.isEmpty then "" else " for key `" ++ key ++ "`") ++
      (match origin with
        | some o => " in " ++ o
        | none => "")
  | .list found => "invalid type: " ++ found ++ ", expected a sequence"

end Mismatch

namespace Setting

/-- The mismatch of a setting where some scalar is wanted. -/
def mismatch (s : Setting) (expected : String) : Mismatch :=
  .scalar s.description expected s.origin ""

def isYes (s : String) : Bool := s == "true" || s == "on" || s == "yes"

def isNo (s : String) : Bool := s == "false" || s == "off" || s == "no"

/-- A setting as a flag. Every number but zero is true. -/
def asFlag (s : Setting) : Except Mismatch Bool :=
  match s with
  | .scalar _ (.flag b) => .ok b
  | .scalar _ (.integer n) => .ok (n != 0)
  | .scalar _ (.number x) => .ok (Decimal.Binary64.ofFloat x).isNonzero
  | .scalar o (.text t) =>
    let word := Text.lower t
    if isYes word || word == "1" then .ok true
    else if isNo word || word == "0" then .ok false
    else .error ((Setting.scalar o (.text word)).mismatch "a boolean")
  | s => .error (s.mismatch "a boolean")

/-- A setting as a word. Numbers are rounded and cut off; an integer below zero is refused. -/
def asWord (s : Setting) : Except Mismatch UInt64 :=
  match s with
  | .scalar _ (.flag b) => .ok (if b then 1 else 0)
  | .scalar _ (.integer n) =>
    if 0 ≤ n then .ok (.ofNat n.toNat)
    else .error (s.mismatch "an unsigned 64 bit or less integer")
  | .scalar _ (.number x) => .ok (.ofNat ((Decimal.Binary64.ofFloat x).clamped Word.max))
  | .scalar _ (.text t) =>
    let word := Text.lower t
    if isYes word then .ok 1
    else if isNo word then .ok 0
    else
      match Text.readUnsigned Word.max t.toList with
      | .ok n => .ok (.ofNat n)
      | .error _ => .error (s.mismatch "an integer")
  | s => .error (s.mismatch "an integer")

/-- A setting as half a word: the lower half of the word it is. -/
def asHalfWord (s : Setting) : Except Mismatch UInt32 :=
  s.asWord.map UInt64.toUInt32

def asText (s : Setting) : Except Mismatch String :=
  match s with
  | .scalar _ (.flag b) => .ok (toString b)
  | .scalar _ (.integer n) => .ok (toString n)
  | .scalar _ (.number x) => .ok (Decimal.plainText x)
  | .scalar _ (.text t) => .ok t
  | s => .error (s.mismatch "a string")

/-- The items of a list as texts, the first of them at `index`. -/
def textsFrom (index : Nat) : List Setting → Except Mismatch (List String)
  | [] => .ok []
  | s :: ss => do
    let t ← s.asText.mapError (Mismatch.atItem index)
    return t :: (← textsFrom (index + 1) ss)

def asTexts (s : Setting) : Except Mismatch (List String) :=
  match s with
  | .list _ items => textsFrom 0 items
  | s => .error (.list s.plainDescription)

end Setting

end CounterSampling
