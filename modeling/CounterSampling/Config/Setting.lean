/-!
# Settings

A setting is a value that was read from a file or from the environment before it is known which type
it is wanted as. It remembers where it came from.
-/

namespace CounterSampling

inductive Scalar where
  | null
  | flag (b : Bool)
  | integer (n : Int)
  | number (x : Float)
  | text (s : String)

inductive Setting where
  | scalar (origin : Option String) (v : Scalar)
  | list (origin : Option String) (items : List Setting)
  | table (origin : Option String) (entries : List (String × Setting))

namespace Setting

/-- The setting of a place that nothing was written to. -/
def absent : Setting := .scalar none .null

instance : Inhabited Setting := ⟨absent⟩

/-- The table without entries. -/
def emptyTable : Setting := .table none []

/-- Where a setting came from. -/
def origin : Setting → Option String
  | .scalar o _ => o
  | .list o _ => o
  | .table o _ => o

/-- The entries of a table; none for anything else. -/
def entries : Setting → List (String × Setting)
  | .table _ es => es
  | _ => []

/-- The items of a list; none for anything else. -/
def items : Setting → List Setting
  | .list _ is => is
  | _ => []

end Setting

end CounterSampling
