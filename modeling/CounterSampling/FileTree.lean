import CounterSampling.Table

/-!
# Trees of files

A tree is a file with its bytes, a directory with named entries, or a device, which is neither and
keeps nothing of what is written to it. Places are lists of names, taken from the root of the tree.
-/

namespace CounterSampling

/-- What becomes of a text that is written to a device. -/
inductive DeviceKind where
  /-- It is taken and forgotten. -/
  | sink
  /-- There is no room for it. -/
  | full
  /-- It is printed. -/
  | printer
  /-- Nothing is connected that could take it. -/
  | unconnected
  deriving DecidableEq, Repr

inductive FileTree where
  | file (content : List UInt8)
  | directory (entries : List (String × FileTree))
  | device (kind : DeviceKind)

namespace FileTree

def empty : FileTree := .directory []

instance : Inhabited FileTree := ⟨empty⟩

/-- The entries of a directory; anything else has none. -/
def entries : FileTree → List (String × FileTree)
  | .directory es => es
  | _ => []

def find? : FileTree → List String → Option FileTree
  | t, [] => some t
  | t, name :: path =>
    match Table.lookup name t.entries with
    | some child => child.find? path
    | none => none

/-- The bytes of the file at a place. -/
def contentAt? (t : FileTree) (path : List String) : Option (List UInt8) :=
  match t.find? path with
  | some (.file content) => some content
  | _ => none

/-- Put something at a place, with all directories on the way to it. -/
def put (x : FileTree) : List String → FileTree → FileTree
  | [], _ => x
  | name :: path, t =>
    let child := (Table.lookup name t.entries).getD empty
    .directory (Table.write name (put x path child) t.entries)

/-- Put something at a place if nothing stands there. -/
def putIfAbsent (x : FileTree) (path : List String) (t : FileTree) : FileTree :=
  match t.find? path with
  | some _ => t
  | none => put x path t

/-- Write bytes at a place, with all directories on the way to it: a file gets new content, and
anything else that stands there stays. -/
def write (t : FileTree) (path : List String) (content : List UInt8) : FileTree :=
  match t.find? path with
  | some (.directory _) | some (.device _) => t
  | _ => put (.file content) path t

def remove (t : FileTree) (name : String) : FileTree :=
  .directory (t.entries.filter fun e => decide (e.1 ≠ name))

end FileTree

end CounterSampling
