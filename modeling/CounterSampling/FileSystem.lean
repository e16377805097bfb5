import CounterSampling.FileTree
import CounterSampling.Text.Utf8
import CounterSampling.Text.Words

/-!
# Files by path

A file system is a tree of files together with the directory that relative paths start from. A path
is followed name by name; `..` leads to the directory above, and an empty name or `.` stays where it
is. Every name has to be looked up in a directory.
-/

namespace CounterSampling

/-- Why a file cannot be used: the number of the condition, and how it is called. -/
structure FileError where
  code : Nat
  text : String
  deriving DecidableEq, Repr

namespace FileError

def message (e : FileError) : String :=
  e.text ++ " (os error " ++ toString e.code ++ ")"

def missing : FileError := ⟨2, "No such file or directory"⟩

def notDirectory : FileError := ⟨20, "Not a directory"⟩

def isDirectory : FileError := ⟨21, "Is a directory"⟩

def invalid : FileError := ⟨22, "Invalid argument"⟩

def noSpace : FileError := ⟨28, "No space left on device"⟩

def notConnected : FileError := ⟨6, "No such device or address"⟩

def nameTooLong : FileError := ⟨36, "File name too long"⟩

def readOnly : FileError := ⟨30, "Read-only file system"⟩

end FileError

/-- What stands at a path, as far as reading goes. -/
inductive FileEntry where
  | missing
  /-- A file with its bytes, or the reason why they cannot be read. -/
  | file (content : Except String (List UInt8))
  | other

/-- Why a text could not be written. -/
inductive WriteError where
  | opening (cause : FileError)
  | storing (cause : FileError)
  deriving DecidableEq, Repr

def WriteError.cause : WriteError → FileError
  | .opening cause => cause
  | .storing cause => cause

/-- What a path leads to for writing. -/
inductive WriteTarget where
  | file (place : List String)
  | device (kind : DeviceKind)
  deriving DecidableEq, Repr

structure FileSystem where
  root : FileTree := .empty
  /-- The directory that relative paths start from. -/
  current : List String := []
  /-- Directories below which no file can be made, and what is reported of an attempt. -/
  closed : List (List String × FileError) := []
  printed : String := ""

namespace FileSystem

/-- The longest name, in bytes. -/
def maxName : Nat := 255

/-- The longest path, in bytes. -/
def maxPath : Nat := 4095

/-- Whether a path can be followed at all. -/
def checkPath (path : String) : Except FileError Unit :=
  if path.isEmpty then .error .missing
  else if path.contains '\x00' then .error .invalid
  else if maxPath < path.utf8ByteSize then .error .nameTooLong
  else .ok ()

/-- Go on by one name. -/
def advance (root : FileTree) (place : List String) (name : String) :
    Except FileError (List String) :=
  match root.find? place with
  | none => .error .missing
  | some (.directory _) =>
    if name = "" ∨ name = "." then .ok place
    else if name = ".." then .ok place.dropLast
    else if maxName < name.utf8ByteSize then .error .nameTooLong
    else .ok (place ++ [name])
  | some _ => .error .notDirectory

def follow (root : FileTree) (place : List String) : List String → Except FileError (List String)
  | [] => .ok place
  | name :: names => do follow root (← advance root place name) names

/-- Where the names of a path start from. -/
def start (fs : FileSystem) (path : String) : List String :=
  if path.startsWith "/" then [] else fs.current

/-- The place that a path leads to; nothing has to stand there. -/
def locate (fs : FileSystem) (path : String) : Except FileError (List String) := do
  checkPath path
  follow fs.root (fs.start path) (Text.parts '/' path)

def entry (fs : FileSystem) (path : String) : FileEntry :=
  match fs.locate path with
  | .error _ => .missing
  | .ok place =>
    match fs.root.find? place with
    | none => .missing
    | some (.file content) => .file (.ok content)
    | some _ => .other

/-- The names of a path without the slashes that end it. -/
def namesToWrite (path : String) : List String :=
  ((Text.parts '/' path).reverse.dropWhile String.isEmpty).reverse

/-- The place that a path names for writing. A path that ends in a slash names a directory. -/
def locateToWrite (fs : FileSystem) (path : String) : Except FileError (List String) := do
  checkPath path
  let place ← follow fs.root (fs.start path) (namesToWrite path)
  if path.endsWith "/" then .error .isDirectory else .ok place

/-- What is reported of an attempt to make a file at a place, if none can be made there. -/
def refusal? (fs : FileSystem) (place : List String) : Option FileError :=
  (fs.closed.find? fun c => c.1.isPrefixOf place).map Prod.snd

/-- What a text that is written to a path goes to. The directory of a new file has to be there. -/
def target (fs : FileSystem) (path : String) : Except FileError WriteTarget := do
  let place ← fs.locateToWrite path
  match fs.root.find? place with
  | some (.directory _) => .error .isDirectory
  | some (.device .unconnected) => .error .notConnected
  | some (.device kind) => .ok (.device kind)
  | some (.file _) => .ok (.file place)
  | none =>
    match fs.refusal? place with
    | some e => .error e
    | none => .ok (.file place)

def print (fs : FileSystem) (text : String) : FileSystem :=
  { fs with printed := fs.printed ++ text }

/-- Write a text to what a path led to. -/
def writeTo (fs : FileSystem) (text : String) : WriteTarget → Except FileError FileSystem
  | .file place =>
    .ok { fs with root := .put (.file (Text.Utf8.encode text.toList)) place fs.root }
  | .device .full => if text.isEmpty then .ok fs else .error .noSpace
  | .device .printer => .ok (fs.print text)
  | .device _ => .ok fs

def write (fs : FileSystem) (path text : String) : Except WriteError FileSystem := do
  let target ← (fs.target path).mapError .opening
  (fs.writeTo text target).mapError .storing

end FileSystem

end CounterSampling
