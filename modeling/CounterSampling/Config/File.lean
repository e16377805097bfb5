import CounterSampling.FileSystem
import CounterSampling.Text.Utf8
import CounterSampling.Text.Words

/-!
# Configuration files

The path of a configuration file stands for the file there, which is opened by its path from the
root. If something else stands there, such as a directory, the ending of configuration files is
added to the path. In messages a file is named by its path from the current directory.
-/

namespace CounterSampling

/-- What there is at the path of a configuration file. -/
inductive FileState where
  | missing
  /-- The file cannot be read, for a reason. -/
  | unreadable (reason : String)
  /-- The file has a text, which comes from a place that is named `origin`. -/
  | text (origin : String) (content : String)

namespace ConfigFile

/-- The ending of configuration files. -/
def ending : String := ".toml"

/-- The path from the root, for a path from a directory. -/
def absolute (directory path : String) : String :=
  if path.startsWith "/" then path else directory ++ "/" ++ path

/-- The names of a path from the root that lead somewhere. -/
def names (path : String) : List String :=
  (Text.parts '/' path).filter fun n => n ≠ "" && n ≠ "."

/-- The path with the ending added to its last name; nothing if that leads upwards. -/
def ended? (path : String) : Option String :=
  match (names path).reverse with
  | [] | ".." :: _ => none
  | last :: before => some ("/" ++ "/".intercalate ((last ++ ending) :: before).reverse)

/-- The way from one place to another, both given from the root. -/
def way : List String → List String → List String
  | b :: base, n :: path =>
    if b = n then way base path else (b :: base).map (fun _ => "..") ++ n :: path
  | base, path => base.map (fun _ => "..") ++ path

/-- How a file is named in messages. -/
def origin (directory path : String) : String :=
  "/".intercalate (way (names directory) (names path))

/-- What a file that was read holds. -/
def stateOf (directory path : String) : Except String (List UInt8) → FileState
  | .error reason => .unreadable reason
  | .ok content =>
    match Text.Utf8.decode? content with
    | some cs => .text (origin directory path) (String.ofList cs)
    | none => .unreadable "stream did not contain valid UTF-8"

variable {m : Type → Type} [Monad m]

/-- Find the configuration file of a path from the directory `directory`, by looking at paths. -/
def find (look : String → m FileEntry) (directory path : String) : m FileState := do
  let full := absolute directory path
  let absent : FileState := .unreadable ("configuration file \"" ++ path ++ "\" not found")
  match ← look path with
  | .missing => return .missing
  | _ =>
    match ← look full with
    | .file content => return stateOf directory full content
    | _ =>
      match ended? full with
      | none => return absent
      | some candidate =>
        match ← look candidate with
        | .file content => return stateOf directory candidate content
        | _ => return absent

end ConfigFile

end CounterSampling
