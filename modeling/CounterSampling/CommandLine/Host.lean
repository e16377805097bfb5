import CounterSampling.FileSystem

/-!
# Hosts of commands

What a command asks of the machine it runs on: environment variables, files, a name and the time, a
place to print to, and a place for notices, which are kept apart from what is printed. A host in
memory answers from a file system value and keeps what was printed and noticed.
-/

namespace CounterSampling.CommandLine

inductive NoticeKind where
  | success
  | failure
  | info
  | warning
  deriving DecidableEq, Repr

/-- The sign a notice starts with. -/
def NoticeKind.sign : NoticeKind → String
  | .success => "✓"
  | .failure => "✗"
  | .info => "ℹ"
  | .warning => "⚠"

/-- A line for the user about what is going on. -/
structure Notice where
  kind : NoticeKind
  text : String
  deriving DecidableEq, Repr

def Notice.line (n : Notice) : String :=
  n.kind.sign ++ " " ++ n.text

/-- What a command asks of the machine it runs on. -/
structure Host (m : Type → Type) where
  /-- The environment variables. -/
  environment : m (List (String × String))
  /-- The path of the current directory, from the root. -/
  directory : m String
  look : String → m FileEntry
  /-- Write a text to a file. -/
  write : String → String → m (Except WriteError Unit)
  print : String → m Unit
  notify : Notice → m Unit
  /-- The name of the host, if it has one. -/
  name : m (Option String)
  /-- The time, as it is written in reports. -/
  time : m String

/-- A host in memory. -/
structure MemoryHost where
  environment : List (String × String) := []
  files : FileSystem := {}
  name : Option String := none
  time : String
  notices : List Notice := []

namespace MemoryHost

/-- Write a text to a file. -/
def write (path text : String) : StateM MemoryHost (Except WriteError Unit) := fun h =>
  match h.files.write path text with
  | .ok files => (.ok (), { h with files })
  | .error e => (.error e, h)

/-- What was printed. -/
def printed (h : MemoryHost) : String :=
  h.files.printed

/-- What a host in memory answers. -/
def host : Host (StateM MemoryHost) where
  environment := do return (← get).environment
  directory := do return "/" ++ "/".intercalate (← get).files.current
  look path := do return (← get).files.entry path
  write := write
  print text := modify fun h => { h with files := h.files.print text }
  notify n := modify fun h => { h with notices := h.notices ++ [n] }
  name := do return (← get).name
  time := do return (← get).time

end MemoryHost

end CounterSampling.CommandLine
