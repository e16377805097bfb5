import CounterSampling.Calendar
import CounterSampling.CommandLine.Ending
import CounterSampling.Text.Utf8
import CounterSampling.Text.Words

/-!
# The program

The machine that the program runs on, as a host of commands, and the command line itself.
-/

namespace CounterSampling

open CommandLine

/-- The condition that an input or output error reports. -/
def FileError.ofIO : IO.Error → FileError
  | .alreadyExists _ code text | .invalidArgument _ code text | .permissionDenied _ code text
  | .resourceExhausted _ code text | .inappropriateType _ code text | .noSuchThing _ code text
  | .interrupted _ code text | .noFileOrDirectory _ code text => ⟨code.toNat, text⟩
  | .otherError code text | .resourceBusy code text | .resourceVanished code text
  | .unsupportedOperation code text | .hardwareFault code text | .unsatisfiedConstraints code text
  | .illegalOperation code text | .protocolError code text | .timeExpired code text =>
    ⟨code.toNat, text⟩
  | .unexpectedEof => ⟨0, "end of file"⟩
  | .userError text => ⟨0, text⟩

def readBytes (path : String) : IO ByteArray :=
  IO.FS.withFile path .read fun h => h.readBinToEnd

/-- The text of a file; empty if there is none that can be read. -/
def readText (path : String) : IO String := do
  match ← (readBytes path).toBaseIO with
  | .ok bytes => return String.ofList (Text.Utf8.decodeAll bytes.toList)
  | .error _ => return ""

/-- A line of an environment listing as a name and a value. -/
def variableOf? (line : String) : Option (String × String) :=
  match line.toList.span (· != '=') with
  | (name, _ :: value) => some (String.ofList name, String.ofList value)
  | _ => none

def readEnvironment : IO (List (String × String)) := do
  return (Text.parts '\x00' (← readText "/proc/self/environ")).filterMap variableOf?

def deviceDirectory : String := "/dev/"

/-- What stands at a path. Devices are not read, as some can be read without end. -/
def lookAt (path : String) : IO FileEntry := do
  match ← (IO.FS.realPath path).toBaseIO with
  | .error _ => return .missing
  | .ok real =>
    if (toString real).startsWith deviceDirectory then return .other
    match ← (readBytes path).toBaseIO with
    | .ok bytes => return .file (.ok bytes.toList)
    | .error e =>
      let e := FileError.ofIO e
      return if e.code = FileError.isDirectory.code then .other else .file (.error e.message)

def writeFile (path text : String) : IO (Except WriteError Unit) := do
  match ← (IO.FS.Handle.mk path .write).toBaseIO with
  | .error e => return .error (.opening (.ofIO e))
  | .ok file =>
    match ← (do file.putStr text; file.flush : IO Unit).toBaseIO with
    | .ok _ => return .ok ()
    | .error e => return .error (.storing (.ofIO e))

/-- The number that follows a word at the start of a line; zero if there is none. -/
def numberAfter (word text : String) : Nat :=
  let found := (Text.parts '\n' text).findSome? fun line => Text.after? word.toList line.toList
  (String.ofList ((found.getD []).takeWhile Char.isDigit)).toNat?.getD 0

/-- The seconds since the start of 1970: when the machine was started, and for how long it runs. -/
def secondsNow : IO Nat := do
  return numberAfter "btime " (← readText "/proc/stat") + numberAfter "" (← readText "/proc/uptime")

def hostName : IO (Option String) := do
  let name := (Text.parts '\n' (← readText "/proc/sys/kernel/hostname")).headD ""
  return if name.isEmpty then none else some name

/-- The machine as a host of commands. -/
def machine : Host IO where
  environment := readEnvironment
  directory := do return toString (← IO.currentDir)
  look := lookAt
  write := writeFile
  print text := do (← IO.getStdout).putStr text
  notify n := IO.eprintln n.line
  name := hostName
  time := do return timeText (← secondsNow)

/-- Tell what is left to tell at the end. -/
def report (e : Ending) : IO Unit := do
  match e with
  | .help => IO.println usageText
  | .usage => IO.eprintln usageText
  | .failed e => IO.eprintln ("Error: " ++ e.text)
  | .done => return ()

end CounterSampling

def main (args : List String) : IO UInt32 := do
  let ending ← CounterSampling.CommandLine.run CounterSampling.machine args
  CounterSampling.report ending
  return ending.exitCode
