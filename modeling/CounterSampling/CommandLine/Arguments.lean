import CounterSampling.Table
import CounterSampling.Text.Integer
import CounterSampling.Text.Words
import CounterSampling.Word

/-!
# Reading command lines

A command line mixes options with operands. An option has a long name, written after two dashes, and
may have a letter, written after one; letters can share a dash. The value of an option stands after
an equals sign, directly after its letter, or as the next argument, which then must not look like an
option. After an argument that consists of two dashes everything is an operand.

Arguments are read from left to right and the first thing wrong ends the reading. An option is given
at most once. One that is not given may be set by an environment variable.
-/

namespace CounterSampling.CommandLine

inductive ValueKind where
  /-- Nothing: the option is given or not. -/
  | none
  | text
  /-- A path, which is not empty. -/
  | path
  /-- An unsigned number of at most `limit`. -/
  | number (limit : Nat)
  /-- A signed number that is between zero and `limit`. -/
  | count (limit : Nat)
  | word (words : List String)

/-- The number that a text stands for, where a number is wanted. -/
def ValueKind.number? : ValueKind → String → Option Nat
  | .number limit, value => (Text.readUnsigned limit value.toList).toOption
  | .count limit, value =>
    match Text.readSigned Word.maxSigned value.toList with
    | .ok n => if 0 ≤ n ∧ n ≤ (limit : Int) then some n.toNat else Option.none
    | .error _ => Option.none
  | _, _ => Option.none

/-- Whether a value can be given. A variable sets an option without value by a truth word. -/
def ValueKind.accepts (k : ValueKind) (value : String) : Bool :=
  match k with
  | .none => value == "true" || value == "false"
  | .text => true
  | .path => !value.isEmpty
  | .number _ | .count _ => (k.number? value).isSome
  | .word words => words.contains value

structure OptionForm where
  name : String
  letter : Option Char := none
  kind : ValueKind := .none
  /-- The environment variable that sets the option where it is not given. -/
  fallback : Option String := none

def OptionForm.takesValue (f : OptionForm) : Bool :=
  match f.kind with
  | .none => false
  | _ => true

inductive Argument where
  | flag (form : OptionForm)
  | option (form : OptionForm) (value : String)
  | operand (text : String)
  | wrong

namespace Argument

/-- Whether an argument is read as an option. -/
def looksLikeOption (s : String) : Bool :=
  s.startsWith "-" && s != "-"

/-- An option whose value is the next argument, and the arguments after it. -/
def withNext (form : OptionForm) : List String → Argument × List String
  | value :: rest => if looksLikeOption value then (.wrong, rest) else (.option form value, rest)
  | [] => (.wrong, [])

/-- What an argument after two dashes gives, and the arguments after it. -/
def readLong (forms : List OptionForm) (cs : List Char) (rest : List String) :
    Argument × List String :=
  let name := String.ofList (cs.takeWhile (· != '='))
  let value := match cs.dropWhile (· != '=') with
    | _ :: value => some (String.ofList value)
    | [] => none
  match forms.find? fun f => f.name == name, value with
  | none, _ => (.wrong, rest)
  | some f, some value => (if f.takesValue then .option f value else .wrong, rest)
  | some f, none => if f.takesValue then withNext f rest else (.flag f, rest)

/-- The value that stands directly after a letter; it may start with an equals sign. -/
def attachedValue : List Char → String
  | '=' :: cs => String.ofList cs
  | cs => String.ofList cs

/-- What letters after one dash give, and the arguments after them. -/
def readLetters (forms : List OptionForm) : List Char → List String → List Argument × List String
  | [], rest => ([], rest)
  | c :: cs, rest =>
    match forms.find? fun f => f.letter == some c with
    | none => ([.wrong], rest)
    | some f =>
      if f.takesValue then
        if cs.isEmpty then
          let (a, rest) := withNext f rest
          ([a], rest)
        else ([.option f (attachedValue cs)], rest)
      else
        let (as, rest) := readLetters forms cs rest
        (.flag f :: as, rest)

/-- What the first of some arguments gives, and the arguments after it. -/
def readFirst (forms : List OptionForm) (s : String) (rest : List String) :
    List Argument × List String :=
  match s.toList with
  | ['-', '-'] => (rest.map .operand, [])
  | '-' :: '-' :: cs =>
    let (a, rest) := readLong forms cs rest
    ([a], rest)
  | '-' :: c :: cs => readLetters forms (c :: cs) rest
  | _ => ([.operand s], rest)

theorem withNext_length (form : OptionForm) (rest : List String) :
    (withNext form rest).2.length ≤ rest.length := by
  unfold withNext
  split
  · split <;> simp
  · simp

theorem readLetters_length (forms : List OptionForm) (cs : List Char) (rest : List String) :
    (readLetters forms cs rest).2.length ≤ rest.length := by
  induction cs with
  | nil => simp [readLetters]
  | cons c cs ih =>
    unfold readLetters
    split
    · simp
    · split
      · split
        · exact withNext_length _ _
        · simp
      · exact ih

theorem readLong_length (forms : List OptionForm) (cs : List Char) (rest : List String) :
    (readLong forms cs rest).2.length ≤ rest.length := by
  unfold readLong
  dsimp only
  split
  · simp
  · simp
  · split
    · exact withNext_length _ _
    · simp

theorem readFirst_length (forms : List OptionForm) (s : String) (rest : List String) :
    (readFirst forms s rest).2.length ≤ rest.length := by
  unfold readFirst
  split
  · simp
  · exact readLong_length _ _ _
  · exact readLetters_length _ _ _
  · simp

/-- Everything on a command line. -/
def readAll (forms : List OptionForm) : List String → List Argument
  | [] => []
  | s :: rest =>
    let r := readFirst forms s rest
    r.1 ++ readAll forms r.2
termination_by args => args.length
decreasing_by
  have := readFirst_length forms s rest
  simp only [List.length_cons]
  omega

end Argument

/-- What was given on a command line: values by option, in order, and operands. -/
structure Given where
  values : List (String × String) := []
  operands : List String := []

namespace Given

inductive Stop where
  | help
  | version
  | usage
  deriving DecidableEq, Repr

def helpForm : OptionForm := { name := "help", letter := some 'h' }

def versionForm : OptionForm := { name := "version", letter := some 'V' }

/-- The text of a value of an option that has none. -/
def present : String := "true"

def has (g : Given) (name : String) : Bool :=
  (Table.lookup name g.values).isSome

def note (g : Given) (form : OptionForm) (value : String) : Except Stop Given :=
  if g.has form.name || !form.kind.accepts value then .error .usage
  else .ok { g with values := g.values ++ [(form.name, value)] }

/-- Note what was met; `operands` says whether there may be operands. -/
def add (operands : Bool) (g : Given) : Argument → Except Stop Given
  | .flag form =>
    if form.name == helpForm.name then .error .help
    else if form.name == versionForm.name then .error .version
    else g.note form present
  | .option form value => g.note form value
  | .operand text =>
    if operands then .ok { g with operands := g.operands ++ [text] } else .error .usage
  | .wrong => .error .usage

/-- Set options that were not given from environment variables. -/
def setFromEnvironment (environment : List (String × String)) (g : Given) :
    List OptionForm → Except Stop Given
  | [] => .ok g
  | form :: forms => do
    let value := form.fallback.bind fun name => Table.lookup name environment
    let g ← match value with
      | some value => if g.has form.name then .ok g else g.note form value
      | none => .ok g
    setFromEnvironment environment g forms

def addAll (operands : Bool) (g : Given) : List Argument → Except Stop Given
  | [] => .ok g
  | a :: as => do addAll operands (← g.add operands a) as

/-- Read arguments; `operands` says whether there may be operands. -/
def read (forms : List OptionForm) (operands : Bool) (args : List String) : Except Stop Given :=
  addAll operands {} (Argument.readAll forms args)

def value? (g : Given) (name : String) : Option String :=
  Table.lookup name g.values

def flag (g : Given) (name : String) : Bool :=
  g.value? name == some present

def number? (g : Given) (form : OptionForm) : Option Nat :=
  (g.value? form.name).bind form.kind.number?

end Given

end CounterSampling.CommandLine
