import CounterSampling.Config.Setting
import CounterSampling.Decimal.Nearest
import CounterSampling.Table
import CounterSampling.Text.Integer
import CounterSampling.Text.LetterCase
import CounterSampling.Text.Words
import CounterSampling.Word

/-!
# Settings from environment variables

A variable whose name starts in the right way gives a setting under the rest of its name; the case
of names does not matter. The text of a variable is taken as a flag, an integer or a number where it
reads as one. The text of a list is cut at its commas.
-/

namespace CounterSampling.Environment

/-- How the names of variables that give settings start. -/
def nameStart : String := "rocpctl_"

/-- The key of the setting that is a list. -/
def listKey : String := "counters"

/-- Where these settings come from. -/
def origin : String := "the environment"

/-- The key of a variable's setting, if it gives one. -/
def keyOf? (name : String) : Option String :=
  (Text.after? nameStart.toList (Text.lower name).toList).map String.ofList

/-- A text as a flag, an integer or a number. -/
def scalar? (value : String) : Option Scalar :=
  match Text.lower value with
  | "true" => some (.flag true)
  | "false" => some (.flag false)
  | _ =>
    match Text.readSigned Word.maxSigned value.toList with
    | .ok n => some (.integer n)
    | .error _ => (Decimal.ofChars? value.toList).map .number

/-- The setting of a variable. -/
def settingOf (key value : String) : Setting :=
  match scalar? value with
  | some v => .scalar (some origin) v
  | none =>
    if key = listKey then
      .list (some origin) ((Text.parts ',' value).map fun s => .scalar (some origin) (.text s))
    else .scalar (some origin) (.text value)

/-- The settings of variables. Of two variables with one key the later counts. -/
def settings (environment : List (String × String)) : List (String × Setting) :=
  environment.foldl
    (fun es v =>
      match keyOf? v.1 with
      | some key => Table.write key (settingOf key v.2) es
      | none => es)
    []

end CounterSampling.Environment
