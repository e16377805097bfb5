import CounterSampling.Config.Setting
import CounterSampling.Decimal.Numeral
import CounterSampling.Text.Escape

/-!
# What settings are called in messages

A setting that does not fit is called by its type and, if it is a scalar, by its value. There are
two ways to call a number: where a scalar of another type is wanted, integers are called by their
width; where no scalar would do, every double has a point.
-/

namespace CounterSampling

namespace Scalar

/-- What a scalar is called where another scalar is wanted. -/
def description : Scalar → String
  | .null => "unit value"
  | .flag b => "boolean `" ++ toString b ++ "`"
  | .integer n => "integer 64 bit `" ++ toString n ++ "`"
  | .number x => "floating point `" ++ Decimal.plainText x ++ "`"
  | .text s => "string " ++ Text.quoted s

/-- The digits of a double, with a point if it is finite. -/
def pointedText (x : Float) : String :=
  let t := Decimal.plainText x
  if x.isFinite && !t.toList.contains '.' then t ++ ".0" else t

/-- What a scalar is called where no scalar would do. -/
def plainDescription : Scalar → String
  | .integer n => "integer `" ++ toString n ++ "`"
  | .number x => "floating point `" ++ pointedText x ++ "`"
  | v => v.description

end Scalar

namespace Setting

/-- What a setting is called where a scalar is wanted. -/
def description : Setting → String
  | .scalar _ v => v.description
  | .list _ _ => "sequence"
  | .table _ _ => "map"

/-- What a setting is called where a list is wanted. -/
def plainDescription : Setting → String
  | .scalar _ v => v.plainDescription
  | s => s.description

end Setting

end CounterSampling
