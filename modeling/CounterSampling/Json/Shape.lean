/-!
# Shapes of data

A shape is the description of a type of data: what may stand in a text of that type. It determines
the type of its values, so a reader for shapes is a reader for all types that have one. Fields of a
record are either required or may be left out.
-/

namespace CounterSampling.Json

mutual

inductive Shape where
  /-- A whole number below `size`. -/
  | number (size : Nat)
  | float
  | flag
  | text
  /-- One of several names. -/
  | choice (names : List String)
  /-- `null`, or a value. -/
  | nullable (s : Shape)
  | sequence (s : Shape)
  | record (fs : Fields)

inductive Fields where
  | nil
  | required (name : String) (s : Shape) (rest : Fields)
  | optional (name : String) (s : Shape) (rest : Fields)

end

mutual

/-- The type of the values of a shape. -/
@[reducible] def Shape.Val : Shape → Type
  | .number size => Fin size
  | .float => Float
  | .flag => Bool
  | .text => String
  | .choice names => Fin names.length
  | .nullable s => Option s.Val
  | .sequence s => List s.Val
  | .record fs => fs.Val

/-- The values of all fields, in order. A field that may be left out has an optional value. -/
@[reducible] def Fields.Val : Fields → Type
  | .nil => Unit
  | .required _ s rest => s.Val × rest.Val
  | .optional _ s rest => Option s.Val × rest.Val

end

/-- The fields met so far while a record is read. -/
@[reducible] def Fields.Slots : Fields → Type
  | .nil => Unit
  | .required _ s rest => Option s.Val × rest.Slots
  | .optional _ s rest => Option s.Val × rest.Slots

/-- No field met. -/
def Fields.noSlots : (fs : Fields) → fs.Slots
  | .nil => ()
  | .required _ _ rest => (none, rest.noSlots)
  | .optional _ _ rest => (none, rest.noSlots)

/-- The record, if every required field was met. -/
def Fields.complete? : (fs : Fields) → fs.Slots → Option fs.Val
  | .nil, _ => some ()
  | .required _ _ rest, (v, slots) =>
    match v, rest.complete? slots with
    | some v, some vs => some (v, vs)
    | _, _ => none
  | .optional _ _ rest, (v, slots) => (rest.complete? slots).map fun vs => (v, vs)

/-- A type whose values are described by a shape. -/
structure Codec (α : Type) where
  shape : Shape
  encode : α → shape.Val
  decode : shape.Val → α

/-- Lists of described values. -/
def Codec.list {α : Type} (c : Codec α) : Codec (List α) where
  shape := .sequence c.shape
  encode xs := xs.map c.encode
  decode vs := vs.map c.decode

end CounterSampling.Json
