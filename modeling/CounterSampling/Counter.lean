import CounterSampling.Word

/-!
# Counters and their records

A counter is a grid of instances, one axis per dimension. Reading it gives one record per instance,
so the number of records is the product of the dimension sizes, where a size of zero counts as one.
-/

namespace CounterSampling

/-- The number of a counter. -/
structure CounterId where
  val : UInt64
  deriving DecidableEq, Repr

/-- A counter number as it is shown: lower-case hexadecimal. -/
def CounterId.text (c : CounterId) : String :=
  "0x" ++ String.ofList (Nat.toDigits 16 c.val.toNat)

structure DimensionId where
  val : UInt64
  deriving DecidableEq, Repr

/-- One axis of a counter. -/
structure Dimension where
  id : DimensionId
  name : String
  /-- How many positions the axis has; zero stands for one. -/
  size : UInt64
  deriving DecidableEq, Repr

/-- The number of positions along a dimension, at least one. -/
def Dimension.extent (d : Dimension) : Nat :=
  Nat.max d.size.toNat 1

theorem Dimension.extent_pos (d : Dimension) : 0 < d.extent :=
  Nat.lt_of_lt_of_le Nat.zero_lt_one (Nat.le_max_right _ _)

structure Counter where
  id : CounterId
  name : String
  dimensions : List Dimension
  deriving DecidableEq, Repr

/-- Multiply `count` by the extents of the dimensions, giving up where a product leaves the word. -/
def recordCountFrom? (count : Nat) : List Dimension → Option Nat
  | [] => some count
  | d :: ds =>
    match Word.mul? count d.extent with
    | some n => recordCountFrom? n ds
    | none => none

/-- The number of records of a counter with these dimensions, where it fits a word. -/
def recordCount? (dims : List Dimension) : Option Nat :=
  recordCountFrom? 1 dims

/-- The number of records, cut off at the largest word. -/
def recordCount (dims : List Dimension) : Nat :=
  (recordCount? dims).getD Word.max

/-- The number of records of a counter, cut off at the largest word. -/
def Counter.recordCount (c : Counter) : Nat :=
  CounterSampling.recordCount c.dimensions

/-- One value read from one instance of a counter. -/
structure Record where
  /-- The place of the instance in the grid, the last dimension varying fastest. -/
  instanceIndex : UInt64
  counter : CounterId
  value : Float

/-- The record a read buffer is filled with before it is read into. -/
def Record.blank : Record :=
  ⟨0, ⟨0⟩, 0.0⟩

/-- The memory one record takes, in bytes. -/
def Record.bytes : Nat := 24

instance : Inhabited Record := ⟨Record.blank⟩

end CounterSampling
