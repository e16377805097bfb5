/-!
# Characters from bytes

UTF-8 as a machine that takes one byte at a time. The first byte of a character decides how many
bytes are owed and within which bounds. A byte out of bounds ends the character as ill-formed and is
taken as a first byte itself, so each ill-formed part is as long as the bytes that could still have
become a character.
-/

namespace CounterSampling.Text.Utf8

/-- The least and the greatest byte that may come next. -/
structure Bounds where
  low : UInt8
  high : UInt8

/-- The bounds of a byte that follows a first byte, unless the first byte narrows them. -/
def tail : Bounds := ⟨0x80, 0xBF⟩

/-- A character under way: the value of its bits so far and the bytes that are owed. -/
structure Partial where
  value : Nat
  owed : List Bounds

/-- What a first byte starts. -/
def start? (b : UInt8) : Option Partial :=
  if b ≤ 0x7F then some ⟨b.toNat, []⟩
  else if b < 0xC2 then none
  else if b ≤ 0xDF then some ⟨b.toNat - 0xC0, [tail]⟩
  else if b = 0xE0 then some ⟨0, [⟨0xA0, 0xBF⟩, tail]⟩
  else if b = 0xED then some ⟨0xD, [⟨0x80, 0x9F⟩, tail]⟩
  else if b ≤ 0xEF then some ⟨b.toNat - 0xE0, [tail, tail]⟩
  else if b = 0xF0 then some ⟨0, [⟨0x90, 0xBF⟩, tail, tail]⟩
  else if b ≤ 0xF3 then some ⟨b.toNat - 0xF0, [tail, tail, tail]⟩
  else if b = 0xF4 then some ⟨4, [⟨0x80, 0x8F⟩, tail, tail]⟩
  else none

/-- The character under way and the parts that are finished, `none` standing for an ill-formed
part. -/
abbrev Step : Type := Option Partial × List (Option Char)

/-- Finish a character nothing is owed to. -/
def settle (p : Partial) : Step :=
  match p.owed with
  | [] => (none, [some (Char.ofNat p.value)])
  | _ => (some p, [])

/-- Take a first byte. -/
def first (b : UInt8) : Step :=
  match start? b with
  | some p => settle p
  | none => (none, [none])

/-- Take a byte. -/
def step : Option Partial → UInt8 → Step
  | none, b => first b
  | some p, b =>
    match p.owed with
    | [] => first b
    | next :: later =>
      if next.low ≤ b ∧ b ≤ next.high then settle ⟨p.value * 64 + (b.toNat - 0x80), later⟩
      else
        let (p, parts) := first b
        (p, none :: parts)

/-- The parts of bytes, after a character under way. -/
def partsFrom : Option Partial → List UInt8 → List (Option Char)
  | none, [] => []
  | some _, [] => [none]
  | p, b :: bs =>
    let (p, parts) := step p b
    parts ++ partsFrom p bs

/-- The text of bytes, if all of them are well-formed. -/
def decode? (bs : List UInt8) : Option (List Char) :=
  (partsFrom none bs).mapM id

/-- The text of bytes, with a replacement character for every ill-formed part. -/
def decodeAll (bs : List UInt8) : List Char :=
  (partsFrom none bs).map fun c => c.getD '\ufffd'

/-- The bytes of a text. -/
def encode (cs : List Char) : List UInt8 :=
  cs.flatMap String.utf8EncodeChar

example : decode? (encode ['a', 'é', '€', '😀']) = some ['a', 'é', '€', '😀'] := by decide +kernel
example : decode? [0x61, 0xFF] = none := by decide +kernel
example : decodeAll [0xE2, 0x82, 0x41, 0xC0, 0x80] = ['\ufffd', 'A', '\ufffd', '\ufffd'] := by
  decide +kernel

end CounterSampling.Text.Utf8
