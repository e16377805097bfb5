/-!
# Blank characters

The characters with the Unicode property `White_Space`, and what is done with them: trimming both
ends of a text and taking its first word. Texts are lists of characters.
-/

namespace CounterSampling.Text

/-- The ranges of code points that have the property `White_Space`. -/
def blankRanges : List (Nat × Nat) :=
  [(0x09, 0x0D), (0x20, 0x20), (0x85, 0x85), (0xA0, 0xA0), (0x1680, 0x1680), (0x2000, 0x200A),
    (0x2028, 0x2029), (0x202F, 0x202F), (0x205F, 0x205F), (0x3000, 0x3000)]

/-- Whether the code point of a character is in one of some ranges. -/
def inRanges (ranges : List (Nat × Nat)) (c : Char) : Bool :=
  ranges.any fun r => decide (r.1 ≤ c.toNat) && decide (c.toNat ≤ r.2)

/-- Whether a character is white space. -/
def isBlank (c : Char) : Bool :=
  inRanges blankRanges c

/-- The table holds 25 code points. -/
example : (blankRanges.map fun r => r.2 + 1 - r.1).sum = 25 := rfl

/-- The text without the blanks it starts with. -/
def trimLeft (cs : List Char) : List Char :=
  cs.dropWhile isBlank

/-- The text without the blanks it ends with. -/
def trimRight (cs : List Char) : List Char :=
  (cs.reverse.dropWhile isBlank).reverse

/-- The text without blanks at either end. -/
def trim (cs : List Char) : List Char :=
  trimRight (trimLeft cs)

/-- The first word: the longest run without blanks after the leading blanks. It is empty exactly
when the text is blank throughout. -/
def firstWord (cs : List Char) : List Char :=
  (trimLeft cs).takeWhile fun c => !isBlank c

end CounterSampling.Text
