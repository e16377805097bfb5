/-!
# Parts of a text

Cutting a text at a separator or after a given start.
-/

namespace CounterSampling.Text

/-- The parts of a text between separators; there is one more than there are separators. -/
def splitAt (separator : Char) : List Char → List (List Char)
  | [] => [[]]
  | c :: cs =>
    if c = separator then [] :: splitAt separator cs
    else
      match splitAt separator cs with
      | part :: parts => (c :: part) :: parts
      | [] => [[c]]

/-- The parts of a text between separators. -/
def parts (separator : Char) (s : String) : List String :=
  (splitAt separator s.toList).map String.ofList

/-- What follows a given start of a text. -/
def after? : List Char → List Char → Option (List Char)
  | [], cs => some cs
  | _ :: _, [] => none
  | a :: as, c :: cs => if a = c then after? as cs else none

end CounterSampling.Text
