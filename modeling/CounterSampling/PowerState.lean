import CounterSampling.Distinct
import CounterSampling.FileTree
import CounterSampling.Text.Blank
import CounterSampling.Text.Integer
import CounterSampling.Text.Utf8
import CounterSampling.Word

/-!
# Power states of cards

Gathering counters may change the power state of a card. The state is a knob: a file below the
directory of the card, whose first word says whether the state is enabled. A guard notes the states
of all cards before a run and writes them back afterwards. Cards without a readable knob are left
alone, and so are knobs that may not be written.
-/

namespace CounterSampling.PowerState

/-- The card a directory entry is named after. -/
def cardOf? (name : String) : Option Nat :=
  match name.toList with
  | 'c' :: 'a' :: 'r' :: 'd' :: number =>
    match Text.readUnsigned Word.maxHalf number with
    | .ok card => some card
    | .error _ => none
  | _ => none

/-- Where the knob of a card is, from the directory of all cards. -/
def knob (card : Nat) : List String :=
  ["card" ++ toString card, "device", "ptl", "ptl_enable"]

/-- The word of the enabled state. -/
def enabledWord : String := "enabled"

/-- The word of the other state. -/
def disabledWord : String := "disabled"

/-- Whether a knob with this content is enabled; nothing if the content is no text. -/
def isEnabled? (content : List UInt8) : Option Bool :=
  (Text.Utf8.decode? content).map fun cs => decide (Text.firstWord cs = enabledWord.toList)

/-- The state of a card, if its knob is a file that can be read. -/
def stateOf? (drm : FileTree) (card : Nat) : Option Bool :=
  match drm.contentAt? (knob card) with
  | some content => isEnabled? content
  | none => none

/-- The cards that entries are named after, in ascending order. -/
def cards (drm : FileTree) : List Nat :=
  distinct ((drm.entries.filterMap fun e => cardOf? e.1).mergeSort fun a b => decide (a ≤ b))

/-- The states of all cards that have one, by ascending number. -/
def states (drm : FileTree) : List (Nat × Bool) :=
  (cards drm).filterMap fun card => (stateOf? drm card).map fun on => (card, on)

/-- What is written for a state. -/
def line (on : Bool) : List UInt8 :=
  Text.Utf8.encode ((if on then enabledWord else disabledWord).toList ++ ['\n'])

/-- Write the state of a card, if its knob is a file that may be written. -/
def restoreCard (writable : List String → Bool) (drm : FileTree) (card : Nat) (on : Bool) :
    FileTree :=
  match drm.contentAt? (knob card) with
  | some _ => if writable (knob card) then FileTree.put (.file (line on)) (knob card) drm else drm
  | none => drm

/-- Write states back. -/
def restore (writable : List String → Bool) (drm : FileTree) (states : List (Nat × Bool)) :
    FileTree :=
  states.foldl (fun drm s => restoreCard writable drm s.1 s.2) drm

/-- What is left of a change that was made under a guard that may write these places. -/
def guardedWhere (writable : List String → Bool) (change : FileTree → FileTree) (drm : FileTree) :
    FileTree :=
  restore writable (change drm) (states drm)

/-- What is left of a change that was made under a guard that may write every file. -/
def guarded (change : FileTree → FileTree) (drm : FileTree) : FileTree :=
  guardedWhere (fun _ => true) change drm

end CounterSampling.PowerState
