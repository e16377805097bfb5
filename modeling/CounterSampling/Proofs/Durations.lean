import CounterSampling.Duration
import CounterSampling.Proofs.Digits
import Mathlib.Data.List.Basic
import Mathlib.Data.List.TakeWhile

/-!
# Texts of durations

`Duration.Spelled` is the form that the text of a duration has: blanks, a number, blanks, a unit or
none, blanks. A text is read exactly if it has this form and its number is a word, and then as that
many units; a blank text is refused as blank, and every other text for its number. Main statement:
`ofString?_reads`.
-/

namespace CounterSampling

namespace Text

/-! ## Trimming -/

/-- A text without any other characters than blanks. -/
def Blank (cs : List Char) : Prop :=
  ∀ c ∈ cs, isBlank c = true

variable {before body after : List Char}

theorem Blank.append (h : Blank before) (h' : Blank after) : Blank (before ++ after) := by
  intro c mem
  rcases List.mem_append.1 mem with mem | mem
  · exact h c mem
  · exact h' c mem

theorem isBlank_of_isDigit {c : Char} (digit : c.isDigit = true) : isBlank c = false := by
  have range : 48 ≤ c.toNat ∧ c.toNat ≤ 57 := by
    simpa [Char.isDigit, UInt32.le_iff_toNat_le] using digit
  simp [isBlank, inRanges, blankRanges]
  omega

theorem trimLeft_append (blank : Blank before) (cs : List Char) :
    trimLeft (before ++ cs) = trimLeft cs :=
  List.dropWhile_append_of_pos blank

theorem trimRight_append (blank : Blank after) (cs : List Char) :
    trimRight (cs ++ after) = trimRight cs := by
  have blank' : Blank after.reverse := by
    intro c mem
    exact blank c (List.mem_reverse.1 mem)
  simp only [trimRight, List.reverse_append]
  exact congrArg List.reverse (trimLeft_append blank' cs.reverse)

/-- Nothing is taken off a text that does not start with a blank. -/
theorem trimLeft_of_head (first : ∀ c ∈ body.head?, isBlank c = false) : trimLeft body = body := by
  cases body with
  | nil => rfl
  | cons c cs => simp [trimLeft, first c rfl]

theorem trimRight_of_last (last : ∀ c ∈ body.getLast?, isBlank c = false) :
    trimRight body = body := by
  have same : trimLeft body.reverse = body.reverse := by
    apply trimLeft_of_head
    rwa [List.head?_reverse]
  exact (congrArg List.reverse same).trans body.reverse_reverse

/-- Trimming takes off the blanks around what neither starts nor ends with one. -/
theorem trim_append (blank : Blank before) (blank' : Blank after)
    (first : ∀ c ∈ body.head?, isBlank c = false) (last : ∀ c ∈ body.getLast?, isBlank c = false) :
    trim (before ++ body ++ after) = body := by
  cases body with
  | nil =>
    have all : Blank (before ++ [] ++ after) := by
      rw [List.append_nil]
      exact blank.append blank'
    rw [trim, trimLeft, List.dropWhile_eq_nil_iff.2 all]
    rfl
  | cons c cs =>
    have start : trimLeft (c :: cs ++ after) = c :: cs ++ after := trimLeft_of_head first
    rw [trim, List.append_assoc, trimLeft_append blank, start, trimRight_append blank']
    exact trimRight_of_last last

/-- What trimming takes off are blanks. -/
theorem trim_split (cs : List Char) :
    ∃ before after, Blank before ∧ Blank after ∧ cs = before ++ trim cs ++ after := by
  have split (cs : List Char) : ∃ before, Blank before ∧ cs = before ++ trimLeft cs :=
    ⟨cs.takeWhile isBlank, fun _ => List.mem_takeWhile_imp, List.takeWhile_append_dropWhile.symm⟩
  obtain ⟨before, blank, left⟩ := split cs
  obtain ⟨after, blank', right⟩ := split (trimLeft cs).reverse
  refine ⟨before, after.reverse, blank, fun c mem => blank' c (List.mem_reverse.1 mem), ?_⟩
  have whole := congrArg List.reverse right
  rw [List.reverse_reverse, List.reverse_append] at whole
  rw [List.append_assoc]
  exact left.trans (congrArg (before ++ ·) whole)

theorem trim_eq_nil_iff {cs : List Char} : trim cs = [] ↔ Blank cs := by
  constructor
  · intro none
    obtain ⟨before, after, blank, blank', split⟩ := trim_split cs
    rw [none, List.append_nil] at split
    rw [split]
    exact blank.append blank'
  · intro blank
    have none : trim (cs ++ [] ++ []) = [] := trim_append blank nofun nofun nofun
    rwa [List.append_nil, List.append_nil] at none

/-- A number starts with its sign or a digit. -/
theorem Numeral.head {cs : List Char} {n : Nat} (h : Numeral cs n) :
    ∀ c ∈ cs.head?, isBlank c = false := by
  obtain ⟨sign, digits, rfl, rfl | rfl, -, digit, -⟩ := h
  · intro c first
    exact isBlank_of_isDigit (digit c (List.mem_of_head? first))
  · rintro c ⟨⟩
    rfl

/-- A number ends with a digit. -/
theorem Numeral.last {cs : List Char} {n : Nat} (h : Numeral cs n) :
    ∀ c ∈ cs.getLast?, c.isDigit = true := by
  obtain ⟨sign, digits, rfl, -, some, digit, -⟩ := h
  intro c last
  rw [List.getLast?_append_of_ne_nil _ some] at last
  exact digit c (List.mem_of_getLast? last)

theorem Numeral.ne_nil {cs : List Char} {n : Nat} (h : Numeral cs n) : cs ≠ [] := by
  obtain ⟨sign, digits, rfl, -, some, -, -⟩ := h
  simp [some]

end Text

namespace Duration

open Text

/-! ## Units -/

/-- How a unit is written; that none is named takes no letters. -/
def unitLetters : Option TimeUnit → List Char
  | none => []
  | some .micro => ['u', 's']
  | some .milli => ['m', 's']
  | some .second => ['s']
  | some .minute => ['m']

/-- The nanoseconds of one unit; a number without a unit counts microseconds. -/
def unitNanos : Option TimeUnit → Nat
  | none => 1000
  | some .micro => 1000
  | some .milli => 1000000
  | some .second => 1000000000
  | some .minute => 60 * 1000000000

variable {cs : List Char} {n : Nat} {unit : Option TimeUnit}

/-- What is taken off the end of a text are the letters of a unit. -/
theorem splitUnit_split (cs : List Char) :
    ∃ unit, cs = (splitUnit cs).1 ++ unitLetters unit ∧ (splitUnit cs).2 = unit.getD .micro := by
  have turned (letters : List Char) {r : List Char} (reversed : cs.reverse = letters ++ r) :
      cs = r.reverse ++ letters.reverse := by
    rw [← List.reverse_append, ← reversed, List.reverse_reverse]
  unfold splitUnit
  split
  next r reversed => exact ⟨some .micro, turned ['s', 'u'] reversed, rfl⟩
  next r reversed => exact ⟨some .milli, turned ['s', 'm'] reversed, rfl⟩
  next r _ _ reversed => exact ⟨some .second, turned ['s'] reversed, rfl⟩
  next r reversed => exact ⟨some .minute, turned ['m'] reversed, rfl⟩
  · exact ⟨none, (List.append_nil cs).symm, rfl⟩

/-- The letters of a unit are taken off what ends with no letter. -/
theorem splitUnit_append (last : ∀ c ∈ cs.getLast?, c ≠ 'u' ∧ c ≠ 'm' ∧ c ≠ 's')
    (unit : Option TimeUnit) : splitUnit (cs ++ unitLetters unit) = (cs, unit.getD .micro) := by
  have first : ∀ c ∈ cs.reverse.head?, c ≠ 'u' ∧ c ≠ 'm' ∧ c ≠ 's' := by
    rwa [List.head?_reverse]
  have back : cs.reverse.reverse = cs := List.reverse_reverse cs
  simp only [splitUnit, List.reverse_append]
  generalize cs.reverse = r at first back
  subst back
  cases unit with
  | none => simp only [unitLetters]; split <;> simp_all
  | some unit =>
    cases unit with
    | second => simp only [unitLetters]; split <;> simp_all
    | _ => rfl

/-- Units are counted exactly, only too many minutes are not counted in seconds. -/
theorem times_cases (n : Nat) (unit : Option TimeUnit) :
    (unit.getD .micro).times n = .ok ⟨n * unitNanos unit⟩ ∨
      (unit = some .minute ∧ Word.max < n * 60 ∧
        (unit.getD .micro).times n = .error .product) := by
  cases unit with
  | none => exact .inl rfl
  | some unit =>
    cases unit with
    | minute =>
      by_cases fits : n * 60 ≤ Word.max
      · left
        simp [TimeUnit.times, Word.mul?, fits, ofSecs, unitNanos, Nat.mul_assoc]
      · right
        simp [TimeUnit.times, Word.mul?, fits]
        omega
    | _ => exact .inl rfl

/-! ## Reading -/

/-- The text of `n` of some unit: a number and a unit, or a number alone, with blanks between them
and around. -/
def Spelled (cs : List Char) (n : Nat) (unit : Option TimeUnit) : Prop :=
  ∃ before number between after,
    cs = before ++ number ++ between ++ unitLetters unit ++ after ∧
      Blank before ∧ Numeral number n ∧ Blank between ∧ Blank after

/-- What ends with a digit or a blank ends with no letter of a unit. -/
theorem not_letter {c : Char} (h : c.isDigit = true ∨ isBlank c = true) :
    c ≠ 'u' ∧ c ≠ 'm' ∧ c ≠ 's' := by
  refine ⟨?_, ?_, ?_⟩
  all_goals
    rintro rfl
    revert h
    decide

/-- Taking the blanks and the unit off what is so spelled leaves its number. -/
theorem Spelled.number (h : Spelled cs n unit) :
    (splitUnit (trim cs)).2 = unit.getD .micro ∧ Numeral (trim (splitUnit (trim cs)).1) n := by
  obtain ⟨before, number, between, after, rfl, blank, numeral, blank', blank''⟩ := h
  have solid : ∀ c ∈ number.getLast?, isBlank c = false := by
    intro c last
    exact isBlank_of_isDigit (numeral.last c last)
  cases unit with
  | none =>
    have trimmed : trim (before ++ number ++ (between ++ after)) = number :=
      trim_append blank (blank'.append blank'') numeral.head solid
    have alone : trim ([] ++ number ++ []) = number :=
      trim_append nofun nofun numeral.head solid
    have cut : splitUnit (number ++ unitLetters none) = (number, .micro) :=
      splitUnit_append (fun c last => not_letter (.inl (numeral.last c last))) none
    simp only [unitLetters, List.append_nil, List.nil_append] at alone cut ⊢
    rw [List.append_assoc, trimmed, cut, alone]
    exact ⟨rfl, numeral⟩
  | some unit =>
    have trimmed : trim (before ++ (number ++ between ++ unitLetters (some unit)) ++ after) =
        number ++ between ++ unitLetters (some unit) := by
      apply trim_append blank blank''
      · rw [List.append_assoc, List.head?_append_of_ne_nil _ numeral.ne_nil]
        exact numeral.head
      · cases unit <;> simp [unitLetters, isBlank, inRanges, blankRanges]
    have alone : trim ([] ++ number ++ between) = number :=
      trim_append nofun blank' numeral.head solid
    have cut : splitUnit (number ++ between ++ unitLetters (some unit)) = (number ++ between, unit) := by
      refine splitUnit_append (fun c last => not_letter ?_) (some unit)
      by_cases none : between = []
      · rw [none, List.append_nil] at last
        exact .inl (numeral.last c last)
      · rw [List.getLast?_append_of_ne_nil _ none] at last
        exact .inr (blank' c (List.mem_of_getLast? last))
    simp only [← List.append_assoc] at trimmed
    rw [trimmed, cut]
    exact ⟨rfl, alone.symm ▸ numeral⟩

/-- What is left when the blanks and the unit are taken off tells how the text is spelled. -/
theorem spelled_of_number (told : Numeral (trim (splitUnit (trim cs)).1) n) :
    ∃ unit, (splitUnit (trim cs)).2 = unit.getD .micro ∧ Spelled cs n unit := by
  obtain ⟨before, after, blank, blank', whole⟩ := trim_split cs
  obtain ⟨unit, letters, named⟩ := splitUnit_split (trim cs)
  obtain ⟨inner, between, blank₁, blank₂, part⟩ := trim_split (splitUnit (trim cs)).1
  refine ⟨unit, named, before ++ inner, _, between, after, ?_, blank.append blank₁, told, blank₂,
    blank'⟩
  calc cs = before ++ trim cs ++ after := whole
    _ = before ++ ((splitUnit (trim cs)).1 ++ unitLetters unit) ++ after := by rw [← letters]
    _ = before ++ (inner ++ trim (splitUnit (trim cs)).1 ++ between ++ unitLetters unit) ++
        after := by rw [← part]
    _ = before ++ inner ++ trim (splitUnit (trim cs)).1 ++ between ++ unitLetters unit ++
        after := by simp only [List.append_assoc]

theorem ofChars?_blank (blank : Blank cs) : ofChars? cs = .error .blank := by
  unfold ofChars?
  rw [trim_eq_nil_iff.2 blank]

theorem ofChars?_solid (solid : ¬ Blank cs) :
    ofChars? cs =
      match readUnsigned Word.max (trim (splitUnit (trim cs)).1) with
      | .error e => .error (.number e)
      | .ok n => ((splitUnit (trim cs)).2.times n).mapError .abort := by
  unfold ofChars?
  split
  next empty => exact absurd (trim_eq_nil_iff.1 empty) solid
  · obtain ⟨number, unit⟩ := splitUnit (trim cs)
    dsimp only
    cases readUnsigned Word.max (trim number) with
    | error e => rfl
    | ok n =>
      dsimp only
      cases unit.times n <;> rfl

theorem Spelled.not_blank (h : Spelled cs n unit) : ¬ Blank cs := by
  obtain ⟨before, number, between, after, rfl, -, numeral, -, -⟩ := h
  intro blank
  obtain ⟨c, last⟩ := List.getLast?_isSome.2 numeral.ne_nil |> Option.isSome_iff_exists.1
  have digit := isBlank_of_isDigit (numeral.last c last)
  have mem := List.mem_of_getLast? last
  rw [blank c (by simp [mem])] at digit
  cases digit

/-- A text of a duration is read as its number of units, if that can be counted. -/
theorem Spelled.read (h : Spelled cs n unit) (fits : n ≤ Word.max) :
    ofChars? cs = ((unit.getD .micro).times n).mapError .abort := by
  obtain ⟨named, told⟩ := h.number
  rw [ofChars?_solid h.not_blank, readUnsigned_eq_ok_iff.2 ⟨told, fits⟩, named]

/-- What is not refused for its number is spelled as a duration. -/
theorem spelled_or_refused (solid : ¬ Blank cs) :
    (∃ n unit, Spelled cs n unit ∧ n ≤ Word.max) ∨ ∃ e, ofChars? cs = .error (.number e) := by
  rw [ofChars?_solid solid]
  cases read : readUnsigned Word.max (trim (splitUnit (trim cs)).1) with
  | ok n =>
    obtain ⟨told, fits⟩ := readUnsigned_eq_ok_iff.1 read
    obtain ⟨unit, -, spelled⟩ := spelled_of_number told
    exact .inl ⟨n, unit, spelled, fits⟩
  | error e => exact .inr ⟨e, rfl⟩

/-- The text names a word of minutes that is no word as seconds. -/
def TooManyMinutes (cs : List Char) : Prop :=
  ∃ n, Spelled cs n (some .minute) ∧ n ≤ Word.max ∧ Word.max < n * 60

/-- Reading ends abnormally exactly where minutes are too many. -/
theorem ofString?_abort_iff (s : String) (a : Abort) :
    ofString? s = .error (.abort a) ↔ a = .product ∧ TooManyMinutes s.toList := by
  constructor
  · intro aborted
    have solid : ¬ Blank s.toList := by
      intro blank
      rw [ofString?, ofChars?_blank blank] at aborted
      cases aborted
    rcases spelled_or_refused solid with ⟨n, unit, spelled, fits⟩ | ⟨e, refused⟩
    · rw [ofString?, spelled.read fits] at aborted
      rcases times_cases n unit with counted | ⟨rfl, beyond, overflows⟩
      · rw [counted] at aborted
        cases aborted
      · rw [overflows] at aborted
        cases aborted
        exact ⟨rfl, n, spelled, fits, beyond⟩
    · rw [ofString?, refused] at aborted
      cases aborted
  · rintro ⟨rfl, n, spelled, fits, beyond⟩
    have product : TimeUnit.minute.times n = .error .product := by
      simp [TimeUnit.times, Word.mul?, Nat.not_le.2 beyond]
    rw [ofString?, spelled.read fits]
    exact congrArg (Except.mapError ReadError.abort) product

/-- Only a blank text is called an empty duration. -/
theorem ReadError.message_eq_iff {e : ReadError} : e.message = "empty duration" ↔ e = .blank := by
  cases e with
  | blank => simp [message]
  | number e => cases e <;> simp [message, IntegerError.message]
  | abort a => cases a <;> simp [message, Abort.message]

/-- A text for which reading ends properly is read as a duration exactly if it is spelled as one and
its number is a word, and then as exactly that many units. It is called empty if it is blank, and
otherwise it is refused for its number. -/
theorem ofString?_reads (s : String) (ends : ∀ a, ofString? s ≠ .error (.abort a)) :
    (∀ d, ofString? s = .ok d ↔
      ∃ n unit, Spelled s.toList n unit ∧ n ≤ Word.max ∧ d.nanos = n * unitNanos unit) ∧
    ((∃ e, ofString? s = .error e ∧ e.message = "empty duration") ↔ Blank s.toList) ∧
    ((∃ e, ofString? s = .error (.number e)) ↔
      ¬ Blank s.toList ∧ ¬ ∃ n unit, Spelled s.toList n unit ∧ n ≤ Word.max) := by
  have counted {n : Nat} {unit : Option TimeUnit} (spelled : Spelled s.toList n unit)
      (fits : n ≤ Word.max) : ofString? s = .ok ⟨n * unitNanos unit⟩ := by
    have read : ofString? s = _ := spelled.read fits
    rcases times_cases n unit with counted | ⟨-, -, overflows⟩
    · rw [read, counted]
      rfl
    · rw [overflows] at read
      exact absurd read (ends .product)
  refine ⟨fun d => ⟨fun read => ?_, ?_⟩, ⟨?_, ?_⟩, ⟨?_, ?_⟩⟩
  · have solid : ¬ Blank s.toList := by
      intro blank
      rw [ofString?, ofChars?_blank blank] at read
      cases read
    rcases spelled_or_refused solid with ⟨n, unit, spelled, fits⟩ | ⟨e, refused⟩
    · rw [counted spelled fits] at read
      exact ⟨n, unit, spelled, fits, congrArg nanos (Except.ok.inj read).symm⟩
    · rw [ofString?, refused] at read
      cases read
  · rintro ⟨n, unit, spelled, fits, same⟩
    obtain ⟨nanos⟩ := d
    obtain rfl : nanos = _ := same
    exact counted spelled fits
  · rintro ⟨e, empty, message⟩
    rw [ReadError.message_eq_iff.1 message] at empty
    by_contra solid
    rcases spelled_or_refused solid with ⟨n, unit, spelled, fits⟩ | ⟨e, refused⟩
    · rw [counted spelled fits] at empty
      cases empty
    · rw [ofString?, refused] at empty
      cases empty
  · intro blank
    exact ⟨.blank, ofChars?_blank blank, rfl⟩
  · rintro ⟨e, refused⟩
    refine ⟨fun blank => ?_, ?_⟩
    · rw [ofString?, ofChars?_blank blank] at refused
      cases refused
    · rintro ⟨n, unit, spelled, fits⟩
      rw [counted spelled fits] at refused
      cases refused
  · rintro ⟨solid, unspelled⟩
    exact (spelled_or_refused solid).resolve_left unspelled

/-- Seven minutes among wide and narrow blanks. -/
theorem ofString?_reads_minutes :
    let s := "\u3000+007\u2009m\n"
    (∀ a, ofString? s ≠ .error (.abort a)) ∧ ofString? s = .ok (ofSecs 420) ∧
      ∃ n unit, Spelled s.toList n unit ∧ n ≤ Word.max ∧
        (ofSecs 420).nanos = n * unitNanos unit := by
  have read : ofString? "\u3000+007\u2009m\n" = .ok (ofSecs 420) := rfl
  have ends : ∀ a, ofString? "\u3000+007\u2009m\n" ≠ .error (.abort a) := by
    intro a aborted
    rw [read] at aborted
    cases aborted
  exact ⟨ends, read, ((ofString?_reads _ ends).1 (ofSecs 420)).1 read⟩

end Duration

end CounterSampling
