import CounterSampling.Json.Writer
import CounterSampling.Proofs.Digits

/-!
# Written tokens are scanned back

A text of tokens with blanks between them is split into the same tokens again, except that control
characters within quotes come back as the units they are escaped by. Both layouts of a text are of
this kind, as long as no two numbers stand next to each other.
-/

namespace CounterSampling.Json

open Decimal

/-! Characters within quotes. -/

theorem hexDigit?_hexDigit (n : Nat) : hexDigit? (hexDigit n) = some (n % 16) := by
  have below : n % 16 < 16 := Nat.mod_lt n (by decide)
  unfold hexDigit
  generalize n % 16 = k at below
  revert k
  decide

theorem unit?_hexDigits {u : Nat} (fits : u < 65536) :
    unit? (hexDigit (u / 4096)) (hexDigit (u / 256)) (hexDigit (u / 16)) (hexDigit u) =
      some u := by
  simp only [unit?, hexDigit?_hexDigit, Option.bind_eq_bind, Option.bind_some, Option.pure_def,
    Option.some.injEq]
  omega

/-- A piece as it is met again: a control character without a letter of its own is a unit. -/
def Piece.reread : Piece → Piece
  | .char c =>
    if c.toNat < 0x20 ∧ c ∉ ['\x08', '\x0c', '\n', '\r', '\t'] then .unit c.toNat else .char c
  | .unit u => .unit u

theorem readQuoted_unitEscape (acc : List Piece) {u : Nat} (fits : u < 65536) (cs : List Char) :
    readQuoted acc (unitEscape u ++ cs) = readQuoted (.unit u :: acc) cs := by
  simp [readQuoted, unitEscape, unit?_hexDigits fits]

theorem readQuoted_plain (acc : List Piece) {c : Char} (quote : c ≠ '"') (backslash : c ≠ '\\')
    (shown : ¬c.toNat < 0x20) (cs : List Char) :
    readQuoted acc (c :: cs) = readQuoted (.char c :: acc) cs := by
  rw [readQuoted.eq_def]
  split
  case h_7 same =>
    obtain ⟨rfl, rfl⟩ := List.cons.inj same
    exact if_neg shown
  all_goals simp_all

theorem readQuoted_escape (acc : List Piece) (c : Char) (cs : List Char) :
    readQuoted acc (escape c ++ cs) = readQuoted ((Piece.char c).reread :: acc) cs := by
  unfold escape
  split
  case h_8 quote backslash backspace feed line back tab =>
    by_cases control : c.toNat < 0x20
    · have long : c ∉ ['\x08', '\x0c', '\n', '\r', '\t'] := by
        simp only [List.mem_cons, List.not_mem_nil, or_false, not_or]
        exact ⟨backspace, feed, line, back, tab⟩
      rw [if_pos control, Piece.reread, if_pos ⟨control, long⟩]
      exact readQuoted_unitEscape acc (by omega) cs
    · rw [if_neg control, Piece.reread, if_neg fun h => control h.1]
      exact readQuoted_plain acc quote backslash control cs
  -- The other characters have an escape of their own.
  all_goals simp [readQuoted, escape?, Piece.reread]

/-- Escaped characters are read up to the quote after them. -/
theorem readQuoted_chars (acc : List Piece) (cs rest : List Char) :
    readQuoted acc ((cs.map Piece.char).flatMap Piece.chars ++ '"' :: rest) =
      .ok (acc.reverse ++ (cs.map Piece.char).map Piece.reread, rest) := by
  induction cs generalizing acc with
  | nil => exact congrArg (fun ps => Except.ok (ps, rest)) (List.append_nil _).symm
  | cons c cs ih =>
    rw [List.map_cons, List.flatMap_cons, List.append_assoc]
    refine (readQuoted_escape acc c _).trans ?_
    rw [ih, List.reverse_cons, List.append_assoc]
    rfl

/-! Natural numbers. -/

/-- A number before this text ends there. -/
def EndsNumber (cs : List Char) : Prop :=
  ∀ c ∈ cs.head?, c.isDigit = false ∧ c ≠ '.' ∧ c ≠ 'e' ∧ c ≠ 'E'

theorem toDigits_head? {n : Nat} (positive : 0 < n) : (Nat.toDigits 10 n).head? ≠ some '0' := by
  induction n using Nat.strongRecOn with
  | ind n ih =>
    by_cases short : n < 10
    · have digits : ∀ k < 10, 0 < k → [k.digitChar].head? ≠ some '0' := by decide
      rw [Nat.toDigits_of_lt_base short]
      exact digits n short positive
    · have first := ih (n / 10) (by omega) (by omega)
      rw [Nat.toDigits_of_base_le (by decide) (by omega)]
      cases spelled : Nat.toDigits 10 (n / 10) with
      | nil => exact absurd spelled Nat.toDigits_ne_nil
      | cons c cs => rwa [spelled] at first

theorem toDigits_isDigit (n : Nat) : ∀ c ∈ Nat.toDigits 10 n, c.isDigit = true :=
  fun _ => Nat.isDigit_of_mem_toDigits (by decide) (by decide)

theorem toDigits_cons (n : Nat) :
    ∃ c cs, Nat.toDigits 10 n = c :: cs ∧ c.isDigit = true := by
  have digits := toDigits_isDigit n
  cases spelled : Nat.toDigits 10 n with
  | nil => exact absurd spelled Nat.toDigits_ne_nil
  | cons c cs =>
    rw [spelled] at digits
    exact ⟨c, cs, rfl, digits c List.mem_cons_self⟩

theorem readDigits_toDigits (n : Nat) {rest : List Char} (ends : EndsNumber rest) :
    readDigits (Nat.toDigits 10 n ++ rest) = .ok (Nat.toDigits 10 n, rest) := by
  have digits := toDigits_isDigit n
  have none : rest.takeWhile Char.isDigit = [] ∧ rest.dropWhile Char.isDigit = rest := by
    cases rest with
    | nil => exact ⟨rfl, rfl⟩
    | cons c rest =>
      have other : ¬c.isDigit = true := Bool.eq_false_iff.1 (ends c rfl).1
      exact ⟨List.takeWhile_cons_of_neg other, List.dropWhile_cons_of_neg other⟩
  have taken : takeDigits (Nat.toDigits 10 n ++ rest) = (Nat.toDigits 10 n, rest) := by
    rw [takeDigits, List.takeWhile_append_of_pos digits, List.dropWhile_append_of_pos digits,
      none.1, none.2, List.append_nil]
  obtain ⟨c, cs, spelled, -⟩ := toDigits_cons n
  rw [readDigits, taken, spelled]

theorem readWhole_toDigits (n : Nat) {rest : List Char} (ends : EndsNumber rest) :
    readWhole (Nat.toDigits 10 n ++ rest) = .ok (Nat.toDigits 10 n, rest) := by
  by_cases zero : n = 0
  · subst zero
    rw [Nat.toDigits_zero]
    cases rest with
    | nil => rfl
    | cons c rest => simp [readWhole, (ends c rfl).1]
  · have head := toDigits_head? (Nat.pos_of_ne_zero zero)
    obtain ⟨c, cs, spelled, -⟩ := toDigits_cons n
    rw [← readDigits_toDigits n ends, spelled]
    rw [spelled] at head
    have other : c ≠ '0' := fun same => head (congrArg some same)
    rw [List.cons_append, readWhole.eq_def]
    split
    · next same => exact absurd (List.cons.inj same).1 other
    · rfl

theorem readNumber_toDigits (n : Nat) {rest : List Char} (ends : EndsNumber rest) :
    readNumber false (Nat.toDigits 10 n ++ rest) = .ok (Numeral.ofNat n, rest) := by
  have fraction : readFraction rest = .ok (none, rest) := by
    rw [readFraction.eq_def]
    split
    · exact absurd rfl (ends '.' rfl).2.1
    · rfl
  have exponent : readExponent rest = .ok (none, rest) := by
    cases rest with
    | nil => rfl
    | cons c rest =>
      obtain ⟨-, -, lower, upper⟩ := ends c rfl
      exact if_neg fun h => h.elim lower upper
  rw [readNumber, readWhole_toDigits n ends]
  change (readFraction rest >>= _) = _
  rw [fraction]
  change (readExponent rest >>= _) = _
  rw [exponent]
  rfl

/-! Tokens. -/

/-- The numbers are natural and the strings hold characters only, as written. -/
def Token.Plain : Token → Prop
  | .number n => ∃ k, n = Numeral.ofNat k
  | .quoted ps => ∃ cs : List Char, ps = cs.map Piece.char
  | _ => True

def Token.isNumber : Token → Bool
  | .number _ => true
  | _ => false

/-- A token as it is met again. -/
def Token.reread : Token → Token
  | .quoted ps => .quoted (ps.map Piece.reread)
  | t => t

theorem chars_ofNat (k : Nat) :
    (Token.number (Numeral.ofNat k)).chars = Nat.toDigits 10 k := by
  simp [Token.chars, Numeral.chars, Numeral.ofNat]

theorem scanFirst_of_isDigit {c : Char} (digit : c.isDigit = true) (cs : List Char) :
    scanFirst (c :: cs) = scanNumber false (c :: cs) := by
  rw [scanFirst.eq_def]
  split
  case h_13 same =>
    obtain ⟨rfl, rfl⟩ := List.cons.inj same
    exact if_pos digit
  all_goals
    rename_i same
    cases same
  all_goals exact absurd digit (by decide)

/-- A written token is read first, if no number goes on after it. -/
theorem scanFirst_token {t : Token} (plain : t.Plain) {rest : List Char}
    (ends : t.isNumber = true → EndsNumber rest) :
    scanFirst (t.chars ++ rest) = .token t.reread rest := by
  cases t with
  | openBrace => rfl
  | closeBrace => rfl
  | openBracket => rfl
  | closeBracket => rfl
  | comma => rfl
  | colon => rfl
  | null => rfl
  | bool b => cases b <;> rfl
  | number n =>
    obtain ⟨k, rfl⟩ := plain
    have read := readNumber_toDigits k (ends rfl)
    obtain ⟨c, cs, spelled, digit⟩ := toDigits_cons k
    rw [spelled, List.cons_append] at read
    rw [chars_ofNat, spelled, List.cons_append, scanFirst_of_isDigit digit, scanNumber, read]
    rfl
  | quoted ps =>
    obtain ⟨cs, rfl⟩ := plain
    have read := readQuoted_chars [] cs rest
    simp only [Token.chars, List.cons_append, List.append_assoc, List.nil_append, scanFirst, read,
      Token.reread, List.reverse_nil]

theorem endsNumber_of_isSpace {c : Char} (blank : isSpace c = true) :
    c.isDigit = false ∧ c ≠ '.' ∧ c ≠ 'e' ∧ c ≠ 'E' := by
  simp only [isSpace, Bool.or_eq_true, beq_iff_eq] at blank
  rcases blank with ((rfl | rfl) | rfl) | rfl <;> decide

/-- What a token starts with is no blank, and ends a number unless the token is one. -/
theorem chars_start {t : Token} (plain : t.Plain) :
    ∃ c cs, t.chars = c :: cs ∧ isSpace c = false ∧
      (t.isNumber = false → c.isDigit = false ∧ c ≠ '.' ∧ c ≠ 'e' ∧ c ≠ 'E') := by
  cases t with
  | number n =>
    obtain ⟨k, rfl⟩ := plain
    obtain ⟨c, cs, spelled, digit⟩ := toDigits_cons k
    refine ⟨c, cs, (chars_ofNat k).trans spelled, Bool.eq_false_iff.2 fun blank => ?_, nofun⟩
    rw [(endsNumber_of_isSpace blank).1] at digit
    cases digit
  | bool b => cases b <;> exact ⟨_, _, rfl, rfl, fun _ => by decide⟩
  | _ => exact ⟨_, _, rfl, rfl, fun _ => by decide⟩

/-! Texts. -/

/-- Plain tokens of which no two numbers stand next to each other. -/
def Separate : List Token → Prop
  | [] => True
  | t :: ts => t.Plain ∧ (t.isNumber = true → ∀ t' ∈ ts.head?, t'.isNumber = false) ∧ Separate ts

/-- A text of tokens, with blanks before each of them and after the last. -/
inductive Laid : List Token → List Char → Prop where
  | done {blanks : List Char} (blank : ∀ c ∈ blanks, isSpace c = true) : Laid [] blanks
  | token {t : Token} {ts : List Token} {blanks cs : List Char}
      (blank : ∀ c ∈ blanks, isSpace c = true) (later : Laid ts cs) :
      Laid (t :: ts) (blanks ++ (t.chars ++ cs))

theorem Laid.blanks {ts : List Token} {cs : List Char} (laid : Laid ts cs) {blanks : List Char}
    (blank : ∀ c ∈ blanks, isSpace c = true) : Laid ts (blanks ++ cs) := by
  have both {more : List Char} (blank' : ∀ c ∈ more, isSpace c = true) :
      ∀ c ∈ blanks ++ more, isSpace c = true := by
    intro c mem
    exact (List.mem_append.1 mem).elim (blank c) (blank' c)
  cases laid with
  | done blank' => exact .done (both blank')
  | token blank' later =>
    rw [← List.append_assoc]
    exact .token (both blank') later

theorem Laid.now {t : Token} {ts : List Token} {cs : List Char} (later : Laid ts cs) :
    Laid (t :: ts) (t.chars ++ cs) := by
  have laid : Laid (t :: ts) ([] ++ (t.chars ++ cs)) := .token nofun later
  exact laid

/-- A number ends before a text that does not start with a number. -/
theorem Laid.endsNumber {ts : List Token} {cs : List Char} (laid : Laid ts cs)
    (separate : Separate ts) (other : ∀ t ∈ ts.head?, t.isNumber = false) : EndsNumber cs := by
  intro c first
  cases laid with
  | done blank => exact endsNumber_of_isSpace (blank c (List.mem_of_mem_head? first))
  | @token t ts blanks cs blank later =>
    cases blanks with
    | cons c' blanks =>
      obtain rfl : c' = c := Option.some.inj first
      exact endsNumber_of_isSpace (blank c' List.mem_cons_self)
    | nil =>
      obtain ⟨c', cs', chars, -, ends⟩ := chars_start separate.1
      rw [List.nil_append, chars] at first
      obtain rfl : c' = c := Option.some.inj first
      exact ends (other t rfl)

theorem Laid.length_le {ts : List Token} {cs : List Char} (laid : Laid ts cs)
    (separate : Separate ts) : ts.length ≤ cs.length := by
  induction laid with
  | done blank => exact Nat.zero_le _
  | @token t ts blanks cs blank later ih =>
    obtain ⟨c, cs', chars, -⟩ := chars_start separate.1
    have rest := ih separate.2.2
    rw [chars]
    simp only [List.length_cons, List.length_append]
    omega

theorem scanWithin_laid {ts : List Token} {cs : List Char} (laid : Laid ts cs)
    (separate : Separate ts) {fuel : Nat} (enough : ts.length < fuel) :
    scanWithin fuel cs = (ts.map Token.reread, .done) := by
  induction laid generalizing fuel with
  | @done blanks blank =>
    cases fuel with
    | zero => exact absurd enough (Nat.not_lt_zero _)
    | succ fuel =>
      have none : blanks.dropWhile isSpace = [] := by
        rw [← List.append_nil blanks, List.dropWhile_append_of_pos blank]
        rfl
      rw [scanWithin, none]
      rfl
  | @token t ts blanks cs blank later ih =>
    cases fuel with
    | zero => exact absurd enough (Nat.not_lt_zero _)
    | succ fuel =>
      obtain ⟨plain, apart, separate⟩ := separate
      have start : (blanks ++ (t.chars ++ cs)).dropWhile isSpace = t.chars ++ cs := by
        obtain ⟨c, cs', chars, solid, -⟩ := chars_start plain
        rw [List.dropWhile_append_of_pos blank, chars]
        exact List.dropWhile_cons_of_neg (Bool.eq_false_iff.1 solid)
      have first : scanFirst (t.chars ++ cs) = .token t.reread cs :=
        scanFirst_token plain fun number => later.endsNumber separate (apart number)
      rw [scanWithin, start, first]
      dsimp only
      rw [ih separate (Nat.lt_of_succ_lt_succ enough)]
      rfl

/-- A text of tokens is split into them. -/
theorem scan_laid {ts : List Token} {cs : List Char} (laid : Laid ts cs)
    (separate : Separate ts) : scan cs = (ts.map Token.reread, .done) :=
  scanWithin_laid laid separate (Nat.lt_succ_of_le (laid.length_le separate))

/-! Layouts. -/

theorem laid_compact (ts : List Token) : Laid ts (compact ts) := by
  induction ts with
  | nil => exact .done nofun
  | cons t ts ih => exact ih.now

theorem newLine_blank (depth : Nat) : ∀ c ∈ newLine depth, isSpace c = true := by
  intro c mem
  rcases List.mem_cons.1 mem with rfl | mem
  · rfl
  · rw [List.eq_of_mem_replicate mem]
    rfl

theorem afterOpening_blank (depth : Nat) (ts : List Token) :
    ∀ c ∈ afterOpening depth ts, isSpace c = true := by
  unfold afterOpening
  split
  · exact nofun
  · exact nofun
  · exact newLine_blank depth

theorem laid_pretty {tail : List Char} (blank : ∀ c ∈ tail, isSpace c = true) (depth : Nat)
    (opened : Bool) (ts : List Token) : Laid ts (pretty depth opened ts ++ tail) := by
  have space : ∀ c ∈ [' '], isSpace c = true := fun c mem => List.mem_singleton.1 mem ▸ rfl
  have closing (depth : Nat) (opened : Bool) :
      ∀ c ∈ if opened then [] else newLine depth, isSpace c = true := by
    cases opened with
    | true => exact nofun
    | false => exact newLine_blank depth
  induction ts generalizing depth opened with
  | nil => exact .done blank
  | cons t ts ih =>
    have opens : Laid (t :: ts)
        (t.chars ++ afterOpening (depth + 1) ts ++ pretty (depth + 1) true ts ++ tail) := by
      rw [List.append_assoc, List.append_assoc]
      exact ((ih (depth + 1) true).blanks (afterOpening_blank _ ts)).now
    have closes : Laid (t :: ts)
        ((if opened then [] else newLine (depth - 1)) ++ t.chars ++ pretty (depth - 1) false ts ++
          tail) := by
      rw [List.append_assoc, List.append_assoc]
      exact .token (closing (depth - 1) opened) (ih (depth - 1) false)
    have stays : Laid (t :: ts) (t.chars ++ pretty depth false ts ++ tail) := by
      rw [List.append_assoc]
      exact (ih depth false).now
    have goesOn {blanks : List Char} (blank : ∀ c ∈ blanks, isSpace c = true) :
        Laid (t :: ts) (t.chars ++ blanks ++ pretty depth false ts ++ tail) := by
      rw [List.append_assoc, List.append_assoc]
      exact ((ih depth false).blanks blank).now
    cases t with
    | openBrace => exact opens
    | openBracket => exact opens
    | closeBrace => exact closes
    | closeBracket => exact closes
    | comma => exact goesOn (newLine_blank depth)
    | colon => exact goesOn space
    | _ => exact stays

end CounterSampling.Json
