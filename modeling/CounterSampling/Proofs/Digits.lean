import CounterSampling.Json.Number
import CounterSampling.Text.Integer

/-!
# Digits read back

Two readers take a number from its digits, one in arguments and names and one in data files. Both
read the digits of a number as that number wherever it is within their limit. The first of them
also takes a plus sign and zeros in front, and nothing else: `Numeral` is what it takes.
-/

namespace CounterSampling

/-- Digits only make a number greater. -/
theorem le_ofDigitChars (value : Nat) (cs : List Char) : value ≤ Nat.ofDigitChars 10 cs value := by
  rw [Nat.ofDigitChars_eq_ofDigitChars_zero]
  have grows : value ≤ 10 ^ cs.length * value := Nat.le_mul_of_pos_left _ (Nat.pow_pos (by omega))
  omega

theorem Json.gather_digits {value : Nat} {cs : List Char}
    (fits : Nat.ofDigitChars 10 cs value ≤ Word.max) :
    gather value cs = (Nat.ofDigitChars 10 cs value, []) := by
  induction cs generalizing value with
  | nil => rfl
  | cons c cs ih =>
    have step : Nat.ofDigitChars 10 (c :: cs) value =
        Nat.ofDigitChars 10 cs (value * 10 + digitValue c) := by
      rw [Nat.ofDigitChars_cons, Nat.mul_comm]
      rfl
    rw [step] at fits ⊢
    rw [gather, if_pos (Nat.le_trans (le_ofDigitChars _ cs) fits)]
    exact ih fits

theorem Json.gather_toDigits {n : Nat} (fits : n ≤ Word.max) :
    gather 0 (Nat.toDigits 10 n) = (n, []) := by
  have value : Nat.ofDigitChars 10 (Nat.toDigits 10 n) 0 = n := Nat.ofDigitChars_ten_toDigits
  have read : gather 0 (Nat.toDigits 10 n) = _ := gather_digits (value.symm ▸ fits)
  rw [read, value]

namespace Text

theorem digit?_of_isDigit {c : Char} (digit : c.isDigit = true) :
    digit? c = some (c.toNat - '0'.toNat) := by
  rw [Char.isDigit, Bool.and_eq_true, decide_eq_true_eq, decide_eq_true_eq] at digit
  exact if_pos digit

theorem readDigits_digits {limit value : Nat} {excess : IntegerError} {cs : List Char}
    (digits : ∀ c ∈ cs, c.isDigit = true) (fits : Nat.ofDigitChars 10 cs value ≤ limit) :
    readDigits limit excess value cs = .ok (Nat.ofDigitChars 10 cs value) := by
  induction cs generalizing value with
  | nil => rfl
  | cons c cs ih =>
    obtain ⟨digit, digits⟩ := List.forall_mem_cons.1 digits
    rw [Nat.ofDigitChars_cons, Nat.mul_comm] at fits ⊢
    rw [readDigits, digit?_of_isDigit digit]
    dsimp only
    rw [if_pos (Nat.le_trans (le_ofDigitChars _ cs) fits)]
    exact ih digits fits

theorem isDigit_of_digit? {c : Char} {d : Nat} (read : digit? c = some d) :
    c.isDigit = true ∧ d = c.toNat - '0'.toNat := by
  unfold digit? at read
  split at read
  next digit =>
    refine ⟨?_, (Option.some.inj read).symm⟩
    rw [Char.isDigit, Bool.and_eq_true, decide_eq_true_eq, decide_eq_true_eq]
    exact digit
  · cases read

/-- Digits are read as their value if it is within the limit, and nothing else is read. -/
theorem readDigits_eq_ok_iff {limit value n : Nat} {excess : IntegerError} {cs : List Char}
    (start : value ≤ limit) :
    readDigits limit excess value cs = .ok n ↔
      (∀ c ∈ cs, c.isDigit = true) ∧ Nat.ofDigitChars 10 cs value = n ∧ n ≤ limit := by
  constructor
  · intro read
    induction cs generalizing value with
    | nil =>
      obtain rfl := Except.ok.inj read
      exact ⟨nofun, rfl, start⟩
    | cons c cs ih =>
      rw [readDigits] at read
      split at read
      · cases read
      next d found =>
        obtain ⟨digit, rfl⟩ := isDigit_of_digit? found
        split at read
        next fits =>
          obtain ⟨digits, told, within⟩ := ih fits read
          rw [Nat.ofDigitChars_cons, Nat.mul_comm]
          exact ⟨List.forall_mem_cons.2 ⟨digit, digits⟩, told, within⟩
        · cases read
  · rintro ⟨digits, rfl, within⟩
    exact readDigits_digits digits within

/-- The text of a whole number: digits, and perhaps a plus sign before them. -/
def Numeral (cs : List Char) (n : Nat) : Prop :=
  ∃ sign digits, cs = sign ++ digits ∧ (sign = [] ∨ sign = ['+']) ∧ digits ≠ [] ∧
    (∀ c ∈ digits, c.isDigit = true) ∧ Nat.ofDigitChars 10 digits 0 = n

theorem readMagnitude_eq_ok_iff {limit n : Nat} {excess : IntegerError} {cs : List Char} :
    readMagnitude limit excess cs = .ok n ↔
      cs ≠ [] ∧ (∀ c ∈ cs, c.isDigit = true) ∧ Nat.ofDigitChars 10 cs 0 = n ∧ n ≤ limit := by
  cases cs with
  | nil => simp [readMagnitude]
  | cons c cs =>
    have digits : readDigits limit excess 0 (c :: cs) = .ok n ↔ _ :=
      readDigits_eq_ok_iff (Nat.zero_le limit)
    simpa [readMagnitude] using digits

/-- An unsigned number is read exactly where its text stands. -/
theorem readUnsigned_eq_ok_iff {limit n : Nat} {cs : List Char} :
    readUnsigned limit cs = .ok n ↔ Numeral cs n ∧ n ≤ limit := by
  constructor
  · intro read
    unfold readUnsigned at read
    split at read
    · cases read
    · obtain ⟨some, digits, told, within⟩ := readMagnitude_eq_ok_iff.1 read
      exact ⟨⟨['+'], _, rfl, .inr rfl, some, digits, told⟩, within⟩
    · obtain ⟨some, digits, told, within⟩ := readMagnitude_eq_ok_iff.1 read
      exact ⟨⟨[], _, rfl, .inl rfl, some, digits, told⟩, within⟩
  · rintro ⟨⟨sign, digits, rfl, signed, some, plain, told⟩, within⟩
    have read : readMagnitude limit .tooLarge digits = .ok n :=
      readMagnitude_eq_ok_iff.2 ⟨some, plain, told, within⟩
    rcases signed with rfl | rfl
    · cases digits with
      | nil => exact absurd rfl some
      | cons c cs =>
        have unsigned : c ≠ '+' := by
          rintro rfl
          cases plain '+' List.mem_cons_self
        simpa [readUnsigned, unsigned] using read
    · exact read

/-- The digits of a number within the limit are read as the number. -/
theorem readUnsigned_toDigits {limit n : Nat} (fits : n ≤ limit) :
    readUnsigned limit (Nat.toDigits 10 n) = .ok n := by
  have digits : ∀ c ∈ Nat.toDigits 10 n, c.isDigit = true :=
    fun _ => Nat.isDigit_of_mem_toDigits (by decide) (by decide)
  have told : Nat.ofDigitChars 10 (Nat.toDigits 10 n) 0 = n := Nat.ofDigitChars_ten_toDigits
  apply readUnsigned_eq_ok_iff.2
  exact ⟨⟨[], _, rfl, .inl rfl, Nat.toDigits_ne_nil, digits, told⟩, fits⟩

/-- What is read is within the limit. -/
theorem readUnsigned_le {limit n : Nat} {cs : List Char}
    (read : readUnsigned limit cs = .ok n) : n ≤ limit :=
  (readUnsigned_eq_ok_iff.1 read).2

end Text

end CounterSampling
