import CounterSampling.Report
import CounterSampling.Proofs.Decimal.Shortest

/-!
# What the text of a value says

A whole number below the limit is written as an integer, and any other number with digits and a
point such that the double is nearest to what they spell: `Shows` and `shows_formatValue`. So the
text tells the value, `Shows.unique`, and different values have different texts,
`formatValue_eq_iff`.
-/

namespace CounterSampling

namespace Decimal

/-! ## Digits with a point -/

/-- The number that digits before and after a point spell. -/
def spelled (whole fraction : List Char) : ℚ :=
  (Nat.ofDigitChars 10 (whole ++ fraction) 0 : Nat) / 10 ^ fraction.length

/-- Digits with a sign, and with a point if some stand behind it. -/
def spelling (negative : Bool) (whole fraction : List Char) : List Char :=
  (if negative then ['-'] else []) ++ whole ++ (if fraction = [] then [] else '.' :: fraction)

/-- Digits before and perhaps after a point. -/
structure Digits (whole fraction : List Char) : Prop where
  met : whole ≠ []
  whole : ∀ c ∈ whole, c.isDigit = true
  fraction : ∀ c ∈ fraction, c.isDigit = true

theorem digits_toDigits (n : Nat) : ∀ c ∈ Nat.toDigits 10 n, c.isDigit = true :=
  fun _ => Nat.isDigit_of_mem_toDigits (by decide) (by decide)

theorem digits_zeros (n : Nat) : ∀ c ∈ List.replicate n '0', c.isDigit = true := by
  intro c mem
  rw [List.eq_of_mem_replicate mem]
  rfl

theorem spelled_toDigits (n : Nat) : spelled (Nat.toDigits 10 n) [] = n := by
  rw [spelled, List.append_nil, Nat.ofDigitChars_ten_toDigits, List.length_nil, pow_zero, div_one]

/-- Zeros shift a number. -/
theorem ofDigitChars_zeros (n value : Nat) :
    Nat.ofDigitChars 10 (List.replicate n '0') value = value * 10 ^ n := by
  induction n generalizing value with
  | zero => rw [List.replicate_zero, Nat.ofDigitChars_nil, Nat.pow_zero, Nat.mul_one]
  | succ n ih =>
    rw [List.replicate_succ, Nat.ofDigitChars_cons, ih, Nat.pow_succ]
    change (10 * value + 0) * 10 ^ n = value * (10 ^ n * 10)
    ring

theorem Scaled.value_of_nonneg {s : Scaled} (large : 0 ≤ s.exponent) :
    s.value = s.digits * 10 ^ s.exponent.toNat := by
  have exponent : s.exponent = (s.exponent.toNat : Int) := by omega
  rw [value]
  nth_rewrite 1 [exponent]
  rw [zpow_natCast]

theorem Scaled.value_of_neg {s : Scaled} (small : s.exponent < 0) :
    s.value = s.digits / 10 ^ (-s.exponent).toNat := by
  rw [value, zpow_eq_quotient (by norm_num), Int.toNat_of_nonpos (by omega), pow_zero, mul_one_div]

section Layouts

variable {ds : List Char} {n : Nat} (digits : ∀ c ∈ ds, c.isDigit = true)

/-- Zeros follow the digits. -/
theorem spelled_zeros_after : spelled (ds ++ List.replicate n '0') [] =
    (Nat.ofDigitChars 10 ds 0 : Nat) * 10 ^ n := by
  rw [spelled, List.append_nil, Nat.ofDigitChars_append, ofDigitChars_zeros, List.length_nil,
    pow_zero, div_one]
  push_cast
  rfl

include digits in
theorem digits_zeros_after (some : ds ≠ []) : Digits (ds ++ List.replicate n '0') [] where
  met := List.append_ne_nil_of_left_ne_nil some _
  whole c mem := (List.mem_append.1 mem).elim (digits c) (digits_zeros n c)
  fraction := nofun

/-- The point stands between the digits. -/
theorem spelled_split : spelled (ds.take n) (ds.drop n) =
    (Nat.ofDigitChars 10 ds 0 : Nat) / 10 ^ (ds.length - n) := by
  rw [spelled, List.take_append_drop, List.length_drop]

include digits in
theorem digits_split (some : ds.take n ≠ []) : Digits (ds.take n) (ds.drop n) where
  met := some
  whole c mem := digits c (List.mem_of_mem_take mem)
  fraction c mem := digits c (List.mem_of_mem_drop mem)

/-- Zeros stand between the point and the digits. -/
theorem spelled_zeros_before : spelled ['0'] (List.replicate n '0' ++ ds) =
    (Nat.ofDigitChars 10 ds 0 : Nat) / 10 ^ (n + ds.length) := by
  have zeros : ['0'] ++ (List.replicate n '0' ++ ds) = List.replicate (n + 1) '0' ++ ds := rfl
  rw [spelled, zeros, Nat.ofDigitChars_append, ofDigitChars_zeros, Nat.zero_mul, List.length_append,
    List.length_replicate]

include digits in
theorem digits_zeros_before : Digits ['0'] (List.replicate n '0' ++ ds) where
  met := List.cons_ne_nil _ _
  whole := digits_zeros 1
  fraction c mem := (List.mem_append.1 mem).elim (digits_zeros n c) (digits c)

end Layouts

/-- Written without an exponent, the digits spell the decimal. -/
theorem plain_numeral_chars (negative : Bool) (s : Scaled) :
    ∃ whole fraction, Digits whole fraction ∧ spelled whole fraction = s.value ∧
      (Layout.plain.numeral negative s).chars = spelling negative whole fraction := by
  have digits := digits_toDigits s.digits
  have value : Nat.ofDigitChars 10 (Nat.toDigits 10 s.digits) 0 = s.digits :=
    Nat.ofDigitChars_ten_toDigits
  have some : 0 < (Nat.toDigits 10 s.digits).length := Nat.length_toDigits_pos
  unfold Layout.numeral Layout.plain
  dsimp only
  rw [if_pos rfl]
  generalize Nat.toDigits 10 s.digits = ds at digits value some ⊢
  by_cases large : 0 ≤ s.exponent
  · rw [if_pos large]
    have met := List.ne_nil_of_length_pos some
    refine ⟨_, _, digits_zeros_after digits (n := s.exponent.toNat) met, ?_, ?_⟩
    · rw [spelled_zeros_after, value, Scaled.value_of_nonneg large]
    · simp [Numeral.chars, spelling]
  rw [if_neg large, Scaled.value_of_neg (not_le.1 large), ← value]
  by_cases inner : 0 ≤ (ds.length : Int) - 1 + s.exponent
  · rw [if_pos inner]
    have length : ds.length - (((ds.length : Int) - 1 + s.exponent).toNat + 1) =
        (-s.exponent).toNat := by omega
    generalize ((ds.length : Int) - 1 + s.exponent).toNat = n at length ⊢
    have before : ds.take (n + 1) ≠ [] := by
      refine List.ne_nil_of_length_pos ?_
      rw [List.length_take]
      omega
    have after : ds.drop (n + 1) ≠ [] := by
      refine List.ne_nil_of_length_pos ?_
      rw [List.length_drop]
      omega
    refine ⟨_, _, digits_split digits before, ?_, ?_⟩
    · rw [spelled_split, length]
    · simp [Numeral.chars, spelling, after]
  · rw [if_neg inner]
    have length : (-((ds.length : Int) - 1 + s.exponent)).toNat - 1 + ds.length =
        (-s.exponent).toNat := by omega
    generalize (-((ds.length : Int) - 1 + s.exponent)).toNat - 1 = n at length ⊢
    refine ⟨_, _, digits_zeros_before digits (n := n), ?_, ?_⟩
    · rw [spelled_zeros_before, length]
    · have after : List.replicate n '0' ++ ds ≠ [] :=
        List.append_ne_nil_of_right_ne_nil _ (List.ne_nil_of_length_pos some)
      simp [Numeral.chars, spelling, after]

/-! ## What the characters tell -/

section Characters

variable {negative negative' : Bool} {whole fraction whole' fraction' : List Char}

theorem mem_spelling (digits : Digits whole fraction) :
    ∀ c ∈ spelling negative whole fraction, c.isDigit = true ∨ c = '-' ∨ c = '.' := by
  intro c mem
  unfold spelling at mem
  rcases List.mem_append.1 mem with before | after
  · rcases List.mem_append.1 before with sign | there
    · split at sign
      · exact .inr (.inl (List.mem_singleton.1 sign))
      · cases sign
    · exact .inl (digits.whole c there)
  · split at after
    · cases after
    · rcases List.mem_cons.1 after with point | there
      · exact .inr (.inr point)
      · exact .inl (digits.fraction c there)

/-- Before the point the digits end. -/
theorem takeWhile_spelling (digits : Digits whole fraction) :
    (whole ++ if fraction = [] then [] else '.' :: fraction).takeWhile Char.isDigit = whole := by
  rw [List.takeWhile_append_of_pos digits.whole]
  split
  · exact List.append_nil whole
  · exact List.append_nil whole

/-- The characters tell the sign and the digits before and after the point. -/
theorem spelling_inj (digits : Digits whole fraction) (digits' : Digits whole' fraction')
    (same : spelling negative whole fraction = spelling negative' whole' fraction') :
    negative = negative' ∧ whole = whole' ∧ fraction = fraction' := by
  obtain ⟨c, cs, rfl⟩ := List.exists_cons_of_ne_nil digits.met
  obtain ⟨c', cs', rfl⟩ := List.exists_cons_of_ne_nil digits'.met
  have unsigned : c ≠ '-' := by
    rintro rfl
    cases digits.whole '-' List.mem_cons_self
  have unsigned' : c' ≠ '-' := by
    rintro rfl
    cases digits'.whole '-' List.mem_cons_self
  have signs : negative = negative' := by
    have first := congrArg List.head? same
    cases negative <;> cases negative'
    · rfl
    · exact absurd (Option.some.inj first) unsigned
    · exact absurd (Option.some.inj first).symm unsigned'
    · rfl
  subst signs
  unfold spelling at same
  rw [List.append_assoc, List.append_assoc, List.append_cancel_left_eq] at same
  have wholes := congrArg (List.takeWhile Char.isDigit) same
  rw [takeWhile_spelling digits, takeWhile_spelling digits'] at wholes
  rw [wholes, List.append_cancel_left_eq] at same
  refine ⟨rfl, wholes, ?_⟩
  split at same
  next none =>
    split at same
    next none' => rw [none, none']
    · cases same
  · split at same
    · cases same
    · exact (List.cons.inj same).2

end Characters

/-- An integer is written as its sign and the digits of its magnitude. -/
theorem toString_eq_spelling (n : Int) :
    toString n = String.ofList (spelling (decide (n < 0)) (Nat.toDigits 10 n.natAbs) []) := by
  rw [spelling, if_pos rfl, List.append_nil]
  cases n with
  | ofNat k => exact Nat.toString_eq_ofList_toDigits
  | negSucc k =>
    change "-" ++ toString (k + 1) = _
    rw [Nat.toString_eq_ofList_toDigits, if_pos (decide_eq_true (Int.negSucc_lt_zero k)),
      String.ofList_append]
    rfl

theorem digits_natAbs (n : Int) : Digits (Nat.toDigits 10 n.natAbs) [] :=
  ⟨Nat.toDigits_ne_nil, digits_toDigits _, nofun⟩

theorem toDigits_inj {m n : Nat} (same : Nat.toDigits 10 m = Nat.toDigits 10 n) : m = n := by
  have value := congrArg (fun ds => Nat.ofDigitChars 10 ds 0) same
  rwa [Nat.ofDigitChars_ten_toDigits, Nat.ofDigitChars_ten_toDigits] at value

/-- Different integers are written differently. -/
theorem toString_int_inj {m n : Int} (same : toString m = toString n) : m = n := by
  rw [toString_eq_spelling, toString_eq_spelling] at same
  obtain ⟨signs, digits, -⟩ :=
    spelling_inj (digits_natAbs m) (digits_natAbs n) (String.ofList_injective same)
  have magnitudes := toDigits_inj digits
  have signs : m < 0 ↔ n < 0 := decide_eq_decide.1 signs
  omega

/-! ## Whole magnitudes -/

theorem Binary.whole?_eq_some_iff {b : Binary} {n : Nat} : b.whole? = some n ↔ b.value = n := by
  have positive := Nat.two_pow_pos (-b.exponent).toNat
  have value_iff :
      b.value = n ↔ b.mantissa * 2 ^ b.exponent.toNat = n * 2 ^ (-b.exponent).toNat := by
    rw [b.value_eq_quotient, div_eq_iff (Nat.cast_ne_zero.2 positive.ne')]
    exact_mod_cast Iff.rfl
  rw [value_iff]
  unfold whole?
  by_cases large : 0 ≤ b.exponent
  · rw [if_pos large, Int.toNat_of_nonpos (show -b.exponent ≤ 0 by omega), Nat.pow_zero,
      Nat.mul_one]
    exact Option.some_inj
  · rw [if_neg large, Int.toNat_of_nonpos (show b.exponent ≤ 0 by omega), Nat.pow_zero,
      Nat.mul_one]
    change (if b.mantissa % 2 ^ (-b.exponent).toNat = 0 then
      some (b.mantissa / 2 ^ (-b.exponent).toNat) else none) = some n ↔ _
    split
    next whole =>
      rw [Option.some_inj, Nat.div_eq_iff_eq_mul_left positive (Nat.dvd_of_mod_eq_zero whole)]
    next broken =>
      refine ⟨nofun, fun multiple => absurd ?_ broken⟩
      rw [multiple, Nat.mul_mod_left]

end Decimal

open Decimal

/-! ## Texts -/

/-- How a text shows a double. -/
inductive Shows : Binary64 → String → Prop
  | nan : Shows .nan "NaN"
  | infinite : Shows (.infinite false) "inf"
  | negativeInfinite : Shows (.infinite true) "-inf"
  /-- A whole number below the limit is shown as an integer. -/
  | whole {negative : Bool} {b : Binary} {n : Int}
    (value : (if negative then -b.value else b.value) = n) (small : n.natAbs < 10 ^ 15) :
    Shows (.finite negative b) (toString n)
  /-- Any other number is shown by its sign and by digits, with a point where one is due, that spell
  a number to which the double is nearest. -/
  | other {negative : Bool} {b : Binary} {whole fraction : List Char}
    (not_small : ∀ n : Nat, b.value = n → 10 ^ 15 ≤ n) (digits : Digits whole fraction)
    (near : b.Nearest (spelled whole fraction)) :
    Shows (.finite negative b) (String.ofList (spelling negative whole fraction))

theorem toString_int (negative : Bool) (n : Nat) :
    toString (if negative then -(n : Int) else n) =
      (if negative && n != 0 then "-" else "") ++ toString n := by
  cases negative with
  | false => exact (String.empty_append).symm
  | true =>
    cases n with
    | zero => rfl
    | succ n => rfl

theorem shows_plainText {negative : Bool} {b : Binary} (canonical : b.Canonical)
    (not_small : ∀ n : Nat, b.value = n → 10 ^ 15 ≤ n) :
    Shows (.finite negative b)
      (String.ofList (Layout.plain.numeral negative (b.shortest Layout.plain.tie)).chars) := by
  have met : b.mantissa ≠ 0 := by
    intro zero
    have := not_small 0 (by rw [Binary.value, zero, Nat.cast_zero, zero_mul])
    omega
  obtain ⟨whole, fraction, digits, value, chars⟩ :=
    plain_numeral_chars negative (b.shortest Layout.plain.tie)
  rw [chars]
  refine .other not_small digits ?_
  rw [value]
  exact (Binary.shortest_caught canonical met _).nearest canonical

/-- The text of a value shows it. -/
theorem shows_formatValue (x : Float) : Shows (.ofFloat x) (formatValue x) := by
  unfold formatValue plainText
  cases decoded : Binary64.ofFloat x with
  | nan => exact .nan
  | infinite negative =>
    cases negative with
    | false => exact .infinite
    | true => exact .negativeInfinite
  | finite negative b =>
    have canonical : b.Canonical := Binary.canonical_of_bits decoded
    dsimp only
    cases whole : b.whole? with
    | none =>
      refine shows_plainText canonical fun n value => ?_
      rw [Binary.whole?_eq_some_iff.2 value] at whole
      cases whole
    | some n =>
      have value := Binary.whole?_eq_some_iff.1 whole
      dsimp only
      by_cases small : n < wholeValueLimit
      · rw [if_pos small, ← toString_int]
        refine .whole ?_ ?_
        · rw [value]
          cases negative <;> push_cast <;> rfl
        · rw [apply_ite Int.natAbs, Int.natAbs_neg, ite_self]
          exact small
      · rw [if_neg small]
        refine shows_plainText canonical fun n' value' => ?_
        obtain rfl : n = n' := Nat.cast_injective (value.symm.trans value')
        exact not_lt.1 small

/-! ## What a text tells -/

section Told

variable {negative : Bool} {b : Binary} {text : String}

theorem Decimal.Binary.value_eq_zero_iff : b.value = 0 ↔ b.mantissa = 0 := by
  rw [Binary.value, mul_eq_zero, or_iff_left b.unit_pos.ne', Nat.cast_eq_zero]

/-- The text of a number spells one that the magnitude is nearest to, with its sign unless it is
zero. -/
theorem Shows.spells (shown : Shows (.finite negative b) text) (canonical : b.Canonical) :
    ∃ sign whole fraction, text = String.ofList (spelling sign whole fraction) ∧
      Digits whole fraction ∧ b.Nearest (spelled whole fraction) ∧
      (sign = negative ∨ b.mantissa = 0) := by
  cases shown with
  | @other _ _ whole fraction _ digits near =>
    exact ⟨negative, whole, fraction, rfl, digits, near, .inl rfl⟩
  | @whole _ _ n value small =>
    have value_nonneg := b.value_nonneg
    have magnitude (k : Nat) (same : b.value = k) :
        Digits (Nat.toDigits 10 k) [] ∧ b.Nearest (spelled (Nat.toDigits 10 k) []) := by
      refine ⟨⟨Nat.toDigits_ne_nil, digits_toDigits k, nofun⟩, ?_⟩
      rw [spelled_toDigits, ← same]
      exact Binary.nearest_value canonical
    cases n with
    | ofNat k =>
      have whole : (k : ℚ) = (Int.ofNat k : Int) := rfl
      rw [← whole] at value
      have k_nonneg : (0 : ℚ) ≤ k := Nat.cast_nonneg k
      cases negative with
      | false =>
        have ⟨digits, near⟩ := magnitude k value
        exact ⟨false, _, [], toString_eq_spelling (Int.ofNat k), digits, near, .inl rfl⟩
      | true =>
        have zero : b.value = 0 := by
          rw [if_pos rfl] at value
          linarith
        have ⟨digits, near⟩ := magnitude k (by rw [if_pos rfl, zero] at value; linarith)
        exact ⟨false, _, [], toString_eq_spelling (Int.ofNat k), digits, near,
          .inr (Binary.value_eq_zero_iff.1 zero)⟩
    | negSucc k =>
      have whole : ((Int.negSucc k : Int) : ℚ) = -((k + 1 : Nat) : ℚ) := Int.cast_negSucc k
      have k_nonneg : (0 : ℚ) < (k + 1 : Nat) := Nat.cast_pos.2 (Nat.succ_pos k)
      rw [whole] at value
      cases negative with
      | false =>
        rw [if_neg Bool.false_ne_true] at value
        linarith
      | true =>
        rw [if_pos rfl] at value
        have ⟨digits, near⟩ := magnitude (k + 1) (by linarith)
        have text_eq := toString_eq_spelling (Int.negSucc k)
        rw [decide_eq_true (Int.negSucc_lt_zero k)] at text_eq
        exact ⟨true, _, [], text_eq, digits, near, .inl rfl⟩

/-- The word for what is no finite number. -/
def Decimal.Binary64.word? : Binary64 → Option String
  | .nan => some "NaN"
  | .infinite negative => some (if negative then "-inf" else "inf")
  | .finite _ _ => none

theorem Decimal.Binary64.word?_inj {v v' : Binary64} {word : String} (h : v.word? = some word)
    (h' : v'.word? = some word) : v = v' := by
  have same := h.trans h'.symm
  cases v with
  | finite => cases h
  | nan =>
    cases v' with
    | finite => cases h'
    | nan => rfl
    | infinite negative => cases negative <;> exact absurd same (by decide)
  | infinite negative =>
    cases v' with
    | finite => cases h'
    | nan => cases negative <;> exact absurd same (by decide)
    | infinite negative' =>
      cases negative <;> cases negative' <;> first | rfl | exact absurd same (by decide)

/-- What is no finite number is shown by its word. -/
theorem Shows.word {v : Binary64} {word : String} (shown : Shows v text)
    (told : v.word? = some word) : text = word := by
  cases shown <;> cases told <;> rfl

/-- What is written with digits is none of the words. -/
theorem Shows.not_word {v : Binary64} (shown : Shows (.finite negative b) text)
    (canonical : b.Canonical) : v.word? ≠ some text := by
  obtain ⟨sign, whole, fraction, rfl, digits, -⟩ := shown.spells canonical
  have other {c : Char} {word : String} (mem : c ∈ word.toList)
      (letter : ¬(c.isDigit = true ∨ c = '-' ∨ c = '.')) :
      some word ≠ some (String.ofList (spelling sign whole fraction)) := by
    intro same
    rw [Option.some.inj same, String.toList_ofList] at mem
    exact letter (mem_spelling digits c mem)
  cases v with
  | nan => exact other (c := 'N') (by decide) (by decide)
  | infinite negative => cases negative <;> exact other (c := 'i') (by decide) (by decide)
  | finite => exact nofun

/-- Finite numbers that are shown by one text are the same, up to the sign of zero. -/
theorem Shows.finite_unique {negative' : Bool} {b' : Binary} (canonical : b.Canonical)
    (canonical' : b'.Canonical) (shown : Shows (.finite negative b) text)
    (shown' : Shows (.finite negative' b') text) :
    b = b' ∧ (negative = negative' ∨ b.mantissa = 0) := by
  obtain ⟨sign, whole, fraction, rfl, digits, near, signed⟩ := shown.spells canonical
  obtain ⟨sign', whole', fraction', same, digits', near', signed'⟩ := shown'.spells canonical'
  obtain ⟨rfl, rfl, rfl⟩ := spelling_inj digits digits' (String.ofList_injective same)
  obtain rfl := near.unique canonical canonical' near'
  refine ⟨rfl, ?_⟩
  rcases signed with rfl | zero
  · exact signed'
  · exact .inr zero

/-- The text of a value tells the value, but not the sign of zero. -/
theorem Shows.unique {x y : Float} (shown : Shows (.ofFloat x) text)
    (shown' : Shows (.ofFloat y) text) :
    Binary64.ofFloat x = Binary64.ofFloat y ∨
      (Binary64.ofFloat x).isNonzero = false ∧ (Binary64.ofFloat y).isNonzero = false := by
  have canonical {z : Float} {negative : Bool} {b : Binary}
      (decoded : Binary64.ofFloat z = .finite negative b) : b.Canonical :=
    Binary.canonical_of_bits decoded
  have finite {v : Binary64} (none : v.word? = none) : ∃ negative b, v = .finite negative b := by
    cases v with
    | finite negative b => exact ⟨negative, b, rfl⟩
    | nan => cases none
    | infinite => cases none
  cases told : (Binary64.ofFloat x).word? with
  | some word =>
    obtain rfl := shown.word told
    cases told' : (Binary64.ofFloat y).word? with
    | some word' =>
      obtain rfl := shown'.word told'
      exact .inl (Binary64.word?_inj told told')
    | none =>
      obtain ⟨negative, b, decoded⟩ := finite told'
      rw [decoded] at shown'
      exact absurd told (shown'.not_word (canonical decoded))
  | none =>
    obtain ⟨negative, b, decoded⟩ := finite told
    rw [decoded] at shown
    cases told' : (Binary64.ofFloat y).word? with
    | some word' =>
      obtain rfl := shown'.word told'
      exact absurd told' (shown.not_word (canonical decoded))
    | none =>
      obtain ⟨negative', b', decoded'⟩ := finite told'
      rw [decoded'] at shown'
      obtain ⟨rfl, signs⟩ := shown.finite_unique (canonical decoded) (canonical decoded') shown'
      rw [decoded, decoded']
      rcases signs with rfl | zero
      · exact .inl rfl
      · rw [Binary64.isNonzero, Binary64.isNonzero, zero]
        exact .inr ⟨rfl, rfl⟩

/-- Both zeros have the text of the integer. -/
theorem formatValue_zero {x : Float} (zero : (Binary64.ofFloat x).isNonzero = false) :
    formatValue x = "0" := by
  cases decoded : Binary64.ofFloat x with
  | nan =>
    rw [decoded] at zero
    cases zero
  | infinite negative =>
    rw [decoded] at zero
    cases zero
  | finite negative b =>
    rw [decoded, Binary64.isNonzero, bne_eq_false_iff_eq] at zero
    have whole : b.whole? = some 0 := by
      rw [Binary.whole?_eq_some_iff, Nat.cast_zero]
      exact Binary.value_eq_zero_iff.2 zero
    unfold formatValue
    rw [decoded]
    dsimp only
    rw [whole]
    cases negative <;> rfl

end Told

/-- Different values have different texts, but for the two zeros. -/
theorem formatValue_eq_iff (x y : Float) :
    formatValue x = formatValue y ↔ Binary64.ofFloat x = Binary64.ofFloat y ∨
      (Binary64.ofFloat x).isNonzero = false ∧ (Binary64.ofFloat y).isNonzero = false := by
  constructor
  · intro same
    exact (same ▸ shows_formatValue x).unique (shows_formatValue y)
  · rintro (same | ⟨zero, zero'⟩)
    · unfold formatValue plainText
      rw [same]
    · rw [formatValue_zero zero, formatValue_zero zero']

end CounterSampling
