import CounterSampling.Text.Utf8
import Mathlib.Data.List.Forall2
import Mathlib.Data.String.Basic
import Mathlib.Tactic.IntervalCases

/-!
# Texts and their bytes

The machine that reads bytes takes them for a text exactly if they are its encoding. A character
under way is finished by the bytes that it owes, so what is read is cut into sequences, each of a
first byte and those that it owes; and these are the encodings of characters: a character is encoded
as the one sequence that makes it. Main statement: `decode?_eq_some_iff`.
-/

namespace CounterSampling.Text.Utf8

/-- Bytes that pay what is owed, each within its bounds. -/
def Pays (tail : List UInt8) (owed : List Bounds) : Prop :=
  List.Forall₂ (fun b bounds => bounds.low ≤ b ∧ b ≤ bounds.high) tail owed

/-- The value of the bits with those of one more byte. -/
def push (value : Nat) (b : UInt8) : Nat := value * 64 + (b.toNat - 0x80)

/-- The bytes of a character: a first byte and those that it owes. -/
def Sequence (bytes : List UInt8) (c : Char) : Prop :=
  ∃ b tail p, bytes = b :: tail ∧ start? b = some p ∧ Pays tail p.owed ∧
    c = Char.ofNat (tail.foldl push p.value)

/-! ## The machine -/

theorem partsFrom_cons (p : Option Partial) (b : UInt8) (bs : List UInt8) :
    partsFrom p (b :: bs) = (step p b).2 ++ partsFrom (step p b).1 bs := by
  cases p <;> rfl

theorem step_within {value : Nat} {next : Bounds} {b : UInt8} (within : next.low ≤ b ∧ b ≤ next.high)
    (owed : List Bounds) : step (some ⟨value, next :: owed⟩) b = settle ⟨push value b, owed⟩ := by
  unfold step push
  dsimp only
  rw [if_pos within]

/-- Bytes that pay what is owed finish the character. -/
theorem partsFrom_pays {tail : List UInt8} {owed : List Bounds} (pays : Pays tail owed)
    (owes : owed ≠ []) (value : Nat) (bs : List UInt8) :
    partsFrom (some ⟨value, owed⟩) (tail ++ bs) =
      some (Char.ofNat (tail.foldl push value)) :: partsFrom none bs := by
  induction pays generalizing value with
  | nil => exact absurd rfl owes
  | @cons b next tail later within pays ih =>
    rw [List.cons_append, partsFrom_cons, step_within within, List.foldl_cons]
    cases pays with
    | nil => rfl
    | cons within' pays' => exact ih (List.cons_ne_nil _ _) (push value b)

theorem partsFrom_sequence {bytes : List UInt8} {c : Char} (sequence : Sequence bytes c)
    (bs : List UInt8) : partsFrom none (bytes ++ bs) = some c :: partsFrom none bs := by
  obtain ⟨b, tail, ⟨value, owed⟩, rfl, started, pays, rfl⟩ := sequence
  rw [List.cons_append, partsFrom_cons]
  simp only [step, first, started]
  cases pays with
  | nil => rfl
  | cons within pays => exact partsFrom_pays (.cons within pays) (List.cons_ne_nil _ _) value bs

/-- What is read after a character under way was owed by it. -/
theorem of_partsFrom_some {value : Nat} {owed : List Bounds} (owes : owed ≠ []) {bs : List UInt8}
    {cs : List Char} (read : (partsFrom (some ⟨value, owed⟩) bs).mapM id = some cs) :
    ∃ tail later cs', bs = tail ++ later ∧ Pays tail owed ∧
      cs = Char.ofNat (tail.foldl push value) :: cs' ∧ decode? later = some cs' := by
  induction bs generalizing value owed with
  | nil => cases read
  | cons b bs ih =>
    rw [partsFrom_cons] at read
    cases owed with
    | nil => exact absurd rfl owes
    | cons next owed =>
      by_cases within : next.low ≤ b ∧ b ≤ next.high
      · rw [step_within within] at read
        cases owed with
        | nil =>
          obtain ⟨cs', later, rfl⟩ : ∃ cs', decode? bs = some cs' ∧
              Char.ofNat (push value b) :: cs' = cs := by
            simpa [settle, decode?, Option.bind_eq_some_iff] using read
          exact ⟨[b], bs, cs', rfl, .cons within .nil, rfl, later⟩
        | cons next' owed =>
          simp only [settle, List.nil_append] at read
          obtain ⟨tail, later, cs', rfl, pays, rfl, rest⟩ := ih (List.cons_ne_nil _ _) read
          exact ⟨b :: tail, later, cs', rfl, .cons within pays, by rw [List.foldl_cons], rest⟩
      · simp [step, if_neg within] at read

/-- What is read starts with the bytes of a character. -/
theorem of_decode? {b : UInt8} {bs : List UInt8} {cs : List Char}
    (read : decode? (b :: bs) = some cs) :
    ∃ bytes later c cs', b :: bs = bytes ++ later ∧ Sequence bytes c ∧ cs = c :: cs' ∧
      decode? later = some cs' := by
  rw [decode?, partsFrom_cons] at read
  simp only [step, first] at read
  cases started : start? b with
  | none => simp [started] at read
  | some p =>
    obtain ⟨value, owed⟩ := p
    rw [started] at read
    cases owed with
    | nil =>
      obtain ⟨cs', later, rfl⟩ : ∃ cs', decode? bs = some cs' ∧ Char.ofNat value :: cs' = cs := by
        simpa [settle, decode?, Option.bind_eq_some_iff] using read
      exact ⟨[b], bs, _, cs', rfl, ⟨b, [], _, rfl, started, .nil, rfl⟩, rfl, later⟩
    | cons next owed =>
      obtain ⟨tail, later, cs', rfl, pays, rfl, rest⟩ :=
        of_partsFrom_some (List.cons_ne_nil _ _) read
      exact ⟨b :: tail, later, _, cs', rfl, ⟨b, tail, _, rfl, started, pays, rfl⟩, rfl, rest⟩

/-! ## Characters -/

/-- First bytes by their numbers, and what they start: the top bits of the value, and the bytes that
are owed. The bounds of the second byte keep out characters that take fewer bytes, surrogates, and
what lies beyond the last character. -/
inductive Lead : Nat → Partial → Prop where
  | one (top : Nat) (low : top < 128) : Lead top ⟨top, []⟩
  | two (top : Nat) (needed : 2 ≤ top) (low : top < 32) : Lead (top + 192) ⟨top, [tail]⟩
  | three (top : Nat) (low : top < 16) :
    Lead (top + 224)
      ⟨top, [⟨if top = 0 then 0xA0 else 0x80, if top = 13 then 0x9F else 0xBF⟩, tail]⟩
  | four (top : Nat) (low : top < 5) :
    Lead (top + 240)
      ⟨top, [⟨if top = 0 then 0x90 else 0x80, if top = 4 then 0x8F else 0xBF⟩, tail, tail]⟩

theorem start?_eq_some_iff {b : UInt8} {p : Partial} : start? b = some p ↔ Lead b.toNat p := by
  have byte := b.toNat_lt
  simp only [start?, UInt8.le_iff_toNat_le, UInt8.lt_iff_toNat_lt, ← UInt8.toNat_inj,
    UInt8.reduceToNat]
  generalize b.toNat = n at byte ⊢
  constructor
  · intro started
    split_ifs at started with h₁ h₂ h₃ h₄ h₅ h₆ h₇ h₈ h₉
    all_goals obtain rfl := Option.some.inj started
    · exact .one n (by omega)
    · have lead := Lead.two (n - 192) (by omega) (by omega)
      rwa [Nat.sub_add_cancel (by omega)] at lead
    · subst h₄
      exact .three 0 (by omega)
    · subst h₅
      exact .three 13 (by omega)
    · have lead := Lead.three (n - 224) (by omega)
      rwa [Nat.sub_add_cancel (by omega), if_neg (by omega), if_neg (by omega)] at lead
    · subst h₇
      exact .four 0 (by omega)
    · have lead := Lead.four (n - 240) (by omega)
      rwa [Nat.sub_add_cancel (by omega), if_neg (by omega), if_neg (by omega)] at lead
    · subst h₉
      exact .four 4 (by omega)
  · intro lead
    cases lead with
    | one top low => rw [if_pos (by omega)]
    | two top needed low =>
      rw [if_neg (by omega), if_neg (by omega), if_pos (by omega), Nat.add_sub_cancel]
    | three top low => interval_cases top <;> rfl
    | four top low => interval_cases top <;> rfl

theorem within_tail_iff {b : UInt8} :
    tail.low ≤ b ∧ b ≤ tail.high ↔ 128 ≤ b.toNat ∧ b.toNat < 192 := by
  simp only [tail, UInt8.le_iff_toNat_le, UInt8.reduceToNat]
  omega

theorem within_three_iff {top : Nat} {b : UInt8} :
    ((if top = 0 then 0xA0 else 0x80) ≤ b ∧ b ≤ if top = 13 then 0x9F else 0xBF) ↔
      128 ≤ b.toNat ∧ b.toNat < 192 ∧ (top = 0 → 160 ≤ b.toNat) ∧
        (top = 13 → b.toNat < 160) := by
  split_ifs <;> simp only [UInt8.le_iff_toNat_le, UInt8.reduceToNat] <;> omega

theorem within_four_iff {top : Nat} {b : UInt8} :
    ((if top = 0 then 0x90 else 0x80) ≤ b ∧ b ≤ if top = 4 then 0x8F else 0xBF) ↔
      128 ≤ b.toNat ∧ b.toNat < 192 ∧ (top = 0 → 144 ≤ b.toNat) ∧
        (top = 4 → b.toNat < 144) := by
  split_ifs <;> simp only [UInt8.le_iff_toNat_le, UInt8.reduceToNat] <;> omega

/-- A byte that is owed carries six bits. -/
theorem toNat_carrier {m : Nat} (digit : m < 64) : (UInt8.ofNat (m + 128)).toNat = m + 128 :=
  UInt8.toNat_ofNat_of_lt (show m + 128 < 256 by omega)

theorem push_carrier (value : Nat) {m : Nat} (digit : m < 64) :
    push value (UInt8.ofNat (m + 128)) = value * 64 + m := by
  unfold push
  rw [toNat_carrier digit]
  omega

theorem within_tail_carrier {m : Nat} (digit : m < 64) :
    tail.low ≤ UInt8.ofNat (m + 128) ∧ UInt8.ofNat (m + 128) ≤ tail.high := by
  rw [within_tail_iff, toNat_carrier digit]
  omega

theorem sequence_of_lead {n v : Nat} {p : Partial} (lead : Lead n p) (byte : n < 256)
    {tail : List UInt8} (pays : Pays tail p.owed) (value : tail.foldl push p.value = v) :
    Sequence (UInt8.ofNat n :: tail) (Char.ofNat v) := by
  refine ⟨_, tail, p, rfl, ?_, pays, congrArg Char.ofNat value.symm⟩
  have number : (UInt8.ofNat n).toNat = n := UInt8.toNat_ofNat_of_lt byte
  rw [start?_eq_some_iff, number]
  exact lead

/-- A character is encoded as a sequence that makes it. -/
theorem sequence_utf8EncodeChar (c : Char) : Sequence (String.utf8EncodeChar c) c := by
  have valid : c.val.toNat.isValidChar := c.valid
  have same : c = Char.ofNat c.val.toNat := (Char.ofNat_toNat c).symm
  unfold String.utf8EncodeChar
  generalize c.val.toNat = v at valid same ⊢
  subst same
  unfold Nat.isValidChar at valid
  have d₀ : v % 64 < 64 := by omega
  have d₁ : v / 64 % 64 < 64 := by omega
  have d₂ : v / 4096 % 64 < 64 := by omega
  have last := within_tail_carrier d₀
  dsimp only
  split_ifs with one two three
  · exact sequence_of_lead (.one v (by omega)) (by omega) .nil rfl
  · refine sequence_of_lead (.two (v / 64 % 32) (by omega) (by omega)) (by omega)
      (.cons last .nil) ?_
    simp only [List.foldl_cons, List.foldl_nil, push_carrier _ d₀]
    omega
  · refine sequence_of_lead (.three (v / 4096 % 16) (by omega)) (by omega)
      (.cons (within_three_iff.2 ?_) (.cons last .nil)) ?_
    · rw [toNat_carrier d₁]
      omega
    · simp only [List.foldl_cons, List.foldl_nil, push_carrier _ d₀, push_carrier _ d₁]
      omega
  · refine sequence_of_lead (.four (v / 262144 % 8) (by omega)) (by omega)
      (.cons (within_four_iff.2 ?_) (.cons (within_tail_carrier d₁) (.cons last .nil))) ?_
    · rw [toNat_carrier d₂]
      omega
    · simp only [List.foldl_cons, List.foldl_nil, push_carrier _ d₀, push_carrier _ d₁,
        push_carrier _ d₂]
      omega

theorem utf8EncodeChar_ofNat {v : Nat} (valid : v.isValidChar) : String.utf8EncodeChar (Char.ofNat v) =
    if v ≤ 0x7F then [UInt8.ofNat v]
    else if v ≤ 0x7FF then [UInt8.ofNat (v / 64 % 32 + 192), UInt8.ofNat (v % 64 + 128)]
    else if v ≤ 0xFFFF then
      [UInt8.ofNat (v / 4096 % 16 + 224), UInt8.ofNat (v / 64 % 64 + 128),
        UInt8.ofNat (v % 64 + 128)]
    else
      [UInt8.ofNat (v / 262144 % 8 + 240), UInt8.ofNat (v / 4096 % 64 + 128),
        UInt8.ofNat (v / 64 % 64 + 128), UInt8.ofNat (v % 64 + 128)] := by
  have number : (Char.ofNat v).val.toNat = v := by
    rw [Char.ofNat, dif_pos valid]
    rfl
  unfold String.utf8EncodeChar
  rw [number]

theorem ofNat_eq (b : UInt8) {m : Nat} (same : b.toNat = m) : UInt8.ofNat m = b := by
  rw [← same]
  exact UInt8.ofNat_toNat

/-- A sequence is how its character is encoded. -/
theorem Sequence.eq_utf8EncodeChar {bytes : List UInt8} {c : Char} (sequence : Sequence bytes c) :
    bytes = String.utf8EncodeChar c := by
  obtain ⟨b, tail, p, rfl, started, pays, rfl⟩ := sequence
  have lead := start?_eq_some_iff.1 started
  generalize number : b.toNat = n at lead
  symm
  cases lead with
  | one top low =>
    obtain rfl := List.forall₂_nil_right_iff.1 pays
    have valid : n.isValidChar := .inl (by omega)
    rw [List.foldl_nil, utf8EncodeChar_ofNat valid, if_pos (Nat.le_of_lt_succ low),
      ofNat_eq b number]
  | two top needed low =>
    obtain ⟨b₁, _, w₁, pays₁, rfl⟩ := List.forall₂_cons_right_iff.1 pays
    obtain rfl := List.forall₂_nil_right_iff.1 pays₁
    rw [within_tail_iff] at w₁
    simp only [List.foldl_cons, List.foldl_nil]
    have value : push top b₁ = top * 64 + (b₁.toNat - 128) := by unfold push; rfl
    generalize push top b₁ = v at value ⊢
    rw [utf8EncodeChar_ofNat (.inl (by omega)), if_neg (by omega), if_pos (by omega),
      ofNat_eq b (by omega), ofNat_eq b₁ (by omega)]
  | three top low =>
    obtain ⟨b₁, _, w₁, pays₁, rfl⟩ := List.forall₂_cons_right_iff.1 pays
    obtain ⟨b₂, _, w₂, pays₂, rfl⟩ := List.forall₂_cons_right_iff.1 pays₁
    obtain rfl := List.forall₂_nil_right_iff.1 pays₂
    rw [within_three_iff] at w₁
    rw [within_tail_iff] at w₂
    simp only [List.foldl_cons, List.foldl_nil]
    have value : push (push top b₁) b₂ =
        (top * 64 + (b₁.toNat - 128)) * 64 + (b₂.toNat - 128) := by unfold push; rfl
    generalize push (push top b₁) b₂ = v at value ⊢
    have valid : v.isValidChar := by
      unfold Nat.isValidChar
      omega
    rw [utf8EncodeChar_ofNat valid, if_neg (by omega), if_neg (by omega), if_pos (by omega),
      ofNat_eq b (by omega), ofNat_eq b₁ (by omega), ofNat_eq b₂ (by omega)]
  | four top low =>
    obtain ⟨b₁, _, w₁, pays₁, rfl⟩ := List.forall₂_cons_right_iff.1 pays
    obtain ⟨b₂, _, w₂, pays₂, rfl⟩ := List.forall₂_cons_right_iff.1 pays₁
    obtain ⟨b₃, _, w₃, pays₃, rfl⟩ := List.forall₂_cons_right_iff.1 pays₂
    obtain rfl := List.forall₂_nil_right_iff.1 pays₃
    rw [within_four_iff] at w₁
    rw [within_tail_iff] at w₂ w₃
    simp only [List.foldl_cons, List.foldl_nil]
    have value : push (push (push top b₁) b₂) b₃ = ((top * 64 + (b₁.toNat - 128)) * 64 +
        (b₂.toNat - 128)) * 64 + (b₃.toNat - 128) := by unfold push; rfl
    generalize push (push (push top b₁) b₂) b₃ = v at value ⊢
    have valid : v.isValidChar := by
      unfold Nat.isValidChar
      omega
    rw [utf8EncodeChar_ofNat valid, if_neg (by omega), if_neg (by omega), if_neg (by omega),
      ofNat_eq b (by omega), ofNat_eq b₁ (by omega), ofNat_eq b₂ (by omega),
      ofNat_eq b₃ (by omega)]

/-! ## Texts -/

/-- Bytes are read as a text exactly if they are its encoding. -/
theorem decode?_eq_some_iff {bs : List UInt8} {cs : List Char} :
    decode? bs = some cs ↔ bs = encode cs := by
  constructor
  · intro read
    induction cs generalizing bs with
    | nil =>
      cases bs with
      | nil => rfl
      | cons b bs =>
        obtain ⟨bytes, later, c, cs', -, -, same, -⟩ := of_decode? read
        cases same
    | cons c cs ih =>
      cases bs with
      | nil => cases read
      | cons b bs =>
        obtain ⟨bytes, later, c', cs', split, sequence, same, rest⟩ := of_decode? read
        obtain ⟨rfl, rfl⟩ := List.cons.inj same
        rw [split, sequence.eq_utf8EncodeChar, ih rest, encode, encode, List.flatMap_cons]
  · rintro rfl
    induction cs with
    | nil => rfl
    | cons c cs ih =>
      rw [encode, List.flatMap_cons, decode?, partsFrom_sequence (sequence_utf8EncodeChar c)]
      rw [decode?, encode] at ih
      simp [ih]

end CounterSampling.Text.Utf8
