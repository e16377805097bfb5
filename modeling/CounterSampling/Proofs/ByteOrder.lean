import CounterSampling.Text.Utf8
import Mathlib.Data.String.Basic

/-!
# The order of texts and of their bytes

Texts are compared character by character. Their bytes in UTF-8 are in the same order, since a
greater character has greater bytes, whatever characters follow. Main statement: `bytesAscend`.
-/

namespace CounterSampling.Text.Utf8

/-- Lists of bytes are compared at the first place where they differ. -/
theorem ofNat_cons_lt_iff {m n : Nat} (first : m < 256) (second : n < 256) {x y : List UInt8} :
    UInt8.ofNat m :: x < UInt8.ofNat n :: y ↔ m < n ∨ m = n ∧ x < y := by
  have number {k : Nat} (byte : k < 256) : (UInt8.ofNat k).toNat = k :=
    UInt8.toNat_ofNat_of_lt byte
  rw [List.cons_lt_cons_iff, UInt8.lt_iff_toNat_lt, ← UInt8.toNat_inj, number first, number second]

/-- The bytes of a character come before those of a greater one, whatever follows. -/
theorem utf8EncodeChar_append_lt {c c' : Char} (less : c < c') (x y : List UInt8) :
    String.utf8EncodeChar c ++ x < String.utf8EncodeChar c' ++ y := by
  have below : c.val.toNat < c'.val.toNat := less
  have most : c'.val.toNat < 1114112 := by
    have valid := c'.valid
    unfold UInt32.isValidChar Nat.isValidChar at valid
    omega
  unfold String.utf8EncodeChar
  generalize c.val.toNat = v at below
  generalize c'.val.toNat = w at below most
  -- The bytes carry the digits of the number to the base 64, the first of which is the greatest.
  have digits (n : Nat) (most : n < 1114112) : n = 262144 * (n / 262144 % 8) +
      4096 * (n / 4096 % 64) + 64 * (n / 64 % 64) + n % 64 := by omega
  have v_eq := digits v (by omega)
  have w_eq := digits w most
  dsimp only
  split_ifs
  all_goals
    simp (disch := omega) only [List.cons_append, List.nil_append, ofNat_cons_lt_iff]
    omega

/-- The bytes of texts are in the order of the texts. -/
theorem encode_lt_encode {s t : String} (less : s < t) : encode s.toList < encode t.toList := by
  rw [String.lt_iff_toList_lt] at less
  generalize s.toList = cs at less
  generalize t.toList = cs' at less
  induction cs generalizing cs' with
  | nil =>
    cases cs' with
    | nil => exact absurd less (List.lt_irrefl _)
    | cons c' cs' =>
      cases encoded : encode (c' :: cs') with
      | nil =>
        have some := c'.utf8Size_pos
        have length := congrArg List.length encoded
        rw [encode, List.flatMap_cons, List.length_append, String.length_utf8EncodeChar,
          List.length_nil] at length
        omega
      | cons byte bytes => exact List.nil_lt_cons byte bytes
  | cons c cs ih =>
    cases cs' with
    | nil => exact absurd less (List.not_lt_nil _)
    | cons c' cs' =>
      simp only [encode, List.flatMap_cons]
      rcases List.cons_lt_cons_iff.1 less with first | ⟨rfl, later⟩
      · exact utf8EncodeChar_append_lt first _ _
      · exact List.append_left_lt (ih cs' later)

/-- Texts in strictly ascending order of their bytes. -/
def BytesAscend (texts : List String) : Prop :=
  texts.Pairwise fun s t => encode s.toList < encode t.toList

theorem bytesAscend {texts : List String} (ascend : texts.Pairwise (· < ·)) : BytesAscend texts :=
  ascend.imp encode_lt_encode

end CounterSampling.Text.Utf8
