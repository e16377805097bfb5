import CounterSampling.Proofs.PowerStates.Reading

/-!
# A guard over nothing

If nothing happens to the cards while a guard holds their states, what it writes back is one of two
words: a knob that says enabled goes on saying so, and every other text is replaced by disabled. So
the first word of a knob is kept exactly if it is one of the two. Main statement:
`guardedWhere_untouched`.
-/

namespace CounterSampling.PowerState

variable {writable : List String → Bool} {drm : FileTree} {card : Nat}

/-- The first word that the knob of a card says, if it is a file with a text. -/
def word? (drm : FileTree) (card : Nat) : Option (List Char) :=
  ((drm.contentAt? (knob card)).bind Text.Utf8.decode?).map Text.firstWord

/-- The word that is written back for a knob that said this word. -/
def told (word : List Char) : List Char :=
  if word = enabledWord.toList then enabledWord.toList else disabledWord.toList

theorem word?_eq_some_iff {word : List Char} :
    word? drm card = some word ↔ ∃ text, HasText drm card text ∧ Text.firstWord text = word := by
  simp [word?, HasText, Option.bind_eq_some_iff, Text.Utf8.decode?_eq_some_iff]

/-- The states that are noted are told by words. -/
theorem mem_states_iff_word {on : Bool} :
    (card, on) ∈ states drm ↔ card ≤ Word.maxHalf ∧
      ∃ word, word? drm card = some word ∧ decide (word = enabledWord.toList) = on := by
  rw [mem_states_iff_text]
  refine and_congr_right fun _ => ?_
  constructor
  · rintro ⟨text, stands, rfl⟩
    exact ⟨_, word?_eq_some_iff.2 ⟨text, stands, rfl⟩, rfl⟩
  · rintro ⟨word, first, rfl⟩
    obtain ⟨text, stands, rfl⟩ := word?_eq_some_iff.1 first
    exact ⟨text, stands, rfl⟩

theorem word?_of_line {word : List Char}
    (written : drm.contentAt? (knob card) = some (line (decide (word = enabledWord.toList)))) :
    word? drm card = some (told word) := by
  rw [word?, written, told]
  by_cases enabled : word = enabledWord.toList
  · rw [decide_eq_true enabled, if_pos enabled]
    decide
  · rw [decide_eq_false enabled, if_neg enabled]
    decide

theorem told_eq_iff {word : List Char} :
    told word = word ↔ word = enabledWord.toList ∨ word = disabledWord.toList := by
  unfold told
  by_cases enabled : word = enabledWord.toList
  · simp [enabled]
  · simp [enabled, eq_comm]

/-- A knob that has a word and may be written says what is written back for the word. -/
theorem word?_guardedWhere_written {word : List Char} (fits : card ≤ Word.maxHalf)
    (may : writable (knob card) = true) (first : word? drm card = some word) :
    word? (guardedWhere writable id drm) card = some (told word) := by
  have noted := mem_states_iff_word.2 ⟨fits, word, first, rfl⟩
  obtain ⟨text, stands, -⟩ := word?_eq_some_iff.1 first
  have can : canRestore writable drm card = true := by
    unfold HasText at stands
    simp [canRestore, stands, may]
  exact word?_of_line (contentAt?_restore_knob (nodup_states drm) noted can)

/-- What is no knob with a word, or may not be written, keeps its content. -/
theorem contentAt?_guardedWhere_other {path : List String}
    (other : ∀ card ≤ Word.maxHalf, writable (knob card) = true → (word? drm card).isSome = true →
      knob card ≠ path) :
    (guardedWhere writable id drm).contentAt? path = drm.contentAt? path := by
  apply contentAt?_restore_other
  rintro ⟨card, on⟩ noted same can
  obtain ⟨fits, word, first, -⟩ := mem_states_iff_word.1 noted
  simp only [canRestore, Bool.and_eq_true] at can
  exact other card fits can.2 (Option.isSome_of_eq_some first) same

theorem word?_guardedWhere (writable : List String → Bool) (drm : FileTree) (card : Nat) :
    word? (guardedWhere writable id drm) card =
      if card ≤ Word.maxHalf ∧ writable (knob card) = true then (word? drm card).map told
      else word? drm card := by
  have keeps (left : ¬(card ≤ Word.maxHalf ∧ writable (knob card) = true) ∨ word? drm card = none) :
      word? (guardedWhere writable id drm) card = word? drm card := by
    have content : (guardedWhere writable id drm).contentAt? (knob card) =
        drm.contentAt? (knob card) := by
      apply contentAt?_guardedWhere_other
      intro card' fits may known same
      obtain rfl := knob_inj same
      rcases left with refused | wordless
      · exact refused ⟨fits, may⟩
      · rw [wordless] at known
        cases known
    rw [word?, content, word?]
  by_cases can : card ≤ Word.maxHalf ∧ writable (knob card) = true
  · rw [if_pos can]
    cases first : word? drm card with
    | none => exact (keeps (.inr first)).trans first
    | some word => exact word?_guardedWhere_written can.1 can.2 first
  · rw [if_neg can]
    exact keeps (.inl can)

/-- A guard over nothing has every knob of a card that has a word and may be written say enabled if
it did so before, and disabled otherwise. So a word is kept exactly if nothing is written in its
place or if it is one of these two. Any other place keeps its content, and everything its kind. -/
theorem guardedWhere_untouched (writable : List String → Bool) (drm : FileTree) :
    let restored := guardedWhere writable id drm
    (∀ card, word? restored card =
      if card ≤ Word.maxHalf ∧ writable (knob card) = true then (word? drm card).map told
      else word? drm card) ∧
    (∀ card, word? restored card = word? drm card ↔
      (card ≤ Word.maxHalf → writable (knob card) = true → ∀ word, word? drm card = some word →
        word = enabledWord.toList ∨ word = disabledWord.toList)) ∧
    (∀ path, (∀ card ≤ Word.maxHalf, writable (knob card) = true →
        (word? drm card).isSome = true → knob card ≠ path) →
      restored.contentAt? path = drm.contentAt? path) ∧
    ∀ path, restored.kindAt? path = drm.kindAt? path := by
  intro restored
  refine ⟨word?_guardedWhere writable drm, fun card => ?_,
    fun path => contentAt?_guardedWhere_other, kindAt?_restore (states drm)⟩
  rw [word?_guardedWhere]
  by_cases can : card ≤ Word.maxHalf ∧ writable (knob card) = true
  · rw [if_pos can]
    cases word? drm card with
    | none => simp
    | some word => simp [can.1, can.2, told_eq_iff]
  · rw [if_neg can]
    simp only [true_iff]
    intro fits may
    exact absurd ⟨fits, may⟩ can

/-- A card whose knob has this content. -/
def oneCard (content : String) : FileTree :=
  .directory [("card0", withKnob content)]

/-- A knob that says something else, or nothing, is made to say disabled. -/
theorem guarded_other_words :
    (word? (oneCard "auto\n") 0 = some "auto".toList ∧
      word? (guarded id (oneCard "auto\n")) 0 = some "disabled".toList) ∧
    word? (oneCard "") 0 = some [] ∧
      word? (guarded id (oneCard "")) 0 = some "disabled".toList := by
  have other : word? (oneCard "auto\n") 0 = some "auto".toList := rfl
  have none : word? (oneCard "") 0 = some [] := rfl
  refine ⟨⟨other, ?_⟩, none, ?_⟩
  · rw [guarded, word?_guardedWhere, if_pos ⟨Nat.zero_le _, rfl⟩, other]
    rfl
  · rw [guarded, word?_guardedWhere, if_pos ⟨Nat.zero_le _, rfl⟩, none]
    rfl

end CounterSampling.PowerState
