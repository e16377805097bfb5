import CounterSampling.Proofs.Encoding
import CounterSampling.Proofs.PowerStates
import Mathlib

/-!
# Where states are read

A card has a state if its knob is a file with a text, and then the first word of the text tells it.
Only the directory that the card is named after leads to the knob, so other entries make no
difference, also those that are read as the number of the card, such as `card007` for the card 7.
Entries can be listed in any order. Main statement: `states_by_knob`.
-/

namespace CounterSampling.PowerState

variable {drm drm' : FileTree} {card : Nat} {on : Bool}

/-- The directory of a card. -/
def cardName (card : Nat) : String := "card" ++ toString card

/-- The knob of a card is a file with this text. -/
def HasText (drm : FileTree) (card : Nat) (text : List Char) : Prop :=
  drm.contentAt? (knob card) = some (Text.Utf8.encode text)

/-! ## States of knobs -/

theorem stateOf?_eq_some_iff :
    stateOf? drm card = some on ↔
      ∃ text, HasText drm card text ∧ decide (Text.firstWord text = enabledWord.toList) = on := by
  unfold stateOf? HasText
  cases drm.contentAt? (knob card) with
  | none => simp
  | some content =>
    simp only [isEnabled?, Option.map_eq_some_iff, Text.Utf8.decode?_eq_some_iff, Option.some_inj]

/-- A card has the state that its knob tells. -/
theorem mem_states_iff_text :
    (card, on) ∈ states drm ↔ card ≤ Word.maxHalf ∧
      ∃ text, HasText drm card text ∧ decide (Text.firstWord text = enabledWord.toList) = on := by
  rw [mem_states_iff, ← stateOf?_eq_some_iff]
  constructor
  · intro known
    have fits := le_of_lookup_states known
    rw [lookup_states] at known
    split at known
    · exact ⟨fits, known⟩
    · cases known
  · rintro ⟨fits, state⟩
    obtain ⟨text, stands, -⟩ := stateOf?_eq_some_iff.1 state
    rw [lookup_states, if_pos (mem_cards_of_contentAt? fits stands), state]

/-! ## The order of states -/

theorem sorted_mergeSort {α : Type} (key : α → Nat) (as : List α) :
    (as.mergeSort fun a b => decide (key a ≤ key b)).Pairwise fun a b => key a ≤ key b := by
  have transitive : ∀ a b c : α, decide (key a ≤ key b) = true → decide (key b ≤ key c) = true →
      decide (key a ≤ key c) = true := by
    intro a b c first second
    simp only [decide_eq_true_eq] at first second ⊢
    exact Nat.le_trans first second
  have total : ∀ a b : α, (decide (key a ≤ key b) || decide (key b ≤ key a)) = true := by
    intro a b
    simpa using Nat.le_total (key a) (key b)
  exact (List.pairwise_mergeSort transitive total as).imp of_decide_eq_true

/-- What is in order by keys of which none is repeated is in strict order. -/
theorem ascend_of_distinct {α : Type} (key : α → Nat) {as : List α}
    (sorted : as.Pairwise fun a b => key a ≤ key b) (distinct : (as.map key).Nodup) :
    as.Pairwise fun a b => key a < key b := by
  have apart : as.Pairwise fun a b => key a ≠ key b := List.pairwise_map.1 distinct
  refine (sorted.and apart).imp ?_
  rintro a b ⟨le, ne⟩
  exact Nat.lt_of_le_of_ne le ne

theorem cards_ascend (drm : FileTree) : (cards drm).Pairwise (· < ·) := by
  have sorted : (cards drm).Pairwise (· ≤ ·) :=
    (sorted_mergeSort id _).sublist (distinct_sublist _)
  apply ascend_of_distinct id sorted
  rw [List.map_id]
  exact nodup_distinct _

theorem states_ascend (drm : FileTree) : (states drm).Pairwise fun s t => s.1 < t.1 :=
  List.pairwise_map.1 ((cards_ascend drm).sublist (keys_states_sublist drm))

/-- Lists in ascending order that say the same of every card are the same. -/
theorem eq_of_ascend {ss ss' : List (Nat × Bool)} (ascend : ss.Pairwise fun s t => s.1 < t.1)
    (ascend' : ss'.Pairwise fun s t => s.1 < t.1) (same : ∀ s, s ∈ ss ↔ s ∈ ss') : ss = ss' := by
  have nodup {ss : List (Nat × Bool)} (ascend : ss.Pairwise fun s t => s.1 < t.1) :
      ss.Nodup := by
    apply ascend.imp
    rintro s t less rfl
    exact Nat.lt_irrefl _ less
  have perm : ss.Perm ss' := (List.perm_ext_iff_of_nodup (nodup ascend) (nodup ascend')).2 same
  refine perm.eq_of_pairwise ?_ ascend ascend'
  intro s t _ _ less greater
  exact absurd (Nat.lt_trans less greater) (Nat.lt_irrefl _)

/-! ## Other entries -/

/-- What stands at a knob depends on the entry of the directory that the card is named after. -/
theorem contentAt?_knob_congr
    (same : Table.lookup (cardName card) drm'.entries = Table.lookup (cardName card) drm.entries) :
    drm'.contentAt? (knob card) = drm.contentAt? (knob card) := by
  have entry (t : FileTree) : t.find? (knob card) =
      (Table.lookup (cardName card) t.entries).bind fun child =>
        child.find? ["device", "ptl", "ptl_enable"] :=
    t.find?_cons _ _
  unfold FileTree.contentAt?
  rw [entry, entry, same]

/-- Other entries make no difference. -/
theorem states_congr (same : ∀ card ≤ Word.maxHalf,
      Table.lookup (cardName card) drm'.entries = Table.lookup (cardName card) drm.entries) :
    states drm' = states drm := by
  apply eq_of_ascend (states_ascend drm') (states_ascend drm)
  rintro ⟨card, on⟩
  simp only [mem_states_iff_text, HasText]
  refine and_congr_right fun fits => ?_
  rw [contentAt?_knob_congr (same card fits)]

/-! ## Reading entry by entry -/

/-- Note the state of the card that an entry of a listing is named after, if it has one. The name of
an entry need not be a text. -/
def note (drm : FileTree) (noted : Table Nat Bool) (entry : Option String) : Table Nat Bool :=
  match entry.bind cardOf? with
  | some card =>
    match stateOf? drm card with
    | some on => noted.insert card on
    | none => noted
  | none => noted

/-- The states that are noted along a listing. -/
def noteAll (drm : FileTree) (listing : List (Option String)) : Table Nat Bool :=
  listing.foldl (note drm) .empty

/-- An entry has the state of its card noted and leaves all others as they are. -/
theorem find?_note (noted : Table Nat Bool) (entry : Option String) (card : Nat) :
    (note drm noted entry).find? card =
      (if entry.bind cardOf? = some card then stateOf? drm card else none).or
        (noted.find? card) := by
  unfold note
  cases named : entry.bind cardOf? with
  | none => simp
  | some card' =>
    by_cases same : card' = card
    · subst same
      cases state : stateOf? drm card' with
      | none => simp [state]
      | some on => simp [state]
    · cases state : stateOf? drm card' with
      | none => simp [state, same]
      | some on => simp [state, same]

/-- A listing has the states of all cards noted that some entry is named after. -/
theorem find?_foldl_note (listing : List (Option String)) (noted : Table Nat Bool) (card : Nat) :
    (listing.foldl (note drm) noted).find? card =
      (if ∃ entry ∈ listing, entry.bind cardOf? = some card then stateOf? drm card else none).or
        (noted.find? card) := by
  induction listing generalizing noted with
  | nil => simp
  | cons entry listing ih =>
    rw [List.foldl_cons, ih, find?_note]
    by_cases here : entry.bind cardOf? = some card
    · by_cases later : ∃ entry ∈ listing, entry.bind cardOf? = some card
      · simp [here, later, ← Option.or_assoc]
      · simp [here, later]
    · simp [here]

/-- The states that were noted, by ascending numbers. -/
def inOrder (noted : Table Nat Bool) : List (Nat × Bool) :=
  noted.entries.mergeSort fun s t => decide (s.1 ≤ t.1)

theorem inOrder_ascend (noted : Table Nat Bool) :
    (inOrder noted).Pairwise fun s t => s.1 < t.1 := by
  apply ascend_of_distinct Prod.fst (sorted_mergeSort Prod.fst _)
  have perm := (List.mergeSort_perm noted.entries fun s t => decide (s.1 ≤ t.1)).map Prod.fst
  exact perm.nodup_iff.2 noted.nodup

theorem mem_inOrder_iff {noted : Table Nat Bool} :
    (card, on) ∈ inOrder noted ↔ noted.find? card = some on := by
  rw [inOrder, List.mem_mergeSort]
  exact ⟨Table.lookup_of_mem noted.nodup, Table.mem_of_lookup⟩

/-- A listing of a directory has all its entries, in any order. What else it has is no text. -/
def Lists (drm : FileTree) (listing : List (Option String)) : Prop :=
  ∀ name, some name ∈ listing ↔ name ∈ drm.entries.map Prod.fst

theorem Lists.named_iff {listing : List (Option String)} (lists : Lists drm listing) :
    (∃ entry ∈ listing, entry.bind cardOf? = some card) ↔ card ∈ cards drm := by
  rw [mem_cards_iff]
  constructor
  · rintro ⟨entry, mem, named⟩
    obtain ⟨name, rfl, found⟩ := Option.bind_eq_some_iff.1 named
    exact ⟨name, (lists name).1 mem, found⟩
  · rintro ⟨name, mem, found⟩
    exact ⟨some name, (lists name).2 mem, found⟩

/-- In whatever order the entries are listed, reading them gives the states. -/
theorem Lists.inOrder_noteAll {listing : List (Option String)} (lists : Lists drm listing) :
    inOrder (noteAll drm listing) = states drm := by
  apply eq_of_ascend (inOrder_ascend _) (states_ascend drm)
  rintro ⟨card, on⟩
  rw [mem_inOrder_iff, mem_states_iff, lookup_states, noteAll, find?_foldl_note]
  simp [lists.named_iff]

/-- The states are those of the knobs that are files with a text: a card within the range of numbers
has the state that the first word of its knob tells. They are in ascending order. No other entry
than those that cards are named after makes a difference, and neither does the order in which the
entries are read. -/
theorem states_by_knob (drm : FileTree) :
    (∀ card on, (card, on) ∈ states drm ↔ card ≤ Word.maxHalf ∧
      ∃ text, drm.contentAt? (knob card) = some (Text.Utf8.encode text) ∧
        decide (Text.firstWord text = enabledWord.toList) = on) ∧
    ((states drm).Pairwise fun s t => s.1 < t.1) ∧
    (∀ drm', (∀ card ≤ Word.maxHalf,
        Table.lookup (cardName card) drm'.entries = Table.lookup (cardName card) drm.entries) →
      states drm' = states drm) ∧
    ∀ listing, Lists drm listing → inOrder (noteAll drm listing) = states drm :=
  ⟨fun _ _ => mem_states_iff_text, states_ascend drm, fun _ => states_congr,
    fun _ lists => lists.inOrder_noteAll⟩

/-- A name that stands for no card, or is not how its card is named, names no directory of a
card. -/
theorem cardName_ne {name : String} (other : (cardOf? name).map cardName ≠ some name)
    (fits : card ≤ Word.maxHalf) : cardName card ≠ name := by
  rintro rfl
  apply other
  rw [cardName, cardOf?_cardName fits]
  rfl

/-- A directory with a knob below it. -/
def withKnob (content : String) : FileTree :=
  .directory [("device", .directory [("ptl", .directory
    [("ptl_enable", .file (Text.Utf8.encode content.toList))])])]

/-- Beside two cards there are entries that are read as the number of one of them, of none, or of
none that fits. The directory is listed backwards, with an entry whose name is no text. -/
theorem states_by_knob_crowded :
    let cards := [("card1", withKnob "\tenabled now\n"), ("card7", withKnob "disabled\n")]
    let others := ["card007", "card+7", "card0-DP-1", "card4294967296"].map fun name =>
      (name, withKnob "enabled\n")
    let drm := FileTree.directory (others ++ cards)
    let listing := none :: (drm.entries.map fun e => some e.1).reverse
    (∀ card ≤ Word.maxHalf,
        Table.lookup (cardName card) drm.entries = Table.lookup (cardName card) cards) ∧
      Lists drm listing ∧ states drm = [(1, true), (7, false)] ∧
      inOrder (noteAll drm listing) = [(1, true), (7, false)] := by
  intro cards others drm listing
  obtain ⟨-, -, same, -⟩ := states_by_knob (.directory cards)
  obtain ⟨-, -, -, inAnyOrder⟩ := states_by_knob drm
  have lookups : ∀ card ≤ Word.maxHalf,
      Table.lookup (cardName card) drm.entries = Table.lookup (cardName card) cards := by
    intro card fits
    have strange : (others.all fun e => (cardOf? e.1).map cardName != some e.1) = true := by cbv
    have ne : ∀ e ∈ others, e.1 ≠ cardName card := by
      intro e mem
      have other := List.all_eq_true.1 strange e mem
      exact (cardName_ne (bne_iff_ne.1 other) fits).symm
    exact Table.lookup_append_of_ne ne cards
  have lists : Lists drm listing := by
    intro name
    simp [listing]
  have told : states (.directory cards) = [(1, true), (7, false)] := by cbv
  exact ⟨lookups, lists, (same drm lookups).trans told,
    (inAnyOrder listing lists).trans ((same drm lookups).trans told)⟩

end CounterSampling.PowerState
