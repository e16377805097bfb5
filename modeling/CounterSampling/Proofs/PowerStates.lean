import CounterSampling.PowerState
import CounterSampling.Proofs.Digits
import CounterSampling.Proofs.FileTrees

/-!
# What a guard leaves behind

Whatever happens to the cards while a guard holds their states: when it is left, the knob of every
card that it noted comes to say what was noted, if the knob is still a file that may be written, and
nothing else changes. Main statement: `guardedWhere_restores`.
-/

namespace CounterSampling

namespace PowerState

/-! Cards and their knobs. -/

theorem cardOf?_le {name : String} {card : Nat} (found : cardOf? name = some card) :
    card ≤ Word.maxHalf := by
  unfold cardOf? at found
  split at found
  · split at found
    · next read => exact Option.some.inj found ▸ Text.readUnsigned_le read
    · cases found
  · cases found

theorem toList_cardName (card : Nat) :
    ("card" ++ toString card).toList = 'c' :: 'a' :: 'r' :: 'd' :: Nat.toDigits 10 card := by
  have number : (toString card).toList = Nat.toDigits 10 card := by
    rw [Nat.toString_eq_ofList_toDigits, String.toList_ofList]
  rw [String.toList_append, number]
  rfl

/-- The directory of a card is named after it. -/
theorem cardOf?_cardName {card : Nat} (fits : card ≤ Word.maxHalf) :
    cardOf? ("card" ++ toString card) = some card := by
  simp only [cardOf?, toList_cardName, Text.readUnsigned_toDigits fits]

theorem knob_inj {card card' : Nat} (same : knob card = knob card') : card = card' := by
  have names := congrArg String.toList (List.cons.inj same).1
  rw [toList_cardName, toList_cardName] at names
  have digits : Nat.toDigits 10 card = Nat.toDigits 10 card' := by simpa using names
  rw [← Nat.ofDigitChars_ten_toDigits (n := card), digits, Nat.ofDigitChars_ten_toDigits]

theorem mem_cards_iff {drm : FileTree} {card : Nat} :
    card ∈ cards drm ↔ ∃ name ∈ drm.entries.map Prod.fst, cardOf? name = some card := by
  rw [cards, mem_distinct, List.mem_mergeSort, List.mem_filterMap]
  constructor
  · rintro ⟨e, mem, found⟩
    exact ⟨e.1, List.mem_map_of_mem mem, found⟩
  · rintro ⟨name, mem, found⟩
    obtain ⟨e, there, rfl⟩ := List.mem_map.1 mem
    exact ⟨e, there, found⟩

/-- A card whose knob is a file is among the cards. -/
theorem mem_cards_of_contentAt? {drm : FileTree} {card : Nat} {content : List UInt8}
    (fits : card ≤ Word.maxHalf) (stands : drm.contentAt? (knob card) = some content) :
    card ∈ cards drm := by
  obtain ⟨es, child, rfl, there, -⟩ :=
    FileTree.file_below (FileTree.contentAt?_eq_some_iff.1 stands)
  refine mem_cards_iff.2 ⟨_, ?_, cardOf?_cardName fits⟩
  refine Decidable.byContradiction fun absent => ?_
  rw [FileTree.entries] at absent
  rw [Table.lookup_eq_none_iff.2 absent] at there
  cases there

theorem lookup_states (drm : FileTree) (card : Nat) :
    Table.lookup card (states drm) = if card ∈ cards drm then stateOf? drm card else none :=
  Table.lookup_filterMap (stateOf? drm) card (cards drm)

/-- States are noted by ascending numbers. -/
theorem keys_states_sublist (drm : FileTree) :
    ((states drm).map Prod.fst).Sublist (cards drm) := by
  unfold states
  induction cards drm with
  | nil => exact .slnil
  | cons card cs ih =>
    cases state : stateOf? drm card with
    | none => simpa [state] using ih.cons card
    | some on => simpa [state] using ih.cons_cons card

theorem nodup_states (drm : FileTree) : ((states drm).map Prod.fst).Nodup :=
  (nodup_distinct _).sublist (keys_states_sublist drm)

/-- What is written for a state is read as the state. -/
theorem isEnabled?_line (on : Bool) : isEnabled? (line on) = some on := by
  cases on <;> decide

/-! Writing states back. -/

variable {writable : List String → Bool} {drm : FileTree}

/-- Whether the knob of a card is a file that may be written. -/
def canRestore (writable : List String → Bool) (drm : FileTree) (card : Nat) : Bool :=
  (drm.contentAt? (knob card)).isSome && writable (knob card)

theorem restoreCard_of_can {card : Nat} (can : canRestore writable drm card = true) (on : Bool) :
    ∃ content, drm.find? (knob card) = some (.file content) ∧
      restoreCard writable drm card on = FileTree.put (.file (line on)) (knob card) drm := by
  rw [canRestore, Bool.and_eq_true] at can
  obtain ⟨content, stands⟩ := Option.isSome_iff_exists.1 can.1
  refine ⟨content, FileTree.contentAt?_eq_some_iff.1 stands, ?_⟩
  rw [restoreCard, stands]
  exact if_pos can.2

theorem restoreCard_of_cannot {card : Nat} (cannot : ¬canRestore writable drm card = true)
    (on : Bool) : restoreCard writable drm card on = drm := by
  rw [restoreCard]
  cases stands : drm.contentAt? (knob card) with
  | none => rfl
  | some content =>
    refine if_neg fun may => cannot ?_
    rw [canRestore, stands, may]
    rfl

theorem contentAt?_restoreCard (card : Nat) (on : Bool) (path : List String) :
    (restoreCard writable drm card on).contentAt? path =
      if knob card = path ∧ canRestore writable drm card = true then some (line on)
      else drm.contentAt? path := by
  by_cases can : canRestore writable drm card = true
  · obtain ⟨content, stands, restored⟩ := restoreCard_of_can can on
    rw [restored, FileTree.contentAt?_put_file stands]
    simp only [can, and_true]
  · rw [restoreCard_of_cannot can, if_neg fun h => can h.2]

theorem kindAt?_restoreCard (card : Nat) (on : Bool) (path : List String) :
    (restoreCard writable drm card on).kindAt? path = drm.kindAt? path := by
  by_cases can : canRestore writable drm card = true
  · obtain ⟨content, stands, restored⟩ := restoreCard_of_can can on
    rw [restored]
    exact FileTree.kindAt?_put_file stands path
  · rw [restoreCard_of_cannot can]

/-! Writing back several states. -/

theorem kindAt?_restore (ss : List (Nat × Bool)) (path : List String) :
    (restore writable drm ss).kindAt? path = drm.kindAt? path := by
  induction ss generalizing drm with
  | nil => rfl
  | cons s ss ih => exact ih.trans (kindAt?_restoreCard s.1 s.2 path)

/-- What may be written back does not depend on what was written back before. -/
theorem canRestore_restoreCard (card other : Nat) (on : Bool) :
    canRestore writable (restoreCard writable drm other on) card =
      canRestore writable drm card := by
  have stands : ((restoreCard writable drm other on).contentAt? (knob card)).isSome =
      (drm.contentAt? (knob card)).isSome := by
    rw [contentAt?_restoreCard]
    split
    · next here =>
      have file := here.2
      rw [canRestore, Bool.and_eq_true, here.1] at file
      exact file.1.symm
    · rfl
  rw [canRestore, canRestore, stands]

/-- A place keeps its content if it is no knob that is written back. -/
theorem contentAt?_restore_other {ss : List (Nat × Bool)} {path : List String}
    (other : ∀ s ∈ ss, knob s.1 = path → ¬canRestore writable drm s.1 = true) :
    (restore writable drm ss).contentAt? path = drm.contentAt? path := by
  induction ss generalizing drm with
  | nil => rfl
  | cons s ss ih =>
    obtain ⟨first, later⟩ := List.forall_mem_cons.1 other
    refine (ih fun s' mem same => ?_).trans ?_
    · rw [canRestore_restoreCard]
      exact later s' mem same
    · rw [contentAt?_restoreCard, if_neg fun h => first h.1 h.2]

/-- A knob that is written back says the state. -/
theorem contentAt?_restore_knob {ss : List (Nat × Bool)} (distinct : (ss.map Prod.fst).Nodup)
    {card : Nat} {on : Bool} (mem : (card, on) ∈ ss)
    (can : canRestore writable drm card = true) :
    (restore writable drm ss).contentAt? (knob card) = some (line on) := by
  induction ss generalizing drm with
  | nil => cases mem
  | cons s ss ih =>
    obtain ⟨fresh, distinct⟩ := List.nodup_cons.1 distinct
    rcases List.mem_cons.1 mem with rfl | later
    · change (restore writable (restoreCard writable drm card on) ss).contentAt? _ = _
      refine (contentAt?_restore_other fun s' there same => ?_).trans ?_
      · exact absurd (List.mem_map.2 ⟨s', there, knob_inj same⟩) fresh
      · rw [contentAt?_restoreCard, if_pos ⟨rfl, can⟩]
    · exact ih distinct later ((canRestore_restoreCard card s.1 s.2).trans can)

/-! The guard. -/

theorem cards_restore (ss : List (Nat × Bool)) :
    ∀ card, card ∈ cards (restore writable drm ss) ↔ card ∈ cards drm := by
  intro card
  have entries : (restore writable drm ss).entries.map Prod.fst = drm.entries.map Prod.fst := by
    have kinds : some (restore writable drm ss).kind = some drm.kind := kindAt?_restore ss []
    have names (t : FileTree) : t.entries.map Prod.fst =
        match t.kind with
        | .directory names => names
        | _ => [] := by cases t <;> rfl
    rw [names, names, Option.some.inj kinds]
  rw [mem_cards_iff, mem_cards_iff, entries]

/-- The state of a card is noted under its number. -/
theorem mem_states_iff {card : Nat} {on : Bool} :
    (card, on) ∈ states drm ↔ Table.lookup card (states drm) = some on := by
  refine ⟨Table.lookup_of_mem (nodup_states drm), fun found => ?_⟩
  rw [lookup_states] at found
  split at found
  · next mem => exact List.mem_filterMap.2 ⟨card, mem, by rw [found]; rfl⟩
  · cases found

/-- A card whose state is known has a number that names it. -/
theorem le_of_lookup_states {card : Nat} {on : Bool}
    (known : Table.lookup card (states drm) = some on) : card ≤ Word.maxHalf := by
  rw [lookup_states] at known
  split at known
  · next mem =>
    obtain ⟨name, -, named⟩ := mem_cards_iff.1 mem
    exact cardOf?_le named
  · cases known

/-- When a guard is left, every knob that it noted the state of and that is still a file that may be
written says that state. No other file has new content, and nothing is new or of another kind. A
card has the state that was noted if that was written back, and else the one it had just before. -/
theorem guardedWhere_restores (writable : List String → Bool) (change : FileTree → FileTree)
    (before : FileTree) :
    let after := change before
    let captured := states before
    let restored := guardedWhere writable change before
    (∀ card on, (card, on) ∈ captured → canRestore writable after card = true →
      restored.contentAt? (knob card) =
        some (Text.Utf8.encode (if on then "enabled\n" else "disabled\n").toList)) ∧
      (∀ path, (∀ card on, (card, on) ∈ captured → canRestore writable after card = true →
        knob card ≠ path) → restored.contentAt? path = after.contentAt? path) ∧
      (∀ path, restored.kindAt? path = after.kindAt? path) ∧
      ∀ card, Table.lookup card (states restored) =
        if (Table.lookup card captured).isSome && canRestore writable after card then
          Table.lookup card captured
        else Table.lookup card (states after) := by
  intro after captured restored
  have written (card : Nat) (on : Bool) (noted : (card, on) ∈ captured)
      (can : canRestore writable after card = true) :
      restored.contentAt? (knob card) = some (line on) :=
    contentAt?_restore_knob (nodup_states before) noted can
  have keeps (path : List String) (other : ∀ card on, (card, on) ∈ captured →
      canRestore writable after card = true → knob card ≠ path) :
      restored.contentAt? path = after.contentAt? path :=
    contentAt?_restore_other fun s noted same can => other s.1 s.2 noted can same
  refine ⟨fun card on noted can => ?_, keeps, kindAt?_restore captured, fun card => ?_⟩
  · rw [written card on noted can]
    cases on <;> rfl
  · split
    · next restores =>
      obtain ⟨known, can⟩ := Bool.and_eq_true_iff.1 restores
      obtain ⟨on, noted⟩ := Option.isSome_iff_exists.1 known
      have content := written card on (mem_states_iff.2 noted) can
      have mem := mem_cards_of_contentAt? (le_of_lookup_states noted) content
      rw [noted, lookup_states, if_pos mem, stateOf?, content]
      exact isEnabled?_line on
    · next stays =>
      have same : restored.contentAt? (knob card) = after.contentAt? (knob card) := by
        refine keeps _ fun card' on noted can same => stays ?_
        rw [knob_inj same] at noted can
        rw [mem_states_iff.1 noted, can]
        rfl
      have known : card ∈ cards restored ↔ card ∈ cards after := cards_restore captured card
      rw [lookup_states, lookup_states, stateOf?, stateOf?, same]
      simp only [known]

end PowerState

end CounterSampling
