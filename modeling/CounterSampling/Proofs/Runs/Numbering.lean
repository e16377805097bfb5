import CounterSampling.Proofs.Device.Views
import CounterSampling.Proofs.Runs.Turns
import Mathlib.Data.List.Nodup

/-!
# Numbers given out in turns

A device numbers configurations in the order in which they are created. When procedures take turns,
the numbers that one of them sees depend on what the others create in between; alone it would see
consecutive numbers. `Fits` relates the two numberings, and `Turns.fits` says that there is a
renaming that does and that leaves all older numbers alone.
-/

namespace CounterSampling

def Event.made? (e : Event) : Option ConfigId :=
  e.call.made? e.answer

namespace Procedure

/-- The configurations that were created, each with whose turn it was. -/
def madeIn (turns : List (Nat × Event)) : List (Nat × ConfigId) :=
  turns.filterMap fun t => t.2.made?.map fun config => (t.1, config)

/-- The configurations that one of the procedures created. -/
def madeBy (i : Nat) (turns : List (Nat × Event)) : List ConfigId :=
  (madeIn turns).filterMap fun m => if m.1 = i then some m.2 else none

theorem madeIn_cons (i : Nat) (e : Event) (turns : List (Nat × Event)) :
    madeIn ((i, e) :: turns) = (e.made?.map fun config => (i, config)).toList ++ madeIn turns := by
  unfold madeIn
  rw [List.filterMap_cons]
  cases e.made? <;> rfl

theorem madeBy_own (i : Nat) (e : Event) (turns : List (Nat × Event)) :
    madeBy i ((i, e) :: turns) = e.made?.toList ++ madeBy i turns := by
  unfold madeBy
  rw [madeIn_cons]
  cases e.made? <;> simp

theorem madeBy_other {i j : Nat} (other : j ≠ i) (e : Event) (turns : List (Nat × Event)) :
    madeBy i ((j, e) :: turns) = madeBy i turns := by
  unfold madeBy
  rw [madeIn_cons]
  cases e.made? <;> simp [other]

theorem mem_madeBy {i : Nat} {turns : List (Nat × Event)} {config : ConfigId} :
    config ∈ madeBy i turns ↔ (i, config) ∈ madeIn turns := by
  unfold madeBy
  rw [List.mem_filterMap]
  constructor
  · rintro ⟨⟨j, config'⟩, mem, found⟩
    split at found
    · next same =>
      obtain rfl : j = i := same
      obtain rfl := Option.some.inj found
      exact mem
    · cases found
  · intro mem
    exact ⟨(i, config), mem, if_pos rfl⟩

end Procedure

/-- What a call creates gets the next number, and no other call gives one out. -/
theorem Device.made?_answer (d : Device) (c : Call) (s : Device.State) :
    (c.made? (d.answer c s).1 = none ∧ (d.answer c s).2.nextConfig = s.nextConfig) ∨
      c.made? (d.answer c s).1 = some ⟨s.nextConfig⟩ ∧
        (d.answer c s).2.nextConfig = s.nextConfig + 1 := by
  cases spares : c.isConfigCall with
  | false =>
    obtain ⟨⟨-, next⟩, -⟩ := d.answer_sameConfigs spares s
    refine .inl ⟨?_, next⟩
    cases c with
    | tryConfigure agent ids => cases spares
    | _ => rfl
  | true =>
    cases c with
    | tryConfigure agent ids =>
      change (Call.made? (.tryConfigure agent ids) (d.configure agent ids s).1 = none ∧
          (d.configure agent ids s).2.nextConfig = s.nextConfig) ∨
        Call.made? (.tryConfigure agent ids) (d.configure agent ids s).1 = some ⟨s.nextConfig⟩ ∧
          (d.configure agent ids s).2.nextConfig = s.nextConfig + 1
      rcases d.configure_cases agent ids s with ⟨outcome, same, refused⟩ | created
      · rw [same]
        cases outcome with
        | configured config => exact absurd rfl (refused config)
        | capacityExceeded => exact .inl ⟨rfl, rfl⟩
        | failed e => exact .inl ⟨rfl, rfl⟩
      · rw [created]
        exact .inr ⟨rfl, rfl⟩
    | destroyConfig config =>
      refine .inl ⟨rfl, ?_⟩
      change (Device.destroyConfig config s).nextConfig = s.nextConfig
      unfold Device.destroyConfig
      split <;> rfl
    | _ => cases spares

namespace Procedure

variable {α β : Type} {d : Device} {ps : List (Procedure α)} {s s' : Device.State}
  {turns : List (Nat × Event)} {results : List α}

theorem Turns.next_le (h : Turns d.backend ps s turns results s') :
    s.nextConfig ≤ s'.nextConfig := by
  induction h with
  | ended results s => exact Nat.le_refl _
  | @turn ps s s' turns results i c next there rest ih =>
    exact Nat.le_trans (d.answer_changes c s).1.next_le ih

/-- What is created in turns has new numbers, no two of them the same. -/
theorem Turns.made_numbers (h : Turns d.backend ps s turns results s') :
    (∀ m ∈ madeIn turns, s.nextConfig ≤ m.2.val ∧ m.2.val < s'.nextConfig) ∧
      ((madeIn turns).map Prod.snd).Nodup := by
  induction h with
  | ended results s => exact ⟨nofun, List.nodup_nil⟩
  | @turn ps s s' turns results i c next there rest ih =>
    obtain ⟨numbers, nodup⟩ := ih
    have next_le : s.nextConfig ≤ (d.answer c s).2.nextConfig := (d.answer_changes c s).1.next_le
    have later : ∀ m ∈ madeIn turns, s.nextConfig ≤ m.2.val ∧ m.2.val < s'.nextConfig :=
      fun m mem => ⟨Nat.le_trans next_le (numbers m mem).1, (numbers m mem).2⟩
    rw [madeIn_cons]
    rcases d.made?_answer c s with ⟨none, -⟩ | ⟨made, succ⟩
    · rw [show Event.made? ⟨c, (d.backend.answer c s).1⟩ = Option.none from none]
      exact ⟨later, nodup⟩
    · rw [show Event.made? ⟨c, (d.backend.answer c s).1⟩ = some ⟨s.nextConfig⟩ from made]
      have bound : (d.answer c s).2.nextConfig ≤ s'.nextConfig := rest.next_le
      refine ⟨List.forall_mem_cons.2 ⟨⟨Nat.le_refl _, ?_⟩, later⟩, List.nodup_cons.2 ⟨?_, nodup⟩⟩
      · change s.nextConfig < s'.nextConfig
        omega
      · intro mem
        obtain ⟨m, mem, same⟩ := List.mem_map.1 mem
        have new : (d.answer c s).2.nextConfig ≤ m.2.val := (numbers m mem).1
        rw [same, succ] at new
        exact Nat.lt_irrefl _ new

/-! ## Numbers alone and numbers in turns -/

/-- A renaming of the numbers that one of the procedures sees alone, counted from `n` on, to those
that it sees in turns; nothing is renamed to what the others create. -/
structure Fits (f : ConfigId → ConfigId) (n i : Nat) (turns : List (Nat × Event)) : Prop where
  injective : Function.Injective f
  own : ∀ k config, (madeBy i turns)[k]? = some config → f ⟨n + k⟩ = config
  others : ∀ m ∈ madeIn turns, m.1 ≠ i → ∀ config, f config ≠ m.2

section Fits

variable {f : ConfigId → ConfigId} {n i j : Nat} {e : Event}

theorem Fits.unmade (h : Fits f n i ((i, e) :: turns)) (none : e.made? = none) :
    Fits f n i turns := by
  have own := h.own
  have others := h.others
  rw [madeBy_own, none] at own
  rw [madeIn_cons, none] at others
  exact ⟨h.injective, own, others⟩

theorem Fits.made (h : Fits f n i ((i, e) :: turns)) {config : ConfigId}
    (made : e.made? = some config) : f ⟨n⟩ = config ∧ Fits f (n + 1) i turns := by
  have own := h.own
  have others := h.others
  rw [madeBy_own, made] at own
  rw [madeIn_cons, made] at others
  refine ⟨own 0 config rfl, h.injective, fun k config' found => ?_, fun m mem => ?_⟩
  · have := own (k + 1) config' found
    rwa [show n + (k + 1) = n + 1 + k by omega] at this
  · exact others m (List.mem_cons_of_mem _ mem)

theorem Fits.other (h : Fits f n i ((j, e) :: turns)) (other : j ≠ i) :
    (∀ config, e.made? ≠ some (f config)) ∧ Fits f n i turns := by
  have own := h.own
  have others := h.others
  rw [madeBy_other other] at own
  rw [madeIn_cons] at others
  refine ⟨fun config made => ?_, h.injective, own, fun m mem => ?_⟩
  · rw [made] at others
    exact others (j, f config) List.mem_cons_self other config rfl
  · exact others m (List.mem_append_right _ mem)

end Fits

/-- The numbers in turns of what one of the procedures creates, counted from `n` on, with numbers
from `bound` on for what it does not create. -/
def renumber (n bound : Nat) (own : List ConfigId) (config : ConfigId) : ConfigId :=
  if config.val < n then config
  else (own[config.val - n]?).getD ⟨config.val + bound⟩

theorem renumber_of_lt {n bound : Nat} {own : List ConfigId} {config : ConfigId}
    (lt : config.val < n) : renumber n bound own config = config :=
  if_pos lt

/-- A configuration with a new number is renamed to one that is created or to one that is not. -/
theorem renumber_cases {n bound : Nat} {own : List ConfigId} {config : ConfigId}
    (new : n ≤ config.val) :
    (∃ k : Nat, config.val = n + k ∧ own[k]? = some (renumber n bound own config)) ∨
      (renumber n bound own config).val = config.val + bound := by
  unfold renumber
  rw [if_neg (Nat.not_lt.2 new)]
  cases found : own[config.val - n]? with
  | none => exact .inr rfl
  | some config' => exact .inl ⟨config.val - n, by omega, found⟩

/-- New numbers are renamed to new numbers. -/
theorem le_renumber {n bound : Nat} {own : List ConfigId}
    (numbers : ∀ config ∈ own, n ≤ config.val) {config : ConfigId} (new : n ≤ config.val) :
    n ≤ (renumber n bound own config).val := by
  rcases renumber_cases new with ⟨k, -, found⟩ | beyond
  · exact numbers _ (List.mem_of_getElem? found)
  · omega

theorem renumber_injective {n bound : Nat} {own : List ConfigId} (nodup : own.Nodup)
    (numbers : ∀ config ∈ own, n ≤ config.val ∧ config.val < bound) :
    Function.Injective (renumber n bound own) := by
  have new {config : ConfigId} (ge : n ≤ config.val) : n ≤ (renumber n bound own config).val :=
    le_renumber (fun config mem => (numbers config mem).1) ge
  intro config config' same
  by_cases old : config.val < n
  · by_cases old' : config'.val < n
    · rwa [renumber_of_lt old, renumber_of_lt old'] at same
    · have := new (Nat.not_lt.1 old')
      rw [← same, renumber_of_lt old] at this
      omega
  by_cases old' : config'.val < n
  · have := new (Nat.not_lt.1 old)
    rw [same, renumber_of_lt old'] at this
    omega
  have below {k : Nat} {config : ConfigId} (found : own[k]? = some config) : config.val < bound :=
    (numbers config (List.mem_of_getElem? found)).2
  have renumbered {config : ConfigId} (new : n ≤ config.val) :
      (∃ k : Nat, config.val = n + k ∧ own[k]? = some (renumber n bound own config)) ∨
        (renumber n bound own config).val = config.val + bound :=
    renumber_cases new
  have val_eq : config.val = config'.val := by
    rcases renumbered (Nat.not_lt.1 old) with ⟨k, number, found⟩ | beyond
    · rcases renumbered (Nat.not_lt.1 old') with ⟨k', number', found'⟩ | beyond'
      · rw [same] at found
        obtain ⟨inside, here⟩ := List.getElem?_eq_some_iff.1 found
        obtain ⟨inside', here'⟩ := List.getElem?_eq_some_iff.1 found'
        have := (nodup.getElem_inj_iff).1 (here.trans here'.symm)
        omega
      · have := below found
        rw [same] at this
        omega
    · rcases renumbered (Nat.not_lt.1 old') with ⟨k', number', found'⟩ | beyond'
      · have := below found'
        rw [← same] at this
        omega
      · rw [same] at beyond
        omega
  cases config
  cases config'
  exact congrArg ConfigId.mk val_eq

/-- There is a renaming that fits the turns and leaves all older numbers alone. -/
theorem Turns.fits (h : Turns d.backend ps s turns results s') (i : Nat) :
    Fits (renumber s.nextConfig s'.nextConfig (madeBy i turns)) s.nextConfig i turns := by
  obtain ⟨numbers, nodup⟩ := h.made_numbers
  have own_numbers : ∀ config ∈ madeBy i turns,
      s.nextConfig ≤ config.val ∧ config.val < s'.nextConfig :=
    fun config mem => numbers (i, config) (mem_madeBy.1 mem)
  have once {m m' : Nat × ConfigId} (mem : m ∈ madeIn turns) (mem' : m' ∈ madeIn turns)
      (same : m.2 = m'.2) : m = m' :=
    List.inj_on_of_nodup_map nodup mem mem' same
  have own_nodup : (madeBy i turns).Nodup := by
    refine (nodup.of_map Prod.snd).filterMap ?_
    rintro ⟨j, config⟩ ⟨j', config'⟩ config'' found found'
    rw [Option.mem_def] at found found'
    split at found
    · next own =>
      split at found'
      · next own' =>
        obtain rfl := Option.some.inj found
        obtain rfl := Option.some.inj found'
        exact Prod.ext (own.trans own'.symm) rfl
      · cases found'
    · cases found
  refine ⟨renumber_injective own_nodup own_numbers, fun k config found => ?_, ?_⟩
  · have index : s.nextConfig + k - s.nextConfig = k := by omega
    unfold renumber
    rw [if_neg (by simp), index, found]
    rfl
  · rintro ⟨j, made⟩ mem other config same
    have number := numbers _ mem
    dsimp only at other same number
    by_cases old : config.val < s.nextConfig
    · rw [renumber_of_lt old] at same
      rw [← same] at number
      omega
    · have new : s.nextConfig ≤ config.val := Nat.not_lt.1 old
      have renumbered := @renumber_cases _ s'.nextConfig (madeBy i turns) _ new
      rw [same] at renumbered
      rcases renumbered with ⟨k, -, found⟩ | beyond
      · have mem' := mem_madeBy.1 (List.mem_of_getElem? found)
        exact other (congrArg Prod.fst (once mem mem' rfl))
      · omega

end Procedure

end CounterSampling
