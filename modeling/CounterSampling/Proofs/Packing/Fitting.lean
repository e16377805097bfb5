import CounterSampling.Proofs.Device.Grid
import CounterSampling.Proofs.Packing.Rounds
import CounterSampling.Proofs.Packing.Sizes

/-!
# What can be one profile

On a backend that always takes the same sets of counters it is settled which counters can be one
profile, `Facts.Fits`, and why a counter cannot join a profile, `Facts.Excludes`. An item that the
packer considers joins the members just if it can be one profile together with them:
`Considered.joins_iff_fits`. So a round is an induction over its items with a case for those that
fit and one for those that do not: `RoundRun.fits_induct`.
-/

namespace CounterSampling

variable {σ : Type} {b : Backend σ} {F : Facts} {agent owner : AgentId} {cap : Nat}

namespace Facts

/-- These counters can be one profile: they are not too many, their records can be counted and come
to a number that fits a word, and the device takes them. -/
structure Fits (F : Facts) (agent : AgentId) (cap : Nat) (ids : List CounterId) : Prop where
  capped : ids.length ≤ cap
  sized : ∀ id ∈ ids, (F.sizeOf? id).isSome = true
  withinWord : F.totalSize ids ≤ Word.max
  taken : F.verdict agent ids = .taken

/-- Why a counter cannot join a profile that has these counters and this size. -/
inductive Excludes (F : Facts) (agent : AgentId) (cap : Nat) (ids : List CounterId) (size : Nat)
    (id : CounterId) : Prop
  /-- The profile has as many counters as it may. -/
  | full (many : cap ≤ ids.length)
  /-- The record count of the counter cannot be had. -/
  | unsized (uncounted : F.sizeOf? id = none)
  /-- The records would leave the word. -/
  | overflow {n : Nat} (counted : F.sizeOf? id = some n) (sum : Word.max < size + n)
  /-- The device does not take the counters together with this one. -/
  | refused (refusal : F.verdict agent (ids ++ [id]) ≠ .taken)

/-- With any set of counters the device takes every part of it. -/
def DownwardClosed (F : Facts) (agent : AgentId) : Prop :=
  ∀ ids part, part.Sublist ids → F.verdict agent ids = .taken → F.verdict agent part = .taken

theorem totalSize_sublist {part ids : List CounterId} (within : part.Sublist ids) :
    F.totalSize part ≤ F.totalSize ids := by
  induction within with
  | slnil => exact Nat.le_refl _
  | cons id _ ih => exact Nat.le_trans ih (Nat.le_add_left _ _)
  | cons_cons id _ ih => exact Nat.add_le_add_left ih _

/-- Part of what can be one profile can be one profile. -/
theorem Fits.sublist {part ids : List CounterId} (h : F.Fits agent cap ids)
    (closed : F.DownwardClosed agent) (within : part.Sublist ids) : F.Fits agent cap part where
  capped := Nat.le_trans within.length_le h.capped
  sized := fun id mem => h.sized id (within.subset mem)
  withinWord := Nat.le_trans (totalSize_sublist within) h.withinWord
  taken := closed ids part within h.taken

/-- What keeps counters from being one profile together with one more is one of four reasons. -/
theorem excludes_of_not_fits {ids : List CounterId} {id : CounterId}
    (sized : ∀ id ∈ ids, (F.sizeOf? id).isSome = true) (barred : ¬F.Fits agent cap (ids ++ [id])) :
    F.Excludes agent cap ids (F.totalSize ids) id := by
  by_cases many : cap ≤ ids.length
  · exact .full many
  cases counted : F.sizeOf? id with
  | none => exact .unsized counted
  | some n =>
    by_cases sum : Word.max < F.totalSize ids + n
    · exact .overflow counted sum
    refine .refused fun taken => barred ⟨?_, fun other mem => ?_, ?_, taken⟩
    · rw [List.length_append, List.length_singleton]
      omega
    · rcases List.mem_append.1 mem with old | new
      · exact sized other old
      · rw [List.mem_singleton.1 new, counted]
        rfl
    · rw [totalSize_append, totalSize, totalSize, counted, Option.getD_some]
      omega

/-- A counter that the device takes alone and whose records can be counted is a profile. -/
theorem fits_singleton_iff (positive : 0 < cap) {id : CounterId} :
    F.Fits agent cap [id] ↔ F.sizeOf? id ≠ none ∧ F.verdict agent [id] = .taken := by
  constructor
  · intro h
    exact ⟨Option.isSome_iff_ne_none.1 (h.sized id List.mem_cons_self), h.taken⟩
  · rintro ⟨counted, taken⟩
    by_contra barred
    have out : F.Excludes agent cap [] (F.totalSize []) id := excludes_of_not_fits nofun barred
    cases out with
    | full many => exact absurd many (Nat.not_le.2 positive)
    | unsized uncounted => exact counted uncounted
    | refused refusal => exact refusal taken
    | @overflow n size sum =>
      unfold sizeOf? at size
      cases told : F.dimensions id with
      | error e =>
        rw [told] at size
        cases size
      | ok dims =>
        rw [told] at size
        have := (recordCount?_bounds size).2
        rw [totalSize] at sum
        omega

end Facts

namespace Packer

variable {p : Packer} {known : NameMap CounterId}

/-- Items fit together with one more just if there is room, the sum of their records can be had, and
the device takes them. -/
theorem fits_append_iff {members : List Item} {size : Nat} (sized : Sized F members size)
    {i : Item} :
    F.Fits agent cap ((members ++ [i]).map fun m => m.id) ↔
      members.length < cap ∧
      (∃ n total, F.sizeOf? i.id = some n ∧ Word.add? size n = some total) ∧
      F.verdict agent ((members ++ [i]).map fun m => m.id) = .taken := by
  constructor
  · intro h
    have capped := h.capped
    rw [List.length_map, List.length_append, List.length_singleton] at capped
    have more : Sized F (members ++ [i]) _ :=
      ⟨fun m mem => h.sized m.id (List.mem_map_of_mem mem), rfl, h.withinWord⟩
    obtain ⟨n, counted, sum⟩ := (sized_append_iff sized).1 more
    exact ⟨by omega, ⟨n, _, counted, sum⟩, h.taken⟩
  · rintro ⟨room, ⟨n, total, counted, sum⟩, taken⟩
    have more := (sized_append_iff sized).2 ⟨n, counted, sum⟩
    refine ⟨?_, fun id mem => ?_, ?_, taken⟩
    · rw [List.length_map, List.length_append, List.length_singleton]
      exact room
    · obtain ⟨m, there, rfl⟩ := List.mem_map.1 mem
      exact more.each m there
    · rw [← more.size_eq]
      exact more.withinWord

/-- On a consistent backend an item joins the profile just if it fits together with the members. -/
theorem Considered.joins_iff_fits (consistent : b.Consistent F) {r r' : Round} {i : Item}
    {c c' : Catalog} {s s' : σ} {events : List Event} (truthful : c.Truthful F owner)
    (sound : r.candidate.Sound F p.agent) (step : Considered b p r i c s r' c' s' events) :
    (F.Fits p.agent p.maxPerProfile ((r.candidate.members ++ [i]).map fun m => m.id) ∧
        ∃ total config, r' = r.join i total config) ∨
      ¬F.Fits p.agent p.maxPerProfile ((r.candidate.members ++ [i]).map fun m => m.id) ∧
        r' = r.defer i := by
  rw [fits_append_iff sound.sized]
  cases step with
  | full cap => exact .inr ⟨fun fits => Nat.not_le.2 fits.1 cap, rfl⟩
  | unsized room size =>
    refine .inr ⟨fun fits => ?_, rfl⟩
    obtain ⟨-, ⟨n, total, counted, -⟩, -⟩ := fits
    rw [← (run_sizeOf? consistent truthful size).1] at counted
    cases counted
  | overflow room size sum =>
    refine .inr ⟨fun fits => ?_, rfl⟩
    obtain ⟨-, ⟨n, total, counted, sum'⟩, -⟩ := fits
    obtain rfl := Option.some.inj ((run_sizeOf? consistent truthful size).1.trans counted)
    rw [sum] at sum'
    cases sum'
  | @refused n total _ after room size sum refusal =>
    refine .inr ⟨fun fits => ?_, rfl⟩
    obtain ⟨config, taken⟩ := (consistent.taken_iff _ _ after).1 fits.2.2
    exact refusal config taken
  | joined room size sum taken =>
    have counted := (run_sizeOf? consistent truthful size).1.symm
    have verdict := (consistent.taken_iff _ _ _).2 ⟨_, taken⟩
    exact .inl ⟨⟨room, ⟨_, _, counted, sum⟩, verdict⟩, _, _, rfl⟩

section RoundRun

variable {items : List Item} {r : Round} {c c' : Catalog} {s s' : σ} {events : List Event}

/-- On a consistent backend a round gathers a sound candidate. -/
theorem RoundRun.sound (run : RoundRun b p items c s r c' s' events) (consistent : b.Consistent F)
    (truthful : c.Truthful F owner) : r.candidate.Sound F p.agent ∧ c'.Truthful F owner := by
  refine run.induct (I := fun _ r c _ _ => r.candidate.Sound F p.agent ∧ c.Truthful F owner) ?_ ?_
  · exact ⟨Candidate.sound_empty F p.agent, truthful⟩
  · exact fun _ h step => step.sound consistent h.2 h.1

/-- What holds at the beginning of a round on a consistent backend, and is kept when an item that
fits joins the members and when one that does not fit is put off, holds at the end of the round. -/
theorem RoundRun.fits_induct {I : List Item → Round → Prop}
    (run : RoundRun b p items c s r c' s' events) (consistent : b.Consistent F)
    (truthful : c.Truthful F owner) (start : I [] {})
    (join : ∀ {done r i} total config, done ++ [i] <+: items → r.Dealt p.maxPerProfile done →
      I done r → F.Fits p.agent p.maxPerProfile ((r.candidate.members ++ [i]).map fun m => m.id) →
      I (done ++ [i]) (r.join i total config))
    (defer : ∀ {done r i}, done ++ [i] <+: items → r.Dealt p.maxPerProfile done → I done r →
      ¬F.Fits p.agent p.maxPerProfile ((r.candidate.members ++ [i]).map fun m => m.id) →
      I (done ++ [i]) (r.defer i)) : I items r := by
  have kept : (I items r ∧ r.Dealt p.maxPerProfile items) ∧
      r.candidate.Sound F p.agent ∧ c'.Truthful F owner := by
    refine run.induct (I := fun done r c _ _ => (I done r ∧ r.Dealt p.maxPerProfile done) ∧
      r.candidate.Sound F p.agent ∧ c.Truthful F owner) ?_ ?_
    · exact ⟨⟨start, .empty p.maxPerProfile⟩, Candidate.sound_empty F p.agent, truthful⟩
    · rintro done r i c s events r' c' s' more within ⟨⟨holds, dealt⟩, sound, truthful⟩ step
      refine ⟨⟨?_, step.dealt dealt⟩, step.sound consistent truthful sound⟩
      rcases step.joins_iff_fits consistent truthful sound with ⟨fits, total, config, rfl⟩ | ⟨out, rfl⟩
      · exact join total config within dealt holds fits
      · exact defer within dealt holds out
  exact kept.1.1

end RoundRun

end Packer

end CounterSampling
