import CounterSampling.Proofs.Ownership.CacheGrowth

/-!
# Who holds what

A holding may be kept in several places, and its configurations stay live until the last of them
lets go of it. `Custody` ties a list of holdings, one for each place, to the account of a device:
what is live are the configurations of the holdings, each holding counted once.
-/

namespace CounterSampling

/-- The live configurations are those of the listed holdings, and what tells holdings apart are
their owners and serial numbers. -/
structure Custody (held : List Holding) (a : Account) : Prop where
  sound : a.Sound
  live : a.live.Perm ((distinct held).flatMap Shared.value)
  coherent : ∀ h ∈ held, ∀ h' ∈ held, h.owner = h'.owner → h.serial = h'.serial → h = h'

namespace Custody

variable {held : List Holding} {a a' : Account}

/-- Holding something in more or fewer places changes nothing as long as it is held. -/
theorem congr {held' : List Holding} (h : Custody held a) (same : ∀ x, x ∈ held' ↔ x ∈ held) :
    Custody held' a := by
  refine ⟨h.sound, h.live.trans ((distinct_perm same).symm.flatMap_right _), ?_⟩
  intro x mem x' mem'
  exact h.coherent x ((same x).1 mem) x' ((same x').1 mem')

theorem kept (h : Custody held a) (gains : a.Gains a' []) : Custody held a' := by
  refine ⟨gains.sound, ?_, h.coherent⟩
  have live := gains.live
  rw [List.append_nil] at live
  exact live.trans h.live

/-- Something made just now is told apart from all that is held. -/
theorem added {x : Holding} (h : Custody held a) (gains : a.Gains a' x.value)
    (fresh : ∀ y ∈ held, y.owner = x.owner → y.serial ≠ x.serial) : Custody (x :: held) a' := by
  have absent : x ∉ held := by
    intro mem
    exact fresh x mem rfl rfl
  refine ⟨gains.sound, gains.live.trans ?_, ?_⟩
  · rw [distinct_cons_of_notMem absent, List.flatMap_cons]
    exact List.perm_append_comm.trans (h.live.append_left x.value)
  · intro y mem y' mem' owner serial
    rcases List.mem_cons.1 mem with rfl | old
    · rcases List.mem_cons.1 mem' with rfl | old'
      · rfl
      · exact absurd serial.symm (fresh y' old' owner.symm)
    · rcases List.mem_cons.1 mem' with rfl | old'
      · exact absurd serial (fresh y old owner)
      · exact h.coherent y old y' old' owner serial

end Custody

variable {d : Device} {o : Overlay} {x : List ConfigId × Device.State}

/-- Releasing live configurations leaves the others live. -/
theorem releaseAll_live (cs : List ConfigId) {rest : List ConfigId} (sound : (accountOf x).Sound)
    (live : (accountOf x).live.Perm (cs ++ rest)) :
    let a := accountOf ((releaseAll cs).run (d.seenThrough o) x).2
    a.Sound ∧ a.live.Perm rest ∧ a.contexts = (accountOf x).contexts := by
  induction cs generalizing x with
  | nil => exact ⟨sound, live, rfl⟩
  | cons c cs ih =>
    have mem : c ∈ (accountOf x).live := live.mem_iff.2 List.mem_cons_self
    have released := d.seenThrough_destroyConfig o mem
    have fewer := live.erase c
    rw [List.cons_append, List.erase_cons_head] at fewer
    have step := ih (x := ((d.seenThrough o).answer (.destroyConfig c) x).2)
    rw [released] at step
    exact step (sound.release mem) fewer

/-- When holdings are let go of and what nobody else holds is released, what is still held stays
live, and the contexts stay open. -/
theorem Custody.letGo {dropped rest : List Holding} {elsewhere : Nat → Nat → Bool}
    (h : Custody (dropped ++ rest) (accountOf x)) (nodup : dropped.Nodup)
    (truth : ∀ owner serial, elsewhere owner serial = true ↔
      ∃ y ∈ rest, y.owner = owner ∧ y.serial = serial) :
    let sole := (dropped.filter fun y => !elsewhere y.owner y.serial).flatMap Shared.value
    let a := accountOf ((releaseAll sole).run (d.seenThrough o) x).2
    Custody rest a ∧ a.contexts = (accountOf x).contexts := by
  have sole : (dropped.filter fun y => !elsewhere y.owner y.serial) =
      dropped.filter fun y => decide (y ∉ rest) := by
    apply List.filter_congr
    intro y mem
    rw [Bool.eq_iff_iff, Bool.not_eq_true', ← Bool.not_eq_true, truth, decide_eq_true_iff]
    apply not_congr
    constructor
    · rintro ⟨y', mem', owner, serial⟩
      have same := h.coherent y (List.mem_append_left _ mem) y' (List.mem_append_right _ mem')
        owner.symm serial.symm
      exact same ▸ mem'
    · intro mem'
      exact ⟨y, mem', rfl, rfl⟩
  have live := h.live.trans ((distinct_append_perm nodup rest).flatMap_right _)
  rw [List.flatMap_append, ← sole] at live
  have released := releaseAll_live (d := d) (o := o) _ h.sound live
  refine ⟨⟨released.1, released.2.1, ?_⟩, released.2.2⟩
  intro y mem y' mem'
  exact h.coherent y (List.mem_append_right _ mem) y' (List.mem_append_right _ mem')

end CounterSampling
