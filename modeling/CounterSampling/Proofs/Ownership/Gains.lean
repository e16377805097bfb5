import CounterSampling.Proofs.SamplerCalls
import CounterSampling.Proofs.Ownership.Account
import CounterSampling.Proofs.Packing.Round

/-!
# What packing gains

Packing creates many configurations on the way to a few. `Account.Gains` says that the account of a
device is sound afterwards and that exactly the listed configurations were added to the live ones:
those of the profiles that were packed, and none if there is no result.
-/

namespace CounterSampling

/-- From one account to another, exactly the configurations `gained` were added to the live ones. -/
structure Account.Gains (a a' : Account) (gained : List ConfigId) : Prop where
  sound : a'.Sound
  live : a'.live.Perm (a.live ++ gained)
  contexts : a'.contexts = a.contexts

/-- The configurations of what was made, and none if nothing was. -/
def configsMade {ε α : Type} (configs : α → List ConfigId) : Except ε α → List ConfigId
  | .ok a => configs a
  | .error _ => []

namespace Account.Gains

variable {a a' a'' : Account} {gained : List ConfigId}

theorem refl (sound : a.Sound) : a.Gains a [] :=
  ⟨sound, by rw [List.append_nil], rfl⟩

theorem trans {more : List ConfigId} (h : a.Gains a' gained) (h' : a'.Gains a'' more) :
    a.Gains a'' (gained ++ more) := by
  refine ⟨h'.sound, ?_, h'.contexts.trans h.contexts⟩
  rw [← List.append_assoc]
  exact h'.live.trans (h.live.append_right more)

theorem perm {gained' : List ConfigId} (h : a.Gains a' gained) (same : gained.Perm gained') :
    a.Gains a' gained' :=
  ⟨h.sound, h.live.trans (same.append_left a.live), h.contexts⟩

theorem create (h : a.Gains a' gained) : a.Gains a'.create (⟨a'.nextConfig⟩ :: gained) := by
  refine ⟨h.sound.create, ?_, h.contexts⟩
  have last : a'.create.live.Perm (⟨a'.nextConfig⟩ :: a'.live) := List.perm_append_comm
  exact last.trans ((h.live.cons _).trans List.perm_middle.symm)

theorem release {c : ConfigId} (h : a.Gains a' (c :: gained)) :
    a.Gains (a'.release c) gained := by
  have first : a'.live.Perm (c :: (a.live ++ gained)) := h.live.trans List.perm_middle
  have live : c ∈ a'.live := first.mem_iff.2 List.mem_cons_self
  refine ⟨h.sound.release live, ?_, h.contexts⟩
  have := first.erase c
  rwa [List.erase_cons_head] at this

end Account.Gains

theorem Call.IsInquiry.sparesAccount {c : Call} (h : c.IsInquiry) : c.SparesAccount := by
  cases c with
  | tryConfigure agent ids => exact h.elim
  | destroyConfig config => exact h.elim
  | createContext agent => exact h.elim
  | destroyContext context => exact h.elim
  | _ => trivial

variable {τ κ α : Type} (d : Device) (o : Overlay)

/-- Steps that spare the account of a device leave it as it is. -/
theorem StepsOnly.account_eq {part : τ → κ} {m : StateT τ Procedure α}
    (h : StepsOnly Call.SparesAccount part m) (t : τ) (x : List ConfigId × Device.State) :
    accountOf ((m.run t).run (d.seenThrough o) x).2 = accountOf x :=
  (h t).run_eq _ (fun c x spares => d.seenThrough_spares o c spares x) x

namespace Packer

variable {d o}

theorem releasePrevious_gains {a : Account} {x : List ConfigId × Device.State} (c : Candidate)
    {gained : List ConfigId} (h : a.Gains (accountOf x) (c.config.toList ++ gained)) :
    a.Gains (accountOf ((releasePrevious c).run (d.seenThrough o) x).2) gained := by
  unfold releasePrevious
  cases config : c.config with
  | none =>
    rw [config] at h
    exact h
  | some old =>
    rw [config] at h
    have live : old ∈ (accountOf x).live :=
      h.live.mem_iff.2 (List.mem_append_right _ List.mem_cons_self)
    change a.Gains (accountOf ((d.seenThrough o).answer (.destroyConfig old) x).2) gained
    rw [d.seenThrough_destroyConfig o live]
    exact Account.Gains.release h

/-- Considering an item gains the configuration of the profile as it is then. -/
theorem Considered.gains {a : Account} {p : Packer} {r r' : Round} {i : Item} {c c' : Catalog}
    {x x' : List ConfigId × Device.State} {events : List Event}
    (h : a.Gains (accountOf x) r.candidate.config.toList)
    (step : Considered (d.seenThrough o) p r i c x r' c' x' events) :
    a.Gains (accountOf x') r'.candidate.config.toList := by
  have inquiries := (sizeOf?_inquires i.id).mono fun _ => Call.IsInquiry.sparesAccount
  have sized := inquiries.account_eq d o c x
  cases step with
  | full cap => exact h
  | unsized room size =>
    rw [size] at sized
    exact sized ▸ h
  | overflow room size sum =>
    rw [size] at sized
    exact sized ▸ h
  | refused room size sum refusal =>
    rw [size] at sized
    rw [← sized] at h
    rcases d.seenThrough_tryConfigure o p.agent _ h.sound with ⟨taken, -⟩ | ⟨-, same⟩
    · exact absurd taken (refusal _)
    · exact same ▸ h
  | joined room size sum taken =>
    rw [size] at sized
    rw [← sized] at h
    refine releasePrevious_gains r.candidate ?_
    rcases d.seenThrough_tryConfigure o p.agent _ h.sound with ⟨next, created⟩ | ⟨refused, -⟩
    · have new := ConfigureOutcome.configured.inj (taken.symm.trans next)
      change a.Gains _ (r.candidate.config.toList ++ [_])
      rw [new]
      exact created ▸ h.create.perm (List.perm_append_singleton _ _).symm
    · exact absurd taken (refused _)

/-- A round gains the configuration of its profile, if it has one. -/
theorem round_gains (p : Packer) (items : List Item) (c : Catalog)
    (x : List ConfigId × Device.State) (sound : (accountOf x).Sound) :
    (accountOf x).Gains (accountOf (((p.round {} items).run c).run (d.seenThrough o) x).2)
      (((p.round {} items).run c).run (d.seenThrough o) x).1.1.candidate.config.toList :=
  round_induction
    (I := fun _ r _ x' _ => (accountOf x).Gains (accountOf x') r.candidate.config.toList)
    (fun h step => step.gains h) items [] {} c x [] (.refl sound)

/-- The rounds gain the configurations of their profiles. -/
theorem rounds_gains (p : Packer) (fuel : Nat) (items : List Item) (c : Catalog)
    (x : List ConfigId × Device.State) (sound : (accountOf x).Sound) :
    (accountOf x).Gains (accountOf (((p.rounds fuel items).run c).run (d.seenThrough o) x).2)
      ((((p.rounds fuel items).run c).run (d.seenThrough o) x).1.1.1.map fun q => q.config) := by
  induction fuel generalizing items c x with
  | zero => cases items <;> exact .refl sound
  | succ fuel ih =>
    cases items with
    | nil => exact .refl sound
    | cons i is =>
      have gains := round_gains (d := d) (o := o) p (i :: is) c x sound
      rw [run_rounds_succ]
      generalize ((p.round {} (i :: is)).run c).run (d.seenThrough o) x = y at gains ⊢
      obtain ⟨⟨r, c'⟩, x'⟩ := y
      cases config : r.candidate.config with
      | none =>
        simp only [config] at gains ⊢
        exact gains
      | some new =>
        simp only [config] at gains ⊢
        exact gains.trans (ih r.deferred c' x' gains.sound)

/-- Packing gains the configurations of the set, and none if it fails. -/
theorem pack_gains (p : Packer) (request : List String) (c : Catalog)
    (x : List ConfigId × Device.State) (sound : (accountOf x).Sound) :
    (accountOf x).Gains
      (accountOf (((p.pack request).run.run c).run (d.seenThrough o) x).2)
      (configsMade ProfileSet.configs
        (((p.pack request).run.run c).run (d.seenThrough o) x).1.1) := by
  have spares := Catalog.list_inquires.mono fun _ => Call.IsInquiry.sparesAccount
  have listed := spares.account_eq d o c x
  rw [run_pack]
  generalize (Catalog.list.run.run c).run (d.seenThrough o) x = y at listed ⊢
  obtain ⟨⟨known, c'⟩, x'⟩ := y
  rw [← listed] at sound ⊢
  cases known with
  | error e => exact .refl sound
  | ok known => exact rounds_gains p _ _ c' x' sound

end Packer

end CounterSampling
