import CounterSampling.Packer
import CounterSampling.Proofs.Calls

/-!
# Rounds over counters

Only the first round of packing meets names that the agent has no counter for, and a name that a
round defers stands for the same counter in the next. So to pack names is to pack the counters that
they stand for, round after round, with the names set aside that stand for none. Laws about the
rounds are stated for counters. Main statement: `pack_eq`.
-/

namespace CounterSampling.Packer

/-- Pack counters in rounds. -/
def rounds (p : Packer) : Nat → List Item →
    StateT Catalog Procedure (List Profile × List String)
  | _, [] => pure ([], [])
  | 0, items => pure ([], items.map fun i => i.name)
  | fuel + 1, items => do
    let r ← p.round {} items
    match r.candidate.config with
    | none => return ([], r.deferred.map fun i => i.name)
    | some config =>
      let (profiles, unpackable) ← p.rounds fuel r.deferred
      return (r.candidate.profile config :: profiles, unpackable)

/-- What is resolved has the numbers that are known. -/
theorem resolve_known (known : NameMap CounterId) (names : List String) :
    ∀ i ∈ (resolve known names).1, known.find? i.name = some i.id := by
  induction names with
  | nil => nofun
  | cons name names ih =>
    intro i mem
    cases found : known.find? name with
    | none =>
      simp only [resolve, found] at mem
      exact ih i mem
    | some id =>
      simp only [resolve, found] at mem
      rcases List.mem_cons.1 mem with rfl | old
      · exact found
      · exact ih i old

/-- The names of counters are resolved to them, and none is missing. -/
theorem resolve_names {known : NameMap CounterId} {items : List Item}
    (resolved : ∀ i ∈ items, known.find? i.name = some i.id) :
    resolve known (items.map fun i => i.name) = (items, []) := by
  induction items with
  | nil => rfl
  | cons i is ih =>
    obtain ⟨found, later⟩ := List.forall_mem_cons.1 resolved
    rw [List.map_cons, resolve, ih later, found]

theorem length_resolve_le (known : NameMap CounterId) (names : List String) :
    (resolve known names).1.length ≤ names.length := by
  induction names with
  | nil => exact Nat.le_refl 0
  | cons name names ih =>
    cases found : known.find? name with
    | none =>
      simp only [resolve, found, List.length_cons]
      exact Nat.le_succ_of_le ih
    | some id =>
      simp only [resolve, found, List.length_cons]
      exact Nat.succ_le_succ ih

/-! ## What a round defers -/

/-- A round under way has deferred some of the items considered so far, and not all of them if it
has placed one. -/
structure Round.Defers (r : Round) (items : List Item) : Prop where
  sublist : r.deferred.Sublist items
  fewer : r.candidate.config ≠ none → r.deferred.length < items.length

theorem Round.Defers.defer {r : Round} {items : List Item} (h : r.Defers items) (i : Item) :
    (r.defer i).Defers (items ++ [i]) := by
  have later : (r.defer i).deferred = r.deferred ++ [i] := List.reverse_cons
  refine ⟨?_, fun placed => ?_⟩
  · rw [later]
    exact h.sublist.append (List.Sublist.refl [i])
  · rw [later, List.length_append, List.length_append]
    exact Nat.add_lt_add_right (h.fewer placed) _

theorem Round.Defers.place {r : Round} {items : List Item} (h : r.Defers items) (i : Item)
    (candidate : Candidate) : Round.Defers { r with candidate } (items ++ [i]) := by
  refine ⟨h.sublist.trans (List.sublist_append_left items [i]), fun _ => ?_⟩
  rw [List.length_append]
  exact Nat.lt_succ_of_le h.sublist.length_le

theorem tryAdd_defers (p : Packer) {r : Round} {items : List Item} (h : r.Defers items) (i : Item)
    (total : Nat) : (p.tryAdd r i total).Ensures (fun _ => True) fun r' =>
      r'.Defers (items ++ [i]) := by
  refine (Procedure.ensures_call trivial).bind fun outcome _ => ?_
  cases outcome with
  | configured config =>
    exact (Procedure.ensures_any (releasePrevious r.candidate)).bind fun _ _ => h.place i _
  | capacityExceeded => exact h.defer i
  | failed e => exact h.defer i

theorem consider_defers (p : Packer) {r : Round} {items : List Item} (h : r.Defers items) (i : Item)
    (c : Catalog) : ((p.consider r i).run c).Ensures (fun _ => True) fun x =>
      x.1.Defers (items ++ [i]) := by
  unfold consider
  split
  · exact h.defer i
  rw [StateT.run_bind]
  refine (Procedure.ensures_any _).bind fun x _ => ?_
  obtain ⟨size, c'⟩ := x
  cases size with
  | none => exact h.defer i
  | some size =>
    cases sum : Word.add? r.candidate.size size with
    | none =>
      simp only [sum]
      exact h.defer i
    | some total =>
      simp only [sum]
      exact (p.tryAdd_defers h i total).bind fun _ defers => defers

/-- A whole round defers some of its items, and not all of them if it places one. -/
theorem round_defers (p : Packer) (items : List Item) {r : Round} {before : List Item}
    (h : r.Defers before) (c : Catalog) : ((p.round r items).run c).Ensures (fun _ => True) fun x =>
      x.1.Defers (before ++ items) := by
  induction items generalizing r before c with
  | nil =>
    rw [List.append_nil]
    exact h
  | cons i is ih =>
    rw [round, StateT.run_bind, List.append_cons]
    exact (p.consider_defers h i c).bind fun x defers => ih defers x.2

/-! ## Packing names and packing counters -/

/-- To pack names is to pack the counters that they stand for, if both may take enough rounds. -/
theorem packNames_eq (p : Packer) (known : NameMap CounterId) {fuel fuel' : Nat}
    {names : List String} (enough : names.length ≤ fuel)
    (enough' : (resolve known names).1.length ≤ fuel') :
    p.packNames known fuel names = do
      let packed ← p.rounds fuel' (resolve known names).1
      return ⟨packed.1, (resolve known names).2, packed.2⟩ := by
  induction fuel generalizing fuel' names with
  | zero =>
    obtain rfl := List.eq_nil_of_length_eq_zero (Nat.le_zero.1 enough)
    cases fuel' <;> rfl
  | succ fuel ih =>
    cases names with
    | nil => cases fuel' <;> rfl
    | cons name names =>
      have resolved := resolve_known known (name :: names)
      have within := Nat.le_trans (length_resolve_le known (name :: names)) enough
      rw [packNames]
      rotate_left
      · exact List.cons_ne_nil name names
      generalize resolve known (name :: names) = found at within resolved enough' ⊢
      obtain ⟨items, unsupported⟩ := found
      -- After a round that placed something fewer names are left, and each stands for its counter.
      have later {r : Round} (defers : r.Defers items) (placed : r.candidate.config ≠ none)
          {more : Nat} (enough'' : items.length ≤ more + 1) :
          p.packNames known fuel (r.deferred.map fun i => i.name) = do
            let packed ← p.rounds more r.deferred
            return ⟨packed.1, [], packed.2⟩ := by
        have fewer := defers.fewer placed
        have again := resolve_names fun i mem => resolved i (defers.sublist.subset mem)
        have rest : (r.deferred.map fun i => i.name).length ≤ fuel := by
          rw [List.length_map]
          exact Nat.le_of_lt_succ (Nat.lt_of_lt_of_le fewer within)
        have rest' : (resolve known (r.deferred.map fun i => i.name)).1.length ≤ more := by
          rw [again]
          exact Nat.le_of_lt_succ (Nat.lt_of_lt_of_le fewer enough'')
        have packed := ih rest rest'
        rwa [again] at packed
      cases items with
      | nil => cases fuel' <;> rfl
      | cons i is =>
        cases fuel' with
        | zero => cases enough'
        | succ fuel' =>
          rw [rounds]
          rotate_left
          · exact List.cons_ne_nil i is
          refine StateT.ext fun c => ?_
          dsimp only
          rw [bind_assoc, StateT.run_bind, StateT.run_bind]
          have start : Round.Defers {} [] := ⟨.refl _, nofun⟩
          refine (p.round_defers (i :: is) start c).bind_congr fun x defers => ?_
          obtain ⟨r, c'⟩ := x
          dsimp only
          cases placed : r.candidate.config with
          | none => rfl
          | some config =>
            have later := later defers (placed ▸ nofun) enough'
            simp only [later, bind_assoc, pure_bind, List.append_nil]

/-- To pack a request is to pack the counters that its distinct names stand for, with the names set
aside that stand for none. -/
theorem pack_eq (p : Packer) (request : List String) :
    p.pack request = do
      let known ← Catalog.list
      let found := resolve known (distinct request)
      let packed ← (liftM (p.rounds found.1.length found.1) : CatalogM _)
      return ⟨packed.1, found.2, packed.2⟩ := by
  unfold pack
  refine bind_congr fun known => ?_
  dsimp only
  rw [p.packNames_eq known (Nat.le_refl _) (Nat.le_refl _), liftM_bind]
  rfl

end CounterSampling.Packer
