import CounterSampling.Proofs.Packing.Fitting

/-!
# Packing on a device with a plain limit

If a device takes any counters together that are good by themselves, as long as there are not too
many of them, nothing good is put off without need: every round fills its profile with the first
good counters that are left, as many as may be. So the profiles are the good counters cut into
pieces, all but the last of them full, and what is not good is left over. Main statements:
`rounds_chunks` and `pack_greedy`.
-/

namespace CounterSampling

variable {σ : Type} {b : Backend σ} {F : Facts} {agent owner : AgentId}

/-- A list cut into pieces of this length, of which the last may be shorter. -/
def chunks {α : Type} (n : Nat) (xs : List α) : List (List α) :=
  (List.range ((xs.length + n - 1) / n)).map fun k => (xs.drop (k * n)).take n

section chunks

variable {α : Type} {n : Nat} {xs : List α}

theorem chunks_nil (n : Nat) : chunks n ([] : List α) = [] := by
  have none : (0 + n - 1) / n = 0 := by
    rw [Nat.zero_add]
    exact Nat.div_eq_zero_iff.2 (by omega)
  unfold chunks
  rw [List.length_nil, none, List.range_zero, List.map_nil]

theorem chunks_zero (xs : List α) : chunks 0 xs = [] := by
  unfold chunks
  rw [Nat.div_zero, List.range_zero, List.map_nil]

/-- So many pieces of this length are needed for a list. -/
theorem length_chunks : (chunks n xs).length = (xs.length + n - 1) / n := by
  rw [chunks, List.length_map, List.length_range]

/-- One piece is needed more than without the first `n`. -/
theorem pieces_succ {k : Nat} (positive : 0 < n) (some : 0 < k) :
    (k - n + n - 1) / n + 1 = (k + n - 1) / n := by
  rw [← Nat.add_div_right _ positive]
  by_cases full : n ≤ k
  · congr 1
    omega
  · rw [Nat.div_eq_of_lt_le (k := 1) (by omega) (by omega),
      Nat.div_eq_of_lt_le (k := 1) (by omega) (by omega)]

/-- The first piece are the first `n`. -/
theorem chunks_of_ne_nil (positive : 0 < n) (some : xs ≠ []) :
    chunks n xs = xs.take n :: chunks n (xs.drop n) := by
  unfold chunks
  rw [List.length_drop, ← pieces_succ positive (List.length_pos_iff.2 some), List.range_succ_eq_map,
    List.map_cons, List.map_map, Nat.zero_mul, List.drop_zero]
  refine congrArg _ (List.map_congr_left fun k _ => ?_)
  rw [Function.comp_apply, List.drop_drop, Nat.succ_mul, Nat.add_comm n]

/-- Put together again, the pieces are the list. -/
theorem flatten_chunks (positive : 0 < n) (xs : List α) : (chunks n xs).flatten = xs := by
  induction few : xs.length using Nat.strongRecOn generalizing xs with
  | _ k ih =>
    by_cases none : xs = []
    · rw [none, chunks_nil, List.flatten_nil]
    · have fewer : (xs.drop n).length < k := by
        have := List.length_pos_iff.2 none
        rw [List.length_drop]
        omega
      rw [chunks_of_ne_nil positive none, List.flatten_cons, ih _ fewer _ rfl,
        List.take_append_drop]

/-- All pieces but the last are full. -/
theorem length_of_mem_dropLast_chunks {piece : List α} (mem : piece ∈ (chunks n xs).dropLast) :
    piece.length = n := by
  rw [chunks, ← List.map_dropLast, List.dropLast_eq_take, List.take_range, List.length_range] at mem
  obtain ⟨k, before, rfl⟩ := List.mem_map.1 mem
  have next : k + 1 < (xs.length + n - 1) / n := by
    have := List.mem_range.1 before
    omega
  have within := Nat.mul_le_of_le_div _ _ _ (Nat.succ_le_of_lt next)
  rw [Nat.succ_mul, Nat.succ_mul] at within
  rw [List.length_take, List.length_drop]
  omega

end chunks

/-- Counters with few records each have few records together. -/
theorem Facts.totalSize_le {ids : List CounterId} {most : Nat}
    (each : ∀ id ∈ ids, ∀ n, F.sizeOf? id = some n → n ≤ most) :
    F.totalSize ids ≤ ids.length * most := by
  induction ids with
  | nil => exact Nat.zero_le _
  | cons id ids ih =>
    obtain ⟨first, later⟩ := List.forall_mem_cons.1 each
    have rest := ih later
    rw [totalSize, List.length_cons, Nat.succ_mul]
    cases size : F.sizeOf? id with
    | none =>
      rw [Option.getD_none]
      omega
    | some n =>
      have here := first n size
      rw [Option.getD_some]
      omega

namespace Packer

variable {p : Packer} {good : Item → Bool} {limit most : Nat} {items : List Item}

/-- Good items and one more item can be one profile just if this one is good too and there are fewer
than `most` of them. -/
def Selects (F : Facts) (p : Packer) (good : Item → Bool) (most : Nat) (items : List Item) : Prop :=
  ∀ members i, (members ++ [i]).Sublist items → (∀ m ∈ members, good m = true) →
    (F.Fits p.agent p.maxPerProfile ((members ++ [i]).map fun m => m.id) ↔
      good i = true ∧ members.length < most)

theorem Selects.sublist (h : Selects F p good most items) {fewer : List Item}
    (within : fewer.Sublist items) : Selects F p good most fewer :=
  fun members i there => h members i (there.trans within)

/-! ## Rounds -/

/-- A round that has filled its profile with the first good items and put off the others. -/
structure Round.Filled (good : Item → Bool) (most : Nat) (done : List Item) (r : Round) : Prop where
  members : r.candidate.members = (done.filter good).take most
  deferred_good : r.deferred.filter good = (done.filter good).drop most
  deferred_other : (r.deferred.filter fun i => !good i) = done.filter fun i => !good i

section Round

variable {done : List Item} {r : Round} {i : Item}

/-- A good item is put off when the profile is full. -/
theorem Round.Filled.defer_good (h : r.Filled good most done) (isGood : good i = true)
    (full : most ≤ (done.filter good).length) : (r.defer i).Filled good most (done ++ [i]) where
  members := by
    rw [List.filter_append, List.filter_singleton, isGood, cond_true,
      List.take_append_of_le_length full]
    exact h.members
  deferred_good := by
    rw [List.filter_append, List.filter_singleton, isGood, cond_true,
      List.drop_append_of_le_length full, Round.deferred_defer, List.filter_append,
      List.filter_singleton, isGood, cond_true, h.deferred_good]
  deferred_other := by
    rw [List.filter_append, Round.deferred_defer, List.filter_append, h.deferred_other]

/-- Any other item is put off anyway. -/
theorem Round.Filled.defer_other (h : r.Filled good most done) (other : good i = false) :
    (r.defer i).Filled good most (done ++ [i]) where
  members := by
    rw [List.filter_append, List.filter_singleton, other, cond_false, List.append_nil]
    exact h.members
  deferred_good := by
    rw [List.filter_append, List.filter_singleton, other, cond_false, List.append_nil,
      Round.deferred_defer, List.filter_append, List.filter_singleton, other, cond_false,
      List.append_nil, h.deferred_good]
  deferred_other := by
    rw [List.filter_append, Round.deferred_defer, List.filter_append, h.deferred_other]

/-- A good item joins the profile as long as it is not full. -/
theorem Round.Filled.join (h : r.Filled good most done) (isGood : good i = true)
    (room : (done.filter good).length < most) (total : Nat) (config : ConfigId) :
    (r.join i total config).Filled good most (done ++ [i]) := by
  have more : (done ++ [i]).filter good = done.filter good ++ [i] := by
    rw [List.filter_append, List.filter_singleton, isGood, cond_true]
  have length : (done.filter good ++ [i]).length ≤ most := by
    rw [List.length_append, List.length_singleton]
    omega
  refine ⟨?_, ?_, ?_⟩
  · rw [more, List.take_of_length_le length]
    change r.candidate.members ++ [i] = _
    rw [h.members, List.take_of_length_le (Nat.le_of_lt room)]
  · rw [more, List.drop_of_length_le length]
    change r.deferred.filter good = []
    rw [h.deferred_good, List.drop_of_length_le (Nat.le_of_lt room)]
  · rw [List.filter_append, List.filter_singleton, isGood, Bool.not_true, cond_false,
      List.append_nil]
    exact h.deferred_other

/-- The next item fits just if it is good and the profile is not full. -/
theorem Round.Filled.fits_iff (h : r.Filled good most done)
    (selects : Selects F p good most items) (within : done ++ [i] <+: items)
    (dealt : r.Dealt p.maxPerProfile done) :
    F.Fits p.agent p.maxPerProfile ((r.candidate.members ++ [i]).map fun m => m.id) ↔
      good i = true ∧ (done.filter good).length < most := by
  have there : (r.candidate.members ++ [i]).Sublist items :=
    (dealt.splits.first_sublist.append (.refl [i])).trans within.sublist
  have allGood : ∀ m ∈ r.candidate.members, good m = true := by
    intro m mem
    rw [h.members] at mem
    exact (List.mem_filter.1 (List.mem_of_mem_take mem)).2
  rw [selects _ i there allGood, h.members, List.length_take]
  refine and_congr_right fun _ => ?_
  omega

end Round

/-- A round fills its profile with the first good items. -/
theorem RoundRun.filled {r : Round} {c c' : Catalog} {s s' : σ} {events : List Event}
    (run : RoundRun b p items c s r c' s' events) (consistent : b.Consistent F)
    (selects : Selects F p good most items) (truthful : c.Truthful F owner) :
    r.Filled good most items := by
  refine run.fits_induct consistent truthful ⟨List.take_nil.symm, List.drop_nil.symm, rfl⟩ ?_ ?_
  · intro done r i total config within dealt h fits
    obtain ⟨isGood, room⟩ := (h.fits_iff selects within dealt).1 fits
    exact h.join isGood room total config
  · intro done r i within dealt h out
    cases isGood : good i with
    | false => exact h.defer_other isGood
    | true =>
      refine h.defer_good isGood (Nat.le_of_not_lt fun room => out ?_)
      exact (h.fits_iff selects within dealt).2 ⟨isGood, room⟩

/-- What is packed are the good items, cut into pieces, and the others are left over. If a profile
may hold nothing, all items are left over. -/
structure Chunked (good : Item → Bool) (most : Nat) (items : List Item) (profiles : List Profile)
    (unpackable : List String) : Prop where
  profiles_eq : (profiles.map fun q => q.counters) =
    chunks most ((items.filter good).map fun i => i.name)
  unpackable_eq : unpackable =
    (if most = 0 then items else items.filter fun i => !good i).map fun i => i.name

section Chunked

variable {profiles : List Profile} {unpackable : List String}

theorem Chunked.length_profiles (h : Chunked good most items profiles unpackable) :
    profiles.length = ((items.filter good).length + most - 1) / most := by
  have many := congrArg List.length h.profiles_eq
  rw [List.length_map, length_chunks, List.length_map] at many
  exact many

/-- All profiles but the last are full. -/
theorem Chunked.full (h : Chunked good most items profiles unpackable) :
    ∀ q ∈ profiles.dropLast, q.counters.length = most := by
  intro q mem
  have piece := List.mem_map_of_mem (f := fun q => q.counters) mem
  rw [List.map_dropLast, h.profiles_eq] at piece
  exact length_of_mem_dropLast_chunks piece

/-- All good items are packed, in their order, if a profile may hold something. -/
theorem Chunked.counters_eq (h : Chunked good most items profiles unpackable)
    (positive : 0 < most) :
    (profiles.flatMap fun q => q.counters) = (items.filter good).map fun i => i.name := by
  rw [List.flatMap_def, h.profiles_eq, flatten_chunks positive]

/-- If a profile may hold nothing, there is none. -/
theorem Chunked.profiles_eq_nil (h : Chunked good 0 items profiles unpackable) : profiles = [] := by
  have none := h.profiles_eq
  rw [chunks_zero, List.map_eq_nil_iff] at none
  exact none

end Chunked

/-- A round that places nothing had nothing good left, or could not place anything. -/
theorem Round.Filled.chunked_nil {r : Round} (h : r.Filled good most items)
    (none : r.candidate.members = []) :
    Chunked good most items [] (items.map fun i => i.name) := by
  have few := h.members
  rw [none, eq_comm, List.take_eq_nil_iff] at few
  by_cases zero : most = 0
  · refine ⟨?_, ?_⟩
    · rw [zero, chunks_zero, List.map_nil]
    · rw [if_pos zero]
  · have noneGood := few.resolve_left zero
    refine ⟨?_, ?_⟩
    · rw [noneGood, List.map_nil, List.map_nil, chunks_nil]
    · rw [if_neg zero, List.filter_eq_self.2 fun i mem => ?_]
      rw [Bool.not_eq_true', ← Bool.not_eq_true]
      exact List.filter_eq_nil_iff.1 noneGood i mem

/-- A round places the first piece, and the later rounds the others. -/
theorem Round.Filled.chunked_cons {r : Round} (h : r.Filled good most items)
    (placed : r.candidate.members ≠ []) (config : ConfigId) {profiles : List Profile}
    {unpackable : List String} (later : Chunked good most r.deferred profiles unpackable) :
    Chunked good most items (r.candidate.profile config :: profiles) unpackable := by
  have some := placed
  rw [h.members, Ne, List.take_eq_nil_iff, not_or] at some
  obtain ⟨positive, some⟩ := some
  refine ⟨?_, ?_⟩
  · have counters : (r.candidate.profile config).counters =
        ((items.filter good).map fun i => i.name).take most := by
      rw [← List.map_take, ← h.members]
      rfl
    rw [List.map_cons, later.profiles_eq, h.deferred_good, List.map_drop, counters,
      chunks_of_ne_nil (Nat.pos_of_ne_zero positive) (mt List.map_eq_nil_iff.1 some)]
  · rw [later.unpackable_eq, if_neg positive, if_neg positive, h.deferred_other]

/-- The rounds cut the good items into pieces. -/
theorem rounds_chunks (consistent : b.Consistent F) (fuel : Nat)
    (selects : Selects F p good most items) (enough : items.length ≤ fuel) {c : Catalog}
    (truthful : c.Truthful F owner) (s : σ) :
    let y := (((p.rounds fuel items).run c).run b s).1.1
    Chunked good most items y.1 y.2 := by
  refine rounds_induction (b := b) (p := p)
    (I := fun items c _ _ profiles unpackable _ _ => c.Truthful F owner →
      Selects F p good most items → Chunked good most items profiles unpackable)
    ?_ ?_ fuel items enough c s truthful selects
  · intro items c s r c' s' events run none truthful selects
    exact (run.filled consistent selects truthful).chunked_nil none
  · intro items c s r c' s' events config later profiles unpackable c'' s'' run placed ih truthful
      selects
    have truthful' := (run.sound consistent truthful).2
    exact (run.filled consistent selects truthful).chunked_cons (run.dealt.members_ne_nil placed)
      config (ih truthful' (selects.sublist run.dealt.splits.second_sublist))

/-! ## Devices without a bad counter -/

/-- The device takes some of these items together just if they are no more than `limit`, and their
records can be counted and are few enough for a word. -/
structure Roomy (F : Facts) (agent : AgentId) (limit most : Nat) (items : List Item) : Prop where
  sized : ∀ i ∈ items, ∃ n, F.sizeOf? i.id = some n ∧ n ≤ most
  word : (limit + 1) * most ≤ Word.max
  taken_iff : ∀ members, members ⊆ items →
    (F.verdict agent (members.map fun m => m.id) = .taken ↔ members.length ≤ limit)

/-- As many items as are taken have no more records than a word can count. -/
theorem Roomy.totalSize_le (h : Roomy F agent limit most items) {members : List Item}
    (within : members ⊆ items) (few : members.length ≤ limit) :
    F.totalSize (members.map fun m => m.id) ≤ Word.max := by
  have each : ∀ id ∈ members.map (fun m => m.id), ∀ n, F.sizeOf? id = some n → n ≤ most := by
    intro id mem n counted
    obtain ⟨m, there, rfl⟩ := List.mem_map.1 mem
    obtain ⟨n', counted', least⟩ := h.sized m (within there)
    rw [Option.some.inj (counted.symm.trans counted')]
    exact least
  have together := Facts.totalSize_le each
  rw [List.length_map] at together
  have bound : members.length * most ≤ (limit + 1) * most :=
    Nat.mul_le_mul_right most (Nat.le_succ_of_le few)
  exact Nat.le_trans together (Nat.le_trans bound h.word)

/-- Where the device takes any items up to a limit, all items are good. -/
theorem Roomy.selects (h : Roomy F p.agent limit most items) :
    Selects F p (fun _ => true) (min limit p.maxPerProfile) items := by
  intro members i there _
  have within := there.subset
  have taken := h.taken_iff _ within
  rw [List.length_append, List.length_singleton] at taken
  constructor
  · intro fits
    have capped := fits.capped
    rw [List.length_map, List.length_append, List.length_singleton] at capped
    have few := taken.1 fits.taken
    exact ⟨rfl, by omega⟩
  · rintro ⟨-, few⟩
    have fits : members.length + 1 ≤ limit := by omega
    refine ⟨?_, fun id mem => ?_, h.totalSize_le within ?_, taken.2 fits⟩
    · rw [List.length_map, List.length_append, List.length_singleton]
      omega
    · obtain ⟨m, old, rfl⟩ := List.mem_map.1 mem
      obtain ⟨n, counted, -⟩ := h.sized m (within old)
      rw [counted]
      rfl
    · rw [List.length_append, List.length_singleton]
      exact fits

/-- On a device with a plain limit every requested counter of the agent is packed, into as few
profiles as can be. -/
theorem pack_greedy (steady : b.Steady F) {p : Packer} (positive : 0 < min limit p.maxPerProfile)
    {known : NameMap CounterId} (listing : F.listing p.agent = .ok known) {request : List String}
    (roomy : Roomy F p.agent limit most (resolve known (distinct request)).1) {c : Catalog}
    (truthful : c.Truthful F p.agent) (s : σ) :
    ∃ set, (((p.pack request).run.run c).run b s).1.1 = .ok set ∧ set.unpackable = [] ∧
      set.profiles.length =
        ((distinct request).countP (fun name => (known.find? name).isSome) +
          min limit p.maxPerProfile - 1) / min limit p.maxPerProfile := by
  obtain ⟨c', s', listed, truthful'⟩ := Catalog.run_list steady.consistent.informs truthful s
  rw [listing] at listed
  have count : (resolve known (distinct request)).1.length =
      (distinct request).countP fun name => (known.find? name).isSome := by
    rw [List.countP_eq_length_filter, ← (resolve_eq known _).1, List.length_map]
  have chunked := rounds_chunks steady.consistent _ roomy.selects (Nat.le_refl _) truthful' s'
  refine ⟨_, congrArg (fun x => x.1.1) (run_pack_listed listed), ?_, ?_⟩
  · have none := chunked.unpackable_eq
    rw [if_neg (Nat.ne_of_gt positive), List.filter_eq_nil_iff.2 (by simp)] at none
    exact none
  · have many := chunked.length_profiles
    rw [List.filter_eq_self.2 (by simp)] at many
    rw [← count]
    exact many

end Packer

end CounterSampling
