import CounterSampling.Proofs.Packing.Round

/-!
# Packing partitions the request

Whatever a device answers, packing puts every requested name in exactly one place: into one profile,
among the unsupported names or among the unpackable ones. A round splits its items into the members
of its profile and the items it defers, both in the order of the request; the rounds put these
splits together. Main statement: `pack_covers`.
-/

namespace CounterSampling

variable {α β : Type}

/-- A list dealt out into two lists that keep its order. -/
structure Splits (whole first second : List α) : Prop where
  perm : (first ++ second).Perm whole
  first_sublist : first.Sublist whole
  second_sublist : second.Sublist whole

namespace Splits

theorem nil : Splits ([] : List α) [] [] :=
  ⟨.nil, .slnil, .slnil⟩

/-- Deal the next element out to the first list. -/
theorem append_first {whole first second : List α} (h : Splits whole first second) (a : α) :
    Splits (whole ++ [a]) (first ++ [a]) second where
  perm := by
    rw [List.append_assoc]
    have moved : ([a] ++ second).Perm (second ++ [a]) := List.perm_append_comm
    refine (moved.append_left first).trans ?_
    rw [← List.append_assoc]
    exact h.perm.append_right [a]
  first_sublist := h.first_sublist.append (.refl [a])
  second_sublist := h.second_sublist.trans (List.sublist_append_left whole [a])

/-- Deal the next element out to the second list. -/
theorem append_second {whole first second : List α} (h : Splits whole first second) (a : α) :
    Splits (whole ++ [a]) first (second ++ [a]) where
  perm := by
    rw [← List.append_assoc]
    exact h.perm.append_right [a]
  first_sublist := h.first_sublist.trans (List.sublist_append_left whole [a])
  second_sublist := h.second_sublist.append (.refl [a])

theorem map {whole first second : List α} (h : Splits whole first second) (f : α → β) :
    Splits (whole.map f) (first.map f) (second.map f) where
  perm := by
    rw [← List.map_append]
    exact h.perm.map f
  first_sublist := h.first_sublist.map f
  second_sublist := h.second_sublist.map f

end Splits

/-- What a profile set says about a request: `known` are the counters of the agent and `cap` is the
most counters that a profile may hold. -/
structure ProfileSet.Covers (set : ProfileSet) (known : NameMap CounterId) (cap : Nat)
    (request : List String) : Prop where
  /-- Every requested name is in one place and there once. -/
  partition : (set.counterNames ++ set.unsupported ++ set.unpackable).Perm (distinct request)
  /-- The unsupported names are those that the agent has no counter for. -/
  unsupported_eq : set.unsupported = (distinct request).filter fun name => (known.find? name).isNone
  nonempty : ∀ q ∈ set.profiles, q.counters ≠ []
  capped : ∀ q ∈ set.profiles, q.counters.length ≤ cap
  /-- The names of a profile stand in the order in which they were first requested. -/
  profile_sublist : ∀ q ∈ set.profiles, q.counters.Sublist (distinct request)
  unsupported_sublist : set.unsupported.Sublist (distinct request)
  unpackable_sublist : set.unpackable.Sublist (distinct request)

namespace Packer

variable {σ : Type}

/-- What a round under way has done with the items considered so far. -/
structure Round.Dealt (r : Round) (cap : Nat) (items : List Item) : Prop where
  splits : Splits items r.candidate.members r.deferred
  capped : r.candidate.members.length ≤ cap
  /-- There is a configuration just if there are members. -/
  configured : r.candidate.config = none ↔ r.candidate.members = []

theorem Round.Dealt.empty (cap : Nat) : Round.Dealt {} cap [] :=
  ⟨Splits.nil, Nat.zero_le _, fun _ => rfl, fun _ => rfl⟩

/-- A round that placed something has members. -/
theorem Round.Dealt.members_ne_nil {r : Round} {cap : Nat} {items : List Item} {config : ConfigId}
    (h : r.Dealt cap items) (placed : r.candidate.config = some config) :
    r.candidate.members ≠ [] := by
  intro none
  rw [h.configured.2 none] at placed
  cases placed

theorem Round.deferred_defer (r : Round) (i : Item) : (r.defer i).deferred = r.deferred ++ [i] :=
  List.reverse_cons

theorem Round.Dealt.defer {r : Round} {cap : Nat} {items : List Item} (h : r.Dealt cap items)
    (i : Item) : (r.defer i).Dealt cap (items ++ [i]) where
  splits := by
    rw [Round.deferred_defer]
    exact h.splits.append_second i
  capped := h.capped
  configured := h.configured

theorem Round.Dealt.join {r : Round} {cap : Nat} {items : List Item} (h : r.Dealt cap items)
    (room : r.candidate.members.length < cap) (i : Item) (total : Nat) (config : ConfigId) :
    (r.join i total config).Dealt cap (items ++ [i]) where
  splits := h.splits.append_first i
  capped := by
    change (r.candidate.members ++ [i]).length ≤ cap
    rw [List.length_append, List.length_singleton]
    omega
  configured := by simp [Round.join]

/-- Considering an item deals it out. -/
theorem Considered.dealt {b : Backend σ} {p : Packer} {r r' : Round} {i : Item} {c c' : Catalog}
    {s s' : σ} {events : List Event} {items : List Item} (h : r.Dealt p.maxPerProfile items)
    (step : Considered b p r i c s r' c' s' events) : r'.Dealt p.maxPerProfile (items ++ [i]) := by
  cases step with
  | full cap => exact h.defer i
  | unsized room size => exact h.defer i
  | overflow room size sum => exact h.defer i
  | refused room size sum refusal => exact h.defer i
  | joined room size sum taken => exact h.join room i _ _

/-- A round deals out all its items. -/
theorem round_dealt (b : Backend σ) (p : Packer) (items : List Item) (c : Catalog) (s : σ) :
    (((p.round {} items).run c).run b s).1.1.Dealt p.maxPerProfile items := by
  exact round_induction (I := fun done r _ _ _ => r.Dealt p.maxPerProfile done)
    (fun h step => step.dealt h) items [] {} c s [] (.empty p.maxPerProfile)

/-- A round that placed something leaves fewer items to the next one. -/
theorem Round.Dealt.fewer_deferred {r : Round} {cap : Nat} {items : List Item} {config : ConfigId}
    (h : r.Dealt cap items) (placed : r.candidate.config = some config) :
    r.deferred.length < items.length := by
  have positive := List.length_pos_iff.2 (h.members_ne_nil placed)
  have length := h.splits.perm.length_eq
  rw [List.length_append] at length
  omega

/-- Profiles and left over names that make up a list of names. -/
structure Packs (cap : Nat) (names : List String) (profiles : List Profile)
    (unpackable : List String) : Prop where
  perm : ((profiles.flatMap fun q => q.counters) ++ unpackable).Perm names
  nonempty : ∀ q ∈ profiles, q.counters ≠ []
  capped : ∀ q ∈ profiles, q.counters.length ≤ cap
  profile_sublist : ∀ q ∈ profiles, q.counters.Sublist names
  unpackable_sublist : unpackable.Sublist names

theorem Packs.none (cap : Nat) (names : List String) : Packs cap names [] names :=
  ⟨.refl names, nofun, nofun, nofun, .refl names⟩

/-- One profile more, made of names of which the others are left. -/
theorem Packs.cons {cap : Nat} {names rest unpackable : List String} {q : Profile}
    {profiles : List Profile} (split : Splits names q.counters rest) (nonempty : q.counters ≠ [])
    (capped : q.counters.length ≤ cap) (h : Packs cap rest profiles unpackable) :
    Packs cap names (q :: profiles) unpackable where
  perm := by
    rw [List.flatMap_cons, List.append_assoc]
    exact (h.perm.append_left _).trans split.perm
  nonempty := List.forall_mem_cons.2 ⟨nonempty, h.nonempty⟩
  capped := List.forall_mem_cons.2 ⟨capped, h.capped⟩
  profile_sublist := List.forall_mem_cons.2
    ⟨split.first_sublist, fun q hq => (h.profile_sublist q hq).trans split.second_sublist⟩
  unpackable_sublist := h.unpackable_sublist.trans split.second_sublist

/-- A round that placed nothing has deferred all its items, in order. -/
theorem Round.Dealt.all_deferred {r : Round} {cap : Nat} {items : List Item}
    (h : r.Dealt cap items) (config : r.candidate.config = none) : r.deferred = items := by
  have empty : r.candidate.members = [] := h.configured.1 config
  have perm := h.splits.perm
  rw [empty, List.nil_append] at perm
  exact h.splits.second_sublist.eq_of_length perm.length_eq

/-- The profile of a round and what is made of the items it deferred. -/
theorem Round.Dealt.packs_cons {r : Round} {cap : Nat} {items : List Item} {config : ConfigId}
    {profiles : List Profile} {unpackable : List String} (h : r.Dealt cap items)
    (placed : r.candidate.config = some config)
    (later : Packs cap (r.deferred.map fun i => i.name) profiles unpackable) :
    Packs cap (items.map fun i => i.name) (r.candidate.profile config :: profiles) unpackable := by
  refine later.cons (h.splits.map fun i => i.name) ?_ ?_
  · exact mt List.map_eq_nil_iff.1 (h.members_ne_nil placed)
  · change (r.candidate.members.map fun i => i.name).length ≤ cap
    rw [List.length_map]
    exact h.capped

/-- The rounds pack the names of their items. -/
theorem rounds_packs (b : Backend σ) (p : Packer) (fuel : Nat) (items : List Item) (c : Catalog)
    (s : σ) :
    Packs p.maxPerProfile (items.map fun i => i.name)
      (((p.rounds fuel items).run c).run b s).1.1.1
      (((p.rounds fuel items).run c).run b s).1.1.2 := by
  induction fuel generalizing items c s with
  | zero => cases items <;> exact Packs.none _ _
  | succ fuel ih =>
    cases items with
    | nil => exact Packs.none _ _
    | cons i is =>
      have dealt := round_dealt b p (i :: is) c s
      rw [run_rounds_succ]
      generalize ((p.round {} (i :: is)).run c).run b s = x at dealt ⊢
      obtain ⟨⟨r, c'⟩, s'⟩ := x
      cases config : r.candidate.config with
      | none =>
        simp only [config, dealt.all_deferred config]
        exact Packs.none _ _
      | some new =>
        simp only [config]
        exact dealt.packs_cons config (ih r.deferred c' s')

/-- Resolving names sorts out those that are known. -/
theorem resolve_eq (known : NameMap CounterId) (names : List String) :
    (resolve known names).1.map (fun i => i.name) =
        names.filter (fun name => (known.find? name).isSome) ∧
      (resolve known names).2 = names.filter fun name => (known.find? name).isNone := by
  induction names with
  | nil => exact ⟨rfl, rfl⟩
  | cons name names ih =>
    cases found : known.find? name with
    | none => simp [resolve, found, ih]
    | some id => simp [resolve, found, ih]

/-- The names of some of the resolved items are the known ones among such names. -/
theorem map_name_filter_resolve (known : NameMap CounterId) (good : String → Bool)
    (names : List String) :
    ((resolve known names).1.filter fun i => good i.name).map (fun i => i.name) =
      names.filter fun name => (known.find? name).isSome && good name := by
  have moved := List.filter_map (f := fun i : Item => i.name) (p := good)
    (l := (resolve known names).1)
  rw [(resolve_eq known names).1, List.filter_filter] at moved
  exact moved.symm.trans (List.filter_congr fun name _ => Bool.and_comm _ _)

end Packer

/-- Supported names that were packed and the names that are not supported make up a request. -/
theorem ProfileSet.covers_of_packs {known : NameMap CounterId} {cap : Nat} {request : List String}
    {profiles : List Profile} {unpackable : List String}
    (h : Packer.Packs cap ((distinct request).filter fun name => (known.find? name).isSome)
      profiles unpackable) :
    (ProfileSet.mk profiles ((distinct request).filter fun name => (known.find? name).isNone)
      unpackable).Covers known cap request where
  partition := by
    have apart : (((profiles.flatMap fun q => q.counters) ++
        (distinct request).filter fun name => (known.find? name).isNone) ++ unpackable).Perm
        (((profiles.flatMap fun q => q.counters) ++ unpackable) ++
          (distinct request).filter fun name => (known.find? name).isNone) := by
      rw [List.append_assoc, List.append_assoc]
      exact List.perm_append_comm.append_left _
    refine (apart.trans (h.perm.append_right _)).trans ?_
    simpa using List.filter_append_perm (fun name => (known.find? name).isSome) (distinct request)
  unsupported_eq := rfl
  nonempty := h.nonempty
  capped := h.capped
  profile_sublist := fun q hq => (h.profile_sublist q hq).trans List.filter_sublist
  unsupported_sublist := List.filter_sublist
  unpackable_sublist := h.unpackable_sublist.trans List.filter_sublist

/-- On every device and whatever it answers, packing succeeds just if the counters of the agent can
be listed, and then it partitions the request. -/
theorem Packer.pack_covers {σ : Type} (b : Backend σ) (p : Packer) (request : List String)
    (c : Catalog) (s : σ) :
    match ((Catalog.list.run.run c).run b s).1.1, (((p.pack request).run.run c).run b s).1.1 with
    | .ok known, .ok set => set.Covers known p.maxPerProfile request
    | .error e, .error e' => e' = e
    | _, _ => False := by
  rw [run_pack]
  rcases (Catalog.list.run.run c).run b s with ⟨⟨listed, c'⟩, s'⟩
  cases listed with
  | error e => rfl
  | ok known =>
    have packs := rounds_packs b p (resolve known (distinct request)).1.length
      (resolve known (distinct request)).1 c' s'
    rw [(resolve_eq known _).1] at packs
    dsimp only
    rw [(resolve_eq known _).2]
    exact ProfileSet.covers_of_packs packs

end CounterSampling
