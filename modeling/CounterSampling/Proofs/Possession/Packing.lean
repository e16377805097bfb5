import CounterSampling.Proofs.Packing.Sizes
import CounterSampling.Proofs.Possession.Stock

/-!
# What packing makes

A round holds the configuration of its profile and no other that it made. When packing ends, what
was added to the stock are the configurations of its profiles, each with the counters that the names
of the profile stand for and sized for all their records.
-/

namespace CounterSampling

/-- A profile whose configuration is in stock, with the counters it was made of. -/
def Profile.InStock (d : Device) (agent : AgentId) (known : NameMap CounterId) (stock : Stock)
    (p : Profile) : Prop :=
  ∃ members, p.Made d.facts agent known members ∧ (p.config, members.map fun m => m.id) ∈ stock

theorem Profile.InStock.subset {d : Device} {agent : AgentId} {known : NameMap CounterId}
    {stock stock' : Stock} {p : Profile} (h : p.InStock d agent known stock)
    (within : stock ⊆ stock') : p.InStock d agent known stock' := by
  obtain ⟨members, made, held⟩ := h
  exact ⟨members, made, within held⟩

/-- A set that was packed for a request and whose profiles are in stock. -/
structure ProfileSet.InStock (d : Device) (agent : AgentId) (known : NameMap CounterId)
    (stock : Stock) (request : List String) (set : ProfileSet) : Prop where
  profiles : ∀ p ∈ set.profiles, p.InStock d agent known stock
  covers : ∃ cap, set.Covers known cap request

section InStock

variable {d : Device} {agent : AgentId} {known : NameMap CounterId} {stock stock' : Stock}
  {request : List String} {set : ProfileSet}

theorem ProfileSet.InStock.subset (h : set.InStock d agent known stock request)
    (within : stock ⊆ stock') : set.InStock d agent known stock' request :=
  ⟨fun p mem => (h.profiles p mem).subset within, h.covers⟩

/-- No name occurs twice in a set. -/
theorem ProfileSet.InStock.distinct (h : set.InStock d agent known stock request) :
    set.counterNames.Nodup := by
  obtain ⟨cap, covers⟩ := h.covers
  have once := covers.partition.nodup_iff.2 (nodup_distinct request)
  exact (List.nodup_append.1 (List.nodup_append.1 once).1).1

end InStock

namespace Packer

variable {d : Device} {agent : AgentId} {context : ContextId}

/-- The configuration of a candidate with its counters, if it has one. -/
def Candidate.stock (c : Candidate) : Stock :=
  (c.config.map fun config => (config, c.members.map fun m => m.id)).toList

/-- A round that has considered some items: beyond what was held before it holds the configuration
of its profile. -/
structure Round.Backed (d : Device) (p : Packer) (done : List Item) (before stock : Stock)
    (r : Round) : Prop where
  dealt : r.Dealt p.maxPerProfile done
  sound : r.candidate.Sound d.facts p.agent
  stock_eq : stock = r.candidate.stock ++ before
  nodup : stock.configs.Nodup

section Round

variable {p : Packer} {done : List Item} {before stock : Stock} {r : Round}

theorem Round.backed_empty (nodup : before.configs.Nodup) :
    Round.Backed d p [] before before {} where
  dealt := ⟨Splits.nil, Nat.zero_le _, fun _ => rfl, fun _ => rfl⟩
  sound := Candidate.sound_empty _ _
  stock_eq := rfl
  nodup := nodup

theorem Round.Backed.defer (h : r.Backed d p done before stock) (i : Item) :
    (r.defer i).Backed d p (done ++ [i]) before stock :=
  ⟨h.dealt.defer i, h.sound, h.stock_eq, h.nodup⟩

/-- Adding an item replaces the configuration of the profile by a larger one. -/
theorem Round.Backed.join (h : r.Backed d p done before stock)
    (room : r.candidate.members.length < p.maxPerProfile) {i : Item} {total : Nat}
    {config : ConfigId} (sound : (r.join i total config).candidate.Sound d.facts p.agent)
    (fresh : config ∉ stock.configs) :
    (r.join i total config).Backed d p (done ++ [i]) before
      ((config, (r.candidate.members ++ [i]).map fun m => m.id) :: before) := by
  have stock_eq := h.stock_eq
  have nodup := h.nodup
  rw [stock_eq, Stock.configs, List.map_append] at fresh nodup
  have others : config ∉ before.configs := fun mem => fresh (List.mem_append_right _ mem)
  exact ⟨h.dealt.join room i _ _, sound, rfl,
    List.nodup_cons.2 ⟨others, (List.nodup_append.1 nodup).2.1⟩⟩

/-- Releasing the configuration that a new one replaces leaves the new one alone. -/
theorem releasePrevious_manages (h : r.Backed d p done before stock) {config : ConfigId}
    (fresh : config ∉ stock.configs) (ids : List CounterId) :
    (releasePrevious r.candidate).Manages d context
      (fun stock' _ => stock' = (config, ids) :: before) ((config, ids) :: stock) := by
  have stock_eq := h.stock_eq
  have nodup := h.nodup
  unfold releasePrevious
  cases previous : r.candidate.config with
  | none =>
    simp only [Candidate.stock, previous, Option.map_none, Option.toList_none,
      List.nil_append] at stock_eq
    rw [stock_eq]
    rfl
  | some old =>
    simp only [Candidate.stock, previous, Option.map_some, Option.toList_some,
      List.singleton_append] at stock_eq
    subst stock_eq
    have absent : old ∉ before.configs := (List.nodup_cons.1 nodup).1
    have other : config ≠ old := by
      rintro rfl
      exact fresh List.mem_cons_self
    refine ⟨List.mem_cons_of_mem _ List.mem_cons_self, fun _ _ => ?_⟩
    have kept : before.filter (fun held => !decide (held.1 = old)) = before := by
      refine List.filter_eq_self.2 fun held mem => ?_
      have ne : held.1 ≠ old := by
        rintro rfl
        exact absent (List.mem_map_of_mem mem)
      simpa using ne
    change List.filter (fun held => !decide (held.1 = old)) ((config, ids) :: (old, _) :: before) =
      (config, ids) :: before
    rw [List.filter_cons_of_pos (by simpa using other), List.filter_cons_of_neg (by simp), kept]

/-- Trying to add an item keeps the round backed, whether the device takes it or not. -/
theorem tryAdd_manages (h : r.Backed d p done before stock)
    (room : r.candidate.members.length < p.maxPerProfile) {i : Item} {n total : Nat}
    (counted : d.facts.sizeOf? i.id = some n)
    (sum : Word.add? r.candidate.size n = some total) :
    (p.tryAdd r i total).Manages d context
      (fun stock' r' => r'.Backed d p (done ++ [i]) before stock') stock := by
  refine ⟨trivial, fun outcome allowed => ?_⟩
  cases outcome with
  | capacityExceeded => exact h.defer i
  | failed e => exact h.defer i
  | configured config =>
    have fresh : config ∉ stock.configs := allowed.fresh config rfl
    have sound := Round.join_sound h.sound counted sum allowed.tells.symm config
    refine (releasePrevious_manages h fresh _).bind fun stock' _ released => ?_
    rw [released]
    exact h.join room sound fresh

/-- Considering an item keeps the round backed. -/
theorem consider_manages (h : r.Backed d p done before stock) (i : Item) {c : Catalog}
    (truthful : c.Truthful d.facts agent) :
    ((p.consider r i).run c).Manages d context
      (fun stock' y => y.1.Backed d p (done ++ [i]) before stock' ∧
        y.2.Truthful d.facts agent) stock := by
  unfold consider
  by_cases full : p.maxPerProfile ≤ r.candidate.members.length
  · rw [if_pos full]
    exact ⟨h.defer i, truthful⟩
  rw [if_neg full]
  have learned := (sizeOf?_learns i.id c truthful).manages context stock
  refine learned.bind ?_
  rintro stock' ⟨size, c'⟩ ⟨rfl, sized, truthful'⟩
  cases size with
  | none => exact ⟨h.defer i, truthful'⟩
  | some n =>
    cases sum : Word.add? r.candidate.size n with
    | none =>
      simp only [sum]
      exact ⟨h.defer i, truthful'⟩
    | some total =>
      simp only [sum]
      have tried : (p.tryAdd r i total).Manages d context _ stock' :=
        tryAdd_manages h (Nat.lt_of_not_le full) sized.symm sum
      exact tried.bind fun stock' r' backed => ⟨backed, truthful'⟩

theorem round_manages (items : List Item) (h : r.Backed d p done before stock) {c : Catalog}
    (truthful : c.Truthful d.facts agent) :
    ((p.round r items).run c).Manages d context
      (fun stock' y => y.1.Backed d p (done ++ items) before stock' ∧
        y.2.Truthful d.facts agent) stock := by
  induction items generalizing r done stock c with
  | nil =>
    rw [List.append_nil]
    exact ⟨h, truthful⟩
  | cons i is ih =>
    refine (consider_manages h i truthful).bind fun stock' y considered => ?_
    rw [List.append_cons]
    exact ih considered.1 considered.2

end Round

/-- What the rounds make of items and add to the stock: the configurations of the profiles, and
nothing else. -/
structure Backs (d : Device) (p : Packer) (known : NameMap CounterId) (items : List Item)
    (before stock : Stock) (profiles : List Profile) (unpackable : List String) : Prop where
  suffix : before <:+ stock
  nodup : stock.configs.Nodup
  inStock : ∀ q ∈ profiles, q.InStock d p.agent known stock
  packs : Packs p.maxPerProfile (items.map fun i => i.name) profiles unpackable

section Backs

variable {known : NameMap CounterId} {items : List Item} {p : Packer} {before stock : Stock}
  {r : Round}

/-- Without a round there are no profiles. -/
theorem Backs.none (nodup : stock.configs.Nodup) (items : List Item) :
    Backs d p known items stock stock [] (items.map fun i => i.name) :=
  ⟨List.suffix_refl _, nodup, nofun, .none _ _⟩

/-- A round that placed nothing has deferred all its items. -/
theorem Round.Backed.ended (h : r.Backed d p items before stock)
    (config : r.candidate.config = .none) :
    Backs d p known items before stock [] (r.deferred.map fun i => i.name) := by
  have stock_eq := h.stock_eq
  simp only [Candidate.stock, config, Option.map_none, Option.toList_none,
    List.nil_append] at stock_eq
  rw [h.dealt.all_deferred config]
  exact ⟨stock_eq ▸ List.suffix_refl _, h.nodup, nofun, .none _ _⟩

/-- The profile of a round stands before those of the later rounds. -/
theorem Round.Backed.placed (h : r.Backed d p items before stock) {config : ConfigId}
    (placed : r.candidate.config = some config)
    (resolved : ∀ i ∈ items, known.find? i.name = some i.id) {stock' : Stock}
    {profiles : List Profile} {unpackable : List String}
    (later : Backs d p known r.deferred stock stock' profiles unpackable) :
    Backs d p known items before stock' (r.candidate.profile config :: profiles) unpackable := by
  have stock_eq := h.stock_eq
  simp only [Candidate.stock, placed, Option.map_some, Option.toList_some,
    List.singleton_append] at stock_eq
  have made := h.sound.made placed
    fun m mem => resolved m (h.dealt.splits.first_sublist.subset mem)
  have held : (config, r.candidate.members.map fun m => m.id) ∈ stock := by
    rw [stock_eq]
    exact List.mem_cons_self
  have grown : before <:+ stock := by
    rw [stock_eq]
    exact List.suffix_cons _ _
  refine ⟨grown.trans later.suffix, later.nodup, ?_, h.dealt.packs_cons placed later.packs⟩
  exact List.forall_mem_cons.2 ⟨⟨_, made, later.suffix.subset held⟩, later.inStock⟩

end Backs

/-- The rounds make profiles of the items. -/
theorem rounds_manages (p : Packer) (fuel : Nat) {items : List Item} {known : NameMap CounterId}
    (resolved : ∀ i ∈ items, known.find? i.name = some i.id) {stock : Stock}
    (nodup : stock.configs.Nodup) {c : Catalog} (truthful : c.Truthful d.facts agent) :
    ((p.rounds fuel items).run c).Manages d context
      (fun stock' y => Backs d p known items stock stock' y.1.1 y.1.2 ∧ y.2.Truthful d.facts agent)
      stock := by
  induction fuel generalizing items stock c with
  | zero => cases items <;> exact ⟨.none nodup _, truthful⟩
  | succ fuel ih =>
    cases items with
    | nil => exact ⟨.none nodup [], truthful⟩
    | cons i is =>
      have empty : Round.Backed d p [] stock stock {} := Round.backed_empty nodup
      have dealt : ((p.round {} (i :: is)).run c).Manages d context _ stock :=
        round_manages (i :: is) empty truthful
      refine dealt.bind ?_
      rintro stock' ⟨r, c'⟩ ⟨backed, truthful'⟩
      cases config : r.candidate.config with
      | none =>
        simp only [config]
        exact ⟨backed.ended config, truthful'⟩
      | some new =>
        simp only [config]
        have later : ∀ i ∈ r.deferred, known.find? i.name = some i.id :=
          fun i mem => resolved i (backed.dealt.splits.second_sublist.subset mem)
        refine (ih later backed.nodup truthful').bind ?_
        rintro stock'' ⟨packed, c''⟩ ⟨backs, truthful''⟩
        exact ⟨backed.placed config resolved backs, truthful''⟩

/-- What comes of packing, and what it adds to the stock. -/
structure Packed (d : Device) (agent : AgentId) (request : List String) (before stock : Stock)
    (r : Except SamplerError ProfileSet) : Prop where
  suffix : before <:+ stock
  nodup : stock.configs.Nodup
  ok : ∀ set, r = .ok set →
    ∃ known, d.facts.listing agent = .ok known ∧ set.InStock d agent known stock request
  error : ∀ e, r = .error e →
    ∃ cause, d.facts.listing agent = .error cause ∧ e = .catalog agent cause

/-- Packing adds the configurations of the profiles to the stock; it fails just if the counters of
the agent cannot be listed. -/
theorem pack_manages (p : Packer) (request : List String) {stock : Stock}
    (nodup : stock.configs.Nodup) {c : Catalog} (truthful : c.Truthful d.facts p.agent) :
    ((p.pack request).run.run c).Manages d context
      (fun stock' y => Packed d p.agent request stock stock' y.1 ∧
        y.2.Truthful d.facts p.agent) stock := by
  have listed := (Catalog.list_learns c truthful).manages context stock
  rw [run_pack_eq]
  refine listed.bind ?_
  rintro stock' ⟨known, c'⟩ ⟨rfl, told, truthful'⟩
  cases known with
  | error e =>
    refine ⟨⟨List.suffix_refl _, nodup, nofun, ?_⟩, truthful'⟩
    rintro e' same
    obtain rfl := Except.error.inj same
    cases listing : d.facts.listing p.agent with
    | ok known =>
      rw [listing] at told
      cases told
    | error cause =>
      rw [listing] at told
      exact ⟨cause, rfl, Except.error.inj told⟩
  | ok known =>
    have listing := mapError_eq_ok.1 told.symm
    have resolved := resolve_known known (CounterSampling.distinct request)
    obtain ⟨names, missing⟩ := resolve_eq known (CounterSampling.distinct request)
    refine (p.rounds_manages _ resolved nodup truthful').bind ?_
    rintro stock'' ⟨packed, c''⟩ ⟨backs, truthful''⟩
    refine ⟨⟨backs.suffix, backs.nodup, ?_, nofun⟩, truthful''⟩
    rintro set same
    obtain rfl := Except.ok.inj same
    have packs := backs.packs
    rw [names] at packs
    refine ⟨known, listing, backs.inStock, p.maxPerProfile, ?_⟩
    dsimp only
    rw [missing]
    exact ProfileSet.covers_of_packs packs

end Packer

end CounterSampling
