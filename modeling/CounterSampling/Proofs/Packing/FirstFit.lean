import CounterSampling.Proofs.Device.Verdicts

/-!
# First fit

Every item that a round puts off has some first members of the profile that bar it, and every item
that is left over in the end is barred by no members at all: `FirstFit`. If the device takes with
any set also every part of it, an item that is barred by some of the members is barred by all of
them, and no later item could have joined an earlier profile. Main statements: `pack_alone` and
`pack_tight`.
-/

namespace CounterSampling

variable {σ : Type} {b : Backend σ} {F : Facts} {agent owner : AgentId} {cap : Nat}

/-- Nothing could have joined an earlier profile of a set than the one that it is in: what a set
says about a request if the device takes the parts of what it takes. `known` are the counters of the
agent and `cap` is the most counters that a profile may hold. -/
structure ProfileSet.Tight (F : Facts) (agent : AgentId) (cap : Nat) (known : NameMap CounterId)
    (request : List String) (set : ProfileSet) : Prop where
  /-- No counter of a later profile can join an earlier one. -/
  later : set.profiles.Pairwise fun q q' => ∀ name ∈ q'.counters, ∃ id,
    known.find? name = some id ∧ F.Excludes agent cap (q.ids known) q.expectedSize id
  /-- No counter that is left over can join any profile. -/
  unpackable : ∀ q ∈ set.profiles, ∀ name ∈ set.unpackable, ∃ id,
    known.find? name = some id ∧ F.Excludes agent cap (q.ids known) q.expectedSize id
  /-- Two profiles cannot be one, neither the later counters after the earlier ones nor all of them
  in the order of the request. -/
  apart : set.profiles.Pairwise fun q q' =>
    ¬F.Fits agent cap (q.ids known ++ q'.ids known) ∧
    ¬F.Fits agent cap (((distinct request).filter fun name =>
      decide (name ∈ q.counters ++ q'.counters)).filterMap known.find?)

namespace Packer

variable {p : Packer} {known : NameMap CounterId}

/-! ## Rounds -/

/-- Some first members of a profile, which stand before this item, bar it from the profile. -/
def Barred (F : Facts) (p : Packer) (items members : List Item) (i : Item) : Prop :=
  ∃ first, first <+: members ∧ (first ++ [i]).Sublist items ∧
    ¬F.Fits p.agent p.maxPerProfile ((first ++ [i]).map fun m => m.id)

theorem Barred.mono {items items' members members' : List Item} {i : Item}
    (h : Barred F p items members i) (within : items.Sublist items')
    (grown : members <+: members') : Barred F p items' members' i := by
  obtain ⟨first, before, there, barred⟩ := h
  exact ⟨first, before.trans grown, there.trans within, barred⟩

/-- On a device that takes the parts of what it takes, nothing that holds the members and then an
item that they bar can be one profile. -/
theorem Barred.not_fits {items members : List Item} {i : Item} (h : Barred F p items members i)
    (closed : F.DownwardClosed p.agent) {ids : List CounterId}
    (within : ∀ first, first <+: members → (first ++ [i]).Sublist items →
      ((first ++ [i]).map fun m => m.id).Sublist ids) : ¬F.Fits p.agent p.maxPerProfile ids := by
  obtain ⟨first, before, there, barred⟩ := h
  exact fun fits => barred (fits.sublist closed (within first before there))

/-- What a round puts off is barred by the members that it has by then. -/
theorem RoundRun.barred {items : List Item} {r : Round} {c c' : Catalog} {s s' : σ}
    {events : List Event} (run : RoundRun b p items c s r c' s' events)
    (consistent : b.Consistent F) (truthful : c.Truthful F owner) :
    ∀ i ∈ r.deferred, Barred F p items r.candidate.members i := by
  refine run.fits_induct (I := fun done r => ∀ i ∈ r.deferred,
    Barred F p done r.candidate.members i) consistent truthful nofun ?_ ?_
  · intro done r i total config _ _ h _ j mem
    exact (h j mem).mono (List.sublist_append_left done [i]) (List.prefix_append _ _)
  · intro done r i _ dealt h out j mem
    rw [Round.deferred_defer] at mem
    rcases List.mem_append.1 mem with old | new
    · exact (h j old).mono (List.sublist_append_left done [i]) (List.prefix_refl _)
    · rw [List.mem_singleton.1 new]
      exact ⟨_, List.prefix_refl _, dealt.splits.first_sublist.append (.refl [i]), out⟩

/-- Profiles and left over names that come of packing items first fit: `known` are the counters of
the agent. -/
inductive FirstFit (F : Facts) (p : Packer) (known : NameMap CounterId) :
    List Item → List Profile → List String → Prop
  /-- Nothing that is left over can be a profile alone. -/
  | ended {items : List Item} (alone : ∀ i ∈ items, ¬F.Fits p.agent p.maxPerProfile [i.id]) :
    FirstFit F p known items [] (items.map fun i => i.name)
  /-- What is left to the later profiles is barred from the first one. -/
  | placed {items members deferred : List Item} {q : Profile} {profiles : List Profile}
    {unpackable : List String} (made : q.Made F p.agent known members) (nonempty : members ≠ [])
    (split : Splits items members deferred) (barred : ∀ i ∈ deferred, Barred F p items members i)
    (later : FirstFit F p known deferred profiles unpackable) :
    FirstFit F p known items (q :: profiles) unpackable

/-- The rounds of a consistent backend pack first fit. -/
theorem rounds_firstFit (consistent : b.Consistent F) (fuel : Nat) {items : List Item}
    (enough : items.length ≤ fuel) (resolved : ∀ i ∈ items, known.find? i.name = some i.id)
    {c : Catalog} (truthful : c.Truthful F owner) (s : σ) :
    let y := (((p.rounds fuel items).run c).run b s).1.1
    FirstFit F p known items y.1 y.2 := by
  refine rounds_induction (b := b) (p := p)
    (I := fun items c _ _ profiles unpackable _ _ => c.Truthful F owner →
      (∀ i ∈ items, known.find? i.name = some i.id) → FirstFit F p known items profiles unpackable)
    ?_ ?_ fuel items enough c s truthful resolved
  · intro items c s r c' s' events run none truthful _
    refine .ended fun i mem => ?_
    rw [← run.dealt.all_deferred (run.dealt.configured.2 none)] at mem
    obtain ⟨first, before, -, barred⟩ := run.barred consistent truthful i mem
    rw [none, List.prefix_nil] at before
    rw [before] at barred
    exact barred
  · intro items c s r c' s' events config later profiles unpackable c'' s'' run placed ih truthful
      resolved
    obtain ⟨sound, truthful'⟩ := run.sound consistent truthful
    have split := run.dealt.splits
    have first := fun m mem => resolved m (split.first_sublist.subset mem)
    have second := fun m mem => resolved m (split.second_sublist.subset mem)
    exact .placed (sound.made placed first) (run.dealt.members_ne_nil placed) split
      (run.barred consistent truthful) (ih truthful' second)

section FirstFit

variable {items : List Item} {profiles : List Profile} {unpackable : List String}

/-- Left over names are those of items that cannot be a profile alone. -/
theorem FirstFit.alone (h : FirstFit F p known items profiles unpackable) :
    ∀ name ∈ unpackable, ∃ i ∈ items, i.name = name ∧
      ¬F.Fits p.agent p.maxPerProfile [i.id] := by
  induction h with
  | ended alone =>
    intro name mem
    obtain ⟨i, there, rfl⟩ := List.mem_map.1 mem
    exact ⟨i, there, rfl, alone i there⟩
  | placed made nonempty split barred later ih =>
    intro name mem
    obtain ⟨i, there, named, alone⟩ := ih name mem
    exact ⟨i, split.second_sublist.subset there, named, alone⟩

/-- Every item is in a profile or left over. -/
theorem FirstFit.mem_or (h : FirstFit F p known items profiles unpackable) :
    ∀ i ∈ items, (∃ q ∈ profiles, i.name ∈ q.counters) ∨ i.name ∈ unpackable := by
  induction h with
  | ended alone => exact fun i mem => .inr (List.mem_map_of_mem mem)
  | @placed items members deferred q profiles unpackable made nonempty split barred later ih =>
    intro i mem
    rcases List.mem_append.1 (split.perm.mem_iff.2 mem) with member | left
    · refine .inl ⟨q, List.mem_cons_self, ?_⟩
      rw [made.counters]
      exact List.mem_map_of_mem member
    · refine (ih i left).imp_left fun ⟨q, there, named⟩ => ?_
      exact ⟨q, List.mem_cons_of_mem _ there, named⟩

/-- Profiles are made of some of the items. -/
theorem FirstFit.made (h : FirstFit F p known items profiles unpackable) :
    ∀ q ∈ profiles, ∃ members, q.Made F p.agent known members ∧ members ≠ [] ∧ members ⊆ items := by
  induction h with
  | ended alone => nofun
  | placed made nonempty split barred later ih =>
    refine List.forall_mem_cons.2 ⟨⟨_, made, nonempty, split.first_sublist.subset⟩, fun q mem => ?_⟩
    obtain ⟨members, made', nonempty', within⟩ := ih q mem
    exact ⟨members, made', nonempty', List.Subset.trans within split.second_sublist.subset⟩

/-- The members of a later profile are barred from an earlier one. -/
theorem FirstFit.later_barred (h : FirstFit F p known items profiles unpackable) :
    profiles.Pairwise fun q q' => ∃ members members', q.Made F p.agent known members ∧
      q'.Made F p.agent known members' ∧ members' ≠ [] ∧
      ∀ i ∈ members', Barred F p items members i := by
  induction h with
  | ended alone => exact .nil
  | placed made nonempty split barred later ih =>
    refine List.pairwise_cons.2 ⟨fun q' mem => ?_, ih.imp fun {q q'} h => ?_⟩
    · obtain ⟨members', made', nonempty', within⟩ := later.made q' mem
      exact ⟨_, members', made, made', nonempty', fun i there => barred i (within there)⟩
    · obtain ⟨members, members', made, made', nonempty', barred'⟩ := h
      exact ⟨members, members', made, made', nonempty', fun i mem =>
        (barred' i mem).mono split.second_sublist (List.prefix_refl _)⟩

/-- What is left over is barred from all profiles. -/
theorem FirstFit.left_barred (h : FirstFit F p known items profiles unpackable) :
    ∀ q ∈ profiles, ∃ members, q.Made F p.agent known members ∧
      ∀ name ∈ unpackable, ∃ i ∈ items, i.name = name ∧ Barred F p items members i := by
  induction h with
  | ended alone => nofun
  | placed made nonempty split barred later ih =>
    refine List.forall_mem_cons.2 ⟨⟨_, made, fun name mem => ?_⟩, fun q mem => ?_⟩
    · obtain ⟨i, there, named, -⟩ := later.alone name mem
      exact ⟨i, split.second_sublist.subset there, named, barred i there⟩
    · obtain ⟨members, made', left⟩ := ih q mem
      refine ⟨members, made', fun name mem => ?_⟩
      obtain ⟨i, there, named, barred'⟩ := left name mem
      exact ⟨i, split.second_sublist.subset there, named,
        barred'.mono split.second_sublist (List.prefix_refl _)⟩

end FirstFit

/-! ## Requests -/

/-- What is resolved from names are those that are known. -/
theorem mem_resolve {names : List String} {i : Item} :
    i ∈ (resolve known names).1 ↔ i.name ∈ names ∧ known.find? i.name = some i.id := by
  have names_eq := (resolve_eq known names).1
  constructor
  · intro mem
    have named : i.name ∈ names.filter fun name => (known.find? name).isSome := by
      rw [← names_eq]
      exact List.mem_map_of_mem mem
    exact ⟨(List.mem_filter.1 named).1, resolve_known known names i mem⟩
  · rintro ⟨requested, found⟩
    have named : i.name ∈ (resolve known names).1.map fun i => i.name := by
      rw [names_eq]
      exact List.mem_filter.2 ⟨requested, by rw [found]; rfl⟩
    obtain ⟨j, mem, same⟩ := List.mem_map.1 named
    have found' := resolve_known known names j mem
    rw [same, found] at found'
    obtain ⟨name, id⟩ := j
    obtain rfl : name = i.name := same
    obtain rfl := Option.some.inj found'
    exact mem

/-- On a consistent backend packing succeeds just if the counters can be listed, and then it packs
those that are requested first fit. -/
theorem pack_firstFit (consistent : b.Consistent F) (p : Packer) (request : List String)
    {c : Catalog} (truthful : c.Truthful F owner) (s : σ) :
    match F.listing owner with
    | .error cause => (((p.pack request).run.run c).run b s).1.1 = .error (.catalog owner cause)
    | .ok known => ∃ set, (((p.pack request).run.run c).run b s).1.1 = .ok set ∧
        FirstFit F p known (resolve known (distinct request)).1 set.profiles set.unpackable := by
  obtain ⟨c', s', listed, truthful'⟩ := Catalog.run_list consistent.informs truthful s
  cases listing : F.listing owner with
  | error cause =>
    rw [listing] at listed
    exact congrArg (fun x => x.1.1) (run_pack_unlisted listed)
  | ok known =>
    rw [listing] at listed
    refine ⟨_, congrArg (fun x => x.1.1) (run_pack_listed listed), ?_⟩
    exact rounds_firstFit consistent _ (Nat.le_refl _) (resolve_known known _) truthful' s'

/-- However counters get on with each other, what is left over could not be profiled even alone: its
records cannot be counted, or the device does not take it. Every requested counter that the device
takes alone is in some profile. -/
theorem pack_alone (consistent : b.Consistent F) (p : Packer) (positive : 0 < p.maxPerProfile)
    (request : List String) {c : Catalog} (truthful : c.Truthful F owner) (s : σ) :
    match F.listing owner with
    | .error cause => (((p.pack request).run.run c).run b s).1.1 = .error (.catalog owner cause)
    | .ok known => ∃ set, (((p.pack request).run.run c).run b s).1.1 = .ok set ∧
        (∀ name ∈ set.unpackable, ∃ id, known.find? name = some id ∧
          (F.sizeOf? id = none ∨ F.verdict p.agent [id] ≠ .taken)) ∧
        ∀ name ∈ request, ∀ id, known.find? name = some id → F.sizeOf? id ≠ none →
          F.verdict p.agent [id] = .taken → ∃ q ∈ set.profiles, name ∈ q.counters := by
  have packed := pack_firstFit consistent p request truthful s
  cases listing : F.listing owner with
  | error cause =>
    rw [listing] at packed
    exact packed
  | ok known =>
    rw [listing] at packed
    obtain ⟨set, result, firstFit⟩ := packed
    refine ⟨set, result, fun name left => ?_, fun name requested id found counted taken => ?_⟩
    · obtain ⟨i, mem, rfl, alone⟩ := firstFit.alone name left
      rw [Facts.fits_singleton_iff positive, Classical.not_and_iff_not_or_not] at alone
      exact ⟨i.id, (mem_resolve.1 mem).2, alone.imp_left Classical.not_not.1⟩
    · have mem : (⟨name, id⟩ : Item) ∈ (resolve known (distinct request)).1 :=
        mem_resolve.2 ⟨mem_distinct.2 requested, found⟩
      refine (firstFit.mem_or _ mem).resolve_right fun left => ?_
      obtain ⟨i, there, named, alone⟩ := firstFit.alone name left
      have found' := (mem_resolve.1 there).2
      rw [named, found] at found'
      obtain rfl := Option.some.inj found'
      exact alone ((Facts.fits_singleton_iff positive).2 ⟨counted, taken⟩)

/-! A device that refuses lists of some kind which it could take. -/

/-- The backend, but it takes no counters of this kind. -/
def refusing (kind : List CounterId → Bool) (b : Backend σ) : Backend σ where
  answer
    | .tryConfigure agent ids, s =>
      if kind ids then (.capacityExceeded, s) else b.answer (.tryConfigure agent ids) s
    | c, s => b.answer c s

/-- The facts that such a backend tells. -/
def refusals (kind : List CounterId → Bool) (F : Facts) : Facts :=
  { F with verdict := fun agent ids =>
      if kind ids then .capacityExceeded else F.verdict agent ids }

theorem steady_refusing (steady : b.Steady F) (kind : List CounterId → Bool) :
    (refusing kind b).Steady (refusals kind F) := by
  intro c s
  cases c with
  | tryConfigure agent ids =>
    change ConfigureOutcome.verdict ((refusing kind b).answer (.tryConfigure agent ids) s).1 =
      (refusals kind F).verdict agent ids
    unfold refusing refusals
    dsimp only
    split
    · rfl
    · exact steady (.tryConfigure agent ids) s
  | supportedCounters agent => exact steady (.supportedCounters agent) s
  | counterName id => exact steady (.counterName id) s
  | counterDimensions id => exact steady (.counterDimensions id) s
  | dimensionPosition r id => exact steady (.dimensionPosition r id) s
  | _ => trivial

/-- The parts of what is taken are taken still, if a list is of the kind as soon as a part of it
is. -/
theorem refusals_downwardClosed {kind : List CounterId → Bool} (closed : F.DownwardClosed agent)
    (kept : ∀ ids part, part.Sublist ids → kind part = true → kind ids = true) :
    (refusals kind F).DownwardClosed agent := by
  intro ids part within taken
  change (if kind ids then _ else F.verdict agent ids) = _ at taken
  change (if kind part then _ else F.verdict agent part) = _
  by_cases whole : kind ids = true
  · rw [if_pos whole] at taken
    cases taken
  rw [if_neg whole] at taken
  rw [if_neg fun h => whole (kept ids part within h)]
  exact closed ids part within taken

/-! A device that never takes two counters together, though it takes one and may take three: on it
every profile holds one counter. -/

def refusingPairs (b : Backend σ) : Backend σ :=
  refusing (fun ids => ids.length == 2) b

def withoutPairs (F : Facts) : Facts :=
  refusals (fun ids => ids.length == 2) F

theorem steady_refusingPairs (steady : b.Steady F) : (refusingPairs b).Steady (withoutPairs F) :=
  steady_refusing steady _

/-- Two counters are left over, one that cannot be collected and one whose records cannot be
counted. -/
theorem pack_alone_without_pairs :
    let b := refusingPairs Device.mixedGpu.device.backend
    let F := withoutPairs Device.mixedGpu.device.facts
    b.Consistent F ∧ 0 < 10 ∧ (Catalog.new ⟨1⟩).Truthful F ⟨1⟩ ∧
    ∃ known, F.listing ⟨1⟩ = .ok known ∧
      (((pack ⟨⟨1⟩, 10⟩ ["CYCLES", "BUSY", "HUGE", "WAVES"]).run.run (.new ⟨1⟩)).run b
        Device.mixedGpu.initial).1.1 =
          .ok ⟨[⟨⟨1⟩, ["CYCLES"], 1⟩, ⟨⟨2⟩, ["WAVES"], 2⟩], [], ["BUSY", "HUGE"]⟩ ∧
      (∀ name ∈ ["BUSY", "HUGE"], ∃ id, known.find? name = some id ∧
        (F.sizeOf? id = none ∨ F.verdict ⟨1⟩ [id] ≠ .taken)) ∧
      ∀ name ∈ ["CYCLES", "BUSY", "HUGE", "WAVES"], ∀ id, known.find? name = some id →
        F.sizeOf? id ≠ none → F.verdict ⟨1⟩ [id] = .taken →
        name ∈ ["CYCLES"] ∨ name ∈ ["WAVES"] := by
  have consistent := (steady_refusingPairs Device.mixedGpu.device.steady).consistent
  have truthful := Catalog.truthful_new (withoutPairs Device.mixedGpu.device.facts) ⟨1⟩
  have packed : (((pack ⟨⟨1⟩, 10⟩ ["CYCLES", "BUSY", "HUGE", "WAVES"]).run.run (.new ⟨1⟩)).run
      (refusingPairs Device.mixedGpu.device.backend) Device.mixedGpu.initial).1.1 =
        .ok ⟨[⟨⟨1⟩, ["CYCLES"], 1⟩, ⟨⟨2⟩, ["WAVES"], 2⟩], [], ["BUSY", "HUGE"]⟩ := rfl
  obtain ⟨known, listing⟩ :
      ∃ known, (withoutPairs Device.mixedGpu.device.facts).listing ⟨1⟩ = .ok known := ⟨_, rfl⟩
  have alone := pack_alone consistent ⟨⟨1⟩, 10⟩ (by decide)
    ["CYCLES", "BUSY", "HUGE", "WAVES"] truthful Device.mixedGpu.initial
  rw [listing] at alone
  obtain ⟨set, result, left, taken⟩ := alone
  obtain rfl := Except.ok.inj (packed.symm.trans result)
  refine ⟨consistent, by decide, truthful, known, listing, packed, left,
    fun name requested id found counted verdict => ?_⟩
  obtain ⟨q, mem, named⟩ := taken name requested id found counted verdict
  rcases List.mem_pair.1 mem with rfl | rfl
  · exact .inl named
  · exact .inr named

section Barred

variable {items members members' : List Item} {i : Item} {q q' : Profile}

/-- An item that the members of a profile bar cannot join it. -/
theorem Barred.excludes (h : Barred F p items members i) (closed : F.DownwardClosed p.agent)
    (made : q.Made F p.agent known members) :
    F.Excludes p.agent p.maxPerProfile (q.ids known) q.expectedSize i.id := by
  rw [made.ids_eq, made.sized.size_eq]
  refine Facts.excludes_of_not_fits (fun id mem => ?_) ?_
  · obtain ⟨m, there, rfl⟩ := List.mem_map.1 mem
    exact made.sized.each m there
  · refine h.not_fits closed fun first before _ => ?_
    rw [List.map_append]
    exact (before.sublist.map _).append (.refl _)

/-- Profiles of which the earlier bars a member of the later cannot be put one after the other. -/
theorem Barred.not_fits_append (h : Barred F p items members i) (closed : F.DownwardClosed p.agent)
    (made : q.Made F p.agent known members) (made' : q'.Made F p.agent known members')
    (mem : i ∈ members') :
    ¬F.Fits p.agent p.maxPerProfile (q.ids known ++ q'.ids known) := by
  rw [made.ids_eq, made'.ids_eq, ← List.map_append]
  exact h.not_fits closed fun first before _ =>
    (before.sublist.append (List.singleton_sublist.2 mem)).map _

/-- Nor can their counters be taken in the order of the request. -/
theorem Barred.not_fits_ordered {names : List String} (resolved : (resolve known names).1 = items)
    (h : Barred F p items members i) (closed : F.DownwardClosed p.agent)
    (made : q.Made F p.agent known members) (made' : q'.Made F p.agent known members')
    (mem : i ∈ members') :
    ¬F.Fits p.agent p.maxPerProfile ((names.filter fun name =>
      decide (name ∈ q.counters ++ q'.counters)).filterMap known.find?) := by
  refine h.not_fits closed fun first before there => ?_
  rw [← resolved] at there
  refine ids_sublist_of_resolve there fun m either => ?_
  rw [decide_eq_true_eq, made.counters, made'.counters, ← List.map_append]
  refine List.mem_map_of_mem (List.mem_append.2 ((List.mem_append.1 either).imp ?_ ?_))
  · exact fun old => before.subset old
  · exact fun new => List.mem_singleton.1 new ▸ mem

end Barred

/-- If the device takes with any set of counters every part of it, no profile of a set could have
taken in a counter of a later one or one that is left over. -/
theorem pack_tight (consistent : b.Consistent F) (p : Packer) (closed : F.DownwardClosed p.agent)
    (request : List String) {c : Catalog} (truthful : c.Truthful F owner) (s : σ) :
    match F.listing owner with
    | .error cause => (((p.pack request).run.run c).run b s).1.1 = .error (.catalog owner cause)
    | .ok known => ∃ set, (((p.pack request).run.run c).run b s).1.1 = .ok set ∧
        set.Tight F p.agent p.maxPerProfile known request := by
  have packed := pack_firstFit consistent p request truthful s
  cases listing : F.listing owner with
  | error cause =>
    rw [listing] at packed
    exact packed
  | ok known =>
    rw [listing] at packed
    obtain ⟨set, result, firstFit⟩ := packed
    refine ⟨set, result, ?_, fun q mem name left => ?_, ?_⟩
    · refine firstFit.later_barred.imp fun ⟨members, members', made, made', _, barred⟩ name mem => ?_
      rw [made'.counters] at mem
      obtain ⟨i, there, rfl⟩ := List.mem_map.1 mem
      exact ⟨i.id, made'.resolved i there, (barred i there).excludes closed made⟩
    · obtain ⟨members, made, bars⟩ := firstFit.left_barred q mem
      obtain ⟨i, there, rfl, barred⟩ := bars name left
      exact ⟨i.id, (mem_resolve.1 there).2, barred.excludes closed made⟩
    · refine firstFit.later_barred.imp fun ⟨members, members', made, made', nonempty, barred⟩ => ?_
      obtain ⟨i, there⟩ := List.exists_mem_of_ne_nil members' nonempty
      exact ⟨(barred i there).not_fits_append closed made made' there,
        (barred i there).not_fits_ordered rfl closed made made' there⟩

/-- Up to two counters are taken together. The fifth counter fits the second profile only, and what
is left over fits neither. -/
theorem pack_tight_two_at_most :
    let d := (Device.mixedGpu.hwLimit 2).device
    let request := ["CYCLES", "BUSY", "HUGE", "WAVES", "LEVEL"]
    d.backend.Consistent d.facts ∧ d.facts.DownwardClosed ⟨1⟩ ∧
    (Catalog.new ⟨1⟩).Truthful d.facts ⟨1⟩ ∧
    ∃ known set, d.facts.listing ⟨1⟩ = .ok known ∧
      (((pack ⟨⟨1⟩, 10⟩ request).run.run (.new ⟨1⟩)).run d.backend Device.mixedGpu.initial).1.1 =
        .ok set ∧
      set = ⟨[⟨⟨2⟩, ["CYCLES", "WAVES"], 3⟩, ⟨⟨3⟩, ["LEVEL"], 1⟩], [], ["BUSY", "HUGE"]⟩ ∧
      set.Tight d.facts ⟨1⟩ 10 known request := by
  have consistent := (Device.mixedGpu.hwLimit 2).device.steady.consistent
  have closed := (Device.mixedGpu.hwLimit 2).device.facts_downwardClosed ⟨1⟩
  have truthful := Catalog.truthful_new (Device.mixedGpu.hwLimit 2).device.facts ⟨1⟩
  obtain ⟨known, listing⟩ :
      ∃ known, (Device.mixedGpu.hwLimit 2).device.facts.listing ⟨1⟩ = .ok known := ⟨_, rfl⟩
  have tight := pack_tight consistent ⟨⟨1⟩, 10⟩ closed
    ["CYCLES", "BUSY", "HUGE", "WAVES", "LEVEL"] truthful Device.mixedGpu.initial
  rw [listing] at tight
  obtain ⟨set, result, tight⟩ := tight
  exact ⟨consistent, closed, truthful, known, set, listing, result,
    Except.ok.inj (result.symm.trans rfl), tight⟩

/-! What keeps two profiles apart may be the order of the counters or the number of the records. -/

/-- The first counter stands before the fourth. -/
def firstBeforeFourth (ids : List CounterId) : Bool :=
  decide ([⟨0x100⟩, ⟨0x103⟩].Sublist ids)

/-- A GPU whose two counters have more records together than a word can count. -/
def halfWords : Device.Builder :=
  let gpu : AgentInfo := ⟨⟨1⟩, .gpu, "gfx942", 10001, 128, 1⟩
  ((Device.Builder.agent {} gpu).counter "A" [("XCC", 0x8000000000000000)] 1.0).counter "B"
    [("XCC", 0x8000000000000000)] 1.0

/-- Though two profiles are kept apart, the device may take their counters together: if it takes
them in an order that the packer does not try, and if it is their records that are too many. -/
theorem pack_tight_merges_taken :
    let b := refusing firstBeforeFourth Device.mixedGpu.device.backend
    let F := refusals firstBeforeFourth Device.mixedGpu.device.facts
    let d := halfWords.device
    (b.Consistent F ∧ F.DownwardClosed ⟨1⟩ ∧ ∃ known, F.listing ⟨1⟩ = .ok known ∧
      (((pack ⟨⟨1⟩, 10⟩ ["CYCLES", "WAVES"]).run.run (.new ⟨1⟩)).run b
        Device.mixedGpu.initial).1.1 =
          .ok ⟨[⟨⟨1⟩, ["CYCLES"], 1⟩, ⟨⟨2⟩, ["WAVES"], 2⟩], [], []⟩ ∧
      F.Fits ⟨1⟩ 10 (["WAVES", "CYCLES"].filterMap known.find?)) ∧
    d.backend.Consistent d.facts ∧ d.facts.DownwardClosed ⟨1⟩ ∧
      ∃ known, d.facts.listing ⟨1⟩ = .ok known ∧
      (((pack ⟨⟨1⟩, 10⟩ ["A", "B"]).run.run (.new ⟨1⟩)).run d.backend halfWords.initial).1.1 =
        .ok ⟨[⟨⟨1⟩, ["A"], 0x8000000000000000⟩, ⟨⟨2⟩, ["B"], 0x8000000000000000⟩], [], []⟩ ∧
      d.facts.verdict ⟨1⟩ (["A", "B"].filterMap known.find?) = .taken := by
  refine ⟨⟨?_, ?_, _, rfl, rfl, ?_⟩, ?_, ?_, _, rfl, rfl, rfl⟩
  · exact (steady_refusing Device.mixedGpu.device.steady firstBeforeFourth).consistent
  · refine refusals_downwardClosed (Device.mixedGpu.device.facts_downwardClosed ⟨1⟩) ?_
    intro ids part within first
    exact decide_eq_true ((of_decide_eq_true first).trans within)
  · exact ⟨by decide, by decide, by decide, rfl⟩
  · exact halfWords.device.steady.consistent
  · exact halfWords.device.facts_downwardClosed ⟨1⟩

end Packer

end CounterSampling
