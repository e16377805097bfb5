import CounterSampling.Proofs.Packing.Sizes
import CounterSampling.ProfileCache

/-!
# Two ways to one profile

The packer asks the device after each item whether it still takes all of them, and releases what a
larger configuration replaces. A single profile is put to the device once. On a steady device both
end with the same counters, the same size and the same question, if everything that was asked for
fits one profile: `buildSingle_of_pack`.
-/

namespace CounterSampling

/-- The set of counters that was put to the device, and what became of it. -/
def Event.attempt? : Event → Option (AgentId × List CounterId × ConfigureOutcome)
  | ⟨.tryConfigure agent ids, outcome⟩ => some (agent, ids, outcome)
  | _ => none

variable {σ : Type} {b : Backend σ} {F : Facts} {agent : AgentId} {known : NameMap CounterId}

/-- The sets of counters that a procedure puts to the device, in order. -/
def Procedure.attempts {α : Type} (b : Backend σ) (q : Procedure α) (s : σ) :
    List (AgentId × List CounterId × ConfigureOutcome) :=
  (q.trace b s).filterMap Event.attempt?

/-- What only inquires puts no counters to the device. -/
theorem Procedure.Ensures.attempts_nil {α : Type} {Q : α → Prop} {q : Procedure α}
    (h : q.Ensures Call.IsInquiry Q) (b : Backend σ) (s : σ) : q.attempts b s = [] := by
  unfold Procedure.attempts
  rw [List.filterMap_eq_nil_iff]
  intro ev made
  have inquiry := h.of_mem_trace b s made
  obtain ⟨c, r⟩ := ev
  cases c with
  | tryConfigure agent ids => exact inquiry.elim
  | _ => rfl

theorem Procedure.attempts_bind {α β : Type} (b : Backend σ) (q : Procedure α)
    (f : α → Procedure β) (s : σ) :
    (q >>= f).attempts b s = q.attempts b s ++ (f (q.run b s).1).attempts b (q.run b s).2 := by
  simp only [attempts, trace_bind, List.filterMap_append]

namespace Packer

/-! ## The packer -/

/-- If no item was put off, the latest question was about all members of the profile, and its
configuration is the answer. -/
def Round.Attempted (agent : AgentId) (r : Round) (events : List Event) : Prop :=
  r.putOff = [] → (events.filterMap Event.attempt?).getLast? =
    r.candidate.config.map fun config =>
      (agent, r.candidate.members.map fun m => m.id, .configured config)

theorem Candidate.attempts_releaseEvents (k : Candidate) :
    k.releaseEvents.filterMap Event.attempt? = [] := by
  unfold Candidate.releaseEvents
  cases k.config <;> rfl

theorem Considered.attempted {p : Packer} {r r' : Round} {i : Item} {c c' : Catalog} {s s' : σ}
    {events more : List Event} (step : Considered b p r i c s r' c' s' more) :
    r'.Attempted p.agent (events ++ more) := by
  cases step with
  | full cap => exact nofun
  | unsized room size => exact nofun
  | overflow room size sum => exact nofun
  | refused room size sum refusal => exact nofun
  | @joined n total config _ after room size sum taken =>
    intro _
    have sizing : (((sizeOf? i.id).run c).trace b s).filterMap Event.attempt? = [] :=
      (sizeOf?_inquires i.id c).attempts_nil b s
    have asked : Event.attempt? ⟨p.probe r i, (b.answer (p.probe r i) after).1⟩ =
        some (p.agent, (r.candidate.members ++ [i]).map fun m => m.id, .configured config) :=
      congrArg (fun outcome => some (p.agent, _, outcome)) taken
    rw [List.filterMap_append, List.filterMap_append, sizing, List.filterMap_cons_some asked,
      r.candidate.attempts_releaseEvents, List.nil_append, List.getLast?_append]
    rfl

/-- What a round on a steady backend has done. -/
structure Round.Settled (F : Facts) (p : Packer) (items : List Item) (r : Round)
    (events : List Event) : Prop where
  dealt : r.Dealt p.maxPerProfile items
  sound : r.candidate.Sound F p.agent
  attempted : r.Attempted p.agent events

theorem round_settled (steady : b.Steady F) (p : Packer) (items : List Item) {c : Catalog}
    (truthful : c.Truthful F p.agent) (s : σ) :
    (((p.round {} items).run c).run b s).1.1.Settled F p items
      (((p.round {} items).run c).trace b s) := by
  have kept := round_induction (b := b) (p := p)
    (I := fun done r c _ events => r.Settled F p done events ∧ c.Truthful F p.agent)
    (fun h step => by
      obtain ⟨sound, truthful'⟩ := step.sound steady.consistent h.2 h.1.sound
      exact ⟨⟨step.dealt h.1.dealt, sound, step.attempted⟩, truthful'⟩)
    items [] {} c s [] ⟨⟨⟨Splits.nil, Nat.zero_le _, fun _ => rfl, fun _ => rfl⟩,
      Candidate.sound_empty F p.agent, fun _ => rfl⟩, truthful⟩
  exact kept.1

/-- A round that put nothing off has all its items in the profile. -/
theorem Round.Dealt.all_placed {r : Round} {cap : Nat} {items : List Item} (h : r.Dealt cap items)
    (none : r.deferred = []) : r.candidate.members = items := by
  have perm := h.splits.perm
  rw [none, List.append_nil] at perm
  exact h.splits.first_sublist.eq_of_length perm.length_eq

/-- If the rounds make one profile and leave nothing over, the first of them made it of all items,
and was the last to ask anything. -/
theorem rounds_one (steady : b.Steady F) (p : Packer) {fuel : Nat} {items : List Item} {c : Catalog}
    (truthful : c.Truthful F p.agent) {s : σ} {q : Profile}
    (one : (((p.rounds fuel items).run c).run b s).1.1.1 = [q])
    (all : (((p.rounds fuel items).run c).run b s).1.1.2 = [])
    (resolved : ∀ i ∈ items, known.find? i.name = some i.id) :
    q.Made F p.agent known items ∧
      (((p.rounds fuel items).run c).attempts b s).getLast? =
        some (p.agent, items.map fun m => m.id, .configured q.config) := by
  cases items with
  | nil => cases fuel <;> cases one
  | cons i is =>
    cases fuel with
    | zero => cases one
    | succ fuel =>
      have settled := round_settled steady p (i :: is) truthful s
      unfold Procedure.attempts
      rw [run_rounds_succ] at one all
      rw [trace_rounds_succ]
      generalize ((p.round {} (i :: is)).run c).run b s = x at settled one all ⊢
      obtain ⟨⟨r, c'⟩, s'⟩ := x
      cases config : r.candidate.config with
      | none =>
        simp only [config] at one
        cases one
      | some new =>
        simp only [config, List.cons.injEq] at one all ⊢
        obtain ⟨rfl, rest⟩ := one
        have later := rounds_packs b p fuel r.deferred c' s'
        rw [rest, all] at later
        have none : r.deferred = [] := List.map_eq_nil_iff.1 later.perm.symm.eq_nil
        have members := settled.dealt.all_placed none
        have putOff : r.putOff = [] := List.reverse_eq_nil_iff.1 none
        have resolved' : ∀ m ∈ r.candidate.members, known.find? m.name = some m.id := by
          rw [members]
          exact resolved
        have made := settled.sound.made config resolved'
        have attempted := settled.attempted putOff
        rw [members] at made attempted
        rw [config] at attempted
        have silent : ((p.rounds fuel r.deferred).run c').trace b s' = [] := by
          rw [none]
          simp only [rounds]
          rfl
        rw [silent, Option.elim_some, List.append_nil]
        exact ⟨made, attempted⟩

/-- If a request packs into one profile and nothing is left over, the profile is made of all
requested counters, and its configuration is the answer to the last question. -/
theorem pack_one (steady : b.Steady F) (p : Packer) {request : List String} {c : Catalog}
    (truthful : c.Truthful F p.agent) {s : σ} {set : ProfileSet} {q : Profile}
    (packed : (((p.pack request).run.run c).run b s).1.1 = .ok set) (one : set.profiles = [q])
    (all : set.unpackable = []) :
    ∃ known, F.listing p.agent = .ok known ∧
      q.Made F p.agent known (resolve known (distinct request)).1 ∧
      (((p.pack request).run.run c).attempts b s).getLast? =
        some (p.agent, (resolve known (distinct request)).1.map fun m => m.id,
          .configured q.config) := by
  have listed := (Catalog.list_learns c truthful).result steady s
  have silent := (Catalog.list_inquires c).attempts_nil b s
  rw [run_pack] at packed
  rw [run_pack_eq, Procedure.attempts_bind, silent, List.nil_append]
  generalize (Catalog.list.run.run c).run b s = l at listed packed ⊢
  obtain ⟨⟨r, c'⟩, s'⟩ := l
  obtain ⟨told, truthful'⟩ := listed
  cases r with
  | error e => cases packed
  | ok known =>
    obtain rfl := Except.ok.inj packed
    have resolved := resolve_known known (distinct request)
    obtain ⟨made, attempted⟩ := rounds_one steady p truthful' one all resolved
    refine ⟨known, mapError_eq_ok.1 told.symm, made, ?_⟩
    dsimp only
    rw [Procedure.attempts_bind]
    exact (congrArg List.getLast? (List.append_nil _)).trans attempted

end Packer

namespace Sampler

/-! ## The single profile -/

/-- A list can be built as a single profile if its records can be counted and the device takes its
counters, which it is asked once. -/
theorem buildSingle_made (steady : b.Steady F) (listing : F.listing agent = .ok known)
    {names : List String} {q : Profile}
    (made : q.Made F agent known (Packer.resolve known names).1) {c : Catalog}
    (truthful : c.Truthful F agent) (s : σ) :
    ∃ config, (((buildSingle agent names).run.run c).run b s).1.1 = .ok { q with config } ∧
      ((buildSingle agent names).run.run c).attempts b s =
        [(agent, (Packer.resolve known names).1.map fun m => m.id, .configured config)] := by
  have gathered := (gatherSingle_learns listing {} names (Packer.sized_nil F) c truthful).result
    steady s
  have silent := (gatherSingle_inquires {} names c).attempts_nil b s
  rw [run_buildSingle, Procedure.attempts_bind, silent, List.nil_append, Procedure.run_bind]
  generalize ((gatherSingle {} names).run.run c).run b s = x at gathered ⊢
  obtain ⟨⟨r, c'⟩, s'⟩ := x
  obtain ⟨gathered, -⟩ := gathered
  cases r with
  | error e => exact absurd made.sized (gathered q.expectedSize)
  | ok single =>
    obtain ⟨items, sized⟩ := gathered
    change single.items = (Packer.resolve known names).1 at items
    rw [items] at sized
    have size := sized.unique made.sized
    obtain ⟨config, answer⟩ := (steady.taken_iff (s := s')).1 made.taken
    dsimp only
    rw [Procedure.run_ask, items, answer]
    refine ⟨config, ?_, ?_⟩
    · rw [Single.built, items, size, made.counters]
      rfl
    · unfold Procedure.attempts
      rw [Procedure.trace_ask, answer]
      rfl

end Sampler

/-- If a request packs into one profile and nothing is left over, building its key as a single
profile gives the same counters in the same order and the same size, and asks the device once, for
the counters that packing asked for last. -/
theorem Packer.buildSingle_of_pack (steady : b.Steady F) (p : Packer) (request : List String)
    {c c' : Catalog} (truthful : c.Truthful F p.agent) (truthful' : c'.Truthful F p.agent) (s s' : σ)
    {set : ProfileSet} {q : Profile}
    (packed : (((p.pack (ProfileCache.setKey request)).run.run c).run b s).1.1 = .ok set)
    (one : set.profiles = [q]) (all : set.unpackable = []) :
    let pack := (p.pack (ProfileCache.setKey request)).run.run c
    let build := (Sampler.buildSingle p.agent (ProfileCache.setKey request)).run.run c'
    ∃ q' ids, (build.run b s').1.1 = .ok q' ∧
      q'.counters = q.counters ∧ q'.expectedSize = q.expectedSize ∧
      (pack.attempts b s).getLast? = some (p.agent, ids, .configured q.config) ∧
      build.attempts b s' = [(p.agent, ids, .configured q'.config)] := by
  obtain ⟨known, listing, made, asked⟩ := pack_one steady p truthful packed one all
  rw [ProfileCache.distinct_setKey] at made asked
  obtain ⟨config, built, asked'⟩ := Sampler.buildSingle_made steady listing made truthful' s'
  exact ⟨_, _, built, rfl, rfl, asked, asked'⟩

end CounterSampling
