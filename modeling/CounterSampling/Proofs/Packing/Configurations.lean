import CounterSampling.Proofs.Caching.Remembered
import CounterSampling.Proofs.Device.Verdicts
import CounterSampling.Proofs.Packing.OneProfile
import CounterSampling.Proofs.Packing.Rounds
import CounterSampling.Proofs.Possession.Events
import CounterSampling.Proofs.Possession.Packing
import Mathlib.Algebra.GroupWithZero.Nat

/-!
# The configurations of a packed set

The packer keeps four things in step while it grows a profile: the members, their configuration,
their number of records and which configurations are still to be released. `Round.Books` says that
they agree with what was asked and answered, and it is kept whatever the backend answers, also if
it answers the same question differently each time. Only that a configuration is still live in the
end needs that no number is given out twice. Main statement: `pack_configured`.
-/

namespace CounterSampling

variable {σ : Type} {b : Backend σ}

namespace Packer

/-! ## Rounds -/

variable {p : Packer}

/-- What considering an item does to the configurations: nothing, or it makes one of the members
together with the item and releases the one of the members. -/
theorem Considered.configures {r r' : Round} {i : Item} {c c' : Catalog} {s s' : σ}
    {events : List Event} (step : Considered b p r i c s r' c' s' events) :
    c.Extends c' ∧ ((r' = r.defer i ∧ Uneventful events) ∨
      ∃ n total config asked, r' = r.join i total config ∧ c'.countOf? i.id = some n ∧
        Word.add? r.candidate.size n = some total ∧ Uneventful asked ∧
        events = asked ++ ⟨p.probe r i, ConfigureOutcome.configured config⟩ ::
          r.candidate.releaseEvents) := by
  have extended := (sizeOf?_extends i.id c).result b s
  have asked := (sizeOf?_inquires i.id c).uneventful b s
  cases step with
  | full cap => exact ⟨.refl c, .inl ⟨rfl, .nil⟩⟩
  | unsized room size =>
    rw [size] at extended
    exact ⟨extended.1, .inl ⟨rfl, asked⟩⟩
  | overflow room size sum =>
    rw [size] at extended
    exact ⟨extended.1, .inl ⟨rfl, asked⟩⟩
  | refused room size sum refusal =>
    rw [size] at extended
    exact ⟨extended.1, .inl ⟨rfl, asked.append (uneventful_refused refusal)⟩⟩
  | joined room size sum taken =>
    rw [size] at extended
    exact ⟨extended.1, .inr ⟨_, _, _, _, rfl, extended.2 _ rfl, sum, asked, by rw [taken]⟩⟩

/-- The size of a candidate is the sum of the sizes of its members, as the catalog remembers
them. -/
def Candidate.Counted (k : Candidate) (c : Catalog) : Prop :=
  ∃ counts, List.Forall₂ (fun m n => c.countOf? m.id = some n) k.members counts ∧
    k.size = counts.sum ∧ k.size ≤ Word.max

theorem Candidate.Counted.mono {k : Candidate} {c c' : Catalog} (h : k.Counted c)
    (more : c.Extends c') : k.Counted c' := by
  obtain ⟨counts, each, sum, within⟩ := h
  exact ⟨counts, each.imp fun _ _ => more.countOf?, sum, within⟩

theorem Round.join_counted {r : Round} {i : Item} {c : Catalog} {n total : Nat}
    (h : r.candidate.Counted c) (counted : c.countOf? i.id = some n)
    (sum : Word.add? r.candidate.size n = some total) (config : ConfigId) :
    (r.join i total config).candidate.Counted c := by
  obtain ⟨counts, each, size, -⟩ := h
  obtain ⟨rfl, within⟩ := Word.add?_eq_some_iff.1 sum
  refine ⟨counts ++ [n], List.rel_append each (.cons counted .nil), ?_, within⟩
  change r.candidate.size + n = _
  rw [size, List.sum_append_nat, List.sum_singleton]

/-- The books of a round agree with what was asked and answered in it. -/
structure Round.Books (p : Packer) (r : Round) (c : Catalog) (events : List Event) : Prop where
  /-- All that was made is released, but the configuration of the members. -/
  made : (allMade events).Perm (r.candidate.config.toList ++ allReleased events)
  held : (allMade events).Nodup → Stock.afterAll [] events = r.candidate.stock
  /-- The configuration was made of exactly the members. -/
  attempted : ∀ config, r.candidate.config = some config →
    (p.agent, r.candidate.members.map fun m => m.id, .configured config) ∈
      events.filterMap Event.attempt?
  counted : r.candidate.Counted c

theorem Candidate.allMade_releaseEvents (k : Candidate) : allMade k.releaseEvents = [] := by
  unfold releaseEvents
  cases k.config <;> rfl

theorem Candidate.allReleased_releaseEvents (k : Candidate) :
    allReleased k.releaseEvents = k.config.toList := by
  unfold releaseEvents
  cases k.config <;> rfl

/-- When the old configuration is released, the new one is left. -/
theorem Candidate.held_releaseEvents (k : Candidate) {config : ConfigId} {ids : List CounterId}
    (new : config ∉ k.config.toList) :
    Stock.afterAll ((config, ids) :: k.stock) k.releaseEvents = [(config, ids)] := by
  unfold releaseEvents stock
  cases old : k.config with
  | none => rfl
  | some old' =>
    have other : config ≠ old' := by
      rintro rfl
      rw [old] at new
      exact new List.mem_cons_self
    change List.filter _ _ = _
    simp [other]

section Books

variable {r : Round} {c c' : Catalog} {events more : List Event} {i : Item}

theorem Round.Books.defer (h : r.Books p c events) (extended : c.Extends c')
    (quiet : Uneventful more) : (r.defer i).Books p c' (events ++ more) where
  made := by
    rw [allMade_append, allReleased_append, quiet.made, quiet.released, List.append_nil,
      List.append_nil]
    exact h.made
  held := fun distinct => by
    rw [allMade_append, quiet.made, List.append_nil] at distinct
    rw [Stock.afterAll_append, quiet.held]
    exact h.held distinct
  attempted := fun config placed => by
    rw [List.filterMap_append]
    exact List.mem_append_left _ (h.attempted config placed)
  counted := h.counted.mono extended

theorem Round.Books.join (h : r.Books p c events) (extended : c.Extends c') {n total : Nat}
    {config : ConfigId} {asked : List Event} (counted : c'.countOf? i.id = some n)
    (sum : Word.add? r.candidate.size n = some total) (quiet : Uneventful asked) :
    (r.join i total config).Books p c' (events ++ (asked ++
      ⟨p.probe r i, ConfigureOutcome.configured config⟩ :: r.candidate.releaseEvents)) := by
  have made : allMade (asked ++ ⟨p.probe r i, ConfigureOutcome.configured config⟩ ::
      r.candidate.releaseEvents) = [config] := by
    rw [allMade_append, quiet.made]
    exact congrArg (config :: ·) r.candidate.allMade_releaseEvents
  have released : allReleased (asked ++ ⟨p.probe r i, ConfigureOutcome.configured config⟩ ::
      r.candidate.releaseEvents) = r.candidate.config.toList := by
    rw [allReleased_append, quiet.released]
    exact r.candidate.allReleased_releaseEvents
  refine ⟨?_, fun distinct => ?_, fun config' placed => ?_,
    Round.join_counted (h.counted.mono extended) counted sum config⟩
  · rw [allMade_append, allReleased_append, made, released]
    refine List.perm_append_comm.trans (List.Perm.cons config ?_)
    exact h.made.trans List.perm_append_comm
  · rw [allMade_append, made] at distinct
    obtain ⟨before, -, apart⟩ := List.nodup_append.1 distinct
    have new : config ∉ r.candidate.config.toList := fun old =>
      apart config (h.made.mem_iff.2 (List.mem_append_left _ old)) config List.mem_cons_self rfl
    rw [Stock.afterAll_append, Stock.afterAll_append, h.held before, quiet.held]
    exact r.candidate.held_releaseEvents new
  · obtain rfl := Option.some.inj placed
    rw [List.filterMap_append, List.filterMap_append]
    exact List.mem_append_right _ (List.mem_append_right _ List.mem_cons_self)

end Books

/-- Whatever is answered, the books of a round are right. -/
theorem RoundRun.books {items : List Item} {r : Round} {c c' : Catalog} {s s' : σ}
    {events : List Event} (run : RoundRun b p items c s r c' s' events) :
    r.Books p c' events ∧ c.Extends c' := by
  refine run.induct (I := fun _ r c' _ events => r.Books p c' events ∧ c.Extends c') ?_ ?_
  · exact ⟨⟨.nil, fun _ => rfl, nofun, [], .nil, rfl, Nat.zero_le _⟩, .refl c⟩
  · rintro done r i c₁ s events r' c₂ s' more - ⟨books, extended⟩ step
    obtain ⟨extended', ⟨rfl, quiet⟩ | ⟨n, total, config, asked, rfl, counted, sum, quiet, rfl⟩⟩ :=
      step.configures
    · exact ⟨books.defer extended' quiet, extended.trans extended'⟩
    · exact ⟨books.join extended' counted sum quiet, extended.trans extended'⟩

/-! ## All rounds -/

variable {known : NameMap CounterId}

/-- The profiles that were packed agree with what was asked and answered: `known` are the counters
of the agent. -/
structure Booked (p : Packer) (known : NameMap CounterId) (c : Catalog) (events : List Event)
    (profiles : List Profile) : Prop where
  made : (allMade events).Perm ((profiles.map fun q => q.config) ++ allReleased events)
  held : (allMade events).Nodup →
    (Stock.afterAll [] events).Perm (profiles.map fun q => (q.config, q.ids known))
  attempted : ∀ q ∈ profiles,
    (p.agent, q.ids known, .configured q.config) ∈ events.filterMap Event.attempt?
  resolved : ∀ q ∈ profiles, q.counters.map known.find? = (q.ids known).map some
  counted : ∀ q ∈ profiles, ∃ counts,
    List.Forall₂ (fun id n => c.countOf? id = some n) (q.ids known) counts ∧
    q.expectedSize = counts.sum ∧ q.expectedSize ≤ Word.max

section Booked

variable {r : Round} {c c' : Catalog} {events later : List Event} {profiles : List Profile}
  {config : ConfigId}

/-- A round that places nothing adds nothing to the profiles. -/
theorem Round.Books.booked_nil (h : r.Books p c events) (none : r.candidate.config = none) :
    Booked p known c events [] where
  made := by
    have made := h.made
    rw [none] at made
    exact made
  held := fun distinct => by
    rw [h.held distinct, Candidate.stock, none]
    exact .refl _
  attempted := nofun
  resolved := nofun
  counted := nofun

/-- A round that places a profile comes before the later ones, which leave its configuration
alone. -/
theorem Round.Books.booked_cons (h : r.Books p c events) (placed : r.candidate.config = some config)
    (resolved : ∀ m ∈ r.candidate.members, known.find? m.name = some m.id) (extended : c.Extends c')
    (h' : Booked p known c' later profiles) :
    Booked p known c' (events ++ later) (r.candidate.profile config :: profiles) := by
  have ids : (r.candidate.profile config).ids known = r.candidate.members.map fun m => m.id :=
    ids_of_resolved resolved
  have made := h.made
  rw [placed] at made
  refine ⟨?_, fun distinct => ?_, ?_, ?_, ?_⟩
  · rw [allMade_append, allReleased_append]
    exact (made.append h'.made).trans ((List.perm_append_comm_assoc _ _ _).cons config)
  · rw [allMade_append] at distinct
    obtain ⟨before, after, apart⟩ := List.nodup_append.1 distinct
    have stock : Stock.afterAll [] events = [((r.candidate.profile config).config,
        (r.candidate.profile config).ids known)] := by
      rw [h.held before, Candidate.stock, placed, ids]
      rfl
    rw [Stock.afterAll_append, stock, ← List.nil_append [_], Stock.afterAll_held, List.map_cons]
    · exact List.perm_append_comm.trans ((h'.held after).cons _)
    · intro other mem old
      have same : other = config := List.mem_singleton.1 old
      exact apart config (made.mem_iff.2 List.mem_cons_self) other
        (h'.made.mem_iff.2 (List.mem_append_right _ mem)) same.symm
  · rw [List.filterMap_append]
    refine List.forall_mem_cons.2 ⟨?_, fun q mem => List.mem_append_right _ (h'.attempted q mem)⟩
    rw [ids]
    exact List.mem_append_left _ (h.attempted config placed)
  · refine List.forall_mem_cons.2 ⟨?_, h'.resolved⟩
    rw [ids]
    change (r.candidate.members.map fun m => m.name).map known.find? = _
    rw [List.map_map, List.map_map]
    exact List.map_congr_left resolved
  · refine List.forall_mem_cons.2 ⟨?_, h'.counted⟩
    rw [ids]
    obtain ⟨counts, each, size, within⟩ := h.counted.mono extended
    exact ⟨counts, List.forall₂_map_left_iff.2 each, size, within⟩

end Booked

/-- Whatever is answered, the books of the rounds are right. -/
theorem rounds_booked (fuel : Nat) {items : List Item} (enough : items.length ≤ fuel)
    (resolved : ∀ i ∈ items, known.find? i.name = some i.id) (c : Catalog) (s : σ) :
    let y := ((p.rounds fuel items).run c).run b s
    Booked p known y.1.2 (((p.rounds fuel items).run c).trace b s) y.1.1.1 ∧ c.Extends y.1.2 := by
  refine rounds_induction (b := b) (p := p)
    (I := fun items c _ events profiles _ c' _ => (∀ i ∈ items, known.find? i.name = some i.id) →
      Booked p known c' events profiles ∧ c.Extends c')
    ?_ ?_ fuel items enough c s resolved
  · intro items c s r c' s' events run none _
    obtain ⟨books, extended⟩ := run.books
    exact ⟨books.booked_nil (run.dealt.configured.2 none), extended⟩
  · intro items c s r c' s' events config later profiles unpackable c'' s'' run placed ih resolved
    obtain ⟨books, extended⟩ := run.books
    have split := run.dealt.splits
    obtain ⟨booked, extended'⟩ := ih fun i mem => resolved i (split.second_sublist.subset mem)
    exact ⟨books.booked_cons placed (fun m mem => resolved m (split.first_sublist.subset mem))
      extended' booked, extended.trans extended'⟩

/-- Uneventful events before packing make no difference. -/
theorem Booked.after {c : Catalog} {events : List Event} {profiles : List Profile}
    (h : Booked p known c events profiles) {before : List Event} (quiet : Uneventful before) :
    Booked p known c (before ++ events) profiles where
  made := by
    rw [allMade_append, allReleased_append, quiet.made, quiet.released]
    exact h.made
  held := fun distinct => by
    rw [allMade_append, quiet.made] at distinct
    rw [Stock.afterAll_append, quiet.held]
    exact h.held distinct
  attempted := fun q mem => by
    rw [List.filterMap_append]
    exact List.mem_append_right _ (h.attempted q mem)
  resolved := h.resolved
  counted := h.counted

end Packer

/-! ## Packed sets -/

/-- What a set says about its configurations: `known` are the counters of the agent, `c` is the
catalog on return and `events` is what was asked and answered in between. -/
structure ProfileSet.Configured (agent : AgentId) (known : NameMap CounterId) (c : Catalog)
    (events : List Event) (set : ProfileSet) : Prop where
  /-- The counters of a profile are counters of the agent. -/
  resolved : ∀ q ∈ set.profiles, q.counters.map known.find? = (q.ids known).map some
  /-- The configuration of a profile is the answer for exactly its counters, in their order. -/
  answered : ∀ q ∈ set.profiles,
    (agent, q.ids known, .configured q.config) ∈ events.filterMap Event.attempt?
  /-- It is live: what was made and not released since are the configurations of the set. -/
  live : (Stock.afterAll [] events).Perm (set.profiles.map fun q => (q.config, q.ids known))
  kept : ∀ config ∈ set.configs, config ∉ allReleased events
  /-- Every other configuration was released, once, and nothing else was. -/
  released : ∀ config ∈ allMade events, config ∉ set.configs →
    (allReleased events).count config = 1
  released_made : ∀ config ∈ allReleased events, config ∈ allMade events
  /-- The size of a profile is the sum of the record counts of its counters, which the catalog tells
  without asking again. -/
  counted : ∀ q ∈ set.profiles, ∃ counts,
    List.Forall₂ (fun id n => (Catalog.recordCountOf id).run.run c = .done (.ok n, c) ∧ 1 ≤ n)
      (q.ids known) counts ∧
    q.expectedSize = counts.sum ∧ q.expectedSize ≤ Word.max

theorem Packer.Booked.configured {p : Packer} {known : NameMap CounterId} {c : Catalog}
    {events : List Event} {set : ProfileSet} (h : Packer.Booked p known c events set.profiles)
    (distinct : (allMade events).Nodup) : set.Configured p.agent known c events where
  resolved := h.resolved
  answered := h.attempted
  live := h.held distinct
  kept := fun config mem released =>
    (List.nodup_append.1 (h.made.nodup_iff.1 distinct)).2.2 config mem config released rfl
  released := fun config made other => by
    have once := h.made.count_eq config
    rw [List.count_append, List.count_eq_one_of_mem distinct made] at once
    have none : (set.profiles.map fun q => q.config).count config = 0 :=
      List.count_eq_zero_of_not_mem other
    omega
  released_made := fun config mem => h.made.mem_iff.2 (List.mem_append_right _ mem)
  counted := fun q mem => by
    obtain ⟨counts, each, size, within⟩ := h.counted q mem
    exact ⟨counts, each.imp fun _ _ counted => ⟨Catalog.run_recordCountOf_remembered counted,
      (Catalog.countOf?_pos counted)⟩, size, within⟩

/-- Whatever a backend answers, as long as it gives no number to two configurations, each profile of
a packed set holds a configuration that was made of exactly its counters and is still live, its size
is right, and every other configuration was released once. If there is no set, there is nothing to
release. -/
theorem Packer.pack_configured {s : σ} (fresh : b.NeverRepeats s) (p : Packer)
    (request : List String) (c : Catalog) :
    let result := ((p.pack request).run.run c).run b s
    let events := ((p.pack request).run.run c).trace b s
    (∀ set, result.1.1 = .ok set →
      ∃ known, ((Catalog.list.run.run c).run b s).1.1 = .ok known ∧
        set.Configured p.agent known result.1.2 events) ∧
    ∀ e, result.1.1 = .error e →
      ((Catalog.list.run.run c).run b s).1.1 = .error e ∧ Uneventful events := by
  have numbered := fresh _ _ (Procedure.answers_trace b ((p.pack request).run.run c) s)
  have quiet := (Catalog.list_inquires c).uneventful b s
  rcases listed : (Catalog.list.run.run c).run b s with ⟨⟨r, c'⟩, s'⟩
  dsimp only
  cases r with
  | error e =>
    rw [run_pack_unlisted listed]
    refine ⟨nofun, fun e' same => ⟨congrArg Except.error (Except.error.inj same), ?_⟩⟩
    rw [run_pack_eq, Procedure.trace_bind, listed]
    exact quiet.append .nil
  | ok known =>
    have booked := (rounds_booked (b := b) (p := p) (resolve known (distinct request)).1.length
      (Nat.le_refl _) (resolve_known known _) c' s').1
    rw [run_pack_listed listed]
    rw [trace_pack_listed listed] at numbered ⊢
    refine ⟨fun set same => ⟨known, rfl, ?_⟩, nofun⟩
    obtain rfl := Except.ok.inj same
    exact (booked.after quiet).configured numbered

/-- The device, but it refuses every second set of counters that it is asked to take, and the later
it is asked for the dimensions of a counter the more records there are. -/
def Device.moody (d : Device) : Backend (Nat × Device.State) where
  answer
    | .counterDimensions _, x => (.ok [⟨⟨0⟩, "XCC", .ofNat x.1⟩], x.1 + 1, x.2)
    | .tryConfigure agent ids, x =>
      if x.1 % 2 = 0 then (.capacityExceeded, x.1 + 1, x.2)
      else
        let r := d.configure agent ids x.2
        (r.1, x.1 + 1, r.2)
    | c, x =>
      let r := d.answer c x.2
      (r.1, x.1 + 1, r.2)

theorem Device.moody_ascends (d : Device) : d.moody.Ascends fun x => x.2.nextConfig := by
  intro c x
  have step := d.ascends c x.2
  cases c with
  | counterDimensions id => exact .inl ⟨rfl, Nat.le_refl _⟩
  | tryConfigure agent ids =>
    by_cases even : x.1 % 2 = 0
    · have refused : d.moody.answer (.tryConfigure agent ids) x =
          (.capacityExceeded, x.1 + 1, x.2) := if_pos even
      rw [refused]
      exact .inl ⟨rfl, Nat.le_refl _⟩
    · have asked : d.moody.answer (.tryConfigure agent ids) x =
          ((d.configure agent ids x.2).1, x.1 + 1, (d.configure agent ids x.2).2) := if_neg even
      rw [asked]
      exact step
  | _ => exact step

/-- The fourth counter was counted in the first round and placed in the third. -/
theorem Packer.pack_configured_moody :
    let b := Device.mixedGpu.device.moody
    let pack := (Packer.pack ⟨⟨1⟩, 10⟩ ["CYCLES", "BUSY", "HUGE", "WAVES", "LEVEL"]).run.run
      (.new ⟨1⟩)
    let x := (0, Device.mixedGpu.initial)
    let set : ProfileSet := ⟨[⟨⟨2⟩, ["CYCLES", "HUGE"], 16⟩, ⟨⟨3⟩, ["LEVEL"], 15⟩,
      ⟨⟨4⟩, ["WAVES"], 13⟩], [], ["BUSY"]⟩
    b.NeverRepeats x ∧ (pack.run b x).1.1 = .ok set ∧
      (∃ known, set.Configured ⟨1⟩ known (pack.run b x).1.2 (pack.trace b x)) ∧
      allMade (pack.trace b x) = [⟨1⟩, ⟨2⟩, ⟨3⟩, ⟨4⟩] ∧ allReleased (pack.trace b x) = [⟨1⟩] := by
  intro b pack x set
  have fresh : b.NeverRepeats x := Device.mixedGpu.device.moody_ascends.neverRepeats x
  have packed : (pack.run b x).1.1 = .ok set := by decide +kernel
  have made : allMade (pack.trace b x) = [⟨1⟩, ⟨2⟩, ⟨3⟩, ⟨4⟩] := by decide +kernel
  have released : allReleased (pack.trace b x) = [⟨1⟩] := by decide +kernel
  -- The device and its state are as good as any from here on: nothing is to be evaluated again.
  clear_value b x
  obtain ⟨known, -, configured⟩ := (pack_configured fresh ⟨⟨1⟩, 10⟩
    ["CYCLES", "BUSY", "HUGE", "WAVES", "LEVEL"] (.new ⟨1⟩)).1 set packed
  exact ⟨fresh, packed, ⟨known, configured⟩, made, released⟩

end CounterSampling
