import CounterSampling.Proofs.Packing.Partition
import CounterSampling.Proofs.Possession.Learning

/-!
# What a steady device makes of items

`Packer.Sized` says that the records of some items can be counted and come to a number that fits a
word. Both ways of building a profile keep it while they add items one by one, whether they ask the
device after each item or once at the end, and in both the device has taken exactly the items of the
profile: `Profile.Made`.
-/

namespace CounterSampling

variable {F : Facts} {agent : AgentId} {known : NameMap CounterId}

namespace Packer

/-- Items whose records can be counted and come to this number. -/
structure Sized (F : Facts) (items : List Item) (size : Nat) : Prop where
  each : ∀ i ∈ items, (F.sizeOf? i.id).isSome = true
  size_eq : size = F.totalSize (items.map fun i => i.id)
  withinWord : size ≤ Word.max

theorem sized_nil (F : Facts) : Sized F [] 0 :=
  ⟨nofun, rfl, Nat.zero_le _⟩

/-- Items can be added one by one. -/
theorem sized_append_iff {items : List Item} {size : Nat} (h : Sized F items size) {i : Item}
    {total : Nat} :
    Sized F (items ++ [i]) total ↔
      ∃ n, F.sizeOf? i.id = some n ∧ Word.add? size n = some total := by
  have size_eq := h.size_eq
  constructor
  · intro more
    obtain ⟨n, counted⟩ := Option.isSome_iff_exists.1 (more.each i (by simp))
    have total_eq := more.size_eq
    simp only [List.map_append, List.map_cons, List.map_nil, Facts.totalSize_append,
      Facts.totalSize, counted, Option.getD_some] at total_eq
    exact ⟨n, counted, Word.add?_eq_some_iff.2 ⟨by omega, more.withinWord⟩⟩
  · rintro ⟨n, counted, sum⟩
    obtain ⟨rfl, within⟩ := Word.add?_eq_some_iff.1 sum
    refine ⟨fun m mem => ?_, ?_, within⟩
    · rcases List.mem_append.1 mem with old | new
      · exact h.each m old
      · rw [List.mem_singleton.1 new, counted]
        rfl
    · simp only [List.map_append, List.map_cons, List.map_nil, Facts.totalSize_append,
        Facts.totalSize, counted, Option.getD_some]
      omega

/-- The first of some items can be counted if all of them can. -/
theorem Sized.of_append {items more : List Item} {total : Nat} (h : Sized F (items ++ more) total) :
    ∃ size, Sized F items size := by
  have total_eq := h.size_eq
  have within := h.withinWord
  rw [List.map_append, Facts.totalSize_append] at total_eq
  exact ⟨_, fun i mem => h.each i (List.mem_append_left _ mem), rfl, by omega⟩

theorem Sized.unique {items : List Item} {size size' : Nat} (h : Sized F items size)
    (h' : Sized F items size') : size = size' :=
  h.size_eq.trans h'.size_eq.symm

end Packer

/-- The numbers of the counters of a profile. -/
def Profile.ids (known : NameMap CounterId) (p : Profile) : List CounterId :=
  p.counters.filterMap known.find?

/-- Items that stand for the counters of their names have the numbers of these counters. -/
theorem Packer.ids_of_resolved {items : List Packer.Item}
    (resolved : ∀ i ∈ items, known.find? i.name = some i.id) :
    (items.map fun i => i.name).filterMap known.find? = items.map fun i => i.id := by
  induction items with
  | nil => rfl
  | cons i is ih =>
    obtain ⟨first, later⟩ := List.forall_mem_cons.1 resolved
    rw [List.map_cons, List.filterMap_cons_some first, ih later, List.map_cons]

/-- Some of the items that are resolved from names, all of which have names of one kind, have
numbers of names of this kind, in the order of the names. -/
theorem Packer.ids_sublist_of_resolve {names : List String} {items : List Packer.Item}
    {wanted : String → Bool} (there : items.Sublist (resolve known names).1)
    (all : ∀ i ∈ items, wanted i.name = true) :
    (items.map fun i => i.id).Sublist ((names.filter wanted).filterMap known.find?) := by
  have listed : (items.map fun i => i.name).Sublist names := by
    refine (there.map _).trans ?_
    rw [(resolve_eq known names).1]
    exact List.filter_sublist
  have kept : (items.map fun i => i.name).filter wanted = items.map fun i => i.name := by
    refine List.filter_eq_self.2 fun name mem => ?_
    obtain ⟨i, old, rfl⟩ := List.mem_map.1 mem
    exact all i old
  rw [← ids_of_resolved fun i mem => resolve_known known names i (there.subset mem), ← kept]
  exact (listed.filter wanted).filterMap known.find?

/-- A profile that was made of these items: `known` are the counters of the agent. -/
structure Profile.Made (F : Facts) (agent : AgentId) (known : NameMap CounterId) (p : Profile)
    (members : List Packer.Item) : Prop where
  counters : p.counters = members.map fun m => m.name
  resolved : ∀ m ∈ members, known.find? m.name = some m.id
  sized : Packer.Sized F members p.expectedSize
  taken : F.verdict agent (members.map fun m => m.id) = .taken

theorem Profile.Made.ids_eq {p : Profile} {members : List Packer.Item}
    (made : p.Made F agent known members) : p.ids known = members.map fun m => m.id := by
  rw [Profile.ids, made.counters, Packer.ids_of_resolved made.resolved]

namespace Packer

/-- The size of a candidate is right, and its configuration holds its members. -/
structure Candidate.Sound (F : Facts) (agent : AgentId) (c : Candidate) : Prop where
  sized : Sized F c.members c.size
  taken : ∀ config, c.config = some config →
    F.verdict agent (c.members.map fun m => m.id) = .taken

theorem Candidate.sound_empty (F : Facts) (agent : AgentId) : Candidate.Sound F agent {} :=
  ⟨sized_nil F, nofun⟩

/-- The profile of a candidate is made of its members. -/
theorem Candidate.Sound.made {c : Candidate} (h : c.Sound F agent) {config : ConfigId}
    (placed : c.config = some config) (resolved : ∀ m ∈ c.members, known.find? m.name = some m.id) :
    (c.profile config).Made F agent known c.members :=
  ⟨rfl, resolved, h.sized, h.taken config placed⟩

/-- An item that the device takes together with the members may join them. -/
theorem Round.join_sound {r : Round} (h : r.candidate.Sound F agent) {i : Item} {n total : Nat}
    (counted : F.sizeOf? i.id = some n) (sum : Word.add? r.candidate.size n = some total)
    (taken : F.verdict agent ((r.candidate.members ++ [i]).map fun m => m.id) = .taken)
    (config : ConfigId) : (r.join i total config).candidate.Sound F agent :=
  ⟨(sized_append_iff h.sized).2 ⟨n, counted, sum⟩, fun _ _ => taken⟩

/-- The size of a counter as a consistent backend gives it. -/
theorem run_sizeOf? {σ : Type} {b : Backend σ} (consistent : b.Consistent F) {c c' : Catalog}
    (truthful : c.Truthful F agent) {id : CounterId} {s s' : σ} {size : Option Nat}
    (run : ((sizeOf? id).run c).run b s = ((size, c'), s')) :
    size = F.sizeOf? id ∧ c'.Truthful F agent := by
  have learned := (sizeOf?_learns id c truthful).informed consistent.informs s
  rw [run] at learned
  exact learned

/-- Considering an item keeps the candidate sound. -/
theorem Considered.sound {σ : Type} {b : Backend σ} (consistent : b.Consistent F) {p : Packer}
    {owner : AgentId} {r r' : Round} {i : Item} {c c' : Catalog} {s s' : σ} {events : List Event}
    (truthful : c.Truthful F owner) (h : r.candidate.Sound F p.agent)
    (step : Considered b p r i c s r' c' s' events) :
    r'.candidate.Sound F p.agent ∧ c'.Truthful F owner := by
  cases step with
  | full cap => exact ⟨h, truthful⟩
  | unsized room size => exact ⟨h, (run_sizeOf? consistent truthful size).2⟩
  | overflow room size sum => exact ⟨h, (run_sizeOf? consistent truthful size).2⟩
  | refused room size sum refusal => exact ⟨h, (run_sizeOf? consistent truthful size).2⟩
  | @joined n total config _ after room size sum taken =>
    obtain ⟨counted, truthful'⟩ := run_sizeOf? consistent truthful size
    exact ⟨Round.join_sound h counted.symm sum
      ((consistent.taken_iff _ _ _).2 ⟨config, taken⟩) config, truthful'⟩

end Packer

namespace Sampler

/-- What comes of gathering the counters of these names after others: those that the agent has, if
their records can be counted. -/
def Gathered (F : Facts) (known : NameMap CounterId) (before : Single) (names : List String) :
    Except SamplerError Single → Prop
  | .ok s => s.items = before.items ++ (Packer.resolve known names).1 ∧
      Packer.Sized F s.items s.size
  | .error _ => ∀ size, ¬Packer.Sized F (before.items ++ (Packer.resolve known names).1) size

section Gathered

variable {before : Single} {name : String} {names : List String} {r : Except SamplerError Single}

theorem Gathered.skip (unknown : known.find? name = none) (h : Gathered F known before names r) :
    Gathered F known before (name :: names) r := by
  have skipped : (Packer.resolve known (name :: names)).1 = (Packer.resolve known names).1 := by
    simp [Packer.resolve, unknown]
  unfold Gathered
  rw [skipped]
  exact h

theorem Gathered.take {id : CounterId} {size : Nat} (there : known.find? name = some id)
    (h : Gathered F known ⟨before.items ++ [⟨name, id⟩], size⟩ names r) :
    Gathered F known before (name :: names) r := by
  have taken : before.items ++ (Packer.resolve known (name :: names)).1 =
      (before.items ++ [⟨name, id⟩]) ++ (Packer.resolve known names).1 := by
    simp [Packer.resolve, there]
  unfold Gathered
  rw [taken]
  exact h

/-- A counter whose records cannot be counted with those before it ends the gathering. -/
theorem Gathered.stop {id : CounterId} (sized : Packer.Sized F before.items before.size)
    (there : known.find? name = some id)
    (uncounted : ∀ n total, F.sizeOf? id = some n → Word.add? before.size n ≠ some total)
    (e : SamplerError) : Gathered F known before (name :: names) (.error e) := by
  have stopped : Gathered F known ⟨before.items ++ [⟨name, id⟩], 0⟩ names (.error e) := by
    intro size more
    obtain ⟨total, first⟩ := more.of_append
    obtain ⟨n, counted, sum⟩ := (Packer.sized_append_iff sized).1 first
    exact uncounted n total counted sum
  exact stopped.take there

end Gathered

theorem gatherSingle_learns (listing : F.listing agent = .ok known) (before : Single)
    (names : List String) (sized : Packer.Sized F before.items before.size) :
    StepsLearn F agent (Gathered F known before names) (gatherSingle before names).run := by
  induction names generalizing before with
  | nil => exact stepsLearn_ok ⟨(List.append_nil _).symm, sized⟩
  | cons name names ih =>
    refine (Catalog.lookup_learns name).bindOk (fun found told => ?_) fun e failed => ?_
    case refine_2 =>
      rw [listing] at failed
      cases failed
    rw [listing] at told
    obtain rfl : found = known.find? name := Except.ok.inj told
    cases there : known.find? name with
    | none => exact (ih before sized).mono fun r gathered => gathered.skip there
    | some id =>
      refine (Catalog.recordCountOf_learns id).bindOk (fun n counted => ?_) fun e failed => ?_
      case refine_2 =>
        refine Gathered.stop sized there (fun n total counted => ?_) e
        rw [← failed] at counted
        cases counted
      have swap : Word.add? n before.size = Word.add? before.size n := by
        rw [Word.add?, Word.add?, Nat.add_comm]
      cases sum : Word.add? n before.size with
      | none =>
        refine fun c truthful => ⟨Gathered.stop sized there (fun n' total counted' => ?_) _, truthful⟩
        obtain rfl : n' = n := Option.some.inj (counted'.symm.trans counted.symm)
        rw [← swap, sum]
        nofun
      | some size =>
        have more : Packer.Sized F (before.items ++ [⟨name, id⟩]) size :=
          (Packer.sized_append_iff sized).2 ⟨n, counted.symm, swap.symm.trans sum⟩
        exact (ih ⟨before.items ++ [⟨name, id⟩], size⟩ more).mono fun r gathered =>
          gathered.take there

/-- If the counters of the agent cannot be listed, only the empty list can be gathered. -/
theorem gatherSingle_unlisted {cause : BackendError} (unlisted : F.listing agent = .error cause)
    (before : Single) (names : List String) :
    StepsLearn F agent (fun r => ∀ s, r = .ok s → names = [] ∧ s = before)
      (gatherSingle before names).run := by
  cases names with
  | nil => exact stepsLearn_ok fun s same => ⟨rfl, (Except.ok.inj same).symm⟩
  | cons name names =>
    refine (Catalog.lookup_learns name).bindOk (fun found told => ?_) fun e _ => nofun
    rw [unlisted] at told
    cases told

/-- What can be gathered from nothing are the counters that the names stand for. -/
theorem gatherSingle_resolves (agent : AgentId) (names : List String) :
    StepsLearn F agent
      (fun r => ∀ s, r = .ok s → ∃ known, (F.listing agent = .ok known ∨ names = []) ∧
        s.items = (Packer.resolve known names).1 ∧ Packer.Sized F s.items s.size)
      (gatherSingle {} names).run := by
  cases listing : F.listing agent with
  | error cause =>
    refine (gatherSingle_unlisted listing {} names).mono fun r empty s same => ?_
    obtain ⟨rfl, rfl⟩ := empty s same
    exact ⟨.empty, .inr rfl, rfl, Packer.sized_nil F⟩
  | ok known =>
    refine (gatherSingle_learns listing {} names (Packer.sized_nil F)).mono fun r gathered s => ?_
    rintro rfl
    exact ⟨known, .inl rfl, gathered⟩

/-- What becomes of the gathered counters when they are put to the device. -/
def Single.built (agent : AgentId) (s : Single) : ConfigureOutcome → Except SamplerError Profile
  | .configured config => .ok ⟨config, s.items.map fun i => i.name, s.size⟩
  | .capacityExceeded => .error .capacityExceeded
  | .failed e => .error (.configuration agent e)

/-- Building a single profile gathers its counters and puts them to the device once. -/
theorem run_buildSingle (agent : AgentId) (names : List String) (c : Catalog) :
    (buildSingle agent names).run.run c = (gatherSingle {} names).run.run c >>= fun x =>
      match x.1 with
      | .error e => .done (.error e, x.2)
      | .ok s => .ask (.tryConfigure agent (s.items.map fun i => i.id)) fun outcome =>
          .done (s.built agent outcome, x.2) := by
  simp only [buildSingle, ExceptT.run_bind, StateT.run_bind]
  refine congrArg _ (funext fun x => ?_)
  obtain ⟨r, c'⟩ := x
  cases r with
  | error e => rfl
  | ok s =>
    refine congrArg (Procedure.ask _) (funext fun outcome => ?_)
    cases outcome <;> rfl

end Sampler

end CounterSampling
