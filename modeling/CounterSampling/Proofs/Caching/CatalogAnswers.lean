import CounterSampling.Device.Builder
import CounterSampling.Proofs.ByteOrder
import CounterSampling.Proofs.Caching.CatalogCalls

/-!
# A catalog is as good as one that remembers nothing

The catalog that remembers nothing is described by rules that say of every answer how it comes from
what the backend tells: `Facts.Explains`. Where the backend always answers an inquiry in the same
way, a catalog answers every question like it, whatever it was asked before, and asks less:
`Catalog.answers_uncached`.
-/

namespace CounterSampling

open CatalogQuestion Procedure
open Text.Utf8 (BytesAscend bytesAscend)

namespace Facts

variable {F : Facts} {agent : AgentId}

/-! Listings. -/

/-- All counters of a listing are named. -/
theorem named_of_nameAll {ids : List CounterId} {known known' : NameMap CounterId}
    (listed : F.nameAll known ids = .ok known') : ∀ id ∈ ids, (F.named id).isOk = true := by
  induction ids generalizing known with
  | nil => exact nofun
  | cons id ids ih =>
    rw [nameAll] at listed
    cases told : F.named id with
    | error e =>
      rw [told] at listed
      cases listed
    | ok name =>
      rw [told] at listed
      exact List.forall_mem_cons.2 ⟨congrArg Except.isOk told, ih listed⟩

/-- A listing fails with the first counter that cannot be named. -/
theorem error_of_nameAll {ids : List CounterId} {known : NameMap CounterId} {e : BackendError}
    (failed : F.nameAll known ids = .error e) :
    ∃ earlier id later, ids = earlier ++ id :: later ∧
      (∀ id' ∈ earlier, (F.named id').isOk = true) ∧ F.named id = .error e := by
  induction ids generalizing known with
  | nil => cases failed
  | cons id ids ih =>
    rw [nameAll] at failed
    cases told : F.named id with
    | error e' =>
      rw [told] at failed
      obtain rfl : e' = e := Except.error.inj failed
      exact ⟨[], id, ids, rfl, List.forall_mem_nil _, told⟩
    | ok name =>
      rw [told] at failed
      obtain ⟨earlier, id', later, rfl, named, untold⟩ := ih failed
      have first : (F.named id).isOk = true := congrArg Except.isOk told
      exact ⟨id :: earlier, id', later, rfl, List.forall_mem_cons.2 ⟨first, named⟩, untold⟩

/-! Descriptions. -/

/-- The rows of a description are the entries described, with their dimensions. -/
theorem rows_of_describeAll {listed : List (String × CounterId)} {rows : List Counter}
    (described : F.describeAll agent listed = .ok rows) :
    (rows.map fun row => (row.name, row.id)) = listed ∧
      ∀ row ∈ rows, F.dimensions row.id = .ok row.dimensions := by
  induction listed generalizing rows with
  | nil =>
    rw [← Except.ok.inj described]
    exact ⟨rfl, nofun⟩
  | cons entry listed ih =>
    rw [describeAll] at described
    cases told : F.dimensions entry.2 with
    | error e =>
      rw [told] at described
      cases described
    | ok dims =>
      rw [told] at described
      cases later : F.describeAll agent listed with
      | error e =>
        rw [later] at described
        cases described
      | ok rows' =>
        rw [later] at described
        obtain ⟨entries, dimensions⟩ := ih later
        obtain rfl := Except.ok.inj described
        exact ⟨congrArg (entry :: ·) entries, List.forall_mem_cons.2 ⟨told, dimensions⟩⟩

/-- A description fails with the first entry whose dimensions are not told. -/
theorem error_of_describeAll {listed : List (String × CounterId)} {e : SamplerError}
    (failed : F.describeAll agent listed = .error e) :
    ∃ earlier entry later, listed = earlier ++ entry :: later ∧
      (∀ x ∈ earlier, (F.dimensions x.2).isOk = true) ∧
        (F.dimensions entry.2).mapError (.catalog agent) = .error e := by
  induction listed with
  | nil => cases failed
  | cons entry listed ih =>
    rw [describeAll] at failed
    cases told : F.dimensions entry.2 with
    | error e' =>
      rw [told] at failed
      have same : SamplerError.catalog agent e' = e := Except.error.inj failed
      refine ⟨[], entry, listed, rfl, nofun, ?_⟩
      rw [told, ← same]
      rfl
    | ok dims =>
      rw [told] at failed
      cases later : F.describeAll agent listed with
      | ok rows =>
        rw [later] at failed
        cases failed
      | error e' =>
        rw [later] at failed
        have same : e' = e := Except.error.inj failed
        obtain ⟨earlier, entry', rest, rfl, described, untold⟩ := ih (later.trans (congrArg _ same))
        have first : (F.dimensions entry.2).isOk = true := congrArg Except.isOk told
        refine ⟨entry :: earlier, entry', rest, rfl, ?_, untold⟩
        exact List.forall_mem_cons.2 ⟨first, described⟩

/-- How the answers about the counters of an agent come from what is told. -/
structure Explains (F : Facts) (agent : AgentId) (answer : (q : CatalogQuestion) → q.Answer) :
    Prop where
  /-- In a listing, a name stands for the last counter of the agent that bears it. -/
  listed : ∀ known, answer .list = .ok known →
    ∃ ids, F.listed agent = .ok ids ∧ (∀ id ∈ ids, (F.named id).isOk = true) ∧
      ∀ name, known.find? name =
        ids.reverse.find? fun id => decide ((F.named id).toOption = some name)
  /-- Only counters that are not told, or one that cannot be named, keep them from being listed. -/
  unlisted : ∀ e, answer .list = .error e →
    (∃ cause, F.listed agent = .error cause ∧ e = .catalog agent cause) ∨
      ∃ earlier id later cause, F.listed agent = .ok (earlier ++ id :: later) ∧
        (∀ id' ∈ earlier, (F.named id').isOk = true) ∧
        F.named id = .error cause ∧ e = .catalog agent cause
  /-- A name is looked up in a listing. -/
  lookup : ∀ name, answer (.lookup name) = (answer .list).map fun known => known.find? name
  /-- A record is called what its counter is called. -/
  named : ∀ r name, F.named r.counter = .ok name → answer (.nameOf r) = name
  /-- A record is called unknown just if no other name is told for its counter. -/
  unknown_iff : ∀ r, answer (.nameOf r) = Catalog.unknownCounter ↔
    ∀ name, F.named r.counter = .ok name → name = Catalog.unknownCounter
  /-- A description has a row for every name of a listing, in strictly ascending order, and in it
  the counter that the name stands for and its dimensions. -/
  described : ∀ rows, answer .describe = .ok rows →
    BytesAscend (rows.map fun row => row.name) ∧
      (∃ known, answer .list = .ok known ∧ (rows.map fun row => row.name) = known.names) ∧
      ∀ row ∈ rows, answer (.lookup row.name) = .ok (some row.id) ∧
        answer (.dimensionsOf row.id) = .ok row.dimensions
  /-- A description fails like the listing, or else like the first of its names, in ascending order,
  whose dimensions are not told. -/
  undescribed : ∀ e, answer .describe = .error e →
    answer .list = .error e ∨
      ∃ known earlier entry later, answer .list = .ok known ∧
        known.entries = earlier ++ entry :: later ∧
        (∀ x ∈ earlier, (answer (.dimensionsOf x.2)).isOk = true) ∧
        answer (.dimensionsOf entry.2) = .error e

theorem nameOf_eq_unknown_iff (id : CounterId) :
    F.nameOf id = Catalog.unknownCounter ↔
      ∀ name, F.named id = .ok name → name = Catalog.unknownCounter := by
  rw [nameOf]
  cases told : F.named id with
  | ok name => exact ⟨fun same _ h => Except.ok.inj h ▸ same, fun only => only name rfl⟩
  | error e =>
    refine ⟨fun _ name same => ?_, fun _ => rfl⟩
    cases same

theorem explains_answer (F : Facts) (agent : AgentId) : F.Explains agent (F.answer agent) where
  listed known h := by
    have listing : F.listing agent = .ok known := mapError_eq_ok.1 h
    rw [Facts.listing] at listing
    cases told : F.listed agent with
    | error e =>
      rw [told] at listing
      cases listing
    | ok ids =>
      rw [told] at listing
      refine ⟨ids, rfl, named_of_nameAll listing, fun name => ?_⟩
      rw [find?_of_nameAll listing name]
      exact Option.or_none
  unlisted e h := by
    change (F.listing agent).mapError _ = _ at h
    rw [Facts.listing] at h
    cases told : F.listed agent with
    | error cause =>
      rw [told] at h
      exact .inl ⟨cause, rfl, (Except.error.inj h).symm⟩
    | ok ids =>
      rw [told] at h
      cases named : F.nameAll .empty ids with
      | ok known =>
        simp only [named] at h
        cases h
      | error cause =>
        simp only [named] at h
        obtain ⟨earlier, id, later, rfl, before, untold⟩ := error_of_nameAll named
        exact .inr ⟨earlier, id, later, cause, rfl, before, untold, (Except.error.inj h).symm⟩
  lookup name := by
    change F.lookup agent name = _
    rw [Facts.lookup, answer]
    cases F.listing agent <;> rfl
  named r name told := Catalog.nameOf_of_told told
  unknown_iff r := nameOf_eq_unknown_iff r.counter
  described rows h := by
    change F.describe agent = _ at h
    rw [describe] at h
    cases listing : F.listing agent with
    | error e =>
      rw [listing] at h
      cases h
    | ok known =>
      rw [listing] at h
      obtain ⟨entries, dimensions⟩ := rows_of_describeAll h
      have names : (rows.map fun row => row.name) = known.names := by
        rw [NameMap.names, ← entries, List.map_map]
        rfl
      have same : answer F agent .list = .ok known := congrArg (Except.mapError _) listing
      refine ⟨?_, ⟨known, same, names⟩, fun row mem => ⟨?_, ?_⟩⟩
      · rw [names]
        exact bytesAscend known.names_ascend
      · have there : (row.name, row.id) ∈ known.entries := entries ▸ List.mem_map_of_mem mem
        have found : known.find? row.name = some row.id :=
          Table.lookup_of_mem known.nodup_names there
        change F.lookup agent row.name = _
        rw [Facts.lookup, listing, ← found]
        rfl
      · exact congrArg (Except.mapError _) (dimensions row mem)
  undescribed e h := by
    change F.describe agent = _ at h
    rw [describe] at h
    cases listing : F.listing agent with
    | error cause =>
      rw [listing] at h
      have same : SamplerError.catalog agent cause = e := Except.error.inj h
      refine .inl ?_
      change (F.listing agent).mapError _ = _
      rw [listing, ← same]
      rfl
    | ok known =>
      rw [listing] at h
      obtain ⟨earlier, entry, later, entries, before, untold⟩ := error_of_describeAll h
      refine .inr ⟨known, earlier, entry, later, congrArg (Except.mapError _) listing, entries,
        fun x mem => ?_, untold⟩
      change ((F.dimensions x.2).mapError _).isOk = true
      have told := before x mem
      revert told
      cases F.dimensions x.2 <;> exact id

end Facts

/-- On a backend that always answers an inquiry in the same way, and whatever a catalog was asked
before, it answers like a catalog that remembers nothing, which the rules explain. The counters are
listed for a question that needs them, unless a listing succeeded before; the dimensions of a
counter are told at most once. -/
theorem Catalog.answers_uncached {σ : Type} {b : Backend σ} (stable : b.Stable) (agent : AgentId)
    (before : List CatalogQuestion) (s s' : σ) :
    let fresh (q : CatalogQuestion) : q.Answer := ((q.askAnew agent).run b s').1
    let y := ((askAll before).run (new agent)).run b s
    (∀ q : CatalogQuestion,
      ((q.ask.run y.1.2).run b y.2).1.1 = fresh q ∧
        ((q.ask.run y.1.2).trace b y.2).countP Event.isListing =
          if q.enumerates && !(before.any enumerates && (fresh .list).isOk) then 1 else 0) ∧
      (∀ id, (((askAll before).run (new agent)).trace b s).countP (Event.tellsDimensions id) ≤ 1) ∧
      (b.facts s').Explains agent fresh := by
  intro fresh y
  have told (q : CatalogQuestion) : fresh q = (b.facts s').answer agent q :=
    stable.learned s' s' q.askAnew_learns
  obtain ⟨truthful, known⟩ := stable.askedAll (truthful_new (b.facts s') agent) before s
  have canList : (fresh .list).isOk = (b.facts s').canList agent := by
    rw [told, Facts.answer, Facts.canList]
    cases (b.facts s').listing agent <;> rfl
  refine ⟨fun q => ⟨?_, ?_⟩, fun id => ?_, ?_⟩
  · rw [told]
    exact (stable.asked truthful q y.2).1
  · rw [(stable.lists truthful q y.2).1, canList, known]
    rfl
  · exact Nat.le_of_add_right_le (askAll_frugal before σ b (new agent) s)
  · rw [funext told]
    exact (b.facts s').explains_answer agent

/-- Whatever its state is, a simulated device answers an inquiry in the same way. -/
theorem Device.stable (d : Device) : d.backend.Stable := by
  intro c inquiry s s'
  cases c with
  | supportedCounters agent => rfl
  | counterName id => rfl
  | counterDimensions id => rfl
  | dimensionPosition r id => rfl
  | _ => exact inquiry.elim

/-- A GPU that has two counters of one name. -/
def twoAlike : Device.Builder :=
  let gpu : AgentInfo := ⟨⟨1⟩, .gpu, "gfx942", 10001, 128, 1⟩
  ((Device.Builder.agent {} gpu).counter "WAVES" [] 1.0).counter "WAVES" [("XCC", 8)] 1.0

/-- The name of two counters stands for the second, which is known after a description. -/
theorem Catalog.answers_uncached_shared_name :
    let b := twoAlike.device.backend
    let y := ((askAll [.describe]).run (new ⟨1⟩)).run b twoAlike.initial
    b.Stable ∧
      (((lookup "WAVES").run.run y.1.2).run b y.2).1.1 = .ok (some ⟨0x101⟩) ∧
      (((lookup "WAVES").run.run y.1.2).trace b y.2).countP Event.isListing = 0 := by
  have stable := twoAlike.device.stable
  have asked := (answers_uncached stable ⟨1⟩ [.describe] twoAlike.initial {}).1 (.lookup "WAVES")
  exact ⟨stable, asked.1, asked.2⟩

/-- A GPU that has a counter with the name of the unknown ones. -/
def namedUnknown : Device.Builder :=
  let gpu : AgentInfo := ⟨⟨1⟩, .gpu, "gfx942", 10001, 128, 1⟩
  (Device.Builder.agent {} gpu).counter Catalog.unknownCounter [] 1.0

/-- Being called unknown does not tell whether a counter can be named: a counter may bear that very
name. -/
theorem Catalog.nameOf_named_unknown :
    let b := namedUnknown.device.backend
    let r : Record := ⟨0, ⟨0x100⟩, 0.0⟩
    let told : Except BackendError String := (b.answer (.counterName r.counter) {}).1
    let answer := (((nameOf r).run (.new ⟨1⟩)).run b {}).1.1
    b.Stable ∧ told = .ok unknownCounter ∧ answer = unknownCounter ∧
      ¬(answer = unknownCounter ↔ ∃ e, told = .error e) := by
  refine ⟨namedUnknown.device.stable, rfl, rfl, fun claimed => ?_⟩
  obtain ⟨e, failed⟩ := claimed.1 rfl
  cases failed

end CounterSampling
