import CounterSampling.Proofs.Caching.CatalogCalls
import CounterSampling.Proofs.Device.Grid

/-!
# What a catalog remembers of sizes

A catalog forgets nothing, and it remembers every record count that it has given. So a count that
was once given is given again, without asking.
-/

namespace CounterSampling

open Procedure

namespace Catalog

/-- How many records a counter gives, as the catalog remembers it. -/
def countOf? (c : Catalog) (id : CounterId) : Option Nat :=
  (c.dimensions.find? id).bind recordCount?

/-- All dimensions that the one catalog remembers the other remembers as well. -/
def Extends (c c' : Catalog) : Prop :=
  ∀ id dims, c.dimensions.find? id = some dims → c'.dimensions.find? id = some dims

theorem Extends.refl (c : Catalog) : c.Extends c :=
  fun _ _ => id

theorem Extends.trans {c c' c'' : Catalog} (h : c.Extends c') (h' : c'.Extends c'') :
    c.Extends c'' :=
  fun id dims found => h' id dims (h id dims found)

theorem Extends.countOf? {c c' : Catalog} (h : c.Extends c') {id : CounterId} {n : Nat}
    (counted : c.countOf? id = some n) : c'.countOf? id = some n := by
  obtain ⟨dims, found, count⟩ := Option.bind_eq_some_iff.1 counted
  exact Option.bind_eq_some_iff.2 ⟨dims, h id dims found, count⟩

theorem countOf?_pos {c : Catalog} {id : CounterId} {n : Nat} (counted : c.countOf? id = some n) :
    1 ≤ n := by
  obtain ⟨dims, -, count⟩ := Option.bind_eq_some_iff.1 counted
  exact (recordCount?_bounds count).1

/-- What is remembered is not asked for again. -/
theorem run_recordCountOf_remembered {c : Catalog} {id : CounterId} {n : Nat}
    (counted : c.countOf? id = some n) :
    (recordCountOf id).run.run c = .done (.ok n, c) := by
  obtain ⟨dims, found, count⟩ := Option.bind_eq_some_iff.1 counted
  rw [recordCountOf, dimensionsOf, ExceptT.run_bind, StateT.run_bind, run_bind_getOk, found,
    ExceptT.run_pure, StateT.run_pure, pure_bind]
  simp only [count]
  rfl

/-- Dimensions that were asked for are remembered, and nothing is forgotten. -/
theorem dimensionsOf_extends (id : CounterId) (c : Catalog) :
    ((dimensionsOf id).run.run c).Ensures (fun _ => True) fun y => c.Extends y.2 ∧
      ∀ dims, y.1 = .ok dims → y.2.dimensions.find? id = some dims := by
  cases known : c.dimensions.find? id with
  | some dims =>
    rw [dimensionsOf, run_bind_getOk, known]
    exact ⟨.refl c, fun dims' same => known.trans (congrArg some (Except.ok.inj same))⟩
  | none =>
    rw [run_dimensionsOf_unknown known]
    refine ⟨trivial, fun r => ?_⟩
    cases r with
    | error e =>
      refine ⟨.refl c, fun dims same => ?_⟩
      cases same
    | ok dims =>
      refine ⟨fun other dims' found => ?_, fun dims' same => ?_⟩
      · have apart : id ≠ other := by
          rintro rfl
          rw [known] at found
          cases found
        rw [Table.find?_insert, if_neg apart]
        exact found
      · rw [Table.find?_insert, if_pos rfl, Except.ok.inj same]

end Catalog

namespace Packer

/-- A size that was had is remembered, and nothing is forgotten. -/
theorem sizeOf?_extends (id : CounterId) (c : Catalog) :
    ((sizeOf? id).run c).Ensures (fun _ => True) fun y => c.Extends y.2 ∧
      ∀ n, y.1 = some n → y.2.countOf? id = some n := by
  have counted : ((Catalog.recordCountOf id).run.run c).Ensures (fun _ => True) fun y =>
      c.Extends y.2 ∧ ∀ n, y.1 = .ok n → y.2.countOf? id = some n := by
    refine ensures_bindOk ((Catalog.dimensionsOf_extends id c).mono (fun _ => fun any => any)
      fun x told => ?_)
    obtain ⟨r, c'⟩ := x
    obtain ⟨more, remembered⟩ := told
    cases r with
    | error e => exact ⟨more, nofun⟩
    | ok dims =>
      cases count : recordCount? dims with
      | none =>
        simp only [count]
        exact ⟨more, nofun⟩
      | some n =>
        simp only [count]
        refine ⟨more, fun n' same => ?_⟩
        rw [Catalog.countOf?, remembered dims rfl, Option.bind_some, count, Except.ok.inj same]
  refine counted.bind fun x told => ?_
  obtain ⟨r, c'⟩ := x
  cases r with
  | error e => exact ⟨told.1, nofun⟩
  | ok n => exact ⟨told.1, fun n' same => told.2 n' (congrArg Except.ok (Option.some.inj same))⟩

end Packer

end CounterSampling
