import CounterSampling.Config.Load
import CounterSampling.Proofs.Config.DocumentKeys
import Mathlib.Data.List.Induction

/-!
# Settings written one after another

The settings of a file and those of the environment are written into one table. A key that is a name
writes to the entry of that name; a path writes to the entry that it starts from. So what stands at
a name in the end is what was written there, unless a path starts from it. Main statements:
`lookup_assignAll` and `lookup_settings`.
-/

namespace CounterSampling

open Toml (keysOf)

/-- A key that is a name and no path. -/
def PathStep.IsName (key : String) : Prop := ofKey key = (key, [])

/-! ## Writing settings -/

namespace Setting

/-- What stands at a name after something was written to it. -/
def placed (v : Setting) (old : Option Setting) : Setting :=
  match v with
  | .table _ incoming => addEntries incoming old
  | v => v

theorem assign_name {key : String} (name : PathStep.IsName key) (s v : Setting) :
    s.assign key v = .ok (putEntry key v s) := by
  rw [assign, name]
  rfl

theorem lookup_putEntry (key name : String) (v s : Setting) :
    Table.lookup name (putEntry key v s).entries =
      if key = name then some (placed v (Table.lookup key s.entries))
      else Table.lookup name s.entries := by
  have written : (putEntry key v s).entries =
      Table.write key (placed v (Table.lookup key s.entries)) s.entries := by
    cases v <;> rfl
  rw [written, Table.lookup_write]

/-- Writing to a path changes the entry that the path starts from and no other. -/
theorem lookup_assign_other {s s' v : Setting} {key name : String}
    (assigned : s.assign key v = .ok s') (other : (PathStep.ofKey key).1 ≠ name) :
    Table.lookup name s'.entries = Table.lookup name s.entries := by
  unfold assign at assigned
  generalize PathStep.ofKey key = path at assigned other
  obtain ⟨start, steps⟩ := path
  cases steps with
  | nil =>
    obtain rfl := Except.ok.inj assigned
    rw [lookup_putEntry, if_neg other]
  | cons step steps =>
    obtain ⟨child, -, written⟩ := bind_eq_ok.1 assigned
    obtain rfl := Except.ok.inj written
    exact (Table.lookup_write _ _ _ _).trans (if_neg other)

/-- No key of some entries is a path that leads from a name. -/
def Apart (name : String) (es : List (String × Setting)) : Prop :=
  ∀ key ∈ keysOf es, (PathStep.ofKey key).1 = name → key = name

/-- What stands at a name after entries were written. -/
theorem lookup_assignAll {name : String} (plain : PathStep.IsName name)
    {es : List (String × Setting)} (apart : Apart name es) (nodup : (keysOf es).Nodup)
    {s s' : Setting} (assigned : s.assignAll es = .ok s') :
    Table.lookup name s'.entries =
      match Table.lookup name es with
      | some v => some (placed v (Table.lookup name s.entries))
      | none => Table.lookup name s.entries := by
  induction es generalizing s with
  | nil =>
    obtain rfl := Except.ok.inj assigned
    rfl
  | cons e es ih =>
    obtain ⟨key, v⟩ := e
    obtain ⟨first, later⟩ := List.forall_mem_cons.1 apart
    obtain ⟨absent, nodup⟩ := List.nodup_cons.1 nodup
    obtain ⟨s₁, assigned₁, assigned⟩ := bind_eq_ok.1 assigned
    rw [ih later nodup assigned]
    by_cases same : key = name
    · subst same
      rw [assign_name plain] at assigned₁
      obtain rfl := Except.ok.inj assigned₁
      rw [Table.lookup_eq_none_iff.2 absent, Table.lookup, if_pos rfl]
      exact (lookup_putEntry key key v s).trans (if_pos rfl)
    · have other : (PathStep.ofKey key).1 ≠ name := fun start => same (first start)
      rw [lookup_assign_other assigned₁ other, Table.lookup, if_neg same]

/-- Names can always be written to. -/
theorem assignAll_names {es : List (String × Setting)}
    (names : ∀ key ∈ keysOf es, PathStep.IsName key) (s : Setting) :
    ∃ s', s.assignAll es = .ok s' := by
  induction es generalizing s with
  | nil => exact ⟨s, rfl⟩
  | cons e es ih =>
    obtain ⟨first, later⟩ := List.forall_mem_cons.1 names
    obtain ⟨s', assigned⟩ := ih later (putEntry e.1 e.2 s)
    refine ⟨s', ?_⟩
    rw [assignAll, assign_name first]
    exact assigned

theorem apart_of_names {es : List (String × Setting)}
    (names : ∀ key ∈ keysOf es, PathStep.IsName key) (name : String) : Apart name es := by
  intro key mem start
  rw [names key mem] at start
  exact start

end Setting

namespace Environment

/-! ## Variables -/

/-- The text of the last variable that sets a key. -/
def value? (key : String) (environment : List (String × String)) : Option String :=
  ((environment.filter fun v => decide (keyOf? v.1 = some key)).getLast?).map Prod.snd

/-- No variable sets anything by a path. -/
def Named (environment : List (String × String)) : Prop :=
  ∀ v ∈ environment, ∀ key, keyOf? v.1 = some key → PathStep.IsName key

theorem settings_concat (environment : List (String × String)) (v : String × String) :
    settings (environment ++ [v]) =
      match keyOf? v.1 with
      | some key => Table.write key (settingOf key v.2) (settings environment)
      | none => settings environment := by
  unfold settings
  rw [List.foldl_append]
  rfl

theorem value?_concat (key : String) (environment : List (String × String))
    (v : String × String) :
    value? key (environment ++ [v]) =
      if keyOf? v.1 = some key then some v.2 else value? key environment := by
  unfold value?
  rw [List.filter_append]
  by_cases sets : keyOf? v.1 = some key
  · rw [if_pos sets, List.filter_cons_of_pos (by simpa using sets), List.filter_nil,
      List.getLast?_concat]
    rfl
  · rw [if_neg sets, List.filter_cons_of_neg (by simpa using sets), List.filter_nil,
      List.append_nil]

/-- What the variables set. -/
theorem lookup_settings (key : String) (environment : List (String × String)) :
    Table.lookup key (settings environment) =
      (value? key environment).map (settingOf key) := by
  induction environment using List.reverseRecOn with
  | nil => rfl
  | append_singleton environment v ih =>
    rw [settings_concat, value?_concat]
    cases sets : keyOf? v.1 with
    | none =>
      rw [if_neg nofun]
      exact ih
    | some key' =>
      dsimp only
      rw [Table.lookup_write, ih]
      by_cases same : key' = key
      · subst same
        rw [if_pos rfl, if_pos rfl]
        rfl
      · rw [if_neg same, if_neg (by simpa using same)]

theorem settings_nodup (environment : List (String × String)) :
    (keysOf (settings environment)).Nodup := by
  induction environment using List.reverseRecOn with
  | nil => exact List.nodup_nil
  | append_singleton environment v ih =>
    rw [settings_concat]
    cases keyOf? v.1 with
    | none => exact ih
    | some key => exact Table.nodup_keys_write key _ ih

theorem settings_names {environment : List (String × String)} (named : Named environment) :
    ∀ key ∈ keysOf (settings environment), PathStep.IsName key := by
  induction environment using List.reverseRecOn with
  | nil => exact nofun
  | append_singleton environment v ih =>
    rw [settings_concat]
    have before := ih fun v mem => named v (List.mem_append_left _ mem)
    cases sets : keyOf? v.1 with
    | none => exact before
    | some key =>
      intro key' mem
      have keys := Table.keys_write key (settingOf key v.2) (settings environment)
      dsimp only at mem
      rw [keysOf, keys] at mem
      split at mem
      · exact before key' mem
      · rcases List.mem_append.1 mem with old | new
        · exact before key' old
        · obtain rfl := List.mem_singleton.1 new
          exact named v (List.mem_append_right _ List.mem_cons_self) _ sets

/-- A variable never gives a table. -/
theorem placed_settingOf (key value : String) (old : Option Setting) :
    (settingOf key value).placed old = settingOf key value := by
  unfold settingOf
  split
  · rfl
  · split <;> rfl

end Environment

end CounterSampling
