/-!
# Tables

Two finite maps over lists. A `Table` keeps its entries in the order in which their keys were first
written. A `NameMap` keeps them in ascending order of their names, compared character by character.
-/

namespace CounterSampling

namespace Table

variable {κ β : Type}

def lookup [DecidableEq κ] (k : κ) : List (κ × β) → Option β
  | [] => none
  | (k', v) :: es => if k' = k then some v else lookup k es

/-- Write a key in a list of entries: in its place, or at the end. -/
def write [DecidableEq κ] (k : κ) (v : β) : List (κ × β) → List (κ × β)
  | [] => [(k, v)]
  | (k', v') :: es => if k' = k then (k', v) :: es else (k', v') :: write k v es

theorem keys_write [DecidableEq κ] (k : κ) (v : β) (es : List (κ × β)) :
    (write k v es).map Prod.fst =
      if k ∈ es.map Prod.fst then es.map Prod.fst else es.map Prod.fst ++ [k] := by
  induction es with
  | nil => rfl
  | cons e es ih =>
    obtain ⟨k', v'⟩ := e
    by_cases h : k' = k
    · simp [write, h]
    · by_cases hk : k ∈ es.map Prod.fst <;> simp [write, h, Ne.symm h, ih, hk]

theorem nodup_keys_write [DecidableEq κ] (k : κ) (v : β) {es : List (κ × β)}
    (h : (es.map Prod.fst).Nodup) : ((write k v es).map Prod.fst).Nodup := by
  rw [keys_write]
  split
  · exact h
  · next hk =>
    rw [List.nodup_append]
    refine ⟨h, List.pairwise_singleton _ k, fun a ha b hb => ?_⟩
    rw [List.mem_singleton.1 hb]
    exact fun hab => hk (hab ▸ ha)

end Table

/-- A finite map in order of first insertion. -/
structure Table (κ β : Type) where
  entries : List (κ × β) := []
  nodup : (entries.map Prod.fst).Nodup := by exact List.nodup_nil

namespace Table

variable {κ β : Type}

def empty : Table κ β := {}

instance : Inhabited (Table κ β) := ⟨empty⟩

def find? [DecidableEq κ] (t : Table κ β) (k : κ) : Option β :=
  lookup k t.entries

def contains [DecidableEq κ] (t : Table κ β) (k : κ) : Bool :=
  (t.find? k).isSome

def insert [DecidableEq κ] (t : Table κ β) (k : κ) (v : β) : Table κ β where
  entries := write k v t.entries
  nodup := nodup_keys_write k v t.nodup

def erase [DecidableEq κ] (t : Table κ β) (k : κ) : Table κ β where
  entries := t.entries.filter fun e => !decide (e.1 = k)
  nodup := t.nodup.sublist (List.filter_sublist.map Prod.fst)

def size (t : Table κ β) : Nat := t.entries.length

def keys (t : Table κ β) : List κ := t.entries.map Prod.fst

def values (t : Table κ β) : List β := t.entries.map Prod.snd

@[simp] theorem find?_empty [DecidableEq κ] (k : κ) : (empty : Table κ β).find? k = none := rfl

theorem lookup_write [DecidableEq κ] (k j : κ) (v : β) (es : List (κ × β)) :
    lookup j (write k v es) = if k = j then some v else lookup j es := by
  induction es with
  | nil => rfl
  | cons e es ih =>
    obtain ⟨k', v'⟩ := e
    by_cases h : k' = k
    · subst h
      by_cases hj : k' = j <;> simp [write, lookup, hj]
    · by_cases hj : k = j
      · subst hj
        simp [write, lookup, h, ih]
      · simp [write, lookup, h, ih, hj]

@[simp] theorem find?_insert [DecidableEq κ] (t : Table κ β) (k j : κ) (v : β) :
    (t.insert k v).find? j = if k = j then some v else t.find? j :=
  lookup_write k j v t.entries

theorem lookup_filter_ne [DecidableEq κ] (k j : κ) (es : List (κ × β)) :
    lookup j (es.filter fun e => !decide (e.1 = k)) = if k = j then none else lookup j es := by
  induction es with
  | nil => simp [lookup]
  | cons e es ih =>
    obtain ⟨k', v'⟩ := e
    by_cases h : k' = k
    · subst h
      by_cases hj : k' = j
      · subst hj
        simpa using ih
      · simpa [lookup, hj] using ih
    · by_cases hj : k = j
      · subst hj
        simpa [lookup, h] using ih
      · simp [lookup, h, hj, ih]

@[simp] theorem find?_erase [DecidableEq κ] (t : Table κ β) (k j : κ) :
    (t.erase k).find? j = if k = j then none else t.find? j :=
  lookup_filter_ne k j t.entries

/-- What is found after an insertion was inserted or was there before. -/
theorem of_find?_insert [DecidableEq κ] {t : Table κ β} {k j : κ} {v w : β}
    (found : (t.insert k v).find? j = some w) : (k = j ∧ v = w) ∨ t.find? j = some w := by
  rw [find?_insert] at found
  by_cases same : k = j
  · rw [if_pos same] at found
    exact .inl ⟨same, Option.some.inj found⟩
  · rw [if_neg same] at found
    exact .inr found

theorem of_find?_erase [DecidableEq κ] {t : Table κ β} {k j : κ} {w : β}
    (found : (t.erase k).find? j = some w) : t.find? j = some w := by
  rw [find?_erase] at found
  by_cases same : k = j
  · rw [if_pos same] at found
    cases found
  · rwa [if_neg same] at found

theorem lookup_eq_none_iff [DecidableEq κ] {k : κ} {es : List (κ × β)} :
    lookup k es = none ↔ k ∉ es.map Prod.fst := by
  induction es with
  | nil => simp [lookup]
  | cons e es ih =>
    obtain ⟨k', v⟩ := e
    by_cases h : k' = k
    · simp [lookup, h]
    · simp [lookup, h, Ne.symm h, ih]

theorem find?_eq_none_iff [DecidableEq κ] {t : Table κ β} {k : κ} :
    t.find? k = none ↔ k ∉ t.keys :=
  lookup_eq_none_iff

theorem contains_iff [DecidableEq κ] {t : Table κ β} {k : κ} :
    t.contains k = true ↔ k ∈ t.keys := by
  rw [contains, Option.isSome_iff_ne_none, ne_eq, find?_eq_none_iff, Decidable.not_not]

@[simp] theorem keys_empty : (empty : Table κ β).keys = [] := rfl

@[simp] theorem values_empty : (empty : Table κ β).values = [] := rfl

theorem keys_insert [DecidableEq κ] (t : Table κ β) (k : κ) (v : β) :
    (t.insert k v).keys = if k ∈ t.keys then t.keys else t.keys ++ [k] :=
  keys_write k v t.entries

theorem keys_insert_fresh [DecidableEq κ] {t : Table κ β} {k : κ} (fresh : k ∉ t.keys) (v : β) :
    (t.insert k v).keys = t.keys ++ [k] := by
  rw [keys_insert, if_neg fresh]

theorem keys_erase [DecidableEq κ] (t : Table κ β) (k : κ) :
    (t.erase k).keys = t.keys.erase k := by
  have nodup : t.keys.Nodup := t.nodup
  rw [nodup.erase_eq_filter, keys, keys, List.filter_map]
  refine congrArg _ (List.filter_congr fun e _ => ?_)
  rw [Bool.eq_iff_iff]
  simp

theorem length_keys (t : Table κ β) : t.keys.length = t.size :=
  List.length_map _

/-- The entries of a key and of all others make up a list of entries. -/
theorem perm_values_of_lookup [DecidableEq κ] {k : κ} {v : β} {es : List (κ × β)}
    (distinct : (es.map Prod.fst).Nodup) (found : lookup k es = some v) :
    (es.map Prod.snd).Perm (v :: (es.filter fun e => !decide (e.1 = k)).map Prod.snd) := by
  induction es with
  | nil => simp [lookup] at found
  | cons e es ih =>
    obtain ⟨k', v'⟩ := e
    obtain ⟨fresh, distinct⟩ := List.nodup_cons.1 distinct
    by_cases h : k' = k
    · subst h
      have rest : es.filter (fun e => !decide (e.1 = k')) = es := by
        refine List.filter_eq_self.2 fun e he => ?_
        simpa using fun same => fresh (List.mem_map.2 ⟨e, he, same⟩)
      rw [lookup, if_pos rfl] at found
      rw [← Option.some.inj found, List.filter_cons_of_neg (by simp), rest]
      exact .refl _
    · rw [lookup, if_neg h] at found
      rw [List.filter_cons_of_pos (by simpa using h)]
      exact ((ih distinct found).cons v').trans (.swap v v' _)

/-- The values of a table are the one of a key and those of the table without it. -/
theorem perm_values [DecidableEq κ] {t : Table κ β} {k : κ} {v : β} (found : t.find? k = some v) :
    t.values.Perm (v :: (t.erase k).values) :=
  perm_values_of_lookup t.nodup found

theorem erase_write [DecidableEq κ] (k : κ) (v : β) (es : List (κ × β)) :
    (write k v es).filter (fun e => !decide (e.1 = k)) =
      es.filter fun e => !decide (e.1 = k) := by
  induction es with
  | nil => simp [write]
  | cons e es ih =>
    obtain ⟨k', v'⟩ := e
    by_cases h : k' = k <;> simp [write, h, ih]

/-- Writing a key replaces its value and leaves those of other keys alone. -/
theorem perm_values_insert [DecidableEq κ] (t : Table κ β) (k : κ) (v : β) :
    (t.insert k v).values.Perm (v :: (t.erase k).values) := by
  have found : (t.insert k v).find? k = some v := by rw [find?_insert, if_pos rfl]
  have rest : ((t.insert k v).erase k).values = (t.erase k).values :=
    congrArg (List.map Prod.snd) (erase_write k v t.entries)
  exact rest ▸ perm_values found

theorem erase_values_of_absent [DecidableEq κ] {t : Table κ β} {k : κ} (absent : t.find? k = none) :
    (t.erase k).values = t.values := by
  refine congrArg (List.map Prod.snd) (List.filter_eq_self.2 fun e he => ?_)
  simpa using fun same => find?_eq_none_iff.1 absent (List.mem_map.2 ⟨e, he, same⟩)

theorem perm_values_insert_absent [DecidableEq κ] {t : Table κ β} {k : κ}
    (absent : t.find? k = none) (v : β) : (t.insert k v).values.Perm (v :: t.values) :=
  erase_values_of_absent absent ▸ t.perm_values_insert k v

/-- Writing a key that is there takes the value it had out of the table. -/
theorem perm_values_insert_found [DecidableEq κ] {t : Table κ β} {k : κ} {old : β}
    (found : t.find? k = some old) (v : β) :
    (old :: (t.insert k v).values).Perm (v :: t.values) := by
  have written := (t.perm_values_insert k v).cons old
  have there := (perm_values found).cons v
  exact written.trans ((List.Perm.swap v old _).trans there.symm)

theorem mem_values_of_find? [DecidableEq κ] {t : Table κ β} {k : κ} {v : β}
    (found : t.find? k = some v) : v ∈ t.values :=
  (perm_values found).mem_iff.2 List.mem_cons_self

theorem lookup_of_mem [DecidableEq κ] {k : κ} {v : β} {es : List (κ × β)}
    (nodup : (es.map Prod.fst).Nodup) (mem : (k, v) ∈ es) : lookup k es = some v := by
  induction es with
  | nil => cases mem
  | cons e es ih =>
    obtain ⟨absent, nodup⟩ := List.nodup_cons.1 nodup
    rcases List.mem_cons.1 mem with rfl | later
    · simp [lookup]
    · have other : e.1 ≠ k := by
        rintro rfl
        exact absent (List.mem_map.2 ⟨_, later, rfl⟩)
      simpa [lookup, other] using ih nodup later

theorem mem_of_lookup [DecidableEq κ] {k : κ} {v : β} {es : List (κ × β)}
    (found : lookup k es = some v) : (k, v) ∈ es := by
  induction es with
  | nil => cases found
  | cons e es ih =>
    obtain ⟨k', v'⟩ := e
    by_cases same : k' = k
    · simp_all [lookup]
    · rw [lookup, if_neg same] at found
      exact List.mem_cons_of_mem _ (ih found)

theorem lookup_append_of_ne [DecidableEq κ] {k : κ} {es : List (κ × β)} (ne : ∀ e ∈ es, e.1 ≠ k)
    (es' : List (κ × β)) : lookup k (es ++ es') = lookup k es' := by
  induction es with
  | nil => rfl
  | cons e es ih =>
    obtain ⟨first, later⟩ := List.forall_mem_cons.1 ne
    rw [List.cons_append, lookup, if_neg first, ih later]

/-- A key is looked up among the keys that have a value. -/
theorem lookup_filterMap [DecidableEq κ] (f : κ → Option β) (k : κ) (ks : List κ) :
    lookup k (ks.filterMap fun k => (f k).map fun v => (k, v)) = if k ∈ ks then f k else none := by
  induction ks with
  | nil => rfl
  | cons k' ks ih =>
    by_cases same : k' = k
    · subst same
      cases value : f k' with
      | none => simp [value, ih]
      | some v => simp [value, lookup]
    · cases value : f k' with
      | none => simp [value, ih, Ne.symm same]
      | some v => simp [value, lookup, ih, same, Ne.symm same]

/-- Every value is found under its key. -/
theorem find?_of_mem_values [DecidableEq κ] {t : Table κ β} {v : β} (mem : v ∈ t.values) :
    ∃ k, t.find? k = some v := by
  obtain ⟨⟨k, v⟩, there, rfl⟩ := List.mem_map.1 mem
  exact ⟨k, lookup_of_mem t.nodup there⟩

/-! The same keys with other values. -/

section Map

variable {γ : Type} (f : β → γ)

def map (t : Table κ β) : Table κ γ where
  entries := t.entries.map fun e => (e.1, f e.2)
  nodup := by
    rw [List.map_map]
    exact t.nodup

theorem lookup_map [DecidableEq κ] (k : κ) (es : List (κ × β)) :
    lookup k (es.map fun e => (e.1, f e.2)) = (lookup k es).map f := by
  induction es with
  | nil => rfl
  | cons e es ih =>
    obtain ⟨k', v⟩ := e
    by_cases h : k' = k
    · simp [lookup, h]
    · simp [lookup, h, ih]

@[simp] theorem find?_map [DecidableEq κ] (t : Table κ β) (k : κ) :
    (t.map f).find? k = (t.find? k).map f :=
  lookup_map f k t.entries

theorem map_eq_self {f : β → β} (t : Table κ β) (fixed : ∀ v ∈ t.values, f v = v) :
    t.map f = t := by
  have entries : (t.entries.map fun e => (e.1, f e.2)) = t.entries.map id := by
    refine List.map_congr_left fun e mem => ?_
    rw [fixed e.2 (List.mem_map_of_mem mem)]
    rfl
  rw [List.map_id] at entries
  simp only [map, entries]

theorem write_map [DecidableEq κ] (k : κ) (v : β) (es : List (κ × β)) :
    write k (f v) (es.map fun e => (e.1, f e.2)) = (write k v es).map fun e => (e.1, f e.2) := by
  induction es with
  | nil => rfl
  | cons e es ih =>
    obtain ⟨k', v'⟩ := e
    by_cases h : k' = k
    · simp [write, h]
    · simp [write, h, ih]

@[simp] theorem map_insert [DecidableEq κ] (t : Table κ β) (k : κ) (v : β) :
    (t.insert k v).map f = (t.map f).insert k (f v) := by
  have entries := write_map f k v t.entries
  simp only [map, insert, entries]

end Map

end Table

/-- Entries in strictly ascending order of their names. -/
def NamesAscend {β : Type} (es : List (String × β)) : Prop :=
  es.Pairwise fun a b => a.1 < b.1

/-- A finite map from names, in ascending order. -/
structure NameMap (β : Type) where
  entries : List (String × β) := []
  ascend : NamesAscend entries := by exact List.Pairwise.nil

namespace NameMap

variable {β : Type}

/-- Change the value of a name in ascending entries, given its value so far. -/
def alterEntries (name : String) (f : Option β → β) : List (String × β) → List (String × β)
  | [] => [(name, f none)]
  | (n, v) :: es =>
    if name < n then (name, f none) :: (n, v) :: es
    else if name = n then (n, f (some v)) :: es
    else (n, v) :: alterEntries name f es

theorem mem_alterEntries {name : String} {f : Option β → β} {es : List (String × β)}
    {e : String × β} (h : e ∈ alterEntries name f es) : e.1 = name ∨ ∃ v, (e.1, v) ∈ es := by
  induction es with
  | nil =>
    simp only [alterEntries, List.mem_singleton] at h
    exact .inl (by rw [h])
  | cons e' es ih =>
    obtain ⟨n, v⟩ := e'
    simp only [alterEntries] at h
    split at h
    · rcases List.mem_cons.1 h with h | h
      · exact .inl (by rw [h])
      · exact .inr ⟨e.2, h⟩
    · split at h
      · rcases List.mem_cons.1 h with h | h
        · exact .inr ⟨v, by rw [h]; exact List.mem_cons_self⟩
        · exact .inr ⟨e.2, List.mem_cons_of_mem _ h⟩
      · rcases List.mem_cons.1 h with h | h
        · exact .inr ⟨v, by rw [h]; exact List.mem_cons_self⟩
        · rcases ih h with h | ⟨w, h⟩
          · exact .inl h
          · exact .inr ⟨w, List.mem_cons_of_mem _ h⟩

theorem alterEntries_ascend (name : String) (f : Option β → β) {es : List (String × β)}
    (h : NamesAscend es) : NamesAscend (alterEntries name f es) := by
  induction es with
  | nil => exact List.pairwise_singleton _ _
  | cons e es ih =>
    obtain ⟨n, v⟩ := e
    obtain ⟨hn, hes⟩ := List.pairwise_cons.1 h
    simp only [alterEntries]
    split
    · next hlt =>
      refine List.pairwise_cons.2 ⟨fun e he => ?_, h⟩
      rcases List.mem_cons.1 he with he | he
      · rw [he]; exact hlt
      · exact String.lt_trans hlt (hn e he)
    · next hlt =>
      split
      · next heq => exact List.pairwise_cons.2 ⟨hn, hes⟩
      · next hne =>
        refine List.pairwise_cons.2 ⟨fun e he => ?_, ih hes⟩
        rcases mem_alterEntries he with he | ⟨w, he⟩
        · show n < e.1
          rw [he]
          exact Std.lt_of_le_of_ne (String.not_lt.1 hlt) (Ne.symm hne)
        · exact hn (e.1, w) he

def empty : NameMap β := {}

instance : Inhabited (NameMap β) := ⟨empty⟩

/-- Change the value of a name, given its value so far. -/
def alter (m : NameMap β) (name : String) (f : Option β → β) : NameMap β where
  entries := alterEntries name f m.entries
  ascend := alterEntries_ascend name f m.ascend

def insert (m : NameMap β) (name : String) (v : β) : NameMap β :=
  m.alter name fun _ => v

def find? (m : NameMap β) (name : String) : Option β :=
  Table.lookup name m.entries

theorem lookup_alterEntries (name : String) (f : Option β → β) {es : List (String × β)}
    (h : NamesAscend es) (other : String) :
    Table.lookup other (alterEntries name f es) =
      if name = other then some (f (Table.lookup name es)) else Table.lookup other es := by
  induction es with
  | nil => simp [alterEntries, Table.lookup]
  | cons e es ih =>
    obtain ⟨n, v⟩ := e
    obtain ⟨later, ascend⟩ := List.pairwise_cons.1 h
    by_cases before : name < n
    · -- All names in the list come after the new one, so it was not there.
      have absent : Table.lookup name ((n, v) :: es) = none := by
        refine Table.lookup_eq_none_iff.2 fun mem => ?_
        obtain ⟨e, there, same⟩ := List.mem_map.1 mem
        have after : name < e.1 := by
          rcases List.mem_cons.1 there with rfl | there
          · exact before
          · exact String.lt_trans before (later e there)
        rw [same] at after
        exact String.lt_irrefl _ after
      rw [absent]
      simp only [alterEntries, before, if_true, Table.lookup]
    · by_cases here : name = n
      · subst here
        simp only [alterEntries, before, if_false, if_true, Table.lookup]
        split <;> rfl
      · by_cases there : n = other
        · subst there
          simp [alterEntries, before, here, Table.lookup]
        · simp only [alterEntries, before, here, if_false, Table.lookup, there, Ne.symm here,
            ih ascend]

theorem find?_alter (m : NameMap β) (name : String) (f : Option β → β) (other : String) :
    (m.alter name f).find? other = if name = other then some (f (m.find? name)) else m.find? other :=
  lookup_alterEntries name f m.ascend other

theorem find?_insert (m : NameMap β) (name : String) (v : β) (other : String) :
    (m.insert name v).find? other = if name = other then some v else m.find? other :=
  m.find?_alter name _ other

/-- The names that have a value. -/
def names (m : NameMap β) : List String := m.entries.map Prod.fst

theorem mem_names_iff (m : NameMap β) (name : String) :
    name ∈ m.names ↔ (m.find? name).isSome = true := by
  rw [Option.isSome_iff_ne_none, find?, Ne, Table.lookup_eq_none_iff, Classical.not_not]
  rfl

theorem names_ascend (m : NameMap β) : m.names.Pairwise (· < ·) :=
  List.pairwise_map.2 m.ascend

theorem nodup_names (m : NameMap β) : m.names.Nodup := by
  refine List.Pairwise.imp ?_ m.names_ascend
  rintro a b less rfl
  exact String.lt_irrefl a less

/-- Write entries one after another. -/
def ofList (es : List (String × β)) : NameMap β :=
  es.foldl (fun m e => m.insert e.1 e.2) empty

end NameMap

end CounterSampling
