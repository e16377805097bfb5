import CounterSampling.FileTree

/-!
# Files with new content

Where a file stands, putting another file changes the content of that place and nothing else: every
other file keeps its content, and what stands anywhere keeps its kind.
-/

namespace CounterSampling

/-- What may stand at a place: a file, a directory with entries of some names, or a device. -/
inductive NodeKind where
  | file
  | directory (names : List String)
  | device (kind : DeviceKind)
  deriving DecidableEq, Repr

namespace FileTree

def kind : FileTree → NodeKind
  | .file _ => .file
  | .directory es => .directory (es.map Prod.fst)
  | .device k => .device k

/-- The kind of what stands at a place, if anything does. -/
def kindAt? (t : FileTree) (path : List String) : Option NodeKind :=
  (t.find? path).map kind

theorem contentAt?_eq_some_iff {t : FileTree} {path : List String} {content : List UInt8} :
    t.contentAt? path = some content ↔ t.find? path = some (.file content) := by
  rw [contentAt?]
  cases t.find? path with
  | none => exact ⟨nofun, nofun⟩
  | some x => cases x <;> simp

theorem find?_cons (t : FileTree) (name : String) (path : List String) :
    t.find? (name :: path) =
      (Table.lookup name t.entries).bind fun child => child.find? path := by
  rw [find?]
  cases Table.lookup name t.entries <;> rfl

/-- Below a directory, only the entry that leads to the place is another one. -/
theorem find?_put_cons {t child : FileTree} {name : String}
    (there : Table.lookup name t.entries = some child) (x : FileTree)
    (path : List String) (name' : String) (path' : List String) :
    (put x (name :: path) t).find? (name' :: path') =
      if name = name' then (put x path child).find? path' else t.find? (name' :: path') := by
  rw [find?_cons, find?_cons, put, there]
  change (Table.lookup name' (Table.write name (put x path child) t.entries)).bind _ = _
  rw [Table.lookup_write]
  split <;> rfl

section PutFile

variable {t : FileTree} {path : List String} {old new : List UInt8}

/-- A file that stands at a place is reached through the entries of directories. -/
theorem file_below {name : String}
    (stands : t.find? (name :: path) = some (.file old)) :
    ∃ es child, t = .directory es ∧ Table.lookup name es = some child ∧
      child.find? path = some (.file old) := by
  rw [find?_cons] at stands
  obtain ⟨child, there, below⟩ := Option.bind_eq_some_iff.1 stands
  cases t with
  | directory es => exact ⟨es, child, rfl, there, below⟩
  | file content => cases there
  | device k => cases there

/-- Only the file has new content. -/
theorem contentAt?_put_file (stands : t.find? path = some (.file old)) (other : List String) :
    (put (.file new) path t).contentAt? other =
      if path = other then some new else t.contentAt? other := by
  induction path generalizing t other with
  | nil =>
    obtain rfl : t = .file old := Option.some.inj stands
    cases other <;> rfl
  | cons name path ih =>
    obtain ⟨es, child, rfl, there, below⟩ := file_below stands
    cases other with
    | nil => rfl
    | cons name' other =>
      rw [contentAt?, find?_put_cons there]
      by_cases same : name = name'
      · subst same
        have below' := ih below other
        rw [contentAt?] at below'
        rw [if_pos rfl, below', contentAt?, contentAt?, find?_cons, entries, there]
        simp
      · rw [if_neg same, if_neg fun h => same (List.cons.inj h).1]
        rfl

/-- Whatever stands anywhere keeps its kind. -/
theorem kindAt?_put_file (stands : t.find? path = some (.file old)) (other : List String) :
    (put (.file new) path t).kindAt? other = t.kindAt? other := by
  induction path generalizing t other with
  | nil =>
    obtain rfl : t = .file old := Option.some.inj stands
    cases other <;> rfl
  | cons name path ih =>
    obtain ⟨es, child, rfl, there, below⟩ := file_below stands
    have named : name ∈ es.map Prod.fst := by
      refine Decidable.byContradiction fun absent => ?_
      rw [Table.lookup_eq_none_iff.2 absent] at there
      cases there
    cases other with
    | nil =>
      refine congrArg (fun names => some (NodeKind.directory names)) ?_
      exact (Table.keys_write name _ es).trans (if_pos named)
    | cons name' other =>
      rw [kindAt?, find?_put_cons there]
      by_cases same : name = name'
      · subst same
        have below' := ih below other
        rw [kindAt?] at below'
        rw [if_pos rfl, below', kindAt?, kindAt?, find?_cons, entries, there]
        rfl
      · rw [if_neg same]
        rfl

end PutFile

end FileTree

end CounterSampling
