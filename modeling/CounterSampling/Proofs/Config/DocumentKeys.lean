import CounterSampling.Proofs.Results
import CounterSampling.Toml.Document

/-!
# The keys of a document

No key occurs twice in the table that a text is read as, neither among the pairs under one header
nor after what later headers add: each key is compared with those that are there before it is added.
Main statement: `readDocument_nodup`.
-/

namespace CounterSampling

namespace Toml

/-- The keys of some entries. -/
def keysOf (es : List (String × Setting)) : List String := es.map Prod.fst

/-- No key occurs twice. -/
def Content.Distinct : Content → Prop
  | .date _ => True
  | .entries es => (keysOf es).Nodup

theorem of_checkNew {es : List (String × Setting)} {key : String}
    (new : checkNew es key = .ok ()) : key ∉ keysOf es := by
  rw [keysOf, ← Table.lookup_eq_none_iff]
  unfold checkNew at new
  cases found : Table.lookup key es with
  | none => rfl
  | some s =>
    rw [found] at new
    cases new

theorem nodup_concat {es : List (String × Setting)} (h : (keysOf es).Nodup) {key : String}
    (absent : key ∉ keysOf es) (s : Setting) : (keysOf (es ++ [(key, s)])).Nodup := by
  rw [keysOf, List.map_append]
  exact List.perm_append_comm.nodup_iff.2 (List.nodup_cons.2 ⟨absent, h⟩)

/-- Pairs are added to the entries that are there. -/
theorem RawPairs.content_distinct (origin : Option String) :
    ∀ (pairs : RawPairs) (es : List (String × Setting)) (content : Content),
      (keysOf es).Nodup → pairs.content origin es = .ok content → content.Distinct
  | .nil, es, content, h, read => by
    obtain rfl := Except.ok.inj read
    exact h
  | .cons key value rest, es, content, h, read => by
    unfold RawPairs.content at read
    split at read
    · cases date : under key value.date with
      | error c =>
        rw [date] at read
        cases read
      | ok d =>
        rw [date] at read
        obtain rfl := Except.ok.inj read
        trivial
    · obtain ⟨_, new, read⟩ := bind_eq_ok.1 read
      obtain ⟨s, -, read⟩ := bind_eq_ok.1 read
      exact rest.content_distinct origin _ content (nodup_concat h (of_checkNew new) s) read

/-- What is read under a key belongs to a key that is new. -/
theorem readUnder_new {origin : Option String} {fuel : Nat} {limit : Option Nat} {t : RawTable}
    {path : List String} {es : List (String × Setting)} {key : String} {keys : List String}
    {pending : List RawTable} {y : Setting × List RawTable}
    (read : readUnder origin fuel limit t path es key keys pending = .ok y) : key ∉ keysOf es := by
  cases fuel with
  | zero =>
    unfold readUnder at read
    obtain ⟨_, new, -⟩ := bind_eq_ok.1 read
    exact of_checkNew new
  | succ fuel =>
    unfold readUnder at read
    obtain ⟨_, -, read⟩ := bind_eq_ok.1 read
    obtain ⟨_, new, -⟩ := bind_eq_ok.1 read
    exact of_checkNew new

/-- What later headers add to a table are new keys. -/
theorem readRest_distinct (origin : Option String) (fuel : Nat) (limit : Option Nat)
    (former : RawTable) (path : List String) (es : List (String × Setting))
    (pending : List RawTable) {content : Content} {pending' : List RawTable}
    (h : (keysOf es).Nodup)
    (read : readRest origin fuel limit former path es pending = .ok (content, pending')) :
    content.Distinct := by
  induction fuel generalizing limit former path es pending with
  | zero =>
    unfold readRest at read
    cases read
    exact h
  | succ fuel ih =>
    unfold readRest at read
    split at read
    · cases read
      exact h
    next t pending taken =>
      obtain ⟨_, -, read⟩ := bind_eq_ok.1 read
      dsimp only at read
      split at read
      · obtain ⟨_, -, read⟩ := bind_eq_ok.1 read
        obtain ⟨own, pairs, read⟩ := bind_eq_ok.1 read
        have distinct := t.pairs.content_distinct origin es own h pairs
        cases own with
        | date d =>
          cases read
          trivial
        | entries es' => exact ih _ _ _ _ _ distinct read
      · obtain ⟨y, under, read⟩ := bind_eq_ok.1 read
        exact ih _ _ _ _ _ (nodup_concat h (readUnder_new under) _) read

theorem readTable_distinct (origin : Option String) (fuel : Nat) (limit : Option Nat)
    (t : RawTable) (path keys : List String) (pending : List RawTable) {content : Content}
    {pending' : List RawTable}
    (read : readTable origin fuel limit t path keys pending = .ok (content, pending')) :
    content.Distinct := by
  cases fuel with
  | zero =>
    unfold readTable at read
    cases read
    exact List.nodup_nil
  | succ fuel =>
    cases keys with
    | nil =>
      unfold readTable at read
      obtain ⟨own, pairs, read⟩ := bind_eq_ok.1 read
      have distinct := t.pairs.content_distinct origin [] own List.nodup_nil pairs
      cases own with
      | date d =>
        cases read
        trivial
      | entries es => exact readRest_distinct origin fuel limit t path es pending distinct read
    | cons key keys =>
      unfold readTable at read
      obtain ⟨y, -, read⟩ := bind_eq_ok.1 read
      have single : (keysOf [(key, y.1)]).Nodup := List.pairwise_singleton _ _
      exact readRest_distinct origin fuel limit t path _ _ single read

theorem putTogether_distinct {origin : Option String} {tables : List RawTable} {content : Content}
    (together : putTogether origin tables = .ok content) : content.Distinct := by
  cases tables with
  | nil =>
    cases together
    exact List.nodup_nil
  | cons t ts =>
    obtain ⟨y, read, rest⟩ := bind_eq_ok.1 together
    obtain rfl := Except.ok.inj rest
    exact readTable_distinct _ _ _ _ _ _ _ read

/-- No key occurs twice in the table that a text is read as. -/
theorem readDocument_nodup {origin : Option String} {text : String}
    {es : List (String × Setting)} (read : readDocument origin text = .ok es) :
    (keysOf es).Nodup := by
  obtain ⟨tables, -, read⟩ := bind_eq_ok.1 read
  obtain ⟨content, together, read⟩ := bind_eq_ok.1 read
  obtain rfl := Except.ok.inj read
  have distinct := putTogether_distinct (mapError_eq_ok.1 together)
  cases content with
  | date d => exact List.nodup_nil
  | entries es => exact distinct

end Toml

end CounterSampling
