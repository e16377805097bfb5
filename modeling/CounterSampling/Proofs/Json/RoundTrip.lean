import CounterSampling.DataFormat
import CounterSampling.Proofs.Json.Reading

/-!
# Data files are read back

A text that a value was written to, in either layout, is read as the value, wherever the shape is
faithful and the codec loses nothing. The types of reports and of what an agent tells have such
codecs: `dataFiles_read_back`.
-/

namespace CounterSampling

open Json

namespace Json

/-! The tokens of a value are separate. -/

/-- Separate tokens the first of which is no number. -/
def Calm (ts : List Token) : Prop :=
  Separate ts ∧ ∀ t ∈ ts.head?, t.isNumber = false

theorem Separate.calm_cons {ts : List Token} (separate : Separate ts) (t : Token) (plain : t.Plain)
    (other : t.isNumber = false) : Calm (t :: ts) := by
  have quiet : t.isNumber = true → ∀ t' ∈ ts.head?, t'.isNumber = false := by
    rw [other]
    exact nofun
  exact ⟨⟨plain, quiet, separate⟩, fun t' first => Option.some.inj first ▸ other⟩

theorem plain_ofString (s : String) : (Token.ofString s).Plain := ⟨s.toList, rfl⟩

theorem calm_separated {gs : List (List Token)}
    (each : ∀ g ∈ gs, ∀ rest, Calm rest → Separate (g ++ rest)) {rest : List Token}
    (calm : Calm rest) : Calm (separated false gs ++ rest) := by
  induction gs with
  | nil => exact calm
  | cons g gs ih =>
    obtain ⟨first, each⟩ := List.forall_mem_cons.1 each
    have later := first _ (ih each)
    rw [← List.append_assoc] at later
    exact later.calm_cons .comma trivial rfl

theorem separate_commaSeparated {gs : List (List Token)}
    (each : ∀ g ∈ gs, ∀ rest, Calm rest → Separate (g ++ rest)) {rest : List Token}
    (calm : Calm rest) : Separate (commaSeparated gs ++ rest) := by
  cases gs with
  | nil => exact calm.1
  | cons g gs =>
    obtain ⟨first, each⟩ := List.forall_mem_cons.1 each
    rw [commaSeparated_cons, List.append_assoc]
    exact first _ (calm_separated each calm)

theorem separate_member (name : String) {g rest : List Token} (value : Separate (g ++ rest)) :
    Separate (.ofString name :: .colon :: g ++ rest) :=
  ((value.calm_cons .colon trivial rfl).1.calm_cons _ (plain_ofString name) rfl).1

mutual

theorem Shape.separate_tokens : (s : Shape) → s.faithful = true → (v : s.Val) →
    (rest : List Token) → Calm rest → Separate (s.tokens v ++ rest)
  | .number size, _, v, rest, calm => ⟨⟨v.val, rfl⟩, fun _ => calm.2, calm.1⟩
  | .flag, _, b, rest, calm => (calm.1.calm_cons (.bool b) trivial rfl).1
  | .text, _, t, rest, calm => (calm.1.calm_cons (.ofString t) (plain_ofString t) rfl).1
  | .choice names, _, i, rest, calm => (calm.1.calm_cons (.ofString _) (plain_ofString _) rfl).1
  | .nullable s, _, none, rest, calm => (calm.1.calm_cons .null trivial rfl).1
  | .nullable s, faithful, some v, rest, calm => by
    rw [Shape.faithful, Bool.and_eq_true] at faithful
    exact s.separate_tokens faithful.2 v rest calm
  | .sequence s, faithful, vs, rest, calm => by
    have each : ∀ g ∈ vs.map s.tokens, ∀ rest, Calm rest → Separate (g ++ rest) := by
      intro g mem rest calm
      obtain ⟨v, -, rfl⟩ := List.mem_map.1 mem
      exact s.separate_tokens faithful v rest calm
    have inside := separate_commaSeparated each (calm.1.calm_cons .closeBracket trivial rfl)
    rw [Shape.tokens, List.cons_append, List.append_assoc]
    exact (inside.calm_cons .openBracket trivial rfl).1
  | .record fs, faithful, vs, rest, calm => by
    rw [Shape.faithful, Bool.and_eq_true] at faithful
    have inside := separate_commaSeparated (fs.separate_members faithful.2 vs)
      (calm.1.calm_cons .closeBrace trivial rfl)
    rw [Shape.tokens, List.cons_append, List.append_assoc]
    exact (inside.calm_cons .openBrace trivial rfl).1

theorem Fields.separate_members : (fs : Fields) → fs.faithful = true → (vs : fs.Val) →
    ∀ g ∈ fs.members vs, ∀ rest, Calm rest → Separate (g ++ rest)
  | .nil, _, _ => nofun
  | .required name s fs, faithful, (v, vs) => by
    rw [Fields.faithful, Bool.and_eq_true] at faithful
    intro g mem rest calm
    rcases List.mem_cons.1 mem with rfl | later
    · exact separate_member name (s.separate_tokens faithful.1 v rest calm)
    · exact fs.separate_members faithful.2 vs g later rest calm
  | .optional name s fs, faithful, (none, vs) => by
    rw [Fields.faithful, Bool.and_eq_true] at faithful
    exact fs.separate_members faithful.2 vs
  | .optional name s fs, faithful, (some v, vs) => by
    rw [Fields.faithful, Bool.and_eq_true] at faithful
    intro g mem rest calm
    rcases List.mem_cons.1 mem with rfl | later
    · exact separate_member name (s.separate_tokens faithful.1 v rest calm)
    · exact fs.separate_members faithful.2 vs g later rest calm

end

/-! Codecs. -/

/-- Nothing is lost on the way to the values of a faithful shape and back. -/
structure Codec.Lossless {α : Type} (c : Codec α) : Prop where
  faithful : c.shape.faithful = true
  decode_encode : ∀ a, c.decode (c.encode a) = a

namespace Codec.Lossless

variable {α : Type} {c : Codec α}

theorem decode_encode_list (lossless : c.Lossless) (xs : List α) :
    (xs.map c.encode).map c.decode = xs := by
  rw [List.map_map]
  exact (List.map_congr_left fun x _ => lossless.decode_encode x).trans (List.map_id xs)

theorem ofString?_of_laid (lossless : c.Lossless) {a : α} {cs : List Char}
    (laid : Laid (c.shape.tokens (c.encode a)) cs) : c.ofString? (String.ofList cs) = .ok a := by
  have separate := c.shape.separate_tokens lossless.faithful (c.encode a) [] ⟨trivial, nofun⟩
  rw [List.append_nil] at separate
  have scanned : scan cs = (c.shape.met (c.encode a), .done) := scan_laid laid separate
  have read := c.shape.read_met Ending.done lossless.faithful (c.encode a) []
  rw [List.append_nil] at read
  rw [ofString?, String.toList_ofList, scanned]
  dsimp only
  rw [read]
  exact congrArg Except.ok (lossless.decode_encode a)

theorem ofString?_compact (lossless : c.Lossless) (a : α) : c.ofString? (c.compact a) = .ok a :=
  lossless.ofString?_of_laid (laid_compact _)

/-- The lines of a value and then an empty line are read as the value. -/
theorem ofString?_pretty (lossless : c.Lossless) (a : α) :
    c.ofString? (c.pretty a ++ "\n") = .ok a := by
  have blank : ∀ c ∈ ['\n'], isSpace c = true := fun c mem => List.mem_singleton.1 mem ▸ rfl
  have text : c.pretty a ++ "\n" =
      String.ofList (Json.pretty 0 false (c.shape.tokens (c.encode a)) ++ ['\n']) := by
    rw [String.ofList_append]
    rfl
  rw [text]
  exact lossless.ofString?_of_laid (laid_pretty blank 0 false _)

end Codec.Lossless

end Json

/-! The codecs of the domain types. -/

theorem AgentInfo.codec_lossless : AgentInfo.codec.Lossless where
  faithful := by decide
  decode_encode a := by
    obtain ⟨id, kind, name, gpuId, renderMinor, logicalNode⟩ := a
    cases kind <;> rfl

theorem Dimension.codec_lossless : Dimension.codec.Lossless where
  faithful := by decide
  decode_encode _ := rfl

theorem Counter.codec_lossless : Counter.codec.Lossless where
  faithful := by decide
  decode_encode c :=
    congrArg (Counter.mk c.id c.name) (Dimension.codec_lossless.decode_encode_list c.dimensions)

theorem Metric.codec_lossless : Metric.codec.Lossless where
  faithful := by decide
  decode_encode _ := rfl

theorem getD_unlessEmpty {α : Type} (xs : List α) : (unlessEmpty xs).getD [] = xs := by
  cases xs <;> rfl

theorem join_map_some {α : Type} (x : Option α) : (x.map some).join = x := by
  cases x <;> rfl

theorem SectionStatus.decode_encode (s : SectionStatus) : decode s.encode = s := by
  cases s <;> rfl

theorem GpuReport.codec_lossless : GpuReport.codec.Lossless where
  faithful := by decide
  decode_encode g := by
    simp only [codec, Metric.codec_lossless.decode_encode_list, SectionStatus.decode_encode,
      join_map_some, getD_unlessEmpty]

theorem RunReport.codec_lossless : RunReport.codec.Lossless where
  faithful := by decide
  decode_encode r := by
    obtain ⟨sections, host, timestamp, durationUs, simulated⟩ := r
    simp only [codec, GpuReport.codec_lossless.decode_encode_list, join_map_some]
    cases simulated <;> rfl

/-- Whatever the values are, a report, a section of one, an agent and a counter are read back from
their one-line texts, and a report from the text of its file. -/
theorem dataFiles_read_back :
    (∀ r : RunReport, RunReport.codec.ofString? (RunReport.codec.compact r) = .ok r ∧
      RunReport.codec.ofString? r.fileText = .ok r) ∧
      (∀ g : GpuReport, GpuReport.codec.ofString? (GpuReport.codec.compact g) = .ok g) ∧
      (∀ a : AgentInfo, AgentInfo.codec.ofString? (AgentInfo.codec.compact a) = .ok a) ∧
      ∀ c : Counter, Counter.codec.ofString? (Counter.codec.compact c) = .ok c :=
  ⟨fun r => ⟨RunReport.codec_lossless.ofString?_compact r,
      RunReport.codec_lossless.ofString?_pretty r⟩,
    GpuReport.codec_lossless.ofString?_compact, AgentInfo.codec_lossless.ofString?_compact,
    Counter.codec_lossless.ofString?_compact⟩

end CounterSampling
