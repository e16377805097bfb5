import CounterSampling.Json.Reader
import CounterSampling.Proofs.Json.Scanning

/-!
# Written values are read back

A shape is faithful if every value of it can be told from its tokens. Whatever follows the tokens of
such a value, reading by the shape gives the value and stops after them: `Shape.read_met`. Fields
that were left out stay empty slots.
-/

namespace CounterSampling.Json

open Decimal

def Fields.names : Fields → List String
  | .nil => []
  | .required name _ rest => name :: rest.names
  | .optional name _ rest => name :: rest.names

def Shape.isNullable : Shape → Bool
  | .nullable _ => true
  | _ => false

mutual

/-- There are no doubles and no numbers beyond a word, no name stands for two things, and `null`
does not either. -/
def Shape.faithful : Shape → Bool
  | .number size => decide (size ≤ UInt64.size)
  | .float => false
  | .flag => true
  | .text => true
  | .choice names => decide names.Nodup
  | .nullable s => !s.isNullable && s.faithful
  | .sequence s => s.faithful
  | .record fs => decide fs.names.Nodup && fs.faithful

def Fields.faithful : Fields → Bool
  | .nil => true
  | .required _ s rest => s.faithful && rest.faithful
  | .optional _ s rest => s.faithful && rest.faithful

end

/-- The tokens of a value as they are met again. -/
def Shape.met (s : Shape) (v : s.Val) : List Token :=
  (s.tokens v).map Token.reread

/-- The members of a record as they are met again. -/
def Fields.metMembers (fs : Fields) (vs : fs.Val) : List (List Token) :=
  (fs.members vs).map fun ts => ts.map Token.reread

/-! Strings and numbers. -/

theorem join_unit {broken : Option ReadError} {u : Nat} (lead : isLead u = false)
    (trail : isTrail u = false) (ps : List Piece) :
    join broken (.unit u :: ps) = (join broken ps).map (Char.ofNat u :: ·) := by
  rw [join.eq_def]
  simp [lead, trail]

theorem join_reread (cs : List Char) :
    join none ((cs.map Piece.char).map Piece.reread) = .ok cs := by
  induction cs with
  | nil => rfl
  | cons c cs ih =>
    rw [List.map_cons, List.map_cons]
    by_cases control : c.toNat < 0x20 ∧ c ∉ ['\x08', '\x0c', '\n', '\r', '\t']
    · have small := control.1
      have lead : isLead c.toNat = false := by
        simp only [isLead, Bool.and_eq_false_iff, decide_eq_false_iff_not]
        omega
      have trail : isTrail c.toNat = false := by
        simp only [isTrail, Bool.and_eq_false_iff, decide_eq_false_iff_not]
        omega
      rw [Piece.reread, if_pos control, join_unit lead trail, ih, Char.ofNat_toNat]
      rfl
    · rw [Piece.reread, if_neg control, join, ih]
      rfl

theorem number?_ofNat {n : Nat} (fits : n ≤ Word.max) :
    number? (Numeral.ofNat n) = some (.unsigned n) := by
  simp [number?, Numeral.ofNat, gather_toDigits fits]

theorem readText_met (e : Ending) (t : String) (rest : List Token) :
    readText e ((Token.ofString t).reread :: rest) = .ok (t.toList, rest) := by
  change (join none ((t.toList.map Piece.char).map Piece.reread)).map _ = _
  rw [join_reread]
  rfl

theorem readChoice_met (e : Ending) {names : List String} (distinct : names.Nodup)
    (i : Fin names.length) (rest : List Token) :
    readChoice e names ((Token.ofString (names.get i)).reread :: rest) = .ok (i, rest) := by
  have found : names.finIdxOf? (names.get i) = some i := by
    refine List.finIdxOf?_eq_some_iff.2 ⟨rfl, fun j less same => ?_⟩
    exact Nat.ne_of_lt less ((List.getElem_inj distinct).1 same)
  change (join none (((names.get i).toList.map Piece.char).map Piece.reread) >>= _) = _
  rw [join_reread]
  dsimp only [bind, Except.bind]
  rw [String.ofList_toList, found]
  rfl

/-! Arrays and objects. -/

/-- Groups of tokens with commas between them; those that are not the first have one before. -/
def separated (first : Bool) (gs : List (List Token)) : List Token :=
  if first then commaSeparated gs else gs.flatMap (.comma :: ·)

theorem commaSeparated_cons (g : List Token) (gs : List (List Token)) :
    commaSeparated (g :: gs) = g ++ separated false gs := by
  induction gs generalizing g with
  | nil => exact (List.append_nil g).symm
  | cons g' gs ih =>
    change g ++ .comma :: commaSeparated (g' :: gs) = _
    rw [ih g']
    rfl

theorem map_commaSeparated (gs : List (List Token)) :
    (commaSeparated gs).map Token.reread =
      commaSeparated (gs.map fun ts => ts.map Token.reread) := by
  have rest (gs : List (List Token)) : (separated false gs).map Token.reread =
      separated false (gs.map fun ts => ts.map Token.reread) := by
    simp [separated, List.map_flatMap, List.flatMap_map, Token.reread]
  cases gs with
  | nil => rfl
  | cons g gs => rw [List.map_cons, commaSeparated_cons, commaSeparated_cons, List.map_append, rest]

theorem length_le_commaSeparated (gs : List (List Token)) :
    gs.length ≤ (commaSeparated gs).length + 1 := by
  have rest (gs : List (List Token)) : gs.length ≤ (separated false gs).length := by
    induction gs with
    | nil => exact Nat.zero_le _
    | cons g gs ih =>
      simp only [separated, Bool.false_eq_true, if_false] at ih ⊢
      simp only [List.flatMap_cons, List.length_cons, List.length_append]
      omega
  cases gs with
  | nil => exact Nat.zero_le _
  | cons g gs =>
    rw [commaSeparated_cons, List.length_cons, List.length_append]
    exact Nat.succ_le_succ (Nat.le_trans (rest gs) (Nat.le_add_left _ _))

/-- A value starts with a token that closes no array; `null` is one only where it may be. -/
theorem Shape.met_start {s : Shape} (faithful : s.faithful = true) (v : s.Val) :
    ∃ t ts, s.met v = t :: ts ∧ t ≠ .closeBracket ∧ (s.isNullable = false → t ≠ .null) := by
  cases s with
  | number size => exact ⟨_, _, rfl, nofun, nofun⟩
  | float => cases faithful
  | flag => exact ⟨_, _, rfl, nofun, nofun⟩
  | text => exact ⟨_, _, rfl, nofun, nofun⟩
  | choice names => exact ⟨_, _, rfl, nofun, nofun⟩
  | nullable s =>
    cases v with
    | none => exact ⟨_, _, rfl, nofun, nofun⟩
    | some v =>
      rw [Shape.faithful, Bool.and_eq_true] at faithful
      obtain ⟨t, ts, start, other, -⟩ := met_start faithful.2 v
      exact ⟨t, ts, start, other, nofun⟩
  | sequence s => exact ⟨_, _, rfl, nofun, nofun⟩
  | record fs => exact ⟨_, _, rfl, nofun, nofun⟩

theorem nextElement_first (e : Ending) {t : Token} (other : t ≠ .closeBracket) (ts : List Token) :
    nextElement e true (t :: ts) = .ok (some (t :: ts)) := by
  cases t <;> first | rfl | exact absurd rfl other

theorem nextElement_later (e : Ending) {t : Token} (other : t ≠ .closeBracket) (ts : List Token) :
    nextElement e false (.comma :: t :: ts) = .ok (some (t :: ts)) := by
  cases t <;> first | rfl | exact absurd rfl other

section Elements

variable {α : Type} {e : Ending} {element : Reader α} {write : α → List Token}

/-- Elements are read one by one, each with the comma before it, if there is one. -/
theorem readElements_separated (reads : ∀ v rest, element (write v ++ rest) = .ok (v, rest))
    (starts : ∀ v, ∃ t ts, write v = t :: ts ∧ t ≠ .closeBracket) (vs : List α) (first : Bool)
    {fuel : Nat} (enough : vs.length < fuel) (rest : List Token) :
    readElements e element fuel first
      (separated first (vs.map write) ++ .closeBracket :: rest) = .ok (vs, rest) := by
  induction vs generalizing first fuel with
  | nil =>
    cases fuel with
    | zero => exact absurd enough (Nat.not_lt_zero _)
    | succ fuel => cases first <;> rfl
  | cons v vs ih =>
    cases fuel with
    | zero => exact absurd enough (Nat.not_lt_zero _)
    | succ fuel =>
      let later := separated false (vs.map write) ++ .closeBracket :: rest
      have next : nextElement e first
          (separated first ((v :: vs).map write) ++ .closeBracket :: rest) =
            .ok (some (write v ++ later)) := by
        obtain ⟨t, ts, start, other⟩ := starts v
        cases first with
        | true =>
          rw [separated, if_pos rfl, List.map_cons, commaSeparated_cons, List.append_assoc, start]
          exact nextElement_first e other _
        | false =>
          rw [separated, if_neg Bool.false_ne_true, List.map_cons, List.flatMap_cons,
            List.cons_append, List.cons_append, List.append_assoc, start]
          exact nextElement_later e other _
      rw [readElements, next]
      change (element (write v ++ later) >>= _) = _
      rw [reads]
      change (readElements e element fuel false later >>= _) = _
      rw [ih false (Nat.lt_of_succ_lt_succ enough)]
      rfl

end Elements

/-- Change what a reader gives. -/
def Reader.lift {α β : Type} (f : α → β) (r : Reader α) : Reader β :=
  fun ts => (r ts).map fun p => (f p.1, p.2)

theorem Reader.lift_ok {α β : Type} {f : α → β} {r : Reader α} {a : α} {ts rest : List Token}
    (read : r ts = .ok (a, rest)) : r.lift f ts = .ok (f a, rest) := by
  rw [lift, read]
  rfl

section Members

variable {σ : Type} {e : Ending} {slot? : List Char → Option (σ → Option (Reader σ))}

/-- A known member is read into its empty slot. -/
theorem readMembers_member {name : String} {g : σ → Option (Reader σ)}
    (known : slot? name.toList = some g) {slots slots' : σ} {member : Reader σ}
    (free : g slots = some member) {value : List Token}
    (reads : ∀ rest, member (value ++ rest) = .ok (slots', rest)) (gs : List (List Token))
    (first : Bool) (fuel : Nat) (rest : List Token) :
    readMembers e slot? (fuel + 1) first slots
        (separated first (((Token.ofString name).reread :: .colon :: value) :: gs) ++
          .closeBrace :: rest) =
      readMembers e slot? fuel false slots' (separated false gs ++ .closeBrace :: rest) := by
  let later := separated false gs ++ .closeBrace :: rest
  have next : nextMember e first
      (separated first (((Token.ofString name).reread :: .colon :: value) :: gs) ++
        .closeBrace :: rest) =
      .ok (some ((name.toList.map Piece.char).map Piece.reread, .colon :: (value ++ later))) := by
    cases first with
    | true =>
      rw [separated, if_pos rfl, commaSeparated_cons, List.append_assoc]
      rfl
    | false =>
      change nextMember e false (.comma :: ((_ ++ separated false gs) ++ _)) = _
      rw [List.append_assoc]
      rfl
  rw [readMembers, next]
  dsimp only [bind, Except.bind]
  rw [join_reread]
  dsimp only
  rw [known]
  dsimp only
  rw [free]
  change (member (value ++ later) >>= _) = _
  rw [reads]
  rfl

end Members

/-! Records. -/

/-- The slots once a record with these values was read. -/
def Fields.filled : (fs : Fields) → fs.Val → fs.Slots
  | .nil, _ => ()
  | .required _ _ rest, (v, vs) => (some v, rest.filled vs)
  | .optional _ _ rest, (v, vs) => (v, rest.filled vs)

theorem Fields.complete?_filled : (fs : Fields) → (vs : fs.Val) →
    fs.complete? (fs.filled vs) = some vs
  | .nil, _ => rfl
  | .required _ _ rest, (v, vs) => by simp [filled, complete?, rest.complete?_filled vs]
  | .optional _ _ rest, (v, vs) => by simp [filled, complete?, rest.complete?_filled vs]

/-- The members of these names are read as among the fields alone, into slots that are part of all
slots. -/
def Fields.ReadInto {σ : Type} (e : Ending) (fs : Fields)
    (slot? : List Char → Option (σ → Option (Reader σ))) (outer : fs.Slots → σ) : Prop :=
  ∀ name ∈ fs.names, ∀ f, fs.slot? e name.toList = some f →
    ∃ g, slot? name.toList = some g ∧ ∀ slots, g (outer slots) = (f slots).map (Reader.lift outer)

theorem Fields.readInto_self (e : Ending) (fs : Fields) : fs.ReadInto e (fs.slot? e) id := by
  intro name _ f known
  refine ⟨f, known, fun slots => ?_⟩
  have same (r : Reader fs.Slots) : Reader.lift id r = r := by
    funext ts
    rw [Reader.lift]
    cases r ts <;> rfl
  cases free : f slots with
  | none => simp [free]
  | some r => simp [free, same]

section ReadInto

variable {σ : Type} {e : Ending} {name : String} {s : Shape} {rest : Fields}
  {slot? : List Char → Option (σ → Option (Reader σ))}
  {outer : (Fields.optional name s rest).Slots → σ}

/-- The first field is read into its slot. -/
theorem Fields.ReadInto.head (into : (Fields.optional name s rest).ReadInto e slot? outer) :
    ∃ g, slot? name.toList = some g ∧ ∀ slots,
      g (outer (none, slots)) = some ((s.read e).lift fun v => outer (some v, slots)) := by
  have known : (Fields.optional name s rest).slot? e name.toList = some _ := if_pos rfl
  obtain ⟨g, found, free⟩ := into name List.mem_cons_self _ known
  refine ⟨g, found, fun slots => (free (none, slots)).trans (congrArg some (funext fun ts => ?_))⟩
  change ((s.read e ts).map _).map _ = _
  rw [Reader.lift]
  cases s.read e ts <;> rfl

/-- The later fields are read into the slots after it. -/
theorem Fields.ReadInto.tail (into : (Fields.optional name s rest).ReadInto e slot? outer)
    (fresh : name ∉ rest.names) (v : Option s.Val) :
    rest.ReadInto e slot? fun slots => outer (v, slots) := by
  intro other mem f known
  have differs : name.toList ≠ other.toList := by
    intro same
    rw [String.toList_inj.1 same] at fresh
    exact fresh mem
  have known' : (Fields.optional name s rest).slot? e other.toList =
      some fun slots => (f slots.2).map (Reader.lift fun later => (slots.1, later)) := by
    rw [Fields.slot?, if_neg differs, known]
    rfl
  obtain ⟨g, found, free⟩ := into other (List.mem_cons_of_mem _ mem) _ known'
  refine ⟨g, found, fun slots => (free (v, slots)).trans ?_⟩
  rw [Option.map_map]
  refine congrArg (fun h => Option.map h (f slots)) (funext fun r => funext fun ts => ?_)
  change ((r ts).map _).map _ = _
  rw [Reader.lift]
  cases r ts <;> rfl

/-- A first field that was written is read into its slot. -/
theorem Fields.ReadInto.readMember (into : (Fields.optional name s rest).ReadInto e slot? outer)
    {v : s.Val} (reads : ∀ ts, s.read e (s.met v ++ ts) = .ok (v, ts)) (gs : List (List Token))
    (first : Bool) (fuel : Nat) (ts : List Token) :
    readMembers e slot? (fuel + 1) first (outer (none, rest.noSlots))
        (separated first (((Token.ofString name).reread :: .colon :: s.met v) :: gs) ++
          .closeBrace :: ts) =
      readMembers e slot? fuel false (outer (some v, rest.noSlots))
        (separated false gs ++ .closeBrace :: ts) := by
  obtain ⟨g, known, free⟩ := into.head
  exact readMembers_member known (free rest.noSlots) (fun ts => Reader.lift_ok (reads ts)) gs first
    fuel ts

end ReadInto

/-! Values. -/

theorem Shape.met_sequence (s : Shape) (vs : List s.Val) :
    (Shape.sequence s).met vs =
      .openBracket :: (separated true (vs.map s.met) ++ [.closeBracket]) := by
  simp only [Shape.met, Shape.tokens, List.map_cons, List.map_append, map_commaSeparated,
    List.map_map, separated, if_true]
  rfl

theorem Shape.met_record (fs : Fields) (vs : fs.Val) :
    (Shape.record fs).met vs =
      .openBrace :: (separated true (fs.metMembers vs) ++ [.closeBrace]) := by
  simp only [Shape.met, Shape.tokens, List.map_cons, List.map_append, map_commaSeparated,
    Fields.metMembers, separated, if_true]
  rfl

mutual

/-- The tokens of a value are read as the value, up to what follows them. -/
theorem Shape.read_met (e : Ending) : (s : Shape) → s.faithful = true → (v : s.Val) →
    (rest : List Token) → s.read e (s.met v ++ rest) = .ok (v, rest)
  | .number size, faithful, v, rest => by
    have fits : v.val ≤ Word.max := by
      have most : size ≤ UInt64.size := of_decide_eq_true faithful
      have below := v.isLt
      unfold Word.max
      omega
    change (match number? (Numeral.ofNat v.val) with
      | some (.unsigned k) => if h : k < size then Except.ok ((⟨k, h⟩ : Fin size), rest)
        else Except.error ReadError.mismatch
      | some _ => Except.error ReadError.mismatch
      | none => Except.error ReadError.malformed) = _
    rw [number?_ofNat fits]
    exact dif_pos v.isLt
  | .flag, _, b, rest => rfl
  | .text, _, t, rest => by
    change (readText e ((Token.ofString t).reread :: rest)).map _ = _
    rw [readText_met]
    exact congrArg (fun t => Except.ok (t, rest)) String.ofList_toList
  | .choice names, faithful, i, rest => readChoice_met e (of_decide_eq_true faithful) i rest
  | .nullable s, faithful, none, rest => rfl
  | .nullable s, faithful, some v, rest => by
    rw [Shape.faithful, Bool.and_eq_true, Bool.not_eq_true'] at faithful
    obtain ⟨plain, faithful⟩ := faithful
    obtain ⟨t, ts, start, -, other⟩ := Shape.met_start faithful v
    have read := s.read_met e faithful v rest
    change (Shape.nullable s).read e (s.met v ++ rest) = _
    rw [start] at read ⊢
    have skips : (Shape.nullable s).read e (t :: ts ++ rest) =
        (s.read e (t :: ts ++ rest)).map fun p => (some p.1, p.2) := by
      cases t <;> first | rfl | exact absurd rfl (other plain)
    rw [skips, read]
    rfl
  | .sequence s, faithful, vs, rest => by
    rw [Shape.met_sequence, List.cons_append, List.append_assoc]
    refine readElements_separated (fun v rest => s.read_met e faithful v rest) (fun v => ?_) vs true
      ?_ rest
    · obtain ⟨t, ts, start, other, -⟩ := Shape.met_start (s := s) faithful v
      exact ⟨t, ts, start, other⟩
    · have most := length_le_commaSeparated (vs.map s.met)
      rw [List.length_map] at most
      simp only [separated, if_true, List.length_append, List.length_cons]
      omega
  | .record fs, faithful, vs, rest => by
    rw [Shape.faithful, Bool.and_eq_true] at faithful
    rw [Shape.met_record, List.cons_append, List.append_assoc]
    have enough : (fs.members vs).length <
        (separated true (fs.metMembers vs) ++ ([Token.closeBrace] ++ rest)).length + 1 := by
      have most := length_le_commaSeparated (fs.metMembers vs)
      rw [Fields.metMembers, List.length_map] at most
      simp only [separated, if_true, Fields.metMembers, List.length_append, List.length_cons]
      omega
    have members := fs.readMembers_met e faithful.2 (of_decide_eq_true faithful.1)
      (fs.readInto_self e) vs true enough rest
    change (readMembers e (fs.slot? e) _ true fs.noSlots _ >>= _) = _
    refine (congrArg (· >>= _) members).trans ?_
    change (match fs.complete? (fs.filled vs) with
      | some vs => Except.ok (vs, rest)
      | none => Except.error ReadError.mismatch) = _
    rw [fs.complete?_filled]

/-- The members of a record are read into the slots of its fields. -/
theorem Fields.readMembers_met {σ : Type} (e : Ending) : (fs : Fields) → fs.faithful = true →
    fs.names.Nodup → {slot? : List Char → Option (σ → Option (Reader σ))} →
    {outer : fs.Slots → σ} → fs.ReadInto e slot? outer → (vs : fs.Val) → (first : Bool) →
    {fuel : Nat} → (fs.members vs).length < fuel → (rest : List Token) →
    readMembers e slot? fuel first (outer fs.noSlots)
        (separated first (fs.metMembers vs) ++ .closeBrace :: rest) =
      .ok (outer (fs.filled vs), rest)
  | .nil, _, _, _, _, _, _, first, fuel, enough, rest => by
    cases fuel with
    | zero => exact absurd enough (Nat.not_lt_zero _)
    | succ fuel => cases first <;> rfl
  | .required name s fs, faithful, distinct, slot?, outer, into, (v, vs), first, fuel, enough,
      rest => by
    rw [Fields.faithful, Bool.and_eq_true] at faithful
    obtain ⟨fresh, distinct⟩ := List.nodup_cons.1 distinct
    have into' : (Fields.optional name s fs).ReadInto e slot? outer := into
    cases fuel with
    | zero => exact absurd enough (Nat.not_lt_zero _)
    | succ fuel =>
      have value := into'.readMember (s.read_met e faithful.1 v) (fs.metMembers vs) first fuel rest
      refine value.trans ?_
      exact fs.readMembers_met e faithful.2 distinct (into'.tail fresh (some v)) vs false
        (Nat.lt_of_succ_lt_succ enough) rest
  | .optional name s fs, faithful, distinct, slot?, outer, into, (none, vs), first, fuel, enough,
      rest => by
    rw [Fields.faithful, Bool.and_eq_true] at faithful
    obtain ⟨fresh, distinct⟩ := List.nodup_cons.1 distinct
    exact fs.readMembers_met e faithful.2 distinct (into.tail fresh none) vs first enough rest
  | .optional name s fs, faithful, distinct, slot?, outer, into, (some v, vs), first, fuel, enough,
      rest => by
    rw [Fields.faithful, Bool.and_eq_true] at faithful
    obtain ⟨fresh, distinct⟩ := List.nodup_cons.1 distinct
    cases fuel with
    | zero => exact absurd enough (Nat.not_lt_zero _)
    | succ fuel =>
      have value := into.readMember (s.read_met e faithful.1 v) (fs.metMembers vs) first fuel rest
      refine value.trans ?_
      exact fs.readMembers_met e faithful.2 distinct (into.tail fresh (some v)) vs false
        (Nat.lt_of_succ_lt_succ enough) rest

end

end CounterSampling.Json
