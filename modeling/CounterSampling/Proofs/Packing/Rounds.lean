import CounterSampling.Proofs.Packing.Partition

/-!
# All rounds of packing

`RoundRun` is a round from its first item to its last. Packing ends with a round that places
nothing; every other round places a profile and leaves fewer items to those after it. So what holds
of the last round and is handed on from the later rounds to the one before them holds of packing as
a whole: `rounds_induction`.
-/

namespace CounterSampling.Packer

variable {σ : Type} {b : Backend σ} {p : Packer}

/-- What a whole round comes to: the round, the catalog and the state of the backend afterwards, and
what was asked and answered. -/
structure RoundRun (b : Backend σ) (p : Packer) (items : List Item) (c : Catalog) (s : σ)
    (r : Round) (c' : Catalog) (s' : σ) (events : List Event) : Prop where
  run : ((p.round {} items).run c).run b s = ((r, c'), s')
  trace : ((p.round {} items).run c).trace b s = events

section RoundRun

variable {items : List Item} {r : Round} {c c' : Catalog} {s s' : σ} {events : List Event}

/-- What holds at the beginning of a round and is kept when one more of its items is considered
holds at its end. -/
theorem RoundRun.induct {I : List Item → Round → Catalog → σ → List Event → Prop}
    (h : RoundRun b p items c s r c' s' events) (start : I [] {} c s [])
    (step : ∀ {done i r c s events r' c' s' more}, done ++ [i] <+: items → I done r c s events →
      Considered b p r i c s r' c' s' more → I (done ++ [i]) r' c' s' (events ++ more)) :
    I items r c' s' events := by
  have kept := round_induction (b := b) (p := p)
    (I := fun done r c s events => done <+: items → I done r c s events)
    (fun kept considered within =>
      step within (kept ((List.prefix_append _ _).trans within)) considered)
    items [] {} c s [] fun _ => start
  rw [h.run, h.trace] at kept
  exact kept (List.prefix_refl _)

theorem RoundRun.dealt (h : RoundRun b p items c s r c' s' events) :
    r.Dealt p.maxPerProfile items := by
  have dealt := round_dealt b p items c s
  rw [h.run] at dealt
  exact dealt

end RoundRun

/-- What holds of a round that places nothing and is handed on from the later rounds to the one
before them holds of all rounds, if they are enough. -/
theorem rounds_induction
    {I : List Item → Catalog → σ → List Event → List Profile → List String → Catalog → σ → Prop}
    (ended : ∀ {items c s r c' s' events}, RoundRun b p items c s r c' s' events →
      r.candidate.members = [] → I items c s events [] (items.map fun i => i.name) c' s')
    (placed : ∀ {items c s r c' s' events config later profiles unpackable c'' s''},
      RoundRun b p items c s r c' s' events → r.candidate.config = some config →
      I r.deferred c' s' later profiles unpackable c'' s'' →
      I items c s (events ++ later) (r.candidate.profile config :: profiles) unpackable c'' s'')
    (fuel : Nat) (items : List Item) (enough : items.length ≤ fuel) (c : Catalog) (s : σ) :
    let y := ((p.rounds fuel items).run c).run b s
    I items c s (((p.rounds fuel items).run c).trace b s) y.1.1.1 y.1.1.2 y.1.2 y.2 := by
  induction fuel generalizing items c s with
  | zero =>
    obtain rfl := List.eq_nil_of_length_eq_zero (Nat.le_zero.1 enough)
    exact ended ⟨rfl, rfl⟩ rfl
  | succ fuel ih =>
    cases items with
    | nil => exact ended ⟨rfl, rfl⟩ rfl
    | cons i is =>
      rcases run : ((p.round {} (i :: is)).run c).run b s with ⟨⟨r, c'⟩, s'⟩
      have round : RoundRun b p (i :: is) c s r c' s' _ := ⟨run, rfl⟩
      rw [run_rounds_succ, trace_rounds_succ, run]
      cases config : r.candidate.config with
      | none =>
        simp only [config, round.dealt.all_deferred config, Option.elim_none, List.append_nil]
        exact ended round (round.dealt.configured.1 config)
      | some new =>
        simp only [config, Option.elim_some]
        have fewer := round.dealt.fewer_deferred config
        exact placed round config (ih r.deferred (Nat.le_of_lt_succ (Nat.lt_of_lt_of_le fewer enough))
          c' s')

/-! ## Packing a request -/

/-- If the counters of the agent are listed, those that are requested are packed in rounds. -/
theorem run_pack_listed {request : List String} {c c' : Catalog} {s s' : σ}
    {known : NameMap CounterId} (listed : (Catalog.list.run.run c).run b s = ((.ok known, c'), s')) :
    let found := resolve known (distinct request)
    let y := ((p.rounds found.1.length found.1).run c').run b s'
    ((p.pack request).run.run c).run b s = ((.ok ⟨y.1.1.1, found.2, y.1.1.2⟩, y.1.2), y.2) := by
  rw [run_pack, listed]

theorem trace_pack_listed {request : List String} {c c' : Catalog} {s s' : σ}
    {known : NameMap CounterId} (listed : (Catalog.list.run.run c).run b s = ((.ok known, c'), s')) :
    let found := resolve known (distinct request)
    ((p.pack request).run.run c).trace b s =
      (Catalog.list.run.run c).trace b s ++
        ((p.rounds found.1.length found.1).run c').trace b s' := by
  rw [run_pack_eq, Procedure.trace_bind, listed]
  dsimp only
  rw [Procedure.trace_bind]
  exact congrArg _ (List.append_nil _)

/-- If they cannot be listed, nothing is packed. -/
theorem run_pack_unlisted {request : List String} {c c' : Catalog} {s s' : σ} {e : SamplerError}
    (listed : (Catalog.list.run.run c).run b s = ((.error e, c'), s')) :
    ((p.pack request).run.run c).run b s = ((.error e, c'), s') := by
  rw [run_pack, listed]

end CounterSampling.Packer
