import CounterSampling.Duration
import CounterSampling.Retry
import Mathlib.Data.ENat.Lattice

/-!
# The course of a retry

Whatever is retried, its course is a sequence of attempts and pauses, and a sequence of outcomes
decides it: there are attempts up to the first success, or as many as are allowed, and a pause
between any two. `retryCounted` is the same loop with the number of the attempt in half a word and
the pause in a duration; neither is ever left. Main statements: `retry_attempts` and
`retry_pauses`.
-/

namespace CounterSampling

/-- What happens while something is retried. -/
inductive Moment where
  /-- An attempt is made; the first one has the number zero. -/
  | attempt (number : Nat)
  /-- A pause of so many milliseconds is asked for. -/
  | pause (ms : Nat)
  deriving DecidableEq, Repr

/-- All that happened, in order. -/
abbrev Course : Type := List Moment

namespace Course

variable {ε α : Type}

/-- How many attempts were made. -/
def attempts (c : Course) : Nat :=
  c.countP fun
    | .attempt _ => true
    | .pause _ => false

/-- The pauses that were asked for. -/
def pauses (c : Course) : List Nat :=
  c.filterMap fun
    | .attempt _ => none
    | .pause ms => some ms

/-- The next attempt of a sequence with known outcomes. -/
def attempt (outcomes : Nat → Except ε α) : StateM Course (Except ε α) := fun c =>
  (outcomes c.attempts, c ++ [.attempt c.attempts])

def pause (ms : Nat) : StateM Course Unit := fun c =>
  ((), c ++ [.pause ms])

/-- Attempts from a number on, with a pause between any two. -/
def alternate (number : Nat) : List Nat → Course
  | [] => [.attempt number]
  | p :: ps => .attempt number :: .pause p :: alternate (number + 1) ps

@[simp] theorem attempts_alternate (number : Nat) (ps : List Nat) :
    (alternate number ps).attempts = ps.length + 1 := by
  induction ps generalizing number with
  | nil => rfl
  | cons p ps ih =>
    have rest := ih (number + 1)
    simp only [attempts, alternate, List.countP_cons, List.length_cons] at rest ⊢
    simp [rest]

@[simp] theorem pauses_alternate (number : Nat) (ps : List Nat) :
    (alternate number ps).pauses = ps := by
  induction ps generalizing number with
  | nil => rfl
  | cons p ps ih =>
    have rest := ih (number + 1)
    simp only [pauses, alternate, List.filterMap_cons] at rest ⊢
    simp [rest]

end Course

open Course (alternate)

variable {ε α : Type}

/-- Retry a sequence with known outcomes: what comes of it, and its course. -/
def retryCourse (attempts delay : Nat) (outcomes : Nat → Except ε α) : Except ε α × Course :=
  (retry attempts delay (Course.attempt outcomes) Course.pause).run []

/-! ## One pause after another -/

/-- The pause after the attempt number `k`: the first one is as wanted, and every later one is twice
the one before it or the longest. -/
def pauseAfter (delay k : Nat) : Nat :=
  if k = 0 then delay else min maxPause (delay * 2 ^ k)

theorem nextPause_pauseAfter (delay k : Nat) :
    nextPause (pauseAfter delay k) = pauseAfter delay (k + 1) := by
  have twice : delay * 2 ^ (k + 1) = 2 * (delay * 2 ^ k) := by
    rw [Nat.pow_succ]
    ac_rfl
  simp only [nextPause, pauseAfter, twice]
  by_cases first : k = 0
  · simp [first, Nat.min_comm]
  · simp [first]
    omega

/-! ## One attempt after another -/

section Run

variable {outcomes : Nat → Except ε α} {c : Course}

/-- The last attempt of all that may be made is made without regard to its outcome. -/
theorem run_retryFrom_zero (delay : Nat) :
    (retryFrom (Course.attempt outcomes) Course.pause 0 delay).run c =
      (outcomes c.attempts, c ++ [.attempt c.attempts]) := rfl

theorem run_retryFrom_succ (more delay : Nat) :
    (retryFrom (Course.attempt outcomes) Course.pause (more + 1) delay).run c =
      match outcomes c.attempts with
      | .ok a => (.ok a, c ++ [.attempt c.attempts])
      | .error _ => (retryFrom (Course.attempt outcomes) Course.pause more (nextPause delay)).run
          (c ++ [.attempt c.attempts] ++ [.pause delay]) := by
  simp only [retryFrom, StateT.run_bind]
  change StateT.run _ _ = _
  simp only [Course.attempt, StateT.run]
  cases outcomes c.attempts <;> rfl

/-- Retrying ends with the first attempt that succeeds or with the last one that may be made, and
every attempt before it is followed by its pause. -/
theorem run_retryFrom {more n last : Nat} (delay : Nat) (number : c.attempts = n)
    (later : n ≤ last) (fails : ∀ i, n ≤ i → i < last → (outcomes i).isOk = false)
    (ends : last = n + more ∨ last < n + more ∧ (outcomes last).isOk = true) :
    (retryFrom (Course.attempt outcomes) Course.pause more (pauseAfter delay n)).run c =
      (outcomes last, c ++ alternate n ((List.range' n (last - n)).map (pauseAfter delay))) := by
  induction more generalizing c n with
  | zero =>
    obtain rfl : n = last := by omega
    simp [run_retryFrom_zero, number, alternate]
  | succ more ih =>
    rw [run_retryFrom_succ, number]
    by_cases here : n = last
    · subst here
      have succeeds : (outcomes n).isOk = true := by
        rcases ends with beyond | ⟨-, succeeds⟩
        · omega
        · exact succeeds
      cases made : outcomes n with
      | ok a => simp [alternate]
      | error e =>
        rw [made] at succeeds
        cases succeeds
    · have failed := fails n (Nat.le_refl n) (by omega)
      cases made : outcomes n with
      | ok a =>
        rw [made] at failed
        cases failed
      | error e =>
        have next : Course.attempts (c ++ [.attempt n] ++ [.pause (pauseAfter delay n)]) =
            n + 1 := by
          simp [Course.attempts, ← number]
        have ends' : last = n + 1 + more ∨ last < n + 1 + more ∧ (outcomes last).isOk = true :=
          ends.imp (by omega) (And.imp_left (by omega))
        have rest : last - n = last - (n + 1) + 1 := by omega
        dsimp only
        rw [nextPause_pauseAfter, ih next (by omega) (fun i after => fails i (by omega)) ends',
          rest, List.range'_succ, List.map_cons, alternate]
        simp

/-- Some attempt is the last one. -/
theorem exists_last (outcomes : Nat → Except ε α) (more : Nat) :
    ∃ last, (∀ i < last, (outcomes i).isOk = false) ∧
      (last = more ∨ last < more ∧ (outcomes last).isOk = true) := by
  induction more with
  | zero => exact ⟨0, nofun, .inl rfl⟩
  | succ more ih =>
    obtain ⟨last, fails, ends⟩ := ih
    rcases ends with rfl | ⟨before, succeeds⟩
    · by_cases succeeds : (outcomes last).isOk = true
      · exact ⟨last, fails, .inr ⟨Nat.lt_succ_self last, succeeds⟩⟩
      · refine ⟨last + 1, fun i below => ?_, .inl rfl⟩
        rcases Nat.lt_succ_iff_lt_or_eq.1 below with earlier | rfl
        · exact fails i earlier
        · simpa using succeeds
    · exact ⟨last, fails, .inr ⟨Nat.lt_succ_of_lt before, succeeds⟩⟩

theorem retryCourse_eq {attempts last : Nat} (delay : Nat)
    (fails : ∀ i < last, (outcomes i).isOk = false)
    (ends : last = max attempts 1 - 1 ∨ last < max attempts 1 - 1 ∧ (outcomes last).isOk = true) :
    retryCourse attempts delay outcomes =
      (outcomes last, alternate 0 ((List.range last).map (pauseAfter delay))) := by
  have ends' : last = 0 + (max attempts 1 - 1) ∨
      last < 0 + (max attempts 1 - 1) ∧ (outcomes last).isOk = true := by
    rwa [Nat.zero_add]
  have run := run_retryFrom (n := 0) (c := []) delay rfl (Nat.zero_le last) (fun i _ => fails i) ends'
  rw [Nat.sub_zero, ← List.range_eq_range'] at run
  exact run

end Run

/-! ## Failures before the first success -/

/-- How many outcomes there are before the first success, without end if none succeeds. -/
noncomputable def leadingFailures (outcomes : Nat → Except ε α) : ℕ∞ :=
  ⨅ (i : Nat) (_ : (outcomes i).isOk = true), (i : ℕ∞)

theorem le_leadingFailures {outcomes : Nat → Except ε α} {k : Nat}
    (fails : ∀ i < k, (outcomes i).isOk = false) : (k : ℕ∞) ≤ leadingFailures outcomes := by
  apply le_iInf₂
  intro i succeeds
  by_contra before
  have failed := fails i (by simpa using before)
  rw [succeeds] at failed
  cases failed

theorem leadingFailures_eq {outcomes : Nat → Except ε α} {k : Nat}
    (fails : ∀ i < k, (outcomes i).isOk = false) (succeeds : (outcomes k).isOk = true) :
    leadingFailures outcomes = k :=
  le_antisymm (iInf₂_le k succeeds) (le_leadingFailures fails)

section Last

variable {outcomes : Nat → Except ε α} {more last : Nat}
  (fails : ∀ i < last, (outcomes i).isOk = false)
  (ends : last = more ∨ last < more ∧ (outcomes last).isOk = true)

include fails ends

/-- The last attempt is the first success or else the last one that may be made. -/
theorem last_eq_min :
    ((last + 1 : Nat) : ℕ∞) = min (leadingFailures outcomes + 1) ↑(more + 1) := by
  rcases ends with rfl | ⟨before, succeeds⟩
  · have all : ((last + 1 : Nat) : ℕ∞) ≤ leadingFailures outcomes + 1 := by
      push_cast
      gcongr
      exact le_leadingFailures fails
    exact (min_eq_right all).symm
  · have some : (last : ℕ∞) + 1 ≤ ((more + 1 : Nat) : ℕ∞) := by
      exact_mod_cast Nat.succ_le_succ (Nat.le_of_lt before)
    rw [leadingFailures_eq fails succeeds, min_eq_left some]
    rfl

/-- What the last attempt gives is the first success among those that may be made. -/
theorem last_ok_iff (a : α) :
    outcomes last = .ok a ↔
      ∃ i < more + 1, outcomes i = .ok a ∧ ∀ j < i, (outcomes j).isOk = false := by
  constructor
  · intro succeeds
    have within : last < more + 1 := by omega
    exact ⟨last, within, succeeds, fails⟩
  · rintro ⟨i, below, succeeds, failed⟩
    rcases Nat.lt_trichotomy i last with earlier | rfl | after
    · have := fails i earlier
      rw [succeeds] at this
      cases this
    · exact succeeds
    · rcases ends with rfl | ⟨-, already⟩
      · omega
      · have := failed last after
        rw [already] at this
        cases this

/-- If the last attempt fails, all that may be made have failed. -/
theorem last_error_iff (e : ε) :
    outcomes last = .error e ↔
      (∀ i < more + 1, (outcomes i).isOk = false) ∧ outcomes last = .error e := by
  refine ⟨fun failed => ⟨?_, failed⟩, And.right⟩
  rcases ends with rfl | ⟨-, succeeds⟩
  · intro i below
    by_cases here : i = last
    · rw [here, failed]
      rfl
    · exact fails i (by omega)
  · rw [failed] at succeeds
    cases succeeds

end Last

/-! ## Counters within their words -/

section Counted

variable {m : Type → Type} [Monad m]

/-- Twice a pause, if its seconds fit a word. -/
def doubled? (pause : Nat) : Option Nat :=
  if (Duration.ofMillis (2 * pause)).secs ≤ Word.max then some (2 * pause) else none

theorem secs_twice_le {ms : Nat} (fits : ms ≤ Word.max) :
    (Duration.ofMillis (2 * ms)).secs ≤ Word.max := by
  simp only [Duration.ofMillis, Duration.secs]
  omega

/-- The pause after a pause, if that one can be doubled and the number of the attempt can go up. -/
def advance? (number delay : Nat) : Except Abort Nat :=
  -- Not a match: to compare two of those the kernel would carry out the division in `doubled?`.
  (doubled? delay).elim (.error .product) fun twice =>
    if Word.maxHalf ≤ number then .error .sum else .ok (min twice maxPause)

/-- Retry with attempts that are counted up to a limit. After each pause `advance` gives the next
one or ends all abnormally. -/
def retryCounted (advance : Nat → Nat → Except Abort Nat) (attempt : m (Except ε α))
    (pause : Nat → m Unit) (limit number delay : Nat) : m (Except Abort (Except ε α)) := do
  match ← attempt with
  | .ok a => return .ok (.ok a)
  | .error e =>
    if limit ≤ number then return .ok (.error e)
    else
      pause delay
      match advance number delay with
      | .ok delay => retryCounted advance attempt pause limit (number + 1) delay
      | .error a => return .error a
termination_by limit - number

variable [LawfulMonad m] {attempt : m (Except ε α)} {pause : Nat → m Unit}

/-- Retrying with counted attempts is retrying, if every step from one pause to the next
succeeds. -/
theorem retryCounted_eq {advance : Nat → Nat → Except Abort Nat} (Short : Nat → Prop)
    {limit number delay : Nat}
    (step : ∀ n d, n < limit → Short d → advance n d = .ok (nextPause d) ∧ Short (nextPause d))
    (within : number ≤ limit) (short : Short delay) :
    retryCounted advance attempt pause limit number delay =
      Except.ok <$> retryFrom attempt pause (limit - number) delay := by
  generalize left : limit - number = more
  induction more generalizing number delay with
  | zero =>
    have last : limit ≤ number := by omega
    rw [retryCounted, retryFrom, map_eq_pure_bind]
    refine congrArg _ (funext fun r => ?_)
    cases r with
    | ok a => rfl
    | error e => simp [last]
  | succ more ih =>
    have before : ¬ limit ≤ number := by omega
    rw [retryCounted, retryFrom, map_bind]
    refine congrArg _ (funext fun r => ?_)
    cases r with
    | ok a => simp
    | error e =>
      obtain ⟨next, shorter⟩ := step number delay (by omega) short
      have rest : retryCounted advance attempt pause limit (number + 1) (nextPause delay) =
          Except.ok <$> retryFrom attempt pause more (nextPause delay) :=
        ih (by omega) shorter (by omega)
      simp [before, next, rest]

theorem doubled?_eq {delay : Nat} (word : delay ≤ Word.max) : doubled? delay = some (2 * delay) :=
  if_pos (secs_twice_le word)

/-- Below the highest number, a pause of a word's milliseconds or less is followed by the next
one. -/
theorem advance?_eq {number delay : Nat} (counted : number < Word.maxHalf)
    (word : delay ≤ Word.max) : advance? number delay = .ok (nextPause delay) := by
  rw [advance?, doubled?_eq word]
  exact if_neg (Nat.not_le.2 counted)

end Counted

/-! ## What comes of retrying -/

section Outcome

variable (attempts : UInt32) (delay : UInt64) (outcomes : Nat → Except ε α)

/-- Retrying with counters within words takes the same course. -/
theorem retryCounted_course :
    (retryCounted advance? (Course.attempt outcomes) Course.pause (max 1 attempts.toNat) 1
        delay.toNat).run [] =
      (.ok (retryCourse attempts.toNat delay.toNat outcomes).1,
        (retryCourse attempts.toNat delay.toNat outcomes).2) := by
  have half : attempts.toNat ≤ Word.maxHalf := Nat.le_of_lt_succ attempts.toNat_lt
  have word : delay.toNat ≤ Word.max := Nat.le_of_lt_succ delay.toNat_lt
  have fits : max 1 attempts.toNat ≤ Word.maxHalf := Nat.max_le.2 ⟨by decide, half⟩
  have longest : maxPause ≤ Word.max := by decide
  rw [retryCounted_eq (· ≤ Word.max) ?_ (Nat.le_max_left _ _) word, StateT.run_map,
    Nat.max_comm]
  · rfl
  · intro n d below short
    refine ⟨advance?_eq (Nat.lt_of_lt_of_le below fits) short, ?_⟩
    exact Nat.le_trans (Nat.min_le_right _ _) longest

/-- Attempts are made up to the first success, but not more than are allowed and at least one. The
first success among them is the result, or else the error of the last one. There is one pause
between any two attempts and none after the last, and counting attempts and doubling pauses never
leaves a word. -/
theorem retry_attempts :
    match retryCourse attempts.toNat delay.toNat outcomes with
    | (result, course) =>
      (course.attempts : ℕ∞) = min (leadingFailures outcomes + 1) ↑(max 1 attempts.toNat) ∧
      (∀ a, result = .ok a ↔
        ∃ i < max 1 attempts.toNat, outcomes i = .ok a ∧ ∀ j < i, (outcomes j).isOk = false) ∧
      (∀ e, result = .error e ↔
        (∀ i < max 1 attempts.toNat, (outcomes i).isOk = false) ∧
          outcomes (course.attempts - 1) = .error e) ∧
      course = alternate 0 course.pauses ∧
      (retryCounted advance? (Course.attempt outcomes) Course.pause (max 1 attempts.toNat) 1
        delay.toNat).run [] = (.ok result, course) := by
  have counted := retryCounted_course attempts delay outcomes
  obtain ⟨last, fails, ends⟩ := exists_last outcomes (max attempts.toNat 1 - 1)
  have limit : max 1 attempts.toNat = max attempts.toNat 1 - 1 + 1 := by omega
  rw [retryCourse_eq delay.toNat fails ends] at counted ⊢
  generalize max attempts.toNat 1 - 1 = more at ends limit
  dsimp only at counted ⊢
  rw [limit] at counted ⊢
  rw [Course.attempts_alternate, List.length_map, List.length_range, Course.pauses_alternate,
    Nat.add_sub_cancel]
  exact ⟨last_eq_min fails ends, last_ok_iff fails ends, last_error_iff fails ends, rfl, counted⟩

theorem pauseAfter_le {first k : Nat} (short : first ≤ maxPause) : pauseAfter first k ≤ maxPause := by
  unfold pauseAfter
  split
  · exact short
  · exact Nat.min_le_left _ _

/-- Pauses do not get shorter, unless the first one is too long. -/
theorem pauseAfter_mono {first k k' : Nat} (short : first ≤ maxPause) (later : k ≤ k') :
    pauseAfter first k ≤ pauseAfter first k' := by
  induction later with
  | refl => exact Nat.le_refl _
  | @step j later ih =>
    have bound := pauseAfter_le (k := j) short
    rw [← nextPause_pauseAfter, nextPause]
    omega

/-- The pause after an attempt is the doubled first one or the limit, if that one was within it. -/
theorem pauseAfter_eq_iff {first k : Nat} :
    pauseAfter first k = min maxPause (first * 2 ^ k) ↔ k ≠ 0 ∨ first ≤ maxPause := by
  unfold pauseAfter
  by_cases start : k = 0
  · simp [start]
  · simp [start]

/-- The first pause is as wanted, and every pause after it is twice the one before it, but at most
thirty seconds. So all pauses are doublings up to thirty seconds if the first one is no longer. -/
theorem retry_pauses :
    match retryCourse attempts.toNat delay.toNat outcomes with
    | (_, course) =>
      course.pauses.length + 1 = course.attempts ∧
      (∀ k p, course.pauses[k]? = some p →
        p = (if k = 0 then delay.toNat else min maxPause (delay.toNat * 2 ^ k)) ∧
          (p = min maxPause (delay.toNat * 2 ^ k) ↔ k ≠ 0 ∨ delay.toNat ≤ maxPause)) ∧
      (delay.toNat ≤ maxPause →
        (∀ p ∈ course.pauses, p ≤ maxPause) ∧ course.pauses.Pairwise (· ≤ ·)) := by
  obtain ⟨last, fails, ends⟩ := exists_last outcomes (max attempts.toNat 1 - 1)
  rw [retryCourse_eq delay.toNat fails ends]
  dsimp only
  rw [Course.attempts_alternate, Course.pauses_alternate]
  refine ⟨rfl, fun k p there => ?_, fun short => ⟨fun p mem => ?_, ?_⟩⟩
  · rw [List.getElem?_map] at there
    obtain ⟨i, found, rfl⟩ := Option.map_eq_some_iff.1 there
    obtain ⟨-, rfl⟩ := List.getElem?_eq_some_iff.1 found
    rw [List.getElem_range]
    exact ⟨rfl, pauseAfter_eq_iff⟩
  · obtain ⟨k, -, rfl⟩ := List.mem_map.1 mem
    exact pauseAfter_le short
  · rw [List.pairwise_map]
    exact List.pairwise_lt_range.imp fun before => pauseAfter_mono short (Nat.le_of_lt before)

/-- Four attempts that fail, with a first pause of ten seconds. -/
theorem retry_pauses_ten_seconds :
    let pauses := (retryCourse 4 10000 fun _ => (.error "failed" : Except String Nat)).2.pauses
    pauses = [10000, 20000, 30000] ∧ (∀ p ∈ pauses, p ≤ maxPause) ∧ pauses.Pairwise (· ≤ ·) := by
  have short : (10000 : UInt64).toNat ≤ maxPause := by decide
  exact ⟨rfl, (retry_pauses 4 10000 fun _ => (.error "failed" : Except String Nat)).2.2 short⟩

/-- A first pause of a minute is not cut to thirty seconds, but the next one is. -/
theorem retry_pauses_one_minute :
    let pauses := (retryCourse 3 60000 fun _ => (.error "failed" : Except String Nat)).2.pauses
    pauses = [60000, 30000] ∧
      (¬ ∀ k p, pauses[k]? = some p → p = min maxPause (60000 * 2 ^ k)) ∧
      (¬ ∀ p ∈ pauses, p ≤ maxPause) ∧ ¬ pauses.Pairwise (· ≤ ·) := by
  have made : (retryCourse 3 60000 fun _ => (.error "failed" : Except String Nat)).2.pauses =
      [60000, 30000] := rfl
  rw [made]
  refine ⟨rfl, fun doubled => ?_, by decide, by decide⟩
  have first := doubled 0 60000 rfl
  revert first
  decide

end Outcome

end CounterSampling
