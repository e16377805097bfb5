/-!
# Retrying

An operation is tried until it succeeds or a number of attempts is used up. Between two attempts
there is a pause, which doubles each time up to a limit. What an attempt and a pause are is left to
the monad they live in; a `Timeline` is one in which time passes only in pauses.
-/

namespace CounterSampling

/-- The longest pause, in milliseconds, unless the first pause itself is longer. -/
def maxPause : Nat := 30000

/-- The pause after a pause. -/
def nextPause (pause : Nat) : Nat :=
  min (2 * pause) maxPause

variable {m : Type → Type} [Monad m] {ε α : Type}

/-- Attempt something, and if it fails up to `more` times again, with a first pause of `delay`
milliseconds. The error is that of the last attempt. -/
def retryFrom (attempt : m (Except ε α)) (pause : Nat → m Unit) : Nat → Nat → m (Except ε α)
  | 0, _ => attempt
  | more + 1, delay => do
    match ← attempt with
    | .ok a => return .ok a
    | .error _ =>
      pause delay
      retryFrom attempt pause more (nextPause delay)

/-- Make up to `attempts` attempts, and at least one. -/
def retry (attempts delay : Nat) (attempt : m (Except ε α)) (pause : Nat → m Unit) :
    m (Except ε α) :=
  retryFrom attempt pause (max attempts 1 - 1) delay

/-- The longest time that a clock can be waited for at once, in milliseconds: thirty years. -/
def longestWait : Nat := 30 * 365 * 24 * 60 * 60 * 1000

/-- A clock that only pauses move, and when each attempt started, the latest first. -/
structure Timeline where
  now : Nat := 0
  started : List Nat := []
  deriving DecidableEq, Repr

namespace Timeline

/-- The next attempt of a sequence with known outcomes. -/
def attempt (outcomes : Nat → Except ε α) : StateM Timeline (Except ε α) := fun t =>
  (outcomes t.started.length, { t with started := t.now :: t.started })

/-- Let time pass, at most the longest wait. -/
def pause (ms : Nat) : StateM Timeline Unit := fun t =>
  ((), { t with now := t.now + min ms longestWait })

/-- The times at which attempts started, in order. -/
def starts (t : Timeline) : List Nat := t.started.reverse

end Timeline

/-- Retry a sequence with known outcomes on a timeline that starts at zero. -/
def retryOutcomes (attempts delay : Nat) (outcomes : Nat → Except ε α) : Except ε α × Timeline :=
  (retry attempts delay (Timeline.attempt outcomes) Timeline.pause).run {}

end CounterSampling
