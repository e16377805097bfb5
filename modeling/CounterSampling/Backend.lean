import CounterSampling.Agent
import CounterSampling.Counter

/-!
# The profiling layer

The sampler reaches a device only through the calls of this module. A `Procedure` is what the
sampler wants done: a tree that makes a call, goes on with its answer, and ends with a result. A
`Backend` answers calls from a state of its own, and may answer the same call differently each time.
Laws about procedures that hold for every `Backend` therefore hold for every device, and the calls a
procedure makes can be listed and interleaved with those of others.
-/

namespace CounterSampling

structure ConfigId where
  val : Nat
  deriving DecidableEq, Repr

def ConfigId.text (c : ConfigId) : String :=
  "config-" ++ toString c.val

structure ContextId where
  val : Nat
  deriving DecidableEq, Repr

def ContextId.text (c : ContextId) : String :=
  "context-" ++ toString c.val

/-- A status of the profiling layer other than success. -/
structure BackendError where
  code : Int
  message : String
  deriving DecidableEq, Repr

def BackendError.text (e : BackendError) : String :=
  e.message ++ " (status " ++ toString e.code ++ ")"

/-- What comes of trying to build a configuration for a set of counters. -/
inductive ConfigureOutcome where
  /-- The hardware took the set. -/
  | configured (config : ConfigId)
  /-- The set does not fit the hardware. -/
  | capacityExceeded
  /-- Any other status. -/
  | failed (e : BackendError)
  deriving DecidableEq, Repr

/-- The calls of the profiling layer. -/
inductive Call where
  | agents
  | supportedCounters (agent : AgentId)
  | counterName (counter : CounterId)
  /-- List the dimensions of a counter, in the order in which instances are laid out. -/
  | counterDimensions (counter : CounterId)
  /-- Find the place of a record along a dimension. -/
  | dimensionPosition (record : Record) (dimension : DimensionId)
  /-- Try to build a configuration for exactly these counters. -/
  | tryConfigure (agent : AgentId) (counters : List CounterId)
  | destroyConfig (config : ConfigId)
  | createContext (agent : AgentId)
  | destroyContext (context : ContextId)
  /-- Make a configuration the one that the next start arms. -/
  | bindConfig (context : ContextId) (config : ConfigId)
  | startContext (context : ContextId)
  | stopContext (context : ContextId)
  /-- Read the gathered records into a buffer. -/
  | readRecords (context : ContextId) (buffer : List Record)
  | simulated

/-- The answer to a read: how many records were written, and the buffer afterwards, which is as long
as it was. -/
structure ReadAnswer (buffer : List Record) where
  count : Except BackendError Nat
  records : List Record
  sameLength : records.length = buffer.length

/-- A read that leaves the buffer alone. -/
def ReadAnswer.untouched (buffer : List Record) (count : Except BackendError Nat) :
    ReadAnswer buffer :=
  ⟨count, buffer, rfl⟩

/-- What each call is answered with. -/
@[reducible] def Call.Answer : Call → Type
  | .agents => Except BackendError (List AgentInfo)
  | .supportedCounters _ => Except BackendError (List CounterId)
  | .counterName _ => Except BackendError String
  | .counterDimensions _ => Except BackendError (List Dimension)
  | .dimensionPosition _ _ => Except BackendError Nat
  | .tryConfigure _ _ => ConfigureOutcome
  | .destroyConfig _ => Unit
  | .createContext _ => Except BackendError ContextId
  | .destroyContext _ => Unit
  | .bindConfig _ _ => Except BackendError Unit
  | .startContext _ => Except BackendError Unit
  | .stopContext _ => Except BackendError Unit
  | .readRecords _ buffer => ReadAnswer buffer
  | .simulated => Bool

/-- A tree of calls that ends in results. -/
inductive Procedure (α : Type) where
  | done (a : α)
  | ask (c : Call) (next : c.Answer → Procedure α)

namespace Procedure

variable {α β γ : Type}

def bind : Procedure α → (α → Procedure β) → Procedure β
  | .done a, f => f a
  | .ask c next, f => .ask c fun r => (next r).bind f

instance : Monad Procedure where
  pure := .done
  bind := Procedure.bind

@[simp] theorem pure_eq (a : α) : (Pure.pure a : Procedure α) = .done a := rfl

@[simp] theorem bind_done (a : α) (f : α → Procedure β) : (Procedure.done a >>= f) = f a := rfl

@[simp] theorem bind_ask (c : Call) (next : c.Answer → Procedure α) (f : α → Procedure β) :
    (Procedure.ask c next >>= f) = .ask c fun r => next r >>= f := rfl

theorem bind_assoc (p : Procedure α) (f : α → Procedure β) (g : β → Procedure γ) :
    (p >>= f) >>= g = p >>= fun a => f a >>= g := by
  induction p with
  | done a => rfl
  | ask c next ih => exact congrArg (Procedure.ask c) (funext ih)

theorem bind_pure (p : Procedure α) : (p >>= Procedure.done) = p := by
  induction p with
  | done a => rfl
  | ask c next ih => exact congrArg (Procedure.ask c) (funext ih)

instance : LawfulMonad Procedure :=
  .mk' (m := Procedure) bind_pure (fun _ _ => rfl) bind_assoc

def call (c : Call) : Procedure c.Answer := .ask c .done

end Procedure

/-- The configuration that a call releases. -/
def Call.released? : Call → Option ConfigId
  | .destroyConfig config => some config
  | _ => none

/-- Something that answers calls from a state. Every call returns: a profiling layer that ends
abnormally inside a call is not described. -/
structure Backend (σ : Type) where
  answer : (c : Call) → σ → c.Answer × σ

/-- A backend that also keeps a list of the configurations it was told to release, the latest
first, whether they were live or not. -/
def Backend.notingReleases {σ : Type} (b : Backend σ) : Backend (List ConfigId × σ) where
  answer c s :=
    let r := b.answer c s.2
    (r.1, c.released?.toList ++ s.1, r.2)

namespace Procedure

variable {σ α β : Type}

def run (b : Backend σ) : Procedure α → σ → α × σ
  | .done a, s => (a, s)
  | .ask c next, s =>
    let r := b.answer c s
    (next r.1).run b r.2

/-- The calls a procedure makes on a backend, in order. -/
def calls (b : Backend σ) : Procedure α → σ → List Call
  | .done _, _ => []
  | .ask c next, s =>
    let r := b.answer c s
    c :: (next r.1).calls b r.2

@[simp] theorem run_done (b : Backend σ) (a : α) (s : σ) :
    (Procedure.done a).run b s = (a, s) := rfl

@[simp] theorem run_ask (b : Backend σ) (c : Call) (next : c.Answer → Procedure α) (s : σ) :
    (Procedure.ask c next).run b s = (next (b.answer c s).1).run b (b.answer c s).2 := rfl

@[simp] theorem calls_done (b : Backend σ) (a : α) (s : σ) : (Procedure.done a).calls b s = [] :=
  rfl

@[simp] theorem calls_ask (b : Backend σ) (c : Call) (next : c.Answer → Procedure α) (s : σ) :
    (Procedure.ask c next).calls b s = c :: (next (b.answer c s).1).calls b (b.answer c s).2 := rfl

/-- Carrying out two procedures in a row hands the state of the first to the second. -/
theorem run_bind (b : Backend σ) (p : Procedure α) (f : α → Procedure β) (s : σ) :
    (p >>= f).run b s = (f (p.run b s).1).run b (p.run b s).2 := by
  induction p generalizing s with
  | done a => rfl
  | ask c next ih => exact ih _ _

/-! Steps with a state `τ` of their own, and such steps that may fail. -/

section Steps

variable {τ ε : Type}

/-- A procedure among steps with a state of their own leaves that state alone. -/
theorem run_lift (b : Backend σ) (p : Procedure α) (t : τ) (s : σ) :
    ((liftM p : StateT τ Procedure α).run t).run b s = (((p.run b s).1, t), (p.run b s).2) := by
  rw [StateT.run_monadLift, monadLift_self, run_bind]
  rfl

@[simp] theorem run_getOk (t : τ) :
    (get : ExceptT ε (StateT τ Procedure) τ).run.run t = .done (.ok t, t) := rfl

@[simp] theorem run_setOk (t t' : τ) :
    (set t' : ExceptT ε (StateT τ Procedure) PUnit).run.run t = .done (.ok ⟨⟩, t') := rfl

@[simp] theorem run_modifyOk (f : τ → τ) (t : τ) :
    (modify f : ExceptT ε (StateT τ Procedure) PUnit).run.run t = .done (.ok ⟨⟩, f t) := rfl

@[simp] theorem run_throwOk (e : ε) (t : τ) :
    (throw e : ExceptT ε (StateT τ Procedure) α).run.run t = .done (.error e, t) := rfl

@[simp] theorem run_liftOk (m : StateT τ Procedure α) (t : τ) :
    (liftM m : ExceptT ε (StateT τ Procedure) α).run.run t =
      m.run t >>= fun x => .done (.ok x.1, x.2) := rfl

theorem run_bind_getOk (f : τ → ExceptT ε (StateT τ Procedure) α) (t : τ) :
    (get >>= f).run.run t = (f t).run.run t := by
  simp only [ExceptT.run_bind, StateT.run_bind, run_getOk, bind_done]

theorem run_bindOk (b : Backend σ) (m : ExceptT ε (StateT τ Procedure) α)
    (f : α → ExceptT ε (StateT τ Procedure) β) (t : τ) (s : σ) :
    ((m >>= f).run.run t).run b s =
      let y := (m.run.run t).run b s
      match y.1.1 with
      | .ok a => ((f a).run.run y.1.2).run b y.2
      | .error e => ((.error e, y.1.2), y.2) := by
  simp only [ExceptT.run_bind, StateT.run_bind, run_bind]
  generalize (m.run.run t).run b s = y
  obtain ⟨⟨r, t'⟩, s'⟩ := y
  cases r <;> rfl

theorem run_procedureOk (p : Procedure α) (t : τ) :
    (liftM p : ExceptT ε (StateT τ Procedure) α).run.run t = p >>= fun a => .done (.ok a, t) := by
  change ((p >>= fun a => .done (a, t)) >>= fun x => .done (Except.ok x.1, x.2)) = _
  rw [bind_assoc]
  rfl

end Steps

end Procedure

end CounterSampling
