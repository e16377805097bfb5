import CounterSampling.Device.Answer
import CounterSampling.Device.Builder
import CounterSampling.Overlay
import CounterSampling.Run

/-!
# Sessions

A session is one device together with the objects that were made on it and are kept under names.
Objects of different types have separate names. Profile sets and profiles are shared: a set that was
looked up may be kept here and in the cache it came from, and its configurations are released when
the last of its holders lets go of it.
-/

namespace CounterSampling

structure Session where
  device : Device
  /-- How the objects of the session see the device. -/
  overlay : Overlay
  state : Device.State
  /-- The configurations that the session told the device to release, the latest first. -/
  released : List ConfigId := []
  metrics : Metrics := .zero
  /-- What tells the next cache, or the next set kept on its own, from all before. -/
  nextOwner : Nat := 0
  catalogs : Table String Catalog := .empty
  caches : Table String ProfileCache := .empty
  samplers : Table String Sampler := .empty
  registries : Table String Registry := .empty
  sets : Table String (Shared ProfileSet) := .empty
  profiles : Table String (Shared Profile) := .empty

/-- Why a step of a session gives no result. -/
inductive SessionError where
  /-- Nothing is kept under a name that the step mentions. -/
  | missing
  | failed (f : Failure)
  deriving DecidableEq, Repr

/-- Steps of a session that may fail; a failure keeps the changes made before it. -/
abbrev SessionM : Type → Type :=
  ExceptT SessionError (StateM Session)

namespace Session

variable {α β : Type}

/-- A session on a device that nothing was done with yet. -/
def new (b : Device.Builder) (overlay : Overlay) : Session where
  device := b.device
  overlay := overlay
  state := b.initial

/-- The device as the objects of the session see it. -/
def backend (s : Session) : Backend Device.State :=
  s.overlay.backend s.device.backend

def perform (p : Procedure α) : StateM Session α := fun s =>
  let (a, released, state) := p.run s.backend.notingReleases (s.released, s.state)
  (a, { s with released, state })

theorem run_perform (p : Procedure α) (s : Session) :
    (perform p).run s =
      let x := p.run s.backend.notingReleases (s.released, s.state)
      (x.1, { s with released := x.2.1, state := x.2.2 }) := rfl

def ask (c : Call) : StateM Session c.Answer :=
  perform (.call c)

theorem run_bind (m : SessionM α) (f : α → SessionM β) (s : Session) :
    (m >>= f).run.run s =
      match (m.run.run s).1 with
      | .ok a => (f a).run.run (m.run.run s).2
      | .error e => (.error e, (m.run.run s).2) := by
  rw [ExceptT.run_bind, StateT.run_bind]
  generalize m.run.run s = y
  obtain ⟨r, s'⟩ := y
  cases r <;> rfl

theorem run_get (s : Session) : (get : SessionM Session).run.run s = (.ok s, s) := rfl

theorem run_lift (m : StateM Session α) (s : Session) :
    (liftM m : SessionM α).run.run s = (.ok (m.run s).1, (m.run s).2) := rfl

/-! ## Who holds what -/

/-- The caches of all samplers, also of those in registries. -/
def samplerCaches (s : Session) : List ProfileCache :=
  (s.samplers.values.map fun e => e.cache) ++
    s.registries.values.flatMap fun r => r.samplers.map fun a => a.sampler.cache

/-- Whether some object of the session holds the shared thing with this owner and serial number. -/
def holds (s : Session) (owner serial : Nat) : Bool :=
  ((s.caches.values ++ s.samplerCaches).any fun c => c.holds owner serial) ||
    (s.sets.values.any fun x => x.owner == owner && x.serial == serial) ||
    s.profiles.values.any fun x => x.owner == owner && x.serial == serial

/-- Release configurations of a shared thing that was let go of, unless someone else holds it. -/
def letGo (x : Shared α) (configs : List ConfigId) : StateM Session Unit := do
  if (← get).holds x.owner x.serial then return ()
  perform (releaseAll configs)

def letGoSet (x : Shared ProfileSet) : StateM Session Unit :=
  letGo x x.value.configs

def letGoProfile (x : Shared Profile) : StateM Session Unit :=
  letGo x [x.value.config]

def letGoCache (c : ProfileCache) : StateM Session Unit := do
  perform (releaseAll (c.soleConfigs (← get).holds))

def letGoSampler (e : Sampler) : StateM Session Unit := do
  perform (e.close (← get).holds)

def letGoRegistry (r : Registry) : StateM Session Unit := do
  perform (r.close (← get).holds)

/-! ## Objects by name -/

/-- The tables of named objects: how to read and to replace one, and what letting go of an object
does. -/
structure Shelf (β : Type) where
  read : Session → Table String β
  replace : Session → Table String β → Session
  letGo : β → StateM Session Unit

def catalogShelf : Shelf Catalog where
  read := Session.catalogs
  replace s t := { s with catalogs := t }
  letGo _ := pure ()

def cacheShelf : Shelf ProfileCache where
  read := Session.caches
  replace s t := { s with caches := t }
  letGo := letGoCache

def samplerShelf : Shelf Sampler where
  read := Session.samplers
  replace s t := { s with samplers := t }
  letGo := letGoSampler

def registryShelf : Shelf Registry where
  read := Session.registries
  replace s t := { s with registries := t }
  letGo := letGoRegistry

def setShelf : Shelf (Shared ProfileSet) where
  read := Session.sets
  replace s t := { s with sets := t }
  letGo := letGoSet

def profileShelf : Shelf (Shared Profile) where
  read := Session.profiles
  replace s t := { s with profiles := t }
  letGo := letGoProfile

/-- Write a name of a shelf, without letting go of anything. -/
def Shelf.write (sh : Shelf β) (name : String) (b : β) : StateM Session Unit :=
  modify fun s => sh.replace s ((sh.read s).insert name b)

def Shelf.fetch (sh : Shelf β) (name : String) : SessionM β := do
  match (sh.read (← get)).find? name with
  | some b => pure b
  | none => throw .missing

theorem run_fetch (sh : Shelf β) (name : String) (s : Session) :
    (sh.fetch name).run.run s =
      (match (sh.read s).find? name with
      | some b => .ok b
      | none => .error .missing, s) := by
  simp only [Shelf.fetch, run_bind, run_get]
  cases (sh.read s).find? name <;> rfl

/-- Keep an object under a name; the object that was there before is let go of afterwards. -/
def Shelf.keep (sh : Shelf β) (name : String) (b : β) : StateM Session Unit := do
  let before := (sh.read (← get)).find? name
  sh.write name b
  match before with
  | some old => sh.letGo old
  | none => pure ()

theorem run_keep (sh : Shelf β) (name : String) (b : β) (s : Session) :
    (sh.keep name b).run s =
      match (sh.read s).find? name with
      | some old => (sh.letGo old).run (sh.replace s ((sh.read s).insert name b))
      | none => ((), sh.replace s ((sh.read s).insert name b)) := by
  simp only [Shelf.keep, StateT.run_bind, StateT.run_get, pure_bind]
  cases (sh.read s).find? name <;> rfl

/-- Let go of the object under a name, and say whether there was one. -/
def Shelf.drop (sh : Shelf β) (name : String) : StateM Session Bool := do
  match (sh.read (← get)).find? name with
  | some old =>
    modify fun s => sh.replace s ((sh.read s).erase name)
    sh.letGo old
    pure true
  | none => pure false

theorem run_drop (sh : Shelf β) (name : String) (s : Session) :
    ((sh.drop name).run s).2 =
      match (sh.read s).find? name with
      | some old => ((sh.letGo old).run (sh.replace s ((sh.read s).erase name))).2
      | none => s := by
  simp only [Shelf.drop, StateT.run_bind, StateT.run_get, pure_bind]
  cases (sh.read s).find? name <;> rfl

/-- Numbers for new owners. -/
def takeOwners (n : Nat) : StateM Session Nat := fun s =>
  (s.nextOwner, { s with nextOwner := s.nextOwner + n })

theorem run_takeOwners (n : Nat) (s : Session) :
    (takeOwners n).run s = (s.nextOwner, { s with nextOwner := s.nextOwner + n }) := rfl

end Session

end CounterSampling
