import CounterSampling.Device.State

/-!
# How a simulated device answers

Each call is answered from the device and its state. A call that fails changes nothing but the
counts of queries and at most one failure budget, except that a failing stop still stops.
-/

namespace CounterSampling.Device

/-- The status of a failure of no particular kind. -/
def statusError : Int := 1

/-- The status of a call about something that does not exist. -/
def statusInvalidArgument : Int := 7

/-- The status of a call that the context does not allow. -/
def statusContext : Int := 12

/-- The status of a counter that cannot be collected. -/
def statusNotAvailable : Int := 21

def invalidArgument (message : String) : BackendError := ⟨statusInvalidArgument, message⟩

def contextError (message : String) : BackendError := ⟨statusContext, message⟩

def listAgents (d : Device) : Except BackendError (List AgentInfo) :=
  if d.failEnumeration then .error ⟨statusError, "agent enumeration failed"⟩ else .ok d.agents

/-- Only GPUs have counters. -/
def listCounters (d : Device) (agent : AgentId) : Except BackendError (List CounterId) :=
  if d.catalogFailures.contains agent then
    .error ⟨statusError, "could not fetch supported counters"⟩
  else
    match d.agents.find? fun a => decide (a.id = agent) with
    | some a => .ok (if a.isGpu then d.counters.map fun c => c.id else [])
    | none => .error (invalidArgument "unknown agent")

def describe (d : Device) (id : CounterId) : Except BackendError DeviceCounter :=
  match d.counter? id with
  | some c => .ok c
  | none => .error (invalidArgument "unknown counter id")

/-- The dimensions of a list after the one of a number, and that one. -/
def splitDimensions (id : DimensionId) : List Dimension → Option (Dimension × List Dimension)
  | [] => none
  | d :: ds => if d.id = id then some (d, ds) else splitDimensions id ds

/-- The place of an instance along a dimension: instances are laid out with the last dimension
varying fastest. -/
def position (d : Device) (r : Record) (id : DimensionId) : Except BackendError Nat := do
  let c ← d.describe r.counter
  match splitDimensions id c.dimensions with
  | none => throw (invalidArgument "unknown dimension")
  | some (dim, later) => return r.instanceIndex.toNat / recordCount later % dim.extent

/-- The first counter of a set that cannot be configured, as an error. -/
def firstObstacle (d : Device) : List CounterId → Option BackendError
  | [] => none
  | id :: ids =>
    match d.counter? id with
    | none => some (invalidArgument "unknown counter id")
    | some c =>
      if d.rejected.contains c.name then some ⟨statusNotAvailable, c.name ++ " cannot be collected"⟩
      else d.firstObstacle ids

def configure (d : Device) (agent : AgentId) (counters : List CounterId) (s : State) :
    ConfigureOutcome × State :=
  if !(d.agents.any fun a => decide (a.id = agent) && a.isGpu) then
    (.failed (invalidArgument "unknown agent"), s)
  else
    match d.firstObstacle counters with
    | some e => (.failed e, s)
    | none =>
      if d.hwLimit < counters.length then (.capacityExceeded, s)
      else
        (.configured ⟨s.nextConfig⟩,
          { s with
            nextConfig := s.nextConfig + 1
            configsCreated := s.configsCreated + 1
            configs := s.configs.insert ⟨s.nextConfig⟩ counters })

def destroyConfig (config : ConfigId) (s : State) : State :=
  if s.configs.contains config then
    { s with
      configs := s.configs.erase config
      configsDestroyed := s.configsDestroyed + 1 }
  else s

def createContext (d : Device) (agent : AgentId) (s : State) :
    Except BackendError ContextId × State :=
  if !(d.agents.any fun a => decide (a.id = agent)) then
    (.error (invalidArgument "unknown agent"), s)
  else
    (.ok ⟨s.nextContext⟩,
      { s with
        nextContext := s.nextContext + 1
        contexts := s.contexts.insert ⟨s.nextContext⟩ ⟨agent, none, false⟩ })

def destroyContext (context : ContextId) (s : State) : State :=
  { s with contexts := s.contexts.erase context }

def bindConfig (context : ContextId) (config : ConfigId) (s : State) :
    Except BackendError Unit × State :=
  if !(s.configs.contains config) then (.error (invalidArgument "unknown configuration"), s)
  else
    match s.contexts.find? context with
    | none => (.error (contextError "unknown context"), s)
    | some ctx =>
      if ctx.active then (.error (contextError "cannot rebind an active context"), s)
      else
        match takeFailure s.budgets.bind ctx.agent with
        | some budget =>
          (.error (contextError "injected bind failure"),
            { s with budgets := { s.budgets with bind := budget } })
        | none =>
          (.ok (),
            { s with contexts := s.contexts.insert context { ctx with bound := some config } })

def startContext (context : ContextId) (s : State) : Except BackendError Unit × State :=
  match s.contexts.find? context with
  | none => (.error (contextError "unknown context"), s)
  | some ctx =>
    if ctx.active then (.error (contextError "context already active"), s)
    else
      match takeFailure s.budgets.start ctx.agent with
      | some budget =>
        (.error (contextError "injected start failure"),
          { s with budgets := { s.budgets with start := budget } })
      | none =>
        (.ok (),
          { s with
            contexts := s.contexts.insert context { ctx with active := true }
            starts := s.starts + 1 })

def stopContext (context : ContextId) (s : State) : Except BackendError Unit × State :=
  match s.contexts.find? context with
  | none => (.error (contextError "unknown context"), s)
  | some ctx =>
    let stopped := { s with contexts := s.contexts.insert context { ctx with active := false } }
    match takeFailure s.budgets.stop ctx.agent with
    | some budget =>
      (.error (contextError "injected stop failure"),
        { stopped with budgets := { s.budgets with stop := budget } })
    | none => (.ok (), stopped)

/-- All records a counter gives, of which at most `limit` are listed: instances 0, 1, 2, … -/
def DeviceCounter.records (c : DeviceCounter) (limit : Nat) : List Record :=
  (List.range (min (recordCount c.dimensions) limit)).map fun i => ⟨.ofNat i, c.id, c.value⟩

/-- The first `limit` records of counters one after another. -/
def recordsUpTo (d : Device) : Nat → List CounterId → List Record
  | _, [] => []
  | limit, id :: ids =>
    match d.counter? id with
    | none => d.recordsUpTo limit ids
    | some c =>
      let rs := DeviceCounter.records c limit
      rs ++ d.recordsUpTo (limit - rs.length) ids

theorem length_records_le (c : DeviceCounter) (limit : Nat) :
    (DeviceCounter.records c limit).length ≤ limit := by
  simp only [DeviceCounter.records, List.length_map, List.length_range]
  exact Nat.min_le_right _ _

theorem length_recordsUpTo_le (d : Device) (limit : Nat) (ids : List CounterId) :
    (d.recordsUpTo limit ids).length ≤ limit := by
  induction ids generalizing limit with
  | nil => exact Nat.zero_le _
  | cons id ids ih =>
    simp only [recordsUpTo]
    split
    · exact ih limit
    · next c _ =>
      have hc := length_records_le c limit
      have := ih (limit - (DeviceCounter.records c limit).length)
      simp only [List.length_append]
      omega

/-- Overwrite the front of a buffer with records, of which there are not too many. -/
def fill (buffer : List Record) (rs : List Record) (h : rs.length ≤ buffer.length) :
    ReadAnswer buffer where
  count := .ok rs.length
  records := rs ++ buffer.drop rs.length
  sameLength := by simp only [List.length_append, List.length_drop]; omega

/-- The most records a read into a buffer returns. -/
def readLimit (d : Device) (buffer : List Record) : Nat :=
  match d.maxRecords with
  | some n => min n buffer.length
  | none => buffer.length

theorem readLimit_le (d : Device) (buffer : List Record) : d.readLimit buffer ≤ buffer.length := by
  unfold readLimit
  split
  · exact Nat.min_le_right _ _
  · exact Nat.le_refl _

def readRecords (d : Device) (context : ContextId) (buffer : List Record) (s : State) :
    ReadAnswer buffer × State :=
  match s.contexts.find? context with
  | none => (.untouched buffer (.error (contextError "unknown context")), s)
  | some ctx =>
    if !ctx.active then (.untouched buffer (.error (contextError "context not started")), s)
    else
      match takeFailure s.budgets.read ctx.agent with
      | some budget =>
        (.untouched buffer (.error ⟨statusError, "injected read failure"⟩),
          { s with budgets := { s.budgets with read := budget } })
      | none =>
        match ctx.bound with
        | none => (.untouched buffer (.error (contextError "no profile bound to context")), s)
        | some config =>
          match s.configs.find? config with
          | none => (.untouched buffer (.error (invalidArgument "unknown configuration")), s)
          | some counters =>
            (fill buffer (d.recordsUpTo (d.readLimit buffer) counters)
              (Nat.le_trans (length_recordsUpTo_le d _ counters) (readLimit_le d buffer)), s)

/-- Answer a call. -/
def answer (d : Device) : (c : Call) → State → c.Answer × State
  | .agents, s => (d.listAgents, s)
  | .supportedCounters agent, s =>
    (d.listCounters agent, { s with supportedQueries := s.supportedQueries + 1 })
  | .counterName id, s =>
    ((d.describe id).map fun c => c.name, { s with nameQueries := s.nameQueries + 1 })
  | .counterDimensions id, s =>
    ((d.describe id).map fun c => c.dimensions,
      { s with dimensionQueries := s.dimensionQueries + 1 })
  | .dimensionPosition r id, s => (d.position r id, s)
  | .tryConfigure agent counters, s => d.configure agent counters s
  | .destroyConfig config, s => ((), destroyConfig config s)
  | .createContext agent, s => d.createContext agent s
  | .destroyContext context, s => ((), destroyContext context s)
  | .bindConfig context config, s => bindConfig context config s
  | .startContext context, s => startContext context s
  | .stopContext context, s => stopContext context s
  | .readRecords context buffer, s => d.readRecords context buffer s
  | .simulated, s => (true, s)

/-- The device as something that answers calls. -/
def backend (d : Device) : Backend State where
  answer := d.answer

end CounterSampling.Device
