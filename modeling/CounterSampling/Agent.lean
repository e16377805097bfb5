/-!
# Agents

An agent is a processor that the profiling layer knows: a CPU, which is never sampled, or a GPU.
-/

namespace CounterSampling

/-- The number of an agent. -/
structure AgentId where
  val : UInt64
  deriving DecidableEq, Repr

/-- An agent number as it is shown. -/
def AgentId.text (a : AgentId) : String :=
  "agent-" ++ toString a.val.toNat

inductive AgentKind where
  | cpu
  | gpu
  deriving DecidableEq, Repr

/-- What the profiling layer says about an agent. -/
structure AgentInfo where
  id : AgentId
  kind : AgentKind
  /-- The name of the processor, such as `gfx942`. -/
  name : String
  /-- The number of the GPU in the driver. -/
  gpuId : UInt64
  /-- The minor number of the render node. -/
  renderMinor : UInt32
  /-- The number of the node in the topology. -/
  logicalNode : UInt32
  deriving DecidableEq, Repr

/-- Whether the agent can be sampled. -/
def AgentInfo.isGpu (a : AgentInfo) : Bool :=
  a.kind == .gpu

/-- One line about an agent. -/
def AgentInfo.description (a : AgentInfo) : String :=
  match a.kind with
  | .gpu =>
    a.id.text ++ " " ++ a.name ++ " gpu_id=" ++ toString a.gpuId.toNat ++ " renderD" ++
      toString a.renderMinor.toNat ++ " node=" ++ toString a.logicalNode.toNat
  | .cpu => a.id.text ++ " " ++ a.name ++ " (cpu)"

end CounterSampling
