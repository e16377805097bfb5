import CounterSampling.Sampler

/-!
# Registries

A registry has one sampler for each GPU. If a sampler cannot be created, those created before it are
closed again, so a failed discovery leaves nothing behind.
-/

namespace CounterSampling

/-- A GPU and the sampler that owns its context. -/
structure AgentSampler where
  info : AgentInfo
  sampler : Sampler

structure Registry where
  /-- The samplers, in the order in which agents were listed. -/
  samplers : List AgentSampler

namespace Registry

/-- Close samplers, the last first. -/
def closeAll (elsewhere : Nat → Nat → Bool) : List AgentSampler → Procedure Unit
  | [] => pure ()
  | a :: as => do
    closeAll elsewhere as
    a.sampler.close elsewhere

/-- Create a sampler for each agent after those `opened` before; their caches are numbered from
`owner` on. -/
def openAll (maxPerProfile : Nat) (owner : Nat) (opened : List AgentSampler) :
    List AgentInfo → Procedure (Except SamplerError Registry)
  | [] => pure (.ok ⟨opened⟩)
  | info :: infos => do
    match ← Sampler.new info.id owner maxPerProfile with
    | .ok sampler => openAll maxPerProfile (owner + 1) (opened ++ [⟨info, sampler⟩]) infos
    | .error e =>
      closeAll (fun _ _ => false) opened
      return .error e

/-- Create a sampler for every GPU. -/
def discover (maxPerProfile owner : Nat) : Procedure (Except SamplerError Registry) := do
  match ← Procedure.call .agents with
  | .error e => return .error (.backend e)
  | .ok agents =>
    match agents.filter AgentInfo.isGpu with
    | [] => return .error .noAgents
    | gpus => openAll maxPerProfile owner [] gpus

/-- Close every sampler, the last first. -/
def close (r : Registry) (elsewhere : Nat → Nat → Bool) : Procedure Unit :=
  closeAll elsewhere r.samplers

end Registry

end CounterSampling
