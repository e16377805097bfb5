import CounterSampling.Device.Mi300
import CounterSampling.Proofs.Device.Plain
import Mathlib.Data.List.Nodup

/-!
# The simulated MI300-class host

As long as its render nodes can be numbered, the host can be built with any number of GPUs. It is a
plain device that has its GPUs after a CPU and the counters of the table, each with its own value.
Main statements: `mi300_eq` and `mi300Host_plain`.
-/

namespace CounterSampling.Device

/-- The GPU that is added after so many others. -/
def mi300Gpu (i : Nat) : AgentInfo where
  id := ⟨.ofNat (i + 1)⟩
  kind := .gpu
  name := "gfx942"
  gpuId := .ofNat (Builder.gpuNumberBase + (i + 1))
  renderMinor := .ofNat (Builder.renderBase + i)
  logicalNode := .ofNat (i + 1)

def mi300Gpus (n : Nat) : List AgentInfo :=
  (List.range n).map mi300Gpu

theorem length_mi300Gpus (n : Nat) : (mi300Gpus n).length = n := by
  rw [mi300Gpus, List.length_map, List.length_range]

theorem mi300Gpus_succ (n : Nat) : mi300Gpus (n + 1) = mi300Gpus n ++ [mi300Gpu n] := by
  rw [mi300Gpus, List.range_succ, List.map_append]
  rfl

theorem isGpu_of_mem_mi300Gpus {n : Nat} : ∀ a ∈ mi300Gpus n, a.isGpu = true := by
  intro a mem
  obtain ⟨i, -, rfl⟩ := List.mem_map.1 mem
  rfl

/-- The counter that is added after so many others. -/
def mi300Counter (k : Nat) (entry : String × List (String × UInt64)) : DeviceCounter where
  id := ⟨.ofNat (Builder.counterBase + k)⟩
  name := entry.1
  dimensions := Builder.numberDimensions 0 entry.2
  value := (UInt64.ofNat (k + 1)).toFloat * 10.0

/-- The counters of the host. -/
def mi300Table : List DeviceCounter :=
  mi300Counters.mapIdx mi300Counter

/-- The host with `n` GPUs. -/
def mi300Host (n : Nat) : Device where
  agents := ⟨⟨0⟩, .cpu, "cpu", 0, 0, 0⟩ :: mi300Gpus n
  counters := mi300Table
  hwLimit := mi300Limit
  rejected := []
  maxRecords := none
  catalogFailures := []
  failEnumeration := false

/-! ## Building the host -/

/-- The most GPUs whose render nodes can be numbered. -/
def mostGpus : Nat := UInt32.size - Builder.renderBase

namespace Builder

theorem gpu_eq {b : Builder} {i : Nat} (before : b.device.agents.countP AgentInfo.isGpu = i)
    (few : i < mostGpus) : b.gpu ⟨.ofNat (i + 1)⟩ = .ok (b.agent (mi300Gpu i)) := by
  unfold mostGpus Builder.renderBase UInt32.size at few
  have index : i % UInt32.size = i := Nat.mod_eq_of_lt (by unfold UInt32.size; omega)
  have number : (UInt64.ofNat (i + 1)).toNat = i + 1 :=
    UInt64.toNat_ofNat_of_lt (by unfold UInt64.size; omega)
  have gpuNumber : ¬gpuNumberBase + (i + 1) ≥ UInt64.size := by
    unfold gpuNumberBase UInt64.size
    omega
  have renderNumber : ¬renderBase + i ≥ UInt32.size := by
    unfold renderBase UInt32.size
    omega
  simp only [gpu, before, index, number, if_neg gpuNumber, if_neg renderNumber]
  rfl

/-- GPUs are added one after another. -/
theorem addGpus_eq {b : Builder} (none : b.device.agents.countP AgentInfo.isGpu = 0) {n : Nat}
    (few : n ≤ mostGpus) :
    b.addGpus n = .ok { b with
      device := { b.device with agents := b.device.agents ++ mi300Gpus n } } := by
  induction n with
  | zero =>
    rw [mi300Gpus, List.range_zero, List.map_nil, List.append_nil]
    rfl
  | succ n ih =>
    have before : (b.device.agents ++ mi300Gpus n).countP AgentInfo.isGpu = n := by
      rw [List.countP_append, none, List.countP_eq_length.2 isGpu_of_mem_mi300Gpus,
        length_mi300Gpus, Nat.zero_add]
    have added := ih (Nat.le_of_succ_le few)
    unfold addGpus at added ⊢
    rw [List.range_succ, List.foldlM_append, added]
    simp only [List.foldlM_cons, List.foldlM_nil, bind_pure]
    change gpu _ _ = _
    rw [gpu_eq before few, mi300Gpus_succ, ← List.append_assoc]
    rfl

/-- Counters are added one after another. -/
theorem addCounters_eq {b : Builder} (none : b.device.counters = [])
    (table : List (String × List (String × UInt64))) :
    b.addCounters table =
      { b with device := { b.device with counters := table.mapIdx mi300Counter } } := by
  induction table using List.reverseRecOn with
  | nil =>
    rw [List.mapIdx_nil, ← none]
    rfl
  | append_singleton table entry ih =>
    unfold addCounters at ih ⊢
    rw [List.zipIdx_append, List.foldl_append, ih, List.mapIdx_append]
    simp [counter, mi300Counter]

end Builder

/-- The host can be built as long as its render nodes can be numbered. -/
theorem mi300_eq {n : Nat} (few : n ≤ mostGpus) : mi300 n = .ok ⟨mi300Host n, {}⟩ := by
  unfold mi300
  dsimp only
  rw [Builder.addGpus_eq rfl few]
  change Except.ok (Builder.addCounters _ mi300Counters) = _
  rw [Builder.addCounters_eq rfl]
  rfl

/-! ## What the host is like -/

theorem mi300Host_gpus (n : Nat) : (mi300Host n).agents.filter AgentInfo.isGpu = mi300Gpus n :=
  List.filter_eq_self.2 isGpu_of_mem_mi300Gpus

/-- The numbers of a GPU follow from its place. -/
theorem mi300Gpu_numbers {n : Nat} (few : n ≤ mostGpus) {i : Nat} (within : i < n) :
    (mi300Gpu i).id.val.toNat = i + 1 ∧ (mi300Gpu i).gpuId.toNat = 10000 + (i + 1) ∧
      (mi300Gpu i).renderMinor.toNat = 128 + i ∧ (mi300Gpu i).logicalNode.toNat = i + 1 := by
  unfold mostGpus Builder.renderBase UInt32.size at few
  have number {m : Nat} (least : m ≤ n + 10000) : (UInt64.ofNat m).toNat = m :=
    UInt64.toNat_ofNat_of_lt (by unfold UInt64.size; omega)
  have half {m : Nat} (least : m < n + 128) : (UInt32.ofNat m).toNat = m :=
    UInt32.toNat_ofNat_of_lt (by unfold UInt32.size; omega)
  exact ⟨number (by omega), number (m := 10000 + (i + 1)) (by omega),
    half (m := 128 + i) (by omega), half (by omega)⟩

/-- GPUs are numbered from one. -/
theorem mi300Gpus_numbers {n : Nat} (few : n ≤ mostGpus) :
    (mi300Gpus n).map (fun a => a.id.val.toNat) = (List.range n).map fun i => i + 1 := by
  rw [mi300Gpus, List.map_map]
  exact List.map_congr_left fun i mem => (mi300Gpu_numbers few (List.mem_range.1 mem)).1

theorem mi300Host_agents_nodup {n : Nat} (few : n ≤ mostGpus) :
    ((mi300Host n).agents.map fun a => a.id).Nodup := by
  have numbers : ((mi300Host n).agents.map fun a => a.id.val.toNat) = List.range (n + 1) := by
    rw [List.range_succ_eq_map, ← mi300Gpus_numbers few]
    rfl
  refine List.Nodup.of_map (fun id : AgentId => id.val.toNat) ?_
  rw [List.map_map]
  exact numbers ▸ List.nodup_range

theorem mi300Table_nodup : (mi300Table.map fun c => c.id).Nodup := by
  decide +kernel

/-- Each counter of the table gives at most 128 records. -/
theorem mi300Counters_sized : ∀ entry ∈ mi300Counters,
    ∃ n ≤ 128, recordCount? (Builder.numberDimensions 0 entry.2) = some n := by
  decide +kernel

theorem mi300Host_plain {n : Nat} (few : n ≤ mostGpus) : (mi300Host n).Plain 128 where
  enumerates := rfl
  lists := rfl
  takes := rfl
  unlimited := rfl
  agents := mi300Host_agents_nodup few
  counters := mi300Table_nodup
  sized := by
    intro c mem
    obtain ⟨k, inside, rfl⟩ := List.mem_mapIdx.1 mem
    obtain ⟨n, few, size⟩ := mi300Counters_sized _ (List.getElem_mem inside)
    exact ⟨n, size, few⟩
  limit := show 0 < mi300Limit by decide
  buffers := show Record.bytes * ((mi300Limit + 1) * 128) ≤ Sampler.maxBufferBytes by decide

end CounterSampling.Device
