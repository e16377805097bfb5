import CounterSampling.Device.Builder
import CounterSampling.Proofs.Packing.Fitting

/-!
# What a simulated device takes

A simulated device takes a set of counters on a GPU if it has all of them and can collect each, and
if they are not too many. So it takes with any set also every part of it.
-/

namespace CounterSampling.Device

variable {d : Device} {agent : AgentId} {ids : List CounterId}

/-- The counter of this number is there and can be collected. -/
def Collects (d : Device) (id : CounterId) : Prop :=
  ∃ c, d.counter? id = some c ∧ c.name ∉ d.rejected

theorem firstObstacle_eq_none_iff :
    d.firstObstacle ids = none ↔ ∀ id ∈ ids, d.Collects id := by
  induction ids with
  | nil => exact ⟨fun _ => nofun, fun _ => rfl⟩
  | cons id ids ih =>
    rw [List.forall_mem_cons, ← ih, firstObstacle]
    unfold Collects
    cases there : d.counter? id with
    | none => simp
    | some c => by_cases rejected : c.name ∈ d.rejected <;> simp [rejected]

/-- A device takes counters just if the agent is a GPU, each of them can be collected, and they are
not too many. -/
theorem verdict_taken_iff :
    d.verdict agent ids = .taken ↔
      (∃ a ∈ d.agents, a.id = agent ∧ a.isGpu = true) ∧ (∀ id ∈ ids, d.Collects id) ∧
        ids.length ≤ d.hwLimit := by
  have gpu : (d.agents.any fun a => decide (a.id = agent) && a.isGpu) = true ↔
      ∃ a ∈ d.agents, a.id = agent ∧ a.isGpu = true := by
    simp only [List.any_eq_true, Bool.and_eq_true, decide_eq_true_eq]
  rw [← gpu, ← firstObstacle_eq_none_iff, verdict, configure]
  cases d.agents.any fun a => decide (a.id = agent) && a.isGpu with
  | false => simp [ConfigureOutcome.verdict]
  | true =>
    cases d.firstObstacle ids with
    | some e => simp [ConfigureOutcome.verdict]
    | none =>
      by_cases few : ids.length ≤ d.hwLimit
      · simp [few, Nat.not_lt.2 few, ConfigureOutcome.verdict]
      · simp [few, Nat.lt_of_not_le few, ConfigureOutcome.verdict]

/-- A device takes with any set of counters every part of it. -/
theorem facts_downwardClosed (d : Device) (agent : AgentId) : d.facts.DownwardClosed agent := by
  intro ids part within taken
  change d.verdict agent part = .taken
  obtain ⟨gpu, collected, few⟩ := verdict_taken_iff.1 taken
  exact verdict_taken_iff.2 ⟨gpu, fun id mem => collected id (within.subset mem),
    Nat.le_trans within.length_le few⟩

/-- A GPU with counters that can be collected, one that cannot and one that gives more records than
a word can count. -/
def mixedGpu : Builder :=
  let gpu : AgentInfo := ⟨⟨1⟩, .gpu, "gfx942", 10001, 128, 1⟩
  (((((Builder.agent {} gpu).counter "CYCLES" [] 1.0).counter "BUSY" [] 1.0).counter "HUGE"
    [("XCC", 0xffffffffffffffff), ("SE", 4)] 1.0).counter "WAVES" [("XCC", 2)] 1.0).counter "LEVEL"
    [] 1.0 |>.reject "BUSY"

end CounterSampling.Device
