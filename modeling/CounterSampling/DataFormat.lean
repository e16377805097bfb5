import CounterSampling.Counter
import CounterSampling.Report
import CounterSampling.Json.Reader
import CounterSampling.Json.Writer

/-!
# The data format of the domain types

The shape of each type that is written to or read from data files: member names, which of them may
be left out, and what a member that is left out stands for.
-/

namespace CounterSampling

open Json

/-- The shape of a 64-bit word. -/
abbrev wordShape : Shape := .number UInt64.size

/-- The shape of a 32-bit word. -/
abbrev halfWordShape : Shape := .number UInt32.size

def AgentKind.encode : AgentKind → Fin 2
  | .cpu => 0
  | .gpu => 1

def AgentKind.decode : Fin 2 → AgentKind
  | 0 => .cpu
  | 1 => .gpu

def AgentInfo.codec : Codec AgentInfo where
  shape := .record
    (.required "id" wordShape <|
      .required "kind" (.choice ["Cpu", "Gpu"]) <|
      .required "name" .text <|
      .required "gpu_id" wordShape <|
      .required "drm_render_minor" halfWordShape <|
      .required "logical_node_id" halfWordShape .nil)
  encode a :=
    (a.id.val.toFin, a.kind.encode, a.name, a.gpuId.toFin, a.renderMinor.toFin,
      a.logicalNode.toFin, ())
  decode := fun (id, kind, name, gpuId, renderMinor, logicalNode, _) =>
    ⟨⟨.ofFin id⟩, .decode kind, name, .ofFin gpuId, .ofFin renderMinor, .ofFin logicalNode⟩

def Dimension.codec : Codec Dimension where
  shape := .record
    (.required "id" wordShape <|
      .required "name" .text <|
      .required "instance_size" wordShape .nil)
  encode d := (d.id.val.toFin, d.name, d.size.toFin, ())
  decode := fun (id, name, size, _) => ⟨⟨.ofFin id⟩, name, .ofFin size⟩

def Counter.codec : Codec Counter where
  shape := .record
    (.required "id" wordShape <|
      .required "name" .text <|
      .required "dimensions" (.sequence Dimension.codec.shape) .nil)
  encode c := (c.id.val.toFin, c.name, c.dimensions.map Dimension.codec.encode, ())
  decode := fun (id, name, dims, _) => ⟨⟨.ofFin id⟩, name, dims.map Dimension.codec.decode⟩

def Record.codec : Codec Record where
  shape := .record
    (.required "instance" wordShape <|
      .required "counter" wordShape <|
      .required "value" .float .nil)
  encode r := (r.instanceIndex.toFin, r.counter.val.toFin, r.value, ())
  decode := fun (instanceIndex, counter, value, _) =>
    ⟨.ofFin instanceIndex, ⟨.ofFin counter⟩, value⟩

def SectionStatus.encode : SectionStatus → Fin 2
  | .ok => 0
  | .error => 1

def SectionStatus.decode : Fin 2 → SectionStatus
  | 0 => .ok
  | 1 => .error

def Metric.codec : Codec Metric where
  shape := .record (.required "Field" .text <| .required "Value" .text .nil)
  encode m := (m.field, m.value, ())
  decode := fun (field, value, _) => ⟨field, value⟩

/-- A list, left out if it is empty. -/
def unlessEmpty {α : Type} (xs : List α) : Option (List α) :=
  if xs.isEmpty then none else some xs

def GpuReport.codec : Codec GpuReport where
  shape := .record
    (.required "GpuId" .text <|
      .required "DrmRenderId" .text <|
      .required "LogicalNodeId" .text <|
      .required "Metrics" (.sequence Metric.codec.shape) <|
      .required "Status" (.choice ["ok", "error"]) <|
      .optional "Error" (.nullable .text) <|
      .optional "DroppedCounters" (.sequence .text) <|
      .optional "UnsupportedCounters" (.sequence .text) .nil)
  encode g :=
    (g.gpuId, g.renderId, g.logicalNode, g.metrics.map Metric.codec.encode, g.status.encode,
      g.error.map some, unlessEmpty g.dropped, unlessEmpty g.unsupported, ())
  decode := fun (gpuId, renderId, logicalNode, metrics, status, error, dropped, unsupported, _) =>
    { gpuId, renderId, logicalNode
      metrics := metrics.map Metric.codec.decode
      status := .decode status
      error := error.join
      dropped := dropped.getD []
      unsupported := unsupported.getD [] }

def RunReport.codec : Codec RunReport where
  shape := .record
    (.required "GpuMetrics" (.sequence GpuReport.codec.shape) <|
      .optional "Host" (.nullable .text) <|
      .required "Timestamp" .text <|
      .required "DurationUs" wordShape <|
      .optional "Simulated" .flag .nil)
  encode r :=
    (r.sections.map GpuReport.codec.encode, r.host.map some, r.timestamp, r.durationUs.toFin,
      if r.simulated then some true else none, ())
  decode := fun (sections, host, timestamp, durationUs, simulated, _) =>
    { sections := sections.map GpuReport.codec.decode
      host := host.join
      timestamp
      durationUs := .ofFin durationUs
      simulated := simulated.getD false }

/-- The text of a report file. -/
def RunReport.fileText (r : RunReport) : String :=
  RunReport.codec.pretty r ++ "\n"

end CounterSampling
