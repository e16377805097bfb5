import CounterSampling.Device.Builder

/-!
# A simulated MI300-class host

One CPU and any number of GPUs with the counters of a data-center accelerator. A configuration holds
at most seven counters, so the usual list of counters needs several profiles.
-/

namespace CounterSampling.Device

/-- The number of dies, as a dimension. -/
def xcc : String × UInt64 := ("XCC", 8)

/-- The number of shader engines, as a dimension. -/
def shaderEngine : String × UInt64 := ("SE", 4)

/-- The number of cache channels, as a dimension. -/
def cacheChannel : String × UInt64 := ("TCC_CHANNEL", 16)

/-- The counters of the device and their dimensions. -/
def mi300Counters : List (String × List (String × UInt64)) :=
  [("GRBM_GUI_ACTIVE", []),
    ("GRBM_COUNT", []),
    ("GPU_UTIL", []),
    ("SQ_WAVES", [xcc, shaderEngine]),
    ("SQ_INSTS_VALU", [xcc, shaderEngine]),
    ("SQ_BUSY_CYCLES", [xcc]),
    ("FETCH_SIZE", []),
    ("WRITE_SIZE", []),
    ("TCC_HIT", [xcc, cacheChannel]),
    ("TCC_MISS", [xcc, cacheChannel]),
    ("TOTAL_16_OPS", []),
    ("TOTAL_32_OPS", []),
    ("TOTAL_64_OPS", []),
    ("CPC_CPC_STAT_BUSY", [xcc]),
    ("CPC_CPC_STAT_IDLE", [xcc]),
    ("CPC_CPC_STAT_STALL", [xcc]),
    ("CPC_CPC_TCIU_BUSY", [xcc]),
    ("CPC_CPC_TCIU_IDLE", [xcc]),
    ("CPC_CPC_UTCL2IU_BUSY", [xcc]),
    ("CPC_CPC_UTCL2IU_IDLE", [xcc]),
    ("CPC_CPC_UTCL2IU_STALL", [xcc]),
    ("CPC_ME1_BUSY_FOR_PACKET_DECODE", [xcc]),
    ("CPC_ME1_DC0_SPI_BUSY", [xcc]),
    ("CPC_UTCL1_STALL_ON_TRANSLATION", [xcc]),
    ("CPC_ALWAYS_COUNT", [xcc]),
    ("CPC_ADC_VALID_CHUNK_NOT_AVAIL", [xcc]),
    ("CPC_ADC_DISPATCH_ALLOC_DONE", [xcc]),
    ("CPC_ADC_VALID_CHUNK_END", [xcc]),
    ("CPC_SYNC_FIFO_FULL_LEVEL", [xcc]),
    ("CPC_SYNC_FIFO_FULL", [xcc]),
    ("CPC_GD_BUSY", [xcc]),
    ("CPC_TG_SEND", [xcc]),
    ("CPC_WALK_NEXT_CHUNK", [xcc]),
    ("CPC_STALLED_BY_SE0_SPI", [xcc]),
    ("CPC_STALLED_BY_SE1_SPI", [xcc]),
    ("CPC_STALLED_BY_SE2_SPI", [xcc]),
    ("CPC_STALLED_BY_SE3_SPI", [xcc]),
    ("CPC_LTE_ALL", [xcc]),
    ("CPC_SYNC_WRREQ_FIFO_BUSY", [xcc]),
    ("CPC_CANE_BUSY", [xcc]),
    ("CPC_CANE_STALL", [xcc]),
    ("CPF_CMP_UTCL1_STALL_ON_TRANSLATION", [xcc]),
    ("CPF_CPF_STAT_BUSY", [xcc]),
    ("CPF_CPF_STAT_IDLE", [xcc]),
    ("CPF_CPF_STAT_STALL", [xcc]),
    ("CPF_CPF_TCIU_BUSY", [xcc]),
    ("CPF_CPF_TCIU_IDLE", [xcc]),
    ("CPF_CPF_TCIU_STALL", [xcc])]

/-- The most counters one configuration of the device holds. -/
def mi300Limit : Nat := 7

/-- Add GPUs numbered from one. -/
def Builder.addGpus (b : Builder) (n : Nat) : Except Abort Builder :=
  (List.range n).foldlM (fun b i => b.gpu ⟨.ofNat (i + 1)⟩) b

/-- Add counters whose records have the values 10, 20, 30, … -/
def Builder.addCounters (b : Builder) (counters : List (String × List (String × UInt64))) :
    Builder :=
  (counters.zipIdx).foldl
    (fun b c => b.counter c.1.1 c.1.2 ((UInt64.ofNat (c.2 + 1)).toFloat * 10.0)) b

/-- A host with one CPU, numbered zero, and `n` GPUs. -/
def mi300 (n : Nat) : Except Abort Builder := do
  let b := (({} : Builder).cpu ⟨0⟩).hwLimit mi300Limit
  return (← b.addGpus n).addCounters mi300Counters

end CounterSampling.Device
