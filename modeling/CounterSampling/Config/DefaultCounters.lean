/-!
# The counters sampled when none are asked for
-/

namespace CounterSampling

/-- The baseline list of counters. -/
def defaultCounters : List String :=
  ["GRBM_GUI_ACTIVE",
    "SQ_WAVES",
    "GRBM_COUNT",
    "GPU_UTIL",
    "FETCH_SIZE",
    "WRITE_SIZE",
    "TOTAL_16_OPS",
    "TOTAL_32_OPS",
    "TOTAL_64_OPS",
    "CPC_CPC_STAT_BUSY",
    "CPC_CPC_STAT_IDLE",
    "CPC_CPC_STAT_STALL",
    "CPC_CPC_TCIU_BUSY",
    "CPC_CPC_TCIU_IDLE",
    "CPC_CPC_UTCL2IU_BUSY",
    "CPC_CPC_UTCL2IU_IDLE",
    "CPC_CPC_UTCL2IU_STALL",
    "CPC_ME1_BUSY_FOR_PACKET_DECODE",
    "CPC_ME1_DC0_SPI_BUSY",
    "CPC_UTCL1_STALL_ON_TRANSLATION",
    "CPC_ALWAYS_COUNT",
    "CPC_ADC_VALID_CHUNK_NOT_AVAIL",
    "CPC_ADC_DISPATCH_ALLOC_DONE",
    "CPC_ADC_VALID_CHUNK_END",
    "CPC_SYNC_FIFO_FULL_LEVEL",
    "CPC_SYNC_FIFO_FULL",
    "CPC_GD_BUSY",
    "CPC_TG_SEND",
    "CPC_WALK_NEXT_CHUNK",
    "CPC_STALLED_BY_SE0_SPI",
    "CPC_STALLED_BY_SE1_SPI",
    "CPC_STALLED_BY_SE2_SPI",
    "CPC_STALLED_BY_SE3_SPI",
    "CPC_LTE_ALL",
    "CPC_SYNC_WRREQ_FIFO_BUSY",
    "CPC_CANE_BUSY",
    "CPC_CANE_STALL",
    "CPF_CMP_UTCL1_STALL_ON_TRANSLATION",
    "CPF_CPF_STAT_BUSY",
    "CPF_CPF_STAT_IDLE",
    "CPF_CPF_STAT_STALL",
    "CPF_CPF_TCIU_BUSY",
    "CPF_CPF_TCIU_IDLE",
    "CPF_CPF_TCIU_STALL"]

example : defaultCounters.length = 44 := rfl

end CounterSampling
