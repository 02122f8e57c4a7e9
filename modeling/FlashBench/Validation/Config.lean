/-!
# Validator settings
-/

namespace FlashBench

/-- What a validation run may touch, and what it measures with. -/
structure ValidatorConfig where
  /-- Busy-loop cycles timed before and after the flash work. -/
  cycles : UInt32 := 10000000
  /-- Ticks that must be measurable before the counter wraps. -/
  windowTicks : UInt32 := 35000
  /-- The second sample may differ from the first by this fraction of it. -/
  driftDivisor : UInt32 := 200
  /-- Sectors that start below this address are never erased. -/
  reservedEnd : UInt32 := 0
  firstPattern : UInt8 := 0xCE
  secondPattern : UInt8 := 0xAC
deriving DecidableEq, Repr, Inhabited

end FlashBench
