import FlashBench.Text.Layout
import FlashBench.Word

/-!
# Tick counters

A free-running counter counts up at a fixed frequency and wraps to zero after `maxCount`. Only its
width in bits and its frequency are known; readings are masked to the width by whoever reads.
-/

namespace FlashBench

/-- What is known of a counter. -/
structure CounterInfo where
  /-- Counting frequency. -/
  hz : UInt32
  /-- Width of the counter. More than 32 bits count as 32. -/
  bits : UInt8
deriving DecidableEq, Repr, Inhabited

/-- The largest value the counter reaches before it wraps. -/
def CounterInfo.maxCount (info : CounterInfo) : UInt32 :=
  if info.bits < 32 then (1 <<< info.bits.toUInt32) - 1 else Word.max32

/-- Microseconds in `ticks` ticks, rounded down; zero for a counter that stands still. -/
def ticksToMicros (ticks hz : UInt32) : Nat :=
  if hz = 0 then 0 else ticks.toNat * 1000000 / hz.toNat

/-- A counter on hardware `σ`. -/
structure Ticker (σ : Type) where
  info : Act σ CounterInfo
  read : Act σ UInt32

/-- How an overflow-protected wait ended. -/
inductive Protection where
  /-- The counter was far enough from its maximum already. -/
  | headroom
  /-- The counter was close to its maximum, and has wrapped since. -/
  | wrapped
  /-- The counter has no bits and always reads zero. -/
  | stopped
deriving DecidableEq, Repr, Inhabited

/-- The name of the protection in the log. -/
def Protection.label : Protection → String
  | headroom => "Headroom"
  | wrapped => "Wrapped"
  | stopped => "Stopped"

variable {σ : Type}

/-- Reads the counter until a reading lies below `now`, at most `patience` times. -/
def awaitBelow (ticker : Ticker σ) (maxCount now : UInt32) : Nat → Act σ Unit
  | 0 => Act.fault .stuck
  | patience + 1 => do
    let reading ← ticker.read
    if reading &&& maxCount ≥ now then awaitBelow ticker maxCount now patience

/-- Makes sure that more than `window` ticks pass before the counter wraps: when it stands too
close to its maximum, waits until it has wrapped. The wait takes at most `patience` reads; one
that needs more is a fault. -/
def overflowProtect (ticker : Ticker σ) (patience : Nat) (window : UInt32) : Act σ Protection := do
  let maxCount := (← ticker.info).maxCount
  if maxCount = 0 then return .stopped
  let now := (← ticker.read) &&& maxCount
  if maxCount - now > window then return .headroom
  Act.note .debug
    s!"ticker at {Text.hex now.toNat} of {Text.hex maxCount.toNat}, waiting for wraparound"
  awaitBelow ticker maxCount now patience
  return .wrapped

end FlashBench
