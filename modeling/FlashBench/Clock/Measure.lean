import FlashBench.Clock.Counter

/-!
# Timing a busy loop

The elapsed time of a fixed amount of work. When the clock of the CPU changes between two
measurements of the same work, the elapsed time changes with it.
-/

namespace FlashBench

variable {σ : Type}

/-- Two masked readings around some work. -/
structure TimerSample where
  start : UInt32
  stop : UInt32
  info : CounterInfo
deriving DecidableEq, Repr, Inhabited

namespace TimerSample

/-- Ticks from the first reading to the second, right across one wrap. -/
def elapsedTicks (sample : TimerSample) : UInt32 :=
  (sample.stop - sample.start) &&& sample.info.maxCount

/-- Elapsed microseconds. Each reading is converted on its own; across a wrap, which means that the
sample was not protected, the ticks in between are converted instead, and the log says so. -/
def elapsedMicros (sample : TimerSample) : Act σ Nat := do
  let hz := sample.info.hz
  if sample.start ≤ sample.stop then
    Act.checked (Word.minus (ticksToMicros sample.stop hz) (ticksToMicros sample.start hz))
  else
    Act.note .warn
      (s!"ticker wrapped during measurement ({Text.hex sample.start.toNat} -> "
        ++ s!"{Text.hex sample.stop.toNat})")
    return ticksToMicros sample.elapsedTicks hz

end TimerSample

/-- A counter and a busy loop to be timed against it. -/
structure CycleTimer (σ : Type) where
  ticker : Ticker σ
  /-- Work of a given number of cycles. -/
  spin : UInt32 → Act σ Unit
  /-- Counter reads that a wait for a wrap may take. -/
  patience : Nat

namespace CycleTimer

/-- Makes sure that `window` ticks can be measured from now on. -/
def protect (timer : CycleTimer σ) (window : UInt32) : Act σ Protection :=
  overflowProtect timer.ticker timer.patience window

/-- Reads the counter before and after `cycles` cycles of work. -/
def sample (timer : CycleTimer σ) (cycles : UInt32) : Act σ TimerSample := do
  let info ← timer.ticker.info
  let start ← timer.ticker.read
  timer.spin cycles
  let stop ← timer.ticker.read
  return { start := start &&& info.maxCount, stop := stop &&& info.maxCount, info }

/-- Microseconds that `cycles` cycles of work take. -/
def measure (timer : CycleTimer σ) (cycles : UInt32) : Act σ Nat := do
  (← timer.sample cycles).elapsedMicros

/-- The timer of a counter that stands still at zero, as one of zero hertz does, with a busy loop
that the counter does not see. -/
def standing (bits : UInt8) (patience : Nat) : CycleTimer σ where
  ticker := { info := return { hz := 0, bits }, read := return 0 }
  spin _ := pure ()
  patience := patience

end CycleTimer

end FlashBench
