import FlashBench.Clock.Measure

/-!
# Emulated clocks

A counter of any width that moves when it is read and when it is told to, a CPU clock that can be
switched, and a busy loop on that CPU: `cycles` cycles take `cycles / cpuHz` seconds of counter
time. What is less than a tick is carried over to the next loop.
-/

namespace FlashBench

/-- The counter, the CPU clock and the busy loop over both. -/
structure Clocks where
  info : CounterInfo
  /-- The counter, never above `info.maxCount`. -/
  counter : UInt32 := 0
  /-- Ticks by which a read moves the counter. -/
  readStep : UInt32 := 1
  /-- The frequency the CPU runs at. -/
  cpuHz : UInt32
  /-- Work not yet turned into ticks, in units of one tick divided by the CPU frequency. -/
  carried : Nat := 0
  /-- Reads so far. -/
  reads : Nat := 0
  /-- Reads that may be made; none for as many as one likes. -/
  readLimit : Option Nat := none
deriving DecidableEq, Repr, Inhabited

namespace Clocks

/-- The clocks with the counter at `start`, masked to its width. -/
def startingAt (clocks : Clocks) (start : UInt32) : Clocks :=
  { clocks with counter := start &&& clocks.info.maxCount }

/-- Moves the counter by `ticks`. -/
def advance (clocks : Clocks) (ticks : Nat) : Clocks :=
  let modulus := clocks.info.maxCount.toNat + 1
  { clocks with counter := UInt32.ofNat ((clocks.counter.toNat + ticks % modulus) % modulus) }

/-- Reads the counter, which then moves. -/
def read (clocks : Clocks) : UInt32 × Clocks :=
  (clocks.counter, { clocks.advance clocks.readStep.toNat with reads := clocks.reads + 1 })

/-- Another read is within the limit. -/
def mayRead (clocks : Clocks) : Bool := clocks.readLimit.all (clocks.reads < ·)

/-- Runs `cycles` cycles of work. A CPU that stands still is taken to run at one hertz. -/
def spin (clocks : Clocks) (cycles : UInt32) : Except Fault Clocks := do
  let cpuHz := max clocks.cpuHz.toNat 1
  let work ← Word.fit64 (cycles.toNat * clocks.info.hz.toNat + clocks.carried)
  return { clocks.advance (work / cpuHz) with carried := work % cpuHz }

/-- Counts reads anew. -/
def forgetReads (clocks : Clocks) : Clocks := { clocks with reads := 0 }

end Clocks

variable {σ : Type}

/-- The ticker of the clocks inside a larger hardware state. A read beyond the limit is not made. -/
def Ticker.ofClocks (get : σ → Clocks) (put : Clocks → σ → σ) : Ticker σ where
  info := return (get (← Act.state)).info
  read := do
    if (get (← Act.state)).mayRead then
      Act.changeGet fun s =>
        let (reading, clocks) := (get s).read
        (reading, put clocks s)
    else
      Act.fault .stuck

/-- The busy loop of the clocks inside a larger hardware state. -/
def spinClocks (get : σ → Clocks) (put : Clocks → σ → σ) (cycles : UInt32) : Act σ Unit := do
  let clocks ← Act.checked ((get (← Act.state)).spin cycles)
  Act.change (put clocks)

/-- Counter reads after which a wait for a wrap has certainly ended, if a read moves the counter
by one tick: one more than the values of the widest counter. -/
def enoughReads : Nat := Word.span32 + 1

end FlashBench
