import FlashBench.Clock.Measure

/-!
# Scripted counters

A counter that answers a given list of readings, and a busy loop that only adds up its cycles.
-/

namespace FlashBench

/-- The readings still to come, the reads made, and the cycles spun. -/
structure Script where
  info : CounterInfo
  /-- Readings to come. The last one repeats for ever; a script without readings answers zero. -/
  readings : List UInt32
  /-- Reads so far. -/
  reads : Nat := 0
  /-- Reads that may be made. -/
  readLimit : Nat
  /-- Cycles spun so far, modulo the span of a word. -/
  spun : UInt32 := 0
deriving DecidableEq, Repr, Inhabited

namespace Script

/-- The next reading. -/
def read (script : Script) : UInt32 × Script :=
  let script := { script with reads := script.reads + 1 }
  match script.readings with
  | [] => (0, script)
  | [last] => (last, script)
  | reading :: rest => (reading, { script with readings := rest })

/-- The ticker of a script. A read beyond the limit is not made. -/
def ticker : Ticker Script where
  info := return (← Act.state).info
  read := do
    let script ← Act.state
    if script.reads < script.readLimit then Act.changeGet Script.read else Act.fault .stuck

/-- A busy loop that adds up its cycles. -/
def countCycles (cycles : UInt32) : Act Script Unit :=
  Act.change fun script => { script with spun := script.spun + cycles }

/-- A busy loop the bench does not see. -/
def ignoreCycles (_cycles : UInt32) : Act Script Unit := pure ()

/-- The timer of a script, with the busy loop that is counted or the one that is not. -/
def timer (counted : Bool) (patience : Nat) : CycleTimer Script where
  ticker := ticker
  spin := if counted then countCycles else ignoreCycles
  patience := patience

end Script

end FlashBench
