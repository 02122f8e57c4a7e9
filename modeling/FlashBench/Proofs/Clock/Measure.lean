import FlashBench.Clock.Measure
import FlashBench.Proofs.Triple
import FlashBench.Proofs.Words

/-!
# Timers and what they leave alone

A timer is three calls: what the counter is, a reading of it, and a stretch of work. What these
calls keep, protecting a window and taking a sample keep as well (`Keeps.protect`, `Keeps.sample`),
and turning a sample into microseconds never fails (`elapsedMicros_ends`).
-/

namespace FlashBench

variable {σ : Type} {inv P : σ → Prop}

theorem ticksToMicros_mono {a b : UInt32} (h : a ≤ b) (hz : UInt32) :
    ticksToMicros a hz ≤ ticksToMicros b hz := by
  unfold ticksToMicros
  by_cases hstill : hz = 0
  · rw [if_pos hstill]
    exact Nat.zero_le _
  · rw [if_neg hstill, if_neg hstill]
    exact Nat.div_le_div_right (Nat.mul_le_mul_right _ (UInt32.le_iff_toNat_le.mp h))

/-- Microseconds of a sample. They depend on the two readings only. -/
def TimerSample.micros (sample : TimerSample) : Nat :=
  if sample.start ≤ sample.stop then
    ticksToMicros sample.stop sample.info.hz - ticksToMicros sample.start sample.info.hz
  else ticksToMicros sample.elapsedTicks sample.info.hz

/-- The later reading is never converted to less than the earlier one. -/
theorem TimerSample.elapsedMicros_ends (sample : TimerSample) (P : σ → Prop) :
    Act.Ends P sample.elapsedMicros sample.micros P := by
  unfold elapsedMicros micros
  by_cases hle : sample.start ≤ sample.stop
  · simp only [if_pos hle, Word.minus_of_le (ticksToMicros_mono hle _)]
    exact .checked _
  · simp only [if_neg hle]
    exact .bind (.note _ _) (.pure _)

theorem TimerSample.elapsedMicros_keeps (sample : TimerSample) :
    Act.Keeps inv sample.elapsedMicros :=
  (Act.Leads.of_ends (sample.elapsedMicros_ends inv)).post fun _ _ h => h.2

namespace CycleTimer

/-- The calls of the timer keep `inv`, however they end. -/
structure Keeps (inv : σ → Prop) (timer : CycleTimer σ) : Prop where
  info : Act.Keeps inv timer.ticker.info
  read : Act.Keeps inv timer.ticker.read
  spin : ∀ cycles, Act.Keeps inv (timer.spin cycles)

variable {timer : CycleTimer σ}

section Protect

variable {ticker : Ticker σ} (hinfo : Act.Keeps inv ticker.info) (hread : Act.Keeps inv ticker.read)

include hread

/-- The induction is on the readings that may still be made. -/
theorem awaitBelow_keeps (maxCount now : UInt32) (patience : Nat) :
    Act.Keeps inv (awaitBelow ticker maxCount now patience) := by
  induction patience with
  | zero => exact .fault _
  | succ patience ih => exact hread.bind fun _ => .ite (fun _ => ih) fun _ => .pure _

include hinfo

/-- A window is protected by asking and reading, without any work. -/
theorem overflowProtect_keeps (patience : Nat) (window : UInt32) :
    Act.Keeps inv (overflowProtect ticker patience window) := by
  unfold overflowProtect
  refine hinfo.bind fun info => .ite (fun _ => .pure _) fun _ => ?_
  refine hread.bind fun reading => .ite (fun _ => .pure _) fun _ => ?_
  exact .bind (.note _ _) fun _ => .bind (awaitBelow_keeps hread _ _ _) fun _ => .pure _

end Protect

theorem Keeps.protect (h : timer.Keeps inv) (window : UInt32) :
    Act.Keeps inv (timer.protect window) :=
  overflowProtect_keeps h.info h.read _ _

theorem Keeps.sample (h : timer.Keeps inv) (cycles : UInt32) :
    Act.Keeps inv (timer.sample cycles) :=
  h.info.bind fun _ => h.read.bind fun _ => (h.spin cycles).bind fun _ =>
    h.read.bind fun _ => .pure _

end CycleTimer

end FlashBench
