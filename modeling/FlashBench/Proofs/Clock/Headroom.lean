import FlashBench.Proofs.Clock.Span
import FlashBench.Proofs.Clock.Wraparound

/-!
# Room ahead of a counter

As long as a counter has room ahead of it (`Clocks.Ahead`), it does not matter by how much a reading
moves it, not even whether it moves it at all: a window that fits in the room is protected by the one
reading that finds it (`CycleTimer.protect_headroom`), and a sample is taken in any case
(`CycleTimer.sample_ends`). Each reading and each piece of work takes its ticks from the room.
-/

namespace FlashBench

namespace Clocks

variable {clocks : Clocks} {room : Nat}

/-- The clocks after `cycles` cycles of work. -/
def worked (clocks : Clocks) (cycles : UInt32) : Clocks :=
  { clocks.advance (workTicks clocks.info clocks.cpuHz cycles clocks.carried) with
    carried := workCarried clocks.info clocks.cpuHz cycles clocks.carried }

/-- The clocks after a sample: work between two readings. -/
def sampled (clocks : Clocks) (cycles : UInt32) : Clocks := (clocks.read.2.worked cycles).read.2

/-- Clocks that can be read and put to work, with `room` ticks ahead before they wrap. -/
structure Ahead (room : Nat) (clocks : Clocks) : Prop where
  readLimit : clocks.readLimit = none
  carried : clocks.carried < Word.span32
  room : clocks.counter.toNat + room ≤ clocks.info.maxCount.toNat

theorem Ahead.mono {less : Nat} (h : clocks.Ahead room) (hle : less ≤ room) : clocks.Ahead less :=
  ⟨h.readLimit, h.carried, Nat.le_trans (Nat.add_le_add_left hle _) h.room⟩

/-- The room is counted in ticks, so the frequency of the CPU has no part in it. -/
theorem Ahead.switch (h : clocks.Ahead room) (cpuHz : UInt32) :
    ({ clocks with cpuHz } : Clocks).Ahead room :=
  ⟨h.readLimit, h.carried, h.room⟩

theorem Ahead.readable (h : clocks.Ahead room) : clocks.Readable :=
  ⟨UInt32.le_iff_toNat_le.mpr (Nat.le_trans (Nat.le_add_right _ _) h.room), h.readLimit⟩

theorem Ahead.advance {ticks : Nat} (h : clocks.Ahead (ticks + room)) :
    (clocks.advance ticks).Ahead room where
  readLimit := h.readLimit
  carried := h.carried
  room := by
    have hroom := h.room
    rw [advance_toNat_counter, Nat.mod_eq_of_lt (by omega)]
    show _ ≤ clocks.info.maxCount.toNat
    omega

theorem Ahead.read (h : clocks.Ahead (clocks.readStep.toNat + room)) :
    clocks.read.2.Ahead room :=
  ⟨h.readLimit, h.carried, h.advance.room⟩

theorem worked_carried_lt (clocks : Clocks) (cycles : UInt32) :
    (clocks.worked cycles).carried < Word.span32 :=
  Nat.lt_of_lt_of_le (Nat.mod_lt _ (Nat.lt_of_lt_of_le Nat.one_pos (Nat.le_max_right _ _)))
    (Nat.max_le.mpr ⟨Nat.le_of_lt (Word.toNat_lt_span32 clocks.cpuHz), by decide⟩)

theorem Ahead.worked {cycles : UInt32}
    (h : clocks.Ahead (workTicks clocks.info clocks.cpuHz cycles clocks.carried + room)) :
    (clocks.worked cycles).Ahead room :=
  ⟨h.readLimit, clocks.worked_carried_lt cycles, h.advance.room⟩

/-- A sample takes two readings and its work from the room. -/
theorem Ahead.sampled {cycles : UInt32} (h : clocks.Ahead (2 * clocks.readStep.toNat +
    workTicks clocks.info clocks.cpuHz cycles clocks.carried + room)) :
    (clocks.sampled cycles).Ahead room := by
  -- in the order in which they are taken: a reading, the work, a reading
  have hordered : clocks.Ahead (clocks.readStep.toNat + (workTicks clocks.info clocks.cpuHz cycles
      clocks.carried + (clocks.readStep.toNat + room))) := h.mono (by omega)
  have hworked : (clocks.read.2.worked cycles).Ahead (clocks.readStep.toNat + room) :=
    hordered.read.worked
  exact hworked.read

end Clocks

section Timer

variable {σ : Type} {get : σ → Clocks} {put : Clocks → σ → σ} {clocks : Clocks}
  {timer : CycleTimer σ} (hput : ∀ clocks s, get (put clocks s) = clocks)
  (hticker : timer.ticker = .ofClocks get put)

include hput hticker

/-- **A window that fits in the room** is protected with one reading. -/
theorem CycleTimer.protect_headroom {window : UInt32} (h : clocks.Ahead (window.toNat + 1)) :
    Act.Ends (get · = clocks) (timer.protect window) .headroom (get · = clocks.read.2) := by
  have hroom := h.room
  have hfits : window < clocks.info.maxCount - clocks.counter := by
    rw [UInt32.lt_iff_toNat_lt, UInt32.toNat_sub_of_le _ _ h.readable.counter]
    omega
  have hbits : clocks.info.maxCount ≠ 0 := (Word.ne_zero_iff _).mpr (by omega)
  unfold CycleTimer.protect
  rw [hticker]
  exact .of_leads (overflowProtect_leads hput h.readable hbits (fun _ _ hs => ⟨rfl, hs⟩)
    fun hclose => absurd hfits (UInt32.not_lt.mpr hclose))

/-- **A sample is taken** wherever the counter stands, and whether or not readings move it. -/
theorem CycleTimer.sample_ends (hspin : timer.spin = spinClocks get put) (h : clocks.Readable)
    (hcarried : clocks.carried < Word.span32) (cycles : UInt32) :
    ∃ sample, Act.Ends (get · = clocks) (timer.sample cycles) sample
      (get · = clocks.sampled cycles) := by
  have hfits : clocks.read.2.carried < Word.span32 := hcarried
  have hwork : clocks.read.2.spin cycles = .ok (clocks.read.2.worked cycles) :=
    Clocks.spin_eq hfits cycles
  have hdone : (clocks.read.2.worked cycles).Readable :=
    ⟨Clocks.advance_counter_le _ _, h.readLimit⟩
  unfold CycleTimer.sample
  rw [hticker, hspin]
  exact ⟨_, .bind (.read _ fun _ hs => congrArg Clocks.info hs)
    (.bind (Ticker.ofClocks_read_ends hput h) (.bind (spinClocks_ends hput hwork)
      (.bind (Ticker.ofClocks_read_ends hput hdone) (.pure _))))⟩

end Timer

end FlashBench
