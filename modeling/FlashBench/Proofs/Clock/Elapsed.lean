import FlashBench.Proofs.Clock.Span
import FlashBench.Proofs.Clock.Wraparound

/-!
# Elapsed time

A sample knows its two readings modulo the number of values of the counter, and that is enough as
long as the counter has not gone all the way round between them: the masked difference is the number
of ticks that have passed (`Elapsed.elapsedTicks`), whether the counter has wrapped on the way or
not.

The microseconds are off by less than one (`Elapsed.micros_bounds`), although they are rounded once
across a wrap and twice without one. They are computed in 64 bits without a fault
(`TimerSample.checkedMicros_eq`).
-/

namespace FlashBench

/-! ## Conversion in words -/

/-- Converts ticks to microseconds, in numbers of 64 bits. -/
def checkedTicksToMicros (ticks hz : UInt32) : Except Fault Nat :=
  if hz = 0 then return 0
  else do
    let scaled ← Word.fit64 (ticks.toNat * 1000000)
    return scaled / hz.toNat

theorem checkedTicksToMicros_eq (ticks hz : UInt32) :
    checkedTicksToMicros ticks hz = .ok (ticksToMicros ticks hz) := by
  have hticks := Word.toNat_lt_span32 ticks
  have hspan : Word.span32 * 1000000 ≤ Word.span64 := by decide
  unfold checkedTicksToMicros ticksToMicros
  by_cases hstill : hz = 0
  · rw [if_pos hstill, if_pos hstill]
    rfl
  · rw [if_neg hstill, if_neg hstill, Word.fit64_of_lt (by omega)]
    rfl

namespace TimerSample

variable {sample : TimerSample} {info : CounterInfo} {ticks : Nat}

/-- Microseconds of a sample, in numbers of 64 bits. -/
def checkedMicros (sample : TimerSample) : Except Fault Nat :=
  if sample.start ≤ sample.stop then do
    let stop ← checkedTicksToMicros sample.stop sample.info.hz
    let start ← checkedTicksToMicros sample.start sample.info.hz
    Word.minus stop start
  else checkedTicksToMicros sample.elapsedTicks sample.info.hz

theorem checkedMicros_eq (sample : TimerSample) : sample.checkedMicros = .ok sample.micros := by
  unfold checkedMicros micros
  by_cases hle : sample.start ≤ sample.stop
  · rw [if_pos hle, if_pos hle, checkedTicksToMicros_eq, checkedTicksToMicros_eq]
    exact Word.minus_of_le (ticksToMicros_mono hle _)
  · rw [if_neg hle, if_neg hle, checkedTicksToMicros_eq]

/-! ## Ticks -/

/-- The counter has moved by `ticks`, less than once around, from the first reading to the
second. -/
structure Elapsed (info : CounterInfo) (ticks : Nat) (sample : TimerSample) : Prop where
  info_eq : sample.info = info
  start : sample.start.toNat < 2 ^ min info.bits.toNat 32
  stop : sample.stop.toNat = (sample.start.toNat + ticks) % 2 ^ min info.bits.toNat 32
  ticks : ticks < 2 ^ min info.bits.toNat 32

/-- The counter has wrapped exactly if the second reading is below the first. -/
theorem Elapsed.cases (h : sample.Elapsed info ticks) :
    (sample.start ≤ sample.stop ∧ sample.stop.toNat = sample.start.toNat + ticks) ∨
      (¬ sample.start ≤ sample.stop ∧
        sample.stop.toNat + 2 ^ min info.bits.toNat 32 = sample.start.toNat + ticks) := by
  have hstart := h.start
  have hstop := h.stop
  have hticks := h.ticks
  rw [UInt32.le_iff_toNat_le]
  by_cases hturn : sample.start.toNat + ticks < 2 ^ min info.bits.toNat 32
  · rw [Nat.mod_eq_of_lt hturn] at hstop
    exact .inl (by omega)
  · rw [Nat.mod_eq_sub_mod (Nat.le_of_not_lt hturn), Nat.mod_eq_of_lt (by omega)] at hstop
    exact .inr (by omega)

/-- **The masked difference** of the readings is what has passed between them. -/
theorem Elapsed.elapsedTicks (h : sample.Elapsed info ticks) :
    sample.elapsedTicks.toNat = ticks := by
  have hwidth : 2 ^ min info.bits.toNat 32 ∣ 2 ^ 32 := Nat.pow_dvd_pow 2 (Nat.min_le_right _ _)
  have hstart := sample.start.toNat_lt
  rw [TimerSample.elapsedTicks, CounterInfo.toNat_and_maxCount, h.info_eq,
    CounterInfo.maxCount_add_one, UInt32.toNat_sub, Nat.mod_mod_of_dvd _ hwidth]
  -- all the words are a number of turns of the counter
  obtain ⟨turns, hturns⟩ := hwidth
  rcases h.cases with ⟨_, hstop⟩ | ⟨_, hstop⟩
  · have hsum : 2 ^ 32 - sample.start.toNat + sample.stop.toNat =
        ticks + 2 ^ min info.bits.toNat 32 * turns := by omega
    rw [hsum, Nat.add_mul_mod_self_left, Nat.mod_eq_of_lt h.ticks]
  · have hsum : 2 ^ 32 - sample.start.toNat + sample.stop.toNat + 2 ^ min info.bits.toNat 32 =
        ticks + 2 ^ min info.bits.toNat 32 * turns := by omega
    rw [← Nat.add_mod_right, hsum, Nat.add_mul_mod_self_left, Nat.mod_eq_of_lt h.ticks]

/-- **The microseconds** are off by less than one, with a wrap or without. -/
theorem Elapsed.micros_bounds (h : sample.Elapsed info ticks) (hhz : 0 < info.hz.toNat) :
    sample.micros * info.hz.toNat < ticks * 1000000 + info.hz.toNat ∧
      ticks * 1000000 < sample.micros * info.hz.toNat + info.hz.toNat := by
  have hmoves : info.hz ≠ 0 := (Word.ne_zero_iff _).mpr hhz
  unfold micros ticksToMicros
  rw [h.info_eq, if_neg hmoves, if_neg hmoves, if_neg hmoves]
  rcases h.cases with ⟨hle, hstop⟩ | ⟨hwrapped, _⟩
  · -- two roundings
    have hscaled :
        sample.stop.toNat * 1000000 = sample.start.toNat * 1000000 + ticks * 1000000 := by
      rw [hstop, Nat.add_mul]
    rw [if_pos hle, hscaled]
    exact div_sub_div_bounds _ _ hhz
  · -- one rounding
    have hrest := Nat.mod_lt (ticks * 1000000) hhz
    have hparts := Nat.div_add_mod' (ticks * 1000000) info.hz.toNat
    rw [if_neg hwrapped, h.elapsedTicks]
    omega

end TimerSample

/-! ## Samples -/

namespace CycleTimer

variable {σ : Type} {timer : CycleTimer σ} {cycles : UInt32} {info : CounterInfo}
  {first second : UInt32} {world last : World σ} {ticks : Nat}

/-- A sample of `cycles` cycles of work that is taken in `world` finds the counter `info`, which it
reads twice. -/
def Reads (timer : CycleTimer σ) (cycles : UInt32) (info : CounterInfo) (first second : UInt32)
    (world last : World σ) : Prop :=
  ∃ opened ready done, timer.ticker.info.runOn world = (.ok info, opened) ∧
    timer.ticker.read.runOn opened = (.ok first, ready) ∧
    (timer.spin cycles).runOn ready = (.ok (), done) ∧
    timer.ticker.read.runOn done = (.ok second, last)

/-- Between two readings the counter has moved by what it says it has, up to whole turns. -/
theorem Reads.sample (h : timer.Reads cycles info first second world last)
    (hticks : ticks ≤ 2 ^ min info.bits.toNat 32 - 1)
    (hpassed : second.toNat ≡ first.toNat + ticks [MOD 2 ^ min info.bits.toNat 32]) :
    ∃ sample : TimerSample, (timer.sample cycles).runOn world = (.ok sample, last) ∧
      sample.Elapsed info ticks := by
  obtain ⟨opened, ready, done, hinfo, hfirst, hspin, hsecond⟩ := h
  have hpos := Nat.two_pow_pos (min info.bits.toNat 32)
  refine ⟨_, sample_runOn hinfo hfirst hspin hsecond, rfl, ?_, ?_, by omega⟩
  · rw [CounterInfo.toNat_and_maxCount, CounterInfo.maxCount_add_one]
    exact Nat.mod_lt _ hpos
  · show (second &&& info.maxCount).toNat = ((first &&& info.maxCount).toNat + ticks) % _
    rw [CounterInfo.toNat_and_maxCount, CounterInfo.toNat_and_maxCount,
      CounterInfo.maxCount_add_one, Nat.mod_add_mod]
    exact hpassed

/-- **Elapsed time is exact up to one microsecond.** If less than a turn of the counter has passed
between the two readings of a sample, it tells the ticks that have passed, and the microseconds come
without a fault and are off by less than one. -/
theorem measure_within_a_micro (h : timer.Reads cycles info first second world last)
    (hhz : 1 ≤ info.hz.toNat) (hticks : ticks ≤ 2 ^ min info.bits.toNat 32 - 1)
    (hpassed : second.toNat ≡ first.toNat + ticks [MOD 2 ^ min info.bits.toNat 32]) :
    ∃ (sample : TimerSample) (micros : Nat) (behind : World σ),
      (timer.sample cycles).runOn world = (.ok sample, last) ∧
      sample.elapsedTicks.toNat = ticks ∧
      (timer.measure cycles).runOn world = (.ok micros, behind) ∧
      sample.checkedMicros = .ok micros ∧
      |(micros * info.hz.toNat : ℤ) - ticks * 1000000| < info.hz.toNat := by
  obtain ⟨sample, hsample, helapsed⟩ := h.sample hticks hpassed
  obtain ⟨behind, hmicros, -⟩ :=
    sample.elapsedMicros_ends (fun _ => True) last trivial
  have hmeasure : (timer.measure cycles).runOn world = (.ok sample.micros, behind) :=
    Act.runOn_bind_eq_ok.mpr ⟨sample, last, hsample, hmicros⟩
  obtain ⟨hover, hunder⟩ := helapsed.micros_bounds hhz
  refine ⟨sample, sample.micros, behind, hsample, helapsed.elapsedTicks, hmeasure,
    sample.checkedMicros_eq, ?_⟩
  rw [abs_lt]
  constructor <;> omega

/-- Clocks sixteen ticks before the wrap, read in steps of seven, with three ticks to a
microsecond. -/
def beforeWrap : Clocks where
  info := { hz := 3000000, bits := 12 }
  counter := 0xFF0
  readStep := 7
  cpuHz := 3000000

/-- 107 ticks across the wrap are 35 microseconds and two thirds. -/
theorem measure_within_a_micro_beforeWrap :
    ∃ (last behind : World Clocks) (sample : TimerSample) (micros : Nat),
      bare.Reads 100 beforeWrap.info 0xFF0 0x5B { state := beforeWrap } last ∧
      1 ≤ beforeWrap.info.hz.toNat ∧ 107 ≤ 2 ^ min beforeWrap.info.bits.toNat 32 - 1 ∧
      (0x5B : UInt32).toNat ≡ (0xFF0 : UInt32).toNat + 107
        [MOD 2 ^ min beforeWrap.info.bits.toNat 32] ∧
      (bare.sample 100).runOn { state := beforeWrap } = (.ok sample, last) ∧
      sample.elapsedTicks.toNat = 107 ∧
      (bare.measure 100).runOn { state := beforeWrap } = (.ok micros, behind) ∧
      |(micros * 3000000 : ℤ) - 107 * 1000000| < 3000000 := by
  have hreads : bare.Reads 100 beforeWrap.info 0xFF0 0x5B { state := beforeWrap } _ :=
    ⟨_, _, _, rfl, rfl, rfl, rfl⟩
  have hhz : 1 ≤ beforeWrap.info.hz.toNat := by decide
  have hticks : 107 ≤ 2 ^ min beforeWrap.info.bits.toNat 32 - 1 := by decide
  have hpassed : (0x5B : UInt32).toNat ≡ (0xFF0 : UInt32).toNat + 107
      [MOD 2 ^ min beforeWrap.info.bits.toNat 32] := by decide
  obtain ⟨sample, micros, behind, hsample, helapsed, hmeasure, -, herror⟩ :=
    measure_within_a_micro hreads hhz hticks hpassed
  exact ⟨_, behind, sample, micros, hreads, hhz, hticks, hpassed, hsample, helapsed, hmeasure,
    herror⟩

end CycleTimer

end FlashBench
