import FlashBench.Clock.Emulated
import FlashBench.Proofs.Clock.Measure
import Mathlib.Algebra.Group.Nat.Defs

/-!
# Clocks that run

The counter of running clocks goes around `0, …, maxCount`, one tick for each read (`Clocks.Running`).
A wait for it to wrap comes to an end, so every window that fits in one turn is protected
(`protect_leads`). The busy loop carries less than one tick over, which keeps its work within 64 bits
whatever the CPU is switched to (`Running.spin`).
-/

namespace FlashBench

/-! ## The counter -/

namespace CounterInfo

variable {info : CounterInfo}

/-- A counter has a power of two of values. -/
theorem toNat_maxCount (info : CounterInfo) :
    info.maxCount.toNat = 2 ^ min info.bits.toNat 32 - 1 := by
  unfold maxCount
  by_cases h : info.bits < 32
  · have hbits : info.bits.toNat < 32 := UInt8.lt_iff_toNat_lt.mp h
    have hpow : 2 ^ info.bits.toNat < Word.span32 := Nat.pow_lt_pow_right (by decide) hbits
    have hshift : ((1 : UInt32) <<< info.bits.toUInt32).toNat = 2 ^ info.bits.toNat := by
      rw [UInt32.toNat_shiftLeft, UInt8.toNat_toUInt32, Nat.mod_eq_of_lt hbits]
      show 1 <<< info.bits.toNat % Word.span32 = _
      rw [Nat.one_shiftLeft, Nat.mod_eq_of_lt hpow]
    have hle : (1 : UInt32) ≤ 1 <<< info.bits.toUInt32 := by
      rw [UInt32.le_iff_toNat_le, hshift]
      exact Nat.two_pow_pos _
    rw [if_pos h, UInt32.toNat_sub_of_le _ _ hle, hshift, Nat.min_eq_left (Nat.le_of_lt hbits)]
    rfl
  · have hbits : 32 ≤ info.bits.toNat := Nat.le_of_not_lt fun hlt =>
      h (UInt8.lt_iff_toNat_lt.mpr hlt)
    rw [if_neg h, Nat.min_eq_right hbits]
    rfl

theorem maxCount_add_one (info : CounterInfo) :
    info.maxCount.toNat + 1 = 2 ^ min info.bits.toNat 32 := by
  rw [toNat_maxCount, Nat.sub_add_cancel (Nat.two_pow_pos _)]

/-- The mask of a counter takes a number modulo the number of its values. -/
theorem toNat_and_maxCount (reading : UInt32) (info : CounterInfo) :
    (reading &&& info.maxCount).toNat = reading.toNat % (info.maxCount.toNat + 1) := by
  rw [UInt32.toNat_and, maxCount_add_one, toNat_maxCount, Nat.and_two_pow_sub_one_eq_mod]

/-- The mask of a counter leaves its readings as they are. -/
theorem and_maxCount {reading : UInt32} (h : reading ≤ info.maxCount) :
    reading &&& info.maxCount = reading := by
  apply UInt32.toNat_inj.mp
  rw [toNat_and_maxCount]
  exact Nat.mod_eq_of_lt (Nat.lt_succ_of_le (UInt32.le_iff_toNat_le.mp h))

/-- The value that the counter takes after `now`. -/
def next (info : CounterInfo) (now : UInt32) : UInt32 :=
  if now = info.maxCount then 0 else now + 1

theorem next_maxCount : info.next info.maxCount = 0 := if_pos rfl

theorem toNat_next {now : UInt32} (hle : now ≤ info.maxCount) (hne : now ≠ info.maxCount) :
    (info.next now).toNat = now.toNat + 1 := by
  have hlt := UInt32.lt_iff_toNat_lt.mp (UInt32.lt_of_le_of_ne hle hne)
  have hmax := Word.toNat_lt_span32 info.maxCount
  rw [next, if_neg hne, UInt32.toNat_add]
  exact Nat.mod_eq_of_lt (Nat.lt_of_le_of_lt hlt hmax)

theorem next_le {now : UInt32} (hle : now ≤ info.maxCount) : info.next now ≤ info.maxCount := by
  by_cases hwraps : now = info.maxCount
  · rw [hwraps, next_maxCount]
    exact UInt32.zero_le
  · rw [UInt32.le_iff_toNat_le, toNat_next hle hwraps]
    exact UInt32.lt_iff_toNat_lt.mp (UInt32.lt_of_le_of_ne hle hwraps)

end CounterInfo

namespace Clocks

variable {info : CounterInfo} {clocks : Clocks}

theorem advance_toNat_counter (clocks : Clocks) (ticks : Nat) :
    (clocks.advance ticks).counter.toNat =
      (clocks.counter.toNat + ticks) % (clocks.info.maxCount.toNat + 1) := by
  have hmax := Word.toNat_lt_span32 clocks.info.maxCount
  have hmod : (clocks.counter.toNat + ticks % (clocks.info.maxCount.toNat + 1)) %
      (clocks.info.maxCount.toNat + 1) < clocks.info.maxCount.toNat + 1 :=
    Nat.mod_lt _ (Nat.succ_pos _)
  show (UInt32.ofNat _).toNat = _
  rw [Word.toNat_ofNat_of_lt (by omega), Nat.add_mod_mod]

theorem advance_counter_le (clocks : Clocks) (ticks : Nat) :
    (clocks.advance ticks).counter ≤ clocks.info.maxCount := by
  rw [UInt32.le_iff_toNat_le, advance_toNat_counter]
  exact Nat.le_of_lt_succ (Nat.mod_lt _ (Nat.succ_pos _))

/-- Every read moves the counter by one tick, and there may be as many as one likes. -/
structure Running (info : CounterInfo) (clocks : Clocks) : Prop where
  info_eq : clocks.info = info
  counter : clocks.counter ≤ info.maxCount
  readStep : clocks.readStep = 1
  readLimit : clocks.readLimit = none
  carried : clocks.carried < Word.span32

theorem Running.switch (h : clocks.Running info) (cpuHz : UInt32) :
    ({ clocks with cpuHz } : Clocks).Running info :=
  ⟨h.info_eq, h.counter, h.readStep, h.readLimit, h.carried⟩

theorem Running.advance (h : clocks.Running info) (ticks : Nat) :
    (clocks.advance ticks).Running info where
  info_eq := h.info_eq
  counter := h.info_eq ▸ clocks.advance_counter_le ticks
  readStep := h.readStep
  readLimit := h.readLimit
  carried := h.carried

theorem Running.read (h : clocks.Running info) :
    clocks.read.2.Running info ∧ clocks.read.2.counter = info.next clocks.counter := by
  have hadvance := h.advance clocks.readStep.toNat
  refine ⟨⟨hadvance.info_eq, hadvance.counter, h.readStep, h.readLimit, h.carried⟩, ?_⟩
  show (clocks.advance clocks.readStep.toNat).counter = _
  have hle := UInt32.le_iff_toNat_le.mp h.counter
  apply UInt32.toNat_inj.mp
  rw [advance_toNat_counter, h.readStep, h.info_eq]
  show (clocks.counter.toNat + 1) % _ = _
  by_cases hwraps : clocks.counter = info.maxCount
  · rw [hwraps, CounterInfo.next_maxCount, Nat.mod_self]
    rfl
  · have hlt := UInt32.lt_iff_toNat_lt.mp (UInt32.lt_of_le_of_ne h.counter hwraps)
    rw [CounterInfo.toNat_next h.counter hwraps, Nat.mod_eq_of_lt (by omega)]

/-- Work fits into 64 bits, whatever it is, next to what 32 bits carry over. -/
theorem work_lt (hcarried : clocks.carried < Word.span32) (cycles : UInt32) :
    cycles.toNat * clocks.info.hz.toNat + clocks.carried < Word.span64 := by
  have hcycles := Word.toNat_lt_span32 cycles
  have hhz := Word.toNat_lt_span32 clocks.info.hz
  have hproduct : cycles.toNat * clocks.info.hz.toNat ≤ (Word.span32 - 1) * (Word.span32 - 1) :=
    Nat.mul_le_mul (by omega) (by omega)
  have hspan : (Word.span32 - 1) * (Word.span32 - 1) + Word.span32 ≤ Word.span64 := by decide
  omega

theorem spin_eq (hcarried : clocks.carried < Word.span32) (cycles : UInt32) :
    clocks.spin cycles =
      let work := cycles.toNat * clocks.info.hz.toNat + clocks.carried
      let cpuHz := max clocks.cpuHz.toNat 1
      .ok { clocks.advance (work / cpuHz) with carried := work % cpuHz } := by
  unfold Clocks.spin
  rw [Word.fit64_of_lt (work_lt hcarried cycles)]
  rfl

/-- What is carried over is less than the frequency it was divided by. -/
theorem Running.spin (h : clocks.Running info) (cycles : UInt32) :
    ∃ next, clocks.spin cycles = .ok next ∧ next.Running info := by
  have hcpu := Word.toNat_lt_span32 clocks.cpuHz
  refine ⟨_, spin_eq h.carried cycles, ?_⟩
  have hadvance := h.advance
    ((cycles.toNat * clocks.info.hz.toNat + clocks.carried) / max clocks.cpuHz.toNat 1)
  refine ⟨hadvance.info_eq, hadvance.counter, h.readStep, h.readLimit, ?_⟩
  exact Nat.lt_of_lt_of_le (Nat.mod_lt _ (by omega)) (Nat.max_le.mpr ⟨Nat.le_of_lt hcpu, by decide⟩)

end Clocks

/-! ## Waiting for a wrap -/

section Timer

variable {σ : Type} {get : σ → Clocks} {put : Clocks → σ → σ} {info : CounterInfo}
  {now start : UInt32}

/-- The counter and the busy loop of the clocks inside a larger hardware state. -/
def CycleTimer.ofClocks (get : σ → Clocks) (put : Clocks → σ → σ) (patience : Nat) :
    CycleTimer σ where
  ticker := .ofClocks get put
  spin := spinClocks get put
  patience := patience

/-- Running clocks whose counter stands at `now`. -/
def Clocks.RunningAt (get : σ → Clocks) (info : CounterInfo) (now : UInt32) (s : σ) : Prop :=
  (get s).Running info ∧ (get s).counter = now

/-- The counter stands at one of its values. -/
theorem Clocks.Running.leads {α : Type} {act : Act σ α} {Q : α → σ → Prop} {S : Fault → σ → Prop}
    (h : ∀ now, now ≤ info.maxCount → Act.Leads (RunningAt get info now) act Q S) :
    Act.Leads (fun s => (get s).Running info) act Q S :=
  (Act.Leads.of_forall fun now => .of_and (h now)).pre fun s hs =>
    ⟨(get s).counter, hs.counter, hs, rfl⟩

variable (hput : ∀ clocks s, get (put clocks s) = clocks)

theorem Ticker.ofClocks_info_ends :
    Act.Ends (Clocks.RunningAt get info now) (ofClocks get put).info info
      (Clocks.RunningAt get info now) :=
  .read _ fun _ hs => hs.1.info_eq

include hput

/-- A reading is what the counter stood at, and the counter stands at the next value after it. -/
theorem Ticker.ofClocks_read_leads :
    Act.Leads (Clocks.RunningAt get info now) (ofClocks get put).read
      (fun reading s => reading = now ∧ Clocks.RunningAt get info (info.next now) s)
      fun _ _ => False := by
  refine Act.Leads.state fun s ⟨hrunning, hnow⟩ => .ite (fun _ => ?_) fun hlimit => ?_
  · refine .changeGet _ ?_
    rintro _ rfl
    obtain ⟨hread, hnext⟩ := hrunning.read
    rw [hnow] at hnext
    exact ⟨hnow, (hput _ _).symm ▸ hread, (hput _ _).symm ▸ hnext⟩
  · -- there is no limit
    rw [Clocks.mayRead, hrunning.readLimit] at hlimit
    exact absurd rfl hlimit

/-- The counter comes below `now`, which is not its smallest value, when it has run up to its maximum:
the first reading below is zero. The induction is on the readings that may still be made. -/
theorem awaitBelow_leads (hnow : 0 < now.toNat) (patience : Nat) (hstart : start ≤ info.maxCount)
    (hlong : start = 0 ∧ 0 < patience ∨
      now ≤ start ∧ info.maxCount.toNat + 1 < start.toNat + patience) :
    Act.Leads (Clocks.RunningAt get info start)
      (awaitBelow (.ofClocks get put) info.maxCount now patience)
      (fun _ => Clocks.RunningAt get info (info.next 0)) fun _ _ => False := by
  have hle := UInt32.le_iff_toNat_le.mp hstart
  induction patience generalizing start with
  | zero => omega
  | succ patience ih =>
      refine .bind_value (Ticker.ofClocks_read_leads hput) ?_
      rw [CounterInfo.and_maxCount hstart]
      rcases hlong with ⟨rfl, _⟩ | ⟨hge, hlong⟩
      · refine .ite (fun hlow => ?_) fun _ => .pure _ fun _ hs => hs
        exact absurd (UInt32.le_iff_toNat_le.mp hlow) (Nat.not_le.mpr hnow)
      refine .ite (fun _ => ?_) fun hlow => absurd hge hlow
      -- the reading is not below, so the counter has not wrapped yet
      refine ih (CounterInfo.next_le hstart) ?_
        (UInt32.le_iff_toNat_le.mp (CounterInfo.next_le hstart))
      by_cases hwraps : start = info.maxCount
      · rw [hwraps] at hlong
        exact .inl ⟨by rw [hwraps, CounterInfo.next_maxCount], by omega⟩
      · have hnext := CounterInfo.toNat_next hstart hwraps
        rw [UInt32.le_iff_toNat_le] at hge ⊢
        exact .inr (by omega)

variable {timer : CycleTimer σ} (hticker : timer.ticker = .ofClocks get put)

include hticker

/-- **A window that fits in one turn of the counter is protected,** and lies ahead of it then. -/
theorem CycleTimer.protect_leads {window : UInt32} (hwindow : window < info.maxCount)
    (hpatience : window.toNat < timer.patience) :
    Act.Leads (fun s => (get s).Running info) (timer.protect window)
      (fun _ s => (get s).Running info ∧
        (get s).counter.toNat + window.toNat ≤ info.maxCount.toNat) fun _ _ => False := by
  have hfits := UInt32.lt_iff_toNat_lt.mp hwindow
  have hzero : (0 : UInt32).toNat = 0 := rfl
  have hfirst : (info.next 0).toNat = 1 :=
    CounterInfo.toNat_next UInt32.zero_le fun heq => by rw [← heq] at hfits; omega
  unfold CycleTimer.protect overflowProtect
  rw [hticker]
  refine Clocks.Running.leads fun now hnow => ?_
  have hle := UInt32.le_iff_toNat_le.mp hnow
  refine .bind_ends Ticker.ofClocks_info_ends (.ite (fun hstill => ?_) fun _ => ?_)
  · rw [hstill] at hfits
    exact absurd hfits (Nat.not_lt_zero _)
  refine .bind_value (Ticker.ofClocks_read_leads hput) ?_
  rw [CounterInfo.and_maxCount hnow]
  have hsub := UInt32.toNat_sub_of_le _ _ hnow
  refine .ite (fun hroom => .pure _ fun s hs => ⟨hs.1, ?_⟩) fun hclose => .note_bind _ _ ?_
  · have hroom : window.toNat < (info.maxCount - now).toNat := UInt32.lt_iff_toNat_lt.mp hroom
    rw [hs.2, CounterInfo.toNat_next hnow fun heq => by subst heq; omega]
    omega
  -- the counter stands too high for the window, so it is not at zero
  have hroom := UInt32.le_iff_toNat_le.mp (UInt32.not_lt.mp hclose)
  have hhigh : 0 < now.toNat := by omega
  refine (awaitBelow_leads hput hhigh timer.patience (CounterInfo.next_le hnow) ?_).bind fun _ =>
    .pure _ fun s hs => ⟨hs.1, by rw [hs.2, hfirst]; omega⟩
  by_cases hwraps : now = info.maxCount
  · exact .inl ⟨by rw [hwraps, CounterInfo.next_maxCount], by omega⟩
  · have hnext := CounterInfo.toNat_next hnow hwraps
    exact .inr ⟨UInt32.le_iff_toNat_le.mpr (by omega), by omega⟩

/-- A sample is taken, however long its work is. -/
theorem CycleTimer.sample_leads (hspin : timer.spin = spinClocks get put) (cycles : UInt32) :
    Act.Leads (fun s => (get s).Running info) (timer.sample cycles)
      (fun _ s => (get s).Running info) fun _ _ => False := by
  have hread : Act.Leads (fun s => (get s).Running info) (Ticker.ofClocks get put).read
      (fun _ s => (get s).Running info) fun _ _ => False :=
    Clocks.Running.leads fun now _ => (Ticker.ofClocks_read_leads hput).post fun _ _ hs => hs.2.1
  have hwork : Act.Leads (fun s => (get s).Running info) (spinClocks get put cycles)
      (fun _ s => (get s).Running info) fun _ _ => False := by
    refine Act.Leads.state fun s hrunning => ?_
    obtain ⟨next, hnext, hafter⟩ := hrunning.spin cycles
    rw [hnext]
    exact .bind_ends (.checked _) (.change _ fun _ _ => (hput _ _).symm ▸ hafter)
  unfold CycleTimer.sample
  rw [hticker, hspin]
  refine .bind (Q := fun _ s => (get s).Running info) ?_ fun _ => hread.bind fun _ =>
    hwork.bind fun _ => hread.bind fun _ => .pure _ fun _ hs => hs
  exact Clocks.Running.leads fun now _ =>
    (Act.Leads.of_ends Ticker.ofClocks_info_ends).post fun _ _ hs => hs.2.1

end Timer

end FlashBench
