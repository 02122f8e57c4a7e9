import FlashBench.Proofs.Clock.Carry
import Mathlib.Algebra.Order.Floor.Div

/-!
# Waiting for a counter to wrap

The readings of clocks that nobody else moves go around the counter in equal steps
(`Clocks.toNat_reading`), which says how a protected wait goes, reading by reading
(`Clocks.course`):

* **Enough room** takes the one reading that finds it.
* **Too little room** takes every reading up to the first one behind the wrap. That one lies below
  the step, so it ends the wait whenever the wait began at the step or above
  (`overflowProtect_ends`).
* **A wait that begins at zero has no end**, because no reading lies below it
  (`overflowProtect_stuck`). It begins when the window fills the whole turn.

What is read after the wait has the window ahead of it, and a sample that fits in the window
measures its work and one step for the reading it starts with (`CycleTimer.sample_within`).
-/

namespace FlashBench

/-! ## Readings -/

namespace Clocks

variable {clocks : Clocks}

/-- The clocks after `count` readings. -/
def afterReads (clocks : Clocks) : Nat → Clocks
  | 0 => clocks
  | count + 1 => clocks.read.2.afterReads count

/-- What the clocks read when `before` readings have been made. -/
def reading (clocks : Clocks) (before : Nat) : UInt32 := (clocks.afterReads before).counter

/-- Clocks that can be read as often as one likes, with the counter at one of its values. -/
structure Readable (clocks : Clocks) : Prop where
  counter : clocks.counter ≤ clocks.info.maxCount
  readLimit : clocks.readLimit = none

theorem Readable.mayRead (h : clocks.Readable) : clocks.mayRead = true := by
  simp [Clocks.mayRead, h.readLimit]

theorem Readable.read (h : clocks.Readable) : clocks.read.2.Readable where
  counter := clocks.advance_counter_le _
  readLimit := h.readLimit

theorem Readable.afterReads (h : clocks.Readable) (count : Nat) :
    (clocks.afterReads count).Readable := by
  induction count generalizing clocks with
  | zero => exact h
  | succ count ih => exact ih h.read

@[simp]
theorem afterReads_info (clocks : Clocks) (count : Nat) :
    (clocks.afterReads count).info = clocks.info := by
  induction count generalizing clocks with
  | zero => rfl
  | succ count ih => exact ih _

@[simp]
theorem afterReads_readStep (clocks : Clocks) (count : Nat) :
    (clocks.afterReads count).readStep = clocks.readStep := by
  induction count generalizing clocks with
  | zero => rfl
  | succ count ih => exact ih _

theorem afterReads_succ (clocks : Clocks) (count : Nat) :
    clocks.afterReads (count + 1) = (clocks.afterReads count).read.2 := by
  induction count generalizing clocks with
  | zero => rfl
  | succ count ih => exact ih _

/-- The clocks count their readings. -/
theorem afterReads_reads (clocks : Clocks) (count : Nat) :
    (clocks.afterReads count).reads = clocks.reads + count := by
  induction count generalizing clocks with
  | zero => rfl
  | succ count ih => exact (ih _).trans (Nat.add_right_comm _ _ _)

/-- Every reading moves the counter by one step. -/
theorem toNat_reading_succ (clocks : Clocks) (before : Nat) : (clocks.reading (before + 1)).toNat =
    ((clocks.reading before).toNat + clocks.readStep.toNat) %
      (clocks.info.maxCount.toNat + 1) := by
  have hmoved := advance_toNat_counter (clocks.afterReads before) clocks.readStep.toNat
  rw [afterReads_info] at hmoved
  rw [reading, afterReads_succ, read, afterReads_readStep]
  exact hmoved

/-- **The orbit of the readings.** -/
theorem toNat_reading (h : clocks.Readable) (before : Nat) : (clocks.reading before).toNat =
    (clocks.counter.toNat + before * clocks.readStep.toNat) %
      (clocks.info.maxCount.toNat + 1) := by
  induction before with
  | zero =>
      have hcounter := UInt32.le_iff_toNat_le.mp h.counter
      rw [Nat.zero_mul, Nat.add_zero, Nat.mod_eq_of_lt (by omega)]
      rfl
  | succ before ih => rw [toNat_reading_succ, ih, Nat.mod_add_mod, Nat.succ_mul, Nat.add_assoc]

/-- Readings after which the counter has wrapped. -/
def readsToWrap (clocks : Clocks) : Nat :=
  (clocks.info.maxCount.toNat + 1 - clocks.counter.toNat) ⌈/⌉ clocks.readStep.toNat

/-- How a protected wait goes, and the readings it makes. -/
def course (clocks : Clocks) (window : UInt32) : Protection × Nat :=
  if window < clocks.info.maxCount - clocks.counter then (.headroom, 1)
  else (.wrapped, 1 + clocks.readsToWrap)

section Wrap

variable (h : clocks.Readable) (hstep : 0 < clocks.readStep.toNat)

include hstep

theorem readsToWrap_le_iff (count : Nat) : clocks.readsToWrap ≤ count ↔
    clocks.info.maxCount.toNat + 1 ≤ clocks.counter.toNat + count * clocks.readStep.toNat := by
  rw [readsToWrap, ceilDiv_le_iff_le_mul hstep, Nat.sub_le_iff_le_add', Nat.mul_comm]

/-- One reading less would not have done. -/
theorem readsToWrap_bounds (hcounter : clocks.counter ≤ clocks.info.maxCount) :
    clocks.info.maxCount.toNat + 1 ≤
        clocks.counter.toNat + clocks.readsToWrap * clocks.readStep.toNat ∧
      clocks.counter.toNat + clocks.readsToWrap * clocks.readStep.toNat ≤
        clocks.info.maxCount.toNat + clocks.readStep.toNat := by
  refine ⟨(readsToWrap_le_iff hstep _).mp (Nat.le_refl _), ?_⟩
  have hle := UInt32.le_iff_toNat_le.mp hcounter
  rcases hreads : clocks.readsToWrap with _ | reads
  · omega
  · have hbefore := (readsToWrap_le_iff hstep reads).not.mp (by omega)
    rw [Nat.succ_mul]
    omega

/-- From anywhere but zero, the wrap is no further away than the maximum. -/
theorem readsToWrap_le_maxCount (hcounter : 0 < clocks.counter.toNat) :
    clocks.readsToWrap ≤ clocks.info.maxCount.toNat := by
  rw [readsToWrap_le_iff hstep]
  have hsteps := Nat.le_mul_of_pos_right clocks.info.maxCount.toNat hstep
  omega

include h

/-- Before the wrap the readings go up. -/
theorem le_reading (before : Nat) (hbefore : before < clocks.readsToWrap) :
    clocks.counter ≤ clocks.reading before := by
  have hroom := (readsToWrap_le_iff hstep before).not.mp (Nat.not_le_of_lt hbefore)
  rw [UInt32.le_iff_toNat_le, toNat_reading h, Nat.mod_eq_of_lt (by omega)]
  omega

/-- The first reading behind the wrap lies below the step. -/
theorem reading_readsToWrap_lt (hsmall : clocks.readStep ≤ clocks.info.maxCount) :
    (clocks.reading clocks.readsToWrap).toNat < clocks.readStep.toNat := by
  have hle := UInt32.le_iff_toNat_le.mp hsmall
  obtain ⟨hbehind, hfirst⟩ := readsToWrap_bounds hstep h.counter
  rw [toNat_reading h, Nat.mod_eq_sub_mod hbehind, Nat.mod_eq_of_lt (by omega)]
  omega

/-- The last reading of a wait has more than the window ahead of it. -/
theorem lt_sub_last {window : UInt32} (hwindow : window < clocks.info.maxCount)
    (hfits : clocks.readStep ≤ clocks.info.maxCount - window) :
    window.toNat <
      clocks.info.maxCount.toNat - (clocks.reading ((clocks.course window).2 - 1)).toNat := by
  have hlt := UInt32.lt_iff_toNat_lt.mp hwindow
  unfold course
  split
  case isTrue hlarge =>
    have hroom := UInt32.lt_iff_toNat_lt.mp hlarge
    rwa [UInt32.toNat_sub_of_le _ _ h.counter] at hroom
  case isFalse hsmall =>
    have hfits := UInt32.le_iff_toNat_le.mp hfits
    rw [UInt32.toNat_sub_of_le _ _ (UInt32.le_of_lt hwindow)] at hfits
    have hlast := reading_readsToWrap_lt h hstep (UInt32.le_iff_toNat_le.mpr (by omega))
    show _ < _ - (clocks.reading (1 + clocks.readsToWrap - 1)).toNat
    rw [Nat.add_sub_cancel_left]
    omega

end Wrap

end Clocks

/-! ## The wait -/

section Wait

variable {σ : Type} {get : σ → Clocks} {put : Clocks → σ → σ} {clocks : Clocks} {now : UInt32}
  (hput : ∀ clocks s, get (put clocks s) = clocks) (h : clocks.Readable)

include hput h

theorem Ticker.ofClocks_read_ends :
    Act.Ends (get · = clocks) (ofClocks get put).read clocks.counter (get · = clocks.read.2) := by
  refine .state fun s hs => .pos (hs ▸ h.mayRead) (.changeGet _ fun s hs => ?_)
  rw [hs]
  exact ⟨rfl, hput _ _⟩

/-- A wait ends with the first reading below `now`. The induction is on the readings that may still
be made. -/
theorem awaitBelow_ends {count patience : Nat} (hpatience : count < patience)
    (hstays : ∀ before < count, now ≤ clocks.reading before) (hfalls : clocks.reading count < now) :
    Act.Ends (get · = clocks)
      (awaitBelow (.ofClocks get put) clocks.info.maxCount now patience) ()
      (get · = clocks.afterReads (count + 1)) := by
  induction patience generalizing clocks count with
  | zero => omega
  | succ patience ih =>
      refine .bind (Ticker.ofClocks_read_ends hput h) ?_
      rw [CounterInfo.and_maxCount h.counter]
      cases count with
      | zero => exact .neg (UInt32.not_le.mpr hfalls) (.pure ())
      | succ count =>
          refine .pos (hstays 0 (Nat.succ_pos _)) ?_
          exact ih h.read (Nat.lt_of_succ_lt_succ hpatience)
            (fun before hbefore => hstays (before + 1) (Nat.succ_lt_succ hbefore)) hfalls

/-- A wait for a reading that does not come makes all the readings it may make. -/
theorem awaitBelow_stuck (patience : Nat) (hstays : ∀ before, now ≤ clocks.reading before) :
    Act.Leads (get · = clocks) (awaitBelow (.ofClocks get put) clocks.info.maxCount now patience)
      (fun _ _ => False) fun fault s => fault = .stuck ∧ get s = clocks.afterReads patience := by
  induction patience generalizing clocks with
  | zero => exact .fault _ fun s hs => ⟨rfl, hs⟩
  | succ patience ih =>
      refine .bind_ends (Ticker.ofClocks_read_ends hput h) ?_
      rw [CounterInfo.and_maxCount h.counter]
      refine .ite (fun _ => ?_) fun hbelow => absurd (hstays 0) hbelow
      exact ih h.read fun before => hstays (before + 1)

/-- The first steps of a protected wait: a reading, and whether it leaves room for the window. -/
theorem overflowProtect_leads {Q : Protection → σ → Prop} {S : Fault → σ → Prop}
    (hbits : clocks.info.maxCount ≠ 0) {window : UInt32} {patience : Nat}
    (hroom : window < clocks.info.maxCount - clocks.counter →
      ∀ s, get s = clocks.read.2 → Q .headroom s)
    (hclose : clocks.info.maxCount - clocks.counter ≤ window →
      Act.Leads (get · = clocks.read.2)
        (awaitBelow (.ofClocks get put) clocks.info.maxCount clocks.counter patience)
        (fun _ => Q .wrapped) S) :
    Act.Leads (get · = clocks) (overflowProtect (.ofClocks get put) patience window) Q S := by
  refine .bind_ends (.read _ fun s hs => congrArg Clocks.info hs) ?_
  refine .ite (fun hstill => absurd hstill hbits) fun _ => ?_
  refine .bind_ends (Ticker.ofClocks_read_ends hput h) ?_
  rw [CounterInfo.and_maxCount h.counter]
  refine .ite (fun hlarge => .pure _ (hroom hlarge)) fun hsmall => .note_bind _ _ ?_
  exact (hclose (UInt32.not_lt.mp hsmall)).bind fun _ => .pure _ fun _ hs => hs

/-- **How a protected wait goes,** unless it begins below the step. -/
theorem overflowProtect_ends (hbits : clocks.info.maxCount ≠ 0) (hstep : 0 < clocks.readStep.toNat)
    {window : UInt32} {patience : Nat}
    (hbegins : clocks.info.maxCount - clocks.counter ≤ window → clocks.readStep ≤ clocks.counter)
    (hpatience : clocks.info.maxCount - clocks.counter ≤ window → clocks.readsToWrap ≤ patience) :
    Act.Ends (get · = clocks) (overflowProtect (.ofClocks get put) patience window)
      (clocks.course window).1 (get · = clocks.afterReads (clocks.course window).2) := by
  unfold Clocks.course
  refine .of_leads (overflowProtect_leads hput h hbits (fun hlarge s hs => ?_) fun hsmall => ?_)
  · rw [if_pos hlarge]
    exact ⟨rfl, hs⟩
  rw [if_neg (UInt32.not_lt.mpr hsmall)]
  have hbegins := hbegins hsmall
  have hfalls := Clocks.reading_readsToWrap_lt h hstep (UInt32.le_trans hbegins h.counter)
  have hstays := Clocks.le_reading h hstep
  have hpatience := hpatience hsmall
  -- the first reading is not one of the wait, and does not wrap the counter
  rcases hreads : clocks.readsToWrap with _ | count
  · have hbehind := (Clocks.readsToWrap_bounds hstep h.counter).1
    have hcounter := UInt32.le_iff_toNat_le.mp h.counter
    rw [hreads] at hbehind
    omega
  rw [hreads] at hfalls hstays hpatience
  rw [Nat.add_comm]
  refine (Act.Leads.of_ends (awaitBelow_ends hput h.read hpatience (fun before hbefore =>
    hstays (before + 1) (Nat.succ_lt_succ hbefore)) ?_)).post fun _ _ hs => ⟨rfl, hs.2⟩
  exact UInt32.lt_iff_toNat_lt.mpr (Nat.lt_of_lt_of_le hfalls (UInt32.le_iff_toNat_le.mp hbegins))

/-- **A wait that begins at zero has no end,** however many readings it may make. -/
theorem overflowProtect_stuck (hbits : clocks.info.maxCount ≠ 0) (hzero : clocks.counter = 0)
    {window : UInt32} (hwindow : clocks.info.maxCount ≤ window) (patience : Nat) :
    Act.Leads (get · = clocks) (overflowProtect (.ofClocks get put) patience window)
      (fun _ _ => False)
      fun fault s => fault = .stuck ∧ get s = clocks.afterReads (patience + 1) := by
  refine overflowProtect_leads hput h hbits (fun hlarge => ?_) fun _ => ?_
  · rw [hzero, UInt32.sub_zero] at hlarge
    exact absurd hwindow (UInt32.not_le.mpr hlarge)
  · refine awaitBelow_stuck hput h.read patience fun before => ?_
    rw [hzero]
    exact UInt32.zero_le

/-- **A wait takes at most one turn of the counter,** if every reading moves it by one tick and the
wait does not begin at zero with a window of a whole turn. Then it never ends. -/
theorem overflowProtect_within_a_turn (hnarrow : 1 ≤ clocks.info.bits.toNat)
    (hwide : clocks.info.bits.toNat ≤ 32) (hstep : clocks.readStep = 1) (window : UInt32) :
    (¬ (clocks.counter = 0 ∧ clocks.info.maxCount ≤ window) →
      (clocks.course window).2 ≤ 2 ^ clocks.info.bits.toNat ∧
        ∀ patience, 2 ^ clocks.info.bits.toNat ≤ patience →
          Act.Ends (get · = clocks) (overflowProtect (.ofClocks get put) patience window)
            (clocks.course window).1 (get · = clocks.afterReads (clocks.course window).2)) ∧
      (clocks.counter = 0 ∧ clocks.info.maxCount ≤ window → ∀ patience,
        Act.Leads (get · = clocks) (overflowProtect (.ofClocks get put) patience window)
          (fun _ _ => False)
          fun fault s => fault = .stuck ∧ get s = clocks.afterReads (patience + 1)) := by
  have hmax : clocks.info.maxCount.toNat + 1 = 2 ^ clocks.info.bits.toNat := by
    rw [CounterInfo.maxCount_add_one, Nat.min_eq_left hwide]
  have hvalues : 2 ^ 1 ≤ 2 ^ clocks.info.bits.toNat := Nat.pow_le_pow_right (by decide) hnarrow
  have hbits : clocks.info.maxCount ≠ 0 := (Word.ne_zero_iff _).mpr (by omega)
  have hone : clocks.readStep.toNat = 1 := congrArg UInt32.toNat hstep
  refine ⟨fun hbegins => ?_, fun ⟨hzero, hwindow⟩ =>
    overflowProtect_stuck hput h hbits hzero hwindow⟩
  -- a wait that begins at all does not begin at zero
  have hpositive : clocks.info.maxCount - clocks.counter ≤ window → 0 < clocks.counter.toNat := by
    intro hclose
    refine (Word.ne_zero_iff _).mp fun hzero => hbegins ⟨hzero, ?_⟩
    rwa [hzero, UInt32.sub_zero] at hclose
  have hshort := fun hclose => Clocks.readsToWrap_le_maxCount (by omega) (hpositive hclose)
  constructor
  · unfold Clocks.course
    split
    · exact Nat.one_le_two_pow
    · have := hshort (UInt32.not_lt.mp ‹_›)
      show 1 + _ ≤ _
      omega
  · intro patience hpatience
    refine overflowProtect_ends hput h hbits (by omega) (fun hclose => ?_) fun hclose => ?_
    · rw [UInt32.le_iff_toNat_le, hone]
      exact hpositive hclose
    · have := hshort hclose
      omega

end Wait

/-- Clocks with a counter of 12 bits. -/
def Clocks.twelveBits (start : UInt32) : Clocks :=
  ({ info := { hz := 1000000, bits := 12 }, cpuHz := 400000000 } : Clocks).startingAt start

theorem overflowProtect_within_a_turn_from_five :
    Act.Ends (· = Clocks.twelveBits 5)
      (overflowProtect (.ofClocks id fun clocks _ => clocks) 4096 35000) .wrapped
      (· = (Clocks.twelveBits 5).afterReads 4092) := by
  have hturn := (@overflowProtect_within_a_turn Clocks id (fun clocks _ => clocks) (.twelveBits 5)
    (fun _ _ => rfl) ⟨by decide, rfl⟩ (by decide) (by decide) rfl 35000).1 (by decide)
  have hcourse : (Clocks.twelveBits 5).course 35000 = (.wrapped, 4092) := by decide
  rw [hcourse] at hturn
  exact hturn.2 4096 (by decide)

/-- A window longer than the turn, and a counter at zero. -/
theorem overflowProtect_never_returns_from_zero :
    ¬ ∃ patience protection last,
      (overflowProtect (.ofClocks id fun clocks _ => clocks) patience 35000).runOn
        { state := Clocks.twelveBits 0 } = (.ok protection, last) := by
  rintro ⟨patience, protection, last, hrun⟩
  have hstuck := @overflowProtect_stuck Clocks id (fun clocks _ => clocks) (.twelveBits 0)
    (fun _ _ => rfl) ⟨by decide, rfl⟩ (by decide) rfl 35000 (by decide) patience
    { state := Clocks.twelveBits 0 } rfl
  rw [hrun] at hstuck
  exact hstuck

/-! ## Samples behind a wait -/

namespace TimerSample

/-- A sample of `ticks` that does not reach across a wrap. -/
structure Measures (ticks : Nat) (sample : TimerSample) : Prop where
  start_le_stop : sample.start ≤ sample.stop
  elapsed : sample.elapsedTicks.toNat = ticks

theorem Measures.of_stop {sample : TimerSample} {ticks : Nat}
    (hstop : sample.stop.toNat = sample.start.toNat + ticks)
    (hmax : sample.stop ≤ sample.info.maxCount) : sample.Measures ticks := by
  have hle : sample.start ≤ sample.stop := UInt32.le_iff_toNat_le.mpr (by omega)
  have hsub := UInt32.toNat_sub_of_le _ _ hle
  have hmax := UInt32.le_iff_toNat_le.mp hmax
  refine ⟨hle, ?_⟩
  rw [elapsedTicks, CounterInfo.and_maxCount (UInt32.le_iff_toNat_le.mpr (by omega))]
  omega

end TimerSample

variable {σ : Type} {get : σ → Clocks} {put : Clocks → σ → σ} {clocks : Clocks}
  {timer : CycleTimer σ} {cycles : UInt32} {ticks : Nat}

/-- In this world the work of a sample moves the counter by `ticks`. -/
def CycleTimer.Works (timer : CycleTimer σ) (get : σ → Clocks) (cycles : UInt32) (ticks : Nat)
    (world : World σ) : Prop :=
  ∃ reading ready done, timer.ticker.read.runOn world = (.ok reading, ready) ∧
    (timer.spin cycles).runOn ready = (.ok (), done) ∧
    (get ready.state).Moved ticks (get done.state)

/-- A sample is what its readings are. -/
theorem CycleTimer.sample_runOn {info : CounterInfo} {start stop : UInt32}
    {world opened ready done last : World σ}
    (hinfo : timer.ticker.info.runOn world = (.ok info, opened))
    (hstart : timer.ticker.read.runOn opened = (.ok start, ready))
    (hspin : (timer.spin cycles).runOn ready = (.ok (), done))
    (hstop : timer.ticker.read.runOn done = (.ok stop, last)) :
    (timer.sample cycles).runOn world =
      (.ok ⟨start &&& info.maxCount, stop &&& info.maxCount, info⟩, last) := by
  unfold CycleTimer.sample
  rw [Act.runOn_bind, hinfo]
  show Act.runOn (timer.ticker.read >>= _) opened = _
  rw [Act.runOn_bind, hstart]
  show Act.runOn (timer.spin cycles >>= _) ready = _
  rw [Act.runOn_bind, hspin]
  show Act.runOn (timer.ticker.read >>= _) done = _
  rw [Act.runOn_bind, hstop]
  rfl

variable (hput : ∀ clocks s, get (put clocks s) = clocks)

include hput

theorem spinClocks_ends {next : Clocks} (hnext : clocks.spin cycles = .ok next) :
    Act.Ends (get · = clocks) (spinClocks get put cycles) () (get · = next) := by
  refine .state fun s hs => ?_
  rw [hs, hnext]
  exact .bind (.checked _) (.change _ fun _ _ => hput _ _)

variable (hticker : timer.ticker = .ofClocks get put)

include hticker

/-- The busy loop of the clocks themselves moves the counter by the ticks of its work. -/
theorem CycleTimer.works_of_spin (hspin : timer.spin = spinClocks get put) {world : World σ}
    (hworld : get world.state = clocks) (h : clocks.Readable)
    (hcarried : clocks.carried < Word.span32) (hcpu : 1 ≤ clocks.cpuHz.toNat) :
    timer.Works get cycles (clocks.wholeTicks cycles + clocks.surplus cycles) world := by
  obtain ⟨ready, hread, hready⟩ := Ticker.ofClocks_read_ends hput h world hworld
  have hfits : clocks.read.2.carried < Word.span32 := hcarried
  obtain ⟨next, hnext, hmoved⟩ := Clocks.spin_moves hfits hcpu cycles
  obtain ⟨done, hrun, hdone⟩ := spinClocks_ends hput hnext ready hready
  rw [← hticker] at hread
  rw [← hspin] at hrun
  refine ⟨_, ready, done, hread, hrun, ?_⟩
  rw [hready, hdone]
  exact hmoved

/-- **A sample with room** before the wrap measures its work and the reading it starts with. -/
theorem CycleTimer.sample_within {world : World σ} (hworld : get world.state = clocks)
    (h : clocks.Readable) (hworks : timer.Works get cycles ticks world)
    (hroom : clocks.counter.toNat + clocks.readStep.toNat + ticks ≤ clocks.info.maxCount.toNat) :
    ∃ sample last, (timer.sample cycles).runOn world = (.ok sample, last) ∧
      sample.Measures (ticks + clocks.readStep.toNat) := by
  obtain ⟨reading, ready, done, hread, hspin, hmoved⟩ := hworks
  -- the reading the sample starts with
  obtain ⟨_, hfirst, hready⟩ := Ticker.ofClocks_read_ends hput h world hworld
  rw [← hticker, hread] at hfirst
  cases hfirst
  rw [hready] at hmoved
  have hstart : clocks.read.2.counter.toNat = clocks.counter.toNat + clocks.readStep.toNat :=
    (Clocks.advance_toNat_counter _ _).trans (Nat.mod_eq_of_lt (by omega))
  have hstop : (get done.state).counter.toNat =
      clocks.counter.toNat + (ticks + clocks.readStep.toNat) := by
    rw [hmoved.toNat_counter (hstart ▸ hroom), hstart]
    omega
  have hmax : (get done.state).counter ≤ clocks.info.maxCount :=
    UInt32.le_iff_toNat_le.mpr (by omega)
  -- the reading it stops with
  have hdone : (get done.state).Readable := ⟨hmoved.info ▸ hmax, hmoved.readLimit.trans h.readLimit⟩
  obtain ⟨last, hlast, -⟩ := Ticker.ofClocks_read_ends hput hdone done rfl
  rw [← hticker] at hlast
  have hinfo : timer.ticker.info.runOn world = (.ok clocks.info, world) := by
    rw [hticker, ← hworld]
    rfl
  have hmeasures : TimerSample.Measures (ticks + clocks.readStep.toNat)
      ⟨clocks.counter, (get done.state).counter, clocks.info⟩ := .of_stop hstop hmax
  refine ⟨_, last, ?_, hmeasures⟩
  rw [CycleTimer.sample_runOn hinfo hread hspin hlast, CounterInfo.and_maxCount h.counter,
    CounterInfo.and_maxCount hmax]

/-- **Protection delivers its window:** the last reading has more than `window` ticks ahead of it,
and a sample that follows measures all work that fits in the window with the two readings around
it. -/
theorem CycleTimer.protect_delivers (h : clocks.Readable) {window : UInt32}
    (hwindow : window < clocks.info.maxCount) (hstep : 1 ≤ clocks.readStep)
    (hfits : clocks.readStep ≤ clocks.info.maxCount - window)
    (hpatience : clocks.info.maxCount.toNat ≤ timer.patience)
    {world : World σ} (hworld : get world.state = clocks) :
    ∃ after, (timer.protect window).runOn world = (.ok (clocks.course window).1, after) ∧
      get after.state = clocks.afterReads (clocks.course window).2 ∧
      (get after.state).reads = clocks.reads + (clocks.course window).2 ∧
      window.toNat <
        clocks.info.maxCount.toNat - (clocks.reading ((clocks.course window).2 - 1)).toNat ∧
      ∀ cycles ticks, timer.Works get cycles ticks after →
        ticks + 2 * clocks.readStep.toNat ≤ window.toNat + 1 →
        ∃ sample last, (timer.sample cycles).runOn after = (.ok sample, last) ∧
          sample.Measures (ticks + clocks.readStep.toNat) := by
  have hlt := UInt32.lt_iff_toNat_lt.mp hwindow
  have hpositive : 0 < clocks.readStep.toNat := UInt32.le_iff_toNat_le.mp hstep
  have hlast := Clocks.lt_sub_last h hpositive hwindow hfits
  have hbits : clocks.info.maxCount ≠ 0 := (Word.ne_zero_iff _).mpr (by omega)
  -- where the room is too small, the counter stands at the step or above
  have hbegins : clocks.info.maxCount - clocks.counter ≤ window →
      clocks.readStep ≤ clocks.counter := by
    intro hclose
    rw [UInt32.le_iff_toNat_le, UInt32.toNat_sub_of_le _ _ h.counter] at hclose
    rw [UInt32.le_iff_toNat_le, UInt32.toNat_sub_of_le _ _ (UInt32.le_of_lt hwindow)] at hfits
    exact UInt32.le_iff_toNat_le.mpr (by omega)
  have hwait := overflowProtect_ends hput h hbits hpositive hbegins fun hclose =>
    (Clocks.readsToWrap_le_maxCount hpositive (Nat.lt_of_lt_of_le hpositive
      (UInt32.le_iff_toNat_le.mp (hbegins hclose)))).trans hpatience
  rw [← hticker] at hwait
  obtain ⟨after, hrun, hafter⟩ := hwait world hworld
  have hcount : (get after.state).reads = clocks.reads + (clocks.course window).2 := by
    rw [hafter, Clocks.afterReads_reads]
  refine ⟨after, hrun, hafter, hcount, hlast, fun cycles ticks hworks hshort => ?_⟩
  -- the reading after the last one of the wait is where the sample starts
  have hstart := Clocks.toNat_reading_succ clocks ((clocks.course window).2 - 1)
  have hreads : 1 ≤ (clocks.course window).2 := by
    unfold Clocks.course
    split
    · exact Nat.le_refl 1
    · exact Nat.le_add_right 1 _
  rw [Nat.sub_add_cancel hreads, Nat.mod_eq_of_lt (by omega)] at hstart
  have hsample := CycleTimer.sample_within hput hticker hafter (h.afterReads _) hworks
  rw [Clocks.afterReads_info, Clocks.afterReads_readStep] at hsample
  refine hsample ?_
  show (clocks.reading _).toNat + _ + _ ≤ _
  omega

omit hput hticker

/-- Clocks a few ticks before the wrap, read in steps of seven ticks. -/
def Clocks.aboutToWrap : Clocks where
  info := { hz := 1000000, bits := 16 }
  counter := 0xFFF0
  readStep := 7
  cpuHz := 1000000

/-- A timer that is nothing but its clocks. -/
def CycleTimer.bare : CycleTimer Clocks := .ofClocks id (fun clocks _ => clocks) enoughReads

theorem CycleTimer.protect_delivers_aboutToWrap :
    ∃ after sample last,
      (CycleTimer.bare.protect 35000).runOn { state := Clocks.aboutToWrap } =
        (.ok .wrapped, after) ∧
      after.state = Clocks.aboutToWrap.afterReads 4 ∧
      35000 < 65535 - (Clocks.aboutToWrap.reading 3).toNat ∧
      (CycleTimer.bare.sample 100).runOn after = (.ok sample, last) ∧
      sample.Measures 107 := by
  obtain ⟨after, hrun, hafter, -, hlast, hsample⟩ :=
    @CycleTimer.protect_delivers Clocks id (fun clocks _ => clocks) .aboutToWrap .bare
      (fun _ _ => rfl) rfl ⟨by decide, rfl⟩ 35000 (by decide) (by decide) (by decide) (by decide)
      { state := .aboutToWrap } rfl
  have hcourse : Clocks.aboutToWrap.course 35000 = (.wrapped, 4) := by decide
  rw [hcourse] at hrun hafter hlast
  have hworks : CycleTimer.bare.Works id 100 100 after :=
    CycleTimer.works_of_spin (fun _ _ => rfl) rfl rfl hafter ⟨by decide, rfl⟩ (by decide)
      (by decide)
  obtain ⟨sample, last, htaken, hmeasures⟩ := hsample 100 100 hworks (by decide)
  exact ⟨after, sample, last, hrun, hafter, hlast, htaken, hmeasures⟩

end FlashBench
