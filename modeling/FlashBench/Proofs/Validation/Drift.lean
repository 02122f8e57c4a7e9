import FlashBench.Proofs.Part.Switch
import FlashBench.Proofs.Validation.Timed
import Mathlib.Algebra.Order.Field.Rat
import Mathlib.Algebra.Order.Floor.Div
import Mathlib.Data.Nat.Cast.Order.Field
import Mathlib.Tactic.Linarith
import Mathlib.Tactic.Positivity

/-!
# What the drift check finds out

The two samples of a run measure the same work. On a CPU whose frequency nobody changes they are at
most a tick and a microsecond apart, so a check that allows for this **raises no false alarm**
(`run_steady`). When an erase has switched the CPU in between, **the change is found** unless it is
within what is allowed and two ticks and two microseconds more (`run_switched`): a tick is lost where
work is turned into ticks, for each sample, and a microsecond where readings are turned into time.
-/

namespace FlashBench

/-! ## Two samples of the same work -/

section Samples

variable {info : CounterInfo} {before after : UInt32} {first second : TimerSample}
  {firstTicks secondTicks : Nat}

/-- A sample takes no more time than another but for the ticks that it takes more, and less than two
microseconds. -/
theorem TimerSample.Spans.micros_lt (hfirst : first.Spans info firstTicks)
    (hsecond : second.Spans info secondTicks) (hhz : 1 ≤ info.hz.toNat) :
    second.micros * info.hz.toNat + firstTicks * 1000000 <
      first.micros * info.hz.toNat + secondTicks * 1000000 + 2 * info.hz.toNat := by
  have hfirst := (hfirst.micros_bounds hhz).2
  have hsecond := (hsecond.micros_bounds hhz).1
  omega

/-- **Samples that are a tick apart** at most take about the same time. -/
theorem TimerSample.Spans.within_tick (hfirst : first.Spans info firstTicks)
    (hsecond : second.Spans info secondTicks) (hhz : 1 ≤ info.hz.toNat)
    (hmore : firstTicks ≤ secondTicks) (hless : secondTicks ≤ firstTicks + 1) :
    ((second.micros : Int) - first.micros).natAbs ≤ 1000000 ⌈/⌉ info.hz.toNat + 1 := by
  have hceil := le_smul_ceilDiv (b := 1000000) (Nat.lt_of_lt_of_le Nat.zero_lt_one hhz)
  rw [smul_eq_mul] at hceil
  have hlonger : second.micros < first.micros + (1000000 ⌈/⌉ info.hz.toNat + 2) := by
    have hlt := hfirst.micros_lt hsecond hhz
    refine Nat.lt_of_mul_lt_mul_right (a := info.hz.toNat) ?_
    rw [Nat.add_mul, Nat.add_mul, Nat.mul_comm (1000000 ⌈/⌉ info.hz.toNat)]
    omega
  have hshorter : first.micros < second.micros + 2 := by
    have hlt := hsecond.micros_lt hfirst hhz
    refine Nat.lt_of_mul_lt_mul_right (a := info.hz.toNat) ?_
    rw [Nat.add_mul]
    omega
  omega

/-- Samples whose ticks differ take different times. -/
theorem TimerSample.Spans.time_apart (hfirst : first.Spans info firstTicks)
    (hsecond : second.Spans info secondTicks) (hhz : 1 ≤ info.hz.toNat) :
    |(secondTicks : ℚ) - firstTicks| * 1000000 <
      |(second.micros : ℚ) - first.micros| * info.hz.toNat + 2 * info.hz.toNat := by
  have hlonger : (first.micros * info.hz.toNat + secondTicks * 1000000 : ℚ) <
      second.micros * info.hz.toNat + firstTicks * 1000000 + 2 * info.hz.toNat := by
    exact_mod_cast hsecond.micros_lt hfirst hhz
  have hshorter : (second.micros * info.hz.toNat + firstTicks * 1000000 : ℚ) <
      first.micros * info.hz.toNat + secondTicks * 1000000 + 2 * info.hz.toNat := by
    exact_mod_cast hfirst.micros_lt hsecond hhz
  rcases abs_cases ((secondTicks : ℚ) - firstTicks) with ⟨hticks, _⟩ | ⟨hticks, _⟩
  · have hmicros : ((second.micros : ℚ) - first.micros) * info.hz.toNat ≤
        |(second.micros : ℚ) - first.micros| * info.hz.toNat := by gcongr; exact le_abs_self _
    rw [hticks]
    linarith
  · have hmicros : -((second.micros : ℚ) - first.micros) * info.hz.toNat ≤
        |(second.micros : ℚ) - first.micros| * info.hz.toNat := by gcongr; exact neg_le_abs _
    rw [hticks]
    linarith

/-- The ticks of work are those of exact division, rounded down. -/
theorem workTicks_floor (info : CounterInfo) (hcpu : 1 ≤ before.toNat) (cycles : UInt32)
    (carried : Nat) :
    (workTicks info before cycles carried : ℚ) ≤
        (cycles.toNat * info.hz.toNat + carried) / before.toNat ∧
      (cycles.toNat * info.hz.toNat + carried : ℚ) / before.toNat <
        workTicks info before cycles carried + 1 := by
  have hpos : (0 : ℚ) < before.toNat := by exact_mod_cast hcpu
  rw [workTicks_eq info hcpu, le_div_iff₀ hpos, div_lt_iff₀ hpos]
  constructor
  · exact_mod_cast Nat.div_mul_le_self _ _
  · exact_mod_cast Nat.lt_mul_of_div_lt (Nat.lt_succ_self _) hcpu

/-- **Ticks against work.** What a frequency takes more than another for the same work shows in the
ticks, up to two of them. -/
theorem work_apart (info : CounterInfo) (hbefore : 1 ≤ before.toNat) (hafter : 1 ≤ after.toNat)
    (cycles : UInt32) :
    |(cycles.toNat * info.hz.toNat / after.toNat : ℚ) -
        cycles.toNat * info.hz.toNat / before.toNat| <
      |(workTicks info after cycles (workCarried info before cycles 0) : ℚ) -
        workTicks info before cycles 0| + 2 := by
  have hbeforePos : (0 : ℚ) < before.toNat := by exact_mod_cast hbefore
  have hafterPos : (0 : ℚ) < after.toNat := by exact_mod_cast hafter
  have hfirst := workTicks_floor info hbefore cycles 0
  have hsecond := workTicks_floor info hafter cycles (workCarried info before cycles 0)
  have hcarried : (workCarried info before cycles 0 : ℚ) < before.toNat := by
    exact_mod_cast workCarried_lt info hbefore cycles 0
  rw [Nat.cast_zero, add_zero] at hfirst
  rw [add_div] at hsecond
  have hnonneg : (0 : ℚ) ≤ workCarried info before cycles 0 / after.toNat := by positivity
  have hapart := le_abs_self ((workTicks info after cycles (workCarried info before cycles 0) : ℚ) -
    workTicks info before cycles 0)
  rw [abs_sub_lt_iff]
  refine ⟨by linarith, ?_⟩
  rcases Nat.lt_or_ge after.toNat before.toNat with hslower | hfaster
  · -- a slower CPU takes longer, so there is nothing to show on this side
    have hlonger : (cycles.toNat * info.hz.toNat / before.toNat : ℚ) ≤
        cycles.toNat * info.hz.toNat / after.toNat := by
      gcongr
    linarith [abs_nonneg ((workTicks info after cycles (workCarried info before cycles 0) : ℚ) -
      workTicks info before cycles 0)]
  · -- what was carried over is less than a tick at the new frequency as well
    have hless : (workCarried info before cycles 0 : ℚ) / after.toNat < 1 := by
      rw [div_lt_one hafterPos]
      exact hcarried.trans_le (by exact_mod_cast hfaster)
    have hneg := neg_le_abs ((workTicks info after cycles (workCarried info before cycles 0) : ℚ) -
      workTicks info before cycles 0)
    linarith

/-- **Work that takes long enough** at one of two frequencies shows in the samples: a tick is lost
for each of them, and up to two microseconds. -/
theorem TimerSample.Spans.beyond {cycles : UInt32} {divisor : Nat}
    (hfirst : first.Spans info (workTicks info before cycles 0))
    (hsecond : second.Spans info (workTicks info after cycles (workCarried info before cycles 0)))
    (hhz : 1 ≤ info.hz.toNat) (hbefore : 1 ≤ before.toNat) (hafter : 1 ≤ after.toNat)
    (hfar : (first.micros / divisor + 2 * 1000000 / info.hz.toNat + 2 : ℚ) <
      |(cycles.toNat * info.hz.toNat / after.toNat : ℚ) -
        cycles.toNat * info.hz.toNat / before.toNat| * 1000000 / info.hz.toNat) :
    first.micros / divisor < ((second.micros : Int) - first.micros).natAbs := by
  have hhzPos : (0 : ℚ) < info.hz.toNat := by exact_mod_cast hhz
  have hwork := work_apart info hbefore hafter cycles
  have htime := hfirst.time_apart hsecond hhz
  rw [lt_div_iff₀ hhzPos, add_mul, add_mul, div_mul_cancel₀ _ hhzPos.ne'] at hfar
  have hbeyond : (first.micros / divisor : ℚ) < |(second.micros : ℚ) - first.micros| :=
    lt_of_mul_lt_mul_right (by linarith) hhzPos.le
  have hcast : ((first.micros / divisor : Nat) : ℚ) <
      (((second.micros : Int) - first.micros).natAbs : Nat) := by
    rw [Nat.cast_natAbs]
    push_cast
    exact lt_of_le_of_lt Nat.cast_div_le hbeyond
  exact_mod_cast hcast

end Samples

/-! ## Runs that come to the drift check -/

section Runs

variable {σ : Type} {get : σ → Clocks} {put : Clocks → σ → σ} {quiet : σ → Prop}
  {info : CounterInfo} {before after cpuHz : UInt32} {device : Device σ}
  {config : ValidatorConfig} {patience : Nat}

/-- Nothing that the device does has to do with the clocks, as long as the hardware is `quiet`. -/
structure Device.LeavesClocks (get : σ → Clocks) (quiet : σ → Prop) (device : Device σ) :
    Prop where
  calls : ∀ q : Clocks → Prop, device.Keeps (fun s => quiet s ∧ q (get s)) fun _ => True
  init : ∀ q : Clocks → Prop, Attempt.Keeps (fun s => quiet s ∧ q (get s)) device.init
  free : ∀ q : Clocks → Prop, Attempt.Keeps (fun s => quiet s ∧ q (get s)) device.free

theorem Device.LeavesClocks.switches (h : device.LeavesClocks get quiet) (carried : Nat) :
    device.Switches (Clocks.PacedIn get quiet info carried) cpuHz cpuHz where
  asks := fun cpuHz => { h.calls (Clocks.Paced info cpuHz carried) with
    eraseSector := nofun
    programPage := nofun }
  uses := h.calls _
  init := fun cpuHz => h.init (Clocks.Paced info cpuHz carried)
  free := fun cpuHz => h.free (Clocks.Paced info cpuHz carried)
  erase := fun address => ((h.calls _).eraseSector address trivial).value

namespace Validator

/-- The driver of a part whose erases do not switch the CPU. -/
theorem rig_leavesClocks :
    Rig.device.LeavesClocks (·.clocks) fun rig => rig.ctrl.eraseClockHz = none where
  calls := fun _ => Rig.device_hooked nofun
  init := fun _ => Rig.init_hooked
  free := fun _ => Rig.free_hooked

/-- The driver of a part whose erases switch the CPU. -/
theorem rig_switches (carried : Nat) :
    Rig.device.Switches
      (Clocks.PacedIn (·.clocks) (fun rig : Rig => rig.ctrl.eraseClockHz = some after) info carried)
      before after where
  asks := fun _ => Rig.device_asks
  uses := Rig.device_hooked fun hz heq _ h =>
    ⟨h.running.switch hz, (Option.some.inj heq).symm, h.carried_eq⟩
  init := fun _ => Rig.init_hooked
  free := fun _ => Rig.free_hooked
  erase := fun address => (Rig.eraseSector_hooked
    (q := fun clocks => clocks.Running info ∧ clocks.carried = carried)
    (fun _ h => ⟨h.1.switch _, h.2⟩) address).mono
      (fun _ h => ⟨h.1, h.2.running, h.2.carried_eq⟩)
      (fun _ _ h => ⟨h.1.1, h.1.2.1, h.2, h.1.2.2⟩) (fun _ _ h => h) fun _ _ h => h

/-- Rooms for the samples at the frequencies that a run starts with and ends with. -/
theorem timing_of_rooms (hput : ∀ clocks s, get (put clocks s) = clocks)
    (hquiet : ∀ clocks s, quiet s → quiet (put clocks s))
    (hswitches : ∀ carried,
      device.Switches (Clocks.PacedIn get quiet info carried) before after)
    (hbits : info.bits.toNat ≤ 32) (hbefore : 1 ≤ before.toNat) (hafter : 1 ≤ after.toNat)
    (hwindow : config.windowTicks.toNat < 2 ^ info.bits.toNat - 1)
    (hfirst : config.cycles.toNat * info.hz.toNat / before.toNat + 2 ≤ config.windowTicks.toNat)
    (hsecond : (config.cycles.toNat * info.hz.toNat + before.toNat) / after.toNat + 1 ≤
      config.windowTicks.toNat)
    (hpatience : config.windowTicks.toNat < patience) :
    Timing get put quiet info before after device (.ofClocks get put patience) config where
  get_put := hput
  quiet_put := hquiet
  ticker := rfl
  spin := rfl
  switches := hswitches
  window := by
    rw [UInt32.lt_iff_toNat_lt, CounterInfo.toNat_maxCount, Nat.min_eq_left hbits]
    exact hwindow
  patience := hpatience
  firstRoom := by
    rw [workTicks_zero info hbefore]
    exact (Nat.le_succ _).trans hfirst
  secondRoom := fun outcomes => by
    have hcarried : workCarried info before config.cycles 0 ≤ before.toNat :=
      (workCarried_lt info hbefore _ _).le
    rcases pace_cases before after outcomes with hpace | hpace
    · rw [← workTicks_zero info hbefore] at hfirst
      rw [hpace]
      exact (Nat.succ_le_succ (workTicks_bounds info hbefore _ hcarried).2).trans hfirst
    · rw [hpace]
      exact (Nat.succ_le_succ (workTicks_le info hafter _ hcarried)).trans hsecond

/-- What is reported of two samples and the verdict on them. -/
structure Judged (report : ValidationReport) (first second : TimerSample) (divisor : UInt32) :
    Prop where
  baseline : report.baselineMicros = some first.micros
  final : report.finalMicros = some second.micros
  passed : ((second.micros : Int) - first.micros).natAbs ≤ first.micros / divisor.toNat →
    (.driftCheck, .passed) ∈ report.outcomes ∧ report.state = .done
  failed : first.micros / divisor.toNat < ((second.micros : Int) - first.micros).natAbs →
    report.state =
      .failed (.driftExceeded first.micros second.micros (first.micros / divisor.toNat))

theorem judged_of_tells {v last : Validator} {first second : TimerSample}
    {report : ValidationReport} (hfirst : v.baseline = some first)
    (hlast : last = concluded .driftCheck (judgeDrift first.micros second.micros
      (allowedDrift first.micros v.config.driftDivisor), { v with finalSample := some second }))
    (htells : last.Tells report) : Judged report first second v.config.driftDivisor := by
  subst hlast
  have hbaseline := htells.baseline
  have hfinal := htells.finalSample
  have hstate := htells.state
  have houtcomes := htells.outcomes
  rw [concluded_baseline, hfirst] at hbaseline
  rw [concluded_finalSample] at hfinal
  rw [concluded_outcomes, outcomeOf_judgeDrift] at houtcomes
  refine ⟨hbaseline, hfinal, fun hwithin => ?_, fun hbeyond => ?_⟩
  · rw [judgeDrift, apart_eq, allowedDrift, if_neg (Nat.not_lt.mpr hwithin)] at hstate
    rw [if_neg (Nat.not_lt.mpr hwithin)] at houtcomes
    exact ⟨houtcomes ▸ List.mem_concat_self, hstate⟩
  · rw [judgeDrift, apart_eq, allowedDrift, if_pos hbeyond] at hstate
    exact hstate

/-- A run on fresh clocks that comes to the drift check reports two samples that span the ticks of
their work, and the verdict on them. -/
theorem run_judged
    (h : Timing get put quiet info before after device (.ofClocks get put patience) config)
    {world : World σ} {start : UInt32} (hstill : quiet world.state)
    (hclocks : get world.state = Clocks.startingAt { info, cpuHz := before } start)
    {events : Nat} {reached : Validator} {next : World σ}
    (hreached : (afterEvents device (.ofClocks get put patience) events { config }).runOn world =
      (.ok reached, next)) (hdrift : reached.state = .at .driftCheck) :
    ∃ last final report closing first second,
      (afterEvents device (.ofClocks get put patience) Step.all.length { config }).runOn world =
        (.ok last, final) ∧
      (run device (.ofClocks get put patience) { config }).runOn world = (.ok report, closing) ∧
      last.baseline = some first ∧ last.finalSample = some second ∧
      first.Spans info (workTicks info before config.cycles 0) ∧
      second.Spans info (workTicks info (pace before after reached.outcomes) config.cycles
        (workCarried info before config.cycles 0)) ∧
      Judged report first second config.driftDivisor := by
  have hfresh : (get world.state).Paced info before 0 :=
    hclocks ▸ Clocks.startingAt_paced info before start
  obtain ⟨last, final, report, closing, hlast, hrun, rfl, htells, first, second, hfirst, hspans,
    hspans', hmeasured⟩ := run_timed h hstill hfresh hreached hdrift
  refine ⟨last, final, report, closing, first, second, hlast, hrun, ?_, ?_, hspans, hspans',
    judged_of_tells hfirst hmeasured htells⟩
  · rw [hmeasured, concluded_baseline]
    exact hfirst
  · rw [hmeasured, concluded_finalSample]

/-! ## Verdicts -/

/-- **No false alarm.** On clocks whose frequency nobody changes, the two samples of a run that comes
to the drift check do not wrap and are at most a tick, rounded up to microseconds, and a microsecond
apart. So the check passes if it allows for this. -/
theorem run_steady (hput : ∀ clocks s, get (put clocks s) = clocks)
    (hquiet : ∀ clocks s, quiet s → quiet (put clocks s))
    (hdevice : device.LeavesClocks get quiet) (hbits : info.bits.toNat ≤ 32)
    (hhz : 1 ≤ info.hz.toNat) (hcpu : 1 ≤ cpuHz.toNat)
    (hwindow : config.windowTicks.toNat < 2 ^ info.bits.toNat - 1)
    (hroom : config.cycles.toNat * info.hz.toNat / cpuHz.toNat + 2 ≤ config.windowTicks.toNat)
    (hpatience : config.windowTicks.toNat < patience) {world : World σ} {start : UInt32}
    (hstill : quiet world.state)
    (hclocks : get world.state = Clocks.startingAt { info, cpuHz } start)
    {events : Nat} {reached : Validator} {next : World σ}
    (hreached : (afterEvents device (.ofClocks get put patience) events { config }).runOn world =
      (.ok reached, next)) (hdrift : reached.state = .at .driftCheck) :
    ∃ last final report closing first second,
      (afterEvents device (.ofClocks get put patience) Step.all.length { config }).runOn world =
        (.ok last, final) ∧
      (run device (.ofClocks get put patience) { config }).runOn world = (.ok report, closing) ∧
      last.baseline = some first ∧ last.finalSample = some second ∧
      first.start ≤ first.stop ∧ second.start ≤ second.stop ∧
      report.baselineMicros = some first.micros ∧ report.finalMicros = some second.micros ∧
      ((second.micros : Int) - first.micros).natAbs ≤ 1000000 ⌈/⌉ info.hz.toNat + 1 ∧
      (1000000 ⌈/⌉ info.hz.toNat + 1 ≤ first.micros / config.driftDivisor.toNat →
        (.driftCheck, .passed) ∈ report.outcomes ∧ report.state = .done) := by
  have hsecond : (config.cycles.toNat * info.hz.toNat + cpuHz.toNat) / cpuHz.toNat + 1 ≤
      config.windowTicks.toNat := by
    rw [Nat.add_div_right _ hcpu]
    exact hroom
  have htiming := timing_of_rooms hput hquiet hdevice.switches hbits hcpu hcpu
    hwindow hroom hsecond hpatience
  obtain ⟨last, final, report, closing, first, second, hlast, hrun, hfirst, hfinal, hspans,
    hspans', hjudged⟩ := run_judged htiming hstill hclocks hreached hdrift
  rw [pace, ite_self] at hspans'
  -- the second sample finds less than a tick carried over
  obtain ⟨hmore, hless⟩ := workTicks_bounds info hcpu config.cycles
    (workCarried_lt info hcpu config.cycles 0).le
  have hwithin := hspans.within_tick hspans' hhz hmore hless
  exact ⟨last, final, report, closing, first, second, hlast, hrun, hfirst, hfinal,
    hspans.start_le_stop, hspans'.start_le_stop, hjudged.baseline, hjudged.final, hwithin,
    fun hallowed => hjudged.passed (hwithin.trans hallowed)⟩

/-- A thousand ticks of work on the clocks of the small part, with a tick of a millisecond. -/
theorem run_steady_smallRig :
    smallRig.ctrl.eraseClockHz = none ∧
      smallRig.clocks = Clocks.startingAt { info := smallCounter, cpuHz := 1000 } 0 ∧
      ∃ reached next report closing,
        (afterEvents Rig.device (Rig.timer enoughReads) 5 { config := { cycles := 1000 } }).runOn
          { state := smallRig } = (.ok reached, next) ∧ reached.state = .at .driftCheck ∧
        (run Rig.device (Rig.timer enoughReads) { config := { cycles := 1000 } }).runOn
          { state := smallRig } = (.ok report, closing) ∧
        report.baselineMicros = some 1001000 ∧ report.state = .done := by
  have hcomes : ((afterEvents Rig.device (Rig.timer enoughReads) 5
      { config := { cycles := 1000 } }).runOn { state := smallRig }).1.toOption.map (·.state) =
      some (.at .driftCheck) := by
    decide +kernel
  have htells : ((run Rig.device (Rig.timer enoughReads)
      { config := { cycles := 1000 } }).runOn { state := smallRig }).1.toOption.map
        (·.baselineMicros) = some (some 1001000) := by
    decide +kernel
  obtain ⟨reached, next, hreached, hdrift⟩ := Act.runOn_of_map hcomes
  obtain ⟨report, closing, hreport, hbaseline⟩ := Act.runOn_of_map htells
  have hclocks : smallRig.clocks = Clocks.startingAt { info := smallCounter, cpuHz := 1000 } 0 := rfl
  obtain ⟨_, _, _, _, first, _, _, hrun, _, _, _, _, hfirst, _, _, hpasses⟩ :=
    @run_steady Rig (·.clocks) Rig.withClocks (·.ctrl.eraseClockHz = none) smallCounter 1000
      Rig.device { cycles := 1000 } enoughReads (fun _ _ => rfl) (fun _ _ h => h) rig_leavesClocks
      (by decide) (by decide) (by decide) (by decide) (by decide) (by decide) { state := smallRig } 0
      rfl hclocks 5 reached next hreached hdrift
  obtain ⟨rfl, rfl⟩ : _ = report ∧ _ = closing := by
    simpa only [Prod.mk.injEq, Except.ok.injEq] using hrun.symm.trans hreport
  obtain hmicros : first.micros = 1001000 := Option.some.inj (hfirst.symm.trans hbaseline)
  exact ⟨rfl, hclocks, reached, next, _, _, hreached, hdrift, hrun, hbaseline,
    (hpasses (by rw [hmicros]; decide)).2⟩

/-- The small part, whose erases switch the CPU to half its frequency. -/
def hookedRig : Rig :=
  { smallRig with ctrl := { smallRig.ctrl with eraseClockHz := some 500 } }

/-- **A change of the clock is found.** An erase switches the CPU, and a run that comes to the drift
check after it fails there, unless the same work takes about as long at both frequencies: within what
is allowed, two ticks and two microseconds. -/
theorem run_switched {world : World Rig} {start : UInt32}
    (hhook : world.state.ctrl.eraseClockHz = some after)
    (hclocks : world.state.clocks = Clocks.startingAt { info, cpuHz := before } start)
    (hbits : info.bits.toNat ≤ 32) (hhz : 1 ≤ info.hz.toNat) (hbefore : 1 ≤ before.toNat)
    (hafter : 1 ≤ after.toNat) (hwindow : config.windowTicks.toNat < 2 ^ info.bits.toNat - 1)
    (hfirst : config.cycles.toNat * info.hz.toNat / before.toNat + 2 ≤ config.windowTicks.toNat)
    (hsecond : (config.cycles.toNat * info.hz.toNat + before.toNat) / after.toNat + 2 ≤
      config.windowTicks.toNat)
    (hpatience : config.windowTicks.toNat < patience)
    {events : Nat} {reached : Validator} {next : World Rig}
    (hreached : (afterEvents Rig.device (Rig.timer patience) events { config }).runOn world =
      (.ok reached, next)) (hdrift : reached.state = .at .driftCheck)
    (herased : (.erase, .passed) ∈ reached.outcomes ∨ (.program, .passed) ∈ reached.outcomes) :
    ∃ report closing baseline measured,
      (run Rig.device (Rig.timer patience) { config }).runOn world = (.ok report, closing) ∧
      report.baselineMicros = some baseline ∧ report.finalMicros = some measured ∧
      ((baseline / config.driftDivisor.toNat + 2 * 1000000 / info.hz.toNat + 2 : ℚ) <
          |(config.cycles.toNat * info.hz.toNat / after.toNat : ℚ) -
            config.cycles.toNat * info.hz.toNat / before.toNat| * 1000000 / info.hz.toNat →
        report.state = .failed (.driftExceeded baseline measured
          (baseline / config.driftDivisor.toNat))) := by
  have htiming : Timing (·.clocks) Rig.withClocks _ info before after Rig.device
      (.ofClocks (·.clocks) Rig.withClocks patience) config :=
    timing_of_rooms (fun _ _ => rfl) (fun _ _ h => h) rig_switches hbits hbefore hafter hwindow
      hfirst ((Nat.le_succ _).trans hsecond) hpatience
  obtain ⟨_, _, report, closing, first, second, _, hrun, _, _, hspans, hspans', hjudged⟩ :=
    run_judged htiming hhook hclocks hreached hdrift
  have hpace : pace before after reached.outcomes = after := if_pos (List.any_eq_true.mpr <| by
    rcases herased with hmem | hmem
    · exact ⟨_, hmem, rfl⟩
    · exact ⟨_, hmem, rfl⟩)
  rw [hpace] at hspans'
  refine ⟨report, closing, first.micros, second.micros, hrun, hjudged.baseline, hjudged.final,
    fun hfar => hjudged.failed (hspans.beyond hspans' hhz hbefore hafter hfar)⟩

/-- The small part, whose erases let the CPU run at half its frequency. -/
theorem run_switched_smallRig :
    ∃ reached next report closing measured,
      (afterEvents Rig.device (Rig.timer enoughReads) 5 { config := { cycles := 1000 } }).runOn
        { state := hookedRig } = (.ok reached, next) ∧ reached.state = .at .driftCheck ∧
      (.erase, .passed) ∈ reached.outcomes ∧
      (run Rig.device (Rig.timer enoughReads) { config := { cycles := 1000 } }).runOn
        { state := hookedRig } = (.ok report, closing) ∧
      report.state = .failed (.driftExceeded 1001000 measured 5005) := by
  have hcomes : ((afterEvents Rig.device (Rig.timer enoughReads) 5
      { config := { cycles := 1000 } }).runOn { state := hookedRig }).1.toOption.map
        (fun reached => (reached.state, decide ((.erase, .passed) ∈ reached.outcomes))) =
      some (.at .driftCheck, true) := by
    decide +kernel
  have htells : ((run Rig.device (Rig.timer enoughReads)
      { config := { cycles := 1000 } }).runOn { state := hookedRig }).1.toOption.map
        (·.baselineMicros) = some (some 1001000) := by
    decide +kernel
  obtain ⟨reached, next, hreached, hstate⟩ := Act.runOn_of_map hcomes
  obtain ⟨hdrift, herased⟩ := Prod.mk.inj hstate
  obtain ⟨report, closing, hreport, hbaseline⟩ := Act.runOn_of_map htells
  obtain ⟨_, _, baseline, measured, hrun, hfirst, _, hfails⟩ :=
    @run_switched smallCounter 1000 500 { cycles := 1000 } enoughReads { state := hookedRig } 0
      rfl rfl (by decide) (by decide) (by decide) (by decide) (by decide) (by decide) (by decide)
      (by decide) 5 reached next hreached hdrift (.inl (of_decide_eq_true herased))
  obtain ⟨rfl, rfl⟩ : _ = report ∧ _ = closing := by
    simpa only [Prod.mk.injEq, Except.ok.injEq] using hrun.symm.trans hreport
  obtain rfl : baseline = 1001000 := Option.some.inj (hfirst.symm.trans hbaseline)
  refine ⟨reached, next, _, _, measured, hreached, hdrift, of_decide_eq_true herased, hrun,
    hfails ?_⟩
  show (1001000 / 200 + 2 * 1000000 / 1000 + 2 : ℚ) <
    |(1000 * 1000 / 500 : ℚ) - 1000 * 1000 / 1000| * 1000000 / 1000
  norm_num

end Validator

end Runs

end FlashBench
