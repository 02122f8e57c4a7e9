import FlashBench.Proofs.Part.FlashArray
import FlashBench.Proofs.Validation.Course

/-!
# Runs on a healthy part

A healthy part passes every flash step whose sector is not reserved (`run_healthy`), and a run on it
returns a report, with one exception: a single page at the top of the address space
(`run_returns_unless_top`).
-/

namespace FlashBench

/-- A part that works, at rest, with a driver that nobody holds. -/
structure Rig.Healthy (layout : FlashLayout) (rig : Rig) : Prop where
  on : rig.ctrl.On layout
  idle : rig.ctrl.Idle
  works : rig.ctrl.Works rig.pollTimeout
  free : rig.lock.held = false
  resets : rig.ctrl.failInit = false

section Healthy

open Validator

variable {layout : FlashLayout} {rig : Rig} {timer : CycleTimer Rig} {config : ValidatorConfig}

theorem Rig.Healthy.fresh {plan : Plan} (h : rig.Healthy plan.layout)
    (hreturns : timer.Returns plan.config.windowTicks plan.config.cycles rig.ctrl.eraseClockHz
      rig.clocks) : plan.Fresh timer rig :=
  ⟨_, ⟨Controller.serves_loaded h.on h.idle h.works, h.free, hreturns⟩, h.resets⟩

theorem Rig.Healthy.start {plan : Plan} {ready : Option UInt32 → Clocks → Prop}
    (h : rig.Healthy plan.layout) (hbefore : plan.before = rig.ctrl.byteAt)
    (hready : ready rig.ctrl.eraseClockHz rig.clocks) : plan.Start ready rig := by
  refine ⟨⟨?_, h.free, hready⟩, h.resets⟩
  rw [hbefore]
  exact ⟨h.on, h.idle, h.works, h.on.holds_byteAt.medium⟩

/-- The last sector and the one of the target page are there, so there is a plan. -/
theorem Plan.exists_plan (hlayout : layout.validate = .ok (.ok ())) (config : ValidatorConfig)
    (before : Nat → UInt8) :
    ∃ plan : Plan, plan.layout = layout ∧ plan.config = config ∧ plan.before = before := by
  obtain ⟨g, hcharts, _⟩ := Rig.device_answers hlayout
  obtain ⟨last, hlast⟩ := hcharts.exists_last
  obtain ⟨target, htarget⟩ := hcharts.exists_target
  exact ⟨⟨layout, hlayout, last, hlast, target, htarget, config, before⟩, rfl, rfl, rfl⟩

/-- Two patterns that can show programming on the part. -/
structure ValidatorConfig.Distinct (config : ValidatorConfig) (eraseValue : UInt8) : Prop where
  patterns : config.firstPattern ≠ config.secondPattern
  first : config.firstPattern ≠ eraseValue
  second : config.secondPattern ≠ eraseValue

theorem ValidatorConfig.Distinct.eq_true {eraseValue : UInt8} (h : config.Distinct eraseValue) :
    distinctPatterns config.firstPattern config.secondPattern eraseValue = true := by
  simp [distinctPatterns, h.patterns, h.first, h.second]

/-- **A healthy part passes every flash step.** The run comes to the drift check, and a step before
it was skipped exactly when the sector it would touch starts below the reserved end. -/
theorem Validator.run_healthy (hlayout : layout.validate = .ok (.ok ()))
    (hroom : layout.stop < Word.span32 ∨
      layout.start.toNat + 2 * layout.pageSize.toNat ≤ layout.stop)
    (hhealthy : rig.Healthy layout) (hdistinct : config.Distinct layout.eraseValue)
    (htimer : timer.Apart)
    (hreturns : timer.Returns config.windowTicks config.cycles rig.ctrl.eraseClockHz rig.clocks)
    (log : Log) :
    ∃ last target report drift next, layout.Last last ∧ layout.Target target ∧
      (run Rig.device timer { config }).runOn { state := rig, log } = (.ok report, next) ∧
      report.outcomes = [(.init, .passed), (.geometryCheck, .passed),
        (.erase, onSector last config.reservedEnd), (.program, onSector target config.reservedEnd),
        (.verify, onVerify target config.reservedEnd), (.driftCheck, drift)] := by
  obtain ⟨g, hcharts, _⟩ := Rig.device_answers hlayout
  obtain ⟨plan, rfl, rfl, _⟩ := Plan.exists_plan hlayout config rig.ctrl.byteAt
  have hend := hcharts.targetPage_end_lt hroom
  obtain ⟨report, next, hrun, drift, houtcomes⟩ :=
    (plan.run_completes htimer hdistinct.eq_true (.inl hend)).returns
      { state := rig, log } (hhealthy.fresh hreturns)
  exact ⟨plan.last, plan.target, report, drift, next, plan.isLast, plan.isTarget, hrun, houtcomes⟩

theorem smallRig_healthy : smallRig.Healthy smallLayout where
  on := Controller.create_on rfl rfl _ none
  idle := Controller.create_idle _ _ _ _ _
  works := ⟨rfl, rfl, fun operation => by cases operation <;> decide⟩
  free := rfl
  resets := rfl

/-- A run on the small part with the default settings: its last sector holds the target page. -/
def smallPlan : Plan where
  layout := smallLayout
  valid := rfl
  last := ⟨0x1010, 16⟩
  isLast := ⟨by decide, by decide⟩
  target := ⟨0x1010, 16⟩
  isTarget := ⟨by decide, by decide⟩
  config := {}
  before := smallRig.ctrl.byteAt

theorem smallRig_distinct : ValidatorConfig.Distinct {} smallLayout.eraseValue :=
  ⟨by decide, by decide, by decide⟩

/-- Clocks of this kind run in the examples. -/
def smallCounter : CounterInfo := ⟨1000, 16⟩

theorem smallRig_running : smallRig.clocks.Running smallCounter :=
  ⟨rfl, by decide, rfl, rfl, by decide⟩

/-- They measure twice with the default settings. -/
theorem timer_returns_default {clocks : Clocks} {hook : Option UInt32}
    (h : clocks.Running smallCounter) :
    (Rig.timer enoughReads).Returns 35000 10000000 hook clocks :=
  Rig.timer_returns h (by decide) (by decide)

/-- The small part next to clocks that no reading moves: a counter of one megahertz and 32 bits, and
a CPU of 400 megahertz. -/
def unmovedRig : Rig := { smallRig with clocks := { Clocks.fourHundred with readStep := 0 } }

theorem unmovedRig_healthy : unmovedRig.Healthy smallLayout where
  on := smallRig_healthy.on
  idle := smallRig_healthy.idle
  works := smallRig_healthy.works
  free := rfl
  resets := rfl

/-- The default settings take 25000 ticks from the room ahead, and then 35000 are left and more. -/
theorem unmovedRig_returns :
    (Rig.timer enoughReads).Returns 35000 10000000 unmovedRig.ctrl.eraseClockHz
      unmovedRig.clocks :=
  Rig.timer_returns_ahead ⟨rfl, by decide, by decide⟩

theorem Validator.run_healthy_unmovedRig :
    smallLayout.validate = .ok (.ok ()) ∧
      (smallLayout.stop < Word.span32 ∨
        smallLayout.start.toNat + 2 * smallLayout.pageSize.toNat ≤ smallLayout.stop) ∧
      unmovedRig.Healthy smallLayout ∧ ValidatorConfig.Distinct {} smallLayout.eraseValue ∧
      (Rig.timer enoughReads).Apart ∧
      (Rig.timer enoughReads).Returns 35000 10000000 unmovedRig.ctrl.eraseClockHz
        unmovedRig.clocks ∧
      ∃ report drift next,
        (run Rig.device (Rig.timer enoughReads) { config := {} }).runOn { state := unmovedRig } =
          (.ok report, next) ∧
        report.outcomes = [(.init, .passed), (.geometryCheck, .passed), (.erase, .passed),
          (.program, .passed), (.verify, .passed), (.driftCheck, drift)] := by
  have hlayout : smallLayout.validate = .ok (.ok ()) := rfl
  have hroom : smallLayout.stop < Word.span32 ∨
      smallLayout.start.toNat + 2 * smallLayout.pageSize.toNat ≤ smallLayout.stop := by decide
  have htimer := Rig.timer_apart enoughReads
  obtain ⟨last, target, report, drift, next, _, _, hrun, houtcomes⟩ :=
    Validator.run_healthy hlayout hroom unmovedRig_healthy smallRig_distinct htimer
      unmovedRig_returns {}
  -- nothing starts below address zero
  have hpassed : ∀ sector : Sector, onSector sector 0 = .passed := fun _ =>
    if_neg UInt32.not_lt_zero
  have hverified : onVerify target 0 = .passed := if_neg UInt32.not_lt_zero
  rw [hpassed, hpassed, hverified] at houtcomes
  exact ⟨hlayout, hroom, unmovedRig_healthy, smallRig_distinct, htimer, unmovedRig_returns, report,
    drift, next, hrun, houtcomes⟩

/-- **The run returns** on a healthy part, but for one kind of part: when the only page ends with the
address space and is not reserved, the end of the page is computed in 32 bits and overflows. -/
theorem Validator.run_returns_unless_top (hlayout : layout.validate = .ok (.ok ()))
    (hhealthy : rig.Healthy layout) (hdistinct : config.Distinct layout.eraseValue)
    (htimer : timer.Apart)
    (hreturns : timer.Returns config.windowTicks config.cycles rig.ctrl.eraseClockHz rig.clocks)
    (log : Log) :
    let outcome := ((run Rig.device timer { config }).runOn { state := rig, log }).1
    let overflows := layout.stop = Word.span32 ∧
      layout.stop = layout.start.toNat + layout.pageSize.toNat ∧ config.reservedEnd ≤ layout.start
    (¬ overflows → ∃ report, outcome = .ok report) ∧ (overflows → outcome = .error .arithmetic) := by
  obtain ⟨g, hcharts, _⟩ := Rig.device_answers hlayout
  obtain ⟨plan, rfl, rfl, _⟩ := Plan.exists_plan hlayout config rig.ctrl.byteAt
  have hpaged := hcharts.paged
  have htop := hcharts.top
  constructor
  · intro hnot
    have hend : plan.layout.targetPage + plan.layout.pageSize.toNat < Word.span32 ∨
        plan.target.start < plan.config.reservedEnd := by
      by_cases hroom : plan.layout.stop < Word.span32 ∨
          plan.layout.start.toNat + 2 * plan.layout.pageSize.toNat ≤ plan.layout.stop
      · exact .inl (hcharts.targetPage_end_lt hroom)
      · -- the only page is the last one, so it is reserved
        obtain ⟨hstop, hone⟩ := not_or.mp hroom
        rw [hcharts.start_of_one_page plan.isTarget hone]
        refine .inr (UInt32.not_le.mp fun hreserved => hnot ⟨by omega, ?_, hreserved⟩)
        exact hcharts.stop_of_one_page hone
    obtain ⟨report, next, hrun, _⟩ :=
      (plan.run_completes htimer hdistinct.eq_true hend).returns
        { state := rig, log } (hhealthy.fresh hreturns)
    exact ⟨report, congrArg Prod.fst hrun⟩
  · rintro ⟨hstop, hpage, hreserved⟩
    -- with one page the target page starts with the layout, and ends with the address space
    have hone : ¬ plan.layout.start.toNat + 2 * plan.layout.pageSize.toNat ≤ plan.layout.stop := by
      omega
    have hend : Word.span32 ≤ plan.layout.targetPage + plan.layout.pageSize.toNat := by
      rw [FlashLayout.targetPage, if_neg hone]
      omega
    have hfree : ¬ plan.target.start < plan.config.reservedEnd := by
      rw [hcharts.start_of_one_page plan.isTarget hone]
      exact UInt32.not_lt.mpr hreserved
    obtain ⟨fault, next, hrun, rfl⟩ :=
      (plan.run_stops htimer hdistinct.eq_true hend hfree).stops
        { state := rig, log } (hhealthy.fresh hreturns)
    exact congrArg Prod.fst hrun

theorem Validator.run_returns_unmovedRig :
    smallLayout.validate = .ok (.ok ()) ∧ unmovedRig.Healthy smallLayout ∧
      ValidatorConfig.Distinct {} smallLayout.eraseValue ∧ (Rig.timer enoughReads).Apart ∧
      (Rig.timer enoughReads).Returns 35000 10000000 unmovedRig.ctrl.eraseClockHz
        unmovedRig.clocks ∧
      smallLayout.stop ≠ Word.span32 ∧
      ∃ report, ((run Rig.device (Rig.timer enoughReads) { config := {} }).runOn
        { state := unmovedRig }).1 = .ok report := by
  have hlayout : smallLayout.validate = .ok (.ok ()) := rfl
  have htimer := Rig.timer_apart enoughReads
  have hstop : smallLayout.stop ≠ Word.span32 := by decide
  have hreturns := Validator.run_returns_unless_top hlayout unmovedRig_healthy smallRig_distinct
    htimer unmovedRig_returns {}
  exact ⟨hlayout, unmovedRig_healthy, smallRig_distinct, htimer, unmovedRig_returns, hstop,
    hreturns.1 fun hoverflows => hstop hoverflows.1⟩

/-- One page, the last one of the address space. -/
def topLayout : FlashLayout where
  start := 0xFFFFFF00
  pageSize := 256
  sectors := [⟨256, 1⟩]

def topRig : Rig where
  ctrl := .create topLayout ⟨#[⟨0xFFFFFF00, 256, 1⟩]⟩ 256 {} none
  clocks := { info := ⟨1000, 16⟩, cpuHz := 1000 }

/-- A run on this part with the default settings. -/
def topPlan : Plan where
  layout := topLayout
  valid := rfl
  last := ⟨0xFFFFFF00, 256⟩
  isLast := ⟨by decide, by decide⟩
  target := ⟨0xFFFFFF00, 256⟩
  isTarget := ⟨by decide, by decide⟩
  config := {}
  before := topRig.ctrl.byteAt

theorem topRig_healthy : topRig.Healthy topLayout where
  on := Controller.create_on rfl rfl _ none
  idle := Controller.create_idle _ _ _ _ _
  works := ⟨rfl, rfl, fun operation => by cases operation <;> decide⟩
  free := rfl
  resets := rfl

/-- The layout is valid and the part is healthy, and the run stops with a fault. -/
theorem Validator.run_error_topRig :
    topLayout.validate = .ok (.ok ()) ∧ topRig.Healthy topLayout ∧
      ValidatorConfig.Distinct {} topLayout.eraseValue ∧
      ∃ next, (run Rig.device (Rig.timer enoughReads) { config := {} }).runOn
        { state := topRig } = (.error .arithmetic, next) := by
  have hlayout : topLayout.validate = .ok (.ok ()) := rfl
  have hdistinct : ValidatorConfig.Distinct {} topLayout.eraseValue :=
    ⟨by decide, by decide, by decide⟩
  obtain ⟨_, next, hrun, rfl⟩ := (topPlan.run_stops (Rig.timer_apart enoughReads)
    hdistinct.eq_true (by decide) UInt32.not_lt_zero).stops { state := topRig }
      (topRig_healthy.fresh (timer_returns_default smallRig_running))
  exact ⟨hlayout, topRig_healthy, hdistinct, next, hrun⟩

end Healthy

end FlashBench
