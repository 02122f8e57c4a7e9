import FlashBench.Proofs.Validation.Healthy

/-!
# Erases that do nothing

An erase may report success and leave the medium as it is, while programs and reads work
(`Rig.ErasesNothing`). A run looks at what erases leave, but it cannot tell an erase from bytes that
were erased before. Nor does it see that the page was not erased when a pattern can be programmed
over what stands there: programming only moves the bits of a byte away from the erase value, and two
patterns may differ in such bits alone.

So nothing is noticed exactly if what stands in the part takes the place of all three erases
(`FlashLayout.HidesErases`). With patterns of which the second cannot be programmed over the first,
something is always noticed.
-/

namespace FlashBench

variable {layout : FlashLayout} {last target : Sector} {config : ValidatorConfig}
  {bytes : Nat → UInt8}

/-- The erase reports success and leaves the medium as it is, and all else that it might touch. -/
def Rig.ErasesNothing (layout : FlashLayout) (erase : UInt32 → Attempt FlashError Rig Unit) :
    Prop :=
  ∀ K, Rig.Aside K → ∀ bytes, ∀ sector ∈ layout.sectorList,
    Attempt.Ends (Rig.InOrder layout K bytes) (erase sector.start) (.ok ())
      (Rig.InOrder layout K bytes)

/-- The bytes and the patterns of a run make up for erases that do nothing. -/
structure FlashLayout.HidesErases (layout : FlashLayout) (last target : Sector)
    (config : ValidatorConfig) (bytes : Nat → UInt8) : Prop where
  last : ∀ a, last.Covers a → bytes a = layout.eraseValue
  around : ∀ a, target.Covers a →
    ¬ (layout.targetPage ≤ a ∧ a < layout.targetPage + layout.pageSize.toNat) →
    bytes a = layout.eraseValue
  page : ∀ a, layout.targetPage ≤ a → a < layout.targetPage + layout.pageSize.toNat →
    Memory.programmedByte layout.eraseValue (bytes a) config.firstPattern = config.firstPattern
  patterns : Memory.programmedByte layout.eraseValue config.firstPattern config.secondPattern =
    config.secondPattern

namespace Plan

open Validator

variable {plan : Plan} {g : Geometry} {erase : UInt32 → Attempt FlashError Rig Unit}

/-- Erases do nothing, and bytes are shown as they are. -/
def silent : View where
  wiped _ bytes := bytes
  shown bytes := bytes

theorem standIn_silent {K : Rig → Prop} (hanswers : Rig.Answers plan.layout g)
    (herase : Rig.ErasesNothing plan.layout erase) (hK : Rig.Aside K) :
    plan.StandIn silent g K { Rig.device with eraseSector := erase } where
  init := rfl
  free := rfl
  programPage := rfl
  driven := hK.driven
  shows := fun K bytes =>
    let hshows := (standIn_device hanswers hK.driven).shows K bytes
    { hshows with reports := { hshows.reports with } }
  erases := herase K hK

theorem afterErase_silent : plan.afterErase silent = plan.before := ite_self _

/-- A byte that the patterns do not reach is never changed. -/
theorem afterPatterns_silent_outside {a : Nat} (hout : ¬ (plan.layout.targetPage ≤ a ∧
    a < plan.layout.targetPage + plan.layout.pageSize.toNat)) :
    plan.afterPatterns silent a = plan.before a := by
  rw [afterPatterns, afterErase_silent]
  exact (withPattern_outside plan silent hout).trans (withPattern_outside plan silent hout)

section Looks

variable (hcharts : plan.layout.Charts g) (hfree : ¬ plan.target.start < plan.config.reservedEnd)

include hcharts hfree

/-- The last sector is not reserved either. -/
theorem last_free : ¬ plan.last.start < plan.config.reservedEnd := by
  have hle := hcharts.target_le_last plan.isLast plan.isTarget
  rw [UInt32.lt_iff_toNat_lt] at hfree ⊢
  omega

theorem erase_silent :
    (∀ look ∈ plan.looks silent .erase, look.Matches) ↔
      ∀ a, plan.last.Covers a → plan.before a = plan.layout.eraseValue := by
  rw [looks, if_neg (last_free hcharts hfree), List.forall_mem_singleton, afterErase_silent]
  exact forall_congr' fun a => and_imp.symm

omit hfree in
theorem pageLook_silent (pattern : UInt8) :
    (plan.pageLook silent pattern (plan.withPattern silent pattern bytes)).Matches ↔
      ∀ a, plan.layout.targetPage ≤ a → a < plan.layout.targetPage + plan.layout.pageSize.toNat →
        Memory.programmedByte plan.layout.eraseValue (bytes a) pattern = pattern := by
  simp only [pageLook, Look.Matches, hcharts.toNat_targetPage]
  refine forall_congr' fun a => forall_congr' fun hfirst => forall_congr' fun hlast => ?_
  show plan.withPattern silent pattern bytes a = pattern ↔ _
  rw [withPattern_inside plan silent hfirst hlast]
  exact Iff.rfl

/-- The first pattern is programmed over what stands in the page, the second one over the first. -/
theorem program_silent :
    (∀ look ∈ plan.looks silent .program, look.Matches) ↔
      (∀ a, plan.layout.targetPage ≤ a → a < plan.layout.targetPage + plan.layout.pageSize.toNat →
        Memory.programmedByte plan.layout.eraseValue (plan.before a) plan.config.firstPattern =
          plan.config.firstPattern) ∧
      Memory.programmedByte plan.layout.eraseValue plan.config.firstPattern
        plan.config.secondPattern = plan.config.secondPattern := by
  have hpaged := hcharts.paged
  rw [looks, if_neg hfree, afterPatterns, afterErase_silent, List.forall_mem_cons,
    List.forall_mem_singleton, pageLook_silent hcharts, pageLook_silent hcharts]
  refine and_congr_right fun hpage => ?_
  have hwritten : ∀ a, plan.layout.targetPage ≤ a →
      a < plan.layout.targetPage + plan.layout.pageSize.toNat →
      plan.withPattern silent plan.config.firstPattern plan.before a = plan.config.firstPattern :=
    fun a hfirst hlast => (withPattern_inside plan silent hfirst hlast).trans (hpage a hfirst hlast)
  constructor
  · -- there is a page, so one byte of it says what the patterns make of each other
    intro hsecond
    have htop := hsecond plan.layout.targetPage (Nat.le_refl _) (by omega)
    rwa [hwritten _ (Nat.le_refl _) (by omega)] at htop
  · intro hpatterns a hfirst hlast
    rw [hwritten a hfirst hlast, hpatterns]

/-- The page was looked at before, so the verify step finds out what is around it. -/
theorem verify_silent (hroom : ¬ plan.Overflows)
    (hprogram : ∀ look ∈ plan.looks silent .program, look.Matches) :
    (∀ look ∈ plan.looks silent .verify, look.Matches) ↔
      ∀ a, plan.target.Covers a → ¬ (plan.layout.targetPage ≤ a ∧
        a < plan.layout.targetPage + plan.layout.pageSize.toNat) →
        plan.before a = plan.layout.eraseValue := by
  have hend : ¬ Word.span32 ≤ plan.layout.targetPage + plan.layout.pageSize.toNat := fun hover =>
    hroom ⟨hover, hfree⟩
  rw [looks, if_neg hfree] at hprogram
  have hpage := hprogram _ (List.mem_cons_of_mem _ (List.mem_singleton_self _))
  simp only [pageLook, Look.Matches, hcharts.toNat_targetPage] at hpage
  rw [looks, if_neg (not_or.mpr ⟨hfree, hend⟩),
    verifyLooks_match_iff hcharts plan.isTarget (Nat.not_le.mp hend)]
  refine forall_congr' fun a => forall_congr' fun hcovers => ?_
  show plan.afterPatterns silent a = _ ↔ _
  by_cases hin : plan.layout.targetPage ≤ a ∧
      a < plan.layout.targetPage + plan.layout.pageSize.toNat
  · rw [if_pos hin]
    exact iff_of_true (hpage a hin.1 hin.2) fun hout => absurd hin hout
  · rw [if_neg hin, afterPatterns_silent_outside hin]
    exact ⟨fun herased _ => herased, fun herased => herased hin⟩

/-- **What hides erases that do nothing**, hides it from every look. -/
theorem matches_of_hidesErases
    (h : plan.layout.HidesErases plan.last plan.target plan.config plan.before) (step : Step) :
    ∀ look ∈ plan.looks silent step, look.Matches := by
  have hprogram := (program_silent hcharts hfree).mpr ⟨h.page, h.patterns⟩
  cases step with
  | init | geometryCheck | driftCheck => exact List.forall_mem_nil _
  | erase => exact (erase_silent hcharts hfree).mpr h.last
  | program => exact hprogram
  | verify =>
      by_cases hover : plan.Overflows
      · -- a fault comes before the looks
        rw [looks, if_pos (Or.inr hover.1)]
        exact List.forall_mem_nil _
      · exact (verify_silent hcharts hfree hover hprogram).mpr h.around

/-- **Nothing else hides it.** -/
theorem hidesErases_of_matches (hroom : ¬ plan.Overflows)
    (hall : ∀ step, ∀ look ∈ plan.looks silent step, look.Matches) :
    plan.layout.HidesErases plan.last plan.target plan.config plan.before := by
  obtain ⟨hpage, hpatterns⟩ := (program_silent hcharts hfree).mp (hall .program)
  exact {
    last := (erase_silent hcharts hfree).mp (hall .erase)
    around := (verify_silent hcharts hfree hroom (hall .program)).mp (hall .verify)
    page := hpage
    patterns := hpatterns }

end Looks

end Plan

section Run

open Validator

variable {rig : Rig} {timer : CycleTimer Rig} {erase : UInt32 → Attempt FlashError Rig Unit}

/-- **Erases that do nothing** are noticed, unless the bytes and the patterns hide it. A run comes to
`done` only if they do, and the flash steps of a run that returns have passed exactly if they do. Of
the timer nothing is asked here but that it leaves the part alone. -/
theorem Validator.run_silent (hlayout : layout.validate = .ok (.ok ()))
    (hhealthy : rig.Healthy layout) (hdistinct : config.Distinct layout.eraseValue)
    (htimer : timer.Apart) (herase : Rig.ErasesNothing layout erase) (hlast : layout.Last last)
    (htarget : layout.Target target) (hfree : ¬ target.start < config.reservedEnd) (log : Log)
    (report : ValidationReport) (next : World Rig)
    (hrun : (run { Rig.device with eraseSector := erase } timer { config }).runOn
      { state := rig, log } = (.ok report, next)) :
    (report.state = .done → layout.HidesErases last target config rig.ctrl.byteAt) ∧
      ((∀ step ∈ [Step.erase, .program, .verify], (step, .passed) ∈ report.outcomes) ↔
        layout.HidesErases last target config rig.ctrl.byteAt) := by
  obtain ⟨g, hcharts, hanswers⟩ := Rig.device_answers hlayout
  let plan : Plan := ⟨layout, hlayout, last, hlast, target, htarget, config, rig.ctrl.byteAt⟩
  have haside : Rig.Aside (Rig.Attended (fun _ _ => True) true) :=
    ⟨fun _ _ h => h, fun _ _ h => h⟩
  -- a timer that nothing is known of may stop the run, and then there is no report
  have hruns : Act.Leads (plan.Start fun _ _ => True)
      (run { Rig.device with eraseSector := erase } timer { config }) _ _ :=
    plan.run_concludes hcharts (Plan.standIn_silent hanswers herase haside) htimer
      (timer.measures_or_stops _ _) hdistinct.eq_true fun _ => trivial
  have hconcludes : plan.Concludes Plan.silent report.state report.outcomes := by
    have hstart : plan.Start (fun _ _ => True) rig := Rig.Healthy.start hhealthy rfl trivial
    have hends := hruns { state := rig, log } hstart
    rw [hrun] at hends
    exact hends
  have hhides : (∀ step, ∀ look ∈ plan.looks Plan.silent step, look.Matches) ↔
      layout.HidesErases last target config rig.ctrl.byteAt :=
    ⟨fun hall => plan.hidesErases_of_matches hcharts hfree (hconcludes.fits hall) hall,
      plan.matches_of_hidesErases hcharts hfree⟩
  exact ⟨fun hdone => hhides.mp (hdone ▸ hconcludes).matches_of_done,
    (hconcludes.passed_iff (plan.last_free hcharts hfree) hfree).trans hhides⟩

/-- An erase that does nothing at all. -/
theorem Rig.erasesNothing_pure : Rig.ErasesNothing layout fun _ => pure () :=
  fun _ _ _ _ _ => .pure _

/-- The default patterns show that the small part was not erased. -/
theorem Validator.run_silent_smallRig :
    smallLayout.validate = .ok (.ok ()) ∧ smallRig.Healthy smallLayout ∧
      ValidatorConfig.Distinct {} smallLayout.eraseValue ∧
      (CycleTimer.standing 32 0 : CycleTimer Rig).Apart ∧
      Rig.ErasesNothing smallLayout (fun _ => pure ()) ∧ smallLayout.Last smallPlan.last ∧
      smallLayout.Target smallPlan.target ∧ ¬ smallPlan.target.start < 0 ∧
      ∃ report next, (run { Rig.device with eraseSector := fun _ => pure () } (.standing 32 0)
          { config := {} }).runOn { state := smallRig } = (.ok report, next) ∧
        report.state ≠ .done := by
  have hlayout : smallLayout.validate = .ok (.ok ()) := rfl
  have htimer : (CycleTimer.standing 32 0 : CycleTimer Rig).Apart := CycleTimer.standing_apart 32 0
  have hreturns : ((run { Rig.device with eraseSector := fun _ => pure () } (.standing 32 0)
      { config := {} }).runOn { state := smallRig }).1.toOption.isSome = true := by
    decide +kernel
  rcases hrun : (run { Rig.device with eraseSector := fun _ => pure () } (.standing 32 0)
    { config := {} }).runOn { state := smallRig } with ⟨fault | report, next⟩
  · rw [hrun] at hreturns
    cases hreturns
  · have hhides := (Validator.run_silent hlayout smallRig_healthy smallRig_distinct htimer
      Rig.erasesNothing_pure smallPlan.isLast smallPlan.isTarget UInt32.not_lt_zero {} report next
      hrun).1
    have hpatterns : Memory.programmedByte 0xFF 0xCE 0xAC ≠ 0xAC := by decide
    exact ⟨hlayout, smallRig_healthy, smallRig_distinct, htimer, Rig.erasesNothing_pure,
      smallPlan.isLast, smallPlan.isTarget, UInt32.not_lt_zero, report, next, rfl,
      fun hdone => hpatterns (hhides hdone).patterns⟩

/-- **Nothing is noticed** on the small part, which is erased, when the second pattern is the first
one with one more bit programmed. -/
theorem Validator.run_silent_done :
    smallLayout.validate = .ok (.ok ()) ∧ smallRig.Healthy smallLayout ∧
      ValidatorConfig.Distinct { firstPattern := 0xFE, secondPattern := 0xFC }
        smallLayout.eraseValue ∧
      Rig.ErasesNothing smallLayout (fun _ => pure ()) ∧ smallLayout.Target smallPlan.target ∧
      ¬ smallPlan.target.start < 0 ∧
      ∃ report next, (run { Rig.device with eraseSector := fun _ => pure () } (.standing 32 0)
          { config := { firstPattern := 0xFE, secondPattern := 0xFC } }).runOn
            { state := smallRig } = (.ok report, next) ∧
        report.state = .done := by
  have hdone : ((run { Rig.device with eraseSector := fun _ => pure () } (.standing 32 0)
      { config := { firstPattern := 0xFE, secondPattern := 0xFC } }).runOn
        { state := smallRig }).1.toOption.map (·.state) = some .done := by
    decide +kernel
  refine ⟨rfl, smallRig_healthy, ⟨by decide, by decide, by decide⟩, Rig.erasesNothing_pure,
    smallPlan.isTarget, UInt32.not_lt_zero, ?_⟩
  rcases hrun : (run { Rig.device with eraseSector := fun _ => pure () } (.standing 32 0)
    { config := { firstPattern := 0xFE, secondPattern := 0xFC } }).runOn
      { state := smallRig } with ⟨fault | report, next⟩
  · rw [hrun] at hdone
    cases hdone
  · rw [hrun] at hdone
    exact ⟨report, next, rfl, Option.some.inj hdone⟩

end Run

end FlashBench
