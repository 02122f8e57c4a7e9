import FlashBench.Proofs.Part.Measured
import FlashBench.Proofs.Validation.Looks

/-!
# The course of a run

Up to the drift check the outcome of a step depends on the layout, the settings and the looks of the
step only. A step is skipped when its sector is reserved, and passes otherwise (`Plan.verdict`),
unless one of its looks differs; then the run ends there (`Plan.Concludes`). The run is followed
event by event: `Plan.OnCourse` says what it has noted down by then, and the bytes of the part are
known on the way (`Plan.run_concludes`).

On the driver itself every look matches, so the run comes to the verdict of the drift check
(`Plan.run_completes`). There is one exception: when the only page of a part ends at the top of the
address space, the verify step stops with a fault (`Plan.run_stops`).
-/

namespace FlashBench

namespace Plan

open Validator

variable {plan : Plan} {view : View} {g : Geometry} {device : Device Rig} {timer : CycleTimer Rig}
  {step later : Step} {v w : Validator} {ready again : Option UInt32 → Clocks → Prop}
  {expected : Fault → Prop} {P : Rig → Prop} {S : Fault → Rig → Prop}

/-! ## What a run notes down -/

/-- What is noted down when the run comes to a step. -/
def course (plan : Plan) (step : Step) : List (Step × StepOutcome) :=
  (Step.all.takeWhile (· ≠ step)).map fun earlier => (earlier, plan.verdict earlier)

/-- A run that has come to `step` without a failure. -/
structure OnCourse (plan : Plan) (step : Step) (v : Validator) : Prop where
  state : v.state = .at step
  config : v.config = plan.config
  outcomes : v.outcomes = plan.course step
  session : v.holdsSession = decide (step ≠ .init ∧ step ≠ .driftCheck)
  baseline : step ≠ .init → ∃ sample, v.baseline = some sample

theorem OnCourse.advanced (h : plan.OnCourse step v) (hnext : step.next = some later)
    (hconfig : w.config = v.config) (houtcomes : w.outcomes = v.outcomes)
    (hsession : w.holdsSession = decide (later ≠ .init ∧ later ≠ .driftCheck))
    (hbaseline : ∃ sample, w.baseline = some sample) :
    plan.OnCourse later (w.advanced step (plan.verdict step)) where
  state := by
    show stateAfter step = _
    rw [stateAfter, hnext]
  config := hconfig.trans h.config
  outcomes := by
    show w.outcomes ++ [(step, plan.verdict step)] = _
    rw [houtcomes, h.outcomes]
    cases step <;> cases hnext <;> rfl
  session := hsession
  baseline := fun _ => hbaseline

/-- A look of the step differed, and the run has ended there. -/
def FailsAt (plan : Plan) (view : View) (step : Step) (state : ValidatorState)
    (outcomes : List (Step × StepOutcome)) : Prop :=
  ∃ error, (∃ look ∈ plan.looks view step, look.Differs error) ∧ state = .failed error ∧
    outcomes = plan.course step ++ [(step, .failed error)]

/-- **How a run ends.** It comes to the verdict of the drift check if all its looks match, and fails
where one differs. -/
inductive Concludes (plan : Plan) (view : View) (state : ValidatorState)
    (outcomes : List (Step × StepOutcome)) : Prop
  | completes (hall : ∀ step, ∀ look ∈ plan.looks view step, look.Matches)
      (hroom : ¬ plan.Overflows) (drift : StepOutcome)
      (houtcomes : outcomes = plan.course .driftCheck ++ [(.driftCheck, drift)])
  | fails (step : Step) (h : plan.FailsAt view step state outcomes)

section Ends

variable {state : ValidatorState} {outcomes : List (Step × StepOutcome)}

theorem verdict_ne_failed (error : ValidationError) : plan.verdict step ≠ .failed error := by
  cases step with
  | init | geometryCheck | driftCheck => exact nofun
  | erase | program =>
      simp only [verdict, onSector]
      split <;> exact nofun
  | verify =>
      simp only [verdict, onVerify]
      split <;> exact nofun

/-- A step that failed is noted down as nothing else. -/
theorem FailsAt.not_mem (h : plan.FailsAt view step state outcomes) :
    (step, plan.verdict step) ∉ outcomes := by
  obtain ⟨error, -, -, rfl⟩ := h
  -- what was noted down before is about the steps before
  have hbefore : (step, plan.verdict step) ∉ plan.course step := by
    cases step <;> simp [course, Step.all]
  simp [hbefore, verdict_ne_failed]

/-- The looks of a run match exactly if no step that looks has failed. -/
theorem Concludes.matches_iff (h : plan.Concludes view state outcomes) :
    (∀ step, ∀ look ∈ plan.looks view step, look.Matches) ↔
      ∀ step ∈ [Step.erase, .program, .verify], (step, plan.verdict step) ∈ outcomes := by
  cases h with
  | completes hall _ drift houtcomes =>
      refine iff_of_true hall fun step hstep => houtcomes ▸ List.mem_append_left _ ?_
      simp only [List.mem_cons, List.not_mem_nil, or_false] at hstep
      rcases hstep with rfl | rfl | rfl <;> simp [course, Step.all]
  | fails step hfails =>
      obtain ⟨error, ⟨look, hmem, hdiffers⟩, -⟩ := id hfails
      refine iff_of_false (fun hall => hdiffers.not_matches (hall step look hmem)) fun hpassed =>
        hfails.not_mem (hpassed step ?_)
      cases step with
      | init | geometryCheck | driftCheck => exact absurd hmem List.not_mem_nil
      | erase | program | verify => simp

/-- If nothing is skipped, the flash steps pass exactly if all looks match. -/
theorem Concludes.passed_iff (h : plan.Concludes view state outcomes)
    (hlast : ¬ plan.last.start < plan.config.reservedEnd)
    (htarget : ¬ plan.target.start < plan.config.reservedEnd) :
    (∀ step ∈ [Step.erase, .program, .verify], (step, .passed) ∈ outcomes) ↔
      ∀ step, ∀ look ∈ plan.looks view step, look.Matches := by
  have hpasses : ∀ step ∈ [Step.erase, .program, .verify], plan.verdict step = .passed := by
    simp only [List.forall_mem_cons, List.not_mem_nil, false_implies, implies_true, and_true]
    exact ⟨if_neg hlast, if_neg htarget, if_neg htarget⟩
  rw [h.matches_iff]
  exact forall_congr' fun step => forall_congr' fun hstep => by rw [hpasses step hstep]

/-- A run whose looks match has come past the verify step, and did not stop there. -/
theorem Concludes.fits (h : plan.Concludes view state outcomes)
    (hall : ∀ step, ∀ look ∈ plan.looks view step, look.Matches) : ¬ plan.Overflows := by
  cases h with
  | completes _ hroom => exact hroom
  | fails step hfails =>
      obtain ⟨error, ⟨look, hmem, hdiffers⟩, -⟩ := hfails
      exact absurd (hall step look hmem) hdiffers.not_matches

theorem Concludes.matches_of_done (h : plan.Concludes view .done outcomes) (step : Step) :
    ∀ look ∈ plan.looks view step, look.Matches := by
  cases h with
  | completes hall => exact hall step
  | fails step hfails =>
      obtain ⟨error, -, hstate, -⟩ := hfails
      cases hstate

end Ends

/-- What the event of a step leads to. Either its looks match, and the run is at the next step, or
one of them differs. -/
def Follows (plan : Plan) (view : View) (step later : Step) (stage : Validator → Rig → Prop)
    (v : Validator) (rig : Rig) : Prop :=
  (plan.OnCourse later v ∧ (∀ look ∈ plan.looks view step, look.Matches) ∧ stage v rig) ∨
    plan.FailsAt view step v.state v.outcomes

/-- The part is in order with these bytes, and the driver is taken or free. -/
abbrev Has (plan : Plan) (ready : Option UInt32 → Clocks → Prop) (held : Bool)
    (bytes : Nat → UInt8) : Rig → Prop :=
  Rig.InOrder plan.layout (Rig.Attended ready held) bytes

/-- The part before the run: in order, with the driver free and the controller out of reset. -/
def Start (plan : Plan) (ready : Option UInt32 → Clocks → Prop) (rig : Rig) : Prop :=
  plan.Has ready false plan.before rig ∧ rig.ctrl.failInit = false

/-! ## Events -/

/-- Giving the driver back ends without a fault in every state. -/
theorem device_free_always {p : Prop} :
    Attempt.Leads (fun _ => p) Rig.device.free (fun _ _ => p) (fun _ _ => p) S := by
  have hrelease : Act.Leads (fun _ => p)
      (Act.changeGet fun rig : Rig => (rig.lock.release.1, { rig with lock := rig.lock.release.2 }))
      (fun _ _ => p) S := .changeGet _ fun _ hp => hp
  exact hrelease.post fun answer _ hp => by cases answer <;> exact hp

section Events

variable (h : plan.StandIn view g (Rig.Attended again true) device)

include h

theorem drop_always {p : Prop} :
    Act.Leads (fun _ => p) (Session.drop ⟨device⟩) (fun _ _ => p) S :=
  Session.drop_leads (h.free ▸ device_free_always)

theorem run_drop_always {p : Prop} (v : Validator) :
    Act.Leads (fun _ => p) (v.drop device) (fun _ _ => p) S :=
  .ite (fun _ => drop_always h) fun _ => .pure _ fun _ hp => hp

theorem step_event {stage : Validator → Rig → Prop} (hv : plan.OnCourse step v)
    (hstep : Act.Leads P (v.perform device timer step)
      (fun result rig => match result.1 with
        | .ok outcome => plan.OnCourse later (result.2.advanced step outcome) ∧
            (∀ look ∈ plan.looks view step, look.Matches) ∧
            stage (result.2.advanced step outcome) rig
        | .error error => result.2.outcomes = v.outcomes ∧
            ∃ look ∈ plan.looks view step, look.Differs error) S) :
    Act.Leads P (v.onEvent device timer) (plan.Follows view step later stage) S := by
  refine onEvent_leads (E := fun error next _ => next.outcomes = v.outcomes ∧
    ∃ look ∈ plan.looks view step, look.Differs error) hv.state (hstep.post fun result rig hs => ?_)
    fun error next => ?_
  · rcases result with ⟨error | outcome, next⟩
    · exact hs
    · exact .inl hs
  · refine (run_drop_always h next).post fun _ rig ⟨houtcomes, hdiffers⟩ =>
      .inr ⟨error, hdiffers, rfl, ?_⟩
    show next.outcomes ++ [(step, .failed error)] = _
    rw [houtcomes, hv.outcomes]

section Timed

variable (htimer : timer.Apart) (hmeasures : timer.MeasuresTwice plan.config.windowTicks
  plan.config.cycles expected ready again)

include htimer hmeasures

theorem init_event (hv : plan.OnCourse .init v) :
    Act.Leads (plan.Start ready) (v.onEvent device timer)
      (plan.Follows view .init .geometryCheck fun _ => plan.Has again true plan.before)
      fun fault _ => expected fault := by
  have hreports := (h.shows (Rig.Attended ready true) plan.before).reports
  have hinit : Attempt.Leads (plan.Start ready) device.init
      (fun _ => plan.Has ready true plan.before) (fun _ _ => False) fun fault _ => expected fault :=
    h.init.symm ▸ Attempt.Leads.of_ok Rig.device_init_ends fun _ hs => hs
  have hopening : Act.Ends (plan.Has ready true plan.before) (Session.openingText device) _
      (plan.Has ready true plan.before) :=
    .bind hreports.startAddress (.bind hreports.size (.bind hreports.pageSize (.pure _)))
  have hbaseline : Act.Leads (plan.Has ready true plan.before) (takeBaseline timer v.config)
      (fun _ => plan.Has again true plan.before) fun fault _ => expected fault := by
    rw [hv.config]
    exact takeBaseline_leads (htimer.protect_inOrder hmeasures.first) htimer.sample_inOrder
  refine step_event h hv ((initStep_leads (E := fun _ _ => False) hinit
    ((Act.Leads.of_ends hopening).post fun _ _ hs => hs.2) hbaseline fun _ => drop_always h).post
      fun result rig hs => ?_)
  rcases result with ⟨error | outcome, next⟩
  · exact hs.2.elim
  · obtain ⟨rfl, sample, rfl, hrig⟩ := hs
    exact ⟨hv.advanced rfl rfl rfl rfl ⟨sample, rfl⟩, List.forall_mem_nil _, hrig⟩

/-- The drift check is the last step, whatever its verdict. -/
theorem drift_event (hv : plan.OnCourse .driftCheck v) (bytes : Nat → UInt8) :
    Act.Leads (plan.Has again false bytes) (v.onEvent device timer)
      (fun next _ => ∃ drift, next.outcomes = plan.course .driftCheck ++ [(.driftCheck, drift)])
      fun fault _ => expected fault := by
  obtain ⟨first, hfirst⟩ := hv.baseline nofun
  have hsecond : ∀ hook clocks, again hook clocks →
      timer.Measures v.config.windowTicks v.config.cycles expected clocks fun _ => True := by
    rw [hv.config]
    exact hmeasures.second
  have hprotect : Act.Leads (plan.Has again false bytes) (timer.protect v.config.windowTicks) _
      fun fault _ => expected fault := htimer.protect_inOrder hsecond
  have hnoted : ∀ drift, v.outcomes ++ [(Step.driftCheck, drift)] =
      plan.course .driftCheck ++ [(.driftCheck, drift)] := fun _ => congrArg (· ++ _) hv.outcomes
  refine onEvent_leads (E := fun _ next _ => next.outcomes = v.outcomes) hv.state
    ((driftStep_judges hfirst hprotect htimer.sample_inOrder).post fun result _ hs => ?_)
    fun error next => ?_
  · obtain ⟨second, rfl, _⟩ := hs
    cases judgeDrift first.micros second.micros
      (allowedDrift first.micros v.config.driftDivisor) with
    | error error => exact rfl
    | ok drift => exact ⟨drift, hnoted drift⟩
  · exact (run_drop_always h next).post fun _ _ houtcomes =>
      ⟨.failed error, (congrArg (· ++ _) houtcomes).trans (hnoted _)⟩

end Timed

section Flash

variable (hcharts : plan.layout.Charts g)

include hcharts

theorem geometry_event (hv : plan.OnCourse .geometryCheck v) :
    Act.Leads (plan.Has again true plan.before) (v.onEvent device timer)
      (plan.Follows view .geometryCheck .erase fun _ => plan.Has again true plan.before) S := by
  have hreports := (h.shows (Rig.Attended again true) plan.before).reports
  have hcheck : Attempt.Ends (plan.Has again true plan.before) (checkGeometry device) _
      (plan.Has again true plan.before) :=
    (checkGeometry_outcome hreports).ends
      ⟨_, hcharts.tiles.walked (hcharts.stop ▸ hcharts.top), rfl⟩
  refine step_event h hv ((geometryStep_leads (E := fun _ _ => False)
    (fun hnone => nomatch hv.session.symm.trans hnone) (fun _ => .absurd)
    (.of_ok hcheck fun _ hs => hs)).post fun result rig hs => ?_)
  rcases result with ⟨error | outcome, next⟩
  · exact hs.2.elim
  · obtain ⟨rfl, ⟨report, rfl⟩, hrig⟩ := hs
    exact ⟨hv.advanced rfl rfl rfl hv.session (hv.baseline nofun), List.forall_mem_nil _, hrig⟩

theorem erase_event (hv : plan.OnCourse .erase v) :
    Act.Leads (plan.Has again true plan.before) (v.onEvent device timer)
      (plan.Follows view .erase .program fun _ => plan.Has again true (plan.afterErase view))
      S := by
  have herase := erase_looks hcharts h
  rw [← hv.config] at herase
  refine step_event h hv ((eraseStep_leads (fun hnone => nomatch hv.session.symm.trans hnone)
    (fun _ => .absurd) herase).post fun result rig hs => ?_)
  rcases result with ⟨error | outcome, next⟩
  · exact ⟨congrArg outcomes hs.1, hs.2⟩
  · obtain ⟨rfl, hmatch, rfl, hrig⟩ := hs
    exact ⟨hv.advanced rfl rfl rfl hv.session (hv.baseline nofun), hmatch, hrig⟩

theorem program_event (hv : plan.OnCourse .program v)
    (hdistinct : distinctPatterns plan.config.firstPattern plan.config.secondPattern
      plan.layout.eraseValue = true) :
    Act.Leads (plan.Has again true (plan.afterErase view)) (v.onEvent device timer)
      (plan.Follows view .program .verify fun next rig => next.target = plan.aimed ∧
        plan.Has again true (plan.afterProgram view) rig) S := by
  have hprogram := program_looks hcharts h hdistinct
  rw [← hv.config] at hprogram
  refine step_event h hv ((programStep_leads (fun hnone => nomatch hv.session.symm.trans hnone)
    (fun _ => .absurd) hprogram).post fun result rig hs => ?_)
  rcases result with ⟨error | outcome, next⟩
  · exact ⟨congrArg outcomes hs.1, hs.2⟩
  · obtain ⟨target, rfl, hmatch, heq, hrig⟩ := hs
    obtain ⟨rfl, rfl⟩ := Prod.mk.inj heq
    exact ⟨hv.advanced rfl rfl rfl hv.session (hv.baseline nofun), hmatch, rfl, hrig⟩

end Flash

/-- The verify step gives the driver back, unless the end of the page is no word. -/
theorem verify_event (hcharts : plan.layout.Charts g) (hv : plan.OnCourse .verify v)
    (htarget : v.target = plan.aimed) (hover : plan.Overflows → ∀ rig, S .arithmetic rig) :
    Act.Leads (plan.Has again true (plan.afterProgram view)) (v.onEvent device timer)
      (plan.Follows view .verify .driftCheck fun _ rig => ¬ plan.Overflows ∧
        plan.Has again false (plan.afterProgram view) rig) S := by
  have hverify := verify_looks hcharts h hv.config htarget
  have hdrop : ∀ fault, Act.Leads (fun _ => fault = Fault.arithmetic ∧ plan.Overflows)
      (Session.drop ⟨device⟩) (fun _ => S fault) S := fun fault =>
    (drop_always h).post fun _ rig ⟨hfault, hoverflows⟩ => hfault ▸ hover hoverflows rig
  have hfree : Attempt.Leads (plan.Has again true (plan.afterProgram view))
      (Session.free ⟨device⟩) (fun _ => plan.Has again false (plan.afterProgram view))
      (fun _ _ => False) S :=
    Session.free_leads (h.free.symm ▸ Attempt.Leads.of_ok Rig.device_free_ends fun _ hs => hs)
  refine step_event h hv ((verifyStep_leads (F := fun _ _ => False)
    (fun hnone => nomatch hv.session.symm.trans hnone) hdrop hverify fun outcome =>
      .of_and fun hlooks => .of_and fun hpassed => hfree.post fun _ _ hs =>
        (⟨hlooks, hpassed, hs⟩ : _ ∧ _ ∧ _)).post fun result rig hs => ?_)
  rcases result with ⟨error | outcome, next⟩
  · rcases hs with ⟨rfl, hdiffers⟩ | ⟨_, hs⟩
    · exact ⟨rfl, hdiffers⟩
    · exact hs.elim
  · obtain ⟨rfl, ⟨hmatch, hroom⟩, rfl, hrig⟩ := hs
    exact ⟨hv.advanced rfl rfl rfl rfl (hv.baseline nofun), hmatch, hroom, hrig⟩

end Events

/-! ## The run -/

theorem event_bind {stage : Validator → Rig → Prop} {events : Nat}
    (hevent : Act.Leads P (v.onEvent device timer) (plan.Follows view step later stage) S)
    (hrest : ∀ next, plan.OnCourse later next → (∀ look ∈ plan.looks view step, look.Matches) →
      Act.Leads (stage next) (afterEvents device timer events next)
        (fun last _ => plan.Concludes view last.state last.outcomes) S) :
    Act.Leads P (afterEvents device timer (events + 1) v)
      (fun last _ => plan.Concludes view last.state last.outcomes) S := by
  refine hevent.bind fun next => ?_
  refine .or (.of_and fun hnext => .of_and fun hmatch => hrest next hnext hmatch)
    fun world hfails => ?_
  -- a run that has failed stays as it is
  have hfinished : next.isFinished = true := by
    obtain ⟨error, -, hstate, -⟩ := hfails
    rw [isFinished, hstate]
  rw [afterEvents_finished hfinished]
  exact .fails step hfails

/-- **The end of a run** on a device that stands in for the driver. -/
theorem run_concludes (hcharts : plan.layout.Charts g)
    (h : plan.StandIn view g (Rig.Attended again true) device) (htimer : timer.Apart)
    (hmeasures : timer.MeasuresTwice plan.config.windowTicks plan.config.cycles expected ready
      again)
    (hdistinct : distinctPatterns plan.config.firstPattern plan.config.secondPattern
      plan.layout.eraseValue = true) (hover : plan.Overflows → expected .arithmetic) :
    Act.Leads (plan.Start ready) (run device timer { config := plan.config })
      (fun report _ => plan.Concludes view report.state report.outcomes)
      fun fault _ => expected fault := by
  have hstart : plan.OnCourse .init { config := plan.config } :=
    ⟨rfl, rfl, rfl, rfl, fun hne => absurd rfl hne⟩
  have hevents : Act.Leads (plan.Start ready)
      (afterEvents device timer Step.all.length { config := plan.config })
      (fun last _ => plan.Concludes view last.state last.outcomes)
      fun fault _ => expected fault := by
    refine event_bind (init_event h htimer hmeasures hstart) fun v hv _ => ?_
    refine event_bind (geometry_event h hcharts hv) fun v hv _ => ?_
    refine event_bind (erase_event h hcharts hv) fun v hv herase => ?_
    refine event_bind (program_event h hcharts hv hdistinct) fun v hv hprogram => ?_
    refine Act.Leads.of_and fun htarget => ?_
    refine event_bind (verify_event h hcharts hv htarget fun hoverflows _ => hover hoverflows)
      fun v hv hverify => ?_
    refine Act.Leads.of_and fun hroom => (drift_event h htimer hmeasures hv _).bind fun last =>
      .pure _ fun _ ⟨drift, hdrift⟩ => .completes (fun step => ?_) hroom drift hdrift
    cases step with
    | init | geometryCheck | driftCheck => exact List.forall_mem_nil _
    | erase => exact herase
    | program => exact hprogram
    | verify => exact hverify
  unfold run
  rw [runEvents_eq_afterEvents]
  refine hevents.bind fun last => (report_leads last).post fun report _ hs => ?_
  obtain ⟨htells, hconcludes⟩ := hs
  rw [htells.state, htells.outcomes]
  exact hconcludes

/-! ## On the driver -/

/-- A rig as it is before a run: in order, with the driver free and the controller out of reset, next
to clocks on which both measurements return. -/
def Fresh (plan : Plan) (timer : CycleTimer Rig) (rig : Rig) : Prop :=
  ∃ bytes, plan.Has (timer.Returns plan.config.windowTicks plan.config.cycles) false bytes rig ∧
    rig.ctrl.failInit = false

/-- Erases may switch the CPU, and clocks that were measured once are measured again. -/
theorem again_driven {windowTicks cycles : UInt32} {held : Bool} :
    Rig.Driven (Rig.Attended (timer.ReturnsAgain windowTicks cycles) held) :=
  Rig.attended_driven fun _ _ h => h.switch

section Driver

variable (htimer : timer.Apart)
  (hdistinct : distinctPatterns plan.config.firstPattern plan.config.secondPattern
    plan.layout.eraseValue = true)

include htimer hdistinct

/-- On the driver every look matches, so no run fails before the drift check. -/
theorem run_passes (hover : plan.Overflows → expected .arithmetic) :
    Act.Leads (plan.Fresh timer) (run Rig.device timer { config := plan.config })
      (fun report _ => ¬ plan.Overflows ∧ ∃ drift,
        report.outcomes = plan.course .driftCheck ++ [(.driftCheck, drift)])
      fun fault _ => expected fault := by
  obtain ⟨g, hcharts, hanswers⟩ := Rig.device_answers plan.valid
  refine Act.Leads.of_forall fun bytes => ?_
  let started : Plan := { plan with before := bytes }
  have hstarted : started.layout.Charts g := hcharts
  have hrun : Act.Leads (started.Start _) (run Rig.device timer { config := plan.config }) _
      fun fault _ => expected fault :=
    run_concludes hstarted (standIn_device hanswers again_driven) htimer
      CycleTimer.returns_twice hdistinct hover
  refine hrun.post fun report _ hs => ?_
  obtain ⟨-, hroom, drift, houtcomes⟩ | ⟨step, error, ⟨look, hmem, hdiffers⟩, -⟩ := hs
  · exact ⟨hroom, drift, houtcomes⟩
  · exact (hdiffers.not_matches (faithful_matches hstarted step look hmem)).elim

/-- **The course of a run** up to the verdict of the drift check. -/
theorem run_completes
    (hend : plan.layout.targetPage + plan.layout.pageSize.toNat < Word.span32 ∨
      plan.target.start < plan.config.reservedEnd) :
    Act.Leads (plan.Fresh timer) (run Rig.device timer { config := plan.config })
      (fun report _ => ∃ drift,
        report.outcomes = plan.course .driftCheck ++ [(.driftCheck, drift)]) fun _ _ => False := by
  have hroom : plan.Overflows → False := fun hover =>
    hend.elim (fun hlt => Nat.not_le.mpr hlt hover.1) hover.2
  exact (run_passes htimer hdistinct hroom).post fun _ _ hs => hs.2

/-- **The one fault.** -/
theorem run_stops (hend : Word.span32 ≤ plan.layout.targetPage + plan.layout.pageSize.toNat)
    (hreserved : ¬ plan.target.start < plan.config.reservedEnd) :
    Act.Leads (plan.Fresh timer) (run Rig.device timer { config := plan.config })
      (fun _ _ => False) fun fault _ => fault = .arithmetic := by
  have hrun : Act.Leads (plan.Fresh timer) (run Rig.device timer { config := plan.config }) _
      fun fault _ => fault = .arithmetic := run_passes htimer hdistinct fun _ => rfl
  exact hrun.post fun _ _ hs => hs.1 ⟨hend, hreserved⟩

end Driver

end Plan

end FlashBench
