import FlashBench.Proofs.Part.Confined
import FlashBench.Proofs.Validation.Healthy

/-!
# The footprint of a run

A run changes the last sector and the sector of the target page, and these only if it comes to the
steps that erase and program them. Any of its operations may run out of time and take effect later,
so what is said of the part has two sides:

* **under way, or past its flash steps,** the part is idle, and the run accounts for every byte of it
  (`Accounts`);
* **failed,** the part holds the old bytes outside the sectors that were touched, and an operation in
  flight can reach no others (`Controller.Confined`).
-/

namespace FlashBench

/-- Ticks of the controller, each of which finds it stalled or not. -/
def Rig.pollAll : List Bool → Act Rig Unit
  | [] => return ()
  | stalled :: rest => do
    Rig.changeCtrl fun ctrl => { ctrl with stalled }
    Rig.poll
    Rig.pollAll rest

/-- The step was carried out, with success or without. -/
def Executed (outcomes : List (Step × StepOutcome)) (step : Step) : Prop :=
  ∃ outcome, (step, outcome) ∈ outcomes ∧ ∀ reason, outcome ≠ .skipped reason

/-- The address lies in a sector that a step was carried out on. -/
def Touched (last target : Sector) (outcomes : List (Step × StepOutcome)) (a : Nat) : Prop :=
  Executed outcomes .erase ∧ last.Covers a ∨ Executed outcomes .program ∧ target.Covers a

section Executed

variable {outcomes : List (Step × StepOutcome)} {step : Step} {outcome : StepOutcome}

theorem Executed.append {more : List (Step × StepOutcome)} (h : Executed outcomes step) :
    Executed (outcomes ++ more) step := by
  obtain ⟨outcome, hmem, hdone⟩ := h
  exact ⟨outcome, List.mem_append_left _ hmem, hdone⟩

theorem Executed.noted (hdone : ∀ reason, outcome ≠ .skipped reason) :
    Executed (outcomes ++ [(step, outcome)]) step :=
  ⟨outcome, List.mem_append_right _ List.mem_cons_self, hdone⟩

end Executed

namespace Plan

variable {plan : Plan} {outcomes : List (Step × StepOutcome)} {step : Step}
  {outcome : StepOutcome} {v next : Validator} {now later : Nat → UInt8} {ctrl : Controller}
  {a : Nat}

/-- What a step of the run has touched. -/
def Touched (plan : Plan) (outcomes : List (Step × StepOutcome)) (a : Nat) : Prop :=
  FlashBench.Touched plan.last plan.target outcomes a

/-- The run accounts for the bytes of the part: what was not touched is as before, an erased sector
is erased where nothing was programmed after it, and a verified target is programmed. -/
structure Accounts (plan : Plan) (v : Validator) (now : Nat → UInt8) : Prop where
  frame : ∀ a, ¬ plan.Touched v.outcomes a → now a = plan.before a
  erased : (.erase, .passed) ∈ v.outcomes → ∀ a, plan.last.Covers a →
    ¬ (Executed v.outcomes .program ∧ plan.target.Covers a) → now a = plan.layout.eraseValue
  aimed : v.target = none ∨ v.target = some (Validator.aim plan.layout plan.target)
  verified : (.verify, .passed) ∈ v.outcomes →
    Validator.Programmed plan.layout plan.target plan.config.secondPattern now

/-- What a run has left on the part so far. -/
structure Footprint (plan : Plan) (v : Validator) (ctrl : Controller) : Prop where
  config : v.config = plan.config
  ordered : v.Ordered
  part : (∃ now, plan.Accounts v now ∧ ctrl.Quiet plan.layout now) ∨
    (v.isFinished = true ∧ (.verify, .passed) ∉ v.outcomes ∧
      ctrl.Confined plan.layout plan.before (plan.Touched v.outcomes) (plan.Touched v.outcomes))

/-! ## What is noted down -/

theorem Touched.append {more : List (Step × StepOutcome)} (h : plan.Touched outcomes a) :
    plan.Touched (outcomes ++ more) a :=
  h.imp (.imp_left Executed.append) (.imp_left Executed.append)

/-- Nothing is verified before the verify step. -/
theorem not_verified (hordered : v.Ordered) (hstate : v.state = .at step)
    (hearly : .verify ∉ Step.all.takeWhile (· ≠ step)) (hne : step ≠ .verify)
    (outcome : StepOutcome) : (.verify, .passed) ∉ v.outcomes ++ [(step, outcome)] := by
  intro hmem
  rcases List.mem_append.mp hmem with hmem | hmem
  · exact hordered.not_mem hstate hearly _ hmem
  · cases List.mem_singleton.mp hmem
    exact hne rfl

/-! ## Accounts after a step -/

/-- A step that changed nothing accounts for the same bytes. -/
theorem Accounts.same (h : plan.Accounts v now)
    (houtcomes : next.outcomes = v.outcomes ++ [(step, outcome)])
    (haimed : next.target = none ∨ next.target = some (Validator.aim plan.layout plan.target))
    (herase : (step, outcome) ≠ (.erase, .passed))
    (hverify : (step, outcome) = (.verify, .passed) →
      Validator.Programmed plan.layout plan.target plan.config.secondPattern now) :
    plan.Accounts next now := by
  have hentry : ∀ {entry : Step × StepOutcome}, entry ∈ next.outcomes →
      entry ∈ v.outcomes ∨ (step, outcome) = entry := by
    intro entry hmem
    rw [houtcomes] at hmem
    exact (List.mem_append.mp hmem).imp_right fun hmem => (List.mem_singleton.mp hmem).symm
  constructor
  case frame => exact fun a hnot => h.frame a fun htouched => hnot (houtcomes ▸ htouched.append)
  case erased =>
    intro hmem a hcovers hnot
    have hearlier := (hentry hmem).resolve_right herase
    exact h.erased hearlier a hcovers fun hprogram =>
      hnot ⟨houtcomes ▸ hprogram.1.append, hprogram.2⟩
  case aimed => exact haimed
  case verified => exact fun hmem => (hentry hmem).elim h.verified hverify

/-- An erase that passed: the last sector is erased, and the rest is what it was. -/
theorem Accounts.erase (h : plan.Accounts v now)
    (hverify : (.verify, .passed) ∉ v.outcomes ++ [(.erase, .passed)])
    (hframe : ∀ a, ¬ plan.last.Covers a → later a = now a)
    (hvalue : ∀ a, plan.last.Covers a → later a = plan.layout.eraseValue) :
    plan.Accounts (v.advanced .erase .passed) later where
  frame := fun a hnot => (hframe a fun hcovers => hnot (.inl ⟨.noted nofun, hcovers⟩)).trans
    (h.frame a fun htouched => hnot htouched.append)
  erased := fun _ a hcovers _ => hvalue a hcovers
  aimed := h.aimed
  verified := fun hmem => absurd hmem hverify

/-- A program that passed: the sector of the target page is not what it was. -/
theorem Accounts.program (h : plan.Accounts v now)
    (hverify : (.verify, .passed) ∉ v.outcomes ++ [(.program, .passed)])
    (hframe : ∀ a, ¬ plan.target.Covers a → later a = now a) :
    plan.Accounts (({ v with target := some (Validator.aim plan.layout plan.target) } :
      Validator).advanced .program .passed) later where
  frame := fun a hnot => (hframe a fun hcovers => hnot (.inr ⟨.noted nofun, hcovers⟩)).trans
    (h.frame a fun htouched => hnot htouched.append)
  erased := by
    intro hmem a hcovers hnot
    -- the two sectors may be one, so only what lies outside the target is still erased
    have hout : ¬ plan.target.Covers a := fun hin => hnot ⟨.noted nofun, hin⟩
    have hearlier : (Step.erase, StepOutcome.passed) ∈ v.outcomes :=
      (List.mem_append.mp hmem).resolve_right fun hmem => nomatch List.mem_singleton.mp hmem
    exact (hframe a hout).trans (h.erased hearlier a hcovers fun hprogram => hout hprogram.2)
  aimed := .inr rfl
  verified := fun hmem => absurd hmem hverify

/-- A step that failed leaves the bytes that it can reach open. -/
theorem Accounts.halts {error : ValidationError} {reach : Nat → Prop} (h : plan.Accounts v now)
    (hconfig : v.config = plan.config)
    (hverify : (.verify, .passed) ∉ v.outcomes ++ [(step, .failed error)])
    (hreach : ∀ a, reach a → plan.Touched (v.outcomes ++ [(step, .failed error)]) a)
    (hconfined : ctrl.Confined plan.layout now reach reach) :
    plan.Footprint (v.halted step error) ctrl where
  config := hconfig
  ordered := nofun
  part := .inr ⟨rfl, hverify, (hconfined.mono hreach hreach).congr fun a hnot =>
    h.frame a fun htouched => hnot htouched.append⟩

/-! ## The steps

No step is asked to come to an end: a fault ends the run without a report. -/

section Steps

open Validator

variable {timer : CycleTimer Rig}

/-- An idle part that holds `bytes`. -/
def Still (plan : Plan) (bytes : Nat → UInt8) (rig : Rig) : Prop :=
  rig.ctrl.Quiet plan.layout bytes

/-- A part that holds `bytes` outside the sector, with or without an operation on the sector in
flight. -/
def Stirred (plan : Plan) (sector : Sector) (bytes : Nat → UInt8) (rig : Rig) : Prop :=
  rig.ctrl.Confined plan.layout bytes sector.Covers sector.Covers

/-- A run that has come to `step`, on an idle part that holds `now`. -/
structure Underway (plan : Plan) (step : Step) (v : Validator) (now : Nat → UInt8) : Prop where
  state : v.state = .at step
  config : v.config = plan.config
  ordered : v.Ordered
  accounts : plan.Accounts v now

/-- The run after a step, whose outcome is noted down. -/
def noted (step : Step) : StepResult → Validator
  | (.ok outcome, next) => next.advanced step outcome
  | (.error error, next) => next.halted step error

/-- What a step leads to on an idle part. -/
def StepLeaves (plan : Plan) (now : Nat → UInt8) (step : Step) (act : Act Rig StepResult) : Prop :=
  Act.Leads (plan.Still now) act
    (fun result rig => plan.Footprint (noted step result) rig.ctrl) fun _ _ => True

theorem Still.on {rig : Rig} (h : plan.Still now rig) : rig.ctrl.On plan.layout := h.holds.on

theorem Still.stirred {rig : Rig} (h : plan.Still now rig) (sector : Sector) :
    plan.Stirred sector now rig := h.confined _ _

/-- A step that changes nothing, whatever it finds. -/
theorem Underway.same {act : Act Rig StepResult} (h : plan.Underway step v now)
    (hflash : step ≠ .erase ∧ step ≠ .program)
    (hstep : Act.Leads (plan.Still now) act
      (fun result rig => (Carries step v result.2 ∧ plan.Still now rig) ∧
        (step = .verify → result.1 = .ok .passed →
          Programmed plan.layout plan.target plan.config.secondPattern now)) fun _ _ => True) :
    plan.StepLeaves now step act := by
  refine hstep.post fun result rig ⟨⟨hcarries, hstill⟩, hverify⟩ => ?_
  have hconfig := hcarries.config.trans h.config
  have haimed : result.2.target = none ∨ result.2.target = some (aim plan.layout plan.target) :=
    hcarries.target hflash.2 ▸ h.accounts.aimed
  have hnoted : ∀ outcome : StepOutcome, result.2.outcomes ++ [(step, outcome)] =
      v.outcomes ++ [(step, outcome)] := fun _ => congrArg (· ++ _) hcarries.outcomes
  have hne : ∀ outcome : StepOutcome, (step, outcome) ≠ (.erase, .passed) := fun _ heq =>
    hflash.1 (congrArg Prod.fst heq)
  rcases result with ⟨error | outcome, w⟩
  · refine ⟨hconfig, nofun, .inl ⟨now, ?_, hstill⟩⟩
    exact h.accounts.same (hnoted _) haimed (hne _) fun heq => nomatch heq
  · refine ⟨hconfig, h.ordered.advanced h.state hcarries outcome, .inl ⟨now, ?_, hstill⟩⟩
    refine h.accounts.same (hnoted _) haimed (hne _) fun heq => ?_
    cases heq
    exact hverify rfl rfl

/-- A step that touches a sector: if it fails, the bytes of the sector are left open. -/
theorem Underway.touches {act : Act Rig StepResult} {sector : Sector}
    (h : plan.Underway step v now) (hearly : .verify ∉ Step.all.takeWhile (· ≠ step))
    (hne : step ≠ .verify)
    (htouched : ∀ error a, sector.Covers a →
      plan.Touched (v.outcomes ++ [(step, .failed error)]) a)
    (hstep : Act.Leads (plan.Still now) act
      (fun result rig => match result.1 with
        | .ok outcome => Carries step v result.2 ∧ ∃ later,
            plan.Accounts (result.2.advanced step outcome) later ∧ plan.Still later rig
        | .error _ => result.2 = v ∧ plan.Stirred sector now rig) fun _ _ => True) :
    plan.StepLeaves now step act := by
  refine hstep.post fun result rig hs => ?_
  rcases result with ⟨error | outcome, w⟩
  · obtain ⟨rfl, hstirred⟩ := hs
    exact h.accounts.halts h.config (not_verified h.ordered h.state hearly hne _)
      (htouched error) hstirred
  · obtain ⟨hcarries, later, haccounts, hstill⟩ := hs
    exact ⟨hcarries.config.trans h.config, h.ordered.advanced h.state hcarries outcome,
      .inl ⟨later, haccounts, hstill⟩⟩

section Flash

variable {g : Geometry} (hcharts : plan.layout.Charts g)
  (hanswers : Rig.Answers plan.layout g)

include hcharts hanswers

omit hcharts in
theorem Still.shows (bytes : Nat → UInt8) :
    Rig.device.Shows (plan.Still bytes) plan.layout g bytes :=
  Rig.device_shows (hanswers _ fun _ hstill => hstill.on) fun _ hstill => hstill.holds

/-- What is erased in the last sector, and seen to be, is accounted for. An erase that is not seen
through is one that failed. -/
theorem Underway.erases (h : plan.Underway .erase v now) :
    Attempt.Leads (plan.Still now)
      (eraseLastSector Rig.device ⟨Rig.device⟩ v.config.reservedEnd)
      (fun outcome rig => ∃ later, plan.Accounts (v.advanced .erase outcome) later ∧
        plan.Still later rig)
      (fun _ => plan.Stirred plan.last now) fun _ _ => True := by
  have hverify := not_verified h.ordered h.state (by decide) nofun .passed
  have hbounds := hcharts.tiled.mem_bounds plan.last plan.isLast.mem
  refine eraseLastSector_leads (M := fun rig => ∃ bytes,
      (∀ a, ¬ plan.last.Covers a → bytes a = now a) ∧ plan.Still bytes rig)
    hcharts plan.isLast (hanswers _ fun _ => Still.on) (fun _ rig hstill => ?_) (fun _ => ?_)
    (Rig.device_eraseValue fun _ ⟨_, _, hstill⟩ => hstill.on) fun _ => ?_
  · exact ⟨now, h.accounts.same rfl h.accounts.aimed nofun nofun, hstill⟩
  · -- an erase that times out may still take effect, but on its sector only
    exact (Rig.eraseSector_leads plan.valid plan.isLast.mem fun a ha => ⟨ha, ha⟩).mono
      (fun _ hstill => hstill.stirred plan.last) (fun _ _ hdone => hdone.1.quiet hdone.2)
      (fun _ _ hstirred => hstirred) fun _ _ hs => hs
  · refine Act.Leads.of_forall fun bytes => Act.Leads.of_and fun hframe => ?_
    obtain ⟨outcome, hends, hiff⟩ :=
      expectFill_decides (Still.shows hanswers bytes) hcharts hbounds.1 hbounds.2
    have hseen := Attempt.Leads.of_ends (S := fun _ _ => True) hends
    refine (hseen.post fun _ rig ⟨hok, hstill⟩ => ?_).on_refusal fun _ rig ⟨_, hstill⟩ =>
      (hstill.stirred plan.last).congr hframe
    have hall := (hiff _).mp hok
    exact ⟨bytes, h.accounts.erase hverify hframe fun a ha => hall a ha.1 ha.2, hstill⟩

/-- Whatever becomes of a pattern, it stays in the sector of the target page, and the part is idle
if the pattern is there. -/
theorem programPattern_stirs (pattern : UInt8) :
    Attempt.Leads (fun rig => plan.Stirred plan.target now rig ∧ rig.ctrl.Idle)
      (programPattern ⟨Rig.device⟩ plan.target.start (Word.low32 plan.layout.targetPage)
        plan.layout.pageSize pattern)
      (fun _ rig => plan.Stirred plan.target now rig ∧ rig.ctrl.Idle)
      (fun _ => plan.Stirred plan.target now) fun _ _ => True := by
  have hpage := hcharts.toNat_targetPage
  have hstart := plan.isTarget.covers.1
  have hin := hcharts.targetPage_le plan.isTarget
  let idle := fun rig : Rig => plan.Stirred plan.target now rig ∧ rig.ctrl.Idle
  have hreportsIdle : Rig.device.Reports idle g := hanswers _ fun _ hs => hs.1.on
  refine programPattern_leads (N := idle) hcharts plan.isTarget hreportsIdle hreportsIdle ?_ ?_ ?_
  · exact (Rig.eraseSector_leads plan.valid plan.isTarget.mem fun a ha => ⟨ha, ha⟩).pre
      fun _ hs => hs.1
  · refine (Rig.programPage_leads hcharts.paged (Memory.size_filled _ _)
      fun a hfirst hlast => ?_).unless_fault
    rw [hpage] at hfirst hlast
    have hcovers : plan.target.Covers a := ⟨by omega, by omega⟩
    exact ⟨hcovers, hcovers⟩
  · -- reading back changes nothing, whatever it finds
    have hasks := (expectFill_keeps (Rig.device_asks (P := idle))
      (Word.low32 plan.layout.targetPage) plan.layout.pageSize pattern).leads
    exact (hasks.on_refusal fun _ _ hs => hs.1).unless_fault

/-- What is programmed is accounted for. -/
theorem Underway.programs (h : plan.Underway .program v now) :
    Attempt.Leads (plan.Still now) (programTarget Rig.device ⟨Rig.device⟩ v.config)
      (fun result rig => ∃ later,
        plan.Accounts (({ v with target := result.2 } : Validator).advanced .program result.1)
          later ∧ plan.Still later rig)
      (fun _ => plan.Stirred plan.target now) fun _ _ => True := by
  have hverify := not_verified h.ordered h.state (by decide) nofun .passed
  have hvalue : Act.Ends (plan.Still now) Rig.device.eraseValue plan.layout.eraseValue _ :=
    Rig.device_eraseValue fun _ => Still.on
  have hpattern : ∀ pattern, Attempt.Leads
      (fun rig => plan.Stirred plan.target now rig ∧ rig.ctrl.Idle) _ _ _ _ := fun pattern =>
    programPattern_stirs hcharts hanswers pattern
  cases hdistinct : distinctPatterns v.config.firstPattern v.config.secondPattern
      plan.layout.eraseValue with
  | false =>
      have hrefused := Attempt.Leads.of_ends (S := fun _ _ => True)
        (programTarget_refuses hvalue hdistinct)
      exact (hrefused.post fun _ _ hs => nomatch hs.1).on_refusal fun _ _ hs =>
        hs.2.stirred plan.target
  | true =>
      refine programTarget_leads hcharts plan.isTarget (hanswers _ fun _ => Still.on) hvalue
        hdistinct (fun _ rig hstill => ?_)
        (fun _ => (hpattern _).pre fun _ hstill => ⟨hstill.stirred plan.target, hstill.idle⟩)
        fun _ => (hpattern _).post fun _ rig hs => ?_
      · exact ⟨now, h.accounts.same rfl (.inl rfl) nofun nofun, hstill⟩
      · obtain ⟨later, hframe, hstill⟩ := hs.1.quiet hs.2
        exact ⟨later, h.accounts.program hverify hframe, hstill⟩

/-- A verify that passes on a target that was programmed is right about it. -/
theorem Underway.judges (h : plan.Underway .verify v now) :
    Attempt.Leads (plan.Still now) (verifyProgrammed Rig.device ⟨Rig.device⟩ v)
      (fun outcome _ => outcome = .passed →
        Programmed plan.layout plan.target plan.config.secondPattern now)
      (fun _ _ => True) fun _ _ => True := by
  have hshows := Still.shows hanswers now
  unfold verifyProgrammed
  rcases h.accounts.aimed with hnone | haimed
  · rw [hnone]
    exact .pure _ fun _ _ => nofun
  · rw [haimed, h.config]
    by_cases hend : plan.layout.targetPage + plan.layout.pageSize.toNat < Word.span32
    · obtain ⟨outcome, hends, hiff⟩ := verifyTarget_decides hcharts hshows plan.isTarget
        plan.config.secondPattern hend
      refine .bind ((Attempt.Leads.of_ends hends).on_refusal fun _ _ _ => trivial) fun _ => ?_
      exact .pure _ fun _ hok _ => (hiff _).mp hok.1
    · -- the end of the page is no word, and the step does not judge at all
      refine .bind (Q := fun _ _ => False) ?_ fun _ => Act.Leads.absurd
      have hstops := verifyTarget_stops hcharts hshows plan.target plan.config.secondPattern
        (Nat.le_of_not_lt hend)
      exact (hstops.on_refusal fun _ _ hs => hs.elim).unless_fault

end Flash

/-- Asking the device and reading the timer leave the controller as it is. -/
theorem minded_asks (htimer : timer.Apart) (Q : Controller → Prop) :
    Minded (fun rig => Q rig.ctrl) (fun _ => False) Rig.device timer where
  calls := Rig.device_asks
  init := Rig.device_init_keeps
  free := Rig.device_free_keeps
  timer := htimer.keeps_ctrl _

/-- A step that keeps what is at rest, whatever it finds, and judges nothing. -/
theorem Underway.rests {act : Act Rig StepResult} (h : plan.Underway step v now)
    (hflash : step ≠ .erase ∧ step ≠ .program) (hverify : step ≠ .verify)
    (hkeeps : StepKeeps (plan.Still now) v step act) : plan.StepLeaves now step act :=
  h.same hflash (hkeeps.post fun _ _ hs => ⟨hs, fun heq => absurd heq hverify⟩).unless_fault

/-- The verify step keeps the bytes, and what it says of them is true. -/
theorem Underway.verifies {g : Geometry} (hcharts : plan.layout.Charts g)
    (hanswers : Rig.Answers plan.layout g) (htimer : timer.Apart) (h : plan.Underway .verify v now) :
    plan.StepLeaves now .verify (v.verifyStep Rig.device) := by
  let judged := fun outcome : StepOutcome => outcome = .passed →
    Programmed plan.layout plan.target plan.config.secondPattern now
  have hkeeps : StepKeeps (plan.Still now) v .verify (v.verifyStep Rig.device) :=
    verifyStep_keeps (minded_asks htimer (·.Quiet plan.layout now))
  have hjudges := verifyStep_leads (T := fun outcome _ => judged outcome) (F := fun _ _ => True)
    (fun _ _ _ => trivial) (fun _ => .trivial) (h.judges hcharts hanswers) fun outcome =>
      ((Attempt.Keeps.leads (Act.Keeps.const (judged outcome) _)).on_refusal
        fun _ _ _ => trivial).unless_fault
  refine h.same ⟨nofun, nofun⟩
    ((hkeeps.and hjudges).post fun result _ hs => ⟨hs.1, fun _ hpassed => ?_⟩).unless_fault
  rcases result with ⟨error | outcome, w⟩
  · cases hpassed
  · exact hs.2.2 (Except.ok.inj hpassed)

/-- **One step.** -/
theorem Underway.perform_leaves (htimer : timer.Apart) (h : plan.Underway step v now) :
    plan.StepLeaves now step (v.perform Rig.device timer step) := by
  obtain ⟨g, hcharts, hanswers⟩ := Rig.device_answers plan.valid
  have hminded := minded_asks htimer (·.Quiet plan.layout now)
  cases step with
  | init => exact h.rests ⟨nofun, nofun⟩ nofun (initStep_keeps hminded)
  | geometryCheck => exact h.rests ⟨nofun, nofun⟩ nofun (geometryStep_keeps hminded)
  | erase =>
      refine h.touches (by decide) nofun (fun _ a hcovers => .inl ⟨.noted nofun, hcovers⟩) ?_
      refine (eraseStep_leads (fun _ _ hstill => hstill.stirred plan.last) (fun _ => .trivial)
        (h.erases hcharts hanswers)).post fun result rig hs => ?_
      rcases result with ⟨error | outcome, w⟩
      · exact hs
      · obtain ⟨rfl, hleft⟩ := hs
        exact ⟨.refl _ _, hleft⟩
  | program =>
      refine h.touches (by decide) nofun (fun _ a hcovers => .inr ⟨.noted nofun, hcovers⟩) ?_
      refine (programStep_leads (fun _ _ hstill => hstill.stirred plan.target) (fun _ => .trivial)
        (h.programs hcharts hanswers)).post fun result rig hs => ?_
      rcases result with ⟨error | outcome, w⟩
      · exact hs
      · obtain ⟨aimed, rfl, hleft⟩ := hs
        exact ⟨⟨rfl, rfl, fun hne => absurd rfl hne⟩, hleft⟩
  | verify => exact h.verifies hcharts hanswers htimer
  | driftCheck => exact h.rests ⟨nofun, nofun⟩ nofun (driftStep_keeps hminded)

end Steps

/-! ## The run -/

section Run

open Validator

variable {timer : CycleTimer Rig}

/-- **One event** leaves a footprint again. -/
theorem footprint_onEvent (htimer : timer.Apart) (v : Validator) :
    Act.Leads (fun rig => plan.Footprint v rig.ctrl) (v.onEvent Rig.device timer)
      (fun next rig => plan.Footprint next rig.ctrl) fun _ _ => True := by
  refine onEvent_by_step (fun step hstate => ?_) fun _ _ hs => hs
  -- the run has not failed, so the part is idle and accounted for
  have hunderway : ∀ rig : Rig, plan.Footprint v rig.ctrl →
      ∃ now, plan.Underway step v now ∧ plan.Still now rig := by
    intro rig h
    rcases h.part with ⟨now, haccounts, hstill⟩ | ⟨hfinished, _⟩
    · exact ⟨now, ⟨hstate, h.config, h.ordered, haccounts⟩, hstill⟩
    · rw [isFinished, hstate] at hfinished
      cases hfinished
  refine Act.Leads.pre (.of_forall fun now => .of_and fun h => ?_) hunderway
  refine onEvent_leads (E := fun error next rig =>
      plan.Footprint (next.halted step error) rig.ctrl) hstate
    ((h.perform_leaves htimer).post fun result _ hs => ?_) fun error next => ?_
  · rcases result with ⟨_ | _, _⟩ <;> exact hs
  · -- dropping the session calls the driver, which does not reach the controller
    have hminded := minded_asks htimer (plan.Footprint (next.halted step error))
    exact (drop_keeps hminded).unless_fault

theorem Footprint.poll (h : plan.Footprint v ctrl) : plan.Footprint v ctrl.poll.2 where
  config := h.config
  ordered := h.ordered
  part := h.part.imp
    (fun ⟨now, haccounts, hquiet⟩ => ⟨now, haccounts, hquiet.idle.poll.symm ▸ hquiet⟩)
    fun ⟨hfinished, hverify, hconfined⟩ => ⟨hfinished, hverify, hconfined.poll fun _ ha => ha⟩

theorem Footprint.withStalled (h : plan.Footprint v ctrl) (stalled : Bool) :
    plan.Footprint v { ctrl with stalled } where
  config := h.config
  ordered := h.ordered
  part := h.part.imp
    (fun ⟨now, haccounts, hquiet⟩ => ⟨now, haccounts, hquiet.holds.withRegisters,
      hquiet.idle.enabled, hquiet.idle.busy⟩)
    fun ⟨hfinished, hverify, hconfined⟩ => ⟨hfinished, hverify, hconfined.withStalled stalled⟩

/-- Operations that take effect later stay within the footprint. -/
theorem footprint_pollAll (ticks : List Bool) :
    Act.Keeps (fun rig => plan.Footprint v rig.ctrl) (Rig.pollAll ticks) := by
  induction ticks with
  | nil => exact .pure _
  | cons stalled rest ih =>
      refine .bind (.change _ fun rig h => h.withStalled stalled) fun _ => ?_
      exact .bind (Rig.poll_leads fun _ h => h.poll) fun _ => ih

theorem Footprint.untouched (h : plan.Footprint v ctrl) (hfirst : plan.layout.start.toNat ≤ a)
    (hlast : a < plan.layout.stop) (hnot : ¬ plan.Touched v.outcomes a) :
    ctrl.byteAt a = plan.before a := by
  rcases h.part with ⟨now, haccounts, hquiet⟩ | ⟨_, _, hconfined⟩
  · exact (hquiet.holds.byteAt hfirst hlast).trans (haccounts.frame a hnot)
  · exact hconfined.byteAt hfirst hlast hnot

/-- What a run that verified its target has left in the two sectors. -/
theorem Footprint.verified (h : plan.Footprint v ctrl) (herase : (.erase, .passed) ∈ v.outcomes)
    (hverify : (.verify, .passed) ∈ v.outcomes)
    (hcovers : plan.last.Covers a ∨ plan.target.Covers a) :
    ctrl.byteAt a = if plan.layout.targetPage ≤ a ∧
        a < plan.layout.targetPage + plan.layout.pageSize.toNat then plan.config.secondPattern
      else plan.layout.eraseValue := by
  obtain ⟨g, hcharts, _⟩ := Rig.device_answers plan.valid
  have hlast := hcharts.tiled.mem_bounds plan.last plan.isLast.mem
  have htarget := hcharts.tiled.mem_bounds plan.target plan.isTarget.mem
  have hstart := plan.isTarget.covers.1
  have hin := hcharts.targetPage_le plan.isTarget
  rcases h.part with ⟨now, haccounts, hquiet⟩ | ⟨_, hunverified, _⟩
  · have hwindow : plan.layout.start.toNat ≤ a ∧ a < plan.layout.stop := by
      rcases hcovers with ⟨hfirst, hstop⟩ | ⟨hfirst, hstop⟩ <;> omega
    rw [hquiet.holds.byteAt hwindow.1 hwindow.2]
    by_cases htarget : plan.target.Covers a
    · exact haccounts.verified hverify a htarget
    · -- outside the target sector nothing was programmed
      have hpage : ¬ (plan.layout.targetPage ≤ a ∧
          a < plan.layout.targetPage + plan.layout.pageSize.toNat) := fun hpage =>
        htarget ⟨by omega, by omega⟩
      rw [if_neg hpage]
      exact haccounts.erased herase a (hcovers.resolve_right htarget) fun hboth => htarget hboth.2
  · exact absurd hverify hunverified

end Run

end Plan

/-- **The footprint of a run.** Whatever state an idle part is in and however its run ends, a byte
outside the sectors that the run touched is what it was, also after any number of ticks, with the
controller stalled or not. After a run that erased, programmed and verified, the two sectors are
erased but for the target page, which holds the second pattern. -/
theorem Validator.run_footprint {layout : FlashLayout} (hlayout : layout.validate = .ok (.ok ()))
    (rig : Rig) (hon : rig.ctrl.On layout) (hidle : rig.ctrl.Idle) {timer : CycleTimer Rig}
    (htimer : timer.Apart) (config : ValidatorConfig) (log : Log) (report : ValidationReport)
    (next : World Rig)
    (hrun : (run Rig.device timer { config }).runOn { state := rig, log } = (.ok report, next))
    (ticks : List Bool) :
    ∃ last target, layout.Last last ∧ layout.Target target ∧
      let left := ((Rig.pollAll ticks).runOn next).2.state.ctrl
      (∀ a, layout.start.toNat ≤ a → a < layout.stop → ¬ Touched last target report.outcomes a →
        left.byteAt a = rig.ctrl.byteAt a) ∧
      ((.erase, .passed) ∈ report.outcomes → (.program, .passed) ∈ report.outcomes →
        (.verify, .passed) ∈ report.outcomes → ∀ a, last.Covers a ∨ target.Covers a →
          left.byteAt a = if layout.targetPage ≤ a ∧
              a < layout.targetPage + layout.pageSize.toNat then config.secondPattern
            else layout.eraseValue) := by
  obtain ⟨g, hcharts, _⟩ := Rig.device_answers hlayout
  obtain ⟨last, hlast⟩ := hcharts.exists_last
  obtain ⟨target, htarget⟩ := hcharts.exists_target
  let plan : Plan :=
    ⟨layout, hlayout, last, hlast, target, htarget, config, rig.ctrl.byteAt⟩
  have hstart : plan.Footprint { config } rig.ctrl := by
    refine ⟨rfl, fun step hstep => ?_, .inl ⟨rig.ctrl.byteAt, ?_, hon.holds_byteAt, hidle⟩⟩
    · cases hstep
      rfl
    · exact ⟨fun _ _ => rfl, nofun, .inl rfl, nofun⟩
  -- the induction on the events of the run carries the footprint, and the ticks keep it
  have hleads := run_leads (N := fun v rig => plan.Footprint v rig.ctrl)
    (Plan.footprint_onEvent htimer) { config } { state := rig, log } hstart
  rw [hrun] at hleads
  obtain ⟨v, htells, hfootprint⟩ := hleads
  have hleft := (Plan.footprint_pollAll ticks).runOn next hfootprint
  refine ⟨last, target, hlast, htarget, fun a hfirst hstop hnot => ?_,
    fun herase _ hverify a ha => ?_⟩
  · exact hleft.untouched hfirst hstop (htells.outcomes ▸ hnot)
  · exact hleft.verified (htells.outcomes ▸ herase) (htells.outcomes ▸ hverify) ha

/-- A run on the small part leaves its first byte alone, the second pattern in the target page, and
the page behind it erased. -/
theorem Validator.run_footprint_smallRig :
    smallLayout.validate = .ok (.ok ()) ∧ smallRig.ctrl.On smallLayout ∧ smallRig.ctrl.Idle ∧
      (Rig.timer enoughReads).Apart ∧
      ∃ report next,
        (run Rig.device (Rig.timer enoughReads) { config := {} }).runOn { state := smallRig } =
          (.ok report, next) ∧
        let left := ((Rig.pollAll [true, false]).runOn next).2.state.ctrl
        left.byteAt 0x1000 = 0xFF ∧ left.byteAt 0x1018 = 0xAC ∧ left.byteAt 0x101C = 0xFF := by
  have hlayout : smallLayout.validate = .ok (.ok ()) := rfl
  have htimer := Rig.timer_apart enoughReads
  obtain ⟨report, next, hrun, drift, houtcomes⟩ :=
    (smallPlan.run_completes htimer smallRig_distinct.eq_true (.inl (by decide))).returns
      { state := smallRig } (smallRig_healthy.fresh (timer_returns_default smallRig_running))
  obtain ⟨last, target, hlast, htarget, hframe, hverified⟩ :=
    run_footprint hlayout smallRig smallRig_healthy.on smallRig_healthy.idle htimer {} {} report
      next hrun [true, false]
  have hpassed : ∀ step ∈ [Step.erase, .program, .verify], (step, .passed) ∈ report.outcomes := by
    rw [houtcomes]
    exact fun step hstep => List.mem_append_left _ (by revert step; decide)
  have hsectors := hverified (hpassed _ (by decide)) (hpassed _ (by decide)) (hpassed _ (by decide))
  -- the last sector starts behind the first byte, and so does the one of the target page
  have hlastFirst : ∀ sector ∈ smallLayout.sectorList, sector.stop = smallLayout.stop →
      ¬ sector.Covers 0x1000 := by decide
  have htargetFirst : ∀ sector ∈ smallLayout.sectorList, sector.Covers smallLayout.targetPage →
      ¬ sector.Covers 0x1000 ∧ sector.Covers 0x101C := by decide
  obtain ⟨hfirst, hbehind⟩ := htargetFirst target htarget.mem htarget.covers
  refine ⟨hlayout, smallRig_healthy.on, smallRig_healthy.idle, htimer, report, next, hrun,
    ?_, ?_, ?_⟩
  · exact hframe 0x1000 (by decide) (by decide) fun htouched => htouched.elim
      (fun h => hlastFirst last hlast.mem hlast.stop h.2) fun h => hfirst h.2
  · exact hsectors 0x1018 (.inr htarget.covers)
  · exact hsectors 0x101C (.inr hbehind)

end FlashBench
