import FlashBench.Proofs.Clock.Measure
import FlashBench.Proofs.Device.Keeps
import FlashBench.Proofs.Validation.Runs

/-!
# What a validation run keeps

A run erases and programs at addresses from `reservedEnd` on, and at no other, whatever its device
answers: the sector of the last byte and the one of the target page are both compared with the
reserved end before they are touched, and the target page does not lie below its sector. So an
invariant that the calls of the device and of the timer keep, erases and programs at such addresses
only, holds after any number of events.
-/

namespace FlashBench

variable {σ : Type} {inv : σ → Prop} {allowed : UInt32 → Prop} {device : Device σ}
  {timer : CycleTimer σ}

theorem alignDown_le (address size : UInt32) : alignDown address size ≤ address := by
  have hmod : address % size ≤ address := by
    rw [UInt32.le_iff_toNat_le, UInt32.toNat_mod]
    exact Nat.mod_le _ _
  unfold alignDown
  by_cases hsize : size = 0
  · rw [if_pos hsize]
    exact UInt32.le_refl address
  · rw [if_neg hsize, UInt32.le_iff_toNat_le, UInt32.toNat_sub_of_le _ _ hmod]
    exact Nat.sub_le _ _

namespace Session

variable {ε α : Type} {attempt : Attempt ε σ α} {P M : σ → Prop} {S S' : Fault → σ → Prop}

/-- A session is on the device that was acquired. -/
theorem start_leads {E : FlashError → σ → Prop}
    (hinit : Attempt.Leads P device.init (fun _ => M) E S)
    (hopening : Act.Leads M (Session.openingText device) (fun _ => M) S) :
    Attempt.Leads P (Session.start device) (fun session s => session = ⟨device⟩ ∧ M s) E S :=
  hinit.bind fun _ => .bind (.lift (.noteWith hopening)) fun _ => .pure _ fun _ hs => ⟨rfl, hs⟩

theorem free_leads {E : FlashError → σ → Prop}
    (hfree : Attempt.Leads P device.free (fun _ => M) E S) :
    Attempt.Leads P (Session.free ⟨device⟩) (fun _ => M) E S :=
  hfree.bind fun _ => .note _ _ fun _ hs => hs

/-- A session that is dropped is over, whether the device refuses its release or not. -/
theorem drop_leads (hfree : Attempt.Leads P device.free (fun _ => M) (fun _ => M) S) :
    Act.Leads P (Session.drop ⟨device⟩) (fun _ => M) S := by
  refine Act.Leads.bind hfree fun outcome => ?_
  cases outcome with
  | ok => exact .pure _ fun _ hs => hs
  | error => exact .note _ _ fun _ hs => hs

theorem drop_keeps (hfree : Attempt.Keeps inv device.free) :
    Act.Keeps inv (Session.drop ⟨device⟩) :=
  drop_leads hfree.leads

theorem free_keeps (hfree : Attempt.Keeps inv device.free) :
    Attempt.Keeps inv (Session.free ⟨device⟩) :=
  .of_leads (free_leads hfree.leads)

/-- Where something that uses the session leads to, unless a fault ends the session first. -/
theorem guarding_leads {Q : α → σ → Prop} {E : ε → σ → Prop} (h : Attempt.Leads P attempt Q E S')
    (hdrop : ∀ f, Act.Leads (S' f) (Session.drop ⟨device⟩) (fun _ => S f) S) :
    Attempt.Leads P (Session.guarding ⟨device⟩ attempt) Q E S :=
  Act.Leads.tryCatch h fun f => (hdrop f).bind fun _ => .fault f fun _ hs => hs

theorem guarding_keeps (hfree : Attempt.Keeps inv device.free) (h : Attempt.Keeps inv attempt) :
    Attempt.Keeps inv (Session.guarding ⟨device⟩ attempt) :=
  .of_leads (guarding_leads h.leads fun _ => drop_keeps hfree)

end Session

namespace Validator

/-! ## The flash steps -/

section Flash

variable (h : device.Keeps inv allowed)

include h

/-- The induction is on the reads that may still be made. -/
theorem compareChunks_keeps (address len : UInt32) (expected : UInt8) (chunks done : Nat) :
    Attempt.Keeps inv (compareChunks ⟨device⟩ address len expected chunks done) := by
  induction chunks generalizing done with
  | zero => exact .pure _
  | succ chunks ih =>
      refine .ite (fun _ => ?_) fun _ => .pure _
      refine .bind (.checked _) fun base => .bind (.withError (h.sessionRead _ _)) fun bytes => ?_
      cases bytes.data.toList.findIdx? (· ≠ expected) with
      | some i => exact .throw _
      | none => exact ih _

theorem expectFill_keeps (address len : UInt32) (expected : UInt8) :
    Attempt.Keeps inv (expectFill ⟨device⟩ address len expected) :=
  compareChunks_keeps h _ _ _ _ _

theorem eraseLastSector_keeps {reservedEnd : UInt32}
    (hallowed : ∀ address, reservedEnd ≤ address → allowed address) :
    Attempt.Keeps inv (eraseLastSector device ⟨device⟩ reservedEnd) := by
  unfold eraseLastSector
  refine .bind (.lift h.endAddress) fun _ => .bind (.checked _) fun _ => ?_
  refine .bind (.lift (h.sectorSize _)) fun size => .bind (.lift h.endAddress) fun _ => ?_
  refine .bind (.checked _) fun bytes => .bind (.checked _) fun _ => .guard fun _ => ?_
  refine .ite (fun _ => .pure _) fun hreserved => ?_
  have herase := h.sessionErase (hallowed _ (UInt32.not_lt.mp hreserved))
  refine .bind (.withError herase) fun _ => .bind (.lift h.eraseValue) fun _ => ?_
  exact .bind (expectFill_keeps h _ _ _) fun _ => .pure _

theorem programPattern_keeps {sector address : UInt32} (hsector : allowed sector)
    (hprogram : ∀ data, Attempt.Keeps inv (device.programPage address data)) (pageSize : UInt32)
    (pattern : UInt8) :
    Attempt.Keeps inv (programPattern ⟨device⟩ sector address pageSize pattern) := by
  refine .bind (.withError (h.sessionErase hsector)) fun _ => ?_
  exact .bind (.withError (h.sessionProgram_of (hprogram _))) fun _ => expectFill_keeps h _ _ _

theorem programTarget_keeps {config : ValidatorConfig}
    (hallowed : ∀ address, config.reservedEnd ≤ address → allowed address) :
    Attempt.Keeps inv (programTarget device ⟨device⟩ config) := by
  unfold programTarget
  refine .bind (.lift h.eraseValue) fun _ => .ite (fun _ => ?_) fun _ => .bind_throw _ _
  refine .bind (.lift h.pageSize) fun pageSize => .bind (.lift h.startAddress) fun first => ?_
  refine .bind (.lift h.endAddress) fun stop => ?_
  cases targetPage? first.toNat stop pageSize.toNat with
  | none => exact .throw _
  | some page =>
      refine .bind (.lift (h.sectorSize _)) fun size => .ite (fun _ => .pure _) fun hreserved => ?_
      -- the page starts in its sector, so it is not reserved when the sector is not
      have hsector := UInt32.not_lt.mp hreserved
      have hpage := UInt32.le_trans hsector (alignDown_le _ size)
      have hpattern := programPattern_keeps h (hallowed _ hsector)
        (fun data => h.programPage _ data (hallowed _ hpage)) pageSize
      exact .bind (hpattern _) fun _ => .bind (hpattern _) fun _ => .pure _

theorem verifyTarget_keeps (pattern : UInt8) (target : ProgramTarget) :
    Attempt.Keeps inv (verifyTarget device ⟨device⟩ pattern target) := by
  refine .bind (.lift h.pageSize) fun _ => .bind (.lift h.eraseValue) fun _ => ?_
  refine .bind (.checked _) fun _ => .bind (expectFill_keeps h _ _ _) fun _ => ?_
  refine .bind (.checked _) fun _ => .bind (expectFill_keeps h _ _ _) fun _ => ?_
  exact .bind (.checked _) fun _ => expectFill_keeps h _ _ _

theorem verifyProgrammed_keeps (validator : Validator) :
    Attempt.Keeps inv (verifyProgrammed device ⟨device⟩ validator) := by
  unfold verifyProgrammed
  cases validator.target with
  | none => exact .pure _
  | some target => exact .bind (verifyTarget_keeps h _ _) fun _ => .pure _

end Flash

/-! ## Steps in general -/

theorem leavingUnchanged_leads {P : σ → Prop} {Q : StepOutcome × Validator → σ → Prop}
    {E : ValidationError → σ → Prop} {S : Fault → σ → Prop} {validator : Validator}
    {attempt : Attempted σ (StepOutcome × Validator)} (h : Attempt.Leads P attempt Q E S) :
    Act.Leads P (validator.leavingUnchanged attempt)
      (fun result s => match result.1 with
        | .ok outcome => Q (outcome, result.2) s
        | .error error => result.2 = validator ∧ E error s) S := by
  refine Act.Leads.bind h fun outcome => ?_
  cases outcome with
  | ok => exact .pure _ fun _ hs => hs
  | error => exact .pure _ fun _ hs => ⟨rfl, hs⟩

/-- The session that a step uses is the one on its device. -/
theorem session_leads {P : σ → Prop} {α : Type} {Q : α → σ → Prop}
    {E : ValidationError → σ → Prop} {S : Fault → σ → Prop} {use : Session σ → Attempted σ α}
    {validator : Validator}
    (hnone : validator.holdsSession = false → ∀ s, P s → E (.flash .initFailure) s)
    (huse : Attempt.Leads P (use ⟨device⟩) Q E S) :
    Attempt.Leads P (do use (← validator.session device)) Q E S := by
  unfold Validator.session
  by_cases hholds : validator.holdsSession = true
  · rw [if_pos hholds]
    exact huse
  · rw [if_neg hholds]
    exact .bind (Q := fun _ _ => False)
      (.throw _ (hnone (Bool.eq_false_iff.mpr hholds))) fun _ _ h => h.elim

/-! ## The steps beside the flash -/

section Beside

variable {P M : σ → Prop} {N : TimerSample → σ → Prop} {E : ValidationError → σ → Prop}
  {S S' : Fault → σ → Prop} {validator : Validator}

theorem takeBaseline_leads {config : ValidatorConfig}
    (hprotect : Act.Leads P (timer.protect config.windowTicks) (fun _ => M) S)
    (hsample : Act.Leads M (timer.sample config.cycles) N S) :
    Act.Leads P (takeBaseline timer config) N S := by
  refine hprotect.bind fun protection => hsample.bind fun sample => ?_
  have helapsed := sample.elapsedMicros_ends (N sample)
  exact .bind_ends (.noteWith (.bind helapsed (.pure _))) (.pure _ fun _ hs => hs)

/-- **The first step** takes the device and the first sample. -/
theorem initStep_leads
    (hinit : Attempt.Leads P device.init (fun _ => M) (fun error => E (.flash error)) S)
    (hopening : Act.Leads M (Session.openingText device) (fun _ => M) S)
    (hbaseline : Act.Leads M (takeBaseline timer validator.config) N S')
    (hdrop : ∀ fault, Act.Leads (S' fault) (Session.drop ⟨device⟩) (fun _ => S fault) S) :
    Act.Leads P (validator.initStep device timer)
      (fun result s => match result.1 with
        | .ok outcome => outcome = .passed ∧
            ∃ sample, result.2 =
              { validator with holdsSession := true, baseline := some sample } ∧ N sample s
        | .error error => result.2 = validator ∧ E error s) S := by
  have hstart : Attempt.Leads P ((Session.start device).withError ValidationError.flash)
      (fun session s => session = ⟨device⟩ ∧ M s) E S :=
    (Session.start_leads hinit hopening).withError fun _ _ hs => hs
  refine leavingUnchanged_leads (Q := fun result s => result.1 = .passed ∧
      ∃ sample, result.2 = { validator with holdsSession := true, baseline := some sample } ∧
        N sample s) (.bind_value hstart ?_)
  refine (Session.guarding_leads (.lift hbaseline) hdrop).bind fun sample => ?_
  exact .pure _ fun _ hs => ⟨rfl, sample, rfl, hs⟩

/-- **The geometry check** notes down the report. -/
theorem geometryStep_leads
    (hnone : validator.holdsSession = false → ∀ s, P s → E (.flash .initFailure) s)
    (hdrop : ∀ fault, Act.Leads (S' fault) (Session.drop ⟨device⟩) (fun _ => S fault) S)
    (h : Attempt.Leads P (checkGeometry device) (fun _ => M) (fun error => E (.geometry error))
      S') :
    Act.Leads P (validator.geometryStep device)
      (fun result s => match result.1 with
        | .ok outcome => outcome = .passed ∧
            (∃ report, result.2 = { validator with geometry := some report }) ∧ M s
        | .error error => result.2 = validator ∧ E error s) S := by
  have hcheck : Attempt.Leads P ((checkGeometry device).withError ValidationError.geometry)
      (fun _ => M) E S' := h.withError fun _ _ hs => hs
  refine leavingUnchanged_leads (Q := fun result s => result.1 = .passed ∧
    (∃ report, result.2 = { validator with geometry := some report }) ∧ M s)
      (session_leads hnone (Session.guarding_leads ?_ hdrop))
  exact hcheck.bind fun report => .note_bind _ _ (.pure _ fun _ hs => ⟨rfl, ⟨report, rfl⟩, hs⟩)

/-- **The drift check** compares the second sample with the first one. -/
theorem driftStep_judges {first : TimerSample} (hfirst : validator.baseline = some first)
    (hprotect : Act.Leads P (timer.protect validator.config.windowTicks) (fun _ => M) S)
    (hsample : Act.Leads M (timer.sample validator.config.cycles) N S) :
    Act.Leads P (validator.driftStep timer)
      (fun result s => ∃ second,
        result = (judgeDrift first.micros second.micros
            (allowedDrift first.micros validator.config.driftDivisor),
          { validator with finalSample := some second }) ∧ N second s) S := by
  unfold driftStep
  rw [hfirst]
  refine .bind_ends (first.elapsedMicros_ends P)
    (hprotect.bind fun _ => hsample.bind fun second => ?_)
  refine .bind_ends (second.elapsedMicros_ends (N second)) (.note_bind _ _ ?_)
  exact .pure _ fun _ hs => ⟨second, rfl, hs⟩

/-- It notes down the second sample, if there is a first one. -/
theorem driftStep_leads
    (hprotect : Act.Leads P (timer.protect validator.config.windowTicks) (fun _ => P) S)
    (hsample : Act.Leads P (timer.sample validator.config.cycles) (fun _ => P) S) :
    Act.Leads P (validator.driftStep timer)
      (fun result s => (∃ finalSample, result.2 = { validator with finalSample }) ∧ P s) S := by
  cases hbaseline : validator.baseline with
  | none =>
      unfold driftStep
      rw [hbaseline]
      exact .pure _ fun _ hs => ⟨⟨validator.finalSample, by rw [← hbaseline]⟩, hs⟩
  | some first =>
      refine (driftStep_judges hbaseline hprotect hsample).post fun result s hs => ?_
      obtain ⟨second, rfl, hs⟩ := hs
      exact ⟨⟨some second, by rw [← hbaseline]⟩, hs⟩

end Beside

/-! ## Any number of events -/

/-- The device and the timer keep `inv`, with erases and programs at allowed addresses. -/
structure Minded (inv : σ → Prop) (allowed : UInt32 → Prop) (device : Device σ)
    (timer : CycleTimer σ) : Prop where
  calls : device.Keeps inv allowed
  init : Attempt.Keeps inv device.init
  free : Attempt.Keeps inv device.free
  timer : timer.Keeps inv

/-- A run that has not ended has noted down the steps before the one it is at. -/
def Ordered (validator : Validator) : Prop :=
  ∀ step, validator.state = .at step →
    validator.outcomes.map Prod.fst = Step.all.takeWhile (· ≠ step)

/-- What a step leaves of a run: its settings, its record, and, unless it is the program step, its
target. -/
structure Carries (step : Step) (validator next : Validator) : Prop where
  config : next.config = validator.config
  outcomes : next.outcomes = validator.outcomes
  target : step ≠ .program → next.target = validator.target

section Events

variable {validator : Validator}

/-- A step that carries the run along and keeps `inv`. -/
def StepKeeps (inv : σ → Prop) (validator : Validator) (step : Step) (act : Act σ StepResult) :
    Prop :=
  Act.Leads inv act (fun result s => Carries step validator result.2 ∧ inv s) fun _ => inv

theorem Carries.refl (step : Step) (validator : Validator) : Carries step validator validator :=
  ⟨rfl, rfl, fun _ => rfl⟩

theorem Ordered.advanced {step : Step} {next : Validator} (h : validator.Ordered)
    (hstate : validator.state = .at step) (hcarries : Carries step validator next)
    (outcome : StepOutcome) : (next.advanced step outcome).Ordered := by
  intro later hlater
  have hlater : stateAfter step = .at later := hlater
  show (next.outcomes ++ [(step, outcome)]).map Prod.fst = _
  rw [List.map_append, hcarries.outcomes, h step hstate]
  cases step <;> cases hlater <;> rfl

/-- A step that comes later has not been noted down yet. -/
theorem Ordered.not_mem {step later : Step} (h : validator.Ordered)
    (hstate : validator.state = .at step) (hlater : later ∉ Step.all.takeWhile (· ≠ step))
    (outcome : StepOutcome) : (later, outcome) ∉ validator.outcomes := fun hmem =>
  hlater (h step hstate ▸ List.mem_map_of_mem hmem)

theorem stepKeeps_leavingUnchanged {step : Step}
    {attempt : Attempted σ (StepOutcome × Validator)}
    (h : Attempt.Leads inv attempt (fun result s => Carries step validator result.2 ∧ inv s)
      (fun _ => inv) fun _ => inv) :
    StepKeeps inv validator step (validator.leavingUnchanged attempt) :=
  (leavingUnchanged_leads h).post fun result s hs => by
    rcases result with ⟨_ | outcome, next⟩
    · obtain ⟨rfl, hs⟩ := hs
      exact ⟨.refl step next, hs⟩
    · exact hs

section Steps

variable (h : Minded inv allowed device timer)

include h

theorem initStep_keeps : StepKeeps inv validator .init (validator.initStep device timer) := by
  have hbaseline : Act.Keeps inv (takeBaseline timer validator.config) :=
    takeBaseline_leads (h.timer.protect _) (h.timer.sample _)
  refine (initStep_leads (E := fun _ => inv) h.init.leads h.calls.openingText hbaseline fun _ =>
    Session.drop_keeps h.free).post fun result s hs => ?_
  rcases result with ⟨error | outcome, next⟩
  · obtain ⟨rfl, hs⟩ := hs
    exact ⟨.refl _ _, hs⟩
  · obtain ⟨_, sample, rfl, hs⟩ := hs
    exact ⟨⟨rfl, rfl, fun _ => rfl⟩, hs⟩

theorem geometryStep_keeps :
    StepKeeps inv validator .geometryCheck (validator.geometryStep device) := by
  refine (geometryStep_leads (E := fun _ => inv) (fun _ _ hs => hs)
    (fun _ => Session.drop_keeps h.free) h.calls.checkGeometry.leads).post fun result s hs => ?_
  rcases result with ⟨error | outcome, next⟩
  · obtain ⟨rfl, hs⟩ := hs
    exact ⟨.refl _ _, hs⟩
  · obtain ⟨_, ⟨report, rfl⟩, hs⟩ := hs
    exact ⟨⟨rfl, rfl, fun _ => rfl⟩, hs⟩

theorem eraseStep_keeps
    (hallowed : ∀ address, validator.config.reservedEnd ≤ address → allowed address) :
    StepKeeps inv validator .erase (validator.eraseStep device) := by
  have herase :=
    (Session.guarding_keeps h.free (eraseLastSector_keeps h.calls hallowed)).leads
  refine stepKeeps_leavingUnchanged (session_leads (fun _ _ hs => hs) ?_)
  exact herase.bind fun _ => .pure _ fun _ hs => ⟨.refl _ _, hs⟩

theorem programStep_keeps
    (hallowed : ∀ address, validator.config.reservedEnd ≤ address → allowed address) :
    StepKeeps inv validator .program (validator.programStep device) := by
  have hprogram := (Session.guarding_keeps h.free (programTarget_keeps h.calls hallowed)).leads
  refine stepKeeps_leavingUnchanged (session_leads (fun _ _ hs => hs) ?_)
  exact hprogram.bind fun _ => .pure _ fun _ hs => ⟨⟨rfl, rfl, fun hne => absurd rfl hne⟩, hs⟩

theorem verifyStep_keeps : StepKeeps inv validator .verify (validator.verifyStep device) := by
  have hverify : Attempt.Keeps inv (verifyProgrammed device ⟨device⟩ validator) :=
    verifyProgrammed_keeps h.calls validator
  have hreleased : Carries .verify validator { validator with holdsSession := false } :=
    ⟨rfl, rfl, fun _ => rfl⟩
  unfold verifyStep
  refine .ite (fun _ => .pure _ fun _ hs => ⟨.refl _ _, hs⟩) fun _ => ?_
  refine .bind (Session.guarding_keeps h.free hverify) fun outcome => ?_
  cases outcome with
  | error error => exact .pure _ fun _ hs => ⟨.refl _ _, hs⟩
  | ok outcome =>
      refine .bind (Session.free_keeps h.free) fun released => ?_
      cases released with
      | error error => exact .pure _ fun _ hs => ⟨hreleased, hs⟩
      | ok => exact .pure _ fun _ hs => ⟨hreleased, hs⟩

theorem driftStep_keeps : StepKeeps inv validator .driftCheck (validator.driftStep timer) :=
  (driftStep_leads (h.timer.protect _) (h.timer.sample _)).post fun result s hs => by
    obtain ⟨⟨finalSample, hnext⟩, hs⟩ := hs
    exact ⟨hnext ▸ ⟨rfl, rfl, fun _ => rfl⟩, hs⟩

theorem perform_keeps
    (hallowed : ∀ address, validator.config.reservedEnd ≤ address → allowed address)
    (step : Step) : StepKeeps inv validator step (validator.perform device timer step) := by
  cases step with
  | init => exact initStep_keeps h
  | geometryCheck => exact geometryStep_keeps h
  | erase => exact eraseStep_keeps h hallowed
  | program => exact programStep_keeps h hallowed
  | verify => exact verifyStep_keeps h
  | driftCheck => exact driftStep_keeps h

theorem drop_keeps : Act.Keeps inv (validator.drop device) :=
  .ite (fun _ => Session.drop_keeps h.free) fun _ => .pure _

/-- **One event.** Whatever the step is and however it ends, the settings stay as they are and
`inv` is kept. -/
theorem onEvent_keeps
    (hallowed : ∀ address, validator.config.reservedEnd ≤ address → allowed address) :
    Act.Leads inv (validator.onEvent device timer)
      (fun next s => next.config = validator.config ∧ inv s) fun _ => inv := by
  refine onEvent_by_step (fun step hstate => ?_) fun _ _ hs => ⟨rfl, hs⟩
  have hstep := perform_keeps h hallowed step
  refine onEvent_leads (E := fun _ next s => next.config = validator.config ∧ inv s) hstate
    (hstep.post fun result s hs => ?_) fun _ next => .of_and fun hconfig => ?_
  · rcases result with ⟨_ | _, _⟩ <;> exact ⟨hs.1.config, hs.2⟩
  · exact (drop_keeps h).post fun _ _ hs => ⟨hconfig, hs⟩

/-- **Any number of events** on a device and a timer that keep `inv`. -/
theorem afterEvents_keeps (validator : Validator)
    (hallowed : ∀ address, validator.config.reservedEnd ≤ address → allowed address)
    (events : Nat) : Act.Keeps inv (afterEvents device timer events validator) := by
  let config := validator.config
  refine (afterEvents_leads (N := fun v s => v.config = config ∧ inv s) (fun v => ?_) events
    validator).mono (fun _ hs => ⟨rfl, hs⟩) (fun _ _ hs => hs.2) fun _ _ hs => hs
  refine .of_and fun hconfig => ?_
  have hevent : Act.Leads inv (v.onEvent device timer)
      (fun next s => next.config = v.config ∧ inv s) fun _ => inv :=
    onEvent_keeps h (hconfig ▸ hallowed)
  exact hevent.post fun _ _ hs => ⟨hs.1.trans hconfig, hs.2⟩

end Steps
end Events
end Validator

end FlashBench
