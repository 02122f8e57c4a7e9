import FlashBench.Proofs.Validation.Keeps

/-!
# What a step does to its run

Whatever the device answers and whatever the clock shows, a step that comes to an end does one of a
few things to the run (`Validator.Effect`): each step has its own way to pass, and all but the last
one may be refused, for a reason that has to do with the flash. The drift check alone is refused for
what the clock showed.
-/

namespace FlashBench

variable {σ α β : Type} {device : Device σ} {timer : CycleTimer σ}

/-- An error that comes from the samples, not from the flash. -/
def ValidationError.ofSamples : ValidationError → Bool
  | driftExceeded _ _ _ => true
  | missingBaseline => true
  | _ => false

/-- The step failed. -/
def StepOutcome.isFailure : StepOutcome → Bool
  | failed _ => true
  | _ => false

namespace Validator

/-! ## Work on the flash -/

/-- An attempt whose values are as `good` has them, and which is refused only for what the flash
did. -/
def OnFlash (attempt : Attempted σ α) (good : α → Prop) : Prop :=
  Attempt.Leads (fun _ => True) attempt (fun value _ => good value)
    (fun error _ => error.ofSamples = false) fun _ _ => True

namespace OnFlash

variable {good : α → Prop}

theorem pure (value : α) (h : good value) : OnFlash (Pure.pure value : Attempted σ α) good :=
  Attempt.Leads.pure _ fun _ _ => h

theorem throw (error : ValidationError) (h : error.ofSamples = false) :
    OnFlash (throw error : Attempted σ α) good :=
  Attempt.Leads.throw _ fun _ _ => h

theorem bind {attempt : Attempted σ β} {f : β → Attempted σ α}
    (h : OnFlash attempt fun _ => True) (hf : ∀ b, OnFlash (f b) good) :
    OnFlash (attempt >>= f) good :=
  Attempt.Leads.bind h hf

theorem ite {c : Prop} [Decidable c] {x y : Attempted σ α} (hx : OnFlash x good)
    (hy : OnFlash y good) : OnFlash (if c then x else y) good :=
  Attempt.Leads.ite (fun _ => hx) fun _ => hy

/-- A guard, which is no matter of the samples. -/
theorem guard {c : Prop} [Decidable c] {error : ValidationError} {f : β → Attempted σ α}
    {y : Attempted σ α} (herror : error.ofSamples = false) (hy : OnFlash y good) :
    OnFlash (if c then (throwThe ValidationError error : Attempted σ β) >>= f else y) good :=
  Attempt.Leads.guard (fun _ _ _ => herror) fun _ => hy

/-- A call of the device, which may be refused. -/
theorem call (attempt : Attempt FlashError σ α) :
    OnFlash (attempt.withError ValidationError.flash) fun _ => True :=
  .withError Attempt.Leads.trivial fun _ _ _ => rfl

theorem act (act : Act σ α) : OnFlash (liftM act : Attempted σ α) fun _ => True :=
  .lift Act.Leads.trivial

theorem checked (value : Except Fault α) :
    OnFlash (Attempt.checked value : Attempted σ α) fun _ => True :=
  act _

theorem guarding {session : Session σ} {attempt : Attempted σ α} (h : OnFlash attempt good) :
    OnFlash (session.guarding attempt) good :=
  Session.guarding_leads h fun _ => Act.Leads.trivial.pre fun _ _ => trivial

end OnFlash

/-- The induction is on the reads that may still be made. -/
theorem compareChunks_onFlash (session : Session σ) (address len : UInt32) (expected : UInt8)
    (chunks done : Nat) :
    OnFlash (compareChunks session address len expected chunks done) fun _ => True := by
  induction chunks generalizing done with
  | zero => exact .pure _ trivial
  | succ chunks ih =>
      refine .ite (.bind (.checked _) fun _ => .bind (.call _) fun bytes => ?_) (.pure _ trivial)
      cases bytes.data.toList.findIdx? (· ≠ expected) with
      | some i => exact .throw _ rfl
      | none => exact ih _

theorem expectFill_onFlash (session : Session σ) (address len : UInt32) (expected : UInt8) :
    OnFlash (expectFill session address len expected) fun _ => True :=
  compareChunks_onFlash _ _ _ _ _ _

theorem eraseLastSector_onFlash (session : Session σ) (reservedEnd : UInt32) :
    OnFlash (eraseLastSector device session reservedEnd) (·.isFailure = false) := by
  refine .bind (.act _) fun _ => .bind (.checked _) fun _ => .bind (.act _) fun _ => ?_
  refine .bind (.act _) fun _ => .bind (.checked _) fun _ => .bind (.checked _) fun _ => ?_
  refine .guard rfl (.ite (.pure _ rfl) (.bind (.call _) fun _ => .bind (.act _) fun _ => ?_))
  exact .bind (expectFill_onFlash _ _ _ _) fun _ => .pure _ rfl

theorem programPattern_onFlash (session : Session σ) (sector address pageSize : UInt32)
    (pattern : UInt8) :
    OnFlash (programPattern session sector address pageSize pattern) fun _ => True :=
  .bind (.call _) fun _ => .bind (.call _) fun _ => expectFill_onFlash _ _ _ _

theorem programTarget_onFlash (session : Session σ) (config : ValidatorConfig) :
    OnFlash (programTarget device session config) (·.1.isFailure = false) := by
  refine .bind (.act _) fun _ => .ite ?_ (Attempt.Leads.bind_throw _ fun _ _ => rfl)
  refine .bind (.act _) fun pageSize => .bind (.act _) fun start => .bind (.act _) fun stop => ?_
  cases targetPage? start.toNat stop pageSize.toNat with
  | none => exact .throw _ rfl
  | some page =>
      refine .bind (.act _) fun _ => .ite (.pure _ rfl) ?_
      refine .bind (programPattern_onFlash _ _ _ _ _) fun _ => ?_
      exact .bind (programPattern_onFlash _ _ _ _ _) fun _ => .pure _ rfl

theorem verifyTarget_onFlash (session : Session σ) (pattern : UInt8) (target : ProgramTarget) :
    OnFlash (verifyTarget device session pattern target) fun _ => True := by
  refine .bind (.act _) fun _ => .bind (.act _) fun _ => .bind (.checked _) fun _ => ?_
  refine .bind (expectFill_onFlash _ _ _ _) fun _ => .bind (.checked _) fun _ => ?_
  exact .bind (expectFill_onFlash _ _ _ _) fun _ => .bind (.checked _) fun _ =>
    expectFill_onFlash _ _ _ _

theorem verifyProgrammed_onFlash (session : Session σ) (v : Validator) :
    OnFlash (verifyProgrammed device session v) (·.isFailure = false) := by
  unfold verifyProgrammed
  cases v.target with
  | none => exact .pure _ rfl
  | some target => exact .bind (verifyTarget_onFlash _ _ _) fun _ => .pure _ rfl

/-! ## One step -/

/-- What a step can do to a run that has what the step needs: how it passes, or that it is refused
and the session may be gone. -/
inductive Effect (v : Validator) : Step → StepResult → Prop
  | opened (first : TimerSample) :
      Effect v .init (.ok .passed, { v with holdsSession := true, baseline := some first })
  | surveyed (report : GeometryReport) :
      Effect v .geometryCheck (.ok .passed, { v with geometry := some report })
  | erased {outcome : StepOutcome} (h : outcome.isFailure = false) :
      Effect v .erase (.ok outcome, v)
  | programmed {outcome : StepOutcome} (h : outcome.isFailure = false)
      (target : Option ProgramTarget) : Effect v .program (.ok outcome, { v with target })
  | verified {outcome : StepOutcome} (h : outcome.isFailure = false) :
      Effect v .verify (.ok outcome, { v with holdsSession := false })
  | judged {first : TimerSample} (second : TimerSample) (h : v.baseline = some first) :
      Effect v .driftCheck
        (judgeDrift first.micros second.micros
          (allowedDrift first.micros v.config.driftDivisor), { v with finalSample := some second })
  | refused {step : Step} {error : ValidationError} (holdsSession : Bool)
      (hstep : step ≠ .driftCheck) (h : error.ofSamples = false) :
      Effect v step (.error error, { v with holdsSession })

section Steps

variable {v : Validator}

/-- A step that leaves the run as it was when it fails has the effect of its success. -/
theorem leavingUnchanged_effect {step : Step} {attempt : Attempted σ (StepOutcome × Validator)}
    (hstep : step ≠ .driftCheck)
    (h : OnFlash attempt fun result => Effect v step (.ok result.1, result.2)) :
    Act.Leads (fun _ => True) (v.leavingUnchanged attempt) (fun result _ => Effect v step result)
      fun _ _ => True :=
  (leavingUnchanged_leads h).post fun result _ hs => by
    rcases result with ⟨error | outcome, next⟩
    · obtain ⟨rfl, herror⟩ := hs
      exact .refused _ hstep herror
    · exact hs

theorem initStep_effect :
    Act.Leads (fun _ => True) (v.initStep device timer) (fun result _ => Effect v .init result)
      fun _ _ => True := by
  refine leavingUnchanged_effect nofun (.bind (.call _) fun session => ?_)
  exact .bind (.guarding (.act _)) fun sample => .pure _ (.opened sample)

section Held

variable (hholds : v.holdsSession = true)

include hholds

/-- The session that a step needs is there. -/
theorem session_of_holds : v.session device = pure ⟨device⟩ :=
  if_pos hholds

theorem geometryStep_effect :
    Act.Leads (fun _ => True) (v.geometryStep device)
      (fun result _ => Effect v .geometryCheck result) fun _ _ => True := by
  refine leavingUnchanged_effect nofun ?_
  rw [session_of_holds hholds, pure_bind]
  refine .guarding (.bind ?_ fun report => .bind (.act _) fun _ => .pure _ (.surveyed report))
  exact .withError Attempt.Leads.trivial fun _ _ _ => rfl

theorem eraseStep_effect :
    Act.Leads (fun _ => True) (v.eraseStep device) (fun result _ => Effect v .erase result)
      fun _ _ => True := by
  refine leavingUnchanged_effect nofun ?_
  rw [session_of_holds hholds, pure_bind]
  exact Attempt.Leads.bind (OnFlash.guarding (eraseLastSector_onFlash _ _)) fun outcome =>
    .pure _ fun _ houtcome => .erased houtcome

theorem programStep_effect :
    Act.Leads (fun _ => True) (v.programStep device) (fun result _ => Effect v .program result)
      fun _ _ => True := by
  refine leavingUnchanged_effect nofun ?_
  rw [session_of_holds hholds, pure_bind]
  exact Attempt.Leads.bind (OnFlash.guarding (programTarget_onFlash _ _)) fun result =>
    .pure _ fun _ houtcome => .programmed houtcome result.2

theorem verifyStep_effect :
    Act.Leads (fun _ => True) (v.verifyStep device) (fun result _ => Effect v .verify result)
      fun _ _ => True := by
  have hverify : Attempt.Leads (fun _ => True)
      (Session.guarding ⟨device⟩ (verifyProgrammed device ⟨device⟩ v))
      (fun outcome _ => outcome.isFailure = false) (fun error _ => error.ofSamples = false)
      fun _ _ => True := OnFlash.guarding (verifyProgrammed_onFlash _ _)
  unfold verifyStep
  rw [hholds, Bool.not_true, if_neg Bool.false_ne_true]
  refine Act.Leads.bind hverify fun outcome => ?_
  cases outcome with
  | error error => exact .pure _ fun _ herror => .refused v.holdsSession nofun herror
  | ok outcome =>
      refine Act.Leads.of_and (p := outcome.isFailure = false) (fun houtcome => ?_)
        |>.pre fun _ houtcome => ⟨houtcome, trivial⟩
      refine Act.Leads.trivial.bind fun freed => ?_
      cases freed with
      | error error => exact .pure _ fun _ _ => .refused false nofun rfl
      | ok => exact .pure _ fun _ _ => .verified houtcome

end Held

theorem driftStep_effect {first : TimerSample} (hfirst : v.baseline = some first) :
    Act.Leads (fun _ => True) (v.driftStep timer) (fun result _ => Effect v .driftCheck result)
      fun _ _ => True :=
  (driftStep_judges hfirst Act.Leads.trivial Act.Leads.trivial).post fun _ _ hs => by
    obtain ⟨second, rfl, _⟩ := hs
    exact .judged second hfirst

/-- **One step,** given the session and the first sample where it needs them. -/
theorem perform_effect {step : Step}
    (hsession : step ≠ .init → step ≠ .driftCheck → v.holdsSession = true)
    (hbaseline : step = .driftCheck → v.baseline.isSome) :
    Act.Leads (fun _ => True) (v.perform device timer step) (fun result _ => Effect v step result)
      fun _ _ => True := by
  cases step with
  | init => exact initStep_effect
  | geometryCheck => exact geometryStep_effect (hsession nofun nofun)
  | erase => exact eraseStep_effect (hsession nofun nofun)
  | program => exact programStep_effect (hsession nofun nofun)
  | verify => exact verifyStep_effect (hsession nofun nofun)
  | driftCheck =>
      obtain ⟨first, hfirst⟩ := Option.isSome_iff_exists.mp (hbaseline rfl)
      exact driftStep_effect hfirst

end Steps

end Validator

end FlashBench
