import FlashBench.Proofs.Device.Traced
import FlashBench.Proofs.Validation.Steps

/-!
# The session of a run

A run takes its device in the first step, and is done with it once the verify step has come to an
end or a step has failed. What `init` and `free` make of the hardware is known from outside: they
lead from a state `before` the session to one in which it is `held`, and on to one `after` it
(`Brackets`). Then the run can be in three stages, and it says itself in which (`Validator.Stage`).
One event keeps the stage (`Brackets.onEvent`), and so does any number of them
(`Brackets.afterEvents`); dropping the run or driving it to its end closes the bracket.

The session is given back in three places: the verify step frees it, an event drops it when its step
failed, and a fault inside a step drops it on the way out.
-/

namespace FlashBench

variable {σ : Type} {before held after stop : σ → Prop} {device : Device σ} {timer : CycleTimer σ}

/-- The device leads from `before` a session to one that is `held`, and from there to `after` it. A
session that is refused is over, and one that the device would not take back is over as well. -/
structure Brackets (before held after stop : σ → Prop) (device : Device σ)
    (timer : CycleTimer σ) : Prop where
  init : Attempt.Leads before device.init (fun _ => held) (fun _ => after) fun _ => stop
  opening : Act.Leads held (Session.openingText device) (fun _ => held) fun _ => stop
  uses : device.Keeps held fun _ => True
  free : Attempt.Leads held device.free (fun _ => after) (fun _ => after) fun _ => stop
  samples : timer.Keeps held
  rests : timer.Keeps after
  stops : ∀ s, after s → stop s

/-- A run in this state has a session: from the second step to the verify step. -/
def ValidatorState.inSession : ValidatorState → Bool
  | .at .init => false
  | .at .driftCheck => false
  | .at _ => true
  | _ => false

namespace Validator

variable {v : Validator} {step : Step}

/-- The run has its session. -/
def Holding (held : σ → Prop) (v : Validator) (s : σ) : Prop := v.holdsSession = true ∧ held s

/-- The run has no session. -/
def Without (outside : σ → Prop) (v : Validator) (s : σ) : Prop :=
  v.holdsSession = false ∧ outside s

/-- What is known when a run comes to a state. -/
def stageAt (before held after : σ → Prop) : ValidatorState → Validator → σ → Prop
  | .at .init => Without before
  | .at .driftCheck => Without after
  | .at _ => Holding held
  | _ => Without after

/-- Where a run stands with its session. -/
def Stage (before held after : σ → Prop) (v : Validator) : σ → Prop :=
  stageAt before held after v.state v

/-- The run has its session still, or is done with it. -/
def Parting (held after : σ → Prop) (v : Validator) (s : σ) : Prop :=
  v.Holding held s ∨ v.Without after s

/-- A step that did not fail leads to `next`, and one that did leaves a session to be dropped at
most. -/
def Parts (held after : σ → Prop) (next : Validator → σ → Prop) (result : StepResult) (s : σ) :
    Prop :=
  match result.1 with
  | .ok _ => next result.2 s
  | .error _ => result.2.Parting held after s

/-- A run whose session is over. -/
def IsOver (v : Validator) : Prop := v.state = .at .driftCheck ∨ v.isFinished = true

theorem Stage.fresh {config : ValidatorConfig} {s : σ} (h : before s) :
    Stage before held after { config } s :=
  ⟨rfl, h⟩

theorem Stage.over {s : σ} (h : v.Stage before held after s) (hover : v.IsOver) : after s := by
  unfold Stage at h
  rcases hover with hstate | hfinished
  · rw [hstate] at h
    exact h.2
  · cases hstate : v.state with
    | «at» step =>
        rw [isFinished, hstate] at hfinished
        cases hfinished
    | done =>
        rw [hstate] at h
        exact h.2
    | failed error =>
        rw [hstate] at h
        exact h.2

/-- Either there has been no session so far, or it is there, or it is over. -/
theorem Stage.cases {s : σ} (h : v.Stage before held after s) :
    v.Without before s ∨ v.Parting held after s := by
  unfold Stage at h
  rcases hstate : v.state with step | _ | error
  · rw [hstate] at h
    cases step with
    | init => exact .inl h
    | driftCheck => exact .inr (.inr h)
    | geometryCheck | erase | program | verify => exact .inr (.inl h)
  · rw [hstate] at h
    exact .inr (.inr h)
  · rw [hstate] at h
    exact .inr (.inr h)

theorem Stage.tidy {s : σ} (h : v.Stage before held after s) :
    v.holdsSession = v.state.inSession := by
  unfold Stage at h
  rcases hstate : v.state with step | _ | error <;> rw [hstate] at h
  · cases step <;> exact h.1
  · exact h.1
  · exact h.1

/-- Where it makes no difference whether there has been a session. -/
theorem Stage.of_tidy {s : σ} (htidy : v.holdsSession = v.state.inSession)
    (hheld : v.holdsSession = true → held s) (hnone : v.holdsSession = false → after s) :
    v.Stage after held after s := by
  unfold Stage
  rcases hstate : v.state with step | _ | error <;> rw [hstate] at htidy
  · cases step with
    | init | driftCheck => exact ⟨htidy, hnone htidy⟩
    | geometryCheck | erase | program | verify => exact ⟨htidy, hheld htidy⟩
  · exact ⟨htidy, hnone htidy⟩
  · exact ⟨htidy, hnone htidy⟩

end Validator

namespace Brackets

open Validator

variable {v : Validator} {step : Step} (h : Brackets before held after stop device timer)

include h

theorem drop : Act.Leads held (Session.drop ⟨device⟩) (fun _ => after) fun _ => stop :=
  Session.drop_leads h.free

/-- A fault ends the session on its way out. -/
theorem unwinds (_ : Fault) :
    Act.Leads held (Session.drop ⟨device⟩) (fun _ => stop) fun _ => stop :=
  h.drop.post fun _ => h.stops

theorem parts (v : Validator) :
    Act.Leads (v.Parting held after) (v.drop device) (fun _ => after) fun _ => stop := by
  unfold Validator.drop
  refine Act.Leads.or (.of_and fun hholds => ?_) (.of_and fun hnone => ?_)
  · rw [if_pos hholds]
    exact h.drop
  · rw [if_neg (by rw [hnone]; exact Bool.false_ne_true)]
    exact .pure _ fun _ hs => hs

/-! ## Steps -/

theorem initStep (hnone : v.holdsSession = false) :
    Act.Leads before (v.initStep device timer)
      (Parts held after (Holding held)) fun _ => stop := by
  have hbaseline : Act.Leads held (takeBaseline timer v.config) (fun _ => held) fun _ => held :=
    takeBaseline_leads (h.samples.protect _) (h.samples.sample _)
  refine (initStep_leads (E := fun _ => after) h.init h.opening hbaseline h.unwinds).post
    fun result s hs => ?_
  rcases result with ⟨error | outcome, next⟩
  · obtain ⟨rfl, hs⟩ := hs
    exact .inr ⟨hnone, hs⟩
  · obtain ⟨_, sample, rfl, hs⟩ := hs
    exact ⟨rfl, hs⟩

section Held

variable (hholds : v.holdsSession = true)

include hholds

theorem geometryStep :
    Act.Leads held (v.geometryStep device)
      (Parts held after (Holding held)) fun _ => stop := by
  refine (geometryStep_leads (E := fun _ => held) (fun hnone => nomatch hholds.symm.trans hnone)
    h.unwinds h.uses.checkGeometry.leads).post fun result s hs => ?_
  rcases result with ⟨error | outcome, next⟩
  · obtain ⟨rfl, hs⟩ := hs
    exact .inl ⟨hholds, hs⟩
  · obtain ⟨_, ⟨report, rfl⟩, hs⟩ := hs
    exact ⟨hholds, hs⟩

theorem eraseStep :
    Act.Leads held (v.eraseStep device)
      (Parts held after (Holding held)) fun _ => stop := by
  have herase : Attempt.Keeps held (eraseLastSector device ⟨device⟩ v.config.reservedEnd) :=
    eraseLastSector_keeps h.uses fun _ _ => trivial
  refine (eraseStep_leads (E := fun _ => held) (fun hnone => nomatch hholds.symm.trans hnone)
    h.unwinds herase.leads).post fun result s hs => ?_
  rcases result with ⟨error | outcome, next⟩
  · obtain ⟨rfl, hs⟩ := hs
    exact .inl ⟨hholds, hs⟩
  · obtain ⟨rfl, hs⟩ := hs
    exact ⟨hholds, hs⟩

theorem programStep :
    Act.Leads held (v.programStep device)
      (Parts held after (Holding held)) fun _ => stop := by
  have hprogram : Attempt.Keeps held (programTarget device ⟨device⟩ v.config) :=
    programTarget_keeps h.uses fun _ _ => trivial
  refine (programStep_leads (E := fun _ => held) (fun hnone => nomatch hholds.symm.trans hnone)
    h.unwinds hprogram.leads).post fun result s hs => ?_
  rcases result with ⟨error | outcome, next⟩
  · obtain ⟨rfl, hs⟩ := hs
    exact .inl ⟨hholds, hs⟩
  · obtain ⟨target, rfl, hs⟩ := hs
    exact ⟨hholds, hs⟩

/-- The verify step gives the session back, unless it fails before. -/
theorem verifyStep :
    Act.Leads held (v.verifyStep device)
      (Parts held after (Without after)) fun _ => stop := by
  refine (verifyStep_leads (E := fun _ => held) (F := fun _ => after)
    (fun hnone => nomatch hholds.symm.trans hnone) h.unwinds
    (verifyProgrammed_keeps h.uses v).leads fun _ => Session.free_leads h.free).post
      fun result s hs => ?_
  rcases result with ⟨error | outcome, next⟩
  · rcases hs with ⟨rfl, hs⟩ | ⟨rfl, hs⟩
    · exact .inl ⟨hholds, hs⟩
    · exact .inr ⟨rfl, hs⟩
  · obtain ⟨rfl, hs⟩ := hs
    exact ⟨rfl, hs⟩

end Held

theorem driftStep (hnone : v.holdsSession = false) :
    Act.Leads after (v.driftStep timer) (Parts held after (Without after)) fun _ => stop := by
  have hdrift : Act.Leads after (v.driftStep timer) _ fun _ => after :=
    driftStep_leads (h.rests.protect _) (h.rests.sample _)
  refine hdrift.mono (fun _ hs => hs) (fun result s hs => ?_) fun _ => h.stops
  rcases result with ⟨error | outcome, next⟩
  · obtain ⟨⟨finalSample, rfl⟩, hs⟩ := hs
    exact .inr ⟨hnone, hs⟩
  · obtain ⟨⟨finalSample, rfl⟩, hs⟩ := hs
    exact ⟨hnone, hs⟩

/-- **One step.** One that does not fail leads to the next stage. -/
theorem perform (hstate : v.state = .at step) :
    Act.Leads (v.Stage before held after) (v.perform device timer step)
      (Parts held after (stageAt before held after (stateAfter step))) fun _ => stop := by
  unfold Stage
  rw [hstate]
  cases step with
  | init => exact Act.Leads.of_and h.initStep
  | geometryCheck => exact Act.Leads.of_and h.geometryStep
  | erase => exact Act.Leads.of_and h.eraseStep
  | program => exact Act.Leads.of_and h.programStep
  | verify => exact Act.Leads.of_and h.verifyStep
  | driftCheck => exact Act.Leads.of_and h.driftStep

/-! ## Runs -/

/-- **One event.** -/
theorem onEvent (v : Validator) :
    Act.Leads (v.Stage before held after) (v.onEvent device timer)
      (Stage before held after) fun _ => stop := by
  refine onEvent_by_step (fun step hstate => ?_) fun _ _ hs => hs
  -- a step that failed is followed by the release of what is left of the session
  refine onEvent_leads (E := fun _ next => next.Parting held after) hstate
    ((h.perform hstate).post fun result s hs => ?_) fun error next =>
      (h.parts next).post fun _ s hs => ⟨rfl, hs⟩
  rcases result with ⟨error | outcome, next⟩
  · exact hs
  · cases step <;> exact hs

/-- **Any number of events.** -/
theorem afterEvents (events : Nat) (v : Validator) :
    Act.Leads (v.Stage before held after) (afterEvents device timer events v)
      (Stage before held after) fun _ => stop :=
  afterEvents_leads h.onEvent events v

/-- **A run that is driven to its end** has no session any more. -/
theorem run (v : Validator) :
    Act.Leads (v.Stage before held after) (v.run device timer) (fun _ => after) fun _ => stop := by
  have hevents : Act.Leads (v.Stage before held after) (runEvents device timer Step.all.length v)
      (Stage before held after) fun _ => stop := by
    rw [runEvents_eq_afterEvents]
    exact h.afterEvents _ v
  refine Act.Leads.bind (Q := fun _ => after) ?_ fun last =>
    (report_leads last).post fun _ _ hs => hs.2
  exact (hevents.and (runEvents_isFinished v)).mono (fun _ hs => hs)
    (fun last _ hs => Stage.over hs.1 (.inr hs.2)) fun _ _ hs => hs.1

/-- **A run that is dropped** has no session any more. -/
theorem abandon (v : Validator) :
    Act.Leads (v.Stage before held after) (v.drop device)
      (fun _ s => v.Without before s ∨ after s) fun _ s => stop s := by
  have hnothing : Act.Leads (v.Without before) (v.drop device)
      (fun _ s => v.Without before s ∨ after s) fun _ => stop := by
    intro world hs
    have hdrop : v.drop device = pure () := if_neg (by rw [hs.1]; exact Bool.false_ne_true)
    rw [hdrop]
    exact .inl hs
  have hparts : Act.Leads (v.Parting held after) (v.drop device)
      (fun _ s => v.Without before s ∨ after s) fun _ => stop :=
    (h.parts v).post fun _ _ => .inr
  exact (hnothing.or hparts).pre fun _ => Stage.cases

end Brackets

end FlashBench
