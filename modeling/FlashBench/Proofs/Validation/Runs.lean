import FlashBench.Proofs.Clock.Measure
import FlashBench.Validation.Validator

/-!
# Events and runs

A run is a sequence of events, and an event is one step and what is noted down about it. What a
step leads to, its event leads to (`onEvent_leads`), and what every event keeps, any number of them
keeps (`afterEvents_leads`) and the report tells (`run_leads`).

`runEvents` stops at the end of the run. Events that come later change nothing, so it makes no
difference whether they are counted (`runEvents_eq_afterEvents`).
-/

namespace FlashBench.Validator

variable {σ : Type} {P : σ → Prop} {S : Fault → σ → Prop} {device : Device σ}
  {timer : CycleTimer σ} {validator : Validator}

/-- The run after a step that did not fail. -/
def advanced (validator : Validator) (step : Step) (outcome : StepOutcome) : Validator :=
  { validator with
    state := stateAfter step
    outcomes := validator.outcomes ++ [(step, outcome)] }

/-- The run after a step that failed. -/
def halted (validator : Validator) (step : Step) (error : ValidationError) : Validator :=
  { validator with
    state := .failed error
    holdsSession := false
    outcomes := validator.outcomes ++ [(step, .failed error)] }

theorem noteOutcome_leads (step : Step) (outcome : StepOutcome) :
    Act.Leads P (noteOutcome step outcome) (fun _ => P) S := by
  cases outcome <;> exact .note _ _ fun _ h => h

/-- **One event.** A step that failed releases the session; both are noted down. -/
theorem onEvent_leads {step : Step} {N : Validator → σ → Prop}
    {E : ValidationError → Validator → σ → Prop} (hstate : validator.state = .at step)
    (h : Act.Leads P (validator.perform device timer step)
      (fun result s => match result.1 with
        | .ok outcome => N (result.2.advanced step outcome) s
        | .error error => E error result.2 s) S)
    (hdrop : ∀ error next,
      Act.Leads (E error next) (next.drop device) (fun _ => N (next.halted step error)) S) :
    Act.Leads P (validator.onEvent device timer) N S := by
  unfold onEvent
  rw [hstate]
  refine h.bind fun result => ?_
  obtain ⟨_ | outcome, next⟩ := result
  · exact .note_bind _ _ ((hdrop _ next).bind fun _ => .pure _ fun _ hs => hs)
  · exact (noteOutcome_leads step outcome).bind fun _ => .pure _ fun _ hs => hs

theorem onEvent_finished (h : validator.isFinished = true) :
    validator.onEvent device timer = pure validator := by
  unfold onEvent
  cases hstate : validator.state with
  | «at» step =>
      rw [isFinished, hstate] at h
      cases h
  | done => rfl
  | failed error => rfl

/-- An event is one step, or nothing at all. -/
theorem onEvent_by_step {N : Validator → σ → Prop}
    (hstep : ∀ step, validator.state = .at step →
      Act.Leads P (validator.onEvent device timer) N S)
    (hfinished : validator.isFinished = true → ∀ s, P s → N validator s) :
    Act.Leads P (validator.onEvent device timer) N S := by
  cases hstate : validator.state with
  | «at» step => exact hstep step hstate
  | done =>
      have hend : validator.isFinished = true := by rw [isFinished, hstate]
      exact onEvent_finished hend ▸ .pure _ (hfinished hend)
  | failed error =>
      have hend : validator.isFinished = true := by rw [isFinished, hstate]
      exact onEvent_finished hend ▸ .pure _ (hfinished hend)

/-- The run after a number of events, whether it has ended by then or not. -/
def afterEvents (device : Device σ) (timer : CycleTimer σ) : Nat → Validator → Act σ Validator
  | 0, validator => return validator
  | events + 1, validator => do
    afterEvents device timer events (← validator.onEvent device timer)

theorem afterEvents_finished (h : validator.isFinished = true) (events : Nat) :
    afterEvents device timer events validator = pure validator := by
  induction events with
  | zero => rfl
  | succ events ih => rw [afterEvents, onEvent_finished h, pure_bind, ih]

theorem runEvents_eq_afterEvents (events : Nat) (validator : Validator) :
    runEvents device timer events validator = afterEvents device timer events validator := by
  induction events generalizing validator with
  | zero => rfl
  | succ events ih =>
      unfold runEvents
      by_cases hfinished : validator.isFinished = true
      · rw [if_pos hfinished, afterEvents_finished hfinished]
      · rw [if_neg hfinished, afterEvents]
        exact congrArg _ (funext ih)

theorem afterEvents_add (first second : Nat) (validator : Validator) :
    afterEvents device timer (first + second) validator =
      afterEvents device timer first validator >>= afterEvents device timer second := by
  induction first generalizing validator with
  | zero => rw [Nat.zero_add, afterEvents, pure_bind]
  | succ first ih =>
      rw [Nat.succ_add, afterEvents, afterEvents, bind_assoc]
      exact congrArg _ (funext ih)

/-- An event after a number of them. -/
theorem afterEvents_succ (events : Nat) (validator : Validator) :
    afterEvents device timer (events + 1) validator =
      afterEvents device timer events validator >>= fun reached => reached.onEvent device timer := by
  rw [afterEvents_add]
  refine congrArg _ (funext fun reached => ?_)
  rw [afterEvents]
  exact bind_pure _

/-- **Any number of events** keeps what each of them keeps. -/
theorem afterEvents_leads {N : Validator → σ → Prop}
    (hevent : ∀ v : Validator, Act.Leads (N v) (v.onEvent device timer) N S) (events : Nat)
    (validator : Validator) :
    Act.Leads (N validator) (afterEvents device timer events validator) N S := by
  induction events generalizing validator with
  | zero => exact .pure _ fun _ h => h
  | succ events ih => exact (hevent validator).bind ih

/-! ## The end of a run -/

/-- The events that a run can still need. -/
def stepsLeft (validator : Validator) : Nat :=
  match validator.state with
  | .at step => (Step.all.dropWhile (· ≠ step)).length
  | _ => 0

theorem stepsLeft_le (validator : Validator) : validator.stepsLeft ≤ Step.all.length := by
  unfold stepsLeft
  cases validator.state with
  | «at» step => exact (List.dropWhile_sublist _).length_le
  | done => exact Nat.zero_le _
  | failed error => exact Nat.zero_le _

theorem isFinished_of_stepsLeft (h : validator.stepsLeft = 0) : validator.isFinished = true := by
  unfold stepsLeft at h
  unfold isFinished
  cases hstate : validator.state with
  | «at» step =>
      rw [hstate] at h
      cases step <;> cases h
  | done => rfl
  | failed error => rfl

theorem stepsLeft_of_isFinished (h : validator.isFinished = true) : validator.stepsLeft = 0 := by
  unfold isFinished at h
  unfold stepsLeft
  cases hstate : validator.state with
  | «at» step =>
      rw [hstate] at h
      cases h
  | done => rfl
  | failed error => rfl

/-- **Every event ends a step,** in whatever way. -/
theorem onEvent_stepsLeft (validator : Validator) :
    Act.Leads (fun _ => True) (validator.onEvent device timer)
      (fun next _ => next.stepsLeft ≤ validator.stepsLeft - 1) fun _ _ => True := by
  refine onEvent_by_step (fun step hstate => ?_) fun hfinished _ _ => ?_
  · refine onEvent_leads (E := fun _ _ _ => True) hstate
      (Act.Leads.trivial.post fun result _ _ => ?_) fun error next =>
        Act.Leads.trivial.post fun _ _ _ => Nat.zero_le _
    rcases result with ⟨error | outcome, next⟩
    · trivial
    · show (next.advanced step outcome).stepsLeft ≤ _
      unfold stepsLeft
      rw [hstate]
      cases step <;> exact Nat.le_refl _
  · exact Nat.le_trans (Nat.le_of_eq (stepsLeft_of_isFinished hfinished)) (Nat.zero_le _)

theorem afterEvents_stepsLeft (events : Nat) (validator : Validator) :
    Act.Leads (fun _ => True) (afterEvents device timer events validator)
      (fun next _ => next.stepsLeft ≤ validator.stepsLeft - events) fun _ _ => True := by
  induction events generalizing validator with
  | zero => exact .pure _ fun _ _ => Nat.le_refl _
  | succ events ih =>
      refine (onEvent_stepsLeft validator).bind fun next => ?_
      have hrest : next.stepsLeft ≤ validator.stepsLeft - 1 → Act.Leads (fun _ => True)
          (afterEvents device timer events next)
          (fun last _ => last.stepsLeft ≤ validator.stepsLeft - (events + 1)) fun _ _ => True :=
        fun hnext => (ih next).post fun last _ hlast => by omega
      exact (Act.Leads.of_and hrest).pre fun _ hnext => ⟨hnext, trivial⟩

/-- **As many events as there are steps** bring every run to its end. -/
theorem runEvents_isFinished (validator : Validator) :
    Act.Leads P (runEvents device timer Step.all.length validator)
      (fun last _ => last.isFinished = true) fun _ _ => True := by
  rw [runEvents_eq_afterEvents]
  refine (afterEvents_stepsLeft _ validator).mono (fun _ _ => trivial) (fun last _ hlast => ?_)
    fun _ _ hs => hs
  have hle := validator.stepsLeft_le
  exact isFinished_of_stepsLeft (by omega)

/-- **The drift check is the last step:** the event that carries it out ends the run. -/
theorem afterEvents_drift {events : Nat} {reached last : Validator} {world next final : World σ}
    (hreached : (afterEvents device timer events validator).runOn world = (.ok reached, next))
    (hdrift : reached.state = .at .driftCheck)
    (hevent : (reached.onEvent device timer).runOn next = (.ok last, final)) :
    (afterEvents device timer Step.all.length validator).runOn world = (.ok last, final) := by
  have hone : reached.stepsLeft = 1 := by
    rw [stepsLeft, hdrift]
    rfl
  have hbefore : reached.stepsLeft ≤ validator.stepsLeft - events := by
    have hends : Act.Leads _ (afterEvents device timer events validator) _ _ :=
      afterEvents_stepsLeft events validator
    have hstate := hends world trivial
    rw [hreached] at hstate
    exact hstate
  have hafter : last.stepsLeft ≤ reached.stepsLeft - 1 := by
    have hends : Act.Leads _ (reached.onEvent device timer) _ _ := onEvent_stepsLeft reached
    have hstate := hends next trivial
    rw [hevent] at hstate
    exact hstate
  have hle := validator.stepsLeft_le
  have hfinished : last.isFinished = true := isFinished_of_stepsLeft (by omega)
  obtain ⟨rest, hrest⟩ : ∃ rest, Step.all.length = events + (rest + 1) :=
    ⟨Step.all.length - events - 1, by omega⟩
  rw [hrest, afterEvents_add, Act.runOn_bind, hreached]
  show ((reached.onEvent device timer) >>= afterEvents device timer rest).runOn next = _
  rw [Act.runOn_bind, hevent]
  show (afterEvents device timer rest last).runOn final = _
  rw [afterEvents_finished hfinished]
  rfl

/-- The report tells what the run noted down. -/
structure Tells (validator : Validator) (report : ValidationReport) : Prop where
  state : report.state = validator.state
  outcomes : report.outcomes = validator.outcomes
  geometry : report.geometry = validator.geometry
  baseline : report.baselineMicros = validator.baseline.map TimerSample.micros
  finalSample : report.finalMicros = validator.finalSample.map TimerSample.micros

theorem elapsed?_ends (sample : Option TimerSample) :
    Act.Ends P (elapsed? sample) (sample.map TimerSample.micros) P := by
  cases sample with
  | none => exact .pure _
  | some sample => exact .bind (sample.elapsedMicros_ends P) (.pure _)

theorem report_leads (validator : Validator) :
    Act.Leads P validator.report (fun report s => validator.Tells report ∧ P s) S :=
  .bind_ends (elapsed?_ends _) (.bind_ends (elapsed?_ends _)
    (.pure _ fun _ hs => ⟨⟨rfl, rfl, rfl, rfl, rfl⟩, hs⟩))

/-- A run that comes to its end reports. -/
theorem run_of_afterEvents {last : Validator} {world final : World σ}
    (hrun : (afterEvents device timer Step.all.length validator).runOn world = (.ok last, final)) :
    ∃ report next, (run device timer validator).runOn world = (.ok report, next) ∧
      last.Tells report := by
  obtain ⟨report, next, hreport, htells, _⟩ :=
    (report_leads (P := fun _ => True) (S := fun _ _ => False) last).returns final trivial
  refine ⟨report, next, ?_, htells⟩
  rw [run, Act.runOn_bind, runEvents_eq_afterEvents, hrun]
  exact hreport

/-- **A whole run** keeps what each event keeps, and reports on the run it ended with. -/
theorem run_leads {N : Validator → σ → Prop}
    (hevent : ∀ v : Validator, Act.Leads (N v) (v.onEvent device timer) N S)
    (validator : Validator) :
    Act.Leads (N validator) (run device timer validator)
      (fun report s => ∃ last : Validator, last.Tells report ∧ N last s) S := by
  unfold run
  rw [runEvents_eq_afterEvents]
  refine (afterEvents_leads hevent _ validator).bind fun last => ?_
  exact (report_leads last).post fun report s h => ⟨last, h⟩

end FlashBench.Validator
