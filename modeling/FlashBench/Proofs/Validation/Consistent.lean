import FlashBench.Proofs.Validation.Bracket
import FlashBench.Proofs.Validation.Effects
import FlashBench.Proofs.Validation.Healthy

/-!
# Reports that agree with themselves

A run writes down the same thing in several places: where it stands, how its steps ended, and what
was found out on the way. **However the device answers and the clock runs, the places agree**
(`run_consistent`): the outcomes are those of the first steps in their order, at most the last of
them is a failure, and the geometry, the two samples and the verdict on them are there exactly if
the step that finds them out was carried out.

The invariant is kept by one step (`Consistent.concluded`), by cases on what the step can do
(`Effect`), hence by one event and by any number of them.
-/

namespace FlashBench

variable {σ : Type} {device : Device σ} {timer : CycleTimer σ} {config : ValidatorConfig}

namespace Validator

/-! ## What is written down after a step -/

/-- How the end of a step is written down. -/
def outcomeOf : Except ValidationError StepOutcome → StepOutcome
  | .ok outcome => outcome
  | .error error => .failed error

/-- The run after a step, whether the step failed or not. -/
def concluded (step : Step) (result : StepResult) : Validator :=
  match result.1 with
  | .ok outcome => result.2.advanced step outcome
  | .error error => result.2.halted step error

/-- No step failed. -/
def Clean (outcomes : List (Step × StepOutcome)) : Prop :=
  ∀ entry ∈ outcomes, entry.2.isFailure = false

/-- The outcomes of a run in a state: those of the steps before it, and in the end that of the step
that failed. -/
inductive Recorded : ValidatorState → List (Step × StepOutcome) → Prop
  | «at» {step : Step} {outcomes : List (Step × StepOutcome)}
      (order : outcomes.map Prod.fst = Step.all.takeWhile (· ≠ step)) (clean : Clean outcomes) :
      Recorded (.at step) outcomes
  | done {outcomes : List (Step × StepOutcome)} (order : outcomes.map Prod.fst = Step.all)
      (clean : Clean outcomes) : Recorded .done outcomes
  | failed {step : Step} {before : List (Step × StepOutcome)} (error : ValidationError)
      (order : before.map Prod.fst = Step.all.takeWhile (· ≠ step)) (clean : Clean before) :
      Recorded (.failed error) (before ++ [(step, .failed error)])

/-- What a run found out, against the outcomes that it wrote down. -/
structure Noted (v : Validator) : Prop where
  geometry : v.geometry.isSome = true ↔ (.geometryCheck, .passed) ∈ v.outcomes
  baseline : v.baseline.isSome = true ↔ (.init, .passed) ∈ v.outcomes
  finalSample : v.finalSample.isSome = true ↔ ∃ outcome, (.driftCheck, outcome) ∈ v.outcomes
  verdict : ∀ outcome, (.driftCheck, outcome) ∈ v.outcomes → ∃ first second,
    v.baseline = some first ∧ v.finalSample = some second ∧
      outcome = outcomeOf (judgeDrift first.micros second.micros
        (allowedDrift first.micros v.config.driftDivisor))
  failures : ∀ step error, (step, .failed error) ∈ v.outcomes → step ≠ .driftCheck →
    error.ofSamples = false

/-- A run whose records agree. -/
structure Consistent (v : Validator) (config : ValidatorConfig) : Prop where
  settings : v.config = config
  recorded : Recorded v.state v.outcomes
  session : v.holdsSession = v.state.inSession
  started : ∀ step, v.state = .at step → step ≠ .init → v.baseline.isSome = true
  noted : v.Noted

variable {v : Validator} {step : Step} {outcomes : List (Step × StepOutcome)}

section Concluded

variable (step : Step) (result : StepResult)

@[simp] theorem concluded_config : (concluded step result).config = result.2.config := by
  rcases result with ⟨_ | _, _⟩ <;> rfl

@[simp] theorem concluded_geometry : (concluded step result).geometry = result.2.geometry := by
  rcases result with ⟨_ | _, _⟩ <;> rfl

@[simp] theorem concluded_baseline : (concluded step result).baseline = result.2.baseline := by
  rcases result with ⟨_ | _, _⟩ <;> rfl

@[simp] theorem concluded_finalSample :
    (concluded step result).finalSample = result.2.finalSample := by
  rcases result with ⟨_ | _, _⟩ <;> rfl

@[simp] theorem concluded_outcomes : (concluded step result).outcomes =
    result.2.outcomes ++ [(step, outcomeOf result.1)] := by
  rcases result with ⟨_ | _, _⟩ <;> rfl

end Concluded

theorem Consistent.fresh (config : ValidatorConfig) : Consistent { config } config where
  settings := rfl
  recorded := .at rfl (List.forall_mem_nil _)
  session := rfl
  started := fun _ hstate hne => absurd (ValidatorState.at.inj hstate).symm hne
  noted := {
    geometry := ⟨nofun, nofun⟩
    baseline := ⟨nofun, nofun⟩
    finalSample := ⟨nofun, nofun⟩
    verdict := nofun
    failures := nofun }

/-! ## One step -/

theorem Clean.append {outcome : StepOutcome} (h : Clean outcomes)
    (houtcome : outcome.isFailure = false) : Clean (outcomes ++ [(step, outcome)]) :=
  List.forall_mem_append.mpr ⟨h, List.forall_mem_singleton.mpr houtcome⟩

/-- What a step has not been carried out for yet. -/
theorem not_mem_of_order (horder : outcomes.map Prod.fst = Step.all.takeWhile (· ≠ step))
    (outcome : StepOutcome) : (step, outcome) ∉ outcomes := fun hmem => by
  have hstep : step ∈ Step.all.takeWhile (· ≠ step) := horder ▸ List.mem_map_of_mem hmem
  cases step <;> exact absurd hstep (by decide)

theorem Recorded.advanced {outcome : StepOutcome} (h : Recorded (.at step) outcomes)
    (houtcome : outcome.isFailure = false) :
    Recorded (stateAfter step) (outcomes ++ [(step, outcome)]) := by
  cases h with
  | «at» order clean =>
      have horder : (outcomes ++ [(step, outcome)]).map Prod.fst =
          Step.all.takeWhile (· ≠ step) ++ [step] := by
        rw [List.map_append, order]
        rfl
      cases step with
      | driftCheck => exact .done horder (clean.append houtcome)
      | init | geometryCheck | erase | program | verify =>
          exact .at horder (clean.append houtcome)

theorem Recorded.halted (h : Recorded (.at step) outcomes) (error : ValidationError) :
    Recorded (.failed error) (outcomes ++ [(step, .failed error)]) := by
  cases h with
  | «at» order clean => exact .failed error order clean

/-- An entry that says nothing about the geometry or the samples leaves what is known of them. -/
theorem Noted.append {next : Validator} {outcome : StepOutcome} (h : v.Noted)
    (hsame : next = { v with
      state := next.state, holdsSession := next.holdsSession, target := next.target,
      outcomes := v.outcomes ++ [(step, outcome)] })
    (hstep : step ≠ .driftCheck) (hopened : step = .init → outcome ≠ .passed)
    (hsurveyed : step = .geometryCheck → outcome ≠ .passed)
    (hfailed : ∀ error, outcome = .failed error → error.ofSamples = false) : next.Noted := by
  have hold : ∀ {s o}, (s = step → o ≠ outcome) →
      ((s, o) ∈ v.outcomes ++ [(step, outcome)] ↔ (s, o) ∈ v.outcomes) := by
    intro s o hne
    rw [List.mem_append, List.mem_singleton, or_iff_left]
    exact fun heq => hne (Prod.mk.inj heq).1 (Prod.mk.inj heq).2
  have hdrift : ∀ {o}, (.driftCheck, o) ∈ v.outcomes ++ [(step, outcome)] ↔
      (.driftCheck, o) ∈ v.outcomes := hold fun heq => absurd heq.symm hstep
  rw [hsame]
  exact {
    geometry := h.geometry.trans (hold fun heq => (hsurveyed heq.symm).symm).symm
    baseline := h.baseline.trans (hold fun heq => (hopened heq.symm).symm).symm
    finalSample := h.finalSample.trans (exists_congr fun _ => hdrift.symm)
    verdict := fun o hmem => h.verdict o (hdrift.mp hmem)
    failures := fun s error hmem hne => by
      rcases List.mem_append.mp hmem with hmem | hmem
      · exact h.failures s error hmem hne
      · exact hfailed error (Prod.mk.inj (List.mem_singleton.mp hmem)).2.symm }

/-- **What a step finds out** is written down together with its outcome. -/
theorem Noted.concluded {result : StepResult} (h : v.Noted)
    (horder : v.outcomes.map Prod.fst = Step.all.takeWhile (· ≠ step))
    (heffect : Effect v step result) : (concluded step result).Noted := by
  have hpassed : ∀ {outcome : StepOutcome}, outcome.isFailure = false →
      ∀ error, outcome = .failed error → error.ofSamples = false := by
    rintro _ houtcome error rfl
    cases houtcome
  cases heffect with
  | opened first =>
      -- nothing was written down before the first step
      have hempty : v.outcomes = [] := List.map_eq_nil_iff.mp horder
      have hgeometry := h.geometry
      have hfinal := h.finalSample
      rw [hempty] at hgeometry hfinal
      constructor <;> simp_all [outcomeOf]
  | surveyed report =>
      exact {
        geometry := by simp [outcomeOf]
        baseline := by simpa using h.baseline
        finalSample := by simpa using h.finalSample
        verdict := by simpa using h.verdict
        failures := by simpa [outcomeOf] using h.failures }
  | erased houtcome => exact h.append rfl nofun nofun nofun (hpassed houtcome)
  | programmed houtcome target => exact h.append rfl nofun nofun nofun (hpassed houtcome)
  | verified houtcome => exact h.append rfl nofun nofun nofun (hpassed houtcome)
  | @judged first second hfirst =>
      have hdrift := not_mem_of_order horder
      exact {
        geometry := by simpa using h.geometry
        baseline := by simpa using h.baseline
        finalSample := by simp
        verdict := fun outcome hmem => by
          simp only [concluded_outcomes, List.mem_append, List.mem_singleton] at hmem
          rcases hmem with hmem | hmem
          · exact absurd hmem (hdrift outcome)
          · exact ⟨first, second, by simpa using hfirst, by simp,
              by simpa using (Prod.mk.inj hmem).2⟩
        failures := fun s error hmem hne => by
          simp only [concluded_outcomes, List.mem_append, List.mem_singleton] at hmem
          rcases hmem with hmem | hmem
          · exact h.failures s error hmem hne
          · exact absurd (Prod.mk.inj hmem).1 hne }
  | refused holds hstep herror =>
      refine h.append rfl hstep (fun _ => nofun) (fun _ => nofun) fun error heq => ?_
      exact StepOutcome.failed.inj heq ▸ herror

theorem Recorded.order (h : Recorded (.at step) outcomes) :
    outcomes.map Prod.fst = Step.all.takeWhile (· ≠ step) := by
  cases h with
  | «at» order clean => exact order

namespace Effect

variable {result : StepResult} {outcome : StepOutcome}

theorem settings (h : Effect v step result) : result.2.config = v.config := by
  cases h <;> rfl

theorem record (h : Effect v step result) : result.2.outcomes = v.outcomes := by
  cases h <;> rfl

/-- A step that passed does not write down a failure. -/
theorem clean (h : Effect v step result) (hok : result.1 = .ok outcome) :
    outcome.isFailure = false := by
  cases h with
  | opened | surveyed =>
      cases hok
      rfl
  | erased h | programmed h | verified h =>
      cases hok
      exact h
  | @judged first second hfirst =>
      have hok : judgeDrift .. = _ := hok
      unfold judgeDrift at hok
      split at hok
      · cases hok
      · cases hok
        rfl
  | refused => cases hok

/-- A step that passed leaves the session to the steps that need it. -/
theorem session (h : Effect v step result) (hok : result.1 = .ok outcome)
    (hsession : v.holdsSession = (ValidatorState.at step).inSession) :
    result.2.holdsSession = (stateAfter step).inSession := by
  cases h with
  | opened | verified => rfl
  | surveyed | erased | programmed | judged => exact hsession
  | refused => cases hok

/-- The first step leaves a sample, and the others leave it where it is. -/
theorem started (h : Effect v step result) (hok : result.1 = .ok outcome)
    (hstarted : step ≠ .init → v.baseline.isSome = true) : result.2.baseline.isSome = true := by
  cases h with
  | opened => rfl
  | surveyed | erased | programmed | verified | judged => exact hstarted nofun
  | refused => cases hok

end Effect

/-- **One step** keeps the records in agreement. -/
theorem Consistent.concluded {result : StepResult} (h : v.Consistent config)
    (hstate : v.state = .at step) (heffect : Effect v step result) :
    (concluded step result).Consistent config := by
  have hrecorded : Recorded (.at step) v.outcomes := hstate ▸ h.recorded
  have hsettings := heffect.settings.trans h.settings
  have hnoted := h.noted.concluded hrecorded.order heffect
  rcases result with ⟨error | outcome, next⟩
  · exact {
      settings := hsettings
      recorded := by
        show Recorded (.failed error) (next.outcomes ++ [_])
        exact heffect.record ▸ hrecorded.halted error
      session := rfl
      started := nofun
      noted := hnoted }
  · exact {
      settings := hsettings
      recorded := by
        show Recorded (stateAfter step) (next.outcomes ++ [_])
        exact heffect.record ▸ hrecorded.advanced (heffect.clean rfl)
      session := heffect.session rfl (hstate ▸ h.session)
      started := fun _ _ _ => heffect.started rfl (h.started step hstate)
      noted := hnoted }

/-- **One event** keeps the records in agreement. -/
theorem onEvent_consistent (v : Validator) :
    Act.Leads (fun _ => v.Consistent config) (v.onEvent device timer)
      (fun next _ => next.Consistent config) fun _ _ => True := by
  refine onEvent_by_step (fun step hstate => ?_) fun _ _ h => h
  refine (Act.Leads.of_and (p := v.Consistent config) (P := fun _ => True) fun h => ?_).pre
    fun _ h => ⟨h, trivial⟩
  have hsession : step ≠ .init → step ≠ .driftCheck → v.holdsSession = true := by
    intro hfirst hlast
    rw [h.session, hstate]
    cases step <;> trivial
  have hbaseline : step = .driftCheck → v.baseline.isSome = true := fun heq =>
    h.started step hstate (heq ▸ nofun)
  refine onEvent_leads (E := fun error next _ => (next.halted step error).Consistent config) hstate
    ((perform_effect hsession hbaseline).post fun result _ heffect => ?_) fun error next => ?_
  · have hnext := h.concluded hstate heffect
    rcases result with ⟨_ | _, _⟩ <;> exact hnext
  · exact Act.Leads.unless_fault (Act.Keeps.const _ _)

/-! ## Any number of events -/

/-- Where any number of events leads to, the records agree. -/
theorem afterEvents_consistent {events : Nat} {reached : Validator} {world next : World σ}
    (hrun : (afterEvents device timer events { config }).runOn world = (.ok reached, next)) :
    reached.Consistent config := by
  have hevent : ∀ v : Validator, Act.Leads (fun _ => v.Consistent config) (v.onEvent device timer)
      (fun next _ => next.Consistent config) fun _ _ => True := onEvent_consistent
  have hends := afterEvents_leads hevent events { config } world (.fresh config)
  rw [hrun] at hends
  exact hends

/-- None of the steps that a run comes to stops it: no word operation leaves its range, no wait is
without end, and no call of the device stops. -/
def StepsReturn (device : Device σ) (timer : CycleTimer σ) (v : Validator) (world : World σ) :
    Prop :=
  ∀ events < Step.all.length, ∀ reached next,
    (afterEvents device timer events v).runOn world = (.ok reached, next) →
      ∃ after last, (reached.onEvent device timer).runOn next = (.ok after, last)

/-- A run that is stopped by no step comes to its end. -/
theorem StepsReturn.afterEvents {v : Validator} {world : World σ}
    (h : StepsReturn device timer v world) {events : Nat} (hle : events ≤ Step.all.length) :
    ∃ reached next, (afterEvents device timer events v).runOn world = (.ok reached, next) := by
  induction events with
  | zero => exact ⟨v, world, rfl⟩
  | succ events ih =>
      obtain ⟨reached, next, hrun⟩ := ih (by omega)
      obtain ⟨after, last, hevent⟩ := h events (by omega) reached next hrun
      refine ⟨after, last, ?_⟩
      rw [afterEvents_succ, Act.runOn_bind, hrun]
      exact hevent

/-- A run that came to its end was stopped by no step. -/
theorem stepsReturn_of_afterEvents {v last : Validator} {world final : World σ}
    (h : (Validator.afterEvents device timer Step.all.length v).runOn world = (.ok last, final)) :
    StepsReturn device timer v world := by
  intro events hlt reached next hrun
  obtain ⟨rest, hrest⟩ := Nat.exists_eq_add_of_lt hlt
  rw [hrest, Nat.add_assoc, afterEvents_add, Act.runOn_bind, hrun] at h
  obtain ⟨after, last, hevent, _⟩ := Act.runOn_bind_eq_ok.mp h
  exact ⟨after, last, hevent⟩

end Validator

/-! ## Reports -/

/-- A report whose parts agree, with settings of this `divisor`. -/
structure ValidationReport.Consistent (report : ValidationReport) (divisor : UInt32) : Prop where
  /-- The first steps, without gaps or repeats. -/
  order : report.outcomes.map Prod.fst <+: Step.all
  /-- Only the last outcome can be a failure. -/
  clean : ∀ entry ∈ report.outcomes.dropLast, entry.2.isFailure = false
  /-- The run is over. -/
  ended : report.state = .done ∨ ∃ error, report.state = .failed error
  failed_iff : ∀ error, report.state = .failed error ↔
    ∃ step, report.outcomes.getLast? = some (step, .failed error)
  done_iff : report.state = .done ↔ report.outcomes.map Prod.fst = Step.all ∧
    ∀ entry ∈ report.outcomes, entry.2.isFailure = false
  geometry_iff : report.geometry.isSome = true ↔ (.geometryCheck, .passed) ∈ report.outcomes
  baseline_iff : report.baselineMicros.isSome = true ↔ (.init, .passed) ∈ report.outcomes
  final_iff : report.finalMicros.isSome = true ↔ .driftCheck ∈ report.outcomes.map Prod.fst
  /-- The verdict on the two durations; a divisor of zero allows no drift at all. -/
  verdict : ∀ outcome, (.driftCheck, outcome) ∈ report.outcomes → ∃ baseline final : Nat,
    report.baselineMicros = some baseline ∧ report.finalMicros = some final ∧
      outcome = if ((final : Int) - baseline).natAbs > baseline / divisor.toNat then
        .failed (.driftExceeded baseline final (baseline / divisor.toNat)) else .passed
  /-- No other step fails for what the clock showed. -/
  drift : ∀ step baseline final allowed,
    (step, .failed (.driftExceeded baseline final allowed)) ∈ report.outcomes → step = .driftCheck
  baseline_there : ∀ step, (step, .failed .missingBaseline) ∉ report.outcomes

namespace Validator

variable {state : ValidatorState} {outcomes : List (Step × StepOutcome)} {v : Validator}

namespace Recorded

theorem order_prefix (h : Recorded state outcomes) : outcomes.map Prod.fst <+: Step.all := by
  cases h with
  | «at» order clean => exact order ▸ List.takeWhile_prefix _
  | done order clean => exact order ▸ List.prefix_rfl
  | @failed step before error order clean =>
      rw [List.map_append, order]
      show Step.all.takeWhile (· ≠ step) ++ [step] <+: Step.all
      cases step <;> decide

theorem clean_dropLast (h : Recorded state outcomes) : Clean outcomes.dropLast := by
  cases h with
  | «at» order clean | done order clean =>
      exact fun entry hmem => clean entry ((List.dropLast_sublist _).subset hmem)
  | failed error order clean => rwa [List.dropLast_concat]

/-- In a clean record no failure comes last. -/
theorem getLast?_of_clean {step : Step} {error : ValidationError} (h : Clean outcomes) :
    outcomes.getLast? ≠ some (step, .failed error) := fun hlast =>
  Bool.noConfusion (h _ (List.mem_of_getLast? hlast))

theorem failed_iff (h : Recorded state outcomes) (error : ValidationError) :
    state = .failed error ↔ ∃ step, outcomes.getLast? = some (step, .failed error) := by
  cases h with
  | «at» order clean | done order clean =>
      exact ⟨nofun, fun ⟨step, hlast⟩ => absurd hlast (getLast?_of_clean clean)⟩
  | @failed step before found order clean =>
      rw [List.getLast?_concat]
      constructor
      · rintro ⟨⟩
        exact ⟨step, rfl⟩
      · rintro ⟨_, ⟨⟩⟩
        rfl

theorem done_iff (h : Recorded state outcomes) :
    state = .done ↔ outcomes.map Prod.fst = Step.all ∧ Clean outcomes := by
  cases h with
  | @«at» step outcomes order clean =>
      refine ⟨nofun, fun ⟨hall, _⟩ => ?_⟩
      rw [order] at hall
      cases step <;> exact absurd hall (by decide)
  | done order clean => exact ⟨fun _ => ⟨order, clean⟩, fun _ => rfl⟩
  | @failed step before error order clean =>
      refine ⟨nofun, fun ⟨_, hclean⟩ => ?_⟩
      exact absurd (List.getLast?_concat ..) (getLast?_of_clean hclean)

end Recorded

theorem apart_eq (a b : Nat) : apart a b = ((a : Int) - b).natAbs := by
  unfold apart
  omega

/-- The verdict in terms of the distance between the two durations. -/
theorem outcomeOf_judgeDrift (baseline measured : Nat) (divisor : UInt32) :
    outcomeOf (judgeDrift baseline measured (allowedDrift baseline divisor)) =
      if ((measured : Int) - baseline).natAbs > baseline / divisor.toNat then
        .failed (.driftExceeded baseline measured (baseline / divisor.toNat)) else .passed := by
  unfold judgeDrift allowedDrift
  rw [apart_eq]
  split <;> rfl

/-- **What a run tells in the end** agrees with itself. -/
theorem Consistent.report {report : ValidationReport} (h : v.Consistent config)
    (htells : v.Tells report) (hfinished : v.isFinished = true) :
    report.Consistent config.driftDivisor := by
  obtain ⟨state, outcomes, geometry, baselineMicros, finalMicros⟩ := report
  obtain ⟨rfl, rfl, rfl, rfl, rfl⟩ := htells
  have hverdict : ∀ outcome, (.driftCheck, outcome) ∈ v.outcomes → ∃ baseline final : Nat,
      v.baseline.map TimerSample.micros = some baseline ∧
        v.finalSample.map TimerSample.micros = some final ∧
        outcome = if ((final : Int) - baseline).natAbs > baseline / config.driftDivisor.toNat then
          .failed (.driftExceeded baseline final (baseline / config.driftDivisor.toNat))
          else .passed := by
    intro outcome hmem
    obtain ⟨first, second, hfirst, hsecond, rfl⟩ := h.noted.verdict outcome hmem
    refine ⟨first.micros, second.micros, by rw [hfirst]; rfl, by rw [hsecond]; rfl, ?_⟩
    rw [h.settings, outcomeOf_judgeDrift]
  exact {
    order := h.recorded.order_prefix
    clean := h.recorded.clean_dropLast
    ended := by
      unfold isFinished at hfinished
      cases hstate : v.state with
      | «at» step =>
          rw [hstate] at hfinished
          cases hfinished
      | done => exact .inl rfl
      | failed error => exact .inr ⟨error, rfl⟩
    failed_iff := h.recorded.failed_iff
    done_iff := h.recorded.done_iff
    geometry_iff := h.noted.geometry
    baseline_iff := by rw [Option.isSome_map]; exact h.noted.baseline
    final_iff := by
      rw [Option.isSome_map, h.noted.finalSample]
      simp
    verdict := hverdict
    drift := fun step baseline final allowed hmem => Decidable.byContradiction fun hne =>
      nomatch h.noted.failures step _ hmem hne
    baseline_there := fun step hmem => by
      by_cases hstep : step = .driftCheck
      · obtain ⟨baseline, final, _, _, houtcome⟩ := hverdict _ (hstep ▸ hmem)
        split at houtcome <;> cases houtcome
      · cases h.noted.failures step _ hmem hstep }

/-- **Reports agree with themselves.** Nothing is asked of the device, the counter and the settings
but that no step of the run stops. Then the run is over after at most as many events as there are
steps, and later ones make no difference; its report agrees with itself; and on the way every step
finds the session or the sample that it needs. -/
theorem run_consistent (device : Device σ) (timer : CycleTimer σ) (config : ValidatorConfig)
    (world : World σ) (hsteps : StepsReturn device timer { config } world) :
    ∃ report next, (run device timer { config }).runOn world = (.ok report, next) ∧
      report.Consistent config.driftDivisor ∧
      (∀ events, (runEvents device timer (Step.all.length + events) { config }).runOn world =
        (runEvents device timer Step.all.length { config }).runOn world) ∧
      ∀ events reached after,
        (afterEvents device timer events { config }).runOn world = (.ok reached, after) →
          (reached.state.inSession = true →
            reached.holdsSession = true ∧ reached.session device = pure ⟨device⟩) ∧
          (reached.state = .at .driftCheck → reached.baseline.isSome = true) ∧
          (reached.isFinished = true → reached.onEvent device timer = pure reached) := by
  obtain ⟨last, final, hlast⟩ := hsteps.afterEvents (Nat.le_refl _)
  have hfinished : last.isFinished = true := by
    have hends : Act.Leads (fun _ => True)
        (runEvents device timer Step.all.length { config }) _ _ := runEvents_isFinished _
    have hstate := hends world trivial
    rw [runEvents_eq_afterEvents, hlast] at hstate
    exact hstate
  obtain ⟨report, next, hrun, htells⟩ := run_of_afterEvents hlast
  refine ⟨report, next, hrun, (afterEvents_consistent hlast).report htells hfinished, ?_, ?_⟩
  · intro events
    rw [runEvents_eq_afterEvents, runEvents_eq_afterEvents, afterEvents_add, Act.runOn_bind, hlast]
    show (afterEvents device timer events last).runOn final = _
    rw [afterEvents_finished hfinished]
    rfl
  · intro events reached after hreached
    have hconsistent := afterEvents_consistent hreached
    refine ⟨fun hsession => ?_, fun hdrift => hconsistent.started _ hdrift nofun, onEvent_finished⟩
    have hholds := hconsistent.session.trans hsession
    exact ⟨hholds, session_of_holds hholds⟩

/-- Nothing stops the run on the small part. -/
theorem run_consistent_smallRig :
    StepsReturn Rig.device (.standing 32 0) { config := {} } { state := smallRig } ∧
      ∃ report next,
        (run Rig.device (.standing 32 0) { config := {} }).runOn { state := smallRig } =
          (.ok report, next) ∧ report.Consistent 200 := by
  have hdone : ((afterEvents Rig.device (.standing 32 0) Step.all.length
      { config := {} }).runOn { state := smallRig }).1.toOption.map (·.state) = some .done := by
    decide +kernel
  obtain ⟨last, final, hlast, _⟩ := Act.runOn_of_map hdone
  have hsteps := stepsReturn_of_afterEvents hlast
  obtain ⟨report, next, hreport, hconsistent, _⟩ :=
    run_consistent Rig.device (.standing 32 0) {} { state := smallRig } hsteps
  exact ⟨hsteps, report, next, hreport, hconsistent⟩

end Validator

end FlashBench
