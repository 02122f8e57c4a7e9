import FlashBench.Proofs.Clock.Span
import FlashBench.Proofs.Validation.Consistent

/-!
# When a run takes its samples

The first sample is taken by the first step, at the frequency at which the CPU starts. What comes in
between leaves the clocks alone, except that erases may switch the CPU (`Device.Switches`). So the
second sample is taken at the frequency that the last erase has left, with what the first one has
carried over (`Timed`), and both **span** the ticks of their work (`run_timed`).
-/

namespace FlashBench

variable {σ : Type} {beat : UInt32 → σ → Prop} {cpuHz before after : UInt32} {device : Device σ}
  {timer : CycleTimer σ} {config : ValidatorConfig}

/-- Successful erases switch the CPU from the frequency `before` to `after`, and the device does
nothing else to the clocks, whose pace at a frequency is `beat`. -/
structure Device.Switches (beat : UInt32 → σ → Prop) (before after : UInt32) (device : Device σ) :
    Prop where
  asks : ∀ cpuHz, device.Keeps (beat cpuHz) fun _ => False
  uses : device.Keeps (beat after) fun _ => True
  init : ∀ cpuHz, Attempt.Keeps (beat cpuHz) device.init
  free : ∀ cpuHz, Attempt.Keeps (beat cpuHz) device.free
  erase : ∀ address, Attempt.Leads (beat before) (device.eraseSector address)
    (fun _ => beat after) (fun _ _ => True) fun _ _ => True

namespace Validator

/-- An outcome that comes with a successful erase. -/
def erases (step : Step) (outcome : StepOutcome) : Bool :=
  (step == .erase || step == .program) && outcome == .passed

/-- The frequency after a number of outcomes. -/
def pace (before after : UInt32) (outcomes : List (Step × StepOutcome)) : UInt32 :=
  if outcomes.any fun entry => erases entry.1 entry.2 then after else before

theorem pace_append (before after : UInt32) (outcomes : List (Step × StepOutcome)) (step : Step)
    (outcome : StepOutcome) :
    pace before after (outcomes ++ [(step, outcome)]) =
      if erases step outcome then after else pace before after outcomes := by
  unfold pace
  rw [List.any_append, List.any_cons, List.any_nil, Bool.or_false]
  cases erases step outcome with
  | false => rw [Bool.or_false, if_neg Bool.false_ne_true]
  | true => rw [Bool.or_true, if_pos rfl, if_pos rfl]

theorem pace_cases (before after : UInt32) (outcomes : List (Step × StepOutcome)) :
    pace before after outcomes = before ∨ pace before after outcomes = after := by
  unfold pace
  split
  · exact .inr rfl
  · exact .inl rfl

/-! ## The flash steps

Nothing is said of a step that fails: the run does not come to the second sample then. -/

section Flash

variable (h : device.Switches beat before after) (hpace : cpuHz = before ∨ cpuHz = after)

include h hpace

theorem eraseSector_switches (address : UInt32) :
    Attempt.Leads (beat cpuHz) (device.eraseSector address) (fun _ => beat after)
      (fun _ _ => True) fun _ _ => True := by
  rcases hpace with rfl | rfl
  · exact h.erase address
  · exact (h.uses.eraseSector address trivial).value

theorem sessionErase_switches (address : UInt32) :
    Attempt.Leads (beat cpuHz)
      ((Session.eraseSector ⟨device⟩ address).withError ValidationError.flash)
      (fun _ => beat after) (fun _ _ => True) fun _ _ => True := by
  have herase : Attempt.Leads (beat cpuHz) (Session.eraseSector ⟨device⟩ address)
      (fun _ => beat after) (fun _ _ => True) fun _ _ => True := by
    refine .bind (.lift ((h.asks cpuHz).sectorSize _).unless_fault) fun _ => ?_
    refine .guard (fun _ _ _ => trivial) fun _ => .guard (fun _ _ _ => trivial) fun _ => ?_
    exact eraseSector_switches h hpace address
  exact herase.withError fun _ _ _ => trivial

theorem eraseLastSector_switches (reservedEnd : UInt32) :
    Attempt.Leads (beat cpuHz) (eraseLastSector device ⟨device⟩ reservedEnd)
      (fun outcome => beat (if erases .erase outcome then after else cpuHz)) (fun _ _ => True)
      fun _ _ => True := by
  have hasks := h.asks cpuHz
  unfold eraseLastSector
  refine .bind (.lift hasks.endAddress.unless_fault) fun _ => ?_
  refine .bind (Attempt.Keeps.checked _).value fun _ => ?_
  refine .bind (.lift (hasks.sectorSize _).unless_fault) fun _ => ?_
  refine .bind (.lift hasks.endAddress.unless_fault) fun _ => ?_
  refine .bind (Attempt.Keeps.checked _).value fun _ => ?_
  refine .bind (Attempt.Keeps.checked _).value fun _ => .guard (fun _ _ _ => trivial) fun _ => ?_
  refine .ite (fun _ => .pure _ fun _ hs => hs) fun _ => ?_
  refine .bind (sessionErase_switches h hpace _) fun _ => ?_
  refine .bind (.lift h.uses.eraseValue.unless_fault) fun _ => ?_
  exact .bind (expectFill_keeps h.uses _ _ _).value fun _ => .pure _ fun _ hs => hs

theorem programPattern_switches (sector address pageSize : UInt32) (pattern : UInt8) :
    Attempt.Leads (beat cpuHz) (programPattern ⟨device⟩ sector address pageSize pattern)
      (fun _ => beat after) (fun _ _ => True) fun _ _ => True := by
  refine .bind (sessionErase_switches h hpace _) fun _ => ?_
  have hprogram : Attempt.Keeps (beat after)
      ((⟨device⟩ : Session σ).programPage address (Memory.filled pageSize.toNat pattern)) :=
    h.uses.sessionProgram _ trivial
  refine .bind (.withError hprogram.value fun _ _ _ => trivial) fun _ => ?_
  exact (expectFill_keeps h.uses _ _ _).value

theorem programTarget_switches (config : ValidatorConfig) :
    Attempt.Leads (beat cpuHz) (programTarget device ⟨device⟩ config)
      (fun result => beat (if erases .program result.1 then after else cpuHz)) (fun _ _ => True)
      fun _ _ => True := by
  have hasks := h.asks cpuHz
  unfold programTarget
  refine .bind (.lift hasks.eraseValue.unless_fault) fun _ => .ite (fun _ => ?_) fun _ =>
    .bind_throw _ fun _ _ => trivial
  refine .bind (.lift hasks.pageSize.unless_fault) fun pageSize => ?_
  refine .bind (.lift hasks.startAddress.unless_fault) fun first => ?_
  refine .bind (.lift hasks.endAddress.unless_fault) fun stop => ?_
  cases targetPage? first.toNat stop pageSize.toNat with
  | none => exact .throw _ fun _ _ => trivial
  | some page =>
      refine .bind (.lift (hasks.sectorSize _).unless_fault) fun _ =>
        .ite (fun _ => .pure _ fun _ hs => hs) fun _ => ?_
      refine .bind (programPattern_switches h hpace _ _ _ _) fun _ => ?_
      exact .bind (programPattern_switches h (.inr rfl) _ _ _ _) fun _ => .pure _ fun _ hs => hs

omit hpace in
/-- Verifying only reads, and the session may be given back after it. -/
theorem verifyStep_switches {v : Validator} (hholds : v.holdsSession = true) :
    Act.Leads (beat cpuHz) (v.verifyStep device)
      (fun result s => ∀ outcome, result.1 = .ok outcome → beat cpuHz s) fun _ _ => True := by
  have hverify : Attempt.Leads (beat cpuHz)
      (Session.guarding ⟨device⟩ (verifyProgrammed device ⟨device⟩ v)) (fun _ => beat cpuHz)
      (fun _ _ => True) fun _ _ => True :=
    Session.guarding_leads (verifyProgrammed_keeps (h.asks cpuHz) v).value fun _ =>
      Act.Leads.trivial
  have hfree : Attempt.Leads (beat cpuHz) (Session.free ⟨device⟩) (fun _ => beat cpuHz)
      (fun _ _ => True) fun _ _ => True := (Session.free_keeps (h.free cpuHz)).value
  unfold verifyStep
  rw [hholds, Bool.not_true, if_neg Bool.false_ne_true]
  refine Act.Leads.bind hverify fun outcome => ?_
  cases outcome with
  | error error => exact .pure _ fun _ _ => nofun
  | ok outcome =>
      refine Act.Leads.bind hfree fun freed => ?_
      cases freed with
      | error error => exact .pure _ fun _ _ => nofun
      | ok => exact .pure _ fun _ hs _ _ => hs

omit h hpace in
theorem guarding_switches {α : Type} {attempt : Attempted σ α} {Q : α → σ → Prop}
    (hattempt : Attempt.Leads (beat cpuHz) attempt Q (fun _ _ => True) fun _ _ => True) :
    Attempt.Leads (beat cpuHz) (Session.guarding ⟨device⟩ attempt) Q (fun _ _ => True)
      fun _ _ => True :=
  Session.guarding_leads hattempt fun _ => Act.Leads.trivial

omit h hpace in
/-- A step that a failure leaves as it was leaves the clocks at the pace that comes with its
outcome, if its work on the session does. -/
theorem leavingUnchanged_switches {v : Validator} {step : Step}
    {use : Session σ → Attempted σ (StepOutcome × Validator)} (hholds : v.holdsSession = true)
    (huse : Attempt.Leads (beat cpuHz) (use ⟨device⟩)
      (fun result => beat (if erases step result.1 then after else cpuHz)) (fun _ _ => True)
      fun _ _ => True) :
    Act.Leads (beat cpuHz) (v.leavingUnchanged do use (← v.session device))
      (fun result s => ∀ outcome, result.1 = .ok outcome →
        beat (if erases step outcome then after else cpuHz) s) fun _ _ => True := by
  rw [session_of_holds hholds, pure_bind]
  refine (leavingUnchanged_leads huse).post fun result s hs outcome houtcome => ?_
  rw [houtcome] at hs
  exact hs

/-- A step between the samples leaves the clocks at the pace that comes with its outcome. -/
theorem perform_switches {v : Validator} {step : Step} (hholds : v.holdsSession = true)
    (hfirst : step ≠ .init) (hlast : step ≠ .driftCheck) :
    Act.Leads (beat cpuHz) (v.perform device timer step)
      (fun result s => ∀ outcome, result.1 = .ok outcome →
        beat (if erases step outcome then after else cpuHz) s) fun _ _ => True := by
  cases step with
  | init => exact absurd rfl hfirst
  | geometryCheck =>
      refine leavingUnchanged_switches hholds (guarding_switches ?_)
      have hcheck := (h.asks cpuHz).checkGeometry.value
      exact .bind (.withError hcheck fun _ _ _ => trivial) fun _ =>
        .note_bind _ _ (.pure _ fun _ hs => hs)
  | erase =>
      refine leavingUnchanged_switches hholds ?_
      exact .bind (guarding_switches (eraseLastSector_switches h hpace _)) fun _ =>
        .pure _ fun _ hs => hs
  | program =>
      refine leavingUnchanged_switches hholds ?_
      exact .bind (guarding_switches (programTarget_switches h hpace _)) fun _ =>
        .pure _ fun _ hs => hs
  | verify => exact verifyStep_switches h hholds
  | driftCheck => exact absurd rfl hlast

end Flash

/-! ## The two samples -/

section Samples

variable {get : σ → Clocks} {put : Clocks → σ → σ} {quiet : σ → Prop} {info : CounterInfo}
  {v : Validator} {step : Step}

/-- A timer on running clocks, with room for two samples, and a device that switches the CPU from
`before` to `after` at most. -/
structure Timing (get : σ → Clocks) (put : Clocks → σ → σ) (quiet : σ → Prop) (info : CounterInfo)
    (before after : UInt32) (device : Device σ) (timer : CycleTimer σ)
    (config : ValidatorConfig) : Prop where
  get_put : ∀ clocks s, get (put clocks s) = clocks
  quiet_put : ∀ clocks s, quiet s → quiet (put clocks s)
  ticker : timer.ticker = .ofClocks get put
  spin : timer.spin = spinClocks get put
  switches : ∀ carried, device.Switches (Clocks.PacedIn get quiet info carried) before after
  window : config.windowTicks < info.maxCount
  patience : config.windowTicks.toNat < timer.patience
  firstRoom : workTicks info before config.cycles 0 + 1 ≤ config.windowTicks.toNat
  secondRoom : ∀ outcomes, workTicks info (pace before after outcomes) config.cycles
    (workCarried info before config.cycles 0) + 1 ≤ config.windowTicks.toNat

/-- The pace of the clocks when a run comes to a step: that of fresh clocks before the first sample,
and what this sample and the erases since then have left after it. -/
def Timed (get : σ → Clocks) (quiet : σ → Prop) (info : CounterInfo) (before after : UInt32)
    (v : Validator) (s : σ) : Prop :=
  match v.state with
  | .at .init => Clocks.PacedIn get quiet info 0 before s
  | .at _ =>
      (∃ first, v.baseline = some first ∧
        first.Spans info (workTicks info before v.config.cycles 0)) ∧
      Clocks.PacedIn get quiet info (workCarried info before v.config.cycles 0)
        (pace before after v.outcomes) s
  | _ => True

/-- The run after a drift check whose samples span the ticks of their work. -/
def Measured (info : CounterInfo) (before after : UInt32) (v last : Validator) : Prop :=
  ∃ first second, v.baseline = some first ∧
    first.Spans info (workTicks info before v.config.cycles 0) ∧
    second.Spans info (workTicks info (pace before after v.outcomes) v.config.cycles
      (workCarried info before v.config.cycles 0)) ∧
    last = concluded .driftCheck (judgeDrift first.micros second.micros
      (allowedDrift first.micros v.config.driftDivisor), { v with finalSample := some second })

theorem timed_later (hstate : v.state = .at step) (hfirst : step ≠ .init) (s : σ) :
    Timed get quiet info before after v s ↔
      (∃ first, v.baseline = some first ∧
        first.Spans info (workTicks info before v.config.cycles 0)) ∧
      Clocks.PacedIn get quiet info (workCarried info before v.config.cycles 0)
        (pace before after v.outcomes) s := by
  unfold Timed
  rw [hstate]
  cases step with
  | init => exact absurd rfl hfirst
  | geometryCheck | erase | program | verify | driftCheck => exact Iff.rfl

variable (h : Timing get put quiet info before after device timer config)

include h

/-- The first step takes the first sample. -/
theorem init_timed (hsettings : v.config = config) (hstate : v.state = .at .init)
    (hempty : v.outcomes = []) :
    Act.Leads (Timed get quiet info before after v) (v.onEvent device timer)
      (Timed get quiet info before after) fun _ _ => True := by
  have hswitches := h.switches 0
  have hbaseline : Act.Leads (Clocks.PacedIn get quiet info 0 before)
      (takeBaseline timer v.config)
      (fun first s => first.Spans info (workTicks info before v.config.cycles 0) ∧
        Clocks.PacedIn get quiet info (workCarried info before v.config.cycles 0) before s)
      fun _ _ => True := by
    rw [hsettings]
    exact takeBaseline_leads
      (CycleTimer.protect_paced h.get_put h.quiet_put h.ticker h.window h.patience).unless_fault
      (CycleTimer.sample_spans h.get_put h.quiet_put h.ticker h.spin h.firstRoom).unless_fault
  refine onEvent_leads (E := fun _ _ _ => True) hstate ?_ fun _ _ =>
    Act.Leads.trivial.post fun _ _ _ => trivial
  refine ((initStep_leads (E := fun _ _ => True) (hswitches.init before).value
    (hswitches.asks before).openingText.unless_fault hbaseline fun _ => Act.Leads.trivial).pre
      fun s hs => ?_).post fun result s hs => ?_
  · unfold Timed at hs
    rwa [hstate] at hs
  · rcases result with ⟨error | outcome, next⟩
    · trivial
    · obtain ⟨rfl, first, rfl, hspans, hpaced⟩ := hs
      refine ⟨⟨first, rfl, hspans⟩, ?_⟩
      show Clocks.PacedIn get quiet info _ (pace before after (v.outcomes ++ _)) s
      rw [hempty]
      exact hpaced

omit h in
/-- Nothing is found out about the clocks between the samples. -/
theorem Effect.baseline {result : StepResult} (heffect : Effect v step result)
    (hfirst : step ≠ .init) : result.2.baseline = v.baseline := by
  cases heffect with
  | opened => exact absurd rfl hfirst
  | surveyed | erased | programmed | verified | judged | refused => rfl

/-- The steps between the samples leave the first sample and what it carried over. -/
theorem between_timed (hconsistent : v.Consistent config) (hstate : v.state = .at step)
    (hfirst : step ≠ .init) (hlast : step ≠ .driftCheck) :
    Act.Leads (Timed get quiet info before after v) (v.onEvent device timer)
      (Timed get quiet info before after) fun _ _ => True := by
  have hholds : v.holdsSession = true := by
    rw [hconsistent.session, hstate]
    cases step <;> trivial
  have heffect : Act.Leads (fun _ => True) (v.perform device timer step)
      (fun result _ => Effect v step result) fun _ _ => True :=
    perform_effect (fun _ _ => hholds) fun heq => absurd heq hlast
  refine onEvent_leads (E := fun _ _ _ => True) hstate ?_ fun _ _ =>
    Act.Leads.trivial.post fun _ _ _ => trivial
  refine (Act.Leads.of_and fun hsample => ?_).pre fun s hs => (timed_later hstate hfirst s).mp hs
  refine ((heffect.pre fun _ _ => trivial).and
    (perform_switches (h.switches _) (pace_cases _ _ _) hholds hfirst hlast)).mono (fun _ hs => hs)
    (fun result s hs => ?_) fun _ _ _ => trivial
  obtain ⟨heffect, hpaced⟩ := hs
  rcases result with ⟨error | outcome, next⟩
  · trivial
  · obtain ⟨later, hlater, hne⟩ : ∃ later, stateAfter step = .at later ∧ later ≠ .init := by
      cases step with
      | driftCheck => exact absurd rfl hlast
      | init | geometryCheck | erase | program | verify => exact ⟨_, rfl, nofun⟩
    have hnext : (next.advanced step outcome).state = .at later := hlater
    refine (timed_later hnext hne s).mpr ⟨?_, ?_⟩
    · show ∃ first, next.baseline = some first ∧ first.Spans info (workTicks info before
        next.config.cycles 0)
      rw [heffect.baseline hfirst, heffect.settings]
      exact hsample
    · show Clocks.PacedIn get quiet info (workCarried info before next.config.cycles 0)
        (pace before after (next.outcomes ++ [(step, outcome)])) s
      rw [heffect.settings, heffect.record, pace_append]
      exact hpaced outcome rfl

/-- **Any number of events** keeps the clocks at their pace. -/
theorem onEvent_timed (v : Validator) :
    Act.Leads (fun s => v.Consistent config ∧ Timed get quiet info before after v s)
      (v.onEvent device timer)
      (fun next s => next.Consistent config ∧ Timed get quiet info before after next s)
      fun _ _ => True := by
  refine .of_and fun hconsistent => ?_
  have hkept : Act.Leads (fun _ => v.Consistent config) (v.onEvent device timer)
      (fun next _ => next.Consistent config) fun _ _ => True := onEvent_consistent v
  suffices htimed : Act.Leads (Timed get quiet info before after v) (v.onEvent device timer)
      (Timed get quiet info before after) fun _ _ => True from
    ((hkept.pre fun _ _ => hconsistent).and htimed).unless_fault
  refine onEvent_by_step (fun step hstate => ?_) fun _ _ hs => hs
  by_cases hfirst : step = .init
  · subst hfirst
    have hrecorded : Recorded (.at .init) v.outcomes := hstate ▸ hconsistent.recorded
    exact init_timed h hconsistent.settings hstate (List.map_eq_nil_iff.mp hrecorded.order)
  by_cases hlast : step = .driftCheck
  · subst hlast
    -- the run is over after this step
    refine onEvent_leads (E := fun _ _ _ => True) hstate
      (Act.Leads.trivial.mono (fun _ _ => trivial) (fun result _ _ => ?_) fun _ _ _ => trivial)
      fun _ _ => Act.Leads.trivial.post fun _ _ _ => trivial
    rcases result with ⟨_ | _, _⟩ <;> trivial
  · exact between_timed h hconsistent hstate hfirst hlast

/-- **The drift check** takes the second sample, at the pace that was reached, and nothing stops
it. -/
theorem drift_timed (hconsistent : v.Consistent config) (hstate : v.state = .at .driftCheck) :
    Act.Leads (Timed get quiet info before after v) (v.onEvent device timer)
      (fun last _ => Measured info before after v last) fun _ _ => False := by
  have hnone : v.holdsSession = false := by rw [hconsistent.session, hstate]; rfl
  obtain rfl := hconsistent.settings
  refine (Act.Leads.of_and fun ⟨first, hfirst, hspans⟩ => ?_).pre fun s hs =>
    (timed_later hstate nofun s).mp hs
  have hprotect : Act.Leads (Clocks.PacedIn get quiet info
      (workCarried info before v.config.cycles 0) (pace before after v.outcomes))
      (timer.protect v.config.windowTicks) _ _ :=
    CycleTimer.protect_paced h.get_put h.quiet_put h.ticker h.window h.patience
  have hsample := CycleTimer.sample_spans h.get_put h.quiet_put h.ticker h.spin
    (h.secondRoom v.outcomes)
  -- the session is over, so there is none to drop when the check fails
  refine onEvent_leads (E := fun error next _ => next.holdsSession = false ∧
      Measured info before after v (next.halted .driftCheck error)) hstate
    ((driftStep_judges hfirst hprotect hsample).post fun result s hs => ?_) fun error next => ?_
  · obtain ⟨second, rfl, hsecond, _⟩ := hs
    rcases hjudge : judgeDrift first.micros second.micros
      (allowedDrift first.micros v.config.driftDivisor) with error | outcome
    · exact ⟨hnone, first, second, hfirst, hspans, hsecond, by rw [hjudge]; rfl⟩
    · exact ⟨first, second, hfirst, hspans, hsecond, by rw [hjudge]; rfl⟩
  · intro world ⟨hover, hmeasured⟩
    have hdrop : next.drop device = pure () := if_neg (by rw [hover]; exact Bool.false_ne_true)
    rw [hdrop]
    exact hmeasured

/-- **A run on fresh clocks that comes to the drift check** returns, and its samples span the ticks
of their work. -/
theorem run_timed {world next : World σ} (hquiet : quiet world.state)
    (hfresh : (get world.state).Paced info before 0) {events : Nat} {reached : Validator}
    (hreached : (afterEvents device timer events { config }).runOn world = (.ok reached, next))
    (hdrift : reached.state = .at .driftCheck) :
    ∃ last final report closing, (afterEvents device timer Step.all.length { config }).runOn world =
        (.ok last, final) ∧
      (run device timer { config }).runOn world = (.ok report, closing) ∧
      reached.config = config ∧ last.Tells report ∧ Measured info before after reached last := by
  have hconsistent := afterEvents_consistent hreached
  have htimed := afterEvents_leads
    (N := fun v s => v.Consistent config ∧ Timed get quiet info before after v s)
    (onEvent_timed h) events { config } world ⟨.fresh config, hquiet, hfresh⟩
  rw [hreached] at htimed
  obtain ⟨last, final, hevent, hmeasured⟩ :=
    (drift_timed h hconsistent hdrift).returns next htimed.2
  have hlast := afterEvents_drift hreached hdrift hevent
  obtain ⟨report, next, hrun, htells⟩ := run_of_afterEvents hlast
  exact ⟨last, final, report, next, hlast, hrun, hconsistent.settings, htells, hmeasured⟩

end Samples

end Validator

end FlashBench
