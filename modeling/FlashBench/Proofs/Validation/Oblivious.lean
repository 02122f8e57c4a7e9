import FlashBench.Proofs.Device.Agrees
import FlashBench.Proofs.Validation.Steps

/-!
# A run does not look at what was there before

Two parts of one layout that hold different bytes are validated side by side. `R known` relates
states in which the bytes at the `known` addresses are the same, and nothing is said of the others.
A run begins with nothing known, and **whatever it looks at it has erased before**: an erase that
succeeds makes its sector known, a program takes nothing away, and the comparisons that follow stay
inside that sector. So both runs come to the same steps with the same outcomes (`run_agrees`).

Between its events a run relies on a known sector in one place: the verify step looks at what the
program step has left (`Blind`).
-/

namespace FlashBench

variable {σ : Type} {P : σ → Prop} {R : (Nat → Prop) → σ → σ → Prop} {known : Nat → Prop}
  {device : Device σ} {timer : CycleTimer σ} {layout : FlashLayout} {g : Geometry}
  {last target : Sector}

/-- Of two states nothing is known but that they belong to parts of one layout. -/
def Unread (R : (Nat → Prop) → σ → σ → Prop) : σ → σ → Prop := R fun _ => False

/-- **A part that can be erased.** In states that agree at the known addresses the calls of the
device end alike, reads at known addresses only; an erase makes its sector known, and a program
changes nothing about what is known. -/
structure Device.Erasable (device : Device σ) (layout : FlashLayout) (P : σ → Prop)
    (R : (Nat → Prop) → σ → σ → Prop) : Prop where
  each : ∀ known s t, R known s t → P s ∧ P t
  asks : ∀ known, device.Agrees (R known) (Unread R)
  init : Attempt.Agrees (Unread R) device.init (fun _ => Unread R) (Unread R)
  free : Attempt.Agrees (Unread R) device.free (fun _ => Unread R) (Unread R)
  erase : ∀ sector ∈ layout.sectorList, Attempt.Agrees (Unread R)
    (device.eraseSector sector.start) (fun _ => R sector.Covers) (Unread R)
  program : ∀ known address data, Attempt.Agrees (R known) (device.programPage address data)
    (fun _ => R known) (Unread R)
  read : ∀ known (address : UInt32) len, layout.start.toNat ≤ address.toNat →
    address.toNat + len ≤ layout.stop →
    (∀ a, address.toNat ≤ a → a < address.toNat + len → known a) →
    Attempt.Agrees (R known) (device.read address len) (fun _ => R known) (Unread R)

namespace Validator

/-- What is known of the part when a run has a target: its sector. -/
def Aimed (R : (Nat → Prop) → σ → σ → Prop) (layout : FlashLayout) (target : Sector) :
    Option ProgramTarget → σ → σ → Prop
  | none => Unread R
  | some aimed => fun s t => aimed = aim layout target ∧ R target.Covers s t

/-! ## Steps in general -/

section General

variable {validator : Validator} {S T : σ → σ → Prop} {step : Step}

theorem leavingUnchanged_agrees {Q : StepOutcome × Validator → σ → σ → Prop}
    {attempt : Attempted σ (StepOutcome × Validator)} (hattempt : Attempt.Agrees S attempt Q T) :
    Act.Agrees S (validator.leavingUnchanged attempt)
      (fun result => match result.1 with
        | .ok outcome => Q (outcome, result.2)
        | .error _ => T) T := by
  refine Act.Agrees.bind hattempt fun outcome => ?_
  cases outcome with
  | ok => exact .pure _ fun _ _ hs => hs
  | error => exact .pure _ fun _ _ hs => hs

/-- A step that makes nothing known. -/
theorem leavingUnchanged_same {attempt : Attempted σ (StepOutcome × Validator)}
    (hattempt : Attempt.Agrees S attempt (fun _ => S) S) :
    Act.Agrees S (validator.leavingUnchanged attempt) (fun _ => S) S :=
  (leavingUnchanged_agrees hattempt).post fun result _ _ hs => by
    rcases result with ⟨_ | _, _⟩ <;> exact hs

theorem session_agrees {α : Type} {Q : α → σ → σ → Prop} {use : Session σ → Attempted σ α}
    (hnone : ∀ s t, S s t → T s t) (huse : Attempt.Agrees S (use ⟨device⟩) Q T) :
    Attempt.Agrees S (do use (← validator.session device)) Q T := by
  unfold Validator.session
  by_cases hholds : validator.holdsSession = true
  · rw [if_pos hholds]
    exact huse
  · rw [if_neg hholds]
    exact .bind_throw _ hnone

section Timed

variable (htimer : timer.Agrees S S)

include htimer

theorem takeBaseline_agrees (config : ValidatorConfig) :
    Act.Agrees S (takeBaseline timer config) (fun _ => S) S := by
  refine (htimer.protect _).bind fun protection => (htimer.sample _).bind fun sample => ?_
  have hmicros : Act.Agrees S sample.elapsedMicros (fun _ => S) S :=
    CycleTimer.Agrees.elapsedMicros sample htimer.weaker
  exact .bind (.noteWith (hmicros.bind fun _ => .same _)) fun _ => .same _

theorem driftStep_agrees : Act.Agrees S (validator.driftStep timer) (fun _ => S) S := by
  unfold driftStep
  cases validator.baseline with
  | none => exact .same _
  | some first =>
      have hmicros : ∀ sample : TimerSample, Act.Agrees S sample.elapsedMicros (fun _ => S) S :=
        fun sample => CycleTimer.Agrees.elapsedMicros sample htimer.weaker
      refine (hmicros first).bind fun _ => (htimer.protect _).bind fun _ => ?_
      refine (htimer.sample _).bind fun second => (hmicros second).bind fun _ => ?_
      exact .bind (.note _ _) fun _ => .same _

end Timed

/-- What is known of the part when an event comes: before the verify step it is what the run has
programmed. -/
def Blind (R : (Nat → Prop) → σ → σ → Prop) (layout : FlashLayout) (target : Sector)
    (validator : Validator) : σ → σ → Prop :=
  match validator.state with
  | .at .verify => Aimed R layout target validator.target
  | _ => Unread R

theorem blind_at (hstate : validator.state = .at step)
    (hne : step ≠ .verify) : Blind R layout target validator = Unread R := by
  unfold Blind
  rw [hstate]
  cases step with
  | verify => exact absurd rfl hne
  | init | geometryCheck | erase | program | driftCheck => rfl

theorem blind_advanced (hne : step ≠ .program) (validator : Validator)
    (outcome : StepOutcome) :
    Blind R layout target (validator.advanced step outcome) = Unread R := by
  cases step with
  | program => exact absurd rfl hne
  | init | geometryCheck | erase | verify | driftCheck => rfl

/-- A step that makes nothing known, and needs nothing. -/
theorem noted_agrees {act : Act σ StepResult}
    (hne : step ≠ .program) (hact : Act.Agrees S act (fun _ => Unread R) (Unread R)) :
    Act.Agrees S act (fun result => match result.1 with
      | .ok outcome => Blind R layout target (result.2.advanced step outcome)
      | .error _ => Unread R) (Unread R) :=
  hact.post fun result s t hs => by
    rcases result with ⟨_ | outcome, next⟩
    · exact hs
    · show Blind R layout target (next.advanced step outcome) s t
      rwa [blind_advanced hne]

theorem noteOutcome_agrees (step : Step) (outcome : StepOutcome) :
    Act.Agrees S (noteOutcome step outcome) (fun _ => S) T := by
  cases outcome <;> exact .note _ _

theorem elapsed?_agrees (sample : Option TimerSample) :
    Act.Agrees S (elapsed? sample) (fun _ => S) S := by
  cases sample with
  | none => exact .same _
  | some sample =>
      exact (CycleTimer.Agrees.elapsedMicros sample fun _ _ hs => hs).bind fun _ => .same _

end General

section Erasable

variable (h : device.Erasable layout P R)

include h

/-! ## The flash steps -/

/-- Bytes that are known compare alike. The induction is on the reads that may still be made. -/
theorem compareChunks_agrees {address len : UInt32} (hfirst : layout.start.toNat ≤ address.toNat)
    (hlast : address.toNat + len.toNat ≤ layout.stop)
    (hknown : ∀ a, address.toNat ≤ a → a < address.toNat + len.toNat → known a)
    (expected : UInt8) (chunks done : Nat) :
    Attempt.Agrees (R known) (compareChunks ⟨device⟩ address len expected chunks done)
      (fun _ => R known) (Unread R) := by
  have hweaker := (h.asks known).weaker
  induction chunks generalizing done with
  | zero => exact .same _
  | succ chunks ih =>
      refine .ite (fun hmore => ?_) fun _ => .same _
      refine .checked_bind (fun base hbase => ?_) hweaker
      have hbase := Word.toNat_of_fit32 hbase
      have hread : Attempt.Agrees (R known)
          (device.read base (min (len.toNat - done) readChunk)) (fun _ => R known) (Unread R) :=
        h.read known base _ (by omega) (by omega) fun a hlow hhigh =>
          hknown a (by omega) (by omega)
      refine .bind ((h.asks known).sessionRead hread) fun bytes => ?_
      cases bytes.data.toList.findIdx? (· ≠ expected) with
      | some i => exact .throw _ hweaker
      | none => exact ih _

theorem expectFill_agrees {address len : UInt32} (hfirst : layout.start.toNat ≤ address.toNat)
    (hlast : address.toNat + len.toNat ≤ layout.stop)
    (hknown : ∀ a, address.toNat ≤ a → a < address.toNat + len.toNat → known a)
    (expected : UInt8) :
    Attempt.Agrees (R known) (expectFill ⟨device⟩ address len expected) (fun _ => R known)
      (Unread R) :=
  compareChunks_agrees h hfirst hlast hknown expected _ _

/-- An answer that is known of every state. -/
theorem known_bind {ε α β : Type} {T : β → σ → σ → Prop} {act : Act σ α} {value : α}
    {f : α → Attempt ε σ β} (hact : Act.Agrees (R known) act (fun _ => R known) (Unread R))
    (hends : Act.Ends P act value P) (hf : Attempt.Agrees (R known) (f value) T (Unread R)) :
    Attempt.Agrees (R known) ((liftM act : Attempt ε σ α) >>= f) T (Unread R) :=
  .bind_known hact hends (h.each known) hf

/-- Less is known then. -/
theorem aimed_unread {aimed : Option ProgramTarget} (s t : σ)
    (hs : Aimed R layout target aimed s t) : Unread R s t := by
  cases aimed with
  | none => exact hs
  | some _ => exact (h.asks target.Covers).weaker s t hs.2

section Charted

variable (hcharts : layout.Charts g)

include hcharts

/-- One pattern: whatever was in the sector before is gone. -/
theorem programPattern_agrees (htarget : layout.Target target) (pattern : UInt8) :
    Attempt.Agrees (Unread R) (programPattern ⟨device⟩ target.start
      (Word.low32 layout.targetPage) layout.pageSize pattern) (fun _ => R target.Covers)
      (Unread R) := by
  have hpage := hcharts.toNat_targetPage
  have hbounds := hcharts.targetPage_bounds
  have hin := hcharts.targetPage_le htarget
  have hstart := htarget.covers.1
  have herased := h.asks target.Covers
  refine .bind ((h.asks _).sessionErase (h.erase target htarget.mem)) fun _ => ?_
  refine .bind (herased.sessionProgram (h.program _ _ _)) fun _ => ?_
  exact expectFill_agrees h (by omega) (by omega)
    (fun a hfirst hbelow => ⟨by omega, by omega⟩) _

variable (hreports : device.Reports P g)

include hreports

/-- **The erase step** looks at the sector that it has erased. -/
theorem eraseLastSector_agrees (hlast : layout.Last last) (reservedEnd : UInt32) :
    Attempt.Agrees (Unread R) (eraseLastSector device ⟨device⟩ reservedEnd)
      (fun _ => Unread R) (Unread R) := by
  have hasks := h.asks fun _ => False
  have hadmits := hcharts.admits last hlast.mem
  obtain ⟨hlow, _⟩ := hcharts.tiled.mem_bounds last hlast.mem
  have hend := hlast.stop
  unfold Sector.stop at hend
  have hstop : Act.Ends P (Session.endAddress ⟨device⟩) layout.stop P :=
    hcharts.stop ▸ Session.endAddress_ends hreports
  have hsize : Act.Ends P (device.sectorSize (Word.low32 (layout.stop - 1))) last.size P :=
    hcharts.sectorSize_last hlast ▸ hreports.sectorSize _
  have hpos : 0 < last.size.toNat := (Word.ne_zero_iff _).mp hadmits.nonempty
  unfold eraseLastSector
  refine known_bind h hasks.endAddress hstop ?_
  rw [Word.minus_of_le (by omega)]
  refine .checked_bind (fun _ heq => ?_) hasks.weaker
  obtain rfl := Except.ok.inj heq
  refine known_bind h (hasks.sectorSize _) hsize (known_bind h hasks.endAddress hstop ?_)
  rw [Word.minus_of_le (by omega)]
  refine .checked_bind (fun _ heq => ?_) hasks.weaker
  obtain rfl := Except.ok.inj heq
  rw [hlast.low32_start]
  refine .bind (.checked _ hasks.weaker) fun _ => .guard hasks.weaker fun _ => ?_
  refine .ite (fun _ => .same _) fun _ => ?_
  have herased := h.asks last.Covers
  refine .bind (hasks.sessionErase (h.erase last hlast.mem)) fun _ => ?_
  refine .bind (.lift herased.eraseValue) fun erased => ?_
  refine .bind (expectFill_agrees h hlow (by omega) (fun a hfirst hbelow => ⟨hfirst, hbelow⟩) _)
    fun _ => .pure _ herased.weaker

/-- **The program step** looks at the sector that it has erased. -/
theorem programTarget_agrees (htarget : layout.Target target) (config : ValidatorConfig) :
    Attempt.Agrees (Unread R) (programTarget device ⟨device⟩ config)
      (fun result => Aimed R layout target result.2) (Unread R) := by
  have hasks := h.asks fun _ => False
  have hstop : Act.Ends P (Session.endAddress ⟨device⟩) layout.stop P :=
    hcharts.stop ▸ Session.endAddress_ends hreports
  have hstart : Act.Ends P device.startAddress layout.start P :=
    hcharts.start ▸ hreports.startAddress
  have hpageSize : Act.Ends P device.pageSize layout.pageSize P :=
    hcharts.pageSize ▸ hreports.pageSize
  have hsize : Act.Ends P (device.sectorSize (Word.low32 layout.targetPage)) target.size P :=
    hcharts.sectorSize_targetPage htarget ▸ hreports.sectorSize _
  unfold programTarget
  refine .bind (.lift hasks.eraseValue) fun _ => .ite (fun _ => ?_) fun _ =>
    .bind_throw _ hasks.weaker
  refine known_bind h hasks.pageSize hpageSize (known_bind h hasks.startAddress hstart ?_)
  refine known_bind h hasks.endAddress hstop ?_
  simp only [hcharts.targetPage?_eq]
  refine known_bind h (hasks.sectorSize _) hsize ?_
  rw [hcharts.alignDown_targetPage htarget]
  refine .ite (fun _ => .pure _ fun _ _ hs => hs) fun _ => ?_
  have hpattern := programPattern_agrees h hcharts htarget
  refine .bind (hpattern _) fun _ => ?_
  refine .bind ((hpattern _).pre (h.asks target.Covers).weaker) fun _ => ?_
  exact .pure _ fun _ _ hs => ⟨rfl, hs⟩

/-- **The verify step** looks at the sector that the program step has left. -/
theorem verifyTarget_agrees (htarget : layout.Target target) (pattern : UInt8) :
    Attempt.Agrees (R target.Covers) (verifyTarget device ⟨device⟩ pattern (aim layout target))
      (fun _ => R target.Covers) (Unread R) := by
  have hasks := h.asks target.Covers
  have hpage := hcharts.toNat_targetPage
  have hbounds := hcharts.targetPage_bounds
  have hin := hcharts.targetPage_le htarget
  have hstart := htarget.covers.1
  have hbefore := hcharts.toNat_before target
  have hbehind := hcharts.toNat_behind htarget
  obtain ⟨hlow, hhigh⟩ := hcharts.tiled.mem_bounds target htarget.mem
  have hpageSize : Act.Ends P device.pageSize layout.pageSize P :=
    hcharts.pageSize ▸ hreports.pageSize
  unfold verifyTarget
  refine known_bind h hasks.pageSize hpageSize (.bind (.lift hasks.eraseValue) fun erased => ?_)
  simp only [aim, hpage]
  refine .checked_bind (fun pageEnd hend => ?_) hasks.weaker
  have hend := Word.toNat_of_fit32 hend
  rw [Word.minus_of_le hstart, hend, show target.start.toNat + target.size.toNat = target.stop
    from rfl, Word.minus_of_le hin]
  refine .bind (expectFill_agrees h (by omega) (by omega)
    (fun a hfirst hbelow => ⟨by omega, by omega⟩) _) fun _ => ?_
  refine .checked_bind (fun _ heq => ?_) hasks.weaker
  obtain rfl := Except.ok.inj heq
  refine .bind (expectFill_agrees h (by omega) (by omega)
    (fun a hfirst hbelow => ⟨by omega, by omega⟩) _) fun _ => ?_
  refine .checked_bind (fun _ heq => ?_) hasks.weaker
  obtain rfl := Except.ok.inj heq
  exact expectFill_agrees h (by omega) (by omega) (fun a hfirst hbelow => ⟨by omega, by omega⟩) _

theorem verifyProgrammed_agrees (htarget : layout.Target target) (validator : Validator) :
    Attempt.Agrees (Aimed R layout target validator.target)
      (verifyProgrammed device ⟨device⟩ validator) (fun _ => Unread R) (Unread R) := by
  unfold verifyProgrammed
  cases validator.target with
  | none => exact .same _
  | some aimed =>
      refine Act.Agrees.of_and fun haimed => ?_
      subst haimed
      refine Attempt.Agrees.bind (verifyTarget_agrees h hcharts hreports htarget _) fun _ => ?_
      exact .pure _ (h.asks target.Covers).weaker

end Charted

/-! ## Steps and runs -/

section Steps

variable {validator : Validator}

theorem initStep_agrees (htimer : timer.Agrees (Unread R) (Unread R)) :
    Act.Agrees (Unread R) (validator.initStep device timer) (fun _ => Unread R) (Unread R) := by
  have hstart := Device.Agrees.start (h.asks _) h.init
  refine leavingUnchanged_same (.bind hstart fun session => Act.Agrees.of_and fun heq => ?_)
  subst heq
  have hbaseline := takeBaseline_agrees htimer validator.config
  exact Attempt.Agrees.bind (Device.Agrees.guarding h.free (.lift hbaseline)) fun _ => .same _

theorem geometryStep_agrees :
    Act.Agrees (Unread R) (validator.geometryStep device) (fun _ => Unread R) (Unread R) := by
  have hasks : device.Agrees (Unread R) (Unread R) := h.asks _
  refine leavingUnchanged_same (session_agrees (fun _ _ hs => hs)
    (Device.Agrees.guarding h.free ?_))
  exact .bind (.withError hasks.checkGeometry) fun _ => .bind (.note _ _) fun _ => .same _

variable (hcharts : layout.Charts g) (hreports : device.Reports P g)

include hcharts hreports

theorem eraseStep_agrees (hlast : layout.Last last) :
    Act.Agrees (Unread R) (validator.eraseStep device) (fun _ => Unread R) (Unread R) := by
  have herase := eraseLastSector_agrees h hcharts hreports hlast validator.config.reservedEnd
  refine leavingUnchanged_same (session_agrees (fun _ _ hs => hs) ?_)
  exact .bind (Device.Agrees.guarding h.free herase) fun _ => .same _

variable (htarget : layout.Target target)

include htarget

theorem programStep_agrees :
    Act.Agrees (Unread R) (validator.programStep device)
      (fun result => match result.1 with
        | .ok _ => Aimed R layout target result.2.target
        | .error _ => Unread R) (Unread R) := by
  have hprogram := programTarget_agrees h hcharts hreports htarget validator.config
  refine leavingUnchanged_agrees (Q := fun result => Aimed R layout target result.2.target)
    (session_agrees (fun _ _ hs => hs) ?_)
  exact .bind (Device.Agrees.guarding h.free hprogram) fun _ => .pure _ fun _ _ hs => hs

/-- What was known is not needed any more. -/
theorem verifyStep_agrees :
    Act.Agrees (Aimed R layout target validator.target) (validator.verifyStep device)
      (fun _ => Unread R) (Unread R) := by
  have hverify := verifyProgrammed_agrees h hcharts hreports htarget validator
  unfold verifyStep
  refine .ite (fun _ => .pure _ (aimed_unread h)) fun _ => ?_
  refine Act.Agrees.bind (Device.Agrees.guarding h.free hverify) fun outcome => ?_
  cases outcome with
  | error error => exact .same _
  | ok outcome =>
      refine Act.Agrees.bind (Device.Agrees.free h.free) fun released => ?_
      cases released with
      | error error => exact .same _
      | ok => exact .same _

end Steps

theorem blind_unread (validator : Validator) (s t : σ)
    (hs : Blind R layout target validator s t) : Unread R s t := by
  cases hstate : validator.state with
  | «at» step =>
      by_cases hverify : step = .verify
      · unfold Blind at hs
        rw [hstate, hverify] at hs
        exact aimed_unread h s t hs
      · rwa [blind_at hstate hverify] at hs
  | done =>
      unfold Blind at hs
      rwa [hstate] at hs
  | failed error =>
      unfold Blind at hs
      rwa [hstate] at hs

section Runs

variable (hcharts : layout.Charts g) (hreports : device.Reports P g) (hlast : layout.Last last)
  (htarget : layout.Target target) (htimer : timer.Agrees (Unread R) (Unread R))

theorem drop_agrees {validator : Validator} :
    Act.Agrees (Unread R) (validator.drop device) (fun _ => Unread R) (Unread R) :=
  .ite (fun _ => Device.Agrees.drop h.free) fun _ => .same _

include hcharts hreports hlast htarget htimer

/-- **One step.** -/
theorem perform_agrees {validator : Validator} {step : Step} (hstate : validator.state = .at step) :
    Act.Agrees (Blind R layout target validator) (validator.perform device timer step)
      (fun result => match result.1 with
        | .ok outcome => Blind R layout target (result.2.advanced step outcome)
        | .error _ => Unread R) (Unread R) := by
  cases step with
  | init =>
      rw [blind_at hstate nofun]
      exact noted_agrees nofun (initStep_agrees h htimer)
  | geometryCheck =>
      rw [blind_at hstate nofun]
      exact noted_agrees nofun (geometryStep_agrees h)
  | erase =>
      rw [blind_at hstate nofun]
      exact noted_agrees nofun (eraseStep_agrees h hcharts hreports hlast)
  | program =>
      rw [blind_at hstate nofun]
      exact programStep_agrees h hcharts hreports htarget
  | verify =>
      have hblind : Blind R layout target validator = Aimed R layout target validator.target := by
        unfold Blind
        rw [hstate]
      rw [hblind]
      exact noted_agrees nofun (verifyStep_agrees h hcharts hreports htarget)
  | driftCheck =>
      rw [blind_at hstate nofun]
      exact noted_agrees nofun (driftStep_agrees htimer)

/-- **One event.** -/
theorem onEvent_agrees (validator : Validator) :
    Act.Agrees (Blind R layout target validator) (validator.onEvent device timer)
      (Blind R layout target) (Unread R) := by
  unfold onEvent
  cases hstate : validator.state with
  | «at» step =>
      refine (perform_agrees h hcharts hreports hlast htarget htimer hstate).bind fun result => ?_
      obtain ⟨error | outcome, next⟩ := result
      · refine .bind (.note _ _) fun _ => (drop_agrees h).bind fun _ => .pure _ fun _ _ hs => hs
      · exact .bind (noteOutcome_agrees _ _) fun _ => .pure _ fun _ _ hs => hs
  | done => exact .pure _ fun _ _ hs => hs
  | failed error => exact .pure _ fun _ _ hs => hs

/-- **Any number of events.** -/
theorem runEvents_agrees (events : Nat) (validator : Validator) :
    Act.Agrees (Blind R layout target validator) (runEvents device timer events validator)
      (Blind R layout target) (Unread R) := by
  induction events generalizing validator with
  | zero => exact .pure _ fun _ _ hs => hs
  | succ events ih =>
      refine .ite (fun _ => .pure _ fun _ _ hs => hs) fun _ => ?_
      exact (onEvent_agrees h hcharts hreports hlast htarget htimer validator).bind ih

/-- **A whole run** reports the same, whatever was there before. -/
theorem run_agrees (config : ValidatorConfig) :
    Act.Agrees (Unread R) (run device timer { config }) (fun _ => Unread R) (Unread R) := by
  have hevents := runEvents_agrees h hcharts hreports hlast htarget htimer Step.all.length { config }
  refine Act.Agrees.bind hevents fun lastRun => ?_
  refine Act.Agrees.pre ?_ (blind_unread h lastRun)
  exact .bind (elapsed?_agrees _) fun _ => .bind (elapsed?_agrees _) fun _ => .same _

end Runs

end Erasable

end Validator

end FlashBench
