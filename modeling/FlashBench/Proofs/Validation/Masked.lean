import FlashBench.Proofs.Validation.Healthy
import Mathlib.Data.LawfulXor.Basic

/-!
# Bytes that are read wrong

A part works, but the bits in a mask are read the other way round (`Device.masked`). A run that
skips nothing looks at every byte of the last sector and of the sector of the target page. So it
passes its flash steps exactly if the mask is zero on both sectors. Otherwise it fails with the first
byte that it finds to be wrong (`run_masked`).

The looks of such a run are the ones of a run on the part itself, each read through the mask
(`looks_masked`). Those match, so what differs is the mask.
-/

namespace FlashBench

variable {mask : Nat → UInt8}

/-- `data` as it is read from `first` on when the bits of `mask` are the other way round. -/
def Memory.masked (mask : Nat → UInt8) (first : Nat) (data : ByteArray) : ByteArray :=
  ⟨data.data.mapIdx fun i byte => byte ^^^ mask (first + i)⟩

theorem Memory.masked_dump (bytes : Nat → UInt8) (first len : Nat) :
    masked mask first (dump bytes first len) = dump (fun a => bytes a ^^^ mask a) first len := by
  ext i hi hi'
  · simp [masked, dump]
  · simp [masked, dump]

namespace Device

variable {σ : Type} {P : σ → Prop} {layout : FlashLayout} {g : Geometry} {bytes : Nat → UInt8}
  {device : Device σ}

/-- The device with every byte read through the mask. -/
def masked (mask : Nat → UInt8) (device : Device σ) : Device σ :=
  { device with
    read := fun address len => do
      let data ← device.read address len
      return Memory.masked mask address.toNat data }

theorem Shows.masked (h : device.Shows P layout g bytes) :
    (device.masked mask).Shows P layout g fun a => bytes a ^^^ mask a where
  reports := { h.reports with }
  eraseValue := h.eraseValue
  read := fun address len hfirst hlast => by
    rw [← Memory.masked_dump]
    exact Attempt.Ends.bind (h.read address len hfirst hlast) (.pure _)

end Device

namespace Validator.Look

variable {look : Look}

/-- The look through the mask. -/
def masked (mask : Nat → UInt8) (look : Look) : Look :=
  { look with bytes := fun a => look.bytes a ^^^ mask a }

theorem Matches.masked_iff (h : look.Matches) : (look.masked mask).Matches ↔
    ∀ a, look.address.toNat ≤ a → a < look.address.toNat + look.len.toNat → mask a = 0 := by
  refine forall_congr' fun a => forall_congr' fun hfirst => forall_congr' fun hlast => ?_
  show look.bytes a ^^^ mask a = look.expected ↔ _
  rw [h a hfirst hlast, xor_left_eq_self_iff]

theorem Matches.masked_differs {error : ValidationError} (h : look.Matches)
    (hdiffers : (look.masked mask).Differs error) :
    ∃ offset : UInt32, mask (look.address.toNat + offset.toNat) ≠ 0 ∧
      error = .verificationMismatch look.address offset look.expected
        (look.expected ^^^ mask (look.address.toNat + offset.toNat)) := by
  obtain ⟨offset, hoffset, hne, rfl⟩ := hdiffers
  have hbyte : look.bytes (look.address.toNat + offset.toNat) = look.expected :=
    h _ (Nat.le_add_right _ _) (Nat.add_lt_add_left hoffset _)
  simp only [masked, hbyte] at hne ⊢
  exact ⟨offset, fun hzero => hne (xor_left_eq_self_iff.mpr hzero), rfl⟩

end Validator.Look

namespace Plan

open Validator

variable {plan : Plan} {g : Geometry}

/-- Erases work, and bytes are shown through the mask. -/
def masked (plan : Plan) (mask : Nat → UInt8) : View :=
  { plan.faithful with shown := fun bytes a => bytes a ^^^ mask a }

theorem standIn_masked {K : Rig → Prop} (hanswers : Rig.Answers plan.layout g)
    (hK : Rig.Driven K) : plan.StandIn (plan.masked mask) g K (Rig.device.masked mask) :=
  { plan.standIn_device hanswers hK with
    shows := fun K bytes => ((standIn_device hanswers hK).shows K bytes).masked }

theorem looks_masked (step : Step) :
    plan.looks (plan.masked mask) step =
      (plan.looks plan.faithful step).map (Look.masked mask) := by
  cases step with
  | init | geometryCheck | driftCheck => rfl
  | erase | program | verify =>
      rw [looks, looks, apply_ite (List.map (Look.masked mask))]
      rfl

variable (hcharts : plan.layout.Charts g) (mask : Nat → UInt8)

include hcharts

theorem erase_masked (hfree : ¬ plan.last.start < plan.config.reservedEnd) :
    (∀ look ∈ plan.looks (plan.masked mask) .erase, look.Matches) ↔
      ∀ a, plan.last.Covers a → mask a = 0 := by
  have hmatches := faithful_matches hcharts .erase
  rw [looks, if_neg hfree, List.forall_mem_singleton] at hmatches
  rw [looks_masked, looks, if_neg hfree, List.map_singleton, List.forall_mem_singleton,
    hmatches.masked_iff]
  exact forall_congr' fun a => and_imp.symm

theorem verify_masked (hfree : ¬ plan.target.start < plan.config.reservedEnd)
    (hroom : ¬ plan.Overflows) :
    (∀ look ∈ plan.looks (plan.masked mask) .verify, look.Matches) ↔
      ∀ a, plan.target.Covers a → mask a = 0 := by
  have hend : ¬ Word.span32 ≤ plan.layout.targetPage + plan.layout.pageSize.toNat := fun hover =>
    hroom ⟨hover, hfree⟩
  have hprogrammed : Programmed plan.layout plan.target plan.config.secondPattern
      (plan.afterPatterns plan.faithful) := programmed_withPattern _ _
  rw [looks, if_neg (not_or.mpr ⟨hfree, hend⟩),
    verifyLooks_match_iff hcharts plan.isTarget (Nat.not_le.mp hend)]
  refine forall_congr' fun a => forall_congr' fun hcovers => ?_
  -- the medium is as it should be, so what is shown is wrong where the mask is not zero
  show plan.afterPatterns plan.faithful a ^^^ mask a = _ ↔ _
  rw [hprogrammed a hcovers, xor_left_eq_self_iff]

/-- The program step looks at the page only, which is a part of its sector. -/
theorem program_masked (hzero : ∀ a, plan.target.Covers a → mask a = 0) :
    ∀ look ∈ plan.looks (plan.masked mask) .program, look.Matches := by
  have hin := hcharts.targetPage_le plan.isTarget
  have hstart := plan.isTarget.covers.1
  have hpage : ∀ pattern bytes, ((plan.pageLook plan.faithful pattern
      (plan.withPattern plan.faithful pattern bytes)).masked mask).Matches := by
    intro pattern bytes
    refine (faithful_pageLook hcharts pattern bytes).masked_iff.mpr fun a hfirst hlast => ?_
    simp only [pageLook, hcharts.toNat_targetPage] at hfirst hlast
    exact hzero a ⟨by omega, by omega⟩
  rw [looks_masked, looks]
  split
  · exact List.forall_mem_nil _
  · exact List.forall_mem_cons.mpr ⟨hpage _ _, List.forall_mem_singleton.mpr (hpage _ _)⟩

/-- **Every bit of both sectors is looked at.** -/
theorem masked_matches_iff (hlast : ¬ plan.last.start < plan.config.reservedEnd)
    (htarget : ¬ plan.target.start < plan.config.reservedEnd) (hroom : ¬ plan.Overflows) :
    (∀ step, ∀ look ∈ plan.looks (plan.masked mask) step, look.Matches) ↔
      ∀ a, plan.last.Covers a ∨ plan.target.Covers a → mask a = 0 := by
  have herase := erase_masked hcharts mask hlast
  have hverify := verify_masked hcharts mask htarget hroom
  constructor
  · rintro hall a (hcovers | hcovers)
    · exact herase.mp (hall .erase) a hcovers
    · exact hverify.mp (hall .verify) a hcovers
  · intro hzero step
    cases step with
    | init | geometryCheck | driftCheck => exact List.forall_mem_nil _
    | erase => exact herase.mpr fun a hcovers => hzero a (.inl hcovers)
    | program => exact program_masked hcharts mask fun a hcovers => hzero a (.inr hcovers)
    | verify => exact hverify.mpr fun a hcovers => hzero a (.inr hcovers)

variable {mask} in
/-- A run that fails has found a byte at which the mask is not zero. -/
theorem FailsAt.masked_mismatch {step : Step} {state : ValidatorState}
    {outcomes : List (Step × StepOutcome)}
    (h : plan.FailsAt (plan.masked mask) step state outcomes) :
    ∃ (address offset : UInt32) (expected : UInt8),
      state = .failed (.verificationMismatch address offset expected
        (expected ^^^ mask (address.toNat + offset.toNat))) ∧
      mask (address.toNat + offset.toNat) ≠ 0 := by
  obtain ⟨error, ⟨look, hmem, hdiffers⟩, rfl, -⟩ := h
  -- without the mask the look matches
  rw [looks_masked] at hmem
  obtain ⟨shown, hshown, rfl⟩ := List.mem_map.mp hmem
  obtain ⟨offset, hne, rfl⟩ := (faithful_matches hcharts step shown hshown).masked_differs hdiffers
  exact ⟨_, offset, _, rfl, hne⟩

end Plan

section Run

open Validator

variable {layout : FlashLayout} {rig : Rig} {timer : CycleTimer Rig} {config : ValidatorConfig}
  {last target : Sector}

/-- **Every bit counts.** The part is healthy and nothing is skipped, but bytes are read through a
mask. The flash steps all pass exactly if the mask is zero on the last sector and on the sector of
the target page. Otherwise the run fails with a byte at which it is not, and with what it made of
that byte. -/
theorem Validator.run_masked (hlayout : layout.validate = .ok (.ok ()))
    (hroom : layout.stop < Word.span32 ∨
      layout.start.toNat + 2 * layout.pageSize.toNat ≤ layout.stop)
    (hhealthy : rig.Healthy layout) (hdistinct : config.Distinct layout.eraseValue)
    (htimer : timer.Apart)
    (hreturns : timer.Returns config.windowTicks config.cycles rig.ctrl.eraseClockHz rig.clocks)
    (hlast : layout.Last last) (htarget : layout.Target target)
    (hlastFree : ¬ last.start < config.reservedEnd)
    (htargetFree : ¬ target.start < config.reservedEnd) (mask : Nat → UInt8) (log : Log) :
    ∃ report next, (run (Rig.device.masked mask) timer { config }).runOn { state := rig, log } =
        (.ok report, next) ∧
      ((∀ step ∈ [Step.erase, .program, .verify], (step, .passed) ∈ report.outcomes) ↔
        ∀ a, last.Covers a ∨ target.Covers a → mask a = 0) ∧
      ((∃ a, (last.Covers a ∨ target.Covers a) ∧ mask a ≠ 0) →
        ∃ (address offset : UInt32) (expected : UInt8),
          report.state = .failed (.verificationMismatch address offset expected
            (expected ^^^ mask (address.toNat + offset.toNat))) ∧
          mask (address.toNat + offset.toNat) ≠ 0) := by
  obtain ⟨g, hcharts, hanswers⟩ := Rig.device_answers hlayout
  let plan : Plan := ⟨layout, hlayout, last, hlast, target, htarget, config, rig.ctrl.byteAt⟩
  have hfits : ¬ plan.Overflows := fun hover =>
    Nat.not_le.mpr (hcharts.targetPage_end_lt hroom) hover.1
  have hruns : Act.Leads (plan.Start _) (run (Rig.device.masked mask) timer { config }) _
      fun _ _ => False :=
    plan.run_concludes hcharts (plan.standIn_masked hanswers Plan.again_driven) htimer
      CycleTimer.returns_twice hdistinct.eq_true hfits
  have hstart : plan.Start (timer.Returns config.windowTicks config.cycles) rig :=
    Rig.Healthy.start hhealthy rfl hreturns
  obtain ⟨report, next, hrun, hconcludes⟩ := hruns.returns { state := rig, log } hstart
  have hmatches := plan.masked_matches_iff hcharts mask hlastFree htargetFree hfits
  refine ⟨report, next, hrun, (hconcludes.passed_iff hlastFree htargetFree).trans hmatches, ?_⟩
  rintro ⟨a, hcovers, hne⟩
  cases hconcludes with
  | completes hall => exact absurd (hmatches.mp hall a hcovers) hne
  | fails step hfails => exact hfails.masked_mismatch hcharts

/-- One bit of the last byte of the small part is read the other way round. -/
theorem Validator.run_masked_unmovedRig :
    smallLayout.validate = .ok (.ok ()) ∧
      (smallLayout.stop < Word.span32 ∨
        smallLayout.start.toNat + 2 * smallLayout.pageSize.toNat ≤ smallLayout.stop) ∧
      unmovedRig.Healthy smallLayout ∧ ValidatorConfig.Distinct {} smallLayout.eraseValue ∧
      (Rig.timer enoughReads).Apart ∧
      (Rig.timer enoughReads).Returns 35000 10000000 unmovedRig.ctrl.eraseClockHz
        unmovedRig.clocks ∧
      smallLayout.Last smallPlan.last ∧ smallLayout.Target smallPlan.target ∧
      ¬ smallPlan.last.start < 0 ∧ ¬ smallPlan.target.start < 0 ∧
      let mask : Nat → UInt8 := fun a => if a = 0x101F then 0x80 else 0
      ∃ report next, (run (Rig.device.masked mask) (Rig.timer enoughReads)
          { config := {} }).runOn { state := unmovedRig } = (.ok report, next) ∧
        ∃ (address offset : UInt32) (expected : UInt8),
          report.state = .failed (.verificationMismatch address offset expected
            (expected ^^^ 0x80)) ∧ address.toNat + offset.toNat = 0x101F := by
  have hlayout : smallLayout.validate = .ok (.ok ()) := rfl
  have hroom : smallLayout.stop < Word.span32 ∨
      smallLayout.start.toNat + 2 * smallLayout.pageSize.toNat ≤ smallLayout.stop := by decide
  have htimer := Rig.timer_apart enoughReads
  obtain ⟨report, next, hrun, -, hfails⟩ := Validator.run_masked hlayout hroom
    unmovedRig_healthy smallRig_distinct htimer unmovedRig_returns smallPlan.isLast
    smallPlan.isTarget UInt32.not_lt_zero UInt32.not_lt_zero
    (fun a => if a = 0x101F then 0x80 else 0) {}
  obtain ⟨address, offset, expected, hstate, hne⟩ := hfails ⟨0x101F, by decide, by decide⟩
  have hflipped : address.toNat + offset.toNat = 0x101F := by
    by_contra hother
    exact hne (if_neg hother)
  rw [if_pos hflipped] at hstate
  exact ⟨hlayout, hroom, unmovedRig_healthy, smallRig_distinct, htimer, unmovedRig_returns,
    smallPlan.isLast, smallPlan.isTarget, UInt32.not_lt_zero, UInt32.not_lt_zero, report, next, hrun,
    address, offset, expected, hstate, hflipped⟩

end Run

end FlashBench
