import FlashBench.Proofs.Part.Targets
import FlashBench.Proofs.Validation.Fill
import FlashBench.Proofs.Validation.Keeps

/-!
# The flash steps on a charted device

What the erase, program and verify steps do on a device whose geometry is the one of a valid layout.
The addresses they compute are those of the last sector, of the target page and of its sector, and
whether a step is left out depends on the settings and the layout only.

The lemmas leave open what the device makes of an erase or a program: whatever these calls and the
comparisons after them lead to, the step leads to (`eraseLastSector_leads`, `programTarget_leads`).
The verify step only reads. It takes three looks, which answer for it (`verifyTarget_ends`) and
together cover the sector (`verifyTarget_decides`). One computation can leave its range: the end of
a target page that reaches the top of the address space is no word (`verifyTarget_stops`).
-/

namespace FlashBench

/-- What is fixed when a run starts: the part and the sectors it will touch, the settings, and the
bytes before it. -/
structure Plan where
  layout : FlashLayout
  valid : layout.validate = .ok (.ok ())
  last : Sector
  isLast : layout.Last last
  target : Sector
  isTarget : layout.Target target
  config : ValidatorConfig
  before : Nat → UInt8

namespace Validator

variable {σ : Type} {P M N Q : σ → Prop}
  {E : ValidationError → σ → Prop} {S : Fault → σ → Prop} {device : Device σ}
  {layout : FlashLayout} {g : Geometry} {bytes : Nat → UInt8} {last target : Sector}

/-- Where the program step aims: the target page and its sector. -/
def aim (layout : FlashLayout) (target : Sector) : ProgramTarget where
  address := Word.low32 layout.targetPage
  sector := target.start
  sectorSize := target.size

theorem sessionErase_leads (hcharts : layout.Charts g) (h : device.Reports P g) {sector : Sector}
    (hmem : sector ∈ layout.sectorList)
    (herase : Attempt.Leads P (device.eraseSector sector.start) (fun _ => Q)
      (fun error => E (.flash error)) S) :
    Attempt.Leads P ((Session.eraseSector ⟨device⟩ sector.start).withError ValidationError.flash)
      (fun _ => Q) E S := by
  have hadmits := hcharts.admits sector hmem
  have hsize := hadmits.first
  refine .withError (Session.eraseSector_leads h ?_ ?_ ?_ herase) fun _ _ hs => hs
  · exact hsize ▸ hadmits.valid
  · exact hsize ▸ hadmits.nonempty
  · exact hsize ▸ hadmits.aligned

/-! ## Erasing -/

/-- **The erase step** touches the last sector, unless that is reserved. -/
theorem eraseLastSector_leads (hcharts : layout.Charts g) (hlast : layout.Last last)
    (h : device.Reports P g) {reservedEnd : UInt32} {R : StepOutcome → σ → Prop}
    (hskip : last.start < reservedEnd → ∀ s, P s →
      R (.skipped (.reserved last.start reservedEnd)) s)
    (herase : ¬ last.start < reservedEnd → Attempt.Leads P (device.eraseSector last.start)
      (fun _ => M) (fun error => E (.flash error)) S)
    (hvalue : Act.Ends M device.eraseValue layout.eraseValue M)
    (hfill : ¬ last.start < reservedEnd → Attempt.Leads M
      (expectFill ⟨device⟩ last.start last.size layout.eraseValue) (fun _ => R .passed) E S) :
    Attempt.Leads P (eraseLastSector device ⟨device⟩ reservedEnd) R E S := by
  have hfilled := hcharts.filled
  have hadmits := hcharts.admits last hlast.mem
  have hstop : Act.Ends P (Session.endAddress ⟨device⟩) layout.stop P :=
    hcharts.stop ▸ Session.endAddress_ends h
  have hsize : Act.Ends P (device.sectorSize (Word.low32 (layout.stop - 1))) last.size P :=
    hcharts.sectorSize_last hlast ▸ h.sectorSize _
  have hle : last.size.toNat ≤ layout.stop := by
    rw [← hlast.stop, Sector.stop]
    exact Nat.le_add_left _ _
  have hpos : 0 < last.size.toNat := (Word.ne_zero_iff _).mp hadmits.nonempty
  unfold eraseLastSector
  refine .bind_ends (.lift hstop) ?_
  rw [Word.minus_of_le (by omega)]
  refine .bind_ends (.checked _) (.bind_ends (.lift hsize) (.bind_ends (.lift hstop) ?_))
  rw [Word.minus_of_le hle]
  refine .bind_ends (.checked _) ?_
  simp only [hlast.low32_start, Word.remainder_of_dvd hpos hadmits.aligned]
  refine .bind_ends (.checked _) (.guard (fun hne => absurd rfl hne) fun _ => ?_)
  refine .ite (fun hreserved => .pure _ (hskip hreserved)) fun hreserved => ?_
  refine .bind (sessionErase_leads hcharts h hlast.mem (herase hreserved)) fun _ => ?_
  exact .bind_ends (.lift hvalue) (.bind (hfill hreserved) fun _ => .pure _ fun _ hs => hs)

/-! ## Programming -/

/-- One pattern: the sector is erased, the page programmed, and what was programmed read back. -/
theorem programPattern_leads (hcharts : layout.Charts g) (htarget : layout.Target target)
    (h : device.Reports P g) (h₁ : device.Reports M g) {pattern : UInt8}
    (herase : Attempt.Leads P (device.eraseSector target.start) (fun _ => M)
      (fun error => E (.flash error)) S)
    (hprogram : Attempt.Leads M (device.programPage (Word.low32 layout.targetPage)
        (Memory.filled layout.pageSize.toNat pattern)) (fun _ => N)
      (fun error => E (.flash error)) S)
    (hfill : Attempt.Leads N
      (expectFill ⟨device⟩ (Word.low32 layout.targetPage) layout.pageSize pattern)
      (fun _ => Q) E S) :
    Attempt.Leads P (programPattern ⟨device⟩ target.start (Word.low32 layout.targetPage)
      layout.pageSize pattern) (fun _ => Q) E S := by
  have hpage := hcharts.toNat_targetPage
  have hbounds := hcharts.targetPage_bounds
  have hpaged := hcharts.paged
  have hsize := Memory.size_filled layout.pageSize.toNat pattern
  have hwhole : layout.pageSize.toNat ∣ (Memory.filled layout.pageSize.toNat pattern).size :=
    hsize.symm ▸ Nat.dvd_refl _
  refine .bind (sessionErase_leads hcharts h htarget.mem herase) fun _ => ?_
  refine .bind (.withError (Session.programPage_leads h₁ ?_ ?_ ?_ ?_ ?_ ?_ hprogram)
    fun _ _ hs => hs) fun _ => hfill
  · exact hcharts.pageSize ▸ hpaged
  · rw [hcharts.start, hpage]
    exact hbounds.1
  · rw [hcharts.stop, hpage, hsize]
    exact hbounds.2
  · rw [hsize]
    omega
  · rw [hcharts.pageSize]
    exact hwhole
  · rw [hcharts.pageSize, hpage]
    exact hcharts.dvd_targetPage

/-- Patterns that cannot show anything are refused before anything is touched. -/
theorem programTarget_refuses {config : ValidatorConfig}
    (hvalue : Act.Ends P device.eraseValue layout.eraseValue P)
    (hsame : distinctPatterns config.firstPattern config.secondPattern layout.eraseValue = false) :
    Attempt.Ends P (programTarget device ⟨device⟩ config) (.error (.indistinctPatterns
      config.firstPattern config.secondPattern layout.eraseValue)) P := by
  unfold programTarget
  refine .bind (.lift hvalue) (.neg ?_ (.bind_error (.throw _)))
  rw [hsame]
  exact Bool.false_ne_true

/-- **The program step** touches the sector of the target page, unless that is reserved. -/
theorem programTarget_leads (hcharts : layout.Charts g) (htarget : layout.Target target)
    (h : device.Reports P g) (hvalue : Act.Ends P device.eraseValue layout.eraseValue P)
    {config : ValidatorConfig} {R : StepOutcome × Option ProgramTarget → σ → Prop}
    (hdistinct :
      distinctPatterns config.firstPattern config.secondPattern layout.eraseValue = true)
    (hskip : target.start < config.reservedEnd → ∀ s, P s →
      R (.skipped (.reserved target.start config.reservedEnd), none) s)
    (hfirst : ¬ target.start < config.reservedEnd → Attempt.Leads P
      (programPattern ⟨device⟩ target.start (Word.low32 layout.targetPage) layout.pageSize
        config.firstPattern) (fun _ => M) E S)
    (hsecond : ¬ target.start < config.reservedEnd → Attempt.Leads M
      (programPattern ⟨device⟩ target.start (Word.low32 layout.targetPage) layout.pageSize
        config.secondPattern) (fun _ => R (.passed, some (aim layout target))) E S) :
    Attempt.Leads P (programTarget device ⟨device⟩ config) R E S := by
  have hstop : Act.Ends P (Session.endAddress ⟨device⟩) layout.stop P :=
    hcharts.stop ▸ Session.endAddress_ends h
  have hstart : Act.Ends P device.startAddress layout.start P := hcharts.start ▸ h.startAddress
  have hpageSize : Act.Ends P device.pageSize layout.pageSize P := hcharts.pageSize ▸ h.pageSize
  have hsize : Act.Ends P (device.sectorSize (Word.low32 layout.targetPage)) target.size P :=
    hcharts.sectorSize_targetPage htarget ▸ h.sectorSize _
  unfold programTarget
  refine .bind_ends (.lift hvalue) (.ite (fun _ => ?_) fun hnot => absurd hdistinct hnot)
  refine .bind_ends (.lift hpageSize) (.bind_ends (.lift hstart) (.bind_ends (.lift hstop) ?_))
  simp only [hcharts.targetPage?_eq]
  refine .bind_ends (.lift hsize) ?_
  rw [hcharts.alignDown_targetPage htarget]
  refine .ite (fun hreserved => .pure _ (hskip hreserved)) fun hreserved => ?_
  refine .bind (hfirst hreserved) fun _ => .bind (hsecond hreserved) fun _ => ?_
  exact .pure _ fun _ hs => hs

/-! ## Verifying -/

/-- Where `bytes` hold the pattern in the target page and are erased in the rest of its sector. -/
def Programmed (layout : FlashLayout) (target : Sector) (pattern : UInt8) (bytes : Nat → UInt8) :
    Prop :=
  ∀ a, target.Covers a → bytes a =
    if layout.targetPage ≤ a ∧ a < layout.targetPage + layout.pageSize.toNat then pattern
    else layout.eraseValue

theorem Programmed.inside {pattern : UInt8} {a : Nat}
    (h : Programmed layout target pattern bytes) (hcharts : layout.Charts g)
    (htarget : layout.Target target) (hfirst : layout.targetPage ≤ a)
    (hlast : a < layout.targetPage + layout.pageSize.toNat) : bytes a = pattern := by
  have hin := hcharts.targetPage_le htarget
  have hstart := htarget.covers.1
  rw [h a ⟨by omega, by omega⟩, if_pos ⟨hfirst, hlast⟩]

/-- The page, what comes before it and what comes after it make up the sector. -/
theorem programmed_iff (hcharts : layout.Charts g) (htarget : layout.Target target)
    {pattern : UInt8} :
    Programmed layout target pattern bytes ↔
      (∀ a, layout.targetPage ≤ a → a < layout.targetPage + layout.pageSize.toNat →
        bytes a = pattern) ∧
      (∀ a, target.start.toNat ≤ a →
        a < target.start.toNat + (layout.targetPage - target.start.toNat) →
        bytes a = layout.eraseValue) ∧
      ∀ a, layout.targetPage + layout.pageSize.toNat ≤ a →
        a < layout.targetPage + layout.pageSize.toNat +
          (target.stop - (layout.targetPage + layout.pageSize.toNat)) →
        bytes a = layout.eraseValue := by
  have hin := hcharts.targetPage_le htarget
  have hstart := htarget.covers.1
  constructor
  · intro hprogrammed
    refine ⟨fun a hfirst hlast => ?_, fun a hfirst hlast => ?_, fun a hfirst hlast => ?_⟩
    · rw [hprogrammed a ⟨by omega, by omega⟩, if_pos ⟨hfirst, hlast⟩]
    · rw [hprogrammed a ⟨by omega, by omega⟩, if_neg (by omega)]
    · rw [hprogrammed a ⟨by omega, by omega⟩, if_neg (by omega)]
  · rintro ⟨hpage, hbefore, hafter⟩ a ⟨hfirst, hlast⟩
    by_cases hlow : layout.targetPage ≤ a
    · by_cases hhigh : a < layout.targetPage + layout.pageSize.toNat
      · rw [if_pos ⟨hlow, hhigh⟩, hpage a hlow hhigh]
      · rw [if_neg fun hboth => hhigh hboth.2, hafter a (by omega) (by omega)]
    · rw [if_neg fun hboth => hlow hboth.1, hbefore a hfirst (by omega)]

/-- The looks of the verify step: the page, what comes before it in its sector, and what comes after
it. -/
def verifyLooks (layout : FlashLayout) (target : Sector) (pattern : UInt8) (bytes : Nat → UInt8) :
    List Look :=
  let pageEnd := layout.targetPage + layout.pageSize.toNat
  [⟨bytes, Word.low32 layout.targetPage, layout.pageSize, pattern⟩,
    ⟨bytes, target.start, Word.low32 (layout.targetPage - target.start.toNat), layout.eraseValue⟩,
    ⟨bytes, Word.low32 pageEnd, Word.low32 (target.stop - pageEnd), layout.eraseValue⟩]

theorem verifyLooks_match_iff (hcharts : layout.Charts g) (htarget : layout.Target target)
    {pattern : UInt8} (hend : layout.targetPage + layout.pageSize.toNat < Word.span32) :
    (∀ look ∈ verifyLooks layout target pattern bytes, look.Matches) ↔
      Programmed layout target pattern bytes := by
  have hpageEnd : (Word.low32 (layout.targetPage + layout.pageSize.toNat)).toNat =
      layout.targetPage + layout.pageSize.toNat := Word.toNat_ofNat_of_lt hend
  rw [programmed_iff hcharts htarget, verifyLooks]
  simp only [List.forall_mem_cons, List.not_mem_nil, false_implies, implies_true, and_true,
    Look.Matches, hcharts.toNat_targetPage, hpageEnd, hcharts.toNat_before,
    hcharts.toNat_behind htarget]

section Verify

variable (hcharts : layout.Charts g) (h : device.Shows P layout g bytes)

include hcharts h

theorem verifyTarget_ends (htarget : layout.Target target) (pattern : UInt8)
    (hend : layout.targetPage + layout.pageSize.toNat < Word.span32) :
    Attempt.Ends P (verifyTarget device ⟨device⟩ pattern (aim layout target))
      (Look.verdicts (verifyLooks layout target pattern bytes)) P := by
  have hpageSize : Act.Ends P device.pageSize layout.pageSize P :=
    hcharts.pageSize ▸ h.reports.pageSize
  have hpage := hcharts.toNat_targetPage
  have hpaged := hcharts.paged
  have hbounds := hcharts.targetPage_bounds
  have hin := hcharts.targetPage_le htarget
  have hstart := htarget.covers.1
  obtain ⟨hlow, hhigh⟩ := hcharts.tiled.mem_bounds target htarget.mem
  have hpageEnd : (Word.low32 (layout.targetPage + layout.pageSize.toNat)).toNat =
      layout.targetPage + layout.pageSize.toNat := Word.toNat_ofNat_of_lt hend
  have hbefore := hcharts.toNat_before target
  have hbehind := hcharts.toNat_behind htarget
  have hminus : Word.minus (target.start.toNat + target.size.toNat)
      (layout.targetPage + layout.pageSize.toNat) =
        .ok (target.stop - (layout.targetPage + layout.pageSize.toNat)) := Word.minus_of_le hin
  have hfill {address len : UInt32} {expected : UInt8} (hfirst : layout.start.toNat ≤ address.toNat)
      (hlast : address.toNat + len.toNat ≤ layout.stop) :
      Attempt.Ends P (expectFill ⟨device⟩ address len expected) _ P :=
    expectFill_ends h hcharts hfirst hlast
  unfold verifyTarget
  refine .bind (.lift hpageSize) (.bind (.lift h.eraseValue) ?_)
  simp only [aim, hpage, Word.fit32_of_lt hend, Word.minus_of_le hstart]
  refine .bind (.checked _) (Look.ends_cons (hfill (by omega) (by omega)) (.bind (.checked _) ?_))
  refine Look.ends_cons (hfill hlow (by omega)) ?_
  have hfit : (UInt32.ofNat (layout.targetPage + layout.pageSize.toNat)).toNat =
      layout.targetPage + layout.pageSize.toNat := hpageEnd
  rw [hfit, hminus, Look.verdicts_singleton]
  exact .bind (.checked _) (hfill (by omega) (by omega))

/-- **The verify step** passes exactly on a sector that was programmed. -/
theorem verifyTarget_decides (htarget : layout.Target target) (pattern : UInt8)
    (hend : layout.targetPage + layout.pageSize.toNat < Word.span32) :
    Attempt.Decides P (verifyTarget device ⟨device⟩ pattern (aim layout target))
      fun _ => Programmed layout target pattern bytes :=
  ⟨_, verifyTarget_ends hcharts h htarget pattern hend, fun _ =>
    Look.verdicts_eq_ok_iff.trans (verifyLooks_match_iff hcharts htarget hend)⟩

/-- The end of a page that reaches the top of the address space is no word. -/
theorem verifyTarget_stops (target : Sector) (pattern : UInt8)
    (hend : Word.span32 ≤ layout.targetPage + layout.pageSize.toNat) :
    Attempt.Leads P (verifyTarget device ⟨device⟩ pattern (aim layout target))
      (fun _ _ => False) (fun _ _ => False) (fun fault s => fault = .arithmetic ∧ P s) := by
  have hpageSize : Act.Ends P device.pageSize layout.pageSize P :=
    hcharts.pageSize ▸ h.reports.pageSize
  unfold verifyTarget
  refine .bind_ends (.lift hpageSize) (.bind_ends (.lift h.eraseValue) ?_)
  rw [aim, hcharts.toNat_targetPage, Word.fit32_of_le hend]
  exact .checked_bind (fun _ heq => nomatch heq) fun fault heq s hs =>
    ⟨(Except.error.inj heq).symm, hs⟩

end Verify

/-! ## Steps as a whole

A step may also find that there is no session. A fault inside it ends the session first. -/

section Whole

variable {validator : Validator} {S' : Fault → σ → Prop}
  (hnone : validator.holdsSession = false → ∀ s, P s → E (.flash .initFailure) s)
  (hdrop : ∀ fault, Act.Leads (S' fault) (Session.drop ⟨device⟩) (fun _ => S fault) S)

include hnone hdrop

theorem eraseStep_leads {R : StepOutcome → σ → Prop}
    (h : Attempt.Leads P (eraseLastSector device ⟨device⟩ validator.config.reservedEnd) R E S') :
    Act.Leads P (validator.eraseStep device)
      (fun result s => match result.1 with
        | .ok outcome => result.2 = validator ∧ R outcome s
        | .error error => result.2 = validator ∧ E error s) S := by
  refine leavingUnchanged_leads (Q := fun result s => result.2 = validator ∧ R result.1 s)
    (session_leads hnone ?_)
  exact (Session.guarding_leads h hdrop).bind fun _ => .pure _ fun _ hs => ⟨rfl, hs⟩

theorem programStep_leads {R : StepOutcome × Option ProgramTarget → σ → Prop}
    (h : Attempt.Leads P (programTarget device ⟨device⟩ validator.config) R E S') :
    Act.Leads P (validator.programStep device)
      (fun result s => match result.1 with
        | .ok outcome => ∃ target, result.2 = { validator with target } ∧ R (outcome, target) s
        | .error error => result.2 = validator ∧ E error s) S := by
  refine leavingUnchanged_leads
    (Q := fun result s => ∃ target, result.2 = { validator with target } ∧ R (result.1, target) s)
    (session_leads hnone ?_)
  exact (Session.guarding_leads h hdrop).bind fun _ => .pure _ fun _ hs => ⟨_, rfl, hs⟩

/-- A refused release is an error as well, and the session is over then. -/
theorem verifyStep_leads {R T : StepOutcome → σ → Prop} {F : ValidationError → σ → Prop}
    (h : Attempt.Leads P (verifyProgrammed device ⟨device⟩ validator) R E S')
    (hfree : ∀ outcome, Attempt.Leads (R outcome) (Session.free ⟨device⟩) (fun _ => T outcome)
      (fun error => F (.flash error)) S) :
    Act.Leads P (validator.verifyStep device)
      (fun result s => match result.1 with
        | .ok outcome => result.2 = { validator with holdsSession := false } ∧ T outcome s
        | .error error => (result.2 = validator ∧ E error s) ∨
            (result.2 = { validator with holdsSession := false } ∧ F error s)) S := by
  unfold verifyStep
  refine .ite (fun hnot => .pure _ fun s hs => .inl ⟨rfl, hnone ?_ s hs⟩) fun _ => ?_
  · simpa using hnot
  refine .bind (Session.guarding_leads h hdrop) fun outcome => ?_
  cases outcome with
  | error error => exact .pure _ fun _ hs => .inl ⟨rfl, hs⟩
  | ok outcome =>
      refine .bind (hfree outcome) fun released => ?_
      cases released with
      | error error => exact .pure _ fun _ hs => .inr ⟨rfl, hs⟩
      | ok => exact .pure _ fun _ hs => ⟨rfl, hs⟩

end Whole

end Validator

end FlashBench
