import FlashBench.Proofs.Part.Aside
import FlashBench.Proofs.Validation.Steps

/-!
# The looks of a run

The flash steps of a run erase and program, and look at the medium in between: six times at most, in
three steps. On the driver, and on a device that stands in for it but erases or shows bytes in a way
of its own (`Plan.StandIn`), what there is to be seen is known each time (`Plan.looks`). So each
flash step has one of two ends. Either all its looks match, and the bytes it has left are known, or
it fails with an error that names a byte of a look that differs.

There is a third end. When the only page of a part ends at the top of the address space
(`Plan.Overflows`), the end of the page is no word, and the verify step stops with a fault before it
looks.

Bytes that were erased take every pattern, so on the driver itself every look matches
(`Plan.faithful_matches`).
-/

namespace FlashBench

namespace Validator

/-- What is noted down on a step that touches `sector`. -/
def onSector (sector : Sector) (reservedEnd : UInt32) : StepOutcome :=
  if sector.start < reservedEnd then .skipped (.reserved sector.start reservedEnd) else .passed

/-- What is noted down on the verify step, `target` being the sector of the target page. -/
def onVerify (target : Sector) (reservedEnd : UInt32) : StepOutcome :=
  if target.start < reservedEnd then .skipped .nothingProgrammed else .passed

end Validator

/-- How a device departs from its driver: what an erase makes of the bytes, and what is shown of
them. -/
structure View where
  wiped : Sector → (Nat → UInt8) → Nat → UInt8
  shown : (Nat → UInt8) → Nat → UInt8

namespace Plan

variable {g : Geometry} {K : Rig → Prop} {device : Device Rig} {pattern : UInt8}
  {bytes : Nat → UInt8} {v : Validator}

open Validator

/-! ## What there is to be seen -/

section Bytes

variable (plan : Plan) (view : View)

/-- What is noted down on a step before the drift check. -/
def verdict (plan : Plan) : Step → StepOutcome
  | .erase => onSector plan.last plan.config.reservedEnd
  | .program => onSector plan.target plan.config.reservedEnd
  | .verify => onVerify plan.target plan.config.reservedEnd
  | _ => .passed

/-- The bytes after the erase step. -/
def afterErase : Nat → UInt8 :=
  if plan.last.start < plan.config.reservedEnd then plan.before
  else view.wiped plan.last plan.before

/-- The bytes once the sector of the target page was erased and the page programmed. -/
def withPattern (pattern : UInt8) (bytes : Nat → UInt8) : Nat → UInt8 :=
  let erased := view.wiped plan.target bytes
  Memory.patch erased plan.layout.targetPage plan.layout.pageSize.toNat fun a =>
    Memory.programmedByte plan.layout.eraseValue (erased a) pattern

theorem withPattern_inside {a : Nat} (hfirst : plan.layout.targetPage ≤ a)
    (hlast : a < plan.layout.targetPage + plan.layout.pageSize.toNat) :
    plan.withPattern view pattern bytes a =
      Memory.programmedByte plan.layout.eraseValue (view.wiped plan.target bytes a) pattern := by
  unfold withPattern
  exact Memory.patch_inside ⟨hfirst, hlast⟩

theorem withPattern_outside {a : Nat} (hout : ¬ (plan.layout.targetPage ≤ a ∧
    a < plan.layout.targetPage + plan.layout.pageSize.toNat)) :
    plan.withPattern view pattern bytes a = view.wiped plan.target bytes a := by
  unfold withPattern
  exact Memory.patch_outside hout

/-- The bytes after both patterns. -/
def afterPatterns : Nat → UInt8 :=
  plan.withPattern view plan.config.secondPattern
    (plan.withPattern view plan.config.firstPattern (plan.afterErase view))

/-- The bytes after the program step. -/
def afterProgram : Nat → UInt8 :=
  if plan.target.start < plan.config.reservedEnd then plan.afterErase view
  else plan.afterPatterns view

/-- The look at the target page after it was programmed. -/
def pageLook (pattern : UInt8) (bytes : Nat → UInt8) : Look where
  bytes := view.shown bytes
  address := Word.low32 plan.layout.targetPage
  len := plan.layout.pageSize
  expected := pattern

/-- The looks of a step. -/
def looks : Step → List Look
  | .erase =>
    if plan.last.start < plan.config.reservedEnd then []
    else [⟨view.shown (plan.afterErase view), plan.last.start, plan.last.size,
      plan.layout.eraseValue⟩]
  | .program =>
    if plan.target.start < plan.config.reservedEnd then []
    else
      let first := plan.withPattern view plan.config.firstPattern (plan.afterErase view)
      [plan.pageLook view plan.config.firstPattern first,
        plan.pageLook view plan.config.secondPattern (plan.afterPatterns view)]
  | .verify =>
    if plan.target.start < plan.config.reservedEnd ∨
        Word.span32 ≤ plan.layout.targetPage + plan.layout.pageSize.toNat then []
    else verifyLooks plan.layout plan.target plan.config.secondPattern
      (view.shown (plan.afterPatterns view))
  | _ => []

/-- Where the program step aims, if it does. -/
def aimed : Option ProgramTarget :=
  if plan.target.start < plan.config.reservedEnd then none
  else some (aim plan.layout plan.target)

/-- The end of the target page is no word, and it is asked for. -/
def Overflows : Prop :=
  Word.span32 ≤ plan.layout.targetPage + plan.layout.pageSize.toNat ∧
    ¬ plan.target.start < plan.config.reservedEnd

/-- A device that is the driver but for its erases and for what it shows. Its erases break nothing of
`K`, what is known of the rig besides the part. -/
structure StandIn (g : Geometry) (K : Rig → Prop) (device : Device Rig) : Prop where
  init : device.init = Rig.device.init
  free : device.free = Rig.device.free
  programPage : device.programPage = Rig.device.programPage
  driven : Rig.Driven K
  shows : ∀ K bytes,
    device.Shows (Rig.InOrder plan.layout K bytes) plan.layout g (view.shown bytes)
  erases : ∀ bytes, ∀ sector ∈ plan.layout.sectorList,
    Attempt.Ends (Rig.InOrder plan.layout K bytes) (device.eraseSector sector.start) (.ok ())
      (Rig.InOrder plan.layout K (view.wiped sector bytes))

end Bytes

/-! ## The flash steps -/

section Steps

variable {plan : Plan} {view : View} (hcharts : plan.layout.Charts g)
  (h : plan.StandIn view g K device)

include hcharts h

theorem erase_looks :
    Attempt.Leads (Rig.InOrder plan.layout K plan.before)
      (eraseLastSector device ⟨device⟩ plan.config.reservedEnd)
      (fun outcome rig => (∀ look ∈ plan.looks view .erase, look.Matches) ∧
        outcome = plan.verdict .erase ∧
        Rig.InOrder plan.layout K (plan.afterErase view) rig)
      (fun error _ => ∃ look ∈ plan.looks view .erase, look.Differs error) fun _ _ => False := by
  have hbounds := hcharts.tiled.mem_bounds plan.last plan.isLast.mem
  have hshows := h.shows K (plan.afterErase view)
  refine eraseLastSector_leads (M := Rig.InOrder plan.layout K (plan.afterErase view)) hcharts
    plan.isLast (h.shows K plan.before).reports (fun hreserved rig hrig => ?_)
    (fun hfree => ?_) hshows.eraseValue fun hfree => ?_
  · rw [looks, if_pos hreserved, afterErase, if_pos hreserved]
    exact ⟨List.forall_mem_nil _, (if_pos hreserved).symm, hrig⟩
  · rw [afterErase, if_neg hfree]
    exact .of_ok (h.erases _ _ plan.isLast.mem) fun _ hrig => hrig
  · rw [looks, if_neg hfree]
    refine (expectFill_looks ⟨_, _, _, _⟩ hshows hcharts hbounds.1 hbounds.2).mono
      (fun _ hrig => hrig) (fun _ rig hs => ?_) (fun _ _ hs => ⟨_, List.mem_singleton_self _, hs.1⟩)
      fun _ _ hs => hs
    exact ⟨List.forall_mem_singleton.mpr hs.1, (if_neg hfree).symm, hs.2⟩

/-- One pattern, whatever stood there. -/
theorem programPattern_looks (pattern : UInt8) (bytes : Nat → UInt8) :
    Attempt.Leads (Rig.InOrder plan.layout K bytes)
      (programPattern ⟨device⟩ plan.target.start (Word.low32 plan.layout.targetPage)
        plan.layout.pageSize pattern)
      (fun _ rig => (plan.pageLook view pattern (plan.withPattern view pattern bytes)).Matches ∧
        Rig.InOrder plan.layout K (plan.withPattern view pattern bytes) rig)
      (fun error _ =>
        (plan.pageLook view pattern (plan.withPattern view pattern bytes)).Differs error)
      fun _ _ => False := by
  let erased := view.wiped plan.target bytes
  let written := plan.withPattern view pattern bytes
  have hpage := hcharts.toNat_targetPage
  have hbounds := hcharts.targetPage_bounds
  have hsize := Memory.size_filled plan.layout.pageSize.toNat pattern
  have hprogram : Attempt.Ends (Rig.InOrder plan.layout K erased)
      (device.programPage (Word.low32 plan.layout.targetPage)
        (Memory.filled plan.layout.pageSize.toNat pattern)) (.ok ())
      (Rig.InOrder plan.layout K written) := by
    -- the page is one whole page inside the window
    have hends : Attempt.Ends (Rig.InOrder plan.layout K erased) _ _ _ := Rig.programPage_inOrder h.driven
      (Memory.filled plan.layout.pageSize.toNat pattern) hcharts.top hcharts.paged
      (hpage.symm ▸ hcharts.dvd_targetPage) (hsize.symm ▸ Nat.dvd_refl _)
      (hpage.symm ▸ hbounds.1) (by rw [hpage, hsize]; exact hbounds.2)
    rw [hpage, hsize, Memory.patch_filled] at hends
    rw [h.programPage]
    exact hends
  have hfill : Attempt.Leads (Rig.InOrder plan.layout K written) _ _ _ fun _ _ => False :=
    expectFill_looks (plan.pageLook view pattern written) (h.shows K written) hcharts
      (hpage.symm ▸ hbounds.1) (hpage.symm ▸ hbounds.2)
  -- erase, program and read back, each from where the one before it has led
  refine programPattern_leads hcharts plan.isTarget (h.shows K bytes).reports
    (h.shows K erased).reports (.of_ok (h.erases _ _ plan.isTarget.mem) fun _ hrig => hrig)
    (.of_ok hprogram fun _ hrig => hrig) (hfill.on_refusal fun _ _ hs => hs.1)

theorem program_looks
    (hdistinct : distinctPatterns plan.config.firstPattern plan.config.secondPattern
      plan.layout.eraseValue = true) :
    Attempt.Leads (Rig.InOrder plan.layout K (plan.afterErase view))
      (programTarget device ⟨device⟩ plan.config)
      (fun result rig => (∀ look ∈ plan.looks view .program, look.Matches) ∧
        result = (plan.verdict .program, plan.aimed) ∧
        Rig.InOrder plan.layout K (plan.afterProgram view) rig)
      (fun error _ => ∃ look ∈ plan.looks view .program, look.Differs error)
      fun _ _ => False := by
  have hshows := h.shows K (plan.afterErase view)
  have hpattern := programPattern_looks hcharts h
  let first := plan.withPattern view plan.config.firstPattern (plan.afterErase view)
  refine programTarget_leads (M := fun rig =>
      (plan.pageLook view plan.config.firstPattern first).Matches ∧
        Rig.InOrder plan.layout K first rig)
    hcharts plan.isTarget hshows.reports hshows.eraseValue hdistinct (fun hreserved rig hrig => ?_)
    (fun hfree => ?_) fun hfree => ?_
  · rw [looks, aimed, afterProgram, if_pos hreserved, if_pos hreserved, if_pos hreserved]
    exact ⟨List.forall_mem_nil _, Prod.ext (if_pos hreserved).symm rfl, hrig⟩
  · rw [looks, if_neg hfree]
    exact (hpattern plan.config.firstPattern _).on_refusal fun _ _ hs =>
      ⟨_, List.mem_cons_self, hs⟩
  · rw [looks, aimed, afterProgram, if_neg hfree, if_neg hfree, if_neg hfree]
    refine Act.Leads.of_and fun hfirst => ?_
    refine (hpattern plan.config.secondPattern _).mono (fun _ hrig => hrig)
      (fun _ rig hs => ⟨?_, Prod.ext (if_neg hfree).symm rfl, hs.2⟩)
      (fun _ _ hs => ⟨_, List.mem_cons_of_mem _ (List.mem_singleton_self _), hs⟩) fun _ _ hs => hs
    exact List.forall_mem_cons.mpr ⟨hfirst, List.forall_mem_singleton.mpr hs.1⟩

theorem verify_looks (hconfig : v.config = plan.config) (htarget : v.target = plan.aimed) :
    Attempt.Leads (Rig.InOrder plan.layout K (plan.afterProgram view))
      (verifyProgrammed device ⟨device⟩ v)
      (fun outcome rig => ((∀ look ∈ plan.looks view .verify, look.Matches) ∧ ¬ plan.Overflows) ∧
        outcome = plan.verdict .verify ∧
        Rig.InOrder plan.layout K (plan.afterProgram view) rig)
      (fun error _ => ∃ look ∈ plan.looks view .verify, look.Differs error)
      fun fault _ => fault = .arithmetic ∧ plan.Overflows := by
  unfold verifyProgrammed
  rw [htarget, hconfig, looks, aimed, afterProgram]
  by_cases hreserved : plan.target.start < plan.config.reservedEnd
  · have hnone : plan.target.start < plan.config.reservedEnd ∨
        Word.span32 ≤ plan.layout.targetPage + plan.layout.pageSize.toNat := .inl hreserved
    rw [if_pos hnone, if_pos hreserved, if_pos hreserved]
    exact .pure _ fun _ hrig => ⟨⟨List.forall_mem_nil _, fun hover => hover.2 hreserved⟩,
      (if_pos hreserved).symm, hrig⟩
  have hshows := h.shows K (plan.afterPatterns view)
  rw [if_neg hreserved, if_neg hreserved]
  rcases Nat.lt_or_ge (plan.layout.targetPage + plan.layout.pageSize.toNat) Word.span32 with
    hend | hend
  · rw [if_neg (not_or.mpr ⟨hreserved, Nat.not_le.mpr hend⟩)]
    have hverify : Attempt.Leads _ _ _ _ fun fault _ =>
        fault = Fault.arithmetic ∧ plan.Overflows := Look.leads
      (verifyTarget_ends hcharts hshows plan.isTarget plan.config.secondPattern hend)
    refine (hverify.on_refusal fun _ _ hs => hs.1).bind fun _ => .pure _ fun _ hs => ?_
    exact ⟨⟨hs.1, fun hover => Nat.not_le.mpr hend hover.1⟩, (if_neg hreserved).symm, hs.2⟩
  · have hstops := verifyTarget_stops hcharts hshows plan.target plan.config.secondPattern hend
    exact (hstops.mono (fun _ hs => hs) (fun _ _ hs => hs) (fun _ _ hs => hs.elim)
      fun _ _ hs => ⟨hs.1, hend, hreserved⟩).bind fun _ => .absurd

end Steps

/-! ## The driver itself -/

section Faithful

variable {plan : Plan} (hcharts : plan.layout.Charts g)

/-- Erases leave the erase value, and bytes are shown as they are. -/
def faithful (plan : Plan) : View where
  wiped sector bytes :=
    Memory.patch bytes sector.start.toNat sector.size.toNat fun _ => plan.layout.eraseValue
  shown bytes := bytes

theorem standIn_device (hanswers : Rig.Answers plan.layout g) (hK : Rig.Driven K) :
    plan.StandIn plan.faithful g K Rig.device where
  init := rfl
  free := rfl
  programPage := rfl
  driven := hK
  shows := fun _ _ =>
    Rig.device_shows (hanswers _ fun _ hrig => hrig.holds.on) fun _ hrig => hrig.holds
  erases := fun _ _ hmem => Rig.eraseSector_inOrder hK plan.valid hmem

/-- A sector that was erased takes every pattern. -/
theorem programmed_withPattern (pattern : UInt8) (bytes : Nat → UInt8) :
    Programmed plan.layout plan.target pattern (plan.withPattern plan.faithful pattern bytes) := by
  intro a hcovers
  have herased : plan.faithful.wiped plan.target bytes a = plan.layout.eraseValue := by
    simp only [faithful]
    exact Memory.patch_inside hcovers
  by_cases hin : plan.layout.targetPage ≤ a ∧
      a < plan.layout.targetPage + plan.layout.pageSize.toNat
  · rw [if_pos hin, withPattern_inside plan _ hin.1 hin.2, herased, Memory.programmedByte_erased]
  · rw [if_neg hin, withPattern_outside plan _ hin, herased]

include hcharts

theorem faithful_pageLook (pattern : UInt8) (bytes : Nat → UInt8) :
    (plan.pageLook plan.faithful pattern
      (plan.withPattern plan.faithful pattern bytes)).Matches := by
  intro a hfirst hlast
  rw [pageLook, hcharts.toNat_targetPage] at hfirst hlast
  exact (programmed_withPattern pattern bytes).inside hcharts plan.isTarget hfirst hlast

/-- **On the driver itself every look matches.** -/
theorem faithful_matches (step : Step) : ∀ look ∈ plan.looks plan.faithful step, look.Matches := by
  cases step with
  | init | geometryCheck | driftCheck => exact List.forall_mem_nil _
  | erase =>
      unfold looks
      by_cases hreserved : plan.last.start < plan.config.reservedEnd
      · rw [if_pos hreserved]
        exact List.forall_mem_nil _
      · rw [if_neg hreserved, afterErase, if_neg hreserved]
        refine List.forall_mem_singleton.mpr fun a hfirst hlast => ?_
        simp only [faithful]
        exact Memory.patch_inside ⟨hfirst, hlast⟩
  | program =>
      unfold looks
      by_cases hreserved : plan.target.start < plan.config.reservedEnd
      · rw [if_pos hreserved]
        exact List.forall_mem_nil _
      · rw [if_neg hreserved]
        exact List.forall_mem_cons.mpr ⟨faithful_pageLook hcharts _ _,
          List.forall_mem_singleton.mpr (faithful_pageLook hcharts _ _)⟩
  | verify =>
      unfold looks
      by_cases hnone : plan.target.start < plan.config.reservedEnd ∨
          Word.span32 ≤ plan.layout.targetPage + plan.layout.pageSize.toNat
      · rw [if_pos hnone]
        exact List.forall_mem_nil _
      · rw [if_neg hnone]
        exact (verifyLooks_match_iff hcharts plan.isTarget
          (Nat.not_le.mp fun hend => hnone (.inr hend))).mpr (programmed_withPattern _ _)

end Faithful

end Plan

end FlashBench
