import FlashBench.Proofs.Part.Layout
import FlashBench.Validation.Validator

/-!
# What a run aims at

A run erases the last sector of the window and programs a page just below its end: the second to
last one, or the only one there is. Pages divide sectors and sectors divide their starts, so the page
lies in one sector, which need not be the last one when sectors are as small as a page.
-/

namespace FlashBench.FlashLayout

variable {layout : FlashLayout} {g : Geometry} {sector last : Sector}

/-- The page that a run programs: the second to last one, or the only one. -/
def targetPage (layout : FlashLayout) : Nat :=
  if layout.start.toNat + 2 * layout.pageSize.toNat ≤ layout.stop then
    layout.stop - 2 * layout.pageSize.toNat
  else layout.start.toNat

/-- The sector ends where the window does. -/
structure Last (layout : FlashLayout) (sector : Sector) : Prop where
  mem : sector ∈ layout.sectorList
  stop : sector.stop = layout.stop

/-- The sector holds the target page. -/
structure Target (layout : FlashLayout) (sector : Sector) : Prop where
  mem : sector ∈ layout.sectorList
  covers : sector.Covers layout.targetPage

theorem Last.low32_start (h : layout.Last sector) :
    Word.low32 (layout.stop - sector.size.toNat) = sector.start := by
  have hstop := h.stop
  unfold Sector.stop at hstop
  rw [← hstop, Nat.add_sub_cancel]
  exact Word.low32_toNat _

namespace Charts

variable (h : layout.Charts g)

include h

/-! ## Pages and sectors -/

theorem dvd_stop (hmem : sector ∈ layout.sectorList) :
    layout.pageSize.toNat ∣ sector.stop :=
  h.pageSize ▸ (h.admits sector hmem).dvd_stop

theorem exists_last : ∃ sector, layout.Last sector := by
  obtain ⟨sector, hmem, hstop⟩ := h.tiled.exists_last h.filled
  exact ⟨sector, hmem, hstop⟩

theorem dvd_layout_start : layout.pageSize.toNat ∣ layout.start.toNat :=
  h.pageSize ▸ h.start ▸ h.tiles.dvd_start

theorem dvd_layout_stop : layout.pageSize.toNat ∣ layout.stop :=
  h.pageSize ▸ h.stop ▸ h.tiles.dvd_stop

/-- The window holds a page. -/
theorem page_le : layout.start.toNat + layout.pageSize.toNat ≤ layout.stop :=
  h.pageSize ▸ h.start ▸ h.stop ▸ h.tiles.page_le

/-- A window without room for two pages holds one page. -/
theorem stop_of_one_page (hone : ¬ layout.start.toNat + 2 * layout.pageSize.toNat ≤ layout.stop) :
    layout.stop = layout.start.toNat + layout.pageSize.toNat := by
  have hpage := h.page_le
  -- the bytes behind the first page are whole pages, and less than one
  have hdvd : layout.pageSize.toNat ∣
      layout.stop - (layout.start.toNat + layout.pageSize.toNat) :=
    Nat.dvd_sub h.dvd_layout_stop (Nat.dvd_add h.dvd_layout_start (Nat.dvd_refl _))
  have hzero := Nat.eq_zero_of_dvd_of_lt hdvd (by omega)
  omega

/-! ## The target page -/

theorem targetPage?_eq :
    Validator.targetPage? layout.start.toNat layout.stop layout.pageSize.toNat =
      some layout.targetPage := by
  have hpage := h.page_le
  unfold Validator.targetPage? targetPage
  by_cases htwo : layout.start.toNat + 2 * layout.pageSize.toNat ≤ layout.stop
  · rw [if_pos htwo, if_pos htwo]
  · have hstop := h.stop_of_one_page htwo
    rw [if_neg htwo, if_neg htwo, if_pos hpage, hstop, Nat.add_sub_cancel]

theorem targetPage_bounds : layout.start.toNat ≤ layout.targetPage ∧
    layout.targetPage + layout.pageSize.toNat ≤ layout.stop := by
  have hpage := h.page_le
  unfold targetPage
  split <;> omega

theorem dvd_targetPage : layout.pageSize.toNat ∣ layout.targetPage := by
  unfold targetPage
  split
  · exact Nat.dvd_sub h.dvd_layout_stop (Nat.dvd_mul_left _ _)
  · exact h.dvd_layout_start

theorem toNat_targetPage : (Word.low32 layout.targetPage).toNat = layout.targetPage := by
  have hbounds := h.targetPage_bounds
  have hpaged := h.paged
  have htop := h.top
  exact Word.toNat_ofNat_of_lt (by omega)

theorem exists_target : ∃ sector, layout.Target sector := by
  have hbounds := h.targetPage_bounds
  have hpaged := h.paged
  obtain ⟨sector, hmem, hcovers⟩ := h.tiled.exists_covers hbounds.1 (by omega)
  exact ⟨sector, hmem, hcovers⟩

/-- The whole page lies in its sector. -/
theorem targetPage_le (htarget : layout.Target sector) :
    layout.targetPage + layout.pageSize.toNat ≤ sector.stop := by
  have hcovers := htarget.covers.2
  have hdvd := Nat.dvd_sub (h.dvd_stop htarget.mem) h.dvd_targetPage
  have hle := Nat.le_of_dvd (by omega) hdvd
  omega

/-- What comes before the page in its sector is shorter than the address space. -/
theorem toNat_before (sector : Sector) :
    (Word.low32 (layout.targetPage - sector.start.toNat)).toNat =
      layout.targetPage - sector.start.toNat := by
  have hbounds := h.targetPage_bounds
  have hpaged := h.paged
  have htop := h.top
  exact Word.toNat_ofNat_of_lt (by omega)

/-- So is what comes behind it. -/
theorem toNat_behind (htarget : layout.Target sector) :
    (Word.low32 (sector.stop - (layout.targetPage + layout.pageSize.toNat))).toNat =
      sector.stop - (layout.targetPage + layout.pageSize.toNat) := by
  have hstop := (h.tiled.mem_bounds sector htarget.mem).2
  have hbounds := h.targetPage_bounds
  have hpaged := h.paged
  have htop := h.top
  exact Word.toNat_ofNat_of_lt (by omega)

theorem sectorSize_targetPage (htarget : layout.Target sector) :
    g.sectorSize (Word.low32 layout.targetPage) = sector.size :=
  h.covered sector htarget.mem _ (h.toNat_targetPage.symm ▸ htarget.covers)

/-- Aligning the page down to the size of its sector gives the start of the sector. -/
theorem alignDown_targetPage (htarget : layout.Target sector) :
    alignDown (Word.low32 layout.targetPage) sector.size = sector.start := by
  have hadmits := h.admits sector htarget.mem
  have hcovers : sector.Covers (Word.low32 layout.targetPage).toNat :=
    h.toNat_targetPage.symm ▸ htarget.covers
  exact hcovers.alignDown_eq hadmits.nonempty hadmits.aligned

/-- The end of the page is a word unless the only page ends with the address space. -/
theorem targetPage_end_lt (hroom : layout.stop < Word.span32 ∨
    layout.start.toNat + 2 * layout.pageSize.toNat ≤ layout.stop) :
    layout.targetPage + layout.pageSize.toNat < Word.span32 := by
  have hpaged := h.paged
  have htop := h.top
  have hbounds := h.targetPage_bounds
  by_cases htwo : layout.start.toNat + 2 * layout.pageSize.toNat ≤ layout.stop
  · rw [targetPage, if_pos htwo]
    omega
  · have hstop := hroom.resolve_right htwo
    omega

/-- The sector of the only page starts where the part does. -/
theorem start_of_one_page (htarget : layout.Target sector)
    (hone : ¬ layout.start.toNat + 2 * layout.pageSize.toNat ≤ layout.stop) :
    sector.start = layout.start := by
  have hfirst := (h.tiled.mem_bounds sector htarget.mem).1
  have hcovers := htarget.covers.1
  rw [targetPage, if_neg hone] at hcovers
  exact UInt32.toNat_inj.mp (by omega)

/-! ## The last sector -/

theorem sectorSize_last (hlast : layout.Last sector) :
    g.sectorSize (Word.low32 (layout.stop - 1)) = sector.size := by
  have hfilled := h.filled
  have htop := h.top
  have hnonempty := (Word.ne_zero_iff _).mp (h.admits sector hlast.mem).nonempty
  have hstop := hlast.stop
  unfold Sector.stop at hstop
  apply h.covered sector hlast.mem
  unfold Sector.Covers Sector.stop Word.low32
  rw [Word.toNat_ofNat_of_lt (by omega)]
  omega

/-- The sector of the target page starts no later than the last one. -/
theorem target_le_last (hlast : layout.Last last) (htarget : layout.Target sector) :
    sector.start.toNat ≤ last.start.toNat := by
  refine Nat.le_of_not_lt fun hbehind => ?_
  have hcovers := htarget.covers
  have hstop := (h.tiled.mem_bounds sector htarget.mem).2
  have hend := hlast.stop
  unfold Sector.Covers at hcovers
  -- it would start inside the last sector, whose size is then its own
  have hinside : last.Covers sector.start.toNat := ⟨by omega, by omega⟩
  have hown : sector.Covers sector.start.toNat := ⟨Nat.le_refl _, by omega⟩
  have hsize : last.size = sector.size :=
    (h.covered last hlast.mem _ hinside).symm.trans (h.covered sector htarget.mem _ hown)
  have hstart := hinside.eq_start (h.admits last hlast.mem).aligned
    (hsize ▸ (h.admits sector htarget.mem).aligned)
  omega

end Charts

end FlashBench.FlashLayout
