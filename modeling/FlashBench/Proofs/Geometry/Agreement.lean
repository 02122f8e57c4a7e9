import FlashBench.Proofs.Geometry.Check
import FlashBench.Proofs.Geometry.SectorMap
import Mathlib.Algebra.GroupWithZero.Nat

/-!
# The two geometry checks agree

`SectorMap.validate` judges a description of a part, `checkGeometry` walks a device. A device that
answers from a map the first one accepts passes the second one, and the report counts what the
description says (`checkGeometry_ok_of_validate`).
-/

namespace FlashBench

/-! ## Devices of given answers -/

/-- A device that answers questions about its geometry and does nothing else. -/
def Geometry.device (g : Geometry) : Device Unit where
  init := pure ()
  free := pure ()
  pageSize := pure g.pageSize
  startAddress := pure g.start
  size := pure g.size
  sectorSize address := pure (g.sectorSize address)
  eraseValue := pure defaultEraseValue
  eraseSector _ := throw .deviceFault
  programPage _ _ := throw .deviceFault
  read _ _ := throw .deviceFault

theorem Geometry.device_reports (g : Geometry) : g.device.Reports (fun _ => True) g where
  pageSize := .pure _
  startAddress := .pure _
  size := .pure _
  sectorSize _ := .pure _

namespace SectorMap

variable {pageSize : UInt32} {map : SectorMap}

/-! ## The tiling -/

theorem Valid.fenced (h : map.Valid pageSize) :
    (map.geometry pageSize (UInt32.ofNat (map.stop - map.start.toNat))).Fenced where
  before hstart := by
    change map.start ≠ 0 at hstart
    have hpos := (Word.ne_zero_iff _).mp hstart
    refine h.sectorSize_outside (.inl ?_)
    show (map.start - 1).toNat < map.start.toNat
    rw [Word.toNat_pred hstart]
    exact Nat.sub_lt hpos Nat.one_pos
  after hstop := by
    rw [h.geometry_stop] at hstop ⊢
    exact h.sectorSize_outside (.inr (Nat.le_of_eq (Word.toNat_ofNat_of_lt hstop).symm))

/-- A device of a valid map is tiled by the sectors of the map. -/
theorem Valid.tiled (h : map.Valid pageSize) :
    (map.geometry pageSize (UInt32.ofNat (map.stop - map.start.toNat))).Tiled map.sectors where
  pageSize := h.paged
  size := by
    show 0 < (UInt32.ofNat (map.stop - map.start.toNat)).toNat
    rw [h.toNat_size]
    exact Nat.sub_pos_of_lt h.start_lt_stop
  abut := by
    rw [h.geometry_stop]
    exact h.sectors_abut
  admits := fun _ hmem => h.admits _ hmem
  fenced := h.fenced

/-! ## The report -/

theorem length_sectors (map : SectorMap) :
    map.sectors.length = (map.regions.toList.map (·.count.toNat)).sum := by
  simp [sectors, List.length_flatMap, SectorRegion.length_sectors]

theorem foldlM_fit32 (regions : List SectorRegion) (total : UInt32)
    (hfits : total.toNat + (regions.map (·.count.toNat)).sum < Word.span32) :
    regions.foldlM (fun total region => Word.fit32 (total.toNat + region.count.toNat)) total =
      .ok (UInt32.ofNat (total.toNat + (regions.map (·.count.toNat)).sum)) := by
  induction regions generalizing total with
  | nil => simp [pure, Except.pure]
  | cons region rest ih =>
      rw [List.map_cons, List.sum_cons, ← Nat.add_assoc] at hfits ⊢
      have hnext : total.toNat + region.count.toNat < Word.span32 := by omega
      have hrest := ih (UInt32.ofNat (total.toNat + region.count.toNat))
        (by rwa [Word.toNat_ofNat_of_lt hnext])
      rw [Word.toNat_ofNat_of_lt hnext] at hrest
      rw [List.foldlM_cons, Word.fit32_of_lt hnext]
      exact hrest

/-- The sectors of a valid map can be counted in a word, since each takes at least one byte. -/
theorem Valid.length_lt (h : map.Valid pageSize) : map.sectors.length < Word.span32 := by
  have hsize : ∀ sector ∈ map.sectors, sector.size ≠ 0 :=
    fun sector hmem => (h.admits 0 hmem).nonempty
  have hlength := h.sectors_abut.path.length_le hsize
  have hspan := h.span
  omega

theorem Valid.sectorCount_eq (h : map.Valid pageSize) :
    map.sectorCount = .ok (UInt32.ofNat map.sectors.length) := by
  have hlength := h.length_lt
  rw [length_sectors] at hlength ⊢
  unfold sectorCount
  rw [← Array.foldlM_toList, foldlM_fit32 _ 0 (by simpa using hlength)]
  simp

/-- The sizes of the sectors are the sizes of the regions, since no region is empty. -/
theorem Valid.mem_sizes_iff (h : map.Valid pageSize) (size : UInt32) :
    size ∈ map.sectors.map (·.size) ↔ size ∈ map.regions.toList.map (·.sectorSize) := by
  constructor
  · intro hmem
    obtain ⟨sector, hsector, rfl⟩ := List.mem_map.mp hmem
    obtain ⟨region, hregion, _, hsize, _⟩ := h.exists_region hsector
    exact List.mem_map.mpr ⟨region, hregion, hsize.symm⟩
  · intro hmem
    obtain ⟨region, hregion, rfl⟩ := List.mem_map.mp hmem
    have hcount := (Word.ne_zero_iff _).mp (h.mem_bounds hregion).1.count_ne_zero
    obtain ⟨sector, hsector⟩ := List.exists_mem_of_length_pos
      (show 0 < region.sectors.length by rw [region.length_sectors]; exact hcount)
    exact List.mem_map.mpr ⟨sector, List.mem_flatMap.mpr ⟨region, hregion, hsector⟩,
      size_of_mem_sectorRun hsector⟩

theorem Valid.min?_sizes (h : map.Valid pageSize) :
    (map.sectors.map (·.size)).min? = (map.regions.toList.map (·.sectorSize)).min? := by
  apply Option.ext
  intro size
  simp only [List.min?_eq_some_iff, h.mem_sizes_iff]

theorem Valid.max?_sizes (h : map.Valid pageSize) :
    (map.sectors.map (·.size)).max? = (map.regions.toList.map (·.sectorSize)).max? := by
  apply Option.ext
  intro size
  simp only [List.max?_eq_some_iff, h.mem_sizes_iff]

end SectorMap

/-- **What the static check accepts, the walk accepts.** A device that answers from an accepted map
passes, wherever in the address space the map lies, and the report says of the device what the
map says: its window, its sectors and their count, the smallest and the largest of its regions. -/
theorem checkGeometry_ok_of_validate {map : SectorMap} {pageSize : UInt32}
    (hvalidate : map.validate pageSize = .ok ()) :
    ∃ size count, map.size = .ok size ∧ map.sectorCount = .ok count ∧
      count.toNat = (map.regions.toList.map (·.count.toNat)).sum ∧
      ∀ (σ : Type) (device : Device σ) (inv : σ → Prop),
        device.Reports inv (map.geometry pageSize size) →
        ∀ world, inv world.state → ∃ report next,
          Act.runOn (checkGeometry device).run world = (.ok (.ok report), next) ∧
          report.start = map.start ∧ report.size = size ∧ report.pageSize = pageSize ∧
          report.sectors = count ∧
          (map.regions.toList.map (·.sectorSize)).min? = some report.minSectorSize ∧
          (map.regions.toList.map (·.sectorSize)).max? = some report.maxSectorSize := by
  have h := SectorMap.validate_eq_ok_iff.mp hvalidate
  have hcount : (UInt32.ofNat map.sectors.length).toNat = map.sectors.length :=
    Word.toNat_ofNat_of_lt h.length_lt
  refine ⟨_, _, h.size_eq, h.sectorCount_eq, hcount.trans map.length_sectors, ?_⟩
  intro σ device inv hreports world hworld
  obtain ⟨outcome, hends, hiff⟩ := checkGeometry_outcome hreports
  have hstop : (map.geometry pageSize (UInt32.ofNat (map.stop - map.start.toNat))).stop ≤
      Word.span32 := by
    rw [h.geometry_stop]
    exact h.top
  have hwalked := h.tiled.walked hstop
  have haccepts := (hiff _).mpr ⟨_, hwalked, rfl⟩
  obtain ⟨next, hrun, _⟩ := hends world hworld
  rw [haccepts] at hrun
  have hdescribes := hwalked.describes
  refine ⟨_, next, hrun, hdescribes.names.start, hdescribes.names.size, hdescribes.names.pageSize,
    ?_, ?_, ?_⟩
  · exact UInt32.toNat_inj.mp (hdescribes.count.trans hcount.symm)
  · exact h.min?_sizes.symm.trans hdescribes.minSectorSize
  · exact h.max?_sizes.symm.trans hdescribes.maxSectorSize

/-- Nine sectors of two sizes that end at the top of the address space. -/
def topMap : SectorMap := ⟨#[⟨0xFFFF0000, 0x1000, 8⟩, ⟨0xFFFF8000, 0x8000, 1⟩]⟩

theorem checkGeometry_ok_topMap :
    topMap.validate 256 = .ok () ∧ topMap.stop = Word.span32 ∧
      ∃ report next, Act.runOn (checkGeometry (topMap.geometry 256 0x10000).device).run
          { state := () } = (.ok (.ok report), next) ∧
        report.sectors.toNat = 9 := by
  have hvalidate : topMap.validate 256 = .ok () := rfl
  obtain ⟨size, count, hsize, hcount, hsum, haccepts⟩ := checkGeometry_ok_of_validate hvalidate
  have hword : size = 0x10000 := Except.ok.inj (hsize.symm.trans rfl)
  subst hword
  obtain ⟨report, next, hrun, _, _, _, hsectors, _⟩ :=
    haccepts Unit _ _ (topMap.geometry 256 0x10000).device_reports { state := () } trivial
  refine ⟨hvalidate, by decide, report, next, hrun, ?_⟩
  rw [hsectors, hsum]
  decide

end FlashBench
