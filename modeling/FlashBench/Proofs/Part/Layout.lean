import FlashBench.Part.Layout
import FlashBench.Proofs.Geometry.SectorMap

/-!
# Layouts that are valid

A layout is a list of runs, and its sectors and its end are sums over them. When
`FlashLayout.validate` accepts the layout, its sector map says the same (`sectors_sectorMap`,
`stop_sectorMap`), although the map keeps the starts of its regions as words.
-/

namespace FlashBench.FlashLayout

variable {layout : FlashLayout} {map : SectorMap} {pageSize : UInt32}

/-- The sectors of runs that start at `first`. -/
def sectorsFrom (first : Nat) : List SectorRun → List Sector
  | [] => []
  | run :: runs =>
      sectorRun first run.size run.count.toNat ++ sectorsFrom (first + run.bytes) runs

/-- The sectors of a layout in address order. -/
def sectorList (layout : FlashLayout) : List Sector :=
  sectorsFrom layout.start.toNat layout.sectors

/-- Bytes covered by runs. -/
def bytesOf : List SectorRun → Nat
  | [] => 0
  | run :: runs => run.bytes + bytesOf runs

/-- The first address behind a layout. -/
def stop (layout : FlashLayout) : Nat := layout.start.toNat + bytesOf layout.sectors

/-! ## Exact counts -/

theorem foldlM_capacity {total capacity : Nat} {runs : List SectorRun}
    (h : runs.foldlM (fun total run => Word.fit64 (total + run.bytes)) total = .ok capacity) :
    capacity = total + bytesOf runs := by
  induction runs generalizing total with
  | nil => exact (Except.ok.inj h).symm
  | cons run rest ih =>
      rw [List.foldlM_cons] at h
      obtain ⟨next, hfit, hrest⟩ := Word.bind_eq_ok_iff.mp h
      rw [ih hrest, ← (Word.fit64_eq_ok_iff.mp hfit).2, bytesOf, Nat.add_assoc]

/-- A capacity that is a number is the exact one. -/
theorem start_add_capacity {capacity : Nat} (h : layout.capacity = .ok capacity) :
    layout.start.toNat + capacity = layout.stop := by
  rw [foldlM_capacity h, Nat.zero_add, stop]

theorem regionsFrom_cons {first : Nat} {run : SectorRun} {runs : List SectorRun}
    {regions : List SectorRegion} (h : regionsFrom first (run :: runs) = .ok regions) :
    ∃ rest, regionsFrom (first + run.bytes) runs = .ok rest ∧
      regions = ⟨Word.low32 first, run.size, run.count⟩ :: rest := by
  unfold regionsFrom at h
  obtain ⟨next, hfit, h⟩ := Word.bind_eq_ok_iff.mp h
  obtain ⟨rest, hrest, h⟩ := Word.bind_eq_ok_iff.mp h
  rw [← (Word.fit64_eq_ok_iff.mp hfit).2] at hrest
  exact ⟨rest, hrest, (Except.ok.inj h).symm⟩

/-- **A chain keeps the exact addresses.** Regions that form a chain start where their runs do, so
cutting the starts to words has cut nothing. -/
theorem regionsFrom_chained {first stop : Nat} {runs : List SectorRun}
    {regions : List SectorRegion} (hregions : regionsFrom first runs = .ok regions)
    (hchained : SectorRegion.Chained pageSize first regions stop) :
    regions.flatMap SectorRegion.sectors = sectorsFrom first runs ∧
      stop = first + bytesOf runs := by
  induction runs generalizing first regions with
  | nil =>
      cases Except.ok.inj hregions
      exact ⟨rfl, hchained.symm⟩
  | cons run runs ih =>
      obtain ⟨rest, hrest, rfl⟩ := regionsFrom_cons hregions
      obtain ⟨hstart, _, hchained⟩ := hchained
      have hnext : SectorRegion.stop ⟨Word.low32 first, run.size, run.count⟩ =
          first + run.bytes := congrArg (· + run.bytes) hstart
      rw [hnext] at hchained
      obtain ⟨hsectors, hstop⟩ := ih hrest hchained
      refine ⟨?_, ?_⟩
      · rw [List.flatMap_cons, hsectors, sectorsFrom, SectorRegion.sectors, hstart]
      · rw [hstop, bytesOf, Nat.add_assoc]

/-! ## The sector map of a valid layout -/

theorem valid_of_validate (hlayout : layout.validate = .ok (.ok ()))
    (hmap : layout.sectorMap = .ok map) : map.Valid layout.pageSize := by
  unfold validate at hlayout
  rw [hmap] at hlayout
  exact SectorMap.validate_eq_ok_iff.mp (Except.ok.inj hlayout)

theorem regions_of_sectorMap (hmap : layout.sectorMap = .ok map) :
    layout.regions = .ok map.regions.toList := by
  obtain ⟨regions, hregions, hlist⟩ := Word.bind_eq_ok_iff.mp hmap
  rw [hregions, ← Except.ok.inj hlist]

/-- The regions end no earlier than their bytes are counted, so counting the bytes does not leave 64
bits either. -/
theorem foldlM_capacity_of_regions {first total : Nat} {runs : List SectorRun}
    {regions : List SectorRegion} (hregions : regionsFrom first runs = .ok regions)
    (hle : total ≤ first) :
    runs.foldlM (fun total run => Word.fit64 (total + run.bytes)) total =
      .ok (total + bytesOf runs) := by
  induction runs generalizing first total regions with
  | nil => rfl
  | cons run runs ih =>
      unfold regionsFrom at hregions
      obtain ⟨next, hfit, hregions⟩ := Word.bind_eq_ok_iff.mp hregions
      obtain ⟨rest, hrest, _⟩ := Word.bind_eq_ok_iff.mp hregions
      obtain ⟨hlt, rfl⟩ := Word.fit64_eq_ok_iff.mp hfit
      have hnext : Word.fit64 (total + run.bytes) = .ok (total + run.bytes) :=
        Word.fit64_eq_ok_iff.mpr ⟨by omega, rfl⟩
      rw [List.foldlM_cons, hnext, bytesOf, ← Nat.add_assoc]
      exact ih hrest (by omega)

theorem capacity_of_sectorMap (hmap : layout.sectorMap = .ok map) :
    layout.capacity = .ok (bytesOf layout.sectors) := by
  have hcapacity := foldlM_capacity_of_regions (regions_of_sectorMap hmap) (Nat.zero_le _)
  rwa [Nat.zero_add] at hcapacity

theorem start_sectorMap (hmap : layout.sectorMap = .ok map) (h : map.Valid layout.pageSize) :
    map.start = layout.start := by
  have hregions := regions_of_sectorMap hmap
  unfold regions at hregions
  cases hruns : layout.sectors with
  | nil =>
      rw [hruns] at hregions
      exact absurd (Except.ok.inj hregions).symm h.nonempty
  | cons run runs =>
      rw [hruns] at hregions
      obtain ⟨rest, _, hlist⟩ := regionsFrom_cons hregions
      rw [SectorMap.start_eq_of_toList hlist]
      exact Word.low32_toNat _

theorem sectors_sectorMap (hmap : layout.sectorMap = .ok map) (h : map.Valid layout.pageSize) :
    map.sectors = layout.sectorList ∧ map.stop = layout.stop := by
  have hchained := h.chained
  rw [start_sectorMap hmap h] at hchained
  exact regionsFrom_chained (regions_of_sectorMap hmap) hchained

/-- What a device answers for a layout with this map. -/
def geometry (layout : FlashLayout) (map : SectorMap) : Geometry :=
  map.geometry layout.pageSize (UInt32.ofNat (map.stop - map.start.toNat))

/-- The geometry `g` answers what the layout says, in exact numbers: its sectors tile the window,
every address of a sector answers with the size of the sector, and no other address has one. -/
structure Charts (layout : FlashLayout) (g : Geometry) : Prop where
  start : g.start = layout.start
  stop : g.stop = layout.stop
  pageSize : g.pageSize = layout.pageSize
  paged : 0 < layout.pageSize.toNat
  top : layout.stop ≤ Word.span32
  filled : layout.start.toNat < layout.stop
  tiled : Sector.Abut layout.start.toNat layout.sectorList layout.stop
  admits : ∀ sector ∈ layout.sectorList, g.Admits sector
  covered : ∀ sector ∈ layout.sectorList, ∀ address : UInt32, sector.Covers address.toNat →
    g.sectorSize address = sector.size
  outside : ∀ address : UInt32, address.toNat < layout.start.toNat ∨ layout.stop ≤ address.toNat →
    g.sectorSize address = invalidSize

/-- **The map of an accepted layout charts it.** -/
theorem charts_geometry (hlayout : layout.validate = .ok (.ok ()))
    (hmap : layout.sectorMap = .ok map) : layout.Charts (layout.geometry map) := by
  have hvalid := valid_of_validate hlayout hmap
  have hstart := start_sectorMap hmap hvalid
  obtain ⟨hsectors, hstop⟩ := sectors_sectorMap hmap hvalid
  constructor
  case start => exact hstart
  case stop => exact hvalid.geometry_stop.trans hstop
  case pageSize => rfl
  case paged => exact hvalid.paged
  case top => exact hstop ▸ hvalid.top
  case filled => exact hstart ▸ hstop ▸ hvalid.start_lt_stop
  case tiled =>
    rw [← hsectors, ← hstart, ← hstop]
    exact hvalid.sectors_abut
  case admits =>
    rw [← hsectors]
    exact fun sector hmem => hvalid.admits _ hmem
  case covered =>
    rw [← hsectors]
    exact fun sector hmem address hcovers =>
      hvalid.sectorSize_of_sector hmem hcovers.1 hcovers.2
  case outside =>
    rw [← hstart, ← hstop]
    exact fun address => hvalid.sectorSize_outside

/-- No sector is empty, and an address outside has no sector. -/
theorem Charts.sectorSize_ne_zero {g : Geometry} (h : layout.Charts g) (address : UInt32) :
    g.sectorSize address ≠ 0 := by
  by_cases hout : address.toNat < layout.start.toNat ∨ layout.stop ≤ address.toNat
  · rw [h.outside address hout]
    decide
  · obtain ⟨hfirst, hlast⟩ := not_or.mp hout
    obtain ⟨sector, _, hmem, hcovers⟩ :=
      h.tiled.exists_find? (Nat.le_of_not_lt hfirst) (Nat.lt_of_not_le hlast)
    rw [h.covered sector hmem address hcovers]
    exact (h.admits sector hmem).nonempty

/-- A device that answers what the layout says is tiled by its sectors. -/
theorem Charts.tiles {g : Geometry} (h : layout.Charts g) : g.Tiled layout.sectorList where
  pageSize := h.pageSize.symm ▸ h.paged
  size := by
    have hfilled := h.filled
    have hstop := h.stop
    rw [Geometry.stop, h.start] at hstop
    omega
  abut := h.start.symm ▸ h.stop.symm ▸ h.tiled
  admits := h.admits
  fenced := {
    before := fun hstart => by
      rw [h.start] at hstart ⊢
      have hpos := (Word.ne_zero_iff _).mp hstart
      have hle : (1 : UInt32) ≤ layout.start := UInt32.le_iff_toNat_le.mpr hpos
      refine h.outside _ (.inl ?_)
      rw [UInt32.toNat_sub_of_le _ _ hle]
      exact Nat.sub_lt hpos Nat.one_pos
    after := fun hstop => by
      rw [h.stop] at hstop ⊢
      exact h.outside _ (.inr (Nat.le_of_eq (Word.toNat_ofNat_of_lt hstop).symm)) }

end FlashBench.FlashLayout
