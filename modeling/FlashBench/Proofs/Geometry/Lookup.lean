import FlashBench.Proofs.Geometry.SectorMap

/-!
# Looking a sector up

The binary search of an accepted map against the plain one: go through the regions until one
contains the address (`scanRegion`), then through the sectors of that region until one covers it
(`scanSector`).

* **`Valid.sectorOf_eq_scan`**: both find the same sector, or none.
* **`Valid.located`**: the sector found is a piece of the map that answers the same for every one
  of its addresses.
* **`lookups_exact`** puts them together for every address there is.
-/

namespace FlashBench

/-- Aligning counts from any multiple of the size as it does from zero. -/
theorem add_alignDown_sub {start address size : UInt32} (hsize : size ≠ 0)
    (hle : start.toNat ≤ address.toNat) (hstart : size.toNat ∣ start.toNat) :
    start + alignDown (address - start) size = alignDown address size := by
  have hsub : (address - start).toNat = address.toNat - start.toNat :=
    UInt32.toNat_sub_of_le _ _ (UInt32.le_iff_toNat_le.mpr hle)
  have hrest : (address - start) % size = address % size := by
    apply UInt32.toNat_inj.mp
    simp only [UInt32.toNat_mod, hsub]
    obtain ⟨k, hk⟩ := hstart
    obtain ⟨d, hd⟩ := Nat.exists_eq_add_of_le hle
    rw [hd, hk, Nat.add_sub_cancel_left, Nat.mul_add_mod]
  have hassoc : start + (address - start - address % size) = address - address % size := by
    apply UInt32.toBitVec_inj.mp
    simp only [UInt32.toBitVec_add, UInt32.toBitVec_sub]
    bv_omega
  simp [alignDown, hsize, hrest, hassoc]

namespace SectorMap

variable {pageSize : UInt32} {map : SectorMap}

/-- The first region that contains an address. -/
def scanRegion (map : SectorMap) (address : UInt32) : Option SectorRegion :=
  map.regions.toList.find? (·.contains address)

/-- The first sector that covers an address, in the first region that contains it. -/
def scanSector (map : SectorMap) (address : UInt32) : Option Sector :=
  (map.scanRegion address).bind fun region => region.sectors.find? (·.Covers address.toNat)

/-- **The binary search finds what going through the regions finds.** -/
theorem Valid.regionOf_eq_scan (h : map.Valid pageSize) (address : UInt32) :
    map.regionOf address = map.scanRegion address := by
  cases hscan : map.scanRegion address with
  | some region =>
      have hmem := List.mem_of_find?_eq_some hscan
      have hcontains := List.find?_some hscan
      exact h.regionOf_eq_some_iff.mpr ⟨hmem, hcontains⟩
  | none =>
      rw [Option.eq_none_iff_forall_ne_some]
      intro region hfound
      obtain ⟨hmem, hcontains⟩ := h.regionOf_eq_some_iff.mp hfound
      exact List.find?_eq_none.mp hscan region hmem hcontains

/-- In a region of a valid map the sector that covers an address starts where the lookup says. -/
theorem Valid.sectorStart_of_region (h : map.Valid pageSize) {region : SectorRegion}
    {sector : Sector} {address : UInt32} (hmem : region ∈ map.regions.toList)
    (hsector : sector ∈ region.sectors) (hcovers : sector.Covers address.toNat) :
    map.sectorStart address = some sector.start := by
  obtain ⟨hsound, _, hstop⟩ := h.mem_bounds hmem
  have htop := Nat.le_trans hstop h.top
  obtain ⟨hfirst, hlast⟩ := (hsound.sectors_abut htop).mem_bounds sector hsector
  have hstart : region.start.toNat ≤ address.toNat := Nat.le_trans hfirst hcovers.1
  have hend : address.toNat < region.stop := Nat.lt_of_lt_of_le hcovers.2 hlast
  have hregion := h.regionOf_eq_some_iff.mpr
    ⟨hmem, (region.contains_iff address).mpr ⟨hstart, hend⟩⟩
  have hsize := size_of_mem_sectorRun hsector
  have haligned := hcovers.alignDown_eq (hsize ▸ hsound.size_ne_zero) (hsound.dvd_start htop hsector)
  rw [hsize] at haligned
  simp [sectorStart, hregion, add_alignDown_sub hsound.size_ne_zero hstart hsound.aligned, haligned]

theorem Valid.sectorStart_of_sector (h : map.Valid pageSize) {sector : Sector} {address : UInt32}
    (hmem : sector ∈ map.sectors) (hcovers : sector.Covers address.toNat) :
    map.sectorStart address = some sector.start := by
  obtain ⟨region, hregion, hsector, _⟩ := h.exists_region hmem
  exact h.sectorStart_of_region hregion hsector hcovers

/-- **Start and size belong to one sector,** the one that going through the sectors finds. -/
theorem Valid.sectorOf_eq_scan (h : map.Valid pageSize) (address : UInt32) :
    map.sectorStart address = (map.scanSector address).map (·.start) ∧
      map.sectorSize address = (map.scanSector address).elim invalidSize (·.size) := by
  cases hscan : map.scanRegion address with
  | none =>
      have hregion := (h.regionOf_eq_scan address).trans hscan
      simp [sectorStart, sectorSize, scanSector, hregion, hscan]
  | some region =>
      have hregion := (h.regionOf_eq_scan address).trans hscan
      obtain ⟨hmem, hcontains⟩ := h.regionOf_eq_some_iff.mp hregion
      obtain ⟨hsound, _, hstop⟩ := h.mem_bounds hmem
      obtain ⟨hfirst, hlast⟩ := (region.contains_iff address).mp hcontains
      obtain ⟨sector, hfind, hsector, hcovers⟩ :=
        (hsound.sectors_abut (Nat.le_trans hstop h.top)).exists_find? hfirst hlast
      have hfound : map.scanSector address = some sector := by
        simp [scanSector, hscan, hfind]
      have hstart := h.sectorStart_of_region hmem hsector hcovers
      have hsize := size_of_mem_sectorRun hsector
      simp [hfound, hstart, hsize, sectorSize, hregion]

/-- The answer for an address is the sector `[first, first + size)`: it lies in the map, at a
multiple of its size and with whole pages, covers the address, and is the answer for every other
address in it too. -/
structure Located (map : SectorMap) (pageSize address first size : UInt32) : Prop where
  starts : map.sectorStart address = some first
  sized : map.sectorSize address = size
  inside : map.start.toNat ≤ first.toNat ∧ first.toNat + size.toNat ≤ map.stop
  covers : first.toNat ≤ address.toNat ∧ address.toNat < first.toNat + size.toNat
  filled : 0 < size.toNat
  pages : pageSize.toNat ∣ size.toNat
  aligned : size.toNat ∣ first.toNat
  down : first = alignDown address size
  shared : ∀ other : UInt32, first.toNat ≤ other.toNat →
    other.toNat < first.toNat + size.toNat →
    map.sectorStart other = some first ∧ map.sectorSize other = size

/-- **Every address of a valid map is located.** -/
theorem Valid.located (h : map.Valid pageSize) {address : UInt32}
    (hfirst : map.start.toNat ≤ address.toNat) (hlast : address.toNat < map.stop) :
    ∃ first size, map.Located pageSize address first size := by
  obtain ⟨sector, hmem, hcovers⟩ := h.sectors_abut.exists_covers hfirst hlast
  have hadmits := h.admits 0 hmem
  have hanswers : ∀ other : UInt32, sector.Covers other.toNat →
      map.sectorStart other = some sector.start ∧ map.sectorSize other = sector.size := by
    intro other hother
    exact ⟨h.sectorStart_of_sector hmem hother, h.sectorSize_of_sector hmem hother.1 hother.2⟩
  refine ⟨sector.start, sector.size, ?_⟩
  constructor
  case starts => exact (hanswers address hcovers).1
  case sized => exact (hanswers address hcovers).2
  case inside => exact h.sectors_abut.mem_bounds sector hmem
  case covers => exact hcovers
  case filled => exact (Word.ne_zero_iff _).mp hadmits.nonempty
  case pages => exact hadmits.pages
  case aligned => exact hadmits.aligned
  case down => exact (hcovers.alignDown_eq hadmits.nonempty hadmits.aligned).symm
  case shared => exact fun other hstart hstop => hanswers other ⟨hstart, hstop⟩

theorem Valid.sectorStart_outside (h : map.Valid pageSize) {address : UInt32}
    (houtside : address.toNat < map.start.toNat ∨ map.stop ≤ address.toNat) :
    map.sectorStart address = none := by
  rw [sectorStart, h.regionOf_outside houtside]
  rfl

/-- **The lookups of an accepted map are exact.** For every address the binary search finds the
region and the sector that going through them finds; outside the map that is none, inside it is a
sector of the map. The size of the map is the distance from its start to its end, which neither runs
below zero nor is cut to the largest word. -/
theorem lookups_exact {map : SectorMap} {pageSize : UInt32}
    (hvalidate : map.validate pageSize = .ok ()) :
    (∀ address, map.regionOf address = map.scanRegion address ∧
      map.sectorStart address = (map.scanSector address).map (·.start) ∧
      map.sectorSize address = (map.scanSector address).elim invalidSize (·.size)) ∧
    (∀ address : UInt32, address.toNat < map.start.toNat ∨ map.stop ≤ address.toNat →
      map.sectorStart address = none ∧ map.sectorSize address = invalidSize) ∧
    (∀ address : UInt32, map.start.toNat ≤ address.toNat → address.toNat < map.stop →
      ∃ first size, map.Located pageSize address first size) ∧
    ∃ size, map.size = .ok size ∧ map.start.toNat + size.toNat = map.stop := by
  have h := validate_eq_ok_iff.mp hvalidate
  refine ⟨?_, ?_, ?_, _, h.size_eq, ?_⟩
  · intro address
    exact ⟨h.regionOf_eq_scan address, h.sectorOf_eq_scan address⟩
  · intro address houtside
    exact ⟨h.sectorStart_outside houtside, h.sectorSize_outside houtside⟩
  · intro address hfirst hlast
    exact h.located hfirst hlast
  · have hlt := h.start_lt_stop
    rw [h.toNat_size]
    omega

/-- Sectors of three sizes, the last one ending at the top of the address space. -/
def summitMap : SectorMap :=
  ⟨#[⟨0xFFFE0000, 0x1000, 16⟩, ⟨0xFFFF0000, 0x8000, 1⟩, ⟨0xFFFF8000, 0x4000, 2⟩]⟩

theorem lookups_summitMap :
    summitMap.validate 256 = .ok () ∧
      (∃ first size, summitMap.Located 256 0xFFFFFFFF first size) ∧
      summitMap.sectorStart 0xFFFDFFFF = none ∧
      ∃ size, summitMap.size = .ok size ∧ size.toNat = 0x20000 := by
  have hvalidate : summitMap.validate 256 = .ok () := rfl
  obtain ⟨_, houtside, hinside, size, hsize, hstop⟩ := lookups_exact hvalidate
  refine ⟨hvalidate, hinside _ (by decide) (by decide), (houtside _ (.inl (by decide))).1, size,
    hsize, ?_⟩
  have hstart : summitMap.start.toNat = 0xFFFE0000 := rfl
  have htop : summitMap.stop = 0x100000000 := rfl
  omega

end SectorMap

end FlashBench
