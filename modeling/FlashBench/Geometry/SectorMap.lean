import FlashBench.Geometry.Error
import FlashBench.Word

/-!
# Sector maps

A part is described by **regions**, each a run of equal sectors. A **sector map** holds the
regions in address order and answers which sector covers an address by a binary search.

* **`validate`** says whether the regions can back a device: no gap, no odd size, every sector
  aligned to its own size, all inside the 32-bit address space.
* **`sectorSize`** answers `invalidSize` exactly where no region reaches.
-/

namespace FlashBench

/-- The answer of a device for an address outside its window. -/
def invalidSize : UInt32 := 0xFFFFFFFF

/-- The largest multiple of `size` that is at most `address`; a zero `size` changes nothing. -/
def alignDown (address size : UInt32) : UInt32 :=
  if size = 0 then address else address - address % size

/-- `count` sectors of `sectorSize` bytes, the first one at `start`. -/
structure SectorRegion where
  start : UInt32
  sectorSize : UInt32
  count : UInt32
deriving DecidableEq, Repr, Inhabited

namespace SectorRegion

/-- Bytes covered by the region. -/
def size (region : SectorRegion) : Nat := region.sectorSize.toNat * region.count.toNat

/-- The first address behind the region. It may lie at the top of the address space, so it is no
32-bit word. -/
def stop (region : SectorRegion) : Nat := region.start.toNat + region.size

/-- The region covers `address`. -/
def contains (region : SectorRegion) (address : UInt32) : Bool :=
  region.start ≤ address && address.toNat < region.stop

end SectorRegion

/-- The regions of a part in address order. -/
structure SectorMap where
  regions : Array SectorRegion
deriving DecidableEq, Repr, Inhabited

/-- Halves the candidates `[base, base + size)` until one is left, keeping the half that starts at
the probe when the probe satisfies `p`. -/
def partitionFrom {α : Type} (xs : Array α) (p : α → Bool) (base size : Nat) : Nat :=
  if size ≤ 1 then
    if (xs[base]?).any p then base + 1 else base
  else
    let probe := base + size / 2
    partitionFrom xs p (if (xs[probe]?).any p then probe else base) (size - size / 2)
termination_by size
decreasing_by omega

/-- The number of leading elements that satisfy `p`, provided those elements form a prefix of the
array; a binary search. -/
def partitionPoint {α : Type} (xs : Array α) (p : α → Bool) : Nat :=
  if xs.size = 0 then 0 else partitionFrom xs p 0 xs.size

namespace SectorMap

/-- The first address of the map, zero when it is empty. -/
def start (map : SectorMap) : UInt32 := (map.regions[0]?).elim 0 (·.start)

/-- The first address behind the map, zero when it is empty. -/
def stop (map : SectorMap) : Nat := (map.regions.back?).elim 0 (·.stop)

/-- Bytes from the start to the end, at most the largest word; a fault when the end lies below the
start. -/
def size (map : SectorMap) : Except Fault UInt32 := do
  let bytes ← Word.minus map.stop map.start.toNat
  return if bytes < Word.span32 then UInt32.ofNat bytes else Word.max32

/-- The number of sectors, a fault when it does not fit into a word. -/
def sectorCount (map : SectorMap) : Except Fault UInt32 :=
  map.regions.foldlM (fun total region => Word.fit32 (total.toNat + region.count.toNat)) 0

/-- The region that covers `address`. -/
def regionOf (map : SectorMap) (address : UInt32) : Option SectorRegion :=
  match partitionPoint map.regions (·.start ≤ address) with
  | 0 => none
  | after + 1 => (map.regions[after]?).filter (·.contains address)

/-- The size of the sector that covers `address`, `invalidSize` if there is none. -/
def sectorSize (map : SectorMap) (address : UInt32) : UInt32 :=
  (map.regionOf address).elim invalidSize (·.sectorSize)

/-- The start of the sector that covers `address`. -/
def sectorStart (map : SectorMap) (address : UInt32) : Option UInt32 :=
  (map.regionOf address).map fun region =>
    region.start + alignDown (address - region.start) region.sectorSize

/-- One region of a layout, which must start at `expected`; answers where the next one must
start. -/
def checkRegion (pageSize : UInt32) (expected : Nat) (region : SectorRegion) :
    Except GeometryError Nat :=
  if region.start.toNat ≠ expected then
    .error (.discontiguous expected region.start)
  else if region.sectorSize = 0 ∨ region.sectorSize = invalidSize ∨ region.count = 0 then
    .error (.invalidSectorSize region.start region.sectorSize)
  else if region.sectorSize % pageSize ≠ 0 then
    .error (.notPageMultiple region.start region.sectorSize pageSize)
  else if region.start % region.sectorSize ≠ 0 then
    .error (.misaligned region.start region.sectorSize)
  else
    .ok region.stop

/-- Checks that the map can back a flash device with the given page size. The regions come first, in
order; the window as a whole is judged after them. -/
def validate (map : SectorMap) (pageSize : UInt32) : Except GeometryError Unit := do
  if pageSize = 0 then throw (.invalidPageSize pageSize)
  match map.regions[0]? with
  | none => throw .emptyLayout
  | some first =>
    let stop ← map.regions.toList.foldlM (checkRegion pageSize) first.start.toNat
    if stop > Word.span32 then throw (.windowOverflow stop)
    let span := stop - first.start.toNat
    if span ≥ Word.span32 then throw (.windowTooLarge span)

end SectorMap

end FlashBench
