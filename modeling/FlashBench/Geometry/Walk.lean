import FlashBench.Device.Basic

/-!
# Walking a device

From the start of the window, ask for the sector size and step over it, until the end is reached.
A well-formed device is **tiled**: the walk lands exactly on the end, every sector is aligned to
its own size and answers the same size at its first and last byte, and the two addresses just
outside the window are in no sector. `checkGeometry` asks for all of that; `SectorWalk` only
steps.
-/

namespace FlashBench

variable {σ β : Type}

/-- One sector as the walk saw it. -/
structure Sector where
  start : UInt32
  size : UInt32
deriving DecidableEq, Repr, Inhabited

/-- Address of the last byte of the sector; none for an empty sector and for one that runs past the
top of the address space. -/
def Sector.lastByte (sector : Sector) : Option UInt32 :=
  if sector.size = 0 then none
  else
    let last := sector.start.toNat + (sector.size.toNat - 1)
    if last < Word.span32 then some (UInt32.ofNat last) else none

/-- A walk under way: the next offset, the end of the window, and whether the walk has ended.
Offsets are no words, since a window may reach the top of the address space. -/
structure SectorWalk where
  offset : Nat
  stop : Nat
  done : Bool := false
deriving DecidableEq, Repr, Inhabited

namespace SectorWalk

/-- A walk over the whole window of a device. -/
def begin (device : Device σ) : Act σ SectorWalk := do
  let start ← device.startAddress
  let size ← device.size
  return { offset := start.toNat, stop := start.toNat + size.toNat }

/-- The bytes the walk has not stepped over yet. -/
def remaining (walk : SectorWalk) : Nat := walk.stop - walk.offset

/-- The next sector; an error, which ends the walk; or nothing more. A size of zero or `invalidSize`
is an error, since the walk would not get any further. -/
def next (device : Device σ) (walk : SectorWalk) :
    Act σ (Option (Except GeometryError Sector) × SectorWalk) := do
  if walk.done then
    return (none, walk)
  else if walk.offset ≥ walk.stop then
    let error := if walk.offset > walk.stop
      then some (.error (.overshoot walk.offset walk.stop)) else none
    return (error, { walk with done := true })
  else
    let address := Word.low32 walk.offset
    let size ← device.sectorSize address
    if size = 0 ∨ size = invalidSize then
      return (some (.error (.invalidSectorSize address size)), { walk with done := true })
    else
      return (some (.ok ⟨address, size⟩), { walk with offset := walk.offset + size.toNat })

/-- The first items of a walk, at most `limit` calls of `next`. The end of the walk is an item,
the last one. -/
def items (device : Device σ) :
    Nat → SectorWalk → Act σ (List (Option (Except GeometryError Sector)))
  | 0, _ => return []
  | limit + 1, walk => do
    match ← walk.next device with
    | (some item, walk) => return some item :: (← items device limit walk)
    | (none, _) => return [none]

/-- Runs `visit` over the sectors of a walk with at most `calls` calls of `next`; the first error of
the walk or of `visit` is the answer. -/
def foldSectors (device : Device σ) (visit : β → Sector → Attempt GeometryError σ β) :
    Nat → β → SectorWalk → Attempt GeometryError σ β
  | 0, _, _ => throwThe Fault .stuck
  | calls + 1, b, walk => do
    match ← walk.next device with
    | (some (.ok sector), walk) => foldSectors device visit calls (← visit b sector) walk
    | (some (.error error), _) => throw error
    | (none, _) => return b

end SectorWalk

/-- What a check of the whole device found. -/
structure GeometryReport where
  start : UInt32
  size : UInt32
  pageSize : UInt32
  sectors : UInt32
  minSectorSize : UInt32
  maxSectorSize : UInt32
deriving DecidableEq, Repr, Inhabited

/-- All sectors have one size. -/
def GeometryReport.isUniform (report : GeometryReport) : Bool :=
  report.minSectorSize == report.maxSectorSize

/-- The first address behind the device. -/
def GeometryReport.stop (report : GeometryReport) : Nat := report.start.toNat + report.size.toNat

/-- Checks one sector of the walk and counts it. -/
def checkSector (device : Device σ) (report : GeometryReport) (sector : Sector) :
    Attempt GeometryError σ GeometryReport := do
  let ⟨start, size⟩ := sector
  Attempt.note .trace s!"sector {Text.address start.toNat} size {Text.hex size.toNat}"
  if size % report.pageSize ≠ 0 then throw (.notPageMultiple start size report.pageSize)
  if start % size ≠ 0 then throw (.misaligned start size)
  match sector.lastByte with
  | none => throw (.overshoot (start.toNat + size.toNat) report.stop)
  | some lastByte =>
    let last ← device.sectorSize lastByte
    if last ≠ size then throw (.inconsistentBoundary start size last)
    let sectors ← Attempt.checked (Word.fit32 (report.sectors.toNat + 1))
    return { report with
      sectors
      minSectorSize := min report.minSectorSize size
      maxSectorSize := max report.maxSectorSize size }

/-- Checks that an address outside the window is in no sector. -/
def checkOutside (device : Device σ) (address : UInt32) : Attempt GeometryError σ Unit := do
  let size ← device.sectorSize address
  if size ≠ invalidSize then throw (.sentinelMissing address size)

/-- Checks the two addresses just outside the window, as far as there are any. -/
def checkFence (device : Device σ) (report : GeometryReport) : Attempt GeometryError σ Unit := do
  if report.start ≠ 0 then checkOutside device (report.start - 1)
  if report.stop < Word.span32 then checkOutside device (UInt32.ofNat report.stop)

/-- Walks the whole device and checks every rule of its geometry. Each sector of the walk takes at
least one byte, so the walk needs no more calls than bytes, and one for its end. -/
def checkGeometry (device : Device σ) : Attempt GeometryError σ GeometryReport := do
  let pageSize ← device.pageSize
  if pageSize = 0 then throw (.invalidPageSize pageSize)
  if (← device.size) = 0 then throw .emptyLayout
  let start ← device.startAddress
  let size ← device.size
  let empty : GeometryReport :=
    { start, size, pageSize, sectors := 0, minSectorSize := Word.max32, maxSectorSize := 0 }
  let walk ← SectorWalk.begin device
  let report ← SectorWalk.foldSectors device (checkSector device) (walk.remaining + 1) empty walk
  checkFence device report
  return report

end FlashBench
