import FlashBench.Geometry.SectorMap

/-!
# Layouts of flash parts

The address window of an emulated part, given as runs of equal sectors that follow each other
without gaps, and how long its operations take.
-/

namespace FlashBench

/-- `count` sectors of `size` bytes. -/
structure SectorRun where
  size : UInt32
  count : UInt32
deriving DecidableEq, Repr, Inhabited

/-- Bytes covered by a run. -/
def SectorRun.bytes (run : SectorRun) : Nat := run.size.toNat * run.count.toNat

/-- The geometry of an emulated part. -/
structure FlashLayout where
  start : UInt32
  pageSize : UInt32
  eraseValue : UInt8 := 0xFF
  sectors : List SectorRun
deriving DecidableEq, Repr, Inhabited

namespace FlashLayout

/-- One MiB of 4 KiB sectors. -/
def uniform : FlashLayout where
  start := 0x08000000
  pageSize := 256
  sectors := [⟨0x1000, 256⟩]

/-- A one MiB bank of four 16 KiB, one 64 KiB and seven 128 KiB sectors. -/
def bootSectors : FlashLayout where
  start := 0x08000000
  pageSize := 256
  sectors := [⟨0x4000, 4⟩, ⟨0x10000, 1⟩, ⟨0x20000, 7⟩]

/-- The regions of runs that start at `address`. Addresses are counted in 64 bits and cut to a
word in each region; a fault when the count leaves 64 bits. -/
def regionsFrom (address : Nat) : List SectorRun → Except Fault (List SectorRegion)
  | [] => .ok []
  | run :: runs => do
    let next ← Word.fit64 (address + run.bytes)
    let rest ← regionsFrom next runs
    return ⟨Word.low32 address, run.size, run.count⟩ :: rest

/-- The regions of a layout. -/
def regions (layout : FlashLayout) : Except Fault (List SectorRegion) :=
  regionsFrom layout.start.toNat layout.sectors

/-- Bytes covered by all runs, a fault when they leave 64 bits. -/
def capacity (layout : FlashLayout) : Except Fault Nat :=
  layout.sectors.foldlM (fun total run => Word.fit64 (total + run.bytes)) 0

/-- The sector map of a layout. -/
def sectorMap (layout : FlashLayout) : Except Fault SectorMap :=
  return ⟨(← layout.regions).toArray⟩

/-- Checks that a part can have this layout. -/
def validate (layout : FlashLayout) : Except Fault (Except GeometryError Unit) :=
  return (← layout.sectorMap).validate layout.pageSize

end FlashLayout

/-- Controller ticks that an operation keeps the controller busy for. -/
structure FlashTiming where
  programTicks : UInt32 := 4
  eraseTicks : UInt32 := 64
deriving DecidableEq, Repr, Inhabited

end FlashBench
