import FlashBench.Geometry.Walk

/-!
# Sector tables

A device that is nothing but a table of sector sizes. It counts the questions it is asked, so the
cost of a walk can be read off it, and it can be neither erased, programmed nor read.
-/

namespace FlashBench

/-- Addresses from `first` to `last` are in sectors of one size. -/
structure TableEntry where
  first : UInt32
  last : UInt32
  sectorSize : UInt32
deriving DecidableEq, Repr, Inhabited

/-- The entry covers `address`. -/
def TableEntry.covers (entry : TableEntry) (address : UInt32) : Bool :=
  entry.first ≤ address && address ≤ entry.last

/-- The size that the first covering entry gives to `address`. -/
def lookupSize (table : List TableEntry) (address : UInt32) : Option UInt32 :=
  (table.find? (·.covers address)).map (·.sectorSize)

/-- What a table device answers, whatever it is asked. -/
structure SectorTable where
  start : UInt32
  size : UInt32
  pageSize : UInt32
  entries : List TableEntry
  otherwise : UInt32 := invalidSize
deriving Repr, Inhabited

/-- The device of a table; its state is the number of sector sizes asked for. -/
def SectorTable.device (table : SectorTable) : Device Nat where
  init := pure ()
  free := pure ()
  pageSize := pure table.pageSize
  startAddress := pure table.start
  size := pure table.size
  sectorSize address := do
    Act.change (· + 1)
    return (lookupSize table.entries address).getD table.otherwise
  eraseValue := pure defaultEraseValue
  eraseSector _ := throw .deviceFault
  programPage _ _ := throw .deviceFault
  read _ _ := throw .deviceFault

end FlashBench
