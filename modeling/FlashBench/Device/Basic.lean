import FlashBench.Action
import FlashBench.Geometry.SectorMap

/-!
# Flash devices

The calls a flash driver answers. Each call is an action on the driver's hardware `σ`, so a device
may answer the same question differently every time; nothing that uses a device relies on more
than the answers it got.
-/

namespace FlashBench

/-- Why a flash device refuses a call. -/
inductive FlashError where
  /-- The controller could not be brought up. -/
  | initFailure
  /-- The controller could not be released. -/
  | freeFailure
  /-- A session is already open. -/
  | alreadyOpen
  /-- Address or length breaks page or sector alignment. -/
  | alignment
  /-- The access leaves the device window. -/
  | outOfRange
  /-- The controller did not finish within the poll timeout. -/
  | hardwareTimeout
  /-- The controller reported an error status. -/
  | deviceFault
deriving DecidableEq, Repr, Inhabited

namespace FlashError

/-- The error as a sentence. -/
def message : FlashError → String
  | initFailure => "flash controller initialization failed"
  | freeFailure => "flash controller release failed"
  | alreadyOpen => "flash device already has an open session"
  | alignment => "address or length is not aligned to the erase or program unit"
  | outOfRange => "access is outside the flash device window"
  | hardwareTimeout => "flash controller did not complete the operation in time"
  | deviceFault => "flash controller reported an operation error"

/-- The number that stands for the error where zero means success. -/
def code : FlashError → Nat
  | initFailure => 1
  | freeFailure => 2
  | alreadyOpen => 3
  | alignment => 4
  | outOfRange => 5
  | hardwareTimeout => 6
  | deviceFault => 7

/-- The error a number stands for. -/
def ofCode? : Nat → Option FlashError
  | 1 => some initFailure
  | 2 => some freeFailure
  | 3 => some alreadyOpen
  | 4 => some alignment
  | 5 => some outOfRange
  | 6 => some hardwareTimeout
  | 7 => some deviceFault
  | _ => none

theorem ofCode?_code (error : FlashError) : ofCode? error.code = some error := by
  cases error <;> rfl

end FlashError

/-- The calls of a flash driver on hardware `σ`. -/
structure Device (σ : Type) where
  /-- Acquires the controller. -/
  init : Attempt FlashError σ Unit
  /-- Releases the controller; the medium keeps its contents. -/
  free : Attempt FlashError σ Unit
  /-- The program unit in bytes. -/
  pageSize : Act σ UInt32
  /-- First address of the device window. -/
  startAddress : Act σ UInt32
  /-- Size of the device window in bytes. -/
  size : Act σ UInt32
  /-- Size of the sector that covers an address, `invalidSize` outside the window. -/
  sectorSize : UInt32 → Act σ UInt32
  /-- What every byte reads as after an erase. -/
  eraseValue : Act σ UInt8
  /-- Erases the sector that starts at an address. -/
  eraseSector : UInt32 → Attempt FlashError σ Unit
  /-- Programs whole pages from an address on. -/
  programPage : UInt32 → ByteArray → Attempt FlashError σ Unit
  /-- Reads a number of bytes from an address on. -/
  read : UInt32 → Nat → Attempt FlashError σ ByteArray

/-- The erase value of a part that does not say otherwise. -/
def defaultEraseValue : UInt8 := 0xFF

end FlashBench
