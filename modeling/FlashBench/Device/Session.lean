import FlashBench.Device.Basic

/-!
# Sessions

Exclusive use of a device. A session pairs the calls that acquire and release the device, and
refuses requests outside the window or off alignment **before** the device is asked to touch the
medium, so a bad argument never becomes an erase or a program.
-/

namespace FlashBench

variable {σ : Type}

/-- The right to use a device, from `Session.start` until `Session.free` or `Session.drop`. -/
structure Session (σ : Type) where
  device : Device σ

namespace Session

/-- The message on a session that was opened. -/
def openingText (device : Device σ) : Act σ String := do
  let first ← device.startAddress
  let size ← device.size
  let pageSize ← device.pageSize
  return s!"flash session opened: start {Text.address first.toNat}, size {Text.hex size.toNat}, "
    ++ s!"page {Text.hex pageSize.toNat}"

/-- Acquires the device. -/
def start (device : Device σ) : Attempt FlashError σ (Session σ) := do
  device.init
  ExceptT.lift (Act.noteWith .debug (openingText device))
  return ⟨device⟩

/-- Releases the device. The session is over even when the device refuses. -/
def free (session : Session σ) : Attempt FlashError σ Unit := do
  session.device.free
  Attempt.note .debug "flash session freed"

/-- Ends a session that was not freed; a refused release is only noted. -/
def drop (session : Session σ) : Act σ Unit := do
  match ← session.device.free.run with
  | .ok () => return ()
  | .error error =>
    Act.note .warn s!"flash session dropped without free and release failed: {error.message}"

/-- Runs something that uses the session. A fault inside ends the session as well. -/
def guarding {ε α : Type} (session : Session σ) (attempt : Attempt ε σ α) : Attempt ε σ α :=
  ExceptT.mk (tryCatchThe Fault attempt.run fun f => do
    session.drop
    Act.fault f)

/-- The first address behind the device window. -/
def endAddress (session : Session σ) : Act σ Nat := do
  let first ← session.device.startAddress
  let size ← session.device.size
  return first.toNat + size.toNat

/-- Refuses an access that leaves the device window. -/
def checkRange (session : Session σ) (address : UInt32) (len : Nat) :
    Attempt FlashError σ Unit := do
  if address.toNat < (← session.device.startAddress).toNat then throw .outOfRange
  if address.toNat + len > (← session.endAddress) then throw .outOfRange

/-- Erases the sector that starts at `address`. -/
def eraseSector (session : Session σ) (address : UInt32) : Attempt FlashError σ Unit := do
  let size ← session.device.sectorSize address
  if size = invalidSize then throw .outOfRange
  if size = 0 ∨ address % size ≠ 0 then throw .alignment
  session.device.eraseSector address

/-- Programs whole pages from `address` on. -/
def programPage (session : Session σ) (address : UInt32) (data : ByteArray) :
    Attempt FlashError σ Unit := do
  session.checkRange address data.size
  let pageSize ← session.device.pageSize
  if data.size = 0 then throw .alignment
  let excess ← Attempt.checked (Word.remainder data.size pageSize.toNat)
  if excess ≠ 0 ∨ address % pageSize ≠ 0 then throw .alignment
  session.device.programPage address data

/-- Reads `len` bytes from `address` on. Reads need no alignment. -/
def read (session : Session σ) (address : UInt32) (len : Nat) :
    Attempt FlashError σ ByteArray := do
  session.checkRange address len
  session.device.read address len

end Session

end FlashBench
