import FlashBench.Device.Table

/-!
# Distorted devices

A wrapper that makes a driver report something else than the truth: wrong geometry, errors in
place of calls, an erase that does nothing, flipped bits in what is read. What is not distorted
goes through to the driver.
-/

namespace FlashBench

variable {σ : Type}

/-- The bits that a distortion changes in the byte at one address. -/
structure BitFlip where
  address : Nat
  mask : UInt8
deriving DecidableEq, Repr, Inhabited

/-- What a distorted device reports instead of the truth. -/
structure Distortion where
  pageSize : Option UInt32 := none
  start : Option UInt32 := none
  size : Option UInt32 := none
  eraseValue : Option UInt8 := none
  sectorSizes : List TableEntry := []
  initError : Option FlashError := none
  freeError : Option FlashError := none
  eraseError : Option FlashError := none
  programError : Option FlashError := none
  readError : Option FlashError := none
  eraseIdle : Bool := false
  flips : List BitFlip := []
deriving Repr, Inhabited

namespace Distortion

/-- Applies one flip to bytes that were read from `address` on. -/
def flipOne (address : UInt32) (bytes : ByteArray) (f : BitFlip) : ByteArray :=
  if f.address < address.toNat then bytes
  else
    let i := f.address - address.toNat
    if h : i < bytes.size then bytes.set i (bytes[i] ^^^ f.mask) else bytes

/-- Applies the flips to bytes that were read from `address` on. -/
def flip (distortion : Distortion) (address : UInt32) (bytes : ByteArray) : ByteArray :=
  distortion.flips.foldl (flipOne address) bytes

end Distortion

/-- The device as the distortion of the moment lets it be seen. -/
def Device.distorted (device : Device σ) (current : σ → Distortion) : Device σ :=
  let now : Act σ Distortion := return current (← Act.state)
  let insteadOf {α : Type} (choose : Distortion → Option α) (truth : Act σ α) : Act σ α := do
    match choose (← now) with
    | some value => return value
    | none => truth
  let refusedBy {α : Type} (choose : Distortion → Option FlashError)
      (call : Attempt FlashError σ α) : Attempt FlashError σ α := do
    match choose (← now) with
    | some error => throw error
    | none => call
  { init := refusedBy (·.initError) device.init
    free := refusedBy (·.freeError) device.free
    pageSize := insteadOf (·.pageSize) device.pageSize
    startAddress := insteadOf (·.start) device.startAddress
    size := insteadOf (·.size) device.size
    sectorSize := fun address =>
      insteadOf (fun distortion => lookupSize distortion.sectorSizes address)
        (device.sectorSize address)
    eraseValue := insteadOf (·.eraseValue) device.eraseValue
    eraseSector := fun address => refusedBy (·.eraseError) do
      unless (← now).eraseIdle do device.eraseSector address
    programPage := fun address data =>
      refusedBy (·.programError) (device.programPage address data)
    read := fun address len => refusedBy (·.readError) do
      let bytes ← device.read address len
      return (← now).flip address bytes }

end FlashBench
