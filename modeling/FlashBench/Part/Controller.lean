import FlashBench.Part.Layout
import FlashBench.Memory
import FlashBench.Part.Register

/-!
# The flash controller

Registers, a page buffer and the medium of an emulated part. Software writes an address, fills the
page buffer and writes `control` with the start bit; the operation completes after a number of
controller ticks (`poll`) and is then reported in the status register. Reads go straight to the
medium.

* **One operation at a time.** While one is in flight the enable bit is clear and writes to
  `control` change nothing.
* **The medium changes on completion only,** and a part with a backing image keeps the image equal
  to the medium.
-/

namespace FlashBench

/-- What the controller can be told to do to the medium. -/
inductive FlashOperation where
  | programPage
  | eraseSector
deriving DecidableEq, Repr, Inhabited

namespace FlashOperation

/-- The number of the operation in the control register. -/
def code : FlashOperation → UInt32
  | programPage => 2
  | eraseSector => 3

/-- The operation a number in the control register stands for. -/
def ofCode? (code : UInt32) : Option FlashOperation :=
  if code = 2 then some programPage else if code = 3 then some eraseSector else none

/-- The name of the operation in the log. -/
def label : FlashOperation → String
  | programPage => "ProgramPage"
  | eraseSector => "EraseSector"

end FlashOperation

/-- Why an operation ended without success. -/
inductive OperationError where
  | writeError
  | eraseError
  | invalidOperation
  | storageError
deriving DecidableEq, Repr, Inhabited

/-- The number of the error in the status register. -/
def OperationError.code : OperationError → UInt32
  | writeError => 1
  | eraseError => 2
  | invalidOperation => 3
  | storageError => 4

/-- What an operation that has completed did. -/
inductive Completion where
  /-- The page at an address was programmed. -/
  | programmed (address : UInt32)
  /-- A program was reported as done without touching the medium. -/
  | dropped (address : UInt32)
  /-- The sector at an address was erased. -/
  | erased (address : UInt32)
  /-- The operation ended with an error. -/
  | refused (error : OperationError)
deriving DecidableEq, Repr, Inhabited

/-- A controller and its medium. -/
structure Controller where
  layout : FlashLayout
  /-- The regions of the layout. -/
  sectorMap : SectorMap
  /-- Bytes of the part. -/
  capacity : Nat
  timing : FlashTiming
  control : UInt32 := 0
  status : UInt32 := 0
  enable : UInt32 := 1
  address : UInt32 := 0
  pageBuffer : ByteArray
  medium : ByteArray
  /-- The whole backing image, at least as long as the medium. -/
  image : Option ByteArray := none
  /-- Ticks until the operation in flight completes. -/
  busy : Option UInt32 := none
  /-- Operations in flight make no progress. -/
  stalled : Bool := false
  /-- Programs are reported as done without touching the medium. -/
  dropWrites : Bool := false
  /-- The controller refuses to come out of reset. -/
  failInit : Bool := false
  /-- The frequency to which every erase switches the CPU. -/
  eraseClockHz : Option UInt32 := none

namespace Controller

/-- The contents of a backing image when the controller opens it: an image that is too short is
replaced by one full of the erase value. -/
def preparedImage (capacity : Nat) (eraseValue : UInt8) (image : ByteArray) : ByteArray :=
  if image.size < capacity then Memory.filled capacity eraseValue else image

/-- An idle controller. The medium is what the prepared image holds, or erased without an image. -/
def create (layout : FlashLayout) (sectorMap : SectorMap) (capacity : Nat) (timing : FlashTiming)
    (image : Option ByteArray) : Controller :=
  { layout, sectorMap, capacity, timing
    pageBuffer := Memory.filled layout.pageSize.toNat 0
    medium := image.elim (Memory.filled capacity layout.eraseValue) (·.extract 0 capacity)
    image }

/-- The control register may be written. -/
def isEnabled (ctrl : Controller) : Bool := Register.enable.read ctrl.enable ≠ 0

/-- Ticks that an operation keeps the controller busy for; an operation it does not know takes
none. -/
def ticksOf (ctrl : Controller) : Option FlashOperation → UInt32
  | some .programPage => ctrl.timing.programTicks
  | some .eraseSector => ctrl.timing.eraseTicks
  | none => 0

/-- The operation that the control register names. -/
def operation? (ctrl : Controller) : Option FlashOperation :=
  FlashOperation.ofCode? (Register.operation.read ctrl.control)

/-- Writes the control register, and starts an operation when the start bit is set. Nothing happens
while an operation is in flight. -/
def writeControl (ctrl : Controller) (value : UInt32) : Controller :=
  if !ctrl.isEnabled then ctrl
  else
    let ctrl := { ctrl with control := value }
    if Register.start.read value = 0 then ctrl
    else { ctrl with
      enable := Register.enable.write ctrl.enable 0
      busy := some (ctrl.ticksOf ctrl.operation?) }

/-- Loads the page buffer. Data beyond a page is ignored; data short of one leaves the rest as it
was. -/
def writePageBuffer (ctrl : Controller) (data : ByteArray) : Controller :=
  { ctrl with
    pageBuffer := Memory.overwrite ctrl.pageBuffer 0 (data.extract 0 ctrl.pageBuffer.size) }

/-- Where an access of `len` bytes at `address` starts in the medium, if it lies inside. -/
def offsetOf (ctrl : Controller) (address : UInt32) (len : Nat) : Option Nat :=
  if address < ctrl.layout.start then none
  else
    let offset := (address - ctrl.layout.start).toNat
    if offset + len ≤ ctrl.capacity then some offset else none

/-- Reads the medium. -/
def directRead (ctrl : Controller) (address : UInt32) (len : Nat) :
    Except OperationError ByteArray :=
  match ctrl.offsetOf address len with
  | some offset => .ok (ctrl.medium.extract offset (offset + len))
  | none => .error .storageError

/-- Replaces bytes of the medium and of the image. Writing the image does not fail: no operation ends
with a `storageError`, which is left for reads outside the medium. -/
def store (ctrl : Controller) (offset : Nat) (bytes : ByteArray) : Controller :=
  { ctrl with
    medium := Memory.overwrite ctrl.medium offset bytes
    image := ctrl.image.map (Memory.overwrite · offset bytes) }

/-- Programs the page at the address register from the page buffer. -/
def programPage (ctrl : Controller) : Completion × Controller :=
  let address := ctrl.address
  let pageSize := ctrl.layout.pageSize
  if address % pageSize ≠ 0 then (.refused .writeError, ctrl)
  else match ctrl.offsetOf address pageSize.toNat with
    | none => (.refused .writeError, ctrl)
    | some offset =>
      if ctrl.dropWrites then (.dropped address, ctrl)
      else
        let old := ctrl.medium.extract offset (offset + pageSize.toNat)
        let new := Memory.programmed ctrl.layout.eraseValue old ctrl.pageBuffer
        (.programmed address, ctrl.store offset new)

/-- Erases the sector at the address register. -/
def eraseSector (ctrl : Controller) : Completion × Controller :=
  let address := ctrl.address
  let size := ctrl.sectorMap.sectorSize address
  if size = invalidSize ∨ address % size ≠ 0 then (.refused .eraseError, ctrl)
  else match ctrl.offsetOf address size.toNat with
    | none => (.refused .eraseError, ctrl)
    | some offset =>
      (.erased address, ctrl.store offset (Memory.filled size.toNat ctrl.layout.eraseValue))

/-- The status register after an operation. -/
def statusAfter (status : UInt32) : Completion → UInt32
  | .refused error => Register.error.write status error.code
  | _ => Register.done.write status 1

/-- Carries out the operation in flight and reports it. -/
def complete (ctrl : Controller) : Completion × Controller :=
  let (completion, ctrl) := match ctrl.operation? with
    | some .programPage => ctrl.programPage
    | some .eraseSector => ctrl.eraseSector
    | none => (.refused .invalidOperation, ctrl)
  (completion, { ctrl with
    status := statusAfter ctrl.status completion
    control := Register.start.write ctrl.control 0
    enable := Register.enable.write ctrl.enable 1
    busy := none })

/-- One controller tick. -/
def poll (ctrl : Controller) : Option Completion × Controller :=
  match ctrl.busy with
  | none => (none, ctrl)
  | some ticks =>
    if ctrl.stalled then (none, ctrl)
    else if ticks > 1 then (none, { ctrl with busy := some (ticks - 1) })
    else
      let (completion, ctrl) := ctrl.complete
      (some completion, ctrl)

end Controller

end FlashBench
