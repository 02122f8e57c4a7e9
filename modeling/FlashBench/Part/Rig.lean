import FlashBench.Clock.Emulated
import FlashBench.Device.Distortion
import FlashBench.Device.Lock
import FlashBench.Part.Controller

/-!
# The rig

A controller, the lock and the poll timeout of its driver, and the clocks of the CPU it is
attached to. The driver works the registers: it starts an operation and polls until the controller
reports success or an error, or until the timeout is used up.
-/

namespace FlashBench

/-- An emulated part, its driver's state, and the clocks around it. -/
structure Rig where
  ctrl : Controller
  lock : SessionLock := {}
  /-- Controller ticks an erase or a program may take. -/
  pollTimeout : UInt32 := 10000
  clocks : Clocks
  /-- What a wrapper around the driver reports instead of the truth. -/
  distortion : Distortion := {}

namespace Rig

/-- The controller as it is. -/
def ctrlNow : Act Rig Controller := return (← Act.state).ctrl

/-- The poll timeout of the driver. -/
def timeoutNow : Act Rig UInt32 := return (← Act.state).pollTimeout

/-- Changes the controller. -/
def changeCtrl (f : Controller → Controller) : Act Rig Unit :=
  Act.change fun rig => { rig with ctrl := f rig.ctrl }

/-- Replaces the clocks. -/
def withClocks (clocks : Clocks) (rig : Rig) : Rig := { rig with clocks }

/-- Writes the control register; a write that has no effect is noted. -/
def writeControl (value : UInt32) : Act Rig Unit := do
  unless (← ctrlNow).isEnabled do
    Act.note .warn "flash control write while busy ignored"
  changeCtrl (·.writeControl value)

/-- What completing an operation does to the world around the controller: a dropped program is
noted, and an erase may switch the CPU clock. -/
def afterwards : Completion → Act Rig Unit
  | .dropped address => Act.note .debug s!"dropping program of page {Text.address address.toNat}"
  | .erased _ => do
    let rig ← Act.state
    match rig.ctrl.eraseClockHz with
    | none => return ()
    | some hz =>
      Act.note .warn s!"erase switched CPU clock from {rig.clocks.cpuHz} Hz to {hz} Hz"
      Act.change fun rig => { rig with clocks := { rig.clocks with cpuHz := hz } }
  | .programmed _ => return ()
  | .refused _ => return ()

/-- One controller tick. -/
def poll : Act Rig Unit := do
  let completion ← Act.changeGet fun rig =>
    let (completion, ctrl) := rig.ctrl.poll
    (completion, { rig with ctrl })
  match completion with
  | none => return ()
  | some completion => afterwards completion

/-- Polls until the operation at `address` is reported, at most `ticks` times. -/
def awaitCompletion (address : UInt32) : Nat → Attempt FlashError Rig Unit
  | 0 => do
    let timeout ← timeoutNow
    Attempt.note .error
      s!"flash operation at {Text.address address.toNat} not done after {timeout} ticks"
    throw .hardwareTimeout
  | ticks + 1 => do
    poll
    let status := (← ctrlNow).status
    if Register.done.read status ≠ 0 then
      changeCtrl fun ctrl => { ctrl with status := 0 }
    else
      let error := Register.error.read status
      if error ≠ 0 then
        changeCtrl fun ctrl => { ctrl with status := 0 }
        Attempt.note .error
          s!"flash operation at {Text.address address.toNat} failed with status {error}"
        throw .deviceFault
      else
        awaitCompletion address ticks

/-- Starts an operation and waits for it. An operation that timed out earlier may still hold the
controller, which refuses the new one. -/
def perform (operation : FlashOperation) (address : UInt32) : Attempt FlashError Rig Unit := do
  unless (← ctrlNow).isEnabled do
    Attempt.note .error s!"flash controller still busy, cannot start {operation.label}"
    throw .hardwareTimeout
  changeCtrl fun ctrl => { ctrl with status := 0, address }
  writeControl (Register.operation.of operation.code + Register.start.of 1)
  awaitCompletion address (← timeoutNow).toNat

/-- Programs the pages of `data` from page `index` on, at most `pages` of them. -/
def programPages (address : UInt32) (data : ByteArray) (pageSize : Nat) :
    Nat → Nat → Attempt FlashError Rig Unit
  | 0, _ => return ()
  | pages + 1, index => do
    let offset := index * pageSize
    changeCtrl (·.writePageBuffer (data.extract offset (offset + pageSize)))
    let target ← Attempt.checked (Word.fit32 (address.toNat + (Word.low32 offset).toNat))
    perform .programPage target
    programPages address data pageSize pages (index + 1)

/-- The number of pages that `len` bytes reach into. -/
def pageCount (len pageSize : Nat) : Nat := (len + pageSize - 1) / pageSize

/-- The driver of the controller. -/
def device : Device Rig where
  init := do
    if (← ctrlNow).failInit then throw .initFailure
    ExceptT.mk (Act.changeGet fun rig =>
      let (outcome, lock) := rig.lock.acquire
      (outcome, { rig with lock }))
  free := ExceptT.mk (Act.changeGet fun rig =>
    let (outcome, lock) := rig.lock.release
    (outcome, { rig with lock }))
  pageSize := return (← ctrlNow).layout.pageSize
  startAddress := return (← ctrlNow).layout.start
  size := do Act.checked (← ctrlNow).sectorMap.size
  sectorSize address := return (← ctrlNow).sectorMap.sectorSize address
  eraseValue := return (← ctrlNow).layout.eraseValue
  eraseSector := perform .eraseSector
  programPage address data := do
    let pageSize := (← ctrlNow).layout.pageSize.toNat
    programPages address data pageSize (pageCount data.size pageSize) 0
  read address len := do
    match (← ctrlNow).directRead address len with
    | .ok bytes => return bytes
    | .error _ => throw .outOfRange

/-- The driver as the wrapper around it shows it. -/
def distortedDevice : Device Rig := device.distorted (·.distortion)

/-- The counter of the rig. -/
def ticker : Ticker Rig := .ofClocks (·.clocks) withClocks

/-- The counter of the rig and the busy loop on its CPU. -/
def timer (patience : Nat) : CycleTimer Rig where
  ticker := ticker
  spin := spinClocks (·.clocks) withClocks
  patience := patience

end Rig

end FlashBench
