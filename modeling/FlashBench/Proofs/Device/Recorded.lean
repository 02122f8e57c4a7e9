import FlashBench.Proofs.Clock.Measure
import FlashBench.Proofs.Device.Keeps

/-!
# Recorded devices

Any device and any timer, on hardware that also keeps a record of the erases and programs that
reached the device. The calls go through unchanged, the record is all there is beside them.

An erase or a program at an allowed address keeps a record of allowed calls (`recorded_keeps`), and
nothing else is recorded (`onHardware_keeps`).
-/

namespace FlashBench

variable {σ α ε : Type} {allowed : UInt32 → Prop}

/-- A call that may change the medium. -/
inductive MediumCall where
  | erase (address : UInt32)
  | program (address : UInt32) (data : ByteArray)

/-- Where the call is for. -/
def MediumCall.address : MediumCall → UInt32
  | erase address => address
  | program address _ => address

/-- Hardware, and the calls that reached its device so far. -/
structure Recorded (σ : Type) where
  hardware : σ
  calls : List MediumCall := []

/-- All recorded calls are for allowed addresses. -/
def Recorded.Within (allowed : UInt32 → Prop) (recorded : Recorded σ) : Prop :=
  ∀ call ∈ recorded.calls, allowed call.address

/-- Runs an action on the hardware below the record. -/
def Act.onHardware (act : Act σ α) : Act (Recorded σ) α :=
  Act.zoom (·.hardware) (fun hardware recorded => { recorded with hardware }) act

/-- Makes an attempt on the hardware below the record. -/
def Attempt.onHardware (attempt : Attempt ε σ α) : Attempt ε (Recorded σ) α :=
  ExceptT.mk attempt.run.onHardware

/-- Adds a call to the record. -/
def MediumCall.note (call : MediumCall) : Attempt FlashError (Recorded σ) Unit :=
  ExceptT.lift (Act.change fun recorded => { recorded with calls := recorded.calls ++ [call] })

/-- The device with a record of what reaches it. -/
def Device.recorded (device : Device σ) : Device (Recorded σ) where
  init := device.init.onHardware
  free := device.free.onHardware
  pageSize := device.pageSize.onHardware
  startAddress := device.startAddress.onHardware
  size := device.size.onHardware
  sectorSize address := (device.sectorSize address).onHardware
  eraseValue := device.eraseValue.onHardware
  eraseSector address := do
    MediumCall.note (.erase address)
    (device.eraseSector address).onHardware
  programPage address data := do
    MediumCall.note (.program address data)
    (device.programPage address data).onHardware
  read address len := (device.read address len).onHardware

/-- The timer on recorded hardware. -/
def CycleTimer.recorded (timer : CycleTimer σ) : CycleTimer (Recorded σ) where
  ticker := { info := timer.ticker.info.onHardware, read := timer.ticker.read.onHardware }
  spin cycles := (timer.spin cycles).onHardware
  patience := timer.patience

/-- The hardware has no access to the record. -/
theorem Act.onHardware_keeps (act : Act σ α) (allowed : UInt32 → Prop) :
    Act.Keeps (Recorded.Within allowed) act.onHardware :=
  Act.Keeps.zoom (Act.Keeps.const True act) (fun _ _ => trivial) fun _ _ hwithin _ => hwithin

theorem Attempt.onHardware_keeps (attempt : Attempt ε σ α) (allowed : UInt32 → Prop) :
    Attempt.Keeps (Recorded.Within allowed) attempt.onHardware :=
  attempt.run.onHardware_keeps allowed

theorem MediumCall.note_keeps {call : MediumCall} (h : allowed call.address) :
    Attempt.Keeps (Recorded.Within allowed) (call.note (σ := σ)) := by
  have hadd : Act.Keeps (Recorded.Within allowed)
      (Act.change fun recorded : Recorded σ =>
        { recorded with calls := recorded.calls ++ [call] }) := by
    refine .change _ fun recorded hwithin other hmem => ?_
    rcases List.mem_append.mp hmem with hold | hnew
    · exact hwithin other hold
    · rw [List.mem_singleton.mp hnew]
      exact h
  exact .lift hadd

/-- **A record of allowed calls** stays one as long as the calls are allowed. -/
theorem Device.recorded_keeps (device : Device σ) (allowed : UInt32 → Prop) :
    device.recorded.Keeps (Recorded.Within allowed) allowed where
  pageSize := device.pageSize.onHardware_keeps _
  startAddress := device.startAddress.onHardware_keeps _
  size := device.size.onHardware_keeps _
  sectorSize := fun address => (device.sectorSize address).onHardware_keeps _
  eraseValue := Act.onHardware_keeps device.eraseValue _
  eraseSector := fun address hallowed =>
    .bind (MediumCall.note_keeps hallowed) fun _ => (device.eraseSector address).onHardware_keeps _
  programPage := fun address data hallowed =>
    .bind (MediumCall.note_keeps hallowed) fun _ =>
      (device.programPage address data).onHardware_keeps _
  read := fun address len => (device.read address len).onHardware_keeps _

theorem CycleTimer.recorded_keeps (timer : CycleTimer σ) (allowed : UInt32 → Prop) :
    timer.recorded.Keeps (Recorded.Within allowed) where
  info := timer.ticker.info.onHardware_keeps _
  read := timer.ticker.read.onHardware_keeps _
  spin := fun cycles => (timer.spin cycles).onHardware_keeps _

end FlashBench
