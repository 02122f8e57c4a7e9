import FlashBench.Part.Creation
import FlashBench.Part.Rig
import FlashBench.Validation.Validator

/-!
# Bench commands

What can be asked of a bench, and what it answers.
-/

namespace FlashBench

/-- One request to a bench. -/
inductive Command where
  | openSession (slot : Nat)
  | freeSession (slot : Nat)
  | dropSession (slot : Nat)
  | sessionInfo (slot : Nat)
  | sessionSectorSize (slot : Nat) (address : UInt32)
  | sessionErase (slot : Nat) (address : UInt32)
  | sessionProgram (slot : Nat) (address : UInt32) (data : ByteArray)
  | sessionRead (slot : Nat) (address : UInt32) (len : Nat)
  | deviceInit
  | deviceFree
  | deviceErase (address : UInt32)
  | deviceProgram (address : UInt32) (data : ByteArray)
  | deviceRead (address : UInt32) (len : Nat)
  | distort (distortion : Distortion)
  | writeControl (value : UInt32)
  | writeStatus (value : UInt32)
  | writeAddress (value : UInt32)
  | writeBuffer (data : ByteArray)
  | poll (ticks : Nat)
  | directRead (address : UInt32) (len : Nat)
  | dump
  | lookUp (address : UInt32)
  | setStalled (on : Bool)
  | setDropWrites (on : Bool)
  | setFailInit (on : Bool)
  | setEraseClock (hz : UInt32)
  | advanceCounter (ticks : Nat)
  | readCounter
  | setCpuClock (hz : UInt32)
  | spin (cycles : UInt32)
  | sample (cycles : UInt32)
  | measure (cycles : UInt32)
  | protect (window : UInt32)
  | checkGeometry
  | walk (limit : Nat)
  | validate (config : ValidatorConfig)
  | newValidator (config : ValidatorConfig)
  | validatorEvent
  | runValidator
  | dropValidator
  /-- Ends the part and brings it up again. -/
  | reopen

/-- What a device says of itself through a session. -/
structure SessionInfo where
  start : UInt32
  size : UInt32
  stop : Nat
  pageSize : UInt32
  eraseValue : UInt8
  deviceSize : UInt32

/-- What a bench answers. -/
inductive Answer where
  /-- There is nothing to say. -/
  | silent
  | slotBusy
  | slotEmpty
  | noValidator
  | outcome (result : Except FlashError Unit)
  | bytes (result : Except FlashError ByteArray)
  | rawBytes (result : Except OperationError ByteArray)
  | medium (bytes : ByteArray)
  | number (n : Nat)
  | flag (on : Bool)
  | info (info : SessionInfo)
  | sector (size : UInt32) (start : Option UInt32) (mapSize count : UInt32)
  | sampled (sample : TimerSample) (micros : Nat)
  | protection (protection : Protection)
  | geometry (result : Except GeometryError GeometryReport)
  | items (items : List (Option (Except GeometryError Sector)))
  | report (report : ValidationReport)
  | created (state : ValidatorState)
  | progress (state : ValidatorState) (finished : Bool)

/-- What can be seen of a rig from outside. -/
structure Snapshot where
  control : UInt32
  status : UInt32
  enable : UInt32
  address : UInt32
  counter : UInt32
  cpuHz : UInt32

/-- The registers and clocks of a rig. -/
def Rig.snapshot (rig : Rig) : Snapshot where
  control := rig.ctrl.control
  status := rig.ctrl.status
  enable := rig.ctrl.enable
  address := rig.ctrl.address
  counter := rig.clocks.counter
  cpuHz := rig.clocks.cpuHz

end FlashBench
