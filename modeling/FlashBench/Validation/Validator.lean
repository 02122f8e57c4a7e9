import FlashBench.Clock.Measure
import FlashBench.Device.Session
import FlashBench.Memory
import FlashBench.Validation.Config
import FlashBench.Validation.Report

/-!
# The validator

A validation run checks the geometry of a device, erases and programs the top of it, and times a
busy loop before and after, to catch drivers that change the CPU clock on the way. It is a state
machine with one step per event; a failing step ends it, and nothing is tried twice.

* **The session** is opened by the first step and released by `verify`, or by the failure that comes
  before it.
* **Reserved sectors**, those that start below `reservedEnd`, are skipped and never erased.
-/

namespace FlashBench

variable {σ : Type}

/-- Bytes that a comparison reads at a time. -/
def readChunk : Nat := 256

/-- The page that the program step wrote, and the sector it lies in. -/
structure ProgramTarget where
  address : UInt32
  sector : UInt32
  sectorSize : UInt32
deriving DecidableEq, Repr, Inhabited

/-- A validation run under way. -/
structure Validator where
  config : ValidatorConfig
  state : ValidatorState := .at .init
  /-- The run holds the session. -/
  holdsSession : Bool := false
  baseline : Option TimerSample := none
  finalSample : Option TimerSample := none
  geometry : Option GeometryReport := none
  target : Option ProgramTarget := none
  outcomes : List (Step × StepOutcome) := []
deriving DecidableEq, Repr, Inhabited

/-- A part of a step, which may fail. -/
abbrev Attempted (σ : Type) : Type → Type := Attempt ValidationError σ

/-- How a step ended, and the run after it. -/
abbrev StepResult : Type := Except ValidationError StepOutcome × Validator

namespace Validator

/-- Reads `len` bytes from `address` on, in chunks, and compares each with `expected`. At most
`chunks` reads are made; `done` bytes have been compared already. -/
def compareChunks (session : Session σ) (address len : UInt32) (expected : UInt8) :
    Nat → Nat → Attempted σ Unit
  | 0, _ => return ()
  | chunks + 1, done => do
    if done < len.toNat then
      let chunk := min (len.toNat - done) readChunk
      let base ← Attempt.checked (Word.fit32 (address.toNat + done))
      let bytes ← (session.read base chunk).withError ValidationError.flash
      match bytes.data.toList.findIdx? (· ≠ expected) with
      | some i =>
        throw (.verificationMismatch address (Word.low32 (done + i)) expected
          (bytes.data[i]?.getD expected))
      | none => compareChunks session address len expected chunks (done + chunk)

/-- Checks that every one of `len` bytes from `address` on is `expected`. -/
def expectFill (session : Session σ) (address len : UInt32) (expected : UInt8) : Attempted σ Unit :=
  compareChunks session address len expected (len.toNat / readChunk + 1) 0

/-- The session of the run. The steps from the second to the release of the session have one. -/
def session (device : Device σ) (validator : Validator) : Attempted σ (Session σ) :=
  if validator.holdsSession then return ⟨device⟩ else throw (.flash .initFailure)

/-- A step that leaves the run as it was when it fails. -/
def leavingUnchanged (validator : Validator)
    (attempt : Attempted σ (StepOutcome × Validator)) : Act σ StepResult := do
  match ← attempt.run with
  | .ok (outcome, next) => return (.ok outcome, next)
  | .error error => return (.error error, validator)

/-- Takes the first sample. -/
def takeBaseline (timer : CycleTimer σ) (config : ValidatorConfig) : Act σ TimerSample := do
  let protection ← timer.protect config.windowTicks
  let sample ← timer.sample config.cycles
  Act.noteWith .info do
    let micros ← sample.elapsedMicros
    return s!"baseline: {config.cycles} cycles in {micros} us ({protection.label})"
  return sample

/-- Opens the session and takes the first sample. -/
def initStep (device : Device σ) (timer : CycleTimer σ) (validator : Validator) :
    Act σ StepResult :=
  validator.leavingUnchanged do
    let session ← (Session.start device).withError ValidationError.flash
    let sample ← session.guarding (takeBaseline timer validator.config)
    return (.passed, { validator with holdsSession := true, baseline := some sample })

open Text in
/-- Checks the geometry of the device. -/
def geometryStep (device : Device σ) (validator : Validator) : Act σ StepResult :=
  validator.leavingUnchanged do
    let session ← validator.session device
    session.guarding do
      let report ← (checkGeometry device).withError ValidationError.geometry
      Attempt.note .info
        (s!"{report.sectors} sectors, {hex report.minSectorSize.toNat}..="
          ++ s!"{hex report.maxSectorSize.toNat} bytes, page {hex report.pageSize.toNat}")
      return (.passed, { validator with geometry := some report })

/-- Erases the last sector and checks that it reads as erased, unless it is reserved. -/
def eraseLastSector (device : Device σ) (session : Session σ) (reservedEnd : UInt32) :
    Attempted σ StepOutcome := do
  let lastByte ← Attempt.checked (Word.minus (← session.endAddress) 1)
  let sectorSize ← device.sectorSize (Word.low32 lastByte)
  let sector := Word.low32 (← Attempt.checked (Word.minus (← session.endAddress) sectorSize.toNat))
  let excess ← Attempt.checked (Word.remainder sector.toNat sectorSize.toNat)
  if excess ≠ 0 then throw (.geometry (.misaligned sector sectorSize))
  if sector < reservedEnd then
    return .skipped (.reserved sector reservedEnd)
  (session.eraseSector sector).withError ValidationError.flash
  expectFill session sector sectorSize (← device.eraseValue)
  return .passed

/-- Erases the last sector. -/
def eraseStep (device : Device σ) (validator : Validator) : Act σ StepResult :=
  validator.leavingUnchanged do
    let session ← validator.session device
    let outcome ←
      session.guarding (eraseLastSector device session validator.config.reservedEnd)
    return (outcome, validator)

/-- Two patterns show programming on a part when they differ from each other and from its erase
value. -/
def distinctPatterns (first second eraseValue : UInt8) : Bool :=
  !(first == second || first == eraseValue || second == eraseValue)

/-- The page to program in a window from `start` to `stop`: the second to last one, or the only
one. -/
def targetPage? (start stop pageSize : Nat) : Option Nat :=
  if start + 2 * pageSize ≤ stop then some (stop - 2 * pageSize)
  else if start + pageSize ≤ stop then some (stop - pageSize)
  else none

/-- Erases the sector of the target page, programs one pattern into the page and reads it back. -/
def programPattern (session : Session σ) (sector address pageSize : UInt32) (pattern : UInt8) :
    Attempted σ Unit := do
  (session.eraseSector sector).withError ValidationError.flash
  (session.programPage address (Memory.filled pageSize.toNat pattern)).withError
    ValidationError.flash
  expectFill session address pageSize pattern

/-- Programs the two patterns, one after the other, into the target page, unless its sector is
reserved. Answers the target that was programmed. -/
def programTarget (device : Device σ) (session : Session σ) (config : ValidatorConfig) :
    Attempted σ (StepOutcome × Option ProgramTarget) := do
  let eraseValue ← device.eraseValue
  unless distinctPatterns config.firstPattern config.secondPattern eraseValue do
    throw (.indistinctPatterns config.firstPattern config.secondPattern eraseValue)
  let pageSize ← device.pageSize
  let start ← device.startAddress
  let stop ← session.endAddress
  match targetPage? start.toNat stop pageSize.toNat with
  | none => throw (.geometry (.invalidPageSize pageSize))
  | some page =>
    let address := Word.low32 page
    let sectorSize ← device.sectorSize address
    let sector := alignDown address sectorSize
    if sector < config.reservedEnd then
      return (.skipped (.reserved sector config.reservedEnd), none)
    programPattern session sector address pageSize config.firstPattern
    programPattern session sector address pageSize config.secondPattern
    return (.passed, some { address, sector, sectorSize })

/-- Programs the target page. -/
def programStep (device : Device σ) (validator : Validator) : Act σ StepResult :=
  validator.leavingUnchanged do
    let session ← validator.session device
    let (outcome, target) ←
      session.guarding (programTarget device session validator.config)
    return (outcome, { validator with target })

/-- Checks that the target page holds the second pattern and that the rest of its sector is
erased. -/
def verifyTarget (device : Device σ) (session : Session σ) (pattern : UInt8)
    (target : ProgramTarget) : Attempted σ Unit := do
  let pageSize ← device.pageSize
  let erased ← device.eraseValue
  let pageEnd ← Attempt.checked (Word.fit32 (target.address.toNat + pageSize.toNat))
  let sectorEnd := target.sector.toNat + target.sectorSize.toNat
  expectFill session target.address pageSize pattern
  let before ← Attempt.checked (Word.minus target.address.toNat target.sector.toNat)
  expectFill session target.sector (Word.low32 before) erased
  let after ← Attempt.checked (Word.minus sectorEnd pageEnd.toNat)
  expectFill session pageEnd (Word.low32 after) erased

/-- Checks what the program step left, if it left anything. -/
def verifyProgrammed (device : Device σ) (session : Session σ) (validator : Validator) :
    Attempted σ StepOutcome := do
  match validator.target with
  | some target =>
    verifyTarget device session validator.config.secondPattern target
    return .passed
  | none => return .skipped .nothingProgrammed

/-- Verifies what was programmed and releases the session. -/
def verifyStep (device : Device σ) (validator : Validator) : Act σ StepResult := do
  if !validator.holdsSession then return (.error (.flash .initFailure), validator)
  let session : Session σ := ⟨device⟩
  match ← (session.guarding (verifyProgrammed device session validator)).run with
  | .error error => return (.error error, validator)
  | .ok outcome =>
    let released := { validator with holdsSession := false }
    match ← session.free.run with
    | .error error => return (.error (.flash error), released)
    | .ok () => return (.ok outcome, released)

/-- The drift that is allowed for a baseline, none for a divisor of zero. -/
def allowedDrift (baseline : Nat) (divisor : UInt32) : Nat := baseline / divisor.toNat

/-- How far two durations are apart. -/
def apart (a b : Nat) : Nat := (a - b) + (b - a)

/-- The verdict on two durations. -/
def judgeDrift (baseline measured allowed : Nat) : Except ValidationError StepOutcome :=
  if apart measured baseline > allowed then .error (.driftExceeded baseline measured allowed)
  else .ok .passed

/-- Takes the second sample and compares it with the first. -/
def driftStep (timer : CycleTimer σ) (validator : Validator) : Act σ StepResult := do
  match validator.baseline with
  | none => return (.error .missingBaseline, validator)
  | some first =>
    let baseline ← first.elapsedMicros
    let _ ← timer.protect validator.config.windowTicks
    let second ← timer.sample validator.config.cycles
    let measured ← second.elapsedMicros
    let allowed := allowedDrift baseline validator.config.driftDivisor
    Act.note .info
      s!"after flash work: {measured} us (baseline {baseline} us, allowed drift {allowed} us)"
    return (judgeDrift baseline measured allowed, { validator with finalSample := some second })

/-- Carries out one step. -/
def perform (device : Device σ) (timer : CycleTimer σ) (validator : Validator) :
    Step → Act σ StepResult
  | .init => validator.initStep device timer
  | .geometryCheck => validator.geometryStep device
  | .erase => validator.eraseStep device
  | .program => validator.programStep device
  | .verify => validator.verifyStep device
  | .driftCheck => validator.driftStep timer

/-- Releases the session, if the run holds it. -/
def drop (device : Device σ) (validator : Validator) : Act σ Unit := do
  if validator.holdsSession then Session.drop ⟨device⟩

/-- The state of a run that came through `step`. -/
def stateAfter (step : Step) : ValidatorState :=
  match step.next with
  | some next => .at next
  | none => .done

/-- The message on a step that did not fail. -/
def noteOutcome (step : Step) : StepOutcome → Act σ Unit
  | .skipped reason => Act.note .warn s!"{step.label} skipped: {reason.message}"
  | _ => Act.note .info s!"{step.label} passed"

/-- Runs the current step and moves on. Nothing happens once the run has ended. -/
def onEvent (device : Device σ) (timer : CycleTimer σ) (validator : Validator) :
    Act σ Validator := do
  match validator.state with
  | .at step =>
    let (result, validator) ← validator.perform device timer step
    match result with
    | .ok outcome =>
      noteOutcome step outcome
      return { validator with
        state := stateAfter step
        outcomes := validator.outcomes ++ [(step, outcome)] }
    | .error error =>
      Act.note .error s!"{step.label} failed: {error.message}"
      validator.drop device
      return { validator with
        state := .failed error
        holdsSession := false
        outcomes := validator.outcomes ++ [(step, .failed error)] }
  | _ => return validator

/-- The run has ended. -/
def isFinished (validator : Validator) : Bool :=
  match validator.state with
  | .at _ => false
  | _ => true

/-- Events until the run has ended, at most `events` of them. -/
def runEvents (device : Device σ) (timer : CycleTimer σ) : Nat → Validator → Act σ Validator
  | 0, validator => return validator
  | events + 1, validator => do
    if validator.isFinished then return validator
    runEvents device timer events (← validator.onEvent device timer)

/-- The elapsed time of a sample that may not have been taken. -/
def elapsed? : Option TimerSample → Act σ (Option Nat)
  | some sample => return some (← sample.elapsedMicros)
  | none => return none

/-- The report of a run. -/
def report (validator : Validator) : Act σ ValidationReport := do
  let baselineMicros ← elapsed? validator.baseline
  let finalMicros ← elapsed? validator.finalSample
  return {
    state := validator.state
    outcomes := validator.outcomes
    geometry := validator.geometry
    baselineMicros
    finalMicros }

/-- Drives the run to its end and reports. Every event ends a step, so there are no more events than
steps. -/
def run (device : Device σ) (timer : CycleTimer σ) (validator : Validator) :
    Act σ ValidationReport := do
  (← runEvents device timer Step.all.length validator).report

end Validator

end FlashBench
