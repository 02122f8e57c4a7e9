import FlashBench.Bench.Command

/-!
# Running a bench

A bench holds one emulated part with its driver and clocks, sessions in numbered slots, and at
most one validator. It carries out commands in order until one ends in a fault.
-/

namespace FlashBench

/-- What a bench is built from. -/
structure BenchSetup where
  layout : FlashLayout
  timing : FlashTiming := {}
  pollTimeout : UInt32 := 10000
  clocks : Clocks
  /-- Path of the backing image. -/
  backing : Option String := none
  distortion : Distortion := {}

/-- A bench at work. -/
structure Bench where
  setup : BenchSetup
  files : FileTree
  rig : Rig
  /-- Where the backing image lies. -/
  location : Option Location
  /-- The slots that hold a session, in ascending order. -/
  openSlots : List Nat := []
  validator : Option Validator := none

/-- One line of the record that a bench keeps. -/
inductive BenchEntry where
  /-- The part was brought up, or was not. -/
  | creation (result : Except Fault (Except CreationError Unit))
  /-- A command was carried out. -/
  | step (result : Except Fault Answer) (after : Snapshot)

namespace Bench

/-- Counter reads that one command may make. -/
def readsPerCommand : Nat := 200000

/-- The device that sessions and validators use. -/
def device : Device Rig := Rig.distortedDevice

/-- The timer that validators use. -/
def timer : CycleTimer Rig := Rig.timer enoughReads

/-- Does something with the rig. -/
def onRig {α : Type} (act : Act Rig α) : Act Bench α :=
  Act.zoom (·.rig) (fun rig bench => { bench with rig }) act

/-- Changes the controller. -/
def onCtrl (f : Controller → Controller) : Act Bench Answer := do
  onRig (Rig.changeCtrl f)
  return .silent

/-- Changes the clocks. -/
def onClocks (f : Clocks → Clocks) : Act Bench Answer := do
  onRig (Act.change fun rig => { rig with clocks := f rig.clocks })
  return .silent

/-- Does something with the session in a slot. -/
def withSession (slot : Nat) (use : Session Rig → Act Rig Answer) : Act Bench Answer := do
  if slot ∈ (← Act.state).openSlots then onRig (use ⟨device⟩) else return .slotEmpty

/-- Opens a session in a free slot. -/
def openSession (slot : Nat) : Act Bench Answer := do
  if slot ∈ (← Act.state).openSlots then return .slotBusy
  match ← onRig (Session.start device).run with
  | .error error => return .outcome (.error error)
  | .ok _ =>
    Act.change fun bench =>
      { bench with openSlots := (slot :: bench.openSlots).mergeSort (· ≤ ·) }
    return .outcome (.ok ())

/-- Empties a slot, ending its session with `finish`. -/
def closeSession (slot : Nat) (finish : Session Rig → Act Rig Answer) : Act Bench Answer := do
  if slot ∈ (← Act.state).openSlots then
    Act.change fun bench => { bench with openSlots := bench.openSlots.erase slot }
    onRig (finish ⟨device⟩)
  else return .slotEmpty

/-- What the device says of itself. -/
def sessionInfo (session : Session Rig) : Act Rig Answer := do
  let start ← session.device.startAddress
  let size ← session.device.size
  let stop ← session.endAddress
  let pageSize ← session.device.pageSize
  let eraseValue ← session.device.eraseValue
  let deviceSize ← session.device.size
  return .info { start, size, stop, pageSize, eraseValue, deviceSize }

/-- What the sector map says of an address. -/
def lookUp (address : UInt32) : Act Rig Answer := do
  let map := (← Rig.ctrlNow).sectorMap
  let size ← Act.checked map.size
  let count ← Act.checked map.sectorCount
  return .sector (map.sectorSize address) (map.sectorStart address) size count

/-- Polls the controller a number of times. -/
def pollTimes : Nat → Act Rig Unit
  | 0 => return ()
  | ticks + 1 => do
    Rig.poll
    pollTimes ticks

/-- Ends the validator, if there is one. -/
def dropValidator : Act Bench Unit := do
  match (← Act.state).validator with
  | none => return ()
  | some validator =>
    Act.change fun bench => { bench with validator := none }
    onRig (validator.drop device)

/-- Lets the validator take one event. -/
def validatorEvent : Act Bench Answer := do
  match (← Act.state).validator with
  | none => return .noValidator
  | some validator =>
    Act.change fun bench => { bench with validator := none }
    let validator ← onRig (validator.onEvent device timer)
    Act.change fun bench => { bench with validator := some validator }
    return .progress validator.state validator.isFinished

/-- Lets the validator run to its end, which uses it up. -/
def runValidator : Act Bench Answer := do
  match (← Act.state).validator with
  | none => return .noValidator
  | some validator =>
    Act.change fun bench => { bench with validator := none }
    return .report (← onRig (validator.run device timer))

/-- Takes a sample and converts it. -/
def takeSample (cycles : UInt32) : Act Rig Answer := do
  let sample ← timer.sample cycles
  return .sampled sample (← sample.elapsedMicros)

/-- Carries out a command. `reopen` is no matter of the bench as it stands. -/
def perform : Command → Act Bench Answer
  | .openSession slot => openSession slot
  | .freeSession slot => closeSession slot fun session => return .outcome (← session.free.run)
  | .dropSession slot => closeSession slot fun session => do
    session.drop
    return .outcome (.ok ())
  | .sessionInfo slot => withSession slot sessionInfo
  | .sessionSectorSize slot address => withSession slot fun session =>
    return .number (← session.device.sectorSize address).toNat
  | .sessionErase slot address => withSession slot fun session =>
    return .outcome (← (session.eraseSector address).run)
  | .sessionProgram slot address data => withSession slot fun session =>
    return .outcome (← (session.programPage address data).run)
  | .sessionRead slot address len => withSession slot fun session =>
    return .bytes (← (session.read address len).run)
  | .deviceInit => return .outcome (← onRig device.init.run)
  | .deviceFree => return .outcome (← onRig device.free.run)
  | .deviceErase address => return .outcome (← onRig (device.eraseSector address).run)
  | .deviceProgram address data => return .outcome (← onRig (device.programPage address data).run)
  | .deviceRead address len => return .bytes (← onRig (device.read address len).run)
  | .distort distortion => do
    onRig (Act.change fun rig => { rig with distortion })
    return .silent
  | .writeControl value => do
    onRig (Rig.writeControl value)
    return .silent
  | .writeStatus value => onCtrl fun ctrl => { ctrl with status := value }
  | .writeAddress value => onCtrl fun ctrl => { ctrl with address := value }
  | .writeBuffer data => onCtrl (·.writePageBuffer data)
  | .poll ticks => do
    onRig (pollTimes ticks)
    return .silent
  | .directRead address len => return .rawBytes ((← onRig Rig.ctrlNow).directRead address len)
  | .dump => return .medium (← onRig Rig.ctrlNow).medium
  | .lookUp address => onRig (lookUp address)
  | .setStalled on => onCtrl fun ctrl => { ctrl with stalled := on }
  | .setDropWrites on => onCtrl fun ctrl => { ctrl with dropWrites := on }
  | .setFailInit on => do
    onRig (Rig.changeCtrl fun ctrl => { ctrl with failInit := on })
    return .flag on
  | .setEraseClock hz => onCtrl fun ctrl => { ctrl with eraseClockHz := some hz }
  | .advanceCounter ticks => onClocks (·.advance ticks)
  | .readCounter => return .number (← onRig Rig.ticker.read).toNat
  | .setCpuClock hz => onClocks fun clocks => { clocks with cpuHz := hz }
  | .spin cycles => do
    onRig (timer.spin cycles)
    return .silent
  | .sample cycles => onRig (takeSample cycles)
  | .measure cycles => return .number (← onRig (timer.measure cycles))
  | .protect window => return .protection (← onRig (timer.protect window))
  | .checkGeometry => return .geometry (← onRig (FlashBench.checkGeometry device).run)
  | .walk limit => do
    let walk ← onRig (SectorWalk.begin device)
    return .items (← onRig (SectorWalk.items device limit walk))
  | .validate config => return .report (← onRig (({ config } : Validator).run device timer))
  | .newValidator config => do
    dropValidator
    let validator : Validator := { config }
    Act.change fun bench => { bench with validator := some validator }
    return .created validator.state
  | .validatorEvent => validatorEvent
  | .runValidator => runValidator
  | .dropValidator => do
    dropValidator
    return .silent
  | .reopen => return .silent

/-- Ends what uses the part: the validator first, then the sessions by slot. -/
def release : Act Bench Unit := do
  dropValidator
  for slot in (← Act.state).openSlots do
    let _ ← closeSession slot fun session => do
      session.drop
      return .silent

/-- The file tree once the part is gone. -/
def finalFiles (bench : Bench) : FileTree := bench.rig.ctrl.saveImage bench.location bench.files

/-- A bench around a new part. -/
def bringUp (setup : BenchSetup) (clocks : Clocks) :
    Attempt CreationError FileTree Bench := do
  let opened ← Controller.bringUp setup.layout setup.timing setup.backing
  let files ← (Act.state : Act FileTree FileTree)
  return {
    setup
    files
    rig := {
      ctrl := opened.ctrl
      pollTimeout := setup.pollTimeout
      clocks
      distortion := setup.distortion }
    location := opened.location }

/-- What a bench did: its record, the file tree and the log. -/
structure Record where
  entries : Array BenchEntry := #[]
  files : FileTree
  log : Log := {}

/-- Adds a line to a record. -/
def Record.push (record : Record) (entry : BenchEntry) : Record :=
  { record with entries := record.entries.push entry }

/-- Brings the part up and notes how it went. Without a part there is no bench. -/
def start (setup : BenchSetup) (clocks : Clocks) (record : Record) : Option Bench × Record :=
  let (outcome, world) :=
    (bringUp setup clocks).run.runOn { state := record.files, log := record.log }
  let record := { record with files := world.state, log := world.log }
  match outcome with
  | .error fault => (none, record.push (.creation (.error fault)))
  | .ok (.error error) => (none, record.push (.creation (.ok (.error error))))
  | .ok (.ok bench) => (some bench, record.push (.creation (.ok (.ok ()))))

/-- Carries out one command and notes how it went. -/
def step (bench : Bench) (command : Command) (record : Record) :
    Except Fault Answer × Bench × Record :=
  let ready := { bench with rig := { bench.rig with clocks := bench.rig.clocks.forgetReads } }
  let (outcome, world) := (perform command).runOn { state := ready, log := record.log }
  (outcome, world.state,
    { record with log := world.log }.push (.step outcome world.state.rig.snapshot))

/-- Ends the bench. -/
def finish (bench : Bench) (record : Record) : Record :=
  let (_, world) := release.runOn { state := bench, log := record.log }
  { record with files := world.state.finalFiles, log := world.log }

/-- Carries out commands until one ends in a fault. -/
def runFrom (bench : Bench) (record : Record) : List Command → Record
  | [] => bench.finish record
  | .reopen :: rest =>
    match start bench.setup bench.rig.clocks (bench.finish record) with
    | (none, record) => record
    | (some bench, record) => runFrom bench record rest
  | command :: rest =>
    match bench.step command record with
    | (.error _, bench, record) => bench.finish record
    | (.ok _, bench, record) => runFrom bench record rest

/-- Builds a bench and carries out commands on it, with messages down to `level` in its log. -/
def run (setup : BenchSetup) (files : FileTree) (level : Option LogLevel)
    (commands : List Command) : Record :=
  match start setup setup.clocks { files, log := { level } } with
  | (none, record) => record
  | (some bench, record) => bench.runFrom record commands

end Bench

end FlashBench
