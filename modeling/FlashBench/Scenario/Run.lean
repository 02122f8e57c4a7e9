import FlashBench.Part.Creation
import FlashBench.Part.Rig
import FlashBench.Scenario.Basic
import FlashBench.Validation.Validator

/-!
# Running a scenario

The part of a scenario is built with its faults, a validation run is driven to its end on it, and
the backing image, if there is one, is left in the file tree. A part that cannot be built is a
failure of the setup; a run that fails is a report like any other.
-/

namespace FlashBench

/-- What all scenarios of a run share. -/
structure RunEnv where
  tickerBits : UInt8 := 32
  tickerHz : UInt32 := 1000000
  tickerStart : UInt32 := 0
  cpuHz : UInt32 := 400000000
  /-- The busy loop runs outside the emulation, where the emulated clocks do not see it. -/
  hostTiming : Bool := false
  pollTimeout : UInt32 := 10000
  /-- The directory of the backing images; without one nothing is kept. -/
  imageDirectory : Option String := none
deriving DecidableEq, Repr, Inhabited

/-- Why a scenario could not be run. -/
structure SetupError where
  scenario : String
  error : CreationError
deriving DecidableEq, Repr, Inhabited

/-- What was being done, what failed, and why. -/
def SetupError.message (setup : SetupError) : String :=
  s!"scenario {setup.scenario}: creating flash controller: {setup.error.message}: "
    ++ setup.error.cause

/-- A path below a directory; a name that starts with a slash stands for itself. -/
def joinPath (directory name : String) : String :=
  if name.startsWith "/" || directory.isEmpty then name
  else if directory.endsWith "/" then directory ++ name
  else directory ++ "/" ++ name

namespace Scenario

/-- The path of the backing image of a scenario. -/
def imagePath (scenario : Scenario) (env : RunEnv) : Option String :=
  env.imageDirectory.map fun directory => joinPath directory (scenario.name ++ ".bin")

/-- The clocks of a run. -/
def clocks (env : RunEnv) : Clocks :=
  ({ info := { hz := env.tickerHz, bits := env.tickerBits }
     cpuHz := env.cpuHz } : Clocks).startingAt env.tickerStart

/-- The part of a scenario with its faults. A CPU outside the emulation has no clock to switch. -/
def rig (scenario : Scenario) (env : RunEnv) (ctrl : Controller) : Rig where
  ctrl := { ctrl with
    stalled := scenario.faults.stalled
    dropWrites := scenario.faults.dropWrites
    eraseClockHz := if env.hostTiming then none else scenario.faults.eraseClockHz }
  pollTimeout := env.pollTimeout
  clocks := clocks env

/-- The timer of a run. -/
def timer (env : RunEnv) : CycleTimer Rig :=
  if env.hostTiming then .standing env.tickerBits enoughReads else Rig.timer enoughReads

/-- Drives the validation run of a scenario to its end. -/
def validate (scenario : Scenario) (env : RunEnv) : Act Rig ValidationReport := do
  Act.noteWith .info do
    let capacity ← Act.checked scenario.layout.capacity
    return s!"scenario {scenario.name}: {Text.address scenario.layout.start.toNat}+"
      ++ Text.hex capacity
  if env.hostTiming ∧ scenario.faults.eraseClockHz.isSome then
    Act.note .warn s!"scenario {scenario.name}: clock fault ignored with host timing"
  ({ config := scenario.validator } : Validator).run Rig.device (timer env)

/-- Runs a scenario on a file tree. -/
def run (scenario : Scenario) (env : RunEnv) : Attempt SetupError FileTree ValidationReport := do
  let opened ←
    (Controller.bringUp scenario.layout scenario.timing (scenario.imagePath env)).withError
      (SetupError.mk scenario.name)
  (Act.within (scenario.rig env opened.ctrl) (scenario.validate env) fun rig files =>
    rig.ctrl.saveImage opened.location files : Act FileTree ValidationReport)

end Scenario

end FlashBench
