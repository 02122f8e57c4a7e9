import FlashBench.CommandLine.Arguments
import FlashBench.Scenario.Document

/-!
# The program

Reads its arguments, loads or chooses the scenarios, runs them in order, and prints one report
each and a line with their number. A scenario that cannot be set up counts as failed and leaves a
message in the log; scenarios that cannot be loaded at all end the program before anything is run.
-/

namespace FlashBench

/-- How the program ended. -/
inductive ProgramEnd where
  /-- The arguments do not lead to a run. -/
  | refused (refusal : Refusal)
  /-- The scenarios could not be loaded. -/
  | notLoaded (error : LoadError)
  /-- All scenarios were run. -/
  | finished (scenarios failures : Nat)
  /-- A scenario stopped the program. -/
  | stopped (fault : Fault)
deriving Repr, Inhabited

/-- The exit code: zero for a run without failures and for a text that was asked for. -/
def ProgramEnd.exitCode : ProgramEnd → UInt32
  | refused .displayHelp => 0
  | refused .displayVersion => 0
  | refused _ => 2
  | notLoaded _ => 1
  | finished _ failures => if failures = 0 then 0 else 1
  | stopped _ => 101

/-- What a run of the program leaves behind. -/
structure ProgramRun where
  ending : ProgramEnd
  /-- What was printed, messages of the log included. -/
  output : String := ""
  files : FileTree
deriving Inhabited

/-- The scenarios that the arguments select, with their overrides. -/
def Arguments.scenarios (arguments : Arguments) (files : FileTree) :
    Except LoadError (List Scenario) := do
  let scenarios ← match arguments.scenarioFile with
    | some path => Scenario.load files path
    | none => pure (arguments.presets.map Scenario.ofPreset)
  return scenarios.map (·.overriddenBy arguments.overrides)

namespace Program

/-- Lines that are printed, each with its end. -/
def printed (lines : List String) : String := String.join (lines.map (· ++ "\n"))

/-- The lines on a scenario that was run: its report, if there is one. -/
def reportLines (scenario : Scenario) : Except SetupError ValidationReport → List String
  | .ok report => [s!"scenario {scenario.name}:", report.text]
  | .error _ => []

/-- The log with a message on a scenario that could not be set up. -/
def setupLog (scenario : Scenario) (log : Log) : Except SetupError ValidationReport → Log
  | .ok _ => log
  | .error error => log.write .error s!"scenario {scenario.name}: {error.message}"

/-- The scenario counts as failed. -/
def isFailure : Except SetupError ValidationReport → Bool
  | .ok report => !report.passed
  | .error _ => true

/-- The last line of a run. -/
def summary (scenarios failures : Nat) : String :=
  s!"{scenarios - failures} of {scenarios} scenarios passed"

/-- Runs scenarios in order. `total` and `failures` count those of the whole run. -/
def runAll (arguments : Arguments) (total failures : Nat) (output : String) (files : FileTree) :
    List Scenario → ProgramRun
  | [] =>
    { ending := .finished total failures
      output := output ++ printed [summary total failures]
      files }
  | scenario :: rest =>
    let start : World FileTree := { state := files, log := { level := arguments.logLevel } }
    let (outcome, world) := (scenario.run arguments.env).run.runOn start
    match outcome with
    | .error fault =>
      { ending := .stopped fault
        output := output ++ printed world.log.lines
        files := world.state }
    | .ok result =>
      let lines := (setupLog scenario world.log result).lines ++ reportLines scenario result
      runAll arguments total (if isFailure result then failures + 1 else failures)
        (output ++ printed lines) world.state rest

/-- Runs the program. -/
def run (texts : List String) (files : FileTree) : ProgramRun :=
  match Arguments.read texts with
  | .error refusal => { ending := .refused refusal, files }
  | .ok arguments =>
    match arguments.scenarios files with
    | .error error => { ending := .notLoaded error, files }
    | .ok scenarios => runAll arguments scenarios.length 0 "" files scenarios

end Program

end FlashBench
