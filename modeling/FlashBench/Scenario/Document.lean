import FlashBench.Scenario.Basic
import FlashBench.Storage.FileTree
import FlashBench.Toml.Decode
import FlashBench.Toml.Grammar

/-!
# Scenario files

A scenario file is a document with one or more tables `scenario`. What a scenario leaves out has its
default, apart from its name and its layout.
-/

namespace FlashBench

open Toml

/-- Why a text is no list of scenarios. -/
inductive DocumentError where
  /-- The text is no document. -/
  | notDocument
  /-- The document does not hold scenarios. -/
  | undecodable (error : DecodeError)
  /-- The list is empty. -/
  | noScenarios
deriving Repr, Inhabited

/-- The error as a sentence. -/
def DocumentError.message : DocumentError → String
  | notDocument => "not a TOML document"
  | undecodable error => error.message
  | noScenarios => "no [[scenario]] tables"

/-- Why a scenario file cannot be used. -/
inductive LoadError where
  | reading (path : String) (error : StorageError)
  | parsing (path : String) (error : DocumentError)
deriving Repr, Inhabited

namespace LoadError

/-- What was being done. -/
def context : LoadError → String
  | reading path _ => s!"reading scenario file {path}"
  | parsing path _ => s!"parsing scenario file {path}"

/-- What was being done and why it failed. -/
def message (error : LoadError) : String :=
  error.context ++ ": " ++ match error with
    | reading _ cause => cause.message
    | parsing _ cause => cause.message

end LoadError

namespace Scenario

/-- A run of equal sectors. -/
def decodeRun : Value → Decoded SectorRun :=
  decodeRecord "SectorRun"
    [ .of "size" true decodeWord fun size run => { run with size },
      .of "count" true decodeWord fun count run => { run with count } ]
    { size := 0, count := 0 }

/-- A layout. -/
def decodeLayout : Value → Decoded FlashLayout :=
  decodeRecord "FlashLayout"
    [ .of "start" true decodeWord fun start layout => { layout with start },
      .of "page_size" true decodeWord fun pageSize layout => { layout with pageSize },
      .of "erase_value" false decodeByte fun eraseValue layout => { layout with eraseValue },
      .of "sectors" true (decodeList decodeRun) fun sectors layout => { layout with sectors } ]
    { start := 0, pageSize := 0, sectors := [] }

/-- The timing of a controller. -/
def decodeTiming : Value → Decoded FlashTiming :=
  decodeRecord "FlashTiming"
    [ .of "program_busy_ticks" true decodeWord fun programTicks timing =>
        { timing with programTicks },
      .of "erase_busy_ticks" true decodeWord fun eraseTicks timing => { timing with eraseTicks } ]
    {}

/-- The settings of a validation run. -/
def decodeConfig : Value → Decoded ValidatorConfig :=
  decodeRecord "ValidatorConfig"
    [ .of "cycles" false decodeWord fun cycles config => { config with cycles },
      .of "window_ticks" false decodeWord fun windowTicks config => { config with windowTicks },
      .of "drift_divisor" false decodeWord fun driftDivisor config => { config with driftDivisor },
      .of "reserved_end" false decodeWord fun reservedEnd config => { config with reservedEnd },
      .of "first_pattern" false decodeByte fun firstPattern config => { config with firstPattern },
      .of "second_pattern" false decodeByte fun secondPattern config =>
        { config with secondPattern } ]
    {}

/-- The faults of a part. -/
def decodeFaults : Value → Decoded FaultPlan :=
  decodeRecord "FaultConfig"
    [ .of "erase_clock_hz" false decodeWord fun hz faults =>
        { faults with eraseClockHz := some hz },
      .of "stall" false decodeBool fun stalled faults => { faults with stalled },
      .of "drop_writes" false decodeBool fun dropWrites faults => { faults with dropWrites } ]
    {}

/-- A scenario. -/
def decode : Value → Decoded Scenario :=
  decodeRecord "Scenario"
    [ .of "name" true decodeString fun name scenario => { scenario with name },
      .of "layout" true decodeLayout fun layout scenario => { scenario with layout },
      .of "timing" false decodeTiming fun timing scenario => { scenario with timing },
      .of "validator" false decodeConfig fun validator scenario => { scenario with validator },
      .of "faults" false decodeFaults fun faults scenario => { scenario with faults } ]
    { name := "", layout := { start := 0, pageSize := 0, sectors := [] } }

/-- The scenarios of a document. -/
def decodeAll : Value → Decoded (List Scenario) :=
  decodeRecord "ScenarioFile"
    [.of "scenario" true (decodeList decode) fun scenarios _ => scenarios]
    []

/-- The scenarios that a text describes, one at least. -/
def parseAll (text : String) : Except DocumentError (List Scenario) :=
  match Toml.parse text with
  | none => .error .notDocument
  | some document =>
    match decodeAll document with
    | .error error => .error (.undecodable error)
    | .ok [] => .error .noScenarios
    | .ok scenarios => .ok scenarios

/-- The scenarios of a file. -/
def load (files : FileTree) (path : String) : Except LoadError (List Scenario) := do
  let text ← (files.readText path).mapError (.reading path)
  (parseAll text).mapError (.parsing path)

end Scenario

end FlashBench
