import FlashBench.Geometry.Walk
import FlashBench.Validation.Error

/-!
# Validation reports

The six steps of a run, how each of them ended, and the report that is printed.
-/

namespace FlashBench

/-- A step of a validation run. -/
inductive Step where
  | init
  | geometryCheck
  | erase
  | program
  | verify
  | driftCheck
deriving DecidableEq, Repr, Inhabited

namespace Step

/-- The steps in the order in which they run. -/
def all : List Step := [init, geometryCheck, erase, program, verify, driftCheck]

/-- The step as it is printed. -/
def label : Step → String
  | init => "init"
  | geometryCheck => "geometry"
  | erase => "erase"
  | program => "program"
  | verify => "verify"
  | driftCheck => "drift"

/-- The step in a field whose width and precision are chosen freely; both must fit into 16 bits. -/
def inField (step : Step) (align : Text.Align) (fill : Char) (width : Nat)
    (precision : Option Nat) : Except Fault String := do
  let width ← Word.fit16 width
  let precision ← precision.mapM Word.fit16
  return Text.padded step.label align fill width precision

/-- The step that follows, none after the last one. -/
def next : Step → Option Step
  | init => some geometryCheck
  | geometryCheck => some erase
  | erase => some program
  | program => some verify
  | verify => some driftCheck
  | driftCheck => none

end Step

/-- Why a step was left out. -/
inductive SkipReason where
  /-- The sector at `boundary` overlaps the reserved program image. -/
  | reserved (boundary reservedEnd : UInt32)
  /-- Nothing was programmed, so there is nothing to verify. -/
  | nothingProgrammed
deriving DecidableEq, Repr, Inhabited

/-- The reason as a phrase. -/
def SkipReason.message : SkipReason → String
  | reserved boundary reservedEnd =>
      s!"sector {Text.address boundary.toNat} lies below reserved end "
        ++ Text.address reservedEnd.toNat
  | nothingProgrammed => "nothing was programmed"

/-- How a step ended. -/
inductive StepOutcome where
  | passed
  | skipped (reason : SkipReason)
  | failed (error : ValidationError)
deriving DecidableEq, Repr, Inhabited

/-- The outcome as it is printed. -/
def StepOutcome.message : StepOutcome → String
  | passed => "ok"
  | skipped reason => s!"skipped ({reason.message})"
  | failed error => s!"FAILED ({error.message})"

/-- Where a run stands: the next step, or its end. -/
inductive ValidatorState where
  | at (step : Step)
  | done
  | failed (error : ValidationError)
deriving DecidableEq, Repr, Inhabited

/-- What one run found. -/
structure ValidationReport where
  state : ValidatorState
  outcomes : List (Step × StepOutcome)
  geometry : Option GeometryReport := none
  baselineMicros : Option Nat := none
  finalMicros : Option Nat := none
deriving DecidableEq, Repr, Inhabited

namespace ValidationReport

/-- The run came to its end without a failure. -/
def passed (report : ValidationReport) : Bool := report.state == .done

/-- The failure that ended the run. -/
def failure (report : ValidationReport) : Option ValidationError :=
  match report.state with
  | .failed error => some error
  | _ => none

/-- The first outcome recorded for a step. -/
def outcome (report : ValidationReport) (step : Step) : Option StepOutcome :=
  report.outcomes.lookup step

/-- The steps that were left out, and why. -/
def skipped (report : ValidationReport) : List (Step × SkipReason) :=
  report.outcomes.filterMap fun (step, outcome) =>
    match outcome with
    | .skipped reason => some (step, reason)
    | _ => none

/-- The line of one step: its name in a column of nine and its outcome. -/
def outcomeLine (step : Step) (outcome : StepOutcome) : String :=
  "  " ++ Text.padded step.label .left ' ' 9 none ++ " " ++ outcome.message

open Text in
/-- The line on the geometry of the device. -/
def geometryLine (geometry : GeometryReport) : String :=
  s!"  device    {address geometry.start.toNat}+{hex geometry.size.toNat}, "
    ++ s!"page {hex geometry.pageSize.toNat}, {geometry.sectors} sectors of "
    ++ s!"{hex geometry.minSectorSize.toNat}..={hex geometry.maxSectorSize.toNat}"

/-- The line on the two samples. -/
def timingLine (before after : Nat) : String :=
  s!"  timing    {before} us before, {after} us after"

/-- The lines of the report. The geometry is left out if it was not found out, and the timing unless
both samples were taken. -/
def lines (report : ValidationReport) : List String :=
  let steps := report.outcomes.map fun (step, outcome) => outcomeLine step outcome
  let geometry := report.geometry.toList.map geometryLine
  let timing := match report.baselineMicros, report.finalMicros with
    | some before, some after => [timingLine before after]
    | _, _ => []
  let result := "  result    " ++ (if report.passed then "PASSED" else "FAILED")
  steps ++ geometry ++ timing ++ [result]

/-- The report as a text without a line break at its end. -/
def text (report : ValidationReport) : String := "\n".intercalate report.lines

end ValidationReport

end FlashBench
