import FlashBench.Part.Layout
import FlashBench.Validation.Config

/-!
# Scenarios

A scenario names a part, how fast it is, what is wrong with it, and what a validation run may do
to it.
-/

namespace FlashBench

/-- Faults built into an emulated part. -/
structure FaultPlan where
  /-- The frequency to which every erase switches the CPU. -/
  eraseClockHz : Option UInt32 := none
  /-- Operations make no progress. -/
  stalled : Bool := false
  /-- Programs do nothing. -/
  dropWrites : Bool := false
deriving DecidableEq, Repr, Inhabited

/-- One part and one validation run on it. -/
structure Scenario where
  name : String
  layout : FlashLayout
  timing : FlashTiming := {}
  validator : ValidatorConfig := {}
  faults : FaultPlan := {}
deriving DecidableEq, Repr, Inhabited

/-- A layout that can be chosen by name. -/
inductive LayoutPreset where
  | uniform
  | bootSectors
deriving DecidableEq, Repr, Inhabited

namespace LayoutPreset

/-- All presets. -/
def all : List LayoutPreset := [uniform, bootSectors]

/-- The name of the preset. -/
def label : LayoutPreset → String
  | uniform => "uniform"
  | bootSectors => "stm32f4"

/-- The layout of the preset. -/
def layout : LayoutPreset → FlashLayout
  | uniform => .uniform
  | bootSectors => .bootSectors

/-- The preset of a name. -/
def ofLabel? (name : String) : Option LayoutPreset := all.find? (·.label == name)

theorem ofLabel?_label (preset : LayoutPreset) : ofLabel? preset.label = some preset := by
  cases preset <;> decide

end LayoutPreset

/-- Settings that replace those of every scenario. -/
structure Overrides where
  reservedEnd : Option UInt32 := none
  cycles : Option UInt32 := none
  windowTicks : Option UInt32 := none
  driftDivisor : Option UInt32 := none
  eraseClockHz : Option UInt32 := none
deriving DecidableEq, Repr, Inhabited

namespace Scenario

/-- The scenario of a preset: a part without faults and the usual settings. -/
def ofPreset (preset : LayoutPreset) : Scenario := { name := preset.label, layout := preset.layout }

/-- The scenario with some settings replaced. -/
def overriddenBy (scenario : Scenario) (overrides : Overrides) : Scenario :=
  let validator := scenario.validator
  { scenario with
    validator := { validator with
      reservedEnd := overrides.reservedEnd.getD validator.reservedEnd
      cycles := overrides.cycles.getD validator.cycles
      windowTicks := overrides.windowTicks.getD validator.windowTicks
      driftDivisor := overrides.driftDivisor.getD validator.driftDivisor }
    faults := { scenario.faults with
      eraseClockHz := overrides.eraseClockHz <|> scenario.faults.eraseClockHz } }

end Scenario

end FlashBench
