import FlashBench.Action
import FlashBench.Scenario.Run
import FlashBench.Toml.Number

/-!
# Command line arguments

Options stand in any order, long ones behind two dashes and some short ones behind one; there are no
positional arguments.

* **A value is judged late.** A value that stands by itself is kept until the next option that is
  known, or the end, and only then checked; a value attached to its option is checked at once. An
  argument that is not known is refused before the value that is still kept.
* **Only the layout may be given more than once.**
-/

namespace FlashBench

/-- Why the arguments do not lead to a run. -/
inductive Refusal where
  /-- The help text was asked for. -/
  | displayHelp
  /-- The version was asked for. -/
  | displayVersion
  | unknownArgument
  /-- The value is missing, empty, or none of the possible ones. -/
  | invalidValue
  /-- The value cannot be read. -/
  | valueValidation
  /-- An option was given twice. -/
  | argumentConflict
  /-- An option that takes no value was given one. -/
  | tooManyValues
deriving DecidableEq, Repr, Inhabited

/-- What the command line asks for. -/
structure Arguments where
  /-- The presets that were chosen, in order. -/
  layouts : List LayoutPreset := []
  scenarioFile : Option String := none
  overrides : Overrides := {}
  env : RunEnv := {}
  /-- The least urgent level that is logged; none when nothing is. -/
  logLevel : Option LogLevel := some .info
deriving DecidableEq, Repr, Inhabited

/-- The presets that are to be run: one when none was chosen. -/
def Arguments.presets (arguments : Arguments) : List LayoutPreset :=
  if arguments.layouts.isEmpty then [.uniform] else arguments.layouts

/-- An option. -/
inductive CliOption where
  | layout
  | scenarioFile
  | flashDir
  | reservedEnd
  | cycles
  | windowTicks
  | driftDivisor
  | eraseClockHz
  | tickerBits
  | tickerHz
  | tickerStart
  | cpuHz
  | hostTiming
  | pollTimeout
  | logLevel
  | help
  | version
deriving DecidableEq, Repr, Inhabited

namespace CliOption

/-- All options. -/
def all : List CliOption :=
  [layout, scenarioFile, flashDir, reservedEnd, cycles, windowTicks, driftDivisor, eraseClockHz,
    tickerBits, tickerHz, tickerStart, cpuHz, hostTiming, pollTimeout, logLevel, help, version]

/-- The long name, without its dashes. -/
def long : CliOption → String
  | layout => "layout"
  | scenarioFile => "scenario-file"
  | flashDir => "flash-dir"
  | reservedEnd => "reserved-end"
  | cycles => "cycles"
  | windowTicks => "window-ticks"
  | driftDivisor => "drift-divisor"
  | eraseClockHz => "erase-clock-hz"
  | tickerBits => "ticker-bits"
  | tickerHz => "ticker-hz"
  | tickerStart => "ticker-start"
  | cpuHz => "cpu-hz"
  | hostTiming => "host-timing"
  | pollTimeout => "poll-timeout"
  | logLevel => "log-level"
  | help => "help"
  | version => "version"

/-- The short name, for options that have one. -/
def short : CliOption → Option Char
  | layout => some 'l'
  | scenarioFile => some 's'
  | help => some 'h'
  | version => some 'V'
  | _ => none

/-- The option stands without a value. -/
def isSwitch : CliOption → Bool
  | hostTiming | help | version => true
  | _ => false

/-- The option of a long name. -/
def ofLong? (name : List Char) : Option CliOption := all.find? (·.long.toList == name)

/-- The option of a short name. -/
def ofShort? (name : Char) : Option CliOption := all.find? (·.short == some name)

end CliOption

/-! ## Values -/

/-- Digits behind an optional plus sign, one at least. -/
def unsignedDigits (base : Nat) (text : List Char) : Option Nat :=
  let digits := match text with
    | '+' :: rest => rest
    | _ => text
  if digits.isEmpty then none
  else (digits.mapM (Toml.digitValue? base)).map (Toml.ofDigits base)

/-- A word in base sixteen behind `0x`, or else in base ten. -/
def readWord (text : String) : Except Refusal UInt32 :=
  let number := match text.toList with
    | '0' :: 'x' :: rest | '0' :: 'X' :: rest => unsignedDigits 16 rest
    | digits => unsignedDigits 10 digits
  match number.filter (· < Word.span32) with
  | some n => .ok (.ofNat n)
  | none => .error .valueValidation

/-- A decimal number from `low` to `high`. A minus sign may only stand in front of a zero. -/
def readDecimal (low high : Nat) (text : String) : Except Refusal Nat :=
  let number := match text.toList with
    | '-' :: '+' :: _ => none
    | '-' :: digits => (unsignedDigits 10 digits).filter (· = 0)
    | digits => unsignedDigits 10 digits
  match number.filter fun n => low ≤ n ∧ n ≤ high with
  | some n => .ok n
  | none => .error .valueValidation

/-- A word in base ten. -/
def readDecimalWord (text : String) : Except Refusal UInt32 :=
  return .ofNat (← readDecimal 0 (Word.span32 - 1) text)

/-- A path. -/
def readPath (text : String) : Except Refusal String :=
  if text.isEmpty then .error .invalidValue else .ok text

/-- The name of a preset. -/
def readPreset (text : String) : Except Refusal LayoutPreset :=
  match LayoutPreset.ofLabel? text with
  | some preset => .ok preset
  | none => .error .invalidValue

/-- The name of a level, in letters of any size, or `off`. -/
def readLevel (text : String) : Except Refusal (Option LogLevel) :=
  let name := text.toUpper
  if name = "OFF" then .ok none
  else match LogLevel.all.find? (·.label == name) with
    | some level => .ok (some level)
    | none => .error .valueValidation

namespace Arguments

/-- Changes the settings of the run. -/
def withEnv (arguments : Arguments) (f : RunEnv → RunEnv) : Arguments :=
  { arguments with env := f arguments.env }

/-- Changes what is overridden. -/
def withOverrides (arguments : Arguments) (f : Overrides → Overrides) : Arguments :=
  { arguments with overrides := f arguments.overrides }

/-- Takes over the value of an option; a switch does not look at it. -/
def take (arguments : Arguments) (option : CliOption) (text : String) :
    Except Refusal Arguments := do
  match option with
  | .layout =>
    let preset ← readPreset text
    return { arguments with layouts := arguments.layouts ++ [preset] }
  | .scenarioFile =>
    let path ← readPath text
    return { arguments with scenarioFile := some path }
  | .flashDir =>
    let path ← readPath text
    return arguments.withEnv fun env => { env with imageDirectory := some path }
  | .reservedEnd =>
    let word ← readWord text
    return arguments.withOverrides fun overrides => { overrides with reservedEnd := some word }
  | .cycles =>
    let word ← readWord text
    return arguments.withOverrides fun overrides => { overrides with cycles := some word }
  | .windowTicks =>
    let word ← readWord text
    return arguments.withOverrides fun overrides => { overrides with windowTicks := some word }
  | .driftDivisor =>
    let word ← readDecimalWord text
    return arguments.withOverrides fun overrides => { overrides with driftDivisor := some word }
  | .eraseClockHz =>
    let word ← readDecimalWord text
    return arguments.withOverrides fun overrides => { overrides with eraseClockHz := some word }
  | .tickerBits =>
    let bits ← readDecimal 1 32 text
    return arguments.withEnv fun env => { env with tickerBits := .ofNat bits }
  | .tickerHz =>
    let word ← readDecimalWord text
    return arguments.withEnv fun env => { env with tickerHz := word }
  | .tickerStart =>
    let word ← readWord text
    return arguments.withEnv fun env => { env with tickerStart := word }
  | .cpuHz =>
    let word ← readDecimalWord text
    return arguments.withEnv fun env => { env with cpuHz := word }
  | .hostTiming => return arguments.withEnv fun env => { env with hostTiming := true }
  | .pollTimeout =>
    let word ← readDecimalWord text
    return arguments.withEnv fun env => { env with pollTimeout := word }
  | .logLevel =>
    let level ← readLevel text
    return { arguments with logLevel := level }
  | .help => throw .displayHelp
  | .version => throw .displayVersion

end Arguments

/-! ## Reading -/

/-- Arguments that have been read in part. -/
structure ArgumentDraft where
  arguments : Arguments := {}
  /-- Options that took effect. -/
  given : List CliOption := []
  /-- An option that waits for its value, or whose value has not been checked yet. -/
  kept : Option (CliOption × Option String) := none

namespace ArgumentDraft

/-- Lets an option take effect. A switch has no value; any other option must have one. -/
def takeEffect (draft : ArgumentDraft) (option : CliOption) (value : Option String) :
    Except Refusal ArgumentDraft := do
  if value.isNone && !option.isSwitch then throw .invalidValue
  if option ≠ .layout ∧ option ∈ draft.given then throw .argumentConflict
  let arguments ← draft.arguments.take option (value.getD "")
  return { draft with arguments, given := option :: draft.given }

/-- Lets the option that is kept take effect. -/
def settle (draft : ArgumentDraft) : Except Refusal ArgumentDraft :=
  match draft.kept with
  | none => .ok draft
  | some (option, value) => { draft with kept := none }.takeEffect option value

/-- Takes up an option with the value attached to it, if there is one. -/
def meet (draft : ArgumentDraft) (option : CliOption) (attached : Option String) :
    Except Refusal ArgumentDraft := do
  if option.isSwitch && attached.isSome then throw .tooManyValues
  let draft ← draft.settle
  if option.isSwitch || attached.isSome then draft.takeEffect option attached
  else return { draft with kept := some (option, none) }

/-- A value attached to a short option, with or without an equals sign. -/
def attachedValue : List Char → Option String
  | [] => none
  | '=' :: rest => some (String.ofList rest)
  | rest => some (String.ofList rest)

/-- Takes up short options that stand together; a value may follow the last one. -/
def meetShort (draft : ArgumentDraft) : List Char → Except Refusal ArgumentDraft
  | [] => .ok draft
  | name :: rest =>
    match CliOption.ofShort? name with
    | none => .error .unknownArgument
    | some option =>
      if option.isSwitch then do meetShort (← draft.meet option none) rest
      else draft.meet option (attachedValue rest)

/-- Takes up a long option, which may have a value behind an equals sign. -/
def meetLong (draft : ArgumentDraft) (text : List Char) : Except Refusal ArgumentDraft :=
  let name := text.takeWhile (· ≠ '=')
  let value := match text.dropWhile (· ≠ '=') with
    | _ :: rest => some (String.ofList rest)
    | [] => none
  match CliOption.ofLong? name with
  | none => .error .unknownArgument
  | some option => draft.meet option value

/-- Takes up an argument that is no option: the value of the option that waits for one. -/
def meetValue (draft : ArgumentDraft) (text : String) : Except Refusal ArgumentDraft :=
  match draft.kept with
  | some (option, none) => .ok { draft with kept := some (option, some text) }
  | _ => .error .unknownArgument

/-- Reads all arguments. Nothing may follow two dashes that stand alone. -/
def readAll (draft : ArgumentDraft) : List String → Except Refusal ArgumentDraft
  | [] => draft.settle
  | text :: rest =>
    match text.toList with
    | ['-', '-'] => if rest.isEmpty then draft.settle else .error .unknownArgument
    | '-' :: '-' :: long => do readAll (← draft.meetLong long) rest
    | '-' :: short :: shorts => do readAll (← draft.meetShort (short :: shorts)) rest
    | _ => do readAll (← draft.meetValue text) rest

end ArgumentDraft

/-- The arguments that a command line gives. -/
def Arguments.read (texts : List String) : Except Refusal Arguments := do
  return (← ArgumentDraft.readAll {} texts).arguments

end FlashBench
