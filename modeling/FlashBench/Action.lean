/-!
# Actions

Everything on the bench that reads or changes hardware is an **action**: a pure step from a world to
an outcome and the next world. A world is some hardware state and the log written so far.

* **A fault keeps the world.** An action that stops without a value still says in which state the
  hardware was left and what had been logged.
* **A message that is not shown costs nothing.** What is done only to put it together is not done.
* **A failure is a value.** What a device may refuse is an `Attempt` with an error of its own; only
  arithmetic out of range and a wait without end are faults.
-/

namespace FlashBench

/-- Why an action stopped without a value. -/
inductive Fault where
  /-- A machine-word operation left its range or divided by zero. -/
  | arithmetic
  /-- A wait did not end within the counter reads it was given. -/
  | stuck
deriving DecidableEq, Repr, Inhabited

/-- Levels of log messages, the most urgent first. -/
inductive LogLevel where
  | error
  | warn
  | info
  | debug
  | trace
deriving DecidableEq, Repr, Inhabited

namespace LogLevel

/-- Position in the order of urgency; a message is shown when its rank is at most the rank asked
for. -/
def rank : LogLevel → Nat
  | error => 1
  | warn => 2
  | info => 3
  | debug => 4
  | trace => 5

/-- The level as it is printed in front of a message. -/
def label : LogLevel → String
  | error => "ERROR"
  | warn => "WARN"
  | info => "INFO"
  | debug => "DEBUG"
  | trace => "TRACE"

/-- All levels, the most urgent first. -/
def all : List LogLevel := [error, warn, info, debug, trace]

end LogLevel

/-- One message of the log. -/
structure LogEntry where
  level : LogLevel
  text : String
deriving DecidableEq, Repr, Inhabited

/-- The entry as one line: its level, a blank and its text. -/
def LogEntry.line (entry : LogEntry) : String :=
  entry.level.label ++ " " ++ entry.text

/-- Messages written so far, and the least urgent level that is written at all; none for a log that
takes nothing. -/
structure Log where
  level : Option LogLevel := none
  entries : Array LogEntry := #[]
deriving DecidableEq, Repr, Inhabited

namespace Log

/-- Messages of a level are written. -/
def shows (log : Log) (level : LogLevel) : Bool := log.level.any (level.rank ≤ ·.rank)

/-- The log with a message appended, if messages of its level are written. -/
def write (log : Log) (level : LogLevel) (text : String) : Log :=
  if log.shows level then { log with entries := log.entries.push ⟨level, text⟩ } else log

/-- The log as lines, in order. -/
def lines (log : Log) : List String := log.entries.toList.map LogEntry.line

end Log

/-- A hardware state together with the log written so far. -/
structure World (σ : Type) where
  state : σ
  log : Log := {}

/-- A step on a world that ends with a value or a fault, and in either case with a world. -/
abbrev Act (σ : Type) : Type → Type := ExceptT Fault (StateM (World σ))

/-- An action that may also be refused with an error `ε`. -/
abbrev Attempt (ε σ : Type) : Type → Type := ExceptT ε (Act σ)

namespace Act

variable {σ τ α : Type}

/-- Runs an action from a world. -/
def runOn (act : Act σ α) (world : World σ) : Except Fault α × World σ :=
  (ExceptT.run act).run world

/-- The hardware state. -/
def state : Act σ σ := do return (← getThe (World σ)).state

/-- Changes the hardware state and leaves the log alone. -/
def change (f : σ → σ) : Act σ Unit :=
  modifyThe (World σ) fun world => { world with state := f world.state }

/-- Changes the hardware state and answers something about the change. -/
def changeGet (f : σ → α × σ) : Act σ α :=
  modifyGetThe (World σ) fun world =>
    let (value, next) := f world.state
    (value, { world with state := next })

/-- Appends a message to the log. -/
def note (level : LogLevel) (text : String) : Act σ Unit :=
  modifyThe (World σ) fun world => { world with log := world.log.write level text }

/-- Appends a message that takes an action to put together. The action is carried out only if the
message is written. -/
def noteWith (level : LogLevel) (message : Act σ String) : Act σ Unit := do
  if (← getThe (World σ)).log.shows level then note level (← message)

/-- Stops with a fault. -/
def fault (f : Fault) : Act σ α := throwThe Fault f

/-- Takes over the value of a computation on words, or its fault. -/
def checked : Except Fault α → Act σ α
  | .ok value => pure value
  | .error f => fault f

/-- Runs an action on hardware of its own inside a larger world. The log is shared; `leave` puts the
final hardware back, also when the action ends in a fault. -/
def within (start : τ) (act : Act τ α) (leave : τ → σ → σ) : Act σ α := fun world =>
  let (outcome, inner) := act.runOn { state := start, log := world.log }
  (outcome, { state := leave inner.state world.state, log := inner.log })

/-- Runs an action on a part of the hardware. -/
def zoom (get : σ → τ) (put : τ → σ → σ) (act : Act τ α) : Act σ α := do
  within (get (← state)) act put

end Act

namespace Attempt

variable {ε σ α : Type}

/-- Appends a message to the log. -/
def note (level : LogLevel) (text : String) : Attempt ε σ Unit := ExceptT.lift (Act.note level text)

/-- Takes over the value of a computation on words, or its fault. -/
def checked (value : Except Fault α) : Attempt ε σ α := ExceptT.lift (Act.checked value)

/-- Makes the refusals of an attempt refusals of another kind. -/
def withError {ε' : Type} (f : ε' → ε) (attempt : Attempt ε' σ α) : Attempt ε σ α :=
  ExceptT.mk ((·.mapError f) <$> attempt.run)

end Attempt

end FlashBench
