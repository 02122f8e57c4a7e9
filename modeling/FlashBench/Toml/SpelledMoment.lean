import FlashBench.Toml.Grammar

/-!
# Moments spelled as tables

Where a document is read for whatever values it holds, a table may stand for a moment: its first key
says so, and the text under that key spells it.

* **Only the first key counts.** A table that has the key further behind is a table, and what stands
  behind a moment in its table is not looked at.
* **A table that says it is a moment and is none spoils the document.**
* **The document itself is always a table,** whatever its first key is.
-/

namespace FlashBench.Toml

/-- The value under the key of a moment, if that is the first key. -/
def underMomentKey? : List (String × Value) → Option Value
  | [] => none
  | (key, value) :: _ => if key = momentKey then some value else none

/-- The moment that a text spells. -/
def Value.spelledMoment? : Value → Option Value
  | .string text => (Moment.ofText? text).map .moment
  | _ => none

mutual

/-- The value with moments in place of the tables that stand for them. -/
def Value.resolved? : Value → Option Value
  | .array items => return .array (← resolvedItems? items)
  | .table entries =>
    match underMomentKey? entries with
    | some value => value.spelledMoment?
    | none => return .table (← resolvedEntries? entries)
  | value => some value

/-- The items of an array with moments in place. -/
def resolvedItems? : List Value → Option (List Value)
  | [] => some []
  | item :: rest => return (← item.resolved?) :: (← resolvedItems? rest)

/-- The entries of a table with moments in place. -/
def resolvedEntries? : List (String × Value) → Option (List (String × Value))
  | [] => some []
  | (key, value) :: rest => return (key, ← value.resolved?) :: (← resolvedEntries? rest)

end

/-- The entries of a document, whatever values they are; none if the text is no document. -/
def parseValues (text : String) : Option Value := do
  match ← parse text with
  | .table entries => return .table (← resolvedEntries? entries)
  | value => return value

end FlashBench.Toml
