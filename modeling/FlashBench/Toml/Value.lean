import FlashBench.Decimal.Binary64
import FlashBench.Toml.Moment

/-!
# Document values

What a document holds. The entries of a table stand in the order in which they were written.
-/

namespace FlashBench.Toml

/-- A value of a document. -/
inductive Value where
  | string (text : String)
  | integer (n : Int)
  | float (x : Binary64)
  | boolean (b : Bool)
  | moment (moment : Moment)
  | array (items : List Value)
  | table (entries : List (String × Value))
deriving Repr, Inhabited

namespace Value

/-- The value of a key; none in what is no table. -/
def get? (value : Value) (key : String) : Option Value :=
  match value with
  | table entries => entries.lookup key
  | _ => none

end Value

/-- Entries in ascending order of their keys. -/
def byKey {α : Type} (entries : List (String × α)) : List (String × α) :=
  entries.mergeSort fun a b => a.1 ≤ b.1

end FlashBench.Toml
