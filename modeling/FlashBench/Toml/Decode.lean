import FlashBench.Decimal.Shortest
import FlashBench.Text.Quoted
import FlashBench.Toml.Value

/-!
# Decoding values

A record is taken from a table by the names of its fields, or from an array by their order.

* **The first fault in the order of the document is reported:** unknown keys and unusable values
  as they come, and fields that are missing only after all of them, in the order of the record.
* **A moment counts as a table** with one key of its own, so it is never a field's value.
-/

namespace FlashBench.Toml

/-- Why a value cannot be decoded. -/
inductive DecodeError where
  | missingField (name : String)
  | unknownField (name : String) (known : List String)
  /-- The value is of another kind than expected. -/
  | wrongKind (found : Value) (expected : String)
  /-- The integer does not fit. -/
  | outOfRange (n : Int) (expected : String)
  /-- An array is too short for a record. -/
  | wrongLength (length : Nat) (expected : String)
deriving Repr, Inhabited

/-- A name between backquotes. -/
def backquoted (name : String) : String := "`" ++ name ++ "`"

/-- A list of names to choose from. -/
def choiceOf : List String → String
  | [] => "there are no fields"
  | [name] => s!"expected {backquoted name}"
  | [first, second] => s!"expected {backquoted first} or {backquoted second}"
  | names => "expected one of " ++ ", ".intercalate (names.map backquoted)

/-- The kind of a value, and the value itself where it is short. -/
def Value.describe : Value → String
  | .string text => s!"string {Text.quoted text}"
  | .integer n => s!"integer {backquoted (toString n)}"
  | .float x => "floating point " ++ backquoted (x.text "NaN")
  | .boolean b => s!"boolean {backquoted (toString b)}"
  | .moment _ => "map"
  | .array _ => "sequence"
  | .table _ => "map"

/-- The error as a sentence. -/
def DecodeError.message : DecodeError → String
  | missingField name => s!"missing field {backquoted name}"
  | unknownField name known => s!"unknown field {backquoted name}, {choiceOf known}"
  | wrongKind found expected => s!"invalid type: {found.describe}, expected {expected}"
  | outOfRange n expected =>
      s!"invalid value: integer {backquoted (toString n)}, expected {expected}"
  | wrongLength length expected => s!"invalid length {length}, expected {expected}"

/-- A value, or why there is none. -/
abbrev Decoded (α : Type) : Type := Except DecodeError α

/-- A natural number below `bound`. -/
def decodeBelow (bound : Nat) (expected : String) : Value → Decoded Nat
  | .integer n =>
    if 0 ≤ n ∧ n < bound then .ok n.toNat else .error (.outOfRange n expected)
  | value => .error (.wrongKind value expected)

/-- A 32-bit word. -/
def decodeWord (value : Value) : Decoded UInt32 :=
  return .ofNat (← decodeBelow 0x100000000 "u32" value)

/-- A byte. -/
def decodeByte (value : Value) : Decoded UInt8 := return .ofNat (← decodeBelow 0x100 "u8" value)

/-- A truth value. -/
def decodeBool : Value → Decoded Bool
  | .boolean b => .ok b
  | value => .error (.wrongKind value "a boolean")

/-- A text. -/
def decodeString : Value → Decoded String
  | .string text => .ok text
  | value => .error (.wrongKind value "a string")

/-- A list. -/
def decodeList {α : Type} (item : Value → Decoded α) : Value → Decoded (List α)
  | .array items => items.mapM item
  | value => .error (.wrongKind value "a sequence")

/-- A field of a record, and how its value is taken over. -/
structure Field (ρ : Type) where
  name : String
  required : Bool := false
  read : Value → ρ → Decoded ρ

/-- A field with a decoder of its own. -/
def Field.of {ρ α : Type} (name : String) (required : Bool) (decode : Value → Decoded α)
    (put : α → ρ → ρ) : Field ρ :=
  { name, required, read := fun value record => return put (← decode value) record }

section

variable {ρ : Type} (typeName : String) (fields : List (Field ρ))

/-- Takes over one entry of a table. -/
def readEntry (record : ρ) (key : String) (value : Value) : Decoded ρ :=
  match fields.find? (·.name == key) with
  | some field => field.read value record
  | none => .error (.unknownField key (fields.map (·.name)))

/-- The first required field without an entry is an error. -/
def checkComplete (keys : List String) : Decoded Unit :=
  match fields.find? fun field => field.required && !keys.contains field.name with
  | some field => .error (.missingField field.name)
  | none => .ok ()

/-- What a record was expected to be, by the number of its fields. -/
def expectedLength : String :=
  s!"struct {typeName} with {fields.length} element" ++ (if fields.length = 1 then "" else "s")

/-- Takes over the items of an array, one for each field; items beyond the fields do not count. -/
def readItems (index : Nat) (record : ρ) : List (Field ρ) → List Value → Decoded ρ
  | [], _ => .ok record
  | field :: rest, [] =>
    if field.required then .error (.wrongLength index (expectedLength typeName fields))
    else readItems (index + 1) record rest []
  | field :: rest, item :: items => do
    readItems (index + 1) (← field.read item record) rest items

/-- A record, starting from what it is before anything has been read. -/
def decodeRecord (initial : ρ) : Value → Decoded ρ
  | .table entries => do
    let record ← entries.foldlM
      (fun record (key, value) => readEntry fields record key value) initial
    checkComplete fields (entries.map (·.1))
    return record
  | .array items => readItems typeName fields 0 initial fields items
  | .moment _ => .error (.unknownField momentKey (fields.map (·.name)))
  | value => .error (.wrongKind value s!"struct {typeName}")

end

end FlashBench.Toml
