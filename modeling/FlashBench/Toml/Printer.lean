import FlashBench.Decimal.Shortest
import FlashBench.Text.Layout
import FlashBench.Toml.Grammar
import FlashBench.Word

/-!
# Writing values

A value is written on one line where its texts allow it. A table stands between braces, its entries
by ascending key.

* **A text takes the plainest form that can hold it:** double quotes without escapes, single
  quotes, three double quotes without escapes, three single quotes, and only then double quotes
  with escapes.
* **Quotes in a row are counted in a byte,** so a text with a longer run of them cannot be written.
* **A moment by itself is written as a table;** inside an array or a table it stands as it is.
-/

namespace FlashBench.Toml

/-- What decides on the form of a text. -/
structure TextTraits where
  /-- A control character other than a tab or a line break. -/
  control : Bool
  backslash : Bool
  lineBreak : Bool
  /-- The longest run of double quotes. -/
  doubleRun : Nat
  /-- The longest run of single quotes. -/
  singleRun : Nat

/-- The longest run of a character, with `run` of them right in front. -/
def longestRun (c : Char) (run : Nat) : List Char → Nat
  | [] => run
  | first :: rest =>
    if first = c then longestRun c (run + 1) rest else max run (longestRun c 0 rest)

/-- A control character other than a tab or a line break. -/
def isOddControl (c : Char) : Bool := !isPrintable c && c != '\n'

/-- The traits of a text; a fault if a run of quotes is too long to be counted. -/
def TextTraits.of (text : List Char) : Except Fault TextTraits := do
  return {
    control := text.any isOddControl
    backslash := text.contains '\\'
    lineBreak := text.contains '\n'
    doubleRun := ← Word.fit8 (longestRun '"' 0 text)
    singleRun := ← Word.fit8 (longestRun '\'' 0 text) }

/-- A control character as an escape. -/
def controlEscape (c : Char) : String := "\\u" ++ Text.zeroPadded 4 (Text.hexDigits c.toNat).toUpper

/-- A character between double quotes. Quotes and line breaks are left to the caller. -/
def basicChar (c : Char) : List Char :=
  match c with
  | '\x08' => ['\\', 'b']
  | '\t' => ['\\', 't']
  | '\x0c' => ['\\', 'f']
  | '\r' => ['\\', 'r']
  | '\\' => ['\\', '\\']
  | _ => if isOddControl c then (controlEscape c).toList else [c]

/-- Characters between double quotes, or between three of them, where line breaks stand for
themselves and up to two quotes in a row need no escape; `run` counts the quotes in front that
have none. -/
def basicChars (lines : Bool) (run : Nat) : List Char → List Char
  | [] => []
  | c :: rest =>
    if c = '"' then
      if lines ∧ run < 2 then '"' :: basicChars lines (run + 1) rest
      else '\\' :: '"' :: basicChars lines 0 rest
    else if c = '\n' then (if lines then ['\n'] else ['\\', 'n']) ++ basicChars lines 0 rest
    else basicChar c ++ basicChars lines 0 rest

/-- A text between double quotes. -/
def basicText (text : List Char) : String :=
  "\"" ++ String.ofList (basicChars false 0 text) ++ "\""

/-- A text between single quotes. -/
def literalText (text : List Char) : String := "'" ++ String.ofList text ++ "'"

/-- The line break that opens a text of several lines. -/
def openingBreak (traits : TextTraits) : String := if traits.lineBreak then "\n" else ""

/-- Characters in the plainest form that can hold a text of these traits. -/
def writtenText (traits : TextTraits) (text : List Char) : String :=
  let opening := openingBreak traits
  let basicLines :=
    "\"\"\"" ++ opening ++ String.ofList (basicChars true 0 text) ++ "\"\"\""
  let unescaped := !traits.control && !traits.backslash
  if unescaped && traits.doubleRun == 0 && !traits.lineBreak then basicText text
  else if !traits.control && traits.singleRun == 0 && !traits.lineBreak then literalText text
  else if unescaped && traits.doubleRun ≤ 2 then basicLines
  else if !traits.control && traits.singleRun ≤ 2 then
    "'''" ++ opening ++ String.ofList text ++ "'''"
  else if traits.lineBreak then basicLines
  else basicText text

/-- A text in the plainest form that can hold it. -/
def printText (text : String) : Except Fault String := do
  return writtenText (← TextTraits.of text.toList) text.toList

/-- A key: bare if it can be, else quoted on one line. -/
def printKey (key : String) : String :=
  let key := key.toList
  let control := key.any isOddControl || key.contains '\n'
  if !key.isEmpty && key.all isKeyChar then String.ofList key
  else if !control && !key.contains '\\' && !key.contains '"' then basicText key
  else if !control && !key.contains '\'' then literalText key
  else basicText key

/-- Written entries between braces. -/
def braced (entries : List (String × String)) : String :=
  if entries.isEmpty then "\x7b\x7d"
  else
    let pairs := entries.map fun (key, value) => printKey key ++ " = " ++ value
    "\x7b " ++ ", ".intercalate pairs ++ " \x7d"

mutual

/-- A value as it is written inside another one. -/
def Value.print : Value → Except Fault String
  | .string text => printText text
  | .integer n => .ok (toString n)
  | .float x => .ok (x.text "nan")
  | .boolean b => .ok (if b then "true" else "false")
  | .moment moment => .ok moment.text
  | .array items => return "[" ++ ", ".intercalate (← printItems items) ++ "]"
  | .table entries => return braced (byKey (← printEntries entries))

/-- The items of an array as they are written. -/
def printItems : List Value → Except Fault (List String)
  | [] => .ok []
  | item :: rest => return (← item.print) :: (← printItems rest)

/-- The entries of a table with their values as they are written. -/
def printEntries : List (String × Value) → Except Fault (List (String × String))
  | [] => .ok []
  | (key, value) :: rest => return (key, ← value.print) :: (← printEntries rest)

end

/-- A value as it is written by itself: a moment is a table there. -/
def Value.printAlone : Value → Except Fault String
  | .moment m => return braced [(momentKey, ← printText m.text)]
  | value => value.print

end FlashBench.Toml
