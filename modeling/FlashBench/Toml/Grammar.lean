import FlashBench.Toml.Assembly
import FlashBench.Toml.Number

/-!
# Reading documents

A document is a sequence of lines: pairs of a key and a value, headers, repeated headers, comments.
Arrays may go over several lines, tables between braces may not.

* **Nesting is bounded.** Arrays and braces may lie inside each other `maxNesting` deep, and a
  dotted key has at most as many parts.
* **All errors are one.** `parse` answers none for a text that is no document.
-/

namespace FlashBench.Toml

/-- How deep arrays and tables between braces may lie inside each other. -/
def maxNesting : Nat := 79

/-- A character of a key without quotes. -/
def isKeyChar (c : Char) : Bool := c.isAlphanum || c == '_' || c == '-'

/-- Reads one part of a key. -/
def keyPart (text : List Char) : Option (String × List Char) :=
  match text with
  | '"' :: _ | '\'' :: _ => quotedLine text
  | _ =>
    match text.takeWhile isKeyChar with
    | [] => none
    | name => some (String.ofList name, text.dropWhile isKeyChar)

/-- Reads a key of at most so many parts, with the blanks around it. -/
def keyParts : Nat → List Char → Option (List String × List Char)
  | 0, _ => none
  | parts + 1, text => do
    let (name, rest) ← keyPart (skipBlanks text)
    match skipBlanks rest with
    | '.' :: rest =>
      let (names, rest) ← keyParts parts rest
      return (name :: names, rest)
    | rest => return ([name], rest)

/-- Reads a key, with the blanks around it. -/
def key (text : List Char) : Option (List String × List Char) := keyParts maxNesting text

/-- Reads items between commas up to the character `last`, at most `limit` of them. `skip` is what
may stand around an item, and `trailing` says whether a comma may stand behind the last one. -/
def itemsUntil {α : Type} (item : List Char → Option (α × List Char)) (skip : List Char → List Char)
    (last : Char) (trailing : Bool) : Nat → List Char → Option (List α × List Char)
  | 0, _ => none
  | limit + 1, text => do
    let (first, rest) ← item (skip text)
    match skip rest with
    | ',' :: rest =>
      match trailing, expect last (skip rest) with
      | true, some rest => return ([first], rest)
      | _, _ =>
        let (others, rest) ← itemsUntil item skip last trailing limit rest
        return (first :: others, rest)
    | rest => return ([first], ← expect last rest)

/-- Reads items up to `last`, possibly none. An item has a character at least, so a text holds no
more items than characters. -/
def enclosed {α : Type} (item : List Char → Option (α × List Char)) (skip : List Char → List Char)
    (last : Char) (trailing : Bool) (text : List Char) : Option (List α × List Char) :=
  match expect last (skip text) with
  | some rest => some ([], rest)
  | none => itemsUntil item skip last trailing text.length text

/-- Reads a pair of a key and a value. -/
def pair (value : List Char → Option (Value × List Char)) (text : List Char) :
    Option ((List String × Value) × List Char) := do
  let (key, rest) ← key text
  let (value, rest) ← value (skipBlanks (← expect '=' rest))
  return ((key, value), rest)

/-- Reads a value that is neither an array nor a table. -/
def scalar (text : List Char) : Option (Value × List Char) :=
  match text with
  | '"' :: _ | '\'' :: _ => (quoted text).map fun (text, rest) => (.string text, rest)
  | 't' :: 'r' :: 'u' :: 'e' :: rest => some (.boolean true, rest)
  | 'f' :: 'a' :: 'l' :: 's' :: 'e' :: rest => some (.boolean false, rest)
  | _ => momentOrNumber text

/-- Reads a value in which arrays and tables lie at most so deep. -/
def valueWithin : Nat → List Char → Option (Value × List Char)
  | 0, text => scalar text
  | depth + 1, text =>
    match text with
    | '[' :: rest => do
      let (items, rest) ← enclosed (valueWithin depth) (skipLines false) ']' true rest
      return (.array items, rest)
    | '\x7b' :: rest => do
      let (pairs, rest) ← enclosed (pair (valueWithin depth)) skipBlanks '\x7d' false rest
      return (← inlineTable pairs, rest)
    | _ => scalar text

/-- Reads a value. -/
def value (text : List Char) : Option (Value × List Char) := valueWithin maxNesting text

/-- Reads one line that is not empty, up to its end. -/
def line (text : List Char) : Option (Line × List Char) :=
  match text with
  | '[' :: '[' :: rest => do
    let (path, rest) ← key rest
    return (.repeatedHeader path, ← expect ']' (← expect ']' rest))
  | '[' :: rest => do
    let (path, rest) ← key rest
    return (.header path, ← expect ']' rest)
  | _ => do
    let ((key, value), rest) ← pair value text
    return (.pair key value, rest)

/-- Reads lines up to the end of the text, at most `limit` of them. -/
def linesWithin : Nat → List Char → Option (List Line)
  | 0, _ => none
  | limit + 1, text =>
    match skipLines false text with
    | [] => some []
    | text => do
      let (first, rest) ← line text
      return first :: (← linesWithin limit (← endLine rest))

/-- The text behind a byte order mark. -/
def skipMark : List Char → List Char
  | '\ufeff' :: rest => rest
  | text => text

/-- The table that a document describes; none if the text is no document. -/
def parse (text : String) : Option Value :=
  let text := unifyBreaks (skipMark text.toList)
  (linesWithin (text.length + 1) text).bind document

end FlashBench.Toml
