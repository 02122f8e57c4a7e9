import FlashBench.Toml.Blank

/-!
# Quoted texts

A text between double quotes may hold escapes; one between single quotes stands for itself. Three
quotes open a text of several lines, whose first line break does not count; up to two quotes may
stand right in front of the closing three.
-/

namespace FlashBench.Toml

/-- The value of a digit in base sixteen. -/
def hexValue? (c : Char) : Option Nat :=
  if '0' ≤ c ∧ c ≤ '9' then some (c.toNat - '0'.toNat)
  else if 'a' ≤ c ∧ c ≤ 'f' then some (c.toNat - 'a'.toNat + 10)
  else if 'A' ≤ c ∧ c ≤ 'F' then some (c.toNat - 'A'.toNat + 10)
  else none

/-- The character of a number, if there is one. -/
def charOf? (n : Nat) : Option Char := if h : n.isValidChar then some (Char.ofNatAux n h) else none

/-- What a backslash and a character stand for. -/
def escapedChar? : Char → Option Char
  | 'b' => some '\x08'
  | 't' => some '\t'
  | 'n' => some '\n'
  | 'f' => some '\x0c'
  | 'r' => some '\r'
  | '"' => some '"'
  | '\\' => some '\\'
  | _ => none

/-- Where the reader of a text between double quotes stands. -/
inductive QuoteState where
  | plain
  /-- Behind a backslash. -/
  | escape
  /-- In the number of a character: digits to come after the next one, and the number so far. -/
  | number (missing value : Nat)
  /-- Behind a backslash and blanks, in front of the line break that the backslash hides. -/
  | hiddenBreak
  /-- Behind a hidden line break, where blanks and line breaks do not count. -/
  | margin
deriving DecidableEq

/-- A text of several lines from behind a double quote, if that quote closes it: the quotes that
still belong to the text, and what follows. -/
def closing? : List Char → Option (String × List Char)
  | '"' :: '"' :: '"' :: '"' :: rest => some ("\"\"", rest)
  | '"' :: '"' :: '"' :: rest => some ("\"", rest)
  | '"' :: '"' :: rest => some ("", rest)
  | _ => none

/-- Reads a text up to its closing double quotes. -/
def readBasic (lines : Bool) (state : QuoteState) (text : String) :
    List Char → Option (String × List Char)
  | [] => none
  | c :: rest =>
    match state with
    | .number missing value => do
      let value := 16 * value + (← hexValue? c)
      match missing with
      | 0 => readBasic lines .plain (text.push (← charOf? value)) rest
      | missing + 1 => readBasic lines (.number missing value) text rest
    | .escape =>
      if c = 'u' then readBasic lines (.number 3 0) text rest
      else if c = 'U' then readBasic lines (.number 7 0) text rest
      else if lines ∧ isBlank c then readBasic lines .hiddenBreak text rest
      else if lines ∧ c = '\n' then readBasic lines .margin text rest
      else do readBasic lines .plain (text.push (← escapedChar? c)) rest
    | .hiddenBreak =>
      if c = '\n' then readBasic lines .margin text rest
      else if isBlank c then readBasic lines .hiddenBreak text rest
      else none
    | .plain | .margin =>
      if state = .margin ∧ (isBlank c ∨ c = '\n') then readBasic lines .margin text rest
      else if c = '\\' then readBasic lines .escape text rest
      else if c = '"' then
        if lines then
          match closing? rest with
          | some (quotes, rest) => some (text ++ quotes, rest)
          | none => readBasic lines .plain (text.push '"') rest
        else some (text, rest)
      else if isPrintable c ∨ (lines ∧ c = '\n') then readBasic lines .plain (text.push c) rest
      else none

/-- As `closing?`, for single quotes. -/
def closingLiteral? : List Char → Option (String × List Char)
  | '\'' :: '\'' :: '\'' :: '\'' :: rest => some ("''", rest)
  | '\'' :: '\'' :: '\'' :: rest => some ("'", rest)
  | '\'' :: '\'' :: rest => some ("", rest)
  | _ => none

/-- Reads a text up to its closing single quotes. -/
def readLiteral (lines : Bool) (text : String) : List Char → Option (String × List Char)
  | [] => none
  | c :: rest =>
    if c = '\'' then
      if lines then
        match closingLiteral? rest with
        | some (quotes, rest) => some (text ++ quotes, rest)
        | none => readLiteral lines (text.push '\'') rest
      else some (text, rest)
    else if isPrintable c ∨ (lines ∧ c = '\n') then readLiteral lines (text.push c) rest
    else none

/-- The text behind a line break, if it starts with one. -/
def skipBreak : List Char → List Char
  | '\n' :: rest => rest
  | text => text

/-- Reads a quoted text of one line. -/
def quotedLine : List Char → Option (String × List Char)
  | '"' :: rest => readBasic false .plain "" rest
  | '\'' :: rest => readLiteral false "" rest
  | _ => none

/-- Reads a quoted text. -/
def quoted : List Char → Option (String × List Char)
  | '"' :: '"' :: '"' :: rest => readBasic true .plain "" (skipBreak rest)
  | '\'' :: '\'' :: '\'' :: rest => readLiteral true "" (skipBreak rest)
  | text => quotedLine text

end FlashBench.Toml
