/-!
# Blanks, comments and line ends

What stands between the parts of a document. A carriage return is allowed in front of a line feed
only, and such a pair counts as one line break.
-/

namespace FlashBench.Toml

/-- The text with every line break as a single line feed. A carriage return that stands alone
stays, and is allowed nowhere. -/
def unifyBreaks : List Char → List Char
  | '\r' :: '\n' :: rest => '\n' :: unifyBreaks rest
  | c :: rest => c :: unifyBreaks rest
  | [] => []

/-- A blank inside a line. -/
def isBlank (c : Char) : Bool := c == ' ' || c == '\t'

/-- A character that is neither a control character nor a line break; tabs are allowed. -/
def isPrintable (c : Char) : Bool := c == '\t' || (' ' ≤ c && c != '\x7f')

/-- The text behind its leading blanks. -/
def skipBlanks (text : List Char) : List Char := text.dropWhile isBlank

/-- The text behind blanks and a comment. -/
def skipComment (text : List Char) : List Char :=
  match skipBlanks text with
  | '#' :: rest => rest.dropWhile isPrintable
  | rest => rest

/-- The text behind blanks, a comment and the end of the line. -/
def endLine (text : List Char) : Option (List Char) :=
  match skipComment text with
  | [] => some []
  | '\n' :: rest => some rest
  | _ => none

/-- The text behind any blanks, line breaks and comments. -/
def skipLines (inComment : Bool) : List Char → List Char
  | [] => []
  | c :: rest =>
    if c == '\n' then skipLines false rest
    else if inComment then (if isPrintable c then skipLines true rest else c :: rest)
    else if isBlank c then skipLines false rest
    else if c == '#' then skipLines true rest
    else c :: rest

end FlashBench.Toml
