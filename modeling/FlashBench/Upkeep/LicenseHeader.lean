import FlashBench.Storage.FileTree

/-!
# License headers

Every file of code and every manifest names the license in a comment near its top.

* **Where a header counts:** within the first `headerLines` lines, on a line that starts with a line
  comment, or, in code, on a line at or below one that opens a block comment.
* **A header is put in front,** with an empty line between it and the text.
-/

namespace FlashBench.Upkeep

/-- How comments are written in a file. -/
inductive CommentStyle where
  /-- Two slashes, or a block between `/*` and `*/`. -/
  | slashes
  /-- A hash sign. -/
  | hash
deriving DecidableEq, Repr, Inhabited

/-- The phrase that names the license. -/
def licensePhrase : String := "Licensed under the Apache-2.0 license"

/-- The phrase must appear this close to the top of a file. -/
def headerLines : Nat := 3

/-- The characters behind the last point, unless nothing stands in front of that point. -/
def extension? (name : List Char) : Option (List Char) :=
  let reversed := name.reverse
  match reversed.dropWhile (· ≠ '.') with
  | _ :: _ :: _ => some (reversed.takeWhile (· ≠ '.')).reverse
  | _ => none

/-- The name at the end of a path; none for a path that ends in two points. -/
def fileName? (path : String) : Option String :=
  let names := (FileTree.components path).filter fun name => !name.isEmpty && name != "."
  names.getLast?.filter (· ≠ "..")

namespace CommentStyle

/-- The style of a file that must carry the header, by its name. -/
def ofName? (name : String) : Option CommentStyle :=
  match extension? name.toList with
  | some ['r', 's'] => some slashes
  | some ['t', 'o', 'm', 'l'] => some hash
  | _ => none

/-- The style of a file that must carry the header, by its path. -/
def ofPath? (path : String) : Option CommentStyle := (fileName? path).bind ofName?

/-- What starts a line comment. -/
def lineComment : CommentStyle → String
  | slashes => "//"
  | hash => "#"

end CommentStyle

/-- A character that is blank. -/
def isBlankChar (c : Char) : Bool :=
  let n := c.toNat
  (9 ≤ n && n ≤ 13) || (0x2000 ≤ n && n ≤ 0x200a)
    || [0x20, 0x85, 0xa0, 0x1680, 0x2028, 0x2029, 0x202f, 0x205f, 0x3000].contains n

/-- A line without the blanks at its ends. -/
def trimmed (line : List Char) : List Char :=
  ((line.dropWhile isBlankChar).reverse.dropWhile isBlankChar).reverse

/-- The first lines of a text, without the blanks at their ends. -/
def topLines (text : String) : List (List Char) :=
  ((text.toList.splitOn '\n').take headerLines).map trimmed

/-- The phrase occurs in a line. -/
def namesLicense : List Char → Bool
  | [] => licensePhrase.toList.isEmpty
  | c :: rest => licensePhrase.toList.isPrefixOf (c :: rest) || namesLicense rest

/-- A line opens a block comment. -/
def opensBlock (style : CommentStyle) (line : List Char) : Bool :=
  style == .slashes && "/*".toList.isPrefixOf line

/-- Some line names the license in a comment; `inBlock` says whether a block comment was opened
before. -/
def anyHeader (style : CommentStyle) (inBlock : Bool) : List (List Char) → Bool
  | [] => false
  | line :: rest =>
    let inBlock := inBlock || opensBlock style line
    let comment := inBlock || style.lineComment.toList.isPrefixOf line
    (comment && namesLicense line) || anyHeader style inBlock rest

/-- The text names the license in a comment near its top. -/
def hasHeader (style : CommentStyle) (text : String) : Bool := anyHeader style false (topLines text)

/-- The text behind a header. -/
def withHeader (style : CommentStyle) (text : String) : String :=
  let gap := if text.startsWith "\n" then "" else "\n"
  style.lineComment ++ " " ++ licensePhrase ++ "\n" ++ gap ++ text

end FlashBench.Upkeep
