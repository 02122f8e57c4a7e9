import FlashBench.Upkeep.LicenseHeader
import FlashBench.Upkeep.Task

/-!
# Checking and adding headers

All files of a project that must carry the header are looked at, in the order of a walk; a file
that is no text ends the task before anything is changed.
-/

namespace FlashBench.Upkeep

/-- Directories that are not looked into. -/
def headerSkips : List String := [".git", "examples", "target"]

/-- A directory that is not looked into, with all below it. -/
def skipsHeaders (name : String) (node : FileNode) : Bool :=
  node.isDir && headerSkips.contains name

/-- A file that lacks the header, and how its comments are written. -/
structure Headerless where
  location : Location
  style : CommentStyle
  text : String
deriving DecidableEq, Repr, Inhabited

/-- Looks at one node: answers the file when it must have a header and has none. -/
def headerlessAt (placed : Placed) : Except TaskError (Option Headerless) :=
  match CommentStyle.ofName? placed.name, placed.node with
  | some style, .file bytes =>
    match String.fromUTF8? bytes with
    | none => .error (.unreadable (pathOf placed.location) .notText)
    | some text =>
      .ok (if hasHeader style text then none else some ⟨placed.location, style, text⟩)
  | _, _ => .ok none

/-- The files of a project that lack the header. -/
def missingHeaders (files : FileTree) (root : Location) : Except TaskError (List Headerless) := do
  return (← (files.walk skipsHeaders root).mapM headerlessAt).filterMap id

/-- The path of a file from the root of its project. -/
def relativePath (root location : Location) : String := pathOf (location.drop root.length)

/-- Reports files that lack the header. -/
def checkHeaders (files : FileTree) (root : Location) : TaskRun :=
  let opening := "Running: license header check"
  match missingHeaders files root with
  | .error error => { lines := [opening], result := .error error, files }
  | .ok missing =>
    let line (file : Headerless) := s!"  missing license header: {relativePath root file.location}"
    { lines := opening :: missing.map line
      result := if missing.isEmpty then .ok () else .error (.headersMissing missing.length)
      files }

/-- Puts the header in front of one file. -/
def addHeader (files : FileTree) (file : Headerless) : FileTree :=
  files.write file.location (withHeader file.style file.text).toUTF8

/-- Puts the header in front of all files that lack it. -/
def fixHeaders (files : FileTree) (root : Location) : TaskRun :=
  let opening := "Running: license header fix"
  match missingHeaders files root with
  | .error error => { lines := [opening], result := .error error, files }
  | .ok missing =>
    let line (file : Headerless) := s!"  added license header: {relativePath root file.location}"
    { lines := opening :: missing.map line
      result := .ok ()
      files := missing.foldl addHeader files }

end FlashBench.Upkeep
