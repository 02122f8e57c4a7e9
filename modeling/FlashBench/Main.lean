import FlashBench.CommandLine.Program
import FlashBench.Storage.Walk

/-!
# Command line

Takes a snapshot of the files that a run may need, runs the program on the snapshot, prints what it
prints, and writes the backing images back. Nothing is decided here.
-/

namespace FlashBench.CommandLine

/-- What lies at a path: a file, or something that exists and cannot be read as one, which is
taken to be a directory; nothing if the path leads nowhere. -/
def nodeAt (path : String) : IO (Option FileNode) := do
  try
    return some (.file (← IO.FS.readBinFile path))
  catch
    | .noFileOrDirectory .. => return none
    | _ => return some (.dir [])

/-- Adds what lies at a location to a snapshot, unless the snapshot holds it already or has no
directory for it. -/
def capture (tree : FileTree) (location : Location) : IO FileTree := do
  if (tree.root.find? location).isSome then return tree
  if !(tree.root.find? location.dropLast).any FileNode.isDir then return tree
  match ← nodeAt ("/" ++ pathOf location) with
  | some node => return { tree with root := tree.root.put node location }
  | none => return tree

/-- Adds what lies on the way of a path, and at its end, to a snapshot. -/
def capturePath (tree : FileTree) (path : String) : IO FileTree := do
  let mut tree := tree
  let mut location := tree.origin path
  for name in FileTree.components path do
    if name == ".." then location := location.dropLast
    else if name != "." && !name.isEmpty then location := location ++ [name]
    tree ← capture tree location
  return tree

/-- The names of a path. -/
def namesOf (path : String) : Location := (FileTree.components path).filter (!·.isEmpty)

/-- A snapshot of the working directory, without what it holds. -/
def snapshot : IO FileTree := do
  let location := namesOf (← IO.currentDir).toString
  return { root := FileNode.put (.dir []) (.dir []) location, workingDirectory := location }

/-- The backing images of a run. -/
def imagePaths (arguments : Arguments) (files : FileTree) : List String :=
  match arguments.scenarios files with
  | .ok scenarios => scenarios.filterMap (·.imagePath arguments.env)
  | .error _ => []

/-- Writes an image back if the run left one. -/
def writeBack (files : FileTree) (path : String) : IO Unit := do
  match files.readBytes path with
  | .ok bytes => IO.FS.writeBinFile path bytes
  | .error _ => return ()

/-- What is written to standard error when nothing was run. -/
def complaint : ProgramEnd → Option String
  | .refused .displayHelp => none
  | .refused .displayVersion => none
  | .refused _ => some "error: the arguments cannot be used"
  | .notLoaded error => some ("Error: " ++ error.message)
  | .finished .. => none
  | .stopped _ => some "error: a computation left its range"

/-- Runs the program on the files of the system. -/
def runWith (texts : List String) : IO UInt32 := do
  let mut files ← snapshot
  let mut images := []
  if let .ok arguments := Arguments.read texts then
    for path in arguments.scenarioFile.toList do
      files ← capturePath files path
    images := imagePaths arguments files
    for path in images do
      files ← capturePath files path
  let run := Program.run texts files
  IO.print run.output
  for path in images do
    writeBack run.files path
  if let some line := complaint run.ending then
    IO.eprintln line
  return run.ending.exitCode

end FlashBench.CommandLine

/-- Runs the program. -/
def main (arguments : List String) : IO UInt32 := FlashBench.CommandLine.runWith arguments
