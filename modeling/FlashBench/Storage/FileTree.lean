/-!
# File trees

A small file system: directories hold files and directories by name, and a path leads from a
working directory to one of them. Paths are walked component by component, so **the first
component that does not exist decides the error**; `..` leads to the directory that holds the
current one, and is the root's own parent.
-/

namespace FlashBench

/-- Why a path cannot be used. -/
inductive StorageError where
  | notFound
  | notDirectory
  | isDirectory
  | nameTooLong
  /-- The path holds a NUL character, which no file name can. -/
  | nulInName
  /-- The file does not hold a text. -/
  | notText
deriving DecidableEq, Repr, Inhabited

/-- The error as the system words it, with its number where it has one. -/
def StorageError.message : StorageError → String
  | notFound => "No such file or directory (os error 2)"
  | notDirectory => "Not a directory (os error 20)"
  | isDirectory => "Is a directory (os error 21)"
  | nameTooLong => "File name too long (os error 36)"
  | nulInName => "file name contained an unexpected NUL byte"
  | notText => "stream did not contain valid UTF-8"

/-- A file or a directory. There is nothing else in a tree: no links, no devices or pipes, and no
names that are not text. -/
inductive FileNode where
  | file (bytes : ByteArray)
  | dir (entries : List (String × FileNode))
deriving Inhabited

/-- The names that lead from the root to a node. -/
abbrev Location := List String

namespace FileNode

/-- The node is a directory. -/
def isDir : FileNode → Bool
  | file _ => false
  | dir _ => true

/-- The entries of a directory; a file has none. -/
def entries : FileNode → List (String × FileNode)
  | file _ => []
  | dir entries => entries

/-- The entry of a name. -/
def child? (node : FileNode) (name : String) : Option FileNode := node.entries.lookup name

/-- The node at a location below this one. -/
def find? (node : FileNode) : Location → Option FileNode
  | [] => some node
  | name :: rest => (node.child? name).bind (·.find? rest)

/-- Entries with the entry of `name` set to `node`: in place of the old one, or at the end. -/
def setEntry (entries : List (String × FileNode)) (name : String) (node : FileNode) :
    List (String × FileNode) :=
  match entries with
  | [] => [(name, node)]
  | (other, old) :: rest =>
    if other = name then (name, node) :: rest else (other, old) :: setEntry rest name node

/-- The node with `new` at a location below it. Directories on the way are made where none is. -/
def put (node : FileNode) (new : FileNode) : Location → FileNode
  | [] => new
  | name :: rest =>
    let child := (node.child? name).getD (dir [])
    dir (setEntry node.entries name (child.put new rest))

end FileNode

/-- A file system and the directory in which relative paths start. -/
structure FileTree where
  root : FileNode := .dir []
  workingDirectory : Location := []
deriving Inhabited

namespace FileTree

/-- The longest name of a file, in bytes. -/
def maxName : Nat := 255

/-- A path of this many bytes is too long as a whole. -/
def maxPath : Nat := 4096

/-- The components of a path between its slashes, empty ones included. -/
def components (path : String) : List String :=
  (path.toList.splitOn '/').map String.ofList

/-- One step from a directory to the component `name`. -/
def step (tree : FileTree) (location : Location) (name : String) : Except StorageError Location :=
  match tree.root.find? location with
  | none => .error .notFound
  | some node =>
    if !node.isDir then .error .notDirectory
    else if name.isEmpty || name == "." then .ok location
    else if name == ".." then .ok location.dropLast
    else if name.utf8ByteSize > maxName then .error .nameTooLong
    else if (node.child? name).isSome then .ok (location ++ [name])
    else .error .notFound

/-- Refuses what cannot be a path at all. -/
def checkPath (path : String) : Except StorageError Unit :=
  if path.toList.contains '\x00' then .error .nulInName
  else if path.isEmpty then .error .notFound
  else if path.utf8ByteSize ≥ maxPath then .error .nameTooLong
  else .ok ()

/-- Where a path starts: at the root when it begins with a slash. -/
def origin (tree : FileTree) (path : String) : Location :=
  if path.startsWith "/" then [] else tree.workingDirectory

/-- The location that a path leads to. -/
def locate (tree : FileTree) (path : String) : Except StorageError Location := do
  checkPath path
  (components path).foldlM tree.step (tree.origin path)

/-- The bytes of the file at a path. -/
def readBytes (tree : FileTree) (path : String) : Except StorageError ByteArray := do
  match tree.root.find? (← tree.locate path) with
  | some (.file bytes) => return bytes
  | some (.dir _) => throw .isDirectory
  | none => throw .notFound

/-- The text of the file at a path. -/
def readText (tree : FileTree) (path : String) : Except StorageError String := do
  match String.fromUTF8? (← tree.readBytes path) with
  | some text => return text
  | none => throw .notText

/-- The tree with `bytes` as the file at a location. -/
def write (tree : FileTree) (location : Location) (bytes : ByteArray) : FileTree :=
  { tree with root := tree.root.put (.file bytes) location }

/-- The location and the bytes of a file that is to be read and written; a file that is not there is
taken to be empty, if the directory for it is. A path that ends in a slash means a directory,
whether there is one or not. -/
def openOrCreate (tree : FileTree) (path : String) :
    Except StorageError (Location × ByteArray) := do
  checkPath path
  let names := ((components path).reverse.dropWhile (·.isEmpty)).reverse
  let name := names.getLast?.getD ""
  let parent ← names.dropLast.foldlM tree.step (tree.origin path)
  let node := (tree.root.find? parent).getD (.dir [])
  if !node.isDir then throw .notDirectory
  if path.endsWith "/" || name == "." || name == ".." then throw .isDirectory
  if name.utf8ByteSize > maxName then throw .nameTooLong
  match node.child? name with
  | some (.file bytes) => return (parent ++ [name], bytes)
  | some (.dir _) => throw .isDirectory
  | none => return (parent ++ [name], ByteArray.empty)

end FileTree

end FlashBench
