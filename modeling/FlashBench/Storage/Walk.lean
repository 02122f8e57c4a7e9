import FlashBench.Storage.FileTree

/-!
# Walking a file tree

The nodes at and below a directory, each with its location: a directory before what it holds, and
what it holds in ascending order of names. Nodes can be left out together with all that lies below
them.
-/

namespace FlashBench

/-- A node of a file tree and where it lies. -/
structure Placed where
  location : Location
  node : FileNode
deriving Inhabited

/-- The name of a placed node, empty for a root. -/
def Placed.name (placed : Placed) : String := placed.location.getLast?.getD ""

/-- The walks below the entries of a directory, in ascending order of the names of the entries. -/
def inNameOrder (walks : List (String × List Placed)) : List Placed :=
  (walks.mergeSort fun a b => a.1 ≤ b.1).flatMap (·.2)

mutual

/-- The nodes at and below a node whose location is `location` and whose name is `name`, without
those that `skip` names. -/
def FileNode.walk (skip : String → FileNode → Bool) (location : Location) (name : String) :
    FileNode → List Placed
  | .file bytes => if skip name (.file bytes) then [] else [⟨location, .file bytes⟩]
  | .dir entries =>
    if skip name (.dir entries) then []
    else ⟨location, .dir entries⟩ :: inNameOrder (walkEntries skip location entries)

/-- The walks below the entries of a directory, each under its name. -/
def walkEntries (skip : String → FileNode → Bool) (location : Location) :
    List (String × FileNode) → List (String × List Placed)
  | [] => []
  | (name, node) :: rest =>
    (name, node.walk skip (location ++ [name]) name) :: walkEntries skip location rest

end

/-- The nodes at and below a location; its own name counts for `skip` as any other. -/
def FileTree.walk (tree : FileTree) (skip : String → FileNode → Bool) (location : Location) :
    List Placed :=
  match tree.root.find? location with
  | some node => node.walk skip location (location.getLast?.getD "")
  | none => []

/-- A location as a path. -/
def pathOf (location : Location) : String := "/".intercalate location

end FlashBench
