import FlashBench.Toml.Printer
import FlashBench.Toml.SpelledMoment
import FlashBench.Upkeep.Task

/-!
# Inherited dependencies

The manifests of a workspace take every dependency from the workspace: each entry of their table
`dependencies` is a table in which `workspace` is true.
-/

namespace FlashBench.Upkeep

open Toml

/-- The name of a manifest. -/
def manifestName : String := "Cargo.toml"

/-- Names of files and directories that are not looked at. -/
def manifestSkips : List String := ["examples", "target", ".git"]

/-- The manifests of a project: all nodes with the name of a manifest, in the order of their
paths. -/
def findManifests (files : FileTree) (root : Location) : List Location :=
  ((files.walk (fun name _ => manifestSkips.contains name) root).filter
    (·.name == manifestName)).map (·.location)

/-- The dependency is inherited from the workspace. -/
def usesWorkspace (dependency : Value) : Bool :=
  match dependency.get? "workspace" with
  | some (.boolean b) => b
  | _ => false

/-- The entries of a document by key, each with whether it is an inherited dependency. -/
def inheritance (document : Value) : List (String × Bool) :=
  match document with
  | .table entries => (byKey entries).map fun (key, value) => (key, usesWorkspace value)
  | _ => []

/-- The line on a dependency that is not inherited. -/
def complaint (key : String) (value : Value) : Except Fault String := do
  let written ← value.printAlone
  return s!"  dependency {key} should be {key}.workspace = true but was {key} = {written}"

/-- The dependencies of a manifest by key, if it has a table of them. -/
def dependencies? (manifest : Value) : Option (List (String × Value)) :=
  match manifest.get? "dependencies" with
  | some (.table entries) => some (byKey entries)
  | _ => none

/-- The lines on one manifest: where it is, and a complaint for each dependency not inherited. -/
def manifestLines (path : String) (manifest : Value) : Except Fault (List String) :=
  match dependencies? manifest with
  | none => .ok []
  | some entries => do
    let refused := entries.filter fun (_, value) => !usesWorkspace value
    let complaints ← refused.mapM fun (key, value) => complaint key value
    return s!"Checking dependencies in {path}" :: complaints

/-- All dependencies of a manifest are inherited. -/
def isInherited (manifest : Value) : Bool :=
  ((dependencies? manifest).getD []).all fun (_, value) => usesWorkspace value

/-- Reads a manifest. -/
def readManifest (files : FileTree) (location : Location) : Except TaskError Value :=
  match files.root.find? location with
  | some (.file bytes) =>
    match String.fromUTF8? bytes with
    | none => .error (.storage .notText)
    | some text =>
      match parseValues text with
      | none => .error .notDocument
      | some manifest => .ok manifest
  | some (.dir _) => .error (.storage .isDirectory)
  | none => .error (.storage .notFound)

/-- Checks manifests in order; the first that cannot be read ends the check. `inherited` says
whether all was well so far. -/
def checkManifests (files : FileTree) (inherited : Bool) :
    List Location → Except Fault (List String × Except TaskError Unit)
  | [] => .ok ([], if inherited then .ok () else .error .dependenciesRefused)
  | location :: rest =>
    match readManifest files location with
    | .error error => .ok ([], .error error)
    | .ok manifest => do
      let lines ← manifestLines (pathOf location) manifest
      let (others, result) ← checkManifests files (inherited && isInherited manifest) rest
      return (lines ++ others, result)

/-- Checks all manifests of a project. A fault means that a complaint could not be written. -/
def checkDependencies (files : FileTree) (root : Location) : Except Fault TaskRun := do
  let (lines, result) ← checkManifests files true (findManifests files root)
  return { lines, result, files }

end FlashBench.Upkeep
