import FlashBench.Part.Controller
import FlashBench.Storage.FileTree

/-!
# Bringing up a part

A controller is made from a layout and, for a part that keeps its contents, from a backing image.
The layout is judged first; only then is the image touched.
-/

namespace FlashBench

/-- Why a controller cannot be made. -/
inductive CreationError where
  | storage (error : StorageError)
  | geometry (error : GeometryError)
deriving DecidableEq, Repr, Inhabited

namespace CreationError

/-- The cause on its own. -/
def cause : CreationError → String
  | storage error => error.message
  | geometry error => error.message

/-- The error as a sentence. -/
def message : CreationError → String
  | storage error => s!"flash backing file: {error.message}"
  | geometry error => s!"flash layout: {error.message}"

end CreationError

/-- A controller and the place of its backing image. -/
structure OpenedPart where
  ctrl : Controller
  location : Option Location

namespace Controller

/-- Reads and prepares the backing image at `path`. -/
def openImage (capacity : Nat) (eraseValue : UInt8) (path : String) :
    Attempt CreationError FileTree (Location × ByteArray) := do
  let files ← (Act.state : Act FileTree FileTree)
  match files.openOrCreate path with
  | .error error => throw (.storage error)
  | .ok (location, old) =>
    if old.size < capacity then
      Attempt.note .debug s!"initializing flash backing file {path}"
    let image := preparedImage capacity eraseValue old
    (Act.change fun files => files.write location image : Act FileTree Unit)
    return (location, image)

/-- Makes a controller, with the backing image at a path if one is given. -/
def bringUp (layout : FlashLayout) (timing : FlashTiming) (backing : Option String) :
    Attempt CreationError FileTree OpenedPart := do
  match ← Attempt.checked layout.validate with
  | .error error => throw (.geometry error)
  | .ok () =>
    let capacity ← Attempt.checked layout.capacity
    let sectorMap ← Attempt.checked layout.sectorMap
    match backing with
    | none =>
      return { ctrl := create layout sectorMap capacity timing none, location := none }
    | some path =>
      let (location, image) ← openImage capacity layout.eraseValue path
      return {
        ctrl := create layout sectorMap capacity timing (some image)
        location := some location }

/-- Puts the image of a controller back into the file tree. -/
def saveImage (ctrl : Controller) (location : Option Location) (files : FileTree) : FileTree :=
  match location, ctrl.image with
  | some location, some image => files.write location image
  | _, _ => files

end Controller

end FlashBench
