import FlashBench.Storage.Walk

/-!
# Upkeep tasks

A task looks at a project, prints lines, may change files, and ends well or with an error.
-/

namespace FlashBench.Upkeep

/-- Why a task failed. -/
inductive TaskError where
  /-- A file could not be read while headers were looked for. -/
  | unreadable (path : String) (error : StorageError)
  /-- Files lack the header. -/
  | headersMissing (count : Nat)
  /-- A manifest could not be read. -/
  | storage (error : StorageError)
  /-- A manifest is no document. -/
  | notDocument
  /-- Dependencies are not inherited from the workspace. -/
  | dependenciesRefused
deriving DecidableEq, Repr, Inhabited

/-- The error as a sentence. -/
def TaskError.message : TaskError → String
  | unreadable path error => s!"reading {path}: {error.message}"
  | headersMissing count =>
      s!"{count} files lack the license header; run \"cargo xtask header-fix\""
  | storage error => error.message
  | notDocument => "not a TOML document"
  | dependenciesRefused => "Dependency check failed"

/-- What a task printed, how it ended, and the files after it. -/
structure TaskRun where
  lines : List String
  result : Except TaskError Unit
  files : FileTree
deriving Inhabited

end FlashBench.Upkeep
