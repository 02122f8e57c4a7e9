import FlashBench.Toml.Value

/-!
# Putting tables together

A document names the same table in several places: by headers, by headers of its subtables, and by
dotted keys. Every key is defined **once**. A table that only a path went through may still get
its own header, and is then listed where that header stands; one that has a header, or that dotted
keys made, may not.
-/

namespace FlashBench.Toml

/-- How a table came about. -/
inductive Origin where
  /-- A header or braces name it. -/
  | named
  /-- A header of a table below it went through it. -/
  | passed
  /-- A dotted key went through it. -/
  | dotted
deriving DecidableEq, Repr, Inhabited

/-- What a key stands for while a document is read. -/
inductive Item where
  | value (value : Value)
  | table (origin : Origin) (entries : List (String × Item))
  /-- Tables under one repeated header, the latest one first. -/
  | tables (members : List (List (String × Item)))
deriving Inhabited

/-- Keys and what they stand for, in the order of their definition. -/
abbrev Entries := List (String × Item)

namespace Entries

/-- The entries with `item` for a key: in place of the old one, or at the end. -/
def set (entries : Entries) (key : String) (item : Item) : Entries :=
  match entries with
  | [] => [(key, item)]
  | (other, old) :: rest =>
    if other = key then (key, item) :: rest else (other, old) :: set rest key item

/-- The entries without a key. -/
def remove (entries : Entries) (key : String) : Entries := entries.filter (·.1 ≠ key)

/-- Changes the table at the end of a path. `through` is how tables that the path makes on its way
come about; dotted keys do not go through a table that has a header or braces. -/
def update (through : Origin) (origin : Origin) (entries : Entries) (path : List String)
    (f : Origin → Entries → Option Entries) : Option Entries :=
  match path with
  | [] => f origin entries
  | key :: rest =>
    match entries.lookup key with
    | none =>
      return entries.set key (.table through (← update through through [] rest f))
    | some (.table origin inner) =>
      if through = .dotted ∧ origin = .named then none
      else return entries.set key (.table origin (← update through origin inner rest f))
    | some (.tables (latest :: earlier)) =>
      return entries.set key (.tables ((← update through .named latest rest f) :: earlier))
    | some (.tables []) => none
    | some (.value _) => none

/-- Defines a key that may be dotted. -/
def define (entries : Entries) (path : List String) (value : Value) : Option Entries := do
  let key ← path.getLast?
  let parents := path.dropLast
  entries.update .dotted .named parents fun origin inner =>
    if !parents.isEmpty && origin != .dotted then none
    else if (inner.lookup key).isSome then none
    else some (inner.set key (.value value))

end Entries

mutual

/-- The value that a finished item is. -/
def Item.toValue : Item → Value
  | .value value => value
  | .table _ entries => .table (entriesToValues entries)
  | .tables members => .array (membersToValues members).reverse

/-- The values of finished entries. -/
def entriesToValues : List (String × Item) → List (String × Value)
  | [] => []
  | (key, item) :: rest => (key, item.toValue) :: entriesToValues rest

/-- The values of finished tables. -/
def membersToValues : List (List (String × Item)) → List Value
  | [] => []
  | entries :: rest => .table (entriesToValues entries) :: membersToValues rest

end

/-- A table between braces. -/
def inlineTable (pairs : List (List String × Value)) : Option Value := do
  let entries ← pairs.foldlM (fun (entries : Entries) (path, value) => entries.define path value) []
  return .table (entriesToValues entries)

/-- A line of a document that is not empty. -/
inductive Line where
  | pair (key : List String) (value : Value)
  | header (path : List String)
  | repeatedHeader (path : List String)

/-- A document that has been read up to some line: what lies before the current header, and the
table under that header. -/
structure Draft where
  root : Entries := []
  current : Entries := []
  /-- The path of the current header; none before the first one. -/
  path : List String := []
  repeated : Bool := false

namespace Draft

/-- Adds the table under the current header to the document. -/
def close (draft : Draft) : Option Entries :=
  match draft.path.getLast? with
  | none => some draft.current
  | some key =>
    draft.root.update .passed .named draft.path.dropLast fun _ inner =>
      if draft.repeated then
        match inner.lookup key with
        | some (.tables members) => some (inner.set key (.tables (draft.current :: members)))
        | none => some (inner.set key (.tables [draft.current]))
        | _ => none
      else if (inner.lookup key).isSome then none
      else some (inner.set key (.table .named draft.current))

/-- What the table under a new header holds already. -/
def heldUnder (inner : Entries) (key : String) : Option Entries :=
  match inner.lookup key with
  | none => some []
  | some (.table .passed entries) => some entries
  | _ => none

/-- The table at the end of a path; an empty one if there is none yet. -/
def tableAt (entries : Entries) : List String → Option Entries
  | [] => some entries
  | key :: rest =>
    match entries.lookup key with
    | none => some []
    | some (.table _ inner) => tableAt inner rest
    | some (.tables (latest :: _)) => tableAt latest rest
    | _ => none

/-- Starts the table of a header. -/
def openTable (draft : Draft) (path : List String) : Option Draft := do
  let root ← draft.close
  let key ← path.getLast?
  let current ← heldUnder (← tableAt root path.dropLast) key
  let root ← root.update .passed .named path.dropLast fun _ inner => some (Entries.remove inner key)
  return { root, current, path }

/-- Starts another table of a repeated header. -/
def openMember (draft : Draft) (path : List String) : Option Draft := do
  let root ← draft.close
  let key ← path.getLast?
  match (← tableAt root path.dropLast).lookup key with
  | none | some (.tables _) => return { root, path, repeated := true }
  | _ => none

/-- Takes up one line. -/
def add (draft : Draft) : Line → Option Draft
  | .pair key value => return { draft with current := ← draft.current.define key value }
  | .header path => draft.openTable path
  | .repeatedHeader path => draft.openMember path

end Draft

/-- The document of some lines. -/
def document (lines : List Line) : Option Value := do
  let draft ← lines.foldlM Draft.add {}
  return .table (entriesToValues (← draft.close))

end FlashBench.Toml
