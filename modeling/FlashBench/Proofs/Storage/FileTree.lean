import FlashBench.Proofs.Words
import FlashBench.Storage.FileTree
import Mathlib.Tactic.SplitIfs

/-!
# Writing a file and opening it again

A file that was written where a path leads to is what the same path finds afterwards
(`FileTree.openOrCreate_write`). The path is walked once more for that, so it matters that a file
does not get in the way of it: no name that was there before is gone after the write
(`find?_put_dir`). Nor does it get in the way of any other path, since no directory comes into being
where a file was to be (`FileTree.exists_openOrCreate_write`).
-/

namespace FlashBench

namespace FileNode

variable {node found : FileNode} {location : Location} {name : String}

theorem lookup_cons (name other : String) (node : FileNode) (rest : List (String × FileNode)) :
    ((name, node) :: rest).lookup other = if other = name then some node else rest.lookup other := by
  by_cases h : other = name
  · simp [h]
  · rw [if_neg h, List.lookup_cons, beq_false_of_ne h]

theorem lookup_setEntry (entries : List (String × FileNode)) (name other : String)
    (node : FileNode) :
    (setEntry entries name node).lookup other =
      if other = name then some node else entries.lookup other := by
  induction entries with
  | nil => rw [setEntry, lookup_cons]
  | cons entry rest ih =>
      obtain ⟨first, old⟩ := entry
      rw [setEntry]
      by_cases hfirst : first = name
      · rw [if_pos hfirst, lookup_cons, lookup_cons, hfirst]
        by_cases h : other = name
        · rw [if_pos h, if_pos h]
        · rw [if_neg h, if_neg h, if_neg h]
      · rw [if_neg hfirst, lookup_cons, lookup_cons, ih]
        by_cases h : other = first
        · rw [if_pos h, if_pos h, if_neg (h ▸ hfirst)]
        · rw [if_neg h, if_neg h]

/-- Below the first name of its location, `put` puts the rest; the other names stay. -/
theorem child?_put_cons (node new : FileNode) (name other : String) (rest : Location) :
    (node.put new (name :: rest)).child? other =
      if other = name then some (((node.child? name).getD (dir [])).put new rest)
      else node.child? other :=
  lookup_setEntry _ _ _ _

theorem find?_append (node : FileNode) (front back : Location) :
    node.find? (front ++ back) = (node.find? front).bind (·.find? back) := by
  induction front generalizing node with
  | nil => rfl
  | cons name rest ih =>
      rw [List.cons_append, find?, find?]
      cases node.child? name with
      | none => rfl
      | some child => exact ih child

theorem find?_put_self (node new : FileNode) (location : Location) :
    (node.put new location).find? location = some new := by
  induction location generalizing node with
  | nil => rfl
  | cons name rest ih =>
      rw [find?, child?_put_cons, if_pos rfl]
      exact ih _

theorem find?_concat {child : FileNode} (h : node.find? location = some found)
    (hchild : found.child? name = some child) : node.find? (location ++ [name]) = some child := by
  rw [find?_append, h]
  show (found.child? name).bind _ = _
  rw [hchild]
  rfl

/-- What a node lies in is there as well. -/
theorem isSome_find?_dropLast (h : (node.find? location).isSome = true) :
    (node.find? location.dropLast).isSome = true := by
  by_cases hnil : location = []
  · rw [hnil]
    rfl
  · rw [← List.dropLast_concat_getLast hnil, find?_append] at h
    cases habove : node.find? location.dropLast with
    | none =>
        rw [habove] at h
        cases h
    | some above => rfl

theorem isDir_of_child? (h : node.child? name = some found) : node.isDir = true := by
  cases node with
  | file bytes => cases h
  | dir entries => rfl

/-- **A directory stays one,** with all the names that it had, unless it is replaced itself. -/
theorem find?_put_dir (new : FileNode) {other : Location}
    (hplace : ∀ old, node.find? location = some old → old.isDir = false)
    (hfound : node.find? other = some found) (hdir : found.isDir = true) :
    ∃ after, (node.put new location).find? other = some after ∧ after.isDir = true ∧
      ∀ name, (found.child? name).isSome → (after.child? name).isSome := by
  induction location generalizing node other with
  | nil =>
      -- only a file is replaced as a whole, and there is nothing in a file
      have hfile : node.isDir = false := hplace node rfl
      cases other with
      | nil =>
          obtain rfl : node = found := Option.some.inj hfound
          rw [hfile] at hdir
          cases hdir
      | cons name rest =>
          obtain ⟨child, hchild, _⟩ := Option.bind_eq_some_iff.mp hfound
          rw [isDir_of_child? hchild] at hfile
          cases hfile
  | cons name rest ih =>
      cases other with
      | nil =>
          obtain rfl : node = found := Option.some.inj hfound
          refine ⟨_, rfl, rfl, fun later hlater => ?_⟩
          rw [child?_put_cons]
          by_cases h : later = name
          · rw [if_pos h]
            rfl
          · rwa [if_neg h]
      | cons later others =>
          obtain ⟨child, hchild, hbelow⟩ := Option.bind_eq_some_iff.mp hfound
          rw [find?, child?_put_cons]
          by_cases h : later = name
          · subst h
            rw [if_pos rfl, hchild]
            refine ih (fun old hold => hplace old ?_) hbelow
            rw [find?, hchild]
            exact hold
          · rw [if_neg h, hchild]
            exact ⟨found, hbelow, hdir, fun _ hsome => hsome⟩

/-- **No directory comes into being** when a file is put into one that is there. -/
theorem isDir_of_find?_put {bytes : ByteArray} {parent other : Location} {after : FileNode}
    (hparent : ∃ directory, node.find? parent = some directory ∧ directory.isDir = true)
    (hfound : (node.put (.file bytes) (parent ++ [name])).find? other = some after)
    (hdir : after.isDir = true) : ∃ old, node.find? other = some old ∧ old.isDir = true := by
  induction parent generalizing node other with
  | nil =>
      obtain ⟨directory, hhere, hdirectory⟩ := hparent
      obtain rfl : node = directory := Option.some.inj hhere
      cases other with
      | nil => exact ⟨node, rfl, hdirectory⟩
      | cons later rest =>
          rw [List.nil_append, find?, child?_put_cons] at hfound
          by_cases h : later = name
          · -- the file itself, and there is nothing below it
            rw [if_pos h] at hfound
            cases rest with
            | nil =>
                obtain rfl := Option.some.inj hfound
                cases hdir
            | cons => cases hfound
          · rw [if_neg h] at hfound
            exact ⟨after, hfound, hdir⟩
  | cons first parent ih =>
      obtain ⟨directory, hway, hdirectory⟩ := hparent
      obtain ⟨child, hchild, hbelow⟩ := Option.bind_eq_some_iff.mp hway
      cases other with
      | nil => exact ⟨node, rfl, isDir_of_child? hchild⟩
      | cons later rest =>
          rw [List.cons_append, find?, child?_put_cons] at hfound
          by_cases h : later = first
          · subst h
            rw [if_pos rfl, hchild] at hfound
            rw [find?, hchild]
            exact ih ⟨directory, hbelow, hdirectory⟩ hfound
          · rw [if_neg h] at hfound
            exact ⟨after, hfound, hdir⟩

end FileNode

namespace FileTree

variable {tree : FileTree} {path : String} {location first next : Location} {bytes : ByteArray}

/-! ## Walking a path -/

/-- Where a name leads from a directory. -/
inductive LeadsTo (node : FileNode) (first : Location) (name : String) : Location → Prop
  | here (hhere : (name.isEmpty || name == ".") = true) : LeadsTo node first name first
  | up (hhere : ¬ (name.isEmpty || name == ".") = true) (hup : (name == "..") = true) :
      LeadsTo node first name first.dropLast
  | below (hhere : ¬ (name.isEmpty || name == ".") = true) (hup : ¬ (name == "..") = true)
      (hshort : ¬ name.utf8ByteSize > maxName) (hchild : (node.child? name).isSome = true) :
      LeadsTo node first name (first ++ [name])

/-- All that a step can do, and when. -/
theorem step_eq_ok_iff {name : String} : tree.step first name = .ok next ↔
    ∃ node, tree.root.find? first = some node ∧ node.isDir = true ∧
      LeadsTo node first name next := by
  unfold step
  constructor
  · intro h
    cases hfound : tree.root.find? first with
    | none =>
        rw [hfound] at h
        cases h
    | some node =>
        simp only [hfound, Bool.not_eq_true'] at h
        split_ifs at h with hdir hhere hup hlong hchild <;> cases h
        · exact ⟨node, rfl, Bool.of_not_eq_false hdir, .here hhere⟩
        · exact ⟨node, rfl, Bool.of_not_eq_false hdir, .up hhere hup⟩
        · exact ⟨node, rfl, Bool.of_not_eq_false hdir, .below hhere hup hlong hchild⟩
  · rintro ⟨node, hfound, hdir, hleads⟩
    simp only [hfound, hdir, Bool.not_true, Bool.false_eq_true, if_false]
    cases hleads with
    | here hhere => rw [if_pos hhere]
    | up hhere hup => rw [if_neg hhere, if_pos hup]
    | below hhere hup hshort hchild =>
        rw [if_neg hhere, if_neg hup, if_neg hshort, if_pos hchild]

/-- A name leads on as long as it is there. -/
theorem LeadsTo.mono {node after : FileNode} {name : String} (h : LeadsTo node first name next)
    (hnames : ∀ name, (node.child? name).isSome → (after.child? name).isSome) :
    LeadsTo after first name next := by
  cases h with
  | here hhere => exact .here hhere
  | up hhere hup => exact .up hhere hup
  | below hhere hup hshort hchild => exact .below hhere hup hshort (hnames name hchild)

theorem walk_cons_eq_ok_iff {name : String} {rest : List String} :
    (name :: rest).foldlM tree.step first = .ok next ↔
      ∃ between, tree.step first name = .ok between ∧ rest.foldlM tree.step between = .ok next := by
  rw [List.foldlM_cons]
  exact Word.bind_eq_ok_iff

/-- A step leads to something that is there. -/
theorem isSome_of_step {name : String} (h : tree.step first name = .ok next) :
    (tree.root.find? next).isSome = true := by
  obtain ⟨node, hfound, _, hleads⟩ := step_eq_ok_iff.mp h
  have hthere : (tree.root.find? first).isSome = true := Option.isSome_of_eq_some hfound
  cases hleads with
  | here => exact hthere
  | up => exact FileNode.isSome_find?_dropLast hthere
  | below _ _ _ hchild =>
      obtain ⟨child, hchild⟩ := Option.isSome_iff_exists.mp hchild
      exact Option.isSome_of_eq_some (FileNode.find?_concat hfound hchild)

theorem isSome_of_walk {names : List String} (hfirst : (tree.root.find? first).isSome = true)
    (h : names.foldlM tree.step first = .ok next) : (tree.root.find? next).isSome = true := by
  induction names generalizing first with
  | nil => exact Except.ok.inj h ▸ hfirst
  | cons name rest ih =>
      obtain ⟨between, hstep, hrest⟩ := walk_cons_eq_ok_iff.mp h
      exact ih (isSome_of_step hstep) hrest

theorem step_write (hplace : ∀ old, tree.root.find? location = some old → old.isDir = false)
    {name : String} (h : tree.step first name = .ok next) :
    (tree.write location bytes).step first name = .ok next := by
  obtain ⟨node, hfound, hdir, hleads⟩ := step_eq_ok_iff.mp h
  obtain ⟨after, hafter, hafterDir, hnames⟩ :=
    FileNode.find?_put_dir (.file bytes) hplace hfound hdir
  exact step_eq_ok_iff.mpr ⟨after, hafter, hafterDir, hleads.mono hnames⟩

theorem walk_write (hplace : ∀ old, tree.root.find? location = some old → old.isDir = false)
    {names : List String} (h : names.foldlM tree.step first = .ok next) :
    names.foldlM (tree.write location bytes).step first = .ok next := by
  induction names generalizing first with
  | nil => exact h
  | cons name rest ih =>
      obtain ⟨between, hstep, hrest⟩ := walk_cons_eq_ok_iff.mp h
      exact walk_cons_eq_ok_iff.mpr ⟨between, step_write hplace hstep, ih hrest⟩

/-! ## Opening a file -/

/-- The names of a path, without empty ones at its end. -/
def properNames (path : String) : List String :=
  ((components path).reverse.dropWhile (·.isEmpty)).reverse

/-- The name of the file that a path is for. -/
def fileName (path : String) : String := (properNames path).getLast?.getD ""

/-- A file can be opened by the path, and `parent` is where its directory is. -/
structure Opens (tree : FileTree) (path : String) (parent : Location) : Prop where
  usable : checkPath path = .ok ()
  walk : (properNames path).dropLast.foldlM tree.step (tree.origin path) = .ok parent
  directory : ((tree.root.find? parent).getD (.dir [])).isDir = true
  file : ¬ (path.endsWith "/" || fileName path == "." || fileName path == "..") = true
  short : ¬ (fileName path).utf8ByteSize > maxName

theorem names_eq (path : String) :
    ((components path).reverse.dropWhile (·.isEmpty)).reverse = properNames path ∧
      (properNames path).getLast?.getD "" = fileName path :=
  ⟨rfl, rfl⟩

/-- Where the file lies whose directory is known, and what is in it. -/
theorem Opens.openOrCreate {parent : Location} (h : tree.Opens path parent) :
    tree.openOrCreate path =
      match ((tree.root.find? parent).getD (.dir [])).child? (fileName path) with
      | some (.file bytes) => .ok (parent ++ [fileName path], bytes)
      | some (.dir _) => .error .isDirectory
      | none => .ok (parent ++ [fileName path], ByteArray.empty) := by
  unfold FileTree.openOrCreate
  simp only [names_eq, h.usable, h.walk, h.directory, h.file, h.short, bind, Except.bind,
    Bool.not_true, Bool.false_eq_true, if_false]
  rfl

/-- Nothing but a directory of its name is in the way of a file. -/
theorem Opens.exists_openOrCreate {parent : Location} (h : tree.Opens path parent)
    (hfree : ∀ entries, ((tree.root.find? parent).getD (.dir [])).child? (fileName path) ≠
      some (.dir entries)) : ∃ found, tree.openOrCreate path = .ok found := by
  rw [h.openOrCreate]
  rcases hchild : ((tree.root.find? parent).getD (.dir [])).child? (fileName path) with
    _ | bytes | entries
  · exact ⟨_, rfl⟩
  · exact ⟨_, rfl⟩
  · exact absurd hchild (hfree entries)

/-- Each of the guards ends in an error. -/
theorem opens_of_ok {found : Location × ByteArray} (h : tree.openOrCreate path = .ok found) :
    ∃ parent, tree.Opens path parent := by
  unfold FileTree.openOrCreate at h
  cases husable : checkPath path with
  | error error =>
      rw [husable] at h
      cases h
  | ok =>
      cases hwalk : (properNames path).dropLast.foldlM tree.step (tree.origin path) with
      | error error =>
          simp only [names_eq, husable, hwalk, bind, Except.bind] at h
          cases h
      | ok parent =>
          simp only [names_eq, husable, hwalk, bind, Except.bind] at h
          have hdirectory : ((tree.root.find? parent).getD (.dir [])).isDir = true :=
            Classical.byContradiction fun hnot => by simp [hnot] at h
          have hfile :
              ¬ (path.endsWith "/" || fileName path == "." || fileName path == "..") = true :=
            fun hfile => by simp [hdirectory, hfile] at h
          have hshort : ¬ (fileName path).utf8ByteSize > maxName :=
            fun hlong => by simp [hdirectory, hfile, hlong] at h
          exact ⟨parent, husable, hwalk, hdirectory, hfile, hshort⟩

/-- A file that can be opened lies in the directory of its path, and is no directory. -/
theorem Opens.place {parent : Location} {old : ByteArray} (h : tree.Opens path parent)
    (hopen : tree.openOrCreate path = .ok (location, old)) :
    location = parent ++ [fileName path] ∧
      ∀ node, tree.root.find? location = some node → node.isDir = false := by
  rw [h.openOrCreate] at hopen
  have hlocation : location = parent ++ [fileName path] := by
    revert hopen
    rcases ((tree.root.find? parent).getD (.dir [])).child? (fileName path) with _ | _ | _ <;>
      intro hopen <;> cases hopen <;> rfl
  refine ⟨hlocation, fun node hnode => ?_⟩
  rw [hlocation, FileNode.find?_append] at hnode
  obtain ⟨directory, hdirectory, hnode⟩ := Option.bind_eq_some_iff.mp hnode
  obtain ⟨child, hname, hnode⟩ := Option.bind_eq_some_iff.mp hnode
  obtain rfl : child = node := Option.some.inj hnode
  rw [hdirectory, Option.getD_some, hname] at hopen
  cases child with
  | file bytes => rfl
  | dir entries => cases hopen

/-- **A file that was written** is what its path finds, with the bytes that were written. -/
theorem openOrCreate_write {old : ByteArray}
    (h : tree.openOrCreate path = .ok (location, old)) (bytes : ByteArray) :
    (tree.write location bytes).openOrCreate path = .ok (location, bytes) := by
  obtain ⟨parent, hopens⟩ := opens_of_ok h
  obtain ⟨rfl, hplace⟩ := hopens.place h
  -- the directory of the file holds it now, whether it was there before or not
  have hwritten := FileNode.find?_put_self tree.root (.file bytes) (parent ++ [fileName path])
  rw [FileNode.find?_append] at hwritten
  obtain ⟨directory, hdirectory, hfile⟩ := Option.bind_eq_some_iff.mp hwritten
  obtain ⟨child, hname, hfile⟩ := Option.bind_eq_some_iff.mp hfile
  obtain rfl : child = .file bytes := Option.some.inj hfile
  have hparent : (tree.write (parent ++ [fileName path]) bytes).root.find? parent =
      some directory := hdirectory
  have hagain : (tree.write (parent ++ [fileName path]) bytes).Opens path parent :=
    ⟨hopens.usable, walk_write hplace hopens.walk,
      by rw [hparent]; exact FileNode.isDir_of_child? hname, hopens.file, hopens.short⟩
  rw [hagain.openOrCreate, hparent, Option.getD_some, hname]

/-! ## Opening other files -/

/-- A directory is there. -/
def Directory (tree : FileTree) (location : Location) : Prop :=
  ∃ node, tree.root.find? location = some node ∧ node.isDir = true

/-- The working directory of the tree is there. -/
def Rooted (tree : FileTree) : Prop := tree.Directory tree.workingDirectory

/-- The directory of a file that can be opened is there. -/
theorem Opens.parent {parent : Location} (h : tree.Opens path parent) (hrooted : tree.Rooted) :
    tree.Directory parent := by
  have horigin : (tree.root.find? (tree.origin path)).isSome = true := by
    unfold origin
    split
    · rfl
    · obtain ⟨node, hfound, _⟩ := hrooted
      exact Option.isSome_iff_exists.mpr ⟨node, hfound⟩
  obtain ⟨node, hfound⟩ := Option.isSome_iff_exists.mp (isSome_of_walk horigin h.walk)
  have hdirectory := h.directory
  rw [hfound] at hdirectory
  exact ⟨node, hfound, hdirectory⟩

/-- A directory is not lost by writing a file that could be opened. -/
theorem Directory.write {other : Location} {old : ByteArray} (h : tree.Directory other)
    (hopen : tree.openOrCreate path = .ok (location, old)) (bytes : ByteArray) :
    (tree.write location bytes).Directory other := by
  obtain ⟨parent, hopens⟩ := opens_of_ok hopen
  obtain ⟨node, hfound, hdir⟩ := h
  obtain ⟨after, hafter, hafterDir, _⟩ :=
    FileNode.find?_put_dir (.file bytes) (hopens.place hopen).2 hfound hdir
  exact ⟨after, hafter, hafterDir⟩

/-- **Writing a file** keeps no other from being opened. -/
theorem exists_openOrCreate_write {other : String} {old : ByteArray} (hrooted : tree.Rooted)
    (hopen : tree.openOrCreate path = .ok (location, old))
    (hother : ∃ found, tree.openOrCreate other = .ok found) (bytes : ByteArray) :
    ∃ found, (tree.write location bytes).openOrCreate other = .ok found := by
  obtain ⟨found, hother⟩ := hother
  obtain ⟨parent, hopens⟩ := opens_of_ok hopen
  obtain ⟨later, hlater⟩ := opens_of_ok hother
  obtain ⟨rfl, hplace⟩ := hopens.place hopen
  obtain ⟨node, hnode, hdir⟩ := (hlater.parent hrooted).write hopen bytes
  have hagain : (tree.write (parent ++ [fileName path]) bytes).Opens other later :=
    ⟨hlater.usable, walk_write hplace hlater.walk, by rw [hnode]; exact hdir, hlater.file,
      hlater.short⟩
  refine hagain.exists_openOrCreate fun entries hchild => ?_
  rw [hnode, Option.getD_some] at hchild
  -- it was a directory before, so it could not have been opened
  obtain ⟨before, hbefore, hwas⟩ := FileNode.isDir_of_find?_put (hopens.parent hrooted)
    (FileNode.find?_concat hnode hchild) rfl
  have hfile := (hlater.place hother).2 before ((hlater.place hother).1 ▸ hbefore)
  rw [hwas] at hfile
  cases hfile

/-- The file of a path can be opened, and goes on to be whatever other files are written. -/
structure Ready (tree : FileTree) (path : String) : Prop where
  rooted : tree.Rooted
  opens : ∃ found, tree.openOrCreate path = .ok found

theorem Ready.write {other : String} {old : ByteArray} (h : tree.Ready other)
    (hopen : tree.openOrCreate path = .ok (location, old)) (bytes : ByteArray) :
    (tree.write location bytes).Ready other :=
  ⟨Directory.write h.rooted hopen bytes, exists_openOrCreate_write h.rooted hopen h.opens bytes⟩

end FileTree

end FlashBench
