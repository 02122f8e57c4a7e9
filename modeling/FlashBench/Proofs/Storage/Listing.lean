import FlashBench.Proofs.Storage.FileTree

/-!
# What is seen in a file tree

The **listing** of a location is what a look at it shows: the bytes of a file, or the names in a
directory.

* **`listing?_put`**: writing a file that is there changes its own listing and no other. No name
  comes or goes with it, in the directory of the file or above.
* **`Distinct`**: no directory holds a name twice, so an entry is what its name leads to
  (`Distinct.mem_iff`). Writing a file keeps it so (`Distinct.put`).
-/

namespace FlashBench.FileNode

variable {node child found : FileNode} {location : Location} {name : String}
  {entries : List (String × FileNode)} {bytes : ByteArray}

/-- A property of all nodes, from files up to the directories that hold them. -/
@[elab_as_elim]
theorem holds_from_entries {motive : FileNode → Prop} (file : ∀ bytes, motive (file bytes))
    (dir : ∀ entries, (∀ entry ∈ entries, motive entry.2) → motive (dir entries)) :
    ∀ node, motive node
  | .file bytes => file bytes
  | .dir entries => dir entries fun entry _ => holds_from_entries file dir entry.2
termination_by node => sizeOf node
decreasing_by
  rename_i hmem
  have hentry := List.sizeOf_lt_of_mem hmem
  obtain ⟨_, _⟩ := entry
  simp only [FileNode.dir.sizeOf_spec, Prod.mk.sizeOf_spec] at hentry ⊢
  omega

/-- What is seen of a node: the bytes of a file, the names in a directory. -/
def listing : FileNode → ByteArray ⊕ List String
  | file bytes => .inl bytes
  | dir entries => .inr (entries.map Prod.fst)

/-- What is seen at a location below a node, if anything is there. -/
def listing? (node : FileNode) (location : Location) : Option (ByteArray ⊕ List String) :=
  (node.find? location).map listing

theorem listing?_eq_file_iff :
    node.listing? location = some (.inl bytes) ↔ node.find? location = some (file bytes) := by
  unfold listing?
  constructor
  · intro h
    obtain ⟨found, hfound, hlisting⟩ := Option.map_eq_some_iff.mp h
    cases found with
    | file others =>
        obtain rfl := Sum.inl.inj hlisting
        exact hfound
    | dir entries => cases hlisting
  · intro h
    rw [h]
    rfl

theorem listing?_append (hfound : node.find? location = some found) (rest : Location) :
    node.listing? (location ++ rest) = found.listing? rest := by
  simp [listing?, find?_append, hfound]

/-- What lies above a node is a directory. -/
theorem exists_dir_above {front : Location} (hfound : node.find? location = some found)
    (hfront : front <+: location) (hne : front ≠ location) :
    ∃ above, node.find? front = some above ∧ above.isDir = true := by
  obtain ⟨rest, rfl⟩ := hfront
  rw [find?_append] at hfound
  obtain ⟨above, habove, hbelow⟩ := Option.bind_eq_some_iff.mp hfound
  refine ⟨above, habove, ?_⟩
  cases rest with
  | nil => simp at hne
  | cons name rest =>
      obtain ⟨child, hchild, _⟩ := Option.bind_eq_some_iff.mp hbelow
      exact isDir_of_child? hchild

/-! ## Writing a file that is there -/

/-- Setting an entry that is there changes no name. -/
theorem map_fst_setEntry (new : FileNode) (h : (entries.lookup name).isSome = true) :
    (setEntry entries name new).map Prod.fst = entries.map Prod.fst := by
  induction entries with
  | nil => simp at h
  | cons entry rest ih =>
      obtain ⟨first, old⟩ := entry
      rw [setEntry]
      by_cases hfirst : first = name
      · simp [hfirst]
      · rw [lookup_cons, if_neg (Ne.symm hfirst)] at h
        simp [hfirst, ih h]

/-- **Writing a file that is there** changes its own listing and no other. -/
theorem listing?_put {old : ByteArray} (hold : node.find? location = some (file old))
    (bytes : ByteArray) (other : Location) :
    (node.put (file bytes) location).listing? other =
      if other = location then some (.inl bytes) else node.listing? other := by
  induction location generalizing node other with
  | nil =>
      obtain rfl : node = file old := Option.some.inj hold
      cases other with
      | nil => rfl
      | cons later others => rfl
  | cons name rest ih =>
      obtain ⟨child, hchild, hbelow⟩ := Option.bind_eq_some_iff.mp hold
      cases other with
      | nil =>
          cases node with
          | file bytes => cases hchild
          | dir entries =>
              have hthere : (entries.lookup name).isSome = true :=
                Option.isSome_of_eq_some hchild
              show some (Sum.inr ((setEntry entries name _).map Prod.fst)) = _
              rw [map_fst_setEntry _ hthere]
              rfl
      | cons later others =>
          simp only [listing?, find?, child?_put_cons, List.cons.injEq]
          by_cases h : later = name
          · subst h
            simpa [hchild, listing?] using ih hbelow others
          · simp [h]

/-! ## Names that are there once -/

/-- No directory at or below the node holds a name twice. -/
def Distinct (node : FileNode) : Prop :=
  ∀ location names, node.listing? location = some (.inr names) → names.Nodup

@[simp]
theorem distinct_file (bytes : ByteArray) : (file bytes).Distinct := by
  intro location names h
  cases location with
  | nil => cases h
  | cons name rest => cases h

theorem Distinct.of_find? (h : node.Distinct) (hfound : node.find? location = some found) :
    found.Distinct := by
  intro rest names hnames
  rw [← listing?_append hfound] at hnames
  exact h _ names hnames

theorem Distinct.of_child? (h : node.Distinct) (hchild : node.child? name = some child) :
    child.Distinct :=
  h.of_find? (show node.find? [name] = some child by simp [find?, hchild])

theorem Distinct.put {old : ByteArray} (h : node.Distinct)
    (hold : node.find? location = some (file old)) (bytes : ByteArray) :
    (node.put (file bytes) location).Distinct := by
  intro other names hnames
  rw [listing?_put hold] at hnames
  split at hnames
  · cases hnames
  · exact h other names hnames

/-- **An entry is what its name leads to.** -/
theorem Distinct.mem_iff (h : (dir entries).Distinct) :
    (name, child) ∈ entries ↔ (dir entries).child? name = some child := by
  have hnames : (entries.map Prod.fst).Nodup := h [] _ rfl
  show _ ↔ entries.lookup name = some child
  rw [List.lookup_eq_some_iff]
  constructor
  · intro hmem
    obtain ⟨front, back, rfl⟩ := List.append_of_mem hmem
    refine ⟨front, back, rfl, fun entry hentry => ?_⟩
    -- an entry of the same name in front would be a second one
    rw [List.map_append, List.nodup_append] at hnames
    exact bne_iff_ne.mpr fun hsame =>
      hnames.2.2 entry.1 (List.mem_map_of_mem hentry) name (by simp) hsame.symm
  · rintro ⟨front, back, rfl, -⟩
    simp

theorem distinct_dir_iff : (dir entries).Distinct ↔
    (entries.map Prod.fst).Nodup ∧ ∀ entry ∈ entries, entry.2.Distinct := by
  constructor
  · intro h
    exact ⟨h [] _ rfl, fun entry hentry => h.of_child? (h.mem_iff.mp hentry)⟩
  · rintro ⟨hnames, hentries⟩ location names h
    cases location with
    | nil =>
        obtain rfl := Sum.inr.inj (Option.some.inj h)
        exact hnames
    | cons name rest =>
        cases hchild : (dir entries).child? name with
        | none => simp [listing?, find?, hchild] at h
        | some child =>
            obtain ⟨front, back, rfl, -⟩ := List.lookup_eq_some_iff.mp hchild
            refine hentries (name, child) (by simp) rest names ?_
            simpa [listing?, find?, hchild] using h

end FlashBench.FileNode
