import FlashBench.Proofs.Storage.Listing
import FlashBench.Storage.Walk
import Mathlib.Data.List.Nodup

/-!
# What a walk comes past

A walk is a recursion through lists of entries, sorted on the way. What it yields is said here by
location alone: **a node is come past exactly when it is there and nothing on the way to it is left
out** (`FileTree.mem_walk_iff`), and it is come past once (`FileTree.nodup_walk`).
-/

namespace FlashBench

variable {skip : String → FileNode → Bool} {location : Location} {name : String} {placed : Placed}

theorem walkEntries_eq_map (skip : String → FileNode → Bool) (location : Location)
    (entries : List (String × FileNode)) :
    walkEntries skip location entries =
      entries.map fun entry => (entry.1, entry.2.walk skip (location ++ [entry.1]) entry.1) := by
  induction entries with
  | nil => simp [walkEntries]
  | cons entry rest ih => simp [walkEntries, ih]

/-- Sorting the entries of a directory loses none and adds none. -/
theorem inNameOrder_walkEntries_perm (skip : String → FileNode → Bool) (location : Location)
    (entries : List (String × FileNode)) :
    (inNameOrder (walkEntries skip location entries)).Perm
      (entries.flatMap fun entry => entry.2.walk skip (location ++ [entry.1]) entry.1) := by
  rw [inNameOrder, walkEntries_eq_map]
  exact ((List.mergeSort_perm _ _).flatMap_right _).trans (by rw [List.flatMap_map])

theorem mem_inNameOrder_walkEntries {entries : List (String × FileNode)} :
    placed ∈ inNameOrder (walkEntries skip location entries) ↔
      ∃ entry ∈ entries, placed ∈ entry.2.walk skip (location ++ [entry.1]) entry.1 := by
  rw [(inNameOrder_walkEntries_perm skip location entries).mem_iff, List.mem_flatMap]

namespace FileNode

variable {node : FileNode} {entries : List (String × FileNode)} {bytes : ByteArray}

theorem mem_walk_file : placed ∈ (file bytes).walk skip location name ↔
    skip name (file bytes) = false ∧ placed = ⟨location, file bytes⟩ := by
  rw [walk]
  cases skip name (file bytes) <;> simp

theorem mem_walk_dir : placed ∈ (dir entries).walk skip location name ↔
    skip name (dir entries) = false ∧ (placed = ⟨location, dir entries⟩ ∨
      ∃ entry ∈ entries, placed ∈ entry.2.walk skip (location ++ [entry.1]) entry.1) := by
  rw [walk]
  cases skip name (dir entries) <;> simp [mem_inNameOrder_walkEntries]

/-- Nothing is left out on the way from a node of the name `name` to a location below it, both ends
included. -/
def Kept (skip : String → FileNode → Bool) (node : FileNode) (name : String) (rest : Location) :
    Prop :=
  ∀ front way, front <+: rest → node.find? front = some way →
    skip (front.getLast?.getD name) way = false

theorem kept_nil_iff : node.Kept skip name [] ↔ skip name node = false := by
  constructor
  · intro h
    exact h [] node List.prefix_rfl rfl
  · intro h front way hfront hway
    obtain rfl := List.prefix_nil.mp hfront
    obtain rfl : node = way := Option.some.inj hway
    exact h

theorem kept_cons_iff {child : FileNode} {first : String} {rest : Location}
    (hchild : node.child? first = some child) :
    node.Kept skip name (first :: rest) ↔
      skip name node = false ∧ child.Kept skip first rest := by
  constructor
  · intro h
    refine ⟨h [] node List.nil_prefix rfl, fun front way hfront hway => ?_⟩
    have hbelow : node.find? (first :: front) = some way := by simp [find?, hchild, hway]
    have hkept := h (first :: front) way (List.cons_prefix_cons.mpr ⟨rfl, hfront⟩) hbelow
    simpa [List.getLast?_cons] using hkept
  · rintro ⟨hhere, hrest⟩ front way hfront hway
    cases front with
    | nil =>
        obtain rfl : node = way := Option.some.inj hway
        exact hhere
    | cons other front =>
        obtain ⟨rfl, hbelow⟩ := List.cons_prefix_cons.mp hfront
        rw [find?, hchild] at hway
        simpa [List.getLast?_cons] using hrest front way hbelow hway

/-- **What a walk comes past** below a node. -/
theorem mem_walk_iff (hdistinct : node.Distinct) :
    placed ∈ node.walk skip location name ↔
      ∃ rest, placed.location = location ++ rest ∧ node.find? rest = some placed.node ∧
        node.Kept skip name rest := by
  induction node using holds_from_entries generalizing location name with
  | file bytes =>
      rw [mem_walk_file]
      constructor
      · rintro ⟨hkept, rfl⟩
        exact ⟨[], by simp, rfl, kept_nil_iff.mpr hkept⟩
      · rintro ⟨rest, hlocation, hfound, hkept⟩
        cases rest with
        | nil =>
            obtain ⟨_, _⟩ := placed
            obtain rfl := Option.some.inj hfound
            exact ⟨kept_nil_iff.mp hkept, by simpa using hlocation⟩
        | cons first rest => cases hfound
  | dir entries ih =>
      rw [mem_walk_dir]
      constructor
      · rintro ⟨hkept, rfl | ⟨⟨first, child⟩, hentry, hbelow⟩⟩
        · exact ⟨[], by simp, rfl, kept_nil_iff.mpr hkept⟩
        · have hchild := hdistinct.mem_iff.mp hentry
          obtain ⟨rest, hlocation, hfound, hrest⟩ :=
            (ih _ hentry (hdistinct.of_child? hchild)).mp hbelow
          refine ⟨first :: rest, by simp [hlocation], by simp [find?, hchild, hfound], ?_⟩
          exact (kept_cons_iff hchild).mpr ⟨hkept, hrest⟩
      · rintro ⟨rest, hlocation, hfound, hkept⟩
        cases rest with
        | nil =>
            obtain ⟨_, _⟩ := placed
            obtain rfl := Option.some.inj hfound
            exact ⟨kept_nil_iff.mp hkept, .inl (by simpa using hlocation)⟩
        | cons first rest =>
            obtain ⟨child, hchild, hbelow⟩ := Option.bind_eq_some_iff.mp hfound
            obtain ⟨hhere, hrest⟩ := (kept_cons_iff hchild).mp hkept
            have hentry := hdistinct.mem_iff.mpr hchild
            refine ⟨hhere, .inr ⟨(first, child), hentry, ?_⟩⟩
            exact (ih _ hentry (hdistinct.of_child? hchild)).mpr
              ⟨rest, by simp [hlocation], hbelow, hrest⟩

theorem prefix_of_mem_walk (hdistinct : node.Distinct)
    (hmem : placed ∈ node.walk skip location name) : location <+: placed.location := by
  obtain ⟨rest, hlocation, -, -⟩ := (mem_walk_iff hdistinct).mp hmem
  exact ⟨rest, hlocation.symm⟩

/-- **A walk comes past each location once.** The walks below two entries part at their names. -/
theorem nodup_walk (hdistinct : node.Distinct) :
    ((node.walk skip location name).map (·.location)).Nodup := by
  induction node using holds_from_entries generalizing location name with
  | file bytes =>
      rw [walk]
      cases skip name (file bytes) <;> simp
  | dir entries ih =>
      have hnames : entries.Pairwise fun a b => a.1 ≠ b.1 :=
        List.pairwise_map.mp (distinct_dir_iff.mp hdistinct).1
      have hchild : ∀ entry ∈ entries, entry.2.Distinct := (distinct_dir_iff.mp hdistinct).2
      have hbelow : ∀ entry ∈ entries, ∀ placed ∈ entry.2.walk skip (location ++ [entry.1]) entry.1,
          location ++ [entry.1] <+: placed.location :=
        fun entry hentry _ hmem => prefix_of_mem_walk (hchild entry hentry) hmem
      rw [walk]
      cases skip name (dir entries) with
      | true => simp
      | false =>
          simp only [Bool.false_eq_true, if_false, List.map_cons, List.nodup_cons]
          constructor
          · intro hmem
            obtain ⟨placed, hplaced, hsame⟩ := List.mem_map.mp hmem
            obtain ⟨entry, hentry, hwalk⟩ := mem_inNameOrder_walkEntries.mp hplaced
            have hlength := (hbelow entry hentry placed hwalk).length_le
            rw [hsame, List.length_append] at hlength
            exact absurd hlength (Nat.not_succ_le_self _)
          · have hperm := inNameOrder_walkEntries_perm skip location entries
            rw [(hperm.map _).nodup_iff, List.map_flatMap, List.nodup_flatMap]
            refine ⟨fun entry hentry => ih entry hentry (hchild entry hentry), ?_⟩
            refine hnames.imp_of_mem fun {first second} hfirst hsecond hne => ?_
            intro other hother hother'
            obtain ⟨placed, hplaced, rfl⟩ := List.mem_map.mp hother
            obtain ⟨placed', hplaced', hsame⟩ := List.mem_map.mp hother'
            have hone := hbelow first hfirst placed hplaced
            have htwo := hbelow second hsecond placed' hplaced'
            rw [hsame] at htwo
            have hprefix := List.prefix_of_prefix_length_le hone htwo (by simp)
            exact hne (by simpa using hprefix.eq_of_length (by simp))

end FileNode

/-- **What a walk comes past:** the nodes at and below its start that nothing is left out on the way
to, the start and the node included. -/
theorem FileTree.mem_walk_iff {tree : FileTree} {root : Location}
    (hdistinct : tree.root.Distinct) :
    placed ∈ tree.walk skip root ↔
      root <+: placed.location ∧ tree.root.find? placed.location = some placed.node ∧
        ∀ front way, root <+: front → front <+: placed.location →
          tree.root.find? front = some way → skip (front.getLast?.getD "") way = false := by
  unfold FileTree.walk
  cases hroot : tree.root.find? root with
  | none =>
      simp only [List.not_mem_nil, false_iff]
      rintro ⟨⟨rest, hrest⟩, hfound, _⟩
      rw [← hrest, FileNode.find?_append, hroot] at hfound
      cases hfound
  | some node =>
      have hbelow : ∀ rest, tree.root.find? (root ++ rest) = node.find? rest := by
        intro rest
        simp [FileNode.find?_append, hroot]
      have hname : ∀ rest : Location, (root ++ rest).getLast?.getD "" =
          rest.getLast?.getD (root.getLast?.getD "") := by
        intro rest
        rw [List.getLast?_append]
        cases rest.getLast? <;> rfl
      simp only [FileNode.mem_walk_iff (hdistinct.of_find? hroot)]
      constructor
      · rintro ⟨rest, hlocation, hfound, hkept⟩
        refine ⟨⟨rest, hlocation.symm⟩, by rw [hlocation, hbelow, hfound], ?_⟩
        rintro front way ⟨middle, rfl⟩ hfront hway
        rw [hlocation, List.prefix_append_right_inj] at hfront
        rw [hbelow] at hway
        rw [hname]
        exact hkept middle way hfront hway
      · rintro ⟨⟨rest, hrest⟩, hfound, hkept⟩
        rw [← hrest, hbelow] at hfound
        refine ⟨rest, hrest.symm, hfound, fun front way hfront hway => ?_⟩
        rw [← hname]
        rw [← hbelow] at hway
        refine hkept (root ++ front) way (List.prefix_append _ _) ?_ hway
        rw [← hrest]
        exact (List.prefix_append_right_inj root).mpr hfront

theorem FileTree.nodup_walk {tree : FileTree} (hdistinct : tree.root.Distinct) (root : Location) :
    ((tree.walk skip root).map (·.location)).Nodup := by
  unfold FileTree.walk
  cases hroot : tree.root.find? root with
  | none => simp
  | some node => exact FileNode.nodup_walk (hdistinct.of_find? hroot)

end FlashBench
